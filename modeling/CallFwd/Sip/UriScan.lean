/-
# The parameter states of `parse_uri` as one

`parse_uri` has a hundred states, but ninety of them differ only in the parameter they spell.  For
the parts of the URI they are one `phase`.  `core` is what the parts depend on; what a byte does to
it in any of these states depends on the byte and the password mark alone (`step_params`).
-/
import CallFwd.Sip.ParseUri

namespace CallFwd.Sip.ParseUri

/-! ## 1. Phases -/

/-- What is being read. -/
inductive Phase
  | init
  | user
  | password
  | passwordAlpha
  | host
  | hostP
  | host6P
  | host6End
  | port
  | params
  | headers
deriving DecidableEq, Repr

/-- Every state that is not listed is somewhere in the parameters. -/
def phase : State → Phase
  | .URI_INIT => .init
  | .URI_USER => .user
  | .URI_PASSWORD => .password
  | .URI_PASSWORD_ALPHA => .passwordAlpha
  | .URI_HOST => .host
  | .URI_HOST_P => .hostP
  | .URI_HOST6_P => .host6P
  | .URI_HOST6_END => .host6End
  | .URI_PORT => .port
  | .URI_HEADERS => .headers
  | _ => .params

/-- The locals and members that have to do with the parts of the URI. -/
structure Core where
  s : ℕ
  pass : Option ℕ
  port_no : UInt32
  found_user : Bool
  error_headers : Bool
  user : Str
  passwd : Str
  host : Str
  port : Str
  params : Str
  headers : Str
  portNo : UInt16
  type : UriType

def core (sc : Scan) : Core where
  s := sc.s
  pass := sc.pass
  port_no := sc.port_no
  found_user := sc.found_user
  error_headers := sc.error_headers
  user := sc.uri.user
  passwd := sc.uri.passwd
  host := sc.uri.host
  port := sc.uri.port
  params := sc.uri.params
  headers := sc.uri.headers
  portNo := sc.uri.port_no
  type := sc.uri.type

section Macros

variable {p : ℕ} {c : Char} {sc sc' : Scan}

@[simp] theorem core_param_set : core (param_set p sc) = core sc := rfl

@[simp] theorem core_fin_set (q : Param) : core (fin_set p sc q) = core sc := rfl

@[simp] theorem state_param_set : (param_set p sc).state = sc.state := rfl

@[simp] theorem state_fin_set (q : Param) : (fin_set p sc q).state = sc.state := rfl

/-- What `u_param_set` stores is none of the parts. -/
@[simp] theorem core_u_param_set : core (u_param_set p sc) = core sc := by
  unfold u_param_set
  split
  · rfl
  · rfl

@[simp] theorem state_u_param_set : (u_param_set p sc).state = sc.state := by
  unfold u_param_set
  split
  · rfl
  · rfl

/-! ## 2. The parameters as one state -/

/-- What a byte does in the parameters. -/
inductive ParamStep (p : ℕ) (c : Char) (sc sc' : Scan) : Prop
  /-- An `@`: all of it was the user. -/
  | atUser (hc : c = '@') (hfound : sc.found_user = false) (hstate : sc'.state = .URI_HOST)
      (hcore : (still_at_user p sc).map core = .ok (core sc'))
  | semicolon (hc : c = ';') (hphase : phase sc'.state = .params)
      (hcore : core sc' = core (noPass sc))
  | question (hc : c = '?') (hstate : sc'.state = .URI_HEADERS)
      (hcore : core sc' = core (question_case p sc))
  | colon (hc : c = ':') (hphase : phase sc'.state = .params)
      (hcore : core sc' = core (mightBePass p sc))
  | other (hc : c ∉ ['@', ';', '?', ':']) (hphase : phase sc'.state = .params)
      (hcore : core sc' = core sc)

/-- A step that stores something first, or sets a pointer, is still one. -/
theorem ParamStep.of_core {sc₁ : Scan} (hcore : core sc₁ = core sc)
    (h : ParamStep p c sc₁ sc') : ParamStep p c sc sc' := by
  have hs := congrArg Core.s hcore
  have hpass := congrArg Core.pass hcore
  have hfound := congrArg Core.found_user hcore
  simp only [core] at hs hpass hfound
  have hnoPass : core (noPass sc₁) = core (noPass sc) := by
    unfold noPass
    rw [hpass]
    split
    · simp_all [core]
    · exact hcore
  cases h with
  | atUser hc hf hstate hsc =>
    refine .atUser hc (hfound ▸ hf) hstate ?_
    rw [← hsc]
    simp_all [still_at_user, core, Except.map]
  | semicolon hc hphase hsc => exact .semicolon hc hphase (hsc.trans hnoPass)
  | question hc hstate hsc =>
    refine .question hc hstate (hsc.trans ?_)
    unfold question_case noPass
    simp only [hpass]
    split
    · simp_all [core]
    · simp_all [core]
  | colon hc hphase hsc =>
    refine .colon hc hphase (hsc.trans ?_)
    unfold mightBePass
    rw [hfound, hpass]
    split
    · exact hcore
    · split
      · exact hnoPass
      · simp_all [core]
  | other hc hphase hsc => exact .other hc hphase (hsc.trans hcore)

/-- `common_cases`, whatever it stores. -/
theorem common_cases_step {store : Scan → Scan} {colon : State} {rest : Except Failure Scan}
    (hstore : ∀ sc, core (store sc) = core sc ∧ (store sc).state = sc.state)
    (hcolon : phase colon = .params)
    (hrest : c ∉ ['@', ';', '?', ':'] → rest = .ok sc' → ParamStep p c sc sc')
    (h : common_cases p c sc store colon rest = .ok sc') : ParamStep p c sc sc' := by
  unfold common_cases at h
  by_cases hat : c = '@'
  · rw [if_pos hat] at h
    have hcore : (still_at_user p sc).map core = .ok (core sc') := by rw [h]; rfl
    unfold still_at_user at h
    split at h
    · cases h
    · rename_i hfound
      cases h
      exact .atUser hat (by simpa using hfound) rfl hcore
  by_cases hsemi : c = ';'
  · rw [if_neg hat, if_pos hsemi] at h
    cases h
    obtain ⟨hcore, hstate⟩ := hstore (semicolon_case sc)
    exact .semicolon hsemi (by rw [hstate]; rfl) hcore
  by_cases hq : c = '?'
  · rw [if_neg hat, if_neg hsemi, if_pos hq] at h
    cases h
    obtain ⟨hcore, hstate⟩ := hstore (question_case p sc)
    refine .question hq ?_ hcore
    rw [hstate, question_case, noPass]
    split
    · rfl
    · rfl
  by_cases hcol : c = ':'
  · rw [if_neg hat, if_neg hsemi, if_neg hq, if_pos hcol] at h
    cases h
    exact .colon hcol hcolon rfl
  · rw [if_neg hat, if_neg hsemi, if_neg hq, if_neg hcol] at h
    exact hrest (by simp [hat, hsemi, hq, hcol]) h

/-- `param_common_cases` and the two below differ in what they store, which is never in the `core`.
-/
theorem param_common_cases_step {rest : Except Failure Scan}
    (hrest : c ∉ ['@', ';', '?', ':'] → rest = .ok sc' → ParamStep p c sc sc')
    (h : param_common_cases p c sc rest = .ok sc') : ParamStep p c sc sc' :=
  common_cases_step (fun _ => ⟨rfl, rfl⟩) rfl hrest h

theorem u_param_common_cases_step {rest : Except Failure Scan}
    (hrest : c ∉ ['@', ';', '?', ':'] → rest = .ok sc' → ParamStep p c sc sc')
    (h : u_param_common_cases p c sc rest = .ok sc') : ParamStep p c sc sc' :=
  common_cases_step (fun _ => ⟨core_u_param_set, state_u_param_set⟩) rfl hrest h

theorem value_common_cases_step {rest : Except Failure Scan}
    (hrest : c ∉ ['@', ';', '?', ':'] → rest = .ok sc' → ParamStep p c sc sc')
    (h : value_common_cases p c sc rest = .ok sc') : ParamStep p c sc sc' :=
  common_cases_step (fun _ => ⟨core_param_set, state_param_set⟩) rfl hrest h

/-- The end of a transport name ends the parameter; the rest is the generic case. -/
theorem transport_fin_step {proto : Proto} (h : transport_fin proto p c sc = .ok sc') :
    ParamStep p c sc sc' := by
  refine common_cases_step ?_ ?_ ?_ h
  · intro sc
    exact ⟨rfl, rfl⟩
  · rfl
  · intro hc hrest
    cases hrest
    exact .other hc rfl rfl

end Macros

/-! ## 3. The table -/

/-- The states that a list of letters leads to are parameter states, and no letter is a separator.-/
def lettersOk (cases : List (Char × Char × State)) : Bool :=
  cases.all fun k => phase k.2.2 == .params &&
    !(['@', ';', '?', ':'].contains k.1) && !(['@', ';', '?', ':'].contains k.2.1)

/-- So it is with a row. -/
def Row.ok : Row → Bool
  | .param_switch cases => lettersOk cases
  | .param_switch1 c1 new => phase new == .params && !(['@', ';', '?', ':'].contains c1)
  | .param_xswitch1 c1 new => phase new == .params && !(['@', ';', '?', ':'].contains c1)
  | .value_switch cases => lettersOk cases
  | .transport_fin _ => true
  | .fin _ next => phase next == .params
  | .eq _ => true

/-- The table never leads out of the parameters. -/
theorem row_ok {st : State} {r : Row} (h : row st = some r) : r.ok = true := by
  cases st <;> cases h <;> rfl

/-- A letter of the table is no separator, so the four cases of a separator are left to the macros.
-/
theorem letter_step {c : Char} {cases : List (Char × Char × State)} {new : State}
    (hok : lettersOk cases = true) (h : letter c cases = some new) :
    phase new = .params ∧ c ∉ ['@', ';', '?', ':'] := by
  obtain ⟨k, hfind, rfl⟩ := Option.map_eq_some_iff.mp h
  have hk := List.all_eq_true.mp hok k (List.mem_of_find?_eq_some hfind)
  have hc := List.find?_some hfind
  simp only [Bool.and_eq_true, beq_iff_eq, Bool.not_eq_true', List.contains_eq_mem,
    decide_eq_false_iff_not] at hk
  simp only [decide_eq_true_eq] at hc
  obtain ⟨⟨hphase, hlow⟩, hup⟩ := hk
  refine ⟨hphase, ?_⟩
  rcases hc with rfl | rfl
  · exact hlow
  · exact hup

/-- Any other letter leads to a state of the parameters too. -/
theorem letter_getD {c : Char} {cases : List (Char × Char × State)} {st : State}
    (hok : lettersOk cases = true) (hst : phase st = .params) :
    phase ((letter c cases).getD st) = .params := by
  cases h : letter c cases with
  | none => exact hst
  | some new => exact (letter_step hok h).1

/-- **A row of the table** keeps the rule: its letters lead on within the parameters, and the rest
is done by one of the macros. -/
theorem Row.run_step {r : Row} {p : ℕ} {c : Char} {sc sc' : Scan} (hok : r.ok = true)
    (h : r.run p c sc = .ok sc') : ParamStep p c sc sc' := by
  have hgeneric : ∀ st, phase st = .params → c ∉ ['@', ';', '?', ':'] →
      (.ok { sc with state := st } : Except Failure Scan) = .ok sc' → ParamStep p c sc sc' := by
    intro st hst hc hsc
    cases hsc
    exact .other hc hst rfl
  cases r with
  | param_switch cases =>
    simp only [Row.run] at h
    split at h
    · rename_i new hnew
      obtain ⟨hphase, hc⟩ := letter_step hok hnew
      exact hgeneric new hphase hc h
    · exact u_param_common_cases_step (hgeneric .URI_PARAM_P rfl) h
  | value_switch cases =>
    simp only [Row.run] at h
    split at h
    · rename_i new hnew
      obtain ⟨hphase, hc⟩ := letter_step hok hnew
      exact hgeneric new hphase hc h
    · exact value_common_cases_step (hgeneric .URI_VAL_P rfl) h
  | param_switch1 c1 new =>
    simp only [Row.ok, Bool.and_eq_true, beq_iff_eq, Bool.not_eq_true', List.contains_eq_mem,
      decide_eq_false_iff_not] at hok
    simp only [Row.run] at h
    split at h
    · rename_i hc
      exact hgeneric new hok.1 (hc ▸ hok.2) h
    · exact param_common_cases_step (hgeneric .URI_PARAM_P rfl) h
  | param_xswitch1 c1 new =>
    simp only [Row.ok, Bool.and_eq_true, beq_iff_eq, Bool.not_eq_true', List.contains_eq_mem,
      decide_eq_false_iff_not] at hok
    simp only [Row.run] at h
    split at h
    · rename_i hc
      exact hgeneric new hok.1 (hc ▸ hok.2) h
    · cases h
  | transport_fin proto => exact transport_fin_step h
  | fin q next =>
    simp only [Row.ok, beq_iff_eq] at hok
    have hparam : core (if q = .pn_provider then { sc with param := some q } else sc) = core sc := by
      split
      · rfl
      · rfl
    simp only [Row.run] at h
    generalize (if q = .pn_provider then { sc with param := some q } else sc) = sc₁ at h hparam
    refine .of_core hparam ?_
    split at h
    · rename_i hc
      cases h
      exact .other (by simp [hc]) hok rfl
    · refine common_cases_step ?_ rfl ?_ h
      · intro sc
        exact ⟨rfl, rfl⟩
      · intro hc hsc
        cases hsc
        exact .other hc rfl rfl
  | eq q =>
    simp only [Row.run] at h
    refine @ParamStep.of_core p c sc sc' { sc with param := some q, param_val := some q } rfl ?_
    refine param_common_cases_step ?_ h
    intro hc hsc
    cases hsc
    exact .other hc rfl rfl

/-- **One byte in the parameters**, in any of their states. -/
theorem step_params {p : ℕ} {c : Char} {sc sc' : Scan} (hphase : phase sc.state = .params)
    (h : step p c sc = .ok sc') : ParamStep p c sc sc' := by
  have hparams := hphase
  unfold step at h
  split at h
  -- the states of the other phases
  all_goals try (rename_i hst; rw [hst] at hphase; cases hphase)
  case h_10 hst =>
    refine param_common_cases_step ?_ h
    intro hc hsc
    cases hsc
    exact .other hc (letter_getD rfl rfl) rfl
  case h_11 hst =>
    refine u_param_common_cases_step ?_ h
    intro hc hsc
    split at hsc
    · cases hsc
      exact .other hc rfl rfl
    · cases hsc
      exact .other hc hparams rfl
  case h_12 hst =>
    refine u_param_common_cases_step ?_ h
    intro hc hsc
    cases hsc
    exact .other hc hparams rfl
  case h_13 hst =>
    refine @ParamStep.of_core p c sc sc' { sc with
      param := some .transport
      param_val := some .transport
      uri := { sc.uri with proto := .PROTO_OTHER } } rfl ?_
    refine param_common_cases_step ?_ h
    intro hc hsc
    cases hsc
    exact .other hc (letter_getD rfl rfl) rfl
  case h_14 hst =>
    refine value_common_cases_step ?_ h
    intro hc hsc
    cases hsc
    exact .other hc hparams rfl
  case h_15 hst =>
    split at h
    · rename_i hc
      cases h
      refine .other ?_ rfl rfl
      rcases hc with rfl | rfl
      · decide
      · decide
    · exact @ParamStep.of_core p c sc sc' { sc with state := .VW_S_FIN } rfl (transport_fin_step h)
  case h_17 =>
    split at h
    · rename_i r hr
      exact Row.run_step (row_ok hr) h
    · cases h

end CallFwd.Sip.ParseUri
