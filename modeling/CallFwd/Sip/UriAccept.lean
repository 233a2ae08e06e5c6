/-
# URIs that are accepted

The other direction.  A URI with a user, a host and perhaps a port is accepted, when the user is a
name and parameters that do not begin with `p` (`parse_uri_complete`): the states that spell `pn-…`
are the only ones in which a parameter can be refused.  So the parts survive printing and parsing.

The proof runs the parser over the text a stretch at a time.
-/
import CallFwd.Sip.UriText
import Mathlib.Data.Bool.AllAny

namespace CallFwd.Sip.ParseUri

open Lib

/-! ## 1. Runs -/

/-- The scan of a stretch succeeds, and leaves a state with `Q`. -/
def Runs (p : ℕ) (xs : Text) (sc : Scan) (Q : Scan → Prop) : Prop :=
  ∃ sc', scan p xs sc = .ok sc' ∧ Q sc'

section Runs

variable {p : ℕ} {c : Char} {xs ys : Text} {sc : Scan} {Q R : Scan → Prop}

theorem Runs.nil (h : Q sc) : Runs p [] sc Q := ⟨sc, rfl, h⟩

theorem Runs.cons {sc' : Scan} (hstep : step p c sc = .ok sc') (h : Runs (p + 1) xs sc' Q) :
    Runs p (c :: xs) sc Q := by
  obtain ⟨sc'', hscan, hq⟩ := h
  refine ⟨sc'', ?_, hq⟩
  rw [scan, hstep]
  exact hscan

theorem Runs.append (h : Runs p xs sc Q) (h' : ∀ sc', Q sc' → Runs (p + xs.length) ys sc' R) :
    Runs p (xs ++ ys) sc R := by
  induction xs generalizing p sc with
  | nil =>
    obtain ⟨sc', hscan, hq⟩ := h
    cases hscan
    exact h' sc hq
  | cons c xs ih =>
    obtain ⟨sc', hscan, hq⟩ := h
    obtain ⟨sc₁, hstep, hrest⟩ := bind_eq_ok.mp hscan
    refine .cons hstep (ih ⟨sc', hrest, hq⟩ ?_)
    intro sc₂ hq₂
    have hrun := h' sc₂ hq₂
    rw [List.length_cons, Nat.add_comm xs.length, ← Nat.add_assoc] at hrun
    exact hrun

/-- A stretch over which nothing changes but the state within `Q`. -/
theorem Runs.stay (hstep : ∀ p sc, Q sc → ∀ c ∈ xs, ∃ sc', step p c sc = .ok sc' ∧ Q sc')
    (h : Q sc) : Runs p xs sc Q := by
  induction xs generalizing p sc with
  | nil => exact .nil h
  | cons c xs ih =>
    obtain ⟨sc', hc, hq⟩ := hstep p sc h c List.mem_cons_self
    exact .cons hc (ih (fun p sc hq d hd => hstep p sc hq d (List.mem_cons_of_mem c hd)) hq)

end Runs

/-! ## 2. Parameters that cannot be refused -/

/-- The states behind a `p` that begins a parameter. -/
def spellsPn : State → Bool
  | .PN_P | .PN_N | .PN_dash | .PN_P2 | .PN_PR
  | .PN1_O | .PN1_V | .PN1_I | .PN1_D | .PN1_E | .PN1_FIN | .PN1_eq
  | .PN2_I | .PN2_D | .PN2_eq
  | .PN3_A | .PN3_R | .PN3_A2 | .PN3_M | .PN3_eq
  | .PN4_U | .PN4_R | .PN4_R2 | .PN4_eq => true
  | _ => false

/-- The states a row leads to by a letter of its own. -/
def Row.targets : Row → List State
  | .param_switch cases => cases.map fun k => k.2.2
  | .param_switch1 _ new => [new]
  | .param_xswitch1 _ new => [new]
  | .value_switch cases => cases.map fun k => k.2.2
  | .transport_fin _ => []
  | .fin _ next => [next]
  | .eq _ => []

/-- A row that never refuses, stays clear of these states, and begins no parameter. -/
def Row.calm (r : Row) : Bool :=
  r.targets.all (fun st => !spellsPn st && st != .URI_PARAM) &&
    match r with
    | .param_xswitch1 _ _ => false
    | _ => true

/-- Only these states lead to each other, and only they have a row that refuses. -/
theorem row_calm {st : State} {r : Row} (h : row st = some r) (hst : spellsPn st = false) :
    r.calm = true := by
  cases st <;> cases h <;> first | rfl | cases hst

/-- A parameter state that is not in the table is written out in `step`. -/
theorem row_eq_none {st : State} (h : row st = none) :
    phase st ≠ .params ∨
      st ∈ [.URI_PARAM, .URI_PARAM_P, .URI_PARAM_VAL_P, .PT_eq, .URI_VAL_P, .VW_S] := by
  cases st <;> first | cases h; done | exact .inr (by decide) | exact .inl (by decide)

/-- While no user is found and no colon was seen. -/
structure Calm (sc : Scan) : Prop where
  phase : phase sc.state = .params
  noPn : spellsPn sc.state = false
  found : sc.found_user = false
  pass : sc.pass = none

section Calm

variable {p : ℕ} {c : Char} {sc : Scan}

/-- The byte `c` is accepted; only a `;` begins a parameter. -/
def Accepted (c : Char) (x : Except Failure Scan) : Prop :=
  ∃ sc', x = .ok sc' ∧ spellsPn sc'.state = false ∧ (sc'.state = .URI_PARAM → c = ';')

theorem common_cases_accepted {store : Scan → Scan} {colon : State} {rest : Except Failure Scan}
    (hc : c ∉ [':', '?']) (hat : c = '@' → sc.found_user = false)
    (hstore : ∀ sc, (store sc).state = sc.state) (hrest : Accepted c rest) :
    Accepted c (common_cases p c sc store colon rest) := by
  simp only [List.mem_cons, List.not_mem_nil, or_false, not_or] at hc
  unfold common_cases
  split
  · rename_i heq
    rw [still_at_user, hat heq]
    exact ⟨_, rfl, rfl, fun heq => by cases heq⟩
  split
  · rename_i hsemi
    refine ⟨_, rfl, ?_, fun _ => hsemi⟩
    rw [hstore]
    rfl
  · rw [if_neg hc.2, if_neg hc.1]
    exact hrest

theorem letter_targets {cases : List (Char × Char × State)} {new : State}
    (h : letter c cases = some new) : new ∈ cases.map fun k => k.2.2 := by
  obtain ⟨k, hfind, rfl⟩ := Option.map_eq_some_iff.mp h
  exact List.mem_map_of_mem (List.mem_of_find?_eq_some hfind)

theorem Row.run_accepted {r : Row} (hc : c ∉ [':', '?'])
    (hat : c = '@' → sc.found_user = false) (hcalm : r.calm = true) :
    Accepted c (r.run p c sc) := by
  have htargets : ∀ st ∈ r.targets, spellsPn st = false ∧ (st = .URI_PARAM → c = ';') := by
    intro st hst
    have hall := List.all_eq_true.mp (Bool.and_elim_left hcalm) st hst
    simp only [Bool.and_eq_true, Bool.not_eq_true', bne_iff_ne] at hall
    exact ⟨hall.1, fun h => absurd h hall.2⟩
  cases r with
  | param_switch cases =>
    simp only [Row.run]
    split
    · rename_i new hnew
      exact ⟨_, rfl, htargets new (letter_targets hnew)⟩
    · exact common_cases_accepted hc hat (fun _ => state_u_param_set) ⟨_, rfl, rfl, fun heq => by cases heq⟩
  | value_switch cases =>
    simp only [Row.run]
    split
    · rename_i new hnew
      exact ⟨_, rfl, htargets new (letter_targets hnew)⟩
    · exact common_cases_accepted hc hat (fun _ => state_param_set) ⟨_, rfl, rfl, fun heq => by cases heq⟩
  | param_switch1 c1 new =>
    simp only [Row.run]
    split
    · exact ⟨_, rfl, htargets new List.mem_cons_self⟩
    · exact common_cases_accepted hc hat (fun _ => rfl) ⟨_, rfl, rfl, fun heq => by cases heq⟩
  | param_xswitch1 c1 new => cases Bool.and_elim_right hcalm
  | transport_fin proto =>
    simp only [Row.run]
    exact common_cases_accepted hc hat (fun _ => rfl) ⟨_, rfl, rfl, fun heq => by cases heq⟩
  | fin q next =>
    simp only [Row.run]
    split
    · exact ⟨_, rfl, htargets next List.mem_cons_self⟩
    · refine common_cases_accepted hc ?_ (fun _ => rfl) ⟨_, rfl, rfl, fun heq => by cases heq⟩
      split
      · exact hat
      · exact hat
  | eq q =>
    simp only [Row.run]
    exact common_cases_accepted hc hat (fun _ => rfl) ⟨_, rfl, rfl, fun heq => by cases heq⟩

theorem letter_getD_cases {cases : List (Char × Char × State)} {st : State} {Q : State → Prop}
    (h : ∀ k ∈ cases, c = k.1 ∨ c = k.2.1 → Q k.2.2) (hst : Q st) :
    Q ((letter c cases).getD st) := by
  unfold letter
  cases hfind : cases.find? fun k => c = k.1 ∨ c = k.2.1 with
  | none => exact hst
  | some k =>
    refine h k (List.mem_of_find?_eq_some hfind) ?_
    simpa using List.find?_some hfind

theorem step_accepted (hphase : phase sc.state = .params) (hpn : spellsPn sc.state = false)
    (hc : c ∉ [':', '?']) (hat : c = '@' → sc.found_user = false)
    (hfirst : sc.state = .URI_PARAM → c ∉ ['p', 'P']) : Accepted c (step p c sc) := by
  have hparams := hphase
  unfold step
  split
  -- the states of the other phases
  all_goals try (rename_i hst; rw [hst] at hphase; cases hphase)
  case h_10 hst =>
    have hp := hfirst hst
    simp only [List.mem_cons, List.not_mem_nil, or_false, not_or] at hp
    refine common_cases_accepted hc hat (fun _ => rfl) ⟨_, rfl, ?_⟩
    refine @letter_getD_cases c _ _ (fun st => spellsPn st = false ∧ (st = .URI_PARAM → c = ';')) ?_
      ⟨rfl, nofun⟩
    intro k hk hck
    simp only [List.mem_cons, List.not_mem_nil, or_false] at hk
    rcases hk with rfl | rfl | rfl | rfl | rfl | rfl | rfl
    all_goals first | exact ⟨rfl, nofun⟩ | exact absurd hck (not_or.mpr hp)
  case h_11 hst =>
    refine common_cases_accepted hc hat (fun _ => state_u_param_set) ?_
    split
    · exact ⟨_, rfl, rfl, nofun⟩
    · exact ⟨_, rfl, hpn, by rw [hst]; nofun⟩
  case h_12 hst =>
    exact common_cases_accepted hc hat (fun _ => state_u_param_set) ⟨_, rfl, hpn, by rw [hst]; nofun⟩
  case h_13 hst =>
    refine common_cases_accepted hc hat (fun _ => rfl) ⟨_, rfl, ?_⟩
    refine @letter_getD_cases c _ _ (fun st => spellsPn st = false ∧ (st = .URI_PARAM → c = ';')) ?_
      ⟨rfl, nofun⟩
    intro k hk hck
    simp only [List.mem_cons, List.not_mem_nil, or_false] at hk
    rcases hk with rfl | rfl | rfl | rfl
    all_goals exact ⟨rfl, nofun⟩
  case h_14 hst =>
    exact common_cases_accepted hc hat (fun _ => state_param_set) ⟨_, rfl, hpn, by rw [hst]; nofun⟩
  case h_15 hst =>
    split
    · exact ⟨_, rfl, rfl, nofun⟩
    · exact common_cases_accepted hc hat (fun _ => rfl) ⟨_, rfl, rfl, nofun⟩
  case h_17 =>
    split
    · rename_i r hr
      exact Row.run_accepted hc hat (row_calm hr hpn)
    · rename_i hnone
      rcases row_eq_none hnone with hst | hst
      · exact absurd hparams hst
      · simp only [List.mem_cons, List.not_mem_nil, or_false] at hst
        simp_all

/-- **A byte of a parameter is accepted**, if it is no separator and does not begin `pn-…`. -/
theorem calm_step (h : Calm sc) (hc : c ∉ ['@', ':', '?'])
    (hfirst : sc.state = .URI_PARAM → c ∉ ['p', 'P']) :
    ∃ sc', step p c sc = .ok sc' ∧ Calm sc' ∧ (sc'.state = .URI_PARAM → c = ';') := by
  simp only [List.mem_cons, List.not_mem_nil, or_false, not_or] at hc
  obtain ⟨sc', hstep, hpn, hparam⟩ := step_accepted h.phase h.noPn
    (by simp [hc]) (fun hat => absurd hat hc.1) hfirst
  have hcore : core sc' = core sc → phase sc'.state = .params → Calm sc' := by
    intro hcore hphase
    exact ⟨hphase, hpn, (congrArg Core.found_user hcore).trans h.found,
      (congrArg Core.pass hcore).trans h.pass⟩
  refine ⟨sc', hstep, ?_, hparam⟩
  cases step_params h.phase hstep with
  | atUser hat => exact absurd hat hc.1
  | colon hcol => exact absurd hcol hc.2.1
  | question hq => exact absurd hq hc.2.2
  | semicolon hsemi hphase hnew =>
    refine hcore (hnew.trans ?_) hphase
    rw [noPass, h.pass]
    rfl
  | other hother hphase hnew => exact hcore hnew hphase

/-- So is the `@` behind it. -/
theorem calm_at (h : Calm sc) :
    ∃ sc', step p '@' sc = .ok sc' ∧ sc'.state = .URI_HOST ∧ sc'.found_user = true := by
  obtain ⟨sc', hstep, -⟩ := @step_accepted p '@' sc h.phase h.noPn (by decide)
    (fun _ => h.found) (fun _ => by decide)
  refine ⟨sc', hstep, ?_⟩
  cases step_params h.phase hstep with
  | atUser hat hfound hstate hcore =>
    refine ⟨hstate, ?_⟩
    rw [still_at_user, hfound] at hcore
    exact (congrArg Core.found_user (Except.ok.inj hcore)).symm
  | colon hcol => cases hcol
  | question hq => cases hq
  | semicolon hsemi => cases hsemi
  | other hother => exact absurd (by simp) hother

end Calm

/-! ## 3. The stretches of a URI -/

/-- The text of a user: a name and its parameters. -/
structure UserText where
  name : Text
  params : List Text
  name_ne : name ≠ []
  plain : ∀ c ∈ name, c ∉ ['[', ']', '@', ':', ';', '?']
  params_plain : ∀ ps ∈ params, ∀ c ∈ ps, c ∉ ['@', ':', ';', '?']
  params_head : ∀ ps ∈ params, ∀ c, ps.head? = some c → c ∉ ['p', 'P']

def UserText.print (u : UserText) : Text := u.name ++ u.params.flatMap (';' :: ·)

section Stretches

variable {p k : ℕ} {type : UriType} {sc : Scan}

theorem Runs.mono {xs : Text} {Q R : Scan → Prop} (h : Runs p xs sc Q) (hqr : ∀ sc, Q sc → R sc) :
    Runs p xs sc R := by
  obtain ⟨sc', hscan, hq⟩ := h
  exact ⟨sc', hscan, hqr sc' hq⟩

/-- Behind a name, or behind parameters that may belong to it. -/
def InUser (sc : Scan) : Prop :=
  (sc.state = .URI_USER ∧ sc.found_user = false ∧ sc.pass = none) ∨ Calm sc

theorem runs_name {name : Text} (hne : name ≠ [])
    (hplain : ∀ c ∈ name, c ∉ ['[', ']', '@', ':', ';', '?']) :
    Runs k name (.init type k) fun sc =>
      sc.state = .URI_USER ∧ sc.found_user = false ∧ sc.pass = none := by
  obtain ⟨c, cs, rfl⟩ := List.exists_cons_of_ne_nil hne
  have hc := hplain c List.mem_cons_self
  simp only [List.mem_cons, List.not_mem_nil, or_false, not_or] at hc
  have hfirst : step k c (.init type k) = .ok { Scan.init type k with state := .URI_USER } := by
    simp [step, Scan.init, hc]
  refine .cons hfirst (.stay ?_ ⟨rfl, rfl, rfl⟩)
  rintro q sc ⟨hst, hfound, hpass⟩ d hd
  have hd' := hplain d (List.mem_cons_of_mem c hd)
  simp only [List.mem_cons, List.not_mem_nil, or_false, not_or] at hd'
  refine ⟨sc, ?_, hst, hfound, hpass⟩
  simp [step, hst, hd']

/-- One parameter. -/
theorem runs_param {ps : Text} (h : InUser sc) (hplain : ∀ c ∈ ps, c ∉ ['@', ':', ';', '?'])
    (hhead : ∀ c, ps.head? = some c → c ∉ ['p', 'P']) : Runs p (';' :: ps) sc Calm := by
  obtain ⟨sc₁, hstep, hcalm⟩ : ∃ sc', step p ';' sc = .ok sc' ∧ Calm sc' := by
    rcases h with ⟨hst, hfound, hpass⟩ | hcalm
    · refine ⟨check_host_end p sc .URI_PARAM, ?_, ⟨rfl, rfl, hfound, hpass⟩⟩
      simp [step, hst]
    · obtain ⟨sc', hstep, hcalm', -⟩ := @calm_step p ';' sc hcalm (by decide)
        (fun _ => by decide)
      exact ⟨sc', hstep, hcalm'⟩
  refine .cons hstep ?_
  cases ps with
  | nil => exact .nil hcalm
  | cons c cs =>
    have hsep : ∀ d ∈ c :: cs, d ∉ ['@', ':', '?'] ∧ d ≠ ';' := by
      intro d hd
      have hd' := hplain d hd
      simp only [List.mem_cons, List.not_mem_nil, or_false, not_or] at hd' ⊢
      exact ⟨⟨hd'.1, hd'.2.1, hd'.2.2.2⟩, hd'.2.2.1⟩
    obtain ⟨sc₂, hstep₂, hcalm₂, hparam⟩ := calm_step hcalm
      (hsep c List.mem_cons_self).1 (fun _ => hhead c rfl)
    refine .cons hstep₂ ?_
    have hrun : Runs (p + 1 + 1) cs sc₂ fun sc => Calm sc ∧ sc.state ≠ .URI_PARAM := by
      refine .stay ?_ ⟨hcalm₂, fun hst => (hsep c List.mem_cons_self).2 (hparam hst)⟩
      rintro q sc ⟨hcalm, hne⟩ d hd
      have hd' := hsep d (List.mem_cons_of_mem c hd)
      obtain ⟨sc', hstep, hcalm', hparam'⟩ := calm_step hcalm hd'.1
        (fun hst => absurd hst hne)
      exact ⟨sc', hstep, hcalm', fun hst => hd'.2 (hparam' hst)⟩
    exact hrun.mono fun sc h => h.1

theorem runs_params {params : List Text} (h : InUser sc)
    (hplain : ∀ ps ∈ params, ∀ c ∈ ps, c ∉ ['@', ':', ';', '?'])
    (hhead : ∀ ps ∈ params, ∀ c, ps.head? = some c → c ∉ ['p', 'P']) :
    Runs p (params.flatMap (';' :: ·)) sc InUser := by
  induction params generalizing p sc with
  | nil => exact .nil h
  | cons ps params ih =>
    rw [List.flatMap_cons]
    refine .append (runs_param h (hplain ps List.mem_cons_self) (hhead ps List.mem_cons_self)) ?_
    intro sc' hcalm
    exact ih (.inr hcalm) (fun qs hqs => hplain qs (List.mem_cons_of_mem ps hqs))
      (fun qs hqs => hhead qs (List.mem_cons_of_mem ps hqs))

theorem runs_user (u : UserText) : Runs k u.print (.init type k) InUser := by
  refine .append (runs_name u.name_ne u.plain) ?_
  intro sc h
  exact runs_params (.inl h) u.params_plain u.params_head

/-- The `@`. -/
theorem runs_at (h : InUser sc) :
    Runs p ['@'] sc fun sc => sc.state = .URI_HOST ∧ sc.found_user = true := by
  rcases h with ⟨hst, -, -⟩ | hcalm
  · have hstep : step p '@' sc = .ok { sc with
        uri := { sc.uri with user := span (some sc.s) p }
        state := .URI_HOST, found_user := true, s := p + 1 } := by simp [step, hst]
    exact .cons hstep (.nil ⟨rfl, rfl⟩)
  · obtain ⟨sc', hstep, hst, hfound⟩ := calm_at hcalm
    exact .cons hstep (.nil ⟨hst, hfound⟩)

/-- The host, behind a user. -/
theorem runs_host {host : Text} (hhost : UriText.Host True host) (hst : sc.state = .URI_HOST) :
    Runs p host sc fun sc => sc.state = .URI_HOST_P ∨ sc.state = .URI_HOST6_END := by
  cases hhost with
  | name c cs hc hcs hstrict =>
    have hsep : ∀ d ∈ c :: cs, d ∉ [':', ';', '?', '&', '@'] := by
      intro d hd
      have h1 := hstrict trivial d hd
      have h2 : d ≠ '@' ∧ d ≠ ':' := by
        rcases List.mem_cons.mp hd with rfl | hd
        · simp only [List.mem_cons, List.not_mem_nil, or_false, not_or] at hc
          exact ⟨hc.2.1, hc.2.2⟩
        · have hd' := hcs d hd
          simp only [List.mem_cons, List.not_mem_nil, or_false, not_or] at hd'
          exact ⟨hd'.1, hd'.2.1⟩
      simp only [List.mem_cons, List.not_mem_nil, or_false, not_or] at h1 ⊢
      exact ⟨h2.2, h1.2.1, h1.2.2, h1.1, h2.1⟩
    have hfirst := hsep c List.mem_cons_self
    simp only [List.mem_cons, List.not_mem_nil, or_false, not_or] at hfirst hc
    have hstep : step p c sc = .ok { sc with state := .URI_HOST_P } := by
      simp [step, hst, hfirst, hc]
    refine .cons hstep ?_
    have hrun : Runs (p + 1) cs { sc with state := .URI_HOST_P }
        fun sc => sc.state = .URI_HOST_P := by
      refine .stay ?_ rfl
      intro q sc hst d hd
      have hd' := hsep d (List.mem_cons_of_mem c hd)
      simp only [List.mem_cons, List.not_mem_nil, or_false, not_or] at hd'
      exact ⟨sc, by simp [step, hst, hd'], hst⟩
    exact hrun.mono fun _ => .inl
  | ip6 cs hcs =>
    have hstep : step p '[' sc = .ok { sc with state := .URI_HOST6_P } := by simp [step, hst]
    refine .cons hstep ?_
    have hrun : Runs (p + 1) cs { sc with state := .URI_HOST6_P }
        fun sc => sc.state = .URI_HOST6_P := by
      refine .stay ?_ rfl
      intro q sc hst d hd
      have hd' := hcs d hd
      simp only [List.mem_cons, List.not_mem_nil, or_false, not_or] at hd'
      exact ⟨sc, by simp [step, hst, hd'], hst⟩
    refine hrun.append ?_
    intro sc' hst'
    have hend : step (p + 1 + cs.length) ']' sc' = .ok { sc' with state := .URI_HOST6_END } := by
      simp [step, hst']
    exact .cons hend (.nil (.inr rfl))

/-- The port, behind that. -/
theorem runs_port {port : Option Text} (hdigits : ∀ s, port = some s → Digits s)
    (hst : sc.state = .URI_HOST_P ∨ sc.state = .URI_HOST6_END) :
    Runs p (UriText.part ':' port) sc fun sc =>
      sc.state = .URI_HOST_P ∨ sc.state = .URI_HOST6_END ∨ sc.state = .URI_PORT := by
  cases port with
  | none => exact .nil (hst.imp_right .inl)
  | some s =>
    have hstep : step p ':' sc = .ok (check_host_end p sc .URI_PORT) := by
      rcases hst with hst | hst
      · simp [step, hst]
      · simp [step, hst]
    refine .cons hstep ?_
    have hrun : Runs (p + 1) s (check_host_end p sc .URI_PORT) fun sc => sc.state = .URI_PORT := by
      refine .stay ?_ rfl
      intro q sc hst d hd
      have hdigit := hdigits s rfl d hd
      have hsemi : d ≠ ';' ∧ d ≠ '?' := by
        constructor
        · rintro rfl
          exact absurd hdigit (by decide)
        · rintro rfl
          exact absurd hdigit (by decide)
      exact ⟨case_port d sc, by simp [step, hst, hdigit, hsemi], hst⟩
    exact hrun.mono fun _ h => .inr (.inr h)

end Stretches

/-! ## 4. The round trip -/

/-- A user at a host. -/
def address (who : UserText) (host : Text) (port : Option Text) : UriText where
  user := some who.print
  passwd := none
  host := host
  port := port
  params := none
  headers := none

section RoundTrip

variable {who : UserText} {host : Text} {port : Option Text}

theorem UserText.not_mem_print (u : UserText) {c : Char} (hc : c ∈ ['@', ':']) : c ∉ u.print := by
  have hc' : c = '@' ∨ c = ':' := by simpa using hc
  rw [print, List.mem_append, not_or]
  constructor
  · intro hmem
    refine u.plain c hmem ?_
    rcases hc' with rfl | rfl
    · decide
    · decide
  · intro hmem
    obtain ⟨ps, hps, hmem⟩ := List.mem_flatMap.mp hmem
    rcases List.mem_cons.mp hmem with rfl | hmem
    · exact absurd hc (by decide)
    · refine u.params_plain ps hps c hmem ?_
      rcases hc' with rfl | rfl
      · decide
      · decide

theorem UserText.head?_print (u : UserText) :
    u.print ≠ [] ∧ u.print.head? ≠ some '[' := by
  obtain ⟨c, cs, hname⟩ := List.exists_cons_of_ne_nil u.name_ne
  have hc := u.plain c (by rw [hname]; exact List.mem_cons_self)
  rw [print, hname]
  refine ⟨List.cons_ne_nil _ _, ?_⟩
  intro hhead
  cases hhead
  exact hc (by decide)

theorem address_wellFormed (hhost : UriText.Host True host)
    (hport : ∀ s, port = some s → Digits s) : (address who host port).WellFormed where
  noUser := nofun
  user := by
    rintro s hs
    cases hs
    exact ⟨who.head?_print.1, who.not_mem_print (by simp), .inr (who.not_mem_print (by simp))⟩
  passwd := nofun
  host := by
    change UriText.Host _ host
    cases hhost with
    | name c cs hc hcs hstrict => exact .name c cs hc hcs fun _ => hstrict trivial
    | ip6 cs hcs => exact .ip6 cs hcs
  port := hport
  params := nofun
  headers := nofun

theorem address_not_bracketed : ¬ (address who host port).Bracketed := by
  rintro ⟨s, hs⟩
  refine who.head?_print.2 ?_
  rw [Option.some.inj hs]
  rfl

theorem runs_address {k : ℕ} {type : UriType} (hhost : UriText.Host True host)
    (hport : ∀ s, port = some s → Digits s) :
    Runs k (address who host port).print (.init type k) fun sc =>
      sc.state = .URI_HOST_P ∨ sc.state = .URI_HOST6_END ∨ sc.state = .URI_PORT := by
  have hprint : (address who host port).print =
      ((who.print ++ ['@']) ++ host) ++ UriText.part ':' port := by
    simp [UriText.print, UriText.userinfo, address, UriText.part]
  have hat := (@runs_user k type who).append fun sc h => @runs_at _ sc h
  have hhosts := hat.append fun sc h => @runs_host _ sc host hhost h.1
  rw [hprint]
  exact hhosts.append fun sc h => runs_port hport h

/-- The types a scheme can have. -/
theorem schemeOf_type {buf : Text} {type : UriType} {k : ℕ} (h : schemeOf buf = .ok (type, k)) :
    type ∈ [.SIP_URI_T, .SIPS_URI_T, .TEL_URI_T, .URN_SERVICE_URI_T, .URN_NENA_SERVICE_URI_T] := by
  unfold schemeOf at h
  simp only at h
  split at h
  · cases h
    decide
  split at h
  · split at h
    · cases h
      decide
    · cases h
  split at h
  · cases h
    decide
  split at h
  · split at h
    · cases h
      decide
    · split at h
      · cases h
        decide
      · cases h
  · cases h

/-- A user at a host is accepted. -/
theorem address_accepted {buf : Text} {len k : ℕ} {type : UriType} (hlen : len ≤ buf.length)
    (hscheme : schemeOf buf = .ok (type, k)) (hhost : UriText.Host True host)
    (hport : ∀ s, port = some s → Digits s)
    (htext : slice buf k len = (address who host port).print) :
    ∃ uri, parse_uri buf len = .ok uri := by
  have hk := schemeOf_le hscheme
  have hlt : k < len := by
    by_contra hle
    rw [slice_eq_nil_of_le buf (Nat.le_of_not_lt hle), UriText.print_eq] at htext
    have hinfo := (List.append_eq_nil_iff.mp htext.symm).1
    exact who.head?_print.1 (List.append_eq_nil_iff.mp (List.append_eq_nil_iff.mp hinfo).1).1
  have hdrop : (buf.take len).drop k = slice buf k len := List.drop_take
  obtain ⟨sc, hscan, hst⟩ := @runs_address who host port k type hhost hport
  rw [← htext] at hscan
  have hsize : k + (slice buf k len).length = len := by
    rw [slice, List.length_take, List.length_drop]
    omega
  obtain ⟨u, hfin⟩ : ∃ u, finish len sc = .ok u := by
    rcases hst with hst | hst | hst
    · exact ⟨_, by simp only [finish, hst]; rfl⟩
    · exact ⟨_, by simp only [finish, hst]; rfl⟩
    · exact ⟨_, by simp only [finish, hst]; rfl⟩
  have hinv := @inv_scan (buf.take len) _ _ _ _ _ _ hdrop (.init rfl) hscan
  rw [hsize] at hinv
  obtain ⟨htype, -⟩ := located_finish hinv hfin
  obtain ⟨uri, hfix⟩ : ∃ uri, fixScheme u = .ok uri := by
    have htypes := schemeOf_type hscheme
    unfold fixScheme
    rw [htype]
    cases type with
    | ERROR_URI_T => exact absurd htypes (by decide)
    | _ => exact ⟨_, rfl⟩
  refine ⟨uri, ?_⟩
  unfold parse_uri
  rw [if_neg (by omega), hscheme]
  refine bind_eq_ok.mpr ⟨(type, k), rfl, ?_⟩
  refine bind_eq_ok.mpr ⟨sc, ?_, bind_eq_ok.mpr ⟨u, ?_, hfix⟩⟩
  · rw [hdrop]
    exact hscan
  · rw [Nat.max_eq_right hlt.le]
    exact hfin

/-- What is accepted is a URI, and a text is one in one way: the members are the user, the host and
the port. -/
theorem address_read {buf : Text} {len k : ℕ} {type : UriType} {uri : ParsedUri}
    (hlen : len ≤ buf.length) (hscheme : schemeOf buf = .ok (type, k))
    (hhost : UriText.Host True host) (hport : ∀ s, port = some s → Digits s)
    (htext : slice buf k len = (address who host port).print)
    (hparse : parse_uri buf len = .ok uri) :
    uri.type = type ∧ uri.texts (buf.take len) = (address who host port).fix type ∧
      uri.port_no.toNat = (address who host port).portNo % 65536 := by
  obtain ⟨k', u, hscheme', hk, htake, hwf, htexts, hno⟩ := parse_uri_parts hlen hparse
  obtain ⟨rfl, rfl⟩ : type = uri.type ∧ k = k' := by
    have heq := hscheme.symm.trans hscheme'
    simpa using heq
  have hsame : address who host port = u := by
    refine UriText.print_injective (address_wellFormed hhost hport) hwf address_not_bracketed ?_
    rw [← htext]
    have hsplit : buf.take len = buf.take k ++ slice buf k len := by
      rw [← slice_zero, ← slice_zero, slice_append (Nat.zero_le _) hk]
    exact List.append_cancel_left (hsplit.symm.trans htake)
  subst hsame
  exact ⟨rfl, htexts, hno address_not_bracketed⟩

end RoundTrip

/-- `+12;ndpi`. -/
def UserText.sample : UserText where
  name := "+12".toList
  params := ["ndpi".toList]
  name_ne := nofun
  plain := List.all_iff_forall_prop.mp rfl
  params_plain := by
    intro ps hps
    cases List.mem_singleton.mp hps
    exact List.all_iff_forall_prop.mp rfl
  params_head := by
    intro ps hps c hc
    cases List.mem_singleton.mp hps
    cases hc
    decide

end CallFwd.Sip.ParseUri
