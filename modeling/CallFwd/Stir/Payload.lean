/-
# The payload that is signed

The payload is put together by string formatting, without escaping: what is signed is what was
requested only if every string of the request stands for itself between quotes.  The characters of
telephone numbers and UUIDs do; but the validators let NUL bytes through, and behind a NUL byte in
`origid` anything at all, and a JSON string has no NUL byte.

`payload_faithful_iff` says that this is the only gap.
-/
import CallFwd.Stir.Passport
import CallFwd.Lib.Json

namespace CallFwd.Stir

open Lib

/-! ## 1. Characters -/

theorem isHexDigit_bounds {c : Char} (h : isHexDigit c = true) :
    (48 ≤ c.toNat ∧ c.toNat ≤ 57) ∨ (97 ≤ c.toNat ∧ c.toNat ≤ 102) ∨
      (65 ≤ c.toNat ∧ c.toNat ≤ 70) := by
  simp only [isHexDigit, Bool.or_eq_true, Bool.and_eq_true, decide_eq_true_eq] at h
  rcases h with (h | h) | h
  · exact Or.inl (digit_bounds h)
  · exact Or.inr (Or.inl h)
  · exact Or.inr (Or.inr h)

/-- The characters of numbers and UUIDs stand for themselves in a JSON string. -/
theorem plain_of_isTokenChar {s : Text} (h : ∀ c ∈ s, IsTokenChar c) : Json.Plain s := by
  intro c hc
  rcases h c hc with hc | rfl | hc
  · have hall : ∀ d ∈ Dynamic.text "0123456789*#+.-()",
        d ≠ '\x22' ∧ d ≠ '\x5c' ∧ 0x20 ≤ d.toNat := by
      simp [Dynamic.text]
    exact hall c hc
  · decide
  · have hbounds := isHexDigit_bounds hc
    refine ⟨?_, ?_, by omega⟩
    · rintro rfl
      simp at hbounds
    · rintro rfl
      simp at hbounds

theorem plain_of_validateTN {tn : Text} (h : validateTN tn = true) (hnul : NulFree tn) :
    Json.Plain tn := by
  refine plain_of_isTokenChar fun c hc => ?_
  rcases isTokenChar_of_validateTN h c hc with hc' | rfl
  · exact hc'
  · exact absurd hc hnul

/-! ## 2. The payload as JSON -/

/-- **What was requested**, as a JSON value. -/
def requested (m : SigningRequest) : Json :=
  .obj [(Dynamic.text "attest", .str m.attest),
    (Dynamic.text "dest", .obj [(Dynamic.text "tn", .arr ((sortedDest m).map .str))]),
    (Dynamic.text "iat", .int m.iat.toNat),
    (Dynamic.text "orig", .obj [(Dynamic.text "tn", .str m.orig)]),
    (Dynamic.text "origid", .str m.origid)]

theorem plain_text {w : String}
    (h : (w.toList.all fun c => decide (c ≠ '\x22' ∧ c ≠ '\x5c' ∧ 0x20 ≤ c.toNat)) = true) :
    Json.Plain (Dynamic.text w) :=
  fun c hc => of_decide_eq_true (List.all_eq_true.mp h c hc)

section Members

variable {m : SigningRequest} {fuel : ℕ}

/-- The last member, and the brace behind it. -/
theorem members_origid (horigid : Json.Plain m.origid) :
    Json.members (fuel + 2) ('\x22' :: (Dynamic.text "origid" ++ '\x22' :: ':' ::
      '\x22' :: (m.origid ++ '\x22' :: '\x7d' :: []))) =
      some ([(Dynamic.text "origid", .str m.origid)], []) :=
  Json.members_last (plain_text (by decide)) (Json.value_str horigid _)

/-- An object with the one member `tn`. -/
theorem value_tn {t rest : Text} {j : Json} (h : Json.value fuel t = some (j, '\x7d' :: rest)) :
    Json.value (fuel + 2) ('\x7b' :: '\x22' :: (Dynamic.text "tn" ++ '\x22' :: ':' :: t)) =
      some (.obj [(Dynamic.text "tn", j)], rest) :=
  Json.value_obj (Json.members_last (plain_text (by decide)) h)

/-- A payload is read to its end, if there is fuel for its destinations. -/
theorem value_payload {s : Text} {ss : List Text} (hdest : sortedDest m = s :: ss)
    (hattest : Json.Plain m.attest) (hs : Json.Plain s) (hss : ∀ tn ∈ ss, Json.Plain tn)
    (horig : Json.Plain m.orig) (horigid : Json.Plain m.origid) (hfuel : ss.length < fuel) :
    Json.value (fuel + 9) (payloadText m) = some (requested m, []) := by
  -- the text, cut at its members
  have htext : payloadText m = '\x7b' :: '\x22' :: (Dynamic.text "attest" ++ '\x22' :: ':' ::
      '\x22' :: (m.attest ++ '\x22' :: ',' ::
      '\x22' :: (Dynamic.text "dest" ++ '\x22' :: ':' ::
        '\x7b' :: '\x22' :: (Dynamic.text "tn" ++ '\x22' :: ':' ::
          '[' :: '\x22' :: (['\x22', ',', '\x22'].intercalate (s :: ss) ++ '\x22' :: ']' ::
      '\x7d' :: ',' ::
      '\x22' :: (Dynamic.text "iat" ++ '\x22' :: ':' :: (Nat.toDigits 10 m.iat.toNat ++ ',' ::
      '\x22' :: (Dynamic.text "orig" ++ '\x22' :: ':' ::
        '\x7b' :: '\x22' :: (Dynamic.text "tn" ++ '\x22' :: ':' ::
          '\x22' :: (m.orig ++ '\x22' :: '\x7d' :: ',' ::
      '\x22' :: (Dynamic.text "origid" ++ '\x22' :: ':' ::
        '\x22' :: (m.origid ++ '\x22' :: '\x7d' :: [])))))))))))) := by
    rw [payloadText, hdest]
    simp [Dynamic.text, printUint64]
  have hiat : ∀ c ∈ (',' :: '\x22' :: (Dynamic.text "orig" ++ '\x22' :: ':' ::
        '\x7b' :: '\x22' :: (Dynamic.text "tn" ++ '\x22' :: ':' ::
          '\x22' :: (m.orig ++ '\x22' :: '\x7d' :: ',' ::
      '\x22' :: (Dynamic.text "origid" ++ '\x22' :: ':' ::
        '\x22' :: (m.origid ++ '\x22' :: '\x7d' :: [])))))).head?,
      c.isDigit = false ∧ c ≠ '.' ∧ c ≠ 'e' ∧ c ≠ 'E' := by
    intro c hc
    cases hc
    decide
  rw [htext]
  refine Json.value_obj ?_
  rw [Json.members_cons (plain_text (by decide)) (Json.value_str hattest _),
    Json.members_cons (plain_text (by decide))
      (value_tn (Json.value_arr (Json.elements_strings hs hss (by omega) _))),
    Json.members_cons (plain_text (by decide)) (Json.value_int _ hiat),
    Json.members_cons (plain_text (by decide)) (value_tn (Json.value_str horig _)),
    members_origid horigid]
  simp [hdest]

end Members

/-! ## 3. What is signed is what was requested -/

theorem length_le_intercalate {sep : List Char} (hsep : sep ≠ []) (s : Text) (ss : List Text) :
    ss.length ≤ (sep.intercalate (s :: ss)).length := by
  induction ss generalizing s with
  | nil => exact Nat.zero_le _
  | cons s' ss ih =>
    have hpos := List.length_pos_of_ne_nil hsep
    have hrest := ih s'
    rw [List.intercalate_cons_cons, List.length_append, List.length_append, List.length_cons]
    omega

theorem parse_payload {m : SigningRequest} (hne : m.dest ≠ []) (hattest : Json.Plain m.attest)
    (hdest : ∀ tn ∈ m.dest, Json.Plain tn) (horig : Json.Plain m.orig)
    (horigid : Json.Plain m.origid) : Json.parse (payloadText m) = some (requested m) := by
  have hperm : (sortedDest m).Perm m.dest := List.perm_insertionSort _ _
  have hsorted : sortedDest m ≠ [] := fun hnil => hne (hnil ▸ hperm).symm.eq_nil
  obtain ⟨s, ss, hss⟩ := List.exists_cons_of_ne_nil hsorted
  have hplain : ∀ tn ∈ s :: ss, Json.Plain tn := by
    intro tn htn
    rw [← hss] at htn
    exact hdest tn (hperm.mem_iff.mp htn)
  have hlength : ss.length + 9 ≤ (payloadText m).length := by
    have hjoin := @length_le_intercalate (Dynamic.text "\",\"") (by decide) s ss
    simp only [payloadText, hss, List.length_append]
    have hattest : (Dynamic.text "\x7b\"attest\":\"").length = 11 := by decide
    omega
  obtain ⟨fuel, hfuel⟩ := Nat.exists_eq_add_of_le hlength
  have hvalue : Json.value (ss.length + 1 + fuel + 9) (payloadText m) = some (requested m, []) :=
    value_payload hss hattest (hplain s List.mem_cons_self)
      (fun tn htn => hplain tn (List.mem_cons_of_mem s htn)) horig horigid (by omega)
  rw [Json.parse, show (payloadText m).length + 1 = ss.length + 1 + fuel + 9 by omega, hvalue]
  rfl

theorem mem_intercalate {sep s : List Char} {ss : List Text} (hs : s ∈ ss) {c : Char} (hc : c ∈ s) :
    c ∈ sep.intercalate ss := by
  induction ss with
  | nil => cases hs
  | cons s' ss ih =>
    cases ss with
    | nil =>
      rw [List.mem_singleton.mp hs] at hc
      rwa [List.intercalate_singleton]
    | cons s'' ss =>
      rw [List.intercalate_cons_cons]
      rcases List.mem_cons.mp hs with rfl | hs
      · exact List.mem_append_left _ (List.mem_append_left _ hc)
      · exact List.mem_append_right _ (ih hs)

theorem of_mem_intercalate {sep : List Char} {ss : List Text} {c : Char}
    (h : c ∈ sep.intercalate ss) : c ∈ sep ∨ ∃ s ∈ ss, c ∈ s := by
  induction ss with
  | nil => cases h
  | cons s ss ih =>
    cases ss with
    | nil =>
      rw [List.intercalate_singleton] at h
      exact Or.inr ⟨s, List.mem_cons_self, h⟩
    | cons s' ss =>
      rw [List.intercalate_cons_cons] at h
      rcases List.mem_append.mp h with h | h
      · rcases List.mem_append.mp h with h | h
        · exact Or.inr ⟨s, List.mem_cons_self, h⟩
        · exact Or.inl h
      · rcases ih h with h | ⟨t, ht, hc⟩
        · exact Or.inl h
        · exact Or.inr ⟨t, List.mem_cons_of_mem s ht, hc⟩

/-- A valid request without NUL bytes. -/
theorem parse_of_nulFree {m : SigningRequest} (h : m.validate = none) (horig : NulFree m.orig)
    (hdest : ∀ tn ∈ m.dest, NulFree tn) (horigid : NulFree m.origid) :
    Json.parse (payloadText m) = some (requested m) := by
  obtain ⟨hattest, huuid, hne, horigTN, hdestTN⟩ := SigningRequest.validate_eq_none_iff.mp h
  have hplain : Json.Plain m.attest := by
    rcases hattest with e | e | e
    all_goals
      rw [e]
      simp [Json.Plain]
  exact parse_payload hne hplain (fun tn htn => plain_of_validateTN (hdestTN tn htn) (hdest tn htn))
    (plain_of_validateTN horigTN horig)
    (plain_of_isTokenChar (isTokenChar_of_uuidParse huuid horigid))

/-- A payload that parses as anything at all has no NUL byte. -/
theorem nulFree_of_parse {m : SigningRequest} {j : Json}
    (h : Json.parse (payloadText m) = some j) :
    NulFree m.orig ∧ (∀ tn ∈ m.dest, NulFree tn) ∧ NulFree m.origid := by
  have hnul : '\x00' ∉ payloadText m := by
    intro hc
    rcases Json.parse_legal h _ hc with hc | hc
    · exact absurd hc (by decide)
    · cases hc
  simp only [payloadText, List.mem_append, not_or] at hnul
  obtain ⟨⟨⟨⟨⟨⟨⟨⟨-, hdest⟩, -⟩, -⟩, -⟩, horig⟩, -⟩, horigid⟩, -⟩ := hnul
  refine ⟨horig, fun tn htn hc => hdest (mem_intercalate ?_ hc), horigid⟩
  exact (List.mem_insertionSort _).mpr htn

/-- **The payload of a valid request says what was requested**, each member once and no other, if
and only if no string of the request holds a NUL byte. -/
theorem payload_faithful_iff (m : SigningRequest) (h : m.validate = none) :
    Json.parse (payloadText m) = some (requested m) ↔
      NulFree m.orig ∧ (∀ tn ∈ m.dest, NulFree tn) ∧ NulFree m.origid := by
  constructor
  · exact nulFree_of_parse
  · rintro ⟨horig, hdest, horigid⟩
    exact parse_of_nulFree h horig hdest horigid

/-- A request for one destination. -/
def oneCall : SigningRequest :=
  ⟨['A'], [Dynamic.text "493055559999"], 1614060362, Dynamic.text "493044448888",
    Dynamic.text "4e046b69-d836-4e4a-82f2-28788829b069"⟩

theorem validate_oneCall : oneCall.validate = none := by decide

theorem payload_faithful_oneCall :
    oneCall.validate = none ∧ Json.parse (payloadText oneCall) = some (requested oneCall) := by
  refine ⟨validate_oneCall, (payload_faithful_iff oneCall validate_oneCall).mpr ⟨?_, ?_, ?_⟩⟩
  all_goals simp [NulFree, oneCall, Dynamic.text]

/-- The same request, with a NUL byte behind its UUID and a member of its own behind that. -/
def smuggling : SigningRequest :=
  { oneCall with origid := oneCall.origid ++ '\x00' :: Dynamic.text "\",\"attest\":\"B" }

theorem not_payload_faithful_smuggling :
    smuggling.validate = none ∧
      Json.parse (payloadText smuggling) ≠ some (requested smuggling) := by
  refine ⟨by decide, ?_⟩
  intro h
  obtain ⟨-, -, horigid⟩ := nulFree_of_parse h
  exact horigid (by simp [smuggling])

end CallFwd.Stir
