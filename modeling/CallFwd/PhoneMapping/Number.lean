/-
# `PhoneNumber::fromString` and the grammar of phone numbers

The grammar is the one the README gives: ten digits, with a `1` or `+1` in front of them and with
dashes, brackets and blanks between them (`Spells`).  `fromString` decides it by LENGTHS: it
deletes the punctuation, takes the prefix off a text of 12 or 11 bytes, asks for ten bytes, and
leaves the rest to `folly::tryTo<uint64_t>`.

Two kinds of texts get through that the grammar does not have (`Stray`).  `tryTo` skips whitespace
around the digits, so nine digits and a tab are ten bytes.  And `strchr(" -()", c)` finds the NUL
that ENDS the list as well, so NUL bytes are punctuation.  `grammar_iff` says that there are no
others.

The number is a `uint64_t` from there on, and it is printed without a width: `reparses_iff` says
for which texts the printed number is read again.
-/
import CallFwd.PhoneMapping.Data
import CallFwd.StringPiece

namespace CallFwd

open Lib

namespace PhoneNumber

/-! ## 1. The function -/

/-- `[](char c) { return strchr(" -()", c) == NULL; }`. -/
def keeps (c : Char) : Bool := !strchr [' ', '-', '(', ')'] c

/-- `PhoneNumber::fromString`. -/
def fromString (s : Text) : UInt64 :=
  let s := trimWhitespace s
  if 30 < s.length then NONE
  else
    let digits := s.filter keeps
    let s := if digits.length = 12 then removePrefix ['+', '1'] digits
      else if digits.length = 11 then removePrefix ['1'] digits
      else digits
    if s.length ≠ 10 then NONE
    else
      match toUint64 s with
      | .ok asInt => asInt
      | .error _ => NONE

/-- The bytes that are left for `tryTo`. -/
def remaining (s : Text) : Text :=
  let digits := (trimWhitespace s).filter keeps
  if digits.length = 12 then removePrefix ['+', '1'] digits
  else if digits.length = 11 then removePrefix ['1'] digits
  else digits

/-- The digits `fromString` makes its number of. -/
def digitsOf (s : Text) : Option Text :=
  if (trimWhitespace s).length ≤ 30 ∧ (remaining s).length = 10 then numeral (remaining s) else none

theorem decimal_lt {ds : Text} (h : Digits ds) (hlen : ds.length ≤ 10) : decimal ds < 10 ^ 10 :=
  lt_of_lt_of_le (ofDigitChars_lt h) (Nat.pow_le_pow_right (by decide) hlen)

theorem digitsOf_spec {s ds : Text} (h : digitsOf s = some ds) :
    Digits ds ∧ ds ≠ [] ∧ ds.length ≤ 10 ∧ decimal ds < 10 ^ 10 := by
  unfold digitsOf at h
  split at h
  · rename_i hlen
    obtain ⟨ws, ws', hrem, -, -, hds, hne⟩ := numeral_eq_some_iff.mp h
    have hle : ds.length ≤ 10 := by
      rw [← hlen.2, hrem, List.length_append, List.length_append]
      omega
    exact ⟨hds, hne, hle, decimal_lt hds hle⟩
  · cases h

/-- `fromString` in terms of its digits. -/
theorem fromString_eq (s : Text) :
    fromString s = match digitsOf s with
      | some ds => UInt64.ofNat (decimal ds)
      | none => NONE := by
  have hrun : fromString s = if 30 < (trimWhitespace s).length then NONE
      else if (remaining s).length ≠ 10 then NONE
      else match toUint64 (remaining s) with
        | .ok asInt => asInt
        | .error _ => NONE := rfl
  rw [hrun]
  by_cases hlong : 30 < (trimWhitespace s).length
  · rw [if_pos hlong, digitsOf, if_neg (by omega)]
  · by_cases hten : (remaining s).length = 10
    · rw [if_neg hlong, if_neg (by omega), digitsOf, if_pos ⟨by omega, hten⟩, toUint64_eq]
      cases hnum : numeral (remaining s) with
      | none => rfl
      | some ds =>
        have hspec : digitsOf s = some ds := by rw [digitsOf, if_pos ⟨by omega, hten⟩, hnum]
        have hlt : decimal ds < 2 ^ 64 :=
          lt_trans (digitsOf_spec hspec).2.2.2 (by decide)
        simp only [hlt, if_true]
    · rw [if_neg hlong, if_pos hten, digitsOf, if_neg (by omega)]

theorem toNat_ofNat_decimal {ds : Text} (h : decimal ds < 10 ^ 10) :
    (UInt64.ofNat (decimal ds)).toNat = decimal ds := by
  rw [UInt64.toNat_ofNat']
  exact Nat.mod_eq_of_lt (lt_trans h (by decide))

theorem toNat_NONE : NONE.toNat = 2 ^ 64 - 1 := by
  decide

/-- A number is never the absence marker. -/
theorem ofNat_decimal_ne_NONE {ds : Text} (h : decimal ds < 10 ^ 10) :
    UInt64.ofNat (decimal ds) ≠ NONE := by
  intro e
  have := congrArg UInt64.toNat e
  rw [toNat_ofNat_decimal h, toNat_NONE] at this
  omega

/-- **What is read is a number below `10^10`.** -/
theorem fromString_of_digitsOf {s ds : Text} (h : digitsOf s = some ds) :
    (fromString s).toNat = decimal ds ∧ decimal ds < 10 ^ 10 ∧ fromString s ≠ NONE := by
  obtain ⟨-, -, -, hlt⟩ := digitsOf_spec h
  rw [fromString_eq, h]
  exact ⟨toNat_ofNat_decimal hlt, hlt, ofNat_decimal_ne_NONE hlt⟩

theorem fromString_ne_NONE_iff {s : Text} :
    fromString s ≠ NONE ↔ ∃ ds, digitsOf s = some ds := by
  constructor
  · intro h
    cases hd : digitsOf s with
    | some ds => exact ⟨ds, rfl⟩
    | none =>
      rw [fromString_eq, hd] at h
      exact absurd rfl h
  · rintro ⟨ds, h⟩
    exact (fromString_of_digitsOf h).2.2

/-! ## 2. The grammar -/

/-- The prefixes a number may have. -/
def prefixes : List Text := [[], ['+', '1'], ['1']]

/-- A prefix is told by the length of what it stands before. -/
theorem remaining_eq_iff {s e : Text} (he : e.length = 10) :
    remaining s = e ↔ ∃ pre ∈ prefixes, (trimWhitespace s).filter keeps = pre ++ e := by
  unfold remaining
  generalize (trimWhitespace s).filter keeps = digits
  constructor
  · intro h
    by_cases h12 : digits.length = 12
    · rw [if_pos h12, removePrefix] at h
      split at h
      · rename_i hpre
        obtain ⟨t, rfl⟩ := List.isPrefixOf_iff_prefix.mp hpre
        exact ⟨['+', '1'], by simp [prefixes], by rw [← h]; rfl⟩
      · rw [h] at h12
        omega
    · by_cases h11 : digits.length = 11
      · rw [if_neg h12, if_pos h11, removePrefix] at h
        split at h
        · rename_i hpre
          obtain ⟨t, rfl⟩ := List.isPrefixOf_iff_prefix.mp hpre
          exact ⟨['1'], by simp [prefixes], by rw [← h]; rfl⟩
        · rw [h] at h11
          omega
      · rw [if_neg h12, if_neg h11] at h
        exact ⟨[], by simp [prefixes], h⟩
  · rintro ⟨pre, hpre, rfl⟩
    simp only [prefixes, List.mem_cons, List.not_mem_nil, or_false] at hpre
    rcases hpre with rfl | rfl | rfl
    · simp [he]
    · simp [he, removePrefix]
    · simp [he, removePrefix]

/-- **The grammar.**  Without whitespace around it, `s` has at most 30 bytes; without blanks,
dashes and brackets it is a prefix and the ten digits `ds`. -/
def Spells (s ds : Text) : Prop :=
  (trimWhitespace s).length ≤ 30 ∧ Digits ds ∧ ds.length = 10 ∧
    ∃ pre ∈ prefixes, (trimWhitespace s).filter (fun c => !decide (c ∈ [' ', '-', '(', ')'])) =
      pre ++ ds

/-- What gets through beside it: as in the grammar, but with NUL bytes as punctuation and with
whitespace in the place of digits, and really with one of the two. -/
def Stray (s : Text) : Prop :=
  (trimWhitespace s).length ≤ 30 ∧ ∃ pre ∈ prefixes, ∃ ws ds ws',
    (trimWhitespace s).filter keeps = pre ++ (ws ++ ds ++ ws') ∧
      (ws ++ ds ++ ws').length = 10 ∧ (∀ c ∈ ws ++ ws', isspace c = true) ∧ Digits ds ∧ ds ≠ [] ∧
      ('\x00' ∈ trimWhitespace s ∨ ws ++ ws' ≠ [])

/-- Without NUL bytes the two filters are one. -/
theorem filter_keeps {t : Text} (h : '\x00' ∉ t) :
    t.filter keeps = t.filter fun c => !decide (c ∈ [' ', '-', '(', ')']) := by
  refine List.filter_congr fun c hc => ?_
  have hne : c ≠ '\x00' := fun e => h (e ▸ hc)
  simp [keeps, strchr, hne]

/-- A number of the grammar has no NUL bytes. -/
theorem Spells.not_mem_nul {s ds : Text} (h : Spells s ds) : '\x00' ∉ trimWhitespace s := by
  obtain ⟨-, hds, -, pre, hpre, hfilter⟩ := h
  intro hmem
  have hkept : '\x00' ∈ pre ++ ds := by
    rw [← hfilter, List.mem_filter]
    exact ⟨hmem, by decide⟩
  rcases List.mem_append.mp hkept with hp | hd
  · simp only [prefixes, List.mem_cons, List.not_mem_nil, or_false] at hpre
    rcases hpre with rfl | rfl | rfl <;> simp at hp
  · exact absurd (hds _ hd) (by decide)

theorem Spells.remaining {s ds : Text} (h : Spells s ds) : remaining s = ds := by
  obtain ⟨-, -, hlen, pre, hpre, hfilter⟩ := id h
  exact (remaining_eq_iff hlen).mpr ⟨pre, hpre, (filter_keeps h.not_mem_nul).trans hfilter⟩

/-- The digits of a number of the grammar are the ones that are read. -/
theorem Spells.digitsOf {s ds : Text} (h : Spells s ds) : digitsOf s = some ds := by
  obtain ⟨hshort, hds, hlen, -⟩ := id h
  have hne : ds ≠ [] := by
    rintro rfl
    cases hlen
  rw [PhoneNumber.digitsOf, h.remaining, if_pos ⟨hshort, hlen⟩, numeral_of_digits hds hne]

theorem Stray.digitsOf {s : Text} (h : Stray s) : ∃ ds, digitsOf s = some ds := by
  obtain ⟨hshort, pre, hpre, ws, ds, ws', hfilter, hlen, hws, hds, hne, -⟩ := h
  refine ⟨ds, ?_⟩
  rw [PhoneNumber.digitsOf, (remaining_eq_iff hlen).mpr ⟨pre, hpre, hfilter⟩,
    if_pos ⟨hshort, hlen⟩]
  exact numeral_eq_some_iff.mpr ⟨ws, ws', rfl, fun c hc => hws c (List.mem_append_left _ hc),
    fun c hc => hws c (List.mem_append_right _ hc), hds, hne⟩

/-- Nothing else gets through. -/
theorem spells_or_stray {s ds : Text} (h : digitsOf s = some ds) : Spells s ds ∨ Stray s := by
  unfold PhoneNumber.digitsOf at h
  split at h
  · rename_i hlen
    obtain ⟨ws, ws', hrem, hws, hws', hds, hne⟩ := numeral_eq_some_iff.mp h
    obtain ⟨pre, hpre, hfilter⟩ := (remaining_eq_iff hlen.2).mp rfl
    have hspace : ∀ c ∈ ws ++ ws', isspace c = true := by
      intro c hc
      rcases List.mem_append.mp hc with hc | hc
      · exact hws c hc
      · exact hws' c hc
    have hstray : '\x00' ∈ trimWhitespace s ∨ ws ++ ws' ≠ [] → Stray s := fun hbad =>
      ⟨hlen.1, pre, hpre, ws, ds, ws', hrem ▸ hfilter, hrem ▸ hlen.2, hspace, hds, hne, hbad⟩
    by_cases hnul : '\x00' ∈ trimWhitespace s
    · exact Or.inr (hstray (Or.inl hnul))
    · by_cases hempty : ws ++ ws' = []
      · obtain ⟨rfl, rfl⟩ := List.append_eq_nil_iff.mp hempty
        rw [List.nil_append, List.append_nil] at hrem
        refine Or.inl ⟨hlen.1, hds, hrem ▸ hlen.2, pre, hpre, ?_⟩
        rw [← filter_keeps hnul, hfilter, hrem]
      · exact Or.inr (hstray (Or.inr hempty))
  · cases h

/-- A stray is no number of the grammar. -/
theorem Stray.not_spells {s ds : Text} (h : Stray s) : ¬ Spells s ds := by
  intro hs
  obtain ⟨-, pre, hpre, ws, ds', ws', hfilter, hlen, hws, -, -, hbad⟩ := h
  rcases hbad with hnul | hne
  · exact hs.not_mem_nul hnul
  · have hrem : ws ++ ds' ++ ws' = ds :=
      ((remaining_eq_iff hlen).mpr ⟨pre, hpre, hfilter⟩).symm.trans hs.remaining
    obtain ⟨c, hc⟩ := List.exists_mem_of_ne_nil _ hne
    have hmem : c ∈ ds := by
      rw [← hrem]
      simp only [List.mem_append] at hc ⊢
      tauto
    have := hws c hc
    rw [isspace_of_isDigit (hs.2.1 c hmem)] at this
    cases this

/-- `fromString` does on `s` what the grammar says: it accepts the numbers of the grammar and
nothing else, each with the value of its ten digits. -/
def Grammatical (s : Text) : Prop :=
  (fromString s ≠ NONE ↔ ∃ ds, Spells s ds) ∧
    ∀ ds, Spells s ds → (fromString s).toNat = decimal ds ∧ (fromString s).toNat < 10 ^ 10

/-- **The phone number grammar** is what `fromString` follows, except on the strays. -/
theorem grammar_iff (s : Text) : Grammatical s ↔ ¬ Stray s := by
  unfold Grammatical
  rw [fromString_ne_NONE_iff]
  constructor
  · rintro ⟨hiff, -⟩ hstray
    obtain ⟨ds, hds⟩ := hiff.mp hstray.digitsOf
    exact hstray.not_spells hds
  · intro hstray
    refine ⟨⟨?_, ?_⟩, ?_⟩
    · rintro ⟨ds, hds⟩
      exact ⟨ds, (spells_or_stray hds).resolve_right hstray⟩
    · rintro ⟨ds, hds⟩
      exact ⟨ds, hds.digitsOf⟩
    · intro ds hds
      obtain ⟨hval, hlt, -⟩ := fromString_of_digitsOf hds.digitsOf
      exact ⟨hval, hval ▸ hlt⟩

/-- Nine digits and a tab, behind a bracket that keeps the tab from being trimmed. -/
def tabbed : Text := ['(', '\t', '2', '0', '1', '5', '5', '5', '0', '1', '2']

/-- They are ten bytes, and `tryTo` skips the tab. -/
theorem not_grammatical_tabbed : ¬ Grammatical tabbed := by
  rintro ⟨hiff, -⟩
  obtain ⟨ds, hds⟩ := hiff.mp (by decide)
  have hrem : remaining tabbed = ['\t', '2', '0', '1', '5', '5', '5', '0', '1', '2'] := by decide
  have hmem : '\t' ∈ ds := by
    rw [← hds.remaining, hrem]
    exact List.mem_cons_self
  exact absurd (hds.2.1 _ hmem) (by decide)

/-! ## 3. Printing a number and reading it again -/

/-- Digits are neither trimmed nor deleted. -/
theorem trims_of_isDigit {c : Char} (h : c.isDigit = true) : trims c = false := by
  have := isspace_of_isDigit h
  simp only [isspace, Bool.or_eq_false_iff] at this
  simp [trims, this]

theorem keeps_of_isDigit {c : Char} (h : c.isDigit = true) : keeps c = true := by
  have hb := digit_bounds h
  simp only [keeps, strchr, Bool.not_eq_true', Bool.or_eq_false_iff, List.contains_eq_mem,
    decide_eq_false_iff_not, List.mem_cons, List.not_mem_nil, or_false, not_or, beq_eq_false_iff_ne]
  refine ⟨⟨?_, ?_, ?_, ?_⟩, ?_⟩ <;> (rintro rfl; revert hb; decide)

/-- A text of digits behind kept characters is left as it is. -/
theorem filter_trimWhitespace {pre ds : Text} (hpre : ∀ c ∈ pre, trims c = false ∧ keeps c = true)
    (hds : Digits ds) :
    trimWhitespace (pre ++ ds) = pre ++ ds ∧ (pre ++ ds).filter keeps = pre ++ ds := by
  have hall : ∀ c ∈ pre ++ ds, trims c = false ∧ keeps c = true := by
    intro c hc
    rcases List.mem_append.mp hc with hc | hc
    · exact hpre c hc
    · exact ⟨trims_of_isDigit (hds c hc), keeps_of_isDigit (hds c hc)⟩
  refine ⟨trimWhitespace_eq_self ?_ ?_, List.filter_eq_self.mpr fun c hc => (hall c hc).2⟩
  · intro c hc
    exact (hall c (List.mem_of_mem_head? hc)).1
  · intro c hc
    exact (hall c (List.mem_of_mem_getLast? hc)).1

/-- Ten digits behind one of the prefixes are read. -/
theorem digitsOf_prefix_append {pre ds : Text} (hpre : pre ∈ prefixes) (hds : Digits ds)
    (hlen : ds.length = 10) : digitsOf (pre ++ ds) = some ds := by
  have hclean : ∀ c ∈ pre, trims c = false ∧ keeps c = true := by
    simp only [prefixes, List.mem_cons, List.not_mem_nil, or_false] at hpre
    rcases hpre with rfl | rfl | rfl <;> simp [trims, keeps, strchr]
  have hshort : pre.length ≤ 2 := by
    simp only [prefixes, List.mem_cons, List.not_mem_nil, or_false] at hpre
    rcases hpre with rfl | rfl | rfl <;> decide
  obtain ⟨htrim, hfilter⟩ := filter_trimWhitespace hclean hds
  have hrem : remaining (pre ++ ds) = ds :=
    (remaining_eq_iff hlen).mpr ⟨pre, hpre, by rw [htrim, hfilter]⟩
  have hne : ds ≠ [] := by
    rintro rfl
    cases hlen
  rw [digitsOf, htrim, hrem, if_pos ⟨by rw [List.length_append]; omega, hlen⟩,
    numeral_of_digits hds hne]

/-- Fewer than ten digits are not. -/
theorem digitsOf_of_length_lt {ds : Text} (hds : Digits ds) (hlen : ds.length < 10) :
    digitsOf ds = none := by
  obtain ⟨htrim, hfilter⟩ := @filter_trimWhitespace [] ds (by simp) hds
  rw [List.nil_append] at htrim hfilter
  have hrem : remaining ds = ds := by
    simp only [remaining, htrim, hfilter]
    rw [if_neg (by omega), if_neg (by omega)]
  rw [digitsOf, hrem, if_neg (by omega)]

/-- What `handleInvite` prints in the Contact header and what `/target` prints as `pn` are both
read as the number they were printed from. -/
def Reparses (u : Text) : Prop :=
  fromString (['+', '1'] ++ printUint64 (fromString u)) = fromString u ∧
    fromString (printUint64 (fromString u)) = fromString u

/-- The number of an accepted text has ten digits exactly when ten digits without a leading zero
are left of the text. -/
theorem le_decimal_iff {u ds : Text} (h : digitsOf u = some ds) :
    10 ^ 9 ≤ decimal ds ↔ ∃ c cs, remaining u = c :: cs ∧ Digits (c :: cs) ∧ c ≠ '0' := by
  obtain ⟨hds, hne, hle, -⟩ := digitsOf_spec h
  have hten : (remaining u).length = 10 ∧ numeral (remaining u) = some ds := by
    unfold digitsOf at h
    split at h
    · rename_i hlen
      exact ⟨hlen.2, h⟩
    · cases h
  constructor
  · intro hbig
    have hlen : ds.length = 10 := by
      by_contra hlt
      have : decimal ds < 10 ^ 9 := lt_of_lt_of_le (ofDigitChars_lt hds)
        (Nat.pow_le_pow_right (by decide) (by omega))
      omega
    obtain ⟨ws, ws', hrem, -⟩ := numeral_eq_some_iff.mp hten.2
    have hlens := hten.1
    rw [hrem, List.length_append, List.length_append] at hlens
    obtain rfl : ws = [] := List.length_eq_zero_iff.mp (by omega)
    obtain rfl : ws' = [] := List.length_eq_zero_iff.mp (by omega)
    rw [List.nil_append, List.append_nil] at hrem
    cases ds with
    | nil => exact absurd rfl hne
    | cons c cs =>
      refine ⟨c, cs, hrem, hds, ?_⟩
      rintro rfl
      have hzero : decimal ('0' :: cs) = decimal cs := by
        rw [decimal, ofDigitChars_cons_zero]
        simp [decimal]
      have hcs : cs.length = 9 := by simpa using hlen
      have := ofDigitChars_lt (Digits.cons_iff.mp hds).2
      rw [hcs] at this
      rw [hzero] at hbig
      exact absurd hbig (Nat.not_le.mpr this)
  · rintro ⟨c, cs, hrem, hdigits, hc⟩
    have hnum : numeral (remaining u) = some (c :: cs) := by
      rw [hrem]
      exact numeral_of_digits hdigits (by simp)
    rw [hten.2] at hnum
    cases hnum
    have hcs : cs.length = 9 := by
      have := hten.1
      rw [hrem] at this
      simpa using this
    have := le_ofDigitChars hdigits hc
    rwa [hcs] at this

/-- **A printed number parses back exactly when** ten digits are left of the text it was read
from, and the first of them is not 0: a number is printed without its leading zeros. -/
theorem reparses_iff {u : Text} (h : fromString u ≠ NONE) :
    Reparses u ↔ ∃ c cs, remaining u = c :: cs ∧ Digits (c :: cs) ∧ c ≠ '0' := by
  obtain ⟨ds, hds⟩ := fromString_ne_NONE_iff.mp h
  obtain ⟨hval, hlt, -⟩ := fromString_of_digitsOf hds
  have hdig : Digits (printUint64 (fromString u)) := fun c => isDigit_of_mem_printUint64
  have hread : decimal (printUint64 (fromString u)) = decimal ds := by
    rw [decimal, printUint64, Nat.ofDigitChars_ten_toDigits, hval]
  have hlen : (printUint64 (fromString u)).length ≤ 10 :=
    (Nat.length_toDigits_le_iff (by decide) (by decide)).mpr (hval ▸ hlt)
  have hnine : (printUint64 (fromString u)).length ≤ 9 ↔ decimal ds < 10 ^ 9 := by
    rw [printUint64, Nat.length_toDigits_le_iff (by decide) (by decide), hval]
  rw [← le_decimal_iff hds]
  constructor
  · rintro ⟨-, hre⟩
    by_contra hsmall
    have hnone := digitsOf_of_length_lt hdig (by have := hnine.mpr (by omega); omega)
    rw [fromString_eq (printUint64 (fromString u)), hnone] at hre
    exact h hre.symm
  · intro hbig
    have hten : (printUint64 (fromString u)).length = 10 := by
      have : ¬ (printUint64 (fromString u)).length ≤ 9 := fun h9 => by
        have := hnine.mp h9
        omega
      omega
    have hback : ∀ pre ∈ prefixes,
        fromString (pre ++ printUint64 (fromString u)) = fromString u := by
      intro pre hpre
      rw [fromString_eq, digitsOf_prefix_append hpre hdig hten]
      simp only [hread]
      rw [← hval, UInt64.ofNat_toNat]
    exact ⟨hback _ (by simp [prefixes]), hback [] (by simp [prefixes])⟩

/-- A number without a leading zero, with prefix and punctuation. -/
theorem reparses_punctuated :
    fromString ['+', '1', ' ', '(', '2', '0', '1', ')', '5', '5', '5', '-', '0', '1', '2', '3'] ≠
        NONE ∧
      Reparses
        ['+', '1', ' ', '(', '2', '0', '1', ')', '5', '5', '5', '-', '0', '1', '2', '3'] := by
  have haccepted : fromString
      ['+', '1', ' ', '(', '2', '0', '1', ')', '5', '5', '5', '-', '0', '1', '2', '3'] ≠ NONE := by
    decide
  refine ⟨haccepted, (reparses_iff haccepted).mpr
    ⟨'2', ['0', '1', '5', '5', '5', '0', '1', '2', '3'], by decide, ?_, by decide⟩⟩
  simp [Digits]

/-- The number of the source's own test, ten digits that start with 0. -/
theorem not_reparses_leading_zero :
    fromString ['-', '0', '1', '2', '3', '4', '5', '6', '7', '8', '9'] ≠ NONE ∧
      ¬ Reparses ['-', '0', '1', '2', '3', '4', '5', '6', '7', '8', '9'] := by
  unfold Reparses
  decide

end PhoneNumber

end CallFwd
