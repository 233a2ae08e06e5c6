/-
# `folly::StringPiece`: trimming, splitting and stripping

The request side of the daemon and the PASSporT code cut texts with the operations of
`folly::StringPiece`.  Two of them are easily taken for something else:

* `trimWhitespace` takes off FOUR characters, `isspace` knows six; vertical tab and form feed stay;
* `split_step` without a delimiter in the text takes ALL of it and leaves nothing.

`strchr(accept, c) != NULL` is here too: it holds of the terminating NUL of `accept` as well.
-/
import CallFwd.Runtime
import CallFwd.Lib.Decimal
import Mathlib.Data.List.DropRight

namespace CallFwd

open Lib

/-! ## 1. The operations -/

/-- `strchr(accept, c) != NULL`. -/
def strchr (accept : Text) (c : Char) : Bool := accept.contains c || c == '\x00'

/-- What `folly::trimWhitespace` takes off. -/
def trims (c : Char) : Bool := c == ' ' || c == '\n' || c == '\t' || c == '\r'

/-- `folly::ltrimWhitespace(s)`. -/
def ltrimWhitespace (s : Text) : Text := s.dropWhile trims

/-- `folly::rtrimWhitespace(s)`. -/
def rtrimWhitespace (s : Text) : Text := s.rdropWhile trims

/-- `folly::trimWhitespace(s)`. -/
def trimWhitespace (s : Text) : Text := rtrimWhitespace (ltrimWhitespace s)

/-- `s.removePrefix(p)`: `s` as it is when it does not start with `p`. -/
def removePrefix (p s : Text) : Text := if p.isPrefixOf s then s.drop p.length else s

/-- `s.split_step(c)`: the piece before the delimiter, and what `s` is left with. -/
def splitStep (c : Char) (s : Text) : Text × Text :=
  (s.takeWhile (· != c), (s.dropWhile (· != c)).drop 1)

/-! ## 2. What they do -/

theorem strchr_eq_true {accept : Text} {c : Char} :
    strchr accept c = true ↔ c ∈ accept ∨ c = '\x00' := by
  simp [strchr]

/-- Nothing is taken off a text that starts and ends with something else. -/
theorem trimWhitespace_eq_self {s : Text} (hhead : ∀ c ∈ s.head?, trims c = false)
    (hlast : ∀ c ∈ s.getLast?, trims c = false) : trimWhitespace s = s := by
  have hl : ltrimWhitespace s = s := by
    cases s with
    | nil => rfl
    | cons c t =>
      have hc := hhead c (by simp)
      rw [ltrimWhitespace, List.dropWhile_cons_of_neg (by simp [hc])]
  rw [trimWhitespace, hl, rtrimWhitespace, List.rdropWhile_eq_self_iff]
  intro hne
  have := hlast (s.getLast hne) (by simp [List.getLast?_eq_some_getLast hne])
  simp [this]

/-- The piece before the first delimiter, and the rest. -/
theorem splitStep_append {c : Char} {a : Text} (b : Text) (ha : c ∉ a) :
    splitStep c (a ++ c :: b) = (a, b) := by
  have hall : ∀ x ∈ a, (x != c) = true := by
    intro x hx
    have : x ≠ c := fun e => ha (e ▸ hx)
    simpa using this
  rw [splitStep, List.takeWhile_append_of_pos hall, List.dropWhile_append_of_pos hall,
    List.takeWhile_cons_of_neg (by simp), List.dropWhile_cons_of_neg (by simp)]
  simp

/-- A text without the delimiter is one piece. -/
theorem splitStep_of_not_mem {c : Char} {a : Text} (ha : c ∉ a) : splitStep c a = (a, []) := by
  have hall : ∀ x ∈ a, (x != c) = true := by
    intro x hx
    have : x ≠ c := fun e => ha (e ▸ hx)
    simpa using this
  rw [splitStep, List.takeWhile_eq_self_iff.mpr hall, List.dropWhile_eq_nil_iff.mpr hall]
  rfl

/-- What a step of splitting says of the text. -/
theorem splitStep_spec (c : Char) (s : Text) :
    c ∉ (splitStep c s).1 ∧ (s = (splitStep c s).1 ++ c :: (splitStep c s).2 ∨
      s = (splitStep c s).1 ∧ (splitStep c s).2 = []) := by
  have hnot : c ∉ s.takeWhile (· != c) := by
    intro h
    have := List.mem_takeWhile_imp h
    simp at this
  refine ⟨hnot, ?_⟩
  cases hd : s.dropWhile (· != c) with
  | nil =>
    refine Or.inr ⟨?_, by rw [splitStep, hd]; rfl⟩
    conv_lhs => rw [← List.takeWhile_append_dropWhile (p := (· != c)) (l := s), hd,
      List.append_nil]
    rfl
  | cons x t =>
    have hx : x = c := by
      have := List.head?_dropWhile_not (p := (· != c)) s
      rw [hd] at this
      simpa using this
    refine Or.inl ?_
    conv_lhs => rw [← List.takeWhile_append_dropWhile (p := (· != c)) (l := s), hd, hx]
    rw [splitStep, hd]
    rfl

/-- Splitting a nonempty text leaves less of it. -/
theorem length_splitStep_lt {c : Char} {s : Text} (h : s ≠ []) :
    (splitStep c s).2.length < s.length := by
  have hpos : 0 < s.length := List.length_pos_iff.mpr h
  rcases (splitStep_spec c s).2 with hs | ⟨-, hs⟩
  · conv_rhs => rw [hs]
    rw [List.length_append, List.length_cons]
    omega
  · rw [hs]
    exact hpos

theorem length_splitStep_le (c : Char) (s : Text) : (splitStep c s).2.length ≤ s.length := by
  by_cases h : s = []
  · rw [h]
    exact Nat.le_refl 0
  · exact Nat.le_of_lt (length_splitStep_lt h)

/-! ## 3. Numbers between whitespace -/

/-- The digits of a text that has nothing else but whitespace around them. -/
def numeral (s : Text) : Option Text :=
  let t := s.dropWhile isspace
  let digits := t.takeWhile Char.isDigit
  if !digits.isEmpty && (t.dropWhile Char.isDigit).all isspace then some digits else none

/-- `folly::tryTo<uint64_t>` in these terms. -/
theorem toUint64_eq (s : Text) :
    toUint64 s = match numeral s with
      | some digits => if decimal digits < 2 ^ 64 then .ok (UInt64.ofNat (decimal digits))
        else .error (.exn .conversionError)
      | none => .error (.exn .conversionError) := by
  unfold toUint64 numeral
  simp only
  by_cases h : (!((s.dropWhile isspace).takeWhile Char.isDigit).isEmpty &&
      ((s.dropWhile isspace).dropWhile Char.isDigit).all isspace) = true
  · simp only [h, Bool.true_and, if_true, decide_eq_true_eq]
  · simp only [h, Bool.false_and]
    rfl

/-- A run of digits between whitespace, taken apart. -/
theorem numeral_eq_some_iff {s digits : Text} :
    numeral s = some digits ↔ ∃ ws ws', s = ws ++ digits ++ ws' ∧ (∀ c ∈ ws, isspace c = true) ∧
      (∀ c ∈ ws', isspace c = true) ∧ Digits digits ∧ digits ≠ [] := by
  constructor
  · intro h
    simp only [numeral] at h
    split at h
    · rename_i hc
      obtain ⟨hne, hall⟩ := Bool.and_eq_true_iff.mp hc
      cases h
      refine ⟨s.takeWhile isspace, _, ?_, fun _ => List.mem_takeWhile_imp,
        List.all_eq_true.mp hall, Digits.takeWhile _, by simpa using hne⟩
      rw [List.append_assoc, List.takeWhile_append_dropWhile, List.takeWhile_append_dropWhile]
    · cases h
  · rintro ⟨ws, ws', rfl, hws, hws', hdig, hne⟩
    have hskip : (ws ++ digits ++ ws').dropWhile isspace = digits ++ ws' := by
      rw [List.append_assoc, List.dropWhile_append_of_pos hws]
      cases digits with
      | nil => exact absurd rfl hne
      | cons c t =>
        have hc := isspace_of_isDigit (hdig c List.mem_cons_self)
        rw [List.cons_append, List.dropWhile_cons_of_neg (by simp [hc])]
    have hstop : ws'.takeWhile Char.isDigit = [] ∧ ws'.dropWhile Char.isDigit = ws' := by
      cases ws' with
      | nil => exact ⟨rfl, rfl⟩
      | cons c t =>
        have hc : c.isDigit = false := by
          rw [Bool.eq_false_iff]
          intro hd
          have := hws' c List.mem_cons_self
          rw [isspace_of_isDigit hd] at this
          cases this
        exact ⟨List.takeWhile_cons_of_neg (by simp [hc]), List.dropWhile_cons_of_neg (by simp [hc])⟩
    have hall : ws'.all isspace = true := List.all_eq_true.mpr hws'
    have hemp : digits.isEmpty = false := by simpa using hne
    simp only [numeral, hskip, List.takeWhile_append_of_pos hdig,
      List.dropWhile_append_of_pos hdig, hstop.1, hstop.2, List.append_nil, hemp, hall]
    rfl

/-- A run of digits alone. -/
theorem numeral_of_digits {digits : Text} (h : Digits digits) (hne : digits ≠ []) :
    numeral digits = some digits :=
  numeral_eq_some_iff.mpr ⟨[], [], by simp, by simp, by simp, h, hne⟩

end CallFwd
