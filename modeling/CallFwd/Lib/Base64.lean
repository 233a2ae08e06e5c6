/-
# Base64 for URLs (RFC 4648), without padding

A text of bytes is a list of characters below 256.  Three bytes are four characters, and one or two
bytes at the end are two or three.

`decode_encode` is the round trip, and `inAlphabet_of_mem_encode` says which characters are used.
-/
import Mathlib.Data.Char

namespace CallFwd.Lib.Base64

/-! ## 1. Characters of six bits -/

def char (n : ℕ) : Char :=
  if n < 26 then Char.ofNat (n + 65)
  else if n < 52 then Char.ofNat (n + 71)
  else if n < 62 then Char.ofNat (n - 4)
  else if n = 62 then '-'
  else '_'

def value (c : Char) : Option ℕ :=
  if 'A' ≤ c ∧ c ≤ 'Z' then some (c.toNat - 65)
  else if 'a' ≤ c ∧ c ≤ 'z' then some (c.toNat - 71)
  else if '0' ≤ c ∧ c ≤ '9' then some (c.toNat + 4)
  else if c = '-' then some 62
  else if c = '_' then some 63
  else none

/-- A letter, a digit, or one of the two other characters; the padding too, for the variants that
have it. -/
def InAlphabet (c : Char) : Prop := c.isAlphanum = true ∨ c = '-' ∨ c = '_' ∨ c = '='

/-- The characters have the 64 values, each its own. -/
theorem value_char {n : ℕ} (h : n < 64) : value (char n) = some n := by
  revert n
  decide

/-- A value out of range is printed like the last one. -/
theorem inAlphabet_char (n : ℕ) : InAlphabet (char n) := by
  have hsmall : ∀ n < 64, (char n).isAlphanum = true ∨ char n = '-' ∨ char n = '_' := by decide
  by_cases h : n < 64
  · rcases hsmall n h with h | h | h
    · exact Or.inl h
    · exact Or.inr (Or.inl h)
    · exact Or.inr (Or.inr (Or.inl h))
  · have hlast : char n = '_' := by
      rw [char, if_neg (by omega), if_neg (by omega), if_neg (by omega), if_neg (by omega)]
    exact Or.inr (Or.inr (Or.inl hlast))

/-! ## 2. Texts -/

def encode : List Char → List Char
  | [] => []
  | [a] => [char (a.toNat / 4), char (a.toNat % 4 * 16)]
  | [a, b] =>
    [char (a.toNat / 4), char (a.toNat % 4 * 16 + b.toNat / 16), char (b.toNat % 16 * 4)]
  | a :: b :: c :: t =>
    char (a.toNat / 4) :: char (a.toNat % 4 * 16 + b.toNat / 16) ::
      char (b.toNat % 16 * 4 + c.toNat / 64) :: char (c.toNat % 64) :: encode t

def decode : List Char → Option (List Char)
  | [] => some []
  | [_] => none
  | [p, q] => do
    let p ← value p
    let q ← value q
    return [Char.ofNat (p * 4 + q / 16)]
  | [p, q, r] => do
    let p ← value p
    let q ← value q
    let r ← value r
    return [Char.ofNat (p * 4 + q / 16), Char.ofNat (q % 16 * 16 + r / 4)]
  | p :: q :: r :: s :: t => do
    let p ← value p
    let q ← value q
    let r ← value r
    let s ← value s
    let t ← decode t
    return Char.ofNat (p * 4 + q / 16) :: Char.ofNat (q % 16 * 16 + r / 4) ::
      Char.ofNat (r % 4 * 64 + s) :: t

/-- A text of bytes. -/
def Bytes (t : List Char) : Prop := ∀ c ∈ t, c.toNat < 256

theorem bytes_of_all {t : List Char} (h : (t.all fun c => decide (c.toNat < 256)) = true) :
    Bytes t :=
  fun c hc => of_decide_eq_true (List.all_eq_true.mp h c hc)

theorem ofNat_eq {n : ℕ} {c : Char} (h : n = c.toNat) : Char.ofNat n = c := by
  rw [h, Char.ofNat_toNat]

/-- **Decoding undoes encoding.** -/
theorem decode_encode {t : List Char} (h : Bytes t) : decode (encode t) = some t := by
  fun_induction encode t with
  | case1 => rfl
  | case2 a =>
    have ha : a.toNat < 256 := h a (by simp)
    have hfirst : a.toNat / 4 * 4 + a.toNat % 4 * 16 / 16 = a.toNat := by omega
    simp only [decode, Option.bind_eq_bind, Option.bind_some,
      value_char (show a.toNat / 4 < 64 by omega),
      value_char (show a.toNat % 4 * 16 < 64 by omega), ofNat_eq hfirst]
    rfl
  | case3 a b =>
    have ha : a.toNat < 256 := h a (by simp)
    have hb : b.toNat < 256 := h b (by simp)
    have hfirst : a.toNat / 4 * 4 + (a.toNat % 4 * 16 + b.toNat / 16) / 16 = a.toNat := by omega
    have hsecond : (a.toNat % 4 * 16 + b.toNat / 16) % 16 * 16 + b.toNat % 16 * 4 / 4 =
        b.toNat := by omega
    simp only [decode, Option.bind_eq_bind, Option.bind_some,
      value_char (show a.toNat / 4 < 64 by omega),
      value_char (show a.toNat % 4 * 16 + b.toNat / 16 < 64 by omega),
      value_char (show b.toNat % 16 * 4 < 64 by omega), ofNat_eq hfirst, ofNat_eq hsecond]
    rfl
  | case4 a b c t ih =>
    have ha : a.toNat < 256 := h a (by simp)
    have hb : b.toNat < 256 := h b (by simp)
    have hc : c.toNat < 256 := h c (by simp)
    have hrest := ih fun d hd => h d (by simp [hd])
    have hfirst : a.toNat / 4 * 4 + (a.toNat % 4 * 16 + b.toNat / 16) / 16 = a.toNat := by omega
    have hsecond : (a.toNat % 4 * 16 + b.toNat / 16) % 16 * 16 +
        (b.toNat % 16 * 4 + c.toNat / 64) / 4 = b.toNat := by omega
    have hthird : (b.toNat % 16 * 4 + c.toNat / 64) % 4 * 64 + c.toNat % 64 = c.toNat := by omega
    simp only [decode, Option.bind_eq_bind, Option.bind_some,
      value_char (show a.toNat / 4 < 64 by omega),
      value_char (show a.toNat % 4 * 16 + b.toNat / 16 < 64 by omega),
      value_char (show b.toNat % 16 * 4 + c.toNat / 64 < 64 by omega),
      value_char (show c.toNat % 64 < 64 by omega), hrest, ofNat_eq hfirst, ofNat_eq hsecond,
      ofNat_eq hthird]
    rfl

/-- **Only the alphabet is used.** -/
theorem inAlphabet_of_mem_encode {t : List Char} {c : Char} (h : c ∈ encode t) : InAlphabet c := by
  fun_induction encode t with
  | case1 => cases h
  | case2 a =>
    simp only [List.mem_cons, List.not_mem_nil, or_false] at h
    rcases h with rfl | rfl
    all_goals exact inAlphabet_char _
  | case3 a b =>
    simp only [List.mem_cons, List.not_mem_nil, or_false] at h
    rcases h with rfl | rfl | rfl
    all_goals exact inAlphabet_char _
  | case4 a b c t ih =>
    simp only [List.mem_cons] at h
    rcases h with rfl | rfl | rfl | rfl | h
    · exact inAlphabet_char _
    · exact inAlphabet_char _
    · exact inAlphabet_char _
    · exact inAlphabet_char _
    · exact ih h

end CallFwd.Lib.Base64
