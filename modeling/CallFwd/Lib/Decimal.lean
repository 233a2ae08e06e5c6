/-
# Decimal numerals as lists of characters

`Nat.ofDigitChars 10` reads a run of digits and `Nat.toDigits 10` prints a number; the core
library has the direction print-then-read.  Here is the other one, and what follows from it.

* `toDigits_ofDigitChars`: a run that does not start with '0' is what its value prints.
* `ofDigitChars_inj_iff`: two runs have the same value when they are the same up to LEADING ZEROS.
* `isPrefix_leftpad_iff`: the numbers whose zero-padded form starts with a given run are an
  INTERVAL, whatever zeros the run starts with.
-/
import Mathlib.Data.List.TakeWhile
import Mathlib.Tactic

namespace CallFwd.Lib

/-- A run of decimal digits. -/
def Digits (ds : List Char) : Prop := ∀ c ∈ ds, c.isDigit = true

namespace Digits

variable {c : Char} {ds es : List Char}

theorem nil : Digits [] := by
  simp [Digits]

theorem cons_iff : Digits (c :: ds) ↔ c.isDigit = true ∧ Digits ds := by
  simp [Digits]

theorem append_iff : Digits (ds ++ es) ↔ Digits ds ∧ Digits es := by
  simp [Digits, or_imp, forall_and]

theorem take (h : Digits ds) (n : ℕ) : Digits (ds.take n) :=
  fun c hc => h c (List.mem_of_mem_take hc)

theorem drop (h : Digits ds) (n : ℕ) : Digits (ds.drop n) :=
  fun c hc => h c (List.mem_of_mem_drop hc)

theorem takeWhile (s : List Char) : Digits (s.takeWhile Char.isDigit) :=
  fun _ => List.mem_takeWhile_imp

end Digits

/-! ## 1. The value of a run -/

section Value

variable {c : Char} {ds es : List Char}

theorem digit_bounds (h : c.isDigit = true) : 48 ≤ c.toNat ∧ c.toNat ≤ 57 := by
  simp only [Char.isDigit, Bool.and_eq_true, decide_eq_true_eq] at h
  exact ⟨UInt32.le_iff_toNat_le.mp h.1, UInt32.le_iff_toNat_le.mp h.2⟩

theorem ofDigitChars_append_zero :
    Nat.ofDigitChars 10 (ds ++ es) 0 =
      10 ^ es.length * Nat.ofDigitChars 10 ds 0 + Nat.ofDigitChars 10 es 0 := by
  rw [Nat.ofDigitChars_append, Nat.ofDigitChars_eq_ofDigitChars_zero]

theorem ofDigitChars_cons_zero :
    Nat.ofDigitChars 10 (c :: ds) 0 =
      10 ^ ds.length * (c.toNat - 48) + Nat.ofDigitChars 10 ds 0 := by
  rw [Nat.ofDigitChars_cons, Nat.ofDigitChars_eq_ofDigitChars_zero]
  simp

/-- `n` digits stay below `10^n`. -/
theorem ofDigitChars_lt (h : Digits ds) : Nat.ofDigitChars 10 ds 0 < 10 ^ ds.length := by
  induction ds with
  | nil => simp
  | cons c ds ih =>
    obtain ⟨hc, hds⟩ := Digits.cons_iff.mp h
    have hlt := ih hds
    have hd : c.toNat - 48 ≤ 9 := by
      have := digit_bounds hc
      omega
    have hmul : 10 ^ ds.length * (c.toNat - 48) ≤ 10 ^ ds.length * 9 := Nat.mul_le_mul_left _ hd
    rw [ofDigitChars_cons_zero, List.length_cons, pow_succ]
    omega

/-- A first digit other than '0' fixes the number of digits of the value. -/
theorem le_ofDigitChars (h : Digits (c :: ds)) (hc : c ≠ '0') :
    10 ^ ds.length ≤ Nat.ofDigitChars 10 (c :: ds) 0 := by
  have hd : 1 ≤ c.toNat - 48 := by
    have := digit_bounds (Digits.cons_iff.mp h).1
    have hne : c.toNat ≠ 48 := fun e => hc (Char.toNat_inj.mp e)
    omega
  have hmul : 10 ^ ds.length * 1 ≤ 10 ^ ds.length * (c.toNat - 48) := Nat.mul_le_mul_left _ hd
  rw [ofDigitChars_cons_zero]
  omega

/-- A digit is what its value prints. -/
theorem digitChar_digit (h : c.isDigit = true) : Nat.digitChar (c.toNat - 48) = c := by
  have := digit_bounds h
  apply Char.toNat_inj.mp
  rw [Nat.toNat_digitChar_of_lt_ten (by omega)]
  omega

/-- **Reading and printing back**: a run that does not start with '0'. -/
theorem toDigits_ofDigitChars (h : Digits (c :: ds)) (hc : c ≠ '0') :
    Nat.toDigits 10 (Nat.ofDigitChars 10 (c :: ds) 0) = c :: ds := by
  induction ds using List.reverseRecOn with
  | nil =>
    have := digit_bounds (Digits.cons_iff.mp h).1
    rw [ofDigitChars_cons_zero]
    simp only [List.length_nil, pow_zero, one_mul, Nat.ofDigitChars_nil, Nat.add_zero]
    rw [Nat.toDigits_of_lt_base (by omega), digitChar_digit (Digits.cons_iff.mp h).1]
  | append_singleton ds d ih =>
    rw [← List.cons_append] at h ⊢
    obtain ⟨hds, hd⟩ := Digits.append_iff.mp h
    have hd1 : d.isDigit = true := (Digits.cons_iff.mp hd).1
    have hb := digit_bounds hd1
    have hpos : 0 < Nat.ofDigitChars 10 (c :: ds) 0 :=
      lt_of_lt_of_le (Nat.pow_pos (by decide)) (le_ofDigitChars hds hc)
    have hval : Nat.ofDigitChars 10 (c :: ds ++ [d]) 0 =
        10 * Nat.ofDigitChars 10 (c :: ds) 0 + (d.toNat - 48) := by
      rw [ofDigitChars_append_zero, ofDigitChars_cons_zero (c := d)]
      simp
    rw [hval, ← Nat.toDigits_append_toDigits (by decide) hpos (by omega), ih hds,
      Nat.toDigits_of_lt_base (by omega), digitChar_digit hd1]

end Value

/-! ## 2. Leading zeros -/

/-- A run without its leading zeros. -/
def stripZeros (ds : List Char) : List Char := ds.dropWhile (· == '0')

section Zeros

variable {ds es : List Char}

theorem Digits.stripZeros (h : Digits ds) : Digits (stripZeros ds) :=
  fun c hc => h c ((List.dropWhile_sublist _).subset hc)

/-- The leading zeros, and the rest. -/
theorem replicate_append_stripZeros (ds : List Char) :
    ∃ n, ds = List.replicate n '0' ++ stripZeros ds := by
  refine ⟨(ds.takeWhile (· == '0')).length, ?_⟩
  have hzeros : ds.takeWhile (· == '0') =
      List.replicate (ds.takeWhile (· == '0')).length '0' := by
    rw [List.eq_replicate_iff]
    exact ⟨rfl, fun c hc => by simpa using List.mem_takeWhile_imp hc⟩
  conv_lhs => rw [← List.takeWhile_append_dropWhile (p := (· == '0')) (l := ds), hzeros]
  rfl

/-- Leading zeros do not count. -/
theorem ofDigitChars_stripZeros (ds : List Char) :
    Nat.ofDigitChars 10 (stripZeros ds) 0 = Nat.ofDigitChars 10 ds 0 := by
  obtain ⟨n, hn⟩ := replicate_append_stripZeros ds
  conv_rhs => rw [hn]
  rw [ofDigitChars_append_zero]
  simp

theorem head_stripZeros {c : Char} (h : stripZeros ds = c :: es) : c ≠ '0' := by
  rintro rfl
  have := List.head?_dropWhile_not (p := (· == '0')) ds
  rw [show ds.dropWhile (· == '0') = '0' :: es from h] at this
  simp at this

theorem ofDigitChars_eq_zero_iff (h : Digits ds) :
    Nat.ofDigitChars 10 ds 0 = 0 ↔ stripZeros ds = [] := by
  rw [← ofDigitChars_stripZeros]
  cases hs : stripZeros ds with
  | nil => simp
  | cons c cs =>
    have hle := le_ofDigitChars (hs ▸ h.stripZeros) (head_stripZeros hs)
    have hpos : 0 < 10 ^ cs.length := Nat.pow_pos (by decide)
    simp only [reduceCtorEq, iff_false]
    omega

/-- **Equal values**: the runs are the same up to leading zeros. -/
theorem ofDigitChars_inj_iff (hd : Digits ds) (he : Digits es) :
    Nat.ofDigitChars 10 ds 0 = Nat.ofDigitChars 10 es 0 ↔ stripZeros ds = stripZeros es := by
  constructor
  · intro h
    cases hs : stripZeros ds with
    | nil =>
      rw [(ofDigitChars_eq_zero_iff hd).mpr hs] at h
      exact ((ofDigitChars_eq_zero_iff he).mp h.symm).symm
    | cons c cs =>
      cases ht : stripZeros es with
      | nil =>
        rw [(ofDigitChars_eq_zero_iff he).mpr ht, ofDigitChars_eq_zero_iff hd, hs] at h
        cases h
      | cons d ds' =>
        rw [← ofDigitChars_stripZeros ds, ← ofDigitChars_stripZeros es, hs, ht] at h
        rw [← toDigits_ofDigitChars (hs ▸ hd.stripZeros) (head_stripZeros hs), h,
          toDigits_ofDigitChars (ht ▸ he.stripZeros) (head_stripZeros ht)]
  · intro h
    rw [← ofDigitChars_stripZeros ds, h, ofDigitChars_stripZeros]

/-- Runs of one length are told apart by their values. -/
theorem eq_of_ofDigitChars_eq (hd : Digits ds) (he : Digits es) (hlen : ds.length = es.length)
    (h : Nat.ofDigitChars 10 ds 0 = Nat.ofDigitChars 10 es 0) : ds = es := by
  have hs := (ofDigitChars_inj_iff hd he).mp h
  obtain ⟨m, hm⟩ := replicate_append_stripZeros ds
  obtain ⟨n, hn⟩ := replicate_append_stripZeros es
  have hmn : m = n := by
    rw [hm, hn, hs, List.length_append, List.length_append, List.length_replicate,
      List.length_replicate] at hlen
    omega
  rw [hm, hn, hs, hmn]

end Zeros

/-! ## 3. Padding to a fixed width -/

section Padding

variable {ds : List Char} {n v : ℕ}

theorem digits_toDigits (v : ℕ) : Digits (Nat.toDigits 10 v) :=
  fun _ => Nat.isDigit_of_mem_toDigits (by decide) (by decide)

/-- A numeral has a leading zero only if it is one. -/
theorem head_toDigits_ne_zero {v : ℕ} (h : 1 < (Nat.toDigits 10 v).length) :
    (Nat.toDigits 10 v).head? ≠ some '0' := by
  intro hhead
  obtain ⟨ds, hds⟩ := List.head?_eq_some_iff.mp hhead
  have hdig : Digits ds := (Digits.cons_iff.mp (hds ▸ digits_toDigits v)).2
  have hvalue : v = Nat.ofDigitChars 10 ds 0 := by
    have h1 : Nat.ofDigitChars 10 ('0' :: ds) 0 = v := by
      rw [← hds, Nat.ofDigitChars_toDigits (by decide) (by decide)]
    rw [← h1, ofDigitChars_cons_zero]
    simp
  rw [hds, List.length_cons] at h
  have hle := (Nat.length_toDigits_le_iff (by decide) (by omega)).mpr
    (hvalue ▸ ofDigitChars_lt hdig : v < 10 ^ ds.length)
  rw [hds, List.length_cons] at hle
  omega

theorem digits_leftpad (n v : ℕ) : Digits ((Nat.toDigits 10 v).leftpad n '0') := by
  rw [List.leftpad, Digits.append_iff]
  refine ⟨?_, digits_toDigits v⟩
  intro c hc
  rw [List.eq_of_mem_replicate hc]
  rfl

theorem length_leftpad_toDigits (hn : 0 < n) (hv : v < 10 ^ n) :
    ((Nat.toDigits 10 v).leftpad n '0').length = n := by
  rw [List.length_leftpad]
  exact max_eq_left ((Nat.length_toDigits_le_iff (by decide) hn).mpr hv)

theorem ofDigitChars_leftpad (n v : ℕ) :
    Nat.ofDigitChars 10 ((Nat.toDigits 10 v).leftpad n '0') 0 = v := by
  rw [List.leftpad, ofDigitChars_append_zero]
  simp

/-- **The numbers whose padded form starts with a run are an interval.** -/
theorem isPrefix_leftpad_iff (hds : Digits ds) (hn : 0 < n) (hlen : ds.length ≤ n)
    (hv : v < 10 ^ n) :
    ds <+: (Nat.toDigits 10 v).leftpad n '0' ↔
      Nat.ofDigitChars 10 ds 0 * 10 ^ (n - ds.length) ≤ v ∧
        v < (Nat.ofDigitChars 10 ds 0 + 1) * 10 ^ (n - ds.length) := by
  have hwhole := digits_leftpad n v
  have hlen' := length_leftpad_toDigits hn hv
  have hvalue := ofDigitChars_leftpad n v
  generalize (Nat.toDigits 10 v).leftpad n '0' = es at hwhole hlen' hvalue
  -- the value splits at the length of the run
  have htake : (es.take ds.length).length = ds.length := by
    rw [List.length_take]
    omega
  have hdrop : (es.drop ds.length).length = n - ds.length := by
    rw [List.length_drop, hlen']
  have hrest := ofDigitChars_lt (hwhole.drop ds.length)
  rw [← List.take_append_drop ds.length es, ofDigitChars_append_zero, hdrop] at hvalue
  rw [hdrop] at hrest
  have hpre : ds <+: es ↔
      Nat.ofDigitChars 10 (es.take ds.length) 0 = Nat.ofDigitChars 10 ds 0 := by
    rw [List.prefix_iff_eq_take]
    constructor
    · intro h
      rw [← h]
    · intro h
      exact eq_of_ofDigitChars_eq hds (hwhole.take _) htake.symm h.symm
  rw [hpre]
  generalize Nat.ofDigitChars 10 (es.take ds.length) 0 = a at hvalue
  generalize Nat.ofDigitChars 10 (es.drop ds.length) 0 = r at hvalue hrest
  generalize 10 ^ (n - ds.length) = p at hvalue hrest ⊢
  generalize Nat.ofDigitChars 10 ds 0 = b
  subst hvalue
  constructor
  · rintro rfl
    constructor
    · nlinarith
    · nlinarith
  · rintro ⟨h1, h2⟩
    have hle : b ≤ a := by
      by_contra hlt
      have : (a + 1) * p ≤ b * p := Nat.mul_le_mul_right p (by omega)
      nlinarith
    have hge : a ≤ b := by
      by_contra hlt
      have : (b + 1) * p ≤ a * p := Nat.mul_le_mul_right p (by omega)
      nlinarith
    omega

end Padding

end CallFwd.Lib
