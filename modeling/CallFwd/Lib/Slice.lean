/-
# Stretches of a list, by offsets

A scanner that goes over a text once keeps offsets into it.  `slice t a b` is what lies between two
of them, and `Without t cs a b` says which elements do not lie there; one more element extends
either (`slice_succ`, `Without.succ`).
-/
import Mathlib.Data.List.Basic

namespace CallFwd.Lib

variable {α : Type} {t : List α} {cs ds : List α} {a b m : ℕ} {c : α}

/-! ## 1. Slices -/

/-- The elements from `a` on and before `b`. -/
def slice (t : List α) (a b : ℕ) : List α := (t.drop a).take (b - a)

@[simp] theorem slice_self (t : List α) (a : ℕ) : slice t a a = [] := by
  rw [slice, Nat.sub_self, List.take_zero]

theorem slice_eq_nil_of_le (t : List α) (h : b ≤ a) : slice t a b = [] := by
  rw [slice, Nat.sub_eq_zero_of_le h, List.take_zero]

theorem slice_zero (t : List α) (b : ℕ) : slice t 0 b = t.take b := by
  rw [slice, List.drop_zero, Nat.sub_zero]

theorem slice_length (t : List α) (a : ℕ) : slice t a t.length = t.drop a := by
  rw [slice, ← List.length_drop, List.take_length]

/-- Two stretches that meet. -/
theorem slice_append (h : a ≤ m) (h' : m ≤ b) : slice t a m ++ slice t m b = slice t a b := by
  have hb : b - a = (m - a) + (b - m) := by omega
  have hm : a + (m - a) = m := by omega
  rw [slice, slice, slice, hb, List.take_add, List.drop_drop, hm]

theorem slice_one (hc : t[a]? = some c) : slice t a (a + 1) = [c] := by
  obtain ⟨hlt, hget⟩ := List.getElem?_eq_some_iff.mp hc
  rw [slice, Nat.add_sub_cancel_left, List.drop_eq_getElem_cons hlt, hget]
  rfl

/-- A stretch grows by the element behind it. -/
theorem slice_succ (h : a ≤ b) (hc : t[b]? = some c) : slice t a (b + 1) = slice t a b ++ [c] := by
  rw [← slice_append h (Nat.le_succ b), slice_one hc]

/-- A stretch that is not empty begins with the element at its offset. -/
theorem slice_eq_cons (h : a < b) (hc : t[a]? = some c) :
    slice t a b = c :: slice t (a + 1) b := by
  rw [← slice_append (Nat.le_succ a) h, slice_one hc]
  rfl

/-- What lies in a stretch, by offsets. -/
theorem mem_slice : c ∈ slice t a b ↔ ∃ i, a ≤ i ∧ i < b ∧ t[i]? = some c := by
  rw [slice, List.mem_iff_getElem?]
  constructor
  · rintro ⟨i, hi⟩
    rw [List.getElem?_take, List.getElem?_drop] at hi
    split at hi
    · exact ⟨a + i, by omega, by omega, hi⟩
    · cases hi
  · rintro ⟨i, ha, hb, hi⟩
    refine ⟨i - a, ?_⟩
    rw [List.getElem?_take, if_pos (by omega), List.getElem?_drop, Nat.add_sub_cancel' ha, hi]

/-! ## 2. What does not lie in a stretch -/

/-- None of `cs` lies between `a` and `b`. -/
def Without (t cs : List α) (a b : ℕ) : Prop := ∀ i c, a ≤ i → i < b → t[i]? = some c → c ∉ cs

namespace Without

theorem refl (t cs : List α) (a : ℕ) : Without t cs a a := by
  intro i c ha hb
  omega

/-- A stretch grows by an element that is none of `cs`. -/
theorem succ (h : Without t cs a b) (hc : t[b]? = some c) (hne : c ∉ cs) :
    Without t cs a (b + 1) := by
  intro i d ha hb hd
  by_cases hi : i = b
  · subst hi
    rw [hc] at hd
    cases hd
    exact hne
  · exact h i d ha (by omega) hd

/-- Two stretches that meet. -/
theorem append (h : Without t cs a m) (h' : Without t cs m b) : Without t cs a b := by
  intro i d ha hb hd
  by_cases hi : i < m
  · exact h i d ha hi hd
  · exact h' i d (by omega) hb hd

/-- A smaller stretch, and fewer elements. -/
theorem mono {a' b' : ℕ} (h : Without t cs a b) (ha : a ≤ a') (hb : b' ≤ b) (hsub : ds ⊆ cs) :
    Without t ds a' b' := by
  intro i d hi hi' hd hmem
  exact h i d (by omega) (by omega) hd (hsub hmem)

/-- The same of the elements, without their offsets. -/
theorem iff_mem : Without t cs a b ↔ ∀ c ∈ slice t a b, c ∉ cs := by
  constructor
  · intro h c hc
    obtain ⟨i, ha, hb, hi⟩ := mem_slice.mp hc
    exact h i c ha hb hi
  · intro h i c ha hb hi
    exact h c (mem_slice.mpr ⟨i, ha, hb, hi⟩)

theorem not_mem (h : Without t cs a b) (hc : c ∈ cs) : c ∉ slice t a b :=
  fun hmem => iff_mem.mp h c hmem hc

end Without

end CallFwd.Lib
