/-
# Sorting keeps the order of what it does not tell apart

`List.insertionSort` puts an element in front of the first one it is not greater than, so elements
that compare equal stay in the order they came in.  `pairwise_insertionSort_stable` says this for
any order `S` the list came in, and `eq_insertionSort` that it determines the result.
-/
import Mathlib.Data.List.Sort

namespace CallFwd.Lib

variable {α : Type} (r : α → α → Prop) [DecidableRel r] (S : α → α → Prop)

/-- `a` comes before `b`: by `r`, and by `S` where `r` does not tell them apart. -/
def StableLE (a b : α) : Prop := r a b ∧ (r b a → S a b)

variable {r S}

/-- The step: an element that came before all the others. -/
theorem pairwise_orderedInsert_stable (htotal : ∀ a b, r a b ∨ r b a)
    (htrans : ∀ a b c, r a b → r b c → r a c) {a : α} {l : List α} (ha : ∀ b ∈ l, S a b)
    (hl : l.Pairwise (StableLE r S)) : (l.orderedInsert r a).Pairwise (StableLE r S) := by
  induction l with
  | nil => simp
  | cons b l ih =>
    obtain ⟨hb, hrest⟩ := List.pairwise_cons.mp hl
    by_cases hab : r a b
    · rw [List.orderedInsert_cons, if_pos hab, List.pairwise_cons]
      refine ⟨?_, hl⟩
      intro x hx
      have hax : r a x := by
        rcases List.mem_cons.mp hx with rfl | hx
        · exact hab
        · exact htrans a b x hab (hb x hx).1
      exact ⟨hax, fun _ => ha x hx⟩
    · rw [List.orderedInsert_cons, if_neg hab, List.pairwise_cons]
      refine ⟨?_, ?_⟩
      · intro x hx
        rcases (List.mem_orderedInsert r).mp hx with rfl | hx
        · exact ⟨(htotal b x).resolve_right hab, fun h => absurd h hab⟩
        · exact hb x hx
      · exact ih (fun x hx => ha x (List.mem_cons_of_mem _ hx)) hrest

/-- **Sorting is stable.** -/
theorem pairwise_insertionSort_stable (htotal : ∀ a b, r a b ∨ r b a)
    (htrans : ∀ a b c, r a b → r b c → r a c) {l : List α} (hl : l.Pairwise S) :
    (l.insertionSort r).Pairwise (StableLE r S) := by
  induction l with
  | nil => simp
  | cons a l ih =>
    obtain ⟨ha, hrest⟩ := List.pairwise_cons.mp hl
    rw [List.insertionSort_cons]
    refine pairwise_orderedInsert_stable htotal htrans ?_ (ih hrest)
    intro b hb
    exact ha b ((List.perm_insertionSort r l).mem_iff.mp hb)

/-- The sorted list is the only one with the same elements in that order. -/
theorem eq_insertionSort (htotal : ∀ a b, r a b ∨ r b a)
    (htrans : ∀ a b c, r a b → r b c → r a c) (hanti : ∀ a b, S a b → ¬ S b a) {l out : List α}
    (hl : l.Pairwise S) (hperm : out.Perm l) (hout : out.Pairwise (StableLE r S)) :
    out = l.insertionSort r := by
  refine List.Perm.eq_of_pairwise ?_ hout (pairwise_insertionSort_stable htotal htrans hl)
    (hperm.trans (List.perm_insertionSort r l).symm)
  intro a b _ _ hab hba
  exact absurd (hba.2 hab.1) (hanti a b (hab.2 hba.1))

end CallFwd.Lib
