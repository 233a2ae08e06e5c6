/-
# Filling an array block by block

A batch of keys is looked up in blocks of at most `prefetch` keys: the keys of a block are hashed
ahead, then its slots of the output array are filled one after the other.  A slot may look at what
it held before.  `fillBlocks_eq_zipWith` says that the blocks cannot be seen in the result.

`foldlM_range_ok` is the rule for a counted loop whose turns can stop.
-/
import Mathlib.Data.PNat.Defs

namespace CallFwd.Lib

variable {K V : Type}

/-- `while (N > 0) { M = min(N, prefetch); fill M slots; pn += M; out += M; N -= M; }` -/
def fillBlocks (prefetch : ℕ+) (slot : K → V → V) (pn : List K) (out : List V) : List V :=
  if _h : pn = [] then []
  else
    let M := min pn.length prefetch
    List.zipWith slot (pn.take M) (out.take M) ++
      fillBlocks prefetch slot (pn.drop M) (out.drop M)
termination_by pn.length
decreasing_by
  have hpos : 0 < pn.length := List.length_pos_iff.mpr _h
  have := prefetch.pos
  simp only [List.length_drop]
  omega

/-- **The blocks are invisible in the answer.** -/
theorem fillBlocks_eq_zipWith (prefetch : ℕ+) (slot : K → V → V) (pn : List K) (out : List V)
    (hlen : out.length = pn.length) :
    fillBlocks prefetch slot pn out = List.zipWith slot pn out := by
  induction hn : pn.length using Nat.strong_induction_on generalizing pn out with
  | _ n ih =>
    rw [fillBlocks]
    split
    · rename_i h
      rw [h, List.zipWith_nil_left]
    · rename_i h
      have hpos : 0 < pn.length := List.length_pos_iff.mpr h
      have hp := prefetch.pos
      have hrest := ih (pn.drop (min pn.length prefetch)).length
        (by rw [List.length_drop]; omega) (pn.drop (min pn.length prefetch))
        (out.drop (min pn.length prefetch)) (by rw [List.length_drop, List.length_drop, hlen]) rfl
      have hcut : (pn.take (min pn.length prefetch)).length =
          (out.take (min pn.length prefetch)).length := by
        rw [List.length_take, List.length_take, hlen]
      simp only [hrest]
      rw [← List.zipWith_append hcut, List.take_append_drop, List.take_append_drop]

/-- Slots that all start out alike. -/
theorem fillBlocks_replicate (prefetch : ℕ+) (slot : K → V → V) (pn : List K) (v : V) :
    fillBlocks prefetch slot pn (List.replicate pn.length v) = pn.map (slot · v) := by
  rw [fillBlocks_eq_zipWith prefetch slot pn _ List.length_replicate]
  induction pn with
  | nil => rfl
  | cons k pn ih => rw [List.length_cons, List.replicate_succ, List.zipWith_cons_cons, ih,
      List.map_cons]

/-- **The rule for a counted loop**: if every turn returns and keeps the invariant, the loop
returns, and the invariant holds at its end. -/
theorem foldlM_range_ok {ε S : Type} {step : S → ℕ → Except ε S} {P : ℕ → S → Prop} {s : S}
    (h0 : P 0 s) {M : ℕ}
    (hstep : ∀ i s, i < M → P i s → ∃ s', step s i = .ok s' ∧ P (i + 1) s') :
    ∃ s', (List.range M).foldlM step s = .ok s' ∧ P M s' := by
  induction M with
  | zero => exact ⟨s, rfl, h0⟩
  | succ M ih =>
    obtain ⟨s₁, h1, hinv₁⟩ := ih fun i s hi => hstep i s (Nat.lt_succ_of_lt hi)
    obtain ⟨s₂, h2, hinv₂⟩ := hstep M s₁ (Nat.lt_succ_self M) hinv₁
    refine ⟨s₂, ?_, hinv₂⟩
    rw [List.range_succ, List.foldlM_append, h1]
    change List.foldlM step s₁ [M] = .ok s₂
    rw [List.foldlM_cons, h2]
    rfl

end CallFwd.Lib
