/-
# A list threaded through an array in sorted order, and an index into it

The nodes of an array are linked by a `next` field in the order of a sorted list.  A second,
sorted table keeps one entry per key: the FIRST node with that key.  Two `lower_bound` searches
in the table then give the two ends of a walk along the links, and the walk visits exactly the
nodes whose key lies in a half-open interval.

* `walks_wire`: storing, at each node of a duplicate-free list, the node that follows it makes
  the links walk that list.
* `walks_between`: the part of a walk of a sorted list between two keys.
* `find?_destutter`: dropping all but the first entry of each key does not change where a search
  for a key ends up.
* `pairwise_destutter`, `mem_map_destutter_iff`, `find?_of_mem_destutter`: what is left is
  strictly increasing, has all the keys, and consists of the first entries.
-/
import Mathlib.Data.List.Destutter
import Mathlib.Data.List.Nodup
import Mathlib.Tactic

namespace CallFwd.Lib

/-! ## 1. Walks -/

/-- Following `next` from `a` visits `xs` in this order and then stands at `b`. -/
def Walks (next : ℕ → ℕ) : ℕ → List ℕ → ℕ → Prop
  | a, [], b => a = b
  | a, x :: xs, b => a = x ∧ Walks next (next x) xs b

section Walks

variable {next : ℕ → ℕ}

theorem walks_append {xs ys : List ℕ} {a c : ℕ} :
    Walks next a (xs ++ ys) c ↔ ∃ b, Walks next a xs b ∧ Walks next b ys c := by
  induction xs generalizing a with
  | nil =>
    constructor
    · intro h
      exact ⟨a, rfl, h⟩
    · rintro ⟨b, rfl, h⟩
      exact h
  | cons x xs ih =>
    constructor
    · rintro ⟨hx, h⟩
      obtain ⟨b, h1, h2⟩ := ih.mp h
      exact ⟨b, ⟨hx, h1⟩, h2⟩
    · rintro ⟨b, ⟨hx, h1⟩, h2⟩
      exact ⟨hx, ih.mpr ⟨b, h1, h2⟩⟩

/-- A walk starts at its first node, or is already at its end. -/
theorem Walks.start_eq : ∀ {xs : List ℕ} {a b : ℕ}, Walks next a xs b → a = xs.head?.getD b
  | [], _, _, h => h
  | _ :: _, _, _, h => h.1

/-- Links that count up inside an interval visit it. -/
theorem walks_range' (n a : ℕ) (hnext : ∀ i, a ≤ i → i < a + n → next i = i + 1) :
    Walks next a (List.range' a n) (a + n) := by
  induction n generalizing a with
  | zero => rfl
  | succ n ih =>
    refine ⟨rfl, ?_⟩
    rw [hnext a (le_refl a) (by omega)]
    have h := ih (a + 1) fun i h1 h2 => hnext i (by omega) (by omega)
    rwa [Nat.add_right_comm a 1 n] at h

end Walks

/-! ## 2. Storing the links -/

/-- For each node of the list but the last, store the node that follows it. -/
def wire : List ℕ → (ℕ → ℕ) → ℕ → ℕ
  | a :: b :: rest, next => wire (b :: rest) (Function.update next a b)
  | _, next => next

/-- Nodes outside the list keep their link. -/
theorem wire_of_not_mem : ∀ {order : List ℕ} {next : ℕ → ℕ} {x : ℕ}, x ∉ order →
    wire order next x = next x
  | [], _, _, _ => rfl
  | [_], _, _, _ => rfl
  | a :: b :: rest, next, x, h => by
    have hxa : x ≠ a := fun e => h (e ▸ List.mem_cons_self)
    rw [wire, wire_of_not_mem fun hm => h (List.mem_cons_of_mem _ hm),
      Function.update_of_ne hxa]

/-- **The links walk the list.**  The last node keeps the link it had, which has to be the end
mark. -/
theorem walks_wire {stop : ℕ} : ∀ {order : List ℕ} {next : ℕ → ℕ}, order.Nodup →
    (∀ x ∈ order, next x = stop) → Walks (wire order next) (order.head?.getD stop) order stop
  | [], _, _, _ => rfl
  | [a], _, _, h => ⟨rfl, h a List.mem_cons_self⟩
  | a :: b :: rest, next, hnd, h => by
    obtain ⟨ha, hnd'⟩ := List.nodup_cons.mp hnd
    have hstop : ∀ x ∈ b :: rest, Function.update next a b x = stop := by
      intro x hx
      have hxa : x ≠ a := fun e => ha (e ▸ hx)
      rw [Function.update_of_ne hxa]
      exact h x (List.mem_cons_of_mem _ hx)
    have ih := walks_wire hnd' hstop
    have hlink : wire (b :: rest) (Function.update next a b) a = b := by
      rw [wire_of_not_mem ha, Function.update_self]
    refine ⟨rfl, ?_⟩
    rw [wire, hlink]
    exact ih

/-! ## 3. Searching a sorted list -/

section Sorted

variable {α : Type} {key : α → ℕ}

/-- A sorted list is what lies below a bound followed by the rest. -/
theorem sorted_split (v : ℕ) {s : List α} (h : s.Pairwise (fun a b => key a ≤ key b)) :
    s = s.filter (fun e => decide (key e < v)) ++ s.filter (fun e => decide (v ≤ key e)) := by
  induction s with
  | nil => rfl
  | cons e s ih =>
    obtain ⟨he, hs⟩ := List.pairwise_cons.mp h
    by_cases hv : key e < v
    · have hge : ¬ v ≤ key e := by omega
      rw [List.filter_cons_of_pos (by simpa using hv), List.filter_cons_of_neg (by simpa using hge),
        List.cons_append, ← ih hs]
    · have hge : v ≤ key e := by omega
      have hnil : s.filter (fun e => decide (key e < v)) = [] := by
        rw [List.filter_eq_nil_iff]
        intro x hx
        have := he x hx
        simpa using hge.trans this
      have hall : s.filter (fun e => decide (v ≤ key e)) = s := by
        rw [List.filter_eq_self]
        intro x hx
        simpa using hge.trans (he x hx)
      rw [List.filter_cons_of_neg (by simpa using hge),
        List.filter_cons_of_pos (by simpa using hge),
        hnil, hall, List.nil_append]

variable {node : α → ℕ} {next : ℕ → ℕ}

/-- Where a walk has to start to meet the first node with a key of at least `v`: the node a
search finds, or the end mark. -/
def entry (node : α → ℕ) (key : α → ℕ) (stop : ℕ) (v : ℕ) (s : List α) : ℕ :=
  ((s.find? fun e => decide (v ≤ key e)).map node).getD stop

theorem entry_eq (stop v : ℕ) (s : List α) :
    entry node key stop v s =
      ((s.filter fun e => decide (v ≤ key e)).map node).head?.getD stop := by
  rw [entry, List.head?_map, List.head?_filter]

/-- **The nodes between two keys.**  Along a walk of a sorted list, the walk from the entry for
`v` to the entry for `w` visits exactly the nodes with a key in `[v, w)`. -/
theorem walks_between {s : List α} {a stop v w : ℕ} (hvw : v ≤ w)
    (hs : s.Pairwise fun a b => key a ≤ key b) (hwalk : Walks next a (s.map node) stop) :
    Walks next (entry node key stop v s)
      ((s.filter fun e => decide (v ≤ key e ∧ key e < w)).map node)
      (entry node key stop w s) := by
  have hupper : (s.filter fun e => decide (v ≤ key e)) =
      (s.filter fun e => decide (v ≤ key e ∧ key e < w)) ++
        (s.filter fun e => decide (w ≤ key e)) := by
    have hsub : (s.filter fun e => decide (v ≤ key e)).Pairwise fun a b => key a ≤ key b :=
      hs.filter _
    rw [sorted_split w hsub, List.filter_filter, List.filter_filter]
    congr 1
    · refine List.filter_congr fun e _ => ?_
      rw [← Bool.decide_and, decide_eq_decide]
      exact and_comm
    · refine List.filter_congr fun e _ => ?_
      rw [← Bool.decide_and, decide_eq_decide]
      exact ⟨fun h => h.1, fun h => ⟨h, hvw.trans h⟩⟩
  rw [sorted_split v hs, List.map_append, walks_append] at hwalk
  obtain ⟨b, -, hb⟩ := hwalk
  have hstart := hb.start_eq
  rw [← entry_eq] at hstart
  rw [hupper, List.map_append, walks_append] at hb
  obtain ⟨c, hmid, hc⟩ := hb
  have hend := hc.start_eq
  rw [← entry_eq] at hend
  rwa [hstart, hend] at hmid

/-- The entry for a key is the end mark or the node of an element that reaches the key. -/
theorem entry_cases (stop v : ℕ) (s : List α) :
    entry node key stop v s = stop ∨
      ∃ e ∈ s, v ≤ key e ∧ entry node key stop v s = node e := by
  rw [entry]
  cases h : s.find? fun e => decide (v ≤ key e) with
  | none => exact Or.inl rfl
  | some e =>
    have hv : v ≤ key e := by simpa using List.find?_some h
    exact Or.inr ⟨e, List.mem_of_find?_eq_some h, hv, rfl⟩

/-- The end of such a walk is not one of its nodes, so a loop that compares with it does not
stop early. -/
theorem entry_not_mem {s : List α} {stop v w : ℕ} (hnd : (s.map node).Nodup)
    (hstop : stop ∉ s.map node) :
    entry node key stop w s ∉
      (s.filter fun e => decide (v ≤ key e ∧ key e < w)).map node := by
  intro hmem
  obtain ⟨x, hx, hxe⟩ := List.mem_map.mp hmem
  obtain ⟨hxs, hxk⟩ := List.mem_filter.mp hx
  rcases @entry_cases α key node stop w s with h | ⟨e, he, hw, h⟩
  · rw [h] at hxe
    exact hstop (hxe ▸ List.mem_map_of_mem hxs)
  · rw [h] at hxe
    obtain rfl : x = e := List.inj_on_of_nodup_map hnd hxs he hxe
    have : v ≤ key x ∧ key x < w := by simpa using hxk
    omega

/-- **An index of first entries finds what the whole list finds.**  `R` is the test that drops
an entry when it fails. -/
theorem find?_destutter' {R : α → α → Prop} [DecidableRel R]
    (hR : ∀ a b, R a b ↔ key a ≠ key b) {v : ℕ} {s : List α} {a : α} :
    (s.destutter' R a).find? (fun e => decide (v ≤ key e)) =
      (a :: s).find? (fun e => decide (v ≤ key e)) := by
  induction s generalizing a with
  | nil => rfl
  | cons b s ih =>
    by_cases hab : key a = key b
    · have hnot : ¬ R a b := fun h => (hR a b).mp h hab
      rw [List.destutter'_cons_neg _ hnot, ih, List.find?_cons, List.find?_cons, List.find?_cons,
        ← hab]
      cases decide (v ≤ key a) <;> rfl
    · rw [List.destutter'_cons_pos _ ((hR a b).mpr hab), List.find?_cons, ih]
      rfl

theorem find?_destutter {R : α → α → Prop} [DecidableRel R]
    (hR : ∀ a b, R a b ↔ key a ≠ key b) (v : ℕ) (s : List α) :
    (s.destutter R).find? (fun e => decide (v ≤ key e)) =
      s.find? (fun e => decide (v ≤ key e)) := by
  cases s with
  | nil => rfl
  | cons a s => rw [List.destutter_cons', find?_destutter' hR]

theorem entry_destutter {R : α → α → Prop} [DecidableRel R]
    (hR : ∀ a b, R a b ↔ key a ≠ key b) (stop v : ℕ) (s : List α) :
    entry node key stop v (s.destutter R) = entry node key stop v s := by
  rw [entry, entry, find?_destutter hR]

/-- The second of two searches starts where the first one ended: for a bound that is not lower
this loses nothing, for a lower one it finds the same element again. -/
theorem find?_drop_findIdx (v w : ℕ) (s : List α) :
    (s.drop (s.findIdx fun e => decide (v ≤ key e))).find? (fun e => decide (w ≤ key e)) =
      if v ≤ w then s.find? fun e => decide (w ≤ key e)
      else s.find? fun e => decide (v ≤ key e) := by
  induction s with
  | nil => simp
  | cons e s ih =>
    rw [List.findIdx_cons]
    by_cases hv : v ≤ key e
    · rw [decide_eq_true hv]
      by_cases hvw : v ≤ w
      · simp [hvw]
      · have hw : w ≤ key e := by omega
        simp [hvw, hv, hw]
    · have hw : v ≤ w → ¬ w ≤ key e := by omega
      rw [decide_eq_false hv, cond_false, List.drop_succ_cons, ih]
      by_cases hvw : v ≤ w
      · simp [hvw, hw hvw]
      · simp [hvw, hv]

end Sorted

/-! ## 4. The index of first entries -/

section Index

variable {α : Type} {key : α → ℕ} {R : α → α → Prop} [DecidableRel R]

/-- The first of all entries is kept. -/
theorem head?_destutter (hR : ∀ a b, R a b ↔ key a ≠ key b) (s : List α) :
    (s.destutter R).head? = s.head? := by
  have h := find?_destutter hR 0 s
  simpa [← List.head?_filter] using h

/-- **The index is strictly increasing.**  Neighbours differ, and the order was weak before. -/
theorem pairwise_destutter (hR : ∀ a b, R a b ↔ key a ≠ key b) {s : List α}
    (hs : s.Pairwise fun a b => key a ≤ key b) :
    (s.destutter R).Pairwise fun a b => key a < key b := by
  have hle : (s.destutter R).Pairwise fun a b => key a ≤ key b :=
    hs.sublist (List.destutter_sublist R s)
  have hne : (s.destutter R).IsChain R := List.isChain_destutter R s
  generalize s.destutter R = kept at hle hne
  induction kept with
  | nil => exact List.Pairwise.nil
  | cons a kept ih =>
    obtain ⟨ha, hkept⟩ := List.pairwise_cons.mp hle
    refine List.pairwise_cons.mpr ⟨fun x hx => ?_, ih hkept hne.of_cons⟩
    cases kept with
    | nil => cases hx
    | cons b kept =>
      have hab : key a ≠ key b := (hR a b).mp (List.isChain_cons_cons.mp hne).1
      have hle_ab := ha b List.mem_cons_self
      rcases List.mem_cons.mp hx with rfl | hx
      · omega
      · have hbx := (List.pairwise_cons.mp hkept).1 x hx
        omega

/-- In a strictly increasing list an entry is the first one that reaches its key. -/
theorem find?_of_mem {s : List α} {e : α} (hs : s.Pairwise fun a b => key a < key b)
    (he : e ∈ s) : s.find? (fun x => decide (key e ≤ key x)) = some e := by
  induction s with
  | nil => exact absurd he List.not_mem_nil
  | cons a s ih =>
    obtain ⟨ha, hs'⟩ := List.pairwise_cons.mp hs
    rcases List.mem_cons.mp he with rfl | he
    · rw [List.find?_cons, decide_eq_true (le_refl _)]
    · have hlt : ¬ key e ≤ key a := Nat.not_le.mpr (ha e he)
      rw [List.find?_cons, decide_eq_false hlt]
      exact ih hs' he

/-- **An entry of the index is the first entry of its key** in the whole list. -/
theorem find?_of_mem_destutter (hR : ∀ a b, R a b ↔ key a ≠ key b) {s : List α}
    (hs : s.Pairwise fun a b => key a ≤ key b) {e : α} (he : e ∈ s.destutter R) :
    s.find? (fun x => decide (key x = key e)) = some e := by
  have hfirst : s.find? (fun x => decide (key e ≤ key x)) = some e := by
    rw [← find?_destutter hR]
    exact find?_of_mem (pairwise_destutter hR hs) he
  obtain ⟨-, before, after, hsplit, hbefore⟩ := List.find?_eq_some_iff_append.mp hfirst
  refine List.find?_eq_some_iff_append.mpr ⟨by simp, before, after, hsplit, fun x hx => ?_⟩
  have hlt : key x < key e := by simpa using hbefore x hx
  simpa using hlt.ne

/-- The index has the keys of the whole list. -/
theorem mem_map_destutter_iff (hR : ∀ a b, R a b ↔ key a ≠ key b) {s : List α}
    (hs : s.Pairwise fun a b => key a ≤ key b) {v : ℕ} :
    v ∈ (s.destutter R).map key ↔ v ∈ s.map key := by
  constructor
  · intro h
    exact ((List.destutter_sublist R s).map key).subset h
  · intro h
    obtain ⟨e, he, rfl⟩ := List.mem_map.mp h
    -- the first entry that reaches the key has it
    obtain ⟨x, hx⟩ : ∃ x, s.find? (fun x => decide (key e ≤ key x)) = some x := by
      rw [← Option.isSome_iff_exists, List.find?_isSome]
      exact ⟨e, he, by simp⟩
    obtain ⟨hreach, before, after, rfl, hbefore⟩ := List.find?_eq_some_iff_append.mp hx
    have hkey : key x = key e := by
      have hge : key e ≤ key x := by simpa using hreach
      rcases List.mem_append.mp he with hb | ha
      · have := hbefore e hb
        simp at this
      · rcases List.mem_cons.mp ha with rfl | ha
        · rfl
        · have hxe := (List.pairwise_cons.mp (List.pairwise_append.mp hs).2.1).1 e ha
          omega
    rw [← find?_destutter hR] at hx
    exact List.mem_map.mpr ⟨x, List.mem_of_find?_eq_some hx, hkey⟩

end Index

end CallFwd.Lib
