/-
# What `build()` leaves behind

`Data::build()` wires the list from the SORTED index before duplicates are erased, and in terms
of the original positions.  Three facts about the sorted index carry everything else: it is a
permutation of the connected one (`sorted_perm`), so its positions are `0 .. N-1` in some order
(`sorted_nodes_perm`); and it is ordered by phone and then by position (`sorted_pairwise`).

`build_threads` is the result, for any columns of one length whose rows all end the list
(`Unthreaded`): after `build()` the `next` fields of `pnColumn` walk all positions in that order
and end at `MAXROWS`, the phones of the column are as they were, and the erased index is
strictly increasing and points to the first position of each phone in the walk.
-/
import CallFwd.PhoneMapping.Data
import CallFwd.Lib.Threaded

namespace CallFwd

open Lib

/-! ## 1. The order of the index -/

namespace PhoneList

/-- The number a `PhoneList` is sorted by. -/
def key (e : PhoneList) : ℕ := e.phone.toNat

/-- The position an index entry points to. -/
def node (e : PhoneList) : ℕ := e.next.toNat

theorem phone_eq_iff {a b : PhoneList} : a.phone = b.phone ↔ a.key = b.key :=
  BitVec.toNat_inj.symm

/-- `a` may stand before `b`. -/
theorem cmp_eq_false_iff {a b : PhoneList} :
    cmp b a = false ↔ a.key < b.key ∨ (a.key = b.key ∧ a.node ≤ b.node) := by
  unfold cmp
  by_cases h : b.phone = a.phone
  · rw [if_pos h, decide_eq_false_iff_not, BitVec.lt_def]
    have := phone_eq_iff.mp h
    simp only [node, key] at *
    omega
  · rw [if_neg h, decide_eq_false_iff_not, BitVec.lt_def]
    have : b.key ≠ a.key := fun e => h (phone_eq_iff.mpr e)
    simp only [node, key] at *
    omega

instance : Std.Total fun a b : PhoneList => cmp b a = false where
  total a b := by
    rw [cmp_eq_false_iff, cmp_eq_false_iff]
    omega

instance : IsTrans PhoneList fun a b => cmp b a = false where
  trans a b c hab hbc := by
    rw [cmp_eq_false_iff] at *
    omega

end PhoneList

namespace MappingData

open PhoneList

theorem sorted_perm (index : List PhoneList) : (sortIndex index).Perm index :=
  List.perm_insertionSort _ _

theorem sorted_pairwise_le (index : List PhoneList) :
    (sortIndex index).Pairwise fun a b => a.key < b.key ∨ (a.key = b.key ∧ a.node ≤ b.node) := by
  have h := List.pairwise_insertionSort (fun a b : PhoneList => cmp b a = false) index
  exact h.imp fun h => cmp_eq_false_iff.mp h

/-! ## 2. The positions -/

theorem length_connect (index : List PhoneList) : (connect index).length = index.length :=
  List.length_mapIdx

/-- Connecting numbers the entries, as long as the numbers fit the field. -/
theorem connect_nodes {index : List PhoneList} (hlen : index.length ≤ 2 ^ 30) :
    (connect index).map node = List.range index.length := by
  apply List.ext_getElem
  · simp [connect]
  · intro i h1 h2
    have hi : i < index.length := by simpa using h2
    simp only [connect, List.getElem_map, List.getElem_mapIdx, List.getElem_range, node,
      BitVec.toNat_ofNat]
    exact Nat.mod_eq_of_lt (by omega)

theorem sorted_nodes_perm {index : List PhoneList} (hlen : index.length ≤ 2 ^ 30) :
    ((sortIndex (connect index)).map node).Perm (List.range index.length) :=
  connect_nodes hlen ▸ (sorted_perm (connect index)).map node

theorem sorted_nodes_nodup {index : List PhoneList} (hlen : index.length ≤ 2 ^ 30) :
    ((sortIndex (connect index)).map node).Nodup :=
  (sorted_nodes_perm hlen).nodup_iff.mpr List.nodup_range

theorem sorted_nodes_lt {index : List PhoneList} (hlen : index.length ≤ 2 ^ 30) {i : ℕ}
    (hi : i ∈ (sortIndex (connect index)).map node) : i < index.length :=
  List.mem_range.mp ((sorted_nodes_perm hlen).mem_iff.mp hi)

/-- Positions are distinct, so the order is strict. -/
theorem sorted_pairwise {index : List PhoneList} (hlen : index.length ≤ 2 ^ 30) :
    (sortIndex (connect index)).Pairwise fun a b =>
      a.key < b.key ∨ (a.key = b.key ∧ a.node < b.node) := by
  have hne := List.pairwise_map.mp (sorted_nodes_nodup hlen)
  refine ((sorted_pairwise_le _).and hne).imp ?_
  rintro a b ⟨h | ⟨hk, hn⟩, hab⟩
  · exact Or.inl h
  · exact Or.inr ⟨hk, lt_of_le_of_ne hn hab⟩

theorem sorted_pairwise_key (index : List PhoneList) :
    (sortIndex index).Pairwise fun a b => a.key ≤ b.key := by
  refine (sorted_pairwise_le index).imp ?_
  rintro a b (h | ⟨h, -⟩)
  · exact h.le
  · exact h.le

/-! ## 3. The column -/

/-- The link stored at a position; positions outside the column have none. -/
def nextOf (column : List PhoneList) (i : ℕ) : ℕ := (column[i]?.map node).getD 0

theorem nextOf_of_lt {column : List PhoneList} {i : ℕ} (h : i < column.length) :
    nextOf column i = column[i].node := by
  simp [nextOf, h]

/-- Storing a link. -/
theorem nextOf_modify {column : List PhoneList} {i : ℕ} (hi : i < column.length)
    (next : BitVec 30) :
    nextOf (column.modify i fun e => { e with next := next }) =
      Function.update (nextOf column) i next.toNat := by
  funext j
  by_cases hj : j = i
  · subst hj
    rw [Function.update_self, nextOf, List.getElem?_modify_eq, List.getElem?_eq_getElem hi]
    rfl
  · rw [Function.update_of_ne hj, nextOf, List.getElem?_modify_ne _ _ (Ne.symm hj)]
    rfl

/-- The loop of `build()` stores the links of the list of positions. -/
theorem nextOf_wireColumn : ∀ {sorted column : List PhoneList},
    (∀ e ∈ sorted, e.node < column.length) →
    nextOf (wireColumn sorted column) = wire (sorted.map node) (nextOf column)
  | [], _, _ => rfl
  | [_], _, _ => rfl
  | a :: b :: rest, column, h => by
    have ha : a.node < column.length := h a List.mem_cons_self
    have hrest : ∀ e ∈ b :: rest,
        e.node < (column.modify a.node fun e => { e with next := b.next }).length := by
      intro e he
      rw [List.length_modify]
      exact h e (List.mem_cons_of_mem _ he)
    rw [wireColumn]
    change nextOf (wireColumn (b :: rest)
      (column.modify a.node fun e => { e with next := b.next })) = _
    rw [nextOf_wireColumn hrest, nextOf_modify ha]
    rfl

/-- ...and touches no phone. -/
theorem phone_wireColumn : ∀ (sorted column : List PhoneList),
    (wireColumn sorted column).map PhoneList.phone = column.map PhoneList.phone
  | [], _ => rfl
  | [_], _ => rfl
  | a :: b :: rest, column => by
    rw [wireColumn, phone_wireColumn]
    apply List.ext_getElem?
    intro j
    rw [List.getElem?_map, List.getElem?_map, List.getElem?_modify]
    cases column[j]? with
    | none => rfl
    | some e =>
      by_cases hj : a.next.toNat = j
      · simp [hj]
      · simp [hj]

theorem length_wireColumn (sorted column : List PhoneList) :
    (wireColumn sorted column).length = column.length := by
  have h := congrArg List.length (phone_wireColumn sorted column)
  rwa [List.length_map, List.length_map] at h

/-! ## 4. Before `build()` -/

variable {V : Type} {d : MappingData V}

/-- What runs of `addRow` leave to `build()`: columns of one length within the limit, and rows
that all end the list. -/
structure Unthreaded (d : MappingData V) : Prop where
  length_index : d.index.length = d.pnColumn.length
  length_le : d.pnColumn.length ≤ MAXROWS
  next : ∀ e ∈ d.pnColumn, e.node = MAXROWS

theorem MAXROWS_lt : MAXROWS < 2 ^ 30 := by decide

theorem Holds.length_index {ix : UInt64 × V → UInt64} {rows : List (UInt64 × V)}
    (h : Holds ix d rows) : d.index.length = rows.length := by
  rw [h.index, List.length_map]

/-- The rows of a builder all end the list: `addRow` stores `MAXROWS`. -/
theorem Holds.unthreaded {ix : UInt64 × V → UInt64} {rows : List (UInt64 × V)}
    (h : Holds ix d rows) (hlen : rows.length ≤ MAXROWS) : Unthreaded d where
  length_index := h.length_index.trans h.length_pnColumn.symm
  length_le := h.length_pnColumn ▸ hlen
  next := by
    intro e he
    rw [h.pnColumn] at he
    obtain ⟨r, -, rfl⟩ := List.mem_map.mp he
    simp only [pack, node, BitVec.toNat_ofNat]
    exact Nat.mod_eq_of_lt MAXROWS_lt

theorem Unthreaded.fits (h : Unthreaded d) : d.index.length ≤ 2 ^ 30 :=
  h.length_index ▸ h.length_le.trans MAXROWS_lt.le

theorem Unthreaded.node_lt (h : Unthreaded d) {i : ℕ}
    (hi : i ∈ (sortIndex (connect d.index)).map node) : i < d.pnColumn.length :=
  h.length_index ▸ sorted_nodes_lt h.fits hi

/-- The end mark is no position. -/
theorem Unthreaded.MAXROWS_not_mem (h : Unthreaded d) :
    MAXROWS ∉ (sortIndex (connect d.index)).map node := by
  intro hm
  have := h.node_lt hm
  have := h.length_le
  omega

/-! ## 5. The threading -/

theorem phone_build (d : MappingData V) :
    d.build.pnColumn.map PhoneList.phone = d.pnColumn.map PhoneList.phone :=
  phone_wireColumn _ _

theorem length_pnColumn_build (d : MappingData V) :
    d.build.pnColumn.length = d.pnColumn.length :=
  length_wireColumn _ _

/-- **The links of `build()`.**  The links of the built column walk every position once, in
the order of the sorted index, and then reach `MAXROWS`. -/
theorem Unthreaded.walks_build (h : Unthreaded d) :
    Walks (nextOf d.build.pnColumn)
      (((sortIndex (connect d.index)).map node).head?.getD MAXROWS)
      ((sortIndex (connect d.index)).map node) MAXROWS := by
  have hlt : ∀ e ∈ sortIndex (connect d.index), e.node < d.pnColumn.length := by
    intro e he
    exact h.node_lt (List.mem_map_of_mem he)
  have hcol : nextOf d.build.pnColumn =
      wire ((sortIndex (connect d.index)).map node) (nextOf d.pnColumn) :=
    nextOf_wireColumn hlt
  rw [hcol]
  refine walks_wire (sorted_nodes_nodup h.fits) ?_
  intro i hi
  have hi' := h.node_lt hi
  rw [nextOf_of_lt hi']
  exact h.next _ (List.getElem_mem hi')

/-- The number stored at a position of the index before `build()`. -/
def keyAt (index : List PhoneList) (i : ℕ) : ℕ := (index[i]?.map key).getD 0

/-- An entry of the sorted index has the number of the position it points to. -/
theorem keyAt_node {index : List PhoneList} (hlen : index.length ≤ 2 ^ 30) {e : PhoneList}
    (he : e ∈ sortIndex (connect index)) : keyAt index e.node = e.key := by
  obtain ⟨i, hi, rfl⟩ := List.getElem_of_mem ((sorted_perm _).mem_iff.mp he)
  have hi' : i < index.length := length_connect index ▸ hi
  have hnode : ((connect index)[i]).node = i := by
    simp only [connect, List.getElem_mapIdx, node, BitVec.toNat_ofNat]
    exact Nat.mod_eq_of_lt (by omega)
  rw [hnode, keyAt, List.getElem?_eq_getElem hi']
  simp only [connect, List.getElem_mapIdx, key, Option.map_some, Option.getD_some]

theorem key_connect (index : List PhoneList) : (connect index).map key = index.map key := by
  apply List.ext_getElem
  · simp [connect]
  · intro i h1 h2
    simp [connect, key]

/-- **The threading of `build()`.**  The index is strictly increasing and has exactly the
numbers it had before.  The links walk every position exactly once, by number and then by
insertion, and then reach `MAXROWS`; an index entry points to the first position of the walk
with its number.  The phones of the column are as they were. -/
theorem build_threads (h : Unthreaded d) :
    (d.build.index.Pairwise fun a b => a.phone < b.phone) ∧
    (∀ p, p ∈ d.build.index.map PhoneList.phone ↔ p ∈ d.index.map PhoneList.phone) ∧
    (∃ order : List ℕ,
      order.Perm (List.range d.pnColumn.length) ∧
      (order.Pairwise fun i j => keyAt d.index i < keyAt d.index j ∨
        (keyAt d.index i = keyAt d.index j ∧ i < j)) ∧
      Walks (nextOf d.build.pnColumn) ((d.build.index.head?.map node).getD MAXROWS) order
        MAXROWS ∧
      MAXROWS ∉ order ∧
      ∀ e ∈ d.build.index,
        order.find? (fun i => decide (keyAt d.index i = e.key)) = some e.node) ∧
    d.build.pnColumn.map PhoneList.phone = d.pnColumn.map PhoneList.phone := by
  have hR : ∀ a b : PhoneList, a.phone ≠ b.phone ↔ a.key ≠ b.key :=
    fun a b => not_congr phone_eq_iff
  have hle := sorted_pairwise_key (connect d.index)
  refine ⟨?_, ?_, ⟨(sortIndex (connect d.index)).map node, ?_, ?_, ?_, h.MAXROWS_not_mem, ?_⟩,
    phone_build d⟩
  · exact (pairwise_destutter hR hle).imp fun hab => BitVec.lt_def.mpr hab
  · intro p
    have hkeys : ∀ l : List PhoneList, p ∈ l.map PhoneList.phone ↔ p.toNat ∈ l.map key := by
      intro l
      simp only [List.mem_map, key, BitVec.toNat_inj]
    have hperm := (sorted_perm (connect d.index)).map key
    rw [hkeys, hkeys, ← key_connect d.index, ← hperm.mem_iff]
    exact mem_map_destutter_iff hR hle
  · exact h.length_index ▸ sorted_nodes_perm h.fits
  · rw [List.pairwise_map]
    refine (sorted_pairwise h.fits).imp_of_mem ?_
    intro a b ha hb hab
    rwa [keyAt_node h.fits ha, keyAt_node h.fits hb]
  · have hstart : (d.build.index.head?.map node).getD MAXROWS =
        ((sortIndex (connect d.index)).map node).head?.getD MAXROWS := by
      rw [List.head?_map]
      exact congrArg (fun o => (o.map node).getD MAXROWS) (head?_destutter hR _)
    rw [hstart]
    exact h.walks_build
  · intro e he
    have hfirst := find?_of_mem_destutter hR hle he
    rw [List.find?_map]
    have hsame : (sortIndex (connect d.index)).find?
        ((fun i => decide (keyAt d.index i = e.key)) ∘ node) =
        (sortIndex (connect d.index)).find? fun x => decide (x.key = e.key) := by
      refine List.find?_congr fun x hx => ?_
      rw [Function.comp_apply, keyAt_node h.fits hx]
    rw [hsame, hfirst]
    rfl

/-- Three rows, two of them with one number. -/
theorem build_threads_shared_number :
    let d : MappingData Unit := ⟨.null, KeyMap.empty, [pack 1 MAXROWS, pack 2 MAXROWS,
      pack 3 MAXROWS], [pack 555 MAXROWS, pack 7 MAXROWS, pack 555 MAXROWS]⟩
    (∀ p, p ∈ d.build.index.map PhoneList.phone ↔ p ∈ d.index.map PhoneList.phone) ∧
    ∃ order : List ℕ, order.Perm (List.range 3) ∧
      Walks (nextOf d.build.pnColumn) ((d.build.index.head?.map node).getD MAXROWS) order
        MAXROWS := by
  have h := @build_threads Unit ⟨.null, KeyMap.empty, [pack 1 MAXROWS, pack 2 MAXROWS,
    pack 3 MAXROWS], [pack 555 MAXROWS, pack 7 MAXROWS, pack 555 MAXROWS]⟩
    ⟨rfl, by decide, by decide⟩
  obtain ⟨-, hkeys, ⟨order, hperm, -, hwalks, -⟩, -⟩ := h
  exact ⟨hkeys, order, hperm, hwalks⟩

end MappingData

end CallFwd
