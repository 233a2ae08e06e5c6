/-
# `inverseRNs` yields the rows of an interval of routing numbers

`inverseRNs_yields` holds for ALL accepted rows and ALL bounds: what a cursor run started by
`inverseRNs` yields is the part of the sorted index whose phones lie between the two bounds as
the 34-bit fields keep them, in index order, each position reported through the column and the
dictionary.  The run stays inside `pnColumn` and ends (`inverseRNs_ends`).

When the numbers fit the fields nothing is cut off, and `interval_rows` reads the same list as
rows: those with `fromRN <= rn < toRN`, by routing number and then by insertion.
-/
import CallFwd.PhoneMapping.Cursor

namespace CallFwd

open Lib MappingData PhoneList

namespace PhoneMapping

variable {d : Data} {rows : List (UInt64 × UInt64)} {prefetch : ℕ+}

/-! ## 1. The two searches -/

/-- The bound as the 34-bit field keeps it. -/
def bound (rn : UInt64) : ℕ := rn.toNat % 2 ^ 34

theorem key_pack (phone : UInt64) (next : ℕ) : (pack phone next).key = bound phone := by
  simp [pack, key, bound]

/-- The index before duplicates are erased. -/
def sorted (d : Data) : List PhoneList := sortIndex (connect d.index)

theorem entry_build (stop v : ℕ) :
    entry node key stop v d.build.index = entry node key stop v (sorted d) := by
  refine entry_destutter (fun a b => ?_) stop v (sorted d)
  rw [ne_eq, phone_eq_iff]

/-- `Data::inverseRNs` on a built dataset, in terms of the sorted index.  When the bounds are in
the wrong order the second search ends where it starts. -/
theorem inverseRNs_eq (fromRN toRN : UInt64) :
    Data.inverseRNs d.build prefetch fromRN toRN =
      (let pnBegin := entry node key MAXROWS (bound fromRN) (sorted d)
       let pnEnd := if bound fromRN ≤ bound toRN then
          entry node key MAXROWS (bound toRN) (sorted d) else pnBegin
       if pnBegin ≠ pnEnd then
         some <$> Cursor.prefetch d.build prefetch (.inverseRN pnBegin pnEnd)
       else .ok none) := by
  have hleft :
      ((d.build.index[lowerBound d.build.index 0 (pack fromRN 0)]?).map node).getD MAXROWS =
      entry node key MAXROWS (bound fromRN) (sorted d) := by
    rw [lowerBound, List.drop_zero, Nat.zero_add, key_pack, ← List.find?_eq_getElem?_findIdx,
      ← entry_build]
    rfl
  have hright : ((d.build.index[lowerBound d.build.index
        (lowerBound d.build.index 0 (pack fromRN 0)) (pack toRN 0)]?).map node).getD MAXROWS =
      if bound fromRN ≤ bound toRN then entry node key MAXROWS (bound toRN) (sorted d)
      else entry node key MAXROWS (bound fromRN) (sorted d) := by
    rw [lowerBound, ← List.getElem?_drop, ← List.find?_eq_getElem?_findIdx, lowerBound,
      List.drop_zero, Nat.zero_add, key_pack, key_pack, find?_drop_findIdx, ← entry_build,
      ← entry_build]
    split <;> rfl
  simp only [Data.inverseRNs, hleft, hright]

/-! ## 2. The run, for any rows and any bounds -/

/-- The positions with a phone between the bounds, in index order. -/
def between (d : Data) (fromRN toRN : UInt64) : List ℕ :=
  ((sorted d).filter fun e =>
    decide (bound fromRN ≤ e.key ∧ e.key < bound toRN)).map node

theorem between_sublist (fromRN toRN : UInt64) :
    (between d fromRN toRN).Sublist ((sorted d).map node) :=
  List.Sublist.map node List.filter_sublist

theorem between_eq_nil_of_le {fromRN toRN : UInt64} (h : bound toRN ≤ bound fromRN) :
    between d fromRN toRN = [] := by
  rw [between, List.map_eq_nil_iff, List.filter_eq_nil_iff]
  intro e _ he
  have : bound fromRN ≤ e.key ∧ e.key < bound toRN := by simpa using he
  omega

/-- The visitor `inverseRNs` creates visits exactly these positions. -/
theorem ahead_between (h : Holds d rows) (hlen : rows.length ≤ MAXROWS) {fromRN toRN : UInt64}
    (hle : bound fromRN ≤ bound toRN) :
    (Visitor.inverseRN (entry node key MAXROWS (bound fromRN) (sorted d))
      (entry node key MAXROWS (bound toRN) (sorted d))).Ahead d.build.pnColumn
        (between d fromRN toRN) := by
  have hun := h.unthreaded hlen
  refine ⟨?_, ?_, ?_⟩
  · exact walks_between hle (sorted_pairwise_key _) hun.walks_build
  · exact entry_not_mem (sorted_nodes_nodup hun.fits) hun.MAXROWS_not_mem
  · intro i hi
    rw [length_pnColumn_build]
    exact hun.node_lt ((between_sublist fromRN toRN).subset hi)

/-- **The run of `inverseRNs`.** -/
theorem inverseRNs_yields (h : Holds d rows) (hlen : rows.length ≤ MAXROWS)
    (c : Option Cursor) (fromRN toRN : UInt64) :
    ∃ db, inverseRNs prefetch { build d with cursor := c } fromRN toRN = .ok db ∧
      Yields d.build db ((between d fromRN toRN).map fun i =>
        reported d.build (phoneAt d.build.pnColumn i)) := by
  have hrun : inverseRNs prefetch { build d with cursor := c } fromRN toRN =
      (fun c' => { build d with cursor := c' }) <$>
        Data.inverseRNs d.build prefetch fromRN toRN := rfl
  have hnone : between d fromRN toRN = [] →
      Yields d.build { build d with cursor := none } ((between d fromRN toRN).map fun i =>
        reported d.build (phoneAt d.build.pnColumn i)) :=
    fun hnil => ⟨rfl, Or.inl ⟨by rw [hnil, List.map_nil], rfl⟩⟩
  rw [hrun, inverseRNs_eq]
  by_cases hle : bound fromRN ≤ bound toRN
  · simp only [if_pos hle]
    have hahead := ahead_between h hlen hle
    split
    · rename_i hne
      have hnodes : between d fromRN toRN ≠ [] := by
        intro hnil
        rw [hnil] at hahead
        exact hne hahead.walks
      obtain ⟨c', hpre, hy⟩ := @yields_of_ahead prefetch d.build _ _ hahead hnodes
      refine ⟨{ build d with cursor := some c' }, ?_, hy⟩
      rw [hpre]
      rfl
    · rename_i heq
      refine ⟨{ build d with cursor := none }, rfl, hnone ?_⟩
      cases hb : between d fromRN toRN with
      | nil => rfl
      | cons i nodes =>
        rw [hb] at hahead
        have hi := hahead.walks.1
        have hmem := hahead.fin_not_mem
        rw [← not_not.mp heq, hi] at hmem
        exact absurd List.mem_cons_self hmem
  · simp only [if_neg hle, ne_eq, not_true_eq_false, if_false]
    exact ⟨{ build d with cursor := none }, rfl, hnone (between_eq_nil_of_le (by omega))⟩

/-- **The run stays in bounds and ends.**  For accepted rows and bounds of any size and in any
order, `inverseRNs` starts a run of at most `size()` rows.  Cut off after any number of turns it
has read no position outside `pnColumn`, which the model would answer with `undefined`; and one
turn more than there are rows lets it end. -/
theorem inverseRNs_ends {rows : List (UInt64 × UInt64)} {d : Data} (prefetch : ℕ+)
    (metadata : Dynamic) (hadd : addRows (MappingData.empty.setMetadata metadata) rows = .ok d)
    (c : Option Cursor) (fromRN toRN : UInt64) :
    ∃ db out n, inverseRNs prefetch { build d with cursor := c } fromRN toRN = .ok db ∧
      db.size = .ok n ∧ out.length ≤ n ∧
      ∀ fuel, drain prefetch fuel db = .ok (if out.length < fuel then some out else none) := by
  have h : Holds d rows := Holds.addRows (holds_empty.setMetadata metadata) hadd
  have hlen : rows.length ≤ MAXROWS :=
    ((addRows_isOk_iff (holds_empty.setMetadata metadata) (Nat.zero_le _)).mp ⟨d, hadd⟩).2
  obtain ⟨db, hrun, hyields⟩ := @inverseRNs_yields d rows prefetch h hlen c fromRN toRN
  refine ⟨db, _, d.build.pnColumn.length, hrun, ?_, ?_, fun fuel => hyields.drain_eq fuel⟩
  · rw [size, deref, hyields.1]
    rfl
  · have hsub := (between_sublist (d := d) fromRN toRN).length_le
    have hall := (sorted_nodes_perm (h.unthreaded hlen).fits).length_eq
    rw [List.length_range, (h.unthreaded hlen).length_index] at hall
    rw [List.length_map, length_pnColumn_build, ← hall]
    exact hsub

/-- Bounds in the wrong order, one of them `2 ^ 34 + 600`, beyond the field. -/
theorem inverseRNs_ends_wide_bounds :
    ∃ d, addRows .empty [(1, 555), (2, 7), (3, 555)] = .ok d ∧
      ∃ db out n, inverseRNs 8 (build d) 17179869784 7 = .ok db ∧ db.size = .ok n ∧
        out.length ≤ n ∧
        ∀ fuel, drain 8 fuel db = .ok (if out.length < fuel then some out else none) := by
  obtain ⟨d, hd⟩ := (@addRows_isOk_iff [(1, 555), (2, 7), (3, 555)] [] .empty holds_empty
    (Nat.zero_le _)).mpr ⟨by decide, by decide⟩
  exact ⟨d, hd, inverseRNs_ends 8 .null hd none 17179869784 7⟩

/-! ## 3. Positions as rows -/

/-- The row at a position of the builder. -/
def rowAt (rows : List (UInt64 × UInt64)) (e : PhoneList) : UInt64 × UInt64 :=
  rows[e.node]?.getD (0, 0)

theorem connect_rowAt (h : Holds d rows) (hlen : rows.length ≤ MAXROWS) :
    (connect d.index).map (rowAt rows) = rows := by
  have hnodes := connect_nodes (h.unthreaded hlen).fits
  have : (connect d.index).map (rowAt rows) =
      ((connect d.index).map node).map fun i => rows[i]?.getD (0, 0) := by
    rw [List.map_map]
    rfl
  rw [this, hnodes, h.length_index]
  apply List.ext_getElem
  · simp
  · intro i h1 h2
    simp [h2]

theorem sorted_rowAt_perm (h : Holds d rows) (hlen : rows.length ≤ MAXROWS) :
    ((sorted d).map (rowAt rows)).Perm rows := by
  have hp := (sorted_perm (connect d.index)).map (rowAt rows)
  rwa [connect_rowAt h hlen] at hp

/-- An index entry knows the routing number of the row it points to. -/
theorem key_of_mem_sorted (h : Holds d rows) (hlen : rows.length ≤ MAXROWS) {e : PhoneList}
    (he : e ∈ sorted d) :
    ∃ hi : e.node < rows.length, rowAt rows e = rows[e.node] ∧ e.key = bound rows[e.node].2 := by
  have hun := h.unthreaded hlen
  have hi : e.node < rows.length := by
    rw [← h.length_pnColumn]
    exact hun.node_lt (List.mem_map_of_mem he)
  refine ⟨hi, by simp [rowAt, hi], ?_⟩
  rw [← keyAt_node hun.fits he, keyAt, h.index]
  simp [hi, key_pack]

/-- The number a cursor reads at a position: the low 34 bits of the row's. -/
theorem phoneAt_build (h : Holds d rows) {i : ℕ} (hi : i < rows.length) :
    phoneAt d.build.pnColumn i = (pack rows[i].1 MAXROWS).phoneValue := by
  have hi1 : i < d.pnColumn.length := h.length_pnColumn ▸ hi
  have hi2 : i < d.build.pnColumn.length := length_pnColumn_build d ▸ hi1
  have hphone : d.build.pnColumn[i].phone = d.pnColumn[i].phone := by
    have := congrArg (fun l => l[i]?) (phone_build d)
    simpa [hi1, hi2] using this
  rw [phoneAt, List.getElem?_eq_getElem hi2, Option.map_some, Option.getD_some, phoneValue, hphone]
  simp only [h.pnColumn, List.getElem_map, phoneValue]

/-- A number that fits the field is read back as it is. -/
theorem phoneValue_pack {pn : UInt64} (h : pn.toNat < 2 ^ 34) (next : ℕ) :
    (pack pn next).phoneValue = pn := by
  rw [phoneValue, pack, BitVec.toNat_ofNat, Nat.mod_eq_of_lt h, UInt64.ofNat_toNat]

/-- A row whose number fits is reported as it is. -/
theorem reported_build (h : Holds d rows) {i : ℕ} (hi : i < rows.length)
    (hfit : rows[i].1.toNat < 2 ^ 34) :
    reported d.build (phoneAt d.build.pnColumn i) = rows[i] := by
  rw [phoneAt_build h hi, phoneValue_pack hfit, reported]
  have : Data.lookup d.build rows[i].1 = rows[i].2 := h.lookup (List.getElem_mem hi)
  rw [this]

/-! ## 4. The rows of an interval -/

/-- `a` comes before `b`: by routing number, then by insertion. -/
def Before (rows : List (UInt64 × UInt64)) (a b : UInt64 × UInt64) : Prop :=
  a.2 < b.2 ∨ (a.2 = b.2 ∧ rows.idxOf a < rows.idxOf b)

/-- The sorted index, read as rows, is ordered. -/
theorem sorted_before (h : Holds d rows) (hlen : rows.length ≤ MAXROWS)
    (hrn : ∀ r ∈ rows, r.2.toNat < 2 ^ 34) :
    ((sorted d).map (rowAt rows)).Pairwise (Before rows) := by
  have hfit := (h.unthreaded hlen).fits
  have hnd : rows.Nodup := List.Nodup.of_map Prod.fst h.nodup
  rw [List.pairwise_map]
  refine (sorted_pairwise hfit).imp_of_mem ?_
  intro a b ha hb hab
  obtain ⟨hai, harow, hakey⟩ := key_of_mem_sorted h hlen ha
  obtain ⟨hbi, hbrow, hbkey⟩ := key_of_mem_sorted h hlen hb
  rw [bound, Nat.mod_eq_of_lt (hrn _ (List.getElem_mem hai))] at hakey
  rw [bound, Nat.mod_eq_of_lt (hrn _ (List.getElem_mem hbi))] at hbkey
  rw [Before, harow, hbrow, hnd.idxOf_getElem, hnd.idxOf_getElem, UInt64.lt_iff_toNat_lt,
    ← UInt64.toNat_inj, ← hakey, ← hbkey]
  exact hab

/-- When all numbers fit the fields, the positions between the bounds are the rows between
them. -/
theorem interval_rows (h : Holds d rows) (hlen : rows.length ≤ MAXROWS)
    (hfit : ∀ r ∈ rows, r.1.toNat < 2 ^ 34 ∧ r.2.toNat < 2 ^ 34) {fromRN toRN : UInt64}
    (hfrom : fromRN.toNat < 2 ^ 34) (hto : toRN.toNat < 2 ^ 34) :
    ((between d fromRN toRN).map fun i => reported d.build (phoneAt d.build.pnColumn i)) =
      ((sorted d).map (rowAt rows)).filter fun r => decide (fromRN ≤ r.2 ∧ r.2 < toRN) := by
  rw [between, List.map_map, List.filter_map]
  have hsame : ((sorted d).filter fun e => decide (bound fromRN ≤ e.key ∧ e.key < bound toRN)) =
      (sorted d).filter
        ((fun r : UInt64 × UInt64 => decide (fromRN ≤ r.2 ∧ r.2 < toRN)) ∘ rowAt rows) := by
    refine List.filter_congr fun e he => ?_
    obtain ⟨hi, hrow, hkey⟩ := key_of_mem_sorted h hlen he
    rw [bound, Nat.mod_eq_of_lt (hfit _ (List.getElem_mem hi)).2] at hkey
    rw [Function.comp_apply, decide_eq_decide, hrow, hkey, bound, bound, Nat.mod_eq_of_lt hfrom,
      Nat.mod_eq_of_lt hto, UInt64.le_iff_toNat_le, UInt64.lt_iff_toNat_lt]
  rw [hsame]
  refine List.map_congr_left fun e he => ?_
  obtain ⟨hi, hrow, -⟩ := key_of_mem_sorted h hlen (List.mem_of_mem_filter he)
  rw [hrow]
  exact reported_build h hi (hfit _ (List.getElem_mem hi)).1

/-- **`inverseRNs` is the inverse of the mapping on an interval.**  For accepted rows with
numbers below `2^34` and bounds below `2^34`, the run `inverseRNs(fromRN, toRN)`, `currentPN`,
`currentRN`, `advance` while `hasRow` ends, and yields exactly the rows with
`fromRN <= rn < toRN`, each once, by routing number and then by insertion. -/
theorem inverseRNs_yields_interval {rows : List (UInt64 × UInt64)} {d : Data} (prefetch : ℕ+)
    (hadd : addRows .empty rows = .ok d)
    (hfit : ∀ r ∈ rows, r.1.toNat < 2 ^ 34 ∧ r.2.toNat < 2 ^ 34) (c : Option Cursor)
    {fromRN toRN : UInt64} (hfrom : fromRN.toNat < 2 ^ 34) (hto : toRN.toNat < 2 ^ 34) :
    ∃ db out, inverseRNs prefetch { build d with cursor := c } fromRN toRN = .ok db ∧
      (∀ fuel, out.length < fuel → drain prefetch fuel db = .ok (some out)) ∧
      out.Perm (rows.filter fun r => decide (fromRN ≤ r.2 ∧ r.2 < toRN)) ∧
      out.Pairwise (Before rows) ∧ out.Nodup ∧ (toRN ≤ fromRN → out = []) := by
  have h : Holds d rows := Holds.addRows holds_empty hadd
  have hlen : rows.length ≤ MAXROWS :=
    ((addRows_isOk_iff holds_empty (Nat.zero_le _)).mp ⟨d, hadd⟩).2
  obtain ⟨db, hrun, hyields⟩ := @inverseRNs_yields d rows prefetch h hlen c fromRN toRN
  rw [interval_rows h hlen hfit hfrom hto] at hyields
  have hperm := (sorted_rowAt_perm h hlen).filter
    fun r => decide (fromRN ≤ r.2 ∧ r.2 < toRN)
  refine ⟨db, _, hrun, fun fuel hf => hyields.drain hf, hperm, ?_, ?_, ?_⟩
  · exact (sorted_before h hlen fun r hr => (hfit r hr).2).filter _
  · exact hperm.nodup_iff.mpr ((List.Nodup.of_map Prod.fst h.nodup).filter _)
  · intro hle
    rw [List.filter_eq_nil_iff]
    intro r _ hr
    have hr' : fromRN ≤ r.2 ∧ r.2 < toRN := by simpa using hr
    rw [UInt64.le_iff_toNat_le, UInt64.lt_iff_toNat_lt] at hr'
    rw [UInt64.le_iff_toNat_le] at hle
    omega

/-- Two of three rows share a routing number, and the interval holds that number only. -/
theorem inverseRNs_yields_shared_number :
    ∃ d, addRows .empty [(1, 555), (2, 7), (3, 555)] = .ok d ∧
      ∃ db out, inverseRNs 8 (build d) 100 1000 = .ok db ∧
        (∀ fuel, out.length < fuel → drain 8 fuel db = .ok (some out)) ∧
        out.Perm [(1, 555), (3, 555)] ∧
        out.Pairwise (Before [(1, 555), (2, 7), (3, 555)]) := by
  obtain ⟨d, hd⟩ := (@addRows_isOk_iff [(1, 555), (2, 7), (3, 555)] [] .empty holds_empty
    (Nat.zero_le _)).mpr ⟨by decide, by decide⟩
  obtain ⟨db, out, hrun, hdrain, hperm, hord, -⟩ := @inverseRNs_yields_interval _ d 8 hd
    (by simp) none 100 1000 (by decide) (by decide)
  exact ⟨d, hd, db, out, hrun, hdrain, hperm, hord⟩

end PhoneMapping

end CallFwd
