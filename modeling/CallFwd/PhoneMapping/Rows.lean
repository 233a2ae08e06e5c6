/-
# `visitRows` yields the rows as the column keeps them

`RowVisitor` counts through `pnColumn`, so the order is that of insertion; the number it reports
is the 34-bit one of the column, and the routing number is what the dictionary has for THAT
number.  `visitRows_build_yields` says so for all accepted rows, without a bound on them.

`Represents` is what a caller expects instead: the rows come back as they were added, and none
of their keys is reported as absent.  The builder checks neither the width of `pn` nor that `rn`
is different from the absence marker, so this holds for some accepted rows only, and
`represents_iff` says for which.
-/
import CallFwd.PhoneMapping.Inverse

namespace CallFwd

open Lib MappingData PhoneList

namespace PhoneMapping

variable {d : Data} {rows : List (UInt64 × UInt64)} {prefetch : ℕ+}

/-! ## 1. The run of `visitRows` -/

/-- A row as `visitRows` reports it. -/
def stored (d : Data) (r : UInt64 × UInt64) : UInt64 × UInt64 :=
  reported d.build (pack r.1 MAXROWS).phoneValue

/-- The visitor `visitRows` creates visits the positions in order. -/
theorem ahead_row (base : List PhoneList) :
    (Visitor.row 0 base.length).Ahead base (List.range' 0 base.length) := by
  refine ⟨?_, ?_, ?_⟩
  · have hwalk := @walks_range' (stepOf base fun it _ => it + 1) base.length 0
      fun i _ hi => by simp [stepOf, show i < base.length by omega]
    rwa [Nat.zero_add] at hwalk
  · simp
  · intro i hi
    simpa using hi

/-- The positions of the column, reported in order. -/
theorem reported_range (h : Holds d rows) :
    (List.range' 0 d.build.pnColumn.length).map
      (fun i => reported d.build (phoneAt d.build.pnColumn i)) = rows.map (stored d) := by
  apply List.ext_getElem
  · simp [length_pnColumn_build, h.length_pnColumn]
  · intro i h1 h2
    have hi : i < rows.length := by simpa using h2
    simp only [List.getElem_map, List.getElem_range', Nat.zero_add, Nat.one_mul,
      phoneAt_build h hi, stored]

/-- **The run of `visitRows`**, on any dataset: the positions of the column, in order. -/
theorem visitRows_yields (data : Data) (c : Option Cursor) :
    ∃ db, visitRows prefetch ⟨some data, c⟩ = .ok db ∧
      Yields data db ((List.range' 0 data.pnColumn.length).map fun i =>
        reported data (phoneAt data.pnColumn i)) := by
  have hrun : visitRows prefetch ⟨some data, c⟩ =
      (fun c' => ⟨some data, c'⟩) <$> Data.visitRows data prefetch := rfl
  rw [hrun, Data.visitRows]
  by_cases hpos : 0 < data.pnColumn.length
  · rw [if_pos hpos]
    have hne : List.range' 0 data.pnColumn.length ≠ [] := by
      intro e
      rw [List.range'_eq_nil_iff] at e
      omega
    obtain ⟨c', hpre, hy⟩ := @yields_of_ahead prefetch data _ _ (ahead_row data.pnColumn) hne
    refine ⟨⟨some data, some c'⟩, ?_, hy⟩
    rw [hpre]
    rfl
  · rw [if_neg hpos]
    refine ⟨⟨some data, none⟩, rfl, rfl, Or.inl ⟨?_, rfl⟩⟩
    rw [show data.pnColumn.length = 0 by omega]
    rfl

/-- On a built dataset it reports every row once, in insertion order, as the column keeps it. -/
theorem visitRows_build_yields (h : Holds d rows) (c : Option Cursor) :
    ∃ db, visitRows prefetch { build d with cursor := c } = .ok db ∧
      Yields d.build db (rows.map (stored d)) := by
  obtain ⟨db, hrun, hy⟩ := @visitRows_yields prefetch d.build c
  rw [reported_range h] at hy
  exact ⟨db, hrun, hy⟩

/-- A row whose number fits is reported as it is. -/
theorem stored_of_fits (h : Holds d rows) {r : UInt64 × UInt64} (hr : r ∈ rows)
    (hfit : r.1.toNat < 2 ^ 34) : stored d r = r := by
  rw [stored, phoneValue_pack hfit, reported]
  have : Data.lookup d.build r.1 = r.2 := h.lookup hr
  rw [this]

/-- A row whose number does not fit comes back with another number. -/
theorem stored_ne_of_not_fits {r : UInt64 × UInt64} (hfit : ¬ r.1.toNat < 2 ^ 34) :
    stored d r ≠ r := by
  intro e
  have hfst : (pack r.1 MAXROWS).phoneValue = r.1 := congrArg Prod.fst e
  have hlt : (pack r.1 MAXROWS).phoneValue.toNat < 2 ^ 34 := by
    rw [phoneValue, UInt64.toNat_ofNat']
    exact lt_of_le_of_lt (Nat.mod_le _ _) (BitVec.isLt _)
  rw [hfst] at hlt
  exact hfit hlt

/-! ## 2. Faithful representation -/

/-- Faithful representation of `rows` by a mapping: draining `visitRows()` ends and yields the
rows as they are, `size()` counts them, and `getRN` finds each of them. -/
structure Represents (prefetch : ℕ+) (db : PhoneMapping) (rows : List (UInt64 × UInt64)) :
    Prop where
  visited : ∃ db', visitRows prefetch db = .ok db' ∧
    ∀ fuel, rows.length < fuel → drain prefetch fuel db' = .ok (some rows)
  size : db.size = .ok rows.length
  found : ∀ r ∈ rows, getRN prefetch db r.1 = .ok r.2 ∧ r.2 ≠ PhoneNumber.NONE

/-- `getRN` on a table that is not null. -/
theorem getRN_some (data : Data) (c : Option Cursor) (pn : UInt64) :
    getRN prefetch ⟨some data, c⟩ pn = .ok (data.lookup pn) := by
  rw [← getRN_eq_lookup data prefetch]
  rfl

theorem getRN_build (h : Holds d rows) {r : UInt64 × UInt64} (hr : r ∈ rows) :
    getRN prefetch (build d) r.1 = .ok r.2 := by
  have hl : Data.lookup d.build r.1 = r.2 := h.lookup hr
  rw [build, getRN_some, hl]

theorem size_build (h : Holds d rows) : (build d).size = .ok rows.length := by
  simp only [size, deref, build, bind, Except.bind, pure, Except.pure, length_pnColumn_build,
    h.length_pnColumn]

/-- **Accepted rows are represented faithfully exactly when every `pn` fits 34 bits and no `rn`
is the absence marker.** -/
theorem represents_iff {rows : List (UInt64 × UInt64)} {d : Data} (prefetch : ℕ+)
    (hadd : addRows .empty rows = .ok d) :
    Represents prefetch (build d) rows ↔
      ∀ r ∈ rows, r.1.toNat < 2 ^ 34 ∧ r.2 ≠ PhoneNumber.NONE := by
  have h : Holds d rows := Holds.addRows holds_empty hadd
  obtain ⟨db, hrun, hy⟩ := @visitRows_build_yields d rows prefetch h none
  have hrun' : visitRows prefetch (build d) = .ok db := hrun
  have hdrain : ∀ fuel, rows.length < fuel →
      drain prefetch fuel db = .ok (some (rows.map (stored d))) :=
    fun fuel hf => hy.drain (by rwa [List.length_map])
  constructor
  · intro hrep r hr
    refine ⟨?_, (hrep.found r hr).2⟩
    obtain ⟨db', hrun'', hdrain'⟩ := hrep.visited
    obtain rfl : db = db' := Except.ok.inj (hrun'.symm.trans hrun'')
    have hsame := (hdrain _ (Nat.lt_succ_self _)).symm.trans (hdrain' _ (Nat.lt_succ_self _))
    have hmap : rows.map (stored d) = rows.map id := by
      rw [List.map_id]
      exact Option.some.inj (Except.ok.inj hsame)
    by_contra hfit
    exact stored_ne_of_not_fits hfit (List.map_inj_left.mp hmap r hr)
  · intro hfit
    refine ⟨⟨db, hrun', ?_⟩, size_build h, ?_⟩
    · intro fuel hf
      rw [hdrain fuel hf]
      have hmap : rows.map (stored d) = rows.map id :=
        List.map_inj_left.mpr fun r hr => stored_of_fits h hr (hfit r hr).1
      rw [hmap, List.map_id]
    · intro r hr
      exact ⟨getRN_build h hr, (hfit r hr).2⟩

/-- Two ten-digit rows are represented. -/
theorem represents_ten_digit_rows :
    ∃ d, addRows .empty [(9999999999, 5), (2, 7)] = .ok d ∧
      Represents 8 (build d) [(9999999999, 5), (2, 7)] := by
  obtain ⟨d, hd⟩ := (@addRows_isOk_iff [(9999999999, 5), (2, 7)] [] .empty holds_empty
    (Nat.zero_le _)).mpr ⟨by decide, by decide⟩
  exact ⟨d, hd, (represents_iff 8 hd).mpr (by simp [PhoneNumber.NONE])⟩

/-- The builder takes the row `(2^34, 1)`; `visitRows()` reports the number `0` for it, which
is not a key. -/
theorem not_represents_wide_row :
    ∃ d, addRows .empty [(17179869184, 1)] = .ok d ∧
      ¬ Represents 8 (build d) [(17179869184, 1)] := by
  obtain ⟨d, hd⟩ := (@addRows_isOk_iff [(17179869184, 1)] [] .empty holds_empty
    (Nat.zero_le _)).mpr ⟨by decide, by decide⟩
  have h : Holds d [(17179869184, 1)] := Holds.addRows holds_empty hd
  refine ⟨d, hd, ?_⟩
  intro hrep
  obtain ⟨db, hrun, hy⟩ := @visitRows_build_yields d _ 8 h none
  obtain ⟨db', hrun', hdrain'⟩ := hrep.visited
  obtain rfl : db = db' := Except.ok.inj (hrun.symm.trans hrun')
  have hdrain : drain 8 2 db = .ok (some [stored d (17179869184, 1)]) :=
    hy.drain (by simp)
  have hsame := hdrain.symm.trans (hdrain' 2 (by decide))
  have hrow : stored d (17179869184, 1) = (17179869184, 1) := by
    simpa using Option.some.inj (Except.ok.inj hsame)
  exact stored_ne_of_not_fits (by decide) hrow

end PhoneMapping

end CallFwd
