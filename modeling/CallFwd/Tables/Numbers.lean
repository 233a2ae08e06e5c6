/-
# The tables of numbers: DNC, toll-free and DNO

`DncMapping` and `TollFreeMapping` carry the containers of `PhoneMapping` with the constant 1 as
value.  `DnoMapping` has four dictionaries instead, one for each granularity a file can have, and
no columns; a load fills ONE of them, the one its command names, and `getDNOs` asks all four.

The three loaders read their numbers differently: DNC deletes the commas of the line and
extracts with `>>`, which never throws; toll-free and DNO use `stoll` on the first column.
-/
import CallFwd.Tables.Csv
import Mathlib.Data.List.TakeWhile

namespace CallFwd

open Lib

/-! ## 1. DNC -/

namespace DncMapping

/-- `DncMapping::Data`; the index is `dncIndex`. -/
abbrev Data := MappingData UInt64

/-- `DncMapping::Builder::addRow`. -/
def addRow (d : Data) (pn dnc : UInt64) : Except Stop Data :=
  MappingData.addRow "DncMapping" d pn (.ok dnc) dnc

/-- One line of `DncMapping::Builder::fromCSV`. -/
def fromCSVLine (d : Data) (linebuf : Text) : Except Stop Data := do
  let pn ← extractUint64 (deleteCharacter linebuf ',')
  addRow d pn 1

/-- `Data::getDNCs`: 1 for a number the table has, 0 for another. -/
def Data.getDNCs (d : Data) (prefetch : ℕ+) (pn dnc : List UInt64) : List UInt64 :=
  fillBlocks prefetch (fun pn _ => if (d.dict.find pn).isSome then 1 else 0) pn dnc

theorem extractUint64_escapes_iff {s : Text} :
    Escapes (extractUint64 s) ↔ s.all isspace = true := by
  have hdrop : s.dropWhile isspace = [] ↔ s.all isspace = true := by
    rw [List.dropWhile_eq_nil_iff, List.all_eq_true]
  unfold extractUint64
  split
  · rename_i h
    exact ⟨fun _ => hdrop.mp h, fun _ => ⟨_, rfl, rfl⟩⟩
  · rename_i c cs h
    constructor
    · rintro ⟨e, he, -⟩
      simp only at he
      split_ifs at he
    · intro hall
      rw [hdrop.mpr hall] at h
      cases h

/-- **A DNC line escapes** when nothing but whitespace is left of it: the number is then read
uninitialised. -/
theorem fromCSVLine_escapes_iff {d : Data} {linebuf : Text} :
    Escapes (fromCSVLine d linebuf) ↔ (deleteCharacter linebuf ',').all isspace = true := by
  rw [fromCSVLine, escapes_bind_iff, extractUint64_escapes_iff]
  constructor
  · rintro (h | ⟨pn, -, h⟩)
    · exact h
    · exact absurd (addRow_escapes_iff.mp h).2 (not_escapes_ok _)
  · exact Or.inl

end DncMapping

/-! ## 2. Toll-free numbers -/

namespace TollFreeMapping

/-- `TollFreeMapping::Data`; the index is `tollfreeIndex`. -/
abbrev Data := MappingData UInt64

/-- `TollFreeMapping::Builder::addRow`. -/
def addRow (d : Data) (pn tollfree : UInt64) : Except Stop Data :=
  MappingData.addRow "TollFreeMapping" d pn (.ok tollfree) tollfree

/-- One line of `TollFreeMapping::Builder::fromCSV`. -/
def fromCSVLine : Data → Text → Except Stop Data :=
  csvRow (fun linebuf => !startsWithDigit linebuf) (fun _ parts => parts.length == 3)
    fun d parts => do
      let pn ← columnKey parts 0 id
      addRow d pn 1

/-- `Data::getTollFrees`: 1 for a number the table has, 0 for another. -/
def Data.getTollFrees (d : Data) (prefetch : ℕ+) (pn tollfree : List UInt64) : List UInt64 :=
  fillBlocks prefetch (fun pn _ => if (d.dict.find pn).isSome then 1 else 0) pn tollfree

/-- **A toll-free line escapes** when its number is no numeral. -/
theorem fromCSVLine_escapes_iff {d : Data} {linebuf : Text} :
    Escapes (fromCSVLine d linebuf) ↔
      startsWithDigit linebuf = true ∧ (splitLine linebuf).length = 3 ∧
        isNumeral (column (splitLine linebuf) 0) = false := by
  rw [fromCSVLine, csvRow_escapes_iff, Bool.not_eq_false', beq_iff_eq]
  refine and_congr_right fun _ => and_congr_right fun hlen => ?_
  rw [escapes_bind_iff, columnKey_escapes_iff (by omega)]
  constructor
  · rintro (h | ⟨pn, -, h⟩)
    · exact h
    · exact absurd (addRow_escapes_iff.mp h).2 (not_escapes_ok _)
  · exact Or.inl

end TollFreeMapping

/-! ## 3. DNO -/

namespace DnoMapping

/-- `dnotype`: "dno", "dno_npa", "dno_npa_nxx", "dno_npa_nxx_x". -/
inductive DnoType
  | dno
  | npa
  | npaNxx
  | npaNxxX
deriving DecidableEq, Repr

/-- The part of a number that is looked up: the whole of it, or its first 3, 6 or 7 digits. -/
def DnoType.prefixOf : DnoType → UInt64 → UInt64
  | .dno, pn => pn
  | .npa, pn => pn / 10000000
  | .npaNxx, pn => pn / 10000
  | .npaNxxX, pn => pn / 1000

/-- `DnoMapping::Data`: the metadata and the dictionaries `dict`, `dict_npa`, `dict_npa_nxx` and
`dict_npa_nxx_x`. -/
structure Data where
  metadata : Dynamic
  dict : DnoType → KeyMap UInt64 UInt64

/-- A fresh `Builder`. -/
def Data.empty : Data := ⟨.null, fun _ => KeyMap.empty⟩

/-- `setMetadata(meta)`. -/
def Data.setMetadata (d : Data) (metadata : Dynamic) : Data := { d with metadata := metadata }

/-- `DnoMapping::Builder::addRow`: no limit on the number of rows. -/
def addRow (d : Data) (pn : UInt64) (dnotype : DnoType) (dno : UInt64) : Except Stop Data :=
  if (d.dict dnotype).count pn then throwRuntimeError "DnoMapping::Builder: duplicate key"
  else .ok { d with dict := Function.update d.dict dnotype ((d.dict dnotype).emplace pn dno) }

/-- One line of `DnoMapping::Builder::fromCSV`. -/
def fromCSVLine (dnotype : DnoType) : Data → Text → Except Stop Data :=
  csvRow (fun linebuf => !startsWithDigit linebuf) (fun _ parts => parts.length == 3)
    fun d parts => do
      let pn ← columnKey parts 0 fun s => deleteCharacter s '-'
      addRow d pn dnotype 1

theorem addRow_not_escapes {d : Data} {pn dno : UInt64} {dnotype : DnoType} :
    ¬ Escapes (addRow d pn dnotype dno) := by
  unfold addRow
  split
  · exact not_escapes_throwRuntimeError _
  · exact not_escapes_ok _

/-- **A DNO line escapes** when its number, without the dashes, is no numeral. -/
theorem fromCSVLine_escapes_iff {dnotype : DnoType} {d : Data} {linebuf : Text} :
    Escapes (fromCSVLine dnotype d linebuf) ↔
      startsWithDigit linebuf = true ∧ (splitLine linebuf).length = 3 ∧
        isNumeral (deleteCharacter (column (splitLine linebuf) 0) '-') = false := by
  rw [fromCSVLine, csvRow_escapes_iff, Bool.not_eq_false', beq_iff_eq]
  refine and_congr_right fun _ => and_congr_right fun hlen => ?_
  rw [escapes_bind_iff, columnKey_escapes_iff (by omega)]
  constructor
  · rintro (h | ⟨pn, -, h⟩)
    · exact h
    · exact absurd h addRow_not_escapes
  · exact Or.inl

/-! ## 4. `getDNOs` -/

/-- One test of the fill loop: `if (dno[i] == 0) { .. }` with the dictionary of `ty`. -/
def Data.test (d : Data) (ty : DnoType) (pn dno : UInt64) : UInt64 :=
  if dno = 0 then if ((d.dict ty).find (ty.prefixOf pn)).isSome then 1 else 0 else dno

/-- One turn of the fill loop: the four dictionaries, the whole number last. -/
def Data.fillSlot (d : Data) (pn dno : UInt64) : UInt64 :=
  d.test .dno pn (d.test .npaNxxX pn (d.test .npaNxx pn (d.test .npa pn dno)))

/-- `Data::getDNOs`: `dno` is the output array, whose contents the tests look at. -/
def Data.getDNOs (d : Data) (prefetch : ℕ+) (pn dno : List UInt64) : List UInt64 :=
  fillBlocks prefetch d.fillSlot pn dno

/-- One test with a zeroed slot, or a slot that is already set. -/
theorem test_ne_zero_iff (d : Data) (ty : DnoType) (pn dno : UInt64) :
    d.test ty pn dno ≠ 0 ↔ dno ≠ 0 ∨ ty.prefixOf pn ∈ (d.dict ty).keys := by
  unfold Data.test
  by_cases h0 : dno = 0
  · rw [if_pos h0, ← KeyMap.find_isSome_iff]
    cases ((d.dict ty).find (ty.prefixOf pn)).isSome <;> simp [h0]
  · simp [h0]

/-- **A zeroed slot is set exactly when one of the four dictionaries covers the number.** -/
theorem fillSlot_zero_ne_zero_iff (d : Data) (pn : UInt64) :
    d.fillSlot pn 0 ≠ 0 ↔ ∃ ty : DnoType, ty.prefixOf pn ∈ (d.dict ty).keys := by
  rw [Data.fillSlot, test_ne_zero_iff, test_ne_zero_iff, test_ne_zero_iff, test_ne_zero_iff]
  constructor
  · rintro ((((h | h) | h) | h) | h)
    · exact absurd rfl h
    · exact ⟨.npa, h⟩
    · exact ⟨.npaNxx, h⟩
    · exact ⟨.npaNxxX, h⟩
    · exact ⟨.dno, h⟩
  · rintro ⟨ty, h⟩
    cases ty with
    | dno => exact Or.inr h
    | npa => exact Or.inl (Or.inl (Or.inl (Or.inr h)))
    | npaNxx => exact Or.inl (Or.inl (Or.inr h))
    | npaNxxX => exact Or.inl (Or.inr h)

/-! ## 5. What a slot held before

`getDNCs` writes every slot.  The tests above write a slot only while it is zero, so what the
caller left in the array stays there; `getDNO` passes a variable that nobody has set. -/

/-- `DnoMapping::getDNO(pn)`: `unset` is what the uninitialised `dno` happens to hold. -/
def Data.getDNO (d : Data) (prefetch : ℕ+) (pn unset : UInt64) : UInt64 :=
  (d.getDNOs prefetch [pn] [unset]).headD unset

/-- The number is in one of the four dictionaries, as a whole or by its first digits. -/
def Data.covers (d : Data) (pn : UInt64) : Bool :=
  (d.dict .dno).count pn || (d.dict .npa).count (pn / 10000000) ||
    (d.dict .npaNxx).count (pn / 10000) || (d.dict .npaNxxX).count (pn / 1000)

/-- The answer as a function of the number. -/
def Data.flag (d : Data) (pn : UInt64) : UInt64 := if d.covers pn then 1 else 0

theorem covers_iff (d : Data) (pn : UInt64) :
    d.covers pn = true ↔ ∃ ty : DnoType, ty.prefixOf pn ∈ (d.dict ty).keys := by
  simp only [Data.covers, Bool.or_eq_true, KeyMap.count_eq_true]
  constructor
  · rintro (((h | h) | h) | h)
    · exact ⟨.dno, h⟩
    · exact ⟨.npa, h⟩
    · exact ⟨.npaNxx, h⟩
    · exact ⟨.npaNxxX, h⟩
  · rintro ⟨ty, h⟩
    cases ty with
    | dno => exact Or.inl (Or.inl (Or.inl h))
    | npa => exact Or.inl (Or.inl (Or.inr h))
    | npaNxx => exact Or.inl (Or.inr h)
    | npaNxxX => exact Or.inr h

/-- A slot that is set stays as it is through a test. -/
theorem test_of_ne_zero (d : Data) (ty : DnoType) (pn : UInt64) {dno : UInt64} (h : dno ≠ 0) :
    d.test ty pn dno = dno := by
  rw [Data.test, if_neg h]

theorem fillSlot_of_ne_zero (d : Data) (pn : UInt64) {dno : UInt64} (h : dno ≠ 0) :
    d.fillSlot pn dno = dno := by
  simp only [Data.fillSlot, test_of_ne_zero _ _ _ h]

/-- A test leaves 0 or 1 in a slot that holds 0 or 1. -/
theorem test_le_one (d : Data) (ty : DnoType) (pn : UInt64) {dno : UInt64} (h : dno = 0 ∨ dno = 1) :
    d.test ty pn dno = 0 ∨ d.test ty pn dno = 1 := by
  unfold Data.test
  split_ifs
  · exact Or.inr rfl
  · exact Or.inl rfl
  · exact h

/-- A zeroed slot gets the answer. -/
theorem fillSlot_zero (d : Data) (pn : UInt64) : d.fillSlot pn 0 = d.flag pn := by
  have hbit : d.fillSlot pn 0 = 0 ∨ d.fillSlot pn 0 = 1 :=
    test_le_one d _ pn (test_le_one d _ pn (test_le_one d _ pn (test_le_one d _ pn (Or.inl rfl))))
  have hcov := (fillSlot_zero_ne_zero_iff d pn).trans (covers_iff d pn).symm
  unfold Data.flag
  by_cases hc : d.covers pn = true
  · rw [if_pos hc]
    exact hbit.resolve_left (hcov.mpr hc)
  · rw [if_neg hc]
    by_contra hne
    exact hc (hcov.mp hne)

/-- **One slot**, from any content. -/
theorem fillSlot_eq_flag_iff (d : Data) (pn dno : UInt64) :
    d.fillSlot pn dno = d.flag pn ↔ dno = 0 ∨ (dno = 1 ∧ d.covers pn = true) := by
  by_cases h0 : dno = 0
  · rw [h0, fillSlot_zero]
    simp
  · rw [fillSlot_of_ne_zero d pn h0, or_iff_right h0, Data.flag]
    cases d.covers pn <;> simp [h0]

theorem getDNO_eq_fillSlot (d : Data) (prefetch : ℕ+) (pn unset : UInt64) :
    d.getDNO prefetch pn unset = d.fillSlot pn unset := by
  rw [Data.getDNO, Data.getDNOs, fillBlocks_eq_zipWith prefetch d.fillSlot [pn] [unset] rfl]
  rfl

/-- **`getDNOs` answers by the number alone** exactly in the slots that came in zeroed, or came in
as 1 for a number that is covered; and so for the variable `getDNO` passes. -/
theorem getDNOs_eq_flag_iff (d : Data) (prefetch : ℕ+) (pn dno : List UInt64)
    (hlen : dno.length = pn.length) :
    (∀ (i : ℕ) (n v : UInt64), pn[i]? = some n → dno[i]? = some v →
      ((d.getDNOs prefetch pn dno)[i]? = some (d.flag n) ↔
        v = 0 ∨ (v = 1 ∧ d.covers n = true))) ∧
    ∀ n unset, d.getDNO prefetch n unset = d.flag n ↔
      unset = 0 ∨ (unset = 1 ∧ d.covers n = true) := by
  refine ⟨?_, ?_⟩
  · intro i n v hn hv
    rw [Data.getDNOs, fillBlocks_eq_zipWith prefetch d.fillSlot pn dno hlen,
      List.getElem?_zipWith, hn, hv]
    exact Option.some_inj.trans (fillSlot_eq_flag_iff d n v)
  · intro n unset
    rw [getDNO_eq_fillSlot]
    exact fillSlot_eq_flag_iff d n unset

/-- Two numbers asked in blocks of one, in a table that covers the second. -/
theorem getDNOs_eq_flag_two_slots :
    ∃ d : Data, d.covers 2012019999 = true ∧
      (d.getDNOs 1 [8005550100, 2012019999] [0, 1])[1]? = some (d.flag 2012019999) :=
  ⟨⟨.null, fun _ => KeyMap.empty.emplace 201 1⟩, by decide,
    ((getDNOs_eq_flag_iff _ 1 [8005550100, 2012019999] [0, 1] rfl).1 1 2012019999 1 rfl rfl).mpr
      (Or.inr ⟨rfl, by decide⟩)⟩

/-- A table without rows answers 7 for a number if the slot held 7. -/
theorem getDNOs_keeps_seven :
    Data.empty.flag 2012019999 = 0 ∧
      Data.empty.getDNOs 1 [2012019999] [7] = [7] ∧ Data.empty.getDNO 1 2012019999 7 = 7 := by
  refine ⟨by decide, ?_, ?_⟩
  · rw [Data.getDNOs, fillBlocks_eq_zipWith 1 Data.empty.fillSlot [2012019999] [7] rfl]
    decide
  · rw [getDNO_eq_fillSlot]
    decide

end DnoMapping

end CallFwd
