/-
# The record tables: LERG, Youmail, Geo, FTC, 404 and 606

Each keeps the containers of `PhoneMapping` over its own record type; LERG has a second
dictionary, for rows without a thousands block.  The keys are made with `std::stoll`, and the
columns of a record are read, unchecked, only after the builder's checks have passed.

The number of columns `fromCSV` asks for is not always the number `addRow` reads: Geo admits 19
and reads the 20th, FTC admits 5 and reads the 6th.  For every table `fromCSVLine_escapes_iff`
says which lines a loader does not survive.
-/
import CallFwd.Tables.Csv

namespace CallFwd

open Lib

/-- One slot of a lookup: a record that is found is copied, all its fields; for one that is not,
`clear` zeroes the key of what the slot held. -/
def copyRecord {V : Type} (clear : V → V) (found : Option V) (slot : V) : V :=
  found.getD (clear slot)

/-! ## 1. LERG -/

structure LergData where
  lerg_key : UInt64
  state : Text
  company : Text
  ocn : Text
  rate_center : Text
  ocn_type : Text
  lata : Text
  country : Text
deriving DecidableEq, Repr

namespace LergMapping

/-- `LergMapping::Data`: `dict` is `dic_npa_nxx_x`, the index is `lergIndex`; both kinds of rows
share the columns. -/
structure Data extends MappingData LergData where
  dic_npa_nxx : KeyMap UInt64 LergData

/-- A fresh `Builder`. -/
def Data.empty : Data := { MappingData.empty with dic_npa_nxx := KeyMap.empty }

/-- `setMetadata(meta)`. -/
def Data.setMetadata (d : Data) (metadata : Dynamic) : Data := { d with metadata := metadata }

/-- `Data::build()`. -/
def Data.build (d : Data) : Data := { d.toMappingData.build with dic_npa_nxx := d.dic_npa_nxx }

/-- The result of a `long long` operation. -/
def longLong (n : Int) : Except Stop Int :=
  if fitsLongLong n then .ok n else .error (.undefined .signedOverflow)

/-- `std::stoll(rowbuf[0]) * 1000 + std::stoll(rowbuf[1])`. -/
def keyNpaNxx (rowbuf : List Text) : Except Stop Int := do
  let npa ← stoll (← subscript rowbuf 0)
  let nxx ← stoll (← subscript rowbuf 1)
  longLong ((← longLong (npa * 1000)) + nxx)

/-- `std::stoll(rowbuf[0]) * 10000 + std::stoll(rowbuf[1]) * 10 + std::stoll(rowbuf[2])`. -/
def keyNpaNxxX (rowbuf : List Text) : Except Stop Int := do
  let npa ← stoll (← subscript rowbuf 0)
  let nxx ← stoll (← subscript rowbuf 1)
  let x ← stoll (← subscript rowbuf 2)
  let m ← longLong (npa * 10000)
  let n ← longLong (nxx * 10)
  longLong ((← longLong (m + n)) + x)

/-- The seven text columns, each through `field`. -/
def record (field : Text → Text) (rowbuf : List Text) (lerg_key : UInt64) :
    Except Stop LergData := do
  return {
    lerg_key := lerg_key
    state := field (← subscript rowbuf 3)
    company := field (← subscript rowbuf 4)
    ocn := field (← subscript rowbuf 5)
    rate_center := field (← subscript rowbuf 6)
    ocn_type := field (← subscript rowbuf 7)
    lata := field (← subscript rowbuf 8)
    country := field (← subscript rowbuf 9) }

/-- `s == "" ? std::string(" ") : s`. -/
def orBlank (s : Text) : Text := if s = [] then [' '] else s

/-- `LergMapping::Builder::addRow`: the third column decides which dictionary the row goes to. -/
def addRow (d : Data) (rowbuf : List Text) : Except Stop Data := do
  if (← subscript rowbuf 2) = [] then
    let key ← keyNpaNxx rowbuf
    let lerg_key := UInt64.ofInt key
    let m ← MappingData.addRow "LergMapping" { d.toMappingData with dict := d.dic_npa_nxx }
      lerg_key (record id rowbuf lerg_key) lerg_key
    return { m with dict := d.dict, dic_npa_nxx := m.dict }
  else
    let key ← keyNpaNxxX rowbuf
    let lerg_key := UInt64.ofInt key
    let m ← MappingData.addRow "LergMapping" d.toMappingData
      lerg_key (record orBlank rowbuf lerg_key) lerg_key
    return { m with dic_npa_nxx := d.dic_npa_nxx }

/-- One line of `LergMapping::Builder::fromCSV`. -/
def fromCSVLine : Data → Text → Except Stop Data :=
  csvRow (fun linebuf => !startsWithDigit linebuf) (fun _ parts => parts.length == 10) addRow

/-- `lerg[i].lerg_key = 0`. -/
def clear (lerg : LergData) : LergData := { lerg with lerg_key := 0 }

/-- One slot of `Data::getLergs`: the thousands block first, and the exchange where that left
the key zero. -/
def Data.fillSlot (d : Data) (pn : UInt64) (lerg : LergData) : LergData :=
  let npa_nxx_x := pn / 1000
  let lerg := copyRecord clear (d.dict.find npa_nxx_x) lerg
  if lerg.lerg_key = 0 then copyRecord clear (d.dic_npa_nxx.find (npa_nxx_x / 10)) lerg else lerg

/-- `Data::getLergs`. -/
def Data.getLergs (d : Data) (prefetch : ℕ+) (pn : List UInt64) (lerg : List LergData) :
    List LergData :=
  fillBlocks prefetch d.fillSlot pn lerg

/-- The key of a row without a thousands block cannot be computed. -/
def badNpaNxx (npa nxx : Text) : Bool :=
  !(isNumeral npa && isNumeral nxx && fitsLongLong (signedValue npa * 1000) &&
    fitsLongLong (signedValue npa * 1000 + signedValue nxx))

/-- The key of a row with a thousands block cannot be computed. -/
def badNpaNxxX (npa nxx x : Text) : Bool :=
  !(isNumeral npa && isNumeral nxx && isNumeral x &&
    fitsLongLong (signedValue npa * 10000) && fitsLongLong (signedValue nxx * 10) &&
    fitsLongLong (signedValue npa * 10000 + signedValue nxx * 10) &&
    fitsLongLong (signedValue npa * 10000 + signedValue nxx * 10 + signedValue x))

theorem longLong_escapes_iff {n : Int} : Escapes (longLong n) ↔ fitsLongLong n = false := by
  unfold longLong
  cases h : fitsLongLong n with
  | true => simp [not_escapes_ok]
  | false => exact ⟨fun _ => rfl, fun _ => ⟨_, rfl, rfl⟩⟩

theorem longLong_of_fits {n : Int} (h : fitsLongLong n = true) : longLong n = .ok n := by
  rw [longLong, if_pos h]

/-- A `stoll` at the head of a sequence. -/
theorem escapes_stoll_bind_iff {β : Type} {s : Text} {f : Int → Except Stop β} :
    Escapes (stoll s >>= f) ↔ isNumeral s = false ∨ Escapes (f (signedValue s)) := by
  cases h : isNumeral s with
  | false => exact ⟨fun _ => Or.inl rfl, fun _ => escapes_bind_iff.mpr (Or.inl (stoll_error h))⟩
  | true =>
    rw [stoll_of_isNumeral h]
    constructor
    · exact Or.inr
    · rintro (h' | h')
      · cases h'
      · exact h'

/-- A `long long` operation at the head of a sequence. -/
theorem escapes_longLong_bind_iff {β : Type} {n : Int} {f : Int → Except Stop β} :
    Escapes (longLong n >>= f) ↔ fitsLongLong n = false ∨ Escapes (f n) := by
  cases h : fitsLongLong n with
  | false =>
    exact ⟨fun _ => Or.inl rfl, fun _ => escapes_bind_iff.mpr
      (Or.inl (longLong_escapes_iff.mpr h))⟩
  | true =>
    rw [longLong_of_fits h]
    constructor
    · exact Or.inr
    · rintro (h' | h')
      · cases h'
      · exact h'

theorem keyNpaNxx_escapes_iff {rowbuf : List Text} (h : rowbuf.length = 10) :
    Escapes (keyNpaNxx rowbuf) ↔ badNpaNxx (column rowbuf 0) (column rowbuf 1) = true := by
  unfold keyNpaNxx
  rw [subscript_column (by omega), subscript_column (by omega)]
  change Escapes (stoll (column rowbuf 0) >>= fun npa => stoll (column rowbuf 1) >>= fun nxx =>
    longLong (npa * 1000) >>= fun m => longLong (m + nxx)) ↔ _
  rw [escapes_stoll_bind_iff, escapes_stoll_bind_iff, escapes_longLong_bind_iff,
    longLong_escapes_iff]
  simp only [badNpaNxx, Bool.not_eq_true', Bool.and_eq_false_iff, or_assoc]

theorem keyNpaNxxX_escapes_iff {rowbuf : List Text} (h : rowbuf.length = 10) :
    Escapes (keyNpaNxxX rowbuf) ↔
      badNpaNxxX (column rowbuf 0) (column rowbuf 1) (column rowbuf 2) = true := by
  unfold keyNpaNxxX
  rw [subscript_column (by omega), subscript_column (by omega), subscript_column (by omega)]
  change Escapes (stoll (column rowbuf 0) >>= fun npa => stoll (column rowbuf 1) >>= fun nxx =>
    stoll (column rowbuf 2) >>= fun x => longLong (npa * 10000) >>= fun m =>
    longLong (nxx * 10) >>= fun n => longLong (m + n) >>= fun k => longLong (k + x)) ↔ _
  rw [escapes_stoll_bind_iff, escapes_stoll_bind_iff, escapes_stoll_bind_iff,
    escapes_longLong_bind_iff, escapes_longLong_bind_iff, escapes_longLong_bind_iff,
    longLong_escapes_iff]
  simp only [badNpaNxxX, Bool.not_eq_true', Bool.and_eq_false_iff, or_assoc]

theorem record_not_escapes {field : Text → Text} {rowbuf : List Text} {lerg_key : UInt64}
    (h : rowbuf.length = 10) : ¬ Escapes (record field rowbuf lerg_key) := by
  unfold record
  rw [subscript_column (by omega), subscript_column (by omega), subscript_column (by omega),
    subscript_column (by omega), subscript_column (by omega), subscript_column (by omega),
    subscript_column (by omega)]
  exact not_escapes_ok _

/-- Inserting a record whose columns are all there does not escape. -/
theorem insert_not_escapes {m : MappingData LergData} {field : Text → Text} {rowbuf : List Text}
    {lerg_key : UInt64} {f : MappingData LergData → Data} (h : rowbuf.length = 10) :
    ¬ Escapes (MappingData.addRow "LergMapping" m lerg_key (record field rowbuf lerg_key)
      lerg_key >>= fun m' => Except.ok (f m')) := by
  rw [escapes_bind_iff]
  rintro (h' | ⟨m', -, h'⟩)
  · exact record_not_escapes h (addRow_escapes_iff.mp h').2
  · exact not_escapes_ok _ h'

/-- **A LERG line escapes** when its key cannot be computed. -/
theorem fromCSVLine_escapes_iff {d : Data} {linebuf : Text} :
    Escapes (fromCSVLine d linebuf) ↔
      startsWithDigit linebuf = true ∧ (splitLine linebuf).length = 10 ∧
        (let column := column (splitLine linebuf)
         if column 2 = [] then badNpaNxx (column 0) (column 1)
         else badNpaNxxX (column 0) (column 1) (column 2)) = true := by
  rw [fromCSVLine, csvRow_escapes_iff, Bool.not_eq_false', beq_iff_eq]
  refine and_congr_right fun _ => and_congr_right fun hlen => ?_
  unfold addRow
  rw [subscript_column (by omega)]
  change Escapes (if column (splitLine linebuf) 2 = [] then _ else _) ↔ _
  by_cases hx : column (splitLine linebuf) 2 = []
  · simp only [if_pos hx]
    rw [escapes_bind_iff, keyNpaNxx_escapes_iff hlen]
    refine or_iff_left ?_
    rintro ⟨key, -, h⟩
    exact insert_not_escapes hlen h
  · simp only [if_neg hx]
    rw [escapes_bind_iff, keyNpaNxxX_escapes_iff hlen]
    refine or_iff_left ?_
    rintro ⟨key, -, h⟩
    exact insert_not_escapes hlen h

end LergMapping

/-! ## 2. Youmail -/

structure YoumailData where
  pn : UInt64
  sapmscore : Text
  fraudprobability : Text
  unlawful : Text
  tcpafraud : Text
deriving DecidableEq, Repr

namespace YoumailMapping

/-- `YoumailMapping::Data`; the index is `youmailIndex`. -/
abbrev Data := MappingData YoumailData

/-- The first "+1" is erased, wherever it stands. -/
def erasePlusOne : Text → Text
  | '+' :: '1' :: t => t
  | c :: t => c :: erasePlusOne t
  | [] => []

/-- `rowbuf.size() == 4 ? std::string("") : rowbuf[4]`. -/
def lastColumn (rowbuf : List Text) : Except Stop Text :=
  if rowbuf.length = 4 then .ok [] else subscript rowbuf 4

/-- `YoumailMapping::Builder::addRow`: a row of four columns has an empty last one. -/
def addRow (d : Data) (rowbuf : List Text) : Except Stop Data :=
  addRecord "YoumailMapping" d (columnKey rowbuf 0 erasePlusOne) fun pn => do
    return {
      pn := pn
      sapmscore := ← subscript rowbuf 1
      fraudprobability := ← subscript rowbuf 2
      unlawful := ← subscript rowbuf 3
      tcpafraud := ← lastColumn rowbuf }

/-- The test on the number of parts: five, or four with the fifth left empty. -/
def admits (linebuf : Text) (parts : List Text) : Bool :=
  parts.length == 5 || (parts.length == 4 && linebuf.getLast? == some ',')

/-- One line of `YoumailMapping::Builder::fromCSV`. -/
def fromCSVLine : Data → Text → Except Stop Data :=
  csvRow (fun linebuf => !startsWith '+' linebuf) admits addRow

/-- `Data::getYoumails`. -/
def Data.getYoumails (d : Data) (prefetch : ℕ+) (pn : List UInt64) (youmail : List YoumailData) :
    List YoumailData :=
  fillBlocks prefetch (fun pn => copyRecord ({ · with pn := 0 }) (d.dict.find pn)) pn youmail

/-- **A Youmail line escapes** when its number, without "+1", is no numeral. -/
theorem fromCSVLine_escapes_iff {d : Data} {linebuf : Text} :
    Escapes (fromCSVLine d linebuf) ↔
      startsWith '+' linebuf = true ∧ admits linebuf (splitLine linebuf) = true ∧
        isNumeral (erasePlusOne (column (splitLine linebuf) 0)) = false := by
  rw [fromCSVLine, csvRow_escapes_iff, Bool.not_eq_false']
  refine and_congr_right fun _ => and_congr_right fun hadm => ?_
  have hlen : (splitLine linebuf).length = 5 ∨ (splitLine linebuf).length = 4 := by
    rcases Bool.or_eq_true_iff.mp hadm with h | h
    · exact Or.inl (by simpa using h)
    · exact Or.inr (by simpa using (Bool.and_eq_true_iff.mp h).1)
  rw [addRow, addRecord_escapes_iff, columnKey_escapes_iff (by omega)]
  refine or_iff_left ?_
  rintro ⟨pn, -, -, h⟩
  rw [subscript_column (by omega), subscript_column (by omega), subscript_column (by omega)] at h
  rcases hlen with hlen | hlen
  · rw [lastColumn, if_neg (by omega), subscript_column (by omega)] at h
    exact not_escapes_ok _ h
  · rw [lastColumn, if_pos hlen] at h
    exact not_escapes_ok _ h

end YoumailMapping

/-! ## 3. Geo -/

structure GeoData where
  npanxx : UInt64
  zipcode : Text
  county : Text
  city : Text
  latitude : Text
  longitude : Text
  timezone : Text
deriving DecidableEq, Repr

namespace GeoMapping

/-- `GeoMapping::Data`; the index is `geoIndex`. -/
abbrev Data := MappingData GeoData

/-- `GeoMapping::Builder::addRow`. -/
def addRow (d : Data) (rowbuf : List Text) : Except Stop Data :=
  addRecord "GeoMapping" d (columnKey rowbuf 0 id) fun npanxx => do
    return {
      npanxx := npanxx
      zipcode := ← subscript rowbuf 1
      county := ← subscript rowbuf 10
      city := ← subscript rowbuf 6
      latitude := ← subscript rowbuf 9
      longitude := ← subscript rowbuf 11
      timezone := ← subscript rowbuf 19 }

/-- One line of `GeoMapping::Builder::fromCSV`: no line is skipped. -/
def fromCSVLine : Data → Text → Except Stop Data :=
  csvRow (fun _ => false) (fun _ parts => decide (19 ≤ parts.length)) addRow

/-- `Data::getGeos`: the key is the first six digits of the number. -/
def Data.getGeos (d : Data) (prefetch : ℕ+) (pn : List UInt64) (geo : List GeoData) :
    List GeoData :=
  fillBlocks prefetch (fun pn => copyRecord ({ · with npanxx := 0 }) (d.dict.find (pn / 10000)))
    pn geo

/-- **A Geo line escapes** when its number is no numeral, and when it is a new row of exactly 19
columns. -/
theorem fromCSVLine_escapes_iff {d : Data} {linebuf : Text} :
    Escapes (fromCSVLine d linebuf) ↔
      19 ≤ (splitLine linebuf).length ∧
        (isNumeral (column (splitLine linebuf) 0) = false ∨
          ((splitLine linebuf).length = 19 ∧
            Fresh d (UInt64.ofInt (signedValue (column (splitLine linebuf) 0))))) := by
  rw [fromCSVLine, csvRow_escapes_iff, decide_eq_true_iff]
  rw [and_iff_right rfl]
  refine and_congr_right fun hlen => ?_
  refine addRecord_escapes_iff_of_length (by decide) hlen fun pn => ⟨fun h => ?_, fun h19 => ?_⟩
  · by_contra hne
    rw [subscript_column (by omega), subscript_column (by omega), subscript_column (by omega),
      subscript_column (by omega), subscript_column (by omega), subscript_column (by omega)] at h
    exact not_escapes_ok _ h
  · rw [subscript_column (by omega), subscript_column (by omega), subscript_column (by omega),
      subscript_column (by omega), subscript_column (by omega)]
    change Escapes (subscript (splitLine linebuf) 19 >>= _)
    exact escapes_bind_iff.mpr (Or.inl (escapes_subscript_iff.mpr (by omega)))

end GeoMapping

/-! ## 4. FTC -/

structure FtcData where
  pn : UInt64
  last_ftc_on : Text
  first_ftc_on : Text
  ftc_count : Text
deriving DecidableEq, Repr

namespace FtcMapping

/-- `FtcMapping::Data`; the index is `FtcIndex`. -/
abbrev Data := MappingData FtcData

/-- `FtcMapping::Builder::addRow`: the number is in the SECOND column. -/
def addRow (d : Data) (rowbuf : List Text) : Except Stop Data :=
  addRecord "FtcMapping" d (columnKey rowbuf 1 id) fun pn => do
    return {
      pn := pn
      first_ftc_on := ← subscript rowbuf 2
      last_ftc_on := ← subscript rowbuf 3
      ftc_count := ← subscript rowbuf 5 }

/-- One line of `FtcMapping::Builder::fromCSV`. -/
def fromCSVLine : Data → Text → Except Stop Data :=
  csvRow (fun linebuf => !startsWithDigit linebuf) (fun _ parts => decide (5 ≤ parts.length)) addRow

/-- `Data::getFtcs`. -/
def Data.getFtcs (d : Data) (prefetch : ℕ+) (pn : List UInt64) (Ftc : List FtcData) :
    List FtcData :=
  fillBlocks prefetch (fun pn => copyRecord ({ · with pn := 0 }) (d.dict.find pn)) pn Ftc

/-- **An FTC line escapes** when its number is no numeral, and when it is a new row of exactly 5
columns. -/
theorem fromCSVLine_escapes_iff {d : Data} {linebuf : Text} :
    Escapes (fromCSVLine d linebuf) ↔
      startsWithDigit linebuf = true ∧ 5 ≤ (splitLine linebuf).length ∧
        (isNumeral (column (splitLine linebuf) 1) = false ∨
          ((splitLine linebuf).length = 5 ∧
            Fresh d (UInt64.ofInt (signedValue (column (splitLine linebuf) 1))))) := by
  rw [fromCSVLine, csvRow_escapes_iff, Bool.not_eq_false', decide_eq_true_iff]
  refine and_congr_right fun _ => and_congr_right fun hlen => ?_
  refine addRecord_escapes_iff_of_length (by decide) hlen fun pn => ⟨fun h => ?_, fun h5 => ?_⟩
  · by_contra hne
    rw [subscript_column (by omega), subscript_column (by omega),
      subscript_column (by omega)] at h
    exact not_escapes_ok _ h
  · rw [subscript_column (by omega), subscript_column (by omega)]
    change Escapes (subscript (splitLine linebuf) 5 >>= _)
    exact escapes_bind_iff.mpr (Or.inl (escapes_subscript_iff.mpr (by omega)))

end FtcMapping

/-! ## 5. 404 and 606 -/

/-- `F404Data` and `F606Data`: the two tables have the same fields under names of their own. -/
structure FailureData where
  pn : UInt64
  last_on : Text
  first_on : Text
deriving DecidableEq, Repr

namespace FailureMapping

/-- `F404Mapping::Data` and `F606Mapping::Data`; the index is `F404Index` or `F606Index`. -/
abbrev Data := MappingData FailureData

/-- `phoneNumberStr.substr(1)`: the leading 1 of the number.  On a text that `startsWithDigit`
lets through the first column is not empty, and `substr` does not throw. -/
def dropFirst (s : Text) : Text := s.drop 1

/-- `F404Mapping::Builder::addRow` and `F606Mapping::Builder::addRow`. -/
def addRow (table : String) (d : Data) (rowbuf : List Text) : Except Stop Data :=
  addRecord table d (columnKey rowbuf 0 dropFirst) fun pn => do
    return {
      pn := pn
      first_on := ← subscript rowbuf 1
      last_on := ← subscript rowbuf 2 }

/-- One line of the two `fromCSV`s. -/
def fromCSVLine (table : String) : Data → Text → Except Stop Data :=
  csvRow (fun linebuf => !startsWithDigit linebuf) (fun _ parts => decide (3 ≤ parts.length))
    (addRow table)

/-- `getF404s` and `getF606s`. -/
def Data.getFailures (d : Data) (prefetch : ℕ+) (pn : List UInt64) (out : List FailureData) :
    List FailureData :=
  fillBlocks prefetch (fun pn => copyRecord ({ · with pn := 0 }) (d.dict.find pn)) pn out

/-- **A 404 or 606 line escapes** when its number, without the first digit, is no numeral. -/
theorem fromCSVLine_escapes_iff {table : String} {d : Data} {linebuf : Text} :
    Escapes (fromCSVLine table d linebuf) ↔
      startsWithDigit linebuf = true ∧ 3 ≤ (splitLine linebuf).length ∧
        isNumeral (dropFirst (column (splitLine linebuf) 0)) = false := by
  rw [fromCSVLine, csvRow_escapes_iff, Bool.not_eq_false', decide_eq_true_iff]
  refine and_congr_right fun _ => and_congr_right fun hlen => ?_
  rw [addRow, addRecord_escapes_iff, columnKey_escapes_iff (by omega)]
  refine or_iff_left ?_
  rintro ⟨pn, -, -, h⟩
  rw [subscript_column (by omega), subscript_column (by omega)] at h
  exact not_escapes_ok _ h

end FailureMapping

/-- One line of `F404Mapping::Builder::fromCSV`. -/
def F404Mapping.fromCSVLine : FailureMapping.Data → Text → Except Stop FailureMapping.Data :=
  FailureMapping.fromCSVLine "F404Mapping"

/-- One line of `F606Mapping::Builder::fromCSV`. -/
def F606Mapping.fromCSVLine : FailureMapping.Data → Text → Except Stop FailureMapping.Data :=
  FailureMapping.fromCSVLine "F606Mapping"

end CallFwd
