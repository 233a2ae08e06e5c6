/-
# Columns: how many a loader asks for, and which it reads

Eight loaders split a line with `while (std::getline(ss, part, ','))` and test the number of parts.
Two things can go wrong with that test.

* The parts are read in `addRow`, by indices that the test does not know.  Geo asks for 19 parts
  and reads `rowbuf[19]`, FTC asks for 5 and reads `rowbuf[5]`.  `columnsSafe_iff` says which lines
  reach such a read; for the other six loaders there are none.
* `getline` gives no part for an empty field at the end of a line, so the number of parts is not
  the number of fields.  Youmail has a second test for that case, LERG, toll-free and DNO do not.
  `countsColumns_iff` says for which lines the test decides by the number of fields.
-/
import CallFwd.Tables.Records
import CallFwd.Tables.Numbers

namespace CallFwd

open Lib

/-! ## 1. The loaders that split a line -/

/-- The builders whose `fromCSV` splits a line into a `std::vector<std::string>`. -/
inductive SplitLoader
  | lerg
  | youmail
  | geo
  | ftc
  | f404
  | f606
  | tollFree
  | dno (dnotype : DnoMapping.DnoType)
deriving DecidableEq, Repr

namespace SplitLoader

/-- What the loader fills. -/
def Builder : SplitLoader → Type
  | .lerg => LergMapping.Data
  | .youmail => YoumailMapping.Data
  | .geo => GeoMapping.Data
  | .ftc => FtcMapping.Data
  | .f404 | .f606 => FailureMapping.Data
  | .tollFree => TollFreeMapping.Data
  | .dno _ => DnoMapping.Data

/-- One line of its `fromCSV`. -/
def fromCSVLine : (l : SplitLoader) → l.Builder → Text → Except Stop l.Builder
  | .lerg => LergMapping.fromCSVLine
  | .youmail => YoumailMapping.fromCSVLine
  | .geo => GeoMapping.fromCSVLine
  | .ftc => FtcMapping.fromCSVLine
  | .f404 => F404Mapping.fromCSVLine
  | .f606 => F606Mapping.fromCSVLine
  | .tollFree => TollFreeMapping.fromCSVLine
  | .dno dnotype => DnoMapping.fromCSVLine dnotype

/-- The lines that are not skipped. -/
def isData : SplitLoader → Text → Bool
  | .youmail => startsWith '+'
  | .geo => fun _ => true
  | .lerg | .ftc | .f404 | .f606 | .tollFree | .dno _ => startsWithDigit

/-- The test on the number of parts. -/
def admits : SplitLoader → Text → List Text → Bool
  | .lerg, _, parts => parts.length == 10
  | .youmail, linebuf, parts => YoumailMapping.admits linebuf parts
  | .geo, _, parts => decide (19 ≤ parts.length)
  | .ftc, _, parts => decide (5 ≤ parts.length)
  | .f404, _, parts | .f606, _, parts => decide (3 ≤ parts.length)
  | .tollFree, _, parts | .dno _, _, parts => parts.length == 3

/-- What is done with the parts. -/
def addRow : (l : SplitLoader) → l.Builder → List Text → Except Stop l.Builder
  | .lerg => LergMapping.addRow
  | .youmail => YoumailMapping.addRow
  | .geo => GeoMapping.addRow
  | .ftc => FtcMapping.addRow
  | .f404 => FailureMapping.addRow "F404Mapping"
  | .f606 => FailureMapping.addRow "F606Mapping"
  | .tollFree => fun d parts => do
    let pn ← columnKey parts 0 id
    TollFreeMapping.addRow d pn 1
  | .dno dnotype => fun d parts => do
    let pn ← columnKey parts 0 fun s => deleteCharacter s '-'
    DnoMapping.addRow d pn dnotype 1

/-- Every one of them is the shared shape. -/
theorem fromCSVLine_eq (l : SplitLoader) :
    l.fromCSVLine = csvRow (fun linebuf => !l.isData linebuf) l.admits l.addRow := by
  cases l <;> rfl

end SplitLoader

/-! ## 2. Reads behind the end of the parts -/

/-- The computation reads behind the end of a vector. -/
def Overruns {α : Type} (x : Except Stop α) : Prop := x = .error (.undefined .outOfBounds)

theorem not_overruns_ok {α : Type} (a : α) : ¬ Overruns (.ok a : Except Stop α) := by
  intro h
  cases h

theorem not_overruns_throwRuntimeError {α : Type} (what : String) :
    ¬ Overruns (throwRuntimeError what : Except Stop α) := by
  intro h
  cases h

theorem Overruns.escapes {α : Type} {x : Except Stop α} (h : Overruns x) : Escapes x := ⟨_, h, rfl⟩

/-- A sequence overruns in its first part, or past it. -/
theorem overruns_bind_iff {α β : Type} {x : Except Stop α} {f : α → Except Stop β} :
    Overruns (x >>= f) ↔ Overruns x ∨ ∃ a, x = .ok a ∧ Overruns (f a) :=
  bind_eq_error

theorem overruns_subscript_iff {α : Type} {v : List α} {i : ℕ} :
    Overruns (subscript v i) ↔ v.length ≤ i := by
  constructor
  · intro h
    exact escapes_subscript_iff.mp h.escapes
  · intro h
    rw [Overruns, subscript, List.getElem?_eq_none h]

theorem stoll_eq_error {s : Text} {e : Stop} (h : stoll s = .error e) : ∃ x, e = .exn x := by
  rw [stoll_eq] at h
  split at h
  · cases h
    exact ⟨_, rfl⟩
  · split at h
    · cases h
    · cases h
      exact ⟨_, rfl⟩

theorem not_overruns_stoll (s : Text) : ¬ Overruns (stoll s) := by
  intro h
  obtain ⟨x, hx⟩ := stoll_eq_error h
  cases hx

/-- The key of a row, when its column is there. -/
theorem columnKey_eq_error {parts : List Text} {i : ℕ} {edit : Text → Text} {e : Stop}
    (hi : i < parts.length) (h : columnKey parts i edit = .error e) : ∃ x, e = .exn x := by
  rw [columnKey, subscript_column hi] at h
  change UInt64.ofInt <$> stoll (edit (column parts i)) = .error e at h
  cases hs : stoll (edit (column parts i)) with
  | ok n =>
    rw [hs] at h
    cases h
  | error e' =>
    rw [hs] at h
    cases h
    exact stoll_eq_error hs

theorem not_overruns_columnKey {parts : List Text} {i : ℕ} {edit : Text → Text}
    (hi : i < parts.length) : ¬ Overruns (columnKey parts i edit) := by
  intro h
  obtain ⟨x, hx⟩ := columnKey_eq_error hi h
  cases hx

theorem overruns_csvRow_iff {D : Type} {skip : Text → Bool} {admits : Text → List Text → Bool}
    {addRow : D → List Text → Except Stop D} {d : D} {linebuf : Text} :
    Overruns (csvRow skip admits addRow d linebuf) ↔
      skip linebuf = false ∧ admits linebuf (splitLine linebuf) = true ∧
        Overruns (addRow d (splitLine linebuf)) := by
  unfold csvRow
  by_cases hs : skip linebuf
  · simp [hs, not_overruns_ok]
  · by_cases ha : admits linebuf (splitLine linebuf)
    · simp [hs, ha]
    · simp [hs, ha, not_overruns_throwRuntimeError]

theorem overruns_addRow_iff {V : Type} {table : String} {d : MappingData V} {pn ix : UInt64}
    {value : Except Stop V} :
    Overruns (d.addRow table pn value ix) ↔ Fresh d pn ∧ Overruns value := by
  constructor
  · intro h
    rcases MappingData.addRow_error h with h' | ⟨h1, h2, h'⟩
    · cases h'
    · exact ⟨⟨h1, h2⟩, h'⟩
  · rintro ⟨hfresh, h⟩
    rw [Overruns] at h
    rw [Overruns, MappingData.addRow, (MappingData.checkRow_eq_ok (u := ())).mpr hfresh, h]
    rfl

theorem overruns_addRecord_iff {V : Type} {table : String} {d : MappingData V}
    {key : Except Stop UInt64} {record : UInt64 → Except Stop V} :
    Overruns (addRecord table d key record) ↔
      Overruns key ∨ ∃ pn, key = .ok pn ∧ Fresh d pn ∧ Overruns (record pn) := by
  unfold addRecord
  rw [overruns_bind_iff]
  simp only [overruns_addRow_iff]

/-- A record row that throws before its record is made. -/
theorem addRecord_throws {V : Type} {table : String} {d : MappingData V}
    {key : Except Stop UInt64} {record : UInt64 → Except Stop V}
    (hkey : ∀ e, key = .error e → ∃ x, e = .exn x) (hfresh : ∀ pn, key = .ok pn → ¬ Fresh d pn) :
    ∃ x, addRecord table d key record = .error (.exn x) := by
  unfold addRecord
  cases key with
  | error e =>
    obtain ⟨x, rfl⟩ := hkey e rfl
    exact ⟨x, rfl⟩
  | ok pn =>
    cases hc : d.checkRow table pn with
    | ok u => exact absurd (MappingData.checkRow_eq_ok.mp hc) (hfresh pn rfl)
    | error e =>
      have hrun := MappingData.checkRow_error hc
      cases e with
      | undefined f => cases hrun
      | exn x =>
        refine ⟨x, ?_⟩
        change d.addRow table pn (record pn) pn = _
        rw [MappingData.addRow, hc]
        rfl

/-! ## 3. The loaders, one by one -/

theorem not_overruns_longLong (n : ℤ) : ¬ Overruns (LergMapping.longLong n) := by
  unfold LergMapping.longLong
  split
  · exact not_overruns_ok n
  · intro h
    cases h

theorem LergMapping.not_overruns_addRow {d : LergMapping.Data} {rowbuf : List Text}
    (hlen : rowbuf.length = 10) : ¬ Overruns (LergMapping.addRow d rowbuf) := by
  have hkey : ¬ Overruns (LergMapping.keyNpaNxx rowbuf) := by
    unfold LergMapping.keyNpaNxx
    rw [subscript_column (by omega), subscript_column (by omega)]
    simp [overruns_bind_iff, not_overruns_ok, not_overruns_stoll, not_overruns_longLong]
  have hkeyX : ¬ Overruns (LergMapping.keyNpaNxxX rowbuf) := by
    unfold LergMapping.keyNpaNxxX
    rw [subscript_column (by omega), subscript_column (by omega), subscript_column (by omega)]
    simp [overruns_bind_iff, not_overruns_ok, not_overruns_stoll, not_overruns_longLong]
  unfold LergMapping.addRow
  rw [subscript_column (by omega)]
  change ¬ Overruns (if column rowbuf 2 = [] then _ else _)
  split
  · rw [overruns_bind_iff]
    rintro (h | ⟨key, -, h⟩)
    · exact hkey h
    · exact LergMapping.insert_not_escapes hlen h.escapes
  · rw [overruns_bind_iff]
    rintro (h | ⟨key, -, h⟩)
    · exact hkeyX h
    · exact LergMapping.insert_not_escapes hlen h.escapes

/-- A record whose columns are all there. -/
theorem not_overruns_addRecord {V : Type} {table : String} {d : MappingData V}
    {parts : List Text} {i : ℕ} {edit : Text → Text} {record : UInt64 → Except Stop V}
    (hi : i < parts.length) (hrecord : ∀ pn, ∃ v, record pn = .ok v) :
    ¬ Overruns (addRecord table d (columnKey parts i edit) record) := by
  rw [overruns_addRecord_iff]
  rintro (h | ⟨pn, -, -, h⟩)
  · exact not_overruns_columnKey hi h
  · obtain ⟨v, hv⟩ := hrecord pn
    rw [hv] at h
    exact not_overruns_ok v h

theorem YoumailMapping.not_overruns_addRow {d : YoumailMapping.Data} {rowbuf : List Text}
    (hlen : rowbuf.length = 5 ∨ rowbuf.length = 4) :
    ¬ Overruns (YoumailMapping.addRow d rowbuf) := by
  refine not_overruns_addRecord (by omega) fun pn => ?_
  rw [subscript_column (by omega), subscript_column (by omega), subscript_column (by omega)]
  rcases hlen with hlen | hlen
  · rw [YoumailMapping.lastColumn, if_neg (by omega), subscript_column (by omega)]
    exact ⟨_, rfl⟩
  · rw [YoumailMapping.lastColumn, if_pos hlen]
    exact ⟨_, rfl⟩

theorem FailureMapping.not_overruns_addRow {table : String} {d : FailureMapping.Data}
    {rowbuf : List Text} (hlen : 3 ≤ rowbuf.length) :
    ¬ Overruns (FailureMapping.addRow table d rowbuf) := by
  refine not_overruns_addRecord (by omega) fun pn => ?_
  rw [subscript_column (by omega), subscript_column (by omega)]
  exact ⟨_, rfl⟩

/-- A new row whose key can be read. -/
def NewRow {V : Type} (d : MappingData V) (key : Text) : Prop :=
  isNumeral key = true ∧ Fresh d (UInt64.ofInt (signedValue key))

/-- A record that is complete but for its last column, which overruns exactly when the key lets
the row get that far. -/
theorem overruns_addRecord_last {V : Type} {table : String} {d : MappingData V}
    {parts : List Text} {i : ℕ} {record : UInt64 → Except Stop V} (hi : i < parts.length)
    (hrecord : ∀ pn, Overruns (record pn)) :
    Overruns (addRecord table d (columnKey parts i id) record) ↔ NewRow d (column parts i) := by
  rw [overruns_addRecord_iff, or_iff_right (not_overruns_columnKey hi)]
  constructor
  · rintro ⟨pn, hkey, hfresh, -⟩
    obtain ⟨hnum, rfl⟩ := (columnKey_eq_ok_iff hi).mp hkey
    exact ⟨hnum, hfresh⟩
  · rintro ⟨hnum, hfresh⟩
    exact ⟨_, (columnKey_eq_ok_iff hi).mpr ⟨hnum, rfl⟩, hfresh, hrecord _⟩

/-- ...and otherwise throws. -/
theorem addRecord_throws_of_not_newRow {V : Type} {table : String} {d : MappingData V}
    {parts : List Text} {i : ℕ} {record : UInt64 → Except Stop V} (hi : i < parts.length)
    (h : ¬ NewRow d (column parts i)) :
    ∃ x, addRecord table d (columnKey parts i id) record = .error (.exn x) := by
  refine addRecord_throws (fun e he => columnKey_eq_error hi he) fun pn hpn hfresh => h ?_
  obtain ⟨hnum, rfl⟩ := (columnKey_eq_ok_iff hi).mp hpn
  exact ⟨hnum, hfresh⟩

theorem GeoMapping.not_overruns_addRow {d : GeoMapping.Data} {rowbuf : List Text}
    (hlen : 20 ≤ rowbuf.length) : ¬ Overruns (GeoMapping.addRow d rowbuf) := by
  refine not_overruns_addRecord (by omega) fun pn => ?_
  rw [subscript_column (by omega), subscript_column (by omega), subscript_column (by omega),
    subscript_column (by omega), subscript_column (by omega), subscript_column (by omega)]
  exact ⟨_, rfl⟩

theorem GeoMapping.overruns_addRow_iff {d : GeoMapping.Data} {rowbuf : List Text}
    (hlen : rowbuf.length = 19) :
    Overruns (GeoMapping.addRow d rowbuf) ↔ NewRow d (column rowbuf 0) := by
  refine overruns_addRecord_last (by omega) fun npanxx => ?_
  rw [subscript_column (by omega), subscript_column (by omega), subscript_column (by omega),
    subscript_column (by omega), subscript_column (by omega)]
  change Overruns (subscript rowbuf 19 >>= _)
  exact overruns_bind_iff.mpr (Or.inl (overruns_subscript_iff.mpr (by omega)))

theorem FtcMapping.not_overruns_addRow {d : FtcMapping.Data} {rowbuf : List Text}
    (hlen : 6 ≤ rowbuf.length) : ¬ Overruns (FtcMapping.addRow d rowbuf) := by
  refine not_overruns_addRecord (by omega) fun pn => ?_
  rw [subscript_column (by omega), subscript_column (by omega), subscript_column (by omega)]
  exact ⟨_, rfl⟩

theorem FtcMapping.overruns_addRow_iff {d : FtcMapping.Data} {rowbuf : List Text}
    (hlen : rowbuf.length = 5) :
    Overruns (FtcMapping.addRow d rowbuf) ↔ NewRow d (column rowbuf 1) := by
  refine overruns_addRecord_last (by omega) fun pn => ?_
  rw [subscript_column (by omega), subscript_column (by omega)]
  change Overruns (subscript rowbuf 5 >>= _)
  exact overruns_bind_iff.mpr (Or.inl (overruns_subscript_iff.mpr (by omega)))

namespace SplitLoader

/-- The columns a row has to have: those the test asks for and those `addRow` reads. -/
def columns : SplitLoader → ℕ
  | .lerg => 10
  | .youmail => 4
  | .geo => 20
  | .ftc => 6
  | .f404 | .f606 | .tollFree | .dno _ => 3

/-- No column is read that is not there, and a data line with too few of them throws. -/
def ColumnsSafe (l : SplitLoader) (d : l.Builder) (linebuf : Text) : Prop :=
  ¬ Overruns (l.fromCSVLine d linebuf) ∧
    (l.isData linebuf = true → (splitLine linebuf).length < l.columns →
      ∃ x, l.fromCSVLine d linebuf = .error (.exn x))

/-- A new row of Geo with exactly 19 parts, or of FTC with exactly 5. -/
def OneShort : (l : SplitLoader) → l.Builder → Text → Prop
  | .geo, d, linebuf =>
    (splitLine linebuf).length = 19 ∧ NewRow d (column (splitLine linebuf) 0)
  | .ftc, d, linebuf =>
    startsWithDigit linebuf = true ∧ (splitLine linebuf).length = 5 ∧
      NewRow d (column (splitLine linebuf) 1)
  | .lerg, _, _ | .youmail, _, _ | .f404, _, _ | .f606, _, _ | .tollFree, _, _ | .dno _, _, _ =>
    False

theorem length_of_youmail_admits {linebuf : Text} {parts : List Text}
    (h : YoumailMapping.admits linebuf parts = true) : parts.length = 5 ∨ parts.length = 4 := by
  rcases Bool.or_eq_true_iff.mp h with h | h
  · exact Or.inl (by simpa using h)
  · exact Or.inr (by simpa using (Bool.and_eq_true_iff.mp h).1)

/-- **Two tests are one short**: every other one lets pass no fewer parts than the row has to
have. -/
theorem columns_le_of_admits {l : SplitLoader} {linebuf : Text} {parts : List Text}
    (hadm : l.admits linebuf parts = true) :
    l.columns ≤ parts.length ∨ (l = .geo ∧ parts.length = 19) ∨ (l = .ftc ∧ parts.length = 5) := by
  cases l with
  | lerg =>
    have hlen : parts.length = 10 := by simpa [admits] using hadm
    exact Or.inl hlen.ge
  | youmail =>
    have hlen := length_of_youmail_admits hadm
    exact Or.inl (show 4 ≤ parts.length by omega)
  | geo =>
    have hlen : 19 ≤ parts.length := by simpa [admits] using hadm
    rcases hlen.eq_or_lt with h19 | h20
    · exact Or.inr (Or.inl ⟨rfl, h19.symm⟩)
    · exact Or.inl h20
  | ftc =>
    have hlen : 5 ≤ parts.length := by simpa [admits] using hadm
    rcases hlen.eq_or_lt with h5 | h6
    · exact Or.inr (Or.inr ⟨rfl, h5.symm⟩)
    · exact Or.inl h6
  | f404 =>
    have hlen : 3 ≤ parts.length := by simpa [admits] using hadm
    exact Or.inl hlen
  | f606 =>
    have hlen : 3 ≤ parts.length := by simpa [admits] using hadm
    exact Or.inl hlen
  | tollFree =>
    have hlen : parts.length = 3 := by simpa [admits] using hadm
    exact Or.inl hlen.ge
  | dno dnotype =>
    have hlen : parts.length = 3 := by simpa [admits] using hadm
    exact Or.inl hlen.ge

/-- A row with its columns is read inside its bounds. -/
theorem not_overruns_addRow {l : SplitLoader} {d : l.Builder} {linebuf : Text} {parts : List Text}
    (hadm : l.admits linebuf parts = true) (hlen : l.columns ≤ parts.length) :
    ¬ Overruns (l.addRow d parts) := by
  cases l with
  | lerg => exact LergMapping.not_overruns_addRow (by simpa [admits] using hadm)
  | youmail => exact YoumailMapping.not_overruns_addRow (length_of_youmail_admits hadm)
  | geo => exact GeoMapping.not_overruns_addRow hlen
  | ftc => exact FtcMapping.not_overruns_addRow hlen
  | f404 => exact FailureMapping.not_overruns_addRow hlen
  | f606 => exact FailureMapping.not_overruns_addRow hlen
  | tollFree =>
    intro h
    rcases overruns_bind_iff.mp h with h | ⟨pn, -, h⟩
    · exact not_overruns_columnKey (Nat.lt_of_lt_of_le (Nat.succ_pos 2) hlen) h
    · exact not_overruns_ok _ (overruns_addRow_iff.mp h).2
  | dno dnotype =>
    intro h
    rcases overruns_bind_iff.mp h with h | ⟨pn, -, h⟩
    · exact not_overruns_columnKey (Nat.lt_of_lt_of_le (Nat.succ_pos 2) hlen) h
    · exact DnoMapping.addRow_not_escapes h.escapes

/-- Which lines reach a read behind the end of their parts. -/
theorem overruns_fromCSVLine_iff (l : SplitLoader) (d : l.Builder) (linebuf : Text) :
    Overruns (l.fromCSVLine d linebuf) ↔ l.OneShort d linebuf := by
  rw [fromCSVLine_eq, overruns_csvRow_iff, Bool.not_eq_false']
  constructor
  · rintro ⟨hdata, hadm, h⟩
    rcases columns_le_of_admits hadm with hlen | ⟨rfl, h19⟩ | ⟨rfl, h5⟩
    · exact absurd h (not_overruns_addRow hadm hlen)
    · exact ⟨h19, (GeoMapping.overruns_addRow_iff h19).mp h⟩
    · exact ⟨hdata, h5, (FtcMapping.overruns_addRow_iff h5).mp h⟩
  · intro h
    cases l with
    | geo =>
      obtain ⟨h19, hnew⟩ := h
      exact ⟨rfl, decide_eq_true (by omega), (GeoMapping.overruns_addRow_iff h19).mpr hnew⟩
    | ftc =>
      obtain ⟨hdata, h5, hnew⟩ := h
      exact ⟨hdata, decide_eq_true (by omega), (FtcMapping.overruns_addRow_iff h5).mpr hnew⟩
    | _ => cases h

/-- A data line that the test refuses. -/
theorem throws_of_not_admits {l : SplitLoader} {d : l.Builder} {linebuf : Text}
    (hdata : l.isData linebuf = true) (hadm : l.admits linebuf (splitLine linebuf) = false) :
    ∃ x, l.fromCSVLine d linebuf = .error (.exn x) := by
  refine ⟨.runtimeError "bad number of columns", ?_⟩
  rw [fromCSVLine_eq, csvRow, hdata, hadm]
  rfl

/-- A data line with too few columns throws, unless it reads behind their end first. -/
theorem throws_of_few {l : SplitLoader} {d : l.Builder} {linebuf : Text}
    (hdata : l.isData linebuf = true) (hfew : (splitLine linebuf).length < l.columns)
    (hshort : ¬ l.OneShort d linebuf) : ∃ x, l.fromCSVLine d linebuf = .error (.exn x) := by
  cases hadm : l.admits linebuf (splitLine linebuf) with
  | false => exact throws_of_not_admits hdata hadm
  | true =>
    have hline : l.fromCSVLine d linebuf = l.addRow d (splitLine linebuf) := by
      rw [fromCSVLine_eq, csvRow, hdata, hadm]
      rfl
    rw [hline]
    rcases columns_le_of_admits hadm with hlen | ⟨rfl, h19⟩ | ⟨rfl, h5⟩
    · exact absurd hfew (Nat.not_lt.mpr hlen)
    · exact addRecord_throws_of_not_newRow (by omega) fun hnew => hshort ⟨h19, hnew⟩
    · exact addRecord_throws_of_not_newRow (by omega) fun hnew => hshort ⟨hdata, h5, hnew⟩

/-- **Which lines are safe for a loader**: all of them, but for the new rows of Geo and FTC whose
number of columns passes the test and is one below the last column read. -/
theorem columnsSafe_iff (l : SplitLoader) (d : l.Builder) (linebuf : Text) :
    l.ColumnsSafe d linebuf ↔ ¬ l.OneShort d linebuf := by
  rw [ColumnsSafe, overruns_fromCSVLine_iff]
  constructor
  · exact And.left
  · intro h
    exact ⟨h, fun hdata hfew => throws_of_few hdata hfew h⟩

/-- A first row of Geo with 18 commas: its 19 columns pass the test, and `rowbuf[19]` is read. -/
theorem geo_not_columnsSafe :
    ¬ SplitLoader.geo.ColumnsSafe (MappingData.empty : GeoMapping.Data)
      "201202,07030,,,,,HOBOKEN,,,40.74,HUDSON,-74.03,,,,,,,x".toList := by
  intro h
  refine h.1 ((overruns_fromCSVLine_iff .geo _ _).mpr ?_)
  change (splitLine _).length = 19 ∧ NewRow MappingData.empty (column (splitLine _) 0)
  rw [splitLine, getlines_ofText]
  exact ⟨by decide, by decide, by decide, by decide⟩

end SplitLoader

/-! ## 4. Parts and fields -/

theorem terminated_of_getLast {delim : Char} {text : Text} (h : text.getLast? = some delim) :
    terminated delim text = true := by
  rw [terminated, h]
  simp

theorem terminated_of_getLast_ne {delim : Char} {text : Text} (hne : text ≠ [])
    (h : text.getLast? ≠ some delim) : terminated delim text = false := by
  rw [List.getLast?_eq_some_getLast hne] at h
  rw [terminated, List.getLast?_eq_some_getLast hne, Option.all_some, beq_eq_false_iff_ne]
  intro e
  exact h (congrArg some e)

/-- A line that ends in a comma has one part less than fields. -/
theorem length_splitLine_of_getLast {linebuf : Text} (h : linebuf.getLast? = some ',') :
    (splitLine linebuf).length = linebuf.count ',' := by
  have hfields := length_splitOn ',' linebuf
  rw [splitOn_eq_pieces, terminated_of_getLast h, if_pos rfl, List.length_append] at hfields
  rw [splitLine, getlines_ofText]
  exact Nat.succ_injective hfields

/-- Another line has as many parts as fields, unless it is empty. -/
theorem length_splitLine_of_getLast_ne {linebuf : Text} (h : linebuf.getLast? ≠ some ',') :
    (splitLine linebuf).length = linebuf.count ',' + 1 ∨
      ((splitLine linebuf).length = 0 ∧ linebuf.count ',' = 0) := by
  rw [splitLine, getlines_ofText]
  by_cases hne : linebuf = []
  · rw [hne]
    exact Or.inr ⟨rfl, rfl⟩
  · have hfields := length_splitOn ',' linebuf
    rw [splitOn_eq_pieces, terminated_of_getLast_ne hne h, if_neg Bool.false_ne_true] at hfields
    exact Or.inl hfields

/-- A part is the field at its place, and a field without a part is empty. -/
theorem column_splitLine (linebuf : Text) (j : ℕ) :
    column (splitLine linebuf) j = column (linebuf.splitOn ',') j := by
  rw [splitLine, getlines_ofText, splitOn_eq_pieces]
  split
  · unfold column
    rcases Nat.lt_trichotomy j (pieces ',' linebuf).length with h | h | h
    · rw [List.getElem?_append_left h]
    · subst h
      simp
    · rw [List.getElem?_eq_none (by omega), List.getElem?_eq_none (by simp; omega)]
  · rfl

namespace SplitLoader

/-- The number of columns of the loaders that ask for one number. -/
def exactColumns : SplitLoader → Option ℕ
  | .lerg => some 10
  | .youmail => some 5
  | .tollFree | .dno _ => some 3
  | .geo | .ftc | .f404 | .f606 => none

/-- The column test decides by the number of fields, one more than there are commas, and the
columns handed on are the fields; one that is omitted stands for an empty field. -/
def CountsColumns (l : SplitLoader) (N : ℕ) (linebuf : Text) : Prop :=
  (l.admits linebuf (splitLine linebuf) = true ↔ linebuf.count ',' + 1 = N) ∧
    ∀ j, column (splitLine linebuf) j = column (linebuf.splitOn ',') j

theorem admits_iff_of_ne_youmail {l : SplitLoader} {N : ℕ} (hN : l.exactColumns = some N)
    (hl : l ≠ .youmail) (linebuf : Text) (parts : List Text) :
    l.admits linebuf parts = true ↔ parts.length = N := by
  cases l with
  | youmail => exact absurd rfl hl
  | geo | ftc | f404 | f606 => cases hN
  | lerg | tollFree | dno =>
    cases hN
    exact beq_iff_eq

theorem youmail_admits_iff (linebuf : Text) (parts : List Text) :
    SplitLoader.youmail.admits linebuf parts = true ↔
      parts.length = 5 ∨ (parts.length = 4 ∧ linebuf.getLast? = some ',') := by
  simp [admits, YoumailMapping.admits]

theorem two_le_exactColumns {l : SplitLoader} {N : ℕ} (hN : l.exactColumns = some N) : 2 ≤ N := by
  cases l with
  | geo | ftc | f404 | f606 => cases hN
  | lerg | youmail | tollFree | dno =>
    cases hN
    decide

/-- **Which lines are counted by their fields**: all but those that end in a comma and have one
field too many, or, for a loader other than Youmail, the right number of them. -/
theorem countsColumns_iff (l : SplitLoader) (N : ℕ) (hN : l.exactColumns = some N)
    (linebuf : Text) :
    l.CountsColumns N linebuf ↔
      ¬ (linebuf.getLast? = some ',' ∧
        (linebuf.count ',' = N ∨ (l ≠ .youmail ∧ linebuf.count ',' + 1 = N))) := by
  rw [CountsColumns, and_iff_left (column_splitLine linebuf)]
  have htwo := two_le_exactColumns hN
  by_cases hlast : linebuf.getLast? = some ','
  · have hlen := length_splitLine_of_getLast hlast
    by_cases hl : l = .youmail
    · subst hl
      cases hN
      simp only [youmail_admits_iff, hlen, hlast, ne_eq, not_true_eq_false, false_and, or_false,
        true_and, and_true]
      omega
    · simp only [admits_iff_of_ne_youmail hN hl, hlen, hlast, ne_eq, hl, not_false_eq_true,
        true_and]
      omega
  · -- without a comma at the end the parts are the fields
    have hlen := length_splitLine_of_getLast_ne hlast
    by_cases hl : l = .youmail
    · subst hl
      cases hN
      simp only [youmail_admits_iff, hlast, and_false, false_and, not_false_eq_true, or_false,
        iff_true]
      omega
    · simp only [admits_iff_of_ne_youmail hN hl, hlast, false_and, not_false_eq_true, iff_true]
      omega

/-- A toll-free line with its last field filled in. -/
theorem countsColumns_tollFree_line :
    SplitLoader.tollFree.CountsColumns 3 "8005550100,a,b".toList :=
  (countsColumns_iff .tollFree 3 rfl _).mpr (by decide)

/-- A LERG line of ten fields, the last of them empty: the test finds nine parts and throws. -/
theorem lerg_line_not_counted :
    ("201,202,3,NJ,ACME,1234,HOBOKEN,CLEC,224,".toList.splitOn ',').length = 10 ∧
      SplitLoader.lerg.admits "201,202,3,NJ,ACME,1234,HOBOKEN,CLEC,224,".toList
        (splitLine "201,202,3,NJ,ACME,1234,HOBOKEN,CLEC,224,".toList) = false ∧
      ¬ SplitLoader.lerg.CountsColumns 10 "201,202,3,NJ,ACME,1234,HOBOKEN,CLEC,224,".toList := by
  have hadm : SplitLoader.lerg.admits "201,202,3,NJ,ACME,1234,HOBOKEN,CLEC,224,".toList
      (splitLine "201,202,3,NJ,ACME,1234,HOBOKEN,CLEC,224,".toList) = false := by
    rw [splitLine, getlines_ofText]
    decide
  refine ⟨by rw [length_splitOn]; decide, hadm, ?_⟩
  intro h
  have htrue := h.1.mpr (by decide)
  rw [hadm] at htrue
  cases htrue

end SplitLoader

end CallFwd
