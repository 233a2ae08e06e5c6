/-
# One line of a CSV file, for the tables that split it into strings

Seven loaders share one shape: a line that does not start as a data line is skipped, the rest is
split by `while (std::getline(ss, part, ','))`, the number of parts is tested, and `addRow` gets
the parts.  `csvRow` is that shape.  The `addRow`s of the record tables share another: a key made
with `std::stoll`, the two checks of the builder, and then the columns of the record, read with
an UNCHECKED subscript.  `addRecord` is that one.

A line can fail in two ways, and the difference decides whether the loader survives.  A
`runtime_error` is caught where the file is loaded.  Anything else ESCAPES: an exception of
`stoll`, or a read behind the end of the parts.  `csvRow_escapes_iff` and
`addRecord_escapes_iff` say, in terms of the text, which lines those are.
-/
import CallFwd.PhoneMapping.Data
import CallFwd.Lib.Stream

namespace CallFwd

open Lib

/-! ## 1. Pieces of a line -/

/-- `std::string deleteCharacter(input, character)`. -/
def deleteCharacter (input : Text) (character : Char) : Text :=
  input.filter fun c => c != character

/-- `std::stringstream ss(linebuf); while (std::getline(ss, part, ',')) parts.push_back(part);` -/
def splitLine (linebuf : Text) : List Text := getlines ',' (IStream.ofText linebuf)

/-- `linebuf[0] >= '0' && linebuf[0] <= '9'`; an empty line has `'\0'` there. -/
def startsWithDigit (linebuf : Text) : Bool := linebuf.head?.any Char.isDigit

/-- `linebuf[0] == c`, for a `c` other than `'\0'`. -/
def startsWith (c : Char) (linebuf : Text) : Bool := linebuf.head?.any (· == c)

/-- `uint64_t n = std::stoll(s)`. -/
def stollKey (s : Text) : Except Stop UInt64 := UInt64.ofInt <$> stoll s

/-- The number a text starts with: a sign and a run of digits behind whitespace. -/
def signedValue (s : Text) : Int :=
  let t := takeSign (s.dropWhile isspace)
  let digits := t.2.takeWhile Char.isDigit
  if t.1 then -(decimal digits : Int) else decimal digits

/-- `n` is a `long long`. -/
def fitsLongLong (n : Int) : Bool := decide (-(2 ^ 63) ≤ n ∧ n < 2 ^ 63)

/-- The texts `std::stoll` has a value for: a digit behind whitespace and sign, and a run of
digits that fits 64 bits. -/
def isNumeral (s : Text) : Bool :=
  !((takeSign (s.dropWhile isspace)).2.takeWhile Char.isDigit).isEmpty &&
    fitsLongLong (signedValue s)

theorem fitsLongLong_iff {n : Int} : fitsLongLong n = true ↔ -(2 ^ 63) ≤ n ∧ n < 2 ^ 63 :=
  decide_eq_true_iff

/-- `std::stoll` in these terms. -/
theorem stoll_eq (s : Text) :
    stoll s = if ((takeSign (s.dropWhile isspace)).2.takeWhile Char.isDigit).isEmpty then
        .error (.exn .invalidArgument)
      else if -(2 ^ 63) ≤ signedValue s ∧ signedValue s < 2 ^ 63 then .ok (signedValue s)
      else .error (.exn .outOfRange) := rfl

/-- A numeral is read as the number it starts with; what follows the digits is ignored. -/
theorem stoll_of_isNumeral {s : Text} (h : isNumeral s = true) : stoll s = .ok (signedValue s) := by
  obtain ⟨hd, hfit⟩ := Bool.and_eq_true_iff.mp h
  rw [stoll_eq, if_neg (by simpa using hd), if_pos (fitsLongLong_iff.mp hfit)]

/-- `std::stoll` throws on every other text, and never a `runtime_error`. -/
theorem stoll_error {s : Text} (h : isNumeral s = false) :
    ∃ e, stoll s = .error e ∧ e.isRuntimeError = false := by
  rw [stoll_eq]
  split
  · exact ⟨_, rfl, rfl⟩
  · rename_i hd
    split
    · rename_i hfit
      have hnum : isNumeral s = true :=
        Bool.and_eq_true_iff.mpr ⟨by simpa using hd, fitsLongLong_iff.mpr hfit⟩
      rw [h] at hnum
      cases hnum
    · exact ⟨_, rfl, rfl⟩

/-- A key wraps: the number -1 is the key 2^64 - 1. -/
theorem stollKey_of_isNumeral {s : Text} (h : isNumeral s = true) :
    stollKey s = .ok (UInt64.ofInt (signedValue s)) := by
  rw [stollKey, stoll_of_isNumeral h]
  rfl

theorem stollKey_error {s : Text} (h : isNumeral s = false) :
    ∃ e, stollKey s = .error e ∧ e.isRuntimeError = false := by
  obtain ⟨e, he, hr⟩ := stoll_error h
  exact ⟨e, by rw [stollKey, he]; rfl, hr⟩

/-! ## 2. What escapes a `catch (std::runtime_error &)` -/

/-- The computation stops with something `catch (std::runtime_error &)` does not stop. -/
def Escapes {α : Type} (x : Except Stop α) : Prop := ∃ e, x = .error e ∧ e.isRuntimeError = false

theorem not_escapes_ok {α : Type} (a : α) : ¬ Escapes (.ok a : Except Stop α) := by
  rintro ⟨e, h, -⟩
  cases h

/-- What a loader reports as bad is always caught. -/
theorem not_escapes_throwRuntimeError {α : Type} (what : String) :
    ¬ Escapes (throwRuntimeError what : Except Stop α) := by
  rintro ⟨e, h, hr⟩
  cases h
  cases hr

/-- A sequence escapes in its first part, or past it. -/
theorem escapes_bind_iff {α β : Type} {x : Except Stop α} {f : α → Except Stop β} :
    Escapes (x >>= f) ↔ Escapes x ∨ ∃ a, x = .ok a ∧ Escapes (f a) := by
  constructor
  · rintro ⟨e, h, hr⟩
    rcases bind_eq_error.mp h with h | ⟨a, ha, hf⟩
    · exact Or.inl ⟨e, h, hr⟩
    · exact Or.inr ⟨a, ha, e, hf, hr⟩
  · rintro (⟨e, h, hr⟩ | ⟨a, ha, e, hf, hr⟩)
    · exact ⟨e, bind_eq_error.mpr (Or.inl h), hr⟩
    · exact ⟨e, bind_eq_error.mpr (Or.inr ⟨a, ha, hf⟩), hr⟩

theorem escapes_map_iff {α β : Type} {x : Except Stop α} {f : α → β} :
    Escapes (f <$> x) ↔ Escapes x := by
  cases x with
  | ok a => exact iff_of_false (not_escapes_ok _) (not_escapes_ok _)
  | error e =>
    constructor
    · rintro ⟨e', h, hr⟩
      cases h
      exact ⟨e, rfl, hr⟩
    · rintro ⟨e', h, hr⟩
      cases h
      exact ⟨e, rfl, hr⟩

theorem escapes_stollKey_iff {s : Text} : Escapes (stollKey s) ↔ isNumeral s = false := by
  constructor
  · rintro ⟨e, h, -⟩
    rw [Bool.eq_false_iff]
    intro hn
    rw [stollKey_of_isNumeral hn] at h
    cases h
  · exact stollKey_error

/-- An unchecked subscript escapes behind the end. -/
theorem escapes_subscript_iff {α : Type} {v : List α} {i : Nat} :
    Escapes (subscript v i) ↔ v.length ≤ i := by
  unfold subscript
  constructor
  · rintro ⟨e, h, -⟩
    by_contra hlt
    rw [List.getElem?_eq_getElem (Nat.lt_of_not_le hlt)] at h
    cases h
  · intro h
    rw [List.getElem?_eq_none h]
    exact ⟨_, rfl, rfl⟩

/-- The text of a column that is there. -/
def column (parts : List Text) (i : Nat) : Text := parts[i]?.getD []

theorem subscript_column {parts : List Text} {i : Nat} (h : i < parts.length) :
    subscript parts i = .ok (column parts i) := by
  simp [subscript, column, h]

/-- A key made from column `i`, which is edited first. -/
def columnKey (parts : List Text) (i : Nat) (edit : Text → Text) : Except Stop UInt64 := do
  let s ← subscript parts i
  stollKey (edit s)

/-- A key escapes with its numeral; that the column is there was tested before. -/
theorem columnKey_escapes_iff {parts : List Text} {i : Nat} {edit : Text → Text}
    (h : i < parts.length) :
    Escapes (columnKey parts i edit) ↔ isNumeral (edit (column parts i)) = false := by
  rw [columnKey, subscript_column h]
  exact escapes_stollKey_iff

theorem columnKey_eq_ok_iff {parts : List Text} {i : Nat} {edit : Text → Text} {pn : UInt64}
    (h : i < parts.length) :
    columnKey parts i edit = .ok pn ↔
      isNumeral (edit (column parts i)) = true ∧
        pn = UInt64.ofInt (signedValue (edit (column parts i))) := by
  rw [columnKey, subscript_column h]
  change stollKey (edit (column parts i)) = .ok pn ↔ _
  cases hn : isNumeral (edit (column parts i)) with
  | true =>
    rw [stollKey_of_isNumeral hn]
    constructor
    · intro e
      cases e
      exact ⟨rfl, rfl⟩
    · rintro ⟨-, rfl⟩
      rfl
  | false =>
    obtain ⟨e, he, -⟩ := stollKey_error hn
    rw [he]
    constructor
    · intro e
      cases e
    · rintro ⟨h, -⟩
      cases h

/-! ## 3. The shared shapes -/

/-- One line of a `fromCSV`: `skip` is the test behind `continue`, `admits` the one on the number
of parts. -/
def csvRow {D : Type} (skip : Text → Bool) (admits : Text → List Text → Bool)
    (addRow : D → List Text → Except Stop D) (d : D) (linebuf : Text) : Except Stop D :=
  let parts := splitLine linebuf
  if skip linebuf then .ok d
  else if admits linebuf parts then addRow d parts
  else throwRuntimeError "bad number of columns"

/-- One `addRow(rowbuf)` of a record table: the key, the checks, the record. -/
def addRecord {V : Type} (table : String) (d : MappingData V) (key : Except Stop UInt64)
    (record : UInt64 → Except Stop V) : Except Stop (MappingData V) := do
  let pn ← key
  d.addRow table pn (record pn) pn

/-- A line that is skipped, or has a bad number of columns, never escapes. -/
theorem csvRow_escapes_iff {D : Type} {skip : Text → Bool} {admits : Text → List Text → Bool}
    {addRow : D → List Text → Except Stop D} {d : D} {linebuf : Text} :
    Escapes (csvRow skip admits addRow d linebuf) ↔
      skip linebuf = false ∧ admits linebuf (splitLine linebuf) = true ∧
        Escapes (addRow d (splitLine linebuf)) := by
  unfold csvRow
  by_cases hs : skip linebuf
  · simp [hs, not_escapes_ok]
  · by_cases ha : admits linebuf (splitLine linebuf)
    · simp [hs, ha]
    · simp [hs, ha, not_escapes_throwRuntimeError]

/-- The row is refused by neither check of the builder. -/
def Fresh {V : Type} (d : MappingData V) (pn : UInt64) : Prop :=
  pn ∉ d.dict.keys ∧ d.pnColumn.length < MAXROWS

/-- The columns are read behind the checks, so a row that these refuse does not escape. -/
theorem addRow_escapes_iff {V : Type} {table : String} {d : MappingData V} {pn ix : UInt64}
    {value : Except Stop V} :
    Escapes (d.addRow table pn value ix) ↔ Fresh d pn ∧ Escapes value := by
  constructor
  · rintro ⟨e, h, hr⟩
    rcases MappingData.addRow_error h with h' | ⟨h1, h2, h'⟩
    · rw [hr] at h'
      cases h'
    · exact ⟨⟨h1, h2⟩, e, h', hr⟩
  · rintro ⟨⟨h1, h2⟩, e, h, hr⟩
    refine ⟨e, ?_, hr⟩
    have hcheck : d.checkRow table pn = .ok () := MappingData.checkRow_eq_ok.mpr ⟨h1, h2⟩
    rw [MappingData.addRow, hcheck, h]
    rfl

/-- **A record row escapes** when its key does, or when the checks let it through and a column
is missing. -/
theorem addRecord_escapes_iff {V : Type} {table : String} {d : MappingData V}
    {key : Except Stop UInt64} {record : UInt64 → Except Stop V} :
    Escapes (addRecord table d key record) ↔
      Escapes key ∨ ∃ pn, key = .ok pn ∧ Fresh d pn ∧ Escapes (record pn) := by
  unfold addRecord
  rw [escapes_bind_iff]
  simp only [addRow_escapes_iff]

/-- **A row of the least number of columns**, for a record that reads one column more: it escapes
when its number is no numeral, and when the number is new. -/
theorem addRecord_escapes_iff_of_length {V : Type} {table : String} {d : MappingData V}
    {parts : List Text} {i n : Nat} {record : UInt64 → Except Stop V} (hi : i < n)
    (hlen : n ≤ parts.length) (hrecord : ∀ pn, Escapes (record pn) ↔ parts.length = n) :
    Escapes (addRecord table d (columnKey parts i id) record) ↔
      isNumeral (column parts i) = false ∨
        (parts.length = n ∧ Fresh d (UInt64.ofInt (signedValue (column parts i)))) := by
  have hcolumn : i < parts.length := Nat.lt_of_lt_of_le hi hlen
  rw [addRecord_escapes_iff, columnKey_escapes_iff hcolumn]
  refine or_congr_right' fun hnum => ?_
  rw [id_eq, Bool.not_eq_false] at hnum
  constructor
  · rintro ⟨pn, hkey, hfresh, h⟩
    obtain ⟨-, rfl⟩ := (columnKey_eq_ok_iff hcolumn).mp hkey
    exact ⟨(hrecord _).mp h, hfresh⟩
  · rintro ⟨hn, hfresh⟩
    exact ⟨_, (columnKey_eq_ok_iff hcolumn).mpr ⟨hnum, rfl⟩, hfresh, (hrecord _).mpr hn⟩

end CallFwd
