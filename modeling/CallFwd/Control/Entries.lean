/-
# What a loaded table holds, in terms of its file

Every line that is accepted either makes one entry of a dictionary, or none where it is no data line.
`entryOf` reads the entry off the line alone, for the nine tables with one dictionary over columns;
`entries_foldLines` says that after a load the dictionary has the entries of the lines, in order, and
nothing else.  DNO and LERG have more than one dictionary and keep lemmas of their own.

So a lookup in a loaded table is a search through the lines of a file.
-/
import CallFwd.Control.Dispatch
import CallFwd.Control.Dno
import CallFwd.Tables.Keys
import CallFwd.Tables.Lerg

namespace CallFwd

open Lib

/-! ## 1. The entry of a line -/

/-- The number a text is read as by `stoll`. -/
def numberOf (s : Text) : UInt64 := UInt64.ofInt (signedValue s)

/-- The entry of a data line: its columns are made into a record under a number. -/
def dataEntry {V : Type} (skip : Text → Bool) (i : ℕ) (edit : Text → Text)
    (record : List Text → UInt64 → V) (line : Text) : Option (UInt64 × V) :=
  if skip line then none
  else
    let pn := numberOf (edit (column (splitLine line) i))
    some (pn, record (splitLine line) pn)

/-- All of the line without its commas is the number. -/
def DncMapping.entryOf (line : Text) : Option (UInt64 × UInt64) :=
  (extractUint64 (deleteCharacter line ',')).toOption.map fun pn => (pn, 1)

def TollFreeMapping.entryOf : Text → Option (UInt64 × UInt64) :=
  dataEntry (fun line => !startsWithDigit line) 0 id fun _ _ => 1

def YoumailMapping.entryOf : Text → Option (UInt64 × YoumailData) :=
  dataEntry (fun line => !startsWith '+' line) 0 YoumailMapping.erasePlusOne fun row pn =>
    ⟨pn, column row 1, column row 2, column row 3, column row 4⟩

def GeoMapping.entryOf : Text → Option (UInt64 × GeoData) :=
  dataEntry (fun _ => false) 0 id fun row npanxx =>
    ⟨npanxx, column row 1, column row 10, column row 6, column row 9, column row 11, column row 19⟩

def FtcMapping.entryOf : Text → Option (UInt64 × FtcData) :=
  dataEntry (fun line => !startsWithDigit line) 1 id fun row pn =>
    ⟨pn, column row 3, column row 2, column row 5⟩

def FailureMapping.entryOf : Text → Option (UInt64 × FailureData) :=
  dataEntry (fun line => !startsWithDigit line) 0 FailureMapping.dropFirst fun row pn =>
    ⟨pn, column row 2, column row 1⟩

/-- The values of a dictionary.  DNO, LERG and the access list are not seen this way. -/
abbrev Value : Table → Type
  | .us | .ca | .dnc | .tollFree => UInt64
  | .youmail => YoumailData
  | .geo => GeoData
  | .ftc => FtcData
  | .f404 | .f606 => FailureData
  | .dno | .lerg | .acl => Empty

/-- The entries of a dictionary, in the order they came in. -/
def entriesOf : (t : Table) → Dataset t → List (UInt64 × Value t)
  | .us, d | .ca, d | .dnc, d | .tollFree, d => (d : MappingData UInt64).dict.entries
  | .youmail, d => (d : YoumailMapping.Data).dict.entries
  | .geo, d => (d : GeoMapping.Data).dict.entries
  | .ftc, d => (d : FtcMapping.Data).dict.entries
  | .f404, d | .f606, d => (d : FailureMapping.Data).dict.entries
  | .dno, _ | .lerg, _ | .acl, _ => []

def entryOf : (t : Table) → Text → Option (UInt64 × Value t)
  | .us, line | .ca, line => PhoneMapping.rowOf line
  | .dnc, line => DncMapping.entryOf line
  | .tollFree, line => TollFreeMapping.entryOf line
  | .youmail, line => YoumailMapping.entryOf line
  | .geo, line => GeoMapping.entryOf line
  | .ftc, line => FtcMapping.entryOf line
  | .f404, line | .f606, line => FailureMapping.entryOf line
  | .dno, _ | .lerg, _ | .acl, _ => none

/-- The entries of a file. -/
def fileEntries (t : Table) (content : Text) : List (UInt64 × Value t) :=
  (pieces '\n' content).filterMap (entryOf t)

/-! ## 2. What one line does -/

/-- A line that is accepted adds its entry to the dictionary, if it has one. -/
def Enters {V : Type} (fromCSVLine : MappingData V → Text → Except Stop (MappingData V))
    (entry : Text → Option (UInt64 × V)) : Prop :=
  ∀ d d' line, fromCSVLine d line = .ok d' →
    d'.dict.entries = d.dict.entries ++ (entry line).toList

section Line

variable {V : Type} {table : String} {d d' : MappingData V}

/-- An accepted row is the last entry. -/
theorem entries_of_addRow {pn ix : UInt64} {value : Except Stop V}
    (h : d.addRow table pn value ix = .ok d') :
    ∃ v, value = .ok v ∧ d'.dict.entries = d.dict.entries ++ [(pn, v)] := by
  obtain ⟨hnew, -, v, hv, rfl⟩ := MappingData.addRow_eq_ok.mp h
  exact ⟨v, hv, KeyMap.entries_emplace v hnew⟩

/-- A line of a `csvRow` loader whose rows are records, whatever goes to the index. -/
theorem enters_csvRow {skip : Text → Bool} {admits : Text → List Text → Bool} {i : ℕ}
    {edit : Text → Text} {value : List Text → UInt64 → Except Stop V}
    {record : List Text → UInt64 → V} (ix : UInt64 → UInt64)
    (hrecord : ∀ line pn v, admits line (splitLine line) = true →
      value (splitLine line) pn = .ok v → v = record (splitLine line) pn) :
    Enters (csvRow skip admits fun (d : MappingData V) parts => do
      let pn ← columnKey parts i edit
      d.addRow table pn (value parts pn) (ix pn)) (dataEntry skip i edit record) := by
  intro d d' line h
  rcases csvRow_eq_ok_iff.mp h with ⟨hskip, rfl⟩ | ⟨hskip, hadm, hadd⟩
  · rw [dataEntry, if_pos hskip]
    exact (List.append_nil _).symm
  · obtain ⟨pn, hkey, hadd⟩ := bind_eq_ok.mp hadd
    obtain ⟨s, hs, hkey⟩ := bind_eq_ok.mp hkey
    obtain ⟨n, hn, rfl⟩ := map_eq_ok.mp hkey
    obtain ⟨v, hv, hentries⟩ := entries_of_addRow hadd
    rw [hentries, dataEntry, hskip, if_neg Bool.false_ne_true, hrecord line _ v hadm hv,
      LergMapping.stoll_eq_ok hn, LergMapping.subscript_eq_ok hs]
    rfl

end Line

theorem DncMapping.enters : Enters DncMapping.fromCSVLine DncMapping.entryOf := by
  intro d d' line h
  obtain ⟨pn, hpn, hadd⟩ := bind_eq_ok.mp h
  obtain ⟨v, hv, hentries⟩ := entries_of_addRow hadd
  cases hv
  rw [hentries, DncMapping.entryOf, hpn]
  rfl

theorem TollFreeMapping.enters : Enters TollFreeMapping.fromCSVLine TollFreeMapping.entryOf := by
  refine @enters_csvRow UInt64 "TollFreeMapping" _ _ 0 id (fun _ _ => .ok 1) _ (fun _ => 1) ?_
  rintro line pn v - hv
  cases hv
  rfl

theorem YoumailMapping.enters : Enters YoumailMapping.fromCSVLine YoumailMapping.entryOf := by
  refine enters_csvRow id ?_
  intro line pn v hadm hv
  obtain ⟨s1, h1, hv⟩ := bind_eq_ok.mp hv
  obtain ⟨s2, h2, hv⟩ := bind_eq_ok.mp hv
  obtain ⟨s3, h3, hv⟩ := bind_eq_ok.mp hv
  obtain ⟨s4, h4, hv⟩ := bind_eq_ok.mp hv
  have hlast : s4 = column (splitLine line) 4 := by
    unfold YoumailMapping.lastColumn at h4
    split at h4
    · rename_i hlen
      cases h4
      rw [column, List.getElem?_eq_none (Nat.le_of_eq hlen)]
      rfl
    · exact LergMapping.subscript_eq_ok h4
  cases hv
  rw [LergMapping.subscript_eq_ok h1, LergMapping.subscript_eq_ok h2,
    LergMapping.subscript_eq_ok h3, hlast]

theorem GeoMapping.enters : Enters GeoMapping.fromCSVLine GeoMapping.entryOf := by
  refine enters_csvRow id ?_
  intro line pn v hadm hv
  obtain ⟨s1, h1, hv⟩ := bind_eq_ok.mp hv
  obtain ⟨s2, h2, hv⟩ := bind_eq_ok.mp hv
  obtain ⟨s3, h3, hv⟩ := bind_eq_ok.mp hv
  obtain ⟨s4, h4, hv⟩ := bind_eq_ok.mp hv
  obtain ⟨s5, h5, hv⟩ := bind_eq_ok.mp hv
  obtain ⟨s6, h6, hv⟩ := bind_eq_ok.mp hv
  cases hv
  rw [LergMapping.subscript_eq_ok h1, LergMapping.subscript_eq_ok h2,
    LergMapping.subscript_eq_ok h3, LergMapping.subscript_eq_ok h4,
    LergMapping.subscript_eq_ok h5, LergMapping.subscript_eq_ok h6]

theorem FtcMapping.enters : Enters FtcMapping.fromCSVLine FtcMapping.entryOf := by
  refine enters_csvRow id ?_
  intro line pn v hadm hv
  obtain ⟨s1, h1, hv⟩ := bind_eq_ok.mp hv
  obtain ⟨s2, h2, hv⟩ := bind_eq_ok.mp hv
  obtain ⟨s3, h3, hv⟩ := bind_eq_ok.mp hv
  cases hv
  rw [LergMapping.subscript_eq_ok h1, LergMapping.subscript_eq_ok h2,
    LergMapping.subscript_eq_ok h3]

theorem FailureMapping.enters (table : String) :
    Enters (FailureMapping.fromCSVLine table) FailureMapping.entryOf := by
  refine enters_csvRow id ?_
  intro line pn v hadm hv
  obtain ⟨s1, h1, hv⟩ := bind_eq_ok.mp hv
  obtain ⟨s2, h2, hv⟩ := bind_eq_ok.mp hv
  cases hv
  rw [LergMapping.subscript_eq_ok h1, LergMapping.subscript_eq_ok h2]

theorem PhoneMapping.enters : Enters PhoneMapping.fromCSVLine PhoneMapping.rowOf := by
  intro d d' line h
  cases hrow : PhoneMapping.rowOf line with
  | none =>
    obtain ⟨e, he, -⟩ := @PhoneMapping.fromCSVLine_of_no_row d line hrow
    rw [he] at h
    cases h
  | some r =>
    rw [PhoneMapping.fromCSVLine_of_row hrow] at h
    obtain ⟨v, hv, hentries⟩ := entries_of_addRow h
    cases hv
    exact hentries

/-! ## 3. What a file does -/

section File

variable {V : Type} {fromCSVLine : MappingData V → Text → Except Stop (MappingData V)}
  {entry : Text → Option (UInt64 × V)}

/-- The run over the lines. -/
theorem Enters.foldlM (h : Enters fromCSVLine entry) {lines : List Text} {d d' : MappingData V}
    (hfold : lines.foldlM fromCSVLine d = .ok d') :
    d'.dict.entries = d.dict.entries ++ lines.filterMap entry := by
  induction lines generalizing d with
  | nil =>
    cases hfold
    exact (List.append_nil _).symm
  | cons line lines ih =>
    rw [List.foldlM_cons] at hfold
    obtain ⟨d₁, hline, hrest⟩ := bind_eq_ok.mp hfold
    rw [ih hrest, h _ _ _ hline, List.append_assoc, List.filterMap_cons]
    cases entry line <;> rfl

/-- A loader over columns: its dictionary after a load. -/
theorem Enters.foldLines (h : Enters fromCSVLine entry) {metadata : Dynamic} {content : Text}
    {d : MappingData V} (hfold : (columnLoader fromCSVLine).foldLines metadata content = .ok d) :
    ((columnLoader fromCSVLine).build d).dict.entries = (pieces '\n' content).filterMap entry :=
  h.foldlM hfold

end File

/-- **The dictionary of a reload** has the entries of the lines of its file. -/
theorem Reload.entries_foldLines (r : Reload) {metadata : Dynamic} {content : Text}
    {d : Dataset r.table} (h : r.loader.foldLines metadata content = .ok d) :
    entriesOf r.table (r.loader.build d) = fileEntries r.table content := by
  cases r with
  | dnc => exact DncMapping.enters.foldLines h
  | tollFree => exact TollFreeMapping.enters.foldLines h
  | youmail => exact YoumailMapping.enters.foldLines h
  | geo => exact GeoMapping.enters.foldLines h
  | ftc => exact FtcMapping.enters.foldLines h
  | f404 => exact (FailureMapping.enters "F404Mapping").foldLines h
  | f606 => exact (FailureMapping.enters "F606Mapping").foldLines h
  | dno dnotype => exact (List.filterMap_none _).symm
  | lerg => exact (List.filterMap_none _).symm

end CallFwd
