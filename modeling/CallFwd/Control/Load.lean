/-
# Loading a file into a global table

`Control.cpp` has eleven copies of one function: decode the metadata, open the file, reserve,
read the lines in chunks of 10000 into a private builder, and, if no `runtime_error` was thrown,
commit what was built to a global.  `Loader` is what the copies differ in; `readTable` is the
`try` block with its handler, and each copy appears under its own name.

Two things stand OUTSIDE the `try`: the reads of the metadata.  Two things inside it throw what
the handler does not catch: `sizeHint`, and a line that escapes (`Tables/`).
`readTable_eq` is the spec lemma of the block: with a file that opens and a hint that can be
reserved, it is a fold over the LINES of the file, followed by the test that the file ends
cleanly.
-/
import CallFwd.Tables.Numbers
import CallFwd.Tables.Records
import CallFwd.Tables.Acl

namespace CallFwd

open Lib

/-! ## 1. The globals -/

/-- The atomic pointers of `Control.cpp`. -/
inductive Table
  | us
  | ca
  | dnc
  | dno
  | tollFree
  | lerg
  | youmail
  | geo
  | ftc
  | f404
  | f606
  | acl
deriving DecidableEq, Repr

/-- What a pointer points to. -/
abbrev Dataset : Table → Type
  | .us | .ca => PhoneMapping.Data
  | .dnc => DncMapping.Data
  | .dno => DnoMapping.Data
  | .tollFree => TollFreeMapping.Data
  | .lerg => LergMapping.Data
  | .youmail => YoumailMapping.Data
  | .geo => GeoMapping.Data
  | .ftc => FtcMapping.Data
  | .f404 | .f606 => FailureMapping.Data
  | .acl => ACL.Data

/-- The values of all pointers; `none` is null. -/
abbrev Globals := (t : Table) → Option (Dataset t)

namespace Globals

/-- All pointers null, as the daemon starts. -/
def initial : Globals := fun _ => none

/-- `global.exchange(data.release())`. -/
def commit (g : Globals) (t : Table) (d : Dataset t) : Globals := Function.update g t (some d)

@[simp] theorem commit_self (g : Globals) (t : Table) (d : Dataset t) :
    g.commit t d t = some d := by
  rw [commit, Function.update_self]

theorem commit_of_ne (g : Globals) {t u : Table} (d : Dataset t) (h : u ≠ t) :
    g.commit t d u = g u := by
  rw [commit, Function.update_of_ne h]

end Globals

/-- What the code takes from the machine it runs on: the prefetch flag, how many rows there is
memory to reserve for, how folly prints a double, and the parsers the ACL uses. -/
structure Host where
  prefetch : ℕ+
  reserveLimit : ℕ
  showDouble : Option ℚ → Text
  acl : ACL.Parsers

/-- A machine with memory for a thousand rows, to run examples on. -/
def Host.plain : Host where
  prefetch := 16
  reserveLimit := 1000
  showDouble _ := []
  acl := ⟨fun _ => none, fun _ => none, fun _ => none⟩

/-- What opening a path for reading gives: the contents, or nothing when it cannot be opened. -/
abbrev Files := Text → Option Text

/-! ## 2. The shared function -/

/-- `std::vector<PhoneList>::reserve(n)`; `max_size()` is `2^60 - 1`. -/
def reserveColumn (host : Host) (n : ℕ) : Except Stop Unit :=
  if n ≤ host.reserveLimit then .ok ()
  else .error (.exn (if 2 ^ 60 ≤ n then .lengthError else .badAlloc))

/-- `folly::F14ValueMap::reserve(n)`. -/
def reserveDict (host : Host) (n : ℕ) : Except Stop Unit :=
  if n ≤ host.reserveLimit then .ok () else .error (.exn .badAlloc)

/-- `Builder::sizeHint(numRecords)` of the tables with columns. -/
def sizeHint (host : Host) (numRecords : ℕ) : Except Stop Unit := do
  reserveColumn host numRecords
  reserveColumn host numRecords
  reserveDict host numRecords

theorem reserveColumn_of_le {host : Host} {n : ℕ} (h : n ≤ host.reserveLimit) :
    reserveColumn host n = .ok () := if_pos h

theorem reserveDict_of_le {host : Host} {n : ℕ} (h : n ≤ host.reserveLimit) :
    reserveDict host n = .ok () := if_pos h

theorem reserveColumn_escapes {host : Host} {n : ℕ} (h : host.reserveLimit < n) :
    Escapes (reserveColumn host n) := by
  rw [reserveColumn, if_neg (Nat.not_le.mpr h)]
  refine ⟨_, rfl, ?_⟩
  split <;> rfl

theorem reserveDict_escapes {host : Host} {n : ℕ} (h : host.reserveLimit < n) :
    Escapes (reserveDict host n) := by
  rw [reserveDict, if_neg (Nat.not_le.mpr h)]
  exact ⟨_, rfl, rfl⟩

theorem sizeHint_of_le {host : Host} {n : ℕ} (h : n ≤ host.reserveLimit) :
    sizeHint host n = .ok () := by
  rw [sizeHint, reserveColumn_of_le h, reserveDict_of_le h]
  rfl

theorem sizeHint_escapes {host : Host} {n : ℕ} (h : host.reserveLimit < n) :
    Escapes (sizeHint host n) :=
  escapes_bind_iff.mpr (Or.inl (reserveColumn_escapes h))

/-- What the copies of the function differ in: the builder.  Whatever it reserves, the hint is
honoured up to the limit of the host and escapes above it. -/
structure Loader (D : Type) where
  empty : D
  setMetadata : D → Dynamic → D
  sizeHint : Host → ℕ → Except Stop Unit
  fromCSVLine : D → Text → Except Stop D
  build : D → D
  reserves : ∀ {host : Host} {n : ℕ}, n ≤ host.reserveLimit → sizeHint host n = .ok ()
  exhausts : ∀ {host : Host} {n : ℕ}, host.reserveLimit < n → Escapes (sizeHint host n)

/-- `estimate + estimate / 20`, converted to `size_t`. -/
def numRecords (estimate : Int64) : Except Stop ℕ :=
  let n := estimate.toInt + estimate.toInt.tdiv 20
  if fitsLongLong n then .ok (UInt64.ofInt n).toNat else .error (.undefined .signedOverflow)

/-- `in.open(path)`, with exceptions on. -/
def openFile (files : Files) (path : Text) : Except Stop IStream :=
  match files path with
  | some content => .ok (IStream.ofText content)
  | none => .error (.exn .iosFailure)

/-- `try { .. } catch (std::runtime_error &e) { return false; }`: `none` is the handler. -/
def catchRuntimeError {α : Type} : Except Stop α → Except Stop (Option α)
  | .ok a => .ok (some a)
  | .error e => if e.isRuntimeError then .ok none else .error e

/-- `int64_t estimate = meta.getDefault("row_estimate", 0).asInt();` and
`const std::string &name = meta.getDefault("file_name", path).asString();` -/
def rowEstimate (host : Host) (path : Text) (metadata : Dynamic) : Except Stop Int64 := do
  let estimate ← (← metadata.getDefault "row_estimate" (.int 0)).asInt
  let _name ← (← metadata.getDefault "file_name" (.string path)).asString host.showDouble
  return estimate

/-- `meta.getDefault("country", "US").asString() == "CA"`. -/
def isCanada (host : Host) (metadata : Dynamic) : Except Stop Bool := do
  let country ← (← metadata.getDefault "country" (.string (Dynamic.text "US"))).asString
    host.showDouble
  return country == Dynamic.text "CA"

/-- How many lines `fromCSV` reads at a time. -/
def CHUNK : ℕ := 10000

theorem CHUNK_pos : 0 < CHUNK := by decide

/-- `while (in.good()) builder.fromCSV(in, nrows, 10000);` -/
def Loader.readFile {D : Type} (L : Loader D) (metadata : Dynamic) (in_ : IStream) :
    Except Stop D :=
  readAll (.exn .iosFailure) L.fromCSVLine CHUNK CHUNK_pos in_ (L.setMetadata L.empty metadata)

/-- The `try` block and its handler. -/
def Loader.readTable {D : Type} (L : Loader D) (host : Host) (files : Files) (path : Text)
    (metadata : Dynamic) (estimate : Int64) : Except Stop (Option D) :=
  catchRuntimeError do
    let in_ ← openFile files path
    let n ← numRecords estimate
    L.sizeHint host n
    L.readFile metadata in_

/-- `builder.commit(global)` behind the `try` block, or the handler's `return false`. -/
def Loader.finish {t : Table} (L : Loader (Dataset t)) (g : Globals) :
    Option (Dataset t) → Bool × Globals
  | some d => (true, g.commit t (L.build d))
  | none => (false, g)

/-- The function of a table with a global of its own. -/
def Loader.loadFile {t : Table} (L : Loader (Dataset t)) (host : Host) (files : Files)
    (path : Text) (metadata : Dynamic) (g : Globals) : Except Stop (Bool × Globals) := do
  let estimate ← rowEstimate host path metadata
  L.finish g <$> L.readTable host files path metadata estimate

/-! ## 3. The copies -/

/-- A loader whose builder has the containers of `PhoneMapping`. -/
def columnLoader {V : Type} (fromCSVLine : MappingData V → Text → Except Stop (MappingData V)) :
    Loader (MappingData V) where
  empty := .empty
  setMetadata := .setMetadata
  sizeHint := sizeHint
  fromCSVLine := fromCSVLine
  build := .build
  reserves := sizeHint_of_le
  exhausts := sizeHint_escapes

namespace PhoneMapping

def loader : Loader Data := columnLoader fromCSVLine

end PhoneMapping

def DncMapping.loader : Loader (Dataset .dnc) := columnLoader DncMapping.fromCSVLine

def TollFreeMapping.loader : Loader (Dataset .tollFree) := columnLoader TollFreeMapping.fromCSVLine

/-- DNO reserves for its first dictionary only, and its `build()` is empty. -/
def DnoMapping.loader (dnotype : DnoType) : Loader (Dataset .dno) where
  empty := .empty
  setMetadata := .setMetadata
  sizeHint := reserveDict
  fromCSVLine := DnoMapping.fromCSVLine dnotype
  build := id
  reserves := reserveDict_of_le
  exhausts := reserveDict_escapes

/-- LERG reserves for two dictionaries. -/
def LergMapping.loader : Loader (Dataset .lerg) where
  empty := .empty
  setMetadata := .setMetadata
  sizeHint host n := do
    sizeHint host n
    reserveDict host n
  fromCSVLine := LergMapping.fromCSVLine
  build := .build
  reserves h := by
    rw [sizeHint_of_le h, reserveDict_of_le h]
    rfl
  exhausts h := escapes_bind_iff.mpr (Or.inl (sizeHint_escapes h))

def YoumailMapping.loader : Loader (Dataset .youmail) := columnLoader YoumailMapping.fromCSVLine

def GeoMapping.loader : Loader (Dataset .geo) := columnLoader GeoMapping.fromCSVLine

def FtcMapping.loader : Loader (Dataset .ftc) := columnLoader FtcMapping.fromCSVLine

def F404Mapping.loader : Loader (Dataset .f404) := columnLoader F404Mapping.fromCSVLine

def F606Mapping.loader : Loader (Dataset .f606) := columnLoader F606Mapping.fromCSVLine

section Copies

variable (host : Host) (files : Files) (path : Text) (metadata : Dynamic) (g : Globals)

/-- The only copy that reads `country`, and commits to one of two globals. -/
def loadMappingFile : Except Stop (Bool × Globals) := do
  let estimate ← rowEstimate host path metadata
  let canada ← isCanada host metadata
  let data ← PhoneMapping.loader.readTable host files path metadata estimate
  return if canada then Loader.finish (t := .ca) PhoneMapping.loader g data
    else Loader.finish (t := .us) PhoneMapping.loader g data

def loadDNCMappingFile : Except Stop (Bool × Globals) :=
  DncMapping.loader.loadFile host files path metadata g

def loadDnoMappingFile (dnotype : DnoMapping.DnoType) : Except Stop (Bool × Globals) :=
  (DnoMapping.loader dnotype).loadFile host files path metadata g

def loadTollFreeMappingFile : Except Stop (Bool × Globals) :=
  TollFreeMapping.loader.loadFile host files path metadata g

def loadLergMappingFile : Except Stop (Bool × Globals) :=
  LergMapping.loader.loadFile host files path metadata g

def loadYoumailMappingFile : Except Stop (Bool × Globals) :=
  YoumailMapping.loader.loadFile host files path metadata g

def loadGeoMappingFile : Except Stop (Bool × Globals) :=
  GeoMapping.loader.loadFile host files path metadata g

def loadFtcMappingFile : Except Stop (Bool × Globals) :=
  FtcMapping.loader.loadFile host files path metadata g

def load404MappingFile : Except Stop (Bool × Globals) :=
  F404Mapping.loader.loadFile host files path metadata g

def load606MappingFile : Except Stop (Bool × Globals) :=
  F606Mapping.loader.loadFile host files path metadata g

/-- `loadACLFile`: no metadata, and a handler for every `std::exception`. -/
def loadACLFile : Except Stop (Bool × Globals) :=
  match openFile files path >>= ACL.fromCSV host.acl with
  | .ok data => .ok (true, g.commit .acl data)
  | .error (.exn _) => .ok (false, g)
  | .error (.undefined f) => .error (.undefined f)

end Copies

/-! ## 4. What the block computes -/

theorem catchRuntimeError_escapes_iff {α : Type} {x : Except Stop α} :
    Escapes (catchRuntimeError x) ↔ Escapes x := by
  cases x with
  | ok a => exact iff_of_false (not_escapes_ok _) (not_escapes_ok _)
  | error e =>
    rw [catchRuntimeError]
    by_cases hr : e.isRuntimeError = true
    · rw [if_pos hr]
      refine iff_of_false (not_escapes_ok _) ?_
      rintro ⟨e', h, hr'⟩
      cases h
      rw [hr] at hr'
      cases hr'
    · rw [if_neg hr]
      exact iff_of_true ⟨e, rfl, by simpa using hr⟩ ⟨e, rfl, by simpa using hr⟩

theorem catchRuntimeError_eq_some_iff {α : Type} {x : Except Stop α} {a : α} :
    catchRuntimeError x = .ok (some a) ↔ x = .ok a := by
  cases x with
  | ok b =>
    constructor
    · intro h
      cases h
      rfl
    · intro h
      cases h
      rfl
  | error e =>
    rw [catchRuntimeError]
    constructor
    · intro h
      split at h
      · cases h
      · cases h
    · intro h
      cases h

/-- A block that does not escape leaves a result. -/
theorem catchRuntimeError_isOk {α : Type} {x : Except Stop α} (h : ¬ Escapes x) :
    ∃ o, catchRuntimeError x = .ok o := by
  cases x with
  | ok a => exact ⟨some a, rfl⟩
  | error e =>
    have hr : e.isRuntimeError = true := by
      by_contra hr
      exact h ⟨e, rfl, by simpa using hr⟩
    exact ⟨none, by rw [catchRuntimeError, if_pos hr]⟩

/-- A fold escapes at the first line it does not accept. -/
theorem foldlM_escapes_iff {D : Type} {row : D → Text → Except Stop D} {lines : List Text} {d : D} :
    Escapes (lines.foldlM row d) ↔
      ∃ pre line post d', lines = pre ++ line :: post ∧ pre.foldlM row d = .ok d' ∧
        Escapes (row d' line) := by
  induction lines generalizing d with
  | nil =>
    refine iff_of_false (not_escapes_ok d) ?_
    rintro ⟨pre, line, post, d', h, -⟩
    simp at h
  | cons line lines ih =>
    rw [List.foldlM_cons, escapes_bind_iff]
    constructor
    · rintro (h | ⟨d₁, h1, h2⟩)
      · exact ⟨[], line, lines, d, rfl, rfl, h⟩
      · obtain ⟨pre, l, post, d', rfl, hpre, hl⟩ := ih.mp h2
        refine ⟨line :: pre, l, post, d', rfl, ?_, hl⟩
        rw [List.foldlM_cons, h1]
        exact hpre
    · rintro ⟨pre, l, post, d', hcut, hpre, hl⟩
      cases pre with
      | nil =>
        obtain ⟨rfl, -⟩ := List.cons.inj hcut
        cases hpre
        exact Or.inl hl
      | cons p pre =>
        obtain ⟨rfl, rfl⟩ := List.cons.inj hcut
        rw [List.foldlM_cons, bind_eq_ok] at hpre
        obtain ⟨d₁, h1, h2⟩ := hpre
        exact Or.inr ⟨d₁, h1, ih.mpr ⟨pre, l, post, d', rfl, h2, hl⟩⟩

/-- The hint the metadata asks for can be honoured. -/
def HintOk (host : Host) (estimate : Int64) : Prop :=
  ∃ n, numRecords estimate = .ok n ∧ n ≤ host.reserveLimit

section Block

variable {D : Type} {L : Loader D} {host : Host} {files : Files} {path content : Text}
  {metadata : Dynamic} {estimate : Int64}

/-- The builder after the lines of a file. -/
def Loader.foldLines (L : Loader D) (metadata : Dynamic) (content : Text) : Except Stop D :=
  (pieces '\n' content).foldlM L.fromCSVLine (L.setMetadata L.empty metadata)

/-- The file read in chunks is the fold over its lines, and then the end of the file. -/
theorem Loader.readFile_eq (L : Loader D) (metadata : Dynamic) (content : Text) :
    L.readFile metadata (IStream.ofText content) =
      L.foldLines metadata content >>= fun d =>
        if endsCleanly CHUNK content then .ok d else .error (.exn .iosFailure) :=
  readAll_ofText CHUNK CHUNK_pos content _

/-- **The `try` block**, for a file that opens and a hint that can be honoured. -/
theorem Loader.readTable_eq (hfile : files path = some content) (hhint : HintOk host estimate) :
    L.readTable host files path metadata estimate =
      catchRuntimeError (L.foldLines metadata content >>= fun d =>
        if endsCleanly CHUNK content then .ok d else .error (.exn .iosFailure)) := by
  obtain ⟨n, hn, hle⟩ := hhint
  rw [Loader.readTable, openFile, hfile, hn]
  change catchRuntimeError (L.sizeHint host n >>= fun _ =>
    L.readFile metadata (IStream.ofText content)) = _
  rw [L.reserves hle, ← Loader.readFile_eq]
  rfl

/-- A file that does not open is reported. -/
theorem Loader.readTable_of_closed (hfile : files path = none) :
    L.readTable host files path metadata estimate = .ok none := by
  rw [Loader.readTable, openFile, hfile]
  rfl

/-- A hint that cannot be honoured is not: nothing catches what `sizeHint` throws. -/
theorem Loader.readTable_escapes_of_hint (hfile : files path = some content)
    (hhint : ¬ HintOk host estimate) :
    Escapes (L.readTable host files path metadata estimate) := by
  rw [Loader.readTable, catchRuntimeError_escapes_iff, openFile, hfile]
  change Escapes (numRecords estimate >>= _)
  rw [escapes_bind_iff]
  cases hn : numRecords estimate with
  | error e =>
    refine Or.inl ⟨e, rfl, ?_⟩
    unfold numRecords at hn
    simp only at hn
    split at hn
    · cases hn
    · cases hn; rfl
  | ok n =>
    refine Or.inr ⟨n, rfl, escapes_bind_iff.mpr (Or.inl (L.exhausts ?_))⟩
    by_contra hle
    exact hhint ⟨n, hn, Nat.le_of_not_lt hle⟩

/-- **What escapes a load**: a hint that cannot be honoured, or a line that escapes behind lines
that were all accepted. -/
theorem Loader.readTable_escapes_iff (hfile : files path = some content) :
    Escapes (L.readTable host files path metadata estimate) ↔
      ¬ HintOk host estimate ∨ Escapes (L.foldLines metadata content) := by
  by_cases hhint : HintOk host estimate
  · rw [Loader.readTable_eq hfile hhint, catchRuntimeError_escapes_iff, escapes_bind_iff,
      or_iff_right (not_not.mpr hhint)]
    refine or_iff_left ?_
    rintro ⟨d, -, h⟩
    split at h
    · exact not_escapes_ok _ h
    · obtain ⟨e, he, hr⟩ := h
      cases he
      cases hr
  · exact iff_of_true (Loader.readTable_escapes_of_hint hfile hhint) (Or.inl hhint)

/-- A load that does not escape leaves a result. -/
theorem Loader.readTable_isOk
    (h : ¬ Escapes (L.readTable host files path metadata estimate)) :
    ∃ o, L.readTable host files path metadata estimate = .ok o :=
  catchRuntimeError_isOk fun hesc => h (catchRuntimeError_escapes_iff.mpr hesc)

/-- What a load commits: the lines of a file that ends cleanly. -/
theorem Loader.readTable_eq_some_iff (hfile : files path = some content) {d : D} :
    L.readTable host files path metadata estimate = .ok (some d) ↔
      HintOk host estimate ∧ L.foldLines metadata content = .ok d ∧
        endsCleanly CHUNK content = true := by
  by_cases hhint : HintOk host estimate
  · rw [Loader.readTable_eq hfile hhint, catchRuntimeError_eq_some_iff, bind_eq_ok,
      and_iff_right hhint]
    constructor
    · rintro ⟨d', hfold, h⟩
      split at h
      · rename_i hend
        cases h
        exact ⟨hfold, hend⟩
      · cases h
    · rintro ⟨hfold, hend⟩
      exact ⟨d, hfold, if_pos hend⟩
  · refine iff_of_false ?_ fun h => hhint h.1
    intro h
    obtain ⟨e, he, -⟩ := @Loader.readTable_escapes_of_hint _ L _ _ _ _ metadata _ hfile hhint
    rw [he] at h
    cases h

end Block

/-! ## 5. The function of a table -/

section File

variable {t : Table} {L : Loader (Dataset t)} {host : Host} {files : Files} {path content : Text}
  {metadata : Dynamic} {g g' : Globals} {estimate : Int64}

/-- What a successful load commits. -/
theorem Loader.loadFile_eq_true (hfile : files path = some content)
    (h : L.loadFile host files path metadata g = .ok (true, g')) :
    ∃ d, L.foldLines metadata content = .ok d ∧ g' = g.commit t (L.build d) := by
  rw [Loader.loadFile, bind_eq_ok] at h
  obtain ⟨estimate, -, h⟩ := h
  cases hread : L.readTable host files path metadata estimate with
  | error e =>
    rw [hread] at h
    cases h
  | ok o =>
    rw [hread] at h
    cases o with
    | none => cases h
    | some d =>
      cases h
      exact ⟨d, ((Loader.readTable_eq_some_iff hfile).mp hread).2.1, rfl⟩

/-- A file whose lines are accepted is committed. -/
theorem Loader.loadFile_of_fold {d : Dataset t} (hfile : files path = some content)
    (hest : rowEstimate host path metadata = .ok estimate) (hhint : HintOk host estimate)
    (hfold : L.foldLines metadata content = .ok d) (hend : endsCleanly CHUNK content = true) :
    L.loadFile host files path metadata g = .ok (true, g.commit t (L.build d)) := by
  have hread := (Loader.readTable_eq_some_iff hfile).mpr ⟨hhint, hfold, hend⟩
  rw [Loader.loadFile, hest]
  change (L.finish g <$> L.readTable host files path metadata estimate) = _
  rw [hread]
  rfl

end File

end CallFwd
