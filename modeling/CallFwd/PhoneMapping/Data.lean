/-
# The dataset behind a mapping, and its builder

`PhoneMapping.cpp` keeps each row three times: the dictionary `dict` holds the full 64-bit pair,
`pnColumn` and the index hold a `PhoneList`, whose fields are 34 and 30 bits wide.  `build()`
sorts the index, threads the rows through the `next` fields of `pnColumn` in that order, and
then drops all but the first index entry of each phone.  Eight other tables of the daemon carry
the same three containers, the same builder checks and the same `build()` over other value
types, so `MappingData` is generic in the value.

`Holds ix d rows` says what a builder is after it accepted `rows`; `Holds.addRows` is its run
lemma, and `foldlM_fromCSVLine_eq_ok` carries it to the lines of a file.  A row is `(pn, value)`.
-/
import CallFwd.Dynamic
import CallFwd.Lib.KeyMap
import CallFwd.Lib.Blocks
import Mathlib.Data.List.Sort
import Mathlib.Data.List.Destutter

namespace CallFwd

open Lib

/-! ## 1. The containers -/

/-- `struct PhoneList { uint64_t phone : 34, next : 30; }`. -/
structure PhoneList where
  phone : BitVec 34
  next : BitVec 30
deriving DecidableEq, Repr

/-- `(1 << 30) - 1`: the row limit, and the `next` of a row that has none. -/
def MAXROWS : Nat := 2 ^ 30 - 1

namespace PhoneList

/-- `PhoneList{phone, next}`: the bit-fields keep the low bits. -/
def pack (phone : UInt64) (next : Nat) : PhoneList :=
  ⟨BitVec.ofNat 34 phone.toNat, BitVec.ofNat 30 next⟩

/-- `.phone` read back as a `uint64_t`. -/
def phoneValue (e : PhoneList) : UInt64 := UInt64.ofNat e.phone.toNat

/-- The comparison of `build()`: by phone, then by position. -/
def cmp (lhs rhs : PhoneList) : Bool :=
  if lhs.phone = rhs.phone then decide (lhs.next < rhs.next) else decide (lhs.phone < rhs.phone)

end PhoneList

/-- `class Data`: the metadata, the dictionary, the column of numbers and the index. -/
structure MappingData (V : Type) where
  metadata : Dynamic
  dict : KeyMap UInt64 V
  pnColumn : List PhoneList
  index : List PhoneList

namespace MappingData

variable {V : Type}

/-- A fresh `Builder`. -/
def empty : MappingData V := ⟨.null, KeyMap.empty, [], []⟩

/-- `setMetadata(meta)`. -/
def setMetadata (d : MappingData V) (metadata : Dynamic) : MappingData V :=
  { d with metadata := metadata }

/-- The two checks every `addRow` makes; `table` is the class named in the message. -/
def checkRow (table : String) (d : MappingData V) (pn : UInt64) : Except Stop Unit :=
  if d.dict.count pn then throwRuntimeError (table ++ "::Builder: duplicate key")
  else if MAXROWS ≤ d.pnColumn.length then throwRuntimeError (table ++ "::Builder: too much rows")
  else .ok ()

/-- The three insertions every `addRow` ends with; `ix` goes to the index. -/
def push (d : MappingData V) (pn : UInt64) (value : V) (ix : UInt64) : MappingData V :=
  { d with
    dict := d.dict.emplace pn value
    pnColumn := d.pnColumn ++ [PhoneList.pack pn MAXROWS]
    index := d.index ++ [PhoneList.pack ix MAXROWS] }

/-- An `addRow`: the checks, then the columns that make up `value`, then the insertions. -/
def addRow (table : String) (d : MappingData V) (pn : UInt64) (value : Except Stop V)
    (ix : UInt64) : Except Stop (MappingData V) := do
  d.checkRow table pn
  let v ← value
  return d.push pn v ix

/-! ## 2. `build()` -/

/-- `for (i < N) rnIndex[i].next = i`; `N` is the length of `pnColumn`, and the builder keeps
the two columns of one length. -/
def connect (index : List PhoneList) : List PhoneList :=
  index.mapIdx fun i e => { e with next := BitVec.ofNat 30 i }

/-- `std::stable_sort(.., cmp)`. -/
def sortIndex (index : List PhoneList) : List PhoneList :=
  index.insertionSort fun a b => PhoneList.cmp b a = false

/-- `for (i + 1 < N) pnColumn[rnIndex[i].next].next = rnIndex[i+1].next`. -/
def wireColumn : List PhoneList → List PhoneList → List PhoneList
  | a :: b :: rest, column =>
    wireColumn (b :: rest) (column.modify a.next.toNat fun e => { e with next := b.next })
  | _, column => column

/-- `Data::build()`.  The last step is `std::unique` with `erase`. -/
def build (d : MappingData V) : MappingData V :=
  let sorted := sortIndex (connect d.index)
  { d with
    pnColumn := wireColumn sorted d.pnColumn
    index := sorted.destutter fun a b => a.phone ≠ b.phone }

/-! ## 3. What a builder holds -/

/-- The builder after the rows `rows` were accepted, in this order; `ix` gives what each of
them put into the index. -/
structure Holds (ix : UInt64 × V → UInt64) (d : MappingData V) (rows : List (UInt64 × V)) :
    Prop where
  dict : d.dict.entries = rows
  pnColumn : d.pnColumn = rows.map fun r => PhoneList.pack r.1 MAXROWS
  index : d.index = rows.map fun r => PhoneList.pack (ix r) MAXROWS

variable {ix : UInt64 × V → UInt64} {d : MappingData V} {rows : List (UInt64 × V)}

theorem holds_empty : Holds ix (empty : MappingData V) [] := ⟨rfl, rfl, rfl⟩

theorem Holds.setMetadata (h : Holds ix d rows) (m : Dynamic) : Holds ix (d.setMetadata m) rows :=
  ⟨h.dict, h.pnColumn, h.index⟩

theorem Holds.keys (h : Holds ix d rows) : d.dict.keys = rows.map Prod.fst := by
  rw [KeyMap.keys, h.dict]

theorem Holds.nodup (h : Holds ix d rows) : (rows.map Prod.fst).Nodup :=
  h.keys ▸ d.dict.nodup

theorem Holds.length_pnColumn (h : Holds ix d rows) : d.pnColumn.length = rows.length := by
  rw [h.pnColumn, List.length_map]

/-- A row passes the checks exactly when its key is new and there is room. -/
theorem checkRow_eq_ok {table : String} {pn : UInt64} {u : Unit} :
    checkRow table d pn = .ok u ↔ pn ∉ d.dict.keys ∧ d.pnColumn.length < MAXROWS := by
  unfold checkRow throwRuntimeError
  by_cases hk : pn ∈ d.dict.keys
  · simp [hk]
  · by_cases hl : MAXROWS ≤ d.pnColumn.length
    · simp [hk, hl]
    · simp [hk, hl, Nat.lt_of_not_le hl]

/-- The checks throw nothing but `runtime_error`. -/
theorem checkRow_error {table : String} {pn : UInt64} {e : Stop}
    (h : checkRow table d pn = .error e) : e.isRuntimeError = true := by
  unfold checkRow throwRuntimeError at h
  split at h
  · cases h; rfl
  · split at h
    · cases h; rfl
    · cases h

/-- A row is accepted exactly when it passes the checks and its columns are there. -/
theorem addRow_eq_ok {table : String} {pn ix : UInt64} {value : Except Stop V}
    {d' : MappingData V} :
    addRow table d pn value ix = .ok d' ↔
      pn ∉ d.dict.keys ∧ d.pnColumn.length < MAXROWS ∧
        ∃ v, value = .ok v ∧ d' = d.push pn v ix := by
  unfold addRow
  rw [bind_eq_ok]
  constructor
  · rintro ⟨u, hc, hd⟩
    obtain ⟨h1, h2⟩ := checkRow_eq_ok.mp hc
    obtain ⟨v, hv, hd⟩ := bind_eq_ok.mp hd
    exact ⟨h1, h2, v, hv, by cases hd; rfl⟩
  · rintro ⟨h1, h2, v, rfl, rfl⟩
    exact ⟨(), checkRow_eq_ok.mpr ⟨h1, h2⟩, rfl⟩

/-- What stops an `addRow`: a check, or a column it reads behind the checks. -/
theorem addRow_error {table : String} {pn ix : UInt64} {value : Except Stop V} {e : Stop}
    (h : addRow table d pn value ix = .error e) :
    e.isRuntimeError = true ∨
      (pn ∉ d.dict.keys ∧ d.pnColumn.length < MAXROWS ∧ value = .error e) := by
  unfold addRow at h
  rcases bind_eq_error.mp h with h | ⟨u, hc, h⟩
  · exact Or.inl (checkRow_error h)
  · obtain ⟨h1, h2⟩ := checkRow_eq_ok.mp hc
    rcases bind_eq_error.mp h with h | ⟨v, -, h⟩
    · exact Or.inr ⟨h1, h2, h⟩
    · cases h

/-- The step: accepting a row with a new key. -/
theorem Holds.push (h : Holds ix d rows) {pn : UInt64} {value : V} (hpn : pn ∉ d.dict.keys) :
    Holds ix (d.push pn value (ix (pn, value))) (rows ++ [(pn, value)]) where
  dict := by
    rw [← h.dict]
    exact KeyMap.entries_emplace value hpn
  pnColumn := by
    rw [MappingData.push, h.pnColumn, List.map_append]
    rfl
  index := by
    rw [MappingData.push, h.index, List.map_append]
    rfl

/-- Builders that hold the same rows differ in their metadata only. -/
theorem Holds.eq_setMetadata {d' : MappingData V} (h : Holds ix d rows) (h' : Holds ix d' rows) :
    d' = d.setMetadata d'.metadata := by
  have hdict : d'.dict = d.dict := KeyMap.ext (h'.dict.trans h.dict.symm)
  have hcol : d'.pnColumn = d.pnColumn := h'.pnColumn.trans h.pnColumn.symm
  have hidx : d'.index = d.index := h'.index.trans h.index.symm
  cases d'
  cases hdict
  cases hcol
  cases hidx
  rfl

end MappingData

/-! ## 4. `PhoneMapping` -/

/-- `PhoneNumber::NONE`. -/
def PhoneNumber.NONE : UInt64 := UInt64.ofNat (2 ^ 64 - 1)

namespace PhoneMapping

/-- `PhoneMapping::Data`; the index is `rnIndex`. -/
abbrev Data := MappingData UInt64

/-- `PhoneMapping::Builder::addRow`. -/
def addRow (d : Data) (pn rn : UInt64) : Except Stop Data :=
  MappingData.addRow "PhoneMapping" d pn (.ok rn) rn

/-- A run of `addRow` calls. -/
def addRows (d : Data) (rows : List (UInt64 × UInt64)) : Except Stop Data :=
  rows.foldlM (fun d r => addRow d r.1 r.2) d

/-- The answer for one key: `dict.find`, or `NONE`. -/
def Data.lookup (d : Data) (pn : UInt64) : UInt64 := (d.dict.find pn).getD PhoneNumber.NONE

/-- `Data::getRNs`, into an array of zeros: a slot does not look at what it held before.
`CHECK(FLAGS_f14map_prefetch > 0)` guards every `PhoneMapping`. -/
def Data.getRNs (d : Data) (prefetch : ℕ+) (pn : List UInt64) : List UInt64 :=
  fillBlocks prefetch (fun pn _ => d.lookup pn) pn (List.replicate pn.length 0)

/-- `getRN(pn)`: a batch of one. -/
def Data.getRN (d : Data) (prefetch : ℕ+) (pn : UInt64) : UInt64 :=
  (d.getRNs prefetch [pn]).headD PhoneNumber.NONE

/-- A batch is answered key by key. -/
theorem getRNs_eq_map (d : Data) (prefetch : ℕ+) (pn : List UInt64) :
    d.getRNs prefetch pn = pn.map d.lookup :=
  fillBlocks_replicate prefetch _ pn 0

theorem getRN_eq_lookup (d : Data) (prefetch : ℕ+) (pn : UInt64) :
    d.getRN prefetch pn = d.lookup pn := by
  rw [Data.getRN, getRNs_eq_map]
  rfl

variable {d d' : Data} {rows : List (UInt64 × UInt64)}

/-- What a `PhoneMapping` builder holds: the index gets the routing number. -/
abbrev Holds (d : Data) (rows : List (UInt64 × UInt64)) : Prop :=
  MappingData.Holds Prod.snd d rows

theorem addRow_eq_ok {pn rn : UInt64} :
    addRow d pn rn = .ok d' ↔
      pn ∉ d.dict.keys ∧ d.pnColumn.length < MAXROWS ∧ d' = d.push pn rn rn := by
  rw [addRow, MappingData.addRow_eq_ok]
  constructor
  · rintro ⟨h1, h2, v, hv, rfl⟩
    cases hv
    exact ⟨h1, h2, rfl⟩
  · rintro ⟨h1, h2, rfl⟩
    exact ⟨h1, h2, rn, rfl, rfl⟩

theorem addRow_error {pn rn : UInt64} {e : Stop} (h : addRow d pn rn = .error e) :
    e.isRuntimeError = true := by
  rcases MappingData.addRow_error h with h | ⟨-, -, h⟩
  · exact h
  · cases h

/-- The step of a builder run. -/
theorem Holds.addRow (h : Holds d rows) {pn rn : UInt64} (hadd : addRow d pn rn = .ok d') :
    Holds d' (rows ++ [(pn, rn)]) := by
  obtain ⟨hpn, -, rfl⟩ := addRow_eq_ok.mp hadd
  exact MappingData.Holds.push h hpn

/-- **The builder run.**  Accepted rows are held, behind those held before. -/
theorem Holds.addRows {more rows : List (UInt64 × UInt64)} {d : Data} (h : Holds d rows)
    (hadd : addRows d more = .ok d') : Holds d' (rows ++ more) := by
  induction more generalizing rows d with
  | nil =>
    obtain rfl : d = d' := by simpa [PhoneMapping.addRows, pure, Except.pure] using hadd
    rwa [List.append_nil]
  | cons r more ih =>
    obtain ⟨pn, rn⟩ := r
    rw [PhoneMapping.addRows, List.foldlM_cons, bind_eq_ok] at hadd
    obtain ⟨d₁, h1, h2⟩ := hadd
    have hrest := ih (Holds.addRow h h1) h2
    rwa [List.append_assoc] at hrest

/-- Rows are accepted exactly when their keys are new and distinct and they fit. -/
theorem addRows_isOk_iff {more rows : List (UInt64 × UInt64)} {d : Data} (h : Holds d rows)
    (hlen : rows.length ≤ MAXROWS) :
    (∃ d', addRows d more = .ok d') ↔
      ((rows ++ more).map Prod.fst).Nodup ∧ (rows ++ more).length ≤ MAXROWS := by
  induction more generalizing rows d with
  | nil =>
    rw [List.append_nil]
    exact ⟨fun _ => ⟨h.nodup, hlen⟩, fun _ => ⟨d, rfl⟩⟩
  | cons r more ih =>
    obtain ⟨pn, rn⟩ := r
    have hcut : rows ++ (pn, rn) :: more = (rows ++ [(pn, rn)]) ++ more := by simp
    constructor
    · rintro ⟨d', hadd⟩
      rw [PhoneMapping.addRows, List.foldlM_cons, bind_eq_ok] at hadd
      obtain ⟨d₁, h1, h2⟩ := hadd
      have hroom : rows.length < MAXROWS := h.length_pnColumn ▸ (addRow_eq_ok.mp h1).2.1
      rw [hcut]
      exact (ih (Holds.addRow h h1) (by simpa using hroom)).mp ⟨d', h2⟩
    · rintro ⟨hnd, hl⟩
      have hroom : rows.length < MAXROWS := by simp at hl; omega
      have hnew : pn ∉ d.dict.keys := by
        rw [h.keys]
        rw [List.map_append, List.nodup_append] at hnd
        intro hm
        exact hnd.2.2 pn hm pn (by simp) rfl
      have h1 : PhoneMapping.addRow d pn rn = .ok (d.push pn rn rn) :=
        addRow_eq_ok.mpr ⟨hnew, h.length_pnColumn ▸ hroom, rfl⟩
      rw [hcut] at hnd hl
      obtain ⟨d', h2⟩ := (ih (Holds.addRow h h1) (by simpa using hroom)).mpr ⟨hnd, hl⟩
      refine ⟨d', ?_⟩
      rw [PhoneMapping.addRows, List.foldlM_cons, h1]
      exact h2

/-- A lookup returns the value of the row with that key. -/
theorem Holds.lookup (h : Holds d rows) {pn rn : UInt64} (hmem : (pn, rn) ∈ rows) :
    d.lookup pn = rn := by
  rw [Data.lookup, KeyMap.find_eq_some_iff.mpr (h.dict ▸ hmem), Option.getD_some]

/-! ## 5. Lines of a file -/

/-- One line of `PhoneMapping::Builder::fromCSV`. -/
def fromCSVLine (d : Data) (linebuf : Text) : Except Stop Data := do
  let rowbuf ← splitUint64 linebuf
  match rowbuf with
  | [pn, rn] => addRow d pn rn
  | _ => throwRuntimeError "bad number of columns"

/-- The row a line stands for: exactly two columns convertible to `uint64_t`. -/
def rowOf (linebuf : Text) : Option (UInt64 × UInt64) :=
  match splitUint64 linebuf with
  | .ok [pn, rn] => some (pn, rn)
  | _ => none

theorem fromCSVLine_of_row {linebuf : Text} {r : UInt64 × UInt64} (h : rowOf linebuf = some r) :
    fromCSVLine d linebuf = addRow d r.1 r.2 := by
  unfold rowOf at h
  split at h
  · rename_i pn rn hs
    cases h
    rw [fromCSVLine, hs]
    rfl
  · cases h

/-- A line that is no row is refused with a `runtime_error`. -/
theorem fromCSVLine_of_no_row {linebuf : Text} (h : rowOf linebuf = none) :
    ∃ e, fromCSVLine d linebuf = .error e ∧ e.isRuntimeError = true := by
  unfold fromCSVLine
  cases hs : splitUint64 linebuf with
  | error e => exact ⟨e, rfl, by rw [splitUint64_error hs]; rfl⟩
  | ok rowbuf =>
    match rowbuf, hs with
    | [], _ => exact ⟨_, rfl, rfl⟩
    | [_], _ => exact ⟨_, rfl, rfl⟩
    | [pn, rn], hs =>
      rw [rowOf, hs] at h
      cases h
    | _ :: _ :: _ :: _, _ => exact ⟨_, rfl, rfl⟩

theorem fromCSVLine_error {linebuf : Text} {e : Stop} (h : fromCSVLine d linebuf = .error e) :
    e.isRuntimeError = true := by
  cases hr : rowOf linebuf with
  | some r =>
    rw [fromCSVLine_of_row hr] at h
    exact addRow_error h
  | none =>
    obtain ⟨e', he, hrun⟩ := @fromCSVLine_of_no_row d linebuf hr
    obtain rfl : e' = e := by simpa [he] using h
    exact hrun

/-- **A file of lines is a run of `addRow` calls**, one for each line. -/
theorem foldlM_fromCSVLine_eq_ok {lines : List Text} {d : Data} :
    lines.foldlM fromCSVLine d = .ok d' ↔
      ∃ rows, lines.mapM rowOf = some rows ∧ addRows d rows = .ok d' := by
  induction lines generalizing d with
  | nil =>
    constructor
    · intro h
      exact ⟨[], rfl, h⟩
    · rintro ⟨rows, hrows, h⟩
      cases hrows
      exact h
  | cons line lines ih =>
    rw [List.foldlM_cons, bind_eq_ok]
    constructor
    · rintro ⟨d₁, h1, h2⟩
      cases hr : rowOf line with
      | none =>
        obtain ⟨e, he, -⟩ := @fromCSVLine_of_no_row d line hr
        rw [he] at h1
        cases h1
      | some r =>
        obtain ⟨rows, hrows, h3⟩ := ih.mp h2
        rw [fromCSVLine_of_row hr] at h1
        refine ⟨r :: rows, by simp [List.mapM_cons, hr, hrows], ?_⟩
        rw [addRows, List.foldlM_cons, bind_eq_ok]
        exact ⟨d₁, h1, h3⟩
    · rintro ⟨rows', hrows', h⟩
      rw [List.mapM_cons] at hrows'
      obtain ⟨r, hr, hrest⟩ := Option.bind_eq_some_iff.mp hrows'
      obtain ⟨rows, hrows, heq⟩ := Option.bind_eq_some_iff.mp hrest
      cases heq
      rw [addRows, List.foldlM_cons, bind_eq_ok] at h
      obtain ⟨d₁, h1, h2⟩ := h
      refine ⟨d₁, ?_, ih.mpr ⟨rows, hrows, h2⟩⟩
      rw [fromCSVLine_of_row hr]
      exact h1

end PhoneMapping

end CallFwd
