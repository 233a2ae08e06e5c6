/-
# `loadMappingFile` and the lines of a file

What the function is for: a file whose lines all are rows, with distinct keys and not too many of
them, replaces the mapping; any other file is refused and changes nothing.  `Loadable` is the
condition on the file and `LoadsLines` the outcome.

The code gets there except in one case, which `loadsLines_iff` isolates.  `fromCSV` asks
`in.peek()` before every line, and after an UNTERMINATED last line `getline` has already set
`eofbit`: this `peek` then sets `failbit`, and the whole file is refused.  The one escape is a
last line that is also the last of its chunk, because `in.good()` is tested before the next
`peek`.
-/
import CallFwd.Control.Load

namespace CallFwd

open Lib PhoneMapping

/-! ## 1. The outcome -/

/-- Every line is a row, the first columns are pairwise distinct and the rows fit. -/
def Loadable (content : Text) (rows : List (UInt64 × UInt64)) : Prop :=
  (pieces '\n' content).mapM rowOf = some rows ∧ (rows.map Prod.fst).Nodup ∧ rows.length ≤ MAXROWS

/-- `builder.commit(country == "CA" ? mappingCA : mappingUS)`. -/
def commitMapping (g : Globals) (canada : Bool) (d : PhoneMapping.Data) : Globals :=
  if canada then g.commit .ca d else g.commit .us d

/-- What loading a file should do: commit the rows of a loadable file, in order, and refuse any
other file. -/
structure LoadsLines (host : Host) (files : Files) (path : Text) (metadata : Dynamic)
    (g : Globals) (content : Text) : Prop where
  loads : ∀ rows, Loadable content rows → ∃ canada d, isCanada host metadata = .ok canada ∧
    addRows (MappingData.empty.setMetadata metadata) rows = .ok d ∧
    loadMappingFile host files path metadata g = .ok (true, commitMapping g canada d.build)
  refuses : (¬ ∃ rows, Loadable content rows) →
    loadMappingFile host files path metadata g = .ok (false, g)

/-- The metadata decodes and its hint can be honoured. -/
def MetadataOk (host : Host) (path : Text) (metadata : Dynamic) : Prop :=
  ∃ estimate canada, rowEstimate host path metadata = .ok estimate ∧
    isCanada host metadata = .ok canada ∧ HintOk host estimate

variable {host : Host} {files : Files} {path content : Text} {metadata : Dynamic} {g : Globals}
  {estimate : Int64} {canada : Bool}

/-! ## 2. Lines and rows -/

/-- The lines are accepted exactly when the file is loadable. -/
theorem foldLines_eq_ok_iff {d : PhoneMapping.Data} :
    PhoneMapping.loader.foldLines metadata content = .ok d ↔
      ∃ rows, (pieces '\n' content).mapM rowOf = some rows ∧
        addRows (MappingData.empty.setMetadata metadata) rows = .ok d :=
  foldlM_fromCSVLine_eq_ok

theorem loadable_iff {rows : List (UInt64 × UInt64)} :
    Loadable content rows ↔ (pieces '\n' content).mapM rowOf = some rows ∧
      ∃ d, addRows (MappingData.empty.setMetadata metadata) rows = .ok d := by
  refine and_congr_right fun _ => ?_
  have h := @addRows_isOk_iff rows [] (MappingData.empty.setMetadata metadata)
    (MappingData.holds_empty.setMetadata metadata) (Nat.zero_le _)
  rw [List.nil_append] at h
  exact h.symm

/-- No line of a mapping file escapes. -/
theorem foldLines_not_escapes : ¬ Escapes (PhoneMapping.loader.foldLines metadata content) := by
  rw [Loader.foldLines, foldlM_escapes_iff]
  rintro ⟨pre, line, post, d, -, -, e, he, hr⟩
  have : e.isRuntimeError = true := fromCSVLine_error he
  rw [hr] at this
  cases this

/-! ## 3. The function -/

/-- `loadMappingFile` once its metadata is decoded. -/
theorem loadMappingFile_eq (hest : rowEstimate host path metadata = .ok estimate)
    (hcan : isCanada host metadata = .ok canada) :
    loadMappingFile host files path metadata g =
      (fun data => if canada then Loader.finish (t := .ca) PhoneMapping.loader g data
        else Loader.finish (t := .us) PhoneMapping.loader g data) <$>
        PhoneMapping.loader.readTable host files path metadata estimate := by
  rw [loadMappingFile, hest, hcan]
  rfl

theorem loadMappingFile_of_some {d : PhoneMapping.Data}
    (hest : rowEstimate host path metadata = .ok estimate)
    (hcan : isCanada host metadata = .ok canada)
    (hread : PhoneMapping.loader.readTable host files path metadata estimate = .ok (some d)) :
    loadMappingFile host files path metadata g = .ok (true, commitMapping g canada d.build) := by
  rw [loadMappingFile_eq hest hcan, hread]
  cases canada <;> rfl

theorem loadMappingFile_of_none (hest : rowEstimate host path metadata = .ok estimate)
    (hcan : isCanada host metadata = .ok canada)
    (hread : PhoneMapping.loader.readTable host files path metadata estimate = .ok none) :
    loadMappingFile host files path metadata g = .ok (false, g) := by
  rw [loadMappingFile_eq hest hcan, hread]
  cases canada <;> rfl

/-- A loadable file that ends cleanly is loaded. -/
theorem loadMappingFile_loadable (hfile : files path = some content)
    (hest : rowEstimate host path metadata = .ok estimate)
    (hcan : isCanada host metadata = .ok canada) (hhint : HintOk host estimate)
    {rows : List (UInt64 × UInt64)} (hload : Loadable content rows)
    (hend : endsCleanly CHUNK content = true) :
    ∃ d, addRows (MappingData.empty.setMetadata metadata) rows = .ok d ∧
      loadMappingFile host files path metadata g = .ok (true, commitMapping g canada d.build) := by
  obtain ⟨hrows, d, hadd⟩ := (@loadable_iff content metadata rows).mp hload
  refine ⟨d, hadd, loadMappingFile_of_some hest hcan ?_⟩
  exact (Loader.readTable_eq_some_iff hfile).mpr
    ⟨hhint, foldLines_eq_ok_iff.mpr ⟨rows, hrows, hadd⟩, hend⟩

/-- A file that is not loadable, or does not end cleanly, is refused. -/
theorem loadMappingFile_refused (hfile : files path = some content)
    (hest : rowEstimate host path metadata = .ok estimate)
    (hcan : isCanada host metadata = .ok canada) (hhint : HintOk host estimate)
    (h : (∃ rows, Loadable content rows) → endsCleanly CHUNK content = false) :
    loadMappingFile host files path metadata g = .ok (false, g) := by
  refine loadMappingFile_of_none hest hcan ?_
  have hesc : ¬ Escapes (PhoneMapping.loader.readTable host files path metadata estimate) := by
    rw [Loader.readTable_escapes_iff hfile]
    rintro (h | h)
    · exact h hhint
    · exact foldLines_not_escapes h
  obtain ⟨o, hread⟩ := Loader.readTable_isOk hesc
  cases o with
  | none => exact hread
  | some d =>
    obtain ⟨-, hfold, hend⟩ := (Loader.readTable_eq_some_iff hfile).mp hread
    obtain ⟨rows, hrows, hadd⟩ := foldLines_eq_ok_iff.mp hfold
    rw [h ⟨rows, (@loadable_iff content metadata rows).mpr ⟨hrows, d, hadd⟩⟩] at hend
    cases hend

/-- Metadata that does not decode, or asks for too much, leaves the function without a result. -/
theorem loadMappingFile_of_not_metadataOk (hfile : files path = some content)
    (h : ¬ MetadataOk host path metadata) :
    ∃ e, loadMappingFile host files path metadata g = .error e := by
  cases hest : rowEstimate host path metadata with
  | error e => exact ⟨e, by rw [loadMappingFile, hest]; rfl⟩
  | ok estimate =>
    cases hcan : isCanada host metadata with
    | error e => exact ⟨e, by rw [loadMappingFile, hest, hcan]; rfl⟩
    | ok canada =>
      have hhint : ¬ HintOk host estimate := fun hh => h ⟨estimate, canada, hest, hcan, hh⟩
      obtain ⟨e, he, -⟩ := @Loader.readTable_escapes_of_hint _ PhoneMapping.loader _ _ _ _
        metadata _ hfile hhint
      exact ⟨e, by rw [loadMappingFile_eq hest hcan, he]; rfl⟩

/-- **Loading a file loads its lines exactly when** the metadata decodes with a hint that can be
honoured, and the file ends cleanly or is to be refused anyway: its last line is terminated, or
its number of lines is a multiple of the chunk. -/
theorem loadsLines_iff (host : Host) (files : Files) (path : Text) (metadata : Dynamic)
    (g : Globals) {content : Text} (hfile : files path = some content) :
    LoadsLines host files path metadata g content ↔
      MetadataOk host path metadata ∧
        (endsCleanly CHUNK content = true ∨ ¬ ∃ rows, Loadable content rows) := by
  constructor
  · intro h
    have hmeta : MetadataOk host path metadata := by
      by_contra hno
      obtain ⟨e, he⟩ := @loadMappingFile_of_not_metadataOk _ _ _ _ _ g hfile hno
      by_cases hex : ∃ rows, Loadable content rows
      · obtain ⟨rows, hload⟩ := hex
        obtain ⟨_, _, -, -, hok⟩ := h.loads rows hload
        rw [he] at hok
        cases hok
      · have hok := h.refuses hex
        rw [he] at hok
        cases hok
    refine ⟨hmeta, ?_⟩
    by_contra hbad
    rw [not_or, not_not] at hbad
    obtain ⟨hend, rows, hload⟩ := hbad
    obtain ⟨estimate, canada, hest, hcan, hhint⟩ := hmeta
    obtain ⟨_, _, -, -, hok⟩ := h.loads rows hload
    rw [loadMappingFile_refused hfile hest hcan hhint fun _ => by simpa using hend] at hok
    cases hok
  · rintro ⟨⟨estimate, canada, hest, hcan, hhint⟩, h⟩
    refine ⟨?_, ?_⟩
    · intro rows hload
      have hend : endsCleanly CHUNK content = true := h.resolve_right fun hno => hno ⟨rows, hload⟩
      obtain ⟨d, hadd, hok⟩ := @loadMappingFile_loadable _ _ _ _ _ g _ _ hfile hest hcan hhint
        rows hload hend
      exact ⟨canada, d, hcan, hadd, hok⟩
    · intro hno
      exact loadMappingFile_refused hfile hest hcan hhint fun hex => absurd hex hno

/-- A file of one terminated line is loaded. -/
theorem loadsLines_terminated :
    LoadsLines Host.plain (fun _ => some (Dynamic.text "1,2\n")) [] (.object []) Globals.initial
      (Dynamic.text "1,2\n") :=
  (loadsLines_iff Host.plain (fun _ => some (Dynamic.text "1,2\n")) [] (.object [])
    Globals.initial rfl).mpr
    ⟨⟨0, false, rfl, rfl, 0, rfl, by decide⟩, Or.inl (by decide)⟩

/-- The same file without the newline is loadable too, and is refused. -/
theorem not_loadsLines_unterminated :
    ¬ LoadsLines Host.plain (fun _ => some (Dynamic.text "1,2")) [] (.object []) Globals.initial
      (Dynamic.text "1,2") := by
  intro h
  obtain ⟨_, _, -, -, hok⟩ := h.loads [(1, 2)] ⟨by decide, by decide, by decide⟩
  rw [@loadMappingFile_refused Host.plain (fun _ => some (Dynamic.text "1,2")) [] _ (.object [])
    Globals.initial 0 false rfl rfl rfl ⟨0, rfl, by decide⟩ fun _ => by decide] at hok
  cases hok

end CallFwd
