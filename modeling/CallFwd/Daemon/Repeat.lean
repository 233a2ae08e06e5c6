/-
# The same file, loaded again

A load keeps its metadata beside the rows and looks at two members of it, the estimate and the
country.  No line is accepted or refused for what the metadata say: `addRow` commutes with
`setMetadata` in every builder (`Loader.Oblivious`).  So a file that was loaded once loads again under
all metadata with the same estimate and the same country, whatever their dates and names are
(`Job.Loads.again`).
-/
import CallFwd.Daemon.Ledger

namespace CallFwd

open Lib

/-! ## 1. Lines do not see the metadata -/

/-- A line is read into a builder as it is read into one with other metadata. -/
structure Loader.Oblivious {D : Type} (L : Loader D) : Prop where
  line : ∀ d m text, L.fromCSVLine (L.setMetadata d m) text =
    (L.setMetadata · m) <$> L.fromCSVLine d text
  again : ∀ d m m', L.setMetadata (L.setMetadata d m) m' = L.setMetadata d m'

/-- A test and a row that do not see the metadata make a line that does not. -/
theorem csvRow_setMetadata {D : Type} {skip : Text → Bool} {admits : Text → List Text → Bool}
    {addRow : D → List Text → Except Stop D} {set : D → D}
    (h : ∀ d parts, addRow (set d) parts = set <$> addRow d parts) (d : D) (line : Text) :
    csvRow skip admits addRow (set d) line = set <$> csvRow skip admits addRow d line := by
  simp only [csvRow]
  split
  · rfl
  · split
    · exact h d _
    · rfl

/-- The key of a column, and then a row. -/
theorem columnKey_setMetadata {D : Type} {set : D → D} {addRow : D → UInt64 → Except Stop D}
    (h : ∀ d pn, addRow (set d) pn = set <$> addRow d pn) (i : ℕ) (edit : Text → Text) (d : D)
    (parts : List Text) :
    (columnKey parts i edit >>= addRow (set d)) = set <$> (columnKey parts i edit >>= addRow d) := by
  cases columnKey parts i edit with
  | error e => rfl
  | ok pn => exact h d pn

section Columns

variable {V : Type} (m : Dynamic) (table : String) (d : MappingData V)

theorem MappingData.addRow_setMetadata (pn : UInt64) (value : Except Stop V) (ix : UInt64) :
    MappingData.addRow table (d.setMetadata m) pn value ix =
      (fun d => d.setMetadata m) <$> MappingData.addRow table d pn value ix := by
  have hcheck : (d.setMetadata m).checkRow table pn = d.checkRow table pn := rfl
  unfold MappingData.addRow
  rw [hcheck]
  cases d.checkRow table pn with
  | error e => rfl
  | ok u =>
    cases value with
    | error e => rfl
    | ok v => rfl

theorem addRecord_setMetadata (key : Except Stop UInt64) (record : UInt64 → Except Stop V) :
    addRecord table (d.setMetadata m) key record =
      (fun d => d.setMetadata m) <$> addRecord table d key record := by
  unfold addRecord
  cases key with
  | error e => rfl
  | ok pn => exact MappingData.addRow_setMetadata m table d pn (record pn) pn

/-- A loader over columns, by what it does with a line. -/
theorem oblivious_columnLoader
    {fromCSVLine : MappingData V → Text → Except Stop (MappingData V)}
    (h : ∀ m d line, fromCSVLine (MappingData.setMetadata d m) line =
      (fun d => d.setMetadata m) <$> fromCSVLine d line) :
    (columnLoader fromCSVLine).Oblivious :=
  ⟨fun d m => h m d, fun _ _ _ => rfl⟩

/-- A table of records. -/
theorem oblivious_records {skip : Text → Bool} {admits : Text → List Text → Bool}
    (key : List Text → Except Stop UInt64) (record : List Text → UInt64 → Except Stop V) :
    (columnLoader (csvRow skip admits fun d rowbuf =>
      addRecord table d (key rowbuf) (record rowbuf))).Oblivious := by
  refine oblivious_columnLoader ?_
  intro m
  refine csvRow_setMetadata ?_
  intro d rowbuf
  exact addRecord_setMetadata m table d _ _

end Columns

theorem PhoneMapping.oblivious : PhoneMapping.loader.Oblivious := by
  refine oblivious_columnLoader ?_
  intro m d line
  unfold PhoneMapping.fromCSVLine
  cases splitUint64 line with
  | error e => rfl
  | ok rowbuf =>
    simp only [bind, Except.bind]
    split
    · exact MappingData.addRow_setMetadata m _ d _ _ _
    · rfl

theorem DncMapping.oblivious : DncMapping.loader.Oblivious := by
  refine oblivious_columnLoader ?_
  intro m d line
  unfold DncMapping.fromCSVLine
  cases extractUint64 (deleteCharacter line ',') with
  | error e => rfl
  | ok pn => exact MappingData.addRow_setMetadata m _ d _ _ _

theorem TollFreeMapping.oblivious : TollFreeMapping.loader.Oblivious := by
  refine oblivious_columnLoader ?_
  intro m
  refine csvRow_setMetadata (@columnKey_setMetadata TollFreeMapping.Data (fun d => d.setMetadata m)
    (fun d pn => TollFreeMapping.addRow d pn 1) ?_ 0 id)
  intro d pn
  exact MappingData.addRow_setMetadata m _ d _ _ _

/-- The builder of DNO has a dictionary for each of its four commands. -/
theorem DnoMapping.oblivious (ty : DnoMapping.DnoType) : (DnoMapping.loader ty).Oblivious := by
  refine ⟨?_, fun _ _ _ => rfl⟩
  intro d m
  change ∀ line, DnoMapping.fromCSVLine ty (d.setMetadata m) line =
    (fun d => d.setMetadata m) <$> DnoMapping.fromCSVLine ty d line
  unfold DnoMapping.fromCSVLine
  refine @csvRow_setMetadata DnoMapping.Data _ _
    (fun d parts => columnKey parts 0 (deleteCharacter · '-') >>= fun pn =>
      DnoMapping.addRow d pn ty 1) (fun d => d.setMetadata m)
    (@columnKey_setMetadata DnoMapping.Data (fun d => d.setMetadata m)
      (fun d pn => DnoMapping.addRow d pn ty 1) ?_ 0 _) d
  intro d pn
  change (if (d.dict ty).count pn then _ else _) = _ <$> (if (d.dict ty).count pn then _ else _)
  split
  · rfl
  · rfl

/-- The builder of LERG has two dictionaries over one set of columns. -/
theorem LergMapping.oblivious : LergMapping.loader.Oblivious := by
  refine ⟨?_, fun _ _ _ => rfl⟩
  intro d m
  change ∀ line, LergMapping.fromCSVLine (d.setMetadata m) line =
    (fun d => d.setMetadata m) <$> LergMapping.fromCSVLine d line
  unfold LergMapping.fromCSVLine
  refine @csvRow_setMetadata LergMapping.Data _ _ _ (fun d => d.setMetadata m) ?_ d
  intro d rowbuf
  unfold LergMapping.addRow
  cases subscript rowbuf 2 with
  | error e => rfl
  | ok x =>
    simp only [bind, Except.bind]
    split
    · cases LergMapping.keyNpaNxx rowbuf with
      | error e => rfl
      | ok key =>
        have h := MappingData.addRow_setMetadata m "LergMapping"
          { d.toMappingData with dict := d.dic_npa_nxx } (UInt64.ofInt key)
          (LergMapping.record id rowbuf (UInt64.ofInt key)) (UInt64.ofInt key)
        simp only [MappingData.setMetadata, LergMapping.Data.setMetadata] at h ⊢
        rw [h]
        cases MappingData.addRow "LergMapping" _ _ _ _ with
        | error e => rfl
        | ok d' => rfl
    · cases LergMapping.keyNpaNxxX rowbuf with
      | error e => rfl
      | ok key =>
        have h := MappingData.addRow_setMetadata m "LergMapping"
          d.toMappingData (UInt64.ofInt key)
          (LergMapping.record LergMapping.orBlank rowbuf (UInt64.ofInt key)) (UInt64.ofInt key)
        simp only [MappingData.setMetadata, LergMapping.Data.setMetadata] at h ⊢
        rw [h]
        cases MappingData.addRow "LergMapping" _ _ _ _ with
        | error e => rfl
        | ok d' => rfl

theorem FailureMapping.oblivious (table : String) :
    (columnLoader (FailureMapping.fromCSVLine table)).Oblivious :=
  oblivious_records _ _ _

theorem Reload.oblivious (r : Reload) : r.loader.Oblivious := by
  cases r with
  | dnc => exact DncMapping.oblivious
  | tollFree => exact TollFreeMapping.oblivious
  | dno ty => exact DnoMapping.oblivious ty
  | lerg => exact LergMapping.oblivious
  | youmail => exact oblivious_records _ _ _
  | geo => exact oblivious_records _ _ _
  | ftc => exact oblivious_records _ _ _
  | f404 => exact FailureMapping.oblivious _
  | f606 => exact FailureMapping.oblivious _

/-! ## 2. The fold over the lines -/

section Fold

variable {D : Type} {L : Loader D} {metadata metadata' : Dynamic} {content : Text}

theorem Loader.Oblivious.foldlM (h : L.Oblivious) (m : Dynamic) (lines : List Text) (d : D) :
    lines.foldlM L.fromCSVLine (L.setMetadata d m) =
      (L.setMetadata · m) <$> lines.foldlM L.fromCSVLine d := by
  induction lines generalizing d with
  | nil => rfl
  | cons line lines ih =>
    rw [List.foldlM_cons, List.foldlM_cons, h.line]
    cases L.fromCSVLine d line with
    | error e => rfl
    | ok d' => exact ih d'

/-- The builder after the same lines has the new metadata, and is as before otherwise. -/
theorem Loader.Oblivious.foldLines_eq (h : L.Oblivious) :
    L.foldLines metadata' content =
      (L.setMetadata · metadata') <$> L.foldLines metadata content := by
  unfold Loader.foldLines
  rw [← h.foldlM, h.again]

/-- The block of a table succeeds on a file it succeeded on. -/
theorem Loader.Oblivious.readTable_again (h : L.Oblivious) {host : Host} {files files' : Files}
    {path path' : Text} {estimate : Int64} {d : D} (hfile : files path = some content)
    (hfile' : files' path' = some content)
    (hread : L.readTable host files path metadata estimate = .ok (some d)) :
    L.readTable host files' path' metadata' estimate =
      .ok (some (L.setMetadata d metadata')) := by
  obtain ⟨hhint, hfold, hend⟩ := (Loader.readTable_eq_some_iff hfile).mp hread
  refine (Loader.readTable_eq_some_iff hfile').mpr ⟨hhint, ?_, hend⟩
  rw [h.foldLines_eq, hfold]
  rfl

end Fold

/-! ## 3. The answer -/

/-- Two loads with the same file and everything that is looked at. -/
structure Job.SameLoad (job job' : Job) (content : Text) : Prop where
  load : job'.load = job.load
  host : job'.host = job.host
  file : job'.files job'.path = some content
  estimate : rowEstimate job'.host job'.path job'.metadata =
    rowEstimate job.host job.path job.metadata
  country : isCanada job'.host job'.metadata = isCanada job.host job.metadata

/-- **The same file is loaded again**, into the same table. -/
theorem Job.Loads.again {job job' : Job} {content : Text} {f : Filled} (h : job.Loads content f)
    (hsame : job.SameLoad job' content) (hacl : job.load ≠ .acl) :
    ∃ f', job'.Loads content f' ∧ f'.1 = f.1 := by
  have step : ∀ {t : Table} {L : Loader (Dataset t)} {estimate : Int64}, L.Oblivious →
      L.openTable job estimate >>= Reading.outcome = .ok f →
      ∃ f', L.openTable job' estimate >>= Reading.outcome = .ok f' ∧ f'.1 = f.1 := by
    intro t L estimate hL hout
    obtain ⟨d, hread, rfl⟩ := Loader.openTable_outcome_iff.mp hout
    have hread' := @Loader.Oblivious.readTable_again _ _ _ job'.metadata _ hL _ _ _ _ _ _ _ h.file
      hsame.file hread
    rw [← hsame.host] at hread'
    exact ⟨_, Loader.openTable_outcome_iff.mpr ⟨_, hread', rfl⟩, rfl⟩
  have hout : ∃ f', job'.outcome = .ok f' ∧ f'.1 = f.1 := by
    cases hload : job.load with
    | mapping =>
      obtain ⟨estimate, canada, hest, hcan, hout⟩ := (Job.outcome_mapping_iff hload).mp h.outcome
      obtain ⟨f', hout', hf⟩ : ∃ f', (if canada then
          Loader.openTable (t := .ca) PhoneMapping.loader job' estimate
          else Loader.openTable (t := .us) PhoneMapping.loader job' estimate) >>=
            Reading.outcome = .ok f' ∧ f'.1 = f.1 := by
        cases canada with
        | true => exact @step .ca PhoneMapping.loader estimate PhoneMapping.oblivious hout
        | false => exact @step .us PhoneMapping.loader estimate PhoneMapping.oblivious hout
      exact ⟨f', (Job.outcome_mapping_iff (hsame.load.trans hload)).mpr ⟨estimate, canada,
        hsame.estimate.trans hest, hsame.country.trans hcan, hout'⟩, hf⟩
    | table r =>
      obtain ⟨estimate, hest, hout⟩ := (Job.outcome_table_iff hload).mp h.outcome
      obtain ⟨f', hout', hf⟩ := step r.oblivious hout
      exact ⟨f', (Job.outcome_table_iff (hsame.load.trans hload)).mpr
        ⟨estimate, hsame.estimate.trans hest, hout'⟩, hf⟩
    | acl => exact absurd hload hacl
  obtain ⟨f', hout', hf⟩ := hout
  obtain ⟨content', hfile, hdata⟩ := Job.dataset_of_outcome hout'
  cases hsame.file.symm.trans hfile
  exact ⟨f', ⟨hfile, hout', hdata⟩, hf⟩

end CallFwd
