/-
# A reload as a thread

A control message is served in a thread of its own.  For a reload this thread decodes the
metadata, opens the file and reserves; reads the file in chunks of 10000 lines into a builder
nobody else sees; builds; and then exchanges ONE global.  Every exception on the way ends it
before the exchange.

`Job.advance` is one such step.  `Job.outcome` is where a thread is going, whoever runs beside
it: `outcome_advance` says that no step changes it.  It is tied to the layers below on both
sides: `Job.dataset_of_outcome` says that the dataset of a thread that succeeds is that of ALL
lines of its file, and `Job.run_eq_true_iff` that the sequential function of the command commits
exactly the same dataset.
-/
import CallFwd.Control.Dispatch

namespace CallFwd

open Lib

/-! ## 1. The steps -/

/-- A table and a dataset for it. -/
abbrev Filled := (t : Table) × Dataset t

/-- The commands that commit something. -/
inductive Load
  | mapping
  | table (r : Reload)
  | acl
deriving DecidableEq, Repr

def Load.command : Load → Command
  | .mapping => .reload
  | .table r => .table r
  | .acl => .acl

/-- A command as its thread finds it. -/
structure Job where
  load : Load
  host : Host
  files : Files
  path : Text
  metadata : Dynamic

/-- A file half read, and the builder. -/
inductive Reading
  | table (t : Table) (L : Loader (Dataset t)) (in_ : IStream) (builder : Dataset t)
  | acl (parsers : ACL.Parsers) (in_ : IStream) (builder : ACL.Data × ACL.Rule)

/-- One chunk, or the dataset where there is no more to read.  The access list is read line by
line. -/
def Reading.turn : Reading → Except Stop (Reading ⊕ Filled)
  | .table t L in_ builder =>
    if in_.good then
      (fun sb => .inl (.table t L sb.1 sb.2)) <$>
        readChunk (.exn .iosFailure) L.fromCSVLine CHUNK in_ builder
    else .ok (.inr ⟨t, L.build builder⟩)
  | .acl parsers in_ builder => do
    match ← readLine (.exn .iosFailure) (ACL.fromCSVLine parsers) in_ builder with
    | (in_', some builder') => return .inl (.acl parsers in_' builder')
    | (_, none) => return .inr ⟨.acl, builder.1⟩

/-- The head of the `try` block: `open` and `sizeHint`. -/
def Loader.openTable {t : Table} (L : Loader (Dataset t)) (job : Job) (estimate : Int64) :
    Except Stop Reading := do
  let in_ ← openFile job.files job.path
  let n ← numRecords estimate
  L.sizeHint job.host n
  return .table t L in_ (L.setMetadata L.empty job.metadata)

/-- Everything before the first line. -/
def Job.start (job : Job) : Except Stop Reading :=
  match job.load with
  | .mapping => do
    let estimate ← rowEstimate job.host job.path job.metadata
    let canada ← isCanada job.host job.metadata
    if canada then Loader.openTable (t := .ca) PhoneMapping.loader job estimate
    else Loader.openTable (t := .us) PhoneMapping.loader job estimate
  | .table r => do
    let estimate ← rowEstimate job.host job.path job.metadata
    r.loader.openTable job estimate
  | .acl => do
    let in_ ← openFile job.files job.path
    return .acl job.host.acl in_ (fun _ => none, {})

/-- How far a thread is. -/
inductive Phase
  | starting
  | reading (r : Reading)
  | built (f : Filled)
  | failed
  | committed (f : Filled)

/-- A step of the thread on its own data.  After undefined behaviour there is none. -/
def Job.advance (job : Job) : Phase → Phase
  | .starting =>
    match job.start with
    | .ok r => .reading r
    | .error (.exn _) => .failed
    | .error (.undefined _) => .starting
  | .reading r =>
    match r.turn with
    | .ok (.inl r') => .reading r'
    | .ok (.inr f) => .built f
    | .error (.exn _) => .failed
    | .error (.undefined _) => .reading r
  | ph => ph

/-! ## 2. Where a thread is going -/

/-- What is left of the loop, run to its end. -/
def Reading.outcome : Reading → Except Stop Filled
  | .table t L in_ builder =>
    (fun d => ⟨t, L.build d⟩) <$>
      readAll (.exn .iosFailure) L.fromCSVLine CHUNK CHUNK_pos in_ builder
  | .acl parsers in_ builder =>
    (fun st => ⟨.acl, st.1⟩) <$>
      readLines (.exn .iosFailure) (ACL.fromCSVLine parsers) in_ builder

/-- The whole thread. -/
def Job.outcome (job : Job) : Except Stop Filled := job.start >>= Reading.outcome

/-- One turn of the loop is a turn of the loop. -/
theorem Reading.outcome_eq (r : Reading) : r.outcome = r.turn >>= Sum.elim Reading.outcome .ok := by
  cases r with
  | table t L in_ builder =>
    rw [Reading.turn]
    split
    · rename_i good
      rw [Reading.outcome, readAll_good CHUNK_pos good]
      cases readChunk (.exn .iosFailure) L.fromCSVLine CHUNK in_ builder with
      | error e => rfl
      | ok sb => rfl
    · rename_i used
      rw [Reading.outcome, readAll, if_neg used]
      rfl
  | acl parsers in_ builder =>
    rw [Reading.turn, Reading.outcome, readLines]
    split
    · rename_i e he
      rw [he]
      rfl
    · rename_i s he
      rw [he]
      rfl
    · rename_i s b he
      rw [he]
      rfl

/-- What a phase says of the outcome. -/
def Phase.Foretells (outcome : Except Stop Filled) : Phase → Prop
  | .starting => True
  | .reading r => outcome = r.outcome
  | .built f => outcome = .ok f
  | .failed => ∃ e, outcome = .error (.exn e)
  | .committed f => outcome = .ok f

/-- **No step changes the outcome.** -/
theorem Job.outcome_advance (job : Job) (ph : Phase) (h : ph.Foretells job.outcome) :
    (job.advance ph).Foretells job.outcome := by
  cases ph with
  | starting =>
    rw [Job.advance]
    split
    · rename_i r hr
      change job.start >>= Reading.outcome = r.outcome
      rw [hr]
      rfl
    · rename_i e he
      refine ⟨e, ?_⟩
      rw [Job.outcome, he]
      rfl
    · trivial
  | reading r =>
    have h : job.outcome = r.outcome := h
    rw [Reading.outcome_eq] at h
    rw [Job.advance]
    split
    · rename_i r' hr
      rw [hr] at h
      exact h
    · rename_i f hr
      rw [hr] at h
      exact h
    · rename_i e he
      rw [he] at h
      exact ⟨e, h⟩
    · rw [← Reading.outcome_eq] at h
      exact h
  | built f => exact h
  | failed => exact h
  | committed f => exact h

/-! ## 3. The dataset of all lines -/

/-- The dataset of all lines of a file, for the table the command fills. -/
def Job.dataset (job : Job) (content : Text) : Except Stop Filled :=
  match job.load with
  | .mapping => do
    let canada ← isCanada job.host job.metadata
    let d ← PhoneMapping.loader.foldLines job.metadata content
    return if canada then ⟨.ca, d.build⟩ else ⟨.us, d.build⟩
  | .table r => do
    let d ← r.loader.foldLines job.metadata content
    return ⟨r.table, r.loader.build d⟩
  | .acl => do
    let st ← (pieces '\n' content).foldlM (ACL.fromCSVLine job.host.acl) (fun _ => none, {})
    return ⟨.acl, st.1⟩

section Links

variable {job : Job} {f : Filled} {t : Table} {L : Loader (Dataset t)} {estimate : Int64}

/-- A table thread succeeds with what its `try` block leaves. -/
theorem Loader.openTable_outcome_iff :
    L.openTable job estimate >>= Reading.outcome = .ok f ↔
      ∃ d, L.readTable job.host job.files job.path job.metadata estimate = .ok (some d) ∧
        f = ⟨t, L.build d⟩ := by
  have same : L.openTable job estimate >>= Reading.outcome =
      (fun d => (⟨t, L.build d⟩ : Filled)) <$> (do
        let in_ ← openFile job.files job.path
        let n ← numRecords estimate
        L.sizeHint job.host n
        L.readFile job.metadata in_) := by
    unfold Loader.openTable
    cases openFile job.files job.path with
    | error e => rfl
    | ok in_ =>
      cases numRecords estimate with
      | error e => rfl
      | ok n =>
        change L.sizeHint job.host n >>= _ >>= _ = _ <$> (L.sizeHint job.host n >>= _)
        cases L.sizeHint job.host n with
        | error e => rfl
        | ok u => rfl
  rw [same, map_eq_ok]
  simp only [Loader.readTable, catchRuntimeError_eq_some_iff]

/-- Such a thread has read all lines of a file that opened. -/
theorem Loader.foldLines_of_outcome (h : L.openTable job estimate >>= Reading.outcome = .ok f) :
    ∃ content d, job.files job.path = some content ∧
      L.foldLines job.metadata content = .ok d ∧ f = ⟨t, L.build d⟩ := by
  obtain ⟨d, hread, rfl⟩ := Loader.openTable_outcome_iff.mp h
  cases hfile : job.files job.path with
  | none =>
    rw [Loader.readTable_of_closed hfile] at hread
    cases hread
  | some content =>
    exact ⟨content, d, rfl, ((Loader.readTable_eq_some_iff hfile).mp hread).2.1, rfl⟩

/-- What the thread of `reload` does, with the metadata decoded. -/
theorem Job.outcome_mapping_iff (hload : job.load = .mapping) :
    job.outcome = .ok f ↔
      ∃ estimate canada, rowEstimate job.host job.path job.metadata = .ok estimate ∧
        isCanada job.host job.metadata = .ok canada ∧
        (if canada then Loader.openTable (t := .ca) PhoneMapping.loader job estimate
          else Loader.openTable (t := .us) PhoneMapping.loader job estimate) >>=
            Reading.outcome = .ok f := by
  simp only [Job.outcome, Job.start, hload, bind_assoc]
  constructor
  · intro h
    obtain ⟨estimate, hest, h⟩ := bind_eq_ok.mp h
    obtain ⟨canada, hcan, h⟩ := bind_eq_ok.mp h
    exact ⟨estimate, canada, hest, hcan, h⟩
  · rintro ⟨estimate, canada, hest, hcan, h⟩
    exact bind_eq_ok.mpr ⟨estimate, hest, bind_eq_ok.mpr ⟨canada, hcan, h⟩⟩

theorem Job.outcome_table_iff {r : Reload} (hload : job.load = .table r) :
    job.outcome = .ok f ↔
      ∃ estimate, rowEstimate job.host job.path job.metadata = .ok estimate ∧
        r.loader.openTable job estimate >>= Reading.outcome = .ok f := by
  simp only [Job.outcome, Job.start, hload, bind_assoc]
  exact bind_eq_ok

theorem Job.outcome_acl (hload : job.load = .acl) :
    job.outcome = (fun data => (⟨.acl, data⟩ : Filled)) <$>
      (openFile job.files job.path >>= ACL.fromCSV job.host.acl) := by
  simp only [Job.outcome, Job.start, hload]
  cases openFile job.files job.path with
  | error e => rfl
  | ok in_ =>
    change _ <$> readLines _ _ in_ _ = _ <$> (_ <$> readLines _ _ in_ _)
    cases readLines (.exn .iosFailure) (ACL.fromCSVLine job.host.acl) in_ (fun _ => none, {}) with
    | error e => rfl
    | ok st => rfl

/-- **A thread that succeeds has read all lines.** -/
theorem Job.dataset_of_outcome (h : job.outcome = .ok f) :
    ∃ content, job.files job.path = some content ∧ job.dataset content = .ok f := by
  cases hload : job.load with
  | mapping =>
    obtain ⟨estimate, canada, -, hcan, h⟩ := (Job.outcome_mapping_iff hload).mp h
    cases canada with
    | true =>
      rw [if_pos rfl] at h
      obtain ⟨content, d, hfile, hfold, rfl⟩ := Loader.foldLines_of_outcome h
      refine ⟨content, hfile, ?_⟩
      simp only [Job.dataset, hload]
      exact bind_eq_ok.mpr ⟨_, hcan, bind_eq_ok.mpr ⟨d, hfold, rfl⟩⟩
    | false =>
      rw [if_neg Bool.false_ne_true] at h
      obtain ⟨content, d, hfile, hfold, rfl⟩ := Loader.foldLines_of_outcome h
      refine ⟨content, hfile, ?_⟩
      simp only [Job.dataset, hload]
      exact bind_eq_ok.mpr ⟨_, hcan, bind_eq_ok.mpr ⟨d, hfold, rfl⟩⟩
  | table r =>
    obtain ⟨estimate, -, h⟩ := (Job.outcome_table_iff hload).mp h
    obtain ⟨content, d, hfile, hfold, rfl⟩ := Loader.foldLines_of_outcome h
    refine ⟨content, hfile, ?_⟩
    simp only [Job.dataset, hload]
    exact bind_eq_ok.mpr ⟨d, hfold, rfl⟩
  | acl =>
    rw [Job.outcome_acl hload] at h
    obtain ⟨data, hdata, rfl⟩ := map_eq_ok.mp h
    cases hfile : job.files job.path with
    | none =>
      rw [openFile, hfile] at hdata
      cases hdata
    | some content =>
      refine ⟨content, rfl, ?_⟩
      rw [openFile, hfile] at hdata
      change _ <$> readLines _ _ (IStream.ofText content) _ = _ at hdata
      rw [readLines_ofText] at hdata
      obtain ⟨st, hst, rfl⟩ := map_eq_ok.mp hdata
      obtain ⟨st', hfold, hend⟩ := bind_eq_ok.mp hst
      simp only [Job.dataset, hload]
      refine bind_eq_ok.mpr ⟨st', hfold, ?_⟩
      split at hend
      · cases hend
        rfl
      · cases hend

/-- A block and its handler against the thread: what is committed. -/
theorem Loader.finish_eq_true_iff {g g' : Globals} :
    L.finish g <$> L.readTable job.host job.files job.path job.metadata estimate = .ok (true, g') ↔
      ∃ f, L.openTable job estimate >>= Reading.outcome = .ok f ∧ g' = g.commit f.1 f.2 := by
  simp only [Loader.openTable_outcome_iff, map_eq_ok]
  constructor
  · rintro ⟨o, hread, h⟩
    cases o with
    | none => cases h
    | some d =>
      cases h
      exact ⟨_, ⟨d, hread, rfl⟩, rfl⟩
  · rintro ⟨-, ⟨d, hread, rfl⟩, rfl⟩
    exact ⟨some d, hread, rfl⟩

theorem Loader.finish_mapping_eq_true_iff {canada : Bool} {g g' : Globals} :
    (do
      let data ← PhoneMapping.loader.readTable job.host job.files job.path job.metadata estimate
      return if canada then Loader.finish (t := .ca) PhoneMapping.loader g data
        else Loader.finish (t := .us) PhoneMapping.loader g data) = .ok (true, g') ↔
      ∃ f, (if canada then Loader.openTable (t := .ca) PhoneMapping.loader job estimate
          else Loader.openTable (t := .us) PhoneMapping.loader job estimate) >>=
            Reading.outcome = .ok f ∧ g' = g.commit f.1 f.2 := by
  cases canada with
  | true =>
    simp only [if_true, bind_pure_comp]
    exact Loader.finish_eq_true_iff
  | false =>
    simp only [Bool.false_eq_true, if_false, bind_pure_comp]
    exact Loader.finish_eq_true_iff

/-- **A thread and the function of its command commit the same.** -/
theorem Job.run_eq_true_iff {sinks : Sinks} {stdoutPath : Text} {g g' : Globals} :
    job.load.command.run job.host ⟨job.files, sinks⟩ job.path stdoutPath job.metadata g =
        .ok (true, g') ↔
      ∃ f, job.outcome = .ok f ∧ g' = g.commit f.1 f.2 := by
  cases hload : job.load with
  | mapping =>
    simp only [Job.outcome_mapping_iff hload, Load.command, Command.run, loadMappingFile]
    constructor
    · intro h
      obtain ⟨estimate, hest, h⟩ := bind_eq_ok.mp h
      obtain ⟨canada, hcan, h⟩ := bind_eq_ok.mp h
      obtain ⟨f, hf, rfl⟩ := Loader.finish_mapping_eq_true_iff.mp h
      exact ⟨f, ⟨estimate, canada, hest, hcan, hf⟩, rfl⟩
    · rintro ⟨f, ⟨estimate, canada, hest, hcan, hf⟩, hg⟩
      exact bind_eq_ok.mpr ⟨estimate, hest, bind_eq_ok.mpr ⟨canada, hcan,
        Loader.finish_mapping_eq_true_iff.mpr ⟨f, hf, hg⟩⟩⟩
  | table r =>
    simp only [Job.outcome_table_iff hload, Load.command, Command.run, Reload.run_eq,
      Loader.loadFile]
    constructor
    · intro h
      obtain ⟨estimate, hest, h⟩ := bind_eq_ok.mp h
      obtain ⟨f, hf, rfl⟩ := Loader.finish_eq_true_iff.mp h
      exact ⟨f, ⟨estimate, hest, hf⟩, rfl⟩
    · rintro ⟨f, ⟨estimate, hest, hf⟩, hg⟩
      exact bind_eq_ok.mpr ⟨estimate, hest, Loader.finish_eq_true_iff.mpr ⟨f, hf, hg⟩⟩
  | acl =>
    simp only [Job.outcome_acl hload, Load.command, Command.run, loadACLFile, map_eq_ok]
    cases openFile job.files job.path >>= ACL.fromCSV job.host.acl with
    | ok data =>
      constructor
      · intro h
        cases h
        exact ⟨_, ⟨data, rfl, rfl⟩, rfl⟩
      · rintro ⟨-, ⟨data', h, rfl⟩, rfl⟩
        cases h
        rfl
    | error e =>
      constructor
      · intro h
        cases e <;> cases h
      · rintro ⟨-, ⟨data', h, -⟩, -⟩
        cases h

end Links

end CallFwd
