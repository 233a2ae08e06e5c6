/-
# The tables as their last acknowledged loads

What is in the tables of a daemon that has served some control messages?  A client of the control
socket sees its messages and the status bytes it got, nothing else.  This is enough: a table holds
what the lines of the file build that the last load answered 'S' named for it, and nothing where no
load of it was answered 'S'.  A load that was refused, one that got no answer, and every other
command leave it alone.

A `Ledger` is what a client can write down, `Ledger.record` what it writes for one message and its
answer.  `Represents` relates it to the pointers, `represents_step` is the step, and `run_represents`
the run from the start of the daemon.
-/
import CallFwd.Control.Runs
import CallFwd.Daemon.Reload
import CallFwd.Lib.Run

namespace CallFwd

open Lib

/-! ## 1. The ledger -/

/-- The load of a command. -/
def Command.load : Command → Option Load
  | .reload => some .mapping
  | .table r => some (.table r)
  | .acl => some .acl
  | _ => none

/-- The table a load is for. -/
def Job.target (job : Job) : Except Stop Table :=
  match job.load with
  | .mapping => do return if ← isCanada job.host job.metadata then .ca else .us
  | .table r => .ok r.table
  | .acl => .ok .acl

/-- What a message says: its command, and the paths and the metadata it comes with. -/
def Request.decode (host : Host) (r : Request) : Except Stop (Command × Text × Text × Dynamic) := do
  let cmd ← (← r.msg.getDefault "cmd" .null).asString host.showDouble
  let stdin ← descriptor r.argfd r.msg "stdin"
  let stdout ← descriptor r.argfd r.msg "stdout"
  let _stderr ← descriptor r.argfd r.msg "stderr"
  let metadata ← metadataOf r.msg
  return (Command.ofText cmd, fdPath stdin, fdPath stdout, metadata)

/-- The load a message asks for. -/
def Request.job (host : Host) (r : Request) : Option Job :=
  match r.decode host with
  | .ok (cmd, stdin, _, metadata) =>
    cmd.load.map fun load => ⟨load, host, r.env.files, stdin, metadata⟩
  | .error _ => none

/-- A load that was answered 'S', and the contents of its file. -/
structure Acknowledged where
  job : Job
  content : Text

/-- For each table the load that was acknowledged last. -/
abbrev Ledger := Table → Option Acknowledged

namespace Ledger

def empty : Ledger := fun _ => none

/-- What is written down for a message and the bytes it was answered with. -/
def record (host : Host) (ledger : Ledger) (x : Request × List Char) : Ledger :=
  if x.2 = ['S'] then
    match x.1.job host with
    | some job =>
      match job.target, job.files job.path with
      | .ok t, some content => Function.update ledger t (some ⟨job, content⟩)
      | _, _ => ledger
    | none => ledger
  else ledger

/-- What is written down for a run. -/
def after (host : Host) (xs : List (Request × List Char)) : Ledger := xs.foldl (record host) empty

end Ledger

/-- Serving a message, as the client sees it: the message and the bytes of the answer. -/
def Served (host : Host) (g : Globals) (x : Request × List Char) (g' : Globals) : Prop :=
  ∃ reply, x.1.serve host g = .ok reply ∧ reply.sent = x.2 ∧ reply.globals = g'

/-- A load that succeeds: it has read its file to the end, and made the dataset of all lines. -/
structure Job.Loads (job : Job) (content : Text) (f : Filled) : Prop where
  file : job.files job.path = some content
  outcome : job.outcome = .ok f
  dataset : job.dataset content = .ok f

/-- **The pointers are what the ledger says**: null where nothing is written down, and otherwise the
dataset of all the lines of the file. -/
structure Represents (g : Globals) (ledger : Ledger) : Prop where
  null : ∀ t, ledger t = none → g t = none
  holds : ∀ t a, ledger t = some a → ∃ d, g t = some d ∧ a.job.Loads a.content ⟨t, d⟩

theorem represents_initial : Represents Globals.initial Ledger.empty where
  null _ _ := rfl
  holds _ _ h := by cases h

/-! ## 2. One message -/

variable {host : Host} {r : Request} {g g' : Globals} {ledger : Ledger}

/-- The reply to a message, by what its command came to. -/
def Request.replyTo (r : Request) (g : Globals) : Except Stop (Bool × Globals) → Except Fault Reply
  | .ok (success, g') => .ok ⟨[if success then 'S' else 'F'], r.argfd, g'⟩
  | .error (.exn _) => .ok ⟨[], [], g⟩
  | .error (.undefined f) => .error f

/-- Serving a message: decoding it and running its command. -/
theorem Request.serve_eq (host : Host) (r : Request) (g : Globals) :
    r.serve host g = r.replyTo g (r.decode host >>= fun x =>
      x.1.run host r.env x.2.1 x.2.2.1 x.2.2.2 g) := by
  have hserve : CallFwd.serve host r.env r.argfd r.msg g = r.decode host >>= fun x =>
      x.1.run host r.env x.2.1 x.2.2.1 x.2.2.2 g := by
    simp only [CallFwd.serve, Request.decode, bind_assoc]
    rfl
  rw [Request.serve, dispatch, hserve]
  rfl

theorem Request.serve_of_ok {cmd : Command} {stdin stdout : Text} {metadata : Dynamic}
    (hdec : r.decode host = .ok (cmd, stdin, stdout, metadata)) (g : Globals) :
    r.serve host g = r.replyTo g (cmd.run host r.env stdin stdout metadata g) := by
  rw [Request.serve_eq, hdec]
  rfl

theorem Request.serve_of_error {e : Stop} (hdec : r.decode host = .error e) (g : Globals) :
    r.serve host g = r.replyTo g (.error e) := by
  rw [Request.serve_eq, hdec]
  rfl

theorem Command.load_eq_some {cmd : Command} {load : Load} (h : cmd.load = some load) :
    cmd = load.command := by
  cases cmd with
  | reload => cases h; rfl
  | table r => cases h; rfl
  | acl => cases h; rfl
  | _ => cases h

theorem Loader.finish_false {t : Table} {L : Loader (Dataset t)} {o : Option (Dataset t)}
    (h : L.finish g o = (false, g')) : g' = g := by
  cases o with
  | none => cases h; rfl
  | some d => cases h

/-- A load that fails changes nothing. -/
theorem Loader.loadFile_false {t : Table} {L : Loader (Dataset t)} {files : Files} {path : Text}
    {metadata : Dynamic} (h : L.loadFile host files path metadata g = .ok (false, g')) :
    g' = g := by
  obtain ⟨estimate, -, h⟩ := bind_eq_ok.mp h
  obtain ⟨o, -, h⟩ := map_eq_ok.mp h
  exact Loader.finish_false h.symm

theorem loadMappingFile_false {files : Files} {path : Text} {metadata : Dynamic}
    (h : loadMappingFile host files path metadata g = .ok (false, g')) : g' = g := by
  obtain ⟨estimate, -, h⟩ := bind_eq_ok.mp h
  obtain ⟨canada, -, h⟩ := bind_eq_ok.mp h
  obtain ⟨data, -, h⟩ := bind_eq_ok.mp h
  cases canada with
  | true => exact Loader.finish_false (Except.ok.inj h)
  | false => exact Loader.finish_false (Except.ok.inj h)

theorem loadACLFile_false {files : Files} {path : Text}
    (h : loadACLFile host files path g = .ok (false, g')) : g' = g := by
  unfold loadACLFile at h
  split at h
  · cases h
  · cases h; rfl
  · cases h

/-- A command that is no load, and a load that fails, change nothing. -/
theorem Command.run_keeps {env : Env} {stdin stdout : Text} {metadata : Dynamic} {cmd : Command}
    {success : Bool} (hrun : cmd.run host env stdin stdout metadata g = .ok (success, g'))
    (h : cmd.load = none ∨ success = false) : g' = g := by
  cases cmd with
  | reload =>
    cases h.resolve_left (Option.some_ne_none _)
    exact loadMappingFile_false hrun
  | table r =>
    cases h.resolve_left (Option.some_ne_none _)
    rw [Command.run, Reload.run_eq] at hrun
    exact Loader.loadFile_false hrun
  | acl =>
    cases h.resolve_left (Option.some_ne_none _)
    exact loadACLFile_false hrun
  | verify =>
    obtain ⟨same, -, hrun⟩ := bind_eq_ok.mp hrun
    cases hrun
    rfl
  | dump =>
    obtain ⟨written, -, hrun⟩ := bind_eq_ok.mp hrun
    cases hrun
    rfl
  | metadata =>
    obtain ⟨u, -, hrun⟩ := bind_eq_ok.mp hrun
    cases hrun
    rfl
  | unrecognized =>
    cases hrun
    rfl

/-- How a dataset comes about: a mapping, one of the other tables, or the access list. -/
theorem Job.dataset_cases {job : Job} {content : Text} {f : Filled}
    (h : job.dataset content = .ok f) :
    (job.load = .mapping ∧ ∃ canada d, isCanada job.host job.metadata = .ok canada ∧
      PhoneMapping.loader.foldLines job.metadata content = .ok d ∧
      f = if canada then ⟨.ca, d.build⟩ else ⟨.us, d.build⟩) ∨
    (∃ r d, job.load = .table r ∧ r.loader.foldLines job.metadata content = .ok d ∧
      f = ⟨r.table, r.loader.build d⟩) ∨
    job.load = .acl ∧ ∃ d, f = ⟨.acl, d⟩ := by
  cases hload : job.load with
  | mapping =>
    simp only [Job.dataset, hload] at h
    obtain ⟨canada, hcan, h⟩ := bind_eq_ok.mp h
    obtain ⟨d, hfold, h⟩ := bind_eq_ok.mp h
    exact .inl ⟨rfl, canada, d, hcan, hfold, (Except.ok.inj h).symm⟩
  | table r =>
    simp only [Job.dataset, hload] at h
    obtain ⟨d, hfold, h⟩ := bind_eq_ok.mp h
    exact .inr (.inl ⟨r, d, rfl, hfold, (Except.ok.inj h).symm⟩)
  | acl =>
    simp only [Job.dataset, hload] at h
    obtain ⟨st, -, h⟩ := bind_eq_ok.mp h
    exact .inr (.inr ⟨rfl, st.1, (Except.ok.inj h).symm⟩)

/-- The table a thread fills is the one its job is for. -/
theorem Job.target_of_dataset {job : Job} {content : Text} {f : Filled}
    (h : job.dataset content = .ok f) : job.target = .ok f.1 := by
  rcases Job.dataset_cases h with ⟨hload, canada, d, hcan, -, rfl⟩ | ⟨r, d, hload, -, rfl⟩ |
    ⟨hload, d, rfl⟩
  · simp only [Job.target, hload, hcan]
    cases canada <;> rfl
  · simp only [Job.target, hload]
  · simp only [Job.target, hload]

/-- **One message**: an answer 'S' to a load has committed what all lines of its file build; after
anything else the pointers are those before. -/
theorem Served.cases {bytes : List Char} (h : Served host g (r, bytes) g') :
    (bytes = ['S'] ∧ ∃ job content f, r.job host = some job ∧ job.Loads content f ∧
      g' = g.commit f.1 f.2) ∨
    ((bytes = ['S'] → r.job host = none) ∧ g' = g) := by
  obtain ⟨reply, hserve, rfl, rfl⟩ := h
  cases hdec : r.decode host with
  | error e =>
    have hjob : r.job host = none := by
      rw [Request.job, hdec]
    rw [Request.serve_of_error hdec] at hserve
    refine .inr ⟨fun _ => hjob, ?_⟩
    cases e with
    | exn e => cases hserve; rfl
    | undefined f => cases hserve
  | ok x =>
    obtain ⟨cmd, stdin, stdout, metadata⟩ := x
    have hjob : r.job host = cmd.load.map fun load => ⟨load, host, r.env.files, stdin, metadata⟩ := by
      rw [Request.job, hdec]
    rw [Request.serve_of_ok hdec] at hserve
    cases hrun : cmd.run host r.env stdin stdout metadata g with
    | error e =>
      rw [hrun] at hserve
      cases e with
      | undefined f => cases hserve
      | exn e =>
        cases hserve
        refine .inr ⟨?_, rfl⟩
        intro hS
        cases hS
    | ok out =>
      obtain ⟨success, g''⟩ := out
      rw [hrun] at hserve
      cases hserve
      cases success with
      | false =>
        refine .inr ⟨?_, Command.run_keeps hrun (.inr rfl)⟩
        intro hS
        cases hS
      | true =>
        cases hload : cmd.load with
        | none => exact .inr ⟨fun _ => by rw [hjob, hload]; rfl, Command.run_keeps hrun (.inl hload)⟩
        | some load =>
          rw [Command.load_eq_some hload] at hrun
          obtain ⟨f, hout, hg⟩ := (@Job.run_eq_true_iff ⟨load, host, r.env.files, stdin, metadata⟩
            r.env.sinks stdout g g'').mp hrun
          obtain ⟨content, hfile, hdata⟩ := Job.dataset_of_outcome hout
          refine .inl ⟨rfl, _, content, f, ?_, ⟨hfile, hout, hdata⟩, hg⟩
          rw [hjob, hload]
          rfl

/-- A message whose fields have what they are asked for. -/
theorem Decodes.decode {cmd : Text} {stdin stdout : ℤ} {metadata : Dynamic}
    (h : Decodes r.argfd r.msg cmd stdin stdout metadata) :
    r.decode host = .ok (Command.ofText cmd, fdPath stdin, fdPath stdout, metadata) := by
  obtain ⟨fd, hfd⟩ := h.stderr
  simp only [Request.decode, h.cmd, h.stdin, h.stdout, hfd, h.metadata, Dynamic.asString]
  rfl

/-- A command that leaves a status is served with it. -/
theorem Decodes.served {cmd : Text} {stdin stdout : ℤ} {metadata : Dynamic} {success : Bool}
    (hdec : Decodes r.argfd r.msg cmd stdin stdout metadata)
    (hrun : (Command.ofText cmd).run host r.env (fdPath stdin) (fdPath stdout) metadata g =
      .ok (success, g')) : Served host g (r, [if success then 'S' else 'F']) g' := by
  refine ⟨⟨[if success then 'S' else 'F'], r.argfd, g'⟩, ?_, rfl, rfl⟩
  rw [Request.serve, dispatch, hdec.serve_eq, hrun]

/-- **The step of the simulation.** -/
theorem represents_step {x : Request × List Char} (hrep : Represents g ledger)
    (h : Served host g x g') : Represents g' (ledger.record host x) := by
  obtain ⟨r, bytes⟩ := x
  rcases h.cases with ⟨rfl, job, content, f, hjob, hloads, rfl⟩ | ⟨hjob, rfl⟩
  · have hrecord : ledger.record host (r, ['S']) =
        Function.update ledger f.1 (some ⟨job, content⟩) := by
      simp only [Ledger.record, hjob, Job.target_of_dataset hloads.dataset,
        hloads.file, if_true]
    rw [hrecord]
    refine ⟨?_, ?_⟩
    · intro t hnone
      by_cases ht : t = f.1
      · subst ht
        rw [Function.update_self] at hnone
        cases hnone
      · rw [Function.update_of_ne ht] at hnone
        rw [Globals.commit_of_ne _ _ ht]
        exact hrep.null t hnone
    · intro t a hsome
      by_cases ht : t = f.1
      · subst ht
        rw [Function.update_self] at hsome
        cases hsome
        exact ⟨f.2, Globals.commit_self _ _ _, hloads⟩
      · rw [Function.update_of_ne ht] at hsome
        rw [Globals.commit_of_ne _ _ ht]
        exact hrep.holds t a hsome
  · have hrecord : ledger.record host (r, bytes) = ledger := by
      unfold Ledger.record
      split
      · rename_i hS
        simp only [hjob hS]
      · rfl
    rw [hrecord]
    exact hrep

/-! ## 3. A run -/

/-- **The tables are the last acknowledged loads.**  In every run of control messages from the start
of the daemon, of whatever commands, files and metadata, well formed or not, the state is the one
the client wrote down from its messages and the status bytes. -/
theorem run_represents {xs : List (Request × List Char)}
    (h : Run (Served host) Globals.initial xs g) : Represents g (Ledger.after host xs) :=
  h.foldl (fun _ _ _ _ hrep hstep => represents_step hrep hstep) represents_initial

/-- A message with the contents of its one file. -/
def Request.ofFile (cmd content : String) : Request :=
  ⟨⟨fun _ => some (Dynamic.text content), fun _ => none⟩, [7], fileMessage cmd⟩

theorem decodes_ofFile (cmd content : String) :
    Decodes (Request.ofFile cmd content).argfd (Request.ofFile cmd content).msg (Dynamic.text cmd) 7
      (-1) (.object []) :=
  decodes_fileMessage cmd

/-- `reload` of one row, and then of a file that is refused. -/
theorem run_represents_two :
    ∃ g, Run (Served Host.plain) Globals.initial
        [(Request.ofFile "reload" "1,2\n", ['S']), (Request.ofFile "reload" "x\n", ['F'])] g ∧
      Represents g (Ledger.after Host.plain
        [(Request.ofFile "reload" "1,2\n", ['S']), (Request.ofFile "reload" "x\n", ['F'])]) := by
  have hrow : Loadable (Dynamic.text "1,2\n") [(1, 2)] := ⟨by decide, by decide, by decide⟩
  have hno : ¬ ∃ rows, Loadable (Dynamic.text "x\n") rows := by
    rintro ⟨rows, hrows, -⟩
    revert hrows
    have hnone : (pieces '\n' (Dynamic.text "x\n")).mapM PhoneMapping.rowOf = none := by decide
    rw [hnone]
    nofun
  obtain ⟨d, -, hload⟩ := @loadMappingFile_loadable Host.plain
    (Request.ofFile "reload" "1,2\n").env.files (fdPath 7) _ (.object []) Globals.initial 0 false
    rfl rfl rfl ⟨0, rfl, by decide⟩ _ hrow (by decide)
  have hrefuse := @loadMappingFile_refused Host.plain (Request.ofFile "reload" "x\n").env.files
    (fdPath 7) _ (.object []) (commitMapping Globals.initial false d.build) 0 false rfl rfl rfl
    ⟨0, rfl, by decide⟩ fun h => absurd h hno
  have hrun : Run (Served Host.plain) Globals.initial
      [(Request.ofFile "reload" "1,2\n", ['S']), (Request.ofFile "reload" "x\n", ['F'])]
      (commitMapping Globals.initial false d.build) :=
    .cons ((decodes_ofFile "reload" "1,2\n").served hload)
      (.cons ((decodes_ofFile "reload" "x\n").served hrefuse) (.nil _))
  exact ⟨_, hrun, run_represents hrun⟩

end CallFwd
