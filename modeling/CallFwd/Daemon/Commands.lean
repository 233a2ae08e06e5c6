/-
# Control commands, each in a thread of its own

`operator()` starts a thread for every message and reads on, so the commands of several clients run
at the same time.  What they share is the pointers.  A load reads its file first and then exchanges
one of them; `verify` and `dump` load one and work on what they got; `meta` loads five, one after
the other.  A step here is the part of a thread up to its next access to a pointer, or the sending
of its status.

`order` is a ghost: the messages in the order in which they took effect, with their answers.
`linearizable` reads the result off its invariant: every schedule is a sequential run of the
messages in this order.
-/
import CallFwd.Daemon.Ledger

namespace CallFwd

open Lib

/-! ## 1. A load, up to its exchange -/

/-- What a load comes to: a dataset for a table, or nothing where it is refused. -/
def Job.result (job : Job) : Except Stop (Option Filled) :=
  match job.load with
  | .mapping => do
    let estimate ← rowEstimate job.host job.path job.metadata
    let canada ← isCanada job.host job.metadata
    let data ← PhoneMapping.loader.readTable job.host job.files job.path job.metadata estimate
    return data.map fun d =>
      if canada then ⟨.ca, PhoneMapping.loader.build d⟩ else ⟨.us, PhoneMapping.loader.build d⟩
  | .table r => do
    let estimate ← rowEstimate job.host job.path job.metadata
    let data ← r.loader.readTable job.host job.files job.path job.metadata estimate
    return data.map fun d => ⟨r.table, r.loader.build d⟩
  | .acl =>
    match openFile job.files job.path >>= ACL.fromCSV job.host.acl with
    | .ok data => .ok (some ⟨.acl, data⟩)
    | .error (.exn _) => .ok none
    | .error (.undefined f) => .error (.undefined f)

/-- The exchange, where there is something to exchange. -/
def exchange (g : Globals) : Option Filled → Globals
  | some f => g.commit f.1 f.2
  | none => g

/-- **A load is its result, and then its exchange**: it reads no pointer. -/
theorem Job.run_eq_result (job : Job) (sinks : Sinks) (stdoutPath : Text) (g : Globals) :
    job.load.command.run job.host ⟨job.files, sinks⟩ job.path stdoutPath job.metadata g =
      (fun o => (o.isSome, exchange g o)) <$> job.result := by
  cases hload : job.load with
  | mapping =>
    simp only [Load.command, Command.run, loadMappingFile, Job.result, hload]
    cases rowEstimate job.host job.path job.metadata with
    | error e => rfl
    | ok estimate =>
      cases isCanada job.host job.metadata with
      | error e => rfl
      | ok canada =>
        cases hread : PhoneMapping.loader.readTable job.host job.files job.path job.metadata
            estimate with
        | error e =>
          simp only [bind, Except.bind, hread]
          rfl
        | ok data =>
          simp only [bind, Except.bind, hread]
          cases data <;> cases canada <;> rfl
  | table r =>
    simp only [Load.command, Command.run, Reload.run_eq, Loader.loadFile, Job.result, hload]
    cases rowEstimate job.host job.path job.metadata with
    | error e => rfl
    | ok estimate =>
      cases hread : r.loader.readTable job.host job.files job.path job.metadata estimate with
      | error e =>
        simp only [bind, Except.bind, hread]
        rfl
      | ok data =>
        simp only [bind, Except.bind, hread]
        cases data <;> rfl
  | acl =>
    simp only [Load.command, Command.run, loadACLFile, Job.result, hload]
    cases openFile job.files job.path >>= ACL.fromCSV job.host.acl with
    | ok data => rfl
    | error e => cases e <;> rfl

/-! ## 2. The threads -/

/-- How far a thread is. -/
inductive Stage
  | arrived
  /-- A load before its exchange. -/
  | built (o : Except Stop (Option Filled))
  /-- `meta` before the table with this number. -/
  | printing (n : ℕ)
  /-- Before the sending of the status. -/
  | done (bytes : List Char)
  | answered (bytes : List Char)

/-- The answer that is settled. -/
def Stage.settled : Stage → Option (List Char)
  | .done bytes | .answered bytes => some bytes
  | _ => none

/-- What `dispatch` sends for a command that came to this; after undefined behaviour there is no
step. -/
def statusBytes : Except Stop Bool → Option (List Char)
  | .ok success => some [if success then 'S' else 'F']
  | .error (.exn _) => some []
  | .error (.undefined _) => none

/-- A step of a thread that finds the pointers `g`: its next stage, and what it exchanges. -/
def Request.advance (host : Host) (r : Request) (g : Globals) : Stage → Option (Stage × Option Filled)
  | .arrived =>
    match r.decode host with
    | .ok (cmd, stdin, stdout, metadata) =>
      match cmd.load with
      | some load =>
        some (.built (Job.result ⟨load, host, r.env.files, stdin, metadata⟩), none)
      | none =>
        if cmd = .metadata then some (.printing 0, none)
        else (statusBytes (Prod.fst <$> cmd.run host r.env stdin stdout metadata g)).map fun bytes =>
          (.done bytes, none)
    | .error (.exn _) => some (.done [], none)
    | .error (.undefined _) => none
  | .built o => (statusBytes (Option.isSome <$> o)).map fun bytes =>
      (.done bytes, o.toOption.join)
  | .printing n =>
    match g.printed[n]? with
    | none => some (.done ['S'], none)
    | some table =>
      match printMetadata table with
      | .ok _ => some (.printing (n + 1), none)
      | .error (.exn _) => some (.done [], none)
      | .error (.undefined _) => none
  | .done bytes => some (.answered bytes, none)
  | .answered _ => none

/-- The command is `meta`, which takes effect at no one moment, and has none. -/
def Request.printsMetadata (host : Host) (r : Request) : Bool :=
  match r.decode host with
  | .ok (.metadata, _) => true
  | _ => false

structure Server where
  globals : Globals
  threads : List (Request × Stage)
  order : List (ℕ × Request × List Char)

def Server.initial : Server := ⟨.initial, [], []⟩

/-- A message arrives, or thread `i` takes a step. -/
inductive Move
  | arrive (r : Request)
  | step (i : ℕ)

/-- What a step adds to the order: the answer it settles. -/
def settles (host : Host) (i : ℕ) (r : Request) (st st' : Stage) : List (ℕ × Request × List Char) :=
  match st.settled, st'.settled with
  | none, some bytes => if r.printsMetadata host then [] else [(i, r, bytes)]
  | _, _ => []

def Server.move (host : Host) (s : Server) : Move → Server
  | .arrive r => { s with threads := s.threads ++ [(r, .arrived)] }
  | .step i =>
    match s.threads[i]? with
    | some (r, st) =>
      match r.advance host s.globals st with
      | some (st', o) =>
        { globals := exchange s.globals o
          threads := s.threads.set i (r, st')
          order := s.order ++ settles host i r st st' }
      | none => s
    | none => s

def Server.exec (host : Host) (s : Server) (schedule : List Move) : Server :=
  schedule.foldl (Server.move host) s

/-! ## 3. One step -/

variable {host : Host} {r : Request} {g : Globals} {st st' : Stage} {o : Option Filled}

/-- What a thread in a stage is about. -/
def Stage.Fits (host : Host) (r : Request) : Stage → Prop
  | .built o => r.printsMetadata host = false ∧ ∃ cmd load stdin stdout metadata,
      r.decode host = .ok (cmd, stdin, stdout, metadata) ∧ cmd.load = some load ∧
        o = Job.result ⟨load, host, r.env.files, stdin, metadata⟩
  | .printing _ => r.printsMetadata host = true
  | _ => True

/-- A message that does not decode, or whose command throws, is served without an answer; one whose
command comes to its end is answered with the status. -/
theorem served_of_statusBytes {cmd : Command} {stdin stdout : Text} {metadata : Dynamic}
    {bytes : List Char} {g' : Globals} {x : Except Stop Bool}
    (hdec : r.decode host = .ok (cmd, stdin, stdout, metadata))
    (hrun : cmd.run host r.env stdin stdout metadata g = (fun success => (success, g')) <$> x)
    (hbytes : statusBytes x = some bytes) (he : ∀ e, x = .error e → g' = g) :
    Served host g (r, bytes) g' := by
  rw [Served, Request.serve_of_ok hdec, hrun]
  cases x with
  | ok success =>
    cases hbytes
    exact ⟨_, rfl, rfl, rfl⟩
  | error e =>
    cases e with
    | exn e =>
      cases hbytes
      exact ⟨_, rfl, rfl, (he _ rfl).symm⟩
    | undefined f => cases hbytes

theorem printsMetadata_of_load {cmd : Command} {load : Load} {stdin stdout : Text}
    {metadata : Dynamic} (hdec : r.decode host = .ok (cmd, stdin, stdout, metadata))
    (hload : cmd.load = some load) : r.printsMetadata host = false := by
  rw [Request.printsMetadata, hdec]
  cases cmd with
  | metadata => cases hload
  | _ => rfl

/-- A command without a load leaves the pointers as they are, whatever it comes to. -/
theorem Command.run_eq_map {env : Env} {stdin stdout : Text} {metadata : Dynamic} {cmd : Command}
    (hload : cmd.load = none) : cmd.run host env stdin stdout metadata g =
      (fun success => (success, g)) <$> (Prod.fst <$> cmd.run host env stdin stdout metadata g) := by
  cases hrun : cmd.run host env stdin stdout metadata g with
  | error e => rfl
  | ok out =>
    obtain ⟨success, g'⟩ := out
    cases Command.run_keeps hrun (.inl hload)
    rfl

/-- **One step of a thread**: it stays what it is about; and it settles its answer, and is the
serving of its message on the pointers that it found, or it leaves the pointers alone. -/
theorem Request.advance_cases (hfits : st.Fits host r)
    (h : r.advance host g st = some (st', o)) :
    st'.Fits host r ∧
      ((st.settled = none ∧ r.printsMetadata host = false ∧
          ∃ bytes, st'.settled = some bytes ∧ Served host g (r, bytes) (exchange g o)) ∨
        (o = none ∧ (st.settled = st'.settled ∨ r.printsMetadata host = true))) := by
  cases st with
  | arrived =>
    simp only [Request.advance] at h
    cases hdec : r.decode host with
    | error e =>
      rw [hdec] at h
      cases e with
      | undefined f => cases h
      | exn e =>
        cases h
        refine ⟨trivial, .inl ⟨rfl, ?_, [], rfl, ?_⟩⟩
        · rw [Request.printsMetadata, hdec]
        · exact ⟨⟨[], [], g⟩, Request.serve_of_error hdec g, rfl, rfl⟩
    | ok x =>
      obtain ⟨cmd, stdin, stdout, metadata⟩ := x
      simp only [hdec] at h
      cases hload : cmd.load with
      | some load =>
        simp only [hload] at h
        cases h
        refine ⟨⟨printsMetadata_of_load hdec hload, cmd, load, stdin, stdout, metadata, hdec, hload,
          rfl⟩, .inr ⟨rfl, .inl rfl⟩⟩
      | none =>
        simp only [hload] at h
        by_cases hmeta : cmd = .metadata
        · rw [if_pos hmeta] at h
          cases h
          have hprints : r.printsMetadata host = true := by
            rw [Request.printsMetadata, hdec, hmeta]
          exact ⟨hprints, .inr ⟨rfl, .inl rfl⟩⟩
        · rw [if_neg hmeta] at h
          obtain ⟨bytes, hbytes, h⟩ := Option.map_eq_some_iff.mp h
          cases h
          refine ⟨trivial, .inl ⟨rfl, ?_, bytes, rfl, ?_⟩⟩
          · rw [Request.printsMetadata, hdec]
            cases cmd with
            | metadata => exact absurd rfl hmeta
            | _ => rfl
          · exact served_of_statusBytes hdec (Command.run_eq_map hload) hbytes fun _ _ => rfl
  | built o' =>
    obtain ⟨hno, cmd, load, stdin, stdout, metadata, hdec, hload, rfl⟩ := hfits
    obtain ⟨bytes, hbytes, h⟩ := Option.map_eq_some_iff.mp h
    cases h
    refine ⟨trivial, .inl ⟨rfl, hno, bytes, rfl, ?_⟩⟩
    have hrun := Job.run_eq_result ⟨load, host, r.env.files, stdin, metadata⟩ r.env.sinks stdout g
    rw [← Command.load_eq_some hload] at hrun
    refine served_of_statusBytes hdec ?_ hbytes ?_
    · refine hrun.trans ?_
      cases Job.result ⟨load, host, r.env.files, stdin, metadata⟩ <;> rfl
    · intro e he
      cases hres : Job.result ⟨load, host, r.env.files, stdin, metadata⟩ with
      | error e' => rfl
      | ok o =>
        rw [hres] at he
        cases he
  | printing n =>
    have hprints : r.printsMetadata host = true := hfits
    simp only [Request.advance] at h
    split at h
    · cases h
      exact ⟨trivial, .inr ⟨rfl, .inr hprints⟩⟩
    · split at h
      · cases h
        exact ⟨hprints, .inr ⟨rfl, .inl rfl⟩⟩
      · cases h
        exact ⟨trivial, .inr ⟨rfl, .inr hprints⟩⟩
      · cases h
  | done bytes =>
    cases h
    exact ⟨trivial, .inr ⟨rfl, .inl rfl⟩⟩
  | answered bytes => cases h

/-! ## 4. All schedules -/

/-- **The invariant**: the order is a sequential run to the pointers as they are, and it has each
message whose answer is settled, once and with this answer. -/
structure Orderly (host : Host) (s : Server) : Prop where
  run : Run (Served host) Globals.initial (s.order.map Prod.snd) s.globals
  fits : ∀ th ∈ s.threads, th.2.Fits host th.1
  once : (s.order.map Prod.fst).Nodup
  settled : ∀ i r bytes, (i, r, bytes) ∈ s.order ↔ r.printsMetadata host = false ∧
    ∃ st, s.threads[i]? = some (r, st) ∧ st.settled = some bytes

theorem orderly_initial : Orderly host Server.initial where
  run := .nil _
  fits _ h := by cases h
  once := .nil
  settled i r bytes := by simp [Server.initial]

/-- A thread that has settled nothing is not in the order. -/
theorem Orderly.not_mem {s : Server} (h : Orderly host s) {i : ℕ}
    (hi : s.threads[i]? = some (r, st)) (hst : st.settled = none) : i ∉ s.order.map Prod.fst := by
  intro hmem
  obtain ⟨⟨k, r', bytes⟩, hentry, rfl⟩ := List.mem_map.mp hmem
  obtain ⟨-, st', hi', hst'⟩ := (h.settled k r' bytes).mp hentry
  cases hi.symm.trans hi'
  rw [hst] at hst'
  cases hst'

theorem fits_set {threads : List (Request × Stage)} {i : ℕ}
    (old : ∀ th ∈ threads, th.2.Fits host th.1) (new : st'.Fits host r) :
    ∀ th ∈ threads.set i (r, st'), th.2.Fits host th.1 := by
  intro th hth
  rcases List.mem_or_eq_of_mem_set hth with hth | rfl
  · exact old th hth
  · exact new

/-- A message arrives. -/
theorem Orderly.arrive {s : Server} (h : Orderly host s) (r : Request) :
    Orderly host (s.move host (.arrive r)) where
  run := h.run
  fits := by
    intro th hth
    rcases List.mem_append.mp hth with hth | hth
    · exact h.fits th hth
    · cases List.mem_singleton.mp hth
      trivial
  once := h.once
  settled := by
    intro i r' bytes
    refine (h.settled i r' bytes).trans (and_congr_right fun _ => exists_congr fun st => ?_)
    change s.threads[i]? = some (r', st) ∧ _ ↔ (s.threads ++ [(r, Stage.arrived)])[i]? = _ ∧ _
    rcases Nat.lt_trichotomy i s.threads.length with lt | rfl | gt
    · rw [List.getElem?_append_left lt]
    · rw [List.getElem?_concat_length, List.getElem?_eq_none (le_refl _)]
      refine iff_of_false nofun ?_
      rintro ⟨heq, hst⟩
      cases heq
      cases hst
    · have hlen : (s.threads ++ [(r, Stage.arrived)]).length ≤ i := by
        rw [List.length_append]
        exact gt
      rw [List.getElem?_eq_none hlen, List.getElem?_eq_none (by omega)]

section Step

variable {s : Server} {i : ℕ}

/-- What the other threads have settled is as before. -/
theorem settled_set (hi : s.threads[i]? = some (r, st)) (k : ℕ) (r' : Request)
    (bytes : List Char) :
    (∃ st'', (s.threads.set i (r, st'))[k]? = some (r', st'') ∧ st''.settled = some bytes) ↔
      (i = k ∧ r = r' ∧ st'.settled = some bytes) ∨
        (i ≠ k ∧ ∃ st'', s.threads[k]? = some (r', st'') ∧ st''.settled = some bytes) := by
  have lt : i < s.threads.length := (List.getElem?_eq_some_iff.mp hi).1
  rw [List.getElem?_set]
  by_cases e : i = k
  · subst e
    rw [if_pos rfl, if_pos lt]
    constructor
    · rintro ⟨st'', heq, hst⟩
      cases heq
      exact .inl ⟨rfl, rfl, hst⟩
    · rintro (⟨-, rfl, hst⟩ | ⟨hne, -⟩)
      · exact ⟨st', rfl, hst⟩
      · exact absurd rfl hne
  · rw [if_neg e]
    constructor
    · exact fun h => .inr ⟨e, h⟩
    · rintro (⟨heq, -⟩ | ⟨-, h⟩)
      · exact absurd heq e
      · exact h

/-- A step that settles nothing. -/
theorem Orderly.quiet (h : Orderly host s) (hi : s.threads[i]? = some (r, st))
    (hfits : st'.Fits host r)
    (hsame : st.settled = st'.settled ∨ r.printsMetadata host = true) :
    Orderly host { s with threads := s.threads.set i (r, st') } where
  run := h.run
  fits := fits_set h.fits hfits
  once := h.once
  settled := by
    intro k r' bytes
    rw [h.settled, settled_set hi]
    refine and_congr_right fun hno => ?_
    by_cases e : i = k
    · subst e
      constructor
      · rintro ⟨st'', heq, hst⟩
        cases hi.symm.trans heq
        rcases hsame with hsame | hmeta
        · exact .inl ⟨rfl, rfl, hsame ▸ hst⟩
        · rw [hno] at hmeta
          cases hmeta
      · rintro (⟨-, rfl, hst⟩ | ⟨hne, -⟩)
        · rcases hsame with hsame | hmeta
          · exact ⟨st, hi, hsame.trans hst⟩
          · rw [hno] at hmeta
            cases hmeta
        · exact absurd rfl hne
    · exact ⟨fun h => .inr ⟨e, h⟩, fun h => (h.resolve_left fun h => e h.1).2⟩

/-- A step in which the command takes effect. -/
theorem Orderly.settle (h : Orderly host s) (hi : s.threads[i]? = some (r, st))
    (hfits : st'.Fits host r) (hst : st.settled = none) (hno : r.printsMetadata host = false)
    {bytes : List Char} {g' : Globals} (hst' : st'.settled = some bytes)
    (hserved : Served host s.globals (r, bytes) g') :
    Orderly host ⟨g', s.threads.set i (r, st'), s.order ++ [(i, r, bytes)]⟩ where
  run := by
    rw [List.map_append]
    exact h.run.append (.cons hserved (.nil _))
  fits := fits_set h.fits hfits
  once := by
    rw [List.map_append, List.nodup_append]
    refine ⟨h.once, List.nodup_singleton _, ?_⟩
    rintro k hk k' hk' rfl
    cases List.mem_singleton.mp hk'
    exact h.not_mem hi hst hk
  settled := by
    intro k r' bytes'
    rw [List.mem_append, List.mem_singleton, h.settled, settled_set hi]
    constructor
    · rintro (⟨hno', st'', hk, hst''⟩ | heq)
      · refine ⟨hno', .inr ⟨?_, st'', hk, hst''⟩⟩
        rintro rfl
        cases hi.symm.trans hk
        rw [hst] at hst''
        cases hst''
      · cases heq
        exact ⟨hno, .inl ⟨rfl, rfl, hst'⟩⟩
    · rintro ⟨hno', ⟨rfl, rfl, hst''⟩ | ⟨-, hk⟩⟩
      · cases hst'.symm.trans hst''
        exact .inr rfl
      · exact .inl ⟨hno', hk⟩

theorem settles_of_same (hsame : st.settled = st'.settled ∨ r.printsMetadata host = true) :
    settles host i r st st' = [] := by
  unfold settles
  split
  · rename_i bytes hst hst'
    rcases hsame with hsame | hmeta
    · rw [hst, hst'] at hsame
      cases hsame
    · rw [if_pos hmeta]
  · rfl

/-- Thread `i` takes a step. -/
theorem Orderly.step (h : Orderly host s) (i : ℕ) : Orderly host (s.move host (.step i)) := by
  simp only [Server.move]
  split
  · rename_i r st hi
    have hfits : st.Fits host r := h.fits _ (List.mem_of_getElem? hi)
    split
    · rename_i st' o hadv
      obtain ⟨hfits', ⟨hst, hno, bytes, hst', hserved⟩ | ⟨rfl, hsame⟩⟩ :=
        Request.advance_cases hfits hadv
      · have hsettles : settles host i r st st' = [(i, r, bytes)] := by
          simp only [settles, hst, hst', hno, Bool.false_eq_true, if_false]
        rw [hsettles]
        exact h.settle hi hfits' hst hno hst' hserved
      · rw [settles_of_same hsame, List.append_nil]
        exact h.quiet hi hfits' hsame
    · exact h
  · exact h

end Step

theorem Orderly.exec {s : Server} (h : Orderly host s) (schedule : List Move) :
    Orderly host (s.exec host schedule) := by
  induction schedule generalizing s with
  | nil => exact h
  | cons m schedule ih =>
    refine ih ?_
    cases m with
    | arrive r => exact h.arrive r
    | step i => exact h.step i

/-- What has taken effect stays first. -/
theorem order_exec (s : Server) (schedule : List Move) :
    ∃ more, (s.exec host schedule).order = s.order ++ more := by
  induction schedule generalizing s with
  | nil => exact ⟨[], (List.append_nil _).symm⟩
  | cons m schedule ih =>
    obtain ⟨more, hmore⟩ := ih (s.move host m)
    obtain ⟨first, hfirst⟩ : ∃ first, (s.move host m).order = s.order ++ first := by
      cases m with
      | arrive r => exact ⟨[], (List.append_nil _).symm⟩
      | step i =>
        simp only [Server.move]
        split
        · split
          · exact ⟨_, rfl⟩
          · exact ⟨[], (List.append_nil _).symm⟩
        · exact ⟨[], (List.append_nil _).symm⟩
    refine ⟨first ++ more, ?_⟩
    rw [← List.append_assoc, ← hfirst]
    exact hmore

/-- **Control commands are linearizable.**  Whatever the schedule, the messages whose answers are
settled, `meta` apart, are served one after the other in the order of their effects: with the answers
they got, to the pointers as they are, and each once.  A message that was answered before another
one arrived comes before it: the order only grows at its end.  So the tables are those of the
ledger that is written down in this order. -/
theorem linearizable (host : Host) (schedule later : List Move) :
    Run (Served host) Globals.initial
        ((Server.initial.exec host schedule).order.map Prod.snd)
        (Server.initial.exec host schedule).globals ∧
      ((Server.initial.exec host schedule).order.map Prod.fst).Nodup ∧
      (∀ i r bytes, (i, r, bytes) ∈ (Server.initial.exec host schedule).order ↔
        r.printsMetadata host = false ∧
          ∃ st, (Server.initial.exec host schedule).threads[i]? = some (r, st) ∧
            st.settled = some bytes) ∧
      (∃ more, ((Server.initial.exec host schedule).exec host later).order =
        (Server.initial.exec host schedule).order ++ more) ∧
      Represents (Server.initial.exec host schedule).globals
        (Ledger.after host ((Server.initial.exec host schedule).order.map Prod.snd)) := by
  have h : Orderly host (Server.initial.exec host schedule) := orderly_initial.exec schedule
  refine ⟨h.run, h.once, h.settled, order_exec _ later, ?_⟩
  exact h.run.foldl (fun _ _ _ _ hrep hstep => represents_step hrep hstep) represents_initial

end CallFwd
