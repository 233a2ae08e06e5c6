/-
# Reloads and requests, interleaved

The daemon at work: any number of reload threads, each somewhere in its file, and any number of
requests, each between two of its loads.  An `Action` starts one of them or moves one of them by
one step, and a schedule is any list of actions.  The globals are shared, everything else belongs
to one thread; the only action that touches a global is the exchange at the end of a reload.

`log` is a ghost: the exchanges so far, with the thread that made them.  `Inv` is the invariant of
all schedules, `Inv.act` its step and `inv_exec` its run.  Three results are read off it.

* **Reloads are atomic.**  The globals are the replay of the log; a reload that was committed is in
  it once, with the dataset of all lines of its file, and any other reload is not in it.
* **Nothing becomes null**, and so no request uses a null pointer.
* **Requests read snapshots.**  The answer of a request is the one it computes from ONE dataset for
  each table, and each of them was committed by a reload.
-/
import CallFwd.Daemon.Handlers
import CallFwd.Daemon.Reload

namespace CallFwd

open Lib Lib.Reader

/-! ## 1. The system -/

structure State where
  globals : Globals
  log : List (ℕ × Filled)
  reloads : List (Job × Phase)
  requests : List (Query × Reader Dataset Response)

/-- The daemon as it starts. -/
def State.initial : State := ⟨.initial, [], [], []⟩

/-- `i` and `j` count the threads and the requests in the order they were started. -/
inductive Action
  | startReload (job : Job)
  | startRequest (q : Query)
  | reload (i : ℕ)
  | request (j : ℕ)

/-- A step of a reload: the exchange of what it has built, or a step on its own data. -/
def State.stepReload (s : State) (i : ℕ) : State :=
  match s.reloads[i]? with
  | some (job, .built f) =>
    { s with
      globals := s.globals.commit f.1 f.2
      log := s.log ++ [(i, f)]
      reloads := s.reloads.set i (job, .committed f) }
  | some (job, ph) => { s with reloads := s.reloads.set i (job, job.advance ph) }
  | none => s

/-- A step of a request, with the globals as it finds them. -/
def State.stepRequest (s : State) (j : ℕ) : State :=
  match s.requests[j]? with
  | some (q, r) => { s with requests := s.requests.set j (q, r.step s.globals) }
  | none => s

section System

variable (prefetch : Table → ℕ+)

/-- One action.  A thread or a request that does not exist or is finished does nothing. -/
def State.act (s : State) : Action → State
  | .startReload job => { s with reloads := s.reloads ++ [(job, .starting)] }
  | .startRequest q => { s with requests := s.requests ++ [(q, q.serve prefetch)] }
  | .reload i => s.stepReload i
  | .request j => s.stepRequest j

/-- A schedule. -/
def State.exec (s : State) (schedule : List Action) : State := schedule.foldl (State.act prefetch) s

end System

/-- The globals after some exchanges. -/
def replay (log : List (ℕ × Filled)) : Globals :=
  log.foldl (fun g e => g.commit e.2.1 e.2.2) .initial

/-- The exchanges of thread `i`. -/
def State.exchanges (s : State) (i : ℕ) : List Filled :=
  (s.log.filter fun e => e.1 == i).map Prod.snd

/-- What a thread in this phase has exchanged. -/
def Phase.exchanged : Phase → List Filled
  | .committed f => [f]
  | _ => []

def committedBy (reloads : List (Job × Phase)) (i : ℕ) : List Filled :=
  match reloads[i]? with
  | some (_, ph) => ph.exchanged
  | none => []

/-- Some reload committed `d` to `t`. -/
def State.Committed (s : State) (t : Table) (d : Dataset t) : Prop :=
  ∃ i, committedBy s.reloads i = [⟨t, d⟩]

/-! ## 2. The invariant -/

structure Inv (prefetch : Table → ℕ+) (s : State) : Prop where
  globals : s.globals = replay s.log
  exchanges : ∀ i, s.exchanges i = committedBy s.reloads i
  reloads : ∀ th ∈ s.reloads, th.2.Foretells th.1.outcome
  origin : ∀ t d, s.globals t = some d → s.Committed t d
  requests : ∀ rq ∈ s.requests, Follows s.Committed s.globals (rq.1.serve prefetch) rq.2

variable {prefetch : Table → ℕ+} {s : State}

theorem inv_initial : Inv prefetch State.initial where
  globals := rfl
  exchanges _ := rfl
  reloads _ h := by cases h
  origin _ _ h := by cases h
  requests _ h := by cases h

/-- The threads move among themselves: nothing is committed. -/
theorem Inv.quiet {reloads : List (Job × Phase)} (inv : Inv prefetch s)
    (same : committedBy reloads = committedBy s.reloads)
    (foretell : ∀ th ∈ reloads, th.2.Foretells th.1.outcome) :
    Inv prefetch { s with reloads := reloads } := by
  have committed : State.Committed { s with reloads := reloads } = s.Committed := by
    unfold State.Committed
    rw [same]
  refine ⟨inv.globals, ?_, foretell, ?_, ?_⟩
  · intro i
    rw [same]
    exact inv.exchanges i
  · rw [committed]
    exact inv.origin
  · rw [committed]
    exact inv.requests

theorem committedBy_append (reloads : List (Job × Phase)) (job : Job) :
    committedBy (reloads ++ [(job, .starting)]) = committedBy reloads := by
  funext i
  unfold committedBy
  rcases Nat.lt_trichotomy i reloads.length with lt | rfl | gt
  · rw [List.getElem?_append_left lt]
  · rw [List.getElem?_concat_length, List.getElem?_eq_none (le_refl _)]
    rfl
  · rw [List.getElem?_eq_none (by simp; omega), List.getElem?_eq_none (by omega)]

/-- What the new phase of one thread does to the list. -/
theorem committedBy_set {reloads : List (Job × Phase)} {i : ℕ} {job : Job} {ph : Phase}
    (hi : reloads[i]? = some (job, ph)) (ph' : Phase) (k : ℕ) :
    committedBy (reloads.set i (job, ph')) k =
      if i = k then ph'.exchanged else committedBy reloads k := by
  have lt : i < reloads.length := (List.getElem?_eq_some_iff.mp hi).1
  unfold committedBy
  rw [List.getElem?_set]
  by_cases e : i = k
  · rw [if_pos e, if_pos lt, if_pos e]
  · rw [if_neg e, if_neg e]

/-- A step of a thread on its own data exchanges nothing. -/
theorem Job.exchanged_advance (job : Job) (ph : Phase) :
    (job.advance ph).exchanged = ph.exchanged := by
  cases ph with
  | starting =>
    rw [Job.advance]
    split <;> rfl
  | reading r =>
    rw [Job.advance]
    split <;> rfl
  | built f => rfl
  | failed => rfl
  | committed f => rfl

/-- The threads after a step of one of them. -/
theorem foretells_set {reloads : List (Job × Phase)} {i : ℕ} {job : Job} {ph : Phase}
    (old : ∀ th ∈ reloads, th.2.Foretells th.1.outcome) (new : ph.Foretells job.outcome) :
    ∀ th ∈ reloads.set i (job, ph), th.2.Foretells th.1.outcome := by
  intro th hth
  rcases List.mem_or_eq_of_mem_set hth with hth | rfl
  · exact old th hth
  · exact new

theorem Inv.advance {i : ℕ} {job : Job} {ph : Phase} (inv : Inv prefetch s)
    (hi : s.reloads[i]? = some (job, ph)) :
    Inv prefetch { s with reloads := s.reloads.set i (job, job.advance ph) } := by
  have old : ph.Foretells job.outcome := inv.reloads _ (List.mem_of_getElem? hi)
  refine inv.quiet ?_ (foretells_set inv.reloads (job.outcome_advance ph old))
  funext k
  rw [committedBy_set hi, Job.exchanged_advance]
  split
  · rename_i e
    rw [← e, committedBy, hi]
  · rfl

/-- An exchange makes no pointer null. -/
theorem Globals.commit_isSome {g : Globals} {t u : Table} {d : Dataset t}
    (h : (g u).isSome = true) : (g.commit t d u).isSome = true := by
  by_cases e : u = t
  · subst e
    rw [Globals.commit_self]
    rfl
  · rwa [Globals.commit_of_ne _ _ e]

/-- **The exchange.** -/
theorem Inv.exchange {i : ℕ} {job : Job} {f : Filled} (inv : Inv prefetch s)
    (hi : s.reloads[i]? = some (job, .built f)) :
    Inv prefetch { s with
      globals := s.globals.commit f.1 f.2
      log := s.log ++ [(i, f)]
      reloads := s.reloads.set i (job, .committed f) } := by
  have built : Phase.Foretells job.outcome (.built f) := inv.reloads _ (List.mem_of_getElem? hi)
  have nothing : committedBy s.reloads i = [] := by
    rw [committedBy, hi]
    rfl
  have mono : ∀ t d, s.Committed t d →
      ∃ k, committedBy (s.reloads.set i (job, .committed f)) k = [⟨t, d⟩] := by
    rintro t d ⟨k, hk⟩
    have e : i ≠ k := by
      rintro rfl
      rw [nothing] at hk
      cases hk
    exact ⟨k, by rw [committedBy_set hi, if_neg e, hk]⟩
  refine ⟨?_, ?_, foretells_set inv.reloads built, ?_, ?_⟩
  · rw [replay, List.foldl_append, inv.globals]
    rfl
  · intro k
    have old := inv.exchanges k
    rw [committedBy_set hi]
    simp only [State.exchanges, List.filter_append, List.map_append] at old ⊢
    rw [old]
    by_cases e : i = k
    · rw [if_pos e, ← e, nothing]
      simp [Phase.exchanged]
    · rw [if_neg e]
      simp [e]
  · intro t d (h : s.globals.commit f.1 f.2 t = some d)
    by_cases e : t = f.1
    · subst e
      rw [Globals.commit_self] at h
      cases h
      exact ⟨i, by rw [committedBy_set hi, if_pos rfl]; rfl⟩
    · rw [Globals.commit_of_ne _ _ e] at h
      exact mono t d (inv.origin t d h)
  · intro rq hrq
    exact (inv.requests rq hrq).move (fun _ ht => Globals.commit_isSome ht) mono

theorem Inv.stepReload (inv : Inv prefetch s) (i : ℕ) : Inv prefetch (s.stepReload i) := by
  unfold State.stepReload
  split
  · rename_i job f hi
    exact inv.exchange hi
  · rename_i job ph _ hi
    exact inv.advance hi
  · exact inv

theorem Inv.stepRequest (inv : Inv prefetch s) (j : ℕ) : Inv prefetch (s.stepRequest j) := by
  unfold State.stepRequest
  split
  · rename_i q r hj
    refine ⟨inv.globals, inv.exchanges, inv.reloads, inv.origin, ?_⟩
    intro rq hrq
    rcases List.mem_or_eq_of_mem_set hrq with hrq | rfl
    · exact inv.requests rq hrq
    · exact (inv.requests _ (List.mem_of_getElem? hj)).step inv.origin
  · exact inv

/-- **The step**: every action keeps the invariant. -/
theorem Inv.act (inv : Inv prefetch s) (a : Action) : Inv prefetch (s.act prefetch a) := by
  cases a with
  | startReload job =>
    refine inv.quiet (committedBy_append s.reloads job) ?_
    intro th hth
    rcases List.mem_append.mp hth with hth | hth
    · exact inv.reloads th hth
    · rw [List.mem_singleton.mp hth]
      trivial
  | startRequest q =>
    refine ⟨inv.globals, inv.exchanges, inv.reloads, inv.origin, ?_⟩
    intro rq hrq
    rcases List.mem_append.mp hrq with hrq | hrq
    · exact inv.requests rq hrq
    · rw [List.mem_singleton.mp hrq]
      exact Follows.init (Query.serve_guarded prefetch q)
  | reload i => exact inv.stepReload i
  | request j => exact inv.stepRequest j

/-- **The run**: every schedule keeps the invariant. -/
theorem Inv.exec (inv : Inv prefetch s) (schedule : List Action) :
    Inv prefetch (s.exec prefetch schedule) := by
  induction schedule generalizing s with
  | nil => exact inv
  | cons a schedule ih => exact ih (inv.act a)

/-! ## 3. The results -/

theorem act_isSome (a : Action) {t : Table} (h : (s.globals t).isSome = true) :
    ((s.act prefetch a).globals t).isSome = true := by
  cases a with
  | startReload job => exact h
  | startRequest q => exact h
  | reload i =>
    rw [State.act, State.stepReload]
    split
    · exact Globals.commit_isSome h
    · exact h
    · exact h
  | request j =>
    rw [State.act, State.stepRequest]
    split
    · exact h
    · exact h

/-- A global that is not null stays so, whatever the schedule. -/
theorem exec_isSome (schedule : List Action) {t : Table} (h : (s.globals t).isSome = true) :
    ((s.exec prefetch schedule).globals t).isSome = true := by
  induction schedule generalizing s with
  | nil => exact h
  | cons a schedule ih => exact ih (act_isSome a h)

theorem exists_of_committedBy {reloads : List (Job × Phase)} {i : ℕ} {f : Filled}
    (h : committedBy reloads i = [f]) : ∃ job, reloads[i]? = some (job, .committed f) := by
  unfold committedBy at h
  split at h
  · rename_i job ph hi
    cases ph with
    | committed f' =>
      cases h
      exact ⟨job, hi⟩
    | _ => cases h
  · cases h

/-- The reloads so far were atomic: the globals are what the logged exchanges made of them; a reload
that came to its end is logged once, with the dataset of all lines of its file, for its own table,
and no other reload is logged. -/
def State.ReloadsAtomic (s : State) : Prop :=
  s.globals = replay s.log ∧
    ∀ (i : ℕ) (job : Job) (ph : Phase), s.reloads[i]? = some (job, ph) →
      s.exchanges i = ph.exchanged ∧
        ∀ f ∈ ph.exchanged, ∃ content, job.files job.path = some content ∧
          job.dataset content = .ok f

/-- The answers so far are those of snapshots: from one dataset for each table, committed by one
reload. -/
def State.ReadsSnapshots (prefetch : Table → ℕ+) (s : State) : Prop :=
  ∀ q response, (q, .done response) ∈ s.requests →
    ∃ view : Globals, (q.serve prefetch).run view = some response ∧
      ∀ t d, view t = some d → ∃ (i : ℕ) (job : Job), s.reloads[i]? = some (job, .committed ⟨t, d⟩)

/-- **Atomic reloads and snapshot reads, under every schedule.** -/
theorem reloads_atomic_reads_snapshots (prefetch : Table → ℕ+) (schedule : List Action) :
    (State.initial.exec prefetch schedule).ReloadsAtomic ∧
    (∀ later t, ((State.initial.exec prefetch schedule).globals t).isSome = true →
      (((State.initial.exec prefetch schedule).exec prefetch later).globals t).isSome = true) ∧
    (∀ q r, (q, r) ∈ (State.initial.exec prefetch schedule).requests → r ≠ .fault) ∧
    (State.initial.exec prefetch schedule).ReadsSnapshots prefetch := by
  have inv := @inv_initial prefetch |>.exec schedule
  generalize State.initial.exec prefetch schedule = s at inv ⊢
  refine ⟨⟨inv.globals, ?_⟩, fun later t => exec_isSome later, ?_, ?_⟩
  · intro i job ph hi
    refine ⟨?_, ?_⟩
    · rw [inv.exchanges i, committedBy, hi]
    · intro f hf
      have foretold := inv.reloads _ (List.mem_of_getElem? hi)
      cases ph with
      | committed f' =>
        rw [List.mem_singleton.mp hf]
        exact Job.dataset_of_outcome foretold
      | _ => cases hf
  · intro q r hr
    exact (inv.requests _ hr).not_fault
  · intro q response hr
    obtain ⟨view, hrun, horigin⟩ := (inv.requests _ hr).exists_view inv.origin
    refine ⟨view, hrun, ?_⟩
    intro t d hd
    obtain ⟨i, hi⟩ := horigin t d hd
    exact ⟨i, exists_of_committedBy hi⟩

/-- A US and a CA file of one row each. -/
def oneRow (country : String) : Job where
  load := .mapping
  host := .plain
  files _ := some (Dynamic.text "1,2\n")
  path := []
  metadata := .object [(Dynamic.text "country", .string (Dynamic.text country))]

/-- Two reloads step by turns, and a request that starts between their exchanges. -/
def turnByTurn : List Action :=
  [.startReload (oneRow "US"), .startReload (oneRow "CA"), .reload 0, .reload 1, .reload 0,
    .reload 1, .reload 0, .reload 1, .reload 0, .startRequest (.reverse [(2, 3)]), .request 0,
    .reload 1, .request 0, .request 0, .request 0]

/-- The request is answered, from the two datasets the reloads committed. -/
theorem reads_snapshots_turnByTurn :
    ∃ rows, (Query.reverse [(2, 3)], .done (.reverse rows)) ∈
        (State.initial.exec (fun _ => 8) turnByTurn).requests ∧
      ∃ view : Globals, ((Query.reverse [(2, 3)]).serve fun _ => 8).run view =
          some (.reverse rows) ∧
        ∀ t d, view t = some d → ∃ (i : ℕ) (job : Job),
          (State.initial.exec (fun _ => 8) turnByTurn).reloads[i]? =
            some (job, .committed ⟨t, d⟩) := by
  have answered : ∃ rows, (Query.reverse [(2, 3)], .done (.reverse rows)) ∈
      (State.initial.exec (fun _ => 8) turnByTurn).requests := ⟨_, .head _⟩
  obtain ⟨rows, answered⟩ := answered
  exact ⟨rows, answered,
    (reloads_atomic_reads_snapshots (fun _ => 8) turnByTurn).2.2.2 _ _ answered⟩

end CallFwd
