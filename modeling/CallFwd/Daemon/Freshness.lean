/-
# A request among control threads

An operator who gets an 'S' wants to know who sees the new file.  A request that arrives after the
status does; one that was on its way may have taken the old table, or the new one, or the old one of
one load and the new one of another.  `answers_fresh` puts bounds on it: each table of an answer is
the one that was acknowledged last at some moment between the arrival of the request and its end.
It is the moment that may differ from table to table, and nothing older or newer is ever seen.

The request and the control threads take steps in any order, and the request is at its end after 24
steps of its own.
-/
import CallFwd.Daemon.Answers
import CallFwd.Daemon.Interleaving

namespace CallFwd

open Lib Lib.Reader

/-! ## 1. The system -/

instance : Fintype Table where
  elems := {.us, .ca, .dnc, .dno, .tollFree, .lerg, .youmail, .geo, .ftc, .f404, .f606, .acl}
  complete t := by cases t <;> decide

/-- A control thread moves, or the request makes its next load. -/
inductive Event
  | control (m : Move)
  | read

def Event.isRead : Event → Bool
  | .read => true
  | .control _ => false

/-- One event of the server and a request. -/
def attend (host : Host) (x : Server × Reader Dataset Response) :
    Event → Server × Reader Dataset Response
  | .control m => (x.1.move host m, x.2)
  | .read => (x.1, x.2.step x.1.globals)

/-- The ledger after the first `k` of the messages that took effect. -/
def ledgerAt (host : Host) (order : List (ℕ × Request × List Char)) (k : ℕ) : Ledger :=
  Ledger.after host ((order.take k).map Prod.snd)

/-! ## 2. One pointer -/

/-- A pointer is what the ledger says of it. -/
def Denotes (entry : Option Acknowledged) {t : Table} (o : Option (Dataset t)) : Prop :=
  match entry with
  | none => o = none
  | some a => ∃ d, o = some d ∧ a.job.Loads a.content ⟨t, d⟩

theorem represents_iff_denotes {g : Globals} {ledger : Ledger} :
    Represents g ledger ↔ ∀ t, Denotes (ledger t) (g t) := by
  constructor
  · intro h t
    cases hl : ledger t with
    | none => exact h.null t hl
    | some a => exact h.holds t a hl
  · intro h
    refine ⟨fun t hl => ?_, fun t a hl => ?_⟩
    · have ht := h t
      rwa [hl] at ht
    · have ht := h t
      rwa [hl] at ht

/-- The pointer had this value at a moment from the `start`-th message on. -/
def Held (host : Host) (start : ℕ) (order : List (ℕ × Request × List Char)) (t : Table)
    (o : Option (Dataset t)) : Prop :=
  ∃ k, start ≤ k ∧ k ≤ order.length ∧ Denotes (ledgerAt host order k t) o

section Moments

variable {host : Host} {start : ℕ} {order : List (ℕ × Request × List Char)} {s : Server}

/-- What has been held stays held. -/
theorem Held.append {t : Table} {o : Option (Dataset t)} (h : Held host start order t o)
    (more : List (ℕ × Request × List Char)) : Held host start (order ++ more) t o := by
  obtain ⟨k, hstart, hk, hden⟩ := h
  refine ⟨k, hstart, ?_, ?_⟩
  · rw [List.length_append]
    exact Nat.le_add_right_of_le hk
  · rwa [ledgerAt, List.take_append_of_le_length hk]

/-- What the pointers hold now is held. -/
theorem Orderly.held (h : Orderly host s) (hstart : start ≤ s.order.length) (t : Table) :
    Held host start s.order t (s.globals t) := by
  have hrep : Represents s.globals (Ledger.after host (s.order.map Prod.snd)) :=
    h.run.foldl (fun _ _ _ _ hrep hstep => represents_step hrep hstep) represents_initial
  refine ⟨s.order.length, hstart, le_refl _, ?_⟩
  rw [ledgerAt, List.take_length]
  exact represents_iff_denotes.mp hrep t

/-- No step makes a pointer null. -/
theorem Server.move_isSome (m : Move) {t : Table} (h : (s.globals t).isSome = true) :
    ((s.move host m).globals t).isSome = true := by
  cases m with
  | arrive r => exact h
  | step i =>
    simp only [Server.move]
    split
    · split
      · rename_i o _
        cases o with
        | none => exact h
        | some f => exact Globals.commit_isSome h
      · exact h
    · exact h

/-! ## 3. The invariant of a request -/

/-- The request `q` began at the `start`-th message and has at most `n` loads left. -/
structure Attended (host : Host) (prefetch : Table → ℕ+) (start : ℕ) (q : Query) (n : ℕ)
    (x : Server × Reader Dataset Response) : Prop where
  orderly : Orderly host x.1
  start_le : start ≤ x.1.order.length
  sees : Sees (Held host start x.1.order) n x.1.globals (q.serve prefetch) x.2

variable {prefetch : Table → ℕ+} {q : Query} {n : ℕ} {x : Server × Reader Dataset Response}

theorem attended_start (h : Orderly host s) :
    Attended host prefetch s.order.length q 24 (s, q.serve prefetch) where
  orderly := h
  start_le := le_refl _
  sees := Sees.init (Query.serve_guarded prefetch q)

/-- A control thread moves. -/
theorem Attended.control (h : Attended host prefetch start q n x) (m : Move) :
    Attended host prefetch start q n (attend host x (.control m)) := by
  obtain ⟨more, hmore⟩ : ∃ more, (x.1.move host m).order = x.1.order ++ more :=
    order_exec x.1 [m]
  refine ⟨h.orderly.exec [m], ?_, h.sees.move (fun t => Server.move_isSome m) fun t o ho => ?_⟩
  · change start ≤ (x.1.move host m).order.length
    rw [hmore, List.length_append]
    exact Nat.le_add_right_of_le h.start_le
  · change Held host start (x.1.move host m).order t o
    rw [hmore]
    exact ho.append more

/-- The request makes a load. -/
theorem Attended.read (h : Attended host prefetch start q n x) :
    Attended host prefetch start q (n - 1) (attend host x .read) where
  orderly := h.orderly
  start_le := h.start_le
  sees := h.sees.step fun t => h.orderly.held h.start_le t

/-- **The run**: each load uses up a step. -/
theorem Attended.foldl (h : Attended host prefetch start q n x) (during : List Event) :
    Attended host prefetch start q (n - during.countP Event.isRead)
      (during.foldl (attend host) x) := by
  induction during generalizing n x with
  | nil => exact h
  | cons e during ih =>
    cases e with
    | control m =>
      rw [List.countP_cons_of_neg Bool.false_ne_true]
      exact ih (h.control m)
    | read =>
      rw [List.countP_cons_of_pos rfl, Nat.add_comm, ← Nat.sub_sub]
      exact ih h.read

/-- The answer is that of one ledger, pieced together from moments of the request. -/
theorem Attended.answers {response : Response}
    (h : Attended host prefetch start q n (s, .done response)) :
    ∃ ledger : Ledger, (∀ t, ∃ k, start ≤ k ∧ k ≤ s.order.length ∧
      ledger t = ledgerAt host s.order k t) ∧ ledger.Answers q response := by
  obtain ⟨view, hrun, hview⟩ := h.sees.exists_view fun t => h.orderly.held h.start_le t
  choose moment hstart hend hden using hview
  refine ⟨fun t => ledgerAt host s.order (moment t) t, ?_, ?_⟩
  · exact fun t => ⟨moment t, hstart t, hend t, rfl⟩
  · exact (represents_iff_denotes.mpr hden).answers q hrun

end Moments

/-! ## 4. Every schedule -/

/-- **Answers are fresh.**  A request that arrives after any schedule of control threads and is
served while these go on, in any order of steps, uses no null pointer and is at its end after 24
loads.  Its answer is what the lines of the acknowledged files say, for each table the file that was
acknowledged last at some moment since the request arrived. -/
theorem answers_fresh (host : Host) (prefetch : Table → ℕ+) (before : List Move) (q : Query)
    (during : List Event) :
    let s := Server.initial.exec host before
    let x := during.foldl (attend host) (s, q.serve prefetch)
    x.2 ≠ .fault ∧
    (24 ≤ during.countP Event.isRead → ∃ response, x.2 = .done response) ∧
    ∀ response, x.2 = .done response → ∃ ledger : Ledger,
      (∀ t, ∃ k, s.order.length ≤ k ∧ k ≤ x.1.order.length ∧
        ledger t = ledgerAt host x.1.order k t) ∧
      ledger.Answers q response := by
  intro s x
  have hstart : Orderly host s := orderly_initial.exec before
  have h : Attended host prefetch s.order.length q (24 - during.countP Event.isRead) x :=
    (attended_start hstart).foldl during
  refine ⟨h.sees.not_fault, fun hcount => ?_, fun response hdone => ?_⟩
  · have hsees := h.sees
    rw [Nat.sub_eq_zero_of_le hcount] at hsees
    exact hsees.exists_done
  · obtain ⟨s', r⟩ := x
    cases hdone
    exact h.answers

end CallFwd
