/-
# Runs of control commands, and the commands that only look

`verify`, `dump` and `meta` change nothing; they read whatever tables the commands before them
left, and the daemon starts with none.  The HTTP and SIP paths test `isAvailable()` first, these
three do not: `meta` tests the pointer itself, `verify` and `dump` go through it.

A run is a list of requests served one after the other from the state the daemon starts in.
`answersInspections_iff` says of every run that all its `verify`, `dump` and `meta` requests are
answered exactly when each of them meets its condition in the state it finds.
-/
import CallFwd.Control.Dispatch

namespace CallFwd

open Lib PhoneMapping

/-- One control message: its JSON, its descriptors, and the files they stand for when it is
served. -/
structure Request where
  env : Env
  argfd : List ℤ
  msg : Dynamic

/-- The commands that change nothing. -/
def Command.inspects : Command → Bool
  | .verify | .dump | .metadata => true
  | _ => false

/-- Serving a request in a state. -/
def Request.serve (host : Host) (r : Request) (g : Globals) : Except Fault Reply :=
  dispatch host r.env r.argfd r.msg g

/-- The call came to its end and sent a status. -/
def HasStatus (out : Except Fault Reply) : Prop :=
  ∃ reply status, out = .ok reply ∧ reply.sent = [status]

/-- The request, if it is a `verify`, a `dump` or a `meta`, is answered in this state. -/
def Request.Completes (host : Host) (r : Request) (g : Globals) : Prop :=
  ∀ cmd stdin stdout metadata, Decodes r.argfd r.msg cmd stdin stdout metadata →
    (Command.ofText cmd).inspects = true → HasStatus (r.serve host g)

/-- The request, if it is a `verify`, a `dump` or a `meta`, meets the condition of its command. -/
def Request.Safe (host : Host) (r : Request) (g : Globals) : Prop :=
  ∀ cmd stdin stdout metadata, Decodes r.argfd r.msg cmd stdin stdout metadata →
    (Command.ofText cmd).inspects = true →
    SafeCommand host r.env (fdPath stdin) (fdPath stdout) metadata g (Command.ofText cmd)

/-- `P` holds of every request of the run, in the state it is served in.  A request that ends in
undefined behaviour ends the run. -/
def Throughout (host : Host) (P : Request → Globals → Prop) : Globals → List Request → Prop
  | _, [] => True
  | g, r :: rs => P r g ∧ ∀ reply, r.serve host g = .ok reply → Throughout host P reply.globals rs

/-- Properties that agree on every request agree on every run. -/
theorem throughout_congr {host : Host} {P Q : Request → Globals → Prop}
    (h : ∀ r g, P r g ↔ Q r g) : ∀ (requests : List Request) (g : Globals),
    Throughout host P g requests ↔ Throughout host Q g requests := by
  intro requests
  induction requests with
  | nil => exact fun g => Iff.rfl
  | cons r rs ih =>
    intro g
    constructor
    · rintro ⟨hp, hrest⟩
      exact ⟨(h r g).mp hp, fun reply hr => (ih _).mp (hrest reply hr)⟩
    · rintro ⟨hq, hrest⟩
      exact ⟨(h r g).mpr hq, fun reply hr => (ih _).mpr (hrest reply hr)⟩

/-- A status is sent exactly when the command leaves one. -/
theorem Decodes.hasStatus_iff {host : Host} {r : Request} {g : Globals} {cmd : Text}
    {stdin stdout : ℤ} {metadata : Dynamic}
    (h : Decodes r.argfd r.msg cmd stdin stdout metadata) :
    HasStatus (r.serve host g) ↔
      SafeCommand host r.env (fdPath stdin) (fdPath stdout) metadata g (Command.ofText cmd) := by
  rw [← Command.run_isOk_iff, Request.serve, dispatch, h.serve_eq]
  cases (Command.ofText cmd).run host r.env (fdPath stdin) (fdPath stdout) metadata g with
  | ok out => exact iff_of_true ⟨_, _, rfl, rfl⟩ ⟨out, rfl⟩
  | error e =>
    refine iff_of_false ?_ ?_
    · rintro ⟨reply, status, hout, hsent⟩
      cases e with
      | exn e =>
        cases hout
        cases hsent
      | undefined f => cases hout
    · rintro ⟨out, hout⟩
      cases hout

/-- The step: one request, in any state. -/
theorem Request.completes_iff_safe (host : Host) (r : Request) (g : Globals) :
    r.Completes host g ↔ r.Safe host g := by
  constructor
  · intro h cmd stdin stdout metadata hdec hins
    exact hdec.hasStatus_iff.mp (h cmd stdin stdout metadata hdec hins)
  · intro h cmd stdin stdout metadata hdec hins
    exact hdec.hasStatus_iff.mpr (h cmd stdin stdout metadata hdec hins)

/-- **In every run from the start of the daemon, all `verify`, `dump` and `meta` requests
complete with a status exactly when each of them, in the state it is served in,** names a country
and, for `verify`, reads a file that does not open, or a loaded table with no one-column line met,
or a null table with a first line that does not convert; for `dump`, writes a file that does not
open or a loaded table; for `meta`, prints metadata without NaN or infinity. -/
theorem answersInspections_iff (host : Host) (requests : List Request) :
    Throughout host (fun r g => r.Completes host g) Globals.initial requests ↔
      Throughout host (fun r g => r.Safe host g) Globals.initial requests :=
  throughout_congr (fun r g => r.completes_iff_safe host g) requests Globals.initial

/-- The first request of a daemon is `verify`, with a file of one good line. -/
theorem not_answersInspections_verify_first :
    ¬ Throughout Host.plain (fun r g => r.Completes Host.plain g) Globals.initial
      [⟨⟨fun _ => some (Dynamic.text "1,2\n"), fun _ => none⟩, [7], fileMessage "verify"⟩] := by
  rintro ⟨hcomp, -⟩
  have hdec := decodes_fileMessage "verify"
  have hsafe := (@Decodes.hasStatus_iff Host.plain
    ⟨⟨fun _ => some (Dynamic.text "1,2\n"), fun _ => none⟩, [7], fileMessage "verify"⟩
    Globals.initial _ _ _ _ hdec).mp (hcomp _ _ _ _ hdec (by decide))
  obtain ⟨canada, -, h⟩ := hsafe
  have hnull : (Globals.initial.getMapping canada).data = none := by
    cases canada <;> rfl
  rw [hnull] at h
  obtain ⟨line, lines, e, hcons, he⟩ := h _ rfl
  have hp : pieces '\n' (Dynamic.text "1,2\n") = [Dynamic.text "1,2"] := by decide
  rw [hp] at hcons
  cases hcons
  have hs : splitUint64 (Dynamic.text "1,2") = .ok [1, 2] := by rfl
  rw [hs] at he
  cases he

end CallFwd
