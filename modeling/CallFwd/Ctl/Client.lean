/-
# `callfwdctl`: what a reload sends, and the link it leaves

The tool opens a database, sends its descriptor with a message to the control socket, and waits for
one byte.  With `-u PATTERN` it takes the last file that matches in place of the one it is given,
and after an 'S' it makes the name it is given a symbolic link to that file: the name stands for
what is loaded.

Thirteen functions differ in the command, the country and the length of a row only; `ReloadOp` holds
the three, and each function keeps its name.  Names are absolute.  Directories, and the JSON text
between the tool and the daemon, are left out.
-/
import CallFwd.Daemon.Repeat
import Mathlib.Data.List.Sort
import Mathlib.Data.Char

namespace CallFwd.Ctl

open Lib

/-! ## 1. Names and files -/

/-- What a name stands for. -/
inductive Node
  | file (content : Text)
  | symlink (target : Text)

abbrev FileSystem := Text → Option Node

/-- `open(path)`, over at most so many links. -/
def FileSystem.read (fs : FileSystem) (links : ℕ) (path : Text) : Option Text :=
  match fs path, links with
  | some (.file content), _ => some content
  | some (.symlink target), links + 1 => fs.read links target
  | _, _ => none

/-- How many links the kernel follows. -/
def MAXSYMLINKS : ℕ := 40

/-- `os.path.exists(path)`, which follows links. -/
def FileSystem.pathExists (fs : FileSystem) (path : Text) : Bool :=
  (fs.read MAXSYMLINKS path).isSome

/-- `os.unlink(link_to)` where the name leads somewhere, and `os.symlink(path, link_to)`, which
raises `FileExistsError` where the name is still taken. -/
def relink (fs : FileSystem) (path link_to : Text) : FileSystem :=
  let fs := if fs.pathExists link_to then Function.update fs link_to none else fs
  if (fs link_to).isSome then fs else Function.update fs link_to (some (.symlink path))

/-- A member of an archive; `content` is what `tar xOf` prints for its name. -/
structure Member where
  name : Text
  size : ℕ
  content : Text

/-- What the tool leaves to others: `glob.glob`, and `tar.next()` with `tar xOf` behind it. -/
structure Tools where
  glob : FileSystem → Text → List Text
  next : Text → Option Member

/-- What is sent of a database, and the size its estimate is made of. -/
structure Opened where
  inner_name : Option Text
  size : ℕ
  content : Text

/-- `path.endswith(".tar.gz")` -/
def isArchive (path : Text) : Bool := (Dynamic.text ".tar.gz").isSuffixOf path

/-- The head of `_read_db_op`: of an archive the first member is read. -/
def Tools.open (tools : Tools) (fs : FileSystem) (path : Text) : Option Opened :=
  (fs.read MAXSYMLINKS path).bind fun content =>
    if isArchive path then
      (tools.next content).map fun ti => ⟨some ti.name, ti.size, ti.content⟩
    else some ⟨none, content.length, content⟩

/-! ## 2. Messages -/

/-- What one of the `reload` functions sends of its own, and how long it takes a row to be. -/
structure ReloadOp where
  cmd : String
  country : Option Text
  row_size : ℕ

def reload_db (country : Text) : ReloadOp := ⟨"reload", some country, 23⟩

def dnc_reload_db : ReloadOp := ⟨"dnc_reload", none, 11⟩

def dno_reload_db : ReloadOp := ⟨"dno_reload", none, 38⟩

def dno_npa_reload_db : ReloadOp := ⟨"dno_npa_reload", none, 7⟩

def dno_npa_nxx_reload_db : ReloadOp := ⟨"dno_npa_nxx_reload", none, 11⟩

def dno_npa_nxx_x_reload_db : ReloadOp := ⟨"dno_npa_nxx_x_reload", none, 37⟩

def tollfree_reload_db : ReloadOp := ⟨"tollfree_reload", none, 38⟩

def lerg_reload_db : ReloadOp := ⟨"lerg_reload", none, 69⟩

def youmail_reload_db : ReloadOp := ⟨"youmail_reload", none, 45⟩

def geo_reload_db : ReloadOp := ⟨"geo_reload", none, 190⟩

def ftc_reload_db : ReloadOp := ⟨"ftc_reload", none, 120⟩

def f404_reload_db : ReloadOp := ⟨"404_reload", none, 38⟩

def f606_reload_db : ReloadOp := ⟨"606_reload", none, 190⟩

/-- The subcommands that load a table of numbers. -/
inductive Subcommand
  | reload (country : Text)
  | table (r : Reload)
deriving DecidableEq

/-- `set_defaults(func=..)`. -/
def Subcommand.op : Subcommand → ReloadOp
  | .reload country => reload_db country
  | .table .dnc => dnc_reload_db
  | .table .tollFree => tollfree_reload_db
  | .table (.dno .npa) => dno_npa_reload_db
  | .table (.dno .dno) => dno_reload_db
  | .table (.dno .npaNxx) => dno_npa_nxx_reload_db
  | .table (.dno .npaNxxX) => dno_npa_nxx_x_reload_db
  | .table .lerg => lerg_reload_db
  | .table .youmail => youmail_reload_db
  | .table .geo => geo_reload_db
  | .table .ftc => ftc_reload_db
  | .table .f404 => f404_reload_db
  | .table .f606 => f606_reload_db

/-- `row_estimate`: of an archive it is always made with 23.  A size is an `off_t`. -/
def ReloadOp.row_estimate (op : ReloadOp) (o : Opened) : Int64 :=
  Int64.ofNat (o.size / if o.inner_name.isSome then 23 else op.row_size)

/-- `msg["country"] = country`, in `reload_db` only. -/
def ReloadOp.countryMember (op : ReloadOp) : List (Text × Dynamic) :=
  (op.country.map fun country => (Dynamic.text "country", Dynamic.string country)).toList

/-- `msg["inner_name"] = ti.name`, for an archive only. -/
def Opened.innerMember (o : Opened) : List (Text × Dynamic) :=
  (o.inner_name.map fun name => (Dynamic.text "inner_name", Dynamic.string name)).toList

/-- The message of `_read_db_op(msg, path, row_size)` and `_make_request`. -/
def ReloadOp.message (op : ReloadOp) (now path : Text) (o : Opened) : Dynamic :=
  .object ((Dynamic.text "cmd", .string (Dynamic.text op.cmd)) :: op.countryMember ++
    (Dynamic.text "loaded", .string now) :: (Dynamic.text "file_name", .string path) ::
    (Dynamic.text "stdin", .int 0) :: o.innerMember ++
    [(Dynamic.text "row_estimate", .int (op.row_estimate o)), (Dynamic.text "stderr", .int 1)])

/-- What the daemon keeps of it. -/
def ReloadOp.metadata (op : ReloadOp) (now path : Text) (o : Opened) : Dynamic :=
  .object (op.countryMember ++
    (Dynamic.text "loaded", .string now) :: (Dynamic.text "file_name", .string path) ::
    o.innerMember ++ [(Dynamic.text "row_estimate", .int (op.row_estimate o))])

/-- The messages with what was opened at `path` behind their first descriptor. -/
def Subcommand.Sends (sub : Subcommand) (path : Text) (o : Opened) (r : Request) : Prop :=
  ∃ fd stderr now, r.argfd = [fd, stderr] ∧ r.env.files (fdPath fd) = some o.content ∧
    r.msg = sub.op.message now path o

/-! ## 3. How the daemon takes a message -/

def Subcommand.load : Subcommand → Load
  | .reload _ => .mapping
  | .table r => .table r

def Subcommand.canada : Subcommand → Bool
  | .reload country => country == Dynamic.text "CA"
  | .table _ => false

/-- The table the subcommand is for. -/
def Subcommand.target : Subcommand → Table
  | .reload country => if country == Dynamic.text "CA" then .ca else .us
  | .table r => r.table

section Message

variable {sub : Subcommand} {host : Host} {now path : Text} {o : Opened}

/-- What the daemon makes of a message of the tool. -/
structure Subcommand.Asks (sub : Subcommand) (host : Host) (o : Opened) (job : Job) : Prop where
  load : job.load = sub.load
  sameHost : job.host = host
  estimate : rowEstimate host job.path job.metadata = .ok (sub.op.row_estimate o)
  country : isCanada host job.metadata = .ok sub.canada

theorem ofText_cmd (sub : Subcommand) :
    Command.ofText (Dynamic.text sub.op.cmd) = sub.load.command := by
  cases sub with
  | reload country =>
    change Command.ofText (Dynamic.text "reload") = .reload
    decide
  | table r =>
    cases r with
    | dno ty => cases ty <;> decide
    | _ => decide

theorem load_command (load : Load) : load.command.load = some load := by
  cases load <;> rfl

theorem rowEstimate_metadata {path' : Text} :
    rowEstimate host path' (sub.op.metadata now path o) = .ok (sub.op.row_estimate o) := by
  unfold ReloadOp.metadata ReloadOp.countryMember Opened.innerMember
  cases sub.op.country <;> cases o.inner_name <;> rfl

theorem isCanada_metadata : isCanada host (sub.op.metadata now path o) = .ok sub.canada := by
  have hop : sub.op.country = (match sub with
      | .reload country => some country
      | .table _ => none) := by
    cases sub with
    | reload country => rfl
    | table r =>
      cases r with
      | dno ty => cases ty <;> rfl
      | _ => rfl
  unfold ReloadOp.metadata ReloadOp.countryMember Opened.innerMember
  rw [hop]
  cases sub <;> cases o.inner_name <;> rfl

theorem Subcommand.Sends.decodes {r : Request} (h : sub.Sends path o r) :
    ∃ fd now, r.env.files (fdPath fd) = some o.content ∧ Decodes r.argfd r.msg
      (Dynamic.text sub.op.cmd) fd (-1) (sub.op.metadata now path o) := by
  obtain ⟨fd, stderr, now, hfds, hfile, hmsg⟩ := h
  refine ⟨fd, now, hfile, ?_⟩
  rw [hfds, hmsg]
  unfold ReloadOp.message ReloadOp.metadata ReloadOp.countryMember Opened.innerMember
  cases sub.op.country <;> cases o.inner_name <;> exact ⟨rfl, rfl, rfl, ⟨stderr, rfl⟩, rfl⟩

/-- **The daemon takes a message for the load of its subcommand**, from its first descriptor. -/
theorem Subcommand.Sends.job {r : Request} (h : sub.Sends path o r) :
    ∃ job, r.job host = some job ∧ sub.Asks host o job ∧
      job.files job.path = some o.content := by
  obtain ⟨fd, now, hfile, hdec⟩ := h.decodes
  refine ⟨⟨sub.load, host, r.env.files, fdPath fd, sub.op.metadata now path o⟩, ?_,
    ⟨rfl, rfl, rowEstimate_metadata, isCanada_metadata⟩, hfile⟩
  rw [Request.job, hdec.decode, ofText_cmd]
  change (sub.load.command.load.map _) = _
  rw [load_command]
  rfl

variable {job job' : Job}

/-- Its load is for the table of the subcommand. -/
theorem Subcommand.Asks.target (h : sub.Asks host o job) : job.target = .ok sub.target := by
  have hcountry := h.country
  rw [← h.sameHost] at hcountry
  cases sub with
  | reload country =>
    simp only [Job.target, h.load, Subcommand.load, hcountry]
    rfl
  | table r => simp only [Job.target, h.load, Subcommand.load, Subcommand.target]

end Message

/-! ## 4. What a run of the tool does -/

/-- A subcommand with its arguments. -/
structure Service where
  sub : Subcommand
  db : Text
  update : Option Text

/-- The file a run has chosen, and the name that will be a link to it. -/
structure Choice where
  path : Text
  link_to : Option Text

/-- The head of a `reload` function: `sorted(glob.glob(update))[-1]` if there is any. -/
def Service.choose (s : Service) (tools : Tools) (fs : FileSystem) : Choice :=
  match s.update.bind fun pattern =>
      ((tools.glob fs pattern).insertionSort (· ≤ ·)).getLast? with
  | some path => ⟨path, some s.db⟩
  | none => ⟨s.db, none⟩

/-- The end of it, by the bytes of the answer. -/
def Choice.close (c : Choice) (fs : FileSystem) (bytes : List Char) : FileSystem :=
  match c.link_to with
  | some link_to => if bytes = ['S'] then relink fs c.path link_to else fs
  | none => fs

end CallFwd.Ctl
