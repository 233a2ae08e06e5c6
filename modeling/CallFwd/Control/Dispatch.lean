/-
# `ControlThread::dispatch`

A control message is a JSON object: a command, indices into the attached descriptors for `stdin`,
`stdout` and `stderr`, and metadata.  `dispatch` runs the command, sends one status byte to the
sender and closes every descriptor.  Both happen at the END of a `try` block, and the handler of
that block only logs: an exception that reaches it leaves the sender without an answer and the
descriptors open.

So the question is which commands let an exception through.  The loaders catch `runtime_error`
only.  `SafeCommand` collects, command by command, what keeps everything else from happening,
in terms of the message, the file and the state before the call; `answered_iff` says that it is
exactly the condition.
-/
import CallFwd.Control.Verify

namespace CallFwd

open Lib PhoneMapping

/-! ## 1. Commands -/

/-- The reloads of the tables with a global of their own. -/
inductive Reload
  | dnc
  | tollFree
  | dno (dnotype : DnoMapping.DnoType)
  | lerg
  | youmail
  | geo
  | ftc
  | f404
  | f606
deriving DecidableEq, Repr

inductive Command
  | reload
  | table (r : Reload)
  | verify
  | dump
  | acl
  | metadata
  | unrecognized
deriving DecidableEq, Repr

/-- The `if (cmd == ..)` chain. -/
def Command.ofText (cmd : Text) : Command :=
  if cmd = Dynamic.text "reload" then .reload
  else if cmd = Dynamic.text "dnc_reload" then .table .dnc
  else if cmd = Dynamic.text "tollfree_reload" then .table .tollFree
  else if cmd = Dynamic.text "dno_npa_reload" then .table (.dno .npa)
  else if cmd = Dynamic.text "dno_reload" then .table (.dno .dno)
  else if cmd = Dynamic.text "dno_npa_nxx_reload" then .table (.dno .npaNxx)
  else if cmd = Dynamic.text "dno_npa_nxx_x_reload" then .table (.dno .npaNxxX)
  else if cmd = Dynamic.text "lerg_reload" then .table .lerg
  else if cmd = Dynamic.text "youmail_reload" then .table .youmail
  else if cmd = Dynamic.text "geo_reload" then .table .geo
  else if cmd = Dynamic.text "ftc_reload" then .table .ftc
  else if cmd = Dynamic.text "404_reload" then .table .f404
  else if cmd = Dynamic.text "606_reload" then .table .f606
  else if cmd = Dynamic.text "verify" then .verify
  else if cmd = Dynamic.text "dump" then .dump
  else if cmd = Dynamic.text "acl" then .acl
  else if cmd = Dynamic.text "meta" then .metadata
  else .unrecognized

/-- What the files behind the paths are, at the time of the call. -/
structure Env where
  files : Files
  sinks : Sinks

/-- `printMetadata()` of a table; `none` is a null table. -/
def printMetadata : Option Dynamic → Except Stop Unit
  | none => .ok ()
  | some metadata => do
    let members ← metadata.items
    if members.all fun kv => kv.2.printable then .ok () else .error (.exn .printError)

/-- The metadata of the five tables the command `meta` prints. -/
def Globals.printed (g : Globals) : List (Option Dynamic) :=
  [(g .us).map (·.metadata), (g .ca).map (·.metadata), (g .dnc).map (·.metadata),
    (g .tollFree).map (·.metadata), (g .lerg).map (·.metadata)]

section Run

variable (host : Host) (env : Env) (stdinPath stdoutPath : Text) (metadata : Dynamic) (g : Globals)

/-- The branch of a table. -/
def Reload.run : Reload → Except Stop (Bool × Globals)
  | .dnc => loadDNCMappingFile host env.files stdinPath metadata g
  | .tollFree => loadTollFreeMappingFile host env.files stdinPath metadata g
  | .dno dnotype => loadDnoMappingFile host env.files stdinPath metadata g dnotype
  | .lerg => loadLergMappingFile host env.files stdinPath metadata g
  | .youmail => loadYoumailMappingFile host env.files stdinPath metadata g
  | .geo => loadGeoMappingFile host env.files stdinPath metadata g
  | .ftc => loadFtcMappingFile host env.files stdinPath metadata g
  | .f404 => load404MappingFile host env.files stdinPath metadata g
  | .f606 => load606MappingFile host env.files stdinPath metadata g

/-- The branch of a command: whether `status` becomes 'S', and the globals after it. -/
def Command.run : Command → Except Stop (Bool × Globals)
  | .reload => loadMappingFile host env.files stdinPath metadata g
  | .table r => r.run host env stdinPath metadata g
  | .verify => do
    let same ← verifyMappingFile host env.files stdinPath metadata g
    return (same, g)
  | .dump => do
    let written ← dumpMappingFile host env.sinks stdoutPath metadata g
    return (written.isSome, g)
  | .acl => loadACLFile host env.files stdinPath g
  | .metadata => do
    forM g.printed printMetadata
    return (true, g)
  | .unrecognized => .ok (false, g)

end Run

/-! ## 2. A message -/

/-- `mapfd(index)`: the `int` the lambda takes is what is left of the `int64_t`. -/
def mapfd (argfd : List ℤ) (index : Int64) : Except Stop ℤ :=
  if 0 ≤ index.toInt32 then
    match argfd[index.toInt32.toNatClampNeg]? with
    | some fd => .ok fd
    | none => .error (.exn .outOfRange)
  else .ok index.toInt32.toInt

/-- `mapfd(msg.getDefault(key, -1).asInt())`. -/
def descriptor (argfd : List ℤ) (msg : Dynamic) (key : String) : Except Stop ℤ := do
  mapfd argfd (← (← msg.getDefault key (.int (-1))).asInt)

/-- `folly::sformat("/proc/self/fd/{}", fd)`. -/
def fdPath (fd : ℤ) : Text := Dynamic.text ("/proc/self/fd/" ++ toString fd)

/-- The message without the members `dispatch` erases: what the commands get as metadata. -/
def metadataOf (msg : Dynamic) : Except Stop Dynamic := do
  let msg ← msg.erase "stdin"
  let msg ← msg.erase "stdout"
  let msg ← msg.erase "stderr"
  msg.erase "cmd"

/-- The `try` block of `dispatch` up to the status. -/
def serve (host : Host) (env : Env) (argfd : List ℤ) (msg : Dynamic) (g : Globals) :
    Except Stop (Bool × Globals) := do
  let cmd ← (← msg.getDefault "cmd" .null).asString host.showDouble
  let stdin ← descriptor argfd msg "stdin"
  let stdout ← descriptor argfd msg "stdout"
  let _stderr ← descriptor argfd msg "stderr"
  let metadata ← metadataOf msg
  (Command.ofText cmd).run host env (fdPath stdin) (fdPath stdout) metadata g

/-- What a call did: the bytes it sent, the descriptors it closed, the globals it left. -/
structure Reply where
  sent : List Char
  closed : List ℤ
  globals : Globals

/-- `dispatch`.  An exception leaves the block before the byte is sent; undefined behaviour
leaves no reply at all. -/
def dispatch (host : Host) (env : Env) (argfd : List ℤ) (msg : Dynamic) (g : Globals) :
    Except Fault Reply :=
  match serve host env argfd msg g with
  | .ok (success, g') => .ok ⟨[if success then 'S' else 'F'], argfd, g'⟩
  | .error (.exn _) => .ok ⟨[], [], g⟩
  | .error (.undefined f) => .error f

/-! ## 3. What keeps a reload from being answered -/

/-- The global a reload commits to. -/
def Reload.table : Reload → Table
  | .dnc => .dnc
  | .tollFree => .tollFree
  | .dno _ => .dno
  | .lerg => .lerg
  | .youmail => .youmail
  | .geo => .geo
  | .ftc => .ftc
  | .f404 => .f404
  | .f606 => .f606

/-- The builder a reload uses. -/
def Reload.loader : (r : Reload) → Loader (Dataset r.table)
  | .dnc => DncMapping.loader
  | .tollFree => TollFreeMapping.loader
  | .dno dnotype => DnoMapping.loader dnotype
  | .lerg => LergMapping.loader
  | .youmail => YoumailMapping.loader
  | .geo => GeoMapping.loader
  | .ftc => FtcMapping.loader
  | .f404 => F404Mapping.loader
  | .f606 => F606Mapping.loader

theorem Reload.run_eq (host : Host) (env : Env) (path : Text) (metadata : Dynamic) (g : Globals)
    (r : Reload) :
    r.run host env path metadata g = r.loader.loadFile host env.files path metadata g := by
  cases r <;> rfl

/-- The line carries a number no parser of the table accepts, or lacks a column that is read. -/
def Reload.BadLine : (r : Reload) → Dataset r.table → Text → Prop
  | .dnc, _, linebuf => (deleteCharacter linebuf ',').all isspace = true
  | .tollFree, _, linebuf =>
    startsWithDigit linebuf = true ∧ (splitLine linebuf).length = 3 ∧
      isNumeral (column (splitLine linebuf) 0) = false
  | .dno _, _, linebuf =>
    startsWithDigit linebuf = true ∧ (splitLine linebuf).length = 3 ∧
      isNumeral (deleteCharacter (column (splitLine linebuf) 0) '-') = false
  | .lerg, _, linebuf =>
    startsWithDigit linebuf = true ∧ (splitLine linebuf).length = 10 ∧
      (let column := column (splitLine linebuf)
       if column 2 = [] then LergMapping.badNpaNxx (column 0) (column 1)
       else LergMapping.badNpaNxxX (column 0) (column 1) (column 2)) = true
  | .youmail, _, linebuf =>
    startsWith '+' linebuf = true ∧ YoumailMapping.admits linebuf (splitLine linebuf) = true ∧
      isNumeral (YoumailMapping.erasePlusOne (column (splitLine linebuf) 0)) = false
  | .geo, d, linebuf =>
    19 ≤ (splitLine linebuf).length ∧
      (isNumeral (column (splitLine linebuf) 0) = false ∨
        ((splitLine linebuf).length = 19 ∧
          Fresh d (UInt64.ofInt (signedValue (column (splitLine linebuf) 0)))))
  | .ftc, d, linebuf =>
    startsWithDigit linebuf = true ∧ 5 ≤ (splitLine linebuf).length ∧
      (isNumeral (column (splitLine linebuf) 1) = false ∨
        ((splitLine linebuf).length = 5 ∧
          Fresh d (UInt64.ofInt (signedValue (column (splitLine linebuf) 1)))))
  | .f404, _, linebuf | .f606, _, linebuf =>
    startsWithDigit linebuf = true ∧ 3 ≤ (splitLine linebuf).length ∧
      isNumeral (FailureMapping.dropFirst (column (splitLine linebuf) 0)) = false

theorem Reload.escapes_iff_badLine (r : Reload) (d : Dataset r.table) (linebuf : Text) :
    Escapes (r.loader.fromCSVLine d linebuf) ↔ r.BadLine d linebuf := by
  cases r with
  | dnc => exact DncMapping.fromCSVLine_escapes_iff
  | tollFree => exact TollFreeMapping.fromCSVLine_escapes_iff
  | dno dnotype => exact DnoMapping.fromCSVLine_escapes_iff
  | lerg => exact LergMapping.fromCSVLine_escapes_iff
  | youmail => exact YoumailMapping.fromCSVLine_escapes_iff
  | geo => exact GeoMapping.fromCSVLine_escapes_iff
  | ftc => exact FtcMapping.fromCSVLine_escapes_iff
  | f404 => exact FailureMapping.fromCSVLine_escapes_iff
  | f606 => exact FailureMapping.fromCSVLine_escapes_iff

/-- A bad line stands behind lines that were all accepted. -/
def Reload.MeetsBadLine (r : Reload) (metadata : Dynamic) (content : Text) : Prop :=
  ∃ pre line post d, pieces '\n' content = pre ++ line :: post ∧
    pre.foldlM r.loader.fromCSVLine (r.loader.setMetadata r.loader.empty metadata) = .ok d ∧
    r.BadLine d line

theorem Reload.foldLines_escapes_iff (r : Reload) (metadata : Dynamic) (content : Text) :
    Escapes (r.loader.foldLines metadata content) ↔ r.MeetsBadLine metadata content := by
  rw [Loader.foldLines, foldlM_escapes_iff]
  constructor
  · rintro ⟨pre, line, post, d, hcut, hpre, hesc⟩
    exact ⟨pre, line, post, d, hcut, hpre, (r.escapes_iff_badLine d line).mp hesc⟩
  · rintro ⟨pre, line, post, d, hcut, hpre, hbad⟩
    exact ⟨pre, line, post, d, hcut, hpre, (r.escapes_iff_badLine d line).mpr hbad⟩

/-- The load of a table leaves a result exactly when its block does not escape. -/
theorem Loader.readTable_isOk_iff {D : Type} {L : Loader D} {host : Host} {files : Files}
    {path : Text} {metadata : Dynamic} {estimate : Int64} :
    (∃ o, L.readTable host files path metadata estimate = .ok o) ↔
      ¬ Escapes (L.readTable host files path metadata estimate) := by
  constructor
  · rintro ⟨o, ho⟩ ⟨e, he, -⟩
    rw [ho] at he
    cases he
  · exact Loader.readTable_isOk

/-- The metadata decodes, and if the file opens, the hint can be honoured and no bad line is
met. -/
def Reload.Safe (r : Reload) (host : Host) (files : Files) (path : Text) (metadata : Dynamic) :
    Prop :=
  ∃ estimate, rowEstimate host path metadata = .ok estimate ∧
    ∀ content, files path = some content →
      HintOk host estimate ∧ ¬ r.MeetsBadLine metadata content

/-- The block of a table, whether the file opens or not. -/
theorem Reload.readTable_isOk_iff {r : Reload} {host : Host} {files : Files} {path : Text}
    {metadata : Dynamic} {estimate : Int64} :
    (∃ o, r.loader.readTable host files path metadata estimate = .ok o) ↔
      ∀ content, files path = some content →
        HintOk host estimate ∧ ¬ r.MeetsBadLine metadata content := by
  cases hfile : files path with
  | none =>
    refine iff_of_true ⟨none, Loader.readTable_of_closed hfile⟩ ?_
    intro content h
    cases h
  | some content =>
    rw [Loader.readTable_isOk_iff, Loader.readTable_escapes_iff hfile, not_or, not_not,
      Reload.foldLines_escapes_iff]
    simp only [Option.some.injEq, forall_eq']

theorem Reload.run_isOk_iff (host : Host) (env : Env) (path : Text) (metadata : Dynamic)
    (g : Globals) (r : Reload) :
    (∃ out, r.run host env path metadata g = .ok out) ↔ r.Safe host env.files path metadata := by
  rw [Reload.run_eq, Loader.loadFile]
  constructor
  · rintro ⟨out, h⟩
    obtain ⟨estimate, hest, h⟩ := bind_eq_ok.mp h
    obtain ⟨o, hread, -⟩ := map_eq_ok.mp h
    exact ⟨estimate, hest, Reload.readTable_isOk_iff.mp ⟨o, hread⟩⟩
  · rintro ⟨estimate, hest, hsafe⟩
    obtain ⟨o, hread⟩ := Reload.readTable_isOk_iff.mpr hsafe
    exact ⟨r.loader.finish g o, bind_eq_ok.mpr ⟨estimate, hest, map_eq_ok.mpr ⟨o, hread, rfl⟩⟩⟩

/-- `reload` reads one member more, and none of its lines is bad. -/
def SafeReload (host : Host) (files : Files) (path : Text) (metadata : Dynamic) : Prop :=
  ∃ estimate canada, rowEstimate host path metadata = .ok estimate ∧
    isCanada host metadata = .ok canada ∧
    ∀ content, files path = some content → HintOk host estimate

theorem loadMappingFile_isOk_iff (host : Host) (files : Files) (path : Text) (metadata : Dynamic)
    (g : Globals) :
    (∃ out, loadMappingFile host files path metadata g = .ok out) ↔
      SafeReload host files path metadata := by
  constructor
  · rintro ⟨out, h⟩
    obtain ⟨estimate, hest, h⟩ := bind_eq_ok.mp h
    obtain ⟨canada, hcan, h⟩ := bind_eq_ok.mp h
    obtain ⟨o, hread, -⟩ := bind_eq_ok.mp h
    refine ⟨estimate, canada, hest, hcan, ?_⟩
    intro content hfile
    by_contra hhint
    exact Loader.readTable_isOk_iff.mp ⟨o, hread⟩
      ((Loader.readTable_escapes_iff hfile).mpr (Or.inl hhint))
  · rintro ⟨estimate, canada, hest, hcan, hsafe⟩
    have hread : ∃ o, PhoneMapping.loader.readTable host files path metadata estimate = .ok o := by
      cases hfile : files path with
      | none => exact ⟨none, Loader.readTable_of_closed hfile⟩
      | some content =>
        rw [Loader.readTable_isOk_iff, Loader.readTable_escapes_iff hfile]
        rintro (h | h)
        · exact h (hsafe content hfile)
        · exact foldLines_not_escapes h
    obtain ⟨o, hread⟩ := hread
    rw [loadMappingFile_eq hest hcan, hread]
    exact ⟨_, rfl⟩

/-! ## 4. The other commands -/

/-- The country decodes, and if the file opens, the table is there and no one-column line is met,
or the table is null and the first line already does not convert. -/
def SafeVerify (host : Host) (files : Files) (path : Text) (metadata : Dynamic) (g : Globals) :
    Prop :=
  ∃ canada, isCanada host metadata = .ok canada ∧ ∀ content, files path = some content →
    match (g.getMapping canada).data with
    | some data => ¬ MeetsShort data 100 (pieces '\n' content)
    | none => ∃ line lines e, pieces '\n' content = line :: lines ∧ splitUint64 line = .error e

/-- The file does not open. -/
theorem verifyMappingFile_closed {host : Host} {files : Files} {path : Text} {metadata : Dynamic}
    {g : Globals} {canada : Bool} (hcan : isCanada host metadata = .ok canada)
    (hfile : files path = none) : verifyMappingFile host files path metadata g = .ok false := by
  have hblock : verifyBlock host files path (g.getMapping canada) =
      .error (.stop (.exn .iosFailure)) := by
    rw [verifyBlock, openFile, hfile]
    rfl
  simp only [verifyMappingFile, hcan, bind, Except.bind, hblock]
  rfl

section Verify

variable {host : Host} {files : Files} {path content : Text} {metadata : Dynamic} {g : Globals}
  {canada : Bool}

/-- Against a loaded table only a one-column line is in the way. -/
theorem verifyMappingFile_loaded_isOk_iff {data : Data} (hcan : isCanada host metadata = .ok canada)
    (hdb : g.getMapping canada = ⟨some data, none⟩) (hfile : files path = some content) :
    (∃ out, verifyMappingFile host files path metadata g = .ok out) ↔
      ¬ MeetsShort data 100 (pieces '\n' content) := by
  rcases verifyMappingFile_cases hcan hdb hfile with ⟨-, hs, h⟩ | ⟨hs, h⟩ | ⟨-, hs, h⟩
  · exact iff_of_true ⟨_, h⟩ hs
  · refine iff_of_false ?_ (not_not.mpr hs)
    rintro ⟨out, hout⟩
    rw [h] at hout
    cases hout
  · exact iff_of_true ⟨_, h⟩ hs

/-- Against a null table only a first line that does not convert gives an answer. -/
theorem verifyMappingFile_null_isOk_iff (hcan : isCanada host metadata = .ok canada)
    (hdb : g.getMapping canada = ⟨none, none⟩) (hfile : files path = some content) :
    (∃ out, verifyMappingFile host files path metadata g = .ok out) ↔
      ∃ line lines e, pieces '\n' content = line :: lines ∧ splitUint64 line = .error e := by
  rw [verifyMappingFile_null hcan hdb hfile]
  cases pieces '\n' content with
  | nil =>
    refine iff_of_false ?_ ?_
    · rintro ⟨out, hout⟩
      cases hout
    · rintro ⟨line, lines, e, hcons, -⟩
      cases hcons
  | cons line lines =>
    cases hsplit : splitUint64 line with
    | error e => exact iff_of_true ⟨false, by simp [hsplit]⟩ ⟨line, lines, e, rfl, hsplit⟩
    | ok row =>
      refine iff_of_false ?_ ?_
      · rintro ⟨out, hout⟩
        simp [hsplit] at hout
      · rintro ⟨line', lines', e, hcons, he⟩
        cases hcons
        rw [hsplit] at he
        cases he

end Verify

theorem verifyMappingFile_isOk_iff (host : Host) (files : Files) (path : Text) (metadata : Dynamic)
    (g : Globals) :
    (∃ out, verifyMappingFile host files path metadata g = .ok out) ↔
      SafeVerify host files path metadata g := by
  unfold SafeVerify
  cases hcan : isCanada host metadata with
  | error e =>
    refine iff_of_false ?_ ?_
    · rintro ⟨out, h⟩
      rw [verifyMappingFile, hcan] at h
      cases h
    · rintro ⟨canada, h, -⟩
      cases h
  | ok canada =>
    simp only [Except.ok.injEq, exists_eq_left']
    cases hfile : files path with
    | none =>
      refine iff_of_true ⟨false, verifyMappingFile_closed hcan hfile⟩ ?_
      intro content h
      cases h
    | some content =>
      simp only [Option.some.injEq, forall_eq']
      have hdb : g.getMapping canada = ⟨(g.getMapping canada).data, none⟩ := rfl
      cases hdata : (g.getMapping canada).data with
      | some data =>
        rw [hdata] at hdb
        exact verifyMappingFile_loaded_isOk_iff hcan hdb hfile
      | none =>
        rw [hdata] at hdb
        exact verifyMappingFile_null_isOk_iff hcan hdb hfile

/-- The country decodes, and if the file opens, the table is there. -/
def SafeDump (host : Host) (sinks : Sinks) (path : Text) (metadata : Dynamic) (g : Globals) :
    Prop :=
  ∃ canada, isCanada host metadata = .ok canada ∧
    ((sinks path).isSome = true → (g.getMapping canada).data.isSome = true)

theorem dumpMappingFile_isOk_iff (host : Host) (sinks : Sinks) (path : Text) (metadata : Dynamic)
    (g : Globals) :
    (∃ out, dumpMappingFile host sinks path metadata g = .ok out) ↔
      SafeDump host sinks path metadata g := by
  unfold SafeDump
  cases hcan : isCanada host metadata with
  | error e =>
    refine iff_of_false ?_ ?_
    · rintro ⟨out, h⟩
      rw [dumpMappingFile, hcan] at h
      cases h
    · rintro ⟨canada, h, -⟩
      cases h
  | ok canada =>
    have hrun : dumpMappingFile host sinks path metadata g =
        catchRuntimeError (dumpBlock host sinks path ⟨(g.getMapping canada).data, none⟩) := by
      rw [dumpMappingFile, hcan]
      rfl
    rw [hrun]
    cases hsink : sinks path with
    | none =>
      rw [dumpBlock_closed hsink]
      refine iff_of_true ⟨none, rfl⟩ ⟨canada, rfl, ?_⟩
      intro h
      cases h
    | some accepts =>
      cases hdata : (g.getMapping canada).data with
      | none =>
        rw [dumpBlock_null hsink]
        refine iff_of_false ?_ ?_
        · rintro ⟨out, h⟩
          cases h
        · rintro ⟨c, hc, h⟩
          cases hc
          rw [hdata] at h
          exact absurd (h rfl) (by decide)
      | some data =>
        rw [dumpBlock_eq hsink]
        refine iff_of_true ?_ ⟨canada, rfl, fun _ => by rw [hdata]; rfl⟩
        split
        · exact ⟨_, rfl⟩
        · exact ⟨_, rfl⟩

/-- The metadata of each table that is there is an object `toJson` can print. -/
def SafeMetadata (g : Globals) : Prop :=
  ∀ metadata, some metadata ∈ g.printed →
    ∃ members, metadata = .object members ∧ ∀ kv ∈ members, kv.2.printable = true

theorem printMetadata_isOk_iff {o : Option Dynamic} :
    (∃ u, printMetadata o = .ok u) ↔ ∀ metadata, o = some metadata →
      ∃ members, metadata = .object members ∧ ∀ kv ∈ members, kv.2.printable = true := by
  cases o with
  | none =>
    refine iff_of_true ⟨(), rfl⟩ ?_
    intro metadata h
    cases h
  | some metadata =>
    constructor
    · rintro ⟨u, h⟩ metadata' heq
      cases heq
      obtain ⟨members, hitems, hprint⟩ := bind_eq_ok.mp h
      cases metadata with
      | object ms =>
        cases hitems
        refine ⟨members, rfl, ?_⟩
        split at hprint
        · rename_i hall
          exact List.all_eq_true.mp hall
        · cases hprint
      | _ => cases hitems
    · intro h
      obtain ⟨members, rfl, hall⟩ := h metadata rfl
      refine ⟨(), ?_⟩
      change (if members.all fun kv => kv.2.printable then _ else _) = _
      rw [if_pos (List.all_eq_true.mpr hall)]

/-- A sequence of prints goes through exactly when each of them does. -/
theorem forM_printMetadata_isOk_iff {os : List (Option Dynamic)} :
    (∃ u, forM os printMetadata = .ok u) ↔ ∀ o ∈ os, ∃ u, printMetadata o = .ok u := by
  induction os with
  | nil => exact iff_of_true ⟨(), rfl⟩ fun _ h => absurd h List.not_mem_nil
  | cons o os ih =>
    rw [List.forM_cons, List.forall_mem_cons, ← ih]
    constructor
    · rintro ⟨u, h⟩
      obtain ⟨u', ho, hos⟩ := bind_eq_ok.mp h
      exact ⟨⟨u', ho⟩, u, hos⟩
    · rintro ⟨⟨u', ho⟩, u, hos⟩
      exact ⟨u, bind_eq_ok.mpr ⟨u', ho, hos⟩⟩

theorem loadACLFile_isOk (host : Host) (files : Files) (path : Text) (g : Globals) :
    ∃ out, loadACLFile host files path g = .ok out := by
  have hesc : ¬ Escapes (openFile files path >>= ACL.fromCSV host.acl) := by
    rw [escapes_bind_iff]
    rintro (⟨e, he, hr⟩ | ⟨in_, hopen, he⟩)
    · unfold openFile at he
      split at he
      · cases he
      · cases he
        cases hr
    · unfold openFile at hopen
      split at hopen
      · rename_i content hfile
        cases hopen
        rw [ACL.fromCSV, escapes_map_iff, readLines_ofText, escapes_bind_iff,
          foldlM_escapes_iff] at he
        rcases he with ⟨pre, line, post, st, -, -, e, he, hr⟩ | ⟨st, -, he⟩
        · have hrun := ACL.fromCSVLine_error he
          rw [hr] at hrun
          cases hrun
        · split at he
          · exact not_escapes_ok _ he
          · obtain ⟨e, he, hr⟩ := he
            cases he
            cases hr
      · cases hopen
  unfold loadACLFile
  split
  · exact ⟨_, rfl⟩
  · exact ⟨_, rfl⟩
  · rename_i f hf
    exact absurd ⟨_, hf, rfl⟩ hesc

/-! ## 5. Every command is answered, under these conditions -/

/-- What keeps a command from ending in an exception or worse. -/
def SafeCommand (host : Host) (env : Env) (stdinPath stdoutPath : Text) (metadata : Dynamic)
    (g : Globals) : Command → Prop
  | .reload => SafeReload host env.files stdinPath metadata
  | .table r => r.Safe host env.files stdinPath metadata
  | .verify => SafeVerify host env.files stdinPath metadata g
  | .dump => SafeDump host env.sinks stdoutPath metadata g
  | .acl => True
  | .metadata => SafeMetadata g
  | .unrecognized => True

theorem map_isOk_iff {α β : Type} {x : Except Stop α} {f : α → β} :
    (∃ b, (x >>= fun a => Except.ok (f a)) = .ok b) ↔ ∃ a, x = .ok a := by
  constructor
  · rintro ⟨b, h⟩
    obtain ⟨a, ha, -⟩ := bind_eq_ok.mp h
    exact ⟨a, ha⟩
  · rintro ⟨a, rfl⟩
    exact ⟨f a, rfl⟩

/-- **A command leaves a status exactly when it is safe.** -/
theorem Command.run_isOk_iff (host : Host) (env : Env) (stdinPath stdoutPath : Text)
    (metadata : Dynamic) (g : Globals) (c : Command) :
    (∃ out, c.run host env stdinPath stdoutPath metadata g = .ok out) ↔
      SafeCommand host env stdinPath stdoutPath metadata g c := by
  cases c with
  | reload => exact loadMappingFile_isOk_iff host env.files stdinPath metadata g
  | table r => exact r.run_isOk_iff host env stdinPath metadata g
  | verify =>
    refine Iff.trans ?_ (verifyMappingFile_isOk_iff host env.files stdinPath metadata g)
    exact map_isOk_iff
  | dump =>
    refine Iff.trans ?_ (dumpMappingFile_isOk_iff host env.sinks stdoutPath metadata g)
    exact map_isOk_iff
  | acl => exact iff_of_true (loadACLFile_isOk host env.files stdinPath g) trivial
  | metadata =>
    have hprint : (∃ u, forM g.printed printMetadata = .ok u) ↔ SafeMetadata g := by
      rw [forM_printMetadata_isOk_iff]
      constructor
      · intro h metadata hm
        exact printMetadata_isOk_iff.mp (h _ hm) metadata rfl
      · intro h o ho
        refine printMetadata_isOk_iff.mpr fun metadata heq => ?_
        exact h metadata (heq ▸ ho)
    exact Iff.trans map_isOk_iff hprint
  | unrecognized => exact iff_of_true ⟨_, rfl⟩ trivial

/-- The call sent one byte, 'S' if the operation succeeded and 'F' if not, and closed every
descriptor. -/
def Answered (out : Except Fault Reply) (argfd : List ℤ) (Succeeded : Prop) : Prop :=
  ∃ reply status, out = .ok reply ∧ reply.sent = [status] ∧ (status = 'S' ↔ Succeeded) ∧
    (status = 'F' ↔ ¬ Succeeded) ∧ reply.closed = argfd

/-- A message as the commands see it. -/
structure Decodes (argfd : List ℤ) (msg : Dynamic) (cmd : Text) (stdin stdout : ℤ)
    (metadata : Dynamic) : Prop where
  cmd : msg.getDefault "cmd" .null = .ok (.string cmd)
  stdin : descriptor argfd msg "stdin" = .ok stdin
  stdout : descriptor argfd msg "stdout" = .ok stdout
  stderr : ∃ fd, descriptor argfd msg "stderr" = .ok fd
  metadata : metadataOf msg = .ok metadata

variable {host : Host} {env : Env} {argfd : List ℤ} {msg : Dynamic} {g : Globals} {cmd : Text}
  {stdin stdout : ℤ} {metadata : Dynamic}

theorem Decodes.serve_eq (h : Decodes argfd msg cmd stdin stdout metadata) :
    serve host env argfd msg g =
      (Command.ofText cmd).run host env (fdPath stdin) (fdPath stdout) metadata g := by
  obtain ⟨fd, hfd⟩ := h.stderr
  rw [serve, h.cmd, h.stdin, h.stdout, hfd, h.metadata]
  rfl

/-- A call answers exactly when its command leaves a status. -/
theorem Decodes.answered_iff_isOk (h : Decodes argfd msg cmd stdin stdout metadata) :
    Answered (dispatch host env argfd msg g) argfd
        (∃ g', (Command.ofText cmd).run host env (fdPath stdin) (fdPath stdout) metadata g =
          .ok (true, g')) ↔
      ∃ out, (Command.ofText cmd).run host env (fdPath stdin) (fdPath stdout) metadata g =
        .ok out := by
  rw [dispatch, h.serve_eq]
  cases (Command.ofText cmd).run host env (fdPath stdin) (fdPath stdout) metadata g with
  | error e =>
    refine iff_of_false ?_ ?_
    · rintro ⟨reply, status, hout, hsent, -⟩
      cases e with
      | exn e =>
        cases hout
        cases hsent
      | undefined f => cases hout
    · rintro ⟨out, hout⟩
      cases hout
  | ok out =>
    obtain ⟨success, g'⟩ := out
    refine iff_of_true ⟨_, _, rfl, rfl, ?_, ?_, rfl⟩ ⟨_, rfl⟩
    · cases success with
      | true => exact iff_of_true rfl ⟨g', rfl⟩
      | false =>
        refine iff_of_false (by decide) ?_
        rintro ⟨g'', h⟩
        cases h
    · cases success with
      | true => exact iff_of_false (by decide) fun h => h ⟨g', rfl⟩
      | false =>
        refine iff_of_true rfl ?_
        rintro ⟨g'', h⟩
        cases h

/-- **A control command is answered exactly once, with the right status and every descriptor
closed, exactly when it is safe**: its metadata decode, what they ask to reserve can be reserved,
and no line is met whose number `stoll` rejects or whose columns are too few for what is read;
for `verify` and `dump` the table is there, and for `meta` the metadata print. -/
theorem answered_iff {host : Host} {env : Env} {argfd : List ℤ} {msg : Dynamic} (g : Globals)
    {cmd : Text} {stdin stdout : ℤ} {metadata : Dynamic}
    (h : Decodes argfd msg cmd stdin stdout metadata) :
    Answered (dispatch host env argfd msg g) argfd
        (∃ g', (Command.ofText cmd).run host env (fdPath stdin) (fdPath stdout) metadata g =
          .ok (true, g')) ↔
      SafeCommand host env (fdPath stdin) (fdPath stdout) metadata g (Command.ofText cmd) := by
  rw [h.answered_iff_isOk, Command.run_isOk_iff]

/-- A message with one attached descriptor, which is the file to read. -/
def fileMessage (cmd : String) : Dynamic :=
  .object [(Dynamic.text "cmd", .string (Dynamic.text cmd)), (Dynamic.text "stdin", .int 0)]

theorem decodes_fileMessage (cmd : String) :
    Decodes [7] (fileMessage cmd) (Dynamic.text cmd) 7 (-1) (.object []) :=
  ⟨rfl, rfl, rfl, ⟨-1, rfl⟩, rfl⟩

/-- A `reload` of one row is answered. -/
theorem answered_reload :
    Answered (dispatch Host.plain ⟨fun _ => some (Dynamic.text "1,2\n"), fun _ => none⟩ [7]
        (fileMessage "reload") Globals.initial) [7]
      (∃ g', (Command.ofText (Dynamic.text "reload")).run Host.plain
        ⟨fun _ => some (Dynamic.text "1,2\n"), fun _ => none⟩ (fdPath 7) (fdPath (-1)) (.object [])
        Globals.initial = .ok (true, g')) :=
  (answered_iff Globals.initial (decodes_fileMessage "reload")).mpr
    ⟨0, false, rfl, rfl, fun _ _ => ⟨0, rfl, by decide⟩⟩

/-- A `lerg_reload` of a line whose second column is `abc` is not. -/
theorem not_answered_lerg_reload :
    ¬ Answered (dispatch Host.plain
        ⟨fun _ => some (Dynamic.text "201,abc,,NJ,a,b,c,d,e,f\n"), fun _ => none⟩ [7]
        (fileMessage "lerg_reload") Globals.initial) [7]
      (∃ g', (Command.ofText (Dynamic.text "lerg_reload")).run Host.plain
        ⟨fun _ => some (Dynamic.text "201,abc,,NJ,a,b,c,d,e,f\n"), fun _ => none⟩ (fdPath 7)
        (fdPath (-1)) (.object []) Globals.initial = .ok (true, g')) := by
  rw [(decodes_fileMessage "lerg_reload").answered_iff_isOk, Command.run_isOk_iff]
  rintro ⟨estimate, -, hsafe⟩
  refine (hsafe _ rfl).2 ⟨[], Dynamic.text "201,abc,,NJ,a,b,c,d,e,f", [], _, by decide, rfl, ?_⟩
  have hsplit : splitLine (Dynamic.text "201,abc,,NJ,a,b,c,d,e,f") =
      pieces ',' (Dynamic.text "201,abc,,NJ,a,b,c,d,e,f") := getlines_ofText _ _
  refine ⟨by decide, ?_, ?_⟩
  · rw [hsplit]
    decide
  · rw [hsplit]
    decide

end CallFwd
