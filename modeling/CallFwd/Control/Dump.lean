/-
# `dumpMappingFile`, and loading what it wrote

The dump walks the row cursor and prints `pn,rn\r\n` for each row, 10000 rows at a time.  Its
loops have no bound of their own; they end because the cursor does, so the model gives them one
turn more than the table has rows, and `dumpAll_of_yields` shows that this is always enough.

`dump_load` composes the two directions: what is written for a mapping whose keys fit the column
is a file that `loadMappingFile` accepts (`loadable_dumpText`), and the mapping that is committed
answers like the one that was dumped.
-/
import CallFwd.Control.LoadMapping
import CallFwd.PhoneMapping.Rows

namespace CallFwd

open Lib PhoneMapping

/-! ## 1. The function -/

/-- What opening a path for writing gives: which bytes can be written there in full, or nothing
when it cannot be opened. -/
abbrev Sinks := Text → Option (Text → Bool)

/-- `PhoneMapping::getUS()` and `PhoneMapping::getCA()`. -/
def Globals.getMapping (g : Globals) (canada : Bool) : PhoneMapping :=
  { data := if canada then g .ca else g .us }

/-- `out << pn << "," << rn << "\r\n"`. -/
def printRow (r : UInt64 × UInt64) : Text :=
  printUint64 r.1 ++ ',' :: printUint64 r.2 ++ ['\r', '\n']

/-- `for (size_t i = 0; i < 10000 && db.hasRow(); ++i) { .. }`, with `limit` turns left. -/
def dumpChunk (prefetch : ℕ+) : ℕ → PhoneMapping → Except Stop (Text × PhoneMapping)
  | 0, db => .ok ([], db)
  | limit + 1, db =>
    if db.hasRow then do
      let pn ← db.currentPN
      let rn ← db.currentRN
      let db' ← db.advance prefetch
      let (text, db'') ← dumpChunk prefetch limit db'
      return (printRow (pn, rn) ++ text, db'')
    else .ok ([], db)

/-- `for (db.visitRows(); db.hasRow(); ) { .. }` behind its first clause, for at most `fuel`
turns; `none` when they do not suffice. -/
def dumpAll (prefetch : ℕ+) : ℕ → PhoneMapping → Except Stop (Option Text)
  | 0, _ => .ok none
  | fuel + 1, db =>
    if db.hasRow then do
      let (text, db') ← dumpChunk prefetch CHUNK db
      let rest ← dumpAll prefetch fuel db'
      return rest.map (text ++ ·)
    else .ok (some [])

/-- `out.open(path)`, with exceptions on. -/
def openSink (sinks : Sinks) (path : Text) : Except Stop (Text → Bool) :=
  match sinks path with
  | some accepts => .ok accepts
  | none => .error (.exn .iosFailure)

/-- The body of the `try` block: what was written.  A write that fails throws, at the latest
from `out.flush()`. -/
def dumpBlock (host : Host) (sinks : Sinks) (path : Text) (db : PhoneMapping) :
    Except Stop Text := do
  let accepts ← openSink sinks path
  let db ← db.visitRows host.prefetch
  let n ← db.size
  match ← dumpAll host.prefetch (n + 1) db with
  | some text => if accepts text then .ok text else .error (.exn .iosFailure)
  | none => .error (.undefined .diverges)

/-- `dumpMappingFile`: the text written when it returns true, nothing when it returns false. -/
def dumpMappingFile (host : Host) (sinks : Sinks) (path : Text) (metadata : Dynamic)
    (g : Globals) : Except Stop (Option Text) := do
  let canada ← isCanada host metadata
  catchRuntimeError (dumpBlock host sinks path (g.getMapping canada))

/-! ## 2. The loops -/

section Loops

variable {prefetch : ℕ+} {data : Data}

/-- A chunk prints the first rows and leaves the others. -/
theorem dumpChunk_of_yields {limit : ℕ} {rows : List (UInt64 × UInt64)} {db : PhoneMapping}
    (h : Yields data db rows) : ∃ db', dumpChunk prefetch limit db =
      .ok ((rows.take limit).flatMap printRow, db') ∧ Yields data db' (rows.drop limit) := by
  induction limit generalizing rows db with
  | zero => exact ⟨db, rfl, h⟩
  | succ limit ih =>
    cases rows with
    | nil =>
      refine ⟨db, ?_, h⟩
      rw [dumpChunk, if_neg (by simp [h.hasRow_nil])]
      rfl
    | cons r rest =>
      obtain ⟨hhas, hpn, hrn, db', hadv, hrest⟩ := @Yields.step prefetch data db r rest h
      obtain ⟨db'', hchunk, hy⟩ := ih hrest
      refine ⟨db'', ?_, hy⟩
      rw [dumpChunk, if_pos hhas, hpn, hrn, hadv]
      change (dumpChunk prefetch limit db' >>= _) = _
      rw [hchunk]
      rfl

/-- **The dump prints every row, in order**, whatever the chunks. -/
theorem dumpAll_of_yields {fuel : ℕ} {rows : List (UInt64 × UInt64)} {db : PhoneMapping}
    (h : Yields data db rows) (hf : rows.length < fuel) :
    dumpAll prefetch fuel db = .ok (some (rows.flatMap printRow)) := by
  induction fuel generalizing rows db with
  | zero => exact absurd hf (Nat.not_lt_zero _)
  | succ fuel ih =>
    cases rows with
    | nil =>
      rw [dumpAll, if_neg (by simp [h.hasRow_nil])]
      rfl
    | cons r rest =>
      obtain ⟨hhas, -⟩ := @Yields.step prefetch data db r rest h
      obtain ⟨db', hchunk, hy⟩ := @dumpChunk_of_yields prefetch data CHUNK (r :: rest) db h
      have hlen : ((r :: rest).drop CHUNK).length < fuel := by
        rw [List.length_drop]
        have := CHUNK_pos
        simp only [List.length_cons] at hf ⊢
        omega
      rw [dumpAll, if_pos hhas, hchunk]
      change (dumpAll prefetch fuel db' >>= _) = _
      rw [ih hy hlen]
      change Except.ok (some (((r :: rest).take CHUNK).flatMap printRow ++
        ((r :: rest).drop CHUNK).flatMap printRow)) = _
      rw [← List.flatMap_append, List.take_append_drop]

end Loops

section Block

variable {host : Host} {sinks : Sinks} {path : Text}

/-- The text of a dump: the rows as the cursor reports them. -/
def dumpText (data : Data) : Text :=
  ((List.range' 0 data.pnColumn.length).map fun i =>
    reported data (phoneAt data.pnColumn i)).flatMap printRow

/-- **The `try` block of a dump**, on any dataset and a file that opens. -/
theorem dumpBlock_eq {accepts : Text → Bool} (hsink : sinks path = some accepts) (data : Data) :
    dumpBlock host sinks path { data := some data } =
      if accepts (dumpText data) then .ok (dumpText data) else .error (.exn .iosFailure) := by
  obtain ⟨db, hvisit, hy⟩ := @visitRows_yields host.prefetch data none
  have hsize : db.size = .ok data.pnColumn.length := by
    rw [PhoneMapping.size, deref, hy.1]
    rfl
  have hdump : dumpAll host.prefetch (data.pnColumn.length + 1) db = .ok (some (dumpText data)) :=
    dumpAll_of_yields hy (by simp)
  rw [dumpBlock, openSink, hsink]
  change (visitRows host.prefetch { data := some data } >>= _) = _
  rw [hvisit]
  change (db.size >>= _) = _
  rw [hsize]
  change (dumpAll host.prefetch (data.pnColumn.length + 1) db >>= _) = _
  rw [hdump]
  rfl

/-- On a null table the block reads through the pointer. -/
theorem dumpBlock_null {accepts : Text → Bool} (hsink : sinks path = some accepts) :
    dumpBlock host sinks path { data := none } = .error (.undefined .nullRead) := by
  rw [dumpBlock, openSink, hsink]
  rfl

theorem dumpBlock_closed (hsink : sinks path = none) (db : PhoneMapping) :
    dumpBlock host sinks path db = .error (.exn .iosFailure) := by
  rw [dumpBlock, openSink, hsink]
  rfl

end Block

/-! ## 3. The text is a loadable file -/

theorem newline_not_mem_printUint64 (n : UInt64) : '\n' ∉ printUint64 n := by
  intro h
  have := isDigit_of_mem_printUint64 h
  exact absurd this (by decide)

theorem comma_not_mem_printUint64 (n : UInt64) : ',' ∉ printUint64 n := by
  intro h
  have := isDigit_of_mem_printUint64 h
  exact absurd this (by decide)

/-- The line of a row, without its newline. -/
def rowLine (r : UInt64 × UInt64) : Text := printUint64 r.1 ++ ',' :: (printUint64 r.2 ++ ['\r'])

theorem printRow_eq (r : UInt64 × UInt64) : printRow r = rowLine r ++ ['\n'] := by
  simp [printRow, rowLine]

theorem newline_not_mem_rowLine (r : UInt64 × UInt64) : '\n' ∉ rowLine r := by
  rw [rowLine, List.mem_append, List.mem_cons, List.mem_append]
  rintro (h | h | h | h)
  · exact newline_not_mem_printUint64 _ h
  · exact absurd h (by decide)
  · exact newline_not_mem_printUint64 _ h
  · exact absurd h (by decide)

theorem comma_not_mem_second (n : UInt64) : ',' ∉ printUint64 n ++ ['\r'] := by
  rw [List.mem_append]
  rintro (h | h)
  · exact comma_not_mem_printUint64 _ h
  · exact absurd h (by decide)

/-- A printed line reads back as its row: the `'\r'` is whitespace behind the number. -/
theorem rowOf_rowLine (r : UInt64 × UInt64) : rowOf (rowLine r) = some r := by
  have hsplit : (rowLine r).splitOn ',' = [printUint64 r.1, printUint64 r.2 ++ ['\r']] := by
    rw [rowLine, List.splitOn_append_cons_self_of_not_mem (comma_not_mem_printUint64 _),
      List.splitOn_eq_singleton (comma_not_mem_second _)]
  have h1 : toUint64 (printUint64 r.1) = .ok r.1 := by
    have := @toUint64_printUint64 r.1 [] (by simp)
    rwa [List.append_nil] at this
  have h2 : toUint64 (printUint64 r.2 ++ ['\r']) = .ok r.2 :=
    toUint64_printUint64 r.2 (List.forall_mem_singleton.mpr rfl)
  have hrow : splitUint64 (rowLine r) = .ok [r.1, r.2] := by
    rw [splitUint64, hsplit, List.mapM_cons, h1, List.mapM_cons, h2]
    rfl
  rw [rowOf, hrow]

/-- The lines of a printed file. -/
theorem pieces_printRows (rows : List (UInt64 × UInt64)) :
    pieces '\n' (rows.flatMap printRow) = rows.map rowLine := by
  induction rows with
  | nil => rfl
  | cons r rows ih =>
    rw [List.flatMap_cons, printRow_eq, List.append_assoc, List.singleton_append,
      pieces_append_delim _ (newline_not_mem_rowLine r), ih, List.map_cons]

theorem terminated_printRows (rows : List (UInt64 × UInt64)) :
    terminated '\n' (rows.flatMap printRow) = true := by
  induction rows with
  | nil => rfl
  | cons r rows ih =>
    rw [List.flatMap_cons, printRow_eq, List.append_assoc, List.singleton_append,
      terminated_append_delim]
    exact ih

theorem mapM_rowOf_rowLine (rows : List (UInt64 × UInt64)) :
    (rows.map rowLine).mapM rowOf = some rows := by
  induction rows with
  | nil => rfl
  | cons r rows ih =>
    rw [List.map_cons, List.mapM_cons, rowOf_rowLine, ih]
    rfl

/-- **Printed rows with distinct keys that fit a table are a loadable file**, and it ends
cleanly. -/
theorem loadable_printRows {rows : List (UInt64 × UInt64)} (hnd : (rows.map Prod.fst).Nodup)
    (hlen : rows.length ≤ MAXROWS) :
    Loadable (rows.flatMap printRow) rows ∧ endsCleanly CHUNK (rows.flatMap printRow) = true := by
  refine ⟨⟨?_, hnd, hlen⟩, ?_⟩
  · rw [pieces_printRows, mapM_rowOf_rowLine]
  · rw [endsCleanly, terminated_printRows, Bool.true_or]

/-! ## 4. The round trip -/

/-- Two datasets that hold the rows `rows` and answer alike: the same size, the same `getRN` for
every key, the same rows from `visitRows` and from `inverseRNs` for all bounds. -/
structure SameMapping (prefetch : ℕ+) (rows : List (UInt64 × UInt64)) (data data' : Data) :
    Prop where
  size : PhoneMapping.size { data := some data } = .ok rows.length ∧
    PhoneMapping.size { data := some data' } = .ok rows.length
  getRN : ∀ pn, PhoneMapping.getRN prefetch { data := some data } pn =
    PhoneMapping.getRN prefetch { data := some data' } pn
  visited : ∃ db db', visitRows prefetch { data := some data } = .ok db ∧
    visitRows prefetch { data := some data' } = .ok db' ∧
    ∀ fuel, rows.length < fuel →
      drain prefetch fuel db = .ok (some rows) ∧ drain prefetch fuel db' = .ok (some rows)
  inverse : ∀ fromRN toRN, ∃ db db' out,
    inverseRNs prefetch { data := some data } fromRN toRN = .ok db ∧
    inverseRNs prefetch { data := some data' } fromRN toRN = .ok db' ∧
    ∀ fuel, out.length < fuel →
      drain prefetch fuel db = .ok (some out) ∧ drain prefetch fuel db' = .ok (some out)

variable {rows : List (UInt64 × UInt64)} {d d' : Data}

/-- Metadata is invisible to every reader of the rows. -/
theorem sameMapping_of_holds {prefetch : ℕ+} (h : Holds d rows) (h' : Holds d' rows)
    (hlen : rows.length ≤ MAXROWS) (hfit : ∀ r ∈ rows, r.1.toNat < 2 ^ 34) :
    SameMapping prefetch rows d.build d'.build := by
  have hvisit : ∀ {e : Data}, Holds e rows → ∃ db,
      visitRows prefetch { data := some e.build } = .ok db ∧
      ∀ fuel, rows.length < fuel → drain prefetch fuel db = .ok (some rows) := by
    intro e he
    obtain ⟨db, hrun, hy⟩ := @visitRows_build_yields e rows prefetch he none
    have hmap : rows.map (stored e) = rows.map id :=
      List.map_inj_left.mpr fun r hr => stored_of_fits he hr (hfit r hr)
    rw [hmap, List.map_id] at hy
    exact ⟨db, hrun, fun fuel hf => hy.drain hf⟩
  refine ⟨⟨size_build h, size_build h'⟩, ?_, ?_, fun fromRN toRN => ?_⟩
  · intro pn
    rw [h.eq_setMetadata h', getRN_some, getRN_some]
    rfl
  · obtain ⟨db, hrun, hdrain⟩ := hvisit h
    obtain ⟨db', hrun', hdrain'⟩ := hvisit h'
    exact ⟨db, db', hrun, hrun', fun fuel hf => ⟨hdrain fuel hf, hdrain' fuel hf⟩⟩
  · obtain ⟨db, hrun, hy⟩ := @inverseRNs_yields d rows prefetch h hlen none fromRN toRN
    obtain ⟨db', hrun', hy'⟩ := @inverseRNs_yields d' rows prefetch h' hlen none fromRN toRN
    rw [h.eq_setMetadata h'] at hy'
    exact ⟨db, db', _, hrun, hrun', fun fuel hf => ⟨hy.drain hf, hy'.drain hf⟩⟩

/-- What is dumped for rows whose numbers fit the column. -/
theorem dumpText_build (h : Holds d rows) (hfit : ∀ r ∈ rows, r.1.toNat < 2 ^ 34) :
    dumpText d.build = rows.flatMap printRow := by
  have hmap : rows.map (stored d) = rows.map id :=
    List.map_inj_left.mpr fun r hr => stored_of_fits h hr (hfit r hr)
  rw [dumpText, reported_range h, hmap, List.map_id]

/-- **Loading undoes dumping.**  A mapping built from accepted rows with numbers below `2^34`,
dumped to a file with room for it, leaves a text that any later `loadMappingFile` accepts, whatever
its metadata as long as they decode; what is committed then answers like the mapping that was
dumped. -/
theorem dump_load {rows : List (UInt64 × UInt64)} {d : Data} {m : Dynamic}
    (hadd : addRows (MappingData.empty.setMetadata m) rows = .ok d)
    (hfit : ∀ r ∈ rows, r.1.toNat < 2 ^ 34)
    {host : Host} {sinks : Sinks} {path : Text} {metadata : Dynamic} {g : Globals} {canada : Bool}
    (hcan : isCanada host metadata = .ok canada)
    (hdb : g.getMapping canada = build d)
    {accepts : Text → Bool} (hsink : sinks path = some accepts)
    (haccepts : accepts (rows.flatMap printRow) = true) :
    ∃ text, dumpMappingFile host sinks path metadata g = .ok (some text) ∧
      ∀ {files : Files} {path' : Text} {metadata' : Dynamic} {g' : Globals},
        files path' = some text → MetadataOk host path' metadata' →
        ∃ canada' data', isCanada host metadata' = .ok canada' ∧
          loadMappingFile host files path' metadata' g' =
            .ok (true, commitMapping g' canada' data') ∧
          SameMapping host.prefetch rows d.build data' := by
  have h : Holds d rows := Holds.addRows (MappingData.holds_empty.setMetadata m) hadd
  have hlen : rows.length ≤ MAXROWS := ((addRows_isOk_iff
    (MappingData.holds_empty.setMetadata m) (Nat.zero_le _)).mp ⟨d, hadd⟩).2
  refine ⟨rows.flatMap printRow, ?_, ?_⟩
  · rw [dumpMappingFile, hcan]
    change catchRuntimeError (dumpBlock host sinks path (g.getMapping canada)) = _
    rw [hdb, build, dumpBlock_eq hsink, dumpText_build h hfit, if_pos haccepts]
    rfl
  · rintro files path' metadata' g' hfile ⟨estimate, canada', hest, hcan', hhint⟩
    obtain ⟨hload, hend⟩ := loadable_printRows h.nodup hlen
    obtain ⟨d', hadd', hok⟩ := @loadMappingFile_loadable _ _ _ _ _ g' _ _ hfile hest hcan' hhint
      rows hload hend
    have h' : Holds d' rows := Holds.addRows (MappingData.holds_empty.setMetadata metadata') hadd'
    exact ⟨canada', d'.build, hcan', hok, sameMapping_of_holds h h' hlen hfit⟩

/-- A mapping of one row is dumped as `1,2` and loaded again. -/
theorem dump_load_one_row :
    ∃ d, addRows (MappingData.empty.setMetadata .null) [(1, 2)] = .ok d ∧
      ∃ data', loadMappingFile Host.plain (fun _ => some (Dynamic.text "1,2\r\n")) []
          (.object []) Globals.initial = .ok (true, commitMapping Globals.initial false data') ∧
        SameMapping 16 [(1, 2)] d.build data' := by
  obtain ⟨d, hd⟩ := (@addRows_isOk_iff [(1, 2)] [] (MappingData.empty.setMetadata .null)
    (MappingData.holds_empty.setMetadata .null) (Nat.zero_le _)).mpr ⟨by decide, by decide⟩
  have hfit : ∀ r ∈ [((1 : UInt64), (2 : UInt64))], r.1.toNat < 2 ^ 34 := by simp
  obtain ⟨text, hdump, hload⟩ := @dump_load _ d .null hd hfit Host.plain
    (fun _ => some fun _ => true) [] (.object []) (Globals.initial.commit .us d.build) false rfl
    (by simp [Globals.getMapping, build]) _ rfl rfl
  have h : Holds d [(1, 2)] := Holds.addRows (MappingData.holds_empty.setMetadata .null) hd
  have htext : text = Dynamic.text "1,2\r\n" := by
    have hsame : dumpMappingFile Host.plain (fun _ => some fun _ => true) [] (.object [])
        (Globals.initial.commit .us d.build) = .ok (some (dumpText d.build)) := by
      change catchRuntimeError (dumpBlock Host.plain _ [] { data := some d.build }) = _
      rw [dumpBlock_eq rfl]
      rfl
    rw [hsame, dumpText_build h hfit] at hdump
    cases hdump
    decide
  obtain ⟨canada', data', hcan, hok, hrep⟩ := @hload (fun _ => some text) [] (.object [])
    Globals.initial rfl ⟨0, false, rfl, rfl, 0, rfl, by decide⟩
  cases hcan
  rw [htext] at hok
  exact ⟨d, hd, data', hok, hrep⟩

end CallFwd
