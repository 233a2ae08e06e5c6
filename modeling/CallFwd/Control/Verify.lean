/-
# `verifyMappingFile`: comparing a file with the loaded table

What the command is for: true exactly when the lines of the file are the rows of the table, each
once (`Matches`).  What the code does is weaker.  It looks each line up, counts the lines that
DIFFER down from 100 and gives up at zero, and at the end compares the number of lines with the
number of rows; a difference that did not use up the budget is logged and then forgotten.  Of a
line it uses the first two columns, whatever their number.

`verify_cases` says what the scan of the lines does, and `verdict_iff` for which files the answer
is right: three kinds of files are left out, and each is wrong.
-/
import CallFwd.Control.Dump

namespace CallFwd

open Lib PhoneMapping

/-! ## 1. The function -/

/-- How the loop can be left before the end of the file: by `return false` when the budget is
used up, or by a stop. -/
inductive Leave
  | diffLimit
  | stop (s : Stop)
deriving DecidableEq, Repr

/-- A stop inside the loop. -/
def orStop {α : Type} : Except Stop α → Except Leave α
  | .ok a => .ok a
  | .error s => .error (.stop s)

/-- One line of the loop, on `nrows` and `maxdiff`. -/
def verifyLine (prefetch : ℕ+) (db : PhoneMapping) (st : ℕ × ℕ) (linebuf : Text) :
    Except Leave (ℕ × ℕ) := do
  let row ← orStop (splitUint64 linebuf)
  let key ← orStop (subscript row 0)
  let rn ← orStop (db.getRN prefetch key)
  let expected ← orStop (subscript row 1)
  if rn = expected then .ok (st.1 + 1, st.2)
  else if st.2 - 1 = 0 then .error .diffLimit
  else .ok (st.1 + 1, st.2 - 1)

/-- The `try` block: `nrows` at its end. -/
def verifyBlock (host : Host) (files : Files) (path : Text) (db : PhoneMapping) :
    Except Leave ℕ := do
  let in_ ← orStop (openFile files path)
  let st ← readAll (.stop (.exn .iosFailure)) (verifyLine host.prefetch db) CHUNK CHUNK_pos in_
    (0, 100)
  return st.1

/-- `verifyMappingFile`. -/
def verifyMappingFile (host : Host) (files : Files) (path : Text) (metadata : Dynamic)
    (g : Globals) : Except Stop Bool := do
  let canada ← isCanada host metadata
  let db := g.getMapping canada
  match verifyBlock host files path db with
  | .ok nrows => do
    let size ← db.size
    return nrows == size
  | .error .diffLimit => .ok false
  | .error (.stop e) => if e.isRuntimeError then .ok false else .error e

/-! ## 2. One line -/

section Lines

variable {prefetch : ℕ+} {data : Data} {c : Option Cursor}

/-- The line has two columns or more, all of them numbers. -/
def readable (linebuf : Text) : Bool :=
  match splitUint64 linebuf with
  | .ok (_ :: _ :: _) => true
  | _ => false

/-- The line is one number. -/
def short (linebuf : Text) : Bool :=
  match splitUint64 linebuf with
  | .ok [_] => true
  | _ => false

/-- The table has another routing number for the key of the line. -/
def differs (data : Data) (linebuf : Text) : Bool :=
  match splitUint64 linebuf with
  | .ok (pn :: rn :: _) => decide (data.lookup pn ≠ rn)
  | _ => false

theorem splitUint64_ne_nil {linebuf : Text} : splitUint64 linebuf ≠ .ok [] := by
  intro h
  rw [splitUint64] at h
  cases hs : linebuf.splitOn ',' with
  | nil => exact List.splitOn_ne_nil _ _ hs
  | cons p ps =>
    rw [hs, List.mapM_cons, bind_eq_ok] at h
    obtain ⟨a, -, h⟩ := h
    rw [bind_eq_ok] at h
    obtain ⟨as, -, h⟩ := h
    cases h

/-- The four things a line can be to the scan. -/
theorem verifyLine_cases (linebuf : Text) (n m : ℕ) :
    (readable linebuf = true ∧ short linebuf = false ∧
      verifyLine prefetch ⟨some data, c⟩ (n, m) linebuf =
        if differs data linebuf then
          if m - 1 = 0 then .error .diffLimit else .ok (n + 1, m - 1)
        else .ok (n + 1, m)) ∨
    (readable linebuf = false ∧ short linebuf = true ∧
      verifyLine prefetch ⟨some data, c⟩ (n, m) linebuf =
        .error (.stop (.undefined .outOfBounds))) ∨
    (readable linebuf = false ∧ short linebuf = false ∧
      verifyLine prefetch ⟨some data, c⟩ (n, m) linebuf =
        .error (.stop (.exn .conversionError))) := by
  unfold readable short differs verifyLine
  cases hs : splitUint64 linebuf with
  | error e =>
    obtain rfl := splitUint64_error hs
    exact Or.inr (Or.inr ⟨rfl, rfl, rfl⟩)
  | ok row =>
    match row with
    | [] => exact absurd hs splitUint64_ne_nil
    | [pn] =>
      refine Or.inr (Or.inl ⟨rfl, rfl, ?_⟩)
      have hkey : subscript [pn] 0 = .ok pn := rfl
      have hnone : subscript [pn] 1 = .error (.undefined .outOfBounds) := rfl
      simp only [orStop, bind, Except.bind, hkey, hnone, getRN_some]
    | pn :: rn :: rest =>
      refine Or.inl ⟨rfl, rfl, ?_⟩
      have hkey : subscript (pn :: rn :: rest) 0 = .ok pn := rfl
      have hexp : subscript (pn :: rn :: rest) 1 = .ok rn := rfl
      simp only [orStop, bind, Except.bind, hkey, hexp, getRN_some]
      by_cases heq : data.lookup pn = rn
      · simp [heq]
      · simp [heq]

/-! ## 3. The scan of the lines -/

/-- The scan meets a one-column line: nothing before it stops the scan. -/
def MeetsShort (data : Data) (budget : ℕ) (lines : List Text) : Prop :=
  ∃ pre line post, lines = pre ++ line :: post ∧ (∀ l ∈ pre, readable l = true) ∧
    pre.countP (differs data) < budget ∧ short line = true

/-- The scan reaches the end of the lines. -/
def Completes (data : Data) (budget : ℕ) (lines : List Text) : Prop :=
  (∀ l ∈ lines, readable l = true) ∧ lines.countP (differs data) < budget

/-- What makes `verifyMappingFile` return false from inside the loop. -/
def Leave.refuses : Leave → Bool
  | .diffLimit => true
  | .stop s => s.isRuntimeError

theorem meetsShort_cons {budget : ℕ} {line : Text} {lines : List Text}
    (hr : readable line = true) (hs : short line = false) :
    MeetsShort data budget (line :: lines) ↔
      (differs data line = true → 1 < budget) ∧ 0 < budget ∧
      MeetsShort data (if differs data line then budget - 1 else budget) lines := by
  constructor
  · rintro ⟨pre, l, post, hcut, hpre, hcount, hl⟩
    cases pre with
    | nil =>
      obtain ⟨rfl, -⟩ := List.cons.inj hcut
      rw [hs] at hl
      cases hl
    | cons p pre =>
      obtain ⟨rfl, rfl⟩ := List.cons.inj hcut
      rw [List.countP_cons] at hcount
      refine ⟨fun hd => ?_, by omega, pre, l, post, rfl,
        fun x hx => hpre x (List.mem_cons_of_mem _ hx), ?_, hl⟩
      · rw [if_pos hd] at hcount
        omega
      · split
        · rename_i hd
          rw [if_pos hd] at hcount
          omega
        · rename_i hd
          rw [if_neg hd] at hcount
          omega
  · rintro ⟨hb, hpos, pre, l, post, rfl, hpre, hcount, hl⟩
    refine ⟨line :: pre, l, post, rfl, ?_, ?_, hl⟩
    · rintro x hx
      rcases List.mem_cons.mp hx with rfl | hx
      · exact hr
      · exact hpre x hx
    · rw [List.countP_cons]
      split at hcount
      · rename_i hd
        rw [if_pos hd]
        omega
      · rename_i hd
        rw [if_neg hd]
        omega

theorem completes_cons {budget : ℕ} {line : Text} {lines : List Text}
    (hr : readable line = true) :
    Completes data budget (line :: lines) ↔
      (differs data line = true → 1 < budget) ∧
      Completes data (if differs data line then budget - 1 else budget) lines := by
  unfold Completes
  rw [List.forall_mem_cons, List.countP_cons]
  by_cases hd : differs data line = true
  · simp only [if_pos hd]
    constructor
    · rintro ⟨⟨-, hall⟩, hcount⟩
      exact ⟨fun _ => by omega, hall, by omega⟩
    · rintro ⟨hb, hall, hcount⟩
      exact ⟨⟨hr, hall⟩, by omega⟩
  · simp only [if_neg hd]
    constructor
    · rintro ⟨⟨-, hall⟩, hcount⟩
      exact ⟨fun h => absurd h hd, hall, by omega⟩
    · rintro ⟨-, hall, hcount⟩
      exact ⟨⟨hr, hall⟩, by omega⟩

/-- A line that does not read keeps the scan from its end... -/
theorem not_completes_cons {budget : ℕ} {line : Text} {lines : List Text}
    (hr : readable line = false) : ¬ Completes data budget (line :: lines) := by
  intro h
  have := h.1 line List.mem_cons_self
  rw [hr] at this
  cases this

/-- ...and, unless it is a one-column line itself, from those behind it. -/
theorem not_meetsShort_cons {budget : ℕ} {line : Text} {lines : List Text}
    (hr : readable line = false) (hs : short line = false) :
    ¬ MeetsShort data budget (line :: lines) := by
  rintro ⟨pre, l, post, hcut, hpre, -, hl⟩
  cases pre with
  | nil =>
    obtain ⟨rfl, -⟩ := List.cons.inj hcut
    rw [hs] at hl
    cases hl
  | cons p pre =>
    obtain ⟨rfl, -⟩ := List.cons.inj hcut
    have := hpre line List.mem_cons_self
    rw [hr] at this
    cases this

/-- **The scan.**  It completes with the number of lines, it reads behind the end of a one-column
line, or it refuses the file. -/
theorem verify_cases (lines : List Text) (n : ℕ) {budget : ℕ} (hb : 0 < budget) :
    (Completes data budget lines ∧ ¬ MeetsShort data budget lines ∧
      ∃ m, lines.foldlM (verifyLine prefetch ⟨some data, c⟩) (n, budget) =
        .ok (n + lines.length, m)) ∨
    (¬ Completes data budget lines ∧ MeetsShort data budget lines ∧
      lines.foldlM (verifyLine prefetch ⟨some data, c⟩) (n, budget) =
        .error (.stop (.undefined .outOfBounds))) ∨
    (¬ Completes data budget lines ∧ ¬ MeetsShort data budget lines ∧
      ∃ e, lines.foldlM (verifyLine prefetch ⟨some data, c⟩) (n, budget) = .error e ∧
        e.refuses = true) := by
  induction lines generalizing n budget with
  | nil =>
    refine Or.inl ⟨⟨fun _ h => absurd h List.not_mem_nil, hb⟩, ?_, budget, rfl⟩
    rintro ⟨pre, l, post, hcut, -⟩
    simp at hcut
  | cons line lines ih =>
    rw [List.foldlM_cons]
    rcases @verifyLine_cases prefetch data c line n budget with
      ⟨hr, hs, hline⟩ | ⟨hr, hs, hline⟩ | ⟨hr, hs, hline⟩
    · rw [hline, meetsShort_cons hr hs, completes_cons hr]
      by_cases hd : differs data line = true
      · simp only [if_pos hd]
        by_cases hlim : budget - 1 = 0
        · rw [if_pos hlim]
          refine Or.inr (Or.inr ⟨fun h => ?_, fun h => ?_, .diffLimit, rfl, rfl⟩)
          · have := h.1 hd
            omega
          · have := h.1 hd
            omega
        · rw [if_neg hlim]
          have hrest := ih (n + 1) (Nat.pos_of_ne_zero hlim)
          rw [Nat.add_right_comm n 1, Nat.add_assoc] at hrest
          have hroom : differs data line = true → 1 < budget := fun _ => by omega
          rw [iff_true_intro hroom, iff_true_intro hb, true_and, true_and, true_and,
            List.length_cons]
          exact hrest
      · simp only [if_neg hd]
        have hrest := ih (n + 1) hb
        rw [Nat.add_right_comm n 1, Nat.add_assoc] at hrest
        have hskip : differs data line = true → 1 < budget := fun h => absurd h hd
        rw [iff_true_intro hskip, iff_true_intro hb, true_and, true_and, true_and,
          List.length_cons]
        exact hrest
    · rw [hline]
      have hmeets : MeetsShort data budget (line :: lines) :=
        ⟨[], line, lines, rfl, fun _ h => absurd h List.not_mem_nil, hb, hs⟩
      exact Or.inr (Or.inl ⟨not_completes_cons hr, hmeets, rfl⟩)
    · rw [hline]
      exact Or.inr (Or.inr ⟨not_completes_cons hr, not_meetsShort_cons hr hs, _, rfl, rfl⟩)

end Lines

/-! ## 4. The verdict -/

/-- The lines of the file are the rows of the table, each once. -/
def Matches (content : Text) (rows : List (UInt64 × UInt64)) : Prop :=
  ∃ lines, (pieces '\n' content).mapM rowOf = some lines ∧ lines.Perm rows

/-- The right answer about a file. -/
structure Verdict (result : Except Stop Bool) (content : Text) (rows : List (UInt64 × UInt64)) :
    Prop where
  accepts : Matches content rows → result = .ok true
  refuses : ¬ Matches content rows → result = .ok false

variable {host : Host} {files : Files} {path content : Text} {metadata : Dynamic} {g : Globals}
  {canada : Bool} {rows : List (UInt64 × UInt64)} {d : Data}

theorem rowOf_eq_some {linebuf : Text} {r : UInt64 × UInt64} (h : rowOf linebuf = some r) :
    splitUint64 linebuf = .ok [r.1, r.2] := by
  unfold rowOf at h
  split at h
  · rename_i pn rn hs
    cases h
    exact hs
  · cases h

/-- Reading all lines is reading each. -/
theorem mapM_rowOf_eq_some_iff {lines : List Text} {rs : List (UInt64 × UInt64)} :
    lines.mapM rowOf = some rs ↔ lines.map rowOf = rs.map some := by
  induction lines generalizing rs with
  | nil =>
    rw [List.mapM_nil, List.map_nil]
    cases rs with
    | nil => exact iff_of_true rfl rfl
    | cons r rs => exact iff_of_false nofun nofun
  | cons line lines ih =>
    rw [List.mapM_cons, List.map_cons]
    constructor
    · intro h
      obtain ⟨r, hr, h⟩ := Option.bind_eq_some_iff.mp h
      obtain ⟨rs', hrs, h⟩ := Option.bind_eq_some_iff.mp h
      cases h
      rw [hr, ih.mp hrs, List.map_cons]
    · intro h
      cases rs with
      | nil => cases h
      | cons r rs =>
        obtain ⟨hr, hrs⟩ := List.cons.inj h
        rw [hr, ih.mpr hrs]
        rfl

/-- A file that matches is scanned to its end, and has as many lines as there are rows. -/
theorem Matches.completes (h : Holds d rows) (hm : Matches content rows) :
    Completes d.build 100 (pieces '\n' content) ∧ (pieces '\n' content).length = rows.length := by
  obtain ⟨lines, hlines, hperm⟩ := hm
  rw [mapM_rowOf_eq_some_iff] at hlines
  have hline : ∀ l ∈ pieces '\n' content, readable l = true ∧ differs d.build l = false := by
    intro l hl
    have hmem : rowOf l ∈ lines.map some := hlines ▸ List.mem_map_of_mem hl
    obtain ⟨r, hr, hrow⟩ := List.mem_map.mp hmem
    have hlook : Data.lookup d.build r.1 = r.2 := h.lookup (hperm.mem_iff.mp hr)
    rw [readable, differs, rowOf_eq_some hrow.symm]
    exact ⟨rfl, by simp [hlook]⟩
  refine ⟨⟨fun l hl => (hline l hl).1, ?_⟩, ?_⟩
  · rw [List.countP_eq_zero.mpr fun l hl => by simp [(hline l hl).2]]
    decide
  · have hlen := congrArg List.length hlines
    rwa [List.length_map, List.length_map, hperm.length_eq] at hlen

/-- What the scan may overlook: a line that is no row of the table (another routing number, a key
the table does not have, a third column), or a row that stands in two lines. -/
def Flawed (content : Text) (rows : List (UInt64 × UInt64)) : Prop :=
  (∃ l ∈ pieces '\n' content, ∀ r ∈ rows, rowOf l ≠ some r) ∨
    ¬ ((pieces '\n' content).map rowOf).Nodup

/-- With as many lines as rows, nothing else can be wrong: a row that is missing leaves its place
to a line that is no row, or to one that stands twice. -/
theorem matches_iff_not_flawed (h : Holds d rows)
    (hlen : (pieces '\n' content).length = rows.length) :
    Matches content rows ↔ ¬ Flawed content rows := by
  have hnodup : rows.Nodup := List.Nodup.of_map _ h.nodup
  constructor
  · rintro ⟨lines, hlines, hperm⟩
    rw [mapM_rowOf_eq_some_iff] at hlines
    rintro (⟨l, hl, hno⟩ | htwice)
    · have hmem : rowOf l ∈ lines.map some := hlines ▸ List.mem_map_of_mem hl
      obtain ⟨r, hr, hrow⟩ := List.mem_map.mp hmem
      exact hno r (hperm.mem_iff.mp hr) hrow.symm
    · rw [hlines] at htwice
      exact htwice ((hperm.nodup_iff.mpr hnodup).map (Option.some_injective _))
  · intro hgood
    rw [Flawed, not_or, not_not] at hgood
    obtain ⟨hrows, honce⟩ := hgood
    have hrow : ∀ l ∈ pieces '\n' content, ∃ r ∈ rows, rowOf l = some r := by
      intro l hl
      by_contra hno
      exact hrows ⟨l, hl, fun r hr e => hno ⟨r, hr, e⟩⟩
    have hread : (pieces '\n' content).map rowOf =
        ((pieces '\n' content).filterMap rowOf).map some := by
      rw [List.map_filterMap_some_eq_filter_map_isSome, List.filter_eq_self.mpr]
      intro o ho
      obtain ⟨l, hl, rfl⟩ := List.mem_map.mp ho
      obtain ⟨r, -, e⟩ := hrow l hl
      rw [e]
      rfl
    refine ⟨_, mapM_rowOf_eq_some_iff.mpr hread, ?_⟩
    rw [hread] at honce
    have hsub : (pieces '\n' content).filterMap rowOf ⊆ rows := by
      intro r hr
      obtain ⟨l, hl, e⟩ := List.mem_filterMap.mp hr
      obtain ⟨r', hr', e'⟩ := hrow l hl
      rw [e] at e'
      cases e'
      exact hr'
    have hlong := congrArg List.length hread
    rw [List.length_map, List.length_map, hlen] at hlong
    exact (List.subperm_of_subset honce.of_map hsub).perm_of_length_le hlong.le

/-- The loop over a file that opens. -/
theorem verifyBlock_eq (hfile : files path = some content) (db : PhoneMapping) :
    verifyBlock host files path db =
      (pieces '\n' content).foldlM (verifyLine host.prefetch db) (0, 100) >>= fun st =>
        if endsCleanly CHUNK content then .ok st.1 else .error (.stop (.exn .iosFailure)) := by
  rw [verifyBlock, openFile, hfile]
  change (readAll _ (verifyLine host.prefetch db) CHUNK CHUNK_pos (IStream.ofText content) (0, 100)
    >>= fun st => Except.ok st.1) = _
  rw [readAll_ofText]
  cases (pieces '\n' content).foldlM (verifyLine host.prefetch db) (0, 100) with
  | error e => rfl
  | ok st =>
    change ((if endsCleanly CHUNK content then Except.ok st else _) >>= _) =
      if endsCleanly CHUNK content then Except.ok st.1 else _
    cases endsCleanly CHUNK content with
    | true => rfl
    | false => rfl

/-- What the command answers, once the table is chosen and the file is open. -/
theorem verifyMappingFile_eq (hcan : isCanada host metadata = .ok canada)
    (hfile : files path = some content) :
    verifyMappingFile host files path metadata g =
      match (pieces '\n' content).foldlM (verifyLine host.prefetch (g.getMapping canada)) (0, 100)
        >>= fun st => if endsCleanly CHUNK content then Except.ok st.1
          else .error (.stop (.exn .iosFailure)) with
      | .ok nrows => (g.getMapping canada).size >>= fun size => .ok (nrows == size)
      | .error .diffLimit => .ok false
      | .error (.stop e) => if e.isRuntimeError then .ok false else .error e := by
  rw [← verifyBlock_eq hfile, verifyMappingFile, hcan]
  rfl

/-- **What the command answers**, on a table that is not null and a file that opens. -/
theorem verifyMappingFile_cases {data : Data} (hcan : isCanada host metadata = .ok canada)
    (hdb : g.getMapping canada = ⟨some data, none⟩) (hfile : files path = some content) :
    (Completes data 100 (pieces '\n' content) ∧ ¬ MeetsShort data 100 (pieces '\n' content) ∧
      verifyMappingFile host files path metadata g =
        .ok (endsCleanly CHUNK content && (pieces '\n' content).length == data.pnColumn.length)) ∨
    (MeetsShort data 100 (pieces '\n' content) ∧
      verifyMappingFile host files path metadata g = .error (.undefined .outOfBounds)) ∨
    (¬ Completes data 100 (pieces '\n' content) ∧ ¬ MeetsShort data 100 (pieces '\n' content) ∧
      verifyMappingFile host files path metadata g = .ok false) := by
  rw [@verifyMappingFile_eq host files path content metadata g canada hcan hfile, hdb]
  rcases @verify_cases host.prefetch data none (pieces '\n' content) 0 100 (by decide) with
    ⟨hc, hs, m, hfold⟩ | ⟨-, hs, hfold⟩ | ⟨hc, hs, e, hfold, href⟩
  · refine Or.inl ⟨hc, hs, ?_⟩
    rw [hfold]
    cases hend : endsCleanly CHUNK content with
    | true =>
      rw [Nat.zero_add]
      rfl
    | false => rfl
  · refine Or.inr (Or.inl ⟨hs, ?_⟩)
    rw [hfold]
    rfl
  · refine Or.inr (Or.inr ⟨hc, hs, ?_⟩)
    rw [hfold]
    cases e with
    | diffLimit => rfl
    | stop e =>
      have hr : e.isRuntimeError = true := href
      change (if e.isRuntimeError then _ else _) = _
      rw [if_pos hr]

/-- On a null table only a first line that does not convert keeps the command from reading
through the pointer. -/
theorem verifyMappingFile_null (hcan : isCanada host metadata = .ok canada)
    (hdb : g.getMapping canada = ⟨none, none⟩) (hfile : files path = some content) :
    verifyMappingFile host files path metadata g =
      match (pieces '\n' content).head?.map splitUint64 with
      | some (.error _) => .ok false
      | _ => .error (.undefined .nullRead) := by
  rw [@verifyMappingFile_eq host files path content metadata g canada hcan hfile, hdb]
  cases hl : pieces '\n' content with
  | nil =>
    have hend : endsCleanly CHUNK content = true := by
      rw [endsCleanly, hl]
      simp
    rw [hend]
    rfl
  | cons line lines =>
    rw [List.foldlM_cons, verifyLine, List.head?_cons, Option.map_some]
    cases hs : splitUint64 line with
    | error e =>
      obtain rfl := splitUint64_error hs
      rfl
    | ok row =>
      cases row with
      | nil => exact absurd hs splitUint64_ne_nil
      | cons pn row => rfl

/-- **The verdict is right exactly when** the file is none of three kinds: a matching file that
does not end cleanly; a file in which the scan meets a one-column line; a file that the scan
completes, with as many lines as the table has rows, in which it overlooked something. -/
theorem verdict_iff {rows : List (UInt64 × UInt64)} {d : Data} {m : Dynamic}
    (hadd : addRows (MappingData.empty.setMetadata m) rows = .ok d)
    {host : Host} {files : Files} {path content : Text} {metadata : Dynamic} {g : Globals}
    {canada : Bool} (hcan : isCanada host metadata = .ok canada)
    (hdb : g.getMapping canada = build d) (hfile : files path = some content) :
    Verdict (verifyMappingFile host files path metadata g) content rows ↔
      ¬ (Matches content rows ∧ endsCleanly CHUNK content = false) ∧
      ¬ MeetsShort d.build 100 (pieces '\n' content) ∧
      ¬ (Completes d.build 100 (pieces '\n' content) ∧ endsCleanly CHUNK content = true ∧
        (pieces '\n' content).length = rows.length ∧ Flawed content rows) := by
  have h : Holds d rows := Holds.addRows (MappingData.holds_empty.setMetadata m) hadd
  have hrows : d.build.pnColumn.length = rows.length := by
    rw [MappingData.length_pnColumn_build, h.length_pnColumn]
  rcases verifyMappingFile_cases hcan hdb hfile with ⟨hc, hs, hres⟩ | ⟨hs, hres⟩ | ⟨hc, hs, hres⟩
  · rw [hrows] at hres
    constructor
    · intro hv
      refine ⟨?_, hs, ?_⟩
      · rintro ⟨hm, hend⟩
        have hok := hv.accepts hm
        rw [hres, hend] at hok
        cases hok
      · rintro ⟨-, hend, hlen, hflaw⟩
        have hok := hv.refuses fun hm => (matches_iff_not_flawed h hlen).mp hm hflaw
        rw [hres, hend, hlen, beq_self_eq_true] at hok
        cases hok
    · rintro ⟨hclean, -, hkept⟩
      refine ⟨?_, ?_⟩
      · intro hm
        have hend : endsCleanly CHUNK content = true := by
          by_contra hend
          exact hclean ⟨hm, by simpa using hend⟩
        rw [hres, hend, (hm.completes h).2, beq_self_eq_true]
        rfl
      · intro hm
        rw [hres]
        congr 1
        rw [Bool.and_eq_false_iff]
        by_contra hboth
        rw [not_or, Bool.not_eq_false, Bool.not_eq_false, beq_iff_eq] at hboth
        obtain ⟨hend, hlen⟩ := hboth
        rw [matches_iff_not_flawed h hlen, not_not] at hm
        exact hkept ⟨hc, hend, hlen, hm⟩
  · refine iff_of_false (fun hv => ?_) fun hcond => hcond.2.1 hs
    by_cases hm : Matches content rows
    · have hok := hv.accepts hm
      rw [hres] at hok
      cases hok
    · have hok := hv.refuses hm
      rw [hres] at hok
      cases hok
  · have hm : ¬ Matches content rows := fun hm => hc (hm.completes h).1
    exact iff_of_true ⟨fun hm' => absurd hm' hm, fun _ => hres⟩
      ⟨fun h' => hm h'.1, hs, fun h' => hc h'.1⟩

/-- A file with the two rows of the table in another order is accepted. -/
theorem verdict_reordered :
    ∃ d, addRows (MappingData.empty.setMetadata .null) [(1, 2), (3, 4)] = .ok d ∧
      Verdict (verifyMappingFile Host.plain (fun _ => some (Dynamic.text "3,4\n1,2\n")) []
        (.object []) (Globals.initial.commit .us d.build)) (Dynamic.text "3,4\n1,2\n")
        [(1, 2), (3, 4)] := by
  obtain ⟨d, hd⟩ := (@addRows_isOk_iff [(1, 2), (3, 4)] [] (MappingData.empty.setMetadata .null)
    (MappingData.holds_empty.setMetadata .null) (Nat.zero_le _)).mpr ⟨by decide, by decide⟩
  have hmatch : Matches (Dynamic.text "3,4\n1,2\n") [(1, 2), (3, 4)] :=
    ⟨[(3, 4), (1, 2)], by decide, by decide⟩
  refine ⟨d, hd, (@verdict_iff _ d .null hd Host.plain
    (fun _ => some (Dynamic.text "3,4\n1,2\n")) [] _ (.object [])
    (Globals.initial.commit .us d.build) false rfl (by simp [Globals.getMapping, build]) rfl).mpr
    ⟨fun h => absurd h.2 (by decide), ?_, fun h => ?_⟩⟩
  · rintro ⟨pre, line, post, hcut, -, -, hshort⟩
    have hmem : line ∈ pieces '\n' (Dynamic.text "3,4\n1,2\n") := hcut ▸ by simp
    have hall : ∀ l ∈ pieces '\n' (Dynamic.text "3,4\n1,2\n"), short l = false := by decide
    rw [hall line hmem] at hshort
    cases hshort
  · have hd' : Holds d [(1, 2), (3, 4)] :=
      Holds.addRows (MappingData.holds_empty.setMetadata .null) hd
    exact (matches_iff_not_flawed hd' h.2.2.1).mp hmatch h.2.2.2

/-- The table has the row `1,2` and the file the line `1,3`: the command answers true. -/
theorem not_verdict_one_difference :
    ∃ d, addRows (MappingData.empty.setMetadata .null) [(1, 2)] = .ok d ∧
      ¬ Verdict (verifyMappingFile Host.plain (fun _ => some (Dynamic.text "1,3\n")) []
        (.object []) (Globals.initial.commit .us d.build)) (Dynamic.text "1,3\n") [(1, 2)] := by
  obtain ⟨d, hd⟩ := (@addRows_isOk_iff [(1, 2)] [] (MappingData.empty.setMetadata .null)
    (MappingData.holds_empty.setMetadata .null) (Nat.zero_le _)).mpr ⟨by decide, by decide⟩
  have h : Holds d [(1, 2)] := Holds.addRows (MappingData.holds_empty.setMetadata .null) hd
  have hno : ¬ Matches (Dynamic.text "1,3\n") [(1, 2)] := by
    rintro ⟨lines, hlines, hperm⟩
    have hrows : (pieces '\n' (Dynamic.text "1,3\n")).mapM rowOf = some [(1, 3)] := by decide
    rw [hrows] at hlines
    cases hlines
    exact absurd hperm (by decide)
  have hcomp : Completes d.build 100 (pieces '\n' (Dynamic.text "1,3\n")) :=
    ⟨by decide, lt_of_le_of_lt List.countP_le_length (by decide)⟩
  refine ⟨d, hd, ?_⟩
  intro hv
  have hfalse := hv.refuses hno
  rcases @verifyMappingFile_cases Host.plain (fun _ => some (Dynamic.text "1,3\n")) [] _
    (.object []) (Globals.initial.commit .us d.build) false d.build rfl
    (by simp [Globals.getMapping]) rfl with ⟨-, -, hres⟩ | ⟨-, hres⟩ | ⟨hc, -⟩
  · rw [hres, MappingData.length_pnColumn_build, h.length_pnColumn] at hfalse
    exact absurd (Except.ok.inj hfalse) (by decide)
  · rw [hres] at hfalse
    cases hfalse
  · exact hc hcomp

end CallFwd
