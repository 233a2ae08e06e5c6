/-
# `/reverse`: prefixes of routing numbers, and the text that is sent

A prefix of up to ten digits stands for an interval of routing numbers: `onQueryParam` scales it,
and the number behind it, to ten digits.  For each interval the rows of US and then those of CA are
printed, with one handle for each table that is used for all the intervals.  The text is collected
in `record_` and sent whenever it has grown beyond 1000 bytes.

`reverse_body` says what all the pieces make up: for each prefix the rows whose routing number, as
ten digits, STARTS WITH it, sorted by routing number and then by insertion.  The order comes from
the inverse index (`PhoneMapping/Inverse`), the interval from `Lib.isPrefix_leftpad_iff`, and the
flushes fall between lines by `Writer.Wrote.put`.
-/
import CallFwd.Http.Message
import CallFwd.Control.Dump
import CallFwd.Daemon.Handlers
import CallFwd.PhoneMapping.Inverse
import CallFwd.StringPiece
import CallFwd.Lib.StableSort

namespace CallFwd.Http

open Lib

namespace ReverseHandler

/-! ## 1. The handler -/

/-- `record_`, and the pieces that were sent. -/
structure Writer where
  record : Text
  sent : List Text

/-- `record_` grows by a line and is sent when it is longer than 1000 bytes. -/
def Writer.put (w : Writer) (line : Text) : Writer :=
  let record := w.record ++ line
  if 1000 < record.length then ⟨[], w.sent ++ [record]⟩ else ⟨record, w.sent⟩

/-- One row, as text or as JSON. -/
def formatRow (json : Bool) (pn rn : UInt64) : Text :=
  if json then
    Dynamic.text "  \x7b\"pn\": \"" ++ printUint64 pn ++ Dynamic.text "\", \"rn\": \"" ++
      printUint64 rn ++ Dynamic.text "\"\x7d,\n"
  else printUint64 pn ++ [','] ++ printUint64 rn ++ ['\n']

/-- `sendBody(db, json)`: `for (; db.hasRow(); db.advance())`, for at most `fuel` turns. -/
def sendBody (prefetch : ℕ+) (json : Bool) : ℕ → PhoneMapping → Writer →
    Except Stop (PhoneMapping × Writer)
  | 0, _, _ => .error (.undefined .diverges)
  | fuel + 1, db, w =>
    if db.hasRow then do
      let pn ← db.currentPN
      let rn ← db.currentRN
      let w' := w.put (formatRow json pn rn)
      let db' ← db.advance prefetch
      sendBody prefetch json fuel db' w'
    else .ok (db, w)

/-- One turn more than the table has rows. -/
def turns (db : PhoneMapping) : ℕ := (db.data.map fun d => d.pnColumn.length).getD 0 + 1

/-- `db.inverseRNs(range.first, range.second); sendBody(db, json);` -/
def sendRange (prefetch : ℕ+) (json : Bool) (range : UInt64 × UInt64) (db : PhoneMapping)
    (w : Writer) : Except Stop (PhoneMapping × Writer) := do
  let db' ← db.inverseRNs prefetch range.1 range.2
  sendBody prefetch json (turns db') db' w

/-- `for (range : query_) { .. }`, with the two handles. -/
def sendRanges (prefetch : ℕ+) (json : Bool) : List (UInt64 × UInt64) → PhoneMapping →
    PhoneMapping → Writer → Except Stop Writer
  | [], _, _, w => .ok w
  | range :: query, us, ca, w => do
    let (us', w') ← sendRange prefetch json range us w
    let (ca', w'') ← sendRange prefetch json range ca w'
    sendRanges prefetch json query us' ca' w''

/-- `for (i < n) x *= 10;` -/
def scale (n : ℕ) (x : UInt64) : UInt64 := Nat.iterate (· * 10) n x

/-- `onQueryParam(name, value)`: what it appends to `query_`. -/
def onQueryParam (name value : Text) : Option (UInt64 × UInt64) :=
  if name = Dynamic.text "prefix%5B%5D" ∨ name = Dynamic.text "prefix[]" then
    if 10 < value.length then none
    else
      match toUint64 value with
      | .error _ => none
      | .ok asInt => some (scale (10 - value.length) asInt, scale (10 - value.length) (asInt + 1))
  else none

/-- `onRequest(req)`, with the tables that are loaded. -/
def onRequest (px : Proxygen) (prefetch : ℕ+) (g : Globals) (req : HTTPMessage) :
    Except Stop (List Sent) :=
  if req.method ≠ .GET then .ok badRequest
  else do
    let query := (px.splitNameValuePieces req.query).filterMap fun p => onQueryParam p.1 p.2
    let json := isJsonRequested px (req.getSingleOrEmpty .accept)
    let w : Writer := ⟨if json then Dynamic.text "[\n" else [], []⟩
    let w ← sendRanges prefetch json query (g.getMapping false) (g.getMapping true) w
    let record := w.record ++ if json then Dynamic.text "]\n" else []
    let sent := w.sent ++ if record = [] then [] else [record]
    return okHeaders json :: (sent.map Sent.body ++ [.eom])

/-! ## 2. The flushes -/

/-- The lines written so far: the pieces that were sent and `record_` hold them in order, and each
of them whole. -/
def Writer.Wrote (w : Writer) (lines : List Text) : Prop :=
  ∃ (groups : List (List Text)) (last : List Text),
    w.sent = groups.map List.flatten ∧ w.record = last.flatten ∧ groups.flatten ++ last = lines

/-- A flush loses nothing, splits nothing and reorders nothing. -/
theorem Writer.Wrote.put {w : Writer} {lines : List Text} (h : w.Wrote lines) (line : Text) :
    (w.put line).Wrote (lines ++ [line]) := by
  obtain ⟨groups, last, hsent, hrecord, rfl⟩ := h
  have hline : w.record ++ line = (last ++ [line]).flatten := by
    rw [hrecord]
    simp
  by_cases hlong : 1000 < (w.record ++ line).length
  · have hput : w.put line = ⟨[], w.sent ++ [w.record ++ line]⟩ := if_pos hlong
    refine ⟨groups ++ [last ++ [line]], [], ?_, ?_, by simp⟩
    · rw [hput, List.map_append, ← hsent, hline]
      rfl
    · rw [hput, List.flatten_nil]
  · have hput : w.put line = ⟨w.record ++ line, w.sent⟩ := if_neg hlong
    refine ⟨groups, last ++ [line], ?_, ?_, by simp⟩
    · rw [hput, hsent]
    · rw [hput, hline]

/-- The lines of some rows. -/
def linesOf (json : Bool) (rows : List (UInt64 × UInt64)) : List Text :=
  rows.map fun r => formatRow json r.1 r.2

open PhoneMapping

theorem Writer.Wrote.putAll {w : Writer} {lines : List Text} (h : w.Wrote lines)
    (more : List Text) : (more.foldl Writer.put w).Wrote (lines ++ more) := by
  induction more generalizing w lines with
  | nil => simpa using h
  | cons line more ih => simpa using ih (h.put line)

/-- All that is sent in the end, in groups of whole lines: the last piece is there when a line is
left for it. -/
theorem Writer.Wrote.pieces {w : Writer} {lines : List Text} (h : w.Wrote lines)
    (hne : ∀ line ∈ lines, line ≠ []) :
    ∃ groups : List (List Text), (w.sent ++ if w.record = [] then [] else [w.record]) =
      groups.map List.flatten ∧ groups.flatten = lines := by
  obtain ⟨groups, last, hsent, hrecord, rfl⟩ := h
  by_cases hempty : w.record = []
  · have hlast : last = [] := by
      rw [List.eq_nil_iff_forall_not_mem]
      intro line hline
      exact hne line (List.mem_append_right _ hline)
        (List.flatten_eq_nil_iff.mp (hrecord ▸ hempty) line hline)
    refine ⟨groups, ?_, ?_⟩
    · rw [if_pos hempty, List.append_nil, hsent]
    · rw [hlast, List.append_nil]
  · refine ⟨groups ++ [last], ?_, by simp⟩
    rw [if_neg hempty, List.map_append, ← hsent, hrecord]
    rfl

theorem data_of_advance {prefetch : ℕ+} {db db' : PhoneMapping}
    (h : db.advance prefetch = .ok db') : db'.data = db.data := by
  obtain ⟨c, -, h⟩ := bind_eq_ok.mp h
  obtain ⟨data, -, h⟩ := bind_eq_ok.mp h
  obtain ⟨c', -, h⟩ := bind_eq_ok.mp h
  cases h
  rfl

/-- **The run of `sendBody`**: the lines of the rows the handle has to yield, in their order, and a
handle without a cursor. -/
theorem sendBody_of_drain {prefetch : ℕ+} {json : Bool} {fuel : ℕ} {db : PhoneMapping}
    {rows : List (UInt64 × UInt64)} (h : drain prefetch fuel db = .ok (some rows)) (w : Writer) :
    sendBody prefetch json fuel db w =
      .ok (⟨db.data, none⟩, (linesOf json rows).foldl Writer.put w) := by
  induction fuel generalizing db rows w with
  | zero =>
    rw [drain] at h
    cases h
  | succ fuel ih =>
    rw [drain] at h
    split at h
    · rename_i hhas
      obtain ⟨pn, hpn, h⟩ := bind_eq_ok.mp h
      obtain ⟨rn, hrn, h⟩ := bind_eq_ok.mp h
      obtain ⟨db', hadv, h⟩ := bind_eq_ok.mp h
      obtain ⟨rest, hrest, h⟩ := bind_eq_ok.mp h
      cases rest with
      | none => cases h
      | some rest =>
        cases h
        rw [sendBody, if_pos hhas, hpn, hrn, hadv, ← data_of_advance hadv]
        exact ih hrest _
    · rename_i hhas
      cases h
      rw [sendBody, if_neg hhas]
      have hcursor : db.cursor = none := by simpa [hasRow] using hhas
      rw [← hcursor]
      rfl

/-- **One range prints the rows the daemon reads for it** (`Daemon/Handlers`). -/
theorem sendRange_of_rows {prefetch : ℕ+} {json : Bool} {data : Data} {range : UInt64 × UInt64}
    {rows : List (UInt64 × UInt64)}
    (h : CallFwd.ReverseHandler.sendBody prefetch data range = .ok (some rows)) (w : Writer) :
    sendRange prefetch json range ⟨some data, none⟩ w =
      .ok (⟨some data, none⟩, (linesOf json rows).foldl Writer.put w) := by
  obtain ⟨db, hinverse, hdrain⟩ := bind_eq_ok.mp h
  have hdata : db.data = some data := by
    obtain ⟨data', hderef, hcursor⟩ := bind_eq_ok.mp hinverse
    obtain ⟨c, -, hdb⟩ := bind_eq_ok.mp hcursor
    cases hdb
    rfl
  have hturns : turns db = data.pnColumn.length + 1 := by
    rw [turns, hdata]
    rfl
  rw [← hturns] at hdrain
  rw [sendRange, hinverse, ← hdata]
  exact sendBody_of_drain hdrain w

/-! ## 3. A prefix as an interval -/

/-- A routing number as ten digits. -/
def tenDigits (rn : UInt64) : Text := (printUint64 rn).leftpad 10 '0'

/-- A value of `prefix[]`: one to ten digits. -/
def IsPrefixValue (p : Text) : Prop := 0 < p.length ∧ p.length ≤ 10 ∧ Digits p

theorem scale_toNat {n : ℕ} {x : UInt64} (h : x.toNat * 10 ^ n < 2 ^ 64) :
    (scale n x).toNat = x.toNat * 10 ^ n := by
  induction n generalizing x with
  | zero => simp [scale]
  | succ n ih =>
    have hstep : (x * 10).toNat = x.toNat * 10 := by
      rw [UInt64.toNat_mul]
      refine Nat.mod_eq_of_lt (lt_of_le_of_lt ?_ h)
      rw [pow_succ, mul_comm (10 ^ n), ← mul_assoc]
      exact Nat.le_mul_of_pos_right _ (Nat.pow_pos (by decide))
    have hrest : (x * 10).toNat * 10 ^ n = x.toNat * 10 ^ (n + 1) := by
      rw [hstep, pow_succ]
      ring
    change (scale n (x * 10)).toNat = _
    rw [ih (hrest ▸ h), hrest]

/-- The two ends of the interval, neither of them cut off. -/
theorem onQueryParam_prefix_eq {name p : Text} (hp : IsPrefixValue p)
    (hname : name = Dynamic.text "prefix%5B%5D" ∨ name = Dynamic.text "prefix[]") :
    ∃ lo hi, onQueryParam name p = some (lo, hi) ∧
      lo.toNat = decimal p * 10 ^ (10 - p.length) ∧
      hi.toNat = (decimal p + 1) * 10 ^ (10 - p.length) ∧ hi.toNat ≤ 10 ^ 10 := by
  obtain ⟨hpos, hlen, hdig⟩ := hp
  have hne : p ≠ [] := List.length_pos_iff.mp hpos
  have hlt : decimal p < 10 ^ p.length := ofDigitChars_lt hdig
  have hten : 10 ^ p.length * 10 ^ (10 - p.length) = 10 ^ 10 := by
    rw [← pow_add]
    congr 1
    omega
  have hhi : (decimal p + 1) * 10 ^ (10 - p.length) ≤ 10 ^ 10 := by
    rw [← hten]
    exact Nat.mul_le_mul_right _ hlt
  have hlo : decimal p * 10 ^ (10 - p.length) ≤ 10 ^ 10 :=
    le_trans (Nat.mul_le_mul_right _ (Nat.le_succ _)) hhi
  have hsmall : decimal p < 2 ^ 64 :=
    lt_trans (lt_of_lt_of_le hlt (Nat.pow_le_pow_right (by decide) hlen)) (by decide)
  have hread : toUint64 p = .ok (UInt64.ofNat (decimal p)) := by
    rw [toUint64_eq, numeral_of_digits hdig hne]
    simp only [hsmall, if_true]
  have hfrom : (UInt64.ofNat (decimal p)).toNat = decimal p := by
    rw [UInt64.toNat_ofNat']
    exact Nat.mod_eq_of_lt hsmall
  have hto : (UInt64.ofNat (decimal p) + 1).toNat = decimal p + 1 := by
    rw [UInt64.toNat_add, hfrom]
    refine Nat.mod_eq_of_lt (lt_of_le_of_lt ?_ (show 10 ^ 10 < 2 ^ 64 by decide))
    exact le_trans (Nat.succ_le_of_lt hlt) (Nat.pow_le_pow_right (by decide) hlen)
  refine ⟨scale (10 - p.length) (UInt64.ofNat (decimal p)),
    scale (10 - p.length) (UInt64.ofNat (decimal p) + 1), ?_, ?_, ?_, ?_⟩
  · rw [onQueryParam, if_pos hname, if_neg (by omega), hread]
  · rw [scale_toNat (by rw [hfrom]; omega), hfrom]
  · rw [scale_toNat (by rw [hto]; omega), hto]
  · rw [scale_toNat (by rw [hto]; omega), hto]
    exact hhi

/-- **The interval holds the numbers that start with the prefix.** -/
theorem mem_range_iff {p : Text} (hp : IsPrefixValue p) {lo hi rn : UInt64}
    (hlo : lo.toNat = decimal p * 10 ^ (10 - p.length))
    (hhi : hi.toNat = (decimal p + 1) * 10 ^ (10 - p.length)) (hle : hi.toNat ≤ 10 ^ 10) :
    lo ≤ rn ∧ rn < hi ↔ rn.toNat < 10 ^ 10 ∧ p <+: tenDigits rn := by
  rw [UInt64.le_iff_toNat_le, UInt64.lt_iff_toNat_lt]
  constructor
  · rintro ⟨h1, h2⟩
    have hten : rn.toNat < 10 ^ 10 := lt_of_lt_of_le h2 hle
    refine ⟨hten, (isPrefix_leftpad_iff hp.2.2 (by decide) hp.2.1 hten).mpr ⟨?_, ?_⟩⟩
    · exact hlo ▸ h1
    · exact hhi ▸ h2
  · rintro ⟨hten, hpre⟩
    obtain ⟨h1, h2⟩ := (isPrefix_leftpad_iff hp.2.2 (by decide) hp.2.1 hten).mp hpre
    exact ⟨hlo.trans_le h1, h2.trans_eq hhi.symm⟩

/-! ## 4. One prefix and one table -/

/-- A table as it is loaded: built from accepted rows, with some metadata. -/
def Loaded (data : Data) (rows : List (UInt64 × UInt64)) : Prop :=
  ∃ metadata d, addRows (MappingData.empty.setMetadata metadata) rows = .ok d ∧ data = d.build

theorem Loaded.holds {data : Data} {rows : List (UInt64 × UInt64)} (h : Loaded data rows) :
    ∃ d, data = d.build ∧ PhoneMapping.Holds d rows ∧ rows.length ≤ MAXROWS := by
  obtain ⟨metadata, d, hadd, hdata⟩ := h
  have hempty : PhoneMapping.Holds (MappingData.empty.setMetadata metadata) [] :=
    MappingData.holds_empty.setMetadata metadata
  refine ⟨d, hdata, Holds.addRows hempty hadd, ?_⟩
  exact ((addRows_isOk_iff hempty (Nat.zero_le _)).mp ⟨d, hadd⟩).2

/-- Rows with distinct numbers can be loaded. -/
theorem exists_loaded {rows : List (UInt64 × UInt64)} (hnodup : (rows.map Prod.fst).Nodup)
    (hlen : rows.length ≤ MAXROWS) : ∃ data, Loaded data rows := by
  obtain ⟨d, hadd⟩ := (@addRows_isOk_iff rows [] (MappingData.empty.setMetadata .null)
    (MappingData.holds_empty.setMetadata .null) (Nat.zero_le _)).mpr ⟨hnodup, hlen⟩
  exact ⟨d.build, .null, d, hadd, rfl⟩

/-- **What a prefix asks for**: the rows whose routing number has at most ten digits and, written
with ten, starts with the prefix; by routing number, and then by insertion. -/
def rowsWith (rows : List (UInt64 × UInt64)) (p : Text) : List (UInt64 × UInt64) :=
  (rows.filter fun r => decide (r.2.toNat < 10 ^ 10 ∧ p <+: tenDigits r.2)).insertionSort
    fun a b => a.2 ≤ b.2

/-- Rows without repetition are ordered by their places. -/
theorem pairwise_idxOf {rows : List (UInt64 × UInt64)} (h : rows.Nodup) :
    rows.Pairwise fun a b => rows.idxOf a < rows.idxOf b := by
  rw [List.pairwise_iff_getElem]
  intro i j hi hj hij
  rwa [h.idxOf_getElem, h.idxOf_getElem]

/-- The sorted index, cut to an interval, is the stable sort of the rows in it. -/
theorem filter_sorted_eq {d : Data} {rows : List (UInt64 × UInt64)} (h : PhoneMapping.Holds d rows)
    (hlen : rows.length ≤ MAXROWS) (hrn : ∀ r ∈ rows, r.2.toNat < 2 ^ 34)
    (q : UInt64 × UInt64 → Bool) :
    ((sorted d).map (rowAt rows)).filter q =
      (rows.filter q).insertionSort fun a b => a.2 ≤ b.2 := by
  have hnodup : rows.Nodup := List.Nodup.of_map Prod.fst h.nodup
  refine @eq_insertionSort _ (fun a b => a.2 ≤ b.2) _ (fun a b => rows.idxOf a < rows.idxOf b)
    (fun a b => UInt64.le_total a.2 b.2) (fun a b c => UInt64.le_trans) (fun a b => Nat.lt_asymm)
    _ _ ((pairwise_idxOf hnodup).filter q) ((sorted_rowAt_perm h hlen).filter q) ?_
  refine ((sorted_before h hlen hrn).filter q).imp ?_
  intro a b hbefore
  rcases hbefore with hlt | ⟨heq, hidx⟩
  · exact ⟨UInt64.le_of_lt hlt, fun hle => absurd hlt (UInt64.not_lt.mpr hle)⟩
  · exact ⟨UInt64.le_of_eq heq, fun _ => hidx⟩

/-- **One range**: the handle goes through the rows of the prefix, and is ready for the next. -/
theorem sendRange_prefix_eq {prefetch : ℕ+} {json : Bool} {data : Data}
    {rows : List (UInt64 × UInt64)} (hload : Loaded data rows)
    (hfit : ∀ r ∈ rows, r.1.toNat < 2 ^ 34 ∧ r.2.toNat < 2 ^ 34) {p : Text} (hp : IsPrefixValue p)
    {lo hi : UInt64} (hlo : lo.toNat = decimal p * 10 ^ (10 - p.length))
    (hhi : hi.toNat = (decimal p + 1) * 10 ^ (10 - p.length)) (hle : hi.toNat ≤ 10 ^ 10)
    {w : Writer} {lines : List Text} (hw : w.Wrote lines) :
    ∃ w', sendRange prefetch json (lo, hi) ⟨some data, none⟩ w = .ok (⟨some data, none⟩, w') ∧
      w'.Wrote (lines ++ linesOf json (rowsWith rows p)) := by
  obtain ⟨d, rfl, hholds, hlen⟩ := hload.holds
  have hten : (10 : ℕ) ^ 10 < 2 ^ 34 := by decide
  have hlofit : lo.toNat < 2 ^ 34 := by
    refine lt_of_le_of_lt ?_ (lt_of_le_of_lt hle hten)
    rw [hlo, hhi]
    exact Nat.mul_le_mul_right _ (Nat.le_succ _)
  obtain ⟨db, hrun, hyields⟩ := @inverseRNs_yields d rows prefetch hholds hlen none lo hi
  rw [interval_rows hholds hlen hfit hlofit (lt_of_le_of_lt hle hten),
    filter_sorted_eq hholds hlen fun r hr => (hfit r hr).2] at hyields
  have hrows : ((rows.filter fun r => decide (lo ≤ r.2 ∧ r.2 < hi)).insertionSort
      fun a b => a.2 ≤ b.2) = rowsWith rows p := by
    rw [rowsWith]
    congr 1
    refine List.filter_congr fun r _ => ?_
    rw [decide_eq_decide]
    exact mem_range_iff hp hlo hhi hle
  rw [hrows] at hyields
  have hcount : (rowsWith rows p).length < d.build.pnColumn.length + 1 := by
    rw [MappingData.length_pnColumn_build, hholds.length_pnColumn, rowsWith,
      List.length_insertionSort]
    exact Nat.lt_succ_of_le (List.length_filter_le _ _)
  have hsend : CallFwd.ReverseHandler.sendBody prefetch d.build (lo, hi) =
      .ok (some (rowsWith rows p)) := bind_eq_ok.mpr ⟨db, hrun, hyields.drain hcount⟩
  exact ⟨_, sendRange_of_rows hsend w, hw.putAll _⟩

/-! ## 5. The whole request -/

/-- The values of `prefix[]`, in the order of the request. -/
def prefixesOf (px : Proxygen) (req : HTTPMessage) : List Text :=
  ((px.splitNameValuePieces req.query).filter fun p =>
    decide (p.1 = Dynamic.text "prefix%5B%5D" ∨ p.1 = Dynamic.text "prefix[]")).map Prod.snd

/-- The lines that answer one prefix: US first, then CA. -/
def answer (json : Bool) (usRows caRows : List (UInt64 × UInt64)) (p : Text) : List Text :=
  linesOf json (rowsWith usRows p) ++ linesOf json (rowsWith caRows p)

section Request

variable {prefetch : ℕ+} {json : Bool} {us ca : Data} {usRows caRows : List (UInt64 × UInt64)}

/-- **The run over the parameters of the query**: other parameters are passed over. -/
theorem sendRanges_prefixes (hus : Loaded us usRows) (hca : Loaded ca caRows)
    (husfit : ∀ r ∈ usRows, r.1.toNat < 2 ^ 34 ∧ r.2.toNat < 2 ^ 34)
    (hcafit : ∀ r ∈ caRows, r.1.toNat < 2 ^ 34 ∧ r.2.toNat < 2 ^ 34)
    (params : List (Text × Text)) {w : Writer} {lines : List Text} (hw : w.Wrote lines)
    (hvalues : ∀ p ∈ params, p.1 = Dynamic.text "prefix%5B%5D" ∨ p.1 = Dynamic.text "prefix[]" →
      IsPrefixValue p.2) :
    ∃ w', sendRanges prefetch json (params.filterMap fun p => onQueryParam p.1 p.2)
        ⟨some us, none⟩ ⟨some ca, none⟩ w = .ok w' ∧
      w'.Wrote (lines ++ ((params.filter fun p =>
        decide (p.1 = Dynamic.text "prefix%5B%5D" ∨ p.1 = Dynamic.text "prefix[]")).map
          Prod.snd).flatMap (answer json usRows caRows)) := by
  induction params generalizing w lines with
  | nil => exact ⟨w, rfl, by simpa using hw⟩
  | cons param params ih =>
    obtain ⟨name, value⟩ := param
    have hrest := fun p hp => hvalues p (List.mem_cons_of_mem _ hp)
    by_cases hname : name = Dynamic.text "prefix%5B%5D" ∨ name = Dynamic.text "prefix[]"
    · have hp : IsPrefixValue value := hvalues (name, value) List.mem_cons_self hname
      obtain ⟨lo, hi, hparam, hlo, hhi, hle⟩ := onQueryParam_prefix_eq hp hname
      obtain ⟨w₁, hrun₁, hw₁⟩ :=
        @sendRange_prefix_eq prefetch json us usRows hus husfit value hp lo hi hlo hhi hle w lines hw
      obtain ⟨w₂, hrun₂, hw₂⟩ :=
        @sendRange_prefix_eq prefetch json ca caRows hca hcafit value hp lo hi hlo hhi hle w₁ _ hw₁
      obtain ⟨w', hrun, hw'⟩ := ih hw₂ hrest
      refine ⟨w', ?_, ?_⟩
      · rw [List.filterMap_cons, hparam, sendRanges, hrun₁]
        change (sendRange prefetch json (lo, hi) ⟨some ca, none⟩ w₁ >>= _) = _
        rw [hrun₂]
        exact hrun
      · rw [List.filter_cons_of_pos (by simpa using hname), List.map_cons, List.flatMap_cons,
          ← List.append_assoc, answer, ← List.append_assoc]
        exact hw'
    · have hparam : onQueryParam name value = none := by rw [onQueryParam, if_neg hname]
      obtain ⟨w', hrun, hw'⟩ := ih hw hrest
      refine ⟨w', ?_, ?_⟩
      · rw [List.filterMap_cons, hparam]
        exact hrun
      · rw [List.filter_cons_of_neg (by simpa using hname)]
        exact hw'

/-- A row that is found is the answer to its number. -/
theorem getRN_of_mem_rowsWith {data : Data} {rows : List (UInt64 × UInt64)}
    (hload : Loaded data rows) {p : Text} {r : UInt64 × UInt64} (hr : r ∈ rowsWith rows p) :
    data.getRN prefetch r.1 = r.2 := by
  obtain ⟨d, rfl, hholds, -⟩ := hload.holds
  have hmem : r ∈ rows :=
    List.mem_of_mem_filter ((List.perm_insertionSort _ _).mem_iff.mp hr)
  rw [getRN_eq_lookup]
  exact hholds.lookup hmem

/-- A line is never empty. -/
theorem ne_nil_of_mem_answer {ps : List Text} {line : Text}
    (h : line ∈ ps.flatMap (answer json usRows caRows)) : line ≠ [] := by
  obtain ⟨p, -, hp⟩ := List.mem_flatMap.mp h
  rcases List.mem_append.mp hp with hp | hp
  all_goals
    obtain ⟨r, -, rfl⟩ := List.mem_map.mp hp
    cases json <;> simp [formatRow, Dynamic.text]

/-- **`/reverse` is the inverse of `/target` by prefix.**  In text mode the pieces of the body are
made of whole lines, and all together they are, prefix by prefix, the lines of the US rows and then
of the CA rows whose routing number starts with the prefix, by routing number and then by
insertion; and each of these pairs is what `getRN` answers. -/
theorem reverse_body (px : Proxygen) (prefetch : ℕ+) {g : Globals} (hgus : g .us = some us)
    (hgca : g .ca = some ca) (hus : Loaded us usRows) (hca : Loaded ca caRows)
    (husfit : ∀ r ∈ usRows, r.1.toNat < 2 ^ 34 ∧ r.2.toNat < 2 ^ 34)
    (hcafit : ∀ r ∈ caRows, r.1.toNat < 2 ^ 34 ∧ r.2.toNat < 2 ^ 34) {req : HTTPMessage}
    (hget : req.method = .GET)
    (htext : isJsonRequested px (req.getSingleOrEmpty .accept) = false)
    (hvalues : ∀ p ∈ prefixesOf px req, IsPrefixValue p) :
    (∃ (groups : List (List Text)) (out : List Sent), onRequest px prefetch g req = .ok out ∧
      out = okHeaders false :: ((groups.map List.flatten).map Sent.body ++ [.eom]) ∧
      groups.flatten = (prefixesOf px req).flatMap (answer false usRows caRows) ∧
      bodyOf out = ((prefixesOf px req).flatMap (answer false usRows caRows)).flatten) ∧
    (∀ p, ∀ r ∈ rowsWith usRows p, us.getRN prefetch r.1 = r.2) ∧
    ∀ p, ∀ r ∈ rowsWith caRows p, ca.getRN prefetch r.1 = r.2 := by
  refine ⟨?_, fun p r => getRN_of_mem_rowsWith hus, fun p r => getRN_of_mem_rowsWith hca⟩
  have hstart : Writer.Wrote ⟨[], []⟩ [] := ⟨[], [], rfl, rfl, rfl⟩
  have hparams : ∀ p ∈ px.splitNameValuePieces req.query,
      p.1 = Dynamic.text "prefix%5B%5D" ∨ p.1 = Dynamic.text "prefix[]" → IsPrefixValue p.2 := by
    intro p hp hname
    refine hvalues p.2 (List.mem_map_of_mem (List.mem_filter.mpr ⟨hp, ?_⟩))
    simpa using hname
  obtain ⟨w, hrun, hwrote⟩ := @sendRanges_prefixes prefetch false
    us ca usRows caRows hus hca husfit hcafit _ _ _ hstart hparams
  rw [List.nil_append] at hwrote
  change w.Wrote ((prefixesOf px req).flatMap (answer false usRows caRows)) at hwrote
  have hsend : onRequest px prefetch g req = .ok (okHeaders false ::
      ((w.sent ++ if w.record = [] then [] else [w.record]).map Sent.body ++ [.eom])) := by
    have hus' : g.getMapping false = ⟨some us, none⟩ := by
      rw [Globals.getMapping, ← hgus]
      rfl
    have hca' : g.getMapping true = ⟨some ca, none⟩ := by
      rw [Globals.getMapping, ← hgca]
      rfl
    simp only [onRequest, hget, htext, hus', hca', hrun, ne_eq, not_true_eq_false, if_false,
      Bool.false_eq_true, List.append_nil, bind, Except.bind, pure, Except.pure]
  obtain ⟨groups, hpieces, hlines⟩ := hwrote.pieces fun line => ne_nil_of_mem_answer
  refine ⟨groups, _, hsend, by rw [hpieces], hlines, ?_⟩
  rw [okHeaders, bodyOf_response _ (by simp), hpieces, ← hlines, List.flatten_flatten]

/-- Two prefixes, one of them of leading zeros, over a row of each kind: the CA row follows the US
row of the first prefix. -/
theorem reverse_body_two_prefixes :
    ∃ (px : Proxygen) (g : Globals) (req : HTTPMessage) (out : List Sent),
      onRequest px 1 g req = .ok out ∧ prefixesOf px req = [['2', '0', '1', '5'], ['0', '0']] ∧
      bodyOf out =
        Dynamic.text "2015550123,2015550000\n4165550100,2015559999\n2012000001,12\n" := by
  let usRows : List (UInt64 × UInt64) := [(2015550123, 2015550000), (2012000001, 12)]
  let caRows : List (UInt64 × UInt64) := [(4165550100, 2015559999)]
  obtain ⟨us, hus⟩ := @exists_loaded usRows (by decide) (by decide)
  obtain ⟨ca, hca⟩ := @exists_loaded caRows (by decide) (by decide)
  have husfit : ∀ r ∈ usRows, r.1.toNat < 2 ^ 34 ∧ r.2.toNat < 2 ^ 34 := by simp [usRows]
  have hcafit : ∀ r ∈ caRows, r.1.toNat < 2 ^ 34 ∧ r.2.toNat < 2 ^ 34 := by simp [caRows]
  let px : Proxygen := ⟨fun _ => [(Dynamic.text "prefix[]", Dynamic.text "2015"),
    (Dynamic.text "prefix[]", Dynamic.text "00")], fun _ => []⟩
  let req : HTTPMessage := ⟨.GET, Dynamic.text "prefix[]=2015&prefix[]=00", []⟩
  let g : Globals := (Globals.initial.commit .us us).commit .ca ca
  have hprefixes : prefixesOf px req = [['2', '0', '1', '5'], ['0', '0']] := by decide
  have hvalues : ∀ p ∈ prefixesOf px req, IsPrefixValue p := by
    rw [hprefixes]
    simp [IsPrefixValue, Digits]
  obtain ⟨⟨groups, out, hrun, -, -, hbody⟩, -⟩ :=
    @reverse_body us ca usRows caRows px 1 g rfl rfl hus hca husfit hcafit req rfl rfl hvalues
  refine ⟨px, g, req, out, hrun, hprefixes, ?_⟩
  rw [hbody, hprefixes]
  decide +kernel

end Request

end ReverseHandler

end CallFwd.Http
