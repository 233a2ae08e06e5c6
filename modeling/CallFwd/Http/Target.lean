/-
# `/target`: from the eleven arrays to the text

`onQueryComplete` fills one array for each table that is available (`Daemon/Handlers`) and then
goes through them by INDEX, under the nine flags, to print one record for each number.  An array
starts out zeroed, so a slot that a lookup writes only in part, or looks at before it writes, is
the same for every number at every place of the batch.

`run_onQueryComplete` says so: the arrays are maps of the numbers.  The text of a batch is then that
of the one-number batches, and the text of one number is written out as `recordText`
(`target_pointwise`).
-/
import CallFwd.Http.Message
import CallFwd.Daemon.Handlers

namespace CallFwd

open Lib Lib.Reader

/-- `LergMapping::getLerg(pn)`: `getLergs(1, &pn, &lerg)` on a record of its own. -/
def LergMapping.Data.getLerg (d : LergMapping.Data) (prefetch : ℕ+) (pn : UInt64) : LergData :=
  (d.getLergs prefetch [pn] [⟨0, [], [], [], [], [], [], []⟩]).headD ⟨0, [], [], [], [], [], [], []⟩

namespace Http.TargetHandler

/-! ## 1. One record -/

/-- What is printed of one number; `none` stands for a table that was not available. -/
structure TargetRecord where
  pn : UInt64
  rn : UInt64
  dno : Option UInt64
  dnc : Option UInt64
  tollfree : Option UInt64
  lerg : Option LergData
  youmail : Option YoumailData
  geo : Option GeoData
  ftc : Option FtcData
  f404 : Option FailureData
  f606 : Option FailureData
deriving DecidableEq, Repr

/-- `folly::format(..)`: each argument behind the literal in front of its placeholder. -/
def format (parts : List (String × Text)) (last : String) : Text :=
  (parts.flatMap fun p => Dynamic.text p.1 ++ p.2) ++ Dynamic.text last

/-- `lrn_str`. -/
def lrnStr (json : Bool) (pn rn : UInt64) : Text :=
  if json then
    if rn ≠ PhoneNumber.NONE then
      format [("\"pn\": \"", printUint64 pn), ("\", \"rn\": \"", printUint64 rn)] "\""
    else format [("\"pn\": \"", printUint64 pn)] "\", \"rn\": null"
  else
    if rn ≠ PhoneNumber.NONE then format [("pn=", printUint64 pn), (",lrn=", printUint64 rn)] ""
    else format [("pn=", printUint64 pn)] ",lrn=null"

/-- `dno_str`, `dnc_str` and `tollfree_str`: "no" where the table is not available or holds 0. -/
def flagStr (name : String) (json : Bool) (flag : Option UInt64) : Text :=
  let answer := if flag.getD 0 = 0 then "no" else "yes"
  if json then format [("\"", Dynamic.text name), ("\": \"", Dynamic.text answer)] "\""
  else format [("", Dynamic.text name), ("=", Dynamic.text answer)] ""

def dnoStr : Bool → Option UInt64 → Text := flagStr "is_dno"

def dncStr : Bool → Option UInt64 → Text := flagStr "is_dnc"

def tollfreeStr : Bool → Option UInt64 → Text := flagStr "is_tollfree"

/-- A record that is there and whose key is not 0. -/
def present {V : Type} (key : V → UInt64) (slot : Option V) : Option V :=
  slot.filter fun v => decide (key v ≠ 0)

/-- `lerg_str`. -/
def lergStr (json : Bool) (slot : Option LergData) : Text :=
  match present LergData.lerg_key slot, json with
  | none, true => Dynamic.text <|
      "\"ocn\":: null, \"operator\": null, \"ocn_type\": null, \"lata\": null, " ++
      "\"rate_center\": null, \"country\": null"
  | some l, true =>
    format [("\"ocn\": \"", l.ocn), ("\", \"operator\": \"", l.company),
      ("\", \"ocn_type\": \"", l.ocn_type), ("\", \"lata\": \"", l.lata),
      ("\", \"rate_center\": \"", l.rate_center), ("\", \"country\": \"", l.country)] "\""
  | none, false => Dynamic.text <|
      "ocn=null, operator=null, ocn_type=null, lata=null, rate_center=null, country=null "
  | some l, false =>
    format [("ocn=", l.ocn), (", operator=", l.company), (", ocn_type=", l.ocn_type),
      (", lata=", l.lata), (", rate_center=", l.rate_center), (", country=", l.country)] ""

/-- `youmail_str`. -/
def youmailStr (json : Bool) (slot : Option YoumailData) : Text :=
  match present YoumailData.pn slot, json with
  | none, true => Dynamic.text <|
      "\"youmail_SpamScore\": null, \"youmail_FraudProbability\": null, " ++
      "\"youmail_Unlawful\": null, \" youmail_TCPAFraudProbability\": null"
  | some y, true =>
    format [("\"youmail_SpamScore\": \"", y.sapmscore),
      ("\", \"youmail_FraudProbability\": \"", y.fraudprobability),
      ("\", \"youmail_Unlawful\": \"", y.unlawful),
      ("\", \"youmail_TCPAFraudProbability\": \"", y.tcpafraud)] "\""
  | none, false => Dynamic.text <|
      "youmail_SpamScore=null, youmail_FraudProbability=null, youmail_Unlawful=null, " ++
      "youmail_TCPAFraudProbability=null"
  | some y, false =>
    format [("youmail_SpamScore=", y.sapmscore), (", youmail_FraudProbability=", y.fraudprobability),
      (", youmail_Unlawful=", y.unlawful), (", youmail_TCPAFraudProbability=", y.tcpafraud)] ""

/-- `geo_str`. -/
def geoStr (json : Bool) (slot : Option GeoData) : Text :=
  match present GeoData.npanxx slot, json with
  | none, true => Dynamic.text <|
      "\"zipcode\": null, \"county\": null, \"city\": null, \" latitude\": null, " ++
      "\" longitude\": null, \" timezone\": null"
  | some x, true =>
    format [("\"zipcode\": \"", x.zipcode), ("\", \"county\": \"", x.county),
      ("\", \"city\": \"", x.city), ("\", \"latitude\": \"", x.latitude),
      ("\", \"longitude\": \"", x.longitude), ("\", \"timezone\": \"", x.timezone)] "\""
  | none, false => Dynamic.text <|
      "zipcode=null, county=null, city=null, latitude=null, longitude=null, timezone=null"
  | some x, false =>
    format [("zipcode=", x.zipcode), (", county=", x.county), (", city=", x.city),
      (", latitude=", x.latitude), (", longitude=", x.longitude), (", timezone=", x.timezone)] ""

/-- `ftc_str`. -/
def ftcStr (json : Bool) (slot : Option FtcData) : Text :=
  match present FtcData.pn slot, json with
  | none, true => Dynamic.text <|
      "\"is_ftc\": \"no\", \"last_ftc_on\": null, \"first_ftc_on\": null, \"ftc_count\": null"
  | some f, true =>
    format [("\"is_ftc\": \"yes\", \"last_ftc_on\": \"", f.last_ftc_on),
      ("\", \"first_ftc_on\": \"", f.first_ftc_on), ("\", \" ftc_count\": \"", f.ftc_count)] "\""
  | none, false => Dynamic.text "is_ftc=no, last_ftc_on=null, first_ftc_on=null, ftc_count=null"
  | some f, false =>
    format [("is_ftc=yes, last_ftc_on=", f.last_ftc_on), (", first_ftc_on=", f.first_ftc_on),
      (", ftc_count=", f.ftc_count)] ""

/-- `f404_str` and `f606_str`, with the number the columns have in their names. -/
def failureStr (code : String) (json : Bool) (slot : Option FailureData) : Text :=
  match present FailureData.pn slot, json with
  | none, true => Dynamic.text <| "\"first_" ++ code ++ "_on\": null, \"last_" ++ code ++ "_on\": null"
  | some f, true =>
    format [("\"first_" ++ code ++ "_on\": \"", f.first_on),
      ("\", \"last_" ++ code ++ "_on\": \"", f.last_on)] "\""
  | none, false => Dynamic.text <| "first_" ++ code ++ "_on=null, last_" ++ code ++ "_on=null"
  | some f, false =>
    format [("first_" ++ code ++ "_on=", f.first_on), (", last_" ++ code ++ "_on=", f.last_on)] ""

def f404Str : Bool → Option FailureData → Text := failureStr "404"

def f606Str : Bool → Option FailureData → Text := failureStr "6xx"

/-- `folly::format(&record, ..)`. -/
def TargetRecord.print (json : Bool) (r : TargetRecord) : Text :=
  format [("  \x7b", lrnStr json r.pn r.rn), (", ", dnoStr json r.dno), (", ", dncStr json r.dnc),
    (", ", tollfreeStr json r.tollfree), (", ", lergStr json r.lerg),
    (", ", youmailStr json r.youmail), (", ", geoStr json r.geo), (", ", ftcStr json r.ftc),
    (", ", f404Str json r.f404), (", ", f606Str json r.f606)] "\x7d,\n"

/-! ## 2. The loop over the arrays -/

/-- `available ? us_x_[i] : nothing`. -/
def slotAt {V : Type} (column : Option (List V)) (i : ℕ) : Except Stop (Option V) :=
  match column with
  | none => .ok none
  | some column => some <$> subscript column i

/-- `rn = us_rn_[i]; if (rn == PhoneNumber::NONE) rn = ca_rn_[i];` -/
def rnAt (report : TargetReport) (i : ℕ) : Except Stop UInt64 := do
  let rn ← subscript report.us_rn i
  if rn = PhoneNumber.NONE then subscript report.ca_rn i else return rn

/-- The slots with index `i`. -/
def recordAt (report : TargetReport) (i : ℕ) : Except Stop TargetRecord := do
  return {
    pn := ← subscript report.pn i
    rn := ← rnAt report i
    dnc := ← slotAt report.us_dnc i
    dno := ← slotAt report.us_dno i
    tollfree := ← slotAt report.us_tollfree i
    lerg := ← slotAt report.us_lerg i
    youmail := ← slotAt report.us_youmail i
    geo := ← slotAt report.us_geo i
    ftc := ← slotAt report.us_ftc i
    f404 := ← slotAt report.us_f404 i
    f606 := ← slotAt report.us_f606 i }

/-- `for (i = 0; i < N; ++i)`, between the brackets of the JSON array. -/
def printReport (json : Bool) (report : TargetReport) : Except Stop Text := do
  let record ← (List.range report.pn.length).foldlM
    (fun record i => do return record ++ (← recordAt report i).print json)
    (if json then Dynamic.text "[\n" else [])
  return record ++ if json then Dynamic.text "]\n" else []

/-- `onQueryComplete()` with the tables as they are: the calls on `downstream_`. -/
def onQueryComplete (prefetch : Table → ℕ+) (g : Globals) (json : Bool) (pn : List UInt64) :
    Except Stop (List Sent) :=
  match (CallFwd.TargetHandler.onQueryComplete prefetch pn).run g with
  | none => .error (.undefined .nullRead)
  | some report => do
    let record ← printReport json report
    return okHeaders json :: ((if record = [] then [] else [record]).map Sent.body ++ [.eom])

/-! ## 3. The arrays are maps of the numbers -/

/-- The record of one number, each table asked on its own. -/
def answer (prefetch : Table → ℕ+) (g : Globals) (us ca : PhoneMapping.Data) (p : UInt64) :
    TargetRecord :=
  let us_rn := us.getRN (prefetch .us) p
  let ca_rn := ca.getRN (prefetch .us) p
  { pn := p
    rn := if us_rn = PhoneNumber.NONE then ca_rn else us_rn
    dnc := (g .dnc).map fun d => if (d.dict.find p).isSome then 1 else 0
    dno := (g .dno).map fun d => d.fillSlot p 0
    tollfree := (g .tollFree).map fun d => if (d.dict.find p).isSome then 1 else 0
    lerg := (g .lerg).map fun d =>
      d.getLerg (prefetch .lerg) (CallFwd.TargetHandler.lergSearchKey p us_rn ca_rn)
    youmail := (g .youmail).map fun d =>
      copyRecord ({ · with pn := 0 }) (d.dict.find p) ⟨0, [], [], [], []⟩
    geo := (g .geo).map fun d =>
      copyRecord ({ · with npanxx := 0 }) (d.dict.find (p / 10000)) ⟨0, [], [], [], [], [], []⟩
    ftc := (g .ftc).map fun d =>
      copyRecord ({ · with pn := 0 }) (d.dict.find p) ⟨0, [], [], []⟩
    f404 := (g .f404).map fun d =>
      copyRecord ({ · with pn := 0 }) (d.dict.find p) ⟨0, [], []⟩
    f606 := (g .f606).map fun d =>
      copyRecord ({ · with pn := 0 }) (d.dict.find p) ⟨0, [], []⟩ }

section Columns

variable {V : Type} {pn : List UInt64} {i : ℕ}

theorem subscript_map {f : UInt64 → V} (h : i < pn.length) :
    subscript (pn.map f) i = .ok (f pn[i]) := by
  rw [subscript_of_lt (by rwa [List.length_map]), List.getElem_map]

/-- A slot of an array that started out zeroed. -/
theorem subscript_fillBlocks (prefetch : ℕ+) (slot : UInt64 → V → V) (v : V) (h : i < pn.length) :
    subscript (fillBlocks prefetch slot pn (List.replicate pn.length v)) i =
      .ok (slot pn[i] v) := by
  rw [fillBlocks_replicate, subscript_map h]

/-- The slots of one index, of the table or of no table. -/
theorem slotAt_map {D : Type} {table : Option D} {column : D → List V} {slot : D → V}
    (h : ∀ d, subscript (column d) i = .ok (slot d)) :
    slotAt (table.map column) i = .ok (table.map slot) := by
  cases table with
  | none => rfl
  | some d =>
    rw [Option.map_some, Option.map_some, slotAt, h d]
    rfl

end Columns

theorem getLerg_eq (d : LergMapping.Data) (prefetch : ℕ+) (pn : UInt64) :
    d.getLerg prefetch pn = d.fillSlot pn ⟨0, [], [], [], [], [], [], []⟩ := by
  have h := fillBlocks_replicate prefetch d.fillSlot [pn] ⟨0, [], [], [], [], [], [], []⟩
  rw [LergMapping.Data.getLerg, LergMapping.Data.getLergs]
  exact congrArg (fun out => List.headD out _) h

variable {prefetch : Table → ℕ+} {g : Globals} {us ca : PhoneMapping.Data}

/-- The keys LERG is asked for. -/
theorem zipWith3_lergSearchKey (pn : List UInt64) :
    List.zipWith3 CallFwd.TargetHandler.lergSearchKey pn (us.getRNs (prefetch .us) pn)
        (ca.getRNs (prefetch .us) pn) =
      pn.map fun p => CallFwd.TargetHandler.lergSearchKey p (us.getRN (prefetch .us) p)
        (ca.getRN (prefetch .us) p) := by
  rw [PhoneMapping.getRNs_eq_map, PhoneMapping.getRNs_eq_map]
  induction pn with
  | nil => rfl
  | cons p pn ih =>
    rw [List.map_cons, List.map_cons, List.zipWith3, ih, List.map_cons,
      PhoneMapping.getRN_eq_lookup, PhoneMapping.getRN_eq_lookup]

section Slots

variable {pn : List UInt64} {i : ℕ}

theorem subscript_getRNs (d : PhoneMapping.Data) (h : i < pn.length) :
    subscript (d.getRNs (prefetch .us) pn) i = .ok (d.getRN (prefetch .us) pn[i]) := by
  rw [PhoneMapping.getRNs_eq_map, subscript_map h, PhoneMapping.getRN_eq_lookup]

theorem rnAt_eq {report : TargetReport} (hus : report.us_rn = us.getRNs (prefetch .us) pn)
    (hca : report.ca_rn = ca.getRNs (prefetch .us) pn) (h : i < pn.length) :
    rnAt report i = .ok (answer prefetch g us ca pn[i]).rn := by
  rw [rnAt, hus, hca, subscript_getRNs us h, subscript_getRNs ca h, answer, apply_ite Except.ok]
  rfl

/-- LERG is asked for other keys than the numbers, as many of them. -/
theorem subscript_getLergs (d : LergMapping.Data) (h : i < pn.length) :
    subscript (d.getLergs (prefetch .lerg) (List.zipWith3 CallFwd.TargetHandler.lergSearchKey pn
        (us.getRNs (prefetch .us) pn) (ca.getRNs (prefetch .us) pn))
        (List.replicate pn.length ⟨0, [], [], [], [], [], [], []⟩)) i =
      .ok (d.getLerg (prefetch .lerg) (CallFwd.TargetHandler.lergSearchKey pn[i]
        (us.getRN (prefetch .us) pn[i]) (ca.getRN (prefetch .us) pn[i]))) := by
  have hkeys := @zipWith3_lergSearchKey prefetch us ca pn
  have hlen := congrArg List.length hkeys
  rw [List.length_map] at hlen
  rw [← hlen, LergMapping.Data.getLergs, subscript_fillBlocks _ _ _ (hlen ▸ h), getLerg_eq]
  simp only [hkeys, List.getElem_map]

end Slots

/-- **The eleven lookups, slot by slot**: no slot depends on its block, its place or another
number. -/
theorem run_onQueryComplete (hus : g .us = some us) (hca : g .ca = some ca) (pn : List UInt64) :
    ∃ report, (CallFwd.TargetHandler.onQueryComplete prefetch pn).run g = some report ∧
      report.pn = pn ∧
      ∀ (i : ℕ) (h : i < pn.length), recordAt report i = .ok (answer prefetch g us ca pn[i]) := by
  unfold CallFwd.TargetHandler.onQueryComplete
  simp only [run_bind, run_isAvailable, run_getTable hus, run_getTable hca, Option.bind_some,
    @run_getIf g .dnc, @run_getIf g .dno, @run_getIf g .tollFree, @run_getIf g .lerg,
    @run_getIf g .youmail, @run_getIf g .geo, @run_getIf g .ftc, @run_getIf g .f404,
    @run_getIf g .f606]
  refine ⟨_, rfl, rfl, ?_⟩
  intro i h
  have hdnc : slotAt ((g .dnc).map fun d => d.getDNCs (prefetch .dnc) pn (.replicate pn.length 0)) i
      = .ok (answer prefetch g us ca pn[i]).dnc :=
    slotAt_map fun d => subscript_fillBlocks _ _ _ h
  have hdno : slotAt ((g .dno).map fun d => d.getDNOs (prefetch .dno) pn (.replicate pn.length 0)) i
      = .ok (answer prefetch g us ca pn[i]).dno :=
    slotAt_map fun d => subscript_fillBlocks _ _ _ h
  have htollfree : slotAt ((g .tollFree).map fun d =>
      d.getTollFrees (prefetch .tollFree) pn (.replicate pn.length 0)) i
      = .ok (answer prefetch g us ca pn[i]).tollfree :=
    slotAt_map fun d => subscript_fillBlocks _ _ _ h
  have hlerg : slotAt ((g .lerg).map fun d => d.getLergs (prefetch .lerg)
      (List.zipWith3 CallFwd.TargetHandler.lergSearchKey pn (us.getRNs (prefetch .us) pn)
        (ca.getRNs (prefetch .us) pn)) (.replicate pn.length ⟨0, [], [], [], [], [], [], []⟩)) i
      = .ok (answer prefetch g us ca pn[i]).lerg :=
    slotAt_map fun d => subscript_getLergs d h
  have hyoumail : slotAt ((g .youmail).map fun d =>
      d.getYoumails (prefetch .youmail) pn (.replicate pn.length ⟨0, [], [], [], []⟩)) i
      = .ok (answer prefetch g us ca pn[i]).youmail :=
    slotAt_map fun d => subscript_fillBlocks _ _ _ h
  have hgeo : slotAt ((g .geo).map fun d =>
      d.getGeos (prefetch .geo) pn (.replicate pn.length ⟨0, [], [], [], [], [], []⟩)) i
      = .ok (answer prefetch g us ca pn[i]).geo :=
    slotAt_map fun d => subscript_fillBlocks _ _ _ h
  have hftc : slotAt ((g .ftc).map fun d =>
      d.getFtcs (prefetch .ftc) pn (.replicate pn.length ⟨0, [], [], []⟩)) i
      = .ok (answer prefetch g us ca pn[i]).ftc :=
    slotAt_map fun d => subscript_fillBlocks _ _ _ h
  have hf404 : slotAt ((g .f404).map fun d =>
      d.getFailures (prefetch .f404) pn (.replicate pn.length ⟨0, [], []⟩)) i
      = .ok (answer prefetch g us ca pn[i]).f404 :=
    slotAt_map fun d => subscript_fillBlocks _ _ _ h
  have hf606 : slotAt ((g .f606).map fun d =>
      d.getFailures (prefetch .f606) pn (.replicate pn.length ⟨0, [], []⟩)) i
      = .ok (answer prefetch g us ca pn[i]).f606 :=
    slotAt_map fun d => subscript_fillBlocks _ _ _ h
  simp only [recordAt, subscript_of_lt h, hdnc, hdno, htollfree, hlerg, hyoumail, hgeo, hftc, hf404,
    hf606]
  rw [@rnAt_eq prefetch g us ca pn i _ rfl rfl h]
  rfl

/-! ## 4. The text -/

/-- The run of the loop: one record behind the other. -/
theorem foldlM_records {json : Bool} {report : TargetReport} {is : List ℕ}
    {records : List TargetRecord}
    (h : List.Forall₂ (fun i r => recordAt report i = .ok r) is records) (start : Text) :
    is.foldlM (fun out i => do return out ++ (← recordAt report i).print json) start =
      (.ok (start ++ records.flatMap (TargetRecord.print json)) : Except Stop Text) := by
  induction h generalizing start with
  | nil =>
    rw [List.flatMap_nil, List.append_nil]
    rfl
  | cons hrecord _ ih =>
    rw [List.foldlM_cons, hrecord, List.flatMap_cons, ← List.append_assoc]
    exact ih _

/-- The text of a batch, in either form. -/
def bodyText (json : Bool) (records : List TargetRecord) : Text :=
  (if json then Dynamic.text "[\n" else []) ++ records.flatMap (TargetRecord.print json) ++
    if json then Dynamic.text "]\n" else []

/-- **One response, whatever the batch**, and its body is made of the records of the numbers. -/
theorem onQueryComplete_eq (hus : g .us = some us) (hca : g .ca = some ca) (json : Bool)
    (pn : List UInt64) :
    ∃ out, onQueryComplete prefetch g json pn = .ok out ∧ IsResponse out ∧
      bodyOf out = bodyText json (pn.map (answer prefetch g us ca)) := by
  obtain ⟨report, hrun, hpn, hrecord⟩ := @run_onQueryComplete prefetch g us ca hus hca pn
  have hrecords : List.Forall₂ (fun i r => recordAt report i = .ok r) (List.range pn.length)
      (pn.map (answer prefetch g us ca)) := by
    rw [List.forall₂_iff_get]
    refine ⟨by simp, ?_⟩
    intro i h _
    simpa using hrecord i (by simpa using h)
  have hprint : printReport json report =
      .ok (bodyText json (pn.map (answer prefetch g us ca))) := by
    rw [printReport, hpn, foldlM_records hrecords]
    rfl
  refine ⟨okHeaders json :: ((if bodyText json (pn.map (answer prefetch g us ca)) = [] then []
    else [bodyText json (pn.map (answer prefetch g us ca))]).map Sent.body ++ [.eom]), ?_,
    ⟨200, "OK", _, _, rfl⟩, ?_⟩
  · rw [onQueryComplete, hrun]
    simp only [hprint]
    rfl
  · rw [bodyOf_response _ (by simp [okHeaders])]
    split
    · rename_i hempty
      rw [hempty, List.flatten_nil]
    · rw [List.flatten_singleton]

/-- **The routing number of a number**: that of US, else that of CA, else none. -/
def routing (prefetch : ℕ+) (us ca : PhoneMapping.Data) (p : UInt64) : Option UInt64 :=
  if us.getRN prefetch p ≠ PhoneNumber.NONE then some (us.getRN prefetch p)
  else if ca.getRN prefetch p ≠ PhoneNumber.NONE then some (ca.getRN prefetch p)
  else none

/-- How it is printed in the text form. -/
def orNull : Option UInt64 → Text
  | some rn => printUint64 rn
  | none => Dynamic.text "null"

theorem lrnStr_answer (p : UInt64) :
    lrnStr false p (answer prefetch g us ca p).rn =
      Dynamic.text "pn=" ++ printUint64 p ++ Dynamic.text ",lrn=" ++
        orNull (routing (prefetch .us) us ca p) := by
  have hempty : Dynamic.text "" = [] := rfl
  have hnull : Dynamic.text ",lrn=null" = Dynamic.text ",lrn=" ++ Dynamic.text "null" := rfl
  unfold lrnStr answer routing
  by_cases hus : us.getRN (prefetch .us) p = PhoneNumber.NONE
  · by_cases hca : ca.getRN (prefetch .us) p = PhoneNumber.NONE
    · simp [hus, hca, orNull, format, hnull]
    · simp [hus, hca, orNull, format, hempty]
  · simp [hus, orNull, format, hempty]

/-- LERG is asked for the routing number, or for the number where there is none. -/
theorem lergSearchKey_eq (p : UInt64) :
    CallFwd.TargetHandler.lergSearchKey p (us.getRN (prefetch .us) p) (ca.getRN (prefetch .us) p) =
      (routing (prefetch .us) us ca p).getD p := by
  unfold CallFwd.TargetHandler.lergSearchKey routing
  by_cases hus : us.getRN (prefetch .us) p = PhoneNumber.NONE
  · by_cases hca : ca.getRN (prefetch .us) p = PhoneNumber.NONE
    · simp [hus, hca]
    · simp [hus, hca]
  · simp [hus]

/-- The LERG columns in the text form: all null where LERG has nothing. -/
def lergColumns : Option LergData → Text
  | none => Dynamic.text
      "ocn=null, operator=null, ocn_type=null, lata=null, rate_center=null, country=null "
  | some l => Dynamic.text "ocn=" ++ l.ocn ++ Dynamic.text ", operator=" ++ l.company ++
      Dynamic.text ", ocn_type=" ++ l.ocn_type ++ Dynamic.text ", lata=" ++ l.lata ++
      Dynamic.text ", rate_center=" ++ l.rate_center ++ Dynamic.text ", country=" ++ l.country

/-- The flags of a record: DNO, DNC and toll-free, in this order. -/
def flagColumns (r : TargetRecord) : Text :=
  dnoStr false r.dno ++ Dynamic.text ", " ++ dncStr false r.dnc ++ Dynamic.text ", " ++
    tollfreeStr false r.tollfree

/-- The columns behind those of LERG. -/
def otherColumns (r : TargetRecord) : Text :=
  youmailStr false r.youmail ++ Dynamic.text ", " ++ geoStr false r.geo ++ Dynamic.text ", " ++
    ftcStr false r.ftc ++ Dynamic.text ", " ++ f404Str false r.f404 ++ Dynamic.text ", " ++
    f606Str false r.f606

theorem lergStr_text (slot : Option LergData) :
    lergStr false slot = lergColumns (present LergData.lerg_key slot) := by
  unfold lergStr
  cases present LergData.lerg_key slot with
  | none => rfl
  | some l =>
    have hempty : Dynamic.text "" = [] := rfl
    simp only [lergColumns, format, List.flatMap_cons, List.flatMap_nil, List.append_assoc, hempty,
      List.append_nil]

/-- A record in the text form, column by column. -/
theorem print_eq (r : TargetRecord) :
    r.print false = Dynamic.text "  \x7b" ++ lrnStr false r.pn r.rn ++ Dynamic.text ", " ++
      flagColumns r ++ Dynamic.text ", " ++ lergColumns (present LergData.lerg_key r.lerg) ++
      Dynamic.text ", " ++ otherColumns r ++ Dynamic.text "\x7d,\n" := by
  rw [TargetRecord.print, ← lergStr_text]
  simp only [format, flagColumns, otherColumns, List.flatMap_cons, List.flatMap_nil,
    List.append_assoc, List.append_nil]

/-- **The text of one number**: the number and its routing number, the flags, the columns `getLerg`
gives for the routing number or, where there is none, for the number, and those of the other
tables. -/
def recordText (prefetch : Table → ℕ+) (g : Globals) (us ca : PhoneMapping.Data) (p : UInt64) :
    Text :=
  Dynamic.text "  \x7bpn=" ++ printUint64 p ++ Dynamic.text ",lrn=" ++
    orNull (routing (prefetch .us) us ca p) ++ Dynamic.text ", " ++
    flagColumns (answer prefetch g us ca p) ++ Dynamic.text ", " ++
    lergColumns (present LergData.lerg_key ((g .lerg).map fun d =>
      d.getLerg (prefetch .lerg) ((routing (prefetch .us) us ca p).getD p))) ++
    Dynamic.text ", " ++ otherColumns (answer prefetch g us ca p) ++ Dynamic.text "\x7d,\n"

theorem print_answer (p : UInt64) :
    (answer prefetch g us ca p).print false = recordText prefetch g us ca p := by
  have hlerg : (answer prefetch g us ca p).lerg = (g .lerg).map fun d =>
      d.getLerg (prefetch .lerg) ((routing (prefetch .us) us ca p).getD p) := by
    rw [← lergSearchKey_eq]
    rfl
  have hpn : (answer prefetch g us ca p).pn = p := rfl
  have hopen : Dynamic.text "  \x7bpn=" = Dynamic.text "  \x7b" ++ Dynamic.text "pn=" := rfl
  rw [print_eq, hlerg, hpn, lrnStr_answer, recordText, hopen]
  simp only [List.append_assoc]

/-- **Batch answers are pointwise.**  With US and CA loaded and the other tables loaded or not, the
text of a batch is that of the one-number batches, one behind the other, and each of these is the
one record of its number. -/
theorem target_pointwise (prefetch : Table → ℕ+) {g : Globals} {us ca : PhoneMapping.Data}
    (hus : g .us = some us) (hca : g .ca = some ca) (pn : List UInt64) :
    ∃ (out : List Sent) (outs : List (List Sent)), onQueryComplete prefetch g false pn = .ok out ∧
      List.Forall₂ (fun p o => onQueryComplete prefetch g false [p] = .ok o) pn outs ∧
      bodyOf out = (outs.map bodyOf).flatten ∧
      outs.map bodyOf = pn.map (recordText prefetch g us ca) := by
  have hone : ∀ p, ∃ o, onQueryComplete prefetch g false [p] = .ok o ∧
      bodyOf o = recordText prefetch g us ca p := by
    intro p
    obtain ⟨o, hrun, -, hbody⟩ := @onQueryComplete_eq prefetch g us ca hus hca false [p]
    rw [← print_answer]
    exact ⟨o, hrun, by simpa [bodyText] using hbody⟩
  choose single hsingle hbodies using hone
  obtain ⟨out, hrun, -, hbody⟩ := @onQueryComplete_eq prefetch g us ca hus hca false pn
  have houts : (pn.map single).map bodyOf = pn.map (recordText prefetch g us ca) := by
    rw [List.map_map]
    exact List.map_congr_left fun p _ => hbodies p
  refine ⟨out, pn.map single, hrun, ?_, ?_, houts⟩
  · rw [List.forall₂_map_right_iff]
    exact List.forall₂_same.mpr fun p _ => hsingle p
  · rw [hbody, houts, bodyText, List.flatMap_def, List.map_map]
    simp [Function.comp_def, print_answer]

/-- The columns behind those of LERG where no other table is there. -/
def noColumns : Text := otherColumns ⟨0, 0, none, none, none, none, none, none, none, none, none⟩

/-- A row of LERG, under any key. -/
def acme (lerg_key : UInt64) : LergData :=
  ⟨lerg_key, Dynamic.text "NJ", Dynamic.text "ACME", Dynamic.text "5040", Dynamic.text "NEWARK",
    Dynamic.text "RBOC", Dynamic.text "224", Dynamic.text "US"⟩

/-- LERG with two exchanges: that of a routing number, and one that no other table knows. -/
def twoExchanges : LergMapping.Data :=
  { LergMapping.Data.empty with
    dic_npa_nxx := (KeyMap.empty.emplace 201555 (acme 201555)).emplace 999555 (acme 999555) }

def sampleTables (us ca : PhoneMapping.Data) : Globals :=
  ((Globals.initial.commit .us us).commit .ca ca).commit .lerg twoExchanges

/-- A record out of these tables; nothing but LERG is there beside US and CA. -/
theorem recordText_sampleTables (us ca : PhoneMapping.Data) (p : UInt64) :
    recordText (fun _ => 16) (sampleTables us ca) us ca p =
      Dynamic.text "  \x7bpn=" ++ printUint64 p ++ Dynamic.text ",lrn=" ++
        orNull (routing 16 us ca p) ++ Dynamic.text ", is_dno=no, is_dnc=no, is_tollfree=no, " ++
        lergColumns (present LergData.lerg_key
          (some (twoExchanges.getLerg 16 ((routing 16 us ca p).getD p)))) ++
        Dynamic.text ", " ++ noColumns ++ Dynamic.text "\x7d,\n" := by
  have hnone : ∀ t, t ≠ .us → t ≠ .ca → t ≠ .lerg → sampleTables us ca t = none := by
    intro t hus hca hlerg
    rw [sampleTables, Globals.commit_of_ne _ _ hlerg, Globals.commit_of_ne _ _ hca,
      Globals.commit_of_ne _ _ hus]
    rfl
  have hflags : flagColumns (answer (fun _ => 16) (sampleTables us ca) us ca p) =
      Dynamic.text "is_dno=no, is_dnc=no, is_tollfree=no" := by
    simp only [flagColumns, answer, hnone, ne_eq, reduceCtorEq, not_false_eq_true, Option.map_none]
    decide
  have hothers : otherColumns (answer (fun _ => 16) (sampleTables us ca) us ca p) = noColumns := by
    simp only [otherColumns, answer, hnone, ne_eq, reduceCtorEq, not_false_eq_true,
      Option.map_none, noColumns]
  have hsplit : Dynamic.text ", is_dno=no, is_dnc=no, is_tollfree=no, " = Dynamic.text ", " ++
      Dynamic.text "is_dno=no, is_dnc=no, is_tollfree=no" ++ Dynamic.text ", " := rfl
  rw [recordText, hflags, hothers, hsplit]
  simp only [sampleTables, Globals.commit_self, Option.map_some, List.append_assoc]

/-- Three numbers: one of US, one of CA, and one that neither has. -/
theorem target_pointwise_three :
    ∃ (us ca : PhoneMapping.Data) (out : List Sent) (outs : List (List Sent)),
      onQueryComplete (fun _ => 16) (sampleTables us ca) false
        [2015550123, 4165550100, 9995550100] = .ok out ∧
      outs.length = 3 ∧ bodyOf out = (outs.map bodyOf).flatten ∧
      outs.map bodyOf = [
          Dynamic.text "  \x7bpn=2015550123,lrn=2015550000, is_dno=no, is_dnc=no, is_tollfree=no, " ++
            lergColumns (some (acme 201555)),
          Dynamic.text "  \x7bpn=4165550100,lrn=4165550000, is_dno=no, is_dnc=no, is_tollfree=no, " ++
            lergColumns none,
          Dynamic.text "  \x7bpn=9995550100,lrn=null, is_dno=no, is_dnc=no, is_tollfree=no, " ++
            lergColumns (some (acme 999555))].map
        fun columns => columns ++ Dynamic.text ", " ++ noColumns ++ Dynamic.text "\x7d,\n" := by
  let us : PhoneMapping.Data := MappingData.empty.push 2015550123 2015550000 2015550000
  let ca : PhoneMapping.Data := MappingData.empty.push 4165550100 4165550000 4165550000
  obtain ⟨out, outs, hrun, hones, hbody, houts⟩ := @target_pointwise (fun _ => 16)
    (sampleTables us ca) us ca rfl rfl [2015550123, 4165550100, 9995550100]
  have hus : routing 16 us ca 2015550123 = some 2015550000 := by
    simp only [routing, PhoneMapping.getRN_eq_lookup]
    decide
  have hca : routing 16 us ca 4165550100 = some 4165550000 := by
    simp only [routing, PhoneMapping.getRN_eq_lookup]
    decide
  have hnone : routing 16 us ca 9995550100 = none := by
    simp only [routing, PhoneMapping.getRN_eq_lookup]
    decide
  have hacme : present LergData.lerg_key (some (twoExchanges.getLerg 16 2015550000)) =
      some (acme 201555) := by
    rw [getLerg_eq]
    rfl
  have hempty : present LergData.lerg_key (some (twoExchanges.getLerg 16 4165550000)) = none := by
    rw [getLerg_eq]
    rfl
  have hnumber : present LergData.lerg_key (some (twoExchanges.getLerg 16 9995550100)) =
      some (acme 999555) := by
    rw [getLerg_eq]
    rfl
  have hfirst : Dynamic.text "  \x7bpn=" ++ printUint64 2015550123 ++ Dynamic.text ",lrn=" ++
      orNull (some 2015550000) ++ Dynamic.text ", is_dno=no, is_dnc=no, is_tollfree=no, " =
      Dynamic.text "  \x7bpn=2015550123,lrn=2015550000, is_dno=no, is_dnc=no, is_tollfree=no, " := by
    decide
  have hsecond : Dynamic.text "  \x7bpn=" ++ printUint64 4165550100 ++ Dynamic.text ",lrn=" ++
      orNull (some 4165550000) ++ Dynamic.text ", is_dno=no, is_dnc=no, is_tollfree=no, " =
      Dynamic.text "  \x7bpn=4165550100,lrn=4165550000, is_dno=no, is_dnc=no, is_tollfree=no, " := by
    decide
  have hthird : Dynamic.text "  \x7bpn=" ++ printUint64 9995550100 ++ Dynamic.text ",lrn=" ++
      orNull none ++ Dynamic.text ", is_dno=no, is_dnc=no, is_tollfree=no, " =
      Dynamic.text "  \x7bpn=9995550100,lrn=null, is_dno=no, is_dnc=no, is_tollfree=no, " := by
    decide
  refine ⟨us, ca, out, outs, hrun, hones.length_eq.symm, hbody, ?_⟩
  rw [houts]
  simp only [List.map_cons, List.map_nil, recordText_sampleTables, hus, hca, hnone,
    Option.getD_some, Option.getD_none, hacme, hempty, hnumber, hfirst, hsecond, hthird]

end Http.TargetHandler

end CallFwd
