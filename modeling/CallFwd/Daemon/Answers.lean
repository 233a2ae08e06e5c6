/-
# What the daemon answers, in terms of the files

`/target` prints a record that is put together from eleven tables, `/reverse` searches two of them,
and an INVITE is redirected with a number from one of these, if the access list lets it.  The tables
were built from files, and the control messages that named them were acknowledged.  Here the answers
are made from the LINES of those files, without a table: `Ledger.target` searches by number, one
search for each file, in the file that was acknowledged last.

`Represents.answers` is the agreement, for any request and any pointers that are what a ledger says.
-/
import CallFwd.Control.Entries
import CallFwd.Control.Verify
import CallFwd.Daemon.Commands
import CallFwd.Http.Reverse
import CallFwd.Sip.Contact

namespace CallFwd

open Lib Lib.Reader

/-! ## 1. The tables of a ledger -/

/-- The rows of a LERG file. -/
def LergMapping.fileRows (content : Text) : List (List Text) :=
  ((pieces '\n' content).filter startsWithDigit).map splitLine

theorem LergMapping.holds_foldlM {lines : List Text} {rows : List (List Text)}
    {d d' : LergMapping.Data} (h : Holds d rows) (hfold : lines.foldlM fromCSVLine d = .ok d') :
    Holds d' (rows ++ (lines.filter startsWithDigit).map splitLine) := by
  induction lines generalizing rows d with
  | nil =>
    cases hfold
    rwa [List.filter_nil, List.map_nil, List.append_nil]
  | cons line lines ih =>
    rw [List.foldlM_cons] at hfold
    obtain ⟨d₁, hline, hrest⟩ := bind_eq_ok.mp hfold
    rcases csvRow_eq_ok_iff.mp hline with ⟨hskip, rfl⟩ | ⟨hskip, -, hadd⟩
    · rw [List.filter_cons_of_neg (by simpa using hskip)]
      exact ih h hrest
    · rw [List.filter_cons_of_pos (by simpa using hskip), List.map_cons, List.append_cons]
      exact ih (h.addRow hadd) hrest

section Datasets

variable {job : Job} {content : Text}

/-- The dictionary of a dataset has the entries of its file. -/
theorem entries_of_dataset {t : Table} {d : Dataset t} (h : job.dataset content = .ok ⟨t, d⟩) :
    entriesOf t d = fileEntries t content := by
  rcases Job.dataset_cases h with ⟨-, canada, d', -, hfold, hf⟩ | ⟨r, d', -, hfold, hf⟩ | ⟨-, d', hf⟩
  · cases canada <;> cases hf <;> exact PhoneMapping.enters.foldLines hfold
  · cases hf
    exact r.entries_foldLines hfold
  · cases hf
    exact (List.filterMap_none _).symm

/-- A DNO dataset has the keys of its file, in the dictionary of its command. -/
theorem dno_of_dataset {d : DnoMapping.Data} (h : job.dataset content = .ok ⟨.dno, d⟩) :
    ∃ ty, job.load = .table (.dno ty) ∧ (d.dict ty).keys = DnoMapping.fileKeys content ∧
      ∀ ty', ty' ≠ ty → (d.dict ty').keys = [] := by
  rcases Job.dataset_cases h with ⟨-, canada, d', -, -, hf⟩ | ⟨r, d', hload, hfold, hf⟩ | ⟨-, d', hf⟩
  · cases canada <;> cases hf
  · cases r with
    | dno ty =>
      cases hf
      exact ⟨ty, hload, DnoMapping.foldLines_dno hfold⟩
    | _ => cases hf
  · cases hf

/-- A LERG dataset has the rows of its file. -/
theorem lerg_of_dataset {d : LergMapping.Data} (h : job.dataset content = .ok ⟨.lerg, d⟩) :
    LergMapping.Holds d (LergMapping.fileRows content) := by
  rcases Job.dataset_cases h with ⟨-, canada, d', -, -, hf⟩ | ⟨r, d', hload, hfold, hf⟩ | ⟨-, d', hf⟩
  · cases canada <;> cases hf
  · cases r with
    | lerg =>
      cases hf
      have hholds := @LergMapping.holds_foldlM _ [] _ _ ⟨rfl, rfl⟩ hfold
      exact ⟨hholds.block, hholds.exchange⟩
    | _ => cases hf
  · cases hf

/-- Where every line of a file is a row, these are its entries. -/
theorem fileEntries_us {rows : List (UInt64 × UInt64)}
    (h : (pieces '\n' content).mapM PhoneMapping.rowOf = some rows) :
    fileEntries .us content = rows := by
  rw [mapM_rowOf_eq_some_iff] at h
  calc (pieces '\n' content).filterMap PhoneMapping.rowOf
    _ = ((pieces '\n' content).map PhoneMapping.rowOf).filterMap id := by
      rw [List.filterMap_map]
      rfl
    _ = rows := by rw [h, List.filterMap_map, Function.id_comp, List.filterMap_some]

/-- A mapping is loaded from the rows of its file. -/
theorem loaded_of_foldLines {d : PhoneMapping.Data} {metadata : Dynamic}
    (h : PhoneMapping.loader.foldLines metadata content = .ok d) :
    Http.ReverseHandler.Loaded d.build (fileEntries .us content) := by
  obtain ⟨rows, hrows, hadd⟩ := foldLines_eq_ok_iff.mp h
  rw [fileEntries_us hrows]
  exact ⟨metadata, d, hadd, rfl⟩

/-- So is the dataset of either country. -/
theorem loaded_of_dataset {f : Filled} {d : PhoneMapping.Data} (h : job.dataset content = .ok f)
    (hf : f = ⟨.us, d⟩ ∨ f = ⟨.ca, d⟩) :
    Http.ReverseHandler.Loaded d (fileEntries .us content) := by
  rcases Job.dataset_cases h with ⟨-, canada, d', -, hfold, rfl⟩ | ⟨r, d', -, -, rfl⟩ | ⟨-, d', rfl⟩
  · cases canada <;> rcases hf with hf | hf <;> cases hf
    · exact loaded_of_foldLines hfold
    · exact loaded_of_foldLines hfold
  · cases r <;> rcases hf with hf | hf <;> cases hf
  · rcases hf with hf | hf <;> cases hf

end Datasets

/-! ## 2. The record of a number, from the files -/

/-- The value of the entry with this key. -/
def lookupEntry {V : Type} (entries : List (UInt64 × V)) (key : UInt64) : Option V :=
  (entries.find? fun e => decide (e.1 = key)).map Prod.snd

/-- The columns of a number's block, else those of its exchange; 0 is the key of none. -/
def LergMapping.lookupRows (rows : List (List Text)) (n : UInt64) : LergData :=
  let block := copyRecord clear
    ((rows.find? fun row => !isExchange row && decide (rowKey row = n / 1000)).map rowData)
    ⟨0, [], [], [], [], [], [], []⟩
  if block.lerg_key = 0 then
    copyRecord clear ((rows.find? fun row =>
      isExchange row && decide (rowKey row = n / 1000 / 10)).map rowData) block
  else block

/-- The file of a DNO command covers the number. -/
def Acknowledged.coversDno (a : Acknowledged) (p : UInt64) : Bool :=
  match a.job.load with
  | .table (.dno ty) => decide (ty.prefixOf p ∈ DnoMapping.fileKeys a.content)
  | _ => false

namespace Ledger

/-- The entries of the file that was acknowledged last for a table. -/
def entries (ledger : Ledger) (t : Table) : Option (List (UInt64 × Value t)) :=
  (ledger t).map fun a => fileEntries t a.content

/-- The routing number of a number, from the entries of a mapping. -/
def routingNumber (entries : Option (List (UInt64 × UInt64))) (p : UInt64) : UInt64 :=
  (entries.bind fun es => lookupEntry es p).getD PhoneNumber.NONE

/-- The routing number of a number: that of the US file, or else that of the CA file. -/
def rn (ledger : Ledger) (p : UInt64) : UInt64 :=
  if routingNumber (ledger.entries .us) p = PhoneNumber.NONE then
    routingNumber (ledger.entries .ca) p
  else routingNumber (ledger.entries .us) p

/-- What `/target` should say of a number. -/
def target (ledger : Ledger) (p : UInt64) : Http.TargetHandler.TargetRecord where
  pn := p
  rn := ledger.rn p
  dnc := (ledger.entries .dnc).map fun es => if (lookupEntry es p).isSome then 1 else 0
  dno := (ledger .dno).map fun a => if a.coversDno p then 1 else 0
  tollfree := (ledger.entries .tollFree).map fun es => if (lookupEntry es p).isSome then 1 else 0
  lerg := (ledger .lerg).map fun a => LergMapping.lookupRows (LergMapping.fileRows a.content)
    (if ledger.rn p = PhoneNumber.NONE then p else ledger.rn p)
  youmail := (ledger.entries .youmail).map fun es =>
    copyRecord ({ · with pn := 0 }) (lookupEntry es p) ⟨0, [], [], [], []⟩
  geo := (ledger.entries .geo).map fun es =>
    copyRecord ({ · with npanxx := 0 }) (lookupEntry es (p / 10000)) ⟨0, [], [], [], [], [], []⟩
  ftc := (ledger.entries .ftc).map fun es =>
    copyRecord ({ · with pn := 0 }) (lookupEntry es p) ⟨0, [], [], []⟩
  f404 := (ledger.entries .f404).map fun es =>
    copyRecord ({ · with pn := 0 }) (lookupEntry es p) ⟨0, [], []⟩
  f606 := (ledger.entries .f606).map fun es =>
    copyRecord ({ · with pn := 0 }) (lookupEntry es p) ⟨0, [], []⟩

/-- The rows of a mapping with a routing number in a range: by routing number, and then in the order
of the file. -/
def rowsBetween (entries : Option (List (UInt64 × UInt64))) (range : UInt64 × UInt64) :
    List (UInt64 × UInt64) :=
  ((entries.getD []).filter fun r => decide (range.1 ≤ r.2 ∧ r.2 < range.2)).insertionSort
    fun a b => a.2 ≤ b.2

/-- No number of the file needs more than the 34 bits of a `PhoneList` field. -/
def Fit (entries : Option (List (UInt64 × UInt64))) : Prop :=
  ∀ r ∈ entries.getD [], r.1.toNat < 2 ^ 34 ∧ r.2.toNat < 2 ^ 34

/-- The access list of the file. -/
def acl (ledger : Ledger) : Option ACL.Data :=
  (ledger .acl).bind fun a =>
    match a.job.dataset a.content with
    | .ok ⟨.acl, d⟩ => some d
    | _ => none

/-- The routing number of a redirect.  Without a number only the CA file is looked at, for the
number `NONE`. -/
def redirectRN (ledger : Ledger) (pn : UInt64) : UInt64 :=
  if pn = PhoneNumber.NONE then routingNumber (ledger.entries .ca) PhoneNumber.NONE
  else ledger.rn pn

/-- **What a request should be answered.**  `/target` prints the records of its numbers, `/reverse`
the rows of its ranges, and an INVITE is redirected or refused; 503 if one mapping has no file.
Beyond the 34 bits of the columns `/reverse` may list any rows. -/
def Answers (ledger : Ledger) (q : Query) (response : Response) : Prop :=
  if (ledger .us).isSome ∧ (ledger .ca).isSome then
    match q with
    | .target pn => ∃ report, response = .target report ∧
        ∀ json, Http.TargetHandler.printReport json report =
          .ok (Http.TargetHandler.bodyText json (pn.map ledger.target))
    | .reverse query => ∃ rows, response = .reverse rows ∧
        (Fit (ledger.entries .us) → Fit (ledger.entries .ca) →
          (∀ range ∈ query, range.1.toNat < 2 ^ 34 ∧ range.2.toNat < 2 ^ 34) →
            rows = query.flatMap fun range =>
              [.ok (some (rowsBetween (ledger.entries .us) range)),
                .ok (some (rowsBetween (ledger.entries .ca) range))])
    | .invite now consume peer pn =>
        let status := ACL.isCallAllowed now consume ledger.acl peer
        response = if status = 429 ∨ status = 401 then .refused status
          else .moved pn (ledger.redirectRN pn)
  else response = .unavailable

end Ledger

/-! ## 3. The agreement -/

section Agreement

variable {g : Globals} {ledger : Ledger} {prefetch : Table → ℕ+} {us ca : PhoneMapping.Data}
  {p : UInt64}

/-- What the pointers hold is what the ledger says, entry by entry. -/
theorem Represents.entries (h : Represents g ledger) (t : Table) :
    (g t).map (entriesOf t) = ledger.entries t := by
  unfold Ledger.entries
  cases hl : ledger t with
  | none => rw [h.null t hl]; rfl
  | some a =>
    obtain ⟨d, hd, hloads⟩ := h.holds t a hl
    rw [hd, Option.map_some, Option.map_some, entries_of_dataset hloads.dataset]

/-- So is anything that is computed from the entries. -/
theorem Represents.map_entries {W : Type} (h : Represents g ledger) (t : Table)
    (f : List (UInt64 × Value t) → W) :
    (g t).map (fun d => f (entriesOf t d)) = (ledger.entries t).map f := by
  rw [← h.entries t, Option.map_map]
  rfl

theorem Represents.lookup_us (h : Represents g ledger) (hus : g .us = some us) :
    us.lookup p = Ledger.routingNumber (ledger.entries .us) p := by
  have hentries := h.entries .us
  rw [hus] at hentries
  rw [← hentries]
  rfl

theorem Represents.lookup_ca (h : Represents g ledger) (hca : g .ca = some ca) :
    ca.lookup p = Ledger.routingNumber (ledger.entries .ca) p := by
  have hentries := h.entries .ca
  rw [hca] at hentries
  rw [← hentries]
  rfl

/-- The flag of a DNO dataset. -/
theorem Represents.dno (h : Represents g ledger) :
    (g .dno).map (fun d => DnoMapping.Data.fillSlot d p 0) =
      (ledger .dno).map fun a => if a.coversDno p then 1 else 0 := by
  cases hl : ledger .dno with
  | none => rw [h.null _ hl]; rfl
  | some a =>
    obtain ⟨d, hd, hloads⟩ := h.holds _ a hl
    obtain ⟨ty, hload, hkeys, hothers⟩ := dno_of_dataset hloads.dataset
    rw [hd, Option.map_some, Option.map_some, DnoMapping.fillSlot_zero, DnoMapping.Data.flag]
    refine congrArg (fun b : Bool => some (if b then (1 : UInt64) else 0)) ?_
    rw [Bool.eq_iff_iff, DnoMapping.covers_iff, Acknowledged.coversDno, hload, decide_eq_true_iff]
    constructor
    · rintro ⟨ty', hmem⟩
      by_cases hty : ty' = ty
      · subst hty
        exact hkeys ▸ hmem
      · rw [hothers ty' hty] at hmem
        cases hmem
    · intro hmem
      exact ⟨ty, hkeys ▸ hmem⟩

theorem LergMapping.Holds.fillSlot_eq {d : LergMapping.Data} {rows : List (List Text)}
    (h : LergMapping.Holds d rows) (n : UInt64) :
    d.fillSlot n ⟨0, [], [], [], [], [], [], []⟩ = LergMapping.lookupRows rows n := by
  rw [LergMapping.Data.fillSlot, LergMapping.lookupRows, LergMapping.find_eq h.block,
    LergMapping.find_eq h.exchange]

/-- The columns of a LERG dataset. -/
theorem Represents.lerg (h : Represents g ledger) (n : UInt64) :
    (g .lerg).map (fun d => LergMapping.Data.getLerg d (prefetch .lerg) n) =
      (ledger .lerg).map fun a =>
        LergMapping.lookupRows (LergMapping.fileRows a.content) n := by
  cases hl : ledger .lerg with
  | none => rw [h.null _ hl]; rfl
  | some a =>
    obtain ⟨d, hd, hloads⟩ := h.holds _ a hl
    rw [hd, Option.map_some, Option.map_some, Http.TargetHandler.getLerg_eq]
    exact congrArg some ((lerg_of_dataset hloads.dataset).fillSlot_eq n)

/-- **The record of a number is made from the lines of the files.** -/
theorem answer_eq_target (h : Represents g ledger) (hus : g .us = some us)
    (hca : g .ca = some ca) :
    Http.TargetHandler.answer prefetch g us ca p = ledger.target p := by
  have hrn : (if us.lookup p = PhoneNumber.NONE then ca.lookup p else us.lookup p) =
      ledger.rn p := by
    rw [h.lookup_us hus, h.lookup_ca hca]
    rfl
  have hkey : TargetHandler.lergSearchKey p (us.lookup p) (ca.lookup p) =
      if ledger.rn p = PhoneNumber.NONE then p else ledger.rn p := by
    rw [← hrn]
    unfold TargetHandler.lergSearchKey
    by_cases hnone : us.lookup p = PhoneNumber.NONE
    · by_cases hnone' : ca.lookup p = PhoneNumber.NONE
      · simp [hnone, hnone']
      · simp [hnone, hnone']
    · simp [hnone]
  unfold Http.TargetHandler.answer Ledger.target
  simp only [PhoneMapping.getRN_eq_lookup, hrn, hkey, h.dno, h.lerg]
  congr 1
  · exact h.map_entries .dnc fun es => if (lookupEntry es p).isSome then 1 else 0
  · exact h.map_entries .tollFree fun es => if (lookupEntry es p).isSome then 1 else 0
  · exact h.map_entries .youmail fun es =>
      copyRecord ({ · with pn := 0 }) (lookupEntry es p) ⟨0, [], [], [], []⟩
  · exact h.map_entries .geo fun es =>
      copyRecord ({ · with npanxx := 0 }) (lookupEntry es (p / 10000)) ⟨0, [], [], [], [], [], []⟩
  · exact h.map_entries .ftc fun es =>
      copyRecord ({ · with pn := 0 }) (lookupEntry es p) ⟨0, [], [], []⟩
  · exact h.map_entries .f404 fun es =>
      copyRecord ({ · with pn := 0 }) (lookupEntry es p) ⟨0, [], []⟩
  · exact h.map_entries .f606 fun es =>
      copyRecord ({ · with pn := 0 }) (lookupEntry es p) ⟨0, [], []⟩

/-- The rows `/reverse` takes for a range. -/
theorem sendBody_eq {data : PhoneMapping.Data} {rows : List (UInt64 × UInt64)} (k : ℕ+)
    (hload : Http.ReverseHandler.Loaded data rows)
    (hfit : ∀ r ∈ rows, r.1.toNat < 2 ^ 34 ∧ r.2.toNat < 2 ^ 34) {range : UInt64 × UInt64}
    (hlo : range.1.toNat < 2 ^ 34) (hhi : range.2.toNat < 2 ^ 34) :
    ReverseHandler.sendBody k data range = .ok (some (Ledger.rowsBetween (some rows) range)) := by
  obtain ⟨d, rfl, hholds, hlen⟩ := hload.holds
  obtain ⟨db, hrun, hyields⟩ :=
    @PhoneMapping.inverseRNs_yields d rows k hholds hlen none range.1 range.2
  rw [PhoneMapping.interval_rows hholds hlen hfit hlo hhi,
    Http.ReverseHandler.filter_sorted_eq hholds hlen fun r hr => (hfit r hr).2] at hyields
  refine bind_eq_ok.mpr ⟨db, hrun, hyields.drain ?_⟩
  rw [MappingData.length_pnColumn_build, hholds.length_pnColumn, List.length_insertionSort]
  exact Nat.lt_succ_of_le (List.length_filter_le _ _)

theorem Represents.isSome_eq (h : Represents g ledger) (t : Table) :
    (ledger t).isSome = (g t).isSome := by
  cases hl : ledger t with
  | none => rw [h.null t hl]; rfl
  | some a =>
    obtain ⟨d, hd, -⟩ := h.holds t a hl
    rw [hd]
    rfl

theorem Represents.acl (h : Represents g ledger) : ledger.acl = g .acl := by
  unfold Ledger.acl
  cases hl : ledger .acl with
  | none => rw [h.null _ hl]; rfl
  | some a =>
    obtain ⟨d, hd, hloads⟩ := h.holds _ a hl
    rw [Option.bind_some, hloads.dataset, hd]

theorem Represents.redirectRN (h : Represents g ledger) (hus : g .us = some us)
    (hca : g .ca = some ca) (pn : UInt64) : ledger.redirectRN pn = Sip.inviteRN us ca pn := by
  unfold Ledger.redirectRN Ledger.rn
  by_cases hpn : pn = PhoneNumber.NONE
  · rw [if_pos hpn, hpn, Sip.inviteRN_none, h.lookup_ca hca]
  · rw [if_neg hpn, Sip.inviteRN_of_ne hpn, h.lookup_us hus, h.lookup_ca hca]

/-- What `/target` prints is the record of each number. -/
theorem run_printReport (hus : g .us = some us) (hca : g .ca = some ca) (pn : List UInt64) :
    ∃ report, (TargetHandler.onQueryComplete prefetch pn).run g = some report ∧
      ∀ json, Http.TargetHandler.printReport json report = .ok (Http.TargetHandler.bodyText json
        (pn.map (Http.TargetHandler.answer prefetch g us ca))) := by
  obtain ⟨report, hrun, hpn, hrecord⟩ :=
    @Http.TargetHandler.run_onQueryComplete prefetch g us ca hus hca pn
  refine ⟨report, hrun, fun json => ?_⟩
  have hrecords : List.Forall₂ (fun i r => Http.TargetHandler.recordAt report i = .ok r)
      (List.range pn.length) (pn.map (Http.TargetHandler.answer prefetch g us ca)) := by
    rw [List.forall₂_iff_get]
    refine ⟨by simp, ?_⟩
    intro i h _
    simpa using hrecord i (by simpa using h)
  rw [Http.TargetHandler.printReport, hpn, Http.TargetHandler.foldlM_records hrecords]
  rfl

theorem run_isAvailable_mapping : PhoneMapping.isAvailable.run g =
    some ((g .us).isSome && (g .ca).isSome) := by
  rw [PhoneMapping.isAvailable, run_bind, run_isAvailable, Option.bind_some]
  cases (g .us).isSome <;> rfl

/-- `/target` of any numbers. -/
theorem Represents.target (h : Represents g ledger) (hus : g .us = some us) (hca : g .ca = some ca)
    (pn : List UInt64) : ∃ report,
      (TargetHandler.onQueryComplete prefetch pn).run g = some report ∧
        ∀ json, Http.TargetHandler.printReport json report =
          .ok (Http.TargetHandler.bodyText json (pn.map ledger.target)) := by
  obtain ⟨report, hrun, hprint⟩ := @run_printReport g prefetch us ca hus hca pn
  refine ⟨report, hrun, fun json => ?_⟩
  have hrecords : pn.map (Http.TargetHandler.answer prefetch g us ca) = pn.map ledger.target :=
    List.map_congr_left fun p _ => answer_eq_target h hus hca
  rw [hprint json, hrecords]

/-- `/reverse` of any ranges. -/
theorem Represents.reverse (h : Represents g ledger) (hus : g .us = some us) (hca : g .ca = some ca)
    (query : List (UInt64 × UInt64)) : ∃ rows,
      (ReverseHandler.onRequest prefetch query).run g = some rows ∧
        (Ledger.Fit (ledger.entries .us) → Ledger.Fit (ledger.entries .ca) →
          (∀ range ∈ query, range.1.toNat < 2 ^ 34 ∧ range.2.toNat < 2 ^ 34) →
            rows = query.flatMap fun range =>
              [.ok (some (Ledger.rowsBetween (ledger.entries .us) range)),
                .ok (some (Ledger.rowsBetween (ledger.entries .ca) range))]) := by
  refine ⟨query.flatMap fun range => [ReverseHandler.sendBody (prefetch .us) us range,
    ReverseHandler.sendBody (prefetch .us) ca range], ?_, ?_⟩
  · unfold ReverseHandler.onRequest
    rw [run_bind, run_getTable hus, Option.bind_some, run_bind, run_getTable hca]
    rfl
  · obtain ⟨a, hlus⟩ := Option.isSome_iff_exists.mp ((h.isSome_eq .us).trans (by rw [hus]; rfl))
    obtain ⟨b, hlca⟩ := Option.isSome_iff_exists.mp ((h.isSome_eq .ca).trans (by rw [hca]; rfl))
    obtain ⟨us', hus', hdus⟩ := h.holds _ a hlus
    obtain ⟨ca', hca', hdca⟩ := h.holds _ b hlca
    cases hus.symm.trans hus'
    cases hca.symm.trans hca'
    rw [Ledger.entries, Ledger.entries, hlus, hlca]
    intro hfitus hfitca hrange
    refine List.flatMap_congr fun range hmem => ?_
    obtain ⟨hlo, hhi⟩ := hrange range hmem
    rw [sendBody_eq _ (loaded_of_dataset hdus.dataset (.inl rfl)) hfitus hlo hhi,
      sendBody_eq _ (loaded_of_dataset hdca.dataset (.inr rfl)) hfitca hlo hhi]
    rfl

/-- **What a request is answered, from the files.** -/
theorem Represents.answers (h : Represents g ledger) (q : Query) {response : Response}
    (hrun : (q.serve prefetch).run g = some response) : ledger.Answers q response := by
  unfold Ledger.Answers
  rw [h.isSome_eq, h.isSome_eq]
  rw [Query.serve, run_bind, run_isAvailable_mapping, Option.bind_some] at hrun
  cases hus : g .us with
  | none =>
    rw [hus] at hrun
    exact (Option.some.inj hrun).symm
  | some us =>
    cases hca : g .ca with
    | none =>
      rw [hus, hca] at hrun
      exact (Option.some.inj hrun).symm
    | some ca =>
      rw [hus, hca] at hrun
      rw [Option.isSome_some, Option.isSome_some, if_pos ⟨rfl, rfl⟩]
      change (q.handle prefetch).run g = some response at hrun
      cases q with
      | target pn =>
        obtain ⟨report, hreport, hprint⟩ := @Represents.target g ledger prefetch us ca h hus hca pn
        rw [Query.handle, run_bind, hreport] at hrun
        exact ⟨report, (Option.some.inj hrun).symm, hprint⟩
      | reverse query =>
        obtain ⟨rows, hrows, hfit⟩ := @Represents.reverse g ledger prefetch us ca h hus hca query
        rw [Query.handle, run_bind, hrows] at hrun
        exact ⟨rows, (Option.some.inj hrun).symm, hfit⟩
      | invite now consume peer pn =>
        have hacl : (get .acl).run g = some (g .acl) := rfl
        rw [Query.handle, SIPHandler.handleInvite, run_bind, hacl, Option.bind_some] at hrun
        dsimp only
        rw [h.acl, h.redirectRN hus hca]
        split
        · rename_i hrefused
          rw [if_pos hrefused] at hrun
          exact (Option.some.inj hrun).symm
        · rename_i hallowed
          rw [if_neg hallowed, run_bind, Sip.run_usRN hus, Option.bind_some, run_bind,
            Sip.run_caRN hca] at hrun
          exact (Option.some.inj hrun).symm

end Agreement

end CallFwd
