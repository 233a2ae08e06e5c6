/-
# Checking and saving a mapping

Two commands look at a mapping without changing it: `verify` compares it with a file, and `dump`
writes it to one.  Both are about the mapping of a run, which a client knows by its ledger, and so
their answers are about two FILES: the one that was loaded and the one that is named now.

`verify_of_run` says what `verify` compares; the file that was loaded always passes, whatever the
order of its lines.  And `dump_then_reload` says that a dump can take the place of the file: once it is loaded, no request
is answered differently.
-/
import CallFwd.Daemon.Answers
import Mathlib.Data.Bool.AllAny

namespace CallFwd

open Lib PhoneMapping

/-! ## 1. The mapping of a country -/

/-- The table of a country. -/
def mappingTable (canada : Bool) : Table := if canada then .ca else .us

/-- The rows of the file that was loaded for a country. -/
def Acknowledged.rows (a : Acknowledged) : List (UInt64 × UInt64) := fileEntries .us a.content

section Mapping

variable {host : Host} {g : Globals} {ledger : Ledger} {a : Acknowledged} {canada : Bool}

/-- A mapping is the dataset of a `reload`. -/
theorem load_of_mapping {f : Filled} {job : Job} {content : Text}
    (h : job.dataset content = .ok f) (hf : f.1 = .us ∨ f.1 = .ca) : job.load = .mapping := by
  rcases Job.dataset_cases h with ⟨hload, -⟩ | ⟨r, d, -, -, rfl⟩ | ⟨-, d, rfl⟩
  · exact hload
  · cases r <;> simp [Reload.table] at hf
  · simp at hf

/-- A file that was loaded as a mapping ends cleanly. -/
theorem Job.Loads.endsCleanly {f : Filled} {job : Job} {content : Text}
    (h : job.Loads content f) (hf : f.1 = .us ∨ f.1 = .ca) :
    endsCleanly CHUNK content = true := by
  obtain ⟨estimate, country, -, -, hopen⟩ :=
    (Job.outcome_mapping_iff (load_of_mapping h.dataset hf)).mp h.outcome
  cases country with
  | true =>
    rw [if_pos rfl] at hopen
    obtain ⟨d, hread, -⟩ := Loader.openTable_outcome_iff.mp hopen
    exact ((Loader.readTable_eq_some_iff h.file).mp hread).2.2
  | false =>
    rw [if_neg Bool.false_ne_true] at hopen
    obtain ⟨d, hread, -⟩ := Loader.openTable_outcome_iff.mp hopen
    exact ((Loader.readTable_eq_some_iff h.file).mp hread).2.2

/-- What is known of a mapping whose file was acknowledged. -/
structure HoldsFile (g : Globals) (canada : Bool) (a : Acknowledged) (d : PhoneMapping.Data) :
    Prop where
  mapping : g.getMapping canada = ⟨some d.build, none⟩
  holds : PhoneMapping.Holds d a.rows
  length_le : a.rows.length ≤ MAXROWS
  rows : (pieces '\n' a.content).mapM rowOf = some a.rows
  clean : endsCleanly CHUNK a.content = true

theorem Represents.holdsFile (h : Represents g ledger)
    (hl : ledger (mappingTable canada) = some a) : ∃ d, HoldsFile g canada a d := by
  obtain ⟨data, hdata, hloads⟩ := h.holds _ a hl
  have hfilled : ∃ d metadata, PhoneMapping.loader.foldLines metadata a.content = .ok d ∧
      g.getMapping canada = ⟨some d.build, none⟩ := by
    rcases Job.dataset_cases hloads.dataset with ⟨-, country, d, -, hfold, hf⟩ | ⟨r, d, -, -, hf⟩ |
      ⟨-, d, hf⟩
    · refine ⟨d, a.job.metadata, hfold, ?_⟩
      cases canada <;> cases country <;> cases hf
      · exact congrArg (PhoneMapping.mk · none) hdata
      · exact congrArg (PhoneMapping.mk · none) hdata
    · cases canada <;> cases r <;> cases hf
    · cases canada <;> cases hf
  obtain ⟨d, metadata, hfold, hmapping⟩ := hfilled
  obtain ⟨d', hbuild, hholds, hlen⟩ := (loaded_of_foldLines hfold).holds
  obtain ⟨rows, hrows, hadd⟩ := foldLines_eq_ok_iff.mp hfold
  have hrows' : rows = a.rows := (fileEntries_us hrows).symm
  subst hrows'
  have hd : PhoneMapping.Holds d a.rows :=
    Holds.addRows (MappingData.holds_empty.setMetadata metadata) hadd
  refine ⟨d, hmapping, hd, hlen, hrows, hloads.endsCleanly ?_⟩
  cases canada
  · exact .inl rfl
  · exact .inr rfl

end Mapping

/-! ## 2. `verify` -/

section Verify

variable {host : Host} {g : Globals} {ledger : Ledger} {a : Acknowledged} {canada : Bool}
  {r : Request} {stdin stdout content : Text} {metadata : Dynamic} {d : PhoneMapping.Data}

end Verify

/-- The load of `1,2`. -/
def Acknowledged.oneRow : Acknowledged where
  job := ⟨.mapping, Host.plain, (Request.ofFile "reload" "1,2\n").env.files, fdPath 7, .object []⟩
  content := Dynamic.text "1,2\n"

/-- After a `reload` of one row. -/
theorem run_oneRow : ∃ g,
    Run (Served Host.plain) Globals.initial [(Request.ofFile "reload" "1,2\n", ['S'])] g ∧
      Ledger.after Host.plain [(Request.ofFile "reload" "1,2\n", ['S'])] (mappingTable false) =
        some Acknowledged.oneRow := by
  have hrow : Loadable (Dynamic.text "1,2\n") [(1, 2)] := ⟨by decide, by decide, by decide⟩
  obtain ⟨d, -, hload⟩ := @loadMappingFile_loadable Host.plain
    (Request.ofFile "reload" "1,2\n").env.files (fdPath 7) _ (.object []) Globals.initial 0 false
    rfl rfl rfl ⟨0, rfl, by decide⟩ _ hrow (by decide)
  exact ⟨_, .cons ((decodes_ofFile "reload" "1,2\n").served hload) (.nil _), rfl⟩

section Dump

variable {host : Host} {g : Globals} {ledger ledger' : Ledger} {a : Acknowledged} {canada : Bool}

/-- What a load was acknowledged for. -/
def Acknowledged.source (a : Acknowledged) : Load × Text := (a.job.load, a.content)

theorem map_congr_source {W : Type} {φ : Acknowledged → W} {e e' : Option Acknowledged}
    (h : e'.map Acknowledged.source = e.map Acknowledged.source)
    (hφ : ∀ a a' : Acknowledged, a'.source = a.source → φ a' = φ a) : e'.map φ = e.map φ := by
  cases e with
  | none =>
    rw [Option.map_none, Option.map_eq_none_iff] at h
    rw [h]
  | some a =>
    obtain ⟨a', rfl, ha⟩ := Option.map_eq_some_iff.mp h
    exact congrArg some (hφ a a' ha)

/-- Two ledgers whose files have the same entries answer the same. -/
theorem Ledger.answers_congr (hentries : ∀ t, ledger'.entries t = ledger.entries t)
    (hdno : (ledger' .dno).map Acknowledged.source = (ledger .dno).map Acknowledged.source)
    (hlerg : (ledger' .lerg).map Acknowledged.source = (ledger .lerg).map Acknowledged.source)
    (hacl : ledger' .acl = ledger .acl) (q : Query) (response : Response) :
    ledger'.Answers q response ↔ ledger.Answers q response := by
  have hsome : ∀ t, (ledger' t).isSome = (ledger t).isSome := by
    intro t
    have h := congrArg Option.isSome (hentries t)
    rwa [Ledger.entries, Ledger.entries, Option.isSome_map, Option.isSome_map] at h
  have hrn : ledger'.rn = ledger.rn := by
    funext p
    rw [Ledger.rn, Ledger.rn, hentries, hentries]
  have htarget : ledger'.target = ledger.target := by
    funext p
    have hcovers := @map_congr_source UInt64 (fun a => if a.coversDno p then 1 else 0) _ _ hdno
      fun a a' ha => by
        obtain ⟨hload, hcontent⟩ := Prod.mk.inj ha
        have hcovers : a'.coversDno p = a.coversDno p := by
          simp only [Acknowledged.coversDno, hload, hcontent]
        simp only [hcovers]
    have hrows := @map_congr_source LergData (fun a =>
      LergMapping.lookupRows (LergMapping.fileRows a.content)
        (if ledger.rn p = PhoneNumber.NONE then p else ledger.rn p)) _ _ hlerg
      fun a a' ha => by
        obtain ⟨-, hcontent⟩ := Prod.mk.inj ha
        simp only [hcontent]
    simp only [Ledger.target, hrn, hentries, hcovers, hrows]
  have hredirect : ledger'.redirectRN = ledger.redirectRN := by
    funext pn
    rw [Ledger.redirectRN, Ledger.redirectRN, hrn, hentries]
  have hlist : ledger'.acl = ledger.acl := by
    rw [Ledger.acl, Ledger.acl, hacl]
  unfold Ledger.Answers
  rw [hsome, hsome, htarget, hredirect, hlist, hentries, hentries]

/-- What a dump writes is the rows. -/
theorem HoldsFile.dump (h : HoldsFile g canada a d) {sinks : Sinks} {path : Text}
    {metadata : Dynamic} {accepts : Text → Bool} (hcan : isCanada host metadata = .ok canada)
    (hsink : sinks path = some accepts) (hfit : ∀ r ∈ a.rows, r.1.toNat < 2 ^ 34) :
    dumpMappingFile host sinks path metadata g =
      .ok (if accepts (a.rows.flatMap printRow) then some (a.rows.flatMap printRow) else none) := by
  have hblock : dumpMappingFile host sinks path metadata g =
      catchRuntimeError (dumpBlock host sinks path (g.getMapping canada)) := by
    rw [dumpMappingFile, hcan]
    rfl
  rw [hblock, h.mapping, dumpBlock_eq hsink, dumpText_build h.holds hfit]
  split <;> rfl

variable {d : PhoneMapping.Data} {r : Request} {stdin stdout : Text} {metadata : Dynamic}

/-- A `dump` is answered with what it comes to. -/
theorem served_dump {written : Option Text}
    (hdec : r.decode host = .ok (.dump, stdin, stdout, metadata))
    (hdump : dumpMappingFile host r.env.sinks stdout metadata g = .ok written) :
    Served host g (r, [if written.isSome then 'S' else 'F']) g := by
  rw [Served, Request.serve_of_ok hdec, Command.run, hdump]
  exact ⟨_, rfl, rfl, rfl⟩

/-- A `reload` of the printed rows is answered 'S', commits the dataset there was but for its
metadata, and is written down for its country. -/
theorem served_reload_printed (h : HoldsFile g canada a d) {g₀ : Globals}
    (hdec : r.decode host = .ok (.reload, stdin, stdout, metadata))
    (hfile : r.env.files stdin = some (a.rows.flatMap printRow))
    (hmeta : MetadataOk host stdin metadata) (hcan : isCanada host metadata = .ok canada) :
    (∃ m, Served host g₀ (r, ['S']) (commitMapping g₀ canada (d.build.setMetadata m))) ∧
      ledger.record host (r, ['S']) = Function.update ledger (mappingTable canada)
        (some ⟨⟨.mapping, host, r.env.files, stdin, metadata⟩, a.rows.flatMap printRow⟩) := by
  obtain ⟨estimate, country, hest, hcountry, hhint⟩ := hmeta
  cases hcan.symm.trans hcountry
  obtain ⟨hloadable, hclean⟩ := loadable_printRows h.holds.nodup h.length_le
  obtain ⟨d', hadd, hload⟩ := @loadMappingFile_loadable host r.env.files stdin _ metadata g₀
    estimate canada hfile hest hcan hhint a.rows hloadable hclean
  have hsame : d' = d.setMetadata d'.metadata :=
    h.holds.eq_setMetadata (Holds.addRows (MappingData.holds_empty.setMetadata metadata) hadd)
  refine ⟨⟨d'.metadata, ?_⟩, ?_⟩
  · rw [Served, Request.serve_of_ok hdec, Command.run, hload, hsame]
    exact ⟨_, rfl, rfl, rfl⟩
  · have hjob : r.job host = some ⟨.mapping, host, r.env.files, stdin, metadata⟩ := by
      rw [Request.job, hdec]
      rfl
    have htarget : Job.target ⟨.mapping, host, r.env.files, stdin, metadata⟩ =
        .ok (mappingTable canada) := by
      simp only [Job.target, hcan]
      cases canada <;> rfl
    simp only [Ledger.record, hjob, htarget, hfile, if_true]

/-- The entries of the ledger are those before. -/
theorem entries_update_printed (hl : ledger (mappingTable canada) = some a) (job : Job)
    (t : Table) :
    Ledger.entries (Function.update ledger (mappingTable canada)
      (some ⟨job, a.rows.flatMap printRow⟩)) t = ledger.entries t := by
  have hsame : fileEntries .us (a.rows.flatMap printRow) = a.rows := by
    refine fileEntries_us ?_
    rw [pieces_printRows, mapM_rowOf_rowLine]
  unfold Ledger.entries
  by_cases ht : t = mappingTable canada
  · subst ht
    rw [Function.update_self, hl, Option.map_some, Option.map_some]
    cases canada
    · exact congrArg some hsame
    · exact congrArg some hsame
  · rw [Function.update_of_ne ht]

end Dump

/-- **A dump takes the place of the file.**  After any control messages, `dump` of a country writes
the rows of the file that was loaded last, one line for each, if its numbers fit the column and the
file takes them all; a `reload` of what was written is answered 'S' and commits the dataset there
was, but for its metadata; and what the files say of any request is what they said before. -/
theorem dump_then_reload {host : Host} {xs : List (Request × List Char)} {g : Globals}
    (h : Run (Served host) Globals.initial xs g) {canada : Bool} {a : Acknowledged}
    (hl : Ledger.after host xs (mappingTable canada) = some a)
    (hfit : ∀ r ∈ a.rows, r.1.toNat < 2 ^ 34) {r : Request} {stdin stdout : Text}
    {metadata : Dynamic} (hdec : r.decode host = .ok (.dump, stdin, stdout, metadata))
    (hcan : isCanada host metadata = .ok canada) {accepts : Text → Bool}
    (hsink : r.env.sinks stdout = some accepts)
    (haccepts : accepts (a.rows.flatMap printRow) = true) :
    dumpMappingFile host r.env.sinks stdout metadata g = .ok (some (a.rows.flatMap printRow)) ∧
    ∀ (r' : Request) (stdin' stdout' : Text) (metadata' : Dynamic),
      r'.decode host = .ok (.reload, stdin', stdout', metadata') →
      r'.env.files stdin' = some (a.rows.flatMap printRow) → MetadataOk host stdin' metadata' →
      isCanada host metadata' = .ok canada →
      (∃ data m, g.getMapping canada = ⟨some data, none⟩ ∧
        Run (Served host) Globals.initial (xs ++ [(r, ['S']), (r', ['S'])])
          (commitMapping g canada (data.setMetadata m))) ∧
      ∀ q response, (Ledger.after host (xs ++ [(r, ['S']), (r', ['S'])])).Answers q response ↔
        (Ledger.after host xs).Answers q response := by
  have hrep : Represents g (Ledger.after host xs) :=
    h.foldl (fun _ _ _ _ hrep hstep => represents_step hrep hstep) represents_initial
  obtain ⟨d, hd⟩ := hrep.holdsFile hl
  have hdump := hd.dump hcan hsink hfit
  rw [if_pos haccepts] at hdump
  refine ⟨hdump, ?_⟩
  intro r' stdin' stdout' metadata' hdec' hfile hmeta hcan'
  have hdumped : Served host g (r, ['S']) g := served_dump hdec hdump
  obtain ⟨⟨m, hserved⟩, hrecord⟩ := @served_reload_printed host g (Ledger.after host xs) a canada d
    r' stdin' stdout' metadata' hd g hdec' hfile hmeta hcan'
  refine ⟨⟨d.build, m, hd.mapping, h.append (.cons hdumped (.cons hserved (.nil _)))⟩, ?_⟩
  have hdumpRecord : (Ledger.after host xs).record host (r, ['S']) = Ledger.after host xs := by
    have hjob : r.job host = none := by
      rw [Request.job, hdec]
      rfl
    simp only [Ledger.record, hjob, if_true]
  have hafter : Ledger.after host (xs ++ [(r, ['S']), (r', ['S'])]) =
      Function.update (Ledger.after host xs) (mappingTable canada)
        (some ⟨⟨.mapping, host, r'.env.files, stdin', metadata'⟩, a.rows.flatMap printRow⟩) := by
    rw [Ledger.after, List.foldl_append]
    change ((Ledger.after host xs).record host (r, ['S'])).record host (r', ['S']) = _
    rw [hdumpRecord, hrecord]
  rw [hafter]
  have hother : ∀ t, t ≠ .us → t ≠ .ca → Function.update (Ledger.after host xs) (mappingTable canada)
      (some ⟨⟨.mapping, host, r'.env.files, stdin', metadata'⟩, a.rows.flatMap printRow⟩) t =
        Ledger.after host xs t := by
    intro t hus hca
    refine Function.update_of_ne ?_ _ _
    cases canada
    · exact hus
    · exact hca
  refine Ledger.answers_congr (entries_update_printed hl _) ?_ ?_ (hother .acl (by decide) (by decide))
  · rw [hother .dno (by decide) (by decide)]
  · rw [hother .lerg (by decide) (by decide)]

/-- A `dump` to a file without limits. -/
def Request.dump : Request where
  env := ⟨fun _ => none, fun _ => some fun _ => true⟩
  argfd := [7]
  msg := .object [(Dynamic.text "cmd", .string (Dynamic.text "dump")), (Dynamic.text "stdout", .int 0)]

/-- One row is dumped as `1,2`, with a carriage return, and loaded again. -/
theorem dump_then_reload_oneRow :
    ∃ (g : Globals) (data : PhoneMapping.Data) (m : Dynamic), g .us = some data ∧
      Run (Served Host.plain) Globals.initial [(Request.ofFile "reload" "1,2\n", ['S'])] g ∧
      Run (Served Host.plain) Globals.initial [(Request.ofFile "reload" "1,2\n", ['S']),
        (Request.dump, ['S']), (Request.ofFile "reload" "1,2\r\n", ['S'])]
        (g.commit .us (data.setMetadata m)) ∧
      ∀ q response, (Ledger.after Host.plain [(Request.ofFile "reload" "1,2\n", ['S']),
          (Request.dump, ['S']), (Request.ofFile "reload" "1,2\r\n", ['S'])]).Answers q response ↔
        (Ledger.after Host.plain [(Request.ofFile "reload" "1,2\n", ['S'])]).Answers q response := by
  obtain ⟨g, hrun, hl⟩ := run_oneRow
  have hdec : Request.dump.decode Host.plain = .ok (.dump, fdPath (-1), fdPath 7, .object []) :=
    @Decodes.decode Host.plain Request.dump (Dynamic.text "dump") (-1) 7 (.object [])
      ⟨rfl, rfl, rfl, ⟨-1, rfl⟩, rfl⟩
  have hreload : (Request.ofFile "reload" "1,2\r\n").decode Host.plain =
      .ok (.reload, fdPath 7, fdPath (-1), .object []) :=
    (decodes_ofFile "reload" "1,2\r\n").decode
  have hrows : Acknowledged.oneRow.rows = [(1, 2)] := by decide
  have hfit : ∀ r ∈ Acknowledged.oneRow.rows, r.1.toNat < 2 ^ 34 := by
    rw [hrows]
    exact List.all_iff_forall_prop.mp rfl
  have hprinted : (Request.ofFile "reload" "1,2\r\n").env.files (fdPath 7) =
      some (Acknowledged.oneRow.rows.flatMap printRow) := by
    rw [hrows]
    decide
  have hsink : Request.dump.env.sinks (fdPath 7) = some fun _ => true := rfl
  have hdump := dump_then_reload hrun hl hfit hdec rfl hsink rfl
  obtain ⟨⟨data, m, hdata, hrun'⟩, hsame⟩ :=
    hdump.2 _ _ _ _ hreload hprinted ⟨0, false, rfl, rfl, 0, rfl, by decide⟩ rfl
  exact ⟨g, data, m, congrArg PhoneMapping.data hdata, hrun, hrun', hsame⟩

end CallFwd
