/-
# The four DNO commands and the one global they share

`dno_reload`, `dno_npa_reload`, `dno_npa_nxx_reload` and `dno_npa_nxx_x_reload` each load a file
of one granularity, and `getDNOs` consults all four.  What one expects is that the four files
coexist: a number is flagged when the most recent file of SOME granularity covers it.

But every load starts from a fresh builder and commits it to `mappingDNO`, so the dataset holds
the file of the LAST command and nothing else: `DnoRun.inv` is that invariant, over every run of
successful commands.  `flag_iff_covered_iff` compares the two.
-/
import CallFwd.Control.Load

namespace CallFwd

open Lib DnoMapping

namespace DnoMapping

/-! ## 1. The keys of a file -/

/-- The key of a data line; other lines are skipped. -/
def keyOf (linebuf : Text) : Option UInt64 :=
  if startsWithDigit linebuf then
    some (UInt64.ofInt (signedValue (deleteCharacter (column (splitLine linebuf) 0) '-')))
  else none

/-- The keys of a file. -/
def fileKeys (content : Text) : List UInt64 := (pieces '\n' content).filterMap keyOf

theorem addRow_eq_ok {d d' : Data} {pn dno : UInt64} {ty : DnoType}
    (h : addRow d pn ty dno = .ok d') :
    (d'.dict ty).keys = (d.dict ty).keys ++ [pn] ∧ ∀ ty', ty' ≠ ty → d'.dict ty' = d.dict ty' := by
  unfold addRow at h
  split at h
  · cases h
  · rename_i hc
    cases h
    have hnew : pn ∉ (d.dict ty).keys := fun hm => hc (KeyMap.count_eq_true.mpr hm)
    refine ⟨?_, fun ty' hne => Function.update_of_ne hne _ _⟩
    simp only [Function.update_self]
    exact KeyMap.keys_emplace dno hnew

/-- The step: a line puts its key, if it has one, into the dictionary of the command. -/
theorem fromCSVLine_eq_ok {ty : DnoType} {d d' : Data} {linebuf : Text}
    (h : fromCSVLine ty d linebuf = .ok d') :
    (d'.dict ty).keys = (d.dict ty).keys ++ (keyOf linebuf).toList ∧
      ∀ ty', ty' ≠ ty → d'.dict ty' = d.dict ty' := by
  unfold fromCSVLine csvRow at h
  unfold keyOf
  by_cases hdig : startsWithDigit linebuf = true
  · rw [if_neg (by simp [hdig])] at h
    rw [if_pos hdig]
    split at h
    · rename_i hlen
      obtain ⟨pn, hkey, hadd⟩ := bind_eq_ok.mp h
      have hpos : 0 < (splitLine linebuf).length := by
        have : (splitLine linebuf).length = 3 := by simpa using hlen
        omega
      obtain ⟨-, rfl⟩ := (columnKey_eq_ok_iff hpos).mp hkey
      exact addRow_eq_ok hadd
    · cases h
  · rw [if_pos (by simp [hdig])] at h
    rw [if_neg hdig]
    cases h
    exact ⟨(List.append_nil _).symm, fun _ _ => rfl⟩

/-- The run over the lines of a file. -/
theorem foldlM_fromCSVLine {ty : DnoType} {lines : List Text} {d d' : Data}
    (h : lines.foldlM (fromCSVLine ty) d = .ok d') :
    (d'.dict ty).keys = (d.dict ty).keys ++ lines.filterMap keyOf ∧
      ∀ ty', ty' ≠ ty → d'.dict ty' = d.dict ty' := by
  induction lines generalizing d with
  | nil =>
    cases h
    exact ⟨(List.append_nil _).symm, fun _ _ => rfl⟩
  | cons line lines ih =>
    rw [List.foldlM_cons, bind_eq_ok] at h
    obtain ⟨d₁, h1, h2⟩ := h
    obtain ⟨hk1, ho1⟩ := fromCSVLine_eq_ok h1
    obtain ⟨hk2, ho2⟩ := ih h2
    refine ⟨?_, fun ty' hne => (ho2 ty' hne).trans (ho1 ty' hne)⟩
    rw [hk2, hk1, List.append_assoc, List.filterMap_cons]
    cases keyOf line <;> rfl

/-- **A loaded DNO dataset** has the keys of its file in one dictionary and nothing in the
others. -/
theorem foldLines_dno {ty : DnoType} {metadata : Dynamic} {content : Text} {d : Data}
    (h : (loader ty).foldLines metadata content = .ok d) :
    (d.dict ty).keys = fileKeys content ∧ ∀ ty', ty' ≠ ty → (d.dict ty').keys = [] := by
  obtain ⟨hk, ho⟩ := foldlM_fromCSVLine h
  exact ⟨hk, fun ty' hne => by rw [ho ty' hne]; rfl⟩

end DnoMapping

/-! ## 2. Runs of the commands -/

/-- A run of successful DNO commands from a daemon without a DNO table; the history has the last
command first. -/
inductive DnoRun (host : Host) : List (DnoType × Text) → Globals → Prop
  | start {g : Globals} : g .dno = none → DnoRun host [] g
  | load {history : List (DnoType × Text)} {g g' : Globals} {files : Files} {path content : Text}
      {metadata : Dynamic} {ty : DnoType} :
      DnoRun host history g → files path = some content →
      loadDnoMappingFile host files path metadata g ty = .ok (true, g') →
      DnoRun host ((ty, content) :: history) g'

/-- The dataset holds the file of the last command, in the dictionary of its granularity, and
nothing else. -/
def HoldsLast (history : List (DnoType × Text)) (data : Option Data) : Prop :=
  match history, data with
  | [], none => True
  | (ty, content) :: _, some d =>
    (d.dict ty).keys = fileKeys content ∧ ∀ ty', ty' ≠ ty → (d.dict ty').keys = []
  | _, _ => False

/-- **The invariant of every run.** -/
theorem DnoRun.inv {host : Host} {history : List (DnoType × Text)} {g : Globals}
    (h : DnoRun host history g) : HoldsLast history (g .dno) := by
  induction h with
  | start h0 =>
    rw [h0]
    trivial
  | load _ hfile hload _ =>
    obtain ⟨d, hfold, rfl⟩ := Loader.loadFile_eq_true hfile hload
    rw [Globals.commit_self]
    exact foldLines_dno hfold

/-! ## 3. The flag -/

/-- The flag of one number: `TargetHandler` calls `getDNOs` on a zeroed buffer if there is a
table, and else leaves it zero. -/
def dnoFlag (host : Host) (g : Globals) (pn : UInt64) : UInt64 :=
  match g .dno with
  | none => 0
  | some d => (d.getDNOs host.prefetch [pn] [0]).headD 0

/-- The file most recently loaded with this granularity. -/
def latest (history : List (DnoType × Text)) (ty : DnoType) : Option Text :=
  (history.find? fun c => decide (c.1 = ty)).map Prod.snd

/-- The most recent file of this granularity covers the number. -/
def Covered (history : List (DnoType × Text)) (ty : DnoType) (pn : UInt64) : Prop :=
  ∃ content, latest history ty = some content ∧ ty.prefixOf pn ∈ fileKeys content

theorem dnoFlag_ne_zero_iff {host : Host} {g : Globals} {pn : UInt64} :
    dnoFlag host g pn ≠ 0 ↔ ∃ d, g .dno = some d ∧ ∃ ty, ty.prefixOf pn ∈ (d.dict ty).keys := by
  unfold dnoFlag
  cases hg : g .dno with
  | none =>
    refine iff_of_false (fun h => h rfl) ?_
    rintro ⟨d, hd, -⟩
    cases hd
  | some d =>
    change (d.getDNOs host.prefetch [pn] [0]).headD 0 ≠ 0 ↔ _
    rw [Data.getDNOs, fillBlocks_eq_zipWith host.prefetch d.fillSlot [pn] [0] rfl]
    change d.fillSlot pn 0 ≠ 0 ↔ _
    rw [fillSlot_zero_ne_zero_iff]
    constructor
    · intro h
      exact ⟨d, rfl, h⟩
    · rintro ⟨d', hd, h⟩
      cases hd
      exact h

/-- The flag is set exactly by the file of the last command. -/
theorem dnoFlag_iff_last {host : Host} {history : List (DnoType × Text)} {g : Globals}
    (hrun : DnoRun host history g) (pn : UInt64) :
    dnoFlag host g pn ≠ 0 ↔ ∃ ty content rest, history = (ty, content) :: rest ∧
      ty.prefixOf pn ∈ fileKeys content := by
  rw [dnoFlag_ne_zero_iff]
  have hinv := hrun.inv
  cases history with
  | nil =>
    refine iff_of_false ?_ ?_
    · rintro ⟨d, hd, -⟩
      rw [hd] at hinv
      exact hinv
    · rintro ⟨_, _, _, h, -⟩
      cases h
  | cons c rest =>
    obtain ⟨ty, content⟩ := c
    cases hg : g .dno with
    | none =>
      rw [hg] at hinv
      exact hinv.elim
    | some d =>
      rw [hg] at hinv
      obtain ⟨hkeys, hothers⟩ := hinv
      constructor
      · rintro ⟨d', hd, ty', hmem⟩
        cases hd
        by_cases hty : ty' = ty
        · subst hty
          exact ⟨ty', content, rest, rfl, hkeys ▸ hmem⟩
        · rw [hothers ty' hty] at hmem
          cases hmem
      · rintro ⟨ty', content', rest', hcons, hmem⟩
        cases hcons
        exact ⟨d, rfl, ty, hkeys ▸ hmem⟩

/-- The granularity just loaded is covered by the file just read. -/
theorem covered_head_iff {ty : DnoType} {content : Text} {rest : List (DnoType × Text)}
    {pn : UInt64} :
    Covered ((ty, content) :: rest) ty pn ↔ ty.prefixOf pn ∈ fileKeys content := by
  rw [Covered, latest, List.find?_cons_of_pos (by simp)]
  constructor
  · rintro ⟨content', h, hmem⟩
    cases h
    exact hmem
  · intro hmem
    exact ⟨content, rfl, hmem⟩

/-- Every other granularity is covered by what it had loaded before. -/
theorem covered_tail_iff {ty ty' : DnoType} {content : Text} {rest : List (DnoType × Text)}
    {pn : UInt64} (hne : ty' ≠ ty) :
    Covered ((ty, content) :: rest) ty' pn ↔ Covered rest ty' pn := by
  rw [Covered, latest, List.find?_cons_of_neg (by simpa using Ne.symm hne)]
  rfl

/-- **The flag answers for all four files exactly when** the file of the last command covers the
number, or no other granularity's most recent file does. -/
theorem flag_iff_covered_iff {host : Host} {history : List (DnoType × Text)} {g : Globals}
    (hrun : DnoRun host history g) (pn : UInt64) :
    (dnoFlag host g pn ≠ 0 ↔ ∃ ty, Covered history ty pn) ↔
      ∀ last content rest, history = (last, content) :: rest →
        last.prefixOf pn ∈ fileKeys content ∨ ∀ ty, ty ≠ last → ¬ Covered rest ty pn := by
  rw [dnoFlag_iff_last hrun pn]
  constructor
  · rintro hiff last content rest rfl
    by_contra hbad
    rw [not_or, not_forall] at hbad
    obtain ⟨hlast, ty, hty⟩ := hbad
    rw [Classical.not_imp, not_not] at hty
    obtain ⟨_, _, _, hcons, hmem⟩ := hiff.mpr ⟨ty, (covered_tail_iff hty.1).mpr hty.2⟩
    cases hcons
    exact hlast hmem
  · intro hcond
    constructor
    · rintro ⟨ty, content, rest, rfl, hmem⟩
      exact ⟨ty, covered_head_iff.mpr hmem⟩
    · rintro ⟨ty, hcov⟩
      cases history with
      | nil =>
        obtain ⟨_, h, -⟩ := hcov
        cases h
      | cons c rest =>
        obtain ⟨last, content⟩ := c
        refine ⟨last, content, rest, rfl, ?_⟩
        rcases hcond last content rest rfl with h | h
        · exact h
        · by_cases hty : ty = last
          · subst hty
            exact covered_head_iff.mp hcov
          · exact absurd ((covered_tail_iff hty).mp hcov) (h ty hty)

/-! ## 4. A run that forgets -/

/-- A data line of three columns with a new key is accepted. -/
theorem fromCSVLine_fresh {ty : DnoType} {d : Data} {linebuf number b c : Text}
    (hdig : startsWithDigit linebuf = true) (hparts : pieces ',' linebuf = [number, b, c])
    (hnum : isNumeral (deleteCharacter number '-') = true) (hdict : (d.dict ty).keys = []) :
    ∃ d', fromCSVLine ty d linebuf = .ok d' := by
  have hsplit : splitLine linebuf = [number, b, c] := (getlines_ofText ',' linebuf).trans hparts
  have hkey : columnKey [number, b, c] 0 (fun s => deleteCharacter s '-') =
      .ok (UInt64.ofInt (signedValue (deleteCharacter number '-'))) :=
    stollKey_of_isNumeral hnum
  have hcount : (d.dict ty).count (UInt64.ofInt (signedValue (deleteCharacter number '-'))) =
      false := by
    rw [Bool.eq_false_iff, ne_eq, KeyMap.count_eq_true, hdict]
    exact List.not_mem_nil
  rw [fromCSVLine, csvRow, hsplit, if_neg (by simp [hdig]), if_pos (by simp), hkey]
  change ∃ d', addRow d _ ty 1 = .ok d'
  rw [addRow, hcount]
  exact ⟨_, rfl⟩

/-- A file of one such line is loaded by each of the commands. -/
theorem loadDno_one_line {line number b c : Text} (ty : DnoType) (g : Globals)
    (hdig : startsWithDigit line = true) (hparts : pieces ',' line = [number, b, c])
    (hnum : isNumeral (deleteCharacter number '-') = true) (hline : '\n' ∉ line) :
    ∃ g', loadDnoMappingFile Host.plain (fun _ => some (line ++ ['\n'])) [] (.object []) g ty =
      .ok (true, g') := by
  have hpieces : pieces '\n' (line ++ ['\n']) = [line] := pieces_append_delim [] hline
  have hend : endsCleanly CHUNK (line ++ ['\n']) = true := by
    rw [endsCleanly, terminated_append_delim]
    rfl
  obtain ⟨d', hd'⟩ := @fromCSVLine_fresh ty (Data.empty.setMetadata (.object [])) line number b c
    hdig hparts hnum rfl
  have hfold : (loader ty).foldLines (.object []) (line ++ ['\n']) = .ok d' := by
    rw [Loader.foldLines, hpieces, List.foldlM_cons]
    change (fromCSVLine ty (Data.empty.setMetadata (.object [])) line >>= _) = _
    rw [hd']
    rfl
  exact ⟨_, Loader.loadFile_of_fold rfl rfl ⟨0, rfl, by decide⟩ hfold hend⟩

/-- The area code 201 is loaded, and then the number 3015550000. -/
theorem exists_dnoRun :
    ∃ g, DnoRun Host.plain
      [(.dno, Dynamic.text "3015550000,a,b\n"), (.npa, Dynamic.text "201,a,b\n")] g := by
  obtain ⟨g₁, h₁⟩ := @loadDno_one_line (Dynamic.text "201,a,b") (Dynamic.text "201") ['a'] ['b']
    .npa Globals.initial (by decide) (by decide) (by decide) (by decide)
  obtain ⟨g₂, h₂⟩ := @loadDno_one_line (Dynamic.text "3015550000,a,b") (Dynamic.text "3015550000")
    ['a'] ['b'] .dno g₁ (by decide) (by decide) (by decide) (by decide)
  exact ⟨g₂, .load (.load (.start rfl) rfl h₁) rfl h₂⟩

theorem keyOf_of_pieces {line number b c : Text} (hdig : startsWithDigit line = true)
    (hparts : pieces ',' line = [number, b, c]) :
    keyOf line = some (UInt64.ofInt (signedValue (deleteCharacter number '-'))) := by
  rw [keyOf, if_pos hdig, splitLine, getlines_ofText, hparts]
  rfl

theorem fileKeys_npa : fileKeys (Dynamic.text "201,a,b\n") = [201] := by
  have hp : pieces '\n' (Dynamic.text "201,a,b\n") = [Dynamic.text "201,a,b"] := by decide
  have hk := @keyOf_of_pieces (Dynamic.text "201,a,b") (Dynamic.text "201") ['a'] ['b']
    (by decide) (by decide)
  rw [fileKeys, hp, List.filterMap_cons, hk]
  decide

theorem fileKeys_dno : fileKeys (Dynamic.text "3015550000,a,b\n") = [3015550000] := by
  have hp : pieces '\n' (Dynamic.text "3015550000,a,b\n") = [Dynamic.text "3015550000,a,b"] := by
    decide
  have hk := @keyOf_of_pieces (Dynamic.text "3015550000,a,b") (Dynamic.text "3015550000") ['a']
    ['b'] (by decide) (by decide)
  rw [fileKeys, hp, List.filterMap_cons, hk]
  decide

/-- In this run the number that was loaded last is flagged as it should be. -/
theorem flag_last_loaded :
    ∃ g, DnoRun Host.plain
        [(.dno, Dynamic.text "3015550000,a,b\n"), (.npa, Dynamic.text "201,a,b\n")] g ∧
      (dnoFlag Host.plain g 3015550000 ≠ 0 ↔ ∃ ty, Covered
        [(.dno, Dynamic.text "3015550000,a,b\n"), (.npa, Dynamic.text "201,a,b\n")] ty
        3015550000) := by
  obtain ⟨g, hrun⟩ := exists_dnoRun
  refine ⟨g, hrun, (flag_iff_covered_iff hrun 3015550000).mpr ?_⟩
  rintro last content rest hcons
  cases hcons
  refine Or.inl ?_
  rw [fileKeys_dno]
  decide

/-- A number of the area code 201 is not flagged any more. -/
theorem not_flag_forgotten :
    ∃ g, DnoRun Host.plain
        [(.dno, Dynamic.text "3015550000,a,b\n"), (.npa, Dynamic.text "201,a,b\n")] g ∧
      ¬ (dnoFlag Host.plain g 2015550000 ≠ 0 ↔ ∃ ty, Covered
        [(.dno, Dynamic.text "3015550000,a,b\n"), (.npa, Dynamic.text "201,a,b\n")] ty
        2015550000) := by
  obtain ⟨g, hrun⟩ := exists_dnoRun
  refine ⟨g, hrun, ?_⟩
  intro hiff
  have hcov : Covered
      [(.dno, Dynamic.text "3015550000,a,b\n"), (.npa, Dynamic.text "201,a,b\n")] .npa
      2015550000 := by
    refine ⟨_, rfl, ?_⟩
    rw [fileKeys_npa]
    decide
  obtain ⟨_, _, _, hcons, hmem⟩ := (dnoFlag_iff_last hrun 2015550000).mp (hiff.mpr ⟨_, hcov⟩)
  cases hcons
  rw [fileKeys_dno] at hmem
  exact absurd hmem (by decide)

end CallFwd
