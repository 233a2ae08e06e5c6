/-
# `/target`: one record as a JSON object

In JSON mode `onQueryComplete` pastes a record together from ten fragments, each with a variant for
a row that is there and one for a row that is not, and puts the texts of the rows between quotes as
they came from the file.

Section 1 says what the fragments are: members with a name and a text or null, but for the LERG
fragment without a row, which has two colons behind its first name.  Section 2 says when the record
is an object whose members give the texts back: when it is clean (`Rows.Clean.wellFormed`), and only
then (`TargetRecord.WellFormed.clean`).  Section 3 says when two states print objects with the same
names (`uniform_iff`): five names carry a blank in one of the two variants of their fragment.
-/
import CallFwd.Http.Target
import CallFwd.Lib.Json

namespace CallFwd.Http.TargetHandler

open Lib

/-! ## 1. The fragments -/

/-- The text between the blanks and the comma of `folly::format(&record, ..)`. -/
def TargetRecord.object (r : TargetRecord) : Text :=
  format [("\x7b", lrnStr true r.pn r.rn), (", ", dnoStr true r.dno), (", ", dncStr true r.dnc),
    (", ", tollfreeStr true r.tollfree), (", ", lergStr true r.lerg),
    (", ", youmailStr true r.youmail), (", ", geoStr true r.geo), (", ", ftcStr true r.ftc),
    (", ", f404Str true r.f404), (", ", f606Str true r.f606)] "\x7d"

theorem print_true (r : TargetRecord) :
    r.print true = Dynamic.text "  " ++ r.object ++ Dynamic.text ",\n" := by
  simp [TargetRecord.print, TargetRecord.object, format, Dynamic.text]

/-- The rows of a record: those that are there and whose key is not 0. -/
structure Rows where
  lerg : Option LergData
  youmail : Option YoumailData
  geo : Option GeoData
  ftc : Option FtcData
  f404 : Option FailureData
  f606 : Option FailureData

def TargetRecord.rows (r : TargetRecord) : Rows where
  lerg := present LergData.lerg_key r.lerg
  youmail := present YoumailData.pn r.youmail
  geo := present GeoData.npanxx r.geo
  ftc := present FtcData.pn r.ftc
  f404 := present FailureData.pn r.f404
  f606 := present FailureData.pn r.f606

/-- The texts that are printed of a row of LERG, under the names they are printed with. -/
def lergFields (l : LergData) : List (String × Text) :=
  [("ocn", l.ocn), ("operator", l.company), ("ocn_type", l.ocn_type), ("lata", l.lata),
    ("rate_center", l.rate_center), ("country", l.country)]

def youmailFields (y : YoumailData) : List (String × Text) :=
  [("youmail_SpamScore", y.sapmscore), ("youmail_FraudProbability", y.fraudprobability),
    ("youmail_Unlawful", y.unlawful), ("youmail_TCPAFraudProbability", y.tcpafraud)]

def geoFields (x : GeoData) : List (String × Text) :=
  [("zipcode", x.zipcode), ("county", x.county), ("city", x.city), ("latitude", x.latitude),
    ("longitude", x.longitude), ("timezone", x.timezone)]

def ftcFields (f : FtcData) : List (String × Text) :=
  [("last_ftc_on", f.last_ftc_on), ("first_ftc_on", f.first_ftc_on), (" ftc_count", f.ftc_count)]

def failureFields (code : String) (f : FailureData) : List (String × Text) :=
  [("first_" ++ code ++ "_on", f.first_on), ("last_" ++ code ++ "_on", f.last_on)]

/-- The fields of a row, if there is one. -/
def fieldsOf {V : Type} (fields : V → List (String × Text)) (row : Option V) :
    List (String × Text) :=
  row.elim [] fields

/-- What the tables say of a number, in text columns. -/
def Rows.fields (rows : Rows) : List (String × Text) :=
  fieldsOf lergFields rows.lerg ++ fieldsOf youmailFields rows.youmail ++
    fieldsOf geoFields rows.geo ++ fieldsOf ftcFields rows.ftc ++
    fieldsOf (failureFields "404") rows.f404 ++ fieldsOf (failureFields "6xx") rows.f606

/-- The fields of a row, or the names that are printed with null where there is no row. -/
def printed {V : Type} (fields : V → List (String × Text)) (nulls : List String) :
    Option V → List (String × Option Text)
  | none => nulls.map fun name => (name, none)
  | some row => (fields row).map fun f => (f.1, some f.2)

def youmailNulls : List String :=
  ["youmail_SpamScore", "youmail_FraudProbability", "youmail_Unlawful",
    " youmail_TCPAFraudProbability"]

def geoNulls : List String :=
  ["zipcode", "county", "city", " latitude", " longitude", " timezone"]

def ftcNulls : List String := ["last_ftc_on", "first_ftc_on", "ftc_count"]

/-- The members in front of those of LERG. -/
def TargetRecord.lead (r : TargetRecord) : List (String × Option Text) :=
  [("pn", some (printUint64 r.pn)),
    ("rn", if r.rn ≠ PhoneNumber.NONE then some (printUint64 r.rn) else none),
    ("is_dno", some (Dynamic.text (if r.dno.getD 0 = 0 then "no" else "yes"))),
    ("is_dnc", some (Dynamic.text (if r.dnc.getD 0 = 0 then "no" else "yes"))),
    ("is_tollfree", some (Dynamic.text (if r.tollfree.getD 0 = 0 then "no" else "yes")))]

/-- The members behind those of LERG, without the last one. -/
def Rows.others (rows : Rows) : List (String × Option Text) :=
  printed youmailFields youmailNulls rows.youmail ++ printed geoFields geoNulls rows.geo ++
    ("is_ftc", some (Dynamic.text (if rows.ftc.isSome then "yes" else "no"))) ::
    printed ftcFields ftcNulls rows.ftc ++
    [("first_404_on", rows.f404.map FailureData.first_on),
      ("last_404_on", rows.f404.map FailureData.last_on),
      ("first_6xx_on", rows.f606.map FailureData.first_on)]

def Rows.last (rows : Rows) : String × Option Text :=
  ("last_6xx_on", rows.f606.map FailureData.last_on)

/-- A name as the text it is printed as. -/
def named (m : String × Option Text) : Text × Option Text := (Dynamic.text m.1, m.2)

section Fragments

variable (rest : Text)

/-- Members with a comma behind each. -/
def paste (ms : List (String × Option Text)) (rest : Text) : Text :=
  Json.pastedMembers (ms.map named) rest

@[simp] theorem paste_nil (rest : Text) : paste [] rest = rest := rfl

@[simp] theorem paste_null (name : String) (ms : List (String × Option Text)) (rest : Text) :
    paste ((name, none) :: ms) rest = '\x22' :: (Dynamic.text name ++ '\x22' :: ':' :: ' ' ::
      'n' :: 'u' :: 'l' :: 'l' :: ',' :: ' ' :: paste ms rest) := rfl

@[simp] theorem paste_text (name : String) (s : Text) (ms : List (String × Option Text))
    (rest : Text) :
    paste ((name, some s) :: ms) rest = '\x22' :: (Dynamic.text name ++ '\x22' :: ':' :: ' ' ::
      '\x22' :: (s ++ '\x22' :: ',' :: ' ' :: paste ms rest)) := rfl

theorem paste_append (ms ms' : List (String × Option Text)) (rest : Text) :
    paste (ms ++ ms') rest = paste ms (paste ms' rest) := by
  simp [paste, Json.pastedMembers]

theorem lead_eq (r : TargetRecord) :
    lrnStr true r.pn r.rn ++ ',' :: ' ' :: (dnoStr true r.dno ++ ',' :: ' ' ::
      (dncStr true r.dnc ++ ',' :: ' ' :: (tollfreeStr true r.tollfree ++ ',' :: ' ' :: rest))) =
      paste r.lead rest := by
  by_cases hrn : r.rn = PhoneNumber.NONE
  all_goals
    simp [lrnStr, hrn, dnoStr, dncStr, tollfreeStr, flagStr, format, Dynamic.text,
      TargetRecord.lead]

theorem lergStr_eq {slot : Option LergData} {l : LergData}
    (h : present LergData.lerg_key slot = some l) :
    lergStr true slot ++ ',' :: ' ' :: rest = paste (printed lergFields [] (some l)) rest := by
  unfold lergStr
  simp [h, format, Dynamic.text, printed, lergFields]

/-- The fragment that is no list of members. -/
theorem lergStr_none {slot : Option LergData} (h : present LergData.lerg_key slot = none) :
    ∃ t, lergStr true slot ++ rest =
      '\x22' :: (Dynamic.text "ocn" ++ '\x22' :: ':' :: ':' :: t) := by
  unfold lergStr
  simp [h, Dynamic.text]

theorem youmailStr_eq (slot : Option YoumailData) :
    youmailStr true slot ++ ',' :: ' ' :: rest =
      paste (printed youmailFields youmailNulls (present YoumailData.pn slot)) rest := by
  unfold youmailStr
  cases present YoumailData.pn slot
  all_goals
    simp [format, Dynamic.text, printed, youmailFields, youmailNulls]

theorem geoStr_eq (slot : Option GeoData) :
    geoStr true slot ++ ',' :: ' ' :: rest =
      paste (printed geoFields geoNulls (present GeoData.npanxx slot)) rest := by
  unfold geoStr
  cases present GeoData.npanxx slot
  all_goals
    simp [format, Dynamic.text, printed, geoFields, geoNulls]

theorem ftcStr_eq (slot : Option FtcData) :
    ftcStr true slot ++ ',' :: ' ' :: rest =
      paste (("is_ftc", some (Dynamic.text
        (if (present FtcData.pn slot).isSome then "yes" else "no"))) ::
        printed ftcFields ftcNulls (present FtcData.pn slot)) rest := by
  unfold ftcStr
  cases present FtcData.pn slot
  all_goals
    simp [format, Dynamic.text, printed, ftcFields, ftcNulls]

theorem f404Str_eq (slot : Option FailureData) :
    f404Str true slot ++ ',' :: ' ' :: rest =
      paste [("first_404_on", (present FailureData.pn slot).map FailureData.first_on),
        ("last_404_on", (present FailureData.pn slot).map FailureData.last_on)] rest := by
  unfold f404Str failureStr
  cases present FailureData.pn slot
  all_goals
    simp [format, Dynamic.text]

theorem f606Str_eq (slot : Option FailureData) :
    f606Str true slot ++ ['\x7d'] =
      paste [("first_6xx_on", (present FailureData.pn slot).map FailureData.first_on)]
        (Json.pastedMember
          (named ("last_6xx_on", (present FailureData.pn slot).map FailureData.last_on))
          ['\x7d']) := by
  unfold f606Str failureStr
  cases present FailureData.pn slot
  all_goals
    simp [format, Dynamic.text, named, Json.pastedMember, Json.pastedValue]

end Fragments

/-- The members of an object, the last one apart. -/
def TargetRecord.members (r : TargetRecord) (l : LergData) : List (String × Option Text) :=
  r.lead ++ (printed lergFields [] (some l) ++ r.rows.others)

/-- The fragments behind that of LERG. -/
theorem others_eq (r : TargetRecord) :
    youmailStr true r.youmail ++ ',' :: ' ' :: (geoStr true r.geo ++ ',' :: ' ' ::
      (ftcStr true r.ftc ++ ',' :: ' ' :: (f404Str true r.f404 ++ ',' :: ' ' ::
        (f606Str true r.f606 ++ ['\x7d'])))) =
      paste r.rows.others (Json.pastedMember (named r.rows.last) ['\x7d']) := by
  rw [f606Str_eq, f404Str_eq, ftcStr_eq, geoStr_eq, youmailStr_eq, ← paste_append, ← paste_append,
    ← paste_append, ← paste_append]
  simp only [Rows.others, TargetRecord.rows, Rows.last, List.append_assoc, List.cons_append]
  rfl

/-- The fragments one behind the other, that of LERG as it is. -/
theorem object_eq (r : TargetRecord) :
    r.object = '\x7b' :: paste r.lead (lergStr true r.lerg ++ ',' :: ' ' ::
      paste r.rows.others (Json.pastedMember (named r.rows.last) ['\x7d'])) := by
  rw [← lead_eq, ← others_eq]
  simp [TargetRecord.object, format, Dynamic.text]

/-- **With a row of LERG the object is pasted from members.** -/
theorem object_some {r : TargetRecord} {l : LergData} (h : r.rows.lerg = some l) :
    r.object = Json.pastedObject ((r.members l).map named) (named r.rows.last) := by
  rw [object_eq, lergStr_eq _ h, ← paste_append, ← paste_append]
  rfl

/-- Without one there are two colons behind the first name of the fragment. -/
theorem object_none {r : TargetRecord} (h : r.rows.lerg = none) :
    ∃ t, r.object = '\x7b' :: paste r.lead
      ('\x22' :: (Dynamic.text "ocn" ++ '\x22' :: ':' :: ':' :: t)) := by
  rw [object_eq]
  obtain ⟨t, ht⟩ := lergStr_none (',' :: ' ' ::
    paste r.rows.others (Json.pastedMember (named r.rows.last) ['\x7d'])) h
  exact ⟨t, by rw [ht]⟩

/-! ## 2. Records that are read back -/

/-- The members that are taken from a table: the routing number and the text columns. -/
def TargetRecord.fields (r : TargetRecord) : List (String × Text) :=
  (if r.rn ≠ PhoneNumber.NONE then [("rn", printUint64 r.rn)] else []) ++ r.rows.fields

/-- Each field is the value of the members with its name. -/
def Faithful (fields : List (String × Text)) (ms : List (Text × Json)) : Prop :=
  ∀ f ∈ fields, ∀ j, (Dynamic.text f.1, j) ∈ ms ↔ j = .str f.2

/-- The record is a JSON object with the members `ms`, and these give the fields back. -/
def TargetRecord.WellFormed (r : TargetRecord) (ms : List (Text × Json)) : Prop :=
  Json.parse r.object = some (.obj ms) ∧ Faithful r.fields ms

/-- There is a row of LERG, and no text of the rows needs an escape. -/
def Rows.Clean (rows : Rows) : Prop := rows.lerg.isSome ∧ ∀ f ∈ rows.fields, Json.Plain f.2

instance (rows : Rows) : Decidable rows.Clean :=
  inferInstanceAs (Decidable (rows.lerg.isSome ∧ ∀ f ∈ rows.fields, Json.Plain f.2))

/-- The names, by the rows of youmail, of geo and of ftc. -/
def names (youmail geo ftc : Bool) : List String :=
  ["pn", "rn", "is_dno", "is_dnc", "is_tollfree", "ocn", "operator", "ocn_type", "lata",
    "rate_center", "country", "youmail_SpamScore", "youmail_FraudProbability", "youmail_Unlawful",
    if youmail then "youmail_TCPAFraudProbability" else " youmail_TCPAFraudProbability",
    "zipcode", "county", "city"] ++
  (if geo then ["latitude", "longitude", "timezone"]
    else [" latitude", " longitude", " timezone"]) ++
  ["is_ftc", "last_ftc_on", "first_ftc_on", if ftc then " ftc_count" else "ftc_count",
    "first_404_on", "last_404_on", "first_6xx_on", "last_6xx_on"]

theorem names_members (r : TargetRecord) (l : LergData) :
    (r.members l ++ [r.rows.last]).map Prod.fst =
      names r.rows.youmail.isSome r.rows.geo.isSome r.rows.ftc.isSome := by
  rw [TargetRecord.members, TargetRecord.lead, Rows.others, Rows.last]
  cases r.rows.youmail
  all_goals
    cases r.rows.geo
    all_goals
      cases r.rows.ftc
      all_goals rfl

theorem nodup_names (youmail geo ftc : Bool) : (names youmail geo ftc).Nodup := by
  revert youmail geo ftc
  decide +kernel

theorem plain_names (youmail geo ftc : Bool) :
    ∀ n ∈ names youmail geo ftc, Json.Plain (Dynamic.text n) := by
  revert youmail geo ftc
  decide +kernel

section Members

variable {r : TargetRecord} {l : LergData} {n : String} {s : Text}

theorem mem_printed {V : Type} {fields : V → List (String × Text)} {nulls : List String}
    {row : Option V} :
    (n, some s) ∈ printed fields nulls row ↔ (n, s) ∈ fieldsOf fields row := by
  cases row with
  | none => simp [printed, fieldsOf]
  | some v => simp [printed, fieldsOf]

theorem mem_failure {code : String} {row : Option FailureData} :
    (n, s) ∈ fieldsOf (failureFields code) row ↔
      (n = "first_" ++ code ++ "_on" ∧ some s = row.map FailureData.first_on) ∨
        (n = "last_" ++ code ++ "_on" ∧ some s = row.map FailureData.last_on) := by
  cases row with
  | none => simp [fieldsOf]
  | some v => simp [fieldsOf, failureFields]

theorem plain_printUint64 (n : UInt64) : Json.Plain (printUint64 n) := by
  intro c hc
  obtain ⟨hlow, hhigh⟩ := digit_bounds (isDigit_of_mem_printUint64 hc)
  refine ⟨?_, ?_, by omega⟩
  · rintro rfl
    exact absurd hlow (by decide)
  · rintro rfl
    exact absurd hhigh (by decide)

theorem plain_ite {p : Prop} [Decidable p] {a b : String} (ha : Json.Plain (Dynamic.text a))
    (hb : Json.Plain (Dynamic.text b)) : Json.Plain (Dynamic.text (if p then a else b)) := by
  split
  · exact ha
  · exact hb

theorem plain_yes_no : Json.Plain (Dynamic.text "yes") ∧ Json.Plain (Dynamic.text "no") := by
  decide +kernel

/-- In front of LERG there are numbers and answers. -/
theorem plain_lead {m : String × Option Text} (hm : m ∈ r.lead) : ∀ s ∈ m.2, Json.Plain s := by
  intro s hs
  simp only [TargetRecord.lead, List.mem_cons, List.not_mem_nil, or_false] at hm
  rcases hm with rfl | rfl | rfl | rfl | rfl
  · cases hs
    exact plain_printUint64 r.pn
  · by_cases hnone : r.rn = PhoneNumber.NONE
    · simp [hnone] at hs
    · obtain rfl : printUint64 r.rn = s := by simpa [hnone] using hs
      exact plain_printUint64 r.rn
  all_goals
    cases hs
    exact plain_ite plain_yes_no.2 plain_yes_no.1

/-- A text that comes from no table is plain. -/
theorem plain_or_mem_fields (h : r.rows.lerg = some l)
    (hm : (n, some s) ∈ r.members l ++ [r.rows.last]) : Json.Plain s ∨ (n, s) ∈ r.fields := by
  simp only [TargetRecord.members, List.mem_append, List.mem_singleton, mem_printed] at hm
  rcases hm with (hlead | hlerg | hothers) | hlast
  · exact Or.inl (plain_lead hlead s rfl)
  · refine Or.inr ?_
    simp [TargetRecord.fields, Rows.fields, h, hlerg]
  · simp only [Rows.others, List.mem_append, List.mem_cons, mem_printed, Prod.mk.injEq,
      Option.some.injEq, List.not_mem_nil, or_false] at hothers
    rcases hothers with ((hyoumail | hgeo) | ⟨-, rfl⟩ | hftc) | hfailures
    · refine Or.inr ?_
      simp [TargetRecord.fields, Rows.fields, hyoumail]
    · refine Or.inr ?_
      simp [TargetRecord.fields, Rows.fields, hgeo]
    · exact Or.inl (plain_ite plain_yes_no.1 plain_yes_no.2)
    · refine Or.inr ?_
      simp [TargetRecord.fields, Rows.fields, hftc]
    · refine Or.inr (List.mem_append_right _ ?_)
      rcases hfailures with ⟨rfl, hs⟩ | ⟨rfl, hs⟩ | ⟨rfl, hs⟩
      · exact List.mem_append_left _ (List.mem_append_right _ (mem_failure.mpr (Or.inl ⟨rfl, hs⟩)))
      · exact List.mem_append_left _ (List.mem_append_right _ (mem_failure.mpr (Or.inr ⟨rfl, hs⟩)))
      · exact List.mem_append_right _ (mem_failure.mpr (Or.inl ⟨rfl, hs⟩))
  · obtain ⟨rfl, hs⟩ := Prod.mk.inj hlast
    exact Or.inr (List.mem_append_right _ (List.mem_append_right _
      (mem_failure.mpr (Or.inr ⟨rfl, hs⟩))))

/-- A field is printed. -/
theorem mem_members (h : r.rows.lerg = some l) (hf : (n, s) ∈ r.fields) :
    (n, some s) ∈ r.members l ++ [r.rows.last] := by
  simp only [TargetRecord.fields, Rows.fields, List.mem_append, h] at hf
  simp only [TargetRecord.members, List.mem_append, List.mem_singleton, mem_printed]
  rcases hf with hrn | ((((hlerg | hyoumail) | hgeo) | hftc) | hf404) | hf606
  · refine Or.inl (Or.inl ?_)
    by_cases hnone : r.rn = PhoneNumber.NONE
    · simp [hnone] at hrn
    · obtain ⟨rfl, rfl⟩ : n = "rn" ∧ s = printUint64 r.rn := by simpa [hnone] using hrn
      simp [TargetRecord.lead, hnone]
  · exact Or.inl (Or.inr (Or.inl hlerg))
  · refine Or.inl (Or.inr (Or.inr ?_))
    simp [Rows.others, mem_printed, hyoumail]
  · refine Or.inl (Or.inr (Or.inr ?_))
    simp [Rows.others, mem_printed, hgeo]
  · refine Or.inl (Or.inr (Or.inr ?_))
    simp [Rows.others, mem_printed, hftc]
  · refine Or.inl (Or.inr (Or.inr ?_))
    rcases mem_failure.mp hf404 with ⟨rfl, hs⟩ | ⟨rfl, hs⟩
    · simp [Rows.others, ← hs]
    · simp [Rows.others, ← hs]
  · rcases mem_failure.mp hf606 with ⟨rfl, hs⟩ | ⟨rfl, hs⟩
    · refine Or.inl (Or.inr (Or.inr ?_))
      simp [Rows.others, ← hs]
    · refine Or.inr ?_
      simp [Rows.last, ← hs]

end Members

section Read

variable {r : TargetRecord} {l : LergData} {ms : List (Text × Json)}

/-- The names are plain. -/
theorem plain_named {m : String × Option Text} (hm : m ∈ r.members l ++ [r.rows.last]) :
    Json.Plain (named m).1 := by
  have hname := List.mem_map_of_mem (f := Prod.fst) hm
  rw [names_members] at hname
  exact plain_names _ _ _ m.1 hname

/-- No name is printed twice. -/
theorem eq_of_named {m m' : String × Option Text} (hm : m ∈ r.members l ++ [r.rows.last])
    (hm' : m' ∈ r.members l ++ [r.rows.last]) (h : (named m).1 = (named m').1) : m = m' := by
  have hnodup := nodup_names r.rows.youmail.isSome r.rows.geo.isSome r.rows.ftc.isSome
  rw [← names_members r l] at hnodup
  exact List.inj_on_of_nodup_map hnodup hm hm' (String.toList_injective h)

/-- The members that are read, where there is a row of LERG. -/
def TargetRecord.read (r : TargetRecord) (l : LergData) : List (Text × Json) :=
  (r.members l ++ [r.rows.last]).map fun m => (Dynamic.text m.1, Json.ofText m.2)

theorem named_append (r : TargetRecord) (l : LergData) :
    (r.members l).map named ++ [named r.rows.last] = (r.members l ++ [r.rows.last]).map named := by
  rw [List.map_append, List.map_singleton]

theorem forall_named {P : Text × Option Text → Prop} :
    (∀ m ∈ (r.members l).map named ++ [named r.rows.last], P m) ↔
      ∀ m ∈ r.members l ++ [r.rows.last], P (named m) := by
  rw [named_append, List.forall_mem_map]

/-- **Two colons are read in no state.** -/
theorem parse_object_none (h : r.rows.lerg = none) : Json.parse r.object = none := by
  obtain ⟨t, ht⟩ := object_none h
  have hocn : Json.Plain (Dynamic.text "ocn") := plain_names false false false _ (by simp [names])
  have hname : ∀ m ∈ r.lead, m.1 ∈ names false false false := by
    intro m hm
    have hfst := List.mem_map_of_mem (f := Prod.fst) hm
    exact List.mem_append_left _ (List.mem_append_left _
      (@List.mem_append_left _ m.1 ["pn", "rn", "is_dno", "is_dnc", "is_tollfree"] _ hfst))
  rw [ht]
  refine Json.parse_colon (List.forall_mem_map.mpr ?_) (List.forall_mem_map.mpr ?_) hocn t
  · intro m hm
    exact plain_names false false false m.1 (hname m hm)
  · intro m hm
    exact plain_lead hm

/-- **A record that is read back is clean.** -/
theorem TargetRecord.WellFormed.clean (h : r.WellFormed ms) : r.rows.Clean := by
  obtain ⟨hparse, hfaithful⟩ := h
  cases hlerg : r.rows.lerg with
  | none =>
    rw [parse_object_none hlerg] at hparse
    cases hparse
  | some l =>
    rw [object_some hlerg] at hparse
    have hplain := Json.plain_of_parse_pastedObject (forall_named.mpr fun m => plain_named) hparse
      (forall_named.mpr fun m hm s hs => by
        obtain ⟨n, v⟩ := m
        cases hs
        refine (plain_or_mem_fields hlerg hm).imp_right ?_
        intro hf s' hs'
        exact Json.str.inj ((hfaithful (n, s) hf _).mp hs'))
    refine ⟨by rw [hlerg]; rfl, ?_⟩
    intro f hf
    have hmem := mem_members (n := f.1) (s := f.2) hlerg (List.mem_append_right _ hf)
    exact forall_named.mp hplain _ hmem f.2 rfl

theorem plain_printed (h : r.rows.Clean) (hlerg : r.rows.lerg = some l)
    {m : String × Option Text} (hm : m ∈ r.members l ++ [r.rows.last]) :
    ∀ s ∈ m.2, Json.Plain s := by
  intro s hs
  obtain ⟨n, v⟩ := m
  cases hs
  rcases plain_or_mem_fields hlerg hm with hplain | hf
  · exact hplain
  · rcases List.mem_append.mp hf with hrn | hf
    · by_cases hnone : r.rn = PhoneNumber.NONE
      · simp [hnone] at hrn
      · obtain ⟨-, rfl⟩ : n = "rn" ∧ s = printUint64 r.rn := by simpa [hnone] using hrn
        exact plain_printUint64 r.rn
    · exact h.2 (n, s) hf

/-- **A clean record is read back**, with all of its members. -/
theorem Rows.Clean.wellFormed (h : r.rows.Clean) (hlerg : r.rows.lerg = some l) :
    r.WellFormed (r.read l) := by
  refine ⟨?_, ?_⟩
  · rw [object_some hlerg, Json.parse_pastedObject (forall_named.mpr fun m => plain_named)
      (forall_named.mpr fun m => plain_printed h hlerg), named_append, List.map_map]
    rfl
  · intro f hf j
    have hmem := mem_members (n := f.1) (s := f.2) hlerg hf
    constructor
    · intro hj
      obtain ⟨m, hm, he⟩ := List.mem_map.mp hj
      obtain ⟨hname, rfl⟩ := Prod.mk.inj he
      rw [eq_of_named hm hmem hname]
      rfl
    · rintro rfl
      exact List.mem_map.mpr ⟨_, hmem, rfl⟩

/-- What a well-formed record reads as. -/
theorem TargetRecord.WellFormed.eq_read (h : r.WellFormed ms) :
    ∃ l, r.rows.lerg = some l ∧ ms = r.read l := by
  obtain ⟨l, hl⟩ := Option.isSome_iff_exists.mp h.clean.1
  have hread := h.1.symm.trans (h.clean.wellFormed hl).1
  exact ⟨l, hl, Json.obj.inj (Option.some.inj hread)⟩

end Read

/-! ## 3. Two states -/

/-- **Well formed and uniform**: both records are JSON objects that give their fields back, and
their members have the same names. -/
def Uniform (r r' : TargetRecord) : Prop :=
  ∃ ms ms', r.WellFormed ms ∧ r'.WellFormed ms' ∧
    ∀ n, n ∈ ms.map Prod.fst ↔ n ∈ ms'.map Prod.fst

theorem text_injective : Function.Injective Dynamic.text := fun _ _ h => String.toList_injective h

/-- The names that are read. -/
theorem names_read (r : TargetRecord) (l : LergData) :
    (r.read l).map Prod.fst =
      (names r.rows.youmail.isSome r.rows.geo.isSome r.rows.ftc.isSome).map Dynamic.text := by
  rw [← names_members r l, TargetRecord.read, List.map_map, List.map_map]
  rfl

/-- Three of the names say which rows are there. -/
theorem mem_names (youmail geo ftc : Bool) :
    ("youmail_TCPAFraudProbability" ∈ names youmail geo ftc ↔ youmail = true) ∧
      ("latitude" ∈ names youmail geo ftc ↔ geo = true) ∧
      (" ftc_count" ∈ names youmail geo ftc ↔ ftc = true) := by
  revert youmail geo ftc
  decide +kernel

theorem names_congr {youmail geo ftc youmail' geo' ftc' : Bool}
    (h : ∀ n, n ∈ names youmail geo ftc ↔ n ∈ names youmail' geo' ftc') :
    youmail = youmail' ∧ geo = geo' ∧ ftc = ftc' := by
  obtain ⟨hyoumail, hgeo, hftc⟩ := mem_names youmail geo ftc
  obtain ⟨hyoumail', hgeo', hftc'⟩ := mem_names youmail' geo' ftc'
  refine ⟨?_, ?_, ?_⟩
  · rw [Bool.eq_iff_iff, ← hyoumail, ← hyoumail', h]
  · rw [Bool.eq_iff_iff, ← hgeo, ← hgeo', h]
  · rw [Bool.eq_iff_iff, ← hftc, ← hftc', h]

/-- The tables whose two fragments have different names have a row in both or in neither. -/
def SameTables (rows rows' : Rows) : Prop :=
  rows.youmail.isSome = rows'.youmail.isSome ∧ rows.geo.isSome = rows'.geo.isSome ∧
    rows.ftc.isSome = rows'.ftc.isSome

instance (rows rows' : Rows) : Decidable (SameTables rows rows') :=
  inferInstanceAs (Decidable (_ ∧ _ ∧ _))

/-- **Two records are uniform** when both are clean and have rows of the same three tables. -/
theorem uniform_iff (r r' : TargetRecord) :
    Uniform r r' ↔ r.rows.Clean ∧ r'.rows.Clean ∧ SameTables r.rows r'.rows := by
  constructor
  · rintro ⟨ms, ms', h, h', hnames⟩
    obtain ⟨l, -, rfl⟩ := h.eq_read
    obtain ⟨l', -, rfl⟩ := h'.eq_read
    refine ⟨h.clean, h'.clean, names_congr ?_⟩
    intro n
    have hn := hnames (Dynamic.text n)
    rw [names_read, names_read] at hn
    rwa [List.mem_map_of_injective text_injective, List.mem_map_of_injective text_injective] at hn
  · rintro ⟨h, h', hyoumail, hgeo, hftc⟩
    obtain ⟨l, hl⟩ := Option.isSome_iff_exists.mp h.1
    obtain ⟨l', hl'⟩ := Option.isSome_iff_exists.mp h'.1
    refine ⟨r.read l, r'.read l', h.wellFormed hl, h'.wellFormed hl', ?_⟩
    intro n
    rw [names_read, names_read, hyoumail, hgeo, hftc]

section Tables

variable (prefetch : Table → ℕ+) (g : Globals) (us ca : PhoneMapping.Data)

/-- What the tables hold of a number: LERG under its routing number, or under the number where
there is none, and of LERG the thousands block before the exchange. -/
def rowsOf (p : UInt64) : Rows where
  lerg := (g .lerg).bind fun d =>
    let n := (routing (prefetch .us) us ca p).getD p
    (present LergData.lerg_key (d.dict.find (n / 1000))).or
      (present LergData.lerg_key (d.dic_npa_nxx.find (n / 1000 / 10)))
  youmail := (g .youmail).bind fun d => present YoumailData.pn (d.dict.find p)
  geo := (g .geo).bind fun d => present GeoData.npanxx (d.dict.find (p / 10000))
  ftc := (g .ftc).bind fun d => present FtcData.pn (d.dict.find p)
  f404 := (g .f404).bind fun d => present FailureData.pn (d.dict.find p)
  f606 := (g .f606).bind fun d => present FailureData.pn (d.dict.find p)

/-- A slot whose lookup found nothing is cleared. -/
theorem present_copyRecord {D V : Type} {key : V → UInt64} {clear : V → V} {found : D → Option V}
    {slot : V} (hclear : key (clear slot) = 0) (table : Option D) :
    present key (table.map fun d => copyRecord clear (found d) slot) =
      table.bind fun d => present key (found d) := by
  cases table with
  | none => rfl
  | some d =>
    rw [Option.map_some, Option.bind_some, copyRecord]
    cases found d with
    | none => simp [present, hclear]
    | some v => rfl

/-- The exchange is asked where the thousands block left the key zero. -/
theorem present_fillSlot (d : LergMapping.Data) (n : UInt64) (slot : LergData) :
    present LergData.lerg_key (some (d.fillSlot n slot)) =
      (present LergData.lerg_key (d.dict.find (n / 1000))).or
        (present LergData.lerg_key (d.dic_npa_nxx.find (n / 1000 / 10))) := by
  have hcopy : ∀ found : Option LergData, ∀ slot,
      present LergData.lerg_key (some (copyRecord LergMapping.clear found slot)) =
        present LergData.lerg_key found := by
    intro found slot
    cases found with
    | none => rfl
    | some l => rfl
  rw [LergMapping.Data.fillSlot]
  cases hblock : present LergData.lerg_key (d.dict.find (n / 1000)) with
  | none =>
    rw [← hcopy _ slot] at hblock
    have hzero : (copyRecord LergMapping.clear (d.dict.find (n / 1000)) slot).lerg_key = 0 := by
      simpa [present] using hblock
    simp only [if_pos hzero, hcopy, Option.none_or]
  | some l =>
    rw [← hcopy _ slot] at hblock
    have hne : (copyRecord LergMapping.clear (d.dict.find (n / 1000)) slot).lerg_key ≠ 0 := by
      intro hzero
      simp only [present, Option.filter_eq_some_iff, Option.some.injEq, decide_eq_true_eq] at hblock
      exact hblock.2 (hblock.1 ▸ hzero)
    simp only [if_neg hne, hblock, Option.some_or]

/-- **The rows that are printed are those the tables hold.** -/
theorem rows_answer (p : UInt64) :
    (answer prefetch g us ca p).rows = rowsOf prefetch g us ca p := by
  have hlerg : present LergData.lerg_key (answer prefetch g us ca p).lerg =
      (rowsOf prefetch g us ca p).lerg := by
    simp only [answer, rowsOf, lergSearchKey_eq, getLerg_eq]
    cases g .lerg with
    | none => rfl
    | some d => exact present_fillSlot d _ _
  simp only [TargetRecord.rows, hlerg, rowsOf]
  simp only [answer, present_copyRecord]

end Tables

/-- The body of a batch: a line for each object. -/
def recordsText (objects : List Text) : Text :=
  Dynamic.text "[\n" ++ objects.flatMap (fun o => Dynamic.text "  " ++ o ++ Dynamic.text ",\n") ++
    Dynamic.text "]\n"

theorem onQueryComplete_json {prefetch : Table → ℕ+} {g : Globals} {us ca : PhoneMapping.Data}
    (hus : g .us = some us) (hca : g .ca = some ca) (pn : List UInt64) :
    ∃ out, onQueryComplete prefetch g true pn = .ok out ∧
      bodyOf out = recordsText (pn.map fun p => (answer prefetch g us ca p).object) := by
  obtain ⟨out, hrun, -, hbody⟩ := @onQueryComplete_eq prefetch g us ca hus hca true pn
  refine ⟨out, hrun, ?_⟩
  rw [hbody, bodyText, recordsText, List.flatMap_map, List.flatMap_map]
  simp only [print_true, if_true]

/-- **JSON records, exactly when they are well formed and uniform.**  With US and CA loaded the body
of a batch is one line for each number.  For any two states, the two objects printed for a number
are JSON objects with the same member names that give back what the tables hold, if and only if in
both states there is a row of LERG and no text of the rows needs an escape, and youmail, geo and ftc
have a row either in both or in neither. -/
theorem jsonRecords_iff (prefetch : Table → ℕ+) {g g' : Globals} {us ca us' ca' : PhoneMapping.Data}
    (hus : g .us = some us) (hca : g .ca = some ca) (hus' : g' .us = some us')
    (hca' : g' .ca = some ca') (p : UInt64) :
    (∀ pn, ∃ out out', onQueryComplete prefetch g true pn = .ok out ∧
      onQueryComplete prefetch g' true pn = .ok out' ∧
      bodyOf out = recordsText (pn.map fun p => (answer prefetch g us ca p).object) ∧
      bodyOf out' = recordsText (pn.map fun p => (answer prefetch g' us' ca' p).object)) ∧
    (Uniform (answer prefetch g us ca p) (answer prefetch g' us' ca' p) ↔
      (rowsOf prefetch g us ca p).Clean ∧ (rowsOf prefetch g' us' ca' p).Clean ∧
      SameTables (rowsOf prefetch g us ca p) (rowsOf prefetch g' us' ca' p)) := by
  refine ⟨?_, ?_⟩
  · intro pn
    obtain ⟨out, hrun, hbody⟩ := @onQueryComplete_json prefetch g us ca hus hca pn
    obtain ⟨out', hrun', hbody'⟩ := @onQueryComplete_json prefetch g' us' ca' hus' hca' pn
    exact ⟨out, out', hrun, hrun', hbody, hbody'⟩
  · rw [uniform_iff, rows_answer, rows_answer]

/-- US and CA without rows. -/
def sampleGlobals : Globals :=
  (Globals.initial.commit .us MappingData.empty).commit .ca MappingData.empty

/-- LERG with a row for the block of 2015550123. -/
def sampleLerg (company : String) : LergMapping.Data :=
  let row : LergData :=
    { lerg_key := 2015550
      state := Dynamic.text "NJ"
      company := Dynamic.text company
      ocn := Dynamic.text "1234"
      rate_center := Dynamic.text "HOBOKEN"
      ocn_type := Dynamic.text "CLEC"
      lata := Dynamic.text "224"
      country := Dynamic.text "US" }
  { MappingData.empty.push 2015550 row 2015550 with dic_npa_nxx := KeyMap.empty }

/-- youmail with a row for 2015550123. -/
def sampleYoumail : YoumailMapping.Data :=
  MappingData.empty.push 2015550123 ⟨2015550123, Dynamic.text "ALMOST_CERTAINLY",
    Dynamic.text "0.9", Dynamic.text "0.1", Dynamic.text "0.2"⟩ 2015550123

/-- 404 data with a row for 2015550123. -/
def sampleFailure : FailureMapping.Data :=
  MappingData.empty.push 2015550123 ⟨2015550123, Dynamic.text "2022-01-01",
    Dynamic.text "2022-02-01"⟩ 2015550123

/-- The record of 2015550123. -/
def sampleRecord (g : Globals) : TargetRecord :=
  answer (fun _ => 1) g MappingData.empty MappingData.empty 2015550123

/-- A state with 404 data and one without. -/
theorem jsonRecords_iff_sample :
    Uniform (sampleRecord (sampleGlobals.commit .lerg (sampleLerg "ACME")))
      (sampleRecord ((sampleGlobals.commit .lerg (sampleLerg "ACME")).commit .f404
        sampleFailure)) := by
  refine (jsonRecords_iff (fun _ => 1) rfl rfl rfl rfl 2015550123).2.mpr ?_
  simp only [rowsOf, routing, PhoneMapping.getRN_eq_lookup]
  decide +kernel

/-- **Three defects.**  Without LERG the record is no JSON; a row of youmail changes a name; and a
quote in the name of a company is not escaped. -/
theorem jsonRecords_not_uniform :
    Json.parse (sampleRecord sampleGlobals).object = none ∧
    ¬ Uniform (sampleRecord (sampleGlobals.commit .lerg (sampleLerg "ACME")))
      (sampleRecord ((sampleGlobals.commit .lerg (sampleLerg "ACME")).commit .youmail
        sampleYoumail)) ∧
    ∀ ms, ¬ (sampleRecord (sampleGlobals.commit .lerg (sampleLerg "BELL \"SOUTH\""))).WellFormed
      ms := by
  refine ⟨parse_object_none ?_, ?_, ?_⟩
  · rfl
  · rw [uniform_iff, sampleRecord, sampleRecord, rows_answer, rows_answer]
    simp only [rowsOf, routing, PhoneMapping.getRN_eq_lookup]
    decide +kernel
  · intro ms h
    have hclean := h.clean
    rw [sampleRecord, rows_answer] at hclean
    simp only [rowsOf, routing, PhoneMapping.getRN_eq_lookup] at hclean
    revert hclean
    decide +kernel

end CallFwd.Http.TargetHandler
