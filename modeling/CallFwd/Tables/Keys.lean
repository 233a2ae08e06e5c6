/-
# The keys of the number tables, and the numbers clients ask for

Seven tables are keyed by phone numbers.  A client's number goes through `fromString`, the number
of a row through one of five other readers: `>>` on the line without commas, `stoll` on the field,
`stoll` without dashes, without the first "+1", and without the first character.  What one expects
is that a row is found under the number as the file spells it: its key is `fromString` of its
number field.

The readers of the loaders stop at the first character that is no digit, and they do not ask for
ten digits; `fromString` goes on through punctuation, takes a country code off and refuses the
rest.  So the two agree on a field when the run of digits the loader STOPS at and the digits that
`fromString` ends up with are the same, up to leading zeros.  `keysAgree_iff` says that they agree
on nothing else.
-/
import CallFwd.Tables.Numbers
import CallFwd.Tables.Records
import CallFwd.PhoneMapping.Number

namespace CallFwd

open Lib

/-! ## 1. The loaders -/

/-- The tables keyed by phone numbers. -/
inductive NumberLoader
  | dnc
  | dno
  | tollFree
  | youmail
  | ftc
  | f404
  | f606
deriving DecidableEq, Repr

namespace NumberLoader

/-- The `Builder` of a table. -/
def Builder : NumberLoader → Type
  | .dnc => DncMapping.Data
  | .dno => DnoMapping.Data
  | .tollFree => TollFreeMapping.Data
  | .youmail => YoumailMapping.Data
  | .ftc => FtcMapping.Data
  | .f404 | .f606 => FailureMapping.Data

/-- One line of its `fromCSV`; DNO with the type "dno". -/
def fromCSVLine : (l : NumberLoader) → l.Builder → Text → Except Stop l.Builder
  | .dnc => DncMapping.fromCSVLine
  | .dno => DnoMapping.fromCSVLine .dno
  | .tollFree => TollFreeMapping.fromCSVLine
  | .youmail => YoumailMapping.fromCSVLine
  | .ftc => FtcMapping.fromCSVLine
  | .f404 => F404Mapping.fromCSVLine
  | .f606 => F606Mapping.fromCSVLine

/-- The keys of its dictionary, in the order they came in. -/
def keys : (l : NumberLoader) → l.Builder → List UInt64
  | .dnc => fun d : DncMapping.Data => d.dict.keys
  | .dno => fun d : DnoMapping.Data => (d.dict .dno).keys
  | .tollFree => fun d : TollFreeMapping.Data => d.dict.keys
  | .youmail => fun d : YoumailMapping.Data => d.dict.keys
  | .ftc => fun d : FtcMapping.Data => d.dict.keys
  | .f404 | .f606 => fun d : FailureMapping.Data => d.dict.keys

/-- The number field of a line. -/
def field : NumberLoader → Text → Text
  | .dnc, line => deleteCharacter line ','
  | .ftc, line => column (splitLine line) 1
  | .dno, line | .tollFree, line | .youmail, line | .f404, line | .f606, line =>
    column (splitLine line) 0

/-- What a loader does to the field before it reads the number. -/
def edit : NumberLoader → Text → Text
  | .dno, s => deleteCharacter s '-'
  | .youmail, s => YoumailMapping.erasePlusOne s
  | .f404, s | .f606, s => FailureMapping.dropFirst s
  | .dnc, s | .tollFree, s | .ftc, s => s

/-- The line is a data line with the columns of a row, and its number can be read at all: for DNC
something has to be left of it, for the others `stoll` must not throw. -/
def isRow : NumberLoader → Text → Bool
  | .dnc, line => !(field .dnc line).all isspace
  | .dno, line => startsWithDigit line && (splitLine line).length == 3 &&
      isNumeral (edit .dno (field .dno line))
  | .tollFree, line => startsWithDigit line && (splitLine line).length == 3 &&
      isNumeral (edit .tollFree (field .tollFree line))
  | .youmail, line => startsWith '+' line && YoumailMapping.admits line (splitLine line) &&
      isNumeral (edit .youmail (field .youmail line))
  | .ftc, line => startsWithDigit line && decide (6 ≤ (splitLine line).length) &&
      isNumeral (edit .ftc (field .ftc line))
  | .f404, line => startsWithDigit line && decide (3 ≤ (splitLine line).length) &&
      isNumeral (edit .f404 (field .f404 line))
  | .f606, line => startsWithDigit line && decide (3 ≤ (splitLine line).length) &&
      isNumeral (edit .f606 (field .f606 line))

/-- The key the line is stored under. -/
def key : NumberLoader → Text → UInt64
  | .dnc, line => ((extractUint64 (field .dnc line)).toOption).getD 0
  | l, line => UInt64.ofInt (signedValue (edit l (field l line)))

/-- Some builder accepts the line as a row with the key `k`. -/
def Stores (l : NumberLoader) (line : Text) (k : UInt64) : Prop :=
  ∃ d d', l.fromCSVLine d line = .ok d' ∧ l.keys d' = l.keys d ++ [k]

end NumberLoader

/-! ## 2. Which lines are stored, and under which key -/

/-- One line of a `csvRow` loader, taken apart. -/
theorem csvRow_eq_ok_iff {D : Type} {skip : Text → Bool} {admits : Text → List Text → Bool}
    {addRow : D → List Text → Except Stop D} {d d' : D} {linebuf : Text} :
    csvRow skip admits addRow d linebuf = .ok d' ↔
      (skip linebuf = true ∧ d' = d) ∨
        (skip linebuf = false ∧ admits linebuf (splitLine linebuf) = true ∧
          addRow d (splitLine linebuf) = .ok d') := by
  unfold csvRow
  by_cases hs : skip linebuf = true
  · simp only [hs, if_true, Except.ok.injEq, true_and, Bool.true_eq_false, false_and, or_false]
    exact eq_comm
  · by_cases ha : admits linebuf (splitLine linebuf) = true
    · simp [hs, ha]
    · simp [hs, ha, throwRuntimeError]

/-- **The stored lines of a `csvRow` loader**, from what its `addRow` does: whatever it accepts
goes under `key`, and what is `good` an empty builder accepts. -/
theorem csvRow_stores_iff {D : Type} {skip : Text → Bool} {admits : Text → List Text → Bool}
    {addRow : D → List Text → Except Stop D} {linebuf : Text} (keys : D → List UInt64) (empty : D)
    (good : Prop) (key : UInt64)
    (hkey : ∀ d d', admits linebuf (splitLine linebuf) = true →
      addRow d (splitLine linebuf) = .ok d' → good ∧ keys d' = keys d ++ [key])
    (hempty : admits linebuf (splitLine linebuf) = true → good →
      ∃ d', addRow empty (splitLine linebuf) = .ok d') (k : UInt64) :
    (∃ d d', csvRow skip admits addRow d linebuf = .ok d' ∧ keys d' = keys d ++ [k]) ↔
      (skip linebuf = false ∧ admits linebuf (splitLine linebuf) = true ∧ good) ∧ k = key := by
  simp only [csvRow_eq_ok_iff]
  constructor
  · rintro ⟨d, d', ⟨-, rfl⟩ | ⟨hs, ha, hadd⟩, hk⟩
    · simp at hk
    · obtain ⟨hg, hk'⟩ := hkey d d' ha hadd
      rw [hk', List.append_cancel_left_eq] at hk
      cases hk
      exact ⟨⟨hs, ha, hg⟩, rfl⟩
  · rintro ⟨⟨hs, ha, hg⟩, rfl⟩
    obtain ⟨d', hadd⟩ := hempty ha hg
    exact ⟨empty, d', Or.inr ⟨hs, ha, hadd⟩, (hkey empty d' ha hadd).2⟩

section Rows

variable {V : Type} {table : String} {d d' : MappingData V} {pn ix : UInt64}

/-- An accepted row has its key behind the others. -/
theorem keys_of_addRow {value : Except Stop V} (h : d.addRow table pn value ix = .ok d') :
    (∃ v, value = .ok v) ∧ d'.dict.keys = d.dict.keys ++ [pn] := by
  obtain ⟨hnew, -, v, hv, rfl⟩ := MappingData.addRow_eq_ok.mp h
  exact ⟨⟨v, hv⟩, KeyMap.keys_emplace v hnew⟩

/-- An empty builder accepts any row whose columns are there. -/
theorem addRow_empty {v : V} : ∃ d', MappingData.empty.addRow table pn (.ok v) ix = .ok d' :=
  ⟨_, MappingData.addRow_eq_ok.mpr ⟨List.not_mem_nil, show 0 < MAXROWS by decide, v, rfl, rfl⟩⟩

variable {parts : List Text} {i : ℕ} {edit : Text → Text} {record : UInt64 → Except Stop V}

/-- The key of an accepted record row. -/
theorem keys_of_addRecord (hi : i < parts.length)
    (h : addRecord table d (columnKey parts i edit) record = .ok d') :
    (isNumeral (edit (column parts i)) = true ∧
      ∃ v, record (UInt64.ofInt (signedValue (edit (column parts i)))) = .ok v) ∧
      d'.dict.keys = d.dict.keys ++ [UInt64.ofInt (signedValue (edit (column parts i)))] := by
  obtain ⟨pn, hkey, hadd⟩ := bind_eq_ok.mp h
  obtain ⟨hnum, rfl⟩ := (columnKey_eq_ok_iff hi).mp hkey
  obtain ⟨hv, hk⟩ := keys_of_addRow hadd
  exact ⟨⟨hnum, hv⟩, hk⟩

theorem addRecord_empty (hi : i < parts.length)
    (h : isNumeral (edit (column parts i)) = true ∧
      ∃ v, record (UInt64.ofInt (signedValue (edit (column parts i)))) = .ok v) :
    ∃ d', addRecord table MappingData.empty (columnKey parts i edit) record = .ok d' := by
  obtain ⟨hnum, v, hv⟩ := h
  have hkey := (@columnKey_eq_ok_iff parts i edit _ hi).mpr ⟨hnum, rfl⟩
  obtain ⟨d', hd'⟩ := @addRow_empty V table _ (UInt64.ofInt (signedValue (edit (column parts i)))) v
  refine ⟨d', bind_eq_ok.mpr ⟨_, hkey, ?_⟩⟩
  rw [hv]
  exact hd'

end Rows

/-- `>>` stores something unless only whitespace is left. -/
theorem extractUint64_isOk_iff {s : Text} :
    (∃ pn, extractUint64 s = .ok pn) ↔ s.all isspace = false := by
  rw [Bool.eq_false_iff, ne_eq, ← DncMapping.extractUint64_escapes_iff]
  constructor
  · rintro ⟨pn, h⟩ ⟨e, he, -⟩
    rw [h] at he
    cases he
  · intro h
    cases hx : extractUint64 s with
    | ok pn => exact ⟨pn, rfl⟩
    | error e =>
      refine absurd ⟨e, hx, ?_⟩ h
      unfold extractUint64 at hx
      split at hx
      · cases hx
        rfl
      · simp only at hx
        split_ifs at hx

namespace NumberLoader

theorem stores_dnc_iff (line : Text) (k : UInt64) :
    Stores .dnc line k ↔ isRow .dnc line = true ∧ k = key .dnc line := by
  have hrow : isRow .dnc line = true ↔ ∃ pn, extractUint64 (field .dnc line) = .ok pn := by
    rw [extractUint64_isOk_iff, isRow, Bool.not_eq_true']
  rw [hrow]
  constructor
  · rintro ⟨d, d', h, hk⟩
    obtain ⟨pn, hpn, hadd⟩ := bind_eq_ok.mp h
    have hk' : keys .dnc d' = keys .dnc d ++ [pn] := (keys_of_addRow hadd).2
    rw [hk', List.append_cancel_left_eq, List.singleton_inj] at hk
    have hpn' : extractUint64 (field .dnc line) = .ok pn := hpn
    refine ⟨⟨pn, hpn'⟩, ?_⟩
    rw [key, hpn', ← hk]
    rfl
  · rintro ⟨⟨pn, hpn⟩, rfl⟩
    obtain ⟨d', hd'⟩ := @addRow_empty UInt64 "DncMapping" pn 1 1
    have hkey : key .dnc line = pn := by
      rw [key, hpn]
      rfl
    exact ⟨MappingData.empty, d', bind_eq_ok.mpr ⟨pn, hpn, hd'⟩, hkey ▸ (keys_of_addRow hd').2⟩

theorem stores_dno_iff (line : Text) (k : UInt64) :
    Stores .dno line k ↔ isRow .dno line = true ∧ k = key .dno line := by
  change (∃ d d', DnoMapping.fromCSVLine .dno d line = .ok d' ∧
    keys .dno d' = keys .dno d ++ [k]) ↔ _
  unfold DnoMapping.fromCSVLine
  refine (csvRow_stores_iff (keys .dno) DnoMapping.Data.empty
    (isNumeral (edit .dno (field .dno line)) = true) (key .dno line) ?_ ?_ k).trans ?_
  · intro d d' ha h
    obtain ⟨pn, hpn, hadd⟩ := bind_eq_ok.mp h
    obtain ⟨hnum, rfl⟩ := (columnKey_eq_ok_iff (by have := beq_iff_eq.mp ha; omega)).mp hpn
    refine ⟨hnum, ?_⟩
    unfold DnoMapping.addRow at hadd
    split at hadd
    · cases hadd
    · rename_i hc
      cases hadd
      have hnew := fun hm => hc (KeyMap.count_eq_true.mpr hm)
      change (Function.update d.dict _ _ DnoMapping.DnoType.dno).keys = _
      rw [Function.update_self]
      exact KeyMap.keys_emplace 1 hnew
  · intro ha hnum
    refine ⟨_, bind_eq_ok.mpr ⟨key .dno line, ?_, rfl⟩⟩
    exact (columnKey_eq_ok_iff (by have := beq_iff_eq.mp ha; omega)).mpr ⟨hnum, rfl⟩
  · simp only [isRow, Bool.and_eq_true, Bool.not_eq_false', and_assoc]

theorem stores_tollFree_iff (line : Text) (k : UInt64) :
    Stores .tollFree line k ↔ isRow .tollFree line = true ∧ k = key .tollFree line := by
  change (∃ d d', TollFreeMapping.fromCSVLine d line = .ok d' ∧
    keys .tollFree d' = keys .tollFree d ++ [k]) ↔ _
  unfold TollFreeMapping.fromCSVLine
  refine (csvRow_stores_iff (keys .tollFree) MappingData.empty
    (isNumeral (edit .tollFree (field .tollFree line)) = true) (key .tollFree line) ?_ ?_ k).trans
      ?_
  · intro d d' ha h
    obtain ⟨pn, hpn, hadd⟩ := bind_eq_ok.mp h
    obtain ⟨hnum, rfl⟩ := (columnKey_eq_ok_iff (by have := beq_iff_eq.mp ha; omega)).mp hpn
    exact ⟨hnum, (keys_of_addRow hadd).2⟩
  · intro ha hnum
    obtain ⟨d', hd'⟩ := @addRow_empty UInt64 "TollFreeMapping" (key .tollFree line) 1 1
    refine ⟨d', bind_eq_ok.mpr ⟨key .tollFree line, ?_, hd'⟩⟩
    exact (columnKey_eq_ok_iff (by have := beq_iff_eq.mp ha; omega)).mpr ⟨hnum, rfl⟩
  · simp only [isRow, Bool.and_eq_true, Bool.not_eq_false', and_assoc]

/-- A record loader, from the column of its number and the columns its record needs. -/
theorem stores_record_iff {V : Type} {table : String} {skip : Text → Bool}
    {admits : Text → List Text → Bool} {i : ℕ} {edit : Text → Text}
    {record : List Text → UInt64 → Except Stop V} {line : Text} {k : UInt64} {complete : Prop}
    (hcol : admits line (splitLine line) = true → i < (splitLine line).length)
    (hrecord : admits line (splitLine line) = true →
      ∀ pn, (∃ v, record (splitLine line) pn = .ok v) ↔ complete) :
    (∃ d d' : MappingData V, csvRow skip admits
        (fun d parts => addRecord table d (columnKey parts i edit) (record parts)) d line = .ok d' ∧
        d'.dict.keys = d.dict.keys ++ [k]) ↔
      (skip line = false ∧ admits line (splitLine line) = true ∧
        isNumeral (edit (column (splitLine line) i)) = true ∧ complete) ∧
        k = UInt64.ofInt (signedValue (edit (column (splitLine line) i))) := by
  refine csvRow_stores_iff (fun d : MappingData V => d.dict.keys) MappingData.empty _ _ ?_ ?_ k
  · intro d d' ha h
    obtain ⟨⟨hnum, hv⟩, hk⟩ := keys_of_addRecord (hcol ha) h
    exact ⟨⟨hnum, (hrecord ha _).mp hv⟩, hk⟩
  · rintro ha ⟨hnum, hc⟩
    exact addRecord_empty (hcol ha) ⟨hnum, (hrecord ha _).mpr hc⟩

theorem stores_youmail_iff (line : Text) (k : UInt64) :
    Stores .youmail line k ↔ isRow .youmail line = true ∧ k = key .youmail line := by
  have hlen : YoumailMapping.admits line (splitLine line) = true →
      (splitLine line).length = 5 ∨ (splitLine line).length = 4 := by
    intro hadm
    rcases Bool.or_eq_true_iff.mp hadm with h | h
    · exact Or.inl (by simpa using h)
    · exact Or.inr (by simpa using (Bool.and_eq_true_iff.mp h).1)
  change (∃ d d', YoumailMapping.fromCSVLine d line = .ok d' ∧
    keys .youmail d' = keys .youmail d ++ [k]) ↔ _
  unfold YoumailMapping.fromCSVLine
  refine (@stores_record_iff _ _ _ _ _ _ _ line k True ?_ ?_).trans ?_
  · intro ha
    have := hlen ha
    omega
  · intro ha pn
    refine iff_of_true ?_ trivial
    rcases hlen ha with h | h
    · rw [subscript_column (by omega), subscript_column (by omega), subscript_column (by omega),
        YoumailMapping.lastColumn, if_neg (by omega), subscript_column (by omega)]
      exact ⟨_, rfl⟩
    · rw [subscript_column (by omega), subscript_column (by omega), subscript_column (by omega),
        YoumailMapping.lastColumn, if_pos h]
      exact ⟨_, rfl⟩
  · simp only [isRow, Bool.and_eq_true, Bool.not_eq_false', and_assoc, and_true]
    rfl

theorem stores_ftc_iff (line : Text) (k : UInt64) :
    Stores .ftc line k ↔ isRow .ftc line = true ∧ k = key .ftc line := by
  change (∃ d d', FtcMapping.fromCSVLine d line = .ok d' ∧
    keys .ftc d' = keys .ftc d ++ [k]) ↔ _
  unfold FtcMapping.fromCSVLine
  refine (@stores_record_iff _ _ _ _ _ _ _ line k (6 ≤ (splitLine line).length) ?_ ?_).trans ?_
  · intro ha
    have := of_decide_eq_true ha
    omega
  · intro ha pn
    have h5 := of_decide_eq_true ha
    rw [subscript_column (by omega), subscript_column (by omega)]
    change (∃ v, (subscript (splitLine line) 5 >>= _) = .ok v) ↔ _
    constructor
    · rintro ⟨v, hv⟩
      obtain ⟨s, hs, -⟩ := bind_eq_ok.mp hv
      by_contra hlt
      rw [subscript, List.getElem?_eq_none (by omega)] at hs
      cases hs
    · intro h6
      rw [subscript_column (by omega)]
      exact ⟨_, rfl⟩
  · simp only [isRow, Bool.and_eq_true, Bool.not_eq_false', decide_eq_true_eq]
    constructor
    · rintro ⟨⟨hs, -, hnum, h6⟩, hk⟩
      exact ⟨⟨⟨hs, h6⟩, hnum⟩, hk⟩
    · rintro ⟨⟨⟨hs, h6⟩, hnum⟩, hk⟩
      exact ⟨⟨hs, by omega, hnum, h6⟩, hk⟩

theorem stores_failure_iff (table : String) (line : Text) (k : UInt64) :
    (∃ d d', FailureMapping.fromCSVLine table d line = .ok d' ∧
        d'.dict.keys = d.dict.keys ++ [k]) ↔
      (startsWithDigit line && decide (3 ≤ (splitLine line).length) &&
        isNumeral (FailureMapping.dropFirst (column (splitLine line) 0))) = true ∧
      k = UInt64.ofInt (signedValue (FailureMapping.dropFirst (column (splitLine line) 0))) := by
  unfold FailureMapping.fromCSVLine
  refine (@stores_record_iff _ _ _ _ _ _ _ line k True ?_ ?_).trans ?_
  · intro ha
    have := of_decide_eq_true ha
    omega
  · intro ha pn
    have := of_decide_eq_true ha
    refine iff_of_true ?_ trivial
    rw [subscript_column (by omega), subscript_column (by omega)]
    exact ⟨_, rfl⟩
  · simp only [Bool.and_eq_true, Bool.not_eq_false', and_assoc, and_true]

/-- **Which lines are stored, and under which key.** -/
theorem stores_iff (l : NumberLoader) (line : Text) (k : UInt64) :
    l.Stores line k ↔ l.isRow line = true ∧ k = l.key line := by
  cases l with
  | dnc => exact stores_dnc_iff line k
  | dno => exact stores_dno_iff line k
  | tollFree => exact stores_tollFree_iff line k
  | youmail => exact stores_youmail_iff line k
  | ftc => exact stores_ftc_iff line k
  | f404 => exact stores_failure_iff "F404Mapping" line k
  | f606 => exact stores_failure_iff "F606Mapping" line k

end NumberLoader

/-! ## 3. When the two readers agree -/

/-- The sign and the digits at which a reader stops. -/
def signedDigits (s : Text) : Bool × Text :=
  let t := takeSign (s.dropWhile isspace)
  (t.1, t.2.takeWhile Char.isDigit)

/-- What was read is the number `ds` spells: the same digits up to leading zeros, and no minus
sign unless they all are zeros. -/
def SameNumber (read : Bool × Text) (ds : Text) : Prop :=
  stripZeros read.2 = stripZeros ds ∧ (read.1 = true → stripZeros ds = [])

theorem signedValue_eq (s : Text) :
    signedValue s = if (signedDigits s).1 then -(decimal (signedDigits s).2 : Int)
      else decimal (signedDigits s).2 := rfl

theorem takeSign_sublist (t : Text) : (takeSign t).2.Sublist t := by
  unfold takeSign
  split
  · exact List.sublist_cons_self _ _
  · exact List.sublist_cons_self _ _
  · exact List.Sublist.refl _

theorem signedDigits_sublist (s : Text) : (signedDigits s).2.Sublist s :=
  ((List.takeWhile_sublist _).trans (takeSign_sublist _)).trans (List.dropWhile_sublist _)

/-- A `long long`, stored as a `uint64_t`, is the number of ten digits `ds`. -/
theorem toNat_ofInt_eq_iff {read : Bool × Text} {ds : Text} (hread : Digits read.2)
    (hds : Digits ds) (hlt : decimal ds < 10 ^ 10) (hfit : decimal read.2 ≤ 2 ^ 63) :
    (UInt64.ofInt (if read.1 then -(decimal read.2 : Int) else decimal read.2)).toNat =
      decimal ds ↔ SameNumber read ds := by
  have hsame : decimal read.2 = decimal ds ↔ stripZeros read.2 = stripZeros ds :=
    ofDigitChars_inj_iff hread hds
  have hzero : decimal ds = 0 ↔ stripZeros ds = [] := ofDigitChars_eq_zero_iff hds
  rw [SameNumber, ← hsame, ← hzero, UInt64.ofInt, UInt64.toNat_ofNat']
  generalize decimal read.2 = m at hfit ⊢
  generalize decimal ds = n at hlt ⊢
  cases read.1 with
  | false =>
    simp only [Bool.false_eq_true, if_false, false_imp_iff, and_true]
    omega
  | true =>
    simp only [if_true, forall_const]
    omega

namespace PhoneNumber

/-- Trimming takes no digits off. -/
theorem filter_isDigit_dropWhile (s : Text) :
    (s.dropWhile trims).filter Char.isDigit = s.filter Char.isDigit := by
  induction s with
  | nil => rfl
  | cons c s ih =>
    by_cases hc : trims c = true
    · have hd : ¬ c.isDigit = true := by
        intro hd
        rw [trims_of_isDigit hd] at hc
        cases hc
      rw [List.dropWhile_cons_of_pos hc, ih, List.filter_cons_of_neg hd]
    · rw [List.dropWhile_cons_of_neg hc]

theorem filter_isDigit_trimWhitespace (s : Text) :
    (trimWhitespace s).filter Char.isDigit = s.filter Char.isDigit := by
  rw [trimWhitespace, rtrimWhitespace, List.rdropWhile, List.filter_reverse,
    filter_isDigit_dropWhile, List.filter_reverse, List.reverse_reverse, ltrimWhitespace,
    filter_isDigit_dropWhile]

/-- An accepted text has at most twelve digits in all. -/
theorem length_digits_le {s ds t : Text} (h : digitsOf s = some ds) (ht : t.Sublist s)
    (hdig : Digits t) : t.length ≤ 12 := by
  have hten : (remaining s).length = 10 := by
    unfold digitsOf at h
    split at h
    · rename_i hlen
      exact hlen.2
    · cases h
  obtain ⟨pre, hpre, hfilter⟩ := (remaining_eq_iff hten).mp rfl
  have hshort : pre.length ≤ 2 := by
    simp only [prefixes, List.mem_cons, List.not_mem_nil, or_false] at hpre
    rcases hpre with rfl | rfl | rfl <;> decide
  have hkept : ((trimWhitespace s).filter Char.isDigit).Sublist
      ((trimWhitespace s).filter keeps) :=
    List.monotone_filter_right _ fun c hc => keeps_of_isDigit hc
  calc t.length = (t.filter Char.isDigit).length := by rw [List.filter_eq_self.mpr hdig]
    _ ≤ (s.filter Char.isDigit).length := (ht.filter _).length_le
    _ = ((trimWhitespace s).filter Char.isDigit).length := by
      rw [filter_isDigit_trimWhitespace]
    _ ≤ ((trimWhitespace s).filter keeps).length := hkept.length_le
    _ ≤ 12 := by
      rw [hfilter, List.length_append, hten]
      omega

/-- A key is what a client's text is read as. -/
theorem eq_fromString_iff {s : Text} {k : UInt64} :
    k = fromString s ∧ fromString s ≠ NONE ↔ ∃ ds, digitsOf s = some ds ∧ k.toNat = decimal ds := by
  constructor
  · rintro ⟨rfl, hne⟩
    obtain ⟨ds, hds⟩ := fromString_ne_NONE_iff.mp hne
    exact ⟨ds, hds, (fromString_of_digitsOf hds).1⟩
  · rintro ⟨ds, hds, hk⟩
    obtain ⟨hval, -, hne⟩ := fromString_of_digitsOf hds
    exact ⟨UInt64.toNat_inj.mp (hk.trans hval.symm), hne⟩

end PhoneNumber

namespace NumberLoader

open PhoneNumber

/-- With few digits `>>` stores what `stoll` would. -/
theorem extractUint64_eq_ofInt {s : Text} {k : UInt64} (h : extractUint64 s = .ok k)
    (hlt : decimal (signedDigits s).2 < 2 ^ 64) : k = UInt64.ofInt (signedValue s) := by
  unfold extractUint64 at h
  unfold signedValue
  unfold signedDigits at hlt
  split at h
  · cases h
  · rename_i c cs hs
    rw [hs] at hlt ⊢
    simp only at h hlt ⊢
    generalize takeSign (c :: cs) = t at h hlt ⊢
    split_ifs at h with hempty hbig hneg
    · cases h
      rw [List.isEmpty_iff.mp hempty]
      cases t.1 <;> rfl
    · omega
    · cases h
      rw [if_pos hneg]
    · cases h
      rw [if_neg hneg, UInt64.ofInt]
      congr 1
      omega

/-- A row that is not from the DNC file was read by `stoll`. -/
theorem isNumeral_of_isRow {l : NumberLoader} (hl : l ≠ .dnc) {line : Text}
    (h : l.isRow line = true) : isNumeral (l.edit (l.field line)) = true := by
  cases l with
  | dnc => exact absurd rfl hl
  | dno | tollFree | youmail | ftc | f404 | f606 => exact (Bool.and_eq_true_iff.mp h).2

/-- The key of a row whose number field is accepted, as a `long long`. -/
theorem key_eq_ofInt {l : NumberLoader} {line ds : Text} (hrow : l.isRow line = true)
    (hds : digitsOf (l.field line) = some ds) :
    l.key line = UInt64.ofInt (signedValue (l.edit (l.field line))) ∧
      decimal (signedDigits (l.edit (l.field line))).2 ≤ 2 ^ 63 := by
  by_cases hl : l = .dnc
  · subst hl
    have hdig : Digits (signedDigits (field .dnc line)).2 := Digits.takeWhile _
    have hlen := length_digits_le hds (signedDigits_sublist _) hdig
    have hsmall : decimal (signedDigits (field .dnc line)).2 < 10 ^ 12 :=
      lt_of_lt_of_le (ofDigitChars_lt hdig) (Nat.pow_le_pow_right (by decide) hlen)
    have hsome : (field .dnc line).all isspace = false := by
      rw [isRow, Bool.not_eq_true'] at hrow
      exact hrow
    obtain ⟨k, hk⟩ := extractUint64_isOk_iff.mpr hsome
    have hkey : key .dnc line = k := by
      rw [key, hk]
      rfl
    refine ⟨hkey.trans (extractUint64_eq_ofInt hk (lt_trans hsmall (by decide))), ?_⟩
    exact (lt_trans hsmall (by decide)).le
  · have hfit := (Bool.and_eq_true_iff.mp (isNumeral_of_isRow hl hrow)).2
    refine ⟨?_, ?_⟩
    · cases l with
      | dnc => exact absurd rfl hl
      | dno | tollFree | youmail | ftc | f404 | f606 => rfl
    · have hb := fitsLongLong_iff.mp hfit
      rw [signedValue_eq] at hb
      split_ifs at hb
      · omega
      · omega

/-- What a line is stored under, if it is stored, is `fromString` of its number field. -/
def KeysAgree (l : NumberLoader) (line : Text) : Prop :=
  ∀ d d' k, l.fromCSVLine d line = .ok d' → l.keys d' = l.keys d ++ [k] →
    k = fromString (l.field line) ∧ fromString (l.field line) ≠ NONE

/-- One key decides it: a line is stored under the same key by every builder that accepts it. -/
theorem keysAgree_iff_key (l : NumberLoader) (line : Text) :
    l.KeysAgree line ↔ (l.isRow line = true →
      l.key line = fromString (l.field line) ∧ fromString (l.field line) ≠ NONE) := by
  constructor
  · intro h hrow
    obtain ⟨d, d', hstep, hkeys⟩ := (stores_iff l line (l.key line)).mpr ⟨hrow, rfl⟩
    exact h d d' (l.key line) hstep hkeys
  · intro h d d' k hstep hkeys
    obtain ⟨hrow, rfl⟩ := (stores_iff l line k).mp ⟨d, d', hstep, hkeys⟩
    exact h hrow

/-- **Loader keys and query keys agree on a line exactly when** it is no row, or the digits its
loader stops at spell, up to leading zeros, the digits `fromString` ends up with. -/
theorem keysAgree_iff (l : NumberLoader) (line : Text) :
    l.KeysAgree line ↔ (l.isRow line = true → ∃ ds, digitsOf (l.field line) = some ds ∧
      SameNumber (signedDigits (l.edit (l.field line))) ds) := by
  rw [keysAgree_iff_key]
  refine forall_congr' fun hrow => ?_
  rw [eq_fromString_iff]
  refine exists_congr fun ds => and_congr_right fun hds => ?_
  obtain ⟨hkey, hfit⟩ := key_eq_ofInt hrow hds
  obtain ⟨hdig, -, -, hlt⟩ := digitsOf_spec hds
  rw [hkey, signedValue_eq]
  exact toNat_ofInt_eq_iff (Digits.takeWhile _) hdig hlt hfit

/-- A toll-free number with dashes: `stoll` stops at the first of them. -/
def dashed : Text := Dynamic.text "800-555-0100,a,b"

/-- The row goes under 800, and the client asks for 8005550100. -/
theorem not_keysAgree_dashed : ¬ KeysAgree .tollFree dashed := by
  have hsplit : splitLine dashed = [Dynamic.text "800-555-0100", ['a'], ['b']] :=
    (getlines_ofText ',' dashed).trans (by decide)
  have hfield : field .tollFree dashed = Dynamic.text "800-555-0100" := by
    rw [field, hsplit]
    rfl
  rw [keysAgree_iff_key]
  intro h
  have hrow : isRow .tollFree dashed = true := by
    rw [isRow, hfield, hsplit]
    decide
  have hkey : key .tollFree dashed = 800 := by
    change UInt64.ofInt (signedValue (field .tollFree dashed)) = 800
    rw [hfield]
    decide
  obtain ⟨hsame, -⟩ := h hrow
  rw [hkey, hfield] at hsame
  exact absurd hsame (by decide)

end NumberLoader

end CallFwd
