/-
# What a row of the access control list inherits

The file gives every address its own row, and a reader takes an empty column for the default:
no expiry, an unlimited budget.  `ACL::fromCSV` fills one `Rule` object for all rows, and a column
that is empty, or a rate that does not parse, leaves its field as the last turn left it.  After
`std::move(rule)` the expiry is gone, so that field does start afresh; the creation time and the
token bucket do not.

`lastCreated` and `lastRate` are what a row inherits from the lines above it.
`stored_eq_alone_iff` compares the rule stored for an address with the one that the address's last
row makes in a file of its own.
-/
import CallFwd.Tables.Acl
import CallFwd.Tables.Csv

namespace CallFwd

open Lib

namespace ACL

/-! ## 1. One line -/

section Line

variable (parsers : Parsers)

/-- The address of a row. -/
def lineOrigin (line : Text) : Option IPAddress :=
  parsers.ipAddress (column (line.splitOn ',') 0)

/-- A time column: nothing where it is empty. -/
def optTime (value : Text) : Option ℤ := if value = [] then none else parsers.postgresTime value

/-- Column `i` of a line as such a time. -/
def lineTime (line : Text) (i : ℕ) : Option ℤ := optTime parsers (column (line.splitOn ',') i)

/-- A rate that parses. -/
def lineRate (line : Text) : Option Double := parsers.rate (column (line.splitOn ',') 3)

/-- The rule of a row, over the rule object as the row finds it. -/
def ruleOf (rule : Rule) (line : Text) : Rule where
  created := (lineTime parsers line 1).getD rule.created
  expire := (lineTime parsers line 2).or rule.expire
  callBudget := (lineRate parsers line).or rule.callBudget

/-- The data and the rule object behind a row. -/
def afterLine (st : Data × Rule) (ip : IPAddress) (line : Text) : Data × Rule :=
  (Function.update st.1 ip (some (ruleOf parsers st.2 line)), (ruleOf parsers st.2 line).movedFrom)

variable {parsers}

/-- A time column is accepted for its text, whatever the rule and whichever field it sets. -/
theorem timeColumn_eq_ok {value : Text} {rule rule' : Rule} {f : ℤ → Rule}
    (h : (if value = [] then .ok rule else f <$> parsePostgresTime parsers value) = .ok rule')
    (r : Rule) (g : ℤ → Rule) :
    (if value = [] then .ok r else g <$> parsePostgresTime parsers value) =
      .ok ((optTime parsers value).elim r g) := by
  unfold optTime
  by_cases hv : value = []
  · rw [if_pos hv, if_pos hv]
    rfl
  · rw [if_neg hv] at h ⊢
    obtain ⟨t, ht, -⟩ := map_eq_ok.mp h
    unfold parsePostgresTime at *
    cases hp : parsers.postgresTime value with
    | none => rw [hp] at ht; cases ht
    | some t' => rw [if_neg hv]; rfl

theorem setCreated_eq_ok {value : Text} {rule rule' : Rule}
    (h : rule.setCreated parsers value = .ok rule') (r : Rule) :
    r.setCreated parsers value =
      .ok { r with created := (optTime parsers value).getD r.created } := by
  refine (timeColumn_eq_ok h r _).trans ?_
  cases optTime parsers value <;> rfl

theorem setExpire_eq_ok {value : Text} {rule rule' : Rule}
    (h : rule.setExpire parsers value = .ok rule') (r : Rule) :
    r.setExpire parsers value =
      .ok { r with expire := (optTime parsers value).or r.expire } := by
  refine (timeColumn_eq_ok h r _).trans ?_
  cases optTime parsers value <;> rfl

theorem setBudget_eq (value : Text) (rule : Rule) :
    rule.setBudget parsers value =
      { rule with callBudget := (parsers.rate value).or rule.callBudget } := by
  unfold Rule.setBudget
  cases parsers.rate value <;> rfl

theorem ipAddress_eq_ok {s : Text} {ip : IPAddress} (h : ipAddress parsers s = .ok ip) :
    parsers.ipAddress s = some ip := by
  unfold ipAddress at h
  cases hp : parsers.ipAddress s with
  | none => rw [hp] at h; cases h
  | some ip' => rw [hp] at h; cases h; rfl

/-- **A line is accepted for what is in it**, whatever the lines above it were: it has four
columns, and the times that are filled in and the address parse. -/
theorem fromCSVLine_eq_ok {st st' : Data × Rule} {line : Text}
    (h : fromCSVLine parsers st line = .ok st') :
    ∃ ip, lineOrigin parsers line = some ip ∧
      ∀ st, fromCSVLine parsers st line = .ok (afterLine parsers st ip line) := by
  unfold fromCSVLine at h
  split at h
  · rename_i origin created expire cps hcols
    obtain ⟨r1, h1, h⟩ := bind_eq_ok.mp h
    obtain ⟨r2, h2, h⟩ := bind_eq_ok.mp h
    obtain ⟨ip, hip, -⟩ := bind_eq_ok.mp h
    have horigin : lineOrigin parsers line = some ip := by
      rw [lineOrigin, hcols]
      exact ipAddress_eq_ok hip
    refine ⟨ip, horigin, fun st₂ => ?_⟩
    rw [fromCSVLine, hcols]
    simp only [setCreated_eq_ok h1, setExpire_eq_ok h2, setBudget_eq, hip, afterLine, ruleOf,
      lineTime, lineRate, hcols]
    rfl
  · cases h

end Line

/-! ## 2. What is carried from line to line -/

/-- `1e10`, the rate of a bucket that was never reset.  The size of a bucket is `max(rate, 1)`,
also of this one, so the rate says all of it. -/
def defaultRate : Double := 0x4202A05F20000000#64

/-- The rate of a rule's bucket. -/
def Rule.rate (rule : Rule) : Double := rule.callBudget.getD defaultRate

/-- The last creation time above a row, or that of a fresh rule. -/
def lastCreated (parsers : Parsers) (above : List Text) : ℤ :=
  above.foldl (fun created line => (lineTime parsers line 1).getD created) 0

/-- The last rate above a row, or that of a fresh bucket. -/
def lastRate (parsers : Parsers) (above : List Text) : Double :=
  above.foldl (fun rate line => (lineRate parsers line).getD rate) defaultRate

section Run

variable {parsers : Parsers}

/-- The step, for the rule object. -/
theorem carried_afterLine (parsers : Parsers) (st : Data × Rule) (ip : IPAddress) (line : Text) :
    (afterLine parsers st ip line).2.created = (lineTime parsers line 1).getD st.2.created ∧
      (afterLine parsers st ip line).2.expire = none ∧
      (afterLine parsers st ip line).2.rate = (lineRate parsers line).getD st.2.rate := by
  refine ⟨rfl, rfl, ?_⟩
  simp only [afterLine, ruleOf, Rule.movedFrom, Rule.rate]
  cases lineRate parsers line <;> rfl

/-- **The rule object behind a run**: the last times and rates of the lines, and no expiry. -/
theorem carried_foldlM {lines : List Text} {st st' : Data × Rule}
    (h : lines.foldlM (fromCSVLine parsers) st = .ok st') (hexp : st.2.expire = none) :
    st'.2.created =
        lines.foldl (fun created line => (lineTime parsers line 1).getD created) st.2.created ∧
      st'.2.expire = none ∧
      st'.2.rate = lines.foldl (fun rate line => (lineRate parsers line).getD rate) st.2.rate := by
  induction lines generalizing st with
  | nil =>
    cases h
    exact ⟨rfl, hexp, rfl⟩
  | cons line lines ih =>
    rw [List.foldlM_cons] at h
    obtain ⟨st₁, h1, h2⟩ := bind_eq_ok.mp h
    obtain ⟨ip, -, hline⟩ := fromCSVLine_eq_ok h1
    obtain rfl : afterLine parsers st ip line = st₁ := Except.ok.inj ((hline st).symm.trans h1)
    obtain ⟨hc, he, hr⟩ := carried_afterLine parsers st ip line
    have hrest := ih h2 he
    rwa [hc, hr] at hrest

/-- Rows of other addresses leave a rule alone. -/
theorem stored_foldlM {ip : IPAddress} {lines : List Text} {st st' : Data × Rule}
    (h : lines.foldlM (fromCSVLine parsers) st = .ok st')
    (hother : ∀ line ∈ lines, lineOrigin parsers line ≠ some ip) : st'.1 ip = st.1 ip := by
  induction lines generalizing st with
  | nil =>
    cases h
    rfl
  | cons line lines ih =>
    rw [List.foldlM_cons] at h
    obtain ⟨st₁, h1, h2⟩ := bind_eq_ok.mp h
    obtain ⟨ip', horigin, hline⟩ := fromCSVLine_eq_ok h1
    obtain rfl : afterLine parsers st ip' line = st₁ := Except.ok.inj ((hline st).symm.trans h1)
    have hne : ip ≠ ip' := fun e => hother line List.mem_cons_self (e ▸ horigin)
    rw [ih h2 fun l hl => hother l (List.mem_cons_of_mem _ hl)]
    exact Function.update_of_ne hne _ _

/-- An accepted text: its lines, one after the other, on an empty list and a fresh rule. -/
theorem fromCSV_eq_ok {text : Text} {data : Data} :
    fromCSV parsers (IStream.ofText text) = .ok data ↔
      terminated '\n' text = true ∧
        ∃ rule, (pieces '\n' text).foldlM (fromCSVLine parsers) (fun _ => none, {}) =
          .ok (data, rule) := by
  rw [fromCSV, readLines_ofText, map_eq_ok]
  constructor
  · rintro ⟨⟨data', rule⟩, h, rfl⟩
    obtain ⟨st, hst, hterm⟩ := bind_eq_ok.mp h
    split at hterm
    · rename_i ht
      cases hterm
      exact ⟨ht, rule, hst⟩
    · cases hterm
  · rintro ⟨ht, rule, hst⟩
    refine ⟨(data, rule), bind_eq_ok.mpr ⟨_, hst, ?_⟩, rfl⟩
    rw [if_pos ht]

end Run

/-! ## 3. A row in its file and a row alone -/

/-- The two rules are the same: creation time, expiry and token bucket. -/
def Rule.Same (r r' : Rule) : Prop :=
  r.created = r'.created ∧ r.expire = r'.expire ∧ r.rate = r'.rate

instance (r r' : Rule) : Decidable (r.Same r') := inferInstanceAs (Decidable (_ ∧ _ ∧ _))

/-- The two rules that a row makes over a carried rule and over a fresh one. -/
theorem same_ruleOf_iff (parsers : Parsers) {rule : Rule} (hexp : rule.expire = none)
    (line : Text) :
    (ruleOf parsers rule line).Same (ruleOf parsers {} line) ↔
      (lineTime parsers line 1 ≠ none ∨ rule.created = 0) ∧
        (lineRate parsers line ≠ none ∨ rule.rate = defaultRate) := by
  unfold Rule.Same ruleOf
  rw [hexp, and_iff_right rfl]
  refine and_congr ?_ ?_
  · cases lineTime parsers line 1 <;> simp
  · cases lineRate parsers line <;> simp [Rule.rate]

/-- A file of one line that is accepted somewhere. -/
theorem fromCSV_alone {parsers : Parsers} {st st' : Data × Rule} {line : Text} {ip : IPAddress}
    (h : fromCSVLine parsers st line = .ok st') (hip : lineOrigin parsers line = some ip)
    (hline : '\n' ∉ line) :
    fromCSV parsers (IStream.ofText (line ++ ['\n'])) =
      .ok (Function.update (fun _ => none) ip (some (ruleOf parsers {} line))) := by
  obtain ⟨ip', hip', hacc⟩ := fromCSVLine_eq_ok h
  obtain rfl : ip' = ip := Option.some_inj.mp (hip'.symm.trans hip)
  refine fromCSV_eq_ok.mpr ⟨by rw [terminated_append_delim]; rfl,
    (ruleOf parsers {} line).movedFrom, ?_⟩
  rw [pieces_append_delim [] hline, pieces_nil, List.foldlM_cons, hacc]
  rfl

/-- **What a row inherits.**  In every accepted list, take the last row of an address: the rule
stored for the address is the one the row makes in a file of its own exactly when each of the two
fields a move does not empty is either set by the row or still the default above it. -/
theorem stored_eq_alone_iff (parsers : Parsers) {text : Text} {data : Data}
    (h : fromCSV parsers (IStream.ofText text) = .ok data) {above below : List Text} {line : Text}
    (hlines : pieces '\n' text = above ++ line :: below) {ip : IPAddress}
    (hip : lineOrigin parsers line = some ip)
    (hlast : ∀ l ∈ below, lineOrigin parsers l ≠ some ip) :
    ∃ rule alone rule', data ip = some rule ∧
      fromCSV parsers (IStream.ofText (line ++ ['\n'])) = .ok alone ∧ alone ip = some rule' ∧
      (rule.Same rule' ↔
        (lineTime parsers line 1 ≠ none ∨ lastCreated parsers above = 0) ∧
          (lineRate parsers line ≠ none ∨ lastRate parsers above = defaultRate)) := by
  obtain ⟨-, last, hrun⟩ := fromCSV_eq_ok.mp h
  rw [hlines, List.foldlM_append] at hrun
  obtain ⟨st, habove, hrun⟩ := bind_eq_ok.mp hrun
  rw [List.foldlM_cons] at hrun
  obtain ⟨st₁, hline, hbelow⟩ := bind_eq_ok.mp hrun
  obtain ⟨hcreated, hexp, hrate⟩ := carried_foldlM habove rfl
  obtain ⟨ip', hip', hacc⟩ := fromCSVLine_eq_ok hline
  obtain rfl : ip' = ip := Option.some_inj.mp (hip'.symm.trans hip)
  obtain rfl : afterLine parsers st ip' line = st₁ := Except.ok.inj ((hacc st).symm.trans hline)
  have hmem : line ∈ pieces '\n' text := by simp [hlines]
  have hstored : data ip' = some (ruleOf parsers st.2 line) :=
    (stored_foldlM hbelow hlast).trans (Function.update_self _ _ _)
  refine ⟨_, _, _, hstored, fromCSV_alone hline hip (not_mem_of_mem_pieces hmem),
    Function.update_self _ _ _, ?_⟩
  rw [same_ruleOf_iff parsers hexp, hcreated, hrate]
  exact Iff.rfl

/-- Parsers for two addresses and one rate; an empty text is no rate and no time. -/
def sampleParsers : Parsers where
  ipAddress s :=
    if s = "10.0.0.1".toList then some (.v4 0x0A000001#32)
    else if s = "10.0.0.2".toList then some (.v4 0x0A000002#32) else none
  postgresTime _ := none
  rate s := if s = "5".toList then some 0x4014000000000000#64 else none

/-- Two rows that set nothing but the address: the second is what it would be alone. -/
theorem stored_eq_alone_blank_rows :
    ∃ data, fromCSV sampleParsers (IStream.ofText "10.0.0.1,,,\n10.0.0.2,,,\n".toList) = .ok data ∧
      ∃ rule alone rule', data (.v4 0x0A000002#32) = some rule ∧
        fromCSV sampleParsers (IStream.ofText "10.0.0.2,,,\n".toList) = .ok alone ∧
        alone (.v4 0x0A000002#32) = some rule' ∧ rule.Same rule' := by
  have haccepted : fromCSV sampleParsers (IStream.ofText "10.0.0.1,,,\n10.0.0.2,,,\n".toList) =
      .ok (Function.update (Function.update (fun _ => none) (.v4 0x0A000001#32) (some {}))
        (.v4 0x0A000002#32) (some {})) :=
    fromCSV_eq_ok.mpr ⟨by decide, {}, rfl⟩
  obtain ⟨rule, alone, rule', h1, h2, h3, hiff⟩ := @stored_eq_alone_iff sampleParsers _ _
    haccepted ["10.0.0.1,,,".toList] [] "10.0.0.2,,,".toList rfl _ rfl (by simp)
  exact ⟨_, haccepted, rule, alone, rule', h1, h2, h3, hiff.mpr ⟨Or.inr rfl, Or.inr rfl⟩⟩

/-- A rate of 5 above a row without a rate: the row gets it. -/
theorem rate_inherited :
    ∃ data alone,
      fromCSV sampleParsers (IStream.ofText "10.0.0.1,,,5\n10.0.0.2,,,\n".toList) = .ok data ∧
      fromCSV sampleParsers (IStream.ofText "10.0.0.2,,,\n".toList) = .ok alone ∧
      data (.v4 0x0A000002#32) = some { callBudget := some 0x4014000000000000#64 } ∧
      alone (.v4 0x0A000002#32) = some {} ∧
      ¬ Rule.Same { callBudget := some 0x4014000000000000#64 } {} := by
  refine ⟨_, _, fromCSV_eq_ok.mpr ⟨by decide, { callBudget := some 0x4014000000000000#64 }, rfl⟩,
    fromCSV_eq_ok.mpr ⟨by decide, {}, rfl⟩, rfl, rfl, by decide⟩

end ACL

end CallFwd
