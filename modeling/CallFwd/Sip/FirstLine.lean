/-
# `parse_first_line`: the request line

The first line of a SIP message is a method, a URI and a version, or a version, a status and a
reason.  `parse_first_line` goes over it once, with offsets into the datagram, and it spells out the
five methods a proxy sees most before it asks `parse_method`.  Every read is checked here
(`subscript`), also those of the copy it makes for the log; `parse_first_line_eq` says that none
leaves the datagram, and what is read off it.

What it does not look at is the version, and the rest of a method behind a comma: a line whose method
is `INVITE,x` counts as an INVITE (`methodOf`).
-/
import CallFwd.Lib.Slice
import CallFwd.Runtime
import Mathlib.Data.List.TakeWhile
import Mathlib.Data.Bool.AllAny

namespace CallFwd.Sip

open Lib

/-! ## 1. The parser -/

/-- `for (; p < pend && goes(*p); p++);`, with `n = pend - p`. -/
def eat (goes : Char → Bool) (buf : Text) : ℕ → ℕ → Except Stop ℕ
  | p, 0 => .ok p
  | p, n + 1 => do
    if goes (← subscript buf p) then eat goes buf (p + 1) n else return p

def isSpace (c : Char) : Bool := c == ' ' || c == '\t'

/-- No space and no end of line. -/
def isToken (c : Char) : Bool := c != ' ' && c != '\t' && c != '\n' && c != '\r'

def eat_space_end (buf : Text) (p pend : ℕ) : Except Stop ℕ := eat isSpace buf p (pend - p)

def eat_token_end (buf : Text) (p pend : ℕ) : Except Stop ℕ := eat isToken buf p (pend - p)

def eat_token2_end (buf : Text) (p pend : ℕ) (delim : Char) : Except Stop ℕ :=
  eat (fun c => c != delim && c != '\n' && c != '\r') buf p (pend - p)

/-- Nothing but space up to the end of the line, which is there. -/
def is_empty_end (buf : Text) (p pend : ℕ) : Except Stop Bool := do
  let p ← eat_space_end buf p pend
  if p < pend then
    let c ← subscript buf p
    return c == '\r' || c == '\n'
  else return false

/-- `eat_line(buffer, len)`: behind the next newline, and behind a carriage return there; the last
byte is never passed. -/
def eat_line (buf : Text) (p len : ℕ) : Except Stop ℕ := do
  let nl ← eat (· != '\n') buf p len
  if nl < p + len then
    let nl := if nl + 1 < p + len then nl + 1 else nl
    if nl + 1 < p + len then
      if (← subscript buf nl) = '\r' then return nl + 1 else return nl
    else return nl
  else return p + len

/-- `strncasecmp(buffer + p, s, strlen(s)) == 0`, for `s` in lower case. -/
def matchesNoCase (buf : Text) : ℕ → List Char → Except Stop Bool
  | _, [] => .ok true
  | p, c :: cs => do
    if (← subscript buf p).toLower = c then matchesNoCase buf (p + 1) cs else return false

/-- `METHOD_…`. -/
inductive Method
  | INVITE
  | CANCEL
  | ACK
  | BYE
  | INFO
  | OPTIONS
  | UPDATE
  | REGISTER
  | MESSAGE
  | SUBSCRIBE
  | NOTIFY
  | PRACK
  | REFER
  | PUBLISH
  | OTHER
deriving DecidableEq, Repr

/-- `method_char(c)` -/
def method_char (c : Char) : Bool :=
  (65 ≤ c.toNat && c.toNat ≤ 90) || (97 ≤ c.toNat && c.toNat ≤ 122) ||
    (48 ≤ c.toNat && c.toNat ≤ 57) || c ∈ ['-', '.', '!', '%', '*', '_', '+', '\x60', '\x27', '~']

/-- The ends of a method that `parse_method` looks for. -/
def endsMethod (c : Char) : Bool := c ∈ ['\x00', ',', ' ', '\t', '\r', '\n']

/-- `if (max < n) goto unknown; if (start[p] == .. && ..) { *method = m; len = n; goto done; }`, where
the name has `n` letters and those from `p` on are `s`. -/
def nameAt (buf : Text) (max p : ℕ) (s : List Char) (m : Method)
    (otherwise : Except Stop (Option (Method × ℕ))) : Except Stop (Option (Method × ℕ)) :=
  if max < p + s.length then .ok none
  else do
    if ← matchesNoCase buf p s then return some (m, p + s.length) else otherwise

/-- The `switch` of `parse_method` on the first letter, small or capital: the method whose name is at
the start, and its length. -/
def methodFrom (buf : Text) (max : ℕ) (first : Char) : Except Stop (Option (Method × ℕ)) := do
  match first.toLower with
  | 'a' => nameAt buf max 1 ['c', 'k'] .ACK (.ok none)
  | 'b' => nameAt buf max 1 ['y', 'e'] .BYE (.ok none)
  | 'c' => nameAt buf max 1 ['a', 'n', 'c', 'e', 'l'] .CANCEL (.ok none)
  | 'i' =>
    if max < 4 then return none
    else if ← matchesNoCase buf 1 ['n'] then
      nameAt buf max 2 ['f', 'o'] .INFO (nameAt buf max 2 ['v', 'i', 't', 'e'] .INVITE (.ok none))
    else return none
  | 'm' => nameAt buf max 1 ['e', 's', 's', 'a', 'g', 'e'] .MESSAGE (.ok none)
  | 'n' => nameAt buf max 1 ['o', 't', 'i', 'f', 'y'] .NOTIFY (.ok none)
  | 'o' => nameAt buf max 1 ['p', 't', 'i', 'o', 'n', 's'] .OPTIONS (.ok none)
  | 'p' =>
    nameAt buf max 1 ['r', 'a', 'c', 'k'] .PRACK
      (nameAt buf max 1 ['u', 'b', 'l', 'i', 's', 'h'] .PUBLISH (.ok none))
  | 'r' =>
    if max < 5 then return none
    else if ← matchesNoCase buf 1 ['e'] then
      nameAt buf max 2 ['f', 'e', 'r'] .REFER
        (nameAt buf max 2 ['g', 'i', 's', 't', 'e', 'r'] .REGISTER (.ok none))
    else return none
  | 's' => nameAt buf max 1 ['u', 'b', 's', 'c', 'r', 'i', 'b', 'e'] .SUBSCRIBE (.ok none)
  | 'u' => nameAt buf max 1 ['p', 'd', 'a', 't', 'e'] .UPDATE (.ok none)
  | _ => return none

def knownMethod (buf : Text) (max : ℕ) : Except Stop (Option (Method × ℕ)) := do
  methodFrom buf max (← subscript buf 0)

/-- The loop under `unknown:`, with `n = max - len`; `false` stands for a null pointer. -/
def otherMethod (buf : Text) : ℕ → ℕ → Except Stop Bool
  | _, 0 => .ok true
  | len, n + 1 => do
    let c ← subscript buf len
    if endsMethod c then return true
    else if !method_char c then return false
    else otherMethod buf (len + 1) n

/-- `parse_method(buffer, buffer + max, &method)`: the method, or nothing where it returns a null
pointer. -/
def parse_method (buf : Text) (max : ℕ) : Except Stop (Option Method) := do
  let unknown (len : ℕ) : Except Stop (Option Method) := do
    if ← otherMethod buf len (max - len) then return some .OTHER else return none
  match ← knownMethod buf max with
  | some (m, len) =>
    if len < max then
      if endsMethod (← subscript buf len) then return some m else unknown len
    else return some m
  | none => unknown 0

/-- `struct msg_start`.  Of the two halves of the union one is there. -/
inductive MsgStart
  | SIP_REQUEST (method uri version : Text) (method_value : Method)
  | SIP_REPLY (version status reason : Text) (statuscode : ℕ)
  | SIP_INVALID
deriving DecidableEq, Repr

/-- The condition of `IFISMETHOD`; the name is in lower case. -/
def isMethod (buf : Text) (name : List Char) : Except Stop Bool := do
  if ← matchesNoCase buf 0 name then return (← subscript buf name.length) == ' ' else return false

/-- The first token: its length, and the method it is, unless it is `SIP/2.0`. -/
def firstToken (buf : Text) : Except Stop (Option (Option Method × ℕ)) := do
  if ← isMethod buf ['s', 'i', 'p', '/', '2', '.', '0'] then return some (none, 7)
  else if ← isMethod buf ['i', 'n', 'v', 'i', 't', 'e'] then return some (some .INVITE, 6)
  else if ← isMethod buf ['c', 'a', 'n', 'c', 'e', 'l'] then return some (some .CANCEL, 6)
  else if ← isMethod buf ['a', 'c', 'k'] then return some (some .ACK, 3)
  else if ← isMethod buf ['b', 'y', 'e'] then return some (some .BYE, 3)
  else if ← isMethod buf ['i', 'n', 'f', 'o'] then return some (some .INFO, 4)
  else
    let tmp ← eat_token_end buf 0 buf.length
    if tmp = 0 ∨ buf.length ≤ tmp then return none
    else if (← subscript buf tmp) ≠ ' ' then return none
    else
      match ← parse_method buf tmp with
      | some m => return some (some m, tmp)
      | none => return none

/-- `(s1 - '0') * 100 + 10 * (s2 - '0') + (s3 - '0')`, for three digits. -/
def statusCode (status : Text) : Option ℕ :=
  match status with
  | [s1, s2, s3] =>
    if s1.isDigit && s2.isDigit && s3.isDigit then
      some ((s1.toNat - 48) * 100 + 10 * (s2.toNat - 48) + (s3.toNat - 48))
    else none
  | _ => none

/-- The copy of what was parsed so far, for the log: `for (t=0; t<offset; t++)`.  A NUL is printed
as another character. -/
def parsedSoFar (buf : Text) (offset : ℕ) : Except Stop Text :=
  (List.range offset).mapM fun t => do
    let c ← subscript buf t
    return if c = '\x00' then Char.ofNat 248 else c

/-- What stands under `error1:`. -/
def badMessage (buf : Text) : Except Stop (MsgStart × ℕ) := do
  return (.SIP_INVALID, ← eat_line buf 0 buf.length)

/-- What stands under `error:`, and `error1:` behind it. -/
def badFirstLine (buf : Text) (offset : ℕ) : Except Stop (MsgStart × ℕ) := do
  let _ ← parsedSoFar buf offset
  badMessage buf

/-- `parse_first_line(buffer, len, fl)`: what it fills in, and the offset it returns.  `offset` is
always how far the pointer has come, so each `x + len - offset` is the end of the buffer. -/
def parse_first_line (buf : Text) : Except Stop (MsgStart × ℕ) := do
  if buf.length ≤ 16 then badMessage buf
  else
    match ← firstToken buf with
    | none => badMessage buf
    | some (kind, first) =>
      let second := first + 1
      let tmp ← eat_token_end buf second buf.length
      if buf.length ≤ tmp then badFirstLine buf second
      else
        let third ← eat_space_end buf tmp buf.length
        if third = tmp then badFirstLine buf third
        else
          match kind with
          | some m =>
            let tmp' ← eat_token_end buf third buf.length
            if tmp' = third ∨ buf.length ≤ tmp' then badFirstLine buf tmp'
            else if !(← is_empty_end buf tmp' buf.length) then badFirstLine buf tmp'
            else
              let nl ← eat_line buf tmp' (buf.length - tmp')
              if buf.length ≤ nl then badFirstLine buf tmp'
              else
                return (.SIP_REQUEST (slice buf 0 first) (slice buf second tmp)
                  (slice buf third tmp') m, nl)
          | none =>
            match statusCode (slice buf second tmp) with
            | none => badFirstLine buf third
            | some code =>
              let tmp' ← eat_token2_end buf third buf.length '\r'
              if buf.length ≤ tmp' then badFirstLine buf third
              else
                let nl ← eat_line buf tmp' (buf.length - tmp')
                if buf.length ≤ nl then badFirstLine buf tmp'
                else
                  return (.SIP_REPLY (slice buf 0 first) (slice buf second tmp)
                    (slice buf third tmp') code, nl)

/-! ## 2. The scanners -/

section Scanners

variable {goes : Char → Bool} {buf t : Text} {p n : ℕ}

theorem drop_takeWhile_length (goes : Char → Bool) (t : Text) :
    t.drop (t.takeWhile goes).length = t.dropWhile goes := by
  have h := @List.drop_left _ (t.takeWhile goes) (t.dropWhile goes)
  rwa [List.takeWhile_append_dropWhile] at h

theorem eat_eq (h : p + n ≤ buf.length) :
    eat goes buf p n = .ok (p + (((buf.drop p).take n).takeWhile goes).length) := by
  induction n generalizing p with
  | zero => rfl
  | succ n ih =>
    have hp : p < buf.length := by omega
    rw [eat, subscript_of_lt hp, List.drop_eq_getElem_cons hp, List.take_succ_cons]
    change (if goes buf[p] then eat goes buf (p + 1) n else .ok p) = _
    cases hgoes : goes buf[p] with
    | true =>
      rw [if_pos rfl, ih (by omega), List.takeWhile_cons_of_pos hgoes, List.length_cons]
      congr 1
      omega
    | false =>
      rw [if_neg Bool.false_ne_true, List.takeWhile_cons_of_neg (by simp [hgoes])]
      rfl

/-- A scan to the end of the buffer. -/
theorem eat_drop (h : p ≤ buf.length) :
    eat goes buf p (buf.length - p) = .ok (p + ((buf.drop p).takeWhile goes).length) := by
  rw [eat_eq (by omega), ← List.length_drop, List.take_length]

theorem slice_takeWhile (goes : Char → Bool) (buf : Text) (p : ℕ) :
    slice buf p (p + ((buf.drop p).takeWhile goes).length) = (buf.drop p).takeWhile goes := by
  rw [slice, Nat.add_sub_cancel_left]
  exact (List.prefix_iff_eq_take.mp (List.takeWhile_prefix goes)).symm

/-- The text in lower case. -/
def lower (t : Text) : Text := t.map Char.toLower

theorem toLower_cases (c : Char) :
    (c.toLower = c ∧ (c.toNat < 65 ∨ 90 < c.toNat)) ∨
      (c.toLower.toNat = c.toNat + 32 ∧ 65 ≤ c.toNat ∧ c.toNat ≤ 90) := by
  unfold Char.toLower
  split
  · rename_i h
    obtain ⟨hlo, hhi⟩ := h
    have hlo' : 65 ≤ c.toNat := UInt32.le_iff_toNat_le.mp hlo
    have hhi' : c.toNat ≤ 90 := UInt32.le_iff_toNat_le.mp hhi
    refine .inr ⟨?_, hlo', hhi'⟩
    change (c.val + 32).toNat = c.val.toNat + 32
    rw [UInt32.toNat_add]
    change c.val.toNat ≤ 90 at hhi'
    exact Nat.mod_eq_of_lt (by change c.val.toNat + 32 < _; omega)
  · rename_i h
    refine .inl ⟨rfl, ?_⟩
    by_contra hno
    refine h ⟨UInt32.le_iff_toNat_le.mpr ?_, UInt32.le_iff_toNat_le.mpr ?_⟩
    · change 65 ≤ c.toNat
      omega
    · change c.toNat ≤ 90
      omega

/-- No letter becomes a separator. -/
theorem toLower_eq_iff {c d : Char} (hd : d.toNat < 65) : c.toLower = d ↔ c = d := by
  rcases toLower_cases c with ⟨h, -⟩ | ⟨h, hlo, -⟩
  · rw [h]
  · constructor
    · rintro rfl
      omega
    · rintro rfl
      omega

theorem isToken_toLower (c : Char) : isToken c.toLower = isToken c := by
  simp only [isToken, bne, beq_eq_decide, @toLower_eq_iff c ' ' (by decide),
    @toLower_eq_iff c '\t' (by decide), @toLower_eq_iff c '\n' (by decide),
    @toLower_eq_iff c '\r' (by decide)]

theorem endsMethod_toLower (c : Char) : endsMethod c.toLower = endsMethod c := by
  simp only [endsMethod, List.mem_cons, List.not_mem_nil, or_false,
    @toLower_eq_iff c '\x00' (by decide), @toLower_eq_iff c ',' (by decide),
    @toLower_eq_iff c ' ' (by decide), @toLower_eq_iff c '\t' (by decide),
    @toLower_eq_iff c '\n' (by decide), @toLower_eq_iff c '\r' (by decide)]

theorem matchesNoCase_eq {s : List Char} {max : ℕ} (h : p + s.length ≤ max)
    (hmax : max ≤ buf.length) :
    matchesNoCase buf p s = .ok (s.isPrefixOf (lower ((buf.take max).drop p))) := by
  induction s generalizing p with
  | nil => rw [List.isPrefixOf_nil_left]; rfl
  | cons c s ih =>
    rw [List.length_cons] at h
    have hp : p < buf.length := by omega
    have hcons : (buf.take max).drop p = buf[p] :: (buf.take max).drop (p + 1) := by
      rw [List.drop_eq_getElem_cons (by rw [List.length_take]; omega), List.getElem_take]
    rw [matchesNoCase, subscript_of_lt hp, hcons]
    change (if buf[p].toLower = c then matchesNoCase buf (p + 1) s else .ok false) = _
    rw [lower, List.map_cons, List.isPrefixOf_cons_cons]
    by_cases hc : buf[p].toLower = c
    · rw [if_pos hc, ih (by omega), hc, beq_self_eq_true, Bool.true_and, lower]
    · rw [if_neg hc, beq_eq_false_iff_ne.mpr (Ne.symm hc), Bool.false_and]

end Scanners

/-! ## 3. The method -/

/-- The names of the methods, in lower case. -/
def methodNames : List (List Char × Method) :=
  [(['a', 'c', 'k'], .ACK), (['b', 'y', 'e'], .BYE), (['c', 'a', 'n', 'c', 'e', 'l'], .CANCEL),
    (['i', 'n', 'f', 'o'], .INFO), (['i', 'n', 'v', 'i', 't', 'e'], .INVITE),
    (['m', 'e', 's', 's', 'a', 'g', 'e'], .MESSAGE), (['n', 'o', 't', 'i', 'f', 'y'], .NOTIFY),
    (['o', 'p', 't', 'i', 'o', 'n', 's'], .OPTIONS), (['p', 'r', 'a', 'c', 'k'], .PRACK),
    (['p', 'u', 'b', 'l', 'i', 's', 'h'], .PUBLISH), (['r', 'e', 'f', 'e', 'r'], .REFER),
    (['r', 'e', 'g', 'i', 's', 't', 'e', 'r'], .REGISTER),
    (['s', 'u', 'b', 's', 'c', 'r', 'i', 'b', 'e'], .SUBSCRIBE),
    (['u', 'p', 'd', 'a', 't', 'e'], .UPDATE)]

/-- The method of a token: what stands before the first comma, if it has a name; nothing where it has
not and is no token of RFC 3261 either. -/
def methodOf (tok : Text) : Option Method :=
  let word := tok.takeWhile fun c => !endsMethod c
  match methodNames.find? fun e => e.1 == lower word with
  | some e => some e.2
  | none => if word.all method_char then some .OTHER else none

section Method

variable {buf tok : Text} {max : ℕ}

theorem isPrefixOf_append {a b t : List Char} :
    (a ++ b).isPrefixOf t = (a.isPrefixOf t && b.isPrefixOf (t.drop a.length)) := by
  induction a generalizing t with
  | nil => rw [List.isPrefixOf_nil_left]; rfl
  | cons c a ih =>
    cases t with
    | nil => rfl
    | cons d t =>
      rw [List.cons_append, List.isPrefixOf_cons_cons, List.isPrefixOf_cons_cons, ih, Bool.and_assoc]
      rfl

theorem isPrefixOf_of_lt {a t : List Char} (h : t.length < a.length) : a.isPrefixOf t = false := by
  rw [Bool.eq_false_iff]
  intro hpre
  exact absurd (List.isPrefixOf_iff_prefix.mp hpre).length_le (Nat.not_le.mpr h)

/-- One name, where what is tried otherwise has no chance in a token that is too short for it. -/
theorem nameAt_eq {p : ℕ} {s : List Char} {m : Method} {o : Option (Method × ℕ)}
    (hmax : max ≤ buf.length) (hs : 0 < s.length) (ho : max < p + s.length → o = none) :
    nameAt buf max p s m (.ok o) =
      .ok (if s.isPrefixOf (lower ((buf.take max).drop p)) then some (m, p + s.length) else o) := by
  unfold nameAt
  by_cases hshort : max < p + s.length
  · have hlen : (lower ((buf.take max).drop p)).length < s.length := by
      rw [lower, List.length_map, List.length_drop, List.length_take]
      omega
    rw [if_pos hshort, isPrefixOf_of_lt hlen, ho hshort]
    rfl
  · rw [if_neg hshort, matchesNoCase_eq (Nat.not_lt.mp hshort) hmax]
    change (if s.isPrefixOf _ = true then Except.ok _ else Except.ok _) = _
    split <;> rfl

/-- The name at the start of a token. -/
def nameIn (tok : Text) : Option (Method × ℕ) :=
  (methodNames.find? fun e => e.1.isPrefixOf (lower tok)).map fun e => (e.2, e.1.length)

/-- The names that begin with a letter, without it. -/
def namesFrom (d : Char) : List (List Char × Method) :=
  methodNames.filterMap fun e => if e.1.head? = some d then some (e.1.tail, e.2) else none

theorem nameIn_cons (c : Char) (t : Text) : nameIn (c :: t) =
    ((namesFrom c.toLower).find? fun e => e.1.isPrefixOf (lower t)).map
      fun e => (e.2, 1 + e.1.length) := by
  have hgeneral : ∀ names : List (List Char × Method), (∀ e ∈ names, e.1 ≠ []) →
      (names.find? fun e => e.1.isPrefixOf (c.toLower :: lower t)).map
          (fun e => (e.2, e.1.length)) =
        ((names.filterMap fun e => if e.1.head? = some c.toLower then some (e.1.tail, e.2)
            else none).find? fun e => e.1.isPrefixOf (lower t)).map
          fun e => (e.2, 1 + e.1.length) := by
    intro names hne
    induction names with
    | nil => rfl
    | cons e names ih =>
      rw [List.forall_mem_cons] at hne
      obtain ⟨s, m⟩ := e
      cases s with
      | nil => exact absurd rfl hne.1
      | cons d s =>
        rw [List.find?_cons, List.filterMap_cons]
        simp only [List.head?_cons, Option.some_inj, List.isPrefixOf_cons_cons, List.tail_cons]
        by_cases hd : d = c.toLower
        · rw [if_pos hd, hd, beq_self_eq_true, Bool.true_and]
          simp only [List.find?_cons]
          cases s.isPrefixOf (lower t) with
          | true => simp [Nat.add_comm]
          | false => exact ih hne.2
        · rw [if_neg hd, beq_eq_false_iff_ne.mpr hd, Bool.false_and]
          exact ih hne.2
  exact hgeneral methodNames (by decide)

section Switch

variable {c d : Char} {t : Text}

theorem nameIn_none (h : namesFrom c.toLower = []) : nameIn (c :: t) = none := by
  rw [nameIn_cons, h]
  rfl

theorem nameIn_one {s : List Char} {m : Method} (h : namesFrom c.toLower = [(s, m)]) :
    nameIn (c :: t) = if s.isPrefixOf (lower t) then some (m, 1 + s.length) else none := by
  rw [nameIn_cons, h]
  simp only [List.find?_cons, List.find?_nil]
  cases s.isPrefixOf (lower t) <;> rfl

theorem nameIn_two {s s' : List Char} {m m' : Method}
    (h : namesFrom c.toLower = [(s, m), (s', m')]) :
    nameIn (c :: t) = if s.isPrefixOf (lower t) then some (m, 1 + s.length)
      else if s'.isPrefixOf (lower t) then some (m', 1 + s'.length) else none := by
  rw [nameIn_cons, h]
  simp only [List.find?_cons, List.find?_nil]
  cases s.isPrefixOf (lower t) with
  | true => rfl
  | false => cases s'.isPrefixOf (lower t) <;> rfl

variable (hmax : max ≤ buf.length) (htok : buf.take max = c :: t)

include hmax htok

theorem length_of_take : t.length + 1 = max := by
  have h := congrArg List.length htok
  rw [List.length_take, List.length_cons] at h
  omega

/-- A letter with one name. -/
theorem oneName {s : List Char} {m : Method} (hs : 0 < s.length)
    (h : namesFrom c.toLower = [(s, m)]) :
    nameAt buf max 1 s m (.ok none) = .ok (nameIn (c :: t)) := by
  rw [nameAt_eq hmax hs fun _ => rfl, htok, nameIn_one h]
  rfl

/-- A letter with two names, the shorter one first. -/
theorem twoNames {s s' : List Char} {m m' : Method} (hs : 0 < s.length)
    (hs' : s.length ≤ s'.length) (h : namesFrom c.toLower = [(s, m), (s', m')]) :
    nameAt buf max 1 s m (nameAt buf max 1 s' m' (.ok none)) = .ok (nameIn (c :: t)) := by
  have hlen := length_of_take hmax htok
  rw [nameAt_eq hmax (Nat.lt_of_lt_of_le hs hs') fun _ => rfl, htok, nameAt_eq hmax hs ?_, htok,
    nameIn_two h]
  · rfl
  · intro hshort
    rw [if_neg]
    rw [Bool.not_eq_true]
    refine isPrefixOf_of_lt ?_
    rw [lower, List.length_map]
    change t.length < _
    omega

/-- Two names with two letters in common. -/
theorem twoNames_common {x : Char} {s s' : List Char} {m m' : Method} {k : ℕ} (hs : 0 < s.length)
    (hk : k = 2 + s.length) (hs' : s.length ≤ s'.length)
    (h : namesFrom c.toLower = [(x :: s, m), (x :: s', m')]) :
    (if max < k then pure none
      else do
        if ← matchesNoCase buf 1 [x] then nameAt buf max 2 s m (nameAt buf max 2 s' m' (.ok none))
        else pure none) = .ok (nameIn (c :: t)) := by
  have hlen := length_of_take hmax htok
  have hcut : ∀ r : List Char, (x :: r).isPrefixOf (lower t) =
      ([x].isPrefixOf (lower t) && r.isPrefixOf (lower ((c :: t).drop 2))) := by
    intro r
    have happ := @isPrefixOf_append [x] r (lower t)
    rw [List.singleton_append] at happ
    rw [happ, lower, lower, List.map_drop]
    rfl
  rw [nameIn_two h]
  by_cases hshort : max < k
  · have hnone : ∀ r : List Char, s.length ≤ r.length → (x :: r).isPrefixOf (lower t) = false := by
      intro r hr
      refine isPrefixOf_of_lt ?_
      rw [lower, List.length_map, List.length_cons]
      omega
    rw [if_pos hshort, hnone s (le_refl _), hnone s' hs']
    rfl
  · have hx : 1 + [x].length ≤ max := by
      rw [List.length_singleton]
      omega
    rw [if_neg hshort, matchesNoCase_eq hx hmax, htok]
    change (if [x].isPrefixOf (lower t) = true then _ else _) = _
    have htwo : nameAt buf max 2 s m (nameAt buf max 2 s' m' (.ok none)) =
        .ok (if s.isPrefixOf (lower ((c :: t).drop 2)) then some (m, 2 + s.length)
          else if s'.isPrefixOf (lower ((c :: t).drop 2)) then some (m', 2 + s'.length)
          else none) := by
      rw [nameAt_eq hmax (Nat.lt_of_lt_of_le hs hs') fun _ => rfl, htok, nameAt_eq hmax hs ?_, htok]
      intro hno
      omega
    rw [htwo, hcut s, hcut s', List.length_cons, List.length_cons]
    have hcomm : ∀ r : List Char, 1 + (r.length + 1) = 2 + r.length := fun r => by omega
    rw [hcomm, hcomm]
    cases [x].isPrefixOf (lower t) <;> rfl

/-- **The `switch` finds the name.** -/
theorem methodFrom_eq : methodFrom buf max c = .ok (nameIn (c :: t)) := by
  unfold methodFrom
  split
  · rename_i hc
    exact oneName hmax htok (by decide) (by rw [hc]; rfl)
  · rename_i hc
    exact oneName hmax htok (by decide) (by rw [hc]; rfl)
  · rename_i hc
    exact oneName hmax htok (by decide) (by rw [hc]; rfl)
  · rename_i hc
    exact twoNames_common hmax htok (by decide) rfl (by decide) (by rw [hc]; rfl)
  · rename_i hc
    exact oneName hmax htok (by decide) (by rw [hc]; rfl)
  · rename_i hc
    exact oneName hmax htok (by decide) (by rw [hc]; rfl)
  · rename_i hc
    exact oneName hmax htok (by decide) (by rw [hc]; rfl)
  · rename_i hc
    exact twoNames hmax htok (by decide) (by decide) (by rw [hc]; rfl)
  · rename_i hc
    exact twoNames_common hmax htok (by decide) rfl (by decide) (by rw [hc]; rfl)
  · rename_i hc
    exact oneName hmax htok (by decide) (by rw [hc]; rfl)
  · rename_i hc
    exact oneName hmax htok (by decide) (by rw [hc]; rfl)
  · rename_i ha hb hcc hi hm hn ho hp hr hs hu
    rw [nameIn_none]
    · rfl
    · refine List.filterMap_eq_nil_iff.mpr fun e he => if_neg fun hhead => ?_
      simp only [methodNames, List.mem_cons, List.not_mem_nil, or_false] at he
      rcases he with rfl | rfl | rfl | rfl | rfl | rfl | rfl | rfl | rfl | rfl | rfl | rfl | rfl | rfl
      all_goals
        have hletter := Option.some.inj hhead
        first
          | exact ha hletter.symm | exact hb hletter.symm | exact hcc hletter.symm
          | exact hi hletter.symm | exact hm hletter.symm | exact hn hletter.symm
          | exact ho hletter.symm | exact hp hletter.symm | exact hr hletter.symm
          | exact hs hletter.symm | exact hu hletter.symm

end Switch

theorem knownMethod_eq (hpos : 0 < max) (hmax : max ≤ buf.length) :
    knownMethod buf max = .ok (nameIn (buf.take max)) := by
  have hzero : 0 < buf.length := Nat.lt_of_lt_of_le hpos hmax
  obtain ⟨c, t, htok⟩ : ∃ c t, buf.take max = c :: t := by
    rw [← List.ne_nil_iff_exists_cons, ← List.length_pos_iff, List.length_take]
    omega
  have hc : buf[0] = c := by
    have hget : (buf.take max)[0]? = buf[0]? := List.getElem?_take_of_lt hpos
    rw [htok, List.getElem?_eq_getElem hzero] at hget
    exact (Option.some.inj hget).symm
  rw [knownMethod, subscript_of_lt hzero, hc, htok]
  exact methodFrom_eq hmax htok

/-- The loop under `unknown:`. -/
theorem otherMethod_eq {len : ℕ} (hmax : max ≤ buf.length) (hlen : len ≤ max) :
    otherMethod buf len (max - len) =
      .ok ((((buf.take max).drop len).takeWhile fun c => !endsMethod c).all method_char) := by
  obtain ⟨n, hn⟩ : ∃ n, max - len = n := ⟨_, rfl⟩
  rw [hn]
  induction n generalizing len with
  | zero =>
    have hnil : (buf.take max).drop len = [] := by
      rw [List.drop_eq_nil_iff, List.length_take]
      omega
    rw [hnil]
    rfl
  | succ n ih =>
    have hlt : len < buf.length := by omega
    have hcons : (buf.take max).drop len = buf[len] :: (buf.take max).drop (len + 1) := by
      rw [List.drop_eq_getElem_cons (by rw [List.length_take]; omega), List.getElem_take]
    rw [otherMethod, subscript_of_lt hlt, hcons, List.takeWhile_cons]
    change (if endsMethod buf[len] = true then .ok true else if (!method_char buf[len]) = true then
      .ok false else otherMethod buf (len + 1) n) = _
    rw [ih (by omega) (by omega)]
    cases endsMethod buf[len] with
    | true => rfl
    | false =>
      simp only [Bool.false_eq_true, if_false, Bool.not_false, if_true, List.all_cons]
      cases method_char buf[len] <;> rfl

theorem method_char_toLower (c : Char) : method_char c.toLower = method_char c := by
  rcases toLower_cases c with ⟨h, -⟩ | ⟨h, hlo, hhi⟩
  · rw [h]
  · have hup : method_char c = true := by
      simp only [method_char, Bool.or_eq_true, Bool.and_eq_true, decide_eq_true_iff]
      omega
    have hlow : method_char c.toLower = true := by
      simp only [method_char, Bool.or_eq_true, Bool.and_eq_true, decide_eq_true_iff]
      omega
    rw [hup, hlow]

theorem word_lower (t : Text) :
    lower (t.takeWhile fun c => !endsMethod c) = (lower t).takeWhile fun c => !endsMethod c := by
  rw [lower, lower, List.takeWhile_map]
  congr 2
  funext c
  rw [Function.comp_apply, endsMethod_toLower]

/-- No name begins another one, none has a separator, and all are tokens. -/
theorem methodNames_spec : ∀ e ∈ methodNames, (∀ e' ∈ methodNames, e.1.isPrefixOf e'.1 = true →
    e' = e) ∧ e.1.all (fun c => !endsMethod c && method_char c) = true := by
  decide

theorem all_lower (t : Text) : (lower t).all method_char = t.all method_char := by
  rw [lower, List.all_map]
  congr 1
  funext c
  exact method_char_toLower c

/-- The letters of a name go on, whatever comes behind it. -/
theorem takeWhile_name {e : List Char × Method} (he : e ∈ methodNames) (r : Text) :
    (e.1 ++ r).takeWhile (fun c => !endsMethod c) =
      e.1 ++ r.takeWhile fun c => !endsMethod c := by
  refine List.takeWhile_append_of_pos fun c hc => ?_
  have hall := List.all_eq_true.mp (methodNames_spec e he).2 c hc
  rw [Bool.and_eq_true] at hall
  exact hall.1

/-- A word that is a name. -/
theorem methodOf_of_name {e : List Char × Method} (he : e ∈ methodNames)
    (h : (lower tok).takeWhile (fun c => !endsMethod c) = e.1) : methodOf tok = some e.2 := by
  have hfind : (methodNames.find? fun e' => e'.1 == e.1) = some e := by
    obtain ⟨e', he'⟩ : ∃ e', (methodNames.find? fun e' => e'.1 == e.1) = some e' := by
      rw [← Option.isSome_iff_exists, List.find?_isSome]
      exact ⟨e, he, beq_self_eq_true _⟩
    have hbeq := List.find?_some he'
    have hsame : e'.1 = e.1 := eq_of_beq hbeq
    rw [he', (methodNames_spec e he).1 e' (List.mem_of_find?_eq_some he')
      (by rw [hsame]; exact List.isPrefixOf_iff_prefix.mpr (List.prefix_refl _))]
  unfold methodOf
  simp only [word_lower, h, hfind]

/-- A word that is none. -/
theorem methodOf_of_not_name (h : ∀ e ∈ methodNames,
    e.1 ≠ (lower tok).takeWhile fun c => !endsMethod c) :
    methodOf tok = if ((lower tok).takeWhile fun c => !endsMethod c).all method_char then
      some .OTHER else none := by
  have hfind : (methodNames.find? fun e =>
      e.1 == (lower tok).takeWhile fun c => !endsMethod c) = none := by
    refine List.find?_eq_none.mpr fun e he => ?_
    rw [beq_iff_eq]
    exact h e he
  unfold methodOf
  simp only [word_lower, hfind]
  rw [← all_lower, word_lower]

/-- What is in the token under `unknown:`. -/
theorem unknown_eq {len : ℕ} (hmax : max ≤ buf.length) (hlen : len ≤ max) :
    (do if ← otherMethod buf len (max - len) then return some .OTHER else return none :
        Except Stop (Option Method)) =
      .ok (if (((lower (buf.take max)).drop len).takeWhile fun c => !endsMethod c).all method_char
        then some .OTHER else none) := by
  rw [otherMethod_eq hmax hlen]
  have hlower : (((lower (buf.take max)).drop len).takeWhile fun c => !endsMethod c).all
      method_char = (((buf.take max).drop len).takeWhile fun c => !endsMethod c).all method_char := by
    rw [← all_lower (((buf.take max).drop len).takeWhile _), word_lower, lower, lower,
      List.map_drop]
  rw [hlower]
  change (if _ = true then Except.ok _ else Except.ok _) = _
  split <;> rfl

/-- **What `parse_method` makes of a token.** -/
theorem parse_method_eq (hpos : 0 < max) (hmax : max ≤ buf.length) :
    parse_method buf max = .ok (methodOf (buf.take max)) := by
  have hlength : (lower (buf.take max)).length = max := by
    rw [lower, List.length_map, List.length_take]
    omega
  rw [parse_method, knownMethod_eq hpos hmax, nameIn]
  cases hfind : methodNames.find? fun e => e.1.isPrefixOf (lower (buf.take max)) with
  | none =>
    have hno : ∀ e ∈ methodNames,
        e.1 ≠ (lower (buf.take max)).takeWhile fun c => !endsMethod c := by
      intro e he heq
      refine List.find?_eq_none.mp hfind e he (List.isPrefixOf_iff_prefix.mpr ?_)
      rw [heq]
      exact List.takeWhile_prefix _
    rw [methodOf_of_not_name hno]
    exact @unknown_eq buf max 0 hmax (Nat.zero_le _)
  | some e =>
    have he : e ∈ methodNames := List.mem_of_find?_eq_some hfind
    have hpre := List.find?_some hfind
    obtain ⟨r, hr⟩ := List.isPrefixOf_iff_prefix.mp hpre
    have hword := takeWhile_name he r
    rw [hr] at hword
    have hsum : e.1.length + r.length = max := by
      rw [← hlength, ← hr, List.length_append]
    change (if e.1.length < max then _ else Except.ok (some e.2)) = _
    cases r with
    | nil =>
      rw [List.length_nil, Nat.add_zero] at hsum
      rw [List.takeWhile_nil, List.append_nil] at hword
      rw [if_neg (by omega), methodOf_of_name he hword]
    | cons c r =>
      rw [List.length_cons] at hsum
      have hlt : e.1.length < buf.length := by omega
      have hc : buf[e.1.length].toLower = c := by
        have hget : (lower (buf.take max))[e.1.length]? = some c := by
          rw [← hr, List.getElem?_append_right (le_refl _), Nat.sub_self]
          rfl
        rw [lower, List.getElem?_map, List.getElem?_take_of_lt (by omega),
          List.getElem?_eq_getElem hlt] at hget
        exact Option.some.inj hget
      rw [if_pos (by omega), subscript_of_lt hlt]
      change (if endsMethod buf[e.1.length] = true then Except.ok (some e.2) else _) = _
      rw [← endsMethod_toLower, hc]
      cases hends : endsMethod c with
      | true =>
        rw [List.takeWhile_cons_of_neg (by simp [hends]), List.append_nil] at hword
        rw [if_pos rfl, methodOf_of_name he hword]
      | false =>
        rw [List.takeWhile_cons_of_pos (by simp [hends])] at hword
        have hno : ∀ e' ∈ methodNames,
            e'.1 ≠ (lower (buf.take max)).takeWhile fun c => !endsMethod c := by
          intro e' he' heq
          have hpre : e.1.isPrefixOf e'.1 = true := by
            rw [heq, hword, List.isPrefixOf_iff_prefix]
            exact List.prefix_append _ _
          have hsame := (methodNames_spec e he).1 e' he' hpre
          rw [hsame, hword] at heq
          have hlen := congrArg List.length heq
          rw [List.length_append, List.length_cons] at hlen
          omega
        have hname : e.1.all method_char = true := by
          refine List.all_eq_true.mpr fun c hc => ?_
          have hall := List.all_eq_true.mp (methodNames_spec e he).2 c hc
          rw [Bool.and_eq_true] at hall
          exact hall.2
        rw [if_neg Bool.false_ne_true, methodOf_of_not_name hno, hword, List.all_append, hname,
          Bool.true_and]
        have hunknown := @unknown_eq buf max e.1.length hmax (by omega)
        rw [← hr, List.drop_left, List.takeWhile_cons_of_pos (by simp [hends])] at hunknown
        exact hunknown

end Method

/-! ## 4. The line -/

/-- What the first token is: a version, a method, or neither. -/
def tokenKind (tok : Text) : Option (Option Method) :=
  if lower tok = ['s', 'i', 'p', '/', '2', '.', '0'] then some none
  else if tok = [] then none
  else (methodOf tok).map some

section Line

variable {buf t : Text} {p : ℕ}

theorem lower_takeWhile_isToken (t : Text) :
    lower (t.takeWhile isToken) = (lower t).takeWhile isToken := by
  rw [lower, lower, List.takeWhile_map]
  congr 2
  funext c
  rw [Function.comp_apply, isToken_toLower]

theorem head?_dropWhile_isToken (t : Text) :
    (t.dropWhile isToken).head? = t[(t.takeWhile isToken).length]? := by
  rw [← drop_takeWhile_length, List.head?_drop]

/-- A name and a space stand at the start exactly if the first token is the name and a space comes
behind it. -/
theorem isMethod_eq {name : List Char} (hname : name.all isToken = true)
    (hlen : name.length < buf.length) :
    isMethod buf name = .ok (decide (lower (buf.takeWhile isToken) = name ∧
      (buf.dropWhile isToken).head? = some ' ')) := by
  have hmatch := @matchesNoCase_eq buf 0 name buf.length (by omega) (le_refl _)
  rw [List.take_length, List.drop_zero] at hmatch
  have hboth : isMethod buf name =
      .ok (name.isPrefixOf (lower buf) && buf[name.length] == ' ') := by
    rw [isMethod, hmatch, subscript_of_lt hlen]
    change (if name.isPrefixOf (lower buf) = true then Except.ok _ else Except.ok _) = _
    cases name.isPrefixOf (lower buf) <;> rfl
  rw [hboth]
  congr 1
  rw [Bool.eq_iff_iff, Bool.and_eq_true, decide_eq_true_iff, List.isPrefixOf_iff_prefix, beq_iff_eq,
    head?_dropWhile_isToken, lower_takeWhile_isToken]
  constructor
  · rintro ⟨⟨r, hr⟩, hspace⟩
    have hget : (lower buf)[name.length]? = some ' ' := by
      rw [lower, List.getElem?_map, List.getElem?_eq_getElem hlen, hspace]
      rfl
    rw [← hr, List.getElem?_append_right (le_refl _), Nat.sub_self] at hget
    have htoken : (lower buf).takeWhile isToken = name := by
      cases r with
      | nil => cases hget
      | cons c r =>
        cases Option.some.inj hget
        rw [← hr, List.takeWhile_append_of_pos (List.all_eq_true.mp hname)]
        exact List.append_nil _
    have hcount : (buf.takeWhile isToken).length = name.length := by
      rw [← htoken, ← lower_takeWhile_isToken, lower, List.length_map]
    exact ⟨htoken, by rw [hcount, List.getElem?_eq_getElem hlen, hspace]⟩
  · rintro ⟨htoken, hspace⟩
    have hcount : (buf.takeWhile isToken).length = name.length := by
      rw [← htoken, ← lower_takeWhile_isToken, lower, List.length_map]
    rw [hcount, List.getElem?_eq_getElem hlen] at hspace
    exact ⟨htoken ▸ List.takeWhile_prefix _, Option.some.inj hspace⟩

/-- A token that is a name is the method. -/
theorem tokenKind_of_name {tok : Text} {e : List Char × Method} (he : e ∈ methodNames)
    (h : lower tok = e.1) : tokenKind tok = some (some e.2) := by
  have hword : (lower tok).takeWhile (fun c => !endsMethod c) = e.1 := by
    have htake := takeWhile_name he []
    rw [List.append_nil, List.takeWhile_nil, List.append_nil] at htake
    rw [h, htake]
  have hno : e.1 ≠ ['s', 'i', 'p', '/', '2', '.', '0'] ∧ e.1 ≠ [] := by
    revert he
    generalize e = e
    revert e
    decide
  rw [tokenKind, if_neg (h ▸ hno.1), if_neg, methodOf_of_name he hword]
  · rfl
  · rintro rfl
    exact hno.2 h.symm

/-- The token of a method that is not spelled out. -/
theorem otherToken_eq (h : lower (buf.takeWhile isToken) ≠ ['s', 'i', 'p', '/', '2', '.', '0'] ∨
      (buf.dropWhile isToken).head? ≠ some ' ') :
    (do
      let tmp ← eat_token_end buf 0 buf.length
      if tmp = 0 ∨ buf.length ≤ tmp then return none
      else if (← subscript buf tmp) ≠ ' ' then return none
      else
        match ← parse_method buf tmp with
        | some m => return some (some m, tmp)
        | none => return none : Except Stop (Option (Option Method × ℕ))) =
      .ok (if (buf.dropWhile isToken).head? = some ' ' then
        (tokenKind (buf.takeWhile isToken)).map fun kind => (kind, (buf.takeWhile isToken).length)
        else none) := by
  have hscan : eat_token_end buf 0 buf.length = .ok (buf.takeWhile isToken).length := by
    have heat := @eat_drop isToken buf 0 (Nat.zero_le _)
    rw [Nat.zero_add, List.drop_zero] at heat
    exact heat
  rw [hscan, head?_dropWhile_isToken]
  rw [head?_dropWhile_isToken] at h
  have hle : (buf.takeWhile isToken).length ≤ buf.length := (List.takeWhile_prefix _).length_le
  change (if (buf.takeWhile isToken).length = 0 ∨ buf.length ≤ (buf.takeWhile isToken).length then
    Except.ok none else _) = _
  by_cases hempty : (buf.takeWhile isToken).length = 0
  · rw [if_pos (.inl hempty), List.length_eq_zero_iff.mp hempty]
    split <;> rfl
  · by_cases hend : buf.length ≤ (buf.takeWhile isToken).length
    · rw [if_pos (.inr hend), if_neg]
      rw [List.getElem?_eq_none hend]
      nofun
    · rw [if_neg (by simp only [hempty, hend, or_self, not_false_eq_true])]
      have hlt : (buf.takeWhile isToken).length < buf.length := Nat.not_le.mp hend
      simp only [List.getElem?_eq_getElem hlt, Option.some_inj, ne_eq] at h ⊢
      rw [subscript_of_lt hlt]
      change (if ¬buf[(buf.takeWhile isToken).length] = ' ' then Except.ok none else _) = _
      by_cases hspace : buf[(buf.takeWhile isToken).length] = ' '
      · rw [if_neg (not_not.mpr hspace), if_pos hspace,
          parse_method_eq (Nat.pos_of_ne_zero hempty) hle]
        have htake : buf.take (buf.takeWhile isToken).length = buf.takeWhile isToken :=
          (List.prefix_iff_eq_take.mp (List.takeWhile_prefix _)).symm
        have hne : buf.takeWhile isToken ≠ [] := fun hnil => hempty (by rw [hnil]; rfl)
        rw [htake, tokenKind, if_neg (h.resolve_right (not_not.mpr hspace)), if_neg hne]
        cases methodOf (buf.takeWhile isToken) <;> rfl
      · rw [if_pos hspace, if_neg hspace]

/-- A method that is spelled out before the rest is tried. -/
theorem spelled_eq {e : List Char × Method} (he : e ∈ methodNames) (hlen : 16 < buf.length)
    {rest : Except Stop (Option (Option Method × ℕ))}
    (hrest : rest = .ok (if (buf.dropWhile isToken).head? = some ' ' then
      (tokenKind (buf.takeWhile isToken)).map fun kind => (kind, (buf.takeWhile isToken).length)
      else none)) :
    (do if ← isMethod buf e.1 then return some (some e.2, e.1.length) else rest) =
      .ok (if (buf.dropWhile isToken).head? = some ' ' then
        (tokenKind (buf.takeWhile isToken)).map fun kind => (kind, (buf.takeWhile isToken).length)
        else none) := by
  have hshort : e.1.all isToken = true ∧ e.1.length ≤ 16 := by
    revert e
    decide
  rw [isMethod_eq hshort.1 (lt_of_le_of_lt hshort.2 hlen)]
  change (if decide _ = true then Except.ok _ else rest) = _
  by_cases h : lower (buf.takeWhile isToken) = e.1 ∧ (buf.dropWhile isToken).head? = some ' '
  · have hcount : (buf.takeWhile isToken).length = e.1.length := by
      rw [← h.1, lower, List.length_map]
    rw [if_pos (decide_eq_true h), if_pos h.2, tokenKind_of_name he h.1, hcount]
    rfl
  · rw [if_neg (by simpa using h)]
    exact hrest

/-- **The first token.**  The five methods that are spelled out come to what `parse_method` makes of
them. -/
theorem firstToken_eq (hlen : 16 < buf.length) :
    firstToken buf = .ok (if (buf.dropWhile isToken).head? = some ' ' then
      (tokenKind (buf.takeWhile isToken)).map fun kind => (kind, (buf.takeWhile isToken).length)
      else none) := by
  rw [firstToken, isMethod_eq rfl (lt_of_le_of_lt (by decide) hlen)]
  by_cases hsip : lower (buf.takeWhile isToken) = ['s', 'i', 'p', '/', '2', '.', '0'] ∧
      (buf.dropWhile isToken).head? = some ' '
  · have hcount : (buf.takeWhile isToken).length = 7 := by
      have h := congrArg List.length hsip.1
      rwa [lower, List.length_map] at h
    rw [decide_eq_true hsip, if_pos hsip.2, tokenKind, if_pos hsip.1, hcount]
    rfl
  · have hother := @otherToken_eq buf (not_and_or.mp hsip)
    rw [decide_eq_false hsip]
    exact spelled_eq (e := (['i', 'n', 'v', 'i', 't', 'e'], .INVITE)) (by decide) hlen <|
      spelled_eq (e := (['c', 'a', 'n', 'c', 'e', 'l'], .CANCEL)) (by decide) hlen <|
      spelled_eq (e := (['a', 'c', 'k'], .ACK)) (by decide) hlen <|
      spelled_eq (e := (['b', 'y', 'e'], .BYE)) (by decide) hlen <|
      spelled_eq (e := (['i', 'n', 'f', 'o'], .INFO)) (by decide) hlen hother

theorem eat_token_end_eq (h : p ≤ buf.length) : eat_token_end buf p buf.length =
    .ok (p + ((buf.drop p).takeWhile isToken).length) := eat_drop h

theorem eat_space_end_eq (h : p ≤ buf.length) : eat_space_end buf p buf.length =
    .ok (p + ((buf.drop p).takeWhile isSpace).length) := eat_drop h

/-- What is left behind a scan. -/
theorem drop_add_takeWhile (goes : Char → Bool) (buf : Text) (p : ℕ) :
    buf.drop (p + ((buf.drop p).takeWhile goes).length) = (buf.drop p).dropWhile goes := by
  rw [← List.drop_drop, drop_takeWhile_length]

/-- A scan is over where nothing is left. -/
theorem length_le_iff (goes : Char → Bool) (buf : Text) (p : ℕ) :
    buf.length ≤ p + ((buf.drop p).takeWhile goes).length ↔
      (buf.drop p).dropWhile goes = [] := by
  rw [← drop_add_takeWhile, List.drop_eq_nil_iff]

theorem scan_le (goes : Char → Bool) (h : p ≤ buf.length) :
    p + ((buf.drop p).takeWhile goes).length ≤ buf.length := by
  have hpre := (List.takeWhile_prefix (l := buf.drop p) goes).length_le
  rw [List.length_drop] at hpre
  omega

/-- Only space before the end of the line. -/
def lineEnds (t : Text) : Bool := (t.dropWhile isSpace).head?.any fun c => c == '\r' || c == '\n'

theorem is_empty_end_eq (h : p ≤ buf.length) :
    is_empty_end buf p buf.length = .ok (lineEnds (buf.drop p)) := by
  rw [is_empty_end, eat_space_end_eq h, lineEnds, ← drop_add_takeWhile, List.head?_drop]
  generalize p + ((buf.drop p).takeWhile isSpace).length = q
  change (if q < buf.length then _ else Except.ok false) = _
  by_cases hq : q < buf.length
  · rw [if_pos hq, subscript_of_lt hq, List.getElem?_eq_getElem hq]
    rfl
  · rw [if_neg hq, List.getElem?_eq_none (Nat.not_lt.mp hq)]
    rfl

/-- How far `eat_line` goes in a text. -/
def lineEnd (t : Text) : ℕ :=
  let nl := (t.takeWhile (· != '\n')).length
  if nl < t.length then
    let nl := if nl + 1 < t.length then nl + 1 else nl
    if nl + 1 < t.length ∧ t[nl]? = some '\r' then nl + 1 else nl
  else t.length

theorem eat_line_eq (h : p ≤ buf.length) :
    eat_line buf p (buf.length - p) = .ok (p + lineEnd (buf.drop p)) := by
  have hlen : (buf.drop p).length = buf.length - p := List.length_drop
  rw [eat_line, eat_drop h, lineEnd, hlen]
  generalize ((buf.drop p).takeWhile (· != '\n')).length = k
  change (if p + k < p + (buf.length - p) then _ else Except.ok (p + (buf.length - p))) = _
  by_cases hk : k < buf.length - p
  · rw [if_pos (by omega)]
    simp only [if_pos hk]
    have hnext : (if p + k + 1 < p + (buf.length - p) then p + k + 1 else p + k) =
        p + (if k + 1 < buf.length - p then k + 1 else k) := by
      split_ifs <;> omega
    rw [hnext]
    have hin : (if k + 1 < buf.length - p then k + 1 else k) < buf.length - p := by
      split_ifs <;> omega
    generalize (if k + 1 < buf.length - p then k + 1 else k) = nl at hin
    by_cases hnl : nl + 1 < buf.length - p
    · rw [if_pos (by omega), subscript_of_lt (by omega), List.getElem?_drop,
        List.getElem?_eq_getElem (by omega : p + nl < buf.length)]
      simp only [hnl, true_and, Option.some_inj]
      change (if buf[p + nl] = '\r' then Except.ok (p + nl + 1) else Except.ok (p + nl)) = _
      split_ifs <;> rfl
    · rw [if_neg (by omega), if_neg (by simp only [hnl, false_and, not_false_eq_true])]
      rfl
  · rw [if_neg (by omega), if_neg hk]

/-- Without a newline the next line begins nowhere in the text. -/
theorem lineEnd_of_not_mem (h : '\n' ∉ t) : lineEnd t = t.length := by
  have hall : t.takeWhile (· != '\n') = t := by
    refine List.takeWhile_eq_self_iff.mpr fun c hc => ?_
    rw [bne_iff_ne]
    rintro rfl
    exact h hc
  rw [lineEnd, hall, if_neg (Nat.lt_irrefl _)]

/-- **Where the next line begins**: behind the first newline, and behind a carriage return that
follows it and is not the last byte.  A newline that is the last byte is not passed. -/
theorem lineEnd_append {line : Text} (h : '\n' ∉ line) (rest : Text) :
    lineEnd (line ++ '\n' :: rest) = line.length + match rest with
      | [] => 0
      | '\r' :: _ :: _ => 2
      | _ => 1 := by
  have hline : (line ++ '\n' :: rest).takeWhile (· != '\n') = line := by
    rw [List.takeWhile_append_of_pos, List.takeWhile_cons_of_neg (by decide), List.append_nil]
    intro c hc
    rw [bne_iff_ne]
    rintro rfl
    exact h hc
  rw [lineEnd, hline]
  cases rest with
  | nil => simp
  | cons c rest =>
    cases rest with
    | nil => simp
    | cons d rest =>
      have hget : (line ++ '\n' :: c :: d :: rest)[line.length + 1]? = some c := by simp
      have hlen : (line ++ '\n' :: c :: d :: rest).length = line.length + (rest.length + 3) := by
        simp
      rw [hlen]
      simp only [if_pos (by omega : line.length < line.length + (rest.length + 3)),
        if_pos (by omega : line.length + 1 < line.length + (rest.length + 3)), hget, Option.some_inj,
        (by omega : line.length + 1 + 1 < line.length + (rest.length + 3)), true_and]
      by_cases hc : c = '\r'
      · subst hc
        rfl
      · rw [if_neg hc]
        split
        · rename_i heq
          cases heq
        · rename_i heq
          exact absurd (List.cons.inj heq).1 hc
        · rfl

/-- A text up to its first newline. -/
theorem lineEnd_cases (t : Text) :
    ('\n' ∉ t ∧ lineEnd t = t.length) ∨ ('\n' ∈ t ∧ lineEnd t < t.length) := by
  by_cases hmem : '\n' ∈ t
  · obtain ⟨line, rest, rfl, hline⟩ := List.eq_append_cons_of_mem hmem
    refine .inr ⟨hmem, ?_⟩
    rw [lineEnd_append hline, List.length_append, List.length_cons]
    split
    · simp
    · simp
    · rename_i hne _
      have hpos := List.length_pos_of_ne_nil hne
      omega
  · exact .inl ⟨hmem, lineEnd_of_not_mem hmem⟩

/-- It stays inside exactly if there is an end of line. -/
theorem lineEnd_lt_iff (t : Text) : lineEnd t < t.length ↔ '\n' ∈ t := by
  rcases lineEnd_cases t with ⟨hmem, heq⟩ | ⟨hmem, hlt⟩
  · exact iff_of_false (by omega) hmem
  · exact iff_of_true hlt hmem

theorem lineEnd_le (t : Text) : lineEnd t ≤ t.length := by
  rcases lineEnd_cases t with ⟨-, heq⟩ | ⟨-, hlt⟩
  · exact Nat.le_of_eq heq
  · exact Nat.le_of_lt hlt

/-- Copying what was parsed reads nothing behind it. -/
theorem parsedSoFar_returns {offset : ℕ} (h : offset ≤ buf.length) :
    ∃ copy, parsedSoFar buf offset = .ok copy := by
  unfold parsedSoFar
  induction offset with
  | zero => exact ⟨[], rfl⟩
  | succ offset ih =>
    obtain ⟨copy, hcopy⟩ := ih (by omega)
    rw [List.range_succ, List.mapM_append, hcopy, List.mapM_cons, subscript_of_lt h]
    exact ⟨_, rfl⟩

theorem badMessage_eq (buf : Text) : badMessage buf = .ok (.SIP_INVALID, lineEnd buf) := by
  have hline := @eat_line_eq buf 0 (Nat.zero_le _)
  rw [Nat.sub_zero, Nat.zero_add, List.drop_zero] at hline
  rw [badMessage, hline]
  rfl

/-- Every first line that is refused is refused alike. -/
theorem badFirstLine_eq {offset : ℕ} (h : offset ≤ buf.length) :
    badFirstLine buf offset = .ok (.SIP_INVALID, lineEnd buf) := by
  obtain ⟨copy, hcopy⟩ := parsedSoFar_returns h
  rw [badFirstLine, hcopy]
  exact badMessage_eq buf

/-- An offset, from what lies behind it. -/
theorem offset_eq (h : p ≤ buf.length) : p = buf.length - (buf.drop p).length := by
  rw [List.length_drop]
  omega

/-- The line ends with a newline before the last offset. -/
theorem line_end_iff (h : p ≤ buf.length) :
    buf.length ≤ p + lineEnd (buf.drop p) ↔ '\n' ∉ buf.drop p := by
  rw [← lineEnd_lt_iff, List.length_drop]
  omega

/-- The last part of a request; `bad` is what refuses the line at an offset. -/
theorem requestRest_eq {third : ℕ} {bad : ℕ → Except Stop (MsgStart × ℕ)}
    {invalid : Except Stop (MsgStart × ℕ)} {found : Text → MsgStart} (h : third ≤ buf.length)
    (hbad : ∀ offset ≤ buf.length, bad offset = invalid) (ht : buf.drop third = t) :
    (do
      let tmp' ← eat_token_end buf third buf.length
      if tmp' = third ∨ buf.length ≤ tmp' then bad tmp'
      else if !(← is_empty_end buf tmp' buf.length) then bad tmp'
      else
        let nl ← eat_line buf tmp' (buf.length - tmp')
        if buf.length ≤ nl then bad tmp'
        else return (found (slice buf third tmp'), nl) : Except Stop (MsgStart × ℕ)) =
      if t.takeWhile isToken ≠ [] ∧ lineEnds (t.dropWhile isToken) = true ∧
          '\n' ∈ t.dropWhile isToken then
        .ok (found (t.takeWhile isToken), buf.length - (t.dropWhile isToken).length +
          lineEnd (t.dropWhile isToken))
      else invalid := by
  subst ht
  have hle := scan_le isToken h
  have hoffset := offset_eq hle
  rw [drop_add_takeWhile] at hoffset
  rw [← hoffset, eat_token_end_eq h]
  change (if _ ∨ _ then _ else _) = _
  simp only [Nat.add_eq_left, List.length_eq_zero_iff, length_le_iff, hbad _ hle]
  by_cases hnone : (buf.drop third).takeWhile isToken = []
  · rw [if_pos (.inl hnone), if_neg fun hall => hall.1 hnone]
  · by_cases hrest : (buf.drop third).dropWhile isToken = []
    · rw [if_pos (.inr hrest), if_neg]
      rintro ⟨-, hends, -⟩
      rw [hrest] at hends
      cases hends
    · rw [if_neg (by simp only [hnone, hrest, or_self, not_false_eq_true]), is_empty_end_eq hle,
        drop_add_takeWhile]
      change (if (!lineEnds _) = true then _ else _) = _
      cases hends : lineEnds ((buf.drop third).dropWhile isToken) with
      | false => rw [Bool.not_false, if_pos rfl, if_neg fun hall => Bool.false_ne_true hall.2.1]
      | true =>
        rw [Bool.not_true, if_neg Bool.false_ne_true, eat_line_eq hle]
        change (if buf.length ≤ _ then _ else Except.ok (found _, _)) = _
        have hiff := line_end_iff hle
        rw [drop_add_takeWhile] at hiff ⊢
        rw [slice_takeWhile]
        by_cases hnewline : '\n' ∈ (buf.drop third).dropWhile isToken
        · rw [if_neg (mt hiff.mp (not_not.mpr hnewline)), if_pos ⟨hnone, rfl, hnewline⟩]
        · rw [if_pos (hiff.mpr hnewline), if_neg fun hall => hnewline hall.2.2]

/-- What a reason goes on with. -/
def isReason (c : Char) : Bool := c != '\r' && c != '\n'

/-- The last part of a reply. -/
theorem replyRest_eq {third : ℕ} {bad : ℕ → Except Stop (MsgStart × ℕ)}
    {invalid : Except Stop (MsgStart × ℕ)} {found : Text → MsgStart} (h : third ≤ buf.length)
    (hbad : ∀ offset ≤ buf.length, bad offset = invalid) (ht : buf.drop third = t) :
    (do
      let tmp' ← eat_token2_end buf third buf.length '\r'
      if buf.length ≤ tmp' then bad third
      else
        let nl ← eat_line buf tmp' (buf.length - tmp')
        if buf.length ≤ nl then bad tmp'
        else return (found (slice buf third tmp'), nl) : Except Stop (MsgStart × ℕ)) =
      if '\n' ∈ t.dropWhile isReason then
        .ok (found (t.takeWhile isReason), buf.length - (t.dropWhile isReason).length +
          lineEnd (t.dropWhile isReason))
      else invalid := by
  subst ht
  have hle := scan_le isReason h
  have hoffset := offset_eq hle
  rw [drop_add_takeWhile] at hoffset
  have hscan : eat_token2_end buf third buf.length '\r' =
      .ok (third + ((buf.drop third).takeWhile isReason).length) := by
    have hgoes : (fun c : Char => c != '\r' && c != '\n' && c != '\r') = isReason := by
      funext c
      rw [isReason, Bool.and_right_comm, Bool.and_self]
    rw [eat_token2_end, hgoes, eat_drop h]
  rw [← hoffset, hscan]
  change (if _ then _ else _) = _
  simp only [length_le_iff, hbad _ h, hbad _ hle]
  by_cases hrest : (buf.drop third).dropWhile isReason = []
  · rw [if_pos hrest, if_neg]
    rw [hrest]
    exact List.not_mem_nil
  · rw [if_neg hrest, eat_line_eq hle]
    change (if buf.length ≤ _ then _ else Except.ok (found _, _)) = _
    have hiff := line_end_iff hle
    rw [drop_add_takeWhile] at hiff ⊢
    rw [slice_takeWhile]
    by_cases hnewline : '\n' ∈ (buf.drop third).dropWhile isReason
    · rw [if_neg (mt hiff.mp (not_not.mpr hnewline)), if_pos hnewline]
    · rw [if_pos (hiff.mpr hnewline), if_neg hnewline]

/-! ## 5. Request lines -/

/-- **A request line**: a method, ONE space, a URI, space, a version, and the end of the line; what is
behind the version belongs to the `tail`.  The version may be anything, and the URI nothing. -/
structure RequestLine (buf method uri version tail : Text) : Prop where
  text : ∃ gap, buf = method ++ ' ' :: (uri ++ (gap ++ (version ++ tail))) ∧ gap ≠ [] ∧
    ∀ c ∈ gap, isSpace c = true
  first : method ≠ [] ∧ ∀ c ∈ method, isToken c = true
  second : ∀ c ∈ uri, isToken c = true
  third : version ≠ [] ∧ ∀ c ∈ version, isToken c = true
  ends : lineEnds tail = true
  newline : '\n' ∈ tail

theorem isToken_of_isSpace {c : Char} (h : isSpace c = true) : isToken c = false := by
  rw [isSpace, Bool.or_eq_true, beq_iff_eq, beq_iff_eq] at h
  rcases h with rfl | rfl <;> rfl

/-- The tail begins with no token. -/
theorem takeWhile_of_lineEnds (h : lineEnds t = true) : t.takeWhile isToken = [] := by
  cases t with
  | nil => rfl
  | cons c t =>
    refine List.takeWhile_cons_of_neg ?_
    rw [Bool.not_eq_true]
    by_cases hc : isSpace c = true
    · exact isToken_of_isSpace hc
    · rw [lineEnds, List.dropWhile_cons_of_neg hc] at h
      simp only [List.head?_cons, Option.any_some, Bool.or_eq_true, beq_iff_eq] at h
      rcases h with rfl | rfl <;> rfl

/-- A scan over a part stops where the next part begins. -/
theorem scan_append {goes : Char → Bool} {a b : Text} (ha : ∀ c ∈ a, goes c = true)
    (hb : b.takeWhile goes = []) : (a ++ b).takeWhile goes = a ∧ (a ++ b).dropWhile goes = b := by
  have htake : (a ++ b).takeWhile goes = a := by
    rw [List.takeWhile_append_of_pos ha, hb, List.append_nil]
  refine ⟨htake, ?_⟩
  have happ := @List.takeWhile_append_dropWhile _ goes (a ++ b)
  rw [htake] at happ
  exact List.append_cancel_left happ

/-- The parts of a line, as the parser scans them. -/
structure Scanned (buf method uri version tail : Text) : Prop where
  first : buf.takeWhile isToken = method ∧ method ≠ []
  space : (buf.dropWhile isToken).head? = some ' '
  second : (buf.drop (method.length + 1)).takeWhile isToken = uri
  gap : ((buf.drop (method.length + 1)).dropWhile isToken).takeWhile isSpace ≠ []
  third : (((buf.drop (method.length + 1)).dropWhile isToken).dropWhile isSpace).takeWhile
    isToken = version ∧ version ≠ []
  rest : (((buf.drop (method.length + 1)).dropWhile isToken).dropWhile isSpace).dropWhile
    isToken = tail
  ends : lineEnds tail = true
  newline : '\n' ∈ tail

/-- A line up to its first space. -/
theorem eq_first_append (h : (buf.dropWhile isToken).head? = some ' ') : buf =
    buf.takeWhile isToken ++ ' ' :: buf.drop ((buf.takeWhile isToken).length + 1) := by
  rw [head?_dropWhile_isToken] at h
  obtain ⟨hlt, hget⟩ := List.getElem?_eq_some_iff.mp h
  have hcons : buf.dropWhile isToken =
      ' ' :: buf.drop ((buf.takeWhile isToken).length + 1) := by
    rw [← drop_takeWhile_length, List.drop_eq_getElem_cons hlt, hget]
  rw [← hcons, List.takeWhile_append_dropWhile]

theorem drop_first (a b : Text) : (a ++ ' ' :: b).drop (a.length + 1) = b := by
  rw [List.drop_append, List.drop_eq_nil_of_le (by omega), List.nil_append,
    Nat.add_sub_cancel_left]
  rfl

/-- A gap begins with no token. -/
theorem takeWhile_of_gap {gap : Text} (hgap : gap ≠ []) (hspaces : ∀ c ∈ gap, isSpace c = true)
    (t : Text) : (gap ++ t).takeWhile isToken = [] := by
  cases gap with
  | nil => exact absurd rfl hgap
  | cons c gap =>
    refine List.takeWhile_cons_of_neg ?_
    rw [isToken_of_isSpace (hspaces c List.mem_cons_self)]
    exact Bool.false_ne_true

theorem scanned_iff {method uri version tail : Text} :
    Scanned buf method uri version tail ↔ RequestLine buf method uri version tail := by
  constructor
  · rintro ⟨⟨rfl, hmethod⟩, hspace, rfl, hgap, ⟨rfl, hversion⟩, rfl, hends, hnewline⟩
    refine ⟨⟨_, ?_, hgap, fun c => List.mem_takeWhile_imp⟩, ⟨hmethod, fun c => List.mem_takeWhile_imp⟩,
      fun c => List.mem_takeWhile_imp, ⟨hversion, fun c => List.mem_takeWhile_imp⟩, hends, hnewline⟩
    rw [List.takeWhile_append_dropWhile, List.takeWhile_append_dropWhile,
      List.takeWhile_append_dropWhile]
    exact eq_first_append hspace
  · rintro ⟨⟨gap, rfl, hgap, hspaces⟩, hmethod, huri, hversion, hends, hnewline⟩
    have hfirst := @scan_append isToken method
      (' ' :: (uri ++ (gap ++ (version ++ tail)))) hmethod.2 rfl
    have hsecond := @scan_append isToken uri (gap ++ (version ++ tail)) huri
      (takeWhile_of_gap hgap hspaces _)
    have hthird := @scan_append isSpace gap (version ++ tail) hspaces (by
      cases version with
      | nil => exact absurd rfl hversion.1
      | cons c version =>
        refine List.takeWhile_cons_of_neg fun hspace => ?_
        have hc := hversion.2 c List.mem_cons_self
        rw [isToken_of_isSpace hspace] at hc
        cases hc)
    have hfourth := @scan_append isToken version tail hversion.2 (takeWhile_of_lineEnds hends)
    refine ⟨⟨hfirst.1, hmethod.1⟩, by rw [hfirst.2]; rfl, ?_, ?_, ?_, ?_, hends, hnewline⟩
    · rw [drop_first, hsecond.1]
    · rw [drop_first, hsecond.2, hthird.1]
      exact hgap
    · rw [drop_first, hsecond.2, hthird.2]
      exact ⟨hfourth.1, hversion.1⟩
    · rw [drop_first, hsecond.2, hthird.2, hfourth.2]

/-- **A reply line**: the version in any case, ONE space, three digits, space, a reason, and the end of
the line. -/
structure ReplyLine (buf version status reason tail : Text) (code : ℕ) : Prop where
  text : ∃ gap, buf = version ++ ' ' :: (status ++ (gap ++ (reason ++ tail))) ∧ gap ≠ [] ∧
    ∀ c ∈ gap, isSpace c = true
  first : lower version = ['s', 'i', 'p', '/', '2', '.', '0']
  second : statusCode status = some code
  third : (∀ c ∈ reason, isReason c = true) ∧ ∀ c ∈ reason.head?, isSpace c = false
  ends : tail.takeWhile isReason = []
  newline : '\n' ∈ tail

/-- **The parser, with no offsets.** -/
theorem parse_first_line_eq (buf : Text) : parse_first_line buf =
    if buf.length ≤ 16 ∨ (buf.dropWhile isToken).head? ≠ some ' ' then
      .ok (.SIP_INVALID, lineEnd buf)
    else
      let u := buf.drop ((buf.takeWhile isToken).length + 1)
      let v := u.dropWhile isToken
      let w := v.dropWhile isSpace
      match tokenKind (buf.takeWhile isToken) with
      | none => .ok (.SIP_INVALID, lineEnd buf)
      | some (some m) =>
        if v.takeWhile isSpace ≠ [] ∧ w.takeWhile isToken ≠ [] ∧
            lineEnds (w.dropWhile isToken) = true ∧ '\n' ∈ w.dropWhile isToken then
          .ok (.SIP_REQUEST (buf.takeWhile isToken) (u.takeWhile isToken) (w.takeWhile isToken) m,
            buf.length - (w.dropWhile isToken).length + lineEnd (w.dropWhile isToken))
        else .ok (.SIP_INVALID, lineEnd buf)
      | some none =>
        match statusCode (u.takeWhile isToken) with
        | none => .ok (.SIP_INVALID, lineEnd buf)
        | some code =>
          if v.takeWhile isSpace ≠ [] ∧ '\n' ∈ w.dropWhile isReason then
            .ok (.SIP_REPLY (buf.takeWhile isToken) (u.takeWhile isToken) (w.takeWhile isReason)
              code, buf.length - (w.dropWhile isReason).length + lineEnd (w.dropWhile isReason))
          else .ok (.SIP_INVALID, lineEnd buf) := by
  have hbad : ∀ offset ≤ buf.length,
      badFirstLine buf offset = .ok (.SIP_INVALID, lineEnd buf) := fun _ => badFirstLine_eq
  rw [parse_first_line, badMessage_eq]
  by_cases hlen : buf.length ≤ 16
  · rw [if_pos hlen, if_pos (.inl hlen)]
  · rw [if_neg hlen, firstToken_eq (Nat.not_le.mp hlen)]
    by_cases hspace : (buf.dropWhile isToken).head? = some ' '
    · rw [if_pos hspace, if_neg (by simp only [hlen, hspace, ne_eq, not_true, or_self,
        not_false_eq_true])]
      cases hkind : tokenKind (buf.takeWhile isToken) with
      | none => rfl
      | some kind =>
        have hsecond : (buf.takeWhile isToken).length + 1 ≤ buf.length := by
          rw [head?_dropWhile_isToken] at hspace
          exact (List.getElem?_eq_some_iff.mp hspace).1
        -- the offsets, each with what lies behind it
        have htmp := scan_le isToken hsecond
        have hthird := scan_le isSpace htmp
        have hslice := slice_takeWhile isToken buf ((buf.takeWhile isToken).length + 1)
        have hfirst : slice buf 0 (buf.takeWhile isToken).length = buf.takeWhile isToken := by
          have htake := slice_takeWhile isToken buf 0
          rwa [Nat.zero_add, List.drop_zero] at htake
        have hv := drop_add_takeWhile isToken buf ((buf.takeWhile isToken).length + 1)
        have hw := drop_add_takeWhile isSpace buf ((buf.takeWhile isToken).length + 1 +
          ((buf.drop ((buf.takeWhile isToken).length + 1)).takeWhile isToken).length)
        change Except.bind (eat_token_end buf ((buf.takeWhile isToken).length + 1) buf.length) _ = _
        rw [eat_token_end_eq hsecond]
        change (if buf.length ≤ _ then badFirstLine buf ((buf.takeWhile isToken).length + 1)
          else Except.bind (eat_space_end buf ((buf.takeWhile isToken).length + 1 +
            ((buf.drop ((buf.takeWhile isToken).length + 1)).takeWhile isToken).length)
            buf.length) _) = _
        have hdone := length_le_iff isToken buf ((buf.takeWhile isToken).length + 1)
        rw [eat_space_end_eq htmp, hbad _ hsecond]
        generalize (buf.takeWhile isToken).length + 1 = second at *
        generalize hu : buf.drop second = u at *
        generalize second + (u.takeWhile isToken).length = tmp at *
        rw [hv] at hw hthird ⊢
        by_cases hrest : u.dropWhile isToken = []
        · rw [if_pos (hdone.mpr hrest)]
          simp only [hrest, List.takeWhile_nil, ne_eq, not_true, false_and, if_false]
          cases kind with
          | none => cases statusCode (u.takeWhile isToken) <;> rfl
          | some m => rfl
        · rw [if_neg (mt hdone.mp hrest)]
          change (if tmp + _ = tmp then badFirstLine buf _ else _) = _
          simp only [Nat.add_eq_left, List.length_eq_zero_iff]
          by_cases hgap : (u.dropWhile isToken).takeWhile isSpace = []
          · rw [if_pos hgap, hbad _ hthird]
            simp only [hgap, ne_eq, not_true, false_and, if_false]
            cases kind with
            | none => cases statusCode (u.takeWhile isToken) <;> rfl
            | some m => rfl
          · rw [if_neg hgap, hslice, hfirst]
            cases kind with
            | none =>
              cases statusCode (u.takeWhile isToken) with
              | none => exact hbad _ hthird
              | some code =>
                refine Eq.trans (@replyRest_eq buf _ _ (badFirstLine buf) _
                  (fun reason => .SIP_REPLY (buf.takeWhile isToken) (u.takeWhile isToken) reason code)
                  hthird hbad hw) ?_
                simp only [hgap, ne_eq, not_false_eq_true, true_and]
            | some m =>
              refine Eq.trans (@requestRest_eq buf _ _ (badFirstLine buf) _
                (fun version => .SIP_REQUEST (buf.takeWhile isToken) (u.takeWhile isToken) version m)
                hthird hbad hw) ?_
              simp only [hgap, ne_eq, not_false_eq_true, true_and]
    · rw [if_neg hspace, if_pos (.inr hspace)]
      rfl

/-- The parts of a reply line, as the parser scans them. -/
structure ScannedReply (buf version status reason tail : Text) (code : ℕ) : Prop where
  first : buf.takeWhile isToken = version ∧ lower version = ['s', 'i', 'p', '/', '2', '.', '0']
  space : (buf.dropWhile isToken).head? = some ' '
  second : (buf.drop (version.length + 1)).takeWhile isToken = status ∧
    statusCode status = some code
  gap : ((buf.drop (version.length + 1)).dropWhile isToken).takeWhile isSpace ≠ []
  third : (((buf.drop (version.length + 1)).dropWhile isToken).dropWhile isSpace).takeWhile
    isReason = reason
  rest : (((buf.drop (version.length + 1)).dropWhile isToken).dropWhile isSpace).dropWhile
    isReason = tail
  newline : '\n' ∈ tail

theorem dropWhile_takeWhile (goes : Char → Bool) (t : Text) :
    (t.dropWhile goes).takeWhile goes = [] := by
  rw [List.takeWhile_eq_nil_iff]
  intro hpos hgoes
  exact absurd hgoes (List.dropWhile_get_zero_not goes t hpos)

/-- A status has digits only. -/
theorem isToken_of_statusCode {status : Text} {code : ℕ} (h : statusCode status = some code) :
    status ≠ [] ∧ ∀ c ∈ status, isToken c = true := by
  have hdigit : ∀ c : Char, c.isDigit = true → isToken c = true := by
    intro c hc
    rw [isToken, Bool.and_eq_true, Bool.and_eq_true, Bool.and_eq_true, bne_iff_ne, bne_iff_ne,
      bne_iff_ne, bne_iff_ne]
    refine ⟨⟨⟨?_, ?_⟩, ?_⟩, ?_⟩ <;> (rintro rfl; cases hc)
  unfold statusCode at h
  split at h
  case h_1 s1 s2 s3 =>
    by_cases hall : (s1.isDigit && s2.isDigit && s3.isDigit) = true
    · rw [Bool.and_eq_true, Bool.and_eq_true] at hall
      refine ⟨List.cons_ne_nil _ _, fun c hc => ?_⟩
      simp only [List.mem_cons, List.not_mem_nil, or_false] at hc
      rcases hc with rfl | rfl | rfl
      · exact hdigit _ hall.1.1
      · exact hdigit _ hall.1.2
      · exact hdigit _ hall.2
    · rw [if_neg hall] at h
      cases h
  case h_2 => cases h

theorem tokenKind_request {tok : Text} {m : Method} :
    tokenKind tok = some (some m) ↔ tok ≠ [] ∧ methodOf tok = some m := by
  by_cases hsip : lower tok = ['s', 'i', 'p', '/', '2', '.', '0']
  · have hnone : methodOf tok = none := by
      rw [methodOf_of_not_name (by rw [hsip]; decide), hsip]
      rfl
    rw [tokenKind, if_pos hsip, hnone]
    simp
  · rw [tokenKind, if_neg hsip]
    by_cases hnil : tok = []
    · rw [if_pos hnil]
      simp [hnil]
    · rw [if_neg hnil]
      simp [hnil]

theorem tokenKind_reply {tok : Text} :
    tokenKind tok = some none ↔ lower tok = ['s', 'i', 'p', '/', '2', '.', '0'] := by
  rw [tokenKind]
  by_cases hsip : lower tok = ['s', 'i', 'p', '/', '2', '.', '0']
  · rw [if_pos hsip]
    exact iff_of_true rfl hsip
  · rw [if_neg hsip]
    refine iff_of_false ?_ hsip
    split <;> simp

theorem isToken_of_version {version : Text}
    (h : lower version = ['s', 'i', 'p', '/', '2', '.', '0']) : ∀ c ∈ version, isToken c = true := by
  intro c hc
  have hmem : c.toLower ∈ lower version := List.mem_map_of_mem hc
  rw [h] at hmem
  rw [← isToken_toLower]
  have hall : ∀ d ∈ ['s', 'i', 'p', '/', '2', '.', '0'], isToken d = true :=
    List.all_iff_forall_prop.mp rfl
  exact hall _ hmem

theorem scannedReply_iff {version status reason tail : Text} {code : ℕ} :
    ScannedReply buf version status reason tail code ↔
      ReplyLine buf version status reason tail code := by
  constructor
  · rintro ⟨⟨rfl, hversion⟩, hspace, ⟨rfl, hcode⟩, hgap, rfl, rfl, hnewline⟩
    refine ⟨⟨_, ?_, hgap, fun c => List.mem_takeWhile_imp⟩, hversion, hcode,
      ⟨fun c => List.mem_takeWhile_imp, fun c hc => ?_⟩, dropWhile_takeWhile _ _, hnewline⟩
    · rw [List.takeWhile_append_dropWhile, List.takeWhile_append_dropWhile,
        List.takeWhile_append_dropWhile]
      exact eq_first_append hspace
    · -- the gap is behind the status in full
      have hstop := dropWhile_takeWhile isSpace
        ((buf.drop ((buf.takeWhile isToken).length + 1)).dropWhile isToken)
      revert hc hstop
      cases ((buf.drop ((buf.takeWhile isToken).length + 1)).dropWhile isToken).dropWhile
        isSpace with
      | nil => nofun
      | cons d w =>
        intro hc hstop
        by_cases hd : isReason d = true
        · rw [List.takeWhile_cons_of_pos hd] at hc
          cases hc
          by_contra hspace
          rw [Bool.not_eq_false] at hspace
          rw [List.takeWhile_cons_of_pos hspace] at hstop
          cases hstop
        · rw [List.takeWhile_cons_of_neg hd] at hc
          cases hc
  · rintro ⟨⟨gap, rfl, hgap, hspaces⟩, hversion, hcode, ⟨hreason, hhead⟩, hends, hnewline⟩
    have hfirst := @scan_append isToken version
      (' ' :: (status ++ (gap ++ (reason ++ tail)))) (isToken_of_version hversion) rfl
    have hsecond := @scan_append isToken status (gap ++ (reason ++ tail))
      (isToken_of_statusCode hcode).2 (takeWhile_of_gap hgap hspaces _)
    have hthird := @scan_append isSpace gap (reason ++ tail) hspaces (by
      cases reason with
      | nil =>
        cases tail with
        | nil => rfl
        | cons c tail =>
          refine List.takeWhile_cons_of_neg fun hspace => ?_
          have hc : isReason c = true := by
            rw [isSpace, Bool.or_eq_true, beq_iff_eq, beq_iff_eq] at hspace
            rcases hspace with rfl | rfl <;> rfl
          rw [List.takeWhile_cons_of_pos hc] at hends
          cases hends
      | cons c reason =>
        refine List.takeWhile_cons_of_neg ?_
        rw [hhead c rfl]
        exact Bool.false_ne_true)
    have hfourth := @scan_append isReason reason tail hreason hends
    refine ⟨⟨hfirst.1, hversion⟩, by rw [hfirst.2]; rfl, ?_, ?_, ?_, ?_, hnewline⟩
    · rw [drop_first]
      exact ⟨hsecond.1, hcode⟩
    · rw [drop_first, hsecond.2, hthird.1]
      exact hgap
    · rw [drop_first, hsecond.2, hthird.2, hfourth.1]
    · rw [drop_first, hsecond.2, hthird.2, hfourth.2]

/-- A request is what is scanned as one. -/
theorem request_iff {method uri version : Text} {m : Method} {nl : ℕ} :
    parse_first_line buf = .ok (.SIP_REQUEST method uri version m, nl) ↔
      16 < buf.length ∧ methodOf method = some m ∧ ∃ tail, Scanned buf method uri version tail ∧
        nl = buf.length - tail.length + lineEnd tail := by
  rw [parse_first_line_eq]
  constructor
  · intro h
    split at h
    case isTrue => cases h
    case isFalse hline =>
      rw [not_or, Nat.not_le, not_not] at hline
      simp only at h
      split at h
      case h_1 => cases h
      case h_2 m' hkind =>
        split at h
        case isTrue hall =>
          cases h
          obtain ⟨hne, hm⟩ := tokenKind_request.mp hkind
          exact ⟨hline.1, hm, _, ⟨⟨rfl, hne⟩, hline.2, rfl, hall.1, ⟨rfl, hall.2.1⟩, rfl, hall.2.2.1,
            hall.2.2.2⟩, rfl⟩
        case isFalse => cases h
      case h_3 =>
        split at h
        case h_1 => cases h
        case h_2 =>
          split at h <;> cases h
  · rintro ⟨hlen, hm, tail, ⟨⟨rfl, hne⟩, hspace, rfl, hgap, ⟨rfl, hversion⟩, rfl, hends, hnl⟩, rfl⟩
    rw [if_neg (by rw [not_or, Nat.not_le, not_not]; exact ⟨hlen, hspace⟩)]
    simp only [tokenKind_request.mpr ⟨hne, hm⟩]
    rw [if_pos ⟨hgap, hversion, hends, hnl⟩]

theorem reply_iff {version status reason : Text} {code nl : ℕ} :
    parse_first_line buf = .ok (.SIP_REPLY version status reason code, nl) ↔
      16 < buf.length ∧ ∃ tail, ScannedReply buf version status reason tail code ∧
        nl = buf.length - tail.length + lineEnd tail := by
  rw [parse_first_line_eq]
  constructor
  · intro h
    split at h
    case isTrue => cases h
    case isFalse hline =>
      rw [not_or, Nat.not_le, not_not] at hline
      simp only at h
      split at h
      case h_1 => cases h
      case h_2 =>
        split at h <;> cases h
      case h_3 hkind =>
        split at h
        case h_1 => cases h
        case h_2 code' hcode =>
          split at h
          case isTrue hall =>
            cases h
            exact ⟨hline.1, _, ⟨⟨rfl, tokenKind_reply.mp hkind⟩, hline.2, ⟨rfl, hcode⟩, hall.1, rfl,
              rfl, hall.2⟩, rfl⟩
          case isFalse => cases h
  · rintro ⟨hlen, tail, ⟨⟨rfl, hversion⟩, hspace, ⟨rfl, hcode⟩, hgap, rfl, rfl, hnl⟩, rfl⟩
    rw [if_neg (by rw [not_or, Nat.not_le, not_not]; exact ⟨hlen, hspace⟩)]
    simp only [tokenKind_reply.mpr hversion, hcode]
    rw [if_pos ⟨hgap, hnl⟩]

/-- No read leaves the datagram, and neither does what is returned. -/
theorem first_line_returns (buf : Text) : ∃ start nl, parse_first_line buf = .ok (start, nl) ∧
    nl ≤ buf.length := by
  have hrest : ∀ t : Text, t.length ≤ buf.length → buf.length - t.length + lineEnd t ≤ buf.length := by
    intro t ht
    have hle := lineEnd_le t
    omega
  have hdrop : ∀ n (goes goes' goes'' : Char → Bool),
      ((((buf.drop n).dropWhile goes).dropWhile goes').dropWhile goes'').length ≤ buf.length := by
    intro n goes goes' goes''
    refine ((List.dropWhile_suffix goes'').trans ((List.dropWhile_suffix goes').trans
      ((List.dropWhile_suffix goes).trans (List.drop_suffix n buf)))).length_le
  rw [parse_first_line_eq]
  simp only
  split
  · exact ⟨_, _, rfl, lineEnd_le buf⟩
  · split
    · exact ⟨_, _, rfl, lineEnd_le buf⟩
    · split
      · exact ⟨_, _, rfl, hrest _ (hdrop _ _ _ _)⟩
      · exact ⟨_, _, rfl, lineEnd_le buf⟩
    · split
      · exact ⟨_, _, rfl, lineEnd_le buf⟩
      · split
        · exact ⟨_, _, rfl, hrest _ (hdrop _ _ _ _)⟩
        · exact ⟨_, _, rfl, lineEnd_le buf⟩

/-- **What the first line is.**  No datagram takes the parser out of its bounds.  It accepts the
request lines and the reply lines of messages over 16 bytes, each with the parts that stand there,
and returns where the next line begins. -/
theorem parse_first_line_iff (buf : Text) :
    (∃ start nl, parse_first_line buf = .ok (start, nl) ∧ nl ≤ buf.length) ∧
      (∀ method uri version m nl,
        parse_first_line buf = .ok (.SIP_REQUEST method uri version m, nl) ↔
          16 < buf.length ∧ methodOf method = some m ∧ ∃ tail,
            RequestLine buf method uri version tail ∧
              nl = buf.length - tail.length + lineEnd tail) ∧
      ∀ version status reason code nl,
        parse_first_line buf = .ok (.SIP_REPLY version status reason code, nl) ↔
          16 < buf.length ∧ ∃ tail, ReplyLine buf version status reason tail code ∧
            nl = buf.length - tail.length + lineEnd tail := by
  refine ⟨first_line_returns buf, fun method uri version m nl => ?_,
    fun version status reason code nl => ?_⟩
  · simp only [request_iff, scanned_iff]
  · simp only [reply_iff, scannedReply_iff]

end Line

end CallFwd.Sip
