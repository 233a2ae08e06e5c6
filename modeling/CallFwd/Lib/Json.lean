/-
# JSON texts (RFC 8259)

`Json.parse` is the standard parser, as a function on bytes: whitespace between tokens, no control
character in a string, no leading zero in a number, and nothing behind the value.  Members of an
object are kept as they stand, in their order and with repetitions.

Recursion is on `fuel`; no call needs more of it than it reads characters, so the length of the text
is enough.

Three things are proved of it.  `parse_legal`: a text that is accepted has no control character but
whitespace.  One lemma for each kind of value, in section 4, says what the parser does with it in
front of any rest, so that a text that is put together from pieces is parsed piece by piece.  And in
section 5 an object is pasted together with texts between quotes that nothing escapes: it gives the
texts back if they are plain, and only then (`plain_of_parse_pastedObject`).
-/
import CallFwd.Lib.Decimal

namespace CallFwd.Lib

inductive Json
  | null
  | bool (b : Bool)
  /-- A number without fraction and exponent. -/
  | int (n : ℤ)
  /-- `mantissa` times ten to the power `exponent`. -/
  | decimal (mantissa exponent : ℤ)
  | str (s : List Char)
  | arr (elems : List Json)
  | obj (members : List (List Char × Json))
deriving Repr

namespace Json

/-! ## 1. Strings and numbers -/

def isWs (c : Char) : Bool := c == ' ' || c == '\t' || c == '\n' || c == '\r'

def hexValue (c : Char) : Option ℕ :=
  if c.isDigit then some (c.toNat - 48)
  else if 'a' ≤ c ∧ c ≤ 'f' then some (c.toNat - 87)
  else if 'A' ≤ c ∧ c ≤ 'F' then some (c.toNat - 55)
  else none

def hex4 (a b c d : Char) : Option ℕ := do
  return (((← hexValue a) * 16 + (← hexValue b)) * 16 + (← hexValue c)) * 16 + (← hexValue d)

/-- The bytes of a code point in UTF-8. -/
def utf8 (n : ℕ) : List Char :=
  if n < 0x80 then [Char.ofNat n]
  else if n < 0x800 then [Char.ofNat (0xc0 + n / 64), Char.ofNat (0x80 + n % 64)]
  else if n < 0x10000 then
    [Char.ofNat (0xe0 + n / 4096), Char.ofNat (0x80 + n / 64 % 64), Char.ofNat (0x80 + n % 64)]
  else
    [Char.ofNat (0xf0 + n / 262144), Char.ofNat (0x80 + n / 4096 % 64),
      Char.ofNat (0x80 + n / 64 % 64), Char.ofNat (0x80 + n % 64)]

/-- The escapes of one character. -/
def simpleEscape (c : Char) : Option Char :=
  match c with
  | '\x22' => some '\x22'
  | '\x5c' => some '\x5c'
  | '/' => some '/'
  | 'b' => some '\x08'
  | 'f' => some '\x0c'
  | 'n' => some '\n'
  | 'r' => some '\r'
  | 't' => some '\t'
  | _ => none

/-- A string behind its opening quote: its bytes, and what follows the closing one. -/
def strBody : List Char → Option (List Char × List Char)
  | [] => none
  | c :: t =>
    if c = '\x22' then some ([], t)
    else if c.toNat < 0x20 then none
    else if c ≠ '\x5c' then (strBody t).map fun r => (c :: r.1, r.2)
    else
      match t with
      | [] => none
      | 'u' :: a :: b :: c :: d :: t =>
        match hex4 a b c d with
        | none => none
        | some n =>
          if 0xd800 ≤ n ∧ n < 0xdc00 then
            -- the first half of a pair of surrogates; the other half has to follow
            match t with
            | '\x5c' :: 'u' :: e :: f :: g :: h :: t =>
              match hex4 e f g h with
              | none => none
              | some m =>
                if 0xdc00 ≤ m ∧ m < 0xe000 then
                  (strBody t).map fun r =>
                    (utf8 (0x10000 + (n - 0xd800) * 1024 + (m - 0xdc00)) ++ r.1, r.2)
                else none
            | _ => none
          else if 0xdc00 ≤ n ∧ n < 0xe000 then none
          else (strBody t).map fun r => (utf8 n ++ r.1, r.2)
      | e :: t =>
        match simpleEscape e with
        | none => none
        | some c => (strBody t).map fun r => (c :: r.1, r.2)

/-- A run of digits, at least one. -/
def digits (t : List Char) : Option (List Char × List Char) :=
  if t.takeWhile Char.isDigit = [] then none
  else some (t.takeWhile Char.isDigit, t.dropWhile Char.isDigit)

/-- The digits behind a point, if there is one. -/
def fraction : List Char → Option (List Char × List Char)
  | '.' :: t => digits t
  | t => some ([], t)

/-- The number behind an `e`, if there is one. -/
def exponent : List Char → Option (Option ℤ × List Char)
  | [] => some (none, [])
  | c :: t =>
    if c = 'e' ∨ c = 'E' then
      match t with
      | '-' :: t => (digits t).map fun r => (some (-(Nat.ofDigitChars 10 r.1 0 : ℤ)), r.2)
      | '+' :: t => (digits t).map fun r => (some (Nat.ofDigitChars 10 r.1 0 : ℤ), r.2)
      | t => (digits t).map fun r => (some (Nat.ofDigitChars 10 r.1 0 : ℤ), r.2)
    else some (none, c :: t)

/-- A number behind its sign. -/
def unsigned (sign : ℤ) (t : List Char) : Option (Json × List Char) := do
  let (whole, t) ← digits t
  if 1 < whole.length ∧ whole.head? = some '0' then none
  else
    let (frac, t) ← fraction t
    let (exp, t) ← exponent t
    if frac = [] ∧ exp = none then some (.int (sign * Nat.ofDigitChars 10 whole 0), t)
    else
      some (.decimal (sign * Nat.ofDigitChars 10 (whole ++ frac) 0) (exp.getD 0 - frac.length), t)

def number : List Char → Option (Json × List Char)
  | '-' :: t => unsigned (-1) t
  | t => unsigned 1 t

/-! ## 2. Values -/

/-- A word, and the value it stands for. -/
def word (w : List Char) (j : Json) (t : List Char) : Option (Json × List Char) :=
  if w.isPrefixOf t then some (j, t.drop w.length) else none

mutual

def value : ℕ → List Char → Option (Json × List Char)
  | 0, _ => none
  | fuel + 1, t =>
    match t.dropWhile isWs with
    | [] => none
    | c :: t =>
      if c = '\x22' then (strBody t).map fun r => (.str r.1, r.2)
      else if c = '\x7b' then
        if (t.dropWhile isWs).head? = some '\x7d' then some (.obj [], (t.dropWhile isWs).tail)
        else (members fuel t).map fun r => (.obj r.1, r.2)
      else if c = '[' then
        if (t.dropWhile isWs).head? = some ']' then some (.arr [], (t.dropWhile isWs).tail)
        else (elements fuel t).map fun r => (.arr r.1, r.2)
      else if c = 't' then word ['r', 'u', 'e'] (.bool true) t
      else if c = 'f' then word ['a', 'l', 's', 'e'] (.bool false) t
      else if c = 'n' then word ['u', 'l', 'l'] .null t
      else number (c :: t)

/-- The elements of an array, up to and with its bracket. -/
def elements : ℕ → List Char → Option (List Json × List Char)
  | 0, _ => none
  | fuel + 1, t => do
    let (j, t) ← value fuel t
    match t.dropWhile isWs with
    | ',' :: t => (elements fuel t).map fun r => (j :: r.1, r.2)
    | ']' :: t => some ([j], t)
    | _ => none

/-- The members of an object, up to and with its brace. -/
def members : ℕ → List Char → Option (List (List Char × Json) × List Char)
  | 0, _ => none
  | fuel + 1, t =>
    match t.dropWhile isWs with
    | '\x22' :: t => do
      let (name, t) ← strBody t
      match t.dropWhile isWs with
      | ':' :: t => do
        let (j, t) ← value fuel t
        match t.dropWhile isWs with
        | ',' :: t => (members fuel t).map fun r => ((name, j) :: r.1, r.2)
        | '\x7d' :: t => some ([(name, j)], t)
        | _ => none
      | _ => none
    | _ => none

end

/-- **The value of a text.** -/
def parse (t : List Char) : Option Json := do
  let (j, rest) ← value (t.length + 1) t
  if rest.all isWs then some j else none

/-! ## 3. What is accepted -/

/-- A character that may stand in a text: no control character but whitespace. -/
def Legal (c : Char) : Prop := 0x20 ≤ c.toNat ∨ isWs c = true

/-- `rest` is what is left of `t` behind legal characters. -/
def Reads (t rest : List Char) : Prop := ∃ used, t = used ++ rest ∧ ∀ c ∈ used, Legal c

namespace Reads

variable {t u rest : List Char} {c : Char}

theorem refl (t : List Char) : Reads t t := ⟨[], rfl, by simp⟩

theorem cons (hc : Legal c) (h : Reads t rest) : Reads (c :: t) rest := by
  obtain ⟨used, rfl, hused⟩ := h
  exact ⟨c :: used, rfl, by simpa using ⟨hc, hused⟩⟩

theorem trans (h : Reads t u) (h' : Reads u rest) : Reads t rest := by
  obtain ⟨used, rfl, hused⟩ := h
  obtain ⟨used', rfl, hused'⟩ := h'
  refine ⟨used ++ used', by simp, ?_⟩
  intro c hc
  rcases List.mem_append.mp hc with hc | hc
  · exact hused c hc
  · exact hused' c hc

theorem dropWhile {p : Char → Bool} (hp : ∀ c, p c = true → Legal c) (t : List Char) :
    Reads t (t.dropWhile p) :=
  ⟨t.takeWhile p, List.takeWhile_append_dropWhile.symm,
    fun c hc => hp c (List.mem_takeWhile_imp hc)⟩

end Reads

theorem reads_ws (t : List Char) : Reads t (t.dropWhile isWs) := Reads.dropWhile (fun _ => Or.inr) t

theorem legal_digit {c : Char} (h : c.isDigit = true) : Legal c := by
  obtain ⟨h, -⟩ := digit_bounds h
  exact Or.inl (by omega)

theorem legal_hex {c : Char} {n : ℕ} (h : hexValue c = some n) : Legal c := by
  unfold hexValue at h
  split at h
  · rename_i hdigit
    exact legal_digit hdigit
  · split at h
    · rename_i hc
      exact Or.inl (le_trans (by decide) (show 97 ≤ c.toNat from hc.1))
    · split at h
      · rename_i hc
        exact Or.inl (le_trans (by decide) (show 65 ≤ c.toNat from hc.1))
      · cases h

theorem legal_hex4 {a b c d : Char} {n : ℕ} (h : hex4 a b c d = some n) :
    Legal a ∧ Legal b ∧ Legal c ∧ Legal d := by
  cases ha : hexValue a with
  | none => simp [hex4, ha] at h
  | some x =>
    cases hb : hexValue b with
    | none => simp [hex4, ha, hb] at h
    | some y =>
      cases hc : hexValue c with
      | none => simp [hex4, ha, hb, hc] at h
      | some z =>
        cases hd : hexValue d with
        | none => simp [hex4, ha, hb, hc, hd] at h
        | some w => exact ⟨legal_hex ha, legal_hex hb, legal_hex hc, legal_hex hd⟩

theorem legal_simpleEscape {c e : Char} (h : simpleEscape e = some c) : Legal e := by
  unfold simpleEscape at h
  split at h
  all_goals first | exact Or.inl (by decide) | cases h

/-- What is done to the value does not change what is left of the text. -/
theorem rest_of_map {α β : Type} {x : Option (α × List Char)} {f : α × List Char → β} {b : β}
    {rest : List Char} (h : (x.map fun r => (f r, r.2)) = some (b, rest)) :
    ∃ a, x = some (a, rest) := by
  obtain ⟨⟨a, rest'⟩, hx, he⟩ := Option.map_eq_some_iff.mp h
  cases he
  exact ⟨a, hx⟩

theorem reads_strBody {t s rest : List Char} (h : strBody t = some (s, rest)) : Reads t rest := by
  fun_induction strBody t generalizing s with
  | case2 t =>
    cases h
    exact (Reads.refl _).cons (Or.inl (by decide))
  | case4 c t hquote hcontrol hescape ih =>
    obtain ⟨a, ha⟩ := rest_of_map h
    exact (ih ha).cons (Or.inl (by omega))
  | case8 c _ hcontrol _ a b c' d n hhex _ e f g h' t m hhex' _ ih =>
    obtain ⟨r, hr⟩ := rest_of_map h
    obtain ⟨ha, hb, hc, hd⟩ := legal_hex4 hhex
    obtain ⟨he, hf, hg, hh⟩ := legal_hex4 hhex'
    have hu : Legal 'u' := Or.inl (by decide)
    have hescape : Legal '\x5c' := Or.inl (by decide)
    have hsecond := ((((((ih hr).cons hh).cons hg).cons hf).cons he).cons hu).cons hescape
    have hfirst := ((((hsecond.cons hd).cons hc).cons hb).cons ha).cons hu
    exact hfirst.cons (Or.inl (by omega))
  | case12 c _ hcontrol _ a b c' d t n hhex _ _ ih =>
    obtain ⟨r, hr⟩ := rest_of_map h
    obtain ⟨ha, hb, hc, hd⟩ := legal_hex4 hhex
    have hu : Legal 'u' := Or.inl (by decide)
    exact ((((((ih hr).cons hd).cons hc).cons hb).cons ha).cons hu).cons (Or.inl (by omega))
  | case14 c _ hcontrol _ e t _ c' hesc ih =>
    obtain ⟨r, hr⟩ := rest_of_map h
    exact ((ih hr).cons (legal_simpleEscape hesc)).cons (Or.inl (by omega))
  | _ => cases h

theorem reads_digits {t ds rest : List Char} (h : digits t = some (ds, rest)) : Reads t rest := by
  unfold digits at h
  split at h
  · cases h
  · cases h
    exact Reads.dropWhile (fun _ => legal_digit) t

theorem reads_fraction {t ds rest : List Char} (h : fraction t = some (ds, rest)) :
    Reads t rest := by
  unfold fraction at h
  split at h
  · exact (reads_digits h).cons (Or.inl (by decide))
  · cases h
    exact Reads.refl _

theorem reads_exponent {t rest : List Char} {e : Option ℤ} (h : exponent t = some (e, rest)) :
    Reads t rest := by
  unfold exponent at h
  split at h
  · cases h
    exact Reads.refl _
  · rename_i c t
    split at h
    · rename_i hc
      have hlegal : Legal c := by
        rcases hc with rfl | rfl
        · exact Or.inl (by decide)
        · exact Or.inl (by decide)
      split at h
      all_goals
        obtain ⟨ds, hds⟩ := rest_of_map h
      · exact ((reads_digits hds).cons (Or.inl (by decide))).cons hlegal
      · exact ((reads_digits hds).cons (Or.inl (by decide))).cons hlegal
      · exact (reads_digits hds).cons hlegal
    · cases h
      exact Reads.refl _

theorem reads_unsigned {sign : ℤ} {t rest : List Char} {j : Json}
    (h : unsigned sign t = some (j, rest)) : Reads t rest := by
  unfold unsigned at h
  obtain ⟨⟨whole, t₁⟩, hwhole, h⟩ := Option.bind_eq_some_iff.mp h
  simp only at h
  split at h
  · cases h
  · obtain ⟨⟨frac, t₂⟩, hfrac, h⟩ := Option.bind_eq_some_iff.mp h
    obtain ⟨⟨exp, t₃⟩, hexp, h⟩ := Option.bind_eq_some_iff.mp h
    have hreads := ((reads_digits hwhole).trans (reads_fraction hfrac)).trans (reads_exponent hexp)
    simp only at h
    split at h
    · cases h
      exact hreads
    · cases h
      exact hreads

theorem reads_number {t rest : List Char} {j : Json} (h : number t = some (j, rest)) :
    Reads t rest := by
  unfold number at h
  split at h
  · exact (reads_unsigned h).cons (Or.inl (by decide))
  · exact reads_unsigned h

theorem reads_word {w t rest : List Char} {j j' : Json} (hw : ∀ c ∈ w, Legal c)
    (h : word w j t = some (j', rest)) : Reads t rest := by
  unfold word at h
  split at h
  · rename_i hpre
    cases h
    obtain ⟨u, rfl⟩ := List.isPrefixOf_iff_prefix.mp hpre
    exact ⟨w, by simp, hw⟩
  · cases h

section Step

variable {fuel : ℕ}

/-- A closing bracket, behind whitespace. -/
theorem reads_close {close : Char} {t : List Char} (hclose : Legal close)
    (h : (t.dropWhile isWs).head? = some close) : Reads t (t.dropWhile isWs).tail := by
  refine (reads_ws t).trans ?_
  obtain ⟨u, hu⟩ := List.head?_eq_some_iff.mp h
  rw [hu]
  exact (Reads.refl u).cons hclose

theorem reads_value_step
    (ihe : ∀ {t rest : List Char} {js : List Json},
      elements fuel t = some (js, rest) → Reads t rest)
    (ihm : ∀ {t rest : List Char} {ms : List (List Char × Json)},
      members fuel t = some (ms, rest) → Reads t rest) {t rest : List Char} {j : Json}
    (h : value (fuel + 1) t = some (j, rest)) : Reads t rest := by
  refine (reads_ws t).trans ?_
  rw [value] at h
  split at h
  · cases h
  · rename_i c u hws
    rw [hws]
    split_ifs at h with hstr hobj hclose harr hclose' htrue hfalse hnull
    · obtain ⟨s, hs⟩ := rest_of_map h
      exact (reads_strBody hs).cons (hstr ▸ Or.inl (by decide))
    · cases h
      exact (reads_close (Or.inl (by decide)) hclose).cons (hobj ▸ Or.inl (by decide))
    · obtain ⟨ms, hms⟩ := rest_of_map h
      exact (ihm hms).cons (hobj ▸ Or.inl (by decide))
    · cases h
      exact (reads_close (Or.inl (by decide)) hclose').cons (harr ▸ Or.inl (by decide))
    · obtain ⟨js, hjs⟩ := rest_of_map h
      exact (ihe hjs).cons (harr ▸ Or.inl (by decide))
    · exact (reads_word (by simp [Legal]) h).cons (htrue ▸ Or.inl (by decide))
    · exact (reads_word (by simp [Legal]) h).cons (hfalse ▸ Or.inl (by decide))
    · exact (reads_word (by simp [Legal]) h).cons (hnull ▸ Or.inl (by decide))
    · exact reads_number h

theorem reads_elements_step
    (ihv : ∀ {t rest : List Char} {j : Json}, value fuel t = some (j, rest) → Reads t rest)
    (ihe : ∀ {t rest : List Char} {js : List Json},
      elements fuel t = some (js, rest) → Reads t rest)
    {t rest : List Char} {js : List Json} (h : elements (fuel + 1) t = some (js, rest)) :
    Reads t rest := by
  rw [elements] at h
  obtain ⟨⟨j, u⟩, hj, h⟩ := Option.bind_eq_some_iff.mp h
  refine (ihv hj).trans ((reads_ws u).trans ?_)
  simp only at h
  split at h
  · rename_i u' hws
    obtain ⟨js', hjs⟩ := rest_of_map h
    rw [hws]
    exact (ihe hjs).cons (Or.inl (by decide))
  · rename_i u' hws
    cases h
    rw [hws]
    exact (Reads.refl _).cons (Or.inl (by decide))
  · cases h

theorem reads_members_step
    (ihv : ∀ {t rest : List Char} {j : Json}, value fuel t = some (j, rest) → Reads t rest)
    (ihm : ∀ {t rest : List Char} {ms : List (List Char × Json)},
      members fuel t = some (ms, rest) → Reads t rest) {t rest : List Char}
    {ms : List (List Char × Json)} (h : members (fuel + 1) t = some (ms, rest)) : Reads t rest := by
  refine (reads_ws t).trans ?_
  rw [members] at h
  split at h
  · rename_i u hws
    obtain ⟨⟨name, u₁⟩, hname, h⟩ := Option.bind_eq_some_iff.mp h
    rw [hws]
    refine Reads.cons (Or.inl (by decide)) ((reads_strBody hname).trans ((reads_ws u₁).trans ?_))
    simp only at h
    split at h
    · rename_i u₂ hws₂
      obtain ⟨⟨j, u₃⟩, hj, h⟩ := Option.bind_eq_some_iff.mp h
      rw [hws₂]
      refine Reads.cons (Or.inl (by decide)) ((ihv hj).trans ((reads_ws u₃).trans ?_))
      simp only at h
      split at h
      · rename_i u₄ hws₄
        obtain ⟨ms', hms⟩ := rest_of_map h
        rw [hws₄]
        exact (ihm hms).cons (Or.inl (by decide))
      · rename_i u₄ hws₄
        cases h
        rw [hws₄]
        exact (Reads.refl _).cons (Or.inl (by decide))
      · cases h
    · cases h
  · cases h

end Step

/-- **The run of the parser**: it leaves what stands behind the legal characters it has read. -/
theorem reads_fuel (fuel : ℕ) :
    (∀ {t rest : List Char} {j : Json}, value fuel t = some (j, rest) → Reads t rest) ∧
    (∀ {t rest : List Char} {js : List Json}, elements fuel t = some (js, rest) → Reads t rest) ∧
    ∀ {t rest : List Char} {ms : List (List Char × Json)}, members fuel t = some (ms, rest) →
      Reads t rest := by
  induction fuel with
  | zero =>
    refine ⟨?_, ?_, ?_⟩
    · intro t rest j h
      simp [value] at h
    · intro t rest js h
      simp [elements] at h
    · intro t rest ms h
      simp [members] at h
  | succ fuel ih =>
    obtain ⟨ihv, ihe, ihm⟩ := ih
    exact ⟨reads_value_step ihe ihm, reads_elements_step ihv ihe, reads_members_step ihv ihm⟩

/-- **A text that is accepted is legal**, from its first character to its last. -/
theorem parse_legal {t : List Char} {j : Json} (h : parse t = some j) : ∀ c ∈ t, Legal c := by
  obtain ⟨⟨j', rest⟩, hvalue, h⟩ := Option.bind_eq_some_iff.mp h
  simp only at h
  split at h
  · rename_i hws
    obtain ⟨used, rfl, hused⟩ := (reads_fuel _).1 hvalue
    intro c hc
    rcases List.mem_append.mp hc with hc | hc
    · exact hused c hc
    · exact Or.inr (List.all_eq_true.mp hws c hc)
  · cases h

/-! ## 4. Texts put together from pieces -/

/-- A text that stands for itself in a string. -/
def Plain (s : List Char) : Prop := ∀ c ∈ s, c ≠ '\x22' ∧ c ≠ '\x5c' ∧ 0x20 ≤ c.toNat

instance (s : List Char) : Decidable (Plain s) :=
  List.decidableBAll (fun c => c ≠ '\x22' ∧ c ≠ '\x5c' ∧ 0x20 ≤ c.toNat) s

section Pieces

variable {fuel : ℕ} {s name t u rest : List Char} {j : Json}

theorem strBody_plain (hs : Plain s) (rest : List Char) :
    strBody (s ++ '\x22' :: rest) = some (s, rest) := by
  induction s with
  | nil =>
    rw [List.nil_append, strBody.eq_def]
    rfl
  | cons c s ih =>
    obtain ⟨hquote, hescape, hcontrol⟩ := hs c List.mem_cons_self
    rw [List.cons_append, strBody.eq_def]
    simp only [if_neg hquote, if_neg (Nat.not_lt.mpr hcontrol), if_pos hescape,
      ih fun d hd => hs d (List.mem_cons_of_mem c hd)]
    rfl

theorem value_str (hs : Plain s) (rest : List Char) :
    value (fuel + 1) ('\x22' :: (s ++ '\x22' :: rest)) = some (.str s, rest) := by
  simp only [value, List.dropWhile_cons_of_neg (show ¬ isWs '\x22' = true by decide), if_true,
    strBody_plain hs, Option.map_some]

/-- An object with members. -/
theorem value_obj {ms : List (List Char × Json)}
    (h : members fuel ('\x22' :: t) = some (ms, rest)) :
    value (fuel + 1) ('\x7b' :: '\x22' :: t) = some (.obj ms, rest) := by
  simp only [value, List.dropWhile_cons_of_neg (show ¬ isWs '\x7b' = true by decide),
    List.dropWhile_cons_of_neg (show ¬ isWs '\x22' = true by decide), h]
  rfl

/-- An array with elements, the first one a string. -/
theorem value_arr {js : List Json} (h : elements fuel ('\x22' :: t) = some (js, rest)) :
    value (fuel + 1) ('[' :: '\x22' :: t) = some (.arr js, rest) := by
  simp only [value, List.dropWhile_cons_of_neg (show ¬ isWs '[' = true by decide),
    List.dropWhile_cons_of_neg (show ¬ isWs '\x22' = true by decide), h]
  rfl

/-- What is read behind a name. -/
theorem members_name (hname : Plain name) (t : List Char) :
    members (fuel + 1) ('\x22' :: (name ++ '\x22' :: ':' :: t)) =
      (value fuel t).bind fun r =>
        match r.2.dropWhile isWs with
        | ',' :: u => (members fuel u).map fun q => ((name, r.1) :: q.1, q.2)
        | '\x7d' :: u => some ([(name, r.1)], u)
        | _ => none := by
  simp only [members, List.dropWhile_cons_of_neg (show ¬ isWs '\x22' = true by decide),
    strBody_plain hname, List.dropWhile_cons_of_neg (show ¬ isWs ':' = true by decide), bind,
    Option.bind]

theorem members_cons (hname : Plain name) (h : value fuel t = some (j, ',' :: u)) :
    members (fuel + 1) ('\x22' :: (name ++ '\x22' :: ':' :: t)) =
      (members fuel u).map fun r => ((name, j) :: r.1, r.2) := by
  rw [members_name hname, h, Option.bind_some,
    List.dropWhile_cons_of_neg (show ¬ isWs ',' = true by decide)]
  rfl

theorem members_last (hname : Plain name) (h : value fuel t = some (j, '\x7d' :: u)) :
    members (fuel + 1) ('\x22' :: (name ++ '\x22' :: ':' :: t)) = some ([(name, j)], u) := by
  rw [members_name hname, h, Option.bind_some,
    List.dropWhile_cons_of_neg (show ¬ isWs '\x7d' = true by decide)]
  rfl

theorem elements_cons (h : value fuel t = some (j, ',' :: u)) :
    elements (fuel + 1) t = (elements fuel u).map fun r => (j :: r.1, r.2) := by
  simp only [elements, h, List.dropWhile_cons_of_neg (show ¬ isWs ',' = true by decide), bind,
    Option.bind]

theorem elements_last (h : value fuel t = some (j, ']' :: u)) :
    elements (fuel + 1) t = some ([j], u) := by
  simp only [elements, h, List.dropWhile_cons_of_neg (show ¬ isWs ']' = true by decide), bind,
    Option.bind]

/-- The strings of an array, joined behind the opening quote of the first one. -/
theorem elements_strings {ss : List (List Char)} (hs : Plain s) (hss : ∀ s ∈ ss, Plain s)
    (hfuel : ss.length < fuel) (rest : List Char) :
    elements (fuel + 1) ('\x22' :: (['\x22', ',', '\x22'].intercalate (s :: ss) ++
      '\x22' :: ']' :: rest)) = some ((s :: ss).map .str, rest) := by
  induction ss generalizing s fuel with
  | nil =>
    obtain ⟨fuel, rfl⟩ := Nat.exists_eq_succ_of_ne_zero (Nat.ne_of_gt hfuel)
    rw [List.intercalate_singleton]
    exact elements_last (value_str hs _)
  | cons s' ss ih =>
    obtain ⟨fuel, rfl⟩ := Nat.exists_eq_succ_of_ne_zero (Nat.ne_of_gt (Nat.zero_lt_of_lt hfuel))
    have hrest := @ih fuel s' (hss s' List.mem_cons_self)
      (fun x hx => hss x (List.mem_cons_of_mem s' hx)) (Nat.lt_of_succ_lt_succ hfuel)
    have htext : ['\x22', ',', '\x22'].intercalate (s :: s' :: ss) ++ '\x22' :: ']' :: rest =
        s ++ '\x22' :: ',' :: '\x22' :: (['\x22', ',', '\x22'].intercalate (s' :: ss) ++
          '\x22' :: ']' :: rest) := by
      simp [List.intercalate]
    rw [htext, elements_cons (value_str hs _), hrest]
    rfl

/-- A run of digits that nothing continues. -/
theorem digits_append {ds : List Char} (hds : Digits ds) (hne : ds ≠ [])
    (hrest : ∀ c ∈ rest.head?, c.isDigit = false) : digits (ds ++ rest) = some (ds, rest) := by
  have htake : rest.takeWhile Char.isDigit = [] ∧ rest.dropWhile Char.isDigit = rest := by
    cases rest with
    | nil => exact ⟨rfl, rfl⟩
    | cons c t =>
      have hc : ¬ c.isDigit = true := by simp [hrest c (by simp)]
      exact ⟨List.takeWhile_cons_of_neg hc, List.dropWhile_cons_of_neg hc⟩
  rw [digits, List.takeWhile_append_of_pos hds, List.dropWhile_append_of_pos hds, htake.1, htake.2,
    List.append_nil, if_neg hne]

/-- Digits, in front of something that is no part of a number. -/
theorem unsigned_int (n : ℕ)
    (hrest : ∀ c ∈ rest.head?, c.isDigit = false ∧ c ≠ '.' ∧ c ≠ 'e' ∧ c ≠ 'E') :
    unsigned 1 (Nat.toDigits 10 n ++ rest) = some (.int n, rest) := by
  have hspan := digits_append (digits_toDigits n) Nat.toDigits_ne_nil fun c hc => (hrest c hc).1
  have hfraction : fraction rest = some ([], rest) := by
    unfold fraction
    split
    · exact absurd rfl (hrest '.' (by simp)).2.1
    · rfl
  have hexponent : exponent rest = some (none, rest) := by
    unfold exponent
    split
    · rfl
    · rename_i c t
      obtain ⟨-, -, he, hE⟩ := hrest c (by simp)
      rw [if_neg (by simp [he, hE])]
  rw [unsigned, hspan]
  change (if _ then none else _) = _
  rw [if_neg fun h => head_toDigits_ne_zero h.1 h.2, hfraction]
  change (exponent rest >>= _) = _
  rw [hexponent]
  simp [Nat.ofDigitChars_toDigits]

theorem value_int (n : ℕ)
    (hrest : ∀ c ∈ rest.head?, c.isDigit = false ∧ c ≠ '.' ∧ c ≠ 'e' ∧ c ≠ 'E') :
    value (fuel + 1) (Nat.toDigits 10 n ++ rest) = some (.int n, rest) := by
  have hnumber := unsigned_int n hrest
  obtain ⟨d, ds, hds⟩ := List.exists_cons_of_ne_nil (@Nat.toDigits_ne_nil n 10)
  have hdig : d.isDigit = true := (Digits.cons_iff.mp (hds ▸ digits_toDigits n)).1
  rw [hds, List.cons_append] at hnumber ⊢
  have hne : ∀ c : Char, c.isDigit = false → d ≠ c := by
    intro c hc e
    rw [← e, hdig] at hc
    cases hc
  have hws : ¬ isWs d = true := by
    simp only [isWs, Bool.or_eq_true, beq_iff_eq, not_or]
    exact ⟨⟨⟨hne _ rfl, hne _ rfl⟩, hne _ rfl⟩, hne _ rfl⟩
  rw [value, List.dropWhile_cons_of_neg hws]
  simp only [if_neg (hne '\x22' rfl), if_neg (hne '\x7b' rfl), if_neg (hne '[' rfl),
    if_neg (hne 't' rfl), if_neg (hne 'f' rfl), if_neg (hne 'n' rfl)]
  unfold number
  split
  · rename_i heq
    exact absurd (List.cons.inj heq).1 (hne '-' rfl)
  · exact hnumber

end Pieces

/-! ## 5. Texts pasted between quotes -/

section Pasted

variable {fuel : ℕ} {a s t u rest : List Char}

/-- What a string can be whose first quote stands behind `a`: `a` itself if `a` is plain, shorter,
or with a quote where `a` has none. -/
def ShortOf (a s : List Char) : Prop :=
  (Plain a ∧ s = a) ∨ s.length < a.length ∨ ∃ i < a.length, s[i]? = some '\x22'

/-- An escape is longer than what it stands for. -/
theorem ShortOf.append {p x : List Char} (h : ShortOf a s) (hlt : x.length < p.length) :
    ShortOf (p ++ a) (x ++ s) := by
  rcases h with ⟨-, rfl⟩ | hlen | ⟨i, hi, hquote⟩
  · refine Or.inr (Or.inl ?_)
    rw [List.length_append, List.length_append]
    omega
  · refine Or.inr (Or.inl ?_)
    rw [List.length_append, List.length_append]
    omega
  · refine Or.inr (Or.inr ⟨x.length + i, ?_, ?_⟩)
    · rw [List.length_append]
      omega
    · rw [List.getElem?_append_right (by omega), Nat.add_sub_cancel_left, hquote]

theorem ShortOf.cons {c : Char} (hc : c ≠ '\x22' ∧ c ≠ '\x5c' ∧ 0x20 ≤ c.toNat)
    (h : ShortOf a s) : ShortOf (c :: a) (c :: s) := by
  rcases h with ⟨hplain, rfl⟩ | hlen | ⟨i, hi, hquote⟩
  · refine Or.inl ⟨?_, rfl⟩
    intro d hd
    rcases List.mem_cons.mp hd with rfl | hd
    · exact hc
    · exact hplain d hd
  · exact Or.inr (Or.inl (Nat.succ_lt_succ hlen))
  · exact Or.inr (Or.inr ⟨i + 1, Nat.succ_lt_succ hi, by rw [List.getElem?_cons_succ, hquote]⟩)

theorem length_utf8_le (n : ℕ) : (utf8 n).length ≤ 4 := by
  unfold utf8
  split_ifs
  all_goals simp

theorem ne_quote_of_hex4 {a b c d : Char} {n : ℕ} (h : hex4 a b c d = some n) :
    a ≠ '\x22' ∧ b ≠ '\x22' ∧ c ≠ '\x22' ∧ d ≠ '\x22' := by
  refine ⟨?_, ?_, ?_, ?_⟩
  all_goals
    rintro rfl
    simp [hex4, show hexValue '\x22' = none by decide] at h

/-- The characters in front of the first quote start with those that are no quotes. -/
theorem exists_behind {p : List Char} (hp : '\x22' ∉ p)
    (h : p ++ t = a ++ '\x22' :: u) : ∃ a', a = p ++ a' ∧ t = a' ++ '\x22' :: u := by
  rcases List.append_eq_append_iff.mp h with ⟨a', hsplit, htail⟩ | ⟨c, hsplit, htail⟩
  · exact ⟨a', hsplit, htail⟩
  · cases c with
    | nil => exact ⟨[], by simpa using hsplit.symm, by simpa using htail.symm⟩
    | cons q c =>
      rw [List.cons_append] at htail
      exact absurd (hsplit ▸ List.mem_append_right a ((List.cons.inj htail).1 ▸ List.mem_cons_self))
        hp

/-- **A string against its text**, up to the first quote of the text. -/
theorem shortOf_strBody (h : strBody t = some (s, rest)) (ha : '\x22' ∉ a)
    (ht : t = a ++ '\x22' :: u) : ShortOf a s := by
  fun_induction strBody t generalizing a s with
  | case2 t =>
    cases h
    cases a with
    | nil => exact Or.inl ⟨fun c hc => absurd hc List.not_mem_nil, rfl⟩
    | cons c a =>
      rw [List.cons_append] at ht
      exact absurd ((List.cons.inj ht).1 ▸ List.mem_cons_self) ha
  | case4 c t hquote hcontrol hescape ih =>
    obtain ⟨r, hr, he⟩ := Option.map_eq_some_iff.mp h
    cases he
    obtain ⟨a', rfl, rfl⟩ := @exists_behind a t u [c] (by simpa using Ne.symm hquote) ht
    have hshort : ShortOf a' r.1 := ih hr (fun hq => ha (List.mem_append_right [c] hq)) rfl
    exact hshort.cons ⟨hquote, hescape, Nat.not_lt.mp hcontrol⟩
  | case8 c hquote hcontrol hescape a₁ a₂ a₃ a₄ n hhex _ e f g h' t m hhex' _ ih =>
    obtain ⟨r, hr, he⟩ := Option.map_eq_some_iff.mp h
    obtain ⟨rfl, rfl⟩ := Prod.mk.inj he
    obtain ⟨h₁, h₂, h₃, h₄⟩ := ne_quote_of_hex4 hhex
    obtain ⟨h₅, h₆, h₇, h₈⟩ := ne_quote_of_hex4 hhex'
    obtain ⟨a', rfl, rfl⟩ := @exists_behind a t u
      [c, 'u', a₁, a₂, a₃, a₄, '\x5c', 'u', e, f, g, h']
      (by simp [Ne.symm hquote, h₁.symm, h₂.symm, h₃.symm, h₄.symm, h₅.symm, h₆.symm, h₇.symm,
        h₈.symm]) ht
    have hshort : ShortOf a' r.1 := ih hr (fun hq => ha (List.mem_append_right _ hq)) rfl
    exact hshort.append (Nat.lt_of_le_of_lt (length_utf8_le _) (by simp))
  | case12 c hquote hcontrol hescape a₁ a₂ a₃ a₄ t n hhex _ _ ih =>
    obtain ⟨r, hr, he⟩ := Option.map_eq_some_iff.mp h
    obtain ⟨rfl, rfl⟩ := Prod.mk.inj he
    obtain ⟨h₁, h₂, h₃, h₄⟩ := ne_quote_of_hex4 hhex
    obtain ⟨a', rfl, rfl⟩ := @exists_behind a t u [c, 'u', a₁, a₂, a₃, a₄]
      (by simp [Ne.symm hquote, h₁.symm, h₂.symm, h₃.symm, h₄.symm]) ht
    have hshort : ShortOf a' r.1 := ih hr (fun hq => ha (List.mem_append_right _ hq)) rfl
    exact hshort.append (Nat.lt_of_le_of_lt (length_utf8_le _) (by simp))
  | case14 c hquote hcontrol hescape e t _ c' hesc ih =>
    obtain ⟨r, hr, he⟩ := Option.map_eq_some_iff.mp h
    cases he
    by_cases hq : e = '\x22'
    · -- the quote behind the text is read as part of it
      subst hq
      cases hesc
      obtain ⟨a', rfl, -⟩ := @exists_behind a ('\x22' :: t) u [c] (by simpa using Ne.symm hquote) ht
      exact Or.inr (Or.inr ⟨0, by simp, rfl⟩)
    · obtain ⟨a', rfl, rfl⟩ := @exists_behind a t u [c, e]
        (by simpa using ⟨Ne.symm hquote, Ne.symm hq⟩) ht
      have hshort : ShortOf a' r.1 := ih hr (fun hq => ha (List.mem_append_right _ hq)) rfl
      exact @ShortOf.append _ _ [c, e] [c'] hshort (by simp)
  | _ => cases h

/-- **A text that is read back as it stands is plain.** -/
theorem plain_of_strBody (h : strBody (s ++ '\x22' :: t) = some (s, rest)) : Plain s := by
  obtain ⟨a, b, u, rfl, htext, ha⟩ : ∃ a b u, s = a ++ b ∧
      s ++ '\x22' :: t = a ++ '\x22' :: u ∧ '\x22' ∉ a := by
    by_cases hs : '\x22' ∈ s
    · obtain ⟨a, b, rfl, ha⟩ := List.eq_append_cons_of_mem hs
      exact ⟨a, '\x22' :: b, b ++ '\x22' :: t, rfl, by simp, ha⟩
    · exact ⟨s, [], t, by simp, rfl, hs⟩
  rcases shortOf_strBody h ha htext with ⟨hplain, he⟩ | hlen | ⟨i, hi, hquote⟩
  · rw [he]
    exact hplain
  · rw [List.length_append] at hlen
    omega
  · rw [List.getElem?_append_left hi] at hquote
    exact absurd (List.mem_of_getElem? hquote) ha

/-- `null`, or a text between quotes as it stands, in front of `rest`. -/
def pastedValue (rest : List Char) : Option (List Char) → List Char
  | none => 'n' :: 'u' :: 'l' :: 'l' :: rest
  | some s => '\x22' :: (s ++ '\x22' :: rest)

/-- A name between quotes, and its value. -/
def pastedMember (m : List Char × Option (List Char)) (rest : List Char) : List Char :=
  '\x22' :: (m.1 ++ '\x22' :: ':' :: ' ' :: pastedValue rest m.2)

/-- Members with a comma behind each. -/
def pastedMembers (ms : List (List Char × Option (List Char))) (rest : List Char) : List Char :=
  ms.foldr (fun m rest => pastedMember m (',' :: ' ' :: rest)) rest

/-- The value that is meant. -/
def ofText : Option (List Char) → Json
  | none => .null
  | some s => .str s

variable {v : Option (List Char)} {m : List Char × Option (List Char)}
  {ms : List (List Char × Option (List Char))} {out : List (List Char × Json)}

theorem value_blank (fuel : ℕ) (t : List Char) : value fuel (' ' :: t) = value fuel t := by
  cases fuel with
  | zero => simp only [value]
  | succ fuel => simp only [value, List.dropWhile_cons_of_pos (show isWs ' ' = true by decide)]

theorem members_blank (fuel : ℕ) (t : List Char) : members fuel (' ' :: t) = members fuel t := by
  cases fuel with
  | zero => simp only [members]
  | succ fuel => simp only [members, List.dropWhile_cons_of_pos (show isWs ' ' = true by decide)]

theorem value_pasted (hv : ∀ s ∈ v, Plain s) (rest : List Char) :
    value (fuel + 1) (' ' :: pastedValue rest v) = some (ofText v, rest) := by
  rw [value_blank]
  cases v with
  | none =>
    have hnull : word ['u', 'l', 'l'] .null ('u' :: 'l' :: 'l' :: rest) = some (.null, rest) := by
      rw [word, if_pos (by simp [List.isPrefixOf])]
      rfl
    rw [pastedValue, value, List.dropWhile_cons_of_neg (show ¬ isWs 'n' = true by decide)]
    exact hnull
  | some s => exact value_str (hv s rfl) rest

theorem members_pasted (hname : Plain m.1) (hv : ∀ s ∈ m.2, Plain s) (t : List Char) :
    members (fuel + 2) (pastedMember m (',' :: ' ' :: t)) =
      (members (fuel + 1) t).map fun r => ((m.1, ofText m.2) :: r.1, r.2) := by
  rw [pastedMember, members_cons hname (value_pasted hv (',' :: ' ' :: t)), members_blank]

/-- **Plain texts are read one by one.** -/
theorem members_pastedMembers (hname : ∀ m ∈ ms, Plain m.1)
    (hv : ∀ m ∈ ms, ∀ s ∈ m.2, Plain s) (t : List Char) :
    members (fuel + ms.length + 1) (pastedMembers ms t) =
      (members (fuel + 1) t).map fun r => (ms.map (fun m => (m.1, ofText m.2)) ++ r.1, r.2) := by
  induction ms with
  | nil => exact Option.map_id'.symm
  | cons m ms ih =>
    rw [pastedMembers, List.foldr_cons, List.length_cons, ← Nat.add_assoc,
      members_pasted (hname m List.mem_cons_self) (hv m List.mem_cons_self)]
    change Option.map _ (members (fuel + ms.length + 1) (pastedMembers ms t)) = _
    rw [ih (fun m hm => hname m (List.mem_cons_of_mem _ hm))
      (fun m hm => hv m (List.mem_cons_of_mem _ hm)), Option.map_map]
    rfl

/-- The last member. -/
theorem members_pasted_last (hname : Plain m.1) (hv : ∀ s ∈ m.2, Plain s) (rest : List Char) :
    members (fuel + 2) (pastedMember m ('\x7d' :: rest)) = some ([(m.1, ofText m.2)], rest) := by
  rw [pastedMember, members_last hname (value_pasted hv ('\x7d' :: rest))]

/-- A text between quotes is read up to some quote, and the member is kept. -/
theorem mem_of_members {name : List Char} (hname : Plain name)
    (h : members (fuel + 1) (pastedMember (name, some s) t) = some (out, rest)) :
    ∃ s' u, strBody (s ++ '\x22' :: t) = some (s', u) ∧ (name, .str s') ∈ out := by
  rw [pastedMember, members_name hname, value_blank] at h
  obtain ⟨⟨j, v⟩, hj, h⟩ := Option.bind_eq_some_iff.mp h
  obtain ⟨s', u, hs, rfl⟩ :
      ∃ s' u, strBody (s ++ '\x22' :: t) = some (s', u) ∧ j = Json.str s' := by
    cases fuel with
    | zero =>
      simp only [value] at hj
      cases hj
    | succ fuel =>
      simp only [pastedValue, value,
        List.dropWhile_cons_of_neg (show ¬ isWs '\x22' = true by decide), if_true] at hj
      obtain ⟨r, hr, he⟩ := Option.map_eq_some_iff.mp hj
      cases he
      exact ⟨r.1, r.2, hr, rfl⟩
  refine ⟨s', u, hs, ?_⟩
  simp only at h
  split at h
  · obtain ⟨r, hr, he⟩ := Option.map_eq_some_iff.mp h
    cases he
    exact List.mem_cons_self
  · cases h
    exact List.mem_cons_self
  · cases h

/-- No value starts with a colon. -/
theorem value_colon (fuel : ℕ) (t : List Char) : value fuel (':' :: t) = none := by
  cases fuel with
  | zero => simp only [value]
  | succ fuel =>
    rw [value, List.dropWhile_cons_of_neg (show ¬ isWs ':' = true by decide)]
    rfl

/-- A name with two colons behind it. -/
theorem members_colon {name : List Char} (hname : Plain name) (t : List Char) :
    members fuel ('\x22' :: (name ++ '\x22' :: ':' :: ':' :: t)) = none := by
  cases fuel with
  | zero => simp only [members]
  | succ fuel =>
    rw [members_name hname, value_colon]
    rfl

/-- A text that stands for itself, or that some member under its name gives back as it stands. -/
def Kept (out : List (List Char × Json)) (m : List Char × Option (List Char)) : Prop :=
  ∀ s ∈ m.2, Plain s ∨ ∀ s', (m.1, .str s') ∈ out → s' = s

theorem plain_of_kept (hname : Plain m.1)
    (h : members (fuel + 1) (pastedMember m t) = some (out, rest)) (hkept : Kept out m) :
    ∀ s ∈ m.2, Plain s := by
  intro s hs
  obtain ⟨name, v⟩ := m
  cases hs
  rcases hkept s rfl with hplain | hself
  · exact hplain
  · obtain ⟨s', u, hbody, hmem⟩ := mem_of_members hname h
    rw [hself s' hmem] at hbody
    exact plain_of_strBody hbody

/-- **Texts that are kept are plain**: they are read one by one, up to what follows them. -/
theorem plain_of_pastedMembers (hname : ∀ m ∈ ms, Plain m.1)
    (h : members (fuel + ms.length + 1) (pastedMembers ms t) = some (out, rest))
    (hkept : ∀ m ∈ ms, Kept out m) : ∀ m ∈ ms, ∀ s ∈ m.2, Plain s := by
  induction ms generalizing out with
  | nil => simp
  | cons m ms ih =>
    rw [List.length_cons, ← Nat.add_assoc] at h
    have hm := plain_of_kept (hname m List.mem_cons_self) h (hkept m List.mem_cons_self)
    rw [pastedMembers, List.foldr_cons, members_pasted (hname m List.mem_cons_self) hm] at h
    obtain ⟨r, hr, he⟩ := Option.map_eq_some_iff.mp h
    cases he
    have hms := ih (fun m' hm' => hname m' (List.mem_cons_of_mem _ hm')) hr
      fun m' hm' s hs => (hkept m' (List.mem_cons_of_mem _ hm') s hs).imp_right
        fun hself s' hs' => hself s' (List.mem_cons_of_mem _ hs')
    intro m' hm'
    rcases List.mem_cons.mp hm' with rfl | hm'
    · exact hm
    · exact hms m' hm'

/-- An object of pasted members, the last one given apart. -/
def pastedObject (ms : List (List Char × Option (List Char)))
    (m : List Char × Option (List Char)) : List Char :=
  '\x7b' :: pastedMembers ms (pastedMember m ['\x7d'])

theorem length_pastedValue (v : Option (List Char)) (rest : List Char) :
    rest.length ≤ (pastedValue rest v).length := by
  cases v with
  | none =>
    simp only [pastedValue, List.length_cons]
    omega
  | some s =>
    simp only [pastedValue, List.length_cons, List.length_append]
    omega

/-- No member is shorter than a character. -/
theorem length_pastedMembers (ms : List (List Char × Option (List Char))) (t : List Char) :
    ms.length + t.length ≤ (pastedMembers ms t).length := by
  induction ms with
  | nil => simp [pastedMembers]
  | cons m ms ih =>
    have hm := length_pastedValue m.2 (',' :: ' ' :: pastedMembers ms t)
    simp only [pastedMembers, List.foldr_cons, pastedMember, List.length_cons,
      List.length_append] at ih hm ⊢
    omega

/-- An object whose first member has a name. -/
theorem parse_brace (t : List Char) :
    parse ('\x7b' :: '\x22' :: t) = (members (t.length + 2) ('\x22' :: t)).bind fun r =>
      if r.2.all isWs then some (.obj r.1) else none := by
  have hvalue : value (t.length + 3) ('\x7b' :: '\x22' :: t) =
      (members (t.length + 2) ('\x22' :: t)).map fun r => (Json.obj r.1, r.2) := by
    simp only [value, List.dropWhile_cons_of_neg (show ¬ isWs '\x7b' = true by decide),
      List.dropWhile_cons_of_neg (show ¬ isWs '\x22' = true by decide)]
    rfl
  rw [parse, List.length_cons, List.length_cons, hvalue]
  cases members (t.length + 2) ('\x22' :: t) with
  | none => rfl
  | some r => rfl

/-- An object of pasted members, with fuel for each of them and one more. -/
theorem parse_pastedMembers (ms : List (List Char × Option (List Char))) (t : List Char) :
    ∃ fuel, parse ('\x7b' :: pastedMembers ms ('\x22' :: t)) =
      (members (fuel + 1 + ms.length + 1) (pastedMembers ms ('\x22' :: t))).bind fun r =>
        if r.2.all isWs then some (.obj r.1) else none := by
  obtain ⟨u, hu⟩ : ∃ u, pastedMembers ms ('\x22' :: t) = '\x22' :: u := by
    cases ms with
    | nil => exact ⟨t, rfl⟩
    | cons m ms => exact ⟨_, rfl⟩
  have hlen := length_pastedMembers ms ('\x22' :: t)
  rw [hu, List.length_cons, List.length_cons] at hlen
  refine ⟨u.length - ms.length, ?_⟩
  rw [hu, parse_brace, show u.length - ms.length + 1 + ms.length + 1 = u.length + 2 by omega]

/-- **An object of plain texts**: its members are the texts. -/
theorem parse_pastedObject (hname : ∀ m' ∈ ms ++ [m], Plain m'.1)
    (hv : ∀ m' ∈ ms ++ [m], ∀ s ∈ m'.2, Plain s) :
    parse (pastedObject ms m) = some (.obj ((ms ++ [m]).map fun m => (m.1, ofText m.2))) := by
  have hm : m ∈ ms ++ [m] := List.mem_append_right ms List.mem_cons_self
  obtain ⟨fuel, hparse⟩ := parse_pastedMembers ms (m.1 ++ '\x22' :: ':' :: ' ' ::
    pastedValue ['\x7d'] m.2)
  rw [pastedObject, pastedMember, hparse,
    members_pastedMembers (fun m' hm' => hname m' (List.mem_append_left _ hm'))
      (fun m' hm' => hv m' (List.mem_append_left _ hm')),
    ← pastedMember, members_pasted_last (hname m hm) (hv m hm), List.map_append]
  rfl

/-- **An object whose texts are kept**: they are plain. -/
theorem plain_of_parse_pastedObject (hname : ∀ m' ∈ ms ++ [m], Plain m'.1)
    (h : parse (pastedObject ms m) = some (.obj out)) (hkept : ∀ m' ∈ ms ++ [m], Kept out m') :
    ∀ m' ∈ ms ++ [m], ∀ s ∈ m'.2, Plain s := by
  have hm : m ∈ ms ++ [m] := List.mem_append_right ms List.mem_cons_self
  obtain ⟨fuel, hparse⟩ := parse_pastedMembers ms (m.1 ++ '\x22' :: ':' :: ' ' ::
    pastedValue ['\x7d'] m.2)
  rw [pastedObject, pastedMember, hparse] at h
  obtain ⟨⟨out', rest⟩, hmembers, h⟩ := Option.bind_eq_some_iff.mp h
  obtain rfl : out' = out := by
    simp only at h
    split at h
    · cases h
      rfl
    · cases h
  have hms := plain_of_pastedMembers (fun m' hm' => hname m' (List.mem_append_left _ hm')) hmembers
    fun m' hm' => hkept m' (List.mem_append_left _ hm')
  rw [members_pastedMembers (fun m' hm' => hname m' (List.mem_append_left _ hm')) hms] at hmembers
  obtain ⟨r, hr, he⟩ := Option.map_eq_some_iff.mp hmembers
  cases he
  have hlast := plain_of_kept (hname m hm) hr fun s hs => (hkept m hm s hs).imp_right
    fun hself s' hs' => hself s' (List.mem_append_right _ hs')
  intro m' hm'
  rcases List.mem_append.mp hm' with hm' | hm'
  · exact hms m' hm'
  · obtain rfl := List.mem_singleton.mp hm'
    exact hlast

/-- **A second colon behind plain texts**: the object is no JSON. -/
theorem parse_colon {name : List Char} (hname : ∀ m ∈ ms, Plain m.1)
    (hv : ∀ m ∈ ms, ∀ s ∈ m.2, Plain s) (hname' : Plain name) (t : List Char) :
    parse ('\x7b' :: pastedMembers ms ('\x22' :: (name ++ '\x22' :: ':' :: ':' :: t))) = none := by
  obtain ⟨fuel, hparse⟩ := parse_pastedMembers ms (name ++ '\x22' :: ':' :: ':' :: t)
  rw [hparse, members_pastedMembers hname hv, members_colon hname']
  rfl

end Pasted

end Json

end CallFwd.Lib
