/-
# What the C++ code relies on: exceptions, undefined behaviour and number parsing

Every operation of the daemon that can leave its normal path is modelled in `Except Stop`.  A
`Stop` is either an EXCEPTION, which a `catch` clause may stop, or UNDEFINED behaviour, which
nothing catches.  The distinction the control commands turn on is the one between
`std::runtime_error` and the rest of `std::exception`: the loaders of `Control.cpp` catch the
first family only (`catch (std::runtime_error &e)`), `ControlThread::dispatch` catches both.

The three number parsers differ, and the tables do not all use the same one:

* `toUint64` is `folly::to<uint64_t>`: surrounding whitespace, then digits and nothing else;
* `stoll` is `std::stoll`: leading whitespace, a sign, the longest run of digits, the rest ignored;
* `extractUint64` is `std::istringstream >> uint64_t`, which never throws.

A byte is represented by the character with its code.
-/
import Mathlib.Data.List.Basic
import Mathlib.Tactic

namespace CallFwd

/-- A byte string. -/
abbrev Text := List Char

/-! ## 1. Leaving the normal path -/

/-- The exceptions that can reach a handler, by class. -/
inductive Exn
  /-- `std::runtime_error`, thrown by the daemon's own code with this text. -/
  | runtimeError (what : String)
  /-- `std::ios_base::failure`: a stream operation set `failbit` while exceptions were on. -/
  | iosFailure
  /-- `folly::ConversionError`. -/
  | conversionError
  /-- `folly::TypeError`. -/
  | typeError
  /-- `folly::json::print_error`. -/
  | printError
  /-- `folly::json::parse_error`. -/
  | parseError
  /-- `folly::IPAddressFormatException`. -/
  | ipAddressFormat
  /-- `std::invalid_argument`. -/
  | invalidArgument
  /-- `std::out_of_range`. -/
  | outOfRange
  /-- `std::length_error`. -/
  | lengthError
  /-- `std::bad_alloc`. -/
  | badAlloc
deriving DecidableEq, Repr

/-- What `catch (std::runtime_error &)` stops.  `ios_base::failure` is a `system_error`,
`ConversionError` a `range_error`; both are `runtime_error`s.  `invalid_argument`,
`out_of_range` and `length_error` are `logic_error`s, `bad_alloc` is neither. -/
def Exn.isRuntimeError : Exn → Bool
  | .runtimeError _ | .iosFailure | .conversionError | .typeError | .printError
  | .parseError | .ipAddressFormat => true
  | .invalidArgument | .outOfRange | .lengthError | .badAlloc => false

/-- Undefined behaviour, by cause. -/
inductive Fault
  | nullRead
  | outOfBounds
  | uninitialised
  | signedOverflow
  /-- A loop went on for longer than the model follows it. -/
  | diverges
deriving DecidableEq, Repr

inductive Stop
  | exn (e : Exn)
  | undefined (f : Fault)
deriving DecidableEq, Repr

/-- What a `catch (std::runtime_error &)` clause stops. -/
def Stop.isRuntimeError : Stop → Bool
  | .exn e => e.isRuntimeError
  | .undefined _ => false

/-- `throw std::runtime_error(what)`. -/
def throwRuntimeError {α : Type} (what : String) : Except Stop α :=
  .error (.exn (.runtimeError what))

/-- `v[i]` on a `std::vector`: no bounds check. -/
def subscript {α : Type} (v : List α) (i : Nat) : Except Stop α :=
  match v[i]? with
  | some x => .ok x
  | none => .error (.undefined .outOfBounds)

theorem subscript_of_lt {α : Type} {v : List α} {i : Nat} (h : i < v.length) :
    subscript v i = .ok v[i] := by
  simp [subscript, h]

/-- Peeling a bind that succeeded. -/
theorem bind_eq_ok {ε α β : Type} {x : Except ε α} {f : α → Except ε β} {r : β} :
    (x >>= f) = .ok r ↔ ∃ a, x = .ok a ∧ f a = .ok r := by
  cases x with
  | error e =>
    constructor
    · intro h
      cases h
    · rintro ⟨_, h, _⟩
      cases h
  | ok a =>
    constructor
    · intro h
      exact ⟨a, rfl, h⟩
    · rintro ⟨a', h, hf⟩
      cases h
      exact hf

theorem map_eq_ok {ε α β : Type} {x : Except ε α} {f : α → β} {r : β} :
    f <$> x = .ok r ↔ ∃ a, x = .ok a ∧ r = f a := by
  cases x with
  | error e =>
    constructor
    · intro h
      cases h
    · rintro ⟨_, h, _⟩
      cases h
  | ok a =>
    constructor
    · intro h
      cases h
      exact ⟨a, rfl, rfl⟩
    · rintro ⟨a', h, rfl⟩
      cases h
      rfl

/-- Peeling a bind that stopped: at its first part or at its second. -/
theorem bind_eq_error {ε α β : Type} {x : Except ε α} {f : α → Except ε β} {e : ε} :
    (x >>= f) = .error e ↔ x = .error e ∨ ∃ a, x = .ok a ∧ f a = .error e := by
  cases x with
  | error e' =>
    constructor
    · intro h
      exact Or.inl (by cases h; rfl)
    · rintro (h | ⟨_, h, _⟩)
      · cases h; rfl
      · cases h
  | ok a =>
    constructor
    · intro h
      exact Or.inr ⟨a, rfl, h⟩
    · rintro (h | ⟨a', h, hf⟩)
      · cases h
      · cases h; exact hf

/-! ## 2. Numbers in text -/

/-- `isspace` in the "C" locale, which `main` sets. -/
def isspace (c : Char) : Bool :=
  c == ' ' || c == '\t' || c == '\n' || c == '\r' || c == '\x0b' || c == '\x0c'

/-- The value of a run of decimal digits. -/
def decimal (digits : Text) : Nat := Nat.ofDigitChars 10 digits 0

/-- `folly::to<uint64_t>(s)`. -/
def toUint64 (s : Text) : Except Stop UInt64 :=
  let t := s.dropWhile isspace
  let digits := t.takeWhile Char.isDigit
  if !digits.isEmpty && (t.dropWhile Char.isDigit).all isspace && decide (decimal digits < 2 ^ 64)
  then .ok (UInt64.ofNat (decimal digits))
  else .error (.exn .conversionError)

/-- A sign and what follows it; `true` is minus. -/
def takeSign : Text → Bool × Text
  | '-' :: t => (true, t)
  | '+' :: t => (false, t)
  | t => (false, t)

/-- `std::stoll(s)`: characters after the digits are not looked at. -/
def stoll (s : Text) : Except Stop Int :=
  let t := takeSign (s.dropWhile isspace)
  let digits := t.2.takeWhile Char.isDigit
  if digits.isEmpty then .error (.exn .invalidArgument)
  else
    let value : Int := if t.1 then -(decimal digits : Int) else decimal digits
    if -(2 ^ 63) ≤ value ∧ value < 2 ^ 63 then .ok value else .error (.exn .outOfRange)

/-- `uint64_t pn; std::istringstream(s) >> pn;` and then a read of `pn`.  When only whitespace
is left the extraction does not start, and `pn` is read as it was declared; otherwise a failed
extraction stores 0, or the largest value on overflow. -/
def extractUint64 (s : Text) : Except Stop UInt64 :=
  match s.dropWhile isspace with
  | [] => .error (.undefined .uninitialised)
  | c :: cs =>
    let t := takeSign (c :: cs)
    let digits := t.2.takeWhile Char.isDigit
    if digits.isEmpty then .ok 0
    else if 2 ^ 64 ≤ decimal digits then .ok (UInt64.ofNat (2 ^ 64 - 1))
    else if t.1 then .ok (UInt64.ofInt (-(decimal digits : Int)))
    else .ok (UInt64.ofNat (decimal digits))

/-- `folly::split(',', line, row)` into a `std::vector<uint64_t>`. -/
def splitUint64 (line : Text) : Except Stop (List UInt64) :=
  (line.splitOn ',').mapM toUint64

/-- `out << n` for a `uint64_t`. -/
def printUint64 (n : UInt64) : Text := Nat.toDigits 10 n.toNat

/-! ## 3. What the parsers can return -/

/-- A number that cannot be read is a `ConversionError`, whatever is wrong with it. -/
theorem toUint64_error {s : Text} {e : Stop} (h : toUint64 s = .error e) :
    e = .exn .conversionError := by
  simp only [toUint64] at h
  split at h
  · cases h
  · cases h; rfl

/-- And so is a line with one. -/
theorem splitUint64_error {line : Text} {e : Stop} (h : splitUint64 line = .error e) :
    e = .exn .conversionError := by
  have main : ∀ (ps : List Text), ps.mapM toUint64 = .error e → e = .exn .conversionError := by
    intro ps
    induction ps with
    | nil => intro h; cases h
    | cons p ps ih =>
      intro h
      rw [List.mapM_cons, bind_eq_error] at h
      rcases h with h | ⟨n, -, h⟩
      · exact toUint64_error h
      · rw [bind_eq_error] at h
        rcases h with h | ⟨ns, -, h⟩
        · exact ih h
        · cases h
  exact main _ h

/-! ## 4. Printing and reading back -/

theorem isDigit_of_mem_printUint64 {n : UInt64} {c : Char} (h : c ∈ printUint64 n) :
    c.isDigit = true :=
  Nat.isDigit_of_mem_toDigits (by decide) (by decide) h

theorem isspace_of_isDigit {c : Char} (h : c.isDigit = true) : isspace c = false := by
  rw [Bool.eq_false_iff]
  intro hs
  simp only [isspace, Bool.or_eq_true, beq_iff_eq] at hs
  rcases hs with ((((rfl | rfl) | rfl) | rfl) | rfl) | rfl <;> exact absurd h (by decide)

/-- **A printed number reads back**, with any whitespace behind it. -/
theorem toUint64_printUint64 (n : UInt64) {ws : Text} (hws : ∀ c ∈ ws, isspace c = true) :
    toUint64 (printUint64 n ++ ws) = .ok n := by
  have hdig : ∀ c ∈ printUint64 n, c.isDigit = true := fun c => isDigit_of_mem_printUint64
  have hne : printUint64 n ≠ [] := Nat.toDigits_ne_nil
  have hskip : (printUint64 n ++ ws).dropWhile isspace = printUint64 n ++ ws := by
    cases hp : printUint64 n with
    | nil => exact absurd hp hne
    | cons c t =>
      have hc := isspace_of_isDigit (hdig c (hp ▸ List.mem_cons_self))
      rw [List.cons_append, List.dropWhile_cons_of_neg (by simp [hc])]
  have hstop : ws.takeWhile Char.isDigit = [] ∧ ws.dropWhile Char.isDigit = ws := by
    cases ws with
    | nil => exact ⟨rfl, rfl⟩
    | cons c t =>
      have hc : c.isDigit = false := by
        rw [Bool.eq_false_iff]
        intro hd
        exact absurd (hws c List.mem_cons_self) (by simp [isspace_of_isDigit hd])
      exact ⟨List.takeWhile_cons_of_neg (by simp [hc]), List.dropWhile_cons_of_neg (by simp [hc])⟩
  have htake : (printUint64 n ++ ws).takeWhile Char.isDigit = printUint64 n := by
    rw [List.takeWhile_append_of_pos hdig, hstop.1, List.append_nil]
  have hdrop : (printUint64 n ++ ws).dropWhile Char.isDigit = ws := by
    rw [List.dropWhile_append_of_pos hdig, hstop.2]
  have hval : decimal (printUint64 n) = n.toNat := Nat.ofDigitChars_ten_toDigits
  have hemp : (printUint64 n).isEmpty = false := by simpa using hne
  have hall : ws.all isspace = true := List.all_eq_true.mpr hws
  simp only [toUint64, hskip, htake, hdrop, hval, hemp, hall, UInt64.toNat_lt, decide_true,
    Bool.not_false, Bool.and_self, if_true, UInt64.ofNat_toNat]

end CallFwd
