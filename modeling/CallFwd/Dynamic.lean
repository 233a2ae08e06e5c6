/-
# `folly::dynamic`: the JSON value a control message decodes to

`ControlThread::dispatch` reads a handful of members of the message, each through `getDefault`
and a CONVERTING accessor: `asInt` accepts a numeric string or a boolean, `asString` a number.
An accessor throws where the value has no reading of that type, and in `Control.cpp` the reads
stand OUTSIDE the loaders' `try` blocks.

`parseJson` is folly's; what it accepts is not modelled.  It does accept `NaN` and `Infinity`,
which `toJson` refuses to print, so `double` carries `none` for these.
-/
import CallFwd.Runtime
import Mathlib.Data.Rat.Defs

namespace CallFwd

inductive Dynamic
  | null
  | bool (b : Bool)
  | int (n : Int64)
  /-- The value of a finite double, `none` for a NaN or an infinity. -/
  | double (v : Option ℚ)
  | string (s : Text)
  | array (elems : List Dynamic)
  | object (members : List (Text × Dynamic))

namespace Dynamic

/-- A text as a key or a value. -/
def text (s : String) : Text := s.toList

/-- `folly::to<int64_t>(s)`. -/
def toInt64 (s : Text) : Except Stop Int64 :=
  let t := takeSign (s.dropWhile isspace)
  let digits := t.2.takeWhile Char.isDigit
  let value : Int := if t.1 then -(decimal digits : Int) else decimal digits
  if !digits.isEmpty && (t.2.dropWhile Char.isDigit).all isspace &&
      decide (-(2 ^ 63) ≤ value ∧ value < 2 ^ 63)
  then .ok (Int64.ofInt value)
  else .error (.exn .conversionError)

/-- `asInt()`.  A double converts only when nothing is lost. -/
def asInt : Dynamic → Except Stop Int64
  | .int n => .ok n
  | .bool b => .ok (if b then 1 else 0)
  | .double (some v) =>
    if v.den = 1 ∧ -(2 ^ 63) ≤ v.num ∧ v.num < 2 ^ 63 then .ok (Int64.ofInt v.num)
    else .error (.exn .conversionError)
  | .double none => .error (.exn .conversionError)
  | .string s => toInt64 s
  | .null | .array _ | .object _ => .error (.exn .typeError)

/-- `asString()`.  `showDouble` is folly's shortest printing of a double. -/
def asString (showDouble : Option ℚ → Text) : Dynamic → Except Stop Text
  | .string s => .ok s
  | .int n => .ok (text (toString n.toInt))
  | .bool b => .ok (text (if b then "1" else "0"))
  | .double v => .ok (showDouble v)
  | .null | .array _ | .object _ => .error (.exn .typeError)

/-- The members of an object; anything else throws. -/
def items : Dynamic → Except Stop (List (Text × Dynamic))
  | .object members => .ok members
  | _ => .error (.exn .typeError)

/-- `getDefault(key, default)`. -/
def getDefault (msg : Dynamic) (key : String) (default : Dynamic) : Except Stop Dynamic := do
  let members ← msg.items
  return ((members.find? fun m => decide (m.1 = text key)).map Prod.snd).getD default

/-- `msg.erase(key)`. -/
def erase (msg : Dynamic) (key : String) : Except Stop Dynamic := do
  let members ← msg.items
  return .object (members.filter fun m => decide (m.1 ≠ text key))

/-! ## What `toJson` can print -/

mutual

/-- `folly::toJson` does not throw on it: no NaN and no infinity inside. -/
def printable : Dynamic → Bool
  | .double v => v.isSome
  | .array elems => printableElems elems
  | .object members => printableMembers members
  | .null | .bool _ | .int _ | .string _ => true

def printableElems : List Dynamic → Bool
  | [] => true
  | v :: vs => v.printable && printableElems vs

def printableMembers : List (Text × Dynamic) → Bool
  | [] => true
  | (_, v) :: ms => v.printable && printableMembers ms

end

end Dynamic

end CallFwd
