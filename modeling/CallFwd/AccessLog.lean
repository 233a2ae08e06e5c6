/-
# The access log

An `AccessLogFormatter` holds a `std::ostringstream`: `onRequest` writes the head of a line into it,
`onResponse` the rest, and what the stream then holds goes to the log.  `clear()` does not empty a
stream, it only resets its error flags, and in C++17 `str()` is a copy; so a formatter that is used
twice still holds its first line when it writes the second.

A formatter that is used once writes one line, `lineOf` (`onResponse_fresh`); that is the one of
`AccessLogHandler`, which is made anew for each HTTP request.
-/
import CallFwd.Dynamic

namespace CallFwd

/-! ## 1. The date -/

/-- The fields of `struct tm` that are printed; `mon` counts from 0. -/
structure Tm where
  mday : ℕ
  mon : ℕ
  year : ℤ
  hour : ℕ
  min : ℕ
  sec : ℕ
deriving DecidableEq, Repr

/-- `gmtime_r`: the days are counted from a first of March, so that a leap day is the last of its
year. -/
def gmtime (t : ℤ) : Tm :=
  let z := t / 86400 + 719468
  let era := z / 146097
  let doe := (z % 146097).toNat
  let yoe := (doe - doe / 1460 + doe / 36524 - doe / 146096) / 365
  let doy := doe - (365 * yoe + yoe / 4 - yoe / 100)
  let mp := (5 * doy + 2) / 153
  let mon := if mp < 10 then mp + 2 else mp - 10
  let secs := (t % 86400).toNat
  { mday := doy - (153 * mp + 2) / 5 + 1
    mon := mon
    year := yoe + era * 400 + if mon < 2 then 1 else 0
    hour := secs / 3600
    min := secs / 60 % 60
    sec := secs % 60 }

def monthNames : List String :=
  ["Jan", "Feb", "Mar", "Apr", "May", "Jun", "Jul", "Aug", "Sep", "Oct", "Nov", "Dec"]

def twoDigits (n : ℕ) : Text := (Nat.toDigits 10 n).leftpad 2 '0'

/-- `std::put_time(&date, "%d/%b/%Y:%H:%M:%S %z")`; `gmtime_r` gives the offset 0. -/
def putTime (date : Tm) : Text :=
  twoDigits date.mday ++ ['/'] ++ Dynamic.text (monthNames.getD date.mon "?") ++ ['/'] ++
    Dynamic.text (toString date.year) ++ [':'] ++ twoDigits date.hour ++ [':'] ++
    twoDigits date.min ++ [':'] ++ twoDigits date.sec ++ Dynamic.text " +0000"

example : putTime (gmtime 1582934400) = Dynamic.text "29/Feb/2020:00:00:00 +0000" := by decide

/-! ## 2. The formatter -/

/-- `AccessLogFormatter`: what `message_` holds. -/
structure AccessLogFormatter where
  message : Text
deriving DecidableEq, Repr

namespace AccessLogFormatter

/-- The head of a line. -/
def headOf (peer method uri : Text) (startTime : ℤ) : Text :=
  peer ++ Dynamic.text " - - [" ++ putTime (gmtime startTime) ++ Dynamic.text "] \"" ++ method ++
    [' '] ++ uri ++ Dynamic.text "\" "

/-- The rest of it. -/
def tailOf (status bytes : ℕ) : Text :=
  Nat.toDigits 10 status ++ [' '] ++ Nat.toDigits 10 bytes ++ ['\n']

/-- **The line of a request.** -/
def lineOf (peer method uri : Text) (startTime : ℤ) (status bytes : ℕ) : Text :=
  headOf peer method uri startTime ++ tailOf status bytes

/-- A new formatter. -/
def fresh : AccessLogFormatter := ⟨[]⟩

/-- `message_.clear()`: the flags of the stream, not its contents. -/
def clear (log : AccessLogFormatter) : AccessLogFormatter := log

/-- `onRequest(peer, method, uri, startTime)`. -/
def onRequest (log : AccessLogFormatter) (peer method uri : Text) (startTime : ℤ) :
    AccessLogFormatter :=
  ⟨log.clear.message ++ headOf peer method uri startTime⟩

/-- `onResponse(status, bytes)`: the formatter, and what is passed to `writeMessage` if the log is
open. -/
def onResponse (log : AccessLogFormatter) (logOpen : Bool) (status bytes : ℕ) :
    AccessLogFormatter × List Text :=
  let log : AccessLogFormatter := ⟨log.message ++ tailOf status bytes⟩
  (log, if logOpen then [log.message] else [])

/-- A whole request: its line is put behind what the stream holds, and all of it is written. -/
theorem onResponse_onRequest (log : AccessLogFormatter) (peer method uri : Text) (startTime : ℤ)
    (logOpen : Bool) (status bytes : ℕ) :
    (log.onRequest peer method uri startTime).onResponse logOpen status bytes =
      (⟨log.message ++ lineOf peer method uri startTime status bytes⟩,
        if logOpen then [log.message ++ lineOf peer method uri startTime status bytes] else []) := by
  simp only [onRequest, onResponse, clear, lineOf, List.append_assoc]

theorem lineOf_ne_nil (peer method uri : Text) (startTime : ℤ) (status bytes : ℕ) :
    lineOf peer method uri startTime status bytes ≠ [] := by
  simp [lineOf, tailOf]

/-- **A formatter that is used once writes its line**, as that of an HTTP request does. -/
theorem onResponse_fresh (peer method uri : Text) (startTime : ℤ) (status bytes : ℕ) :
    ((fresh.onRequest peer method uri startTime).onResponse true status bytes).2 =
      [lineOf peer method uri startTime status bytes] := by
  rw [onResponse_onRequest]
  rfl

end AccessLogFormatter

end CallFwd
