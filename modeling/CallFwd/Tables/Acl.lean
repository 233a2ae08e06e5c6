/-
# The access control list

`ACL::fromCSV` differs from the table loaders in three ways.  Its loop has no chunks.  It splits
with `folly::split`, so a trailing empty column counts.  And it fills ONE `Rule` object, declared
outside the loop and moved into the map at the end of each turn: what a move leaves behind is
where the next line starts.  `folly::Optional` is emptied by a move, the time point and the token
bucket keep their values.

The parsers of addresses, times and rates are the library's.
-/
import CallFwd.Runtime
import CallFwd.Lib.Stream

namespace CallFwd

open Lib

namespace ACL

/-- `folly::IPAddress`. -/
inductive IPAddress
  | v4 (bits : BitVec 32)
  | v6 (bits : BitVec 128) (scope : ℕ)
deriving DecidableEq, Repr

/-- The bits of a `double`. -/
abbrev Double := BitVec 64

/-- What the library parses: an address, `std::get_time` with `std::mktime` (in seconds), and
`folly::tryTo<double>`. -/
structure Parsers where
  ipAddress : Text → Option IPAddress
  postgresTime : Text → Option ℤ
  rate : Text → Option Double

/-- `ACL::Rule`.  The bucket is `{1e10, 1e10}` until it is `reset(cps, max(cps, 1))`. -/
structure Rule where
  created : ℤ := 0
  expire : Option ℤ := none
  callBudget : Option Double := none
deriving DecidableEq, Repr

/-- `ACL::Data`: the rule of each origin. -/
abbrev Data := IPAddress → Option Rule

/-- `parsePostgresTime(value)`: the stream has exceptions on. -/
def parsePostgresTime (parsers : Parsers) (value : Text) : Except Stop ℤ :=
  match parsers.postgresTime value with
  | some t => .ok t
  | none => .error (.exn .iosFailure)

/-- `folly::IPAddress(s)`. -/
def ipAddress (parsers : Parsers) (s : Text) : Except Stop IPAddress :=
  match parsers.ipAddress s with
  | some ip => .ok ip
  | none => .error (.exn .ipAddressFormat)

/-- `if (!row[1].empty()) rule.created = parsePostgresTime(row[1].str());` -/
def Rule.setCreated (parsers : Parsers) (value : Text) (rule : Rule) : Except Stop Rule :=
  if value = [] then .ok rule
  else (fun t => { rule with created := t }) <$> parsePostgresTime parsers value

/-- `if (!row[2].empty()) rule.expire = parsePostgresTime(row[2].str());` -/
def Rule.setExpire (parsers : Parsers) (value : Text) (rule : Rule) : Except Stop Rule :=
  if value = [] then .ok rule
  else (fun t => { rule with expire := some t }) <$> parsePostgresTime parsers value

/-- `if (auto cps = folly::tryTo<double>(row[3])) rule.callBudget.reset(..);` -/
def Rule.setBudget (parsers : Parsers) (value : Text) (rule : Rule) : Rule :=
  match parsers.rate value with
  | some cps => { rule with callBudget := some cps }
  | none => rule

/-- What the next turn finds in `rule` after `std::move(rule)`. -/
def Rule.movedFrom (rule : Rule) : Rule := { rule with expire := none }

/-- One line of `ACL::fromCSV`, on the data and the rule. -/
def fromCSVLine (parsers : Parsers) (st : Data × Rule) (linebuf : Text) :
    Except Stop (Data × Rule) :=
  match linebuf.splitOn ',' with
  | [origin, created, expire, cps] => do
    let rule ← st.2.setCreated parsers created
    let rule ← rule.setExpire parsers expire
    let rule := rule.setBudget parsers cps
    let ip ← ipAddress parsers origin
    return (Function.update st.1 ip (some rule), rule.movedFrom)
  | _ => throwRuntimeError "bad number of columns"

/-- `ACL::fromCSV(in, line)`. -/
def fromCSV (parsers : Parsers) (in_ : IStream) : Except Stop Data :=
  Prod.fst <$> readLines (.exn .iosFailure) (fromCSVLine parsers) in_ (fun _ => none, {})

/-- `isCallAllowed(peer)`, the SIP status: `now` is the clock, `consume` says whether the bucket of
a rule has a token left. -/
def isCallAllowed (now : ℤ) (consume : Rule → Bool) (data : Option Data) (peer : IPAddress) : ℕ :=
  match data.bind fun origin => origin peer with
  | none => 401
  | some rule =>
    if rule.expire.any fun expire => decide (expire ≤ now) then 401
    else if consume rule then 200
    else 429

theorem parsePostgresTime_error {parsers : Parsers} {value : Text} {e : Stop}
    (h : parsePostgresTime parsers value = .error e) : e.isRuntimeError = true := by
  unfold parsePostgresTime at h
  split at h
  · cases h
  · cases h; rfl

theorem ipAddress_error {parsers : Parsers} {s : Text} {e : Stop}
    (h : ipAddress parsers s = .error e) : e.isRuntimeError = true := by
  unfold ipAddress at h
  split at h
  · cases h
  · cases h; rfl

/-- An optional time column stops a line only by being no time. -/
theorem setTime_error {parsers : Parsers} {value : Text} {rule : Rule} {f : ℤ → Rule} {e : Stop}
    (h : (if value = [] then .ok rule else f <$> parsePostgresTime parsers value) = .error e) :
    e.isRuntimeError = true := by
  split at h
  · cases h
  · cases ht : parsePostgresTime parsers value with
    | ok t => rw [ht] at h; cases h
    | error e' =>
      rw [ht] at h
      cases h
      exact parsePostgresTime_error ht

/-- A line that is not accepted throws a `runtime_error`. -/
theorem fromCSVLine_error {parsers : Parsers} {st : Data × Rule} {linebuf : Text} {e : Stop}
    (h : fromCSVLine parsers st linebuf = .error e) : e.isRuntimeError = true := by
  unfold fromCSVLine at h
  split at h
  · rcases bind_eq_error.mp h with h | ⟨r1, -, h⟩
    · exact setTime_error h
    · rcases bind_eq_error.mp h with h | ⟨r2, -, h⟩
      · exact setTime_error h
      · rcases bind_eq_error.mp h with h | ⟨ip, -, h⟩
        · exact ipAddress_error h
        · cases h
  · cases h; rfl

end ACL

end CallFwd
