/-
# `SIPHandler`: datagrams, replies and the access log

One `SIPHandler` serves a socket for the life of the daemon.  A datagram that does not parse as a
request is dropped without a reply; every other one gets a reply, by its method, and a line in the
access log.  The handler has ONE `AccessLogFormatter` for all its datagrams, which keeps every line
it has written (`AccessLog`).

`onDataAvailable_eq` is what one datagram does, `run_eq` what a sequence does: the n-th message to
the log is the first n lines.  So `logged_iff`: there is one line for each answered request exactly
when no more than one request is answered.

The SIP parser is a parameter, and so is the printing of a socket address.
-/
import CallFwd.AccessLog
import CallFwd.Daemon.Handlers
import CallFwd.PhoneMapping.Number

namespace CallFwd.Sip

open Lib Lib.Reader

/-! ## 1. Messages -/

/-- `method_value`, the methods the handler tells apart. -/
inductive RequestMethod
  | OPTIONS
  | INVITE
  | other
deriving DecidableEq, Repr

/-- `struct hdr_field`: its name and its body. -/
structure HdrField where
  name : Text
  body : Text

/-- `struct sip_uri`: the parts the handler reads. -/
structure SipUri where
  user : Text
  host : Text
  port : Text

/-- `struct sip_msg` after `parse_msg`. -/
structure SipMsg where
  /-- `first_line.type == SIP_REQUEST` -/
  isRequest : Bool
  method : Text
  method_value : RequestMethod
  uri : Text
  h_via1 : Option HdrField
  h_from : Option HdrField
  h_to : Option HdrField
  callid : Option HdrField
  cseq : Option HdrField

/-- `folly::SocketAddress`. -/
structure SocketAddress where
  ip : ACL.IPAddress
  port : UInt16

/-- What the handler depends on: the parser, the address printer, and the flags. -/
structure Env where
  parse_msg : Text → ℕ → Option SipMsg
  parse_uri : Text → Option SipUri
  describe : SocketAddress → Text
  rfc4694 : Bool
  prefetch : Table → ℕ+

/-- A datagram: the first `len` bytes of `recvbuf_`.  With it, what the world is like when it
arrives: the clock, the tables, the clock and the buckets of the access list, and whether the access
log is open. -/
structure Datagram where
  client : SocketAddress
  recvbuf : Text
  len : ℕ
  truncated : Bool
  recvtime : ℤ
  tables : Globals
  now : ℤ
  consume : ACL.Rule → Bool
  logOpen : Bool

variable (env : Env)

/-- `parseMessage(len, truncated)`. -/
def parseMessage (d : Datagram) : Option (SipMsg × SipUri) :=
  if d.len = 0 ∨ d.truncated = true then none
  else do
    let msg ← env.parse_msg d.recvbuf d.len
    if msg.isRequest = false then none
    else do
      let uri ← env.parse_uri msg.uri
      return (msg, uri)

/-! ## 2. Replies -/

/-- A status, its reason, and the lines behind the copied headers. -/
structure Reply where
  status : ℕ
  reason : String
  lines : Text

/-- The Contact line. -/
def contact (uri : SipUri) (pn rn : UInt64) : Text :=
  let address := Dynamic.text ";ndpi@" ++ uri.host ++ [':'] ++ uri.port ++ Dynamic.text ">\r\n"
  if rn ≠ PhoneNumber.NONE then
    Dynamic.text "Contact: <sip:+1" ++ printUint64 pn ++ Dynamic.text ";rn=+1" ++ printUint64 rn ++
      address
  else if env.rfc4694 then Dynamic.text "Contact: <sip:" ++ uri.user ++ address
  else
    Dynamic.text "Contact: <sip:" ++ uri.user ++ Dynamic.text ";rn=" ++ uri.user ++ address

/-- The replies of `handleInvite`, by what it has looked up.  It looks up nothing else than these
two; 503 is what the others are refused with. -/
def inviteReply (uri : SipUri) : Response → Reply
  | .refused 429 => ⟨429, "Too Many Requests", []⟩
  | .refused _ => ⟨401, "Unauthorized", []⟩
  | .moved pn rn =>
    ⟨302, "Moved Temporarily", contact env uri pn rn ++ Dynamic.text "Location-Info: N\r\n"⟩
  | _ => ⟨503, "Service Unavailable", []⟩

/-- What a request is answered with. -/
def answer (d : Datagram) (msg : SipMsg) (uri : SipUri) : Reader Dataset Reply := do
  if ← PhoneMapping.isAvailable then
    match msg.method_value with
    | .OPTIONS => return ⟨200, "OK", []⟩
    | .INVITE => do
      let response ← SIPHandler.handleInvite env.prefetch d.now d.consume d.client.ip
        (PhoneNumber.fromString uri.user)
      return inviteReply env uri response
    | .other => return ⟨405, "Method Not Allowed", []⟩
  else return ⟨503, "Service Unavailable", []⟩

/-- `outputHeader(hdr)`. -/
def outputHeader : Option HdrField → Text
  | none => []
  | some hdr => hdr.name ++ Dynamic.text ": " ++ rtrimWhitespace hdr.body ++ Dynamic.text "\r\n"

/-- The text of a reply. -/
def Reply.print (msg : SipMsg) (r : Reply) : Text :=
  Dynamic.text "SIP/2.0 " ++ Nat.toDigits 10 r.status ++ [' '] ++ Dynamic.text r.reason ++
    Dynamic.text "\r\n" ++ outputHeader msg.h_via1 ++ outputHeader msg.h_from ++
    outputHeader msg.h_to ++ outputHeader msg.callid ++ outputHeader msg.cseq ++ r.lines ++
    Dynamic.text "Content-Length: 0\r\n\r\n"

/-! ## 3. The handler -/

/-- The member that outlives a datagram, what was sent, and what was passed to `writeMessage`. -/
structure Handler where
  log : AccessLogFormatter
  sent : List (SocketAddress × Text)
  written : List Text

def Handler.fresh : Handler := ⟨.fresh, [], []⟩

/-- `onDataAvailable(client, len, truncated)`. -/
def onDataAvailable (h : Handler) (d : Datagram) : Except Stop Handler :=
  match parseMessage env d with
  | none => .ok h
  | some (msg, uri) =>
    let log := h.log.onRequest (env.describe d.client) msg.method msg.uri d.recvtime
    match (answer env d msg uri).run d.tables with
    | none => .error (.undefined .nullRead)
    | some r =>
      let (log, message) := log.onResponse d.logOpen r.status 0
      .ok ⟨log, h.sent ++ [(d.client, r.print msg)], h.written ++ message⟩

/-- A sequence of datagrams. -/
def run (ds : List Datagram) : Except Stop Handler := ds.foldlM (onDataAvailable env) .fresh

/-! ## 4. One datagram -/

/-- The datagram is answered. -/
def answered (d : Datagram) : Bool := (parseMessage env d).isSome

/-- **The line a datagram ought to get**: its own peer, time, method and URI, and the status of the
reply. -/
def lineOf (d : Datagram) : Option Text :=
  match parseMessage env d with
  | none => none
  | some (msg, uri) => ((answer env d msg uri).run d.tables).map fun r =>
      AccessLogFormatter.lineOf (env.describe d.client) msg.method msg.uri d.recvtime r.status 0

variable {env}

/-- The answer is careful with the tables, whoever exchanges them. -/
theorem answer_guarded (d : Datagram) (msg : SipMsg) (uri : SipUri) :
    (answer env d msg uri).Guarded (fun _ _ => True) fun _ => .unknown := by
  refine guarded_ifAvailable ?_ fun _ => trivial
  cases msg.method_value with
  | OPTIONS => trivial
  | other => trivial
  | INVITE =>
    exact (guarded_bind _ _ _).mpr (SIPHandler.handleInvite_guarded env.prefetch d.now d.consume
      d.client.ip (PhoneNumber.fromString uri.user))

theorem run_answer (d : Datagram) (msg : SipMsg) (uri : SipUri) :
    ∃ r, (answer env d msg uri).run d.tables = some r :=
  (answer_guarded d msg uri).run_eq_some nofun

/-- **One datagram**: nothing, or a reply and one more line behind those the formatter holds. -/
theorem onDataAvailable_eq (h : Handler) (d : Datagram) (hopen : d.logOpen = true) :
    (lineOf env d = none ∧ answered env d = false ∧ onDataAvailable env h d = .ok h) ∨
    ∃ line text, lineOf env d = some line ∧ answered env d = true ∧ line ≠ [] ∧
      onDataAvailable env h d = .ok ⟨⟨h.log.message ++ line⟩, h.sent ++ [(d.client, text)],
        h.written ++ [h.log.message ++ line]⟩ := by
  cases hparse : parseMessage env d with
  | none =>
    refine Or.inl ⟨?_, ?_, ?_⟩
    · rw [lineOf, hparse]
    · rw [answered, hparse, Option.isSome_none]
    · rw [onDataAvailable, hparse]
  | some m =>
    obtain ⟨msg, uri⟩ := m
    obtain ⟨r, hr⟩ := @run_answer env d msg uri
    refine Or.inr ⟨AccessLogFormatter.lineOf (env.describe d.client) msg.method msg.uri d.recvtime
      r.status 0, r.print msg, ?_, ?_, AccessLogFormatter.lineOf_ne_nil _ _ _ _ _ _,
      ?_⟩
    · simp only [lineOf, hparse, hr, Option.map_some]
    · rw [answered, hparse, Option.isSome_some]
    · simp only [onDataAvailable, hparse, hr, AccessLogFormatter.onResponse_onRequest, hopen,
        if_true]

/-! ## 5. A sequence of datagrams -/

/-- What is written when nothing is taken away: each message is all the lines so far. -/
def heaped : Text → List Text → List Text
  | _, [] => []
  | held, line :: lines => (held ++ line) :: heaped (held ++ line) lines

/-- **The run**: the formatter holds all lines, and each message all of them so far. -/
theorem foldlM_onDataAvailable {ds : List Datagram} {h : Handler}
    (hopen : ∀ d ∈ ds, d.logOpen = true) :
    ∃ h', ds.foldlM (onDataAvailable env) h = .ok h' ∧
      h'.written = h.written ++ heaped h.log.message (ds.filterMap (lineOf env)) := by
  induction ds generalizing h with
  | nil => exact ⟨h, rfl, by simp [heaped]⟩
  | cons d ds ih =>
    have hrest := fun e he => hopen e (List.mem_cons_of_mem d he)
    rcases onDataAvailable_eq h d (hopen d List.mem_cons_self) with
      ⟨hline, -, hstep⟩ | ⟨line, text, hline, -, -, hstep⟩
    · obtain ⟨h', hrun, hwritten⟩ := @ih h hrest
      refine ⟨h', ?_, ?_⟩
      · rw [List.foldlM_cons, hstep]
        exact hrun
      · rw [List.filterMap_cons, hline, hwritten]
    · obtain ⟨h', hrun, hwritten⟩ :=
        @ih ⟨⟨h.log.message ++ line⟩, h.sent ++ [(d.client, text)],
          h.written ++ [h.log.message ++ line]⟩ hrest
      refine ⟨h', ?_, ?_⟩
      · rw [List.foldlM_cons, hstep]
        exact hrun
      · rw [List.filterMap_cons, hline, hwritten, heaped, List.append_assoc]
        rfl

theorem length_le_heaped (held : Text) (lines : List Text) :
    lines.flatten.length ≤ (heaped held lines).flatten.length := by
  induction lines generalizing held with
  | nil => exact Nat.le_refl _
  | cons line lines ih =>
    have hrest := ih (held ++ line)
    simp only [heaped, List.flatten_cons, List.length_append] at hrest ⊢
    omega

/-- A heap of two lines or more is longer than they are. -/
theorem heaped_eq_iff {lines : List Text} (hne : ∀ line ∈ lines, line ≠ []) :
    (heaped [] lines).flatten = lines.flatten ↔ lines.length ≤ 1 := by
  match lines with
  | [] => simp [heaped]
  | [line] => simp [heaped]
  | line :: next :: lines =>
    refine ⟨?_, fun h => absurd h (by simp)⟩
    intro h
    have hpos : 0 < line.length := List.length_pos_iff.mpr (hne line List.mem_cons_self)
    have hrest := length_le_heaped (line ++ next) lines
    have hlen := congrArg List.length h
    simp only [heaped, List.nil_append, List.flatten_cons, List.length_append] at hlen
    omega

/-- **One line for each answered request**, in order, and each with the data of its request. -/
def Logged (env : Env) (ds : List Datagram) : Prop :=
  ∃ h, run env ds = .ok h ∧ h.written.flatten = (ds.filterMap (lineOf env)).flatten

/-- As many lines are due as datagrams are answered. -/
theorem length_filterMap_lineOf {ds : List Datagram} (hopen : ∀ d ∈ ds, d.logOpen = true) :
    (ds.filterMap (lineOf env)).length = (ds.filter (answered env)).length ∧
      ∀ line ∈ ds.filterMap (lineOf env), line ≠ [] := by
  induction ds with
  | nil => simp
  | cons d ds ih =>
    obtain ⟨hlen, hne⟩ := ih fun e he => hopen e (List.mem_cons_of_mem d he)
    rcases @onDataAvailable_eq env .fresh d (hopen d List.mem_cons_self) with
      ⟨hline, hans, -⟩ | ⟨line, text, hline, hans, hnil, -⟩
    · rw [List.filterMap_cons, hline, List.filter_cons_of_neg (by simp [hans])]
      exact ⟨hlen, hne⟩
    · rw [List.filterMap_cons, hline, List.filter_cons_of_pos hans]
      refine ⟨by simp [hlen], ?_⟩
      intro l hl
      rcases List.mem_cons.mp hl with rfl | hl
      · exact hnil
      · exact hne l hl

/-- What is written is a heap of the lines that are due. -/
theorem logged_iff_lines {ds : List Datagram} (hopen : ∀ d ∈ ds, d.logOpen = true) :
    Logged env ds ↔ (ds.filterMap (lineOf env)).length ≤ 1 := by
  obtain ⟨h, hrun, hwritten⟩ := @foldlM_onDataAvailable env ds .fresh hopen
  have hheap : h.written = heaped [] (ds.filterMap (lineOf env)) := hwritten
  rw [← heaped_eq_iff (length_filterMap_lineOf hopen).2]
  constructor
  · rintro ⟨h', hrun', heq⟩
    rw [run, hrun] at hrun'
    cases hrun'
    rw [← hheap, heq]
  · intro heq
    exact ⟨h, hrun, by rw [hheap, heq]⟩

/-- **The log has one line for each answered request exactly when at most one is answered.** -/
theorem logged_iff (env : Env) (ds : List Datagram) (hopen : ∀ d ∈ ds, d.logOpen = true) :
    Logged env ds ↔ (ds.filter (answered env)).length ≤ 1 := by
  rw [logged_iff_lines hopen, (length_filterMap_lineOf hopen).1]

/-- The request `OPTIONS sip:x@h SIP/2.0`, and a parser that knows it. -/
def Env.sample : Env where
  parse_msg := fun buf len =>
    if buf.take len = Dynamic.text "OPTIONS sip:x@h SIP/2.0\r\n\r\n" then
      some ⟨true, Dynamic.text "OPTIONS", .OPTIONS, Dynamic.text "sip:x@h", none, none, none, none,
        none⟩
    else none
  parse_uri := fun uri =>
    if uri = Dynamic.text "sip:x@h" then some ⟨['x'], ['h'], []⟩ else none
  describe := fun _ => Dynamic.text "10.0.0.1:5060"
  rfc4694 := false
  prefetch := fun _ => Nat.succPNat 15

/-- It arrives, from 10.0.0.1, while no table is loaded. -/
def Datagram.sample : Datagram where
  client := ⟨.v4 0x0a000001#32, 5060⟩
  recvbuf := Dynamic.text "OPTIONS sip:x@h SIP/2.0\r\n\r\n"
  len := 27
  truncated := false
  recvtime := 1582934400
  tables := Globals.initial
  now := 1582934400
  consume := fun _ => true
  logOpen := true

/-- One request between two datagrams that are none. -/
theorem logged_one_request :
    Logged Env.sample [{ Datagram.sample with len := 0 }, Datagram.sample,
      { Datagram.sample with truncated := true }] := by
  refine (logged_iff Env.sample _ ?_).mpr ?_
  · simp [Datagram.sample]
  · decide

/-- The same request twice: its line is written three times. -/
theorem not_logged_two_requests : ¬ Logged Env.sample [Datagram.sample, Datagram.sample] := by
  have hopen : ∀ d ∈ [Datagram.sample, Datagram.sample], d.logOpen = true := by
    simp [Datagram.sample]
  rw [logged_iff_lines hopen, (length_filterMap_lineOf hopen).1]
  decide

end CallFwd.Sip
