/-
# Which datagrams are answered, and how

`parse_msg` skips line ends, has the first line parsed, and then the headers; `onDataAvailable` asks
for a request whose URI is accepted, and looks at the tables.  Here the parsers of the first line and
of the URI are the real ones (`FirstLine`, `ParseUri`).  The parser of the headers stays a parameter:
any function of the buffer, which says nothing of the bytes that the real one looks at.

* `parse_msg_returns_iff`: the loop over line ends looks at a byte before it asks whether it belongs
  to the datagram.  Behind a datagram of line ends this is mostly a byte of the receive buffer that
  an earlier datagram has left there; it is outside the buffer if the datagram fills it.  Up to the
  headers nothing else is read outside the buffer;
* `datagram_answered`: what the handler does with any other datagram, whatever the tables hold and
  whatever earlier datagrams have left behind.
-/
import CallFwd.Daemon.Answers
import CallFwd.Sip.FirstLine
import CallFwd.Sip.Redirect

namespace CallFwd.Sip

open Lib Lib.Reader

/-! ## 1. `parse_msg` -/

def isLineEnd (c : Char) : Bool := c == '\n' || c == '\r'

/-- `for (tmp = buf; (*tmp == '\n' || *tmp == '\r') && tmp - buf < len; tmp++);`, with
`n = len - (tmp - buf)`.  The byte is read first. -/
def eatLineEnds (buf : Text) : ℕ → ℕ → Except Stop ℕ
  | tmp, 0 => do
    let _ ← subscript buf tmp
    return tmp
  | tmp, n + 1 => do
    if isLineEnd (← subscript buf tmp) then eatLineEnds buf (tmp + 1) n else return tmp

/-- The header fields that the handler copies. -/
structure Headers where
  h_via1 : Option HdrField
  h_from : Option HdrField
  h_to : Option HdrField
  callid : Option HdrField
  cseq : Option HdrField

/-- `REQ_METHOD`, as far as the handler tells it. -/
def Method.toRequestMethod : Method → RequestMethod
  | .OPTIONS => .OPTIONS
  | .INVITE => .INVITE
  | _ => .other

def Headers.message (hs : Headers) (isRequest : Bool) (method uri : Text) (m : RequestMethod) :
    SipMsg where
  isRequest := isRequest
  method := method
  method_value := m
  uri := uri
  h_via1 := hs.h_via1
  h_from := hs.h_from
  h_to := hs.h_to
  callid := hs.callid
  cseq := hs.cseq

/-- `parse_msg(buf, len, msg)`.  `parse_headers` is called with `msg->buf`, `msg->len` and the offset
of `msg->unparsed`.  Of a reply the version and the status stand where a request has its method and
its URI. -/
def parse_msg (parse_headers : Text → ℕ → ℕ → Option Headers) (buf : Text) (len : ℕ) :
    Except Stop (Option SipMsg) := do
  let offset ← eatLineEnds buf 0 len
  let (fl, rest) ← parse_first_line ((buf.take len).drop offset)
  match fl with
  | .SIP_INVALID => return none
  | .SIP_REQUEST method uri _ m =>
    return (parse_headers buf len (offset + rest)).map fun hs =>
      hs.message true method uri m.toRequestMethod
  | .SIP_REPLY version status _ _ =>
    return (parse_headers buf len (offset + rest)).map fun hs =>
      hs.message false version status .other

/-- The handler with these parsers. -/
def Env.parsing (env : Env) (parse_headers : Text → ℕ → ℕ → Option Headers) : Env :=
  { env with
    parse_msg := fun buf len =>
      match Sip.parse_msg parse_headers buf len with
      | .ok msg => msg
      | .error _ => none
    parse_uri := parse_sip_msg_uri }

/-! ## 2. The line ends in front -/

section LineEnds

variable {buf t : Text} {len p n : ℕ}

/-- Nothing but line ends, up to the end of the receive buffer. -/
def Overruns (buf : Text) (len : ℕ) : Prop := len = buf.length ∧ ∀ c ∈ buf, isLineEnd c = true

theorem eatLineEnds_error (h : p + n = buf.length) (hall : ∀ c ∈ buf.drop p, isLineEnd c = true) :
    eatLineEnds buf p n = .error (.undefined .outOfBounds) := by
  induction n generalizing p with
  | zero =>
    rw [eatLineEnds, subscript, List.getElem?_eq_none (by omega)]
    rfl
  | succ n ih =>
    have hp : p < buf.length := by omega
    rw [List.drop_eq_getElem_cons hp] at hall
    rw [eatLineEnds, subscript_of_lt hp]
    change (if isLineEnd buf[p] = true then _ else _) = _
    rw [if_pos (hall _ List.mem_cons_self)]
    exact ih (by omega) fun c hc => hall c (List.mem_cons_of_mem _ hc)

theorem eatLineEnds_eq (h : p + n ≤ buf.length)
    (hsafe : ¬ (p + n = buf.length ∧ ∀ c ∈ buf.drop p, isLineEnd c = true)) :
    eatLineEnds buf p n = .ok (p + (((buf.drop p).take n).takeWhile isLineEnd).length) := by
  induction n generalizing p with
  | zero =>
    have hp : p < buf.length := by
      refine lt_of_le_of_ne h fun heq => hsafe ⟨heq, ?_⟩
      rw [List.drop_eq_nil_of_le (Nat.le_of_eq heq.symm)]
      exact fun c hc => absurd hc List.not_mem_nil
    rw [eatLineEnds, subscript_of_lt hp]
    rfl
  | succ n ih =>
    have hp : p < buf.length := by omega
    rw [List.drop_eq_getElem_cons hp] at hsafe ⊢
    rw [eatLineEnds, subscript_of_lt hp, List.take_succ_cons]
    change (if isLineEnd buf[p] = true then _ else _) = _
    cases hend : isLineEnd buf[p] with
    | true =>
      rw [if_pos rfl, ih (by omega), List.takeWhile_cons_of_pos hend, List.length_cons]
      · congr 1
        omega
      · rintro ⟨heq, hall⟩
        refine hsafe ⟨by omega, fun c hc => ?_⟩
        rcases List.mem_cons.mp hc with rfl | hc
        · exact hend
        · exact hall c hc
    | false =>
      rw [if_neg Bool.false_ne_true, List.takeWhile_cons_of_neg (by simp [hend])]
      rfl

/-- What `parse_first_line` gets. -/
def behindLineEnds (buf : Text) (len : ℕ) : Text := (buf.take len).dropWhile isLineEnd

theorem eatLineEnds_zero (hlen : len ≤ buf.length) (hsafe : ¬ Overruns buf len) :
    ∃ offset, eatLineEnds buf 0 len = .ok offset ∧
      (buf.take len).drop offset = behindLineEnds buf len ∧
      offset + (behindLineEnds buf len).length = len := by
  have heat := @eatLineEnds_eq buf 0 len (by omega) (by rwa [Nat.zero_add, List.drop_zero])
  rw [Nat.zero_add, List.drop_zero] at heat
  refine ⟨_, heat, drop_takeWhile_length _ _, ?_⟩
  have hsum := congrArg List.length (@List.takeWhile_append_dropWhile _ isLineEnd (buf.take len))
  rw [List.length_append, List.length_take, Nat.min_eq_left hlen] at hsum
  exact hsum

end LineEnds

/-! ## 3. Requests -/

section Requests

variable {parse_headers : Text → ℕ → ℕ → Option Headers} {buf : Text} {len : ℕ} {env : Env}

/-- **What a request is**: line ends, a request line with its method, and headers behind it. -/
def IsRequest (parse_headers : Text → ℕ → ℕ → Option Headers) (buf : Text) (len : ℕ)
    (msg : SipMsg) : Prop :=
  ∃ version tail m hs, 16 < (behindLineEnds buf len).length ∧ methodOf msg.method = some m ∧
    RequestLine (behindLineEnds buf len) msg.method msg.uri version tail ∧
    parse_headers buf len (len - tail.length + lineEnd tail) = some hs ∧
    msg = hs.message true msg.method msg.uri m.toRequestMethod

/-- Up to the headers `parse_msg` stays in the receive buffer, unless the datagram is nothing but line
ends and fills it. -/
theorem parse_msg_returns_iff (parse_headers : Text → ℕ → ℕ → Option Headers)
    (hlen : len ≤ buf.length) :
    (∃ msg, parse_msg parse_headers buf len = .ok msg) ↔ ¬ Overruns buf len := by
  constructor
  · rintro ⟨msg, hmsg⟩ ⟨hfull, hall⟩
    have herror := @eatLineEnds_error buf 0 len (by omega) (by rwa [List.drop_zero])
    rw [parse_msg, herror] at hmsg
    cases hmsg
  · intro hsafe
    obtain ⟨offset, heat, hdrop, -⟩ := eatLineEnds_zero hlen hsafe
    obtain ⟨start, nl, hfirst, -⟩ := first_line_returns (behindLineEnds buf len)
    rw [parse_msg, heat]
    change ∃ msg, (do
      let (fl, rest) ← parse_first_line ((buf.take len).drop offset)
      _ : Except Stop (Option SipMsg)) = .ok msg
    rw [hdrop, hfirst]
    cases start with
    | SIP_REQUEST method uri version m => exact ⟨_, rfl⟩
    | SIP_REPLY version status reason code => exact ⟨_, rfl⟩
    | SIP_INVALID => exact ⟨_, rfl⟩

/-- The length of what lies behind the version, and of the rest of the datagram. -/
theorem length_tail {line method uri version tail : Text}
    (h : RequestLine line method uri version tail) : tail.length ≤ line.length := by
  obtain ⟨gap, rfl, -⟩ := h.text
  simp only [List.length_append, List.length_cons]
  omega

theorem parse_msg_request_iff (hlen : len ≤ buf.length) (hsafe : ¬ Overruns buf len)
    {msg : SipMsg} :
    (parse_msg parse_headers buf len = .ok (some msg) ∧ msg.isRequest = true) ↔
      IsRequest parse_headers buf len msg := by
  obtain ⟨offset, heat, hdrop, hsum⟩ := eatLineEnds_zero hlen hsafe
  rw [parse_msg, heat]
  change ((do
    let (fl, rest) ← parse_first_line ((buf.take len).drop offset)
    _ : Except Stop (Option SipMsg)) = .ok (some msg) ∧ _) ↔ _
  rw [hdrop]
  constructor
  · rintro ⟨hmsg, hreq⟩
    obtain ⟨⟨fl, rest⟩, hfirst, hmsg⟩ := bind_eq_ok.mp hmsg
    cases fl with
    | SIP_INVALID => cases hmsg
    | SIP_REPLY version status reason code =>
      obtain ⟨hs, -, rfl⟩ := Option.map_eq_some_iff.mp (Except.ok.inj hmsg)
      cases hreq
    | SIP_REQUEST method uri version m =>
      obtain ⟨hs, hheaders, rfl⟩ := Option.map_eq_some_iff.mp (Except.ok.inj hmsg)
      obtain ⟨hlong, hmethod, tail, hline, rfl⟩ := request_iff.mp hfirst
      rw [scanned_iff] at hline
      refine ⟨version, tail, m, hs, hlong, hmethod, hline, ?_, rfl⟩
      rw [← hheaders]
      have hle := length_tail hline
      congr 1
      omega
  · rintro ⟨version, tail, m, hs, hlong, hmethod, hline, hheaders, hmsg⟩
    have hfirst := request_iff.mpr ⟨hlong, hmethod, tail, scanned_iff.mpr hline, rfl⟩
    have hle := length_tail hline
    have hoffset : offset + ((behindLineEnds buf len).length - tail.length + lineEnd tail) =
        len - tail.length + lineEnd tail := by omega
    refine ⟨?_, by rw [hmsg]; rfl⟩
    rw [hfirst]
    change Except.ok ((parse_headers buf len _).map _) = _
    rw [hoffset, hheaders, hmsg]
    rfl

end Requests

/-! ## 4. Replies -/

/-- **What a request ought to be answered**, from the acknowledged files. -/
def replyFrom (ledger : Ledger) (env : Env) (d : Datagram) (m : RequestMethod) (uri : SipUri) :
    Reply :=
  if (ledger .us).isSome ∧ (ledger .ca).isSome then
    match m with
    | .OPTIONS => ⟨200, "OK", []⟩
    | .other => ⟨405, "Method Not Allowed", []⟩
    | .INVITE =>
      let status := ACL.isCallAllowed d.now d.consume ledger.acl d.client.ip
      if status = 429 then ⟨429, "Too Many Requests", []⟩
      else if status = 401 then ⟨401, "Unauthorized", []⟩
      else
        let pn := PhoneNumber.fromString uri.user
        ⟨302, "Moved Temporarily", contact env uri pn (ledger.redirectRN pn) ++
          Dynamic.text "Location-Info: N\r\n"⟩
  else ⟨503, "Service Unavailable", []⟩

section Replies

variable {env : Env} {parse_headers : Text → ℕ → ℕ → Option Headers} {ledger : Ledger}
  {d : Datagram} {msg : SipMsg} {uri : SipUri}

/-- An INVITE is a query of the tables, printed. -/
theorem run_answer_invite (hm : msg.method_value = .INVITE) :
    (answer env d msg uri).run d.tables =
      ((Query.serve env.prefetch (.invite d.now d.consume d.client.ip
        (PhoneNumber.fromString uri.user))).run d.tables).map (inviteReply env uri) := by
  rw [answer, Query.serve, run_bind, run_bind, run_isAvailable_mapping, Option.bind_some,
    Option.bind_some]
  cases (d.tables .us).isSome && (d.tables .ca).isSome with
  | false => rfl
  | true =>
    simp only [hm, if_true]
    rw [run_bind, Option.map_eq_bind]
    rfl

/-- The other methods ask only whether the tables are there. -/
theorem run_answer_other (h : Represents d.tables ledger) (hm : msg.method_value ≠ .INVITE) :
    (answer env d msg uri).run d.tables = some (replyFrom ledger env d msg.method_value uri) := by
  unfold replyFrom
  rw [answer, run_bind, run_isAvailable_mapping, Option.bind_some, h.isSome_eq, h.isSome_eq]
  cases (d.tables .us).isSome with
  | false => rfl
  | true =>
    cases (d.tables .ca).isSome with
    | false => rfl
    | true =>
      cases hvalue : msg.method_value with
      | OPTIONS => rfl
      | other => rfl
      | INVITE => exact absurd hvalue hm

theorem run_answer_eq (h : Represents d.tables ledger) (env : Env) (msg : SipMsg) (uri : SipUri) :
    (answer env d msg uri).run d.tables = some (replyFrom ledger env d msg.method_value uri) := by
  by_cases hm : msg.method_value = .INVITE
  · obtain ⟨response, hrun⟩ := (Query.serve_guarded env.prefetch (.invite d.now d.consume d.client.ip
      (PhoneNumber.fromString uri.user))).run_eq_some (p := d.tables) nofun
    have hanswer := h.answers _ hrun
    rw [run_answer_invite hm, hrun, Option.map_some, hm]
    unfold Ledger.Answers at hanswer
    unfold replyFrom
    by_cases hfiles : (ledger .us).isSome ∧ (ledger .ca).isSome
    · rw [if_pos hfiles] at hanswer ⊢
      simp only at hanswer ⊢
      rw [hanswer]
      generalize ACL.isCallAllowed d.now d.consume ledger.acl d.client.ip = status
      by_cases hmany : status = 429
      · subst hmany
        rfl
      · by_cases hnone : status = 401
        · subst hnone
          rfl
        · rw [if_neg (by simp only [hmany, hnone, or_self, not_false_eq_true]), if_neg hmany,
            if_neg hnone]
          rfl
    · rw [if_neg hfiles] at hanswer ⊢
      rw [hanswer]
      rfl
  · exact run_answer_other h hm

/-- A datagram that is a request with an acceptable URI. -/
def Asks (parse_headers : Text → ℕ → ℕ → Option Headers) (d : Datagram) (msg : SipMsg)
    (uri : SipUri) : Prop :=
  d.truncated = false ∧ IsRequest parse_headers d.recvbuf d.len msg ∧
    parse_sip_msg_uri msg.uri = some uri

theorem parseMessage_iff (hlen : d.len ≤ d.recvbuf.length) (hsafe : ¬ Overruns d.recvbuf d.len) :
    parseMessage (env.parsing parse_headers) d = some (msg, uri) ↔ Asks parse_headers d msg uri := by
  have hparse : ∀ msg, (env.parsing parse_headers).parse_msg d.recvbuf d.len = some msg ↔
      parse_msg parse_headers d.recvbuf d.len = .ok (some msg) := by
    intro msg
    obtain ⟨o, ho⟩ := (parse_msg_returns_iff parse_headers hlen).mpr hsafe
    change (match parse_msg parse_headers d.recvbuf d.len with | .ok msg => msg | .error _ => none) =
      some msg ↔ _
    rw [ho, Except.ok.injEq]
  unfold parseMessage Asks
  by_cases hdead : d.len = 0 ∨ d.truncated = true
  · rw [if_pos hdead]
    refine iff_of_false nofun ?_
    rintro ⟨hwhole, ⟨_, _, _, _, hlong, -⟩, -⟩
    rcases hdead with hzero | htruncated
    · rw [hzero, behindLineEnds, List.take_zero] at hlong
      exact absurd hlong (by decide)
    · rw [hwhole] at htruncated
      cases htruncated
  · rw [not_or, Bool.not_eq_true] at hdead
    rw [if_neg (by rw [not_or, Bool.not_eq_true]; exact hdead), ← parse_msg_request_iff hlen hsafe]
    constructor
    · intro h
      obtain ⟨msg', hmsg, h⟩ := Option.bind_eq_some_iff.mp h
      split at h
      · cases h
      · rename_i hreq
        obtain ⟨uri', huri, h⟩ := Option.bind_eq_some_iff.mp h
        cases h
        exact ⟨hdead.2, ⟨(hparse _).mp hmsg, by simpa using hreq⟩, huri⟩
    · rintro ⟨-, ⟨hmsg, hreq⟩, huri⟩
      refine Option.bind_eq_some_iff.mpr ⟨msg, (hparse _).mpr hmsg, ?_⟩
      rw [if_neg (by rw [hreq]; exact Bool.noConfusion)]
      exact Option.bind_eq_some_iff.mpr ⟨uri, huri, rfl⟩

end Replies

/-- **What the handler does with a datagram**, after any control messages and whatever it has done
before.  Unless the datagram is nothing but line ends and fills the receive buffer, nothing outside
this buffer is read in front of the headers.  The sender of a request whose headers are parsed and
whose URI is accepted is answered, once, with what the acknowledged files say, and nothing is done
with any other datagram. -/
theorem datagram_answered {host : Host} {xs : List (Request × List Char)} {d : Datagram}
    (hrun : Run (Served host) Globals.initial xs d.tables) (hlen : d.len ≤ d.recvbuf.length)
    (env : Env) (parse_headers : Text → ℕ → ℕ → Option Headers) (h : Handler) :
    ((∃ msg, parse_msg parse_headers d.recvbuf d.len = .ok msg) ↔ ¬ Overruns d.recvbuf d.len) ∧
    (¬ Overruns d.recvbuf d.len →
      ∃ h', onDataAvailable (env.parsing parse_headers) h d = .ok h' ∧
        (∀ msg uri, Asks parse_headers d msg uri → h'.sent = h.sent ++ [(d.client,
          (replyFrom (Ledger.after host xs) env d msg.method_value uri).print msg)]) ∧
        ((¬ ∃ msg uri, Asks parse_headers d msg uri) → h' = h)) := by
  refine ⟨parse_msg_returns_iff parse_headers hlen, fun hsafe => ?_⟩
  have hrep : Represents d.tables (Ledger.after host xs) :=
    hrun.foldl (fun _ _ _ _ hrep hstep => represents_step hrep hstep) represents_initial
  cases hparse : parseMessage (env.parsing parse_headers) d with
  | none =>
    refine ⟨h, by rw [onDataAvailable, hparse], fun msg uri hasks => ?_, fun _ => rfl⟩
    rw [(parseMessage_iff hlen hsafe).mpr hasks] at hparse
    cases hparse
  | some m =>
    obtain ⟨msg, uri⟩ := m
    have hanswer := run_answer_eq hrep (env.parsing parse_headers) msg uri
    obtain ⟨log, written, hstep⟩ : ∃ log written,
        onDataAvailable (env.parsing parse_headers) h d = .ok ⟨log, h.sent ++ [(d.client,
          (replyFrom (Ledger.after host xs) env d msg.method_value uri).print msg)], written⟩ := by
      rw [onDataAvailable, hparse]
      simp only [hanswer]
      exact ⟨_, _, rfl⟩
    refine ⟨_, hstep, fun msg' uri' hasks => ?_, fun hno =>
      absurd ⟨msg, uri, (parseMessage_iff hlen hsafe).mp hparse⟩ hno⟩
    rw [(parseMessage_iff hlen hsafe).mpr hasks] at hparse
    cases hparse
    rfl

/-- A parser for messages without headers. -/
def noHeaders (_ : Text) (_ _ : ℕ) : Option Headers := some ⟨none, none, none, none, none⟩

/-- `OPTIONS sip:x@h SIP/2.0` before any file is loaded. -/
theorem datagram_answered_options :
    ∃ h', onDataAvailable (Env.sample.parsing noHeaders) Handler.fresh Datagram.sample = .ok h' ∧
      h'.sent = [(⟨.v4 0x0a000001#32, 5060⟩,
        Dynamic.text "SIP/2.0 503 Service Unavailable\r\nContent-Length: 0\r\n\r\n")] := by
  have hsafe : ¬ Overruns Datagram.sample.recvbuf Datagram.sample.len := by
    rintro ⟨-, hall⟩
    exact absurd (hall 'O' (by decide)) (by decide)
  obtain ⟨-, hanswered⟩ := datagram_answered (.nil Globals.initial : Run (Served Host.plain) _ [] _)
    (d := Datagram.sample) (by decide) Env.sample noHeaders Handler.fresh
  obtain ⟨h', hstep, hsent, -⟩ := hanswered hsafe
  refine ⟨h', hstep, ?_⟩
  have hline : RequestLine Datagram.sample.recvbuf (Dynamic.text "OPTIONS")
      (Dynamic.text "sip:x@h") (Dynamic.text "SIP/2.0") (Dynamic.text "\r\n\r\n") :=
    scanned_iff.mp ⟨⟨rfl, by decide⟩, rfl, rfl, by decide, ⟨rfl, by decide⟩, rfl, rfl, by decide⟩
  exact hsent ⟨true, Dynamic.text "OPTIONS", .OPTIONS, Dynamic.text "sip:x@h", none, none, none, none,
    none⟩ ⟨['x'], ['h'], []⟩ ⟨rfl, ⟨_, _, .OPTIONS, _, by decide, by decide, hline, rfl, rfl⟩, by rfl⟩

end CallFwd.Sip
