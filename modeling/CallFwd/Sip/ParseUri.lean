/-
# `parse_uri`: one pass over a SIP URI

The parser behind `parse_sip_msg_uri` reads a URI once, a byte at a time, in one of a hundred
states.  It does not look ahead for the `@`: a text before it is taken for host and parameters until
an `@` turns up, and `still_at_user` then takes it all back.  The parameters it knows are spelled by
the states, and the source writes these with macros; `row` lists the macro of each such state, one
line of the source a line.

A `str` points into the buffer, so here it is an offset and a length.  Where no parameter has begun
the source subtracts a null pointer, and the length it gets has no meaning; `span` counts from the
start of the buffer then.
-/
import CallFwd.Runtime

namespace CallFwd.Sip.ParseUri

/-! ## 1. What is parsed -/

/-- `str`: where the text begins in the buffer, if anywhere, and how long it is. -/
structure Str where
  s : Option ℕ
  len : ℕ
deriving DecidableEq, Repr

def Str.null : Str := ⟨none, 0⟩

/-- The bytes of a `str`. -/
def Str.text (buf : Text) (r : Str) : Text :=
  match r.s with
  | none => []
  | some a => (buf.drop a).take r.len

/-- From a start to `p`, exclusive. -/
def span (start : Option ℕ) (p : ℕ) : Str := ⟨start, p - start.getD 0⟩

/-- `uri_type`. -/
inductive UriType
  | ERROR_URI_T
  | SIP_URI_T
  | SIPS_URI_T
  | TEL_URI_T
  | TELS_URI_T
  | URN_SERVICE_URI_T
  | URN_NENA_SERVICE_URI_T
deriving DecidableEq, Repr

/-- `enum sip_protos`, the ones the parser sets. -/
inductive Proto
  | PROTO_NONE
  | PROTO_UDP
  | PROTO_TCP
  | PROTO_TLS
  | PROTO_SCTP
  | PROTO_WS
  | PROTO_WSS
  | PROTO_OTHER
deriving DecidableEq, Repr

/-- The parameters that have members of their own. -/
inductive Param
  | transport
  | ttl
  | user_param
  | maddr
  | method
  | lr
  | r2
  | gr
  | pn_provider
  | pn_prid
  | pn_param
  | pn_purr
deriving DecidableEq, Repr

/-- `URI_MAX_U_PARAMS` -/
def URI_MAX_U_PARAMS : ℕ := 10

/-- `struct sip_uri`.  Each parameter has a member for all of it and one, `…_val`, for its value;
`u_params` are `u_name` and `u_val` up to `u_params_no`. -/
structure ParsedUri where
  user : Str
  passwd : Str
  host : Str
  port : Str
  params : Str
  headers : Str
  port_no : UInt16
  proto : Proto
  type : UriType
  param : Param → Str
  param_val : Param → Str
  u_params : List (Str × Str)

/-- `memset(uri, 0, sizeof(struct sip_uri))`, but for the type. -/
def ParsedUri.zero (type : UriType) : ParsedUri where
  user := .null
  passwd := .null
  host := .null
  port := .null
  params := .null
  headers := .null
  port_no := 0
  proto := .PROTO_NONE
  type := type
  param := fun _ => .null
  param_val := fun _ => .null
  u_params := []

/-- The labels behind the scan. -/
inductive Failure
  | error_too_short
  | error_bad_char
  | error_bad_host
  | error_bad_port
  | error_bad_uri
  | error_headers
  | error_bug
deriving DecidableEq, Repr

/-! ## 2. The states -/

/-- `enum states`. -/
inductive State
  | URI_INIT | URI_USER | URI_PASSWORD | URI_PASSWORD_ALPHA
  | URI_HOST | URI_HOST_P
  | URI_HOST6_P | URI_HOST6_END | URI_PORT
  | URI_PARAM | URI_PARAM_P | URI_PARAM_VAL_P
  | URI_VAL_P | URI_HEADERS
  -- transport
  | PT_T | PT_R | PT_A | PT_N | PT_S | PT_P | PT_O | PT_R2 | PT_T2
  | PT_eq
  -- ttl
  | PTTL_T2 | PTTL_L | PTTL_eq
  -- user
  | PU_U | PU_S | PU_E | PU_R | PU_eq
  -- method
  | PM_M | PM_E | PM_T | PM_H | PM_O | PM_D | PM_eq
  -- maddr
  | PMA_A | PMA_D | PMA_D2 | PMA_R | PMA_eq
  -- lr
  | PLR_L | PLR_R_FIN | PLR_eq
  -- gr
  | PG_G | PG_G_FIN | PG_eq
  -- r2
  | PR2_R | PR2_2_FIN | PR2_eq
  -- transport values: udp, tcp, tls, sctp, ws and wss
  | VU_U | VU_D | VU_P_FIN
  | VT_T | VT_C | VT_P_FIN
  | VTLS_L | VTLS_S_FIN
  | VS_S | VS_C | VS_T | VS_P_FIN
  | VW_W | VW_S | VW_S_FIN | VWS_S_FIN
  -- pn-provider, pn-prid, pn-param and pn-purr
  | PN_P | PN_N | PN_dash | PN_P2 | PN_PR
  | PN1_O | PN1_V | PN1_I | PN1_D | PN1_E | PN1_FIN | PN1_eq
  | PN2_I | PN2_D | PN2_eq
  | PN3_A | PN3_R | PN3_A2 | PN3_M | PN3_eq
  | PN4_U | PN4_R | PN4_R2 | PN4_eq
deriving DecidableEq, Repr

/-- The locals of `parse_uri`.  `port_no` is an `int`; it wraps here where that would overflow. -/
structure Scan where
  state : State
  s : ℕ
  b : Option ℕ
  v : Option ℕ
  param : Option Param
  param_val : Option Param
  pass : Option ℕ
  port_no : UInt32
  found_user : Bool
  error_headers : Bool
  uri : ParsedUri

/-- The initialization, with `p` behind the scheme. -/
def Scan.init (type : UriType) (p : ℕ) : Scan where
  state := .URI_INIT
  s := p
  b := none
  v := none
  param := none
  param_val := none
  pass := none
  port_no := 0
  found_user := false
  error_headers := false
  uri := .zero type

/-! ## 3. The macros -/

section Macros

variable (p : ℕ) (c : Char) (sc : Scan)

/-- `case_port`: one more digit. -/
def case_port : Scan :=
  { sc with port_no := sc.port_no * 10 + UInt32.ofNat (c.toNat - '0'.toNat) }

/-- `still_at_user`. -/
def still_at_user : Except Failure Scan :=
  if sc.found_user then .error .error_bad_char
  else
    let user := match sc.pass with
      | some pass => span sc.uri.host.s pass
      | none => span sc.uri.host.s p
    let passwd := match sc.pass with
      | some pass => span (some (pass + 1)) p
      | none => .null
    .ok { sc with
      state := .URI_HOST
      s := p + 1
      found_user := true
      error_headers := false
      uri := { ParsedUri.zero sc.uri.type with user := user, passwd := passwd } }

/-- `check_host_end`, for the three bytes that end a host; the two that cannot be in one. -/
def check_host_end (next : State) : Scan :=
  { sc with state := next, s := p + 1, uri := { sc.uri with host := span (some sc.s) p } }

/-- `param_set(b, v)`. -/
def param_set : Scan :=
  let param := match sc.param with
    | some q => Function.update sc.uri.param q (span sc.b p)
    | none => sc.uri.param
  let param_val := match sc.param_val with
    | some q => Function.update sc.uri.param_val q (span sc.v p)
    | none => sc.uri.param_val
  { sc with uri := { sc.uri with param := param, param_val := param_val } }

/-- `u_param_set(b, v)`. -/
def u_param_set : Scan :=
  if sc.uri.u_params.length < URI_MAX_U_PARAMS then
    let entry :=
      if sc.b.getD 0 < sc.v.getD 0 then
        (⟨sc.b, sc.v.getD 0 - sc.b.getD 0 - 1⟩,
          if sc.v.getD 0 < p then span sc.v p else .null)
      else (span sc.b p, .null)
    { sc with uri := { sc.uri with u_params := sc.uri.u_params ++ [entry] } }
  else sc

/-- `uri->lr.s=b; uri->lr.len=(p-b)`, and the like. -/
def fin_set (q : Param) : Scan :=
  { sc with uri := { sc.uri with param := Function.update sc.uri.param q (span sc.b p) } }

/-- There is no password: it cannot contain this byte, or two colons. -/
def noPass : Scan :=
  if sc.pass.isSome then { sc with found_user := true, pass := none } else sc

/-- `semicolon_case`. -/
def semicolon_case : Scan := { noPass sc with state := .URI_PARAM }

/-- `question_case`. -/
def question_case : Scan :=
  noPass { sc with
    uri := { sc.uri with params := span (some sc.s) p }
    state := .URI_HEADERS
    s := p + 1 }

/-- What `colon_case` does to `pass`, and `URI_HEADERS` as well. -/
def mightBePass : Scan :=
  if sc.found_user then sc
  else if sc.pass.isSome then noPass sc
  else { sc with pass := some p }

/-- `colon_case`. -/
def colon_case : Scan := { mightBePass p sc with state := .URI_PARAM_P }

/-- The cases that all parameter states share, by what is stored at the end of the parameter and by
the state a colon leaves; and the rest. -/
def common_cases (store : Scan → Scan) (colon : State) (rest : Except Failure Scan) :
    Except Failure Scan :=
  if c = '@' then still_at_user p sc
  else if c = ';' then .ok (store (semicolon_case sc))
  else if c = '?' then .ok (store (question_case p sc))
  else if c = ':' then .ok { colon_case p sc with state := colon }
  else rest

/-- `param_common_cases`. -/
def param_common_cases (rest : Except Failure Scan) : Except Failure Scan :=
  common_cases p c sc id .URI_PARAM_P rest

/-- `u_param_common_cases`. -/
def u_param_common_cases (rest : Except Failure Scan) : Except Failure Scan :=
  common_cases p c sc (u_param_set p) .URI_PARAM_P rest

/-- `value_common_cases`. -/
def value_common_cases (rest : Except Failure Scan) : Except Failure Scan :=
  common_cases p c sc (param_set p) .URI_VAL_P rest

/-- The state that a letter, in either case, leads to. -/
def letter (cases : List (Char × Char × State)) : Option State :=
  (cases.find? fun k => c = k.1 ∨ c = k.2.1).map fun k => k.2.2

end Macros

/-- What the source writes for a state: one of its macros, or the two patterns it spells out for
parameters that need no value (`fin`) and for the first byte of a value (`eq`). -/
inductive Row
  /-- `param_switch`, `param_switch_big` and `param_switch_bigger` -/
  | param_switch (cases : List (Char × Char × State))
  | param_switch1 (c1 : Char) (new : State)
  | param_xswitch1 (c1 : Char) (new : State)
  /-- `value_switch` and `value_switch_big` -/
  | value_switch (cases : List (Char × Char × State))
  | transport_fin (proto : Proto)
  | fin (param : Param) (eq : State)
  | eq (param : Param)

/-- `case` by `case`, the states that spell parameters and transports. -/
def row : State → Option Row
  | .PT_T => some (.param_switch [('r', 'R', .PT_R), ('t', 'T', .PTTL_T2)])
  | .PT_R => some (.param_switch [('a', 'A', .PT_A)])
  | .PT_A => some (.param_switch [('n', 'N', .PT_N)])
  | .PT_N => some (.param_switch [('s', 'S', .PT_S)])
  | .PT_S => some (.param_switch [('p', 'P', .PT_P)])
  | .PT_P => some (.param_switch [('o', 'O', .PT_O)])
  | .PT_O => some (.param_switch [('r', 'R', .PT_R2)])
  | .PT_R2 => some (.param_switch [('t', 'T', .PT_T2)])
  | .PT_T2 => some (.param_switch1 '=' .PT_eq)
  | .VU_U => some (.value_switch [('d', 'D', .VU_D)])
  | .VU_D => some (.value_switch [('p', 'P', .VU_P_FIN)])
  | .VU_P_FIN => some (.transport_fin .PROTO_UDP)
  | .VT_T => some (.value_switch [('c', 'C', .VT_C), ('l', 'L', .VTLS_L)])
  | .VT_C => some (.value_switch [('p', 'P', .VT_P_FIN)])
  | .VT_P_FIN => some (.transport_fin .PROTO_TCP)
  | .VTLS_L => some (.value_switch [('s', 'S', .VTLS_S_FIN)])
  | .VTLS_S_FIN => some (.transport_fin .PROTO_TLS)
  | .VS_S => some (.value_switch [('c', 'C', .VS_C)])
  | .VS_C => some (.value_switch [('t', 'T', .VS_T)])
  | .VS_T => some (.value_switch [('p', 'P', .VS_P_FIN)])
  | .VS_P_FIN => some (.transport_fin .PROTO_SCTP)
  | .VW_W => some (.value_switch [('s', 'S', .VW_S)])
  | .VW_S_FIN => some (.transport_fin .PROTO_WS)
  | .VWS_S_FIN => some (.transport_fin .PROTO_WSS)
  | .PTTL_T2 => some (.param_switch [('l', 'L', .PTTL_L)])
  | .PTTL_L => some (.param_switch1 '=' .PTTL_eq)
  | .PTTL_eq => some (.eq .ttl)
  | .PU_U => some (.param_switch [('s', 'S', .PU_S)])
  | .PU_S => some (.param_switch [('e', 'E', .PU_E)])
  | .PU_E => some (.param_switch [('r', 'R', .PU_R)])
  | .PU_R => some (.param_switch1 '=' .PU_eq)
  | .PU_eq => some (.eq .user_param)
  | .PM_M => some (.param_switch [('e', 'E', .PM_E), ('a', 'A', .PMA_A)])
  | .PM_E => some (.param_switch [('t', 'T', .PM_T)])
  | .PM_T => some (.param_switch [('h', 'H', .PM_H)])
  | .PM_H => some (.param_switch [('o', 'O', .PM_O)])
  | .PM_O => some (.param_switch [('d', 'D', .PM_D)])
  | .PM_D => some (.param_switch1 '=' .PM_eq)
  | .PM_eq => some (.eq .method)
  | .PMA_A => some (.param_switch [('d', 'D', .PMA_D)])
  | .PMA_D => some (.param_switch [('d', 'D', .PMA_D2)])
  | .PMA_D2 => some (.param_switch [('r', 'R', .PMA_R)])
  | .PMA_R => some (.param_switch1 '=' .PMA_eq)
  | .PMA_eq => some (.eq .maddr)
  | .PLR_L => some (.param_switch [('r', 'R', .PLR_R_FIN)])
  | .PLR_R_FIN => some (.fin .lr .PLR_eq)
  | .PLR_eq => some (.eq .lr)
  | .PR2_R => some (.param_switch1 '2' .PR2_2_FIN)
  | .PR2_2_FIN => some (.fin .r2 .PR2_eq)
  | .PR2_eq => some (.eq .r2)
  | .PG_G => some (.param_switch [('r', 'R', .PG_G_FIN)])
  | .PG_G_FIN => some (.fin .gr .PG_eq)
  | .PG_eq => some (.eq .gr)
  | .PN_P => some (.param_switch [('n', 'N', .PN_N)])
  | .PN_N => some (.param_switch1 '-' .PN_dash)
  | .PN_dash => some (.param_switch [('p', 'P', .PN_P2)])
  | .PN_P2 => some (.param_switch [('r', 'R', .PN_PR), ('a', 'A', .PN3_A), ('u', 'U', .PN4_U)])
  | .PN_PR => some (.param_switch [('o', 'O', .PN1_O), ('i', 'I', .PN2_I)])
  | .PN1_O => some (.param_switch [('v', 'V', .PN1_V)])
  | .PN1_V => some (.param_switch [('i', 'I', .PN1_I)])
  | .PN1_I => some (.param_switch [('d', 'D', .PN1_D)])
  | .PN1_D => some (.param_switch [('e', 'E', .PN1_E)])
  | .PN1_E => some (.param_switch [('r', 'R', .PN1_FIN)])
  | .PN1_FIN => some (.fin .pn_provider .PN1_eq)
  | .PN1_eq => some (.eq .pn_provider)
  | .PN2_I => some (.param_switch [('d', 'D', .PN2_D)])
  | .PN2_D => some (.param_xswitch1 '=' .PN2_eq)
  | .PN2_eq => some (.eq .pn_prid)
  | .PN3_A => some (.param_switch [('r', 'R', .PN3_R)])
  | .PN3_R => some (.param_switch [('a', 'A', .PN3_A2)])
  | .PN3_A2 => some (.param_switch [('m', 'M', .PN3_M)])
  | .PN3_M => some (.param_xswitch1 '=' .PN3_eq)
  | .PN3_eq => some (.eq .pn_param)
  | .PN4_U => some (.param_switch [('r', 'R', .PN4_R)])
  | .PN4_R => some (.param_switch [('r', 'R', .PN4_R2)])
  | .PN4_R2 => some (.param_xswitch1 '=' .PN4_eq)
  | .PN4_eq => some (.eq .pn_purr)
  | _ => none

/-- `transport_fin(c_state, proto_no)`. -/
def transport_fin (proto : Proto) (p : ℕ) (c : Char) (sc : Scan) : Except Failure Scan :=
  common_cases p c sc
    (fun sc => let sc := param_set p sc; { sc with uri := { sc.uri with proto := proto } })
    .URI_VAL_P (.ok { sc with state := .URI_VAL_P })

/-- The code of a row. -/
def Row.run (r : Row) (p : ℕ) (c : Char) (sc : Scan) : Except Failure Scan :=
  match r with
  | .param_switch cases =>
    match letter c cases with
    | some new => .ok { sc with state := new }
    | none => u_param_common_cases p c sc (.ok { sc with state := .URI_PARAM_P })
  | .param_switch1 c1 new =>
    if c = c1 then .ok { sc with state := new }
    else param_common_cases p c sc (.ok { sc with state := .URI_PARAM_P })
  | .param_xswitch1 c1 new =>
    if c = c1 then .ok { sc with state := new } else .error .error_bad_char
  | .value_switch cases =>
    match letter c cases with
    | some new => .ok { sc with state := new }
    | none => value_common_cases p c sc (.ok { sc with state := .URI_VAL_P })
  | .transport_fin proto => ParseUri.transport_fin proto p c sc
  | .fin q next =>
    -- `PN1_FIN` also points `param` at its member, which `PN1_eq` does again before any use.
    let sc := if q = .pn_provider then { sc with param := some q } else sc
    if c = '=' then .ok { sc with state := next }
    else common_cases p c sc (fin_set p · q) .URI_PARAM_P (.ok { sc with state := .URI_PARAM_P })
  | .eq q =>
    let sc := { sc with param := some q, param_val := some q }
    param_common_cases p c sc (.ok { sc with v := some p, state := .URI_VAL_P })

/-! ## 4. One byte -/

/-- The `switch` of the loop. -/
def step (p : ℕ) (c : Char) (sc : Scan) : Except Failure Scan :=
  match sc.state with
  | .URI_INIT =>
    if c = '[' then .ok { sc with state := .URI_HOST6_P, s := p }
    else if c = ']' ∨ c = ':' ∨ c = '@' then .error .error_bad_char
    else .ok { sc with state := .URI_USER }
  | .URI_USER =>
    if c = '@' then
      .ok { sc with
        uri := { sc.uri with user := span (some sc.s) p }
        state := .URI_HOST, found_user := true, s := p + 1 }
    else if c = ':' then
      .ok { sc with
        uri := { sc.uri with user := span (some sc.s) p }
        state := .URI_PASSWORD, s := p + 1 }
    else if c = ';' then .ok (check_host_end p sc .URI_PARAM)
    else if c = '?' then .ok (check_host_end p sc .URI_HEADERS)
    else if c = '[' ∨ c = ']' then .error .error_bad_char
    else .ok sc
  | .URI_PASSWORD =>
    if c = '@' then
      .ok { sc with
        uri := { sc.uri with passwd := span (some sc.s) p }
        port_no := 0, state := .URI_HOST, found_user := true, s := p + 1 }
    else if c = ';' ∨ c = '?' then
      -- This is the port, and the user is in fact the host.
      .ok { sc with
        uri := { sc.uri with
          port := span (some sc.s) p
          port_no := sc.port_no.toUInt16
          host := sc.uri.user
          user := .null }
        state := if c = ';' then .URI_PARAM else .URI_HEADERS
        found_user := true, s := p + 1 }
    else if c.isDigit then .ok (case_port c sc)
    else if c = '[' ∨ c = ']' ∨ c = ':' then .error .error_bad_char
    else .ok { sc with port_no := 0, state := .URI_PASSWORD_ALPHA }
  | .URI_PASSWORD_ALPHA =>
    if c = '@' then
      .ok { sc with
        uri := { sc.uri with passwd := span (some sc.s) p }
        state := .URI_HOST, found_user := true, s := p + 1 }
    else if c = ';' ∨ c = '?' then .error .error_bad_port
    else if c = '[' ∨ c = ']' ∨ c = ':' then .error .error_bad_char
    else .ok sc
  | .URI_HOST =>
    if c = '[' then .ok { sc with state := .URI_HOST6_P }
    else if c = ':' ∨ c = ';' ∨ c = '?' ∨ c = '&' ∨ c = '@' then .error .error_bad_host
    else .ok { sc with state := .URI_HOST_P }
  | .URI_HOST_P =>
    if c = ':' then .ok (check_host_end p sc .URI_PORT)
    else if c = ';' then .ok (check_host_end p sc .URI_PARAM)
    else if c = '?' then .ok (check_host_end p sc .URI_HEADERS)
    else if c = '&' ∨ c = '@' then .error .error_bad_char
    else .ok sc
  | .URI_HOST6_END =>
    if c = ':' then .ok (check_host_end p sc .URI_PORT)
    else if c = ';' then .ok (check_host_end p sc .URI_PARAM)
    else if c = '?' then .ok (check_host_end p sc .URI_HEADERS)
    else if c = '&' ∨ c = '@' then .error .error_bad_char
    else .error .error_bad_host
  | .URI_HOST6_P =>
    if c = ']' then .ok { sc with state := .URI_HOST6_END }
    else if c = '[' ∨ c = '&' ∨ c = '@' ∨ c = ';' ∨ c = '?' then .error .error_bad_host
    else .ok sc
  | .URI_PORT =>
    if c = ';' ∨ c = '?' then
      .ok { sc with
        uri := { sc.uri with port := span (some sc.s) p, port_no := sc.port_no.toUInt16 }
        state := if c = ';' then .URI_PARAM else .URI_HEADERS
        s := p + 1 }
    else if c.isDigit then .ok (case_port c sc)
    else .error .error_bad_port
  | .URI_PARAM =>
    param_common_cases p c sc <|
      let new := letter c [('t', 'T', .PT_T), ('u', 'U', .PU_U), ('m', 'M', .PM_M),
        ('l', 'L', .PLR_L), ('g', 'G', .PG_G), ('r', 'R', .PR2_R), ('p', 'P', .PN_P)]
      .ok { sc with b := some p, state := new.getD .URI_PARAM_P }
  | .URI_PARAM_P =>
    u_param_common_cases p c sc <|
      if c = '=' then .ok { sc with v := some (p + 1), state := .URI_PARAM_VAL_P } else .ok sc
  | .URI_PARAM_VAL_P => u_param_common_cases p c sc (.ok sc)
  | .PT_eq =>
    let sc := { sc with
      param := some .transport, param_val := some .transport
      uri := { sc.uri with proto := .PROTO_OTHER } }
    param_common_cases p c sc <|
      let new := letter c [('u', 'U', .VU_U), ('t', 'T', .VT_T), ('s', 'S', .VS_S),
        ('w', 'W', .VW_W)]
      .ok { sc with v := some p, state := new.getD .URI_VAL_P }
  | .URI_VAL_P => value_common_cases p c sc (.ok sc)
  | .VW_S =>
    if c = 's' ∨ c = 'S' then .ok { sc with state := .VWS_S_FIN }
    else transport_fin .PROTO_WS p c { sc with state := .VW_S_FIN }
  | .URI_HEADERS =>
    if c = '@' then still_at_user p sc
    else if c = ';' then
      if sc.found_user then .error .error_bad_char
      else if sc.pass.isSome then .error .error_headers
      else .ok { sc with error_headers := true }
    else if c = ':' then .ok (mightBePass p sc)
    else if c = '?' then .ok (noPass sc)
    else .ok sc
  | state =>
    match row state with
    | some r => r.run p c sc
    | none => .error .error_bug

/-- The loop, over the bytes from `p` to the end. -/
def scan : ℕ → Text → Scan → Except Failure Scan
  | _, [], sc => .ok sc
  | p, c :: rest, sc => do
    let sc ← step p c sc
    scan (p + 1) rest sc

/-! ## 5. The end of the URI -/

/-- The `switch` behind the loop. -/
def finish (p : ℕ) (sc : Scan) : Except Failure ParsedUri :=
  let uri := sc.uri
  let withParams (sc : Scan) : ParsedUri := { sc.uri with params := span (some sc.s) p }
  let withProto (proto : Proto) : ParsedUri :=
    { (withParams (param_set p sc)) with proto := proto }
  match sc.state with
  | .URI_INIT => .error .error_too_short
  | .URI_USER =>
    if sc.found_user then .error .error_bad_uri
    else .ok { uri with host := span (some sc.s) p }
  | .URI_PASSWORD =>
    if sc.found_user then .error .error_bad_port
    else .ok { uri with
      port := span (some sc.s) p
      port_no := sc.port_no.toUInt16
      host := uri.user
      user := .null }
  | .URI_PASSWORD_ALPHA => .error .error_bad_port
  | .URI_HOST_P | .URI_HOST6_END => .ok { uri with host := span (some sc.s) p }
  | .URI_HOST | .URI_HOST6_P => .error .error_bad_host
  | .URI_PORT =>
    .ok { uri with port := span (some sc.s) p, port_no := sc.port_no.toUInt16 }
  | .URI_PARAM | .URI_PARAM_P | .URI_PARAM_VAL_P => .ok (withParams (u_param_set p sc))
  | .PT_T | .PT_R | .PT_A | .PT_N | .PT_S | .PT_P | .PT_O | .PT_R2 | .PT_T2 | .PT_eq
  | .PTTL_T2 | .PTTL_L | .PTTL_eq
  | .PU_U | .PU_S | .PU_E | .PU_R | .PU_eq
  | .PM_M | .PM_E | .PM_T | .PM_H | .PM_O | .PM_D | .PM_eq
  | .PLR_L | .PR2_R | .PG_G => .ok (withParams sc)
  | .PLR_R_FIN | .PLR_eq => .ok (withParams (fin_set p sc .lr))
  | .PR2_2_FIN | .PR2_eq => .ok (withParams (fin_set p sc .r2))
  | .PG_G_FIN | .PG_eq => .ok (withParams (fin_set p sc .gr))
  | .PN1_FIN | .PN1_eq => .ok (withParams (fin_set p sc .pn_provider))
  | .URI_VAL_P | .VU_U | .VU_D | .VT_T | .VT_C | .VTLS_L | .VS_S | .VS_C | .VW_W | .VS_T =>
    .ok (withParams (param_set p sc))
  | .VU_P_FIN => .ok (withProto .PROTO_UDP)
  | .VT_P_FIN => .ok (withProto .PROTO_TCP)
  | .VTLS_S_FIN => .ok (withProto .PROTO_TLS)
  | .VS_P_FIN => .ok (withProto .PROTO_SCTP)
  | .VW_S | .VW_S_FIN => .ok (withProto .PROTO_WS)
  | .VWS_S_FIN => .ok (withProto .PROTO_WSS)
  | .URI_HEADERS =>
    if sc.error_headers then .error .error_headers
    else .ok { uri with headers := span (some sc.s) p }
  | .PN_P | .PN_N | .PN_dash | .PN_P2 | .PN_PR
  | .PN1_O | .PN1_V | .PN1_I | .PN1_D | .PN1_E
  | .PN2_I | .PN3_A | .PN3_R | .PN3_A2 | .PN4_U | .PN4_R => .ok (withParams sc)
  | .PN2_D | .PN2_eq | .PN3_M | .PN3_eq | .PN4_R2 | .PN4_eq => .error .error_bad_uri
  -- The `maddr` states are not in the list.
  | .PMA_A | .PMA_D | .PMA_D2 | .PMA_R | .PMA_eq => .error .error_bug

/-- The fix for the other schemes.  Their host is a pointer to `""`, which has no place in the
buffer; offset 0 stands for it. -/
def fixScheme (uri : ParsedUri) : Except Failure ParsedUri :=
  match uri.type with
  | .TEL_URI_T | .TELS_URI_T => .ok { uri with user := uri.host, host := ⟨some 0, 0⟩ }
  | .SIP_URI_T | .SIPS_URI_T | .URN_SERVICE_URI_T => .ok uri
  | .URN_NENA_SERVICE_URI_T => .ok { uri with user := .null, host := ⟨some 0, 0⟩ }
  | .ERROR_URI_T => .error .error_bad_uri

/-! ## 6. The function -/

/-- A byte as an `int`: `char` is signed. -/
def charValue (c : Char) : UInt32 :=
  if c.toNat < 128 then UInt32.ofNat c.toNat else UInt32.ofNat c.toNat - 256

def SIP_SCH : UInt32 := 0x3a706973
def SIPS_SCH : UInt32 := 0x73706973
def TEL_SCH : UInt32 := 0x3a6c6574
def URN_SERVICE_SCH : UInt32 := 0x3a6e7275
def URN_SERVICE_STR : Text := ":service:".toList
def URN_NENA_SERVICE_STR : Text := ":nena:service:".toList

/-- The type of the URI, and where the scan begins.  `memcmp` is bounded by the buffer only. -/
def schemeOf (buf : Text) : Except Failure (UriType × ℕ) :=
  let byte (i : ℕ) : UInt32 := charValue (buf.getD i '\x00')
  let scheme := (byte 0 + (byte 1 <<< 8) + (byte 2 <<< 16) + (byte 3 <<< 24)) ||| 0x20202020
  if scheme = SIP_SCH then .ok (.SIP_URI_T, 4)
  else if scheme = SIPS_SCH then
    if buf.getD 4 '\x00' = ':' then .ok (.SIPS_URI_T, 5) else .error .error_bad_uri
  else if scheme = TEL_SCH then .ok (.TEL_URI_T, 4)
  else if scheme = URN_SERVICE_SCH then
    if (buf.drop 3).take URN_SERVICE_STR.length = URN_SERVICE_STR then
      .ok (.URN_SERVICE_URI_T, 4 + (URN_SERVICE_STR.length - 1))
    else if (buf.drop 3).take URN_NENA_SERVICE_STR.length = URN_NENA_SERVICE_STR then
      .ok (.URN_NENA_SERVICE_URI_T, 4 + (URN_NENA_SERVICE_STR.length - 1))
    else .error .error_bad_uri
  else .error .error_bad_uri

/-- `parse_uri(buf, len, uri)`. -/
def parse_uri (buf : Text) (len : ℕ) : Except Failure ParsedUri := do
  if len < 5 then throw .error_too_short
  let (type, p) ← schemeOf buf
  let sc ← scan p ((buf.take len).drop p) (.init type p)
  let uri ← finish (max p len) sc
  fixScheme uri

end CallFwd.Sip.ParseUri
