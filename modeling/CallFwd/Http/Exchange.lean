/-
# The callbacks of `TargetHandler`

A request reaches the handler as `onRequest`, any number of `onBody` calls and `onEOM`.
`needBody_` says whether a response is still due: `sanitizeHeader` clears it for a body that is too
long or of another type, `onRequest` when it has answered, and `onBody` when the body has grown
too long after all.

The callbacks are `noexcept`, so what is thrown in one of them ends the process: here that is an
error of `exchange`.  `sanitizeHeader` converts the value of Content-Length with `folly::to`, which
throws for a number beyond 64 bits, and `post_equals_get_iff` says that this is the only way in
which the handler fails to send exactly one response, the same for a POST, however its body is cut,
as for a GET.
-/
import CallFwd.Http.Target
import CallFwd.PhoneMapping.Number

namespace CallFwd.Http.TargetHandler

open Lib

/-! ## 1. The callbacks -/

/-- The members the callbacks use; `body` holds the pieces of the `IOBuf` chain.  `sent` are the
calls on `downstream_`, and `lookups` the batches that were looked up. -/
structure Handler where
  needBody : Bool
  json : Bool
  body : Option (List Text)
  pn : List UInt64
  sent : List Sent
  lookups : List (List UInt64)

/-- A new handler. -/
def Handler.fresh : Handler := ⟨true, false, none, [], [], []⟩

/-- What the callbacks depend on: proxygen, the flags and the tables. -/
structure Env where
  px : Proxygen
  maxQueryLength : UInt32
  prefetch : Table → ℕ+
  g : Globals

variable (env : Env)

/-- `sanitizeHeader(code, name, value)`. -/
def sanitizeHeader (h : Handler) (header : HTTPHeaderCode × Text) : Except Stop Handler :=
  match header.1 with
  | .contentLength => do
    let length ← toUint64 header.2
    return if env.maxQueryLength.toNat < length.toNat then { h with needBody := false } else h
  | .contentType =>
    .ok (if header.2 ≠ Dynamic.text "application/x-www-form-urlencoded"
      then { h with needBody := false } else h)
  | .accept => .ok { h with json := isJsonRequested env.px header.2 }
  | .other => .ok h

/-- `onQueryParam(name, value)`. -/
def onQueryParam (pn : List UInt64) (param : Text × Text) : List UInt64 :=
  if param.1 = Dynamic.text "phone%5B%5D" ∨ param.1 = Dynamic.text "phone[]" then
    let number := PhoneNumber.fromString param.2
    if number ≠ PhoneNumber.NONE then pn ++ [number] else pn
  else pn

/-- `onQueryString(query)`. -/
def onQueryString (h : Handler) (query : Text) : Handler :=
  { h with pn := (env.px.splitNameValuePieces query).foldl onQueryParam h.pn }

/-- `onQueryString(query); onQueryComplete();` -/
def answerQuery (h : Handler) (query : Text) : Except Stop Handler := do
  let h := onQueryString env h query
  let out ← onQueryComplete env.prefetch env.g h.json h.pn
  return { h with sent := h.sent ++ out, lookups := h.lookups ++ [h.pn] }

/-- A response of status 400, after which none is due. -/
def Handler.refuse (h : Handler) : Handler :=
  { h with needBody := false, sent := h.sent ++ badRequest }

/-- `onRequest(req)`. -/
def onRequest (h : Handler) (req : HTTPMessage) : Except Stop Handler := do
  let h ← req.headers.foldlM (sanitizeHeader env) h
  if req.method = .GET then answerQuery env { h with needBody := false } req.query
  else if req.method = .POST ∧ h.needBody = true then return h
  else return h.refuse

/-- The bytes of the chain. -/
def Handler.bytes (h : Handler) : Text := (h.body.getD []).flatten

/-- `onBody(body)`: the piece is put behind the chain. -/
def onBody (h : Handler) (piece : Text) : Handler :=
  if h.needBody = false then h
  else
    let h := { h with body := some (h.body.getD [] ++ [piece]) }
    if env.maxQueryLength.toNat < h.bytes.length then { h with body := none }.refuse else h

/-- `onEOM()`. -/
def onEOM (h : Handler) : Except Stop Handler :=
  if h.needBody = true then answerQuery env h h.bytes else .ok h

/-- A whole request: its head, the pieces of its body, and its end. -/
def exchange (req : HTTPMessage) (pieces : List Text) : Except Stop Handler := do
  let h ← onRequest env .fresh req
  onEOM env (pieces.foldl (onBody env) h)

/-! ## 2. The head -/

/-- The header does not speak against the body. -/
def passes (header : HTTPHeaderCode × Text) : Bool :=
  match header.1 with
  | .contentLength => decide (decimal header.2 ≤ env.maxQueryLength.toNat)
  | .contentType => decide (header.2 = Dynamic.text "application/x-www-form-urlencoded")
  | _ => true

/-- `json_` after a header. -/
def jsonAfter (json : Bool) (header : HTTPHeaderCode × Text) : Bool :=
  if header.1 = .accept then isJsonRequested env.px header.2 else json

/-- A Content-Length is a decimal number. -/
def IsLength (value : Text) : Prop := value ≠ [] ∧ Digits value

/-- The value of a Content-Length header fits into a `size_t`. -/
def Fits (header : HTTPHeaderCode × Text) : Prop :=
  header.1 = .contentLength → decimal header.2 < 2 ^ 64

variable {env}

theorem toUint64_isLength {value : Text} (h : IsLength value) :
    toUint64 value = if decimal value < 2 ^ 64 then .ok (UInt64.ofNat (decimal value))
      else .error (.exn .conversionError) := by
  rw [toUint64_eq, numeral_of_digits h.2 h.1]

/-- One header, if it can be converted. -/
theorem sanitizeHeader_eq {h : Handler} {header : HTTPHeaderCode × Text}
    (hlen : header.1 = .contentLength → IsLength header.2) (hfits : Fits header) :
    sanitizeHeader env h header = .ok { h with
      needBody := h.needBody && passes env header
      json := jsonAfter env h.json header } := by
  obtain ⟨code, value⟩ := header
  cases code with
  | contentLength =>
    have hsmall : decimal value < 2 ^ 64 := hfits rfl
    have hnat : (UInt64.ofNat (decimal value)).toNat = decimal value := by
      rw [UInt64.toNat_ofNat']
      exact Nat.mod_eq_of_lt hsmall
    rw [sanitizeHeader]
    simp only [toUint64_isLength (hlen rfl), hsmall, if_true]
    change Except.ok _ = _
    rw [hnat]
    by_cases hle : decimal value ≤ env.maxQueryLength.toNat
    · simp [passes, jsonAfter, hle]
    · simp [passes, jsonAfter, hle]
  | contentType =>
    by_cases htype : value = Dynamic.text "application/x-www-form-urlencoded"
    · simp [sanitizeHeader, passes, jsonAfter, htype]
    · simp [sanitizeHeader, passes, jsonAfter, htype]
  | accept => simp [sanitizeHeader, passes, jsonAfter]
  | other => simp [sanitizeHeader, passes, jsonAfter]

/-- A Content-Length that cannot be converted. -/
theorem sanitizeHeader_error {h : Handler} {header : HTTPHeaderCode × Text}
    (hlen : header.1 = .contentLength → IsLength header.2) (hfits : ¬ Fits header) :
    sanitizeHeader env h header = .error (.exn .conversionError) := by
  obtain ⟨hcode, hbig⟩ := Classical.not_imp.mp hfits
  rw [sanitizeHeader, hcode]
  simp only [toUint64_isLength (hlen hcode), hbig, if_false]
  rfl

section Headers

variable {headers : List (HTTPHeaderCode × Text)}

/-- **The run over the headers.** -/
theorem foldlM_sanitizeHeader (hlen : ∀ x ∈ headers, x.1 = .contentLength → IsLength x.2)
    (hfits : ∀ x ∈ headers, Fits x) (h : Handler) :
    headers.foldlM (sanitizeHeader env) h = .ok { h with
      needBody := h.needBody && headers.all (passes env)
      json := headers.foldl (jsonAfter env) h.json } := by
  induction headers generalizing h with
  | nil => simp; rfl
  | cons x headers ih =>
    rw [List.foldlM_cons, sanitizeHeader_eq (hlen x List.mem_cons_self)
      (hfits x List.mem_cons_self)]
    change headers.foldlM (sanitizeHeader env) _ = _
    rw [ih (fun y hy => hlen y (List.mem_cons_of_mem x hy))
      fun y hy => hfits y (List.mem_cons_of_mem x hy)]
    simp [Bool.and_assoc]

/-- ...which no Content-Length beyond 64 bits survives. -/
theorem foldlM_sanitizeHeader_error (hlen : ∀ x ∈ headers, x.1 = .contentLength → IsLength x.2)
    (hbig : ∃ x ∈ headers, ¬ Fits x) (h : Handler) :
    headers.foldlM (sanitizeHeader env) h = .error (.exn .conversionError) := by
  induction headers generalizing h with
  | nil => simp at hbig
  | cons x headers ih =>
    rw [List.foldlM_cons]
    by_cases hx : Fits x
    · rw [sanitizeHeader_eq (hlen x List.mem_cons_self) hx]
      refine ih (fun y hy => hlen y (List.mem_cons_of_mem x hy)) ?_ _
      obtain ⟨y, hy, hybig⟩ := hbig
      rcases List.mem_cons.mp hy with rfl | hy
      · exact absurd hx hybig
      · exact ⟨y, hy, hybig⟩
    · rw [sanitizeHeader_error (hlen x List.mem_cons_self) hx]
      rfl

/-- `json_` depends on the Accept headers only. -/
theorem foldl_jsonAfter_filter (json : Bool) :
    (headers.filter fun x => decide (x.1 = .accept)).foldl (jsonAfter env) json =
      headers.foldl (jsonAfter env) json := by
  rw [List.foldl_filter]
  congr 1
  funext json x
  by_cases hx : x.1 = .accept
  · simp [hx]
  · simp [hx, jsonAfter]

end Headers

/-! ## 3. The body -/

/-- A handler that has answered ignores the body. -/
theorem foldl_onBody_of_not_needBody {h : Handler} (hneed : h.needBody = false)
    (pieces : List Text) : pieces.foldl (onBody env) h = h := by
  induction pieces with
  | nil => rfl
  | cons piece pieces ih =>
    rw [List.foldl_cons, onBody, if_pos hneed]
    exact ih

/-- One piece: it is kept, or it is too much. -/
theorem onBody_eq {h : Handler} (hneed : h.needBody = true) (piece : Text) :
    (h.bytes ++ piece).length ≤ env.maxQueryLength.toNat ∧
      (∃ h', onBody env h piece = h' ∧ h'.bytes = h.bytes ++ piece ∧
        h' = { h with body := h'.body }) ∨
    env.maxQueryLength.toNat < (h.bytes ++ piece).length ∧
      onBody env h piece = { h with body := none }.refuse := by
  have hbytes : { h with body := some (h.body.getD [] ++ [piece]) }.bytes = h.bytes ++ piece := by
    simp [Handler.bytes]
  by_cases hlong : env.maxQueryLength.toNat < (h.bytes ++ piece).length
  · refine Or.inr ⟨hlong, ?_⟩
    rw [onBody, if_neg (by simp [hneed])]
    simp only [hbytes]
    rw [if_pos hlong]
  · refine Or.inl ⟨Nat.le_of_not_lt hlong, _, rfl, ?_⟩
    rw [onBody, if_neg (by simp [hneed])]
    simp only [hbytes]
    rw [if_neg hlong]
    exact ⟨hbytes, rfl⟩

/-- **A body that is not too long is collected, whatever its pieces.** -/
theorem foldl_onBody_of_le {pieces : List Text} {h : Handler} (hneed : h.needBody = true)
    (hle : (h.bytes ++ pieces.flatten).length ≤ env.maxQueryLength.toNat) :
    ∃ h', pieces.foldl (onBody env) h = h' ∧ h'.bytes = h.bytes ++ pieces.flatten ∧
      h' = { h with body := h'.body } := by
  induction pieces generalizing h with
  | nil => exact ⟨h, rfl, by simp, rfl⟩
  | cons piece pieces ih =>
    rw [List.flatten_cons, ← List.append_assoc] at hle ⊢
    have hpiece : (h.bytes ++ piece).length ≤ env.maxQueryLength.toNat := by
      rw [List.length_append] at hle
      omega
    rcases onBody_eq hneed piece with ⟨-, h₁, hrun, hbytes, hsame⟩ | ⟨hlong, -⟩
    · have hneed₁ : h₁.needBody = true := by
        rw [hsame]
        exact hneed
      obtain ⟨h', hrun', hbytes', hsame'⟩ := ih hneed₁ (hbytes ▸ hle)
      refine ⟨h', ?_, ?_, ?_⟩
      · rw [List.foldl_cons, hrun]
        exact hrun'
      · rw [hbytes', hbytes]
      · rw [hsame', hsame]
    · omega

/-- **A body that is too long is refused once**, at whichever piece that shows. -/
theorem foldl_onBody_of_lt {pieces : List Text} {h : Handler} (hneed : h.needBody = true)
    (hshort : h.bytes.length ≤ env.maxQueryLength.toNat)
    (hlong : env.maxQueryLength.toNat < (h.bytes ++ pieces.flatten).length) :
    pieces.foldl (onBody env) h = { h with body := none }.refuse := by
  induction pieces generalizing h with
  | nil =>
    rw [List.flatten_nil, List.append_nil] at hlong
    omega
  | cons piece pieces ih =>
    rw [List.flatten_cons, ← List.append_assoc] at hlong
    rw [List.foldl_cons]
    rcases onBody_eq hneed piece with ⟨hle, h₁, hrun, hbytes, hsame⟩ | ⟨-, hrun⟩
    · have hneed₁ : h₁.needBody = true := by
        rw [hsame]
        exact hneed
      rw [hrun, ih hneed₁ (hbytes ▸ hle) (hbytes ▸ hlong), hsame]
    · rw [hrun]
      exact foldl_onBody_of_not_needBody rfl pieces

/-! ## 4. The whole request -/

variable {us ca : PhoneMapping.Data}

/-- The numbers a query string asks for. -/
def numbersOf (px : Proxygen) (query : Text) : List UInt64 :=
  (px.splitNameValuePieces query).foldl onQueryParam []

/-- An answer is one response, and depends on the form and the numbers only. -/
theorem answerQuery_eq (hus : env.g .us = some us) (hca : env.g .ca = some ca) {h : Handler}
    (hpn : h.pn = []) (hsent : h.sent = []) (query : Text) :
    ∃ out h', onQueryComplete env.prefetch env.g h.json (numbersOf env.px query) = .ok out ∧
      IsResponse out ∧ answerQuery env h query = .ok h' ∧ h'.sent = out ∧
      h'.needBody = h.needBody := by
  obtain ⟨out, hout, hresponse, -⟩ := @onQueryComplete_eq env.prefetch env.g us ca hus hca h.json
    (numbersOf env.px query)
  have hnumbers : (onQueryString env h query).pn = numbersOf env.px query := by
    rw [onQueryString, hpn, numbersOf]
  have hjson : (onQueryString env h query).json = h.json := rfl
  refine ⟨out, { onQueryString env h query with
    sent := h.sent ++ out
    lookups := h.lookups ++ [numbersOf env.px query] }, hout, hresponse, ?_, ?_, rfl⟩
  · rw [answerQuery]
    simp only [hnumbers, hjson, hout]
    rfl
  · rw [hsent, List.nil_append]

/-- The GET with this query string and the Accept headers of `req`. -/
def getRequest (req : HTTPMessage) (query : Text) : HTTPMessage :=
  ⟨.GET, query, req.headers.filter fun x => decide (x.1 = .accept)⟩

/-- The headers leave `needBody_` set. -/
def PassesHeaders (env : Env) (req : HTTPMessage) : Prop :=
  ∃ h, req.headers.foldlM (sanitizeHeader env) Handler.fresh = .ok h ∧ h.needBody = true

/-- **What the handler is for**: one response to every request; to a POST that is not too long the
one a GET with the same query gets; and status 400, without a lookup, to a POST that is. -/
def Answered (env : Env) (req : HTTPMessage) (pieces : List Text) : Prop :=
  ∃ h, exchange env req pieces = .ok h ∧ IsResponse h.sent ∧
    (req.method = .POST → PassesHeaders env req →
      pieces.flatten.length ≤ env.maxQueryLength.toNat → ∀ pieces', ∃ h',
        exchange env (getRequest req pieces.flatten) pieces' = .ok h' ∧ h.sent = h'.sent) ∧
    (req.method = .POST → env.maxQueryLength.toNat < pieces.flatten.length →
      h.sent = badRequest ∧ h.lookups = [])

section Cases

/-- The handler after the headers: it has sent nothing. -/
def sanitized (env : Env) (req : HTTPMessage) : Handler :=
  { Handler.fresh with
    needBody := req.headers.all (passes env)
    json := req.headers.foldl (jsonAfter env) false }

variable {req : HTTPMessage}

theorem foldlM_fresh (hlen : ∀ x ∈ req.headers, x.1 = .contentLength → IsLength x.2)
    (hfits : ∀ x ∈ req.headers, Fits x) :
    req.headers.foldlM (sanitizeHeader env) .fresh = .ok (sanitized env req) := by
  rw [foldlM_sanitizeHeader hlen hfits]
  simp [sanitized, Handler.fresh]

variable (hhead : req.headers.foldlM (sanitizeHeader env) .fresh = .ok (sanitized env req))

include hhead

/-- A GET is answered by `onRequest`, and its body is ignored. -/
theorem exchange_get (hus : env.g .us = some us) (hca : env.g .ca = some ca)
    (hget : req.method = .GET) (pieces : List Text) :
    ∃ out h, onQueryComplete env.prefetch env.g (req.headers.foldl (jsonAfter env) false)
        (numbersOf env.px req.query) = .ok out ∧ IsResponse out ∧
      exchange env req pieces = .ok h ∧ h.sent = out := by
  obtain ⟨out, h, hout, hresponse, hrun, hsent, hneed⟩ := @answerQuery_eq env us ca hus hca
    { sanitized env req with needBody := false } rfl rfl req.query
  refine ⟨out, h, hout, hresponse, ?_, hsent⟩
  rw [exchange, onRequest, hhead]
  change (if req.method = .GET then _ else _) >>= _ = _
  rw [if_pos hget]
  refine bind_eq_ok.mpr ⟨h, hrun, ?_⟩
  rw [foldl_onBody_of_not_needBody hneed, onEOM, if_neg (by simp [hneed])]

/-- A POST whose body is collected is answered by `onEOM`. -/
theorem exchange_post (hus : env.g .us = some us) (hca : env.g .ca = some ca)
    (hpost : req.method = .POST) (hpass : req.headers.all (passes env) = true) {pieces : List Text}
    (hle : pieces.flatten.length ≤ env.maxQueryLength.toNat) :
    ∃ out h, onQueryComplete env.prefetch env.g (req.headers.foldl (jsonAfter env) false)
        (numbersOf env.px pieces.flatten) = .ok out ∧ IsResponse out ∧
      exchange env req pieces = .ok h ∧ h.sent = out := by
  obtain ⟨h₁, hbody, hbytes, hsame⟩ :=
    @foldl_onBody_of_le env pieces (sanitized env req) hpass hle
  obtain ⟨out, h, hout, hresponse, hrun, hsent, -⟩ := @answerQuery_eq env us ca hus hca h₁
    (by rw [hsame]; rfl) (by rw [hsame]; rfl) h₁.bytes
  have hjson : h₁.json = req.headers.foldl (jsonAfter env) false := by
    rw [hsame]
    rfl
  have hquery : h₁.bytes = pieces.flatten := hbytes
  rw [hjson, hquery] at hout
  refine ⟨out, h, hout, hresponse, ?_, hsent⟩
  rw [exchange, onRequest, hhead]
  change (if req.method = .GET then _ else _) >>= _ = _
  rw [if_neg (by simp [hpost]), if_pos ⟨hpost, hpass⟩]
  change onEOM env (pieces.foldl (onBody env) (sanitized env req)) = _
  have hneed : h₁.needBody = true := by
    rw [hsame]
    exact hpass
  rw [hbody, onEOM, if_pos hneed, hrun]

omit hhead in
/-- A handler that has refused stays as it is. -/
theorem onEOM_refuse (h : Handler) : onEOM env h.refuse = .ok h.refuse := by
  rw [onEOM, if_neg (by simp [Handler.refuse])]

/-- Every other request is refused, without a lookup. -/
theorem exchange_refused (hget : req.method ≠ .GET) {pieces : List Text}
    (hlong : req.method = .POST → req.headers.all (passes env) = true →
      env.maxQueryLength.toNat < pieces.flatten.length) :
    ∃ h, exchange env req pieces = .ok h ∧ h.sent = badRequest ∧ h.lookups = [] := by
  rw [exchange, onRequest, hhead]
  change ∃ h', (if req.method = .GET then _ else _) >>= _ = _ ∧ _
  rw [if_neg hget]
  by_cases hpost : req.method = .POST ∧ (sanitized env req).needBody = true
  · refine ⟨{ sanitized env req with body := none }.refuse, ?_, rfl, rfl⟩
    rw [if_pos hpost]
    change onEOM env (pieces.foldl (onBody env) (sanitized env req)) = _
    rw [foldl_onBody_of_lt hpost.2 (Nat.zero_le _) (hlong hpost.1 hpost.2), onEOM_refuse]
  · refine ⟨(sanitized env req).refuse, ?_, rfl, rfl⟩
    rw [if_neg hpost]
    change onEOM env (pieces.foldl (onBody env) (sanitized env req).refuse) = _
    rw [foldl_onBody_of_not_needBody rfl, onEOM_refuse]

end Cases

/-- **POST equals GET, whatever the chunking**, and every request gets exactly one response: with
US and CA loaded, and Content-Length a decimal number, this holds of a request exactly when no
Content-Length goes beyond 64 bits. -/
theorem post_equals_get_iff (env : Env) (hus : env.g .us = some us) (hca : env.g .ca = some ca)
    (req : HTTPMessage) (hlen : ∀ x ∈ req.headers, x.1 = .contentLength → IsLength x.2)
    (pieces : List Text) :
    Answered env req pieces ↔
      ∀ x ∈ req.headers, x.1 = .contentLength → decimal x.2 < 2 ^ 64 := by
  constructor
  · rintro ⟨h, hrun, -⟩
    by_contra hbig
    have herror := @foldlM_sanitizeHeader_error env req.headers hlen
      (by simpa [Fits] using hbig) .fresh
    rw [exchange, onRequest, herror] at hrun
    cases hrun
  · intro hfits
    have hhead := @foldlM_fresh env req hlen hfits
    by_cases hmethod : req.method = .GET
    · obtain ⟨out, h, -, hresponse, hrun, hsent⟩ := exchange_get hhead hus hca hmethod pieces
      have hnot : req.method ≠ .POST := by simp [hmethod]
      exact ⟨h, hrun, hsent ▸ hresponse, fun hpost => absurd hpost hnot,
        fun hpost => absurd hpost hnot⟩
    · by_cases hpost : req.method = .POST ∧ req.headers.all (passes env) = true ∧
          pieces.flatten.length ≤ env.maxQueryLength.toNat
      · obtain ⟨hpost, hpass, hle⟩ := hpost
        obtain ⟨out, h, hout, hresponse, hrun, hsent⟩ :=
          exchange_post hhead hus hca hpost hpass hle
        refine ⟨h, hrun, hsent ▸ hresponse, ?_, fun _ hlong => absurd hle (by omega)⟩
        intro _ _ _ pieces'
        obtain ⟨out', h', hout', -, hrun', hsent'⟩ := @exchange_get env us ca
          (getRequest req pieces.flatten)
          (foldlM_fresh (fun x hx => hlen x (List.mem_of_mem_filter hx))
            fun x hx => hfits x (List.mem_of_mem_filter hx)) hus hca rfl pieces'
        rw [getRequest, foldl_jsonAfter_filter, hout] at hout'
        cases hout'
        exact ⟨h', hrun', hsent.trans hsent'.symm⟩
      · obtain ⟨h, hrun, hsent, hlookups⟩ := @exchange_refused env req hhead hmethod pieces (by
          intro h1 h2
          by_contra hle
          exact hpost ⟨h1, h2, by omega⟩)
        refine ⟨h, hrun, hsent ▸ isResponse_badRequest, ?_, fun _ _ => ⟨hsent, hlookups⟩⟩
        rintro h1 ⟨h₀, hfold, hneed⟩ hle
        rw [hhead] at hfold
        cases hfold
        exact absurd ⟨h1, hneed, hle⟩ hpost

/-- Two loaded tables without rows, and a query of one number. -/
def Env.sample : Env where
  px := ⟨fun _ => [(Dynamic.text "phone[]", Dynamic.text "2015550123")], fun _ => []⟩
  maxQueryLength := 32768
  prefetch := fun _ => Nat.succPNat 15
  g := (Globals.initial.commit .us MappingData.empty).commit .ca MappingData.empty

/-- A POST in two pieces, cut in the middle of the number. -/
theorem answered_two_pieces :
    Answered Env.sample ⟨.POST, [], [(.contentLength, Dynamic.text "18"),
        (.contentType, Dynamic.text "application/x-www-form-urlencoded")]⟩
      [Dynamic.text "phone[]=2015", Dynamic.text "550123"] := by
  refine (@post_equals_get_iff MappingData.empty MappingData.empty Env.sample rfl rfl _ ?_ _).mpr ?_
  · simp [IsLength, Digits, Dynamic.text]
  · simp only [List.mem_cons, List.not_mem_nil, or_false, forall_eq_or_imp, forall_eq]
    exact ⟨fun _ => by decide, fun h => by cases h⟩

/-- A Content-Length of 2^64 ends the process instead of being refused. -/
theorem not_answered_long_content_length :
    ¬ Answered Env.sample ⟨.POST, [], [(.contentLength, Dynamic.text "18446744073709551616")]⟩
      [] := by
  rintro ⟨h, hrun, -⟩
  have herror := @foldlM_sanitizeHeader_error Env.sample
    [(.contentLength, Dynamic.text "18446744073709551616")]
    (by simp [IsLength, Digits, Dynamic.text])
    ⟨_, List.mem_singleton_self _, fun hfits => absurd (hfits rfl) (by decide)⟩ .fresh
  rw [exchange, onRequest, herror] at hrun
  cases hrun

end CallFwd.Http.TargetHandler
