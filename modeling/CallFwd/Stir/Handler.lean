/-
# The handler of the STIR service, and the length of a body

A request comes in three steps: its head, the pieces of its body, and its end.  At the head the
handler decides whether there will be an answer other than an error, and from then on pieces are
kept or dropped without being measured.  So a body is as long as its Content-Length says, and the
limit has to be enforced on that number.

It is read into 32 bits.  What does not fit counts as zero (`visitLength`), which is below any limit
but zero: `body_limited_iff` says that this is the only way past the limit.  `onEOM` is `noexcept`,
and `onEOM_returns_iff` says for which bodies it comes back with an answer.
-/
import CallFwd.Http.Message
import CallFwd.Stir.Escapes

namespace CallFwd.Stir

/-! ## 1. The headers -/

/-- A header with its code and its name. -/
structure Header where
  code : Http.HTTPHeaderCode
  name : Text
  value : Text
deriving DecidableEq, Repr

/-- What the handler reads of a request. -/
structure Request where
  method : Http.HTTPMethod
  path : Text
  headers : List Header

/-- The parameters of the handler: proxygen's `parseQvalues`, what `verifyPassport` and `fromJson`
need, `folly::toJson`, the flags, the clock, and the UUID that would be generated. -/
structure Env where
  parseQvalues : Text → List Text
  lib : Library
  showDouble : Option ℚ → Text
  what : Dynamic → Text
  printJson : Dynamic → Text
  stir_api_body_limit : UInt32
  valid_iat_period : UInt32
  now : UInt64
  randomId : Text

variable (env : Env)

/-- `folly::tryTo<uint32_t>(s)`. -/
def tryToUint32 (s : Text) : Option UInt32 :=
  match numeral s with
  | some digits => if decimal digits < 2 ^ 32 then some (UInt32.ofNat (decimal digits)) else none
  | none => none

/-- `getHttpAcceptValue(headerValue)`. -/
def getHttpAcceptValue (headerValue : Text) : Text :=
  match env.parseQvalues headerValue with
  | token :: _ => trimWhitespace token
  | [] => []

/-- `a.equals(b, folly::AsciiCaseInsensitive())`. -/
def equalsIgnoreCase (a b : Text) : Bool := a.map Char.toLower == b.map Char.toLower

structure StirApiHeaderVisitor where
  error : Option StirApiError := none
  requestId : Text := []
  contentLength : ℤ := -1
  jsonInput : Bool := false

/-- What becomes of `contentLength`: a value that is no 32-bit number counts as zero. -/
def visitLength (value : Text) : ℤ :=
  match tryToUint32 value with
  | some n => n.toNat
  | none => 0

/-- The type in front of the parameters is JSON. -/
def isJsonType (value : Text) : Bool :=
  trimWhitespace (splitStep ';' value).1 == Dynamic.text "application/json"

/-- The preferred token is one the service can answer. -/
def isAcceptable (token : Text) : Bool :=
  token == Dynamic.text "application/json" || token == Dynamic.text "*/*"

/-- `visit(code, name, value)`. -/
def StirApiHeaderVisitor.visit (v : StirApiHeaderVisitor) (header : Header) :
    StirApiHeaderVisitor :=
  match header.code with
  | .contentLength => { v with contentLength := visitLength header.value }
  | .contentType => if isJsonType header.value then { v with jsonInput := true } else v
  | .accept =>
    let token := getHttpAcceptValue env header.value
    if isAcceptable token then v
    else
      let err : StirApiError := ⟨.notAcceptableResponseBodyType, []⟩
      { v with error := some (err.putVariable token) }
  | .other =>
    if equalsIgnoreCase header.name (Dynamic.text "X-RequestID") then
      { v with requestId := header.value }
    else v

/-- `finalize()`. -/
def StirApiHeaderVisitor.finalize (v : StirApiHeaderVisitor) : Option StirApiError :=
  if v.jsonInput = false then
    some (StirApiError.putVariable ⟨.unsupportedRequestBodyType, []⟩
      (Dynamic.text "application/json"))
  else if v.contentLength = -1 then some ⟨.missingBodyLength, []⟩
  else if (env.stir_api_body_limit.toNat : ℤ) ≤ v.contentLength then
    some (StirApiError.putVariable ⟨.failedToParseMsgBody, []⟩
      (Dynamic.text "invalid message body length specified"))
  else v.error

/-! ## 2. The handler -/

inductive Endpoint
  | SIGN
  | VERIFY
deriving DecidableEq, Repr

/-- `StirApiHandler`; `endpoint_` is not initialised. -/
structure StirApiHandler where
  requestId : Text := []
  endpoint : Option Endpoint := none
  error : Option StirApiError := none
  body : Text := []

/-- What `sendResponse` puts on the connection; its type is always JSON. -/
structure Response where
  status : ℕ
  requestId : Text
  body : Text
deriving DecidableEq, Repr

/-- The path of an endpoint. -/
def endpointOf (path : Text) : Option Endpoint :=
  if path = Dynamic.text "/stir/v1/signing" then some .SIGN
  else if path = Dynamic.text "/stir/v1/verification" then some .VERIFY
  else none

/-- `onRequest(req)`; `generateRequestId` leaves the NUL behind the UUID in its string. -/
def onRequest (req : Request) : StirApiHandler :=
  let hVisitor := req.headers.foldl (StirApiHeaderVisitor.visit env) {}
  let requestId :=
    if hVisitor.requestId = [] then env.randomId ++ ['\x00'] else hVisitor.requestId
  if req.method ≠ .POST then { requestId, error := some ⟨.methodNotAllowed, []⟩ }
  else
    match endpointOf req.path with
    | none => { requestId, error := some ⟨.resourceNotFound, []⟩ }
    | some endpoint => { requestId, endpoint, error := hVisitor.finalize env }

/-- `onBody(pkt)`. -/
def onBody (h : StirApiHandler) (piece : Text) : StirApiHandler :=
  if h.error.isNone then { h with body := h.body ++ piece } else h

/-- `StirApiType<SigningRequest>::toBody(doSigning(req))`. -/
def signingBody (m : SigningRequest) : Text :=
  env.printJson (.object [(Dynamic.text "signingResponse",
    .object [(Dynamic.text "identity", .string (makePassport env.lib m))])])

/-- `StirApiType<VerificationRequest>::toBody(resp)`. -/
def verificationBody (r : VerificationResponse) : Text :=
  env.printJson (.object [(Dynamic.text "verificationResponse", .object [
    (Dynamic.text "reasoncode", .int (Int64.ofNat r.reasonCode)),
    (Dynamic.text "reasontext", .string (StirApiError.literal r.reasonText)),
    (Dynamic.text "reasondesc", .string (StirApiError.literal r.reasonDesc)),
    (Dynamic.text "verstat", .string (StirApiError.literal r.verStat))])])

/-- `handleRequest()`. -/
def handleRequest (h : StirApiHandler) : Except Stop StirApiHandler :=
  match h.endpoint with
  | none => .error (.undefined .uninitialised)
  | some .SIGN => do
    let req ← (signingType env.showDouble).fromJson env.lib.parseJson env.what (.string h.body)
    match req with
    | .error err => return { h with error := some err }
    | .ok m => return { h with body := signingBody env m }
  | some .VERIFY => do
    let req ← (verificationType env.showDouble).fromJson env.lib.parseJson env.what (.string h.body)
    match req with
    | .error err => return { h with error := some err }
    | .ok m =>
      let response ← verifyPassport env.lib env.valid_iat_period env.now m
      return { h with body := verificationBody env response }

/-- `sendResponse`, of an error or of what `handleRequest` made. -/
def answer (h : StirApiHandler) : Response :=
  match h.error with
  | some err =>
    let body := env.printJson (.object [(Dynamic.text "requestError", err.toJson)])
    ⟨err.http_status, h.requestId, body⟩
  | none => ⟨200, h.requestId, h.body⟩

/-- `onEOM()`.  It is `noexcept`: what is thrown here ends the process. -/
def onEOM (h : StirApiHandler) : Except Stop Response := do
  let h ← if h.error.isNone then handleRequest env h else pure h
  return answer env h

/-- The handler when the last piece of a body has come. -/
def received (req : Request) (pieces : List Text) : StirApiHandler :=
  pieces.foldl onBody (onRequest env req)

/-! ## 3. The head -/

/-- The header says that the body is JSON. -/
def Header.sendsJson (x : Header) : Bool := x.code == .contentType && isJsonType x.value

/-- The header does not ask for another type than the service answers with. -/
def Header.takesJson (x : Header) : Bool :=
  x.code != .accept || isAcceptable (getHttpAcceptValue env x.value)

/-- Every Content-Length there is reads as `N`, whatever its size. -/
def Request.Declares (req : Request) (N : ℕ) : Prop :=
  ∀ x ∈ req.headers, x.code = .contentLength →
    ∃ digits, numeral x.value = some digits ∧ decimal digits = N

/-- The length the handler takes a declared one for. -/
def heardLength (N : ℕ) : ℕ := if N < 2 ^ 32 then N else 0

theorem visitLength_eq {value digits : Text} (h : numeral value = some digits) :
    visitLength value = heardLength (decimal digits) := by
  rw [visitLength, tryToUint32, h, heardLength]
  by_cases hlt : decimal digits < 2 ^ 32
  · simp only [if_pos hlt, UInt32.toNat_ofNat', Nat.mod_eq_of_lt hlt]
  · simp only [if_neg hlt, Nat.cast_zero]

section Visit

variable {env}

/-- What one header does to the visitor. -/
theorem visit_spec (v : StirApiHeaderVisitor) (x : Header) :
    (v.visit env x).jsonInput = (v.jsonInput || x.sendsJson) ∧
      ((v.visit env x).error.isNone = (v.error.isNone && x.takesJson env)) ∧
      (v.visit env x).contentLength =
        if x.code = .contentLength then visitLength x.value else v.contentLength := by
  unfold StirApiHeaderVisitor.visit Header.sendsJson Header.takesJson
  cases hcode : x.code with
  | contentLength => simp
  | contentType => cases isJsonType x.value <;> simp
  | accept => cases hok : isAcceptable (getHttpAcceptValue env x.value) <;> simp [hok]
  | other => cases equalsIgnoreCase x.name (Dynamic.text "X-RequestID") <;> simp

/-- **The run over the headers.** -/
theorem foldl_visit (headers : List Header) (v : StirApiHeaderVisitor) :
    (headers.foldl (StirApiHeaderVisitor.visit env) v).jsonInput =
        (v.jsonInput || headers.any Header.sendsJson) ∧
      (headers.foldl (StirApiHeaderVisitor.visit env) v).error.isNone =
        (v.error.isNone && headers.all (Header.takesJson env)) := by
  induction headers generalizing v with
  | nil => simp
  | cons x headers ih =>
    obtain ⟨hjson, herror⟩ := ih (v.visit env x)
    obtain ⟨hjson', herror', -⟩ := @visit_spec env v x
    rw [List.foldl_cons, hjson, herror, hjson', herror', List.any_cons, List.all_cons,
      Bool.or_assoc, Bool.and_assoc]
    exact ⟨rfl, rfl⟩

/-- The length behind the headers: the one that was declared, as far as it was heard. -/
theorem foldl_visit_contentLength {N : ℕ} {headers : List Header}
    (h : ∀ x ∈ headers, x.code = .contentLength →
      ∃ digits, numeral x.value = some digits ∧ decimal digits = N)
    (v : StirApiHeaderVisitor) :
    (headers.foldl (StirApiHeaderVisitor.visit env) v).contentLength =
      if headers.any (·.code == .contentLength) then (heardLength N : ℤ) else v.contentLength := by
  induction headers generalizing v with
  | nil => simp
  | cons x headers ih =>
    have hrest := ih (fun y hy => h y (List.mem_cons_of_mem x hy)) (v.visit env x)
    obtain ⟨-, -, hlength⟩ := @visit_spec env v x
    rw [List.foldl_cons, hrest, List.any_cons, hlength]
    by_cases hcode : x.code = .contentLength
    · obtain ⟨digits, hdigits, rfl⟩ := h x List.mem_cons_self hcode
      simp [hcode, visitLength_eq hdigits]
    · simp [hcode]

end Visit

/-- Something else than the length speaks against the request, or no length is limited at all. -/
def RefusedOtherwise (req : Request) : Prop :=
  req.method ≠ .POST ∨ endpointOf req.path = none ∨ req.headers.any Header.sendsJson = false ∨
    req.headers.any (·.code == .contentLength) = false ∨
    req.headers.all (Header.takesJson env) = false ∨ env.stir_api_body_limit = 0

section Received

variable {env} {req : Request} {pieces : List Text} {N : ℕ}

theorem finalize_eq_none_iff {v : StirApiHeaderVisitor} :
    v.finalize env = none ↔ v.jsonInput = true ∧ v.contentLength ≠ -1 ∧
      v.contentLength < env.stir_api_body_limit.toNat ∧ v.error.isNone = true := by
  unfold StirApiHeaderVisitor.finalize
  split_ifs with hjson hlength hlimit
  · simp [hjson]
  · simp [hlength]
  · simp only [false_iff]
    omega
  · rw [Option.isNone_iff_eq_none]
    simp only [Bool.not_eq_false] at hjson
    constructor
    · intro herr
      exact ⟨hjson, hlength, by omega, herr⟩
    · intro h
      exact h.2.2.2

/-- **When the head is accepted.** -/
theorem onRequest_error_eq_none_iff (hN : req.Declares N) :
    (onRequest env req).error = none ↔
      ¬ RefusedOtherwise env req ∧ heardLength N < env.stir_api_body_limit.toNat := by
  have hlength := @foldl_visit_contentLength env N req.headers hN {}
  obtain ⟨hjson, herror⟩ := @foldl_visit env req.headers {}
  simp only [Bool.false_or, Option.isNone_none, Bool.true_and] at hjson herror
  have hlimit : env.stir_api_body_limit = 0 ↔ env.stir_api_body_limit.toNat = 0 := by
    rw [← UInt32.toNat_inj, UInt32.toNat_zero]
  unfold onRequest RefusedOtherwise
  by_cases hpost : req.method = .POST
  · rw [if_neg (not_not.mpr hpost)]
    cases hpath : endpointOf req.path with
    | none => simp
    | some endpoint =>
      simp only [finalize_eq_none_iff, hjson, herror, hlength]
      by_cases hany : req.headers.any (·.code == .contentLength) = true
      · simp only [hany, if_true, hpost, hlimit, ne_eq, not_true_eq_false, reduceCtorEq,
          Bool.true_eq_false, false_or, not_or, Bool.not_eq_false, not_false_eq_true, true_and]
        constructor
        · rintro ⟨hsends, hlt, htakes⟩
          exact ⟨⟨hsends, htakes, by omega⟩, by omega⟩
        · rintro ⟨⟨hsends, htakes, -⟩, hlt⟩
          exact ⟨hsends, by omega, htakes⟩
      · simp [hany]
  · simp [hpost]

/-- Pieces are kept as long as there is no error, and never measured. -/
theorem foldl_onBody (pieces : List Text) (h : StirApiHandler) :
    pieces.foldl onBody h =
      if h.error.isNone then { h with body := h.body ++ pieces.flatten } else h := by
  induction pieces generalizing h with
  | nil =>
    rw [List.flatten_nil, List.append_nil]
    split <;> rfl
  | cons piece pieces ih =>
    rw [List.foldl_cons, ih, onBody]
    cases herr : h.error <;> simp [herr]

theorem received_error : (received env req pieces).error = (onRequest env req).error := by
  rw [received, foldl_onBody]
  split <;> rfl

/-- What is there when the last piece has come, if there is no error. -/
theorem received_body (h : (received env req pieces).error = none) :
    (received env req pieces).body = pieces.flatten := by
  rw [received_error] at h
  have hempty : (onRequest env req).body = [] := by
    unfold onRequest
    split
    · rfl
    · split <;> rfl
  rw [received, foldl_onBody, h, if_pos Option.isNone_none]
  change (onRequest env req).body ++ pieces.flatten = _
  rw [hempty, List.nil_append]

/-- An error from the head is the answer. -/
theorem onEOM_of_error {h : StirApiHandler} {err : StirApiError} (herr : h.error = some err) :
    onEOM env h = .ok (answer env h) ∧ (answer env h).status = err.http_status := by
  constructor
  · simp only [onEOM, herr, Option.isNone_some, Bool.false_eq_true, if_false]
    rfl
  · simp only [answer, herr]

end Received

/-! ## 4. The limit -/

/-- The request is answered with an error. -/
def AnswersError (h : StirApiHandler) : Prop := ∃ r, onEOM env h = .ok r ∧ 400 ≤ r.status

/-- **When the limit holds.**  For any headers and any pieces that make up the declared length: a
body that reaches `handleRequest` is shorter than the limit, and a declared length that is not is
answered with an error, exactly when the length fits 32 bits or something else speaks against the
request. -/
theorem body_limited_iff (env : Env) (req : Request) (pieces : List Text)
    (hN : req.Declares pieces.flatten.length) :
    (((received env req pieces).error = none →
        (received env req pieces).body.length < env.stir_api_body_limit.toNat) ∧
      (req.headers.any (·.code == .contentLength) = true →
        env.stir_api_body_limit.toNat ≤ pieces.flatten.length →
        AnswersError env (received env req pieces))) ↔
      pieces.flatten.length < 2 ^ 32 ∨ RefusedOtherwise env req := by
  have hreaches := @onRequest_error_eq_none_iff env req _ hN
  rw [← @received_error env req pieces] at hreaches
  have hrefuses : (received env req pieces).error ≠ none →
      AnswersError env (received env req pieces) := by
    intro hne
    obtain ⟨err, herr⟩ := Option.ne_none_iff_exists'.mp hne
    obtain ⟨hrun, hstatus⟩ := @onEOM_of_error env _ err herr
    exact ⟨_, hrun, hstatus ▸ err.http_status_ge⟩
  constructor
  · rintro ⟨hshort, -⟩
    by_contra hnot
    rw [not_or] at hnot
    obtain ⟨hlong, hfine⟩ := hnot
    -- the length was heard as zero, and the limit is not zero
    have hlimit : env.stir_api_body_limit.toNat ≠ 0 := by
      intro hzero
      refine hfine (Or.inr (Or.inr (Or.inr (Or.inr (Or.inr ?_)))))
      rwa [← UInt32.toNat_inj, UInt32.toNat_zero]
    have hnone := hreaches.mpr ⟨hfine, by rw [heardLength, if_neg hlong]; omega⟩
    have hlt := hshort hnone
    rw [received_body hnone] at hlt
    have := env.stir_api_body_limit.toNat_lt
    omega
  · intro hcond
    have hheard : (received env req pieces).error = none →
        pieces.flatten.length < env.stir_api_body_limit.toNat := by
      intro hnone
      obtain ⟨hfine, hlt⟩ := hreaches.mp hnone
      rcases hcond with hword | hrefused
      · rwa [heardLength, if_pos hword] at hlt
      · exact absurd hrefused hfine
    constructor
    · intro hnone
      rw [received_body hnone]
      exact hheard hnone
    · intro _ hlong
      refine hrefuses fun hnone => ?_
      have := hheard hnone
      omega

/-- The flags as they are by default. -/
def sampleEnv : Env where
  parseQvalues _ := []
  lib := sampleLibrary
  showDouble _ := []
  what _ := []
  printJson _ := []
  stir_api_body_limit := 32768
  valid_iat_period := 60
  now := 1614060380
  randomId := []

/-- A request with a body of this length. -/
def signingOf (length : String) : Request where
  method := .POST
  path := Dynamic.text "/stir/v1/signing"
  headers := [⟨.contentType, Dynamic.text "Content-Type", Dynamic.text "application/json"⟩,
    ⟨.contentLength, Dynamic.text "Content-Length", Dynamic.text length⟩]

theorem declares_signingOf {length : String} {digits : Text} {N : ℕ}
    (h : numeral (Dynamic.text length) = some digits) (hN : decimal digits = N) :
    (signingOf length).Declares N := by
  intro x hx hcode
  rcases List.mem_cons.mp hx with rfl | hx
  · cases hcode
  · rw [List.mem_singleton.mp hx]
    exact ⟨digits, h, hN⟩

/-- A body of two bytes, in two pieces. -/
theorem body_limited_two_pieces :
    (received sampleEnv (signingOf "2") [['\x7b'], ['\x7d']]).error = none ∧
      (received sampleEnv (signingOf "2") [['\x7b'], ['\x7d']]).body.length < 32768 := by
  have hnone : (received sampleEnv (signingOf "2") [['\x7b'], ['\x7d']]).error = none := by
    rw [received_error]
    decide
  have hN : (signingOf "2").Declares 2 :=
    declares_signingOf (show _ = some ['2'] by decide) (by decide)
  have hlimited := (body_limited_iff sampleEnv (signingOf "2") [['\x7b'], ['\x7d']] hN).mpr
    (Or.inl (by decide))
  exact ⟨hnone, hlimited.1 hnone⟩

/-- **A body of four gigabytes**: its length is heard as zero, and all of it is kept. -/
theorem body_not_limited_four_gigabytes :
    let pieces := [List.replicate (2 ^ 32) 'a']
    (signingOf "4294967296").Declares pieces.flatten.length ∧
      (received sampleEnv (signingOf "4294967296") pieces).error = none ∧
      ¬ (received sampleEnv (signingOf "4294967296") pieces).body.length <
        sampleEnv.stir_api_body_limit.toNat := by
  intro pieces
  have hlength : pieces.flatten.length = 2 ^ 32 := by
    rw [List.flatten_singleton, List.length_replicate]
  have hnone : (received sampleEnv (signingOf "4294967296") pieces).error = none := by
    rw [received_error]
    decide
  refine ⟨?_, hnone, ?_⟩
  · rw [hlength]
    exact declares_signingOf (show _ = some (Dynamic.text "4294967296") by decide) (by decide)
  · rw [received_body hnone, hlength]
    decide

/-! ## 5. The end of a request -/

section Ends

variable {env : Env} {req : Request} {pieces : List Text}

/-- A request that is not refused has an endpoint. -/
theorem received_endpoint (h : (received env req pieces).error = none) :
    ∃ endpoint, (received env req pieces).endpoint = some endpoint := by
  have hsame : (received env req pieces).endpoint = (onRequest env req).endpoint := by
    rw [received, foldl_onBody]
    split <;> rfl
  rw [received_error] at h
  rw [hsame]
  unfold onRequest at h ⊢
  split at h
  · cases h
  · rename_i hpost
    rw [if_neg hpost]
    cases hpath : endpointOf req.path with
    | none =>
      rw [hpath] at h
      cases h
    | some endpoint => exact ⟨endpoint, rfl⟩

theorem onEOM_returns_iff_handleRequest {h : StirApiHandler} (herr : h.error = none) :
    (∃ r, onEOM env h = .ok r) ↔ ∃ h', handleRequest env h = .ok h' := by
  simp only [onEOM, herr, Option.isNone_none, if_true]
  constructor
  · rintro ⟨r, hr⟩
    obtain ⟨h', hh, -⟩ := bind_eq_ok.mp hr
    exact ⟨h', hh⟩
  · rintro ⟨h', hh⟩
    exact ⟨answer env h', bind_eq_ok.mpr ⟨h', hh, rfl⟩⟩

theorem handleRequest_sign_returns_iff {h : StirApiHandler} (hsign : h.endpoint = some .SIGN) :
    (∃ h', handleRequest env h = .ok h') ↔
      ∃ r, (signingType env.showDouble).fromJson env.lib.parseJson env.what (.string h.body) =
        .ok r := by
  simp only [handleRequest, hsign]
  constructor
  · rintro ⟨h', hh⟩
    obtain ⟨r, hr, -⟩ := bind_eq_ok.mp hh
    exact ⟨r, hr⟩
  · rintro ⟨r, hr⟩
    rw [hr]
    cases r <;> exact ⟨_, rfl⟩

theorem handleRequest_verify_returns_iff {h : StirApiHandler}
    (hverify : h.endpoint = some .VERIFY) :
    (∃ h', handleRequest env h = .ok h') ↔
      ∃ r, (verificationType env.showDouble).fromJson env.lib.parseJson env.what (.string h.body) =
        .ok r ∧ ∀ m, r = .ok m →
          ∃ response, verifyPassport env.lib env.valid_iat_period env.now m = .ok response := by
  simp only [handleRequest, hverify]
  constructor
  · rintro ⟨h', hh⟩
    obtain ⟨r, hr, hh⟩ := bind_eq_ok.mp hh
    refine ⟨r, hr, ?_⟩
    rintro m rfl
    obtain ⟨response, hresponse, -⟩ := bind_eq_ok.mp hh
    exact ⟨response, hresponse⟩
  · rintro ⟨r, hr, hm⟩
    rw [hr]
    cases r with
    | error err => exact ⟨_, rfl⟩
    | ok m =>
      obtain ⟨response, hresponse⟩ := hm m rfl
      refine ⟨_, bind_eq_ok.mpr ⟨.ok m, rfl, bind_eq_ok.mpr ⟨response, hresponse, rfl⟩⟩⟩

/-- **When a request is answered.**  `onEOM` is `noexcept`, so the process goes on exactly when the
head was refused, or the parser throws nothing but `parse_error` at the body and nothing escapes
from the verification of a request that was decoded from it. -/
theorem onEOM_returns_iff (env : Env) (req : Request) (pieces : List Text) :
    (∃ r, onEOM env (received env req pieces) = .ok r) ↔
      ((received env req pieces).error = none →
        (∀ e, env.lib.parseJson pieces.flatten = .error e → e = .exn .parseError) ∧
        ∀ m, (received env req pieces).endpoint = some .VERIFY →
          (verificationType env.showDouble).fromJson env.lib.parseJson env.what
            (.string pieces.flatten) = .ok (.ok m) →
          ¬ Escapes env.lib env.valid_iat_period env.now m) := by
  cases herr : (received env req pieces).error with
  | some err =>
    refine ⟨fun _ => nofun, fun _ => ⟨_, (onEOM_of_error herr).1⟩⟩
  | none =>
    obtain ⟨endpoint, hendpoint⟩ := received_endpoint herr
    rw [onEOM_returns_iff_handleRequest herr]
    simp only [true_imp_iff]
    cases endpoint with
    | SIGN =>
      rw [handleRequest_sign_returns_iff hendpoint, received_body herr,
        (signing_implements env.showDouble).fromJson_returns_iff, hendpoint]
      exact ⟨fun h => ⟨h, nofun⟩, fun h => h.1⟩
    | VERIFY =>
      have hreturns := @Implements.fromJson_returns_iff _ _ _ env.lib.parseJson env.what
        (verification_implements env.showDouble) pieces.flatten
      rw [handleRequest_verify_returns_iff hendpoint, received_body herr, ← hreturns]
      constructor
      · rintro ⟨r, hr, hm⟩
        refine ⟨⟨r, hr⟩, ?_⟩
        intro m _ hok
        rw [hr] at hok
        rw [← checkClaims_throws_iff, ← verifyPassport_eq_ok_iff]
        exact hm m (Except.ok.inj hok)
      · rintro ⟨⟨r, hr⟩, hm⟩
        refine ⟨r, hr, ?_⟩
        rintro m rfl
        rw [verifyPassport_eq_ok_iff, checkClaims_throws_iff]
        exact hm m hendpoint hr

end Ends

end CallFwd.Stir
