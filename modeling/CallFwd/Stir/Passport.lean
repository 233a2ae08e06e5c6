/-
# PASSporTs: signing and verification

`makePassport` formats a header and a payload, signs their encodings, and appends the address of the
certificate.  `verifyPassport` takes an identity apart again and returns at the first check that
fails, with a reason of its own.  It is written here as a sequence of stages; a stage goes on,
RETURNS a response, or THROWS, and what is thrown leaves `verifyPassport`.

Base64, the JSON parser, the URI parser, SHA-256 and ECDSA are parameters (`Library`).  The two key
files are taken to be there.
-/
import CallFwd.Stir.Types
import Mathlib.Data.List.Sort
import Mathlib.Data.Char

namespace CallFwd

/-! ## 1. `folly::dynamic`, as the verifier uses it -/

namespace Dynamic

def isObject : Dynamic → Bool
  | .object _ => true
  | _ => false

/-- `get_ptr(key)`, of an object. -/
def getPtr (d : Dynamic) (key : String) : Option Dynamic :=
  match d with
  | .object members => (members.find? fun m => decide (m.1 = text key)).map Prod.snd
  | _ => none

/-- `d[key]` of a const `d`: a missing member throws `std::out_of_range`, anything but an object
`TypeError`. -/
def index (d : Dynamic) (key : String) : Except Stop Dynamic :=
  if d.isObject then
    match d.getPtr key with
    | some v => .ok v
    | none => .error (.exn .outOfRange)
  else .error (.exn .typeError)

/-- `d[key]` of a `d` that is not const: a missing member is put there as null, and only what is no
object throws.  Nothing reads the inserted member again, so `d` itself stays as it is. -/
def indexOrInsert (d : Dynamic) (key : String) : Except Stop Dynamic :=
  if d.isObject then .ok ((d.getPtr key).getD .null) else .error (.exn .typeError)

/-- `d == s`. -/
def eqText (d : Dynamic) (s : Text) : Bool :=
  match d with
  | .string t => decide (t = s)
  | _ => false

/-- `d == dynamic::array(range(ss))`. -/
def eqTexts (d : Dynamic) (ss : List Text) : Bool :=
  match d with
  | .array elems => elems.length == ss.length && (elems.zip ss).all fun p => p.1.eqText p.2
  | _ => false

/-- Only a string is compared by its text. -/
theorem eqText_iff {d : Dynamic} {s : Text} : d.eqText s = true ↔ d = .string s := by
  cases d <;> simp [eqText]

/-- Only an array is compared with a vector, element by element. -/
theorem eqTexts_iff {d : Dynamic} {ss : List Text} :
    d.eqTexts ss = true ↔ d = .array (ss.map .string) := by
  cases d with
  | array elems =>
    simp only [eqTexts, Bool.and_eq_true, beq_iff_eq, array.injEq]
    induction elems generalizing ss with
    | nil => cases ss <;> simp
    | cons e elems ih =>
      cases ss with
      | nil => simp
      | cons s ss =>
        simp only [List.length_cons, Nat.add_right_cancel_iff, List.zip_cons_cons, List.all_cons,
          Bool.and_eq_true, eqText_iff, List.map_cons, List.cons.injEq, ← ih]
        tauto
  | _ => simp [eqTexts]

theorem isObject_of_getPtr {d v : Dynamic} {key : String} (h : d.getPtr key = some v) :
    d.isObject = true := by
  cases d <;> simp_all [getPtr, isObject]

/-- Reading a const value succeeds where there is a member. -/
theorem index_eq_ok_iff {d v : Dynamic} {key : String} :
    d.index key = .ok v ↔ d.getPtr key = some v := by
  unfold index
  constructor
  · intro h
    split at h
    · split at h
      · rename_i hv
        cases h
        exact hv
      · cases h
    · cases h
  · intro h
    rw [if_pos (isObject_of_getPtr h), h]

/-- A member that is there is read, and nothing is inserted. -/
theorem indexOrInsert_of_getPtr {d v : Dynamic} {key : String} (h : d.getPtr key = some v) :
    d.indexOrInsert key = .ok v := by
  rw [indexOrInsert, if_pos (isObject_of_getPtr h), h, Option.getD_some]

/-- Only a null can have been put there. -/
theorem indexOrInsert_eq_ok_iff {d v : Dynamic} {key : String} (hv : v ≠ .null) :
    d.indexOrInsert key = .ok v ↔ d.getPtr key = some v := by
  refine ⟨fun h => ?_, indexOrInsert_of_getPtr⟩
  unfold indexOrInsert at h
  split at h
  · have hget : (d.getPtr key).getD .null = v := Except.ok.inj h
    cases hptr : d.getPtr key with
    | none =>
      rw [hptr, Option.getD_none] at hget
      exact absurd hget.symm hv
    | some w =>
      rw [hptr, Option.getD_some] at hget
      rw [hget]
  · cases h

/-- A missing member is no reason to throw. -/
theorem indexOrInsert_throws_iff {d : Dynamic} {key : String} :
    (∃ e, d.indexOrInsert key = .error e) ↔ d.isObject = false := by
  unfold indexOrInsert
  cases d.isObject <;> simp

end Dynamic

namespace Stir

/-! ## 2. What is not here -/

/-- The functions of proxygen, folly and OpenSSL.  `uri` is the constructor of `folly::Uri`; a
signature is the pair of its numbers, and `doVerify` says whether `ECDSA_do_verify` returns 1. -/
structure Library where
  urlEncode : Text → Text
  urlDecode : Text → Text
  parseJson : Text → Except Stop Dynamic
  uri : Text → Except Stop Unit
  sha256 : Text → Text
  doSign : Text → ℕ × ℕ
  doVerify : Text → ℕ × ℕ → Bool

/-- `BN_bn2binpad(n, .., width)`: the last `width` bytes of `n`, the most significant first. -/
def bn2binpad : ℕ → ℕ → Text
  | 0, _ => []
  | width + 1, n => bn2binpad width (n / 256) ++ [Char.ofNat (n % 256)]

/-- `BN_bin2bn(bytes)`. -/
def bin2bn (bytes : Text) : ℕ := bytes.foldl (fun n c => n * 256 + c.toNat) 0

/-! ## 3. Signing -/

/-- The fixed address of the certificate. -/
def x5u : Text := Dynamic.text "http://asipto.lab/stir/cert.pem"

/-- The header that is signed. -/
def headerText : Text :=
  Dynamic.text "\x7b\"alg\":\"ES256\",\"ppt\":\"shaken\",\"typ\":\"passport\",\"x5u\":\"" ++ x5u ++
    Dynamic.text "\"\x7d"

/-- The destinations, sorted lexicographically. -/
def sortedDest (m : SigningRequest) : List Text := m.dest.insertionSort (· ≤ ·)

/-- The payload that is signed. -/
def payloadText (m : SigningRequest) : Text :=
  Dynamic.text "\x7b\"attest\":\"" ++ m.attest ++ Dynamic.text "\",\"dest\":\x7b\"tn\":[\"" ++
    (Dynamic.text "\",\"").intercalate (sortedDest m) ++ Dynamic.text "\"]\x7d,\"iat\":" ++
    printUint64 m.iat ++ Dynamic.text ",\"orig\":\x7b\"tn\":\"" ++ m.orig ++
    Dynamic.text "\"\x7d,\"origid\":\"" ++ m.origid ++ Dynamic.text "\"\x7d"

/-- `folly::sformat("{}.{}", ..)`. -/
def signingString (lib : Library) (header payload : Text) : Text :=
  lib.urlEncode header ++ '.' :: lib.urlEncode payload

/-- `sigbuf`: the two numbers of a signature, 32 bytes each. -/
def sigbuf (sig : ℕ × ℕ) : Text := bn2binpad 32 sig.1 ++ bn2binpad 32 sig.2

/-- `makePassport(req)`. -/
def makePassport (lib : Library) (m : SigningRequest) : Text :=
  let signed := signingString lib headerText (payloadText m)
  let sig := lib.doSign (lib.sha256 signed)
  signed ++ '.' :: lib.urlEncode (sigbuf sig) ++ Dynamic.text ";info=<" ++ x5u ++ ['>']

/-! ## 4. The responses -/

def NO_TN_VALIDATION : String := "No-TN-Validation"

def TN_VALIDATION_FAILED : String := "TN-Validation-Failed"

def TN_VALIDATION_PASSED : String := "TN-Validation-Passed"

def VF_STALE_DATE (desc : String) : VerificationResponse :=
  ⟨403, NO_TN_VALIDATION, "Stale Date", desc⟩

def VF_INVALID_IDENTITY (desc : String) : VerificationResponse :=
  ⟨438, NO_TN_VALIDATION, "Invalid Identity Header", desc⟩

def VF_BAD_IDENTITY_INFO (desc : String) : VerificationResponse :=
  ⟨436, NO_TN_VALIDATION, "Bad identity Info", desc⟩

def VF_UNSUPPORTED_CREDENTIAL (fail : Bool) (desc : String) : VerificationResponse :=
  ⟨437, if fail then TN_VALIDATION_FAILED else NO_TN_VALIDATION, "Unsupported credential", desc⟩

/-! ## 5. Verification, stage by stage -/

/-- How a stage ends when it does not go on. -/
inductive Exit
  | returns (r : VerificationResponse)
  | throws (e : Stop)

/-- `if (bad) return r;` -/
def rejectIf (bad : Bool) (r : VerificationResponse) : Except Exit Unit :=
  if bad then .error (.returns r) else .ok ()

/-- What is thrown in a stage is not caught. -/
def throwing {α : Type} : Except Stop α → Except Exit α
  | .ok a => .ok a
  | .error e => .error (.throws e)

/-- `(a > b) ? a - b : b - a`. -/
def drift (a b : UInt64) : UInt64 := if b < a then a - b else b - a

/-- What an identity is cut into: the three portions of the digest, and what follows the ';'. -/
structure Identity where
  header : Text
  payload : Text
  signature : Text
  rest : Text

def splitIdentity (identity : Text) : Identity :=
  let (identityDigest, rest) := splitStep ';' identity
  let (header, identityDigest) := splitStep '.' (trimWhitespace identityDigest)
  let (payload, signature) := splitStep '.' identityDigest
  ⟨header, payload, signature, rest⟩

/-- `identityInfo`, and what is left of the identity behind it. -/
def identityInfo (identity : Text) : Text × Text :=
  let (name, identity) := splitStep '=' (ltrimWhitespace identity)
  if name = Dynamic.text "info" then
    match ltrimWhitespace identity with
    | '<' :: identity =>
      let (uri, identity) := splitStep '>' identity
      (trimWhitespace uri, identity)
    | identity => ([], identity)
  else ([], identity)

/-- `folly::Uri(identityInfo)`, with the handler of `std::invalid_argument`. -/
def checkUri (lib : Library) (info : Text) : Except Exit Unit :=
  match lib.uri info with
  | .error (.exn .invalidArgument) =>
    .error (.returns (VF_BAD_IDENTITY_INFO "Invalid 'info' URI."))
  | r => throwing r

/-- `while (!identity.empty()) { .. }`: the parameters behind info. -/
def checkPpt (identity : Text) : Except Exit Unit :=
  if _h : identity = [] then .ok ()
  else
    let param := trimWhitespace (splitStep '=' identity).1
    let value := trimWhitespace (splitStep ';' (splitStep '=' identity).2).1
    if param = Dynamic.text "ppt" ∧ value ≠ Dynamic.text "shaken" then
      .error (.returns (VF_INVALID_IDENTITY
        "Identity header is received with 'ppt' parameter value that is not 'shaken'."))
    else checkPpt (splitStep ';' (splitStep '=' identity).2).2
termination_by identity.length
decreasing_by
  exact Nat.lt_of_le_of_lt (length_splitStep_le _ _) (length_splitStep_lt _h)

/-- `folly::parseJson(text)`, with the handler of `folly::json::parse_error`. -/
def decode (lib : Library) (text : Text) (desc : String) : Except Exit Dynamic :=
  match lib.parseJson text with
  | .error (.exn .parseError) => .error (.returns (VF_BAD_IDENTITY_INFO desc))
  | r => throwing r

/-- The checks of the header; `header` is not const here, and neither is the payload below. -/
def checkHeader (header : Dynamic) (info : Text) : Except Exit Unit := do
  rejectIf (!header.isObject) (VF_BAD_IDENTITY_INFO "PASSporT header is not a JSON object.")
  rejectIf (header.getPtr "ppt").isNone
    (VF_BAD_IDENTITY_INFO "Missing 'ppt' claim in the PASSporT header.")
  rejectIf (header.getPtr "typ").isNone
    (VF_BAD_IDENTITY_INFO "Missing 'typ' claim in the PASSporT header.")
  rejectIf (header.getPtr "alg").isNone
    (VF_BAD_IDENTITY_INFO "Missing 'alg' claim in the PASSporT header.")
  rejectIf (header.getPtr "x5u").isNone
    (VF_BAD_IDENTITY_INFO "Missing 'x5u' claim in the PASSporT header.")
  let typ ← throwing (header.indexOrInsert "typ")
  rejectIf (!typ.eqText (Dynamic.text "passport"))
    (VF_UNSUPPORTED_CREDENTIAL false "'typ' from PASSporT header is not 'passport'.")
  let alg ← throwing (header.indexOrInsert "alg")
  rejectIf (!alg.eqText (Dynamic.text "ES256"))
    (VF_UNSUPPORTED_CREDENTIAL false "'alg' from PASSporT header is not 'ES256'.")
  let x5u ← throwing (header.indexOrInsert "x5u")
  rejectIf (!x5u.eqText info) (VF_BAD_IDENTITY_INFO <|
    "'x5u' from PASSporT header doesn’t match the 'info' parameter of identity header value.")
  let ppt ← throwing (header.indexOrInsert "ppt")
  rejectIf (!ppt.eqText (Dynamic.text "shaken"))
    (VF_INVALID_IDENTITY "'ppt' from PASSporT header is not 'shaken'")

/-- A value that is an integer and not negative. -/
def natural : Dynamic → Option UInt64
  | .int n => if 0 ≤ n then some n.toUInt64 else none
  | _ => none

/-- The checks of the payload. -/
def checkPayload (validIatPeriod : UInt32) (request : VerificationRequest) (payload : Dynamic) :
    Except Exit Unit := do
  rejectIf (!payload.isObject) (VF_BAD_IDENTITY_INFO "PASSporT payload is not a JSON object.")
  rejectIf (payload.getPtr "dest").isNone
    (VF_INVALID_IDENTITY "Missing 'dest' mandatory claim in PASSporT payload")
  rejectIf (payload.getPtr "orig").isNone
    (VF_INVALID_IDENTITY "Missing 'orig' mandatory claim in PASSporT payload")
  rejectIf (payload.getPtr "attest").isNone
    (VF_INVALID_IDENTITY "Missing 'attest' mandatory claim in PASSporT payload")
  rejectIf (payload.getPtr "origid").isNone
    (VF_INVALID_IDENTITY "Missing 'origid' mandatory claim in PASSporT payload")
  rejectIf (payload.getPtr "iat").isNone
    (VF_INVALID_IDENTITY "Missing 'iat' mandatory claim in PASSporT payload")
  let iat ← throwing (payload.indexOrInsert "iat")
  rejectIf (natural iat).isNone (VF_INVALID_IDENTITY "Bad 'iat' claim value in PASSporT payload")
  rejectIf (decide (validIatPeriod.toNat < (drift ((natural iat).getD 0) request.time).toNat))
    (VF_STALE_DATE "'iat' from PASSporT payload is not fresh.")
  let attest ← throwing (payload.indexOrInsert "attest")
  rejectIf (!attest.eqText ['A'] && !attest.eqText ['B'] && !attest.eqText ['C'])
    (VF_INVALID_IDENTITY "'attest' claim in PASSporT payload is not valid.")
  let orig ← throwing (payload.indexOrInsert "orig")
  let origTN ← throwing (orig.indexOrInsert "tn")
  rejectIf (!origTN.eqText request.from_) (VF_INVALID_IDENTITY <|
    "'orig' claim from PASSporT payload doesn’t match the received in the verification request " ++
    "claim.")
  let dest ← throwing (payload.indexOrInsert "dest")
  let destTN ← throwing (dest.indexOrInsert "tn")
  rejectIf (!destTN.eqTexts request.to_) (VF_INVALID_IDENTITY <|
    "'dest' claim from PASSporT payload doesn’t match the received in the verification request " ++
    "claim.")

/-- All checks but that of the signature; what goes on are the texts the claims were read from, and
the signature. -/
def checkClaims (lib : Library) (validIatPeriod : UInt32) (now : UInt64)
    (request : VerificationRequest) : Except Exit (Text × Text × Text) := do
  rejectIf (decide (validIatPeriod.toNat < (drift request.time now).toNat))
    (VF_STALE_DATE "Received 'time' value is not fresh.")
  let identity := splitIdentity request.identity
  rejectIf (identity.header.isEmpty && identity.payload.isEmpty) (VF_INVALID_IDENTITY
    "Identity header in compact form instead of required by SHAKEN spec full form.")
  let (info, rest) := identityInfo identity.rest
  rejectIf info.isEmpty (VF_BAD_IDENTITY_INFO "Missing 'info' parameter in the 'identity'.")
  checkUri lib info
  checkPpt rest
  let headerText := lib.urlDecode identity.header
  let header ← decode lib headerText "Unable to decode PASSporT header."
  checkHeader header info
  let payloadText := lib.urlDecode identity.payload
  let payload ← decode lib payloadText "Unable to decode PASSporT payload."
  checkPayload validIatPeriod request payload
  return (headerText, payloadText, lib.urlDecode identity.signature)

/-- The numbers of a signature; one of another length is taken for (0, 0). -/
def signatureOf (sigbuf : Text) : ℕ × ℕ :=
  if sigbuf.length = 64 then (bin2bn (sigbuf.take 32), bin2bn (sigbuf.drop 32)) else (0, 0)

/-- The check of the signature, over the texts encoded again. -/
def verifySignature (lib : Library) (headerText payloadText sigbuf : Text) : Bool :=
  lib.doVerify (lib.sha256 (signingString lib headerText payloadText)) (signatureOf sigbuf)

/-- `verifyPassport(request)`; `now` is the clock in seconds. -/
def verifyPassport (lib : Library) (validIatPeriod : UInt32) (now : UInt64)
    (request : VerificationRequest) : Except Stop VerificationResponse :=
  match checkClaims lib validIatPeriod now request with
  | .error (.throws e) => .error e
  | .error (.returns r) => .ok r
  | .ok (headerText, payloadText, sigbuf) =>
    if verifySignature lib headerText payloadText sigbuf then .ok ⟨0, TN_VALIDATION_PASSED, "", ""⟩
    else .ok ⟨438, TN_VALIDATION_FAILED, "Invalid Identity Header", "Signature validation failed."⟩

end Stir

end CallFwd
