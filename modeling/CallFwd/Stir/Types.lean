/-
# The requests of the STIR service, and what their validators let through

The strings of a request come from a JSON body and may hold any bytes.  The validators look at them
with functions of C strings: `strchr` finds the terminating NUL of the accepted characters, so a
telephone number may hold NUL bytes, and `uuid_parse` stops at a NUL, so anything may stand behind
one in `origid`.

`validate_eq_none_iff` says what a valid signing request is, and `NulFree` is what is missing for
its strings to be what they seem (`Stir/Payload`).
-/
import CallFwd.StringPiece
import CallFwd.Dynamic

namespace CallFwd.Stir

/-! ## 1. Messages -/

structure SigningRequest where
  attest : Text
  dest : List Text
  iat : UInt64
  orig : Text
  origid : Text
deriving DecidableEq, Repr

structure VerificationRequest where
  identity : Text
  to_ : List Text
  from_ : Text
  time : UInt64
deriving DecidableEq, Repr

/-- Its texts are constants of the code. -/
structure VerificationResponse where
  reasonCode : ℕ
  verStat : String
  reasonText : String
  reasonDesc : String
deriving DecidableEq, Repr

/-! ## 2. Errors -/

inductive StirApiErrorCode
  | missingBody
  | missingInformation
  | notAcceptableResponseBodyType
  | resourceNotFound
  | unsupportedRequestBodyType
  | invalidParameterValue
  | failedToParseMsgBody
  | missingBodyLength
  | methodNotAllowed
  | internalError
deriving DecidableEq, Repr

/-- `StirApiError`: its kind, and its variables with tabs between them. -/
structure StirApiError where
  code : StirApiErrorCode
  vars : Text
deriving DecidableEq, Repr

/-- `putVariable(value)`. -/
def StirApiError.putVariable (err : StirApiError) (value : Text) : StirApiError :=
  { err with vars := (if err.vars = [] then [] else err.vars ++ ['\t']) ++ value }

/-- An error about the value of a parameter. -/
def invalidValue (param reason : String) : StirApiError :=
  (StirApiError.putVariable ⟨.invalidParameterValue, []⟩ (Dynamic.text param)).putVariable
    (Dynamic.text reason)

/-! ## 3. The validators -/

/-- `validateTN(tn)`. -/
def validateTN (tn : Text) : Bool := tn.all (strchr (Dynamic.text "0123456789*#+.-()"))

/-- `s.c_str()`, as a function of C strings reads it. -/
def cString (s : Text) : Text := s.takeWhile (· != '\x00')

def isHexDigit (c : Char) : Bool :=
  c.isDigit || (decide ('a' ≤ c) && decide (c ≤ 'f')) || (decide ('A' ≤ c) && decide (c ≤ 'F'))

/-- The form 8-4-4-4-12 that `uuid_parse` accepts. -/
def isUuid (s : Text) : Bool :=
  s.length == 36 && s.zipIdx.all fun p =>
    if p.2 == 8 || p.2 == 13 || p.2 == 18 || p.2 == 23 then p.1 == '-' else isHexDigit p.1

/-- `uuid_parse(s.c_str(), ..) != -1`. -/
def uuidParse (s : Text) : Bool := isUuid (cString s)

/-- `StirApiType<SigningRequest>::validate`. -/
def SigningRequest.validate (m : SigningRequest) : Option StirApiError :=
  if m.attest ≠ ['A'] ∧ m.attest ≠ ['B'] ∧ m.attest ≠ ['C'] then
    some (invalidValue "attest" "Must be 'A', 'B' or 'C'")
  else if uuidParse m.origid = false then
    some (invalidValue "origid" "should correspond to a UUID (RFC 4122)")
  else if m.dest = [] then some (invalidValue "dest" "should contain one or more TN")
  else if validateTN m.orig = false then
    some (invalidValue "orig" "Only [0-9*#+.-()] characters allowed for TN")
  else if m.dest.all validateTN = false then
    some (invalidValue "dest" "Only [0-9*#+.-()] characters allowed for TN")
  else none

/-- `StirApiType<VerificationRequest>::validate`. -/
def VerificationRequest.validate (m : VerificationRequest) : Option StirApiError :=
  if m.to_ = [] then some (invalidValue "to" "should contain one or more TN")
  else if validateTN m.from_ = false then
    some (invalidValue "from" "Only [0-9*#+.-()] characters allowed for TN")
  else if m.to_.all validateTN = false then
    some (invalidValue "to" "Only [0-9*#+.-()] characters allowed for TN")
  else none

/-! ## 4. What a valid request is -/

/-- **A valid signing request.** -/
theorem SigningRequest.validate_eq_none_iff {m : SigningRequest} :
    m.validate = none ↔
      (m.attest = ['A'] ∨ m.attest = ['B'] ∨ m.attest = ['C']) ∧ uuidParse m.origid = true ∧
        m.dest ≠ [] ∧ validateTN m.orig = true ∧ ∀ tn ∈ m.dest, validateTN tn = true := by
  unfold SigningRequest.validate
  split_ifs with h1 h2 h3 h4 h5
  · simp only [false_iff]
    tauto
  · simp [h2]
  · simp [h3]
  · simp [h4]
  · simp only [List.all_eq_false] at h5
    obtain ⟨tn, htn, hbad⟩ := h5
    simp only [false_iff]
    intro h
    exact hbad (h.2.2.2.2 tn htn)
  · simp only [Bool.not_eq_false, List.all_eq_true] at h2 h4 h5
    simp only [true_iff]
    exact ⟨by tauto, h2, h3, h4, h5⟩

/-- No NUL byte in it. -/
def NulFree (s : Text) : Prop := '\x00' ∉ s

/-- A character of a telephone number or of a UUID. -/
def IsTokenChar (c : Char) : Prop :=
  c ∈ Dynamic.text "0123456789*#+.-()" ∨ c = '-' ∨ isHexDigit c = true

/-- The characters of a telephone number, but for NUL. -/
theorem isTokenChar_of_validateTN {tn : Text} (h : validateTN tn = true) :
    ∀ c ∈ tn, IsTokenChar c ∨ c = '\x00' := by
  intro c hc
  rcases strchr_eq_true.mp (List.all_eq_true.mp h c hc) with hc | hc
  · exact Or.inl (Or.inl hc)
  · exact Or.inr hc

theorem isTokenChar_of_isUuid {s : Text} (h : isUuid s = true) : ∀ c ∈ s, IsTokenChar c := by
  intro c hc
  obtain ⟨i, hi, rfl⟩ := List.getElem_of_mem hc
  have hall := (Bool.and_eq_true_iff.mp h).2
  have hpos := List.all_eq_true.mp hall (s[i], i)
    (List.mk_mem_zipIdx_iff_getElem?.mpr (List.getElem?_eq_getElem hi))
  simp only at hpos
  split at hpos
  · exact Or.inr (Or.inl (beq_iff_eq.mp hpos))
  · exact Or.inr (Or.inr hpos)

/-- A UUID without a NUL behind it is all there is. -/
theorem isTokenChar_of_uuidParse {s : Text} (h : uuidParse s = true) (hnul : NulFree s) :
    ∀ c ∈ s, IsTokenChar c := by
  have hwhole : cString s = s := by
    rw [cString, List.takeWhile_eq_self_iff]
    intro c hc
    have : c ≠ '\x00' := fun e => hnul (e ▸ hc)
    simpa using this
  rw [uuidParse, hwhole] at h
  exact isTokenChar_of_isUuid h

end CallFwd.Stir
