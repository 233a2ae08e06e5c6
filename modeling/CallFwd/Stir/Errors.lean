/-
# The errors of the STIR service, and their variables

An error is a row of a fixed table and a list of VARIABLES, which the text of the row refers to
as %1 and %2.  The list is kept as one text with tabs between its elements: `putVariable` puts a
tab when there is something in the text already, and `toJson` splits the text at its tabs unless
there is nothing in it.

`vars_putVariables` says what the text is after any sequence of calls, and
`toJson_variables_iff` when `toJson` gives the sequence back.  Two kinds of values are lost: empty
ones at the front, which leave nothing behind, and those with a tab of their own.
-/
import CallFwd.Stir.Passport
import CallFwd.Lib.Stream

namespace CallFwd.Stir

open Lib

/-! ## 1. The table -/

/-- `StirApiErrorClass`. -/
structure StirApiErrorClass where
  id : String
  reflect : String
  text : String
  http_status : ℕ
deriving DecidableEq, Repr

/-- `shakenApiError[code]`. -/
def StirApiErrorCode.toClass : StirApiErrorCode → StirApiErrorClass
  | .missingBody => ⟨"SVC4000", "SHAKEN_SVC_MISSING_BODY", "Missing request body", 400⟩
  | .missingInformation =>
    ⟨"SVC4001", "SHAKEN_SVC_MISSING_INFORMATION", "Missing mandatory parameter ‘%1’", 400⟩
  | .notAcceptableResponseBodyType =>
    ⟨"SVC4002", "SHAKEN_SVC_NOT_ACCEPTABLE_RESPONSE_BODY_TYPE",
      "Requested response body type ‘%1’ is not supported", 406⟩
  | .resourceNotFound =>
    ⟨"SVC4003", "SHAKEN_SVC_RESOURCE_NOT_FOUND", "Requested resource was not found", 404⟩
  | .unsupportedRequestBodyType =>
    ⟨"SVC4004", "SHAKEN_SVC_UNSUPPORTED_REQUEST_BODY_TYPE",
      "Unsupported request body type, expected ‘%1‘", 415⟩
  | .invalidParameterValue =>
    ⟨"SVC4005", "SHAKEN_SVC_INVALID_PARAMETER_VALUE", "Invalid ‘%1’ parameter value: %2", 400⟩
  | .failedToParseMsgBody =>
    ⟨"SVC4006", "SHAKEN_SVC_FAILED_TO_PARSE_MSG_BODY",
      "Failed to parse received message body: %1", 400⟩
  | .missingBodyLength =>
    ⟨"SVC4007", "SHAKEN_SVC_MISSING_BODY_LENGTH", "Missing mandatory Content-Length header", 411⟩
  | .methodNotAllowed =>
    ⟨"POL4050", "SHAKEN_POL_METHOD_NOT_ALLOWED", "Method not allowed", 405⟩
  | .internalError =>
    ⟨"POL5000", "SHAKEN_POL_INTERNAL_ERROR",
      "Internal Server Error. Please try again later", 500⟩

namespace StirApiError

/-- `http_status()`. -/
def http_status (err : StirApiError) : ℕ := err.code.toClass.http_status

/-- Every error is answered with a status of its own, and none with that of a response. -/
theorem http_status_ge (err : StirApiError) : 400 ≤ err.http_status := by
  rw [http_status]
  cases err.code <;> decide

/-! ## 2. `toJson` -/

/-- The bytes of a literal. -/
def literal (s : String) : Text := s.toUTF8.toList.map fun b => Char.ofNat b.toNat

/-- The variables as `toJson` reads them. -/
def varList (err : StirApiError) : List Text :=
  if err.vars = [] then [] else err.vars.splitOn '\t'

/-- The three letters an id starts with tell the exceptions apart. -/
def exceptionName (err : StirApiError) : Text :=
  Dynamic.text (if err.code.toClass.id.toList.take 3 = ['S', 'V', 'C'] then "serviceException"
    else "policyException")

/-- The end of `toJson` is not reachable. -/
theorem id_kind (code : StirApiErrorCode) :
    code.toClass.id.toList.take 3 = ['S', 'V', 'C'] ∨
      code.toClass.id.toList.take 3 = ['P', 'O', 'L'] := by
  cases code <;> decide

/-- `toJson()`. -/
def toJson (err : StirApiError) : Dynamic :=
  .object [(err.exceptionName, .object [
    (Dynamic.text "messageId", .string (literal err.code.toClass.id)),
    (Dynamic.text "text", .string (literal err.code.toClass.text)),
    (Dynamic.text "variables", .array (err.varList.map .string))])]

/-- The `variables` of what `toJson` returns. -/
def variablesOf (d : Dynamic) : Option Dynamic :=
  (d.getPtr "serviceException").or (d.getPtr "policyException") |>.bind (·.getPtr "variables")

theorem variablesOf_toJson (err : StirApiError) :
    variablesOf err.toJson = some (.array (err.varList.map .string)) := by
  have h : ∀ v, variablesOf (.object [(err.exceptionName, v)]) = v.getPtr "variables" := by
    intro v
    rw [exceptionName]
    split <;> rfl
  rw [toJson, h]
  rfl

/-! ## 3. A sequence of `putVariable` -/

/-- `for (v : vs) err.putVariable(v);` -/
def putVariables (err : StirApiError) (vs : List Text) : StirApiError := vs.foldl putVariable err

/-- **The text behind a sequence of calls**: all there is, with tabs between, from the first
value on that is not empty. -/
theorem vars_putVariables (err : StirApiError) (vs : List Text) :
    (err.putVariables vs).vars =
      ['\t'].intercalate ((err.vars :: vs).dropWhile List.isEmpty) := by
  induction vs generalizing err with
  | nil => cases h : err.vars <;> simp [putVariables, h]
  | cons v vs ih =>
    have hstep : (err.putVariables (v :: vs)).vars = ((err.putVariable v).putVariables vs).vars :=
      rfl
    rw [hstep, ih]
    cases h : err.vars with
    | nil => simp [putVariable, h]
    | cons c cs => cases vs <;> simp [putVariable, h]

/-- A first value of the usual kind is read back whatever is put behind it. -/
theorem head?_varList (code : StirApiErrorCode) {v : Text} (hv : v ≠ []) (htab : '\t' ∉ v)
    (vs : List Text) :
    ((⟨code, []⟩ : StirApiError).putVariables (v :: vs)).varList.head? = some v := by
  have hvars := vars_putVariables ⟨code, []⟩ (v :: vs)
  rw [List.dropWhile_cons_of_pos (by rfl), List.dropWhile_cons_of_neg (by simpa using hv)] at hvars
  cases vs with
  | nil =>
    rw [List.intercalate_singleton] at hvars
    rw [varList, hvars, if_neg hv, List.splitOn_eq_singleton htab]
    rfl
  | cons w vs =>
    rw [List.intercalate_cons_cons, List.append_assoc, List.singleton_append] at hvars
    rw [varList, hvars, if_neg (by simp [hv]), List.splitOn_append_cons_self_of_not_mem htab]
    rfl

/-- **When the variables come back.** -/
theorem varList_putVariables_iff (code : StirApiErrorCode) (vs : List Text) :
    ((⟨code, []⟩ : StirApiError).putVariables vs).varList = vs ↔
      vs = [] ∨ (vs.head? ≠ some [] ∧ ∀ v ∈ vs, '\t' ∉ v) := by
  have hvars := vars_putVariables ⟨code, []⟩ vs
  rw [List.dropWhile_cons_of_pos (by rfl)] at hvars
  rw [varList, hvars]
  constructor
  · intro h
    by_cases hvs : vs = []
    · exact Or.inl hvs
    refine Or.inr ?_
    split at h
    · exact absurd h.symm hvs
    · rename_i hne
      have hcut : vs.dropWhile List.isEmpty ≠ [] := by
        intro hnil
        rw [hnil] at hne
        exact hne rfl
      have htab : ∀ v ∈ vs, '\t' ∉ v := by
        intro v hv
        rw [← h] at hv
        exact not_mem_of_mem_splitOn hv
      -- no tabs, so splitting gives back what was put together: nothing was dropped
      rw [List.splitOn_intercalate '\t'
        (fun v hv => htab v ((List.dropWhile_suffix _).subset hv)) hcut] at h
      refine ⟨?_, htab⟩
      intro hhead
      have := List.head?_dropWhile_not List.isEmpty vs
      rw [h, hhead] at this
      simp at this
  · rintro (rfl | ⟨hhead, htab⟩)
    · rfl
    · cases vs with
      | nil => rfl
      | cons v vs =>
        have hv : v ≠ [] := fun e => hhead (by rw [e, List.head?_cons])
        have hall : (v :: vs).dropWhile List.isEmpty = v :: vs :=
          List.dropWhile_cons_of_neg (by simpa using hv)
        have hne : ['\t'].intercalate (v :: vs) ≠ [] := by
          cases v with
          | nil => exact absurd rfl hv
          | cons c cs => simp
        rw [hall, if_neg hne, List.splitOn_intercalate '\t' htab (List.cons_ne_nil _ _)]

/-- **When `toJson` gives the variables back**: there are none, or the first is not empty and
none has a tab in it. -/
theorem toJson_variables_iff (code : StirApiErrorCode) (vs : List Text) :
    variablesOf ((⟨code, []⟩ : StirApiError).putVariables vs).toJson =
        some (.array (vs.map .string)) ↔
      vs = [] ∨ (vs.head? ≠ some [] ∧ ∀ v ∈ vs, '\t' ∉ v) := by
  rw [variablesOf_toJson, ← varList_putVariables_iff code, Option.some.injEq,
    Dynamic.array.injEq]
  refine (List.map_injective_iff.mpr fun a b h => ?_).eq_iff
  exact Dynamic.string.inj h

/-- The token of an Accept header without any: one variable is put, and none comes back. -/
theorem toJson_variables_empty_token :
    ¬ ∀ (code : StirApiErrorCode) (vs : List Text),
      variablesOf ((⟨code, []⟩ : StirApiError).putVariables vs).toJson =
        some (.array (vs.map .string)) := by
  intro h
  have := h .notAcceptableResponseBodyType [[]]
  rw [variablesOf_toJson] at this
  exact absurd (congrArg List.length (Dynamic.array.inj (Option.some.inj this))) (by decide)

end StirApiError

end CallFwd.Stir
