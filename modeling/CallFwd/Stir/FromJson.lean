/-
# Decoding a request, and the error it is refused with

`fromJson` decodes a body with a visitor that goes through the parameters of the message.  Nothing
is checked on the way: what is missing or of a wrong type THROWS, and the handlers behind the visit
make an error of the exception and of `param`, the name the visitor stored last.  So the error is
right only if that name is right at every place that throws.

`expected` is what a body should be answered with: it looks at the wrapper and at the parameters in
the order of the visit and stops at the first problem.  `Agrees` relates a piece of the visitor to
the piece of `expected` it stands for, and there is one rule for sequencing.  `fromJson_answers_iff`
says exactly for which bodies the answer is the expected one.  Two kinds are left out: a body with
an integer too large for the parser, where `param` is read before it was stored, and a wrapper
whose value is no object, which is blamed on the first parameter inside.
-/
import CallFwd.Stir.Errors

namespace CallFwd

/-! ## 1. Conversions -/

namespace Dynamic

/-- `folly::convertTo<uint64_t>(d)`. -/
def convertUint64 (d : Dynamic) : Except Stop UInt64 := do
  let n ← d.asInt
  if 0 ≤ n then return n.toUInt64 else .error (.exn .conversionError)

/-- `folly::convertTo<fbvector<fbstring>>(d)`: an object without members is an empty list. -/
def convertTexts (showDouble : Option ℚ → Text) : Dynamic → Except Stop (List Text)
  | .array elems => elems.mapM (asString showDouble)
  | .object [] => .ok []
  | _ => .error (.exn .typeError)

/-- What the conversions throw. -/
def Unconvertible (e : Stop) : Prop := e = .exn .typeError ∨ e = .exn .conversionError

theorem toInt64_error {s : Text} {e : Stop} (h : toInt64 s = .error e) :
    e = .exn .conversionError := by
  simp only [toInt64] at h
  split_ifs at h <;> cases h <;> rfl

theorem asString_error {showDouble : Option ℚ → Text} {d : Dynamic} {e : Stop}
    (h : d.asString showDouble = .error e) : Unconvertible e := by
  cases d <;> cases h <;> exact Or.inl rfl

theorem asInt_error {d : Dynamic} {e : Stop} (h : d.asInt = .error e) : Unconvertible e := by
  cases d with
  | int | bool => cases h
  | null | array | object =>
    cases h
    exact Or.inl rfl
  | double v =>
    cases v with
    | none =>
      cases h
      exact Or.inr rfl
    | some v =>
      rw [asInt] at h
      split at h <;> cases h
      exact Or.inr rfl
  | string s => exact Or.inr (toInt64_error h)

theorem convertUint64_error {d : Dynamic} {e : Stop} (h : d.convertUint64 = .error e) :
    Unconvertible e := by
  rcases bind_eq_error.mp h with h | ⟨n, -, h⟩
  · exact asInt_error h
  · split at h <;> cases h
    exact Or.inr rfl

theorem convertTexts_error {showDouble : Option ℚ → Text} {d : Dynamic} {e : Stop}
    (h : d.convertTexts showDouble = .error e) : Unconvertible e := by
  have hlist : ∀ elems : List Dynamic, elems.mapM (asString showDouble) = .error e →
      Unconvertible e := by
    intro elems
    induction elems with
    | nil =>
      intro h
      cases h
    | cons d elems ih =>
      intro h
      rw [List.mapM_cons, bind_eq_error] at h
      rcases h with h | ⟨t, -, h⟩
      · exact asString_error h
      · rcases bind_eq_error.mp h with h | ⟨ts, -, h⟩
        · exact ih h
        · cases h
  cases d with
  | array elems => exact hlist elems h
  | object members =>
    cases members with
    | nil => cases h
    | cons m members =>
      cases h
      exact Or.inl rfl
  | _ =>
    cases h
    exact Or.inl rfl

end Dynamic

namespace Stir

/-! ## 2. The visitors -/

/-- What a visitor does: the state is `param`, null at first, and a throw leaves it as it is. -/
abbrev FromJsonM := ExceptT Stop (StateM (Option String))

/-- `param = name; .. read ..` -/
def visiting {α : Type} (name : String) (read : Except Stop α) : FromJsonM α := do
  set (some name)
  ExceptT.mk (pure read)

/-- `param = name; .. = convert(d[param]);` -/
def visitMember {α : Type} (d : Dynamic) (name : String) (convert : Dynamic → Except Stop α) :
    FromJsonM α :=
  visiting name do
    let v ← d.index name
    convert v

/-- `param = name; .. = convert(d[param]["tn"]);` -/
def visitTN {α : Type} (d : Dynamic) (name : String) (convert : Dynamic → Except Stop α) :
    FromJsonM α :=
  visiting name do
    let v ← d.index name
    let tn ← v.index "tn"
    convert tn

variable (showDouble : Option ℚ → Text)

/-- `FromJsonVisitor<SigningRequest>::visit`. -/
def SigningRequest.visit (d : Dynamic) : FromJsonM SigningRequest := do
  let attest ← visitMember d "attest" (Dynamic.asString showDouble)
  let dest ← visitTN d "dest" (Dynamic.convertTexts showDouble)
  let orig ← visitTN d "orig" (Dynamic.asString showDouble)
  let origid ← visitMember d "origid" (Dynamic.asString showDouble)
  let iat ← visitMember d "iat" Dynamic.convertUint64
  return { attest, dest, iat, orig, origid }

/-- `FromJsonVisitor<VerificationRequest>::visit`. -/
def VerificationRequest.visit (d : Dynamic) : FromJsonM VerificationRequest := do
  let identity ← visitMember d "identity" (Dynamic.asString showDouble)
  let time ← visitMember d "time" Dynamic.convertUint64
  let from_ ← visitTN d "from" (Dynamic.asString showDouble)
  let to_ ← visitTN d "to" (Dynamic.convertTexts showDouble)
  return { identity, to_, from_, time }

/-- `StirApiType<M>`, and the name that `FromJsonVisitor<M>::unwrap` looks for. -/
structure StirApiType (M : Type) where
  wrapper : String
  visit : Dynamic → FromJsonM M
  validate : M → Option StirApiError

def signingType : StirApiType SigningRequest where
  wrapper := "signingRequest"
  visit := SigningRequest.visit showDouble
  validate := SigningRequest.validate

def verificationType : StirApiType VerificationRequest where
  wrapper := "verificationRequest"
  visit := VerificationRequest.visit showDouble
  validate := VerificationRequest.validate

/-! ## 3. `fromJson` -/

/-- `StringPiece(param)`. -/
def stringPiece : Option String → Except Stop Text
  | some s => .ok (Dynamic.text s)
  | none => .error (.undefined .nullRead)

section FromJson

variable {M : Type} (T : StirApiType M) (parseJson : Text → Except Stop Dynamic)
  (what : Dynamic → Text)

/-- `unwrap(d)`. -/
def StirApiType.unwrap (d : Dynamic) : FromJsonM Dynamic := visiting T.wrapper (d.index T.wrapper)

/-- What stands in the `try` block, up to `validate`. -/
def StirApiType.decode (d : Dynamic) : FromJsonM M :=
  match d with
  | .string s => do
    let json ← ExceptT.mk (pure (parseJson s))
    let unwrapped ← T.unwrap json
    T.visit unwrapped
  | d => T.visit d

/-- `StirApiType<M>::fromJson(d)`; `what` is the text of the exception `d` leads to. -/
def StirApiType.fromJson (d : Dynamic) : Except Stop (Except StirApiError M) :=
  match (T.decode parseJson d).run.run none with
  | (.ok msg, _) =>
    match T.validate msg with
    | some err => .ok (.error err)
    | none => .ok (.ok msg)
  | (.error (.exn .parseError), _) =>
    .ok (.error (StirApiError.putVariable ⟨.failedToParseMsgBody, []⟩
      (Dynamic.text "invalid JSON body")))
  | (.error (.exn .outOfRange), param) => do
    let name ← stringPiece param
    return .error (StirApiError.putVariable ⟨.missingInformation, []⟩ name)
  | (.error (.exn .typeError), param) | (.error (.exn .conversionError), param) => do
    let name ← stringPiece param
    let err := StirApiError.putVariable ⟨.invalidParameterValue, []⟩ name
    return .error (err.putVariable (what d))
  | (.error e, _) => .error e

end FromJson

/-! ## 4. What a body should be answered with -/

/-- What can be wrong with a body. -/
inductive Problem
  /-- It is no JSON that the parser reads. -/
  | unparsable
  /-- A parameter, or its "tn", is not there. -/
  | missing (param : String)
  /-- The value of a parameter has a wrong type, cannot be converted, or is refused. -/
  | invalid (param : String)
deriving DecidableEq, Repr

/-- The error names the problem: its kind, and the parameter as its first variable. -/
def Problem.Reported (err : StirApiError) : Problem → Prop
  | .unparsable => err.code = .failedToParseMsgBody
  | .missing param =>
    err.code = .missingInformation ∧ err.varList.head? = some (Dynamic.text param)
  | .invalid param =>
    err.code = .invalidParameterValue ∧ err.varList.head? = some (Dynamic.text param)

/-- A value that has to be there, of an object. -/
def member (d : Dynamic) (name : String) : Except Problem Dynamic :=
  match d.getPtr name with
  | some v => .ok v
  | none => .error (.missing name)

/-- A value that has to be an object. -/
def object (name : String) (d : Dynamic) : Except Problem Dynamic :=
  if d.isObject then .ok d else .error (.invalid name)

/-- A value that has to be convertible. -/
def converted {α : Type} (name : String) : Except Stop α → Except Problem α
  | .ok a => .ok a
  | .error _ => .error (.invalid name)

/-- A parameter. -/
def parameter {α : Type} (d : Dynamic) (name : String) (convert : Dynamic → Except Stop α) :
    Except Problem α := do
  let v ← member d name
  converted name (convert v)

/-- A parameter with the value under "tn". -/
def parameterTN {α : Type} (d : Dynamic) (name : String) (convert : Dynamic → Except Stop α) :
    Except Problem α := do
  let v ← member d name
  let v ← object name v
  match v.getPtr "tn" with
  | some tn => converted name (convert tn)
  | none => .error (.missing name)

/-- What a type of message is to be: its parameters in order, and the tests its values have to
pass, in order, each with the parameter it is about. -/
structure MessageSpec (M : Type) where
  parameters : Dynamic → Except Problem M
  tests : M → List (String × Bool)

def signingSpec : MessageSpec SigningRequest where
  parameters d := do
    let attest ← parameter d "attest" (Dynamic.asString showDouble)
    let dest ← parameterTN d "dest" (Dynamic.convertTexts showDouble)
    let orig ← parameterTN d "orig" (Dynamic.asString showDouble)
    let origid ← parameter d "origid" (Dynamic.asString showDouble)
    let iat ← parameter d "iat" Dynamic.convertUint64
    return { attest, dest, iat, orig, origid }
  tests m := [
    ("attest", decide (m.attest = ['A'] ∨ m.attest = ['B'] ∨ m.attest = ['C'])),
    ("origid", uuidParse m.origid),
    ("dest", decide (m.dest ≠ [])),
    ("orig", validateTN m.orig),
    ("dest", m.dest.all validateTN)]

def verificationSpec : MessageSpec VerificationRequest where
  parameters d := do
    let identity ← parameter d "identity" (Dynamic.asString showDouble)
    let time ← parameter d "time" Dynamic.convertUint64
    let from_ ← parameterTN d "from" (Dynamic.asString showDouble)
    let to_ ← parameterTN d "to" (Dynamic.convertTexts showDouble)
    return { identity, to_, from_, time }
  tests m := [
    ("to", decide (m.to_ ≠ [])),
    ("from", validateTN m.from_),
    ("to", m.to_.all validateTN)]

section Expected

variable {M : Type}

/-- The object that holds the parameters. -/
def unwrapped (wrapper : String) (json : Dynamic) : Except Problem Dynamic := do
  let json ← object wrapper json
  let v ← member json wrapper
  object wrapper v

/-- The first test that fails. -/
def MessageSpec.tested (S : MessageSpec M) (m : M) : Except Problem M :=
  match (S.tests m).find? fun t => !t.2 with
  | some t => .error (.invalid t.1)
  | none => .ok m

/-- The message in a body, or the first problem. -/
def MessageSpec.expected (S : MessageSpec M) (wrapper : String)
    (parseJson : Text → Except Stop Dynamic) (body : Text) : Except Problem M :=
  match parseJson body with
  | .error _ => .error .unparsable
  | .ok json => do
    let v ← unwrapped wrapper json
    let m ← S.parameters v
    S.tested m

/-- `fromJson` returned the message, which `validate` accepts, or an error that names the
problem. -/
def StirApiType.Answers (T : StirApiType M) (r : Except Stop (Except StirApiError M)) :
    Except Problem M → Prop
  | .ok m => r = .ok (.ok m) ∧ T.validate m = none
  | .error p => ∃ err, r = .ok (.error err) ∧ p.Reported err

end Expected

/-! ## 5. The visitor, piece by piece -/

/-- A name that is found again among the variables of an error. -/
def Plain (name : String) : Prop := Dynamic.text name ≠ [] ∧ '\t' ∉ Dynamic.text name

instance (name : String) : Decidable (Plain name) := inferInstanceAs (Decidable (_ ∧ _))

/-- How a piece of the visitor ends, and with which `param`, when this is to be reported. -/
inductive Ends {α : Type} : Except Problem α → Except Stop α × Option String → Prop
  | ok (a : α) (param : Option String) : Ends (.ok a) (.ok a, param)
  | missing {name : String} (h : Plain name) :
      Ends (.error (.missing name)) (.error (.exn .outOfRange), some name)
  | invalid {name : String} (h : Plain name) {e : Stop} (he : Dynamic.Unconvertible e) :
      Ends (.error (.invalid name)) (.error e, some name)

/-- The piece of the visitor does what is expected, whatever `param` was before. -/
def Agrees {α : Type} (x : FromJsonM α) (y : Except Problem α) : Prop :=
  ∀ param, Ends y (x.run.run param)

section Agrees

variable {α β : Type}

theorem run_visiting (name : String) (read : Except Stop α) (param : Option String) :
    (visiting name read).run.run param = (read, some name) := by
  cases read <;> rfl

theorem run_bind (x : FromJsonM α) (f : α → FromJsonM β) (param : Option String) :
    (x >>= f).run.run param =
      match x.run.run param with
      | (.ok a, param') => (f a).run.run param'
      | (.error e, param') => (.error e, param') := by
  rw [ExceptT.run_bind, StateT.run_bind]
  rcases x.run.run param with ⟨r, param'⟩
  cases r <;> rfl

theorem agrees_pure (a : α) : Agrees (pure a) (pure a) := fun param => .ok a param

/-- The rule of sequential composition. -/
theorem agrees_bind {x : FromJsonM α} {y : Except Problem α} {f : α → FromJsonM β}
    {g : α → Except Problem β} (hx : Agrees x y) (hf : ∀ a, y = .ok a → Agrees (f a) (g a)) :
    Agrees (x >>= f) (y >>= g) := by
  intro param
  rw [run_bind]
  have hx := hx param
  generalize x.run.run param = out at hx
  cases hx with
  | ok a param' => exact hf a rfl param'
  | missing h => exact .missing h
  | invalid h he => exact .invalid h he

theorem ends_converted {name : String} (h : Plain name) {read : Except Stop α}
    (hread : ∀ e, read = .error e → Dynamic.Unconvertible e) :
    Ends (converted name read) (read, some name) := by
  cases hr : read with
  | ok a => exact .ok a _
  | error e => exact .invalid h (hread e hr)

theorem agrees_parameter {d : Dynamic} (hd : d.isObject = true) {name : String} (h : Plain name)
    {convert : Dynamic → Except Stop α}
    (hconvert : ∀ {v e}, convert v = .error e → Dynamic.Unconvertible e) :
    Agrees (visitMember d name convert) (parameter d name convert) := by
  intro param
  rw [visitMember, run_visiting, parameter, member, Dynamic.index, if_pos hd]
  cases d.getPtr name with
  | none => exact .missing h
  | some v => exact ends_converted h fun _ => hconvert

theorem agrees_parameterTN {d : Dynamic} (hd : d.isObject = true) {name : String} (h : Plain name)
    {convert : Dynamic → Except Stop α}
    (hconvert : ∀ {v e}, convert v = .error e → Dynamic.Unconvertible e) :
    Agrees (visitTN d name convert) (parameterTN d name convert) := by
  intro param
  rw [visitTN, run_visiting, parameterTN, member, Dynamic.index, if_pos hd]
  cases d.getPtr name with
  | none => exact .missing h
  | some v =>
    change Ends (object name v >>= _) ((v.index "tn" >>= convert), some name)
    rw [object, Dynamic.index]
    by_cases hv : v.isObject = true
    · rw [if_pos hv, if_pos hv]
      change Ends (match v.getPtr "tn" with | some tn => _ | none => _) _
      cases v.getPtr "tn" with
      | none => exact .missing h
      | some tn => exact ends_converted h fun _ => hconvert
    · rw [if_neg hv, if_neg hv]
      exact .invalid h (Or.inl rfl)

/-- In anything but an object the first parameter is already the problem. -/
theorem run_visitMember_not_object {d : Dynamic} (hd : d.isObject = false) (name : String)
    (convert : Dynamic → Except Stop α) (f : α → FromJsonM β) (param : Option String) :
    (visitMember d name convert >>= f).run.run param = (.error (.exn .typeError), some name) := by
  rw [run_bind, visitMember, run_visiting, Dynamic.index, if_neg (by simp [hd])]
  rfl

end Agrees

/-! ## 6. The two types of messages -/

/-- The code of a type of message, against what it is to be.  In anything but an object the visit
throws at its first parameter, which is not the wrapper. -/
structure Implements {M : Type} (T : StirApiType M) (S : MessageSpec M) : Prop where
  wrapper : Plain T.wrapper
  visit : ∀ d, d.isObject = true → Agrees (T.visit d) (S.parameters d)
  first : ∃ name, Plain name ∧ name ≠ T.wrapper ∧ ∀ d param, d.isObject = false →
    (T.visit d).run.run param = (.error (.exn .typeError), some name)
  tests : ∀ m, (S.tested m = .ok m ∧ T.validate m = none) ∨
    ∃ name reason, Plain name ∧ S.tested m = .error (.invalid name) ∧
      T.validate m = some (invalidValue name reason)

theorem signing_implements : Implements (signingType showDouble) (signingSpec showDouble) where
  wrapper := show Plain "signingRequest" by decide
  visit d hd := by
    refine agrees_bind (agrees_parameter hd (by decide) Dynamic.asString_error)
      fun attest _ => ?_
    refine agrees_bind (agrees_parameterTN hd (by decide) Dynamic.convertTexts_error)
      fun dest _ => ?_
    refine agrees_bind (agrees_parameterTN hd (by decide) Dynamic.asString_error)
      fun orig _ => ?_
    refine agrees_bind (agrees_parameter hd (by decide) Dynamic.asString_error)
      fun origid _ => ?_
    refine agrees_bind (agrees_parameter hd (by decide) Dynamic.convertUint64_error)
      fun iat _ => ?_
    exact agrees_pure _
  first := ⟨"attest", by decide, show "attest" ≠ "signingRequest" by decide,
    fun _ param hd => run_visitMember_not_object hd _ _ _ param⟩
  tests m := by
    simp only [MessageSpec.tested, signingSpec, signingType, SigningRequest.validate]
    by_cases h1 : m.attest = ['A'] ∨ m.attest = ['B'] ∨ m.attest = ['C']
    · rw [if_neg (by tauto), decide_eq_true h1]
      split_ifs with h2 h3 h4 h5
      · exact Or.inr ⟨"origid", _, by decide, by simp [h2], rfl⟩
      · exact Or.inr ⟨"dest", _, by decide, by simp [h2, h3], rfl⟩
      · exact Or.inr ⟨"orig", _, by decide, by simp [h2, h3, h4], rfl⟩
      · exact Or.inr ⟨"dest", _, by decide, by simp [h2, h3, h4, h5], rfl⟩
      · exact Or.inl ⟨by simp [h2, h3, h4, h5], rfl⟩
    · rw [if_pos (by tauto), decide_eq_false h1]
      exact Or.inr ⟨"attest", _, by decide, rfl, rfl⟩

theorem verification_implements :
    Implements (verificationType showDouble) (verificationSpec showDouble) where
  wrapper := show Plain "verificationRequest" by decide
  visit d hd := by
    refine agrees_bind (agrees_parameter hd (by decide) Dynamic.asString_error)
      fun identity _ => ?_
    refine agrees_bind (agrees_parameter hd (by decide) Dynamic.convertUint64_error)
      fun time _ => ?_
    refine agrees_bind (agrees_parameterTN hd (by decide) Dynamic.asString_error)
      fun from_ _ => ?_
    refine agrees_bind (agrees_parameterTN hd (by decide) Dynamic.convertTexts_error)
      fun to_ _ => ?_
    exact agrees_pure _
  first := ⟨"identity", by decide, show "identity" ≠ "verificationRequest" by decide,
    fun _ param hd => run_visitMember_not_object hd _ _ _ param⟩
  tests m := by
    simp only [MessageSpec.tested, verificationSpec, verificationType,
      VerificationRequest.validate]
    split_ifs with h1 h2 h3
    · exact Or.inr ⟨"to", _, by decide, by simp [h1], rfl⟩
    · exact Or.inr ⟨"from", _, by decide, by simp [h1, h2], rfl⟩
    · exact Or.inr ⟨"to", _, by decide, by simp [h1, h2, h3], rfl⟩
    · exact Or.inl ⟨by simp [h1, h2, h3], rfl⟩

/-! ## 7. The error of a body -/

section Answers

variable {M : Type} {T : StirApiType M} {S : MessageSpec M}
  {parseJson : Text → Except Stop Dynamic} {what : Dynamic → Text}

/-- The `catch` clauses report how the visit ended. -/
theorem Implements.answers_of_ends (h : Implements T S) {d : Dynamic} {y : Except Problem M}
    (hends : Ends y ((T.decode parseJson d).run.run none)) :
    T.Answers (T.fromJson parseJson what d) (y >>= S.tested) := by
  unfold StirApiType.fromJson
  generalize (T.decode parseJson d).run.run none = out at hends
  cases hends with
  | ok m param =>
    change T.Answers _ (S.tested m)
    rcases h.tests m with ⟨htested, hvalid⟩ | ⟨name, reason, hname, htested, hvalid⟩
    · rw [htested]
      simp only [hvalid]
      exact ⟨rfl, hvalid⟩
    · rw [htested]
      simp only [hvalid]
      exact ⟨_, rfl, rfl, StirApiError.head?_varList _ hname.1 hname.2 [Dynamic.text reason]⟩
  | missing hname =>
    exact ⟨_, rfl, rfl, StirApiError.head?_varList _ hname.1 hname.2 []⟩
  | invalid hname he =>
    rcases he with rfl | rfl
    · exact ⟨_, rfl, rfl, StirApiError.head?_varList _ hname.1 hname.2 [what d]⟩
    · exact ⟨_, rfl, rfl, StirApiError.head?_varList _ hname.1 hname.2 [what d]⟩

/-- The wrapper is found, or blamed, as it should be, unless its value is no object. -/
theorem Implements.agrees_unwrap (h : Implements T S) {json : Dynamic}
    (hobj : ∀ v, json.getPtr T.wrapper = some v → v.isObject = true) :
    Agrees (T.unwrap json) (unwrapped T.wrapper json) := by
  intro param
  rw [StirApiType.unwrap, run_visiting, unwrapped, object, Dynamic.index]
  by_cases hjson : json.isObject = true
  · rw [if_pos hjson, if_pos hjson]
    change Ends (member json T.wrapper >>= _) _
    rw [member]
    cases hv : json.getPtr T.wrapper with
    | none => exact .missing h.wrapper
    | some v =>
      change Ends (object T.wrapper v) _
      rw [object, if_pos (hobj v hv)]
      exact .ok v _
  · rw [if_neg hjson, if_neg hjson]
    exact .invalid h.wrapper (Or.inl rfl)

theorem unwrapped_isObject {wrapper : String} {json v : Dynamic}
    (h : unwrapped wrapper json = .ok v) : v.isObject = true := by
  obtain ⟨_, -, h⟩ := bind_eq_ok.mp h
  obtain ⟨v', -, h⟩ := bind_eq_ok.mp h
  rw [object] at h
  split at h
  · cases h
    assumption
  · cases h

/-- A wrapper whose value is no object: the first parameter is blamed. -/
theorem Implements.fromJson_not_object (h : Implements T S) {body : Text} {json v : Dynamic}
    (hjson : parseJson body = .ok json) (hv : json.getPtr T.wrapper = some v)
    (hobj : v.isObject = false) :
    ∃ err name, T.fromJson parseJson what (.string body) = .ok (.error err) ∧
      Problem.Reported err (.invalid name) ∧ name ≠ T.wrapper := by
  obtain ⟨name, hname, hne, hrun⟩ := h.first
  refine ⟨_, name, ?_, ⟨rfl, StirApiError.head?_varList _ hname.1 hname.2 [what (.string body)]⟩,
    hne⟩
  have hdecode : (T.decode parseJson (.string body)).run.run none =
      (.error (.exn .typeError), some name) := by
    rw [StirApiType.decode, hjson]
    change (T.unwrap json >>= T.visit).run.run none = _
    rw [run_bind, StirApiType.unwrap, run_visiting, Dynamic.index_eq_ok_iff.mpr hv]
    exact hrun v _ hobj
  rw [StirApiType.fromJson, hdecode]
  rfl

/-- A body the parser throws at: only `parse_error` is made an error of.  For the other exceptions
there is no name to report, as `param` is still null. -/
theorem StirApiType.fromJson_error_returns_iff {body : Text} {e : Stop}
    (hjson : parseJson body = .error e) :
    (∃ r, T.fromJson parseJson what (.string body) = .ok r) ↔ e = .exn .parseError := by
  have hdecode : (T.decode parseJson (.string body)).run.run none = (.error e, none) := by
    rw [StirApiType.decode, hjson]
    rfl
  rw [StirApiType.fromJson, hdecode]
  constructor
  · rintro ⟨r, hr⟩
    split at hr
    · rename_i hout
      cases hout
    · rename_i hout
      cases hout
      rfl
    · rename_i hout
      cases hout
      cases hr
    · rename_i hout
      cases hout
      cases hr
    · rename_i hout
      cases hout
      cases hr
    · cases hr
  · rintro rfl
    exact ⟨_, rfl⟩

theorem StirApiType.answers_error_iff {body : Text} {e : Stop}
    (hjson : parseJson body = .error e) :
    T.Answers (T.fromJson parseJson what (.string body)) (S.expected T.wrapper parseJson body) ↔
      e = .exn .parseError := by
  have hexpected : S.expected T.wrapper parseJson body = .error .unparsable := by
    rw [MessageSpec.expected, hjson]
  rw [hexpected]
  constructor
  · rintro ⟨err, hr, -⟩
    exact (T.fromJson_error_returns_iff hjson).mp ⟨_, hr⟩
  · rintro rfl
    rw [StirApiType.fromJson, StirApiType.decode, hjson]
    exact ⟨_, rfl, rfl⟩

/-- A body the parser reads is answered as it should be unless the wrapper holds no object. -/
theorem Implements.answers_ok_iff (h : Implements T S) {body : Text} {json : Dynamic}
    (hjson : parseJson body = .ok json) :
    T.Answers (T.fromJson parseJson what (.string body)) (S.expected T.wrapper parseJson body) ↔
      ∀ v, json.getPtr T.wrapper = some v → v.isObject = true := by
  have hexpected : S.expected T.wrapper parseJson body =
      (unwrapped T.wrapper json >>= S.parameters) >>= S.tested := by
    rw [MessageSpec.expected, hjson]
    simp only [bind_assoc]
  rw [hexpected]
  constructor
  · intro hanswer v hv
    by_contra hobj
    have hobj := Bool.not_eq_true _ ▸ hobj
    obtain ⟨err, name, hr, hreported, hne⟩ :=
      @Implements.fromJson_not_object M T S parseJson what h body _ v hjson hv hobj
    have hinvalid : unwrapped T.wrapper json = .error (.invalid T.wrapper) := by
      rw [unwrapped, object, if_pos (Dynamic.isObject_of_getPtr hv)]
      change (member json T.wrapper >>= _) = _
      rw [member, hv]
      change object T.wrapper v = _
      rw [object, if_neg (by simp [hobj])]
    rw [hinvalid, hr] at hanswer
    obtain ⟨err', hr', -, hnamed⟩ := hanswer
    cases hr'
    rw [hreported.2] at hnamed
    exact hne (String.toList_injective (Option.some.inj hnamed))
  · intro hobj
    refine h.answers_of_ends ?_
    have hdecode : (T.decode parseJson (.string body)).run.run none =
        (T.unwrap json >>= T.visit).run.run none := by
      rw [StirApiType.decode, hjson]
      rfl
    rw [hdecode]
    exact agrees_bind (h.agrees_unwrap hobj) (fun v hv => h.visit v (unwrapped_isObject hv)) none

/-- **When `fromJson` returns at all**, a message or an error. -/
theorem Implements.fromJson_returns_iff (h : Implements T S) (body : Text) :
    (∃ r, T.fromJson parseJson what (.string body) = .ok r) ↔
      ∀ e, parseJson body = .error e → e = .exn .parseError := by
  cases hjson : parseJson body with
  | error e =>
    rw [StirApiType.fromJson_error_returns_iff hjson]
    constructor
    · intro he _ heq
      exact Except.error.inj heq ▸ he
    · intro hall
      exact hall e rfl
  | ok json =>
    refine ⟨fun _ => nofun, ?_⟩
    intro _
    by_cases hobj : ∀ v, json.getPtr T.wrapper = some v → v.isObject = true
    · have hanswer := (@Implements.answers_ok_iff M T S parseJson what h body json hjson).mpr hobj
      cases hexpected : S.expected T.wrapper parseJson body with
      | ok m =>
        rw [hexpected] at hanswer
        exact ⟨_, hanswer.1⟩
      | error p =>
        rw [hexpected] at hanswer
        obtain ⟨err, hr, -⟩ := hanswer
        exact ⟨_, hr⟩
    · simp only [not_forall, Bool.not_eq_true] at hobj
      obtain ⟨v, hv, hnot⟩ := hobj
      obtain ⟨err, name, hr, -⟩ :=
        @Implements.fromJson_not_object M T S parseJson what h body json v hjson hv hnot
      exact ⟨_, hr⟩

/-- **When the answer is the expected one.** -/
theorem Implements.answers_iff (h : Implements T S) (body : Text) :
    T.Answers (T.fromJson parseJson what (.string body)) (S.expected T.wrapper parseJson body) ↔
      (∀ e, parseJson body = .error e → e = .exn .parseError) ∧
        ∀ json v, parseJson body = .ok json → json.getPtr T.wrapper = some v →
          v.isObject = true := by
  cases hjson : parseJson body with
  | error e =>
    rw [StirApiType.answers_error_iff hjson]
    constructor
    · intro he
      exact ⟨fun _ h => Except.error.inj h ▸ he, nofun⟩
    · intro hcond
      exact hcond.1 e rfl
  | ok json =>
    rw [h.answers_ok_iff hjson]
    constructor
    · intro hobj
      refine ⟨nofun, ?_⟩
      intro json' v heq hv
      cases heq
      exact hobj v hv
    · intro hcond v hv
      exact hcond.2 json v rfl hv

end Answers

/-- **The error of a body, for both types of messages.**  `fromJson` returns the converted message,
accepted by `validate`, or the error of the first problem, exactly when the parser throws nothing
but `parse_error` and the value of the wrapper, if there is one, is an object. -/
theorem fromJson_answers_iff (showDouble : Option ℚ → Text) (parseJson : Text → Except Stop Dynamic)
    (what : Dynamic → Text) (body : Text) :
    ((signingType showDouble).Answers
        ((signingType showDouble).fromJson parseJson what (.string body))
        ((signingSpec showDouble).expected "signingRequest" parseJson body) ↔
      (∀ e, parseJson body = .error e → e = .exn .parseError) ∧
        ∀ json v, parseJson body = .ok json → json.getPtr "signingRequest" = some v →
          v.isObject = true) ∧
    ((verificationType showDouble).Answers
        ((verificationType showDouble).fromJson parseJson what (.string body))
        ((verificationSpec showDouble).expected "verificationRequest" parseJson body) ↔
      (∀ e, parseJson body = .error e → e = .exn .parseError) ∧
        ∀ json v, parseJson body = .ok json → json.getPtr "verificationRequest" = some v →
          v.isObject = true) :=
  ⟨(signing_implements showDouble).answers_iff body,
    (verification_implements showDouble).answers_iff body⟩

/-- A signing request with an integer of twenty digits. -/
def longInteger : Text :=
  Dynamic.text "\x7b\"signingRequest\":\x7b\"iat\":99999999999999999999\x7d\x7d"

/-- A signing request that is a number. -/
def numberWrapper : Text := Dynamic.text "\x7b\"signingRequest\":5\x7d"

/-- What the parser makes of the two: it throws `ConversionError` at the integer. -/
def sampleParse (t : Text) : Except Stop Dynamic :=
  if t = longInteger then .error (.exn .conversionError)
  else if t = numberWrapper then .ok (.object [(Dynamic.text "signingRequest", .int 5)])
  else .error (.exn .parseError)

/-- **The integer of twenty digits**: the body is not parsed, and what is reported reads a name
that was never stored. -/
theorem fromJson_long_integer :
    (signingSpec fun _ => []).expected "signingRequest" sampleParse longInteger =
        .error .unparsable ∧
      (signingType fun _ => []).fromJson sampleParse (fun _ => []) (.string longInteger) =
        .error (.undefined .nullRead) ∧
      ¬ (signingType fun _ => []).Answers
        ((signingType fun _ => []).fromJson sampleParse (fun _ => []) (.string longInteger))
        ((signingSpec fun _ => []).expected "signingRequest" sampleParse longInteger) := by
  refine ⟨rfl, rfl, ?_⟩
  rintro ⟨err, hr, -⟩
  cases hr

/-- The number in place of the object: the first parameter inside is blamed for it. -/
theorem fromJson_number_wrapper :
    (signingSpec fun _ => []).expected "signingRequest" sampleParse numberWrapper =
        .error (.invalid "signingRequest") ∧
      ∃ err, (signingType fun _ => []).fromJson sampleParse (fun _ => [])
          (.string numberWrapper) = .ok (.error err) ∧
        Problem.Reported err (.invalid "attest") :=
  ⟨rfl, _, rfl, rfl, rfl⟩

end Stir

end CallFwd
