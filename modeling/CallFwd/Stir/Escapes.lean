/-
# What escapes from `verifyPassport`

`verifyPassport` catches `invalid_argument` from the URI and `parse_error` from the JSON parser, and
nothing else; the handler above it is `noexcept`.  Whatever else is thrown ends the process.

Each stage has one lemma that says exactly when it throws.  The checks of the header never do: a
member of an object can always be read, and is null where there is none.  The checks of the payload
look at the shape of the outer level only, so an `orig` or a `dest` that is no object throws; one
without a "tn" is answered, since null is not the number asked for.  `verifyPassport_returns_iff`
puts the stages together: a response comes back unless one of five things is reached.
-/
import CallFwd.Stir.RoundTrip
import CallFwd.Stir.FromJson

namespace CallFwd

namespace Stir

open Lib

/-! ## 1. When a stage throws -/

/-- The stage throws. -/
def Throws {α : Type} (x : Except Exit α) : Prop := ∃ e, x = .error (.throws e)

section Throws

variable {α β : Type}

/-- A stage that goes on has not thrown. -/
theorem not_throws_ok (a : α) : ¬ Throws (.ok a) := by
  rintro ⟨e, h⟩
  cases h

/-- A check returns, it does not throw. -/
theorem not_throws_rejectIf {bad : Bool} {r : VerificationResponse} :
    ¬ Throws (rejectIf bad r) := by
  rintro ⟨e, h⟩
  cases bad <;> cases h

/-- Nothing is caught here. -/
theorem throws_throwing_iff {x : Except Stop α} : Throws (throwing x) ↔ ∃ e, x = .error e := by
  cases x <;> simp [Throws, throwing]

/-- The rule of sequential composition. -/
theorem throws_bind_iff {x : Except Exit α} {f : α → Except Exit β} :
    Throws (x >>= f) ↔ Throws x ∨ ∃ a, x = .ok a ∧ Throws (f a) := by
  constructor
  · rintro ⟨e, h⟩
    rcases bind_eq_error.mp h with h | ⟨a, ha, h⟩
    · exact Or.inl ⟨e, h⟩
    · exact Or.inr ⟨a, ha, e, h⟩
  · rintro (⟨e, h⟩ | ⟨a, ha, e, h⟩)
    · exact ⟨e, bind_eq_error.mpr (Or.inl h)⟩
    · exact ⟨e, bind_eq_error.mpr (Or.inr ⟨a, ha, h⟩)⟩

end Throws

/-! ## 2. The stages -/

section Stages

variable {lib : Library}

/-- The URI's `invalid_argument` is the only exception the stage catches. -/
theorem checkUri_throws_iff {info : Text} :
    Throws (checkUri lib info) ↔ ∃ e, lib.uri info = .error e ∧ e ≠ .exn .invalidArgument := by
  unfold checkUri
  split
  · rename_i h
    simp [h, Throws]
  · rename_i h
    rw [throws_throwing_iff]
    constructor
    · rintro ⟨e, he⟩
      exact ⟨e, he, fun heq => h (heq ▸ he)⟩
    · rintro ⟨e, he, -⟩
      exact ⟨e, he⟩

/-- The parser's `parse_error` is the only exception the stage catches. -/
theorem decode_throws_iff {text : Text} {desc : String} :
    Throws (decode lib text desc) ↔
      ∃ e, lib.parseJson text = .error e ∧ e ≠ .exn .parseError := by
  unfold decode
  split
  · rename_i h
    simp [h, Throws]
  · rename_i h
    rw [throws_throwing_iff]
    constructor
    · rintro ⟨e, he⟩
      exact ⟨e, he, fun heq => h (heq ▸ he)⟩
    · rintro ⟨e, he, -⟩
      exact ⟨e, he⟩

/-- The run over the parameters compares texts only. -/
theorem not_throws_checkPpt (identity : Text) : ¬ Throws (checkPpt identity) := by
  induction hn : identity.length using Nat.strong_induction_on generalizing identity with
  | _ n ih =>
    rw [checkPpt]
    split
    · exact not_throws_ok ()
    · rename_i hne
      simp only
      split
      · rintro ⟨e, h⟩
        cases h
      · refine ih _ ?_ _ rfl
        rw [← hn]
        exact Nat.lt_of_le_of_lt (length_splitStep_le _ _) (length_splitStep_lt hne)

/-- The header is an object by the time it is read. -/
theorem not_throws_checkHeader (header : Dynamic) (info : Text) :
    ¬ Throws (checkHeader header info) := by
  unfold checkHeader
  simp only [throws_bind_iff, not_throws_rejectIf, false_or, or_false, throws_throwing_iff,
    Dynamic.indexOrInsert_throws_iff, rejectIf_eq_ok_iff, Bool.not_eq_false', and_false,
    exists_false]
  rintro ⟨-, hobj, -, -, -, -, -, -, -, -, h⟩
  rcases h with h | ⟨-, -, -, -, h | ⟨-, -, -, -, h | ⟨-, -, -, -, h⟩⟩⟩
  all_goals
    rw [hobj] at h
    cases h

end Stages

/-! ## 3. The payload -/

/-- What the payload has to say before its telephone numbers are read. -/
structure OuterClaims (validIatPeriod : UInt32) (request : VerificationRequest)
    (payload orig dest : Dynamic) : Prop where
  dest : payload.getPtr "dest" = some dest
  orig : payload.getPtr "orig" = some orig
  attest : ∃ attest, payload.getPtr "attest" = some (.string attest) ∧
    (attest = ['A'] ∨ attest = ['B'] ∨ attest = ['C'])
  origid : ∃ origid, payload.getPtr "origid" = some origid
  iat : ∃ n : Int64, payload.getPtr "iat" = some (.int n) ∧ 0 ≤ n.toInt ∧
    Close validIatPeriod n.toInt request.time.toNat

/-- The payload passes all checks up to a telephone number that cannot be looked for: `orig` is no
object, or the number of `orig` is right and `dest` is none. -/
def PayloadEscapes (validIatPeriod : UInt32) (request : VerificationRequest)
    (payload : Dynamic) : Prop :=
  ∃ orig dest, OuterClaims validIatPeriod request payload orig dest ∧
    (orig.isObject = false ∨
      (orig.getPtr "tn" = some (.string request.from_) ∧ dest.isObject = false))

/-- **When the payload throws**: nothing is caught at this stage, and the only reads of something
that may be no object are those of the two numbers. -/
theorem checkPayload_throws_iff {validIatPeriod : UInt32} {request : VerificationRequest}
    {payload : Dynamic} :
    Throws (checkPayload validIatPeriod request payload) ↔
      PayloadEscapes validIatPeriod request payload := by
  unfold checkPayload
  simp only [throws_bind_iff, not_throws_rejectIf, false_or, or_false, throws_throwing_iff,
    throwing_eq_ok_iff, Dynamic.indexOrInsert_throws_iff, rejectIf_eq_ok_iff,
    Option.isNone_eq_false_iff, Option.isSome_iff_exists, Bool.not_eq_false', Dynamic.eqText_iff,
    drift_close_iff, Bool.and_eq_false_iff, and_false, exists_false]
  have hread : ∀ {d v : Dynamic} {key}, v ≠ .null →
      (d.indexOrInsert key = .ok v ↔ d.getPtr key = some v) := Dynamic.indexOrInsert_eq_ok_iff
  constructor
  · rintro ⟨-, hobj, -, ⟨dest, hdest⟩, -, ⟨orig, horig⟩, -, -, -, horigid, -, -, h⟩
    rw [hobj] at h
    -- the payload is an object, so its own members are read
    simp only [Bool.true_eq_false, false_or] at h
    obtain ⟨iat, hiat, -, ⟨n, hn⟩, -, hclose, attest, hattest, -, hvalue, orig', horig', h⟩ := h
    cases horig'.symm.trans (Dynamic.indexOrInsert_of_getPtr horig)
    rw [hn, Option.getD_some] at hclose
    obtain ⟨i, rfl, hpos, hi⟩ := natural_eq_some hn
    have houter : OuterClaims validIatPeriod request payload orig dest := by
      obtain ⟨value, rfl, hthree⟩ := attest_value_iff.mp hvalue
      exact ⟨hdest, horig, ⟨value, (hread (by simp)).mp hattest, hthree⟩, horigid, i,
        (hread (by simp)).mp hiat, hpos, hi ▸ hclose⟩
    refine ⟨orig, dest, houter, ?_⟩
    rcases h with h | ⟨tn, htn, -, rfl, dest', hdest', h⟩
    · exact Or.inl h
    · cases hdest'.symm.trans (Dynamic.indexOrInsert_of_getPtr hdest)
      exact Or.inr ⟨(hread (by simp)).mp htn, h⟩
  · rintro ⟨orig, dest, houter, h⟩
    obtain ⟨n, hiat, hpos, hclose⟩ := houter.iat
    obtain ⟨attest, hattest, hvalue⟩ := houter.attest
    obtain ⟨hn, hi⟩ := natural_int hpos
    refine ⟨(), Dynamic.isObject_of_getPtr hiat, (), ⟨_, houter.dest⟩, (), ⟨_, houter.orig⟩, (),
      ⟨_, hattest⟩, (), houter.origid, (), ⟨_, hiat⟩, Or.inr ⟨_,
      Dynamic.indexOrInsert_of_getPtr hiat, (), ⟨_, hn⟩, (), ?_, Or.inr ⟨_,
      Dynamic.indexOrInsert_of_getPtr hattest, (), attest_value_iff.mpr ⟨attest, rfl, hvalue⟩,
      Or.inr ⟨_, Dynamic.indexOrInsert_of_getPtr houter.orig, ?_⟩⟩⟩⟩
    · rw [hn, Option.getD_some, hi]
      exact hclose
    · rcases h with h | ⟨htn, h⟩
      · exact Or.inl h
      · exact Or.inr ⟨_, Dynamic.indexOrInsert_of_getPtr htn, (), rfl, Or.inr ⟨_,
          Dynamic.indexOrInsert_of_getPtr houter.dest, h⟩⟩

/-- An `orig` that is an object without a "tn" is answered like one with another number. -/
theorem checkPayload_of_no_tn {validIatPeriod : UInt32} {request : VerificationRequest}
    {payload orig : Dynamic} (horig : payload.getPtr "orig" = some orig)
    (hobj : orig.isObject = true) (hnone : orig.getPtr "tn" = none) :
    ∃ r, checkPayload validIatPeriod request payload = .error (.returns r) := by
  cases hrun : checkPayload validIatPeriod request payload with
  | ok u =>
    obtain ⟨orig', horig', htn⟩ := (checkPayload_eq_ok_iff.mp hrun).orig
    cases horig.symm.trans horig'
    rw [hnone] at htn
    cases htn
  | error stop =>
    cases stop with
    | returns r => exact ⟨r, rfl⟩
    | throws e =>
      obtain ⟨orig', dest, houter, h⟩ := checkPayload_throws_iff.mp ⟨e, hrun⟩
      cases horig.symm.trans houter.orig
      rcases h with h | ⟨htn, -⟩
      · rw [hobj] at h
        cases h
      · rw [hnone] at htn
        cases htn

/-! ## 4. What escapes -/

section Escapes

variable (lib : Library) (validIatPeriod : UInt32) (now : UInt64) (request : VerificationRequest)

/-- The request gets as far as one of the five places that throw what nobody catches: the URI, the
two texts that are parsed, and the two telephone numbers. -/
def Escapes : Prop :=
  Close validIatPeriod request.time.toNat now.toNat ∧
  ¬ ((splitIdentity request.identity).header = [] ∧
    (splitIdentity request.identity).payload = []) ∧
  ∃ info rest, identityInfo (splitIdentity request.identity).rest = (info, rest) ∧ info ≠ [] ∧
    ((∃ e, lib.uri info = .error e ∧ e ≠ .exn .invalidArgument) ∨
      lib.uri info = .ok () ∧ checkPpt rest = .ok () ∧
        ((∃ e, lib.parseJson (textsOf lib request.identity).1 = .error e ∧ e ≠ .exn .parseError) ∨
          ∃ header, lib.parseJson (textsOf lib request.identity).1 = .ok header ∧
            HeaderClaims header info ∧
            ((∃ e, lib.parseJson (textsOf lib request.identity).2.1 = .error e ∧
                e ≠ .exn .parseError) ∨
              ∃ payload, lib.parseJson (textsOf lib request.identity).2.1 = .ok payload ∧
                PayloadEscapes validIatPeriod request payload)))

variable {lib validIatPeriod now request}

/-- **When the checks throw**: each of the five places is reached if the stages before it go on. -/
theorem checkClaims_throws_iff :
    Throws (checkClaims lib validIatPeriod now request) ↔
      Escapes lib validIatPeriod now request := by
  rcases hsplit : identityInfo (splitIdentity request.identity).rest with ⟨info, rest⟩
  unfold checkClaims Escapes
  have hend : ∀ texts : Text × Text × Text, ¬ Throws (pure texts) := not_throws_ok
  simp only [hsplit, throws_bind_iff, not_throws_rejectIf, false_or, or_false, rejectIf_eq_ok_iff,
    drift_close_iff, checkUri_throws_iff, checkUri_eq_ok_iff, not_throws_checkPpt,
    decode_throws_iff, decode_eq_ok_iff, not_throws_checkHeader, checkHeader_eq_ok_iff,
    checkPayload_throws_iff, hend, and_false, exists_false]
  constructor
  · rintro ⟨-, hclose, -, hform, -, hinfo, h⟩
    refine ⟨hclose, ?_, info, rest, rfl, ?_, ?_⟩
    · simpa [Bool.and_eq_false_iff] using hform
    · simpa using hinfo
    · rcases h with h | ⟨-, huri, u, hppt, h | ⟨header, hheader, -, hclaims, h⟩⟩
      · exact Or.inl h
      · exact Or.inr ⟨huri, hppt, Or.inl h⟩
      · exact Or.inr ⟨huri, hppt, Or.inr ⟨header, hheader, hclaims, h⟩⟩
  · rintro ⟨hclose, hform, info', rest', heq, hinfo, h⟩
    cases heq
    refine ⟨(), hclose, (), ?_, (), ?_, ?_⟩
    · simpa [Bool.and_eq_false_iff] using hform
    · simpa using hinfo
    · rcases h with h | ⟨huri, hppt, h | ⟨header, hheader, hclaims, h⟩⟩
      · exact Or.inl h
      · exact Or.inr ⟨(), huri, (), hppt, Or.inl h⟩
      · exact Or.inr ⟨(), huri, (), hppt, Or.inr ⟨header, hheader, (), hclaims, h⟩⟩

end Escapes

/-- Behind the checks nothing throws: the signature is compared and a response comes back. -/
theorem verifyPassport_eq_ok_iff {lib : Library} {validIatPeriod : UInt32} {now : UInt64}
    {request : VerificationRequest} :
    (∃ r, verifyPassport lib validIatPeriod now request = .ok r) ↔
      ¬ Throws (checkClaims lib validIatPeriod now request) := by
  unfold verifyPassport
  cases checkClaims lib validIatPeriod now request with
  | error stop => cases stop <;> simp [Throws]
  | ok texts =>
    obtain ⟨header, payload, sig⟩ := texts
    simp only [Throws, reduceCtorEq, exists_false, not_false_eq_true, iff_true]
    split
    · exact ⟨_, rfl⟩
    · exact ⟨_, rfl⟩

/-- **When a response comes back.**  For every request, every JSON behind its portions and every
URI, `verifyPassport` returns unless the request gets as far as one of the five places. -/
theorem verifyPassport_returns_iff (lib : Library) (validIatPeriod : UInt32) (now : UInt64)
    (request : VerificationRequest) :
    (∃ r, verifyPassport lib validIatPeriod now request = .ok r) ↔
      ¬ Escapes lib validIatPeriod now request := by
  rw [verifyPassport_eq_ok_iff, checkClaims_throws_iff]

/-! ## 5. A payload whose `orig` is a number -/

/-- A payload with the number 5 for its `orig`. -/
def origNumber : Text :=
  Dynamic.text "\x7b\"attest\":\"A\",\"dest\":\x7b\"tn\":[\"2\"]\x7d,\"iat\":1614060370," ++
    Dynamic.text "\"orig\":5,\"origid\":\"1\"\x7d"

theorem bytes_origNumber : Base64.Bytes origNumber := Base64.bytes_of_all (by decide)

/-- What the parser makes of it. -/
def origNumberPayload : Dynamic := .object [
  (Dynamic.text "attest", .string ['A']),
  (Dynamic.text "dest", .object [(Dynamic.text "tn", .array [.string ['2']])]),
  (Dynamic.text "iat", .int 1614060370),
  (Dynamic.text "orig", .int 5),
  (Dynamic.text "origid", .string ['1'])]

/-- The sample library, told what this payload is. -/
def origNumberLibrary : Library :=
  { sampleLibrary with
    parseJson := fun t =>
      if t = origNumber then .ok origNumberPayload else sampleLibrary.parseJson t }

/-- A request about a passport with this payload and no signature to speak of. -/
def origNumberRequest : VerificationRequest where
  identity := signingString sampleLibrary headerText origNumber ++
    '.' :: sampleLibrary.urlEncode [] ++ ';' :: (Dynamic.text "info=<" ++ x5u ++ ['>'])
  to_ := [['2']]
  from_ := ['1']
  time := 1614060370

/-- The identity of the request splits into what it was put together from. -/
theorem origNumberRequest_splits :
    splitIdentity origNumberRequest.identity =
      ⟨sampleLibrary.urlEncode headerText, sampleLibrary.urlEncode origNumber,
        sampleLibrary.urlEncode [], Dynamic.text "info=<" ++ x5u ++ ['>']⟩ :=
  splitIdentity_passport lawful_sampleLibrary headerText origNumber [] _

theorem textsOf_origNumberRequest :
    textsOf origNumberLibrary origNumberRequest.identity = (headerText, origNumber, []) := by
  have hdecode : ∀ t, Base64.Bytes t →
      origNumberLibrary.urlDecode (sampleLibrary.urlEncode t) = t :=
    lawful_sampleLibrary.urlDecode_urlEncode
  rw [textsOf, origNumberRequest_splits]
  simp only [hdecode _ bytes_headerText, hdecode _ bytes_origNumber,
    hdecode [] (by simp [Base64.Bytes])]

theorem parseJson_origNumber : origNumberLibrary.parseJson origNumber = .ok origNumberPayload := by
  simp only [origNumberLibrary, if_pos]

theorem parseJson_headerText :
    ∃ header, origNumberLibrary.parseJson headerText = .ok header ∧ HeaderClaims header x5u := by
  have hne : headerText ≠ origNumber := by decide
  have hsame : origNumberLibrary.parseJson headerText = sampleLibrary.parseJson headerText := by
    simp only [origNumberLibrary, if_neg hne]
  rw [hsame, lawful_sampleLibrary.parseJson_eq, parse_headerText]
  exact headerClaims_headerJson

theorem urlEncode_headerText_ne_nil : sampleLibrary.urlEncode headerText ≠ [] := by
  intro hnil
  have hdecode := lawful_sampleLibrary.urlDecode_urlEncode _ bytes_headerText
  rw [hnil] at hdecode
  exact absurd hdecode (show ([] : Text) ≠ headerText by decide)

/-- The request gets as far as the number of `orig`. -/
theorem escapes_origNumber : Escapes origNumberLibrary 60 1614060380 origNumberRequest := by
  obtain ⟨header, hparse, hclaims⟩ := parseJson_headerText
  have houter : OuterClaims 60 origNumberRequest origNumberPayload (.int 5)
      (.object [(Dynamic.text "tn", .array [.string ['2']])]) :=
    ⟨rfl, rfl, ⟨['A'], rfl, Or.inl rfl⟩, ⟨_, rfl⟩, 1614060370, rfl, by decide,
      by simp [Close, origNumberRequest]⟩
  refine ⟨by simp [Close, origNumberRequest], ?_, x5u, [], ?_, by decide, Or.inr ⟨?_, checkPpt_nil,
    Or.inr ⟨header, ?_, hclaims, Or.inr ⟨origNumberPayload, ?_, _, _, houter, Or.inl rfl⟩⟩⟩⟩
  · rw [origNumberRequest_splits]
    intro h
    exact urlEncode_headerText_ne_nil h.1
  · rw [origNumberRequest_splits]
    exact identityInfo_x5u
  · exact lawful_sampleLibrary.uri_x5u
  · simp only [textsOf_origNumberRequest]
    exact hparse
  · simp only [textsOf_origNumberRequest]
    exact parseJson_origNumber

/-- The body of a request with these texts, decoded. -/
theorem fromJson_request (identity : Text) :
    (verificationType fun _ => []).fromJson sampleParse (fun _ => []) (.object [
        (Dynamic.text "identity", .string identity),
        (Dynamic.text "time", .int 1614060370),
        (Dynamic.text "from", .object [(Dynamic.text "tn", .string ['1'])]),
        (Dynamic.text "to", .object [(Dynamic.text "tn", .array [.string ['2']])])]) =
      .ok (.ok ⟨identity, [['2']], ['1'], 1614060370⟩) := rfl

/-- **An `orig` that is a number**: `fromJson` accepts the request about it, and what
`verifyPassport` throws is not caught. -/
theorem verifyPassport_throws_orig_number :
    (verificationType fun _ => []).fromJson sampleParse (fun _ => []) (.object [
        (Dynamic.text "identity", .string origNumberRequest.identity),
        (Dynamic.text "time", .int 1614060370),
        (Dynamic.text "from", .object [(Dynamic.text "tn", .string ['1'])]),
        (Dynamic.text "to", .object [(Dynamic.text "tn", .array [.string ['2']])])]) =
      .ok (.ok origNumberRequest) ∧
    ¬ ∃ r, verifyPassport origNumberLibrary 60 1614060380 origNumberRequest = .ok r := by
  refine ⟨fromJson_request origNumberRequest.identity, ?_⟩
  rw [verifyPassport_eq_ok_iff, checkClaims_throws_iff]
  intro h
  exact h escapes_origNumber

end Stir

end CallFwd
