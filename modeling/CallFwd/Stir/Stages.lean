/-
# The stages of `verifyPassport`

Each stage has one lemma that says exactly when it goes on, and one that says what it returns.
`checkClaims_eq_ok_iff` and `checkClaims_refuses` put them together: what both the soundness of
verification (`Stir/Soundness`) and the verification of what was signed (`Stir/RoundTrip`) rest on.
Two refusals are told apart from the others, those of the form of the digest and of the ppt
parameter (`Stir/Form`).
-/
import CallFwd.Stir.Passport

namespace CallFwd.Stir

/-! ## 1. What a stage returns -/

/-- A response that speaks neither for nor against the caller. -/
def Refused (r : VerificationResponse) : Prop :=
  r.verStat = NO_TN_VALIDATION ∧ r.reasonCode ≠ 0

/-- The stage returns nothing but refusals. -/
def Refuses {α : Type} (x : Except Exit α) : Prop := ∀ r, x = .error (.returns r) → Refused r

/-- The stage returns nothing but responses with `P`. -/
def Returns (P : VerificationResponse → Prop) {α : Type} (x : Except Exit α) : Prop :=
  ∀ r, x = .error (.returns r) → P r

/-- What an identity in compact form is refused with. -/
def COMPACT_FORM : VerificationResponse := VF_INVALID_IDENTITY
  "Identity header in compact form instead of required by SHAKEN spec full form."

/-- What a ppt parameter other than 'shaken' is refused with. -/
def BAD_PPT : VerificationResponse := VF_INVALID_IDENTITY
  "Identity header is received with 'ppt' parameter value that is not 'shaken'."

/-- `P` holds of every refusal, these two perhaps excepted. -/
structure Common (P : VerificationResponse → Prop) : Prop where
  stale : ∀ desc, P (VF_STALE_DATE desc)
  info : ∀ desc, P (VF_BAD_IDENTITY_INFO desc)
  credential : ∀ desc, P (VF_UNSUPPORTED_CREDENTIAL false desc)
  identity : ∀ desc, VF_INVALID_IDENTITY desc ≠ COMPACT_FORM → VF_INVALID_IDENTITY desc ≠ BAD_PPT →
    P (VF_INVALID_IDENTITY desc)

/-- An invalid identity speaks neither for nor against the caller. -/
theorem refused_identity (desc : String) : Refused (VF_INVALID_IDENTITY desc) :=
  ⟨rfl, Nat.succ_ne_zero _⟩

/-- So does every other refusal. -/
theorem common_refused : Common Refused where
  stale _ := ⟨rfl, Nat.succ_ne_zero _⟩
  info _ := ⟨rfl, Nat.succ_ne_zero _⟩
  credential _ := ⟨rfl, Nat.succ_ne_zero _⟩
  identity desc _ _ := refused_identity desc

section Returns

variable {α β : Type} {P : VerificationResponse → Prop}

/-- A stage that goes on has returned nothing. -/
theorem returns_ok (a : α) : Returns P (.ok a) := by
  intro r h
  cases h

/-- A stage that ends with a response returns that one. -/
theorem returns_error {r : VerificationResponse} (hr : P r) :
    Returns P (.error (.returns r) : Except Exit α) := by
  intro r' h
  cases h
  exact hr

/-- What throws returns nothing, caught or not. -/
theorem returns_throwing (x : Except Stop α) : Returns P (throwing x) := by
  intro r h
  cases x <;> cases h

/-- A check returns the response it rejects with. -/
theorem returns_rejectIf {bad : Bool} {r : VerificationResponse} (hr : P r) :
    Returns P (rejectIf bad r) := by
  unfold rejectIf
  split
  · exact returns_error hr
  · exact returns_ok ()

/-- The rule of sequential composition. -/
theorem returns_bind {x : Except Exit α} {f : α → Except Exit β} (hx : Returns P x)
    (hf : ∀ a, Returns P (f a)) : Returns P (x >>= f) := by
  intro r h
  rcases bind_eq_error.mp h with h | ⟨a, -, h⟩
  · exact hx r h
  · exact hf a r h

end Returns

/-- A check goes on if there is nothing to reject. -/
theorem rejectIf_eq_ok_iff {bad : Bool} {r : VerificationResponse} {u : Unit} :
    rejectIf bad r = .ok u ↔ bad = false := by
  cases bad <;> simp [rejectIf]

theorem throwing_eq_ok_iff {α : Type} {x : Except Stop α} {a : α} :
    throwing x = .ok a ↔ x = .ok a := by
  cases x <;> simp [throwing]

/-! ## 2. Times -/

/-- The unsigned drift is the distance. -/
theorem drift_toNat (a b : UInt64) : ((drift a b).toNat : ℤ) = |(a.toNat : ℤ) - b.toNat| := by
  unfold drift
  by_cases h : b < a
  · have hlt := UInt64.lt_iff_toNat_lt.mp h
    rw [if_pos h, UInt64.toNat_sub_of_le _ _ (UInt64.le_of_lt h), abs_of_nonneg (by omega)]
    omega
  · have hle := UInt64.le_iff_toNat_le.mp (UInt64.not_lt.mp h)
    rw [if_neg h, UInt64.toNat_sub_of_le _ _ (UInt64.not_lt.mp h), abs_of_nonpos (by omega)]
    omega

/-- Two times are no further apart than the flag allows. -/
def Close (validIatPeriod : UInt32) (a b : ℤ) : Prop := |a - b| ≤ validIatPeriod.toNat

/-- The comparison of the code, on the distance. -/
theorem drift_close_iff {validIatPeriod : UInt32} {a b : UInt64} :
    decide (validIatPeriod.toNat < (drift a b).toNat) = false ↔
      Close validIatPeriod a.toNat b.toNat := by
  rw [decide_eq_false_iff_not, Nat.not_lt, Close, ← drift_toNat]
  omega

/-! ## 3. The header -/

/-- **What the header has to say.** -/
structure HeaderClaims (header : Dynamic) (info : Text) : Prop where
  typ : header.getPtr "typ" = some (.string (Dynamic.text "passport"))
  alg : header.getPtr "alg" = some (.string (Dynamic.text "ES256"))
  x5u : header.getPtr "x5u" = some (.string info)
  ppt : header.getPtr "ppt" = some (.string (Dynamic.text "shaken"))

/-- **When the header passes**: it is an object whose four members are the texts asked for.  One that
is not there would be read as null, which is none of them. -/
theorem checkHeader_eq_ok_iff {header : Dynamic} {info : Text} {u : Unit} :
    checkHeader header info = .ok u ↔ HeaderClaims header info := by
  unfold checkHeader
  simp only [bind_eq_ok, rejectIf_eq_ok_iff, throwing_eq_ok_iff, Bool.not_eq_false',
    Dynamic.eqText_iff]
  have hread : ∀ {key s}, header.indexOrInsert key = .ok (.string s) ↔
      header.getPtr key = some (.string s) := Dynamic.indexOrInsert_eq_ok_iff (by simp)
  constructor
  · rintro ⟨-, -, -, -, -, -, -, -, -, -, typ, htyp, -, rfl, alg, halg, -, rfl, x5u, hx5u, -, rfl,
      ppt, hppt, rfl⟩
    exact ⟨hread.mp htyp, hread.mp halg, hread.mp hx5u, hread.mp hppt⟩
  · intro h
    have hobj := Dynamic.isObject_of_getPtr h.typ
    refine ⟨(), hobj, (), by rw [h.ppt]; rfl, (), by rw [h.typ]; rfl, (), by rw [h.alg]; rfl, (),
      by rw [h.x5u]; rfl, _, hread.mpr h.typ, (), rfl, _, hread.mpr h.alg, (), rfl, _,
      hread.mpr h.x5u, (), rfl, _, hread.mpr h.ppt, rfl⟩

/-- The header is refused in the ways of `Common`. -/
theorem checkHeader_returns {P : VerificationResponse → Prop} (hP : Common P) (header : Dynamic)
    (info : Text) : Returns P (checkHeader header info) := by
  unfold checkHeader
  refine returns_bind (returns_rejectIf (hP.info _)) fun _ => ?_
  refine returns_bind (returns_rejectIf (hP.info _)) fun _ => ?_
  refine returns_bind (returns_rejectIf (hP.info _)) fun _ => ?_
  refine returns_bind (returns_rejectIf (hP.info _)) fun _ => ?_
  refine returns_bind (returns_rejectIf (hP.info _)) fun _ => ?_
  refine returns_bind (returns_throwing _) fun typ => ?_
  refine returns_bind (returns_rejectIf (hP.credential _)) fun _ => ?_
  refine returns_bind (returns_throwing _) fun alg => ?_
  refine returns_bind (returns_rejectIf (hP.credential _)) fun _ => ?_
  refine returns_bind (returns_throwing _) fun x5u => ?_
  refine returns_bind (returns_rejectIf (hP.info _)) fun _ => ?_
  refine returns_bind (returns_throwing _) fun ppt => ?_
  exact returns_rejectIf (hP.identity _ (by decide) (by decide))

/-! ## 4. The payload -/

/-- **What the payload has to say.** -/
structure PayloadClaims (validIatPeriod : UInt32) (request : VerificationRequest)
    (payload : Dynamic) : Prop where
  dest : ∃ dest, payload.getPtr "dest" = some dest ∧
    dest.getPtr "tn" = some (.array (request.to_.map .string))
  orig : ∃ orig, payload.getPtr "orig" = some orig ∧
    orig.getPtr "tn" = some (.string request.from_)
  attest : ∃ attest, payload.getPtr "attest" = some (.string attest) ∧
    (attest = ['A'] ∨ attest = ['B'] ∨ attest = ['C'])
  origid : ∃ origid, payload.getPtr "origid" = some origid
  iat : ∃ n : Int64, payload.getPtr "iat" = some (.int n) ∧ 0 ≤ n.toInt ∧
    Close validIatPeriod n.toInt request.time.toNat

/-- An integer that is not negative is its own time. -/
theorem natural_int {n : Int64} (h : 0 ≤ n.toInt) :
    natural (.int n) = some n.toUInt64 ∧ (n.toUInt64.toNat : ℤ) = n.toInt := by
  have hle : 0 ≤ n := Int64.le_iff_toInt_le.mpr h
  refine ⟨if_pos hle, ?_⟩
  rw [Int64.toNat_toUInt64_of_le hle, Int64.toNatClampNeg]
  exact Int.toNat_of_nonneg h

/-- The iat a payload is taken to have. -/
theorem natural_eq_some {d : Dynamic} {iat : UInt64} (h : natural d = some iat) :
    ∃ n : Int64, d = .int n ∧ 0 ≤ n.toInt ∧ n.toInt = iat.toNat := by
  cases d with
  | int n =>
    change (if (0 : Int64) ≤ n then some n.toUInt64 else none) = some iat at h
    split at h
    · rename_i hle
      have hpos : 0 ≤ n.toInt := Int64.le_iff_toInt_le.mp hle
      cases h
      exact ⟨n, rfl, hpos, (natural_int hpos).2.symm⟩
    · cases h
  | _ => simp [natural] at h

/-- The three comparisons of an attestation. -/
theorem attest_value_iff {d : Dynamic} :
    (d = .string ['A'] ∨ d = .string ['B']) ∨ d = .string ['C'] ↔
      ∃ value, d = .string value ∧ (value = ['A'] ∨ value = ['B'] ∨ value = ['C']) := by
  constructor
  · rintro ((rfl | rfl) | rfl)
    · exact ⟨_, rfl, Or.inl rfl⟩
    · exact ⟨_, rfl, Or.inr (Or.inl rfl)⟩
    · exact ⟨_, rfl, Or.inr (Or.inr rfl)⟩
  · rintro ⟨value, rfl, rfl | rfl | rfl⟩
    · exact Or.inl (Or.inl rfl)
    · exact Or.inl (Or.inr rfl)
    · exact Or.inr rfl

/-- **When the payload passes.**  The stage looks at the shape of the outer level before it reads a
value; the values are compared in the order of the source, here told apart by member. -/
theorem checkPayload_eq_ok_iff {validIatPeriod : UInt32} {request : VerificationRequest}
    {payload : Dynamic} {u : Unit} :
    checkPayload validIatPeriod request payload = .ok u ↔
      PayloadClaims validIatPeriod request payload := by
  unfold checkPayload
  simp only [bind_eq_ok, rejectIf_eq_ok_iff, throwing_eq_ok_iff, Bool.not_eq_false',
    Dynamic.eqText_iff, Dynamic.eqTexts_iff, Option.isNone_eq_false_iff, Option.isSome_iff_exists,
    drift_close_iff, Bool.and_eq_false_iff]
  -- what passes a comparison is no null, so it was there
  have hread : ∀ {d v : Dynamic} {key}, v ≠ .null →
      (d.indexOrInsert key = .ok v ↔ d.getPtr key = some v) := Dynamic.indexOrInsert_eq_ok_iff
  constructor
  · rintro ⟨-, -, -, ⟨dest, hdest⟩, -, ⟨orig, horig⟩, -, -, -, horigid, -, -, iat, hiat, -,
      ⟨n, hn⟩, -, hclose, attest, hattest, -, hvalue, orig', horig', _, htn, -, rfl, dest', hdest',
      _, htns, rfl⟩
    rw [hn, Option.getD_some] at hclose
    obtain ⟨i, rfl, hpos, hi⟩ := natural_eq_some hn
    cases horig'.symm.trans (Dynamic.indexOrInsert_of_getPtr horig)
    cases hdest'.symm.trans (Dynamic.indexOrInsert_of_getPtr hdest)
    obtain ⟨value, rfl, hthree⟩ := attest_value_iff.mp hvalue
    exact ⟨⟨dest, hdest, (hread (by simp)).mp htns⟩, ⟨orig, horig, (hread (by simp)).mp htn⟩,
      ⟨value, (hread (by simp)).mp hattest, hthree⟩, horigid, i, (hread (by simp)).mp hiat, hpos,
      hi ▸ hclose⟩
  · rintro ⟨⟨dest, hdest, htns⟩, ⟨orig, horig, htn⟩, ⟨attest, hattest, hvalue⟩, horigid, i, hiat,
      hpos, hclose⟩
    obtain ⟨hn, hi⟩ := natural_int hpos
    refine ⟨(), Dynamic.isObject_of_getPtr hiat, (), ⟨_, hdest⟩, (), ⟨_, horig⟩, (), ⟨_, hattest⟩,
      (), horigid, (), ⟨_, hiat⟩, _, Dynamic.indexOrInsert_of_getPtr hiat, (), ⟨_, hn⟩, (), ?_, _,
      Dynamic.indexOrInsert_of_getPtr hattest, (), attest_value_iff.mpr ⟨attest, rfl, hvalue⟩, _,
      Dynamic.indexOrInsert_of_getPtr horig, _, Dynamic.indexOrInsert_of_getPtr htn, (), rfl, _,
      Dynamic.indexOrInsert_of_getPtr hdest, _, Dynamic.indexOrInsert_of_getPtr htns, rfl⟩
    rw [hn, Option.getD_some, hi]
    exact hclose

/-- The payload is refused in the ways of `Common`. -/
theorem checkPayload_returns {P : VerificationResponse → Prop} (hP : Common P)
    (validIatPeriod : UInt32) (request : VerificationRequest) (payload : Dynamic) :
    Returns P (checkPayload validIatPeriod request payload) := by
  unfold checkPayload
  refine returns_bind (returns_rejectIf (hP.info _)) fun _ => ?_
  refine returns_bind (returns_rejectIf (hP.identity _ (by decide) (by decide))) fun _ => ?_
  refine returns_bind (returns_rejectIf (hP.identity _ (by decide) (by decide))) fun _ => ?_
  refine returns_bind (returns_rejectIf (hP.identity _ (by decide) (by decide))) fun _ => ?_
  refine returns_bind (returns_rejectIf (hP.identity _ (by decide) (by decide))) fun _ => ?_
  refine returns_bind (returns_rejectIf (hP.identity _ (by decide) (by decide))) fun _ => ?_
  refine returns_bind (returns_throwing _) fun iat => ?_
  refine returns_bind (returns_rejectIf (hP.identity _ (by decide) (by decide))) fun _ => ?_
  refine returns_bind (returns_rejectIf (hP.stale _)) fun _ => ?_
  refine returns_bind (returns_throwing _) fun attest => ?_
  refine returns_bind (returns_rejectIf (hP.identity _ (by decide) (by decide))) fun _ => ?_
  refine returns_bind (returns_throwing _) fun orig => ?_
  refine returns_bind (returns_throwing _) fun origTN => ?_
  refine returns_bind (returns_rejectIf (hP.identity _ (by decide) (by decide))) fun _ => ?_
  refine returns_bind (returns_throwing _) fun dest => ?_
  refine returns_bind (returns_throwing _) fun destTN => ?_
  exact returns_rejectIf (hP.identity _ (by decide) (by decide))

/-! ## 5. The other stages -/

section Stages

variable {lib : Library}

/-- The URI passes if the library takes it. -/
theorem checkUri_eq_ok_iff {info : Text} {u : Unit} :
    checkUri lib info = .ok u ↔ lib.uri info = .ok () := by
  unfold checkUri
  split
  · rename_i h
    simp [h]
  · exact throwing_eq_ok_iff

theorem checkUri_returns {P : VerificationResponse → Prop} (hP : Common P) (info : Text) :
    Returns P (checkUri lib info) := by
  unfold checkUri
  split
  · exact returns_error (hP.info _)
  · exact returns_throwing _

/-- A portion is decoded if the parser takes it. -/
theorem decode_eq_ok_iff {text : Text} {desc : String} {d : Dynamic} :
    decode lib text desc = .ok d ↔ lib.parseJson text = .ok d := by
  unfold decode
  split
  · rename_i h
    simp [h]
  · exact throwing_eq_ok_iff

/-- A portion that is no JSON is refused in the ways of `Common`. -/
theorem decode_returns {P : VerificationResponse → Prop} (hP : Common P) (text : Text)
    (desc : String) : Returns P (decode lib text desc) := by
  unfold decode
  split
  · exact returns_error (hP.info _)
  · exact returns_throwing _

/-- Nothing to look through. -/
theorem checkPpt_nil : checkPpt [] = .ok () := by
  rw [checkPpt]
  simp

/-- The run over the parameters returns one refusal or nothing. -/
theorem checkPpt_returns (identity : Text) : Returns (· = BAD_PPT) (checkPpt identity) := by
  induction hn : identity.length using Nat.strong_induction_on generalizing identity with
  | _ n ih =>
    rw [checkPpt]
    split
    · exact returns_ok ()
    · rename_i hne
      simp only
      split
      · exact returns_error rfl
      · refine ih _ ?_ _ rfl
        rw [← hn]
        exact Nat.lt_of_le_of_lt (length_splitStep_le _ _) (length_splitStep_lt hne)

end Stages

/-! ## 6. All the checks together -/

section Claims

variable {lib : Library} {validIatPeriod : UInt32} {now : UInt64} {request : VerificationRequest}

/-- The texts the claims are read from, and the bytes of the signature. -/
def textsOf (lib : Library) (identity : Text) : Text × Text × Text :=
  (lib.urlDecode (splitIdentity identity).header, lib.urlDecode (splitIdentity identity).payload,
    lib.urlDecode (splitIdentity identity).signature)

/-- **When the checks go on**, and with what. -/
theorem checkClaims_eq_ok_iff {texts : Text × Text × Text} :
    checkClaims lib validIatPeriod now request = .ok texts ↔
      texts = textsOf lib request.identity ∧
      Close validIatPeriod request.time.toNat now.toNat ∧
      ¬ ((splitIdentity request.identity).header = [] ∧
        (splitIdentity request.identity).payload = []) ∧
      ∃ info rest, identityInfo (splitIdentity request.identity).rest = (info, rest) ∧ info ≠ [] ∧
        lib.uri info = .ok () ∧ checkPpt rest = .ok () ∧
        (∃ header, lib.parseJson (textsOf lib request.identity).1 = .ok header ∧
          HeaderClaims header info) ∧
        ∃ payload, lib.parseJson (textsOf lib request.identity).2.1 = .ok payload ∧
          PayloadClaims validIatPeriod request payload := by
  rcases hsplit : identityInfo (splitIdentity request.identity).rest with ⟨info, rest⟩
  unfold checkClaims
  simp only [hsplit, bind_eq_ok, rejectIf_eq_ok_iff, drift_close_iff, checkUri_eq_ok_iff,
    decode_eq_ok_iff, checkHeader_eq_ok_iff, checkPayload_eq_ok_iff]
  constructor
  · rintro ⟨-, hclose, -, hform, -, hinfo, -, huri, u, hppt, header, hheader, -, hclaims, payload,
      hpayload, -, hclaims', htexts⟩
    cases htexts
    refine ⟨rfl, hclose, ?_, info, rest, rfl, ?_, huri, hppt, ⟨header, hheader, hclaims⟩, payload,
      hpayload, hclaims'⟩
    · simpa [Bool.and_eq_false_iff] using hform
    · simpa using hinfo
  · rintro ⟨rfl, hclose, hform, info', rest', heq, hinfo, huri, hppt, ⟨header, hheader, hclaims⟩,
      payload, hpayload, hclaims'⟩
    cases heq
    refine ⟨(), hclose, (), ?_, (), ?_, (), huri, (), hppt, header, hheader, (), hclaims, payload,
      hpayload, (), hclaims', rfl⟩
    · simpa [Bool.and_eq_false_iff] using hform
    · simpa using hinfo

/-- What is left of the checks behind the parameters. -/
theorem claims_returns {P : VerificationResponse → Prop} (hP : Common P) (headerText : Text)
    (payloadText : Text) (info : Text) (out : Text × Text × Text) :
    Returns P (do
      let header ← decode lib headerText "Unable to decode PASSporT header."
      checkHeader header info
      let payload ← decode lib payloadText "Unable to decode PASSporT payload."
      checkPayload validIatPeriod request payload
      return out) := by
  refine returns_bind (decode_returns hP _ _) fun header => ?_
  refine returns_bind (checkHeader_returns hP _ _) fun _ => ?_
  refine returns_bind (decode_returns hP _ _) fun payload => ?_
  refine returns_bind (checkPayload_returns hP _ _ _) fun _ => ?_
  exact returns_ok _

/-- All that is returned before the signature is looked at is a refusal. -/
theorem checkClaims_refuses : Refuses (checkClaims lib validIatPeriod now request) := by
  unfold checkClaims
  have hP := common_refused
  refine returns_bind (returns_rejectIf (hP.stale _)) fun _ => ?_
  refine returns_bind (returns_rejectIf (refused_identity _)) fun _ => ?_
  refine returns_bind (returns_rejectIf (hP.info _)) fun _ => ?_
  refine returns_bind (checkUri_returns hP _) fun _ => ?_
  refine returns_bind (fun r h => ?_) fun _ => claims_returns hP _ _ _ _
  rw [checkPpt_returns _ r h]
  exact refused_identity _

end Claims

end CallFwd.Stir
