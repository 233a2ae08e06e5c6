/-
# Two rules about the form of an identity

The comments of `verifyPassport` state the rules of SHAKEN it implements.  Rule a: the digest is in
full form, three portions delimited with dots, or it is rejected (E4).  Rule b: a ppt parameter
whose value is not "shaken" is rejected (E5).  Neither is what the code does.

* The test of rule a asks whether header AND payload are empty, and does not look at the
  signature.  `fullForm_checked_iff` says which digests it decides rightly.
* The loop of rule b starts behind the '>' of the info parameter, where the text goes on with ';'.
  The name of the first parameter is read with that ';' in front of it, and is never "ppt".
  `ppt_checked_iff` says which lists of parameters are decided rightly.
-/
import CallFwd.Stir.RoundTrip

namespace CallFwd.Stir

/-! ## 1. Which stage returns the two refusals -/

section Stages

variable {lib : Library} {validIatPeriod : UInt32} {now : UInt64} {request : VerificationRequest}

/-- None but these two. -/
theorem common_other : Common fun r => r ≠ COMPACT_FORM ∧ r ≠ BAD_PPT where
  stale _ := by simp [VF_STALE_DATE, COMPACT_FORM, BAD_PPT, VF_INVALID_IDENTITY]
  info _ := by simp [VF_BAD_IDENTITY_INFO, COMPACT_FORM, BAD_PPT, VF_INVALID_IDENTITY]
  credential _ := by simp [VF_UNSUPPORTED_CREDENTIAL, COMPACT_FORM, BAD_PPT, VF_INVALID_IDENTITY]
  identity _ h h' := ⟨h, h'⟩

/-- What the last line of `verifyPassport` returns is none of the two. -/
theorem verifyPassport_eq_ok_of_other {r : VerificationResponse}
    (hr : r = COMPACT_FORM ∨ r = BAD_PPT) :
    verifyPassport lib validIatPeriod now request = .ok r ↔
      checkClaims lib validIatPeriod now request = .error (.returns r) := by
  unfold verifyPassport
  constructor
  · intro h
    split at h
    · cases h
    · rename_i r' hcheck
      cases h
      exact hcheck
    · split at h
      · cases h
        rcases hr with hr | hr <;> simp [COMPACT_FORM, BAD_PPT, VF_INVALID_IDENTITY] at hr
      · cases h
        rcases hr with hr | hr <;>
          simp [COMPACT_FORM, BAD_PPT, VF_INVALID_IDENTITY, TN_VALIDATION_FAILED,
            NO_TN_VALIDATION] at hr
  · intro h
    rw [h]

/-- A fresh request in a form that the test lets through: what the other stages make of it. -/
theorem checkClaims_of_form (hfresh : Close validIatPeriod request.time.toNat now.toNat)
    (hform : ¬ ((splitIdentity request.identity).header = [] ∧
      (splitIdentity request.identity).payload = [])) {info rest : Text}
    (hinfo : identityInfo (splitIdentity request.identity).rest = (info, rest)) :
    checkClaims lib validIatPeriod now request = (do
      rejectIf info.isEmpty (VF_BAD_IDENTITY_INFO "Missing 'info' parameter in the 'identity'.")
      checkUri lib info
      checkPpt rest
      let header ← decode lib (textsOf lib request.identity).1 "Unable to decode PASSporT header."
      checkHeader header info
      let payload ← decode lib (textsOf lib request.identity).2.1
        "Unable to decode PASSporT payload."
      checkPayload validIatPeriod request payload
      return textsOf lib request.identity) := by
  have hform' : ((splitIdentity request.identity).header.isEmpty &&
      (splitIdentity request.identity).payload.isEmpty) = false := by
    simpa [Bool.and_eq_false_iff, imp_iff_not_or] using hform
  unfold checkClaims
  simp only [drift_close_iff.mpr hfresh, hform', hinfo, rejectIf, Bool.false_eq_true, if_false]
  rfl

/-- **The refusal of rule a** comes from the test of the form, and from nowhere else. -/
theorem checkClaims_eq_compactForm_iff (request : VerificationRequest)
    (hfresh : Close validIatPeriod request.time.toNat now.toNat) :
    checkClaims lib validIatPeriod now request = .error (.returns COMPACT_FORM) ↔
      (splitIdentity request.identity).header = [] ∧
        (splitIdentity request.identity).payload = [] := by
  by_cases hform : (splitIdentity request.identity).header = [] ∧
      (splitIdentity request.identity).payload = []
  · refine iff_of_true ?_ hform
    unfold checkClaims
    simp only [drift_close_iff.mpr hfresh, hform.1, hform.2, rejectIf, Bool.false_eq_true, if_false]
    rfl
  · refine iff_of_false (fun h => ?_) hform
    rcases hinfo : identityInfo (splitIdentity request.identity).rest with ⟨info, rest⟩
    rw [checkClaims_of_form hfresh hform hinfo] at h
    have hP := common_other
    refine returns_bind (P := (· ≠ COMPACT_FORM)) (returns_rejectIf (hP.info _).1) (fun _ => ?_) _
      h rfl
    refine returns_bind (fun r hr => (checkUri_returns hP _ r hr).1) fun _ => ?_
    refine returns_bind (fun r hr => ?_) fun _ r hr => (claims_returns hP _ _ _ _ r hr).1
    rw [checkPpt_returns _ r hr]
    decide

/-- **The refusal of rule b** comes from the loop over the parameters. -/
theorem checkClaims_eq_badPpt_iff (hfresh : Close validIatPeriod request.time.toNat now.toNat)
    (hform : ¬ ((splitIdentity request.identity).header = [] ∧
      (splitIdentity request.identity).payload = [])) {info rest : Text}
    (hinfo : identityInfo (splitIdentity request.identity).rest = (info, rest)) (hne : info ≠ [])
    (huri : lib.uri info = .ok ()) :
    checkClaims lib validIatPeriod now request = .error (.returns BAD_PPT) ↔
      checkPpt rest = .error (.returns BAD_PPT) := by
  rw [checkClaims_of_form hfresh hform hinfo,
    (rejectIf_eq_ok_iff (u := ())).mpr (by simpa using hne),
    (checkUri_eq_ok_iff (u := ())).mpr huri]
  change (checkPpt rest >>= _) = _ ↔ _
  rw [bind_eq_error, or_iff_left]
  rintro ⟨-, -, h⟩
  exact (claims_returns common_other _ _ _ _ _ h).2 rfl

end Stages

/-! ## 2. Rule a: the full form -/

/-- The identity digest: the text before the first ';', trimmed. -/
def digestOf (identity : Text) : Text := trimWhitespace (splitStep ';' identity).1

/-- Three portions separated by dots, none of them empty. -/
def isFullForm (digest : Text) : Bool :=
  match digest.splitOn '.' with
  | [header, payload, signature] => !header.isEmpty && !payload.isEmpty && !signature.isEmpty
  | _ => false

/-- Nothing stands before the second dot. -/
def NoPortions (digest : Text) : Prop := digest = [] ∨ digest = ['.'] ∨ ['.', '.'] <+: digest

instance (digest : Text) : Decidable (NoPortions digest) :=
  inferInstanceAs (Decidable (_ ∨ _ ∨ _))

theorem splitStep_dot_eq_nil {t : Text} (h : (splitStep '.' t).1 = []) :
    t = [] ∨ ∃ t', t = '.' :: t' ∧ (splitStep '.' t).2 = t' := by
  rcases (splitStep_spec '.' t).2 with ht | ⟨ht, -⟩
  · rw [h] at ht
    exact Or.inr ⟨_, ht, rfl⟩
  · exact Or.inl (ht.trans h)

/-- The test of the code, in terms of the digest. -/
theorem noPortions_iff (identity : Text) :
    ((splitIdentity identity).header = [] ∧ (splitIdentity identity).payload = []) ↔
      NoPortions (digestOf identity) := by
  change ((splitStep '.' (digestOf identity)).1 = [] ∧
    (splitStep '.' (splitStep '.' (digestOf identity)).2).1 = []) ↔ _
  constructor
  · rintro ⟨hheader, hpayload⟩
    rcases splitStep_dot_eq_nil hheader with h | ⟨t, h, ht⟩
    · exact Or.inl h
    · rw [ht] at hpayload
      rcases splitStep_dot_eq_nil hpayload with rfl | ⟨t', rfl, -⟩
      · exact Or.inr (Or.inl h)
      · exact Or.inr (Or.inr ⟨t', h.symm⟩)
  · rintro (h | h | ⟨t, h⟩)
    · rw [h]
      exact ⟨rfl, rfl⟩
    · rw [h]
      exact ⟨rfl, rfl⟩
    · rw [← h]
      exact ⟨rfl, rfl⟩

/-- A digest in full form has a first portion. -/
theorem not_noPortions_of_fullForm {digest : Text} (h : isFullForm digest = true) :
    ¬ NoPortions digest := by
  unfold isFullForm at h
  split at h
  · rename_i header payload signature hsplit
    rintro (rfl | rfl | ⟨t, rfl⟩)
    · cases hsplit
    · cases hsplit
    · change ([] ++ '.' :: ('.' :: t)).splitOn '.' = _ at hsplit
      rw [List.splitOn_append_cons_self_of_not_mem List.not_mem_nil] at hsplit
      obtain ⟨rfl, -⟩ := List.cons.inj hsplit
      simp at h
  · cases h

theorem digestOf_of_not_mem {digest : Text} (h : ';' ∉ digest) :
    digestOf digest = trimWhitespace digest := by
  rw [digestOf, splitStep_of_not_mem h]

/-- Without a parameter behind the digest there is no info. -/
theorem verifyPassport_no_info {lib : Library} {validIatPeriod : UInt32} {now : UInt64}
    (request : VerificationRequest) (hfresh : Close validIatPeriod request.time.toNat now.toNat)
    (hform : ¬ NoPortions (digestOf request.identity)) (hend : ';' ∉ request.identity) :
    verifyPassport lib validIatPeriod now request =
      .ok (VF_BAD_IDENTITY_INFO "Missing 'info' parameter in the 'identity'.") := by
  have hrest : (splitIdentity request.identity).rest = [] := by
    change (splitStep ';' request.identity).2 = []
    rw [splitStep_of_not_mem hend]
  have hinfo : identityInfo (splitIdentity request.identity).rest = ([], []) := by
    rw [hrest]
    decide
  rw [verifyPassport, checkClaims_of_form hfresh (fun h => hform ((noPortions_iff _).mp h)) hinfo]
  rfl

/-- **Rule a.**  For a fresh request, a digest that is not in full form is refused for its form, and
is refused with 438 whatever follows it, exactly when nothing stands before its second dot. -/
theorem fullForm_checked_iff (lib : Library) (validIatPeriod : UInt32) (now : UInt64)
    (request : VerificationRequest)
    (hfresh : Close validIatPeriod request.time.toNat now.toNat) :
    ((isFullForm (digestOf request.identity) = false →
        verifyPassport lib validIatPeriod now request = .ok COMPACT_FORM) ↔
      isFullForm (digestOf request.identity) = true ∨ NoPortions (digestOf request.identity)) ∧
    ((isFullForm (digestOf request.identity) = false →
        ∀ identity, digestOf identity = digestOf request.identity →
          ∃ r, verifyPassport lib validIatPeriod now { request with identity := identity } = .ok r ∧
            r.reasonCode = 438 ∧ r.verStat = NO_TN_VALIDATION) ↔
      isFullForm (digestOf request.identity) = true ∨ NoPortions (digestOf request.identity)) := by
  have hcompact : ∀ identity, NoPortions (digestOf identity) →
      verifyPassport lib validIatPeriod now { request with identity := identity } =
        .ok COMPACT_FORM := by
    intro identity h
    refine (verifyPassport_eq_ok_of_other (Or.inl rfl)).mpr ?_
    exact (checkClaims_eq_compactForm_iff { request with identity := identity } hfresh).mpr
      ((noPortions_iff identity).mpr h)
  cases hfull : isFullForm (digestOf request.identity) with
  | true => simp
  | false =>
    simp only [Bool.false_eq_true, false_or, true_imp_iff]
    refine ⟨⟨?_, hcompact request.identity⟩, ?_, ?_⟩
    · intro h
      have hcheck := (verifyPassport_eq_ok_of_other (Or.inl rfl)).mp h
      exact (noPortions_iff _).mp ((checkClaims_eq_compactForm_iff request hfresh).mp hcheck)
    · intro h
      -- the digest with nothing behind it
      by_contra hform
      have hend : ';' ∉ (splitStep ';' request.identity).1 := (splitStep_spec ';' _).1
      have hdigest : digestOf (splitStep ';' request.identity).1 = digestOf request.identity := by
        rw [digestOf_of_not_mem hend]
        rfl
      obtain ⟨r, hr, hcode, -⟩ := h _ hdigest
      rw [verifyPassport_no_info { request with identity := (splitStep ';' request.identity).1 }
        hfresh (by rwa [hdigest]) hend] at hr
      cases hr
      cases hcode
    · intro h identity heq
      exact ⟨COMPACT_FORM, hcompact identity (heq ▸ h), rfl, rfl⟩

/-- A digest of a signature alone. -/
theorem fullForm_checked_signature :
    verifyPassport sampleLibrary 60 1614060380
        ⟨Dynamic.text "..c2ln;info=<http://asipto.lab/stir/cert.pem>", [], [], 1614060370⟩ =
      .ok COMPACT_FORM :=
  (fullForm_checked_iff sampleLibrary 60 1614060380 ⟨_, [], [], 1614060370⟩
    (by simp [Close])).1.mpr (Or.inr (by decide)) (by decide)

/-- Two portions instead of three are let through, and the identity is refused for the info that is
missing, with 436. -/
theorem two_portions_pass_the_form :
    isFullForm (digestOf (Dynamic.text "eyJhbGciOiJFUzI1NiJ9.e30")) = false ∧
      verifyPassport sampleLibrary 60 1614060380
          ⟨Dynamic.text "eyJhbGciOiJFUzI1NiJ9.e30", [], [], 1614060370⟩ =
        .ok ⟨436, NO_TN_VALIDATION, "Bad identity Info",
          "Missing 'info' parameter in the 'identity'."⟩ := by
  refine ⟨by decide, verifyPassport_no_info _ ?_ ?_ ?_⟩
  · simp [Close]
  · decide
  · decide

/-! ## 3. Rule b: the ppt parameter -/

/-- The parameters behind info, each with its ';'. -/
def paramsText (params : List (Text × Text)) : Text :=
  params.flatMap fun p => ';' :: (p.1 ++ '=' :: p.2)

/-- An identity with an info parameter and more behind it, blanks where the code skips them. -/
def identityText (digest blank blank' uri blank'' : Text) (params : List (Text × Text)) : Text :=
  digest ++ ';' :: (blank ++ (Dynamic.text "info=" ++
    (blank' ++ '<' :: (uri ++ '>' :: (blank'' ++ paramsText params)))))

/-- The names have no '=' and no ';' in them, the values no ';'. -/
def Separated (params : List (Text × Text)) : Prop :=
  ∀ p ∈ params, '=' ∉ p.1 ∧ ';' ∉ p.1 ∧ ';' ∉ p.2

/-- A ppt parameter whose value is not "shaken". -/
def isBadPpt (p : Text × Text) : Bool :=
  trimWhitespace p.1 == Dynamic.text "ppt" && trimWhitespace p.2 != Dynamic.text "shaken"

/-- What is left of the parameters when a ';' has been taken off. -/
def paramsRest : List (Text × Text) → Text
  | [] => []
  | p :: params => p.1 ++ '=' :: (p.2 ++ paramsText params)

theorem splitStep_paramsText {v : Text} (hv : ';' ∉ v) (params : List (Text × Text)) :
    splitStep ';' (v ++ paramsText params) = (v, paramsRest params) := by
  cases params with
  | nil =>
    rw [paramsText, List.flatMap_nil, List.append_nil, splitStep_of_not_mem hv]
    rfl
  | cons p params =>
    have htext : paramsText (p :: params) = ';' :: paramsRest (p :: params) := by
      simp [paramsText, paramsRest]
    rw [htext, splitStep_append _ hv]

/-- One turn of the loop, at a parameter. -/
theorem checkPpt_param {name value : Text} (hname : '=' ∉ name) (hvalue : ';' ∉ value)
    (params : List (Text × Text)) :
    checkPpt (name ++ '=' :: (value ++ paramsText params)) =
      if isBadPpt (name, value) then .error (.returns BAD_PPT)
      else checkPpt (paramsRest params) := by
  have hne : name ++ '=' :: (value ++ paramsText params) ≠ [] := by simp
  rw [checkPpt, dif_neg hne]
  simp only [splitStep_append _ hname, splitStep_paramsText hvalue, isBadPpt, Bool.and_eq_true,
    beq_iff_eq, bne_iff_ne]
  rfl

/-- **The loop, run over parameters whose first name is read as it is.** -/
theorem checkPpt_paramsRest {params : List (Text × Text)} (h : Separated params) :
    checkPpt (paramsRest params) =
      if params.any isBadPpt then .error (.returns BAD_PPT) else .ok () := by
  induction params with
  | nil => exact checkPpt_nil
  | cons param params ih =>
    obtain ⟨name, value⟩ := param
    obtain ⟨hname, -, hvalue⟩ := h (name, value) List.mem_cons_self
    have hrest := ih fun p hp => h p (List.mem_cons_of_mem _ hp)
    rw [paramsRest, checkPpt_param hname hvalue, hrest, List.any_cons]
    cases isBadPpt (name, value) <;> rfl

/-- Trimming takes off whitespace only. -/
theorem mem_trimWhitespace {c : Char} {s : Text} (hc : trims c = false) (h : c ∈ s) :
    c ∈ trimWhitespace s := by
  have hl : c ∈ ltrimWhitespace s := by
    have hsplit := List.takeWhile_append_dropWhile (p := trims) (l := s)
    rw [← hsplit] at h
    refine (List.mem_append.mp h).resolve_left fun hm => ?_
    rw [List.mem_takeWhile_imp hm] at hc
    cases hc
  have hr := List.rdropWhile_append_rtakeWhile (p := trims) (l := ltrimWhitespace s)
  rw [← hr] at hl
  refine (List.mem_append.mp hl).resolve_right fun hm => ?_
  rw [List.mem_rtakeWhile_imp hm] at hc
  cases hc

/-- **The loop, run where it starts**: the ';' in front of the first name hides it. -/
theorem checkPpt_paramsText {params : List (Text × Text)} (h : Separated params) {blank : Text}
    (hblank : ∀ c ∈ blank, trims c = true) :
    checkPpt (blank ++ paramsText params) =
      if (params.drop 1).any isBadPpt then .error (.returns BAD_PPT) else .ok () := by
  have hequal : '=' ∉ blank := fun hc => by simpa [trims] using hblank _ hc
  cases params with
  | nil =>
    rw [paramsText, List.flatMap_nil, List.append_nil, List.drop_nil, checkPpt]
    have htrim : trimWhitespace blank = [] := by
      rw [trimWhitespace, ltrimWhitespace, List.dropWhile_eq_nil_iff.mpr hblank]
      rfl
    split
    · rfl
    · simp only [splitStep_of_not_mem hequal, htrim]
      exact checkPpt_nil
  | cons p params =>
    obtain ⟨name, value⟩ := p
    obtain ⟨hname, -, hvalue⟩ := h (name, value) List.mem_cons_self
    have htext : blank ++ paramsText ((name, value) :: params) =
        (blank ++ ';' :: name) ++ '=' :: (value ++ paramsText params) := by
      simp [paramsText]
    have hname' : '=' ∉ blank ++ ';' :: name := by simp [hequal, hname]
    have hgood : isBadPpt (blank ++ ';' :: name, value) = false := by
      have hsemi : ';' ∈ trimWhitespace (blank ++ ';' :: name) :=
        mem_trimWhitespace (by decide) (by simp)
      rw [isBadPpt, Bool.and_eq_false_iff, beq_eq_false_iff_ne]
      refine Or.inl fun e => ?_
      rw [e] at hsemi
      exact absurd hsemi (by decide)
    rw [htext, checkPpt_param hname' hvalue, hgood, List.drop_one, List.tail_cons]
    exact checkPpt_paramsRest fun p hp => h p (List.mem_cons_of_mem _ hp)

theorem identityInfo_text {blank blank' uri rest : Text} (hblank : ∀ c ∈ blank, trims c = true)
    (hblank' : ∀ c ∈ blank', trims c = true) (huri : '>' ∉ uri) :
    identityInfo (blank ++ (Dynamic.text "info=" ++ (blank' ++ '<' :: (uri ++ '>' :: rest)))) =
      (trimWhitespace uri, rest) := by
  have hskip : ltrimWhitespace (blank ++ (Dynamic.text "info=" ++
      (blank' ++ '<' :: (uri ++ '>' :: rest)))) =
        Dynamic.text "info" ++ '=' :: (blank' ++ '<' :: (uri ++ '>' :: rest)) := by
    rw [ltrimWhitespace, List.dropWhile_append_of_pos hblank]
    rfl
  have hskip' : ltrimWhitespace (blank' ++ '<' :: (uri ++ '>' :: rest)) =
      '<' :: (uri ++ '>' :: rest) := by
    rw [ltrimWhitespace, List.dropWhile_append_of_pos hblank']
    rfl
  rw [identityInfo, hskip, splitStep_append _ (by decide)]
  simp only [if_pos, hskip', splitStep_append _ huri]

section Ppt

variable {digest blank blank' uri blank'' : Text} {params : List (Text × Text)}

theorem rest_identityText (hdigest : ';' ∉ digest) :
    (splitIdentity (identityText digest blank blank' uri blank'' params)).rest =
      blank ++ (Dynamic.text "info=" ++
        (blank' ++ '<' :: (uri ++ '>' :: (blank'' ++ paramsText params)))) := by
  change (splitStep ';' _).2 = _
  rw [identityText, splitStep_append _ hdigest]

theorem digestOf_identityText (hdigest : ';' ∉ digest) :
    digestOf (identityText digest blank blank' uri blank'' params) = trimWhitespace digest := by
  rw [digestOf, identityText, splitStep_append _ hdigest]

end Ppt

/-- **Rule b.**  A fresh request in full form, with a valid info parameter and any list of
parameters behind it: a ppt parameter that is not "shaken" is refused, with 438, exactly when it
does not stand in the first place only. -/
theorem ppt_checked_iff (lib : Library) (validIatPeriod : UInt32) (now : UInt64)
    (request : VerificationRequest) {digest blank blank' uri blank'' : Text}
    {params : List (Text × Text)}
    (hidentity : request.identity = identityText digest blank blank' uri blank'' params)
    (hfresh : Close validIatPeriod request.time.toNat now.toNat)
    (hdigest : ';' ∉ digest) (hfull : isFullForm (trimWhitespace digest) = true)
    (hblanks : ∀ c ∈ blank ++ blank' ++ blank'', trims c = true)
    (huri : '>' ∉ uri) (hne : trimWhitespace uri ≠ [])
    (hvalid : lib.uri (trimWhitespace uri) = .ok ()) (hparams : Separated params) :
    (params.any isBadPpt = true →
        verifyPassport lib validIatPeriod now request = .ok BAD_PPT) ↔
      params.any isBadPpt = false ∨ (params.drop 1).any isBadPpt = true := by
  have hform : ¬ ((splitIdentity request.identity).header = [] ∧
      (splitIdentity request.identity).payload = []) := by
    rw [noPortions_iff, hidentity, digestOf_identityText hdigest]
    exact not_noPortions_of_fullForm hfull
  have hinfo : identityInfo (splitIdentity request.identity).rest =
      (trimWhitespace uri, blank'' ++ paramsText params) := by
    rw [hidentity, rest_identityText hdigest]
    exact identityInfo_text (fun c hc => hblanks c (by simp [hc]))
      (fun c hc => hblanks c (by simp [hc])) huri
  have hblank'' : ∀ c ∈ blank'', trims c = true := fun c hc => hblanks c (by simp [hc])
  rw [verifyPassport_eq_ok_of_other (Or.inr rfl),
    checkClaims_eq_badPpt_iff hfresh hform hinfo hne hvalid,
    checkPpt_paramsText hparams hblank'']
  cases (params.drop 1).any isBadPpt <;> simp

/-- A second parameter that says ppt=foo. -/
theorem ppt_checked_second :
    verifyPassport sampleLibrary 60 1614060380
        ⟨Dynamic.text "aGVhZA.cGF5.c2ln;info=<http://asipto.lab>;alg=ES256;ppt=foo", [], [],
          1614060370⟩ = .ok BAD_PPT := by
  refine (@ppt_checked_iff sampleLibrary 60 1614060380 ⟨_, [], [], 1614060370⟩
    (Dynamic.text "aGVhZA.cGF5.c2ln") [] [] (Dynamic.text "http://asipto.lab") []
    [(Dynamic.text "alg", Dynamic.text "ES256"), (Dynamic.text "ppt", Dynamic.text "foo")]
    rfl (by simp [Close]) ?_ ?_ (by simp) ?_ ?_ rfl ?_).mpr (Or.inr ?_) ?_
  · decide
  · decide
  · decide
  · decide
  · simp [Separated, Dynamic.text]
  · decide
  · decide

/-- **A first parameter is not looked at**: what passes alone passes with one appended. -/
theorem passed_with_param {lib : Library} {toDouble : ℤ → ℤ → Option ℚ}
    (hlib : lib.Lawful toDouble) {validIatPeriod : UInt32} {now time : UInt64} {m : SigningRequest}
    {p : Text × Text} (hp : Separated [p])
    (h : verifyPassport lib validIatPeriod now (requestOf lib m time) = .ok passed) :
    verifyPassport lib validIatPeriod now
      ⟨makePassport lib m ++ paramsText [p], m.dest, m.orig, time⟩ = .ok passed := by
  obtain ⟨header, payload, sig, hcheck, hsig⟩ := verifyPassport_eq_passed_iff.mp h
  obtain ⟨htexts, hclose, hform, info, rest, hinfo, hne, huri, -, hheader, hpayload⟩ :=
    checkClaims_eq_ok_iff.mp hcheck
  change identityInfo (splitIdentity (makePassport lib m)).rest = (info, rest) at hinfo
  rw [splitIdentity_makePassport hlib, identityInfo_x5u] at hinfo
  cases hinfo
  have hsplit : splitIdentity (makePassport lib m ++ paramsText [p]) =
      { splitIdentity (makePassport lib m) with
        rest := Dynamic.text "info=" ++ ('<' :: (x5u ++ '>' :: paramsText [p])) } := by
    rw [splitIdentity_makePassport hlib, ← splitIdentity_passport hlib, makePassport]
    simp [Dynamic.text]
  have htextsOf : textsOf lib (makePassport lib m ++ paramsText [p]) =
      textsOf lib (makePassport lib m) := by
    rw [textsOf, hsplit]
    rfl
  have hinfo : identityInfo (splitIdentity (makePassport lib m ++ paramsText [p])).rest =
      (x5u, [] ++ paramsText [p]) := by
    rw [hsplit]
    exact @identityInfo_text [] [] x5u _ (by simp) (by simp) (by decide)
  obtain ⟨payloadValue, hparse, hclaims⟩ := hpayload
  refine verifyPassport_eq_passed_iff.mpr ⟨header, payload, sig, checkClaims_eq_ok_iff.mpr
    ⟨htexts.trans htextsOf.symm, hclose, ?_, x5u, _, hinfo, hne, huri,
      checkPpt_paramsText hp (by simp), ?_, payloadValue, ?_, ?_⟩, hsig⟩
  · rw [hsplit]
    exact hform
  · rw [htextsOf]
    exact hheader
  · rw [htextsOf]
    exact hparse
  · exact ⟨hclaims.dest, hclaims.orig, hclaims.attest, hclaims.origid, hclaims.iat⟩

/-- The passport of a call, with ppt=foo behind its info parameter, passes. -/
theorem first_ppt_passes :
    isBadPpt (Dynamic.text "ppt", Dynamic.text "foo") = true ∧
      Close 60 1614060370 1614060380 ∧
      isFullForm (digestOf (makePassport sampleLibrary oneCall ++ Dynamic.text ";ppt=foo")) = true ∧
      verifyPassport sampleLibrary 60 1614060380
        ⟨makePassport sampleLibrary oneCall ++ Dynamic.text ";ppt=foo", oneCall.dest, oneCall.orig,
          1614060370⟩ = .ok ⟨0, TN_VALIDATION_PASSED, "", ""⟩ := by
  refine ⟨by decide, by simp [Close], ?_, ?_⟩
  · decide +kernel
  · refine passed_with_param (p := (Dynamic.text "ppt", Dynamic.text "foo")) lawful_sampleLibrary
      ?_ passed_oneCall
    simp [Separated, Dynamic.text]

end CallFwd.Stir
