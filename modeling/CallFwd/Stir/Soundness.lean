/-
# What a verified identity is

"Passed" and "Failed" come only from the last line of `verifyPassport`, where all claims have been
checked; every other response is "No-TN-Validation" with a reason.  The claims are read from two
texts, and the signature is checked over the encodings of these same texts.
-/
import CallFwd.Stir.RoundTrip

namespace CallFwd.Stir

/-! ## 1. The info parameter -/

/-- **The identity carries an info URI**: it is the first parameter behind the digest, in pointed
brackets of which the closing one may be missing at the end. -/
def Carries (identity info : Text) : Prop :=
  ∃ digest blank blank' uri rest : Text,
    identity = digest ++ ';' :: (blank ++ (Dynamic.text "info=" ++ (blank' ++
      '<' :: (uri ++ rest)))) ∧
    ';' ∉ digest ∧ (∀ c ∈ blank ++ blank', trims c = true) ∧ '>' ∉ uri ∧
    (rest = [] ∨ rest.head? = some '>') ∧ info = trimWhitespace uri

theorem ltrimWhitespace_spec (s : Text) :
    ∃ blank, s = blank ++ ltrimWhitespace s ∧ ∀ c ∈ blank, trims c = true :=
  ⟨s.takeWhile trims, List.takeWhile_append_dropWhile.symm, fun _ => List.mem_takeWhile_imp⟩

/-- What `identityInfo` finds stands where it ought to. -/
theorem identityInfo_spec {identity info rest : Text} (h : identityInfo identity = (info, rest))
    (hne : info ≠ []) :
    ∃ blank blank' uri rest' : Text,
      identity = blank ++ (Dynamic.text "info=" ++ (blank' ++ '<' :: (uri ++ rest'))) ∧
      (∀ c ∈ blank ++ blank', trims c = true) ∧ '>' ∉ uri ∧
      (rest' = [] ∨ rest'.head? = some '>') ∧ info = trimWhitespace uri := by
  obtain ⟨blank, hblank, htrims⟩ := ltrimWhitespace_spec identity
  obtain ⟨-, hname⟩ := splitStep_spec '=' (ltrimWhitespace identity)
  unfold identityInfo at h
  simp only at h
  split at h
  · rename_i heq
    rw [heq] at hname
    split at h
    · rename_i v hv
      obtain ⟨huri, hrest⟩ := splitStep_spec '>' v
      obtain ⟨blank', hblank', htrims'⟩ :=
        ltrimWhitespace_spec (splitStep '=' (ltrimWhitespace identity)).2
      rw [hv] at hblank'
      cases h
      have hwhole : ltrimWhitespace identity =
          Dynamic.text "info=" ++ (splitStep '=' (ltrimWhitespace identity)).2 := by
        rcases hname with hname | ⟨-, hnil⟩
        · exact hname
        · rw [hnil] at hblank'
          simp at hblank'
      have hall : ∀ c ∈ blank ++ blank', trims c = true := by
        intro c hc
        rcases List.mem_append.mp hc with hc | hc
        · exact htrims c hc
        · exact htrims' c hc
      rcases hrest with hrest | ⟨hrest, -⟩
      · refine ⟨blank, blank', (splitStep '>' v).1, '>' :: (splitStep '>' v).2, ?_, hall, huri,
          Or.inr rfl, rfl⟩
        rw [← hrest, ← hblank', ← hwhole, ← hblank]
      · refine ⟨blank, blank', (splitStep '>' v).1, [], ?_, hall, huri, Or.inl rfl, rfl⟩
        rw [List.append_nil, ← hrest, ← hblank', ← hwhole, ← hblank]
    · cases h
      exact absurd rfl hne
  · cases h
    exact absurd rfl hne

theorem carries_of_identityInfo {identity info rest : Text}
    (h : identityInfo (splitIdentity identity).rest = (info, rest)) (hne : info ≠ []) :
    Carries identity info := by
  obtain ⟨blank, blank', uri, rest', hrest, hblanks, huri, hend, hinfo⟩ := identityInfo_spec h hne
  obtain ⟨hdigest, hsplit⟩ := splitStep_spec ';' identity
  have hsame : (splitIdentity identity).rest = (splitStep ';' identity).2 := rfl
  rw [hsame] at hrest
  rcases hsplit with hsplit | ⟨-, hnil⟩
  · refine ⟨(splitStep ';' identity).1, blank, blank', uri, rest', ?_, hdigest, hblanks, huri, hend,
      hinfo⟩
    rw [← hrest]
    exact hsplit
  · rw [hnil] at hrest
    simp [Dynamic.text] at hrest

/-! ## 2. Soundness -/

/-- **All claims have been checked**: the time is fresh, the identity carries an info URI, and the
decoded header and payload say what they have to. -/
def ClaimsHold (lib : Library) (validIatPeriod : UInt32) (now : UInt64)
    (request : VerificationRequest) : Prop :=
  Close validIatPeriod now.toNat request.time.toNat ∧
  ∃ info, Carries request.identity info ∧ info ≠ [] ∧ lib.uri info = .ok () ∧
    (∃ header, lib.parseJson (textsOf lib request.identity).1 = .ok header ∧
      header.isObject = true ∧ HeaderClaims header info) ∧
    ∃ payload, lib.parseJson (textsOf lib request.identity).2.1 = .ok payload ∧
      payload.isObject = true ∧ PayloadClaims validIatPeriod request payload

/-- **The signature holds**: 64 bytes, valid over the encoding of the very texts the claims were
read from. -/
def SignatureHolds (lib : Library) (identity : Text) : Prop :=
  let (headerText, payloadText, sigbuf) := textsOf lib identity
  sigbuf.length = 64 ∧
    lib.doVerify (lib.sha256 (lib.urlEncode headerText ++ '.' :: lib.urlEncode payloadText))
      (bin2bn (sigbuf.take 32), bin2bn (sigbuf.drop 32)) = true

section Soundness

variable {lib : Library} {validIatPeriod : UInt32} {now : UInt64} {request : VerificationRequest}

theorem claimsHold_of_checkClaims {texts : Text × Text × Text}
    (h : checkClaims lib validIatPeriod now request = .ok texts) :
    texts = textsOf lib request.identity ∧ ClaimsHold lib validIatPeriod now request := by
  obtain ⟨htexts, hclose, -, info, rest, hsplit, hinfo, huri, -, ⟨header, hheader, hclaims⟩,
    payload, hpayload, hclaims'⟩ := checkClaims_eq_ok_iff.mp h
  obtain ⟨n, hiat, -⟩ := hclaims'.iat
  refine ⟨htexts, ?_, info, carries_of_identityInfo hsplit hinfo, hinfo, huri,
    ⟨header, hheader, Dynamic.isObject_of_getPtr hclaims.typ, hclaims⟩, payload, hpayload,
    Dynamic.isObject_of_getPtr hiat, hclaims'⟩
  rw [Close, abs_sub_comm]
  exact hclose

/-- The code's check of a signature, if one of another length does not verify. -/
theorem verifySignature_iff (hzero : ∀ digest, lib.doVerify digest (0, 0) = false)
    (identity : Text) :
    verifySignature lib (textsOf lib identity).1 (textsOf lib identity).2.1
      (textsOf lib identity).2.2 = true ↔ SignatureHolds lib identity := by
  unfold verifySignature signatureOf SignatureHolds
  by_cases hlen : (textsOf lib identity).2.2.length = 64
  · rw [if_pos hlen]
    exact ⟨fun h => ⟨hlen, h⟩, fun h => h.2⟩
  · rw [if_neg hlen, hzero]
    simp only [Bool.false_eq_true, false_iff]
    intro h
    exact hlen h.1

/-- The three ends of a verification. -/
theorem verifyPassport_cases (hzero : ∀ digest, lib.doVerify digest (0, 0) = false)
    {r : VerificationResponse} (h : verifyPassport lib validIatPeriod now request = .ok r) :
    (r.verStat = TN_VALIDATION_PASSED ∧ ClaimsHold lib validIatPeriod now request ∧
      SignatureHolds lib request.identity) ∨
    (r.verStat = TN_VALIDATION_FAILED ∧ ClaimsHold lib validIatPeriod now request ∧
      ¬ SignatureHolds lib request.identity) ∨ Refused r := by
  unfold verifyPassport at h
  split at h
  · cases h
  · rename_i r' hcheck
    cases h
    exact Or.inr (Or.inr (checkClaims_refuses r hcheck))
  · rename_i headerText payloadText sigbuf hcheck
    obtain ⟨htexts, hclaims⟩ := claimsHold_of_checkClaims hcheck
    have hsig := verifySignature_iff hzero request.identity
    rw [← htexts] at hsig
    split at h
    · rename_i hverified
      cases h
      exact Or.inl ⟨rfl, hclaims, hsig.mp hverified⟩
    · rename_i hverified
      cases h
      exact Or.inr (Or.inl ⟨rfl, hclaims, fun hholds => hverified (hsig.mpr hholds)⟩)

end Soundness

/-- **Verification is sound.**  "Passed" is returned only if all claims and the signature hold;
"Failed" only if all claims hold and the signature does not; and every other response is
"No-TN-Validation" with a reason. -/
theorem verification_sound (lib : Library) (hzero : ∀ digest, lib.doVerify digest (0, 0) = false)
    (validIatPeriod : UInt32) (now : UInt64) (request : VerificationRequest)
    (r : VerificationResponse) (h : verifyPassport lib validIatPeriod now request = .ok r) :
    (r.verStat = TN_VALIDATION_PASSED →
      ClaimsHold lib validIatPeriod now request ∧ SignatureHolds lib request.identity) ∧
    (r.verStat = TN_VALIDATION_FAILED →
      ClaimsHold lib validIatPeriod now request ∧ ¬ SignatureHolds lib request.identity) ∧
    (r.verStat ≠ TN_VALIDATION_PASSED → r.verStat ≠ TN_VALIDATION_FAILED →
      r.verStat = NO_TN_VALIDATION ∧ r.reasonCode ≠ 0) := by
  rcases verifyPassport_cases hzero h with ⟨hstat, hholds⟩ | ⟨hstat, hholds⟩ | hrefused
  · refine ⟨fun _ => hholds, fun hfailed => ?_, fun hne => absurd hstat hne⟩
    exact absurd (hstat.symm.trans hfailed) (by decide)
  · refine ⟨fun hpassed => ?_, fun _ => hholds, fun _ hne => absurd hstat hne⟩
    exact absurd (hstat.symm.trans hpassed) (by decide)
  · refine ⟨?_, ?_, fun _ _ => hrefused⟩
    · intro hpassed
      exact absurd (hrefused.1.symm.trans hpassed) (by decide)
    · intro hfailed
      exact absurd (hrefused.1.symm.trans hfailed) (by decide)

theorem verification_sound_oneCall :
    verifyPassport sampleLibrary 60 1614060380 (requestOf sampleLibrary oneCall 1614060370) =
        .ok passed ∧
      ClaimsHold sampleLibrary 60 1614060380 (requestOf sampleLibrary oneCall 1614060370) ∧
      SignatureHolds sampleLibrary (makePassport sampleLibrary oneCall) := by
  have hzero : ∀ digest, sampleLibrary.doVerify digest (0, 0) = false := by
    intro digest
    simp [sampleLibrary]
  exact ⟨passed_oneCall,
    (verification_sound sampleLibrary hzero 60 1614060380 _ passed passed_oneCall).1 rfl⟩

end CallFwd.Stir
