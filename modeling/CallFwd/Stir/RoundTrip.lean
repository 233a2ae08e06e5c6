/-
# Signing, then verifying

The signer sorts the destinations and the verifier compares them as they stand in its request; and
what the signer formats is read back by a parser.  `passed_iff_sorted` says for which requests the
two agree: the destinations are sorted already, no string holds a NUL byte (`Stir/Payload`), and
`iat` is an integer of the parser, which has 64 bits with a sign.

What is assumed of the functions that are not here is `Library.Lawful`.
-/
import CallFwd.Stir.Stages
import CallFwd.Stir.Payload
import CallFwd.Lib.Base64

namespace CallFwd

open Lib

/-! ## 1. What is assumed of the library -/

namespace Dynamic

mutual

/-- The value `folly::parseJson` makes of a JSON text.  An integer that does not fit is refused with
an exception of its own, a repeated member replaces the earlier one, and `toDouble` rounds. -/
def ofJson (toDouble : ℤ → ℤ → Option ℚ) : Json → Except Stop Dynamic
  | .null => .ok .null
  | .bool b => .ok (.bool b)
  | .int n =>
    if -(2 ^ 63) ≤ n ∧ n < 2 ^ 63 then .ok (.int (Int64.ofInt n))
    else .error (.exn .conversionError)
  | .decimal mantissa exponent => .ok (.double (toDouble mantissa exponent))
  | .str s => .ok (.string s)
  | .arr elems => (ofElements toDouble elems).map .array
  | .obj members => (ofMembers toDouble members).map .object

def ofElements (toDouble : ℤ → ℤ → Option ℚ) : List Json → Except Stop (List Dynamic)
  | [] => .ok []
  | j :: js => do
    let d ← ofJson toDouble j
    let ds ← ofElements toDouble js
    return d :: ds

def ofMembers (toDouble : ℤ → ℤ → Option ℚ) :
    List (Text × Json) → Except Stop (List (Text × Dynamic))
  | [] => .ok []
  | (name, j) :: ms => do
    let d ← ofJson toDouble j
    let ds ← ofMembers toDouble ms
    return if ds.any fun m => m.1 == name then ds else (name, d) :: ds

end

theorem ofElements_strings (toDouble : ℤ → ℤ → Option ℚ) (ss : List Text) :
    ofElements toDouble (ss.map .str) = .ok (ss.map .string) := by
  induction ss with
  | nil => rfl
  | cons s ss ih =>
    rw [List.map_cons, ofElements, ih]
    rfl

end Dynamic

namespace Stir

/-- **The library does what its documentation says.** -/
structure Library.Lawful (lib : Library) (toDouble : ℤ → ℤ → Option ℚ) : Prop where
  urlDecode_urlEncode : ∀ t, Base64.Bytes t → lib.urlDecode (lib.urlEncode t) = t
  inAlphabet : ∀ t, ∀ c ∈ lib.urlEncode t, Base64.InAlphabet c
  parseJson_eq : ∀ t, lib.parseJson t =
    match Json.parse t with
    | some j => Dynamic.ofJson toDouble j
    | none => .error (.exn .parseError)
  uri_x5u : lib.uri x5u = .ok ()
  /-- `BN_num_bytes(..) <= 32`, as the signer asserts. -/
  doSign_lt : ∀ digest, (lib.doSign digest).1 < 256 ^ 32 ∧ (lib.doSign digest).2 < 256 ^ 32
  doVerify_doSign : ∀ digest, lib.doVerify digest (lib.doSign digest) = true

/-! ## 2. The bytes of a signature -/

theorem length_bn2binpad (width n : ℕ) : (bn2binpad width n).length = width := by
  induction width generalizing n with
  | zero => rfl
  | succ width ih => rw [bn2binpad, List.length_append, ih, List.length_singleton]

theorem toNat_byte (n : ℕ) : (Char.ofNat (n % 256)).toNat = n % 256 := by
  have hlt : n % 256 < 256 := Nat.mod_lt _ (by decide)
  have hvalid : (n % 256).isValidChar := Or.inl (by omega)
  rw [Char.ofNat, dif_pos hvalid]
  rfl

/-- Each place is a byte. -/
theorem bytes_bn2binpad (width n : ℕ) : Base64.Bytes (bn2binpad width n) := by
  induction width generalizing n with
  | zero =>
    intro c hc
    cases hc
  | succ width ih =>
    intro c hc
    rcases List.mem_append.mp hc with hc | hc
    · exact ih _ c hc
    · rw [List.mem_singleton.mp hc, toNat_byte]
      exact Nat.mod_lt _ (by decide)

/-- A number that fits is read back. -/
theorem bin2bn_bn2binpad {width n : ℕ} (h : n < 256 ^ width) :
    bin2bn (bn2binpad width n) = n := by
  induction width generalizing n with
  | zero =>
    rw [Nat.pow_zero, Nat.lt_one_iff] at h
    rw [h]
    rfl
  | succ width ih =>
    have hdiv : n / 256 < 256 ^ width := Nat.div_lt_of_lt_mul (by rwa [← Nat.pow_succ'])
    have hlast : bin2bn (bn2binpad (width + 1) n) =
        bin2bn (bn2binpad width (n / 256)) * 256 + (Char.ofNat (n % 256)).toNat := by
      rw [bn2binpad, bin2bn, List.foldl_append]
      rfl
    rw [hlast, ih hdiv, toNat_byte]
    exact Nat.div_add_mod' n 256

theorem bytes_sigbuf (sig : ℕ × ℕ) : Base64.Bytes (sigbuf sig) := by
  intro c hc
  rcases List.mem_append.mp hc with hc | hc
  · exact bytes_bn2binpad _ _ c hc
  · exact bytes_bn2binpad _ _ c hc

/-- The two numbers of a signature are read back from its 64 bytes. -/
theorem signatureOf_sigbuf {sig : ℕ × ℕ} (hr : sig.1 < 256 ^ 32) (hs : sig.2 < 256 ^ 32) :
    signatureOf (sigbuf sig) = sig := by
  have hlength : (sigbuf sig).length = 64 := by
    rw [sigbuf, List.length_append, length_bn2binpad, length_bn2binpad]
  rw [signatureOf, if_pos hlength, sigbuf, List.take_left' (length_bn2binpad 32 _),
    List.drop_left' (length_bn2binpad 32 _), bin2bn_bn2binpad hr, bin2bn_bn2binpad hs]

/-! ## 3. A passport, taken apart -/

/-- No character of an encoding is looked for or trimmed. -/
theorem of_inAlphabet {c : Char} (h : Base64.InAlphabet c) :
    c ≠ '.' ∧ c ≠ ';' ∧ trims c = false := by
  have hne : ∀ d : Char, d.isAlphanum = false → d ≠ '-' → d ≠ '_' → d ≠ '=' → c ≠ d := by
    rintro d hd h1 h2 h3 rfl
    rcases h with h | h | h | h
    · rw [hd] at h
      cases h
    · exact h1 h
    · exact h2 h
    · exact h3 h
  refine ⟨hne '.' (by decide) (by decide) (by decide) (by decide),
    hne ';' (by decide) (by decide) (by decide) (by decide), ?_⟩
  simp only [trims, Bool.or_eq_false_iff, beq_eq_false_iff_ne]
  refine ⟨⟨⟨?_, ?_⟩, ?_⟩, ?_⟩
  all_goals exact hne _ (by decide) (by decide) (by decide) (by decide)

section Taken

variable {lib : Library} {toDouble : ℤ → ℤ → Option ℚ}

/-- No portion holds a separator, so a passport is cut where it was put together. -/
theorem splitIdentity_passport (hlib : lib.Lawful toDouble) (header payload sig rest : Text) :
    splitIdentity (signingString lib header payload ++ '.' :: lib.urlEncode sig ++ ';' :: rest) =
      ⟨lib.urlEncode header, lib.urlEncode payload, lib.urlEncode sig, rest⟩ := by
  have hof : ∀ t, ∀ c ∈ lib.urlEncode t, c ≠ '.' ∧ c ≠ ';' ∧ trims c = false :=
    fun t c hc => of_inAlphabet (hlib.inAlphabet t c hc)
  have hdot : ∀ t, '.' ∉ lib.urlEncode t := fun t hc => (hof t _ hc).1 rfl
  have hall : ∀ c ∈ signingString lib header payload ++ '.' :: lib.urlEncode sig,
      c ≠ ';' ∧ trims c = false := by
    intro c hc
    simp only [signingString, List.mem_append, List.mem_cons] at hc
    rcases hc with (hc | rfl | hc) | rfl | hc
    · exact (hof _ c hc).2
    · decide
    · exact (hof _ c hc).2
    · decide
    · exact (hof _ c hc).2
  have htrim : trimWhitespace (signingString lib header payload ++ '.' :: lib.urlEncode sig) =
      signingString lib header payload ++ '.' :: lib.urlEncode sig :=
    trimWhitespace_eq_self (fun c hc => (hall c (List.mem_of_mem_head? hc)).2)
      (fun c hc => (hall c (List.mem_of_mem_getLast? hc)).2)
  rw [splitIdentity, splitStep_append rest fun hc => (hall _ hc).1 rfl]
  simp only [htrim]
  simp only [signingString, List.append_assoc, List.cons_append, splitStep_append _ (hdot header),
    splitStep_append _ (hdot payload)]

/-- The passport of a request: its portions, and the info parameter. -/
theorem splitIdentity_makePassport (hlib : lib.Lawful toDouble) (m : SigningRequest) :
    splitIdentity (makePassport lib m) =
      ⟨lib.urlEncode headerText, lib.urlEncode (payloadText m),
        lib.urlEncode (sigbuf (lib.doSign (lib.sha256
          (signingString lib headerText (payloadText m))))),
        Dynamic.text "info=<" ++ x5u ++ ['>']⟩ := by
  rw [← splitIdentity_passport hlib, makePassport]
  simp [Dynamic.text]

theorem identityInfo_x5u : identityInfo (Dynamic.text "info=<" ++ x5u ++ ['>']) = (x5u, []) := by
  decide

theorem bytes_headerText : Base64.Bytes headerText := Base64.bytes_of_all (by decide)

/-- The header as JSON. -/
def headerJson : Json :=
  .obj [(Dynamic.text "alg", .str (Dynamic.text "ES256")),
    (Dynamic.text "ppt", .str (Dynamic.text "shaken")),
    (Dynamic.text "typ", .str (Dynamic.text "passport")), (Dynamic.text "x5u", .str x5u)]

theorem value_headerText (fuel : ℕ) :
    Json.value (fuel + 6) headerText = some (headerJson, []) := by
  have htext : headerText = '\x7b' :: '\x22' :: (Dynamic.text "alg" ++ '\x22' :: ':' ::
      '\x22' :: (Dynamic.text "ES256" ++ '\x22' :: ',' ::
      '\x22' :: (Dynamic.text "ppt" ++ '\x22' :: ':' ::
      '\x22' :: (Dynamic.text "shaken" ++ '\x22' :: ',' ::
      '\x22' :: (Dynamic.text "typ" ++ '\x22' :: ':' ::
      '\x22' :: (Dynamic.text "passport" ++ '\x22' :: ',' ::
      '\x22' :: (Dynamic.text "x5u" ++ '\x22' :: ':' ::
      '\x22' :: (x5u ++ '\x22' :: '\x7d' :: [])))))))) := by
    simp [headerText, Dynamic.text]
  have hx5u : Json.Plain x5u := plain_text (by decide)
  rw [htext]
  refine Json.value_obj ?_
  rw [Json.members_cons (plain_text (by decide)) (Json.value_str (plain_text (by decide)) _),
    Json.members_cons (plain_text (by decide)) (Json.value_str (plain_text (by decide)) _),
    Json.members_cons (plain_text (by decide)) (Json.value_str (plain_text (by decide)) _),
    Json.members_last (plain_text (by decide)) (Json.value_str hx5u _)]
  rfl

theorem parse_headerText : Json.parse headerText = some headerJson := by
  have hlength : headerText.length = 87 := by simp [headerText, x5u, Dynamic.text]
  rw [Json.parse, hlength, value_headerText 82]
  rfl

theorem headerClaims_headerJson :
    ∃ header, Dynamic.ofJson toDouble headerJson = .ok header ∧ HeaderClaims header x5u :=
  ⟨_, rfl, rfl, rfl, rfl, rfl⟩

theorem bytes_of_isTokenChar {c : Char} (h : IsTokenChar c ∨ c = '\x00') : c.toNat < 256 := by
  rcases h with (h | rfl | h) | rfl
  · have hall : ∀ d ∈ Dynamic.text "0123456789*#+.-()", d.toNat < 256 := by simp [Dynamic.text]
    exact hall c h
  · decide
  · have := isHexDigit_bounds h
    omega
  · decide

/-- The payload of a valid request is a text of bytes. -/
theorem bytes_payloadText {m : SigningRequest} (h : m.validate = none)
    (horigid : Base64.Bytes m.origid) : Base64.Bytes (payloadText m) := by
  obtain ⟨hattest, -, -, horig, hdest⟩ := SigningRequest.validate_eq_none_iff.mp h
  have htn : ∀ tn, validateTN tn = true → Base64.Bytes tn :=
    fun tn htn c hc => bytes_of_isTokenChar (isTokenChar_of_validateTN htn c hc)
  have happend : ∀ {a b : Text}, Base64.Bytes a → Base64.Bytes b → Base64.Bytes (a ++ b) :=
    fun ha hb c hc => (List.mem_append.mp hc).elim (ha c) (hb c)
  have hattest : Base64.Bytes m.attest := by
    rcases hattest with e | e | e
    all_goals
      rw [e]
      exact Base64.bytes_of_all (by decide)
  have hdest : Base64.Bytes ((Dynamic.text "\",\"").intercalate (sortedDest m)) := by
    intro c hc
    rcases of_mem_intercalate hc with hc | ⟨tn, htns, hc⟩
    · have hsep : Base64.Bytes (Dynamic.text "\",\"") := Base64.bytes_of_all (by decide)
      exact hsep c hc
    · exact htn tn (hdest tn ((List.mem_insertionSort _).mp htns)) c hc
  have hiat : Base64.Bytes (printUint64 m.iat) := by
    intro c hc
    have := digit_bounds (isDigit_of_mem_printUint64 hc)
    omega
  unfold payloadText
  refine happend (happend (happend (happend (happend (happend (happend (happend (happend (happend
    ?_ hattest) ?_) hdest) ?_) hiat) ?_) (htn _ horig)) ?_) horigid) ?_
  all_goals exact Base64.bytes_of_all (by decide)

/-- The payload as the verifier reads it. -/
def payloadDynamic (m : SigningRequest) : Dynamic :=
  .object [(Dynamic.text "attest", .string m.attest),
    (Dynamic.text "dest", .object [(Dynamic.text "tn", .array ((sortedDest m).map .string))]),
    (Dynamic.text "iat", .int (Int64.ofInt m.iat.toNat)),
    (Dynamic.text "orig", .object [(Dynamic.text "tn", .string m.orig)]),
    (Dynamic.text "origid", .string m.origid)]

/-- `parseJson` refuses a time that is no `int64`, and nothing else of what was requested. -/
theorem ofJson_requested_eq_ok_iff {m : SigningRequest} {payload : Dynamic} :
    Dynamic.ofJson toDouble (requested m) = .ok payload ↔
      m.iat.toNat < 2 ^ 63 ∧ payload = payloadDynamic m := by
  have hdest : Dynamic.ofElements toDouble ((sortedDest m).map .str) =
      .ok ((sortedDest m).map .string) := Dynamic.ofElements_strings toDouble _
  by_cases hiat : m.iat.toNat < 2 ^ 63
  · have hint : Dynamic.ofJson toDouble (.int m.iat.toNat) =
        .ok (.int (Int64.ofInt m.iat.toNat)) := by
      rw [Dynamic.ofJson, if_pos (by omega)]
    have hvalue : Dynamic.ofJson toDouble (requested m) = .ok (payloadDynamic m) := by
      simp only [requested, Dynamic.ofJson, Dynamic.ofMembers, hdest] at hint ⊢
      rw [hint]
      rfl
    rw [hvalue, Except.ok.injEq]
    exact ⟨fun h => ⟨hiat, h.symm⟩, fun h => h.2.symm⟩
  · have hint : Dynamic.ofJson toDouble (.int m.iat.toNat) = .error (.exn .conversionError) := by
      rw [Dynamic.ofJson, if_neg (by omega)]
    have hvalue : Dynamic.ofJson toDouble (requested m) = .error (.exn .conversionError) := by
      simp only [requested, Dynamic.ofJson, Dynamic.ofMembers, hdest] at hint ⊢
      rw [hint]
      rfl
    rw [hvalue]
    exact ⟨fun h => (by cases h), fun h => absurd h.1 hiat⟩

end Taken

/-! ## 4. When the verifier accepts -/

/-- The response to an identity that holds. -/
def passed : VerificationResponse := ⟨0, TN_VALIDATION_PASSED, "", ""⟩

/-- What is asked about a passport: the numbers it was made for. -/
def requestOf (lib : Library) (m : SigningRequest) (time : UInt64) : VerificationRequest :=
  ⟨makePassport lib m, m.dest, m.orig, time⟩

section Verified

variable {lib : Library} {toDouble : ℤ → ℤ → Option ℚ} {validIatPeriod : UInt32}
variable {now time : UInt64} {m : SigningRequest}

/-- Only the last branch passes, and only with no check against it. -/
theorem verifyPassport_eq_passed_iff {request : VerificationRequest} :
    verifyPassport lib validIatPeriod now request = .ok passed ↔
      ∃ header payload sig,
        checkClaims lib validIatPeriod now request = .ok (header, payload, sig) ∧
          verifySignature lib header payload sig = true := by
  unfold verifyPassport
  constructor
  · intro h
    split at h
    · cases h
    · rename_i r hcheck
      cases h
      exact absurd (checkClaims_refuses _ hcheck).2 (by decide)
    · rename_i header payload sig hcheck
      split at h
      · rename_i hsig
        exact ⟨header, payload, sig, hcheck, hsig⟩
      · simp [passed] at h
  · rintro ⟨header, payload, sig, hcheck, hsig⟩
    rw [hcheck]
    exact if_pos hsig

/-- The verifier decodes the texts that were signed. -/
theorem textsOf_makePassport (hlib : lib.Lawful toDouble)
    (hbytes : Base64.Bytes (payloadText m)) :
    textsOf lib (makePassport lib m) = (headerText, payloadText m,
      sigbuf (lib.doSign (lib.sha256 (signingString lib headerText (payloadText m))))) := by
  simp only [textsOf, splitIdentity_makePassport hlib]
  rw [hlib.urlDecode_urlEncode _ bytes_headerText, hlib.urlDecode_urlEncode _ hbytes,
    hlib.urlDecode_urlEncode _ (bytes_sigbuf _)]

/-- It encodes them again, to the text that was signed. -/
theorem verifySignature_makePassport (hlib : lib.Lawful toDouble) (header payload : Text) :
    verifySignature lib header payload
      (sigbuf (lib.doSign (lib.sha256 (signingString lib header payload)))) = true := by
  obtain ⟨hr, hs⟩ := hlib.doSign_lt (lib.sha256 (signingString lib header payload))
  rw [verifySignature, signatureOf_sigbuf hr hs]
  exact hlib.doVerify_doSign _

/-- Header and payload differ, so they are not both encoded as nothing. -/
theorem urlEncode_ne_nil (hlib : lib.Lawful toDouble) (hbytes : Base64.Bytes (payloadText m)) :
    ¬ (lib.urlEncode headerText = [] ∧ lib.urlEncode (payloadText m) = []) := by
  rintro ⟨hheader, hpayload⟩
  have hsame : headerText = payloadText m := by
    rw [← hlib.urlDecode_urlEncode _ bytes_headerText, hheader, ← hpayload,
      hlib.urlDecode_urlEncode _ hbytes]
  have hfourth := congrArg (fun t : Text => t[3]?) hsame
  simp [headerText, payloadText, Dynamic.text] at hfourth

/-- All that is left of the checks is that of the payload. -/
theorem verifyPassport_requestOf_iff (hlib : lib.Lawful toDouble)
    (hbytes : Base64.Bytes (payloadText m))
    (hnow : Close validIatPeriod now.toNat time.toNat) :
    verifyPassport lib validIatPeriod now (requestOf lib m time) = .ok passed ↔
      ∃ payload, lib.parseJson (payloadText m) = .ok payload ∧
        PayloadClaims validIatPeriod (requestOf lib m time) payload := by
  have htexts := textsOf_makePassport hlib hbytes
  rw [verifyPassport_eq_passed_iff]
  constructor
  · rintro ⟨header, payload, sig, hcheck, -⟩
    obtain ⟨-, -, -, info, rest, -, -, -, -, -, hpayload⟩ := checkClaims_eq_ok_iff.mp hcheck
    change ∃ p, lib.parseJson (textsOf lib (makePassport lib m)).2.1 = .ok p ∧ _ at hpayload
    rwa [htexts] at hpayload
  · intro hpayload
    refine ⟨_, _, _, checkClaims_eq_ok_iff.mpr ⟨htexts.symm, ?_, ?_, x5u, [], ?_, by decide,
      hlib.uri_x5u, checkPpt_nil, ?_, ?_⟩, verifySignature_makePassport hlib _ _⟩
    · rw [Close, abs_sub_comm]
      exact hnow
    · change ¬ ((splitIdentity (makePassport lib m)).header = [] ∧
        (splitIdentity (makePassport lib m)).payload = [])
      rw [splitIdentity_makePassport hlib]
      exact urlEncode_ne_nil hlib hbytes
    · change identityInfo (splitIdentity (makePassport lib m)).rest = (x5u, [])
      rw [splitIdentity_makePassport hlib]
      exact identityInfo_x5u
    · change ∃ header, lib.parseJson (textsOf lib (makePassport lib m)).1 = .ok header ∧ _
      rw [htexts, hlib.parseJson_eq, parse_headerText]
      exact headerClaims_headerJson
    · change ∃ p, lib.parseJson (textsOf lib (makePassport lib m)).2.1 = .ok p ∧ _
      rw [htexts]
      exact hpayload

/-- The verifier compares the sorted destinations with those of the request. -/
theorem payloadClaims_payloadDynamic_iff (h : m.validate = none) (hlt : m.iat.toNat < 2 ^ 63)
    (hiat : Close validIatPeriod m.iat.toNat time.toNat) :
    PayloadClaims validIatPeriod (requestOf lib m time) (payloadDynamic m) ↔
      m.dest.Pairwise (· ≤ ·) := by
  obtain ⟨hattest, -⟩ := SigningRequest.validate_eq_none_iff.mp h
  constructor
  · rintro ⟨⟨dest, hdest, htn⟩, -, -, -, -⟩
    cases hdest
    have hstrings : (sortedDest m).map Dynamic.string = m.dest.map Dynamic.string := by
      simpa [Dynamic.getPtr, requestOf] using htn
    have hsorted : sortedDest m = m.dest :=
      List.map_injective_iff.mpr (fun _ _ => Dynamic.string.inj) hstrings
    rw [← hsorted]
    exact List.pairwise_insertionSort _ _
  · intro hsorted
    have hdest : sortedDest m = m.dest := hsorted.insertionSort_eq
    have hint : (Int64.ofInt m.iat.toNat).toInt = m.iat.toNat :=
      Int64.toInt_ofInt_of_le (by omega) (by omega)
    refine ⟨⟨_, rfl, ?_⟩, ⟨_, rfl, rfl⟩, ⟨m.attest, rfl, hattest⟩, ⟨_, rfl⟩, _, rfl, ?_, ?_⟩
    · rw [hdest]
      rfl
    · rw [hint]
      exact Int.natCast_nonneg _
    · rw [hint]
      exact hiat

/-- What the verifier accepts was sorted, has no NUL bytes and a time of 63 bits. -/
theorem of_passed (hlib : lib.Lawful toDouble) (h : m.validate = none)
    (hbytes : Base64.Bytes m.origid) (hnow : Close validIatPeriod now.toNat time.toNat)
    (hiat : Close validIatPeriod m.iat.toNat time.toNat)
    (hpassed : verifyPassport lib validIatPeriod now (requestOf lib m time) = .ok passed) :
    m.dest.Pairwise (· ≤ ·) ∧
      (NulFree m.orig ∧ (∀ tn ∈ m.dest, NulFree tn) ∧ NulFree m.origid) ∧
      m.iat.toNat < 2 ^ 63 := by
  obtain ⟨payload, hparse, hclaims⟩ :=
    (verifyPassport_requestOf_iff hlib (bytes_payloadText h hbytes) hnow).mp hpassed
  rw [hlib.parseJson_eq] at hparse
  split at hparse
  · rename_i j hj
    obtain ⟨horig, hdest, horigid⟩ := nulFree_of_parse hj
    rw [parse_of_nulFree h horig hdest horigid] at hj
    cases hj
    obtain ⟨hlt, rfl⟩ := ofJson_requested_eq_ok_iff.mp hparse
    exact ⟨(payloadClaims_payloadDynamic_iff h hlt hiat).mp hclaims, ⟨horig, hdest, horigid⟩, hlt⟩
  · cases hparse

/-- And all such requests are accepted. -/
theorem passed_of (hlib : lib.Lawful toDouble) (h : m.validate = none)
    (hnow : Close validIatPeriod now.toNat time.toNat)
    (hiat : Close validIatPeriod m.iat.toNat time.toNat) (hsorted : m.dest.Pairwise (· ≤ ·))
    (hnul : NulFree m.orig ∧ (∀ tn ∈ m.dest, NulFree tn) ∧ NulFree m.origid)
    (hlt : m.iat.toNat < 2 ^ 63) :
    verifyPassport lib validIatPeriod now (requestOf lib m time) = .ok passed := by
  obtain ⟨horig, hdest, horigid⟩ := hnul
  have huuid := (SigningRequest.validate_eq_none_iff.mp h).2.1
  have hbytes : Base64.Bytes m.origid :=
    fun c hc => bytes_of_isTokenChar (Or.inl (isTokenChar_of_uuidParse huuid horigid c hc))
  refine (verifyPassport_requestOf_iff hlib (bytes_payloadText h hbytes) hnow).mpr
    ⟨payloadDynamic m, ?_, (payloadClaims_payloadDynamic_iff h hlt hiat).mpr hsorted⟩
  rw [hlib.parseJson_eq, parse_of_nulFree h horig hdest horigid]
  exact ofJson_requested_eq_ok_iff.mpr ⟨hlt, rfl⟩

end Verified

/-- **What was signed verifies**, in time and for the numbers it was signed for, if and only if the
destinations were sorted already, no string holds a NUL byte and `iat` is below two to the 63rd. -/
theorem passed_iff_sorted (lib : Library) (toDouble : ℤ → ℤ → Option ℚ)
    (hlib : lib.Lawful toDouble) (validIatPeriod : UInt32) (now time : UInt64) (m : SigningRequest)
    (h : m.validate = none) (hbytes : Base64.Bytes m.origid)
    (hnow : Close validIatPeriod now.toNat time.toNat)
    (hiat : Close validIatPeriod m.iat.toNat time.toNat) :
    verifyPassport lib validIatPeriod now (requestOf lib m time) =
        .ok ⟨0, TN_VALIDATION_PASSED, "", ""⟩ ↔
      m.dest.Pairwise (· ≤ ·) ∧
        (NulFree m.orig ∧ (∀ tn ∈ m.dest, NulFree tn) ∧ NulFree m.origid) ∧
        m.iat.toNat < 2 ^ 63 :=
  ⟨of_passed hlib h hbytes hnow hiat,
    fun ⟨hsorted, hnul, hlt⟩ => passed_of hlib h hnow hiat hsorted hnul hlt⟩

/-! ## 5. A library to run it with -/

/-- The value of a decimal, not rounded. -/
def exactly (mantissa exponent : ℤ) : Option ℚ := some (mantissa * 10 ^ exponent)

/-- Base64 and JSON as they are; a digest is the last 32 bytes, and signs itself. -/
def sampleLibrary : Library where
  urlEncode := Base64.encode
  urlDecode t := (Base64.decode t).getD []
  parseJson t :=
    match Json.parse t with
    | some j => Dynamic.ofJson exactly j
    | none => .error (.exn .parseError)
  uri t :=
    if (Dynamic.text "http://").isPrefixOf t then .ok () else .error (.exn .invalidArgument)
  sha256 t := bn2binpad 32 (bin2bn t)
  doSign digest := (bin2bn digest % 256 ^ 32, 1)
  doVerify digest sig := decide (sig = (bin2bn digest % 256 ^ 32, 1))

theorem lawful_sampleLibrary : sampleLibrary.Lawful exactly where
  urlDecode_urlEncode t ht := by
    change (Base64.decode (Base64.encode t)).getD [] = t
    rw [Base64.decode_encode ht, Option.getD_some]
  inAlphabet t c hc := Base64.inAlphabet_of_mem_encode hc
  parseJson_eq t := rfl
  uri_x5u := rfl
  doSign_lt digest := ⟨Nat.mod_lt _ (by decide), show 1 < 256 ^ 32 by decide⟩
  doVerify_doSign digest := decide_eq_true rfl

theorem passed_oneCall :
    verifyPassport sampleLibrary 60 1614060380 (requestOf sampleLibrary oneCall 1614060370) =
      .ok passed := by
  refine passed_of lawful_sampleLibrary validate_oneCall ?_ ?_ ?_ ⟨?_, ?_, ?_⟩ ?_
  · simp [Close]
  · simp [Close, oneCall]
  · simp [oneCall]
  · simp [NulFree, oneCall, Dynamic.text]
  · simp [NulFree, oneCall, Dynamic.text]
  · simp [NulFree, oneCall, Dynamic.text]
  · decide

/-- The same call, to two destinations. -/
def callTo (first second : String) : SigningRequest :=
  { oneCall with dest := [Dynamic.text first, Dynamic.text second] }

theorem passed_two_sorted :
    (callTo "493055550000" "493055559999").validate = none ∧
      verifyPassport sampleLibrary 60 1614060380
        (requestOf sampleLibrary (callTo "493055550000" "493055559999") 1614060370) =
          .ok ⟨0, TN_VALIDATION_PASSED, "", ""⟩ := by
  have hvalid : (callTo "493055550000" "493055559999").validate = none := by decide
  refine ⟨hvalid, (passed_iff_sorted sampleLibrary exactly lawful_sampleLibrary 60 1614060380
    1614060370 _ hvalid ?_ ?_ ?_).mpr ⟨?_, ⟨?_, ?_, ?_⟩, ?_⟩⟩
  · exact Base64.bytes_of_all (by decide)
  · simp [Close]
  · simp [Close, callTo, oneCall]
  · decide
  · simp [NulFree, callTo, oneCall, Dynamic.text]
  · simp [NulFree, callTo, oneCall, Dynamic.text]
  · simp [NulFree, callTo, oneCall, Dynamic.text]
  · decide

/-- The destinations in the other order. -/
theorem not_passed_two_unsorted :
    (callTo "493055559999" "493055550000").validate = none ∧
      Close 60 1614060380 1614060370 ∧
      Close 60 (callTo "493055559999" "493055550000").iat.toNat 1614060370 ∧
      verifyPassport sampleLibrary 60 1614060380
        (requestOf sampleLibrary (callTo "493055559999" "493055550000") 1614060370) ≠
          .ok ⟨0, TN_VALIDATION_PASSED, "", ""⟩ := by
  have hvalid : (callTo "493055559999" "493055550000").validate = none := by decide
  have hnow : Close 60 (1614060380 : UInt64).toNat (1614060370 : UInt64).toNat := by simp [Close]
  have hiat : Close 60 (callTo "493055559999" "493055550000").iat.toNat
      (1614060370 : UInt64).toNat := by simp [Close, callTo, oneCall]
  refine ⟨hvalid, by simpa using hnow, by simpa using hiat, ?_⟩
  intro hpassed
  have hbytes : Base64.Bytes (callTo "493055559999" "493055550000").origid :=
    Base64.bytes_of_all (by decide)
  have hsorted := (of_passed lawful_sampleLibrary hvalid hbytes hnow hiat hpassed).1
  exact absurd hsorted (by decide)

end Stir

end CallFwd
