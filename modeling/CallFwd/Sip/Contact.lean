/-
# What a Contact line depends on

A redirect should be a function of the called number: the routing number of the number, from the US
table and else from the CA table, as `/target` reports it; and a user part that is no number "will
not be checked in DB" (README).  `handleInvite` keeps the second promise for the US table only.
Where `fromString` gives `NONE` the first lookup is skipped, and the second one, guarded by
`rn == NONE`, is made WITH THE KEY `NONE`.  A CA table may have a row with that key: the loader
takes every 64-bit number.

`sameContact_iff` compares the lines of two states of the tables.  The condition is on what the two
CA tables hold for `NONE`; the one other way to two equal lines is a user part that spells out the
answer of the other table.
-/
import CallFwd.Sip.Handler
import CallFwd.Http.Target

namespace CallFwd.Sip

open Lib Lib.Reader

/-! ## 1. The line of an INVITE -/

/-- The Contact line `handleInvite` puts out with the tables as they are, if it gets that far. -/
def contactLine (env : Env) (d : Datagram) (uri : SipUri) (g : Globals) : Option Text :=
  match (SIPHandler.handleInvite env.prefetch d.now d.consume d.client.ip
      (PhoneNumber.fromString uri.user)).run g with
  | some (.moved pn rn) => some (contact env uri pn rn)
  | _ => none

/-- The tables of a redirect: US and CA are loaded, and the access list lets the peer call. -/
structure Serves (d : Datagram) (g : Globals) (us ca : PhoneMapping.Data) : Prop where
  us : g .us = some us
  ca : g .ca = some ca
  admitted : ACL.isCallAllowed d.now d.consume (g .acl) d.client.ip = 200

/-- The two lookups of `handleInvite`. -/
def inviteRN (us ca : PhoneMapping.Data) (pn : UInt64) : UInt64 :=
  let rn := if pn ≠ PhoneNumber.NONE then us.lookup pn else PhoneNumber.NONE
  if rn = PhoneNumber.NONE then ca.lookup pn else rn

section Line

variable {env : Env} {d : Datagram} {uri : SipUri} {g : Globals} {us ca : PhoneMapping.Data}

theorem run_usRN (h : g .us = some us) (prefetch : ℕ+) (pn : UInt64) :
    (SIPHandler.usRN prefetch pn).run g =
      some (if pn ≠ PhoneNumber.NONE then us.lookup pn else PhoneNumber.NONE) := by
  unfold SIPHandler.usRN
  split
  · rw [run_bind, run_getTable h, Option.bind_some, PhoneMapping.getRN_eq_lookup]
    rfl
  · rfl

theorem run_caRN (h : g .ca = some ca) (prefetch : ℕ+) (pn rn : UInt64) :
    (SIPHandler.caRN prefetch pn rn).run g =
      some (if rn = PhoneNumber.NONE then ca.lookup pn else rn) := by
  unfold SIPHandler.caRN
  split
  · rw [run_bind, run_getTable h, Option.bind_some, PhoneMapping.getRN_eq_lookup]
    rfl
  · rfl

theorem contactLine_eq (h : Serves d g us ca) :
    contactLine env d uri g = some (contact env uri (PhoneNumber.fromString uri.user)
      (inviteRN us ca (PhoneNumber.fromString uri.user))) := by
  have hrun : (SIPHandler.handleInvite env.prefetch d.now d.consume d.client.ip
      (PhoneNumber.fromString uri.user)).run g =
        some (.moved (PhoneNumber.fromString uri.user)
          (inviteRN us ca (PhoneNumber.fromString uri.user))) := by
    unfold SIPHandler.handleInvite
    have hacl : (get .acl).run g = some (g .acl) := rfl
    rw [run_bind, hacl, Option.bind_some]
    simp only [h.admitted]
    rw [if_neg (by decide), run_bind, run_usRN h.us, Option.bind_some, run_bind, run_caRN h.ca]
    rfl
  rw [contactLine, hrun]

end Line

/-! ## 2. When two lines are the same -/

theorem printUint64_injective {m n : UInt64} (h : printUint64 m = printUint64 n) : m = n := by
  have hm := @toUint64_printUint64 m [] (by simp)
  rw [List.append_nil, h] at hm
  have hn := @toUint64_printUint64 n [] (by simp)
  rw [List.append_nil] at hn
  exact Except.ok.inj (hm.symm.trans hn)

theorem semicolon_not_mem_printUint64 (n : UInt64) : ';' ∉ printUint64 n := by
  intro h
  exact absurd (isDigit_of_mem_printUint64 h) (by decide)

/-- The user part of a Contact that has a routing number. -/
def routed (pn rn : UInt64) : Text :=
  Dynamic.text "+1" ++ printUint64 pn ++ ';' :: (Dynamic.text "rn=+1" ++ printUint64 rn)

/-- The user part of a Contact that has none. -/
def unrouted (env : Env) (uri : SipUri) : Text :=
  if env.rfc4694 then uri.user else uri.user ++ ';' :: (Dynamic.text "rn=" ++ uri.user)

theorem contact_eq (env : Env) (uri : SipUri) (pn rn : UInt64) :
    contact env uri pn rn = Dynamic.text "Contact: <sip:" ++
      ((if rn ≠ PhoneNumber.NONE then routed pn rn else unrouted env uri) ++
        (Dynamic.text ";ndpi@" ++ uri.host ++ [':'] ++ uri.port ++ Dynamic.text ">\r\n")) := by
  have hhead : Dynamic.text "Contact: <sip:+1" =
      Dynamic.text "Contact: <sip:" ++ Dynamic.text "+1" := rfl
  have hrn : Dynamic.text ";rn=+1" = ';' :: Dynamic.text "rn=+1" := rfl
  have hrn' : Dynamic.text ";rn=" = ';' :: Dynamic.text "rn=" := rfl
  unfold contact routed unrouted
  split_ifs <;> simp only [hhead, hrn, hrn', List.append_assoc, List.cons_append]

/-- The user part spells out the Contact of another table's answer. -/
def Spells (env : Env) (uri : SipUri) (rn rn' : UInt64) : Prop :=
  rn = PhoneNumber.NONE ∧ rn' ≠ PhoneNumber.NONE ∧ env.rfc4694 = true ∧
    uri.user = routed PhoneNumber.NONE rn'

/-- Where the user part is repeated behind ";rn=", it cannot. -/
theorem unrouted_eq_routed_iff {env : Env} {uri : SipUri} {rn : UInt64}
    (hrn : rn ≠ PhoneNumber.NONE) :
    unrouted env uri = routed PhoneNumber.NONE rn ↔
      env.rfc4694 = true ∧ uri.user = routed PhoneNumber.NONE rn := by
  unfold unrouted
  cases env.rfc4694 with
  | true => simp
  | false =>
    simp only [Bool.false_eq_true, if_false, false_and, iff_false]
    intro h
    have hnone := semicolon_not_mem_printUint64
    -- one ';' on the right, so the user part has none
    have hcount := congrArg (List.count ';') h
    rw [routed, List.count_append, List.count_cons_self, List.count_append, List.count_append,
      List.count_cons_self, List.count_append, List.count_append,
      List.count_eq_zero_of_not_mem (hnone _), List.count_eq_zero_of_not_mem (hnone _)] at hcount
    have htexts : (Dynamic.text "rn=").count ';' = 0 ∧ (Dynamic.text "+1").count ';' = 0 ∧
        (Dynamic.text "rn=+1").count ';' = 0 := by decide
    have huser : ';' ∉ uri.user := by
      rw [← List.count_eq_zero]
      omega
    have hhead : ';' ∉ Dynamic.text "+1" ++ printUint64 PhoneNumber.NONE := by
      rw [List.mem_append]
      rintro (hc | hc)
      · exact absurd hc (by decide)
      · exact hnone _ hc
    have hsplit := congrArg (splitStep ';') h
    rw [routed, splitStep_append _ huser, splitStep_append _ hhead] at hsplit
    obtain ⟨hleft, hright⟩ := Prod.mk.inj hsplit
    rw [hleft] at hright
    have hprint : printUint64 PhoneNumber.NONE = printUint64 rn := by
      simpa [Dynamic.text] using hright
    exact hrn (printUint64_injective hprint).symm

/-- **Two Contact lines without a number.** -/
theorem contact_none_eq_iff (env : Env) (uri : SipUri) (rn rn' : UInt64) :
    contact env uri PhoneNumber.NONE rn = contact env uri PhoneNumber.NONE rn' ↔
      rn = rn' ∨ Spells env uri rn rn' ∨ Spells env uri rn' rn := by
  rw [contact_eq, contact_eq, List.append_right_inj, List.append_left_inj]
  by_cases h : rn = PhoneNumber.NONE
  · by_cases h' : rn' = PhoneNumber.NONE
    · simp [h, h']
    · rw [if_neg (by simp [h]), if_pos h', unrouted_eq_routed_iff h']
      simp only [Spells, h, h', Ne.symm h', false_or, false_and, or_false, true_and,
        not_false_eq_true, ne_eq]
  · by_cases h' : rn' = PhoneNumber.NONE
    · rw [if_pos h, if_neg (by simp [h']), eq_comm, unrouted_eq_routed_iff h]
      simp [Spells, h, h']
    · rw [if_pos h, if_pos h']
      simp only [routed, List.append_right_inj, List.cons.injEq, true_and, Spells, h, h', false_and,
        or_false]
      exact ⟨printUint64_injective, fun e => by rw [e]⟩

/-! ## 3. Two states of the tables -/

/-- **The answer depends on the called number only**, as far as these two states of the tables can
tell: a user part that is no number gets one line; a number gets one line wherever US and CA agree
on it, with the routing number `/target` reports. -/
def SameContact (env : Env) (d : Datagram) (uri : SipUri) (g₁ g₂ : Globals)
    (us₁ ca₁ us₂ ca₂ : PhoneMapping.Data) : Prop :=
  (PhoneNumber.fromString uri.user = PhoneNumber.NONE →
    contactLine env d uri g₁ = contactLine env d uri g₂) ∧
  ∀ pn, PhoneNumber.fromString uri.user = pn → pn ≠ PhoneNumber.NONE →
    (us₁.getRN (env.prefetch .us) pn = us₂.getRN (env.prefetch .us) pn →
      ca₁.getRN (env.prefetch .us) pn = ca₂.getRN (env.prefetch .us) pn →
        contactLine env d uri g₁ = contactLine env d uri g₂) ∧
    ∃ report record,
      (TargetHandler.onQueryComplete env.prefetch [pn]).run g₁ = some report ∧
        Http.TargetHandler.recordAt report 0 = .ok record ∧
        contactLine env d uri g₁ = some (contact env uri pn record.rn)

section Pairs

variable {env : Env} {d : Datagram} {uri : SipUri} {g₁ g₂ : Globals}
variable {us₁ ca₁ us₂ ca₂ : PhoneMapping.Data}

theorem inviteRN_none (us ca : PhoneMapping.Data) :
    inviteRN us ca PhoneNumber.NONE = ca.lookup PhoneNumber.NONE := rfl

theorem inviteRN_of_ne {pn : UInt64} (h : pn ≠ PhoneNumber.NONE) (us ca : PhoneMapping.Data) :
    inviteRN us ca pn =
      if us.lookup pn = PhoneNumber.NONE then ca.lookup pn else us.lookup pn := by
  rw [inviteRN, if_pos h]

/-- The line of a number has the routing number that `/target` reports. -/
theorem contactLine_eq_target (h : Serves d g₁ us₁ ca₁)
    (hpn : PhoneNumber.fromString uri.user ≠ PhoneNumber.NONE) :
    ∃ report record,
      (TargetHandler.onQueryComplete env.prefetch [PhoneNumber.fromString uri.user]).run g₁ =
          some report ∧
        Http.TargetHandler.recordAt report 0 = .ok record ∧
        contactLine env d uri g₁ =
          some (contact env uri (PhoneNumber.fromString uri.user) record.rn) := by
  obtain ⟨report, hrun, -, hrecord⟩ := @Http.TargetHandler.run_onQueryComplete env.prefetch _ _ _
    h.us h.ca [PhoneNumber.fromString uri.user]
  refine ⟨report, _, hrun, hrecord 0 (by simp), ?_⟩
  rw [contactLine_eq h, inviteRN_of_ne hpn]
  simp only [Http.TargetHandler.answer, List.getElem_cons_zero, PhoneMapping.getRN_eq_lookup]

end Pairs

/-- **What a Contact line depends on.**  For any two states with both tables loaded: a number is
answered by its own rows; a user part that is no number by what the CA tables have for `NONE`, and
gets one line exactly when they have the same, or when it spells out the answer of the one that has
something. -/
theorem sameContact_iff (env : Env) (d : Datagram) (uri : SipUri) {g₁ g₂ : Globals}
    {us₁ ca₁ us₂ ca₂ : PhoneMapping.Data} (h₁ : Serves d g₁ us₁ ca₁) (h₂ : Serves d g₂ us₂ ca₂) :
    SameContact env d uri g₁ g₂ us₁ ca₁ us₂ ca₂ ↔
      (PhoneNumber.fromString uri.user = PhoneNumber.NONE →
        ca₁.lookup PhoneNumber.NONE = ca₂.lookup PhoneNumber.NONE ∨
          Spells env uri (ca₁.lookup PhoneNumber.NONE) (ca₂.lookup PhoneNumber.NONE) ∨
          Spells env uri (ca₂.lookup PhoneNumber.NONE) (ca₁.lookup PhoneNumber.NONE)) := by
  have hnumber : ∀ pn, PhoneNumber.fromString uri.user = pn → pn ≠ PhoneNumber.NONE →
      (us₁.getRN (env.prefetch .us) pn = us₂.getRN (env.prefetch .us) pn →
        ca₁.getRN (env.prefetch .us) pn = ca₂.getRN (env.prefetch .us) pn →
          contactLine env d uri g₁ = contactLine env d uri g₂) ∧
      ∃ report record,
        (TargetHandler.onQueryComplete env.prefetch [pn]).run g₁ = some report ∧
          Http.TargetHandler.recordAt report 0 = .ok record ∧
          contactLine env d uri g₁ = some (contact env uri pn record.rn) := by
    rintro pn rfl hpn
    refine ⟨fun hus hca => ?_, contactLine_eq_target h₁ hpn⟩
    rw [PhoneMapping.getRN_eq_lookup, PhoneMapping.getRN_eq_lookup] at hus hca
    rw [contactLine_eq h₁, contactLine_eq h₂, inviteRN_of_ne hpn, inviteRN_of_ne hpn, hus, hca]
  rw [SameContact, and_iff_left hnumber]
  refine imp_congr_right fun hnone => ?_
  rw [contactLine_eq h₁, contactLine_eq h₂, hnone, inviteRN_none, inviteRN_none, Option.some_inj]
  exact contact_none_eq_iff env uri _ _

/-- US without rows, a CA table, and an access list that lets everybody call. -/
def tablesWith (ca : PhoneMapping.Data) : Globals
  | .us => some (MappingData.empty : PhoneMapping.Data)
  | .ca => some ca
  | .acl => some (fun _ => some {} : ACL.Data)
  | _ => none

theorem serves_tablesWith (ca : PhoneMapping.Data) :
    Serves Datagram.sample (tablesWith ca) MappingData.empty ca := ⟨rfl, rfl, rfl⟩

/-- `sip:x@h`, once more: x is no number. -/
def SipUri.sample : SipUri := ⟨['x'], ['h'], []⟩

/-- A CA table with a row for a number, and one without rows: the user part x gets one line. -/
theorem sameContact_without_none :
    SameContact Env.sample Datagram.sample SipUri.sample
      (tablesWith (MappingData.empty.push 2012019999 2022000000 2022000000))
      (tablesWith MappingData.empty) MappingData.empty
      (MappingData.empty.push 2012019999 2022000000 2022000000) MappingData.empty
      MappingData.empty :=
  (sameContact_iff Env.sample Datagram.sample SipUri.sample (serves_tablesWith _)
    (serves_tablesWith _)).mpr fun _ => Or.inl (by decide)

/-- The row 18446744073709551615,2022000000 in the CA table: it answers for the user part x. -/
theorem contact_depends_on_none :
    PhoneNumber.fromString SipUri.sample.user = PhoneNumber.NONE ∧
      contactLine Env.sample Datagram.sample SipUri.sample (tablesWith MappingData.empty) =
        some (Dynamic.text "Contact: <sip:x;rn=x;ndpi@h:>\r\n") ∧
      contactLine Env.sample Datagram.sample SipUri.sample
          (tablesWith (MappingData.empty.push PhoneNumber.NONE 2022000000 2022000000)) =
        some (Dynamic.text
          "Contact: <sip:+118446744073709551615;rn=+12022000000;ndpi@h:>\r\n") := by
  have hnone : PhoneNumber.fromString SipUri.sample.user = PhoneNumber.NONE := by decide
  refine ⟨hnone, ?_, ?_⟩
  · rw [contactLine_eq (serves_tablesWith _), hnone, inviteRN_none]
    decide
  · rw [contactLine_eq (serves_tablesWith _), hnone, inviteRN_none]
    decide

end CallFwd.Sip
