/-
# The URI of a redirect

A client that is redirected sends its INVITE again, to the URI of the Contact line.  That URI is
accepted, whoever it is sent to: it has the host and the port of the first one, and its user is not
read as a number any more (`redirect_returns`).  This does not end the redirects.  For a user that is
no number `handleInvite` leaves US out and asks CA for `NONE`, and whatever that gives, it answers
with 302 once more.

The one exception is a `tel:` URI.  It has no host, the Contact line is written all the same, and
what is between its brackets is no URI.
-/
import CallFwd.Sip.Contact
import CallFwd.Sip.UriAccept
import Mathlib.Data.Bool.AllAny

namespace CallFwd

open Lib

/-! ## 1. Texts that are numbers -/

namespace PhoneNumber

theorem mem_trimWhitespace {s : Text} {c : Char} (h : c ∈ s) (hc : trims c = false) :
    c ∈ trimWhitespace s := by
  have hdrop : ∀ {r : Text}, c ∈ r → c ∈ r.dropWhile trims := by
    intro r hr
    rw [← @List.takeWhile_append_dropWhile _ trims r, List.mem_append] at hr
    refine hr.resolve_left ?_
    intro hmem
    have htrims := List.mem_takeWhile_imp hmem
    rw [hc] at htrims
    cases htrims
  rw [trimWhitespace, rtrimWhitespace, List.rdropWhile, List.mem_reverse]
  exact hdrop (List.mem_reverse.mpr (hdrop h))

/-- What cannot be in a number: it is not skipped, and it is no digit. -/
def Foreign (c : Char) : Prop :=
  trims c = false ∧ keeps c = true ∧ c ∉ ['+', '1'] ∧ c.isDigit = false ∧ isspace c = false

theorem mem_remaining {s : Text} {c : Char} (h : c ∈ s) (hc : Foreign c) : c ∈ remaining s := by
  obtain ⟨htrims, hkeeps, hplus, -, -⟩ := hc
  have hfilter : c ∈ (trimWhitespace s).filter keeps :=
    List.mem_filter.mpr ⟨mem_trimWhitespace h htrims, hkeeps⟩
  have hremove : ∀ p : Text, (∀ d ∈ p, d ∈ ['+', '1']) →
      c ∈ removePrefix p ((trimWhitespace s).filter keeps) := by
    intro p hp
    unfold removePrefix
    split
    · rename_i hpre
      obtain ⟨r, hr⟩ := List.isPrefixOf_iff_prefix.mp hpre
      rw [← hr, List.drop_left]
      rw [← hr, List.mem_append] at hfilter
      exact hfilter.resolve_left fun hmem => hplus (hp c hmem)
    · exact hfilter
  unfold remaining
  simp only
  split
  · exact hremove _ (by simp)
  · split
    · exact hremove _ (by simp)
    · exact hfilter

/-- A text with such a byte is no number. -/
theorem fromString_eq_NONE {s : Text} {c : Char} (h : c ∈ s) (hc : Foreign c) :
    fromString s = NONE := by
  by_contra hne
  obtain ⟨ds, hds⟩ := fromString_ne_NONE_iff.mp hne
  unfold digitsOf at hds
  split at hds
  · obtain ⟨ws, ws', hrem, hws, hws', hdig, -⟩ := numeral_eq_some_iff.mp hds
    have hmem := mem_remaining h hc
    obtain ⟨-, -, -, hdigit, hspace⟩ := hc
    rw [hrem, List.mem_append, List.mem_append] at hmem
    rcases hmem with (hmem | hmem) | hmem
    · exact absurd (hws c hmem) (by simp [hspace])
    · exact absurd (hdig c hmem) (by simp [hdigit])
    · exact absurd (hws' c hmem) (by simp [hspace])
  · cases hds

end PhoneNumber

namespace Sip

/-! ## 2. The Contact line -/

/-- `parse_sip_msg_uri`, as the handler uses it: the URI of the request line, and of `parsed_uri` the
members that `handleInvite` reads. -/
def parse_sip_msg_uri (uri : Text) : Option SipUri :=
  match ParseUri.parse_uri uri uri.length with
  | .ok u => some ⟨u.user.text uri, u.host.text uri, u.port.text uri⟩
  | .error _ => none

/-- The URI between the brackets of a Contact line. -/
def contactUri (user : Text) (uri : SipUri) : Text :=
  Dynamic.text "sip:" ++ user ++ ['@'] ++ uri.host ++ [':'] ++ uri.port

section Contact

variable {uri : SipUri}

theorem foreign_of_separator {c : Char} (hc : c ∈ ['[', ']', '@', ':', ';', '?']) :
    PhoneNumber.Foreign c := by
  simp only [List.mem_cons, List.not_mem_nil, or_false] at hc
  rcases hc with rfl | rfl | rfl | rfl | rfl | rfl
  all_goals exact ⟨by decide, by decide, by decide, by decide, by decide⟩

/-- A user that is a number has no separator in it. -/
theorem number_plain (hpn : PhoneNumber.fromString uri.user ≠ PhoneNumber.NONE) :
    uri.user ≠ [] ∧ ∀ c ∈ uri.user, c ∉ ['[', ']', '@', ':', ';', '?'] := by
  constructor
  · intro hnil
    rw [hnil] at hpn
    exact hpn rfl
  · intro c hc hsep
    exact hpn (PhoneNumber.fromString_eq_NONE hc (foreign_of_separator hsep))

theorem printUint64_plain {n : UInt64} {c : Char} (hc : c ∈ printUint64 n) :
    c ∉ ['[', ']', '@', ':', ';', '?'] := by
  intro hsep
  have hdigit := isDigit_of_mem_printUint64 hc
  simp only [List.mem_cons, List.not_mem_nil, or_false] at hsep
  rcases hsep with rfl | rfl | rfl | rfl | rfl | rfl
  all_goals exact absurd hdigit (by decide)

theorem not_mem_of_plain {c : Char} (h : c ∉ ['[', ']', '@', ':', ';', '?']) :
    c ∉ ['@', ':', ';', '?'] := by
  intro hmem
  exact h (List.mem_cons_of_mem _ (List.mem_cons_of_mem _ hmem))

/-- The parameters a Contact line adds: a routing number, if there is one, and `ndpi`. -/
def addedParams : Option Text → List Text
  | some rn => [Dynamic.text "rn=" ++ rn, Dynamic.text "ndpi"]
  | none => [Dynamic.text "ndpi"]

/-- With them a plain name is the text of a user. -/
def withParams (name : Text) (rn : Option Text) (hne : name ≠ [])
    (hname : ∀ c ∈ name, c ∉ ['[', ']', '@', ':', ';', '?'])
    (hrn : ∀ s, rn = some s → ∀ c ∈ s, c ∉ ['[', ']', '@', ':', ';', '?']) :
    ParseUri.UserText where
  name := name
  params := addedParams rn
  name_ne := hne
  plain := hname
  params_plain := by
    have hndpi : ∀ c ∈ Dynamic.text "ndpi", c ∉ ['@', ':', ';', '?'] :=
      List.all_iff_forall_prop.mp rfl
    have hkey : ∀ c ∈ Dynamic.text "rn=", c ∉ ['@', ':', ';', '?'] :=
      List.all_iff_forall_prop.mp rfl
    intro ps hps c hc
    cases rn with
    | none =>
      cases List.mem_singleton.mp hps
      exact hndpi c hc
    | some s =>
      simp only [addedParams, List.mem_cons, List.not_mem_nil, or_false] at hps
      rcases hps with rfl | rfl
      · rcases List.mem_append.mp hc with hc | hc
        · exact hkey c hc
        · exact not_mem_of_plain (hrn s rfl c hc)
      · exact hndpi c hc
  params_head := by
    intro ps hps c hc
    cases rn with
    | none =>
      cases List.mem_singleton.mp hps
      cases hc
      decide
    | some s =>
      simp only [addedParams, List.mem_cons, List.not_mem_nil, or_false] at hps
      rcases hps with rfl | rfl
      · cases hc
        decide
      · cases hc
        decide

/-- The user of a Contact line, by what was found. -/
theorem contact_shape (env : Env) (pn rn : UInt64)
    (hpn : PhoneNumber.fromString uri.user ≠ PhoneNumber.NONE) :
    ∃ who : ParseUri.UserText, ';' ∈ who.print ∧
      contact env uri pn rn =
        Dynamic.text "Contact: <" ++ contactUri who.print uri ++ Dynamic.text ">\r\n" := by
  obtain ⟨hne, hplain⟩ := number_plain hpn
  have hlead : ∀ c ∈ ['+', '1'], c ∉ ['[', ']', '@', ':', ';', '?'] :=
    List.all_iff_forall_prop.mp rfl
  have hplus : ∀ n : UInt64, ∀ c ∈ ['+', '1'] ++ printUint64 n,
      c ∉ ['[', ']', '@', ':', ';', '?'] := by
    intro n c hc
    rcases List.mem_append.mp hc with hc | hc
    · exact hlead c hc
    · exact printUint64_plain hc
  unfold contact
  split
  · refine ⟨withParams (['+', '1'] ++ printUint64 pn) (some (['+', '1'] ++ printUint64 rn))
      (List.cons_ne_nil _ _) (hplus pn) ?_, ?_, ?_⟩
    · rintro s hs
      cases hs
      exact hplus rn
    · simp [ParseUri.UserText.print, withParams, addedParams]
    · simp [ParseUri.UserText.print, withParams, addedParams, contactUri, Dynamic.text]
  split
  · refine ⟨withParams uri.user none hne hplain (fun _ hs => by cases hs), ?_, ?_⟩
    · simp [ParseUri.UserText.print, withParams, addedParams]
    · simp [ParseUri.UserText.print, withParams, addedParams, contactUri, Dynamic.text]
  · refine ⟨withParams uri.user (some uri.user) hne hplain ?_, ?_, ?_⟩
    · rintro s hs
      cases hs
      exact hplain
    · simp [ParseUri.UserText.print, withParams, addedParams]
    · simp [ParseUri.UserText.print, withParams, addedParams, contactUri, Dynamic.text]

end Contact

/-! ## 3. The second INVITE -/

section Returns

variable {t : Text} {uri : SipUri}

theorem text_eq_getD (t : Text) (r : ParseUri.Str) : r.text t = (r.text? t).getD [] := by
  unfold ParseUri.Str.text ParseUri.Str.text?
  cases r.s with
  | none => rfl
  | some a => rfl

/-- A host behind a user is one on its own. -/
theorem host_strict {strict : Prop} {s : Text} (h : UriText.Host strict s) (hs : strict) :
    UriText.Host True s := by
  cases h with
  | name c cs hc hcs hstrict => exact .name c cs hc hcs fun _ => hstrict hs
  | ip6 cs hcs => exact .ip6 cs hcs

/-- What was parsed, when the user is a number: a `tel:` URI without a host, or a URI with a user and
a host. -/
theorem parsed_number (h : parse_sip_msg_uri t = some uri)
    (hpn : PhoneNumber.fromString uri.user ≠ PhoneNumber.NONE) :
    Digits uri.port ∧
      (((∃ k, ParseUri.schemeOf t = .ok (.TEL_URI_T, k)) ∧ uri.host = []) ∨
        ((¬ ∃ k, ParseUri.schemeOf t = .ok (.TEL_URI_T, k)) ∧ UriText.Host True uri.host)) := by
  unfold parse_sip_msg_uri at h
  split at h
  · rename_i u hparse
    cases h
    obtain ⟨k, p, hscheme, -, -, hwf, htexts, -⟩ := ParseUri.parse_uri_parts (Nat.le_refl _) hparse
    rw [List.take_length] at htexts
    have huser := congrArg UriText.user htexts
    have hhost := congrArg UriText.host htexts
    have hport := congrArg UriText.port htexts
    simp only [ParseUri.ParsedUri.texts] at huser hhost hport
    simp only [text_eq_getD t u.user, huser] at hpn
    simp only [text_eq_getD t u.port, hport, hhost]
    have hdigits : Digits ((p.fix u.type).port.getD []) := by
      have hsame : (p.fix u.type).port = p.port := by
        unfold UriText.fix
        split <;> rfl
      rw [hsame]
      cases hp : p.port with
      | none => exact Digits.nil
      | some s => exact hwf.port s hp
    refine ⟨hdigits, ?_⟩
    have hsip : ∀ {type : ParseUri.UriType}, u.type = type → type ≠ .TEL_URI_T →
        ¬ ∃ k, ParseUri.schemeOf t = .ok (.TEL_URI_T, k) := by
      rintro type htype hne ⟨k', hk'⟩
      rw [hscheme] at hk'
      have heq := (Prod.mk.inj (Except.ok.inj hk')).1
      exact hne (htype.symm.trans heq)
    have hstrict : p.user.getD [] ≠ [] → UriText.Host True p.host := by
      intro hne
      refine host_strict hwf.host ?_
      intro hnone
      rw [hnone] at hne
      exact hne rfl
    have htypes := ParseUri.schemeOf_type hscheme
    simp only [List.mem_cons, List.not_mem_nil, or_false] at htypes
    have hnumber : (p.fix u.type).user.getD [] ≠ [] := by
      intro hnil
      rw [hnil] at hpn
      exact hpn rfl
    rcases htypes with htype | htype | htype | htype | htype
    all_goals rw [htype] at hnumber ⊢
    · exact .inr ⟨hsip htype (by decide), hstrict hnumber⟩
    · exact .inr ⟨hsip htype (by decide), hstrict hnumber⟩
    · exact .inl ⟨⟨k, htype ▸ hscheme⟩, rfl⟩
    · exact .inr ⟨hsip htype (by decide), hstrict hnumber⟩
    · exact absurd rfl hnumber
  · cases h

theorem schemeOf_sip (s : Text) :
    ParseUri.schemeOf (Dynamic.text "sip:" ++ s) = .ok (.SIP_URI_T, 4) := by
  have hscheme : (ParseUri.charValue 's' + (ParseUri.charValue 'i' <<< 8) +
      (ParseUri.charValue 'p' <<< 16) + (ParseUri.charValue ':' <<< 24)) ||| 0x20202020 =
        ParseUri.SIP_SCH := by decide
  unfold ParseUri.schemeOf
  exact if_pos hscheme

/-- A user at a host, printed the way `contactUri` does, is read back. -/
theorem parse_contactUri {who : ParseUri.UserText} (hhost : UriText.Host True uri.host)
    (hport : Digits uri.port) :
    parse_sip_msg_uri (contactUri who.print uri) = some ⟨who.print, uri.host, uri.port⟩ := by
  have hprint : contactUri who.print uri =
      Dynamic.text "sip:" ++ (ParseUri.address who uri.host (some uri.port)).print := by
    simp [contactUri, UriText.print, UriText.userinfo, UriText.part, ParseUri.address]
  have hslice : slice (contactUri who.print uri) 4 (contactUri who.print uri).length =
      (ParseUri.address who uri.host (some uri.port)).print := by
    rw [slice_length, hprint]
    rfl
  have hscheme : ParseUri.schemeOf (contactUri who.print uri) = .ok (.SIP_URI_T, 4) := by
    rw [hprint]
    exact schemeOf_sip _
  have hports : ∀ s, some uri.port = some s → Digits s := by
    intro s hs
    cases hs
    exact hport
  obtain ⟨u, hparse⟩ := ParseUri.address_accepted (Nat.le_refl _) hscheme hhost hports hslice
  obtain ⟨htype, htexts, -⟩ :=
    ParseUri.address_read (Nat.le_refl _) hscheme hhost hports hslice hparse
  rw [List.take_length] at htexts
  have huser := congrArg UriText.user htexts
  have hhosts := congrArg UriText.host htexts
  have hportt := congrArg UriText.port htexts
  simp only [ParseUri.ParsedUri.texts, UriText.fix, ParseUri.address] at huser hhosts hportt
  simp only [parse_sip_msg_uri, hparse, text_eq_getD _ u.user, text_eq_getD _ u.port, huser, hhosts,
    hportt, Option.getD_some]

/-- Without a host it is refused. -/
theorem parse_contactUri_nil {who : ParseUri.UserText} (hhost : uri.host = [])
    (hport : Digits uri.port) : parse_sip_msg_uri (contactUri who.print uri) = none := by
  have hprint : contactUri who.print uri =
      Dynamic.text "sip:" ++ (who.print ++ '@' :: (':' :: uri.port)) := by
    simp [contactUri, hhost]
  unfold parse_sip_msg_uri
  cases hparse : ParseUri.parse_uri (contactUri who.print uri) (contactUri who.print uri).length with
  | error e => rfl
  | ok u =>
    obtain ⟨k, p, hscheme, -, htext, hwf, -, -⟩ := ParseUri.parse_uri_parts (Nat.le_refl _) hparse
    have hk : k = 4 := by
      rw [hprint, schemeOf_sip] at hscheme
      exact (Prod.mk.inj (Except.ok.inj hscheme)).2.symm
    subst hk
    rw [List.take_length, hprint] at htext
    have hsame : who.print ++ '@' :: (':' :: uri.port) = p.print := List.append_cancel_left htext
    have hport' : '@' ∉ ':' :: uri.port := by
      intro hmem
      rcases List.mem_cons.mp hmem with hat | hmem
      · cases hat
      · exact absurd (hport '@' hmem) (by decide)
    have hrest := hwf.rest_of_print hsame.symm (who.not_mem_print (by simp)) hport'
    -- A host does not begin with a colon.
    unfold UriText.rest at hrest
    cases hhosts : p.host with
    | nil =>
      have hempty := hwf.host
      rw [hhosts] at hempty
      cases hempty
    | cons c cs =>
      have hcolon : c ≠ ':' := by
        have hhead := hwf.host
        rw [hhosts] at hhead
        rintro rfl
        cases hhead with
        | name _ _ hc _ _ => exact hc (by decide)
      rw [hhosts] at hrest
      exact absurd (List.cons.inj hrest).1 hcolon

/-- A `tel:` URI. -/
def IsTel (t : Text) : Prop := ∃ k, ParseUri.schemeOf t = .ok (.TEL_URI_T, k)

/-- **A redirect leads to the host it came from.**  Whatever the tables gave: the Contact line of a
number has a URI that is accepted, with the same host and port and a user that is no number, unless
the number came in a `tel:` URI; then the line has no URI that is accepted. -/
theorem redirect_returns {env : Env} (henv : env.parse_uri = parse_sip_msg_uri) {d : Datagram}
    {msg : SipMsg} {g : Globals} {line : Text} (hmsg : parseMessage env d = some (msg, uri))
    (hpn : PhoneNumber.fromString uri.user ≠ PhoneNumber.NONE)
    (hline : contactLine env d uri g = some line) :
    ∃ user, line = Dynamic.text "Contact: <" ++ contactUri user uri ++ Dynamic.text ">\r\n" ∧
      PhoneNumber.fromString user = PhoneNumber.NONE ∧
      (IsTel msg.uri → parse_sip_msg_uri (contactUri user uri) = none) ∧
      (¬ IsTel msg.uri →
        parse_sip_msg_uri (contactUri user uri) = some ⟨user, uri.host, uri.port⟩) := by
  have hparse : parse_sip_msg_uri msg.uri = some uri := by
    unfold parseMessage at hmsg
    split at hmsg
    · cases hmsg
    · obtain ⟨m, -, hmsg⟩ := Option.bind_eq_some_iff.mp hmsg
      split at hmsg
      · cases hmsg
      · obtain ⟨u, hu, hmsg⟩ := Option.bind_eq_some_iff.mp hmsg
        cases hmsg
        rw [← henv]
        exact hu
  obtain ⟨hport, hkind⟩ := parsed_number hparse hpn
  unfold contactLine at hline
  split at hline
  · rename_i pn rn hrun
    obtain ⟨who, hsemi, hshape⟩ := contact_shape env pn rn hpn
    refine ⟨who.print, (Option.some.inj hline).symm.trans hshape,
      PhoneNumber.fromString_eq_NONE hsemi (foreign_of_separator (by decide)), ?_, ?_⟩
    · intro htel
      rcases hkind with ⟨-, hnil⟩ | ⟨hno, -⟩
      · exact parse_contactUri_nil hnil hport
      · exact absurd htel hno
    · intro hno
      rcases hkind with ⟨htel, -⟩ | ⟨-, hhost⟩
      · exact absurd htel hno
      · exact parse_contactUri hhost hport
  · cases hline

end Returns

/-- The request `INVITE sip:2015550012@h SIP/2.0`. -/
def Env.invite : Env where
  parse_msg := fun buf len =>
    if buf.take len = Dynamic.text "INVITE sip:2015550012@h SIP/2.0\r\n\r\n" then
      some ⟨true, Dynamic.text "INVITE", .INVITE, Dynamic.text "sip:2015550012@h", none, none, none,
        none, none⟩
    else none
  parse_uri := parse_sip_msg_uri
  describe := fun _ => Dynamic.text "10.0.0.1:5060"
  rfc4694 := false
  prefetch := fun _ => Nat.succPNat 15

def Datagram.invite : Datagram :=
  { Datagram.sample with
    recvbuf := Dynamic.text "INVITE sip:2015550012@h SIP/2.0\r\n\r\n"
    len := 36
    tables := tablesWith MappingData.empty }

/-- Without a row it goes to `sip:2015550012;rn=2015550012;ndpi@h:`, and comes back. -/
theorem redirect_returns_plain :
    ∃ user, Dynamic.text "Contact: <sip:2015550012;rn=2015550012;ndpi@h:>\r\n" =
        Dynamic.text "Contact: <" ++ contactUri user ⟨Dynamic.text "2015550012", ['h'], []⟩ ++
          Dynamic.text ">\r\n" ∧
      PhoneNumber.fromString user = PhoneNumber.NONE ∧
      (IsTel (Dynamic.text "sip:2015550012@h") →
        parse_sip_msg_uri (contactUri user ⟨Dynamic.text "2015550012", ['h'], []⟩) = none) ∧
      (¬ IsTel (Dynamic.text "sip:2015550012@h") →
        parse_sip_msg_uri (contactUri user ⟨Dynamic.text "2015550012", ['h'], []⟩) =
          some ⟨user, ['h'], []⟩) := by
  have hnumber : PhoneNumber.fromString (Dynamic.text "2015550012") = 2015550012 := by decide
  have hne : PhoneNumber.fromString (Dynamic.text "2015550012") ≠ PhoneNumber.NONE := by
    rw [hnumber]
    decide
  have hmsg : parseMessage Env.invite Datagram.invite =
      some (⟨true, Dynamic.text "INVITE", .INVITE, Dynamic.text "sip:2015550012@h", none, none, none,
        none, none⟩, ⟨Dynamic.text "2015550012", ['h'], []⟩) := by
    rfl
  have hserves : Serves Datagram.invite (tablesWith MappingData.empty) MappingData.empty
      MappingData.empty := ⟨rfl, rfl, rfl⟩
  have hline : contactLine Env.invite Datagram.invite ⟨Dynamic.text "2015550012", ['h'], []⟩
      (tablesWith MappingData.empty) =
        some (Dynamic.text "Contact: <sip:2015550012;rn=2015550012;ndpi@h:>\r\n") := by
    rw [contactLine_eq hserves, hnumber]
    decide
  have hreturns := redirect_returns rfl hmsg hne hline
  exact hreturns

end Sip

end CallFwd
