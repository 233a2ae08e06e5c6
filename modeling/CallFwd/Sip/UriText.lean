/-
# SIP URIs as texts

`UriText` is a URI without its scheme, as the grammar has it: a userinfo, a host, a port, parameters
and headers.  What `parse_uri` accepts is such a text, and the members it fills are its parts
(`parse_uri_sound`).  A text has its parts in one way (`print_injective`), so the members are THE
parts.

Two things are odd.  The first byte of a host without a user may be `;` or `?`.  And a user may
begin with `[`, when a bracketed host and its port turned out to be the user after all; `port_no`
then starts from the digits of that port.
-/
import CallFwd.Sip.UriShape

namespace CallFwd.Sip

open Lib

/-! ## 1. The grammar -/

/-- A URI behind its scheme. -/
structure UriText where
  user : Option Text
  passwd : Option Text
  host : Text
  port : Option Text
  params : Option Text
  headers : Option Text
deriving DecidableEq, Repr

namespace UriText

/-- An optional part and the byte before it. -/
def part (c : Char) : Option Text → Text
  | none => []
  | some s => c :: s

/-- `user:passwd@`. -/
def userinfo (u : UriText) : Text :=
  match u.user with
  | none => []
  | some s => s ++ part ':' u.passwd ++ ['@']

def print (u : UriText) : Text :=
  u.userinfo ++ u.host ++ part ':' u.port ++ part ';' u.params ++ part '?' u.headers

/-- A host: a name, or an address in brackets.  Behind a user a name is restricted further. -/
inductive Host (strict : Prop) : Text → Prop
  | name (c : Char) (cs : Text) (hc : c ∉ ['[', '@', ':'])
      (hcs : ∀ d ∈ cs, d ∉ ['@', ':', ';', '?'])
      (hstrict : strict → ∀ d ∈ c :: cs, d ∉ ['&', ';', '?']) : Host strict (c :: cs)
  | ip6 (cs : Text) (hcs : ∀ d ∈ cs, d ∉ ['[', ']', '&', '@', ';', '?']) :
      Host strict ('[' :: (cs ++ [']']))

/-- What the parts look like. -/
structure WellFormed (u : UriText) : Prop where
  noUser : u.user = none → u.passwd = none
  user : ∀ s, u.user = some s → s ≠ [] ∧ '@' ∉ s ∧ (s.head? = some '[' ∨ ':' ∉ s)
  passwd : ∀ s, u.passwd = some s → '@' ∉ s ∧ ':' ∉ s
  host : Host (u.user ≠ none) u.host
  port : ∀ s, u.port = some s → Digits s
  params : ∀ s, u.params = some s → '@' ∉ s ∧ '?' ∉ s
  headers : ∀ s, u.headers = some s → '@' ∉ s

/-- The user begins with a bracket: it was read as a host. -/
def Bracketed (u : UriText) : Prop := ∃ s, u.user = some ('[' :: s)

/-- The number of the port. -/
def portNo (u : UriText) : ℕ :=
  match u.port with
  | some s => decimal s
  | none => 0

/-- What a URI of another scheme has for a user and a host. -/
def fix (type : ParseUri.UriType) (u : UriText) : UriText :=
  match type with
  | .TEL_URI_T | .TELS_URI_T => { u with user := some u.host, host := [] }
  | .URN_NENA_SERVICE_URI_T => { u with user := none, host := [] }
  | _ => u

/-! ## 2. A text has its parts in one way -/

section Injective

variable {u v : UriText}

/-- A stretch ends where the separator is. -/
theorem append_inj_of_head {P : Char → Prop} {a b x y : Text} (ha : ∀ d ∈ a, ¬ P d)
    (hb : ∀ d ∈ b, ¬ P d) (hx : ∀ d, x.head? = some d → P d) (hy : ∀ d, y.head? = some d → P d)
    (h : a ++ x = b ++ y) : a = b ∧ x = y := by
  induction a generalizing b with
  | nil =>
    cases b with
    | nil => exact ⟨rfl, h⟩
    | cons d b =>
      rw [List.nil_append] at h
      exact absurd (hx d (by rw [h]; rfl)) (hb d List.mem_cons_self)
  | cons c a ih =>
    cases b with
    | nil =>
      rw [List.nil_append] at h
      exact absurd (hy c (by rw [← h]; rfl)) (ha c List.mem_cons_self)
    | cons d b =>
      obtain ⟨rfl, htail⟩ := List.cons.inj h
      obtain ⟨rfl, hxy⟩ := ih (fun e he => ha e (List.mem_cons_of_mem c he))
        (fun e he => hb e (List.mem_cons_of_mem c he)) htail
      exact ⟨rfl, hxy⟩

/-- So does an optional part. -/
theorem part_inj {P : Char → Prop} {c : Char} {o o' : Option Text} {x y : Text} (hc : ¬ P c)
    (ho : ∀ s, o = some s → ∀ d ∈ s, ¬ P d) (ho' : ∀ s, o' = some s → ∀ d ∈ s, ¬ P d)
    (hx : ∀ d, x.head? = some d → P d) (hy : ∀ d, y.head? = some d → P d)
    (h : part c o ++ x = part c o' ++ y) : o = o' ∧ x = y := by
  cases o with
  | none =>
    cases o' with
    | none => exact ⟨rfl, h⟩
    | some s =>
      rw [part, List.nil_append] at h
      exact absurd (hx c (by rw [h]; rfl)) hc
  | some r =>
    cases o' with
    | none =>
      have h' : c :: (r ++ x) = y := h
      exact absurd (hy c (by rw [← h']; rfl)) hc
    | some s =>
      obtain ⟨-, htail⟩ := List.cons.inj h
      obtain ⟨rfl, hxy⟩ := append_inj_of_head (ho r rfl) (ho' s rfl) hx hy htail
      exact ⟨rfl, hxy⟩

/-- An optional part begins with its separator. -/
theorem head?_part {P : Char → Prop} {c : Char} {o : Option Text} (hc : P c) (d : Char)
    (hd : (part c o).head? = some d) : P d := by
  cases o with
  | none => cases hd
  | some s =>
    cases hd
    exact hc

/-- The last part is all there is. -/
theorem part_inj_nil {c : Char} {o o' : Option Text} (h : part c o = part c o') : o = o' := by
  cases o with
  | none =>
    cases o' with
    | none => rfl
    | some s => cases h
  | some r =>
    cases o' with
    | none => cases h
    | some s => rw [(List.cons.inj h).2]

/-- So does what follows it, where it is missing. -/
theorem head?_part_append {P : Char → Prop} {c : Char} {o : Option Text} {x : Text} (hc : P c)
    (hx : ∀ d, x.head? = some d → P d) (d : Char) (hd : (part c o ++ x).head? = some d) : P d := by
  cases o with
  | none => exact hx d hd
  | some s =>
    cases hd
    exact hc

/-- What is behind the userinfo. -/
def rest (u : UriText) : Text := u.host ++ part ':' u.port ++ part ';' u.params ++ part '?' u.headers

theorem print_eq (u : UriText) : u.print = u.userinfo ++ u.rest := by
  simp only [print, rest, List.append_assoc]

/-- The first `@` of a URI ends its userinfo. -/
theorem Host.at_not_mem {strict : Prop} {s : Text} (hs : Host strict s) : '@' ∉ s := by
  cases hs with
  | name c cs hc hcs =>
    rw [List.mem_cons, not_or]
    refine ⟨?_, fun hmem => hcs '@' hmem (by simp)⟩
    rintro rfl
    exact hc (by simp)
  | ip6 cs hcs =>
    simp only [List.mem_cons, List.mem_append, List.not_mem_nil, or_false, not_or]
    exact ⟨by decide, fun hmem => hcs '@' hmem (by simp), by decide⟩

/-- A host ends before a colon, a `;` or a `?`, but for the first byte and inside brackets. -/
theorem Host.inj {strict strict' : Prop} {s s' x y : Text} (hs : Host strict s)
    (hs' : Host strict' s') (hx : ∀ d, x.head? = some d → d ∈ [':', ';', '?'])
    (hy : ∀ d, y.head? = some d → d ∈ [':', ';', '?']) (h : s ++ x = s' ++ y) :
    s = s' ∧ x = y := by
  have hname : ∀ {cs : Text}, (∀ d ∈ cs, d ∉ ['@', ':', ';', '?']) →
      ∀ d ∈ cs, d ∉ [':', ';', '?'] := fun hcs d hd hmem => hcs d hd (List.mem_cons_of_mem _ hmem)
  have hip6 : ∀ {cs : Text}, (∀ d ∈ cs, d ∉ ['[', ']', '&', '@', ';', '?']) →
      ∀ d ∈ cs, ¬ d = ']' := by
    rintro cs hcs d hd rfl
    exact hcs _ hd (by simp)
  have hend : ∀ {z : Text} (d : Char), (']' :: z).head? = some d → d = ']' := by
    intro z d hd
    exact (Option.some.inj hd).symm
  cases hs with
  | name c cs hc hcs =>
    cases hs' with
    | name c' cs' hc' hcs' =>
      obtain ⟨rfl, htail⟩ := List.cons.inj h
      obtain ⟨rfl, hxy⟩ := append_inj_of_head (hname hcs) (hname hcs') hx hy htail
      exact ⟨rfl, hxy⟩
    | ip6 cs' hcs' =>
      obtain ⟨rfl, -⟩ := List.cons.inj h
      exact absurd (by simp) hc
  | ip6 cs hcs =>
    cases hs' with
    | name c' cs' hc' hcs' =>
      obtain ⟨rfl, -⟩ := List.cons.inj h
      exact absurd (by simp) hc'
    | ip6 cs' hcs' =>
      rw [List.cons_append, List.cons_append, List.append_assoc, List.append_assoc] at h
      have htail := (List.cons.inj h).2
      obtain ⟨rfl, hxy⟩ := append_inj_of_head (hip6 hcs) (hip6 hcs') hend hend htail
      exact ⟨rfl, (List.cons.inj hxy).2⟩

theorem not_mem_part {c d : Char} {o : Option Text} (hc : d ≠ c) (ho : ∀ s, o = some s → d ∉ s) :
    d ∉ part c o := by
  cases o with
  | none => exact List.not_mem_nil
  | some s =>
    rw [part, List.mem_cons, not_or]
    exact ⟨hc, ho s rfl⟩

/-- Behind the userinfo there is no `@` any more. -/
theorem WellFormed.at_not_mem_rest (hu : u.WellFormed) : '@' ∉ u.rest := by
  have hport : '@' ∉ part ':' u.port := by
    refine not_mem_part (by decide) ?_
    intro s hs hmem
    exact absurd (hu.port s hs '@' hmem) (by decide)
  simp only [rest, List.mem_append, not_or]
  exact ⟨⟨⟨hu.host.at_not_mem, hport⟩, not_mem_part (by decide) fun s hs => (hu.params s hs).1⟩,
    not_mem_part (by decide) hu.headers⟩

/-- The parts behind the userinfo, one separator after the other. -/
theorem WellFormed.rest_inj (hu : u.WellFormed) (hv : v.WellFormed) (h : u.rest = v.rest) :
    u.host = v.host ∧ u.port = v.port ∧ u.params = v.params ∧ u.headers = v.headers := by
  have hport : ∀ {w : UriText}, w.WellFormed → ∀ s, w.port = some s → ∀ d ∈ s,
      ¬ d ∈ [';', '?'] := by
    intro w hw s hs d hd hmem
    have hdigit := hw.port s hs d hd
    simp only [List.mem_cons, List.not_mem_nil, or_false] at hmem
    rcases hmem with rfl | rfl
    · exact absurd hdigit (by decide)
    · exact absurd hdigit (by decide)
  have hparams : ∀ {w : UriText}, w.WellFormed → ∀ s, w.params = some s → ∀ d ∈ s, ¬ d = '?' := by
    rintro w hw s hs d hd rfl
    exact (hw.params s hs).2 hd
  have hrest : ∀ {P : Char → Prop} (w : UriText), P ';' → P '?' →
      ∀ d, (part ';' w.params ++ part '?' w.headers).head? = some d → P d :=
    fun w hsemi hq => head?_part_append hsemi (head?_part hq)
  simp only [rest, List.append_assoc] at h
  obtain ⟨hhost, h⟩ := hu.host.inj hv.host
    (head?_part_append (by simp) (hrest u (by simp) (by simp)))
    (head?_part_append (by simp) (hrest v (by simp) (by simp))) h
  obtain ⟨hports, h⟩ := part_inj (by simp) (hport hu) (hport hv) (hrest u (by simp) (by simp))
    (hrest v (by simp) (by simp)) h
  obtain ⟨hpars, h⟩ := part_inj (by simp) (hparams hu) (hparams hv) (head?_part rfl)
    (head?_part rfl) h
  exact ⟨hhost, hports, hpars, part_inj_nil h⟩

/-- What is behind an `@` is behind the userinfo. -/
theorem WellFormed.rest_of_print (hu : u.WellFormed) {xs ys : Text} (h : u.print = xs ++ '@' :: ys)
    (hxs : '@' ∉ xs) (hys : '@' ∉ ys) : u.rest = ys := by
  rw [print_eq] at h
  cases huser : u.user with
  | none =>
    rw [userinfo, huser, List.nil_append] at h
    exact absurd (by rw [h]; simp) hu.at_not_mem_rest
  | some s =>
    have hsplit : u.userinfo ++ u.rest = (s ++ part ':' u.passwd) ++ '@' :: u.rest := by
      rw [userinfo, huser]
      simp
    rw [hsplit, eq_comm, List.append_cons_inj_of_notMem hxs hys] at h
    exact h.2.2.symm

/-- **A text has its parts in one way**, unless its user begins with a bracket. -/
theorem print_injective (hu : u.WellFormed) (hv : v.WellFormed) (hb : ¬ u.Bracketed)
    (h : u.print = v.print) : u = v := by
  rw [print_eq, print_eq] at h
  have hat : ∀ {w : UriText}, w.user = none → '@' ∉ w.userinfo := by
    intro w hw
    rw [userinfo, hw]
    exact List.not_mem_nil
  have hmem : ∀ {w : UriText} {s : Text}, w.user = some s → '@' ∈ w.userinfo ++ w.rest := by
    intro w s hw
    rw [userinfo, hw]
    simp
  have hparts : ∀ {w : UriText}, w = ⟨w.user, w.passwd, w.host, w.port, w.params, w.headers⟩ := rfl
  cases huser : u.user with
  | none =>
    cases hvser : v.user with
    | none =>
      rw [userinfo, userinfo, huser, hvser] at h
      obtain ⟨h1, h2, h3, h4⟩ := hu.rest_inj hv h
      rw [@hparts u, @hparts v, huser, hvser, hu.noUser huser, hv.noUser hvser, h1, h2, h3, h4]
    | some s =>
      have hin := hmem hvser
      rw [← h, List.mem_append] at hin
      exact absurd hin (not_or.mpr ⟨hat huser, hu.at_not_mem_rest⟩)
  | some r =>
    cases hvser : v.user with
    | none =>
      have hin := hmem huser
      rw [h, List.mem_append] at hin
      exact absurd hin (not_or.mpr ⟨hat hvser, hv.at_not_mem_rest⟩)
    | some s =>
      have hsplit : ∀ {w : UriText} {s : Text}, w.user = some s →
          w.userinfo ++ w.rest = (s ++ part ':' w.passwd) ++ '@' :: w.rest := by
        intro w s hw
        rw [userinfo, hw]
        simp
      have hinfoAt : '@' ∉ r ++ part ':' u.passwd := by
        rw [List.mem_append, not_or]
        refine ⟨(hu.user r huser).2.1, ?_⟩
        exact not_mem_part (by decide) fun s hs => (hu.passwd s hs).1
      rw [hsplit huser, hsplit hvser,
        List.append_cons_inj_of_notMem hinfoAt hu.at_not_mem_rest] at h
      obtain ⟨hinfo, -, hrest⟩ := h
      obtain ⟨h1, h2, h3, h4⟩ := hu.rest_inj hv hrest
      obtain ⟨hne, -, hbr⟩ := hu.user r huser
      obtain ⟨hne', -, hbr'⟩ := hv.user s hvser
      have hhead : r.head? ≠ some '[' := by
        intro hr
        obtain ⟨r', rfl⟩ := List.head?_eq_some_iff.mp hr
        exact hb ⟨r', huser⟩
      have hhead' : s.head? = r.head? := by
        have hcons := congrArg List.head? hinfo
        rwa [List.head?_append_of_ne_nil _ hne, List.head?_append_of_ne_nil _ hne', eq_comm] at hcons
      have hcolon : ∀ d ∈ r, ¬ d = ':' := by
        rintro d hd rfl
        exact hbr.resolve_left hhead hd
      have hcolon' : ∀ d ∈ s, ¬ d = ':' := by
        rintro d hd rfl
        exact hbr'.resolve_left (hhead' ▸ hhead) hd
      obtain ⟨rfl, hpass⟩ := append_inj_of_head hcolon hcolon' (head?_part rfl) (head?_part rfl)
        hinfo
      have h5 := part_inj_nil hpass
      rw [@hparts u, @hparts v, huser, hvser, h1, h2, h3, h4, h5]

end Injective

end UriText

namespace ParseUri

/-- What a `str` points to, if it points anywhere. -/
def Str.text? (buf : Text) (r : Str) : Option Text := r.s.map fun a => (buf.drop a).take r.len

/-- The parts as the members of `sip_uri` have them. -/
def ParsedUri.texts (buf : Text) (uri : ParsedUri) : UriText where
  user := uri.user.text? buf
  passwd := uri.passwd.text? buf
  host := uri.host.text buf
  port := uri.port.text? buf
  params := uri.params.text? buf
  headers := uri.headers.text? buf

/-! ## 3. From offsets to texts -/

section Located

variable {t : Text} {k p h n m q : ℕ} {uri : ParsedUri} {user passwd port params headers : Str}
  {portNo : UInt16}

theorem text?_span (t : Text) (a b : ℕ) : (span (some a) b).text? t = some (slice t a b) := rfl

theorem text?_null (t : Text) : Str.null.text? t = none := rfl

/-- A part and the byte before it are a slice. -/
theorem part_slice {c : Char} {a b : ℕ} (hc : t[a]? = some c) (hab : a < b) :
    UriText.part c (some (slice t (a + 1) b)) = slice t a b := by
  rw [slice_eq_cons hab hc]
  rfl

/-- What stands before the host is the userinfo: three shapes, and three ways to print it. -/
theorem Before.userinfo (hbefore : Before t k user passwd true h) (texts : UriText)
    (huser : texts.user = user.text? t) (hpasswd : texts.passwd = passwd.text? t) :
    texts.userinfo = slice t k h := by
  unfold UriText.userinfo
  cases hbefore with
  | absent =>
    rw [huser, text?_null, slice_self]
  | user n hlt hat hcolon hfree =>
    rw [huser, hpasswd, text?_span, text?_null, slice_succ hlt.le hat]
    simp [UriText.part]
  | passwd m n hlt hmn hm hat hcolon hfree hpass =>
    rw [huser, hpasswd, text?_span, text?_span]
    simp only
    rw [part_slice hm hmn, slice_append hlt.le hmn.le, slice_succ (by omega) hat]

/-- Each optional part is printed as the stretch between two offsets of the invariant. -/
theorem PortAt.part (hport : PortAt t k h n port portNo m) :
    UriText.part ':' (port.text? t) = slice t n m := by
  cases hport with
  | absent => rw [text?_null, slice_self, UriText.part]
  | digits _ _ hlt hcolon => rw [text?_span, part_slice hcolon hlt]

theorem ParamsAt.part (hparams : ParamsAt t m params q) :
    UriText.part ';' (params.text? t) = slice t m q := by
  cases hparams with
  | absent => rw [text?_null, slice_self, UriText.part]
  | text _ hlt hsemi => rw [text?_span, part_slice hsemi hlt]

theorem HeadersAt.part (hheaders : HeadersAt t q p headers) :
    UriText.part '?' (headers.text? t) = slice t q p := by
  cases hheaders with
  | absent hp => rw [hp, text?_null, slice_self, UriText.part]
  | text hlt hq => rw [text?_span, part_slice hq hlt]

theorem HeadersAt.le (hheaders : HeadersAt t q p headers) : q ≤ p := by
  cases hheaders with
  | absent hp => omega
  | text hlt => omega

/-- The parts, put together, are what is behind the scheme. -/
theorem Located.print (hloc : Located t k p uri h n m q) : (uri.texts t).print = slice t k p := by
  have hhost : (uri.texts t).host = slice t h n := by
    change uri.host.text t = _
    rw [hloc.host]
    rfl
  have hkh := hloc.before.le
  have hhn := hloc.hostAt.lt
  have hnm := hloc.port.le
  have hmq := hloc.params.le
  have hqp := hloc.headers.le
  unfold UriText.print
  rw [hloc.before.userinfo (uri.texts t) rfl rfl, hhost]
  change slice t k h ++ slice t h n ++ UriText.part ':' (uri.port.text? t) ++
    UriText.part ';' (uri.params.text? t) ++ UriText.part '?' (uri.headers.text? t) = _
  rw [hloc.port.part, hloc.params.part, hloc.headers.part, slice_append hkh hhn.le,
    slice_append (by omega) hnm, slice_append (by omega) hmq, slice_append (by omega) hqp]

/-- Behind a user the host does not begin where the URI does. -/
theorem Before.start (hbefore : Before t k user passwd true h) (hsome : user.text? t ≠ none) :
    h ≠ k := by
  cases hbefore with
  | absent => exact absurd (text?_null t) hsome
  | user => omega
  | passwd => omega

/-- **The host is one of the grammar**; it is restricted further exactly behind a user. -/
theorem HostAt.host {strict : Prop} (hhost : HostAt t k h n) (hn : n ≤ t.length)
    (hk : strict → h ≠ k) : UriText.Host strict (slice t h n) := by
  cases hhost with
  | name hlt hhead hcolon hfree hstrict =>
    obtain ⟨c, hc⟩ : ∃ c, t[h]? = some c := ⟨_, List.getElem?_eq_getElem (by omega)⟩
    have hcons : slice t h n = c :: slice t (h + 1) n := slice_eq_cons hlt hc
    have hmem : strict → ∀ d ∈ c :: slice t (h + 1) n, d ∉ ['&', ';', '?'] := by
      intro hs
      rw [← hcons]
      exact Without.iff_mem.mp (hstrict (hk hs))
    rw [hcons]
    refine .name c _ ?_ ?_ hmem
    · have hne : c ≠ '[' := by
        rintro rfl
        exact hhead hc
      have hno := hcolon h c (Nat.le_refl _) hlt hc
      simp only [List.mem_cons, List.not_mem_nil, or_false, not_or] at hno ⊢
      exact ⟨hne, hno⟩
    · intro d hd
      obtain ⟨i, hi, hin, hdi⟩ := mem_slice.mp hd
      have h1 := hcolon i d (by omega) hin hdi
      have h2 := hfree i d hi hin hdi
      simp only [List.mem_cons, List.not_mem_nil, or_false, not_or] at h1 h2 ⊢
      exact ⟨h1.1, h1.2, h2.1, h2.2⟩
  | ip6 hlt hhead hlast hfree =>
    have hend : slice t (h + 1) n = slice t (h + 1) (n - 1) ++ [']'] := by
      rw [← slice_succ (by omega) hlast, Nat.sub_add_cancel (by omega)]
    rw [slice_eq_cons (by omega) hhead, hend]
    exact .ip6 _ (Without.iff_mem.mp hfree)

theorem slice_ne_nil {c : Char} {a b : ℕ} (hab : a < b) (hc : t[b]? = some c) :
    slice t a b ≠ [] := by
  have hb : b < t.length := (List.getElem?_eq_some_iff.mp hc).1
  rw [slice_eq_cons hab (List.getElem?_eq_getElem (by omega))]
  exact List.cons_ne_nil _ _

/-- A user with a colon in it was a bracketed address. -/
theorem ColonFree.slice (hab : k < n) (hfree : ColonFree t k n) :
    (slice t k n).head? = some '[' ∨ ':' ∉ slice t k n := by
  rcases hfree with hbr | hfree
  · rw [slice_eq_cons hab hbr]
    exact .inl rfl
  · exact .inr (hfree.not_mem (by simp))

/-- There is no password without a user. -/
theorem Before.noUser (hbefore : Before t k user passwd true h) (hnone : user.text? t = none) :
    passwd.text? t = none := by
  cases hbefore with
  | absent => rfl
  | user => rfl
  | passwd => cases hnone

/-- The user, without what ends it. -/
theorem Before.user_text (hbefore : Before t k user passwd true h) (s : Text)
    (hs : user.text? t = some s) : s ≠ [] ∧ '@' ∉ s ∧ (s.head? = some '[' ∨ ':' ∉ s) := by
  cases hbefore with
  | absent => cases hs
  | user n hlt hat hcolon hfree =>
    cases hs
    exact ⟨slice_ne_nil hlt hat, hfree.not_mem (by simp), hcolon.slice hlt⟩
  | passwd m n hlt hmn hm hat hcolon hfree hpass =>
    cases hs
    exact ⟨slice_ne_nil hlt hm, hfree.not_mem (by simp), hcolon.slice hlt⟩

theorem Before.passwd_text (hbefore : Before t k user passwd true h) (s : Text)
    (hs : passwd.text? t = some s) : '@' ∉ s ∧ ':' ∉ s := by
  cases hbefore with
  | absent => cases hs
  | user => cases hs
  | passwd m n hlt hmn hm hat hcolon hfree hpass =>
    cases hs
    exact ⟨hpass.not_mem (by simp), hpass.not_mem (by simp)⟩

/-- The port, likewise: each part is free of the bytes that end it. -/
theorem PortAt.digits_text (hport : PortAt t k h n port portNo m) (s : Text)
    (hs : port.text? t = some s) : Digits s := by
  cases hport with
  | absent => cases hs
  | digits _ _ hlt hcolon hdigits =>
    cases hs
    exact hdigits

theorem ParamsAt.params_text (hparams : ParamsAt t m params q) (s : Text)
    (hs : params.text? t = some s) : '@' ∉ s ∧ '?' ∉ s := by
  cases hparams with
  | absent => cases hs
  | text _ hlt hsemi hfree =>
    cases hs
    exact ⟨hfree.not_mem (by simp), hfree.not_mem (by simp)⟩

theorem HeadersAt.headers_text (hheaders : HeadersAt t q p headers) (s : Text)
    (hs : headers.text? t = some s) : '@' ∉ s := by
  cases hheaders with
  | absent => cases hs
  | text hlt hq hfree =>
    cases hs
    exact hfree.not_mem (by simp)

/-- The parts are well formed. -/
theorem Located.wellFormed (hloc : Located t k p uri h n m q) (hp : p ≤ t.length) :
    (uri.texts t).WellFormed where
  noUser := hloc.before.noUser
  user := hloc.before.user_text
  passwd := hloc.before.passwd_text
  host := by
    have hnm := hloc.port.le
    have hmq := hloc.params.le
    have hqp := hloc.headers.le
    change UriText.Host _ (uri.host.text t)
    rw [hloc.host]
    exact hloc.hostAt.host (by omega) hloc.before.start
  port := hloc.port.digits_text
  params := hloc.params.params_text
  headers := hloc.headers.headers_text

/-- The value of the port, unless there is a user that begins with a bracket. -/
theorem PortAt.value (hport : PortAt t k h n port portNo m) (hstale : ¬ Stale t k h) :
    portNo.toNat = (match port.text? t with | some s => decimal s | none => 0) % 65536 := by
  cases hport with
  | absent => rfl
  | digits _ _ hlt hcolon hdigits hval =>
    rw [hval hstale, text?_span]
    simp only [UInt32.toNat_toUInt16, UInt32.toNat_ofNat']
    exact Nat.mod_mod_of_dvd _ (by decide)

end Located

/-! ## 4. The function -/

/-- The shortest schemes are `sip:` and `tel:`. -/
theorem schemeOf_le {buf : Text} {type : UriType} {k : ℕ} (h : schemeOf buf = .ok (type, k)) :
    4 ≤ k := by
  unfold schemeOf at h
  simp only at h
  split at h
  · cases h; omega
  split at h
  · split at h
    · cases h; omega
    · cases h
  split at h
  · cases h; omega
  split at h
  · split at h
    · cases h; omega
    · split at h
      · cases h; omega
      · cases h
  · cases h

/-- A URI that is accepted, before the fix for the other schemes. -/
theorem parse_uri_eq_ok {buf : Text} {len : ℕ} {uri : ParsedUri} (hlen : len ≤ buf.length)
    (h : parse_uri buf len = .ok uri) :
    ∃ type k u, schemeOf buf = .ok (type, k) ∧ k ≤ len ∧ u.type = type ∧
      fixScheme u = .ok uri ∧ ∃ h n m q, Located (buf.take len) k len u h n m q := by
  unfold parse_uri at h
  split at h
  · cases h
  obtain ⟨-, -, h⟩ := bind_eq_ok.mp h
  obtain ⟨⟨type, k⟩, hscheme, h⟩ := bind_eq_ok.mp h
  obtain ⟨sc, hscan, h⟩ := bind_eq_ok.mp h
  obtain ⟨u, hfin, hfix⟩ := bind_eq_ok.mp h
  have hk : k ≤ len := by
    by_contra hlt
    have hnil : (buf.take len).drop k = [] := by
      rw [List.drop_eq_nil_iff, List.length_take]
      omega
    rw [hnil] at hscan
    cases hscan
    cases hfin
  have hsize : k + ((buf.take len).drop k).length = len := by
    rw [List.length_drop, List.length_take]
    omega
  have hinv := inv_scan rfl (.init rfl) hscan
  rw [hsize] at hinv
  rw [Nat.max_eq_right hk] at hfin
  obtain ⟨htype, hloc⟩ := located_finish hinv hfin
  exact ⟨type, k, u, hscheme, hk, htype, hfix, hloc⟩

/-- The parts, and the value of the port, in terms of the text. -/
theorem Located.texts {t : Text} {k p h n m q : ℕ} {u : ParsedUri}
    (hloc : Located t k p u h n m q) (hp : p = t.length) :
    t = t.take k ++ (u.texts t).print ∧ (u.texts t).WellFormed ∧
      (¬ (u.texts t).Bracketed → u.port_no.toNat = (u.texts t).portNo % 65536) := by
  refine ⟨?_, hloc.wellFormed (Nat.le_of_eq hp), ?_⟩
  · rw [hloc.print, hp, slice_length, List.take_append_drop]
  · intro hb
    refine hloc.port.value ?_
    rintro ⟨hhk, hbr⟩
    refine hb ?_
    have hbefore := hloc.before
    change ∃ s, u.user.text? t = some ('[' :: s)
    generalize u.user = user at hbefore ⊢
    generalize u.passwd = passwd at hbefore
    cases hbefore with
    | absent => exact absurd rfl hhk
    | user b hlt =>
      rw [text?_span, slice_eq_cons hlt hbr]
      exact ⟨_, rfl⟩
    | passwd a b hlt =>
      rw [text?_span, slice_eq_cons hlt hbr]
      exact ⟨_, rfl⟩

/-- The fix for the other schemes moves the parts, and leaves the number of the port. -/
theorem texts_fixScheme {t : Text} {k p h n m q : ℕ} {u uri : ParsedUri}
    (hloc : Located t k p u h n m q) (h : fixScheme u = .ok uri) :
    uri.texts t = (u.texts t).fix u.type ∧ uri.type = u.type ∧ uri.port_no = u.port_no := by
  have hhost : u.host.text? t = some (u.host.text t) := by
    rw [hloc.host]
    rfl
  have hempty : ((⟨some 0, 0⟩ : Str)).text t = [] := rfl
  unfold fixScheme at h
  unfold UriText.fix
  split at h
  all_goals first
    | (cases h; done)
    | (rename_i htype; cases h; rw [htype]; simp [ParsedUri.texts, hhost, hempty, text?_null])

/-- What is accepted has parts, and they are the members. -/
theorem parse_uri_parts {buf : Text} {len : ℕ} {uri : ParsedUri} (hlen : len ≤ buf.length)
    (h : parse_uri buf len = .ok uri) :
    ∃ k u, schemeOf buf = .ok (uri.type, k) ∧ k ≤ len ∧
      buf.take len = buf.take k ++ UriText.print u ∧ u.WellFormed ∧
      uri.texts (buf.take len) = u.fix uri.type ∧
      (¬ u.Bracketed → uri.port_no.toNat = u.portNo % 65536) := by
  obtain ⟨type, k, u, hscheme, hk, htype, hfix, _, _, _, _, hloc⟩ := parse_uri_eq_ok hlen h
  have hsize : len = (buf.take len).length := by
    rw [List.length_take]
    omega
  obtain ⟨htext, hwf, hport⟩ := hloc.texts hsize
  obtain ⟨hparts, hty, hno⟩ := texts_fixScheme hloc hfix
  refine ⟨k, u.texts (buf.take len), ?_, hk, ?_, hwf, ?_, ?_⟩
  · rw [hscheme, hty, htype]
  · rw [List.take_take, Nat.min_eq_left hk] at htext
    exact htext
  · rw [hparts, hty]
  · intro hb
    exact hno ▸ hport hb

/-- **What is accepted is a URI**: the text is a scheme and well-formed parts, and the members are
the parts, but for the fix.  Unless the user begins with a bracket, these are the only parts it has,
and `port_no` is the number of the port modulo 2^16. -/
theorem parse_uri_sound {buf : Text} {len : ℕ} {uri : ParsedUri} (hlen : len ≤ buf.length)
    (h : parse_uri buf len = .ok uri) :
    ∃ k u, schemeOf buf = .ok (uri.type, k) ∧ k ≤ len ∧
      buf.take len = buf.take k ++ UriText.print u ∧ u.WellFormed ∧
      uri.texts (buf.take len) = u.fix uri.type ∧
      (¬ u.Bracketed → uri.port_no.toNat = u.portNo % 65536 ∧
        ∀ v, v.WellFormed → buf.take len = buf.take k ++ UriText.print v → v = u) := by
  obtain ⟨k, u, hscheme, hk, htext, hwf, htexts, hport⟩ := parse_uri_parts hlen h
  refine ⟨k, u, hscheme, hk, htext, hwf, htexts, ?_⟩
  intro hb
  refine ⟨hport hb, ?_⟩
  intro v hv hsame
  exact (UriText.print_injective hwf hv hb
    (List.append_cancel_left (htext.symm.trans hsame))).symm

/-- A URI with all its parts. -/
theorem parse_uri_sound_full :
    ∃ uri, parse_uri "sip:a:b@h:5060;transport=udp?x=y".toList 32 = .ok uri ∧
      ∃ k u, schemeOf "sip:a:b@h:5060;transport=udp?x=y".toList = .ok (uri.type, k) ∧ k ≤ 32 ∧
        "sip:a:b@h:5060;transport=udp?x=y".toList.take 32 =
          "sip:a:b@h:5060;transport=udp?x=y".toList.take k ++ UriText.print u ∧ u.WellFormed ∧
        uri.texts ("sip:a:b@h:5060;transport=udp?x=y".toList.take 32) = u.fix uri.type ∧
        (¬ u.Bracketed → uri.port_no.toNat = u.portNo % 65536 ∧
          ∀ v, v.WellFormed → "sip:a:b@h:5060;transport=udp?x=y".toList.take 32 =
            "sip:a:b@h:5060;transport=udp?x=y".toList.take k ++ UriText.print v → v = u) := by
  obtain ⟨uri, huri⟩ :
      ∃ uri, parse_uri "sip:a:b@h:5060;transport=udp?x=y".toList 32 = .ok uri := ⟨_, rfl⟩
  exact ⟨uri, huri, parse_uri_sound (by decide) huri⟩

end ParseUri

end CallFwd.Sip
