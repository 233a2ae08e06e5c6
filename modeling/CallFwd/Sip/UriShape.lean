/-
# The parts of an accepted URI

`Inv` is the invariant of the loop, phase by phase, in offsets: where the user ends, the host, the
port, the parameters.  While no user is found the host may still turn out to be one, so the
invariant keeps what `still_at_user` needs, which is where the first colon is.
-/
import CallFwd.Lib.Decimal
import CallFwd.Lib.Slice
import CallFwd.Sip.UriScan
import Mathlib.Data.Bool.AllAny

namespace CallFwd.Sip.ParseUri

open Lib

/-! ## 1. The invariant -/

section Invariant

variable (t : Text) (k : ℕ) (type : UriType) (p : ℕ)

/-- Nothing of the host is known yet. -/
def Core.before (user passwd : Str) (s : ℕ) (pass : Option ℕ) (port_no : UInt32)
    (found_user : Bool) : Core where
  s := s
  pass := pass
  port_no := port_no
  found_user := found_user
  error_headers := false
  user := user
  passwd := passwd
  host := .null
  port := .null
  params := .null
  headers := .null
  portNo := 0
  type := type

/-- A text that begins with `[` may have colons. -/
def ColonFree (n : ℕ) : Prop := t[k]? = some '[' ∨ Without t [':'] k n

/-- What stands before the host at `h`: nothing, a user, or a user and a password. -/
inductive Before : Str → Str → Bool → ℕ → Prop
  | absent (found : Bool) : Before .null .null found k
  | user (n : ℕ) (hlt : k < n) (hat : t[n]? = some '@') (hcolon : ColonFree t k n)
      (hfree : Without t ['@'] k n) : Before (span (some k) n) .null true (n + 1)
  | passwd (m n : ℕ) (hlt : k < m) (hmn : m < n) (hm : t[m]? = some ':')
      (hat : t[n]? = some '@') (hcolon : ColonFree t k m) (hfree : Without t ['@'] k m)
      (hpass : Without t ['@', ':'] (m + 1) n) :
      Before (span (some k) m) (span (some (m + 1)) n) true (n + 1)

/-- A host from `h` to `n`: a name, or an address in brackets.  Behind a user a name is checked more
strictly. -/
inductive HostAt (h n : ℕ) : Prop
  | name (hlt : h < n) (hhead : t[h]? ≠ some '[') (hcolon : Without t ['@', ':'] h n)
      (hfree : Without t [';', '?'] (h + 1) n) (hstrict : h ≠ k → Without t ['&', ';', '?'] h n)
  | ip6 (hlt : h + 1 < n) (hhead : t[h]? = some '[') (hlast : t[n - 1]? = some ']')
      (hfree : Without t ['[', ']', '&', '@', ';', '?'] (h + 1) (n - 1))

/-- The port of a bracketed text that turned out to be the user is still in `port_no`. -/
def Stale (h : ℕ) : Prop := h ≠ k ∧ t[k]? = some '['

/-- A port behind the host, if there is one. -/
inductive PortAt (h n : ℕ) : Str → UInt16 → ℕ → Prop
  | absent : PortAt h n .null 0 n
  | digits (m : ℕ) (portNo : UInt16) (hlt : n < m) (hcolon : t[n]? = some ':')
      (hdigits : Digits (slice t (n + 1) m))
      (hval : ¬ Stale t k h → portNo = (UInt32.ofNat (decimal (slice t (n + 1) m))).toUInt16) :
      PortAt h n (span (some (n + 1)) m) portNo m

/-- Parameters behind that, if there are any. -/
inductive ParamsAt (m : ℕ) : Str → ℕ → Prop
  | absent : ParamsAt m .null m
  | text (q : ℕ) (hlt : m < q) (hsemi : t[m]? = some ';')
      (hfree : Without t ['@', '?'] (m + 1) q) : ParamsAt m (span (some (m + 1)) q) q

/-- The mark of the password: the first colon, and none after it. -/
def PassAt : Option ℕ → Prop
  | none => ColonFree t k p
  | some q => k < q ∧ q < p ∧ t[q]? = some ':' ∧ ColonFree t k q ∧ Without t [':'] (q + 1) p

/-- What `still_at_user` needs while no user is found. -/
structure MayBeUser (h : ℕ) (pass : Option ℕ) (port_no : UInt32) : Prop where
  start : h = k
  pass : PassAt t k p pass
  port : t[k]? = some '[' ∨ port_no = 0

/-- **The invariant of the loop**, before the byte at `p`. -/
inductive Inv : Phase → Core → Prop
  | init (hp : p = k) : Inv .init (.before type .null .null k none 0 false)
  | user (hlt : k < p) (hhead : t[k]? ≠ some '[') (hcolon : Without t ['@', ':'] k p)
      (hfree : Without t [';', '?'] (k + 1) p) :
      Inv .user (.before type .null .null k none 0 false)
  | password (m : ℕ) (hhost : HostAt t k k m) (hhead : t[k]? ≠ some '[') (hmp : m < p)
      (hm : t[m]? = some ':') (hdigits : Digits (slice t (m + 1) p)) :
      Inv .password (.before type (span (some k) m) .null (m + 1) none
        (UInt32.ofNat (decimal (slice t (m + 1) p))) false)
  | passwordAlpha (m : ℕ) (hhost : HostAt t k k m) (hhead : t[k]? ≠ some '[') (hmp : m < p)
      (hm : t[m]? = some ':') (hfree : Without t ['@', ':'] (m + 1) p) :
      Inv .passwordAlpha (.before type (span (some k) m) .null (m + 1) none 0 false)
  | host (h : ℕ) (user passwd : Str) (pass : Option ℕ) (port_no : UInt32)
      (hbefore : Before t k user passwd true h) (hk : h ≠ k) (hp : p = h)
      (hport : Stale t k h ∨ port_no = 0) :
      Inv .host (.before type user passwd h pass port_no true)
  | hostP (h : ℕ) (user passwd : Str) (pass : Option ℕ) (port_no : UInt32)
      (hbefore : Before t k user passwd true h) (hk : h ≠ k) (hlt : h < p)
      (hport : Stale t k h ∨ port_no = 0) (hhead : t[h]? ≠ some '[')
      (hcolon : Without t ['@', ':'] h p) (hfree : Without t ['&', ';', '?'] h p) :
      Inv .hostP (.before type user passwd h pass port_no true)
  | host6P (h : ℕ) (user passwd : Str) (pass : Option ℕ) (port_no : UInt32) (found : Bool)
      (hbefore : Before t k user passwd found h) (hlt : h < p)
      (hport : Stale t k h ∨ port_no = 0) (hfound : found = false → h = k ∧ pass = none)
      (hhead : t[h]? = some '[')
      (hfree : Without t ['[', ']', '&', '@', ';', '?'] (h + 1) p) :
      Inv .host6P (.before type user passwd h pass port_no found)
  | host6End (h : ℕ) (user passwd : Str) (pass : Option ℕ) (port_no : UInt32) (found : Bool)
      (hbefore : Before t k user passwd found h)
      (hport : Stale t k h ∨ port_no = 0) (hfound : found = false → h = k ∧ pass = none)
      (hhead : t[h]? = some '[') (hhost : HostAt t k h p) :
      Inv .host6End (.before type user passwd h pass port_no found)
  | port (h n : ℕ) (user passwd : Str) (pass : Option ℕ) (port_no : UInt32) (found : Bool)
      (hbefore : Before t k user passwd found h) (hhost : HostAt t k h n)
      (hfound : found = false → h = k ∧ pass = none ∧ t[k]? = some '[')
      (hnp : n < p) (hn : t[n]? = some ':') (hdigits : Digits (slice t (n + 1) p))
      (hval : ¬ Stale t k h → port_no = UInt32.ofNat (decimal (slice t (n + 1) p))) :
      Inv .port { Core.before type user passwd (n + 1) pass port_no found with
        host := span (some h) n }
  | params (h n m : ℕ) (user passwd port : Str) (portNo : UInt16) (pass : Option ℕ)
      (port_no : UInt32) (found : Bool)
      (hbefore : Before t k user passwd found h) (hhost : HostAt t k h n)
      (hport : PortAt t k h n port portNo m)
      (hfound : found = false → MayBeUser t k p h pass port_no)
      (hmp : m < p) (hm : t[m]? = some ';') (hfree : Without t ['@', '?'] (m + 1) p) :
      Inv .params { Core.before type user passwd (m + 1) pass port_no found with
        host := span (some h) n, port := port, portNo := portNo }
  | headers (h n m q : ℕ) (user passwd port params : Str) (portNo : UInt16) (pass : Option ℕ)
      (port_no : UInt32) (found error_headers : Bool)
      (hbefore : Before t k user passwd found h) (hhost : HostAt t k h n)
      (hport : PortAt t k h n port portNo m) (hparams : ParamsAt t m params q)
      (hfound : found = false → MayBeUser t k p h pass port_no)
      (hqp : q < p) (hq : t[q]? = some '?') (hfree : Without t ['@'] (q + 1) p) :
      Inv .headers { Core.before type user passwd (q + 1) pass port_no found with
        host := span (some h) n, port := port, portNo := portNo, params := params
        error_headers := error_headers }

end Invariant

variable {t : Text} {k p : ℕ} {type : UriType} {c : Char} {sc sc' : Scan}

/-! ## 2. One byte, phase by phase -/

/-- A host is not empty. -/
theorem HostAt.lt {h n : ℕ} (hhost : HostAt t k h n) : h < n := by
  cases hhost with
  | name hlt => exact hlt
  | ip6 hlt => omega

/-- Neither kind of host has an `@`, which would have made it a user. -/
theorem HostAt.noAt {h n : ℕ} (hhost : HostAt t k h n) : Without t ['@'] h n := by
  cases hhost with
  | name _ _ hcolon => exact hcolon.mono (Nat.le_refl _) (Nat.le_refl _) (by simp)
  | ip6 hlt hhead hlast hfree =>
    have hinner : Without t ['@'] (h + 1) (n - 1) :=
      hfree.mono (Nat.le_refl _) (Nat.le_refl _) (by simp)
    have hfirst : Without t ['@'] h (h + 1) := (Without.refl _ _ _).succ hhead (by simp)
    have hend : Without t ['@'] (n - 1) (n - 1 + 1) := (Without.refl _ _ _).succ hlast (by simp)
    rw [Nat.sub_add_cancel (by omega)] at hend
    exact (hfirst.append hinner).append hend

/-- A host has no colon outside its brackets. -/
theorem HostAt.colonFree {h n : ℕ} (hhost : HostAt t k h n) : ColonFree t h n := by
  cases hhost with
  | name _ _ hcolon => exact .inr (hcolon.mono (Nat.le_refl _) (Nat.le_refl _) (by simp))
  | ip6 _ hhead _ _ => exact .inl hhead

/-- Digits are none of the separators. -/
theorem without_of_digits {cs : Text} {a b : ℕ} (h : Digits (slice t a b))
    (hcs : ∀ c ∈ cs, c.isDigit = false) : Without t cs a b := by
  refine Without.iff_mem.mpr ?_
  intro c hc hmem
  have hdigit := h c hc
  rw [hcs c hmem] at hdigit
  cases hdigit

/-- One more digit of the port. -/
theorem case_port_digits {a : ℕ} (hap : a ≤ p) (hc : t[p]? = some c) (hdigit : c.isDigit = true)
    (hdigits : Digits (slice t a p)) (port_no : UInt32) :
    Digits (slice t a (p + 1)) ∧
      (port_no = UInt32.ofNat (decimal (slice t a p)) →
        port_no * 10 + UInt32.ofNat (c.toNat - '0'.toNat) =
          UInt32.ofNat (decimal (slice t a (p + 1)))) := by
  rw [slice_succ hap hc]
  refine ⟨Digits.append_iff.mpr ⟨hdigits, Digits.cons_iff.mpr ⟨hdigit, Digits.nil⟩⟩, ?_⟩
  rintro rfl
  have hval : decimal (slice t a p ++ [c]) = decimal (slice t a p) * 10 + (c.toNat - 48) := by
    rw [decimal, ofDigitChars_append_zero, ofDigitChars_cons_zero, decimal]
    simp [Nat.mul_comm]
  rw [hval, UInt32.ofNat_add, UInt32.ofNat_mul]
  rfl

/-- The first byte: a bracket opens an address, and any other byte but `@` and `:` a name, which may
be the user or the host. -/
theorem step_init (hst : sc.state = .URI_INIT)
    (hcore : core sc = .before type .null .null k none 0 false) (hp : p = k)
    (hc : t[p]? = some c) (h : step p c sc = .ok sc') :
    Inv t k type (p + 1) (phase sc'.state) (core sc') := by
  subst hp
  simp only [step, hst] at h
  split at h
  · rename_i hbr
    cases h
    change Inv t p type (p + 1) .host6P { core sc with s := p }
    rw [hcore]
    exact .host6P p .null .null none 0 false (.absent false) (by omega) (.inr rfl)
      (fun _ => ⟨rfl, rfl⟩) (hbr ▸ hc) (.refl _ _ _)
  · rename_i hbr
    split at h
    · cases h
    · rename_i hbad
      cases h
      change Inv t p type (p + 1) .user (core sc)
      rw [hcore]
      refine .user (by omega) ?_ ?_ (.refl _ _ _)
      · rw [hc]
        simpa using hbr
      · refine (Without.refl _ _ _).succ hc ?_
        simp only [not_or] at hbad
        simp [hbad]

/-- A name without a user so far.  An `@` makes it the user; a colon leaves open whether a password
or a port follows. -/
theorem step_user (hst : sc.state = .URI_USER)
    (hcore : core sc = .before type .null .null k none 0 false) (hlt : k < p)
    (hhead : t[k]? ≠ some '[') (hcolon : Without t ['@', ':'] k p)
    (hfree : Without t [';', '?'] (k + 1) p) (hc : t[p]? = some c)
    (h : step p c sc = .ok sc') : Inv t k type (p + 1) (phase sc'.state) (core sc') := by
  have hs : sc.s = k := congrArg Core.s hcore
  have hhost : HostAt t k k p := .name hlt hhead hcolon hfree (absurd rfl ·)
  have hmay : MayBeUser t k (p + 1) k none 0 ∨ c = ':' := by
    by_cases hcol : c = ':'
    · exact .inr hcol
    · refine .inl ⟨rfl, .inr ((hcolon.mono (Nat.le_refl _) (Nat.le_refl _) ?_).succ hc ?_), .inr rfl⟩
      · simp
      · simpa using hcol
  simp only [step, hst] at h
  split at h
  · rename_i hat
    cases h
    change Inv t k type (p + 1) .host { core sc with
      user := span (some sc.s) p, found_user := true, s := p + 1 }
    rw [hcore, hs]
    refine .host (p + 1) _ _ _ _ (.user p hlt (hat ▸ hc) (.inr ?_) ?_) (by omega) rfl (.inr rfl)
    · exact hcolon.mono (Nat.le_refl _) (Nat.le_refl _) (by simp)
    · exact hcolon.mono (Nat.le_refl _) (Nat.le_refl _) (by simp)
  split at h
  · rename_i hcol
    cases h
    change Inv t k type (p + 1) .password { core sc with
      user := span (some sc.s) p, s := p + 1 }
    rw [hcore, hs]
    have hnil : slice t (p + 1) (p + 1) = [] := slice_self t (p + 1)
    have hpass := @Inv.password t k type (p + 1) p hhost hhead (by omega) (hcol ▸ hc)
      (by rw [hnil]; exact Digits.nil)
    rw [hnil] at hpass
    exact hpass
  split at h
  · rename_i hcol hsemi
    cases h
    change Inv t k type (p + 1) .params { core sc with host := span (some sc.s) p, s := p + 1 }
    rw [hcore, hs]
    exact .params k p p .null .null .null 0 none 0 false (.absent false) hhost .absent
      (fun _ => hmay.resolve_right hcol) (by omega) (hsemi ▸ hc) (.refl _ _ _)
  split at h
  · rename_i hcol hsemi hq
    cases h
    change Inv t k type (p + 1) .headers { core sc with host := span (some sc.s) p, s := p + 1 }
    rw [hcore, hs]
    exact .headers k p p p .null .null .null .null 0 none 0 false false (.absent false) hhost
      .absent .absent (fun _ => hmay.resolve_right hcol) (by omega) (hq ▸ hc) (.refl _ _ _)
  split at h
  · cases h
  · rename_i hat hcol hsemi hq hbr
    cases h
    change Inv t k type (p + 1) (phase sc.state) (core sc)
    rw [hcore, hst]
    refine .user (by omega) hhead (hcolon.succ hc ?_) (hfree.succ hc ?_)
    · simp [hat, hcol]
    · simp [hsemi, hq]

/-- Digits behind the colon: a password if an `@` comes, a port if a `;` or a `?` comes. -/
theorem step_password {m : ℕ} (hst : sc.state = .URI_PASSWORD)
    (hcore : core sc = .before type (span (some k) m) .null (m + 1) none
      (UInt32.ofNat (decimal (slice t (m + 1) p))) false)
    (hhost : HostAt t k k m) (hhead : t[k]? ≠ some '[') (hmp : m < p) (hm : t[m]? = some ':')
    (hdigits : Digits (slice t (m + 1) p)) (hc : t[p]? = some c) (h : step p c sc = .ok sc') :
    Inv t k type (p + 1) (phase sc'.state) (core sc') := by
  have hs : sc.s = m + 1 := congrArg Core.s hcore
  have huser : sc.uri.user = span (some k) m := congrArg Core.user hcore
  have hno : sc.port_no = UInt32.ofNat (decimal (slice t (m + 1) p)) :=
    congrArg Core.port_no hcore
  have hfree : Without t ['@', ':'] (m + 1) p := without_of_digits hdigits (List.all_iff_forall_prop.mp rfl)
  have hport : PortAt t k k m (span (some (m + 1)) p) sc.port_no.toUInt16 p :=
    .digits p _ hmp hm hdigits (fun _ => by rw [hno])
  simp only [step, hst] at h
  split at h
  · rename_i hat
    cases h
    change Inv t k type (p + 1) .host { core sc with
      passwd := span (some sc.s) p, port_no := 0, found_user := true, s := p + 1 }
    rw [hcore, hs]
    exact .host (p + 1) _ _ _ _ (.passwd m p hhost.lt hmp hm (hat ▸ hc) hhost.colonFree hhost.noAt
      hfree) (by have := hhost.lt; omega) rfl (.inr rfl)
  split at h
  · rename_i hat hsep
    cases h
    have hgoal : Inv t k type (p + 1) (phase (if c = ';' then .URI_PARAM else .URI_HEADERS))
        { core sc with
          port := span (some sc.s) p, portNo := sc.port_no.toUInt16, host := sc.uri.user
          user := .null, found_user := true, s := p + 1 } := by
      rw [hcore, hs, huser]
      split
      · rename_i hsemi
        exact .params k m p .null .null _ _ none _ true (.absent true) hhost hport nofun
          (by omega) (hsemi ▸ hc) (.refl _ _ _)
      · rename_i hsemi
        exact .headers k m p p .null .null _ .null _ none _ true false (.absent true) hhost hport
          .absent nofun (by omega) (hsep.resolve_left hsemi ▸ hc) (.refl _ _ _)
    exact hgoal
  split at h
  · rename_i hat hsep hdigit
    cases h
    obtain ⟨hmore, hval⟩ := case_port_digits (by omega) hc hdigit hdigits sc.port_no
    change Inv t k type (p + 1) (phase sc.state) { core sc with
      port_no := sc.port_no * 10 + UInt32.ofNat (c.toNat - '0'.toNat) }
    rw [hst, hcore, hval hno]
    exact .password m hhost hhead (by omega) hm hmore
  split at h
  · cases h
  · rename_i hat hsep hdigit hbad
    cases h
    change Inv t k type (p + 1) .passwordAlpha { core sc with port_no := 0 }
    rw [hcore]
    refine .passwordAlpha m hhost hhead (by omega) hm (hfree.succ hc ?_)
    simp only [not_or] at hbad
    simp [hat, hbad]

/-- A byte that is no digit: only a password can be meant, and what is not ended by an `@` is
refused. -/
theorem step_passwordAlpha {m : ℕ} (hst : sc.state = .URI_PASSWORD_ALPHA)
    (hcore : core sc = .before type (span (some k) m) .null (m + 1) none 0 false)
    (hhost : HostAt t k k m) (hhead : t[k]? ≠ some '[') (hmp : m < p) (hm : t[m]? = some ':')
    (hfree : Without t ['@', ':'] (m + 1) p) (hc : t[p]? = some c) (h : step p c sc = .ok sc') :
    Inv t k type (p + 1) (phase sc'.state) (core sc') := by
  have hs : sc.s = m + 1 := congrArg Core.s hcore
  simp only [step, hst] at h
  split at h
  · rename_i hat
    cases h
    change Inv t k type (p + 1) .host { core sc with
      passwd := span (some sc.s) p, found_user := true, s := p + 1 }
    rw [hcore, hs]
    exact .host (p + 1) _ _ _ _ (.passwd m p hhost.lt hmp hm (hat ▸ hc) hhost.colonFree hhost.noAt
      hfree) (by have := hhost.lt; omega) rfl (.inr rfl)
  split at h
  · cases h
  split at h
  · cases h
  · rename_i hat hsep hbad
    cases h
    rw [hst, hcore]
    refine .passwordAlpha m hhost hhead (by omega) hm (hfree.succ hc ?_)
    simp only [not_or] at hbad
    simp [hat, hbad]

/-- The first byte behind the `@`. -/
theorem step_host {h : ℕ} {user passwd : Str} {pass : Option ℕ} {port_no : UInt32}
    (hst : sc.state = .URI_HOST) (hcore : core sc = .before type user passwd h pass port_no true)
    (hbefore : Before t k user passwd true h) (hk : h ≠ k) (hp : p = h)
    (hport : Stale t k h ∨ port_no = 0) (hc : t[p]? = some c) (hstep : step p c sc = .ok sc') :
    Inv t k type (p + 1) (phase sc'.state) (core sc') := by
  subst hp
  simp only [step, hst] at hstep
  split at hstep
  · rename_i hbr
    cases hstep
    change Inv t k type (p + 1) .host6P (core sc)
    rw [hcore]
    exact .host6P p _ _ _ _ true hbefore (by omega) hport nofun (hbr ▸ hc) (.refl _ _ _)
  split at hstep
  · cases hstep
  · rename_i hbr hbad
    cases hstep
    change Inv t k type (p + 1) .hostP (core sc)
    rw [hcore]
    simp only [not_or] at hbad
    refine .hostP p _ _ _ _ hbefore hk (by omega) hport ?_ ((Without.refl _ _ _).succ hc ?_)
      ((Without.refl _ _ _).succ hc ?_)
    · rw [hc]
      simpa using hbr
    · simp [hbad]
    · simp [hbad]

/-- What may follow a host: a port, parameters or headers. -/
theorem host_end {h : ℕ} {user passwd : Str} {pass : Option ℕ} {port_no : UInt32} {found : Bool}
    (hcore : core sc = .before type user passwd h pass port_no found)
    (hbefore : Before t k user passwd found h) (hhost : HostAt t k h p)
    (hport : Stale t k h ∨ port_no = 0)
    (hfound : found = false → h = k ∧ pass = none ∧ t[k]? = some '[')
    (hc : t[p]? = some c) :
    (c = ':' → Inv t k type (p + 1) .port (core (check_host_end p sc .URI_PORT))) ∧
    (c = ';' → Inv t k type (p + 1) .params (core (check_host_end p sc .URI_PARAM))) ∧
    (c = '?' → Inv t k type (p + 1) .headers (core (check_host_end p sc .URI_HEADERS))) := by
  have hs : sc.s = h := congrArg Core.s hcore
  have hcheck : ∀ next, core (check_host_end p sc next) =
      { core sc with host := span (some sc.s) p, s := p + 1 } := fun _ => rfl
  have hmay : found = false → MayBeUser t k (p + 1) h pass port_no := by
    intro hf
    obtain ⟨hk, hpass, hbr⟩ := hfound hf
    exact ⟨hk, hpass ▸ .inl hbr, .inl hbr⟩
  simp only [hcheck, hcore, hs]
  refine ⟨?_, ?_, ?_⟩
  · intro hcol
    refine .port h p _ _ _ _ _ hbefore hhost hfound (by omega) (hcol ▸ hc) ?_ ?_
    · rw [slice_self]
      exact Digits.nil
    · intro hstale
      rw [slice_self, hport.resolve_left hstale]
      rfl
  · intro hsemi
    exact .params h p p _ _ .null 0 _ _ _ hbefore hhost .absent hmay (by omega) (hsemi ▸ hc)
      (.refl _ _ _)
  · intro hq
    exact .headers h p p p _ _ .null .null 0 _ _ _ false hbefore hhost .absent .absent hmay
      (by omega) (hq ▸ hc) (.refl _ _ _)

/-- A name behind a user, which is checked more strictly than one that might be the user. -/
theorem step_hostP {h : ℕ} {user passwd : Str} {pass : Option ℕ} {port_no : UInt32}
    (hst : sc.state = .URI_HOST_P) (hcore : core sc = .before type user passwd h pass port_no true)
    (hbefore : Before t k user passwd true h) (hk : h ≠ k) (hlt : h < p)
    (hport : Stale t k h ∨ port_no = 0) (hhead : t[h]? ≠ some '[')
    (hcolon : Without t ['@', ':'] h p) (hfree : Without t ['&', ';', '?'] h p)
    (hc : t[p]? = some c) (hstep : step p c sc = .ok sc') :
    Inv t k type (p + 1) (phase sc'.state) (core sc') := by
  have hrest : Without t [';', '?'] (h + 1) p := hfree.mono (by omega) (Nat.le_refl _) (by simp)
  obtain ⟨hcol, hsemi, hq⟩ := host_end hcore hbefore
    (.name hlt hhead hcolon hrest fun _ => hfree) hport nofun hc
  simp only [step, hst] at hstep
  split at hstep
  · cases hstep
    exact hcol ‹_›
  split at hstep
  · cases hstep
    exact hsemi ‹_›
  split at hstep
  · cases hstep
    exact hq ‹_›
  split at hstep
  · cases hstep
  · rename_i h1 h2 h3 h4
    cases hstep
    rw [hst, hcore]
    simp only [not_or] at h4
    refine .hostP h _ _ _ _ hbefore hk (by omega) hport hhead (hcolon.succ hc ?_) (hfree.succ hc ?_)
    · simp [h1, h4]
    · simp [h2, h3, h4]

/-- Behind the closing bracket one of three separators has to follow. -/
theorem step_host6End {h : ℕ} {user passwd : Str} {pass : Option ℕ} {port_no : UInt32}
    {found : Bool} (hst : sc.state = .URI_HOST6_END)
    (hcore : core sc = .before type user passwd h pass port_no found)
    (hbefore : Before t k user passwd found h) (hport : Stale t k h ∨ port_no = 0)
    (hfound : found = false → h = k ∧ pass = none) (hhead : t[h]? = some '[')
    (hhost : HostAt t k h p) (hc : t[p]? = some c) (hstep : step p c sc = .ok sc') :
    Inv t k type (p + 1) (phase sc'.state) (core sc') := by
  obtain ⟨hcol, hsemi, hq⟩ := host_end hcore hbefore hhost hport
    (fun hf => ⟨(hfound hf).1, (hfound hf).2, (hfound hf).1 ▸ hhead⟩) hc
  simp only [step, hst] at hstep
  split at hstep
  · cases hstep
    exact hcol ‹_›
  split at hstep
  · cases hstep
    exact hsemi ‹_›
  split at hstep
  · cases hstep
    exact hq ‹_›
  split at hstep
  · cases hstep
  · cases hstep

/-- Inside the brackets. -/
theorem step_host6P {h : ℕ} {user passwd : Str} {pass : Option ℕ} {port_no : UInt32}
    {found : Bool} (hst : sc.state = .URI_HOST6_P)
    (hcore : core sc = .before type user passwd h pass port_no found)
    (hbefore : Before t k user passwd found h) (hlt : h < p) (hport : Stale t k h ∨ port_no = 0)
    (hfound : found = false → h = k ∧ pass = none) (hhead : t[h]? = some '[')
    (hfree : Without t ['[', ']', '&', '@', ';', '?'] (h + 1) p) (hc : t[p]? = some c)
    (hstep : step p c sc = .ok sc') : Inv t k type (p + 1) (phase sc'.state) (core sc') := by
  simp only [step, hst] at hstep
  split at hstep
  · rename_i hbr
    cases hstep
    change Inv t k type (p + 1) .host6End (core sc)
    rw [hcore]
    exact .host6End h _ _ _ _ _ hbefore hport hfound hhead (.ip6 (by omega) hhead (hbr ▸ hc) hfree)
  split at hstep
  · cases hstep
  · rename_i hbr hbad
    cases hstep
    rw [hst, hcore]
    simp only [not_or] at hbad
    refine .host6P h _ _ _ _ _ hbefore (by omega) hport hfound hhead (hfree.succ hc ?_)
    simp [hbr, hbad]

/-- The digits of the port; nothing but a `;` or a `?` may end them here. -/
theorem step_port {h n : ℕ} {user passwd : Str} {pass : Option ℕ} {port_no : UInt32}
    {found : Bool} (hst : sc.state = .URI_PORT)
    (hcore : core sc = { Core.before type user passwd (n + 1) pass port_no found with
      host := span (some h) n })
    (hbefore : Before t k user passwd found h) (hhost : HostAt t k h n)
    (hfound : found = false → h = k ∧ pass = none ∧ t[k]? = some '[')
    (hnp : n < p) (hn : t[n]? = some ':') (hdigits : Digits (slice t (n + 1) p))
    (hval : ¬ Stale t k h → port_no = UInt32.ofNat (decimal (slice t (n + 1) p)))
    (hc : t[p]? = some c) (hstep : step p c sc = .ok sc') :
    Inv t k type (p + 1) (phase sc'.state) (core sc') := by
  have hs : sc.s = n + 1 := congrArg Core.s hcore
  have hno : sc.port_no = port_no := congrArg Core.port_no hcore
  have hport : PortAt t k h n (span (some (n + 1)) p) sc.port_no.toUInt16 p :=
    .digits p _ hnp hn hdigits (fun hstale => by rw [hno, hval hstale])
  have hmay : found = false → MayBeUser t k (p + 1) h pass port_no := by
    intro hf
    obtain ⟨hk, hpass, hbr⟩ := hfound hf
    exact ⟨hk, hpass ▸ .inl hbr, .inl hbr⟩
  simp only [step, hst] at hstep
  split at hstep
  · rename_i hsep
    cases hstep
    have hgoal : Inv t k type (p + 1) (phase (if c = ';' then .URI_PARAM else .URI_HEADERS))
        { core sc with port := span (some sc.s) p, portNo := sc.port_no.toUInt16, s := p + 1 } := by
      rw [hcore, hs]
      split
      · rename_i hsemi
        exact .params h n p _ _ _ _ _ _ _ hbefore hhost hport hmay (by omega) (hsemi ▸ hc)
          (.refl _ _ _)
      · rename_i hsemi
        exact .headers h n p p _ _ _ .null _ _ _ _ false hbefore hhost hport .absent hmay
          (by omega) (hsep.resolve_left hsemi ▸ hc) (.refl _ _ _)
    exact hgoal
  split at hstep
  · rename_i hsep hdigit
    cases hstep
    obtain ⟨hmore, hnext⟩ := case_port_digits (by omega) hc hdigit hdigits port_no
    change Inv t k type (p + 1) (phase sc.state) { core sc with
      port_no := sc.port_no * 10 + UInt32.ofNat (c.toNat - '0'.toNat) }
    rw [hst, hcore, hno]
    exact .port h n _ _ _ _ _ hbefore hhost hfound (by omega) hn hmore
      (fun hstale => hnext (hval hstale))
  · cases hstep

/-! ## 3. One byte behind the host -/

theorem PortAt.le {h n m : ℕ} {port : Str} {portNo : UInt16} (hport : PortAt t k h n port portNo m) :
    n ≤ m := by
  cases hport with
  | absent => exact Nat.le_refl _
  | digits _ _ hlt => omega

/-- Digits behind a colon. -/
theorem PortAt.noAt {h n m : ℕ} {port : Str} {portNo : UInt16}
    (hport : PortAt t k h n port portNo m) : Without t ['@'] n m := by
  cases hport with
  | absent => exact .refl _ _ _
  | digits _ _ _ hcolon hdigits _ =>
    have hfirst : Without t ['@'] n (n + 1) := (Without.refl _ _ _).succ hcolon (by simp)
    exact hfirst.append (without_of_digits hdigits (List.all_iff_forall_prop.mp rfl))

theorem ParamsAt.le {m q : ℕ} {params : Str} (hparams : ParamsAt t m params q) : m ≤ q := by
  cases hparams with
  | absent => exact Nat.le_refl _
  | text _ hlt => omega

/-- An `@` would have been taken by `still_at_user`. -/
theorem ParamsAt.noAt {m q : ℕ} {params : Str} (hparams : ParamsAt t m params q) :
    Without t ['@'] m q := by
  cases hparams with
  | absent => exact .refl _ _ _
  | text _ _ hsemi hfree =>
    have hfirst : Without t ['@'] m (m + 1) := (Without.refl _ _ _).succ hsemi (by simp)
    exact hfirst.append (hfree.mono (Nat.le_refl _) (Nat.le_refl _) (by simp))

/-- The password mark over one more byte that is no colon. -/
theorem PassAt.succ {pass : Option ℕ} (h : PassAt t k p pass) (hc : t[p]? = some c) (hne : c ≠ ':') :
    PassAt t k (p + 1) pass := by
  cases pass with
  | none =>
    rcases h with hbr | hfree
    · exact .inl hbr
    · exact .inr (hfree.succ hc (by simpa using hne))
  | some q =>
    obtain ⟨hkq, hqp, hq, hcolon, hfree⟩ := h
    exact ⟨hkq, by omega, hq, hcolon, hfree.succ hc (by simpa using hne)⟩

/-- One more byte, as long as it is no second colon. -/
theorem MayBeUser.succ {h : ℕ} {pass : Option ℕ} {port_no : UInt32}
    (hmay : MayBeUser t k p h pass port_no) (hc : t[p]? = some c) (hne : c ≠ ':') :
    MayBeUser t k (p + 1) h pass port_no :=
  ⟨hmay.start, hmay.pass.succ hc hne, hmay.port⟩

/-- A `;` or a `?`: no password. -/
theorem noPass_core {h : ℕ} (hc : t[p]? = some c) (hne : c ≠ ':')
    (hmay : sc.found_user = false → MayBeUser t k p h sc.pass sc.port_no) :
    ∃ pass found, core (noPass sc) = { core sc with pass := pass, found_user := found } ∧
      (sc.found_user = true → found = true) ∧
      (found = false → MayBeUser t k (p + 1) h pass sc.port_no) := by
  unfold noPass
  split
  · exact ⟨none, true, rfl, fun _ => rfl, nofun⟩
  · exact ⟨sc.pass, sc.found_user, rfl, id, fun hf => (hmay hf).succ hc hne⟩

/-- A colon is the mark, or the second one, and then there is no user. -/
theorem mightBePass_core {h : ℕ} (hkp : k < p) (hc : t[p]? = some ':')
    (hmay : sc.found_user = false → MayBeUser t k p h sc.pass sc.port_no) :
    ∃ pass found, core (mightBePass p sc) = { core sc with pass := pass, found_user := found } ∧
      (sc.found_user = true → found = true) ∧
      (found = false → MayBeUser t k (p + 1) h pass sc.port_no) := by
  unfold mightBePass noPass
  split
  · rename_i hfound
    exact ⟨sc.pass, sc.found_user, rfl, id, fun hf => absurd hf (by simp [hfound])⟩
  · rename_i hfound
    split
    · exact ⟨none, true, rfl, fun _ => rfl, nofun⟩
    · rename_i hsome
      obtain ⟨hstart, hpass, hport⟩ := hmay (by simpa using hfound)
      have hnone : sc.pass = none := by simpa using hsome
      rw [hnone] at hpass
      refine ⟨some p, sc.found_user, rfl, id, fun _ => ⟨hstart, ?_, hport⟩⟩
      exact ⟨hkp, Nat.lt_succ_self p, hc, hpass, .refl _ _ _⟩

/-- A `?` stores the parameters, and a colon before it was no password mark. -/
theorem core_question_case : core (question_case p sc) =
    { core (noPass sc) with params := span (some sc.s) p, s := p + 1 } := by
  by_cases hpass : sc.pass.isSome = true
  · simp only [question_case, noPass, hpass, if_true, core]
  · simp only [question_case, noPass, hpass, core]
    rfl

/-- A user, once found, stays. -/
theorem Before.found {user passwd : Str} {found f : Bool} {h : ℕ}
    (hbefore : Before t k user passwd found h) (hf : found = true → f = true) :
    Before t k user passwd f h := by
  cases hbefore with
  | absent => exact .absent f
  | user n hlt hat hcolon hfree =>
    rw [hf rfl]
    exact .user n hlt hat hcolon hfree
  | passwd m n hlt hmn hm hat hcolon hfree hpass =>
    rw [hf rfl]
    exact .passwd m n hlt hmn hm hat hcolon hfree hpass

theorem Before.le {user passwd : Str} {found : Bool} {h : ℕ}
    (hbefore : Before t k user passwd found h) : k ≤ h := by
  cases hbefore with
  | absent => exact Nat.le_refl _
  | user => omega
  | passwd => omega

/-- **An `@` behind the host**: all of it was the user, and perhaps the password. -/
theorem atUser {n : ℕ} (hkn : k < n) (hnp : n ≤ p) (hc : t[p]? = some '@')
    (hfree : Without t ['@'] k p) (hmay : MayBeUser t k p k sc.pass sc.port_no)
    (hhost : sc.uri.host = span (some k) n) (htype : sc.uri.type = type)
    (h : (still_at_user p sc).map core = .ok (core sc')) :
    Inv t k type (p + 1) .host (core sc') := by
  obtain ⟨-, hpass, hport⟩ := hmay
  unfold still_at_user at h
  split at h
  · cases h
  · have hstale : Stale t k (p + 1) ∨ sc.port_no = 0 := by
      rcases hport with hbr | hzero
      · exact .inl ⟨by omega, hbr⟩
      · exact .inr hzero
    cases hmark : sc.pass with
    | none =>
      rw [hmark] at h hpass
      have hcore : core sc' = .before type (span (some k) p) .null (p + 1) none sc.port_no true := by
        rw [← Except.ok.inj h, hhost, htype]
        rfl
      rw [hcore]
      exact .host (p + 1) _ _ _ _ (.user p (by omega) hc hpass hfree) (by omega) rfl hstale
    | some q =>
      rw [hmark] at h hpass
      obtain ⟨hkq, hqp, hq, hcolon, hnone⟩ := hpass
      have hcore : core sc' = .before type (span (some k) q) (span (some (q + 1)) p) (p + 1) (some q)
          sc.port_no true := by
        rw [← Except.ok.inj h, hhost, htype]
        rfl
      rw [hcore]
      refine .host (p + 1) _ _ _ _ (.passwd q p hkq hqp hq hc hcolon ?_ ?_) (by omega) rfl hstale
      · exact hfree.mono (Nat.le_refl _) (by omega) (by simp)
      · intro i d hi hi' hd hmem
        rcases List.mem_cons.mp hmem with rfl | hmem
        · exact hfree i _ (by omega) hi' hd (by simp)
        · exact hnone i d hi hi' hd hmem

/-- **One byte in the parameters**, from what `step_params` says of all their states. -/
theorem step_paramsPhase {h n m : ℕ} {user passwd port : Str} {portNo : UInt16}
    {pass : Option ℕ} {port_no : UInt32} {found : Bool} (hphase : phase sc.state = .params)
    (hcore : core sc = { Core.before type user passwd (m + 1) pass port_no found with
      host := span (some h) n, port := port, portNo := portNo })
    (hbefore : Before t k user passwd found h) (hhost : HostAt t k h n)
    (hport : PortAt t k h n port portNo m)
    (hfound : found = false → MayBeUser t k p h pass port_no)
    (hmp : m < p) (hm : t[m]? = some ';') (hfree : Without t ['@', '?'] (m + 1) p)
    (hc : t[p]? = some c) (hstep : step p c sc = .ok sc') :
    Inv t k type (p + 1) (phase sc'.state) (core sc') := by
  have hs : sc.s = m + 1 := congrArg Core.s hcore
  have hpass : sc.pass = pass := congrArg Core.pass hcore
  have hno : sc.port_no = port_no := congrArg Core.port_no hcore
  have hfo : sc.found_user = found := congrArg Core.found_user hcore
  have hmay : sc.found_user = false → MayBeUser t k p h sc.pass sc.port_no := by
    rw [hpass, hno, hfo]
    exact hfound
  have hkh := hbefore.le
  have hhn := hhost.lt
  have hnm := hport.le
  cases step_params hphase hstep with
  | atUser hat hf hstate hsc =>
    subst hat
    rw [hstate]
    have hstart : h = k := (hmay hf).start
    subst hstart
    have hfirst : Without t ['@'] m (m + 1) := (Without.refl _ _ _).succ hm (by simp)
    have hrest : Without t ['@'] (m + 1) p := hfree.mono (Nat.le_refl _) (Nat.le_refl _) (by simp)
    have hall : Without t ['@'] h p :=
      ((hhost.noAt.append hport.noAt).append hfirst).append hrest
    exact atUser hhn (by omega) hc hall (hmay hf) (congrArg Core.host hcore)
      (congrArg Core.type hcore) hsc
  | semicolon hsemi hphase' hsc =>
    obtain ⟨pass', found', hnew, hf, hmay'⟩ := noPass_core hc (by simp [hsemi]) hmay
    rw [hphase', hsc, hnew, hcore]
    rw [hno] at hmay'
    exact .params h n m _ _ _ _ _ _ _ (hbefore.found (hfo ▸ hf)) hhost hport hmay' (by omega) hm
      (hfree.succ hc (by simp [hsemi]))
  | question hq hstate hsc =>
    obtain ⟨pass', found', hnew, hf, hmay'⟩ := noPass_core hc (by simp [hq]) hmay
    rw [hstate, hsc, core_question_case, hnew, hcore, hs]
    rw [hno] at hmay'
    exact .headers h n m p _ _ _ _ _ _ _ _ _ (hbefore.found (hfo ▸ hf)) hhost hport
      (.text p hmp hm hfree) hmay' (by omega) (hq ▸ hc) (.refl _ _ _)
  | colon hcol hphase' hsc =>
    obtain ⟨pass', found', hnew, hf, hmay'⟩ := mightBePass_core (by omega) (hcol ▸ hc) hmay
    rw [hphase', hsc, hnew, hcore]
    rw [hno] at hmay'
    exact .params h n m _ _ _ _ _ _ _ (hbefore.found (hfo ▸ hf)) hhost hport hmay' (by omega) hm
      (hfree.succ hc (by simp [hcol]))
  | other hne hphase' hsc =>
    simp only [List.mem_cons, List.not_mem_nil, or_false, not_or] at hne
    rw [hphase', hsc, hcore]
    exact .params h n m _ _ _ _ _ _ _ hbefore hhost hport
      (fun hf => (hfound hf).succ hc hne.2.2.2) (by omega) hm (hfree.succ hc (by simp [hne]))

/-- **One byte in the headers**: an `@` still makes all of it the user. -/
theorem step_headers {h n m q : ℕ} {user passwd port params : Str} {portNo : UInt16}
    {pass : Option ℕ} {port_no : UInt32} {found error_headers : Bool}
    (hst : sc.state = .URI_HEADERS)
    (hcore : core sc = { Core.before type user passwd (q + 1) pass port_no found with
      host := span (some h) n, port := port, portNo := portNo, params := params
      error_headers := error_headers })
    (hbefore : Before t k user passwd found h) (hhost : HostAt t k h n)
    (hport : PortAt t k h n port portNo m) (hparams : ParamsAt t m params q)
    (hfound : found = false → MayBeUser t k p h pass port_no)
    (hqp : q < p) (hq : t[q]? = some '?') (hfree : Without t ['@'] (q + 1) p)
    (hc : t[p]? = some c) (hstep : step p c sc = .ok sc') :
    Inv t k type (p + 1) (phase sc'.state) (core sc') := by
  have hpass : sc.pass = pass := congrArg Core.pass hcore
  have hno : sc.port_no = port_no := congrArg Core.port_no hcore
  have hfo : sc.found_user = found := congrArg Core.found_user hcore
  have hmay : sc.found_user = false → MayBeUser t k p h sc.pass sc.port_no := by
    rw [hpass, hno, hfo]
    exact hfound
  have hkh := hbefore.le
  have hhn := hhost.lt
  have hnm := hport.le
  have hmq := hparams.le
  simp only [step, hst] at hstep
  split at hstep
  · rename_i hat
    subst hat
    have hf : sc.found_user = false := by
      unfold still_at_user at hstep
      split at hstep
      · cases hstep
      · rename_i hf
        simpa using hf
    have hstart : h = k := (hmay hf).start
    subst hstart
    have hfirst : Without t ['@'] q (q + 1) := (Without.refl _ _ _).succ hq (by simp)
    have hall : Without t ['@'] h p :=
      (((hhost.noAt.append hport.noAt).append hparams.noAt).append hfirst).append hfree
    have hsc : (still_at_user p sc).map core = .ok (core sc') := by rw [hstep]; rfl
    have hstate : sc'.state = .URI_HOST := by
      unfold still_at_user at hstep
      split at hstep
      · cases hstep
      · cases hstep
        rfl
    rw [hstate]
    exact atUser hhn (by omega) hc hall (hmay hf) (congrArg Core.host hcore)
      (congrArg Core.type hcore) hsc
  split at hstep
  · rename_i hsemi
    split at hstep
    · cases hstep
    split at hstep
    · cases hstep
    · cases hstep
      change Inv t k type (p + 1) .headers { core sc with error_headers := true }
      rw [hcore]
      exact .headers h n m q _ _ _ _ _ _ _ _ _ hbefore hhost hport hparams
        (fun hf => (hfound hf).succ hc (by simp [hsemi])) (by omega) hq
        (hfree.succ hc (by simp [hsemi]))
  split at hstep
  · rename_i hcol
    cases hstep
    obtain ⟨pass', found', hnew, hf, hmay'⟩ := mightBePass_core (by omega) (hcol ▸ hc) hmay
    have hstate : (mightBePass p sc).state = sc.state := by
      unfold mightBePass noPass
      split
      · rfl
      · split
        · rfl
        · rfl
    rw [hstate, hst, hnew, hcore]
    rw [hno] at hmay'
    exact .headers h n m q _ _ _ _ _ _ _ _ _ (hbefore.found (hfo ▸ hf)) hhost hport hparams
      hmay' (by omega) hq (hfree.succ hc (by simp [hcol]))
  split at hstep
  · rename_i hquest
    cases hstep
    obtain ⟨pass', found', hnew, hf, hmay'⟩ := noPass_core hc (by simp [hquest]) hmay
    have hstate : (noPass sc).state = sc.state := by
      unfold noPass
      split
      · rfl
      · rfl
    rw [hstate, hst, hnew, hcore]
    rw [hno] at hmay'
    exact .headers h n m q _ _ _ _ _ _ _ _ _ (hbefore.found (hfo ▸ hf)) hhost hport hparams
      hmay' (by omega) hq (hfree.succ hc (by simp [hquest]))
  · rename_i hat hsemi hcol hquest
    cases hstep
    rw [hst, hcore]
    exact .headers h n m q _ _ _ _ _ _ _ _ _ hbefore hhost hport hparams
      (fun hf => (hfound hf).succ hc hcol) (by omega) hq (hfree.succ hc (by simp [hat]))

/-! ## 4. The whole text -/

/-- The one state of a phase other than `params`. -/
def Phase.state : Phase → State
  | .init => .URI_INIT
  | .user => .URI_USER
  | .password => .URI_PASSWORD
  | .passwordAlpha => .URI_PASSWORD_ALPHA
  | .host => .URI_HOST
  | .hostP => .URI_HOST_P
  | .host6P => .URI_HOST6_P
  | .host6End => .URI_HOST6_END
  | .port => .URI_PORT
  | .params => .URI_PARAM
  | .headers => .URI_HEADERS

/-- Outside the parameters the phase says which state it is. -/
theorem state_of_phase {st : State} {ph : Phase} (h : phase st = ph) (hne : ph ≠ .params) :
    st = ph.state := by
  subst h
  cases st
  all_goals first | rfl | exact absurd rfl hne

/-- **One byte keeps the invariant.** -/
theorem inv_step (hinv : Inv t k type p (phase sc.state) (core sc)) (hc : t[p]? = some c)
    (hstep : step p c sc = .ok sc') : Inv t k type (p + 1) (phase sc'.state) (core sc') := by
  generalize hphase : phase sc.state = ph at hinv
  generalize hcore : core sc = cr at hinv
  have hst : ph ≠ .params → sc.state = ph.state := state_of_phase hphase
  cases hinv with
  | init hp => exact step_init (hst nofun) hcore hp hc hstep
  | user hlt hhead hcolon hfree => exact step_user (hst nofun) hcore hlt hhead hcolon hfree hc hstep
  | password m hhost hhead hmp hm hdigits =>
    exact step_password (hst nofun) hcore hhost hhead hmp hm hdigits hc hstep
  | passwordAlpha m hhost hhead hmp hm hfree =>
    exact step_passwordAlpha (hst nofun) hcore hhost hhead hmp hm hfree hc hstep
  | host h user passwd pass port_no hbefore hk hp hport =>
    exact step_host (hst nofun) hcore hbefore hk hp hport hc hstep
  | hostP h user passwd pass port_no hbefore hk hlt hport hhead hcolon hfree =>
    exact step_hostP (hst nofun) hcore hbefore hk hlt hport hhead hcolon hfree hc hstep
  | host6P h user passwd pass port_no found hbefore hlt hport hfound hhead hfree =>
    exact step_host6P (hst nofun) hcore hbefore hlt hport hfound hhead hfree hc hstep
  | host6End h user passwd pass port_no found hbefore hport hfound hhead hhost =>
    exact step_host6End (hst nofun) hcore hbefore hport hfound hhead hhost hc hstep
  | port h n user passwd pass port_no found hbefore hhost hfound hnp hn hdigits hval =>
    exact step_port (hst nofun) hcore hbefore hhost hfound hnp hn hdigits hval hc hstep
  | params h n m user passwd port portNo pass port_no found hbefore hhost hport hfound hmp hm
      hfree =>
    exact step_paramsPhase hphase hcore hbefore hhost hport hfound hmp hm hfree hc hstep
  | headers h n m q user passwd port params portNo pass port_no found error_headers hbefore hhost
      hport hparams hfound hqp hq hfree =>
    exact step_headers (hst nofun) hcore hbefore hhost hport hparams hfound hqp hq hfree hc hstep

/-- So does the loop. -/
theorem inv_scan {rest : Text} (hrest : t.drop p = rest)
    (hinv : Inv t k type p (phase sc.state) (core sc)) (h : scan p rest sc = .ok sc') :
    Inv t k type (p + rest.length) (phase sc'.state) (core sc') := by
  induction rest generalizing p sc with
  | nil =>
    cases h
    exact hinv
  | cons c rest ih =>
    obtain ⟨sc₁, hstep, hscan⟩ := bind_eq_ok.mp h
    have hc : t[p]? = some c := by
      rw [← List.head?_drop, hrest]
      rfl
    have hnext : t.drop (p + 1) = rest := by
      rw [← List.drop_drop, hrest]
      rfl
    have hrun := ih hnext (inv_step hinv hc hstep) hscan
    rw [List.length_cons, Nat.add_comm rest.length, ← Nat.add_assoc]
    exact hrun

/-- Headers up to the end, if there are any. -/
inductive HeadersAt (t : Text) (q p : ℕ) : Str → Prop
  | absent (hp : q = p) : HeadersAt t q p .null
  | text (hlt : q < p) (hq : t[q]? = some '?') (hfree : Without t ['@'] (q + 1) p) :
      HeadersAt t q p (span (some (q + 1)) p)

/-- Where the parts of a URI are: a userinfo up to `h`, a host up to `n`, a port up to `m`,
parameters up to `q` and headers up to `p`. -/
structure Located (t : Text) (k p : ℕ) (uri : ParsedUri) (h n m q : ℕ) : Prop where
  before : Before t k uri.user uri.passwd true h
  host : uri.host = span (some h) n
  hostAt : HostAt t k h n
  port : PortAt t k h n uri.port uri.port_no m
  params : ParamsAt t m uri.params q
  headers : HeadersAt t q p uri.headers

/-- Storing a parameter before the end changes no part. -/
theorem core_withParams {sc₁ : Scan} (hcore : core sc₁ = core sc) :
    core { sc with uri := { sc₁.uri with params := span (some sc₁.s) p } } =
      { core sc with params := span (some sc.s) p } := by
  simp only [core, Core.mk.injEq] at hcore ⊢
  simp [hcore]

/-- The end of the parameters, in whatever state. -/
theorem finish_params {uri : ParsedUri} (hphase : phase sc.state = .params)
    (h : finish p sc = .ok uri) :
    core { sc with uri := uri } = { core sc with params := span (some sc.s) p } := by
  unfold finish at h
  split at h
  all_goals try (rename_i hst; rw [hst] at hphase; cases hphase)
  all_goals first
    | (cases h; done)
    | (cases h; rfl)
    | (cases h; exact core_withParams core_u_param_set)

/-- The parts, from the `core` of a scan that is over. -/
theorem located_of_core {uri : ParsedUri} {cr : Core} (h n m q : ℕ)
    (hcr : core { sc with uri := uri } = cr) (hbefore : Before t k cr.user cr.passwd true h)
    (hhost : cr.host = span (some h) n) (hostAt : HostAt t k h n)
    (hport : PortAt t k h n cr.port cr.portNo m) (hparams : ParamsAt t m cr.params q)
    (hheaders : HeadersAt t q p cr.headers) :
    uri.type = cr.type ∧ ∃ h n m q, Located t k p uri h n m q := by
  subst hcr
  exact ⟨rfl, h, n, m, q, ⟨hbefore, hhost, hostAt, hport, hparams, hheaders⟩⟩

/-- **The end of the URI**: the parts are found, and the type is the one it began with. -/
theorem located_finish {uri : ParsedUri} (hinv : Inv t k type p (phase sc.state) (core sc))
    (hfin : finish p sc = .ok uri) :
    uri.type = type ∧ ∃ h n m q, Located t k p uri h n m q := by
  generalize hphase : phase sc.state = ph at hinv
  generalize hcore : core sc = cr at hinv
  have hst : ph ≠ .params → sc.state = ph.state := state_of_phase hphase
  have hs : sc.s = cr.s := congrArg Core.s hcore
  have hfo : sc.found_user = cr.found_user := congrArg Core.found_user hcore
  have hno : sc.port_no = cr.port_no := congrArg Core.port_no hcore
  cases hinv with
  | init hp =>
    simp only [finish, hst nofun, Phase.state] at hfin
    cases hfin
  | user hlt hhead hcolon hfree =>
    have hcr : core { sc with uri := { sc.uri with host := span (some sc.s) p } } =
        { core sc with host := span (some sc.s) p } := rfl
    simp only [finish, hst nofun, Phase.state, hfo] at hfin
    cases hfin
    rw [hcore] at hcr
    refine located_of_core k p p p hcr ?_ ?_ ?_ ?_ ?_ ?_
    · exact .absent true
    · exact congrArg (fun s => span (some s) p) hs
    · exact .name hlt hhead hcolon hfree (absurd rfl ·)
    · exact .absent
    · exact .absent
    · exact .absent rfl
  | password m hhost hhead hmp hm hdigits =>
    have hcr : core { sc with uri := { sc.uri with
          port := span (some sc.s) p, port_no := sc.port_no.toUInt16, host := sc.uri.user
          user := .null } } =
        { core sc with
          port := span (some sc.s) p, portNo := sc.port_no.toUInt16, host := (core sc).user
          user := .null } := rfl
    simp only [finish, hst nofun, Phase.state, hfo] at hfin
    cases hfin
    rw [hcore] at hcr
    refine located_of_core k m p p (hcr.trans (by rw [hs, hno])) ?_ ?_ ?_ ?_ ?_ ?_
    · exact .absent true
    · exact rfl
    · exact hhost
    · exact .digits p _ hmp hm hdigits (fun _ => rfl)
    · exact .absent
    · exact .absent rfl
  | passwordAlpha m hhost hhead hmp hm hfree =>
    simp only [finish, hst nofun, Phase.state] at hfin
    cases hfin
  | host h user passwd pass port_no hbefore hk hp hport =>
    simp only [finish, hst nofun, Phase.state] at hfin
    cases hfin
  | host6P h user passwd pass port_no found hbefore hlt hport hfound hhead hfree =>
    simp only [finish, hst nofun, Phase.state] at hfin
    cases hfin
  | hostP h user passwd pass port_no hbefore hk hlt hport hhead hcolon hfree =>
    have hcr : core { sc with uri := { sc.uri with host := span (some sc.s) p } } =
        { core sc with host := span (some sc.s) p } := rfl
    simp only [finish, hst nofun, Phase.state] at hfin
    cases hfin
    rw [hcore] at hcr
    refine located_of_core h p p p hcr ?_ ?_ ?_ ?_ ?_ ?_
    · exact hbefore
    · exact congrArg (fun s => span (some s) p) hs
    · exact .name hlt hhead hcolon (hfree.mono (by omega) (Nat.le_refl _) (by simp)) fun _ => hfree
    · exact .absent
    · exact .absent
    · exact .absent rfl
  | host6End h user passwd pass port_no found hbefore hport hfound hhead hhost =>
    have hcr : core { sc with uri := { sc.uri with host := span (some sc.s) p } } =
        { core sc with host := span (some sc.s) p } := rfl
    simp only [finish, hst nofun, Phase.state] at hfin
    cases hfin
    rw [hcore] at hcr
    refine located_of_core h p p p hcr ?_ ?_ ?_ ?_ ?_ ?_
    · exact hbefore.found fun _ => rfl
    · exact congrArg (fun s => span (some s) p) hs
    · exact hhost
    · exact .absent
    · exact .absent
    · exact .absent rfl
  | port h n user passwd pass port_no found hbefore hhost hfound hnp hn hdigits hval =>
    have hcr : core { sc with uri := { sc.uri with
          port := span (some sc.s) p, port_no := sc.port_no.toUInt16 } } =
        { core sc with port := span (some sc.s) p, portNo := sc.port_no.toUInt16 } := rfl
    simp only [finish, hst nofun, Phase.state] at hfin
    cases hfin
    rw [hcore] at hcr
    refine located_of_core h n p p (hcr.trans (by rw [hs, hno])) ?_ ?_ ?_ ?_ ?_ ?_
    · exact hbefore.found fun _ => rfl
    · exact rfl
    · exact hhost
    · exact .digits p _ hnp hn hdigits (fun hstale => congrArg UInt32.toUInt16 (hval hstale))
    · exact .absent
    · exact .absent rfl
  | params h n m user passwd port portNo pass port_no found hbefore hhost hport hfound hmp hm
      hfree =>
    have hcr := finish_params hphase hfin
    rw [hcore] at hcr
    refine located_of_core h n m p (hcr.trans (by rw [hs])) ?_ ?_ ?_ ?_ ?_ ?_
    · exact hbefore.found fun _ => rfl
    · exact rfl
    · exact hhost
    · exact hport
    · exact .text p hmp hm hfree
    · exact .absent rfl
  | headers h n m q user passwd port params portNo pass port_no found error_headers hbefore hhost
      hport hparams hfound hqp hq hfree =>
    have hcr : core { sc with uri := { sc.uri with headers := span (some sc.s) p } } =
        { core sc with headers := span (some sc.s) p } := rfl
    simp only [finish, hst nofun, Phase.state] at hfin
    split at hfin
    · cases hfin
    cases hfin
    rw [hcore] at hcr
    refine located_of_core h n m q (hcr.trans (by rw [hs])) ?_ ?_ ?_ ?_ ?_ ?_
    · exact hbefore.found fun _ => rfl
    · exact rfl
    · exact hhost
    · exact hport
    · exact hparams
    · exact .text hqp hq hfree

end CallFwd.Sip.ParseUri
