/-
# The control socket: which descriptors a message is dispatched with

`ControlThread` keeps `argfd_` as a MEMBER.  `awaitMessage` fills it when a datagram carries an
`SCM_RIGHTS` control message and leaves it alone when it does not; `operator()` copies it into
the thread it starts, and nobody clears it.  So a datagram without descriptors is dispatched with
those of the last datagram that had some, which that dispatch may have closed long ago.  A second
limit is the buffer: `cbuf_[256]` has room for 60 descriptors, and the kernel drops the rest.

A received descriptor is named by its datagram and its place there.  `attribution_iff` says for
which sequences of datagrams every call gets its own descriptors and none is closed twice.
-/
import CallFwd.Control.Dispatch

namespace CallFwd

/-! ## 1. The loop -/

/-- A received descriptor: the datagram it came with, and its place there. -/
structure Fd where
  datagram : ℕ
  place : ℕ
deriving DecidableEq, Repr

/-- What a call of `recvmsg` brings: an error, or a datagram. -/
inductive Received
  | error
  /-- `named` says whether the sender has an address, `fds` how many descriptors it attached. -/
  | datagram (named : Bool) (fds : ℕ) (body : Text)
deriving DecidableEq, Repr

/-- The size of `pktbuf_`. -/
def PKTBUF : ℕ := 1500

/-- How many descriptors fit `cbuf_`: `(sizeof(cbuf_) - sizeof(struct cmsghdr)) / sizeof(int)`. -/
def MAXFDS : ℕ := (256 - 16) / 4

/-- The first `n` descriptors of datagram `k`. -/
def fdsOf (k n : ℕ) : List Fd := (List.range n).map fun i => ⟨k, i⟩

/-- `awaitMessage()` on datagram `k`: the body, or nothing where it returns a negative number,
and `argfd_` after it. -/
def awaitMessage (k : ℕ) (argfd : List Fd) : Received → Option Text × List Fd
  | .error => (none, argfd)
  | .datagram named fds body =>
    if named then
      (some (body.take PKTBUF), if fds = 0 then argfd else fdsOf k (min fds MAXFDS))
    else (none, argfd)

/-- A call of `dispatch`: the datagram it is for, and what it gets. -/
structure Call where
  datagram : ℕ
  msg : Dynamic
  argfd : List Fd

/-- One turn of `operator()`; `parseJson` is folly's, `none` where it throws. -/
def turn (parseJson : Text → Option Dynamic) (k : ℕ) (argfd : List Fd) (r : Received) :
    Option Call × List Fd :=
  match awaitMessage k argfd r with
  | (none, argfd') => (none, argfd')
  | (some body, argfd') => ((parseJson body).map fun msg => ⟨k, msg, argfd'⟩, argfd')

/-- The calls a sequence of datagrams starts, from datagram `k` and `argfd_` on. -/
def calls (parseJson : Text → Option Dynamic) : ℕ → List Fd → List Received → List Call
  | _, _, [] => []
  | k, argfd, r :: rs =>
    (turn parseJson k argfd r).1.toList ++ calls parseJson (k + 1) (turn parseJson k argfd r).2 rs

/-- Where and on what a call runs, and which numbers its descriptors have there. -/
structure Surroundings where
  host : Host
  env : Env
  globals : Globals
  number : Fd → ℤ

/-- The descriptors a call closes. -/
def Call.closes (c : Call) (w : Surroundings) : List Fd :=
  match dispatch w.host w.env (c.argfd.map w.number) c.msg w.globals with
  | .ok reply => c.argfd.filter fun fd => decide (w.number fd ∈ reply.closed)
  | .error _ => []

/-! ## 2. What `argfd_` holds -/

/-- `argfd_` after some datagrams. -/
def argfdAfter : ℕ → List Fd → List Received → List Fd
  | _, argfd, [] => argfd
  | k, argfd, r :: rs => argfdAfter (k + 1) (awaitMessage k argfd r).2 rs

/-- How many descriptors a datagram brings as far as the control message: none where
`awaitMessage` returns before it. -/
def Received.carries : Received → ℕ
  | .datagram true fds _ => fds
  | _ => 0

theorem fdsOf_eq_nil_iff {k n : ℕ} : fdsOf k n = [] ↔ n = 0 := by
  simp [fdsOf]

theorem mem_fdsOf {k n : ℕ} {fd : Fd} : fd ∈ fdsOf k n → fd.datagram = k := by
  intro h
  obtain ⟨i, -, rfl⟩ := List.mem_map.mp h
  rfl

/-- `argfd_` is only ever replaced, never cleared: it is empty after a datagram only if it was
before and the datagram brings nothing. -/
theorem awaitMessage_eq_nil_iff (k : ℕ) (argfd : List Fd) (r : Received) :
    (awaitMessage k argfd r).2 = [] ↔ argfd = [] ∧ r.carries = 0 := by
  cases r with
  | error => simp [awaitMessage, Received.carries]
  | datagram named fds body =>
    cases named with
    | false => simp [awaitMessage, Received.carries]
    | true =>
      by_cases h : fds = 0
      · simp [awaitMessage, Received.carries, h]
      · have room : ¬min fds MAXFDS = 0 := by
          simp only [MAXFDS]
          omega
        simp [awaitMessage, Received.carries, h, fdsOf_eq_nil_iff, room]

theorem argfdAfter_eq_nil_iff (k : ℕ) (argfd : List Fd) (rs : List Received) :
    argfdAfter k argfd rs = [] ↔ argfd = [] ∧ ∀ r ∈ rs, r.carries = 0 := by
  induction rs generalizing k argfd with
  | nil => simp [argfdAfter]
  | cons r rs ih =>
    rw [argfdAfter, ih, awaitMessage_eq_nil_iff, List.forall_mem_cons, and_assoc]

/-! ## 3. The calls of a run -/

variable {parseJson : Text → Option Dynamic}

theorem turn_snd (k : ℕ) (argfd : List Fd) (r : Received) :
    (turn parseJson k argfd r).2 = (awaitMessage k argfd r).2 := by
  unfold turn
  split
  · rename_i h
    rw [h]
  · rename_i h
    rw [h]

/-- **When a turn starts a call**: the datagram has a reply address and a body that parses. -/
theorem turn_eq_some_iff (k : ℕ) (argfd : List Fd) (r : Received) (c : Call) :
    (turn parseJson k argfd r).1 = some c ↔
      ∃ fds body msg, r = .datagram true fds body ∧ parseJson (body.take PKTBUF) = some msg ∧
        c = ⟨k, msg, (awaitMessage k argfd r).2⟩ := by
  cases r with
  | error => simp [turn, awaitMessage]
  | datagram named fds body =>
    cases named with
    | false => simp [turn, awaitMessage]
    | true =>
      cases h : parseJson (body.take PKTBUF) with
      | none => simp [turn, awaitMessage, h]
      | some msg => simp [turn, awaitMessage, h, eq_comm]

/-- The calls of a run are those of its turns, each with `argfd_` as its turn finds it. -/
theorem mem_calls (c : Call) (k : ℕ) (argfd : List Fd) (rs : List Received) :
    c ∈ calls parseJson k argfd rs ↔
      ∃ i r, rs[i]? = some r ∧
        (turn parseJson (k + i) (argfdAfter k argfd (rs.take i)) r).1 = some c := by
  induction rs generalizing k argfd with
  | nil => simp [calls]
  | cons r rs ih =>
    rw [calls, List.mem_append, Option.mem_toList, ih, turn_snd]
    constructor
    · rintro (h | ⟨i, r', hr, h⟩)
      · exact ⟨0, r, rfl, h⟩
      · refine ⟨i + 1, r', hr, ?_⟩
        rwa [List.take_succ_cons, argfdAfter, Nat.add_comm i 1, ← Nat.add_assoc]
    · rintro ⟨i, r', hr, h⟩
      cases i with
      | zero =>
        cases hr
        exact .inl h
      | succ i =>
        refine .inr ⟨i, r', hr, ?_⟩
        rwa [List.take_succ_cons, argfdAfter, Nat.add_comm i 1, ← Nat.add_assoc] at h

theorem le_of_mem_calls {c : Call} {k : ℕ} {argfd : List Fd} {rs : List Received}
    (h : c ∈ calls parseJson k argfd rs) : k ≤ c.datagram := by
  obtain ⟨i, r, -, h⟩ := (mem_calls c k argfd rs).mp h
  obtain ⟨fds, body, msg, -, -, rfl⟩ := (turn_eq_some_iff _ _ _ _).mp h
  exact Nat.le_add_right k i

/-- Each datagram starts one call at most. -/
theorem calls_pairwise (k : ℕ) (argfd : List Fd) (rs : List Received) :
    (calls parseJson k argfd rs).Pairwise fun c c' => c.datagram < c'.datagram := by
  induction rs generalizing k argfd with
  | nil => exact .nil
  | cons r rs ih =>
    rw [calls, List.pairwise_append]
    refine ⟨?_, ih (k + 1) _, ?_⟩
    · cases (turn parseJson k argfd r).1 <;> simp
    · intro c hc c' hc'
      obtain ⟨fds, body, msg, -, -, rfl⟩ :=
        (turn_eq_some_iff _ _ _ _).mp (Option.mem_toList.mp hc)
      exact Nat.lt_of_succ_le (le_of_mem_calls hc')

/-! ## 4. Attribution -/

/-- The descriptors the sender attached to datagram `k`. -/
def attached (received : List Received) (k : ℕ) : List Fd :=
  match received[k]? with
  | some (.datagram _ fds _) => fdsOf k fds
  | _ => []

/-- Every call gets the descriptors of its own datagram. -/
def Attributed (parseJson : Text → Option Dynamic) (received : List Received) : Prop :=
  ∀ c ∈ calls parseJson 0 [] received, c.argfd = attached received c.datagram

/-- No descriptor is closed by two calls, whatever each of them runs on. -/
def ClosedOnce (parseJson : Text → Option Dynamic) (received : List Received) : Prop :=
  ∀ w : Call → Surroundings,
    (calls parseJson 0 [] received).Pairwise fun c c' =>
      (c.closes (w c)).Disjoint (c'.closes (w c'))

theorem Call.closes_subset (c : Call) (w : Surroundings) : c.closes w ⊆ c.argfd := by
  unfold Call.closes
  split
  · exact List.filter_sublist.subset
  · exact List.nil_subset _

/-- Calls that get their own descriptors close only those. -/
theorem Attributed.closedOnce {received : List Received} (own : Attributed parseJson received) :
    ClosedOnce parseJson received := by
  intro w
  have mine : ∀ c ∈ calls parseJson 0 [] received, ∀ fd ∈ c.closes (w c),
      fd.datagram = c.datagram := by
    intro c hc fd hfd
    have hfd := c.closes_subset (w c) hfd
    rw [own c hc, attached] at hfd
    split at hfd
    · exact mem_fdsOf hfd
    · simp at hfd
  refine (calls_pairwise 0 [] received).imp_of_mem ?_
  intro c c' hc hc' lt fd hfd hfd'
  have := mine c hc fd hfd
  have := mine c' hc' fd hfd'
  omega

/-- The descriptors of one turn are its datagram's exactly if they fit the buffer and, where there
are none, no earlier datagram left any. -/
theorem awaitMessage_eq_fdsOf_iff (k : ℕ) (earlier : List Received) (fds : ℕ) (body : Text) :
    (awaitMessage k (argfdAfter 0 [] earlier) (.datagram true fds body)).2 = fdsOf k fds ↔
      fds ≤ MAXFDS ∧ (fds = 0 → ∀ r ∈ earlier, r.carries = 0) := by
  by_cases h : fds = 0
  · subst h
    simp [awaitMessage, fdsOf, argfdAfter_eq_nil_iff]
  · have fits : fdsOf k (min fds MAXFDS) = fdsOf k fds ↔ fds ≤ MAXFDS := by
      constructor
      · intro same
        have := congrArg List.length same
        simp only [fdsOf, List.length_map, List.length_range] at this
        omega
      · intro le
        rw [Nat.min_eq_left le]
    simp [awaitMessage, h, fits]

/-- **Whose descriptors a call gets.**  Every call gets exactly its datagram's descriptors, and no
descriptor is closed twice, if and only if every datagram that starts a call has at most 60 of
them and, where it has none, comes before any datagram that has some. -/
theorem attribution_iff (parseJson : Text → Option Dynamic) (received : List Received) :
    (Attributed parseJson received ∧ ClosedOnce parseJson received) ↔
      ∀ (k fds : ℕ) (body : Text), received[k]? = some (.datagram true fds body) →
        (parseJson (body.take PKTBUF)).isSome →
        fds ≤ MAXFDS ∧ (fds = 0 → ∀ r ∈ received.take k, r.carries = 0) := by
  have attributed : Attributed parseJson received ↔
      ∀ (k fds : ℕ) (body : Text), received[k]? = some (.datagram true fds body) →
        (parseJson (body.take PKTBUF)).isSome →
        (awaitMessage k (argfdAfter 0 [] (received.take k)) (.datagram true fds body)).2 =
          fdsOf k fds := by
    constructor
    · intro own k fds body hk hbody
      obtain ⟨msg, hmsg⟩ := Option.isSome_iff_exists.mp hbody
      have started := (@mem_calls parseJson _ 0 [] received).mpr
        ⟨k, _, hk, (turn_eq_some_iff _ _ _ _).mpr ⟨fds, body, msg, rfl, hmsg, rfl⟩⟩
      have same := own _ started
      simpa [attached, hk] using same
    · intro own c hc
      obtain ⟨k, r, hk, h⟩ := (mem_calls c 0 [] received).mp hc
      obtain ⟨fds, body, msg, rfl, hmsg, rfl⟩ := (turn_eq_some_iff _ _ _ _).mp h
      have same := own k fds body hk (by rw [hmsg]; rfl)
      simpa [attached, hk] using same
  have both : (Attributed parseJson received ∧ ClosedOnce parseJson received) ↔
      Attributed parseJson received := ⟨And.left, fun own => ⟨own, own.closedOnce⟩⟩
  rw [both, attributed]
  simp only [awaitMessage_eq_fdsOf_iff]

/-- A message whose command nobody knows: it is refused, and its descriptors are closed. -/
def noop : Dynamic := .object [(Dynamic.text "cmd", .string (Dynamic.text "noop"))]

/-- A parser that accepts the text of `noop` only. -/
def parseNoop (body : Text) : Option Dynamic :=
  if body = Dynamic.text "\x7b\"cmd\": \"noop\"\x7d" then some noop else none

/-- The message with one descriptor, then the same message without. -/
def noopTwice : List Received :=
  [.datagram true 1 (Dynamic.text "\x7b\"cmd\": \"noop\"\x7d"),
    .datagram true 0 (Dynamic.text "\x7b\"cmd\": \"noop\"\x7d")]

theorem calls_noopTwice :
    calls parseNoop 0 [] noopTwice = [⟨0, noop, [⟨0, 0⟩]⟩, ⟨1, noop, [⟨0, 0⟩]⟩] := by
  rfl

/-- A datagram without descriptors, after one with a descriptor, is dispatched with that one, and
closes it once more. -/
theorem not_attribution_stale :
    ¬Attributed parseNoop noopTwice ∧ ¬ClosedOnce parseNoop noopTwice := by
  unfold Attributed ClosedOnce
  rw [calls_noopTwice]
  constructor
  · intro own
    have second := own ⟨1, noop, [⟨0, 0⟩]⟩ (by simp)
    simp [attached, noopTwice, fdsOf] at second
  · intro once
    have twice := once fun _ => ⟨.plain, ⟨fun _ => none, fun _ => none⟩, .initial, fun _ => 7⟩
    have closes : ∀ k, (Call.mk k noop [⟨0, 0⟩]).closes
        ⟨.plain, ⟨fun _ => none, fun _ => none⟩, .initial, fun _ => 7⟩ = [⟨0, 0⟩] := by
      intro k
      rfl
    simp [closes] at twice

end CallFwd
