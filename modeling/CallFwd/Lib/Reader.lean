/-
# Readers of pointers that others exchange

A `Reader` is a program over a family of pointers it does not own: it TESTS one for being
non-null, LOADS one, and goes on with what it found.  Between two of its steps the pointers may
be exchanged for others, so its result is in general that of no single moment.

What a careful reader keeps to is `Guarded`: it loads a pointer once at most, and never after a
test that found it null.  Two results follow for such a reader, if no pointer ever BECOMES null.

* It uses no null pointer that a test found non-null (`Follows.not_fault`).
* Its result is the one it computes, undisturbed, from ONE value of each pointer, and each of
  these is a value the pointer really had (`Follows.exists_view`).

Both come from one invariant, `Follows`, which a step of the reader (`Follows.step`) and a move
of the others (`Follows.move`) preserve.  `Sees` refines it where it matters WHEN a pointer had a
value: each value of the view, null among them, is one that the pointer had since the reader began,
and a reader of finitely many pointers comes to its end after two steps on each.
-/
import Mathlib.Algebra.Order.BigOperators.Group.Finset
import Mathlib.Data.Option.Basic
import Mathlib.Logic.Function.Basic

namespace CallFwd.Lib

/-! ## 1. Readers -/

variable {ι : Type} {D : ι → Type} {α β : Type}

/-- The values of a family of pointers; `none` is null. -/
abbrev Pointers (D : ι → Type) := (i : ι) → Option (D i)

/-- A program that reads pointers.  `fault` is the use of a null one. -/
inductive Reader (D : ι → Type) (α : Type)
  | done (a : α)
  | fault
  | test (i : ι) (k : Bool → Reader D α)
  | load (i : ι) (k : Option (D i) → Reader D α)

namespace Reader

def bind : Reader D α → (α → Reader D β) → Reader D β
  | .done a, f => f a
  | .fault, _ => .fault
  | .test i k, f => .test i fun b => (k b).bind f
  | .load i k, f => .load i fun o => (k o).bind f

instance : Monad (Reader D) where
  pure := .done
  bind := bind

/-- One step, with the pointers as they are at that moment. -/
def step (p : Pointers D) : Reader D α → Reader D α
  | .test i k => k (p i).isSome
  | .load i k => k (p i)
  | r => r

/-- The result with pointers that nobody exchanges; `none` is a fault. -/
def run (p : Pointers D) : Reader D α → Option α
  | .done a => some a
  | .fault => none
  | .test i k => (k (p i).isSome).run p
  | .load i k => (k (p i)).run p

/-- Undisturbed, a sequence is run part by part. -/
theorem run_bind (p : Pointers D) (f : α → Reader D β) :
    ∀ r : Reader D α, (r >>= f).run p = (r.run p).bind fun a => (f a).run p
  | .done _ => rfl
  | .fault => rfl
  | .test i k => run_bind p f (k (p i).isSome)
  | .load i k => run_bind p f (k (p i))

/-! ## 2. Careful readers -/

/-- What a reader knows of a pointer: nothing, that it is non-null, or all it will ever know. -/
inductive Known
  | unknown
  | present
  | spent
deriving DecidableEq

variable [DecidableEq ι]

/-- The reader tests a pointer at most once and before it loads it, loads it at most once, and
not when it was found null.  `Q` is what holds where it ends. -/
def Guarded (Q : α → (ι → Known) → Prop) : Reader D α → (ι → Known) → Prop
  | .done a, κ => Q a κ
  | .fault, _ => False
  | .test i k, κ => κ i = .unknown ∧
      ∀ b, (k b).Guarded Q (Function.update κ i (if b then .present else .spent))
  | .load i k, κ => κ i ≠ .spent ∧
      ∀ o, (κ i = .present → o.isSome = true) → (k o).Guarded Q (Function.update κ i .spent)

/-- The rule of sequential composition. -/
theorem guarded_bind {Q : β → (ι → Known) → Prop} (f : α → Reader D β) :
    ∀ (r : Reader D α) (κ : ι → Known),
      (r >>= f).Guarded Q κ ↔ r.Guarded (fun a κ' => (f a).Guarded Q κ') κ
  | .done _, _ => Iff.rfl
  | .fault, _ => Iff.rfl
  | .test _ k, _ => and_congr_right fun _ => forall_congr' fun b => guarded_bind f (k b) _
  | .load _ k, _ =>
    and_congr_right fun _ => forall_congr' fun o => imp_congr_right fun _ => guarded_bind f (k o) _

/-- Undisturbed, a careful reader comes to its end. -/
theorem Guarded.run_eq_some {Q : α → (ι → Known) → Prop} {p : Pointers D} {r : Reader D α}
    {κ : ι → Known} (h : r.Guarded Q κ) (hp : ∀ i, κ i = .present → (p i).isSome = true) :
    ∃ a, r.run p = some a := by
  induction r generalizing κ with
  | done a => exact ⟨a, rfl⟩
  | fault => exact h.elim
  | test i k ih =>
    change ∃ a, (k (p i).isSome).run p = some a
    refine ih (p i).isSome (h.2 (p i).isSome) ?_
    intro j hj
    by_cases e : j = i
    · subst e
      rw [Function.update_self] at hj
      split at hj
      · assumption
      · cases hj
    · rw [Function.update_of_ne e] at hj
      exact hp j hj
  | load i k ih =>
    change ∃ a, (k (p i)).run p = some a
    refine ih (p i) (h.2 (p i) (hp i)) ?_
    intro j hj
    by_cases e : j = i
    · subst e
      rw [Function.update_self] at hj
      cases hj
    · rw [Function.update_of_ne e] at hj
      exact hp j hj

/-! ## 3. The invariant of a reader among others -/

/-- `start` has come as far as `r`, knowing `κ`, on what it loaded in `view`.  `C` says which
values a pointer has had; with any values that agree with what it saw, `start` would have come
the same way. -/
structure Trails (C : (i : ι) → D i → Prop) (p : Pointers D) (start r : Reader D α)
    (κ : ι → Known) (view : Pointers D) : Prop where
  guarded : r.Guarded (fun _ _ => True) κ
  present : ∀ i, κ i = .present → (p i).isSome = true
  origin : ∀ i d, view i = some d → C i d
  same : ∀ v : Pointers D, (∀ i, κ i = .spent → v i = view i) →
    (∀ i, κ i = .present → (v i).isSome = true) → start.run v = r.run v

def Follows (C : (i : ι) → D i → Prop) (p : Pointers D) (start r : Reader D α) : Prop :=
  ∃ κ view, Trails C p start r κ view

variable {C C' : (i : ι) → D i → Prop} {p p' : Pointers D} {start r : Reader D α}

theorem Follows.init (h : r.Guarded (fun _ _ => True) fun _ => .unknown) : Follows C p r r :=
  ⟨fun _ => .unknown, fun _ => none, h, nofun, nofun, fun _ _ _ => rfl⟩

/-- The others move: a non-null pointer stays non-null, and what it had it has had. -/
theorem Follows.move (keep : ∀ i, (p i).isSome = true → (p' i).isSome = true)
    (mono : ∀ i d, C i d → C' i d) (h : Follows C p start r) : Follows C' p' start r := by
  obtain ⟨κ, view, h⟩ := h
  exact ⟨κ, view, h.guarded, fun i hi => keep i (h.present i hi),
    fun i d hd => mono i d (h.origin i d hd), h.same⟩

/-- A test that finds the pointer non-null. -/
theorem Trails.test_present {i : ι} {k : Bool → Reader D α} {κ : ι → Known} {view : Pointers D}
    (h : Trails C p start (.test i k) κ view) (hi : (p i).isSome = true) :
    Trails C p start (k true) (Function.update κ i .present) view where
  guarded := h.guarded.2 true
  present j hj := by
    by_cases e : j = i
    · rw [e]
      exact hi
    · rw [Function.update_of_ne e] at hj
      exact h.present j hj
  origin := h.origin
  same v hspent hpresent := by
    have hv : (v i).isSome = true := hpresent i (Function.update_self ..)
    rw [h.same v, run, hv]
    · intro j hj
      have e : j ≠ i := by
        rintro rfl
        rw [h.guarded.1] at hj
        cases hj
      exact hspent j (by rwa [Function.update_of_ne e])
    · intro j hj
      by_cases e : j = i
      · rw [e]
        exact hv
      · exact hpresent j (by rwa [Function.update_of_ne e])

/-- What is read for good, a null under a test or a load: the value goes into the view. -/
theorem Trails.spend {i : ι} {k : Reader D α} {κ : ι → Known} {view : Pointers D}
    (h : Trails C p start r κ view) (hκ : κ i ≠ .spent) (now : ∀ d, p i = some d → C i d)
    (hk : k.Guarded (fun _ _ => True) (Function.update κ i .spent))
    (hrun : ∀ v : Pointers D, v i = p i → r.run v = k.run v) :
    Trails C p start k (Function.update κ i .spent) (Function.update view i (p i)) where
  guarded := hk
  present j hj := by
    by_cases e : j = i
    · rw [e, Function.update_self] at hj
      cases hj
    · rw [Function.update_of_ne e] at hj
      exact h.present j hj
  origin j d hd := by
    by_cases e : j = i
    · subst e
      rw [Function.update_self] at hd
      exact now d hd
    · rw [Function.update_of_ne e] at hd
      exact h.origin j d hd
  same v hspent hpresent := by
    have hv : v i = p i := by
      rw [hspent i (Function.update_self ..), Function.update_self]
    rw [h.same v, hrun v hv]
    · intro j hj
      have e : j ≠ i := by
        rintro rfl
        exact hκ hj
      rw [hspent j (by rwa [Function.update_of_ne e]), Function.update_of_ne e]
    · intro j hj
      by_cases e : j = i
      · rw [e, hv]
        exact h.present i (e ▸ hj)
      · exact hpresent j (by rwa [Function.update_of_ne e])

/-- **The reader moves**, with pointers that all have values they have had. -/
theorem Follows.step (now : ∀ i d, p i = some d → C i d) (h : Follows C p start r) :
    Follows C p start (r.step p) := by
  obtain ⟨κ, view, h⟩ := h
  cases r with
  | done a => exact ⟨κ, view, h⟩
  | fault => exact ⟨κ, view, h⟩
  | test i k =>
    cases hi : (p i).isSome with
    | true =>
      rw [Reader.step, hi]
      exact ⟨_, _, h.test_present hi⟩
    | false =>
      rw [Reader.step, hi]
      refine ⟨_, _, h.spend (i := i) (by rw [h.guarded.1]; simp) (now i) (h.guarded.2 false) ?_⟩
      intro v hv
      rw [run, hv, hi]
  | load i k =>
    have guarded := h.guarded.2 (p i) (h.present i)
    refine ⟨_, _, h.spend (i := i) h.guarded.1 (now i) guarded ?_⟩
    intro v hv
    rw [run, hv]
    rfl

/-- **No null pointer is used.** -/
theorem Follows.not_fault (h : Follows C p start r) : r ≠ .fault := by
  rintro rfl
  obtain ⟨κ, view, h⟩ := h
  exact h.guarded

/-- **The result is that of one view**: a single value for each pointer, and one it had. -/
theorem Follows.exists_view {a : α} (now : ∀ i d, p i = some d → C i d)
    (h : Follows C p start (.done a)) :
    ∃ view : Pointers D, start.run view = some a ∧ ∀ i d, view i = some d → C i d := by
  obtain ⟨κ, view, h⟩ := h
  -- what was never read for good keeps its present value
  let whole : Pointers D := fun i => if κ i = .spent then view i else p i
  refine ⟨whole, ?_, ?_⟩
  · rw [h.same whole, run]
    · intro i hi
      exact if_pos hi
    · intro i hi
      have : whole i = p i := if_neg (by rw [hi]; simp)
      rw [this]
      exact h.present i hi
  · intro i d hd
    by_cases hi : κ i = .spent
    · rw [show whole i = view i from if_pos hi] at hd
      exact h.origin i d hd
    · rw [show whole i = p i from if_neg hi] at hd
      exact now i d hd

/-! ## 4. From one moment on -/

/-- How many steps a reader may still take on a pointer. -/
def Known.credit : Known → ℕ
  | .unknown => 2
  | .present => 1
  | .spent => 0

section Credit

variable [Fintype ι]

/-- What a reader may still take in all. -/
def credit (κ : ι → Known) : ℕ := ∑ i, (κ i).credit

omit [DecidableEq ι] in
theorem credit_unknown : credit (fun _ : ι => .unknown) = 2 * Fintype.card ι := by
  have hsum : credit (fun _ : ι => .unknown) = Finset.univ.card * 2 :=
    Finset.sum_const_nat fun _ _ => rfl
  rw [hsum, Finset.card_univ, Nat.mul_comm]

/-- Whatever becomes known of a pointer uses it up. -/
theorem credit_update_lt {κ : ι → Known} {i : ι} {k : Known} (h : k.credit < (κ i).credit) :
    credit (Function.update κ i k) < credit κ := by
  refine Finset.sum_lt_sum (fun j _ => ?_) ⟨i, Finset.mem_univ i, ?_⟩
  · by_cases e : j = i
    · subst e
      rw [Function.update_self]
      exact h.le
    · rw [Function.update_of_ne e]
  · rwa [Function.update_self]

theorem credit_spend_lt {κ : ι → Known} {i : ι} (h : κ i ≠ .spent) :
    credit (Function.update κ i .spent) < credit κ := by
  refine credit_update_lt ?_
  cases hκ : κ i with
  | spent => exact absurd hκ h
  | _ => decide

variable {W W' : (i : ι) → Option (D i) → Prop} {n : ℕ}

/-- `start` has come as far as `r` and has `n` steps left, if it is not at its end; what it has read
for good are values that `W` allows. -/
def Sees (W : (i : ι) → Option (D i) → Prop) (n : ℕ) (p : Pointers D) (start r : Reader D α) :
    Prop :=
  ∃ κ view, Trails (fun _ _ => True) p start r κ view ∧ (∀ i, κ i = .spent → W i (view i)) ∧
    ((∃ a, r = .done a) ∨ credit κ ≤ n)

theorem Sees.init (h : r.Guarded (fun _ _ => True) fun _ => .unknown) :
    Sees W (2 * Fintype.card ι) p r r :=
  ⟨fun _ => .unknown, fun _ => none, ⟨h, nofun, nofun, fun _ _ _ => rfl⟩, nofun,
    .inr credit_unknown.le⟩

/-- The others move. -/
theorem Sees.move (keep : ∀ i, (p i).isSome = true → (p' i).isSome = true)
    (mono : ∀ i o, W i o → W' i o) (h : Sees W n p start r) : Sees W' n p' start r := by
  obtain ⟨κ, view, h, hview, hn⟩ := h
  exact ⟨κ, view, ⟨h.guarded, fun i hi => keep i (h.present i hi), h.origin, h.same⟩,
    fun i hi => mono i _ (hview i hi), hn⟩

omit [Fintype ι] in
/-- The view of what is read for good gets the present value. -/
theorem spent_update {κ : ι → Known} {view : Pointers D} (now : ∀ i, W i (p i))
    (hview : ∀ i, κ i = .spent → W i (view i)) (i : ι) (j : ι)
    (hj : Function.update κ i .spent j = .spent) : W j (Function.update view i (p i) j) := by
  by_cases e : j = i
  · subst e
    rw [Function.update_self]
    exact now j
  · rw [Function.update_of_ne e] at hj ⊢
    exact hview j hj

/-- **The reader moves.** -/
theorem Sees.step (now : ∀ i, W i (p i)) (h : Sees W n p start r) :
    Sees W (n - 1) p start (r.step p) := by
  obtain ⟨κ, view, h, hview, hn⟩ := h
  cases r with
  | done a => exact ⟨κ, view, h, hview, .inl ⟨a, rfl⟩⟩
  | fault => exact h.guarded.elim
  | test i k =>
    have hcredit : credit κ ≤ n := hn.resolve_left nofun
    cases hi : (p i).isSome with
    | true =>
      rw [Reader.step, hi]
      refine ⟨_, _, h.test_present hi, ?_, .inr ?_⟩
      · intro j hj
        by_cases e : j = i
        · rw [e, Function.update_self] at hj
          cases hj
        · rw [Function.update_of_ne e] at hj
          exact hview j hj
      · refine Nat.le_sub_one_of_lt (lt_of_lt_of_le (credit_update_lt ?_) hcredit)
        rw [h.guarded.1]
        decide
    | false =>
      rw [Reader.step, hi]
      have hκ : κ i ≠ .spent := by
        rw [h.guarded.1]
        decide
      refine ⟨_, _, h.spend hκ (fun _ _ => trivial) (h.guarded.2 false) ?_,
        spent_update now hview i,
        .inr (Nat.le_sub_one_of_lt (lt_of_lt_of_le (credit_spend_lt hκ) hcredit))⟩
      intro v hv
      rw [run, hv, hi]
  | load i k =>
    have hcredit : credit κ ≤ n := hn.resolve_left nofun
    refine ⟨_, _, h.spend h.guarded.1 (fun _ _ => trivial) (h.guarded.2 (p i) (h.present i)) ?_,
      spent_update now hview i,
      .inr (Nat.le_sub_one_of_lt (lt_of_lt_of_le (credit_spend_lt h.guarded.1) hcredit))⟩
    intro v hv
    rw [run, hv]
    rfl

theorem Sees.not_fault (h : Sees W n p start r) : r ≠ .fault := by
  rintro rfl
  obtain ⟨κ, view, h, -, -⟩ := h
  exact h.guarded

/-- **Without steps left, it is at its end.** -/
theorem Sees.exists_done (h : Sees W 0 p start r) : ∃ a, r = .done a := by
  obtain ⟨κ, view, h, -, hdone | hcredit⟩ := h
  · exact hdone
  · have hspent : ∀ i, κ i ≠ .spent → False := fun i hi =>
      absurd (lt_of_lt_of_le (credit_spend_lt hi) hcredit) (Nat.not_lt_zero _)
    cases r with
    | done a => exact ⟨a, rfl⟩
    | fault => exact h.guarded.elim
    | test i k =>
      refine (hspent i ?_).elim
      rw [h.guarded.1]
      decide
    | load i k => exact (hspent i h.guarded.1).elim

/-- **The result is that of one view**, of values the pointers had since the reader began. -/
theorem Sees.exists_view {a : α} (now : ∀ i, W i (p i)) (h : Sees W n p start (.done a)) :
    ∃ view : Pointers D, start.run view = some a ∧ ∀ i, W i (view i) := by
  obtain ⟨κ, view, h, hview, -⟩ := h
  let whole : Pointers D := fun i => if κ i = .spent then view i else p i
  refine ⟨whole, ?_, ?_⟩
  · rw [h.same whole, run]
    · intro i hi
      exact if_pos hi
    · intro i hi
      have : whole i = p i := if_neg (by rw [hi]; simp)
      rw [this]
      exact h.present i hi
  · intro i
    by_cases hi : κ i = .spent
    · rw [show whole i = view i from if_pos hi]
      exact hview i hi
    · rw [show whole i = p i from if_neg hi]
      exact now i

end Credit

end Reader

end CallFwd.Lib
