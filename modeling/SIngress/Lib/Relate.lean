/-
  SIngress.Lib.Relate — TWO COMPUTATIONS, STEP BY STEP.

  Two computations RELATE when, run on related states, they leave related states
  and end alike: both with a value, the values related by `A`, or both with an
  error, the errors related by `R`.  The rules follow the syntax of a `do`
  block, as those of `Triple` do; `Alike` is the same for calls without a state,
  where any two errors are alike.
-/
import SIngress.Lib.Effect

namespace SIngress.Lib

universe u

/-! ## §1. Calls that may fail. -/

section

variable {ε α β α' β' : Type u} {A : α → β → Prop} {B : α' → β' → Prop}

/-- Both calls succeed with related values, or both fail. -/
inductive Alike (A : α → β → Prop) : Except ε α → Except ε β → Prop
  | ok {a : α} {b : β} : A a b → Alike A (.ok a) (.ok b)
  | error (e e' : ε) : Alike A (.error e) (.error e')

theorem Alike.bind {x : Except ε α} {y : Except ε β} {f : α → Except ε α'} {g : β → Except ε β'}
    (h : Alike A x y) (hfg : ∀ a b, A a b → Alike B (f a) (g b)) :
    Alike B (x >>= f) (y >>= g) := by
  cases h with
  | ok hab => exact hfg _ _ hab
  | error e e' => exact .error e e'

/-- A change of the errors leaves calls alike. -/
theorem Alike.mapError {x : Except ε α} {y : Except ε β} (h : Alike A x y) (f g : ε → ε) :
    Alike A (x.mapError f) (y.mapError g) := by
  cases h with
  | ok hab => exact .ok hab
  | error e e' => exact .error (f e) (g e')

end

/-! ## §2. Computations with a state. -/

section

variable {ε C α β α' β' : Type u} {S : C → C → Prop} {A : α → β → Prop} {B : α' → β' → Prop}
  {R : ε → ε → Prop}

/-- Related states, and related values or related errors. -/
inductive SameEnd (S : C → C → Prop) (A : α → β → Prop) (R : ε → ε → Prop) :
    Except ε α × C → Except ε β × C → Prop
  | ok {a : α} {b : β} {c c' : C} : A a b → S c c' → SameEnd S A R (.ok a, c) (.ok b, c')
  | error {e e' : ε} {c c' : C} : R e e' → S c c' → SameEnd S A R (.error e, c) (.error e', c')

/-- Run on related states, the two end alike. -/
def Relates (S : C → C → Prop) (A : α → β → Prop) (R : ε → ε → Prop) (m : Effect ε C α)
    (n : Effect ε C β) : Prop :=
  ∀ c c', S c c' → SameEnd S A R (m c) (n c')

theorem relates_pure {a : α} {b : β} (h : A a b) :
    Relates S A R (pure a : Effect ε C α) (pure b) := fun _ _ hS => .ok h hS

theorem relates_throw {e e' : ε} (h : R e e') :
    Relates S A R (throw e : Effect ε C α) (throw e' : Effect ε C β) := fun _ _ hS => .error h hS

/-- Two changes of the state that keep it related. -/
theorem relates_modify {g g' : C → C} (h : ∀ c c', S c c' → S (g c) (g' c')) :
    Relates S Eq R (modify g : Effect ε C PUnit) (modify g') := fun c c' hS => .ok rfl (h c c' hS)

theorem Relates.bind {m : Effect ε C α} {n : Effect ε C β} {k : α → Effect ε C α'}
    {l : β → Effect ε C β'} (hm : Relates S A R m n)
    (hk : ∀ a b, A a b → Relates S B R (k a) (l b)) : Relates S B R (m >>= k) (n >>= l) := by
  intro c c' hS
  have hc := hm c c' hS
  rw [bind_run, bind_run]
  generalize m c = res at hc ⊢
  generalize n c' = res' at hc ⊢
  cases hc with
  | error hR hS' => exact .error hR hS'
  | ok hA hS' => exact hk _ _ hA _ _ hS'

/-- Each reads its own state. -/
theorem relates_get_bind {k : C → Effect ε C α} {l : C → Effect ε C β}
    (h : ∀ c c', S c c' → Relates S A R (k c) (l c')) :
    Relates S A R (get >>= k) (get >>= l) := fun c c' hS => h c c' hS c c' hS

theorem Relates.ite {p : Prop} [Decidable p] {m m' : Effect ε C α} {n n' : Effect ε C β}
    (h : Relates S A R m n) (h' : Relates S A R m' n') :
    Relates S A R (if p then m else m') (if p then n else n') := by
  by_cases hp : p
  · rw [if_pos hp, if_pos hp]
    exact h
  · rw [if_neg hp, if_neg hp]
    exact h'

end

end SIngress.Lib
