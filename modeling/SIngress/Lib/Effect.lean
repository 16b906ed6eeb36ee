/-
  SIngress.Lib.Effect — COMPUTATIONS WITH STATE AND FAILURE.

  `ExceptT ε (StateM C)`: a computation that may fail and whose effects on the
  state survive the failure.  A part of the state is KEPT by a computation when
  it is the same before and after, however the computation ends.  A TRIPLE says
  more: from a state with the precondition, a normal end gives the
  postcondition and a failure the postcondition for errors.  The rules of both
  follow the syntax of a `do` block.
-/
import Mathlib.Data.List.Basic

namespace SIngress.Lib

universe u

variable {ε C V : Type u} {α β : Type u}

/-- A computation on a state of type `C` that may fail. -/
abbrev Effect (ε C α : Type u) := ExceptT ε (StateM C) α

/-- The value of `f` at the state is the same before and after `m`. -/
def Keeps (f : C → V) (m : Effect ε C α) : Prop := ∀ c, f (m c).2 = f c

theorem bind_run (m : Effect ε C α) (k : α → Effect ε C β) (c : C) :
    (m >>= k) c = match m c with
      | (.ok a, c') => k a c'
      | (.error e, c') => (.error e, c') := by
  show ((m >>= ExceptT.bindCont k : StateM C (Except ε β))) c = _
  show (match m c with | (a, s) => ExceptT.bindCont k a s) = _
  rcases m c with ⟨a | a, c'⟩ <;> rfl

/-! ## §1. Running a block, statement by statement. -/

@[simp] theorem get_bind_run (k : C → Effect ε C β) (c : C) :
    ((get : Effect ε C C) >>= k) c = k c c := rfl

@[simp] theorem modify_bind_run (g : C → C) (k : PUnit → Effect ε C β) (c : C) :
    ((modify g : Effect ε C PUnit) >>= k) c = k ⟨⟩ (g c) := rfl

@[simp] theorem pure_run (a : α) (c : C) : (pure a : Effect ε C α) c = (.ok a, c) := rfl

@[simp] theorem throw_run (e : ε) (c : C) : (throw e : Effect ε C α) c = (.error e, c) := rfl

/-! ## §2. What a block keeps. -/

variable {f : C → V}

theorem keeps_pure (a : α) : Keeps f (pure a : Effect ε C α) := fun _ => rfl

theorem keeps_throw (e : ε) : Keeps f (throw e : Effect ε C α) := fun _ => rfl

theorem keeps_get : Keeps f (get : Effect ε C C) := fun _ => rfl

theorem keeps_modify {g : C → C} (h : ∀ c, f (g c) = f c) :
    Keeps f (modify g : Effect ε C PUnit) := h

theorem Keeps.bind {m : Effect ε C α} {k : α → Effect ε C β} (hm : Keeps f m)
    (hk : ∀ a, Keeps f (k a)) : Keeps f (m >>= k) := by
  intro c
  have hc := hm c
  rw [bind_run]
  rcases hmc : m c with ⟨e | a, c'⟩
  · rw [hmc] at hc
    exact hc
  · rw [hmc] at hc
    exact (hk a c').trans hc

theorem Keeps.ite {p : Prop} [Decidable p] {m n : Effect ε C α} (hm : Keeps f m)
    (hn : Keeps f n) : Keeps f (if p then m else n) := by
  by_cases h : p
  · rw [if_pos h]
    exact hm
  · rw [if_neg h]
    exact hn

/-! ## §3. Triples. -/

/-- How a run ended: `Q` of the value and the state, or `E` of the error and the state. -/
def Ends (Q : α → C → Prop) (E : ε → C → Prop) : Except ε α × C → Prop
  | (.ok a, c) => Q a c
  | (.error e, c) => E e c

/-- Every run of `m` from a state with `P` ends with `Q`, or with `E` in an error. -/
def Triple (P : C → Prop) (m : Effect ε C α) (Q : α → C → Prop) (E : ε → C → Prop) : Prop :=
  ∀ c, P c → Ends Q E (m c)

variable {P : C → Prop} {Q : α → C → Prop} {E : ε → C → Prop}

theorem triple_pure {a : α} (h : ∀ c, P c → Q a c) : Triple P (pure a : Effect ε C α) Q E := h

theorem triple_throw {e : ε} (h : ∀ c, P c → E e c) : Triple P (throw e : Effect ε C α) Q E := h

theorem triple_modify {g : C → C} {Q : PUnit → C → Prop} (h : ∀ c, P c → Q ⟨⟩ (g c)) :
    Triple P (modify g : Effect ε C PUnit) Q E := h

theorem Triple.bind {m : Effect ε C α} {k : α → Effect ε C β} {R : β → C → Prop}
    (hm : Triple P m Q E) (hk : ∀ a, Triple (Q a) (k a) R E) : Triple P (m >>= k) R E := by
  intro c hc
  have hmc := hm c hc
  rw [bind_run]
  rcases hrun : m c with ⟨e | a, c'⟩
  · rw [hrun] at hmc
    exact hmc
  · rw [hrun] at hmc
    exact hk a c' hmc

theorem triple_get_bind {k : C → Effect ε C α} (h : ∀ s, Triple P (k s) Q E) :
    Triple P (get >>= k) Q E := fun c hc => h c c hc

theorem Triple.ite {p : Prop} [Decidable p] {m n : Effect ε C α} (hm : Triple P m Q E)
    (hn : Triple P n Q E) : Triple P (if p then m else n) Q E := by
  by_cases h : p
  · rw [if_pos h]
    exact hm
  · rw [if_neg h]
    exact hn

/-- Nothing is claimed of the run. -/
theorem triple_any (m : Effect ε C α) : Triple P m (fun _ _ => True) (fun _ _ => True) := by
  intro c _
  rcases m c with ⟨e | a, c'⟩
  · trivial
  · trivial

end SIngress.Lib
