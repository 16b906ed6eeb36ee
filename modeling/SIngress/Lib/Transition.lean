/-
  SIngress.Lib.Transition — LABELLED TRANSITION SYSTEMS.

  A system is a relation `step s a t`: in state `s` the label `a` may lead to
  `t`.  `Run step s as t` is a finite run with its list of labels.  The rules:

    • `Run.invariant`  — what every step keeps, every run keeps,
    • `Guarded`        — the same system, its steps restricted by a condition
                         on the state BEFORE the step and on the label.
-/
import Mathlib.Data.List.Basic

namespace SIngress.Lib

universe u v

variable {σ : Type u} {ℓ : Type v} {step : σ → ℓ → σ → Prop}

/-! ## §1. Finite runs. -/

/-- A finite run from `s` to `t`, with the labels it takes. -/
inductive Run (step : σ → ℓ → σ → Prop) : σ → List ℓ → σ → Prop
  | nil (s : σ) : Run step s [] s
  | cons {s t u : σ} {a : ℓ} {as : List ℓ} :
      step s a t → Run step t as u → Run step s (a :: as) u

/-- A state some run leads to from an initial state. -/
def Reachable (step : σ → ℓ → σ → Prop) (init : σ → Prop) (t : σ) : Prop :=
  ∃ s as, init s ∧ Run step s as t

theorem Run.append {s t u : σ} {as bs : List ℓ} (h₁ : Run step s as t)
    (h₂ : Run step t bs u) : Run step s (as ++ bs) u := by
  induction h₁ with
  | nil s => exact h₂
  | cons hs _ ih => exact Run.cons hs (ih h₂)

theorem Run.single {s t : σ} {a : ℓ} (h : step s a t) : Run step s [a] t :=
  Run.cons h (Run.nil t)

/-! ## §2. The invariant rule. -/

/-- **What every step keeps, every run keeps.** -/
theorem Run.invariant {I : σ → Prop}
    (hstep : ∀ s a t, I s → step s a t → I t)
    {s t : σ} {as : List ℓ} (h : Run step s as t) (hs : I s) : I t := by
  induction h with
  | nil s => exact hs
  | cons ha _ ih => exact ih (hstep _ _ _ hs ha)

theorem Reachable.next {init : σ → Prop} {s t : σ} {a : ℓ} (h : Reachable step init s)
    (ha : step s a t) : Reachable step init t := by
  obtain ⟨s₀, as, hs, hr⟩ := h
  exact ⟨s₀, _, hs, hr.append (.single ha)⟩

theorem Reachable.invariant {init I : σ → Prop} (hinit : ∀ s, init s → I s)
    (hstep : ∀ s a t, I s → step s a t → I t)
    {t : σ} (h : Reachable step init t) : I t := by
  obtain ⟨s, as, hs, hr⟩ := h
  exact hr.invariant hstep (hinit s hs)

/-- **A measure bounds the steps that lower it**: where no other step raises it, no run has
more of them than it is high. -/
theorem Run.countP_le {I : σ → Prop} {μ : σ → Nat} {p : ℓ → Bool}
    (hstep : ∀ s a t, I s → step s a t → I t ∧ (if p a then μ t < μ s else μ t ≤ μ s))
    {s t : σ} {as : List ℓ} (h : Run step s as t) (hs : I s) : as.countP p + μ t ≤ μ s := by
  induction h with
  | nil s => simp
  | @cons s t u a as ha _ ih =>
      obtain ⟨ht, hle⟩ := hstep _ _ _ hs ha
      have hrest := ih ht
      rw [List.countP_cons]
      cases hp : p a with
      | true =>
          rw [hp, if_pos rfl] at hle
          rw [if_pos rfl]
          omega
      | false =>
          rw [hp, if_neg Bool.false_ne_true] at hle
          rw [if_neg Bool.false_ne_true]
          omega

/-- Where every step lowers the measure, no run is longer than it. -/
theorem Run.length_le {I : σ → Prop} {μ : σ → Nat}
    (hstep : ∀ s a t, I s → step s a t → I t ∧ μ t < μ s)
    {s t : σ} {as : List ℓ} (h : Run step s as t) (hs : I s) : as.length + μ t ≤ μ s := by
  have hcount := h.countP_le (p := fun _ => true) hstep hs
  rwa [List.countP_true] at hcount

/-- **Steps of one kind use up what steps of another kind bring**: no run has more of the
first than of the second and what there was at its start. -/
theorem Run.countP_le_countP {I : σ → Prop} {μ : σ → Nat} {p q : ℓ → Bool}
    (hstep : ∀ s a t, I s → step s a t → I t ∧ μ t + (p a).toNat ≤ μ s + (q a).toNat)
    {s t : σ} {as : List ℓ} (h : Run step s as t) (hs : I s) :
    as.countP p + μ t ≤ as.countP q + μ s := by
  induction h with
  | nil s => simp
  | @cons s t u a as ha _ ih =>
      obtain ⟨ht, hle⟩ := hstep _ _ _ hs ha
      have hrest := ih ht
      rw [List.countP_cons, List.countP_cons]
      cases hp : p a <;> cases hq : q a <;> simp [hp, hq] at hle ⊢ <;> omega

/-! ## §3. Guarded systems. -/

/-- The steps of a system that meet a condition on the state before the step
and on the label. -/
def Guarded (step : σ → ℓ → σ → Prop) (G : σ → ℓ → Prop) (s : σ) (a : ℓ) (t : σ) : Prop :=
  step s a t ∧ G s a

/-- A guarded run is a run. -/
theorem Run.of_guarded {G : σ → ℓ → Prop} {s t : σ} {as : List ℓ}
    (h : Run (Guarded step G) s as t) : Run step s as t := by
  induction h with
  | nil s => exact Run.nil s
  | cons ha _ ih => exact Run.cons ha.1 ih

/-- A run under a guard is a run under a weaker one. -/
theorem Run.weaken {G G' : σ → ℓ → Prop} (hG : ∀ s a, G s a → G' s a) {s t : σ} {as : List ℓ}
    (h : Run (Guarded step G) s as t) : Run (Guarded step G') s as t := by
  induction h with
  | nil s => exact Run.nil s
  | cons ha _ ih => exact Run.cons ⟨ha.1, hG _ _ ha.2⟩ ih

/-- A guard that an invariant of the system implies costs nothing. -/
theorem Run.guarded_of_invariant {I : σ → Prop} {G : σ → ℓ → Prop} {P : ℓ → Prop}
    (hkeep : ∀ s a t, P a → I s → step s a t → I t)
    (hG : ∀ s a t, P a → I s → step s a t → G s a)
    {s t : σ} {as : List ℓ} (h : Run step s as t) (hP : ∀ a ∈ as, P a) (hs : I s) :
    Run (Guarded step G) s as t := by
  induction h with
  | nil s => exact Run.nil s
  | cons ha _ ih =>
      have hPa := hP _ List.mem_cons_self
      exact Run.cons ⟨ha, hG _ _ _ hPa hs ha⟩
        (ih (fun b hb => hP b (List.mem_cons_of_mem _ hb)) (hkeep _ _ _ hPa hs ha))

end SIngress.Lib
