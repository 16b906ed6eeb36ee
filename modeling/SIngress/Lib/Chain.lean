/-
  SIngress.Lib.Chain — CHAINS OF CONTINUATION-PASSING HANDLERS.

  A computation turns a context into a result and the context it leaves.  A
  handler gets the rest of the chain as a computation and decides itself
  whether to run it.  `chain ms f` runs the handlers of `ms` from left to
  right with `f` at the end.

  A handler is a GATE for a condition when it runs the rest of the chain, once
  and on a context with the same view, exactly where the condition holds; where
  it fails, it leaves the log as it was.  The log is whatever the development
  wants to count; the view is the part of the context the conditions read.

    • `chain_append`    — a chain splits at any place,
    • `chain_of_pass`   — every condition holds: the end of the chain runs,
    • `chain_of_deny`   — some condition fails: the log does not grow.
-/
import Mathlib.Data.List.Basic

namespace SIngress.Lib

universe u v w x

variable {C : Type u} {E : Type v} {V : Type w} {L : Type x}

/-! ## §1. Chains. -/

/-- A computation on a context: its result and the context it leaves. -/
abbrev Computation (C : Type u) (E : Type v) := C → E × C

/-- A handler, given the rest of the chain. -/
abbrev Handler (C : Type u) (E : Type v) := Computation C E → Computation C E

/-- Run the handlers of `ms` from left to right, then `f`. -/
def chain (ms : List (Handler C E)) (f : Computation C E) : Computation C E :=
  ms.foldr (fun m next => m next) f

theorem chain_append (as bs : List (Handler C E)) (f : Computation C E) :
    chain (as ++ bs) f = chain as (chain bs f) :=
  List.foldr_append

/-! ## §2. Gates. -/

/-- The handler lets a context through exactly where `p` holds of its view. -/
structure Gate (view : C → V) (log : C → L) (m : Handler C E) (p : V → Prop) : Prop where
  /-- Where the condition holds the rest of the chain runs once, on a context
  with the same view and the same log. -/
  pass : ∀ next c, p (view c) → ∃ c', view c' = view c ∧ log c' = log c ∧ m next c = next c'
  /-- Where it fails the log stays as it was. -/
  deny : ∀ next c, ¬ p (view c) → log (m next c).2 = log c

variable {view : C → V} {log : C → L} {M : Type*} {handler : M → Handler C E}
  {check : M → V → Prop}

/-- **Every condition holds: the end of the chain runs, once.** -/
theorem chain_of_pass {ms : List M}
    (hgate : ∀ m ∈ ms, Gate view log (handler m) (check m)) (f : Computation C E) (c : C)
    (hpass : ∀ m ∈ ms, check m (view c)) :
    ∃ c', view c' = view c ∧ log c' = log c ∧ chain (ms.map handler) f c = f c' := by
  induction ms generalizing c with
  | nil => exact ⟨c, rfl, rfl, rfl⟩
  | cons m ms ih =>
      obtain ⟨c₁, hv₁, hl₁, h₁⟩ := (hgate m List.mem_cons_self).pass
        (chain (ms.map handler) f) c (hpass m List.mem_cons_self)
      obtain ⟨c₂, hv₂, hl₂, h₂⟩ := ih (fun n hn => hgate n (List.mem_cons_of_mem _ hn)) c₁
        (fun n hn => by rw [hv₁]; exact hpass n (List.mem_cons_of_mem _ hn))
      refine ⟨c₂, hv₂.trans hv₁, hl₂.trans hl₁, ?_⟩
      show handler m (chain (ms.map handler) f) c = f c₂
      rw [h₁, h₂]

/-- **Some condition fails: the log does not grow**, whatever stands at the end. -/
theorem chain_of_deny {ms : List M}
    (hgate : ∀ m ∈ ms, Gate view log (handler m) (check m)) (f : Computation C E) (c : C)
    (hdeny : ∃ m ∈ ms, ¬ check m (view c)) :
    log (chain (ms.map handler) f c).2 = log c := by
  induction ms generalizing c with
  | nil =>
      obtain ⟨m, hm, _⟩ := hdeny
      cases hm
  | cons m ms ih =>
      show log (handler m (chain (ms.map handler) f) c).2 = log c
      by_cases hm : check m (view c)
      · -- `m` lets the context through, so the failing condition is further on
        obtain ⟨c₁, hv₁, hl₁, h₁⟩ := (hgate m List.mem_cons_self).pass
          (chain (ms.map handler) f) c hm
        rw [h₁, ← hl₁]
        apply ih (fun n hn => hgate n (List.mem_cons_of_mem _ hn))
        obtain ⟨n, hn, hfail⟩ := hdeny
        rcases List.mem_cons.mp hn with h | h
        · subst h
          exact absurd hm hfail
        · exact ⟨n, h, by rw [hv₁]; exact hfail⟩
      · exact (hgate m List.mem_cons_self).deny _ c hm

end SIngress.Lib
