/-
  SIngress.Config.Module — THE MODULE INTERFACE (`pkg/config/module.go`).

  A module reads the cluster through the reconciler it is given, and through
  nothing else.  `Reading α` is a computation that may ask the reconciler for
  secrets; `Reading.run` answers the questions from the API server and records
  every secret that was read, as `GetSecret` of both reconcilers does.
  A `ModuleInstance` is the interface: its two hooks.
-/
import SIngress.Base.Fail
import SIngress.K8s.Objects
import SIngress.Proxy.Middleware

namespace SIngress.Config

open SIngress.Base SIngress.Lib SIngress.K8s SIngress.Proxy

/-! ## §1. Computations that read secrets. -/

/-- A computation with access to `GetSecret` only. -/
inductive Reading (α : Type) where
  | ret (a : α)
  | fail (f : Fail)
  | getSecret (secret : NamespacedName) (next : Except GoError Secret → Reading α)

namespace Reading

def bind {α β : Type} : Reading α → (α → Reading β) → Reading β
  | ret a, f => f a
  | fail e, _ => fail e
  | getSecret secret next, f => getSecret secret fun answer => (next answer).bind f

instance : Monad Reading where
  pure := ret
  bind := bind

/-- A library call that may return an error. -/
def lift {α : Type} : Except Fail α → Reading α
  | .ok a => ret a
  | .error e => fail e

/-- The computation with a context added to the error it ends in. -/
def wrap {α : Type} (context : GoString) : Reading α → Reading α
  | ret a => ret a
  | fail e => fail (e.wrap context)
  | getSecret secret next => getSecret secret fun answer => (next answer).wrap context

/-- `GetSecret` of the reconcilers: a secret that was read is recorded, a failed
read is not. -/
def run {α : Type} (api : Api) :
    Reading α → List NamespacedName → Except Fail (α × List NamespacedName)
  | ret a, used => .ok (a, used)
  | fail e, _ => .error e
  | getSecret secret next, used =>
      match api.getSecret secret with
      | .error err =>
          run api (next (.error (lit "error getting secret " ++ secret.string ++ lit ": " ++ err)))
            used
      | .ok s => run api (next (.ok s)) (used ++ [secret])

theorem run_getSecret {α : Type} (api : Api) (secret : NamespacedName)
    (next : Except GoError Secret → Reading α) (used : List NamespacedName) :
    (getSecret secret next).run api used = match api.getSecret secret with
      | .error err => (next (.error (lit "error getting secret " ++ secret.string ++ lit ": " ++
          err))).run api used
      | .ok s => (next (.ok s)).run api (used ++ [secret]) := by
  rw [run]

theorem run_bind {α β : Type} (api : Api) (m : Reading α) (f : α → Reading β) :
    ∀ used, (m >>= f).run api used = m.run api used >>= fun p => (f p.1).run api p.2 := by
  induction m with
  | ret a => intro used; rfl
  | fail e => intro used; rfl
  | getSecret secret next ih =>
      intro used
      show ((getSecret secret fun answer => next answer >>= f) : Reading β).run api used = _
      rw [run_getSecret, run_getSecret]
      cases api.getSecret secret with
      | error err => exact ih _ used
      | ok s => exact ih _ (used ++ [secret])

theorem run_bind_eq_ok {α β : Type} {api : Api} {m : Reading α} {f : α → Reading β}
    {used used' : List NamespacedName} {b : β} :
    (m >>= f).run api used = .ok (b, used') ↔
      ∃ a used₁, m.run api used = .ok (a, used₁) ∧ (f a).run api used₁ = .ok (b, used') := by
  rw [run_bind, bind_eq_ok]
  constructor
  · rintro ⟨⟨a, used₁⟩, h₁, h₂⟩
    exact ⟨a, used₁, h₁, h₂⟩
  · rintro ⟨a, used₁, h₁, h₂⟩
    exact ⟨⟨a, used₁⟩, h₁, h₂⟩

theorem run_pure_eq_ok {α : Type} {api : Api} {a b : α} {used used' : List NamespacedName} :
    (pure a : Reading α).run api used = .ok (b, used') ↔ a = b ∧ used = used' := by
  show (Except.ok (a, used) : Except Fail _) = .ok (b, used') ↔ _
  rw [Except.ok.injEq, Prod.mk.injEq]

theorem run_lift_eq_ok {α : Type} {api : Api} {x : Except Fail α} {a : α}
    {used used' : List NamespacedName} :
    (lift x).run api used = .ok (a, used') ↔ x = .ok a ∧ used = used' := by
  cases x with
  | error e =>
      constructor
      · intro h
        cases h
      · rintro ⟨h, _⟩
        cases h
  | ok b =>
      rw [Except.ok.injEq]
      exact run_pure_eq_ok

/-- A failed read makes the computation fail: no answer of `GetSecret` other than
a secret leads to a result. -/
inductive Strict {α : Type} : Reading α → Prop
  | ret (a : α) : Strict (ret a)
  | fail (e : Fail) : Strict (fail e)
  | getSecret {secret : NamespacedName} {next : Except GoError Secret → Reading α} :
      (∀ err, ∃ e, next (.error err) = Reading.fail e) → (∀ s, Strict (next (.ok s))) →
      Strict (Reading.getSecret secret next)

theorem Strict.bind {α β : Type} {m : Reading α} {f : α → Reading β} (hm : Strict m)
    (hf : ∀ a, Strict (f a)) : Strict (m >>= f) := by
  induction hm with
  | ret a => exact hf a
  | fail e => exact Strict.fail e
  | @getSecret secret next hfail _ ih =>
      refine Strict.getSecret (fun err => ?_) ih
      obtain ⟨e, he⟩ := hfail err
      refine ⟨e, ?_⟩
      show (next (.error err)).bind f = _
      rw [he]
      rfl

theorem Strict.lift {α : Type} (x : Except Fail α) : Strict (Reading.lift x) := by
  cases x with
  | error e => exact Strict.fail e
  | ok a => exact Strict.ret a

/-- Records only grow. -/
theorem run_used_grows {α : Type} {api : Api} {m : Reading α} :
    ∀ {used used' : List NamespacedName} {a : α}, m.run api used = .ok (a, used') →
      used <+: used' := by
  induction m with
  | ret a =>
      intro used used' b h
      cases h
      exact List.prefix_refl _
  | fail e =>
      intro used used' b h
      cases h
  | getSecret secret next ih =>
      intro used used' b h
      rw [run_getSecret] at h
      cases hg : api.getSecret secret with
      | error err =>
          rw [hg] at h
          exact ih _ h
      | ok s =>
          rw [hg] at h
          exact (List.prefix_append used [secret]).trans (ih _ h)

/-- **Reads are recorded.**  A strict computation that succeeded gives the same
result, and records the same reads, on every API server that agrees on the
secrets it recorded. -/
theorem run_agree {α : Type} {api api' : Api} {m : Reading α} (hm : Strict m) :
    ∀ {used used' : List NamespacedName} {a : α}, m.run api used = .ok (a, used') →
      (∀ n ∈ used', api'.getSecret n = api.getSecret n) →
      m.run api' used = .ok (a, used') := by
  induction hm with
  | ret a =>
      intro used used' b h _
      exact h
  | fail e =>
      intro used used' b h _
      cases h
  | @getSecret secret next hfail _ ih =>
      intro used used' b h hagree
      rw [run_getSecret] at h ⊢
      cases hg : api.getSecret secret with
      | error err =>
          rw [hg] at h
          obtain ⟨e, he⟩ := hfail (lit "error getting secret " ++ secret.string ++ lit ": " ++ err)
          simp only at h
          rw [he] at h
          cases h
      | ok s =>
          rw [hg] at h
          have hmem : secret ∈ used' := (run_used_grows h).subset (by simp)
          rw [hagree secret hmem, hg]
          exact ih s h hagree

/-- The computation has a result on this API server. -/
def Succeeds {α : Type} (api : Api) (m : Reading α) : Prop :=
  ∀ used, ∃ a used', m.run api used = .ok (a, used')

theorem Succeeds.pure {α : Type} {api : Api} (a : α) : Succeeds api (pure a : Reading α) :=
  fun used => ⟨a, used, rfl⟩

theorem Succeeds.lift_bind {α β : Type} {api : Api} {x : Except Fail α} {a : α}
    {f : α → Reading β} (hx : x = .ok a) (hf : Succeeds api (f a)) :
    Succeeds api (Reading.lift x >>= f) := by
  intro used
  obtain ⟨b, used', hb⟩ := hf used
  exact ⟨b, used', run_bind_eq_ok.mpr ⟨a, used, run_lift_eq_ok.mpr ⟨hx, rfl⟩, hb⟩⟩

theorem Succeeds.getSecret {α : Type} {api : Api} {secret : NamespacedName} {s : Secret}
    {next : Except GoError Secret → Reading α} (hs : api.getSecret secret = .ok s)
    (hnext : Succeeds api (next (.ok s))) : Succeeds api (Reading.getSecret secret next) := by
  intro used
  rw [run_getSecret, hs]
  exact hnext _

/-- A computation with a result has one whatever was recorded before. -/
theorem succeeds_of_run {α : Type} {api : Api} {m : Reading α} :
    ∀ {used used' : List NamespacedName} {a : α}, m.run api used = .ok (a, used') →
      Succeeds api m := by
  induction m with
  | ret a => exact fun _ used => ⟨a, used, rfl⟩
  | fail e =>
      intro used used' b h
      cases h
  | getSecret secret next ih =>
      intro used used' b h used₂
      rw [run_getSecret] at h ⊢
      cases hg : api.getSecret secret with
      | error err =>
          rw [hg] at h
          exact ih _ h used₂
      | ok s =>
          rw [hg] at h
          exact ih _ h _

/-- The computation returns, whatever the API server answers. -/
def Returns {α : Type} (m : Reading α) : Prop := ∀ api used, Graceful (m.run api used)

theorem returns_pure {α : Type} (a : α) : Returns (pure a : Reading α) :=
  fun _ _ => graceful_ok _

theorem returns_fail {α : Type} (err : GoError) : Returns (fail (.err err) : Reading α) :=
  fun _ _ => graceful_err err

theorem returns_lift {α : Type} {x : Except Fail α} (h : Graceful x) : Returns (lift x) := by
  intro api used
  cases x with
  | error f =>
      obtain ⟨err, rfl⟩ := h f rfl
      exact graceful_err err
  | ok a => exact graceful_ok _

theorem Returns.bind {α β : Type} {m : Reading α} {f : α → Reading β} (hm : Returns m)
    (hf : ∀ a, Returns (f a)) : Returns (m >>= f) := by
  intro api used
  rw [run_bind]
  exact (hm api used).bind fun p => hf p.1 api p.2

theorem returns_getSecret {α : Type} {secret : NamespacedName}
    {next : Except GoError Secret → Reading α} (h : ∀ answer, Returns (next answer)) :
    Returns (getSecret secret next) := by
  intro api used
  rw [run_getSecret]
  cases api.getSecret secret with
  | error err => exact h _ api used
  | ok s => exact h _ api _

end Reading

/-! ## §2. The interface. -/

/-- `config.ModuleInstance`: the type's name as `%T` prints it, and the hooks. -/
structure ModuleInstance where
  typeName : GoString
  requestMiddleware : Except GoError (Option Middleware)
  ingressMiddleware : Ingress → Reading (Option Middleware)

/-- `config.Module`: the hooks a module that embeds it and overrides nothing has. -/
def emptyModule : ModuleInstance where
  typeName := lit "config.Module"
  requestMiddleware := .ok none
  ingressMiddleware := fun _ => pure none

end SIngress.Config
