/-
  SIngress.Controller.Ingress — RECONCILING ONE INGRESS
  (`pkg/controller/ingress.go`).

  `ReconcileIngress` runs under the state's lock.  Besides the new state it
  decides whether to request a rebuild: always after a successful reconcile of
  a relevant ingress, otherwise only when the RECORDED ingress was relevant
  under the classes known now.
-/
import SIngress.Controller.Common

namespace SIngress.Controller

open SIngress.Base SIngress.Lib SIngress.K8s SIngress.Platform SIngress.Config SIngress.Proxy

/-- What a call of `ReconcileIngress` leaves: the state, whether it requested a
rebuild, and its result. -/
structure Reconciled where
  state : K8sState
  requested : Bool
  result : Except Fail Unit

/-- `ReconcileIngress`; `none` stands for a deleted ingress. -/
def reconcile (ext : Ext) (api : Api) (state : K8sState) (name : NamespacedName) :
    Option Ingress → Reconciled
  | none =>
      let (state', isRelevant) := state.removeIngress name
      ⟨state', isRelevant, .ok ()⟩
  | some ingress =>
      if isIngressRelevant state ingress = false then
        let (state', wasRelevant) := state.markIngressIrrelevant ingress
        ⟨state', wasRelevant, .ok ()⟩
      else
        match state.conf >>= fun conf => reconcileIngress ext api conf ingress with
        | .error f => ⟨state, false, .error (f.wrap (lit "error reconciling ingress: "))⟩
        | .ok ingressConfig => ⟨state.updateIngress ⟨ingress, some ingressConfig⟩, true, .ok ()⟩

/-! ## What a call can do. -/

/-- Every way a call of `ReconcileIngress` can go. -/
inductive Outcome (ext : Ext) (api : Api) (state : K8sState) (name : NamespacedName) :
    Option Ingress → Reconciled → Prop
  /-- A deleted ingress that was not recorded. -/
  | absent : state.ingresses.lookup name = none →
      Outcome ext api state name none ⟨state, false, .ok ()⟩
  /-- A deleted ingress: its entry goes. -/
  | removed {entry : IngressEntry} : state.ingresses.lookup name = some entry →
      Outcome ext api state name none
        ⟨{ state with ingresses := state.ingresses.erase name },
          isIngressRelevant state entry.ingress, .ok ()⟩
  /-- An irrelevant ingress that was not recorded. -/
  | noted {ingress : Ingress} : isIngressRelevant state ingress = false →
      state.ingresses.lookup (objectMetaToNamespaced ingress) = none →
      Outcome ext api state name (some ingress)
        ⟨state.updateIngress ⟨ingress, none⟩, false, .ok ()⟩
  /-- An irrelevant ingress: its configuration is cleared. -/
  | cleared {ingress : Ingress} {entry : IngressEntry} :
      isIngressRelevant state ingress = false →
      state.ingresses.lookup (objectMetaToNamespaced ingress) = some entry →
      Outcome ext api state name (some ingress)
        ⟨state.updateIngress ⟨ingress, none⟩, isIngressRelevant state entry.ingress, .ok ()⟩
  /-- A relevant ingress that cannot be reconciled: nothing changes. -/
  | failed {ingress : Ingress} {f : Fail} : isIngressRelevant state ingress = true →
      (state.conf >>= fun conf => reconcileIngress ext api conf ingress) = .error f →
      Outcome ext api state name (some ingress)
        ⟨state, false, .error (f.wrap (lit "error reconciling ingress: "))⟩
  /-- A relevant ingress is configured. -/
  | configured {ingress : Ingress} {conf : ControllerConf} {cfg : IngressConfiguration} :
      isIngressRelevant state ingress = true → state.config = some conf →
      reconcileIngress ext api conf ingress = .ok cfg →
      Outcome ext api state name (some ingress)
        ⟨state.updateIngress ⟨ingress, some cfg⟩, true, .ok ()⟩

theorem conf_eq_ok {state : K8sState} {conf : ControllerConf} :
    state.conf = .ok conf ↔ state.config = some conf := by
  unfold K8sState.conf
  cases state.config with
  | none => constructor <;> intro h <;> cases h
  | some c => rw [Except.ok.injEq, Option.some.injEq]

/-- **`ReconcileIngress` does one of these.** -/
theorem reconcile_outcome (ext : Ext) (api : Api) (state : K8sState) (name : NamespacedName)
    (ingress? : Option Ingress) :
    Outcome ext api state name ingress? (reconcile ext api state name ingress?) := by
  cases ingress? with
  | none =>
      unfold reconcile K8sState.removeIngress
      cases h : state.ingresses.lookup name with
      | none => exact Outcome.absent h
      | some entry => exact Outcome.removed h
  | some ingress =>
      unfold reconcile
      dsimp only
      by_cases hrel : isIngressRelevant state ingress = false
      · rw [if_pos hrel]
        unfold K8sState.markIngressIrrelevant
        cases h : state.ingresses.lookup (objectMetaToNamespaced ingress) with
        | none => exact Outcome.noted hrel h
        | some entry => exact Outcome.cleared hrel h
      · rw [if_neg hrel]
        rw [Bool.not_eq_false] at hrel
        cases h : (state.conf >>= fun conf => reconcileIngress ext api conf ingress) with
        | error f => exact Outcome.failed hrel h
        | ok cfg =>
            obtain ⟨conf, hconf, hcfg⟩ := bind_eq_ok.mp h
            exact Outcome.configured hrel (conf_eq_ok.mp hconf) hcfg

end SIngress.Controller
