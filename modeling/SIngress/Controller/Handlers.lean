/-
  SIngress.Controller.Handlers — THE WATCH HANDLERS (`pkg/controller/reconcile.go`).

  A change of a Secret, Service or ConfigMap becomes a list of reconcile
  requests, one for each entry whose configuration recorded the object, and
  possibly a request to reload the common configuration.  The handlers for
  services and config maps RETURN EARLY when the object is part of the common
  configuration: `requests_complete_iff` says exactly when a request is missed
  for that.
-/
import SIngress.Controller.Progress

namespace SIngress.Controller

open SIngress.Base SIngress.Lib SIngress.K8s SIngress.Platform SIngress.Config SIngress.Proxy
open SIngress.Modules

/-! ## §1. The handlers. -/

/-- What a handler decides: the reconcile requests, and whether to request a reload. -/
structure Handled where
  requests : List NamespacedName
  reconcileCommon : Bool
  deriving DecidableEq

/-- The loop of a handler over the entries, visited as `order` says. -/
def requestsFor (uses : IngressConfiguration → List NamespacedName) (object : NamespacedName)
    (order : List (NamespacedName × IngressEntry)) : List NamespacedName :=
  (order.filter fun e =>
    match e.2.configuration with
    | none => false
    | some ingressConf => (uses ingressConf).contains object).map Prod.fst

section

variable (env : ControllerEnvConf) (state : K8sState)
  (order : List (NamespacedName × IngressEntry)) (object : NamespacedName)

/-- `getIngressReconcilesForSecrets`. -/
def getIngressReconcilesForSecrets : Handled where
  requests := requestsFor IngressConfiguration.usedSecrets object order
  reconcileCommon :=
    match state.config with
    | none => false
    | some conf =>
        (object.name == conf.defaultTlsSecret && object.namesp == env.namesp)
          || conf.usedSecrets.contains object

/-- `getIngressReconcilesForConfigMaps`. -/
def getIngressReconcilesForConfigMaps : Handled :=
  if object = env.controllerConfigMap then ⟨[], true⟩
  else ⟨requestsFor IngressConfiguration.usedConfigMaps object order, false⟩

/-- The object is the upstream service of the current configuration. -/
def isUpstreamService : Bool :=
  match state.config with
  | none => false
  | some conf =>
      match conf.upstreamServiceName with
      | none => false
      | some name => object == ⟨env.namesp, name⟩

/-- `getIngressReconcilesForServices`. -/
def getIngressReconcilesForServices : Handled :=
  if isUpstreamService env state object then ⟨[], true⟩
  else ⟨requestsFor IngressConfiguration.usedServices object order, false⟩

/-- `getIngressesToRequeueOnClassChange`, over the listed ingresses. -/
def getIngressesToRequeueOnClassChange (className : GoString)
    (items : List (NamespacedName × Ingress)) : List NamespacedName :=
  (items.filter fun item => item.2.ingressClassName = some className).map
    fun item => objectMetaToNamespaced item.2

/-! ## §2. The three handlers as one. -/

/-- What is watched besides ingresses and classes. -/
inductive WatchedKind where
  | secret
  | service
  | configMap
  deriving DecidableEq

/-- Where a configuration records the objects of a kind. -/
def WatchedKind.uses : WatchedKind → IngressConfiguration → List NamespacedName
  | .secret => IngressConfiguration.usedSecrets
  | .service => IngressConfiguration.usedServices
  | .configMap => IngressConfiguration.usedConfigMaps

/-- The handler of a kind. -/
def WatchedKind.handle : WatchedKind → Handled
  | .secret => getIngressReconcilesForSecrets env state order object
  | .service => getIngressReconcilesForServices env state order object
  | .configMap => getIngressReconcilesForConfigMaps env order object

/-- The handler of the kind returns early for this object. -/
def WatchedKind.returnsEarly : WatchedKind → Bool
  | .secret => false
  | .service => isUpstreamService env state object
  | .configMap => object == env.controllerConfigMap

variable {env state order object}

theorem handle_requests (kind : WatchedKind) :
    (kind.handle env state order object).requests
      = if kind.returnsEarly env state object = true then []
        else requestsFor kind.uses object order := by
  cases kind with
  | secret => rfl
  | service =>
      unfold WatchedKind.handle getIngressReconcilesForServices WatchedKind.returnsEarly
      dsimp only
      split_ifs with h
      · rfl
      · rfl
  | configMap =>
      unfold WatchedKind.handle getIngressReconcilesForConfigMaps WatchedKind.returnsEarly
      dsimp only
      by_cases h : object = env.controllerConfigMap
      · rw [if_pos h, if_pos (by rw [h]; exact beq_self_eq_true _)]
      · rw [if_neg h, if_neg (fun hb => h (eq_of_beq hb))]
        rfl

/-! ## §3. Complete notification. -/

/-- The ingress `n` is configured and recorded the object. -/
def Records (kind : WatchedKind) (state : K8sState) (object n : NamespacedName) : Prop :=
  ∃ cfg, state.configured n = some cfg ∧ object ∈ kind.uses cfg

/-- The requests are for the ingresses that recorded the object, and no other. -/
def Complete (kind : WatchedKind) (state : K8sState) (object : NamespacedName)
    (requests : List NamespacedName) : Prop :=
  ∀ n, n ∈ requests ↔ Records kind state object n

theorem requestsFor_complete (horder : GoMap.Ranges state.ingresses order) (kind : WatchedKind) :
    Complete kind state object (requestsFor kind.uses object order) := by
  intro n
  unfold requestsFor
  rw [List.mem_map]
  constructor
  · rintro ⟨⟨n', e⟩, hmem, rfl⟩
    obtain ⟨hmem, huses⟩ := List.mem_filter.mp hmem
    cases hcfg : e.configuration with
    | none =>
        rw [hcfg] at huses
        cases huses
    | some cfg =>
        rw [hcfg] at huses
        refine ⟨cfg, ?_, List.contains_iff_mem.mp huses⟩
        exact Option.bind_eq_some_iff.mpr ⟨e, horder.mem_iff.mp hmem, hcfg⟩
  · rintro ⟨cfg, hcfg, huses⟩
    obtain ⟨e, he, hcfg⟩ := Option.bind_eq_some_iff.mp hcfg
    refine ⟨(n, e), List.mem_filter.mpr ⟨horder.mem_iff.mpr he, ?_⟩, rfl⟩
    rw [hcfg]
    exact List.contains_iff_mem.mpr huses

/-- **When notification is complete**: always, unless the handler returns early for an
object that some configured ingress recorded.  Only the handlers for services and config
maps return early. -/
theorem requests_complete_iff (horder : GoMap.Ranges state.ingresses order)
    (kind : WatchedKind) :
    Complete kind state object (kind.handle env state order object).requests ↔
      ¬ (kind.returnsEarly env state object = true ∧ ∃ n, Records kind state object n) := by
  rw [handle_requests]
  by_cases hearly : kind.returnsEarly env state object = true
  · rw [if_pos hearly]
    constructor
    · rintro hcomplete ⟨_, n, hn⟩
      cases (hcomplete n).mpr hn
    · intro hnone n
      refine ⟨fun hmem => (by cases hmem), fun hn => ?_⟩
      exact absurd ⟨hearly, n, hn⟩ hnone
  · rw [if_neg hearly]
    exact ⟨fun _ h => hearly h.1, fun _ => requestsFor_complete horder kind⟩

end

/-- A controller with an upstream service, where `ns/svc` is the backend of the ingress `ns/a`. -/
def upstreamState (upstream : GoString) : K8sState :=
  { K8sState.new smallEnv.controllerName with
    config := some { smallConf 4096 with upstreamServiceName := some upstream } }.updateIngress
    ⟨smallIngress, some (smallConfiguration 4096)⟩

/-- The entries of its only visit. -/
def upstreamEntries : List (NamespacedName × IngressEntry) :=
  [(smallName, ⟨smallIngress, some (smallConfiguration 4096)⟩)]

theorem upstreamEntries_ranges (upstream : GoString) :
    GoMap.Ranges (upstreamState upstream).ingresses upstreamEntries :=
  GoMap.ranges_insert_empty _ _

theorem upstreamState_records (upstream : GoString) :
    Records .service (upstreamState upstream) ⟨lit "ns", lit "svc"⟩ smallName :=
  ⟨smallConfiguration 4096, rfl, List.mem_cons_self⟩

/-- With another upstream service, a change of the backend reconciles the ingress. -/
theorem requests_complete_other :
    Records .service (upstreamState (lit "lb")) ⟨lit "ns", lit "svc"⟩ smallName
      ∧ (WatchedKind.handle smallEnv (upstreamState (lit "lb")) upstreamEntries
          ⟨lit "ns", lit "svc"⟩ .service).requests = [smallName]
      ∧ Complete .service (upstreamState (lit "lb")) ⟨lit "ns", lit "svc"⟩
        (WatchedKind.handle smallEnv (upstreamState (lit "lb")) upstreamEntries
          ⟨lit "ns", lit "svc"⟩ .service).requests := by
  refine ⟨upstreamState_records _, rfl, ?_⟩
  exact (requests_complete_iff (upstreamEntries_ranges (lit "lb")) .service).mpr fun h => by
    cases h.1

/-- A change of a backend that is the upstream service too reloads the common configuration and
reconciles nothing, though `ns/a` recorded it. -/
theorem upstream_service_not_requested :
    GoMap.Ranges (upstreamState (lit "svc")).ingresses upstreamEntries
      ∧ Records .service (upstreamState (lit "svc")) ⟨lit "ns", lit "svc"⟩ smallName
      ∧ (WatchedKind.handle smallEnv (upstreamState (lit "svc")) upstreamEntries
          ⟨lit "ns", lit "svc"⟩ .service) = ⟨[], true⟩
      ∧ ¬ Complete .service (upstreamState (lit "svc")) ⟨lit "ns", lit "svc"⟩
        (WatchedKind.handle smallEnv (upstreamState (lit "svc")) upstreamEntries
          ⟨lit "ns", lit "svc"⟩ .service).requests := by
  have hrec := upstreamState_records (lit "svc")
  refine ⟨upstreamEntries_ranges (lit "svc"), hrec, rfl, fun hcomplete => ?_⟩
  cases (hcomplete smallName).mpr hrec

end SIngress.Controller
