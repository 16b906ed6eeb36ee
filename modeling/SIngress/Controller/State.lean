/-
  SIngress.Controller.State — WHAT THE CONTROLLER KNOWS (`pkg/controller/state.go`).

  `K8sState` is the controller's view of the cluster, guarded by one lock: every
  function below runs as one atomic step.  An entry without a configuration is
  known but not served.
-/
import SIngress.Config.Conf
import SIngress.Proxy.Config

namespace SIngress.Controller

open SIngress.Base SIngress.Lib SIngress.K8s SIngress.Config SIngress.Proxy

/-! ## §1. The types. -/

/-- `IngressConfiguration`. -/
structure IngressConfiguration where
  usedSecrets : List NamespacedName
  usedConfigMaps : List NamespacedName
  usedServices : List NamespacedName
  hosts : GoMap GoString HostConfig
  tlsCertificates : GoMap GoString Certificate
  deriving DecidableEq

/-- `IngressEntry`. -/
structure IngressEntry where
  ingress : Ingress
  configuration : Option IngressConfiguration
  deriving DecidableEq

/-- `k8sState`. -/
structure K8sState where
  config : Option ControllerConf
  controllerName : GoString
  controllerClasses : GoMap GoString IngressClass
  ingresses : GoMap NamespacedName IngressEntry
  tcpProxies : List TcpProxyConfig
  ingressLoadBalancerStatus : Option (List LoadBalancerIngress)
  defaultTlsSecret : Option Certificate

/-- The state `NewProxyController` starts with. -/
def K8sState.new (controllerName : GoString) : K8sState where
  config := none
  controllerName := controllerName
  controllerClasses := ∅
  ingresses := ∅
  tcpProxies := []
  ingressLoadBalancerStatus := none
  defaultTlsSecret := none

/-! ## §2. Relevance. -/

/-- `isIngressRelevant`: the class of the ingress is known and names this controller. -/
def isIngressRelevant (s : K8sState) (ingress : Ingress) : Bool :=
  match ingress.ingressClassName with
  | none => false
  | some ingressClass =>
      match s.controllerClasses.lookup ingressClass with
      | none => false
      | some cls => cls.controller == s.controllerName

theorem relevant_congr {state state' : K8sState}
    (hc : state'.controllerClasses = state.controllerClasses)
    (hn : state'.controllerName = state.controllerName) (ingress : Ingress) :
    isIngressRelevant state' ingress = isIngressRelevant state ingress := by
  unfold isIngressRelevant
  rw [hc, hn]

/-! ## §3. The operations on entries. -/

/-- `updateIngress`. -/
def K8sState.updateIngress (s : K8sState) (entry : IngressEntry) : K8sState :=
  { s with ingresses := s.ingresses.insert (objectMetaToNamespaced entry.ingress) entry }

/-- `markIngressIrrelevant`: the recorded ingress is tested BEFORE it is replaced. -/
def K8sState.markIngressIrrelevant (s : K8sState) (ingress : Ingress) : K8sState × Bool :=
  let cleared := s.updateIngress ⟨ingress, none⟩
  match s.ingresses.lookup (objectMetaToNamespaced ingress) with
  | none => (cleared, false)
  | some entry => (cleared, isIngressRelevant s entry.ingress)

/-- `removeIngress`. -/
def K8sState.removeIngress (s : K8sState) (name : NamespacedName) : K8sState × Bool :=
  match s.ingresses.lookup name with
  | none => (s, false)
  | some entry =>
      ({ s with ingresses := s.ingresses.erase name }, isIngressRelevant s entry.ingress)

/-- `RemoveIngressClass`, without its request: whether the class was known. -/
def K8sState.removeIngressClass (s : K8sState) (name : GoString) : K8sState × Bool :=
  match s.controllerClasses.lookup name with
  | none => (s, false)
  | some _ => ({ s with controllerClasses := s.controllerClasses.erase name }, true)

/-- `AddIngressClass`, without its request. -/
def K8sState.addIngressClass (s : K8sState) (cls : IngressClass) : K8sState :=
  { s with controllerClasses := s.controllerClasses.insert cls.name cls }

/-! ## §4. What is configured. -/

/-- The configuration the state holds for an ingress. -/
def K8sState.configured (s : K8sState) (name : NamespacedName) : Option IngressConfiguration :=
  (s.ingresses.lookup name).bind IngressEntry.configuration

end SIngress.Controller
