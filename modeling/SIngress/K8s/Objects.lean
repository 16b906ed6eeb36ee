/-
  SIngress.K8s.Objects — THE KUBERNETES OBJECTS the controller reads.

  Each structure keeps the fields that some modelled function reads, under
  their API names; a pointer field is an `Option`.  The API server, as the
  controller sees it through its client, is `Api`: what a `Get` returns for a
  name, the error included.
-/
import SIngress.Base.Fail
import SIngress.Lib.GoMap

namespace SIngress.K8s

open SIngress.Base SIngress.Lib

/-! ## §1. Names. -/

/-- `types.NamespacedName`. -/
structure NamespacedName where
  namesp : GoString
  name : GoString
  deriving DecidableEq

/-- `NamespacedName.String()`. -/
def NamespacedName.string (n : NamespacedName) : GoString :=
  n.namesp ++ byteSlash :: n.name

/-! ## §2. Services, secrets, config maps. -/

structure ServicePort where
  name : GoString
  port : Int
  deriving DecidableEq

/-- One address of a load balancer's status. -/
structure LoadBalancerIngress where
  ip : GoString
  hostname : GoString
  deriving DecidableEq

structure Service where
  clusterIP : GoString
  ports : List ServicePort
  loadBalancer : List LoadBalancerIngress
  deriving DecidableEq

structure Secret where
  data : GoMap GoString GoString
  deriving DecidableEq

structure ConfigMap where
  data : GoMap GoString GoString
  deriving DecidableEq

/-! ## §3. Ingresses and their classes. -/

/-- `netv1.PathType`, a string type with three known values. -/
inductive PathType where
  | exact
  | pathPrefix
  | implementationSpecific
  | other (value : GoString)
  deriving DecidableEq

structure ServiceBackendPort where
  name : GoString
  number : Int
  deriving DecidableEq

structure IngressServiceBackend where
  name : GoString
  port : ServiceBackendPort
  deriving DecidableEq

/-- `netv1.HTTPIngressPath`; `service` is `Backend.Service`. -/
structure HTTPIngressPath where
  path : GoString
  pathType : Option PathType
  service : Option IngressServiceBackend
  deriving DecidableEq

/-- `netv1.IngressRule`; `http` is the list `HTTP.Paths` of the optional
`HTTP` section. -/
structure IngressRule where
  host : GoString
  http : Option (List HTTPIngressPath)
  deriving DecidableEq

structure IngressTLS where
  hosts : List GoString
  secretName : GoString
  deriving DecidableEq

/-- `netv1.Ingress`.  The API server admits no `/` in a namespace. -/
structure Ingress where
  namesp : GoString
  name : GoString
  annotations : GoMap GoString GoString
  ingressClassName : Option GoString
  rules : List IngressRule
  tls : List IngressTLS
  namesp_valid : byteSlash ∉ namesp
  deriving DecidableEq

structure IngressClass where
  name : GoString
  controller : GoString
  deriving DecidableEq

/-- `objectMetaToNamespaced`. -/
def objectMetaToNamespaced (ing : Ingress) : NamespacedName := ⟨ing.namesp, ing.name⟩

/-- `ingress.Annotations[key]`: the empty string when the key is absent. -/
def Ingress.annotationValue (ing : Ingress) (key : GoString) : GoString :=
  (ing.annotations.lookup key).getD []

/-- **Printed names are unique**: two ingresses with the same `String()` are the
same object. -/
theorem objectMetaToNamespaced_inj {i j : Ingress}
    (h : (objectMetaToNamespaced i).string = (objectMetaToNamespaced j).string) :
    objectMetaToNamespaced i = objectMetaToNamespaced j := by
  obtain ⟨hn, hm⟩ := append_sep_inj i.namesp_valid j.namesp_valid h
  exact congrArg₂ NamespacedName.mk hn hm

/-! ## §4. The API server behind the client. -/

/-- What `client.Get` answers, object kind by object kind. -/
structure Api where
  getService : NamespacedName → Except GoError Service
  getSecret : NamespacedName → Except GoError Secret
  getConfigMap : NamespacedName → Except GoError ConfigMap

/-- An API server with one service, no secrets and a configuration file, to evaluate
the model on. -/
def Api.withFile (file : GoString) : Api where
  getService _ := .ok ⟨lit "10.0.0.1", [⟨lit "http", 80⟩], []⟩
  getSecret _ := .error (lit "not found")
  getConfigMap _ := .ok ⟨Finmap.singleton (lit "config.yaml") file⟩

/-- The same with an empty file. -/
def Api.small : Api := Api.withFile []

/-- An ingress of class `c` with the given annotations, rules and TLS section, to
evaluate the model on. -/
def Ingress.small (name : GoString) (annotations : GoMap GoString GoString)
    (rules : List IngressRule) (tls : List IngressTLS) : Ingress where
  namesp := lit "ns"
  name := name
  annotations := annotations
  ingressClassName := some (lit "c")
  rules := rules
  tls := tls
  namesp_valid := by decide

end SIngress.K8s
