/-
  SIngress.Controller.Converter — FROM INGRESSES TO ROUTES
  (`pkg/controller/converter.go`).

  `reconcileIngress` turns one ingress into its configuration: a route for
  every path with a Service backend, a certificate for every TLS host, and the
  record of every Service and Secret it read.  `getProxyConfig` merges the
  configurations of all entries into the configuration the proxy serves.

  Maps are visited in an order the run-time picks: the functions that range
  over a map take the order, as a list, from their caller.
-/
import SIngress.Controller.State
import SIngress.Modules.Registry

namespace SIngress.Controller

open SIngress.Base SIngress.Lib SIngress.K8s SIngress.Platform SIngress.Config SIngress.Proxy
open SIngress.Modules

section

variable (ext : Ext)

/-! ## §1. The middlewares of an ingress. -/

/-- `getMiddlewares`, with the record of secrets read so far. -/
def getMiddlewares (api : Api) (ingress : Ingress) :
    List ModuleInstance → List NamespacedName →
      Except Fail (List Middleware × List NamespacedName)
  | [], used => .ok ([], used)
  | m :: rest, used => do
      let (middleware, used₁) ← (m.ingressMiddleware ingress).run api used
      let (middlewares, used₂) ← getMiddlewares api ingress rest used₁
      pure (middleware.toList ++ middlewares, used₂)

/-! ## §2. Paths. -/

/-- `mapPathType`. -/
def mapPathType : Option K8s.PathType → Except Fail Proxy.PathType
  -- without a type the path is exact, and an implementation-specific one is a prefix
  | none => .ok .pathTypeExact
  | some .pathPrefix => .ok .pathTypePrefix
  | some .exact => .ok .pathTypeExact
  | some .implementationSpecific => .ok .pathTypePrefix
  | some (.other _) => .error (.err (lit "invalid path type: " ++ ext.printPointer))

/-- `getHttpProxyConfig`, with `parseAnnotation` at its one use. -/
def getHttpProxyConfig (ingress : Ingress) (conf : IngressProxyConf) :
    Except Fail HttpProxyConfig :=
  match ingress.annotations.lookup (lit "s-ingress.oidq.dev/max-body") with
  | none => .ok ⟨conf.maxBodySize⟩
  | some value => do
      let maxBodySize ← wrapErr (lit "parse annotation s-ingress.oidq.dev/max-body: ")
        (parseByteSize ext value)
      pure ⟨maxBodySize⟩

/-- The loop of `addPath` over the ports of the service: the first port with the
name or the number of the backend, else 0. -/
def backendPort (ports : List ServicePort) (port : ServiceBackendPort) : Int :=
  -- a backend that gives a number has the empty name, which an unnamed port has too,
  -- so an unnamed port matches it whatever its number
  match ports.find? (fun p => p.name == port.name || p.port == port.number) with
  | some p => p.port
  | none => 0

/-- The endpoint of a backend: `Get` of its service, the parsed cluster IP and the port. -/
def backendEndpoint (api : Api) (ingress : Ingress) (hostname : GoString)
    (backend : IngressServiceBackend) : Except Fail AddrPort := do
  -- both messages print the host of the rule where the service is meant
  let service ← errorf
    (lit "failed to get service " ++ ingress.namesp ++ lit "/" ++ hostname ++ lit ": ")
    (api.getService ⟨ingress.namesp, backend.name⟩)
  let ipNet ← errorf
    (lit "failed to parse service ip " ++ ingress.namesp ++ lit "/" ++ hostname ++ lit ": ")
    (ext.parseAddr service.clusterIP)
  pure (addrPortFrom ipNet (backendPort service.ports backend.port))

/-- `addPath` for a path with a Service backend. -/
def addPath (api : Api) (conf : ControllerConf) (ingressConf : IngressConfiguration)
    (ingress : Ingress) (hostname : GoString) (path : HTTPIngressPath)
    (backend : IngressServiceBackend) : Except Fail IngressConfiguration := do
  let host := (ingressConf.hosts.lookup hostname).getD ⟨[]⟩
  let (middlewares, usedSecrets) ←
    getMiddlewares api ingress conf.modules ingressConf.usedSecrets
  let endpoint ← backendEndpoint ext api ingress hostname backend
  let pathType ← mapPathType ext path.pathType
  let httpProxyConf ← getHttpProxyConfig ext ingress conf.ingressProxy
  pure { ingressConf with
    usedSecrets := usedSecrets
    usedServices := ingressConf.usedServices ++ [⟨ingress.namesp, backend.name⟩]
    hosts := ingressConf.hosts.insert hostname (host.addRoute
      { path := path.path
        pathType := pathType
        endpoint := endpoint
        middlewares := middlewares
        httpProxyConfig := httpProxyConf
        ingressName := (objectMetaToNamespaced ingress).string }) }

section

variable {ext} {api : Api} {conf : ControllerConf} {ingressConf ingressConf' : IngressConfiguration}
  {ingress : Ingress} {hostname : GoString} {path : HTTPIngressPath}
  {backend : IngressServiceBackend}

theorem backendEndpoint_eq_ok {endpoint : AddrPort} :
    backendEndpoint ext api ingress hostname backend = .ok endpoint ↔
      ∃ service ip, api.getService ⟨ingress.namesp, backend.name⟩ = .ok service
        ∧ ext.parseAddr service.clusterIP = .ok ip
        ∧ endpoint = addrPortFrom ip (backendPort service.ports backend.port) := by
  constructor
  · intro h
    obtain ⟨service, hservice, h⟩ := bind_eq_ok.mp h
    obtain ⟨ip, hip, h⟩ := bind_eq_ok.mp h
    exact ⟨service, ip, errorf_eq_ok.mp hservice, errorf_eq_ok.mp hip, (Except.ok.inj h).symm⟩
  · rintro ⟨service, ip, hservice, hip, rfl⟩
    exact bind_eq_ok.mpr ⟨service, errorf_eq_ok.mpr hservice,
      bind_eq_ok.mpr ⟨ip, errorf_eq_ok.mpr hip, rfl⟩⟩

/-- The body limit is taken exactly if it is a size. -/
theorem getHttpProxyConfig_ok_iff {proxyConf : IngressProxyConf} :
    (∃ httpProxyConf, getHttpProxyConfig ext ingress proxyConf = .ok httpProxyConf)
      ↔ ∀ value, ingress.annotations.lookup (lit "s-ingress.oidq.dev/max-body") = some value →
          ∃ maxBodySize, parseByteSize ext value = .ok maxBodySize := by
  unfold getHttpProxyConfig
  cases ingress.annotations.lookup (lit "s-ingress.oidq.dev/max-body") with
  | none => exact ⟨fun _ value h => (by cases h), fun _ => ⟨_, rfl⟩⟩
  | some value =>
      constructor
      · rintro ⟨httpProxyConf, h⟩ _ heq
        cases heq
        obtain ⟨maxBodySize, hsize, _⟩ := bind_eq_ok.mp h
        exact ⟨maxBodySize, wrapErr_eq_ok.mp hsize⟩
      · intro h
        obtain ⟨maxBodySize, hsize⟩ := h value rfl
        exact ⟨_, bind_eq_ok.mpr ⟨maxBodySize, wrapErr_eq_ok.mpr hsize, rfl⟩⟩

/-- **`addPath` in one equation**: four steps that may fail, and what they add. -/
theorem addPath_eq_ok :
    addPath ext api conf ingressConf ingress hostname path backend = .ok ingressConf' ↔
      ∃ middlewares usedSecrets endpoint pathType httpProxyConf,
        getMiddlewares api ingress conf.modules ingressConf.usedSecrets
          = .ok (middlewares, usedSecrets)
        ∧ backendEndpoint ext api ingress hostname backend = .ok endpoint
        ∧ mapPathType ext path.pathType = .ok pathType
        ∧ getHttpProxyConfig ext ingress conf.ingressProxy = .ok httpProxyConf
        ∧ ingressConf' =
          { ingressConf with
            usedSecrets := usedSecrets
            usedServices := ingressConf.usedServices ++ [⟨ingress.namesp, backend.name⟩]
            hosts := ingressConf.hosts.insert hostname
              (((ingressConf.hosts.lookup hostname).getD ⟨[]⟩).addRoute
                { path := path.path
                  pathType := pathType
                  endpoint := endpoint
                  middlewares := middlewares
                  httpProxyConfig := httpProxyConf
                  ingressName := (objectMetaToNamespaced ingress).string }) } := by
  constructor
  · intro h
    obtain ⟨⟨middlewares, usedSecrets⟩, hm, h⟩ := bind_eq_ok.mp h
    obtain ⟨endpoint, he, h⟩ := bind_eq_ok.mp h
    obtain ⟨pathType, ht, h⟩ := bind_eq_ok.mp h
    obtain ⟨httpProxyConf, hp, h⟩ := bind_eq_ok.mp h
    exact ⟨_, _, _, _, _, hm, he, ht, hp, (Except.ok.inj h).symm⟩
  · rintro ⟨middlewares, usedSecrets, endpoint, pathType, httpProxyConf, hm, he, ht, hp, rfl⟩
    exact bind_eq_ok.mpr ⟨_, hm, bind_eq_ok.mpr ⟨_, he, bind_eq_ok.mpr ⟨_, ht,
      bind_eq_ok.mpr ⟨_, hp, rfl⟩⟩⟩⟩

end

/-- The body of the inner loop of `reconcileIngress`; a path without a Service is
skipped. -/
def addPathItem (api : Api) (conf : ControllerConf) (ingress : Ingress) (hostname : GoString)
    (ingressConf : IngressConfiguration) (path : HTTPIngressPath) :
    Except Fail IngressConfiguration :=
  match path.service with
  | none => .ok ingressConf
  | some backend => addPath ext api conf ingressConf ingress hostname path backend

/-- The body of the outer loop of `reconcileIngress`; a rule without an HTTP section is
a nil dereference. -/
def addRule (api : Api) (conf : ControllerConf) (ingress : Ingress)
    (ingressConf : IngressConfiguration) (rule : IngressRule) :
    Except Fail IngressConfiguration :=
  match rule.http with
  | none => .error (.panic nilDereference)
  | some paths => paths.foldlM (addPathItem ext api conf ingress rule.host) ingressConf

/-! ## §3. Certificates. -/

/-- `getCertificateFromSecret`. -/
def getCertificateFromSecret (api : Api) (secretName : NamespacedName) :
    Except Fail Certificate := do
  let tlsSecret ← errorf (lit "failed to load TLS secret " ++ secretName.string ++ lit ": ")
    (api.getSecret secretName)
  -- a missing key reads as nil, which `X509KeyPair` refuses
  let crt := (tlsSecret.data.lookup (lit "tls.crt")).getD []
  let key := (tlsSecret.data.lookup (lit "tls.key")).getD []
  checkf (lit "failed to load TLS certificate: ") (ext.x509KeyPair crt key)
  pure ⟨crt, key⟩

/-- A host that already has a certificate keeps it. -/
def bindCertificate (cert : Certificate) (certs : GoMap GoString Certificate)
    (host : GoString) : GoMap GoString Certificate :=
  match certs.lookup host with
  | some _ => certs
  | none => certs.insert host cert

/-- The body of the loop of `processIngressTls`; a section without a secret is skipped. -/
def addTlsItem (api : Api) (ingress : Ingress) (ingressConf : IngressConfiguration)
    (tlsItem : IngressTLS) : Except Fail IngressConfiguration :=
  if tlsItem.secretName.isEmpty then .ok ingressConf
  else do
    let cert ← wrapErr
      (lit "error getting tls secret " ++ ingress.namesp ++ lit "/" ++ tlsItem.secretName ++
        lit ": ")
      (getCertificateFromSecret ext api ⟨ingress.namesp, tlsItem.secretName⟩)
    pure { ingressConf with
      usedSecrets := ingressConf.usedSecrets ++ [⟨ingress.namesp, tlsItem.secretName⟩]
      tlsCertificates := tlsItem.hosts.foldl (bindCertificate cert)
        ingressConf.tlsCertificates }

/-- `processIngressTls`. -/
def processIngressTls (api : Api) (ingress : Ingress) (ingressConf : IngressConfiguration) :
    Except Fail IngressConfiguration :=
  ingress.tls.foldlM (addTlsItem ext api ingress) ingressConf

/-! ## §4. One ingress. -/

/-- The empty configuration `reconcileIngress` starts with. -/
def IngressConfiguration.empty : IngressConfiguration := ⟨[], [], [], ∅, ∅⟩

/-- `reconcileIngress` under a loaded configuration. -/
def reconcileIngress (api : Api) (conf : ControllerConf) (ingress : Ingress) :
    Except Fail IngressConfiguration := do
  -- `ensureActiveIngressStatus` runs between the two loops and changes neither
  let ingressConf ← ingress.rules.foldlM (addRule ext api conf ingress) .empty
  wrapErr (lit "error processing ingress tls: ")
    (processIngressTls ext api ingress ingressConf)

end

/-! ## §5. All ingresses. -/

/-- `getConnectionModules`. -/
def getConnectionModules : List ModuleInstance → Except Fail (List Middleware)
  | [] => .ok []
  | module :: rest => do
      let m ← errorf (lit "initialize middleware " ++ module.typeName ++ lit ": ")
        module.requestMiddleware
      let middlewares ← getConnectionModules rest
      pure (m.toList ++ middlewares)

/-- One pass of the outer loop of `getProxyConfig`: the entry, and the orders in
which its hosts and certificates are visited. -/
structure EntryVisit where
  name : NamespacedName
  entry : IngressEntry
  hosts : List (GoString × HostConfig)
  tls : List (GoString × Certificate)
  hosts_order : ∀ cfg, entry.configuration = some cfg → GoMap.Ranges cfg.hosts hosts
  tls_order : ∀ cfg, entry.configuration = some cfg → GoMap.Ranges cfg.tlsCertificates tls

/-- `vs` is an order in which the outer loop may visit the entries. -/
def Visits (ingresses : GoMap NamespacedName IngressEntry) (vs : List EntryVisit) : Prop :=
  GoMap.Ranges ingresses (vs.map fun v => (v.name, v.entry))

/-- The innermost statement of `getProxyConfig`. -/
def publishRoute (hostname : GoString) (hosts : GoMap GoString HostConfig)
    (route : RouteConfig) : GoMap GoString HostConfig :=
  hosts.insert hostname (((hosts.lookup hostname).getD ⟨[]⟩).addRoute route)

def publishHost (hosts : GoMap GoString HostConfig) (host : GoString × HostConfig) :
    GoMap GoString HostConfig :=
  host.2.routes.foldl (publishRoute host.1) hosts

/-- The certificate of a host is the first one met. -/
def publishTls (certs : GoMap GoString Certificate) (tls : GoString × Certificate) :
    GoMap GoString Certificate :=
  bindCertificate tls.2 certs tls.1

/-- The body of the outer loop of `getProxyConfig`. -/
def publishEntry (proxyConfig : RoutingConfig) (v : EntryVisit) : RoutingConfig :=
  match v.entry.configuration with
  -- known to the controller, but not configured
  | none => proxyConfig
  | some _ =>
      { proxyConfig with
        hosts := v.hosts.foldl publishHost proxyConfig.hosts
        tlsCertificates := v.tls.foldl publishTls proxyConfig.tlsCertificates }

/-- `getProxyConfig`, visiting the entries as `vs` says. -/
def getProxyConfig (state : K8sState) (vs : List EntryVisit) : Except Fail RoutingConfig :=
  match state.config with
  -- `state.config` is nil until the first update of `Init`
  | none => .error (.panic nilDereference)
  | some conf => do
      let requestMiddlewares ← getConnectionModules conf.modules
      pure (vs.foldl publishEntry
        { hosts := ∅
          tlsCertificates := ∅
          defaultTlsCertificate := state.defaultTlsSecret
          tcpProxy := state.tcpProxies
          requestMiddlewares := requestMiddlewares
          trustedProxies := conf.generalProxy.trustedProxies
          errorPage := some conf.generalProxy.errorPage })

end SIngress.Controller
