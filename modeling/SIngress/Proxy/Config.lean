/-
  SIngress.Proxy.Config — THE ROUTING CONFIGURATION (`pkg/proxy/config.go`).

  The types the controller fills and the proxy reads, and the operations on
  them: `addRoute` keeps the routes of a host in lookup order, `matchesPath`
  and `lookupRoute` choose a route, `lookupHost` chooses a host.  A slice
  expression out of range and the `invalid path type` branch are panics of
  the model, as they are of the code.
-/
import SIngress.Base.Fail
import SIngress.Proxy.Middleware

namespace SIngress.Proxy

open SIngress.Base SIngress.Lib

/-! ## §1. The types. -/

/-- `proxy.PathType`, an `int` with two named values. -/
inductive PathType where
  | pathTypeExact
  | pathTypePrefix
  /-- Any other value of the `int`. -/
  | other (value : Int)
  deriving DecidableEq

/-- `proxy.HttpProxyConfig`. -/
structure HttpProxyConfig where
  maxBodySize : Int
  deriving DecidableEq

/-- `proxy.RouteConfig`. -/
structure RouteConfig where
  path : GoString
  pathType : PathType
  endpoint : AddrPort
  middlewares : List Middleware
  httpProxyConfig : HttpProxyConfig
  ingressName : GoString
  deriving DecidableEq

/-- `proxy.HostConfig`. -/
structure HostConfig where
  routes : List RouteConfig
  deriving DecidableEq

/-- `proxy.TcpProxyConfig`. -/
structure TcpProxyConfig where
  useProxyProtocol : Bool
  port : BitVec 16
  endpointAddr : AddrPort
  deriving DecidableEq

/-- `tls.Certificate`, by the key pair it was parsed from. -/
structure Certificate where
  crt : GoString
  key : GoString
  deriving DecidableEq

/-- `proxy.RoutingConfig`; `errorPage` is the template's text. -/
structure RoutingConfig where
  hosts : GoMap GoString HostConfig
  tlsCertificates : GoMap GoString Certificate
  defaultTlsCertificate : Option Certificate
  tcpProxy : List TcpProxyConfig
  requestMiddlewares : List Middleware
  trustedProxies : List Prefix
  errorPage : Option GoString
  deriving DecidableEq

/-! ## §2. Hosts. -/

/-- `normalizeHost`. -/
def normalizeHost (host : GoString) : Except Fail GoString :=
  let parts := split host byteDot
  if parts.length < 2 then .ok host
  else if parts.any (fun part => part.length < 1) then
    .error (.err (lit "invalid host: " ++ host))
  else if parts.head? = some [byteAsterisk] then .ok (host.drop 1)
  else .ok host

/-- `RoutingConfig.AddHost`. -/
def RoutingConfig.addHost (rc : RoutingConfig) (host : GoString) (config : HostConfig) :
    Except Fail RoutingConfig := do
  let normalizedHost ← normalizeHost host
  pure { rc with hosts := rc.hosts.insert normalizedHost config }

/-- `RoutingConfig.LookupHost`: exact, then wildcard, then default. -/
def RoutingConfig.lookupHost (rc : RoutingConfig) (rawHost : GoString) : Option HostConfig :=
  match rc.hosts.lookup rawHost with
  | some host => some host
  | none =>
      -- `rawHost[firstDotIndex:]`, or nothing without a dot
      match rawHost.dropWhile (· != byteDot) with
      | [] => rc.hosts.lookup []
      | cutHost =>
          match rc.hosts.lookup cutHost with
          | some host => some host
          | none => rc.hosts.lookup []

/-! ## §3. Routes. -/

/-- The loop of `AddRoute` for a route that is not exact: past the exact routes
and past the longer ones, or at the end. -/
def insertPrefixRoute (route : RouteConfig) : List RouteConfig → List RouteConfig
  | [] => [route]
  | r :: rest =>
      if r.pathType = .pathTypeExact then r :: insertPrefixRoute route rest
      else if r.path.length > route.path.length then r :: insertPrefixRoute route rest
      else route :: r :: rest

/-- `HostConfig.AddRoute`. -/
def HostConfig.addRoute (hc : HostConfig) (route : RouteConfig) : HostConfig :=
  if route.pathType = .pathTypeExact then ⟨route :: hc.routes⟩
  else ⟨insertPrefixRoute route hc.routes⟩

/-- `RouteConfig.MatchesPath`. -/
def RouteConfig.matchesPath (rc : RouteConfig) (rawPath : GoString) : Except Fail Bool :=
  match rc.pathType with
  | .pathTypeExact => .ok (rc.path == rawPath)
  | .pathTypePrefix =>
      if rc.path.isEmpty then
        .error (.panic (lit "runtime error: slice bounds out of range [:-1]"))
      else if rc.path.dropLast == rawPath then .ok true
      else .ok (startsWith rawPath rc.path)
  | .other _ => .error (.panic (lit "invalid path type"))

/-- The loop of `LookupRoute`. -/
def lookupIn (path : GoString) : List RouteConfig → Except Fail (Option RouteConfig)
  | [] => .ok none
  | route :: rest => do
      if ← route.matchesPath path then pure (some route) else lookupIn path rest

/-- `HostConfig.LookupRoute`. -/
def HostConfig.lookupRoute (hc : HostConfig) (path : GoString) :
    Except Fail (Option RouteConfig) :=
  lookupIn path hc.routes

end SIngress.Proxy
