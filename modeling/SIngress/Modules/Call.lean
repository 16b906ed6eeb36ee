/-
  SIngress.Modules.Call — CALLING A MIDDLEWARE.

  `Middleware.call` gives every closure its behaviour; `Middleware.Passes` is
  the condition it stands for, in terms of the request, the client's address
  and the answers of the outside.  Every closure but the websocket one is a
  gate for its condition (`call_gate`).
-/
import SIngress.Modules.Auth
import SIngress.Modules.Headers
import SIngress.Modules.OidcSession
import SIngress.Modules.Security

namespace SIngress.Proxy

open SIngress.Base SIngress.Lib SIngress.K8s SIngress.Platform SIngress.Modules

section

variable (ext : Ext) (out : Outcomes)

/-- A `proxy.MiddlewareFunc` called with the rest of the chain. -/
def Middleware.call : Middleware → NextFunc → Serve Unit
  | .enforceHttpsRequest => Security.enforceHttpsRequest ext
  | .enforceHttpsIngress => Security.enforceHttpsIngress ext
  | .ipAuth allowlist => Auth.ipAuth ext out allowlist
  | .basicAuth realm auth => Auth.basicAuth ext out realm auth
  | .subrequestAuth conf authUrl => Auth.subrequestAuth ext out conf authUrl
  | .oidcRequest callbackDomains => Oidc.oidcRequest ext out callbackDomains
  | .oidcIngress client conf => Oidc.oidcIngress ext out client conf
  | .denyRoute denyRegexp => Security.denyRoute ext out denyRegexp
  | .websocket => Headers.websocket ext out
  | .customHeader headers => Headers.customHeader headers
  | .upstreamHeader headers => Headers.upstreamHeader headers

/-- **The check a middleware stands for**: TLS where https is enforced, an allowed
address, matching credentials, a 2xx answer of the authorization server, a valid
session with access, a path that is not denied.  The other closures check nothing. -/
def Middleware.Passes (m : Middleware) (r : Request) (realIp : Addr) : Prop :=
  match m with
  | .enforceHttpsRequest => r.tls = true
  | .enforceHttpsIngress => r.tls = true
  | .ipAuth allowlist => ∃ ipNet ∈ allowlist, ipNet.contains realIp = true
  | .basicAuth _ auth => Auth.CredentialsMatch ext auth r
  | .subrequestAuth _ authUrl => Auth.SubrequestAllows ext out authUrl r
  | .oidcRequest _ => True
  | .oidcIngress client conf => Oidc.SessionGrants ext out client conf r
  | .denyRoute denyRegexp => ¬ ext.regexpMatch denyRegexp r.url.path = true
  | .websocket => True
  | .customHeader _ => True
  | .upstreamHeader _ => True

/-- The closure passes the request on: its check holds, and it neither answers a callback nor
takes the connection over. -/
def Middleware.Continues (m : Middleware) (r : Request) (realIp : Addr) : Prop :=
  match m with
  | .oidcRequest callbackDomains => ¬ Oidc.IsCallback callbackDomains r
  | .websocket => ¬ ext.isWebSocketUpgrade r.header = true
  | m => m.Passes ext out r realIp

/-- A closure that passes on the upstream request as it is, or answers. -/
def Middleware.Answering : Middleware → Prop
  | .websocket => False
  | .upstreamHeader _ => False
  | _ => True

/-- **What every closure does**, except the websocket one and the one that sets headers on
the upstream request. -/
theorem call_screens {m : Middleware} (hm : m.Answering) :
    Screens (m.call ext out) (m.Continues ext out) := by
  cases m with
  | enforceHttpsRequest => exact Security.enforceHttpsRequest_screens ext
  | enforceHttpsIngress => exact Security.enforceHttpsIngress_screens ext
  | ipAuth allowlist => exact Auth.ipAuth_screens ext out allowlist
  | basicAuth realm auth => exact Auth.basicAuth_screens ext out realm auth
  | subrequestAuth conf authUrl => exact Auth.subrequestAuth_screens ext out conf authUrl
  | oidcRequest callbackDomains => exact Oidc.oidcRequest_screens ext out callbackDomains
  | oidcIngress client conf => exact Oidc.oidcIngress_screens ext out client conf
  | denyRoute denyRegexp => exact Security.denyRoute_screens ext out denyRegexp
  | websocket => exact hm.elim
  | customHeader headers => exact Headers.customHeader_screens headers
  | upstreamHeader headers => exact hm.elim

/-- A closure that neither answers callbacks nor takes over the connection. -/
def Middleware.Filters : Middleware → Prop
  | .oidcRequest _ => False
  | .websocket => False
  | _ => True

/-- The gate of a closure: its check, and for `upstreamHeader` a request to set
headers on. -/
def Middleware.gate (m : Middleware) (v : Request × Addr × Option RouteConfig × Bool) : Prop :=
  match m with
  | .upstreamHeader headers => v.2.2.2 = true ∨ Headers.headerLines headers = []
  | m => m.Passes ext out v.1 v.2.1

theorem gate_iff_passes (m : Middleware) {v : Request × Addr × Option RouteConfig × Bool}
    (hv : v.2.2.2 = true) : m.gate ext out v ↔ m.Passes ext out v.1 v.2.1 := by
  cases m with
  | upstreamHeader headers => exact ⟨fun _ => trivial, fun _ => Or.inl hv⟩
  | _ => exact Iff.rfl

/-- **Every filtering closure is a gate.** -/
theorem call_gate {m : Middleware} (hm : m.Filters) :
    Gate RequestContext.view RequestContext.upstreamContacts (m.call ext out)
      (m.gate ext out) := by
  have hchecks : m.Answering → Checks (m.call ext out) (m.Continues ext out) :=
    fun h => (call_screens ext out h).checks
  cases m with
  | oidcRequest callbackDomains => exact hm.elim
  | websocket => exact hm.elim
  | upstreamHeader headers => exact Headers.upstreamHeader_gate headers
  | _ => exact hchecks trivial

end

end SIngress.Proxy
