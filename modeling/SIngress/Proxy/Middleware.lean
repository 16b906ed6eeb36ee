/-
  SIngress.Proxy.Middleware — MIDDLEWARES AS DATA.

  A `proxy.MiddlewareFunc` is a closure that a module returns.  The model keeps
  the closure as the module that made it together with the values it captured,
  so that configurations can be compared and `RouteConfig` is a first-order
  type; `Modules.Call` gives each constructor its behaviour.
-/
import SIngress.Base.Http
import SIngress.Base.Netip

namespace SIngress.Proxy

open SIngress.Base SIngress.Lib

/-! ## §1. What the closures capture. -/

/-- `auth.ForwardAuthConfig`. -/
structure ForwardAuthConfig where
  authUrl : GoString
  signInUrl : GoString
  deriving DecidableEq

/-- `oidc.ingressConfig`; an absent annotation leaves a nil slice. -/
structure OidcIngressConfig where
  allowedGroups : Option (List GoString)
  allowedEmails : Option (List GoString)
  deriving DecidableEq

/-- `oauth2.Config`. -/
structure Oauth2Config where
  clientId : GoString
  clientSecret : GoString
  endpoint : GoString
  redirectUrl : GoString
  scopes : List GoString
  deriving DecidableEq

/-- `oidc.clientConfig`; the verifier is determined by the provider and the
client id, the encrypter by the key.  `expiration` is in nanoseconds. -/
structure ClientConfig where
  name : GoString
  idTokenVerifier : GoString × GoString
  oauth2Config : Oauth2Config
  callbackDomain : GoString
  cookieDomain : GoString
  expiration : Int
  encryptionKey : GoString
  deriving DecidableEq

/-! ## §2. The closures. -/

/-- A `proxy.MiddlewareFunc`, by the module and hook that returned it. -/
inductive Middleware where
  /-- `enforceHttpsModule.RequestMiddleware`. -/
  | enforceHttpsRequest
  /-- `enforceHttpsModule.IngressMiddleware`. -/
  | enforceHttpsIngress
  /-- `ipAuthModule.IngressMiddleware`. -/
  | ipAuth (allowlist : List Prefix)
  /-- `basicAuthModule.IngressMiddleware`; `auth` is the accepted htpasswd text. -/
  | basicAuth (realm auth : GoString)
  /-- `subrequestAuthModule.IngressMiddleware`; `authUrl` is the parsed URL. -/
  | subrequestAuth (conf : ForwardAuthConfig) (authUrl : GoString)
  /-- `oidc.module.RequestMiddleware`. -/
  | oidcRequest (callbackDomains : GoMap GoString ClientConfig)
  /-- `oidc.module.IngressMiddleware`. -/
  | oidcIngress (client : ClientConfig) (ingressOidcConfig : OidcIngressConfig)
  /-- `denyRouteModule.IngressMiddleware`; `denyRegexp` is the compiled pattern. -/
  | denyRoute (denyRegexp : GoString)
  /-- `websocketModule.IngressMiddleware`. -/
  | websocket
  /-- `customHeaderModule.IngressMiddleware`. -/
  | customHeader (headers : List GoString)
  /-- `upstreamHeaderModule.IngressMiddleware`. -/
  | upstreamHeader (headers : List GoString)
  deriving DecidableEq

end SIngress.Proxy
