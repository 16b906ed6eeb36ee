/-
  SIngress.Platform.Outcomes — WHAT THE OUTSIDE ANSWERS DURING ONE REQUEST.

  Serving a request dials upstreams, asks an authorization server, talks to an
  OIDC provider, reads the clock and draws random numbers.  `Outcomes` fixes
  the answers for one request; a result about the proxy that quantifies over
  `Outcomes` holds whatever the outside does.  Instants are UNIX times: whole
  seconds in tokens, nanoseconds on the clock.
-/
import SIngress.Base.Fail
import SIngress.Proxy.Middleware

namespace SIngress.Platform

open SIngress.Base SIngress.Lib SIngress.Proxy

/-! ## §1. Data exchanged with the outside. -/

/-- `oidc.authInfo`, the session kept in the cookie. -/
structure AuthInfo where
  subject : GoString
  email : GoString
  groups : List GoString
  clientName : GoString
  authenticatedAt : Int
  tokenExpiry : Int
  accessToken : GoString
  refreshToken : GoString
  deriving DecidableEq

/-- `oauth2.Token`; `idToken` is the extra field `id_token`. -/
structure Token where
  accessToken : GoString
  refreshToken : GoString
  expiry : Int
  idToken : Option GoString
  deriving DecidableEq

/-- `oidc.claims`. -/
structure Claims where
  email : GoString
  groups : List GoString
  deriving DecidableEq

/-- A verified `oidc.IDToken`, with what decoding its claims gives. -/
structure IDToken where
  subject : GoString
  nonce : GoString
  claims : Except GoError Claims

/-- The request `proxyRoute` prepares; `bodyLimit` is the limit of its body reader. -/
structure UpstreamRequest where
  method : GoString
  url : URL
  header : Header
  contentLength : Int
  bodyLimit : Int
  deriving DecidableEq

/-- How `io.Copy` of a response body ends. -/
inductive CopyResult where
  | done
  | brokenPipe
  | connReset
  | failed (err : GoError)
  deriving DecidableEq

/-- An upstream's response; `copied` is what reaches the client of its body. -/
structure Response where
  statusCode : Int
  header : Header
  copied : GoString
  copyResult : CopyResult
  deriving DecidableEq

/-- `conn.RoundTrip`. -/
inductive RoundTrip where
  /-- Reading the request body ran into the limit. -/
  | maxBytesError
  | failed (err : GoError)
  | response (resp : Response)
  deriving DecidableEq

/-- `websocket.Dialer.DialContext`. -/
inductive WsDial where
  | connected
  | badHandshake (err : GoError)
  | failed (err : GoError)
  deriving DecidableEq

/-- `websocket.Upgrader.Upgrade`; a refused upgrade writes a status itself. -/
inductive WsUpgrade where
  | upgraded
  | refused (status : Int) (err : GoError)
  | failed (err : GoError)
  deriving DecidableEq

/-- `proxy.ErrorPageData`. -/
structure ErrorPageData where
  status : Int
  statusText : GoString
  message : GoString
  url : URL
  host : GoString
  requestId : GoString
  realIp : Addr
  deriving DecidableEq

/-! ## §2. The answers. -/

/-- The answers of the outside during one request. -/
structure Outcomes where
  /-- `uuid.New().String()`. -/
  newUuid : GoString
  /-- `transport.RoundTrip` of the authorization subrequest: URL and header to
  status code. -/
  authRoundTrip : GoString → Header → Except GoError Int
  /-- `transport.NewClientConn`. -/
  newClientConn : AddrPort → Option GoError
  /-- `conn.RoundTrip`. -/
  roundTrip : UpstreamRequest → RoundTrip
  /-- `dialer.DialContext` of a websocket: endpoint, URL and header. -/
  wsDial : AddrPort → GoString → Header → WsDial
  /-- `upgrader.Upgrade`. -/
  wsUpgrade : Request → WsUpgrade
  /-- `oauth2.TokenSource.Token` for the tokens of a session. -/
  refreshToken : Oauth2Config → Token → Except GoError Token
  /-- `oauth2.Config.Exchange` of a code. -/
  exchange : Oauth2Config → GoString → Except GoError Token
  /-- `IDTokenVerifier.Verify`. -/
  verifyIdToken : GoString × GoString → GoString → Except GoError IDToken
  /-- `Encrypt` of the marshalled session under a key. -/
  encrypt : GoString → AuthInfo → Except GoError GoString
  /-- `CompactSerialize`. -/
  serialize : GoString → Except GoError GoString
  /-- The clock in `handleRenewingAuthInfo`. -/
  nowRenew : Int
  /-- The clock in `validateInfo`. -/
  nowValidate : Int
  /-- The clock in `handleOidcCallback`. -/
  nowCallback : Int
  /-- The two random strings of `startLogin`. -/
  randState : Except GoError GoString
  randNonce : Except GoError GoString
  /-- `ErrorPage.Execute`: what it writes, and its error. -/
  executeErrorPage : GoString → ErrorPageData → GoString × Option GoError
  /-- `W.Write` outside of a template. -/
  write : GoString → Option GoError
  /-- Iteration orders of header maps. -/
  headerOrder : GoMap.RangeChoice GoString (List GoString)

/-- An outside where every upstream answers 200 and no authorization succeeds. -/
def Outcomes.small (headerOrder : GoMap.RangeChoice GoString (List GoString)) : Outcomes where
  newUuid := lit "uuid"
  authRoundTrip _ _ := .ok 401
  newClientConn _ := none
  roundTrip _ := .response ⟨200, ∅, [], .done⟩
  wsDial _ _ _ := .connected
  wsUpgrade _ := .upgraded
  refreshToken _ _ := .error (lit "no refresh")
  exchange _ _ := .error (lit "no exchange")
  verifyIdToken _ _ := .error (lit "not verified")
  encrypt _ _ := .error (lit "not encrypted")
  serialize s := .ok s
  nowRenew := 0
  nowValidate := 0
  nowCallback := 0
  randState := .ok []
  randNonce := .ok []
  executeErrorPage page _ := (page, none)
  write _ := none
  headerOrder := headerOrder

end SIngress.Platform
