/-
  SIngress.Proxy.Serve — SERVING A REQUEST (`pkg/proxy/serve.go`, `realip.go`).

  From the stored routing configuration to the response: the client's address,
  the request middlewares, the routing decision, the preparation of the
  upstream request, the middlewares of the route, the final `proxy`, and what is
  recorded about the request when it is over.
-/
import SIngress.Modules.Call
import SIngress.Proxy.Metrics

namespace SIngress.Proxy

open SIngress.Base SIngress.Lib SIngress.Platform

section

variable (ext : Ext) (out : Outcomes)

/-! ## §1. The end of the chain. -/

/-- The first loop of `setResponseHeaders`: the upstream's headers, except
`Keep-Alive`, replace the ones already set. -/
def copyHeaders (respHeader : Header) (order : List (GoString × List GoString)) (h : Header) :
    Header :=
  order.foldl
    (fun h entry =>
      if entry.1 = canonicalHeaderKey (lit "keep-alive") then h
      else (respHeader.values entry.1).foldl (fun h value => h.add entry.1 value)
        (h.del entry.1)) h

/-- The second loop of `setResponseHeaders`. -/
def overrideHeaders (responseHeader : Header) (order : List (GoString × List GoString))
    (h : Header) : Header :=
  order.foldl (fun h entry => h.set entry.1 (responseHeader.get entry.1)) h

/-- `setResponseHeaders`. -/
def setResponseHeaders (respHeader : Header) : Serve Unit := do
  let c ← get
  modifyHeader fun h =>
    let h := (h.set (lit "X-Request-Id") c.requestId).set (lit "Alt-Svc")
      (lit "h3=\":443\"; ma=2592000")
    let h := copyHeaders respHeader (out.headerOrder.order respHeader) h
    let h := overrideHeaders c.responseHeader (out.headerOrder.order c.responseHeader) h
    c.responseCookies.foldl
      (fun h cookie =>
        if (ext.cookieString cookie).isEmpty then h
        else h.add (lit "Set-Cookie") (ext.cookieString cookie)) h

/-- What `proxy` does with the answer of the round trip. -/
def finishProxy : RoundTrip → Serve Unit
  -- the one failure that gets no error page
  | .maxBytesError => writeHeader 413
  | .failed _ => handleErrorf ext out 502
  | .response resp => do
      setResponseHeaders ext out resp.header
      writeHeader resp.statusCode
      writeBytes resp.copied
      match resp.copyResult with
      | .done => pure ()
      -- the client went away: the status is out, and nothing is reported
      | .brokenPipe => pure ()
      | .connReset => pure ()
      | .failed err => throw (.err (lit "failed to copy response body: " ++ err))

/-- `proxy`: dial the endpoint of the matched route and pass the request on. -/
def proxy : Serve Unit := do
  let c ← get
  match c.upstreamRequest with
  | none => throw (.err (lit "no upstream request to proxy"))
  | some req =>
      match c.matchedRoute with
      -- `MatchedRoute.Endpoint` of a nil route
      | none => throw (.panic nilDereference)
      | some route => do
          -- `NewClientConn` dials, so this is where the upstream is contacted
          modify fun c =>
            { c with upstreamContacts := c.upstreamContacts ++ [.proxied route.endpoint req] }
          match out.newClientConn route.endpoint with
          | some _ => handleErrorf ext out 502
          | none => finishProxy ext out (out.roundTrip req)

/-! ## §2. The chain. -/

/-- `callMiddleware`. -/
def callMiddleware : List Middleware → NextFunc → Serve Unit
  | [], fallbackF => fallbackF
  | middleware :: rest, fallbackF => middleware.call ext out (callMiddleware rest fallbackF)

/-- `getUpstreamUrl`. -/
def getUpstreamUrl (r : Request) : URL := { r.url with host := r.host, scheme := lit "http" }

/-- The header of the upstream request; the protocol is always announced as https. -/
def upstreamHeaderOf (c : RequestContext) : Header :=
  (((c.r.header.set (lit "X-Request-Id") c.requestId).set (lit "X-Forwarded-For")
    (ext.addrPortString c.remoteIp)).set (lit "X-Forwarded-Host") c.r.host).set
    (lit "X-Forwarded-Proto") (lit "https")

/-- The context once the routing decision is made. -/
def prepareUpstream (endpoint : RouteConfig) (c : RequestContext) : RequestContext :=
  { c with
    upstreamRequest := some
      { method := c.r.method
        url := getUpstreamUrl c.r
        header := upstreamHeaderOf ext c
        contentLength := c.r.contentLength
        bodyLimit := endpoint.httpProxyConfig.maxBodySize }
    matchedRoute := some endpoint }

/-- `proxyRoute`. -/
def proxyRoute (endpoint : RouteConfig) : Serve Unit := do
  let c ← get
  match ext.newRequest c.r.method (ext.urlString (getUpstreamUrl c.r)) with
  | some _ => handleErrorf ext out 500
  | none => do
      -- from here on hooks find an upstream request; the request hooks ran without one
      modify (prepareUpstream ext endpoint)
      callMiddleware ext out endpoint.middlewares (proxy ext out)

/-- `handleHost`. -/
def handleHost (host : HostConfig) : Serve Unit := do
  let c ← get
  match host.lookupRoute c.r.url.path with
  | .error f => throw f
  | .ok (some route) => proxyRoute ext out route
  | .ok none => notFound ext out (lit "route not found")

/-- `handleHttp`. -/
def handleHttp : Serve Unit := do
  let c ← get
  match ext.idnaToASCII c.r.host with
  | .error _ => badRequest ext out (lit "invalid hostname")
  | .ok escapedHost =>
      match c.routingConfig.lookupHost escapedHost with
      | some host => handleHost ext out host
      | none => notFound ext out (lit "host not found")

/-! ## §3. The whole request. -/

/-- `getRequestId`. -/
def getRequestId (r : Request) : GoString :=
  let headersReqId := r.header.get (lit "X-Request-Id")
  if headersReqId.isEmpty then out.newUuid else headersReqId

/-- `fillRealIp`: a forwarded address counts only behind a trusted proxy, and only
when it parses. -/
def realIpOf (routingConfig : RoutingConfig) (remoteIp : AddrPort) (r : Request) : Addr :=
  let isTrusted := routingConfig.trustedProxies.any fun ip => ip.contains remoteIp.addr
  let forwardedHeaderContent := r.header.get (lit "X-Forwarded-For")
  if forwardedHeaderContent.isEmpty then remoteIp.addr
  else if !isTrusted then remoteIp.addr
  else
    -- the first address of the list, whoever appended the others
    match ext.parseAddr (trimSpace ((split forwardedHeaderContent byteComma).headD [])) with
    | .error _ => remoteIp.addr
    | .ok clientIp => clientIp

/-- The context `ServeHTTP` starts with. -/
def newContext (routingConfig : RoutingConfig) (remoteIp : AddrPort) (r : Request) :
    RequestContext where
  r := r
  w := ⟨∅, [], 0⟩
  requestId := getRequestId out r
  remoteIp := remoteIp
  realIp := realIpOf ext routingConfig remoteIp r
  matchedRoute := none
  upstreamRequest := none
  routingConfig := routingConfig
  responseHeader := ∅
  responseCookies := []
  upstreamContacts := []

/-- An error of the chain becomes a 500 unless a status was written; a panic is
the server's to handle. -/
def recoverError (m : Serve Unit) : Serve Unit := fun c =>
  match m c with
  | (.error (.err _), c') =>
      if c'.w.writtenStatusCode = 0 then
        -- a failing error page is logged only
        match handleErrorf ext out 500 c' with
        | (.error (.err _), c'') => (.ok (), c'')
        | result => result
      else (.ok (), c')
  | result => result

/-- How `ServeHTTP` ends. -/
inductive Served where
  /-- No configuration is stored yet: 503. -/
  | unavailable
  /-- The request ran; the final context and how the chain ended. -/
  | finished (result : Except Fail Unit) (c : RequestContext)
  /-- The peer's address does not parse: a panic before anything else. -/
  | badRemoteAddr

/-- What `ServeHTTP` does with the context it made: the chain, the 500, the record.  A panic of
the chain or of the record ends it. -/
def serveAndRecord (metrics : Option Metrics) (routingConfig : RoutingConfig) : Serve Unit := do
  recoverError ext out
    (callMiddleware ext out routingConfig.requestMiddlewares (handleHttp ext out))
  recordRequest metrics

/-- `ServeHTTP` with the configuration that is stored when the request arrives. -/
def serveHTTP (metrics : Option Metrics) (stored : Option RoutingConfig) (r : Request) : Served :=
  match ext.parseAddrPort r.remoteAddr with
  -- `getRemoteIp` panics before the stored configuration is loaded
  | .error _ => .badRemoteAddr
  | .ok remoteIp =>
      match stored with
      | none => .unavailable
      | some routingConfig =>
          let (result, c) := serveAndRecord ext out metrics routingConfig
            (newContext ext out routingConfig remoteIp r)
          .finished result c

/-- How a request ends that is recorded after this. -/
def recordedEnd (metrics : Option Metrics) (res : Except Fail Unit × RequestContext) :
    Except Fail Unit :=
  match res.1 with
  | .ok _ => (recordRequest metrics res.2).1
  | .error e => .error e

theorem recordedEnd_ok_iff {metrics : Option Metrics} {c : RequestContext}
    (hstatus : 0 ≤ c.w.writtenStatusCode) :
    recordedEnd metrics (.ok (), c) = .ok ()
      ↔ ∀ m, metrics = some m → m.Accepts c.r.host c.matchedRoute := by
  cases metrics with
  | none => exact iff_of_true rfl fun m hm => by cases hm
  | some m =>
      refine (recordRequest_ok_iff hstatus).trans ⟨?_, fun hm => hm m rfl⟩
      intro hm m' heq
      cases heq
      exact hm

/-- The context is as the chain and the 500 left it; the record decides about the end. -/
theorem serveHTTP_some {metrics : Option Metrics} {routingConfig : RoutingConfig}
    {remoteIp : AddrPort} {r : Request} (hpeer : ext.parseAddrPort r.remoteAddr = .ok remoteIp) :
    serveHTTP ext out metrics (some routingConfig) r
      = .finished (recordedEnd metrics (recoverError ext out (callMiddleware ext out
            routingConfig.requestMiddlewares (handleHttp ext out))
          (newContext ext out routingConfig remoteIp r)))
        (recoverError ext out (callMiddleware ext out routingConfig.requestMiddlewares
          (handleHttp ext out)) (newContext ext out routingConfig remoteIp r)).2 := by
  unfold serveHTTP
  rw [hpeer]
  dsimp only [serveAndRecord]
  rw [bind_run]
  generalize recoverError ext out _ _ = res
  rcases res with ⟨e | u, c⟩
  · rfl
  · show Served.finished _ (recordRequest metrics c).2 = _
    rw [recordRequest_context]
    rfl

/-! ## §4. Where upstreams are reached. -/

/-- `callMiddleware` is the chain of its middlewares. -/
theorem callMiddleware_eq_chain (ms : List Middleware) (f : NextFunc) :
    callMiddleware ext out ms f = chain (ms.map (Middleware.call ext out)) f := by
  induction ms with
  | nil => rfl
  | cons m ms ih =>
      show m.call ext out (callMiddleware ext out ms f) = _
      rw [ih]
      rfl

theorem callMiddleware_append (as bs : List Middleware) (f : NextFunc) :
    callMiddleware ext out (as ++ bs) f
      = chain (as.map (Middleware.call ext out)) (callMiddleware ext out bs f) := by
  rw [callMiddleware_eq_chain, callMiddleware_eq_chain, List.map_append, chain_append]

theorem setResponseHeaders_responds (respHeader : Header) :
    Responds (setResponseHeaders ext out respHeader) :=
  Keeps.bind keeps_get fun _ => modifyHeader_responds _

theorem finishProxy_responds (answer : RoundTrip) : Responds (finishProxy ext out answer) := by
  cases answer with
  | maxBytesError => exact writeHeader_responds _
  | failed err => exact handleErrorPage_responds ext out _ _
  | response resp =>
      refine Keeps.bind (setResponseHeaders_responds ext out _) fun _ =>
        Keeps.bind (writeHeader_responds _) fun _ => Keeps.bind (writeBytes_responds _) fun _ => ?_
      cases resp.copyResult with
      | failed err => exact keeps_throw _
      | _ => exact keeps_pure _

/-- **`proxy` reaches the upstream exactly once**, whatever the dial and the round
trip answer. -/
theorem proxy_contacts {c : RequestContext} {req : UpstreamRequest} {route : RouteConfig}
    (hreq : c.upstreamRequest = some req) (hroute : c.matchedRoute = some route) :
    (proxy ext out c).2.upstreamContacts
      = c.upstreamContacts ++ [.proxied route.endpoint req] := by
  simp only [proxy, get_bind_run, hreq, hroute, modify_bind_run]
  cases out.newClientConn route.endpoint with
  | some err => exact (handleErrorPage_responds ext out 502 []).contacts _
  | none => exact (finishProxy_responds ext out (out.roundTrip req)).contacts _

end

end SIngress.Proxy
