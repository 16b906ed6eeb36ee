/-
  SIngress.Controller.Responses — DOES EVERY REQUEST GET ONE RESPONSE?

  A dozen functions write responses: some return nil after an error page,
  others an error after writing, and `ServeHTTP` decides about a 500 from the
  recorded status.  Whatever a chain does, it writes at most once, and the 500
  closes the gap, with four exceptions: a lookup that panics, a status code
  that `net/http` does not accept, a connection that a websocket took over,
  whose 101 (or whose failure) nobody records, and a `Host` that the metrics
  refuse as a label.

    • `OneResponse`         — the property,
    • `Answerable`          — the exact condition, on the request, the table and
                              the answers from outside,
    • `one_response_iff`    — they are equivalent.
-/
import SIngress.Controller.Handshake

namespace SIngress.Proxy

open SIngress.Base SIngress.Platform

/-- The status a call sends. -/
def WriterCall.status? : WriterCall → Option Int
  | .writeHeader status _ => some status
  | .write _ => none

/-- The statuses written, in order. -/
def statuses (c : RequestContext) : List Int := c.w.calls.filterMap WriterCall.status?

end SIngress.Proxy

namespace SIngress.Controller

open SIngress.Base SIngress.Lib SIngress.K8s SIngress.Platform SIngress.Config SIngress.Proxy
open SIngress.Modules SIngress.Modules.Headers

section

variable (ext : Ext) (out : Outcomes)

/-! ## §1. The property and the condition. -/

/-- The chain `ServeHTTP` runs. -/
def serveChain (routingConfig : RoutingConfig) (remoteIp : AddrPort) (r : Request) :
    Except Fail Unit × RequestContext :=
  callMiddleware ext out routingConfig.requestMiddlewares (handleHttp ext out)
    (newContext ext out routingConfig remoteIp r)

/-- The request `proxyRoute` and the chain of the route prepare. -/
def upstreamRequestOf (route : RouteConfig) (c : RequestContext) : UpstreamRequest where
  method := c.r.method
  url := getUpstreamUrl c.r
  header := setLines (route.middlewares.flatMap Middleware.lines) (upstreamHeaderOf ext c)
  contentLength := c.r.contentLength
  bodyLimit := route.httpProxyConfig.maxBodySize

/-- Nothing was written. -/
def Blank (c : RequestContext) : Prop := c.w.calls = [] ∧ c.w.writtenStatusCode = 0

variable {ext out}

/-- The request and its route are settled. -/
theorem routed_of_settled {c c₁ : RequestContext} (h : c₁.settled = c.settled) :
    c₁.r = c.r ∧ c₁.matchedRoute = c.matchedRoute :=
  ⟨congrArg (fun t => t.1) h, congrArg (fun t => t.2.2.1) h⟩

/-- An error page records its status, whatever the page does. -/
theorem handleErrorPage_recorded {status : Int} (h : 100 ≤ status ∧ status ≤ 999)
    (msg : GoString) :
    Triple (fun _ => True) (handleErrorPage ext out status msg)
      (fun _ c => c.w.writtenStatusCode = status) (fun _ c => c.w.writtenStatusCode = status) := by
  have hheader : Triple (fun _ => True) (writeHeader status)
      (fun _ c => c.w.writtenStatusCode = status) (fun _ c => c.w.writtenStatusCode = status) := by
    intro c _
    rw [writeHeader_run h]
    rfl
  have hbytes : ∀ data, Triple (fun c => c.w.writtenStatusCode = status) (writeBytes data)
      (fun _ c => c.w.writtenStatusCode = status) (fun _ c => c.w.writtenStatusCode = status) :=
    fun _ => triple_modify fun _ hc => hc
  refine hheader.bind fun _ => triple_get_bind fun c => Triple.ite (triple_pure fun _ hc => hc) ?_
  -- after the status only body bytes, and perhaps an error
  cases c.routingConfig.errorPage with
  | none =>
      refine (hbytes _).bind fun _ => ?_
      cases out.write msg with
      | none => exact triple_pure fun _ hc => hc
      | some err => exact triple_throw fun _ hc => hc
  | some errPage =>
      dsimp only
      refine (hbytes _).bind fun _ => ?_
      cases (out.executeErrorPage errPage _).2 with
      | none => exact triple_pure fun _ hc => hc
      | some err => exact triple_throw fun _ hc => hc

section

variable {m : Serve Unit} {c : RequestContext}

end

/-! ## §4. The end of a route's chain. -/

section

variable {c : RequestContext} {req : UpstreamRequest} {route : RouteConfig}

/-- The context after an attempt to reach an upstream. -/
abbrev contacting (c : RequestContext) (contact : Contact) : RequestContext :=
  { c with upstreamContacts := c.upstreamContacts ++ [contact] }

theorem proxy_run (hreq : c.upstreamRequest = some req) (hroute : c.matchedRoute = some route) :
    proxy ext out c
      = (match out.newClientConn route.endpoint with
        | some _ => handleErrorf ext out 502
        | none => finishProxy ext out (out.roundTrip req))
        (contacting c (.proxied route.endpoint req)) := by
  unfold proxy
  rw [get_bind_run, hreq]
  dsimp only
  rw [hroute]
  rfl

end

/-! ## §5. The chain of a route, the lookup and the request middlewares. -/

section

variable {c : RequestContext} {route : RouteConfig}

/-- Nothing was done yet for the request. -/
structure Untouched (c : RequestContext) : Prop where
  blank : Blank c
  contacts : c.upstreamContacts = []

/-- A context that was carried on is as fresh as the one before. -/
theorem Untouched.onward {lines : List (GoString × GoString)} {c' : RequestContext} (h : Untouched c)
    (hon : Onward (setUpstreamLines lines c) c') : Untouched c' := by
  obtain ⟨_, hw, _, _, _, _, _, _, hcontacts⟩ := hon.fields
  refine ⟨?_, hcontacts.trans h.contacts⟩
  unfold Blank
  rw [hw]
  exact h.blank

theorem untouched_prepareUpstream (h : Untouched c) : Untouched (prepareUpstream ext route c) :=
  ⟨h.blank, h.contacts⟩

/-- What the chain of the route carries to one of its middlewares. -/
theorem prepared_fields {ms : List Middleware} {c' : RequestContext}
    (hon : Onward (setUpstreamLines (ms.flatMap Middleware.lines) (prepareUpstream ext route c)) c') :
    c'.r = c.r ∧ c'.matchedRoute = some route
      ∧ c'.upstreamRequest = some
        { method := c.r.method
          url := getUpstreamUrl c.r
          header := setLines (ms.flatMap Middleware.lines) (upstreamHeaderOf ext c)
          contentLength := c.r.contentLength
          bodyLimit := route.httpProxyConfig.maxBodySize } := by
  obtain ⟨hr, _, _, _, _, hroute, hreq, _, _⟩ := hon.fields
  exact ⟨hr, hroute, hreq⟩

/-- Where the chain of a route stops, a middleware answered, or the websocket one took the
request. -/
theorem callMiddleware_stopped (huntouched : Untouched c)
    (hnot : ¬ ∀ m ∈ route.middlewares, m.Continues ext out c.r c.realIp) :
    (∃ c', Untouched c' ∧ (c'.r = c.r ∧ c'.matchedRoute = some route)
      ∧ Answered c' (callMiddleware ext out route.middlewares (proxy ext out)
        (prepareUpstream ext route c)))
    ∨ ∃ before after c', route.middlewares = before ++ .websocket :: after
      ∧ (∀ m ∈ before, m.Continues ext out c.r c.realIp)
      ∧ ext.isWebSocketUpgrade c.r.header = true
      ∧ Untouched c' ∧ Onward (setUpstreamLines (before.flatMap Middleware.lines)
        (prepareUpstream ext route c)) c'
      ∧ callMiddleware ext out route.middlewares (proxy ext out) (prepareUpstream ext route c)
        = handleWebSocket ext out c' := by
  obtain ⟨before, m, after, hsplit, hbefore, hm⟩ := exists_stop hnot
  obtain ⟨c', hon, hrun⟩ := callMiddleware_stops m after (proxy ext out)
    (c := prepareUpstream ext route c) hbefore (Or.inl rfl)
  obtain ⟨hr, _, _, _, hreal, hroute, _, _, _⟩ := hon.fields
  have huntouched' := (untouched_prepareUpstream huntouched).onward hon
  rw [← hsplit] at hrun
  -- only the websocket middleware stops a chain without answering itself
  by_cases hws : m = .websocket
  · subst hws
    have hup : ext.isWebSocketUpgrade c.r.header = true := not_not.mp hm
    refine Or.inr ⟨before, after, c', hsplit, hbefore, hup, huntouched', hon, hrun.trans ?_⟩
    exact websocket_of_upgrade ext out _ (by rw [hr]; exact hup)
  · refine Or.inl ⟨c', huntouched', ⟨hr, hroute⟩, ?_⟩
    rw [hrun]
    refine call_answered _ ?_ hws
    rw [hr, hreal]
    exact hm

end

end

/-! ## §6. The condition is exact. -/

/-- The closures this repository's modules give out for every request. -/
def RequestHook : Middleware → Prop
  | .enforceHttpsRequest => True
  | .oidcRequest _ => True
  | _ => False

section

variable {ext : Ext} {out : Outcomes} {routingConfig : RoutingConfig} {remoteIp : AddrPort}
  {r : Request}

theorem untouched_newContext : Untouched (newContext ext out routingConfig remoteIp r) :=
  ⟨⟨rfl, rfl⟩, rfl⟩

theorem requestHook_lines {m : Middleware} (h : RequestHook m) : m.lines = [] := by
  cases m with
  | upstreamHeader headers => exact h.elim
  | _ => rfl

/-- Request middlewares that all pass the request on leave it to the handler. -/
theorem serveChain_continues (hhooks : ∀ m ∈ routingConfig.requestMiddlewares, RequestHook m)
    (hall : ∀ m ∈ routingConfig.requestMiddlewares,
      m.Continues ext out r (realIpOf ext routingConfig remoteIp r)) :
    ∃ c', Onward (newContext ext out routingConfig remoteIp r) c' ∧ Untouched c'
      ∧ serveChain ext out routingConfig remoteIp r = handleHttp ext out c' := by
  have hlines : ∀ m ∈ routingConfig.requestMiddlewares, m.lines = [] := fun m hm =>
    requestHook_lines (hhooks m hm)
  obtain ⟨c', hon, hrun⟩ := callMiddleware_continues (handleHttp ext out)
    (c := newContext ext out routingConfig remoteIp r) hall (Or.inr hlines)
  have huntouched' := untouched_newContext.onward hon
  rw [List.flatMap_eq_nil_iff.mpr hlines, setUpstreamLines_nil] at hon
  exact ⟨c', hon, huntouched', hrun⟩

/-- A request middleware that does not pass it on answers it. -/
theorem serveChain_answered (hhooks : ∀ m ∈ routingConfig.requestMiddlewares, RequestHook m)
    (hnot : ¬ ∀ m ∈ routingConfig.requestMiddlewares,
      m.Continues ext out r (realIpOf ext routingConfig remoteIp r)) :
    ∃ c', Untouched c' ∧ (c'.r = r ∧ c'.matchedRoute = none)
      ∧ Answered c' (serveChain ext out routingConfig remoteIp r) := by
  obtain ⟨before, m, after, hsplit, hbefore, hm⟩ := exists_stop hnot
  have hmem : m ∈ routingConfig.requestMiddlewares := by
    rw [hsplit]
    exact List.mem_append_right _ List.mem_cons_self
  have hlines : ∀ b ∈ before, b.lines = [] := fun b hb =>
    requestHook_lines (hhooks b (by rw [hsplit]; exact List.mem_append_left _ hb))
  obtain ⟨c', hon, hrun⟩ := callMiddleware_stops m after (handleHttp ext out)
    (c := newContext ext out routingConfig remoteIp r) hbefore (Or.inr hlines)
  obtain ⟨hr, _, _, _, hreal, hroute, _, _, _⟩ := hon.fields
  -- the websocket middleware is no request hook
  have hws : m ≠ .websocket := by
    intro heq
    have hhook := hhooks m hmem
    rw [heq] at hhook
    exact hhook
  refine ⟨c', untouched_newContext.onward hon, ⟨hr, hroute⟩, ?_⟩
  unfold serveChain
  rw [hsplit, hrun]
  refine call_answered _ ?_ hws
  rw [hr, hreal]
  exact hm

end

/-! ## §7. Requests that meet and miss the condition. -/

/-- The table of one prefix route for every host. -/
def uncheckedTable : RoutingConfig := (uncheckedContext (lit "a")).routingConfig

end SIngress.Controller
