/-
  SIngress.Controller.Renewals — DOES A RENEWED SESSION REACH THE CLIENT?

  `renewAuthInfo` parks the new cookie in the request context.  Only the
  response of the upstream picks it up; `SetResponseCookie` says so: "only
  applicable when the request is actually proxied".

    • `renewed_cookie_sent`  — the upstream's response carries the cookie, in
                               whatever chain the renewal happened,
    • `renewed_cookie_lost`  — a later check answers without it.
-/
import SIngress.Controller.Responses
import SIngress.Modules.OidcLifetime
import SIngress.Proxy.Reach

namespace SIngress.Controller

open SIngress.Base SIngress.Lib SIngress.Platform SIngress.Config SIngress.Proxy
open SIngress.Modules SIngress.Modules.Headers SIngress.Modules.Oidc

/-! ## §1. Cookies in the response of the upstream. -/

section

variable {ext : Ext} {out : Outcomes}

/-- The cookies of a response, added one after the other. -/
theorem addCookies_values (cookies : List Cookie) (h : Header) :
    (cookies.foldl (fun h cookie =>
        if (ext.cookieString cookie).isEmpty then h
        else h.add (lit "Set-Cookie") (ext.cookieString cookie)) h).values (lit "Set-Cookie")
      = h.values (lit "Set-Cookie")
        ++ (cookies.map ext.cookieString).filter fun line => !line.isEmpty := by
  induction cookies generalizing h with
  | nil => simp
  | cons cookie cookies ih =>
      rw [List.foldl_cons, ih]
      cases hempty : (ext.cookieString cookie).isEmpty with
      | true => simp [hempty]
      | false =>
          rw [if_neg (by simp), Header.values_add, if_pos rfl]
          simp [hempty]

/-- The response of the upstream: its status and the header with every cookie, then its body. -/
theorem finishProxy_run {resp : Response} (h : 100 ≤ resp.statusCode ∧ resp.statusCode ≤ 999)
    (c : RequestContext) :
    ∃ header result, finishProxy ext out (.response resp) c
        = (result, { c with w := ⟨header,
            c.w.calls ++ [.writeHeader resp.statusCode header, .write resp.copied],
            resp.statusCode⟩ })
      ∧ (result = .ok () ∨ ∃ err, result = .error (.err err))
      ∧ ∀ cookie ∈ c.responseCookies, ext.cookieString cookie ≠ [] →
        ext.cookieString cookie ∈ header.values (lit "Set-Cookie") := by
  have hcookies : ∀ (h₀ : Header), ∀ cookie ∈ c.responseCookies, ext.cookieString cookie ≠ [] →
      ext.cookieString cookie ∈ (c.responseCookies.foldl (fun h cookie =>
        if (ext.cookieString cookie).isEmpty then h
        else h.add (lit "Set-Cookie") (ext.cookieString cookie)) h₀).values (lit "Set-Cookie") := by
    intro h₀ cookie hmem hne
    rw [addCookies_values]
    refine List.mem_append_right _ (List.mem_filter.mpr ⟨List.mem_map_of_mem hmem, ?_⟩)
    simpa using hne
  simp only [finishProxy, setResponseHeaders, modifyHeader, get_bind_run, modify_bind_run,
    bind_assoc, writeBytes]
  rw [bind_run, writeHeader_run h]
  cases resp.copyResult with
  | failed err => exact ⟨_, _, by simp; rfl, Or.inr ⟨_, rfl⟩, hcookies _⟩
  | _ => exact ⟨_, _, by simp; rfl, Or.inl rfl, hcookies _⟩

/-! ## §2. A renewal on the way to the upstream. -/

variable (ext out) in
/-- While the chain of the matched route runs, its OIDC middleware is reached with a session and
`renewAuthInfo` renews it: `cookie` is the cookie of the new session. -/
def RenewsSession (routingConfig : RoutingConfig) (remoteIp : AddrPort) (r : Request)
    (cookie : Cookie) : Prop :=
  ∃ route before client ingress after info,
    RoutedTo ext (newContext ext out routingConfig remoteIp r) route
    ∧ route.middlewares = before ++ .oidcIngress client ingress :: after
    ∧ (∀ m ∈ before, m.Continues ext out r (realIpOf ext routingConfig remoteIp r))
    ∧ extractAuthInfo ext client r = .ok info
    ∧ (renewed out client r info).2 = some cookie

variable (ext) in
/-- A cookie under a name that `Request.Cookie` finds has a valid name, so `Cookie.String` is
not empty. -/
def CookieNames : Prop :=
  ∀ header name value cookie, ext.cookie header name = some value → cookie.name = name →
    ext.cookieString cookie ≠ []

/-- The new cookie is parked in the context that reaches the end of the chain. -/
theorem callMiddleware_renewed {before after : List Middleware} {client : ClientConfig}
    {ingress : OidcIngressConfig} {info : AuthInfo} {cookie : Cookie} {c : RequestContext}
    (f : NextFunc)
    (hall : ∀ m ∈ before ++ .oidcIngress client ingress :: after,
      m.Continues ext out c.r c.realIp)
    (hreq : c.upstreamRequest.isSome = true) (hinfo : extractAuthInfo ext client c.r = .ok info)
    (hcookie : (renewed out client c.r info).2 = some cookie) :
    ∃ c', Onward (setUpstreamLines
        ((before ++ .oidcIngress client ingress :: after).flatMap Middleware.lines) c) c'
      ∧ cookie ∈ c'.responseCookies
      ∧ callMiddleware ext out (before ++ .oidcIngress client ingress :: after) f c = f c' := by
  obtain ⟨hbefore, hrest⟩ := List.forall_mem_append.mp hall
  obtain ⟨hgrants, hafter⟩ := List.forall_mem_cons.mp hrest
  obtain ⟨c₁, hon₁, hrun₁⟩ := callMiddleware_stops (.oidcIngress client ingress) after f hbefore
    (Or.inl hreq)
  obtain ⟨hr, _, _, _, hreal, _, hreq₁, _, _⟩ := hon₁.fields
  -- the session is the one of the request, and it grants access
  obtain ⟨info', hinfo', hvalid, haccess⟩ := hgrants
  rw [hinfo] at hinfo'
  cases hinfo'
  let c₂ : RequestContext := { c₁ with responseCookies := c₁.responseCookies ++ [cookie] }
  have hr₁ : c₁.r = c.r := hr
  rw [← hr₁] at hinfo hcookie hvalid haccess
  have hpass : oidcIngress ext out client ingress (callMiddleware ext out after f) c₁
      = callMiddleware ext out after f c₂ := by
    rw [oidcIngress_pass ext out hinfo hvalid haccess, hcookie]
    rfl
  have hsome : c₂.upstreamRequest.isSome = true := by
    show c₁.upstreamRequest.isSome = true
    rw [hreq₁]
    exact Option.isSome_map.trans hreq
  obtain ⟨c₃, hon₃, hrun₃⟩ := callMiddleware_continues f (c := c₂)
    (fun m hm => by
      show m.Continues ext out c₁.r c₁.realIp
      rw [hr, hreal]
      exact hafter m hm) (Or.inl hsome)
  have hon₂ : Onward (setUpstreamLines [] c₁) c₂ := by
    rw [setUpstreamLines_nil]
    exact ⟨rfl, List.prefix_append _ _⟩
  refine ⟨c₃, ?_, ?_, ?_⟩
  · rw [List.flatMap_append, List.flatMap_cons]
    exact hon₁.trans (hon₂.trans hon₃)
  · exact hon₃.cookies.subset (List.mem_append_right _ List.mem_cons_self)
  · exact hrun₁.trans (hpass.trans hrun₃)

/-- A response written by the proxy itself reaches no upstream. -/
theorem contacts_of_answered {c : RequestContext} {res : Except Fail Unit × RequestContext}
    (huntouched : Untouched c) (h : Answered c res) : res.2.upstreamContacts = [] :=
  h.contacts.trans huntouched.contacts

/-- A route whose request was proxied: every middleware passed it on. -/
theorem continues_of_proxied {c : RequestContext} {route : RouteConfig} {endpoint : AddrPort}
    {req : UpstreamRequest} (huntouched : Untouched c)
    (h : (proxyRoute ext out route c).2.upstreamContacts = [.proxied endpoint req]) :
    UpstreamRequestValid ext c.r
      ∧ ∀ m ∈ route.middlewares, m.Continues ext out c.r c.realIp := by
  have hvalid : UpstreamRequestValid ext c.r := by
    by_contra hnot
    rw [proxyRoute_of_invalid ext out hnot, huntouched.contacts] at h
    cases h
  refine ⟨hvalid, ?_⟩
  rw [proxyRoute_of_valid ext out hvalid] at h
  by_contra hnot
  rcases callMiddleware_stopped huntouched hnot with ⟨c', huntouched', _, hanswered⟩ |
    ⟨before, after, c', _, _, _, huntouched', hon, hrun⟩
  · rw [contacts_of_answered huntouched' hanswered] at h
    cases h
  · obtain ⟨_, hroute, hreq⟩ := prepared_fields hon
    rw [hrun, handleWebSocket_contacts ext out hreq hroute, huntouched'.contacts] at h
    cases h

/-- A request that was proxied passed the request hooks and the chain of its route. -/
theorem reaches_proxyRoute {routingConfig : RoutingConfig} {remoteIp : AddrPort} {r : Request}
    {route : RouteConfig} {endpoint : AddrPort} {req : UpstreamRequest}
    (hhooks : ∀ m ∈ routingConfig.requestMiddlewares, RequestHook m)
    (hrouted : RoutedTo ext (newContext ext out routingConfig remoteIp r) route)
    (hcontacts : (serveChain ext out routingConfig remoteIp r).2.upstreamContacts
      = [.proxied endpoint req]) :
    ∃ c', c'.r = r ∧ Untouched c' ∧ UpstreamRequestValid ext c'.r
      ∧ (∀ m ∈ route.middlewares, m.Continues ext out c'.r c'.realIp)
      ∧ serveChain ext out routingConfig remoteIp r = proxyRoute ext out route c' := by
  -- nobody answered before the handler
  have hall : ∀ m ∈ routingConfig.requestMiddlewares,
      m.Continues ext out r (realIpOf ext routingConfig remoteIp r) := by
    by_contra hnot
    obtain ⟨c', huntouched', _, hanswered⟩ := serveChain_answered hhooks hnot
    rw [contacts_of_answered huntouched' hanswered] at hcontacts
    cases hcontacts
  obtain ⟨c', hon, huntouched', hrun⟩ := serveChain_continues hhooks hall
  obtain ⟨hr, _, _, _, _, _, _, hconf, _⟩ := hon.fields
  have hr : c'.r = r := hr
  have hrouted' : RoutedTo ext c' route := by
    unfold RoutedTo at hrouted ⊢
    rw [hr, hconf]
    exact hrouted
  rw [handleHttp_of_routed ext out hrouted'] at hrun
  rw [hrun] at hcontacts
  obtain ⟨hvalid, hcontinues⟩ := continues_of_proxied huntouched' hcontacts
  exact ⟨c', hr, huntouched', hvalid, hcontinues, hrun⟩

/-- A route whose chain runs to its end and renews a session on the way: the proxy is called
with the cookie parked. -/
theorem proxyRoute_renewed {route : RouteConfig} {before after : List Middleware}
    {client : ClientConfig} {ingress : OidcIngressConfig} {info : AuthInfo} {cookie : Cookie}
    {c : RequestContext} (huntouched : Untouched c) (hvalid : UpstreamRequestValid ext c.r)
    (hcontinues : ∀ m ∈ route.middlewares, m.Continues ext out c.r c.realIp)
    (hsplit : route.middlewares = before ++ .oidcIngress client ingress :: after)
    (hinfo : extractAuthInfo ext client c.r = .ok info)
    (hcookie : (renewed out client c.r info).2 = some cookie) :
    ∃ c', Untouched c' ∧ cookie ∈ c'.responseCookies ∧ c'.matchedRoute = some route
      ∧ c'.upstreamRequest = some (upstreamRequestOf ext route c)
      ∧ proxyRoute ext out route c = proxy ext out c' := by
  rw [hsplit] at hcontinues
  obtain ⟨c', hon, hparked, hend⟩ := callMiddleware_renewed (c := prepareUpstream ext route c)
    (proxy ext out) hcontinues rfl hinfo hcookie
  rw [← hsplit] at hend hon
  obtain ⟨_, hroute, hreq⟩ := prepared_fields hon
  refine ⟨c', (untouched_prepareUpstream huntouched).onward hon, hparked, hroute, hreq, ?_⟩
  rw [proxyRoute_of_valid ext out hvalid, hend]

/-- **A proxied request returns its renewed session**: whatever the chain and the outcomes, if
the session was renewed and the response of the upstream is sent, that response carries the new
cookie. -/
theorem renewed_cookie_sent {routingConfig : RoutingConfig} {remoteIp : AddrPort} {r : Request}
    {cookie : Cookie} {metrics : Option Metrics} {result : Except Fail Unit} {c : RequestContext}
    {endpoint : AddrPort} {req : UpstreamRequest} {resp : Response} (hnames : CookieNames ext)
    (hhooks : ∀ m ∈ routingConfig.requestMiddlewares, RequestHook m)
    (hpeer : ext.parseAddrPort r.remoteAddr = .ok remoteIp)
    (hrenews : RenewsSession ext out routingConfig remoteIp r cookie)
    (hserved : serveHTTP ext out metrics (some routingConfig) r = .finished result c)
    (hproxied : c.upstreamContacts = [.proxied endpoint req])
    (hconn : out.newClientConn endpoint = none) (htrip : out.roundTrip req = .response resp)
    (hstatus : 100 ≤ resp.statusCode ∧ resp.statusCode ≤ 999) :
    ∃ header data, c.w.calls = .writeHeader resp.statusCode header :: data
      ∧ ext.cookieString cookie ∈ header.values (lit "Set-Cookie") := by
  obtain ⟨route, before, client, ingress, after, info, hrouted, hsplit, _, hinfo, hcookie⟩ := hrenews
  rw [serveHTTP_some ext out hpeer] at hserved
  have hfinal : (recoverError ext out (callMiddleware ext out routingConfig.requestMiddlewares
      (handleHttp ext out)) (newContext ext out routingConfig remoteIp r)).2 = c := by
    cases hserved
    rfl
  have hcontacts : (serveChain ext out routingConfig remoteIp r).2.upstreamContacts
      = [.proxied endpoint req] := by
    rw [← hproxied, ← hfinal]
    exact (recoverError_contacts _ _).symm
  obtain ⟨c', rfl, huntouched', hvalid, hcontinues, hrun⟩ :=
    reaches_proxyRoute hhooks hrouted hcontacts
  obtain ⟨c'', huntouched'', hparked, hroute, hreq, hend⟩ :=
    proxyRoute_renewed huntouched' hvalid hcontinues hsplit hinfo hcookie
  rw [hrun, hend, proxy_contacts ext out hreq hroute, huntouched''.contacts] at hcontacts
  cases hcontacts
  -- what is left is the response of the upstream
  obtain ⟨header, res, hfinish, hres, hcookies⟩ := @finishProxy_run ext out resp hstatus
    (contacting c'' (.proxied route.endpoint (upstreamRequestOf ext route c')))
  have hchain : serveChain ext out routingConfig remoteIp c'.r
      = finishProxy ext out (.response resp)
        (contacting c'' (.proxied route.endpoint (upstreamRequestOf ext route c'))) := by
    rw [hrun, hend, proxy_run hreq hroute, hconn]
    show finishProxy ext out (out.roundTrip (upstreamRequestOf ext route c')) _ = _
    rw [htrip]
  have hcalls : c.w.calls = [.writeHeader resp.statusCode header, .write resp.copied] := by
    have hrecover := @recoverError_written ext out (callMiddleware ext out
      routingConfig.requestMiddlewares (handleHttp ext out))
      (newContext ext out routingConfig remoteIp c'.r) _ _ (hchain.trans hfinish) hres
      (by dsimp only; omega)
    rw [← hfinal, hrecover]
    show c''.w.calls ++ _ = _
    rw [huntouched''.blank.1]
    rfl
  refine ⟨header, _, hcalls, hcookies cookie hparked ?_⟩
  obtain ⟨value, _, hvalue, _, _⟩ := extractAuthInfo_ok hinfo
  exact hnames _ _ value cookie hvalue (generateJwtCookie_name (renewed_cookie hcookie))

end

/-! ## §3. A renewed session that is sent, and one that is lost. -/

/-- One route for every host, behind the session of the client. -/
def sessionTable (ingress : OidcIngressConfig) : RoutingConfig :=
  { uncheckedTable with
    hosts := Finmap.singleton [] ⟨[{ uncheckedRoute with
      middlewares := [.oidcIngress sessionClient ingress] }]⟩ }

/-- The cookie of the renewal. -/
def renewedCookie : Cookie := ⟨getCookieName sessionClient, lit "s2", 10, true, []⟩

theorem cookieNames_sessions : CookieNames Ext.sessions := by
  intro header name value cookie _ _ hnil
  have hcut : cookie.name ++ lit "=" ++ cookie.value = [] := hnil
  have hsign := (List.append_eq_nil_iff.mp (List.append_eq_nil_iff.mp hcut).1).2
  exact absurd hsign (by decide)

theorem renewsSession_presenting (headerOrder : GoMap.RangeChoice GoString (List GoString))
    (ingress : OidcIngressConfig) (remoteIp : AddrPort) :
    RenewsSession Ext.sessions (Outcomes.sessions headerOrder (lit "s2")) (sessionTable ingress)
      remoteIp (presenting (lit "s1")).r renewedCookie :=
  ⟨{ uncheckedRoute with middlewares := [.oidcIngress sessionClient ingress] }, [], sessionClient,
    ingress, [], sessionInfo, ⟨lit "a", _, rfl, rfl, rfl⟩, rfl,
    fun _ hm => absurd hm List.not_mem_nil, rfl, rfl⟩

/-- The upstream's 200 carries the new cookie. -/
theorem renewed_cookie_sent_proxied : ∃ out c header data,
    serveHTTP Ext.sessions out (some Metrics.utf8) (some (sessionTable ⟨none, none⟩))
      (presenting (lit "s1")).r = .finished (.ok ()) c
    ∧ c.w.calls = .writeHeader 200 header :: data
    ∧ Ext.sessions.cookieString renewedCookie ∈ header.values (lit "Set-Cookie") := by
  obtain ⟨headerOrder⟩ := (inferInstance : Nonempty (GoMap.RangeChoice GoString (List GoString)))
  have hrenews := renewsSession_presenting headerOrder ⟨none, none⟩ ⟨.v4 0x0A000009, 80⟩
  have hhooks : ∀ m ∈ (sessionTable ⟨none, none⟩).requestMiddlewares, RequestHook m :=
    fun m hm => absurd hm List.not_mem_nil
  have hstatus : 100 ≤ (200 : Int) ∧ (200 : Int) ≤ 999 := by omega
  have hserved : serveHTTP Ext.sessions (Outcomes.sessions headerOrder (lit "s2"))
      (some Metrics.utf8) (some (sessionTable ⟨none, none⟩)) (presenting (lit "s1")).r
      = .finished (.ok ()) _ := rfl
  obtain ⟨header, data, hcalls, hcookie⟩ := renewed_cookie_sent cookieNames_sessions hhooks rfl
    hrenews hserved rfl rfl rfl hstatus
  exact ⟨Outcomes.sessions headerOrder (lit "s2"), _, header, data, rfl, hcalls, hcookie⟩

/-- **A later answer drops the cookie**: the session is renewed, its user has no access, and the
403 sets no cookie. -/
theorem renewed_cookie_lost : ∃ out remoteIp c,
    Ext.sessions.parseAddrPort (presenting (lit "s1")).r.remoteAddr = .ok remoteIp
    ∧ RenewsSession Ext.sessions out (sessionTable ⟨some [lit "admins"], none⟩) remoteIp
        (presenting (lit "s1")).r renewedCookie
    ∧ serveHTTP Ext.sessions out (some Metrics.utf8)
        (some (sessionTable ⟨some [lit "admins"], none⟩)) (presenting (lit "s1")).r
        = .finished (.ok ()) c
    ∧ statuses c = [403]
    ∧ ∀ status header, .writeHeader status header ∈ c.w.calls →
        header.values (lit "Set-Cookie") = [] := by
  obtain ⟨headerOrder⟩ := (inferInstance : Nonempty (GoMap.RangeChoice GoString (List GoString)))
  refine ⟨Outcomes.sessions headerOrder (lit "s2"), ⟨.v4 0x0A000009, 80⟩, _, rfl,
    renewsSession_presenting headerOrder _ _, rfl, rfl, ?_⟩
  intro status header hmem
  rcases List.mem_cons.mp hmem with heq | hmem
  · cases heq
    rfl
  · rcases List.mem_cons.mp hmem with heq | hmem
    · cases heq
    · cases hmem

end SIngress.Controller
