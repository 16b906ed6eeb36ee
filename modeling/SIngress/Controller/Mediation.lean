/-
  SIngress.Controller.Mediation — EVERY REQUEST IS CHECKED before it reaches an
  upstream.

  The middlewares `getMiddlewares` builds for an ingress are the checks of its
  modules, then the websocket module, then the header modules.  Every check is
  a gate; behind the gates either `handleWebSocket` or `proxy` reaches the
  upstream once.  So a routed request reaches it exactly when the upstream
  request could be made and every check passes.
-/
import SIngress.Controller.Converter
import SIngress.Proxy.Serve

namespace SIngress.Controller

open SIngress.Base SIngress.Lib SIngress.K8s SIngress.Platform SIngress.Config SIngress.Proxy
open SIngress.Modules SIngress.Modules.Security SIngress.Modules.Auth SIngress.Modules.Oidc
open SIngress.Modules.Headers

/-! ## §1. The middlewares an ingress gets. -/

theorem getMiddlewares_cons_eq_ok {api : Api} {ingress : Ingress} {m : ModuleInstance}
    {mods : List ModuleInstance} {used used' : List NamespacedName} {ms : List Middleware} :
    getMiddlewares api ingress (m :: mods) used = .ok (ms, used') ↔
      ∃ m? used₁ rest, (m.ingressMiddleware ingress).run api used = .ok (m?, used₁)
        ∧ getMiddlewares api ingress mods used₁ = .ok (rest, used')
        ∧ ms = m?.toList ++ rest := by
  constructor
  · intro h
    obtain ⟨⟨m?, used₁⟩, h₁, h⟩ := bind_eq_ok.mp h
    obtain ⟨⟨rest, used₂⟩, h₂, h⟩ := bind_eq_ok.mp h
    cases h
    exact ⟨m?, used₁, rest, h₁, h₂, rfl⟩
  · rintro ⟨m?, used₁, rest, h₁, h₂, rfl⟩
    exact bind_eq_ok.mpr ⟨(m?, used₁), h₁, bind_eq_ok.mpr ⟨(rest, used'), h₂, rfl⟩⟩

/-- The hooks give a result exactly if each of them does, whatever was recorded before. -/
theorem getMiddlewares_ok_iff {api : Api} {ingress : Ingress} {mods : List ModuleInstance}
    {used : List NamespacedName} :
    (∃ result, getMiddlewares api ingress mods used = .ok result)
      ↔ ∀ mod ∈ mods, Reading.Succeeds api (mod.ingressMiddleware ingress) := by
  induction mods generalizing used with
  | nil => exact ⟨fun _ mod hmod => absurd hmod List.not_mem_nil, fun _ => ⟨_, rfl⟩⟩
  | cons mod mods ih =>
      rw [List.forall_mem_cons]
      constructor
      · rintro ⟨⟨ms, used'⟩, h⟩
        obtain ⟨m?, used₁, rest, hrun, hrest, _⟩ := getMiddlewares_cons_eq_ok.mp h
        exact ⟨Reading.succeeds_of_run hrun, ih.mp ⟨_, hrest⟩⟩
      · rintro ⟨hmod, hmods⟩
        -- a hook may succeed with more secrets recorded, so the rest starts from those
        obtain ⟨m?, used₁, hrun⟩ := hmod used
        obtain ⟨⟨rest, used'⟩, hrest⟩ : ∃ result, getMiddlewares api ingress mods used₁
            = .ok result := ih.mpr hmods
        exact ⟨_, getMiddlewares_cons_eq_ok.mpr ⟨m?, used₁, rest, hrun, hrest, rfl⟩⟩

theorem getMiddlewares_append {api : Api} {ingress : Ingress} {as bs : List ModuleInstance} :
    ∀ {used used' : List NamespacedName} {ms : List Middleware},
      getMiddlewares api ingress (as ++ bs) used = .ok (ms, used') →
      ∃ ms₁ used₁ ms₂, getMiddlewares api ingress as used = .ok (ms₁, used₁)
        ∧ getMiddlewares api ingress bs used₁ = .ok (ms₂, used') ∧ ms = ms₁ ++ ms₂ := by
  induction as with
  | nil =>
      intro used used' ms h
      exact ⟨[], used, ms, rfl, h, rfl⟩
  | cons m as ih =>
      intro used used' ms h
      obtain ⟨m?, used₁, rest, h₁, h₂, rfl⟩ := getMiddlewares_cons_eq_ok.mp h
      obtain ⟨ms₁, used₂, ms₂, h₃, h₄, rfl⟩ := ih h₂
      refine ⟨m?.toList ++ ms₁, used₂, ms₂, ?_, h₄, by simp⟩
      exact getMiddlewares_cons_eq_ok.mpr ⟨m?, used₁, ms₁, h₁, h₃, rfl⟩

/-- Every middleware of the list was returned by one of the modules. -/
theorem getMiddlewares_origin {api : Api} {ingress : Ingress} {mods : List ModuleInstance} :
    ∀ {used used' : List NamespacedName} {ms : List Middleware},
      getMiddlewares api ingress mods used = .ok (ms, used') → ∀ m ∈ ms,
      ∃ mod ∈ mods, ∃ u u', (mod.ingressMiddleware ingress).run api u = .ok (some m, u') := by
  induction mods with
  | nil =>
      intro used used' ms h m hm
      cases h
      cases hm
  | cons mod mods ih =>
      intro used used' ms h m hm
      obtain ⟨m?, used₁, rest, h₁, h₂, rfl⟩ := getMiddlewares_cons_eq_ok.mp h
      -- it is the one of this module, or one of the rest
      rcases List.mem_append.mp hm with hm | hm
      · rw [Option.mem_toList] at hm
        subst hm
        exact ⟨mod, List.mem_cons_self, used, used₁, h₁⟩
      · obtain ⟨mod', hmod', hrun⟩ := ih h₂ m hm
        exact ⟨mod', List.mem_cons_of_mem _ hmod', hrun⟩

/-- The modules in front of the websocket module. -/
def checkModules (ext : Ext) (d : Bool) (configs : GoMap GoString ForwardAuthConfig)
    (clients callbackDomains : GoMap GoString ClientConfig) : List ModuleInstance :=
  [enforceHttpsModule d, ipAuthModule ext, basicAuthModule ext, subrequestAuthModule ext configs,
   oidcModule ext clients callbackDomains, denyRouteModule ext]

theorem standardModules_eq (ext : Ext) (d : Bool) (configs : GoMap GoString ForwardAuthConfig)
    (clients domains : GoMap GoString ClientConfig) :
    standardModules ext d configs clients domains
      = checkModules ext d configs clients domains
        ++ websocketModule :: [customHeaderModule, upstreamHeaderModule] := rfl

/-- Which module a password or subrequest check comes from. -/
def MadeBy (ext : Ext) (configs : GoMap GoString ForwardAuthConfig) (mod : ModuleInstance) :
    Middleware → Prop
  | .basicAuth _ _ => mod = basicAuthModule ext
  | .subrequestAuth _ _ => mod = subrequestAuthModule ext configs
  | _ => True

/-- A closure that checks the request, by which the mediation below is stated. -/
def IsCheck : Middleware → Prop
  | .oidcRequest _ => False
  | .websocket => False
  | .customHeader _ => False
  | .upstreamHeader _ => False
  | _ => True

theorem IsCheck.filters {m : Middleware} (h : IsCheck m) : m.Filters := by
  cases m with
  | oidcRequest callbackDomains => exact h.elim
  | websocket => exact h.elim
  | _ => trivial

/-- What a module in front of the websocket module returns is a check, and of its own
kind. -/
theorem checkModules_makes {ext : Ext} {d : Bool} {configs : GoMap GoString ForwardAuthConfig}
    {clients domains : GoMap GoString ClientConfig} {mod : ModuleInstance} {ingress : Ingress}
    {api : Api} {used used' : List NamespacedName} {m : Middleware}
    (hmod : mod ∈ checkModules ext d configs clients domains)
    (h : (mod.ingressMiddleware ingress).run api used = .ok (some m, used')) :
    IsCheck m ∧ MadeBy ext configs mod m := by
  simp only [checkModules, List.mem_cons, List.not_mem_nil, or_false] at hmod
  -- one module after the other, by what its hook returns
  rcases hmod with rfl | rfl | rfl | rfl | rfl | rfl
  · have hm := enforceHttpsModule_run h
    split_ifs at hm
    cases hm
    exact ⟨trivial, trivial⟩
  · have hm := ipAuthModule_run h
    split at hm
    · cases hm
    · obtain ⟨allowlist, _, hm⟩ := hm
      cases hm
      exact ⟨trivial, trivial⟩
  · have hm := basicAuthModule_run h
    split at hm
    · obtain ⟨secret, htpasswdRaw, _, _, hm⟩ := hm
      cases hm
      exact ⟨trivial, rfl⟩
    · cases hm
  · obtain ⟨conf?, _, hm⟩ := subrequestAuthModule_run h
    split at hm
    · cases hm
    · obtain ⟨authUrl, _, hm⟩ := hm
      cases hm
      exact ⟨trivial, rfl⟩
  · have hm := oidcModule_run h
    split at hm
    · cases hm
    · split_ifs at hm
      obtain ⟨client, _, hm⟩ := hm
      cases hm
      exact ⟨trivial, trivial⟩
  · rcases denyRouteModule_run h with hm | hm
    · cases hm
    · cases hm
      exact ⟨trivial, trivial⟩

/-- What a header module returns sets headers. -/
theorem headerModules_run {mod : ModuleInstance} {ingress : Ingress} {api : Api}
    {used used' : List NamespacedName} {m : Middleware}
    (hmod : mod ∈ [customHeaderModule, upstreamHeaderModule])
    (h : (mod.ingressMiddleware ingress).run api used = .ok (some m, used')) :
    ∃ headers, m = .customHeader headers ∨ m = .upstreamHeader headers := by
  simp only [List.mem_cons, List.not_mem_nil, or_false] at hmod
  rcases hmod with rfl | rfl
  · have hm := headerHook_run h
    split_ifs at hm
    exact ⟨_, Or.inl (Option.some.inj hm)⟩
  · have hm := headerHook_run h
    split_ifs at hm
    exact ⟨_, Or.inr (Option.some.inj hm)⟩

/-- The closures of the header modules set headers. -/
theorem getMiddlewares_headers {api : Api} {ingress : Ingress}
    {used used' : List NamespacedName} {headers : List Middleware}
    (h : getMiddlewares api ingress [customHeaderModule, upstreamHeaderModule] used
      = .ok (headers, used')) :
    ∀ m ∈ headers, ∃ lines, m = .customHeader lines ∨ m = .upstreamHeader lines := by
  intro m hm
  obtain ⟨mod, hmod, u, u', hrun⟩ := getMiddlewares_origin h m hm
  exact headerModules_run hmod hrun

/-- **Checks, then the websocket module, then headers.** -/
theorem getMiddlewares_standard {ext : Ext} {d : Bool}
    {configs : GoMap GoString ForwardAuthConfig} {clients domains : GoMap GoString ClientConfig}
    {api : Api} {ingress : Ingress} {used used' : List NamespacedName} {ms : List Middleware}
    (h : getMiddlewares api ingress (standardModules ext d configs clients domains) used
      = .ok (ms, used')) :
    ∃ checks headers used₁, ms = checks ++ .websocket :: headers ∧ (∀ m ∈ checks, IsCheck m)
      ∧ getMiddlewares api ingress [customHeaderModule, upstreamHeaderModule] used₁
        = .ok (headers, used') := by
  rw [standardModules_eq] at h
  obtain ⟨checks, used₁, ms₂, hchecks, hrest, rfl⟩ := getMiddlewares_append h
  obtain ⟨m?, used₂, headers, hws, hheaders, rfl⟩ := getMiddlewares_cons_eq_ok.mp hrest
  obtain ⟨rfl, _⟩ := Reading.run_pure_eq_ok.mp hws
  refine ⟨checks, headers, used₂, rfl, fun m hm => ?_, hheaders⟩
  obtain ⟨mod, hmod, u, u', hrun⟩ := getMiddlewares_origin hchecks m hm
  exact (checkModules_makes hmod hrun).1

/-! ## §2. Mediation. -/

section

variable (ext : Ext) (out : Outcomes)

/-- What the view keeps: the route, and that there is an upstream request. -/
theorem routed_of_view {c c' : RequestContext} {route : RouteConfig} (hview : c'.view = c.view)
    (hreq : c.upstreamRequest.isSome = true) (hroute : c.matchedRoute = some route) :
    c'.upstreamRequest.isSome = true ∧ c'.matchedRoute = some route :=
  ⟨(congrArg (fun v => v.2.2.2) hview).trans hreq, (congrArg (fun v => v.2.2.1) hview).trans hroute⟩

/-- Behind the checks: the websocket module, the headers and `proxy` reach the
upstream once. -/
theorem tail_contacts {headers : List Middleware} {c : RequestContext} {route : RouteConfig}
    (hheaders : ∀ m ∈ headers, ∃ lines, m = .customHeader lines ∨ m = .upstreamHeader lines)
    (hreq : c.upstreamRequest.isSome = true) (hroute : c.matchedRoute = some route) :
    ∃ contact, (callMiddleware ext out (.websocket :: headers) (proxy ext out) c).2.upstreamContacts
      = c.upstreamContacts ++ [contact] := by
  show ∃ contact,
    (websocket ext out (callMiddleware ext out headers (proxy ext out)) c).2.upstreamContacts = _
  by_cases hws : ext.isWebSocketUpgrade c.r.header = true
  · obtain ⟨req, hreq⟩ := Option.isSome_iff_exists.mp hreq
    rw [websocket_of_upgrade ext out _ hws]
    exact ⟨_, handleWebSocket_contacts ext out hreq hroute⟩
  · -- a plain request goes through the headers to `proxy`
    rw [websocket_of_plain ext out _ hws, callMiddleware_eq_chain]
    have hgate : ∀ m ∈ headers, Gate RequestContext.view RequestContext.upstreamContacts
        (m.call ext out) (m.gate ext out) := by
      intro m hm
      refine call_gate ext out ?_
      obtain ⟨lines, rfl | rfl⟩ := hheaders m hm <;> trivial
    have hpass : ∀ m ∈ headers, m.gate ext out c.view := by
      intro m hm
      refine (gate_iff_passes ext out m (v := c.view) hreq).mpr ?_
      obtain ⟨lines, rfl | rfl⟩ := hheaders m hm <;> trivial
    obtain ⟨c', hview, hlog, hrun⟩ := chain_of_pass hgate (proxy ext out) c hpass
    obtain ⟨hreq', hroute'⟩ := routed_of_view hview hreq hroute
    obtain ⟨req, hreq'⟩ := Option.isSome_iff_exists.mp hreq'
    rw [hrun, ← hlog]
    exact ⟨_, proxy_contacts ext out hreq' hroute'⟩

/-- The chain of an ingress reaches the upstream once where every check passes, and
not at all elsewhere. -/
theorem chain_contacts {checks headers : List Middleware} {c : RequestContext}
    {route : RouteConfig} (hchecks : ∀ m ∈ checks, m.Filters)
    (hheaders : ∀ m ∈ headers, ∃ lines, m = .customHeader lines ∨ m = .upstreamHeader lines)
    (hreq : c.upstreamRequest.isSome = true) (hroute : c.matchedRoute = some route) :
    ((∀ m ∈ checks, m.Passes ext out c.r c.realIp) →
      ∃ contact, (callMiddleware ext out (checks ++ .websocket :: headers) (proxy ext out)
        c).2.upstreamContacts = c.upstreamContacts ++ [contact])
    ∧ ((∃ m ∈ checks, ¬ m.Passes ext out c.r c.realIp) →
      (callMiddleware ext out (checks ++ .websocket :: headers) (proxy ext out)
        c).2.upstreamContacts = c.upstreamContacts) := by
  have hgate : ∀ m ∈ checks, Gate RequestContext.view RequestContext.upstreamContacts
      (m.call ext out) (m.gate ext out) := fun m hm => call_gate ext out (hchecks m hm)
  have hiff : ∀ m : Middleware, m.gate ext out c.view ↔ m.Passes ext out c.r c.realIp := fun m =>
    gate_iff_passes ext out m (v := c.view) hreq
  -- the checks form a chain of gates in front of the rest
  rw [callMiddleware_append]
  constructor
  · intro hpass
    obtain ⟨c', hview, hlog, hrun⟩ := chain_of_pass hgate
      (callMiddleware ext out (.websocket :: headers) (proxy ext out)) c
      (fun m hm => (hiff m).mpr (hpass m hm))
    obtain ⟨hreq', hroute'⟩ := routed_of_view hview hreq hroute
    rw [hrun, ← hlog]
    exact tail_contacts ext out hheaders hreq' hroute'
  · rintro ⟨m, hm, hfail⟩
    exact chain_of_deny hgate _ c ⟨m, hm, fun hg => hfail ((hiff m).mp hg)⟩

/-- `handleHttp` routes the request to `route`. -/
def RoutedTo (c : RequestContext) (route : RouteConfig) : Prop :=
  ∃ escapedHost host, ext.idnaToASCII c.r.host = .ok escapedHost
    ∧ c.routingConfig.lookupHost escapedHost = some host
    ∧ host.lookupRoute c.r.url.path = .ok (some route)

/-- A host and a path have one route at most. -/
theorem RoutedTo.unique {c : RequestContext} {route : RouteConfig} (h : RoutedTo ext c route)
    {escapedHost : GoString} {host : HostConfig} (hidna : ext.idnaToASCII c.r.host = .ok escapedHost)
    (hhost : c.routingConfig.lookupHost escapedHost = some host) :
    host.lookupRoute c.r.url.path = .ok (some route) := by
  obtain ⟨escapedHost', host', hidna', hhost', hroute⟩ := h
  rw [hidna] at hidna'
  cases hidna'
  rw [hhost] at hhost'
  cases hhost'
  exact hroute

theorem handleHttp_of_routed {c : RequestContext} {route : RouteConfig}
    (h : RoutedTo ext c route) : handleHttp ext out c = proxyRoute ext out route c := by
  obtain ⟨escapedHost, host, hidna, hhost, hroute⟩ := h
  simp only [handleHttp, get_bind_run, hidna, hhost, handleHost, hroute]

/-- Without a host or a route it is a 404. -/
theorem handleHttp_unrouted {c : RequestContext} {escapedHost : GoString}
    (hidna : ext.idnaToASCII c.r.host = .ok escapedHost)
    (hnone : ∀ host, c.routingConfig.lookupHost escapedHost = some host →
      host.lookupRoute c.r.url.path = .ok none) :
    ∃ msg, handleHttp ext out c = handleErrorPage ext out 404 msg c := by
  simp only [handleHttp, get_bind_run, hidna]
  cases hhost : c.routingConfig.lookupHost escapedHost with
  | none => exact ⟨_, rfl⟩
  | some host =>
      dsimp only
      simp only [handleHost, get_bind_run, hnone host hhost]
      exact ⟨_, rfl⟩

/-- The request the proxy would send upstream can be made: `http.NewRequestWithContext`
accepts its method and URL. -/
def UpstreamRequestValid (r : Request) : Prop :=
  ext.newRequest r.method (ext.urlString (getUpstreamUrl r)) = none

instance (r : Request) : Decidable (UpstreamRequestValid ext r) :=
  inferInstanceAs (Decidable (_ = _))

theorem proxyRoute_eq_of_invalid {c : RequestContext} {route : RouteConfig}
    (h : ¬ UpstreamRequestValid ext c.r) :
    proxyRoute ext out route c = handleErrorf ext out 500 c := by
  obtain ⟨err, herr⟩ := Option.ne_none_iff_exists'.mp h
  simp only [proxyRoute, get_bind_run, herr]

theorem proxyRoute_of_invalid {c : RequestContext} {route : RouteConfig}
    (h : ¬ UpstreamRequestValid ext c.r) :
    (proxyRoute ext out route c).2.upstreamContacts = c.upstreamContacts := by
  rw [proxyRoute_eq_of_invalid ext out h]
  exact (handleErrorPage_responds ext out 500 []).contacts c

theorem proxyRoute_of_valid {c : RequestContext} {route : RouteConfig}
    (h : UpstreamRequestValid ext c.r) :
    proxyRoute ext out route c
      = callMiddleware ext out route.middlewares (proxy ext out) (prepareUpstream ext route c) := by
  have hnone : ext.newRequest c.r.method (ext.urlString (getUpstreamUrl c.r)) = none := h
  simp only [proxyRoute, get_bind_run, hnone, modify_bind_run]

/-- **Complete mediation.**  Let `conf` be a loaded configuration and `ms` the
middlewares it gives an ingress.  A request routed to a route with these
middlewares reaches the upstream if and only if the upstream request can be made
and every check passes; and it never reaches it twice. -/
theorem contacted_iff_checks_pass {env : ControllerEnvConf} {outside : Outside}
    {conf : ControllerConf} {api : Api} {ingress : Ingress} {used used' : List NamespacedName}
    {ms : List Middleware} {route : RouteConfig} {c : RequestContext}
    (hconf : getControllerConfig ext env outside = .ok conf)
    (hms : getMiddlewares api ingress conf.modules used = .ok (ms, used'))
    (hmiddlewares : route.middlewares = ms) (hrouted : RoutedTo ext c route) :
    ((∃ contact, (handleHttp ext out c).2.upstreamContacts = c.upstreamContacts ++ [contact])
      ↔ UpstreamRequestValid ext c.r ∧ ∀ m ∈ ms, m.Passes ext out c.r c.realIp)
    ∧ ((handleHttp ext out c).2.upstreamContacts = c.upstreamContacts
      ∨ ∃ contact, (handleHttp ext out c).2.upstreamContacts
          = c.upstreamContacts ++ [contact]) := by
  obtain ⟨d, configs, clients, domains, hmods⟩ := getControllerConfig_modules ext hconf
  rw [hmods] at hms
  obtain ⟨checks, headers, used₁, rfl, hischeck, hrun⟩ := getMiddlewares_standard hms
  have hchecks : ∀ m ∈ checks, m.Filters := fun m hm => (hischeck m hm).filters
  have hheaders := getMiddlewares_headers hrun
  rw [handleHttp_of_routed ext out hrouted]
  -- a history that did not grow has no new contact
  have hlength : ¬ ∃ contact, c.upstreamContacts = c.upstreamContacts ++ [contact] := by
    rintro ⟨contact, h⟩
    have := congrArg List.length h
    simp at this
  have hheaders_pass : ∀ m ∈ (.websocket : Middleware) :: headers,
      m.Passes ext out c.r c.realIp := by
    intro m hm
    rcases List.mem_cons.mp hm with rfl | hm
    · trivial
    · obtain ⟨lines, rfl | rfl⟩ := hheaders m hm <;> trivial
  by_cases hvalid : UpstreamRequestValid ext c.r
  · -- the upstream request is made, so the chain runs: the first check that fails ends it
    have hchain :=
      chain_contacts ext out (c := prepareUpstream ext route c) hchecks hheaders rfl rfl
    rw [proxyRoute_of_valid ext out hvalid, hmiddlewares]
    by_cases hall : ∀ m ∈ checks, m.Passes ext out c.r c.realIp
    · have hcontact := hchain.1 hall
      refine ⟨⟨fun _ => ⟨hvalid, fun m hm => ?_⟩, fun _ => hcontact⟩, Or.inr hcontact⟩
      rcases List.mem_append.mp hm with hm | hm
      · exact hall m hm
      · exact hheaders_pass m hm
    · have hfail : ∃ m ∈ checks, ¬ m.Passes ext out c.r c.realIp := by simpa using hall
      have hnone : (callMiddleware ext out (checks ++ .websocket :: headers) (proxy ext out)
          (prepareUpstream ext route c)).2.upstreamContacts = c.upstreamContacts := hchain.2 hfail
      rw [hnone]
      refine ⟨⟨fun h => absurd h hlength, fun h => absurd ?_ hall⟩, Or.inl rfl⟩
      exact fun m hm => h.2 m (List.mem_append_left _ hm)
  · -- `proxyRoute` answers before any middleware is called
    rw [proxyRoute_of_invalid ext out hvalid]
    exact ⟨⟨fun h => absurd h hlength, fun h => absurd h.1 hvalid⟩, Or.inl rfl⟩

end

/-! ## §3. Requests with and without checks.

Configurations with one route under the default host: for an ingress without
annotations, whose only middleware is the websocket one, so that no check can
fail, and for one with an allow-list and a denied path. -/

/-- The route of the ingress. -/
def uncheckedRoute : RouteConfig where
  path := lit "/"
  pathType := .pathTypePrefix
  endpoint := ⟨.v4 0x0A000001, 80⟩
  middlewares := [.websocket]
  httpProxyConfig := ⟨4096⟩
  ingressName := lit "ns/a"

/-- The context of a `GET /` for the given host. -/
def uncheckedContext (host : GoString) : RequestContext where
  r := ⟨lit "GET", host, ⟨[], [], lit "/", [], [], []⟩, ∅, false, lit "10.0.0.9:80", 0⟩
  w := ⟨∅, [], 0⟩
  requestId := lit "uuid"
  remoteIp := ⟨.v4 0x0A000009, 80⟩
  realIp := .v4 0x0A000009
  matchedRoute := none
  upstreamRequest := none
  routingConfig := ⟨Finmap.singleton [] ⟨[uncheckedRoute]⟩, ∅, none, [], [], [], none⟩
  responseHeader := ∅
  responseCookies := []
  upstreamContacts := []

theorem getMiddlewares_unchecked :
    getMiddlewares Api.small (Ingress.small (lit "a") ∅ [] []) (smallConf 4096).modules []
      = .ok ([.websocket], []) := by
  rfl

theorem routedTo_unchecked {host : GoString} (h : host ∈ [lit "a", lit "a:b"]) :
    RoutedTo Ext.small (uncheckedContext host) uncheckedRoute := by
  have hroute : (HostConfig.mk [uncheckedRoute]).lookupRoute (lit "/")
      = .ok (some uncheckedRoute) := by decide
  -- both hosts fall through to the default key
  refine ⟨host, ⟨[uncheckedRoute]⟩, rfl, ?_, hroute⟩
  simp only [List.mem_cons, List.not_mem_nil, or_false] at h
  rcases h with rfl | rfl <;> decide

theorem websocket_passes {ext : Ext} {out : Outcomes} {r : Request} {realIp : Addr} :
    ∀ m ∈ [Middleware.websocket], m.Passes ext out r realIp := by
  intro m hm
  rw [List.mem_singleton.mp hm]
  trivial

/-- The annotations of an ingress with two checks. -/
def checkedAnnotations : GoMap GoString GoString :=
  (Finmap.singleton Auth.authIpAllowlist (lit "10.0.0.0/8")).insert Security.denyRouteAnnotation
    (lit "^/admin")

/-- What they ask for. -/
def checkedMiddlewares : List Middleware :=
  [.ipAuth [⟨.v4 0x0A000000, 8⟩], .denyRoute (lit "^/admin"), .websocket]

def checkedRoute : RouteConfig := { uncheckedRoute with middlewares := checkedMiddlewares }

/-- The context of a `GET` for the path, from the address. -/
def checkedContext (path : GoString) (realIp : Addr) : RequestContext :=
  let c := uncheckedContext (lit "a")
  { c with
    r := { c.r with url := { c.r.url with path := path } }
    realIp := realIp
    routingConfig := { c.routingConfig with hosts := Finmap.singleton [] ⟨[checkedRoute]⟩ } }

theorem getMiddlewares_checked :
    getMiddlewares Api.small (Ingress.small (lit "a") checkedAnnotations [] [])
      (smallConf 4096).modules [] = .ok (checkedMiddlewares, []) := by
  rfl

theorem routedTo_checked {path : GoString} (realIp : Addr)
    (hpath : path = lit "/docs" ∨ path = lit "/admin") :
    RoutedTo Ext.small (checkedContext path realIp) checkedRoute := by
  refine ⟨lit "a", ⟨[checkedRoute]⟩, rfl, rfl, ?_⟩
  obtain rfl | rfl := hpath
  · show (HostConfig.mk [checkedRoute]).lookupRoute (lit "/docs") = .ok (some checkedRoute)
    decide
  · show (HostConfig.mk [checkedRoute]).lookupRoute (lit "/admin") = .ok (some checkedRoute)
    decide

/-- A request within the allow-list reaches the upstream, once; one from elsewhere does not, and
neither does one for the denied path. -/
theorem contacted_checked : ∃ out contact,
    (handleHttp Ext.small out (checkedContext (lit "/docs") (.v4 0x0A000009))).2.upstreamContacts
        = [contact]
      ∧ (handleHttp Ext.small out
          (checkedContext (lit "/docs") (.v4 0xC6336401))).2.upstreamContacts = []
      ∧ (handleHttp Ext.small out
          (checkedContext (lit "/admin") (.v4 0x0A000009))).2.upstreamContacts = [] := by
  obtain ⟨headerOrder⟩ := (inferInstance : Nonempty (GoMap.RangeChoice GoString (List GoString)))
  obtain ⟨clientOrder⟩ := (inferInstance : Nonempty (GoMap.RangeChoice GoString OidcClientYaml))
  have hload := getControllerConfig_small (fun _ => .ok []) clientOrder
  have hiff := fun path realIp hpath => contacted_iff_checks_pass Ext.small
    (Outcomes.small headerOrder) hload getMiddlewares_checked rfl
    (@routedTo_checked path realIp hpath)
  -- a contact means that every check passed
  have hnone : ∀ path realIp, (path = lit "/docs" ∨ path = lit "/admin") →
      (∃ m ∈ checkedMiddlewares, ¬ m.Passes Ext.small (Outcomes.small headerOrder)
        (checkedContext path realIp).r realIp) →
      (handleHttp Ext.small (Outcomes.small headerOrder)
        (checkedContext path realIp)).2.upstreamContacts = [] := by
    rintro path realIp hpath ⟨m, hm, hfails⟩
    refine (hiff path realIp hpath).2.resolve_right fun hcontact => ?_
    exact hfails (((hiff path realIp hpath).1.mp hcontact).2 m hm)
  have hpasses : ∀ m ∈ checkedMiddlewares, m.Passes Ext.small (Outcomes.small headerOrder)
      (checkedContext (lit "/docs") (.v4 0x0A000009)).r (.v4 0x0A000009) := by
    intro m hm
    simp only [checkedMiddlewares, List.mem_cons, List.not_mem_nil, or_false] at hm
    obtain rfl | rfl | rfl := hm
    · exact ⟨_, List.mem_singleton.mpr rfl, by decide⟩
    · show ¬ Ext.small.regexpMatch (lit "^/admin") (lit "/docs") = true
      decide
    · trivial
  obtain ⟨contact, hcontact⟩ := (hiff (lit "/docs") (.v4 0x0A000009) (Or.inl rfl)).1.mpr
    ⟨by decide, hpasses⟩
  refine ⟨Outcomes.small headerOrder, contact, hcontact, hnone _ _ (Or.inl rfl) ?_,
    hnone _ _ (Or.inr rfl) ?_⟩
  · refine ⟨.ipAuth [⟨.v4 0x0A000000, 8⟩], List.mem_cons_self, ?_⟩
    rintro ⟨ipNet, hmem, hcontains⟩
    rw [List.mem_singleton.mp hmem] at hcontains
    exact absurd hcontains (by decide)
  · refine ⟨.denyRoute (lit "^/admin"), List.mem_cons_of_mem _ List.mem_cons_self, ?_⟩
    show ¬ ¬ Ext.small.regexpMatch (lit "^/admin") (lit "/admin") = true
    decide

/-- For the host `a:b` no check fails, and yet the upstream is not reached: the URL of
the upstream request does not parse, and the proxy answers 500. -/
theorem invalid_upstream_url_not_contacted : ∃ (out : Outcomes) (outside : Outside),
    getControllerConfig Ext.small smallEnv outside = .ok (smallConf 4096)
    ∧ getMiddlewares Api.small (Ingress.small (lit "a") ∅ [] []) (smallConf 4096).modules []
      = .ok ([.websocket], [])
    ∧ RoutedTo Ext.small (uncheckedContext (lit "a:b")) uncheckedRoute
    ∧ uncheckedRoute.middlewares = [.websocket]
    ∧ (∀ m ∈ [Middleware.websocket], m.Passes Ext.small out (uncheckedContext (lit "a:b")).r
        (uncheckedContext (lit "a:b")).realIp)
    ∧ (handleHttp Ext.small out (uncheckedContext (lit "a:b"))).2.upstreamContacts = [] := by
  obtain ⟨headerOrder⟩ := (inferInstance : Nonempty (GoMap.RangeChoice GoString (List GoString)))
  obtain ⟨clientOrder⟩ := (inferInstance : Nonempty (GoMap.RangeChoice GoString OidcClientYaml))
  have hrouted : RoutedTo Ext.small (uncheckedContext (lit "a:b")) uncheckedRoute :=
    routedTo_unchecked (by decide)
  have hinvalid : ¬ UpstreamRequestValid Ext.small (uncheckedContext (lit "a:b")).r := by decide
  refine ⟨Outcomes.small headerOrder, ⟨Api.small, fun _ => .ok [], clientOrder⟩,
    getControllerConfig_small _ _, getMiddlewares_unchecked, hrouted, rfl, websocket_passes, ?_⟩
  rw [handleHttp_of_routed _ _ hrouted]
  exact proxyRoute_of_invalid _ _ hinvalid

end SIngress.Controller
