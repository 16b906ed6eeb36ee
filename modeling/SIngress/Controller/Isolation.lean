/-
  SIngress.Controller.Isolation — WHOM A HOST DEPENDS ON.

  The controller serves many namespaces from one table.  Two clusters are
  compared here, each at rest after an undisturbed run.  They have the same
  TENANTS of a host: the relevant ingresses that declare a path for one of the
  keys under which the host is looked up, and what these ingresses use, which
  is in their own namespaces (`readsIn_standard`).  Everything else may differ.

    • `routeNow_unique`  — a declared path has the same route in both,
    • `sameRoute_of_tenants` — a request for the host finds the same route,
    • `host_isolated`    — it is served alike.
-/
import SIngress.Controller.EndToEnd
import SIngress.Proxy.Indifference

namespace SIngress.Config.Reading

open SIngress.Base SIngress.K8s SIngress.Platform

/-! ## §1. Where a hook reads. -/

/-- Every secret the computation asks for is in the namespace. -/
def ReadsIn {α : Type} (ns : GoString) : Reading α → Prop
  | ret _ => True
  | fail _ => True
  | getSecret secret next => secret.namesp = ns ∧ ∀ answer, (next answer).ReadsIn ns

theorem ReadsIn.bind {α β : Type} {ns : GoString} {m : Reading α} {f : α → Reading β}
    (hm : m.ReadsIn ns) (hf : ∀ a, (f a).ReadsIn ns) : (m >>= f).ReadsIn ns := by
  induction m with
  | ret a => exact hf a
  | fail e => exact hm
  | getSecret secret next ih => exact ⟨hm.1, fun answer => ih answer (hm.2 answer)⟩

theorem readsIn_lift {α : Type} {ns : GoString} (x : Except Fail α) : (lift x).ReadsIn ns := by
  cases x with
  | error e => trivial
  | ok a => trivial

/-- The result depends on the secrets of the namespace alone, and not on the record. -/
theorem run_value {α : Type} {ns : GoString} {api api' : Api}
    (hsame : ∀ n : NamespacedName, n.namesp = ns → api'.getSecret n = api.getSecret n)
    {m : Reading α} (hm : m.ReadsIn ns) : ∀ used used' : List NamespacedName,
      (m.run api' used').map Prod.fst = (m.run api used).map Prod.fst := by
  induction m with
  | ret a => exact fun _ _ => rfl
  | fail e => exact fun _ _ => rfl
  | getSecret secret next ih =>
      intro used used'
      rw [run_getSecret, run_getSecret, hsame secret hm.1]
      cases api.getSecret secret with
      | error err => exact ih _ (hm.2 _) used used'
      | ok s => exact ih _ (hm.2 _) _ _

end SIngress.Config.Reading

namespace SIngress.Controller

open SIngress.Base SIngress.Lib SIngress.K8s SIngress.Platform SIngress.Config SIngress.Proxy
open SIngress.Modules SIngress.Modules.Security SIngress.Modules.Auth SIngress.Modules.Oidc
open SIngress.Modules.Headers

section

variable {ext : Ext}

theorem basicAuthModule_readsIn (ingress : Ingress) :
    ((basicAuthModule ext).ingressMiddleware ingress).ReadsIn ingress.namesp := by
  unfold basicAuthModule
  dsimp only
  cases ingress.annotations.lookup authBasicAuthRealm with
  | none => trivial
  | some realm =>
      cases ingress.annotations.lookup authBasicAuthSecret with
      | none => trivial
      | some secretRaw =>
          refine ⟨rfl, fun answer => ?_⟩
          cases answer with
          | error err => trivial
          | ok secret =>
              unfold basicAuthOfSecret
              dsimp only
              cases secret.data.lookup (lit "auth") with
              | none => trivial
              | some htpasswdRaw => exact (Reading.readsIn_lift _).bind fun _ => trivial

theorem ipAuthModule_readsIn (ingress : Ingress) :
    ((ipAuthModule ext).ingressMiddleware ingress).ReadsIn ingress.namesp := by
  unfold ipAuthModule
  dsimp only
  cases ingress.annotations.lookup authIpAllowlist with
  | none => trivial
  | some raw => exact (Reading.readsIn_lift _).bind fun _ => trivial

theorem subrequestAuthModule_readsIn (configs : GoMap GoString ForwardAuthConfig)
    (ingress : Ingress) :
    ((subrequestAuthModule ext configs).ingressMiddleware ingress).ReadsIn ingress.namesp := by
  refine (Reading.readsIn_lift _).bind fun conf? => ?_
  cases conf? with
  | none => trivial
  | some conf => exact (Reading.readsIn_lift _).bind fun _ => trivial

theorem oidcModule_readsIn (clients domains : GoMap GoString ClientConfig) (ingress : Ingress) :
    ((oidcModule ext clients domains).ingressMiddleware ingress).ReadsIn ingress.namesp := by
  unfold oidcModule
  dsimp only
  cases ingress.annotations.lookup configAnnotationKey with
  | none => trivial
  | some confName =>
      dsimp only
      split
      · trivial
      · cases clients.lookup confName with
        | none => trivial
        | some client => trivial

theorem denyRouteModule_readsIn (ingress : Ingress) :
    ((denyRouteModule ext).ingressMiddleware ingress).ReadsIn ingress.namesp := by
  unfold denyRouteModule
  dsimp only
  split
  · trivial
  · exact (Reading.readsIn_lift _).bind fun _ => trivial

theorem headerHook_readsIn (key : GoString) (closure : List GoString → Middleware)
    (ingress : Ingress) : (headerHook key closure ingress).ReadsIn ingress.namesp := by
  unfold headerHook
  dsimp only
  split
  · trivial
  · trivial

/-- **A hook reads in the namespace of its ingress**, whatever the annotations name. -/
theorem readsIn_standard {conf : ControllerConf} (hconf : StandardConf ext conf)
    {mod : ModuleInstance} (hmod : mod ∈ conf.modules) (ingress : Ingress) :
    (mod.ingressMiddleware ingress).ReadsIn ingress.namesp := by
  obtain ⟨d, configs, clients, domains, hmodules⟩ := hconf
  rw [hmodules] at hmod
  simp only [standardModules, List.mem_cons, List.not_mem_nil, or_false] at hmod
  -- in the order of the registry
  rcases hmod with rfl | rfl | rfl | rfl | rfl | rfl | rfl | rfl | rfl
  · trivial
  · exact ipAuthModule_readsIn ingress
  · exact basicAuthModule_readsIn ingress
  · exact subrequestAuthModule_readsIn configs ingress
  · exact oidcModule_readsIn clients domains ingress
  · exact denyRouteModule_readsIn ingress
  · trivial
  · exact headerHook_readsIn _ _ ingress
  · exact headerHook_readsIn _ _ ingress

/-- The middlewares depend on the secrets of the namespace alone. -/
theorem getMiddlewares_unique {api api' : Api} {ingress : Ingress} {mods : List ModuleInstance}
    (hmods : ∀ mod ∈ mods, (mod.ingressMiddleware ingress).ReadsIn ingress.namesp)
    (hsame : ∀ n : NamespacedName, n.namesp = ingress.namesp →
      api'.getSecret n = api.getSecret n) :
    ∀ {u₀ u₁ v₀ v₁ : List NamespacedName} {ms ms' : List Middleware},
      getMiddlewares api ingress mods u₀ = .ok (ms, u₁) →
      getMiddlewares api' ingress mods v₀ = .ok (ms', v₁) → ms' = ms := by
  induction mods with
  | nil =>
      intro u₀ u₁ v₀ v₁ ms ms' h h'
      cases h
      cases h'
      rfl
  | cons mod mods ih =>
      intro u₀ u₁ v₀ v₁ ms ms' h h'
      obtain ⟨m?, used, rest, hrun, hrest, rfl⟩ := getMiddlewares_cons_eq_ok.mp h
      obtain ⟨m?', used', rest', hrun', hrest', rfl⟩ := getMiddlewares_cons_eq_ok.mp h'
      have hvalue := Reading.run_value hsame (hmods mod List.mem_cons_self) u₀ v₀
      rw [hrun, hrun'] at hvalue
      cases Except.ok.inj hvalue
      rw [ih (fun mod' hmod' => hmods mod' (List.mem_cons_of_mem _ hmod')) hrest hrest']

/-! ## §2. Tenants. -/

variable {env : ControllerEnvConf} {w w' : World} {host key : GoString} {i : Ingress}

/-- `i` is a tenant of the key: it exists, is relevant and declares a path for the key. -/
structure World.Tenant (w : World) (key : GoString) (i : Ingress) : Prop where
  current : w.cluster.ingresses.lookup (objectMetaToNamespaced i) = some i
  relevant : isIngressRelevant w.cluster.sys.state i = true
  declares : ∃ item, (key, item) ∈ declared i

/-- What the ingress is configured from is the same: the configuration of the controller, and
the Services and Secrets of its namespace. -/
structure World.SameFor (w w' : World) (i : Ingress) : Prop where
  conf : w'.cluster.sys.confOf (objectMetaToNamespaced i)
    = w.cluster.sys.confOf (objectMetaToNamespaced i)
  services : ∀ name, w'.store.services.lookup ⟨i.namesp, name⟩
    = w.store.services.lookup ⟨i.namesp, name⟩
  secrets : ∀ name, w'.store.secrets.lookup ⟨i.namesp, name⟩
    = w.store.secrets.lookup ⟨i.namesp, name⟩

/-- **The two worlds have the same tenants of the host.** -/
structure World.SameTenants (w w' : World) (host : GoString) : Prop where
  tenant : ∀ key ∈ hostKeys host, ∀ i, w'.Tenant key i ↔ w.Tenant key i
  objects : ∀ key ∈ hostKeys host, ∀ i, w.Tenant key i → w.SameFor w' i

theorem World.SameTenants.symm (h : w.SameTenants w' host) : w'.SameTenants w host where
  tenant := fun key hkey i => (h.tenant key hkey i).symm
  objects := by
    intro key hkey i hi
    have hsame := h.objects key hkey i ((h.tenant key hkey i).mp hi)
    exact ⟨hsame.conf.symm, fun name => (hsame.services name).symm,
      fun name => (hsame.secrets name).symm⟩

section

variable {item : HTTPIngressPath} {pathType : Proxy.PathType} {endpoint : AddrPort}

theorem tenant_of_declares (h : w.Declares ext key i item pathType endpoint) : w.Tenant key i :=
  ⟨h.current, h.relevant, item, h.declared⟩

theorem declares_of_tenants (h : w.SameTenants w' host) (hkey : key ∈ hostKeys host)
    (hd : w.Declares ext key i item pathType endpoint) :
    w'.Declares ext key i item pathType endpoint := by
  have htenant := tenant_of_declares hd
  have htenant' := (h.tenant key hkey i).mpr htenant
  obtain ⟨backend, service, ip, hbackend, hservice, hip, heq⟩ := hd.endpoint
  refine ⟨htenant'.current, htenant'.relevant, hd.declared, hd.pathType, ?_⟩
  refine ⟨backend, service, ip, hbackend, ?_, hip, heq⟩
  rw [(h.objects key hkey i htenant).services]
  exact hservice

theorem declares_iff (h : w.SameTenants w' host) (hkey : key ∈ hostKeys host) :
    w'.Declares ext key i item pathType endpoint ↔ w.Declares ext key i item pathType endpoint :=
  ⟨declares_of_tenants h.symm hkey, declares_of_tenants h hkey⟩

end

theorem names_of_tenants (h : w.SameTenants w' host) (hkey : key ∈ hostKeys host) :
    w'.Names ext key ↔ w.Names ext key := by
  unfold World.Names
  simp only [declares_iff h hkey]

/-- The same key serves the host. -/
theorem servesHost_of_tenants (h : w.SameTenants w' host) :
    w'.ServesHost ext host key ↔ w.ServesHost ext host key := by
  have hmem : ∀ {before after : List GoString}, hostKeys host = before ++ key :: after →
      key ∈ hostKeys host ∧ ∀ k ∈ before, k ∈ hostKeys host := by
    intro before after heq
    rw [heq]
    exact ⟨List.mem_append_right _ List.mem_cons_self, fun k hk => List.mem_append_left _ hk⟩
  constructor
  · rintro ⟨before, after, hkeys, hnames, hbefore⟩
    obtain ⟨hkey, hin⟩ := hmem hkeys
    refine ⟨before, after, hkeys, (names_of_tenants h hkey).mp hnames, fun k hk hk' => ?_⟩
    exact hbefore k hk ((names_of_tenants h (hin k hk)).mpr hk')
  · rintro ⟨before, after, hkeys, hnames, hbefore⟩
    obtain ⟨hkey, hin⟩ := hmem hkeys
    refine ⟨before, after, hkeys, (names_of_tenants h hkey).mpr hnames, fun k hk hk' => ?_⟩
    exact hbefore k hk ((names_of_tenants h (hin k hk)).mp hk')

theorem mem_of_servesHost (h : w.ServesHost ext host key) : key ∈ hostKeys host := by
  obtain ⟨before, after, hkeys, _, _⟩ := h
  rw [hkeys]
  exact List.mem_append_right _ List.mem_cons_self

/-- The same declared paths serve the request. -/
theorem selects_of_tenants (h : w.SameTenants w' host) {path : GoString}
    {item : HTTPIngressPath} {endpoint : AddrPort}
    (hs : w'.Selects ext host path i item endpoint) : w.Selects ext host path i item endpoint := by
  obtain ⟨key, pathType, hkey, hd, hcovers, hmax⟩ := hs
  have hserves := (servesHost_of_tenants h).mp hkey
  have hmem := mem_of_servesHost hserves
  refine ⟨key, pathType, hserves, (declares_iff h hmem).mp hd, hcovers, ?_⟩
  intro i' item' pathType' endpoint' hd'
  exact hmax i' item' pathType' endpoint' ((declares_iff h hmem).mpr hd')

/-- **A declared path has one route**, the same in both worlds. -/
theorem routeNow_unique (hsame : w.SameFor w' i) {d : GoString × HTTPIngressPath}
    {r r' : RouteConfig} (h : w.RouteNow ext i d r) (h' : w'.RouteNow ext i d r') : r' = r := by
  obtain ⟨conf, hconf, hstandard, hroute⟩ := h
  obtain ⟨conf', hconf', _, hroute'⟩ := h'
  rw [hsame.conf, hconf] at hconf'
  cases hconf'
  have htype : r'.pathType = r.pathType := by
    have heq := hroute'.pathType
    rw [hroute.pathType] at heq
    exact (Except.ok.inj heq).symm
  have hendpoint : r'.endpoint = r.endpoint := by
    obtain ⟨backend, hbackend, hok⟩ := hroute.endpoint
    obtain ⟨backend', hbackend', hok'⟩ := hroute'.endpoint
    rw [hbackend] at hbackend'
    cases hbackend'
    have hservice : (w'.store.api ext).getService ⟨i.namesp, backend.name⟩
        = (w.store.api ext).getService ⟨i.namesp, backend.name⟩ := by
      show getObject _ _ _ _ = getObject _ _ _ _
      unfold getObject
      rw [hsame.services]
    rw [backendEndpoint_agree hservice, hok] at hok'
    exact (Except.ok.inj hok').symm
  have hmiddlewares : r'.middlewares = r.middlewares := by
    obtain ⟨_, _, hms⟩ := hroute.middlewares
    obtain ⟨_, _, hms'⟩ := hroute'.middlewares
    refine getMiddlewares_unique (fun mod hmod => readsIn_standard hstandard hmod i) ?_ hms hms'
    rintro ⟨ns, name⟩ rfl
    show getObject _ _ _ _ = getObject _ _ _ _
    unfold getObject
    rw [hsame.secrets]
  have hproxy : r'.httpProxyConfig = r.httpProxyConfig := by
    have heq := hroute'.httpProxyConfig
    rw [hroute.httpProxyConfig] at heq
    exact (Except.ok.inj heq).symm
  have hpath : r'.path = r.path := hroute'.path.trans hroute.path.symm
  have hname : r'.ingressName = r.ingressName := hroute'.ingressName.trans hroute.ingressName.symm
  cases r
  cases r'
  rw [RouteConfig.mk.injEq]
  exact ⟨hpath, htype, hendpoint, hmiddlewares, hproxy, hname⟩

/-! ## §3. One request, two clusters. -/

variable (ext) in
/-- One declared path serves the path under the host, at most. -/
def World.Uncontested (w : World) (host path : GoString) : Prop :=
  ∀ i item endpoint i' item' endpoint', w.Selects ext host path i item endpoint →
    w.Selects ext host path i' item' endpoint' → i' = i ∧ item' = item

variable (ext) in
/-- No path declared for the host is empty. -/
def World.PathsGiven (w : World) (host : GoString) : Prop :=
  ∀ key ∈ hostKeys host, ∀ i item pathType endpoint,
    w.Declares ext key i item pathType endpoint → item.path ≠ []

theorem pathsGiven_of_tenants (h : w.SameTenants w' host) (hpaths : w.PathsGiven ext host) :
    w'.PathsGiven ext host := by
  intro key hkey i item pathType endpoint hd
  exact hpaths key hkey i item pathType endpoint ((declares_iff h hkey).mp hd)

section

variable (hw : ServedInv ext env w) (hrest : w.AtRest) {vs : List EntryVisit}
  (hvs : Visits w.cluster.sys.state.ingresses vs)

include hw hrest hvs

/-- A host no key serves is not found. -/
theorem lookupHost_of_unserved {rc : RoutingConfig}
    (hhosts : rc.hosts = hostsOf (vs.flatMap visitRoutes))
    (hnone : ∀ key, ¬ w.ServesHost ext host key) : rc.lookupHost host = none := by
  cases hlook : rc.lookupHost host with
  | none => rfl
  | some hc =>
      obtain ⟨key, hkey, _⟩ := exists_serves hw hrest hvs hhosts hlook
      exact absurd hkey (hnone key)

/-- The lookup under the key that serves the host returns, with a route exactly if a declared
path covers the request's. -/
theorem lookup_of_serves (hpaths : w.PathsGiven ext host) (hkey : w.ServesHost ext host key)
    (path : GoString) :
    ∃ route?, (addRoutes (routesAt key (vs.flatMap visitRoutes))).lookupRoute path = .ok route?
      ∧ (route? = none ↔ ∀ i item pathType endpoint,
          w.Declares ext key i item pathType endpoint → ¬ pathType.Covers item.path path) := by
  by_cases hnone : ∀ i item pathType endpoint,
      w.Declares ext key i item pathType endpoint → ¬ pathType.Covers item.path path
  · exact ⟨none, lookup_uncovered hw hrest hvs hnone, iff_of_true rfl hnone⟩
  · obtain ⟨i, item, pathType, endpoint, hd, hcovers⟩ : ∃ i item pathType endpoint,
        w.Declares ext key i item pathType endpoint ∧ pathType.Covers item.path path := by
      push Not at hnone
      exact hnone
    obtain ⟨route, hroute⟩ := lookup_covered hw hrest hvs hd hcovers
      (hpaths key (mem_of_servesHost hkey))
    exact ⟨some route, hroute, iff_of_false (fun h => by cases h) hnone⟩

end

section

variable (hw : ServedInv ext env w) (hrest : w.AtRest) (hw' : ServedInv ext env w')
  (hrest' : w'.AtRest) {vs vs' : List EntryVisit}
  (hvs : Visits w.cluster.sys.state.ingresses vs)
  (hvs' : Visits w'.cluster.sys.state.ingresses vs')

include hw hrest hw' hrest' hvs hvs'

/-- **The same route is found under the key of the host.** -/
theorem lookupRoute_of_tenants (h : w.SameTenants w' host) (hpaths : w.PathsGiven ext host)
    {path : GoString} (hone : w.Uncontested ext host path) (hkey : w.ServesHost ext host key) :
    (addRoutes (routesAt key (vs'.flatMap visitRoutes))).lookupRoute path
      = (addRoutes (routesAt key (vs.flatMap visitRoutes))).lookupRoute path := by
  have hmem := mem_of_servesHost hkey
  have hkey' := (servesHost_of_tenants h).mpr hkey
  obtain ⟨route?, hroute, hnone⟩ := lookup_of_serves hw hrest hvs hpaths hkey path
  obtain ⟨route?', hroute', hnone'⟩ :=
    lookup_of_serves hw' hrest' hvs' (pathsGiven_of_tenants h hpaths) hkey' path
  simp only [declares_iff h hmem] at hnone'
  rw [hroute, hroute']
  cases route? with
  | none => rw [hnone'.mpr (hnone.mp rfl)]
  | some r =>
      cases route?' with
      | none => exact absurd (hnone.mpr (hnone'.mp rfl)) (Option.some_ne_none r)
      | some r' =>
          -- each of the two is the route of a declared path that serves the request
          obtain ⟨i, item, hselects, hnow⟩ := selects_of_lookup hw hrest hvs hkey hroute
          obtain ⟨i', item', hselects', hnow'⟩ := selects_of_lookup hw' hrest' hvs' hkey' hroute'
          obtain ⟨rfl, rfl⟩ := hone i item _ i' item' _ hselects (selects_of_tenants h hselects')
          obtain ⟨key₀, _, hkey₀, hd, _, _⟩ := hselects
          have hobjects := h.objects key₀ (mem_of_servesHost hkey₀) i' (tenant_of_declares hd)
          rw [routeNow_unique hobjects hnow hnow']

/-- **A request for the host finds the same route.** -/
theorem sameRoute_of_tenants {rc rc' : RoutingConfig}
    (hhosts : rc.hosts = hostsOf (vs.flatMap visitRoutes))
    (hhosts' : rc'.hosts = hostsOf (vs'.flatMap visitRoutes)) (h : w.SameTenants w' host)
    (hpaths : w.PathsGiven ext host) {r : Request} (hhost : ext.idnaToASCII r.host = .ok host)
    (hone : w.Uncontested ext host r.url.path) : SameRoute ext r rc rc' := by
  intro host' hidna
  rw [hhost] at hidna
  cases hidna
  by_cases hserves : ∃ key, w.ServesHost ext host key
  · obtain ⟨key, hkey⟩ := hserves
    rw [lookupHost_of_serves hw hrest hvs hhosts hkey,
      lookupHost_of_serves hw' hrest' hvs' hhosts' ((servesHost_of_tenants h).mpr hkey),
      Option.map_some, Option.map_some,
      lookupRoute_of_tenants hw hrest hw' hrest' hvs hvs' h hpaths hone hkey]
  · rw [not_exists] at hserves
    rw [lookupHost_of_unserved hw hrest hvs hhosts hserves,
      lookupHost_of_unserved hw' hrest' hvs' hhosts' fun key hkey =>
        hserves key ((servesHost_of_tenants h).mp hkey)]

end

/-- **A host is served by its tenants.**  Let two clusters be at rest, each after an
undisturbed run of its own.  Let the relevant ingresses that declare a path for the keys of a
host be the same, configured under the same configuration and with the same Services and
Secrets in their namespaces; let none of these paths be empty and at most one serve the
request's; let request middlewares, trusted proxies and error page be equal.  Then a request
for that host is served alike in both: the same response, and the same requests to the same
upstreams.  What other ingresses, namespaces and hosts there are makes no difference. -/
theorem host_isolated {out : Outcomes} {metrics : Option Metrics} {ls ls' : List WorldLabel}
    (h : Run (UndisturbedStep ext env) (World.initial env) ls w) (hrest : w.AtRest)
    (h' : Run (UndisturbedStep ext env) (World.initial env) ls' w') (hrest' : w'.AtRest)
    {r : Request} (hhost : ext.idnaToASCII r.host = .ok host) (htenants : w.SameTenants w' host)
    (hpaths : w.PathsGiven ext host) (hone : w.Uncontested ext host r.url.path)
    {rc rc' : RoutingConfig} (hstored : w.cluster.sys.stored = some rc)
    (hstored' : w'.cluster.sys.stored = some rc')
    (hmiddlewares : rc'.requestMiddlewares = rc.requestMiddlewares)
    (htrusted : rc'.trustedProxies = rc.trustedProxies) (hpage : rc'.errorPage = rc.errorPage) :
    SameServed r rc rc' (serveHTTP ext out metrics w.cluster.sys.stored r)
      (serveHTTP ext out metrics w'.cluster.sys.stored r) := by
  have hw := servedInv_of_run h
  have hw' := servedInv_of_run h'
  obtain ⟨vs, rc₀, hvs, hbuilt, hhosts, _⟩ := built_of_quiet hw hrest.quiet
  obtain ⟨vs', rc₀', hvs', hbuilt', hhosts', _⟩ := built_of_quiet hw' hrest'.quiet
  rw [hstored] at hbuilt ⊢
  rw [hstored'] at hbuilt' ⊢
  cases hbuilt
  cases hbuilt'
  exact served_by_route ⟨sameRoute_of_tenants hw hrest hw' hrest' hvs hvs' hhosts hhosts' htenants
    hpaths hhost hone, hmiddlewares, htrusted, hpage⟩

end

/-! ## §4. Another host, and a secret elsewhere. -/

/-- A secret is created in another namespace. -/
def foreignSecretCreated : ObjectEvent := .secret ⟨lit "other", lit "x"⟩ (some ⟨∅⟩)

def Store.beside : Store := Store.small.apply foreignSecretCreated

def foreignName : NamespacedName := ⟨lit "ns", lit "b"⟩

/-- The ingress `ns/b` for `b.org`, without a check. -/
def foreignIngress : Ingress :=
  Ingress.small (lit "b") ∅
    [⟨lit "b.org", some [⟨lit "/", some .exact, some ⟨lit "svc", ⟨lit "http", 0⟩⟩⟩]⟩] []

def foreignRoute : RouteConfig := { openRoute 4096 with ingressName := lit "ns/b" }

def foreignConfiguration : IngressConfiguration :=
  { openConfiguration 4096 with hosts := hostsOf [(lit "b.org", foreignRoute)] }

theorem reconcileIngress_foreign :
    reconcileIngress Ext.small (Store.beside.api Ext.small) (smallConf 4096) foreignIngress
      = .ok foreignConfiguration := by
  refine reconcileIngress_again (small_standard 4096)
    (show reconcileIngress Ext.small Api.small (smallConf 4096) foreignIngress
      = .ok foreignConfiguration from rfl) ⟨?_, ?_⟩
  · intro n hn s hs
    rw [List.mem_singleton.mp hn] at hs ⊢
    exact getService_small.trans hs
  · intro n hn
    cases hn

/-- The small system once the foreign ingress is configured too. -/
def Sys.beside (cfg₀ : RoutingConfig) : Sys :=
  { (Sys.small cfg₀).published smallTable with
    state := (Sys.small cfg₀).state.updateIngress ⟨foreignIngress, some foreignConfiguration⟩
    confOf := fun m => if m = foreignName then some (smallConf 4096)
      else (Sys.small cfg₀).confOf m }.requestReconfigure

theorem beside_from_store (cfg₀ : RoutingConfig) :
    ((Sys.small cfg₀).published smallTable).reconcileIngress Ext.small (Store.beside.api Ext.small)
      foreignName (some foreignIngress) = Sys.beside cfg₀ :=
  reconcileIngress_configured rfl (small_state cfg₀).1 reconcileIngress_foreign

/-- The visit of the foreign ingress. -/
def foreignVisit : EntryVisit where
  name := foreignName
  entry := ⟨foreignIngress, some foreignConfiguration⟩
  hosts := [(lit "b.org", addRoutes [foreignRoute])]
  tls := []
  hosts_order := fun cfg h => by
    cases h
    exact GoMap.ranges_insert_empty _ _
  tls_order := fun cfg h => by
    cases h
    exact GoMap.ranges_empty

/-- The table with the routes of both ingresses. -/
def besideTable : RoutingConfig :=
  { smallTable with hosts := hostsOf [(lit "a.org", smallRoute 4096), (lit "b.org", foreignRoute)] }

/-- The small world with the secret and the foreign ingress, once its table is published. -/
def World.servedBeside (cfg₀ : RoutingConfig) : World :=
  { World.served cfg₀ with
    cluster := { (World.served cfg₀).cluster.apply foreignIngress with
      sys := (Sys.beside cfg₀).published besideTable
      queue := [] }
    store := Store.beside }

/-- No entry has recorded the secret, so its handler enqueues nothing; the ingress is reconciled
and the table rebuilt. -/
theorem servedBeside_run : ∃ ls ls' cfg₀,
    Run SmallWorldStep (World.initial smallEnv) ls (World.served cfg₀)
      ∧ Run SmallWorldStep (World.initial smallEnv) ls' (World.servedBeside cfg₀) := by
  obtain ⟨ls, cfg₀, hrun⟩ := served_run
  have horder : GoMap.Ranges (Sys.small cfg₀).state.ingresses
      [(smallName, ⟨smallIngress, some (smallConfiguration 4096)⟩)] := by
    rw [(small_state cfg₀).2]
    exact GoMap.ranges_insert_empty _ _
  let w₁ : World := { World.served cfg₀ with store := Store.beside }
  have hhandle : SmallWorldStep ((World.served cfg₀).change foreignSecretCreated)
      (.handle .secret ⟨lit "other", lit "x"⟩
        [(smallName, ⟨smallIngress, some (smallConfiguration 4096)⟩)]) w₁ :=
    ⟨.handle rfl (List.mem_singleton.mpr rfl) horder, trivial, trivial⟩
  have hsecret : Run SmallWorldStep (World.served cfg₀) _ w₁ :=
    .cons ⟨.change _ foreignSecretCreated, trivial, trivial⟩ (.single hhandle)
  obtain ⟨ls₂, happlied⟩ : ∃ ls, Run SmallWorldStep w₁ ls _ :=
    applied_run (w := w₁) (i := foreignIngress) rfl rfl rfl rfl
      (small_state cfg₀).1 reconcileIngress_foreign
  have hsys : w₁.cluster.sys.reconcileIngress Ext.small (w₁.store.api Ext.small)
      (objectMetaToNamespaced foreignIngress) (some foreignIngress) = Sys.beside cfg₀ :=
    beside_from_store cfg₀
  rw [hsys] at happlied
  have hvs : Visits (Sys.beside cfg₀).state.ingresses [smallVisit, foreignVisit] :=
    horder.insert ((congrArg (Finmap.lookup foreignName) (small_state cfg₀).2).trans
      ((Finmap.lookup_insert_of_ne _ (by decide)).trans (Finmap.lookup_empty _))) _
  have hwaiting : (Sys.beside cfg₀).Waiting := ⟨pending_requestReconfigure _, rfl, rfl, true, rfl⟩
  have hcfg : getProxyConfig (Sys.beside cfg₀).state [smallVisit, foreignVisit] = .ok besideTable :=
    rfl
  have hpublish : Run SmallWorldStep
      { w₁ with cluster := { w₁.cluster.apply foreignIngress with
        sys := Sys.beside cfg₀, queue := [] } } _ (World.servedBeside cfg₀) :=
    Run.inWorld (Run.inCluster (fun _ _ => ⟨rfl, by simp, trivial⟩)
      (publish_run hwaiting hvs hcfg) (by simp [serveRequest, handOver, Label.internal])
      { w₁.cluster.apply foreignIngress with sys := Sys.beside cfg₀, queue := [] } rfl) _ rfl
  exact ⟨ls, _, cfg₀, hrun, hrun.append (hsecret.append (happlied.append hpublish))⟩

theorem servedBeside_atRest (cfg₀ : RoutingConfig) : (World.servedBeside cfg₀).AtRest :=
  ⟨⟨⟨rfl, rfl, rfl, rfl⟩, rfl, rfl⟩, ⟨rfl, rfl, rfl, fun _ _ h => by cases h⟩⟩

/-- What the ingresses of the larger world are. -/
theorem servedBeside_lookup {cfg₀ : RoutingConfig} {n : NamespacedName} {i : Ingress} :
    (World.servedBeside cfg₀).cluster.ingresses.lookup n = some i
      ↔ n = foreignName ∧ i = foreignIngress ∨ n ≠ foreignName
        ∧ (World.served cfg₀).cluster.ingresses.lookup n = some i := by
  show ((World.served cfg₀).cluster.ingresses.insert foreignName foreignIngress).lookup n
    = some i ↔ _
  rw [GoMap.lookup_insert_eq]
  split_ifs with hn
  · simp [hn, eq_comm]
  · simp [hn]

/-- The foreign ingress is no tenant of `a.org`, and the secret is in another namespace. -/
theorem servedBeside_tenants (cfg₀ : RoutingConfig) :
    (World.served cfg₀).SameTenants (World.servedBeside cfg₀) (lit "a.org") where
  tenant := by
    intro key hkey i
    constructor
    · intro h
      rcases servedBeside_lookup.mp h.current with ⟨_, rfl⟩ | ⟨_, hcurrent⟩
      · -- it declares `b.org` only
        obtain ⟨item, hitem⟩ := h.declares
        have hforeign : (key, item) ∈ [(lit "b.org", _)] := hitem
        cases List.mem_singleton.mp hforeign
        exact absurd hkey (by decide)
      · exact ⟨hcurrent, h.relevant, h.declares⟩
    · intro h
      refine ⟨servedBeside_lookup.mpr (Or.inr ⟨?_, h.current⟩), h.relevant, h.declares⟩
      rw [(served_lookup h.current).1]
      decide
  objects := by
    intro key _ i hi
    obtain ⟨_, rfl⟩ := served_lookup hi.current
    refine ⟨rfl, fun _ => rfl, fun name => ?_⟩
    refine Finmap.lookup_insert_of_ne _ fun heq => ?_
    have hns : lit "ns" = lit "other" := congrArg NamespacedName.namesp heq
    exact absurd hns (by decide)

/-- A request for `a.org/` is served as before, by the service of the small ingress. -/
theorem host_isolated_small : ∃ out ls ls' w w' rc rc',
    Run SmallWorldStep (World.initial smallEnv) ls w ∧ w.AtRest
      ∧ Run SmallWorldStep (World.initial smallEnv) ls' w' ∧ w'.AtRest
      ∧ w.store.secrets.lookup ⟨lit "other", lit "x"⟩ = none
      ∧ w'.store.secrets.lookup ⟨lit "other", lit "x"⟩ = some ⟨∅⟩
      ∧ w.cluster.ingresses.lookup foreignName = none
      ∧ w'.cluster.ingresses.lookup foreignName = some foreignIngress
      ∧ (∃ hc, rc'.hosts.lookup (lit "b.org") = some hc ∧ foreignRoute ∈ hc.routes)
      ∧ SameServed (smallRequest (lit "a.org") (lit "/")) rc rc'
          (serveHTTP Ext.small out (some Metrics.utf8) w.cluster.sys.stored
            (smallRequest (lit "a.org") (lit "/")))
          (serveHTTP Ext.small out (some Metrics.utf8) w'.cluster.sys.stored
            (smallRequest (lit "a.org") (lit "/"))) := by
  obtain ⟨headerOrder⟩ := (inferInstance : Nonempty (GoMap.RangeChoice GoString (List GoString)))
  obtain ⟨ls, ls', cfg₀, hrun, hrun'⟩ := servedBeside_run
  refine ⟨Outcomes.small headerOrder, ls, ls', _, _, smallTable, besideTable, hrun,
    served_atRest cfg₀, hrun', servedBeside_atRest cfg₀, Finmap.lookup_empty _,
    Finmap.lookup_insert _, ?_, Finmap.lookup_insert _, ⟨_, rfl, List.mem_cons_self⟩, ?_⟩
  · exact (Finmap.lookup_insert_of_ne _ (by decide)).trans (Finmap.lookup_empty _)
  refine host_isolated hrun (served_atRest cfg₀) hrun' (servedBeside_atRest cfg₀) rfl
    (servedBeside_tenants cfg₀) ?_ ?_ rfl rfl rfl rfl rfl
  · intro key _ i item pathType endpoint hd
    obtain ⟨_, rfl, _⟩ := served_declares hd
    decide
  · rintro i item endpoint i' item' endpoint' ⟨_, _, _, hd, _, _⟩ ⟨_, _, _, hd', _, _⟩
    obtain ⟨rfl, rfl, _⟩ := served_declares hd
    obtain ⟨rfl, rfl, _⟩ := served_declares hd'
    exact ⟨rfl, rfl⟩

end SIngress.Controller
