/-
  SIngress.Controller.EndToEnd — FROM THE CLUSTER'S OBJECTS TO A REQUEST.

  At rest after an undisturbed run (`Undisturbed`) the proxy answers by the
  objects of the cluster:

    • `contact_admitted` — a request reaches an upstream only if an ingress that
      exists and is relevant declares a path that covers the request's, under the
      host key that serves its host; the upstream is where that path's Service is
      now; and the request passes every check that the annotations and Secrets
      of the ingress ask for now,
    • `answered_by_declarations` — where no declared path covers the request it is
      answered 404 and reaches nobody; where one does, it is routed.
-/
import SIngress.Controller.Mediation
import SIngress.Controller.ServedTable
import SIngress.Proxy.Reach

namespace SIngress.Controller

open SIngress.Base SIngress.Lib SIngress.K8s SIngress.Platform SIngress.Config SIngress.Proxy
open SIngress.Modules

section

variable {ext : Ext} {out : Outcomes} {env : ControllerEnvConf} {w : World}

/-! ## §1. The declared path that serves a request. -/

variable (ext) in
/-- A path is declared for the host key. -/
def World.Names (w : World) (key : GoString) : Prop :=
  ∃ i item pathType endpoint, w.Declares ext key i item pathType endpoint

variable (ext) in
/-- The key that serves a host: the first one a path is declared for. -/
def World.ServesHost (w : World) (host key : GoString) : Prop :=
  ∃ before after, hostKeys host = before ++ key :: after ∧ w.Names ext key
    ∧ ∀ k ∈ before, ¬ w.Names ext k

variable (ext) in
/-- `item` of the ingress `i` serves the path under the host: it covers it, and nothing that
is declared for the same key and covers it goes before it. -/
def World.Selects (w : World) (host path : GoString) (i : Ingress) (item : HTTPIngressPath)
    (endpoint : AddrPort) : Prop :=
  ∃ key pathType, w.ServesHost ext host key ∧ w.Declares ext key i item pathType endpoint
    ∧ pathType.Covers item.path path
    ∧ ∀ i' item' pathType' endpoint', w.Declares ext key i' item' pathType' endpoint' →
      pathType'.Covers item'.path path → ¬ pathType'.Precedes item'.path pathType item.path

/-! ## §2. Lookups at rest. -/

section

variable (hw : ServedInv ext env w) (hrest : w.AtRest) {vs : List EntryVisit}
  (hvs : Visits w.cluster.sys.state.ingresses vs)

include hw hrest hvs

theorem names_iff (key : GoString) :
    w.Names ext key ↔ routesAt key (vs.flatMap visitRoutes) ≠ [] := by
  rw [List.ne_nil_iff_exists_cons]
  constructor
  · rintro ⟨i, item, pathType, endpoint, hd⟩
    obtain ⟨r, hr, _, _⟩ := route_of_declared hw hrest hvs hd
    rw [mem_routesUnder_hostsOf, ← mem_routesAt] at hr
    exact List.exists_cons_of_ne_nil (List.ne_nil_of_mem hr)
  · rintro ⟨r, l, hrl⟩
    have hr : r ∈ routesUnder (hostsOf (vs.flatMap visitRoutes)) key := by
      rw [mem_routesUnder_hostsOf, ← mem_routesAt, hrl]
      exact List.mem_cons_self
    obtain ⟨i, item, hd, _, _⟩ := declared_of_route hw hrest hvs hr
    exact ⟨i, item, _, _, hd⟩

theorem lookup_of_names {key : GoString} (h : w.Names ext key) :
    (hostsOf (vs.flatMap visitRoutes)).lookup key
      = some (addRoutes (routesAt key (vs.flatMap visitRoutes))) := by
  rw [lookup_hostsOf, if_neg ((names_iff hw hrest hvs key).mp h)]

theorem lookup_of_not_names {key : GoString} (h : ¬ w.Names ext key) :
    (hostsOf (vs.flatMap visitRoutes)).lookup key = none := by
  rw [lookup_hostsOf, if_pos (not_not.mp fun hne => h ((names_iff hw hrest hvs key).mpr hne))]

theorem lookupHost_of_serves {rc : RoutingConfig}
    (hhosts : rc.hosts = hostsOf (vs.flatMap visitRoutes)) {host key : GoString}
    (h : w.ServesHost ext host key) :
    rc.lookupHost host = some (addRoutes (routesAt key (vs.flatMap visitRoutes))) := by
  obtain ⟨before, after, hkeys, hnames, hbefore⟩ := h
  rw [lookupHost_eq_findSome, List.findSome?_eq_some_iff]
  refine ⟨before, key, after, hkeys, ?_, fun k hk => ?_⟩
  · rw [hhosts]
    exact lookup_of_names hw hrest hvs hnames
  · rw [hhosts]
    exact lookup_of_not_names hw hrest hvs (hbefore k hk)

/-- A host that is found is served by a key. -/
theorem exists_serves {rc : RoutingConfig} (hhosts : rc.hosts = hostsOf (vs.flatMap visitRoutes))
    {host : GoString} {hc : HostConfig} (h : rc.lookupHost host = some hc) :
    ∃ key, w.ServesHost ext host key ∧ hc = addRoutes (routesAt key (vs.flatMap visitRoutes)) := by
  rw [lookupHost_eq_findSome, List.findSome?_eq_some_iff] at h
  obtain ⟨before, key, after, hkeys, hlook, hbefore⟩ := h
  have hnames : w.Names ext key := by
    by_contra hnot
    rw [hhosts, lookup_of_not_names hw hrest hvs hnot] at hlook
    cases hlook
  refine ⟨key, ⟨before, after, hkeys, hnames, fun k hk hk' => ?_⟩, ?_⟩
  · have hnone := hbefore k hk
    rw [hhosts, lookup_of_names hw hrest hvs hk'] at hnone
    cases hnone
  · rw [hhosts, lookup_of_names hw hrest hvs hnames] at hlook
    exact (Option.some.inj hlook).symm

theorem typed_of_routesAt {key : GoString} :
    ∀ r ∈ routesAt key (vs.flatMap visitRoutes), r.Typed := by
  intro r hr
  rw [mem_routesAt, ← mem_routesUnder_hostsOf] at hr
  obtain ⟨i, item, hd, _, _⟩ := declared_of_route hw hrest hvs hr
  exact typed_of_mapPathType hd.pathType

/-- A path that nothing covers under the key has no route there. -/
theorem lookup_uncovered {key path : GoString}
    (hnone : ∀ i item pathType endpoint, w.Declares ext key i item pathType endpoint →
      ¬ pathType.Covers item.path path) :
    (addRoutes (routesAt key (vs.flatMap visitRoutes))).lookupRoute path = .ok none := by
  refine (lookupRoute_none (typed_of_routesAt hw hrest hvs)).mpr fun route hmem => ?_
  rw [mem_routesAt, ← mem_routesUnder_hostsOf] at hmem
  obtain ⟨i, item, hd, hpath, _⟩ := declared_of_route hw hrest hvs hmem
  rw [← hpath]
  exact hnone i item _ _ hd

/-- One that is covered has a route, if no path declared for the key is empty. -/
theorem lookup_covered {key path : GoString} {i : Ingress} {item : HTTPIngressPath}
    {pathType : Proxy.PathType} {endpoint : AddrPort}
    (hd : w.Declares ext key i item pathType endpoint) (hcovers : pathType.Covers item.path path)
    (hpaths : ∀ i item pathType endpoint, w.Declares ext key i item pathType endpoint →
      item.path ≠ []) :
    ∃ route, (addRoutes (routesAt key (vs.flatMap visitRoutes))).lookupRoute path
      = .ok (some route) := by
  have htyped : ∀ route ∈ routesAt key (vs.flatMap visitRoutes), route.Typed :=
    typed_of_routesAt hw hrest hvs
  obtain ⟨route?, hroute⟩ := lookupRoute_returns htyped path fun route hmem => by
    rw [mem_routesAt, ← mem_routesUnder_hostsOf] at hmem
    obtain ⟨i', item', hd', hpath', _⟩ := declared_of_route hw hrest hvs hmem
    rw [← hpath']
    exact hpaths i' item' _ _ hd'
  cases route? with
  | some route => exact ⟨route, hroute⟩
  | none =>
      -- the route of the declared path would have been found
      obtain ⟨r', hr', hpath', rfl⟩ := route_of_declared hw hrest hvs hd
      rw [mem_routesUnder_hostsOf, ← mem_routesAt] at hr'
      refine absurd ?_ ((lookupRoute_none htyped).mp hroute r' hr')
      rw [hpath']
      exact hcovers

/-- **The route a lookup finds** is the route of a declared path that serves the request. -/
theorem selects_of_lookup {host key path : GoString} (hkey : w.ServesHost ext host key)
    {route : RouteConfig}
    (h : (addRoutes (routesAt key (vs.flatMap visitRoutes))).lookupRoute path
      = .ok (some route)) :
    ∃ i item, w.Selects ext host path i item route.endpoint
      ∧ w.RouteNow ext i (key, item) route := by
  obtain ⟨hmem, hcovers, hmax⟩ := lookupRoute_some (typed_of_routesAt hw hrest hvs) h
  rw [mem_routesAt, ← mem_routesUnder_hostsOf] at hmem
  obtain ⟨i, item, hd, hpath, hroute⟩ := declared_of_route hw hrest hvs hmem
  refine ⟨i, item, ⟨key, route.pathType, hkey, hd, by rw [hpath]; exact hcovers, ?_⟩, hroute⟩
  intro i' item' pathType' endpoint' hd' hcovers'
  obtain ⟨r', hr', hpath', rfl⟩ := route_of_declared hw hrest hvs hd'
  rw [mem_routesUnder_hostsOf, ← mem_routesAt] at hr'
  rw [hpath, ← hpath']
  exact hmax r' hr' (by rw [hpath']; exact hcovers')

end

/-! ## §3. Requests that reach an upstream. -/

/-- A context no upstream was reached from yet: a contact made by `handleHttp` is the one of
the chain of the route. -/
theorem handleHttp_contact {c : RequestContext} (hfresh : c.upstreamContacts = [])
    {contact : Contact} (h : contact ∈ (handleHttp ext out c).2.upstreamContacts) :
    ∃ route, RoutedTo ext c route ∧ contact.endpoint = route.endpoint
      ∧ contact ∈ (callMiddleware ext out route.middlewares (proxy ext out)
          (prepareUpstream ext route c)).2.upstreamContacts := by
  have hnobody : ∀ status msg,
      contact ∉ (handleErrorPage ext out status msg c).2.upstreamContacts := by
    intro status msg hmem
    rw [(handleErrorPage_responds ext out status msg).contacts c, hfresh] at hmem
    cases hmem
  by_cases hrouted : ∃ route, RoutedTo ext c route
  · obtain ⟨route, hrouted⟩ := hrouted
    rw [handleHttp_of_routed ext out hrouted] at h
    by_cases hvalid : UpstreamRequestValid ext c.r
    · rw [proxyRoute_of_valid ext out hvalid] at h
      have hendpoint := @chain_endpoint ext out route.middlewares (prepareUpstream ext route c) route
        rfl rfl hfresh contact h
      exact ⟨route, hrouted, hendpoint, h⟩
    · rw [proxyRoute_of_invalid ext out hvalid, hfresh] at h
      cases h
  · -- without a route the answer is an error page, or a panic
    exfalso
    simp only [handleHttp, get_bind_run] at h
    cases hidna : ext.idnaToASCII c.r.host with
    | error err =>
        rw [hidna] at h
        exact hnobody _ _ h
    | ok host =>
        rw [hidna] at h
        dsimp only at h
        cases hlook : c.routingConfig.lookupHost host with
        | none =>
            rw [hlook] at h
            exact hnobody _ _ h
        | some hc =>
            rw [hlook] at h
            simp only [handleHost, get_bind_run] at h
            cases hroute : hc.lookupRoute c.r.url.path with
            | error f =>
                rw [hroute] at h
                have hmem : contact ∈ c.upstreamContacts := h
                rw [hfresh] at hmem
                cases hmem
            | ok route? =>
                cases route? with
                | none =>
                    rw [hroute] at h
                    exact hnobody _ _ h
                | some route => exact hrouted ⟨route, host, hc, hidna, hlook, hroute⟩

/-- A chain of the standard modules that reached an upstream let the request pass. -/
theorem passes_of_contact {conf : ControllerConf} (hconf : StandardConf ext conf) {api : Api}
    {ingress : Ingress} {used used' : List NamespacedName} {ms : List Middleware}
    (hms : getMiddlewares api ingress conf.modules used = .ok (ms, used')) {c : RequestContext}
    {route : RouteConfig} (hreq : c.upstreamRequest.isSome = true)
    (hroute : c.matchedRoute = some route) (hfresh : c.upstreamContacts = []) {contact : Contact}
    (h : contact ∈ (callMiddleware ext out ms (proxy ext out) c).2.upstreamContacts) :
    ∀ m ∈ ms, m.Passes ext out c.r c.realIp := by
  obtain ⟨d, configs, clients, domains, hmodules⟩ := hconf
  rw [hmodules] at hms
  obtain ⟨checks, headers, used₁, rfl, hischeck, hrun⟩ := getMiddlewares_standard hms
  have hheaders := getMiddlewares_headers hrun
  have hchain := chain_contacts ext out (fun m hm => (hischeck m hm).filters) hheaders hreq hroute
  intro m hm
  rcases List.mem_append.mp hm with hcheck | hrest
  · by_contra hfail
    rw [hchain.2 ⟨m, hcheck, hfail⟩, hfresh] at h
    cases h
  · rcases List.mem_cons.mp hrest with rfl | hheader
    · trivial
    · obtain ⟨lines, rfl | rfl⟩ := hheaders m hheader
      · trivial
      · trivial

/-- **Nobody is reached but by the cluster's leave.**  At rest after an undisturbed run
(`Undisturbed`): a request that reaches an upstream is covered by a path that a relevant
ingress declares now, of the priority that is due; the upstream is where the Service of that
path is now; and the request passes every middleware that the ingress's annotations and Secrets
ask for now, under the configuration of the ingress's last successful reconcile. -/
theorem contact_admitted {ls : List WorldLabel}
    (h : Run (UndisturbedStep ext env) (World.initial env) ls w) (hrest : w.AtRest) {r : Request}
    {metrics : Option Metrics} {result : Except Fail Unit} {c : RequestContext}
    (hserved : serveHTTP ext out metrics w.cluster.sys.stored r = .finished result c)
    {contact : Contact} (hcontact : contact ∈ c.upstreamContacts) :
    ∃ rc remoteIp host i item ms, w.cluster.sys.stored = some rc
      ∧ ext.parseAddrPort r.remoteAddr = .ok remoteIp ∧ ext.idnaToASCII r.host = .ok host
      ∧ w.Selects ext host r.url.path i item contact.endpoint ∧ w.Guards ext i ms
      ∧ ∀ m ∈ ms, m.Passes ext out r (realIpOf ext rc remoteIp r) := by
  have hw := servedInv_of_run h
  obtain ⟨vs, rc, hvs, hstored, hhosts, hhooks⟩ := built_of_quiet hw hrest.quiet
  rw [hstored] at hserved ⊢
  cases hpeer : ext.parseAddrPort r.remoteAddr with
  | error err =>
      unfold serveHTTP at hserved
      rw [hpeer] at hserved
      cases hserved
  | ok remoteIp =>
      rw [serveHTTP_some ext out hpeer] at hserved
      cases hserved
      rw [recoverError_contacts] at hcontact
      have hcontact : contact ∈ (serveChain ext out rc remoteIp r).2.upstreamContacts := hcontact
      by_cases hall : ∀ m ∈ rc.requestMiddlewares, m.Continues ext out r (realIpOf ext rc remoteIp r)
      · obtain ⟨c', hon, _, hrun⟩ := @serveChain_continues ext out rc remoteIp r hhooks hall
        obtain ⟨hr, _, _, _, hreal, _, _, hconf, hcontacts⟩ := hon.fields
        rw [hrun] at hcontact
        obtain ⟨route, ⟨host, hc, hidna, hlook, hroute⟩, hendpoint, hchain⟩ :=
          handleHttp_contact hcontacts hcontact
        rw [hr] at hidna hroute
        rw [hconf] at hlook
        obtain ⟨key, hkey, rfl⟩ := exists_serves hw hrest hvs hhosts hlook
        obtain ⟨i, item, hselects, hnow⟩ := selects_of_lookup hw hrest hvs hkey hroute
        have hguards := guards_of_routeNow hnow
        refine ⟨rc, remoteIp, host, i, item, route.middlewares, rfl, rfl, hidna, ?_, hguards, ?_⟩
        · rw [hendpoint]
          exact hselects
        · obtain ⟨conf, used, used', _, hstandard, hms⟩ := hguards
          have hpasses := passes_of_contact hstandard hms (c := prepareUpstream ext route c')
            rfl rfl hcontacts hchain
          intro m hm
          have hpass : m.Passes ext out c'.r c'.realIp := hpasses m hm
          rw [hr, hreal] at hpass
          exact hpass
      · -- a request middleware answered
        obtain ⟨c', huntouched, _, hanswered⟩ := @serveChain_answered ext out rc remoteIp r hhooks hall
        rw [hanswered.contacts, huntouched.contacts] at hcontact
        cases hcontact

/-! ## §4. Requests that nothing covers. -/

theorem handleErrorPage_status {status : Int} (h : 100 ≤ status ∧ status ≤ 999) (msg : GoString)
    (c : RequestContext) :
    (handleErrorPage ext out status msg c).2.w.writtenStatusCode = status := by
  have hrecorded := @handleErrorPage_recorded ext out status h msg c trivial
  rcases hrun : handleErrorPage ext out status msg c with ⟨e | a, c'⟩
  · rw [hrun] at hrecorded
    exact hrecorded
  · rw [hrun] at hrecorded
    exact hrecorded

/-- An error page is left as it is by the end of `ServeHTTP`. -/
theorem recoverError_errorPage {status : Int} (hstatus : 100 ≤ status ∧ status ≤ 999)
    {msg : GoString} {m : Serve Unit} {c c₁ : RequestContext}
    (hrun : m c = handleErrorPage ext out status msg c₁) :
    ∃ c₂, recoverError ext out m c = (.ok (), c₂) ∧ c₂.w.writtenStatusCode = status
      ∧ c₂.settled = c₁.settled := by
  have hwritten := @handleErrorPage_status ext out status hstatus msg c₁
  have hsettled := handleErrorPage_responds ext out status msg c₁
  have hanswered : Answered c₁ (handleErrorPage ext out status msg c₁) :=
    handleErrorPage_answers ext out hstatus msg c₁ c₁ (unwritten_refl c₁)
  rcases hpage : handleErrorPage ext out status msg c₁ with ⟨result, c₂⟩
  rw [hpage] at hwritten hsettled hanswered hrun
  have hresult : result = .ok () ∨ ∃ err, result = .error (.err err) := by
    cases result with
    | ok u => exact Or.inl rfl
    | error e =>
        obtain ⟨⟨err, rfl⟩, _⟩ := hanswered
        exact Or.inr ⟨err, rfl⟩
  have hrecorded : c₂.w.writtenStatusCode ≠ 0 := by
    dsimp only at hwritten
    omega
  exact ⟨c₂, recoverError_written hrun hresult hrecorded, hwritten, hsettled⟩

/-- **Declarations answer.**  At rest after an undisturbed run, let a request pass the request
middlewares.  If no path declared for the key of its host covers the request's path, and the
metrics, if there are any, accept its `Host`, the proxy answers 404 and reaches nobody.  If one
does, and none is empty, the request is routed to one that serves it, behind the middlewares of
its ingress. -/
theorem answered_by_declarations {ls : List WorldLabel}
    (h : Run (UndisturbedStep ext env) (World.initial env) ls w) (hrest : w.AtRest) {r : Request}
    {rc : RoutingConfig} (hstored : w.cluster.sys.stored = some rc) {remoteIp : AddrPort}
    (hpeer : ext.parseAddrPort r.remoteAddr = .ok remoteIp)
    (hpass : ∀ m ∈ rc.requestMiddlewares, m.Continues ext out r (realIpOf ext rc remoteIp r))
    {host : GoString} (hhost : ext.idnaToASCII r.host = .ok host) (metrics : Option Metrics) :
    ((∀ key i item pathType endpoint, w.ServesHost ext host key →
        w.Declares ext key i item pathType endpoint →
        ¬ pathType.Covers item.path r.url.path) →
      (∀ m, metrics = some m → m.validLabel r.host = true) →
      ∃ c, serveHTTP ext out metrics w.cluster.sys.stored r = .finished (.ok ()) c
        ∧ c.w.writtenStatusCode = 404 ∧ c.upstreamContacts = [])
    ∧ ((∃ key i item pathType endpoint, w.ServesHost ext host key
        ∧ w.Declares ext key i item pathType endpoint ∧ pathType.Covers item.path r.url.path) →
      (∀ key i item pathType endpoint, w.Declares ext key i item pathType endpoint →
        item.path ≠ []) →
      ∃ c route i item, Onward (newContext ext out rc remoteIp r) c
        ∧ serveChain ext out rc remoteIp r = proxyRoute ext out route c
        ∧ w.Selects ext host r.url.path i item route.endpoint
        ∧ w.Guards ext i route.middlewares) := by
  have hw := servedInv_of_run h
  obtain ⟨vs, rc', hvs, hstored', hhosts, hhooks⟩ := built_of_quiet hw hrest.quiet
  rw [hstored] at hstored'
  cases hstored'
  obtain ⟨c', hon, huntouched, hrun⟩ := @serveChain_continues ext out rc remoteIp r hhooks hpass
  obtain ⟨hr, _, _, _, _, hunrouted, _, hconf, _⟩ := hon.fields
  have hidna : ext.idnaToASCII c'.r.host = .ok host := by
    rw [hr]
    exact hhost
  constructor
  · intro hnone hlabel
    obtain ⟨msg, hpage⟩ : ∃ msg, handleHttp ext out c' = handleErrorPage ext out 404 msg c' := by
      refine handleHttp_unrouted ext out hidna fun hc hlook => ?_
      rw [hconf] at hlook
      obtain ⟨key, hkey, rfl⟩ := exists_serves hw hrest hvs hhosts hlook
      rw [hr]
      exact lookup_uncovered hw hrest hvs fun i item _ _ => hnone key i item _ _ hkey
    have hchain : callMiddleware ext out rc.requestMiddlewares (handleHttp ext out)
        (newContext ext out rc remoteIp r) = handleErrorPage ext out 404 msg c' := hrun.trans hpage
    obtain ⟨c₂, hrecover, hstatus, hsettled⟩ := recoverError_errorPage (by decide) hchain
    obtain ⟨hr₂, hroute₂⟩ := routed_of_settled hsettled
    -- it is recorded without a route
    have hrecorded : recordedEnd metrics (.ok (), c₂) = .ok () := by
      refine (recordedEnd_ok_iff (by omega)).mpr fun m hm => ⟨?_, fun route hsome => ?_⟩
      · rw [hr₂, hr]
        exact hlabel m hm
      · rw [hroute₂, hunrouted] at hsome
        cases hsome
    rw [hstored, serveHTTP_some ext out hpeer, hrecover, hrecorded]
    refine ⟨c₂, rfl, hstatus, ?_⟩
    exact (congrArg (fun t => t.2.2.2.2) hsettled).trans huntouched.contacts
  · rintro ⟨key, i, item, pathType, endpoint, hkey, hd, hcovers⟩ hpaths
    obtain ⟨route, hroute⟩ := lookup_covered hw hrest hvs hd hcovers (hpaths key)
    obtain ⟨i', item', hselects, hnow⟩ := selects_of_lookup hw hrest hvs hkey hroute
    refine ⟨c', route, i', item', hon, ?_, hselects, guards_of_routeNow hnow⟩
    rw [hrun]
    have hlook : c'.routingConfig.lookupHost host
        = some (addRoutes (routesAt key (vs.flatMap visitRoutes))) := by
      rw [hconf]
      exact lookupHost_of_serves hw hrest hvs hhosts hkey
    refine handleHttp_of_routed ext out ⟨host, _, hidna, hlook, ?_⟩
    rw [hr]
    exact hroute

end

/-! ## §5. The small world at rest. -/

/-- The visit of the small ingress. -/
def smallVisit : EntryVisit where
  name := smallName
  entry := ⟨smallIngress, some (smallConfiguration 4096)⟩
  hosts := [(lit "a.org", addRoutes [smallRoute 4096])]
  tls := []
  hosts_order := fun cfg h => by
    cases h
    exact GoMap.ranges_insert_empty _ _
  tls_order := fun cfg h => by
    cases h
    exact GoMap.ranges_empty

/-- The table with the route of the small ingress. -/
def smallTable : RoutingConfig where
  hosts := hostsOf [(lit "a.org", smallRoute 4096)]
  tlsCertificates := ∅
  defaultTlsCertificate := none
  tcpProxy := []
  requestMiddlewares := [.oidcRequest ∅]
  trustedProxies := (smallConf 4096).generalProxy.trustedProxies
  errorPage := some (smallConf 4096).generalProxy.errorPage

theorem getProxyConfig_smallVisit (cfg₀ : RoutingConfig) :
    getProxyConfig (Sys.small cfg₀).state [smallVisit] = .ok smallTable := rfl

/-- The small world once its table is published. -/
def World.served (cfg₀ : RoutingConfig) : World :=
  { World.small cfg₀ with
    cluster := { (World.small cfg₀).cluster with sys := (Sys.small cfg₀).published smallTable } }

theorem served_atRest (cfg₀ : RoutingConfig) : (World.served cfg₀).AtRest :=
  ⟨⟨⟨rfl, rfl, rfl, rfl⟩, rfl, rfl⟩, ⟨rfl, rfl, rfl, fun _ _ h => by cases h⟩⟩

/-- The only ingress of the small world. -/
theorem served_lookup {cfg₀ : RoutingConfig} {n : NamespacedName} {i : Ingress}
    (h : (World.served cfg₀).cluster.ingresses.lookup n = some i) :
    n = smallName ∧ i = smallIngress := by
  rw [show (World.served cfg₀).cluster.ingresses
    = (∅ : GoMap NamespacedName Ingress).insert smallName smallIngress from rfl,
    GoMap.lookup_insert_eq, Finmap.lookup_empty] at h
  split_ifs at h with hn
  cases h
  exact ⟨hn, rfl⟩

/-- What is declared in the small world. -/
theorem served_declares {cfg₀ : RoutingConfig} {key : GoString} {i : Ingress}
    {item : HTTPIngressPath} {pathType : Proxy.PathType} {endpoint : AddrPort}
    (h : (World.served cfg₀).Declares Ext.small key i item pathType endpoint) :
    i = smallIngress ∧ item = ⟨lit "/", some .exact, some ⟨lit "svc", ⟨lit "http", 0⟩⟩⟩
      ∧ pathType = .pathTypeExact := by
  obtain ⟨_, rfl⟩ := served_lookup h.current
  have hmem : (key, item) ∈ [(lit "a.org", _)] := h.declared
  cases List.mem_singleton.mp hmem
  cases h.pathType
  exact ⟨rfl, rfl, rfl⟩

/-- The request of the small world, for a host and a path. -/
def smallRequest (host path : GoString) : Request :=
  ⟨lit "GET", host, ⟨[], [], path, [], [], []⟩, ∅, false, lit "10.0.0.9:80", 0⟩

theorem served_run : ∃ ls cfg₀,
    Run SmallWorldStep (World.initial smallEnv) ls (World.served cfg₀) := by
  obtain ⟨ls, cfg₀, hrun⟩ := small_world_run
  have hvs : Visits (Sys.small cfg₀).state.ingresses [smallVisit] := by
    rw [(small_state cfg₀).2]
    exact GoMap.ranges_insert_empty _ _
  have hpublish : Run SmallWorldStep (World.small cfg₀) _ (World.served cfg₀) :=
    Run.inWorld (Run.inCluster (fun _ _ => ⟨rfl, by simp, trivial⟩)
      (publish_run (small_waiting cfg₀) hvs (getProxyConfig_smallVisit cfg₀))
      (by simp [serveRequest, handOver, Label.internal]) (World.small cfg₀).cluster rfl) _ rfl
  exact ⟨_, cfg₀, hrun.append hpublish⟩

/-- A request for `a.org/` passes the allow-list of the small ingress and reaches its service. -/
theorem contact_admitted_small : ∃ out ls w result c contact,
    Run SmallWorldStep (World.initial smallEnv) ls w ∧ w.AtRest
      ∧ w.cluster.ingresses.lookup smallName = some smallIngress
      ∧ smallIngress.annotations.lookup Auth.authIpAllowlist = some (lit "10.0.0.0/8")
      ∧ serveHTTP Ext.small out (some Metrics.utf8) w.cluster.sys.stored
          (smallRequest (lit "a.org") (lit "/")) = .finished result c
      ∧ contact ∈ c.upstreamContacts ∧ contact.endpoint = ⟨.v4 0x0A000001, 80⟩
      ∧ ∃ rc remoteIp host i item ms, w.cluster.sys.stored = some rc
        ∧ Ext.small.parseAddrPort (lit "10.0.0.9:80") = .ok remoteIp
        ∧ Ext.small.idnaToASCII (lit "a.org") = .ok host
        ∧ w.Selects Ext.small host (lit "/") i item contact.endpoint ∧ w.Guards Ext.small i ms
        ∧ ∀ m ∈ ms, m.Passes Ext.small out (smallRequest (lit "a.org") (lit "/"))
          (realIpOf Ext.small rc remoteIp (smallRequest (lit "a.org") (lit "/"))) := by
  obtain ⟨headerOrder⟩ := (inferInstance : Nonempty (GoMap.RangeChoice GoString (List GoString)))
  obtain ⟨ls, cfg₀, hrun⟩ := served_run
  obtain ⟨result, c, hserved, contact, hcontact, hendpoint⟩ : ∃ result c,
      serveHTTP Ext.small (Outcomes.small headerOrder) (some Metrics.utf8) (some smallTable)
        (smallRequest (lit "a.org") (lit "/")) = .finished result c
      ∧ ∃ contact ∈ c.upstreamContacts, contact.endpoint = ⟨.v4 0x0A000001, 80⟩ :=
    ⟨_, _, rfl, _, List.mem_singleton.mpr rfl, rfl⟩
  exact ⟨_, ls, _, result, c, contact, hrun, served_atRest _, Finmap.lookup_insert _,
    Finmap.lookup_singleton_eq, hserved, hcontact, hendpoint,
    contact_admitted hrun (served_atRest _) hserved hcontact⟩

/-- What the small ingress declares. -/
theorem declares_small (cfg₀ : RoutingConfig) : (World.served cfg₀).Declares Ext.small (lit "a.org")
    smallIngress ⟨lit "/", some .exact, some ⟨lit "svc", ⟨lit "http", 0⟩⟩⟩ .pathTypeExact
    ⟨.v4 0x0A000001, 80⟩ where
  current := Finmap.lookup_insert _
  relevant := rfl
  declared := List.mem_singleton.mpr rfl
  pathType := rfl
  endpoint := ⟨_, _, _, rfl, Finmap.lookup_insert _, rfl, rfl⟩

/-- Nothing is declared for `a.org/b`, and `a.org/` is routed to the small ingress. -/
theorem answered_by_declarations_small : ∃ out ls w rc remoteIp,
    Run SmallWorldStep (World.initial smallEnv) ls w ∧ w.AtRest ∧ w.cluster.sys.stored = some rc
      ∧ Ext.small.parseAddrPort (lit "10.0.0.9:80") = .ok remoteIp
      ∧ (∃ c, serveHTTP Ext.small out (some Metrics.utf8) w.cluster.sys.stored
          (smallRequest (lit "a.org") (lit "/b")) = .finished (.ok ()) c
        ∧ c.w.writtenStatusCode = 404 ∧ c.upstreamContacts = [])
      ∧ ∃ c route i item,
        Onward (newContext Ext.small out rc remoteIp (smallRequest (lit "a.org") (lit "/"))) c
        ∧ serveChain Ext.small out rc remoteIp (smallRequest (lit "a.org") (lit "/"))
          = proxyRoute Ext.small out route c
        ∧ w.Selects Ext.small (lit "a.org") (lit "/") i item route.endpoint
        ∧ w.Guards Ext.small i route.middlewares := by
  obtain ⟨headerOrder⟩ := (inferInstance : Nonempty (GoMap.RangeChoice GoString (List GoString)))
  obtain ⟨ls, cfg₀, hrun⟩ := served_run
  have hpass : ∀ path, ∀ m ∈ smallTable.requestMiddlewares,
      m.Continues Ext.small (Outcomes.small headerOrder) (smallRequest (lit "a.org") path)
        (realIpOf Ext.small smallTable ⟨.v4 0x0A000009, 80⟩ (smallRequest (lit "a.org") path)) := by
    intro path m hm
    rw [List.mem_singleton.mp hm]
    exact fun hcallback => hcallback.1 (Finmap.lookup_empty _)
  refine ⟨Outcomes.small headerOrder, ls, _, _, _, hrun, served_atRest _, rfl, rfl, ?_, ?_⟩
  · refine (answered_by_declarations hrun (served_atRest _) rfl rfl (hpass (lit "/b")) rfl
      (some Metrics.utf8)).1 ?_ ?_
    · -- the one declared path is `/`, and exact
      intro key i item pathType endpoint _ hd hcovers
      obtain ⟨_, rfl, rfl⟩ := served_declares hd
      exact absurd hcovers (by decide)
    · intro m hm
      cases hm
      decide
  · refine (answered_by_declarations hrun (served_atRest _) rfl rfl (hpass (lit "/")) rfl none).2
      ⟨lit "a.org", _, _, _, _, ?_, declares_small cfg₀, by decide⟩ ?_
    · exact ⟨[], _, rfl, ⟨_, _, _, _, declares_small cfg₀⟩, fun _ hk => by cases hk⟩
    · intro key i item pathType endpoint hd
      obtain ⟨_, rfl, _⟩ := served_declares hd
      decide

end SIngress.Controller
