/-
  SIngress.Controller.ServedTable — THE STORED TABLE AND THE CURRENT OBJECTS.

  Two chains meet here.  A change in the cluster reaches an entry by events,
  requests and the worker; a changed entry reaches the proxy by a token, a build
  and a send.  When both are at rest, the table the proxy holds is the routes of
  the entries (`built_of_quiet`) and each entry is the routes of its ingress, of
  the current Services and Secrets (`entry_of_settled`):

    • `declared_of_route`  — a route of the table is a path some relevant ingress
                             declares NOW, with the endpoint of its Service,
    • `route_of_declared`  — every such path has a route.
-/
import SIngress.Controller.Following
import SIngress.Controller.Freshness
import SIngress.Controller.OrderFree
import SIngress.Controller.Responses

namespace SIngress.Controller

open SIngress.Base SIngress.Lib SIngress.K8s SIngress.Platform SIngress.Config SIngress.Proxy
open SIngress.Modules

/-! ## §1. The endpoint of a route. -/

section

variable {ext : Ext} {api : Api} {conf : ControllerConf} {ingress : Ingress}

theorem mem_routesUnder_publishRoute {hosts : GoMap GoString HostConfig} {h hostname : GoString}
    {r route : RouteConfig} :
    r ∈ routesUnder (publishRoute hostname hosts route) h ↔
      (h = hostname ∧ r = route) ∨ r ∈ routesUnder hosts h := by
  unfold routesUnder publishRoute
  rw [GoMap.lookup_insert_eq]
  by_cases heq : h = hostname
  · rw [if_pos heq, heq, Option.map_some, Option.getD_some, addRoute_routes,
      (rankedInsert_perm RouteConfig.rank route _).mem_iff, List.mem_cons]
    cases hosts.lookup hostname with
    | none => simp
    | some hc => simp
  · rw [if_neg heq]
    simp [heq]

variable (ext api conf ingress) in
/-- `r` is a route of the declared path: its type, its middlewares, its limits and the
endpoint of its backend. -/
structure RouteOf (d : GoString × HTTPIngressPath) (r : RouteConfig) : Prop where
  path : r.path = d.2.path
  pathType : mapPathType ext d.2.pathType = .ok r.pathType
  endpoint : ∃ backend, d.2.service = some backend
    ∧ backendEndpoint ext api ingress d.1 backend = .ok r.endpoint
  middlewares : ∃ used used', getMiddlewares api ingress conf.modules used
    = .ok (r.middlewares, used')
  httpProxyConfig : getHttpProxyConfig ext ingress conf.ingressProxy = .ok r.httpProxyConfig
  ingressName : r.ingressName = (objectMetaToNamespaced ingress).string

variable (ext api conf ingress) in
/-- Every route of the configuration is a route of a declared path. -/
def FromDeclared (ingressConf : IngressConfiguration) : Prop :=
  ∀ h, ∀ r ∈ routesUnder ingressConf.hosts h, ∃ d ∈ declared ingress,
    d.1 = h ∧ RouteOf ext api conf ingress d r

theorem fromDeclared_addPathItem {rule : IngressRule} {paths : List HTTPIngressPath}
    (hrule : rule ∈ ingress.rules) (hhttp : rule.http = some paths) {path : HTTPIngressPath}
    (hpath : path ∈ paths) {ingressConf ingressConf' : IngressConfiguration}
    (h : addPathItem ext api conf ingress rule.host ingressConf path = .ok ingressConf')
    (hconf : FromDeclared ext api conf ingress ingressConf) :
    FromDeclared ext api conf ingress ingressConf' := by
  unfold addPathItem at h
  cases hservice : path.service with
  | none =>
      rw [hservice] at h
      cases h
      exact hconf
  | some backend =>
      rw [hservice] at h
      obtain ⟨middlewares, usedSecrets, endpoint, pathType, httpProxyConf, hms, hendpoint, htype,
        hproxy, rfl⟩ := addPath_eq_ok.mp h
      have hmem : (rule.host, path) ∈ declared ingress := by
        refine List.mem_flatMap.mpr ⟨rule, hrule, List.mem_map.mpr ⟨path, ?_, rfl⟩⟩
        rw [hhttp]
        exact List.mem_filter.mpr ⟨hpath, by rw [hservice]; rfl⟩
      intro host r hr
      rcases mem_routesUnder_publishRoute.mp hr with ⟨rfl, rfl⟩ | hold
      · exact ⟨_, hmem, rfl, rfl, htype, ⟨backend, hservice, hendpoint⟩, ⟨_, _, hms⟩,
          hproxy, rfl⟩
      · exact hconf host r hold

theorem fromDeclared_addRule {rule : IngressRule} (hrule : rule ∈ ingress.rules)
    {ingressConf ingressConf' : IngressConfiguration}
    (h : addRule ext api conf ingress ingressConf rule = .ok ingressConf')
    (hconf : FromDeclared ext api conf ingress ingressConf) :
    FromDeclared ext api conf ingress ingressConf' := by
  unfold addRule at h
  cases hhttp : rule.http with
  | none =>
      rw [hhttp] at h
      cases h
  | some paths =>
      rw [hhttp] at h
      exact foldlM_invariant (fun _ _ hpath _ hstep hb =>
        fromDeclared_addPathItem hrule hhttp hpath hstep hb) h hconf

/-- The loop over the TLS sections leaves the hosts alone. -/
theorem fromDeclared_addTlsItem {item : IngressTLS}
    {ingressConf ingressConf' : IngressConfiguration}
    (h : addTlsItem ext api ingress ingressConf item = .ok ingressConf')
    (hconf : FromDeclared ext api conf ingress ingressConf) :
    FromDeclared ext api conf ingress ingressConf' := by
  unfold addTlsItem at h
  split_ifs at h
  · cases h
    exact hconf
  · obtain ⟨cert, _, hrest⟩ := bind_eq_ok.mp h
    cases hrest
    exact hconf

/-- **A route of a reconciled ingress** is a route of one of its declared paths. -/
theorem fromDeclared_of_ok {cfg : IngressConfiguration}
    (h : reconcileIngress ext api conf ingress = .ok cfg) :
    FromDeclared ext api conf ingress cfg := by
  obtain ⟨mid, hrules, htls⟩ := bind_eq_ok.mp h
  have hempty : FromDeclared ext api conf ingress .empty := by
    intro host r hr
    have hnone : routesUnder IngressConfiguration.empty.hosts host = [] := by
      unfold routesUnder
      rw [show IngressConfiguration.empty.hosts = ∅ from rfl, Finmap.lookup_empty]
      rfl
    rw [hnone] at hr
    cases hr
  have hmid : FromDeclared ext api conf ingress mid :=
    foldlM_invariant (fun _ _ hrule _ hstep hb => fromDeclared_addRule hrule hstep hb) hrules hempty
  exact foldlM_invariant (fun _ _ _ _ hstep hb => fromDeclared_addTlsItem hstep hb)
    (wrapErr_eq_ok.mp htls) hmid

/-- Every declared path of a reconciled ingress has a route. -/
theorem exists_routeFor {cfg : IngressConfiguration}
    (h : reconcileIngress ext api conf ingress = .ok cfg) {d : GoString × HTTPIngressPath}
    (hd : d ∈ declared ingress) :
    ∃ r ∈ routesUnder cfg.hosts d.1, r.path = d.2.path
      ∧ mapPathType ext d.2.pathType = .ok r.pathType := by
  obtain ⟨l, hl, hhosts⟩ := (reconcileIngress_spec h).1
  obtain ⟨i, hi, hget⟩ := List.mem_iff_getElem.mp hd
  rw [List.forall₂_iff_get] at hl
  have hi' : i < l.length := by rw [← hl.1]; exact hi
  have hrel := hl.2 i hi hi'
  rw [List.get_eq_getElem, List.get_eq_getElem, hget] at hrel
  refine ⟨l[i].2, ?_, hrel.path, hrel.pathType⟩
  rw [hhosts, mem_routesUnder_hostsOf, ← hrel.host]
  exact List.getElem_mem hi'

end

/-! ## §2. The table follows the entries. -/

/-- The table holds the routes of the configured entries, and the request middlewares of
this repository's modules. -/
def BuiltFrom (state : K8sState) (conf? : Option RoutingConfig) : Prop :=
  ∃ vs conf, Visits state.ingresses vs ∧ conf? = some conf
    ∧ conf.hosts = hostsOf (vs.flatMap visitRoutes)
    ∧ ∀ m ∈ conf.requestMiddlewares, RequestHook m

/-- From the end of `Init` on, the table is built from the entries. -/
def ServesEntries (s : Sys) (conf? : Option RoutingConfig) : Prop :=
  (∃ stage, s.run = .init stage) ∨ BuiltFrom s.state conf?

section

variable {ext : Ext} {env : ControllerEnvConf} {load : Outside → Except Fail ControllerConf}
  {s t : Sys} {l : Label}

/-- A class table that has the same class for an ingress finds it as relevant as before. -/
theorem relevant_of_lookup {state state' : K8sState} {ingress : Ingress}
    (h : isIngressRelevant state ingress = true)
    (hname : state'.controllerName = state.controllerName)
    (hclass : ∀ c, ingress.ingressClassName = some c →
      state'.controllerClasses.lookup c = state.controllerClasses.lookup c
        ∨ ∃ cls, state'.controllerClasses.lookup c = some cls
          ∧ cls.controller = state.controllerName) : isIngressRelevant state' ingress = true := by
  unfold isIngressRelevant at h ⊢
  cases hc : ingress.ingressClassName with
  | none =>
      rw [hc] at h
      cases h
  | some c =>
      rw [hc] at h
      dsimp only at h ⊢
      rcases hclass c hc with hsame | ⟨cls, hcls, hcontroller⟩
      · rw [hsame, hname]
        exact h
      · rw [hcls, hname, ← hcontroller]
        exact beq_self_eq_true cls.controller

theorem configuredRelevant_orderly (h : Step ext env load s l t) (hl : Orderly s l)
    (hs : s.ConfiguredRelevant) : t.ConfiguredRelevant := by
  cases hchange : step_change h with
  | classAdded hstate _ _ _ =>
      intro n e he hsome
      rw [hstate] at he ⊢
      refine relevant_of_lookup (hs n e he hsome) rfl fun c hc => ?_
      unfold K8sState.addIngressClass
      dsimp only
      rw [GoMap.lookup_insert_eq]
      rcases hl with hcontroller | hunused
      · split_ifs
        · exact Or.inr ⟨_, rfl, hcontroller⟩
        · exact Or.inl rfl
      · rw [if_neg (fun heq => hunused n e he hsome (by rw [hc, heq]))]
        exact Or.inl rfl
  | @classRemoved name hstate _ _ _ =>
      intro n e he hsome
      rw [hstate] at he ⊢
      refine relevant_of_lookup (hs n e he hsome) rfl fun c hc => Or.inl ?_
      exact Finmap.lookup_erase_ne fun heq => hl n e he hsome (by rw [hc, heq])
  | updated hok hstate _ _ _ =>
      intro n e he hsome
      obtain ⟨hing, hcls, hname⟩ := (update_frame hok).1
      rw [hstate] at he ⊢
      rw [hing] at he
      rw [relevant_congr hcls hname]
      exact hs n e he hsome
  | same hstate _ _ =>
      intro n e he hsome
      rw [hstate] at he ⊢
      exact hs n e he hsome
  | removed _ _ _ _ _ => exact configuredRelevant_step h trivial hs
  | cleared _ _ _ _ _ => exact configuredRelevant_step h trivial hs
  | configured _ _ _ _ _ _ _ => exact configuredRelevant_step h trivial hs

/-- **A step that leaves no request leaves the configured entries.** -/
theorem sameConfigured_step (h : Step ext env load s l t) (hs : s.ConfiguredRelevant)
    (hp : ¬ t.Pending) : SameConfigured s.state.ingresses t.state.ingresses := by
  intro m e hsome
  cases step_change h with
  | same hstate _ _ => rw [hstate]
  | @removed _ n e' he hstate _ _ hreq =>
      rw [hstate, GoMap.lookup_erase_eq]
      by_cases hm : m = n
      · -- a configured entry is relevant, so its removal asks for a build
        subst hm
        rw [if_pos rfl, he]
        refine ⟨fun heq => ?_, fun heq => by cases heq⟩
        cases heq
        exact absurd (hreq (hs m e he hsome)) hp
      · rw [if_neg hm]
  | @cleared _ _ ingress _ hstate _ _ hreq =>
      rw [hstate, lookup_updateIngress]
      by_cases hm : m = objectMetaToNamespaced ingress
      · rw [if_pos hm]
        refine ⟨fun heq => ?_, fun heq => ?_⟩
        · exact absurd (hreq e (hm ▸ heq) (hs m e heq hsome)) hp
        · cases heq
          cases hsome
      · rw [if_neg hm]
  | configured _ _ _ _ _ _ hreq => exact absurd hreq hp
  | classAdded _ _ _ hreq => exact absurd hreq hp
  | classRemoved _ _ _ hreq => exact absurd hreq hp
  | updated hok hstate _ _ _ =>
      rw [hstate, (update_frame hok).1.1]

/-- `Init` ends with a request. -/
theorem init_step (h : Step ext env load s l t) {stage : CommonStage} (hs : s.run = .init stage)
    (hp : ¬ t.Pending) : ∃ stage', t.run = .init stage' := by
  cases h with
  | reconcile api name ingress? => exact ⟨stage, (run_whenRelevant _ _).trans hs⟩
  | addClass cls => exact ⟨stage, hs⟩
  | removeClass name => exact ⟨stage, (run_whenRelevant _ _).trans hs⟩
  | requestCommon => exact ⟨stage, hs⟩
  | @initUpdate stage₀ outside state' _ _ =>
      unfold Sys.afterUpdate at hp ⊢
      cases hnext : stage₀.next with
      | some next => exact ⟨next, rfl⟩
      | none =>
          rw [hnext] at hp
          exact absurd (pending_requestReconfigure _) hp
  | proxyRecv _ _ => exact ⟨stage, hs⟩
  | proxyStore _ => exact ⟨stage, hs⟩
  | runTakeCommon hr _ => rw [hs] at hr; cases hr
  | runUpdate hr _ => rw [hs] at hr; cases hr
  | runUpdateFails hr _ => rw [hs] at hr; cases hr
  | runTakeToken hr _ => rw [hs] at hr; cases hr
  | runBuild hr _ _ => rw [hs] at hr; cases hr
  | runBuildFails hr _ _ => rw [hs] at hr; cases hr
  | runSend hr _ => rw [hs] at hr; cases hr
  | runExit hr => rw [hs] at hr; cases hr

theorem builtFrom_congr {state state' : K8sState} {conf? : Option RoutingConfig}
    (hsame : SameConfigured state.ingresses state'.ingresses) (h : BuiltFrom state conf?) :
    BuiltFrom state' conf? := by
  obtain ⟨vs, conf, hvs, hconf, hhosts, hhooks⟩ := h
  obtain ⟨vs', hvs', heq⟩ := visits_of_sameConfigured hsame hvs
  refine ⟨vs', conf, hvs', hconf, ?_, hhooks⟩
  rw [hhosts, ← flatMap_configuredVisits visitRoutes (fun _ => visitRoutes_of_none) vs', heq,
    flatMap_configuredVisits visitRoutes (fun _ => visitRoutes_of_none)]

/-- The request middlewares of the standard modules. -/
theorem requestHooks_of_standard {conf : ControllerConf} (h : StandardConf ext conf)
    {rm : List Middleware} (hrm : getConnectionModules conf.modules = .ok rm) :
    ∀ m ∈ rm, RequestHook m := by
  obtain ⟨d, configs, clients, domains, hmodules⟩ := h
  rw [hmodules] at hrm
  cases hrm
  intro m hm
  cases d with
  | false =>
      rw [List.mem_singleton.mp hm]
      trivial
  | true =>
      rcases List.mem_cons.mp hm with rfl | hm
      · trivial
      · rw [List.mem_singleton.mp hm]
        trivial

theorem builtFrom_of_build (hreach : s.Reached ext env (getControllerConfig ext env))
    {vs : List EntryVisit} (hvs : Visits s.state.ingresses vs) {conf? : Option RoutingConfig}
    (hconf : match conf? with
      | some conf => getProxyConfig s.state vs = .ok conf
      | none => ∃ err, getProxyConfig s.state vs = .error (.err err)) :
    BuiltFrom s.state conf? := by
  cases hc : s.state.config with
  | none =>
      -- a build without a configuration is a panic
      unfold getProxyConfig at hconf
      rw [hc] at hconf
      cases conf? with
      | none =>
          obtain ⟨err, herr⟩ := hconf
          cases herr
      | some conf => cases hconf
  | some controllerConf =>
      obtain ⟨outside, hload⟩ := config_of_reached hreach hc
      have hstandard := getControllerConfig_modules ext hload
      cases conf? with
      | none =>
          obtain ⟨err, herr⟩ := hconf
          obtain ⟨cfg, hcfg⟩ := getProxyConfig_ok hc hstandard vs
          rw [hcfg] at herr
          cases herr
      | some conf =>
          obtain ⟨controllerConf', rm, hc', hrm, rfl⟩ := getProxyConfig_eq_ok.mp hconf
          rw [hc] at hc'
          cases hc'
          exact ⟨vs, _, hvs, rfl, rfl, requestHooks_of_standard hstandard hrm⟩

theorem servesEntries_step (h : Step ext env (getControllerConfig ext env) s l t)
    (hreach : s.Reached ext env (getControllerConfig ext env)) (hs : s.ConfiguredRelevant)
    (hserves : Published ServesEntries s) : Published ServesEntries t := by
  refine published_step (fun vs conf? _ hvs hconf => ?_) (fun _ _ hp conf? hold => ?_) h hserves
  · exact Or.inr (builtFrom_of_build hreach hvs hconf)
  · rcases hold with ⟨stage, hinit⟩ | hbuilt
    · exact Or.inl (init_step h hinit hp)
    · exact Or.inr (builtFrom_congr (sameConfigured_step h hs hp) hbuilt)

end

/-! ## §3. Worlds whose table follows. -/

section

variable {ext : Ext} {env : ControllerEnvConf} {load : Outside → Except Fail ControllerConf}

theorem sys_orderly_step {k k' : Cluster} {l : ClusterLabel} (h : ClusterStep ext env load k l k')
    (hl : k.Orderly l) :
    k'.sys = k.sys ∨ ∃ sl, Step ext env load k.sys sl k'.sys ∧ Controller.Orderly k.sys sl := by
  cases h with
  | classCreated cls _ => exact Or.inr ⟨_, .addClass _ cls, hl⟩
  | classDeleted name _ => exact Or.inr ⟨_, .removeClass _ name, hl⟩
  | @reconcile n ingress? _ api _ => exact Or.inr ⟨_, .reconcile _ api n ingress?, trivial⟩
  | @sys l s hinternal hs =>
      refine Or.inr ⟨l, hs, ?_⟩
      cases l with
      | addClass cls => cases hinternal
      | removeClass name => cases hinternal
      | _ => trivial
  | _ => exact Or.inl rfl

variable {w w' : World} {wl : WorldLabel}

theorem inner_orderly {l : ClusterLabel} (hguard : Undisturbed env w wl)
    (hinner : wl.inner env w = some l) : w.cluster.Orderly l := by
  cases wl with
  | change e => cases hinner
  | lock => cases hinner
  | handle kind object order =>
      unfold WorldLabel.inner at hinner
      dsimp only at hinner
      split_ifs at hinner
      cases hinner
      trivial
  | add =>
      obtain ⟨n, _, rfl⟩ := Option.map_eq_some_iff.mp hinner
      trivial
  | reconcile api =>
      cases hinner
      trivial
  | cluster l =>
      cases hinner
      exact hguard.2

variable (ext env) in
/-- The invariant of an undisturbed world. -/
structure ServedInv (w : World) : Prop where
  world : WorldInv ext env w
  relevant : w.cluster.sys.ConfiguredRelevant
  serves : Published ServesEntries w.cluster.sys

theorem servedInv_initial : ServedInv ext env (World.initial env) where
  world := worldInv_initial
  relevant := calmInv_initial.relevant
  serves := Or.inr (Or.inr (Or.inl ⟨_, rfl⟩))

theorem servedInv_step (h : WorldStep ext env (getControllerConfig ext env) w wl w')
    (hguard : Undisturbed env w wl) (hw : ServedInv ext env w) : ServedInv ext env w' := by
  have hworld := worldInv_step h hguard.1 hw.world
  have hinner := cluster_step h
  cases hl : wl.inner env w with
  | none =>
      rw [hl] at hinner
      refine ⟨hworld, ?_, ?_⟩
      · rw [hinner]
        exact hw.relevant
      · rw [hinner]
        exact hw.serves
  | some l =>
      rw [hl] at hinner
      rcases sys_orderly_step hinner (inner_orderly hguard hl) with hsame | ⟨sl, hstep, horderly⟩
      · refine ⟨hworld, ?_, ?_⟩
        · rw [hsame]
          exact hw.relevant
        · rw [hsame]
          exact hw.serves
      · exact ⟨hworld, configuredRelevant_orderly hstep horderly hw.relevant,
          servesEntries_step hstep hw.world.reached hw.relevant hw.serves⟩

theorem servedInv_of_run {ls : List WorldLabel}
    (h : Run (UndisturbedStep ext env) (World.initial env) ls w) : ServedInv ext env w :=
  h.invariant (I := ServedInv ext env) (fun _ _ _ hw hstep => servedInv_step hstep.1 hstep.2 hw)
    servedInv_initial

/-- Nothing is left to do, for the controller and on the way to the proxy. -/
structure World.AtRest (w : World) : Prop where
  settled : w.Settled
  quiet : w.cluster.sys.Quiet

theorem built_of_quiet (hw : ServedInv ext env w) (hq : w.cluster.sys.Quiet) :
    BuiltFrom w.cluster.sys.state w.cluster.sys.stored := by
  rcases hw.serves.stored hq with ⟨stage, hinit⟩ | hbuilt
  · rw [hq.select] at hinit
    cases hinit
  · exact hbuilt

/-! ## §4. What the cluster declares. -/

variable (ext) in
/-- The ingress `i` exists, is relevant and declares `item` for the host `key`; `pathType` is
the type of the path and `endpoint` is where the backend's Service is now. -/
structure World.Declares (w : World) (key : GoString) (i : Ingress) (item : HTTPIngressPath)
    (pathType : Proxy.PathType) (endpoint : AddrPort) : Prop where
  current : w.cluster.ingresses.lookup (objectMetaToNamespaced i) = some i
  relevant : isIngressRelevant w.cluster.sys.state i = true
  declared : (key, item) ∈ declared i
  pathType : mapPathType ext item.pathType = .ok pathType
  endpoint : ∃ backend service ip, item.service = some backend
    ∧ w.store.services.lookup ⟨i.namesp, backend.name⟩ = some service
    ∧ ext.parseAddr service.clusterIP = .ok ip
    ∧ endpoint = addrPortFrom ip (backendPort service.ports backend.port)

variable (ext) in
/-- The middlewares of the ingress, from its annotations and the Secrets as they are now. -/
def World.Guards (w : World) (i : Ingress) (ms : List Middleware) : Prop :=
  ∃ conf used used', w.cluster.sys.confOf (objectMetaToNamespaced i) = some conf
    ∧ StandardConf ext conf
    ∧ getMiddlewares (w.store.api ext) i conf.modules used = .ok (ms, used')

/-- Under a host key stand the routes that the configured ingresses offer for it. -/
theorem mem_routesUnder_visits {state : K8sState} {vs : List EntryVisit}
    (hvs : Visits state.ingresses vs) {key : GoString} {r : RouteConfig} :
    r ∈ routesUnder (hostsOf (vs.flatMap visitRoutes)) key ↔ ∃ n, Offers state n key r := by
  rw [mem_routesUnder_hostsOf, ← mem_routesAt]
  exact mem_added hvs

variable (ext) in
/-- `r` is the route of the declared path, made from the objects as they are now. -/
def World.RouteNow (w : World) (i : Ingress) (d : GoString × HTTPIngressPath) (r : RouteConfig) :
    Prop :=
  ∃ conf, w.cluster.sys.confOf (objectMetaToNamespaced i) = some conf ∧ StandardConf ext conf
    ∧ RouteOf ext (w.store.api ext) conf i d r

theorem guards_of_routeNow {i : Ingress} {d : GoString × HTTPIngressPath} {r : RouteConfig}
    (h : w.RouteNow ext i d r) : w.Guards ext i r.middlewares := by
  obtain ⟨conf, hconf, hstandard, hroute⟩ := h
  obtain ⟨used, used', hms⟩ := hroute.middlewares
  exact ⟨conf, used, used', hconf, hstandard, hms⟩

/-- **A route of the stored table is a path declared now**, with the Service's endpoint and
everything else of the route. -/
theorem declared_of_route (hw : ServedInv ext env w) (hrest : w.AtRest) {vs : List EntryVisit}
    (hvs : Visits w.cluster.sys.state.ingresses vs) {key : GoString} {r : RouteConfig}
    (hr : r ∈ routesUnder (hostsOf (vs.flatMap visitRoutes)) key) :
    ∃ i item, w.Declares ext key i item r.pathType r.endpoint ∧ item.path = r.path
      ∧ w.RouteNow ext i (key, item) r := by
  obtain ⟨n, cfg, hcfg, hr⟩ := (mem_routesUnder_visits hvs).mp hr
  have hup := (hw.world.following n).resolve_right (not_tracked_of_settled hrest.settled)
  cases hup with
  | unserved _ hnone =>
      rw [hcfg] at hnone
      cases hnone
  | @served i conf cfg' hi hrel hconf hok hentry =>
      rw [hcfg] at hentry
      cases hentry
      have hname := w.cluster.named n i hi
      obtain ⟨⟨key', item⟩, hd, rfl, hroute⟩ := fromDeclared_of_ok hok key r hr
      obtain ⟨backend, hbackend, hendpoint⟩ := hroute.endpoint
      obtain ⟨service, ip, hservice, hip, heq⟩ := backendEndpoint_eq_ok.mp hendpoint
      obtain ⟨outside, hload⟩ := confOf_loaded hw.world.reached hconf
      refine ⟨i, item, ⟨by rw [hname]; exact hi, hrel, hd, hroute.pathType, ?_⟩, hroute.path.symm,
        conf, by rw [hname]; exact hconf, getControllerConfig_modules ext hload, hroute⟩
      exact ⟨backend, service, ip, hbackend, getService_eq_ok.mp hservice, hip, heq⟩

/-- **Every path declared now has a route in the stored table.** -/
theorem route_of_declared (hw : ServedInv ext env w) (hrest : w.AtRest) {vs : List EntryVisit}
    (hvs : Visits w.cluster.sys.state.ingresses vs) {key : GoString} {i : Ingress}
    {item : HTTPIngressPath} {pathType : Proxy.PathType} {endpoint : AddrPort}
    (hd : w.Declares ext key i item pathType endpoint) :
    ∃ r ∈ routesUnder (hostsOf (vs.flatMap visitRoutes)) key,
      r.path = item.path ∧ r.pathType = pathType := by
  have hup := (hw.world.following (objectMetaToNamespaced i)).resolve_right
    (not_tracked_of_settled hrest.settled)
  cases hup with
  | unserved hirr _ =>
      have hrel := hirr i hd.current
      rw [hd.relevant] at hrel
      cases hrel
  | @served i' conf cfg hi _ _ hok hentry =>
      rw [hd.current] at hi
      cases hi
      obtain ⟨r, hr, hpath, htype⟩ := exists_routeFor hok hd.declared
      rw [hd.pathType] at htype
      cases htype
      exact ⟨r, (mem_routesUnder_visits hvs).mpr ⟨_, cfg, hentry, hr⟩, hpath, rfl⟩

end

end SIngress.Controller
