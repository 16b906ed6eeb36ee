/-
  SIngress.Controller.Progress — RUNS THE SYSTEM CAN TAKE.

  The invariants say what no run does; these say what some run does: a
  configuration without certificates and TCP proxies loads (`init_run`), every
  state can be built from (`exists_visits`, `getProxyConfig_ok`), and a pending
  request is published when nobody interferes (`publish_run`).
-/
import SIngress.Controller.Invariants
import SIngress.Controller.Merge

namespace SIngress.Controller

open SIngress.Base SIngress.Lib SIngress.K8s SIngress.Platform SIngress.Config SIngress.Proxy
open SIngress.Modules

/-! ## §1. Building. -/

/-- Every list of entries can be visited. -/
theorem exists_visits_of_list (l : List (NamespacedName × IngressEntry)) :
    ∃ vs : List EntryVisit, (vs.map fun v => (v.name, v.entry)) = l := by
  induction l with
  | nil => exact ⟨[], rfl⟩
  | cons e l ih =>
      obtain ⟨vs, hvs⟩ := ih
      obtain ⟨n, entry⟩ := e
      -- some order of the hosts and certificates, if there is a configuration
      obtain ⟨hosts, tls, hhosts, htls⟩ : ∃ hosts tls,
          (∀ cfg, entry.configuration = some cfg → GoMap.Ranges cfg.hosts hosts)
            ∧ ∀ cfg, entry.configuration = some cfg → GoMap.Ranges cfg.tlsCertificates tls := by
        cases entry.configuration with
        | none => exact ⟨[], [], fun _ h => (by cases h), fun _ h => (by cases h)⟩
        | some cfg =>
            obtain ⟨hosts, hhosts⟩ := GoMap.exists_ranges cfg.hosts
            obtain ⟨tls, htls⟩ := GoMap.exists_ranges cfg.tlsCertificates
            exact ⟨hosts, tls, fun _ h => Option.some.inj h ▸ hhosts,
              fun _ h => Option.some.inj h ▸ htls⟩
      exact ⟨⟨n, entry, hosts, tls, hhosts, htls⟩ :: vs, by rw [List.map_cons, hvs]⟩

theorem exists_visits (ingresses : GoMap NamespacedName IngressEntry) :
    ∃ vs, Visits ingresses vs := by
  obtain ⟨l, hl⟩ := GoMap.exists_ranges ingresses
  obtain ⟨vs, hvs⟩ := exists_visits_of_list l
  exact ⟨vs, by unfold Visits; rw [hvs]; exact hl⟩

/-- The configuration's modules are the standard ones, as after every load. -/
def StandardConf (ext : Ext) (conf : ControllerConf) : Prop :=
  ∃ d configs clients domains, conf.modules = standardModules ext d configs clients domains

/-- No module of the standard list fails to make its request middleware. -/
theorem getConnectionModules_ok {ext : Ext} {conf : ControllerConf} (h : StandardConf ext conf) :
    ∃ rm, getConnectionModules conf.modules = .ok rm := by
  obtain ⟨d, configs, clients, domains, h⟩ := h
  rw [h]
  exact ⟨_, rfl⟩

theorem getProxyConfig_ok {ext : Ext} {state : K8sState} {conf : ControllerConf}
    (hconf : state.config = some conf) (h : StandardConf ext conf) (vs : List EntryVisit) :
    ∃ cfg, getProxyConfig state vs = .ok cfg := by
  obtain ⟨rm, hrm⟩ := getConnectionModules_ok h
  exact ⟨_, getProxyConfig_eq_ok.mpr ⟨conf, rm, hconf, hrm, rfl⟩⟩

/-! ## §2. Publishing. -/

/-- Nothing but a request is under way. -/
structure Sys.Waiting (s : Sys) : Prop where
  request : s.Pending
  select : s.run = .select
  config : s.configChan = .empty
  loop : ∃ started, s.proxyLoop = .idle started

/-- The system after `Run` and the proxy served the request. -/
def Sys.published (s : Sys) (cfg : RoutingConfig) : Sys :=
  { s with
    requestReconfigureChan := .empty
    run := .select
    configChan := .empty
    proxyLoop := .idle true
    stored := some cfg }

theorem recv_of_pending {s : Sys} (h : s.Pending) :
    s.requestReconfigureChan.recv = some ((), .empty) := by
  unfold Sys.Pending at h
  match s.requestReconfigureChan, h with
  | ⟨[()], _⟩, _ => rfl

section

variable {ext : Ext} {env : ControllerEnvConf} {load : Outside → Except Fail ControllerConf}
  {s : Sys}

/-- The labels of building and handing over a configuration. -/
def handOver (vs : List EntryVisit) : List Label :=
  [.runTakeToken, .runBuild vs, .runSend, .proxyRecv]

/-- `Run` takes the request, builds and sends; the proxy receives. -/
theorem handOver_run {vs : List EntryVisit} {cfg : RoutingConfig} (h : s.Waiting)
    {started : Bool} (hloop : s.proxyLoop = .idle started)
    (hvs : Visits s.state.ingresses vs) (hcfg : getProxyConfig s.state vs = .ok cfg) :
    Run (Step ext env load) s (handOver vs)
      { s with
        requestReconfigureChan := .empty
        run := .select
        configChan := .empty
        proxyLoop := .received started (some cfg) } := by
  refine .cons (.runTakeToken h.select (recv_of_pending h.request)) ?_
  refine .cons (.runBuild rfl hvs hcfg) ?_
  have hsend : s.configChan.send (some cfg) = some ⟨[some cfg], Nat.le_of_ble_eq_true rfl⟩ := by
    rw [h.config]
    rfl
  refine .cons (.runSend rfl hsend) ?_
  exact .single (.proxyRecv hloop rfl)

/-- The labels of serving a request. -/
def serveRequest (vs : List EntryVisit) : List Label := handOver vs ++ [.proxyStore]

/-- **A pending request can be served**: the proxy stores what it received. -/
theorem publish_run {vs : List EntryVisit} {cfg : RoutingConfig} (h : s.Waiting)
    (hvs : Visits s.state.ingresses vs) (hcfg : getProxyConfig s.state vs = .ok cfg) :
    Run (Step ext env load) s (serveRequest vs) (s.published cfg) := by
  obtain ⟨started, hloop⟩ := h.loop
  refine (handOver_run h hloop hvs hcfg).append (.cons (.proxyStore rfl) ?_)
  have hidle : (if (started || (some cfg).isSome) = true then ProxyPc.idle true else .crashed)
      = .idle true := if_pos (by simp)
  rw [hidle]
  exact .nil _

/-! ## §3. Loading. -/

/-- The system after `Init` with a configuration that names no secret and no proxy. -/
def Sys.loaded (env : ControllerEnvConf) (conf : ControllerConf) : Sys :=
  { Sys.initial env with
    state := { K8sState.new env.controllerName with config := some conf }
    run := .select
    reloaded := true }.requestReconfigure

/-- The labels of `Init`. -/
def initUpdates (outside : Outside) : List Label :=
  [.runUpdate outside, .runUpdate outside, .runUpdate outside, .runUpdate outside]

/-- The state after a load of a configuration that names no secret and no proxy. -/
def K8sState.withConf (state : K8sState) (conf : ControllerConf) : K8sState :=
  { state with
    config := some conf
    defaultTlsSecret := none
    ingressLoadBalancerStatus := none
    tcpProxies := [] }

variable (ext env) in
/-- The configuration is written first; the three other updates find nothing to write. -/
theorem updates_of_plain {outside : Outside} {conf : ControllerConf}
    (hload : load outside = .ok conf) (htls : conf.defaultTlsSecret = [])
    (hup : conf.upstreamServiceName = none) (htcp : conf.tcpProxy = []) (state : K8sState) :
    ∃ state₁ state₂ state₃,
      CommonStage.update ext env load outside state .config = .ok state₁
      ∧ CommonStage.update ext env load outside state₁ .defaultTls = .ok state₂
      ∧ CommonStage.update ext env load outside state₂ .upstreamIp = .ok state₃
      ∧ CommonStage.update ext env load outside state₃ .tcpProxy = .ok (state.withConf conf) := by
  have hdefault : getDefaultTls ext env outside.api conf = .ok none := by
    unfold getDefaultTls
    rw [htls]
    rfl
  have hip : getUpstreamIpAddresses env outside.api conf = none := by
    unfold getUpstreamIpAddresses
    rw [hup]
  refine ⟨{ state with config := some conf },
    { state with config := some conf, defaultTlsSecret := none },
    { state with config := some conf, defaultTlsSecret := none, ingressLoadBalancerStatus := none },
    ?_, ?_, ?_, ?_⟩
  · exact wrapErr_eq_ok.mpr (bind_eq_ok.mpr ⟨conf, hload, rfl⟩)
  · exact wrapErr_eq_ok.mpr (bind_eq_ok.mpr ⟨conf, rfl, bind_eq_ok.mpr ⟨none, hdefault, rfl⟩⟩)
  · refine wrapErr_eq_ok.mpr (bind_eq_ok.mpr ⟨conf, rfl, ?_⟩)
    rw [hip]
    rfl
  · refine wrapErr_eq_ok.mpr (bind_eq_ok.mpr ⟨conf, rfl, bind_eq_ok.mpr ⟨[], ?_, rfl⟩⟩)
    rw [htcp]
    rfl

theorem init_run {outside : Outside} {conf : ControllerConf} (hload : load outside = .ok conf)
    (htls : conf.defaultTlsSecret = []) (hup : conf.upstreamServiceName = none)
    (htcp : conf.tcpProxy = []) :
    Run (Step ext env load) (Sys.initial env) (initUpdates outside) (Sys.loaded env conf) := by
  obtain ⟨state₁, state₂, state₃, hconfig, hcert, hstatus, hproxies⟩ :=
    updates_of_plain ext env hload htls hup htcp (Sys.initial env).state
  exact .cons (.initUpdate rfl hconfig) (.cons (.initUpdate rfl hcert)
    (.cons (.initUpdate rfl hstatus) (.cons (.initUpdate rfl hproxies) (.nil _))))

/-- The system after a reload with such a configuration. -/
def Sys.reload (s : Sys) (conf : ControllerConf) : Sys :=
  { s with
    state := s.state.withConf conf
    run := .select
    reloaded := true }.requestReconfigure

/-- The labels of a reload that a handler asked for. -/
def reloadUpdates (outside : Outside) : List Label :=
  [.requestCommon, .runTakeCommon] ++ initUpdates outside

/-- A handler asks for a reload, and `Run` makes it. -/
theorem reload_run {outside : Outside} {conf : ControllerConf} (hload : load outside = .ok conf)
    (htls : conf.defaultTlsSecret = []) (hup : conf.upstreamServiceName = none)
    (htcp : conf.tcpProxy = []) (hselect : s.run = .select)
    (hcommon : s.requestReconcileCommonChan = .empty) :
    Run (Step ext env load) s (reloadUpdates outside) (s.reload conf) := by
  obtain ⟨state₁, state₂, state₃, hconfig, hcert, hstatus, hproxies⟩ :=
    updates_of_plain ext env hload htls hup htcp s.state
  have htake : (s.requestReconcileCommonChan.trySend ()).recv = some ((), .empty) := by
    rw [hcommon]
    rfl
  refine .cons (.requestCommon s) (.cons (.runTakeCommon hselect htake) ?_)
  refine .cons (.runUpdate rfl hconfig) (.cons (.runUpdate rfl hcert)
    (.cons (.runUpdate rfl hstatus) (.cons (.runUpdate rfl hproxies) ?_)))
  unfold Sys.reload
  rw [← hcommon]
  exact .nil _

/-! ## §4. Reconciling. -/

/-- A relevant ingress that can be reconciled is configured, and a rebuild requested. -/
theorem reconcileIngress_configured {api : Api} {n : NamespacedName} {ingress : Ingress}
    {conf : ControllerConf} {cfg : IngressConfiguration}
    (hrel : isIngressRelevant s.state ingress = true) (hconf : s.state.config = some conf)
    (hok : reconcileIngress ext api conf ingress = .ok cfg) :
    s.reconcileIngress ext api n (some ingress)
      = { s with
          state := s.state.updateIngress ⟨ingress, some cfg⟩
          confOf := fun m => if m = objectMetaToNamespaced ingress then some conf
            else s.confOf m }.requestReconfigure := by
  have hreconcile : reconcile ext api s.state n (some ingress)
      = ⟨s.state.updateIngress ⟨ingress, some cfg⟩, true, .ok ()⟩ := by
    unfold reconcile
    dsimp only
    rw [if_neg (by rw [hrel]; exact Bool.noConfusion),
      bind_eq_ok.mpr ⟨conf, conf_eq_ok.mpr hconf, hok⟩]
  unfold Sys.reconcileIngress
  rw [recordConf_of_ok hrel (by rw [hreconcile]), hreconcile, hconf]
  rfl

/-- The reconcile of a relevant ingress that can be configured does not fail. -/
theorem reconcile_result_of_ok {api : Api} {state : K8sState} {n : NamespacedName}
    {ingress : Ingress} {conf : ControllerConf} {cfg : IngressConfiguration}
    (hrel : isIngressRelevant state ingress = true) (hconf : state.config = some conf)
    (hok : reconcileIngress ext api conf ingress = .ok cfg) :
    (reconcile ext api state n (some ingress)).result = .ok () := by
  unfold reconcile
  dsimp only
  rw [if_neg (by rw [hrel]; exact Bool.noConfusion),
    bind_eq_ok.mpr ⟨conf, conf_eq_ok.mpr hconf, hok⟩]

/-- Nor does clearing an irrelevant ingress. -/
theorem reconcile_result_of_irrelevant {api : Api} {state : K8sState} {n : NamespacedName}
    {ingress : Ingress} (hirr : isIngressRelevant state ingress = false) :
    (reconcile ext api state n (some ingress)).result = .ok () := by
  unfold reconcile
  dsimp only
  rw [if_pos hirr]

/-- An irrelevant ingress whose recorded version is irrelevant too is cleared without a
request. -/
theorem reconcileIngress_cleared {api : Api} {n : NamespacedName} {ingress : Ingress}
    {e : IngressEntry} (hirr : isIngressRelevant s.state ingress = false)
    (he : s.state.ingresses.lookup (objectMetaToNamespaced ingress) = some e)
    (hwas : isIngressRelevant s.state e.ingress = false) :
    s.reconcileIngress ext api n (some ingress)
      = { s with state := s.state.updateIngress ⟨ingress, none⟩ } := by
  have hreconcile : reconcile ext api s.state n (some ingress)
      = ⟨s.state.updateIngress ⟨ingress, none⟩, false, .ok ()⟩ := by
    unfold reconcile K8sState.markIngressIrrelevant
    dsimp only
    rw [if_pos hirr, he]
    dsimp only
    rw [hwas]
  unfold Sys.reconcileIngress
  rw [recordConf_of_irrelevant hirr, hreconcile]
  rfl

end

/-! ## §5. One class with one ingress, to evaluate the system on. -/

def smallClass : IngressClass := ⟨lit "c", lit "oidq.dev/s-ingress"⟩

def smallName : NamespacedName := ⟨lit "ns", lit "a"⟩

/-- The ingress `ns/a`: one rule for `a.org` with one path, behind an allow-list. -/
def smallIngress : Ingress :=
  Ingress.small (lit "a") (Finmap.singleton Auth.authIpAllowlist (lit "10.0.0.0/8"))
    [⟨lit "a.org", some [⟨lit "/", some .exact, some ⟨lit "svc", ⟨lit "http", 0⟩⟩⟩]⟩] []

/-- The route of its path, with the default body limit `limit`. -/
def smallRoute (limit : Int) : RouteConfig where
  path := lit "/"
  pathType := .pathTypeExact
  endpoint := ⟨.v4 0x0A000001, 80⟩
  middlewares := [.ipAuth [⟨.v4 0x0A000000, 8⟩], .websocket]
  httpProxyConfig := ⟨limit⟩
  ingressName := lit "ns/a"

def smallConfiguration (limit : Int) : IngressConfiguration where
  usedSecrets := []
  usedConfigMaps := []
  usedServices := [⟨lit "ns", lit "svc"⟩]
  hosts := hostsOf [(lit "a.org", smallRoute limit)]
  tlsCertificates := ∅

/-- The route and the configuration of the same path without annotations. -/
def openRoute (limit : Int) : RouteConfig := { smallRoute limit with middlewares := [.websocket] }

def openConfiguration (limit : Int) : IngressConfiguration :=
  { smallConfiguration limit with hosts := hostsOf [(lit "a.org", openRoute limit)] }

theorem reconcileIngress_small (limit : Int) :
    reconcileIngress Ext.small Api.small (smallConf limit) smallIngress
      = .ok (smallConfiguration limit) := rfl

/-- The load of the small system. -/
abbrev smallLoad : Outside → Except Fail ControllerConf := getControllerConfig Ext.small smallEnv

theorem small_standard (limit : Int) : StandardConf Ext.small (smallConf limit) :=
  ⟨_, _, _, _, rfl⟩

/-- The configuration is loaded and published, without an ingress. -/
def Sys.booted (cfg : RoutingConfig) : Sys := (Sys.loaded smallEnv (smallConf 4096)).published cfg

/-- What was loaded can be built. -/
theorem loaded_builds : ∃ vs cfg,
    Visits (Sys.loaded smallEnv (smallConf 4096)).state.ingresses vs
      ∧ getProxyConfig (Sys.loaded smallEnv (smallConf 4096)).state vs = .ok cfg := by
  obtain ⟨vs, hvs⟩ := exists_visits (Sys.loaded smallEnv (smallConf 4096)).state.ingresses
  have hconf : (Sys.loaded smallEnv (smallConf 4096)).state.config = some (smallConf 4096) := rfl
  obtain ⟨cfg, hcfg⟩ := getProxyConfig_ok hconf (small_standard 4096) vs
  exact ⟨vs, cfg, hvs, hcfg⟩

theorem small_boot : ∃ outside vs cfg,
    Run (Step Ext.small smallEnv smallLoad) (Sys.initial smallEnv)
      (initUpdates outside ++ serveRequest vs) (Sys.booted cfg) ∧ cfg.hosts = ∅ := by
  obtain ⟨order⟩ : Nonempty (GoMap.RangeChoice GoString OidcClientYaml) := inferInstance
  obtain ⟨vs, cfg, hvs, hcfg⟩ := loaded_builds
  have hload := getControllerConfig_small (fun _ => .ok []) order
  refine ⟨⟨Api.small, fun _ => .ok [], order⟩, vs, cfg, ?_, ?_⟩
  · refine (init_run hload rfl rfl rfl).append (publish_run ⟨?_, rfl, rfl, false, rfl⟩ hvs hcfg)
    exact pending_requestReconfigure _
  · -- nothing is visited, so nothing is served
    have hnil : vs = [] := List.map_eq_nil_iff.mp (GoMap.Ranges.eq_nil hvs)
    obtain ⟨_, _, _, _, rfl⟩ := getProxyConfig_eq_ok.mp hcfg
    rw [hnil]
    rfl

/-- The class is known. -/
def Sys.classed (cfg : RoutingConfig) : Sys := (Sys.booted cfg).addIngressClass smallClass

/-- The ingress is configured, and the rebuild requested. -/
def Sys.small (cfg : RoutingConfig) : Sys :=
  (Sys.classed cfg).reconcileIngress Ext.small Api.small smallName (some smallIngress)

theorem small_eq (cfg : RoutingConfig) :
    Sys.small cfg = { Sys.classed cfg with
      state := (Sys.classed cfg).state.updateIngress ⟨smallIngress, some (smallConfiguration 4096)⟩
      confOf := fun m => if m = smallName then some (smallConf 4096)
        else none }.requestReconfigure :=
  have hconf : (Sys.classed cfg).state.config = some (smallConf 4096) := rfl
  reconcileIngress_configured rfl hconf (reconcileIngress_small 4096)

theorem small_waiting (cfg : RoutingConfig) : (Sys.small cfg).Waiting := by
  rw [small_eq]
  exact ⟨pending_requestReconfigure _, rfl, rfl, true, rfl⟩

theorem small_steps (cfg : RoutingConfig) :
    Run (Step Ext.small smallEnv smallLoad) (Sys.booted cfg)
      [.addClass smallClass, .reconcile Api.small smallName (some smallIngress)]
      (Sys.small cfg) :=
  .cons (.addClass _ _) (.single (.reconcile _ _ _ _))

/-- The state of the small system. -/
theorem small_state (cfg : RoutingConfig) :
    (Sys.small cfg).state.config = some (smallConf 4096)
      ∧ (Sys.small cfg).state.ingresses = (∅ : GoMap NamespacedName IngressEntry).insert
        smallName ⟨smallIngress, some (smallConfiguration 4096)⟩ := by
  rw [small_eq]
  exact ⟨rfl, rfl⟩

/-! ## §6. Any ingresses of the class. -/

/-- The small system after the ingresses were reconciled, one after the other, with the answers
of `api`. -/
def Sys.configuring (api : Api) (cfg : RoutingConfig) (ingresses : List Ingress) : Sys :=
  ingresses.foldl (fun s ingress =>
    s.reconcileIngress Ext.small api (objectMetaToNamespaced ingress) (some ingress))
    (Sys.classed cfg)

/-- An ingress of the class, and the configuration it gets. -/
structure Configures (api : Api) (ingress : Ingress) (c : IngressConfiguration) : Prop where
  classed : ingress.ingressClassName = some (lit "c")
  accepted : reconcileIngress Ext.small api (smallConf 4096) ingress = .ok c

section

variable {api : Api} {ingresses : List Ingress} {cs : List IngressConfiguration}

/-- Reconciled, the ingresses are recorded with their configurations. -/
theorem reconciled_state (h : List.Forall₂ (Configures api) ingresses cs) {s : Sys}
    (hconf : s.state.config = some (smallConf 4096))
    (hrel : ∀ ingress : Ingress, ingress.ingressClassName = some (lit "c") →
      isIngressRelevant s.state ingress = true) :
    (ingresses.foldl (fun s ingress => s.reconcileIngress Ext.small api
        (objectMetaToNamespaced ingress) (some ingress)) s).state
      = (List.zipWith (fun ingress c => IngressEntry.mk ingress (some c)) ingresses cs).foldl
        K8sState.updateIngress s.state := by
  induction h generalizing s with
  | nil => rfl
  | @cons ingress c ingresses cs hc _ ih =>
      rw [List.zipWith_cons_cons, List.foldl_cons, List.foldl_cons,
        reconcileIngress_configured (hrel ingress hc.classed) hconf hc.accepted]
      exact ih hconf hrel

theorem configuring_state (cfg : RoutingConfig)
    (h : List.Forall₂ (Configures api) ingresses cs) :
    (Sys.configuring api cfg ingresses).state
      = (List.zipWith (fun ingress c => IngressEntry.mk ingress (some c)) ingresses cs).foldl
        K8sState.updateIngress (Sys.classed cfg).state := by
  refine reconciled_state h rfl fun ingress hclass => ?_
  unfold isIngressRelevant
  rw [hclass]
  rfl

/-- One reconcile after the other. -/
theorem configuring_run (api : Api) (ingresses : List Ingress) (s : Sys) :
    Run (Step Ext.small smallEnv smallLoad) s
      (ingresses.map fun ingress =>
        .reconcile api (objectMetaToNamespaced ingress) (some ingress))
      (ingresses.foldl (fun s ingress => s.reconcileIngress Ext.small api
        (objectMetaToNamespaced ingress) (some ingress)) s) := by
  induction ingresses generalizing s with
  | nil => exact .nil s
  | cons ingress ingresses ih => exact .cons (.reconcile _ _ _ _) (ih _)

/-- The system is reached, and a table can be built. -/
theorem configuring_reached (h : List.Forall₂ (Configures api) ingresses cs) :
    ∃ cfg₀ vs cfg, (Sys.configuring api cfg₀ ingresses).Reached Ext.small smallEnv smallLoad
      ∧ Visits (Sys.configuring api cfg₀ ingresses).state.ingresses vs
      ∧ getProxyConfig (Sys.configuring api cfg₀ ingresses).state vs = .ok cfg := by
  obtain ⟨outside, vs₀, cfg₀, hboot, _⟩ := small_boot
  obtain ⟨vs, hvs⟩ := exists_visits (Sys.configuring api cfg₀ ingresses).state.ingresses
  have hkept : ∀ (entries : List IngressEntry) (state : K8sState),
      (entries.foldl K8sState.updateIngress state).config = state.config := by
    intro entries
    induction entries with
    | nil => exact fun _ => rfl
    | cons entry entries ih => exact fun state => ih (state.updateIngress entry)
  have hconf : (Sys.configuring api cfg₀ ingresses).state.config = some (smallConf 4096) := by
    rw [configuring_state cfg₀ h, hkept]
    rfl
  obtain ⟨cfg, hcfg⟩ := getProxyConfig_ok hconf (small_standard 4096) vs
  have hsteps : Run (Step Ext.small smallEnv smallLoad) (Sys.booted cfg₀) _
      (Sys.configuring api cfg₀ ingresses) :=
    .cons (.addClass _ smallClass) (configuring_run api ingresses (Sys.classed cfg₀))
  exact ⟨cfg₀, vs, cfg, ⟨_, _, rfl, hboot.append hsteps⟩, hvs, hcfg⟩

end

/-- A route stands in the table of its configuration. -/
theorem mem_smallConfiguration (limit : Int) :
    smallRoute limit ∈ routesUnder (smallConfiguration limit).hosts (lit "a.org") :=
  mem_routesUnder_hostsOf.mpr List.mem_cons_self

theorem mem_openConfiguration (limit : Int) :
    openRoute limit ∈ routesUnder (openConfiguration limit).hosts (lit "a.org") :=
  mem_routesUnder_hostsOf.mpr List.mem_cons_self

end SIngress.Controller
