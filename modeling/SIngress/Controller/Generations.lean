/-
  SIngress.Controller.Generations — WHICH CONFIGURATION A PUBLISHED TABLE IS FROM.

  The configuration of the controller is used twice: `getProxyConfig` reads the
  current one for the request middlewares, the trusted proxies and the error
  page; `reconcileIngress` reads the one current THEN for the middlewares and
  the body limit of its routes.  A reload writes a new configuration and
  requests a rebuild; it reconciles no ingress.

    • `generations_of_quiet` — in a quiet system the common part is from the
      reloaded configuration, and each route from the one its ingress was last
      reconciled under,
    • `mixed_generations`    — the two can differ.
-/
import SIngress.Controller.Handlers
import SIngress.Controller.Progress

namespace SIngress.Controller

open SIngress.Base SIngress.Lib SIngress.K8s SIngress.Platform SIngress.Config SIngress.Proxy
open SIngress.Modules

/-! ## §1. Computed from a configuration. -/

section

variable (ext : Ext)

/-- The middlewares and the body limit of the route are what `conf` gives for the ingress. -/
structure ComputedFrom (conf : ControllerConf) (ingress : Ingress) (r : RouteConfig) : Prop where
  named : r.ingressName = (objectMetaToNamespaced ingress).string
  middlewares : ∃ api used used',
    getMiddlewares api ingress conf.modules used = .ok (r.middlewares, used')
  maxBodySize : getHttpProxyConfig ext ingress conf.ingressProxy = .ok r.httpProxyConfig

/-- The part of a routing configuration that is common to all routes is what `conf` gives. -/
structure CommonFrom (conf : ControllerConf) (cfg : RoutingConfig) : Prop where
  requestMiddlewares : getConnectionModules conf.modules = .ok cfg.requestMiddlewares
  trustedProxies : cfg.trustedProxies = conf.generalProxy.trustedProxies
  errorPage : cfg.errorPage = some conf.generalProxy.errorPage

/-- Everything in the routing configuration is computed from the current configuration. -/
def OneGeneration (s : Sys) (cfg : RoutingConfig) : Prop :=
  ∀ conf, s.state.config = some conf → CommonFrom conf cfg ∧
    ∀ host, ∀ r ∈ routesUnder cfg.hosts host, ∀ n e, s.state.ingresses.lookup n = some e →
      r.ingressName = n.string → ComputedFrom ext conf e.ingress r

/-- The common part is from the current configuration once it is fully loaded; each route is
from the configuration its ingress was last reconciled under, and from the version of the
ingress that the state holds as configured. -/
structure Generations (s : Sys) (cfg : RoutingConfig) : Prop where
  common : s.reloaded = true → ∃ conf, s.state.config = some conf ∧ CommonFrom conf cfg
  routes : ∀ host, ∀ r ∈ routesUnder cfg.hosts host, ∃ ingress conf,
    s.confOf (objectMetaToNamespaced ingress) = some conf ∧ ComputedFrom ext conf ingress r
    ∧ ∀ e, s.state.ingresses.lookup (objectMetaToNamespaced ingress) = some e →
      e.configuration.isSome = true → e.ingress = ingress

end

section

variable {ext : Ext} {env : ControllerEnvConf} {load : Outside → Except Fail ControllerConf}
  {s t : Sys} {l : Label} {cfg : RoutingConfig}

theorem computedFrom_of_routeFor {api : Api} {conf : ControllerConf} {ingress : Ingress}
    {d r} (h : RouteFor ext api conf ingress d r) : ComputedFrom ext conf ingress r.2 := by
  obtain ⟨used, used', hms⟩ := h.middlewares
  exact ⟨h.ingressName, ⟨api, used, used', hms⟩, h.httpProxyConfig⟩

/-! ## §2. A build. -/

/-- What is built from a valid state has the generations of the state. -/
theorem generations_of_build (hs : s.Valid ext) {vs : List EntryVisit}
    (hvs : Visits s.state.ingresses vs) (hcfg : getProxyConfig s.state vs = .ok cfg) :
    Generations ext s cfg := by
  obtain ⟨conf, rm, hconf, hrm, rfl⟩ := getProxyConfig_eq_ok.mp hcfg
  refine ⟨fun _ => ⟨conf, hconf, hrm, rfl, rfl⟩, ?_⟩
  intro host r hr
  obtain ⟨v, hv, icfg, hicfg, hmem⟩ := mem_visits_routes.mp (mem_routesUnder_hostsOf.mp hr)
  have hlook := hvs.lookup hv
  have hentry := hs v.name v.entry hlook
  obtain ⟨api, conf', hconf', hok⟩ := hentry.backed icfg hicfg
  obtain ⟨_, _, hfor⟩ := routeFor_of_mem hok hmem
  refine ⟨v.entry.ingress, conf', ?_, computedFrom_of_routeFor hfor, ?_⟩
  · rw [hentry.keyed]
    exact hconf'
  · intro e he _
    rw [hentry.keyed, hlook] at he
    cases he
    rfl

/-! ## §3. A step without a request. -/

/-- The generations of a configuration depend on the history, on the configured entries and,
after a complete load, on the current configuration. -/
theorem Generations.congr (h : Generations ext s cfg) (hconfOf : t.confOf = s.confOf)
    (hcommon : t.reloaded = true → s.reloaded = true ∧ t.state.config = s.state.config)
    (hentries : ∀ n e, t.state.ingresses.lookup n = some e → e.configuration.isSome = true →
      s.state.ingresses.lookup n = some e) : Generations ext t cfg where
  common := by
    intro ht
    obtain ⟨hreloaded, hconfig⟩ := hcommon ht
    rw [hconfig]
    exact h.common hreloaded
  routes := by
    intro host r hr
    obtain ⟨ingress, conf, hconf, hfrom, hcurrent⟩ := h.routes host r hr
    refine ⟨ingress, conf, by rw [hconfOf]; exact hconf, hfrom, ?_⟩
    intro e he hsome
    exact hcurrent e (hentries _ e he hsome) hsome

/-- A step that leaves no request keeps the generations. -/
theorem generations_step (h : Step ext env load s l t) (hquiet : ¬ t.Pending)
    (hs : Generations ext s cfg) : Generations ext t cfg := by
  cases step_change h with
  | same hstate hconf hrel =>
      refine hs.congr hconf ?_ ?_
      · intro ht
        exact ⟨hrel ▸ ht, by rw [hstate]⟩
      · intro n e he _
        rw [← hstate]
        exact he
  | removed _ hstate hconf hrel _ =>
      refine hs.congr hconf ?_ ?_
      · intro ht
        exact ⟨hrel ▸ ht, by rw [hstate]⟩
      · intro n e he _
        rw [hstate, GoMap.lookup_erase_eq] at he
        split_ifs at he
        exact he
  | cleared _ hstate hconf hrel _ =>
      refine hs.congr hconf ?_ ?_
      · intro ht
        exact ⟨hrel ▸ ht, by rw [hstate]; rfl⟩
      · -- the entry that was written has no configuration
        intro n e he hsome
        rw [hstate, lookup_updateIngress] at he
        split_ifs at he
        · cases he
          cases hsome
        · exact he
  | configured _ _ _ _ _ _ hpending => exact absurd hpending hquiet
  | classAdded _ _ _ hpending => exact absurd hpending hquiet
  | classRemoved _ _ _ hpending => exact absurd hpending hquiet
  | @updated stage _ _ hok hstate hconf hrel hpending =>
      refine hs.congr hconf ?_ ?_
      · -- the last update of a load leaves a request, the others leave the load incomplete
        intro ht
        rw [hrel, Option.isNone_iff_eq_none] at ht
        exact absurd (hpending ht) hquiet
      · intro n e he _
        rw [hstate, (update_frame hok).1.1] at he
        exact he

/-! ## §4. The proxy's configuration. -/

/-- **In a quiet system the proxy serves the current configuration in its common part, and in
each route the configuration that the ingress was last reconciled under.** -/
theorem generations_of_quiet (hs : s.Reached ext env load) (hquiet : s.Quiet)
    (hstored : s.stored = some cfg) : Generations ext s cfg := by
  have hinv := hs.invariant
    (I := fun s => s.Valid ext ∧
      Published (fun s conf? => ∀ cfg, conf? = some cfg → Generations ext s cfg) s) ?_ ?_
  · exact hinv.2.stored hquiet cfg hstored
  · intro s₀ h₀
    subst h₀
    refine ⟨valid_initial, Or.inr (Or.inr ?_)⟩
    intro cfg hcfg
    cases hcfg
  · intro s l t hinv hstep
    refine ⟨valid_step hstep hinv.1, published_step ?_ ?_ hstep hinv.2⟩
    · intro vs conf? _ hvs hconf cfg hcfg
      subst hcfg
      have hbuilt := generations_of_build hinv.1 hvs hconf
      exact ⟨hbuilt.common, hbuilt.routes⟩
    · intro _ _ hpending conf? hconf cfg hcfg
      exact generations_step hstep hpending (hconf cfg hcfg)

end

/-! ## §5. A reload under a configured ingress. -/

/-- A file that doubles the body limit. -/
def largerFile : GoString := lit "proxy:\n  maxBodySize: 8192\n"

theorem parseYamlConfig_largerFile :
    parseYamlConfig Ext.small largerFile = .ok { smallConf 8192 with modules := [] } := by
  have hdecode : Ext.small.decodeController largerFile
      = .ok ⟨none, false, [], [], ⟨lit "8192", [], []⟩, ∅⟩ := by
    unfold Ext.small
    dsimp only
    exact if_pos rfl
  have hyaml : decodeYaml Ext.small largerFile
      = .ok ⟨none, false, [], [], ⟨lit "8192", [], []⟩, ∅⟩ := by
    unfold decodeYaml
    rw [if_neg (by decide)]
    exact errorf_eq_ok.mpr hdecode
  have hsize : parseByteSize Ext.small (lit "8192") = .ok 8192 := by decide
  have hproxy : parseProxyIngressConf Ext.small ⟨lit "8192", [], []⟩ = .ok ⟨8192⟩ := by
    unfold parseProxyIngressConf
    rw [if_neg (by decide)]
    exact bind_eq_ok.mpr ⟨8192, wrapErr_eq_ok.mpr hsize, rfl⟩
  refine wrapErr_eq_ok.mpr (bind_eq_ok.mpr ⟨_, hyaml, ?_⟩)
  exact bind_eq_ok.mpr ⟨⟨[], defaultErrorPage⟩, rfl,
    bind_eq_ok.mpr ⟨⟨8192⟩, wrapErr_eq_ok.mpr hproxy, rfl⟩⟩

/-- The small system is published, the file changes, the configuration is reloaded and
published again: the limit of the route is still the old one. -/
theorem small_reloaded : ∃ ls s cfg,
    Run (Step Ext.small smallEnv smallLoad) (Sys.initial smallEnv) ls s
      ∧ s.Quiet ∧ s.requestReconcileCommonChan.buf = [] ∧ s.reloaded = true
      ∧ s.stored = some cfg ∧ s.state.config = some (smallConf 8192)
      ∧ s.state.ingresses.lookup smallName = some ⟨smallIngress, some (smallConfiguration 4096)⟩
      ∧ smallRoute 4096 ∈ routesUnder cfg.hosts (lit "a.org") := by
  obtain ⟨outside, vs₀, cfg₀, hboot, _⟩ := small_boot
  obtain ⟨hconf, hing⟩ := small_state cfg₀
  obtain ⟨vs, hvs⟩ := exists_visits (Sys.small cfg₀).state.ingresses
  obtain ⟨cfg₁, hcfg₁⟩ := getProxyConfig_ok hconf (small_standard 4096) vs
  have hserve : Run (Step Ext.small smallEnv smallLoad) (Sys.small cfg₀) (serveRequest vs)
      ((Sys.small cfg₀).published cfg₁) := publish_run (small_waiting cfg₀) hvs hcfg₁
  -- the reload writes the configuration and leaves the entry of the ingress alone
  obtain ⟨order⟩ : Nonempty (GoMap.RangeChoice GoString OidcClientYaml) := inferInstance
  have hload : smallLoad ⟨Api.withFile largerFile, fun _ => .ok [], order⟩
      = .ok (smallConf 8192) := getControllerConfig_withFile _ _ parseYamlConfig_largerFile
  have hcommon : ((Sys.small cfg₀).published cfg₁).requestReconcileCommonChan = .empty := by
    rw [small_eq]
    rfl
  have hreload : Run (Step Ext.small smallEnv smallLoad) ((Sys.small cfg₀).published cfg₁)
      (reloadUpdates ⟨Api.withFile largerFile, fun _ => .ok [], order⟩)
      (((Sys.small cfg₀).published cfg₁).reload (smallConf 8192)) :=
    reload_run hload rfl rfl rfl rfl hcommon
  -- it is published like any other change
  have hconf₂ : ((Sys.small cfg₀).state.withConf (smallConf 8192)).config
      = some (smallConf 8192) := rfl
  obtain ⟨cfg, hcfg⟩ := getProxyConfig_ok hconf₂ (small_standard 8192) vs
  have hserve₂ : Run (Step Ext.small smallEnv smallLoad)
      (((Sys.small cfg₀).published cfg₁).reload (smallConf 8192)) (serveRequest vs)
      ((((Sys.small cfg₀).published cfg₁).reload (smallConf 8192)).published cfg) :=
    publish_run ⟨pending_requestReconfigure _, rfl, rfl, true, rfl⟩ hvs hcfg
  have hlook : (Sys.small cfg₀).state.ingresses.lookup smallName
      = some ⟨smallIngress, some (smallConfiguration 4096)⟩ := by
    rw [hing, Finmap.lookup_insert]
  refine ⟨_, _, cfg, hboot.append ((small_steps cfg₀).append (hserve.append
    (hreload.append hserve₂))), ⟨rfl, rfl, rfl, fun _ _ h => by cases h⟩, ?_, rfl, rfl, rfl,
    hlook, ?_⟩
  · show ((Sys.small cfg₀).published cfg₁).requestReconcileCommonChan.buf = []
    rw [hcommon]
    rfl
  · refine served_of_configured hvs hcfg (n := smallName) ?_ (mem_smallConfiguration 4096)
    exact Option.bind_eq_some_iff.mpr ⟨_, hlook, rfl⟩

/-- The common part and the routes of that system, each from its own configuration. -/
theorem generations_of_quiet_reloaded : ∃ ls s cfg,
    Run (Step Ext.small smallEnv smallLoad) (Sys.initial smallEnv) ls s
      ∧ s.state.config = some (smallConf 8192)
      ∧ smallRoute 4096 ∈ routesUnder cfg.hosts (lit "a.org") ∧ Generations Ext.small s cfg := by
  obtain ⟨ls, s, cfg, hrun, hquiet, _, _, hstored, hconfig, _, hroute⟩ := small_reloaded
  exact ⟨ls, s, cfg, hrun, hconfig, hroute,
    generations_of_quiet ⟨_, ls, rfl, hrun⟩ hquiet hstored⟩

/-- The change of the file asks for a reload and for no reconcile, and after the reload the
proxy serves a mix: the limit of the route is not the one of the current configuration. -/
theorem mixed_generations : ∃ ls s cfg,
    Run (Step Ext.small smallEnv smallLoad) (Sys.initial smallEnv) ls s
      ∧ (∀ order, getIngressReconcilesForConfigMaps smallEnv order smallEnv.controllerConfigMap
        = ⟨[], true⟩)
      ∧ s.Quiet ∧ s.requestReconcileCommonChan.buf = [] ∧ s.reloaded = true
      ∧ s.stored = some cfg ∧ ¬ OneGeneration Ext.small s cfg := by
  obtain ⟨ls, s, cfg, hrun, hquiet, hcommon, hreloaded, hstored, hconfig, hlook, hroute⟩ :=
    small_reloaded
  refine ⟨ls, s, cfg, hrun, fun _ => if_pos rfl, hquiet, hcommon, hreloaded, hstored, ?_⟩
  intro hone
  have hfrom := (hone _ hconfig).2 _ _ hroute smallName _ hlook rfl
  have hlimit : (Except.ok ⟨8192⟩ : Except Fail HttpProxyConfig) = .ok ⟨4096⟩ := hfrom.maxBodySize
  cases hlimit

end SIngress.Controller
