/-
  SIngress.Controller.Freshness — THE PROXY CATCHES UP WITH THE CONTROLLER.

  Ingresses come, change, switch class and go; classes are added; reloads
  succeed.  Whatever the interleaving, once the system is quiet the proxy
  holds a configuration that `getProxyConfig` can produce from the current
  state (`stored_of_quiet`).  Two facts carry the proof:

    • every configured entry is relevant, so a step that drops a configuration
      sees it and requests a rebuild;
    • an entry WITHOUT a configuration does not show in what is built.
-/
import SIngress.Controller.Progress

namespace SIngress.Controller

open SIngress.Base SIngress.Lib SIngress.K8s SIngress.Platform SIngress.Config SIngress.Proxy
open SIngress.Modules

/-! ## §1. What a state can produce. -/

/-- `getProxyConfig` can return `conf?` in this state, for some order of the maps. -/
def CanProduce (state : K8sState) (conf? : Option RoutingConfig) : Prop :=
  ∃ vs conf, Visits state.ingresses vs ∧ getProxyConfig state vs = .ok conf ∧ conf? = some conf

/-- The visits of configured entries. -/
def configuredVisits (vs : List EntryVisit) : List EntryVisit :=
  vs.filter fun v => v.entry.configuration.isSome

theorem flatMap_configuredVisits {α : Type} (f : EntryVisit → List α)
    (hf : ∀ v, v.entry.configuration = none → f v = []) (vs : List EntryVisit) :
    (configuredVisits vs).flatMap f = vs.flatMap f := by
  induction vs with
  | nil => rfl
  | cons v vs ih =>
      unfold configuredVisits at ih ⊢
      cases hv : v.entry.configuration with
      | none =>
          rw [List.filter_cons_of_neg (by rw [hv]; exact Bool.false_ne_true), ih,
            List.flatMap_cons, hf v hv, List.nil_append]
      | some cfg =>
          rw [List.filter_cons_of_pos (by rw [hv]; rfl), List.flatMap_cons, List.flatMap_cons, ih]

theorem visitRoutes_of_none {v : EntryVisit} (h : v.entry.configuration = none) :
    visitRoutes v = [] := by
  unfold visitRoutes
  rw [h]

theorem visitTls_of_none {v : EntryVisit} (h : v.entry.configuration = none) :
    visitTls v = [] := by
  unfold visitTls
  rw [h]

/-- Two sets of entries with the same configured ones. -/
def SameConfigured (m m' : GoMap NamespacedName IngressEntry) : Prop :=
  ∀ n e, e.configuration.isSome = true → (m.lookup n = some e ↔ m'.lookup n = some e)

/-- The configured visits of `m` are those of the configured entries of `m'`. -/
theorem mem_configuredVisits {m m' : GoMap NamespacedName IngressEntry}
    (h : SameConfigured m m') {vs : List EntryVisit} (hvs : Visits m vs) {n : NamespacedName}
    {e : IngressEntry} :
    (n, e) ∈ (configuredVisits vs).map (fun v => (v.name, v.entry)) ↔
      m'.lookup n = some e ∧ e.configuration.isSome = true := by
  constructor
  · intro hx
    obtain ⟨v, hfilter, heq⟩ := List.mem_map.mp hx
    cases heq
    obtain ⟨hv, hsome⟩ := List.mem_filter.mp hfilter
    exact ⟨(h _ _ hsome).mp (hvs.lookup hv), hsome⟩
  · rintro ⟨hlook, hsome⟩
    obtain ⟨v, hv, rfl, rfl⟩ := hvs.exists_visit ((h n e hsome).mpr hlook)
    exact List.mem_map.mpr ⟨v, List.mem_filter.mpr ⟨hv, hsome⟩, rfl⟩

/-- The visits of `m` give visits of `m'` with the same configured entries in the same
order. -/
theorem visits_of_sameConfigured {m m' : GoMap NamespacedName IngressEntry}
    (h : SameConfigured m m') {vs : List EntryVisit} (hvs : Visits m vs) :
    ∃ vs', Visits m' vs' ∧ configuredVisits vs' = configuredVisits vs := by
  obtain ⟨l, hl⟩ := GoMap.exists_ranges m'
  obtain ⟨rest, hrest⟩ :=
    exists_visits_of_list (l.filter fun e => e.2.configuration.isNone)
  have hmem : ∀ {n e}, (n, e) ∈ l.filter (fun e => e.2.configuration.isNone) ↔
      m'.lookup n = some e ∧ e.configuration.isNone = true := by
    intro n e
    rw [List.mem_filter, hl.mem_iff]
  -- the configured visits as they were, then the unconfigured entries of `m'`
  refine ⟨configuredVisits vs ++ rest, ?_, ?_⟩
  · unfold Visits
    rw [List.map_append, hrest]
    refine ⟨?_, fun n e => ?_⟩
    · -- a name cannot stand for a configured and for an unconfigured entry
      rw [List.map_append, List.nodup_append]
      refine ⟨?_, hl.1.sublist (List.filter_sublist.map _), ?_⟩
      · exact hvs.1.sublist ((List.filter_sublist.map _).map _)
      · intro n hn n' hn' heq
        obtain ⟨⟨n₁, e₁⟩, h₁, rfl⟩ := List.mem_map.mp hn
        obtain ⟨⟨n₂, e₂⟩, h₂, rfl⟩ := List.mem_map.mp hn'
        cases heq
        obtain ⟨hlook₁, hsome⟩ := (mem_configuredVisits h hvs).mp h₁
        obtain ⟨hlook₂, hnone⟩ := hmem.mp h₂
        rw [hlook₁] at hlook₂
        cases hlook₂
        rw [Option.isNone_iff_eq_none.mp hnone] at hsome
        cases hsome
    · rw [List.mem_append, mem_configuredVisits h hvs, hmem, ← and_or_left, Option.isNone_iff_eq_none,
        Option.isSome_iff_ne_none]
      exact ⟨fun hx => hx.1, fun hx => ⟨hx, (em _).symm⟩⟩
  · have hnone : configuredVisits rest = [] := by
      refine List.filter_eq_nil_iff.mpr fun v hv => ?_
      have hv' : (v.name, v.entry) ∈ rest.map fun v => (v.name, v.entry) :=
        List.mem_map_of_mem hv
      rw [hrest, hmem] at hv'
      rw [Option.isNone_iff_eq_none.mp hv'.2]
      exact Bool.false_ne_true
    unfold configuredVisits at hnone ⊢
    rw [List.filter_append, hnone, List.append_nil, List.filter_filter]
    simp

/-- **Unconfigured entries do not show**: what a state can produce, any state with the
same common part and the same configured entries can. -/
theorem canProduce_congr {state state' : K8sState} {conf? : Option RoutingConfig}
    (hconfig : state'.config = state.config)
    (htls : state'.defaultTlsSecret = state.defaultTlsSecret)
    (htcp : state'.tcpProxies = state.tcpProxies)
    (hsame : SameConfigured state.ingresses state'.ingresses)
    (h : CanProduce state conf?) : CanProduce state' conf? := by
  obtain ⟨vs, cfg, hvs, hcfg, rfl⟩ := h
  obtain ⟨vs', hvs', heq⟩ := visits_of_sameConfigured hsame hvs
  obtain ⟨conf, rm, hconf, hrm, rfl⟩ := getProxyConfig_eq_ok.mp hcfg
  have hroutes : vs'.flatMap visitRoutes = vs.flatMap visitRoutes := by
    rw [← flatMap_configuredVisits visitRoutes (fun _ => visitRoutes_of_none) vs', heq,
      flatMap_configuredVisits visitRoutes (fun _ => visitRoutes_of_none)]
  have hcerts : vs'.flatMap visitTls = vs.flatMap visitTls := by
    rw [← flatMap_configuredVisits visitTls (fun _ => visitTls_of_none) vs', heq,
      flatMap_configuredVisits visitTls (fun _ => visitTls_of_none)]
  refine ⟨vs', _, hvs', getProxyConfig_eq_ok.mpr ⟨conf, rm, hconfig.trans hconf, hrm, rfl⟩, ?_⟩
  rw [hroutes, hcerts, htls, htcp]

/-! ## §2. Calm runs. -/

section

variable (ext : Ext) (env : ControllerEnvConf) (load : Outside → Except Fail ControllerConf)

/-- The step removes no class, adds only a class that is not known, and no update of a
reload fails. -/
def Calm (s : Sys) : Label → Prop
  | .removeClass _ => False
  | .addClass cls => s.state.controllerClasses.lookup cls.name = none
  | .runUpdate outside => ∀ stage, s.run = .common stage →
      ∃ state', stage.update ext env load outside s.state = .ok state'
  | _ => True

/-- A calm step of the system. -/
abbrev CalmStep : Sys → Label → Sys → Prop := Guarded (Step ext env load) (Calm ext env load)

/-- Every configured entry is relevant. -/
def Sys.ConfiguredRelevant (s : Sys) : Prop :=
  ∀ n e, s.state.ingresses.lookup n = some e → e.configuration.isSome = true →
    isIngressRelevant s.state e.ingress = true

/-- Outside of a reload, the last one ran to its end. -/
def Sys.Settled (s : Sys) : Prop :=
  s.reloaded = true ∨ (∃ stage, s.run = .init stage) ∨ ∃ stage, s.run = .common stage

variable {ext env load} {s t : Sys} {l : Label}

/-- A new class makes nothing irrelevant. -/
theorem relevant_addIngressClass {state : K8sState} {cls : IngressClass}
    (hnew : state.controllerClasses.lookup cls.name = none) {ingress : Ingress}
    (h : isIngressRelevant state ingress = true) :
    isIngressRelevant (state.addIngressClass cls) ingress = true := by
  unfold isIngressRelevant K8sState.addIngressClass at *
  cases hclass : ingress.ingressClassName with
  | none =>
      rw [hclass] at h
      cases h
  | some c =>
      rw [hclass] at h
      dsimp only at h ⊢
      have hne : c ≠ cls.name := by
        rintro rfl
        rw [hnew] at h
        cases h
      rw [GoMap.lookup_insert_eq, if_neg hne]
      exact h

theorem configuredRelevant_step (h : Step ext env load s l t) (hcalm : Calm ext env load s l)
    (hs : s.ConfiguredRelevant) : t.ConfiguredRelevant := by
  intro n e he hsome
  cases step_change h with
  | same hstate _ _ =>
      rw [hstate] at he ⊢
      exact hs n e he hsome
  | removed _ hstate _ _ _ =>
      rw [hstate] at he ⊢
      rw [GoMap.lookup_erase_eq] at he
      split_ifs at he
      exact hs n e he hsome
  | cleared _ hstate _ _ _ =>
      rw [hstate] at he ⊢
      rw [lookup_updateIngress] at he
      split_ifs at he
      · cases he
        cases hsome
      · exact hs n e he hsome
  | configured hrel _ _ hstate _ _ _ =>
      rw [hstate] at he ⊢
      rw [lookup_updateIngress] at he
      split_ifs at he
      · cases he
        exact hrel
      · exact hs n e he hsome
  | classAdded hstate _ _ _ =>
      -- a calm step adds a class only under a new name
      rw [hstate] at he ⊢
      exact relevant_addIngressClass hcalm (hs n e he hsome)
  | classRemoved _ _ _ _ => exact hcalm.elim
  | updated hok hstate _ _ _ =>
      obtain ⟨hing, hcls, hname⟩ := (update_frame hok).1
      rw [hstate] at he ⊢
      rw [hing] at he
      rw [relevant_congr hcls hname]
      exact hs n e he hsome

theorem settled_afterUpdate (stage : CommonStage) (state' : K8sState) {pc : CommonStage → RunPc}
    (hpc : ∀ next, (∃ stage, pc next = .init stage) ∨ ∃ stage, pc next = .common stage) :
    (s.afterUpdate stage state' pc).Settled := by
  unfold Sys.afterUpdate
  cases stage.next with
  | none => exact Or.inl rfl
  | some next => exact Or.inr (hpc next)

/-- A state whose `Run` is outside of a reload has a finished one. -/
theorem Sys.Settled.reloaded (h : s.Settled) (hinit : ∀ stage, s.run ≠ .init stage)
    (hcommon : ∀ stage, s.run ≠ .common stage) : s.reloaded = true := by
  rcases h with h | ⟨stage, h⟩ | ⟨stage, h⟩
  · exact h
  · exact absurd h (hinit stage)
  · exact absurd h (hcommon stage)

theorem settled_step (h : Step ext env load s l t) (hcalm : Calm ext env load s l)
    (hs : s.Settled) : t.Settled := by
  cases h with
  | reconcile api name ingress? =>
      obtain ⟨_, _, hrel, hrun, _⟩ := whenRelevant_fields
        { s with
          state := (reconcile ext api s.state name ingress?).state
          confOf := s.recordConf ext api name ingress? }
        (reconcile ext api s.state name ingress?).requested
      unfold Sys.Settled Sys.reconcileIngress
      rw [hrel, hrun]
      exact hs
  | addClass cls => exact hs
  | removeClass name => exact hcalm.elim
  | requestCommon => exact hs
  | runTakeCommon _ _ => exact Or.inr (Or.inr ⟨_, rfl⟩)
  | runUpdate _ _ => exact settled_afterUpdate _ _ fun next => Or.inr ⟨next, rfl⟩
  | @runUpdateFails stage outside err hrun herr =>
      obtain ⟨state', hok⟩ := hcalm stage hrun
      rw [hok] at herr
      cases herr
  | initUpdate _ _ => exact settled_afterUpdate _ _ fun next => Or.inl ⟨next, rfl⟩
  | runTakeToken hrun _ => exact Or.inl (hs.reloaded (by simp [hrun]) (by simp [hrun]))
  | runBuild hrun _ _ => exact Or.inl (hs.reloaded (by simp [hrun]) (by simp [hrun]))
  | runBuildFails hrun _ _ => exact Or.inl (hs.reloaded (by simp [hrun]) (by simp [hrun]))
  | runSend hrun _ => exact Or.inl (hs.reloaded (by simp [hrun]) (by simp [hrun]))
  | runExit hrun => exact Or.inl (hs.reloaded (by simp [hrun]) (by simp [hrun]))
  | proxyRecv _ _ => exact hs
  | proxyStore _ => exact hs

/-! ## §3. No update is lost. -/

/-- Once the last reload is through, the configuration is one the state can produce. -/
def Fresh (s : Sys) (conf? : Option RoutingConfig) : Prop :=
  s.reloaded = true → CanProduce s.state conf?

/-- A step without a request leaves a fresh configuration fresh. -/
theorem fresh_step (h : Step ext env load s l t) (hs : s.ConfiguredRelevant)
    (hp : ¬ t.Pending) {conf? : Option RoutingConfig} (hf : Fresh s conf?) : Fresh t conf? := by
  intro hrel
  cases step_change h with
  | same hstate _ hrel' =>
      rw [hstate]
      exact hf (hrel' ▸ hrel)
  | @removed _ n e he hstate _ hrel' hreq =>
      rw [hstate]
      have hold := hf (hrel' ▸ hrel)
      refine canProduce_congr ?_ ?_ ?_ ?_ hold
      · rfl
      · rfl
      · rfl
      -- the entry that went had no configuration, or there would be a request
      intro m e' hsome
      rw [GoMap.lookup_erase_eq]
      by_cases hm : m = n
      · subst hm
        rw [if_pos rfl, he]
        refine ⟨fun heq => ?_, fun heq => by cases heq⟩
        cases heq
        exact absurd (hreq (hs m e he hsome)) hp
      · rw [if_neg hm]
  | @cleared _ _ ingress _ hstate _ hrel' hreq =>
      rw [hstate]
      have hold := hf (hrel' ▸ hrel)
      refine canProduce_congr ?_ ?_ ?_ ?_ hold
      · rfl
      · rfl
      · rfl
      intro m e' hsome
      rw [lookup_updateIngress]
      by_cases hm : m = objectMetaToNamespaced ingress
      · rw [if_pos hm]
        refine ⟨fun heq => ?_, fun heq => ?_⟩
        · exact absurd (hreq e' (hm ▸ heq) (hs m e' heq hsome)) hp
        · cases heq
          cases hsome
      · rw [if_neg hm]
  | configured _ _ _ _ _ _ hreq => exact absurd hreq hp
  | classAdded _ _ _ hreq => exact absurd hreq hp
  | classRemoved _ _ _ hreq => exact absurd hreq hp
  | @updated stage _ _ _ _ _ hrel' hreq =>
      -- in the middle of a reload nothing is claimed; its last step requests
      rw [hrel', Option.isNone_iff_eq_none] at hrel
      exact absurd (hreq hrel) hp

/-- The parts of the invariant of a calm run. -/
structure CalmInv (s : Sys) : Prop where
  relevant : s.ConfiguredRelevant
  settled : s.Settled
  fresh : Published Fresh s

theorem calmInv_initial : CalmInv (Sys.initial env) where
  relevant := fun n e he => by
    have hempty : (Sys.initial env).state.ingresses.lookup n = none := Finmap.lookup_empty n
    rw [hempty] at he
    cases he
  settled := Or.inr (Or.inl ⟨_, rfl⟩)
  fresh := Or.inr (Or.inr fun h => by cases h)

theorem calmInv_step (hreach : s.Reached ext env (getControllerConfig ext env))
    (h : Step ext env (getControllerConfig ext env) s l t)
    (hcalm : Calm ext env (getControllerConfig ext env) s l) (hs : CalmInv s) : CalmInv t where
  relevant := configuredRelevant_step h hcalm hs.relevant
  settled := settled_step h hcalm hs.settled
  fresh := by
    refine published_step (fun vs conf? _ hvs hconf _ => ?_) (fun _ _ hp conf? hf => ?_) h hs.fresh
    · cases conf? with
      | some conf => exact ⟨vs, conf, hvs, hconf, rfl⟩
      | none =>
          -- a build under the standard modules does not fail
          obtain ⟨err, herr⟩ := hconf
          cases hc : s.state.config with
          | none =>
              unfold getProxyConfig at herr
              rw [hc] at herr
              cases herr
          | some conf =>
              obtain ⟨outside, hload⟩ := config_of_reached hreach hc
              obtain ⟨cfg, hcfg⟩ := getProxyConfig_ok hc (getControllerConfig_modules ext hload) vs
              rw [hcfg] at herr
              cases herr
    · exact fresh_step h hs.relevant hp hf

/-- **No ingress update is lost.**  In every calm run, whenever no request is pending,
`Run` is at its `select`, no configuration is under way and the proxy is not between
receiving and storing, the proxy holds a configuration that the current state can
produce. -/
theorem stored_of_quiet {ls : List Label}
    (hrun : Run (CalmStep ext env (getControllerConfig ext env)) (Sys.initial env) ls s)
    (hq : s.Quiet) : CanProduce s.state s.stored := by
  have hinv : s.Reached ext env (getControllerConfig ext env) ∧ CalmInv s := by
    refine hrun.invariant (I := fun s => s.Reached ext env (getControllerConfig ext env)
      ∧ CalmInv s) (fun s a t hs hstep => ?_) ⟨⟨_, [], rfl, .nil _⟩, calmInv_initial⟩
    obtain ⟨⟨s₀, as, h₀, hr⟩, hs⟩ := hs
    exact ⟨⟨s₀, as ++ [a], h₀, hr.append (.single hstep.1)⟩,
      calmInv_step ⟨s₀, as, h₀, hr⟩ hstep.1 hstep.2 hs⟩
  refine hinv.2.fresh.stored hq ?_
  exact hinv.2.settled.reloaded (by simp [hq.select]) (by simp [hq.select])

end

/-! ## §4. The small system is calm. -/

/-- The label is calm whatever the state, as long as no reload is under way. -/
def Label.plain : Label → Bool
  | .addClass _ | .removeClass _ | .runTakeCommon => false
  | _ => true

/-- No reload is under way. -/
def Sys.NoReload (s : Sys) : Prop := ∀ stage, s.run ≠ .common stage

theorem noReload_afterUpdate (s : Sys) (stage : CommonStage) (state' : K8sState) :
    (s.afterUpdate stage state' .init).NoReload := by
  unfold Sys.afterUpdate Sys.NoReload
  cases stage.next with
  | none => exact fun _ h => by cases h
  | some next => exact fun _ h => by cases h

section

variable {ext : Ext} {env : ControllerEnvConf} {load : Outside → Except Fail ControllerConf}
  {s t : Sys} {l : Label}

theorem noReload_step (h : Step ext env load s l t) (hl : l.plain = true) (hs : s.NoReload) :
    t.NoReload := by
  cases h with
  | reconcile api name ingress? =>
      have hrun : (s.reconcileIngress ext api name ingress?).run = s.run := run_whenRelevant _ _
      unfold Sys.NoReload
      rw [hrun]
      exact hs
  | addClass cls => cases hl
  | removeClass name => cases hl
  | runTakeCommon _ _ => cases hl
  | runUpdate hrun _ => exact absurd hrun (hs _)
  | runUpdateFails hrun _ => exact absurd hrun (hs _)
  | initUpdate _ _ => exact noReload_afterUpdate _ _ _
  | requestCommon => exact hs
  | proxyRecv _ _ => exact hs
  | proxyStore _ => exact hs
  | runTakeToken _ _ => exact fun _ h => by cases h
  | runBuild _ _ _ => exact fun _ h => by cases h
  | runBuildFails _ _ _ => exact fun _ h => by cases h
  | runSend _ _ => exact fun _ h => by cases h
  | runExit _ => exact fun _ h => by cases h

/-- A run with plain labels is calm. -/
theorem Run.calm {ls : List Label} (h : Run (Step ext env load) s ls t)
    (hls : ∀ a ∈ ls, a.plain = true) (hs : s.NoReload) :
    Run (CalmStep ext env load) s ls t := by
  refine h.guarded_of_invariant (P := fun a => a.plain = true)
    (fun s a t ha hs hstep => noReload_step hstep ha hs) (fun s a t ha hs _ => ?_) hls hs
  cases a with
  | addClass cls => cases ha
  | removeClass name => cases ha
  | runUpdate outside => exact fun stage hrun => absurd hrun (hs stage)
  | _ => trivial

end

/-- The small system is reached by a calm run. -/
theorem small_calm : ∃ ls cfg,
    Run (CalmStep Ext.small smallEnv smallLoad)
      (Sys.initial smallEnv) ls (Sys.small cfg) ∧ cfg.hosts = ∅ := by
  obtain ⟨outside, vs, cfg, hboot, hempty⟩ := small_boot
  have hcalm := Run.calm hboot (by simp [initUpdates, serveRequest, handOver, Label.plain])
    fun _ h => by cases h
  have hclass : Run (CalmStep Ext.small smallEnv smallLoad)
      (Sys.booted cfg) [.addClass smallClass] (Sys.classed cfg) :=
    .single ⟨.addClass _ smallClass, rfl⟩
  have hingress : Run (CalmStep Ext.small smallEnv smallLoad) (Sys.classed cfg)
      [.reconcile Api.small smallName (some smallIngress)] (Sys.small cfg) :=
    .single ⟨.reconcile _ _ _ _, trivial⟩
  exact ⟨_, cfg, hcalm.append (hclass.append hingress), hempty⟩

theorem stored_of_quiet_small : ∃ ls s,
    Run (CalmStep Ext.small smallEnv smallLoad)
        (Sys.initial smallEnv) ls s
      ∧ s.Quiet ∧ s.state.configured smallName = some (smallConfiguration 4096)
      ∧ CanProduce s.state s.stored := by
  obtain ⟨ls, cfg₀, hrun, _⟩ := small_calm
  obtain ⟨hconf, hing⟩ := small_state cfg₀
  obtain ⟨vs, hvs⟩ := exists_visits (Sys.small cfg₀).state.ingresses
  obtain ⟨cfg, hcfg⟩ := getProxyConfig_ok hconf (small_standard 4096) vs
  have hserve : Run (CalmStep Ext.small smallEnv smallLoad) (Sys.small cfg₀) (serveRequest vs)
      ((Sys.small cfg₀).published cfg) :=
    Run.calm (publish_run (small_waiting cfg₀) hvs hcfg)
      (by simp [serveRequest, handOver, Label.plain])
      (by simp [Sys.NoReload, (small_waiting cfg₀).select])
  have hq : ((Sys.small cfg₀).published cfg).Quiet := ⟨rfl, rfl, rfl, fun _ _ h => by cases h⟩
  refine ⟨_, _, hrun.append hserve, hq, ?_, stored_of_quiet (hrun.append hserve) hq⟩
  show ((Sys.small cfg₀).state.ingresses.lookup smallName).bind _ = _
  rw [hing, Finmap.lookup_insert]
  rfl

/-- Between receiving and storing, both channels are empty and `Run` is at its `select`,
but the proxy still holds the configuration without the ingress. -/
theorem stale_before_store : ∃ ls s,
    Run (CalmStep Ext.small smallEnv smallLoad)
        (Sys.initial smallEnv) ls s
      ∧ s.requestReconfigureChan.buf = [] ∧ s.run = .select ∧ s.configChan.buf = []
      ∧ s.stored.isSome = true ∧ ¬ CanProduce s.state s.stored := by
  obtain ⟨ls, cfg₀, hrun, hempty⟩ := small_calm
  obtain ⟨hconf, hing⟩ := small_state cfg₀
  obtain ⟨vs, hvs⟩ := exists_visits (Sys.small cfg₀).state.ingresses
  obtain ⟨cfg, hcfg⟩ := getProxyConfig_ok hconf (small_standard 4096) vs
  have hwait := small_waiting cfg₀
  obtain ⟨started, hloop⟩ := hwait.loop
  have hstored : (Sys.small cfg₀).stored = some cfg₀ := by
    rw [small_eq]
    rfl
  have hover : Run (CalmStep Ext.small smallEnv smallLoad) (Sys.small cfg₀) (handOver vs) _ :=
    Run.calm (handOver_run hwait hloop hvs hcfg) (by simp [handOver, Label.plain])
      (by simp [Sys.NoReload, hwait.select])
  refine ⟨_, _, hrun.append hover, rfl, rfl, rfl, ?_, ?_⟩
  · show (Sys.small cfg₀).stored.isSome = true
    rw [hstored]
    rfl
  · -- every configuration the state can produce serves the ingress; the stored one does not
    rintro ⟨vs', conf, hvs', hconf', heq⟩
    have heq : some cfg₀ = some conf := hstored.symm.trans heq
    cases heq
    have hserved : smallRoute 4096 ∈ routesUnder cfg₀.hosts (lit "a.org") := by
      refine served_of_configured hvs' hconf' (n := smallName) ?_ (mem_smallConfiguration 4096)
      show ((Sys.small cfg₀).state.ingresses.lookup smallName).bind _ = _
      rw [hing, Finmap.lookup_insert]
      rfl
    rw [hempty] at hserved
    cases hserved

end SIngress.Controller
