/-
  SIngress.Controller.Retention — DOES THE PROXY KEEP A WORKING CONFIGURATION?

  `Run` sends what `getProxyConfig` returned even when it returned an error; the
  configuration is nil then, and the proxy stores whatever it receives.

  The configurations on their way stand in one line, oldest first: the stored
  one, the received one, those in the channel, the one `Run` is sending.  A step
  leaves the line as it is, puts a new build at its end, or drops the oldest
  (`line_step`).  So the stored configuration is safe as long as no nil stands
  behind a configuration:

    • `stored_kept`        — it stays, in every run in which no module fails a
                             build behind a configuration,
    • `stored_lost`        — one failed build loses it,
    • `survives_of_loaded` — the modules of this repository never fail a build.
-/
import SIngress.Controller.Progress

namespace SIngress.Controller

open SIngress.Base SIngress.Lib SIngress.K8s SIngress.Platform SIngress.Config SIngress.Proxy
open SIngress.Modules

/-! ## §1. The line of configurations. -/

/-- What the proxy received and has not stored yet. -/
def ProxyPc.holding : ProxyPc → List (Option RoutingConfig)
  | .received _ conf => [conf]
  | _ => []

/-- The stored configuration and those on their way to the proxy, oldest first. -/
def Sys.line (s : Sys) : List (Option RoutingConfig) :=
  s.stored :: (s.proxyLoop.holding ++ s.configChan.buf ++ s.run.sending.toList)

/-- What a step does to the line. -/
inductive LineChange (s t : Sys) : Label → Prop
  | same {l : Label} : t.line = s.line → t.stored = s.stored → LineChange s t l
  /-- A build puts its result at the end. -/
  | built {vs : List EntryVisit} {conf? : Option RoutingConfig} :
      t.line = s.line ++ [conf?] → t.stored = s.stored →
      (conf? = none → ∃ err, getProxyConfig s.state vs = .error (.err err)) →
      LineChange s t (.runBuild vs)
  /-- A store drops the oldest. -/
  | advanced : s.line = s.stored :: t.line → LineChange s t .proxyStore

section

variable {ext : Ext} {env : ControllerEnvConf} {load : Outside → Except Fail ControllerConf}
  {s t : Sys} {l : Label}

/-- The line depends on four fields. -/
theorem line_congr (hstored : t.stored = s.stored) (hloop : t.proxyLoop = s.proxyLoop)
    (hchan : t.configChan = s.configChan) (hrun : t.run.sending = s.run.sending) :
    t.line = s.line := by
  unfold Sys.line
  rw [hstored, hloop, hchan, hrun]

theorem line_whenRelevant (s : Sys) (b : Bool) :
    (s.requestReconfigureWhenRelevant b).line = s.line
      ∧ (s.requestReconfigureWhenRelevant b).stored = s.stored := by
  cases b <;> exact ⟨rfl, rfl⟩

theorem line_afterUpdate (hs : s.run.sending = none) (stage : CommonStage) (state' : K8sState)
    {pc : CommonStage → RunPc} (hpc : ∀ next, (pc next).sending = none) :
    LineChange s (s.afterUpdate stage state' pc) l := by
  unfold Sys.afterUpdate
  split
  · exact .same (line_congr rfl rfl rfl ((hpc _).trans hs.symm)) rfl
  · exact .same (line_congr (s := s) rfl rfl rfl hs.symm) rfl

/-- **What a step does to the line.** -/
theorem line_step (h : Step ext env load s l t) : LineChange s t l := by
  cases h with
  | reconcile api name ingress? =>
      obtain ⟨hline, hstored⟩ := line_whenRelevant
        { s with
          state := (reconcile ext api s.state name ingress?).state
          confOf := s.recordConf ext api name ingress? } _
      exact .same hline hstored
  | addClass cls => exact .same rfl rfl
  | removeClass name =>
      obtain ⟨hline, hstored⟩ := line_whenRelevant
        { s with state := (s.state.removeIngressClass name).1 } _
      exact .same hline hstored
  | requestCommon => exact .same rfl rfl
  | runTakeCommon hr _ => exact .same (line_congr rfl rfl rfl (by rw [hr]; rfl)) rfl
  | runUpdate hr _ => exact line_afterUpdate (by rw [hr]; rfl) _ _ fun _ => rfl
  | runUpdateFails hr _ => exact .same (line_congr rfl rfl rfl (by rw [hr]; rfl)) rfl
  | initUpdate hr _ => exact line_afterUpdate (by rw [hr]; rfl) _ _ fun _ => rfl
  | runTakeToken hr _ => exact .same (line_congr rfl rfl rfl (by rw [hr]; rfl)) rfl
  -- a build appends to the line, whether it succeeds or not
  | @runBuild vs conf hr _ _ =>
      have hline : Sys.line { s with run := .send (some conf) } = s.line ++ [some conf] := by
        unfold Sys.line
        simp [hr, RunPc.sending]
      exact .built hline rfl fun h => by cases h
  | @runBuildFails vs err hr _ herr =>
      have hline : Sys.line { s with run := .send none } = s.line ++ [none] := by
        unfold Sys.line
        simp [hr, RunPc.sending]
      exact .built hline rfl fun _ => ⟨err, herr⟩
  | runSend hr hsend =>
      -- from the sender into the channel: the same place in the line
      refine .same ?_ rfl
      unfold Sys.line
      simp [hr, RunPc.sending, Chan.send_buf hsend]
  | runExit hr => exact .same (line_congr rfl rfl rfl (by rw [hr]; rfl)) rfl
  | @proxyRecv started conf chan hp hrecv =>
      -- from the channel to the proxy: the same place in the line
      refine .same ?_ rfl
      unfold Sys.line
      simp [hp, ProxyPc.holding, Chan.recv_buf hrecv]
  -- the head of the line becomes the stored one
  | @proxyStore started conf hp =>
      refine .advanced ?_
      unfold Sys.line
      rw [hp]
      cases started || conf.isSome <;> rfl

/-! ## §2. No nil behind a configuration. -/

/-- Every configuration in the line is followed by configurations only. -/
def Sys.Unbroken (s : Sys) : Prop :=
  s.line.Pairwise fun older newer => older.isSome = true → newer.isSome = true

/-- No module fails a build behind a configuration: the loaded modules all return their
request middleware, or nothing but nil is stored and on its way. -/
def Survives (s : Sys) : Label → Prop
  | .runBuild _ =>
      (∀ conf, s.state.config = some conf → ∀ m ∈ conf.modules, ∃ m?, m.requestMiddleware = .ok m?)
        ∨ ∀ conf? ∈ s.line, conf? = none
  | _ => True

/-- Only a failing module makes a build fail. -/
theorem getConnectionModules_of_all {mods : List ModuleInstance}
    (h : ∀ m ∈ mods, ∃ m?, m.requestMiddleware = .ok m?) :
    ∃ middlewares, getConnectionModules mods = .ok middlewares := by
  induction mods with
  | nil => exact ⟨[], rfl⟩
  | cons mod mods ih =>
      obtain ⟨m?, hm⟩ := h mod List.mem_cons_self
      obtain ⟨middlewares, hrest⟩ := ih fun m hm => h m (List.mem_cons_of_mem _ hm)
      refine ⟨m?.toList ++ middlewares, ?_⟩
      unfold getConnectionModules
      exact bind_eq_ok.mpr ⟨m?, errorf_eq_ok.mpr hm, bind_eq_ok.mpr ⟨middlewares, hrest, rfl⟩⟩

theorem not_failed_of_all {state : K8sState} {vs : List EntryVisit} {err : GoError}
    (h : ∀ conf, state.config = some conf →
      ∀ m ∈ conf.modules, ∃ m?, m.requestMiddleware = .ok m?) :
    getProxyConfig state vs ≠ .error (.err err) := by
  intro herr
  cases hconf : state.config with
  -- without a configuration the build panics, which is no error
  | none =>
      unfold getProxyConfig at herr
      rw [hconf] at herr
      cases herr
  | some conf =>
      obtain ⟨middlewares, hmods⟩ := getConnectionModules_of_all (h conf hconf)
      rw [getProxyConfig_eq_ok.mpr ⟨conf, middlewares, hconf, hmods, rfl⟩] at herr
      cases herr

theorem unbroken_initial : (Sys.initial env).Unbroken := List.pairwise_singleton _ _

theorem unbroken_step (h : Step ext env load s l t) (hsurvives : Survives s l)
    (hs : s.Unbroken) : t.Unbroken := by
  unfold Sys.Unbroken at hs ⊢
  cases line_step h with
  | same hline _ =>
      rw [hline]
      exact hs
  | @built vs conf? hline _ hfailed =>
      rw [hline, List.pairwise_append]
      refine ⟨hs, List.pairwise_singleton _ _, ?_⟩
      intro older holder newer hnewer hsome
      rw [List.mem_singleton.mp hnewer]
      cases conf? with
      | some conf => rfl
      | none =>
          -- the build failed, so everything in front of it is nil
          obtain ⟨err, herr⟩ := hfailed rfl
          have hnil := hsurvives.resolve_left fun hall => not_failed_of_all hall herr
          rw [hnil older holder] at hsome
          cases hsome
  | advanced hline =>
      rw [hline] at hs
      exact hs.of_cons

/-- One step keeps a stored configuration of an unbroken line. -/
theorem stored_step (h : Step ext env load s l t) (hs : s.Unbroken)
    (hstored : s.stored.isSome = true) : t.stored.isSome = true := by
  cases line_step h with
  | same _ heq =>
      rw [heq]
      exact hstored
  | built _ heq _ =>
      rw [heq]
      exact hstored
  -- what is stored next stood behind a configuration
  | advanced hline =>
      unfold Sys.Unbroken at hs
      rw [hline] at hs
      exact List.rel_of_pairwise_cons hs List.mem_cons_self hstored

/-- **A stored configuration stays**, in every run whose builds meet `Survives`: once the
proxy has one it has one in every later state, and storing the nil of a failed build leaves
it as it was. -/
theorem stored_kept {ls ls' : List Label}
    (hbefore : Run (Guarded (Step ext env load) Survives) (Sys.initial env) ls s)
    (hafter : Run (Guarded (Step ext env load) Survives) s ls' t) :
    (s.stored.isSome = true → t.stored.isSome = true)
      ∧ ∀ u started, t.proxyLoop = .received started none → Step ext env load t .proxyStore u →
        u.stored = t.stored := by
  have hinv : ∀ {ls s t}, Run (Guarded (Step ext env load) Survives) s ls t → s.Unbroken →
      t.Unbroken ∧ (s.stored.isSome = true → t.stored.isSome = true) := by
    intro ls s t hrun hs
    refine hrun.invariant (I := fun t => t.Unbroken ∧ (s.stored.isSome = true →
      t.stored.isSome = true)) ?_ ⟨hs, id⟩
    intro u a v hu hstep
    exact ⟨unbroken_step hstep.1 hstep.2 hu.1, fun h => stored_step hstep.1 hu.1 (hu.2 h)⟩
  obtain ⟨hs, _⟩ := hinv hbefore unbroken_initial
  obtain ⟨ht, hkept⟩ := hinv hafter hs
  refine ⟨hkept, ?_⟩
  intro u started hloop hstore
  -- the nil that was received stands right behind the stored one, which is nil too
  have hline : t.line = t.stored :: none :: (t.configChan.buf ++ t.run.sending.toList) := by
    unfold Sys.line
    rw [hloop]
    rfl
  have hnone : t.stored = none := by
    unfold Sys.Unbroken at ht
    rw [hline] at ht
    cases hstored : t.stored with
    | none => rfl
    | some conf =>
        rw [hstored] at ht
        have hsome := List.rel_of_pairwise_cons ht List.mem_cons_self rfl
        cases hsome
  cases hstore with
  | proxyStore hp =>
      rw [hloop] at hp
      cases hp
      exact hnone.symm

/-! ## §3. The modules of the repository. -/

/-- Configurations that are loaded meet the condition: no build fails. -/
theorem survives_of_loaded (hs : s.Reached ext env (getControllerConfig ext env)) :
    Survives s l := by
  cases l with
  | runBuild vs =>
      refine Or.inl fun conf hconf m hm => ?_
      obtain ⟨outside, hload⟩ := config_of_reached hs hconf
      obtain ⟨d, configs, clients, domains, hmods⟩ := getControllerConfig_modules ext hload
      rw [hmods] at hm
      simp only [standardModules, List.mem_cons, List.not_mem_nil, or_false] at hm
      rcases hm with rfl | rfl | rfl | rfl | rfl | rfl | rfl | rfl | rfl <;> exact ⟨_, rfl⟩
  | _ => trivial

/-- So every run from the start is a run of the guarded system. -/
theorem guarded_of_loaded {ls ls' : List Label}
    (hbefore : Run (Step ext env (getControllerConfig ext env)) (Sys.initial env) ls s)
    (hrun : Run (Step ext env (getControllerConfig ext env)) s ls' t) :
    Run (Guarded (Step ext env (getControllerConfig ext env)) Survives) s ls' t := by
  refine hrun.guarded_of_invariant (P := fun _ => True)
    (I := Sys.Reached ext env (getControllerConfig ext env)) ?_ ?_ (fun _ _ => trivial)
    ⟨_, ls, rfl, hbefore⟩
  -- being reachable is kept by any step
  · rintro s a t _ ⟨s₀, ls, h₀, hreach⟩ hstep
    exact ⟨s₀, ls ++ [a], h₀, hreach.append (.single hstep)⟩
  · intro s a t _ hreach _
    exact survives_of_loaded hreach

end

/-! ## §4. Two runs. -/

/-- The small system is published twice. -/
theorem stored_kept_small : ∃ ls ls' s t,
    Run (Guarded (Step Ext.small smallEnv smallLoad) Survives) (Sys.initial smallEnv) ls s
      ∧ Run (Guarded (Step Ext.small smallEnv smallLoad) Survives) s ls' t
      ∧ s.stored.isSome = true ∧ t.stored.isSome = true := by
  obtain ⟨outside, vs₀, cfg₀, hboot, _⟩ := small_boot
  obtain ⟨vs, hvs⟩ := exists_visits (Sys.small cfg₀).state.ingresses
  obtain ⟨cfg, hcfg⟩ := getProxyConfig_ok (small_state cfg₀).1 (small_standard 4096) vs
  have hserve : Run (Step Ext.small smallEnv smallLoad) (Sys.small cfg₀) (serveRequest vs)
      ((Sys.small cfg₀).published cfg) := publish_run (small_waiting cfg₀) hvs hcfg
  have hbefore := guarded_of_loaded (.nil _) hboot
  have hafter := guarded_of_loaded hboot ((small_steps cfg₀).append hserve)
  exact ⟨_, _, _, _, hbefore, hafter, rfl, (stored_kept hbefore hafter).1 rfl⟩

/-- A module whose request middleware cannot be made. -/
def failingModule : ModuleInstance :=
  { emptyModule with requestMiddleware := .error (lit "not ready") }

/-- A configuration with that module. -/
def failingConf : ControllerConf := { smallConf 4096 with modules := [failingModule] }

/-- A load that finds the failing module once the API server has no service to offer. -/
def failingLoad (outside : Outside) : Except Fail ControllerConf :=
  match outside.api.getService smallName with
  | .ok _ => .ok (smallConf 4096)
  | .error _ => .ok failingConf

/-- An API server with nothing. -/
def Api.void : Api where
  getService _ := .error (lit "not found")
  getSecret _ := .error (lit "not found")
  getConfigMap _ := .error (lit "not found")

/-- `Run` builds without success and sends nil; the proxy stores it. -/
theorem fail_run {s : Sys} {vs : List EntryVisit} {err : GoError}
    {load : Outside → Except Fail ControllerConf} (h : s.Waiting)
    (hloop : s.proxyLoop = .idle true) (hvs : Visits s.state.ingresses vs)
    (herr : getProxyConfig s.state vs = .error (.err err)) :
    Run (Step Ext.small smallEnv load) s (serveRequest vs)
      { s with
        requestReconfigureChan := .empty
        run := .select
        configChan := .empty
        proxyLoop := .idle true
        stored := none } := by
  refine .cons (.runTakeToken h.select (recv_of_pending h.request)) ?_
  -- the error is logged, and nil is sent all the same
  refine .cons (.runBuildFails rfl hvs herr) ?_
  have hsend : s.configChan.send none = some ⟨[none], Nat.le_of_ble_eq_true rfl⟩ := by
    rw [h.config]
    rfl
  refine .cons (.runSend rfl hsend) ?_
  exact .cons (.proxyRecv hloop rfl) (.single (@Step.proxyStore _ _ _ _ true none rfl))

/-- **A failed build loses the configuration**: a reload brings in a module whose request
middleware cannot be made; the proxy had a configuration before and has none after. -/
theorem stored_lost : ∃ ls ls' s t,
    Run (Step Ext.small smallEnv failingLoad) (Sys.initial smallEnv) ls s
      ∧ s.stored.isSome = true
      ∧ Run (Step Ext.small smallEnv failingLoad) s ls' t ∧ t.stored = none := by
  obtain ⟨order⟩ : Nonempty (GoMap.RangeChoice GoString OidcClientYaml) := inferInstance
  obtain ⟨vs, cfg, hvs, hcfg⟩ := loaded_builds
  have hinit : Run (Step Ext.small smallEnv failingLoad) (Sys.initial smallEnv)
      (initUpdates ⟨Api.small, fun _ => .ok [], order⟩) (Sys.loaded smallEnv (smallConf 4096)) :=
    init_run rfl rfl rfl rfl
  have hserve : Run (Step Ext.small smallEnv failingLoad) (Sys.loaded smallEnv (smallConf 4096))
      (serveRequest vs) (Sys.booted cfg) :=
    publish_run ⟨pending_requestReconfigure _, rfl, rfl, false, rfl⟩ hvs hcfg
  have hreload : Run (Step Ext.small smallEnv failingLoad) (Sys.booted cfg)
      (reloadUpdates ⟨Api.void, fun _ => .ok [], order⟩) ((Sys.booted cfg).reload failingConf) :=
    reload_run rfl rfl rfl rfl rfl rfl
  have hfail : Run (Step Ext.small smallEnv failingLoad) ((Sys.booted cfg).reload failingConf)
      (serveRequest vs) { (Sys.booted cfg).reload failingConf with
        requestReconfigureChan := .empty
        stored := none } :=
    fail_run ⟨pending_requestReconfigure _, rfl, rfl, true, rfl⟩ rfl hvs rfl
  exact ⟨_, _, _, _, hinit.append hserve, rfl, hreload.append hfail, rfl⟩

end SIngress.Controller
