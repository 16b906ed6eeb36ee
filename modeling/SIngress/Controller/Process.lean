/-
  SIngress.Controller.Process — THE WHOLE PROCESS (`main` of `cmd/main.go`).

  `main` starts the manager, in which the handlers and the worker run, the
  controller's `Run` and the proxy's `Start`; it waits for a signal, cancels the
  context and waits for the last two.  They share one channel of configurations:
  `Run` sends on it WITHOUT looking at the context, and `Start` reads it only
  while it waits for messages of its listeners.

    • `coupled_step`     — the process refines the system of controller and proxy
                           loop (`Sys`), so what holds of every run of that system
                           holds of the process,
    • `exit_iff`         — after a signal the process can come to its end unless
                           `Run` is sending into a full channel that `Start` will
                           not read any more,
    • `hang_of_deaf`     — the handlers and `Run` alone can bring it there, whenever
                           `Start` reads no more while `Run` is at its `select` and
                           the manager has not stopped.
-/
import SIngress.Controller.Reload
import SIngress.Controller.Retention
import SIngress.Proxy.Lifecycle

namespace SIngress.Controller

open SIngress.Base SIngress.Lib SIngress.K8s SIngress.Platform SIngress.Config SIngress.Proxy
open SIngress.Modules

/-! ## §1. The goroutines of `main`. -/

/-- Where `main` is. -/
inductive MainPc where
  /-- In `Init`, or at `<-sigChan`. -/
  | waiting
  /-- In `wg.Wait`. -/
  | draining
  | exited
  deriving DecidableEq

structure Process where
  sys : Sys
  start : Lifecycle
  /-- The context is cancelled. -/
  cancelled : Bool
  /-- `sigChan` holds a signal. -/
  signalled : Bool
  main : MainPc
  /-- `mgr.Start` runs, and with it the handlers and the worker. -/
  manager : Bool
  /-- The goroutine that called `Start` is done. -/
  proxyDone : Bool

def Process.initial (env : ControllerEnvConf) : Process where
  sys := Sys.initial env
  start := .waiting false
  cancelled := false
  signalled := false
  main := .waiting
  manager := true
  proxyDone := false

/-- The end of `main` and a panic in a goroutine end the process. -/
structure Process.Alive (p : Process) : Prop where
  main : p.main ≠ .exited
  start : p.start ≠ .panicked

/-- Steps of the system that do not involve `Start` or the context. -/
def Label.outer : Label → Prop
  | .proxyRecv => False
  | .proxyStore => False
  | .runExit => False
  | _ => True

/-- A step of the worker or of a handler, which the manager runs. -/
def Label.aside : Label → Bool
  | .reconcile _ _ _ => true
  | .addClass _ => true
  | .removeClass _ => true
  | .requestCommon => true
  | _ => false

inductive ProcessLabel where
  | sys (l : Label)
  | managerStops
  | runExit
  | receives
  | stores
  | start (a : StartAct)
  | startReturns
  | signal
  | mainWakes
  | mainExits

section

variable (ext : Ext) (env : ControllerEnvConf) (tests : ErrorTests)

/-- One step of the system, with the configurations of this repository. -/
abbrev SysStep : Sys → Label → Sys → Prop := Step ext env (getControllerConfig ext env)

inductive ProcessStep : Process → ProcessLabel → Process → Prop
  | sys {p : Process} {l : Label} {sys' : Sys} :
      p.Alive → l.outer → (l.aside = true → p.manager = true) → SysStep ext env p.sys l sys' →
      ProcessStep p (.sys l) { p with sys := sys' }
  /-- `mgr.Start` returns once its context is done.  An error of it would panic, and end the
  process: here it returns nil. -/
  | managerStops {p : Process} :
      p.Alive → p.cancelled = true → ProcessStep p .managerStops { p with manager := false }
  | runExit {p : Process} {sys' : Sys} :
      p.Alive → p.cancelled = true → SysStep ext env p.sys .runExit sys' →
      ProcessStep p .runExit { p with sys := sys' }
  | receives {p : Process} {started : Bool} {conf : Option RoutingConfig} {sys' : Sys}
      {start' : Lifecycle} :
      p.Alive → SysStep ext env p.sys .proxyRecv sys' → sys'.proxyLoop = .received started conf →
      LifecycleStep tests p.start (.receives conf) start' →
      ProcessStep p .receives { p with sys := sys', start := start' }
  | stores {p : Process} {sys' : Sys} {start' : Lifecycle} :
      p.Alive → SysStep ext env p.sys .proxyStore sys' →
      LifecycleStep tests p.start .stores start' →
      ProcessStep p .stores { p with sys := sys', start := start' }
  /-- `Start` or a listener moves without the controller. -/
  | start {p : Process} {a : StartAct} {start' : Lifecycle} :
      p.Alive → (a.own = true ∨ a = .spins) → LifecycleStep tests p.start a start' →
      ProcessStep p (.start a) { p with start := start' }
  /-- An error of `Start` cancels the context; `main` does not hear of it. -/
  | startReturns {p : Process} {err : Option GoError} :
      p.Alive → p.start.result = some err → p.proxyDone = false →
      ProcessStep p .startReturns { p with
        proxyDone := true
        cancelled := p.cancelled || err.isSome }
  | signal {p : Process} : p.Alive → ProcessStep p .signal { p with signalled := true }
  | mainWakes {p : Process} :
      p.Alive → p.main = .waiting → p.signalled = true → (∀ stage, p.sys.run ≠ .init stage) →
      ProcessStep p .mainWakes { p with
        main := .draining
        signalled := false
        cancelled := true
        start := p.start.cancel }
  | mainExits {p : Process} :
      p.Alive → p.main = .draining → p.sys.run = .exited → p.proxyDone = true →
      ProcessStep p .mainExits { p with main := .exited }

end

/-! ## §2. Facts about the system. -/

section

variable {ext : Ext} {env : ControllerEnvConf} {load : Outside → Except Fail ControllerConf}
  {s t : Sys} {l : Label}

/-- What the worker and the handlers do leaves `Run`, the channel and the proxy alone. -/
structure Aside (s t : Sys) : Prop where
  run : t.run = s.run
  configChan : t.configChan = s.configChan
  proxyLoop : t.proxyLoop = s.proxyLoop
  stored : t.stored = s.stored

theorem aside_whenRelevant (s : Sys) (relevant : Bool) :
    Aside s (s.requestReconfigureWhenRelevant relevant) := by
  cases relevant with
  | false => exact ⟨rfl, rfl, rfl, rfl⟩
  | true => exact ⟨rfl, rfl, rfl, rfl⟩

theorem aside_step (h : Step ext env load s l t) (hl : l.aside = true) : Aside s t := by
  cases h with
  | reconcile api name ingress? =>
      have haside := aside_whenRelevant
        { s with
          state := (reconcile ext api s.state name ingress?).state
          confOf := s.recordConf ext api name ingress? }
        (reconcile ext api s.state name ingress?).requested
      exact ⟨haside.run, haside.configChan, haside.proxyLoop, haside.stored⟩
  | addClass cls => exact ⟨rfl, rfl, rfl, rfl⟩
  | removeClass name =>
      have haside := aside_whenRelevant { s with state := (s.state.removeIngressClass name).1 }
        (s.state.removeIngressClass name).2
      exact ⟨haside.run, haside.configChan, haside.proxyLoop, haside.stored⟩
  | requestCommon => exact ⟨rfl, rfl, rfl, rfl⟩
  | _ => cases hl

/-- Only the proxy's own steps move its loop. -/
theorem proxyLoop_step (h : Step ext env load s l t) (hrecv : l ≠ .proxyRecv)
    (hstore : l ≠ .proxyStore) : t.proxyLoop = s.proxyLoop ∧ t.stored = s.stored := by
  cases hl : l.aside with
  | true => exact ⟨(aside_step h hl).proxyLoop, (aside_step h hl).stored⟩
  | false =>
      cases h with
      | runUpdate _ _ =>
          unfold Sys.afterUpdate
          split <;> exact ⟨rfl, rfl⟩
      | initUpdate _ _ =>
          unfold Sys.afterUpdate
          split <;> exact ⟨rfl, rfl⟩
      | proxyRecv _ _ => exact absurd rfl hrecv
      | proxyStore _ => exact absurd rfl hstore
      | reconcile _ _ _ => cases hl
      | addClass _ => cases hl
      | removeClass _ => cases hl
      | requestCommon => cases hl
      | _ => exact ⟨rfl, rfl⟩

/-- `Init` is not entered again. -/
theorem booted_step (h : Step ext env load s l t) (hs : ∀ stage, s.run ≠ .init stage) :
    ∀ stage, t.run ≠ .init stage := by
  cases hl : l.aside with
  | true =>
      rw [(aside_step h hl).run]
      exact hs
  | false =>
      cases h with
      | runUpdate _ _ =>
          unfold Sys.afterUpdate
          split <;> exact fun _ => RunPc.noConfusion
      | initUpdate hrun _ => exact absurd hrun (hs _)
      | proxyRecv _ _ => exact hs
      | proxyStore _ => exact hs
      | reconcile _ _ _ => cases hl
      | addClass _ => cases hl
      | removeClass _ => cases hl
      | requestCommon => cases hl
      | _ => exact fun _ => RunPc.noConfusion

/-- There is a configuration from the first update of `Init` on. -/
theorem configured_of_reached (h : s.Reached ext env load)
    (hrun : ∀ stage, s.run ≠ .init stage) : ∃ conf, s.state.config = some conf := by
  have hinv : s.state.config.isSome = true ∨ s.run = .init .config := by
    refine h.invariant (I := fun s => s.state.config.isSome = true ∨ s.run = .init .config)
      (fun s₀ h₀ => Or.inr (by rw [h₀]; rfl)) ?_
    rintro s l t (hs | hs) hstep
    · exact Or.inl (config_isSome_step hstep hs)
    · cases hl : l.aside with
      | true => exact Or.inr ((aside_step hstep hl).run.trans hs)
      | false =>
          cases hstep with
          | initUpdate hinit hok =>
              rw [hs] at hinit
              cases hinit
              obtain ⟨conf, _, hstate⟩ := bind_eq_ok.mp (wrapErr_eq_ok.mp hok)
              cases hstate
              exact Or.inl rfl
          | proxyRecv _ _ => exact Or.inr hs
          | proxyStore _ => exact Or.inr hs
          | reconcile _ _ _ => cases hl
          | addClass _ => cases hl
          | removeClass _ => cases hl
          | requestCommon => cases hl
          | runTakeCommon hother _ => rw [hs] at hother; cases hother
          | runUpdate hother _ => rw [hs] at hother; cases hother
          | runUpdateFails hother _ => rw [hs] at hother; cases hother
          | runTakeToken hother _ => rw [hs] at hother; cases hother
          | runBuild hother _ _ => rw [hs] at hother; cases hother
          | runBuildFails hother _ _ => rw [hs] at hother; cases hother
          | runSend hother _ => rw [hs] at hother; cases hother
          | runExit hother => rw [hs] at hother; cases hother
  exact Option.isSome_iff_exists.mp (hinv.resolve_right (hrun .config))

/-- The modules of this repository never fail a build. -/
theorem builds_of_reached (h : s.Reached ext env (getControllerConfig ext env))
    {conf : ControllerConf} (hconf : s.state.config = some conf) (vs : List EntryVisit) :
    ∃ cfg, getProxyConfig s.state vs = .ok cfg := by
  obtain ⟨outside, hload⟩ := config_of_reached h hconf
  exact getProxyConfig_ok hconf (getControllerConfig_modules ext hload) vs

theorem not_failed_of_reached (h : s.Reached ext env (getControllerConfig ext env))
    {vs : List EntryVisit} {err : GoError} : getProxyConfig s.state vs ≠ .error (.err err) := by
  intro herr
  cases hconf : s.state.config with
  | none =>
      unfold getProxyConfig at herr
      rw [hconf] at herr
      cases herr
  | some conf =>
      obtain ⟨cfg, hcfg⟩ := builds_of_reached h hconf vs
      rw [hcfg] at herr
      cases herr

/-- So nil is never on its way. -/
theorem some_of_reached (h : s.Reached ext env (getControllerConfig ext env)) :
    ∀ conf? ∈ s.line.tail, conf?.isSome = true := by
  have hinv : s.Reached ext env (getControllerConfig ext env)
      ∧ ∀ conf? ∈ s.line.tail, conf?.isSome = true := by
    refine h.invariant (I := fun s => s.Reached ext env (getControllerConfig ext env)
      ∧ ∀ conf? ∈ s.line.tail, conf?.isSome = true) ?_ ?_
    · rintro s₀ rfl
      exact ⟨⟨_, _, rfl, .nil _⟩, fun _ hmem => by cases hmem⟩
    · rintro s l t ⟨hs, hsome⟩ hstep
      refine ⟨hs.next hstep, ?_⟩
      cases line_step hstep with
      | same hline _ =>
          rw [hline]
          exact hsome
      | @built vs conf? hline _ hfailed =>
          rw [hline, Sys.line, List.cons_append, List.tail_cons]
          intro c hc
          rcases List.mem_append.mp hc with hold | hnew
          · exact hsome c hold
          · rw [List.mem_singleton.mp hnew]
            cases conf? with
            | some conf => rfl
            | none =>
                obtain ⟨err, herr⟩ := hfailed rfl
                exact absurd herr (not_failed_of_reached hs)
      | advanced hline =>
          intro c hc
          refine hsome c ?_
          rw [hline, List.tail_cons]
          exact List.mem_of_mem_tail hc
  exact hinv.2

end

/-! ## §3. The process refines the system. -/

/-- The proxy's loop in the system, for every point of `Start`. -/
def loopOf : Lifecycle → ProxyPc
  | .waiting _ => .idle false
  | .first _ conf => .received false conf
  | .serving _ s =>
      match s.pc with
      | .reconfiguring conf => .received true conf
      | _ => .idle true
  | .aborted => .idle false
  | .panicked => .crashed

section

variable {ext : Ext} {env : ControllerEnvConf} {tests : ErrorTests} {s t : Sys} {l : Label}
  {ℓ ℓ' : Lifecycle} {a : StartAct} {p q : Process} {pl : ProcessLabel}

/-- Steps of `Start` alone leave its loop in the system. -/
theorem loopOf_own (h : LifecycleStep tests ℓ a ℓ') (ha : a.own = true ∨ a = .spins) :
    loopOf ℓ' = loopOf ℓ ∧ ℓ'.routingConfig = ℓ.routingConfig := by
  cases h with
  | givesUp => exact ⟨rfl, rfl⟩
  | serves hserving =>
      refine ⟨?_, ?_⟩
      · unfold loopOf
        cases hserving with
        | listener _ _ _ => rfl
        | spins _ _ _ _ => rfl
        | starts hpc _ => simp only [hpc]
        | startFails err hpc _ _ => simp only [hpc]
        | startsAll hpc => simp only [hpc]
        | setsReady hpc => simp only [hpc]
        | takes hpc _ _ _ => simp only [hpc]
        | clearsReady hpc => simp only [hpc]
        | counts hpc => simp only [hpc]
        | notices hpc _ _ _ => simp only [hpc]
        | withdraws hpc => simp only [hpc]
        | cancels hpc => simp only [hpc]
        | returns hpc _ => simp only [hpc]
        | cancelled => rcases ha with ha | ha <;> cases ha
        | receives _ _ _ => rcases ha with ha | ha <;> cases ha
        | stores _ => rcases ha with ha | ha <;> cases ha
      · cases hserving with
        | stores _ => rcases ha with ha | ha <;> cases ha
        | _ => rfl
  | cancelledWaiting _ => rcases ha with ha | ha <;> cases ha
  | cancelledFirst _ _ => rcases ha with ha | ha <;> cases ha
  | receives _ _ => rcases ha with ha | ha <;> cases ha
  | storesNil _ => rcases ha with ha | ha <;> cases ha
  | stores _ _ => rcases ha with ha | ha <;> cases ha

/-- Where `Start` receives, and what it holds then. -/
theorem loopOf_receives {conf : Option RoutingConfig}
    (h : LifecycleStep tests ℓ (.receives conf) ℓ') :
    ∃ started, loopOf ℓ = .idle started ∧ loopOf ℓ' = .received started conf
      ∧ ℓ'.routingConfig = ℓ.routingConfig := by
  cases h with
  | receives ctxDone => exact ⟨false, rfl, rfl, rfl⟩
  | serves hserving =>
      cases hserving with
      | receives _ hpc _ =>
          refine ⟨true, ?_, rfl, rfl⟩
          unfold loopOf
          simp only [hpc]

/-- What `Start` stores. -/
theorem loopOf_stores (h : LifecycleStep tests ℓ .stores ℓ') :
    ∃ started conf, loopOf ℓ = .received started conf ∧ ℓ'.routingConfig = conf
      ∧ loopOf ℓ' = if started || conf.isSome then .idle true else .crashed := by
  cases h with
  | storesNil ctxDone => exact ⟨false, none, rfl, rfl, rfl⟩
  | stores ctxDone cfg => exact ⟨false, some cfg, rfl, rfl, rfl⟩
  | serves hserving =>
      cases hserving with
      | @stores conf hpc =>
          refine ⟨true, conf, ?_, rfl, rfl⟩
          unfold loopOf
          simp only [hpc]

variable (tests) in
/-- A cancellation is a step of `Start`, or `Start` is over. -/
theorem cancel_step (ℓ : Lifecycle) :
    ℓ.cancel = ℓ ∨ LifecycleStep tests ℓ .cancelled ℓ.cancel := by
  cases ℓ with
  | waiting ctxDone => exact Or.inr (.cancelledWaiting ctxDone)
  | first ctxDone conf => exact Or.inr (.cancelledFirst ctxDone conf)
  | serving cfg s => exact Or.inr (.serves (.cancelled s))
  | aborted => exact Or.inl rfl
  | panicked => exact Or.inl rfl

theorem cancel_fields (ℓ : Lifecycle) :
    loopOf ℓ.cancel = loopOf ℓ ∧ ℓ.cancel.routingConfig = ℓ.routingConfig
      ∧ ℓ.cancel.result = ℓ.result ∧ ℓ.cancel.ctxDone = true := by
  cases ℓ <;> exact ⟨rfl, rfl, rfl, rfl⟩

/-- `Start`, once done with, stays so, and its context stays done. -/
theorem informed_step (h : LifecycleStep tests ℓ a ℓ') :
    (ℓ.result ≠ none → ℓ'.result = ℓ.result) ∧ (ℓ.ctxDone = true → ℓ'.ctxDone = true) := by
  cases h with
  | serves hserving =>
      constructor
      · intro hresult
        unfold Lifecycle.result at hresult ⊢
        cases hserving with
        | listener _ _ _ => rfl
        | cancelled => rfl
        | spins _ _ _ _ => rfl
        | _ => simp_all
      · intro hdone
        cases hserving with
        | cancelled => rfl
        | _ => exact hdone
  | givesUp => exact ⟨fun hresult => absurd rfl hresult, fun _ => rfl⟩
  | cancelledWaiting _ => exact ⟨fun hresult => absurd rfl hresult, fun _ => rfl⟩
  | cancelledFirst _ _ => exact ⟨fun hresult => absurd rfl hresult, fun _ => rfl⟩
  | receives _ _ => exact ⟨fun hresult => absurd rfl hresult, id⟩
  | storesNil _ => exact ⟨fun hresult => absurd rfl hresult, fun _ => rfl⟩
  | stores _ _ => exact ⟨fun hresult => absurd rfl hresult, id⟩

/-- What holds of every state of the process. -/
structure Coupled (ext : Ext) (env : ControllerEnvConf) (tests : ErrorTests) (p : Process) :
    Prop where
  reached : p.sys.Reached ext env (getControllerConfig ext env)
  loop : p.sys.proxyLoop = loopOf p.start
  stored : p.sys.stored = p.start.routingConfig
  sound : p.start.Sound tests
  /-- A cancellation has reached `Start`, if it still runs. -/
  informed : p.cancelled = true → p.start.result = none → p.start.ctxDone = true
  /-- `main` left its wait by cancelling, after `Init`. -/
  woken : p.main ≠ .waiting → p.cancelled = true ∧ ∀ stage, p.sys.run ≠ .init stage

theorem coupled_initial : Coupled ext env tests (Process.initial env) where
  reached := ⟨_, _, rfl, .nil _⟩
  loop := rfl
  stored := rfl
  sound := trivial
  informed := fun h => by cases h
  woken := fun h => absurd rfl h

theorem informed_of_step (h : LifecycleStep tests ℓ a ℓ') {cancelled : Bool}
    (hinformed : cancelled = true → ℓ.result = none → ℓ.ctxDone = true) :
    cancelled = true → ℓ'.result = none → ℓ'.ctxDone = true := by
  intro hcancelled hresult
  obtain ⟨hkeeps, hdone⟩ := informed_step h
  cases hbefore : ℓ.result with
  | none => exact hdone (hinformed hcancelled hbefore)
  | some err =>
      rw [hkeeps (by rw [hbefore]; exact Option.some_ne_none err), hbefore] at hresult
      cases hresult

/-- **A step of the process is a step of the system, or none.** -/
theorem coupled_step (h : ProcessStep ext env tests p pl q) (hp : Coupled ext env tests p) :
    Coupled ext env tests q := by
  cases h with
  | @sys l sys' _ houter _ hstep =>
      obtain ⟨hloop, hstored⟩ := proxyLoop_step hstep
        (fun heq => by rw [heq] at houter; exact houter)
        (fun heq => by rw [heq] at houter; exact houter)
      exact ⟨hp.reached.next hstep, hloop.trans hp.loop, hstored.trans hp.stored, hp.sound,
        hp.informed, fun hmain => ⟨(hp.woken hmain).1, booted_step hstep (hp.woken hmain).2⟩⟩
  | managerStops _ _ => exact ⟨hp.reached, hp.loop, hp.stored, hp.sound, hp.informed, hp.woken⟩
  | runExit _ _ hstep =>
      obtain ⟨hloop, hstored⟩ := proxyLoop_step hstep Label.noConfusion Label.noConfusion
      exact ⟨hp.reached.next hstep, hloop.trans hp.loop, hstored.trans hp.stored, hp.sound,
        hp.informed, fun hmain => ⟨(hp.woken hmain).1, booted_step hstep (hp.woken hmain).2⟩⟩
  | @receives started conf sys' start' _ hstep hreceived hstart =>
      obtain ⟨started', hbefore, hafter, hconfig⟩ := loopOf_receives hstart
      have hboth : sys'.proxyLoop = loopOf start' ∧ sys'.stored = p.sys.stored := by
        rw [hafter]
        cases hstep with
        | proxyRecv hidle _ =>
            rw [hp.loop, hbefore] at hidle
            cases hidle
            cases hreceived
            exact ⟨rfl, rfl⟩
      exact ⟨hp.reached.next hstep, hboth.1,
        hboth.2.trans (hp.stored.trans hconfig.symm), lifecycle_sound_step hstart hp.sound,
        informed_of_step hstart hp.informed,
        fun hmain => ⟨(hp.woken hmain).1, booted_step hstep (hp.woken hmain).2⟩⟩
  | @stores sys' start' _ hstep hstart =>
      obtain ⟨started, conf, hbefore, hconfig, hafter⟩ := loopOf_stores hstart
      have hboth : sys'.proxyLoop = loopOf start' ∧ sys'.stored = start'.routingConfig := by
        rw [hafter, hconfig]
        cases hstep with
        | proxyStore hreceived =>
            rw [hp.loop, hbefore] at hreceived
            cases hreceived
            exact ⟨rfl, rfl⟩
      exact ⟨hp.reached.next hstep, hboth.1, hboth.2,
        lifecycle_sound_step hstart hp.sound, informed_of_step hstart hp.informed,
        fun hmain => ⟨(hp.woken hmain).1, booted_step hstep (hp.woken hmain).2⟩⟩
  | start _ ha hstart =>
      obtain ⟨hloop, hconfig⟩ := loopOf_own hstart ha
      exact ⟨hp.reached, hp.loop.trans hloop.symm, hp.stored.trans hconfig.symm,
        lifecycle_sound_step hstart hp.sound, informed_of_step hstart hp.informed, hp.woken⟩
  | startReturns _ hresult _ =>
      refine ⟨hp.reached, hp.loop, hp.stored, hp.sound, fun _ hnone => ?_, fun hmain => ?_⟩
      · rw [hresult] at hnone
        cases hnone
      · obtain ⟨hcancelled, hbooted⟩ := hp.woken hmain
        exact ⟨by rw [hcancelled, Bool.true_or], hbooted⟩
  | signal _ => exact ⟨hp.reached, hp.loop, hp.stored, hp.sound, hp.informed, hp.woken⟩
  | mainWakes _ _ _ hbooted =>
      obtain ⟨hloop, hconfig, _, hdone⟩ := cancel_fields p.start
      refine ⟨hp.reached, hp.loop.trans hloop.symm, hp.stored.trans hconfig.symm, ?_,
        fun _ _ => hdone, fun _ => ⟨rfl, hbooted⟩⟩
      rcases cancel_step tests p.start with hsame | hstart
      · rw [hsame]
        exact hp.sound
      · exact lifecycle_sound_step hstart hp.sound
  | mainExits _ hmain _ _ =>
      refine ⟨hp.reached, hp.loop, hp.stored, hp.sound, hp.informed, fun _ => hp.woken ?_⟩
      rw [hmain]
      exact MainPc.noConfusion

theorem coupled_of_run {pls : List ProcessLabel}
    (h : Run (ProcessStep ext env tests) (Process.initial env) pls p) :
    Coupled ext env tests p :=
  h.invariant (fun _ _ _ hp hstep => coupled_step hstep hp) coupled_initial

/-! ## §4. A channel nobody reads. -/

/-- `Start` will not receive another configuration. -/
def Deaf : Lifecycle → Prop
  | .serving _ s => (∃ err, s.pc = .returned err) ∨ ¬ s.seen.loops
  | .aborted => True
  | _ => False

/-- `Run` builds a configuration or waits to send it. -/
def RunPc.Delivering (run : RunPc) : Prop := run = .build ∨ ∃ conf, run = .send conf

/-- `Run` is to send, the channel is full, and `Start` is deaf. -/
structure Process.Doomed (p : Process) : Prop where
  delivering : p.sys.run.Delivering
  full : p.sys.configChan.buf.length = 5
  deaf : Deaf p.start

theorem not_loops_step {n : Nat} {σ τ : Listening n} {party : Party n}
    (h : ListenStep tests σ party τ) (hσ : ¬ σ.loops) : ¬ τ.loops := by
  cases messages_step h with
  | silent hsenders _ =>
      rw [loops_iff, hsenders, handlerCount_step h, ← loops_iff]
      exact hσ
  | server l hloops => exact absurd hloops hσ
  | tcp i hloops => exact absurd hloops hσ

theorem deaf_step (h : LifecycleStep tests ℓ a ℓ') (hsound : ℓ.Sound tests) (hℓ : Deaf ℓ) :
    Deaf ℓ' ∧ ∀ conf, a ≠ .receives conf := by
  cases h with
  | @serves cfg s t a hserving =>
      refine ⟨?_, ?_⟩
      · rcases hℓ with ⟨err, hpc⟩ | hended
        · left
          cases hserving with
          | listener _ _ _ => exact ⟨err, hpc⟩
          | cancelled => exact ⟨err, hpc⟩
          | spins _ _ _ _ => exact ⟨err, hpc⟩
          | _ => simp_all
        · right
          rcases Proxy.seen_step hserving hsound.1.flagged with hsame | ⟨party, hmove⟩
          · rw [hsame]
            exact hended
          · exact not_loops_step hmove hended
      · rintro conf rfl
        cases hserving with
        | receives _ hpc hloops =>
            rcases hℓ with ⟨err, hreturned⟩ | hended
            · rw [hpc] at hreturned
              cases hreturned
            · unfold Serving.seen at hended
              rw [hpc] at hended
              exact hended hloops
  | _ => exact hℓ.elim

theorem send_full {conf : Option RoutingConfig} {chan : Chan (Option RoutingConfig) 5}
    (h : s.configChan.buf.length = 5) : s.configChan.send conf ≠ some chan := by
  unfold Chan.send
  rw [dif_neg (by omega)]
  exact fun hnone => by cases hnone

/-- While `Run` is stuck, nothing else of the system moves it on. -/
theorem stuck_step {load : Outside → Except Fail ControllerConf} (h : Step ext env load s l t)
    (hl : l ≠ .proxyRecv) (hrun : s.run.Delivering) (hfull : s.configChan.buf.length = 5) :
    t.run.Delivering ∧ t.configChan = s.configChan := by
  cases haside : l.aside with
  | true => exact ⟨(aside_step h haside).run ▸ hrun, (aside_step h haside).configChan⟩
  | false =>
      cases h with
      | proxyRecv _ _ => exact absurd rfl hl
      | proxyStore _ => exact ⟨hrun, rfl⟩
      | runBuild _ _ _ => exact ⟨Or.inr ⟨_, rfl⟩, rfl⟩
      | runBuildFails _ _ _ => exact ⟨Or.inr ⟨_, rfl⟩, rfl⟩
      | runSend _ hsend => exact absurd hsend (send_full hfull)
      | reconcile _ _ _ => cases haside
      | addClass _ => cases haside
      | removeClass _ => cases haside
      | requestCommon => cases haside
      -- `Run` is elsewhere
      | _ => simp_all [RunPc.Delivering]

/-- **Nothing leads out.** -/
theorem doomed_step (h : ProcessStep ext env tests p pl q) (hp : Coupled ext env tests p)
    (hdoomed : p.Doomed) : q.Doomed ∧ q.main ≠ .exited := by
  obtain ⟨hrun, hfull, hdeaf⟩ := hdoomed
  have hstuck : ∀ {l : Label} {sys' : Sys}, SysStep ext env p.sys l sys' → l ≠ .proxyRecv →
      sys'.run.Delivering ∧ sys'.configChan.buf.length = 5 := by
    intro l sys' hstep hl
    obtain ⟨hrun', hchan⟩ := stuck_step hstep hl hrun hfull
    exact ⟨hrun', by rw [hchan]; exact hfull⟩
  cases h with
  | sys halive houter _ hstep =>
      obtain ⟨hrun', hfull'⟩ := hstuck hstep (fun heq => by rw [heq] at houter; exact houter)
      exact ⟨⟨hrun', hfull', hdeaf⟩, halive.main⟩
  | managerStops halive _ => exact ⟨⟨hrun, hfull, hdeaf⟩, halive.main⟩
  | runExit halive _ hstep =>
      obtain ⟨hrun', hfull'⟩ := hstuck hstep Label.noConfusion
      exact ⟨⟨hrun', hfull', hdeaf⟩, halive.main⟩
  | receives _ _ _ hstart =>
      exact absurd rfl ((deaf_step hstart hp.sound hdeaf).2 _)
  | stores halive hstep hstart =>
      obtain ⟨hrun', hfull'⟩ := hstuck hstep Label.noConfusion
      exact ⟨⟨hrun', hfull', (deaf_step hstart hp.sound hdeaf).1⟩, halive.main⟩
  | start halive _ hstart =>
      exact ⟨⟨hrun, hfull, (deaf_step hstart hp.sound hdeaf).1⟩, halive.main⟩
  | startReturns halive _ _ => exact ⟨⟨hrun, hfull, hdeaf⟩, halive.main⟩
  | signal halive => exact ⟨⟨hrun, hfull, hdeaf⟩, halive.main⟩
  | mainWakes halive _ _ _ =>
      refine ⟨⟨hrun, hfull, ?_⟩, MainPc.noConfusion⟩
      rcases cancel_step tests p.start with hsame | hstart
      · show Deaf p.start.cancel
        rw [hsame]
        exact hdeaf
      · exact (deaf_step hstart hp.sound hdeaf).1
  | mainExits _ _ hexited _ =>
      rw [hexited] at hrun
      rcases hrun with hbuild | ⟨conf, hsend⟩
      · cases hbuild
      · cases hsend

theorem doomed_of_run {pls : List ProcessLabel} (h : Run (ProcessStep ext env tests) p pls q)
    (hp : Coupled ext env tests p) (hdoomed : p.Doomed) (hmain : p.main ≠ .exited) :
    q.Doomed ∧ q.main ≠ .exited := by
  have hinv : Coupled ext env tests q ∧ q.Doomed ∧ q.main ≠ .exited := by
    refine h.invariant (I := fun p => Coupled ext env tests p ∧ p.Doomed ∧ p.main ≠ .exited) ?_
      ⟨hp, hdoomed, hmain⟩
    intro p pl q hp hstep
    exact ⟨coupled_step hstep hp.1, doomed_step hstep hp.1 hp.2.1⟩
  exact hinv.2

/-! ## §5. `Run` comes to its end. -/

/-- `Run` can return while `Start` stays where it is. -/
def Process.RunEnds (ext : Ext) (env : ControllerEnvConf) (tests : ErrorTests) (p : Process) :
    Prop :=
  ∃ pls sys', sys'.run = .exited ∧ Run (ProcessStep ext env tests) p pls { p with sys := sys' }

/-- `Start` can return while `Run` stays where it is. -/
def Process.StartEnds (ext : Ext) (env : ControllerEnvConf) (tests : ErrorTests) (p : Process) :
    Prop :=
  ∃ pls sys' ℓ', sys'.run = p.sys.run ∧ ℓ'.result ≠ none
    ∧ Run (ProcessStep ext env tests) p pls { p with sys := sys', start := ℓ' }

/-- `Start` can make room in the channel while `Run` stays where it is. -/
def Process.MakesRoom (ext : Ext) (env : ControllerEnvConf) (tests : ErrorTests) (p : Process) :
    Prop :=
  ∃ pls sys' ℓ', sys'.run = p.sys.run ∧ sys'.configChan.buf.length < 5 ∧ ℓ' ≠ .panicked
    ∧ Run (ProcessStep ext env tests) p pls { p with sys := sys', start := ℓ' }

section

variable (ext env tests)

/-- `Run` sees the context at its `select`. -/
theorem select_exits (halive : p.Alive) (hcancelled : p.cancelled = true)
    (hrun : p.sys.run = .select) : ∃ pls, Run (ProcessStep ext env tests) p pls
      { p with sys := { p.sys with run := .exited } } :=
  ⟨_, .single (.runExit halive hcancelled (.runExit hrun))⟩

/-- With room in the channel, `Run` gets rid of what it built. -/
theorem sends {conf : Option RoutingConfig} (hrun : s.run = .send conf)
    (hroom : s.configChan.buf.length < 5) :
    ∃ chan : Chan (Option RoutingConfig) 5, chan.buf.length = s.configChan.buf.length + 1
      ∧ SysStep ext env s .runSend { s with configChan := chan, run := .select } := by
  have hsend : s.configChan.send conf = some ⟨s.configChan.buf ++ [conf], by
      rw [List.length_append]; exact hroom⟩ := dif_pos hroom
  exact ⟨_, List.length_append, .runSend hrun hsend⟩

/-- A build succeeds. -/
theorem builds (h : s.Reached ext env (getControllerConfig ext env)) (hrun : s.run = .build) :
    ∃ vs cfg, SysStep ext env s (.runBuild vs) { s with run := .send (some cfg) } := by
  have hbooted : ∀ stage, s.run ≠ .init stage := by
    rw [hrun]
    exact fun _ => RunPc.noConfusion
  obtain ⟨conf, hconf⟩ := configured_of_reached h hbooted
  obtain ⟨vs, hvs⟩ := exists_visits s.state.ingresses
  obtain ⟨cfg, hcfg⟩ := builds_of_reached h hconf vs
  exact ⟨vs, cfg, .runBuild hrun hvs hcfg⟩

theorem send_exits (halive : p.Alive) (hcancelled : p.cancelled = true)
    {conf : Option RoutingConfig} (hrun : p.sys.run = .send conf)
    (hroom : p.sys.configChan.buf.length < 5) : p.RunEnds ext env tests := by
  obtain ⟨chan, -, hsent⟩ := sends ext env hrun hroom
  obtain ⟨pls, hexit⟩ := select_exits ext env tests
    (p := { p with sys := { p.sys with configChan := chan, run := .select } })
    ⟨halive.main, halive.start⟩ hcancelled rfl
  exact ⟨_, _, rfl, .cons (.sys (l := .runSend) halive trivial (fun haside => by cases haside)
    hsent) hexit⟩

theorem build_exits (hp : Coupled ext env tests p) (halive : p.Alive)
    (hcancelled : p.cancelled = true) (hrun : p.sys.run = .build)
    (hroom : p.sys.configChan.buf.length < 5) : p.RunEnds ext env tests := by
  obtain ⟨vs, cfg, hbuilt⟩ := builds ext env hp.reached hrun
  obtain ⟨pls, sys', hexited, hexit⟩ := send_exits ext env tests
    (p := { p with sys := { p.sys with run := .send (some cfg) } })
    ⟨halive.main, halive.start⟩ hcancelled rfl hroom
  exact ⟨_, sys', hexited, .cons (.sys (l := .runBuild vs) halive trivial
    (fun haside => by cases haside) hbuilt) hexit⟩

/-- An API server that is gone, as after the cancellation. -/
theorem exists_void : ∃ outside : Outside, outside.api = Api.void := by
  obtain ⟨order⟩ : Nonempty (GoMap.RangeChoice GoString OidcClientYaml) := inferInstance
  exact ⟨⟨Api.void, fun _ => .ok [], order⟩, rfl⟩

/-- Without an API server an update fails with an error, or needs none. -/
theorem update_void {outside : Outside} (hvoid : outside.api = Api.void) {state : K8sState}
    {conf : ControllerConf} (hconf : state.config = some conf) (stage : CommonStage) :
    (∃ state', stage.update ext env (getControllerConfig ext env) outside state = .ok state')
    ∨ ∃ err, stage.update ext env (getControllerConfig ext env) outside state
      = .error (.err err) := by
  unfold CommonStage.update
  rw [conf_of_config hconf]
  cases stage with
  | config =>
      right
      dsimp only
      unfold getControllerConfig getRawConf
      rw [hvoid]
      exact ⟨_, rfl⟩
  | defaultTls =>
      show (∃ state', wrapErr _ (getDefaultTls ext env outside.api conf >>= fun cert =>
          pure { state with defaultTlsSecret := cert }) = .ok state')
        ∨ ∃ err, wrapErr _ (getDefaultTls ext env outside.api conf >>= fun cert =>
          pure { state with defaultTlsSecret := cert }) = .error (.err err)
      cases hsecret : conf.defaultTlsSecret.isEmpty with
      | true =>
          rw [show getDefaultTls ext env outside.api conf = .ok none from if_pos hsecret]
          exact Or.inl ⟨_, rfl⟩
      | false =>
          unfold getDefaultTls getCertificateFromSecret
          rw [if_neg (by rw [hsecret]; exact Bool.false_ne_true), hvoid]
          exact Or.inr ⟨_, rfl⟩
  | upstreamIp => exact Or.inl ⟨_, rfl⟩
  | tcpProxy =>
      rw [hvoid]
      show (∃ state', wrapErr _ (conf.tcpProxy.mapM (tcpProxyOf ext Api.void) >>= fun proxies =>
          pure { state with tcpProxies := proxies }) = .ok state')
        ∨ ∃ err, wrapErr _ (conf.tcpProxy.mapM (tcpProxyOf ext Api.void) >>= fun proxies =>
          pure { state with tcpProxies := proxies }) = .error (.err err)
      cases conf.tcpProxy with
      | nil => exact Or.inl ⟨_, rfl⟩
      | cons tcp rest => exact Or.inr ⟨_, rfl⟩

/-- The end of a reload, update by update. -/
theorem common_exits (stage : CommonStage)
    (hnext : ∀ next, stage.next = some next → ∀ p : Process, Coupled ext env tests p → p.Alive →
      p.cancelled = true → p.sys.run = .common next → p.RunEnds ext env tests)
    (hp : Coupled ext env tests p) (halive : p.Alive) (hcancelled : p.cancelled = true)
    (hrun : p.sys.run = .common stage) : p.RunEnds ext env tests := by
  have hbooted : ∀ stage, p.sys.run ≠ .init stage := by
    rw [hrun]
    exact fun _ => RunPc.noConfusion
  obtain ⟨conf, hconf⟩ := configured_of_reached hp.reached hbooted
  obtain ⟨outside, hvoid⟩ := exists_void
  rcases update_void ext env hvoid hconf stage with ⟨state', hok⟩ | ⟨err, herr⟩
  · have hstep : ProcessStep ext env tests p (.sys (.runUpdate outside))
        { p with sys := p.sys.afterUpdate stage state' .common } :=
      .sys halive trivial (fun haside => by cases haside) (.runUpdate hrun hok)
    have hp' := coupled_step hstep hp
    have halive' : Process.Alive { p with sys := p.sys.afterUpdate stage state' .common } :=
      ⟨halive.main, halive.start⟩
    cases hs : stage.next with
    | none =>
        have hselect : (p.sys.afterUpdate stage state' .common).run = .select := by
          unfold Sys.afterUpdate
          rw [hs]
          rfl
        obtain ⟨pls, hexit⟩ := select_exits ext env tests halive' hcancelled hselect
        exact ⟨_, _, rfl, .cons hstep hexit⟩
    | some next =>
        have hcommon : (p.sys.afterUpdate stage state' .common).run = .common next := by
          unfold Sys.afterUpdate
          rw [hs]
        obtain ⟨pls, sys', hexited, hexit⟩ := hnext next hs _ hp' halive' hcancelled hcommon
        exact ⟨_, sys', hexited, .cons hstep hexit⟩
  · obtain ⟨pls, hexit⟩ := select_exits ext env tests
      (p := { p with sys := { p.sys with run := .select } }) ⟨halive.main, halive.start⟩
      hcancelled rfl
    exact ⟨_, _, rfl, .cons (.sys (l := .runUpdate outside) halive trivial
      (fun haside => by cases haside) (.runUpdateFails hrun herr)) hexit⟩

/-- **`Run` ends**, unless it has something to send into a full channel. -/
theorem run_exits (hp : Coupled ext env tests p) (halive : p.Alive)
    (hcancelled : p.cancelled = true) (hbooted : ∀ stage, p.sys.run ≠ .init stage)
    (hfree : p.sys.run.Delivering → p.sys.configChan.buf.length < 5) :
    p.RunEnds ext env tests := by
  cases hrun : p.sys.run with
  | init stage => exact absurd hrun (hbooted stage)
  | select =>
      obtain ⟨pls, hexit⟩ := select_exits ext env tests halive hcancelled hrun
      exact ⟨_, _, rfl, hexit⟩
  | common stage =>
      -- the last update first
      have htcp := fun p => common_exits ext env tests (p := p) .tcpProxy
        (fun next hnext => by cases hnext)
      have hip := fun p => common_exits ext env tests (p := p) .upstreamIp
        (fun next hnext => by cases hnext; exact htcp)
      have htls := fun p => common_exits ext env tests (p := p) .defaultTls
        (fun next hnext => by cases hnext; exact hip)
      have hconfig := fun p => common_exits ext env tests (p := p) .config
        (fun next hnext => by cases hnext; exact htls)
      cases stage with
      | config => exact hconfig p hp halive hcancelled hrun
      | defaultTls => exact htls p hp halive hcancelled hrun
      | upstreamIp => exact hip p hp halive hcancelled hrun
      | tcpProxy => exact htcp p hp halive hcancelled hrun
  | build => exact build_exits ext env tests hp halive hcancelled hrun (hfree (Or.inl hrun))
  | send conf =>
      exact send_exits ext env tests halive hcancelled hrun (hfree (Or.inr ⟨conf, hrun⟩))
  | exited => exact ⟨_, p.sys, hrun, .nil p⟩

end

/-! ## §6. `Start` comes to its end. -/

variable (ext env) in
/-- `Start` and its listeners move alone. -/
theorem Run.inProcess {cfg : RoutingConfig} {st st' : Serving cfg} {as : List StartAct}
    (h : Run (ServingStep tests cfg) st as st') (hown : ∀ a ∈ as, a.own = true)
    (hmain : p.main ≠ .exited) (hstart : p.start = .serving cfg st) :
    ∃ pls, Run (ProcessStep ext env tests) p pls { p with start := .serving cfg st' } := by
  induction h generalizing p with
  | nil st => exact ⟨[], by rw [← hstart]; exact .nil p⟩
  | @cons st st₁ st₂ a as hstep _ ih =>
      have halive : p.Alive := ⟨hmain, by rw [hstart]; exact Lifecycle.noConfusion⟩
      obtain ⟨pls, hrun⟩ := ih (fun b hb => hown b (List.mem_cons_of_mem _ hb))
        (p := { p with start := .serving cfg st₁ }) hmain rfl
      exact ⟨_, .cons (.start halive (Or.inl (hown a List.mem_cons_self))
        (by rw [hstart]; exact .serves hstep)) hrun⟩

/-- `Start` stores what it received. -/
theorem stores_run (hp : Coupled ext env tests p) (halive : p.Alive)
    (h : LifecycleStep tests p.start .stores ℓ') : ∃ sys', sys'.run = p.sys.run
      ∧ sys'.configChan = p.sys.configChan
      ∧ ProcessStep ext env tests p .stores { p with sys := sys', start := ℓ' } := by
  obtain ⟨started, conf, hbefore, -, -⟩ := loopOf_stores h
  have hstep : SysStep ext env p.sys .proxyStore _ := .proxyStore (hp.loop.trans hbefore)
  refine ⟨_, ?_, ?_, .stores halive hstep h⟩
  · rfl
  · rfl

/-- The first configuration is not nil. -/
theorem first_some (hp : Coupled ext env tests p) {ctxDone : Bool} {conf : Option RoutingConfig}
    (hstart : p.start = .first ctxDone conf) : ∃ cfg, conf = some cfg := by
  have hloop := hp.loop
  rw [hstart] at hloop
  refine Option.isSome_iff_exists.mp (some_of_reached hp.reached conf ?_)
  unfold Sys.line
  rw [hloop, List.tail_cons]
  simp [loopOf, ProxyPc.holding]

/-- It holds a configuration that it has to store. -/
def storing {n : Nat} : ServingPc n → Nat
  | .reconfiguring _ => 1
  | _ => 0

/-- **`Start` ends**: every step it takes alone is work done, and a configuration it holds is
stored at once. -/
theorem serving_ends (m : Nat) {cfg : RoutingConfig} {st : Serving cfg}
    (hp : Coupled ext env tests p) (hmain : p.main ≠ .exited) (hcancelled : p.cancelled = true)
    (hstart : p.start = .serving cfg st) (hm : 2 * st.work + storing st.pc ≤ m) :
    p.StartEnds ext env tests := by
  induction m using Nat.strong_induction_on generalizing p st with
  | _ m ih =>
    have hsound : st.Sound tests := by
      have hboth := hp.sound
      rw [hstart] at hboth
      exact hboth.1
    have halive : p.Alive := ⟨hmain, by rw [hstart]; exact Lifecycle.noConfusion⟩
    by_cases hreturned : ∃ err, st.pc = .returned err
    · obtain ⟨err, hpc⟩ := hreturned
      refine ⟨[], p.sys, p.start, rfl, ?_, .nil p⟩
      rw [hstart]
      unfold Lifecycle.result
      simp only [hpc]
      exact Option.some_ne_none err
    · have hrunning : ∀ err, st.pc ≠ .returned err := fun err hpc => hreturned ⟨err, hpc⟩
      have hresult : p.start.result = none := by
        rw [hstart]
        unfold Lifecycle.result
        cases hpc : st.pc with
        | returned err => exact absurd hpc (hrunning err)
        | _ => simp only [hpc]
      have hdone : st.ctxDone = true := by
        have hinformed := hp.informed hcancelled hresult
        rw [hstart] at hinformed
        exact hinformed
      obtain ⟨a, st', hstep, hinner⟩ := start_moves hsound (Or.inl hdone) hrunning
      have hlowered := work_lowered hstep hsound.flagged
      rcases hinner with hown | rfl
      · -- an own step is two units of the measure, and storing is one at most
        rw [if_pos hown] at hlowered
        have hstoring : storing st'.pc ≤ 1 := by
          unfold storing
          split <;> omega
        have hmove : ProcessStep ext env tests p (.start a)
            { p with start := .serving cfg st' } :=
          .start halive (Or.inl hown) (by rw [hstart]; exact .serves hstep)
        obtain ⟨pls, sys', ℓ', hrun', hend, hrest⟩ := ih (2 * st'.work + storing st'.pc) (by omega)
          (coupled_step hmove hp) hmain hcancelled rfl le_rfl
        exact ⟨_, sys', ℓ', hrun', hend, .cons hmove hrest⟩
      · have hlower : st'.work ≤ st.work ∧ storing st'.pc < storing st.pc := by
          refine ⟨hlowered, ?_⟩
          cases hstep with
          | stores hpc =>
              rw [hpc]
              exact Nat.zero_lt_one
        have hstores : LifecycleStep tests p.start .stores (.serving cfg st') := by
          rw [hstart]
          exact .serves hstep
        obtain ⟨sys₁, hrun₁, -, hmove⟩ := stores_run hp halive hstores
        obtain ⟨pls, sys', ℓ', hrun', hend, hrest⟩ := ih (2 * st'.work + storing st'.pc) (by omega)
          (coupled_step hmove hp) hmain hcancelled rfl le_rfl
        exact ⟨_, sys', ℓ', hrun'.trans hrun₁, hend, .cons hmove hrest⟩

theorem start_finishes (hp : Coupled ext env tests p) (halive : p.Alive)
    (hcancelled : p.cancelled = true) :
    p.StartEnds ext env tests := by
  cases hstart : p.start with
  | waiting ctxDone =>
      have hdone : ctxDone = true := by
        have hinformed := hp.informed hcancelled
        rw [hstart] at hinformed
        exact hinformed rfl
      subst hdone
      refine ⟨_, p.sys, .aborted, rfl, Option.some_ne_none _, .single (.start (a := .start) halive
        (Or.inl rfl) ?_)⟩
      rw [hstart]
      exact .givesUp
  | first ctxDone conf =>
      obtain ⟨cfg, rfl⟩ := first_some hp hstart
      have hstores : LifecycleStep tests p.start .stores
          (.serving cfg (.begin cfg ctxDone)) := by
        rw [hstart]
        exact .stores ctxDone cfg
      obtain ⟨sys₁, hrun₁, -, hmove⟩ := stores_run hp halive hstores
      obtain ⟨pls, sys', ℓ', hrun', hend, hrest⟩ := serving_ends _ (coupled_step hmove hp)
        halive.main hcancelled rfl le_rfl
      exact ⟨_, sys', ℓ', hrun'.trans hrun₁, hend, .cons hmove hrest⟩
  | serving cfg st => exact serving_ends _ hp halive.main hcancelled hstart le_rfl
  | aborted =>
      refine ⟨[], p.sys, p.start, rfl, ?_, .nil p⟩
      rw [hstart]
      exact Option.some_ne_none _
  | panicked => exact absurd hstart halive.start

/-! ## §7. Does the process end? -/

/-- `Start` that is not deaf comes to a point where it takes or holds a configuration. -/
theorem hears_run {cfg : RoutingConfig} {st : Serving cfg} (hst : st.Sound tests)
    (hloops : st.seen.loops) (hpc : ∀ err, st.pc ≠ .returned err) :
    ∃ as st', Run (ServingStep tests cfg) st as st' ∧ (∀ a ∈ as, a.own = true)
      ∧ st'.listening.loops ∧ (st'.pc = .select ∨ ∃ conf, st'.pc = .reconfiguring conf) := by
  have hflag := hst.flagged.flag
  unfold Serving.seen at hloops
  have howned : ∀ a ∈ [StartAct.start], a.own = true := by decide
  have howned₂ : ∀ a ∈ [StartAct.start, StartAct.start], a.own = true := by decide
  cases hs : st.pc with
  | starting k =>
      rw [hs] at hflag hloops
      have hle : k ≤ listenerCount cfg := hst.flagged.counted ▸ hflag.2
      obtain ⟨as, hrun, hown⟩ := starts_run tests (listenerCount cfg - k) hs (by omega)
      refine ⟨_, _, hrun.append (.cons (.startsAll rfl) (.single (.setsReady rfl))), ?_, hloops,
        Or.inl rfl⟩
      intro a ha
      rcases List.mem_append.mp ha with hstarts | hready
      · exact hown a hstarts
      · exact howned₂ a hready
  | started =>
      rw [hs] at hloops
      exact ⟨_, _, .single (.setsReady hs), howned, hloops, Or.inl rfl⟩
  | select =>
      rw [hs] at hloops
      exact ⟨[], st, .nil st, fun _ hmem => (by cases hmem), hloops, Or.inl hs⟩
  | reconfiguring conf =>
      rw [hs] at hloops
      exact ⟨[], st, .nil st, fun _ hmem => (by cases hmem), hloops, Or.inr ⟨conf, hs⟩⟩
  | received sender err =>
      rw [hs] at hloops
      exact ⟨_, _, .cons (.clearsReady hs) (.single (.counts rfl)), howned₂, hloops, Or.inl rfl⟩
  | counting sender err =>
      rw [hs] at hloops
      exact ⟨_, _, .single (.counts hs), howned, hloops, Or.inl rfl⟩
  | noticed =>
      rw [hs] at hloops
      exact ⟨_, _, .cons (.withdraws hs) (.single (.cancels rfl)), howned₂, hloops, Or.inl rfl⟩
  | propagating =>
      rw [hs] at hloops
      exact ⟨_, _, .single (.cancels hs), howned, hloops, Or.inl rfl⟩
  | returned err => exact absurd hs (hpc err)

/-- The oldest configuration can be received. -/
theorem recv_of_full (h : s.configChan.buf.length = 5) :
    ∃ conf chan, s.configChan.recv = some (conf, chan) ∧ chan.buf.length < 5 := by
  have hpos : 0 < s.configChan.buf.length := by omega
  obtain ⟨conf, rest, hbuf⟩ := List.exists_cons_of_ne_nil (List.ne_nil_of_length_pos hpos)
  cases hrecv : s.configChan.recv with
  | none =>
      unfold Chan.recv at hrecv
      split at hrecv
      · next hnil =>
          rw [hnil] at hbuf
          cases hbuf
      · cases hrecv
  | some received =>
      obtain ⟨conf', chan⟩ := received
      refine ⟨conf', chan, rfl, ?_⟩
      have hlength := congrArg List.length (Chan.recv_buf hrecv)
      rw [List.length_cons] at hlength
      omega

/-- It takes one, and there is room. -/
theorem receives_room (hp : Coupled ext env tests p) (halive : p.Alive)
    (hfull : p.sys.configChan.buf.length = 5)
    (h : ∀ conf, ∃ ℓ', LifecycleStep tests p.start (.receives conf) ℓ' ∧ ℓ' ≠ .panicked) :
    p.MakesRoom ext env tests := by
  obtain ⟨conf, chan, hrecv, hroom⟩ := recv_of_full hfull
  obtain ⟨ℓ', hstart, hrunning⟩ := h conf
  obtain ⟨started, hbefore, -, -⟩ := loopOf_receives hstart
  have hstep : SysStep ext env p.sys .proxyRecv _ := .proxyRecv (hp.loop.trans hbefore) hrecv
  have hreceived : ProxyPc.received started conf = .received started conf := rfl
  refine ⟨_, _, ℓ', ?_, ?_, hrunning, .single (.receives halive hstep hreceived hstart)⟩
  · rfl
  · exact hroom

theorem select_room {cfg : RoutingConfig} {st : Serving cfg} (hp : Coupled ext env tests p)
    (hmain : p.main ≠ .exited) (hstart : p.start = .serving cfg st)
    (hfull : p.sys.configChan.buf.length = 5) (hloops : st.listening.loops)
    (hpc : st.pc = .select) : p.MakesRoom ext env tests := by
  have halive : p.Alive := ⟨hmain, by rw [hstart]; exact Lifecycle.noConfusion⟩
  refine receives_room hp halive hfull fun conf =>
    ⟨.serving cfg { st with pc := .reconfiguring conf }, ?_, fun h => by cases h⟩
  rw [hstart]
  exact .serves (.receives conf hpc hloops)

/-- What it holds is stored first. -/
theorem stores_room (hp : Coupled ext env tests p) (halive : p.Alive)
    (hfull : p.sys.configChan.buf.length = 5) (h : LifecycleStep tests p.start .stores ℓ')
    (hthen : ∀ q : Process, Coupled ext env tests q → q.main = p.main → q.start = ℓ' →
      q.sys.configChan.buf.length = 5 → q.MakesRoom ext env tests) :
    p.MakesRoom ext env tests := by
  obtain ⟨sys₁, hrun₁, hchan₁, hstore⟩ := stores_run hp halive h
  have hfull₁ : sys₁.configChan.buf.length = 5 := by
    rw [hchan₁]
    exact hfull
  obtain ⟨pls, sys', ℓ'', hrun', hroom, hrunning, hrest⟩ :=
    hthen _ (coupled_step hstore hp) rfl rfl hfull₁
  exact ⟨_, sys', ℓ'', hrun'.trans hrun₁, hroom, hrunning, .cons hstore hrest⟩

theorem serving_room {cfg : RoutingConfig} {st : Serving cfg} (hp : Coupled ext env tests p)
    (hmain : p.main ≠ .exited) (hstart : p.start = .serving cfg st)
    (hfull : p.sys.configChan.buf.length = 5) (hears : ¬ Deaf p.start) :
    p.MakesRoom ext env tests := by
  have hsound : st.Sound tests := by
    have hboth := hp.sound
    rw [hstart] at hboth
    exact hboth.1
  rw [hstart] at hears
  obtain ⟨hrunning, hloops⟩ := not_or.mp hears
  obtain ⟨as, st', hrun, hown, hloops', hpc'⟩ := hears_run hsound (not_not.mp hloops)
    fun err hpc => hrunning ⟨err, hpc⟩
  obtain ⟨pls, hlifted⟩ := Run.inProcess ext env hrun hown hmain hstart
  have hp' := hlifted.invariant (fun _ _ _ hp hstep => coupled_step hstep hp) hp
  have hroom : Process.MakesRoom ext env tests { p with start := .serving cfg st' } := by
    rcases hpc' with hpc | ⟨conf, hpc⟩
    · exact select_room hp' hmain rfl hfull hloops' hpc
    · refine stores_room hp' ⟨hmain, Lifecycle.noConfusion⟩ hfull (.serves (.stores hpc)) ?_
      intro q hq hmainq hstartq hfullq
      exact select_room hq (hmainq.trans_ne hmain) hstartq hfullq hloops' rfl
  obtain ⟨pls', sys', ℓ', hrun', hlt, hrunning', hrest⟩ := hroom
  exact ⟨_, sys', ℓ', hrun', hlt, hrunning', hlifted.append hrest⟩

/-- **A reader makes room.** -/
theorem room_of_hearing (hp : Coupled ext env tests p) (halive : p.Alive)
    (hfull : p.sys.configChan.buf.length = 5) (hears : ¬ Deaf p.start) :
    p.MakesRoom ext env tests := by
  cases hstart : p.start with
  | waiting ctxDone =>
      refine receives_room hp halive hfull fun conf =>
        ⟨.first ctxDone conf, ?_, fun h => by cases h⟩
      rw [hstart]
      exact .receives ctxDone conf
  | first ctxDone conf =>
      obtain ⟨cfg, rfl⟩ := first_some hp hstart
      refine stores_room hp halive hfull (by rw [hstart]; exact .stores ctxDone cfg) ?_
      intro q hq hmainq hstartq hfullq
      refine serving_room hq (hmainq.trans_ne halive.main) hstartq hfullq ?_
      rw [hstartq]
      rintro (⟨err, hpc⟩ | hended)
      · cases hpc
      · exact hended (up_loops cfg)
  | serving cfg st => exact serving_room hp halive.main hstart hfull hears
  | aborted =>
      rw [hstart] at hears
      exact absurd trivial hears
  | panicked => exact absurd hstart halive.start

/-- Only storing a first nil panics. -/
theorem panicked_step (h : LifecycleStep tests ℓ a ℓ') (hpanicked : ℓ' = .panicked) :
    a = .stores ∧ ∃ ctxDone, ℓ = .first ctxDone none := by
  cases h with
  | storesNil ctxDone => exact ⟨rfl, ctxDone, rfl⟩
  | _ => cases hpanicked

/-- `startListeners` never panics: the first configuration is one. -/
theorem alive_step (h : ProcessStep ext env tests p pl q) (hp : Coupled ext env tests p)
    (hstart : p.start ≠ .panicked) : q.start ≠ .panicked := by
  have hnever : ∀ {a : StartAct} {ℓ' : Lifecycle}, LifecycleStep tests p.start a ℓ' →
      ℓ' ≠ .panicked := by
    intro a ℓ' hstep hpanicked
    obtain ⟨-, ctxDone, hfirst⟩ := panicked_step hstep hpanicked
    obtain ⟨cfg, hnone⟩ := first_some hp hfirst
    cases hnone
  cases h with
  | receives _ _ _ hstep => exact hnever hstep
  | stores _ _ hstep => exact hnever hstep
  | start _ _ hstep => exact hnever hstep
  | mainWakes _ _ _ _ =>
      rcases cancel_step tests p.start with hsame | hstep
      · show p.start.cancel ≠ .panicked
        rw [hsame]
        exact hstart
      · exact hnever hstep
  | _ => exact hstart

theorem not_panicked_of_run {pls : List ProcessLabel}
    (h : Run (ProcessStep ext env tests) (Process.initial env) pls p) :
    p.start ≠ .panicked := by
  have hinv : Coupled ext env tests p ∧ p.start ≠ .panicked := by
    refine h.invariant (I := fun p => Coupled ext env tests p ∧ p.start ≠ .panicked) ?_
      ⟨coupled_initial, fun h => by cases h⟩
    intro p pl q hp hstep
    exact ⟨coupled_step hstep hp.1, alive_step hstep hp.1 hp.2⟩
  exact hinv.2

/-- Unless it is doomed, the process gets `Run` to return. -/
theorem run_returns (hp : Coupled ext env tests p) (halive : p.Alive)
    (hmain : p.main = .draining) (hdoomed : ¬ p.Doomed) :
    ∃ pls q, Run (ProcessStep ext env tests) p pls q ∧ q.sys.run = .exited
      ∧ q.main = .draining ∧ q.start ≠ .panicked := by
  obtain ⟨hcancelled, hbooted⟩ := hp.woken (by rw [hmain]; exact MainPc.noConfusion)
  by_cases hfree : p.sys.run.Delivering → p.sys.configChan.buf.length < 5
  · obtain ⟨pls, sys', hexited, hrun⟩ := run_exits ext env tests hp halive hcancelled hbooted hfree
    exact ⟨pls, _, hrun, hexited, hmain, halive.start⟩
  · obtain ⟨hdelivering, hnotfree⟩ := Classical.not_imp.mp hfree
    have hfull : p.sys.configChan.buf.length = 5 := by
      have hbounded := p.sys.configChan.bounded
      omega
    -- `Start` still reads
    obtain ⟨pls, sys₁, ℓ₁, hrun₁, hroom, hrunning, hmade⟩ := room_of_hearing hp halive hfull
      fun hdeaf => hdoomed ⟨hdelivering, hfull, hdeaf⟩
    have hp₁ := hmade.invariant (fun _ _ _ hp hstep => coupled_step hstep hp) hp
    have hbooted₁ : ∀ stage, sys₁.run ≠ .init stage := by
      rw [hrun₁]
      exact hbooted
    obtain ⟨pls', sys', hexited, hrun⟩ := run_exits ext env tests hp₁ ⟨halive.main, hrunning⟩
      hcancelled hbooted₁ fun _ => hroom
    exact ⟨_, _, hmade.append hrun, hexited, hmain, hrunning⟩

/-- With `Run` returned, the process ends. -/
theorem main_exits (hp : Coupled ext env tests p) (halive : p.Alive)
    (hmain : p.main = .draining) (hrun : p.sys.run = .exited) :
    ∃ pls q, Run (ProcessStep ext env tests) p pls q ∧ q.main = .exited := by
  obtain ⟨hcancelled, -⟩ := hp.woken (by rw [hmain]; exact MainPc.noConfusion)
  cases hdone : p.proxyDone with
  | true => exact ⟨_, _, .single (.mainExits halive hmain hrun hdone), rfl⟩
  | false =>
      obtain ⟨pls, sys', ℓ', hrun', hresult, hends⟩ := start_finishes hp halive hcancelled
      obtain ⟨err, herr⟩ := Option.ne_none_iff_exists'.mp hresult
      have hrunning : ℓ' ≠ .panicked := by
        rintro rfl
        cases herr
      have hreturns : ProcessStep ext env tests { p with sys := sys', start := ℓ' } .startReturns
          { p with
            sys := sys'
            start := ℓ'
            proxyDone := true
            cancelled := p.cancelled || err.isSome } :=
        .startReturns ⟨halive.main, hrunning⟩ herr hdone
      exact ⟨_, _, hends.append (.cons hreturns (.single (.mainExits ⟨halive.main, hrunning⟩ hmain
        (hrun'.trans hrun) rfl))), rfl⟩

/-- **After a signal the process can end, unless it is doomed.**  `main` waits for `Run` and
`Start`.  From every state the process can be in then, some continuation comes to its end, if
and only if it is not so that `Run` has a configuration to build or to send, the channel is full
and `Start` reads it no more. -/
theorem exit_iff {pls : List ProcessLabel}
    (h : Run (ProcessStep ext env tests) (Process.initial env) pls p)
    (hmain : p.main = .draining) :
    (∃ pls' q, Run (ProcessStep ext env tests) p pls' q ∧ q.main = .exited) ↔ ¬ p.Doomed := by
  have hp := coupled_of_run h
  have halive : p.Alive := ⟨by rw [hmain]; exact MainPc.noConfusion, not_panicked_of_run h⟩
  constructor
  · rintro ⟨pls', q, hrun, hexited⟩ hdoomed
    exact (doomed_of_run hrun hp hdoomed halive.main).2 hexited
  · intro hdoomed
    obtain ⟨pls', q, hrun, hexited, hmainq, hstartq⟩ := run_returns hp halive hmain hdoomed
    have hq := hrun.invariant (fun _ _ _ hp hstep => coupled_step hstep hp) hp
    obtain ⟨pls'', r, hrest, hend⟩ := main_exits hq
      ⟨by rw [hmainq]; exact MainPc.noConfusion, hstartq⟩ hmainq hexited
    exact ⟨_, r, hrun.append hrest, hend⟩

/-! ## §8. The process can hang. -/

variable (ext env) in
/-- A handler requests a rebuild, and `Run` takes the request. -/
theorem takes_run (hrun : s.run = .select) :
    ∃ ls t, Run (SysStep ext env) s ls t ∧ (∀ l ∈ ls, l.outer)
      ∧ t.run = .build ∧ t.configChan = s.configChan := by
  let cls : IngressClass := ⟨[], []⟩
  have htake : SysStep ext env (s.addIngressClass cls) .runTakeToken _ :=
    .runTakeToken hrun (recv_of_pending (pending_requestReconfigure _))
  refine ⟨_, _, .cons (.addClass s cls) (.single htake), ?_, ?_, ?_⟩
  · simp [Label.outer]
  · rfl
  · rfl

/-- Requests come, and nobody reads what is built. -/
theorem fills_run (left : Nat) (hs : s.Reached ext env (getControllerConfig ext env))
    (hrun : s.run = .select) (hleft : s.configChan.buf.length + left = 5) :
    ∃ ls t, Run (SysStep ext env) s ls t ∧ (∀ l ∈ ls, l.outer)
      ∧ t.run = .build ∧ t.configChan.buf.length = 5 := by
  induction left generalizing s with
  | zero =>
      obtain ⟨ls, t, htaken, houter, hbuild, hchan⟩ := takes_run ext env hrun
      exact ⟨ls, t, htaken, houter, hbuild, by rw [hchan]; exact hleft⟩
  | succ left ih =>
      obtain ⟨ls, s₁, htaken, houter, hbuild, hchan⟩ := takes_run ext env hrun
      have hs₁ := htaken.invariant (I := fun s => s.Reached ext env (getControllerConfig ext env))
        (fun _ _ _ hs hstep => hs.next hstep) hs
      have hroom : s₁.configChan.buf.length < 5 := by
        rw [hchan]
        omega
      obtain ⟨vs, cfg, hbuilt⟩ := builds ext env hs₁ hbuild
      obtain ⟨chan, hlength, hsent⟩ := sends ext env
        (s := { s₁ with run := .send (some cfg) }) rfl hroom
      have hnext : chan.buf.length + left = 5 := by
        rw [hlength]
        show s₁.configChan.buf.length + 1 + left = 5
        rw [hchan]
        omega
      obtain ⟨ls', t, hrest, houter', hbuild', hfull⟩ :=
        ih ((hs₁.next hbuilt).next hsent) rfl hnext
      refine ⟨_, t, htaken.append (.cons hbuilt (.cons hsent hrest)), ?_, hbuild', hfull⟩
      intro l hl
      rcases List.mem_append.mp hl with hl | hl
      · exact houter l hl
      · rcases List.mem_cons.mp hl with rfl | hl
        · trivial
        · rcases List.mem_cons.mp hl with rfl | hl
          · trivial
          · exact houter' l hl

/-- While the manager runs, steps of the system are steps of the process. -/
theorem Run.sysInProcess {ls : List Label} (h : Run (SysStep ext env) s ls t)
    (houter : ∀ l ∈ ls, l.outer) (halive : p.Alive) (hmanager : p.manager = true)
    (hp : p.sys = s) :
    Run (ProcessStep ext env tests) p (ls.map .sys) { p with sys := t } := by
  induction h generalizing p with
  | nil s =>
      rw [← hp]
      exact .nil p
  | @cons s s₁ t l ls hstep _ ih =>
      subst hp
      exact .cons (.sys halive (houter l List.mem_cons_self) (fun _ => hmanager) hstep)
        (ih (p := { p with sys := s₁ }) (fun l hl => houter l (List.mem_cons_of_mem _ hl))
          ⟨halive.main, halive.start⟩ hmanager rfl)

/-- **The process can hang.**  Whenever `Start` reads no more while `Run` is at its `select` and
the manager runs, whether by a signal or by a listener that failed: the handlers and `Run` alone,
with more rebuilds, can come to a state from which no continuation leads to the end of the
process. -/
theorem hang_of_deaf {pls : List ProcessLabel}
    (h : Run (ProcessStep ext env tests) (Process.initial env) pls p)
    (hmain : p.main ≠ .exited) (hmanager : p.manager = true) (hdeaf : Deaf p.start)
    (hrun : p.sys.run = .select) :
    ∃ (ls : List Label) (sys' : Sys),
      Run (ProcessStep ext env tests) p (ls.map .sys) { p with sys := sys' }
      ∧ ∀ pls' q, Run (ProcessStep ext env tests) { p with sys := sys' } pls' q →
        q.main ≠ .exited := by
  have hp := coupled_of_run h
  have hbounded := p.sys.configChan.bounded
  obtain ⟨ls, sys', hfills, houter, hbuild, hfull⟩ :=
    fills_run (5 - p.sys.configChan.buf.length) hp.reached hrun (by omega)
  have hlifted : Run (ProcessStep ext env tests) p (ls.map .sys) { p with sys := sys' } :=
    Run.sysInProcess hfills houter ⟨hmain, not_panicked_of_run h⟩ hmanager rfl
  have hdoomed : Process.Doomed { p with sys := sys' } := ⟨Or.inl hbuild, hfull, hdeaf⟩
  refine ⟨ls, sys', hlifted, fun pls' q hrest => ?_⟩
  exact (doomed_of_run hrest (hlifted.invariant (fun _ _ _ hp hstep => coupled_step hstep hp) hp)
    hdoomed hmain).2

/-! ## §9. A port that is taken. -/

end

/-- The HTTPS port is taken, so that `Start` returns at once; `main` learns of it by a signal
only. -/
theorem taken_run : ∃ pls p,
    Run (ProcessStep Ext.small smallEnv httpClosedTests) (Process.initial smallEnv) pls p
      ∧ p.main = .draining ∧ p.manager = true ∧ p.sys.run = .select ∧ Deaf p.start := by
  obtain ⟨order⟩ : Nonempty (GoMap.RangeChoice GoString OidcClientYaml) := inferInstance
  obtain ⟨vs, cfg, hvs, hcfg⟩ := loaded_builds
  have hload := getControllerConfig_small (fun _ => .ok []) order
  let p₀ : Process := Process.initial smallEnv
  let s₁ : Sys := Sys.loaded smallEnv (smallConf 4096)
  have halive₀ : p₀.Alive := ⟨MainPc.noConfusion, Lifecycle.noConfusion⟩
  have hinit : Run (ProcessStep Ext.small smallEnv httpClosedTests) p₀ _ { p₀ with sys := s₁ } :=
    Run.sysInProcess (init_run hload rfl rfl rfl) (by simp [initUpdates, Label.outer]) halive₀
      rfl rfl
  let s₂ : Sys := { s₁ with
    requestReconfigureChan := .empty
    configChan := ⟨[some cfg], Nat.le_of_ble_eq_true rfl⟩ }
  have hsent : Run (SysStep Ext.small smallEnv) s₁ [.runTakeToken, .runBuild vs, .runSend] s₂ :=
    .cons (.runTakeToken rfl (recv_of_pending (pending_requestReconfigure _)))
      (.cons (.runBuild rfl hvs hcfg) (.single (.runSend rfl rfl)))
  have hbuilt : Run (ProcessStep Ext.small smallEnv httpClosedTests) { p₀ with sys := s₁ } _
      { p₀ with sys := s₂ } :=
    Run.sysInProcess hsent (by simp [Label.outer]) ⟨halive₀.main, halive₀.start⟩ rfl rfl
  -- `Start` receives and stores the configuration, and cannot listen
  let s₃ : Sys := { s₂ with configChan := .empty, proxyLoop := .received false (some cfg) }
  let s₄ : Sys := { s₃ with stored := some cfg, proxyLoop := .idle true }
  have hreceived : ProcessStep Ext.small smallEnv httpClosedTests { p₀ with sys := s₂ } .receives
      { p₀ with sys := s₃, start := .first false (some cfg) } :=
    .receives ⟨halive₀.main, halive₀.start⟩ (.proxyRecv rfl rfl) rfl (.receives false (some cfg))
  have hstored : ProcessStep Ext.small smallEnv httpClosedTests
      { p₀ with sys := s₃, start := .first false (some cfg) } .stores
      { p₀ with sys := s₄, start := .serving cfg (.begin cfg false) } :=
    .stores ⟨halive₀.main, fun h => by cases h⟩ (@Step.proxyStore _ _ _ s₃ false (some cfg) rfl)
      (.stores false cfg)
  have hfails : LifecycleStep httpClosedTests (.serving cfg (.begin cfg false)) .start _ :=
    .serves (.startFails (lit "address already in use") rfl (up_loops cfg) (by decide))
  have hserving : ∀ {p : Process} {st : Serving cfg}, p.main = .waiting →
      p.start = .serving cfg st → p.Alive := by
    intro p st hmain hstart
    exact ⟨by rw [hmain]; exact MainPc.noConfusion, by rw [hstart]; exact Lifecycle.noConfusion⟩
  refine ⟨_, _, hinit.append (hbuilt.append (.cons hreceived (.cons hstored
    (.cons (.start (hserving rfl rfl) (Or.inl rfl) hfails) (.cons (.startReturns (hserving rfl rfl)
      rfl rfl) (.cons (.signal (hserving rfl rfl)) (.single (.mainWakes (hserving rfl rfl) rfl rfl
        fun _ => RunPc.noConfusion)))))))), rfl, rfl, rfl, Or.inl ⟨_, rfl⟩⟩

/-- It can end. -/
theorem exit_iff_taken : ∃ pls p q,
    Run (ProcessStep Ext.small smallEnv httpClosedTests) (Process.initial smallEnv) pls p
      ∧ p.main = .draining ∧ q.main = .exited
      ∧ ∃ pls', Run (ProcessStep Ext.small smallEnv httpClosedTests) p pls' q := by
  obtain ⟨pls, p, hrun, hmain, -, hselect, -⟩ := taken_run
  have hfree : ¬ p.Doomed := by
    rintro ⟨hbuild | ⟨conf, hsend⟩, -, -⟩
    · rw [hselect] at hbuild
      cases hbuild
    · rw [hselect] at hsend
      cases hsend
  obtain ⟨pls', q, hends, hexited⟩ := (exit_iff hrun hmain).mpr hfree
  exact ⟨pls, p, q, hrun, hmain, hexited, pls', hends⟩

/-- And it can hang, by what the handlers and `Run` do. -/
theorem hang_of_deaf_taken : ∃ (pls : List ProcessLabel) (p : Process) (ls : List Label)
      (sys' : Sys),
    Run (ProcessStep Ext.small smallEnv httpClosedTests) (Process.initial smallEnv) pls p
      ∧ p.main = .draining
      ∧ Run (ProcessStep Ext.small smallEnv httpClosedTests) p (ls.map .sys) { p with sys := sys' }
      ∧ ∀ pls' q, Run (ProcessStep Ext.small smallEnv httpClosedTests) { p with sys := sys' } pls'
        q → q.main ≠ .exited := by
  obtain ⟨pls, p, hrun, hmain, hmanager, hselect, hdeaf⟩ := taken_run
  obtain ⟨ls, sys', hfills, hnever⟩ := hang_of_deaf hrun
    (by rw [hmain]; exact MainPc.noConfusion) hmanager hdeaf hselect
  exact ⟨pls, p, ls, sys', hrun, hmain, hfills, hnever⟩

end SIngress.Controller
