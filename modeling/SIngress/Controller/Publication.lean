/-
  SIngress.Controller.Publication — NO PUBLICATION IS LOST.

  A state change that requests a rebuild leaves a token in the request channel,
  whether the send went in or was dropped; `Run` turns the token into a build,
  the build into a configuration in flight, and the proxy stores it.  So for
  any property `P` of a configuration relative to the state:

      a token is pending  ∨  `Run` is about to build  ∨
      `P` holds of the LATEST configuration (in flight, or else stored)

  is kept by every step, as long as a build establishes `P` and a step that
  leaves no token keeps it (`published_step`).  In a quiet system the latest
  configuration is the stored one (`latest_of_quiet`).
-/
import SIngress.Controller.System

namespace SIngress.Controller

open SIngress.Base SIngress.Lib SIngress.K8s SIngress.Platform SIngress.Config SIngress.Proxy
open SIngress.Modules

/-! ## §1. The latest configuration. -/

/-- What the proxy holds, received or stored. -/
def Sys.held (s : Sys) : Option RoutingConfig :=
  match s.proxyLoop with
  | .received _ conf => conf
  | _ => s.stored

/-- What `Run` waits to send. -/
def RunPc.sending : RunPc → Option (Option RoutingConfig)
  | .send conf => some conf
  | _ => none

/-- The newest configuration under way to the proxy, or else what it holds. -/
def Sys.latest (s : Sys) : Option RoutingConfig :=
  s.run.sending.getD (s.configChan.buf.getLast?.getD s.held)

/-- Nothing is pending: no request, `Run` at its `select`, no configuration under
way, and the proxy loop is not between receiving and storing. -/
structure Sys.Quiet (s : Sys) : Prop where
  request : s.requestReconfigureChan.buf = []
  select : s.run = .select
  config : s.configChan.buf = []
  loop : ∀ started conf, s.proxyLoop ≠ .received started conf

theorem latest_of_quiet {s : Sys} (h : s.Quiet) : s.latest = s.stored := by
  unfold Sys.latest Sys.held
  rw [h.select, h.config]
  show (match s.proxyLoop with | .received _ conf => conf | _ => s.stored) = s.stored
  cases hp : s.proxyLoop with
  | received started conf => exact absurd hp (h.loop started conf)
  | idle started => rfl
  | crashed => rfl

/-! ## §2. What one step does to tokens, builds and the latest configuration. -/

section

variable {ext : Ext} {env : ControllerEnvConf} {load : Outside → Except Fail ControllerConf}
  {s t : Sys} {l : Label}

/-- The latest configuration depends on what is under way and what is held. -/
theorem latest_congr {s t : Sys} (hrun : t.run.sending = s.run.sending)
    (hchan : t.configChan = s.configChan) (hheld : t.held = s.held) : t.latest = s.latest := by
  unfold Sys.latest
  rw [hrun, hchan, hheld]

theorem latest_whenRelevant (s : Sys) (b : Bool) :
    (s.requestReconfigureWhenRelevant b).latest = s.latest := by
  cases b <;> rfl

theorem run_whenRelevant (s : Sys) (b : Bool) :
    (s.requestReconfigureWhenRelevant b).run = s.run := by
  cases b <;> rfl

/-- An update of a reload leaves a pending request pending. -/
theorem pending_afterUpdate {s : Sys} (hp : s.Pending) (stage : CommonStage)
    (state' : K8sState) (pc : CommonStage → RunPc) : (s.afterUpdate stage state' pc).Pending := by
  unfold Sys.afterUpdate
  split
  · exact hp
  · exact pending_requestReconfigure _

theorem latest_afterUpdate {s : Sys} (hs : s.run.sending = none) (stage : CommonStage)
    (state' : K8sState) {pc : CommonStage → RunPc} (hpc : ∀ next, (pc next).sending = none) :
    (s.afterUpdate stage state' pc).latest = s.latest := by
  unfold Sys.afterUpdate
  split
  · exact latest_congr ((hpc _).trans hs.symm) rfl rfl
  · exact latest_congr (s := s) hs.symm rfl rfl

/-- A pending request stays pending until `Run` takes it to build. -/
theorem pending_step (h : Step ext env load s l t) (hp : s.Pending) :
    t.Pending ∨ t.run = .build := by
  cases h with
  | reconcile api name ingress? =>
      refine Or.inl (Sys.Pending.whenRelevant ?_ _)
      exact hp
  | addClass cls => exact Or.inl (pending_requestReconfigure _)
  | removeClass name =>
      refine Or.inl (Sys.Pending.whenRelevant ?_ _)
      exact hp
  | runUpdate _ _ => exact Or.inl (pending_afterUpdate hp _ _ _)
  | initUpdate _ _ => exact Or.inl (pending_afterUpdate hp _ _ _)
  | runTakeToken _ _ => exact Or.inr rfl
  | _ => exact Or.inl hp

/-- Only `runBuild` leaves the point before a build, and it sends what it built. -/
theorem build_step (h : Step ext env load s l t) (hb : s.run = .build) :
    t.run = .build ∨
      ∃ vs, l = .runBuild vs ∧ Visits s.state.ingresses vs ∧ (∃ conf?,
        t = { s with run := .send conf? } ∧
        match conf? with
        | some conf => getProxyConfig s.state vs = .ok conf
        | none => ∃ err, getProxyConfig s.state vs = .error (.err err)) := by
  cases h with
  | reconcile api name ingress? => exact Or.inl ((run_whenRelevant _ _).trans hb)
  | addClass cls => exact Or.inl hb
  | removeClass name => exact Or.inl ((run_whenRelevant _ _).trans hb)
  | requestCommon => exact Or.inl hb
  | proxyRecv _ _ => exact Or.inl hb
  | proxyStore _ => exact Or.inl hb
  | @runBuild vs conf _ hvs hconf => exact Or.inr ⟨vs, rfl, hvs, some conf, rfl, hconf⟩
  | @runBuildFails vs err _ hvs herr => exact Or.inr ⟨vs, rfl, hvs, none, rfl, err, herr⟩
  | runTakeCommon hr _ => rw [hb] at hr; cases hr
  | runUpdate hr _ => rw [hb] at hr; cases hr
  | runUpdateFails hr _ => rw [hb] at hr; cases hr
  | initUpdate hr _ => rw [hb] at hr; cases hr
  | runTakeToken hr _ => rw [hb] at hr; cases hr
  | runSend hr _ => rw [hb] at hr; cases hr
  | runExit hr => rw [hb] at hr; cases hr

/-- A step other than a build leaves the latest configuration alone. -/
theorem latest_step (h : Step ext env load s l t) (hb : s.run ≠ .build) :
    t.latest = s.latest := by
  cases h with
  | reconcile api name ingress? => exact latest_whenRelevant _ _
  | addClass cls => rfl
  | removeClass name => exact latest_whenRelevant _ _
  | requestCommon => rfl
  | runTakeCommon hr _ => exact latest_congr (by rw [hr]; rfl) rfl rfl
  | runUpdate hr _ => exact latest_afterUpdate (by rw [hr]; rfl) _ _ fun _ => rfl
  | runUpdateFails hr _ => exact latest_congr (by rw [hr]; rfl) rfl rfl
  | initUpdate hr _ => exact latest_afterUpdate (by rw [hr]; rfl) _ _ fun _ => rfl
  | runTakeToken hr _ => exact latest_congr (by rw [hr]; rfl) rfl rfl
  | runBuild hr _ _ => exact absurd hr hb
  | runBuildFails hr _ _ => exact absurd hr hb
  | runSend hr hsend =>
      -- the configuration moves from the sender into the channel
      unfold Sys.latest
      simp [hr, RunPc.sending, Chan.send_buf hsend]
  | runExit hr => exact latest_congr (by rw [hr]; rfl) rfl rfl
  | @proxyRecv started conf chan hp hrecv =>
      -- the oldest configuration moves from the channel to the proxy
      unfold Sys.latest
      have hbuf := Chan.recv_buf hrecv
      simp [hbuf, List.getLast?_cons, Sys.held]
  | @proxyStore started conf hp =>
      refine latest_congr rfl rfl ?_
      unfold Sys.held
      rw [hp]
      cases started || conf.isSome <;> rfl

/-! ## §3. The rule. -/

/-- `P` is published, or will be: a request is pending, a build is about to happen,
or `P` holds of the latest configuration. -/
def Published (P : Sys → Option RoutingConfig → Prop) (s : Sys) : Prop :=
  s.Pending ∨ s.run = .build ∨ P s s.latest

/-- **The publication rule.**  If a build establishes `P`, and a step that neither finds
nor leaves a request keeps `P` of any configuration, then every step keeps `P`
published. -/
theorem published_step {P : Sys → Option RoutingConfig → Prop}
    (hbuild : ∀ vs conf?, s.run = .build → Visits s.state.ingresses vs →
      (match conf? with
        | some conf => getProxyConfig s.state vs = .ok conf
        | none => ∃ err, getProxyConfig s.state vs = .error (.err err)) →
      P { s with run := .send conf? } conf?)
    (hquiet : ¬ s.Pending → s.run ≠ .build → ¬ t.Pending → ∀ conf?, P s conf? → P t conf?)
    (h : Step ext env load s l t) (hs : Published P s) : Published P t := by
  by_cases hp : s.Pending
  · exact (pending_step h hp).imp_right Or.inl
  · by_cases hb : s.run = .build
    · rcases build_step h hb with hb' | ⟨vs, _, hvs, conf?, rfl, hconf⟩
      · exact Or.inr (Or.inl hb')
      · exact Or.inr (Or.inr (hbuild vs conf? hb hvs hconf))
    · by_cases hp' : t.Pending
      · exact Or.inl hp'
      · refine Or.inr (Or.inr ?_)
        rw [latest_step h hb]
        exact hquiet hp hb hp' _ ((hs.resolve_left hp).resolve_left hb)

/-- In a quiet system `P` holds of the stored configuration. -/
theorem Published.stored {P : Sys → Option RoutingConfig → Prop} (h : Published P s)
    (hq : s.Quiet) : P s s.stored := by
  rcases h with h | h | h
  · exact absurd hq.request h
  · rw [hq.select] at h
    cases h
  · rw [latest_of_quiet hq] at h
    exact h

end

end SIngress.Controller
