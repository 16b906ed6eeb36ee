/-
  SIngress.Proxy.Lifecycle — `Start`, FROM THE FIRST CONFIGURATION TO ITS RETURN
  (`waitForConfig`, `startListeners`, `Start` and the `/readyz` handler of
  `pkg/proxy/proxy.go`).

  `Start` waits for a configuration, starts the listeners one by one, says that
  it is ready, and then serves a `select` with three cases: a configuration, a
  message of a listener, the end of its context.  The goroutines of a listener
  run from its start on, whatever `Start` does; a probe may read the flag
  between any two of its steps.  So every store, every cancellation and the
  five seconds of sleep are steps of their own here:

    • `sound_step`    — what the loop has taken from the listeners is a state of
                        the coarser model of `Shutdown`, where a message is
                        received and counted in ONE step,
    • `readyz_iff`    — when a probe is answered 204,
    • `drain_order`   — the flag is withdrawn before any listener is told to
                        stop, and for good,
    • `start_ends`    — a shutdown is never stuck and takes boundedly many steps.
-/
import Mathlib.Algebra.BigOperators.Fin
import SIngress.Proxy.Shutdown

namespace SIngress.Proxy

open SIngress.Base SIngress.Lib

/-! ## §1. Where `Start` is. -/

/-- Where `Start` is, from `startListeners` on. -/
inductive ServingPc (n : Nat) where
  /-- In `startListeners`, which has started so many listeners. -/
  | starting (started : Nat)
  /-- All are started; `ready` is not set yet. -/
  | started
  /-- At the condition of the loop, or at the `select` in it. -/
  | select
  /-- It received a configuration and has not stored it yet. -/
  | reconfiguring (conf : Option RoutingConfig)
  /-- It received a message of a listener. -/
  | received (sender : Listener n) (err : Option GoError)
  /-- It received a message and cleared `ready`; the message is not counted yet. -/
  | counting (sender : Listener n) (err : Option GoError)
  /-- It saw that its context is done. -/
  | noticed
  /-- It cleared `ready` for the shutdown; in `time.Sleep`. -/
  | propagating
  | returned (err : Option GoError)

/-- `Start` with the listeners of the first configuration. -/
structure Serving (cfg : RoutingConfig) where
  /-- The context of `Start` is done. -/
  ctxDone : Bool
  /-- `Proxy.routingConfig`. -/
  routingConfig : Option RoutingConfig
  /-- `Proxy.ready`. -/
  ready : Bool
  shutdownInitiated : Bool
  listening : Listening cfg.tcpProxy.length
  pc : ServingPc cfg.tcpProxy.length

/-- At the first line of `startListeners`. -/
def Serving.begin (cfg : RoutingConfig) (ctxDone : Bool) : Serving cfg where
  ctxDone := ctxDone
  routingConfig := some cfg
  ready := false
  shutdownInitiated := false
  listening := startListeners cfg
  pc := .starting 0

/-- The place of a listener in the order of `startListeners`. -/
def Listener.position {n : Nat} : Listener n → Nat
  | .server .https => 0
  | .server .http => 1
  | .server .quic => 2
  | .server .status => 3
  | .tcp i => 4 + i.val

/-- The listener a goroutine belongs to. -/
def Party.listener {n : Nat} : Party n → Option (Listener n)
  | .server l => some (.server l)
  | .serve l => some (.server l)
  | .accept i => some (.tcp i)
  | .close i => some (.tcp i)
  | .start => none

/-- The goroutines that are there: those of the listeners that were started. -/
def ServingPc.runs {n : Nat} (pc : ServingPc n) (p : Party n) : Prop :=
  match p.listener, pc with
  | none, _ => False
  | some l, .starting count => l.position < count
  | some _, _ => True

/-- The error of `startListeners` when a listener cannot be started. -/
def startError (cfg : RoutingConfig) (started : Nat) (err : GoError) : GoError :=
  match started with
  | 0 => lit "start https: " ++ err
  | 1 => lit "start http: " ++ err
  | 2 => lit "start quic: " ++ err
  | 3 => lit "start status: " ++ err
  | i + 4 => lit "start tcp proxy on port "
      ++ itoa ((cfg.tcpProxy[i]?).elim 0 fun proxyConf => proxyConf.port.toNat) ++ lit ": " ++ err

/-- The errors among the messages, each wrapped around those before it. -/
def groupedError (handlerErrors : List (Option GoError)) : Option GoError :=
  handlerErrors.foldl (fun groupedError handlerError =>
    match handlerError with
    | none => groupedError
    | some err => some (printError groupedError ++ lit " " ++ err)) none

/-- The handler of `/readyz`; the flag and the configuration are two loads. -/
def readyz (ready : Bool) (routingConfig : Option RoutingConfig) (method : GoString) : Nat :=
  if method ≠ lit "GET" then 405
  else if ready && routingConfig.isSome then 204
  else 503

/-! ## §2. The steps. -/

/-- What happens in a step. -/
inductive StartAct where
  /-- The context of `Start` is cancelled. -/
  | cancelled
  | receives (conf : Option RoutingConfig)
  | stores
  /-- The case of a context that was seen before. -/
  | spins
  /-- A goroutine of a listener moves. -/
  | listener
  /-- Any other step of `Start`. -/
  | start

/-- Steps towards the end: of `Start` itself or of a listener. -/
def StartAct.own : StartAct → Bool
  | .listener => true
  | .start => true
  | _ => false

section

variable (tests : ErrorTests) (cfg : RoutingConfig)

inductive ServingStep : Serving cfg → StartAct → Serving cfg → Prop
  | cancelled (s : Serving cfg) : ServingStep s .cancelled { s with ctxDone := true }
  | starts {s : Serving cfg} {started : Nat} :
      s.pc = .starting started → started < listenerCount cfg →
      ServingStep s .start { s with pc := .starting (started + 1) }
  /-- A port is taken, for instance.  `startQuic` cannot fail; the deferred cancellation
  stops what was started. -/
  | startFails {s : Serving cfg} {started : Nat} (err : GoError) :
      s.pc = .starting started → started < listenerCount cfg → started ≠ 2 →
      ServingStep s .start { s with
        listening := { s.listening with startCtx := true }
        pc := .returned (some (startError cfg started err)) }
  | startsAll {s : Serving cfg} :
      s.pc = .starting (listenerCount cfg) → ServingStep s .start { s with pc := .started }
  | setsReady {s : Serving cfg} :
      s.pc = .started → ServingStep s .start { s with ready := true, pc := .select }
  /-- A goroutine moves without `Start`. -/
  | listener {s : Serving cfg} {p : Party cfg.tcpProxy.length}
      {τ : Listening cfg.tcpProxy.length} :
      s.pc.runs p → ListenStep tests s.listening p τ →
      τ.handlerErrors = s.listening.handlerErrors →
      ServingStep s .listener { s with listening := τ }
  /-- A goroutine sends and `Start` receives; what `Start` does then comes later. -/
  | takes {s : Serving cfg} {p : Party cfg.tcpProxy.length}
      {ρ : Listening cfg.tcpProxy.length} {sender : Listener cfg.tcpProxy.length}
      {err : Option GoError} :
      s.pc = .select → ListenStep tests s.listening p (ρ.receive sender err) →
      ρ.handlerErrors = s.listening.handlerErrors → ρ.startCtx = s.listening.startCtx →
      ServingStep s .start { s with listening := ρ, pc := .received sender err }
  | clearsReady {s : Serving cfg} {sender : Listener cfg.tcpProxy.length}
      {err : Option GoError} :
      s.pc = .received sender err →
      ServingStep s .start { s with ready := false, pc := .counting sender err }
  | counts {s : Serving cfg} {sender : Listener cfg.tcpProxy.length} {err : Option GoError} :
      s.pc = .counting sender err →
      ServingStep s .start { s with
        listening := s.listening.receive sender err
        pc := .select }
  | receives {s : Serving cfg} (conf : Option RoutingConfig) :
      s.pc = .select → s.listening.loops →
      ServingStep s (.receives conf) { s with pc := .reconfiguring conf }
  | stores {s : Serving cfg} {conf : Option RoutingConfig} :
      s.pc = .reconfiguring conf →
      ServingStep s .stores { s with routingConfig := conf, pc := .select }
  | notices {s : Serving cfg} :
      s.pc = .select → s.listening.loops → s.ctxDone = true → s.shutdownInitiated = false →
      ServingStep s .start { s with pc := .noticed }
  | withdraws {s : Serving cfg} :
      s.pc = .noticed →
      ServingStep s .start { s with
        ready := false
        shutdownInitiated := true
        pc := .propagating }
  | cancels {s : Serving cfg} :
      s.pc = .propagating →
      ServingStep s .start { s with
        listening := { s.listening with startCtx := true }
        pc := .select }
  /-- The context stays done, so the case stays ready: the loop turns without waiting. -/
  | spins {s : Serving cfg} :
      s.pc = .select → s.listening.loops → s.ctxDone = true → s.shutdownInitiated = true →
      ServingStep s .spins s
  | returns {s : Serving cfg} :
      s.pc = .select → ¬ s.listening.loops →
      ServingStep s .start { s with
        listening := { s.listening with returned := true, startCtx := true }
        pc := .returned (groupedError (s.listening.handlerErrors.map Prod.snd)) }

end

/-- `Start` as a whole. -/
inductive Lifecycle where
  /-- At the `select` of `waitForConfig`. -/
  | waiting (ctxDone : Bool)
  /-- It received the first configuration and has not stored it yet. -/
  | first (ctxDone : Bool) (conf : Option RoutingConfig)
  | serving (cfg : RoutingConfig) (s : Serving cfg)
  /-- `waitForConfig` returned the error of the context. -/
  | aborted
  /-- `startListeners` panicked. -/
  | panicked

/-- `Proxy.ready`. -/
def Lifecycle.ready : Lifecycle → Bool
  | .serving _ s => s.ready
  | _ => false

/-- `Proxy.routingConfig`. -/
def Lifecycle.routingConfig : Lifecycle → Option RoutingConfig
  | .serving _ s => s.routingConfig
  | _ => none

/-- The context of `Start` is done. -/
def Lifecycle.ctxDone : Lifecycle → Bool
  | .waiting ctxDone => ctxDone
  | .first ctxDone _ => ctxDone
  | .serving _ s => s.ctxDone
  | _ => true

/-- The context of `Start` becomes done. -/
def Lifecycle.cancel : Lifecycle → Lifecycle
  | .waiting _ => .waiting true
  | .first _ conf => .first true conf
  | .serving cfg s => .serving cfg { s with ctxDone := true }
  | .aborted => .aborted
  | .panicked => .panicked

/-- What `Start` returned, once it has. -/
def Lifecycle.result : Lifecycle → Option (Option GoError)
  | .serving _ s =>
      match s.pc with
      | .returned err => some err
      | _ => none
  | .aborted => some (some (lit "context canceled"))
  | _ => none

inductive LifecycleStep (tests : ErrorTests) : Lifecycle → StartAct → Lifecycle → Prop
  | cancelledWaiting (ctxDone : Bool) :
      LifecycleStep tests (.waiting ctxDone) .cancelled (.waiting true)
  | cancelledFirst (ctxDone : Bool) (conf : Option RoutingConfig) :
      LifecycleStep tests (.first ctxDone conf) .cancelled (.first true conf)
  | givesUp : LifecycleStep tests (.waiting true) .start .aborted
  | receives (ctxDone : Bool) (conf : Option RoutingConfig) :
      LifecycleStep tests (.waiting ctxDone) (.receives conf) (.first ctxDone conf)
  | storesNil (ctxDone : Bool) :
      LifecycleStep tests (.first ctxDone none) .stores .panicked
  | stores (ctxDone : Bool) (cfg : RoutingConfig) :
      LifecycleStep tests (.first ctxDone (some cfg)) .stores
        (.serving cfg (Serving.begin cfg ctxDone))
  | serves {cfg : RoutingConfig} {s t : Serving cfg} {a : StartAct} :
      ServingStep tests cfg s a t →
      LifecycleStep tests (.serving cfg s) a (.serving cfg t)

/-! ## §3. The flag. -/

section

variable {tests : ErrorTests} {n : Nat}

/-- Nothing was counted, no shutdown noticed, no listener told to stop. -/
structure Listening.Calm (σ : Listening n) (shutdownInitiated : Bool) : Prop where
  uncounted : σ.handlerErrors = []
  unnoticed : shutdownInitiated = false
  uncancelled : σ.startCtx = false

/-- The flag is down and the listeners are told to stop. -/
structure Listening.Halted (σ : Listening n) (ready : Bool) : Prop where
  withdrawn : ready = false
  cancelled : σ.startCtx = true

/-- Ready and calm, or halted. -/
def Listening.Settled (σ : Listening n) (ready shutdownInitiated : Bool) : Prop :=
  (ready = true ∧ σ.Calm shutdownInitiated) ∨ σ.Halted ready

/-- The flag at every point of `Start`. -/
def ServingPc.Flagged (σ : Listening n) (ready shutdownInitiated : Bool) :
    ServingPc n → Prop
  | .starting k => (ready = false ∧ σ.Calm shutdownInitiated) ∧ k ≤ σ.handlerCount
  | .started => ready = false ∧ σ.Calm shutdownInitiated
  | .select => σ.Settled ready shutdownInitiated
  | .reconfiguring _ => σ.Settled ready shutdownInitiated
  | .received _ _ => σ.Settled ready shutdownInitiated
  | .counting _ _ => ready = false
  | .noticed => σ.Settled ready shutdownInitiated ∧ σ.loops ∧ shutdownInitiated = false
  | .propagating => ready = false ∧ σ.loops
  | .returned _ => σ.Halted ready

/-- Only what was counted and whether it was cancelled matters. -/
theorem flagged_congr {σ τ : Listening n} {ready shutdownInitiated : Bool} {pc : ServingPc n}
    (hctx : τ.startCtx = σ.startCtx) (herrors : τ.handlerErrors = σ.handlerErrors)
    (hcount : τ.handlerCount = σ.handlerCount) (h : pc.Flagged σ ready shutdownInitiated) :
    pc.Flagged τ ready shutdownInitiated := by
  have hcalm : σ.Calm shutdownInitiated → τ.Calm shutdownInitiated := fun hσ =>
    ⟨herrors.trans hσ.uncounted, hσ.unnoticed, hctx.trans hσ.uncancelled⟩
  have hhalted : σ.Halted ready → τ.Halted ready := fun hσ =>
    ⟨hσ.withdrawn, hctx.trans hσ.cancelled⟩
  have hsettled : σ.Settled ready shutdownInitiated → τ.Settled ready shutdownInitiated :=
    fun hσ => hσ.imp (fun hcalmly => ⟨hcalmly.1, hcalm hcalmly.2⟩) hhalted
  have hloops : σ.loops → τ.loops := by
    unfold Listening.loops
    rw [herrors, hcount]
    exact id
  cases pc with
  | starting k => exact ⟨⟨h.1.1, hcalm h.1.2⟩, hcount ▸ h.2⟩
  | started => exact ⟨h.1, hcalm h.2⟩
  | select => exact hsettled h
  | reconfiguring conf => exact hsettled h
  | received sender err => exact hsettled h
  | counting sender err => exact h
  | noticed => exact ⟨hsettled h.1, hloops h.2.1, h.2.2⟩
  | propagating => exact ⟨h.1, hloops h.2⟩
  | returned err => exact hhalted h

/-- A goroutine by itself neither cancels nor counts. -/
theorem listener_keeps {σ τ : Listening n} {p : Party n} {pc : ServingPc n}
    (hp : pc.runs p) (h : ListenStep tests σ p τ) (hsilent : τ.handlerErrors = σ.handlerErrors) :
    τ.startCtx = σ.startCtx := by
  cases h with
  | reportServe _ _ => simp [Listening.receive, Listening.setHttp] at hsilent
  | reportAccept _ _ => simp [Listening.receive, Listening.setTcp] at hsilent
  | reportCloseError _ _ => simp [Listening.receive, Listening.setTcp] at hsilent
  | reportClose _ _ => simp [Listening.receive, Listening.setTcp] at hsilent
  | signal _ => exact hp.elim
  | returns _ => exact hp.elim
  | _ => rfl

variable {cfg : RoutingConfig} {s t : Serving cfg} {a : StartAct}

/-- The count is right, and so is the flag. -/
structure Serving.Flagged (s : Serving cfg) : Prop where
  counted : s.listening.handlerCount = listenerCount cfg
  flag : s.pc.Flagged s.listening s.ready s.shutdownInitiated

theorem flagged_begin (ctxDone : Bool) : (Serving.begin cfg ctxDone).Flagged :=
  ⟨rfl, ⟨rfl, rfl, rfl, rfl⟩, Nat.zero_le _⟩

theorem Serving.Flagged.loops_of_calm (h : s.Flagged)
    (hcalm : s.listening.Calm s.shutdownInitiated) : s.listening.loops := by
  unfold Listening.loops
  rw [hcalm.uncounted, h.counted, listenerCount_eq, List.length_nil]
  omega

theorem counted_step (hstep : ServingStep tests cfg s a t) :
    t.listening.handlerCount = s.listening.handlerCount := by
  cases hstep with
  | listener _ hmove _ => exact handlerCount_step hmove
  | takes _ hmove _ _ => exact (handlerCount_step hmove :)
  | _ => rfl

theorem flagged_step (hstep : ServingStep tests cfg s a t) (h : s.Flagged) : t.Flagged := by
  refine ⟨(counted_step hstep).trans h.counted, ?_⟩
  have hflag := h.flag
  cases hstep with
  | cancelled => exact hflag
  | starts hpc hlt =>
      rw [hpc] at hflag
      exact ⟨hflag.1, h.counted.symm ▸ hlt⟩
  | startFails err hpc _ _ =>
      rw [hpc] at hflag
      exact ⟨hflag.1.1, rfl⟩
  | startsAll hpc =>
      rw [hpc] at hflag
      exact hflag.1
  | setsReady hpc =>
      rw [hpc] at hflag
      exact Or.inl ⟨rfl, hflag.2⟩
  | listener hp hmove hsilent =>
      exact flagged_congr (listener_keeps hp hmove hsilent) hsilent (handlerCount_step hmove) hflag
  | takes hpc hmove herrors hctx =>
      -- the message is taken, and nothing done about it yet
      rw [hpc] at hflag
      have hsame : ServingPc.Flagged _ s.ready s.shutdownInitiated .select :=
        flagged_congr hctx herrors (handlerCount_step hmove :) hflag
      exact hsame
  | clearsReady hpc => exact rfl
  | counts hpc =>
      rw [hpc] at hflag
      exact Or.inr ⟨hflag, rfl⟩
  | receives conf hpc _ =>
      rw [hpc] at hflag
      exact hflag
  | stores hpc =>
      rw [hpc] at hflag
      exact hflag
  | notices hpc hloops _ hinitiated =>
      rw [hpc] at hflag
      exact ⟨hflag, hloops, hinitiated⟩
  | withdraws hpc =>
      rw [hpc] at hflag
      exact ⟨rfl, hflag.2.1⟩
  | cancels hpc =>
      rw [hpc] at hflag
      exact Or.inr ⟨hflag.1, rfl⟩
  | spins _ _ _ _ => exact hflag
  | returns hpc hended =>
      rw [hpc] at hflag
      rcases hflag with hcalmly | hhalted
      · -- without a message the loop does not end
        exact absurd (h.loops_of_calm hcalmly.2) hended
      · exact ⟨hhalted.withdrawn, rfl⟩

/-! ## §4. What the loop has taken. -/

/-- The listeners with the message that `Start` is about to count. -/
def Serving.seen (s : Serving cfg) : Listening cfg.tcpProxy.length :=
  match s.pc with
  | .received sender err => s.listening.receive sender err
  | .counting sender err => s.listening.receive sender err
  | _ => s.listening

/-- A goroutine that moves by itself moves as well when a message was counted before. -/
theorem listener_received {σ τ : Listening n} {p : Party n} {pc : ServingPc n}
    (hp : pc.runs p) (h : ListenStep tests σ p τ) (hsilent : τ.handlerErrors = σ.handlerErrors)
    (sender : Listener n) (err : Option GoError) :
    ListenStep tests (σ.receive sender err) p (τ.receive sender err) := by
  cases h with
  | serverEnds err' hserver => exact .serverEnds err' hserver
  | serveDone hserve _ => exact .serveDone hserve rfl
  | serveFails hstate => exact .serveFails hstate
  | shutdownReturns err' hserve => exact .shutdownReturns err' hserve
  | serveReturns hstate => exact .serveReturns hstate
  | acceptFails err' haccept => exact .acceptFails err' haccept
  | closes hclose _ => exact .closes hclose rfl
  | closeFails err' hclose _ => exact .closeFails err' hclose rfl
  | reportServe _ _ => simp [Listening.receive, Listening.setHttp] at hsilent
  | reportAccept _ _ => simp [Listening.receive, Listening.setTcp] at hsilent
  | reportCloseError _ _ => simp [Listening.receive, Listening.setTcp] at hsilent
  | reportClose _ _ => simp [Listening.receive, Listening.setTcp] at hsilent
  | signal _ => exact hp.elim
  | returns _ => exact hp.elim

/-- A step of `Start` is a step of the coarse model, or none. -/
theorem seen_step (hstep : ServingStep tests cfg s a t) (h : s.Flagged) :
    t.seen = s.seen ∨ ∃ p, ListenStep tests s.seen p t.seen := by
  have hflag := h.flag
  unfold Serving.seen
  cases hstep with
  | cancelled => exact Or.inl rfl
  | starts hpc _ => exact Or.inl (by rw [hpc])
  | startFails err hpc _ _ =>
      rw [hpc] at hflag ⊢
      exact Or.inr ⟨_, .signal (h.loops_of_calm hflag.1.2)⟩
  | startsAll hpc => exact Or.inl (by rw [hpc])
  | setsReady hpc => exact Or.inl (by rw [hpc])
  | listener hp hmove hsilent =>
      right
      cases hpc : s.pc with
      | received sender err => exact ⟨_, listener_received hp hmove hsilent sender err⟩
      | counting sender err => exact ⟨_, listener_received hp hmove hsilent sender err⟩
      | _ => exact ⟨_, hmove⟩
  | takes hpc hmove _ _ =>
      rw [hpc]
      exact Or.inr ⟨_, hmove⟩
  | clearsReady hpc => exact Or.inl (by rw [hpc])
  | counts hpc => exact Or.inl (by rw [hpc])
  | receives conf hpc _ => exact Or.inl (by rw [hpc])
  | stores hpc => exact Or.inl (by rw [hpc])
  | notices hpc _ _ _ => exact Or.inl (by rw [hpc])
  | withdraws hpc => exact Or.inl (by rw [hpc])
  | cancels hpc =>
      rw [hpc] at hflag ⊢
      exact Or.inr ⟨_, .signal hflag.2⟩
  | spins _ _ _ _ => exact Or.inl rfl
  | returns hpc hended =>
      rw [hpc]
      exact Or.inr ⟨_, .returns hended⟩

/-- The coarse model's states that `Start` can be in. -/
structure Serving.Sound (tests : ErrorTests) (s : Serving cfg) : Prop where
  flagged : s.Flagged
  seen : s.seen.Reached tests cfg

theorem sound_begin (ctxDone : Bool) : (Serving.begin cfg ctxDone).Sound tests :=
  ⟨flagged_begin ctxDone, _, _, rfl, .nil _⟩

/-- **Start refines its coarse model**, step by step. -/
theorem sound_step (hstep : ServingStep tests cfg s a t) (h : s.Sound tests) :
    t.Sound tests := by
  refine ⟨flagged_step hstep h.flagged, ?_⟩
  rcases seen_step hstep h.flagged with hsame | ⟨p, hmove⟩
  · rw [hsame]
    exact h.seen
  · exact h.seen.next hmove

/-! ## §5. Nobody stops before the cancellation. -/

/-- In `Shutdown`, or waiting for the server after it. -/
def ServePc.draining : ServePc → Bool
  | .shutdown => true
  | .waitServe _ => true
  | _ => false

/-- No listener was stopped by `Start`: no server is being shut down, and a TCP listener is
closed only where its accept loop ended. -/
structure Listening.Untouched (σ : Listening n) : Prop where
  http : ∀ l, (σ.http l).serve.draining = false
  tcp : ∀ i, (σ.tcp i).close ≠ .waiting → (σ.tcp i).cancelled = true

theorem Listening.Untouched.setHttp {σ : Listening n} (h : σ.Untouched) {l : HttpListener}
    {state : HttpState} (hstate : state.serve.draining = false) :
    (σ.setHttp l state).Untouched := by
  refine ⟨?_, h.tcp⟩
  show ∀ l', (Function.update σ.http l state l').serve.draining = false
  rw [Function.forall_update_iff σ.http fun _ st => st.serve.draining = false]
  exact ⟨hstate, fun l' _ => h.http l'⟩

theorem Listening.Untouched.setTcp {σ : Listening n} (h : σ.Untouched) {i : Fin n}
    {state : TcpState} (hstate : state.close ≠ .waiting → state.cancelled = true) :
    (σ.setTcp i state).Untouched := by
  refine ⟨h.http, ?_⟩
  show ∀ j, (Function.update σ.tcp i state j).close ≠ .waiting →
    (Function.update σ.tcp i state j).cancelled = true
  rw [Function.forall_update_iff σ.tcp fun _ st => st.close ≠ .waiting → st.cancelled = true]
  exact ⟨hstate, fun j _ => h.tcp j⟩

/-- Without a cancellation, a step leaves the listeners alone, or cancels. -/
theorem untouched_step {σ τ : Listening n} {p : Party n} (h : ListenStep tests σ p τ)
    (hctx : σ.startCtx = false) (hσ : σ.Untouched) : τ.Untouched := by
  cases h with
  | @serverEnds l err _ => exact hσ.setHttp (hσ.http l)
  | serveDone _ hdone =>
      rw [hctx] at hdone
      cases hdone
  | serveFails _ => exact hσ.setHttp rfl
  | @shutdownReturns l err hserve =>
      have hdraining := hσ.http l
      rw [hserve] at hdraining
      cases hdraining
  | serveReturns _ => exact hσ.setHttp rfl
  | @reportServe l err _ _ =>
      have hset : (σ.setHttp l ⟨(σ.http l).server, .reported⟩).Untouched := hσ.setHttp rfl
      exact ⟨hset.http, hset.tcp⟩
  | @acceptFails i err _ => exact hσ.setTcp (hσ.tcp i)
  | @reportAccept i err _ _ =>
      have hset : (σ.setTcp i { σ.tcp i with accept := .done, cancelled := true }).Untouched :=
        hσ.setTcp fun _ => rfl
      exact ⟨hset.http, hset.tcp⟩
  | @closes i _ hdone =>
      rw [hctx, Bool.false_or] at hdone
      exact hσ.setTcp fun _ => hdone
  | @closeFails i err _ hdone =>
      rw [hctx, Bool.false_or] at hdone
      exact hσ.setTcp fun _ => hdone
  | @reportCloseError i err hclose _ =>
      have hset : (σ.setTcp i { σ.tcp i with close := .sendingNil }).Untouched :=
        hσ.setTcp fun _ => hσ.tcp i (by rw [hclose]; exact ClosePc.noConfusion)
      exact ⟨hset.http, hset.tcp⟩
  | @reportClose i hclose _ =>
      have hset : (σ.setTcp i { σ.tcp i with close := .done }).Untouched :=
        hσ.setTcp fun _ => hσ.tcp i (by rw [hclose]; exact ClosePc.noConfusion)
      exact ⟨hset.http, hset.tcp⟩
  | signal _ => exact ⟨hσ.http, hσ.tcp⟩
  | returns _ => exact ⟨hσ.http, hσ.tcp⟩

theorem startCtx_step (hstep : ServingStep tests cfg s a t)
    (h : s.listening.startCtx = true) : t.listening.startCtx = true := by
  cases hstep with
  | startFails err _ _ _ => rfl
  | listener hp hmove hsilent => exact (listener_keeps hp hmove hsilent).trans h
  | takes _ _ _ hctx => exact hctx.trans h
  | counts _ => rfl
  | cancels _ => rfl
  | returns _ _ => rfl
  | _ => exact h

/-- Told to stop, or left alone. -/
theorem spared_step (hstep : ServingStep tests cfg s a t)
    (h : s.listening.startCtx = true ∨ s.listening.Untouched) :
    t.listening.startCtx = true ∨ t.listening.Untouched := by
  cases hctx : s.listening.startCtx with
  | true => exact Or.inl (startCtx_step hstep hctx)
  | false =>
      have hs : s.listening.Untouched := h.resolve_left (by rw [hctx]; exact Bool.false_ne_true)
      cases hstep with
      | startFails err _ _ _ => exact Or.inl rfl
      | listener _ hmove _ => exact Or.inr (untouched_step hmove hctx hs)
      | takes _ hmove _ _ =>
          have hreceived := untouched_step hmove hctx hs
          exact Or.inr ⟨hreceived.http, hreceived.tcp⟩
      | counts _ => exact Or.inl rfl
      | cancels _ => exact Or.inl rfl
      | returns _ _ => exact Or.inl rfl
      | _ => exact Or.inr hs

/-! ## §6. The flag comes down once. -/

/-- `ready` was set, or never will be. -/
def ServingPc.launched : ServingPc n → Bool
  | .starting _ => false
  | .started => false
  | _ => true

theorem launched_step (hstep : ServingStep tests cfg s a t) (h : s.pc.launched = true) :
    t.pc.launched = true ∧ (s.ready = false → t.ready = false) := by
  cases hstep with
  | starts hpc _ =>
      rw [hpc] at h
      cases h
  | startsAll hpc =>
      rw [hpc] at h
      cases h
  | setsReady hpc =>
      rw [hpc] at h
      cases h
  | cancelled => exact ⟨h, id⟩
  | listener _ _ _ => exact ⟨h, id⟩
  | spins _ _ _ _ => exact ⟨h, id⟩
  | clearsReady _ => exact ⟨rfl, fun _ => rfl⟩
  | withdraws _ => exact ⟨rfl, fun _ => rfl⟩
  | _ => exact ⟨rfl, id⟩

/-- Points of the loop at which the flag may be up. -/
def ServingPc.inLoop : ServingPc n → Bool
  | .select => true
  | .reconfiguring _ => true
  | .received _ _ => true
  | .noticed => true
  | _ => false

/-- Up exactly at these points, and in calm. -/
theorem ready_iff_calm (h : s.Flagged) :
    s.ready = true ↔ s.pc.inLoop = true ∧ s.listening.Calm s.shutdownInitiated := by
  have hflag := h.flag
  have hsettled : s.listening.Settled s.ready s.shutdownInitiated →
      (s.ready = true ↔ s.listening.Calm s.shutdownInitiated) := by
    rintro (⟨hready, hcalm⟩ | hhalted)
    · exact ⟨fun _ => hcalm, fun _ => hready⟩
    · refine ⟨fun hready => ?_, fun hcalm => ?_⟩
      · rw [hhalted.withdrawn] at hready
        cases hready
      · have hctx := hhalted.cancelled
        rw [hcalm.uncancelled] at hctx
        cases hctx
  have hdown : s.ready = false → s.pc.inLoop = false →
      (s.ready = true ↔ s.pc.inLoop = true ∧ s.listening.Calm s.shutdownInitiated) := by
    intro hready hout
    rw [hready, hout]
    simp
  cases hpc : s.pc with
  | starting k => rw [hpc] at hflag hdown; exact hdown hflag.1.1 rfl
  | started => rw [hpc] at hflag hdown; exact hdown hflag.1 rfl
  | select => rw [hpc] at hflag; simpa [ServingPc.inLoop] using hsettled hflag
  | reconfiguring conf => rw [hpc] at hflag; simpa [ServingPc.inLoop] using hsettled hflag
  | received sender err => rw [hpc] at hflag; simpa [ServingPc.inLoop] using hsettled hflag
  | counting sender err => rw [hpc] at hflag hdown; exact hdown hflag rfl
  | noticed => rw [hpc] at hflag; simpa [ServingPc.inLoop] using hsettled hflag.1
  | propagating => rw [hpc] at hflag hdown; exact hdown hflag.1 rfl
  | returned err => rw [hpc] at hflag hdown; exact hdown hflag.withdrawn rfl

/-- A listener that was told to stop was told so after the flag came down. -/
theorem down_of_cancelled (h : s.Flagged) (hctx : s.listening.startCtx = true) :
    s.pc.launched = true ∧ s.ready = false := by
  have huncalm : ¬ s.listening.Calm s.shutdownInitiated := by
    intro hcalm
    rw [hcalm.uncancelled] at hctx
    cases hctx
  have hflag := h.flag
  constructor
  · cases hpc : s.pc with
    | starting k => rw [hpc] at hflag; exact absurd hflag.1.2 huncalm
    | started => rw [hpc] at hflag; exact absurd hflag.2 huncalm
    | _ => rfl
  · cases hready : s.ready with
    | false => rfl
    | true => exact absurd ((ready_iff_calm h).mp hready).2 huncalm

/-! ## §7. How much is left to do. -/

/-- The steps a server's goroutine has left. -/
def ServerPc.rank : ServerPc → Nat
  | .running => 1
  | _ => 0

def ServePc.rank : ServePc → Nat
  | .select => 4
  | .shutdown => 3
  | .waitServe _ => 2
  | .sending _ => 1
  | .reported => 0

def AcceptPc.rank : AcceptPc → Nat
  | .accepting => 2
  | .sending _ => 1
  | .done => 0

def ClosePc.rank : ClosePc → Nat
  | .waiting => 3
  | .sending _ => 2
  | .sendingNil => 1
  | .done => 0

def HttpState.rank (state : HttpState) : Nat := state.server.rank + state.serve.rank

def TcpState.rank (state : TcpState) : Nat := state.accept.rank + state.close.rank

/-- The steps the listeners have left. -/
def Listening.work (σ : Listening n) : Nat :=
  (σ.http .https).rank + (σ.http .http).rank + (σ.http .quic).rank + (σ.http .status).rank
    + ∑ i, (σ.tcp i).rank

theorem work_setHttp (σ : Listening n) (l : HttpListener) (state : HttpState) :
    (σ.setHttp l state).work + (σ.http l).rank = σ.work + state.rank := by
  unfold Listening.work Listening.setHttp
  cases l <;> simp [Function.update] <;> omega

theorem work_setTcp (σ : Listening n) (i : Fin n) (state : TcpState) :
    (σ.setTcp i state).work + (σ.tcp i).rank = σ.work + state.rank := by
  have hsum : ∑ j, (Function.update σ.tcp i state j).rank + (σ.tcp i).rank
      = ∑ j, (σ.tcp j).rank + state.rank := by
    have hrank : (fun j => (Function.update σ.tcp i state j).rank)
        = Function.update (fun j => (σ.tcp j).rank) i state.rank := by
      funext j
      exact Function.apply_update (fun _ => TcpState.rank) σ.tcp i state j
    rw [hrank, Finset.sum_update_of_mem (Finset.mem_univ i),
      ← Finset.add_sum_erase _ _ (Finset.mem_univ i), Finset.sdiff_singleton_eq_erase]
    omega
  unfold Listening.work Listening.setTcp
  dsimp only
  omega

theorem setHttp_work_lt {σ : Listening n} {l : HttpListener} {state : HttpState}
    (h : state.rank < (σ.http l).rank) : (σ.setHttp l state).work < σ.work := by
  have hwork := work_setHttp σ l state
  omega

theorem setTcp_work_lt {σ : Listening n} {i : Fin n} {state : TcpState}
    (h : state.rank < (σ.tcp i).rank) : (σ.setTcp i state).work < σ.work := by
  have hwork := work_setTcp σ i state
  omega

/-- **A step of a listener is work done.** -/
theorem work_step {σ τ : Listening n} {p : Party n} (h : ListenStep tests σ p τ)
    (hp : p ≠ .start) : τ.work < σ.work := by
  cases h with
  | serverEnds err hserver =>
      exact setHttp_work_lt (by simp [HttpState.rank, hserver, ServerPc.rank])
  | serveDone hserve _ =>
      exact setHttp_work_lt (by simp [HttpState.rank, hserve, ServePc.rank])
  | serveFails hstate =>
      exact setHttp_work_lt (by simp [HttpState.rank, hstate, ServerPc.rank, ServePc.rank])
  | shutdownReturns err hserve =>
      exact setHttp_work_lt (by simp [HttpState.rank, hserve, ServePc.rank])
  | serveReturns hstate =>
      exact setHttp_work_lt (by simp [HttpState.rank, hstate, ServerPc.rank, ServePc.rank])
  | @reportServe l err hserve _ =>
      show (σ.setHttp l ⟨(σ.http l).server, .reported⟩).work < σ.work
      exact setHttp_work_lt (by simp [HttpState.rank, hserve, ServePc.rank])
  | acceptFails err haccept =>
      exact setTcp_work_lt (by simp [TcpState.rank, haccept, AcceptPc.rank])
  | @reportAccept i err haccept _ =>
      show (σ.setTcp i { σ.tcp i with accept := .done, cancelled := true }).work < σ.work
      exact setTcp_work_lt (by simp [TcpState.rank, haccept, AcceptPc.rank])
  | closes hclose _ =>
      exact setTcp_work_lt (by simp [TcpState.rank, hclose, ClosePc.rank])
  | closeFails err hclose _ =>
      exact setTcp_work_lt (by simp [TcpState.rank, hclose, ClosePc.rank])
  | @reportCloseError i err hclose _ =>
      show (σ.setTcp i { σ.tcp i with close := .sendingNil }).work < σ.work
      exact setTcp_work_lt (by simp [TcpState.rank, hclose, ClosePc.rank])
  | @reportClose i hclose _ =>
      show (σ.setTcp i { σ.tcp i with close := .done }).work < σ.work
      exact setTcp_work_lt (by simp [TcpState.rank, hclose, ClosePc.rank])
  | signal _ => exact absurd rfl hp
  | returns _ => exact absurd rfl hp

/-- `Start` itself sends nothing. -/
theorem start_silent {σ τ : Listening n} (h : ListenStep tests σ .start τ) :
    τ.handlerErrors = σ.handlerErrors := by
  cases h with
  | signal _ => rfl
  | returns _ => rfl

/-- The steps `Start` has left before it looks at its `select` again, one more there. -/
def ServingPc.rank (count : Nat) : ServingPc n → Nat
  | .starting k => 3 + (count - k)
  | .started => 2
  | .select => 1
  | .reconfiguring _ => 1
  | .received _ _ => 3
  | .counting _ _ => 2
  -- the shutdown is still to be initiated, which is counted apart
  | .noticed => 0
  | .propagating => 2
  | .returned _ => 0

/-- A message costs three steps of `Start`, and so does noticing the shutdown. -/
def Serving.work (s : Serving cfg) : Nat :=
  3 * s.listening.work + s.pc.rank (listenerCount cfg) + if s.shutdownInitiated then 0 else 3

/-- **Every own step lowers the work, and no other raises it.** -/
theorem work_lowered (hstep : ServingStep tests cfg s a t) (h : s.Flagged) :
    if a.own then t.work < s.work else t.work ≤ s.work := by
  have hflag := h.flag
  unfold Serving.work
  cases hstep with
  | cancelled => exact le_rfl
  | starts hpc hlt =>
      show _ < _
      rw [hpc]
      dsimp only [ServingPc.rank]
      omega
  | startFails err hpc _ _ =>
      show 3 * s.listening.work + _ + _ < _
      rw [hpc]
      dsimp only [ServingPc.rank]
      omega
  | startsAll hpc =>
      show _ < _
      rw [hpc]
      dsimp only [ServingPc.rank]
      omega
  | setsReady hpc =>
      show _ < _
      rw [hpc]
      dsimp only [ServingPc.rank]
      omega
  | @listener p τ hp hmove _ =>
      show _ < _
      have hlt : τ.work < s.listening.work := by
        refine work_step hmove fun hstart => ?_
        rw [hstart] at hp
        exact hp
      dsimp only
      omega
  | @takes p ρ sender err hpc hmove herrors _ =>
      show _ < _
      have hlt : (ρ.receive sender err).work < s.listening.work := by
        refine work_step hmove fun hstart => ?_
        rw [hstart] at hmove
        have hsilent := start_silent hmove
        simp [Listening.receive, herrors] at hsilent
      have hwork : (ρ.receive sender err).work = ρ.work := rfl
      rw [hpc]
      dsimp only [ServingPc.rank]
      omega
  | clearsReady hpc =>
      show _ < _
      rw [hpc]
      dsimp only [ServingPc.rank]
      omega
  | counts hpc =>
      show 3 * s.listening.work + _ + _ < _
      rw [hpc]
      dsimp only [ServingPc.rank]
      omega
  | receives conf hpc _ =>
      show _ ≤ _
      rw [hpc]
      exact le_rfl
  | stores hpc =>
      show _ ≤ _
      rw [hpc]
      exact le_rfl
  | notices hpc _ _ _ =>
      show _ < _
      rw [hpc]
      dsimp only [ServingPc.rank]
      omega
  | withdraws hpc =>
      rw [hpc] at hflag
      show _ < _
      rw [hpc, hflag.2.2, if_pos rfl, if_neg Bool.false_ne_true]
      dsimp only [ServingPc.rank]
      omega
  | cancels hpc =>
      show 3 * s.listening.work + _ + _ < _
      rw [hpc]
      dsimp only [ServingPc.rank]
      omega
  | spins _ _ _ _ => exact le_rfl
  | returns hpc _ =>
      show 3 * s.listening.work + _ + _ < _
      rw [hpc]
      dsimp only [ServingPc.rank]
      omega

/-! ## §8. A shutdown is never stuck. -/

/-- The goroutine sends what `serve` returned, or has sent it. -/
def ServePc.finished : ServePc → Bool
  | .sending _ => true
  | .reported => true
  | _ => false

/-- A server's goroutine that is gone was waited for, and a closed TCP listener has sent its
nil. -/
structure Listening.Tidy (σ : Listening n) : Prop where
  gone : ∀ l, (σ.http l).server = .gone → (σ.http l).serve.finished = true
  closed : ∀ i, (σ.tcp i).close = .done → .tcp i ∈ σ.senders

theorem Listening.Tidy.setHttp {σ : Listening n} (h : σ.Tidy) {l : HttpListener}
    {state : HttpState} (hstate : state.server = .gone → state.serve.finished = true) :
    (σ.setHttp l state).Tidy := by
  refine ⟨?_, h.closed⟩
  show ∀ l', (Function.update σ.http l state l').server = .gone →
    (Function.update σ.http l state l').serve.finished = true
  rw [Function.forall_update_iff σ.http fun _ st => st.server = .gone → st.serve.finished = true]
  exact ⟨hstate, fun l' _ => h.gone l'⟩

theorem Listening.Tidy.setTcp {σ : Listening n} (h : σ.Tidy) {i : Fin n} {state : TcpState}
    (hstate : state.close = .done → .tcp i ∈ σ.senders) : (σ.setTcp i state).Tidy := by
  refine ⟨h.gone, fun j hj => ?_⟩
  by_cases hji : j = i
  · subst hji
    exact hstate (by simpa [Listening.setTcp] using hj)
  · exact h.closed j (by simpa [Listening.setTcp, hji] using hj)

theorem Listening.Tidy.receive {σ : Listening n} (h : σ.Tidy) (sender : Listener n)
    (err : Option GoError) : (σ.receive sender err).Tidy := by
  refine ⟨h.gone, fun i hi => ?_⟩
  rw [senders_receive]
  exact List.mem_append_left _ (h.closed i hi)

theorem tidy_step {σ τ : Listening n} {p : Party n} (h : ListenStep tests σ p τ)
    (hσ : σ.Tidy) : τ.Tidy := by
  cases h with
  | serverEnds err _ => exact hσ.setHttp (fun hgone => by cases hgone)
  | @serveDone l hserve _ =>
      refine hσ.setHttp fun hgone => ?_
      have hfinished := hσ.gone l hgone
      rw [hserve] at hfinished
      cases hfinished
  | serveFails _ => exact hσ.setHttp fun _ => rfl
  | @shutdownReturns l err hserve =>
      refine hσ.setHttp fun hgone => ?_
      have hfinished := hσ.gone l hgone
      rw [hserve] at hfinished
      cases hfinished
  | serveReturns _ => exact hσ.setHttp fun _ => rfl
  | reportServe _ _ => exact (hσ.setHttp fun _ => rfl).receive _ _
  | @acceptFails i err _ => exact hσ.setTcp (hσ.closed i)
  | @reportAccept i err _ _ =>
      have hset : (σ.setTcp i { σ.tcp i with accept := .done, cancelled := true }).Tidy :=
        hσ.setTcp (hσ.closed i)
      exact hset.receive _ _
  | closes _ _ => exact hσ.setTcp (fun hdone => by cases hdone)
  | closeFails err _ _ => exact hσ.setTcp (fun hdone => by cases hdone)
  | reportCloseError _ _ => exact (hσ.setTcp (fun hdone => by cases hdone)).receive _ _
  | @reportClose i _ _ =>
      -- the nil of this listener is the message that is counted
      refine ⟨hσ.gone, fun j hj => ?_⟩
      rw [senders_receive, senders_setTcp, List.mem_append, List.mem_singleton]
      by_cases hji : j = i
      · exact Or.inr (congrArg _ hji)
      · exact Or.inl (hσ.closed j (by simpa [Listening.setTcp, Listening.receive, hji] using hj))
  | signal _ => exact ⟨hσ.gone, hσ.closed⟩
  | returns _ => exact ⟨hσ.gone, hσ.closed⟩

theorem tidy_of_reached {σ : Listening cfg.tcpProxy.length} (h : σ.Reached tests cfg) :
    σ.Tidy := by
  refine h.invariant (I := Listening.Tidy) ?_ fun _ _ _ hσ hstep => tidy_step hstep hσ
  rintro σ rfl
  exact ⟨fun l hgone => ServerPc.noConfusion hgone, fun i hdone => ClosePc.noConfusion hdone⟩

/-- All listeners. -/
def allListeners (n : Nat) : List (Listener n) :=
  [.server .https, .server .http, .server .quic, .server .status]
    ++ (List.finRange n).map .tcp

theorem nodup_allListeners (n : Nat) : (allListeners n).Nodup := by
  refine List.nodup_append.mpr ⟨by simp, ?_, ?_⟩
  · exact (List.nodup_finRange n).map fun i j hij => Listener.tcp.inj hij
  · intro listener hserver other htcp heq
    obtain ⟨i, -, rfl⟩ := List.mem_map.mp htcp
    subst heq
    simp at hserver

/-- When every listener has sent a message, the loop ends. -/
theorem not_loops_of_all {σ : Listening n} (hσ : Counting σ) (hall : ∀ l, l ∈ σ.senders) :
    ¬ σ.loops := by
  have hsub : (allListeners n).Subperm σ.senders :=
    (nodup_allListeners n).subperm fun l _ => hall l
  have hlength := hsub.length_le
  rw [loops_iff, hσ.counted]
  simp only [allListeners, List.length_append, List.length_map, List.length_finRange,
    List.length_cons, List.length_nil] at hlength
  omega

/-- A goroutine moves by itself, or has a message for `Start`. -/
def Listening.Moves (tests : ErrorTests) (σ : Listening n) : Prop :=
  (∃ (p : Party n) (τ : Listening n), p.listener.isSome ∧ ListenStep tests σ p τ
    ∧ τ.handlerErrors = σ.handlerErrors)
  ∨ ∃ (p : Party n) (ρ : Listening n) (sender : Listener n) (err : Option GoError),
    ListenStep tests σ p (ρ.receive sender err) ∧ ρ.handlerErrors = σ.handlerErrors
      ∧ ρ.startCtx = σ.startCtx

variable (tests) in
theorem server_moves {σ : Listening n} (htidy : σ.Tidy) (hctx : σ.startCtx = true)
    (hloops : σ.loops) {l : HttpListener} (hl : σ.reported l = false) : σ.Moves tests := by
  obtain ⟨server, hserver⟩ : ∃ server, (σ.http l).server = server := ⟨_, rfl⟩
  cases hserve : (σ.http l).serve with
  | select => exact Or.inl ⟨_, _, rfl, .serveDone hserve hctx, rfl⟩
  | shutdown => exact Or.inl ⟨_, _, rfl, .shutdownReturns none hserve, rfl⟩
  | waitServe err =>
      cases server with
      | running => exact Or.inl ⟨_, _, rfl, .serverEnds none hserver, rfl⟩
      | ended serveErr =>
          have hstate : σ.http l = ⟨.ended serveErr, .waitServe err⟩ := by
            rw [← hserver, ← hserve]
          exact Or.inl ⟨_, _, rfl, .serveReturns hstate, rfl⟩
      | gone =>
          have hfinished := htidy.gone l hserver
          rw [hserve] at hfinished
          cases hfinished
  | sending err => exact Or.inr ⟨_, _, _, _, .reportServe hserve hloops, rfl, rfl⟩
  | reported =>
      rw [Listening.reported, hserve] at hl
      cases hl

variable (tests) in
theorem tcp_moves {σ : Listening n} (hctx : σ.startCtx = true) (hloops : σ.loops) {i : Fin n}
    (hi : (σ.tcp i).close ≠ .done) : σ.Moves tests := by
  have hdone : (σ.startCtx || (σ.tcp i).cancelled) = true := by rw [hctx, Bool.true_or]
  cases hclose : (σ.tcp i).close with
  | waiting => exact Or.inl ⟨_, _, rfl, .closes hclose hdone, rfl⟩
  | sending err => exact Or.inr ⟨_, _, _, _, .reportCloseError hclose hloops, rfl, rfl⟩
  | sendingNil => exact Or.inr ⟨_, _, _, _, .reportClose hclose hloops, rfl, rfl⟩
  | done => exact absurd hclose hi

variable (tests) in
/-- **Listeners that were told to stop come to their end.** -/
theorem listeners_move {σ : Listening n} (hσ : Counting σ) (htidy : σ.Tidy)
    (hctx : σ.startCtx = true) (hloops : σ.loops) : σ.Moves tests := by
  by_cases hall : ∀ l, l ∈ σ.senders
  · exact absurd hloops (not_loops_of_all hσ hall)
  · obtain ⟨listener, hsilent⟩ := not_forall.mp hall
    cases listener with
    | server l =>
        refine server_moves tests htidy hctx hloops (l := l) ?_
        have hsent := hσ.sent l
        rw [List.count_eq_zero_of_not_mem hsilent] at hsent
        cases hreported : σ.reported l with
        | false => rfl
        | true =>
            rw [hreported, if_pos rfl] at hsent
            cases hsent
    | tcp i => exact tcp_moves tests hctx hloops fun hdone => hsilent (htidy.closed i hdone)

/-- Steps of `Start` and of the listeners that need nobody else. -/
def StartAct.inner (a : StartAct) : Prop := a.own = true ∨ a = .stores

theorem start_moves (h : s.Sound tests)
    (hwoken : s.ctxDone = true ∨ s.listening.startCtx = true)
    (hpc : ∀ err, s.pc ≠ .returned err) : ∃ a t, ServingStep tests cfg s a t ∧ a.inner := by
  have hflag := h.flagged.flag
  have hreached := h.seen
  unfold Serving.seen at hreached
  cases hs : s.pc with
  | starting k =>
      rw [hs] at hflag
      rcases Nat.lt_or_eq_of_le (h.flagged.counted ▸ hflag.2) with hlt | rfl
      · exact ⟨_, _, .starts hs hlt, Or.inl rfl⟩
      · exact ⟨_, _, .startsAll hs, Or.inl rfl⟩
  | started => exact ⟨_, _, .setsReady hs, Or.inl rfl⟩
  | select =>
      rw [hs] at hflag hreached
      by_cases hloops : s.listening.loops
      · rcases hflag with ⟨-, hcalm⟩ | hhalted
        · have hdone : s.ctxDone = true :=
            hwoken.resolve_right (by rw [hcalm.uncancelled]; exact Bool.false_ne_true)
          exact ⟨_, _, .notices hs hloops hdone hcalm.unnoticed, Or.inl rfl⟩
        · rcases listeners_move tests (counting_of_reached hreached) (tidy_of_reached hreached)
            hhalted.cancelled hloops with ⟨p, τ, hp, hmove, hsilent⟩ | ⟨p, ρ, sender, err, hmove,
              herrors, hctx⟩
          · refine ⟨_, _, .listener ?_ hmove hsilent, Or.inl rfl⟩
            rw [hs]
            obtain ⟨l, hl⟩ := Option.isSome_iff_exists.mp hp
            unfold ServingPc.runs
            rw [hl]
            trivial
          · exact ⟨_, _, .takes hs hmove herrors hctx, Or.inl rfl⟩
      · exact ⟨_, _, .returns hs hloops, Or.inl rfl⟩
  | reconfiguring conf => exact ⟨_, _, .stores hs, Or.inr rfl⟩
  | received sender err => exact ⟨_, _, .clearsReady hs, Or.inl rfl⟩
  | counting sender err => exact ⟨_, _, .counts hs, Or.inl rfl⟩
  | noticed => exact ⟨_, _, .withdraws hs, Or.inl rfl⟩
  | propagating => exact ⟨_, _, .cancels hs, Or.inl rfl⟩
  | returned err => exact absurd hs (hpc err)

/-! ## §9. The whole life of `Start`. -/

variable {ℓ ℓ' ℓ'' : Lifecycle}

/-- Sound, and no listener stopped unless it was told to. -/
def Lifecycle.Sound (tests : ErrorTests) : Lifecycle → Prop
  | .serving _ s => s.Sound tests ∧ (s.listening.startCtx = true ∨ s.listening.Untouched)
  | _ => True

theorem lifecycle_sound_step (hstep : LifecycleStep tests ℓ a ℓ') (h : ℓ.Sound tests) :
    ℓ'.Sound tests := by
  cases hstep with
  | stores ctxDone cfg =>
      refine ⟨sound_begin ctxDone, Or.inr ⟨fun l => rfl, fun i hclose => ?_⟩⟩
      exact absurd rfl hclose
  | serves hserving => exact ⟨sound_step hserving h.1, spared_step hserving h.2⟩
  | _ => trivial

theorem sound_of_run {as : List StartAct} (h : Run (LifecycleStep tests) (.waiting false) as ℓ) :
    ℓ.Sound tests :=
  h.invariant (fun _ _ _ hℓ hstep => lifecycle_sound_step hstep hℓ) trivial

/-- Up and running: `Start` is in its loop, has counted no message and noticed no shutdown, and
has stopped no listener. -/
structure Serving.InService (s : Serving cfg) : Prop where
  looping : s.pc.inLoop = true
  calm : s.listening.Calm s.shutdownInitiated
  untouched : s.listening.Untouched

def Lifecycle.InService : Lifecycle → Prop
  | .serving _ s => s.InService
  | _ => False

theorem ready_iff_inService (h : ℓ.Sound tests) : ℓ.ready = true ↔ ℓ.InService := by
  cases ℓ with
  | serving cfg s =>
      show s.ready = true ↔ s.InService
      rw [ready_iff_calm h.1.flagged]
      refine ⟨fun hready => ⟨hready.1, hready.2, ?_⟩, fun hs => ⟨hs.looping, hs.calm⟩⟩
      exact h.2.resolve_left (by rw [hready.2.uncancelled]; exact Bool.false_ne_true)
  | _ => simp [Lifecycle.ready, Lifecycle.InService]

/-- **A probe is answered 204 exactly in service.**  In every run of `Start`, however its steps
interleave with those of the listeners: a GET probe that loads the flag in this state, and the
configuration then or later, is answered 204 if and only if every listener was started and none
stopped, no message was counted, no shutdown noticed, and the configuration is there. -/
theorem readyz_iff {as : List StartAct} (h : Run (LifecycleStep tests) (.waiting false) as ℓ)
    (routingConfig : Option RoutingConfig) (method : GoString) :
    readyz ℓ.ready routingConfig method = 204 ↔
      method = lit "GET" ∧ ℓ.InService ∧ routingConfig ≠ none := by
  rw [← ready_iff_inService (sound_of_run h), ← Option.isSome_iff_ne_none]
  unfold readyz
  by_cases hmethod : method = lit "GET"
  · rw [if_neg (not_not.mpr hmethod)]
    cases ℓ.ready <;> cases routingConfig <;> simp [hmethod]
  · rw [if_pos hmethod]
    simp [hmethod]

/-- `ready` was set, or never will be. -/
def Lifecycle.Launched (ℓ : Lifecycle) : Prop :=
  ∃ cfg, ∃ s : Serving cfg, ℓ = .serving cfg s ∧ s.pc.launched = true

theorem lifecycle_launched_step (hstep : LifecycleStep tests ℓ a ℓ') (h : ℓ.Launched) :
    ℓ'.Launched ∧ (ℓ.ready = false → ℓ'.ready = false) := by
  obtain ⟨cfg, s, rfl, hs⟩ := h
  cases hstep with
  | serves hserving =>
      obtain ⟨ht, hready⟩ := launched_step hserving hs
      exact ⟨⟨cfg, _, rfl, ht⟩, hready⟩

theorem launched_of_ready (h : ℓ.Sound tests) (hready : ℓ.ready = true) : ℓ.Launched := by
  have hservice := (ready_iff_inService h).mp hready
  cases ℓ with
  | serving cfg s =>
      refine ⟨cfg, s, rfl, ?_⟩
      have hloop := hservice.looping
      cases hpc : s.pc with
      | starting k => rw [hpc] at hloop; cases hloop
      | started => rw [hpc] at hloop; cases hloop
      | _ => rfl
  | _ => exact hservice.elim

theorem down_of_run {as : List StartAct} (h : Run (LifecycleStep tests) ℓ as ℓ')
    (hlaunched : ℓ.Launched) (hdown : ℓ.ready = false) : ℓ'.ready = false := by
  have hboth : ℓ'.Launched ∧ ℓ'.ready = false := by
    refine h.invariant (I := fun ℓ => ℓ.Launched ∧ ℓ.ready = false) ?_ ⟨hlaunched, hdown⟩
    intro ℓ a ℓ' hℓ hstep
    obtain ⟨ht, hready⟩ := lifecycle_launched_step hstep hℓ.1
    exact ⟨ht, hready hℓ.2⟩
  exact hboth.2

/-- **Readiness is withdrawn before anything stops, and for good.**  In every run, once the
listeners are told to stop the flag is down and stays down; none is shut down, or closed though
it still accepts, unless it was told to; and a flag that came down never comes up again. -/
theorem drain_order {as bs : List StartAct}
    (h : Run (LifecycleStep tests) (.waiting false) as ℓ)
    (h' : Run (LifecycleStep tests) ℓ bs ℓ') :
    (∀ cfg, ∀ s : Serving cfg, ℓ = .serving cfg s →
      (s.listening.startCtx = true → ℓ.ready = false ∧ ℓ'.ready = false)
      ∧ (¬ s.listening.Untouched → s.listening.startCtx = true))
    ∧ (ℓ.ready = true → ℓ'.ready = false →
      ∀ cs ℓ'', Run (LifecycleStep tests) ℓ' cs ℓ'' → ℓ''.ready = false) := by
  have hsound := sound_of_run h
  constructor
  · rintro cfg s rfl
    refine ⟨fun htold => ?_, fun htouched => hsound.2.resolve_right htouched⟩
    obtain ⟨hlaunched, hdown⟩ := down_of_cancelled hsound.1.flagged htold
    exact ⟨hdown, down_of_run h' ⟨cfg, s, rfl, hlaunched⟩ hdown⟩
  · intro hup hdown cs ℓ'' h''
    have hlaunched : ℓ'.Launched := h'.invariant (I := Lifecycle.Launched)
      (fun _ _ _ hℓ hstep => (lifecycle_launched_step hstep hℓ).1) (launched_of_ready hsound hup)
    exact down_of_run h'' hlaunched hdown

/-- **A shutdown ends.**  Once its context is done or the listeners are told to stop, `Start` is
never stuck before it returns, whatever the controller does; and in any run the steps other than
receiving and storing configurations, being cancelled and turning around the loop are bounded
by what is left to do.  Turns around the loop are not: with a context that was noticed, its case
stays ready and the loop does not wait. -/
theorem start_ends {as : List StartAct}
    (h : Run (LifecycleStep tests) (.waiting false) as (.serving cfg s)) :
    (s.ctxDone = true ∨ s.listening.startCtx = true → (∀ err, s.pc ≠ .returned err) →
      ∃ a t, ServingStep tests cfg s a t ∧ a.inner)
    ∧ ∀ bs t, Run (ServingStep tests cfg) s bs t → bs.countP StartAct.own ≤ s.work := by
  have hsound : s.Sound tests := (sound_of_run h).1
  refine ⟨fun hwoken hpc => start_moves hsound hwoken hpc, fun bs t hrun => ?_⟩
  have hbound := hrun.countP_le (I := Serving.Flagged) (μ := Serving.work) (p := StartAct.own)
    (fun s a t hs hstep => ⟨flagged_step hstep hs, work_lowered hstep hs⟩) hsound.flagged
  omega

/-! ## §10. A start and a shutdown. -/

variable (tests) in
/-- The remaining listeners start, one after the other. -/
theorem starts_run (left : Nat) {k : Nat} (hpc : s.pc = .starting k)
    (hleft : k + left = listenerCount cfg) :
    ∃ as, Run (ServingStep tests cfg) s as { s with pc := .starting (listenerCount cfg) }
      ∧ ∀ a ∈ as, a.own = true := by
  induction left generalizing s k with
  | zero =>
      have hsame : { s with pc := .starting (listenerCount cfg) } = s := by
        rw [← hleft, Nat.add_zero, ← hpc]
      exact ⟨[], by rw [hsame]; exact .nil s, fun _ hmem => by cases hmem⟩
  | succ left ih =>
      obtain ⟨as, hrun, hown⟩ := ih (s := { s with pc := .starting (k + 1) }) rfl (by omega)
      refine ⟨_, .cons (.starts hpc (by omega)) hrun, fun a ha => ?_⟩
      rcases List.mem_cons.mp ha with rfl | hrest
      · rfl
      · exact hown a hrest

/-- `Start` at its `select`, ready. -/
def Serving.up (cfg : RoutingConfig) : Serving cfg :=
  { Serving.begin cfg false with ready := true, pc := .select }

theorem Run.inLifecycle {as : List StartAct} (h : Run (ServingStep tests cfg) s as t) :
    Run (LifecycleStep tests) (.serving cfg s) as (.serving cfg t) := by
  induction h with
  | nil s => exact .nil _
  | cons hstep _ ih => exact .cons (.serves hstep) ih

variable (tests cfg) in
theorem up_run : ∃ as, Run (LifecycleStep tests) (.waiting false) as (.serving cfg (.up cfg)) := by
  obtain ⟨as, hrun, -⟩ := starts_run tests (s := Serving.begin cfg false) _ rfl (Nat.zero_add _)
  have hready : Run (ServingStep tests cfg) (Serving.begin cfg false) _ (.up cfg) :=
    hrun.append (.cons (.startsAll rfl) (.single (.setsReady rfl)))
  exact ⟨_, .cons (.receives false (some cfg)) (.cons (.stores false cfg)
    (Run.inLifecycle hready))⟩

/-- The shutdown was noticed, and the HTTPS listener is the first to stop. -/
def Serving.stopping (cfg : RoutingConfig) : Serving cfg :=
  { Serving.up cfg with
    ctxDone := true
    ready := false
    shutdownInitiated := true
    listening := { startListeners cfg with startCtx := true }.setHttp .https
      ⟨.running, .shutdown⟩ }

theorem up_loops (cfg : RoutingConfig) : (startListeners cfg).loops := by
  show 0 < listenerCount cfg
  rw [listenerCount_eq]
  omega

variable (tests cfg) in
theorem stopping_run : ∃ as, Run (LifecycleStep tests) (.waiting false) as
    (.serving cfg (.stopping cfg)) := by
  obtain ⟨as, hrun⟩ := up_run tests cfg
  have hstop : Run (ServingStep tests cfg) (.up cfg)
      [.cancelled, .start, .start, .start, .listener] (.stopping cfg) :=
    .cons (.cancelled _) (.cons (.notices rfl (up_loops cfg) rfl rfl)
      (.cons (.withdraws rfl) (.cons (.cancels rfl)
        (.single (.listener (p := .serve .https) trivial (.serveDone rfl rfl) rfl)))))
  exact ⟨_, hrun.append (Run.inLifecycle hstop)⟩

end

/-- With its listeners started, the proxy is ready. -/
theorem readyz_iff_up : ∃ as ℓ, Run (LifecycleStep httpClosedTests) (.waiting false) as ℓ
    ∧ ℓ.InService ∧ readyz ℓ.ready ℓ.routingConfig (lit "GET") = 204 := by
  obtain ⟨as, hrun⟩ := up_run httpClosedTests tcpConfig
  refine ⟨as, _, hrun, ?_, rfl⟩
  exact ((readyz_iff hrun (some tcpConfig) (lit "GET")).mp rfl).2.1

/-- While the HTTPS listener shuts down, the proxy is not ready; and it was told to stop. -/
theorem drain_order_stopping : ∃ as ℓ, Run (LifecycleStep httpClosedTests) (.waiting false) as ℓ
    ∧ ℓ = .serving tcpConfig (.stopping tcpConfig) ∧ ℓ.ready = false
    ∧ ¬ (Serving.stopping tcpConfig).listening.Untouched
    ∧ (Serving.stopping tcpConfig).listening.startCtx = true := by
  obtain ⟨as, hrun⟩ := stopping_run httpClosedTests tcpConfig
  have htouched : ¬ (Serving.stopping tcpConfig).listening.Untouched := fun huntouched =>
    Bool.noConfusion (huntouched.http .https)
  obtain ⟨hdown, htold⟩ := (drain_order hrun (.nil _)).1 tcpConfig _ rfl
  exact ⟨as, _, hrun, rfl, (hdown (htold htouched)).1, htouched, htold htouched⟩

/-- And the shutdown goes on. -/
theorem start_ends_stopping : ∃ as, Run (LifecycleStep httpClosedTests) (.waiting false) as
      (.serving tcpConfig (.stopping tcpConfig))
    ∧ ∃ a t, ServingStep httpClosedTests tcpConfig (.stopping tcpConfig) a t ∧ a.inner := by
  obtain ⟨as, hrun⟩ := stopping_run httpClosedTests tcpConfig
  exact ⟨as, hrun, (start_ends hrun).1 (Or.inl rfl) fun _ hreturned =>
    ServingPc.noConfusion rfl (heq_of_eq hreturned)⟩

end SIngress.Proxy
