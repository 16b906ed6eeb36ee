/-
  SIngress.Proxy.Shutdown — COUNTING LISTENERS AT SHUTDOWN
  (`pkg/proxy/proxy.go`, `proxy_http.go`, `proxy_tcp.go`).

  `Start` counts messages on an unbuffered channel until it has as many as
  there are listeners.  Each of the four HTTP-style listeners runs `serve` in a
  goroutine and sends what it returned, ONCE.  A TCP proxy runs two goroutines:
  the accept loop sends the error that ends it, the other one closes the
  listener on cancellation and sends nil, after the error of the close if there
  was one.  `Start` counts a TCP proxy once all the same.

    • `reported_of_returned` — without TCP proxies, `Start` returns only after
      every listener reported,
    • `returned_early`       — with any TCP proxy, `Start` can return while the
      status listener is still running,
    • `waits_for_all_iff`    — both in one statement.

  A send and the receive of `Start` are one step, as on an unbuffered channel.
-/
import Mathlib.Data.List.Perm.Subperm
import Mathlib.Data.List.FinRange
import Mathlib.Logic.Function.Basic
import SIngress.Lib.Transition
import SIngress.Proxy.Config

namespace SIngress.Proxy

open SIngress.Base SIngress.Lib

/-! ## §1. The goroutines. -/

inductive HttpListener where
  | https
  | http
  | quic
  | status
  deriving DecidableEq

/-- The first argument of `wrapErr` for the listener. -/
def HttpListener.name : HttpListener → GoString
  | .https => lit "https"
  | .http => lit "http"
  | .quic => lit "quic"
  | .status => lit "status"

/-- The goroutine of `serve` that runs the server. -/
inductive ServerPc where
  | running
  /-- `Serve` returned; the goroutine waits to send what it returned. -/
  | ended (err : Option GoError)
  | gone
  deriving DecidableEq

/-- The goroutine of the listener. -/
inductive ServePc where
  /-- At the `select` of `serve`. -/
  | select
  /-- The context is done; in `server.Shutdown`. -/
  | shutdown
  /-- `Shutdown` returned; waits for the server's goroutine. -/
  | waitServe (err : Option GoError)
  /-- `serve` returned; waits to send to `Start`. -/
  | sending (err : Option GoError)
  | reported
  deriving DecidableEq

structure HttpState where
  server : ServerPc
  serve : ServePc
  deriving DecidableEq

/-- The accept loop of a TCP proxy. -/
inductive AcceptPc where
  | accepting
  | sending (err : GoError)
  | done
  deriving DecidableEq

/-- The goroutine that closes the listener of a TCP proxy. -/
inductive ClosePc where
  /-- Waits for the context. -/
  | waiting
  /-- `Close` failed; waits to send the error. -/
  | sending (err : GoError)
  /-- Waits to send nil. -/
  | sendingNil
  | done
  deriving DecidableEq

/-- A TCP proxy; `cancelled` is its own context. -/
structure TcpState where
  accept : AcceptPc
  close : ClosePc
  cancelled : Bool
  deriving DecidableEq

/-- Who reports. -/
inductive Listener (n : Nat) where
  | server (l : HttpListener)
  | tcp (i : Fin n)
  deriving DecidableEq

/-- `Start` after `startListeners`, with `n` TCP proxies. -/
structure Listening (n : Nat) where
  http : HttpListener → HttpState
  tcp : Fin n → TcpState
  /-- `startCtx` is cancelled. -/
  startCtx : Bool
  handlerCount : Nat
  /-- `handlerErrors`, each with its sender. -/
  handlerErrors : List (Listener n × Option GoError)
  returned : Bool

/-- The condition of the loop of `Start`. -/
def Listening.loops {n : Nat} (σ : Listening n) : Prop :=
  σ.handlerErrors.length < σ.handlerCount

/-- The count `startListeners` returns. -/
def listenerCount (cfg : RoutingConfig) : Nat :=
  cfg.tcpProxy.foldl (fun listenerCount _ => listenerCount + 1) 4

/-- What a successful `startListeners` leaves running. -/
def startListeners (cfg : RoutingConfig) : Listening cfg.tcpProxy.length where
  http := fun _ => ⟨.running, .select⟩
  tcp := fun _ => ⟨.accepting, .waiting, false⟩
  startCtx := false
  handlerCount := listenerCount cfg
  handlerErrors := []
  returned := false

theorem listenerCount_eq (cfg : RoutingConfig) : listenerCount cfg = 4 + cfg.tcpProxy.length := by
  unfold listenerCount
  rw [List.foldl_add_const, Nat.one_mul]

/-! ## §2. What `serve` returns. -/

/-- The tests of an error against the closed-server errors of the libraries. -/
structure ErrorTests where
  /-- `errors.Is(err, http.ErrServerClosed)`. -/
  isHttpServerClosed : GoError → Bool
  /-- `errors.As(err, &quic.ErrServerClosed)`. -/
  asQuicServerClosed : GoError → Bool

section

variable (tests : ErrorTests)

def isServerClosedError (err : GoError) : Bool :=
  tests.isHttpServerClosed err || tests.asQuicServerClosed err

/-- `%w` of an error. -/
def printError : Option GoError → GoString
  | none => lit "%!w(<nil>)"
  | some err => err

/-- The end of `serve` after a shutdown: the error of `Shutdown`, unless the server
returned one that does not say that it was closed. -/
def shutdownResult (l : HttpListener) (err serveErr : Option GoError) : Option GoError :=
  match serveErr with
  | some e =>
      if isServerClosedError tests e then shutdownFailed l err
      else some (lit "server returned error while closing: " ++ e ++ lit " (" ++
        printError err ++ lit ")")
  | none => shutdownFailed l err
where
  shutdownFailed (l : HttpListener) : Option GoError → Option GoError
    | none => none
    | some e =>
        if l = .quic then
          if tests.isHttpServerClosed e then none
          else some (lit "quic server shutdown failed: " ++ e)
        else some (lit "server shutdown failed: " ++ e)

/-- The end of `serve` when the server returns by itself. -/
def startResult (err : Option GoError) : Option GoError :=
  err.map fun e => lit "server start failed: " ++ e

/-- `wrapErr`. -/
def wrapListenerErr (l : HttpListener) (err : Option GoError) : Option GoError :=
  err.map fun e => l.name ++ lit ": " ++ e

/-! ## §3. The steps. -/

variable {n : Nat}

def Listening.setHttp (σ : Listening n) (l : HttpListener) (state : HttpState) : Listening n :=
  { σ with http := Function.update σ.http l state }

def Listening.setTcp (σ : Listening n) (i : Fin n) (state : TcpState) : Listening n :=
  { σ with tcp := Function.update σ.tcp i state }

/-- `Start` receives a message: it counts it and cancels the context. -/
def Listening.receive (σ : Listening n) (sender : Listener n) (err : Option GoError) :
    Listening n :=
  { σ with handlerErrors := σ.handlerErrors ++ [(sender, err)], startCtx := true }

/-- Who takes the step. -/
inductive Party (n : Nat) where
  | server (l : HttpListener)
  | serve (l : HttpListener)
  | accept (i : Fin n)
  | close (i : Fin n)
  | start

inductive ListenStep : Listening n → Party n → Listening n → Prop
  /-- `Serve` returns, whatever the reason. -/
  | serverEnds {σ : Listening n} {l : HttpListener} (err : Option GoError) :
      (σ.http l).server = .running →
      ListenStep σ (.server l) (σ.setHttp l ⟨.ended err, (σ.http l).serve⟩)
  | serveDone {σ : Listening n} {l : HttpListener} :
      (σ.http l).serve = .select → σ.startCtx = true →
      ListenStep σ (.serve l) (σ.setHttp l ⟨(σ.http l).server, .shutdown⟩)
  | serveFails {σ : Listening n} {l : HttpListener} {err : Option GoError} :
      σ.http l = ⟨.ended err, .select⟩ →
      ListenStep σ (.serve l)
        (σ.setHttp l ⟨.gone, .sending (wrapListenerErr l (startResult err))⟩)
  /-- The variable holds what `Shutdown` returned, or what the server's goroutine wrote to
  it meanwhile. -/
  | shutdownReturns {σ : Listening n} {l : HttpListener} (err : Option GoError) :
      (σ.http l).serve = .shutdown →
      ListenStep σ (.serve l) (σ.setHttp l ⟨(σ.http l).server, .waitServe err⟩)
  | serveReturns {σ : Listening n} {l : HttpListener} {err serveErr : Option GoError} :
      σ.http l = ⟨.ended serveErr, .waitServe err⟩ →
      ListenStep σ (.serve l)
        (σ.setHttp l ⟨.gone, .sending (wrapListenerErr l (shutdownResult tests l err serveErr))⟩)
  | reportServe {σ : Listening n} {l : HttpListener} {err : Option GoError} :
      (σ.http l).serve = .sending err → σ.loops →
      ListenStep σ (.serve l)
        ((σ.setHttp l ⟨(σ.http l).server, .reported⟩).receive (.server l) err)
  /-- `AcceptTCP` fails, with any error but an aborted connection. -/
  | acceptFails {σ : Listening n} {i : Fin n} (err : GoError) :
      (σ.tcp i).accept = .accepting →
      ListenStep σ (.accept i) (σ.setTcp i { σ.tcp i with accept := .sending err })
  | reportAccept {σ : Listening n} {i : Fin n} {err : GoError} :
      (σ.tcp i).accept = .sending err → σ.loops →
      ListenStep σ (.accept i)
        ((σ.setTcp i { σ.tcp i with accept := .done, cancelled := true }).receive (.tcp i)
          (some err))
  | closes {σ : Listening n} {i : Fin n} :
      (σ.tcp i).close = .waiting → (σ.startCtx || (σ.tcp i).cancelled) = true →
      ListenStep σ (.close i) (σ.setTcp i { σ.tcp i with close := .sendingNil })
  | closeFails {σ : Listening n} {i : Fin n} (err : GoError) :
      (σ.tcp i).close = .waiting → (σ.startCtx || (σ.tcp i).cancelled) = true →
      ListenStep σ (.close i) (σ.setTcp i { σ.tcp i with close := .sending err })
  | reportCloseError {σ : Listening n} {i : Fin n} {err : GoError} :
      (σ.tcp i).close = .sending err → σ.loops →
      ListenStep σ (.close i)
        ((σ.setTcp i { σ.tcp i with close := .sendingNil }).receive (.tcp i) (some err))
  | reportClose {σ : Listening n} {i : Fin n} :
      (σ.tcp i).close = .sendingNil → σ.loops →
      ListenStep σ (.close i)
        ((σ.setTcp i { σ.tcp i with close := .done }).receive (.tcp i) none)
  /-- The signal to shut down. -/
  | signal {σ : Listening n} : σ.loops → ListenStep σ .start { σ with startCtx := true }
  | returns {σ : Listening n} : ¬ σ.loops → 
      ListenStep σ .start { σ with returned := true, startCtx := true }

variable {tests}

/-! ## §4. Every HTTP listener is counted once. -/

def Listening.senders (σ : Listening n) : List (Listener n) :=
  σ.handlerErrors.map Prod.fst

def Listening.reported (σ : Listening n) (l : HttpListener) : Bool :=
  decide ((σ.http l).serve = .reported)

@[simp] theorem senders_setHttp (σ : Listening n) (l : HttpListener) (state : HttpState) :
    (σ.setHttp l state).senders = σ.senders := rfl

@[simp] theorem senders_setTcp (σ : Listening n) (i : Fin n) (state : TcpState) :
    (σ.setTcp i state).senders = σ.senders := rfl

@[simp] theorem senders_receive (σ : Listening n) (sender : Listener n) (err : Option GoError) :
    (σ.receive sender err).senders = σ.senders ++ [sender] := by
  simp [Listening.senders, Listening.receive]

@[simp] theorem reported_setTcp (σ : Listening n) (i : Fin n) (state : TcpState) :
    (σ.setTcp i state).reported = σ.reported := rfl

@[simp] theorem reported_receive (σ : Listening n) (sender : Listener n)
    (err : Option GoError) : (σ.receive sender err).reported = σ.reported := rfl

theorem reported_setHttp (σ : Listening n) (l : HttpListener) (state : HttpState) :
    (σ.setHttp l state).reported =
      Function.update σ.reported l (decide (state.serve = .reported)) := by
  funext l'
  by_cases hl : l' = l
  · subst hl
    simp [Listening.reported, Listening.setHttp]
  · simp [Listening.reported, Listening.setHttp, hl]

/-- Moving a listener without reporting. -/
theorem reported_setHttp_same {σ : Listening n} {l : HttpListener} {state : HttpState}
    (h : decide (state.serve = .reported) = σ.reported l) :
    (σ.setHttp l state).reported = σ.reported := by
  rw [reported_setHttp, h, Function.update_eq_self]

/-- **What a step does to the messages**: nothing, or one message is added, by an HTTP
listener that thereby has reported, or by a TCP proxy. -/
inductive Messages (σ τ : Listening n) : Prop
  | silent : τ.senders = σ.senders → τ.reported = σ.reported → Messages σ τ
  | server (l : HttpListener) : σ.loops → τ.senders = σ.senders ++ [.server l] →
      σ.reported l = false → τ.reported = Function.update σ.reported l true → Messages σ τ
  | tcp (i : Fin n) : σ.loops → τ.senders = σ.senders ++ [.tcp i] →
      τ.reported = σ.reported → Messages σ τ

theorem messages_step {σ τ : Listening n} {p : Party n} (h : ListenStep tests σ p τ) :
    Messages σ τ := by
  cases h with
  | serverEnds err hserver => exact .silent rfl (reported_setHttp_same rfl)
  | serveDone hserve hctx =>
      exact .silent rfl (reported_setHttp_same (by simp [Listening.reported, hserve]))
  | serveFails hstate =>
      exact .silent rfl (reported_setHttp_same (by simp [Listening.reported, hstate]))
  | shutdownReturns err hserve =>
      exact .silent rfl (reported_setHttp_same (by simp [Listening.reported, hserve]))
  | serveReturns hstate =>
      exact .silent rfl (reported_setHttp_same (by simp [Listening.reported, hstate]))
  | @reportServe l err hserve hloops =>
      -- the only step of an HTTP listener that `Start` takes part in
      refine .server l hloops (by simp) (by simp [Listening.reported, hserve]) ?_
      rw [reported_receive, reported_setHttp]
      simp
  | acceptFails err haccept => exact .silent rfl rfl
  | @reportAccept i err haccept hloops => exact .tcp i hloops (by simp) (by simp)
  | closes hclose hctx => exact .silent rfl rfl
  | closeFails err hclose hctx => exact .silent rfl rfl
  | @reportCloseError i err hclose hloops => exact .tcp i hloops (by simp) (by simp)
  | @reportClose i hclose hloops => exact .tcp i hloops (by simp) (by simp)
  | signal hloops => exact .silent rfl rfl
  | returns hloops => exact .silent rfl rfl

theorem handlerCount_step {σ τ : Listening n} {p : Party n} (h : ListenStep tests σ p τ) :
    τ.handlerCount = σ.handlerCount := by
  cases h <;> rfl

theorem returned_step {σ τ : Listening n} {p : Party n} (h : ListenStep tests σ p τ)
    (hτ : τ.returned = true) : σ.returned = true ∨ ¬ σ.loops := by
  cases h with
  | returns hloops => exact Or.inr hloops
  | _ => exact Or.inl hτ

theorem loops_iff (σ : Listening n) : σ.loops ↔ σ.senders.length < σ.handlerCount := by
  simp [Listening.loops, Listening.senders]

/-- What holds throughout: an HTTP listener has sent one message if it has reported and
none before, and `Start` has returned only with its count complete. -/
structure Counting (σ : Listening n) : Prop where
  counted : σ.handlerCount = 4 + n
  sent : ∀ l, σ.senders.count (.server l) = if σ.reported l then 1 else 0
  complete : σ.returned = true → ¬ σ.loops

theorem counting_start (cfg : RoutingConfig) : Counting (startListeners cfg) where
  counted := listenerCount_eq cfg
  sent := by
    intro l
    simp [Listening.senders, Listening.reported, startListeners]
  complete := by
    intro h
    cases h

theorem sent_step {σ τ : Listening n} (h : Messages σ τ)
    (hσ : ∀ l, σ.senders.count (.server l) = if σ.reported l then 1 else 0) (l : HttpListener) :
    τ.senders.count (.server l) = if τ.reported l then 1 else 0 := by
  cases h with
  | silent hsenders hreported => rw [hsenders, hreported, hσ l]
  | server l' hloops hsenders hbefore hreported =>
      rw [hsenders, hreported, List.count_append, hσ l]
      by_cases hl : l = l'
      · subst hl
        simp [hbefore]
      · have hother : (Listener.server l' : Listener n) ≠ .server l := by
          intro heq
          exact hl (Listener.server.inj heq).symm
        simp [hl, hother]
  | tcp i hloops hsenders hreported =>
      rw [hsenders, hreported, List.count_append, hσ l]
      simp

theorem counting_step {σ τ : Listening n} {p : Party n} (hσ : Counting σ)
    (h : ListenStep tests σ p τ) : Counting τ := by
  have hmessages := messages_step h
  refine ⟨(handlerCount_step h).trans hσ.counted, sent_step hmessages hσ.sent, ?_⟩
  intro hτ
  have hended : ¬ σ.loops := (returned_step h hτ).elim hσ.complete id
  -- the count is complete, so `Start` takes no more messages
  cases hmessages with
  | silent hsenders hreported =>
      rw [loops_iff, hsenders, handlerCount_step h, ← loops_iff]
      exact hended
  | server l hloops => exact absurd hloops hended
  | tcp i hloops => exact absurd hloops hended

/-- States `Start` can reach after its listeners were started. -/
def Listening.Reached (tests : ErrorTests) (cfg : RoutingConfig)
    (σ : Listening cfg.tcpProxy.length) : Prop :=
  Reachable (ListenStep tests) (· = startListeners cfg) σ

theorem counting_of_reached {cfg : RoutingConfig} {σ : Listening cfg.tcpProxy.length}
    (h : σ.Reached tests cfg) : Counting σ := by
  refine h.invariant (I := Counting) ?_ ?_
  · intro σ hσ
    rw [hσ]
    exact counting_start cfg
  · intro σ p τ hσ hstep
    exact counting_step hσ hstep

/-! ## §5. Without TCP proxies. -/

/-- The listeners of a configuration without TCP proxies. -/
def httpListeners : List (Listener 0) :=
  [.server .https, .server .http, .server .quic, .server .status]

theorem mem_httpListeners (listener : Listener 0) : listener ∈ httpListeners := by
  cases listener with
  | server l => cases l <;> decide
  | tcp i => exact i.elim0

theorem nodup_senders {σ : Listening 0} (h : Counting σ) : σ.senders.Nodup := by
  rw [List.nodup_iff_count_le_one]
  intro listener
  cases listener with
  | server l =>
      rw [h.sent l]
      split <;> omega
  | tcp i => exact i.elim0

/-- Four different senders are all four listeners. -/
theorem reported_of_returned {σ : Listening n} (hn : n = 0) (h : Counting σ)
    (hreturned : σ.returned = true) (listener : Listener n) : listener ∈ σ.senders := by
  subst hn
  have hcomplete := h.complete hreturned
  rw [loops_iff, h.counted] at hcomplete
  have hsub : σ.senders.Subperm httpListeners :=
    (nodup_senders h).subperm fun sender _ => mem_httpListeners sender
  have hlength : httpListeners.length ≤ σ.senders.length := by
    show 4 ≤ σ.senders.length
    omega
  exact (hsub.perm_of_length_le hlength).mem_iff.2 (mem_httpListeners listener)

/-! ## §6. With a TCP proxy. -/

variable (tests)

/-- A shutdown under way: `k` messages have been counted, none from the status listener,
which still runs. -/
structure Stopping (count : Nat) (k : Nat) (σ : Listening n) : Prop where
  cancelled : σ.startCtx = true
  counted : σ.handlerCount = count
  length : σ.senders.length = k
  status : (σ.http .status).server = .running
  silent : .server .status ∉ σ.senders

theorem Stopping.loops {count k : Nat} {σ : Listening n} (h : Stopping count k σ)
    (hk : k < count) : σ.loops := by
  rw [loops_iff, h.length, h.counted]
  exact hk

/-- Taking a message from another listener. -/
theorem Stopping.receive {count k : Nat} {σ : Listening n} (h : Stopping count k σ)
    {sender : Listener n} (hsender : sender ≠ .server .status) (err : Option GoError) :
    Stopping count (k + 1) (σ.receive sender err) where
  cancelled := rfl
  counted := h.counted
  length := by rw [senders_receive, List.length_append, h.length, List.length_singleton]
  status := h.status
  silent := by
    rw [senders_receive, List.mem_append, List.mem_singleton]
    intro hmem
    exact hmem.elim h.silent fun heq => hsender heq.symm

theorem Stopping.setTcp {count k : Nat} {σ : Listening n} (h : Stopping count k σ) (i : Fin n)
    (state : TcpState) : Stopping count k (σ.setTcp i state) :=
  ⟨h.cancelled, h.counted, h.length, h.status, h.silent⟩

theorem Stopping.setHttp {count k : Nat} {σ : Listening n} (h : Stopping count k σ)
    {l : HttpListener} (hl : l ≠ .status) (state : HttpState) :
    Stopping count k (σ.setHttp l state) := by
  refine ⟨h.cancelled, h.counted, h.length, ?_, h.silent⟩
  show (Function.update σ.http l state .status).server = .running
  rw [Function.update_of_ne hl.symm]
  exact h.status

/-- The listener of a TCP proxy is closed and the nil of its goroutine received. -/
theorem close_run {count k : Nat} {σ : Listening n} (h : Stopping count k σ) (hk : k < count)
    {i : Fin n} (hi : (σ.tcp i).close = .waiting) :
    ∃ ps τ, Run (ListenStep tests) σ ps τ ∧ Stopping count (k + 1) τ ∧ τ.http = σ.http ∧
      ∀ j, (τ.tcp j).accept = (σ.tcp j).accept ∧
        (j ≠ i → (τ.tcp j).close = (σ.tcp j).close) := by
  have hctx : (σ.startCtx || (σ.tcp i).cancelled) = true := by simp [h.cancelled]
  have hclosed := h.setTcp i { σ.tcp i with close := .sendingNil }
  have hstate : ((σ.setTcp i { σ.tcp i with close := .sendingNil }).tcp i).close =
      .sendingNil := by
    simp [Listening.setTcp]
  refine ⟨_, _, .cons (.closes hi hctx) (.single (.reportClose hstate (hclosed.loops hk))),
    (hclosed.setTcp i _).receive (by simp) none, rfl, ?_⟩
  intro j
  by_cases hj : j = i
  · subst hj
    simp [Listening.setTcp, Listening.receive]
  · simp [Listening.setTcp, Listening.receive, hj]

/-- The same for several proxies, one after the other. -/
theorem closes_run {count : Nat} (is : List (Fin n)) (hnodup : is.Nodup) {k : Nat}
    {σ : Listening n} (h : Stopping count k σ) (hk : k + is.length ≤ count)
    (hwait : ∀ i ∈ is, (σ.tcp i).close = .waiting) :
    ∃ ps τ, Run (ListenStep tests) σ ps τ ∧ Stopping count (k + is.length) τ ∧
      τ.http = σ.http ∧ ∀ j, (τ.tcp j).accept = (σ.tcp j).accept := by
  induction is generalizing k σ with
  | nil => exact ⟨[], σ, .nil σ, h, rfl, fun _ => rfl⟩
  | cons i is ih =>
      have hlength : k + 1 + is.length = k + (i :: is).length := by
        rw [List.length_cons]
        omega
      have hi := List.nodup_cons.1 hnodup
      obtain ⟨ps, τ, hrun, hτ, hhttp, htcp⟩ :=
        close_run tests h (by omega) (hwait i List.mem_cons_self)
      -- the other proxies of the list still wait
      have hrest : ∀ j ∈ is, (τ.tcp j).close = .waiting := by
        intro j hj
        have hne : j ≠ i := fun heq => hi.1 (heq ▸ hj)
        rw [(htcp j).2 hne]
        exact hwait j (List.mem_cons_of_mem _ hj)
      obtain ⟨qs, υ, hrun', hυ, hhttp', htcp'⟩ := ih hi.2 hτ (by omega) hrest
      rw [hlength] at hυ
      exact ⟨ps ++ qs, υ, hrun.append hrun', hυ, hhttp'.trans hhttp,
        fun j => (htcp' j).trans (htcp j).1⟩

/-- The accept loop of a closed proxy ends with an error, a second message. -/
theorem accept_run {count k : Nat} {σ : Listening n} (h : Stopping count k σ) (hk : k < count)
    {i : Fin n} (hi : (σ.tcp i).accept = .accepting) :
    ∃ ps τ, Run (ListenStep tests) σ ps τ ∧ Stopping count (k + 1) τ ∧ τ.http = σ.http := by
  have hfailed := h.setTcp i
    { σ.tcp i with accept := .sending (lit "use of closed network connection") }
  have hstate : ((σ.setTcp i { σ.tcp i with
      accept := .sending (lit "use of closed network connection") }).tcp i).accept =
      .sending (lit "use of closed network connection") := by
    simp [Listening.setTcp]
  exact ⟨_, _, .cons (.acceptFails _ hi) (.single (.reportAccept hstate (hfailed.loops hk))),
    (hfailed.setTcp i _).receive (by simp) _, rfl⟩

@[simp] theorem http_setHttp (σ : Listening n) (l : HttpListener) (state : HttpState) :
    (σ.setHttp l state).http l = state := by
  simp [Listening.setHttp]

@[simp] theorem setHttp_setHttp (σ : Listening n) (l : HttpListener) (a b : HttpState) :
    (σ.setHttp l a).setHttp l b = σ.setHttp l b := by
  simp [Listening.setHttp]

/-- A cancelled HTTP listener shuts its server down and comes to send. -/
theorem shutdown_run {σ : Listening n} {l : HttpListener} (hctx : σ.startCtx = true)
    (hstate : σ.http l = ⟨.running, .select⟩) :
    ∃ ps err, Run (ListenStep tests) σ ps (σ.setHttp l ⟨.gone, .sending err⟩) := by
  have h₁ : ListenStep tests σ (.serve l) (σ.setHttp l ⟨.running, .shutdown⟩) := by
    have hs : ListenStep tests σ (.serve l) _ := .serveDone (by rw [hstate]) hctx
    rw [hstate] at hs
    exact hs
  have h₂ : ListenStep tests (σ.setHttp l ⟨.running, .shutdown⟩) (.serve l)
      (σ.setHttp l ⟨.running, .waitServe none⟩) := by
    have hs : ListenStep tests (σ.setHttp l ⟨.running, .shutdown⟩) (.serve l) _ :=
      .shutdownReturns none (by simp)
    simpa using hs
  have h₃ : ListenStep tests (σ.setHttp l ⟨.running, .waitServe none⟩) (.server l)
      (σ.setHttp l ⟨.ended (some (lit "http: Server closed")), .waitServe none⟩) := by
    have hs : ListenStep tests (σ.setHttp l ⟨.running, .waitServe none⟩) (.server l) _ :=
      .serverEnds (some (lit "http: Server closed")) (by simp)
    simpa using hs
  have h₄ : ListenStep tests
      (σ.setHttp l ⟨.ended (some (lit "http: Server closed")), .waitServe none⟩) (.serve l) _ :=
    .serveReturns (http_setHttp σ l _)
  rw [setHttp_setHttp] at h₄
  exact ⟨_, _, .cons h₁ (.cons h₂ (.cons h₃ (.single h₄)))⟩

/-- An HTTP listener other than the status one shuts down and reports. -/
theorem serve_run {count k : Nat} {σ : Listening n} (h : Stopping count k σ) (hk : k < count)
    {l : HttpListener} (hl : l ≠ .status) (hstate : σ.http l = ⟨.running, .select⟩) :
    ∃ ps τ, Run (ListenStep tests) σ ps τ ∧ Stopping count (k + 1) τ ∧
      ∀ l', l' ≠ l → τ.http l' = σ.http l' := by
  obtain ⟨ps, err, hrun⟩ := shutdown_run tests h.cancelled hstate
  have hsending := h.setHttp hl ⟨.gone, .sending err⟩
  have hreport : ListenStep tests (σ.setHttp l ⟨.gone, .sending err⟩) (.serve l) _ :=
    .reportServe (by rw [http_setHttp]) (hsending.loops hk)
  refine ⟨_, _, hrun.append (.single hreport),
    (hsending.setHttp hl _).receive (by simpa using hl) _, ?_⟩
  intro l' hl'
  simp [Listening.setHttp, Listening.receive, hl']

/-- **`Start` returns early**: the second message of one TCP proxy takes the place of the
status listener's. -/
theorem returned_early {cfg : RoutingConfig} (hcfg : 0 < cfg.tcpProxy.length) :
    ∃ σ : Listening cfg.tcpProxy.length, σ.Reached tests cfg ∧ σ.returned = true ∧
      (σ.http .status).server = .running ∧ .server .status ∉ σ.senders := by
  obtain ⟨count, hcount⟩ : ∃ count, count = listenerCount cfg := ⟨_, rfl⟩
  have hn : count = 4 + cfg.tcpProxy.length := hcount.trans (listenerCount_eq cfg)
  have hstart : (startListeners cfg).loops := by
    rw [loops_iff]
    show 0 < listenerCount cfg
    omega
  have hsignal : ListenStep tests (startListeners cfg) .start
      { startListeners cfg with startCtx := true } := .signal hstart
  have hstopping : Stopping count 0 { startListeners cfg with startCtx := true } :=
    ⟨rfl, hcount.symm, rfl, rfl, List.not_mem_nil⟩
  -- every proxy closes its listener
  obtain ⟨ps₁, σ₁, hrun₁, h₁, hhttp₁, htcp₁⟩ := closes_run tests
    (List.finRange cfg.tcpProxy.length) (List.nodup_finRange _) hstopping
    (by rw [List.length_finRange]; omega) (fun _ _ => rfl)
  rw [List.length_finRange] at h₁
  -- the accept loop of the first one sends its error
  obtain ⟨ps₂, σ₂, hrun₂, h₂, hhttp₂⟩ := accept_run tests h₁ (by omega) (htcp₁ ⟨0, hcfg⟩)
  have hserve₂ : ∀ l, σ₂.http l = ⟨.running, .select⟩ := by
    intro l
    rw [hhttp₂, hhttp₁]
    rfl
  -- and three HTTP listeners complete the count
  obtain ⟨ps₃, σ₃, hrun₃, h₃, hhttp₃⟩ := serve_run tests (l := .https) h₂ (by omega)
    (by decide) (hserve₂ _)
  obtain ⟨ps₄, σ₄, hrun₄, h₄, hhttp₄⟩ := serve_run tests (l := .http) h₃ (by omega)
    (by decide) ((hhttp₃ _ (by decide)).trans (hserve₂ _))
  obtain ⟨ps₅, σ₅, hrun₅, h₅, -⟩ := serve_run tests (l := .quic) h₄ (by omega)
    (by decide) ((hhttp₄ _ (by decide)).trans ((hhttp₃ _ (by decide)).trans (hserve₂ _)))
  have hended : ¬ σ₅.loops := by
    rw [loops_iff, h₅.length, h₅.counted]
    omega
  exact ⟨{ σ₅ with returned := true, startCtx := true }, ⟨_, _, rfl, .cons hsignal
    (hrun₁.append (hrun₂.append (hrun₃.append (hrun₄.append (hrun₅.append
      (.single (.returns hended)))))))⟩, rfl, h₅.status, h₅.silent⟩

end

/-! ## §7. Does `Start` wait for its listeners? -/

/-- `Start` returns only after every listener it started sent a message. -/
def WaitsForAll (tests : ErrorTests) (cfg : RoutingConfig) : Prop :=
  ∀ σ : Listening cfg.tcpProxy.length, σ.Reached tests cfg → σ.returned = true →
    ∀ listener, listener ∈ σ.senders

theorem not_waitsForAll (tests : ErrorTests) {cfg : RoutingConfig}
    (hcfg : 0 < cfg.tcpProxy.length) : ¬ WaitsForAll tests cfg := by
  intro h
  obtain ⟨σ, hσ, hreturned, -, hsilent⟩ := returned_early tests hcfg
  exact hsilent (h σ hσ hreturned (.server .status))

/-- **Counting messages is counting listeners without TCP proxies only.** -/
theorem waits_for_all_iff (tests : ErrorTests) (cfg : RoutingConfig) :
    WaitsForAll tests cfg ↔ cfg.tcpProxy = [] := by
  constructor
  · intro h
    by_contra hcfg
    exact not_waitsForAll tests (List.length_pos_iff.2 hcfg) h
  · intro hcfg σ hσ hreturned
    have hn : cfg.tcpProxy.length = 0 := by rw [hcfg, List.length_nil]
    exact reported_of_returned hn (counting_of_reached hσ) hreturned

/-- A configuration with one TCP proxy. -/
def tcpConfig : RoutingConfig where
  hosts := ∅
  tlsCertificates := ∅
  defaultTlsCertificate := none
  tcpProxy := [⟨false, 2222, ⟨.v4 0x0a000001, 22⟩⟩]
  requestMiddlewares := []
  trustedProxies := []
  errorPage := none

/-- The closed-server error of `net/http`, by its text. -/
def httpClosedTests : ErrorTests where
  isHttpServerClosed := fun err => err == lit "http: Server closed"
  asQuicServerClosed := fun _ => false

/-- Five messages are complete while the status server still runs: two are from the same
TCP proxy. -/
theorem status_running_at_return :
    ¬ WaitsForAll httpClosedTests tcpConfig ∧
    ∃ σ : Listening tcpConfig.tcpProxy.length, σ.Reached httpClosedTests tcpConfig ∧
      σ.returned = true ∧ (σ.http .status).server = .running ∧ .server .status ∉ σ.senders :=
  ⟨not_waitsForAll httpClosedTests Nat.one_pos, returned_early httpClosedTests Nat.one_pos⟩

end SIngress.Proxy
