/-
  SIngress.Modules.WebSocketRelay — A WEBSOCKET CONNECTION AFTER ITS UPGRADE
  (`handleWebSocket` and `proxySocket` of `modules/websocket/websocket.go`).

  Two goroutines run `proxySocket`, one in each direction.  `ReadMessage` returns
  messages and, while it reads, calls the handlers of control frames, which
  write to the OTHER connection: so pings, pongs and the close frame travel with
  the messages, in the goroutine that reads them.  The first goroutine to end
  cancels; `handleWebSocket` then closes both connections and waits for both.

  The websocket library is a parameter (`WsLibrary`): which messages and handler
  calls the input of a peer leads to.  Two things are asked of it: more input
  only adds to them, and none follows a close frame.  What the library writes by
  itself, to a peer that breaks the protocol, is no part of what is passed on.
  Everything here starts from a successful upgrade: when `Upgrade` fails,
  `handleWebSocket` returns at once and leaves the dialled connection open.

    • `relayed_in_order`     — whatever fails and whenever: what is written to each
                               side is a prefix of what was read from the other,
    • `closed_after_close`   — without a fault or a shutdown, a connection is
                               closed only after one side's close frame, and all
                               it sent before, was passed on,
    • `handleWebSocket_ends` — the call returns only with both goroutines ended
                               and both connections closed; once they are closed
                               it does return, within a bounded number of steps.
-/
import SIngress.Proxy.Relay

namespace SIngress.Modules.WebSocket

open SIngress.Base SIngress.Lib SIngress.Proxy

/-! ## §1. The websocket library. -/

/-- What `ReadMessage` does with what it reads: it returns a message, or calls the handler of a
control frame and goes on. -/
inductive ReadEvent where
  | message (msgType : Nat) (msg : GoString)
  | ping (appData : GoString)
  | pong (appData : GoString)
  | close (code : Int) (text : GoString)
  deriving DecidableEq

/-- `websocket.Conn`, as far as the proxy depends on it; `Input` is what a peer sends. -/
structure WsLibrary (Input : Type) where
  /-- What the calls of `ReadMessage` do with the input, in order, if no read fails. -/
  events : List Input → List ReadEvent
  formatCloseMessage : Int → GoString → GoString
  /-- More input only adds events. -/
  events_mono : ∀ arrived more, events arrived <+: events (arrived ++ more)
  /-- Nothing is read behind a close frame. -/
  close_last : ∀ arrived before code text after,
    events arrived = before ++ .close code text :: after → after = []

/-- The arguments of a `WriteMessage`. -/
structure Written where
  messageType : Nat
  data : GoString
  deriving DecidableEq

def closeMessage : Nat := 8
def pingMessage : Nat := 9
def pongMessage : Nat := 10

section

variable {Input : Type} (lib : WsLibrary Input)

/-- What is written to the other connection: by `proxySocket`, or by the handlers that
`handleWebSocket` sets. -/
def passedOn : ReadEvent → Written
  | .message msgType msg => ⟨msgType, msg⟩
  | .ping appData => ⟨pingMessage, appData⟩
  | .pong appData => ⟨pongMessage, appData⟩
  | .close code text => ⟨closeMessage, lib.formatCloseMessage code text⟩

/-! ## §2. The state of a connection. -/

/-- Where a goroutine is. -/
inductive SocketPc where
  /-- In `ReadMessage`. -/
  | reading
  /-- In a `WriteMessage` to the other connection, of `proxySocket` or of a handler. -/
  | writing (e : ReadEvent)
  /-- `proxySocket` returned. -/
  | cancelling
  | done
  deriving DecidableEq

/-- Why `proxySocket` returned. -/
inductive Ending where
  /-- `ReadMessage` returned the `CloseError` of a close frame that was passed on. -/
  | closeFrame
  /-- A connection was closed under it. -/
  | closed
  /-- Any other failed read or write. -/
  | failed
  deriving DecidableEq

/-- One direction: the input of its sender and the goroutine that reads it. -/
structure SocketCopy (Input : Type) where
  /-- What the sender has not sent yet. -/
  unsent : List Input
  arrived : List Input
  /-- What `ReadMessage` returned and called so far. -/
  events : List ReadEvent
  pc : SocketPc
  /-- What was written to the connection of the receiver. -/
  delivered : List Written
  ending : Option Ending

/-- Where `handleWebSocket` is. -/
inductive MainPc where
  | select
  | closeUpstream
  | closeDownstream
  | wait
  | returned
  deriving DecidableEq

/-- An upgraded connection; `copy s` reads from side `s` and writes to the other. -/
structure Socket (Input : Type) where
  copy : Side → SocketCopy Input
  isOpen : Side → Bool
  /-- `connCtx` is cancelled. -/
  cancelled : Bool
  /-- `ServerCtx` is done. -/
  serverDone : Bool
  main : MainPc

/-- Both goroutines start, and nothing has arrived. -/
def Socket.upgraded (stream : Side → List Input) : Socket Input where
  copy := fun s => ⟨stream s, [], [], .reading, [], none⟩
  isOpen := fun _ => true
  cancelled := false
  serverDone := false
  main := .select

def Socket.setCopy (σ : Socket Input) (s : Side) (copy : SocketCopy Input) : Socket Input :=
  { σ with copy := Function.update σ.copy s copy }

@[simp] theorem Socket.setCopy_same (σ : Socket Input) (s : Side) (copy : SocketCopy Input) :
    (σ.setCopy s copy).copy s = copy := by
  simp [Socket.setCopy]

@[simp] theorem Socket.setCopy_other (σ : Socket Input) {s t : Side} (h : t ≠ s)
    (copy : SocketCopy Input) : (σ.setCopy s copy).copy t = σ.copy t := by
  simp [Socket.setCopy, h]

/-- `Close` of one connection. -/
def Socket.close (σ : Socket Input) (s : Side) : Socket Input :=
  { σ with isOpen := Function.update σ.isOpen s false }

/-- `proxySocket` returns. -/
def SocketCopy.returns (c : SocketCopy Input) (ending : Ending) : SocketCopy Input :=
  { c with pc := .cancelling, ending := some ending }

/-! ## §3. The steps. -/

inductive SocketAction where
  | sender (s : Side)
  | copy (s : Side)
  /-- A read or a write fails. -/
  | fault (s : Side)
  | main
  | shutdown
  deriving DecidableEq

inductive SocketStep : Socket Input → SocketAction → Socket Input → Prop
  /-- Input of the sender arrives. -/
  | arrives {σ : Socket Input} {s : Side} {i : Input} {rest : List Input} :
      (σ.copy s).unsent = i :: rest → σ.isOpen s = true →
      SocketStep σ (.sender s) (σ.setCopy s
        { σ.copy s with unsent := rest, arrived := (σ.copy s).arrived ++ [i] })
  | reads {σ : Socket Input} {s : Side} {e : ReadEvent} :
      -- also after `Close`, out of the buffer of the connection
      (σ.copy s).pc = .reading →
      (σ.copy s).events ++ [e] <+: lib.events (σ.copy s).arrived →
      SocketStep σ (.copy s) (σ.setCopy s
        { σ.copy s with events := (σ.copy s).events ++ [e], pc := .writing e })
  /-- `ReadMessage` returns the `CloseError` of the close frame whose handler it called. -/
  | readsClose {σ : Socket Input} {s : Side} {code : Int} {text : GoString} :
      (σ.copy s).pc = .reading → (σ.copy s).events.getLast? = some (.close code text) →
      SocketStep σ (.copy s) (σ.setCopy s ((σ.copy s).returns .closeFrame))
  /-- Any other error, of the connection or of the protocol. -/
  | readFails {σ : Socket Input} {s : Side} : (σ.copy s).pc = .reading →
      SocketStep σ (.fault s) (σ.setCopy s ((σ.copy s).returns .failed))
  /-- `net.ErrClosed`. -/
  | readClosed {σ : Socket Input} {s : Side} : (σ.copy s).pc = .reading → σ.isOpen s = false →
      SocketStep σ (.copy s) (σ.setCopy s ((σ.copy s).returns .closed))
  | writes {σ : Socket Input} {s : Side} {e : ReadEvent} :
      (σ.copy s).pc = .writing e → σ.isOpen s.other = true →
      SocketStep σ (.copy s) (σ.setCopy s
        { σ.copy s with delivered := (σ.copy s).delivered ++ [passedOn lib e], pc := .reading })
  | writeFails {σ : Socket Input} {s : Side} {e : ReadEvent} : (σ.copy s).pc = .writing e →
      SocketStep σ (.fault s) (σ.setCopy s ((σ.copy s).returns .failed))
  | writeClosed {σ : Socket Input} {s : Side} {e : ReadEvent} :
      (σ.copy s).pc = .writing e → σ.isOpen s.other = false →
      SocketStep σ (.copy s) (σ.setCopy s ((σ.copy s).returns .closed))
  | cancels {σ : Socket Input} {s : Side} : (σ.copy s).pc = .cancelling →
      SocketStep σ (.copy s)
        { σ.setCopy s { σ.copy s with pc := .done } with cancelled := true }
  | shutdown {σ : Socket Input} : σ.serverDone = false →
      SocketStep σ .shutdown { σ with serverDone := true }
  | wakes {σ : Socket Input} : σ.main = .select → σ.cancelled = true ∨ σ.serverDone = true →
      SocketStep σ .main { σ with main := .closeUpstream }
  | closesUpstream {σ : Socket Input} : σ.main = .closeUpstream →
      SocketStep σ .main { σ.close .upstream with main := .closeDownstream }
  | closesDownstream {σ : Socket Input} : σ.main = .closeDownstream →
      SocketStep σ .main { σ.close .downstream with main := .wait }
  /-- `wg.Wait` and the return. -/
  | returns {σ : Socket Input} : σ.main = .wait → (∀ s, (σ.copy s).pc = .done) →
      SocketStep σ .main { σ with main := .returned }

end

section

variable {Input : Type} {lib : WsLibrary Input}

/-! ## §4. Each side gets a prefix. -/

/-- What was read and is not written yet. -/
def SocketPc.outstanding : SocketPc → List ReadEvent
  | .writing e => [e]
  | _ => []

/-- A direction that keeps to the input of its sender. -/
structure SocketCopy.Faithful (lib : WsLibrary Input) (stream : List Input) (c : SocketCopy Input) :
    Prop where
  stream : c.arrived ++ c.unsent = stream
  read : c.events <+: lib.events c.arrived
  prefixed : c.delivered <+: c.events.map (passedOn lib)
  /-- While the goroutine runs, nothing that was read is missing. -/
  flowing : c.ending = none →
    c.delivered ++ c.pc.outstanding.map (passedOn lib) = c.events.map (passedOn lib)
  /-- It runs until it has a reason to return. -/
  running : c.pc = .reading ∨ (∃ e, c.pc = .writing e) → c.ending = none
  /-- A close frame is passed on before the goroutine returns for it. -/
  closing : c.ending = some .closeFrame → c.delivered = c.events.map (passedOn lib)
    ∧ ∃ code text, c.events.getLast? = some (.close code text)

section

variable {stream : List Input} {c : SocketCopy Input}

theorem faithful_returns (h : c.Faithful lib stream) {ending : Ending}
    (hclosing : ending = .closeFrame → c.delivered = c.events.map (passedOn lib)
      ∧ ∃ code text, c.events.getLast? = some (.close code text)) :
    (c.returns ending).Faithful lib stream where
  stream := h.stream
  read := h.read
  prefixed := h.prefixed
  flowing := fun hending => by cases hending
  running := fun hpc => by
    obtain hpc | ⟨e, hpc⟩ := hpc
    · cases hpc
    · cases hpc
  closing := fun hending => hclosing (Option.some.inj hending)

/-- What was read is in the input, whatever else comes. -/
theorem SocketCopy.Faithful.in_stream (h : c.Faithful lib stream) :
    c.events <+: lib.events stream := by
  rw [← h.stream]
  exact h.read.trans (lib.events_mono _ _)

/-- And a close frame is the last of it. -/
theorem SocketCopy.Faithful.whole (h : c.Faithful lib stream) {code : Int} {text : GoString}
    (hlast : c.events.getLast? = some (.close code text)) : c.events = lib.events stream := by
  obtain ⟨after, hafter⟩ := h.in_stream
  obtain ⟨before, hbefore⟩ := List.getLast?_eq_some_iff.mp hlast
  have hnil : after = [] := by
    refine lib.close_last stream before code text after ?_
    rw [← hafter, hbefore, List.append_assoc]
    rfl
  rw [← hafter, hnil, List.append_nil]

/-- A goroutine in `ReadMessage` has written all it read. -/
theorem SocketCopy.Faithful.caught_up (h : c.Faithful lib stream) (hpc : c.pc = .reading) :
    c.delivered = c.events.map (passedOn lib) := by
  have hflow := h.flowing (h.running (Or.inl hpc))
  rw [hpc] at hflow
  exact (List.append_nil _).symm.trans hflow

/-- One in a write has written all but what it writes. -/
theorem SocketCopy.Faithful.but_one (h : c.Faithful lib stream) {e : ReadEvent}
    (hpc : c.pc = .writing e) :
    c.delivered ++ [passedOn lib e] = c.events.map (passedOn lib) := by
  have hflow := h.flowing (h.running (Or.inr ⟨e, hpc⟩))
  rw [hpc] at hflow
  exact hflow

theorem faithful_arrives (h : c.Faithful lib stream) {i : Input} {rest : List Input}
    (hunsent : c.unsent = i :: rest) :
    { c with unsent := rest, arrived := c.arrived ++ [i] :
      SocketCopy Input }.Faithful lib stream where
  stream := by
    show (c.arrived ++ [i]) ++ rest = stream
    rw [List.append_assoc, List.singleton_append, ← hunsent]
    exact h.stream
  read := h.read.trans (lib.events_mono _ _)
  prefixed := h.prefixed
  flowing := h.flowing
  running := h.running
  closing := h.closing

theorem faithful_reads (h : c.Faithful lib stream) {e : ReadEvent} (hpc : c.pc = .reading)
    (hread : c.events ++ [e] <+: lib.events c.arrived) :
    { c with events := c.events ++ [e], pc := .writing e :
      SocketCopy Input }.Faithful lib stream where
  stream := h.stream
  read := hread
  prefixed := by
    show c.delivered <+: (c.events ++ [e]).map (passedOn lib)
    rw [List.map_append, h.caught_up hpc]
    exact List.prefix_append _ _
  flowing := fun _ => by
    show c.delivered ++ [passedOn lib e] = (c.events ++ [e]).map (passedOn lib)
    rw [List.map_append, h.caught_up hpc]
    rfl
  running := fun _ => h.running (Or.inl hpc)
  closing := fun hending => by
    have hnone : c.ending = none := h.running (Or.inl hpc)
    cases hnone.symm.trans hending

theorem faithful_writes (h : c.Faithful lib stream) {e : ReadEvent} (hpc : c.pc = .writing e) :
    { c with delivered := c.delivered ++ [passedOn lib e], pc := .reading :
      SocketCopy Input }.Faithful lib stream where
  stream := h.stream
  read := h.read
  prefixed := by
    show c.delivered ++ [passedOn lib e] <+: c.events.map (passedOn lib)
    rw [h.but_one hpc]
  flowing := fun _ => by
    show c.delivered ++ [passedOn lib e] ++ [] = c.events.map (passedOn lib)
    rw [List.append_nil, h.but_one hpc]
  running := fun _ => h.running (Or.inr ⟨e, hpc⟩)
  closing := fun hending => by
    have hnone : c.ending = none := h.running (Or.inr ⟨e, hpc⟩)
    cases hnone.symm.trans hending

theorem faithful_cancels (h : c.Faithful lib stream) (hpc : c.pc = .cancelling) :
    { c with pc := .done : SocketCopy Input }.Faithful lib stream where
  stream := h.stream
  read := h.read
  prefixed := h.prefixed
  flowing := fun hending => by
    have hflow := h.flowing hending
    rw [hpc] at hflow
    exact hflow
  running := fun hrunning => by
    obtain hrunning | ⟨e, hrunning⟩ := hrunning
    · cases hrunning
    · cases hrunning
  closing := h.closing

end

section

variable {stream : Side → List Input} {σ τ : Socket Input} {a : SocketAction}

/-- Both directions keep to their streams. -/
def Socket.Faithful (lib : WsLibrary Input) (stream : Side → List Input) (σ : Socket Input) :
    Prop :=
  ∀ s, (σ.copy s).Faithful lib (stream s)

theorem faithful_setCopy (h : σ.Faithful lib stream) {s : Side} {copy : SocketCopy Input}
    (hs : copy.Faithful lib (stream s)) : (σ.setCopy s copy).Faithful lib stream :=
  (Function.forall_update_iff σ.copy fun t c => c.Faithful lib (stream t)).mpr
    ⟨hs, fun t _ => h t⟩

theorem faithful_step (hstep : SocketStep lib σ a τ) (h : σ.Faithful lib stream) :
    τ.Faithful lib stream := by
  have hreturns : ∀ s ending, ending ≠ .closeFrame →
      (σ.setCopy s ((σ.copy s).returns ending)).Faithful lib stream := fun s ending hne =>
    faithful_setCopy h (faithful_returns (h s) fun heq => absurd heq hne)
  cases hstep with
  | @arrives s i rest hunsent _ => exact faithful_setCopy h (faithful_arrives (h s) hunsent)
  | @reads s e hpc hread => exact faithful_setCopy h (faithful_reads (h s) hpc hread)
  | @readsClose s code text hpc hlast =>
      exact faithful_setCopy h (faithful_returns (h s) fun _ =>
        ⟨(h s).caught_up hpc, code, text, hlast⟩)
  | @writes s e hpc _ => exact faithful_setCopy h (faithful_writes (h s) hpc)
  | @cancels s hpc => exact faithful_setCopy h (faithful_cancels (h s) hpc)
  | @readFails s _ => exact hreturns s .failed (by decide)
  | @readClosed s _ _ => exact hreturns s .closed (by decide)
  | @writeFails s _ _ => exact hreturns s .failed (by decide)
  | @writeClosed s _ _ _ => exact hreturns s .closed (by decide)
  | shutdown _ => exact h
  | wakes _ _ => exact h
  | closesUpstream _ => exact h
  | closesDownstream _ => exact h
  | returns _ _ => exact h

theorem faithful_upgraded : (Socket.upgraded stream).Faithful lib stream := by
  intro s
  exact ⟨rfl, List.nil_prefix, List.nil_prefix, fun _ => rfl, fun _ => rfl, fun h => by cases h⟩

/-- **In order, each once.**  Whatever the peers send, whatever read or write fails, and whenever
the server shuts down: what is written to either side is a prefix of what `ReadMessage` and its
handlers get out of the input of the other one. -/
theorem relayed_in_order {as : List SocketAction}
    (h : Run (SocketStep lib) (Socket.upgraded stream) as σ) (s : Side) :
    (σ.copy s).delivered <+: (lib.events (stream s)).map (passedOn lib) := by
  have hs := h.invariant (I := Socket.Faithful lib stream)
    (fun _ _ _ hσ hstep => faithful_step hstep hσ) faithful_upgraded s
  exact hs.prefixed.trans (hs.in_stream.map _)

/-! ## §5. Who closes first. -/

/-- No read or write fails, and the server goes on. -/
def Faultless (_ : Socket Input) : SocketAction → Prop
  | .fault _ => False
  | .shutdown => False
  | _ => True

/-- Both goroutines run, and nobody has cancelled or closed anything. -/
structure Socket.Open (σ : Socket Input) : Prop where
  running : ∀ s, (σ.copy s).ending = none ∧ (σ.copy s).pc ≠ .cancelling
  isOpen : ∀ s, σ.isOpen s = true
  cancelled : σ.cancelled = false
  serverDone : σ.serverDone = false
  main : σ.main = .select

theorem open_setCopy (h : σ.Open) {s : Side} {copy : SocketCopy Input}
    (hending : copy.ending = none) (hpc : copy.pc ≠ .cancelling) : (σ.setCopy s copy).Open where
  running := (Function.forall_update_iff σ.copy
    fun _ c => c.ending = none ∧ c.pc ≠ .cancelling).mpr ⟨⟨hending, hpc⟩, fun t _ => h.running t⟩
  isOpen := h.isOpen
  cancelled := h.cancelled
  serverDone := h.serverDone
  main := h.main

/-- `proxySocket` returned for this reason. -/
def SocketCopy.Ended (c : SocketCopy Input) (ending : Ending) : Prop :=
  c.ending = some ending ∧ (c.pc = .cancelling ∨ c.pc = .done)

theorem SocketCopy.Ended.not_reading {c : SocketCopy Input} {ending : Ending} (h : c.Ended ending) :
    c.pc ≠ .reading := by
  rcases h.2 with hpc | hpc
  · rw [hpc]
    exact SocketPc.noConfusion
  · rw [hpc]
    exact SocketPc.noConfusion

theorem SocketCopy.Ended.not_writing {c : SocketCopy Input} {ending : Ending} (h : c.Ended ending)
    (e : ReadEvent) : c.pc ≠ .writing e := by
  rcases h.2 with hpc | hpc
  · rw [hpc]
    exact SocketPc.noConfusion
  · rw [hpc]
    exact SocketPc.noConfusion

theorem ended_setCopy {s t : Side} {copy : SocketCopy Input} {ending : Ending}
    (h : (σ.copy s).Ended ending) (hcopy : (σ.copy t).Ended ending → copy.Ended ending) :
    ((σ.setCopy t copy).copy s).Ended ending := by
  by_cases heq : s = t
  · subst heq
    rw [Socket.setCopy_same]
    exact hcopy h
  · rw [Socket.setCopy_other σ heq]
    exact h

/-- **A goroutine that ended does nothing more.** -/
theorem ended_step (hstep : SocketStep lib σ a τ) {s : Side} {ending : Ending}
    (h : (σ.copy s).Ended ending) : (τ.copy s).Ended ending := by
  cases hstep with
  | arrives _ _ => exact ended_setCopy h id
  | reads hpc _ => exact ended_setCopy h fun ht => absurd hpc ht.not_reading
  | readsClose hpc _ => exact ended_setCopy h fun ht => absurd hpc ht.not_reading
  | readFails hpc => exact ended_setCopy h fun ht => absurd hpc ht.not_reading
  | readClosed hpc _ => exact ended_setCopy h fun ht => absurd hpc ht.not_reading
  | writes hpc _ => exact ended_setCopy h fun ht => absurd hpc (ht.not_writing _)
  | writeFails hpc => exact ended_setCopy h fun ht => absurd hpc (ht.not_writing _)
  | writeClosed hpc _ => exact ended_setCopy h fun ht => absurd hpc (ht.not_writing _)
  | cancels _ => exact ended_setCopy h fun ht => ⟨ht.1, Or.inr rfl⟩
  | shutdown _ => exact h
  | wakes _ _ => exact h
  | closesUpstream _ => exact h
  | closesDownstream _ => exact h
  | returns _ _ => exact h

/-- The connection is open, or a close frame was passed on. -/
def Socket.OpenOrClosed (σ : Socket Input) : Prop :=
  σ.Open ∨ ∃ s, (σ.copy s).Ended .closeFrame

/-- Of an open connection, a faultless step can only pass on a close frame, or leave it open. -/
theorem open_step (hstep : SocketStep lib σ a τ) (hfaultless : Faultless σ a) (h : σ.Open) :
    τ.OpenOrClosed := by
  cases hstep with
  | @arrives s i rest _ _ => exact Or.inl (open_setCopy h (h.running s).1 (h.running s).2)
  | @reads s e _ _ => exact Or.inl (open_setCopy h (h.running s).1 SocketPc.noConfusion)
  | @readsClose s code text _ _ =>
      refine Or.inr ⟨s, ?_⟩
      rw [Socket.setCopy_same]
      exact ⟨rfl, Or.inl rfl⟩
  | @writes s e _ _ => exact Or.inl (open_setCopy h (h.running s).1 SocketPc.noConfusion)
  -- nothing was closed, cancelled or shut down
  | @readClosed s _ hclosed =>
      rw [h.isOpen s] at hclosed
      cases hclosed
  | @writeClosed s _ _ hclosed =>
      rw [h.isOpen s.other] at hclosed
      cases hclosed
  | @cancels s hpc => exact absurd hpc (h.running s).2
  | wakes _ hdone =>
      rw [h.cancelled, h.serverDone] at hdone
      rcases hdone with hdone | hdone
      · cases hdone
      · cases hdone
  | readFails _ => exact hfaultless.elim
  | writeFails _ => exact hfaultless.elim
  | shutdown _ => exact hfaultless.elim
  | closesUpstream hmain =>
      rw [h.main] at hmain
      cases hmain
  | closesDownstream hmain =>
      rw [h.main] at hmain
      cases hmain
  | returns hmain _ =>
      rw [h.main] at hmain
      cases hmain

/-- **A connection is closed after a close frame.**  Without a fault or a shutdown, the proxy
closes a connection only after one of the peers sent a close frame, and that frame, with its
code and text, and every message before it was written to the other peer. -/
theorem closed_after_close {as : List SocketAction}
    (h : Run (Guarded (SocketStep lib) Faultless) (Socket.upgraded stream) as σ) {t : Side}
    (hclosed : σ.isOpen t = false) :
    ∃ s, (σ.copy s).delivered = (lib.events (stream s)).map (passedOn lib)
      ∧ ∃ code text, (lib.events (stream s)).getLast? = some (.close code text) := by
  have hinv : σ.Faithful lib stream ∧ σ.OpenOrClosed := by
    refine h.invariant (I := fun σ => σ.Faithful lib stream ∧ σ.OpenOrClosed)
      (fun σ a τ hσ hstep => ⟨faithful_step hstep.1 hσ.1, ?_⟩) ⟨faithful_upgraded, Or.inl ?_⟩
    · rcases hσ.2 with hopen | ⟨s, hs⟩
      · exact open_step hstep.1 hstep.2 hopen
      · exact Or.inr ⟨s, ended_step hstep.1 hs⟩
    · exact ⟨fun _ => ⟨rfl, SocketPc.noConfusion⟩, fun _ => rfl, rfl, rfl, rfl⟩
  rcases hinv.2 with hopen | ⟨s, hs⟩
  · rw [hopen.isOpen t] at hclosed
    cases hclosed
  · obtain ⟨hdelivered, code, text, hlast⟩ := (hinv.1 s).closing hs.1
    rw [(hinv.1 s).whole hlast] at hdelivered hlast
    exact ⟨s, hdelivered, code, text, hlast⟩

/-! ## §6. The call returns. -/

/-- Which connections `handleWebSocket` has closed. -/
def MainPc.hasClosed : MainPc → Side → Bool
  | .select, _ => false
  | .closeUpstream, _ => false
  | .closeDownstream, s => s = .upstream
  | .wait, _ => true
  | .returned, _ => true

/-- Connections are closed by `handleWebSocket` alone, and it returns last. -/
structure Socket.Ordered (σ : Socket Input) : Prop where
  closed : ∀ s, σ.isOpen s = !σ.main.hasClosed s
  returned : σ.main = .returned → ∀ s, (σ.copy s).pc = .done

theorem ordered_setCopy (h : σ.Ordered) {s : Side} {copy : SocketCopy Input}
    (hdone : (σ.copy s).pc = .done → copy.pc = .done) : (σ.setCopy s copy).Ordered where
  closed := h.closed
  returned := fun hreturned => (Function.forall_update_iff σ.copy fun _ c => c.pc = .done).mpr
    ⟨hdone (h.returned hreturned s), fun t _ => h.returned hreturned t⟩

theorem ordered_step (hstep : SocketStep lib σ a τ) (h : σ.Ordered) : τ.Ordered := by
  cases hstep with
  | arrives _ _ => exact ordered_setCopy h id
  | reads hpc _ => exact ordered_setCopy h fun hdone => by rw [hpc] at hdone; cases hdone
  | readsClose hpc _ => exact ordered_setCopy h fun hdone => by rw [hpc] at hdone; cases hdone
  | readFails hpc => exact ordered_setCopy h fun hdone => by rw [hpc] at hdone; cases hdone
  | readClosed hpc _ => exact ordered_setCopy h fun hdone => by rw [hpc] at hdone; cases hdone
  | writes hpc _ => exact ordered_setCopy h fun hdone => by rw [hpc] at hdone; cases hdone
  | writeFails hpc => exact ordered_setCopy h fun hdone => by rw [hpc] at hdone; cases hdone
  | writeClosed hpc _ => exact ordered_setCopy h fun hdone => by rw [hpc] at hdone; cases hdone
  | @cancels s _ =>
      have hset : (σ.setCopy s { σ.copy s with pc := .done }).Ordered :=
        ordered_setCopy h fun _ => rfl
      exact ⟨hset.closed, hset.returned⟩
  | shutdown _ => exact ⟨h.closed, h.returned⟩
  | wakes hmain _ =>
      refine ⟨fun s => ?_, fun hreturned => by cases hreturned⟩
      rw [show σ.isOpen s = !σ.main.hasClosed s from h.closed s, hmain]
      rfl
  | closesUpstream hmain =>
      refine ⟨fun s => ?_, fun hreturned => by cases hreturned⟩
      have hclosed := h.closed s
      rw [hmain] at hclosed
      cases s with
      | downstream => exact hclosed
      | upstream => rfl
  | closesDownstream hmain =>
      refine ⟨fun s => ?_, fun hreturned => by cases hreturned⟩
      have hclosed := h.closed s
      rw [hmain] at hclosed
      cases s with
      | downstream => rfl
      | upstream => exact hclosed
  | returns hmain hdone =>
      refine ⟨fun s => ?_, fun _ => hdone⟩
      have hclosed := h.closed s
      rw [hmain] at hclosed
      exact hclosed

/-- How much a goroutine still does with what has arrived. -/
def SocketCopy.work (lib : WsLibrary Input) (c : SocketCopy Input) : Nat :=
  match c.pc with
  | .reading => 2 * ((lib.events c.arrived).length - c.events.length) + 2
  | .writing _ => 2 * ((lib.events c.arrived).length - c.events.length) + 3
  | .cancelling => 1
  | .done => 0

def MainPc.work : MainPc → Nat
  | .select => 4
  | .closeUpstream => 3
  | .closeDownstream => 2
  | .wait => 1
  | .returned => 0

def Socket.work (lib : WsLibrary Input) (σ : Socket Input) : Nat :=
  (σ.copy .downstream).work lib + (σ.copy .upstream).work lib + σ.main.work + (!σ.serverDone).toNat

theorem work_setCopy {s : Side} {copy : SocketCopy Input}
    (h : copy.work lib < (σ.copy s).work lib) : (σ.setCopy s copy).work lib < σ.work lib := by
  have hmain : (σ.setCopy s copy).main = σ.main := rfl
  have hserver : (σ.setCopy s copy).serverDone = σ.serverDone := rfl
  unfold Socket.work
  rw [hmain, hserver]
  cases s with
  | downstream =>
      rw [Socket.setCopy_same, Socket.setCopy_other σ (by decide)]
      omega
  | upstream =>
      rw [Socket.setCopy_same, Socket.setCopy_other σ (by decide)]
      omega

theorem work_returns {c : SocketCopy Input} (hpc : c.pc = .reading ∨ ∃ e, c.pc = .writing e)
    (ending : Ending) : (c.returns ending).work lib < c.work lib := by
  show 1 < c.work lib
  unfold SocketCopy.work
  rcases hpc with hpc | ⟨m, hpc⟩
  · rw [hpc]
    dsimp only
    omega
  · rw [hpc]
    dsimp only
    omega

/-- **Every step but an arrival uses up some work.** -/
theorem work_step (hstep : SocketStep lib σ a τ) (ha : ∀ s, a ≠ .sender s) :
    τ.work lib < σ.work lib := by
  cases hstep with
  | @arrives s _ _ _ _ => exact absurd rfl (ha s)
  | @reads s e hpc hread =>
      have hlength := hread.length_le
      rw [List.length_append, List.length_singleton] at hlength
      refine work_setCopy ?_
      unfold SocketCopy.work
      rw [hpc]
      dsimp only
      rw [List.length_append, List.length_singleton]
      omega
  | readsClose hpc _ => exact work_setCopy (work_returns (Or.inl hpc) _)
  | readFails hpc => exact work_setCopy (work_returns (Or.inl hpc) _)
  | readClosed hpc _ => exact work_setCopy (work_returns (Or.inl hpc) _)
  | @writes s e hpc _ =>
      refine work_setCopy ?_
      unfold SocketCopy.work
      rw [hpc]
      dsimp only
      omega
  | writeFails hpc => exact work_setCopy (work_returns (Or.inr ⟨_, hpc⟩) _)
  | writeClosed hpc _ => exact work_setCopy (work_returns (Or.inr ⟨_, hpc⟩) _)
  | @cancels s hpc =>
      have hlt : (σ.setCopy s { σ.copy s with pc := .done }).work lib < σ.work lib := by
        refine work_setCopy ?_
        unfold SocketCopy.work
        rw [hpc]
        exact Nat.zero_lt_one
      exact hlt
  | shutdown hserver =>
      unfold Socket.work
      rw [hserver]
      exact Nat.lt_succ_self _
  | wakes hmain _ =>
      unfold Socket.work
      rw [hmain]
      simp [MainPc.work]
  | closesUpstream hmain =>
      unfold Socket.work
      rw [hmain]
      simp [MainPc.work, Socket.close]
  | closesDownstream hmain =>
      unfold Socket.work
      rw [hmain]
      simp [MainPc.work, Socket.close]
  | returns hmain _ =>
      unfold Socket.work
      rw [hmain]
      simp [MainPc.work]

/-- A step of the process itself, which needs no peer. -/
def SocketAction.own : SocketAction → Prop
  | .main => True
  | .copy _ => True
  | _ => False

/-- A goroutine between closed connections is not stuck. -/
theorem copy_moves (hclosed : ∀ s, σ.isOpen s = false) {s : Side} (hpc : (σ.copy s).pc ≠ .done) :
    ∃ τ, SocketStep lib σ (.copy s) τ := by
  cases hpc' : (σ.copy s).pc with
  | reading => exact ⟨_, .readClosed hpc' (hclosed s)⟩
  | writing e => exact ⟨_, .writeClosed hpc' (hclosed s.other)⟩
  | cancelling => exact ⟨_, .cancels hpc'⟩
  | done => exact absurd hpc' hpc

/-- A call that was cancelled or shut down can go on until it returns. -/
theorem call_moves (h : σ.Ordered)
    (hwoken : σ.main ≠ .select ∨ σ.cancelled = true ∨ σ.serverDone = true)
    (hmain : σ.main ≠ .returned) : ∃ a τ, SocketStep lib σ a τ ∧ a.own := by
  cases hpc : σ.main with
  | select => exact ⟨_, _, .wakes hpc (hwoken.resolve_left fun hne => hne hpc), trivial⟩
  | closeUpstream => exact ⟨_, _, .closesUpstream hpc, trivial⟩
  | closeDownstream => exact ⟨_, _, .closesDownstream hpc, trivial⟩
  | returned => exact absurd hpc hmain
  | wait =>
      have hclosed : ∀ s, σ.isOpen s = false := fun s => by
        rw [h.closed s, hpc]
        rfl
      by_cases hdone : ∀ s, (σ.copy s).pc = .done
      · exact ⟨_, _, .returns hpc hdone, trivial⟩
      · push Not at hdone
        obtain ⟨s, hs⟩ := hdone
        obtain ⟨τ, hτ⟩ := copy_moves hclosed hs
        exact ⟨_, τ, hτ, trivial⟩

theorem closed_step (hstep : SocketStep lib σ a τ) (h : ∀ s, σ.isOpen s = false) :
    (∀ s, τ.isOpen s = false) ∧ ∀ s, a ≠ .sender s := by
  cases hstep with
  | @arrives s _ _ _ hopen =>
      rw [h s] at hopen
      cases hopen
  | closesUpstream _ =>
      refine ⟨fun s => ?_, fun s => SocketAction.noConfusion⟩
      cases s with
      | downstream => exact h .downstream
      | upstream => rfl
  | closesDownstream _ =>
      refine ⟨fun s => ?_, fun s => SocketAction.noConfusion⟩
      cases s with
      | downstream => rfl
      | upstream => exact h .upstream
  | _ => exact ⟨h, fun s => SocketAction.noConfusion⟩

/-- **The call cleans up and ends.**  From a successful upgrade on, it returns only when both
goroutines ended and both connections are closed.  Once it was woken, by the end of a goroutine
or by a shutdown, it is never stuck, whatever the peers do or do not do, as reads and writes on a
closed connection return; and from when both connections are closed every run is bounded, and
one that cannot go on has returned. -/
theorem handleWebSocket_ends {as : List SocketAction}
    (h : Run (SocketStep lib) (Socket.upgraded stream) as σ) :
    (σ.main = .returned → ∀ s, (σ.copy s).pc = .done ∧ σ.isOpen s = false)
    ∧ (σ.cancelled = true ∨ σ.serverDone = true → σ.main ≠ .returned →
      ∃ a τ, SocketStep lib σ a τ ∧ a.own)
    ∧ ((∀ s, σ.isOpen s = false) → ∀ bs τ, Run (SocketStep lib) σ bs τ →
      bs.length ≤ σ.work lib ∧ ((∀ b υ, SocketStep lib τ b υ → ¬ b.own) → τ.main = .returned)) := by
  have hordered : σ.Ordered := by
    refine h.invariant (I := Socket.Ordered) (fun _ _ _ hσ hstep => ordered_step hstep hσ) ⟨?_, ?_⟩
    · exact fun s => rfl
    · exact fun hreturned => by cases hreturned
  refine ⟨fun hreturned s => ⟨hordered.returned hreturned s, ?_⟩,
    fun hwoken hmain => call_moves hordered (Or.inr hwoken) hmain, fun hclosed bs τ hrun => ?_⟩
  · rw [hordered.closed s, hreturned]
    rfl
  · have hinv : τ.Ordered ∧ ∀ s, τ.isOpen s = false := by
      refine hrun.invariant (I := fun τ => τ.Ordered ∧ ∀ s, τ.isOpen s = false)
        (fun _ _ _ hτ hstep => ?_) ⟨hordered, hclosed⟩
      exact ⟨ordered_step hstep hτ.1, (closed_step hstep hτ.2).1⟩
    have hbound := hrun.length_le (I := fun τ => ∀ s, τ.isOpen s = false) (μ := Socket.work lib)
      (fun _ _ _ hτ hstep => ⟨(closed_step hstep hτ).1, work_step hstep (closed_step hstep hτ).2⟩)
      hclosed
    refine ⟨by omega, fun hstuck => ?_⟩
    by_contra hmain
    have hselect : τ.main ≠ .select := by
      intro hselect
      have hupstream := hinv.1.closed .upstream
      rw [hinv.2, hselect] at hupstream
      cases hupstream
    obtain ⟨b, υ, hstep, hown⟩ := call_moves hinv.1 (Or.inl hselect) hmain
    exact hstuck b υ hstep hown

end

end

/-! ## §7. A client that says something and closes. -/

/-- What is read up to the first close frame. -/
def untilClose : List ReadEvent → List ReadEvent
  | [] => []
  | .close code text :: _ => [.close code text]
  | e :: rest => e :: untilClose rest

theorem untilClose_mono (arrived more : List ReadEvent) :
    untilClose arrived <+: untilClose (arrived ++ more) := by
  induction arrived with
  | nil => exact List.nil_prefix
  | cons e rest ih =>
      cases e with
      | close code text => exact List.prefix_refl _
      | message msgType msg => exact List.cons_prefix_cons.mpr ⟨rfl, ih⟩
      | ping appData => exact List.cons_prefix_cons.mpr ⟨rfl, ih⟩
      | pong appData => exact List.cons_prefix_cons.mpr ⟨rfl, ih⟩

theorem untilClose_close_last {arrived before after : List ReadEvent} {code : Int} {text : GoString}
    (h : untilClose arrived = before ++ .close code text :: after) : after = [] := by
  induction arrived generalizing before with
  | nil =>
      have hlength := congrArg List.length h
      simp [untilClose] at hlength
  | cons e rest ih =>
      cases before with
      | nil =>
          cases e with
          | close code' text' => exact (List.cons.inj h).2.symm
          | message msgType msg => cases (List.cons.inj h).1
          | ping appData => cases (List.cons.inj h).1
          | pong appData => cases (List.cons.inj h).1
      | cons e' before =>
          cases e with
          | close code' text' =>
              have htail := (List.cons.inj h).2
              cases before with
              | nil => cases htail
              | cons _ _ => cases htail
          | message msgType msg => exact ih (List.cons.inj h).2
          | ping appData => exact ih (List.cons.inj h).2
          | pong appData => exact ih (List.cons.inj h).2

/-- A library whose peers send one frame for every event; the payload of a close frame is its
text. -/
def WsLibrary.small : WsLibrary ReadEvent where
  events := untilClose
  formatCloseMessage _ text := text
  events_mono := untilClose_mono
  close_last _ _ _ _ _ := untilClose_close_last

/-- One text message, a ping and a close frame, and something behind it; the upstream says one
thing. -/
def shortTalk : Side → List ReadEvent
  | .downstream => [.message 1 (lit "hello"), .ping (lit "p"), .close 1000 (lit "bye"),
      .message 1 (lit "late")]
  | .upstream => [.message 2 (lit "welcome")]

/-- What is passed on of it. -/
def shortTalkWritten : List Written := [⟨1, lit "hello"⟩, ⟨9, lit "p"⟩, ⟨8, lit "bye"⟩]

/-- The talk until both connections are closed and both goroutines ended. -/
theorem shortTalk_run : ∃ as σ,
    Run (Guarded (SocketStep WsLibrary.small) Faultless) (Socket.upgraded shortTalk) as σ
      ∧ σ.isOpen .downstream = false
      ∧ (σ.copy .downstream).delivered = shortTalkWritten
      ∧ (σ.copy .upstream).delivered = [⟨2, lit "welcome"⟩]
      ∧ σ.main = .returned := by
  refine ⟨_, _, .cons ⟨.arrives (s := .downstream) rfl rfl, trivial⟩
    (.cons ⟨.arrives (s := .upstream) rfl rfl, trivial⟩
    (.cons ⟨.reads (s := .downstream) (e := .message 1 (lit "hello")) rfl (by decide), trivial⟩
    (.cons ⟨.writes (s := .downstream) rfl rfl, trivial⟩
    (.cons ⟨.reads (s := .upstream) (e := .message 2 (lit "welcome")) rfl (by decide), trivial⟩
    (.cons ⟨.writes (s := .upstream) rfl rfl, trivial⟩
    (.cons ⟨.arrives (s := .downstream) rfl rfl, trivial⟩
    (.cons ⟨.arrives (s := .downstream) rfl rfl, trivial⟩
    (.cons ⟨.reads (s := .downstream) (e := .ping (lit "p")) rfl (by decide), trivial⟩
    (.cons ⟨.writes (s := .downstream) rfl rfl, trivial⟩
    (.cons ⟨.reads (s := .downstream) (e := .close 1000 (lit "bye")) rfl (by decide), trivial⟩
    (.cons ⟨.writes (s := .downstream) rfl rfl, trivial⟩
    (.cons ⟨.readsClose (s := .downstream) rfl rfl, trivial⟩
    (.cons ⟨.cancels (s := .downstream) rfl, trivial⟩
    (.cons ⟨.wakes rfl (Or.inl rfl), trivial⟩
    (.cons ⟨.closesUpstream rfl, trivial⟩
    (.cons ⟨.closesDownstream rfl, trivial⟩
    (.cons ⟨.readClosed (s := .upstream) rfl rfl, trivial⟩
    (.cons ⟨.cancels (s := .upstream) rfl, trivial⟩
    (.single ⟨.returns rfl fun s => ?_, trivial⟩))))))))))))))))))), rfl, rfl, rfl, rfl⟩
  cases s with
  | downstream => rfl
  | upstream => rfl

/-- What was delivered is the talk up to its close frame. -/
theorem relayed_in_order_shortTalk : ∃ as σ,
    Run (SocketStep WsLibrary.small) (Socket.upgraded shortTalk) as σ
      ∧ (σ.copy .downstream).delivered = shortTalkWritten
      ∧ (σ.copy .downstream).delivered
        <+: (untilClose (shortTalk .downstream)).map (passedOn WsLibrary.small) := by
  obtain ⟨as, σ, hrun, _, hdelivered, _, _⟩ := shortTalk_run
  exact ⟨as, σ, hrun.of_guarded, hdelivered, relayed_in_order hrun.of_guarded .downstream⟩

theorem closed_after_close_shortTalk : ∃ as σ,
    Run (Guarded (SocketStep WsLibrary.small) Faultless) (Socket.upgraded shortTalk) as σ
      ∧ σ.isOpen .downstream = false
      ∧ ∃ s, (σ.copy s).delivered = (untilClose (shortTalk s)).map (passedOn WsLibrary.small)
        ∧ ∃ code text, (untilClose (shortTalk s)).getLast? = some (.close code text) := by
  obtain ⟨as, σ, hrun, hclosed, _, _, _⟩ := shortTalk_run
  exact ⟨as, σ, hrun, hclosed, closed_after_close hrun hclosed⟩

theorem handleWebSocket_ends_shortTalk : ∃ as σ,
    Run (SocketStep WsLibrary.small) (Socket.upgraded shortTalk) as σ ∧ σ.main = .returned
      ∧ ∀ s, (σ.copy s).pc = .done ∧ σ.isOpen s = false := by
  obtain ⟨as, σ, hrun, _, _, _, hreturned⟩ := shortTalk_run
  exact ⟨as, σ, hrun.of_guarded, hreturned, (handleWebSocket_ends hrun.of_guarded).1 hreturned⟩

end SIngress.Modules.WebSocket
