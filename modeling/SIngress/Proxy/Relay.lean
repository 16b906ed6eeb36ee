/-
  SIngress.Proxy.Relay — ONE CONNECTION OF A TCP PROXY
  (`connectTcp` and `getProxyHeader` of `pkg/proxy/proxy_tcp.go`).

  Two goroutines copy, one in each direction, and a third waits for the
  context.  Every one of them closes BOTH connections when it ends: the copy
  that first sees the end of its stream takes the other direction down, with
  whatever that direction has not forwarded yet.

    • `relay_delivers_iff`  — runs in which the end of one stream is seen only
                              after the other was forwarded lose nothing; for a
                              given pair of streams every run loses nothing
                              exactly if both are empty,
    • `reply_lost`          — a client that half-closes after its request.
-/
import Mathlib.Data.List.Infix
import SIngress.Base.NetipText
import SIngress.Lib.Transition

namespace SIngress.Proxy

open SIngress.Base SIngress.Lib

/-! ## §1. `getProxyHeader`. -/

/-- The line of the PROXY protocol. -/
def proxyLine (family : GoString) (remoteAddr localAddr : AddrPort) : GoString :=
  family ++ remoteAddr.addr.string ++ lit " " ++ localAddr.addr.string ++ lit " "
    ++ itoa remoteAddr.port.toNat ++ lit " " ++ itoa localAddr.port.toNat ++ [0x0D, 0x0A]

/-- `getProxyHeader`, of the addresses of the client's connection. -/
def getProxyHeader (remoteAddr localAddr : AddrPort) : GoString :=
  lit "PROXY " ++
    match remoteAddr.addr with
    | .v6 _ _ => proxyLine (lit "TCP6 ") remoteAddr localAddr
    | .v4 _ => proxyLine (lit "TCP4 ") remoteAddr localAddr
    | .zero => []

/-! ## §2. The state of a connection. -/

/-- The two connections. -/
inductive Side where
  | downstream
  | upstream
  deriving DecidableEq

def Side.other : Side → Side
  | .downstream => .upstream
  | .upstream => .downstream

@[simp] theorem Side.other_other (s : Side) : s.other.other = s := by
  cases s <;> rfl

theorem Side.other_ne (s : Side) : s.other ≠ s := by
  cases s <;> exact Side.noConfusion

/-- Where a copying goroutine is. -/
inductive CopyPc where
  /-- In `WriteTo`, before the next read. -/
  | reading
  /-- In `WriteTo`, with bytes that were read and not written. -/
  | writing (chunk : GoString)
  | closeUpstream
  | closeDownstream
  | cancel
  | done
  deriving DecidableEq

/-- One direction: the stream of its sender and the goroutine that copies it. -/
structure Copy where
  /-- What the sender has not sent yet. -/
  unsent : GoString
  /-- The sender closed its write side. -/
  ended : Bool
  /-- What arrived and was not read. -/
  pending : GoString
  pc : CopyPc
  /-- What was written to the connection of the receiver. -/
  delivered : GoString
  deriving DecidableEq

/-- The goroutine that waits for the context. -/
inductive WatcherPc where
  | waiting
  | closeUpstream
  | done
  deriving DecidableEq

/-- A proxied connection; `copy s` reads from side `s` and writes to the other. -/
structure Relay where
  copy : Side → Copy
  isOpen : Side → Bool
  cancelled : Bool
  watcher : WatcherPc

/-- `connectTcp` once the header is written: nothing has arrived, both goroutines start. -/
def connectTcp (header : GoString) (stream : Side → GoString) : Relay where
  copy
    -- the header counts as delivered: it was written before the goroutines start
    | .downstream => ⟨stream .downstream, false, [], .reading, header⟩
    | .upstream => ⟨stream .upstream, false, [], .reading, []⟩
  isOpen := fun _ => true
  cancelled := false
  watcher := .waiting

/-- What the receiver of a direction is to get. -/
def expected (header : GoString) (stream : Side → GoString) : Side → GoString
  | .downstream => header ++ stream .downstream
  | .upstream => stream .upstream

def Relay.setCopy (σ : Relay) (s : Side) (copy : Copy) : Relay :=
  { σ with copy := Function.update σ.copy s copy }

/-- `Close` of one connection. -/
def Relay.close (σ : Relay) (s : Side) : Relay :=
  { σ with isOpen := Function.update σ.isOpen s false }

/-! ## §3. The steps. -/

/-- Who takes the step; the end of a stream has a label of its own. -/
inductive RelayAction where
  | sender (s : Side)
  | copy (s : Side)
  | eof (s : Side)
  | watcher
  deriving DecidableEq

/-- The goroutine after a part of its bytes was written. -/
def afterWrite : GoString → CopyPc
  | [] => .reading
  | b :: rest => .writing (b :: rest)

/-- One step of a sender, of a goroutine or of the network, without I/O errors and without a
shutdown. -/
inductive RelayStep : Relay → RelayAction → Relay → Prop
  /-- Some bytes of the sender arrive. -/
  | arrives {σ : Relay} {s : Side} {chunk rest : GoString} :
      (σ.copy s).unsent = chunk ++ rest → chunk ≠ [] → σ.isOpen s = true →
      RelayStep σ (.sender s) (σ.setCopy s
        { σ.copy s with unsent := rest, pending := (σ.copy s).pending ++ chunk })
  /-- The sender closes its write side after its last byte. -/
  | ends {σ : Relay} {s : Side} :
      (σ.copy s).unsent = [] →
      RelayStep σ (.sender s) (σ.setCopy s { σ.copy s with ended := true })
  | reads {σ : Relay} {s : Side} {chunk rest : GoString} :
      (σ.copy s).pc = .reading → σ.isOpen s = true →
      (σ.copy s).pending = chunk ++ rest → chunk ≠ [] →
      RelayStep σ (.copy s) (σ.setCopy s { σ.copy s with pending := rest, pc := .writing chunk })
  | writes {σ : Relay} {s : Side} {chunk rest : GoString} :
      (σ.copy s).pc = .writing (chunk ++ rest) → chunk ≠ [] → σ.isOpen s.other = true →
      RelayStep σ (.copy s) (σ.setCopy s
        { σ.copy s with pc := afterWrite rest, delivered := (σ.copy s).delivered ++ chunk })
  /-- `WriteTo` returns at the end of the stream. -/
  | eof {σ : Relay} {s : Side} :
      (σ.copy s).pc = .reading → σ.isOpen s = true →
      (σ.copy s).pending = [] → (σ.copy s).ended = true →
      RelayStep σ (.eof s) (σ.setCopy s { σ.copy s with pc := .closeUpstream })
  /-- `WriteTo` fails with `net.ErrClosed`: the source was closed. -/
  | readFails {σ : Relay} {s : Side} :
      (σ.copy s).pc = .reading → σ.isOpen s = false →
      RelayStep σ (.copy s) (σ.setCopy s { σ.copy s with pc := .closeUpstream })
  /-- The same for the destination; what was read is gone. -/
  | writeFails {σ : Relay} {s : Side} {chunk : GoString} :
      (σ.copy s).pc = .writing chunk → σ.isOpen s.other = false →
      RelayStep σ (.copy s) (σ.setCopy s { σ.copy s with pc := .closeUpstream })
  | closesUpstream {σ : Relay} {s : Side} :
      (σ.copy s).pc = .closeUpstream →
      RelayStep σ (.copy s)
        ((σ.setCopy s { σ.copy s with pc := .closeDownstream }).close .upstream)
  | closesDownstream {σ : Relay} {s : Side} :
      (σ.copy s).pc = .closeDownstream →
      RelayStep σ (.copy s) ((σ.setCopy s { σ.copy s with pc := .cancel }).close .downstream)
  | cancels {σ : Relay} {s : Side} :
      (σ.copy s).pc = .cancel →
      RelayStep σ (.copy s)
        { σ.setCopy s { σ.copy s with pc := .done } with cancelled := true }
  | watcherWakes {σ : Relay} :
      σ.watcher = .waiting → σ.cancelled = true →
      RelayStep σ .watcher { σ.close .downstream with watcher := .closeUpstream }
  | watcherCloses {σ : Relay} :
      σ.watcher = .closeUpstream →
      RelayStep σ .watcher { σ.close .upstream with watcher := .done }

/-! ## §4. The property and the condition. -/

/-- **Nothing is lost**: a connection that is closed had received the other side's stream. -/
def Delivered (header : GoString) (stream : Side → GoString) (σ : Relay) : Prop :=
  ∀ s, σ.isOpen s.other = false → (σ.copy s).delivered = expected header stream s

/-- The end of a stream is seen only after the other direction was forwarded completely. -/
def OtherForwarded (header : GoString) (stream : Side → GoString) (σ : Relay) :
    RelayAction → Prop
  | .eof s => (σ.copy s.other).delivered = expected header stream s.other
  | _ => True

/-! ## §5. Small lemmas of the state. -/

section

variable {σ : Relay} {s t : Side} {copy : Copy}

@[simp] theorem setCopy_copy_same : (σ.setCopy s copy).copy s = copy := by
  simp [Relay.setCopy]

@[simp] theorem setCopy_copy_other (h : t ≠ s) : (σ.setCopy s copy).copy t = σ.copy t := by
  simp [Relay.setCopy, h]

@[simp] theorem setCopy_setCopy {copy' : Copy} :
    (σ.setCopy s copy).setCopy s copy' = σ.setCopy s copy' := by
  simp [Relay.setCopy]

theorem setCopy_self : σ.setCopy s (σ.copy s) = σ := by
  simp [Relay.setCopy]

@[simp] theorem setCopy_isOpen : (σ.setCopy s copy).isOpen = σ.isOpen := rfl

@[simp] theorem close_copy : (σ.close s).copy = σ.copy := rfl

@[simp] theorem close_isOpen_same : (σ.close s).isOpen s = false := by
  simp [Relay.close]

/-- What holds of both directions still does after one of them was changed accordingly. -/
theorem forall_setCopy {P : Side → Copy → Prop} (h : ∀ t, P t (σ.copy t)) (hs : P s copy) :
    ∀ t, P t ((σ.setCopy s copy).copy t) := by
  intro t
  by_cases heq : t = s
  · subst heq
    simpa using hs
  · simpa [heq] using h t

end

/-! ## §6. A direction that was forwarded stays so. -/

/-- Everything was delivered and nothing is under way. -/
structure Copy.Drained (full : GoString) (c : Copy) : Prop where
  delivered : c.delivered = full
  unsent : c.unsent = []
  pending : c.pending = []
  idle : ∀ chunk, c.pc ≠ .writing chunk

/-- Both directions were forwarded. -/
def Forwarded (header : GoString) (stream : Side → GoString) (σ : Relay) : Prop :=
  ∀ s, (σ.copy s).Drained (expected header stream s)

section

variable {header : GoString} {stream : Side → GoString} {σ τ : Relay} {a : RelayAction}

theorem forwarded_setCopy (h : Forwarded header stream σ) {s : Side} {copy : Copy}
    (hs : copy.Drained (expected header stream s)) :
    Forwarded header stream (σ.setCopy s copy) :=
  forall_setCopy (P := fun t copy => copy.Drained (expected header stream t)) h hs

/-- Ending its goroutine does not take anything from a drained direction. -/
theorem Copy.Drained.withPc {full : GoString} {c : Copy} (h : c.Drained full) {pc : CopyPc}
    (hpc : ∀ chunk, pc ≠ .writing chunk) : Copy.Drained full { c with pc := pc } :=
  ⟨h.delivered, h.unsent, h.pending, hpc⟩

/-- **Nothing undoes it**: every step keeps both directions forwarded. -/
theorem RelayStep.forwarded (hstep : RelayStep σ a τ) (h : Forwarded header stream σ) :
    Forwarded header stream τ := by
  cases hstep with
  -- nothing is left to arrive, to be read or to be written
  | @arrives s chunk rest hunsent hne hopen =>
      rw [(h s).unsent] at hunsent
      exact absurd (List.append_eq_nil_iff.mp hunsent.symm).1 hne
  | @ends s hunsent =>
      exact forwarded_setCopy h ⟨(h s).delivered, (h s).unsent, (h s).pending, (h s).idle⟩
  | @reads s chunk rest hpc hopen hpending hne =>
      rw [(h s).pending] at hpending
      exact absurd (List.append_eq_nil_iff.mp hpending.symm).1 hne
  | @writes s chunk rest hpc hne hopen => exact absurd hpc ((h s).idle _)
  | @eof s hpc hopen hpending hended =>
      exact forwarded_setCopy h ((h s).withPc fun _ => CopyPc.noConfusion)
  | @readFails s hpc hclosed =>
      exact forwarded_setCopy h ((h s).withPc fun _ => CopyPc.noConfusion)
  | @writeFails s chunk hpc hclosed => exact absurd hpc ((h s).idle _)
  | @closesUpstream s hpc =>
      exact forwarded_setCopy h ((h s).withPc fun _ => CopyPc.noConfusion)
  | @closesDownstream s hpc =>
      exact forwarded_setCopy h ((h s).withPc fun _ => CopyPc.noConfusion)
  | @cancels s hpc =>
      exact forwarded_setCopy h ((h s).withPc fun _ => CopyPc.noConfusion)
  -- closing a connection takes back nothing that was delivered
  | watcherWakes hwaiting hcancelled => exact h
  | watcherCloses hclose => exact h

/-! ## §7. Until the first end of a stream nothing is lost. -/

/-- The bytes between the read and the write. -/
def Copy.inFlight (c : Copy) : GoString :=
  match c.pc with
  | .writing chunk => chunk
  | _ => []

/-- A direction that is being copied: every byte of its stream is somewhere on the way. -/
structure Copy.Flowing (full : GoString) (c : Copy) : Prop where
  copying : c.pc = .reading ∨ ∃ chunk, chunk ≠ [] ∧ c.pc = .writing chunk
  kept : c.delivered ++ (c.inFlight ++ (c.pending ++ c.unsent)) = full
  ended : c.ended = true → c.unsent = []

/-- Both directions flow, and nobody has closed anything. -/
structure Relaying (header : GoString) (stream : Side → GoString) (σ : Relay) : Prop where
  flowing : ∀ s, (σ.copy s).Flowing (expected header stream s)
  isOpen : ∀ s, σ.isOpen s = true
  cancelled : σ.cancelled = false
  watcher : σ.watcher = .waiting

theorem Relaying.setCopy (h : Relaying header stream σ) {s : Side} {copy : Copy}
    (hs : copy.Flowing (expected header stream s)) :
    Relaying header stream (σ.setCopy s copy) where
  flowing := forall_setCopy (P := fun t copy => copy.Flowing (expected header stream t)) h.flowing hs
  isOpen := h.isOpen
  cancelled := h.cancelled
  watcher := h.watcher

/-- A goroutine that still copies is at none of the later points. -/
theorem Copy.Flowing.pc_ne {full : GoString} {c : Copy} (h : c.Flowing full) {pc : CopyPc}
    (hreading : pc ≠ .reading) (hwriting : ∀ chunk, pc ≠ .writing chunk) : c.pc ≠ pc := by
  intro heq
  rcases h.copying with hpc | ⟨chunk, _, hpc⟩
  · exact hreading (heq.symm.trans hpc)
  · exact hwriting chunk (heq.symm.trans hpc)

/-- A direction that flows and has delivered everything is drained. -/
theorem Copy.Flowing.drained {full : GoString} {c : Copy} (h : c.Flowing full)
    (hdelivered : c.delivered = full) : c.Drained full := by
  have hkept := h.kept
  rw [hdelivered] at hkept
  have hrest := List.append_right_eq_self.mp hkept
  obtain ⟨hflight, hrest⟩ := List.append_eq_nil_iff.mp hrest
  obtain ⟨hpending, hunsent⟩ := List.append_eq_nil_iff.mp hrest
  refine ⟨hdelivered, hunsent, hpending, ?_⟩
  intro chunk hpc
  -- a chunk in flight would not be empty
  rcases h.copying with hreading | ⟨chunk', hne, hwriting⟩
  · rw [hpc] at hreading
    cases hreading
  · unfold Copy.inFlight at hflight
    rw [hwriting] at hflight
    exact hne hflight

theorem Copy.Flowing.arrives {full : GoString} {c : Copy} (h : c.Flowing full)
    {chunk rest : GoString} (hunsent : c.unsent = chunk ++ rest) (hne : chunk ≠ []) :
    Copy.Flowing full { c with unsent := rest, pending := c.pending ++ chunk } where
  copying := h.copying
  kept := by
    have hkept := h.kept
    rw [hunsent] at hkept
    show c.delivered ++ (c.inFlight ++ (c.pending ++ chunk ++ rest)) = full
    rw [List.append_assoc]
    exact hkept
  ended hended := by
    rw [h.ended hended] at hunsent
    exact absurd (List.append_eq_nil_iff.mp hunsent.symm).1 hne

theorem Copy.Flowing.reads {full : GoString} {c : Copy} (h : c.Flowing full)
    {chunk rest : GoString} (hpc : c.pc = .reading) (hpending : c.pending = chunk ++ rest)
    (hne : chunk ≠ []) :
    Copy.Flowing full { c with pending := rest, pc := .writing chunk } where
  copying := Or.inr ⟨chunk, hne, rfl⟩
  kept := by
    have hkept := h.kept
    unfold Copy.inFlight at hkept
    rw [hpc, hpending, List.append_assoc] at hkept
    exact hkept
  ended := h.ended

theorem Copy.Flowing.writes {full : GoString} {c : Copy} (h : c.Flowing full)
    {chunk rest : GoString} (hpc : c.pc = .writing (chunk ++ rest)) :
    Copy.Flowing full { c with pc := afterWrite rest, delivered := c.delivered ++ chunk } := by
  have hkept := h.kept
  unfold Copy.inFlight at hkept
  rw [hpc] at hkept
  -- a write may be short; the rest stays in flight
  cases rest with
  | nil =>
      refine ⟨Or.inl rfl, ?_, h.ended⟩
      show c.delivered ++ chunk ++ ([] ++ (c.pending ++ c.unsent)) = full
      simpa using hkept
  | cons b rest =>
      refine ⟨Or.inr ⟨b :: rest, List.cons_ne_nil _ _, rfl⟩, ?_, h.ended⟩
      show c.delivered ++ chunk ++ (b :: rest ++ (c.pending ++ c.unsent)) = full
      simpa using hkept

/-- At the end of its stream a direction has delivered everything. -/
theorem Copy.Flowing.atEnd {full : GoString} {c : Copy} (h : c.Flowing full)
    (hpc : c.pc = .reading) (hpending : c.pending = []) (hended : c.ended = true) :
    c.Drained full := by
  refine h.drained ?_
  have hkept := h.kept
  unfold Copy.inFlight at hkept
  rw [hpc, hpending, h.ended hended] at hkept
  simpa using hkept

/-- What holds of a direction and of the other one holds of both. -/
theorem Side.forall_of_other {P : Side → Prop} {s : Side} (h : P s) (hother : P s.other) :
    ∀ t, P t := by
  intro t
  cases s with
  | downstream =>
      cases t with
      | downstream => exact h
      | upstream => exact hother
  | upstream =>
      cases t with
      | downstream => exact hother
      | upstream => exact h

/-- **A step of a relay in which both directions flow**: they still do, or both were forwarded,
if the other direction was when the end of a stream is seen. -/
theorem RelayStep.relaying (hstep : RelayStep σ a τ) (h : Relaying header stream σ)
    (hguard : OtherForwarded header stream σ a) :
    Relaying header stream τ ∨ Forwarded header stream τ := by
  cases hstep with
  | @arrives s chunk rest hunsent hne hopen =>
      exact Or.inl (h.setCopy ((h.flowing s).arrives hunsent hne))
  | @ends s hunsent =>
      exact Or.inl (h.setCopy ⟨(h.flowing s).copying, (h.flowing s).kept, fun _ => hunsent⟩)
  | @reads s chunk rest hpc hopen hpending hne =>
      exact Or.inl (h.setCopy ((h.flowing s).reads hpc hpending hne))
  | @writes s chunk rest hpc hne hopen =>
      exact Or.inl (h.setCopy ((h.flowing s).writes hpc))
  | @eof s hpc hopen hpending hended =>
      -- this direction is at its end, and the guard says the same of the other
      have hboth : Forwarded header stream σ :=
        Side.forall_of_other ((h.flowing s).atEnd hpc hpending hended)
          ((h.flowing s.other).drained hguard)
      exact Or.inr (forwarded_setCopy hboth ((hboth s).withPc fun _ => CopyPc.noConfusion))
  -- nobody closes a connection before the first end of a stream
  | @readFails s hpc hclosed =>
      rw [h.isOpen s] at hclosed
      cases hclosed
  | @writeFails s chunk hpc hclosed =>
      rw [h.isOpen s.other] at hclosed
      cases hclosed
  | @closesUpstream s hpc =>
      exact absurd hpc ((h.flowing s).pc_ne CopyPc.noConfusion fun _ => CopyPc.noConfusion)
  | @closesDownstream s hpc =>
      exact absurd hpc ((h.flowing s).pc_ne CopyPc.noConfusion fun _ => CopyPc.noConfusion)
  | @cancels s hpc =>
      exact absurd hpc ((h.flowing s).pc_ne CopyPc.noConfusion fun _ => CopyPc.noConfusion)
  | watcherWakes hwaiting hcancelled =>
      rw [h.cancelled] at hcancelled
      cases hcancelled
  | watcherCloses hclose =>
      rw [h.watcher] at hclose
      cases hclose

theorem relaying_connectTcp : Relaying header stream (connectTcp header stream) where
  flowing s := by
    cases s with
    | downstream => exact ⟨Or.inl rfl, rfl, fun h => (by cases h)⟩
    | upstream => exact ⟨Or.inl rfl, rfl, fun h => (by cases h)⟩
  isOpen _ := rfl
  cancelled := rfl
  watcher := rfl

theorem delivered_of_forwarded (h : Forwarded header stream σ) : Delivered header stream σ :=
  fun s _ => (h s).delivered

theorem delivered_of_relaying (h : Relaying header stream σ) : Delivered header stream σ := by
  intro s hclosed
  rw [h.isOpen s.other] at hclosed
  cases hclosed

/-- Every guarded run loses nothing. -/
theorem delivered_of_guarded {as : List RelayAction}
    (hrun : Run (Guarded RelayStep (OtherForwarded header stream)) (connectTcp header stream) as σ) :
    Delivered header stream σ := by
  -- first both directions flow, then both are forwarded
  have hinv : Relaying header stream σ ∨ Forwarded header stream σ := by
    refine hrun.invariant (I := fun σ => Relaying header stream σ ∨ Forwarded header stream σ)
      (fun σ a τ h hstep => ?_) (Or.inl relaying_connectTcp)
    rcases h with hrelaying | hforwarded
    · exact hstep.1.relaying hrelaying hstep.2
    · exact Or.inr (hstep.1.forwarded hforwarded)
  rcases hinv with hrelaying | hforwarded
  · exact delivered_of_relaying hrelaying
  · exact delivered_of_forwarded hforwarded

/-! ## §8. The first end of a stream takes the other direction down. -/

/-- What a direction starts with. -/
theorem connectTcp_copy (s : Side) : ∃ written, written ++ stream s = expected header stream s
    ∧ (connectTcp header stream).copy s = ⟨stream s, false, [], .reading, written⟩ := by
  cases s with
  | downstream => exact ⟨header, rfl, rfl⟩
  | upstream => exact ⟨[], rfl, rfl⟩

/-- A label that is not the end of a stream. -/
def NotEof (a : RelayAction) : Prop := ∀ s, a ≠ .eof s

/-- One direction can be copied to its end while the other does nothing. -/
theorem exists_copied {s : Side} {sent written : GoString}
    (hcopy : σ.copy s = ⟨sent, false, [], .reading, written⟩) (hopen : ∀ t, σ.isOpen t = true) :
    ∃ as, (∀ a ∈ as, NotEof a)
      ∧ Run RelayStep σ as (σ.setCopy s ⟨[], true, [], .reading, written ++ sent⟩) := by
  have hopen' : ∀ copy t, (σ.setCopy s copy).isOpen t = true := fun _ => hopen
  have hstart : σ.setCopy s ⟨sent, false, [], .reading, written⟩ = σ := by
    rw [← hcopy]
    exact setCopy_self
  by_cases hnil : sent = []
  · -- an empty stream only ends
    subst hnil
    have hends : RelayStep (σ.setCopy s ⟨[], false, [], .reading, written⟩) (.sender s)
        (σ.setCopy s ⟨[], true, [], .reading, written⟩) := by
      simpa using @RelayStep.ends (σ.setCopy s ⟨[], false, [], .reading, written⟩) s (by simp)
    rw [hstart] at hends
    rw [List.append_nil]
    exact ⟨[.sender s], by simp [NotEof], .single hends⟩
  -- the whole stream in one read and one write
  · have harrives : RelayStep (σ.setCopy s ⟨sent, false, [], .reading, written⟩) (.sender s)
        (σ.setCopy s ⟨[], false, sent, .reading, written⟩) := by
      simpa using @RelayStep.arrives (σ.setCopy s ⟨sent, false, [], .reading, written⟩) s
        sent [] (by simp) hnil (hopen' _ _)
    have hends : RelayStep (σ.setCopy s ⟨[], false, sent, .reading, written⟩) (.sender s)
        (σ.setCopy s ⟨[], true, sent, .reading, written⟩) := by
      simpa using @RelayStep.ends (σ.setCopy s ⟨[], false, sent, .reading, written⟩) s (by simp)
    have hreads : RelayStep (σ.setCopy s ⟨[], true, sent, .reading, written⟩) (.copy s)
        (σ.setCopy s ⟨[], true, [], .writing sent, written⟩) := by
      simpa using @RelayStep.reads (σ.setCopy s ⟨[], true, sent, .reading, written⟩) s
        sent [] (by simp) (hopen' _ _) (by simp) hnil
    have hwrites : RelayStep (σ.setCopy s ⟨[], true, [], .writing sent, written⟩) (.copy s)
        (σ.setCopy s ⟨[], true, [], .reading, written ++ sent⟩) := by
      simpa [afterWrite] using @RelayStep.writes
        (σ.setCopy s ⟨[], true, [], .writing sent, written⟩) s sent [] (by simp) hnil
        (hopen' _ _)
    rw [hstart] at harrives
    exact ⟨[.sender s, .sender s, .copy s, .copy s], by simp [NotEof],
      .cons harrives (.cons hends (.cons hreads (.single hwrites)))⟩

/-- At the end of its stream a goroutine closes both connections. -/
theorem exists_closed {s : Side} {written : GoString}
    (hcopy : σ.copy s = ⟨[], true, [], .reading, written⟩) (hopen : ∀ t, σ.isOpen t = true) :
    ∃ σ₁ σ₂ as, RelayStep σ (.eof s) σ₁ ∧ (∀ a ∈ as, NotEof a) ∧ Run RelayStep σ₁ as σ₂
      ∧ (∀ t, σ₂.isOpen t = false) ∧ σ₂.copy s.other = σ.copy s.other := by
  have heof := @RelayStep.eof σ s (by rw [hcopy]) (hopen s) (by rw [hcopy]) (by rw [hcopy])
  rw [hcopy] at heof
  have hup : RelayStep (σ.setCopy s ⟨[], true, [], .closeUpstream, written⟩) (.copy s)
      ((σ.setCopy s ⟨[], true, [], .closeDownstream, written⟩).close .upstream) := by
    simpa using @RelayStep.closesUpstream (σ.setCopy s ⟨[], true, [], .closeUpstream, written⟩) s
      (by simp)
  -- upstream first, as the source has it
  let τ := (σ.setCopy s ⟨[], true, [], .closeDownstream, written⟩).close .upstream
  have hdown : RelayStep τ (.copy s)
      ((τ.setCopy s ⟨[], true, [], .cancel, written⟩).close .downstream) := by
    have hτ : τ.copy s = ⟨[], true, [], .closeDownstream, written⟩ := setCopy_copy_same
    have hstep := @RelayStep.closesDownstream τ s (by rw [hτ])
    rw [hτ] at hstep
    exact hstep
  refine ⟨_, _, [.copy s, .copy s], heof, by simp [NotEof], .cons hup (.single hdown), ?_, ?_⟩
  · intro t
    cases t with
    | downstream => exact close_isOpen_same
    | upstream => rfl
  · show (τ.setCopy s _).copy s.other = _
    rw [setCopy_copy_other s.other_ne]
    exact setCopy_copy_other s.other_ne

/-- **The end of one stream closes both connections**, with the other direction where it was. -/
theorem exists_cut (header : GoString) (stream : Side → GoString) (s : Side) :
    ∃ as σ, Run RelayStep (connectTcp header stream) as σ ∧ (∀ t, σ.isOpen t = false)
      ∧ σ.copy s.other = (connectTcp header stream).copy s.other := by
  obtain ⟨written, _, hcopy⟩ := @connectTcp_copy header stream s
  obtain ⟨as, _, hrun⟩ := exists_copied hcopy fun _ => rfl
  obtain ⟨σ₁, σ₂, bs, heof, _, hclose, hclosed, hother⟩ :=
    @exists_closed ((connectTcp header stream).setCopy s _) s _ setCopy_copy_same fun _ => rfl
  refine ⟨_, σ₂, hrun.append (.cons heof hclose), hclosed, ?_⟩
  rw [hother]
  exact setCopy_copy_other s.other_ne

/-- With a stream in one direction, some run loses it. -/
theorem not_delivered_of_stream {s : Side} (h : stream s ≠ []) :
    ∃ as σ, Run RelayStep (connectTcp header stream) as σ ∧ ¬ Delivered header stream σ := by
  -- let the other direction end first; this one has not moved then
  obtain ⟨as, σ, hrun, hclosed, hcopy⟩ := exists_cut header stream s.other
  refine ⟨as, σ, hrun, fun hdelivered => h ?_⟩
  obtain ⟨written, hwritten, hstart⟩ := @connectTcp_copy header stream s
  rw [Side.other_other, hstart] at hcopy
  have hall := hdelivered s (hclosed _)
  rw [hcopy, ← hwritten] at hall
  exact List.append_right_eq_self.mp hall.symm

end

/-! ## §9. The condition. -/

/-- **The relay loses nothing** in every run in which the end of a stream is seen only after the
other direction was forwarded completely; and for a given pair of streams it loses nothing in
any run exactly if both are empty. -/
theorem relay_delivers_iff (remoteAddr localAddr : AddrPort) (stream : Side → GoString) :
    (∀ as σ, Run (Guarded RelayStep (OtherForwarded (getProxyHeader remoteAddr localAddr) stream))
        (connectTcp (getProxyHeader remoteAddr localAddr) stream) as σ →
      Delivered (getProxyHeader remoteAddr localAddr) stream σ)
    ∧ ((∀ as σ, Run RelayStep (connectTcp (getProxyHeader remoteAddr localAddr) stream) as σ →
        Delivered (getProxyHeader remoteAddr localAddr) stream σ)
      ↔ ∀ s, stream s = []) := by
  refine ⟨fun as σ hrun => delivered_of_guarded hrun, ?_, ?_⟩
  · intro hall s
    by_contra hne
    obtain ⟨as, σ, hrun, hnot⟩ := not_delivered_of_stream hne
    exact hnot (hall as σ hrun)
  · intro hempty as σ hrun
    -- nothing is to be forwarded, so both directions are at their end from the start
    have hstart : Forwarded (getProxyHeader remoteAddr localAddr) stream
        (connectTcp (getProxyHeader remoteAddr localAddr) stream) := by
      intro s
      obtain ⟨written, hwritten, hcopy⟩ :=
        @connectTcp_copy (getProxyHeader remoteAddr localAddr) stream s
      rw [hempty s, List.append_nil] at hwritten
      rw [hcopy, ← hwritten]
      exact ⟨rfl, hempty s, rfl, fun _ => CopyPc.noConfusion⟩
    exact delivered_of_forwarded
      (hrun.invariant (fun _ _ _ h hstep => RelayStep.forwarded hstep h) hstart)

/-- Steps other than the end of a stream meet the condition. -/
theorem guarded_of_notEof {header : GoString} {stream : Side → GoString} {σ τ : Relay}
    {as : List RelayAction} (hrun : Run RelayStep σ as τ) (h : ∀ a ∈ as, NotEof a) :
    Run (Guarded RelayStep (OtherForwarded header stream)) σ as τ := by
  refine hrun.guarded_of_invariant (I := fun _ => True) (P := NotEof) (fun _ _ _ _ _ _ => trivial)
    (fun σ a τ ha _ _ => ?_) h trivial
  cases a with
  | eof s => exact absurd rfl (ha s)
  | _ => trivial

/-- The request `q` and the reply `r`. -/
def exchange (s : Side) : GoString := if s = .downstream then lit "q" else lit "r"

def exchangeHeader : GoString := getProxyHeader ⟨.v4 0x0A000009, 4000⟩ ⟨.v4 0x0A000001, 80⟩

/-- The client keeps its write side open until it has the reply: both sides get everything. -/
theorem relay_delivers_exchange : ∃ as σ,
    Run (Guarded RelayStep (OtherForwarded exchangeHeader exchange))
      (connectTcp exchangeHeader exchange) as σ
    ∧ (∀ t, σ.isOpen t = false)
    ∧ (σ.copy .downstream).delivered = exchangeHeader ++ lit "q"
    ∧ (σ.copy .upstream).delivered = lit "r" := by
  obtain ⟨as₁, hnot₁, hrun₁⟩ := @exists_copied (connectTcp exchangeHeader exchange) .downstream
    (lit "q") exchangeHeader rfl fun _ => rfl
  let σ₁ := (connectTcp exchangeHeader exchange).setCopy .downstream
    ⟨[], true, [], .reading, exchangeHeader ++ lit "q"⟩
  obtain ⟨as₂, hnot₂, hrun₂⟩ := @exists_copied σ₁ .upstream (lit "r") [] rfl fun _ => rfl
  let σ₂ := σ₁.setCopy .upstream ⟨[], true, [], .reading, [] ++ lit "r"⟩
  obtain ⟨σ₃, σ₄, as₃, heof, hnot₃, hrun₃, hclosed, _⟩ :=
    @exists_closed σ₂ .upstream (lit "r") rfl fun _ => rfl
  -- when the upstream ends, the request is through
  have hguard : OtherForwarded exchangeHeader exchange σ₂ (.eof .upstream) := rfl
  have hrun : Run (Guarded RelayStep (OtherForwarded exchangeHeader exchange))
      (connectTcp exchangeHeader exchange) _ σ₄ :=
    (guarded_of_notEof hrun₁ hnot₁).append ((guarded_of_notEof hrun₂ hnot₂).append
      (.cons ⟨heof, hguard⟩ (guarded_of_notEof hrun₃ hnot₃)))
  have hdelivered : Delivered exchangeHeader exchange σ₄ :=
    (relay_delivers_iff ⟨.v4 0x0A000009, 4000⟩ ⟨.v4 0x0A000001, 80⟩ exchange).1 _ σ₄ hrun
  exact ⟨_, σ₄, hrun, hclosed, hdelivered .downstream (hclosed _), hdelivered .upstream (hclosed _)⟩

/-- **A reply that is lost.**  The client sends `q` and half-closes; the copy of its request sees
the end of the stream and closes both connections before the upstream has replied with `r`. -/
theorem reply_lost : ∃ as σ, Run RelayStep (connectTcp exchangeHeader exchange) as σ
    ∧ σ.isOpen .downstream = false ∧ (σ.copy .upstream).delivered = []
    ∧ ¬ Delivered exchangeHeader exchange σ := by
  obtain ⟨as, σ, hrun, hclosed, hcopy⟩ := exists_cut exchangeHeader exchange .downstream
  have hnothing : (σ.copy .upstream).delivered = [] := by
    have hcopy : σ.copy .upstream = (connectTcp exchangeHeader exchange).copy .upstream := hcopy
    rw [hcopy]
    rfl
  refine ⟨as, σ, hrun, hclosed _, hnothing, ?_⟩
  intro hdelivered
  have hreply := hdelivered .upstream (hclosed _)
  rw [hnothing] at hreply
  exact absurd hreply (by decide)

end SIngress.Proxy
