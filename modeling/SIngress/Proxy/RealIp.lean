/-
  SIngress.Proxy.RealIp — WHO CHOOSES THE CLIENT'S ADDRESS?

  Every trusted proxy on the way appends the address of its own peer to
  `X-Forwarded-For`; what stands before is whatever the client sent.  The part
  the trusted hops appended starts with the address the outermost of them saw,
  which is the client, and goes on with the addresses of trusted proxies.

  `fillRealIp` ignores the header of an untrusted peer, and reads the first
  address of the header of a trusted one:

    • `realIp_unforgeable_iff` — the requests whose address is not the client's
      to choose,
    • `realIp_forged`          — one whose address is.
-/
import SIngress.Proxy.Forwarding

namespace SIngress.Proxy

open SIngress.Base SIngress.Lib SIngress.Platform

/-! ## §1. What trusted hops append. -/

/-- The address is in a trusted prefix. -/
def RoutingConfig.Trusts (rc : RoutingConfig) (a : Addr) : Prop :=
  ∃ p ∈ rc.trustedProxies, p.contains a = true

instance (rc : RoutingConfig) (a : Addr) : Decidable (rc.Trusts a) :=
  inferInstanceAs (Decidable (∃ p ∈ rc.trustedProxies, p.contains a = true))

section

variable (ext : Ext) (rc : RoutingConfig)

/-- The text is what trusted hops append for a client at `a`: an address that is not trusted,
then trusted ones only. -/
def AppendedFor (s : GoString) (a : Addr) : Prop :=
  ∃ first rest, split s byteComma = first :: rest
    ∧ ext.parseAddr (trimSpace first) = .ok a ∧ ¬ rc.Trusts a
    ∧ ∀ item ∈ rest, ∃ b, ext.parseAddr (trimSpace item) = .ok b ∧ rc.Trusts b

/-- The real address is the peer, if the peer is not trusted; behind a trusted peer it is the
client that the trusted hops saw, whatever stands in the header before their part. -/
def Unforgeable (remoteIp : AddrPort) (r : Request) : Prop :=
  (¬ rc.Trusts remoteIp.addr → realIpOf ext rc remoteIp r = remoteIp.addr)
    ∧ (rc.Trusts remoteIp.addr → ∀ c s a,
        r.header.get (lit "X-Forwarded-For") = c ++ byteComma :: s → AppendedFor ext rc s a →
          realIpOf ext rc remoteIp r = a)

/-- What the client sent starts with the address that the trusted hops saw. -/
def FirstItemAgrees (remoteIp : AddrPort) (r : Request) : Prop :=
  rc.Trusts remoteIp.addr → ∀ c s a,
    r.header.get (lit "X-Forwarded-For") = c ++ byteComma :: s → AppendedFor ext rc s a →
      ext.parseAddr (trimSpace ((split c byteComma).headD [])) = .ok a

end

/-! ## §2. Which address is read. -/

section

variable {ext : Ext} {rc : RoutingConfig} {remoteIp : AddrPort} {r : Request}

/-- An untrusted peer announces nobody. -/
theorem realIpOf_untrusted (h : ¬ rc.Trusts remoteIp.addr) :
    realIpOf ext rc remoteIp r = remoteIp.addr :=
  realIpOf_peer fun _ hann => h hann.1

/-- The first item of the header is the first item of what the client sent. -/
theorem headD_split_append (c s : GoString) :
    (split (c ++ byteComma :: s) byteComma).headD [] = (split c byteComma).headD [] := by
  rw [split_append_sep]
  cases hsplit : split c byteComma with
  | nil => exact absurd hsplit (split_ne_nil c byteComma)
  | cons item rest => rfl

theorem announced_iff {c s : GoString} {a : Addr} (htrusted : rc.Trusts remoteIp.addr)
    (hheader : r.header.get (lit "X-Forwarded-For") = c ++ byteComma :: s) :
    Announced ext rc remoteIp r a ↔
      ext.parseAddr (trimSpace ((split c byteComma).headD [])) = .ok a := by
  unfold Announced
  rw [hheader, headD_split_append]
  constructor
  · intro h
    exact h.2.2
  · intro h
    exact ⟨htrusted, by simp, h⟩

/-- **Behind a trusted peer the first item of what the client sent decides**: it is the real
address, or the peer is. -/
theorem realIpOf_eq_untrusted_iff {c s : GoString} {a : Addr} (htrusted : rc.Trusts remoteIp.addr)
    (hheader : r.header.get (lit "X-Forwarded-For") = c ++ byteComma :: s)
    (ha : ¬ rc.Trusts a) :
    realIpOf ext rc remoteIp r = a ↔
      ext.parseAddr (trimSpace ((split c byteComma).headD [])) = .ok a := by
  rw [realIpOf_eq_iff, ← announced_iff htrusted hheader]
  unfold ClientAt
  constructor
  · rintro (h | ⟨_, hpeer⟩)
    · exact h
    · -- the peer is trusted, and the address is not
      rw [← hpeer] at ha
      exact absurd htrusted ha
  · exact Or.inl

/-- **When the client's address is not the client's to choose**: behind a trusted peer, what the
client sent starts with the address that the trusted hops saw. -/
theorem realIp_unforgeable_iff (ext : Ext) (rc : RoutingConfig) (remoteIp : AddrPort)
    (r : Request) :
    Unforgeable ext rc remoteIp r ↔ FirstItemAgrees ext rc remoteIp r := by
  unfold Unforgeable FirstItemAgrees
  rw [and_iff_right realIpOf_untrusted]
  refine forall_congr' fun htrusted => forall_congr' fun c => forall_congr' fun s =>
    forall_congr' fun a => forall_congr' fun hheader => forall_congr' fun happended => ?_
  obtain ⟨_, _, _, _, ha, _⟩ := happended
  exact realIpOf_eq_untrusted_iff htrusted hheader ha

end

/-- A request with the header. -/
def forwardedFor (value : GoString) : Request :=
  forwardedRequest (Finmap.singleton (lit "X-Forwarded-For") [value])

/-- The client is at `203.0.113.7` and sends `X-Forwarded-For: 198.51.100.1`; the trusted proxy
`10.0.0.9` appends the client. -/
theorem realIp_forged :
    AppendedFor Ext.netip trustingConfig (lit " 203.0.113.7") (.v4 0xCB007107)
      ∧ (forwardedFor (lit "198.51.100.1, 203.0.113.7")).header.get (lit "X-Forwarded-For")
        = lit "198.51.100.1" ++ byteComma :: lit " 203.0.113.7"
      ∧ trustingConfig.Trusts (.v4 0x0A000009)
      ∧ realIpOf Ext.netip trustingConfig ⟨.v4 0x0A000009, 4000⟩
          (forwardedFor (lit "198.51.100.1, 203.0.113.7")) = .v4 0xC6336401 := by
  refine ⟨⟨lit " 203.0.113.7", [], by decide, by decide, by decide, ?_⟩, by decide, by decide, ?_⟩
  · intro item hitem
    cases hitem
  · decide

end SIngress.Proxy
