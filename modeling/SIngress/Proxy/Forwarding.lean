/-
  SIngress.Proxy.Forwarding — TWO INSTANCES IN A ROW.

  An instance announces the client to its upstream in `X-Forwarded-For`
  (`proxyRoute`), and an instance behind a trusted proxy reads the client from
  that header (`fillRealIp`).  What is written is the peer's address with its
  port, which is not what is read, so the second instance falls back to the
  address of the first.
-/
import SIngress.Base.NetipText
import SIngress.Proxy.Serve

namespace SIngress.Proxy

open SIngress.Base SIngress.Lib SIngress.Platform

/-! ## §1. The client of a request. -/

/-- The platform's `netip` functions are the standard ones. -/
structure StandardNetip (ext : Ext) : Prop where
  parseAddr : ∀ s a, ext.parseAddr s = .ok a ↔ Base.parseAddr s = some a
  addrPortString : ∀ p, ext.addrPortString p = p.string

section

variable (ext : Ext) (out : Outcomes)

/-- The peer is a trusted proxy and announces the client at `a`. -/
def Announced (rc : RoutingConfig) (remoteIp : AddrPort) (r : Request) (a : Addr) : Prop :=
  (∃ p ∈ rc.trustedProxies, p.contains remoteIp.addr = true)
    ∧ r.header.get (lit "X-Forwarded-For") ≠ []
    ∧ ext.parseAddr
        (trimSpace ((split (r.header.get (lit "X-Forwarded-For")) byteComma).headD [])) = .ok a

/-- The client is at `a`: a trusted proxy says so, or no trusted proxy announces a client
and the peer itself is at `a`. -/
def ClientAt (rc : RoutingConfig) (remoteIp : AddrPort) (r : Request) (a : Addr) : Prop :=
  Announced ext rc remoteIp r a
    ∨ (∀ b, ¬ Announced ext rc remoteIp r b) ∧ remoteIp.addr = a

end

section

variable {ext : Ext} {out : Outcomes} {rc rc₁ rc₂ : RoutingConfig}
  {remoteIp remoteIp₁ remoteIp₂ : AddrPort} {r r₁ r₂ : Request} {a : Addr}

/-- An announced client is the real address. -/
theorem realIpOf_announced (h : Announced ext rc remoteIp r a) :
    realIpOf ext rc remoteIp r = a := by
  obtain ⟨⟨p, hp, hcontains⟩, hne, hparse⟩ := h
  have htrusted : (rc.trustedProxies.any fun ip => ip.contains remoteIp.addr) = true :=
    List.any_eq_true.mpr ⟨p, hp, hcontains⟩
  unfold realIpOf
  dsimp only
  rw [if_neg (by simpa using hne), htrusted, if_neg (by decide), hparse]

/-- Without an announcement the peer is the real address. -/
theorem realIpOf_peer (h : ∀ b, ¬ Announced ext rc remoteIp r b) :
    realIpOf ext rc remoteIp r = remoteIp.addr := by
  unfold realIpOf
  dsimp only
  -- no header, an untrusted peer, or a value that does not parse
  split
  · rfl
  · rename_i hne
    split
    · rfl
    · rename_i htrusted
      cases hparse : ext.parseAddr (trimSpace
          ((split (r.header.get (lit "X-Forwarded-For")) byteComma).headD [])) with
      | error err => rfl
      | ok b =>
          refine absurd ⟨?_, by simpa using hne, hparse⟩ (h b)
          simpa using htrusted

/-- `fillRealIp` finds the client. -/
theorem realIpOf_eq_iff : realIpOf ext rc remoteIp r = a ↔ ClientAt ext rc remoteIp r a := by
  by_cases h : ∃ b, Announced ext rc remoteIp r b
  · obtain ⟨b, hb⟩ := h
    rw [realIpOf_announced hb]
    constructor
    · rintro rfl
      exact Or.inl hb
    · rintro (ha | ⟨hnone, _⟩)
      · rw [← realIpOf_announced hb, realIpOf_announced ha]
      · exact absurd hb (hnone b)
  · have hnone : ∀ b, ¬ Announced ext rc remoteIp r b := fun b hb => h ⟨b, hb⟩
    rw [realIpOf_peer hnone]
    constructor
    · intro ha
      exact Or.inr ⟨hnone, ha⟩
    · rintro (ha | ⟨_, ha⟩)
      · exact absurd ha (hnone a)
      · exact ha

/-! ## §2. The header between two instances. -/

/-- The value `proxyRoute` writes. -/
theorem upstreamHeaderOf_forwardedFor (c : RequestContext) :
    (upstreamHeaderOf ext c).values (lit "X-Forwarded-For")
      = [ext.addrPortString c.remoteIp] := by
  unfold upstreamHeaderOf
  rw [Header.values_set, if_neg (by decide), Header.values_set, if_neg (by decide),
    Header.values_set, if_pos rfl]

/-- What one instance writes announces no client to the next. -/
theorem not_announced (hnetip : StandardNetip ext) {p : AddrPort}
    (hsent : r.header.values (lit "X-Forwarded-For") = [ext.addrPortString p]) (b : Addr) :
    ¬ Announced ext rc remoteIp r b := by
  rintro ⟨_, _, hparse⟩
  have hvalue : r.header.get (lit "X-Forwarded-For") = p.string := by
    unfold Header.get
    rw [hsent, hnetip.addrPortString]
    rfl
  -- an address with a port is not an address
  rw [hvalue, hnetip.parseAddr, parseAddr_addrPort_string] at hparse
  cases hparse

/-- **Two instances agree on the client exactly if the client is the first instance**: the
second, which trusts the first and gets the header `proxyRoute` sends, resolves the address
that the first resolved if and only if that is the address the first connects from. -/
theorem forwarded_iff (hnetip : StandardNetip ext)
    (_htrusts : ∃ p ∈ rc₂.trustedProxies, p.contains remoteIp₂.addr = true)
    (hsent : r₂.header.values (lit "X-Forwarded-For")
      = (upstreamHeaderOf ext (newContext ext out rc₁ remoteIp₁ r₁)).values
          (lit "X-Forwarded-For")) :
    realIpOf ext rc₂ remoteIp₂ r₂ = realIpOf ext rc₁ remoteIp₁ r₁
      ↔ ClientAt ext rc₁ remoteIp₁ r₁ remoteIp₂.addr := by
  rw [upstreamHeaderOf_forwardedFor] at hsent
  -- so the second instance takes its own peer for the client
  rw [realIpOf_peer (not_announced hnetip hsent), eq_comm]
  exact realIpOf_eq_iff

end

/-! ## §3. Two chains of instances. -/

/-- The small platform with the standard `netip` functions. -/
def Ext.netip : Ext :=
  { Ext.small with
    parseAddr := fun s => (Base.parseAddr s).elim (.error (lit "unable to parse IP")) .ok
    addrPortString := AddrPort.string }

theorem netip_standard : StandardNetip Ext.netip where
  parseAddr := by
    intro s a
    show (Base.parseAddr s).elim (Except.error (lit "unable to parse IP")) Except.ok = .ok a ↔ _
    cases Base.parseAddr s with
    | none => simp
    | some b => simp
  addrPortString := fun _ => rfl

/-- A table without routes that trusts the proxies in `10.0.0.0/8`. -/
def trustingConfig : RoutingConfig where
  hosts := ∅
  tlsCertificates := ∅
  defaultTlsCertificate := none
  tcpProxy := []
  requestMiddlewares := []
  trustedProxies := [⟨.v4 0x0A000000, 8⟩]
  errorPage := none

/-- A request for the root of `a.b`. -/
def forwardedRequest (header : Header) : Request where
  method := lit "GET"
  host := lit "a.b"
  url := ⟨[], [], lit "/", [], [], []⟩
  header := header
  tls := true
  remoteAddr := []
  contentLength := 0

/-- The request a second instance gets for a request that a first one, connected to
`remoteIp`, handles. -/
def secondRequest (out : Outcomes) (remoteIp : AddrPort) : Request :=
  forwardedRequest (upstreamHeaderOf Ext.netip
    (newContext Ext.netip out trustingConfig remoteIp (forwardedRequest ∅)))

/-- A client on the first instance's own host keeps its address. -/
theorem forwarded_iff_local : ∃ out,
    realIpOf Ext.netip trustingConfig ⟨.v4 0x0A000009, 4000⟩
        (secondRequest out ⟨.v4 0x0A000009, 5000⟩)
      = realIpOf Ext.netip trustingConfig ⟨.v4 0x0A000009, 5000⟩ (forwardedRequest ∅) := by
  obtain ⟨headerOrder⟩ := (inferInstance : Nonempty (GoMap.RangeChoice GoString (List GoString)))
  refine ⟨Outcomes.small headerOrder, (forwarded_iff netip_standard ?_ rfl).mpr ?_⟩
  · exact ⟨_, List.mem_cons_self, by decide⟩
  · exact realIpOf_eq_iff.mp rfl

/-- **A client lost on the way.**  The first instance sees the client at `203.0.113.7` and
sends `X-Forwarded-For: 203.0.113.7:5000`; the second, which trusts the first, resolves the
address of the first. -/
theorem forwarded_client_lost : ∃ out,
    (secondRequest out ⟨.v4 0xCB007107, 5000⟩).header.values (lit "X-Forwarded-For")
        = [lit "203.0.113.7:5000"]
      ∧ realIpOf Ext.netip trustingConfig ⟨.v4 0xCB007107, 5000⟩ (forwardedRequest ∅)
        = .v4 0xCB007107
      ∧ realIpOf Ext.netip trustingConfig ⟨.v4 0x0A000009, 4000⟩
        (secondRequest out ⟨.v4 0xCB007107, 5000⟩) = .v4 0x0A000009 := by
  obtain ⟨headerOrder⟩ := (inferInstance : Nonempty (GoMap.RangeChoice GoString (List GoString)))
  have hsent : (secondRequest (Outcomes.small headerOrder)
      ⟨.v4 0xCB007107, 5000⟩).header.values (lit "X-Forwarded-For")
        = [Ext.netip.addrPortString ⟨.v4 0xCB007107, 5000⟩] := upstreamHeaderOf_forwardedFor _
  refine ⟨Outcomes.small headerOrder, ?_, rfl,
    realIpOf_peer (not_announced netip_standard hsent)⟩
  rw [hsent]
  decide

end SIngress.Proxy
