/-
  SIngress.Base.Netip — ADDRESSES AND PREFIXES of `net/netip`.

  An address is IPv4 (32 bits) or IPv6 (128 bits and a zone, empty for an
  unscoped address); the zero `netip.Addr` is neither.  `Prefix.contains` is
  `netip.Prefix.Contains`: same family, no zone, and the leading `bits` bits
  agree.
-/
import SIngress.Base.GoString

namespace SIngress.Base

/-- `netip.Addr`. -/
inductive Addr where
  | zero
  | v4 (a : BitVec 32)
  | v6 (a : BitVec 128) (zone : GoString)
  deriving DecidableEq

/-- `netip.AddrPort`. -/
structure AddrPort where
  addr : Addr
  port : BitVec 16
  deriving DecidableEq

/-- `netip.Prefix`. -/
structure Prefix where
  addr : Addr
  bits : Nat
  deriving DecidableEq

/-- `netip.Prefix.Contains`. -/
def Prefix.contains (p : Prefix) (ip : Addr) : Bool :=
  match p.addr, ip with
  | .v4 a, .v4 b => (a ^^^ b) >>> (32 - p.bits) == 0
  | .v6 a _, .v6 b zone => zone.isEmpty && (a ^^^ b) >>> (128 - p.bits) == 0
  | _, _ => false

/-- `netip.AddrPortFrom` with the port of a service, an `int32` cut to `uint16`. -/
def addrPortFrom (ip : Addr) (port : Int) : AddrPort := ⟨ip, BitVec.ofInt 16 port⟩

end SIngress.Base
