/-
  SIngress.Proxy.ProxyHeader — THE PROXY PROTOCOL LINE READ BY THE BACKEND.

  `getProxyHeader` writes one line in front of a relayed stream; `decodeV1` is
  the backend's side of version 1 of the protocol:

      PROXY SP (TCP4 | TCP6) SP source SP destination SP port SP port CR LF

  with plain addresses of the announced family, decimal ports and at most 107
  bytes.

  * `proxyLine_eq`           — the line is six words with blanks between them.
  * `decodeV1_unscoped`      — nothing but plain addresses is decoded.
  * `proxyHeader_decodes_iff` — the line gives the connection's addresses and
                               ports exactly where neither address has a zone.
-/
import SIngress.Base.NetipPrint
import SIngress.Proxy.Relay

namespace SIngress.Proxy

open SIngress.Base SIngress.Lib

/-! ## §1. The decoder. -/

def byteBlank : UInt8 := 0x20

def crlf : GoString := [0x0D, 0x0A]

/-- A plain literal of the announced family. -/
def decodeAddr (family literal : GoString) : Option Addr :=
  match parseAddr literal with
  | some (.v4 a) => if family = lit "TCP4" then some (.v4 a) else none
  | some (.v6 a []) => if family = lit "TCP6" then some (.v6 a []) else none
  | _ => none

/-- A decimal number up to 65535 without leading zeros. -/
def decodePort (text : GoString) : Option (BitVec 16) :=
  let port := text.foldl (fun acc b => acc * 10 + (hexValue b).getD 0) 0
  if text ≠ [] ∧ text.all isDecimal = true ∧ (text.head? = some 0x30 → text.length = 1)
      ∧ port ≤ 65535 then
    some (BitVec.ofNat 16 port)
  else none

/-- The words of a line. -/
def decodeWords : List GoString → Option (AddrPort × AddrPort)
  | [signature, family, source, destination, sourcePort, destinationPort] =>
      if signature = lit "PROXY" then do
        let sourceAddr ← decodeAddr family source
        let destinationAddr ← decodeAddr family destination
        let sport ← decodePort sourcePort
        let dport ← decodePort destinationPort
        pure (⟨sourceAddr, sport⟩, ⟨destinationAddr, dport⟩)
      else none
  | _ => none

/-- The source and the destination a version 1 line announces. -/
def decodeV1 (line : GoString) : Option (AddrPort × AddrPort) :=
  if 107 < line.length then none
  else if crlf.isSuffixOf line then
    decodeWords (split (line.take (line.length - crlf.length)) byteBlank)
  else none

/-! ## §2. What is decoded is plain. -/

theorem decodeAddr_unscoped {family literal : GoString} {addr : Addr}
    (h : decodeAddr family literal = some addr) : addr.Unscoped := by
  unfold decodeAddr at h
  split at h
  · split at h
    · cases h
      exact True.intro
    · cases h
  · split at h
    · cases h
      rfl
    · cases h
  · cases h

/-- **A decoded line announces addresses without a zone.** -/
theorem decodeV1_unscoped {line : GoString} {source destination : AddrPort}
    (h : decodeV1 line = some (source, destination)) :
    source.addr.Unscoped ∧ destination.addr.Unscoped := by
  unfold decodeV1 at h
  split at h
  · cases h
  · split at h
    · unfold decodeWords at h
      split at h
      · split at h
        · simp only [Option.bind_eq_bind, Option.bind_eq_some_iff, Option.pure_def,
            Option.some.injEq, Prod.mk.injEq] at h
          obtain ⟨sourceAddr, hsource, destinationAddr, hdestination, _, _, _, _, rfl, rfl⟩ := h
          exact ⟨decodeAddr_unscoped hsource, decodeAddr_unscoped hdestination⟩
        · cases h
      · cases h
    · cases h

/-! ## §3. What is written is decoded. -/

theorem decodeAddr_string4 (a : BitVec 32) :
    decodeAddr (lit "TCP4") (Addr.v4 a).string = some (.v4 a) := by
  unfold decodeAddr
  rw [@parseAddr_string (.v4 a) True.intro]
  rfl

theorem decodeAddr_string6 (a : BitVec 128) :
    decodeAddr (lit "TCP6") (Addr.v6 a []).string = some (.v6 a []) := by
  unfold decodeAddr
  rw [@parseAddr_string (.v6 a []) rfl]
  rfl

theorem itoa_length (port : BitVec 16) : (itoa port.toNat).length ≤ 5 := by
  have hlt := port.isLt
  exact @numeral_length_le 10 (by decide) (by decide) 4 port.toNat (by omega)

/-- A printed port reads back. -/
theorem decodePort_itoa (port : BitVec 16) : decodePort (itoa port.toNat) = some port := by
  have hlt := port.isLt
  have hvalue : (itoa port.toNat).foldl (fun acc b => acc * 10 + (hexValue b).getD 0) 0 = port.toNat :=
    @numeral_value 10 (by decide) (by decide) port.toNat
  have hne : itoa port.toNat ≠ [] := @numeral_ne_nil 10 (by decide) (by decide) port.toNat
  have hall : (itoa port.toNat).all isDecimal = true :=
    List.all_eq_true.mpr fun b hb => isDecimal_of_mem_itoa hb
  have hzero : (itoa port.toNat).head? = some 0x30 → (itoa port.toNat).length = 1 := by
    intro hhead
    rw [@numeral_head 10 (by decide) (by decide) port.toNat hhead]
    rfl
  unfold decodePort
  dsimp only
  rw [hvalue, if_pos ⟨hne, hall, hzero, by omega⟩, BitVec.ofNat_toNat, BitVec.setWidth_eq]

theorem blank_not_mem_itoa (n : Nat) : byteBlank ∉ itoa n := fun hmem =>
  absurd (isDecimal_of_mem_itoa hmem) (by decide)

/-- Six words with blanks between them. -/
def wordsLine (family : GoString) (remoteAddr localAddr : AddrPort) : GoString :=
  lit "PROXY" ++ byteBlank :: (family ++ byteBlank :: (remoteAddr.addr.string ++ byteBlank ::
    (localAddr.addr.string ++ byteBlank :: (itoa remoteAddr.port.toNat ++ byteBlank ::
      itoa localAddr.port.toNat))))

/-- What `getProxyHeader` writes is such a line. -/
theorem proxyLine_eq (family : GoString) (remoteAddr localAddr : AddrPort) :
    lit "PROXY " ++ proxyLine (family ++ lit " ") remoteAddr localAddr
      = wordsLine family remoteAddr localAddr ++ crlf := by
  have hsignature : lit "PROXY " = lit "PROXY" ++ [byteBlank] := rfl
  have hblank : lit " " = [byteBlank] := rfl
  unfold proxyLine wordsLine
  rw [hsignature, hblank]
  simp only [List.append_assoc, List.cons_append, List.nil_append]
  rfl

section

variable {family : GoString} {remoteAddr localAddr : AddrPort}

theorem wordsLine_length (hfamily : family.length = 4) (hremote : remoteAddr.addr.Unscoped)
    (hlocal : localAddr.addr.Unscoped) :
    (wordsLine family remoteAddr localAddr).length ≤ 102 := by
  have hsource := (Addr.string_short hremote).1
  have hdestination := (Addr.string_short hlocal).1
  have hsport := itoa_length remoteAddr.port
  have hdport := itoa_length localAddr.port
  unfold wordsLine
  simp only [List.length_append, List.length_cons]
  show 5 + _ ≤ 102
  omega

theorem split_wordsLine (hfamily : byteBlank ∉ family) (hremote : remoteAddr.addr.Unscoped)
    (hlocal : localAddr.addr.Unscoped) :
    split (wordsLine family remoteAddr localAddr) byteBlank
      = [lit "PROXY", family, remoteAddr.addr.string, localAddr.addr.string,
          itoa remoteAddr.port.toNat, itoa localAddr.port.toNat] := by
  have hsignature : byteBlank ∉ lit "PROXY" := by decide
  have hsource : byteBlank ∉ remoteAddr.addr.string := (Addr.string_short hremote).2
  have hdestination : byteBlank ∉ localAddr.addr.string := (Addr.string_short hlocal).2
  unfold wordsLine
  rw [split_append_sep, split_of_not_mem hsignature, split_append_sep, split_of_not_mem hfamily,
    split_append_sep, split_of_not_mem hsource, split_append_sep, split_of_not_mem hdestination,
    split_append_sep, split_of_not_mem (blank_not_mem_itoa _),
    split_of_not_mem (blank_not_mem_itoa _)]
  rfl

/-- **The line of two unscoped addresses** is short enough and splits into its six words. -/
theorem decodeV1_proxyLine (hfamily : byteBlank ∉ family) (hlen : family.length = 4)
    (hremote : remoteAddr.addr.Unscoped) (hlocal : localAddr.addr.Unscoped) :
    decodeV1 (lit "PROXY " ++ proxyLine (family ++ lit " ") remoteAddr localAddr)
      = decodeWords [lit "PROXY", family, remoteAddr.addr.string, localAddr.addr.string,
          itoa remoteAddr.port.toNat, itoa localAddr.port.toNat] := by
  have hshort : ¬ 107 < (wordsLine family remoteAddr localAddr ++ crlf).length := by
    have hwords := wordsLine_length hlen hremote hlocal
    rw [List.length_append]
    show ¬ 107 < _ + 2
    omega
  have hend : crlf.isSuffixOf (wordsLine family remoteAddr localAddr ++ crlf) = true :=
    List.isSuffixOf_iff_suffix.mpr (List.suffix_append _ _)
  rw [proxyLine_eq]
  unfold decodeV1
  rw [if_neg hshort, if_pos hend, List.length_append, Nat.add_sub_cancel, List.take_left,
    split_wordsLine hfamily hremote hlocal]

/-- The words give the connection, where the addresses read back in the announced family. -/
theorem decodeWords_of_addresses
    (hsource : decodeAddr family remoteAddr.addr.string = some remoteAddr.addr)
    (hdestination : decodeAddr family localAddr.addr.string = some localAddr.addr) :
    decodeWords [lit "PROXY", family, remoteAddr.addr.string, localAddr.addr.string,
        itoa remoteAddr.port.toNat, itoa localAddr.port.toNat] = some (remoteAddr, localAddr) := by
  unfold decodeWords
  dsimp only
  rw [if_pos rfl, hsource, hdestination, decodePort_itoa, decodePort_itoa]
  rfl

end

/-! ## §4. The connection announced. -/

/-- Both addresses are IPv4, or both are IPv6. -/
def SameFamily : Addr → Addr → Prop
  | .v4 _, .v4 _ => True
  | .v6 _ _, .v6 _ _ => True
  | _, _ => False

theorem decodeV1_getProxyHeader {remoteAddr localAddr : AddrPort}
    (hfamily : SameFamily remoteAddr.addr localAddr.addr) (hremote : remoteAddr.addr.Unscoped)
    (hlocal : localAddr.addr.Unscoped) :
    decodeV1 (getProxyHeader remoteAddr localAddr) = some (remoteAddr, localAddr) := by
  obtain ⟨source, sport⟩ := remoteAddr
  obtain ⟨destination, dport⟩ := localAddr
  dsimp only at hfamily hremote hlocal
  unfold getProxyHeader
  cases source with
  | zero => exact absurd hremote not_false
  | v4 a =>
      cases destination with
      | zero => exact absurd hlocal not_false
      | v6 b zone => exact absurd hfamily not_false
      | v4 b =>
          have hline := @decodeV1_proxyLine (lit "TCP4") ⟨.v4 a, sport⟩ ⟨.v4 b, dport⟩ (by decide)
            rfl hremote hlocal
          exact hline.trans (decodeWords_of_addresses (decodeAddr_string4 a) (decodeAddr_string4 b))
  | v6 a zone =>
      obtain rfl : zone = [] := hremote
      cases destination with
      | zero => exact absurd hlocal not_false
      | v4 b => exact absurd hfamily not_false
      | v6 b zone =>
          obtain rfl : zone = [] := hlocal
          have hline := @decodeV1_proxyLine (lit "TCP6") ⟨.v6 a [], sport⟩ ⟨.v6 b [], dport⟩
            (by decide) rfl rfl rfl
          exact hline.trans (decodeWords_of_addresses (decodeAddr_string6 a) (decodeAddr_string6 b))

/-- **The backend reads the connection off the line exactly where neither address has a
zone**, for all addresses of one family and all ports. -/
theorem proxyHeader_decodes_iff {remoteAddr localAddr : AddrPort}
    (hfamily : SameFamily remoteAddr.addr localAddr.addr) :
    decodeV1 (getProxyHeader remoteAddr localAddr) = some (remoteAddr, localAddr)
      ↔ remoteAddr.addr.Unscoped ∧ localAddr.addr.Unscoped := by
  constructor
  · exact decodeV1_unscoped
  · rintro ⟨hremote, hlocal⟩
    exact decodeV1_getProxyHeader hfamily hremote hlocal

/-- The line of a connection between a mapped and a plain IPv6 address. -/
theorem proxyHeader_mapped :
    decodeV1 (getProxyHeader ⟨.v6 0xFFFF0A000001 [], 40000⟩
        ⟨.v6 0x20010db8000000000000000000000068 [], 443⟩)
      = some (⟨.v6 0xFFFF0A000001 [], 40000⟩,
          ⟨.v6 0x20010db8000000000000000000000068 [], 443⟩) :=
  (@proxyHeader_decodes_iff ⟨.v6 0xFFFF0A000001 [], 40000⟩
    ⟨.v6 0x20010db8000000000000000000000068 [], 443⟩ True.intro).mpr ⟨rfl, rfl⟩

/-- **A link-local client cannot be relayed**: its zone is printed into the line, and the
line is refused. -/
theorem proxyHeader_scoped :
    getProxyHeader ⟨.v6 0xfe800000000000000000000000000001 (lit "eth0"), 40000⟩
        ⟨.v6 0xfe800000000000000000000000000002 (lit "eth0"), 25⟩
      = lit "PROXY TCP6 fe80::1%eth0 fe80::2%eth0 40000 25\r\n"
    ∧ decodeV1 (getProxyHeader ⟨.v6 0xfe800000000000000000000000000001 (lit "eth0"), 40000⟩
        ⟨.v6 0xfe800000000000000000000000000002 (lit "eth0"), 25⟩) = none := by
  decide

end SIngress.Proxy
