/-
  SIngress.Base.NetipText — ADDRESSES AS TEXT: `netip.ParseAddr`, `netip.AddrPort.String`.

  The parser decides by the first dot, colon or percent sign whether the text is
  IPv4 or IPv6; IPv6 text may end in dotted decimal, leave out one run of zero
  groups and carry a zone.  An address with a port is printed `a.b.c.d:port` or
  `[group:…:group%zone]:port`.  §4 says that no printed address with a port is
  accepted by the parser: a bracket is no part of an address, and neither is the
  colon of an IPv4 port.
-/
import Mathlib.Data.List.TakeWhile
import SIngress.Base.Netip

namespace SIngress.Base

def bytePercent : UInt8 := 0x25
def byteBracket : UInt8 := 0x5B

/-! ## §1. Parsing. -/

/-- `parseIPv4Fields`: the value and the number of digits of the field that is being
read, and the fields before it. -/
def parseIPv4Fields : GoString → Nat → Nat → List Nat → Option (List Nat)
  | [], val, _, fields => if fields.length < 3 then none else some (fields ++ [val])
  | b :: rest, val, digLen, fields =>
      if isDecimal b then
        -- no octet has a leading zero
        if digLen = 1 ∧ val = 0 then none
        else
          let val := val * 10 + (b.toNat - 0x30)
          if 255 < val then none else parseIPv4Fields rest val (digLen + 1) fields
      else if b = byteDot then
        if digLen = 0 ∨ rest = [] then none
        else if fields.length = 3 then none
        else parseIPv4Fields rest 0 0 (fields ++ [val])
      else none

/-- `parseIPv4`. -/
def parseIPv4 (s : GoString) : Option Addr :=
  (parseIPv4Fields s 0 0 []).map fun fields =>
    .v4 (BitVec.ofNat 32 (fields.foldl (fun acc field => acc * 256 + field) 0))

/-- The value of a hexadecimal digit. -/
def hexValue (b : UInt8) : Option Nat :=
  if isDecimal b then some (b.toNat - 0x30)
  else if 0x61 ≤ b ∧ b ≤ 0x66 then some (b.toNat - 0x61 + 10)
  else if 0x41 ≤ b ∧ b ≤ 0x46 then some (b.toNat - 0x41 + 10)
  else none

/-- The loop of `parseIPv6`: at most `fuel` more groups, behind the groups read so far;
`ellipsis` is the number of groups before the run that was left out.  The result is the
unread text with both. -/
def parseGroups : Nat → GoString → List Nat → Option Nat →
    Option (GoString × List Nat × Option Nat)
  | 0, s, groups, ellipsis => some (s, groups, ellipsis)
  | fuel + 1, s, groups, ellipsis =>
      let digits := s.takeWhile fun b => (hexValue b).isSome
      if digits.length = 0 ∨ 4 < digits.length then none
      else
        let group := digits.foldl (fun acc b => acc * 16 + (hexValue b).getD 0) 0
        match s.drop digits.length with
        | [] => some ([], groups ++ [group], ellipsis)
        | b :: rest =>
            if b = byteDot then
              -- dotted decimal in place of the last two groups
              if ellipsis = none ∧ groups.length ≠ 6 then none
              else if 8 < groups.length + 2 then none
              else
                match parseIPv4Fields s 0 0 [] with
                | some [x, y, z, w] => some ([], groups ++ [x * 256 + y, z * 256 + w], ellipsis)
                | _ => none
            else if b ≠ byteColon then none
            else
              match rest with
              | [] => none
              | b' :: rest' =>
                  if b' = byteColon then
                    if ellipsis.isSome then none
                    else if rest' = [] then
                      some ([], groups ++ [group], some (groups.length + 1))
                    else parseGroups fuel rest' (groups ++ [group]) (some (groups.length + 1))
                  else parseGroups fuel rest (groups ++ [group]) ellipsis

/-- The end of `parseIPv6`: the whole text must be used, and the run that was left out
stands for at least one group. -/
def expandGroups : GoString × List Nat × Option Nat → Option (List Nat)
  | (s, groups, ellipsis) =>
      if s ≠ [] then none
      else if groups.length < 8 then
        ellipsis.map fun i =>
          groups.take i ++ List.replicate (8 - groups.length) 0 ++ groups.drop i
      else if ellipsis.isSome then none
      else some groups

/-- `parseIPv6`. -/
def parseIPv6 (s : GoString) : Option Addr :=
  let text := s.takeWhile (· != bytePercent)
  let zone := s.drop (text.length + 1)
  if text ≠ s ∧ zone = [] then none
  else
    let parsed :=
      if startsWith text [byteColon, byteColon] then
        if text.length = 2 then some ([], [], some 0)
        else parseGroups 8 (text.drop 2) [] (some 0)
      else parseGroups 8 text [] none
    (parsed.bind expandGroups).map fun groups =>
      .v6 (BitVec.ofNat 128 (groups.foldl (fun acc group => acc * 65536 + group) 0)) zone

/-- `netip.ParseAddr`, without the text of its errors. -/
def parseAddr (s : GoString) : Option Addr :=
  match s.find? fun b => b == byteDot || b == byteColon || b == bytePercent with
  | none => none
  | some b =>
      if b = byteDot then parseIPv4 s
      else if b = byteColon then parseIPv6 s
      else none

/-! ## §2. Printing. -/

/-- The `i`-th byte of an IPv4 address. -/
def octet (a : BitVec 32) (i : Nat) : Nat := (a >>> (8 * (3 - i))).toNat % 256

/-- `string4`. -/
def string4 (a : BitVec 32) : GoString :=
  itoa (octet a 0) ++ byteDot :: (itoa (octet a 1) ++ byteDot ::
    (itoa (octet a 2) ++ byteDot :: itoa (octet a 3)))

/-- `appendHex`. -/
def hexString (n : Nat) : GoString := lit (String.ofList (Nat.toDigits 16 n))

/-- The eight groups of an IPv6 address. -/
def groupsOf (a : BitVec 128) : List Nat :=
  (List.range 8).map fun i => (a >>> (16 * (7 - i))).toNat % 65536

/-- The first of the longest runs of at least two zero groups: its start and its end. -/
def zeroRun (groups : List Nat) : Option (Nat × Nat) :=
  (List.range 8).foldl
    (fun best i =>
      let l := ((groups.drop i).takeWhile (· == 0)).length
      if 2 ≤ l ∧ (best.map fun run => run.2 - run.1).getD 0 < l then some (i, i + l) else best)
    none

/-- Groups with colons between them. -/
def joinGroups (groups : List Nat) : GoString :=
  List.intercalate [byteColon] (groups.map hexString)

/-- `appendTo6` without the zone. -/
def string6 (a : BitVec 128) : GoString :=
  let groups := groupsOf a
  match zeroRun groups with
  | none => joinGroups groups
  | some (start, stop) =>
      joinGroups (groups.take start) ++ lit "::" ++ joinGroups (groups.drop stop)

/-- `netip.Addr.String`; an IPv4 address mapped into IPv6 keeps its dotted form. -/
def Addr.string : Addr → GoString
  | .zero => lit "invalid IP"
  | .v4 a => string4 a
  | .v6 a zone =>
      (if a >>> 32 = 0xFFFF then lit "::ffff:" ++ string4 (a.truncate 32) else string6 a)
        ++ if zone = [] then [] else bytePercent :: zone

/-- `netip.AddrPort.String`. -/
def AddrPort.string (p : AddrPort) : GoString :=
  match p.addr with
  | .zero => lit "invalid AddrPort"
  | .v4 a => string4 a ++ byteColon :: itoa p.port.toNat
  | .v6 a zone =>
      byteBracket :: ((Addr.v6 a zone).string ++ lit "]:" ++ itoa p.port.toNat)

example : parseAddr (lit "2001:db8::68%eth0")
    = some (.v6 0x20010db8000000000000000000000068 (lit "eth0")) := by decide
example : (AddrPort.mk (.v6 0x20010db8000000000000000000000068 []) 80).string
    = lit "[2001:db8::68]:80" := by decide
example : parseAddr (lit "::ffff:10.0.0.1") = some (.v6 0xFFFF0A000001 []) := by decide
example : (AddrPort.mk (.v6 0xFFFF0A000001 []) 80).string = lit "[::ffff:10.0.0.1]:80" := by decide
example : parseAddr (lit "1::2::3") = none ∧ parseAddr (lit "1.2.3.04") = none := by decide

/-! ## §3. What the parsers refuse. -/

/-- A byte of an IPv4 address is a digit or a dot. -/
theorem parseIPv4Fields_bytes {s : GoString} {val digLen : Nat} {fields result : List Nat}
    (h : parseIPv4Fields s val digLen fields = some result) :
    ∀ b ∈ s, isDecimal b = true ∨ b = byteDot := by
  induction s generalizing val digLen fields with
  | nil => exact fun b hb => absurd hb List.not_mem_nil
  | cons b s ih =>
      unfold parseIPv4Fields at h
      intro c hc
      by_cases hdigit : isDecimal b = true
      · rw [if_pos hdigit] at h
        split at h
        · cases h
        · dsimp only at h
          split at h
          · cases h
          · rcases List.mem_cons.mp hc with rfl | hc
            · exact Or.inl hdigit
            · exact ih h c hc
      · rw [if_neg hdigit] at h
        split at h
        · rename_i hdot
          split at h
          · cases h
          · split at h
            · cases h
            · rcases List.mem_cons.mp hc with rfl | hc
              · exact Or.inr hdot
              · exact ih h c hc
        · cases h

/-- Any other byte makes the parser refuse the text. -/
theorem parseIPv4_eq_none {s : GoString} {b : UInt8} (hb : b ∈ s) (hdigit : isDecimal b = false)
    (hdot : b ≠ byteDot) : parseIPv4 s = none := by
  unfold parseIPv4
  cases h : parseIPv4Fields s 0 0 [] with
  | none => rfl
  | some fields =>
      rcases parseIPv4Fields_bytes h b hb with hd | hd
      · rw [hdigit] at hd
        cases hd
      · exact absurd hd hdot

/-- A text that starts with a bracket is no address. -/
theorem parseAddr_bracket (s : GoString) : parseAddr (byteBracket :: s) = none := by
  have h4 : parseIPv4 (byteBracket :: s) = none :=
    parseIPv4_eq_none List.mem_cons_self (by decide) (by decide)
  have h6 : parseIPv6 (byteBracket :: s) = none := by
    have htext : (byteBracket :: s).takeWhile (· != bytePercent)
        = byteBracket :: s.takeWhile (· != bytePercent) := List.takeWhile_cons_of_pos (by decide)
    have hgroups : ∀ t, parseGroups 8 (byteBracket :: t) [] none = none := by
      intro t
      unfold parseGroups
      rw [List.takeWhile_cons_of_neg (by decide)]
      rfl
    unfold parseIPv6
    rw [htext]
    dsimp only
    split
    · rfl
    · have hstart : startsWith (byteBracket :: s.takeWhile (· != bytePercent))
          [byteColon, byteColon] = false := by
        simp [startsWith, List.isPrefixOf, byteBracket, byteColon]
      rw [hstart, if_neg (by decide), hgroups]
      rfl
  unfold parseAddr
  rw [h4, h6]
  split
  · rfl
  · split
    · rfl
    · split <;> rfl

/-! ## §4. No address with a port parses as an address. -/

/-- The bytes of an IPv4 address with its port. -/
theorem string4_port_bytes (a : BitVec 32) (port : Nat) :
    ∀ b ∈ string4 a ++ byteColon :: itoa port,
      isDecimal b = true ∨ b = byteDot ∨ b = byteColon := by
  intro b hb
  simp only [string4, List.append_assoc, List.cons_append, List.mem_append, List.mem_cons] at hb
  rcases hb with h | rfl | h | rfl | h | rfl | h | rfl | h
  · exact Or.inl (isDecimal_of_mem_itoa h)
  · exact Or.inr (Or.inl rfl)
  · exact Or.inl (isDecimal_of_mem_itoa h)
  · exact Or.inr (Or.inl rfl)
  · exact Or.inl (isDecimal_of_mem_itoa h)
  · exact Or.inr (Or.inl rfl)
  · exact Or.inl (isDecimal_of_mem_itoa h)
  · exact Or.inr (Or.inr rfl)
  · exact Or.inl (isDecimal_of_mem_itoa h)

/-- Digits, dots and colons are neither commas nor part of a space character. -/
theorem solid_of_address_byte (b : UInt8) :
    isDecimal b = true ∨ b = byteDot ∨ b = byteColon → Solid b ∧ b ≠ byteComma := by
  have hall : ∀ n : Fin 256, isDecimal (UInt8.ofNat n) = true ∨ UInt8.ofNat n = byteDot
      ∨ UInt8.ofNat n = byteColon → Solid (UInt8.ofNat n) ∧ UInt8.ofNat n ≠ byteComma := by
    decide +kernel
  have hb := hall ⟨b.toNat, b.toNat_lt⟩
  rwa [UInt8.ofNat_toNat] at hb

/-- The first separator in dotted decimal is a dot. -/
theorem find?_string4 (a : BitVec 32) (rest : GoString) :
    (string4 a ++ rest).find? (fun b => b == byteDot || b == byteColon || b == bytePercent)
      = some byteDot := by
  have hnone : (itoa (octet a 0)).find?
      (fun b => b == byteDot || b == byteColon || b == bytePercent) = none := by
    refine List.find?_eq_none.mpr ?_
    intro b hb
    have hdigit := isDecimal_of_mem_itoa hb
    simp only [Bool.or_eq_true, beq_iff_eq]
    rintro ((rfl | rfl) | rfl) <;> exact absurd hdigit (by decide)
  unfold string4
  rw [List.append_assoc, List.find?_append, hnone]
  rfl

/-- The colon in front of the port stops the IPv4 parser. -/
theorem parseAddr_string4_port (a : BitVec 32) (port : Nat) :
    parseAddr (string4 a ++ byteColon :: itoa port) = none := by
  unfold parseAddr
  rw [find?_string4]
  exact parseIPv4_eq_none (List.mem_append_right _ List.mem_cons_self) (by decide) (by decide)

/-- **A printed address with a port is not read back**: the part of it before the first
comma, trimmed, is refused by the address parser. -/
theorem parseAddr_addrPort_string (p : AddrPort) :
    parseAddr (trimSpace ((split p.string byteComma).headD [])) = none := by
  rw [headD_split]
  unfold AddrPort.string
  cases p.addr with
  | zero =>
      dsimp only
      decide
  | v4 a =>
      have hbytes : ∀ b ∈ string4 a ++ byteColon :: itoa p.port.toNat, Solid b ∧ b ≠ byteComma :=
        fun b hb => solid_of_address_byte b (string4_port_bytes a p.port.toNat b hb)
      dsimp only
      rw [List.takeWhile_eq_self_iff.mpr (fun b hb => by simpa using (hbytes b hb).2),
        trimSpace_eq_self (fun b hb => (hbytes b hb).1), parseAddr_string4_port]
  | v6 a zone =>
      dsimp only
      rw [List.takeWhile_cons_of_pos (by decide)]
      obtain ⟨rest, hrest⟩ := trimSpace_cons (b := byteBracket) (by decide)
        (((Addr.v6 a zone).string ++ lit "]:" ++ itoa p.port.toNat).takeWhile (· != byteComma))
      rw [hrest, parseAddr_bracket]

end SIngress.Base
