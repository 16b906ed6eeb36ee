/-
  SIngress.Base.NetipPrint — PRINTED ADDRESSES READ BACK.

  `netip.Addr.String` writes IPv4 in dotted decimal, IPv6 in groups with the
  first longest run of zero groups left out, and an IPv4 address mapped into
  IPv6 as `::ffff:` and dotted decimal.  The parser is a loop over the text; the
  proofs follow it field by field and group by group.

  * `numeral_value`        — a printed number reads back, in any base up to 16.
  * `parseIPv4Fields_string4` — the four fields of dotted decimal.
  * `parseGroups_join`     — groups with colons between them.
  * `zeroRun_spec`         — what is left out is a run of zero groups.
  * `parseAddr_string`     — every unscoped address reads back.
-/
import SIngress.Base.NetipText
import SIngress.Lib.Digits

namespace SIngress.Base

open SIngress.Lib

/-! ## §1. Numbers. -/

/-- A number in a base up to 16, as the printers write it. -/
def numeral (base n : Nat) : GoString := lit (String.ofList (Nat.toDigits base n))

theorem itoa_eq_numeral (n : Nat) : itoa n = numeral 10 n := rfl

theorem hexString_eq_numeral (n : Nat) : hexString n = numeral 16 n := rfl

/-- The byte of a digit. -/
def digitByte (d : Nat) : UInt8 := UInt8.ofNat (Nat.digitChar d).val.toNat

/-- A digit is one byte, which has its value and is no separator. -/
structure DigitByte (d : Nat) : Prop where
  encode : String.utf8EncodeChar (Nat.digitChar d) = [digitByte d]
  value : hexValue (digitByte d) = some d
  plain : digitByte d ∉ [0x20, byteColon, byteDot, bytePercent]
  zero : digitByte d = 0x30 → d = 0

theorem digitByte_spec {d : Nat} (hd : d < 16) : DigitByte d := by
  have hall : ∀ d : Fin 16, String.utf8EncodeChar (Nat.digitChar d) = [digitByte d]
      ∧ hexValue (digitByte d) = some (d : Nat)
      ∧ digitByte d ∉ [0x20, byteColon, byteDot, bytePercent]
      ∧ (digitByte d = 0x30 → (d : Nat) = 0) := by decide
  obtain ⟨hencode, hvalue, hplain, hzero⟩ := hall ⟨d, hd⟩
  exact ⟨hencode, hvalue, hplain, hzero⟩

section

variable {base : Nat}

/-- The last digit comes off the end. -/
theorem numeral_eq (hbase : 1 < base) (hle : base ≤ 16) (n : Nat) :
    numeral base n
      = (if n < base then [] else numeral base (n / base)) ++ [digitByte (n % base)] := by
  have hutf : ∀ cs : List Char, lit (String.ofList cs) = cs.flatMap String.utf8EncodeChar := by
    intro cs
    simp [lit, List.utf8Encode]
  have hdigit : n % base < 16 := Nat.lt_of_lt_of_le (Nat.mod_lt n (by omega)) hle
  have hbyte := (digitByte_spec hdigit).encode
  unfold numeral
  rw [hutf, Nat.toDigits_eq_if hbase]
  by_cases hn : n < base
  · rw [Nat.mod_eq_of_lt hn] at hbyte ⊢
    rw [if_pos hn, if_pos hn, List.flatMap_cons, hbyte]
    rfl
  · rw [if_neg hn, if_neg hn, List.flatMap_append, hutf, List.flatMap_cons, hbyte]
    rfl

theorem numeral_ne_nil (hbase : 1 < base) (hle : base ≤ 16) (n : Nat) : numeral base n ≠ [] := by
  rw [numeral_eq hbase hle]
  simp

/-- The bytes of a number are digits. -/
theorem mem_numeral (hbase : 1 < base) (hle : base ≤ 16) {n : Nat} {b : UInt8}
    (hb : b ∈ numeral base n) : ∃ d < base, b = digitByte d := by
  induction n using Nat.strong_induction_on with
  | _ n ih =>
      rw [numeral_eq hbase hle, List.mem_append, List.mem_singleton] at hb
      obtain hb | rfl := hb
      · by_cases hn : n < base
        · rw [if_pos hn] at hb
          exact absurd hb List.not_mem_nil
        · rw [if_neg hn] at hb
          exact ih (n / base) (Nat.div_lt_self (by omega) hbase) hb
      · exact ⟨n % base, Nat.mod_lt n (by omega), rfl⟩

/-- **A printed number reads back.** -/
theorem numeral_value (hbase : 1 < base) (hle : base ≤ 16) (n : Nat) :
    (numeral base n).foldl (fun acc b => acc * base + (hexValue b).getD 0) 0 = n := by
  induction n using Nat.strong_induction_on with
  | _ n ih =>
      have hdigit : n % base < 16 := Nat.lt_of_lt_of_le (Nat.mod_lt n (by omega)) hle
      rw [numeral_eq hbase hle, List.foldl_append, List.foldl_cons, List.foldl_nil,
        (digitByte_spec hdigit).value, Option.getD_some]
      by_cases hn : n < base
      · rw [if_pos hn, List.foldl_nil, Nat.mod_eq_of_lt hn]
        omega
      · rw [if_neg hn, ih (n / base) (Nat.div_lt_self (by omega) hbase)]
        exact Nat.div_add_mod' n base

/-- A number below a power of the base has no more digits than the exponent. -/
theorem numeral_length_le (hbase : 1 < base) (hle : base ≤ 16) {k n : Nat} (hn : n < base ^ (k + 1)) :
    (numeral base n).length ≤ k + 1 := by
  induction k generalizing n with
  | zero =>
      rw [Nat.zero_add, Nat.pow_one] at hn
      rw [numeral_eq hbase hle, if_pos hn]
      simp
  | succ k ih =>
      rw [numeral_eq hbase hle, List.length_append, List.length_singleton]
      by_cases hlt : n < base
      · rw [if_pos hlt]
        simp
      · rw [if_neg hlt]
        have hdiv : n / base < base ^ (k + 1) := by
          rw [Nat.div_lt_iff_lt_mul (by omega)]
          rwa [Nat.pow_succ] at hn
        have hlen := ih hdiv
        omega

/-- No number but zero starts with a zero. -/
theorem numeral_head (hbase : 1 < base) (hle : base ≤ 16) {n : Nat}
    (hhead : (numeral base n).head? = some 0x30) : n = 0 := by
  induction n using Nat.strong_induction_on with
  | _ n ih =>
      have hdigit : n % base < 16 := Nat.lt_of_lt_of_le (Nat.mod_lt n (by omega)) hle
      rw [numeral_eq hbase hle] at hhead
      by_cases hn : n < base
      · rw [if_pos hn, List.nil_append, List.head?_cons, Option.some.injEq] at hhead
        have hzero := (digitByte_spec hdigit).zero hhead
        rwa [Nat.mod_eq_of_lt hn] at hzero
      · -- then the digits before the last one are those of a smaller number, not zero
        rw [if_neg hn, List.head?_append_of_ne_nil _ (numeral_ne_nil hbase hle _)] at hhead
        have hzero := ih (n / base) (Nat.div_lt_self (by omega) hbase) hhead
        have hlt := (Nat.div_eq_zero_iff_lt (by omega)).mp hzero
        exact absurd hlt hn

end

/-! ## §2. Dotted decimal. -/

/-- The digits of one field, as `parseIPv4Fields` reads them: the value and the number of
digits. -/
def readOctet : GoString → Nat → Nat → Option (Nat × Nat)
  | [], val, digLen => some (val, digLen)
  | b :: rest, val, digLen =>
      if isDecimal b = true ∧ ¬ (digLen = 1 ∧ val = 0) ∧ ¬ 255 < val * 10 + (b.toNat - 0x30) then
        readOctet rest (val * 10 + (b.toNat - 0x30)) (digLen + 1)
      else none

theorem parseIPv4Fields_digits {text : GoString} {val digLen val' digLen' : Nat}
    (h : readOctet text val digLen = some (val', digLen')) (rest : GoString) (fields : List Nat) :
    parseIPv4Fields (text ++ rest) val digLen fields
      = parseIPv4Fields rest val' digLen' fields := by
  induction text generalizing val digLen with
  | nil =>
      cases h
      rfl
  | cons b text ih =>
      unfold readOctet at h
      by_cases hb : isDecimal b = true ∧ ¬ (digLen = 1 ∧ val = 0)
          ∧ ¬ 255 < val * 10 + (b.toNat - 0x30)
      · rw [if_pos hb] at h
        rw [List.cons_append, parseIPv4Fields, if_pos hb.1, if_neg hb.2.1, if_neg hb.2.2, ih h]
      · rw [if_neg hb] at h
        cases h

/-- A printed octet is one field. -/
theorem parseIPv4Fields_itoa {n : Nat} (hn : n < 256) (rest : GoString) (fields : List Nat) :
    parseIPv4Fields (itoa n ++ rest) 0 0 fields
      = parseIPv4Fields rest n (itoa n).length fields := by
  have hall : ∀ n : Fin 256, readOctet (itoa n.val) 0 0 = some (n.val, (itoa n.val).length) := by
    decide +kernel
  exact parseIPv4Fields_digits (hall ⟨n, hn⟩) rest fields

theorem parseIPv4Fields_dot {rest : GoString} {val digLen : Nat} {fields : List Nat}
    (hlen : digLen ≠ 0) (hrest : rest ≠ []) (hfields : fields.length ≠ 3) :
    parseIPv4Fields (byteDot :: rest) val digLen fields
      = parseIPv4Fields rest 0 0 (fields ++ [val]) := by
  rw [parseIPv4Fields, if_neg (by decide), if_pos rfl, if_neg (by simp [hlen, hrest]),
    if_neg hfields]

/-- **The four fields of a printed IPv4 address.** -/
theorem parseIPv4Fields_string4 (a : BitVec 32) :
    parseIPv4Fields (string4 a) 0 0 [] = some [octet a 0, octet a 1, octet a 2, octet a 3] := by
  have hlt : ∀ i, octet a i < 256 := fun i => Nat.mod_lt _ (by decide)
  have hlen : ∀ n : Nat, (itoa n).length ≠ 0 := fun n h =>
    numeral_ne_nil (by decide) (by decide) n (List.length_eq_zero_iff.mp h)
  have hne : ∀ (n : Nat) (rest : GoString), itoa n ++ rest ≠ [] := fun n rest h =>
    numeral_ne_nil (by decide) (by decide) n (List.append_eq_nil_iff.mp h).1
  have hlast : itoa (octet a 3) ≠ [] := numeral_ne_nil (by decide) (by decide) _
  unfold string4
  rw [parseIPv4Fields_itoa (hlt 0), parseIPv4Fields_dot (hlen _) (hne _ _) (by simp),
    parseIPv4Fields_itoa (hlt 1), parseIPv4Fields_dot (hlen _) (hne _ _) (by simp),
    parseIPv4Fields_itoa (hlt 2), parseIPv4Fields_dot (hlen _) hlast (by simp),
    ← List.append_nil (itoa (octet a 3)), parseIPv4Fields_itoa (hlt 3)]
  rfl

/-- The octets are the digits of the address in base 256. -/
theorem octets_eq_digits (a : BitVec 32) :
    [octet a 0, octet a 1, octet a 2, octet a 3] = digits 256 4 a.toNat := by
  show (List.range 4).map (octet a) = digits 256 4 a.toNat
  unfold digits
  apply List.map_congr_left
  intro i _
  unfold octet
  rw [BitVec.toNat_ushiftRight, Nat.shiftRight_eq_div_pow, Nat.pow_mul]

theorem value_octets (a : BitVec 32) :
    value 256 0 [octet a 0, octet a 1, octet a 2, octet a 3] = a.toNat := by
  rw [octets_eq_digits]
  exact value_digits a.isLt

/-- **A printed IPv4 address reads back.** -/
theorem parseIPv4_string4 (a : BitVec 32) : parseIPv4 (string4 a) = some (.v4 a) := by
  unfold parseIPv4
  rw [parseIPv4Fields_string4, Option.map_some]
  have hvalue := value_octets a
  unfold value at hvalue
  rw [hvalue, BitVec.ofNat_toNat, BitVec.setWidth_eq]

/-! ## §3. Groups. -/

/-- The groups are the digits of the address in base 65536. -/
theorem groupsOf_eq_digits (a : BitVec 128) : groupsOf a = digits 65536 8 a.toNat := by
  unfold groupsOf digits
  apply List.map_congr_left
  intro i _
  rw [BitVec.toNat_ushiftRight, Nat.shiftRight_eq_div_pow, Nat.pow_mul]

theorem value_groupsOf (a : BitVec 128) : value 65536 0 (groupsOf a) = a.toNat := by
  rw [groupsOf_eq_digits]
  exact value_digits a.isLt

theorem groupsOf_lt (a : BitVec 128) : ∀ g ∈ groupsOf a, g < 65536 := by
  rw [groupsOf_eq_digits]
  exact digits_lt (by decide) 8 a.toNat

@[simp] theorem length_groupsOf (a : BitVec 128) : (groupsOf a).length = 8 := by
  rw [groupsOf_eq_digits, length_digits]

@[simp] theorem joinGroups_nil : joinGroups [] = [] := rfl

@[simp] theorem joinGroups_singleton (g : Nat) : joinGroups [g] = hexString g := by
  unfold joinGroups
  simp

theorem joinGroups_cons (g : Nat) {gs : List Nat} (hgs : gs ≠ []) :
    joinGroups (g :: gs) = hexString g ++ byteColon :: joinGroups gs := by
  obtain ⟨g', gs, rfl⟩ := List.exists_cons_of_ne_nil hgs
  unfold joinGroups
  simp [List.intercalate_cons_cons]

theorem mem_hexString {g : Nat} {b : UInt8} (hb : b ∈ hexString g) : ∃ d < 16, b = digitByte d :=
  @mem_numeral 16 (by decide) (by decide) g b hb

theorem hexString_head (g : Nat) : ∃ d < 16, ∃ rest, hexString g = digitByte d :: rest := by
  obtain ⟨b, rest, hb⟩ := List.exists_cons_of_ne_nil
    (@numeral_ne_nil 16 (by decide) (by decide) g)
  obtain ⟨d, hd, rfl⟩ := @mem_hexString g b (by rw [hexString_eq_numeral, hb]; simp)
  exact ⟨d, hd, rest, hb⟩

/-- A group of at most four digits is cut off in front of what is no digit. -/
theorem takeWhile_hexString (g : Nat) {rest : GoString}
    (hrest : rest.takeWhile (fun b => (hexValue b).isSome) = []) :
    (hexString g ++ rest).takeWhile (fun b => (hexValue b).isSome) = hexString g := by
  have hhex : ∀ b ∈ hexString g, (hexValue b).isSome = true := by
    intro b hb
    obtain ⟨d, hd, rfl⟩ := mem_hexString hb
    rw [(digitByte_spec hd).value]
    rfl
  rw [List.takeWhile_append_of_pos hhex, hrest, List.append_nil]

theorem hexString_length {g : Nat} (hg : g < 65536) :
    ¬ ((hexString g).length = 0 ∨ 4 < (hexString g).length) := by
  have hle : (hexString g).length ≤ 3 + 1 :=
    @numeral_length_le 16 (by decide) (by decide) 3 g (by simpa using hg)
  have hne := @numeral_ne_nil 16 (by decide) (by decide) g
  have hpos := List.length_pos_iff.mpr hne
  rw [← hexString_eq_numeral] at hpos
  omega

theorem hexString_value (g : Nat) :
    (hexString g).foldl (fun acc b => acc * 16 + (hexValue b).getD 0) 0 = g :=
  @numeral_value 16 (by decide) (by decide) g

/-- Joined groups begin with a digit. -/
theorem joinGroups_head {gs : List Nat} (hgs : gs ≠ []) :
    ∃ d < 16, ∃ rest, joinGroups gs = digitByte d :: rest := by
  obtain ⟨g, gs, rfl⟩ := List.exists_cons_of_ne_nil hgs
  obtain ⟨d, hd, rest, hg⟩ := hexString_head g
  by_cases hrest : gs = []
  · subst hrest
    rw [joinGroups_singleton]
    exact ⟨d, hd, rest, hg⟩
  · rw [joinGroups_cons g hrest, hg]
    exact ⟨d, hd, _, rfl⟩

theorem digitByte_ne_colon {d : Nat} (hd : d < 16) : digitByte d ≠ byteColon := by
  intro h
  exact (digitByte_spec hd).plain (by rw [h]; decide)

/-! ## §4. The loop of `parseIPv6` over printed groups. -/

section

variable {fuel : Nat} {g : Nat} {groups : List Nat} {ellipsis : Option Nat}

/-- The last group. -/
theorem parseGroups_last (hg : g < 65536) :
    parseGroups (fuel + 1) (hexString g) groups ellipsis = some ([], groups ++ [g], ellipsis) := by
  have htake := @takeWhile_hexString g [] rfl
  rw [List.append_nil] at htake
  rw [parseGroups]
  dsimp only
  rw [htake, if_neg (hexString_length hg), hexString_value, List.drop_length]

/-- A group with a colon behind it. -/
theorem parseGroups_colon (hg : g < 65536) (rest : GoString) :
    parseGroups (fuel + 1) (hexString g ++ byteColon :: rest) groups ellipsis
      = match rest with
        | [] => none
        | b' :: rest' =>
            if b' = byteColon then
              if ellipsis.isSome then none
              else if rest' = [] then some ([], groups ++ [g], some (groups.length + 1))
              else parseGroups fuel rest' (groups ++ [g]) (some (groups.length + 1))
            else parseGroups fuel rest (groups ++ [g]) ellipsis := by
  have htake := @takeWhile_hexString g (byteColon :: rest) rfl
  rw [parseGroups]
  dsimp only
  rw [htake, if_neg (hexString_length hg), hexString_value, List.drop_left]
  dsimp only
  rw [if_neg (by decide), if_neg (by decide)]
  cases rest with
  | nil => rfl
  | cons b' rest' => rfl

/-- A group with another one behind it. -/
theorem parseGroups_next (hg : g < 65536) {gs : List Nat} (hgs : gs ≠ []) (tail : GoString) :
    parseGroups (fuel + 1) (hexString g ++ byteColon :: (joinGroups gs ++ tail)) groups ellipsis
      = parseGroups fuel (joinGroups gs ++ tail) (groups ++ [g]) ellipsis := by
  obtain ⟨d, hd, rest, hjoin⟩ := joinGroups_head hgs
  rw [parseGroups_colon hg, hjoin, List.cons_append]
  exact if_neg (digitByte_ne_colon hd)

/-- **Printed groups read back.** -/
theorem parseGroups_join {gs : List Nat} (hgs : gs ≠ []) (hlt : ∀ g ∈ gs, g < 65536)
    (hfuel : gs.length ≤ fuel) :
    parseGroups fuel (joinGroups gs) groups ellipsis = some ([], groups ++ gs, ellipsis) := by
  induction gs generalizing fuel groups with
  | nil => exact absurd rfl hgs
  | cons g gs ih =>
      rw [List.length_cons] at hfuel
      obtain ⟨fuel, rfl⟩ := Nat.exists_eq_succ_of_ne_zero (show fuel ≠ 0 by omega)
      have hg := hlt g List.mem_cons_self
      by_cases hrest : gs = []
      · subst hrest
        rw [joinGroups_singleton]
        exact parseGroups_last hg
      · have hnext := @parseGroups_next fuel g groups ellipsis hg gs hrest []
        rw [List.append_nil] at hnext
        rw [joinGroups_cons g hrest, hnext,
          ih hrest (fun g hg => hlt g (List.mem_cons_of_mem _ hg)) (by omega),
          List.append_assoc, List.singleton_append]

/-- **Groups around a run that was left out read back**, with its position. -/
theorem parseGroups_ellipsis {pre post : List Nat} (hpre : pre ≠ [])
    (hlt : ∀ g ∈ pre ++ post, g < 65536) (hfuel : pre.length + post.length ≤ fuel) :
    parseGroups fuel (joinGroups pre ++ (lit "::" ++ joinGroups post)) groups none
      = some ([], groups ++ pre ++ post, some (groups.length + pre.length)) := by
  induction pre generalizing fuel groups with
  | nil => exact absurd rfl hpre
  | cons g pre ih =>
      rw [List.length_cons] at hfuel
      obtain ⟨fuel, rfl⟩ := Nat.exists_eq_succ_of_ne_zero (show fuel ≠ 0 by omega)
      have hg := hlt g (by simp)
      by_cases hrest : pre = []
      · -- the run follows this group
        subst hrest
        rw [joinGroups_singleton]
        show parseGroups (fuel + 1) (hexString g ++ byteColon :: (byteColon :: joinGroups post))
          groups none = _
        rw [parseGroups_colon hg]
        dsimp only
        rw [if_pos rfl, if_neg (by simp)]
        by_cases hpost : post = []
        · subst hpost
          rw [joinGroups_nil, if_pos rfl, List.append_nil]
          rfl
        · obtain ⟨d, _, rest, hjoin⟩ := joinGroups_head hpost
          have hne : joinGroups post ≠ [] := by
            rw [hjoin]
            exact List.cons_ne_nil _ _
          rw [if_neg hne, parseGroups_join hpost (fun g hg => hlt g (by simp [hg]))
            (by rw [List.length_nil] at hfuel; omega)]
          rfl
      · rw [joinGroups_cons g hrest, List.append_assoc, List.cons_append,
          parseGroups_next hg hrest,
          ih hrest (fun g hg => hlt g (List.mem_cons_of_mem _ hg)) (by omega),
          List.length_append, List.length_singleton, List.length_cons]
        simp only [List.append_assoc, List.singleton_append, Option.some.injEq, Prod.mk.injEq,
          true_and]
        omega

end

/-! ## §5. The run that is left out. -/

/-- What a candidate for the run has to be. -/
def IsZeroRun (groups : List Nat) (run : Nat × Nat) : Prop :=
  run.1 + 2 ≤ run.2 ∧ run.2 ≤ groups.length
    ∧ groups = groups.take run.1 ++ List.replicate (run.2 - run.1) 0 ++ groups.drop run.2

/-- A stretch of zeros is a run. -/
theorem isZeroRun_of_takeWhile (groups : List Nat) (i : Nat)
    (hlen : 2 ≤ ((groups.drop i).takeWhile (· == 0)).length) :
    IsZeroRun groups (i, i + ((groups.drop i).takeWhile (· == 0)).length) := by
  have hzeros : (groups.drop i).takeWhile (· == 0)
      = List.replicate ((groups.drop i).takeWhile (· == 0)).length 0 :=
    List.eq_replicate_of_mem fun g hg => by simpa using List.mem_takeWhile_imp hg
  have hsplit := @List.takeWhile_append_dropWhile _ (· == 0) (groups.drop i)
  have hle : ((groups.drop i).takeWhile (· == 0)).length ≤ groups.length - i := by
    rw [← List.length_drop]
    have htaken := List.takeWhile_prefix (fun g : Nat => g == 0) (l := groups.drop i)
    exact htaken.length_le
  generalize (groups.drop i).takeWhile (· == 0) = zeros at *
  have hdrop : groups.drop (i + zeros.length) = (groups.drop i).dropWhile (· == 0) := by
    rw [← List.drop_drop, ← hsplit, List.drop_left]
    rw [hsplit]
  refine ⟨by omega, by omega, ?_⟩
  dsimp only
  rw [hdrop, Nat.add_sub_cancel_left, ← hzeros, List.append_assoc, hsplit, List.take_append_drop]

/-- **What `appendTo6` leaves out is a run of at least two zero groups.** -/
theorem zeroRun_spec {groups : List Nat} {run : Nat × Nat} (h : zeroRun groups = some run) :
    IsZeroRun groups run := by
  -- every candidate the loop keeps is a run
  have hloop : ∀ (positions : List Nat) (best : Option (Nat × Nat)),
      (∀ run, best = some run → IsZeroRun groups run) → ∀ run,
      positions.foldl
        (fun best i =>
          let l := ((groups.drop i).takeWhile (· == 0)).length
          if 2 ≤ l ∧ (best.map fun run => run.2 - run.1).getD 0 < l then some (i, i + l) else best)
        best = some run → IsZeroRun groups run := by
    intro positions
    induction positions with
    | nil => exact fun best hbest => hbest
    | cons i positions ih =>
        intro best hbest
        refine ih _ ?_
        intro run hrun
        dsimp only at hrun
        split at hrun
        · rename_i hlonger
          cases hrun
          exact isZeroRun_of_takeWhile groups i hlonger.1
        · exact hbest run hrun
  exact hloop (List.range 8) none (fun run hrun => by cases hrun) run h

/-! ## §6. Addresses. -/

/-- The bytes of IPv6 groups. -/
def isGroupByte (b : UInt8) : Prop := b = byteColon ∨ ∃ d < 16, b = digitByte d

theorem joinGroups_bytes {gs : List Nat} {b : UInt8} (hb : b ∈ joinGroups gs) : isGroupByte b := by
  induction gs with
  | nil => exact absurd hb List.not_mem_nil
  | cons g gs ih =>
      by_cases hgs : gs = []
      · subst hgs
        rw [joinGroups_singleton] at hb
        exact .inr (mem_hexString hb)
      · rw [joinGroups_cons g hgs, List.mem_append, List.mem_cons] at hb
        obtain hb | hb | hb := hb
        · exact .inr (mem_hexString hb)
        · exact .inl hb
        · exact ih hb

/-- **How an address is printed**: all its groups, or those around a run of zeros. -/
theorem string6_cases (a : BitVec 128) :
    string6 a = joinGroups (groupsOf a)
      ∨ ∃ start stop, IsZeroRun (groupsOf a) (start, stop)
        ∧ string6 a = joinGroups ((groupsOf a).take start)
            ++ (lit "::" ++ joinGroups ((groupsOf a).drop stop)) := by
  unfold string6
  dsimp only
  cases hrun : zeroRun (groupsOf a) with
  | none => exact .inl rfl
  | some run => exact .inr ⟨run.1, run.2, zeroRun_spec hrun, List.append_assoc _ _ _⟩

theorem around_run_lt (a : BitVec 128) (start stop : Nat) :
    ∀ g ∈ (groupsOf a).take start ++ (groupsOf a).drop stop, g < 65536 := by
  intro g hg
  obtain hg | hg := List.mem_append.mp hg
  · exact groupsOf_lt a g (List.mem_of_mem_take hg)
  · exact groupsOf_lt a g (List.mem_of_mem_drop hg)

theorem string6_bytes {a : BitVec 128} {b : UInt8} (hb : b ∈ string6 a) : isGroupByte b := by
  obtain htext | ⟨start, stop, _, htext⟩ := string6_cases a
  · rw [htext] at hb
    exact joinGroups_bytes hb
  · rw [htext, List.mem_append, List.mem_append] at hb
    obtain hb | hb | hb := hb
    · exact joinGroups_bytes hb
    · left
      have hcolons : (lit "::").all (· == byteColon) = true := by decide
      exact beq_iff_eq.mp (List.all_eq_true.mp hcolons b hb)
    · exact joinGroups_bytes hb

/-- The loop of `parseIPv6`, with the leading `::` that opens the run at once. -/
def readGroups (s : GoString) : Option (GoString × List Nat × Option Nat) :=
  if startsWith s [byteColon, byteColon] = true then
    if s.length = 2 then some ([], [], some 0) else parseGroups 8 (s.drop 2) [] (some 0)
  else parseGroups 8 s [] none

/-- Text that begins with joined groups does not open the run. -/
theorem readGroups_join {gs : List Nat} (hgs : gs ≠ []) (tail : GoString) :
    readGroups (joinGroups gs ++ tail) = parseGroups 8 (joinGroups gs ++ tail) [] none := by
  obtain ⟨d, hd, rest, hjoin⟩ := joinGroups_head hgs
  have hstart : ¬ startsWith (joinGroups gs ++ tail) [byteColon, byteColon] = true := by
    rw [hjoin, List.cons_append]
    simp [startsWith, List.isPrefixOf, (digitByte_ne_colon hd).symm]
  exact if_neg hstart

/-- Text of groups goes through `parseIPv6` whole: there is no zone to cut off. -/
theorem parseIPv6_plain {s : GoString} (hs : bytePercent ∉ s) :
    parseIPv6 s = ((readGroups s).bind expandGroups).map fun groups =>
      .v6 (BitVec.ofNat 128 (value 65536 0 groups)) [] := by
  have htext : s.takeWhile (· != bytePercent) = s := by
    refine List.takeWhile_eq_self_iff.mpr ?_
    intro b hb
    rw [bne_iff_ne]
    rintro rfl
    exact hs hb
  unfold parseIPv6 value
  rw [htext]
  dsimp only
  rw [if_neg (by simp), List.drop_eq_nil_of_le (by omega)]
  rfl

theorem not_mem_string6 {a : BitVec 128} {b : UInt8} (hcolon : b ≠ byteColon)
    (hb : b ∈ [0x20, byteColon, byteDot, bytePercent]) : b ∉ string6 a := by
  intro hmem
  obtain h | ⟨d, hd, rfl⟩ := string6_bytes hmem
  · exact hcolon h
  · exact (digitByte_spec hd).plain hb

/-- The groups around the run, whichever side of it is empty. -/
theorem readGroups_around {pre post : List Nat} (hlt : ∀ g ∈ pre ++ post, g < 65536)
    (hlen : pre.length + post.length ≤ 8) :
    readGroups (joinGroups pre ++ (lit "::" ++ joinGroups post))
      = some ([], pre ++ post, some pre.length) := by
  by_cases hpre : pre = []
  · subst hpre
    have hstart : startsWith (lit "::" ++ joinGroups post) [byteColon, byteColon] = true :=
      List.isPrefixOf_iff_prefix.mpr (List.prefix_append _ _)
    unfold readGroups
    rw [joinGroups_nil, List.nil_append, if_pos hstart]
    by_cases hpost : post = []
    · subst hpost
      rfl
    · obtain ⟨d, _, rest, hjoin⟩ := joinGroups_head hpost
      have hlong : ¬ (lit "::" ++ joinGroups post).length = 2 := by
        rw [hjoin, List.length_append, List.length_cons]
        show ¬ 2 + (rest.length + 1) = 2
        omega
      rw [if_neg hlong]
      show parseGroups 8 (joinGroups post) [] (some 0) = _
      rw [parseGroups_join hpost (fun g hg => hlt g (by simp [hg])) (by simpa using hlen)]
      rfl
  · rw [readGroups_join hpre, parseGroups_ellipsis hpre hlt hlen, List.nil_append,
      List.length_nil, Nat.zero_add]

theorem expandGroups_full {groups : List Nat} (hlen : groups.length = 8) :
    expandGroups ([], groups, none) = some groups := by
  unfold expandGroups
  dsimp only
  rw [if_neg (by simp), if_neg (by omega), if_neg (by simp)]

/-- As many zeros are put back as were left out. -/
theorem expandGroups_run {groups : List Nat} {start stop : Nat} (hlen : groups.length = 8)
    (hrun : IsZeroRun groups (start, stop)) :
    expandGroups ([], groups.take start ++ groups.drop stop, some (groups.take start).length)
      = some groups := by
  obtain ⟨hlong, hstop, hgroups⟩ := hrun
  dsimp only at hlong hstop hgroups
  have hpre : (groups.take start).length = start := by
    rw [List.length_take]
    omega
  have hpost : (groups.drop stop).length = 8 - stop := by
    rw [List.length_drop, hlen]
  have hgap : 8 - (start + (8 - stop)) = stop - start := by omega
  unfold expandGroups
  dsimp only
  rw [if_neg (by simp), if_pos (by rw [List.length_append]; omega), Option.map_some,
    List.take_left, List.drop_left, List.length_append, hpre, hpost, hgap, ← hgroups]

/-- The loop over a printed address gives its groups. -/
theorem expand_string6 (a : BitVec 128) :
    (readGroups (string6 a)).bind expandGroups = some (groupsOf a) := by
  have hlen := length_groupsOf a
  obtain htext | ⟨start, stop, hrun, htext⟩ := string6_cases a
  · have hne : groupsOf a ≠ [] := by
      intro h
      rw [h] at hlen
      cases hlen
    have hread := readGroups_join hne []
    rw [List.append_nil] at hread
    rw [htext, hread, parseGroups_join hne (groupsOf_lt a) (by omega)]
    exact expandGroups_full hlen
  · have hshort : ((groupsOf a).take start).length + ((groupsOf a).drop stop).length ≤ 8 := by
      have hlong := hrun.1
      dsimp only at hlong
      rw [List.length_take, List.length_drop, hlen]
      omega
    rw [htext, readGroups_around (around_run_lt a start stop) hshort]
    exact expandGroups_run hlen hrun

/-- **Printed groups read back as the address.** -/
theorem parseIPv6_string6 (a : BitVec 128) : parseIPv6 (string6 a) = some (.v6 a []) := by
  rw [parseIPv6_plain (not_mem_string6 (by decide) (by decide)), expand_string6, Option.map_some,
    value_groupsOf, BitVec.ofNat_toNat, BitVec.setWidth_eq]

/-! ## §7. Mapped addresses. -/

theorem string4_bytes {a : BitVec 32} {b : UInt8} (hb : b ∈ string4 a) :
    isDecimal b = true ∨ b = byteDot := by
  exact parseIPv4Fields_bytes (parseIPv4Fields_string4 a) b hb

/-- Dotted decimal in place of the last two groups. -/
theorem parseGroups_dotted (a : BitVec 32) {fuel i : Nat} {groups : List Nat}
    (hlen : groups.length + 2 ≤ 8) :
    parseGroups (fuel + 1) (string4 a) groups (some i)
      = some ([], groups ++ [octet a 0 * 256 + octet a 1, octet a 2 * 256 + octet a 3],
          some i) := by
  have hlt : octet a 0 < 256 := Nat.mod_lt _ (by decide)
  -- the digits in front of the first dot are read as a group, and then again as a field
  have hhex : ∀ b ∈ itoa (octet a 0), (hexValue b).isSome = true := by
    intro b hb
    unfold hexValue
    rw [if_pos (isDecimal_of_mem_itoa hb)]
    rfl
  have htake : (string4 a).takeWhile (fun b => (hexValue b).isSome) = itoa (octet a 0) := by
    unfold string4
    rw [List.takeWhile_append_of_pos hhex, List.takeWhile_cons_of_neg (by decide), List.append_nil]
  have hdigits : ¬ ((itoa (octet a 0)).length = 0 ∨ 4 < (itoa (octet a 0)).length) := by
    have hle : (itoa (octet a 0)).length ≤ 2 + 1 :=
      @numeral_length_le 10 (by decide) (by decide) 2 (octet a 0) (by omega)
    have hpos := List.length_pos_iff.mpr (@numeral_ne_nil 10 (by decide) (by decide) (octet a 0))
    rw [← itoa_eq_numeral] at hpos
    omega
  have hdrop : (string4 a).drop (itoa (octet a 0)).length
      = byteDot :: (itoa (octet a 1) ++ byteDot :: (itoa (octet a 2) ++ byteDot :: itoa (octet a 3))) := by
    unfold string4
    rw [List.drop_left]
  rw [parseGroups]
  dsimp only
  rw [htake, if_neg hdigits, hdrop]
  dsimp only
  rw [if_pos rfl, if_neg (by simp), if_neg (by omega), parseIPv4Fields_string4]

/-- The text of a mapped address. -/
def mappedText (a : BitVec 32) : GoString := lit "::ffff:" ++ string4 a

/-- The loop over it: the run in front, the group `ffff`, then dotted decimal. -/
theorem parseGroups_mapped (a : BitVec 32) :
    parseGroups 8 ((mappedText a).drop 2) [] (some 0)
      = some ([], [0xFFFF, octet a 0 * 256 + octet a 1, octet a 2 * 256 + octet a 3], some 0) := by
  have hne : string4 a ≠ [] := by
    intro h
    have hfields := parseIPv4Fields_string4 a
    rw [h] at hfields
    cases hfields
  obtain ⟨b, rest, hb⟩ := List.exists_cons_of_ne_nil hne
  have hcolon : b ≠ byteColon := by
    have hbyte := @string4_bytes a b (by rw [hb]; exact List.mem_cons_self)
    rintro rfl
    exact absurd hbyte (by decide)
  show parseGroups (7 + 1) (hexString 0xFFFF ++ byteColon :: string4 a) [] (some 0) = _
  rw [parseGroups_colon (by decide), hb]
  dsimp only
  rw [if_neg hcolon, ← hb]
  exact parseGroups_dotted a (by decide)

/-- The groups of a mapped address, behind the run of zeros. -/
theorem value_mapped (w x y z : Nat) :
    value 65536 0 ([0, 0, 0, 0, 0] ++ [0xFFFF, w * 256 + x, y * 256 + z])
      = 0xFFFF * 4294967296 + value 256 0 [w, x, y, z] := by
  unfold value
  simp only [List.cons_append, List.nil_append, List.foldl_cons, List.foldl_nil]
  ring

/-- **A mapped address reads back.** -/
theorem parseIPv6_mapped {a : BitVec 128} (hmapped : a >>> 32 = 0xFFFF) :
    parseIPv6 (mappedText (a.truncate 32)) = some (.v6 a []) := by
  have hpercent : bytePercent ∉ mappedText (a.truncate 32) := by
    intro hmem
    obtain h | h := List.mem_append.mp hmem
    · exact absurd h (by decide)
    · exact absurd (string4_bytes h) (by decide)
  have hstart : startsWith (mappedText (a.truncate 32)) [byteColon, byteColon] = true := rfl
  have hlong : ¬ (mappedText (a.truncate 32)).length = 2 := by
    unfold mappedText
    rw [List.length_append]
    show ¬ 7 + _ = 2
    omega
  have hhigh : a.toNat / 4294967296 = 65535 := by
    have h := congrArg BitVec.toNat hmapped
    rw [BitVec.toNat_ushiftRight, Nat.shiftRight_eq_div_pow] at h
    exact h
  have hlow : (a.truncate 32).toNat = a.toNat % 4294967296 := BitVec.toNat_setWidth 32 a
  have hread : readGroups (mappedText (a.truncate 32)) = _ := if_pos hstart
  rw [parseIPv6_plain hpercent, hread, if_neg hlong, parseGroups_mapped]
  show some (Addr.v6 (BitVec.ofNat 128 (value 65536 0 ([0, 0, 0, 0, 0] ++ [0xFFFF, _, _]))) []) = _
  rw [value_mapped, value_octets, hlow, ← hhigh, Nat.div_add_mod', BitVec.ofNat_toNat,
    BitVec.setWidth_eq]

/-! ## §8. Every unscoped address reads back. -/

/-- The address carries no zone. -/
def Addr.Unscoped : Addr → Prop
  | .zero => False
  | .v4 _ => True
  | .v6 _ zone => zone = []

theorem colon_mem_string6 (a : BitVec 128) : byteColon ∈ string6 a := by
  obtain htext | ⟨start, stop, _, htext⟩ := string6_cases a
  · rw [htext, groupsOf_eq_digits, digits_succ, joinGroups_cons _ (by rw [digits_succ]; simp)]
    simp
  · have hcolon : byteColon ∈ lit "::" := by decide
    rw [htext]
    simp [hcolon]

/-- The first separator in printed groups is a colon. -/
theorem find?_string6 (a : BitVec 128) :
    (string6 a).find? (fun b => b == byteDot || b == byteColon || b == bytePercent)
      = some byteColon := by
  cases hfind : (string6 a).find? (fun b => b == byteDot || b == byteColon || b == bytePercent) with
  | none =>
      have hnot := List.find?_eq_none.mp hfind byteColon (colon_mem_string6 a)
      exact absurd rfl hnot
  | some b =>
      have hsep := List.find?_some hfind
      simp only [Bool.or_eq_true, beq_iff_eq] at hsep
      obtain (rfl | rfl) | rfl := hsep
      · exact absurd (List.mem_of_find?_eq_some hfind) (not_mem_string6 (by decide) (by decide))
      · rfl
      · exact absurd (List.mem_of_find?_eq_some hfind) (not_mem_string6 (by decide) (by decide))

/-- **Every unscoped address reads back from its text.** -/
theorem parseAddr_string {addr : Addr} (haddr : addr.Unscoped) : parseAddr addr.string = some addr := by
  cases addr with
  | zero => exact absurd haddr not_false
  | v4 a =>
      have hfind := find?_string4 a []
      rw [List.append_nil] at hfind
      unfold parseAddr Addr.string
      rw [hfind]
      exact parseIPv4_string4 a
  | v6 a zone =>
      obtain rfl : zone = [] := haddr
      unfold Addr.string
      dsimp only
      rw [if_pos rfl, List.append_nil]
      by_cases hmapped : a >>> 32 = 0xFFFF
      · rw [if_pos hmapped]
        exact parseIPv6_mapped hmapped
      · rw [if_neg hmapped]
        unfold parseAddr
        rw [find?_string6]
        exact parseIPv6_string6 a

/-! ## §9. The length of printed addresses, and what does not occur in them. -/

theorem string4_length (a : BitVec 32) : (string4 a).length ≤ 15 := by
  have hlen : ∀ i, (itoa (octet a i)).length ≤ 2 + 1 := fun i =>
    @numeral_length_le 10 (by decide) (by decide) 2 (octet a i)
      (Nat.lt_of_lt_of_le (Nat.mod_lt _ (by decide)) (by decide))
  have h₀ := hlen 0
  have h₁ := hlen 1
  have h₂ := hlen 2
  have h₃ := hlen 3
  unfold string4
  simp only [List.length_append, List.length_cons]
  omega

theorem joinGroups_length {gs : List Nat} (hlt : ∀ g ∈ gs, g < 65536) :
    (joinGroups gs).length ≤ 5 * gs.length - 1 := by
  induction gs with
  | nil => exact Nat.le_refl _
  | cons g gs ih =>
      have hg := hexString_length (hlt g List.mem_cons_self)
      by_cases hgs : gs = []
      · subst hgs
        rw [joinGroups_singleton, List.length_singleton]
        omega
      · have hrest := ih fun g hg => hlt g (List.mem_cons_of_mem _ hg)
        have hpos := List.length_pos_iff.mpr hgs
        rw [joinGroups_cons g hgs, List.length_append, List.length_cons, List.length_cons]
        omega

theorem string6_length (a : BitVec 128) : (string6 a).length ≤ 39 := by
  have hlen := length_groupsOf a
  obtain htext | ⟨start, stop, ⟨hlong, hstop, _⟩, htext⟩ := string6_cases a
  · have hjoin := joinGroups_length (groupsOf_lt a)
    rw [hlen] at hjoin
    rw [htext]
    exact hjoin
  · dsimp only at hlong hstop
    have hlt := around_run_lt a start stop
    have hpre := joinGroups_length fun g hg => hlt g (List.mem_append_left _ hg)
    have hpost := joinGroups_length fun g hg => hlt g (List.mem_append_right _ hg)
    rw [List.length_take, hlen] at hpre
    rw [List.length_drop, hlen] at hpost
    rw [hlen] at hstop
    rw [htext, List.length_append, List.length_append]
    show _ + (2 + _) ≤ 39
    omega

/-- The text of an unscoped address has at most 39 bytes and no blank. -/
theorem Addr.string_short {addr : Addr} (haddr : addr.Unscoped) :
    addr.string.length ≤ 39 ∧ 0x20 ∉ addr.string := by
  have hblank : ∀ a : BitVec 32, 0x20 ∉ string4 a := fun a hmem =>
    absurd (string4_bytes hmem) (by decide)
  cases addr with
  | zero => exact absurd haddr not_false
  | v4 a =>
      have hlen := string4_length a
      exact ⟨Nat.le_trans hlen (by decide), hblank a⟩
  | v6 a zone =>
      obtain rfl : zone = [] := haddr
      unfold Addr.string
      dsimp only
      rw [if_pos rfl, List.append_nil]
      by_cases hmapped : a >>> 32 = 0xFFFF
      · have hlen := string4_length (a.truncate 32)
        rw [if_pos hmapped, List.length_append, List.mem_append, not_or]
        refine ⟨?_, by decide, hblank _⟩
        show 7 + _ ≤ 39
        omega
      · rw [if_neg hmapped]
        exact ⟨string6_length a, not_mem_string6 (by decide) (by decide)⟩

end SIngress.Base
