/-
  SIngress.Config.ByteSize — WHAT A SIZE IS WORTH.

  A size is a decimal number and a unit: nothing, or `k`, `m`, `g` with or
  without `b`, or `kib`, `mib`, `gib`, in any case of the letters.  `Size` says
  what such a text is worth, as an exact number below 2⁶³.

  `ParseByteSize` reads the same texts (`parseByteSize_eq_ok_iff`).  Its table
  has ten million for `m` and ten thousand million for `g`, and its product is
  cut to 64 bits:

    • `parseByteSize_exact_iff` — the texts it gives their exact worth,
    • `parseByteSize_one_m`, the texts `1m` and `9223372036854775807kib`.
-/
import Mathlib.Data.List.TakeWhile
import SIngress.Config.Conf

namespace SIngress.Config

open SIngress.Base SIngress.Lib SIngress.Platform

/-! ## §1. Sizes and their worth. -/

/-- The units and what they stand for. -/
def byteUnits : List (GoString × Nat) :=
  [(lit "", 1), (lit "k", 10 ^ 3), (lit "kb", 10 ^ 3), (lit "kib", 2 ^ 10),
   (lit "m", 10 ^ 6), (lit "mb", 10 ^ 6), (lit "mib", 2 ^ 20),
   (lit "g", 10 ^ 9), (lit "gb", 10 ^ 9), (lit "gib", 2 ^ 30)]

/-- The text is the number `digits` with a unit worth `U`. -/
structure Sized (s digits unit : GoString) (U : Nat) : Prop where
  text : s = digits ++ unit
  digits_ne : digits ≠ []
  digits_all : ∀ b ∈ digits, isDigit b = true
  unit_known : byteUnits.lookup (toLowerAscii unit) = some U

/-- The text is worth `n`, and `n` is an `int64`. -/
def Size (s : GoString) (n : Int) : Prop :=
  ∃ digits unit U, Sized s digits unit U ∧ n = decimalValue digits * U ∧ n ≤ 2 ^ 63 - 1

/-- `ParseByteSize` succeeds exactly on the sizes, with their worth. -/
def ExactSize (ext : Ext) (s : GoString) : Prop :=
  ∀ n : Int, parseByteSize ext s = .ok n ↔ Size s n

/-- The units whose entry in `sizeMap` has one zero more. -/
def wideUnits : List GoString := [lit "m", lit "mb", lit "g", lit "gb"]

/-- The worth of a number that can be read fits, and a unit of `wideUnits` has the number 0. -/
def SizeFits (s : GoString) : Prop :=
  ∀ digits unit U, Sized s digits unit U → decimalValue digits < 2 ^ 63 →
    decimalValue digits * U < 2 ^ 63
      ∧ (toLowerAscii unit ∈ wideUnits → decimalValue digits = 0)

/-! ## §2. The table of the code. -/

/-- What an entry of `sizeMap` is off by. -/
def unitFactor (unit : GoString) : Nat := if unit ∈ wideUnits then 10 else 1

theorem lookup_eq_none_of_not_mem {V : Type} {table : List (GoString × V)} {unit : GoString}
    (h : unit ∉ table.map Prod.fst) : table.lookup unit = none := by
  rw [List.lookup_eq_none_iff]
  intro p hp
  rw [bne_iff_ne]
  intro heq
  exact h (List.mem_map.mpr ⟨p, hp, heq.symm⟩)

theorem lookup_sizeMap (unit : GoString) :
    sizeMap.lookup unit = (byteUnits.lookup unit).map fun U => ((unitFactor unit * U : Nat) : Int) := by
  by_cases h : unit ∈ byteUnits.map Prod.fst
  · -- one of the ten
    revert unit
    decide
  · -- no other key stands in either table
    have hkeys : sizeMap.map Prod.fst = byteUnits.map Prod.fst := by decide
    rw [lookup_eq_none_of_not_mem h, lookup_eq_none_of_not_mem (by rw [hkeys]; exact h)]
    rfl

theorem unit_pos {unit : GoString} {U : Nat} (h : byteUnits.lookup unit = some U) : 0 < U := by
  obtain ⟨l₁, l₂, hl, _⟩ := List.lookup_eq_some_iff.mp h
  have hmem : (unit, U) ∈ byteUnits := by
    rw [hl]
    simp
  have hall : ∀ p ∈ byteUnits, 0 < p.2 := by decide
  exact hall _ hmem

/-! ## §3. Which texts are read. -/

/-- A small letter. -/
def isSmallLetter (b : UInt8) : Bool := 0x61 ≤ b && b ≤ 0x7A

/-- A byte that is a small letter in lower case is in the class of the unit, and no digit. -/
theorem unitByte_of_lower {b : UInt8}
    (h : isSmallLetter (if 0x41 ≤ b ∧ b ≤ 0x5A then b + 0x20 else b) = true) :
    isUnitByte b = true ∧ isDigit b = false := by
  simp only [isSmallLetter, isUnitByte, isDigit, Bool.and_eq_true, Bool.and_eq_false_iff,
    decide_eq_true_eq, decide_eq_false_iff_not, UInt8.le_iff_toNat_le] at h ⊢
  split_ifs at h with hupper
  · simp at hupper ⊢
    omega
  · simp at h ⊢
    omega

/-- The bytes of a known unit. -/
theorem unit_bytes {unit : GoString} {U : Nat} (h : byteUnits.lookup (toLowerAscii unit) = some U)
    {b : UInt8} (hb : b ∈ unit) : isUnitByte b = true ∧ isDigit b = false := by
  have hkey : toLowerAscii unit ∈ byteUnits.map Prod.fst := by
    by_contra hnot
    rw [lookup_eq_none_of_not_mem hnot] at h
    cases h
  have hsmall : (byteUnits.map Prod.fst).all (fun key => key.all isSmallLetter) = true := by decide
  have hbytes := List.all_eq_true.mp (List.all_eq_true.mp hsmall _ hkey)
  exact unitByte_of_lower (hbytes _ (List.mem_map.mpr ⟨b, hb, rfl⟩))

/-- **A text is a number with a unit in one way.** -/
theorem Sized.cut {s digits unit : GoString} {U : Nat} (h : Sized s digits unit U) :
    s.takeWhile isDigit = digits ∧ s.dropWhile isDigit = unit := by
  have hunit : unit.takeWhile isDigit = [] ∧ unit.dropWhile isDigit = unit := by
    cases hcases : unit with
    | nil => exact ⟨rfl, rfl⟩
    | cons b rest =>
        have hb := (unit_bytes h.unit_known (b := b) (by rw [hcases]; simp)).2
        exact ⟨List.takeWhile_cons_of_neg (by simp [hb]), List.dropWhile_cons_of_neg (by simp [hb])⟩
  rw [h.text, List.takeWhile_append_of_pos h.digits_all, List.dropWhile_append_of_pos h.digits_all,
    hunit.1, hunit.2, List.append_nil]
  exact ⟨rfl, rfl⟩

theorem Sized.unique {s digits unit digits' unit' : GoString} {U U' : Nat}
    (h : Sized s digits unit U) (h' : Sized s digits' unit' U') :
    digits' = digits ∧ unit' = unit ∧ U' = U := by
  have hdigits := h'.cut.1.symm.trans h.cut.1
  have hunit := h'.cut.2.symm.trans h.cut.2
  refine ⟨hdigits, hunit, ?_⟩
  have hknown := h'.unit_known
  rw [hunit, h.unit_known] at hknown
  exact (Option.some.inj hknown).symm

/-- **What `ParseByteSize` reads, and what it makes of it.** -/
theorem parseByteSize_eq_ok_iff (ext : Ext) {s : GoString} {n : Int} :
    parseByteSize ext s = .ok n ↔
      ∃ digits unit U, Sized s digits unit U ∧ decimalValue digits < 2 ^ 63
        ∧ n = Int.bmod (decimalValue digits * ((unitFactor (toLowerAscii unit) * U : Nat) : Int))
            (2 ^ 64) := by
  unfold parseByteSize
  dsimp only
  constructor
  · intro h
    by_cases hshape : (s.takeWhile isDigit).isEmpty || !(s.dropWhile isDigit).all isUnitByte
    · rw [if_pos hshape] at h
      cases h
    · rw [if_neg hshape] at h
      simp only [Bool.or_eq_true, not_or, List.isEmpty_iff] at hshape
      by_cases hrange : decimalValue (s.takeWhile isDigit) ≥ 2 ^ 63
      · rw [if_pos hrange] at h
        cases h
      · rw [if_neg hrange, lookup_sizeMap] at h
        cases hunit : byteUnits.lookup (toLowerAscii (s.dropWhile isDigit)) with
        | none =>
            rw [hunit] at h
            cases h
        | some U =>
            rw [hunit, Option.map_some] at h
            dsimp only at h
            rw [Except.ok.injEq] at h
            refine ⟨_, _, U, ⟨(List.takeWhile_append_dropWhile).symm, hshape.1, ?_, hunit⟩,
              not_le.mp hrange, h.symm⟩
            intro b hb
            exact List.mem_takeWhile_imp hb
  · rintro ⟨digits, unit, U, hsized, hrange, hn⟩
    rw [hn, hsized.cut.1, hsized.cut.2, if_neg, if_neg (not_le.mpr hrange), lookup_sizeMap,
      hsized.unit_known]
    · rfl
    · simp only [Bool.or_eq_true, not_or, List.isEmpty_iff, Bool.not_eq_true',
        Bool.not_eq_false, List.all_eq_true]
      exact ⟨hsized.digits_ne, fun b hb => (unit_bytes hsized.unit_known hb).1⟩

/-! ## §4. The product. -/

/-- A worth that fits is not cut. -/
theorem bmod_of_fits {n : Nat} (h : n < 2 ^ 63) : Int.bmod n (2 ^ 64) = n := by
  rw [Int.bmod_eq_of_le]
  · omega
  · omega

/-- Ten times a number below the modulus is cut to the number only if it is 0. -/
theorem eq_zero_of_bmod {n m : Nat} (hm : Nat.Coprime m 9) (h : n < m)
    (hcut : Int.bmod (10 * (n : Int)) m = (n : Int)) : n = 0 := by
  -- else nine times the number would be a multiple of the modulus
  have hdvd : (m : Int) ∣ ((9 * n : Nat) : Int) := by
    have hsub := @Int.dvd_bmod_sub_self (10 * (n : Int)) m
    rw [hcut] at hsub
    rw [show ((9 * n : Nat) : Int) = -((n : Int) - 10 * n) by omega]
    exact Int.dvd_neg.mpr hsub
  exact Nat.eq_zero_of_dvd_of_lt (hm.dvd_of_dvd_mul_left (Int.natCast_dvd_natCast.mp hdvd)) h

theorem mul_factor {unit : GoString} (d U : Nat) :
    (d : Int) * ((unitFactor unit * U : Nat) : Int)
      = if unit ∈ wideUnits then 10 * ((d * U : Nat) : Int) else ((d * U : Nat) : Int) := by
  unfold unitFactor
  split_ifs
  · push_cast
    exact Int.mul_left_comm _ _ _
  · rw [Nat.one_mul]
    exact (Int.natCast_mul d U).symm

/-- **Where the product is the worth.** -/
theorem bmod_eq_worth_iff {unit : GoString} {d U : Nat} (hU : 0 < U) (hfits : d * U < 2 ^ 63) :
    Int.bmod (d * ((unitFactor unit * U : Nat) : Int)) (2 ^ 64) = ((d * U : Nat) : Int)
      ↔ (unit ∈ wideUnits → d = 0) := by
  rw [mul_factor]
  by_cases hwide : unit ∈ wideUnits
  · rw [if_pos hwide]
    constructor
    · intro hcut _
      have hcoprime : Nat.Coprime (2 ^ 64) 9 := Nat.Coprime.pow_left 64 (by decide)
      have hzero := eq_zero_of_bmod hcoprime (lt_trans hfits (by decide)) hcut
      exact (Nat.mul_eq_zero.mp hzero).resolve_right hU.ne'
    · intro hzero
      rw [hzero hwide, Nat.zero_mul]
      rfl
  · rw [if_neg hwide]
    exact iff_of_true (bmod_of_fits hfits) (fun h => absurd h hwide)

/-- **When the parser is exact**: on a text whose number can be read, the worth fits into an
`int64`, and the unit is not one of `wideUnits` unless the number is 0. -/
theorem parseByteSize_exact_iff (ext : Ext) (s : GoString) : ExactSize ext s ↔ SizeFits s := by
  constructor
  · intro hexact digits unit U hsized hrange
    have hok := (parseByteSize_eq_ok_iff ext).mpr ⟨digits, unit, U, hsized, hrange, rfl⟩
    obtain ⟨digits', unit', U', hsized', hworth, hmax⟩ := (hexact _).mp hok
    obtain ⟨rfl, rfl, rfl⟩ := hsized.unique hsized'
    have hfits : decimalValue digits' * U' < 2 ^ 63 := by
      rw [hworth] at hmax
      have : ((decimalValue digits' * U' : Nat) : Int) ≤ 2 ^ 63 - 1 := by
        push_cast
        exact hmax
      omega
    refine ⟨hfits, (bmod_eq_worth_iff (unit_pos hsized.unit_known) hfits).mp ?_⟩
    rw [hworth]
    exact (Int.natCast_mul _ _).symm
  · intro hcond n
    rw [parseByteSize_eq_ok_iff]
    constructor
    · rintro ⟨digits, unit, U, hsized, hrange, hn⟩
      obtain ⟨hfits, hwide⟩ := hcond digits unit U hsized hrange
      rw [hn, (bmod_eq_worth_iff (unit_pos hsized.unit_known) hfits).mpr hwide]
      refine ⟨digits, unit, U, hsized, Int.natCast_mul _ _, ?_⟩
      omega
    · rintro ⟨digits, unit, U, hsized, rfl, hmax⟩
      have hU := unit_pos hsized.unit_known
      have hfits : decimalValue digits * U < 2 ^ 63 := by
        have : ((decimalValue digits * U : Nat) : Int) ≤ 2 ^ 63 - 1 := by
          push_cast
          exact hmax
        omega
      -- a worth that fits has a number that can be read
      have hrange : decimalValue digits < 2 ^ 63 :=
        lt_of_le_of_lt (Nat.le_mul_of_pos_right _ hU) hfits
      refine ⟨digits, unit, U, hsized, hrange, ?_⟩
      rw [(bmod_eq_worth_iff hU hfits).mpr (hcond digits unit U hsized hrange).2]
      exact (Int.natCast_mul _ _).symm

/-- `1m` is read as ten million bytes, and the largest number of kibibytes as minus 1024. -/
theorem parseByteSize_one_m :
    (parseByteSize Ext.small (lit "1m") = .ok 10000000 ∧ Size (lit "1m") 1000000)
      ∧ parseByteSize Ext.small (lit "9223372036854775807kib") = .ok (-1024)
        ∧ ∀ n, ¬ Size (lit "9223372036854775807kib") n := by
  refine ⟨⟨by decide, lit "1", lit "m", 10 ^ 6,
    ⟨by decide, by decide, List.all_eq_true.mp (by decide), by decide⟩, by decide, by decide⟩,
    by decide, ?_⟩
  rintro n ⟨digits, unit, U, hsized, rfl, hmax⟩
  have hread : Sized (lit "9223372036854775807kib") (lit "9223372036854775807") (lit "kib") (2 ^ 10) :=
    ⟨by decide, by decide, List.all_eq_true.mp (by decide), by decide⟩
  obtain ⟨rfl, _, rfl⟩ := hread.unique hsized
  exact absurd hmax (by decide)

end SIngress.Config
