/-
  SIngress.Lib.Percent — PERCENT ENCODING OF BYTE STRINGS (RFC 3986, section 2.1).

  An encoder is a set of bytes that stand for themselves, `keep`; every other
  byte is written `%` and two upper-case hexadecimal digits.

  * `mem_encode`     — what occurs in encoded text: kept bytes, `%`, digits.
  * `decode_encode`  — encoded text reads back, when `%` itself is encoded.
  * `filter_encode`  — a filter that drops some kept bytes from the text drops
                       the same bytes from what is encoded.
-/
import Mathlib.Data.List.Basic
import Mathlib.Data.UInt

namespace SIngress.Lib.Percent

/-! ## §1. Digits. -/

/-- The percent sign. -/
def mark : UInt8 := 0x25

/-- The upper-case hexadecimal digit of a value below 16. -/
def hexDigit (n : UInt8) : UInt8 := if n < 10 then 0x30 + n else 0x37 + n

/-- The bytes `hexDigit` writes. -/
def upperHex : List UInt8 := (List.range 16).map fun n => hexDigit (UInt8.ofNat n)

/-- The value of a hexadecimal digit in either case. -/
def unhex (b : UInt8) : Option UInt8 :=
  if 0x30 ≤ b && b ≤ 0x39 then some (b - 0x30)
  else if 0x61 ≤ b && b ≤ 0x66 then some (b - 0x61 + 10)
  else if 0x41 ≤ b && b ≤ 0x46 then some (b - 0x41 + 10)
  else none

/-- A digit reads back as its value. -/
theorem unhex_hexDigit : ∀ n : Fin 16,
    hexDigit (UInt8.ofNat n) ∈ upperHex ∧ unhex (hexDigit (UInt8.ofNat n)) = some (UInt8.ofNat n) := by
  decide

/-- A value below 16 is written by a digit that reads back. -/
theorem unhex_of_lt {n : UInt8} (hn : n.toNat < 16) :
    hexDigit n ∈ upperHex ∧ unhex (hexDigit n) = some n := by
  have h := unhex_hexDigit ⟨n.toNat, hn⟩
  rwa [UInt8.ofNat_toNat] at h

theorem high_lt (b : UInt8) : (b / 16).toNat < 16 := by
  have hb := b.toNat_lt
  rw [UInt8.toNat_div]
  show b.toNat / 16 < 16
  omega

theorem low_lt (b : UInt8) : (b % 16).toNat < 16 := by
  rw [UInt8.toNat_mod]
  show b.toNat % 16 < 16
  omega

/-- A byte is its two halves. -/
theorem halves (b : UInt8) : b / 16 * 16 + b % 16 = b := by
  apply UInt8.toNat_inj.mp
  have hb := b.toNat_lt
  have hhigh := high_lt b
  rw [UInt8.toNat_div] at hhigh
  rw [UInt8.toNat_add, UInt8.toNat_mul, UInt8.toNat_div, UInt8.toNat_mod]
  change b.toNat / 16 < 16 at hhigh
  show (b.toNat / 16 * 16 % 256 + b.toNat % 16) % 256 = b.toNat
  omega

/-! ## §2. Encoding. -/

/-- One byte: itself, or the percent sign and its two halves. -/
def encodeByte (keep : UInt8 → Bool) (b : UInt8) : List UInt8 :=
  if keep b then [b] else [mark, hexDigit (b / 16), hexDigit (b % 16)]

def encode (keep : UInt8 → Bool) (s : List UInt8) : List UInt8 := s.flatMap (encodeByte keep)

section

variable {keep : UInt8 → Bool}

@[simp] theorem encode_nil : encode keep [] = [] := rfl

theorem encode_cons (b : UInt8) (s : List UInt8) :
    encode keep (b :: s) = encodeByte keep b ++ encode keep s := List.flatMap_cons

/-- **What encoded text consists of**: kept bytes, percent signs and digits. -/
theorem mem_encode {s : List UInt8} {b : UInt8} (hb : b ∈ encode keep s) :
    keep b = true ∧ b ∈ s ∨ b = mark ∨ b ∈ upperHex := by
  obtain ⟨c, hc, hb⟩ := List.mem_flatMap.mp hb
  unfold encodeByte at hb
  by_cases hkeep : keep c = true
  · rw [if_pos hkeep] at hb
    rw [List.mem_singleton.mp hb]
    exact .inl ⟨hkeep, hc⟩
  · rw [if_neg hkeep] at hb
    simp only [List.mem_cons, List.not_mem_nil, or_false] at hb
    obtain rfl | rfl | rfl := hb
    · exact .inr (.inl rfl)
    · exact .inr (.inr (unhex_of_lt (high_lt c)).1)
    · exact .inr (.inr (unhex_of_lt (low_lt c)).1)

/-- So a byte that is neither kept nor part of a triple does not occur. -/
theorem not_mem_encode {s : List UInt8} {b : UInt8} (hkeep : keep b = false) (hmark : b ≠ mark)
    (hhex : b ∉ upperHex) : b ∉ encode keep s := by
  intro hmem
  obtain ⟨h, _⟩ | h | h := mem_encode hmem
  · rw [hkeep] at h
    exact Bool.noConfusion h
  · exact hmark h
  · exact hhex h

/-- A filter that leaves percent signs and digits alone drops the same bytes before and
after encoding. -/
theorem filter_encode {ok : UInt8 → Bool} (hmark : ok mark = true)
    (hhex : ∀ b ∈ upperHex, ok b = true) (s : List UInt8) :
    (encode keep s).filter ok = encode keep (s.filter fun b => ok b || !keep b) := by
  induction s with
  | nil => rfl
  | cons b s ih =>
      rw [encode_cons, List.filter_append, ih]
      by_cases hkeep : keep b = true
      · by_cases hok : ok b = true
        · rw [List.filter_cons_of_pos (by simp [hok]), encode_cons]
          simp [encodeByte, hkeep, hok]
        · rw [List.filter_cons_of_neg (by simp [hok, hkeep])]
          simp [encodeByte, hkeep, hok]
      · rw [List.filter_cons_of_pos (by simp [hkeep]), encode_cons]
        have hhigh := hhex _ (unhex_of_lt (high_lt b)).1
        have hlow := hhex _ (unhex_of_lt (low_lt b)).1
        simp [encodeByte, hkeep, hmark, hhigh, hlow]

end

/-! ## §3. Decoding. -/

/-- Read encoded text: `%` and two digits are one byte, any other byte is itself. -/
def decode : List UInt8 → Option (List UInt8)
  | [] => some []
  | b :: rest =>
      if b = mark then
        match rest with
        | hi :: lo :: rest' =>
            match unhex hi, unhex lo with
            | some x, some y => (decode rest').map fun s => (x * 16 + y) :: s
            | _, _ => none
        | _ => none
      else (decode rest).map fun s => b :: s

/-- A byte that stands for itself. -/
theorem decode_cons_plain {b : UInt8} (hb : b ≠ mark) (rest : List UInt8) :
    decode (b :: rest) = (decode rest).map fun s => b :: s := by
  rw [decode.eq_def]
  dsimp only
  rw [if_neg hb]

/-- Only the empty text reads as the empty one. -/
theorem decode_eq_some_nil {s : List UInt8} (h : decode s = some []) : s = [] := by
  cases s with
  | nil => rfl
  | cons b rest =>
      rw [decode.eq_def] at h
      dsimp only at h
      split at h
      · split at h
        · split at h
          · obtain ⟨_, _, hcons⟩ := Option.map_eq_some_iff.mp h
            cases hcons
          · cases h
        · cases h
      · obtain ⟨_, _, hcons⟩ := Option.map_eq_some_iff.mp h
        cases hcons

/-- One encoded byte reads back, whatever follows it. -/
theorem decode_encodeByte {keep : UInt8 → Bool} (hmark : keep mark = false) (b : UInt8)
    (rest : List UInt8) :
    decode (encodeByte keep b ++ rest) = (decode rest).map fun s => b :: s := by
  unfold encodeByte
  by_cases hkeep : keep b = true
  · have hb : b ≠ mark := by
      rintro rfl
      rw [hmark] at hkeep
      exact Bool.noConfusion hkeep
    rw [if_pos hkeep, List.singleton_append, decode_cons_plain hb]
  · rw [if_neg hkeep]
    show decode (mark :: hexDigit (b / 16) :: hexDigit (b % 16) :: rest) = _
    rw [decode.eq_def]
    dsimp only
    rw [if_pos rfl, (unhex_of_lt (high_lt b)).2, (unhex_of_lt (low_lt b)).2]
    dsimp only
    rw [halves]

/-- **Encoded text reads back.** -/
theorem decode_encode {keep : UInt8 → Bool} (hmark : keep mark = false) (s : List UInt8) :
    decode (encode keep s) = some s := by
  induction s with
  | nil => rfl
  | cons b s ih => rw [encode_cons, decode_encodeByte hmark, ih, Option.map_some]

end SIngress.Lib.Percent
