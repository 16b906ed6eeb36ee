/-
  SIngress.Lib.Digits — POSITIONAL NOTATION WITH A FIXED NUMBER OF DIGITS.

  `digits base k n` are the last `k` digits of `n`, the highest first;
  `value base ds` reads a list of digits.  A number below `base ^ k` reads
  back (`value_digits`).
-/
import Mathlib.Tactic.Ring
import Mathlib.Data.List.Basic

namespace SIngress.Lib

/-- The last `k` digits of a number, the highest first. -/
def digits (base k n : Nat) : List Nat := (List.range k).map fun i => n / base ^ (k - 1 - i) % base

/-- The number a list of digits stands for, behind the digits `acc` already stands for. -/
def value (base acc : Nat) (ds : List Nat) : Nat := ds.foldl (fun acc d => acc * base + d) acc

section

variable {base : Nat}

@[simp] theorem length_digits (k n : Nat) : (digits base k n).length = k := by
  unfold digits
  rw [List.length_map, List.length_range]

theorem digits_lt (hbase : 0 < base) (k n : Nat) : ∀ d ∈ digits base k n, d < base := by
  intro d hd
  obtain ⟨i, _, rfl⟩ := List.mem_map.mp hd
  exact Nat.mod_lt _ hbase

/-- The highest digit comes first. -/
theorem digits_succ (k n : Nat) :
    digits base (k + 1) n = n / base ^ k % base :: digits base k n := by
  unfold digits
  rw [List.range_succ_eq_map, List.map_cons, List.map_map]
  congr 1
  apply List.map_congr_left
  intro i _
  show n / base ^ (k - (i + 1)) % base = n / base ^ (k - 1 - i) % base
  rw [Nat.sub_sub, Nat.add_comm i 1]

theorem value_digits_acc (acc k n : Nat) :
    value base acc (digits base k n) = acc * base ^ k + n % base ^ k := by
  induction k generalizing acc with
  | zero => simp [digits, value, Nat.mod_one]
  | succ k ih =>
      rw [digits_succ]
      show value base (acc * base + n / base ^ k % base) (digits base k n) = _
      rw [ih, Nat.mod_pow_succ]
      ring

/-- **A number reads back from its digits.** -/
theorem value_digits {k n : Nat} (hn : n < base ^ k) : value base 0 (digits base k n) = n := by
  rw [value_digits_acc, Nat.zero_mul, Nat.zero_add, Nat.mod_eq_of_lt hn]

end

end SIngress.Lib
