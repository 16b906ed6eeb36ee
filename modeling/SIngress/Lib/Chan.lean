/-
  SIngress.Lib.Chan — BUFFERED CHANNELS.

  A channel of capacity `cap` is its buffer, oldest element first, together
  with the bound on its length: a channel holding more than it can is not a
  value of the type.  The three operations are the ones a `select` offers:
  a blocking send (`send`, disabled on a full channel), a send with a
  `default` branch (`trySend`, which DROPS the element on a full channel) and
  a receive (`recv`, disabled on an empty channel).
-/
import Mathlib.Data.List.Basic

namespace SIngress.Lib

universe u

/-- A buffered channel; the oldest element stands first. -/
structure Chan (α : Type u) (cap : Nat) where
  buf : List α
  bounded : buf.length ≤ cap

namespace Chan

variable {α : Type u} {cap : Nat}

/-- The channel `make(chan α, cap)` returns. -/
def empty : Chan α cap := ⟨[], Nat.zero_le _⟩

/-- `c <- x`; `none` while the channel is full. -/
def send (c : Chan α cap) (x : α) : Option (Chan α cap) :=
  if h : c.buf.length < cap then some ⟨c.buf ++ [x], by rw [List.length_append]; exact h⟩
  else none

/-- `select { case c <- x: default: }`. -/
def trySend (c : Chan α cap) (x : α) : Chan α cap :=
  (c.send x).getD c

/-- `<-c`; `none` while the channel is empty. -/
def recv (c : Chan α cap) : Option (α × Chan α cap) :=
  match h : c.buf with
  | [] => none
  | x :: rest => some (x, ⟨rest, by have := c.bounded; rw [h] at this; exact Nat.le_of_succ_le this⟩)

@[ext] theorem ext {c d : Chan α cap} (h : c.buf = d.buf) : c = d := by
  cases c; cases d; cases h; rfl

@[simp] theorem empty_buf : (empty : Chan α cap).buf = [] := rfl

theorem send_buf {c d : Chan α cap} {x : α} (h : c.send x = some d) :
    d.buf = c.buf ++ [x] := by
  unfold send at h
  split at h
  · cases h; rfl
  · cases h

theorem recv_buf {c d : Chan α cap} {x : α} (h : c.recv = some (x, d)) :
    c.buf = x :: d.buf := by
  unfold recv at h
  split at h
  · cases h
  · next rest hc => cases h; exact hc

/-- A dropping send leaves the channel as it was or appends the element. -/
theorem trySend_buf (c : Chan α cap) (x : α) :
    (c.trySend x).buf = c.buf ++ [x] ∨ ((c.trySend x) = c ∧ c.buf.length = cap) := by
  unfold trySend
  cases hs : c.send x with
  | some d => exact Or.inl (send_buf hs)
  | none =>
      refine Or.inr ⟨rfl, ?_⟩
      have hb := c.bounded
      unfold send at hs
      split at hs
      · cases hs
      · omega

/-- **A dropped request is not lost**: after a dropping send the channel is not
empty, whether or not the element went in. -/
theorem trySend_ne_nil (hcap : 0 < cap) (c : Chan α cap) (x : α) :
    (c.trySend x).buf ≠ [] := by
  rcases trySend_buf c x with h | ⟨h, hlen⟩
  · rw [h]; simp
  · rw [h]
    intro hnil
    rw [hnil] at hlen
    simp at hlen
    omega

end Chan

end SIngress.Lib
