/-
  SIngress.Lib.Latest — THE LATEST ENTRY OF A LOG.

  A log is a list, oldest entry first.  `latest p log` is the last entry that
  `p` accepts: what a reader sees who looks for the most recent event of a
  kind.  `latest_concat` is its step rule, `latest_eq_some_iff` says where the
  entry stands in the log.
-/
import Mathlib.Data.List.Induction

namespace SIngress.Lib

universe u

variable {α : Type u} {p q : α → Bool}

/-- The last entry that `p` accepts. -/
def latest (p : α → Bool) (log : List α) : Option α := log.reverse.find? p

@[simp] theorem latest_nil : latest p [] = none := rfl

/-- **The step rule**: a new entry hides the earlier ones when it is accepted. -/
theorem latest_concat (log : List α) (x : α) :
    latest p (log ++ [x]) = if p x = true then some x else latest p log := by
  unfold latest
  rw [List.reverse_concat]
  by_cases hx : p x = true
  · rw [if_pos hx, List.find?_cons_of_pos hx]
  · rw [if_neg hx, List.find?_cons_of_neg hx]

/-- The oldest entry counts when no other one is accepted. -/
theorem latest_cons (x : α) (log : List α) :
    latest p (x :: log) = (latest p log).or (if p x = true then some x else none) := by
  unfold latest
  rw [List.reverse_cons, List.find?_append]
  by_cases hx : p x = true
  · rw [if_pos hx, List.find?_cons_of_pos hx]
  · rw [if_neg hx, List.find?_cons_of_neg hx, List.find?_nil]

/-- **The entry is accepted and nothing accepted comes after it.** -/
theorem latest_eq_some_iff {log : List α} {x : α} :
    latest p log = some x ↔
      ∃ older newer, log = older ++ x :: newer ∧ p x = true ∧ ∀ y ∈ newer, ¬ p y = true := by
  unfold latest
  rw [List.find?_eq_some_iff_append]
  constructor
  · rintro ⟨hx, as, bs, hsplit, has⟩
    refine ⟨bs.reverse, as.reverse, ?_, hx, ?_⟩
    · rw [← List.reverse_reverse log, hsplit]
      simp
    · intro y hy
      simpa using has y (List.mem_reverse.mp hy)
  · rintro ⟨older, newer, rfl, hx, hnewer⟩
    refine ⟨hx, newer.reverse, older.reverse, by simp, ?_⟩
    intro y hy
    simpa using hnewer y (List.mem_reverse.mp hy)

theorem latest_eq_none_iff {log : List α} :
    latest p log = none ↔ ∀ x ∈ log, ¬ p x = true := by
  unfold latest
  rw [List.find?_eq_none]
  constructor
  · intro h x hx
    exact h x (List.mem_reverse.mpr hx)
  · intro h x hx
    exact h x (List.mem_reverse.mp hx)

/-- Where an entry has a property, some entry is the last to have it. -/
theorem exists_last {P : α → Prop} {log : List α} {x : α} (hx : x ∈ log) (hPx : P x) :
    ∃ older z newer, log = older ++ z :: newer ∧ P z ∧ ∀ y ∈ newer, ¬ P y := by
  classical
  cases hlatest : latest (fun y => decide (P y)) log with
  | none => exact absurd (decide_eq_true hPx) (latest_eq_none_iff.mp hlatest x hx)
  | some z =>
      obtain ⟨older, newer, hlog, hz, hnewer⟩ := latest_eq_some_iff.mp hlatest
      refine ⟨older, z, newer, hlog, of_decide_eq_true hz, ?_⟩
      intro y hy hPy
      exact hnewer y hy (decide_eq_true hPy)

/-- Only the elements of a list decide a search in it. -/
theorem find?_congr {l : List α} (h : ∀ x ∈ l, p x = true ↔ q x = true) : l.find? p = l.find? q := by
  induction l with
  | nil => rfl
  | cons x l ih =>
      have hx := h x List.mem_cons_self
      have htail := ih fun y hy => h y (List.mem_cons_of_mem _ hy)
      by_cases hp : p x = true
      · rw [List.find?_cons_of_pos hp, List.find?_cons_of_pos (hx.mp hp)]
      · rw [List.find?_cons_of_neg hp, List.find?_cons_of_neg fun hq => hp (hx.mpr hq), htail]

theorem latest_congr {log : List α} (h : ∀ x ∈ log, p x = true ↔ q x = true) :
    latest p log = latest q log :=
  find?_congr fun x hx => h x (List.mem_reverse.mp hx)

end SIngress.Lib
