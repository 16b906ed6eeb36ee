/-
  SIngress.Lib.RankedInsert — FIRST MATCH OVER A LIST KEPT IN RANK ORDER.

  Elements carry a rank in a linear order.  A new element goes in front of the
  first one it is not outranked by, so the list stays ordered by non-increasing
  rank and, within one rank, the most recently added element stands first.
  `insertAll` is the list a sequence of insertions builds (Mathlib's
  `orderedInsert`, folded from the left).

  A lookup is the first element a predicate accepts.  `find?_insertAll_concat`
  is the step rule: the element just added wins exactly when it is accepted
  and no accepted element outranks it.  From it:

    • `find?_insertAll_spec` — the winner is accepted and of maximal rank,
    • `find?_insertAll_of_unique` — an accepted element that strictly outranks
      every other accepted one wins in EVERY insertion order,
    • `find?_insertAll_eq_last` — among accepted elements of the top rank the
      winner is the one inserted last,
    • `find?_insertAll_eq_latest` — the winner, in terms of the insertions alone.
-/
import Mathlib.Data.List.Sort
import SIngress.Lib.Latest

namespace SIngress.Lib

universe u v

section RankedInsert

variable {α : Type u} {R : Type v} [LinearOrder R] (rank : α → R)

/-! ## §1. The list a sequence of insertions builds. -/

/-- Insert `x` in front of the first element that does not outrank it. -/
def rankedInsert (x : α) (l : List α) : List α :=
  l.orderedInsert (fun a b => rank b ≤ rank a) x

/-- The list built by inserting the elements of `l` from left to right. -/
def insertAll (l : List α) : List α :=
  l.foldl (fun acc x => rankedInsert rank x acc) []

theorem insertAll_concat (l : List α) (x : α) :
    insertAll rank (l ++ [x]) = rankedInsert rank x (insertAll rank l) := by
  unfold insertAll
  rw [List.foldl_append]
  rfl

theorem rankedInsert_perm (x : α) (l : List α) : (rankedInsert rank x l).Perm (x :: l) :=
  List.perm_orderedInsert _ x l

/-- Nothing is lost and nothing is duplicated. -/
theorem insertAll_perm (l : List α) : (insertAll rank l).Perm l := by
  induction l using List.reverseRecOn with
  | nil => exact List.Perm.refl _
  | append_singleton l x ih =>
      rw [insertAll_concat]
      calc (rankedInsert rank x (insertAll rank l)).Perm (x :: insertAll rank l) :=
            rankedInsert_perm rank x _
        _ |>.Perm (x :: l) := ih.cons x
        _ |>.Perm (l ++ [x]) := (List.perm_append_singleton x l).symm

/-- The list is ordered by non-increasing rank. -/
theorem insertAll_pairwise (l : List α) :
    (insertAll rank l).Pairwise (fun a b => rank b ≤ rank a) := by
  induction l using List.reverseRecOn with
  | nil => exact List.Pairwise.nil
  | append_singleton l x ih =>
      rw [insertAll_concat]
      have : Std.Total (fun a b : α => rank b ≤ rank a) :=
        ⟨fun a b => le_total (rank b) (rank a)⟩
      have : IsTrans α (fun a b : α => rank b ≤ rank a) :=
        ⟨fun a b c hab hbc => le_trans hbc hab⟩
      exact List.Pairwise.orderedInsert x _ ih

/-! ## §2. First match. -/

variable (p : α → Bool)

/-- **The step rule of a lookup.**  On a list in rank order the inserted element
wins exactly when it is accepted and not outranked by the former winner. -/
theorem find?_rankedInsert (x : α) {l : List α}
    (hl : l.Pairwise (fun a b => rank b ≤ rank a)) :
    (rankedInsert rank x l).find? p
      = if p x = true ∧ ∀ y ∈ l.find? p, rank y ≤ rank x then some x else l.find? p := by
  induction l with
  | nil =>
      unfold rankedInsert
      by_cases hx : p x = true <;> simp [hx]
  | cons a l ih =>
      have hla := (List.pairwise_cons.mp hl).1
      have ih' := ih (List.pairwise_cons.mp hl).2
      unfold rankedInsert at ih' ⊢
      rw [List.orderedInsert_cons]
      by_cases hax : rank a ≤ rank x
      · -- inserted at the head: everything behind it ranks at most as high
        rw [if_pos hax]
        by_cases hx : p x = true
        · have hall : ∀ y ∈ (a :: l).find? p, rank y ≤ rank x := by
            intro y hy
            have hmem := List.mem_of_find?_eq_some (Option.mem_def.mp hy)
            rcases List.mem_cons.mp hmem with h | h
            · rw [h]; exact hax
            · exact le_trans (hla y h) hax
          rw [if_pos ⟨hx, hall⟩, List.find?_cons_of_pos hx]
        · rw [if_neg (fun h => hx h.1), List.find?_cons_of_neg (by simpa using hx)]
      · -- `a` outranks it and stays in front
        rw [if_neg hax]
        by_cases ha : p a = true
        · rw [List.find?_cons_of_pos ha, List.find?_cons_of_pos ha]
          rw [if_neg]
          rintro ⟨_, hr⟩
          exact hax (hr a rfl)
        · rw [List.find?_cons_of_neg (by simpa using ha),
              List.find?_cons_of_neg (by simpa using ha), ih']

theorem find?_insertAll_concat (l : List α) (x : α) :
    (insertAll rank (l ++ [x])).find? p
      = if p x = true ∧ ∀ y ∈ (insertAll rank l).find? p, rank y ≤ rank x
        then some x else (insertAll rank l).find? p := by
  rw [insertAll_concat]
  exact find?_rankedInsert rank p x (insertAll_pairwise rank l)

/-- The winner is accepted and no accepted element outranks it. -/
theorem find?_insertAll_spec {l : List α} {x : α}
    (h : (insertAll rank l).find? p = some x) :
    x ∈ l ∧ p x = true ∧ ∀ y ∈ l, p y = true → rank y ≤ rank x := by
  have hx := List.mem_of_find?_eq_some h
  refine ⟨(insertAll_perm rank l).mem_iff.mp hx, List.find?_some h, ?_⟩
  intro y hy hpy
  obtain ⟨as, bs, hsplit, hnone⟩ := (List.find?_eq_some_iff_append.mp h).2
  have hmem := (insertAll_perm rank l).mem_iff.mpr hy
  rw [hsplit, List.mem_append, List.mem_cons] at hmem
  rcases hmem with hm | hm | hm
  · have := hnone y hm
    rw [hpy] at this
    simp at this
  · rw [hm]
  · have hpw := insertAll_pairwise rank l
    rw [hsplit, List.pairwise_append] at hpw
    exact (List.pairwise_cons.mp hpw.2.1).1 y hm

/-- There is a winner exactly when something is accepted. -/
theorem find?_insertAll_eq_none {l : List α} :
    (insertAll rank l).find? p = none ↔ ∀ y ∈ l, ¬ p y = true := by
  rw [List.find?_eq_none]
  constructor
  · intro h y hy
    exact h y ((insertAll_perm rank l).mem_iff.mpr hy)
  · intro h y hy
    exact h y ((insertAll_perm rank l).mem_iff.mp hy)

/-- **An accepted element that outranks every other accepted one wins in every
insertion order.** -/
theorem find?_insertAll_of_unique {l : List α} {x : α} (hx : x ∈ l) (hpx : p x = true)
    (huniq : ∀ y ∈ l, p y = true → rank x ≤ rank y → y = x) :
    (insertAll rank l).find? p = some x := by
  cases hf : (insertAll rank l).find? p with
  | none => exact absurd hpx ((find?_insertAll_eq_none rank p).mp hf x hx)
  | some y =>
      obtain ⟨hy, hpy, hmax⟩ := find?_insertAll_spec rank p hf
      rw [huniq y hy hpy (hmax x hx hpx)]

/-- **Ties go to the element inserted last**: `x` wins when nothing accepted
outranks it and nothing accepted of at least its rank is inserted after it. -/
theorem find?_insertAll_eq_last {l₁ l₂ : List α} {x : α} (hpx : p x = true)
    (hbefore : ∀ y ∈ l₁, p y = true → rank y ≤ rank x)
    (hafter : ∀ y ∈ l₂, p y = true → rank y < rank x) :
    (insertAll rank (l₁ ++ x :: l₂)).find? p = some x := by
  induction l₂ using List.reverseRecOn with
  | nil =>
      rw [find?_insertAll_concat, if_pos]
      refine ⟨hpx, fun y hy => ?_⟩
      obtain ⟨hmem, hpy, _⟩ := find?_insertAll_spec rank p (Option.mem_def.mp hy)
      exact hbefore y hmem hpy
  | append_singleton l₂ y ih =>
      have hfirst := ih (fun z hz => hafter z (List.mem_append_left _ hz))
      rw [show l₁ ++ x :: (l₂ ++ [y]) = (l₁ ++ x :: l₂) ++ [y] by simp,
        find?_insertAll_concat, hfirst, if_neg]
      rintro ⟨hpy, hr⟩
      have hlt := hafter y (by simp) hpy
      exact absurd (hr x rfl) (not_le.mpr hlt)

/-- **The winner is the latest of the accepted elements that no accepted one outranks.** -/
theorem find?_insertAll_eq_latest (l : List α) :
    (insertAll rank l).find? p
      = latest (fun x => p x && decide (∀ y ∈ l, p y = true → rank y ≤ rank x)) l := by
  cases hlatest : latest (fun x => p x && decide (∀ y ∈ l, p y = true → rank y ≤ rank x)) l with
  | none =>
      have hnone := latest_eq_none_iff.mp hlatest
      cases hf : (insertAll rank l).find? p with
      | none => rfl
      | some w =>
          -- a winner would be such an element
          obtain ⟨hw, hpw, hmax⟩ := find?_insertAll_spec rank p hf
          refine absurd ?_ (hnone w hw)
          simpa [hpw] using hmax
  | some z =>
      obtain ⟨older, newer, hl, hz, hnewer⟩ := latest_eq_some_iff.mp hlatest
      simp only [Bool.and_eq_true, decide_eq_true_eq] at hz hnewer
      obtain ⟨hpz, hmax⟩ := hz
      rw [hl]
      refine find?_insertAll_eq_last rank p hpz ?_ ?_
      · intro y hy hpy
        exact hmax y (by rw [hl]; exact List.mem_append_left _ hy) hpy
      · -- a later element of the same rank would be such an element too
        intro y hy hpy
        have hmem : y ∈ l := by
          rw [hl]
          exact List.mem_append_right _ (List.mem_cons_of_mem _ hy)
        refine lt_of_le_of_ne (hmax y hmem hpy) ?_
        intro heq
        refine hnewer y hy ⟨hpy, ?_⟩
        rw [heq]
        exact hmax

end RankedInsert

end SIngress.Lib
