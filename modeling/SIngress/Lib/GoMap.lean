/-
  SIngress.Lib.GoMap — UNORDERED MAPS AND THEIR ITERATION ORDERS.

  A map is Mathlib's `Finmap` with a constant value family: two maps with the
  same lookups are equal, and no order of the entries is part of the value.
  A `range` loop visits every entry once, in an order the language leaves
  open; `Ranges m l` says that `l` is one such order.  Every map has one
  (`exists_ranges`), any two are permutations of each other (`Ranges.perm`)
  and a permutation of an order is an order (`Ranges.of_perm`).
-/
import Mathlib.Data.Finmap
import Mathlib.Data.Finset.Lattice.Fold

namespace SIngress.Lib

universe u v

/-- A map from `K` to `V` with no order on its entries. -/
abbrev GoMap (K : Type u) (V : Type v) := Finmap fun _ : K => V

namespace GoMap

variable {K : Type u} {V : Type v} [DecidableEq K]

/-- `l` lists the entries of `m`, each once: an order in which a `range` loop
may visit them. -/
def Ranges (m : GoMap K V) (l : List (K × V)) : Prop :=
  (l.map Prod.fst).Nodup ∧ ∀ k v, (k, v) ∈ l ↔ m.lookup k = some v

/-- The empty map is visited in the empty order. -/
theorem ranges_empty : Ranges (∅ : GoMap K V) [] := by
  refine ⟨List.nodup_nil, fun k v => ?_⟩
  simp [Finmap.lookup_empty]

/-- A new entry may be visited behind the others. -/
theorem Ranges.insert {m : GoMap K V} {l : List (K × V)} (h : Ranges m l) {k : K}
    (hk : m.lookup k = none) (v : V) : Ranges (m.insert k v) (l ++ [(k, v)]) := by
  have hnew : k ∉ l.map Prod.fst := by
    intro hmem
    obtain ⟨⟨k', v'⟩, he, rfl⟩ := List.mem_map.mp hmem
    rw [(h.2 _ _).mp he] at hk
    cases hk
  refine ⟨?_, fun k' v' => ?_⟩
  · rw [List.map_append, List.map_singleton]
    refine List.nodup_append.mpr ⟨h.1, List.nodup_singleton _, ?_⟩
    rintro a ha b hb rfl
    rw [List.mem_singleton.mp hb] at ha
    exact hnew ha
  · rw [List.mem_append, List.mem_singleton, Prod.mk.injEq, h.2]
    by_cases hkey : k' = k
    · subst hkey
      rw [Finmap.lookup_insert, hk, Option.some.injEq]
      exact ⟨fun h => (h.resolve_left fun h => by cases h).2.symm, fun h => .inr ⟨rfl, h.symm⟩⟩
    · rw [Finmap.lookup_insert_of_ne _ hkey]
      exact ⟨fun h => h.resolve_right fun h => hkey h.1, .inl⟩

/-- A map with one entry is visited in one order. -/
theorem ranges_insert_empty (k : K) (v : V) :
    Ranges ((∅ : GoMap K V).insert k v) [(k, v)] :=
  ranges_empty.insert (Finmap.lookup_empty k) v

/-- **Every map can be visited.** -/
theorem exists_ranges (m : GoMap K V) : ∃ l, Ranges m l := by
  induction m using Finmap.induction_on with
  | H a =>
      refine ⟨a.entries.map fun e => (e.1, e.2), ?_, fun k v => ?_⟩
      · have h := a.nodupKeys
        rw [List.NodupKeys, List.keys] at h
        rw [List.map_map]
        exact h
      · rw [Finmap.lookup_toFinmap, AList.lookup, ← Option.mem_def,
          List.mem_dlookup_iff a.nodupKeys, List.mem_map]
        constructor
        · rintro ⟨⟨k', v'⟩, he, heq⟩
          cases heq
          exact he
        · intro he
          exact ⟨⟨k, v⟩, he, rfl⟩

/-- A measure of the keys is bounded: a map has finitely many. -/
theorem exists_bound (m : GoMap K V) (size : K → Nat) :
    ∃ n, ∀ k v, m.lookup k = some v → size k < n := by
  refine ⟨m.keys.sup size + 1, ?_⟩
  intro k v hk
  have hmem : k ∈ m.keys := Finmap.mem_keys.mpr (Finmap.mem_of_lookup_eq_some hk)
  exact Nat.lt_succ_of_le (Finset.le_sup hmem)

theorem Ranges.nodup {m : GoMap K V} {l : List (K × V)} (h : Ranges m l) : l.Nodup :=
  List.Nodup.of_map _ h.1

theorem Ranges.mem_iff {m : GoMap K V} {l : List (K × V)} (h : Ranges m l) {k : K} {v : V} :
    (k, v) ∈ l ↔ m.lookup k = some v := h.2 k v

/-- Two orders of one map are permutations of each other. -/
theorem Ranges.perm {m : GoMap K V} {l l' : List (K × V)} (h : Ranges m l)
    (h' : Ranges m l') : l.Perm l' := by
  rw [List.perm_ext_iff_of_nodup h.nodup h'.nodup]
  rintro ⟨k, v⟩
  rw [h.mem_iff, h'.mem_iff]

/-- A permutation of an order is an order. -/
theorem Ranges.of_perm {m : GoMap K V} {l l' : List (K × V)} (h : Ranges m l)
    (hp : l.Perm l') : Ranges m l' := by
  refine ⟨((hp.map Prod.fst).nodup_iff).mp h.1, fun k v => ?_⟩
  rw [← hp.mem_iff, h.mem_iff]

/-- The orders the run-time picks for the maps of one type during one call: some
order of every map. -/
structure RangeChoice (K : Type u) (V : Type v) [DecidableEq K] where
  order : GoMap K V → List (K × V)
  ranges : ∀ m, Ranges m (order m)

theorem Ranges.eq_nil {l : List (K × V)} (h : Ranges ∅ l) : l = [] := by
  refine List.eq_nil_iff_forall_not_mem.mpr ?_
  rintro ⟨k, v⟩ hmem
  have hl := h.mem_iff.mp hmem
  rw [Finmap.lookup_empty] at hl
  cases hl

theorem RangeChoice.order_empty (c : RangeChoice K V) : c.order ∅ = [] :=
  (c.ranges ∅).eq_nil

instance : Nonempty (RangeChoice K V) :=
  ⟨⟨fun m => (exists_ranges m).choose, fun m => (exists_ranges m).choose_spec⟩⟩

/-- The run-time may pick any order of a map. -/
theorem Ranges.exists_choice {m : GoMap K V} {l : List (K × V)} (h : Ranges m l) :
    ∃ c : RangeChoice K V, c.order m = l := by
  classical
  obtain ⟨c⟩ := (inferInstance : Nonempty (RangeChoice K V))
  refine ⟨⟨fun m' => if m' = m then l else c.order m', ?_⟩, if_pos rfl⟩
  intro m'
  by_cases hm : m' = m
  · rw [if_pos hm, hm]
    exact h
  · rw [if_neg hm]
    exact c.ranges m'

/-- Any entry may be the one visited last. -/
theorem exists_choice_last {m : GoMap K V} {k : K} {v : V} (h : m.lookup k = some v) :
    ∃ (c : RangeChoice K V) (l : List (K × V)), c.order m = l ++ [(k, v)] := by
  classical
  obtain ⟨l, hl⟩ := exists_ranges m
  have hperm : l.Perm (l.erase (k, v) ++ [(k, v)]) :=
    (List.perm_cons_erase (hl.mem_iff.mpr h)).trans (List.perm_append_singleton _ _).symm
  obtain ⟨c, hc⟩ := (hl.of_perm hperm).exists_choice
  exact ⟨c, _, hc⟩

/-! ## Looking up after a write, in one case split. -/

theorem lookup_insert_eq (m : GoMap K V) (k k' : K) (v : V) :
    (m.insert k v).lookup k' = if k' = k then some v else m.lookup k' := by
  by_cases h : k' = k
  · subst h
    rw [if_pos rfl, Finmap.lookup_insert]
  · rw [if_neg h, Finmap.lookup_insert_of_ne _ h]

theorem lookup_erase_eq (m : GoMap K V) (k k' : K) :
    (m.erase k).lookup k' = if k' = k then none else m.lookup k' := by
  by_cases h : k' = k
  · subst h
    rw [if_pos rfl, Finmap.lookup_erase]
  · rw [if_neg h, Finmap.lookup_erase_ne h]

/-! ## Loops that write one cell per entry.

The body of a `range` loop often touches only the part of its state that belongs to the
key it visits: `cell s k` is that part, `write` what the visit makes of it. -/

section

variable {S : Type*} {W : Type*} {step : S → K × V → S} (cell : S → K → W)
  (write : K × V → W → W)

/-- The cell of a key that is not visited stays. -/
theorem foldl_cell_of_not {l : List (K × V)} {k : K}
    (hstep : ∀ s, ∀ e ∈ l, cell (step s e) k = if k = e.1 then write e (cell s k) else cell s k)
    (hk : k ∉ l.map Prod.fst) (s : S) : cell (l.foldl step s) k = cell s k := by
  induction l generalizing s with
  | nil => rfl
  | cons e l ih =>
      have hne : k ≠ e.1 := fun h => hk (by simp [h])
      have hrest : k ∉ l.map Prod.fst := fun hmem => hk (List.mem_cons_of_mem _ hmem)
      rw [List.foldl_cons, ih (fun s e he => hstep s e (List.mem_cons_of_mem _ he)) hrest,
        hstep s e List.mem_cons_self, if_neg hne]

/-- **In whatever order the entries are visited, each writes its cell once.** -/
theorem Ranges.foldl_cell {m : GoMap K V} {l : List (K × V)} (h : Ranges m l) {k : K}
    (hstep : ∀ s, ∀ e ∈ l, cell (step s e) k = if k = e.1 then write e (cell s k) else cell s k)
    (s : S) :
    cell (l.foldl step s) k
      = match m.lookup k with
        | none => cell s k
        | some v => write (k, v) (cell s k) := by
  cases hlook : m.lookup k with
  | none =>
      refine foldl_cell_of_not cell write hstep ?_ s
      intro hmem
      obtain ⟨⟨k', v⟩, hv, rfl⟩ := List.mem_map.mp hmem
      rw [h.mem_iff.mp hv] at hlook
      cases hlook
  | some v =>
      -- the visit of the entry writes the cell, and no other visit has its key
      obtain ⟨before, after, rfl⟩ := List.append_of_mem (h.mem_iff.mpr hlook)
      have hnodup := h.1
      rw [List.map_append, List.map_cons, List.nodup_append] at hnodup
      have hafter : k ∉ after.map Prod.fst := (List.nodup_cons.mp hnodup.2.1).1
      have hbefore : k ∉ before.map Prod.fst := fun hmem =>
        hnodup.2.2 k hmem k List.mem_cons_self rfl
      rw [List.foldl_append, List.foldl_cons,
        foldl_cell_of_not cell write (fun s e he => hstep s e (by simp [he])) hafter,
        hstep _ (k, v) (by simp), if_pos rfl,
        foldl_cell_of_not cell write (fun s e he => hstep s e (by simp [he])) hbefore]

end

/-! ## Copying a map in a `range` loop. -/

/-- The loop `for k, v := range m { if skip(k) { continue }; copy[k] = v }`. -/
def copyRange (skip : K → Bool) (l : List (K × V)) (copy : GoMap K V) : GoMap K V :=
  l.foldl (fun copy e => if skip e.1 then copy else copy.insert e.1 e.2) copy

/-- **The copy has the entries that were not skipped.** -/
theorem lookup_copyRange {skip : K → Bool} {m : GoMap K V} {l : List (K × V)} (h : Ranges m l)
    (k : K) : (copyRange skip l ∅).lookup k = if skip k then none else m.lookup k := by
  have hstep : ∀ (copy : GoMap K V), ∀ e ∈ l,
      (if skip e.1 then copy else copy.insert e.1 e.2).lookup k
        = if k = e.1 then (if skip e.1 then copy.lookup k else some e.2) else copy.lookup k := by
    intro copy e _
    by_cases hskip : skip e.1 = true
    · rw [if_pos hskip, if_pos hskip, ite_self]
    · rw [if_neg hskip, if_neg hskip, lookup_insert_eq]
  have hloop := h.foldl_cell (fun (copy : GoMap K V) k => copy.lookup k)
    (fun e old => if skip e.1 then old else some e.2) hstep ∅
  unfold copyRange
  rw [hloop, Finmap.lookup_empty]
  cases hlook : m.lookup k with
  | none => exact (ite_self _).symm
  | some v => rfl

end GoMap

end SIngress.Lib
