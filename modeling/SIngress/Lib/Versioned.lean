/-
  SIngress.Lib.Versioned — OBJECTS WITH VERSIONS, AND COPIES OF THEM.

  A store gives every change of an object a version it has never given before.
  Readers hold copies, which may be old.  Which writes from copies it accepts is
  up to its rule; of the rule it is assumed that it accepts a write only if the
  object still has the version of the copy, and only if the write changes it.

    • `Known`         — a copy that the store has handed out at some time: if its
                        version is current, so is all of it; no change of the
                        store takes this back,
    • `replaced_from` — a write that is accepted was made from the current object.
-/
import SIngress.Lib.GoMap

namespace SIngress.Lib

universe u v

variable {K : Type u} {α : Type v}

/-- An object at one of its versions. -/
structure Versioned (α : Type v) where
  version : Nat
  value : α
  deriving DecidableEq

/-- The rule by which a store accepts writes: from the object it has, if any, the copy the write
is made from, and what is to be stored. -/
structure WriteRule (α : Type v) where
  accepts : Option (Versioned α) → Versioned α → α → Bool
  /-- There is nothing to change. -/
  missing : ∀ copy a, accepts none copy a = false
  /-- Writes from an outdated copy are refused. -/
  outdated : ∀ o copy a, accepts (some o) copy a = true → o.version = copy.version
  /-- What would change nothing is no write. -/
  unchanged : ∀ o copy a, accepts (some o) copy a = true → a ≠ o.value

/-- No other write is refused. -/
def WriteRule.Willing (rule : WriteRule α) : Prop :=
  ∀ o a, a ≠ o.value → rule.accepts (some o) o a = true

/-- The rule that accepts all it may accept. -/
def WriteRule.optimistic [DecidableEq α] : WriteRule α where
  accepts o? copy a := o?.any fun o => o.version == copy.version && a != o.value
  missing := fun _ _ => rfl
  outdated := fun o copy a h => by
    simp only [Option.any_some, Bool.and_eq_true, beq_iff_eq] at h
    exact h.1
  unchanged := fun o copy a h => by
    simp only [Option.any_some, Bool.and_eq_true, bne_iff_ne] at h
    exact h.2

theorem WriteRule.optimistic_willing [DecidableEq α] :
    (WriteRule.optimistic : WriteRule α).Willing := by
  intro o a hne
  show (o.version == o.version && a != o.value) = true
  simp [hne]

/-- The objects, and the last version that was given. -/
structure VersionedStore (K : Type u) (α : Type v) [DecidableEq K] where
  objects : GoMap K (Versioned α)
  revision : Nat
  bounded : ∀ k o, objects.lookup k = some o → o.version ≤ revision

namespace VersionedStore

variable [DecidableEq K]

def empty : VersionedStore K α where
  objects := ∅
  revision := 0
  bounded := fun k o h => by
    rw [Finmap.lookup_empty] at h
    cases h

/-- The object under the key. -/
def get (s : VersionedStore K α) (k : K) : Option (Versioned α) := s.objects.lookup k

/-- An object is created or changed, at a new version. -/
def put (s : VersionedStore K α) (k : K) (a : α) : VersionedStore K α where
  objects := s.objects.insert k ⟨s.revision + 1, a⟩
  revision := s.revision + 1
  bounded := fun k' o h => by
    rw [GoMap.lookup_insert_eq] at h
    split_ifs at h
    · cases h
      exact le_refl _
    · exact Nat.le_succ_of_le (s.bounded k' o h)

def remove (s : VersionedStore K α) (k : K) : VersionedStore K α where
  objects := s.objects.erase k
  revision := s.revision + 1
  bounded := fun k' o h => by
    rw [GoMap.lookup_erase_eq] at h
    split_ifs at h
    exact Nat.le_succ_of_le (s.bounded k' o h)

/-- A write from a copy. -/
def replace (rule : WriteRule α) (s : VersionedStore K α) (k : K) (copy : Versioned α) (a : α) :
    VersionedStore K α :=
  if rule.accepts (s.get k) copy a then s.put k a else s

/-! ## §1. What is stored. -/

section

variable (s : VersionedStore K α) (k k' : K) (a : α)

@[simp] theorem get_empty : (empty : VersionedStore K α).get k = none := Finmap.lookup_empty k

theorem get_put : (s.put k a).get k' = if k' = k then some ⟨s.revision + 1, a⟩ else s.get k' :=
  GoMap.lookup_insert_eq _ _ _ _

theorem get_remove : (s.remove k).get k' = if k' = k then none else s.get k' :=
  GoMap.lookup_erase_eq _ _ _

end

/-! ## §2. Copies. -/

/-- A copy the store has handed out: it is not newer than the store, and of the current
version only if it is the current object. -/
structure Known (s : VersionedStore K α) (k : K) (copy : Versioned α) : Prop where
  older : copy.version ≤ s.revision
  current : ∀ o, s.get k = some o → o.version = copy.version → o = copy

section

variable {s : VersionedStore K α} {k k' : K} {a : α} {copy : Versioned α}

theorem known_of_get (h : s.get k = some copy) : s.Known k copy where
  older := s.bounded k copy h
  current := fun o ho _ => by
    rw [h] at ho
    exact (Option.some.inj ho).symm

theorem Known.put (h : s.Known k copy) (k' : K) (a : α) : (s.put k' a).Known k copy where
  older := Nat.le_succ_of_le h.older
  current := fun o ho hversion => by
    rw [get_put] at ho
    split_ifs at ho
    · -- the new version is newer than any copy
      cases ho
      have hnew : s.revision + 1 = copy.version := hversion
      have holder := h.older
      omega
    · exact h.current o ho hversion

theorem Known.remove (h : s.Known k copy) (k' : K) : (s.remove k').Known k copy where
  older := Nat.le_succ_of_le h.older
  current := fun o ho hversion => by
    rw [get_remove] at ho
    split_ifs at ho
    exact h.current o ho hversion

/-- A changed object is not the one of a copy. -/
theorem Known.get_put_ne (h : s.Known k copy) : (s.put k a).get k ≠ some copy := by
  intro heq
  rw [get_put, if_pos rfl] at heq
  have hversion : s.revision + 1 = copy.version := by rw [← Option.some.inj heq]
  have holder := h.older
  omega

/-- **A write that is accepted was made from the current object**, and changes it. -/
theorem replaced_from {rule : WriteRule α} (h : s.Known k copy)
    (haccepts : rule.accepts (s.get k) copy a = true) :
    s.get k = some copy ∧ a ≠ copy.value := by
  cases hget : s.get k with
  | none =>
      rw [hget, rule.missing] at haccepts
      cases haccepts
  | some o =>
      rw [hget] at haccepts
      have hsame : o = copy := h.current o hget (rule.outdated o copy a haccepts)
      rw [hsame] at haccepts ⊢
      exact ⟨rfl, rule.unchanged copy copy a haccepts⟩

end

end VersionedStore

end SIngress.Lib
