/-
  SIngress.Base.Fail — HOW A GO FUNCTION CAN FAIL.

  A fallible function returns `Except Fail α`.  A returned `error` is its
  text; a run-time panic (nil dereference, index out of range, an explicit
  `panic`) unwinds the goroutine; `log.Fatal` ends the process.
-/
import SIngress.Base.GoString

namespace SIngress.Base

/-- The text of a Go `error`. -/
abbrev GoError := GoString

/-- A failure of a Go function. -/
inductive Fail where
  /-- A returned `error`. -/
  | err (msg : GoError)
  /-- A panic, with what it panics with. -/
  | panic (msg : GoString)
  /-- `log.Fatal`: the process exits. -/
  | fatal (msg : GoString)
  deriving DecidableEq

/-- Text of the run-time panic on a nil pointer. -/
def nilDereference : GoString :=
  lit "runtime error: invalid memory address or nil pointer dereference"

/-! ## §1. Errors with a context. -/

/-- `fmt.Errorf("<context>%w", err)`: panics and exits pass through unchanged. -/
def Fail.wrap (context : GoString) : Fail → Fail
  | .err msg => .err (context ++ msg)
  | f => f

/-- A call whose error gets a context. -/
def wrapErr {α : Type} (context : GoString) (x : Except Fail α) : Except Fail α :=
  x.mapError (Fail.wrap context)

/-- The same for a call that can only return an error. -/
def context {α : Type} (text : GoString) (x : Except GoError α) : Except GoError α :=
  x.mapError (text ++ ·)

/-- A library call whose error gets a context. -/
def errorf {α : Type} (context : GoString) (x : Except GoError α) : Except Fail α :=
  x.mapError fun msg => .err (context ++ msg)

/-- A library check that returns an error or nothing; the error gets a context. -/
def checkf (context : GoString) : Option GoError → Except Fail Unit
  | some msg => .error (.err (context ++ msg))
  | none => .ok ()

/-! ## §2. The bind of `Except`, taken apart once. -/

universe u v

/-- A sequence of two fallible steps succeeds exactly when both do. -/
theorem bind_eq_ok {ε : Type u} {α β : Type v} {x : Except ε α} {f : α → Except ε β} {b : β} :
    (x >>= f) = .ok b ↔ ∃ a, x = .ok a ∧ f a = .ok b := by
  cases x with
  | error e =>
      constructor
      · intro h
        cases h
      · rintro ⟨a, h, _⟩
        cases h
  | ok a =>
      constructor
      · intro h
        exact ⟨a, rfl, h⟩
      · rintro ⟨a', h, hf⟩
        cases h
        exact hf

theorem wrapErr_eq_ok {α : Type} {context : GoString} {x : Except Fail α} {a : α} :
    wrapErr context x = .ok a ↔ x = .ok a := by
  cases x with
  | error e => constructor <;> intro h <;> cases h
  | ok b => exact Iff.rfl

theorem context_eq_ok {α : Type} {text : GoString} {x : Except GoError α} {a : α} :
    context text x = .ok a ↔ x = .ok a := by
  cases x with
  | error e => constructor <;> intro h <;> cases h
  | ok b => exact Iff.rfl

theorem errorf_eq_ok {α : Type} {context : GoString} {x : Except GoError α} {a : α} :
    errorf context x = .ok a ↔ x = .ok a := by
  cases x with
  | error e => constructor <;> intro h <;> cases h
  | ok b => exact ⟨fun h => by cases h; rfl, fun h => by cases h; rfl⟩

theorem checkf_eq_ok {context : GoString} {x : Option GoError} {u : Unit} :
    checkf context x = .ok u ↔ x = none := by
  cases x with
  | some e => constructor <;> intro h <;> cases h
  | none => exact ⟨fun _ => rfl, fun _ => rfl⟩

/-- A fallible loop over a longer list runs the head, then the rest. -/
theorem foldlM_cons_eq_ok {ε : Type u} {α : Type v} {β : Type v} {f : β → α → Except ε β}
    {b r : β} {a : α} {l : List α} :
    (a :: l).foldlM f b = .ok r ↔ ∃ b', f b a = .ok b' ∧ l.foldlM f b' = .ok r := by
  rw [List.foldlM_cons]
  exact bind_eq_ok

/-- A loop over independent steps succeeds exactly if each of them does. -/
theorem mapM_ok_iff {α β : Type} {g : α → Except Fail β} {l : List α} :
    (∃ bs, l.mapM g = .ok bs) ↔ ∀ a ∈ l, ∃ b, g a = .ok b := by
  induction l with
  | nil => exact ⟨fun _ a ha => absurd ha List.not_mem_nil, fun _ => ⟨[], rfl⟩⟩
  | cons a l ih =>
      rw [List.forall_mem_cons, ← ih, List.mapM_cons]
      constructor
      · rintro ⟨bs, h⟩
        obtain ⟨b, hb, h⟩ := bind_eq_ok.mp h
        obtain ⟨rest, hrest, _⟩ := bind_eq_ok.mp h
        exact ⟨⟨b, hb⟩, rest, hrest⟩
      · rintro ⟨⟨b, hb⟩, rest, hrest⟩
        exact ⟨b :: rest, bind_eq_ok.mpr ⟨b, hb, bind_eq_ok.mpr ⟨rest, hrest, rfl⟩⟩⟩

/-- **The transfer rule of a fallible loop.**  If every step of one loop that ends in `P`
is a step of the other and started in `P`, a run of the one that ends in `P` is a run of the
other. -/
theorem foldlM_transfer {ε : Type u} {α : Type v} {β : Type v} {f g : β → α → Except ε β}
    {P : β → Prop} {l : List α} {b r : β}
    (hstep : ∀ b a b', f b a = .ok b' → P b' → g b a = .ok b' ∧ P b)
    (h : l.foldlM f b = .ok r) (hr : P r) : l.foldlM g b = .ok r ∧ P b := by
  induction l generalizing b with
  | nil =>
      cases h
      exact ⟨rfl, hr⟩
  | cons a l ih =>
      obtain ⟨b', h₁, h₂⟩ := foldlM_cons_eq_ok.mp h
      -- the property comes back from the end of the loop to its first step
      obtain ⟨hrest, hb'⟩ := ih h₂
      obtain ⟨hfirst, hb⟩ := hstep b a b' h₁ hb'
      exact ⟨foldlM_cons_eq_ok.mpr ⟨b', hfirst, hrest⟩, hb⟩

/-- **The invariant rule of a fallible loop.**  What every successful step keeps, a
successful loop keeps. -/
theorem foldlM_invariant {ε : Type u} {α : Type v} {β : Type v} {f : β → α → Except ε β}
    {I : β → Prop} {l : List α} {b r : β}
    (hstep : ∀ b, ∀ a ∈ l, ∀ b', f b a = .ok b' → I b → I b') (h : l.foldlM f b = .ok r)
    (hb : I b) : I r := by
  induction l generalizing b with
  | nil =>
      cases h
      exact hb
  | cons a l ih =>
      obtain ⟨b', h₁, h₂⟩ := foldlM_cons_eq_ok.mp h
      refine ih (fun b a ha => hstep b a (List.mem_cons_of_mem _ ha)) h₂ ?_
      exact hstep b a List.mem_cons_self b' h₁ hb

/-! ## §3. Failing without a panic. -/

/-- The call returns: a value, or an error. -/
def Graceful {α : Type u} (x : Except Fail α) : Prop := ∀ f, x = .error f → ∃ err, f = .err err

theorem graceful_ok {α : Type u} (a : α) : Graceful (.ok a : Except Fail α) := by
  intro f h
  cases h

theorem graceful_err {α : Type u} (err : GoError) :
    Graceful (.error (.err err) : Except Fail α) := by
  intro f h
  cases h
  exact ⟨err, rfl⟩

theorem Graceful.bind {α β : Type u} {x : Except Fail α} {g : α → Except Fail β}
    (hx : Graceful x) (hg : ∀ a, Graceful (g a)) : Graceful (x >>= g) := by
  cases x with
  | error f =>
      obtain ⟨err, rfl⟩ := hx f rfl
      exact graceful_err err
  | ok a => exact hg a

theorem Graceful.wrapErr {α : Type} {x : Except Fail α} (hx : Graceful x) (context : GoString) :
    Graceful (wrapErr context x) := by
  cases x with
  | error f =>
      obtain ⟨err, rfl⟩ := hx f rfl
      exact graceful_err _
  | ok a => exact graceful_ok a

theorem graceful_errorf {α : Type} (context : GoString) (x : Except GoError α) :
    Graceful (errorf context x) := by
  cases x with
  | error err => exact graceful_err _
  | ok a => exact graceful_ok a

theorem graceful_checkf (context : GoString) (x : Option GoError) :
    Graceful (checkf context x) := by
  cases x with
  | some err => exact graceful_err _
  | none => exact graceful_ok ()

/-- A loop whose steps return returns. -/
theorem graceful_foldlM {α β : Type} {g : β → α → Except Fail β}
    (h : ∀ b a, Graceful (g b a)) (l : List α) (b : β) : Graceful (l.foldlM g b) := by
  induction l generalizing b with
  | nil => exact graceful_ok b
  | cons a l ih =>
      rw [List.foldlM_cons]
      exact (h b a).bind ih

theorem graceful_mapM {α β : Type} {g : α → Except Fail β} (h : ∀ a, Graceful (g a))
    (l : List α) : Graceful (l.mapM g) := by
  induction l with
  | nil => exact graceful_ok []
  | cons a l ih =>
      rw [List.mapM_cons]
      exact (h a).bind fun b => ih.bind fun bs => graceful_ok (b :: bs)

end SIngress.Base
