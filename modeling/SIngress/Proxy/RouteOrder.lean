/-
  SIngress.Proxy.RouteOrder — THE LOOKUP ORDER of a host's routes.

  `addRoute` is an insertion by rank: an exact route outranks everything, a
  prefix route ranks by the length of its path.  So the routes a sequence of
  `addRoute` calls builds are `insertAll rank` of the sequence, and
  `lookupRoute` is a first match over that list.  A route STOPS a lookup when
  it matches the path or panics on it.

  Two prefix routes of one length can stop the same lookup only when both stop
  it through the dropped last byte (`stops_same_rank`); this is the one way in
  which the order of insertion can decide a lookup.
-/
import Mathlib.Order.WithBot
import SIngress.Lib.RankedInsert
import SIngress.Proxy.Config

namespace SIngress.Proxy

open SIngress.Base SIngress.Lib

/-! ## §1. `addRoute` is insertion by rank. -/

/-- Exact routes outrank all others, which rank by path length. -/
def RouteConfig.rank (r : RouteConfig) : WithTop Nat :=
  if r.pathType = .pathTypeExact then ⊤ else WithTop.some r.path.length

theorem rank_exact {r : RouteConfig} (h : r.pathType = .pathTypeExact) : r.rank = ⊤ :=
  if_pos h

theorem rank_not_exact {r : RouteConfig} (h : r.pathType ≠ .pathTypeExact) :
    r.rank = WithTop.some r.path.length :=
  if_neg h

theorem insertPrefixRoute_eq {route : RouteConfig} (h : route.pathType ≠ .pathTypeExact)
    (l : List RouteConfig) :
    insertPrefixRoute route l = rankedInsert RouteConfig.rank route l := by
  induction l with
  | nil => rfl
  | cons r l ih =>
      unfold insertPrefixRoute rankedInsert
      unfold rankedInsert at ih
      rw [List.orderedInsert_cons, rank_not_exact h, ih]
      by_cases hr : r.pathType = .pathTypeExact
      · rw [if_pos hr, rank_exact hr, if_neg (by simp)]
      · rw [if_neg hr, rank_not_exact hr]
        by_cases hlen : r.path.length > route.path.length
        · rw [if_pos hlen, if_neg (by simpa using hlen)]
        · rw [if_neg hlen, if_pos (by simpa using hlen)]

/-- **`addRoute` inserts by rank.** -/
theorem addRoute_routes (hc : HostConfig) (route : RouteConfig) :
    (hc.addRoute route).routes = rankedInsert RouteConfig.rank route hc.routes := by
  unfold HostConfig.addRoute
  by_cases h : route.pathType = .pathTypeExact
  · rw [if_pos h]
    unfold rankedInsert
    cases hc.routes with
    | nil => rfl
    | cons r l => rw [List.orderedInsert_cons, if_pos (by rw [rank_exact h]; exact le_top)]
  · rw [if_neg h]
    exact insertPrefixRoute_eq h _

/-- The host a sequence of `addRoute` calls on an empty host builds. -/
def addRoutes (rs : List RouteConfig) : HostConfig :=
  rs.foldl HostConfig.addRoute ⟨[]⟩

theorem addRoutes_concat (rs : List RouteConfig) (r : RouteConfig) :
    addRoutes (rs ++ [r]) = (addRoutes rs).addRoute r := by
  unfold addRoutes
  rw [List.foldl_append]
  rfl

theorem addRoutes_routes (rs : List RouteConfig) :
    (addRoutes rs).routes = insertAll RouteConfig.rank rs := by
  induction rs using List.reverseRecOn with
  | nil => rfl
  | append_singleton rs r ih =>
      rw [addRoutes_concat, addRoute_routes, ih, insertAll_concat]

theorem addRoutes_perm (rs : List RouteConfig) : (addRoutes rs).routes.Perm rs := by
  rw [addRoutes_routes]
  exact insertAll_perm _ rs

/-! ## §2. Exact routes first, then longer prefixes before shorter ones. -/

/-- The type of the route is one the proxy can match. -/
def RouteConfig.Typed (r : RouteConfig) : Prop :=
  r.pathType = .pathTypeExact ∨ r.pathType = .pathTypePrefix

instance (r : RouteConfig) : Decidable r.Typed :=
  inferInstanceAs (Decidable (_ ∨ _))

/-- All exact routes, then prefix routes by non-increasing path length. -/
def LookupOrdered (l : List RouteConfig) : Prop :=
  ∃ exacts prefixes, l = exacts ++ prefixes
    ∧ (∀ r ∈ exacts, r.pathType = .pathTypeExact)
    ∧ (∀ r ∈ prefixes, r.pathType = .pathTypePrefix)
    ∧ prefixes.Pairwise (fun a b => b.path.length ≤ a.path.length)

theorem lookupOrdered_of_pairwise {l : List RouteConfig} (htyped : ∀ r ∈ l, r.Typed)
    (h : l.Pairwise (fun a b => b.rank ≤ a.rank)) : LookupOrdered l := by
  induction l with
  | nil => exact ⟨[], [], rfl, by simp, by simp, List.Pairwise.nil⟩
  | cons r l ih =>
      obtain ⟨hr, hl⟩ := List.pairwise_cons.mp h
      obtain ⟨es, ps, hsplit, hes, hps, hpw⟩ :=
        ih (fun s hs => htyped s (List.mem_cons_of_mem _ hs)) hl
      rcases htyped r List.mem_cons_self with hex | hpre
      · refine ⟨r :: es, ps, by rw [hsplit]; rfl, ?_, hps, hpw⟩
        intro s hs
        rcases List.mem_cons.mp hs with h' | h'
        · rw [h']; exact hex
        · exact hes s h'
      · -- behind a prefix route nothing exact can stand
        have hne : r.pathType ≠ .pathTypeExact := by rw [hpre]; simp
        have hesnil : es = [] := by
          cases es with
          | nil => rfl
          | cons e es =>
              have hle := hr e (by rw [hsplit]; simp)
              rw [rank_exact (hes e List.mem_cons_self), rank_not_exact hne] at hle
              simp at hle
        subst hesnil
        refine ⟨[], r :: ps, by rw [hsplit]; rfl, by simp, ?_, ?_⟩
        · intro s hs
          rcases List.mem_cons.mp hs with h' | h'
          · rw [h']; exact hpre
          · exact hps s h'
        · refine List.pairwise_cons.mpr ⟨fun s hs => ?_, hpw⟩
          have hle := hr s (by rw [hsplit]; exact hs)
          have hsne : s.pathType ≠ .pathTypeExact := by rw [hps s hs]; simp
          rw [rank_not_exact hne, rank_not_exact hsne] at hle
          exact WithTop.coe_le_coe.mp hle

/-- **Every host built by `addRoute` is in lookup order.** -/
theorem addRoutes_lookupOrdered {rs : List RouteConfig} (h : ∀ r ∈ rs, r.Typed) :
    LookupOrdered (addRoutes rs).routes := by
  have hp := addRoutes_perm rs
  rw [addRoutes_routes] at hp ⊢
  exact lookupOrdered_of_pairwise (fun r hr => h r (hp.mem_iff.mp hr))
    (insertAll_pairwise _ rs)

/-! ## §3. A lookup is a first match. -/

/-- The route ends the loop of `lookupRoute` on `path`: it matches or panics. -/
def RouteConfig.stops (path : GoString) (r : RouteConfig) : Bool :=
  match r.matchesPath path with
  | .ok b => b
  | .error _ => true

theorem lookupIn_eq_find (path : GoString) (l : List RouteConfig) :
    lookupIn path l = match l.find? (RouteConfig.stops path) with
      | none => .ok none
      | some r => (r.matchesPath path).map fun _ => some r := by
  induction l with
  | nil => rfl
  | cons r l ih =>
      unfold lookupIn
      by_cases hs : r.stops path = true
      · rw [List.find?_cons_of_pos hs]
        unfold RouteConfig.stops at hs
        show _ = (r.matchesPath path).map fun _ => some r
        cases hm : r.matchesPath path with
        | error e => rfl
        | ok b =>
            rw [hm] at hs
            simp only at hs
            subst hs
            rfl
      · rw [List.find?_cons_of_neg hs, ← ih]
        unfold RouteConfig.stops at hs
        cases hm : r.matchesPath path with
        | error e => rw [hm] at hs; simp at hs
        | ok b =>
            rw [hm] at hs
            simp only [Bool.not_eq_true] at hs
            subst hs
            rfl

theorem lookupRoute_addRoutes (rs : List RouteConfig) (path : GoString) :
    (addRoutes rs).lookupRoute path
      = match (insertAll RouteConfig.rank rs).find? (RouteConfig.stops path) with
        | none => .ok none
        | some r => (r.matchesPath path).map fun _ => some r := by
  unfold HostConfig.lookupRoute
  rw [lookupIn_eq_find, addRoutes_routes]

/-! ## §4. What stops a lookup. -/

theorem stops_exact {r : RouteConfig} (h : r.pathType = .pathTypeExact) (path : GoString) :
    r.stops path = true ↔ r.path = path := by
  unfold RouteConfig.stops RouteConfig.matchesPath
  rw [h]
  simp

/-- A prefix route stops the paths it is a byte prefix of, and its own path
with the last byte dropped. -/
theorem stops_prefixed {r : RouteConfig} (h : r.pathType = .pathTypePrefix) (path : GoString) :
    r.stops path = true ↔ r.path <+: path ∨ (r.path ≠ [] ∧ r.path.dropLast = path) := by
  unfold RouteConfig.stops RouteConfig.matchesPath
  rw [h]
  by_cases hnil : r.path = []
  · simp [hnil]
  · by_cases hdrop : r.path.dropLast = path
    · simp [hnil, hdrop]
    · simp [hnil, hdrop, startsWith, List.isPrefixOf_iff_prefix]

/-- **The one tie.**  Two prefix routes with different paths of one length stop
the same lookup only when both paths, less their last byte, are that path. -/
theorem stops_same_rank {r s : RouteConfig} {path : GoString}
    (hr : r.pathType = .pathTypePrefix) (hs : s.pathType = .pathTypePrefix)
    (hlen : r.path.length = s.path.length) (hne : r.path ≠ s.path)
    (hrs : r.stops path = true) (hss : s.stops path = true) :
    r.path ≠ [] ∧ s.path ≠ [] ∧ r.path.dropLast = path ∧ s.path.dropLast = path := by
  rcases (stops_prefixed hr path).mp hrs with h₁ | ⟨hn₁, h₁⟩ <;>
    rcases (stops_prefixed hs path).mp hss with h₂ | ⟨hn₂, h₂⟩
  · exact absurd (List.prefix_of_prefix_length_le h₁ h₂ (le_of_eq hlen) |>.eq_of_length hlen) hne
  · -- `s` is one byte longer than the path, so `r` is too long to be its prefix
    have hle := h₁.length_le
    have hpos := List.length_pos_iff.mpr hn₂
    rw [← h₂, List.length_dropLast] at hle
    omega
  · have hle := h₂.length_le
    have hpos := List.length_pos_iff.mpr hn₁
    rw [← h₁, List.length_dropLast] at hle
    omega
  · exact ⟨hn₁, hn₂, h₁, h₂⟩

/-- A prefix route that stops a lookup is at most one byte longer than the path. -/
theorem stops_prefixed_length {r : RouteConfig} {path : GoString}
    (hr : r.pathType = .pathTypePrefix) (h : r.stops path = true) :
    r.path.length ≤ path.length + 1 := by
  rcases (stops_prefixed hr path).mp h with h₁ | ⟨_, h₁⟩
  · have := h₁.length_le
    omega
  · rw [← h₁, List.length_dropLast]
    omega

end SIngress.Proxy
