/-
  SIngress.Proxy.RouteLookup — WHICH ROUTE SERVES A PATH.

  The list that `addRoute` keeps is a means; what a host is for is said in
  terms of the calls alone.  A path is served by the latest exact route for
  it, else by the latest of its longest prefix routes:

    • `lookupRoute_priority` — the answer of `lookupRoute` after any sequence
      of `addRoute` calls, read off the sequence.

  Which paths a prefix route covers is decided on bytes.  The elements of a
  path are what stands between its slashes, and a prefix covers a path element
  by element when its own elements come first in the path:

    • `matchesPath_elementwise_iff` — where the byte test and the elements agree,
    • `matchesPath_elementwise_all_iff` — they agree on every path exactly for
      the prefixes that end in a slash.
-/
import SIngress.Proxy.RouteOrder

namespace SIngress.Proxy

open SIngress.Base SIngress.Lib

/-! ## §1. Routes that can be asked. -/

/-- `matchesPath` answers: the type is known and a prefix is not empty. -/
def RouteConfig.Matchable (r : RouteConfig) : Prop :=
  r.Typed ∧ (r.pathType = .pathTypePrefix → r.path ≠ [])

instance (r : RouteConfig) : Decidable r.Matchable :=
  inferInstanceAs (Decidable (_ ∧ (_ → _)))

/-- On such a route the lookup stops exactly at a match. -/
theorem matchesPath_eq_stops {r : RouteConfig} (hr : r.Matchable) (path : GoString) :
    r.matchesPath path = .ok (r.stops path) := by
  unfold RouteConfig.stops RouteConfig.matchesPath
  rcases hr.1 with htype | htype
  · rw [htype]
  · rw [htype]
    show (if _ then _ else _) = _
    rw [if_neg (by rw [List.isEmpty_iff]; exact hr.2 htype)]
    split_ifs
    · rfl
    · rfl

/-- So a lookup answers with the first match. -/
theorem lookupIn_matchable {routes : List RouteConfig} (hroutes : ∀ r ∈ routes, r.Matchable)
    (path : GoString) :
    lookupIn path routes = .ok (routes.find? (RouteConfig.stops path)) := by
  rw [lookupIn_eq_find]
  cases hfind : routes.find? (RouteConfig.stops path) with
  | none => rfl
  | some r =>
      show (r.matchesPath path).map _ = _
      rw [matchesPath_eq_stops (hroutes r (List.mem_of_find?_eq_some hfind))]
      rfl

theorem lookupRoute_eq_find {added : List RouteConfig} (hadded : ∀ r ∈ added, r.Matchable)
    (path : GoString) :
    (addRoutes added).lookupRoute path
      = .ok ((insertAll RouteConfig.rank added).find? (RouteConfig.stops path)) := by
  rw [← addRoutes_routes]
  exact lookupIn_matchable (fun r hr => hadded r ((addRoutes_perm added).mem_iff.mp hr)) path

/-! ## §2. Exact before prefix, long before short, late before early. -/

/-- An exact route for the path. -/
def RouteConfig.namesPath (path : GoString) (r : RouteConfig) : Bool :=
  decide (r.pathType = .pathTypeExact ∧ r.path = path)

/-- A prefix route that matches the path. -/
def RouteConfig.coversPath (path : GoString) (r : RouteConfig) : Bool :=
  decide (r.pathType = .pathTypePrefix) && (r.matchesPath path).toOption == some true

/-- A prefix route that matches the path, and none of the added ones that do is longer. -/
def RouteConfig.coversLongest (added : List RouteConfig) (path : GoString) (r : RouteConfig) :
    Bool :=
  r.coversPath path &&
    decide (∀ s ∈ added, s.coversPath path = true → s.path.length ≤ r.path.length)

theorem namesPath_iff {path : GoString} {r : RouteConfig} :
    r.namesPath path = true ↔ r.pathType = .pathTypeExact ∧ r.stops path = true := by
  unfold RouteConfig.namesPath
  rw [decide_eq_true_eq]
  constructor
  · intro h
    exact ⟨h.1, (stops_exact h.1 path).mpr h.2⟩
  · intro h
    exact ⟨h.1, (stops_exact h.1 path).mp h.2⟩

theorem coversPath_iff {path : GoString} {r : RouteConfig} (hr : r.Matchable) :
    r.coversPath path = true ↔ r.pathType = .pathTypePrefix ∧ r.stops path = true := by
  unfold RouteConfig.coversPath
  rw [matchesPath_eq_stops hr]
  simp [Except.toOption]

/-- With an exact route for the path, the stopping routes of top rank are the exact ones. -/
theorem top_iff_namesPath {added : List RouteConfig} {path : GoString} {e : RouteConfig}
    (he : e ∈ added) (hnames : e.namesPath path = true) {r : RouteConfig} :
    (r.stops path && decide (∀ s ∈ added, s.stops path = true → s.rank ≤ r.rank)) = true
      ↔ r.namesPath path = true := by
  obtain ⟨hexact, hstops⟩ := namesPath_iff.mp hnames
  rw [Bool.and_eq_true, decide_eq_true_eq, namesPath_iff]
  constructor
  · rintro ⟨hr, hmax⟩
    refine ⟨?_, hr⟩
    -- nothing but an exact route reaches the rank of `e`
    by_contra hne
    have hle := hmax e he hstops
    rw [rank_exact hexact, rank_not_exact hne] at hle
    simp at hle
  · rintro ⟨hex, hr⟩
    refine ⟨hr, fun s _ _ => ?_⟩
    rw [rank_exact hex]
    exact le_top

/-- Without one, they are the longest prefix routes. -/
theorem top_iff_coversLongest {added : List RouteConfig} {path : GoString}
    (hadded : ∀ r ∈ added, r.Matchable) (hnone : ∀ r ∈ added, ¬ r.namesPath path = true)
    {r : RouteConfig} (hr : r ∈ added) :
    (r.stops path && decide (∀ s ∈ added, s.stops path = true → s.rank ≤ r.rank)) = true
      ↔ r.coversLongest added path = true := by
  -- what stops is a prefix route, ranked by its length
  have hkinds : ∀ s ∈ added, s.stops path = true → s.pathType = .pathTypePrefix := by
    intro s hs hstops
    refine (hadded s hs).1.resolve_left ?_
    intro hexact
    exact hnone s hs (namesPath_iff.mpr ⟨hexact, hstops⟩)
  have hrank : ∀ s ∈ added, s.stops path = true → s.rank = WithTop.some s.path.length := by
    intro s hs hstops
    exact rank_not_exact (by rw [hkinds s hs hstops]; simp)
  have hcovers : ∀ s ∈ added, s.coversPath path = true ↔ s.stops path = true := by
    intro s hs
    rw [coversPath_iff (hadded s hs)]
    exact ⟨And.right, fun h => ⟨hkinds s hs h, h⟩⟩
  unfold RouteConfig.coversLongest
  rw [Bool.and_eq_true, Bool.and_eq_true, decide_eq_true_eq, decide_eq_true_eq, hcovers r hr]
  refine and_congr_right fun hstops => forall₂_congr fun s hs => ?_
  rw [hcovers s hs]
  refine imp_congr_right fun hs' => ?_
  rw [hrank s hs hs', hrank r hr hstops]
  exact WithTop.coe_le_coe

/-- **Which route serves a path.**  After any sequence of `addRoute` calls a lookup answers
with the latest exact route for the path; without one, with the latest of the longest
prefix routes that match it; and with nothing exactly when no added route matches. -/
theorem lookupRoute_priority {added : List RouteConfig} (hadded : ∀ r ∈ added, r.Matchable)
    (path : GoString) :
    (addRoutes added).lookupRoute path
        = .ok ((latest (RouteConfig.namesPath path) added).or
            (latest (RouteConfig.coversLongest added path) added))
      ∧ ((addRoutes added).lookupRoute path = .ok none
          ↔ ∀ r ∈ added, r.matchesPath path = .ok false) := by
  rw [lookupRoute_eq_find hadded]
  constructor
  · rw [find?_insertAll_eq_latest]
    cases hexact : latest (RouteConfig.namesPath path) added with
    | some e =>
        have he := latest_eq_some_iff.mp hexact
        obtain ⟨older, newer, hsplit, hnames, _⟩ := he
        have hmem : e ∈ added := by
          rw [hsplit]
          simp
        rw [latest_congr fun r _ => top_iff_namesPath hmem hnames, hexact]
        rfl
    | none =>
        rw [latest_congr fun r hr =>
          top_iff_coversLongest hadded (latest_eq_none_iff.mp hexact) hr]
        rfl
  · rw [Except.ok.injEq, find?_insertAll_eq_none]
    refine forall₂_congr fun r hr => ?_
    rw [matchesPath_eq_stops (hadded r hr)]
    simp

/-- A route to evaluate lookups on. -/
def sampleRoute (pathType : PathType) (path : GoString) (port : BitVec 16) : RouteConfig where
  path := path
  pathType := pathType
  endpoint := ⟨.v4 0, port⟩
  middlewares := []
  httpProxyConfig := ⟨4096⟩
  ingressName := lit "ns/a"

theorem lookupRoute_priority_sample :
    (addRoutes [sampleRoute .pathTypePrefix (lit "/a/") 1, sampleRoute .pathTypePrefix (lit "/a/") 2,
        sampleRoute .pathTypePrefix (lit "/") 3]).lookupRoute (lit "/a/b")
      = .ok (some (sampleRoute .pathTypePrefix (lit "/a/") 2)) := by
  rw [(lookupRoute_priority (by decide) (lit "/a/b")).1]
  decide

/-! ## §3. Prefixes, element by element. -/

/-- A prefix without the slash it may end in. -/
def dropTrailingSlash (path : GoString) : GoString :=
  if path.getLast? = some byteSlash then path.dropLast else path

/-- The elements of the prefix, a trailing slash aside, are the first elements of the path. -/
def elementPrefix (pre path : GoString) : Bool :=
  (split (dropTrailingSlash pre) byteSlash).isPrefixOf (split path byteSlash)

/-- On strings: the path is the prefix, or goes on with a slash. -/
theorem elementPrefix_iff {pre path : GoString} :
    elementPrefix pre path = true ↔
      path = dropTrailingSlash pre ∨ dropTrailingSlash pre ++ [byteSlash] <+: path := by
  unfold elementPrefix
  rw [List.isPrefixOf_iff_prefix]
  exact split_prefix_iff

/-- The path is the prefix without its last byte, or goes on behind the prefix in the middle
of an element. -/
def CutsElement (pre path : GoString) : Prop :=
  path = pre.dropLast ∨ ∃ b rest, b ≠ byteSlash ∧ path = pre ++ b :: rest

/-- A prefix that ends in a slash is tested as its elements are. -/
theorem stops_iff_elementPrefix_of_slash {r : RouteConfig} (hr : r.pathType = .pathTypePrefix)
    {path : GoString} (hlast : r.path.getLast? = some byteSlash) :
    r.stops path = true ↔ elementPrefix r.path path = true := by
  have hne : r.path ≠ [] := by
    intro hnil
    rw [hnil] at hlast
    simp at hlast
  have hpath : r.path.dropLast ++ [byteSlash] = r.path :=
    List.dropLast_append_getLast? byteSlash hlast
  rw [stops_prefixed hr, elementPrefix_iff, dropTrailingSlash, if_pos hlast, hpath, or_comm]
  refine or_congr ⟨fun h => h.2.symm, fun h => ⟨hne, h.symm⟩⟩ Iff.rfl

/-- Without that slash the byte test accepts too much, and nothing too little. -/
theorem stops_iff_of_not_slash {r : RouteConfig} (hr : r.Matchable)
    (htype : r.pathType = .pathTypePrefix) {path : GoString}
    (hlast : r.path.getLast? ≠ some byteSlash) :
    r.stops path = true ↔ elementPrefix r.path path = true ∨ CutsElement r.path path := by
  rw [stops_prefixed htype, elementPrefix_iff, dropTrailingSlash, if_neg hlast]
  constructor
  · rintro (⟨rest, hrest⟩ | ⟨_, hdrop⟩)
    · -- by the byte that follows the prefix
      cases rest with
      | nil =>
          rw [List.append_nil] at hrest
          exact Or.inl (Or.inl hrest.symm)
      | cons b rest =>
          by_cases hb : b = byteSlash
          · refine Or.inl (Or.inr ⟨rest, ?_⟩)
            rw [← hrest, hb]
            simp
          · exact Or.inr (Or.inr ⟨b, rest, hb, hrest.symm⟩)
    · exact Or.inr (Or.inl hdrop.symm)
  · rintro ((heq | hpre) | heq | ⟨b, rest, _, heq⟩)
    · rw [heq]
      exact Or.inl (List.prefix_refl _)
    · exact Or.inl ((List.prefix_append _ _).trans hpre)
    · exact Or.inr ⟨hr.2 htype, heq.symm⟩
    · exact Or.inl ⟨b :: rest, heq.symm⟩

/-- A cut element is a difference. -/
theorem not_elementPrefix_of_cutsElement {pre path : GoString} (hne : pre ≠ [])
    (hlast : pre.getLast? ≠ some byteSlash) (hcut : CutsElement pre path) :
    ¬ elementPrefix pre path = true := by
  rw [elementPrefix_iff, dropTrailingSlash, if_neg hlast]
  have hpos := List.length_pos_iff.mpr hne
  rcases hcut with heq | ⟨b, rest, hb, heq⟩
  · -- the path is shorter than the prefix
    have hlen := congrArg List.length heq
    rw [List.length_dropLast] at hlen
    rintro (hsame | hpre)
    · rw [hsame] at hlen
      omega
    · have hle := hpre.length_le
      rw [List.length_append, List.length_singleton] at hle
      omega
  · rintro (hsame | ⟨tail, hpre⟩)
    · have hlen := congrArg List.length (hsame.symm.trans heq)
      simp at hlen
    · rw [heq, List.append_assoc, List.append_cancel_left_eq] at hpre
      simp only [List.singleton_append, List.cons.injEq] at hpre
      exact hb hpre.1.symm

theorem matchable_of_rooted {r : RouteConfig} (htype : r.pathType = .pathTypePrefix)
    (hrooted : r.path.head? = some byteSlash) : r.Matchable := by
  refine ⟨Or.inr htype, fun _ hnil => ?_⟩
  rw [hnil] at hrooted
  simp at hrooted

/-- The two tests agree where the prefix ends in a slash or no element of it is cut. -/
theorem stops_eq_elementPrefix_iff {r : RouteConfig} (hr : r.Matchable)
    (htype : r.pathType = .pathTypePrefix) (path : GoString) :
    r.stops path = elementPrefix r.path path ↔
      r.path.getLast? = some byteSlash ∨ ¬ CutsElement r.path path := by
  rw [Bool.eq_iff_iff]
  by_cases hlast : r.path.getLast? = some byteSlash
  · exact iff_of_true (stops_iff_elementPrefix_of_slash htype hlast) (Or.inl hlast)
  · rw [stops_iff_of_not_slash hr htype hlast, or_iff_right hlast]
    constructor
    · intro h hcut
      exact not_elementPrefix_of_cutsElement (hr.2 htype) hlast hcut (h.mp (Or.inr hcut))
    · intro hcut
      exact or_iff_left hcut

/-- **Where the byte test is the element test**: the prefix ends in a slash, or the path does
not cut an element of it. -/
theorem matchesPath_elementwise_iff {r : RouteConfig} (htype : r.pathType = .pathTypePrefix)
    (hrooted : r.path.head? = some byteSlash) (path : GoString) :
    r.matchesPath path = .ok (elementPrefix r.path path) ↔
      r.path.getLast? = some byteSlash ∨ ¬ CutsElement r.path path := by
  have hr := matchable_of_rooted htype hrooted
  rw [matchesPath_eq_stops hr, Except.ok.injEq]
  exact stops_eq_elementPrefix_iff hr htype path

theorem matchesPath_elementwise_sample :
    (sampleRoute .pathTypePrefix (lit "/test/") 1).matchesPath (lit "/test")
      = .ok (elementPrefix (lit "/test/") (lit "/test")) :=
  (matchesPath_elementwise_iff (r := sampleRoute .pathTypePrefix (lit "/test/") 1) rfl (by decide)
    (lit "/test")).mpr (Or.inl (by decide))

/-- `/test` covers `/tes` and `/testing`, which have other elements. -/
theorem matchesPath_cuts_elements :
    ((sampleRoute .pathTypePrefix (lit "/test") 1).matchesPath (lit "/tes") = .ok true
        ∧ elementPrefix (lit "/test") (lit "/tes") = false)
      ∧ (sampleRoute .pathTypePrefix (lit "/test") 1).matchesPath (lit "/testing") = .ok true
        ∧ elementPrefix (lit "/test") (lit "/testing") = false := by
  decide

/-- The prefixes that are tested as their elements are, on every path, end in a slash. -/
theorem matchesPath_elementwise_all_iff {r : RouteConfig} (htype : r.pathType = .pathTypePrefix)
    (hrooted : r.path.head? = some byteSlash) :
    (∀ path, r.matchesPath path = .ok (elementPrefix r.path path)) ↔
      r.path.getLast? = some byteSlash := by
  have hr := matchable_of_rooted htype hrooted
  simp only [matchesPath_eq_stops hr, Except.ok.injEq, stops_eq_elementPrefix_iff hr htype]
  constructor
  · intro h
    -- every prefix is cut by itself without its last byte
    exact (h r.path.dropLast).resolve_right fun hnot => hnot (Or.inl rfl)
  · intro hlast _
    exact Or.inl hlast

end SIngress.Proxy
