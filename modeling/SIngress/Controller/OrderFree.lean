/-
  SIngress.Controller.OrderFree — WHEN ROUTING DOES NOT DEPEND ON MAP ORDER.

  `getProxyConfig` adds routes in the order in which it visits the entries.
  That order decides a lookup in ONE case: two prefix routes of different
  ingresses whose paths differ only in their last byte both match the path
  without it, and the one added last wins.  An exact route for that path takes
  the lookup from both.  `order_free_iff` says that this is the only case.
-/
import SIngress.Controller.PublishedTable
import SIngress.Proxy.HostTable

namespace SIngress.Controller

open SIngress.Base SIngress.Lib SIngress.K8s SIngress.Platform SIngress.Config SIngress.Proxy
open SIngress.Modules

/-! ## §1. The property and the condition. -/

/-- `LookupHost` followed by `LookupRoute`. -/
def selectRoute (rc : RoutingConfig) (host path : GoString) :
    Except Fail (Option RouteConfig) :=
  match rc.lookupHost host with
  | none => .ok none
  | some hc => hc.lookupRoute path

/-- Whatever the order of the maps, the same route is selected. -/
def OrderFree (state : K8sState) : Prop :=
  ∀ vs vs' cfg cfg', Visits state.ingresses vs → Visits state.ingresses vs' →
    getProxyConfig state vs = .ok cfg → getProxyConfig state vs' = .ok cfg' →
    ∀ host path, selectRoute cfg host path = selectRoute cfg' host path

/-- The ingress `n` is configured and has the route `r` under the host `h`. -/
def Offers (state : K8sState) (n : NamespacedName) (h : GoString) (r : RouteConfig) : Prop :=
  ∃ c, state.configured n = some c ∧ r ∈ routesUnder c.hosts h

/-- The configured routes are pairwise distinct in host, path type and path. -/
structure DistinctRoutes (state : K8sState) : Prop where
  within : ∀ n c, state.configured n = some c → ∀ h,
    ((routesUnder c.hosts h).map fun r => (r.pathType, r.path)).Nodup
  across : ∀ n₁ n₂ h r₁ r₂, n₁ ≠ n₂ → Offers state n₁ h r₁ → Offers state n₂ h r₂ →
    (r₁.pathType, r₁.path) ≠ (r₂.pathType, r₂.path)

/-- Prefix routes of two ingresses that differ only in their last byte stand under a host
with an exact route for the rest. -/
def Separated (state : K8sState) : Prop :=
  ∀ h n₁ n₂ r₁ r₂, n₁ ≠ n₂ → Offers state n₁ h r₁ → Offers state n₂ h r₂ →
    r₁.pathType = .pathTypePrefix → r₂.pathType = .pathTypePrefix →
    r₁.path ≠ [] → r₂.path ≠ [] → r₁.path.dropLast = r₂.path.dropLast →
    ∃ n r, Offers state n h r ∧ r.pathType = .pathTypeExact ∧ r.path = r₁.path.dropLast

/-! ## §2. What a visit order can change. -/

section

variable {ext : Ext} {s : Sys} {vs : List EntryVisit} {h path : GoString}

/-- The routes offered under a host, as one visit order adds them. -/
def added (vs : List EntryVisit) (h : GoString) : List RouteConfig :=
  routesAt h (vs.flatMap visitRoutes)

theorem mem_added {state : K8sState} (hvs : Visits state.ingresses vs) {r : RouteConfig} :
    r ∈ added vs h ↔ ∃ n, Offers state n h r := by
  unfold added Offers
  rw [mem_routesAt, mem_visits_routes]
  constructor
  · rintro ⟨v, hv, c, hc, hr⟩
    exact ⟨v.name, c, Option.bind_eq_some_iff.mpr ⟨v.entry, hvs.lookup hv, hc⟩, hr⟩
  · rintro ⟨n, c, hc, hr⟩
    obtain ⟨e, he, hc⟩ := Option.bind_eq_some_iff.mp hc
    obtain ⟨v, hv, _, rfl⟩ := hvs.exists_visit he
    exact ⟨v, hv, c, hc, hr⟩

/-- The routes of one ingress stand together, in their own order. -/
theorem added_split {state : K8sState} (hvs : Visits state.ingresses vs) {n : NamespacedName}
    {c : IngressConfiguration} (hc : state.configured n = some c) (h : GoString) :
    ∃ vs₁ vs₂, added vs h = added vs₁ h ++ routesUnder c.hosts h ++ added vs₂ h
      ∧ (∀ v ∈ vs₁ ++ vs₂, v ∈ vs ∧ v.name ≠ n) := by
  obtain ⟨e, he, hc⟩ := Option.bind_eq_some_iff.mp hc
  obtain ⟨v, hv, rfl, rfl⟩ := hvs.exists_visit he
  obtain ⟨vs₁, vs₂, rfl⟩ := List.append_of_mem hv
  refine ⟨vs₁, vs₂, ?_, fun w hw => ⟨?_, ?_⟩⟩
  · unfold added
    rw [List.flatMap_append, List.flatMap_cons, routesAt_append, routesAt_append,
      routesAt_visitRoutes hc, List.append_assoc]
  · rcases List.mem_append.mp hw with hw | hw
    · exact List.mem_append_left _ hw
    · exact List.mem_append_right _ (List.mem_cons_of_mem _ hw)
  · -- a name is visited once
    have hnodup := hvs.1
    rw [List.map_map, List.map_append, List.map_cons, List.nodup_append] at hnodup
    obtain ⟨_, htail, hdisj⟩ := hnodup
    rcases List.mem_append.mp hw with hw | hw
    · exact hdisj _ (List.mem_map_of_mem hw) _ List.mem_cons_self
    · intro heq
      refine (List.nodup_cons.mp htail).1 ?_
      rw [Function.comp_apply, ← heq]
      exact List.mem_map_of_mem hw

theorem added_offers {state : K8sState} (hvs : Visits state.ingresses vs) {vs' : List EntryVisit}
    {n : NamespacedName} (hvs' : ∀ v ∈ vs', v ∈ vs ∧ v.name ≠ n) {r : RouteConfig}
    (hr : r ∈ added vs' h) : ∃ m, m ≠ n ∧ Offers state m h r := by
  unfold added at hr
  rw [mem_routesAt, mem_visits_routes] at hr
  obtain ⟨v, hv, c, hc, hr⟩ := hr
  obtain ⟨hmem, hne⟩ := hvs' v hv
  exact ⟨v.name, hne, c, Option.bind_eq_some_iff.mpr ⟨v.entry, hvs.lookup hmem, hc⟩, hr⟩

/-- An offered route is the route of a path its ingress declares. -/
theorem routeFor_of_offers (hs : s.Valid ext) {n : NamespacedName} {r : RouteConfig}
    (ho : Offers s.state n h r) :
    ∃ e, s.state.ingresses.lookup n = some e ∧ e.configuration ≠ none
      ∧ ∃ api conf, ∃ d ∈ declared e.ingress, RouteFor ext api conf e.ingress d (h, r) := by
  obtain ⟨c, hc, hr⟩ := ho
  obtain ⟨e, he, hc⟩ := Option.bind_eq_some_iff.mp hc
  obtain ⟨api, conf, _, hok⟩ := (hs n e he).backed c hc
  exact ⟨e, he, Option.ne_none_iff_exists'.mpr ⟨c, hc⟩, api, conf, routeFor_of_mem hok hr⟩

/-- An offered route has the name of its ingress and a type the proxy can match. -/
theorem offers_facts (hs : s.Valid ext) {n : NamespacedName} {r : RouteConfig}
    (ho : Offers s.state n h r) :
    r.Typed ∧ ∃ i, objectMetaToNamespaced i = n
      ∧ r.ingressName = (objectMetaToNamespaced i).string := by
  obtain ⟨e, he, _, api, conf, d, _, hd⟩ := routeFor_of_offers hs ho
  exact ⟨typed_of_mapPathType hd.pathType, e.ingress, (hs n e he).keyed, hd.ingressName⟩

/-- A route is known by its type and path. -/
theorem offers_unique {state : K8sState} (hd : DistinctRoutes state) {n m : NamespacedName}
    {x y : RouteConfig} (hx : Offers state n h x) (hy : Offers state m h y)
    (htype : x.pathType = y.pathType) (hpath : x.path = y.path) : x = y := by
  have hsame : (x.pathType, x.path) = (y.pathType, y.path) := by rw [htype, hpath]
  by_cases hnm : n = m
  · subst hnm
    obtain ⟨c, hc, hxr⟩ := hx
    obtain ⟨c', hc', hyr⟩ := hy
    rw [hc] at hc'
    cases hc'
    exact List.inj_on_of_nodup_map (hd.within n c hc h) hxr hyr hsame
  · exact absurd hsame (hd.across n m h x y hnm hx hy)

/-- The first route that stops a lookup of `path`, for one visit order. -/
def winner (vs : List EntryVisit) (h path : GoString) : Option RouteConfig :=
  (insertAll RouteConfig.rank (added vs h)).find? (RouteConfig.stops path)

/-- Of the matching routes of the top rank the one added last wins. -/
theorem winner_of_last {before after : List RouteConfig} {z : RouteConfig}
    (hsplit : added vs h = before ++ z :: after) (hstop : z.stops path = true)
    (hle : ∀ y ∈ added vs h, y.stops path = true → y.rank ≤ z.rank)
    (hlast : ∀ y ∈ after, y.stops path = true → y.rank ≠ z.rank) :
    winner vs h path = some z := by
  unfold winner
  rw [hsplit] at hle ⊢
  refine find?_insertAll_eq_last _ _ hstop (fun y hy => hle y (List.mem_append_left _ hy)) ?_
  intro y hy hys
  have hmem : y ∈ before ++ z :: after := List.mem_append_right _ (List.mem_cons_of_mem _ hy)
  exact lt_of_le_of_ne (hle y hmem hys) (hlast y hy hys)

/-- A typed route of the rank of a prefix route is a prefix route of its length. -/
theorem prefix_of_rank {x y : RouteConfig} (hx : x.pathType = .pathTypePrefix) (hy : y.Typed)
    (hrank : y.rank = x.rank) :
    y.pathType = .pathTypePrefix ∧ y.path.length = x.path.length := by
  have hxne : x.pathType ≠ .pathTypeExact := by rw [hx]; simp
  rcases hy with hy | hy
  · rw [rank_exact hy, rank_not_exact hxne] at hrank
    exact absurd hrank (WithTop.coe_ne_top (α := Nat)).symm
  · have hyne : y.pathType ≠ .pathTypeExact := by rw [hy]; simp
    rw [rank_not_exact hxne, rank_not_exact hyne] at hrank
    exact ⟨hy, WithTop.coe_injective hrank⟩

/-! ## §3. Separated states. -/

/-- A matching exact route wins in every order. -/
theorem winner_exact {state : K8sState} (hd : DistinctRoutes state) {n : NamespacedName}
    {x : RouteConfig} (hx : Offers state n h x) (hex : x.pathType = .pathTypeExact)
    (hstop : x.stops path = true) (hvs : Visits state.ingresses vs)
    (htyped : ∀ m y, Offers state m h y → y.Typed) : winner vs h path = some x := by
  refine find?_insertAll_of_unique _ _ ((mem_added hvs).mpr ⟨n, hx⟩) hstop fun y hy hpy hle => ?_
  obtain ⟨m, hm⟩ := (mem_added hvs).mp hy
  have hyex : y.pathType = .pathTypeExact := by
    rcases htyped m y hm with hy | hy
    · exact hy
    · rw [rank_exact hex, rank_not_exact (by rw [hy]; simp)] at hle
      exact absurd (top_le_iff.mp hle) WithTop.coe_ne_top
  refine offers_unique hd hm hx (hyex.trans hex.symm) ?_
  rw [(stops_exact hyex path).mp hpy, (stops_exact hex path).mp hstop]

/-- In a separated state all matching prefix routes of the top rank belong to one ingress. -/
theorem tie_same_ingress {state : K8sState} (hd : DistinctRoutes state) (hsep : Separated state)
    (htyped : ∀ m y, Offers state m h y → y.Typed) {n m : NamespacedName} {x y : RouteConfig}
    (hx : Offers state n h x) (hpre : x.pathType = .pathTypePrefix)
    (hxs : x.stops path = true)
    (hmax : ∀ m y, Offers state m h y → y.stops path = true → y.rank ≤ x.rank)
    (hy : Offers state m h y) (hys : y.stops path = true) (hrank : y.rank = x.rank) : m = n := by
  by_contra hmn
  obtain ⟨hypre, hlen⟩ := prefix_of_rank hpre (htyped m y hy) hrank
  have hne : y.path ≠ x.path := fun heq =>
    hd.across m n h y x hmn hy hx (by rw [hypre, hpre, heq])
  obtain ⟨hynil, hxnil, hyd, hxd⟩ := stops_same_rank hypre hpre hlen hne hys hxs
  -- both drop to the path, so an exact route for it outranks them
  obtain ⟨k, e, he, hex, hep⟩ :=
    hsep h m n y x hmn hy hx hypre hpre hynil hxnil (hyd.trans hxd.symm)
  have hle := hmax k e he ((stops_exact hex path).mpr (hep.trans hyd))
  rw [rank_exact hex, rank_not_exact (by rw [hpre]; simp)] at hle
  exact absurd (top_le_iff.mp hle) WithTop.coe_ne_top

/-- **In a separated state the winner does not depend on the order.** -/
theorem winner_const (hs : s.Valid ext) (hd : DistinctRoutes s.state)
    (hsep : Separated s.state) (h path : GoString) :
    ∃ w, ∀ vs, Visits s.state.ingresses vs → winner vs h path = w := by
  have htyped : ∀ m y, Offers s.state m h y → y.Typed := fun m y hy => (offers_facts hs hy).1
  obtain ⟨vs₀, hvs₀⟩ := exists_visits s.state.ingresses
  cases hw : winner vs₀ h path with
  | none =>
      refine ⟨none, fun vs hvs => (find?_insertAll_eq_none _ _).mpr fun y hy => ?_⟩
      have hnone := (find?_insertAll_eq_none _ _).mp hw
      exact hnone y ((mem_added hvs₀).mpr ((mem_added hvs).mp hy))
  | some x =>
      obtain ⟨hx, hstop, hmax⟩ := find?_insertAll_spec _ _ hw
      obtain ⟨n, hn⟩ := (mem_added hvs₀).mp hx
      have hmax' : ∀ m y, Offers s.state m h y → y.stops path = true → y.rank ≤ x.rank :=
        fun m y hy => hmax y ((mem_added hvs₀).mpr ⟨m, hy⟩)
      rcases htyped n x hn with hex | hpre
      · exact ⟨some x, fun vs hvs => winner_exact hd hn hex hstop hvs htyped⟩
      · -- the last of its ingress' routes among those of the top rank
        obtain ⟨c, hc, hxc⟩ := hn
        obtain ⟨E₁, z, E₂, hE, ⟨hzs, hzr⟩, hlast⟩ :=
          exists_last (P := fun y => y.stops path = true ∧ y.rank = x.rank) hxc ⟨hstop, rfl⟩
        refine ⟨some z, fun vs hvs => ?_⟩
        obtain ⟨vs₁, vs₂, hadd, hrest⟩ := added_split hvs hc h
        have hsplit : added vs h = (added vs₁ h ++ E₁) ++ z :: (E₂ ++ added vs₂ h) := by
          rw [hadd, hE]
          simp
        have hle : ∀ y ∈ added vs h, y.stops path = true → y.rank ≤ z.rank := by
          intro y hy hys
          obtain ⟨m, hm⟩ := (mem_added hvs).mp hy
          rw [hzr]
          exact hmax' m y hm hys
        refine winner_of_last hsplit hzs hle fun y hy hys heq => ?_
        rcases List.mem_append.mp hy with hyE | hyvs
        · exact hlast y hyE ⟨hys, heq.trans hzr⟩
        · -- a route of another ingress ties with `x`
          obtain ⟨m, hmn, hm⟩ := added_offers hvs
            (fun v hv => hrest v (List.mem_append_right _ hv)) hyvs
          exact hmn (tie_same_ingress hd hsep htyped ⟨c, hc, hxc⟩ hpre hstop hmax' hm hys
            (heq.trans hzr))

/-! ## §4. Ties. -/

/-- The ingress visited last wins a tie. -/
theorem last_wins (hs : s.Valid ext) {n : NamespacedName} {r : RouteConfig}
    (hr : Offers s.state n h r) (hpre : r.pathType = .pathTypePrefix) (hnil : r.path ≠ [])
    (hdrop : r.path.dropLast = path)
    (hnone : ∀ m e, Offers s.state m h e → e.pathType = .pathTypeExact → e.path ≠ path) :
    ∃ vs z, Visits s.state.ingresses vs ∧ Offers s.state n h z ∧ winner vs h path = some z
      ∧ z.matchesPath path = .ok true := by
  obtain ⟨c, hc, hrc⟩ := hr
  obtain ⟨vs₀, hvs₀⟩ := exists_visits s.state.ingresses
  obtain ⟨e, he, hce⟩ := Option.bind_eq_some_iff.mp hc
  obtain ⟨v, hv, hvn, rfl⟩ := hvs₀.exists_visit he
  obtain ⟨vs₁, vs₂, rfl⟩ := List.append_of_mem hv
  -- visit the ingress last
  have hperm : (vs₁ ++ v :: vs₂).Perm (vs₁ ++ vs₂ ++ [v]) := by
    rw [List.append_assoc]
    exact List.Perm.append_left vs₁ (List.perm_append_singleton v vs₂).symm
  have hvs : Visits s.state.ingresses (vs₁ ++ vs₂ ++ [v]) :=
    GoMap.Ranges.of_perm hvs₀ (hperm.map _)
  have hstop : r.stops path = true := (stops_prefixed hpre path).mpr (Or.inr ⟨hnil, hdrop⟩)
  have hlen : r.path.length = path.length + 1 := by
    rw [← hdrop, List.length_dropLast]
    have hpos := List.length_pos_iff.mpr hnil
    omega
  have hrank : r.rank = WithTop.some (path.length + 1) := by
    rw [rank_not_exact (by rw [hpre]; simp), hlen]
  obtain ⟨E₁, z, E₂, hE, ⟨hzs, hzr⟩, hlast⟩ :=
    exists_last (P := fun y => y.stops path = true ∧ y.rank = r.rank) hrc ⟨hstop, rfl⟩
  have hz : Offers s.state n h z := ⟨c, hc, by rw [hE]; simp⟩
  have hsplit : added (vs₁ ++ vs₂ ++ [v]) h = (added (vs₁ ++ vs₂) h ++ E₁) ++ z :: E₂ := by
    unfold added
    rw [List.flatMap_append, routesAt_append, List.flatMap_singleton, routesAt_visitRoutes hce, hE,
      List.append_assoc]
  -- without an exact route for the path, a byte more than the path is the top rank
  have hle : ∀ y ∈ added (vs₁ ++ vs₂ ++ [v]) h, y.stops path = true → y.rank ≤ z.rank := by
    intro y hy hys
    obtain ⟨m, hm⟩ := (mem_added hvs).mp hy
    rw [hzr, hrank]
    rcases (offers_facts hs hm).1 with hex | hypre
    · exact absurd ((stops_exact hex path).mp hys) (hnone m y hm hex)
    · rw [rank_not_exact (by rw [hypre]; simp)]
      exact WithTop.coe_le_coe.mpr (stops_prefixed_length hypre hys)
  refine ⟨vs₁ ++ vs₂ ++ [v], z, hvs, hz, ?_, ?_⟩
  · exact winner_of_last hsplit hzs hle fun y hy hys heq => hlast y hy ⟨hys, heq.trans hzr⟩
  · -- a byte longer than the path, so not empty
    obtain ⟨hzpre, hzlen⟩ := prefix_of_rank hpre (offers_facts hs hz).1 hzr
    have hznil : z.path ≠ [] := by
      intro hempty
      rw [hempty, List.length_nil] at hzlen
      omega
    rw [matchesPath_eq_stops ⟨Or.inr hzpre, fun _ => hznil⟩, hzs]

/-! ## §5. Selecting a route. -/

/-- What a lookup under the host key `h` gives. -/
def hostRoute (rc : RoutingConfig) (h path : GoString) :
    Option (Except Fail (Option RouteConfig)) :=
  (rc.hosts.lookup h).map fun hc => hc.lookupRoute path

theorem selectRoute_eq (rc : RoutingConfig) (host path : GoString) :
    selectRoute rc host path
      = ((rc.lookupHost host).map fun hc => hc.lookupRoute path).getD (.ok none) := by
  unfold selectRoute
  cases rc.lookupHost host with
  | none => rfl
  | some hc => rfl

/-- A selection looks at host keys only through their lookups. -/
theorem selectRoute_congr {rc rc' : RoutingConfig} {path : GoString}
    (heq : ∀ h, hostRoute rc h path = hostRoute rc' h path) (host : GoString) :
    selectRoute rc host path = selectRoute rc' host path := by
  rw [selectRoute_eq, selectRoute_eq]
  obtain hdot | ⟨l, d, hl, rfl⟩ := first_dot host
  · rw [lookupHost_dotless rc hdot, lookupHost_dotless rc' hdot, Option.map_or, Option.map_or]
    show ((hostRoute rc host path).or (hostRoute rc [] path)).getD _ = _
    rw [heq host, heq []]
    rfl
  · -- the host, its wildcard, then the default host
    rw [lookupHost_append rc hl d, lookupHost_append rc' hl d, Option.map_or, Option.map_or,
      Option.map_or, Option.map_or]
    show (((hostRoute rc _ path).or (hostRoute rc _ path)).or (hostRoute rc [] path)).getD _ = _
    rw [heq (l ++ byteDot :: d), heq (byteDot :: d), heq []]
    rfl

theorem hostRoute_eq {state : K8sState} {cfg : RoutingConfig}
    (hcfg : getProxyConfig state vs = .ok cfg) (h path : GoString) :
    hostRoute cfg h path = if added vs h = [] then none else
      some (match winner vs h path with
        | none => .ok none
        | some r => (r.matchesPath path).map fun _ => some r) := by
  obtain ⟨_, _, _, _, rfl⟩ := getProxyConfig_eq_ok.mp hcfg
  unfold hostRoute winner added
  dsimp only
  rw [lookup_hostsOf]
  split_ifs with hnil
  · rfl
  · rw [Option.map_some]
    exact congrArg some (lookupRoute_addRoutes _ _)

/-- A separated state is order-free. -/
theorem orderFree_of_separated (hs : s.Valid ext) (hd : DistinctRoutes s.state)
    (hsep : Separated s.state) : OrderFree s.state := by
  intro vs vs' cfg cfg' hvs hvs' hcfg hcfg' host path
  refine selectRoute_congr (fun h => ?_) host
  obtain ⟨w, hw⟩ := winner_const hs hd hsep h path
  have hnil : added vs h = [] ↔ added vs' h = [] := by
    simp only [List.eq_nil_iff_forall_not_mem, mem_added hvs, mem_added hvs']
  rw [hostRoute_eq hcfg, hostRoute_eq hcfg', hw vs hvs, hw vs' hvs']
  by_cases hempty : added vs h = []
  · rw [if_pos hempty, if_pos (hnil.mp hempty)]
  · rw [if_neg hempty, if_neg fun hempty' => hempty (hnil.mpr hempty')]

variable {env : ControllerEnvConf}

/-- In a reachable state with a configured ingress, a configuration can be built. -/
theorem build_of_configured (hs : s.Reached ext env (getControllerConfig ext env))
    {n : NamespacedName} {c : IngressConfiguration} (hc : s.state.configured n = some c)
    (vs : List EntryVisit) : ∃ cfg, getProxyConfig s.state vs = .ok cfg := by
  obtain ⟨conf, hconf⟩ := Option.isSome_iff_exists.mp (config_of_configured hs hc)
  obtain ⟨outside, hload⟩ := config_of_reached hs hconf
  exact getProxyConfig_ok hconf (getControllerConfig_modules ext hload) vs

/-- The winner is selected for the host key itself. -/
theorem selectRoute_winner {state : K8sState} {cfg : RoutingConfig} {z : RouteConfig}
    (hvs : Visits state.ingresses vs) (hcfg : getProxyConfig state vs = .ok cfg)
    {n : NamespacedName} (hz : Offers state n h z) (hw : winner vs h path = some z)
    (hmatch : z.matchesPath path = .ok true) : selectRoute cfg h path = .ok (some z) := by
  have hne : added vs h ≠ [] := List.ne_nil_of_mem ((mem_added hvs).mpr ⟨n, hz⟩)
  have hroute := hostRoute_eq hcfg h path
  rw [if_neg hne, hw] at hroute
  dsimp only at hroute
  rw [hmatch] at hroute
  unfold hostRoute at hroute
  obtain ⟨hc, hlook, hlookup⟩ := Option.map_eq_some_iff.mp hroute
  unfold selectRoute RoutingConfig.lookupHost
  rw [hlook]
  exact hlookup

/-- An order-free state is separated: of two tied ingresses, each wins when it is visited
last. -/
theorem separated_of_orderFree (hs : s.Reached ext env (getControllerConfig ext env))
    (hfree : OrderFree s.state) : Separated s.state := by
  intro h n₁ n₂ r₁ r₂ hne ho₁ ho₂ hpre₁ hpre₂ hnil₁ hnil₂ hdrop
  by_contra hnone
  have hvalid := valid_of_reached hs
  have hnone' : ∀ m e, Offers s.state m h e → e.pathType = .pathTypeExact →
      e.path ≠ r₁.path.dropLast := fun m e he hex hpath => hnone ⟨m, e, he, hex, hpath⟩
  obtain ⟨vs₁, z₁, hvs₁, hz₁, hw₁, hm₁⟩ := last_wins hvalid ho₁ hpre₁ hnil₁ rfl hnone'
  obtain ⟨vs₂, z₂, hvs₂, hz₂, hw₂, hm₂⟩ := last_wins hvalid ho₂ hpre₂ hnil₂ hdrop.symm hnone'
  obtain ⟨c, hc, _⟩ := ho₁
  obtain ⟨cfg₁, hcfg₁⟩ := build_of_configured hs hc vs₁
  obtain ⟨cfg₂, hcfg₂⟩ := build_of_configured hs hc vs₂
  have hsame := hfree vs₁ vs₂ cfg₁ cfg₂ hvs₁ hvs₂ hcfg₁ hcfg₂ h r₁.path.dropLast
  rw [selectRoute_winner hvs₁ hcfg₁ hz₁ hw₁ hm₁, selectRoute_winner hvs₂ hcfg₂ hz₂ hw₂ hm₂] at hsame
  -- but they carry the names of different ingresses
  obtain ⟨_, i₁, rfl, hname₁⟩ := offers_facts hvalid hz₁
  obtain ⟨_, i₂, rfl, hname₂⟩ := offers_facts hvalid hz₂
  refine hne (objectMetaToNamespaced_inj ?_)
  rw [← hname₁, ← hname₂, Option.some.inj (Except.ok.inj hsame)]

/-- **When routing does not depend on map order.**  In every reachable state whose
configured routes are pairwise distinct: every order selects the same routes if and only
if no two ingresses have, under one host without an exact route for the rest, prefix
routes that differ only in their last byte. -/
theorem order_free_iff (hs : s.Reached ext env (getControllerConfig ext env))
    (hd : DistinctRoutes s.state) : OrderFree s.state ↔ Separated s.state :=
  ⟨separated_of_orderFree hs, orderFree_of_separated (valid_of_reached hs) hd⟩

end

/-! ## §6. Two ingresses, to evaluate routing on. -/

/-- An ingress with one prefix path under `a.org`. -/
def tieIngress (name path : GoString) : Ingress :=
  Ingress.small name ∅
    [⟨lit "a.org", some [⟨path, some .pathPrefix, some ⟨lit "svc", ⟨lit "http", 0⟩⟩⟩]⟩] []

def tieRoute (name path : GoString) : RouteConfig :=
  { openRoute 4096 with
    path := path
    pathType := .pathTypePrefix
    ingressName := (objectMetaToNamespaced (tieIngress name path)).string }

def tieConfiguration (name path : GoString) : IngressConfiguration :=
  { openConfiguration 4096 with hosts := hostsOf [(lit "a.org", tieRoute name path)] }

theorem configures_tie (name path : GoString) :
    Configures Api.small (tieIngress name path) (tieConfiguration name path) :=
  ⟨rfl, rfl⟩

/-- The system after the ingresses `ns/a` and `ns/b` were configured. -/
def Sys.tied (cfg : RoutingConfig) (path₁ path₂ : GoString) : Sys :=
  Sys.configuring Api.small cfg [tieIngress (lit "a") path₁, tieIngress (lit "b") path₂]

theorem tied_ingresses (cfg : RoutingConfig) (path₁ path₂ : GoString) :
    (Sys.tied cfg path₁ path₂).state.ingresses
      = ((∅ : GoMap NamespacedName IngressEntry).insert ⟨lit "ns", lit "a"⟩
          ⟨tieIngress (lit "a") path₁, some (tieConfiguration (lit "a") path₁)⟩).insert
        ⟨lit "ns", lit "b"⟩
          ⟨tieIngress (lit "b") path₂, some (tieConfiguration (lit "b") path₂)⟩ := by
  unfold Sys.tied
  rw [configuring_state cfg (.cons (configures_tie (lit "a") path₁)
    (.cons (configures_tie (lit "b") path₂) .nil))]
  rfl

theorem tied_reached (path₁ path₂ : GoString) : ∃ cfg,
    (Sys.tied cfg path₁ path₂).Reached Ext.small smallEnv smallLoad := by
  obtain ⟨cfg, _, _, hreach, _, _⟩ := configuring_reached
    (.cons (configures_tie (lit "a") path₁) (.cons (configures_tie (lit "b") path₂) .nil))
  exact ⟨cfg, hreach⟩

theorem tied_configured {cfg : RoutingConfig} {path₁ path₂ : GoString} {n : NamespacedName}
    {c : IngressConfiguration} :
    (Sys.tied cfg path₁ path₂).state.configured n = some c ↔
      (n = ⟨lit "ns", lit "a"⟩ ∧ c = tieConfiguration (lit "a") path₁)
        ∨ (n = ⟨lit "ns", lit "b"⟩ ∧ c = tieConfiguration (lit "b") path₂) := by
  have hne : (⟨lit "ns", lit "a"⟩ : NamespacedName) ≠ ⟨lit "ns", lit "b"⟩ := by decide
  unfold K8sState.configured
  rw [tied_ingresses, GoMap.lookup_insert_eq, GoMap.lookup_insert_eq, Finmap.lookup_empty]
  by_cases hb : n = ⟨lit "ns", lit "b"⟩
  · subst hb
    simp [hne.symm, eq_comm]
  · by_cases ha : n = ⟨lit "ns", lit "a"⟩
    · subst ha
      simp [hne, eq_comm]
    · simp [ha, hb]

/-- What the two ingresses offer. -/
theorem tied_offers {cfg : RoutingConfig} {path₁ path₂ h : GoString} {n : NamespacedName}
    {r : RouteConfig} (ho : Offers (Sys.tied cfg path₁ path₂).state n h r) :
    (n = ⟨lit "ns", lit "a"⟩ ∧ r = tieRoute (lit "a") path₁)
      ∨ (n = ⟨lit "ns", lit "b"⟩ ∧ r = tieRoute (lit "b") path₂) := by
  obtain ⟨c, hc, hr⟩ := ho
  rcases tied_configured.mp hc with ⟨hn, rfl⟩ | ⟨hn, rfl⟩
  · have hmem := mem_routesUnder_hostsOf.mp hr
    exact Or.inl ⟨hn, congrArg Prod.snd (List.mem_singleton.mp hmem)⟩
  · have hmem := mem_routesUnder_hostsOf.mp hr
    exact Or.inr ⟨hn, congrArg Prod.snd (List.mem_singleton.mp hmem)⟩

/-- A configuration with one route has distinct routes. -/
theorem nodup_tieConfiguration (name path h : GoString) :
    ((routesUnder (tieConfiguration name path).hosts h).map
      fun r => (r.pathType, r.path)).Nodup := by
  refine ((routesUnder_hostsOf _ h).map _).nodup_iff.mpr ?_
  unfold routesAt
  by_cases hh : lit "a.org" = h
  · simp [hh]
  · simp [hh]

theorem tied_distinct {cfg : RoutingConfig} {path₁ path₂ : GoString} (hne : path₁ ≠ path₂) :
    DistinctRoutes (Sys.tied cfg path₁ path₂).state := by
  refine ⟨fun n c hc h => ?_, fun n₁ n₂ h r₁ r₂ hn h₁ h₂ hsame => ?_⟩
  · rcases tied_configured.mp hc with ⟨_, rfl⟩ | ⟨_, rfl⟩
    · exact nodup_tieConfiguration _ _ h
    · exact nodup_tieConfiguration _ _ h
  · rcases tied_offers h₁ with ⟨rfl, rfl⟩ | ⟨rfl, rfl⟩ <;>
      rcases tied_offers h₂ with ⟨rfl, rfl⟩ | ⟨rfl, rfl⟩
    · exact hn rfl
    · exact hne (congrArg Prod.snd hsame)
    · exact hne (congrArg Prod.snd hsame).symm
    · exact hn rfl

/-- The paths `/ab` and `/b` do not tie. -/
theorem order_free_small : ∃ s : Sys,
    s.Reached Ext.small smallEnv smallLoad ∧ DistinctRoutes s.state
      ∧ Offers s.state ⟨lit "ns", lit "a"⟩ (lit "a.org") (tieRoute (lit "a") (lit "/ab"))
      ∧ OrderFree s.state := by
  obtain ⟨cfg, hreach⟩ := tied_reached (lit "/ab") (lit "/b")
  have hd : DistinctRoutes (Sys.tied cfg (lit "/ab") (lit "/b")).state := tied_distinct (by decide)
  refine ⟨_, hreach, hd, ⟨_, tied_configured.mpr (Or.inl ⟨rfl, rfl⟩),
    mem_routesUnder_hostsOf.mpr List.mem_cons_self⟩, (order_free_iff hreach hd).mpr ?_⟩
  intro h n₁ n₂ r₁ r₂ hne h₁ h₂ _ _ _ _ hdrop
  exfalso
  rcases tied_offers h₁ with ⟨rfl, rfl⟩ | ⟨rfl, rfl⟩ <;>
    rcases tied_offers h₂ with ⟨rfl, rfl⟩ | ⟨rfl, rfl⟩
  · exact hne rfl
  · exact absurd hdrop (by decide)
  · exact absurd hdrop (by decide)
  · exact hne rfl

/-- The prefix paths `/ab` and `/ac` of two ingresses both match the path `/a`: which
ingress gets it depends on the order of the maps. -/
theorem last_byte_tie : ∃ s : Sys,
    s.Reached Ext.small smallEnv smallLoad ∧ DistinctRoutes s.state ∧ ¬ OrderFree s.state := by
  obtain ⟨cfg, hreach⟩ := tied_reached (lit "/ab") (lit "/ac")
  refine ⟨_, hreach, tied_distinct (by decide), fun hfree => ?_⟩
  have ha : Offers (Sys.tied cfg (lit "/ab") (lit "/ac")).state ⟨lit "ns", lit "a"⟩ (lit "a.org")
      (tieRoute (lit "a") (lit "/ab")) :=
    ⟨_, tied_configured.mpr (Or.inl ⟨rfl, rfl⟩), mem_routesUnder_hostsOf.mpr List.mem_cons_self⟩
  have hb : Offers (Sys.tied cfg (lit "/ab") (lit "/ac")).state ⟨lit "ns", lit "b"⟩ (lit "a.org")
      (tieRoute (lit "b") (lit "/ac")) :=
    ⟨_, tied_configured.mpr (Or.inr ⟨rfl, rfl⟩), mem_routesUnder_hostsOf.mpr List.mem_cons_self⟩
  obtain ⟨n, r, ho, hex, _⟩ := separated_of_orderFree hreach hfree _ _ _ _ _ (by decide) ha hb
    rfl rfl (by decide) (by decide) (by decide)
  -- both routes are prefix routes
  rcases tied_offers ho with ⟨_, rfl⟩ | ⟨_, rfl⟩
  · cases hex
  · cases hex

end SIngress.Controller
