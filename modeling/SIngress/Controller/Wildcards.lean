/-
  SIngress.Controller.Wildcards — ARE WILDCARD HOSTS REACHABLE?

  The routing table documents its keys: a wildcard host stands in it without its
  asterisk, as `.domain.example`, and that is what `LookupHost` looks for.
  `AddHost` writes such keys; the controller does not use it.  `addPath` and
  `getProxyConfig` write the rule's host as it is, so `*.domain.example` stands
  under a key that no lookup of a subdomain tries.

    • `wildcards_iff`        — the routes of a wildcard host are found exactly if
                               they are offered a second time, under the key that
                               the lookup does try,
    • `wildcard_unreachable` — a rule for `*.a.org` that serves no request.
-/
import SIngress.Controller.OrderFree
import SIngress.Proxy.HostTable

namespace SIngress.Controller

open SIngress.Base SIngress.Lib SIngress.K8s SIngress.Platform SIngress.Config SIngress.Proxy
open SIngress.Modules

/-! ## §1. The property and the condition. -/

/-- A dotted name without empty labels. -/
def DottedName (d : GoString) : Prop := ∀ part ∈ split d byteDot, part ≠ []

instance (d : GoString) : Decidable (DottedName d) :=
  inferInstanceAs (Decidable (∀ part ∈ split d byteDot, part ≠ []))

/-- The host `*.d` of a rule. -/
def wildcardHost (d : GoString) : GoString := byteAsterisk :: byteDot :: d

/-- The host `l.d`. -/
def subdomain (l d : GoString) : GoString := l ++ byteDot :: d

/-- Some ingress has a rule for the host. -/
def DeclaresHost (state : K8sState) (h : GoString) : Prop :=
  ∃ n e, state.ingresses.lookup n = some e ∧ ∃ rule ∈ e.ingress.rules, rule.host = h

/-- Every route of a wildcard host is found under every subdomain that no ingress
declares. -/
def WildcardsReachable (state : K8sState) (cfg : RoutingConfig) : Prop :=
  ∀ n d r, DottedName d → Offers state n (wildcardHost d) r →
    ∀ l, l ≠ [] → byteDot ∉ l → ¬ DeclaresHost state (subdomain l d) →
      ∃ hc, cfg.lookupHost (subdomain l d) = some hc ∧ r ∈ hc.routes

/-- No key of the table keeps its asterisk. -/
def KeysDocumented (cfg : RoutingConfig) : Prop :=
  ∀ h hc, cfg.hosts.lookup h = some hc → ∀ d, DottedName d → h ≠ wildcardHost d

/-- Every route of a wildcard host `*.d` is also offered under the key `.d`, or under the
default key when nothing is offered under `.d`. -/
def WildcardsRepeated (state : K8sState) : Prop :=
  ∀ n d r, DottedName d → Offers state n (wildcardHost d) r →
    (∃ m, Offers state m (byteDot :: d) r)
      ∨ (∀ m x, ¬ Offers state m (byteDot :: d) x) ∧ ∃ m, Offers state m [] r

/-- No ingress offers a route for a wildcard host. -/
def NoWildcards (state : K8sState) : Prop :=
  ∀ n d r, DottedName d → ¬ Offers state n (wildcardHost d) r

/-! ## §2. The table of a build, by what is offered. -/

section

variable {ext : Ext} {env : ControllerEnvConf} {load : Outside → Except Fail ControllerConf}
  {s : Sys} {state : K8sState} {vs : List EntryVisit} {cfg : RoutingConfig} {h : GoString}

theorem mem_routesUnder_built (hvs : Visits state.ingresses vs)
    (hcfg : getProxyConfig state vs = .ok cfg) {r : RouteConfig} :
    r ∈ routesUnder cfg.hosts h ↔ ∃ n, Offers state n h r := by
  obtain ⟨_, _, _, _, rfl⟩ := getProxyConfig_eq_ok.mp hcfg
  rw [mem_routesUnder_hostsOf, ← mem_routesAt]
  exact mem_added hvs

theorem mem_routes_built (hvs : Visits state.ingresses vs)
    (hcfg : getProxyConfig state vs = .ok cfg) {hc : HostConfig} {r : RouteConfig}
    (hlook : cfg.hosts.lookup h = some hc) : r ∈ hc.routes ↔ ∃ n, Offers state n h r := by
  rw [← mem_routesUnder_built hvs hcfg]
  unfold routesUnder
  rw [hlook]
  rfl

/-- A key stands in the table exactly if something is offered under it. -/
theorem lookup_built_eq_none (hvs : Visits state.ingresses vs)
    (hcfg : getProxyConfig state vs = .ok cfg) :
    cfg.hosts.lookup h = none ↔ ∀ n r, ¬ Offers state n h r := by
  obtain ⟨_, _, _, _, rfl⟩ := getProxyConfig_eq_ok.mp hcfg
  dsimp only
  rw [lookup_hostsOf]
  have hadded : routesAt h (vs.flatMap visitRoutes) = [] ↔ ∀ n r, ¬ Offers state n h r := by
    rw [List.eq_nil_iff_forall_not_mem]
    constructor
    · intro hnone n r hr
      exact hnone r ((mem_added hvs).mpr ⟨n, hr⟩)
    · intro hnone r hr
      obtain ⟨n, ho⟩ := (mem_added hvs).mp hr
      exact hnone n r ho
  rw [← hadded]
  split_ifs with hnil
  · exact ⟨fun _ => hnil, fun _ => rfl⟩
  · exact ⟨fun hsome => (by cases hsome), fun hnil' => absurd hnil' hnil⟩

/-- What a configured ingress offers it declares. -/
theorem declares_of_offers (hs : s.Valid ext) {n : NamespacedName} {r : RouteConfig}
    (ho : Offers s.state n h r) : DeclaresHost s.state h := by
  obtain ⟨e, he, _, api, conf, d, hd, hroute⟩ := routeFor_of_offers hs ho
  obtain ⟨rule, hrule, hpath⟩ := List.mem_flatMap.mp hd
  obtain ⟨path, _, rfl⟩ := List.mem_map.mp hpath
  exact ⟨n, e, he, rule, hrule, hroute.host.symm⟩

/-- The lookup of a subdomain that is not in the table: the wildcard key, then the
default. -/
theorem lookupHost_subdomain (rc : RoutingConfig) {l d : GoString} (hl : byteDot ∉ l)
    (hnone : rc.hosts.lookup (subdomain l d) = none) :
    rc.lookupHost (subdomain l d)
      = (rc.hosts.lookup (byteDot :: d)).or (rc.hosts.lookup []) := by
  unfold subdomain at hnone ⊢
  rw [lookupHost_append rc hl d, hnone, Option.none_or]

/-- The strings of a list are no longer than some bound. -/
theorem exists_length_bound (hosts : List GoString) : ∃ N, ∀ h ∈ hosts, h.length ≤ N := by
  induction hosts with
  | nil => exact ⟨0, fun h hh => by cases hh⟩
  | cons host hosts ih =>
      obtain ⟨N, hN⟩ := ih
      refine ⟨max host.length N, fun h hh => ?_⟩
      rcases List.mem_cons.mp hh with rfl | hrest
      · exact le_max_left _ _
      · exact (hN h hrest).trans (le_max_right _ _)

/-- Some label makes a subdomain that is not among the hosts. -/
theorem exists_label_not_mem (hosts : List GoString) (d : GoString) :
    ∃ l : GoString, l ≠ [] ∧ byteDot ∉ l ∧ subdomain l d ∉ hosts := by
  -- a label longer than every host
  obtain ⟨N, hN⟩ := exists_length_bound hosts
  refine ⟨List.replicate (N + 1) 0x61, ?_, ?_, ?_⟩
  · exact List.replicate_succ ▸ List.cons_ne_nil _ _
  · intro hdot
    have heq := List.eq_of_mem_replicate hdot
    exact absurd heq (by decide)
  · intro hmem
    have hle := hN _ hmem
    unfold subdomain at hle
    rw [List.length_append, List.length_replicate] at hle
    omega

/-- Some label makes a subdomain that nobody declares. -/
theorem exists_fresh_label (state : K8sState) (d : GoString) :
    ∃ l : GoString, l ≠ [] ∧ byteDot ∉ l ∧ ¬ DeclaresHost state (subdomain l d) := by
  obtain ⟨entries, hentries⟩ := GoMap.exists_ranges state.ingresses
  obtain ⟨l, hne, hl, hfresh⟩ := exists_label_not_mem
    (entries.flatMap fun e => e.2.ingress.rules.map IngressRule.host) d
  refine ⟨l, hne, hl, ?_⟩
  rintro ⟨n, e, he, rule, hrule, hhost⟩
  refine hfresh (List.mem_flatMap.mpr ⟨(n, e), hentries.mem_iff.mpr he, ?_⟩)
  exact List.mem_map.mpr ⟨rule, hrule, hhost⟩

/-! ## §3. The condition is exact. -/

/-- Under a subdomain nobody declares, a route is found exactly if the wildcard key or, without
it, the default key offers it. -/
theorem found_iff (hs : s.Valid ext) (hvs : Visits s.state.ingresses vs)
    (hcfg : getProxyConfig s.state vs = .ok cfg) {l d : GoString} (hl : byteDot ∉ l)
    (hfree : ¬ DeclaresHost s.state (subdomain l d)) (r : RouteConfig) :
    (∃ hc, cfg.lookupHost (subdomain l d) = some hc ∧ r ∈ hc.routes) ↔
      (∃ m, Offers s.state m (byteDot :: d) r)
        ∨ (∀ m x, ¬ Offers s.state m (byteDot :: d) x) ∧ ∃ m, Offers s.state m [] r := by
  have hnone : cfg.hosts.lookup (subdomain l d) = none :=
    (lookup_built_eq_none hvs hcfg).mpr fun n x ho => hfree (declares_of_offers hs ho)
  rw [lookupHost_subdomain cfg hl hnone]
  cases hwild : cfg.hosts.lookup (byteDot :: d) with
  | none =>
      have hnot := (lookup_built_eq_none hvs hcfg).mp hwild
      have hdefault := mem_routesUnder_built (h := []) (r := r) hvs hcfg
      unfold routesUnder at hdefault
      rw [Option.none_or]
      constructor
      · rintro ⟨hc, hlook, hr⟩
        refine Or.inr ⟨hnot, hdefault.mp ?_⟩
        rw [hlook]
        exact hr
      · rintro (⟨m, ho⟩ | ⟨_, ho⟩)
        · exact absurd ho (hnot m r)
        · have hr := hdefault.mpr ho
          cases hlook : cfg.hosts.lookup [] with
          | none =>
              rw [hlook] at hr
              cases hr
          | some hc =>
              rw [hlook] at hr
              exact ⟨hc, rfl, hr⟩
  | some hc =>
      have hoffered := mem_routesUnder_built (h := byteDot :: d) (r := r) hvs hcfg
      unfold routesUnder at hoffered
      rw [hwild] at hoffered
      have hsome : ∃ m x, Offers s.state m (byteDot :: d) x := by
        by_contra hnot
        push Not at hnot
        rw [(lookup_built_eq_none hvs hcfg).mpr hnot] at hwild
        cases hwild
      obtain ⟨m, x, hx⟩ := hsome
      rw [Option.some_or]
      constructor
      · rintro ⟨hc', heq, hr⟩
        cases heq
        exact Or.inl (hoffered.mp hr)
      · rintro (ho | ⟨hnot, _⟩)
        · exact ⟨hc, rfl, hoffered.mpr ho⟩
        · exact absurd hx (hnot m x)

/-- **Wildcard hosts are reachable exactly if their routes are repeated** under the key that
the lookup tries; and they are reachable with every key in the documented format exactly if
there are none. -/
theorem wildcards_iff (hs : s.Reached ext env load) (hvs : Visits s.state.ingresses vs)
    (hcfg : getProxyConfig s.state vs = .ok cfg) :
    (WildcardsReachable s.state cfg ↔ WildcardsRepeated s.state)
      ∧ (WildcardsReachable s.state cfg ∧ KeysDocumented cfg ↔ NoWildcards s.state) := by
  have hvalid := valid_of_reached hs
  refine ⟨⟨?_, ?_⟩, ⟨?_, ?_⟩⟩
  · intro hreach n d r hd ho
    obtain ⟨l, hne, hl, hfree⟩ := exists_fresh_label s.state d
    exact (found_iff hvalid hvs hcfg hl hfree r).mp (hreach n d r hd ho l hne hl hfree)
  · intro hrepeated n d r hd ho l _ hl hfree
    exact (found_iff hvalid hvs hcfg hl hfree r).mpr (hrepeated n d r hd ho)
  · rintro ⟨_, hkeys⟩ n d r hd ho
    -- a wildcard host that is offered is a key of the table
    cases hlook : cfg.hosts.lookup (wildcardHost d) with
    | none => exact (lookup_built_eq_none hvs hcfg).mp hlook n r ho
    | some hc => exact hkeys _ hc hlook d hd rfl
  · intro hnone
    refine ⟨fun n d r hd ho => absurd ho (hnone n d r hd), ?_⟩
    rintro h hc hlook d hd rfl
    rw [(lookup_built_eq_none hvs hcfg).mpr fun n r => hnone n d r hd] at hlook
    cases hlook

end

/-! ## §4. One ingress, to evaluate lookups on. -/

section

variable {api : Api} {ingress : Ingress} {c : IngressConfiguration} {cfg : RoutingConfig}

/-- The ingress is the only one of the small system. -/
theorem configuring_entry (hone : Configures api ingress c) {n : NamespacedName}
    {e : IngressEntry} :
    (Sys.configuring api cfg [ingress]).state.ingresses.lookup n = some e
      ↔ n = objectMetaToNamespaced ingress ∧ e = ⟨ingress, some c⟩ := by
  have hempty : (Sys.classed cfg).state.ingresses.lookup n = none := Finmap.lookup_empty n
  rw [configuring_state cfg (.cons hone .nil)]
  show ((Sys.classed cfg).state.updateIngress ⟨ingress, some c⟩).ingresses.lookup n = some e ↔ _
  rw [lookup_updateIngress, hempty]
  split_ifs with hn
  · exact ⟨fun he => ⟨hn, (Option.some.inj he).symm⟩, fun he => congrArg some he.2.symm⟩
  · exact ⟨fun he => (by cases he), fun he => absurd he.1 hn⟩

/-- What it offers is what its configuration holds. -/
theorem configuring_offers (hone : Configures api ingress c) {n : NamespacedName} {h : GoString}
    {r : RouteConfig} :
    Offers (Sys.configuring api cfg [ingress]).state n h r
      ↔ n = objectMetaToNamespaced ingress ∧ r ∈ routesUnder c.hosts h := by
  unfold Offers K8sState.configured
  constructor
  · rintro ⟨c', hc', hr⟩
    obtain ⟨e, he, hc'⟩ := Option.bind_eq_some_iff.mp hc'
    obtain ⟨hn, rfl⟩ := (configuring_entry hone).mp he
    cases hc'
    exact ⟨hn, hr⟩
  · rintro ⟨hn, hr⟩
    exact ⟨c, Option.bind_eq_some_iff.mpr ⟨_, (configuring_entry hone).mpr ⟨hn, rfl⟩, rfl⟩, hr⟩

end

/-- The ingress `ns/a` with one exact path under each of the hosts. -/
def hostIngress (hosts : List GoString) : Ingress :=
  Ingress.small (lit "a") ∅ (hosts.map fun host =>
    ⟨host, some [⟨lit "/", some .exact, some ⟨lit "svc", ⟨lit "http", 0⟩⟩⟩]⟩) []

def hostConfiguration (hosts : List GoString) : IngressConfiguration :=
  { openConfiguration 4096 with
    usedServices := hosts.map fun _ => ⟨lit "ns", lit "svc"⟩
    hosts := hostsOf (hosts.map fun host => (host, openRoute 4096)) }

theorem configures_host (host : GoString) :
    Configures Api.small (hostIngress [host]) (hostConfiguration [host]) := ⟨rfl, rfl⟩

theorem configures_hosts (host host' : GoString) :
    Configures Api.small (hostIngress [host, host']) (hostConfiguration [host, host']) := ⟨rfl, rfl⟩

section

variable {cfg : RoutingConfig} {hosts : List GoString}

theorem hosting_entry (hone : Configures Api.small (hostIngress hosts) (hostConfiguration hosts))
    {n : NamespacedName} {e : IngressEntry}
    (he : (Sys.configuring Api.small cfg [hostIngress hosts]).state.ingresses.lookup n = some e) :
    e.ingress = hostIngress hosts := by
  obtain ⟨_, rfl⟩ := (configuring_entry hone).mp he
  rfl

/-- What the ingress offers. -/
theorem hosting_offers (hone : Configures Api.small (hostIngress hosts) (hostConfiguration hosts))
    {h : GoString} {n : NamespacedName} {r : RouteConfig} :
    Offers (Sys.configuring Api.small cfg [hostIngress hosts]).state n h r
      ↔ n = smallName ∧ h ∈ hosts ∧ r = openRoute 4096 := by
  refine (configuring_offers hone).trans ?_
  show n = smallName
    ∧ r ∈ routesUnder (hostsOf (hosts.map fun host => (host, openRoute 4096))) h ↔ _
  rw [mem_routesUnder_hostsOf, List.mem_map]
  simp [eq_comm]

end

/-- Without wildcard hosts there is nothing to miss; and the route of `*.a.org` is found where
it is offered under the default key too. -/
theorem wildcards_iff_plain :
    (∃ s vs cfg, Sys.Reached Ext.small smallEnv smallLoad s ∧ Visits s.state.ingresses vs
      ∧ getProxyConfig s.state vs = .ok cfg ∧ (∃ n h r, Offers s.state n h r)
      ∧ WildcardsReachable s.state cfg ∧ KeysDocumented cfg)
    ∧ ∃ s vs cfg, Sys.Reached Ext.small smallEnv smallLoad s ∧ Visits s.state.ingresses vs
      ∧ getProxyConfig s.state vs = .ok cfg
      ∧ Offers s.state smallName (wildcardHost (lit "a.org")) (openRoute 4096)
      ∧ WildcardsReachable s.state cfg
      ∧ ∃ hc, cfg.lookupHost (lit "x.a.org") = some hc ∧ openRoute 4096 ∈ hc.routes := by
  constructor
  · have hone := configures_host (lit "a.org")
    obtain ⟨cfg₀, vs, cfg, hreach, hvs, hcfg⟩ := configuring_reached (.cons hone .nil)
    refine ⟨_, vs, cfg, hreach, hvs, hcfg,
      ⟨_, _, _, (hosting_offers hone).mpr ⟨rfl, List.mem_cons_self, rfl⟩⟩,
      (wildcards_iff hreach hvs hcfg).2.mpr ?_⟩
    intro n d r _ ho
    have hhost := List.mem_singleton.mp ((hosting_offers hone).mp ho).2.1
    have hbyte := congrArg List.head? hhost
    exact absurd hbyte (by simp [wildcardHost, lit, byteAsterisk]; decide)
  · have hone := configures_hosts (wildcardHost (lit "a.org")) []
    obtain ⟨cfg₀, vs, cfg, hreach, hvs, hcfg⟩ := configuring_reached (.cons hone .nil)
    have hoffer := (@hosting_offers cfg₀ _ hone (wildcardHost (lit "a.org")) smallName
      (openRoute 4096)).mpr ⟨rfl, List.mem_cons_self, rfl⟩
    have hdefault := (@hosting_offers cfg₀ _ hone [] smallName (openRoute 4096)).mpr
      ⟨rfl, List.mem_cons_of_mem _ List.mem_cons_self, rfl⟩
    have hreachable := (wildcards_iff hreach hvs hcfg).1.mpr (by
      intro n d r _ ho
      obtain ⟨_, _, rfl⟩ := (hosting_offers hone).mp ho
      refine Or.inr ⟨fun m x hx => ?_, smallName, hdefault⟩
      -- no host of the ingress begins with a dot
      rcases List.mem_cons.mp ((hosting_offers hone).mp hx).2.1 with heq | hrest
      · cases heq
      · cases List.mem_singleton.mp hrest)
    have hfree : ¬ DeclaresHost (Sys.configuring Api.small cfg₀
        [hostIngress [wildcardHost (lit "a.org"), []]]).state
        (subdomain (lit "x") (lit "a.org")) := by
      rintro ⟨n, e, he, rule, hrule, hhost⟩
      rw [hosting_entry hone he] at hrule
      rcases List.mem_cons.mp hrule with rfl | hrest
      · exact absurd hhost (by decide)
      · rw [List.mem_singleton.mp hrest] at hhost
        exact absurd hhost (by decide)
    exact ⟨_, vs, cfg, hreach, hvs, hcfg, hoffer, hreachable, hreachable _ _ _ (by decide) hoffer
      (lit "x") (by decide) (by decide) hfree⟩

/-- A rule for `*.a.org`: the lookup of `x.a.org` finds nothing. -/
theorem wildcard_unreachable : ∃ s vs cfg,
    Sys.Reached Ext.small smallEnv smallLoad s ∧ Visits s.state.ingresses vs
      ∧ getProxyConfig s.state vs = .ok cfg
      ∧ Offers s.state smallName (wildcardHost (lit "a.org")) (openRoute 4096)
      ∧ ¬ DeclaresHost s.state (subdomain (lit "x") (lit "a.org"))
      ∧ cfg.lookupHost (subdomain (lit "x") (lit "a.org")) = none
      ∧ ¬ WildcardsReachable s.state cfg := by
  have hone := configures_host (wildcardHost (lit "a.org"))
  obtain ⟨cfg₀, vs, cfg, hreach, hvs, hcfg⟩ := configuring_reached (.cons hone .nil)
  have hfree : ¬ DeclaresHost (Sys.configuring Api.small cfg₀
      [hostIngress [wildcardHost (lit "a.org")]]).state (subdomain (lit "x") (lit "a.org")) := by
    rintro ⟨n, e, he, rule, hrule, hhost⟩
    rw [hosting_entry hone he] at hrule
    rw [List.mem_singleton.mp hrule] at hhost
    exact absurd hhost (by decide)
  have hnone : ∀ h, h ≠ wildcardHost (lit "a.org") → cfg.hosts.lookup h = none := by
    intro h hne
    refine (lookup_built_eq_none hvs hcfg).mpr fun n r ho => ?_
    exact hne (List.mem_singleton.mp ((hosting_offers hone).mp ho).2.1)
  have hlook : cfg.lookupHost (subdomain (lit "x") (lit "a.org")) = none := by
    rw [lookupHost_subdomain cfg (by decide) (hnone _ (by decide)), hnone _ (by decide),
      hnone _ (by decide)]
    rfl
  have hoffer := (@hosting_offers cfg₀ _ hone (wildcardHost (lit "a.org")) smallName
    (openRoute 4096)).mpr ⟨rfl, List.mem_cons_self, rfl⟩
  refine ⟨_, vs, cfg, hreach, hvs, hcfg, hoffer, hfree, hlook, fun hreachable => ?_⟩
  obtain ⟨hc, hsome, _⟩ :=
    hreachable _ _ _ (by decide) hoffer (lit "x") (by decide) (by decide) hfree
  rw [hlook] at hsome
  cases hsome

end SIngress.Controller
