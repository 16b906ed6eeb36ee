/-
  SIngress.Controller.PublishedTable — THE PUBLISHED TABLE is the union of the
  configured ingresses.

  The specification of `reconcileIngress`, composed with what `getProxyConfig`
  builds, says what the proxy serves under a host, for every order in which
  the maps are visited (`published_table`).
-/
import SIngress.Controller.Progress

namespace SIngress.Controller

open SIngress.Base SIngress.Lib SIngress.K8s SIngress.Platform SIngress.Config SIngress.Proxy
open SIngress.Modules

/-! ## §1. The routes of one entry under one host. -/

section

variable (ext : Ext)

/-- What a declared path shows in its route: path, mapped type and ingress name. -/
def shownPath (ingress : Ingress) (d : GoString × HTTPIngressPath) :
    GoString × Except Fail Proxy.PathType × GoString :=
  (d.2.path, mapPathType ext d.2.pathType, (objectMetaToNamespaced ingress).string)

/-- The same three of a route. -/
def shownRoute (r : RouteConfig) : GoString × Except Fail Proxy.PathType × GoString :=
  (r.path, .ok r.pathType, r.ingressName)

/-- What an entry is to contribute under `h`: one route for every path with a Service
backend of a rule for `h`, and nothing without a configuration. -/
def entryRoutes (h : GoString) (e : IngressEntry) :
    List (GoString × Except Fail Proxy.PathType × GoString) :=
  match e.configuration with
  | none => []
  | some _ => ((declared e.ingress).filter fun d => d.1 = h).map (shownPath ext e.ingress)

variable {ext}

theorem shown_of_routeFor {api : Api} {conf : ControllerConf} {ingress : Ingress} (h : GoString)
    {ds : List (GoString × HTTPIngressPath)} {l : List (GoString × RouteConfig)}
    (hl : List.Forall₂ (RouteFor ext api conf ingress) ds l) :
    (routesAt h l).map shownRoute
      = (ds.filter fun d => d.1 = h).map (shownPath ext ingress) := by
  induction hl with
  | nil => rfl
  | @cons d r ds l hr hl ih =>
      have hshow : shownRoute r.2 = shownPath ext ingress d := by
        unfold shownRoute shownPath
        rw [hr.path, hr.pathType, hr.ingressName]
      have hhost := hr.host
      unfold routesAt at ih ⊢
      by_cases heq : d.1 = h
      · simp [hhost, heq, ih, hshow]
      · simp [hhost, heq, ih]

theorem shown_visitRoutes {v : EntryVisit} {api : Api} {conf : ControllerConf}
    {cfg : IngressConfiguration} (hcfg : v.entry.configuration = some cfg)
    (hok : reconcileIngress ext api conf v.entry.ingress = .ok cfg) (h : GoString) :
    ((routesAt h (visitRoutes v)).map shownRoute).Perm (entryRoutes ext h v.entry) := by
  obtain ⟨l, hl, hhosts⟩ := (reconcileIngress_spec hok).1
  rw [routesAt_visitRoutes hcfg, hhosts]
  unfold entryRoutes
  rw [hcfg]
  dsimp only
  rw [← shown_of_routeFor h hl]
  exact (routesUnder_hostsOf l h).map shownRoute

theorem typed_of_mapPathType {pathType? : Option K8s.PathType} {r : RouteConfig}
    (h : mapPathType ext pathType? = .ok r.pathType) : r.Typed := by
  unfold mapPathType at h
  split at h
  · exact Or.inl (Except.ok.inj h).symm
  · exact Or.inr (Except.ok.inj h).symm
  · exact Or.inl (Except.ok.inj h).symm
  · exact Or.inr (Except.ok.inj h).symm
  · cases h

end

/-! ## §2. The union. -/

section

variable (ext : Ext)

/-- The table holds what the configured entries of the state declare, and nothing else. -/
structure IsUnion (state : K8sState) (cfg : RoutingConfig) : Prop where
  /-- One route for each declared path, whichever way the entries are listed. -/
  routes : ∀ entries, GoMap.Ranges state.ingresses entries → ∀ h,
    ((routesUnder cfg.hosts h).map shownRoute).Perm
      (entries.flatMap fun e => entryRoutes ext h e.2)
  ordered : ∀ h hc, cfg.hosts.lookup h = some hc → LookupOrdered hc.routes
  nonempty : ∀ h hc, cfg.hosts.lookup h = some hc → hc.routes ≠ []
  tlsKeys : ∀ h, (cfg.tlsCertificates.lookup h).isSome = true ↔
    ∃ n e, state.ingresses.lookup n = some e ∧ e.configuration.isSome = true
      ∧ ∃ item ∈ e.ingress.tls, IngressTLS.Lists item h
  /-- Each certificate is one that a configured entry holds for the host and loaded from
  a secret it lists with the host. -/
  tlsLoaded : ∀ h cert, cfg.tlsCertificates.lookup h = some cert →
    ∃ n e conf, state.ingresses.lookup n = some e ∧ e.configuration = some conf
      ∧ conf.tlsCertificates.lookup h = some cert
      ∧ ∃ api, ∃ item ∈ e.ingress.tls,
          IngressTLS.Lists item h ∧ Loads ext api e.ingress item cert
  /-- An entry without a configuration contributes nothing. -/
  unconfigured : ∀ n e, state.ingresses.lookup n = some e → e.configuration = none →
    ∀ h, ∀ r ∈ routesUnder cfg.hosts h,
      r.ingressName ≠ (objectMetaToNamespaced e.ingress).string

variable {ext} {env : ControllerEnvConf} {load : Outside → Except Fail ControllerConf} {s : Sys}
  {vs : List EntryVisit}

/-- Every visited configuration is the result of a reconcile of its ingress. -/
theorem visit_backed (hs : s.Valid ext) (hvs : Visits s.state.ingresses vs) {v : EntryVisit}
    (hv : v ∈ vs) {cfg : IngressConfiguration} (hcfg : v.entry.configuration = some cfg) :
    ∃ api conf, reconcileIngress ext api conf v.entry.ingress = .ok cfg := by
  obtain ⟨api, conf, _, hok⟩ := (hs v.name v.entry (hvs.lookup hv)).backed cfg hcfg
  exact ⟨api, conf, hok⟩

theorem shown_visits (hs : s.Valid ext) (hvs : Visits s.state.ingresses vs) (h : GoString) :
    ((routesAt h (vs.flatMap visitRoutes)).map shownRoute).Perm
      (vs.flatMap fun v => entryRoutes ext h v.entry) := by
  rw [routesAt_visits, List.map_flatMap]
  refine List.Perm.flatMap_left vs fun v hv => ?_
  cases hcfg : v.entry.configuration with
  | none =>
      unfold visitRoutes entryRoutes
      rw [hcfg]
      exact List.Perm.refl _
  | some cfg =>
      obtain ⟨api, conf, hok⟩ := visit_backed hs hvs hv hcfg
      exact shown_visitRoutes hcfg hok h

/-- Every published route has the name of a configured entry and a type the proxy can
match. -/
theorem published_route (hs : s.Valid ext) (hvs : Visits s.state.ingresses vs) {h : GoString}
    {r : RouteConfig} (hr : (h, r) ∈ vs.flatMap visitRoutes) :
    r.Typed ∧ ∃ v ∈ vs, v.entry.configuration.isSome = true
      ∧ r.ingressName = (objectMetaToNamespaced v.entry.ingress).string := by
  obtain ⟨v, hv, cfg, hcfg, hmem⟩ := mem_visits_routes.mp hr
  obtain ⟨api, conf, hok⟩ := visit_backed hs hvs hv hcfg
  obtain ⟨d, _, hd⟩ := routeFor_of_mem hok hmem
  exact ⟨typed_of_mapPathType hd.pathType, v, hv, by rw [hcfg]; rfl, hd.ingressName⟩

theorem lookup_hostsOf_some {l : List (GoString × RouteConfig)} {h : GoString} {hc : HostConfig}
    (hlook : (hostsOf l).lookup h = some hc) :
    routesAt h l ≠ [] ∧ hc = addRoutes (routesAt h l) := by
  rw [lookup_hostsOf] at hlook
  split_ifs at hlook with hnil
  exact ⟨hnil, (Option.some.inj hlook).symm⟩

/-- A host of the table has routes. -/
theorem routes_ne_nil_of_lookup {l : List (GoString × RouteConfig)} {h : GoString}
    {hc : HostConfig} (hlook : (hostsOf l).lookup h = some hc) : hc.routes ≠ [] := by
  obtain ⟨hne, rfl⟩ := lookup_hostsOf_some hlook
  intro hnil
  have hperm := addRoutes_perm (routesAt h l)
  rw [hnil] at hperm
  exact hne hperm.nil_eq.symm

/-- A host gets a certificate exactly if a configured entry lists it. -/
theorem published_tls_iff (hs : s.Valid ext) (hvs : Visits s.state.ingresses vs) (h : GoString) :
    (∃ cert, (h, cert) ∈ vs.flatMap visitTls) ↔
      ∃ n e, s.state.ingresses.lookup n = some e ∧ e.configuration.isSome = true
        ∧ ∃ item ∈ e.ingress.tls, IngressTLS.Lists item h := by
  constructor
  · rintro ⟨cert, hmem⟩
    obtain ⟨v, hv, cfg, hcfg, hlook⟩ := mem_visits_tls.mp hmem
    obtain ⟨api, conf, hok⟩ := visit_backed hs hvs hv hcfg
    refine ⟨v.name, v.entry, hvs.lookup hv, by rw [hcfg]; rfl, ?_⟩
    exact ((reconcileIngress_spec hok).2.keys h).mp (by rw [hlook]; rfl)
  · rintro ⟨n, e, he, hsome, hlist⟩
    obtain ⟨v, hv, _, rfl⟩ := hvs.exists_visit he
    obtain ⟨cfg, hcfg⟩ := Option.isSome_iff_exists.mp hsome
    obtain ⟨api, conf, hok⟩ := visit_backed hs hvs hv hcfg
    -- the reconcile of the entry loaded a certificate for every host it lists
    have hkey := ((reconcileIngress_spec hok).2.keys h).mpr hlist
    obtain ⟨cert, hcert⟩ := Option.isSome_iff_exists.mp hkey
    exact ⟨cert, mem_visits_tls.mpr ⟨v, hv, cfg, hcfg, hcert⟩⟩

/-- No published route has the name of an entry without a configuration. -/
theorem published_name_ne (hs : s.Valid ext) (hvs : Visits s.state.ingresses vs)
    {n : NamespacedName} {e : IngressEntry} (he : s.state.ingresses.lookup n = some e)
    (hnone : e.configuration = none) {h : GoString} {r : RouteConfig}
    (hr : (h, r) ∈ vs.flatMap visitRoutes) :
    r.ingressName ≠ (objectMetaToNamespaced e.ingress).string := by
  intro hname
  -- the name of a route is the name of the configured entry it comes from
  obtain ⟨_, v, hv, hsome, hv'⟩ := published_route hs hvs hr
  have hsame := objectMetaToNamespaced_inj (hv'.symm.trans hname)
  rw [(hs n e he).keyed, (hs _ _ (hvs.lookup hv)).keyed] at hsame
  have hlook := hvs.lookup hv
  rw [hsame, he] at hlook
  rw [← Option.some.inj hlook, hnone] at hsome
  cases hsome

/-- **The published table is the union of the configured ingresses**, in every reachable
state and for every order in which the maps are visited. -/
theorem published_table {cfg : RoutingConfig} (hs : s.Reached ext env load)
    (hvs : Visits s.state.ingresses vs) (hcfg : getProxyConfig s.state vs = .ok cfg) :
    IsUnion ext s.state cfg := by
  have hvalid := valid_of_reached hs
  obtain ⟨conf, rm, _, _, rfl⟩ := getProxyConfig_eq_ok.mp hcfg
  refine ⟨fun entries hentries h => ?_, fun h hc hlook => ?_, fun h hc hlook => ?_,
    fun h => ?_, fun h cert hcert => ?_, fun n e he hnone h r hr => ?_⟩
  · -- list the entries as the loop visited them
    have hperm : (vs.map fun v => (v.name, v.entry)).Perm entries := GoMap.Ranges.perm hvs hentries
    have hflat := hperm.flatMap_right fun e => entryRoutes ext h e.2
    rw [List.flatMap_map] at hflat
    exact (((routesUnder_hostsOf _ h).map shownRoute).trans (shown_visits hvalid hvs h)).trans hflat
  · obtain ⟨_, rfl⟩ := lookup_hostsOf_some hlook
    exact addRoutes_lookupOrdered fun r hr => (published_route hvalid hvs (mem_routesAt.mp hr)).1
  · exact routes_ne_nil_of_lookup hlook
  · rw [publishedTls_isSome]
    exact published_tls_iff hvalid hvs h
  · obtain ⟨v, hv, cfg, hcfg', hlook⟩ := mem_visits_tls.mp (lookup_publishedTls hcert)
    obtain ⟨api, conf', hok⟩ := visit_backed hvalid hvs hv hcfg'
    obtain ⟨item, hitem, hlists, hloads⟩ := (reconcileIngress_spec hok).2.loaded h cert hlook
    exact ⟨v.name, v.entry, cfg, hvs.lookup hv, hcfg', hlook, api, item, hitem, hlists, hloads⟩
  · exact published_name_ne hvalid hvs he hnone (mem_routesUnder_hostsOf.mp hr)

end

/-! ## §3. Two ingresses of one host. -/

/-- A server that answers every secret with the same key pair. -/
def Api.certifying : Api :=
  { Api.small with
    getSecret := fun _ =>
      .ok ⟨(Finmap.singleton (lit "tls.crt") (lit "crt")).insert (lit "tls.key") (lit "key")⟩ }

def servicePath (path : GoString) (pathType : K8s.PathType) : HTTPIngressPath :=
  ⟨path, some pathType, some ⟨lit "svc", ⟨lit "http", 0⟩⟩⟩

/-- The ingress `ns/a` with an exact path, a prefix path and a TLS host. -/
def pageIngress : Ingress :=
  Ingress.small (lit "a") ∅
    [⟨lit "a.org", some [servicePath (lit "/") .exact, servicePath (lit "/api") .pathPrefix]⟩]
    [⟨[lit "a.org"], lit "tls"⟩]

/-- The ingress `ns/b` with a longer prefix path under the same host. -/
def apiIngress : Ingress :=
  Ingress.small (lit "b") ∅ [⟨lit "a.org", some [servicePath (lit "/api/v2") .pathPrefix]⟩] []

/-- The table of both has the three routes and the certificate. -/
theorem published_table_small : ∃ s vs cfg,
    Sys.Reached Ext.small smallEnv smallLoad s ∧ Visits s.state.ingresses vs
      ∧ getProxyConfig s.state vs = .ok cfg ∧ IsUnion Ext.small s.state cfg
      ∧ ((routesUnder cfg.hosts (lit "a.org")).map shownRoute).Perm
        [(lit "/", .ok .pathTypeExact, lit "ns/a"), (lit "/api", .ok .pathTypePrefix, lit "ns/a"),
          (lit "/api/v2", .ok .pathTypePrefix, lit "ns/b")]
      ∧ (cfg.tlsCertificates.lookup (lit "a.org")).isSome = true := by
  obtain ⟨page, hpage⟩ : ∃ c, Configures Api.certifying pageIngress c := ⟨_, rfl, rfl⟩
  obtain ⟨api, hapi⟩ : ∃ c, Configures Api.certifying apiIngress c := ⟨_, rfl, rfl⟩
  have hboth : List.Forall₂ (Configures Api.certifying) [pageIngress, apiIngress] [page, api] :=
    .cons hpage (.cons hapi .nil)
  obtain ⟨cfg₀, vs, cfg, hreach, hvs, hcfg⟩ := configuring_reached hboth
  have hentries : (Sys.configuring Api.certifying cfg₀ [pageIngress, apiIngress]).state.ingresses
      = ((∅ : GoMap NamespacedName IngressEntry).insert smallName ⟨pageIngress, some page⟩).insert
        ⟨lit "ns", lit "b"⟩ ⟨apiIngress, some api⟩ := by
    rw [configuring_state cfg₀ hboth]
    rfl
  have hunion := published_table hreach hvs hcfg
  refine ⟨_, vs, cfg, hreach, hvs, hcfg, hunion, ?_, (hunion.tlsKeys (lit "a.org")).mpr ?_⟩
  · refine hunion.routes _ (hentries ▸ (GoMap.ranges_insert_empty _ _).insert ?_ _) (lit "a.org")
    exact (Finmap.lookup_insert_of_ne _ (by decide)).trans (Finmap.lookup_empty _)
  · refine ⟨smallName, ⟨pageIngress, some page⟩, ?_, rfl, _, List.mem_cons_self, by decide,
      List.mem_cons_self⟩
    rw [hentries, Finmap.lookup_insert_of_ne _ (by decide), Finmap.lookup_insert]

end SIngress.Controller
