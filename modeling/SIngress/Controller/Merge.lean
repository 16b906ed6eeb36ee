/-
  SIngress.Controller.Merge — WHAT `getProxyConfig` BUILDS from the entries it
  visits.

  It adds the routes of every configured entry to one table and offers its
  certificates, in the order in which it happens to visit entries, hosts and
  certificates (`getProxyConfig_eq_ok`).  Under one host the routes of one
  entry keep their order (`routesAt_visitRoutes`).
-/
import SIngress.Controller.IngressRoutes

namespace SIngress.Controller

open SIngress.Base SIngress.Lib SIngress.K8s SIngress.Platform SIngress.Config SIngress.Proxy
open SIngress.Modules

/-! ## §1. What one visit adds. -/

/-- The routes a visit adds, in order. -/
def visitRoutes (v : EntryVisit) : List (GoString × RouteConfig) :=
  match v.entry.configuration with
  | none => []
  | some _ => v.hosts.flatMap fun host => host.2.routes.map fun r => (host.1, r)

/-- The certificates a visit offers, in order. -/
def visitTls (v : EntryVisit) : List (GoString × Certificate) :=
  match v.entry.configuration with
  | none => []
  | some _ => v.tls

theorem publishHost_eq (hosts : GoMap GoString HostConfig) (host : GoString × HostConfig) :
    publishHost hosts host = addAll hosts (host.2.routes.map fun r => (host.1, r)) := by
  unfold publishHost addAll
  rw [List.foldl_map]

theorem addAll_append (hosts : GoMap GoString HostConfig) (l l' : List (GoString × RouteConfig)) :
    addAll hosts (l ++ l') = addAll (addAll hosts l) l' :=
  List.foldl_append

theorem foldl_publishHost (l : List (GoString × HostConfig)) :
    ∀ hosts : GoMap GoString HostConfig, l.foldl publishHost hosts
      = addAll hosts (l.flatMap fun host => host.2.routes.map fun r => (host.1, r)) := by
  induction l with
  | nil =>
      intro hosts
      rfl
  | cons host l ih =>
      intro hosts
      rw [List.foldl_cons, ih, publishHost_eq, List.flatMap_cons, addAll_append]

theorem publishEntry_eq (proxyConfig : RoutingConfig) (v : EntryVisit) :
    publishEntry proxyConfig v = { proxyConfig with
      hosts := addAll proxyConfig.hosts (visitRoutes v)
      tlsCertificates := (visitTls v).foldl publishTls proxyConfig.tlsCertificates } := by
  unfold publishEntry visitRoutes visitTls
  cases v.entry.configuration with
  | none => rfl
  | some cfg =>
      dsimp only
      rw [foldl_publishHost]

theorem foldl_publishEntry (vs : List EntryVisit) :
    ∀ proxyConfig : RoutingConfig, vs.foldl publishEntry proxyConfig = { proxyConfig with
      hosts := addAll proxyConfig.hosts (vs.flatMap visitRoutes)
      tlsCertificates := (vs.flatMap visitTls).foldl publishTls proxyConfig.tlsCertificates } := by
  induction vs with
  | nil =>
      intro proxyConfig
      rfl
  | cons v vs ih =>
      intro proxyConfig
      rw [List.foldl_cons, ih, publishEntry_eq, List.flatMap_cons, List.flatMap_cons,
        addAll_append, List.foldl_append]

/-- **`getProxyConfig` in one equation.** -/
theorem getProxyConfig_eq_ok {state : K8sState} {vs : List EntryVisit} {cfg : RoutingConfig} :
    getProxyConfig state vs = .ok cfg ↔
      ∃ conf requestMiddlewares, state.config = some conf
        ∧ getConnectionModules conf.modules = .ok requestMiddlewares
        ∧ cfg =
          { hosts := hostsOf (vs.flatMap visitRoutes)
            tlsCertificates := (vs.flatMap visitTls).foldl publishTls ∅
            defaultTlsCertificate := state.defaultTlsSecret
            tcpProxy := state.tcpProxies
            requestMiddlewares := requestMiddlewares
            trustedProxies := conf.generalProxy.trustedProxies
            errorPage := some conf.generalProxy.errorPage } := by
  unfold getProxyConfig
  cases state.config with
  | none =>
      constructor
      · intro h
        cases h
      · rintro ⟨conf, _, h, _⟩
        cases h
  | some conf =>
      dsimp only
      rw [bind_eq_ok]
      constructor
      · rintro ⟨rm, hrm, h⟩
        refine ⟨conf, rm, rfl, hrm, ?_⟩
        rw [← Except.ok.inj h, foldl_publishEntry]
        rfl
      · rintro ⟨conf', rm, hconf, hrm, rfl⟩
        cases hconf
        refine ⟨rm, hrm, ?_⟩
        rw [foldl_publishEntry]
        rfl

/-! ## §2. The routes of one entry under one host. -/

theorem routesAt_flatMap (h : GoString) (l : List (GoString × HostConfig)) :
    routesAt h (l.flatMap fun host => host.2.routes.map fun r => (host.1, r))
      = l.flatMap fun host => if host.1 = h then host.2.routes else [] := by
  induction l with
  | nil => rfl
  | cons host l ih =>
      rw [List.flatMap_cons, List.flatMap_cons, routesAt_append, ih]
      congr 1
      unfold routesAt
      rw [List.filter_map, List.map_map]
      by_cases heq : host.1 = h <;> simp [heq, Function.comp_def]

/-- Visiting every host once, one meets the routes under `h` once, in their order. -/
theorem flatMap_ranges {hosts : GoMap GoString HostConfig} {l : List (GoString × HostConfig)}
    (hl : GoMap.Ranges hosts l) (h : GoString) :
    (l.flatMap fun host => if host.1 = h then host.2.routes else []) = routesUnder hosts h := by
  have hskip : ∀ l' : List (GoString × HostConfig), h ∉ l'.map Prod.fst →
      (l'.flatMap fun host => if host.1 = h then host.2.routes else []) = [] := by
    intro l' hl'
    refine List.flatMap_eq_nil_iff.mpr fun host hhost => if_neg ?_
    rintro rfl
    exact hl' (List.mem_map_of_mem hhost)
  unfold routesUnder
  cases hlook : hosts.lookup h with
  | none =>
      refine hskip l ?_
      rintro hmem
      obtain ⟨⟨h', hc⟩, he, rfl⟩ := List.mem_map.mp hmem
      rw [hl.mem_iff.mp he] at hlook
      cases hlook
  | some hc =>
      -- the one entry with key `h` splits the order in two
      obtain ⟨l₁, l₂, rfl⟩ := List.append_of_mem (hl.mem_iff.mpr hlook)
      have hnodup := hl.1
      rw [List.map_append, List.map_cons, List.nodup_append] at hnodup
      obtain ⟨_, htail, hdisj⟩ := hnodup
      have h₁ : h ∉ l₁.map Prod.fst := fun hmem => hdisj h hmem h List.mem_cons_self rfl
      have h₂ : h ∉ l₂.map Prod.fst := (List.nodup_cons.mp htail).1
      rw [List.flatMap_append, List.flatMap_cons, hskip l₁ h₁, hskip l₂ h₂, if_pos rfl]
      simp

theorem routesAt_visitRoutes {v : EntryVisit} {cfg : IngressConfiguration}
    (hcfg : v.entry.configuration = some cfg) (h : GoString) :
    routesAt h (visitRoutes v) = routesUnder cfg.hosts h := by
  unfold visitRoutes
  rw [hcfg]
  exact (routesAt_flatMap h v.hosts).trans (flatMap_ranges (v.hosts_order cfg hcfg) h)

theorem routesAt_visits (h : GoString) (vs : List EntryVisit) :
    routesAt h (vs.flatMap visitRoutes) = vs.flatMap fun v => routesAt h (visitRoutes v) := by
  induction vs with
  | nil => rfl
  | cons v vs ih => rw [List.flatMap_cons, List.flatMap_cons, routesAt_append, ih]

/-! ## §3. The visited entries. -/

theorem Visits.lookup {ingresses : GoMap NamespacedName IngressEntry} {vs : List EntryVisit}
    (h : Visits ingresses vs) {v : EntryVisit} (hv : v ∈ vs) :
    ingresses.lookup v.name = some v.entry :=
  GoMap.Ranges.mem_iff h |>.mp (List.mem_map_of_mem hv)

theorem Visits.exists_visit {ingresses : GoMap NamespacedName IngressEntry}
    {vs : List EntryVisit} (h : Visits ingresses vs) {n : NamespacedName} {e : IngressEntry}
    (he : ingresses.lookup n = some e) : ∃ v ∈ vs, v.name = n ∧ v.entry = e := by
  obtain ⟨v, hv, heq⟩ := List.mem_map.mp (GoMap.Ranges.mem_iff h |>.mpr he)
  exact ⟨v, hv, congrArg Prod.fst heq, congrArg Prod.snd heq⟩

theorem mem_visitRoutes {v : EntryVisit} {cfg : IngressConfiguration}
    (hcfg : v.entry.configuration = some cfg) {h : GoString} {r : RouteConfig} :
    (h, r) ∈ visitRoutes v ↔ r ∈ routesUnder cfg.hosts h := by
  rw [← mem_routesAt, routesAt_visitRoutes hcfg]

/-- Where a published route comes from. -/
theorem mem_visits_routes {vs : List EntryVisit} {h : GoString} {r : RouteConfig} :
    (h, r) ∈ vs.flatMap visitRoutes ↔
      ∃ v ∈ vs, ∃ cfg, v.entry.configuration = some cfg ∧ r ∈ routesUnder cfg.hosts h := by
  rw [List.mem_flatMap]
  constructor
  · rintro ⟨v, hv, hr⟩
    cases hcfg : v.entry.configuration with
    | none =>
        unfold visitRoutes at hr
        rw [hcfg] at hr
        cases hr
    | some cfg => exact ⟨v, hv, cfg, hcfg, (mem_visitRoutes hcfg).mp hr⟩
  · rintro ⟨v, hv, cfg, hcfg, hr⟩
    exact ⟨v, hv, (mem_visitRoutes hcfg).mpr hr⟩

theorem mem_visits_tls {vs : List EntryVisit} {h : GoString} {cert : Certificate} :
    (h, cert) ∈ vs.flatMap visitTls ↔
      ∃ v ∈ vs, ∃ cfg, v.entry.configuration = some cfg
        ∧ cfg.tlsCertificates.lookup h = some cert := by
  rw [List.mem_flatMap]
  unfold visitTls
  constructor
  · rintro ⟨v, hv, ht⟩
    cases hcfg : v.entry.configuration with
    | none =>
        rw [hcfg] at ht
        cases ht
    | some cfg =>
        rw [hcfg] at ht
        exact ⟨v, hv, cfg, hcfg, (v.tls_order cfg hcfg).mem_iff.mp ht⟩
  · rintro ⟨v, hv, cfg, hcfg, ht⟩
    refine ⟨v, hv, ?_⟩
    rw [hcfg]
    exact (v.tls_order cfg hcfg).mem_iff.mpr ht

/-- The certificate of a host is the first one met. -/
theorem lookup_foldl_publishTls (l : List (GoString × Certificate)) :
    ∀ (certs : GoMap GoString Certificate) (h : GoString),
      (l.foldl publishTls certs).lookup h
        = (certs.lookup h).or ((l.find? fun t => t.1 = h).map Prod.snd) := by
  induction l with
  | nil =>
      intro certs h
      show certs.lookup h = (certs.lookup h).or none
      rw [Option.or_none]
  | cons t l ih =>
      intro certs h
      rw [List.foldl_cons, ih, publishTls, lookup_bindCertificate, Option.or_assoc]
      congr 1
      by_cases heq : h = t.1
      · simp [heq]
      · simp [heq, Ne.symm heq]

theorem lookup_publishedTls {l : List (GoString × Certificate)} {h : GoString}
    {cert : Certificate} (hc : (l.foldl publishTls ∅).lookup h = some cert) :
    (h, cert) ∈ l := by
  rw [lookup_foldl_publishTls, Finmap.lookup_empty, Option.none_or,
    Option.map_eq_some_iff] at hc
  obtain ⟨⟨h', c⟩, hfind, rfl⟩ := hc
  have heq := List.find?_some hfind
  rw [← of_decide_eq_true heq]
  exact List.mem_of_find?_eq_some hfind

theorem publishedTls_isSome {l : List (GoString × Certificate)} {h : GoString} :
    ((l.foldl publishTls ∅).lookup h).isSome = true ↔ ∃ cert, (h, cert) ∈ l := by
  constructor
  · intro hs
    obtain ⟨cert, hc⟩ := Option.isSome_iff_exists.mp hs
    exact ⟨cert, lookup_publishedTls hc⟩
  · rintro ⟨cert, hmem⟩
    rw [lookup_foldl_publishTls, Finmap.lookup_empty, Option.none_or, Option.isSome_map,
      List.find?_isSome]
    exact ⟨(h, cert), hmem, decide_eq_true rfl⟩

/-- What a configured entry holds is served. -/
theorem served_of_configured {state : K8sState} {vs : List EntryVisit} {cfg : RoutingConfig}
    (hvs : Visits state.ingresses vs) (hcfg : getProxyConfig state vs = .ok cfg)
    {n : NamespacedName} {c : IngressConfiguration} (hc : state.configured n = some c)
    {h : GoString} {r : RouteConfig} (hr : r ∈ routesUnder c.hosts h) :
    r ∈ routesUnder cfg.hosts h := by
  obtain ⟨_, _, _, _, rfl⟩ := getProxyConfig_eq_ok.mp hcfg
  obtain ⟨e, he, hc⟩ := Option.bind_eq_some_iff.mp hc
  obtain ⟨v, hv, _, rfl⟩ := hvs.exists_visit he
  exact mem_routesUnder_hostsOf.mpr (mem_visits_routes.mpr ⟨v, hv, c, hc, hr⟩)

end SIngress.Controller
