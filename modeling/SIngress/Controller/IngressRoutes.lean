/-
  SIngress.Controller.IngressRoutes — WHAT `reconcileIngress` PRODUCES.

  The specification of one reconcile: a route for every path with a Service
  backend, in the order of the rules (`Declared`, `RouteFor`), grouped by host
  (`hostsOf`); and for every TLS section with a secret the certificate loaded
  from it, bound to each of its hosts that had none.
-/
import SIngress.Controller.Converter
import SIngress.Proxy.RouteOrder

namespace SIngress.Controller

open SIngress.Base SIngress.Lib SIngress.K8s SIngress.Platform SIngress.Config SIngress.Proxy
open SIngress.Modules

/-! ## §1. Grouping routes by host. -/

/-- The routes of a list that belong to the host `h`, in order. -/
def routesAt (h : GoString) (l : List (GoString × RouteConfig)) : List RouteConfig :=
  (l.filter fun e => e.1 = h).map Prod.snd

/-- Add the routes of a list to a host table, one by one. -/
def addAll (hosts : GoMap GoString HostConfig) (l : List (GoString × RouteConfig)) :
    GoMap GoString HostConfig :=
  l.foldl (fun hosts e => publishRoute e.1 hosts e.2) hosts

/-- The host table a list of routes builds. -/
def hostsOf (l : List (GoString × RouteConfig)) : GoMap GoString HostConfig := addAll ∅ l

theorem routesAt_append (h : GoString) (l l' : List (GoString × RouteConfig)) :
    routesAt h (l ++ l') = routesAt h l ++ routesAt h l' := by
  unfold routesAt
  rw [List.filter_append, List.map_append]

theorem mem_routesAt {h : GoString} {l : List (GoString × RouteConfig)} {r : RouteConfig} :
    r ∈ routesAt h l ↔ (h, r) ∈ l := by
  unfold routesAt
  rw [List.mem_map]
  constructor
  · rintro ⟨⟨h', r'⟩, hmem, rfl⟩
    obtain ⟨hmem, heq⟩ := List.mem_filter.mp hmem
    rw [← of_decide_eq_true heq]
    exact hmem
  · intro hmem
    exact ⟨(h, r), List.mem_filter.mpr ⟨hmem, decide_eq_true rfl⟩, rfl⟩

theorem hostsOf_concat (l : List (GoString × RouteConfig)) (h : GoString) (r : RouteConfig) :
    hostsOf (l ++ [(h, r)]) = publishRoute h (hostsOf l) r := by
  unfold hostsOf addAll
  rw [List.foldl_append]
  rfl

/-- **The table by lookup**: under `h` stand the routes of the list with host `h`, as
`addRoute` orders them, and no key stands without a route. -/
theorem lookup_hostsOf (l : List (GoString × RouteConfig)) (h : GoString) :
    (hostsOf l).lookup h
      = if routesAt h l = [] then none else some (addRoutes (routesAt h l)) := by
  induction l using List.reverseRecOn with
  | nil => rfl
  | append_singleton l e ih =>
      obtain ⟨h', r⟩ := e
      rw [hostsOf_concat, publishRoute, GoMap.lookup_insert_eq, routesAt_append]
      by_cases heq : h = h'
      · subst heq
        have hsingle : routesAt h [(h, r)] = [r] := by simp [routesAt]
        rw [if_pos rfl, hsingle, if_neg (by simp), addRoutes_concat, ih]
        by_cases hnil : routesAt h l = []
        · rw [if_pos hnil, hnil]
          rfl
        · rw [if_neg hnil]
          rfl
      · have hempty : routesAt h [(h', r)] = [] := by simp [routesAt, Ne.symm heq]
        rw [if_neg heq, ih, hempty, List.append_nil]

/-- The routes a table holds under a host. -/
def routesUnder (hosts : GoMap GoString HostConfig) (h : GoString) : List RouteConfig :=
  ((hosts.lookup h).map HostConfig.routes).getD []

theorem routesUnder_hostsOf (l : List (GoString × RouteConfig)) (h : GoString) :
    (routesUnder (hostsOf l) h).Perm (routesAt h l) := by
  unfold routesUnder
  rw [lookup_hostsOf]
  by_cases hnil : routesAt h l = []
  · rw [if_pos hnil, hnil]
    exact List.Perm.refl _
  · rw [if_neg hnil]
    exact addRoutes_perm _

theorem mem_routesUnder_hostsOf {l : List (GoString × RouteConfig)} {h : GoString}
    {r : RouteConfig} : r ∈ routesUnder (hostsOf l) h ↔ (h, r) ∈ l := by
  rw [(routesUnder_hostsOf l h).mem_iff, mem_routesAt]

/-! ## §2. The routes an ingress declares. -/

/-- The paths of one rule with a Service backend, with the rule's host. -/
def declaredPaths (host : GoString) (paths : List HTTPIngressPath) :
    List (GoString × HTTPIngressPath) :=
  (paths.filter fun path => path.service.isSome).map fun path => (host, path)

/-- The paths of some rules with a Service backend, in order. -/
def declaredRules (rules : List IngressRule) : List (GoString × HTTPIngressPath) :=
  rules.flatMap fun rule => declaredPaths rule.host (rule.http.getD [])

/-- The paths with a Service backend, with the host of their rule, in order. -/
def declared (ingress : Ingress) : List (GoString × HTTPIngressPath) :=
  declaredRules ingress.rules

section

variable (ext : Ext) (api : Api) (conf : ControllerConf) (ingress : Ingress)

/-- `r` is the route of the declared path: its path, mapped type and ingress name, with
middlewares and body limit computed from `conf`. -/
structure RouteFor (d : GoString × HTTPIngressPath) (r : GoString × RouteConfig) : Prop where
  host : r.1 = d.1
  path : r.2.path = d.2.path
  pathType : mapPathType ext d.2.pathType = .ok r.2.pathType
  ingressName : r.2.ingressName = (objectMetaToNamespaced ingress).string
  middlewares : ∃ used used',
    getMiddlewares api ingress conf.modules used = .ok (r.2.middlewares, used')
  httpProxyConfig : getHttpProxyConfig ext ingress conf.ingressProxy = .ok r.2.httpProxyConfig

variable {ext api conf ingress}

/-- `addPath` adds the route of its path to the table. -/
theorem addPath_hosts {ingressConf ingressConf' : IngressConfiguration} {hostname : GoString}
    {path : HTTPIngressPath} {backend : IngressServiceBackend}
    (h : addPath ext api conf ingressConf ingress hostname path backend = .ok ingressConf') :
    ∃ r, RouteFor ext api conf ingress (hostname, path) (hostname, r)
      ∧ ingressConf'.hosts = publishRoute hostname ingressConf.hosts r
      ∧ ingressConf'.tlsCertificates = ingressConf.tlsCertificates := by
  obtain ⟨middlewares, usedSecrets, endpoint, pathType, httpProxyConf, hm, _, ht, hp, rfl⟩ :=
    addPath_eq_ok.mp h
  exact ⟨_, ⟨rfl, rfl, ht, rfl, ⟨_, _, hm⟩, hp⟩, rfl, rfl⟩

variable (ext api conf ingress) in
/-- The table of a configuration is built from the routes of the declared paths `ds`. -/
def Holds (ds : List (GoString × HTTPIngressPath)) (hosts : GoMap GoString HostConfig) : Prop :=
  ∃ l, List.Forall₂ (RouteFor ext api conf ingress) ds l ∧ hosts = hostsOf l

theorem addPaths_holds {hostname : GoString} {paths : List HTTPIngressPath} :
    ∀ {ds : List (GoString × HTTPIngressPath)} {ingressConf ingressConf' : IngressConfiguration},
      paths.foldlM (addPathItem ext api conf ingress hostname) ingressConf = .ok ingressConf' →
      Holds ext api conf ingress ds ingressConf.hosts →
      Holds ext api conf ingress (ds ++ declaredPaths hostname paths) ingressConf'.hosts
        ∧ ingressConf'.tlsCertificates = ingressConf.tlsCertificates := by
  induction paths with
  | nil =>
      intro ds ingressConf ingressConf' h hds
      cases h
      rw [show declaredPaths hostname [] = [] from rfl, List.append_nil]
      exact ⟨hds, rfl⟩
  | cons path paths ih =>
      intro ds ingressConf ingressConf' h hds
      obtain ⟨mid, hpath, hrest⟩ := foldlM_cons_eq_ok.mp h
      unfold addPathItem at hpath
      cases hsvc : path.service with
      | none =>
          -- a path without a Service is skipped
          rw [hsvc] at hpath
          cases hpath
          have hskip : declaredPaths hostname (path :: paths) = declaredPaths hostname paths := by
            simp [declaredPaths, hsvc]
          rw [hskip]
          exact ih hrest hds
      | some backend =>
          rw [hsvc] at hpath
          obtain ⟨r, hr, hhosts, htls⟩ := addPath_hosts hpath
          obtain ⟨l, hl, heq⟩ := hds
          have hmid : Holds ext api conf ingress (ds ++ [(hostname, path)]) mid.hosts := by
            refine ⟨l ++ [(hostname, r)], List.rel_append hl (List.Forall₂.cons hr .nil), ?_⟩
            rw [hhosts, heq, hostsOf_concat]
          have hadd : ds ++ declaredPaths hostname (path :: paths)
              = (ds ++ [(hostname, path)]) ++ declaredPaths hostname paths := by
            simp [declaredPaths, hsvc]
          obtain ⟨hfinal, htls'⟩ := ih hrest hmid
          rw [hadd]
          exact ⟨hfinal, htls'.trans htls⟩

theorem addRules_holds {rules : List IngressRule} :
    ∀ {ds : List (GoString × HTTPIngressPath)} {ingressConf ingressConf' : IngressConfiguration},
      rules.foldlM (addRule ext api conf ingress) ingressConf = .ok ingressConf' →
      Holds ext api conf ingress ds ingressConf.hosts →
      Holds ext api conf ingress (ds ++ declaredRules rules) ingressConf'.hosts
        ∧ ingressConf'.tlsCertificates = ingressConf.tlsCertificates := by
  induction rules with
  | nil =>
      intro ds ingressConf ingressConf' h hds
      cases h
      rw [show declaredRules [] = [] from rfl, List.append_nil]
      exact ⟨hds, rfl⟩
  | cons rule rules ih =>
      intro ds ingressConf ingressConf' h hds
      obtain ⟨mid, hrule, hrest⟩ := foldlM_cons_eq_ok.mp h
      unfold addRule at hrule
      cases hhttp : rule.http with
      | none =>
          rw [hhttp] at hrule
          cases hrule
      | some paths =>
          rw [hhttp] at hrule
          obtain ⟨hmid, htls⟩ := addPaths_holds hrule hds
          obtain ⟨hfinal, htls'⟩ := ih hrest hmid
          have hadd : ds ++ declaredRules (rule :: rules)
              = (ds ++ declaredPaths rule.host paths) ++ declaredRules rules := by
            simp [declaredRules, hhttp]
          rw [hadd]
          exact ⟨hfinal, htls'.trans htls⟩

/-! ## §3. Certificates. -/

theorem lookup_bindCertificate (cert : Certificate) (certs : GoMap GoString Certificate)
    (host h : GoString) :
    (bindCertificate cert certs host).lookup h
      = (certs.lookup h).or (if h = host then some cert else none) := by
  unfold bindCertificate
  cases hh : certs.lookup host with
  | some c =>
      dsimp only
      by_cases heq : h = host
      · rw [heq, hh, Option.some_or]
      · rw [if_neg heq, Option.or_none]
  | none =>
      dsimp only
      rw [GoMap.lookup_insert_eq]
      by_cases heq : h = host
      · rw [if_pos heq, if_pos heq, heq, hh, Option.none_or]
      · rw [if_neg heq, if_neg heq, Option.or_none]

/-- Binding a certificate to some hosts: a host that had one keeps it. -/
theorem lookup_foldl_bindCertificate (cert : Certificate) (hosts : List GoString) :
    ∀ (certs : GoMap GoString Certificate) (h : GoString),
      (hosts.foldl (bindCertificate cert) certs).lookup h
        = (certs.lookup h).or (if h ∈ hosts then some cert else none) := by
  induction hosts with
  | nil =>
      intro certs h
      show certs.lookup h = _
      simp
  | cons host hosts ih =>
      intro certs h
      rw [List.foldl_cons, ih, lookup_bindCertificate, Option.or_assoc]
      congr 1
      by_cases heq : h = host
      · simp [heq]
      · simp [heq]

/-- The TLS section lists the host and names a secret. -/
def IngressTLS.Lists (item : IngressTLS) (h : GoString) : Prop :=
  item.secretName ≠ [] ∧ h ∈ item.hosts

variable (ext api ingress) in
/-- The certificate was loaded from the secret of the section. -/
def Loads (item : IngressTLS) (cert : Certificate) : Prop :=
  getCertificateFromSecret ext api ⟨ingress.namesp, item.secretName⟩ = .ok cert

variable (ext api ingress) in
/-- The certificates are those of the sections `items`: a key for every host listed with
a secret, bound to a certificate loaded for that host. -/
structure TlsHolds (items : List IngressTLS) (certs : GoMap GoString Certificate) : Prop where
  keys : ∀ h, (certs.lookup h).isSome = true ↔ ∃ item ∈ items, IngressTLS.Lists item h
  loaded : ∀ h cert, certs.lookup h = some cert →
    ∃ item ∈ items, IngressTLS.Lists item h ∧ Loads ext api ingress item cert

/-- One more section without a secret. -/
theorem TlsHolds.skip {items : List IngressTLS} {certs : GoMap GoString Certificate}
    {item : IngressTLS} (h : TlsHolds ext api ingress items certs) (hs : item.secretName = []) :
    TlsHolds ext api ingress (items ++ [item]) certs where
  keys := by
    intro host
    rw [h.keys host]
    constructor
    · rintro ⟨i, hi, hl⟩
      exact ⟨i, List.mem_append_left _ hi, hl⟩
    · rintro ⟨i, hi, hl⟩
      rcases List.mem_append.mp hi with hi | hi
      · exact ⟨i, hi, hl⟩
      · rw [List.mem_singleton.mp hi] at hl
        exact absurd hs hl.1
  loaded := by
    intro host cert hc
    obtain ⟨i, hi, hl⟩ := h.loaded host cert hc
    exact ⟨i, List.mem_append_left _ hi, hl⟩

/-- One more section, its certificate bound to the hosts that had none. -/
theorem TlsHolds.bind {items : List IngressTLS} {certs : GoMap GoString Certificate}
    {item : IngressTLS} {cert : Certificate} (h : TlsHolds ext api ingress items certs)
    (hs : item.secretName ≠ []) (hcert : Loads ext api ingress item cert) :
    TlsHolds ext api ingress (items ++ [item])
      (item.hosts.foldl (bindCertificate cert) certs) where
  keys := by
    intro host
    have hitem : (if host ∈ item.hosts then some cert else none).isSome = true
        ↔ IngressTLS.Lists item host := by
      unfold IngressTLS.Lists
      by_cases hmem : host ∈ item.hosts
      · simp [hmem, hs]
      · simp [hmem]
    rw [lookup_foldl_bindCertificate, Option.isSome_or, Bool.or_eq_true, h.keys host, hitem]
    simp [or_and_right, exists_or]
  loaded := by
    intro host c hc
    rw [lookup_foldl_bindCertificate, Option.or_eq_some_iff] at hc
    rcases hc with hold | ⟨_, hnew⟩
    · -- a host that had a certificate keeps it
      obtain ⟨i, hi, hl⟩ := h.loaded host c hold
      exact ⟨i, List.mem_append_left _ hi, hl⟩
    · split_ifs at hnew with hmem
      cases hnew
      exact ⟨item, by simp, ⟨hs, hmem⟩, hcert⟩

theorem processTls_holds {items : List IngressTLS} :
    ∀ {seen : List IngressTLS} {ingressConf ingressConf' : IngressConfiguration},
      items.foldlM (addTlsItem ext api ingress) ingressConf = .ok ingressConf' →
      TlsHolds ext api ingress seen ingressConf.tlsCertificates →
      TlsHolds ext api ingress (seen ++ items) ingressConf'.tlsCertificates
        ∧ ingressConf'.hosts = ingressConf.hosts := by
  induction items with
  | nil =>
      intro seen ingressConf ingressConf' h hseen
      cases h
      rw [List.append_nil]
      exact ⟨hseen, rfl⟩
  | cons item items ih =>
      intro seen ingressConf ingressConf' h hseen
      obtain ⟨mid, hitem, hrest⟩ := foldlM_cons_eq_ok.mp h
      unfold addTlsItem at hitem
      have hsplit : seen ++ item :: items = (seen ++ [item]) ++ items := by simp
      rw [hsplit]
      by_cases hs : item.secretName.isEmpty = true
      · rw [if_pos hs] at hitem
        cases hitem
        exact ih hrest (hseen.skip (List.isEmpty_iff.mp hs))
      · rw [if_neg hs] at hitem
        obtain ⟨cert, hcert, hmid⟩ := bind_eq_ok.mp hitem
        cases hmid
        have hne : item.secretName ≠ [] := fun h => hs (List.isEmpty_iff.mpr h)
        obtain ⟨hcerts, hhosts⟩ := ih hrest (hseen.bind hne (wrapErr_eq_ok.mp hcert))
        exact ⟨hcerts, hhosts⟩

/-! ## §4. One reconcile. -/

/-- **What a successful reconcile produces.** -/
theorem reconcileIngress_spec {cfg : IngressConfiguration}
    (h : reconcileIngress ext api conf ingress = .ok cfg) :
    Holds ext api conf ingress (declared ingress) cfg.hosts
      ∧ TlsHolds ext api ingress ingress.tls cfg.tlsCertificates := by
  obtain ⟨mid, hrules, h⟩ := bind_eq_ok.mp h
  have hempty : Holds ext api conf ingress [] IngressConfiguration.empty.hosts :=
    ⟨[], List.Forall₂.nil, rfl⟩
  obtain ⟨hholds, htls⟩ := addRules_holds hrules hempty
  have hnone : TlsHolds ext api ingress [] mid.tlsCertificates := by
    rw [htls]
    refine ⟨fun host => ?_, fun host cert hc => ?_⟩
    · rw [show IngressConfiguration.empty.tlsCertificates = ∅ from rfl, Finmap.lookup_empty]
      simp
    · rw [show IngressConfiguration.empty.tlsCertificates = ∅ from rfl, Finmap.lookup_empty] at hc
      cases hc
  obtain ⟨hcerts, hhosts⟩ := processTls_holds (wrapErr_eq_ok.mp h) hnone
  rw [hhosts]
  exact ⟨hholds, hcerts⟩

/-- A route under `h` is the route of a path declared for `h`. -/
theorem routeFor_of_mem {cfg : IngressConfiguration}
    (hok : reconcileIngress ext api conf ingress = .ok cfg) {h : GoString} {r : RouteConfig}
    (hr : r ∈ routesUnder cfg.hosts h) :
    ∃ d ∈ declared ingress, RouteFor ext api conf ingress d (h, r) := by
  obtain ⟨l, hl, hhosts⟩ := (reconcileIngress_spec hok).1
  rw [hhosts, mem_routesUnder_hostsOf] at hr
  obtain ⟨i, hi, hget⟩ := List.mem_iff_getElem.mp hr
  rw [List.forall₂_iff_get] at hl
  have hi' : i < (declared ingress).length := by rw [hl.1]; exact hi
  have hrel := hl.2 i hi' hi
  rw [List.get_eq_getElem, List.get_eq_getElem, hget] at hrel
  exact ⟨_, List.getElem_mem hi', hrel⟩

/-- A declared path has a route. -/
theorem exists_route_of_declared {cfg : IngressConfiguration}
    (hok : reconcileIngress ext api conf ingress = .ok cfg) (hne : declared ingress ≠ []) :
    ∃ h r, r ∈ routesUnder cfg.hosts h := by
  obtain ⟨l, hl, hhosts⟩ := (reconcileIngress_spec hok).1
  generalize declared ingress = ds at hl hne
  cases hl with
  | nil => exact absurd rfl hne
  | @cons d r ds l hr hl =>
      refine ⟨r.1, r.2, ?_⟩
      rw [hhosts, mem_routesUnder_hostsOf]
      exact List.mem_cons_self

end

end SIngress.Controller
