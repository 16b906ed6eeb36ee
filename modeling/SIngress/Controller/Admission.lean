/-
  SIngress.Controller.Admission — CAN AN ADMITTED INGRESS CRASH ANYTHING?

  Two places trust what the API server admits.  `reconcileIngress` reads the
  HTTP section of every rule, which is optional; and a prefix route cuts the
  last byte off its path, which an implementation-specific path need not have.
  Everything else returns an error at worst: the hooks of the modules, the
  backend, the path type, the annotations, the certificates.

    • `no_crash_iff`    — the two conditions, each exact,
    • `admitted_crash`  — an ingress for each that violates it.
-/
import SIngress.Controller.Mediation
import SIngress.Controller.Wildcards
import SIngress.Proxy.RouteLookup

namespace SIngress.Controller

open SIngress.Base SIngress.Lib SIngress.K8s SIngress.Platform SIngress.Config SIngress.Proxy
open SIngress.Modules SIngress.Modules.Security SIngress.Modules.Auth SIngress.Modules.Oidc
open SIngress.Modules.Headers

/-! ## §1. The hooks of the modules return. -/

section

variable (ext : Ext)

theorem ipAuthModule_returns (ingress : Ingress) :
    ((ipAuthModule ext).ingressMiddleware ingress).Returns := by
  unfold ipAuthModule
  dsimp only
  cases ingress.annotations.lookup authIpAllowlist with
  | none => exact Reading.returns_pure _
  | some raw =>
      refine Reading.Returns.bind (Reading.returns_lift ?_) fun _ => Reading.returns_pure _
      exact graceful_mapM (fun _ => graceful_errorf _ _) _

theorem basicAuthModule_returns (ingress : Ingress) :
    ((basicAuthModule ext).ingressMiddleware ingress).Returns := by
  unfold basicAuthModule
  dsimp only
  cases ingress.annotations.lookup authBasicAuthRealm with
  | none => exact Reading.returns_pure _
  | some realm =>
      cases ingress.annotations.lookup authBasicAuthSecret with
      | none => exact Reading.returns_pure _
      | some secretRaw =>
          refine Reading.returns_getSecret fun answer => ?_
          cases answer with
          | error err => exact Reading.returns_fail _
          | ok secret =>
              unfold basicAuthOfSecret
              dsimp only
              cases secret.data.lookup (lit "auth") with
              | none => exact Reading.returns_fail _
              | some htpasswdRaw =>
                  exact (Reading.returns_lift (graceful_checkf _ _)).bind fun _ =>
                    Reading.returns_pure _

theorem subrequestAuthModule_returns (configs : GoMap GoString ForwardAuthConfig)
    (ingress : Ingress) :
    ((subrequestAuthModule ext configs).ingressMiddleware ingress).Returns := by
  have hglobal : Graceful (getGlobalConfig ext configs ingress) := by
    unfold getGlobalConfig
    cases ingress.annotations.lookup forwardAuthAnnotationKey with
    | none => exact graceful_ok _
    | some authRaw =>
        dsimp only
        cases configs.lookup authRaw with
        | none => exact graceful_err _
        | some conf => exact graceful_ok _
  have hconf : Graceful (subrequestConfig ext configs ingress) := by
    refine hglobal.bind fun conf => ?_
    cases getAnnotationsConfig ingress with
    | none => exact graceful_ok _
    | some annotationConf => exact graceful_ok _
  refine (Reading.returns_lift hconf).bind fun conf? => ?_
  cases conf? with
  | none => exact Reading.returns_pure _
  | some conf =>
      exact (Reading.returns_lift (graceful_errorf _ _)).bind fun _ => Reading.returns_pure _

theorem oidcModule_returns (clients domains : GoMap GoString ClientConfig) (ingress : Ingress) :
    ((oidcModule ext clients domains).ingressMiddleware ingress).Returns := by
  unfold oidcModule
  dsimp only
  cases ingress.annotations.lookup configAnnotationKey with
  | none => exact Reading.returns_pure _
  | some confName =>
      dsimp only
      split
      · exact Reading.returns_pure _
      · cases clients.lookup confName with
        | none => exact Reading.returns_fail _
        | some client => exact Reading.returns_pure _

theorem denyRouteModule_returns (ingress : Ingress) :
    ((denyRouteModule ext).ingressMiddleware ingress).Returns := by
  unfold denyRouteModule
  dsimp only
  split
  · exact Reading.returns_pure _
  · exact (Reading.returns_lift (graceful_checkf _ _)).bind fun _ => Reading.returns_pure _

theorem headerHook_returns (key : GoString) (closure : List GoString → Middleware)
    (ingress : Ingress) : (headerHook key closure ingress).Returns := by
  unfold headerHook
  dsimp only
  split
  · exact Reading.returns_pure _
  · exact Reading.returns_pure _

/-- **No hook of a standard module panics.** -/
theorem standardModules_return {d : Bool} {configs : GoMap GoString ForwardAuthConfig}
    {clients domains : GoMap GoString ClientConfig} {mod : ModuleInstance}
    (h : mod ∈ standardModules ext d configs clients domains) (ingress : Ingress) :
    (mod.ingressMiddleware ingress).Returns := by
  rw [standardModules_eq] at h
  simp only [checkModules, List.cons_append, List.nil_append, List.mem_cons, List.not_mem_nil,
    or_false] at h
  -- in the order of the registry
  rcases h with rfl | rfl | rfl | rfl | rfl | rfl | rfl | rfl | rfl
  · exact Reading.returns_pure _
  · exact ipAuthModule_returns ext ingress
  · exact basicAuthModule_returns ext ingress
  · exact subrequestAuthModule_returns ext configs ingress
  · exact oidcModule_returns ext clients domains ingress
  · exact denyRouteModule_returns ext ingress
  · exact Reading.returns_pure _
  · exact headerHook_returns _ _ ingress
  · exact headerHook_returns _ _ ingress

end

/-! ## §2. `reconcileIngress` returns, or meets a rule without a section. -/

section

variable (ext : Ext) (api : Api) (conf : ControllerConf) (ingress : Ingress)

/-- The declared path can be added: every hook accepts the ingress, the service of the backend
exists and has an address, the path type is a known one and the body limit a size. -/
structure Addable (d : GoString × HTTPIngressPath) : Prop where
  hooks : ∀ mod ∈ conf.modules, Reading.Succeeds api (mod.ingressMiddleware ingress)
  service : ∀ backend, d.2.service = some backend → ∃ service addr,
    api.getService ⟨ingress.namesp, backend.name⟩ = .ok service
      ∧ ext.parseAddr service.clusterIP = .ok addr
  pathType : ∀ value, d.2.pathType ≠ some (.other value)
  bodyLimit : ∀ value, ingress.annotations.lookup (lit "s-ingress.oidq.dev/max-body") = some value →
    ∃ maxBodySize, parseByteSize ext value = .ok maxBodySize

/-- In front of every rule without an HTTP section stands a path that cannot be added. -/
def SectionsGuarded : Prop :=
  ∀ before rule after, ingress.rules = before ++ rule :: after → rule.http = none →
    ∃ d ∈ declaredRules before, ¬ Addable ext api conf ingress d

variable {ext api conf ingress}

theorem mapPathType_ok_iff {pathType? : Option K8s.PathType} :
    (∃ pathType, mapPathType ext pathType? = .ok pathType)
      ↔ ∀ value, pathType? ≠ some (.other value) := by
  rcases pathType? with _ | (_ | _ | _ | value)
  · exact ⟨fun _ value h => (by cases h), fun _ => ⟨_, rfl⟩⟩
  · exact ⟨fun _ value h => (by cases h), fun _ => ⟨_, rfl⟩⟩
  · exact ⟨fun _ value h => (by cases h), fun _ => ⟨_, rfl⟩⟩
  · exact ⟨fun _ value h => (by cases h), fun _ => ⟨_, rfl⟩⟩
  · exact ⟨fun ⟨_, h⟩ => (by cases h), fun h => absurd rfl (h value)⟩

theorem addPath_ok_iff {ingressConf : IngressConfiguration} {hostname : GoString}
    {path : HTTPIngressPath} {backend : IngressServiceBackend} (hb : path.service = some backend) :
    (∃ ingressConf', addPath ext api conf ingressConf ingress hostname path backend
        = .ok ingressConf')
      ↔ Addable ext api conf ingress (hostname, path) := by
  constructor
  · rintro ⟨ingressConf', h⟩
    obtain ⟨middlewares, usedSecrets, endpoint, pathType, httpProxyConf, hm, he, ht, hp, _⟩ :=
      addPath_eq_ok.mp h
    refine ⟨getMiddlewares_ok_iff.mp ⟨_, hm⟩, ?_, mapPathType_ok_iff.mp ⟨pathType, ht⟩,
      getHttpProxyConfig_ok_iff.mp ⟨httpProxyConf, hp⟩⟩
    intro backend' hb'
    rw [hb] at hb'
    cases hb'
    obtain ⟨service, addr, hservice, haddr, _⟩ := backendEndpoint_eq_ok.mp he
    exact ⟨service, addr, hservice, haddr⟩
  -- the four steps do not read what the path added before, only the ingress and the cluster
  · rintro ⟨hm, he, ht, hp⟩
    obtain ⟨result, hm⟩ : ∃ result, getMiddlewares api ingress conf.modules
        ingressConf.usedSecrets = .ok result := getMiddlewares_ok_iff.mpr hm
    obtain ⟨service, addr, hservice, haddr⟩ := he backend hb
    obtain ⟨pathType, ht⟩ := mapPathType_ok_iff.mpr ht
    obtain ⟨httpProxyConf, hp⟩ : ∃ httpProxyConf, getHttpProxyConfig ext ingress
        conf.ingressProxy = .ok httpProxyConf := getHttpProxyConfig_ok_iff.mpr hp
    exact ⟨_, addPath_eq_ok.mpr ⟨_, _, _, pathType, httpProxyConf, hm,
      backendEndpoint_eq_ok.mpr ⟨service, addr, hservice, haddr, rfl⟩, ht, hp, rfl⟩⟩

/-- A rule's section is added exactly if each of its paths with a backend can be. -/
theorem addPaths_ok_iff {hostname : GoString} {paths : List HTTPIngressPath}
    {ingressConf : IngressConfiguration} :
    (∃ ingressConf', paths.foldlM (addPathItem ext api conf ingress hostname) ingressConf
        = .ok ingressConf')
      ↔ ∀ d ∈ declaredPaths hostname paths, Addable ext api conf ingress d := by
  induction paths generalizing ingressConf with
  | nil => exact ⟨fun _ d hd => absurd hd List.not_mem_nil, fun _ => ⟨ingressConf, rfl⟩⟩
  | cons path paths ih =>
      cases hb : path.service with
      | none =>
          -- a path without a backend is skipped
          have hdecl : declaredPaths hostname (path :: paths) = declaredPaths hostname paths := by
            unfold declaredPaths
            rw [List.filter_cons_of_neg (by simp [hb])]
          have hitem : addPathItem ext api conf ingress hostname ingressConf path
              = .ok ingressConf := by
            unfold addPathItem
            rw [hb]
          rw [hdecl, List.foldlM_cons, hitem]
          exact ih
      | some backend =>
          have hdecl : declaredPaths hostname (path :: paths)
              = (hostname, path) :: declaredPaths hostname paths := by
            unfold declaredPaths
            rw [List.filter_cons_of_pos (by simp [hb])]
            rfl
          have hitem : ∀ acc, addPathItem ext api conf ingress hostname acc path
              = addPath ext api conf acc ingress hostname path backend := by
            intro acc
            unfold addPathItem
            rw [hb]
          rw [hdecl, List.forall_mem_cons]
          -- the first path succeeds, and the rest does from whatever it left
          constructor
          · rintro ⟨final, h⟩
            obtain ⟨acc, hfirst, hrest⟩ := foldlM_cons_eq_ok.mp h
            rw [hitem] at hfirst
            exact ⟨(addPath_ok_iff hb).mp ⟨acc, hfirst⟩, ih.mp ⟨final, hrest⟩⟩
          · rintro ⟨hfirst, hrest⟩
            obtain ⟨acc, hfirst⟩ : ∃ acc, addPath ext api conf ingressConf ingress hostname path
                backend = .ok acc := (addPath_ok_iff hb).mpr hfirst
            obtain ⟨final, hrest⟩ : ∃ final, paths.foldlM
                (addPathItem ext api conf ingress hostname) acc = .ok final := ih.mpr hrest
            exact ⟨final, foldlM_cons_eq_ok.mpr ⟨acc, by rw [hitem]; exact hfirst, hrest⟩⟩

theorem getMiddlewares_graceful {mods : List ModuleInstance}
    (h : ∀ mod ∈ mods, (mod.ingressMiddleware ingress).Returns) (used : List NamespacedName) :
    Graceful (getMiddlewares api ingress mods used) := by
  induction mods generalizing used with
  | nil => exact graceful_ok _
  | cons mod mods ih =>
      refine (h mod List.mem_cons_self api used).bind fun p => ?_
      exact (ih (fun m hm => h m (List.mem_cons_of_mem _ hm)) p.2).bind fun q => graceful_ok _

theorem addPathItem_graceful (hconf : StandardConf ext conf) (hostname : GoString)
    (ingressConf : IngressConfiguration) (path : HTTPIngressPath) :
    Graceful (addPathItem ext api conf ingress hostname ingressConf path) := by
  obtain ⟨d, configs, clients, domains, hmods⟩ := hconf
  unfold addPathItem
  cases path.service with
  | none => exact graceful_ok _
  | some backend =>
      refine (getMiddlewares_graceful (fun mod hmod => ?_) _).bind fun p => ?_
      · rw [hmods] at hmod
        exact standardModules_return ext hmod ingress
      -- after the hooks every step is an error at worst
      · have hendpoint : Graceful (backendEndpoint ext api ingress hostname backend) :=
          (graceful_errorf _ _).bind fun _ => (graceful_errorf _ _).bind fun _ => graceful_ok _
        have htype : Graceful (mapPathType ext path.pathType) := by
          rcases path.pathType with _ | (_ | _ | _ | value)
          · exact graceful_ok _
          · exact graceful_ok _
          · exact graceful_ok _
          · exact graceful_ok _
          · exact graceful_err _
        have hlimit : Graceful (getHttpProxyConfig ext ingress conf.ingressProxy) := by
          unfold getHttpProxyConfig
          cases ingress.annotations.lookup (lit "s-ingress.oidq.dev/max-body") with
          | none => exact graceful_ok _
          | some value =>
              refine (Graceful.wrapErr ?_ _).bind fun _ => graceful_ok _
              unfold parseByteSize
              dsimp only
              split
              · exact graceful_err _
              · split
                · exact graceful_err _
                · split
                  · exact graceful_err _
                  · exact graceful_ok _
        exact hendpoint.bind fun _ => htype.bind fun _ => hlimit.bind fun _ => graceful_ok _

theorem processIngressTls_graceful (ingressConf : IngressConfiguration) :
    Graceful (processIngressTls ext api ingress ingressConf) := by
  refine graceful_foldlM (fun acc tlsItem => ?_) _ _
  unfold addTlsItem
  split
  · exact graceful_ok _
  · have hcert : Graceful (getCertificateFromSecret ext api ⟨ingress.namesp, tlsItem.secretName⟩) :=
      (graceful_errorf _ _).bind fun _ => (graceful_checkf _ _).bind fun _ => graceful_ok _
    exact (hcert.wrapErr _).bind fun _ => graceful_ok _

variable (ext api conf ingress) in
/-- `SectionsGuarded`, for some rules. -/
def RulesGuarded (rules : List IngressRule) : Prop :=
  ∀ before rule after, rules = before ++ rule :: after → rule.http = none →
    ∃ d ∈ declaredRules before, ¬ Addable ext api conf ingress d

theorem not_rulesGuarded_of_none {rule : IngressRule} {rules : List IngressRule}
    (hhttp : rule.http = none) : ¬ RulesGuarded ext api conf ingress (rule :: rules) := by
  intro hguard
  obtain ⟨d, hd, _⟩ := hguard [] rule rules rfl hhttp
  exact absurd hd List.not_mem_nil

/-- A rule with a section guards the rest, or leaves it to guard itself. -/
theorem rulesGuarded_cons {rule : IngressRule} {rules : List IngressRule}
    {paths : List HTTPIngressPath} (hhttp : rule.http = some paths) :
    RulesGuarded ext api conf ingress (rule :: rules)
      ↔ (∃ d ∈ declaredPaths rule.host paths, ¬ Addable ext api conf ingress d)
        ∨ RulesGuarded ext api conf ingress rules := by
  have hdecl : ∀ before, declaredRules (rule :: before)
      = declaredPaths rule.host paths ++ declaredRules before := by
    intro before
    unfold declaredRules
    rw [List.flatMap_cons, hhttp]
    rfl
  constructor
  · intro hguard
    by_cases hrule : ∃ d ∈ declaredPaths rule.host paths, ¬ Addable ext api conf ingress d
    · exact Or.inl hrule
    · refine Or.inr ?_
      intro before rule' after hsplit hnone
      obtain ⟨d, hd, hnot⟩ := hguard (rule :: before) rule' after (by rw [hsplit]; rfl) hnone
      rw [hdecl] at hd
      rcases List.mem_append.mp hd with hd | hd
      · exact absurd ⟨d, hd, hnot⟩ hrule
      · exact ⟨d, hd, hnot⟩
  · intro hguard before rule' after hsplit hnone
    cases before with
    -- the rule itself has a section
    | nil =>
        cases hsplit
        rw [hhttp] at hnone
        cases hnone
    | cons first before =>
        cases hsplit
        rw [hdecl]
        rcases hguard with ⟨d, hd, hnot⟩ | hguard
        · exact ⟨d, List.mem_append_left _ hd, hnot⟩
        · obtain ⟨d, hd, hnot⟩ := hguard before rule' after rfl hnone
          exact ⟨d, List.mem_append_right _ hd, hnot⟩

/-- **The loop over the rules returns exactly if every missing section is guarded.** -/
theorem addRules_graceful_iff (hconf : StandardConf ext conf) (rules : List IngressRule)
    (ingressConf : IngressConfiguration) :
    Graceful (rules.foldlM (addRule ext api conf ingress) ingressConf)
      ↔ RulesGuarded ext api conf ingress rules := by
  induction rules generalizing ingressConf with
  | nil =>
      refine ⟨fun _ before rule after h => ?_, fun _ => graceful_ok _⟩
      simp at h
  | cons rule rules ih =>
      rw [List.foldlM_cons]
      cases hhttp : rule.http with
      | none =>
          -- the nil dereference, and nothing stands in front of it
          have hpanic : addRule ext api conf ingress ingressConf rule
              = .error (.panic nilDereference) := by
            unfold addRule
            rw [hhttp]
          rw [hpanic]
          refine ⟨fun hg => ?_, fun hguard => absurd hguard (not_rulesGuarded_of_none hhttp)⟩
          obtain ⟨err, herr⟩ := hg _ rfl
          cases herr
      | some paths =>
          have hrule : addRule ext api conf ingress ingressConf rule
              = paths.foldlM (addPathItem ext api conf ingress rule.host) ingressConf := by
            unfold addRule
            rw [hhttp]
          rw [hrule, rulesGuarded_cons hhttp]
          cases hpaths : paths.foldlM (addPathItem ext api conf ingress rule.host) ingressConf with
          | error f =>
              -- the loop ended before, at a path of this rule
              obtain ⟨err, rfl⟩ := graceful_foldlM
                (addPathItem_graceful hconf rule.host) paths ingressConf f hpaths
              refine ⟨fun _ => Or.inl ?_, fun _ => graceful_err err⟩
              by_contra hall
              push Not at hall
              obtain ⟨acc, hacc⟩ : ∃ acc, paths.foldlM
                  (addPathItem ext api conf ingress rule.host) ingressConf = .ok acc :=
                addPaths_ok_iff.mpr hall
              rw [hpaths] at hacc
              cases hacc
          -- nothing of this rule fails, so the guard is one of the rest
          | ok acc =>
              have hall := addPaths_ok_iff.mp ⟨acc, hpaths⟩
              refine (ih acc).trans ⟨Or.inr, fun hguard => ?_⟩
              rcases hguard with ⟨d, hd, hnot⟩ | hguard
              · exact absurd (hall d hd) hnot
              · exact hguard

/-- `reconcileIngress` returns exactly if every missing section is guarded. -/
theorem reconcileIngress_graceful_iff (hconf : StandardConf ext conf) :
    Graceful (reconcileIngress ext api conf ingress) ↔ SectionsGuarded ext api conf ingress := by
  show _ ↔ RulesGuarded ext api conf ingress ingress.rules
  rw [← addRules_graceful_iff hconf ingress.rules .empty]
  unfold reconcileIngress
  cases ingress.rules.foldlM (addRule ext api conf ingress) .empty with
  -- the certificates are not looked at
  | error f =>
      constructor
      · exact fun hg f' hf' => hg f' (by rw [← hf']; rfl)
      · exact fun hg f' hf' => hg f' (by rw [← hf']; rfl)
  | ok acc =>
      refine ⟨fun _ => graceful_ok _, fun _ => ?_⟩
      exact (processIngressTls_graceful acc).wrapErr _

end

/-! ## §3. A lookup panics at an empty prefix. -/

/-- What the API server admits: an exact or prefix path is rooted, an implementation-specific
one is rooted or empty. -/
structure AdmittedPath (path : HTTPIngressPath) : Prop where
  rooted : path.pathType = some .exact ∨ path.pathType = some .pathPrefix →
    path.path.head? = some byteSlash
  specific : path.pathType = some .implementationSpecific →
    path.path = [] ∨ path.path.head? = some byteSlash

/-- The paths of an ingress are admitted; its rules may have no section and its paths no
service. -/
def Admitted (ingress : Ingress) : Prop :=
  ∀ rule ∈ ingress.rules, ∀ paths, rule.http = some paths → ∀ path ∈ paths, AdmittedPath path

/-- No lookup of a path panics. -/
def LookupsSafe (cfg : RoutingConfig) : Prop :=
  ∀ h hc, cfg.hosts.lookup h = some hc → ∀ path, ∃ r?, hc.lookupRoute path = .ok r?

/-- No configured ingress has an empty implementation-specific path with a backend. -/
def NoEmptyPath (state : K8sState) : Prop :=
  ∀ n e, state.ingresses.lookup n = some e → e.configuration ≠ none →
    ∀ d ∈ declared e.ingress, d.2.pathType = some .implementationSpecific → d.2.path ≠ []

theorem admitted_of_declared {ingress : Ingress} (h : Admitted ingress)
    {d : GoString × HTTPIngressPath} (hd : d ∈ declared ingress) : AdmittedPath d.2 := by
  obtain ⟨rule, hrule, hpath⟩ := List.mem_flatMap.mp hd
  obtain ⟨path, hmem, rfl⟩ := List.mem_map.mp hpath
  cases hhttp : rule.http with
  | none =>
      rw [hhttp] at hmem
      exact absurd (List.mem_of_mem_filter hmem) List.not_mem_nil
  | some paths =>
      rw [hhttp] at hmem
      exact h rule hrule paths hhttp path (List.mem_of_mem_filter hmem)

/-- A rooted or empty prefix that stops at a long path without a slash is the empty one. -/
theorem nil_of_stops {r : RouteConfig} {N : Nat} (htype : r.pathType = .pathTypePrefix)
    (hrooted : r.path = [] ∨ r.path.head? = some byteSlash) (hlen : r.path.length ≤ N)
    (hstops : RouteConfig.stops (List.replicate (N + 1) byteAsterisk) r = true) : r.path = [] := by
  rcases (stops_prefixed htype _).mp hstops with hprefix | ⟨_, hdrop⟩
  · rcases hrooted with hnil | hhead
    · exact hnil
    · cases hpath : r.path with
      | nil => rfl
      | cons b rest =>
          rw [hpath, List.replicate_succ] at hprefix
          rw [hpath] at hhead
          cases hhead
          exact absurd (List.cons_prefix_cons.mp hprefix).1 (by decide)
  · -- without its last byte the prefix would still be longer than it is
    have hcut := congrArg List.length hdrop
    rw [List.length_dropLast, List.length_replicate] at hcut
    omega

/-- Where the other prefixes are rooted, an empty one is reached by some path. -/
theorem lookupIn_panics {routes : List RouteConfig} (htyped : ∀ r ∈ routes, r.Typed)
    (hrooted : ∀ r ∈ routes, r.pathType = .pathTypePrefix →
      r.path = [] ∨ r.path.head? = some byteSlash)
    {r₀ : RouteConfig} (hmem : r₀ ∈ routes) (htype₀ : r₀.pathType = .pathTypePrefix)
    (hempty : r₀.path = []) :
    ∃ path, lookupIn path routes
      = .error (.panic (lit "runtime error: slice bounds out of range [:-1]")) := by
  -- longer than every path, and not rooted
  obtain ⟨N, hN⟩ := exists_length_bound (routes.map RouteConfig.path)
  have hle : ∀ r ∈ routes, r.path.length ≤ N := fun r hr => hN _ (List.mem_map_of_mem hr)
  refine ⟨List.replicate (N + 1) byteAsterisk, ?_⟩
  rw [lookupIn_eq_find]
  cases hfind : routes.find? (RouteConfig.stops (List.replicate (N + 1) byteAsterisk)) with
  -- the empty prefix stops at every path
  | none =>
      have hnot := List.find?_eq_none.mp hfind r₀ hmem
      refine absurd ((stops_prefixed htype₀ _).mpr (Or.inl ?_)) hnot
      rw [hempty]
      exact List.nil_prefix
  | some r =>
      have hr := List.mem_of_find?_eq_some hfind
      have hstops := List.find?_some hfind
      have hlen := hle r hr
      -- whatever is found first can only be an empty prefix
      rcases htyped r hr with htype | htype
      · have heq := congrArg List.length ((stops_exact htype _).mp hstops)
        rw [List.length_replicate] at heq
        omega
      · have hnil := nil_of_stops htype (hrooted r hr htype) hlen hstops
        dsimp only
        unfold RouteConfig.matchesPath
        rw [htype, hnil]
        rfl

section

variable {ext : Ext} {env : ControllerEnvConf} {load : Outside → Except Fail ControllerConf}
  {s : Sys} {vs : List EntryVisit} {cfg : RoutingConfig}

/-- The prefix routes of a configured ingress come from its prefix and
implementation-specific paths. -/
theorem offered_prefix (hs : s.Valid ext) {n : NamespacedName} {h : GoString} {r : RouteConfig}
    (ho : Offers s.state n h r) (htype : r.pathType = .pathTypePrefix) :
    ∃ e, s.state.ingresses.lookup n = some e ∧ e.configuration ≠ none
      ∧ ∃ d ∈ declared e.ingress, d.2.path = r.path
        ∧ (d.2.pathType = some .pathPrefix ∨ d.2.pathType = some .implementationSpecific) := by
  obtain ⟨e, he, hne, api, conf, d, hd, hroute⟩ := routeFor_of_offers hs ho
  refine ⟨e, he, hne, d, hd, hroute.path.symm, ?_⟩
  have hmap := hroute.pathType
  dsimp only at hmap
  rw [htype] at hmap
  rcases hd' : d.2.pathType with _ | (_ | _ | _ | value) <;> rw [hd'] at hmap
  · cases hmap
  · exact absurd hmap (by simp [mapPathType])
  · exact Or.inl rfl
  · exact Or.inr rfl
  · cases hmap

/-- A declared path of a configured ingress is offered. -/
theorem offered_of_declared (hs : s.Valid ext) {n : NamespacedName} {e : IngressEntry}
    (he : s.state.ingresses.lookup n = some e) (hne : e.configuration ≠ none)
    {d : GoString × HTTPIngressPath} (hd : d ∈ declared e.ingress) :
    ∃ r, Offers s.state n d.1 r ∧ r.path = d.2.path
      ∧ mapPathType ext d.2.pathType = .ok r.pathType := by
  obtain ⟨c, hc⟩ := Option.ne_none_iff_exists'.mp hne
  obtain ⟨api, conf, _, hok⟩ := (hs n e he).backed c hc
  obtain ⟨l, hl, hhosts⟩ := (reconcileIngress_spec hok).1
  -- the routes stand in the order of the declared paths
  obtain ⟨i, hi, rfl⟩ := List.mem_iff_getElem.mp hd
  rw [List.forall₂_iff_get] at hl
  have hi' : i < l.length := by rw [← hl.1]; exact hi
  have hroute := hl.2 i hi hi'
  refine ⟨(l.get ⟨i, hi'⟩).2, ⟨c, Option.bind_eq_some_iff.mpr ⟨e, he, hc⟩, ?_⟩, hroute.path,
    hroute.pathType⟩
  rw [hhosts, mem_routesUnder_hostsOf]
  have hpair : ((declared e.ingress)[i].1, (l.get ⟨i, hi'⟩).2) = l.get ⟨i, hi'⟩ :=
    Prod.ext hroute.host.symm rfl
  rw [hpair]
  exact List.get_mem l ⟨i, hi'⟩

/-- **The lookups of a build are safe exactly if no configured ingress has an empty path.** -/
theorem lookupsSafe_iff (hs : s.Valid ext) (hvs : Visits s.state.ingresses vs)
    (hcfg : getProxyConfig s.state vs = .ok cfg)
    (hadmitted : ∀ n e, s.state.ingresses.lookup n = some e → Admitted e.ingress) :
    LookupsSafe cfg ↔ NoEmptyPath s.state := by
  have htyped : ∀ {h hc}, cfg.hosts.lookup h = some hc → ∀ r ∈ hc.routes, r.Typed := by
    intro h hc hlook r hr
    obtain ⟨n, ho⟩ := (mem_routes_built hvs hcfg hlook).mp hr
    exact (offers_facts hs ho).1
  constructor
  -- an empty path is offered, and the lookup that reaches it panics
  · intro hsafe n e he hne d hd hspecific hempty
    obtain ⟨r, ho, hpath, htype⟩ := offered_of_declared hs he hne hd
    rw [hspecific] at htype
    cases hlook : cfg.hosts.lookup d.1 with
    | none => exact (lookup_built_eq_none hvs hcfg).mp hlook n r ho
    | some hc =>
        have hrooted : ∀ r ∈ hc.routes, r.pathType = .pathTypePrefix →
            r.path = [] ∨ r.path.head? = some byteSlash := by
          intro r hr htype
          obtain ⟨m, ho⟩ := (mem_routes_built hvs hcfg hlook).mp hr
          obtain ⟨e', he', _, d', hd', hpath, hkind⟩ := offered_prefix hs ho htype
          have hadm := admitted_of_declared (hadmitted m e' he') hd'
          rw [← hpath]
          rcases hkind with hkind | hkind
          · exact Or.inr (hadm.rooted (Or.inr hkind))
          · exact hadm.specific hkind
        obtain ⟨path, hpanic⟩ := lookupIn_panics (htyped hlook) hrooted
          ((mem_routes_built hvs hcfg hlook).mpr ⟨n, ho⟩) (Except.ok.inj htype).symm (hpath.trans hempty)
        obtain ⟨r?, hok⟩ := hsafe d.1 hc hlook path
        unfold HostConfig.lookupRoute at hok
        rw [hpanic] at hok
        cases hok
  · intro hfull h hc hlook path
    refine ⟨_, lookupIn_matchable (fun r hr => ⟨htyped hlook r hr, fun htype hnil => ?_⟩) path⟩
    obtain ⟨n, ho⟩ := (mem_routes_built hvs hcfg hlook).mp hr
    obtain ⟨e, he, hne, d, hd, hpath, hkind⟩ := offered_prefix hs ho htype
    rcases hkind with hkind | hkind
    · have hhead := (admitted_of_declared (hadmitted n e he) hd).rooted (Or.inr hkind)
      rw [hpath, hnil] at hhead
      cases hhead
    · exact hfull n e he hne d hd hkind (hpath.trans hnil)

/-- **No admitted ingress crashes the controller or the proxy, exactly if** every rule without
an HTTP section stands behind a path that already fails, and no configured ingress has an empty
implementation-specific path. -/
theorem no_crash_iff {api : Api} {conf : ControllerConf} {ingress : Ingress}
    (hconf : StandardConf ext conf) (hs : s.Reached ext env load)
    (hvs : Visits s.state.ingresses vs) (hcfg : getProxyConfig s.state vs = .ok cfg)
    (hadmitted : ∀ n e, s.state.ingresses.lookup n = some e → Admitted e.ingress) :
    (Graceful (reconcileIngress ext api conf ingress) ↔ SectionsGuarded ext api conf ingress)
      ∧ (LookupsSafe cfg ↔ NoEmptyPath s.state) :=
  ⟨reconcileIngress_graceful_iff hconf,
    lookupsSafe_iff (valid_of_reached hs) hvs hcfg hadmitted⟩

end

/-! ## §4. Ingresses that meet and miss the condition. -/

/-- An admitted ingress without a section. -/
def bareIngress : Ingress := Ingress.small (lit "a") ∅ [⟨lit "a.org", none⟩] []

/-- An admitted ingress with an empty path. -/
def emptyPathIngress : Ingress :=
  Ingress.small (lit "a") ∅
    [⟨lit "a.org", some [⟨[], some .implementationSpecific,
      some ⟨lit "svc", ⟨lit "http", 0⟩⟩⟩]⟩] []

def emptyPathRoute : RouteConfig := { openRoute 4096 with path := [], pathType := .pathTypePrefix }

def emptyPathConfiguration : IngressConfiguration :=
  { openConfiguration 4096 with hosts := hostsOf [(lit "a.org", emptyPathRoute)] }

theorem configures_emptyPath :
    Configures Api.small emptyPathIngress emptyPathConfiguration := ⟨rfl, rfl⟩

theorem emptyPath_offers {cfg : RoutingConfig} {h : GoString} {n : NamespacedName}
    {r : RouteConfig} :
    Offers (Sys.configuring Api.small cfg [emptyPathIngress]).state n h r
      ↔ n = smallName ∧ h = lit "a.org" ∧ r = emptyPathRoute := by
  refine (configuring_offers configures_emptyPath).trans ?_
  show _ ∧ r ∈ routesUnder (hostsOf [(lit "a.org", emptyPathRoute)]) h ↔ _
  rw [mem_routesUnder_hostsOf, List.mem_singleton, Prod.mk.injEq]
  rfl

theorem admitted_of_one {ingress : Ingress} {host : GoString} {path : HTTPIngressPath}
    (hrules : ingress.rules = [⟨host, some [path]⟩]) (h : AdmittedPath path) :
    Admitted ingress := by
  intro rule hrule paths hhttp p hp
  rw [hrules] at hrule
  cases List.mem_singleton.mp hrule
  cases hhttp
  cases List.mem_singleton.mp hp
  exact h

/-- With a section and a rooted path there is nothing to meet. -/
theorem no_crash_iff_rooted : ∃ s vs cfg,
    Sys.Reached Ext.small smallEnv smallLoad s ∧ Visits s.state.ingresses vs
      ∧ getProxyConfig s.state vs = .ok cfg
      ∧ Graceful (reconcileIngress Ext.small Api.small (smallConf 4096) smallIngress)
      ∧ (∃ n h r, Offers s.state n h r) ∧ LookupsSafe cfg := by
  have hone := configures_host (lit "a.org")
  obtain ⟨cfg₀, vs, cfg, hreach, hvs, hcfg⟩ := configuring_reached (.cons hone .nil)
  have hadmitted : ∀ n e, (Sys.configuring Api.small cfg₀
      [hostIngress [lit "a.org"]]).state.ingresses.lookup n = some e → Admitted e.ingress := by
    intro n e he
    rw [hosting_entry hone he]
    exact admitted_of_one rfl ⟨fun _ => rfl, fun hkind => (by cases hkind)⟩
  have hiff := @no_crash_iff _ _ _ _ _ _ Api.small _ smallIngress (small_standard 4096) hreach hvs
    hcfg hadmitted
  refine ⟨_, vs, cfg, hreach, hvs, hcfg, hiff.1.mpr ?_,
    ⟨_, _, _, (hosting_offers hone).mpr ⟨rfl, List.mem_cons_self, rfl⟩⟩, hiff.2.mpr ?_⟩
  · intro before rule after hsplit hnone
    have hrule : rule ∈ smallIngress.rules := by
      rw [hsplit]
      exact List.mem_append_right _ List.mem_cons_self
    cases List.mem_singleton.mp hrule
    cases hnone
  · intro n e he _ d hd hkind
    rw [hosting_entry hone he] at hd
    cases List.mem_singleton.mp hd
    cases hkind

/-- A rule without a section stops the controller with a nil dereference; a request for a host
with an empty path stops at a slice out of range. -/
theorem admitted_crash :
    (Admitted bareIngress
      ∧ reconcileIngress Ext.small Api.small (smallConf 4096) bareIngress
        = .error (.panic nilDereference))
    ∧ ∃ s vs cfg hc, Sys.Reached Ext.small smallEnv smallLoad s ∧ Visits s.state.ingresses vs
      ∧ getProxyConfig s.state vs = .ok cfg
      ∧ (∀ n e, s.state.ingresses.lookup n = some e → Admitted e.ingress)
      ∧ cfg.hosts.lookup (lit "a.org") = some hc
      ∧ hc.lookupRoute (lit "/")
        = .error (.panic (lit "runtime error: slice bounds out of range [:-1]")) := by
  refine ⟨⟨?_, rfl⟩, ?_⟩
  · intro rule hrule paths hhttp
    cases List.mem_singleton.mp hrule
    cases hhttp
  obtain ⟨cfg₀, vs, cfg, hreach, hvs, hcfg⟩ :=
    configuring_reached (.cons configures_emptyPath .nil)
  have hoffered : Offers (Sys.configuring Api.small cfg₀ [emptyPathIngress]).state smallName
      (lit "a.org") emptyPathRoute := emptyPath_offers.mpr ⟨rfl, rfl, rfl⟩
  cases hlook : cfg.hosts.lookup (lit "a.org") with
  | none => exact absurd hoffered ((lookup_built_eq_none hvs hcfg).mp hlook _ _)
  | some hc =>
      refine ⟨_, vs, cfg, hc, hreach, hvs, hcfg, ?_, hlook, ?_⟩
      · intro n e he
        obtain ⟨_, rfl⟩ := (configuring_entry configures_emptyPath).mp he
        exact admitted_of_one rfl
          ⟨fun hkind => (by rcases hkind with h | h <;> cases h), fun _ => Or.inl rfl⟩
      · -- whatever stands first is the empty path
        unfold HostConfig.lookupRoute
        cases hlist : hc.routes with
        | nil =>
            have hmem := (mem_routes_built hvs hcfg hlook).mpr ⟨_, hoffered⟩
            rw [hlist] at hmem
            cases hmem
        | cons r rest =>
            obtain ⟨n, ho⟩ := (mem_routes_built hvs hcfg hlook).mp
              (by rw [hlist]; exact List.mem_cons_self)
            rw [(emptyPath_offers.mp ho).2.2]
            rfl

end SIngress.Controller
