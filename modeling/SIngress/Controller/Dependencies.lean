/-
  SIngress.Controller.Dependencies — WHAT A RECONCILE READS, IT RECORDS.

  A reconcile reads Services for its endpoints, Secrets for its certificates,
  and Secrets through its modules.  It records each of them, and every failed
  read makes it fail.  So a reconcile that succeeded gives the same result on
  every API server that agrees with the first one on what was recorded.

    • `standardModules_strict` — no module survives a failed read,
    • `addPath_agree`, `addTlsItem_agree` — one path, one TLS section,
    • `reconcileIngress_agree` — the whole reconcile, by the transfer rule of
      its loops.
-/
import SIngress.Controller.Progress

namespace SIngress.Controller

open SIngress.Base SIngress.Lib SIngress.K8s SIngress.Platform SIngress.Config SIngress.Proxy
open SIngress.Modules SIngress.Modules.Security SIngress.Modules.Auth SIngress.Modules.Oidc
open SIngress.Modules.Headers

/-! ## §1. The modules. -/

theorem basicAuthOfSecret_strict (ext : Ext) (realm secretRaw : GoString) (secret : Secret) :
    (basicAuthOfSecret ext realm secretRaw (.ok secret)).Strict := by
  unfold basicAuthOfSecret
  dsimp only
  cases secret.data.lookup (lit "auth") with
  | none => exact .fail _
  | some htpasswdRaw => exact (Reading.Strict.lift _).bind fun _ => .ret _

/-- The only module that reads anything reads one secret, and fails without it. -/
theorem basicAuthModule_strict (ext : Ext) (ingress : Ingress) :
    ((basicAuthModule ext).ingressMiddleware ingress).Strict := by
  unfold basicAuthModule
  dsimp only
  cases ingress.annotations.lookup authBasicAuthRealm with
  | none => exact .ret _
  | some realm =>
      cases ingress.annotations.lookup authBasicAuthSecret with
      | none => exact .ret _
      | some secretRaw =>
          exact .getSecret (fun err => ⟨_, rfl⟩) (basicAuthOfSecret_strict ext realm secretRaw)

theorem ipAuthModule_strict (ext : Ext) (ingress : Ingress) :
    ((ipAuthModule ext).ingressMiddleware ingress).Strict := by
  unfold ipAuthModule
  dsimp only
  cases ingress.annotations.lookup authIpAllowlist with
  | none => exact .ret _
  | some raw => exact (Reading.Strict.lift _).bind fun _ => .ret _

theorem subrequestAuthModule_strict (ext : Ext) (configs : GoMap GoString ForwardAuthConfig)
    (ingress : Ingress) :
    ((subrequestAuthModule ext configs).ingressMiddleware ingress).Strict := by
  refine (Reading.Strict.lift _).bind ?_
  intro conf?
  cases conf? with
  | none => exact .ret _
  | some conf => exact (Reading.Strict.lift _).bind fun _ => .ret _

theorem oidcModule_strict (ext : Ext) (clients domains : GoMap GoString ClientConfig)
    (ingress : Ingress) : ((oidcModule ext clients domains).ingressMiddleware ingress).Strict := by
  unfold oidcModule
  dsimp only
  cases ingress.annotations.lookup configAnnotationKey with
  | none => exact .ret _
  | some confName =>
      dsimp only
      split
      · exact .ret _
      · cases clients.lookup confName with
        | none => exact .fail _
        | some client => exact .ret _

theorem denyRouteModule_strict (ext : Ext) (ingress : Ingress) :
    ((denyRouteModule ext).ingressMiddleware ingress).Strict := by
  unfold denyRouteModule
  dsimp only
  split
  · exact .ret _
  · exact (Reading.Strict.lift _).bind fun _ => .ret _

theorem headerHook_strict (key : GoString) (closure : List GoString → Middleware)
    (ingress : Ingress) : (headerHook key closure ingress).Strict := by
  unfold headerHook
  dsimp only
  split
  · exact .ret _
  · exact .ret _

/-- **No module survives a failed read.** -/
theorem standardModules_strict {ext : Ext} {conf : ControllerConf} (hconf : StandardConf ext conf)
    {mod : ModuleInstance} (hmod : mod ∈ conf.modules) (ingress : Ingress) :
    (mod.ingressMiddleware ingress).Strict := by
  obtain ⟨d, configs, clients, domains, hmodules⟩ := hconf
  rw [hmodules] at hmod
  simp only [standardModules, List.mem_cons, List.not_mem_nil, or_false] at hmod
  rcases hmod with rfl | rfl | rfl | rfl | rfl | rfl | rfl | rfl | rfl
  · exact .ret _
  · exact ipAuthModule_strict ext ingress
  · exact basicAuthModule_strict ext ingress
  · exact subrequestAuthModule_strict ext configs ingress
  · exact oidcModule_strict ext clients domains ingress
  · exact denyRouteModule_strict ext ingress
  · exact .ret _
  · exact headerHook_strict _ _ ingress
  · exact headerHook_strict _ _ ingress

/-! ## §2. The middlewares. -/

section

variable {api api' : Api} {ingress : Ingress}

/-- The middlewares are the same on every API server that agrees on the record. -/
theorem getMiddlewares_agree {mods : List ModuleInstance}
    (hstrict : ∀ mod ∈ mods, (mod.ingressMiddleware ingress).Strict) :
    ∀ {used used' : List NamespacedName} {ms : List Middleware},
      getMiddlewares api ingress mods used = .ok (ms, used') →
      (∀ n ∈ used', api'.getSecret n = api.getSecret n) →
      getMiddlewares api' ingress mods used = .ok (ms, used') ∧ used <+: used' := by
  induction mods with
  | nil =>
      intro used used' ms h _
      cases h
      exact ⟨rfl, List.prefix_refl _⟩
  | cons mod mods ih =>
      intro used used' ms h hagree
      obtain ⟨⟨m?, used₁⟩, hrun, h⟩ := bind_eq_ok.mp h
      obtain ⟨⟨rest, used₂⟩, hrest, h⟩ := bind_eq_ok.mp h
      cases h
      obtain ⟨hrest', hgrows⟩ :=
        ih (fun mod' hmod' => hstrict mod' (List.mem_cons_of_mem _ hmod')) hrest hagree
      -- the first module's record is part of the final one
      have hrun' := Reading.run_agree (hstrict mod List.mem_cons_self) hrun
        (fun n hn => hagree n (hgrows.subset hn))
      refine ⟨?_, (Reading.run_used_grows hrun).trans hgrows⟩
      exact bind_eq_ok.mpr ⟨_, hrun', bind_eq_ok.mpr ⟨_, hrest', rfl⟩⟩

/-! ## §3. Agreement on a record. -/

variable (api api') in
/-- The API servers agree on every Service and Secret that was recorded. -/
structure AgreeOn (ingressConf : IngressConfiguration) : Prop where
  services : ∀ n ∈ ingressConf.usedServices, api'.getService n = api.getService n
  secrets : ∀ n ∈ ingressConf.usedSecrets, api'.getSecret n = api.getSecret n

/-- Agreement on a longer record is agreement on a shorter one. -/
theorem AgreeOn.mono {ingressConf ingressConf' : IngressConfiguration}
    (h : AgreeOn api api' ingressConf')
    (hservices : ingressConf.usedServices <+: ingressConf'.usedServices)
    (hsecrets : ingressConf.usedSecrets <+: ingressConf'.usedSecrets) :
    AgreeOn api api' ingressConf where
  services := fun n hn => h.services n (hservices.subset hn)
  secrets := fun n hn => h.secrets n (hsecrets.subset hn)

variable {ext : Ext} {conf : ControllerConf}

theorem backendEndpoint_agree {hostname : GoString} {backend : IngressServiceBackend}
    (h : api'.getService ⟨ingress.namesp, backend.name⟩
      = api.getService ⟨ingress.namesp, backend.name⟩) :
    backendEndpoint ext api' ingress hostname backend
      = backendEndpoint ext api ingress hostname backend := by
  unfold backendEndpoint
  rw [h]

theorem getCertificateFromSecret_agree {secretName : NamespacedName}
    (h : api'.getSecret secretName = api.getSecret secretName) :
    getCertificateFromSecret ext api' secretName = getCertificateFromSecret ext api secretName := by
  unfold getCertificateFromSecret
  rw [h]

/-! ## §4. One step of each loop. -/

/-- A path: its Service is recorded, and what its modules read. -/
theorem addPath_agree (hconf : StandardConf ext conf)
    {ingressConf ingressConf' : IngressConfiguration} {hostname : GoString}
    {path : HTTPIngressPath} {backend : IngressServiceBackend}
    (h : addPath ext api conf ingressConf ingress hostname path backend = .ok ingressConf')
    (hagree : AgreeOn api api' ingressConf') :
    addPath ext api' conf ingressConf ingress hostname path backend = .ok ingressConf'
      ∧ AgreeOn api api' ingressConf := by
  obtain ⟨middlewares, usedSecrets, endpoint, pathType, httpProxyConf, hms, hendpoint, htype,
    hproxy, rfl⟩ := addPath_eq_ok.mp h
  obtain ⟨hms', hgrows⟩ := getMiddlewares_agree
    (fun mod hmod => standardModules_strict hconf hmod ingress) hms hagree.secrets
  have hservice := hagree.services ⟨ingress.namesp, backend.name⟩ (by simp)
  refine ⟨?_, hagree.mono (List.prefix_append _ _) hgrows⟩
  refine addPath_eq_ok.mpr ⟨_, _, endpoint, pathType, httpProxyConf, hms', ?_, htype, hproxy, rfl⟩
  exact (backendEndpoint_agree hservice).trans hendpoint

theorem addPathItem_agree (hconf : StandardConf ext conf) {hostname : GoString}
    {ingressConf ingressConf' : IngressConfiguration} {path : HTTPIngressPath}
    (h : addPathItem ext api conf ingress hostname ingressConf path = .ok ingressConf')
    (hagree : AgreeOn api api' ingressConf') :
    addPathItem ext api' conf ingress hostname ingressConf path = .ok ingressConf'
      ∧ AgreeOn api api' ingressConf := by
  unfold addPathItem at h ⊢
  cases hservice : path.service with
  | none =>
      rw [hservice] at h
      cases h
      exact ⟨rfl, hagree⟩
  | some backend =>
      rw [hservice] at h
      exact addPath_agree hconf h hagree

theorem addRule_agree (hconf : StandardConf ext conf)
    {ingressConf ingressConf' : IngressConfiguration} {rule : IngressRule}
    (h : addRule ext api conf ingress ingressConf rule = .ok ingressConf')
    (hagree : AgreeOn api api' ingressConf') :
    addRule ext api' conf ingress ingressConf rule = .ok ingressConf'
      ∧ AgreeOn api api' ingressConf := by
  unfold addRule at h ⊢
  cases hhttp : rule.http with
  | none =>
      rw [hhttp] at h
      cases h
  | some paths =>
      rw [hhttp] at h
      exact foldlM_transfer (fun _ _ _ hstep => addPathItem_agree hconf hstep) h hagree

/-- A TLS section: its Secret is recorded. -/
theorem addTlsItem_agree {ingressConf ingressConf' : IngressConfiguration} {item : IngressTLS}
    (h : addTlsItem ext api ingress ingressConf item = .ok ingressConf')
    (hagree : AgreeOn api api' ingressConf') :
    addTlsItem ext api' ingress ingressConf item = .ok ingressConf'
      ∧ AgreeOn api api' ingressConf := by
  unfold addTlsItem at h ⊢
  by_cases hskip : item.secretName.isEmpty = true
  · rw [if_pos hskip] at h ⊢
    cases h
    exact ⟨rfl, hagree⟩
  · rw [if_neg hskip] at h ⊢
    obtain ⟨cert, hcert, h⟩ := bind_eq_ok.mp h
    cases h
    have hsecret := hagree.secrets ⟨ingress.namesp, item.secretName⟩ (by simp)
    refine ⟨bind_eq_ok.mpr ⟨cert, ?_, rfl⟩,
      hagree.mono (List.prefix_refl _) (List.prefix_append _ _)⟩
    rw [getCertificateFromSecret_agree hsecret]
    exact hcert

/-! ## §5. The reconcile. -/

/-- **Recorded dependencies are sufficient**: what a reconcile yields, records included,
depends on the Services and Secrets it recorded only. -/
theorem reconcileIngress_agree (hconf : StandardConf ext conf) {cfg : IngressConfiguration}
    (h : reconcileIngress ext api conf ingress = .ok cfg) (hagree : AgreeOn api api' cfg) :
    reconcileIngress ext api' conf ingress = .ok cfg := by
  obtain ⟨ingressConf, hrules, htls⟩ := bind_eq_ok.mp h
  obtain ⟨htls', hmiddle⟩ := foldlM_transfer
    (fun _ _ _ hstep => addTlsItem_agree hstep) (wrapErr_eq_ok.mp htls) hagree
  obtain ⟨hrules', _⟩ := foldlM_transfer
    (fun _ _ _ hstep => addRule_agree hconf hstep) hrules hmiddle
  exact bind_eq_ok.mpr ⟨ingressConf, hrules', wrapErr_eq_ok.mpr htls'⟩

end

/-- A server with the password file `ns/creds` and the given answer for other secrets. -/
def Api.holding (others : Except GoError Secret) : Api where
  getService := Api.small.getService
  getSecret n :=
    if n = ⟨lit "ns", lit "creds"⟩ then
      .ok ⟨Finmap.singleton (lit "auth") (lit "user:hash")⟩
    else others
  getConfigMap _ := .error (lit "not found")

/-- An ingress that asks for the passwords in `ns/creds`. -/
def credsIngress : Ingress :=
  Ingress.small (lit "a")
    ((Finmap.singleton authBasicAuthRealm (lit "site")).insert authBasicAuthSecret (lit "creds"))
    [⟨lit "a.org", some [⟨lit "/", some .exact, some ⟨lit "svc", ⟨lit "http", 0⟩⟩⟩]⟩] []

theorem reconcileIngress_creds : ∃ cfg,
    reconcileIngress Ext.small (Api.holding (.error (lit "not found"))) (smallConf 4096)
        credsIngress = .ok cfg
      ∧ cfg.usedSecrets = [⟨lit "ns", lit "creds"⟩] :=
  ⟨_, rfl, rfl⟩

/-- Secrets that appear under other names change nothing. -/
theorem reconcileIngress_agree_creds :
    ∃ cfg, reconcileIngress Ext.small (Api.holding (.error (lit "not found"))) (smallConf 4096)
        credsIngress = .ok cfg
      ∧ cfg.usedSecrets = [⟨lit "ns", lit "creds"⟩]
      ∧ reconcileIngress Ext.small (Api.holding (.ok ⟨∅⟩)) (smallConf 4096) credsIngress
        = .ok cfg := by
  obtain ⟨cfg, hok, hused⟩ := reconcileIngress_creds
  refine ⟨cfg, hok, hused, reconcileIngress_agree (small_standard 4096) hok ⟨?_, ?_⟩⟩
  · intro n _
    rfl
  · intro n hn
    rw [hused, List.mem_singleton] at hn
    rw [hn]
    rfl

end SIngress.Controller
