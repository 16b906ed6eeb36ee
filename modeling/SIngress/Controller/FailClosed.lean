/-
  SIngress.Controller.FailClosed — ANNOTATIONS THAT ASK FOR AN ACCESS CHECK.

  Five annotations ask for a check.  Most of the time an annotation yields its
  check or makes the reconcile fail.  But `basic-auth-secret` yields it only next to
  `basic-auth-realm`, and `auth-url` only next to `auth-signin`: alone they are
  ignored, and the route is published without the check.  A complete pair of
  `auth-url` and `auth-signin` also replaces the check that `auth` names.

    • `enforced_of_paired` — with the companions present, every annotation
      yields its check,
    • `paired_of_enforced` — without them it does not,
    • `reconcileIngress_accepted` — annotations that no module refuses do
      reconcile, on a server with the objects they name,
    • `fails_closed_iff`   — so a map fails closed exactly if it has the
      companions or is refused.
-/
import SIngress.Controller.Mediation
import SIngress.Controller.Progress

namespace SIngress.Controller

open SIngress.Base SIngress.Lib SIngress.K8s SIngress.Platform SIngress.Config SIngress.Proxy
open SIngress.Modules SIngress.Modules.Security SIngress.Modules.Auth SIngress.Modules.Oidc
open SIngress.Modules.Headers

/-! ## §1. The annotations and their checks. -/

/-- An access check, by the annotation that asks for it. -/
inductive AccessCheck where
  | allowIp
  | basicAuthSecret
  | auth
  | authUrl
  | oidc
  deriving DecidableEq

def AccessCheck.key : AccessCheck → GoString
  | .allowIp => authIpAllowlist
  | .basicAuthSecret => authBasicAuthSecret
  | .auth => forwardAuthAnnotationKey
  | .authUrl => forwardAuthUrlAnnotationKey
  | .oidc => configAnnotationKey

section

variable (ext : Ext) (api : Api) (configs : GoMap GoString ForwardAuthConfig)
  (clients : GoMap GoString ClientConfig) (ingress : Ingress)

/-- `m` is the check that the annotation with the given value asks for. -/
def AccessCheck.Enforced (value : GoString) (m : Middleware) : AccessCheck → Prop
  | .allowIp => ∃ allowlist, parseAllowlist ext value = .ok allowlist ∧ m = .ipAuth allowlist
  | .basicAuthSecret => ∃ secret htpasswdRaw realm,
      api.getSecret ⟨ingress.namesp, value⟩ = .ok secret
      ∧ secret.data.lookup (lit "auth") = some htpasswdRaw ∧ m = .basicAuth realm htpasswdRaw
  | .auth => ∃ conf authUrl, configs.lookup value = some conf
      ∧ ext.urlParse conf.authUrl = .ok authUrl ∧ m = .subrequestAuth conf authUrl
  | .authUrl => ∃ signInUrl authUrl, ext.urlParse value = .ok authUrl
      ∧ m = .subrequestAuth ⟨value, signInUrl⟩ authUrl
  | .oidc => ∃ client, clients.lookup value = some client
      ∧ m = .oidcIngress client (parseIngressAnnotations ingress)

/-- Every annotation with a non-empty value has its check among the middlewares. -/
def AllEnforced (ms : List Middleware) : Prop :=
  ∀ (a : AccessCheck) (value : GoString), ingress.annotations.lookup a.key = some value →
    value ≠ [] → ∃ m ∈ ms, a.Enforced ext api configs clients ingress value m

end

section

variable (ext : Ext) (configs : GoMap GoString ForwardAuthConfig)
  (clients : GoMap GoString ClientConfig) (annotations : GoMap GoString GoString)

/-- **An annotation map fails closed**: whatever else the ingress says and whatever the API
server holds, the reconcile fails or every route it makes has the check of every annotation
that asks for one. -/
def FailsClosed (conf : ControllerConf) : Prop :=
  ∀ (api : Api) (ingress : Ingress) (cfg : IngressConfiguration),
    ingress.annotations = annotations → reconcileIngress ext api conf ingress = .ok cfg →
    ∀ host, ∀ route ∈ routesUnder cfg.hosts host,
      AllEnforced ext api configs clients ingress route.middlewares

/-- The companions are there: a realm for the secret and a sign-in URL for the
authorization URL, unless the named configuration asks the same URL; and where a pair of
URLs stands next to a named configuration, it is that configuration. -/
structure Paired : Prop where
  realm : ∀ secret, annotations.lookup authBasicAuthSecret = some secret → secret ≠ [] →
    ∃ realm, annotations.lookup authBasicAuthRealm = some realm
  signIn : ∀ url, annotations.lookup forwardAuthUrlAnnotationKey = some url → url ≠ [] →
    (∃ signInUrl, annotations.lookup forwardAuthSignInAnnotationKey = some signInUrl)
      ∨ ∃ name conf, annotations.lookup forwardAuthAnnotationKey = some name
        ∧ configs.lookup name = some conf ∧ conf.authUrl = url
  named : ∀ name url signInUrl,
    annotations.lookup forwardAuthAnnotationKey = some name → name ≠ [] →
    annotations.lookup forwardAuthUrlAnnotationKey = some url →
    annotations.lookup forwardAuthSignInAnnotationKey = some signInUrl →
    configs.lookup name = some ⟨url, signInUrl⟩

/-- No annotation has a value that its module refuses: prefixes, patterns, sizes and URLs
parse, and the configurations they name exist. -/
structure Accepted : Prop where
  allowIp : ∀ raw, annotations.lookup authIpAllowlist = some raw →
    ∃ allowlist, parseAllowlist ext raw = .ok allowlist
  auth : ∀ name, annotations.lookup forwardAuthAnnotationKey = some name →
    ∃ conf, configs.lookup name = some conf
      ∧ ((annotations.lookup forwardAuthUrlAnnotationKey = none
          ∨ annotations.lookup forwardAuthSignInAnnotationKey = none) →
        ∃ authUrl, ext.urlParse conf.authUrl = .ok authUrl)
  pair : ∀ url signInUrl, annotations.lookup forwardAuthUrlAnnotationKey = some url →
    annotations.lookup forwardAuthSignInAnnotationKey = some signInUrl →
    ∃ authUrl, ext.urlParse url = .ok authUrl
  oidc : ∀ name, annotations.lookup configAnnotationKey = some name → name ≠ [] →
    ∃ client, clients.lookup name = some client
  denyRoute : ∀ pattern, annotations.lookup denyRouteAnnotation = some pattern → pattern ≠ [] →
    ext.regexpCompile pattern = none
  maxBody : ∀ size, annotations.lookup (lit "s-ingress.oidq.dev/max-body") = some size →
    ∃ maxBodySize, parseByteSize ext size = .ok maxBodySize

end

/-! ## §2. What the modules put into the list. -/

/-- What a module of the list returns is in the list of middlewares. -/
theorem getMiddlewares_mem {api : Api} {ingress : Ingress} {mod : ModuleInstance}
    {mods : List ModuleInstance} (hmod : mod ∈ mods) :
    ∀ {used used' : List NamespacedName} {ms : List Middleware},
      getMiddlewares api ingress mods used = .ok (ms, used') →
      ∃ m? u u', (mod.ingressMiddleware ingress).run api u = .ok (m?, u') ∧
        ∀ m, m? = some m → m ∈ ms := by
  induction mods with
  | nil => cases hmod
  | cons mod' mods ih =>
      intro used used' ms h
      obtain ⟨m?, used₁, rest, h₁, h₂, rfl⟩ := getMiddlewares_cons_eq_ok.mp h
      rcases List.mem_cons.mp hmod with heq | hmod
      · subst heq
        refine ⟨m?, used, used₁, h₁, ?_⟩
        intro m hm
        simp [hm]
      · obtain ⟨m?', u, u', hrun, hmem⟩ := ih hmod h₂
        exact ⟨m?', u, u', hrun, fun m hm => List.mem_append_right _ (hmem m hm)⟩

section

variable {ext : Ext} {api : Api} {d : Bool} {configs : GoMap GoString ForwardAuthConfig}
  {clients domains : GoMap GoString ClientConfig} {ingress : Ingress}
  {used used' : List NamespacedName} {ms : List Middleware}

theorem madeBy_of_run {mod : ModuleInstance} {m : Middleware}
    (hmod : mod ∈ standardModules ext d configs clients domains)
    (h : (mod.ingressMiddleware ingress).run api used = .ok (some m, used')) :
    MadeBy ext configs mod m := by
  rw [standardModules_eq] at hmod
  rcases List.mem_append.mp hmod with hcheck | htail
  · exact (checkModules_makes hcheck h).2
  · -- behind the checks there are only the websocket and the header modules
    rcases List.mem_cons.mp htail with rfl | hheader
    · obtain ⟨hm, _⟩ := Reading.run_pure_eq_ok.mp h
      cases hm
      trivial
    · obtain ⟨lines, rfl | rfl⟩ := headerModules_run hheader h <;> trivial

/-- A password check in the list means that the realm was given. -/
theorem realm_of_basicAuth {realm htpasswdRaw : GoString}
    (h : getMiddlewares api ingress (standardModules ext d configs clients domains) used
      = .ok (ms, used')) (hm : .basicAuth realm htpasswdRaw ∈ ms) :
    ∃ realm, ingress.annotations.lookup authBasicAuthRealm = some realm := by
  obtain ⟨mod, hmod, u, u', hrun⟩ := getMiddlewares_origin h _ hm
  have hmade : mod = basicAuthModule ext := madeBy_of_run hmod hrun
  rw [hmade] at hrun
  have hspec := basicAuthModule_run hrun
  cases hrealm : ingress.annotations.lookup authBasicAuthRealm with
  | none =>
      rw [hrealm] at hspec
      cases hspec
  | some realm' => exact ⟨realm', rfl⟩

/-- A subrequest check in the list is the one of the configuration in effect. -/
theorem config_of_subrequestAuth {conf : ForwardAuthConfig} {authUrl : GoString}
    (h : getMiddlewares api ingress (standardModules ext d configs clients domains) used
      = .ok (ms, used')) (hm : .subrequestAuth conf authUrl ∈ ms) :
    subrequestConfig ext configs ingress = .ok (some conf) := by
  obtain ⟨mod, hmod, u, u', hrun⟩ := getMiddlewares_origin h _ hm
  have hmade : mod = subrequestAuthModule ext configs := madeBy_of_run hmod hrun
  rw [hmade] at hrun
  obtain ⟨conf?, hconf, hspec⟩ := subrequestAuthModule_run hrun
  cases conf? with
  | none => cases hspec
  | some conf' =>
      obtain ⟨authUrl', _, heq⟩ := hspec
      cases heq
      exact hconf

/-! ## §3. The configuration of the subrequest check. -/

/-- A complete pair of annotations is the configuration in effect. -/
theorem subrequestConfig_of_pair {url signInUrl : GoString} {conf? : Option ForwardAuthConfig}
    (hurl : ingress.annotations.lookup forwardAuthUrlAnnotationKey = some url)
    (hsignIn : ingress.annotations.lookup forwardAuthSignInAnnotationKey = some signInUrl)
    (h : subrequestConfig ext configs ingress = .ok conf?) : conf? = some ⟨url, signInUrl⟩ := by
  obtain ⟨global, _, h⟩ := bind_eq_ok.mp h
  have hpair : getAnnotationsConfig ingress = some ⟨url, signInUrl⟩ := by
    simp [getAnnotationsConfig, hurl, hsignIn]
  rw [hpair] at h
  cases h
  rfl

theorem getGlobalConfig_eq_ok {conf? : Option ForwardAuthConfig}
    (h : getGlobalConfig ext configs ingress = .ok conf?) :
    match ingress.annotations.lookup forwardAuthAnnotationKey with
    | none => conf? = none
    | some name => ∃ conf, configs.lookup name = some conf ∧ conf? = some conf := by
  unfold getGlobalConfig at h
  cases hname : ingress.annotations.lookup forwardAuthAnnotationKey with
  | none =>
      rw [hname] at h
      cases h
      rfl
  | some name =>
      rw [hname] at h
      dsimp only at h ⊢
      cases hconf : configs.lookup name with
      | none =>
          rw [hconf] at h
          cases h
      | some conf =>
          rw [hconf] at h
          cases h
          exact ⟨conf, rfl, rfl⟩

/-- Without a complete pair it is the named one. -/
theorem subrequestConfig_of_no_pair {conf? : Option ForwardAuthConfig}
    (hpair : getAnnotationsConfig ingress = none)
    (h : subrequestConfig ext configs ingress = .ok conf?) :
    getGlobalConfig ext configs ingress = .ok conf? := by
  obtain ⟨named, hnamed, h⟩ := bind_eq_ok.mp h
  rw [hpair] at h
  cases h
  exact hnamed

/-- One URL of the pair without the other is not looked at. -/
theorem getAnnotationsConfig_of_alone
    (h : ingress.annotations.lookup forwardAuthUrlAnnotationKey = none
      ∨ ingress.annotations.lookup forwardAuthSignInAnnotationKey = none) :
    getAnnotationsConfig ingress = none := by
  unfold getAnnotationsConfig
  cases hurl : ingress.annotations.lookup forwardAuthUrlAnnotationKey with
  | none => rfl
  | some url =>
      rw [hurl] at h
      dsimp only
      rw [h.resolve_left (by simp)]

theorem getAnnotationsConfig_eq_none (h : getAnnotationsConfig ingress = none) :
    ingress.annotations.lookup forwardAuthUrlAnnotationKey = none
      ∨ ingress.annotations.lookup forwardAuthSignInAnnotationKey = none := by
  unfold getAnnotationsConfig at h
  split at h
  · next hurl => exact Or.inl hurl
  · split at h
    · next hsignIn => exact Or.inr hsignIn
    · cases h

theorem getAnnotationsConfig_eq_some {conf : ForwardAuthConfig}
    (h : getAnnotationsConfig ingress = some conf) :
    ingress.annotations.lookup forwardAuthUrlAnnotationKey = some conf.authUrl
      ∧ ingress.annotations.lookup forwardAuthSignInAnnotationKey = some conf.signInUrl := by
  unfold getAnnotationsConfig at h
  split at h
  · cases h
  · next url hurl =>
      split at h
      · cases h
      · next signInUrl hsignIn =>
          cases h
          exact ⟨hurl, hsignIn⟩

/-! ## §4. The check of each annotation. -/

/-- An allow-list puts its check into the list. -/
theorem ipAuth_mem {raw : GoString}
    (h : getMiddlewares api ingress (standardModules ext d configs clients domains) used
      = .ok (ms, used')) (hraw : ingress.annotations.lookup authIpAllowlist = some raw) :
    ∃ allowlist, parseAllowlist ext raw = .ok allowlist ∧ .ipAuth allowlist ∈ ms := by
  have hmod : ipAuthModule ext ∈ standardModules ext d configs clients domains := by
    simp [standardModules]
  obtain ⟨m?, u, u', hrun, hmem⟩ := getMiddlewares_mem hmod h
  have hspec := ipAuthModule_run hrun
  rw [hraw] at hspec
  obtain ⟨allowlist, hparse, hm⟩ := hspec
  exact ⟨allowlist, hparse, hmem _ hm⟩

/-- A secret with a realm puts its check into the list. -/
theorem basicAuth_mem {realm secretRaw : GoString}
    (h : getMiddlewares api ingress (standardModules ext d configs clients domains) used
      = .ok (ms, used'))
    (hrealm : ingress.annotations.lookup authBasicAuthRealm = some realm)
    (hsecret : ingress.annotations.lookup authBasicAuthSecret = some secretRaw) :
    ∃ secret htpasswdRaw, api.getSecret ⟨ingress.namesp, secretRaw⟩ = .ok secret
      ∧ secret.data.lookup (lit "auth") = some htpasswdRaw
      ∧ .basicAuth realm htpasswdRaw ∈ ms := by
  have hmod : basicAuthModule ext ∈ standardModules ext d configs clients domains := by
    simp [standardModules]
  obtain ⟨m?, u, u', hrun, hmem⟩ := getMiddlewares_mem hmod h
  have hspec := basicAuthModule_run hrun
  rw [hrealm, hsecret] at hspec
  obtain ⟨secret, htpasswdRaw, hget, hauth, hm⟩ := hspec
  exact ⟨secret, htpasswdRaw, hget, hauth, hmem _ hm⟩

/-- A client name puts the check of the client into the list. -/
theorem oidcIngress_mem {name : GoString}
    (h : getMiddlewares api ingress (standardModules ext d configs clients domains) used
      = .ok (ms, used'))
    (hname : ingress.annotations.lookup configAnnotationKey = some name) (hne : name ≠ []) :
    ∃ client, clients.lookup name = some client
      ∧ .oidcIngress client (parseIngressAnnotations ingress) ∈ ms := by
  have hmod : oidcModule ext clients domains
      ∈ standardModules ext d configs clients domains := by
    simp [standardModules]
  obtain ⟨m?, u, u', hrun, hmem⟩ := getMiddlewares_mem hmod h
  have hspec := oidcModule_run hrun
  rw [hname] at hspec
  dsimp only at hspec
  rw [if_neg (by simpa using hne)] at hspec
  obtain ⟨client, hclient, hm⟩ := hspec
  exact ⟨client, hclient, hmem _ hm⟩

/-- A configuration in effect puts its check into the list. -/
theorem subrequestAuth_mem
    (h : getMiddlewares api ingress (standardModules ext d configs clients domains) used
      = .ok (ms, used')) :
    ∃ conf?, subrequestConfig ext configs ingress = .ok conf? ∧ ∀ conf, conf? = some conf →
      ∃ authUrl, ext.urlParse conf.authUrl = .ok authUrl ∧ .subrequestAuth conf authUrl ∈ ms := by
  have hmod : subrequestAuthModule ext configs
      ∈ standardModules ext d configs clients domains := by
    simp [standardModules]
  obtain ⟨m?, u, u', hrun, hmem⟩ := getMiddlewares_mem hmod h
  obtain ⟨conf?, hok, hspec⟩ := subrequestAuthModule_run hrun
  refine ⟨conf?, hok, ?_⟩
  intro conf hconf
  subst hconf
  obtain ⟨authUrl, hparse, hm⟩ := hspec
  exact ⟨authUrl, hparse, hmem _ hm⟩

theorem pair_mem {url signInUrl : GoString}
    (h : getMiddlewares api ingress (standardModules ext d configs clients domains) used
      = .ok (ms, used'))
    (hurl : ingress.annotations.lookup forwardAuthUrlAnnotationKey = some url)
    (hsignIn : ingress.annotations.lookup forwardAuthSignInAnnotationKey = some signInUrl) :
    ∃ authUrl, ext.urlParse url = .ok authUrl
      ∧ .subrequestAuth ⟨url, signInUrl⟩ authUrl ∈ ms := by
  obtain ⟨conf?, hok, hmem⟩ := subrequestAuth_mem h
  exact hmem _ (subrequestConfig_of_pair hurl hsignIn hok)

theorem named_mem {name : GoString}
    (h : getMiddlewares api ingress (standardModules ext d configs clients domains) used
      = .ok (ms, used'))
    (hpair : getAnnotationsConfig ingress = none)
    (hname : ingress.annotations.lookup forwardAuthAnnotationKey = some name) :
    ∃ conf authUrl, configs.lookup name = some conf ∧ ext.urlParse conf.authUrl = .ok authUrl
      ∧ .subrequestAuth conf authUrl ∈ ms := by
  obtain ⟨conf?, hok, hmem⟩ := subrequestAuth_mem h
  have hnamed := getGlobalConfig_eq_ok (subrequestConfig_of_no_pair hpair hok)
  rw [hname] at hnamed
  obtain ⟨conf, hconf, heq⟩ := hnamed
  obtain ⟨authUrl, hparse, hm⟩ := hmem conf heq
  exact ⟨conf, authUrl, hconf, hparse, hm⟩

/-! ## §5. With and without the companions. -/

/-- **With its companion, every annotation yields its check.** -/
theorem enforced_of_paired (hpaired : Paired configs ingress.annotations)
    (h : getMiddlewares api ingress (standardModules ext d configs clients domains) used
      = .ok (ms, used')) : AllEnforced ext api configs clients ingress ms := by
  intro a value hvalue hne
  cases a with
  | allowIp =>
      obtain ⟨allowlist, hparse, hm⟩ := ipAuth_mem h hvalue
      exact ⟨_, hm, allowlist, hparse, rfl⟩
  | basicAuthSecret =>
      obtain ⟨realm, hrealm⟩ := hpaired.realm value hvalue hne
      obtain ⟨secret, htpasswdRaw, hget, hauth, hm⟩ := basicAuth_mem h hrealm hvalue
      exact ⟨_, hm, secret, htpasswdRaw, realm, hget, hauth, rfl⟩
  | auth =>
      cases hpair : getAnnotationsConfig ingress with
      | none =>
          obtain ⟨conf, authUrl, hconf, hparse, hm⟩ := named_mem h hpair hvalue
          exact ⟨_, hm, conf, authUrl, hconf, hparse, rfl⟩
      | some conf =>
          -- the pair is in effect, and it is the named configuration
          obtain ⟨hurl, hsignIn⟩ := getAnnotationsConfig_eq_some hpair
          obtain ⟨authUrl, hparse, hm⟩ := pair_mem h hurl hsignIn
          exact ⟨_, hm, _, authUrl, hpaired.named value _ _ hvalue hne hurl hsignIn, hparse, rfl⟩
  | authUrl =>
      cases hsignIn : ingress.annotations.lookup forwardAuthSignInAnnotationKey with
      | some signInUrl =>
          obtain ⟨authUrl, hparse, hm⟩ := pair_mem h hvalue hsignIn
          exact ⟨_, hm, signInUrl, authUrl, hparse, rfl⟩
      | none =>
          -- the URL alone is ignored: only the named configuration can ask it
          rcases hpaired.signIn value hvalue hne with ⟨signInUrl, habsurd⟩ | hnamed
          · rw [hsignIn] at habsurd
            cases habsurd
          · obtain ⟨name, conf, hname, hconf, hurl⟩ := hnamed
            obtain ⟨conf', authUrl, hconf', hparse, hm⟩ :=
              named_mem h (getAnnotationsConfig_of_alone (Or.inr hsignIn)) hname
            cases hconf.symm.trans hconf'
            subst hurl
            exact ⟨_, hm, conf.signInUrl, authUrl, hparse, rfl⟩
  | oidc =>
      obtain ⟨client, hclient, hm⟩ := oidcIngress_mem h hvalue hne
      exact ⟨_, hm, client, hclient, rfl⟩

/-- **Checks for all annotations mean that the companions were there.** -/
theorem paired_of_enforced
    (h : getMiddlewares api ingress (standardModules ext d configs clients domains) used
      = .ok (ms, used')) (hall : AllEnforced ext api configs clients ingress ms) :
    Paired configs ingress.annotations where
  realm := by
    intro secret hsecret hne
    obtain ⟨m, hm, secret', htpasswdRaw, realm, _, _, rfl⟩ := hall .basicAuthSecret _ hsecret hne
    exact realm_of_basicAuth h hm
  signIn := by
    intro url hurl hne
    cases hsignIn : ingress.annotations.lookup forwardAuthSignInAnnotationKey with
    | some signInUrl => exact Or.inl ⟨signInUrl, rfl⟩
    | none =>
        -- the check in the list can only be the one of the named configuration
        obtain ⟨m, hm, signInUrl, authUrl, _, rfl⟩ := hall .authUrl _ hurl hne
        have hnamed := getGlobalConfig_eq_ok (subrequestConfig_of_no_pair
          (getAnnotationsConfig_of_alone (Or.inr hsignIn)) (config_of_subrequestAuth h hm))
        cases hname : ingress.annotations.lookup forwardAuthAnnotationKey with
        | none =>
            rw [hname] at hnamed
            cases hnamed
        | some name =>
            rw [hname] at hnamed
            obtain ⟨conf, hconf, heq⟩ := hnamed
            cases heq
            exact Or.inr ⟨name, _, rfl, hconf, rfl⟩
  named := by
    intro name url signInUrl hname hne hurl hsignIn
    obtain ⟨m, hm, conf, authUrl, hconf, _, rfl⟩ := hall .auth _ hname hne
    have hpair := subrequestConfig_of_pair hurl hsignIn (config_of_subrequestAuth h hm)
    rw [hconf, hpair]

/-! ## §6. Refused annotations. -/

/-- A pattern that does not compile makes its module fail. -/
theorem denyRoute_compiles {pattern : GoString} {m? : Option Middleware}
    (hpattern : ingress.annotations.lookup denyRouteAnnotation = some pattern) (hne : pattern ≠ [])
    (h : ((denyRouteModule ext).ingressMiddleware ingress).run api used = .ok (m?, used')) :
    ext.regexpCompile pattern = none := by
  unfold denyRouteModule Ingress.annotationValue at h
  dsimp only at h
  rw [hpattern, Option.getD_some, if_neg (by simpa using hne)] at h
  obtain ⟨u, used₁, hcheck, _⟩ := Reading.run_bind_eq_ok.mp h
  exact checkf_eq_ok.mp (Reading.run_lift_eq_ok.mp hcheck).1

/-- **A reconcile that succeeds accepted its annotations.** -/
theorem accepted_of_ok {conf : IngressProxyConf} {proxyConf : HttpProxyConfig}
    (h : getMiddlewares api ingress (standardModules ext d configs clients domains) used
      = .ok (ms, used')) (hproxy : getHttpProxyConfig ext ingress conf = .ok proxyConf) :
    Accepted ext configs clients ingress.annotations where
  allowIp := by
    intro raw hraw
    obtain ⟨allowlist, hparse, _⟩ := ipAuth_mem h hraw
    exact ⟨allowlist, hparse⟩
  auth := by
    intro name hname
    obtain ⟨conf?, hok, hmem⟩ := subrequestAuth_mem h
    obtain ⟨named, hnamed, _⟩ := bind_eq_ok.mp hok
    have hspec := getGlobalConfig_eq_ok hnamed
    rw [hname] at hspec
    obtain ⟨conf, hconf, _⟩ := hspec
    refine ⟨conf, hconf, ?_⟩
    intro halone
    -- without a complete pair the named configuration is the one whose URL was parsed
    obtain ⟨conf', authUrl, hconf', hparse, _⟩ :=
      named_mem h (getAnnotationsConfig_of_alone halone) hname
    cases hconf.symm.trans hconf'
    exact ⟨authUrl, hparse⟩
  pair := by
    intro url signInUrl hurl hsignIn
    obtain ⟨authUrl, hparse, _⟩ := pair_mem h hurl hsignIn
    exact ⟨authUrl, hparse⟩
  oidc := by
    intro name hname hne
    obtain ⟨client, hclient, _⟩ := oidcIngress_mem h hname hne
    exact ⟨client, hclient⟩
  denyRoute := by
    intro pattern hpattern hne
    have hmod : denyRouteModule ext ∈ standardModules ext d configs clients domains := by
      simp [standardModules]
    obtain ⟨m?, u, u', hrun, _⟩ := getMiddlewares_mem hmod h
    exact denyRoute_compiles hpattern hne hrun
  maxBody := by
    intro size hsize
    unfold getHttpProxyConfig at hproxy
    rw [hsize] at hproxy
    obtain ⟨maxBodySize, hparse, _⟩ := bind_eq_ok.mp hproxy
    exact ⟨maxBodySize, wrapErr_eq_ok.mp hparse⟩

end

/-! ## §7. Accepted annotations reconcile. -/

/-- A server where every Service has the address `clusterIP` and every Secret the password
file `file`. -/
def Api.uniform (clusterIP file : GoString) : Api where
  getService _ := .ok ⟨clusterIP, [⟨lit "http", 80⟩], []⟩
  getSecret _ := .ok ⟨Finmap.singleton (lit "auth") file⟩
  getConfigMap _ := .error (lit "not found")

/-- An ingress with one path, with the given annotations. -/
def annotatedIngress (annotations : GoMap GoString GoString) : Ingress :=
  Ingress.small (lit "a") annotations
    [⟨lit "a.org", some [⟨lit "/", some .exact, some ⟨lit "svc", ⟨lit "http", 0⟩⟩⟩]⟩] []

section

variable {ext : Ext} {api : Api} {configs : GoMap GoString ForwardAuthConfig}
  {clients domains : GoMap GoString ClientConfig} {ingress : Ingress}
  {clusterIP file : GoString}

theorem ipAuthModule_succeeds (h : Accepted ext configs clients ingress.annotations) :
    Reading.Succeeds api ((ipAuthModule ext).ingressMiddleware ingress) := by
  unfold ipAuthModule
  dsimp only
  cases hraw : ingress.annotations.lookup authIpAllowlist with
  | none => exact .pure _
  | some raw =>
      obtain ⟨allowlist, hparse⟩ := h.allowIp raw hraw
      exact .lift_bind hparse (.pure _)

theorem basicAuthModule_succeeds (hfile : ext.htpasswdNew file = none) :
    Reading.Succeeds (Api.uniform clusterIP file)
      ((basicAuthModule ext).ingressMiddleware ingress) := by
  unfold basicAuthModule
  dsimp only
  cases ingress.annotations.lookup authBasicAuthRealm with
  | none => exact .pure _
  | some realm =>
      cases ingress.annotations.lookup authBasicAuthSecret with
      | none => exact .pure _
      | some secretRaw =>
          refine .getSecret rfl ?_
          unfold basicAuthOfSecret
          dsimp only
          rw [Finmap.lookup_singleton_eq]
          exact .lift_bind (a := ()) (checkf_eq_ok.mpr hfile) (.pure _)

/-- The configuration in effect exists and its URL parses. -/
theorem subrequestConfig_accepted (h : Accepted ext configs clients ingress.annotations) :
    ∃ conf?, subrequestConfig ext configs ingress = .ok conf? ∧
      ∀ conf, conf? = some conf → ∃ authUrl, ext.urlParse conf.authUrl = .ok authUrl := by
  have hglobal : ∃ named, getGlobalConfig ext configs ingress = .ok named := by
    unfold getGlobalConfig
    cases hname : ingress.annotations.lookup forwardAuthAnnotationKey with
    | none => exact ⟨none, rfl⟩
    | some name =>
        obtain ⟨conf, hconf, _⟩ := h.auth name hname
        dsimp only
        rw [hconf]
        exact ⟨some conf, rfl⟩
  obtain ⟨named, hnamed⟩ := hglobal
  -- the pair of annotations goes before the named configuration
  cases hpair : getAnnotationsConfig ingress with
  | some conf =>
      refine ⟨some conf, bind_eq_ok.mpr ⟨named, hnamed, by rw [hpair]; rfl⟩, ?_⟩
      intro conf' heq
      cases heq
      obtain ⟨hurl, hsignIn⟩ := getAnnotationsConfig_eq_some hpair
      exact h.pair _ _ hurl hsignIn
  | none =>
      refine ⟨named, bind_eq_ok.mpr ⟨named, hnamed, by rw [hpair]; rfl⟩, ?_⟩
      intro conf hconf
      have hspec := getGlobalConfig_eq_ok hnamed
      cases hname : ingress.annotations.lookup forwardAuthAnnotationKey with
      | none =>
          rw [hname, hconf] at hspec
          cases hspec
      | some name =>
          rw [hname, hconf] at hspec
          obtain ⟨conf', hlook, heq⟩ := hspec
          cases heq
          obtain ⟨conf'', hlook', hparse⟩ := h.auth name hname
          cases hlook.symm.trans hlook'
          exact hparse (getAnnotationsConfig_eq_none hpair)

theorem subrequestAuthModule_succeeds (h : Accepted ext configs clients ingress.annotations) :
    Reading.Succeeds api ((subrequestAuthModule ext configs).ingressMiddleware ingress) := by
  obtain ⟨conf?, hconf, hparse⟩ := subrequestConfig_accepted h
  refine .lift_bind hconf ?_
  cases conf? with
  | none => exact .pure _
  | some conf =>
      obtain ⟨authUrl, hurl⟩ := hparse conf rfl
      exact .lift_bind (errorf_eq_ok.mpr hurl) (.pure _)

theorem oidcModule_succeeds (h : Accepted ext configs clients ingress.annotations) :
    Reading.Succeeds api ((oidcModule ext clients domains).ingressMiddleware ingress) := by
  unfold oidcModule
  dsimp only
  cases hname : ingress.annotations.lookup configAnnotationKey with
  | none => exact .pure _
  | some name =>
      dsimp only
      by_cases hempty : name.isEmpty = true
      · rw [if_pos hempty]
        exact .pure _
      · rw [if_neg hempty]
        obtain ⟨client, hclient⟩ := h.oidc name hname (by simpa using hempty)
        rw [hclient]
        exact .pure _

theorem denyRouteModule_succeeds (h : Accepted ext configs clients ingress.annotations) :
    Reading.Succeeds api ((denyRouteModule ext).ingressMiddleware ingress) := by
  unfold denyRouteModule Ingress.annotationValue
  dsimp only
  cases hpattern : ingress.annotations.lookup denyRouteAnnotation with
  | none => exact .pure _
  | some pattern =>
      rw [Option.getD_some]
      by_cases hempty : pattern.isEmpty = true
      · rw [if_pos hempty]
        exact .pure _
      · rw [if_neg hempty]
        have hcompile := h.denyRoute pattern hpattern (by simpa using hempty)
        exact .lift_bind (a := ()) (checkf_eq_ok.mpr hcompile) (.pure _)

theorem headerHook_succeeds (key : GoString) (closure : List GoString → Middleware) :
    Reading.Succeeds api (headerHook key closure ingress) := by
  unfold headerHook
  dsimp only
  split
  · exact .pure _
  · exact .pure _

theorem standardModules_succeed {d : Bool} (h : Accepted ext configs clients ingress.annotations)
    (hfile : ext.htpasswdNew file = none) {mod : ModuleInstance}
    (hmod : mod ∈ standardModules ext d configs clients domains) :
    Reading.Succeeds (Api.uniform clusterIP file) (mod.ingressMiddleware ingress) := by
  simp only [standardModules, List.mem_cons, List.not_mem_nil, or_false] at hmod
  rcases hmod with rfl | rfl | rfl | rfl | rfl | rfl | rfl | rfl | rfl
  · exact .pure _
  · exact ipAuthModule_succeeds h
  · exact basicAuthModule_succeeds hfile
  · exact subrequestAuthModule_succeeds h
  · exact oidcModule_succeeds h
  · exact denyRouteModule_succeeds h
  · exact .pure _
  · exact headerHook_succeeds _ _
  · exact headerHook_succeeds _ _

end

/-- **Some ingress with accepted annotations reconciles**, on a server with the Services and
Secrets it reads. -/
theorem reconcileIngress_accepted {ext : Ext} {conf : ControllerConf} {d : Bool}
    {configs : GoMap GoString ForwardAuthConfig} {clients domains : GoMap GoString ClientConfig}
    {annotations : GoMap GoString GoString} {clusterIP file : GoString} {addr : Addr}
    (hmodules : conf.modules = standardModules ext d configs clients domains)
    (haddr : ext.parseAddr clusterIP = .ok addr) (hfile : ext.htpasswdNew file = none)
    (h : Accepted ext configs clients annotations) :
    ∃ cfg, reconcileIngress ext (Api.uniform clusterIP file) conf (annotatedIngress annotations)
      = .ok cfg := by
  have hsucceed : ∀ mod ∈ conf.modules, Reading.Succeeds (Api.uniform clusterIP file)
      (mod.ingressMiddleware (annotatedIngress annotations)) := by
    intro mod hmod
    rw [hmodules] at hmod
    exact standardModules_succeed h hfile hmod
  obtain ⟨⟨ms, used⟩, hms⟩ : ∃ result, getMiddlewares (Api.uniform clusterIP file)
      (annotatedIngress annotations) conf.modules [] = .ok result :=
    getMiddlewares_ok_iff.mpr hsucceed
  obtain ⟨proxyConf, hproxy⟩ : ∃ proxyConf, getHttpProxyConfig ext (annotatedIngress annotations)
      conf.ingressProxy = .ok proxyConf :=
    getHttpProxyConfig_ok_iff.mpr h.maxBody
  have hendpoint : backendEndpoint ext (Api.uniform clusterIP file) (annotatedIngress annotations)
      (lit "a.org") ⟨lit "svc", ⟨lit "http", 0⟩⟩ = .ok ⟨addr, 80⟩ :=
    backendEndpoint_eq_ok.mpr ⟨_, addr, rfl, haddr, rfl⟩
  have hpath : ∃ cfg, addPath ext (Api.uniform clusterIP file) conf .empty
      (annotatedIngress annotations) (lit "a.org")
      ⟨lit "/", some .exact, some ⟨lit "svc", ⟨lit "http", 0⟩⟩⟩ ⟨lit "svc", ⟨lit "http", 0⟩⟩
      = .ok cfg :=
    ⟨_, addPath_eq_ok.mpr ⟨_, _, _, _, _, hms, hendpoint, rfl, hproxy, rfl⟩⟩
  obtain ⟨cfg, hcfg⟩ := hpath
  -- one rule with one path, and no TLS section
  have hrule : addRule ext (Api.uniform clusterIP file) conf (annotatedIngress annotations) .empty
      ⟨lit "a.org", some [⟨lit "/", some .exact, some ⟨lit "svc", ⟨lit "http", 0⟩⟩⟩]⟩ = .ok cfg :=
    foldlM_cons_eq_ok.mpr ⟨cfg, hcfg, rfl⟩
  exact ⟨cfg, bind_eq_ok.mpr ⟨cfg, foldlM_cons_eq_ok.mpr ⟨cfg, hrule, rfl⟩, rfl⟩⟩

/-! ## §8. Failing closed. -/

/-- **An annotation map fails closed exactly if it is paired or refused.**  The two
hypotheses are about the libraries: some address and some password file parse. -/
theorem fails_closed_iff {ext : Ext} {conf : ControllerConf} {d : Bool}
    {configs : GoMap GoString ForwardAuthConfig} {clients domains : GoMap GoString ClientConfig}
    {annotations : GoMap GoString GoString}
    (hmodules : conf.modules = standardModules ext d configs clients domains)
    (haddr : ∃ clusterIP addr, ext.parseAddr clusterIP = .ok addr)
    (hfile : ∃ file, ext.htpasswdNew file = none) :
    FailsClosed ext configs clients annotations conf ↔
      (Accepted ext configs clients annotations → Paired configs annotations) := by
  obtain ⟨clusterIP, addr, haddr⟩ := haddr
  obtain ⟨file, hfile⟩ := hfile
  constructor
  · intro h haccepted
    -- the route of an ingress that reconciles shows which companions are there
    obtain ⟨cfg, hok⟩ := reconcileIngress_accepted hmodules haddr hfile haccepted
    have hdeclared : declared (annotatedIngress annotations) ≠ [] := by
      intro hnil
      cases hnil
    obtain ⟨host, route, hroute⟩ := exists_route_of_declared hok hdeclared
    obtain ⟨_, _, hfor⟩ := routeFor_of_mem hok hroute
    obtain ⟨used, used', hms⟩ := hfor.middlewares
    rw [hmodules] at hms
    exact paired_of_enforced hms (h _ _ cfg rfl hok host route hroute)
  · intro h api ingress cfg hannotations hok host route hroute
    subst hannotations
    obtain ⟨_, _, hfor⟩ := routeFor_of_mem hok hroute
    obtain ⟨used, used', hms⟩ := hfor.middlewares
    rw [hmodules] at hms
    exact enforced_of_paired (h (accepted_of_ok hms hfor.httpProxyConfig)) hms

/-- An allow-list needs no companion. -/
theorem fails_closed_allowIp :
    FailsClosed Ext.small ∅ ∅ (Finmap.singleton authIpAllowlist (lit "10.0.0.0/8"))
      (smallConf 4096) := by
  have hother : ∀ key, key ≠ authIpAllowlist →
      (Finmap.singleton authIpAllowlist (lit "10.0.0.0/8") : GoMap GoString GoString).lookup key
        = none := by
    intro key hkey
    exact Finmap.lookup_eq_none.mpr (by simpa using hkey)
  refine (fails_closed_iff rfl ⟨lit "10.0.0.1", _, rfl⟩ ⟨[], rfl⟩).mpr fun _ => ⟨?_, ?_, ?_⟩
  · intro secret h
    rw [hother _ (by decide)] at h
    cases h
  · intro url h
    rw [hother _ (by decide)] at h
    cases h
  · intro name url signInUrl h
    rw [hother _ (by decide)] at h
    cases h

/-- Annotations with which the small ingress gets its unchecked route do not fail closed if
one of them asks for a check. -/
theorem not_failsClosed_of_small {annotations : GoMap GoString GoString} {a : AccessCheck}
    {value : GoString}
    (hok : reconcileIngress Ext.small Api.small (smallConf 4096) (annotatedIngress annotations)
      = .ok (openConfiguration 4096))
    (hvalue : annotations.lookup a.key = some value) (hne : value ≠ []) :
    ¬ FailsClosed Ext.small ∅ ∅ annotations (smallConf 4096) := by
  intro h
  obtain ⟨m, hm, henforced⟩ :=
    h _ _ _ rfl hok _ _ (mem_openConfiguration 4096) a value hvalue hne
  rw [show (openRoute 4096).middlewares = [.websocket] from rfl, List.mem_singleton] at hm
  subst hm
  cases a <;> simp [AccessCheck.Enforced] at henforced

/-- A secret without a realm, and an authorization URL without a sign-in URL: the reconcile
succeeds, and the route it makes has no check at all. -/
theorem alone_unchecked :
    (reconcileIngress Ext.small Api.small (smallConf 4096)
        (annotatedIngress (Finmap.singleton authBasicAuthSecret (lit "creds")))
      = .ok (openConfiguration 4096)
    ∧ ¬ FailsClosed Ext.small ∅ ∅ (Finmap.singleton authBasicAuthSecret (lit "creds"))
        (smallConf 4096))
    ∧ (reconcileIngress Ext.small Api.small (smallConf 4096)
        (annotatedIngress (Finmap.singleton forwardAuthUrlAnnotationKey (lit "http://auth/")))
      = .ok (openConfiguration 4096)
    ∧ ¬ FailsClosed Ext.small ∅ ∅
        (Finmap.singleton forwardAuthUrlAnnotationKey (lit "http://auth/")) (smallConf 4096))
    ∧ (openRoute 4096).middlewares = [.websocket] := by
  refine ⟨⟨rfl, ?_⟩, ⟨rfl, ?_⟩, rfl⟩
  · exact not_failsClosed_of_small (a := .basicAuthSecret) rfl
      Finmap.lookup_singleton_eq (by decide)
  · exact not_failsClosed_of_small (a := .authUrl) rfl
      Finmap.lookup_singleton_eq (by decide)

end SIngress.Controller
