/-
  SIngress.Modules.Auth — ACCESS CHECKS BY ADDRESS, PASSWORD AND SUBREQUEST
  (`modules/auth`).

  Per module: its annotations, its hook with every way it can fail, and the
  closure it returns.  Note what a hook does when an annotation is missing:
  `basicAuthModule` needs the realm AND the secret and returns no middleware
  without either; `getAnnotationsConfig` likewise for URL and sign-in URL.
-/
import SIngress.Config.Conf
import SIngress.Proxy.Context

namespace SIngress.Modules.Auth

open SIngress.Base SIngress.Lib SIngress.K8s SIngress.Platform SIngress.Config SIngress.Proxy

/-! ## §1. `ipauth.go`. -/

def authIpAllowlist : GoString := lit "s-ingress.oidq.dev/allow-ip"

/-- The loop over the comma-separated prefixes of an allow-list. -/
def parseAllowlist (ext : Ext) (raw : GoString) : Except Fail (List Prefix) :=
  (split raw byteComma).mapM fun part =>
    let v := trimSpace part
    errorf (lit "invalid ip auth url: " ++ v ++ lit ": ") (ext.parsePrefix v)

/-- `ipAuthModule`. -/
def ipAuthModule (ext : Ext) : ModuleInstance where
  typeName := lit "*auth.ipAuthModule"
  requestMiddleware := .ok none
  ingressMiddleware := fun ingress =>
    match ingress.annotations.lookup authIpAllowlist with
    | none => pure none
    | some authUrlRaw => do
        let allowlist ← Reading.lift (parseAllowlist ext authUrlRaw)
        pure (some (.ipAuth allowlist))

/-- The allow-list annotation yields its check, unless a part of it does not parse. -/
theorem ipAuthModule_run {ext : Ext} {ingress : Ingress} {api : Api}
    {used used' : List NamespacedName} {m? : Option Middleware}
    (h : ((ipAuthModule ext).ingressMiddleware ingress).run api used = .ok (m?, used')) :
    match ingress.annotations.lookup authIpAllowlist with
    | none => m? = none
    | some raw => ∃ allowlist, parseAllowlist ext raw = .ok allowlist
        ∧ m? = some (.ipAuth allowlist) := by
  unfold ipAuthModule at h
  dsimp only at h
  cases hraw : ingress.annotations.lookup authIpAllowlist with
  | none =>
      rw [hraw] at h
      exact (Reading.run_pure_eq_ok.mp h).1.symm
  | some raw =>
      rw [hraw] at h
      obtain ⟨allowlist, used₁, hparse, h⟩ := Reading.run_bind_eq_ok.mp h
      exact ⟨allowlist, (Reading.run_lift_eq_ok.mp hparse).1,
        (Reading.run_pure_eq_ok.mp h).1.symm⟩

/-- `ModuleIpAuth`. -/
def moduleIpAuth (ext : Ext) : ModuleCreator := fun _ _ => pure (ipAuthModule ext)

/-! ## §2. `basic.go`. -/

def authBasicAuthSecret : GoString := lit "s-ingress.oidq.dev/basic-auth-secret"
def authBasicAuthRealm : GoString := lit "s-ingress.oidq.dev/basic-auth-realm"

/-- What `basicAuthModule` does with the answer of `GetSecret`. -/
def basicAuthOfSecret (ext : Ext) (realm secretRaw : GoString) :
    Except GoError Secret → Reading (Option Middleware)
  | .error err => .fail (.err (lit "error getting secret " ++ secretRaw ++ lit ": " ++ err))
  | .ok secret =>
      match secret.data.lookup (lit "auth") with
      | none =>
          .fail (.err (lit "error getting secret " ++ secretRaw ++
            lit ": secret does not contain auth"))
      | some htpasswdRaw => do
          Reading.lift (checkf
            (lit "error parsing htpasswd secret " ++ ext.printSecret secret ++ lit ": ")
            (ext.htpasswdNew htpasswdRaw))
          pure (some (.basicAuth realm htpasswdRaw))

/-- `basicAuthModule`. -/
def basicAuthModule (ext : Ext) : ModuleInstance where
  typeName := lit "*auth.basicAuthModule"
  requestMiddleware := .ok none
  ingressMiddleware := fun ingress =>
    match ingress.annotations.lookup authBasicAuthRealm with
    -- without a realm the secret is not even read, and the ingress has no check
    | none => pure none
    | some realm =>
        match ingress.annotations.lookup authBasicAuthSecret with
        | none => pure none
        | some secretRaw =>
            .getSecret ⟨ingress.namesp, secretRaw⟩ (basicAuthOfSecret ext realm secretRaw)

/-- The secret annotation yields its check only together with the realm. -/
theorem basicAuthModule_run {ext : Ext} {ingress : Ingress} {api : Api}
    {used used' : List NamespacedName} {m? : Option Middleware}
    (h : ((basicAuthModule ext).ingressMiddleware ingress).run api used = .ok (m?, used')) :
    match ingress.annotations.lookup authBasicAuthRealm,
      ingress.annotations.lookup authBasicAuthSecret with
    | some realm, some secretRaw => ∃ secret htpasswdRaw,
        api.getSecret ⟨ingress.namesp, secretRaw⟩ = .ok secret
        ∧ secret.data.lookup (lit "auth") = some htpasswdRaw
        ∧ m? = some (.basicAuth realm htpasswdRaw)
    | _, _ => m? = none := by
  unfold basicAuthModule at h
  dsimp only at h
  cases hrealm : ingress.annotations.lookup authBasicAuthRealm with
  | none =>
      rw [hrealm] at h
      exact (Reading.run_pure_eq_ok.mp h).1.symm
  | some realm =>
      rw [hrealm] at h
      cases hraw : ingress.annotations.lookup authBasicAuthSecret with
      | none =>
          rw [hraw] at h
          exact (Reading.run_pure_eq_ok.mp h).1.symm
      | some secretRaw =>
          rw [hraw] at h
          dsimp only at h ⊢
          rw [Reading.run_getSecret] at h
          cases hget : api.getSecret ⟨ingress.namesp, secretRaw⟩ with
          -- a secret that is missing or has no `auth` fails the ingress
          | error err =>
              rw [hget] at h
              cases h
          | ok secret =>
              rw [hget] at h
              unfold basicAuthOfSecret at h
              dsimp only at h
              cases hauth : secret.data.lookup (lit "auth") with
              | none =>
                  rw [hauth] at h
                  cases h
              | some htpasswdRaw =>
                  rw [hauth] at h
                  obtain ⟨u, used₁, _, h⟩ := Reading.run_bind_eq_ok.mp h
                  exact ⟨secret, htpasswdRaw, rfl, hauth, (Reading.run_pure_eq_ok.mp h).1.symm⟩

/-- `ModuleBasicAuth`. -/
def moduleBasicAuth (ext : Ext) : ModuleCreator := fun _ _ => pure (basicAuthModule ext)

/-! ## §3. `forward.go`. -/

def forwardAuthAnnotationKey : GoString := lit "s-ingress.oidq.dev/auth"
def forwardAuthUrlAnnotationKey : GoString := lit "s-ingress.oidq.dev/auth-url"
def forwardAuthSignInAnnotationKey : GoString := lit "s-ingress.oidq.dev/auth-signin"

/-- `getAnnotationsConfig`. -/
def getAnnotationsConfig (ingress : Ingress) : Option ForwardAuthConfig :=
  match ingress.annotations.lookup forwardAuthUrlAnnotationKey with
  -- only both annotations together replace the named configuration
  | none => none
  | some authUrlRaw =>
      match ingress.annotations.lookup forwardAuthSignInAnnotationKey with
      | none => none
      | some signInRaw => some ⟨authUrlRaw, signInRaw⟩

/-- `getGlobalConfig`. -/
def getGlobalConfig (ext : Ext) (auth : GoMap GoString ForwardAuthConfig) (ingress : Ingress) :
    Except Fail (Option ForwardAuthConfig) :=
  match ingress.annotations.lookup forwardAuthAnnotationKey with
  | none => .ok none
  | some authRaw =>
      match auth.lookup authRaw with
      | none =>
          .error (.err (lit "forward auth configuration " ++ ext.quote authRaw ++
            lit " not found"))
      | some conf => .ok (some conf)

/-- The configuration `subrequestAuthModule` uses: the annotations override the
named one. -/
def subrequestConfig (ext : Ext) (configs : GoMap GoString ForwardAuthConfig)
    (ingress : Ingress) : Except Fail (Option ForwardAuthConfig) := do
  -- an unknown name is an error even where the annotations would replace it
  let conf ← getGlobalConfig ext configs ingress
  match getAnnotationsConfig ingress with
  | some annotationConf => pure (some annotationConf)
  | none => pure conf

/-- `subrequestAuthModule`. -/
def subrequestAuthModule (ext : Ext) (configs : GoMap GoString ForwardAuthConfig) :
    ModuleInstance where
  typeName := lit "*auth.subrequestAuthModule"
  requestMiddleware := .ok none
  ingressMiddleware := fun ingress => do
    match ← Reading.lift (subrequestConfig ext configs ingress) with
    | none => pure none
    | some conf =>
        let authUrl ← Reading.lift (errorf (lit "failed to parse forward-auth url: ")
          (ext.urlParse conf.authUrl))
        pure (some (.subrequestAuth conf authUrl))

/-- The configuration that applies yields its check, unless its URL does not parse. -/
theorem subrequestAuthModule_run {ext : Ext} {configs : GoMap GoString ForwardAuthConfig}
    {ingress : Ingress} {api : Api} {used used' : List NamespacedName} {m? : Option Middleware}
    (h : ((subrequestAuthModule ext configs).ingressMiddleware ingress).run api used
      = .ok (m?, used')) :
    ∃ conf?, subrequestConfig ext configs ingress = .ok conf? ∧
      match conf? with
      | none => m? = none
      | some conf => ∃ authUrl, ext.urlParse conf.authUrl = .ok authUrl
          ∧ m? = some (.subrequestAuth conf authUrl) := by
  obtain ⟨conf?, used₁, hconf, h⟩ := Reading.run_bind_eq_ok.mp h
  refine ⟨conf?, (Reading.run_lift_eq_ok.mp hconf).1, ?_⟩
  cases conf? with
  | none => exact (Reading.run_pure_eq_ok.mp h).1.symm
  | some conf =>
      obtain ⟨authUrl, used₂, hparse, h⟩ := Reading.run_bind_eq_ok.mp h
      exact ⟨authUrl, errorf_eq_ok.mp (Reading.run_lift_eq_ok.mp hparse).1,
        (Reading.run_pure_eq_ok.mp h).1.symm⟩

/-- `ModuleSubrequestAuth`. -/
def moduleSubrequestAuth (ext : Ext) : ModuleCreator := fun _ conf => do
  let configurations ← Reading.lift (wrapErr (lit "error decoding module config: ")
    (conf.getModuleConf (lit "auth") ext.decodeAuth ∅))
  pure (subrequestAuthModule ext configurations)

/-! ## §4. What the closures do. -/

section

variable (ext : Ext) (out : Outcomes)

/-- The closure of `ipAuthModule.IngressMiddleware`: the first prefix that
contains the address lets the request through. -/
def ipAuth (allowlist : List Prefix) (next : NextFunc) : Serve Unit := do
  let c ← get
  if allowlist.any (fun ipNet => ipNet.contains c.realIp) then next
  else forbidden ext out (lit "forbidden")

/-- Ask for credentials, then answer. -/
def challenge (realm : GoString) (answer : Serve Unit) : Serve Unit := do
  modifyHeader fun h => h.set (lit "WWW-Authenticate")
    (lit "Basic realm=\"" ++ realm ++ lit "\", charset=\"UTF-8\"")
  answer

/-- The closure of `basicAuthModule.IngressMiddleware`. -/
def basicAuth (realm auth : GoString) (next : NextFunc) : Serve Unit := do
  let c ← get
  match ext.basicAuth c.r.header with
  | none => challenge realm (unauthorized ext out (lit ""))
  | some (user, passwd) =>
      if ext.htpasswdMatch auth user passwd then next
      -- wrong credentials are a 403, with the challenge set all the same
      else challenge realm (forbidden ext out (lit "forbidden"))

/-- `getRedirectUrl`. -/
def getRedirectUrl (r : Request) (signinUrl : GoString) : GoString :=
  let signinUrl :=
    replaceFirst (lit "$escaped_uri") (ext.queryEscape (ext.urlString r.url)) signinUrl
  replaceFirst (lit "$host") (ext.queryEscape r.host) signinUrl

/-- The closure of `subrequestAuthModule.IngressMiddleware`. -/
def subrequestAuth (conf : ForwardAuthConfig) (authUrl : GoString) (next : NextFunc) :
    Serve Unit := do
  let c ← get
  match ext.newRequest (lit "GET") authUrl with
  | some err => throw (.err (lit "forward-auth request creation failed: " ++ err))
  | none =>
      match out.authRoundTrip authUrl c.r.header with
      -- an authorization server that does not answer lets nobody through
      | .error err => throw (.err err)
      | .ok statusCode =>
          if statusCode = 403 then forbidden ext out (lit "")
          else if 200 ≤ statusCode ∧ statusCode ≤ 299 then next
          else redirect ext (getRedirectUrl ext c.r conf.signInUrl) 302

/-! ## §5. When they let a request through. -/

/-- The request carries credentials that match the htpasswd file. -/
def CredentialsMatch (auth : GoString) (r : Request) : Prop :=
  ∃ user passwd, ext.basicAuth r.header = some (user, passwd)
    ∧ ext.htpasswdMatch auth user passwd = true

/-- The authorization server was asked about the request and answered 2xx. -/
def SubrequestAllows (authUrl : GoString) (r : Request) : Prop :=
  ext.newRequest (lit "GET") authUrl = none
    ∧ ∃ statusCode, out.authRoundTrip authUrl r.header = .ok statusCode
      ∧ 200 ≤ statusCode ∧ statusCode ≤ 299

theorem ipAuth_screens (allowlist : List Prefix) :
    Screens (ipAuth ext out allowlist)
      (fun _ realIp => ∃ ipNet ∈ allowlist, ipNet.contains realIp = true) where
  pass next c h := by
    refine ⟨c, Onward.refl c, ?_⟩
    simp only [ipAuth, get_bind_run]
    rw [if_pos (List.any_eq_true.mpr h)]
  deny next c h := by
    simp only [ipAuth, get_bind_run]
    rw [if_neg (fun ha => h (List.any_eq_true.mp ha))]
    exact handleErrorPage_answers ext out (by omega) _ c c (unwritten_refl c)

theorem challenge_answers (realm : GoString) {answer : Serve Unit} (h : Answers answer) :
    Answers (challenge realm answer) :=
  fun c₀ => (modifyHeader_prepares _ c₀).bind fun _ => h c₀

theorem basicAuth_screens (realm auth : GoString) :
    Screens (basicAuth ext out realm auth) (fun r _ => CredentialsMatch ext auth r) where
  pass next c h := by
    obtain ⟨user, passwd, hb, hm⟩ := h
    refine ⟨c, Onward.refl c, ?_⟩
    simp only [basicAuth, get_bind_run, hb, hm, if_true]
  deny next c h := by
    cases hb : ext.basicAuth c.r.header with
    | none =>
        simp only [basicAuth, get_bind_run, hb]
        exact challenge_answers realm (handleErrorPage_answers ext out (by omega) _) c c
          (unwritten_refl c)
    | some cred =>
        obtain ⟨user, passwd⟩ := cred
        have hm : ¬ ext.htpasswdMatch auth user passwd = true := fun hm =>
          h ⟨user, passwd, hb, hm⟩
        simp only [basicAuth, get_bind_run, hb]
        rw [if_neg hm]
        exact challenge_answers realm (handleErrorPage_answers ext out (by omega) _) c c
          (unwritten_refl c)

theorem subrequestAuth_screens (conf : ForwardAuthConfig) (authUrl : GoString) :
    Screens (subrequestAuth ext out conf authUrl)
      (fun r _ => SubrequestAllows ext out authUrl r) where
  pass next c h := by
    obtain ⟨hreq, code, hrt, hlo, hhi⟩ := h
    refine ⟨c, Onward.refl c, ?_⟩
    simp only [subrequestAuth, get_bind_run, hreq, hrt]
    rw [if_neg (by omega), if_pos ⟨hlo, hhi⟩]
  deny next c h := by
    cases hreq : ext.newRequest (lit "GET") authUrl with
    | some err =>
        simp only [subrequestAuth, get_bind_run, hreq]
        exact throw_answers _ c c (unwritten_refl c)
    | none =>
        cases hrt : out.authRoundTrip authUrl c.r.header with
        | error err =>
            simp only [subrequestAuth, get_bind_run, hreq, hrt]
            exact throw_answers _ c c (unwritten_refl c)
        | ok code =>
            have hcode : ¬ (200 ≤ code ∧ code ≤ 299) := fun hc => h ⟨hreq, code, hrt, hc⟩
            simp only [subrequestAuth, get_bind_run, hreq, hrt]
            -- 403 is passed on, anything else that is no 2xx sends the client to sign in
            by_cases h403 : code = 403
            · rw [if_pos h403]
              exact handleErrorPage_answers ext out (by omega) _ c c (unwritten_refl c)
            · rw [if_neg h403, if_neg hcode]
              exact redirect_answers ext _ (by omega) c c (unwritten_refl c)

end

end SIngress.Modules.Auth
