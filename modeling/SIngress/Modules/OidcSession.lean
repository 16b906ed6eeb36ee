/-
  SIngress.Modules.OidcSession — SESSIONS, LOGIN AND CALLBACK
  (`modules/oidc/jwt.go`, `oidc.go` and the closures of `middlewares.go`).

  A session lives in an encrypted cookie.  On a route with OIDC the closure
  reads it, renews its tokens when they are about to expire, validates it and
  checks the user against the allowed groups and e-mails; without a session it
  starts a login.  The provider sends the login back to the callback, which
  the request middleware answers.
-/
import SIngress.Modules.Oidc

namespace SIngress.Modules.Oidc

open SIngress.Base SIngress.Lib SIngress.K8s SIngress.Platform SIngress.Config SIngress.Proxy

/-! ## §1. `jwt.go`: the session cookie. -/

def cookieState : GoString := lit "_oidc_state"
def cookieNonce : GoString := lit "_oidc_nonce"
def cookieRedirect : GoString := lit "_oidc_redirect"

/-- `getCookieName`. -/
def getCookieName (client : ClientConfig) : GoString := lit "_oidq_" ++ client.name

/-- The errors of `extractAuthInfo`, as its caller tells them apart. -/
inductive ExtractError where
  /-- `errCookieNotFound`. -/
  | cookieNotFound
  /-- `errCookieInvalid`. -/
  | cookieInvalid (err : GoError)
  | other (err : GoError)
  deriving DecidableEq

section

variable (ext : Ext) (out : Outcomes)

/-- `decrypt`. -/
def decrypt (key encryptedData : GoString) : Except GoError GoString :=
  match ext.parseEncrypted encryptedData with
  | some err => .error (lit "parse encrypted: " ++ err)
  | none => context (lit "decrypt encrypted data: ") (ext.decrypt key encryptedData)

/-- `extractAuthInfo`; `Cookie` fails with `ErrNoCookie` only. -/
def extractAuthInfo (client : ClientConfig) (r : Request) : Except ExtractError AuthInfo :=
  match ext.cookie r.header (getCookieName client) with
  | none => .error .cookieNotFound
  | some value =>
      match decrypt ext client.encryptionKey value with
      | .error err => .error (.cookieInvalid (lit "invalid cookie: " ++ err))
      | .ok data =>
          match ext.unmarshalAuthInfo data with
          | .error err =>
              -- a cookie that decrypts to something else is no login, it is an error
              .error (.other (lit "unmarshal info: failed to unmarshal authInfo: " ++ err))
          | .ok info => .ok info

/-- `generateJwtCookie`. -/
def generateJwtCookie (client : ClientConfig) (r : Request) (info : AuthInfo) :
    Except GoError Cookie := do
  let encrypted ← context (lit "encrypt info: ") (out.encrypt client.encryptionKey info)
  let serialized ← context (lit "serialize info: ") (out.serialize encrypted)
  pure
    { name := getCookieName client
      value := serialized
      maxAge := (client.expiration.tdiv 1000000).tdiv 1000
      secure := r.tls
      domain := client.cookieDomain }

/-! ## §2. `oidc.go`: tokens. -/

/-- Nanoseconds per second. -/
def second : Int := 1000000000

/-- `renewOffset`. -/
def renewOffset : Int := 5 * 60 * second

/-- The first half of `oauthToAuthInfo`: the verified id token. -/
def verifyToken (client : ClientConfig) (token : Token) : Except GoError IDToken :=
  match token.idToken with
  | none => .error (lit "no id_token field found in oauth2 token")
  | some rawIDToken =>
      context (lit "could not verify id token: ")
        (out.verifyIdToken client.idTokenVerifier rawIDToken)

/-- The second half of `oauthToAuthInfo`: the session of a verified token. -/
def tokenInfo (client : ClientConfig) (token : Token) (idToken : IDToken) (authAt : Int) :
    Except GoError AuthInfo := do
  let c ← context (lit "could not parse id token claims: ") idToken.claims
  pure
    { subject := idToken.subject
      email := c.email
      groups := c.groups
      clientName := client.name
      authenticatedAt := authAt
      tokenExpiry := token.expiry
      accessToken := token.accessToken
      refreshToken := token.refreshToken }

/-- `renewAuthInfo`: the renewed session and the cookie it sets. -/
def renewAuthInfo (client : ClientConfig) (r : Request) (info : AuthInfo) :
    Except GoError (AuthInfo × Cookie) := do
  let token : Token := ⟨info.accessToken, info.refreshToken, info.tokenExpiry, none⟩
  let newToken ← context (lit "failed to renew token: ")
    (out.refreshToken client.oauth2Config token)
  -- the nonce is not verified again, and the time of the login stays
  let newAuthInfo ← context (lit "failed to convert renewed token: ") (do
    let idToken ← verifyToken out client newToken
    tokenInfo client newToken idToken info.authenticatedAt)
  let cookie ← context (lit "failed to generate jwt cookie: ")
    (generateJwtCookie out client r newAuthInfo)
  pure (newAuthInfo, cookie)

/-- The session `handleRenewingAuthInfo` goes on with, and the cookie it sets if it
renewed; a failed renewal keeps the old session. -/
def renewed (client : ClientConfig) (r : Request) (info : AuthInfo) : AuthInfo × Option Cookie :=
  if info.refreshToken.isEmpty then (info, none)
  -- five minutes before the token expires
  else if info.tokenExpiry * second > out.nowRenew + renewOffset then (info, none)
  else
    match renewAuthInfo out client r info with
    -- logged only: whether the old session still holds is for `validateInfo`
    | .error _ => (info, none)
    | .ok (newAuth, cookie) => (newAuth, some cookie)

/-- `handleRenewingAuthInfo`. -/
def handleRenewingAuthInfo (client : ClientConfig) (info : AuthInfo) : Serve AuthInfo := do
  let c ← get
  let (newAuth, cookie?) := renewed out client c.r info
  match cookie? with
  | none => pure newAuth
  | some cookie => do
      setResponseCookie cookie
      pure newAuth

/-! ## §3. `middlewares.go`: decisions. -/

/-- `validateInfo`. -/
def validateInfo (client : ClientConfig) (info : AuthInfo) : Bool :=
  if info.clientName ≠ client.name then false
  -- an expiration counts from the login; without one the token's own expiry counts
  else if client.expiration ≠ 0 then
    decide (info.authenticatedAt * second + client.expiration > out.nowValidate)
  else decide (info.tokenExpiry * second > out.nowValidate)

/-- `checkAccess`. -/
def checkAccess (ingress : OidcIngressConfig) (info : AuthInfo) : Bool :=
  -- no annotation admits every session of the client
  if ingress.allowedEmails.isNone && ingress.allowedGroups.isNone then true
  else if (ingress.allowedEmails.getD []).contains info.email then true
  else info.groups.any fun group => (ingress.allowedGroups.getD []).contains group

/-! ## §4. `middlewares.go`: responses. -/

/-- `setHttpCookie`. -/
def setHttpCookie (conf : ClientConfig) (name value : GoString) : Serve Unit := do
  let c ← get
  setCookie ext
    { name := name, value := value, maxAge := 3600, secure := c.r.tls,
      domain := conf.cookieDomain }

/-- `clearHttpCookie`. -/
def clearHttpCookie (conf : ClientConfig) (name : GoString) : Serve Unit := do
  let c ← get
  if (ext.cookie c.r.header name).isNone then
    return
  setCookie ext
    { name := name, value := [], maxAge := -1, secure := c.r.tls, domain := conf.cookieDomain }

/-- `clearCallbackCookies`. -/
def clearCallbackCookies (client : ClientConfig) : Serve Unit := do
  clearHttpCookie ext client cookieRedirect
  clearHttpCookie ext client cookieNonce
  clearHttpCookie ext client cookieState

/-- `getRequestUrl`. -/
def getRequestUrl (r : Request) : GoString :=
  ext.urlString
    -- the query is dropped, and so is the spelling of the path
    { scheme := lit "https", host := r.host, path := r.url.path, rawPath := [], rawQuery := [],
      fragment := r.url.fragment }

/-- `startLogin`. -/
def startLogin (client : ClientConfig) : Serve Unit := do
  let state ← liftError (context (lit "could not generate state: ") out.randState)
  let nonce ← liftError (context (lit "could not generate nonce: ") out.randNonce)
  setHttpCookie ext client cookieState state
  setHttpCookie ext client cookieNonce nonce
  let c ← get
  setHttpCookie ext client cookieRedirect (getRequestUrl ext c.r)
  redirect ext (ext.authCodeURL client.oauth2Config state nonce) 302

/-- `handleUnauthorized`. -/
def handleUnauthorized (client : ClientConfig) : Serve Unit := do
  let c ← get
  if (ext.cookie c.r.header (getCookieName client)).isSome then
    clearHttpCookie ext client (getCookieName client)
  -- a GET or HEAD can be repeated after the login
  if (c.r.method = lit "GET" ∨ c.r.method = lit "HEAD")
      ∧ ¬ ext.isWebSocketUpgrade c.r.header = true then
    startLogin ext out client
  else
    unauthorized ext out (lit "OIDC authorization required")

/-- The closure of `module.IngressMiddleware`. -/
def oidcIngress (client : ClientConfig) (ingressOidcConfig : OidcIngressConfig)
    (next : NextFunc) : Serve Unit := do
  let c ← get
  match extractAuthInfo ext client c.r with
  | .error .cookieNotFound => handleUnauthorized ext out client
  | .error (.cookieInvalid _) => handleUnauthorized ext out client
  | .error (.other err) => throw (.err (lit "extract info: " ++ err))
  -- the renewal comes first, so what is validated is the renewed session
  | .ok oldInfo => do
      let info ← handleRenewingAuthInfo out client oldInfo
      if ¬ validateInfo out client info = true then
        handleUnauthorized ext out client
      else if ¬ checkAccess ingressOidcConfig info = true then
        forbidden ext out (lit "no access to given resource")
      else
        next

/-! ## §5. The callback. -/

/-- `oauthToAuthInfo`; a nonce that is missing or does not match answers the request
and leaves no session. -/
def oauthToAuthInfo (client : ClientConfig) (token : Token) (authAt : Int)
    (verifyNonce : Bool) : Serve (Option AuthInfo) := do
  let c ← get
  let idToken ← liftError (verifyToken out client token)
  if verifyNonce then
    match ext.cookie c.r.header cookieNonce with
    | none => do
        badRequest ext out (lit "nonce cookie not found")
        return none
    | some nonce =>
        if idToken.nonce ≠ nonce then
          badRequest ext out (lit "nonce cookie did not match")
          return none
  let info ← liftError (tokenInfo client token idToken authAt)
  return some info

/-- `handleOidcCallback`. -/
def handleOidcCallback (client : ClientConfig) : Serve (Option AuthInfo) := do
  let c ← get
  match ext.cookie c.r.header cookieState with
  | none => do
      badRequest ext out (lit "state cookie not found")
      return none
  | some state =>
      if ext.queryGet c.r.url.rawQuery (lit "state") ≠ state then
        badRequest ext out (lit "state not found")
        return none
      let oauth2Token ← liftError (context (lit "could not exchange code for token: ")
        (out.exchange client.oauth2Config (ext.queryGet c.r.url.rawQuery (lit "code"))))
      oauthToAuthInfo ext out client oauth2Token (out.nowCallback.fdiv second) true

/-- `handleCallback`. -/
def handleCallback (client : ClientConfig) : Serve Unit := do
  match ← wrapServe (lit "handle oidc callback: ") (handleOidcCallback ext out client) with
  | none => clearCallbackCookies ext client
  | some info => do
      let c ← get
      match generateJwtCookie out client c.r info with
      | .error err => do
          clearCallbackCookies ext client
          throw (.err (lit "generate jwt cookie: " ++ err))
      | .ok cookie => do
          let target := (ext.cookie c.r.header cookieRedirect).getD client.callbackDomain
          setCookie ext cookie
          clearCallbackCookies ext client
          redirect ext target 302

/-- The closure of `module.RequestMiddleware`. -/
def oidcRequest (callbackDomains : GoMap GoString ClientConfig) (next : NextFunc) :
    Serve Unit := do
  let c ← get
  match callbackDomains.lookup c.r.host with
  -- the host as it stands in the request, not the one the routing normalises
  | none => next
  | some client =>
      if c.r.method = lit "GET" ∧ c.r.url.path = callbackPath then handleCallback ext out client
      else next

/-! ## §6. A session lets a request through, or nothing does. -/

/-- The request carries a session of the client that is valid, after the renewal its
tokens may have needed, and whose user may access the ingress. -/
def SessionGrants (client : ClientConfig) (ingress : OidcIngressConfig) (r : Request) : Prop :=
  ∃ info, extractAuthInfo ext client r = .ok info
    ∧ validateInfo out client (renewed out client r info).1 = true
    ∧ checkAccess ingress (renewed out client r info).1 = true

theorem setHttpCookie_prepares (conf : ClientConfig) (name value : GoString) :
    Prepares (setHttpCookie ext conf name value) :=
  fun c₀ => triple_get_bind fun _ => setCookie_prepares ext _ c₀

theorem clearHttpCookie_prepares (conf : ClientConfig) (name : GoString) :
    Prepares (clearHttpCookie ext conf name) :=
  fun c₀ => triple_get_bind fun _ =>
    Triple.ite (triple_pure fun _ h => h) (setCookie_prepares ext _ c₀)

theorem startLogin_answers (client : ClientConfig) : Answers (startLogin ext out client) := by
  intro c₀
  refine (liftError_prepares _ c₀).bind fun state => ?_
  refine (liftError_prepares _ c₀).bind fun nonce => ?_
  refine (setHttpCookie_prepares ext client _ _ c₀).bind fun _ => ?_
  refine (setHttpCookie_prepares ext client _ _ c₀).bind fun _ => ?_
  refine triple_get_bind fun c => ?_
  exact (setHttpCookie_prepares ext client _ _ c₀).bind fun _ =>
    redirect_answers ext _ (by omega) c₀

theorem handleUnauthorized_answers (client : ClientConfig) :
    Answers (handleUnauthorized ext out client) := by
  refine fun c₀ => triple_get_bind fun c => ?_
  have hanswer : Triple (Unwritten c₀) (if (c.r.method = lit "GET" ∨ c.r.method = lit "HEAD")
      ∧ ¬ ext.isWebSocketUpgrade c.r.header = true then startLogin ext out client
      else unauthorized ext out (lit "OIDC authorization required"))
      (fun _ => WrittenOnce c₀) (Failed c₀) :=
    Triple.ite (startLogin_answers ext out client c₀)
      (handleErrorPage_answers ext out (by omega) _ c₀)
  exact Triple.ite ((clearHttpCookie_prepares ext client _ c₀).bind fun _ => hanswer) hanswer

/-- Renewing a session touches nothing but the cookies of the response. -/
theorem handleRenewingAuthInfo_run (client : ClientConfig) (info : AuthInfo)
    (c : RequestContext) :
    handleRenewingAuthInfo out client info c = (.ok (renewed out client c.r info).1,
      { c with responseCookies :=
          c.responseCookies ++ (renewed out client c.r info).2.toList }) := by
  simp only [handleRenewingAuthInfo, get_bind_run]
  rcases renewed out client c.r info with ⟨newAuth, _ | cookie⟩
  · simp
  · rfl

/-- A session that grants access lets the request through, with the renewed cookie. -/
theorem oidcIngress_pass {client : ClientConfig} {ingress : OidcIngressConfig}
    {c : RequestContext} {info : AuthInfo} (hinfo : extractAuthInfo ext client c.r = .ok info)
    (hvalid : validateInfo out client (renewed out client c.r info).1 = true)
    (haccess : checkAccess ingress (renewed out client c.r info).1 = true) (next : NextFunc) :
    oidcIngress ext out client ingress next c
      = next { c with responseCookies :=
          c.responseCookies ++ (renewed out client c.r info).2.toList } := by
  simp only [oidcIngress, get_bind_run, hinfo]
  rw [bind_run, handleRenewingAuthInfo_run]
  dsimp only
  rw [if_neg (not_not.mpr hvalid), if_neg (not_not.mpr haccess)]

theorem oidcIngress_screens (client : ClientConfig) (ingress : OidcIngressConfig) :
    Screens (oidcIngress ext out client ingress)
      (fun r _ => SessionGrants ext out client ingress r) where
  pass next c h := by
    obtain ⟨info, hinfo, hvalid, haccess⟩ := h
    have hrun := oidcIngress_pass ext out hinfo hvalid haccess next
    refine ⟨_, ⟨?_, ?_⟩, hrun⟩
    · rfl
    · exact List.prefix_append _ _
  deny next c h := by
    -- without a session nothing is renewed; with one, validity and access decide
    cases hinfo : extractAuthInfo ext client c.r with
    | error e =>
        simp only [oidcIngress, get_bind_run, hinfo]
        cases e with
        | cookieNotFound => exact handleUnauthorized_answers ext out client c c (unwritten_refl c)
        | cookieInvalid err =>
            exact handleUnauthorized_answers ext out client c c (unwritten_refl c)
        | other err => exact throw_answers _ c c (unwritten_refl c)
    | ok info =>
        simp only [oidcIngress, get_bind_run, hinfo]
        rw [bind_run, handleRenewingAuthInfo_run]
        dsimp only
        by_cases hvalid : validateInfo out client (renewed out client c.r info).1 = true
        · have haccess : ¬ checkAccess ingress (renewed out client c.r info).1 = true :=
            fun ha => h ⟨info, hinfo, hvalid, ha⟩
          rw [if_neg (not_not.mpr hvalid), if_pos haccess]
          exact handleErrorPage_answers ext out (by omega) _ c _ ⟨rfl, rfl, rfl⟩
        · rw [if_pos hvalid]
          exact handleUnauthorized_answers ext out client c _ ⟨rfl, rfl, rfl⟩

/-! ## §7. The callback answers once. -/

/-- A step that either answers, and returns nothing, or returns a value before anything is
written. -/
abbrev Resolves {α : Type} (m : Serve (Option α)) : Prop :=
  ∀ c₀, Triple (Unwritten c₀) m
    (fun a? c => (a? = none → WrittenOnce c₀ c) ∧ (a? ≠ none → Unwritten c₀ c)) (Failed c₀)

/-- Answering and giving up. -/
theorem resolves_none {α : Type} {m : Serve Unit} (h : Answers m) :
    Resolves (do m; pure (none : Option α)) :=
  fun c₀ => (h c₀).bind fun _ => triple_pure fun _ hw => ⟨fun _ => hw, fun hne => absurd rfl hne⟩

theorem resolves_some {α : Type} {m : Serve α} (h : Prepares m) :
    Resolves (do let a ← m; pure (some a)) :=
  fun c₀ => (h c₀).bind fun _ => triple_pure fun _ hu => ⟨fun hn => (by cases hn), fun _ => hu⟩

theorem oauthToAuthInfo_resolves (client : ClientConfig) (token : Token) (authAt : Int)
    (verifyNonce : Bool) : Resolves (oauthToAuthInfo ext out client token authAt verifyNonce) := by
  refine fun c₀ => triple_get_bind fun c => (liftError_prepares _ c₀).bind fun idToken => ?_
  have hinfo := resolves_some (liftError_prepares (tokenInfo client token idToken authAt)) c₀
  have hbad : ∀ msg, Triple (Unwritten c₀) (do badRequest ext out msg; pure (none : Option AuthInfo))
      (fun a? c => (a? = none → WrittenOnce c₀ c) ∧ (a? ≠ none → Unwritten c₀ c)) (Failed c₀) :=
    fun msg => resolves_none (handleErrorPage_answers ext out (by omega) msg) c₀
  refine Triple.ite ?_ hinfo
  cases ext.cookie c.r.header cookieNonce with
  | none => exact hbad _
  | some nonce => exact Triple.ite (hbad _) hinfo

theorem handleOidcCallback_resolves (client : ClientConfig) :
    Resolves (handleOidcCallback ext out client) := by
  refine fun c₀ => triple_get_bind fun c => ?_
  cases ext.cookie c.r.header cookieState with
  | none => exact resolves_none (handleErrorPage_answers ext out (by omega) _) c₀
  | some state =>
      refine Triple.ite (resolves_none (handleErrorPage_answers ext out (by omega) _) c₀) ?_
      exact (liftError_prepares _ c₀).bind fun token =>
        oauthToAuthInfo_resolves ext out client token _ true c₀

/-- A context added to an error leaves it an error. -/
theorem wrapServe_resolves {α : Type} (context : GoString) {m : Serve (Option α)}
    (h : Resolves m) : Resolves (wrapServe context m) := by
  intro c₀ c hc
  have hm := h c₀ c hc
  unfold wrapServe
  rcases hrun : m c with ⟨e | a, c'⟩
  · rw [hrun] at hm
    obtain ⟨⟨err, rfl⟩, hw⟩ := hm
    exact ⟨⟨_, rfl⟩, hw⟩
  · rw [hrun] at hm
    exact hm

theorem clearHttpCookie_adds (conf : ClientConfig) (name : GoString) :
    Adds (clearHttpCookie ext conf name) :=
  fun c₀ => triple_get_bind fun _ => Triple.ite (pure_adds _ c₀) (setCookie_adds ext _ c₀)

theorem clearCallbackCookies_prepares (client : ClientConfig) :
    Prepares (clearCallbackCookies ext client) := fun c₀ =>
  (clearHttpCookie_prepares ext client _ c₀).bind fun _ =>
    (clearHttpCookie_prepares ext client _ c₀).bind fun _ =>
      clearHttpCookie_prepares ext client _ c₀

theorem clearCallbackCookies_adds (client : ClientConfig) :
    Adds (clearCallbackCookies ext client) := fun c₀ =>
  (clearHttpCookie_adds ext client _ c₀).bind fun _ =>
    (clearHttpCookie_adds ext client _ c₀).bind fun _ => clearHttpCookie_adds ext client _ c₀

theorem handleCallback_answers (client : ClientConfig) :
    Answers (handleCallback ext out client) := by
  intro c₀
  refine (wrapServe_resolves _ (handleOidcCallback_resolves ext out client) c₀).bind ?_
  intro info?
  cases info? with
  | none => exact fun c hc => clearCallbackCookies_adds ext client c₀ c (hc.1 rfl)
  | some info =>
      intro c hc
      have hsession : Triple (Unwritten c₀) (do
          let c ← get
          match generateJwtCookie out client c.r info with
          | .error err => do
              clearCallbackCookies ext client
              throw (.err (lit "generate jwt cookie: " ++ err))
          | .ok cookie => do
              let target := (ext.cookie c.r.header cookieRedirect).getD client.callbackDomain
              setCookie ext cookie
              clearCallbackCookies ext client
              redirect ext target 302) (fun _ => WrittenOnce c₀) (Failed c₀) := by
        refine triple_get_bind fun c => ?_
        cases generateJwtCookie out client c.r info with
        | error err =>
            exact (clearCallbackCookies_prepares ext client c₀).bind fun _ => throw_answers _ c₀
        | ok cookie =>
            refine (setCookie_prepares ext cookie c₀).bind fun _ => ?_
            exact (clearCallbackCookies_prepares ext client c₀).bind fun _ =>
              redirect_answers ext _ (by omega) c₀
      exact hsession c (hc.2 (by simp))

/-- The request is the provider's answer to a login of one of the clients. -/
def IsCallback (callbackDomains : GoMap GoString ClientConfig) (r : Request) : Prop :=
  callbackDomains.lookup r.host ≠ none ∧ r.method = lit "GET" ∧ r.url.path = callbackPath

theorem oidcRequest_screens (callbackDomains : GoMap GoString ClientConfig) :
    Screens (oidcRequest ext out callbackDomains)
      (fun r _ => ¬ IsCallback callbackDomains r) where
  pass next c h := by
    refine ⟨c, Onward.refl c, ?_⟩
    simp only [oidcRequest, get_bind_run]
    cases hclient : callbackDomains.lookup c.r.host with
    | none => rfl
    | some client =>
        have hother : ¬ (c.r.method = lit "GET" ∧ c.r.url.path = callbackPath) := fun hg =>
          h ⟨by rw [hclient]; simp, hg⟩
        dsimp only
        rw [if_neg hother]
  deny next c h := by
    obtain ⟨hclient, hget⟩ := not_not.mp h
    obtain ⟨client, hclient⟩ := Option.ne_none_iff_exists'.mp hclient
    simp only [oidcRequest, get_bind_run, hclient]
    rw [if_pos hget]
    exact handleCallback_answers ext out client c c (unwritten_refl c)

end

end SIngress.Modules.Oidc
