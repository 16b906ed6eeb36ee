/-
  SIngress.Modules.Oidc — THE OIDC MODULE (`modules/oidc/module.go` and the
  hooks of `middlewares.go`).

  The module keeps one client per configured name.  A client is built from its
  section of the configuration, a Secret of the controller's namespace and the
  provider's discovery document; its key is derived from the Secret.
-/
import SIngress.Config.Conf
import SIngress.Proxy.Context

namespace SIngress.Modules.Oidc

open SIngress.Base SIngress.Lib SIngress.K8s SIngress.Platform SIngress.Config SIngress.Proxy

/-! ## §1. Clients. -/

def callbackPath : GoString := lit "/_oidc/callback"

/-- The scopes of every client. -/
def scopes : List GoString :=
  [lit "openid", lit "offline_access", lit "profile", lit "email", lit "groups"]

/-- `oidc.NewProvider`: the endpoint a discovery at the issuer's URL gives. -/
abbrev NewProvider := GoString → Except GoError GoString

section

variable (ext : Ext) (newProvider : NewProvider)

/-- `extractJwtAesKeySecret`. -/
def extractJwtAesKeySecret (value : GoString) : GoString := ext.sha256 value

/-- What `getClientConfig` does with the client's Secret. -/
def clientOfSecret (namesp name : GoString) (conf : OidcClientYaml) (secret : Secret) :
    Except Fail ClientConfig := do
  let clientId := (secret.data.lookup (lit "CLIENT_ID")).getD []
  let clientSecret := (secret.data.lookup (lit "CLIENT_SECRET")).getD []
  let jwtSecret := (secret.data.lookup (lit "JWT_SECRET")).getD []
  if jwtSecret.isEmpty then
    throw (.err (lit "error getting client secret " ++ namesp ++ lit "/" ++
      conf.clientSecretName ++ lit ": missing JWT_SECRET"))
  let jwtNormalizedSecret := extractJwtAesKeySecret ext jwtSecret
  let callbackUrl := ext.urlString
    { scheme := lit "https", host := conf.callbackDomain, path := callbackPath, rawPath := [],
      rawQuery := [], fragment := [] }
  -- a provider that cannot be discovered stops the process
  let endpoint ← (newProvider conf.issuerUrl).mapError .fatal
  checkf (lit "error creating encrypter: ") (ext.newEncrypter jwtNormalizedSecret)
  let expiration ← errorf (lit "error parsing auth expiration: ")
    (ext.parseDuration (defaultVal conf.authExpiration (lit "0")))
  pure
    { name := name
      idTokenVerifier := (conf.issuerUrl, clientId)
      oauth2Config :=
        { clientId := clientId
          clientSecret := clientSecret
          endpoint := endpoint
          redirectUrl := callbackUrl
          scopes := scopes }
      callbackDomain := conf.callbackDomain
      cookieDomain := conf.cookieDomain
      expiration := expiration
      encryptionKey := jwtNormalizedSecret }

/-- `getClientConfig`. -/
def getClientConfig (namesp name : GoString) (conf : OidcClientYaml) : Reading ClientConfig :=
  .getSecret ⟨namesp, conf.clientSecretName⟩ fun
    | .error err =>
        .fail (.err (lit "error getting client secret " ++ namesp ++ lit "/" ++
          conf.clientSecretName ++ lit ": " ++ err))
    | .ok secret => Reading.lift (clientOfSecret ext newProvider namesp name conf secret)

/-! ## §2. The hooks. -/

def configAnnotationKey : GoString := lit "s-ingress.oidq.dev/oidc"
def allowGroupAnnotationKey : GoString := lit "s-ingress.oidq.dev/oidc-require-group"
def allowEmailAnnotationKey : GoString := lit "s-ingress.oidq.dev/oidc-require-email"

/-- `parseAnnotationArray`; an empty value is the nil slice. -/
def parseAnnotationArray (rawValue : GoString) : Option (List GoString) :=
  if rawValue.isEmpty then none else some ((split rawValue byteComma).map trimSpace)

/-- `parseIngressAnnotations`. -/
def parseIngressAnnotations (ingress : Ingress) : OidcIngressConfig :=
  ⟨parseAnnotationArray (ingress.annotationValue allowGroupAnnotationKey),
   parseAnnotationArray (ingress.annotationValue allowEmailAnnotationKey)⟩

/-- `oidc.module`. -/
def oidcModule (clients callbackDomains : GoMap GoString ClientConfig) : ModuleInstance where
  typeName := lit "*oidc.module"
  requestMiddleware := .ok (some (.oidcRequest callbackDomains))
  ingressMiddleware := fun ingress =>
    match ingress.annotations.lookup configAnnotationKey with
    | none => pure none
    | some confName =>
        -- an empty name is no client, and no error either
        if confName.isEmpty then pure none
        else
          match clients.lookup confName with
          | none =>
              .fail (.err (lit "no configuration named " ++ ext.quote confName ++ lit " found"))
          | some client =>
              pure (some (.oidcIngress client (parseIngressAnnotations ingress)))

/-- A nonempty client name yields the check of that client. -/
theorem oidcModule_run {ext : Ext} {clients domains : GoMap GoString ClientConfig}
    {ingress : Ingress} {api : Api} {used used' : List NamespacedName} {m? : Option Middleware}
    (h : ((oidcModule ext clients domains).ingressMiddleware ingress).run api used
      = .ok (m?, used')) :
    match ingress.annotations.lookup configAnnotationKey with
    | none => m? = none
    | some confName =>
        if confName.isEmpty = true then m? = none
        else ∃ client, clients.lookup confName = some client
          ∧ m? = some (.oidcIngress client (parseIngressAnnotations ingress)) := by
  unfold oidcModule at h
  dsimp only at h
  cases hname : ingress.annotations.lookup configAnnotationKey with
  | none =>
      rw [hname] at h
      exact (Reading.run_pure_eq_ok.mp h).1.symm
  | some confName =>
      rw [hname] at h
      dsimp only at h ⊢
      by_cases hempty : confName.isEmpty = true
      · rw [if_pos hempty] at h ⊢
        exact (Reading.run_pure_eq_ok.mp h).1.symm
      · rw [if_neg hempty] at h ⊢
        cases hclient : clients.lookup confName with
        | none =>
            rw [hclient] at h
            cases h
        | some client =>
            rw [hclient] at h
            exact ⟨client, rfl, (Reading.run_pure_eq_ok.mp h).1.symm⟩

/-- The loop of `ModuleOidc` over the clients, in the order it visits them. -/
def loadClients (namesp : GoString) :
    List (GoString × OidcClientYaml) → GoMap GoString ClientConfig →
      GoMap GoString ClientConfig → Reading ModuleInstance
  | [], clients, domains => pure (oidcModule ext clients domains)
  | (name, clientConf) :: rest, clients, domains => do
      let c ← (getClientConfig ext newProvider namesp name clientConf).wrap
        (lit "error loading client " ++ ext.quote name ++ lit " configuration: ")
      -- two clients on one callback domain: the one visited last keeps it
      loadClients namesp rest (clients.insert name c) (domains.insert c.callbackDomain c)

/-- `ModuleOidc`, with the order in which the clients are visited. -/
def moduleOidc (clientOrder : GoMap.RangeChoice GoString OidcClientYaml) : ModuleCreator :=
  fun namesp conf => do
    let clients ← Reading.lift (wrapErr (lit "error loading oidc configuration: ")
      (conf.getModuleConf (lit "oidc") ext.decodeOidc ∅))
    loadClients ext newProvider namesp (clientOrder.order clients) ∅ ∅

end

end SIngress.Modules.Oidc
