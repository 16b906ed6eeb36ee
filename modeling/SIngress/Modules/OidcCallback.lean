/-
  SIngress.Modules.OidcCallback — WHICH CLIENT COMPLETES A LOGIN.

  `ModuleOidc` turns the clients by name into clients by callback domain, in a
  loop over an unordered map.  The loop asks nothing of the domains: of two
  clients on one domain, the one visited last receives the callbacks of both.

  * `oidcRequest_eq`             — the middleware runs `handleCallback` with the
                                   client it finds for the host.
  * `loadClients_tables`         — the two tables after the loop.
  * `completes_of_distinct`      — clients on distinct domains each complete
                                   their own logins, whatever the order.
  * `not_completes_of_shared`    — for a shared domain there is an order in
                                   which one of the two does not.
-/
import SIngress.Lib.Latest
import SIngress.Modules.OidcSession

namespace SIngress.Modules.Oidc

open SIngress.Base SIngress.Lib SIngress.K8s SIngress.Platform SIngress.Config SIngress.Proxy

/-! ## §1. The client of a callback. -/

/-- The client whose callback `module.RequestMiddleware` takes a request for. -/
def callbackClient (callbackDomains : GoMap GoString ClientConfig) (r : Request) :
    Option ClientConfig :=
  if r.method = lit "GET" ∧ r.url.path = callbackPath then callbackDomains.lookup r.host else none

/-- **The middleware completes the login with that client**, and passes every other request
on. -/
theorem oidcRequest_eq (ext : Ext) (out : Outcomes) (callbackDomains : GoMap GoString ClientConfig)
    (next : NextFunc) (c : RequestContext) :
    oidcRequest ext out callbackDomains next c
      = match callbackClient callbackDomains c.r with
        | none => next c
        | some client => handleCallback ext out client c := by
  simp only [oidcRequest, get_bind_run]
  unfold callbackClient
  by_cases hcallback : c.r.method = lit "GET" ∧ c.r.url.path = callbackPath
  · rw [if_pos hcallback]
    cases callbackDomains.lookup c.r.host with
    | none => rfl
    | some client => exact congrFun (if_pos hcallback) c
  · rw [if_neg hcallback]
    cases callbackDomains.lookup c.r.host with
    | none => rfl
    | some client => exact congrFun (if_neg hcallback) c

/-! ## §2. Loading the clients. -/

section

variable (ext : Ext) (newProvider : NewProvider) (api : Api) (namesp : GoString)

/-- The client a section of the configuration describes, where its Secret and the provider
give one. -/
def clientFor (name : GoString) (conf : OidcClientYaml) : Option ClientConfig :=
  match api.getSecret ⟨namesp, conf.clientSecretName⟩ with
  | .error _ => none
  | .ok secret => (clientOfSecret ext newProvider namesp name conf secret).toOption

variable {ext newProvider api namesp}

/-- `getClientConfig` returns that client. -/
theorem getClientConfig_run {context name : GoString} {conf : OidcClientYaml}
    {client : ClientConfig} {used used' : List NamespacedName} :
    ((getClientConfig ext newProvider namesp name conf).wrap context).run api used
        = .ok (client, used')
      ↔ clientFor ext newProvider api namesp name conf = some client
        ∧ used ++ [⟨namesp, conf.clientSecretName⟩] = used' := by
  unfold getClientConfig clientFor
  rw [Reading.wrap, Reading.run_getSecret]
  cases hsecret : api.getSecret ⟨namesp, conf.clientSecretName⟩ with
  | error err =>
      constructor
      · intro h
        cases h
      · rintro ⟨h, _⟩
        cases h
  | ok secret =>
      dsimp only
      cases hclient : clientOfSecret ext newProvider namesp name conf secret with
      | error e =>
          constructor
          · intro h
            cases h
          · rintro ⟨h, _⟩
            cases h
      | ok c =>
          show (pure c : Reading ClientConfig).run api _ = _ ↔ some c = some client ∧ _
          rw [Reading.run_pure_eq_ok, Option.some.injEq]

/-- A client keeps the name and the callback domain of its section. -/
theorem clientFor_fields {name : GoString} {conf : OidcClientYaml} {client : ClientConfig}
    (h : clientFor ext newProvider api namesp name conf = some client) :
    client.name = name ∧ client.callbackDomain = conf.callbackDomain := by
  unfold clientFor at h
  cases hsecret : api.getSecret ⟨namesp, conf.clientSecretName⟩ with
  | error err =>
      rw [hsecret] at h
      cases h
  | ok secret =>
      rw [hsecret] at h
      dsimp only at h
      cases hclient : clientOfSecret ext newProvider namesp name conf secret with
      | error e =>
          rw [hclient] at h
          cases h
      | ok c =>
          rw [hclient] at h
          cases h
          unfold clientOfSecret at hclient
          dsimp only at hclient
          split at hclient
          · cases hclient
          · obtain ⟨_, _, hclient⟩ := bind_eq_ok.mp hclient
            obtain ⟨_, _, hclient⟩ := bind_eq_ok.mp hclient
            obtain ⟨_, _, hclient⟩ := bind_eq_ok.mp hclient
            cases hclient
            exact ⟨rfl, rfl⟩

/-- The entry of a visiting order that a table shows under a key: the last one with it. -/
def visited (key : GoString × OidcClientYaml → GoString) (k : GoString)
    (order : List (GoString × OidcClientYaml)) : Option (GoString × OidcClientYaml) :=
  latest (fun e => key e == k) order

/-- A table filled from a visiting order, over what it held before. -/
def Shows (ext : Ext) (newProvider : NewProvider) (api : Api) (namesp : GoString)
    (key : GoString × OidcClientYaml → GoString) (order : List (GoString × OidcClientYaml))
    (before after : GoMap GoString ClientConfig) : Prop :=
  ∀ k, after.lookup k = match visited key k order with
    | none => before.lookup k
    | some e => clientFor ext newProvider api namesp e.1 e.2

/-- Writing the first entry and showing the rest over it shows the whole order. -/
theorem Shows.cons {key : GoString × OidcClientYaml → GoString} {e : GoString × OidcClientYaml}
    {rest : List (GoString × OidcClientYaml)} {before after : GoMap GoString ClientConfig}
    {client : ClientConfig} (hclient : clientFor ext newProvider api namesp e.1 e.2 = some client)
    (h : Shows ext newProvider api namesp key rest (before.insert (key e) client) after) :
    Shows ext newProvider api namesp key (e :: rest) before after := by
  intro k
  rw [h k]
  unfold visited
  rw [latest_cons]
  cases latest (fun e => key e == k) rest with
  | some e' => rfl
  | none =>
      rw [GoMap.lookup_insert_eq]
      by_cases hk : k = key e
      · rw [if_pos hk, if_pos (beq_iff_eq.mpr hk.symm)]
        exact hclient.symm
      · rw [if_neg hk, if_neg fun h => hk (beq_iff_eq.mp h).symm]
        rfl

/-- **The tables after the loop**: every entry visited describes a client, and each table
shows under a key the last one visited with it. -/
theorem loadClients_tables {order : List (GoString × OidcClientYaml)} :
    ∀ {clients domains : GoMap GoString ClientConfig} {mod : ModuleInstance}
      {used used' : List NamespacedName},
      (loadClients ext newProvider namesp order clients domains).run api used = .ok (mod, used') →
      (∀ e ∈ order, clientFor ext newProvider api namesp e.1 e.2 ≠ none)
        ∧ ∃ clients' domains', mod = oidcModule ext clients' domains'
          ∧ Shows ext newProvider api namesp (fun e => e.1) order clients clients'
          ∧ Shows ext newProvider api namesp (fun e => e.2.callbackDomain) order domains domains' := by
  induction order with
  | nil =>
      intro clients domains mod used used' h
      exact ⟨by simp, clients, domains, (Reading.run_pure_eq_ok.mp h).1.symm, fun _ => rfl,
        fun _ => rfl⟩
  | cons e rest ih =>
      intro clients domains mod used used' h
      obtain ⟨client, used₁, hrun, hrest⟩ := Reading.run_bind_eq_ok.mp h
      obtain ⟨hclient, _⟩ := getClientConfig_run.mp hrun
      obtain ⟨hall, clients', domains', hmod, hclients, hdomains⟩ := ih hrest
      rw [(clientFor_fields hclient).2] at hdomains
      refine ⟨?_, clients', domains', hmod, hclients.cons hclient, hdomains.cons hclient⟩
      intro e' he'
      obtain rfl | he' := List.mem_cons.mp he'
      · rw [hclient]
        exact Option.some_ne_none _
      · exact hall e' he'

/-- Where every entry describes a client, the loop ends well. -/
theorem loadClients_accepts {order : List (GoString × OidcClientYaml)}
    (h : ∀ e ∈ order, clientFor ext newProvider api namesp e.1 e.2 ≠ none)
    (clients domains : GoMap GoString ClientConfig) (used : List NamespacedName) :
    ∃ mod used', (loadClients ext newProvider namesp order clients domains).run api used
      = .ok (mod, used') := by
  induction order generalizing clients domains used with
  | nil => exact ⟨_, _, rfl⟩
  | cons e rest ih =>
      obtain ⟨client, hclient⟩ := Option.ne_none_iff_exists'.mp (h e List.mem_cons_self)
      obtain ⟨mod, used', hrest⟩ := ih (fun e' he' => h e' (List.mem_cons_of_mem _ he'))
        (clients.insert e.1 client) (domains.insert client.callbackDomain client) _
      exact ⟨mod, used', Reading.run_bind_eq_ok.mpr
        ⟨client, _, getClientConfig_run.mpr ⟨hclient, rfl⟩, hrest⟩⟩

/-- An entry that is alone with its key is the one a table shows. -/
theorem visited_of_unique {key : GoString × OidcClientYaml → GoString}
    {order : List (GoString × OidcClientYaml)} {e : GoString × OidcClientYaml} (he : e ∈ order)
    (hunique : ∀ e' ∈ order, key e' = key e → e' = e) : visited key (key e) order = some e := by
  cases hvisited : visited key (key e) order with
  | none => exact absurd (beq_self_eq_true _) (latest_eq_none_iff.mp hvisited e he)
  | some e' =>
      obtain ⟨older, newer, rfl, hkey, _⟩ := latest_eq_some_iff.mp hvisited
      rw [hunique e' (by simp) (beq_iff_eq.mp hkey)]

end

/-! ## §3. Every login is completed by the client that started it. -/

section

variable (ext : Ext) (newProvider : NewProvider) (api : Api) (namesp : GoString)

/-- Whatever order the clients are visited in, a module that is accepted completes the login
of every client with that client: the ingress middleware of an ingress that names the client
checks the cookie of the client that answers a request to the client's redirect URL. -/
def CompletesLogins (conf : ControllerConf) (clients : GoMap GoString OidcClientYaml) : Prop :=
  ∀ clientOrder mod used used',
    (moduleOidc ext newProvider clientOrder namesp conf).run api used = .ok (mod, used') →
    ∀ name clientConf, clients.lookup name = some clientConf →
      ∃ client callbackDomains,
        clientFor ext newProvider api namesp name clientConf = some client
        ∧ mod.requestMiddleware = .ok (some (.oidcRequest callbackDomains))
        ∧ (∀ ingress : Ingress, name ≠ [] →
            ingress.annotations.lookup configAnnotationKey = some name → ∀ used₁,
            (mod.ingressMiddleware ingress).run api used₁
              = .ok (some (.oidcIngress client (parseIngressAnnotations ingress)), used₁))
        ∧ ∀ r : Request, r.method = lit "GET" → r.host = clientConf.callbackDomain →
            r.url.path = callbackPath → callbackClient callbackDomains r = some client

/-- No two clients have the same callback domain. -/
def DistinctDomains (clients : GoMap GoString OidcClientYaml) : Prop :=
  ∀ name name' clientConf clientConf', clients.lookup name = some clientConf →
    clients.lookup name' = some clientConf' →
    clientConf.callbackDomain = clientConf'.callbackDomain → name = name'

variable {ext newProvider api namesp}

/-- After the section is decoded, `ModuleOidc` is its loop. -/
theorem moduleOidc_loop {conf : ControllerConf} {clients : GoMap GoString OidcClientYaml}
    (hconf : conf.getModuleConf (lit "oidc") ext.decodeOidc ∅ = .ok clients)
    {clientOrder : GoMap.RangeChoice GoString OidcClientYaml} {mod : ModuleInstance}
    {used used' : List NamespacedName} :
    (moduleOidc ext newProvider clientOrder namesp conf).run api used = .ok (mod, used')
      ↔ (loadClients ext newProvider namesp (clientOrder.order clients) ∅ ∅).run api used
        = .ok (mod, used') := by
  constructor
  · intro h
    obtain ⟨clients', used₁, hlift, hload⟩ := Reading.run_bind_eq_ok.mp h
    obtain ⟨hsection, rfl⟩ := Reading.run_lift_eq_ok.mp hlift
    rw [wrapErr_eq_ok, hconf] at hsection
    cases hsection
    exact hload
  · intro h
    refine Reading.run_bind_eq_ok.mpr ⟨clients, used, Reading.run_lift_eq_ok.mpr ⟨?_, rfl⟩, h⟩
    rw [wrapErr_eq_ok]
    exact hconf

/-- Clients on distinct domains complete their own logins, in every order. -/
theorem completes_of_distinct {conf : ControllerConf} {clients : GoMap GoString OidcClientYaml}
    (hconf : conf.getModuleConf (lit "oidc") ext.decodeOidc ∅ = .ok clients)
    (hdistinct : DistinctDomains clients) :
    CompletesLogins ext newProvider api namesp conf clients := by
  intro clientOrder mod used used' hrun name clientConf hname
  have hord := clientOrder.ranges clients
  have hmem := hord.mem_iff.mpr hname
  obtain ⟨hall, clients', domains', rfl, hclients, hdomains⟩ :=
    loadClients_tables ((moduleOidc_loop hconf).mp hrun)
  obtain ⟨client, hclient⟩ := Option.ne_none_iff_exists'.mp (hall _ hmem)
  -- the entry is the only one with its name, so the only one with its domain
  have honly : ∀ e ∈ clientOrder.order clients, e.1 = name → e = (name, clientConf) := by
    rintro ⟨name', conf'⟩ hmem' rfl
    have hlook := hord.mem_iff.mp hmem'
    rw [hname, Option.some.injEq] at hlook
    rw [hlook]
  have hbyName : visited (fun e => e.1) name (clientOrder.order clients)
      = some (name, clientConf) :=
    @visited_of_unique (fun e => e.1) _ (name, clientConf) hmem honly
  have hbyDomain : visited (fun e => e.2.callbackDomain) clientConf.callbackDomain
      (clientOrder.order clients) = some (name, clientConf) := by
    refine @visited_of_unique (fun e => e.2.callbackDomain) _ (name, clientConf) hmem ?_
    intro e he hdomain
    exact honly e he (hdistinct e.1 name e.2 clientConf (hord.mem_iff.mp he) hname hdomain)
  refine ⟨client, domains', hclient, rfl, ?_, ?_⟩
  · intro ingress hne hvalue used₁
    have hlook : clients'.lookup name = some client := by
      rw [hclients name, hbyName]
      exact hclient
    have hfull : ¬ name.isEmpty = true := fun h => hne (List.isEmpty_iff.mp h)
    unfold oidcModule
    dsimp only
    rw [hvalue]
    dsimp only
    rw [if_neg hfull, hlook]
    rfl
  · intro r hget hhost hpath
    unfold callbackClient
    rw [if_pos ⟨hget, hpath⟩, hhost, hdomains, hbyDomain]
    exact hclient

/-- A request to a redirect URL. -/
def callbackRequest (domain : GoString) : Request where
  method := lit "GET"
  host := domain
  url := ⟨[], [], callbackPath, [], [], []⟩
  header := ∅
  tls := true
  remoteAddr := lit "10.0.0.9:80"
  contentLength := 0

/-- In some order the login of the first of two clients on one domain is completed by the
second. -/
theorem distinct_of_completes {conf : ControllerConf} {clients : GoMap GoString OidcClientYaml}
    (hconf : conf.getModuleConf (lit "oidc") ext.decodeOidc ∅ = .ok clients)
    (haccepted : ∃ clientOrder mod used used',
      (moduleOidc ext newProvider clientOrder namesp conf).run api used = .ok (mod, used'))
    (h : CompletesLogins ext newProvider api namesp conf clients) : DistinctDomains clients := by
  intro name name' clientConf clientConf' hname hname' hdomain
  -- the sections describe clients in whatever order they are read
  obtain ⟨order₀, _, _, _, hrun₀⟩ := haccepted
  obtain ⟨hall₀, _⟩ := loadClients_tables ((moduleOidc_loop hconf).mp hrun₀)
  have hdescribed : ∀ name clientConf, clients.lookup name = some clientConf →
      clientFor ext newProvider api namesp name clientConf ≠ none := fun name clientConf hlook =>
    hall₀ (name, clientConf) ((order₀.ranges clients).mem_iff.mpr hlook)
  -- visit the second one last
  obtain ⟨clientOrder, before, hlast⟩ := GoMap.exists_choice_last hname'
  have hall : ∀ e ∈ clientOrder.order clients,
      clientFor ext newProvider api namesp e.1 e.2 ≠ none := fun e he =>
    hdescribed e.1 e.2 ((clientOrder.ranges clients).mem_iff.mp he)
  obtain ⟨mod, used', hload⟩ := loadClients_accepts hall ∅ ∅ []
  have hrun : (moduleOidc ext newProvider clientOrder namesp conf).run api [] = .ok (mod, used') :=
    (moduleOidc_loop hconf).mpr hload
  obtain ⟨client, domains, hclient, hmod, _, hcallback⟩ :=
    h clientOrder mod [] used' hrun name clientConf hname
  obtain ⟨_, clients', domains', rfl, _, hdomains⟩ := loadClients_tables hload
  cases hmod
  have hshown := hdomains clientConf'.callbackDomain
  rw [hlast] at hshown
  unfold visited at hshown
  rw [latest_concat, if_pos (beq_self_eq_true _)] at hshown
  have hanswers := hcallback (callbackRequest clientConf.callbackDomain) rfl rfl rfl
  unfold callbackClient at hanswers
  rw [if_pos ⟨rfl, rfl⟩] at hanswers
  change domains.lookup clientConf.callbackDomain = some client at hanswers
  rw [hdomain, hshown] at hanswers
  calc name = client.name := (clientFor_fields hclient).1.symm
    _ = name' := (clientFor_fields hanswers).1

/-- **Logins are completed by the clients that started them exactly where no two clients
share a callback domain**, for every configuration `ModuleOidc` accepts. -/
theorem logins_completed_iff {conf : ControllerConf} {clients : GoMap GoString OidcClientYaml}
    (hconf : conf.getModuleConf (lit "oidc") ext.decodeOidc ∅ = .ok clients)
    (haccepted : ∃ clientOrder mod used used',
      (moduleOidc ext newProvider clientOrder namesp conf).run api used = .ok (mod, used')) :
    CompletesLogins ext newProvider api namesp conf clients ↔ DistinctDomains clients :=
  ⟨distinct_of_completes hconf haccepted, completes_of_distinct hconf⟩

end

/-! ## §4. Two clients. -/

/-- The section of a client whose callbacks arrive at the domain. -/
def clientSection (domain secretName : GoString) : OidcClientYaml where
  issuerUrl := lit "https://issuer"
  callbackDomain := domain
  cookieDomain := lit "org"
  clientSecretName := secretName
  authExpiration := []

/-- Two clients, `a` and `b`, with secrets of their own. -/
def twoClients (domain domain' : GoString) : GoMap GoString OidcClientYaml :=
  ((∅ : GoMap GoString OidcClientYaml).insert (lit "a")
    (clientSection domain (lit "a-secret"))).insert
    (lit "b") (clientSection domain' (lit "b-secret"))

theorem twoClients_ranges (domain domain' : GoString) :
    GoMap.Ranges (twoClients domain domain') [(lit "a", clientSection domain (lit "a-secret")),
      (lit "b", clientSection domain' (lit "b-secret"))] :=
  (GoMap.ranges_insert_empty _ _).insert rfl _

/-- The library, for a file whose section lists the given clients. -/
def Ext.configuring (clients : GoMap GoString OidcClientYaml) : Ext :=
  { Ext.small with decodeOidc := fun _ => .ok clients }

/-- A provider that can be discovered. -/
def smallProvider : NewProvider := fun _ => .ok (lit "https://issuer/authorize")

/-- Every Secret exists, and its key differs from that of the others. -/
def Api.keyed : Api :=
  { Api.small with getSecret := fun n => .ok ⟨Finmap.singleton (lit "JWT_SECRET") n.name⟩ }

/-- A configuration with a section for the module. -/
def oidcConf : ControllerConf where
  upstreamServiceName := none
  disableStatusUpdate := false
  tcpProxy := []
  defaultTlsSecret := []
  generalProxy := ⟨[], []⟩
  ingressProxy := ⟨4096⟩
  modules := []
  moduleConfigs := Finmap.singleton (lit "oidc") (lit "clients")
  usedSecrets := []

/-- The client such a section describes. -/
def describedClient (domain name secretName : GoString) : ClientConfig where
  name := name
  idTokenVerifier := (lit "https://issuer", [])
  oauth2Config := ⟨[], [], lit "https://issuer/authorize",
    lit "https://" ++ domain ++ callbackPath, scopes⟩
  callbackDomain := domain
  cookieDomain := lit "org"
  expiration := 0
  encryptionKey := secretName

/-- Two clients on distinct domains complete their logins. -/
theorem logins_completed_two :
    CompletesLogins (Ext.configuring (twoClients (lit "a.org") (lit "b.org"))) smallProvider
      Api.keyed (lit "ns") oidcConf (twoClients (lit "a.org") (lit "b.org")) := by
  obtain ⟨clientOrder⟩ := (inferInstance : Nonempty (GoMap.RangeChoice GoString OidcClientYaml))
  let clients := twoClients (lit "a.org") (lit "b.org")
  have hconf : oidcConf.getModuleConf (lit "oidc") (Ext.configuring clients).decodeOidc ∅
      = .ok clients := rfl
  have hentry : ∀ name clientConf, clients.lookup name = some clientConf →
      (name, clientConf) = (lit "a", clientSection (lit "a.org") (lit "a-secret"))
        ∨ (name, clientConf) = (lit "b", clientSection (lit "b.org") (lit "b-secret")) := by
    intro name clientConf hlook
    simpa using (twoClients_ranges (lit "a.org") (lit "b.org")).mem_iff.mpr hlook
  have hall : ∀ e ∈ clientOrder.order clients, clientFor (Ext.configuring clients)
      smallProvider Api.keyed (lit "ns") e.1 e.2 ≠ none := by
    rintro ⟨name, clientConf⟩ he
    rcases hentry name clientConf ((clientOrder.ranges clients).mem_iff.mp he) with heq | heq
    · cases heq
      exact Option.some_ne_none _
    · cases heq
      exact Option.some_ne_none _
  obtain ⟨mod, used', hload⟩ := loadClients_accepts hall ∅ ∅ []
  refine (logins_completed_iff hconf ⟨clientOrder, mod, [], used',
    (moduleOidc_loop hconf).mpr hload⟩).mpr ?_
  intro name name' clientConf clientConf' hname hname' hdomain
  rcases hentry name clientConf hname with heq | heq <;>
    rcases hentry name' clientConf' hname' with heq' | heq' <;> cases heq <;> cases heq'
  · rfl
  · exact absurd hdomain (by decide)
  · exact absurd hdomain (by decide)
  · rfl

/-- **The login of one client completed by another**: the configuration is accepted, and the
request to the redirect URL of `a` is handled by `b`. -/
theorem shared_domain_misdirects : ∃ clientOrder mod used' domains,
    (moduleOidc (Ext.configuring (twoClients (lit "login.org") (lit "login.org"))) smallProvider
        clientOrder (lit "ns") oidcConf).run Api.keyed [] = .ok (mod, used')
      ∧ mod.requestMiddleware = .ok (some (.oidcRequest domains))
      ∧ (twoClients (lit "login.org") (lit "login.org")).lookup (lit "a")
          = some (clientSection (lit "login.org") (lit "a-secret"))
      ∧ clientFor (Ext.configuring (twoClients (lit "login.org") (lit "login.org"))) smallProvider
          Api.keyed (lit "ns") (lit "a") (clientSection (lit "login.org") (lit "a-secret"))
          = some (describedClient (lit "login.org") (lit "a") (lit "a-secret"))
      ∧ callbackClient domains (callbackRequest (lit "login.org"))
          = some (describedClient (lit "login.org") (lit "b") (lit "b-secret")) := by
  let shared := twoClients (lit "login.org") (lit "login.org")
  have hconf : oidcConf.getModuleConf (lit "oidc") (Ext.configuring shared).decodeOidc ∅
      = .ok shared := rfl
  obtain ⟨clientOrder, horder⟩ :=
    (twoClients_ranges (lit "login.org") (lit "login.org")).exists_choice
  let a := describedClient (lit "login.org") (lit "a") (lit "a-secret")
  let b := describedClient (lit "login.org") (lit "b") (lit "b-secret")
  let clients : GoMap GoString ClientConfig :=
    ((∅ : GoMap GoString ClientConfig).insert (lit "a") a).insert (lit "b") b
  let domains : GoMap GoString ClientConfig :=
    ((∅ : GoMap GoString ClientConfig).insert (lit "login.org") a).insert (lit "login.org") b
  refine ⟨clientOrder, oidcModule (Ext.configuring shared) clients domains,
    [⟨lit "ns", lit "a-secret"⟩, ⟨lit "ns", lit "b-secret"⟩], domains,
    (moduleOidc_loop hconf).mpr ?_, rfl, rfl, rfl, rfl⟩
  rw [horder]
  rfl

end SIngress.Modules.Oidc
