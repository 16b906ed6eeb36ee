/-
  SIngress.Modules.OidcProvenance — WHO IS LET IN, AND AFTER WHOSE LOGIN?

  Browsers visit routes with OIDC and the callback, in any order and with any
  cookies and URLs; the provider answers as it likes.  A trace is the list of
  the visits so far, each with the browser that made it.  What is assumed of
  the next visit (`Fair`): a session cookie is one that was issued, and holds
  the identity it was issued for; a browser presents as `_oidc_state` and
  `_oidc_nonce` only what a login gave it; random strings do not repeat.

    • `handleOidcCallback_some` — all that a session of the callback rests on,
    • `vouched_of_traced`       — every session ever issued names an identity that
                                  the provider asserted to its client,
    • `identity_vouched`        — so does the session of every request that is let
                                  through,
    • `login_bound`             — a callback gives a browser a session only for a
                                  login this browser began itself.
-/
import SIngress.Modules.OidcAccess
import SIngress.Modules.OidcLogin

namespace SIngress.Modules.Oidc

open SIngress.Base SIngress.Lib SIngress.Platform SIngress.Config SIngress.Proxy

/-! ## §1. Traces. -/

section

variable (ext : Ext)

/-- The middleware has no valid session for the request: `handleUnauthorized` runs. -/
def isUnauthorized (out : Outcomes) (client : ClientConfig) (r : Request) : Bool :=
  match extractAuthInfo ext client r with
  | .error .cookieNotFound => true
  | .error (.cookieInvalid _) => true
  | .error (.other _) => false
  | .ok info => !validateInfo out client (renewed out client r info).1

/-- The state and the nonce of the login that the middleware begins, if it begins one. -/
def loginBegun (out : Outcomes) (client : ClientConfig) (r : Request) :
    Option (GoString × GoString) :=
  if isUnauthorized ext out client r = true ∧ (r.method = lit "GET" ∨ r.method = lit "HEAD")
      ∧ ¬ ext.isWebSocketUpgrade r.header = true then
    match out.randState, out.randNonce with
    | .ok state, .ok nonce => some (state, nonce)
    | _, _ => none
  else none

/-- The state and the nonce of the login that a visit begins. -/
def Visit.begins : Visit → Option (GoString × GoString)
  | .callback _ _ _ => none
  | .ingress out client c => loginBegun ext out client c.r

/-- The cookies issued in a trace. -/
def issuedIn {β : Type} (t : List (β × Visit)) : List Issued :=
  t.filterMap fun visit => visit.2.issues ext

/-- In the trace this browser began a login with these random strings. -/
def Began {β : Type} (t : List (β × Visit)) (browser : β) (state nonce : GoString) : Prop :=
  ∃ v, (browser, v) ∈ t ∧ v.begins ext = some (state, nonce)

/-- Whose session it is: subject, e-mail, groups and client. -/
def AuthInfo.identity (info : AuthInfo) : GoString × GoString × List GoString × GoString :=
  (info.subject, info.email, info.groups, info.clientName)

/-- Decrypting what was encrypted under the same key gives the identity back. -/
def Restores (out : Outcomes) : Prop :=
  ∀ key info encrypted value data info', out.encrypt key info = .ok encrypted →
    out.serialize encrypted = .ok value → decrypt ext key value = .ok data →
      ext.unmarshalAuthInfo data = .ok info' → AuthInfo.identity info' = AuthInfo.identity info

/-- **What is assumed of a visit** after the trace `t`. -/
def Fair {β : Type} (t : List (β × Visit)) (browser : β) : Visit → Prop
  | .callback out _ c => Restores ext out
      ∧ (∀ state, ext.cookie c.r.header cookieState = some state →
          ∃ nonce, Began ext t browser state nonce)
      ∧ (∀ nonce, ext.cookie c.r.header cookieNonce = some nonce →
          ∃ state, Began ext t browser state nonce)
  | .ingress out client c => Restores ext out ∧ Genuine ext (issuedIn ext t) client c.r
      ∧ (∀ state nonce, loginBegun ext out client c.r = some (state, nonce) →
          ∀ b state' nonce', Began ext t b state' nonce' → state' ≠ state ∧ nonce' ≠ nonce)

/-- A list of visits, each fair after the ones before it. -/
inductive Traced {β : Type} : List (β × Visit) → Prop
  | nil : Traced []
  | visit {t : List (β × Visit)} {browser : β} {v : Visit} :
      Traced t → Fair ext t browser v → Traced (t ++ [(browser, v)])

/-- **An assertion of the provider**: in this visit the client verified this ID token, which
the provider gave for the code in the URL, or for the refresh token of the session. -/
inductive Visit.Asserts : Visit → ClientConfig → IDToken → Prop
  | login {out : Outcomes} {client : ClientConfig} {c : RequestContext} {token : Token}
      {idToken : IDToken} :
      out.exchange client.oauth2Config (ext.queryGet c.r.url.rawQuery (lit "code")) = .ok token →
      verifyToken out client token = .ok idToken →
      Visit.Asserts (.callback out client c) client idToken
  | renewal {out : Outcomes} {client : ClientConfig} {c : RequestContext} {info : AuthInfo}
      {token : Token} {idToken : IDToken} :
      extractAuthInfo ext client c.r = .ok info →
      out.refreshToken client.oauth2Config
          ⟨info.accessToken, info.refreshToken, info.tokenExpiry, none⟩ = .ok token →
      verifyToken out client token = .ok idToken →
      Visit.Asserts (.ingress out client c) client idToken

end

/-- The session is one of the client for whom the ID token was issued. -/
def Describes (client : ClientConfig) (idToken : IDToken) (info : AuthInfo) : Prop :=
  ∃ claims, idToken.claims = .ok claims
    ∧ AuthInfo.identity info = (idToken.subject, claims.email, claims.groups, client.name)

/-- The ingress lists nobody, or the e-mail or one of the groups. -/
def Admitted (ingress : OidcIngressConfig) (claims : Claims) : Prop :=
  (ingress.allowedEmails = none ∧ ingress.allowedGroups = none)
    ∨ (∃ emails, ingress.allowedEmails = some emails ∧ claims.email ∈ emails)
    ∨ ∃ groups, ingress.allowedGroups = some groups ∧ ∃ group ∈ claims.groups, group ∈ groups

/-! ## §2. What the middleware does with a request. -/

section

variable {ext : Ext} {out : Outcomes} {client : ClientConfig} {c : RequestContext}

/-- Without a valid session the closure asks for one; a renewed session that is not valid
leaves its cookie for a response of the upstream, which there will not be. -/
theorem oidcIngress_unauthorized (h : isUnauthorized ext out client c.r = true)
    (ingress : OidcIngressConfig) (next : NextFunc) :
    ∃ cookies, oidcIngress ext out client ingress next c
      = handleUnauthorized ext out client { c with responseCookies := cookies } := by
  unfold isUnauthorized at h
  simp only [oidcIngress, get_bind_run]
  cases hinfo : extractAuthInfo ext client c.r with
  | error e =>
      rw [hinfo] at h
      cases e with
      | cookieNotFound => exact ⟨c.responseCookies, rfl⟩
      | cookieInvalid err => exact ⟨c.responseCookies, rfl⟩
      | other err => cases h
  | ok info =>
      rw [hinfo] at h
      have hinvalid : ¬ validateInfo out client (renewed out client c.r info).1 = true := by
        simpa using h
      dsimp only
      rw [bind_run, handleRenewingAuthInfo_run]
      dsimp only
      rw [if_pos hinvalid]
      exact ⟨_, rfl⟩

theorem handleUnauthorized_startLogin (h : (c.r.method = lit "GET" ∨ c.r.method = lit "HEAD")
    ∧ ¬ ext.isWebSocketUpgrade c.r.header = true) :
    ∃ header, handleUnauthorized ext out client c
      = startLogin ext out client (withHeader c header) := by
  simp only [handleUnauthorized, get_bind_run]
  rw [if_pos h]
  split_ifs
  · -- the session cookie that was refused is cleared first
    obtain ⟨header, hclear⟩ := @clearHttpCookie_run ext client (getCookieName client) c
    rw [bind_run, hclear]
    exact ⟨header, rfl⟩
  · exact ⟨c.w.header, rfl⟩

theorem drawn_of_begun {state nonce : GoString}
    (h : loginBegun ext out client c.r = some (state, nonce)) :
    out.randState = .ok state ∧ out.randNonce = .ok nonce := by
  unfold loginBegun at h
  split_ifs at h
  cases hstate : out.randState with
  | error err =>
      rw [hstate] at h
      cases h
  | ok s =>
      cases hnonce : out.randNonce with
      | error err =>
          rw [hstate, hnonce] at h
          cases h
      | ok n =>
          rw [hstate, hnonce] at h
          cases h
          exact ⟨rfl, rfl⟩

/-- **The login that is begun**: what comes next is not called, and the response hands the
browser the state and the nonce as cookies and sends it to the provider with both. -/
theorem oidcIngress_begins {state nonce : GoString}
    (h : loginBegun ext out client c.r = some (state, nonce)) (ingress : OidcIngressConfig)
    (next : NextFunc) :
    ∃ after lines, oidcIngress ext out client ingress next c = (.ok (), after)
      ∧ Redirected c after
        (ext.redirectLocation c.r (ext.authCodeURL client.oauth2Config state nonce))
        (lines ++ serializedCookies ext (loginCookies ext client c.r state nonce)) := by
  obtain ⟨hstate, hnonce⟩ := drawn_of_begun h
  unfold loginBegun at h
  split_ifs at h with hstarts
  obtain ⟨cookies, hrefused⟩ := oidcIngress_unauthorized hstarts.1 ingress next
  obtain ⟨header, hstart⟩ := @handleUnauthorized_startLogin ext out client
    { c with responseCookies := cookies } hstarts.2
  obtain ⟨after, s, n, hafter, hcookies, hredirected⟩ := @started_of_random ext out client
    (withHeader { c with responseCookies := cookies } header) state nonce hstate hnonce
  -- the cookies say which strings were drawn
  obtain ⟨rfl, rfl⟩ : state = s ∧ nonce = n := by
    simpa [loginCookies] using hcookies
  exact ⟨after, _, hrefused.trans (hstart.trans hafter), hredirected⟩

/-- Any other request makes the closure begin no login: it hands the request on, or answers
it with an error page, or fails before anything is written. -/
theorem oidcIngress_begins_none (h : loginBegun ext out client c.r = none)
    (ingress : OidcIngressConfig) (next : NextFunc) :
    (∃ c₁, oidcIngress ext out client ingress next c = next c₁)
      ∨ (∃ status msg c₁, oidcIngress ext out client ingress next c
          = handleErrorPage ext out status msg c₁)
      ∨ ∃ err c₁, oidcIngress ext out client ingress next c = (.error (.err err), c₁)
          ∧ c₁.w.calls = c.w.calls := by
  by_cases hunauthorized : isUnauthorized ext out client c.r = true
  · -- no login is begun where it could not be repeated, or where nothing random is drawn
    obtain ⟨cookies, hrefused⟩ := oidcIngress_unauthorized hunauthorized ingress next
    rw [hrefused]
    by_cases hrepeatable : (c.r.method = lit "GET" ∨ c.r.method = lit "HEAD")
        ∧ ¬ ext.isWebSocketUpgrade c.r.header = true
    · obtain ⟨header, hstart⟩ := @handleUnauthorized_startLogin ext out client
        { c with responseCookies := cookies } hrepeatable
      rw [hstart]
      unfold loginBegun at h
      rw [if_pos ⟨hunauthorized, hrepeatable⟩] at h
      unfold startLogin
      cases hstate : out.randState with
      | error err => exact Or.inr (Or.inr ⟨_, _, rfl, rfl⟩)
      | ok state =>
          cases hnonce : out.randNonce with
          | error err => exact Or.inr (Or.inr ⟨_, _, rfl, rfl⟩)
          | ok nonce =>
              rw [hstate, hnonce] at h
              cases h
    · refine Or.inr (Or.inl ⟨401, lit "OIDC authorization required", ?_⟩)
      simp only [handleUnauthorized, get_bind_run]
      rw [if_neg hrepeatable]
      split_ifs
      · obtain ⟨header, hclear⟩ := @clearHttpCookie_run ext client (getCookieName client)
          { c with responseCookies := cookies }
        rw [bind_run, hclear]
        exact ⟨_, rfl⟩
      · exact ⟨_, rfl⟩
  · unfold isUnauthorized at hunauthorized
    simp only [oidcIngress, get_bind_run]
    cases hinfo : extractAuthInfo ext client c.r with
    | error e =>
        cases e with
        | other err => exact Or.inr (Or.inr ⟨_, _, rfl, rfl⟩)
        | cookieNotFound => simp [hinfo] at hunauthorized
        | cookieInvalid err => simp [hinfo] at hunauthorized
    | ok info =>
        rw [hinfo] at hunauthorized
        have hvalid : validateInfo out client (renewed out client c.r info).1 = true := by
          simpa using hunauthorized
        dsimp only
        rw [bind_run, handleRenewingAuthInfo_run]
        dsimp only
        rw [if_neg (not_not.mpr hvalid)]
        split_ifs
        · exact Or.inl ⟨_, rfl⟩
        · exact Or.inr (Or.inl ⟨403, _, _, rfl⟩)

/-! ## §3. What a session rests on. -/

theorem liftError_bind_ok {α β : Type} {x : Except GoError α} {k : α → Serve β} {b : β}
    {c' : RequestContext} (h : (liftError x >>= k) c = (.ok b, c')) :
    ∃ a, x = .ok a ∧ k a c = (.ok b, c') := by
  cases x with
  | error err => cases congrArg Prod.fst h
  | ok a => exact ⟨a, rfl, h⟩

theorem describes_tokenInfo {token : Token} {idToken : IDToken} {authAt : Int} {info : AuthInfo}
    (h : tokenInfo client token idToken authAt = .ok info) : Describes client idToken info := by
  obtain ⟨claims, hclaims, h⟩ := bind_eq_ok.mp h
  cases h
  exact ⟨claims, context_eq_ok.mp hclaims, rfl⟩

/-- **Everything a session of the callback rests on**: the state in the URL is that of the
cookie, the provider exchanged the code, the client verified the ID token, and the nonce in
it is that of the cookie. -/
theorem handleOidcCallback_some {info : AuthInfo} {c' : RequestContext}
    (h : handleOidcCallback ext out client c = (.ok (some info), c')) :
    ∃ token idToken,
      ext.cookie c.r.header cookieState = some (ext.queryGet c.r.url.rawQuery (lit "state"))
      ∧ out.exchange client.oauth2Config (ext.queryGet c.r.url.rawQuery (lit "code")) = .ok token
      ∧ verifyToken out client token = .ok idToken
      ∧ ext.cookie c.r.header cookieNonce = some idToken.nonce
      ∧ Describes client idToken info := by
  -- a refused callback leaves no session
  have hpage : ∀ msg, (do badRequest ext out msg; pure (none : Option AuthInfo)) c
      ≠ (.ok (some info), c') := by
    intro msg heq
    rw [bind_run] at heq
    rcases hrun : badRequest ext out msg c with ⟨e | u, c₁⟩
    · rw [hrun] at heq
      cases heq
    · rw [hrun] at heq
      cases heq
  simp only [handleOidcCallback, get_bind_run] at h
  cases hstate : ext.cookie c.r.header cookieState with
  | none =>
      rw [hstate] at h
      exact absurd h (hpage _)
  | some state =>
      rw [hstate] at h
      dsimp only at h
      by_cases hsame : ext.queryGet c.r.url.rawQuery (lit "state") = state
      · rw [if_neg (not_not.mpr hsame)] at h
        obtain ⟨token, htoken, h⟩ := liftError_bind_ok h
        simp only [oauthToAuthInfo, get_bind_run] at h
        obtain ⟨idToken, hverified, h⟩ := liftError_bind_ok h
        rw [if_pos trivial] at h
        cases hnonce : ext.cookie c.r.header cookieNonce with
        | none =>
            rw [hnonce] at h
            exact absurd h (hpage _)
        | some nonce =>
            rw [hnonce] at h
            dsimp only at h
            by_cases hmatch : idToken.nonce = nonce
            · rw [if_neg (not_not.mpr hmatch)] at h
              obtain ⟨info', hinfo, h⟩ := liftError_bind_ok h
              cases h
              refine ⟨token, idToken, ?_, context_eq_ok.mp htoken, hverified, ?_,
                describes_tokenInfo hinfo⟩
              · rw [hsame]
              · rw [hmatch]
            · rw [if_pos hmatch] at h
              exact absurd h (hpage _)
      · rw [if_pos hsame] at h
        exact absurd h (hpage _)

/-- What a login issues. -/
theorem issuedByCallback_vouched {i : Issued} (h : issuedByCallback ext out client c = some i) :
    i.key = client.encryptionKey
      ∧ (∃ c', handleOidcCallback ext out client c = (.ok (some i.info), c'))
      ∧ ∃ encrypted, out.encrypt i.key i.info = .ok encrypted
        ∧ out.serialize encrypted = .ok i.value := by
  unfold issuedByCallback at h
  rcases hrun : handleOidcCallback ext out client c with ⟨e | _ | info, c'⟩
  · rw [hrun] at h
    cases h
  · rw [hrun] at h
    cases h
  · rw [hrun] at h
    dsimp only at h
    cases hcookie : generateJwtCookie out client c'.r info with
    | error err =>
        rw [hcookie] at h
        cases h
    | ok cookie =>
        rw [hcookie] at h
        cases h
        exact ⟨rfl, ⟨c', rfl⟩, generateJwtCookie_value hcookie⟩

/-- A renewal issues the session the middleware goes on with. -/
theorem issuedByIngress_renewed {i : Issued} (h : issuedByIngress ext out client c = some i) :
    ∃ info, extractAuthInfo ext client c.r = .ok info
      ∧ i.info = (renewed out client c.r info).1 := by
  unfold issuedByIngress at h
  split at h
  · next presented info _ hinfo =>
      refine ⟨info, hinfo, ?_⟩
      split at h
      · next newInfo cookie hrenewed =>
          cases h
          rw [hrenewed]
      · cases h
  · cases h

/-- **The session the middleware goes on with** is the one it read, or one of an ID token that
the provider gave for its refresh token. -/
theorem renewed_cases (r : Request) (info : AuthInfo) :
    renewed out client r info = (info, none)
      ∨ ∃ cookie token idToken, renewAuthInfo out client r info
            = .ok ((renewed out client r info).1, cookie)
          ∧ (renewed out client r info).2 = some cookie
          ∧ out.refreshToken client.oauth2Config
              ⟨info.accessToken, info.refreshToken, info.tokenExpiry, none⟩ = .ok token
          ∧ verifyToken out client token = .ok idToken
          ∧ Describes client idToken (renewed out client r info).1 := by
  unfold renewed
  split_ifs
  · exact Or.inl rfl
  · exact Or.inl rfl
  · cases hrenew : renewAuthInfo out client r info with
    | error err => exact Or.inl rfl
    | ok p =>
        obtain ⟨newInfo, cookie⟩ := p
        obtain ⟨token, idToken, claims, _, _, htoken, hverified, hclaims, rfl, _, _⟩ :=
          renewAuthInfo_eq_ok.mp ⟨cookie, hrenew⟩
        exact Or.inr ⟨cookie, token, idToken, rfl, rfl, htoken, hverified, claims, hclaims, rfl⟩

end

/-! ## §4. Every session names an asserted identity. -/

section

variable {β : Type} {ext : Ext} {t : List (β × Visit)} {browser : β} {v : Visit}

/-- In the trace, a client of this key was given an ID token for this session. -/
def VouchedFor (ext : Ext) (visits : List Visit) (key : GoString) (info : AuthInfo) : Prop :=
  ∃ v ∈ visits, ∃ client idToken, v.Asserts ext client idToken ∧ client.encryptionKey = key
    ∧ Describes client idToken info

theorem VouchedFor.mono {visits visits' : List Visit} {key : GoString} {info : AuthInfo}
    (hsub : visits ⊆ visits') (h : VouchedFor ext visits key info) :
    VouchedFor ext visits' key info := by
  obtain ⟨v, hv, hrest⟩ := h
  exact ⟨v, hsub hv, hrest⟩

/-- It is the identity that counts. -/
theorem VouchedFor.congr {visits : List Visit} {key : GoString} {info info' : AuthInfo}
    (hsame : AuthInfo.identity info' = AuthInfo.identity info)
    (h : VouchedFor ext visits key info) : VouchedFor ext visits key info' := by
  obtain ⟨v, hv, client, idToken, hasserts, hkey, claims, hclaims, hidentity⟩ := h
  exact ⟨v, hv, client, idToken, hasserts, hkey, claims, hclaims, hsame.trans hidentity⟩

/-- **The invariant of a trace**: a cookie that can be read holds the identity it was issued
for, and somebody vouched for that. -/
structure Vouched (ext : Ext) (t : List (β × Visit)) : Prop where
  readable : ∀ i ∈ issuedIn ext t, ∀ data info, decrypt ext i.key i.value = .ok data →
    ext.unmarshalAuthInfo data = .ok info → AuthInfo.identity info = AuthInfo.identity i.info
  vouched : ∀ i ∈ issuedIn ext t, VouchedFor ext (t.map Prod.snd) i.key i.info

/-- The session of a genuine request was vouched for. -/
theorem Vouched.session (ht : Vouched ext t) {client : ClientConfig} {r : Request}
    (hgen : Genuine ext (issuedIn ext t) client r) {info : AuthInfo}
    (h : extractAuthInfo ext client r = .ok info) :
    VouchedFor ext (t.map Prod.snd) client.encryptionKey info := by
  obtain ⟨value, data, hcookie, hdata, hinfo⟩ := extractAuthInfo_ok h
  obtain ⟨i, hi, hkey, hvalue⟩ := hgen value data hcookie hdata
  rw [← hkey]
  refine (ht.vouched i hi).congr (ht.readable i hi data info ?_ hinfo)
  rw [hkey, hvalue]
  exact hdata

/-- The session the middleware goes on with was vouched for, in this very visit perhaps. -/
theorem Vouched.renewed (ht : Vouched ext t) {out : Outcomes} {client : ClientConfig}
    {c : RequestContext} (hgen : Genuine ext (issuedIn ext t) client c.r) {info : AuthInfo}
    (h : extractAuthInfo ext client c.r = .ok info) :
    VouchedFor ext (t.map Prod.snd ++ [.ingress out client c]) client.encryptionKey
      (Oidc.renewed out client c.r info).1 := by
  rcases @renewed_cases out client c.r info with hsame
    | ⟨cookie, token, idToken, _, _, htoken, hverified, hdescribes⟩
  · rw [hsame]
    exact (ht.session hgen h).mono (List.subset_append_left _ _)
  · exact ⟨.ingress out client c, List.mem_append_right _ List.mem_cons_self, client, idToken,
      .renewal h htoken hverified, rfl, hdescribes⟩

theorem issuedIn_append (t : List (β × Visit)) (browser : β) (v : Visit) :
    issuedIn ext (t ++ [(browser, v)]) = issuedIn ext t ++ (v.issues ext).toList := by
  unfold issuedIn
  rw [List.filterMap_append]
  cases hissues : v.issues ext with
  | none => simp [hissues]
  | some i => simp [hissues]

/-- **What a fair visit issues was vouched for.** -/
theorem vouched_of_issues (ht : Vouched ext t) (hfair : Fair ext t browser v) {i : Issued}
    (h : v.issues ext = some i) :
    (∀ data info, decrypt ext i.key i.value = .ok data → ext.unmarshalAuthInfo data = .ok info →
      AuthInfo.identity info = AuthInfo.identity i.info)
    ∧ VouchedFor ext (t.map Prod.snd ++ [v]) i.key i.info := by
  have hmem : v ∈ t.map Prod.snd ++ [v] := List.mem_append_right _ List.mem_cons_self
  cases v with
  | callback out client c =>
      obtain ⟨hrestores, -, -⟩ := hfair
      obtain ⟨hkey, ⟨c', hrun⟩, encrypted, henc, hser⟩ := issuedByCallback_vouched h
      obtain ⟨token, idToken, _, htoken, hverified, _, hdescribes⟩ := handleOidcCallback_some hrun
      refine ⟨fun data info => hrestores _ _ _ _ data info henc hser, ?_⟩
      exact ⟨_, hmem, client, idToken, .login htoken hverified, hkey.symm, hdescribes⟩
  | ingress out client c =>
      obtain ⟨hrestores, hgen, -⟩ := hfair
      obtain ⟨_, _, _, _, hkey, _, _, encrypted, henc, hser⟩ := issuedByIngress_some h
      obtain ⟨info, hinfo, hrenewed⟩ := issuedByIngress_renewed h
      refine ⟨fun data info => hrestores _ _ _ _ data info henc hser, ?_⟩
      rw [hkey, hrenewed]
      exact ht.renewed hgen hinfo

/-- **Every session of a trace was vouched for.** -/
theorem vouched_of_traced (ht : Traced ext t) : Vouched ext t := by
  induction ht with
  | nil => exact ⟨fun _ hi => absurd hi List.not_mem_nil, fun _ hi => absurd hi List.not_mem_nil⟩
  | @visit t browser v _ hfair ih =>
      -- a cookie of the longer trace is an old one, or the one of the last visit
      have hcases : ∀ i ∈ issuedIn ext (t ++ [(browser, v)]),
          i ∈ issuedIn ext t ∨ v.issues ext = some i := by
        intro i hi
        rw [issuedIn_append, List.mem_append, Option.mem_toList] at hi
        exact hi
      have hmap : (t ++ [(browser, v)]).map Prod.snd = t.map Prod.snd ++ [v] := List.map_append
      refine ⟨fun i hi => ?_, fun i hi => ?_⟩
      · rcases hcases i hi with hold | hnew
        · exact ih.readable i hold
        · exact (vouched_of_issues ih hfair hnew).1
      · rw [hmap]
        rcases hcases i hi with hold | hnew
        · exact (ih.vouched i hold).mono (List.subset_append_left _ _)
        · exact (vouched_of_issues ih hfair hnew).2

theorem admitted_of_checkAccess {ingress : OidcIngressConfig} {info : AuthInfo} {claims : Claims}
    (hemail : info.email = claims.email) (hgroups : info.groups = claims.groups)
    (h : checkAccess ingress info = true) : Admitted ingress claims := by
  obtain ⟨allowedGroups, allowedEmails⟩ := ingress
  unfold checkAccess at h
  rw [hemail, hgroups] at h
  split_ifs at h with hopen hlisted
  · simp only [Bool.and_eq_true, Option.isNone_iff_eq_none] at hopen
    exact Or.inl hopen
  · refine Or.inr (Or.inl ?_)
    cases allowedEmails with
    | none => simp at hlisted
    | some emails => exact ⟨emails, rfl, by simpa using hlisted⟩
  · refine Or.inr (Or.inr ?_)
    cases allowedGroups with
    | none => simp at h
    | some groups => exact ⟨groups, rfl, by simpa using h⟩

/-- **Only the provider lets somebody in.**  After any trace of fair visits (`Fair`), a
request of a fair visit that the middleware hands on presents a session whose identity, as it is
or as renewed, the provider asserted: in the trace or in this very visit, a client of this name
and key verified an ID token that describes the session, and whose e-mail or groups the ingress
admits. -/
theorem identity_vouched (ht : Traced ext t) {out : Outcomes} {client : ClientConfig}
    {c : RequestContext} (hfair : Fair ext t browser (.ingress out client c))
    {ingress : OidcIngressConfig} (hnext : CallsNext (oidcIngress ext out client ingress) c) :
    ∃ info, extractAuthInfo ext client c.r = .ok info
      ∧ ∃ v ∈ t.map Prod.snd ++ [.ingress out client c], ∃ client' idToken claims,
        v.Asserts ext client' idToken ∧ Describes client' idToken (renewed out client c.r info).1
        ∧ client'.name = client.name ∧ client'.encryptionKey = client.encryptionKey
        ∧ idToken.claims = .ok claims ∧ Admitted ingress claims := by
  obtain ⟨info, hinfo, hvalid, haccess⟩ := sessionGrants_of_callsNext hnext
  obtain ⟨-, hgen, -⟩ := hfair
  have hvouched : VouchedFor ext (t.map Prod.snd ++ [.ingress out client c]) client.encryptionKey
      (renewed out client c.r info).1 := (vouched_of_traced ht).renewed hgen hinfo
  obtain ⟨v, hv, client', idToken, hasserts, hkey, claims, hclaims, hidentity⟩ := hvouched
  have hdescribes : Describes client' idToken (renewed out client c.r info).1 :=
    ⟨claims, hclaims, hidentity⟩
  unfold AuthInfo.identity at hidentity
  simp only [Prod.mk.injEq] at hidentity
  obtain ⟨_, hemail, hgroups, hname⟩ := hidentity
  -- a session of another client is not valid
  have hclient : (renewed out client c.r info).1.clientName = client.name := by
    by_contra hforeign
    rw [validateInfo_foreign hforeign] at hvalid
    cases hvalid
  exact ⟨info, hinfo, v, hv, client', idToken, claims, hasserts, hdescribes,
    hname.symm.trans hclient, hkey, hclaims, admitted_of_checkAccess hemail hgroups haccess⟩

/-! ## §5. Whose login a callback completes. -/

theorem began_append {b : β} {state nonce : GoString} :
    Began ext (t ++ [(browser, v)]) b state nonce ↔
      Began ext t b state nonce ∨ b = browser ∧ v.begins ext = some (state, nonce) := by
  unfold Began
  constructor
  · rintro ⟨v', hmem, hbegins⟩
    rcases List.mem_append.mp hmem with hold | hnew
    · exact Or.inl ⟨v', hold, hbegins⟩
    · cases List.mem_singleton.mp hnew
      exact Or.inr ⟨rfl, hbegins⟩
  · rintro (⟨v', hold, hbegins⟩ | ⟨rfl, hbegins⟩)
    · exact ⟨v', List.mem_append_left _ hold, hbegins⟩
    · exact ⟨v, List.mem_append_right _ List.mem_cons_self, hbegins⟩

/-- The strings of a login that a fair visit begins are new. -/
theorem fresh_of_fair (hfair : Fair ext t browser v) {state nonce : GoString}
    (h : v.begins ext = some (state, nonce)) {b : β} {state' nonce' : GoString}
    (hbegan : Began ext t b state' nonce') : state' ≠ state ∧ nonce' ≠ nonce := by
  cases v with
  | callback out client c => cases h
  | ingress out client c => exact hfair.2.2 state nonce h b state' nonce' hbegan

/-- **A state belongs to one browser, and so does a nonce.** -/
theorem browser_of_traced (ht : Traced ext t) :
    ∀ b b' state state' nonce nonce', Began ext t b state nonce → Began ext t b' state' nonce' →
      state = state' ∨ nonce = nonce' → b = b' := by
  induction ht with
  | nil =>
      rintro b b' state state' nonce nonce' ⟨v, hmem, _⟩
      cases hmem
  | @visit t browser v _ hfair ih =>
      intro b b' state state' nonce nonce' hb hb' hsame
      rcases began_append.mp hb with hold | ⟨rfl, hnew⟩
      · rcases began_append.mp hb' with hold' | ⟨rfl, hnew'⟩
        · exact ih b b' state state' nonce nonce' hold hold' hsame
        · obtain ⟨hstate, hnonce⟩ := fresh_of_fair hfair hnew' hold
          exact absurd hsame (not_or.mpr ⟨hstate, hnonce⟩)
      · rcases began_append.mp hb' with hold' | ⟨rfl, hnew'⟩
        · obtain ⟨hstate, hnonce⟩ := fresh_of_fair hfair hnew hold'
          exact absurd hsame (not_or.mpr ⟨hstate.symm, hnonce.symm⟩)
        · rfl

/-- **A login is completed by the browser that began it.**  After any trace of fair visits
(`Fair`), a fair callback that gives a browser a session answers logins of that browser alone:
it began a login with the state in the URL and one with the nonce in the ID token, and no other
browser began either.  The identity of the session is the one in that ID token. -/
theorem login_bound (ht : Traced ext t) {out : Outcomes} {client : ClientConfig}
    {c : RequestContext} (hfair : Fair ext t browser (.callback out client c)) {i : Issued}
    (h : issuedByCallback ext out client c = some i) :
    ∃ token idToken,
      out.exchange client.oauth2Config (ext.queryGet c.r.url.rawQuery (lit "code")) = .ok token
      ∧ verifyToken out client token = .ok idToken ∧ Describes client idToken i.info
      ∧ (∃ nonce, Began ext t browser (ext.queryGet c.r.url.rawQuery (lit "state")) nonce)
      ∧ (∃ state, Began ext t browser state idToken.nonce)
      ∧ ∀ b state nonce, Began ext t b state nonce →
          state = ext.queryGet c.r.url.rawQuery (lit "state") ∨ nonce = idToken.nonce →
          b = browser := by
  obtain ⟨-, hstates, hnonces⟩ := hfair
  obtain ⟨-, ⟨c', hrun⟩, -⟩ := issuedByCallback_vouched h
  obtain ⟨token, idToken, hstate, htoken, hverified, hnonce, hdescribes⟩ :=
    handleOidcCallback_some hrun
  obtain ⟨nonce₀, hbegan⟩ := hstates _ hstate
  obtain ⟨state₀, hbegan'⟩ := hnonces _ hnonce
  refine ⟨token, idToken, htoken, hverified, hdescribes, ⟨nonce₀, hbegan⟩, ⟨state₀, hbegan'⟩, ?_⟩
  rintro b state nonce hb (hsame | hsame)
  · exact browser_of_traced ht b browser state _ nonce nonce₀ hb hbegan (Or.inl hsame)
  · exact browser_of_traced ht b browser state state₀ nonce _ hb hbegan' (Or.inr hsame)

end

/-! ## §6. Two browsers log in. -/

/-- `url.Query().Get` where nothing is escaped. -/
def queryValue (query name : GoString) : GoString :=
  match (query.splitOn 0x26).find? fun part => startsWith part (name ++ lit "=") with
  | some part => part.drop (name.length + 1)
  | none => []

/-- The session of a user. -/
def userInfo (user : GoString) : AuthInfo :=
  ⟨user, user ++ lit "@a.org", [], lit "c", 0, 0, [], lit "refresh"⟩

/-- A platform where the session cookie of a user holds the name of the user. -/
def Ext.logins : Ext :=
  { Ext.sessions with
    queryGet := queryValue
    unmarshalAuthInfo := fun user => .ok (userInfo user) }

/-- What the outside does in a visit of the user's browser: the random strings end in the name
of the user, whom the provider knows; only sessions of users can be sealed. -/
def Outcomes.logins (headerOrder : GoMap.RangeChoice GoString (List GoString))
    (user : GoString) : Outcomes :=
  { Outcomes.small headerOrder with
    randState := .ok (lit "state-" ++ user)
    randNonce := .ok (lit "nonce-" ++ user)
    exchange := fun _ code => .ok ⟨[], lit "refresh", 0, some code⟩
    refreshToken := fun _ _ => .ok ⟨[], lit "refresh", 0, some user⟩
    verifyIdToken := fun _ code => .ok ⟨code, lit "nonce-" ++ code, .ok ⟨code ++ lit "@a.org", []⟩⟩
    encrypt := fun _ info => if info = userInfo info.subject then .ok info.subject else .error [] }

theorem restores_logins (headerOrder : GoMap.RangeChoice GoString (List GoString))
    (user : GoString) : Restores Ext.logins (Outcomes.logins headerOrder user) := by
  intro key info encrypted value data info' henc hser hdata hinfo
  cases hinfo
  cases hser
  cases hdata
  by_cases hsession : info = userInfo info.subject
  · have hsealed : (Outcomes.logins headerOrder user).encrypt key info = .ok info.subject :=
      if_pos hsession
    rw [hsealed] at henc
    cases henc
    rw [← hsession]
  · have herr : (Outcomes.logins headerOrder user).encrypt key info = .error [] :=
      if_neg hsession
    rw [herr] at henc
    cases henc

/-- A browser comes back from the provider with the state, and with a code for its user. -/
def answering (user : GoString) : RequestContext :=
  let c := sessionContext ((Finmap.singleton cookieState [lit "state-" ++ user]).insert
    cookieNonce [lit "nonce-" ++ user])
  { c with r := { c.r with
      url := { c.r.url with rawQuery := lit "state=state-" ++ user ++ lit "&code=" ++ user } } }

section

variable (headerOrder : GoMap.RangeChoice GoString (List GoString))

/-- The user's browser asks for a page, and is sent to the provider. -/
def loginVisit (user : GoString) : GoString × Visit :=
  (user, .ingress (Outcomes.logins headerOrder user) sessionClient (sessionContext ∅))

/-- Two browsers begin a login. -/
def loginTrace : List (GoString × Visit) :=
  [loginVisit headerOrder (lit "ann"), loginVisit headerOrder (lit "bob")]

/-- The callback of the first. -/
def loginCallback : Visit :=
  .callback (Outcomes.logins headerOrder (lit "ann")) sessionClient (answering (lit "ann"))

/-- It is given a session. -/
def sessionTrace : List (GoString × Visit) :=
  loginTrace headerOrder ++ [(lit "ann", loginCallback headerOrder)]

theorem loginTrace_traced : Traced Ext.logins (loginTrace headerOrder) := by
  have hann : Traced Ext.logins [loginVisit headerOrder (lit "ann")] := by
    refine .visit (t := []) .nil ⟨restores_logins headerOrder _, ?_, ?_⟩
    · intro presented data hcookie _
      cases hcookie
    · rintro state nonce _ b state' nonce' ⟨v, hmem, _⟩
      cases hmem
  refine .visit hann ⟨restores_logins headerOrder _, ?_, ?_⟩
  · intro presented data hcookie _
    cases hcookie
  · -- the strings of the two logins differ
    rintro state nonce hdrawn b state' nonce' ⟨v, hmem, hbegins⟩
    cases List.mem_singleton.mp hmem
    cases hdrawn
    cases hbegins
    exact ⟨by decide, by decide⟩

theorem loginTrace_began : Began Ext.logins (loginTrace headerOrder) (lit "ann")
    (lit "state-ann") (lit "nonce-ann") :=
  ⟨_, List.mem_cons_self, rfl⟩

theorem loginCallback_fair :
    Fair Ext.logins (loginTrace headerOrder) (lit "ann") (loginCallback headerOrder) := by
  refine ⟨restores_logins headerOrder _, fun state hstate => ?_, fun nonce hnonce => ?_⟩
  · cases hstate
    exact ⟨_, loginTrace_began headerOrder⟩
  · cases hnonce
    exact ⟨_, loginTrace_began headerOrder⟩

theorem sessionTrace_traced : Traced Ext.logins (sessionTrace headerOrder) :=
  .visit (loginTrace_traced headerOrder) (loginCallback_fair headerOrder)

theorem presenting_fair : Fair Ext.logins (sessionTrace headerOrder) (lit "ann")
    (.ingress (Outcomes.logins headerOrder (lit "ann")) sessionClient
      (presenting (lit "ann"))) := by
  refine ⟨restores_logins headerOrder _, ?_, ?_⟩
  · intro presented data hcookie _
    refine ⟨⟨lit "key", lit "ann", userInfo (lit "ann"), .login 0⟩, ?_, rfl,
      Option.some.inj hcookie⟩
    exact List.mem_cons_self
  · rintro state nonce hbegins
    cases hbegins

end

/-- The session of a login lets its browser in, where its user is listed. -/
theorem identity_vouched_login : ∃ headerOrder,
    Traced Ext.logins (sessionTrace headerOrder)
    ∧ CallsNext (oidcIngress Ext.logins (Outcomes.logins headerOrder (lit "ann")) sessionClient
        ⟨none, some [lit "ann@a.org"]⟩) (presenting (lit "ann"))
    ∧ ∃ info, extractAuthInfo Ext.logins sessionClient (presenting (lit "ann")).r = .ok info
      ∧ ∃ v ∈ (sessionTrace headerOrder).map Prod.snd ++ [.ingress
          (Outcomes.logins headerOrder (lit "ann")) sessionClient (presenting (lit "ann"))],
        ∃ client' idToken claims, v.Asserts Ext.logins client' idToken
          ∧ Describes client' idToken (renewed (Outcomes.logins headerOrder (lit "ann"))
            sessionClient (presenting (lit "ann")).r info).1
          ∧ client'.name = lit "c" ∧ client'.encryptionKey = lit "key"
          ∧ idToken.claims = .ok claims ∧ Admitted ⟨none, some [lit "ann@a.org"]⟩ claims := by
  obtain ⟨headerOrder⟩ := (inferInstance : Nonempty (GoMap.RangeChoice GoString (List GoString)))
  have hnext : CallsNext (oidcIngress Ext.logins (Outcomes.logins headerOrder (lit "ann"))
      sessionClient ⟨none, some [lit "ann@a.org"]⟩) (presenting (lit "ann")) :=
    ⟨_, fun next => oidcIngress_pass Ext.logins _ rfl rfl rfl next⟩
  exact ⟨headerOrder, sessionTrace_traced headerOrder, hnext,
    identity_vouched (sessionTrace_traced headerOrder) (presenting_fair headerOrder) hnext⟩

/-- Its callback answers its own login, and not that of the other browser. -/
theorem login_bound_login : ∃ headerOrder i,
    issuedByCallback Ext.logins (Outcomes.logins headerOrder (lit "ann")) sessionClient
        (answering (lit "ann")) = some i
    ∧ Began Ext.logins (loginTrace headerOrder) (lit "bob") (lit "state-bob") (lit "nonce-bob")
    ∧ ∃ token idToken,
      (Outcomes.logins headerOrder (lit "ann")).exchange sessionClient.oauth2Config (lit "ann")
          = .ok token
      ∧ verifyToken (Outcomes.logins headerOrder (lit "ann")) sessionClient token = .ok idToken
      ∧ Describes sessionClient idToken i.info
      ∧ (∃ nonce, Began Ext.logins (loginTrace headerOrder) (lit "ann") (lit "state-ann") nonce)
      ∧ (∃ state, Began Ext.logins (loginTrace headerOrder) (lit "ann") state idToken.nonce)
      ∧ ∀ b state nonce, Began Ext.logins (loginTrace headerOrder) b state nonce →
          state = lit "state-ann" ∨ nonce = idToken.nonce → b = lit "ann" := by
  obtain ⟨headerOrder⟩ := (inferInstance : Nonempty (GoMap.RangeChoice GoString (List GoString)))
  have hissued : issuedByCallback Ext.logins (Outcomes.logins headerOrder (lit "ann"))
      sessionClient (answering (lit "ann"))
        = some ⟨lit "key", lit "ann", userInfo (lit "ann"), .login 0⟩ := rfl
  refine ⟨headerOrder, _, hissued,
    ⟨_, List.mem_cons_of_mem _ List.mem_cons_self, rfl⟩, ?_⟩
  exact login_bound (loginTrace_traced headerOrder) (loginCallback_fair headerOrder) hissued

end SIngress.Modules.Oidc
