/-
  SIngress.Proxy.Indifference — WHAT SERVING A REQUEST DOES NOT DEPEND ON.

  Errors of the outside carry texts: addresses that could not be dialled, what
  the OIDC provider said, why a cookie does not decrypt.  The code passes them
  up with a context and writes them to the log.  And a request is served from a
  table that holds the routes of everybody.  Here one request is served twice,
  in step (`Relates`): the second time with every error text emptied (`mute`)
  and from another table, in which the request finds the same route.

    • `call_same`        — every closure passes the comparison on to the rest of
                           the chain,
    • `serveHTTP_same`   — the two runs do the same,
    • `errors_untold`    — outsides that differ in error texts only cannot be told
                           apart, by the client or by an upstream.
-/
import SIngress.Lib.Relate
import SIngress.Proxy.Serve

namespace SIngress.Proxy

open SIngress.Base SIngress.Lib SIngress.Platform SIngress.Modules

/-! ## §1. The outside without the texts of its errors. -/

/-- The answer of a call without the text of its error. -/
def muteExcept {α : Type} : Except GoError α → Except GoError α
  | .ok a => .ok a
  | .error _ => .error []

/-- The same for a call that returns an error or nothing. -/
def muteOption : Option GoError → Option GoError
  | none => none
  | some _ => some []

def muteIDToken (idToken : IDToken) : IDToken :=
  { idToken with claims := muteExcept idToken.claims }

def muteCopyResult : CopyResult → CopyResult
  | .failed _ => .failed []
  | result => result

def muteRoundTrip : RoundTrip → RoundTrip
  | .maxBytesError => .maxBytesError
  | .failed _ => .failed []
  | .response resp => .response { resp with copyResult := muteCopyResult resp.copyResult }

def muteWsDial : WsDial → WsDial
  | .connected => .connected
  | .badHandshake _ => .badHandshake []
  | .failed _ => .failed []

def muteWsUpgrade : WsUpgrade → WsUpgrade
  | .upgraded => .upgraded
  | .refused status _ => .refused status []
  | .failed _ => .failed []

/-- The outside without the texts of its errors. -/
def muteOutcomes (out : Outcomes) : Outcomes :=
  { out with
    authRoundTrip := fun url header => muteExcept (out.authRoundTrip url header)
    newClientConn := fun endpoint => muteOption (out.newClientConn endpoint)
    roundTrip := fun req => muteRoundTrip (out.roundTrip req)
    wsDial := fun endpoint url header => muteWsDial (out.wsDial endpoint url header)
    wsUpgrade := fun r => muteWsUpgrade (out.wsUpgrade r)
    refreshToken := fun conf token => muteExcept (out.refreshToken conf token)
    exchange := fun conf code => muteExcept (out.exchange conf code)
    verifyIdToken := fun verifier raw =>
      (muteExcept (out.verifyIdToken verifier raw)).map muteIDToken
    encrypt := fun key info => muteExcept (out.encrypt key info)
    serialize := fun encrypted => muteExcept (out.serialize encrypted)
    randState := muteExcept out.randState
    randNonce := muteExcept out.randNonce
    executeErrorPage := fun page data =>
      ((out.executeErrorPage page data).1, muteOption (out.executeErrorPage page data).2)
    write := fun data => muteOption (out.write data) }

/-- The library functions that serve a request, without the texts of their errors. -/
def muteExt (ext : Ext) : Ext :=
  { ext with
    parseAddr := fun s => muteExcept (ext.parseAddr s)
    parseAddrPort := fun s => muteExcept (ext.parseAddrPort s)
    idnaToASCII := fun s => muteExcept (ext.idnaToASCII s)
    parseEncrypted := fun s => muteOption (ext.parseEncrypted s)
    decrypt := fun key data => muteExcept (ext.decrypt key data)
    unmarshalAuthInfo := fun data => muteExcept (ext.unmarshalAuthInfo data)
    newRequest := fun method url => muteOption (ext.newRequest method url) }

/-! ## §2. Sessions, but for the texts. -/

section

variable (ext : Ext) (out : Outcomes)

theorem alike_mute {α : Type} (x : Except GoError α) : Alike Eq x (muteExcept x) := by
  cases x with
  | ok a => exact .ok rfl
  | error err => exact .error err []

/-- An ID token, and the one whose claims fail without a text. -/
def SameToken (idToken idToken' : IDToken) : Prop := idToken' = muteIDToken idToken

/-- What a request's cookie holds, but for the texts of the errors. -/
inductive SameSession :
    Except Oidc.ExtractError AuthInfo → Except Oidc.ExtractError AuthInfo → Prop
  | session (info : AuthInfo) : SameSession (.ok info) (.ok info)
  | cookieNotFound : SameSession (.error .cookieNotFound) (.error .cookieNotFound)
  | cookieInvalid (err err' : GoError) :
      SameSession (.error (.cookieInvalid err)) (.error (.cookieInvalid err'))
  | other (err err' : GoError) : SameSession (.error (.other err)) (.error (.other err'))

theorem decrypt_alike (key data : GoString) :
    Alike Eq (Oidc.decrypt ext key data) (Oidc.decrypt (muteExt ext) key data) := by
  unfold Oidc.decrypt
  have hparse : (muteExt ext).parseEncrypted data = muteOption (ext.parseEncrypted data) := rfl
  rw [hparse]
  cases ext.parseEncrypted data with
  | some err => exact .error _ _
  | none => exact (alike_mute (ext.decrypt key data)).mapError _ _

theorem extractAuthInfo_same (client : ClientConfig) (r : Request) :
    SameSession (Oidc.extractAuthInfo ext client r)
      (Oidc.extractAuthInfo (muteExt ext) client r) := by
  unfold Oidc.extractAuthInfo
  have hcookie : (muteExt ext).cookie = ext.cookie := rfl
  rw [hcookie]
  cases ext.cookie r.header (Oidc.getCookieName client) with
  | none => exact .cookieNotFound
  | some value =>
      dsimp only
      have hdata := decrypt_alike ext client.encryptionKey value
      generalize Oidc.decrypt ext client.encryptionKey value = x at hdata ⊢
      generalize Oidc.decrypt (muteExt ext) client.encryptionKey value = y at hdata ⊢
      cases hdata with
      | error err err' => exact .cookieInvalid _ _
      | @ok data _ heq =>
          subst heq
          dsimp only
          have hinfo : (muteExt ext).unmarshalAuthInfo data
              = muteExcept (ext.unmarshalAuthInfo data) := rfl
          rw [hinfo]
          cases ext.unmarshalAuthInfo data with
          | error err => exact .other _ _
          | ok info => exact .session info

theorem generateJwtCookie_alike (client : ClientConfig) (r : Request) (info : AuthInfo) :
    Alike Eq (Oidc.generateJwtCookie out client r info)
      (Oidc.generateJwtCookie (muteOutcomes out) client r info) := by
  refine Alike.bind ((alike_mute (out.encrypt client.encryptionKey info)).mapError _ _) ?_
  rintro encrypted _ rfl
  refine Alike.bind ((alike_mute (out.serialize encrypted)).mapError _ _) ?_
  rintro serialized _ rfl
  exact .ok rfl

theorem verifyToken_alike (client : ClientConfig) (token : Token) :
    Alike SameToken (Oidc.verifyToken out client token)
      (Oidc.verifyToken (muteOutcomes out) client token) := by
  unfold Oidc.verifyToken
  cases token.idToken with
  | none => exact .error _ _
  | some rawIDToken =>
      have hverify : (muteOutcomes out).verifyIdToken client.idTokenVerifier rawIDToken
          = (muteExcept (out.verifyIdToken client.idTokenVerifier rawIDToken)).map muteIDToken :=
        rfl
      dsimp only
      rw [hverify]
      cases out.verifyIdToken client.idTokenVerifier rawIDToken with
      | error err => exact .error _ _
      | ok idToken => exact .ok rfl

theorem tokenInfo_alike (client : ClientConfig) (token : Token) {idToken idToken' : IDToken}
    (h : SameToken idToken idToken') (authAt : Int) :
    Alike Eq (Oidc.tokenInfo client token idToken authAt)
      (Oidc.tokenInfo client token idToken' authAt) := by
  subst h
  refine Alike.bind ((alike_mute idToken.claims).mapError _ _) ?_
  rintro claims _ rfl
  exact .ok rfl

theorem renewAuthInfo_alike (client : ClientConfig) (r : Request) (info : AuthInfo) :
    Alike Eq (Oidc.renewAuthInfo out client r info)
      (Oidc.renewAuthInfo (muteOutcomes out) client r info) := by
  refine Alike.bind ((alike_mute (out.refreshToken client.oauth2Config _)).mapError _ _) ?_
  rintro newToken _ rfl
  have hconverted : Alike Eq
      (Oidc.verifyToken out client newToken >>= fun idToken =>
        Oidc.tokenInfo client newToken idToken info.authenticatedAt)
      (Oidc.verifyToken (muteOutcomes out) client newToken >>= fun idToken =>
        Oidc.tokenInfo client newToken idToken info.authenticatedAt) :=
    (verifyToken_alike out client newToken).bind fun _ _ h => tokenInfo_alike client newToken h _
  refine Alike.bind (hconverted.mapError _ _) ?_
  rintro newAuthInfo _ rfl
  refine Alike.bind ((generateJwtCookie_alike out client r newAuthInfo).mapError _ _) ?_
  rintro cookie _ rfl
  exact .ok rfl

/-- A failed renewal is only logged, so nothing at all differs. -/
theorem renewed_mute (client : ClientConfig) (r : Request) (info : AuthInfo) :
    Oidc.renewed (muteOutcomes out) client r info = Oidc.renewed out client r info := by
  have hrenew := renewAuthInfo_alike out client r info
  unfold Oidc.renewed
  have hnow : (muteOutcomes out).nowRenew = out.nowRenew := rfl
  rw [hnow]
  generalize Oidc.renewAuthInfo out client r info = x at hrenew ⊢
  generalize Oidc.renewAuthInfo (muteOutcomes out) client r info = y at hrenew ⊢
  cases hrenew with
  | ok heq =>
      subst heq
      rfl
  | error err err' => rfl

end

/-! ## §3. Two runs in step. -/

/-- Two returned errors, whatever their texts, or the same panic or exit. -/
inductive SameFail : Fail → Fail → Prop
  | err (msg msg' : GoError) : SameFail (.err msg) (.err msg')
  | same (f : Fail) : SameFail f f

/-- The same context of a request `r`, with another table. -/
structure Swapped (r : Request) (rc rc' : RoutingConfig) (c c' : RequestContext) : Prop where
  request : c.r = r
  table : c.routingConfig = rc
  other : c' = { c with routingConfig := rc' }

section

variable {r : Request} {rc rc' : RoutingConfig}

variable (r rc rc') in
/-- The two do the same, but for the table and the texts of their errors. -/
abbrev Same {α : Type} (m n : Serve α) : Prop := Relates (Swapped r rc rc') Eq SameFail m n

variable (r rc rc') in
/-- The closure passes that on. -/
abbrev PassesSame (m n : NextFunc → Serve Unit) : Prop :=
  ∀ next next', Same r rc rc' next next' → Same r rc rc' (m next) (n next')

theorem same_pure {α : Type} (a : α) : Same r rc rc' (pure a) (pure a) := relates_pure rfl

theorem same_throw {α : Type} (err err' : GoError) :
    Same r rc rc' (throw (.err err) : Serve α) (throw (.err err')) := relates_throw (.err err err')

theorem same_fail {α : Type} (f : Fail) : Same r rc rc' (throw f : Serve α) (throw f) :=
  relates_throw (.same f)

theorem same_bind {α β : Type} {m n : Serve α} {k l : α → Serve β} (hm : Same r rc rc' m n)
    (hk : ∀ a, Same r rc rc' (k a) (l a)) : Same r rc rc' (m >>= k) (n >>= l) := by
  refine Relates.bind hm ?_
  rintro a _ rfl
  exact hk a

/-- Reading the context: the two read the same, but for the table. -/
theorem same_get_bind {α : Type} {k l : RequestContext → Serve α}
    (h : ∀ c, c.r = r → c.routingConfig = rc →
      Same r rc rc' (k c) (l { c with routingConfig := rc' })) :
    Same r rc rc' (get >>= k) (get >>= l) := by
  refine relates_get_bind ?_
  rintro c _ ⟨hr, htable, rfl⟩
  exact h c hr htable

/-- A change of the context that does not touch the request or the table. -/
theorem same_modify {g g' : RequestContext → RequestContext} (hr : ∀ c, (g c).r = c.r)
    (htable : ∀ c, (g c).routingConfig = c.routingConfig)
    (hg : ∀ c, g' { c with routingConfig := rc' } = { g c with routingConfig := rc' }) :
    Same r rc rc' (modify g) (modify g') := by
  refine relates_modify ?_
  rintro c _ ⟨hcr, hctable, rfl⟩
  exact ⟨(hr c).trans hcr, (htable c).trans hctable, hg c⟩

/-- A call that fails alike. -/
theorem liftError_same {α β : Type} {A : α → β → Prop} {x : Except GoError α}
    {y : Except GoError β} (h : Alike A x y) :
    Relates (Swapped r rc rc') A SameFail (liftError x) (liftError y) := by
  cases h with
  | ok hab => exact relates_pure hab
  | error e e' => exact relates_throw (.err e e')

theorem throwSome_same (err? : Option GoError) :
    Same r rc rc' (match err? with | some err => throw (.err err) | none => pure () : Serve Unit)
      (match muteOption err? with | some err => throw (.err err) | none => pure ()) := by
  cases err? with
  | none => exact same_pure _
  | some err => exact same_throw err []

theorem wrapServe_same {α : Type} (context : GoString) {m n : Serve α} (h : Same r rc rc' m n) :
    Same r rc rc' (wrapServe context m) (wrapServe context n) := by
  intro c c' hS
  have hc := h c c' hS
  unfold wrapServe
  generalize m c = res at hc ⊢
  generalize n c' = res' at hc ⊢
  cases hc with
  | ok heq hS' => exact .ok heq hS'
  | error hfail hS' =>
      refine .error ?_ hS'
      cases hfail with
      | err msg msg' => exact .err _ _
      | same f => exact .same _

/-! ## §4. Writing a response. -/

theorem modifyHeader_same (f : Header → Header) :
    Same r rc rc' (modifyHeader f) (modifyHeader f) :=
  same_modify (fun _ => rfl) (fun _ => rfl) fun _ => rfl

theorem writeBytes_same (data : GoString) : Same r rc rc' (writeBytes data) (writeBytes data) :=
  same_modify (fun _ => rfl) (fun _ => rfl) fun _ => rfl

theorem writeHeader_same (statusCode : Int) :
    Same r rc rc' (writeHeader statusCode) (writeHeader statusCode) := by
  have hsend : Same r rc rc' (modify fun c => { c with w := { c.w with
        calls := c.w.calls ++ [.writeHeader statusCode c.w.header] } }) (modify fun c =>
      { c with w := { c.w with calls := c.w.calls ++ [.writeHeader statusCode c.w.header] } }) :=
    same_modify (fun _ => rfl) (fun _ => rfl) fun _ => rfl
  refine same_bind (same_modify (fun _ => rfl) (fun _ => rfl) fun _ => rfl) fun _ => ?_
  exact Relates.ite (same_bind (same_fail _) fun _ => hsend) hsend

variable (ext : Ext) (out : Outcomes)

theorem redirect_same (target : GoString) (code : Int) :
    Same r rc rc' (redirect ext target code) (redirect (muteExt ext) target code) := by
  refine same_get_bind fun c _ _ => same_bind (modifyHeader_same _) fun _ => ?_
  have hbody : ∀ b : Bool, Same r rc rc' (do
        writeHeader code
        if b then writeBytes (ext.redirectBody target code)) (do
        writeHeader code
        if b then writeBytes (ext.redirectBody target code)) := fun b =>
    same_bind (writeHeader_same code) fun _ => Relates.ite (writeBytes_same _) (same_pure _)
  exact Relates.ite (same_bind (modifyHeader_same _) fun _ => hbody _) (hbody _)

theorem setCookie_same (cookie : Cookie) :
    Same r rc rc' (setCookie ext cookie) (setCookie (muteExt ext) cookie) :=
  Relates.ite (same_pure _) (modifyHeader_same _)

/-- The page is that of the table, so the tables have to agree on it. -/
theorem handleErrorPage_same (hpage : rc'.errorPage = rc.errorPage) (status : Int)
    (msg : GoString) :
    Same r rc rc' (handleErrorPage ext out status msg)
      (handleErrorPage (muteExt ext) (muteOutcomes out) status msg) := by
  refine same_bind (writeHeader_same _) fun _ => same_get_bind fun c _ htable => ?_
  refine Relates.ite (same_pure _) ?_
  have hpages : ({ c with routingConfig := rc' } : RequestContext).routingConfig.errorPage
      = c.routingConfig.errorPage := by
    rw [htable]
    exact hpage
  rw [hpages]
  cases c.routingConfig.errorPage with
  | none => exact same_bind (writeBytes_same _) fun _ => throwSome_same _
  | some errPage => exact same_bind (writeBytes_same _) fun _ => throwSome_same _

variable (hpage : rc'.errorPage = rc.errorPage)

include hpage

/-! ## §5. Closures without a session. -/

theorem ipAuth_same (allowlist : List Prefix) :
    PassesSame r rc rc' (Auth.ipAuth ext out allowlist)
      (Auth.ipAuth (muteExt ext) (muteOutcomes out) allowlist) :=
  fun _ _ hnext => same_get_bind fun _ _ _ =>
    Relates.ite hnext (handleErrorPage_same ext out hpage 403 _)

theorem basicAuth_same (realm auth : GoString) :
    PassesSame r rc rc' (Auth.basicAuth ext out realm auth)
      (Auth.basicAuth (muteExt ext) (muteOutcomes out) realm auth) := by
  intro next next' hnext
  have hchallenge : ∀ (status : Int) (msg : GoString),
      Same r rc rc' (Auth.challenge realm (handleErrorPage ext out status msg))
        (Auth.challenge realm (handleErrorPage (muteExt ext) (muteOutcomes out) status msg)) :=
    fun status msg => same_bind (modifyHeader_same _) fun _ =>
      handleErrorPage_same ext out hpage status msg
  refine same_get_bind fun c _ _ => ?_
  have hcred : (muteExt ext).basicAuth c.r.header = ext.basicAuth c.r.header := rfl
  dsimp only
  rw [hcred]
  cases ext.basicAuth c.r.header with
  | none => exact hchallenge 401 _
  | some cred => exact Relates.ite hnext (hchallenge 403 _)

theorem subrequestAuth_same (conf : ForwardAuthConfig) (authUrl : GoString) :
    PassesSame r rc rc' (Auth.subrequestAuth ext out conf authUrl)
      (Auth.subrequestAuth (muteExt ext) (muteOutcomes out) conf authUrl) := by
  intro next next' hnext
  refine same_get_bind fun c _ _ => ?_
  have hrequest : (muteExt ext).newRequest (lit "GET") authUrl
      = muteOption (ext.newRequest (lit "GET") authUrl) := rfl
  rw [hrequest]
  cases ext.newRequest (lit "GET") authUrl with
  | some err => exact same_throw _ _
  | none =>
      have hanswer : (muteOutcomes out).authRoundTrip authUrl c.r.header
          = muteExcept (out.authRoundTrip authUrl c.r.header) := rfl
      dsimp only [muteOption]
      rw [hanswer]
      cases out.authRoundTrip authUrl c.r.header with
      | error err => exact same_throw _ _
      | ok statusCode =>
          exact Relates.ite (handleErrorPage_same ext out hpage 403 _)
            (Relates.ite hnext (redirect_same ext _ 302))

theorem denyRoute_same (denyRegexp : GoString) :
    PassesSame r rc rc' (Security.denyRoute ext out denyRegexp)
      (Security.denyRoute (muteExt ext) (muteOutcomes out) denyRegexp) :=
  fun _ _ hnext => same_get_bind fun _ _ _ =>
    Relates.ite (handleErrorPage_same ext out hpage 403 _) hnext

omit hpage in
theorem redirectHttps_same :
    Same r rc rc' (Security.redirectHttps ext) (Security.redirectHttps (muteExt ext)) :=
  same_get_bind fun _ _ _ => redirect_same ext _ 301

omit hpage in
theorem refuseUpgrade_same (status : Int) :
    Same r rc rc' (Headers.refuseUpgrade ext status) (Headers.refuseUpgrade (muteExt ext) status) :=
  same_bind (modifyHeader_same _) fun _ => same_bind (writeHeader_same _) fun _ => writeBytes_same _

omit hpage in
theorem handleWebSocket_same :
    Same r rc rc' (Headers.handleWebSocket ext out)
      (Headers.handleWebSocket (muteExt ext) (muteOutcomes out)) := by
  refine same_get_bind fun c _ _ => ?_
  dsimp only
  cases c.upstreamRequest with
  | none => exact same_fail _
  | some req =>
      cases c.matchedRoute with
      | none => exact same_fail _
      | some route =>
          refine same_bind (same_modify (fun _ => rfl) (fun _ => rfl) fun _ => rfl) fun _ => ?_
          have hurl : (muteExt ext).urlString = ext.urlString := rfl
          have hheader : Headers.constructWsHeaders (muteOutcomes out) c.r.header
              = Headers.constructWsHeaders out c.r.header := rfl
          have hdial : ∀ endpoint url header, (muteOutcomes out).wsDial endpoint url header
              = muteWsDial (out.wsDial endpoint url header) := fun _ _ _ => rfl
          have hupgrade : (muteOutcomes out).wsUpgrade c.r
              = muteWsUpgrade (out.wsUpgrade c.r) := rfl
          rw [hurl, hheader, hdial, hupgrade]
          generalize out.wsDial route.endpoint _ (Headers.constructWsHeaders out c.r.header) = dial
          cases dial with
          | badHandshake err => exact same_throw _ _
          | failed err => exact same_throw _ _
          | connected =>
              dsimp only [muteWsDial]
              cases out.wsUpgrade c.r with
              | upgraded => exact same_pure _
              | failed err => exact same_throw _ _
              | refused status err =>
                  exact same_bind (refuseUpgrade_same ext status) fun _ => same_throw _ _

omit hpage in
theorem websocket_same :
    PassesSame r rc rc' (Headers.websocket ext out)
      (Headers.websocket (muteExt ext) (muteOutcomes out)) :=
  fun _ _ hnext => same_get_bind fun _ _ _ => Relates.ite (handleWebSocket_same ext out) hnext

/-! ## §6. Closures with a session. -/

omit hpage in
theorem handleRenewingAuthInfo_same (client : ClientConfig) (info : AuthInfo) :
    Same r rc rc' (Oidc.handleRenewingAuthInfo out client info)
      (Oidc.handleRenewingAuthInfo (muteOutcomes out) client info) := by
  refine same_get_bind fun c _ _ => ?_
  rw [renewed_mute]
  dsimp only
  cases (Oidc.renewed out client c.r info).2 with
  | none => exact same_pure _
  | some cookie =>
      exact same_bind (same_modify (fun _ => rfl) (fun _ => rfl) fun _ => rfl) fun _ => same_pure _

omit hpage in
theorem setHttpCookie_same (client : ClientConfig) (name value : GoString) :
    Same r rc rc' (Oidc.setHttpCookie ext client name value)
      (Oidc.setHttpCookie (muteExt ext) client name value) :=
  same_get_bind fun _ _ _ => setCookie_same ext _

omit hpage in
theorem clearHttpCookie_same (client : ClientConfig) (name : GoString) :
    Same r rc rc' (Oidc.clearHttpCookie ext client name)
      (Oidc.clearHttpCookie (muteExt ext) client name) :=
  same_get_bind fun _ _ _ => Relates.ite (same_pure _) (setCookie_same ext _)

omit hpage in
theorem clearCallbackCookies_same (client : ClientConfig) :
    Same r rc rc' (Oidc.clearCallbackCookies ext client)
      (Oidc.clearCallbackCookies (muteExt ext) client) :=
  same_bind (clearHttpCookie_same ext client _) fun _ =>
    same_bind (clearHttpCookie_same ext client _) fun _ => clearHttpCookie_same ext client _

omit hpage in
theorem startLogin_same (client : ClientConfig) :
    Same r rc rc' (Oidc.startLogin ext out client)
      (Oidc.startLogin (muteExt ext) (muteOutcomes out) client) := by
  refine same_bind (liftError_same ((alike_mute out.randState).mapError _ _)) fun state => ?_
  refine same_bind (liftError_same ((alike_mute out.randNonce).mapError _ _)) fun nonce => ?_
  refine same_bind (setHttpCookie_same ext client _ _) fun _ => ?_
  refine same_bind (setHttpCookie_same ext client _ _) fun _ => same_get_bind fun c _ _ => ?_
  exact same_bind (setHttpCookie_same ext client _ _) fun _ => redirect_same ext _ 302

theorem handleUnauthorized_same (client : ClientConfig) :
    Same r rc rc' (Oidc.handleUnauthorized ext out client)
      (Oidc.handleUnauthorized (muteExt ext) (muteOutcomes out) client) := by
  refine same_get_bind fun c _ _ => ?_
  have hanswer := Relates.ite (p := (c.r.method = lit "GET" ∨ c.r.method = lit "HEAD")
      ∧ ¬ ext.isWebSocketUpgrade c.r.header = true)
    (@startLogin_same r rc rc' ext out client)
    (handleErrorPage_same ext out hpage 401 (lit "OIDC authorization required"))
  exact Relates.ite (same_bind (clearHttpCookie_same ext client _) fun _ => hanswer) hanswer

theorem oidcIngress_same (client : ClientConfig) (ingress : OidcIngressConfig) :
    PassesSame r rc rc' (Oidc.oidcIngress ext out client ingress)
      (Oidc.oidcIngress (muteExt ext) (muteOutcomes out) client ingress) := by
  intro next next' hnext
  refine same_get_bind fun c _ _ => ?_
  have hsession := extractAuthInfo_same ext client c.r
  dsimp only
  generalize Oidc.extractAuthInfo ext client c.r = x at hsession ⊢
  generalize Oidc.extractAuthInfo (muteExt ext) client c.r = y at hsession ⊢
  cases hsession with
  | cookieNotFound => exact handleUnauthorized_same ext out hpage client
  | cookieInvalid err err' => exact handleUnauthorized_same ext out hpage client
  | other err err' => exact same_throw _ _
  | session info =>
      refine same_bind (handleRenewingAuthInfo_same out client info) fun info => ?_
      exact Relates.ite (handleUnauthorized_same ext out hpage client)
        (Relates.ite (handleErrorPage_same ext out hpage 403 _) hnext)

theorem refusal_same (msg : GoString) :
    Same r rc rc' (do
        badRequest ext out msg
        return (none : Option AuthInfo)) (do
        badRequest (muteExt ext) (muteOutcomes out) msg
        return none) :=
  same_bind (handleErrorPage_same ext out hpage 400 msg) fun _ => same_pure _

theorem oauthToAuthInfo_same (client : ClientConfig) (token : Token) (authAt : Int)
    (verifyNonce : Bool) :
    Same r rc rc' (Oidc.oauthToAuthInfo ext out client token authAt verifyNonce)
      (Oidc.oauthToAuthInfo (muteExt ext) (muteOutcomes out) client token authAt verifyNonce) := by
  refine same_get_bind fun c _ _ => ?_
  refine Relates.bind (liftError_same (verifyToken_alike out client token)) ?_
  intro idToken idToken' hsame
  have hinfo : Same r rc rc' (do
        let info ← liftError (Oidc.tokenInfo client token idToken authAt)
        return some info) (do
        let info ← liftError (Oidc.tokenInfo client token idToken' authAt)
        return some info) :=
    same_bind (liftError_same (tokenInfo_alike client token hsame authAt)) fun _ => same_pure _
  refine Relates.ite ?_ hinfo
  have hcookie : (muteExt ext).cookie = ext.cookie := rfl
  have hnonce : idToken'.nonce = idToken.nonce := by
    rw [hsame]
    rfl
  rw [hcookie]
  dsimp only
  cases ext.cookie c.r.header Oidc.cookieNonce with
  | none => exact refusal_same ext out hpage _
  | some nonce =>
      dsimp only
      rw [hnonce]
      exact Relates.ite (refusal_same ext out hpage _) hinfo

theorem handleOidcCallback_same (client : ClientConfig) :
    Same r rc rc' (Oidc.handleOidcCallback ext out client)
      (Oidc.handleOidcCallback (muteExt ext) (muteOutcomes out) client) := by
  refine same_get_bind fun c _ _ => ?_
  have hcookie : (muteExt ext).cookie = ext.cookie := rfl
  rw [hcookie]
  dsimp only
  cases ext.cookie c.r.header Oidc.cookieState with
  | none => exact refusal_same ext out hpage _
  | some state =>
      refine Relates.ite (refusal_same ext out hpage _) ?_
      refine same_bind (liftError_same ((alike_mute (out.exchange client.oauth2Config
        (ext.queryGet c.r.url.rawQuery (lit "code")))).mapError _ _)) fun token => ?_
      exact oauthToAuthInfo_same ext out hpage client token _ true

theorem handleCallback_same (client : ClientConfig) :
    Same r rc rc' (Oidc.handleCallback ext out client)
      (Oidc.handleCallback (muteExt ext) (muteOutcomes out) client) := by
  refine same_bind (wrapServe_same _ (handleOidcCallback_same ext out hpage client)) fun info? => ?_
  cases info? with
  | none => exact clearCallbackCookies_same ext client
  | some info =>
      refine same_get_bind fun c _ _ => ?_
      have hcookie := generateJwtCookie_alike out client c.r info
      dsimp only
      generalize Oidc.generateJwtCookie out client c.r info = x at hcookie ⊢
      generalize Oidc.generateJwtCookie (muteOutcomes out) client c.r info = y at hcookie ⊢
      cases hcookie with
      | error err err' => exact same_bind (clearCallbackCookies_same ext client) fun _ => same_throw _ _
      | ok heq =>
          subst heq
          exact same_bind (setCookie_same ext _) fun _ =>
            same_bind (clearCallbackCookies_same ext client) fun _ => redirect_same ext _ 302

theorem oidcRequest_same (callbackDomains : GoMap GoString ClientConfig) :
    PassesSame r rc rc' (Oidc.oidcRequest ext out callbackDomains)
      (Oidc.oidcRequest (muteExt ext) (muteOutcomes out) callbackDomains) := by
  intro next next' hnext
  refine same_get_bind fun c _ _ => ?_
  dsimp only
  cases callbackDomains.lookup c.r.host with
  | none => exact hnext
  | some client => exact Relates.ite (handleCallback_same ext out hpage client) hnext

/-! ## §7. The chain and its end. -/

/-- **Every closure passes it on.** -/
theorem call_same (m : Middleware) :
    PassesSame r rc rc' (m.call ext out) (m.call (muteExt ext) (muteOutcomes out)) := by
  cases m with
  | enforceHttpsRequest =>
      intro next next' hnext
      refine same_get_bind fun c _ _ => Relates.ite ?_ (redirectHttps_same ext)
      exact same_bind (same_modify (fun _ => rfl) (fun _ => rfl) fun _ => rfl) fun _ => hnext
  | enforceHttpsIngress =>
      exact fun next next' hnext => same_get_bind fun _ _ _ =>
        Relates.ite hnext (redirectHttps_same ext)
  | ipAuth allowlist => exact ipAuth_same ext out hpage allowlist
  | basicAuth realm auth => exact basicAuth_same ext out hpage realm auth
  | subrequestAuth conf authUrl => exact subrequestAuth_same ext out hpage conf authUrl
  | oidcRequest callbackDomains => exact oidcRequest_same ext out hpage callbackDomains
  | oidcIngress client conf => exact oidcIngress_same ext out hpage client conf
  | denyRoute denyRegexp => exact denyRoute_same ext out hpage denyRegexp
  | websocket => exact websocket_same ext out
  | customHeader headers =>
      exact fun next next' hnext =>
        same_bind (same_modify (fun _ => rfl) (fun _ => rfl) fun _ => rfl) fun _ => hnext
  | upstreamHeader headers =>
      intro next next' hnext
      refine same_get_bind fun c _ _ => Relates.ite (same_fail _) ?_
      exact same_bind (same_modify (fun _ => rfl) (fun _ => rfl) fun _ => rfl) fun _ => hnext

theorem callMiddleware_same (ms : List Middleware) :
    PassesSame r rc rc' (callMiddleware ext out ms)
      (callMiddleware (muteExt ext) (muteOutcomes out) ms) := by
  intro next next' hnext
  induction ms with
  | nil => exact hnext
  | cons m ms ih => exact call_same ext out hpage m _ _ ih

theorem finishProxy_same (answer : RoundTrip) :
    Same r rc rc' (finishProxy ext out answer)
      (finishProxy (muteExt ext) (muteOutcomes out) (muteRoundTrip answer)) := by
  cases answer with
  | maxBytesError => exact writeHeader_same 413
  | failed err => exact handleErrorPage_same ext out hpage 502 []
  | response resp =>
      refine same_bind (same_get_bind fun c _ _ => modifyHeader_same _) fun _ =>
        same_bind (writeHeader_same _) fun _ => same_bind (writeBytes_same _) fun _ => ?_
      dsimp only
      cases resp.copyResult with
      | failed err => exact same_throw _ _
      | _ => exact same_pure _

theorem proxy_same : Same r rc rc' (proxy ext out) (proxy (muteExt ext) (muteOutcomes out)) := by
  refine same_get_bind fun c _ _ => ?_
  dsimp only
  cases c.upstreamRequest with
  | none => exact same_fail _
  | some req =>
      cases c.matchedRoute with
      | none => exact same_fail _
      | some route =>
          refine same_bind (same_modify (fun _ => rfl) (fun _ => rfl) fun _ => rfl) fun _ => ?_
          have hdial : (muteOutcomes out).newClientConn route.endpoint
              = muteOption (out.newClientConn route.endpoint) := rfl
          rw [hdial]
          cases out.newClientConn route.endpoint with
          | some err => exact handleErrorPage_same ext out hpage 502 []
          | none => exact finishProxy_same ext out hpage (out.roundTrip req)

theorem proxyRoute_same (endpoint : RouteConfig) :
    Same r rc rc' (proxyRoute ext out endpoint)
      (proxyRoute (muteExt ext) (muteOutcomes out) endpoint) := by
  refine same_get_bind fun c _ _ => ?_
  let url := ext.urlString (getUpstreamUrl c.r)
  have hrequest : (muteExt ext).newRequest c.r.method url
      = muteOption (ext.newRequest c.r.method url) := rfl
  show Relates _ Eq SameFail (match ext.newRequest c.r.method url with
    | some _ => _
    | none => _) (match (muteExt ext).newRequest c.r.method url with
    | some _ => _
    | none => _)
  rw [hrequest]
  cases ext.newRequest c.r.method url with
  | some err => exact handleErrorPage_same ext out hpage 500 []
  | none =>
      exact same_bind (same_modify (fun _ => rfl) (fun _ => rfl) fun _ => rfl) fun _ =>
        callMiddleware_same ext out hpage endpoint.middlewares _ _ (proxy_same ext out hpage)

theorem handleHost_same {host host' : HostConfig}
    (hroute : host'.lookupRoute r.url.path = host.lookupRoute r.url.path) :
    Same r rc rc' (handleHost ext out host) (handleHost (muteExt ext) (muteOutcomes out) host') := by
  refine same_get_bind fun c hr _ => ?_
  dsimp only
  rw [hr, hroute]
  cases host.lookupRoute r.url.path with
  | error f => exact same_fail _
  | ok route? =>
      cases route? with
      | none => exact handleErrorPage_same ext out hpage 404 _
      | some route => exact proxyRoute_same ext out hpage route

omit hpage in
/-- In both tables the request finds the same route. -/
def SameRoute (ext : Ext) (r : Request) (rc rc' : RoutingConfig) : Prop :=
  ∀ host, ext.idnaToASCII r.host = .ok host →
    (rc'.lookupHost host).map (fun hc => hc.lookupRoute r.url.path)
      = (rc.lookupHost host).map fun hc => hc.lookupRoute r.url.path

theorem handleHttp_same (hroute : SameRoute ext r rc rc') :
    Same r rc rc' (handleHttp ext out) (handleHttp (muteExt ext) (muteOutcomes out)) := by
  refine same_get_bind fun c hr htable => ?_
  have hidna : (muteExt ext).idnaToASCII c.r.host = muteExcept (ext.idnaToASCII c.r.host) := rfl
  rw [hidna, hr]
  cases hhost : ext.idnaToASCII r.host with
  | error err => exact handleErrorPage_same ext out hpage 400 _
  | ok escapedHost =>
      have hsame := hroute escapedHost hhost
      dsimp only [muteExcept]
      rw [htable]
      cases hlook : rc.lookupHost escapedHost with
      | none =>
          rw [hlook] at hsame
          rw [Option.map_eq_none_iff.mp hsame]
          exact handleErrorPage_same ext out hpage 404 _
      | some host =>
          rw [hlook] at hsame
          obtain ⟨host', hlook', hlookup⟩ := Option.map_eq_some_iff.mp hsame
          rw [hlook']
          exact handleHost_same ext out hpage hlookup

/-! ## §8. Serving a request. -/

/-- An error of the error page is logged, and nothing else. -/
def dropError : Except Fail Unit × RequestContext → Except Fail Unit × RequestContext
  | (.error (.err _), c) => (.ok (), c)
  | result => result

omit hpage in
theorem recoverError_eq (m : Serve Unit) (c : RequestContext) :
    recoverError ext out m c = match m c with
      | (.error (.err _), c') =>
          if c'.w.writtenStatusCode = 0 then dropError (handleErrorf ext out 500 c')
          else (.ok (), c')
      | result => result := rfl

variable (r rc rc') in
/-- The same end, panics included, and contexts that differ in the table only. -/
inductive SameResult : Except Fail Unit × RequestContext → Except Fail Unit × RequestContext → Prop
  | same {result : Except Fail Unit} {c c' : RequestContext} :
      Swapped r rc rc' c c' → SameResult (result, c) (result, c')

omit hpage in
theorem dropError_same {res res' : Except Fail Unit × RequestContext}
    (h : SameEnd (Swapped r rc rc') Eq SameFail res res') :
    SameResult r rc rc' (dropError res) (dropError res') := by
  cases h with
  | @ok a b c c' heq hS => exact .same hS
  | @error e e' c c' hfail hS =>
      cases hfail with
      | err msg msg' => exact .same hS
      | same =>
          cases e with
          | err msg => exact .same hS
          | panic msg => exact .same hS
          | fatal msg => exact .same hS

/-- **What is left of an error at the end is a status.** -/
theorem recoverError_same {m n : Serve Unit} (h : Same r rc rc' m n) {c c' : RequestContext}
    (hS : Swapped r rc rc' c c') :
    SameResult r rc rc' (recoverError ext out m c)
      (recoverError (muteExt ext) (muteOutcomes out) n c') := by
  have hc := h c c' hS
  rw [recoverError_eq, recoverError_eq]
  generalize m c = res at hc ⊢
  generalize n c' = res' at hc ⊢
  cases hc with
  | ok heq hS' => exact .same hS'
  | @error e e' c₁ c₁' hfail hS' =>
      have hpages : SameResult r rc rc'
          (if c₁.w.writtenStatusCode = 0 then dropError (handleErrorf ext out 500 c₁)
            else (.ok (), c₁))
          (if c₁'.w.writtenStatusCode = 0 then
            dropError (handleErrorf (muteExt ext) (muteOutcomes out) 500 c₁') else (.ok (), c₁')) := by
        have hstatus : c₁'.w.writtenStatusCode = c₁.w.writtenStatusCode := by rw [hS'.other]
        rw [hstatus]
        split_ifs
        · exact dropError_same (handleErrorPage_same ext out hpage 500 [] c₁ c₁' hS')
        · exact .same hS'
      cases hfail with
      | err msg msg' => exact hpages
      | same =>
          cases e with
          | err msg => exact hpages
          | panic msg => exact .same hS'
          | fatal msg => exact .same hS'

omit hpage in
theorem realIpOf_mute (htrusted : rc'.trustedProxies = rc.trustedProxies) (remoteIp : AddrPort)
    (r : Request) : realIpOf (muteExt ext) rc' remoteIp r = realIpOf ext rc remoteIp r := by
  unfold realIpOf
  have hparse : ∀ s, (muteExt ext).parseAddr s = muteExcept (ext.parseAddr s) := fun _ => rfl
  rw [htrusted]
  dsimp only
  rw [hparse]
  cases ext.parseAddr
      (trimSpace ((split (r.header.get (lit "X-Forwarded-For")) byteComma).headD [])) with
  | error err => rfl
  | ok clientIp => rfl

end

/-- What the two tables have to agree on, for the request. -/
structure SameTable (ext : Ext) (r : Request) (rc rc' : RoutingConfig) : Prop where
  route : SameRoute ext r rc rc'
  requestMiddlewares : rc'.requestMiddlewares = rc.requestMiddlewares
  trustedProxies : rc'.trustedProxies = rc.trustedProxies
  errorPage : rc'.errorPage = rc.errorPage

theorem SameTable.refl (ext : Ext) (r : Request) (rc : RoutingConfig) : SameTable ext r rc rc where
  route := fun _ _ => rfl
  requestMiddlewares := rfl
  trustedProxies := rfl
  errorPage := rfl

/-- The same end of `ServeHTTP`, but for the table in the context. -/
inductive SameServed (r : Request) (rc rc' : RoutingConfig) : Served → Served → Prop
  | badRemoteAddr : SameServed r rc rc' .badRemoteAddr .badRemoteAddr
  | finished {result : Except Fail Unit} {c c' : RequestContext} :
      Swapped r rc rc' c c' → SameServed r rc rc' (.finished result c) (.finished result c')

section

variable {ext : Ext} {out : Outcomes} {r : Request} {rc rc' : RoutingConfig}

/-- The table is no label. -/
theorem recordedEnd_same {metrics : Option Metrics} {result : Except Fail Unit}
    {c c' : RequestContext} (h : Swapped r rc rc' c c') :
    recordedEnd metrics (result, c') = recordedEnd metrics (result, c) := by
  rw [h.other]
  cases result with
  | error e => rfl
  | ok u =>
      cases metrics with
      | none => rfl
      | some m =>
          show (recordRequest (some m) _).1 = (recordRequest (some m) c).1
          rw [recordRequest_some, recordRequest_some]
          rfl

/-- **The two runs do the same**: the response, what the upstreams are sent, and how the
handler ends. -/
theorem serveHTTP_same {metrics : Option Metrics} (h : SameTable ext r rc rc') :
    SameServed r rc rc' (serveHTTP ext out metrics (some rc) r)
      (serveHTTP (muteExt ext) (muteOutcomes out) metrics (some rc') r) := by
  have hpeer : (muteExt ext).parseAddrPort r.remoteAddr
      = muteExcept (ext.parseAddrPort r.remoteAddr) := rfl
  cases hparse : ext.parseAddrPort r.remoteAddr with
  | error err =>
      rw [hparse] at hpeer
      unfold serveHTTP
      rw [hparse, hpeer]
      exact .badRemoteAddr
  | ok remoteIp =>
      rw [hparse] at hpeer
      have hcontext : Swapped r rc rc' (newContext ext out rc remoteIp r)
          (newContext (muteExt ext) (muteOutcomes out) rc' remoteIp r) := by
        refine ⟨rfl, rfl, ?_⟩
        unfold newContext
        rw [realIpOf_mute ext h.trustedProxies]
        rfl
      have hchain := callMiddleware_same ext out h.errorPage rc.requestMiddlewares _ _
        (handleHttp_same ext out h.errorPage h.route)
      have hserved := recoverError_same ext out h.errorPage hchain hcontext
      rw [serveHTTP_some ext out hparse, serveHTTP_some (muteExt ext) (muteOutcomes out) hpeer,
        h.requestMiddlewares]
      generalize recoverError ext out (callMiddleware ext out rc.requestMiddlewares
        (handleHttp ext out)) (newContext ext out rc remoteIp r) = res at hserved ⊢
      generalize recoverError (muteExt ext) (muteOutcomes out) (callMiddleware (muteExt ext)
        (muteOutcomes out) rc.requestMiddlewares (handleHttp (muteExt ext) (muteOutcomes out)))
        (newContext (muteExt ext) (muteOutcomes out) rc' remoteIp r) = res' at hserved ⊢
      cases hserved with
      | same hS =>
          rw [recordedEnd_same hS]
          exact .finished hS

theorem eq_of_sameServed {s s' : Served} (h : SameServed r rc rc s s') : s' = s := by
  cases h with
  | badRemoteAddr => rfl
  | finished hS =>
      obtain ⟨_, htable, rfl⟩ := hS
      rw [← htable]

/-- The texts change nothing. -/
theorem serveHTTP_mute (metrics : Option Metrics) (stored : Option RoutingConfig) :
    serveHTTP (muteExt ext) (muteOutcomes out) metrics stored r
      = serveHTTP ext out metrics stored r := by
  cases stored with
  | some rc => exact eq_of_sameServed (serveHTTP_same (SameTable.refl ext r rc))
  | none =>
      unfold serveHTTP
      have hpeer : (muteExt ext).parseAddrPort r.remoteAddr
          = muteExcept (ext.parseAddrPort r.remoteAddr) := rfl
      rw [hpeer]
      cases ext.parseAddrPort r.remoteAddr with
      | error err => rfl
      | ok remoteIp => rfl

/-- **A request is served by its route**: from two tables in which it finds the same route it
is served alike. -/
theorem served_by_route {metrics : Option Metrics} (h : SameTable ext r rc rc') :
    SameServed r rc rc' (serveHTTP ext out metrics (some rc) r)
      (serveHTTP ext out metrics (some rc') r) := by
  rw [← @serveHTTP_mute ext out r metrics (some rc')]
  exact serveHTTP_same h

end

/-- **Nobody is told.**  Two outsides that differ in nothing but the texts of the errors they
return (of dials, of the OIDC provider, of the authorization server, of decryption) make the
proxy do the same: the client gets the same response, byte by byte, and the same upstreams are
sent the same requests. -/
theorem errors_untold {ext ext' : Ext} {out out' : Outcomes} (hext : muteExt ext = muteExt ext')
    (hout : muteOutcomes out = muteOutcomes out') (metrics : Option Metrics)
    (stored : Option RoutingConfig) (r : Request) :
    serveHTTP ext out metrics stored r = serveHTTP ext' out' metrics stored r := by
  rw [← @serveHTTP_mute ext out, ← @serveHTTP_mute ext' out', hext, hout]

/-- An outside where the upstream cannot be dialled, and says why. -/
def Outcomes.unreachable (headerOrder : GoMap.RangeChoice GoString (List GoString))
    (err : GoError) : Outcomes :=
  { Outcomes.small headerOrder with newClientConn := fun _ => some err }

/-- One prefix route for every host. -/
def anyHostTable : RoutingConfig where
  hosts := Finmap.singleton [] ⟨[⟨lit "/", .pathTypePrefix, ⟨.v4 0x0A000001, 80⟩, [.websocket],
    ⟨4096⟩, lit "ns/a"⟩]⟩
  tlsCertificates := ∅
  defaultTlsCertificate := none
  tcpProxy := []
  requestMiddlewares := []
  trustedProxies := []
  errorPage := none

def plainRequest : Request :=
  ⟨lit "GET", lit "a", ⟨[], [], lit "/", [], [], []⟩, ∅, false, lit "10.0.0.9:80", 0⟩

/-- A refused and a timed out connection are the same 502. -/
theorem errors_untold_dial : ∃ headerOrder c,
    serveHTTP Ext.small (Outcomes.unreachable headerOrder (lit "connection refused"))
        (some Metrics.utf8) (some anyHostTable) plainRequest = .finished (.ok ()) c
      ∧ c.w.writtenStatusCode = 502
      ∧ serveHTTP Ext.small (Outcomes.unreachable headerOrder (lit "i/o timeout"))
          (some Metrics.utf8) (some anyHostTable) plainRequest = .finished (.ok ()) c := by
  obtain ⟨headerOrder⟩ := (inferInstance : Nonempty (GoMap.RangeChoice GoString (List GoString)))
  have hout : muteOutcomes (Outcomes.unreachable headerOrder (lit "connection refused"))
      = muteOutcomes (Outcomes.unreachable headerOrder (lit "i/o timeout")) := rfl
  have hserved : ∃ c, serveHTTP Ext.small
      (Outcomes.unreachable headerOrder (lit "connection refused")) (some Metrics.utf8)
        (some anyHostTable) plainRequest = .finished (.ok ()) c ∧ c.w.writtenStatusCode = 502 := ⟨_, rfl, rfl⟩
  obtain ⟨c, hrun, hstatus⟩ := hserved
  refine ⟨headerOrder, c, hrun, hstatus, ?_⟩
  rw [← hrun]
  exact (errors_untold rfl hout (some Metrics.utf8) (some anyHostTable) plainRequest).symm

end SIngress.Proxy
