/-
  SIngress.Modules.OidcLifetime — HOW LONG DOES A LOGIN LAST?

  A renewal rewrites the whole session and issues a new cookie; old and new
  cookies may come back in any order and any number of times.  What bounds a
  session is the instant of its login, which every renewal copies.  The system
  here is the history of the cookies ever issued, by any client under any key;
  a visit to the callback or to a route with OIDC may issue one more.

    • `Rooted`           — the invariant: every cookie descends from a login and
                           carries the second of that login,
    • `session_bounded`  — a request is let through only before the login it
                           descends from expires.
-/
import SIngress.Modules.OidcSession
import SIngress.Lib.Transition

namespace SIngress.Modules.Oidc

open SIngress.Base SIngress.Lib SIngress.Platform SIngress.Config SIngress.Proxy

/-! ## §1. The history of cookies. -/

/-- What `generateJwtCookie` was called for. -/
inductive Origin where
  /-- A login whose callback read the clock at `t₀`. -/
  | login (t₀ : Int)
  /-- The renewal of the session in the presented cookie. -/
  | renewal (presented : GoString)

/-- A cookie that `generateJwtCookie` produced: its key, its value and the session in it. -/
structure Issued where
  key : GoString
  value : GoString
  info : AuthInfo
  origin : Origin

/-- A request the provider sends back to the callback, or one for a route with OIDC, with
what happens outside while it is served. -/
inductive Visit where
  | callback (out : Outcomes) (client : ClientConfig) (c : RequestContext)
  | ingress (out : Outcomes) (client : ClientConfig) (c : RequestContext)

section

variable (ext : Ext)

/-- The cookie of `handleCallback`. -/
def issuedByCallback (out : Outcomes) (client : ClientConfig) (c : RequestContext) :
    Option Issued :=
  match handleOidcCallback ext out client c with
  | (.ok (some info), c') =>
      match generateJwtCookie out client c'.r info with
      | .ok cookie => some ⟨client.encryptionKey, cookie.value, info, .login out.nowCallback⟩
      | .error _ => none
  | _ => none

/-- The cookie of `renewAuthInfo`. -/
def issuedByIngress (out : Outcomes) (client : ClientConfig) (c : RequestContext) :
    Option Issued :=
  match ext.cookie c.r.header (getCookieName client), extractAuthInfo ext client c.r with
  -- only a session that could be read is renewed
  | some presented, .ok info =>
      match renewed out client c.r info with
      | (newInfo, some cookie) =>
          some ⟨client.encryptionKey, cookie.value, newInfo, .renewal presented⟩
      | (_, none) => none
  | _, _ => none

def Visit.issues : Visit → Option Issued
  | .callback out client c => issuedByCallback ext out client c
  | .ingress out client c => issuedByIngress ext out client c

/-- A visit adds what it issues. -/
def SessionStep (s : List Issued) (v : Visit) (s' : List Issued) : Prop :=
  s' = s ++ (v.issues ext).toList

/-- **Unforgeable**: the cookie of the request decrypts under the key of the client only if it
was issued with that key. -/
def Genuine (s : List Issued) (client : ClientConfig) (r : Request) : Prop :=
  ∀ value data, ext.cookie r.header (getCookieName client) = some value →
    decrypt ext client.encryptionKey value = .ok data →
      ∃ i ∈ s, i.key = client.encryptionKey ∧ i.value = value

/-- Decrypting what was encrypted under the same key gives the session back, the instant of
its login at least. -/
def Faithful (out : Outcomes) : Prop :=
  ∀ key info encrypted value data info', out.encrypt key info = .ok encrypted →
    out.serialize encrypted = .ok value → decrypt ext key value = .ok data →
      ext.unmarshalAuthInfo data = .ok info' → info'.authenticatedAt = info.authenticatedAt

/-- A visit under the assumptions on the encryption. -/
def Visit.Sound (s : List Issued) : Visit → Prop
  | .callback out _ _ => Faithful ext out
  | .ingress out client c => Faithful ext out ∧ Genuine ext s client c.r

end

/-- The cookie descends, through any number of renewals, from a login at `t₀`. -/
inductive Descends (s : List Issued) (t₀ : Int) (key : GoString) : GoString → Prop
  | login {i : Issued} : i ∈ s → i.key = key → i.origin = .login t₀ → Descends s t₀ key i.value
  | renewal {i : Issued} {presented : GoString} : i ∈ s → i.key = key →
      i.origin = .renewal presented → Descends s t₀ key presented → Descends s t₀ key i.value

/-- The middleware hands the request on. -/
def CallsNext (m : NextFunc → Serve Unit) (c : RequestContext) : Prop :=
  ∃ c', ∀ next, m next c = next c'

/-! ## §2. What a visit issues. -/

section

variable {ext : Ext} {out : Outcomes} {client : ClientConfig} {c : RequestContext}

theorem generateJwtCookie_value {r : Request} {info : AuthInfo} {cookie : Cookie}
    (h : generateJwtCookie out client r info = .ok cookie) :
    ∃ encrypted, out.encrypt client.encryptionKey info = .ok encrypted
      ∧ out.serialize encrypted = .ok cookie.value := by
  obtain ⟨encrypted, henc, h⟩ := bind_eq_ok.mp h
  obtain ⟨serialized, hser, h⟩ := bind_eq_ok.mp h
  cases h
  exact ⟨encrypted, context_eq_ok.mp henc, context_eq_ok.mp hser⟩

theorem generateJwtCookie_name {r : Request} {info : AuthInfo} {cookie : Cookie}
    (h : generateJwtCookie out client r info = .ok cookie) : cookie.name = getCookieName client := by
  obtain ⟨encrypted, _, h⟩ := bind_eq_ok.mp h
  obtain ⟨serialized, _, h⟩ := bind_eq_ok.mp h
  cases h
  rfl

/-- A new session carries the instant it is made with. -/
theorem tokenInfo_authenticatedAt {token : Token} {idToken : IDToken} {authAt : Int}
    {info : AuthInfo} (h : tokenInfo client token idToken authAt = .ok info) :
    info.authenticatedAt = authAt := by
  obtain ⟨claims, _, h⟩ := bind_eq_ok.mp h
  cases h
  rfl

/-- A renewal keeps the instant of the login, and encrypts the renewed session. -/
theorem renewAuthInfo_ok {r : Request} {info newInfo : AuthInfo} {cookie : Cookie}
    (h : renewAuthInfo out client r info = .ok (newInfo, cookie)) :
    newInfo.authenticatedAt = info.authenticatedAt
      ∧ generateJwtCookie out client r newInfo = .ok cookie := by
  obtain ⟨newToken, _, h⟩ := bind_eq_ok.mp h
  obtain ⟨newAuthInfo, hinfo, h⟩ := bind_eq_ok.mp h
  obtain ⟨cookie', hcookie, h⟩ := bind_eq_ok.mp h
  cases h
  obtain ⟨idToken, _, htoken⟩ := bind_eq_ok.mp (context_eq_ok.mp hinfo)
  exact ⟨tokenInfo_authenticatedAt htoken, context_eq_ok.mp hcookie⟩

/-- With or without a renewal the session keeps the instant of its login. -/
theorem renewed_authenticatedAt (r : Request) (info : AuthInfo) :
    (renewed out client r info).1.authenticatedAt = info.authenticatedAt := by
  unfold renewed
  split_ifs
  · rfl
  · rfl
  -- the first two branches do not renew
  · cases hrenew : renewAuthInfo out client r info with
    | error err => rfl
    | ok p => exact (renewAuthInfo_ok hrenew).1

theorem renewed_cookie {r : Request} {info : AuthInfo} {cookie : Cookie}
    (h : (renewed out client r info).2 = some cookie) :
    generateJwtCookie out client r (renewed out client r info).1 = .ok cookie := by
  unfold renewed at h ⊢
  split_ifs at h ⊢
  cases hrenew : renewAuthInfo out client r info with
  | error err =>
      rw [hrenew] at h
      cases h
  | ok p =>
      rw [hrenew] at h
      cases h
      exact (renewAuthInfo_ok hrenew).2

/-- The callback makes a session of the second its clock shows. -/
theorem handleOidcCallback_authenticatedAt :
    Triple (fun _ => True) (handleOidcCallback ext out client)
      (fun info? _ => ∀ info, info? = some info →
        info.authenticatedAt = out.nowCallback.fdiv second) (fun _ _ => True) := by
  -- a refused callback makes no session
  have hbad : ∀ msg, Triple (fun _ => True) (do badRequest ext out msg; pure (none : Option AuthInfo))
      (fun info? _ => ∀ info, info? = some info →
        info.authenticatedAt = out.nowCallback.fdiv second) (fun _ _ => True) := by
    intro msg
    refine (triple_any _).bind fun _ => triple_pure ?_
    intro c _ info h
    cases h
  refine triple_get_bind fun c => ?_
  cases ext.cookie c.r.header cookieState with
  | none => exact hbad _
  | some state =>
      refine Triple.ite (hbad _) ((triple_any _).bind fun token => ?_)
      -- the session of a verified token; the nonce decides whether there is one
      refine triple_get_bind fun c => (triple_any _).bind fun idToken => ?_
      have hinfo : Triple (fun _ => True) (do
            let info ← liftError (tokenInfo client token idToken (out.nowCallback.fdiv second))
            pure (some info) : Serve (Option AuthInfo))
          (fun info? _ => ∀ info, info? = some info →
            info.authenticatedAt = out.nowCallback.fdiv second) (fun _ _ => True) := by
        cases htoken : tokenInfo client token idToken (out.nowCallback.fdiv second) with
        | error err => exact fun _ _ => trivial
        | ok info =>
            intro c _ info' h
            cases h
            exact tokenInfo_authenticatedAt htoken
      refine Triple.ite ?_ hinfo
      cases ext.cookie c.r.header cookieNonce with
      | none => exact hbad _
      | some nonce => exact Triple.ite (hbad _) hinfo

/-- What a login issues. -/
theorem issuedByCallback_some {i : Issued} (h : issuedByCallback ext out client c = some i) :
    i.origin = .login out.nowCallback
      ∧ i.info.authenticatedAt = out.nowCallback.fdiv second
      ∧ ∃ encrypted, out.encrypt i.key i.info = .ok encrypted
        ∧ out.serialize encrypted = .ok i.value := by
  unfold issuedByCallback at h
  have hinfo := @handleOidcCallback_authenticatedAt ext out client c trivial
  rcases hrun : handleOidcCallback ext out client c with ⟨e | info?, c'⟩
  · rw [hrun] at h
    cases h
  · rw [hrun] at h hinfo
    cases info? with
    | none => cases h
    | some info =>
        dsimp only at h
        cases hcookie : generateJwtCookie out client c'.r info with
        | error err =>
            rw [hcookie] at h
            cases h
        | ok cookie =>
            rw [hcookie] at h
            cases h
            exact ⟨rfl, hinfo info rfl, generateJwtCookie_value hcookie⟩

/-- What a renewal issues: a session with the instant of the presented one. -/
theorem issuedByIngress_some {i : Issued} (h : issuedByIngress ext out client c = some i) :
    ∃ presented info, ext.cookie c.r.header (getCookieName client) = some presented
      ∧ extractAuthInfo ext client c.r = .ok info
      ∧ i.key = client.encryptionKey ∧ i.origin = .renewal presented
      ∧ i.info.authenticatedAt = info.authenticatedAt
      ∧ ∃ encrypted, out.encrypt i.key i.info = .ok encrypted
        ∧ out.serialize encrypted = .ok i.value := by
  unfold issuedByIngress at h
  cases hcookie : ext.cookie c.r.header (getCookieName client) with
  | none =>
      rw [hcookie] at h
      cases h
  | some presented =>
      cases hinfo : extractAuthInfo ext client c.r with
      | error err =>
          rw [hcookie, hinfo] at h
          cases h
      | ok info =>
          rw [hcookie, hinfo] at h
          dsimp only at h
          have hat := @renewed_authenticatedAt out client c.r info
          have hgen := @renewed_cookie out client c.r info
          rcases hrenewed : renewed out client c.r info with ⟨newInfo, _ | cookie⟩
          · rw [hrenewed] at h
            cases h
          · rw [hrenewed] at h hat hgen
            cases h
            exact ⟨presented, info, rfl, rfl, rfl, rfl, hat, generateJwtCookie_value (hgen rfl)⟩

/-- The session of a request comes out of its cookie. -/
theorem extractAuthInfo_ok {r : Request} {info : AuthInfo}
    (h : extractAuthInfo ext client r = .ok info) :
    ∃ value data, ext.cookie r.header (getCookieName client) = some value
      ∧ decrypt ext client.encryptionKey value = .ok data
      ∧ ext.unmarshalAuthInfo data = .ok info := by
  unfold extractAuthInfo at h
  cases hcookie : ext.cookie r.header (getCookieName client) with
  | none =>
      rw [hcookie] at h
      cases h
  | some value =>
      rw [hcookie] at h
      dsimp only at h
      cases hdata : decrypt ext client.encryptionKey value with
      | error err =>
          rw [hdata] at h
          cases h
      | ok data =>
          rw [hdata] at h
          dsimp only at h
          cases hinfo : ext.unmarshalAuthInfo data with
          | error err =>
              rw [hinfo] at h
              cases h
          | ok info' =>
              rw [hinfo] at h
              cases h
              exact ⟨value, data, rfl, hdata, hinfo⟩

end

/-! ## §3. Every cookie descends from its login. -/

/-- A longer history has the same descents. -/
theorem Descends.mono {s s' : List Issued} {t₀ : Int} {key value : GoString} (hsub : s ⊆ s')
    (h : Descends s t₀ key value) : Descends s' t₀ key value := by
  -- along the renewals, back to the login
  induction h with
  | login hi hkey horigin => exact .login (hsub hi) hkey horigin
  | renewal hi hkey horigin _ ih => exact .renewal (hsub hi) hkey horigin ih

/-- The invariant of the history. -/
structure Rooted (ext : Ext) (s : List Issued) : Prop where
  readable : ∀ i ∈ s, ∀ data info, decrypt ext i.key i.value = .ok data →
    ext.unmarshalAuthInfo data = .ok info → info.authenticatedAt = i.info.authenticatedAt
  descends : ∀ i ∈ s, ∃ t₀, Descends s t₀ i.key i.value
    ∧ i.info.authenticatedAt = t₀.fdiv second
  kept : ∀ i ∈ s, ∀ presented, i.origin = .renewal presented → ∃ j ∈ s, j.key = i.key
    ∧ j.value = presented ∧ j.info.authenticatedAt = i.info.authenticatedAt

section

variable {ext : Ext} {s s' : List Issued} {v : Visit}

theorem rooted_nil : Rooted ext [] where
  readable i hi := by cases hi
  descends i hi := by cases hi
  kept i hi := by cases hi

/-- The session of a genuine request stands in the history, with the same instant. -/
theorem exists_issued (hs : Rooted ext s) {client : ClientConfig} {r : Request}
    (hgen : Genuine ext s client r) {info : AuthInfo}
    (h : extractAuthInfo ext client r = .ok info) :
    ∃ i ∈ s, i.key = client.encryptionKey
      ∧ ext.cookie r.header (getCookieName client) = some i.value
      ∧ info.authenticatedAt = i.info.authenticatedAt := by
  obtain ⟨value, data, hcookie, hdata, hinfo⟩ := extractAuthInfo_ok h
  obtain ⟨i, hi, hkey, hvalue⟩ := hgen value data hcookie hdata
  refine ⟨i, hi, hkey, by rw [hvalue]; exact hcookie, ?_⟩
  exact hs.readable i hi data info (by rw [hkey, hvalue]; exact hdata) hinfo

/-- One more cookie, rooted in the longer history. -/
theorem Rooted.snoc (hs : Rooted ext s) {i : Issued}
    (hreadable : ∀ data info, decrypt ext i.key i.value = .ok data →
      ext.unmarshalAuthInfo data = .ok info → info.authenticatedAt = i.info.authenticatedAt)
    (hdescends : ∃ t₀, Descends (s ++ [i]) t₀ i.key i.value
      ∧ i.info.authenticatedAt = t₀.fdiv second)
    (hkept : ∀ presented, i.origin = .renewal presented → ∃ j ∈ s, j.key = i.key
      ∧ j.value = presented ∧ j.info.authenticatedAt = i.info.authenticatedAt) :
    Rooted ext (s ++ [i]) where
  -- what was issued before keeps its place; the new cookie meets the hypotheses
  readable j hj := by
    rcases List.mem_append.mp hj with hj | hj
    · exact hs.readable j hj
    · rw [List.mem_singleton.mp hj]
      exact hreadable
  descends j hj := by
    rcases List.mem_append.mp hj with hj | hj
    · obtain ⟨t₀, hd, hat⟩ := hs.descends j hj
      exact ⟨t₀, hd.mono (List.subset_append_left _ _), hat⟩
    · rw [List.mem_singleton.mp hj]
      exact hdescends
  kept j hj presented horigin := by
    have hbefore : ∃ k ∈ s, k.key = j.key ∧ k.value = presented
        ∧ k.info.authenticatedAt = j.info.authenticatedAt := by
      rcases List.mem_append.mp hj with hj | hj
      · exact hs.kept j hj presented horigin
      · rw [List.mem_singleton.mp hj] at horigin ⊢
        exact hkept presented horigin
    obtain ⟨k, hk, hrest⟩ := hbefore
    exact ⟨k, List.mem_append_left _ hk, hrest⟩

/-- **Every visit keeps the invariant.** -/
theorem SessionStep.rooted (hs : Rooted ext s) (hstep : SessionStep ext s v s')
    (hsound : v.Sound ext s) : Rooted ext s' := by
  unfold SessionStep at hstep
  cases hissues : v.issues ext with
  | none =>
      rw [hstep, hissues]
      simpa using hs
  | some i =>
      rw [hissues] at hstep
      rw [hstep]
      have hmem : i ∈ s ++ [i] := List.mem_append_right _ List.mem_cons_self
      cases v with
      -- a login is its own root
      | callback out client c =>
          obtain ⟨horigin, hat, encrypted, henc, hser⟩ := issuedByCallback_some hissues
          refine hs.snoc (fun data info hdata hinfo => ?_) ⟨out.nowCallback, ?_, hat⟩ ?_
          · exact hsound _ _ _ _ _ _ henc hser hdata hinfo
          · exact .login hmem rfl horigin
          · intro presented h
            rw [horigin] at h
            cases h
      | ingress out client c =>
          obtain ⟨presented, info, hcookie, hinfo, hkey, horigin, hat, encrypted, henc, hser⟩ :=
            issuedByIngress_some hissues
          -- the presented cookie was issued before, so it has a login to descend from
          obtain ⟨j, hj, hjkey, hjcookie, hjat⟩ := exists_issued hs hsound.2 hinfo
          have hvalue : j.value = presented := Option.some.inj (hjcookie.symm.trans hcookie)
          obtain ⟨t₀, hd, hjt₀⟩ := hs.descends j hj
          have hsame : i.info.authenticatedAt = j.info.authenticatedAt := hat.trans hjat
          refine hs.snoc (fun data info hdata hinfo => ?_) ⟨t₀, ?_, hsame.trans hjt₀⟩ ?_
          · exact hsound.1 _ _ _ _ _ _ henc hser hdata hinfo
          · refine .renewal hmem rfl horigin ?_
            rw [hkey, ← hjkey, ← hvalue]
            exact hd.mono (List.subset_append_left _ _)
          · intro presented' h
            rw [horigin] at h
            cases h
            exact ⟨j, hj, hjkey.trans hkey.symm, hvalue, hsame.symm⟩

/-! ## §4. The bound. -/

/-- Only a session that grants access lets a request through. -/
theorem sessionGrants_of_callsNext {out : Outcomes} {client : ClientConfig}
    {ingress : OidcIngressConfig} {c : RequestContext}
    (h : CallsNext (oidcIngress ext out client ingress) c) :
    SessionGrants ext out client ingress c.r := by
  by_contra hnot
  obtain ⟨c', hnext⟩ := h
  -- without one the closure answers by itself, whatever comes next; it does not panic
  have hanswered := (oidcIngress_screens ext out client ingress).deny (throw (.panic [])) c hnot
  rw [hnext] at hanswered
  obtain ⟨⟨err, herr⟩, _⟩ := hanswered
  cases herr

/-- The seconds of an instant are not after it. -/
theorem fdiv_second_le (t : Int) : t.fdiv second * second ≤ t := by
  have hpos : (0 : Int) < second := by decide
  rw [Int.fdiv_eq_ediv_of_nonneg _ hpos.le]
  exact Int.ediv_mul_le t hpos.ne'

/-- **A session lives no longer than its login allows.**  After any run of visits, a request is
let through at an instant only if its cookie descends from a login less than the expiration
before it; and every renewed session keeps the instant of the session it renews. -/
theorem session_bounded {visits : List Visit}
    (hrun : Run (Guarded (SessionStep ext) fun s v => v.Sound ext s) [] visits s) :
    (∀ out client ingress c, client.expiration ≠ 0 → Genuine ext s client c.r →
      CallsNext (oidcIngress ext out client ingress) c →
        ∃ value t₀, ext.cookie c.r.header (getCookieName client) = some value
          ∧ Descends s t₀ client.encryptionKey value
          ∧ out.nowValidate < t₀ + client.expiration)
    ∧ ∀ i ∈ s, ∀ presented, i.origin = .renewal presented → ∃ j ∈ s, j.key = i.key
        ∧ j.value = presented ∧ j.info.authenticatedAt = i.info.authenticatedAt := by
  have hs : Rooted ext s :=
    hrun.invariant (fun s v s' hs hstep => hstep.1.rooted hs hstep.2) rooted_nil
  refine ⟨?_, hs.kept⟩
  intro out client ingress c hexp hgen hnext
  -- the session that was let through is in the history, and it was valid after its renewal
  obtain ⟨info, hinfo, hvalid, _⟩ := sessionGrants_of_callsNext hnext
  obtain ⟨i, hi, hkey, hcookie, hat⟩ := exists_issued hs hgen hinfo
  obtain ⟨t₀, hd, ht₀⟩ := hs.descends i hi
  refine ⟨i.value, t₀, hcookie, by rw [← hkey]; exact hd, ?_⟩
  -- the clock was before the expiration of the recorded second
  unfold validateInfo at hvalid
  split_ifs at hvalid with hname
  have hclock := of_decide_eq_true hvalid
  rw [renewed_authenticatedAt, hat, ht₀] at hclock
  have hle := fdiv_second_le t₀
  omega

end

/-! ## §5. A login, its renewal and a request, to evaluate the history on. -/

/-- A session of a login at the instant 0 whose tokens are due for renewal. -/
def sessionInfo : AuthInfo := ⟨lit "u", lit "u@a.org", [], lit "c", 0, 0, [], lit "refresh"⟩

/-- A platform where a cookie stands under its name in the header, and every cookie decrypts
to the session above. -/
def Ext.sessions : Ext :=
  { Ext.small with
    cookie := fun header name => (header.lookup name).bind List.head?
    decrypt := fun _ value => .ok value
    unmarshalAuthInfo := fun _ => .ok sessionInfo }

def sessionToken : Token := ⟨[], lit "refresh", 0, some []⟩

/-- A provider that always gives tokens; what is encrypted is serialized to `value`. -/
def Outcomes.sessions (headerOrder : GoMap.RangeChoice GoString (List GoString))
    (value : GoString) : Outcomes :=
  { Outcomes.small headerOrder with
    refreshToken := fun _ _ => .ok sessionToken
    exchange := fun _ _ => .ok sessionToken
    verifyIdToken := fun _ _ => .ok ⟨lit "u", [], .ok ⟨lit "u@a.org", []⟩⟩
    encrypt := fun _ info => if info.authenticatedAt = 0 then .ok [] else .error []
    serialize := fun _ => .ok value
    nowValidate := 5 * second }

/-- A client whose sessions last ten seconds. -/
def sessionClient : ClientConfig :=
  ⟨lit "c", ([], []), ⟨[], [], lit "idp", [], []⟩, lit "a", [], 10 * second, lit "key"⟩

def sessionContext (header : Header) : RequestContext where
  r := ⟨lit "GET", lit "a", ⟨[], [], lit "/", [], [], []⟩, header, true, lit "10.0.0.9:80", 0⟩
  w := ⟨∅, [], 0⟩
  requestId := lit "uuid"
  remoteIp := ⟨.v4 0x0A000009, 80⟩
  realIp := .v4 0x0A000009
  matchedRoute := none
  upstreamRequest := none
  routingConfig := ⟨∅, ∅, none, [], [], [], none⟩
  responseHeader := ∅
  responseCookies := []
  upstreamContacts := []

/-- The provider's answer to a login. -/
def callbackContext : RequestContext :=
  sessionContext ((Finmap.singleton cookieState [[]]).insert cookieNonce [[]])

/-- A request with a session cookie. -/
def presenting (value : GoString) : RequestContext :=
  sessionContext (Finmap.singleton (getCookieName sessionClient) [value])

theorem faithful_sessions (headerOrder : GoMap.RangeChoice GoString (List GoString))
    (value : GoString) : Faithful Ext.sessions (Outcomes.sessions headerOrder value) := by
  intro key info encrypted serialized data info' henc _ _ hinfo
  cases hinfo
  show (0 : Int) = info.authenticatedAt
  by_contra hne
  have herr : (Outcomes.sessions headerOrder value).encrypt key info = .error [] :=
    if_neg fun h => hne h.symm
  rw [herr] at henc
  cases henc

/-- The renewed cookie is let through after five of the ten seconds. -/
theorem session_bounded_renewed : ∃ out₁ out₂ s,
    Run (Guarded (SessionStep Ext.sessions) fun s v => v.Sound Ext.sessions s) []
      [.callback out₁ sessionClient callbackContext,
        .ingress out₂ sessionClient (presenting (lit "s1"))] s
    ∧ CallsNext (oidcIngress Ext.sessions out₂ sessionClient ⟨none, none⟩) (presenting (lit "s2"))
    ∧ ∃ t₀, Descends s t₀ (lit "key") (lit "s2") ∧ 5 * second < t₀ + 10 * second := by
  obtain ⟨headerOrder⟩ := (inferInstance : Nonempty (GoMap.RangeChoice GoString (List GoString)))
  let out₁ := Outcomes.sessions headerOrder (lit "s1")
  let out₂ := Outcomes.sessions headerOrder (lit "s2")
  let first : Issued := ⟨lit "key", lit "s1", sessionInfo, .login 0⟩
  let second' : Issued := ⟨lit "key", lit "s2", sessionInfo, .renewal (lit "s1")⟩
  have hlogin : SessionStep Ext.sessions [] (.callback out₁ sessionClient callbackContext)
      [first] := rfl
  have hrenewal : SessionStep Ext.sessions [first]
      (.ingress out₂ sessionClient (presenting (lit "s1"))) [first, second'] := rfl
  have hgen₁ : Genuine Ext.sessions [first] sessionClient (presenting (lit "s1")).r := by
    intro value data hcookie _
    exact ⟨first, List.mem_cons_self, rfl, Option.some.inj hcookie⟩
  have hgen₂ : Genuine Ext.sessions [first, second'] sessionClient (presenting (lit "s2")).r := by
    intro value data hcookie _
    exact ⟨second', List.mem_cons_of_mem _ List.mem_cons_self, rfl, Option.some.inj hcookie⟩
  have hrun : Run (Guarded (SessionStep Ext.sessions) fun s v => v.Sound Ext.sessions s) []
      [.callback out₁ sessionClient callbackContext,
        .ingress out₂ sessionClient (presenting (lit "s1"))] [first, second'] :=
    .cons ⟨hlogin, faithful_sessions headerOrder _⟩
      (.single ⟨hrenewal, faithful_sessions headerOrder _, hgen₁⟩)
  have hnext : CallsNext (oidcIngress Ext.sessions out₂ sessionClient ⟨none, none⟩)
      (presenting (lit "s2")) :=
    ⟨_, fun next => oidcIngress_pass Ext.sessions out₂ rfl rfl rfl next⟩
  obtain ⟨value, t₀, hcookie, hd, hlt⟩ :=
    (session_bounded hrun).1 out₂ sessionClient ⟨none, none⟩ _ (by decide) hgen₂ hnext
  cases hcookie
  exact ⟨out₁, out₂, _, hrun, hnext, t₀, hd, hlt⟩

end SIngress.Modules.Oidc
