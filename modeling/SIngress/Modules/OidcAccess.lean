/-
  SIngress.Modules.OidcAccess — WHO GETS THROUGH: access lists and the client of a session.

  Two decisions stand between a readable session and the route.

  The access lists are texts.  An item of a list is what is left between two
  commas when the blanks around it are cut, and a blank item names nobody.
  `parseAnnotationArray` keeps blank items, and a blank item is equal to a
  claim that the token does not have:

    • `checkAccess_listed_iff` — where `checkAccess` admits exactly the listed
      identities,
    • `checkAccess_listed_all_iff` — it does so for everybody exactly if no
      list has a blank item.

  A session names the client it was made for, and `validateInfo` compares the
  name.  The renewal comes before, and it makes a new session in the name of
  the client that renews:

    • `sessionsBound_iff` — a foreign session is turned away exactly if it is
      not renewed into a live one.
-/
import SIngress.Modules.OidcLifetime

namespace SIngress.Modules.Oidc

open SIngress.Base SIngress.Lib SIngress.K8s SIngress.Platform SIngress.Config SIngress.Proxy

/-! ## §1. Access lists. -/

/-- The items of an annotation that name somebody. -/
def listedItems (value : GoString) : List GoString :=
  ((split value byteComma).map trimSpace).filter (· ≠ [])

/-- The annotation has a value, and a blank item in it. -/
def HasBlank (value : GoString) : Prop := value ≠ [] ∧ [] ∈ (split value byteComma).map trimSpace

instance (value : GoString) : Decidable (HasBlank value) := inferInstanceAs (Decidable (_ ∧ _))

/-- The e-mail or a group of the user is listed. -/
def Listed (groups emails : GoString) (info : AuthInfo) : Prop :=
  (info.email ≠ [] ∧ info.email ∈ listedItems emails)
    ∨ ∃ group ∈ info.groups, group ≠ [] ∧ group ∈ listedItems groups

/-- Nothing is required, or the user is listed. -/
def Admits (groups emails : GoString) (info : AuthInfo) : Prop :=
  (groups = [] ∧ emails = []) ∨ Listed groups emails info

/-- A blank item of a list meets a claim that is missing or empty. -/
def BlankMeets (groups emails : GoString) (info : AuthInfo) : Prop :=
  (info.email = [] ∧ HasBlank emails) ∨ ([] ∈ info.groups ∧ HasBlank groups)

theorem parseAnnotationArray_isNone {value : GoString} :
    (parseAnnotationArray value).isNone = true ↔ value = [] := by
  unfold parseAnnotationArray
  by_cases h : value = []
  · simp [h]
  · simp [h]

/-- What the parsed list holds: the listed items, and the blank one if the text has one. -/
theorem mem_parsed_iff {value item : GoString} :
    item ∈ (parseAnnotationArray value).getD [] ↔
      (item ≠ [] ∧ item ∈ listedItems value) ∨ (item = [] ∧ HasBlank value) := by
  unfold parseAnnotationArray listedItems HasBlank
  by_cases hvalue : value = []
  · -- an absent list holds nothing, and the empty text has no item
    have htrim : trimSpace [] = [] := by decide
    simp [hvalue, htrim]
  · by_cases hitem : item = []
    · simp [hvalue, hitem]
    · simp [hvalue, hitem]

/-- The e-mail is in the parsed list. -/
theorem contains_email_iff {emails : GoString} {info : AuthInfo} :
    ((parseAnnotationArray emails).getD []).contains info.email = true ↔
      (info.email ≠ [] ∧ info.email ∈ listedItems emails)
        ∨ (info.email = [] ∧ HasBlank emails) := by
  rw [List.contains_iff_mem, mem_parsed_iff]

/-- A group is in the parsed list. -/
theorem any_group_iff {groups : GoString} {info : AuthInfo} :
    (info.groups.any fun g => ((parseAnnotationArray groups).getD []).contains g) = true ↔
      (∃ g ∈ info.groups, g ≠ [] ∧ g ∈ listedItems groups)
        ∨ ([] ∈ info.groups ∧ HasBlank groups) := by
  simp only [List.any_eq_true, List.contains_iff_mem, mem_parsed_iff]
  constructor
  · rintro ⟨g, hg, hlisted | ⟨rfl, hblank⟩⟩
    · exact Or.inl ⟨g, hg, hlisted⟩
    · exact Or.inr ⟨hg, hblank⟩
  · rintro (⟨g, hg, hlisted⟩ | ⟨hg, hblank⟩)
    · exact ⟨g, hg, Or.inl hlisted⟩
    · exact ⟨[], hg, Or.inr ⟨rfl, hblank⟩⟩

/-- **What `checkAccess` admits.** -/
theorem checkAccess_iff {ingress : Ingress} {info : AuthInfo} :
    checkAccess (parseIngressAnnotations ingress) info = true ↔
      Admits (ingress.annotationValue allowGroupAnnotationKey)
          (ingress.annotationValue allowEmailAnnotationKey) info
        ∨ BlankMeets (ingress.annotationValue allowGroupAnnotationKey)
          (ingress.annotationValue allowEmailAnnotationKey) info := by
  unfold parseIngressAnnotations
  generalize ingress.annotationValue allowGroupAnnotationKey = groups
  generalize ingress.annotationValue allowEmailAnnotationKey = emails
  unfold checkAccess Admits Listed BlankMeets
  dsimp only
  by_cases hnone : groups = [] ∧ emails = []
  · rw [hnone.1, hnone.2]
    exact iff_of_true rfl (Or.inl (Or.inl ⟨rfl, rfl⟩))
  · have hsome : ¬ ((parseAnnotationArray emails).isNone && (parseAnnotationArray groups).isNone)
        = true := by
      rw [Bool.and_eq_true, parseAnnotationArray_isNone, parseAnnotationArray_isNone]
      exact fun h => hnone ⟨h.2, h.1⟩
    rw [if_neg hsome, or_iff_right hnone, or_or_or_comm, ← contains_email_iff, ← any_group_iff]
    split_ifs with hmail
    · exact iff_of_true rfl (Or.inl hmail)
    · exact (or_iff_right hmail).symm

/-- A blank item only occurs where something is required. -/
theorem not_unrestricted_of_blankMeets {groups emails : GoString} {info : AuthInfo}
    (h : BlankMeets groups emails info) : ¬ (groups = [] ∧ emails = []) := by
  rintro ⟨hgroups, hemails⟩
  rcases h with ⟨_, hblank⟩ | ⟨_, hblank⟩
  · exact hblank.1 hemails
  · exact hblank.1 hgroups

/-- **Who is admitted**: exactly the listed identities, unless a blank item meets a missing
claim of an identity that is not listed. -/
theorem checkAccess_listed_iff (ingress : Ingress) (info : AuthInfo) :
    (checkAccess (parseIngressAnnotations ingress) info = true ↔
        Admits (ingress.annotationValue allowGroupAnnotationKey)
          (ingress.annotationValue allowEmailAnnotationKey) info)
      ↔ (BlankMeets (ingress.annotationValue allowGroupAnnotationKey)
            (ingress.annotationValue allowEmailAnnotationKey) info →
          Listed (ingress.annotationValue allowGroupAnnotationKey)
            (ingress.annotationValue allowEmailAnnotationKey) info) := by
  rw [checkAccess_iff]
  constructor
  · intro h hblank
    exact (h.mp (Or.inr hblank)).resolve_left (not_unrestricted_of_blankMeets hblank)
  · intro h
    constructor
    · rintro (hadmits | hblank)
      · exact hadmits
      · exact Or.inr (h hblank)
    · exact Or.inl

/-- An ingress that requires the e-mail `a@b`, with a comma behind it. -/
def trailingComma : Ingress :=
  Ingress.small (lit "a") (Finmap.singleton allowEmailAnnotationKey (lit "a@b,")) [] []

/-- A session of a token without e-mail and groups. -/
def anonymousInfo : AuthInfo := ⟨lit "u", [], [], lit "c", 0, 0, [], []⟩

/-- The trailing comma admits an identity without an e-mail. -/
theorem checkAccess_trailing_comma :
    checkAccess (parseIngressAnnotations trailingComma) anonymousInfo = true
      ∧ ¬ Admits (trailingComma.annotationValue allowGroupAnnotationKey)
        (trailingComma.annotationValue allowEmailAnnotationKey) anonymousInfo := by
  refine ⟨by decide, ?_⟩
  rintro (⟨_, hemails⟩ | ⟨hne, _⟩ | ⟨g, hg, _⟩)
  · exact absurd hemails (by decide)
  · exact hne rfl
  · cases hg

/-- For everybody, exactly if no list has a blank item. -/
theorem checkAccess_listed_all_iff (ingress : Ingress) :
    (∀ info, checkAccess (parseIngressAnnotations ingress) info = true ↔
        Admits (ingress.annotationValue allowGroupAnnotationKey)
          (ingress.annotationValue allowEmailAnnotationKey) info)
      ↔ ¬ HasBlank (ingress.annotationValue allowEmailAnnotationKey)
        ∧ ¬ HasBlank (ingress.annotationValue allowGroupAnnotationKey) := by
  simp only [checkAccess_iff]
  constructor
  · intro h
    -- an identity with neither an e-mail nor a group that is not empty
    have hanyone : ∀ info : AuthInfo, info.email = [] → (∀ g ∈ info.groups, g = []) →
        ¬ Listed (ingress.annotationValue allowGroupAnnotationKey)
          (ingress.annotationValue allowEmailAnnotationKey) info := by
      rintro info hemail hgroups (⟨hne, _⟩ | ⟨g, hg, hne, _⟩)
      · exact hne hemail
      · exact hne (hgroups g hg)
    constructor
    · intro hblank
      have hmeets : BlankMeets (ingress.annotationValue allowGroupAnnotationKey)
          (ingress.annotationValue allowEmailAnnotationKey) anonymousInfo := Or.inl ⟨rfl, hblank⟩
      exact hanyone anonymousInfo rfl (fun g hg => by cases hg)
        (((h anonymousInfo).mp (Or.inr hmeets)).resolve_left (not_unrestricted_of_blankMeets hmeets))
    · intro hblank
      have hmeets : BlankMeets (ingress.annotationValue allowGroupAnnotationKey)
          (ingress.annotationValue allowEmailAnnotationKey) { anonymousInfo with groups := [[]] } :=
        Or.inr ⟨List.mem_cons_self, hblank⟩
      refine hanyone { anonymousInfo with groups := [[]] } rfl ?_
        (((h _).mp (Or.inr hmeets)).resolve_left (not_unrestricted_of_blankMeets hmeets))
      intro g hg
      exact List.mem_singleton.mp hg
  · rintro ⟨hemails, hgroups⟩ info
    refine or_iff_left ?_
    rintro (⟨_, hblank⟩ | ⟨_, hblank⟩)
    · exact hemails hblank
    · exact hgroups hblank

/-! ## §2. The client of a session. -/

section

variable (ext : Ext) (out : Outcomes) (client : ClientConfig)

/-- The session a renewal makes of the answers of the provider. -/
def takenOver (info : AuthInfo) (token : Token) (idToken : IDToken) (claims : Claims) : AuthInfo where
  subject := idToken.subject
  email := claims.email
  groups := claims.groups
  clientName := client.name
  authenticatedAt := info.authenticatedAt
  tokenExpiry := token.expiry
  accessToken := token.accessToken
  refreshToken := token.refreshToken

/-- The instant a renewed session ends at. -/
def renewedUntil (info : AuthInfo) (token : Token) : Int :=
  if client.expiration ≠ 0 then info.authenticatedAt * second + client.expiration
  else token.expiry * second

/-- The session is due for renewal, the provider renews it, the new session can be sealed, and
it has not ended. -/
def RenewsAlive (info : AuthInfo) : Prop :=
  info.refreshToken ≠ [] ∧ info.tokenExpiry * second ≤ out.nowRenew + renewOffset
    ∧ ∃ token idToken claims encrypted value,
      out.refreshToken client.oauth2Config
          ⟨info.accessToken, info.refreshToken, info.tokenExpiry, none⟩ = .ok token
        ∧ verifyToken out client token = .ok idToken
        ∧ idToken.claims = .ok claims
        ∧ out.encrypt client.encryptionKey (takenOver client info token idToken claims)
          = .ok encrypted
        ∧ out.serialize encrypted = .ok value
        ∧ renewedUntil client info token > out.nowValidate

/-- Whatever the access lists are, a request is handed on only with a session sealed for the
client, and a session sealed for another one is treated like none. -/
def SessionsBound (c : RequestContext) : Prop :=
  ∀ ingress,
    (CallsNext (oidcIngress ext out client ingress) c →
      ∃ info, extractAuthInfo ext client c.r = .ok info ∧ info.clientName = client.name)
    ∧ ∀ info, extractAuthInfo ext client c.r = .ok info → info.clientName ≠ client.name →
        ∃ cookies, ∀ next, oidcIngress ext out client ingress next c
          = handleUnauthorized ext out client { c with responseCookies := cookies }

end

section

variable {ext : Ext} {out : Outcomes} {client : ClientConfig}

/-- **What a renewal needs, and what it makes.** -/
theorem renewAuthInfo_eq_ok {r : Request} {info newInfo : AuthInfo} :
    (∃ cookie, renewAuthInfo out client r info = .ok (newInfo, cookie)) ↔
      ∃ token idToken claims encrypted value,
        out.refreshToken client.oauth2Config
            ⟨info.accessToken, info.refreshToken, info.tokenExpiry, none⟩ = .ok token
          ∧ verifyToken out client token = .ok idToken
          ∧ idToken.claims = .ok claims
          ∧ newInfo = takenOver client info token idToken claims
          ∧ out.encrypt client.encryptionKey newInfo = .ok encrypted
          ∧ out.serialize encrypted = .ok value := by
  constructor
  · rintro ⟨cookie, h⟩
    obtain ⟨token, htoken, h⟩ := bind_eq_ok.mp h
    obtain ⟨info', hinfo, h⟩ := bind_eq_ok.mp h
    obtain ⟨cookie', hcookie, h⟩ := bind_eq_ok.mp h
    cases h
    obtain ⟨idToken, hid, hinfo⟩ := bind_eq_ok.mp (context_eq_ok.mp hinfo)
    obtain ⟨claims, hclaims, hinfo⟩ := bind_eq_ok.mp hinfo
    obtain ⟨encrypted, henc, hser⟩ := generateJwtCookie_value (context_eq_ok.mp hcookie)
    exact ⟨token, idToken, claims, encrypted, _, context_eq_ok.mp htoken, hid,
      context_eq_ok.mp hclaims, (Except.ok.inj hinfo).symm, henc, hser⟩
  · rintro ⟨token, idToken, claims, encrypted, value, htoken, hid, hclaims, rfl, henc, hser⟩
    have hcookie : ∃ cookie, generateJwtCookie out client r
        (takenOver client info token idToken claims) = .ok cookie := by
      unfold generateJwtCookie
      rw [henc]
      show ∃ cookie, (context _ (out.serialize encrypted) >>= _) = _
      rw [hser]
      exact ⟨_, rfl⟩
    obtain ⟨cookie, hcookie⟩ := hcookie
    refine ⟨cookie, bind_eq_ok.mpr ⟨token, context_eq_ok.mpr htoken, ?_⟩⟩
    refine bind_eq_ok.mpr ⟨takenOver client info token idToken claims,
      context_eq_ok.mpr (bind_eq_ok.mpr ⟨idToken, hid, ?_⟩), ?_⟩
    · exact bind_eq_ok.mpr ⟨claims, context_eq_ok.mpr hclaims, rfl⟩
    · exact bind_eq_ok.mpr ⟨cookie, context_eq_ok.mpr hcookie, rfl⟩

/-- A session made by a renewal bears the name of the client, and is valid until it ends. -/
theorem validateInfo_takenOver {info : AuthInfo} {token : Token} {idToken : IDToken}
    {claims : Claims} :
    validateInfo out client (takenOver client info token idToken claims) = true ↔
      renewedUntil client info token > out.nowValidate := by
  have hname : (takenOver client info token idToken claims).clientName = client.name := rfl
  unfold validateInfo renewedUntil
  rw [if_neg (not_not.mpr hname)]
  split_ifs
  · exact decide_eq_true_iff
  · exact decide_eq_true_iff

theorem validateInfo_foreign {info : AuthInfo} (h : info.clientName ≠ client.name) :
    validateInfo out client info = false := by
  unfold validateInfo
  rw [if_pos h]

/-- **A foreign session is valid after the renewal exactly if it is renewed into a live one.** -/
theorem validateInfo_renewed_foreign {r : Request} {info : AuthInfo}
    (hforeign : info.clientName ≠ client.name) :
    validateInfo out client (renewed out client r info).1 = true ↔ RenewsAlive out client info := by
  have hold : ¬ validateInfo out client info = true := by
    rw [validateInfo_foreign hforeign]
    simp
  unfold renewed RenewsAlive
  by_cases hrefresh : info.refreshToken = []
  · rw [if_pos (by rw [hrefresh]; rfl)]
    exact iff_of_false hold fun h => h.1 hrefresh
  · rw [if_neg (by rw [List.isEmpty_iff]; exact hrefresh)]
    by_cases hdue : info.tokenExpiry * second > out.nowRenew + renewOffset
    · rw [if_pos hdue]
      exact iff_of_false hold fun h => absurd h.2.1 (not_le.mpr hdue)
    · rw [if_neg hdue]
      cases hrenew : renewAuthInfo out client r info with
      | error err =>
          -- a failed renewal keeps the foreign session
          refine iff_of_false hold ?_
          rintro ⟨_, _, token, idToken, claims, encrypted, value, htoken, hid, hclaims, henc, hser, _⟩
          obtain ⟨cookie, hok⟩ := renewAuthInfo_eq_ok.mpr
            ⟨token, idToken, claims, encrypted, value, htoken, hid, hclaims, rfl, henc, hser⟩
          rw [hok] at hrenew
          cases hrenew
      | ok p =>
          obtain ⟨token, idToken, claims, encrypted, value, htoken, hid, hclaims, hnew, henc, hser⟩ :=
            renewAuthInfo_eq_ok.mp ⟨p.2, hrenew⟩
          show validateInfo out client p.1 = true ↔ _
          rw [hnew, validateInfo_takenOver]
          rw [hnew] at henc
          constructor
          · intro halive
            exact ⟨hrefresh, not_lt.mp hdue, token, idToken, claims, encrypted, value, htoken, hid,
              hclaims, henc, hser, halive⟩
          · rintro ⟨_, _, token', idToken', claims', _, _, htoken', _, _, _, _, halive⟩
            -- the provider gives one answer
            rw [htoken] at htoken'
            rw [Except.ok.inj htoken']
            exact halive

/-- An invalid session is treated like none. -/
theorem oidcIngress_invalid {ingress : OidcIngressConfig} {c : RequestContext} {info : AuthInfo}
    (hinfo : extractAuthInfo ext client c.r = .ok info)
    (hvalid : ¬ validateInfo out client (renewed out client c.r info).1 = true) (next : NextFunc) :
    oidcIngress ext out client ingress next c
      = handleUnauthorized ext out client { c with responseCookies :=
          c.responseCookies ++ (renewed out client c.r info).2.toList } := by
  simp only [oidcIngress, get_bind_run, hinfo]
  rw [bind_run, handleRenewingAuthInfo_run]
  dsimp only
  rw [if_pos hvalid]

/-- **When a session is bound to its client**: a session in the cookie that was sealed for
another client is not renewed into a live one. -/
theorem sessionsBound_iff (ext : Ext) (out : Outcomes) (client : ClientConfig)
    (c : RequestContext) :
    SessionsBound ext out client c ↔
      ∀ info, extractAuthInfo ext client c.r = .ok info → info.clientName ≠ client.name →
        ¬ RenewsAlive out client info := by
  constructor
  · intro h info hinfo hforeign halive
    -- without access lists such a session is handed on
    have hvalid := (validateInfo_renewed_foreign (r := c.r) hforeign).mpr halive
    have hnext : CallsNext (oidcIngress ext out client ⟨none, none⟩) c :=
      ⟨_, fun next => oidcIngress_pass ext out hinfo hvalid rfl next⟩
    obtain ⟨info', hinfo', hname⟩ := (h ⟨none, none⟩).1 hnext
    rw [hinfo] at hinfo'
    rw [← Except.ok.inj hinfo'] at hname
    exact hforeign hname
  · intro h ingress
    constructor
    · intro hnext
      obtain ⟨info, hinfo, hvalid, _⟩ := sessionGrants_of_callsNext hnext
      refine ⟨info, hinfo, ?_⟩
      by_contra hforeign
      exact h info hinfo hforeign ((validateInfo_renewed_foreign hforeign).mp hvalid)
    · intro info hinfo hforeign
      refine ⟨_, fun next => oidcIngress_invalid hinfo ?_ next⟩
      intro hvalid
      exact h info hinfo hforeign ((validateInfo_renewed_foreign hforeign).mp hvalid)

end

/-- A client with the key of `sessionClient` and another name. -/
def otherClient : ClientConfig := { sessionClient with name := lit "d" }

/-- A cookie of the first client, presented to the second. -/
def presentingOther : RequestContext :=
  sessionContext (Finmap.singleton (getCookieName otherClient) [lit "s1"])

/-- The session sealed for the client `c` is renewed by the client `d`, and handed on. -/
theorem sessionsBound_other_client : ∃ out,
    extractAuthInfo Ext.sessions otherClient presentingOther.r = .ok sessionInfo
      ∧ sessionInfo.clientName ≠ otherClient.name
      ∧ CallsNext (oidcIngress Ext.sessions out otherClient ⟨none, none⟩) presentingOther := by
  obtain ⟨headerOrder⟩ := (inferInstance : Nonempty (GoMap.RangeChoice GoString (List GoString)))
  refine ⟨Outcomes.sessions headerOrder (lit "s2"), rfl, by decide, ?_⟩
  exact ⟨_, fun next => oidcIngress_pass Ext.sessions _ rfl rfl rfl next⟩

end SIngress.Modules.Oidc
