/-
  SIngress.Modules.OidcLogin — WHERE A LOGIN RETURNS TO.

  `startLogin` writes the URL of the request into a cookie, and the callback
  redirects to what it finds there.  On the way the URL is assembled
  (`getRequestUrl`), printed and escaped (`url.URL.String`), stripped of the
  bytes a cookie may not hold (`http.SetCookie`), read back and written into
  the `Location` of a redirect.

  * `returnedUrl_same_iff`     — what is left of host, path and query.
  * `startLogin_run`           — a login that begins sends its three cookies.
  * `handleCallback_redirects` — a callback that succeeds redirects to the
                                 cookie.
  * `login_returns_iff`        — the whole way: the user comes back to the
                                 requested URL exactly if it has no query, its
                                 path is empty or rooted and spelled as the
                                 library does, no semicolon stands in host or
                                 path and no quote in the host.
-/
import SIngress.Base.CookieText
import SIngress.Base.UrlText
import SIngress.Modules.OidcLifetime
import SIngress.Proxy.ResponseHeaders

namespace SIngress.Modules.Oidc

open SIngress.Base SIngress.Lib SIngress.Platform SIngress.Config SIngress.Proxy

/-! ## §1. What a cookie leaves of a host and a path. -/

/-- The bytes of a host and of a path that neither their escaping nor the cookie loses. -/
def keptHost (host : GoString) : GoString :=
  host.filter fun b => validCookieValueByte b || !hostKeeps b
def keptPath (path : GoString) : GoString :=
  path.filter fun b => validCookieValueByte b || !pathKeeps b

/-- Of the bytes that are not escaped, the cookie drops two in a host and one in a path. -/
theorem dropped_bytes (b : UInt8) :
    (validCookieValueByte b || !hostKeeps b) = !(b == byteSemicolon || b == byteQuote)
      ∧ (validCookieValueByte b || !pathKeeps b) = !(b == byteSemicolon) := by
  have hall : ∀ n : Fin 256,
      (validCookieValueByte (UInt8.ofNat n) || !hostKeeps (UInt8.ofNat n))
          = !(UInt8.ofNat n == byteSemicolon || UInt8.ofNat n == byteQuote)
        ∧ (validCookieValueByte (UInt8.ofNat n) || !pathKeeps (UInt8.ofNat n))
          = !(UInt8.ofNat n == byteSemicolon) := by
    decide +kernel
  have hb := hall ⟨b.toNat, b.toNat_lt⟩
  rwa [UInt8.ofNat_toNat] at hb

theorem keptHost_eq_iff {host : GoString} :
    keptHost host = host ↔ byteSemicolon ∉ host ∧ byteQuote ∉ host := by
  unfold keptHost
  rw [List.filter_eq_self]
  constructor
  · intro h
    constructor
    · intro hmem
      exact absurd (h _ hmem) (by decide)
    · intro hmem
      exact absurd (h _ hmem) (by decide)
  · rintro ⟨hsemicolon, hquote⟩ b hb
    rw [(dropped_bytes b).1]
    have hne : b ≠ byteSemicolon := fun h => hsemicolon (h ▸ hb)
    have hne' : b ≠ byteQuote := fun h => hquote (h ▸ hb)
    simp [hne, hne']

theorem keptPath_eq_iff {path : GoString} : keptPath path = path ↔ byteSemicolon ∉ path := by
  unfold keptPath
  rw [List.filter_eq_self]
  constructor
  · intro h hmem
    exact absurd (h _ hmem) (by decide)
  · intro hsemicolon b hb
    rw [(dropped_bytes b).2]
    have hne : b ≠ byteSemicolon := fun h => hsemicolon (h ▸ hb)
    simp [hne]

/-- A cookie leaves triples alone. -/
theorem triples_valid : validCookieValueByte Percent.mark = true
    ∧ ∀ b ∈ Percent.upperHex, validCookieValueByte b = true := by
  have hall : Percent.upperHex.all validCookieValueByte = true := by decide
  exact ⟨by decide, List.all_eq_true.mp hall⟩

/-- The host in the cookie. -/
theorem cookie_host (host : GoString) :
    (Percent.encode hostKeeps host).filter validCookieValueByte
      = Percent.encode hostKeeps (keptHost host) :=
  Percent.filter_encode triples_valid.1 triples_valid.2 host

/-- The path in the cookie. -/
def cookiePath (path : GoString) : GoString := (escapePath path).filter validCookieValueByte

/-- It reads as the path without what was dropped. -/
theorem decode_cookiePath (path : GoString) :
    Percent.decode (cookiePath path) = some (keptPath path) := by
  unfold cookiePath escapePath
  by_cases hstar : path = lit "*"
  · rw [if_pos hstar, hstar]
    decide
  · rw [if_neg hstar, Percent.filter_encode triples_valid.1 triples_valid.2]
    exact Percent.decode_encode (by decide) _

/-- A path without a semicolon is spelled in the cookie as the library spells it. -/
theorem cookiePath_kept {path : GoString} (hkept : keptPath path = path) :
    cookiePath path = escapePath path := by
  unfold cookiePath escapePath
  by_cases hstar : path = lit "*"
  · rw [if_pos hstar]
    decide
  · rw [if_neg hstar, Percent.filter_encode triples_valid.1 triples_valid.2]
    exact congrArg (Percent.encode pathKeeps) hkept

/-- **The escaped path of a URL is in the cookie** exactly if the path has no semicolon and the
URL spells it as the library does. -/
theorem cookiePath_eq_iff {u : URL} : cookiePath u.path = escapedPath u
    ↔ byteSemicolon ∉ u.path ∧ escapedPath u = escapePath u.path := by
  rw [← keptPath_eq_iff]
  constructor
  · intro hsame
    -- both spellings read as the path
    have hdecode := decode_cookiePath u.path
    rw [hsame, decode_escapedPath] at hdecode
    have hkept : keptPath u.path = u.path := (Option.some.inj hdecode).symm
    exact ⟨hkept, hsame.symm.trans (cookiePath_kept hkept)⟩
  · rintro ⟨hkept, hescaped⟩
    rw [cookiePath_kept hkept, hescaped]

theorem cookie_host_plain (host : GoString) :
    ∀ b ∈ Percent.encode hostKeeps host, endsAuthority b = false := by
  intro b hb
  by_contra hends
  rw [Bool.not_eq_false] at hends
  unfold endsAuthority at hends
  simp only [Bool.or_eq_true, beq_iff_eq] at hends
  obtain (rfl | rfl) | rfl := hends
  · exact Percent.not_mem_encode (by decide) (by decide) (by decide) hb
  · exact Percent.not_mem_encode (by decide) (by decide) (by decide) hb
  · exact Percent.not_mem_encode (by decide) (by decide) (by decide) hb

theorem cookiePath_plain (path : GoString) : ∀ b ∈ cookiePath path, endsPath b = false := by
  intro b hb
  have hb := (List.mem_filter.mp hb).1
  unfold escapePath at hb
  by_cases hstar : path = lit "*"
  · rw [if_pos hstar] at hb
    have hall : (lit "*").all (fun b => !endsPath b) = true := by decide
    simpa using List.all_eq_true.mp hall b hb
  · rw [if_neg hstar] at hb
    by_contra hends
    rw [Bool.not_eq_false] at hends
    unfold endsPath at hends
    simp only [Bool.or_eq_true, beq_iff_eq] at hends
    obtain rfl | rfl := hends
    · exact Percent.not_mem_encode (by decide) (by decide) (by decide) hb
    · exact Percent.not_mem_encode (by decide) (by decide) (by decide) hb

/-- A rooted path stays rooted. -/
theorem cookiePath_rooted {path : GoString} (hpath : path.head? = some byteSlash) :
    (cookiePath path).head? = some byteSlash := by
  obtain ⟨rest, hescaped⟩ := List.head?_eq_some_iff.mp (escapePath_head.mpr hpath)
  unfold cookiePath
  rw [hescaped]
  rfl

/-- And a path that reads back rooted was rooted. -/
theorem keptPath_rooted {path : GoString} (hcookie : (cookiePath path).head? = some byteSlash) :
    (keptPath path).head? = some byteSlash := by
  obtain ⟨rest, hpath⟩ := List.head?_eq_some_iff.mp hcookie
  have hdecode := decode_cookiePath path
  rw [hpath, Percent.decode_cons_plain (by decide)] at hdecode
  obtain ⟨s, _, hs⟩ := Option.map_eq_some_iff.mp hdecode
  rw [← hs]
  rfl

/-! ## §2. What the callback finds in the cookie. -/

/-- The URL `getRequestUrl` puts together, as the callback reads it. -/
def returnedUrl (r : Request) : GoString :=
  (urlText { scheme := lit "https", host := r.host, path := r.url.path, rawPath := [],
             rawQuery := [], fragment := r.url.fragment }).filter validCookieValueByte

/-- Host, path and query of a location are those of the request: the host up to its percent
encoding, path and query as they are written. -/
def SameTarget (location : GoString) (r : Request) : Prop :=
  Percent.decode (readUrl location).authority = some r.host
    ∧ (readUrl location).path = escapedPath r.url
    ∧ (readUrl location).query = r.url.rawQuery

theorem SameTarget.decoded {location : GoString} {r : Request} (h : SameTarget location r) :
    Percent.decode (readUrl location).path = some r.url.path := by
  rw [h.2.1, decode_escapedPath]

/-- The fragment in the cookie. -/
def cookieFragment (fragment : GoString) : GoString :=
  if fragment = [] then []
  else byteHash :: (Percent.encode fragmentKeeps fragment).filter validCookieValueByte

theorem cookieFragment_head (fragment : GoString) :
    ∀ b ∈ (cookieFragment fragment).head?, b = byteHash := by
  intro b hb
  unfold cookieFragment at hb
  split at hb
  · cases hb
  · exact (Option.some.inj hb).symm

/-- The slash `URL.String` puts in front of a path that has none. -/
def insertedSlash (r : Request) : GoString :=
  if r.url.path ≠ [] ∧ r.url.path.head? ≠ some byteSlash ∧ r.host ≠ [] then [byteSlash] else []

theorem insertedSlash_eq (r : Request) : insertedSlash r
    = if escapePath r.url.path ≠ [] ∧ (escapePath r.url.path).head? ≠ some byteSlash
        ∧ r.host ≠ [] then [byteSlash] else [] := by
  unfold insertedSlash
  simp only [ne_eq, escapePath_eq_nil, escapePath_head]

/-- **The text in the cookie**, part by part. -/
theorem returnedUrl_eq (r : Request) :
    returnedUrl r = lit "https:" ++ ((if r.host = [] ∧ r.url.path = [] then [] else lit "//") ++
      (Percent.encode hostKeeps (keptHost r.host) ++
        (insertedSlash r ++ (cookiePath r.url.path ++ cookieFragment r.url.fragment)))) := by
  have hslashes : ((if r.host = [] ∧ r.url.path = [] then [] else lit "//").filter
      validCookieValueByte) = if r.host = [] ∧ r.url.path = [] then [] else lit "//" := by
    split <;> rfl
  have hinserted : (insertedSlash r).filter validCookieValueByte = insertedSlash r := by
    unfold insertedSlash
    split <;> rfl
  have hfragment : (if r.url.fragment = [] then [] else
      byteHash :: Percent.encode fragmentKeeps r.url.fragment).filter validCookieValueByte
        = cookieFragment r.url.fragment := by
    unfold cookieFragment
    split <;> rfl
  have hscheme : ∀ rest : GoString, lit "https" ++ byteColon :: rest = lit "https:" ++ rest :=
    fun _ => rfl
  unfold returnedUrl urlText
  rw [escapedPath_of_unspelled rfl]
  dsimp only
  rw [if_pos rfl, List.nil_append, hscheme, ← insertedSlash_eq, List.filter_append,
    List.filter_append, List.filter_append, List.filter_append, List.filter_append, hslashes,
    cookie_host, hfragment, hinserted]
  rfl

/-- The requests whose URL survives the way. -/
structure Returnable (r : Request) : Prop where
  query : r.url.rawQuery = []
  rooted : r.url.path = [] ∨ r.url.path.head? = some byteSlash
  path : byteSemicolon ∉ r.url.path
  /-- The request spells its path as the library does. -/
  escaped : escapedPath r.url = escapePath r.url.path
  host : byteSemicolon ∉ r.host ∧ byteQuote ∉ r.host

section

variable {r : Request}

/-- A path that is empty or rooted: the components are the parts. -/
theorem readUrl_returned (hrooted : r.url.path = [] ∨ r.url.path.head? = some byteSlash) :
    readUrl (returnedUrl r)
      = ⟨lit "https", Percent.encode hostKeeps (keptHost r.host), cookiePath r.url.path, []⟩ := by
  have hslash : insertedSlash r = [] := by
    unfold insertedSlash
    refine if_neg ?_
    rintro ⟨hne, hhead, _⟩
    exact hrooted.elim hne hhead
  have hhead : ∀ b ∈ (cookiePath r.url.path).head?, b = byteSlash := by
    intro b hb
    obtain hempty | hslash := hrooted
    · rw [hempty] at hb
      cases hb
    · rw [cookiePath_rooted hslash] at hb
      exact (Option.some.inj hb).symm
  rw [returnedUrl_eq, hslash, List.nil_append]
  by_cases hnone : r.host = [] ∧ r.url.path = []
  · -- neither host nor path: only the scheme and the fragment are written
    rw [if_pos hnone, hnone.1, hnone.2]
    have hpath := @readPath_eq (lit "https") [] [] (cookieFragment r.url.fragment) (by simp)
      (cookieFragment_head _)
    have hhierarchy : readHierarchy (lit "https") (cookieFragment r.url.fragment)
        = readPath (lit "https") [] (cookieFragment r.url.fragment) := by
      unfold cookieFragment
      split <;> rfl
    show readHierarchy (lit "https") (cookieFragment r.url.fragment) = _
    rw [hhierarchy]
    exact hpath
  · rw [if_neg hnone]
    exact readUrl_eq (cookie_host_plain _) (cookiePath_plain _) hhead (cookieFragment_head _)

/-- A slash was put in front of the path: it reads back rooted. -/
theorem not_same_of_inserted (hne : r.url.path ≠ []) (hhead : r.url.path.head? ≠ some byteSlash)
    (hhost : r.host ≠ []) : ¬ SameTarget (returnedUrl r) r := by
  intro hsame
  have hpath := hsame.decoded
  have hslash : insertedSlash r = [byteSlash] := if_pos ⟨hne, hhead, hhost⟩
  have hread := @readUrl_eq (Percent.encode hostKeeps (keptHost r.host))
    (byteSlash :: cookiePath r.url.path) (cookieFragment r.url.fragment) (cookie_host_plain _)
    (by
      intro b hb
      obtain rfl | hb := List.mem_cons.mp hb
      · rfl
      · exact cookiePath_plain _ b hb)
    (fun b hb => (Option.some.inj hb).symm) (cookieFragment_head _)
  rw [returnedUrl_eq, hslash, if_neg fun h => hhost h.1] at hpath
  rw [List.cons_append] at hread
  rw [List.singleton_append, hread] at hpath
  dsimp only at hpath
  rw [Percent.decode_cons_plain (by decide)] at hpath
  obtain ⟨s, _, hs⟩ := Option.map_eq_some_iff.mp hpath
  rw [← hs] at hhead
  exact hhead rfl

/-- Without a host the start of the path is taken for one. -/
theorem not_same_of_hostless (hne : r.url.path ≠ []) (hhead : r.url.path.head? ≠ some byteSlash)
    (hhost : r.host = []) : ¬ SameTarget (returnedUrl r) r := by
  intro hsame
  have hauthority := hsame.1
  have hpath := hsame.decoded
  have hslash : insertedSlash r = [] := if_neg fun h => h.2.2 hhost
  rw [returnedUrl_eq, hslash, if_neg fun h => hne h.2, hhost] at hauthority hpath
  rw [List.nil_append] at hauthority hpath
  -- the authority is empty only if the path in the cookie is empty or rooted
  have hempty := Percent.decode_eq_some_nil hauthority
  change ((cookiePath r.url.path ++ cookieFragment r.url.fragment).takeWhile
    fun b => !endsAuthority b) = [] at hempty
  have hrooted := rooted_of_no_authority (cookiePath_plain _) hempty
  have hread := @readUrl_eq [] (cookiePath r.url.path) (cookieFragment r.url.fragment) (by simp)
    (cookiePath_plain _) hrooted (cookieFragment_head _)
  change Percent.decode (readUrl (lit "https:" ++ (lit "//" ++ ([] ++ (cookiePath r.url.path
    ++ cookieFragment r.url.fragment))))).path = _ at hpath
  rw [hread] at hpath
  dsimp only at hpath
  rw [decode_cookiePath, Option.some.injEq] at hpath
  -- then so is the path itself
  cases hcookie : cookiePath r.url.path with
  | nil =>
      have hdecode := decode_cookiePath r.url.path
      rw [hcookie, hpath] at hdecode
      exact hne (Option.some.inj hdecode).symm
  | cons c rest =>
      have hslash := hrooted c (by rw [hcookie]; rfl)
      have hkept := @keptPath_rooted r.url.path (by rw [hcookie, hslash]; rfl)
      rw [hpath] at hkept
      exact hhead hkept

/-- **What is left of a URL on its way through the cookie.** -/
theorem returnedUrl_same_iff : SameTarget (returnedUrl r) r ↔ Returnable r := by
  by_cases hrooted : r.url.path = [] ∨ r.url.path.head? = some byteSlash
  · have hhost : Percent.decode (Percent.encode hostKeeps (keptHost r.host))
        = some (keptHost r.host) := Percent.decode_encode (by decide) _
    unfold SameTarget
    rw [readUrl_returned hrooted]
    dsimp only
    rw [hhost, Option.some.injEq, keptHost_eq_iff, cookiePath_eq_iff]
    constructor
    · rintro ⟨hhost, ⟨hpath, hescaped⟩, hquery⟩
      exact ⟨hquery.symm, hrooted, hpath, hescaped, hhost⟩
    · intro h
      exact ⟨h.host, ⟨h.path, h.escaped⟩, h.query.symm⟩
  · rw [not_or] at hrooted
    have hnot : ¬ SameTarget (returnedUrl r) r := by
      by_cases hhost : r.host = []
      · exact not_same_of_hostless hrooted.1 hrooted.2 hhost
      · exact not_same_of_inserted hrooted.1 hrooted.2 hhost
    constructor
    · intro h
      exact absurd h hnot
    · intro h
      exact absurd h.rooted (not_or.mpr hrooted)

end

/-! ## §3. The login and its callback. -/

/-- The context with another response header. -/
def withHeader (c : RequestContext) (header : Header) : RequestContext :=
  { c with w := { c.w with header := header } }

/-- The header `http.SetCookie` leaves. -/
def cookieHeader (ext : Ext) (header : Header) (cookie : Cookie) : Header :=
  if (ext.cookieString cookie).isEmpty = true then header
  else header.add (lit "Set-Cookie") (ext.cookieString cookie)

/-- The cookies of a login. -/
def loginCookies (ext : Ext) (client : ClientConfig) (r : Request) (state nonce : GoString) :
    List Cookie :=
  [⟨cookieState, state, 3600, r.tls, client.cookieDomain⟩,
   ⟨cookieNonce, nonce, 3600, r.tls, client.cookieDomain⟩,
   ⟨cookieRedirect, getRequestUrl ext r, 3600, r.tls, client.cookieDomain⟩]

/-- One redirect was written since `c₀`, to this location and with these `Set-Cookie` lines. -/
def Redirected (c₀ c : RequestContext) (location : GoString) (lines : List GoString) : Prop :=
  ∃ (header : Header) (data : List GoString),
    c.w.calls = c₀.w.calls ++ .writeHeader 302 header :: data.map .write
      ∧ header.get (lit "Location") = location ∧ header.cell setCookieKey = lines

/-- `startLogin` begins a login: it sends these cookies, after those already in the header,
with a redirect to the provider. -/
def LoginStarted (ext : Ext) (out : Outcomes) (client : ClientConfig) (c : RequestContext)
    (cookies : List Cookie) : Prop :=
  ∃ after state nonce, startLogin ext out client c = (.ok (), after)
    ∧ cookies = loginCookies ext client c.r state nonce
    ∧ Redirected c after
        (ext.redirectLocation c.r (ext.authCodeURL client.oauth2Config state nonce))
        (c.w.header.cell setCookieKey ++ serializedCookies ext cookies)

/-- The browser returns the cookies as it was given them. -/
def CookiesReturned (ext : Ext) (cookies : List Cookie) (header : Header) : Prop :=
  ∀ cookie ∈ cookies,
    ext.cookie header cookie.name = parseCookieValue (sanitizeCookieValue cookie.value)

/-- The callback answers with a redirect to this location. -/
def CallbackRedirects (ext : Ext) (out : Outcomes) (client : ClientConfig) (c : RequestContext)
    (location : GoString) : Prop :=
  ∃ after lines, handleCallback ext out client c = (.ok (), after)
    ∧ Redirected c after location lines

section

variable {ext : Ext} {out : Outcomes} {client : ClientConfig} {c : RequestContext}

theorem setCookie_run (cookie : Cookie) (c : RequestContext) :
    setCookie ext cookie c = (.ok (), withHeader c (cookieHeader ext c.w.header cookie)) := by
  unfold setCookie cookieHeader
  by_cases hempty : (ext.cookieString cookie).isEmpty = true
  · rw [if_pos hempty, if_pos hempty]
    rfl
  · rw [if_neg hempty, if_neg hempty]
    rfl

theorem setHttpCookie_run (name value : GoString) (c : RequestContext) :
    setHttpCookie ext client name value c
      = (.ok (), withHeader c (cookieHeader ext c.w.header
          ⟨name, value, 3600, c.r.tls, client.cookieDomain⟩)) := by
  simp only [setHttpCookie, get_bind_run]
  exact setCookie_run _ c

/-- The status of a redirect, and the body if there is one. -/
theorem writeRedirect_run (body : Bool) (data : GoString) {location : GoString}
    (hlocation : c.w.header.get (lit "Location") = location) :
    ∃ after, ((do
        writeHeader 302
        if body then writeBytes data) : Serve Unit) c = (.ok (), after)
      ∧ Redirected c after location (c.w.header.cell setCookieKey) := by
  rw [bind_run, writeHeader_run (by omega)]
  cases body with
  | false => exact ⟨_, rfl, c.w.header, [], rfl, hlocation, rfl⟩
  | true =>
      refine ⟨_, rfl, c.w.header, [data], ?_, hlocation, rfl⟩
      exact List.append_assoc c.w.calls _ _

/-- A redirect answers with the location, and with the cookies in the header. -/
theorem redirect_run (target : GoString) (c : RequestContext) :
    ∃ after, redirect ext target 302 c = (.ok (), after)
      ∧ Redirected c after (ext.redirectLocation c.r target) (c.w.header.cell setCookieKey) := by
  have hlocation : (c.w.header.set (lit "Location") (ext.redirectLocation c.r target)).get
      (lit "Location") = ext.redirectLocation c.r target := by
    unfold Header.get
    rw [Header.values_set, if_pos rfl]
    rfl
  -- the type of the body stands under another key
  have htyped : ((c.w.header.set (lit "Location") (ext.redirectLocation c.r target)).set
      (lit "Content-Type") (lit "text/html; charset=utf-8")).get (lit "Location")
        = ext.redirectLocation c.r target := by
    refine Eq.trans ?_ hlocation
    unfold Header.get
    rw [Header.values_set, if_neg (by decide)]
  -- and so do the cookies
  have hcookies : ∀ (h : Header) (value : GoString),
      (h.set (lit "Location") value).cell setCookieKey = h.cell setCookieKey
        ∧ (h.set (lit "Content-Type") value).cell setCookieKey = h.cell setCookieKey := by
    intro h value
    rw [Header.cell_set, Header.cell_set, if_neg (by decide), if_neg (by decide)]
    exact ⟨rfl, rfl⟩
  unfold redirect
  rw [get_bind_run]
  dsimp only
  rw [bind_run]
  by_cases hbody : (!(c.w.header.lookup (lit "Content-Type")).isSome
      && (c.r.method == lit "GET" || c.r.method == lit "HEAD")) = true
  · rw [if_pos hbody, ← (hcookies c.w.header _).1, ← (hcookies _ _).2]
    exact writeRedirect_run _ _ htyped
  · rw [if_neg hbody, ← (hcookies c.w.header _).1]
    exact writeRedirect_run _ _ hlocation

/-- With its two random strings drawn, a login begins. -/
theorem started_of_random {state nonce : GoString} (hstate : out.randState = .ok state)
    (hnonce : out.randNonce = .ok nonce) :
    LoginStarted ext out client c (loginCookies ext client c.r state nonce) := by
  obtain ⟨after, hredirect, hwritten⟩ := @redirect_run ext
    (ext.authCodeURL client.oauth2Config state nonce)
    (withHeader c ((loginCookies ext client c.r state nonce).foldl (cookieHeader ext) c.w.header))
  refine ⟨after, state, nonce, ?_, rfl, ?_⟩
  · unfold startLogin
    rw [hstate, hnonce]
    show ((do
      setHttpCookie ext client cookieState state
      setHttpCookie ext client cookieNonce nonce
      let c ← get
      setHttpCookie ext client cookieRedirect (getRequestUrl ext c.r)
      redirect ext (ext.authCodeURL client.oauth2Config state nonce) 302) : Serve Unit) c = _
    rw [bind_run, setHttpCookie_run]
    dsimp only
    rw [bind_run, setHttpCookie_run]
    dsimp only
    rw [get_bind_run, bind_run, setHttpCookie_run]
    exact hredirect
  · have hlines := cookies_cell ext (loginCookies ext client c.r state nonce) c.w.header
      setCookieKey
    rw [if_pos rfl] at hlines
    rw [← hlines]
    exact hwritten

/-- **A login that begins sends its cookies.** -/
theorem startLogin_run {after : RequestContext}
    (h : startLogin ext out client c = (.ok (), after)) :
    ∃ cookies, LoginStarted ext out client c cookies := by
  unfold startLogin at h
  cases hstate : out.randState with
  | error err =>
      rw [hstate] at h
      cases congrArg Prod.fst h
  | ok state =>
      cases hnonce : out.randNonce with
      | error err =>
          rw [hstate, hnonce] at h
          cases congrArg Prod.fst h
      | ok nonce =>
          exact ⟨_, started_of_random hstate hnonce⟩

/-- Clearing a cookie changes the header at most. -/
theorem clearHttpCookie_run (name : GoString) (c : RequestContext) :
    ∃ header, clearHttpCookie ext client name c = (.ok (), withHeader c header) := by
  simp only [clearHttpCookie, get_bind_run]
  by_cases hnone : (ext.cookie c.r.header name).isNone = true
  · rw [if_pos hnone]
    exact ⟨c.w.header, rfl⟩
  · rw [if_neg hnone]
    exact ⟨_, setCookie_run _ c⟩

theorem clearCallbackCookies_run (c : RequestContext) :
    ∃ header, clearCallbackCookies ext client c = (.ok (), withHeader c header) := by
  unfold clearCallbackCookies
  obtain ⟨h₁, hrun₁⟩ := @clearHttpCookie_run ext client cookieRedirect c
  obtain ⟨h₂, hrun₂⟩ := @clearHttpCookie_run ext client cookieNonce (withHeader c h₁)
  obtain ⟨h₃, hrun₃⟩ := @clearHttpCookie_run ext client cookieState (withHeader c h₂)
  refine ⟨h₃, ?_⟩
  rw [bind_run, hrun₁]
  dsimp only
  rw [bind_run, hrun₂]
  exact hrun₃

/-- **A callback that issues a session redirects to its cookie.** -/
theorem handleCallback_redirects {c' : RequestContext} {info : AuthInfo} {cookie : Cookie}
    (hcallback : handleOidcCallback ext out client c = (.ok (some info), c'))
    (hjwt : generateJwtCookie out client c.r info = .ok cookie) :
    CallbackRedirects ext out client c (ext.redirectLocation c.r
      ((ext.cookie c.r.header cookieRedirect).getD client.callbackDomain)) := by
  -- up to here nothing was written, and the request is the same
  have hends := handleOidcCallback_resolves ext out client c c (unwritten_refl c)
  rw [hcallback] at hends
  obtain ⟨hsettled, hcalls, _⟩ := hends.2 (by simp)
  have hr : c'.r = c.r := congrArg Prod.fst hsettled
  obtain ⟨header, hclear⟩ := @clearCallbackCookies_run ext client
    (withHeader c' (cookieHeader ext c'.w.header cookie))
  obtain ⟨after, hredirect, hwritten⟩ := @redirect_run ext
    ((ext.cookie c.r.header cookieRedirect).getD client.callbackDomain) (withHeader c' header)
  refine ⟨after, header.cell setCookieKey, ?_, ?_⟩
  · unfold handleCallback wrapServe
    rw [bind_run, hcallback]
    dsimp only
    rw [get_bind_run, hr, hjwt]
    dsimp only
    rw [bind_run, setCookie_run]
    dsimp only
    rw [bind_run, hclear]
    exact hredirect
  · have hwritten : Redirected c' after (ext.redirectLocation c'.r _) _ := hwritten
    unfold Redirected at hwritten ⊢
    rwa [hr, hcalls] at hwritten

/-- And to nothing else. -/
theorem CallbackRedirects.unique {location location' : GoString}
    (h : CallbackRedirects ext out client c location)
    (h' : CallbackRedirects ext out client c location') : location = location' := by
  obtain ⟨after, lines, hrun, header, data, hcalls, rfl, _⟩ := h
  obtain ⟨after', lines', hrun', header', data', hcalls', rfl, _⟩ := h'
  have hafter : after = after' := congrArg Prod.snd (hrun.symm.trans hrun')
  rw [hafter, hcalls'] at hcalls
  have hheader := (List.cons.inj (List.append_cancel_left hcalls)).1
  cases hheader
  rfl

end

/-! ## §4. The whole way. -/

/-- `URL.String` of a URL with a scheme, and the `Location` of an absolute target in
ASCII. -/
structure StandardText (ext : Ext) : Prop where
  urlString : ∀ u : URL, u.scheme = lit "https" → ext.urlString u = urlText u
  location : ∀ (r : Request) (target : GoString), startsWith target (lit "https:") = true →
    (∀ b ∈ target, b < 0x80) → ext.redirectLocation r target = target

/-- A login for the request of `c` that the callback `cb` completes: the browser returns the
cookies it was given, and a session is issued. -/
structure LoginCompleted (ext : Ext) (out out' : Outcomes) (client : ClientConfig)
    (c cb : RequestContext) : Prop where
  started : ∃ cookies, LoginStarted ext out client c cookies
    ∧ CookiesReturned ext cookies cb.r.header
  succeeds : ∃ info cb' cookie, handleOidcCallback ext out' client cb = (.ok (some info), cb')
    ∧ generateJwtCookie out' client cb.r info = .ok cookie

section

variable {ext : Ext} {out out' : Outcomes} {client : ClientConfig} {c cb : RequestContext}

/-- The cookie of the target comes back without the bytes it may not hold. -/
theorem cookie_returned (hext : StandardText ext) {cookies : List Cookie}
    (hlogin : LoginStarted ext out client c cookies)
    (hcookies : CookiesReturned ext cookies cb.r.header) :
    ext.cookie cb.r.header cookieRedirect = some (returnedUrl c.r) := by
  obtain ⟨_, state, nonce, _, rfl, _⟩ := hlogin
  have hcookie := hcookies ⟨cookieRedirect, getRequestUrl ext c.r, 3600, c.r.tls,
    client.cookieDomain⟩ (by simp [loginCookies])
  rw [hcookie, parse_sanitize]
  unfold getRequestUrl returnedUrl
  rw [hext.urlString _ rfl]

/-- And the redirect leaves it alone. -/
theorem location_returned (hext : StandardText ext) (r r' : Request) :
    ext.redirectLocation r' (returnedUrl r) = returnedUrl r := by
  refine hext.location r' _ ?_ ?_
  · rw [returnedUrl_eq]
    rfl
  · intro b hb
    have hvalid := (List.mem_filter.mp hb).2
    unfold validCookieValueByte at hvalid
    simp only [Bool.and_eq_true, decide_eq_true_eq] at hvalid
    exact UInt8.lt_trans hvalid.1.1.1.2 (by decide)

/-- A login that is completed redirects to what the cookie kept of the URL. -/
theorem LoginCompleted.redirects (hext : StandardText ext)
    (h : LoginCompleted ext out out' client c cb) :
    CallbackRedirects ext out' client cb (returnedUrl c.r) := by
  obtain ⟨cookies, hstarted, hcookies⟩ := h.started
  obtain ⟨info, cb', cookie, hcallback, hjwt⟩ := h.succeeds
  have hredirects := handleCallback_redirects hcallback hjwt
  rwa [cookie_returned hext hstarted hcookies, Option.getD_some, location_returned hext]
    at hredirects

/-- **Where a login returns to.**  The browser returns the cookies of a login, and the
callback succeeds: it redirects to the host, path and query of the request exactly if the
query is empty, the path is empty or rooted and spelled as the library spells it, and neither
host nor path holds a byte the cookie drops. -/
theorem login_returns_iff (hext : StandardText ext)
    (hlogin : LoginCompleted ext out out' client c cb) :
    (∃ location, CallbackRedirects ext out' client cb location ∧ SameTarget location c.r)
      ↔ Returnable c.r := by
  have hredirects := hlogin.redirects hext
  rw [← returnedUrl_same_iff]
  constructor
  · rintro ⟨location, hlocation, hsame⟩
    rwa [hlocation.unique hredirects] at hsame
  · intro hsame
    exact ⟨_, hredirects, hsame⟩

end

/-- The platform of the sessions, with URLs printed as `URL.String` prints them. -/
def Ext.browsing : Ext := { Ext.sessions with urlString := urlText }

theorem standardText_browsing : StandardText Ext.browsing where
  urlString _ _ := rfl
  location _ _ _ _ := rfl

/-- A browser asks `a.org` for a page. -/
def asking (path rawPath query : GoString) : RequestContext :=
  let c := sessionContext ∅
  { c with r := { c.r with host := lit "a.org", url := ⟨[], [], path, rawPath, query, []⟩ } }

/-- It comes back from the provider with its cookies. -/
def returning (target : GoString) : RequestContext :=
  sessionContext (((Finmap.singleton cookieState [[]]).insert cookieNonce [[]]).insert
    cookieRedirect [target])

/-- Every login is completed, once the browser returns what is left of the URL. -/
theorem browsing_completed (headerOrder : GoMap.RangeChoice GoString (List GoString))
    (path rawPath query : GoString) :
    LoginCompleted Ext.browsing (Outcomes.sessions headerOrder (lit "s"))
      (Outcomes.sessions headerOrder (lit "s")) sessionClient (asking path rawPath query)
      (returning (returnedUrl (asking path rawPath query).r)) := by
  refine ⟨⟨_, started_of_random rfl rfl, ?_⟩, _, _, _, rfl, rfl⟩
  intro cookie hcookie
  rw [parse_sanitize]
  simp only [loginCookies, List.mem_cons, List.not_mem_nil, or_false] at hcookie
  obtain rfl | rfl | rfl := hcookie
  · rfl
  · rfl
  · rfl

/-- A page without a query is returned to, a space in its path included. -/
theorem login_returns_docs : ∃ out,
    LoginCompleted Ext.browsing out out sessionClient (asking (lit "/my docs") [] [])
        (returning (lit "https://a.org/my%20docs"))
      ∧ ∃ location, CallbackRedirects Ext.browsing out sessionClient
          (returning (lit "https://a.org/my%20docs")) location
        ∧ SameTarget location (asking (lit "/my docs") [] []).r := by
  obtain ⟨headerOrder⟩ := (inferInstance : Nonempty (GoMap.RangeChoice GoString (List GoString)))
  have hlogin := browsing_completed headerOrder (lit "/my docs") [] []
  refine ⟨_, hlogin, (login_returns_iff standardText_browsing hlogin).mpr ?_⟩
  exact ⟨rfl, by decide, by decide, by decide, by decide⟩

/-- The query is lost, a semicolon in the path is lost, and so is an escaped slash. -/
theorem login_loses : ∃ out,
    LoginCompleted Ext.browsing out out sessionClient (asking (lit "/docs") [] (lit "page=2"))
        (returning (lit "https://a.org/docs"))
      ∧ CallbackRedirects Ext.browsing out sessionClient (returning (lit "https://a.org/docs"))
          (lit "https://a.org/docs")
      ∧ ¬ SameTarget (lit "https://a.org/docs") (asking (lit "/docs") [] (lit "page=2")).r
      ∧ LoginCompleted Ext.browsing out out sessionClient (asking (lit "/a;b") [] [])
          (returning (lit "https://a.org/ab"))
      ∧ CallbackRedirects Ext.browsing out sessionClient (returning (lit "https://a.org/ab"))
          (lit "https://a.org/ab")
      ∧ ¬ SameTarget (lit "https://a.org/ab") (asking (lit "/a;b") [] []).r
      ∧ LoginCompleted Ext.browsing out out sessionClient (asking (lit "/a/b") (lit "/a%2Fb") [])
          (returning (lit "https://a.org/a/b"))
      ∧ CallbackRedirects Ext.browsing out sessionClient (returning (lit "https://a.org/a/b"))
          (lit "https://a.org/a/b")
      ∧ ¬ SameTarget (lit "https://a.org/a/b") (asking (lit "/a/b") (lit "/a%2Fb") []).r := by
  obtain ⟨headerOrder⟩ := (inferInstance : Nonempty (GoMap.RangeChoice GoString (List GoString)))
  have hquery := browsing_completed headerOrder (lit "/docs") [] (lit "page=2")
  have hpath := browsing_completed headerOrder (lit "/a;b") [] []
  have hslash := browsing_completed headerOrder (lit "/a/b") (lit "/a%2Fb") []
  refine ⟨_, hquery, hquery.redirects standardText_browsing, ?_, hpath,
    hpath.redirects standardText_browsing, ?_, hslash, hslash.redirects standardText_browsing, ?_⟩
  · rintro ⟨_, _, hsame⟩
    exact absurd hsame (by decide)
  · rintro ⟨_, hsame, _⟩
    exact absurd hsame (by decide)
  · rintro ⟨_, hsame, _⟩
    exact absurd hsame (by decide)

end SIngress.Modules.Oidc
