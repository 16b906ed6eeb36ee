/-
  SIngress.Controller.Handshake — HEADERS ON THE TWO WAYS TO AN UPSTREAM.

  A plain request goes through the header modules to `proxy`, which sends the
  prepared upstream request.  A websocket upgrade leaves the chain before them:
  `handleWebSocket` dials with the client's own headers, without the ones the
  dialer sets itself.  So the headers the proxy controls are on both ways the
  same only where the client itself already presents them.
-/
import SIngress.Controller.Mediation
import SIngress.Controller.Progress
import SIngress.Proxy.Passage

namespace SIngress.Controller

open SIngress.Base SIngress.Lib SIngress.K8s SIngress.Platform SIngress.Config SIngress.Proxy
open SIngress.Modules SIngress.Modules.Headers

/-! ## §1. The headers the proxy controls. -/

/-- The headers `proxyRoute` sets, and those of the annotation's lines. -/
def controlledKeys (lines : List (GoString × GoString)) : List GoString :=
  [lit "X-Request-Id", lit "X-Forwarded-For", lit "X-Forwarded-Host", lit "X-Forwarded-Proto"]
    ++ lines.map Prod.fst

/-- The lines of an ingress's `headers-upstream` annotation. -/
def upstreamLines (ingress : Ingress) : List (GoString × GoString) :=
  headerLines (split (ingress.annotationValue headersUpstreamAnnotations) byteNewline)

section

variable (ext : Ext)

/-- The value of a controlled header: its last line in the annotation, or what `proxyRoute`
announces. -/
def proxyValue (c : RequestContext) (lines : List (GoString × GoString)) (key : GoString) :
    GoString :=
  (lineFor lines key).getD <|
    if canonicalHeaderKey key = lit "X-Forwarded-Proto" then lit "https"
    else if canonicalHeaderKey key = lit "X-Forwarded-Host" then c.r.host
    else if canonicalHeaderKey key = lit "X-Forwarded-For" then ext.addrPortString c.remoteIp
    else c.requestId

/-- What the plain way sends. -/
theorem plain_values (c : RequestContext) {lines : List (GoString × GoString)} {key : GoString}
    (hkey : key ∈ controlledKeys lines) :
    (setLines lines (upstreamHeaderOf ext c)).values key = [proxyValue ext c lines key] := by
  rw [setLines_values]
  unfold proxyValue
  cases hline : lineFor lines key with
  | some value => rfl
  | none =>
      -- a header without a line is one of the four
      have hfour : key ∈ [lit "X-Request-Id", lit "X-Forwarded-For", lit "X-Forwarded-Host",
          lit "X-Forwarded-Proto"] := by
        rcases List.mem_append.mp hkey with h | h
        · exact h
        · obtain ⟨value, hvalue⟩ := lineFor_of_mem h
          rw [hline] at hvalue
          cases hvalue
      simp only [Option.map_none, Option.getD_none]
      simp only [List.mem_cons, List.not_mem_nil, or_false] at hfour
      unfold upstreamHeaderOf
      -- each of the four is set once, and the later ones have other keys
      rcases hfour with rfl | rfl | rfl | rfl
      · rw [Header.values_set, if_neg (by decide), Header.values_set, if_neg (by decide),
          Header.values_set, if_neg (by decide), Header.values_set, if_pos rfl, if_neg (by decide),
          if_neg (by decide), if_neg (by decide)]
      · rw [Header.values_set, if_neg (by decide), Header.values_set, if_neg (by decide),
          Header.values_set, if_pos rfl, if_neg (by decide), if_neg (by decide),
          if_pos (by decide)]
      · rw [Header.values_set, if_neg (by decide), Header.values_set, if_pos rfl,
          if_neg (by decide), if_pos (by decide)]
      · rw [Header.values_set, if_pos rfl, if_pos (by decide)]

/-- The values of a header in a handshake dialed with the header map `h`; `dialer` gives the
ones the dialer sets itself. -/
def handshakeValues (dialer : GoString → List GoString) (h : Header) (key : GoString) :
    List GoString :=
  if handshakeKeys.contains (toLowerAscii (canonicalHeaderKey key)) then
    dialer (canonicalHeaderKey key)
  else h.values key

/-- `constructWsHeaders` takes out only what the dialer replaces. -/
theorem handshakeValues_construct (out : Outcomes) (dialer : GoString → List GoString)
    (h : Header) (key : GoString) :
    handshakeValues dialer (constructWsHeaders out h) key = handshakeValues dialer h key := by
  unfold handshakeValues
  split
  · rfl
  · rename_i hkey
    unfold Header.values
    rw [constructWsHeaders_lookup, if_neg hkey]

end

/-! ## §2. The two ways of one chain. -/

theorem IsCheck.lines {m : Middleware} (h : IsCheck m) : m.lines = [] := by
  cases m with
  | upstreamHeader headers => exact h.elim
  | _ => rfl

theorem IsCheck.ne_websocket {m : Middleware} (h : IsCheck m) : m ≠ .websocket := by
  rintro rfl
  exact h

/-- The header modules set the lines of the annotation. -/
theorem headers_lines {api : Api} {ingress : Ingress} {used used' : List NamespacedName}
    {headers : List Middleware}
    (h : getMiddlewares api ingress [customHeaderModule, upstreamHeaderModule] used
      = .ok (headers, used')) :
    headers.flatMap Middleware.lines = upstreamLines ingress := by
  obtain ⟨custom?, used₁, rest, hcustom, hrest, rfl⟩ := getMiddlewares_cons_eq_ok.mp h
  obtain ⟨upstream?, used₂, rest, hupstream, hnil, rfl⟩ := getMiddlewares_cons_eq_ok.mp hrest
  cases hnil
  have hcustom := headerHook_run hcustom
  have hupstream := headerHook_run hupstream
  -- the custom headers go to the response
  have hnone : custom?.toList.flatMap Middleware.lines = [] := by
    rw [hcustom]
    split <;> rfl
  rw [List.flatMap_append, hnone, hupstream]
  unfold upstreamLines
  split
  · rename_i hempty
    rw [List.isEmpty_iff.mp hempty]
    rfl
  · simp [Middleware.lines]

/-- The route without the websocket module. -/
def plainRoute (route : RouteConfig) : RouteConfig :=
  { route with middlewares := route.middlewares.filter (· ≠ .websocket) }

theorem filter_websocket {checks headers : List Middleware}
    (hchecks : ∀ m ∈ checks, IsCheck m)
    (hheaders : ∀ m ∈ headers, ∃ lines, m = .customHeader lines ∨ m = .upstreamHeader lines) :
    (checks ++ .websocket :: headers).filter (· ≠ .websocket) = checks ++ headers := by
  rw [List.filter_append, List.filter_cons_of_neg (by simp), List.filter_eq_self.mpr,
    List.filter_eq_self.mpr]
  · intro m hm
    obtain ⟨lines, rfl | rfl⟩ := hheaders m hm <;> simp
  · intro m hm
    simpa using (hchecks m hm).ne_websocket

section

variable {ext : Ext} {out : Outcomes} {checks headers : List Middleware} {c : RequestContext}
  {route : RouteConfig}

theorem headers_continue
    (hheaders : ∀ m ∈ headers, ∃ lines, m = .customHeader lines ∨ m = .upstreamHeader lines)
    (r : Request) (realIp : Addr) : ∀ m ∈ headers, m.Continues ext out r realIp := by
  intro m hm
  obtain ⟨lines, rfl | rfl⟩ := hheaders m hm <;> trivial

/-- At the end of a chain that was passed, `proxy` sends the prepared request with the lines
of the chain. -/
theorem proxied_contact {ms : List Middleware} (hvalid : UpstreamRequestValid ext c.r)
    (hms : route.middlewares = ms) (hpass : ∀ m ∈ ms, m.Continues ext out c.r c.realIp) :
    ∃ req, (proxyRoute ext out route c).2.upstreamContacts
        = c.upstreamContacts ++ [.proxied route.endpoint req]
      ∧ req.header = setLines (ms.flatMap Middleware.lines) (upstreamHeaderOf ext c) := by
  rw [proxyRoute_of_valid ext out hvalid, hms]
  obtain ⟨c', hon, hrun⟩ := callMiddleware_continues (proxy ext out)
    (c := prepareUpstream ext route c) hpass (Or.inl rfl)
  obtain ⟨_, _, _, _, _, hroute, hreq, _, hcontacts⟩ := hon.fields
  rw [hrun, proxy_contacts ext out hreq hroute, hcontacts]
  exact ⟨_, rfl, rfl⟩

/-- The first check that fails answers the request, and no upstream is reached. -/
theorem denied_contacts (hchecks : ∀ m ∈ checks, IsCheck m)
    (hms : route.middlewares = checks ++ .websocket :: headers)
    (hvalid : UpstreamRequestValid ext c.r)
    (hnot : ¬ ∀ m ∈ checks, m.Continues ext out c.r c.realIp) :
    (proxyRoute ext out route c).2.upstreamContacts = c.upstreamContacts := by
  obtain ⟨before, m, after, rfl, hbefore, hm⟩ := exists_stop hnot
  rw [proxyRoute_of_valid ext out hvalid, hms, List.append_assoc, List.cons_append]
  obtain ⟨c', hon, hrun⟩ := callMiddleware_stops m (after ++ .websocket :: headers)
    (proxy ext out) (c := prepareUpstream ext route c) hbefore (Or.inl rfl)
  obtain ⟨hr, _, _, _, hrealIp, _, _, _, hcontacts⟩ := hon.fields
  have hanswered : Answered c' (m.call ext out
      (callMiddleware ext out (after ++ .websocket :: headers) (proxy ext out)) c') := by
    refine call_answered _ ?_ (hchecks m (by simp)).ne_websocket
    rw [hr, hrealIp]
    exact hm
  rw [hrun, hanswered.contacts, hcontacts]
  rfl

/-- An upgrade that passes the checks is dialed with the client's headers. -/
theorem upgraded_contact (hms : route.middlewares = checks ++ .websocket :: headers)
    (hvalid : UpstreamRequestValid ext c.r)
    (hpass : ∀ m ∈ checks, m.Continues ext out c.r c.realIp)
    (hupgrade : ext.isWebSocketUpgrade c.r.header = true) :
    ∃ url, (proxyRoute ext out route c).2.upstreamContacts = c.upstreamContacts
      ++ [.websocket route.endpoint url (constructWsHeaders out c.r.header)] := by
  rw [proxyRoute_of_valid ext out hvalid, hms]
  obtain ⟨c', hon, hrun⟩ := callMiddleware_stops .websocket headers
    (proxy ext out) (c := prepareUpstream ext route c) hpass (Or.inl rfl)
  obtain ⟨hr, _, _, _, _, hroute, hreq, _, hcontacts⟩ := hon.fields
  have hr' : c'.r = c.r := hr
  -- the websocket closure does not call the rest of the chain
  have hrun' : callMiddleware ext out (checks ++ .websocket :: headers) (proxy ext out)
      (prepareUpstream ext route c) = handleWebSocket ext out c' :=
    hrun.trans (websocket_of_upgrade ext out _ (by rw [hr']; exact hupgrade))
  rw [hrun', handleWebSocket_contacts ext out hreq hroute, hcontacts, hr']
  exact ⟨_, rfl⟩

/-- **An upgrade reaches the upstream past every check, with the client's headers.** -/
theorem websocket_contact (hchecks : ∀ m ∈ checks, IsCheck m)
    (hheaders : ∀ m ∈ headers, ∃ lines, m = .customHeader lines ∨ m = .upstreamHeader lines)
    (hms : route.middlewares = checks ++ .websocket :: headers) {endpoint : AddrPort}
    {url : GoString} {h : Header}
    (hws : (proxyRoute ext out route c).2.upstreamContacts
      = c.upstreamContacts ++ [.websocket endpoint url h]) :
    UpstreamRequestValid ext c.r ∧ (∀ m ∈ checks, m.Continues ext out c.r c.realIp)
      ∧ h = constructWsHeaders out c.r.header := by
  have hnot : c.upstreamContacts ≠ c.upstreamContacts ++ [.websocket endpoint url h] := by simp
  by_cases hvalid : UpstreamRequestValid ext c.r
  · by_cases hpass : ∀ m ∈ checks, m.Continues ext out c.r c.realIp
    · refine ⟨hvalid, hpass, ?_⟩
      by_cases hupgrade : ext.isWebSocketUpgrade c.r.header = true
      · obtain ⟨url', hcontact⟩ := upgraded_contact hms hvalid hpass hupgrade
        rw [hcontact] at hws
        have hcontact := List.append_cancel_left hws
        simp only [List.cons.injEq, Contact.websocket.injEq, and_true] at hcontact
        exact hcontact.2.2.symm
      · -- a plain request ends in `proxy`
        have hall : ∀ m ∈ checks ++ .websocket :: headers,
            m.Continues ext out c.r c.realIp :=
          List.forall_mem_append.mpr ⟨hpass, List.forall_mem_cons.mpr
            ⟨hupgrade, headers_continue hheaders _ _⟩⟩
        obtain ⟨req, hplain, _⟩ := proxied_contact hvalid hms hall
        rw [hplain] at hws
        have hcontact := List.append_cancel_left hws
        simp at hcontact
    · rw [denied_contacts hchecks hms hvalid hpass] at hws
      exact absurd hws hnot
  · rw [proxyRoute_of_invalid ext out hvalid] at hws
    exact absurd hws hnot

end

/-! ## §3. Agreement. -/

section

variable (ext : Ext) (out : Outcomes)

/-- The client itself presents every controlled header with the value the proxy would give
it, or the dialer does. -/
def ClientPresents (dialer : GoString → List GoString) (c : RequestContext)
    (lines : List (GoString × GoString)) : Prop :=
  ∀ key ∈ controlledKeys lines,
    handshakeValues dialer c.r.header key = [proxyValue ext c lines key]

/-- **The two ways agree exactly if the client presents the headers itself.**  Whenever a
request routed to an ingress reaches its upstream as a websocket handshake, the same request
would be sent on the plain way; and the controlled headers have the same values on both if
and only if the client's own headers already have them. -/
theorem handshake_agrees_iff {conf : ControllerConf} {api : Api} {ingress : Ingress}
    {used used' : List NamespacedName} {route : RouteConfig} {c : RequestContext}
    {endpoint : AddrPort} {url : GoString} {h : Header} (dialer : GoString → List GoString)
    (hconf : StandardConf ext conf)
    (hms : getMiddlewares api ingress conf.modules used = .ok (route.middlewares, used'))
    (hrouted : RoutedTo ext c route)
    (hws : (handleHttp ext out c).2.upstreamContacts
      = c.upstreamContacts ++ [.websocket endpoint url h]) :
    ∃ req, (proxyRoute ext out (plainRoute route) c).2.upstreamContacts
        = c.upstreamContacts ++ [.proxied route.endpoint req]
      ∧ ((∀ key ∈ controlledKeys (upstreamLines ingress),
            handshakeValues dialer h key = req.header.values key)
          ↔ ClientPresents ext dialer c (upstreamLines ingress)) := by
  obtain ⟨d, configs, clients, domains, hmods⟩ := hconf
  rw [hmods] at hms
  obtain ⟨checks, headers, used₁, hsplit, hchecks, hrun⟩ := getMiddlewares_standard hms
  have hheaders := getMiddlewares_headers hrun
  rw [handleHttp_of_routed ext out hrouted] at hws
  obtain ⟨hvalid, hpass, rfl⟩ := websocket_contact hchecks hheaders hsplit hws
  -- the same request without the websocket module passes the whole chain
  have hplain : (plainRoute route).middlewares = checks ++ headers := by
    show route.middlewares.filter (· ≠ .websocket) = _
    rw [hsplit, filter_websocket hchecks hheaders]
  have hcontinue : ∀ m ∈ checks ++ headers, m.Continues ext out c.r c.realIp :=
    List.forall_mem_append.mpr ⟨hpass, headers_continue hheaders _ _⟩
  obtain ⟨req, hcontact, hheader⟩ := proxied_contact hvalid hplain hcontinue
  have hlines : (checks ++ headers).flatMap Middleware.lines = upstreamLines ingress := by
    rw [List.flatMap_append, headers_lines hrun,
      List.flatMap_eq_nil_iff.mpr fun m hm => (hchecks m hm).lines, List.nil_append]
  rw [hlines] at hheader
  -- on both ways the header map is known, so the keys are compared one by one
  refine ⟨req, hcontact, ?_⟩
  unfold ClientPresents
  refine forall₂_congr fun key hkey => ?_
  rw [handshakeValues_construct, hheader, plain_values ext c hkey]

end

/-! ## §4. Two upgrades. -/

/-- The small platform with the test for an upgrade, on headers with one value each. -/
def Ext.upgrading : Ext :=
  { Ext.small with
    isWebSocketUpgrade := fun h =>
      h.get (lit "Connection") == lit "upgrade" && h.get (lit "Upgrade") == lit "websocket" }

def upgradingConf : ControllerConf :=
  { smallConf 4096 with modules := standardModules Ext.upgrading false ∅ ∅ ∅ }

/-- An upgrade of a client that sends nothing else but `X-Forwarded-For`. -/
def spoofedHeader : Header :=
  (((∅ : Header).set (lit "Connection") (lit "upgrade")).set (lit "Upgrade")
    (lit "websocket")).set (lit "X-Forwarded-For") (lit "1.2.3.4")

/-- An upgrade of a client that presents what the proxy would send. -/
def presentedHeader : Header :=
  (((spoofedHeader.set (lit "X-Forwarded-For") (lit "10.0.0.9:80")).set (lit "X-Request-Id")
    (lit "uuid")).set (lit "X-Forwarded-Host") (lit "a")).set (lit "X-Forwarded-Proto")
    (lit "https")

/-- The context of an upgrade for the host `a`. -/
def upgradeContext (header : Header) : RequestContext :=
  { uncheckedContext (lit "a") with
    r := ⟨lit "GET", lit "a", ⟨[], [], lit "/", [], [], []⟩, header, false, lit "10.0.0.9:80", 0⟩ }

theorem routedTo_upgrade (header : Header) :
    RoutedTo Ext.upgrading (upgradeContext header) uncheckedRoute := by
  have hrouted : RoutedTo Ext.small (uncheckedContext (lit "a")) uncheckedRoute :=
    routedTo_unchecked (by decide)
  exact hrouted

/-- An upgrade on a route without checks is dialed. -/
theorem upgrade_contacts (out : Outcomes) {header : Header}
    (h : Ext.upgrading.isWebSocketUpgrade header = true) :
    (handleHttp Ext.upgrading out (upgradeContext header)).2.upstreamContacts
      = [.websocket uncheckedRoute.endpoint (lit "ws://a/") (constructWsHeaders out header)] := by
  rw [handleHttp_of_routed _ _ (routedTo_upgrade header), proxyRoute_of_valid _ _ (by
    show UpstreamRequestValid Ext.small (uncheckedContext (lit "a")).r
    decide)]
  show (websocket Ext.upgrading out (proxy Ext.upgrading out)
    (prepareUpstream Ext.upgrading uncheckedRoute (upgradeContext header))).2.upstreamContacts = _
  rw [websocket_of_upgrade _ _ _ h, handleWebSocket_contacts _ _ rfl rfl]
  rfl

theorem getMiddlewares_upgrading :
    getMiddlewares Api.small (Ingress.small (lit "a") ∅ [] []) upgradingConf.modules []
      = .ok ([.websocket], []) := rfl

/-- A client that presents the headers itself. -/
theorem handshake_agrees_presented : ∃ out req,
    (proxyRoute Ext.upgrading out (plainRoute uncheckedRoute)
        (upgradeContext presentedHeader)).2.upstreamContacts
      = [.proxied uncheckedRoute.endpoint req]
    ∧ ∀ key ∈ controlledKeys [],
      handshakeValues (fun _ => []) (constructWsHeaders out presentedHeader) key
        = req.header.values key := by
  obtain ⟨headerOrder⟩ := (inferInstance : Nonempty (GoMap.RangeChoice GoString (List GoString)))
  obtain ⟨req, hplain, hiff⟩ := handshake_agrees_iff Ext.upgrading (Outcomes.small headerOrder)
    (fun _ => []) ⟨_, _, _, _, rfl⟩ getMiddlewares_upgrading (routedTo_upgrade presentedHeader)
    (upgrade_contacts _ (by decide))
  refine ⟨_, req, hplain, hiff.mpr ?_⟩
  intro key hkey
  revert key
  decide

/-- **A spoofed address.**  The client's `X-Forwarded-For` reaches the upstream as it is when
the request is an upgrade; the plain way replaces it by the peer's address. -/
theorem spoofed_upgrade : ∃ out h req,
    (handleHttp Ext.upgrading out (upgradeContext spoofedHeader)).2.upstreamContacts
      = [.websocket uncheckedRoute.endpoint (lit "ws://a/") h]
    ∧ h.values (lit "X-Forwarded-For") = [lit "1.2.3.4"]
    ∧ (proxyRoute Ext.upgrading out (plainRoute uncheckedRoute)
        (upgradeContext spoofedHeader)).2.upstreamContacts
      = [.proxied uncheckedRoute.endpoint req]
    ∧ req.header.values (lit "X-Forwarded-For") = [lit "10.0.0.9:80"] := by
  obtain ⟨headerOrder⟩ := (inferInstance : Nonempty (GoMap.RangeChoice GoString (List GoString)))
  have hvalid : UpstreamRequestValid Ext.upgrading (upgradeContext spoofedHeader).r := by decide
  have hms : (plainRoute uncheckedRoute).middlewares = [] := rfl
  obtain ⟨req, hplain, hheader⟩ := proxied_contact hvalid hms
    (fun m hm => absurd hm List.not_mem_nil)
  refine ⟨Outcomes.small headerOrder, _, req, upgrade_contacts _ (by decide), ?_, hplain, ?_⟩
  · unfold Header.values
    rw [constructWsHeaders_lookup, if_neg (by decide)]
    decide
  · rw [hheader]
    decide

end SIngress.Controller
