/-
  SIngress.Proxy.Reach — WHOM A REQUEST REACHES.

    • `lookupHost_eq_findSome` — the keys of a host, tried in order,
    • `lookupRoute_some` and `lookupRoute_none` — the route a host finds, by types
      and paths alone,
    • `chain_endpoint` — whatever middlewares stand before it, a routed request
      reaches the endpoint of its route or nobody.
-/
import SIngress.Proxy.HostTable
import SIngress.Proxy.Passage

namespace SIngress.Proxy

open SIngress.Base SIngress.Lib SIngress.Platform SIngress.Modules SIngress.Modules.Headers

/-! ## §1. Host keys and priorities. -/

/-- The keys under which a host is looked up, in order: the host, what follows its first
label, and the default. -/
def hostKeys (host : GoString) : List GoString :=
  match host.dropWhile (· != byteDot) with
  | [] => [host, []]
  | cutHost => [host, cutHost, []]

theorem lookupHost_eq_findSome (rc : RoutingConfig) (host : GoString) :
    rc.lookupHost host = (hostKeys host).findSome? fun key => rc.hosts.lookup key := by
  unfold RoutingConfig.lookupHost hostKeys
  cases hhost : rc.hosts.lookup host with
  | some hc =>
      cases host.dropWhile (· != byteDot) with
      | nil => simp [hhost]
      | cons b d => simp [hhost]
  | none =>
      cases host.dropWhile (· != byteDot) with
      | nil =>
          cases hdefault : rc.hosts.lookup [] with
          | none => simp [hhost, hdefault]
          | some hc => simp [hhost, hdefault]
      | cons b d =>
          cases hcut : rc.hosts.lookup (b :: d) with
          | some hc => simp [hhost, hcut]
          | none =>
              cases hdefault : rc.hosts.lookup [] with
              | none => simp [hhost, hcut, hdefault]
              | some hc => simp [hhost, hcut, hdefault]

/-- A path declared with this type is for the requested path; a prefix also for itself
without its last byte. -/
def PathType.Covers (pathType : PathType) (declared path : GoString) : Prop :=
  match pathType with
  | .pathTypeExact => declared = path
  | .pathTypePrefix => declared <+: path ∨ declared ≠ [] ∧ declared.dropLast = path
  | .other _ => False

instance : ∀ (pathType : PathType) (declared path : GoString),
    Decidable (pathType.Covers declared path)
  | .pathTypeExact, declared, path => inferInstanceAs (Decidable (declared = path))
  | .pathTypePrefix, declared, path =>
      inferInstanceAs (Decidable (declared <+: path ∨ declared ≠ [] ∧ declared.dropLast = path))
  | .other _, _, _ => inferInstanceAs (Decidable False)

/-- The first of two declared paths goes before the second: exact ones before all others,
then the longer ones. -/
def PathType.Precedes (pathType : PathType) (declared : GoString) (pathType' : PathType)
    (declared' : GoString) : Prop :=
  pathType' ≠ .pathTypeExact
    ∧ (pathType = .pathTypeExact ∨ declared'.length < declared.length)

theorem stops_iff_covers {r : RouteConfig} (htyped : r.Typed) (path : GoString) :
    r.stops path = true ↔ r.pathType.Covers r.path path := by
  rcases htyped with hexact | hprefixed
  · rw [stops_exact hexact, hexact]
    rfl
  · rw [stops_prefixed hprefixed, hprefixed]
    rfl

theorem not_precedes_of_rank_le {r r' : RouteConfig} (h : r'.rank ≤ r.rank) :
    ¬ r'.pathType.Precedes r'.path r.pathType r.path := by
  rintro ⟨hne, hexact | hlt⟩
  · rw [rank_exact hexact, rank_not_exact hne] at h
    exact absurd (top_le_iff.mp h) WithTop.coe_ne_top
  · by_cases hexact : r'.pathType = .pathTypeExact
    · rw [rank_exact hexact, rank_not_exact hne] at h
      exact absurd (top_le_iff.mp h) WithTop.coe_ne_top
    · rw [rank_not_exact hexact, rank_not_exact hne] at h
      have hle : r'.path.length ≤ r.path.length := WithTop.coe_le_coe.mp h
      omega

theorem eq_of_map_some {x : Except Fail Bool} {z : RouteConfig} {route? : Option RouteConfig}
    (h : (x.map fun _ => some z) = .ok route?) : route? = some z := by
  cases x with
  | error f => cases h
  | ok b => exact (Except.ok.inj h).symm

/-- The route a host finds is one of its routes, covers the path and no other that covers it
goes before it. -/
theorem lookupRoute_some {rs : List RouteConfig} (htyped : ∀ r ∈ rs, r.Typed) {path : GoString}
    {r : RouteConfig} (h : (addRoutes rs).lookupRoute path = .ok (some r)) :
    r ∈ rs ∧ r.pathType.Covers r.path path
      ∧ ∀ r' ∈ rs, r'.pathType.Covers r'.path path →
        ¬ r'.pathType.Precedes r'.path r.pathType r.path := by
  rw [lookupRoute_addRoutes] at h
  cases hfind : (insertAll RouteConfig.rank rs).find? (RouteConfig.stops path) with
  | none =>
      rw [hfind] at h
      cases h
  | some z =>
      rw [hfind] at h
      cases eq_of_map_some h
      obtain ⟨hmem, hstops, hmax⟩ := find?_insertAll_spec _ _ hfind
      refine ⟨hmem, (stops_iff_covers (htyped r hmem) path).mp hstops, fun r' hr' hcovers => ?_⟩
      exact not_precedes_of_rank_le
        (hmax r' hr' ((stops_iff_covers (htyped r' hr') path).mpr hcovers))

/-- No route is found exactly if none covers the path. -/
theorem lookupRoute_none {rs : List RouteConfig} (htyped : ∀ r ∈ rs, r.Typed) {path : GoString} :
    (addRoutes rs).lookupRoute path = .ok none ↔ ∀ r ∈ rs, ¬ r.pathType.Covers r.path path := by
  rw [lookupRoute_addRoutes]
  have hnone := @find?_insertAll_eq_none _ _ _ RouteConfig.rank (RouteConfig.stops path) rs
  cases hfind : (insertAll RouteConfig.rank rs).find? (RouteConfig.stops path) with
  | none =>
      refine ⟨fun _ r hr hcovers => ?_, fun _ => rfl⟩
      exact hnone.mp hfind r hr ((stops_iff_covers (htyped r hr) path).mpr hcovers)
  | some z =>
      obtain ⟨hmem, hstops, _⟩ := find?_insertAll_spec _ _ hfind
      constructor
      · intro h
        cases eq_of_map_some h
      · intro h
        exact absurd ((stops_iff_covers (htyped z hmem) path).mp hstops) (h z hmem)

/-- A lookup over routes without an empty path returns. -/
theorem lookupRoute_returns {rs : List RouteConfig} (htyped : ∀ r ∈ rs, r.Typed)
    (path : GoString) (hpaths : ∀ r ∈ rs, r.path ≠ []) :
    ∃ route?, (addRoutes rs).lookupRoute path = .ok route? := by
  rw [lookupRoute_addRoutes]
  cases hfind : (insertAll RouteConfig.rank rs).find? (RouteConfig.stops path) with
  | none => exact ⟨none, rfl⟩
  | some z =>
      obtain ⟨hmem, _, _⟩ := find?_insertAll_spec _ _ hfind
      have hmatch : ∃ b, z.matchesPath path = .ok b := by
        unfold RouteConfig.matchesPath
        rcases htyped z hmem with hexact | hprefixed
        · rw [hexact]
          exact ⟨_, rfl⟩
        · rw [hprefixed]
          dsimp only
          rw [if_neg fun hempty => hpaths z hmem (List.isEmpty_iff.mp hempty)]
          split_ifs
          · exact ⟨_, rfl⟩
          · exact ⟨_, rfl⟩
      obtain ⟨b, hb⟩ := hmatch
      refine ⟨some z, ?_⟩
      show (z.matchesPath path).map (fun _ => some z) = .ok (some z)
      rw [hb]
      rfl

/-! ## §2. Whom a routed request reaches. -/

/-- The upstream of a contact. -/
def Contact.endpoint : Contact → AddrPort
  | .proxied endpoint _ => endpoint
  | .websocket endpoint _ _ => endpoint

section

variable {ext : Ext} {out : Outcomes}

/-- A middleware that passes the request on leaves the upstream request to be sent. -/
theorem exists_request_of_onward {lines : List (GoString × GoString)} {c c' : RequestContext}
    (hon : Onward (setUpstreamLines lines c) c') (hreq : c.upstreamRequest.isSome = true) :
    ∃ req, c'.upstreamRequest = some req := by
  obtain ⟨_, _, _, _, _, _, hreq', _, _⟩ := hon.fields
  rw [← Option.isSome_iff_exists, hreq']
  exact Option.isSome_map.trans hreq

/-- **A chain reaches at most the endpoint of its route**, whatever its middlewares are. -/
theorem chain_endpoint (ms : List Middleware) {c : RequestContext} {route : RouteConfig}
    (hreq : c.upstreamRequest.isSome = true) (hroute : c.matchedRoute = some route)
    (hfresh : c.upstreamContacts = []) :
    ∀ contact ∈ (callMiddleware ext out ms (proxy ext out) c).2.upstreamContacts,
      contact.endpoint = route.endpoint := by
  by_cases hall : ∀ m ∈ ms, m.Continues ext out c.r c.realIp
  · -- to the end: `proxy` dials
    obtain ⟨c', hon, hrun⟩ := callMiddleware_continues (proxy ext out) hall (Or.inl hreq)
    obtain ⟨_, _, _, _, _, hroute', _, _, hcontacts⟩ := hon.fields
    obtain ⟨req, hsome⟩ := exists_request_of_onward hon hreq
    rw [hrun, proxy_contacts ext out hsome (hroute'.trans hroute), hcontacts]
    intro contact hcontact
    rw [show (setUpstreamLines (ms.flatMap Middleware.lines) c).upstreamContacts = [] from hfresh,
      List.nil_append] at hcontact
    rw [List.mem_singleton.mp hcontact]
    rfl
  · obtain ⟨before, m, after, rfl, hbefore, hm⟩ := exists_stop hall
    obtain ⟨c', hon, hrun⟩ := callMiddleware_stops m after (proxy ext out) hbefore (Or.inl hreq)
    obtain ⟨hr, _, _, _, hreal, hroute', _, _, hcontacts⟩ := hon.fields
    have hfresh' : c'.upstreamContacts = [] := hcontacts.trans hfresh
    rw [hrun]
    by_cases hws : m = .websocket
    · -- the websocket module dials by itself
      subst hws
      obtain ⟨req, hsome⟩ := exists_request_of_onward hon hreq
      have hup : ext.isWebSocketUpgrade c'.r.header = true := by
        rw [hr]
        exact not_not.mp hm
      show ∀ contact ∈ (websocket ext out _ c').2.upstreamContacts, _
      rw [websocket_of_upgrade ext out _ hup,
        handleWebSocket_contacts ext out hsome (hroute'.trans hroute), hfresh']
      intro contact hcontact
      rw [List.mem_singleton.mp hcontact]
      rfl
    · have hstop : ¬ m.Continues ext out c'.r c'.realIp := by
        rw [hr, hreal]
        exact hm
      rw [(call_answered _ hstop hws).contacts, hfresh']
      intro contact hcontact
      cases hcontact

theorem recoverError_contacts (m : Serve Unit) (c : RequestContext) :
    (recoverError ext out m c).2.upstreamContacts = (m c).2.upstreamContacts := by
  unfold recoverError
  split
  · next err c' hrun =>
      split_ifs
      · -- the error page is no contact
        have hkeeps : (handleErrorf ext out 500 c').2.upstreamContacts = c'.upstreamContacts :=
          (handleErrorPage_responds ext out 500 []).contacts c'
        rw [hrun, ← hkeeps]
        split
        · next heq => rw [heq]
        · rfl
      · rw [hrun]
  · rfl

/-- A chain that recorded a status keeps what it wrote. -/
theorem recoverError_written {m : Serve Unit} {c c' : RequestContext} {result : Except Fail Unit}
    (hrun : m c = (result, c')) (hresult : result = .ok () ∨ ∃ err, result = .error (.err err))
    (hrecorded : c'.w.writtenStatusCode ≠ 0) : recoverError ext out m c = (.ok (), c') := by
  unfold recoverError
  rw [hrun]
  rcases hresult with rfl | ⟨err, rfl⟩
  · rfl
  · dsimp only
    rw [if_neg hrecorded]

end

end SIngress.Proxy
