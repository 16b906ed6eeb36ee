/-
  SIngress.Proxy.ResponseHeaders — WHAT `setResponseHeaders` LEAVES IN THE WRITER.

  Four sources are layered on the writer's header: the two headers of the
  proxy, the upstream's, the modules', and the cookies.  The upstream's and the
  modules' are unordered maps, each visited once in an order of the run-time's
  choice; every visit writes the cell of its own key only, so the order does
  not show (`GoMap.Ranges.foldl_cell`).

  * `copyHeaders_cell`, `overrideHeaders_cell` — the two loops, for any order.
  * `setResponseHeaders_values`                — the values of every key after
                                                 the whole call.
-/
import SIngress.Proxy.Serve

namespace SIngress.Proxy

open SIngress.Base SIngress.Lib SIngress.Platform

/-! ## §1. The two loops. -/

/-- Every key is in canonical form, as the keys of an `http.Header` are that was read from
the wire or filled through its methods. -/
def CanonicalKeys (h : Header) : Prop := ∀ k ∈ h, canonicalHeaderKey k = k

theorem CanonicalKeys.of_ranges {h : Header} (hkeys : CanonicalKeys h)
    {order : List (GoString × List GoString)} (hord : GoMap.Ranges h order)
    {e : GoString × List GoString} (he : e ∈ order) : canonicalHeaderKey e.1 = e.1 := by
  have hlook := hord.mem_iff.mp he
  exact hkeys e.1 (Finmap.mem_of_lookup_eq_some hlook)

def keepAlive : GoString := lit "Keep-Alive"

theorem canonical_keepAlive : canonicalHeaderKey (lit "keep-alive") = keepAlive := by decide

/-- **The first loop, in any order**: the upstream's values replace what was there, except
under `Keep-Alive`. -/
theorem copyHeaders_cell {respHeader : Header} (hkeys : CanonicalKeys respHeader)
    {order : List (GoString × List GoString)} (hord : GoMap.Ranges respHeader order)
    (h : Header) (k : GoString) :
    (copyHeaders respHeader order h).cell k
      = match respHeader.lookup k with
        | none => h.cell k
        | some values => if k = keepAlive then h.cell k else values := by
  have hstep : ∀ (h : Header), ∀ e ∈ order,
      Header.cell (if e.1 = canonicalHeaderKey (lit "keep-alive") then h
        else (respHeader.values e.1).foldl (fun h value => h.add e.1 value) (h.del e.1)) k
      = if k = e.1 then (if e.1 = keepAlive then h.cell k else e.2) else h.cell k := by
    intro h e he
    rw [canonical_keepAlive]
    by_cases hskip : e.1 = keepAlive
    · rw [if_pos hskip, if_pos hskip, ite_self]
    · have hvalues : respHeader.values e.1 = e.2 := by
        rw [Header.values_eq_cell, hkeys.of_ranges hord he]
        unfold Header.cell
        rw [hord.mem_iff.mp he]
        rfl
      rw [if_neg hskip, if_neg hskip, hvalues, Header.cell_foldl_add, Header.cell_del,
        hkeys.of_ranges hord he]
      by_cases hk : k = e.1
      · rw [if_pos hk, if_pos hk, if_pos hk, List.nil_append]
      · rw [if_neg hk, if_neg hk, if_neg hk]
  have hloop := hord.foldl_cell Header.cell (fun e old => if e.1 = keepAlive then old else e.2)
    hstep h
  unfold copyHeaders
  rw [hloop]
  cases respHeader.lookup k with
  | none => rfl
  | some values => rfl

/-- **The second loop, in any order**: the modules' value replaces what was there. -/
theorem overrideHeaders_cell {responseHeader : Header} (hkeys : CanonicalKeys responseHeader)
    {order : List (GoString × List GoString)} (hord : GoMap.Ranges responseHeader order)
    (h : Header) (k : GoString) :
    (overrideHeaders responseHeader order h).cell k
      = match responseHeader.lookup k with
        | none => h.cell k
        | some _ => [responseHeader.get k] := by
  have hstep : ∀ (h : Header), ∀ e ∈ order,
      (h.set e.1 (responseHeader.get e.1)).cell k
        = if k = e.1 then [responseHeader.get e.1] else h.cell k := by
    intro h e he
    rw [Header.cell_set, hkeys.of_ranges hord he]
  have hloop := hord.foldl_cell Header.cell (fun e _ => [responseHeader.get e.1]) hstep h
  unfold overrideHeaders
  rw [hloop]
  cases responseHeader.lookup k with
  | none => rfl
  | some values => rfl

/-! ## §2. The cookies and the whole call. -/

/-- The serialized cookies, without those `http.Cookie.String` refuses. -/
def serializedCookies (ext : Ext) (cookies : List Cookie) : List GoString :=
  (cookies.map ext.cookieString).filter fun v => !v.isEmpty

def setCookieKey : GoString := lit "Set-Cookie"

/-- The third loop: the valid cookies follow in list order. -/
theorem cookies_cell (ext : Ext) (cookies : List Cookie) (h : Header) (k : GoString) :
    Header.cell (cookies.foldl
        (fun h cookie =>
          if (ext.cookieString cookie).isEmpty then h
          else h.add setCookieKey (ext.cookieString cookie)) h) k
      = h.cell k ++ if k = setCookieKey then serializedCookies ext cookies else [] := by
  induction cookies generalizing h with
  | nil => simp [serializedCookies]
  | cons cookie cookies ih =>
      have hcanon : canonicalHeaderKey setCookieKey = setCookieKey := by decide
      rw [List.foldl_cons, ih]
      unfold serializedCookies
      rw [List.map_cons]
      by_cases hempty : (ext.cookieString cookie).isEmpty = true
      · rw [if_pos hempty, List.filter_cons_of_neg (by simp [hempty])]
      · rw [if_neg hempty, List.filter_cons_of_pos (by simp [hempty]), Header.cell_add, hcanon]
        by_cases hk : k = setCookieKey
        · rw [if_pos hk, if_pos hk, if_pos hk, List.append_assoc, List.singleton_append]
        · rw [if_neg hk, if_neg hk, if_neg hk]

/-- The prior values of a key, with the two headers the proxy sets. -/
def baseValues (prior : Header) (requestId k : GoString) : List GoString :=
  if k = lit "Alt-Svc" then [lit "h3=\":443\"; ma=2592000"]
  else if k = lit "X-Request-Id" then [requestId]
  else prior.cell k

/-- The values of a key in the merged header. -/
def mergedValues (prior upstream modules : Header) (requestId : GoString)
    (cookies : List GoString) (k : GoString) : List GoString :=
  (match modules.lookup k, upstream.lookup k with
    | some _, _ => [modules.get k]
    | none, some values => if k = keepAlive then baseValues prior requestId k else values
    | none, none => baseValues prior requestId k)
  ++ if k = setCookieKey then cookies else []

/-- **The response header merge.**  Whatever orders the maps are visited in, the call
succeeds, changes nothing but the writer's header, and leaves under every key the modules'
value alone, or else the upstream's values in their order, or else the prior ones; the
valid cookies follow under `Set-Cookie`. -/
theorem setResponseHeaders_values {ext : Ext} {out : Outcomes} {respHeader : Header}
    {c : RequestContext} (hresp : CanonicalKeys respHeader)
    (hmodules : CanonicalKeys c.responseHeader) :
    ∃ header, setResponseHeaders ext out respHeader c
        = (.ok (), { c with w := { c.w with header := header } })
      ∧ ∀ k, header.cell k = mergedValues c.w.header respHeader c.responseHeader c.requestId
          (serializedCookies ext c.responseCookies) k := by
  refine ⟨_, rfl, ?_⟩
  intro k
  have hbase : ((c.w.header.set (lit "X-Request-Id") c.requestId).set (lit "Alt-Svc")
      (lit "h3=\":443\"; ma=2592000")).cell k = baseValues c.w.header c.requestId k := by
    have hid : canonicalHeaderKey (lit "X-Request-Id") = lit "X-Request-Id" := by decide
    have halt : canonicalHeaderKey (lit "Alt-Svc") = lit "Alt-Svc" := by decide
    rw [Header.cell_set, Header.cell_set, hid, halt]
    rfl
  -- the layers from the last one on
  refine (cookies_cell ext c.responseCookies _ k).trans ?_
  rw [overrideHeaders_cell hmodules (out.headerOrder.ranges _),
    copyHeaders_cell hresp (out.headerOrder.ranges _), hbase]
  unfold mergedValues
  cases c.responseHeader.lookup k with
  | some value => rfl
  | none =>
      cases respHeader.lookup k with
      | none => rfl
      | some values => rfl

/-- A response with two cookies, a server name and a connection header. -/
def upstreamHeader : Header :=
  (((∅ : Header).insert setCookieKey [lit "a=1", lit "b=2"]).insert (lit "Server")
    [lit "nginx"]).insert keepAlive [lit "timeout=5"]

/-- A request for which a module has set a server name and another one a cookie. -/
def mergingContext : RequestContext where
  r := ⟨lit "GET", lit "a.org", ⟨[], [], lit "/", [], [], []⟩, ∅, true, lit "10.0.0.9:80", 0⟩
  w := ⟨∅, [], 0⟩
  requestId := lit "uuid"
  remoteIp := ⟨.v4 0x0A000009, 80⟩
  realIp := .v4 0x0A000009
  matchedRoute := none
  upstreamRequest := none
  routingConfig := ⟨∅, ∅, none, [], [], [], none⟩
  responseHeader := (∅ : Header).insert (lit "Server") [lit "s-ingress"]
  responseCookies := [⟨lit "c", lit "3", 0, false, []⟩]
  upstreamContacts := []

theorem CanonicalKeys.insert {h : Header} (hkeys : CanonicalKeys h) {key : GoString}
    (hkey : canonicalHeaderKey key = key) (values : List GoString) :
    CanonicalKeys (h.insert key values) := by
  intro k hk
  obtain rfl | hk := Finmap.mem_insert.mp hk
  · exact hkey
  · exact hkeys k hk

theorem canonicalKeys_empty : CanonicalKeys ∅ := fun _ hk => absurd hk Finmap.notMem_empty

/-- Both upstream cookies stay in front of the module's, the module's server name wins, and
the connection header is not passed on. -/
theorem setResponseHeaders_merging : ∃ out header,
    setResponseHeaders Ext.small out upstreamHeader mergingContext
        = (.ok (), { mergingContext with w := ⟨header, [], 0⟩ })
      ∧ header.cell setCookieKey = [lit "a=1", lit "b=2", lit "c=3"]
      ∧ header.cell (lit "Server") = [lit "s-ingress"]
      ∧ header.cell keepAlive = [] := by
  obtain ⟨headerOrder⟩ := (inferInstance : Nonempty (GoMap.RangeChoice GoString (List GoString)))
  have hresp : CanonicalKeys upstreamHeader :=
    ((canonicalKeys_empty.insert (by decide) _).insert (by decide) _).insert (by decide) _
  have hmodules : CanonicalKeys mergingContext.responseHeader :=
    canonicalKeys_empty.insert (by decide) _
  obtain ⟨header, hrun, hcell⟩ := @setResponseHeaders_values Ext.small
    (Outcomes.small headerOrder) upstreamHeader mergingContext hresp hmodules
  refine ⟨Outcomes.small headerOrder, header, hrun, ?_, ?_, ?_⟩
  · rw [hcell]
    decide
  · rw [hcell]
    decide
  · rw [hcell]
    decide

end SIngress.Proxy
