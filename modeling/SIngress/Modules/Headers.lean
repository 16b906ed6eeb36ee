/-
  SIngress.Modules.Headers — HEADER REWRITING AND WEBSOCKETS
  (`modules/headers`, `modules/websocket`).

  The two header modules read lines `Name: value` from their annotation and set
  them, one on the response, one on the upstream request.  The websocket module
  takes an upgrade request out of the chain and connects it to the upstream
  itself: the one middleware that reaches an upstream.
-/
import SIngress.Config.Conf
import SIngress.Proxy.Context

namespace SIngress.Modules.Headers

open SIngress.Base SIngress.Lib SIngress.K8s SIngress.Platform SIngress.Config SIngress.Proxy

/-! ## §1. Lines of headers. -/

/-- One line: name and value, trimmed; a line without a colon, without a name or
without a value is skipped. -/
def headerLine (header : GoString) : Option (GoString × GoString) :=
  match splitN2 header byteColon with
  -- only the first colon separates, so a value may hold more
  | [rawName, rawValue] =>
      let headerName := trimSpace rawName
      let headerValue := trimSpace rawValue
      if headerName.isEmpty || headerValue.isEmpty then none else some (headerName, headerValue)
  -- a line without a colon is skipped, not reported
  | _ => none

/-- The lines the loop of both closures sets, in order. -/
def headerLines (headers : List GoString) : List (GoString × GoString) :=
  headers.filterMap headerLine

def setLines (lines : List (GoString × GoString)) (h : Header) : Header :=
  lines.foldl (fun h line => h.set line.1 line.2) h

/-- The last line for a key gives its value. -/
def lineFor (lines : List (GoString × GoString)) (key : GoString) : Option GoString :=
  (lines.reverse.find? fun line => canonicalHeaderKey key == canonicalHeaderKey line.1).map
    Prod.snd

theorem setLines_values (lines : List (GoString × GoString)) (h : Header) (key : GoString) :
    (setLines lines h).values key
      = ((lineFor lines key).map fun value => [value]).getD (h.values key) := by
  -- on the last line, the one `Set` keeps
  induction lines using List.reverseRecOn with
  | nil => rfl
  | append_singleton lines line ih =>
      have hset : setLines (lines ++ [line]) h = (setLines lines h).set line.1 line.2 := by
        unfold setLines
        rw [List.foldl_append]
        rfl
      rw [hset, Header.values_set]
      unfold lineFor at ih ⊢
      rw [List.reverse_append, List.reverse_singleton, List.singleton_append, List.find?_cons]
      -- the last line decides, or the ones before it do
      by_cases hkey : canonicalHeaderKey key = canonicalHeaderKey line.1
      · rw [if_pos hkey, beq_iff_eq.mpr hkey]
        rfl
      · rw [if_neg hkey, beq_eq_false_iff_ne.mpr hkey]
        exact ih

/-- A key that has a line has a value. -/
theorem lineFor_of_mem {lines : List (GoString × GoString)} {key : GoString}
    (h : key ∈ lines.map Prod.fst) : ∃ value, lineFor lines key = some value := by
  obtain ⟨line, hline, rfl⟩ := List.mem_map.mp h
  unfold lineFor
  cases hfind : lines.reverse.find? fun l =>
      canonicalHeaderKey line.1 == canonicalHeaderKey l.1 with
  | none =>
      have hnot := List.find?_eq_none.mp hfind line (List.mem_reverse.mpr hline)
      simp at hnot
  | some l => exact ⟨l.2, rfl⟩

/-- The hook of both modules: the annotation's lines, or nothing when it is empty
or absent. -/
def headerHook (key : GoString) (closure : List GoString → Middleware)
    (ingress : Ingress) : Reading (Option Middleware) :=
  let customHeadersRaw := ingress.annotationValue key
  if customHeadersRaw.isEmpty then pure none
  else pure (some (closure (split customHeadersRaw byteNewline)))

theorem headerHook_run {key : GoString} {closure : List GoString → Middleware}
    {ingress : Ingress} {api : Api} {used used' : List NamespacedName} {m? : Option Middleware}
    (h : (headerHook key closure ingress).run api used = .ok (m?, used')) :
    m? = if (ingress.annotationValue key).isEmpty then none
      else some (closure (split (ingress.annotationValue key) byteNewline)) := by
  unfold headerHook at h
  dsimp only at h
  split at h
  · rename_i hempty
    rw [if_pos hempty]
    exact (Reading.run_pure_eq_ok.mp h).1.symm
  · rename_i hfull
    rw [if_neg hfull]
    exact (Reading.run_pure_eq_ok.mp h).1.symm

/-! ## §2. `header.go` and `upstream.go`. -/

def headersCustomAnnotations : GoString := lit "s-ingress.oidq.dev/headers-response"
def headersUpstreamAnnotations : GoString := lit "s-ingress.oidq.dev/headers-upstream"

/-- `customHeaderModule`. -/
def customHeaderModule : ModuleInstance where
  typeName := lit "*headers.customHeaderModule"
  requestMiddleware := .ok none
  ingressMiddleware := headerHook headersCustomAnnotations .customHeader

/-- `upstreamHeaderModule`. -/
def upstreamHeaderModule : ModuleInstance where
  typeName := lit "*headers.upstreamHeaderModule"
  requestMiddleware := .ok none
  ingressMiddleware := headerHook headersUpstreamAnnotations .upstreamHeader

/-- `ModuleCustomHeader`. -/
def moduleCustomHeader : ModuleCreator := fun _ _ => pure customHeaderModule

/-- `ModuleUpstreamHeader`. -/
def moduleUpstreamHeader : ModuleCreator := fun _ _ => pure upstreamHeaderModule

/-- The closure of `customHeaderModule.IngressMiddleware`. -/
def customHeader (headers : List GoString) (next : NextFunc) : Serve Unit := do
  modify fun c => { c with responseHeader := setLines (headerLines headers) c.responseHeader }
  next

/-- The context with headers set on its upstream request. -/
def setUpstreamLines (lines : List (GoString × GoString)) (c : RequestContext) :
    RequestContext :=
  { c with upstreamRequest :=
      c.upstreamRequest.map fun req => { req with header := setLines lines req.header } }

/-- The closure of `upstreamHeaderModule.IngressMiddleware`; setting a header on a
missing upstream request is a nil dereference. -/
def upstreamHeader (headers : List GoString) (next : NextFunc) : Serve Unit := do
  let c ← get
  if c.upstreamRequest.isNone && !(headerLines headers).isEmpty then
    throw (.panic nilDereference)
  else
    modify (setUpstreamLines (headerLines headers))
    next

/-! ## §3. `websocket.go`. -/

/-- `websocketModule`. -/
def websocketModule : ModuleInstance where
  typeName := lit "*websocket.websocketModule"
  requestMiddleware := .ok none
  ingressMiddleware := fun _ => pure (some .websocket)

/-- `ModuleWebsocket`. -/
def moduleWebsocket : ModuleCreator := fun _ _ => pure websocketModule

section

variable (ext : Ext) (out : Outcomes)

/-- Keys `constructWsHeaders` leaves to the dialer. -/
def handshakeKeys : List GoString :=
  [lit "upgrade", lit "connection", lit "sec-websocket-key", lit "sec-websocket-version",
   lit "sec-websocket-extensions"]

/-- `constructWsHeaders`. -/
def constructWsHeaders (requestHeader : Header) : Header :=
  (out.headerOrder.order requestHeader).foldl
    -- the client's header: what the hooks set on the upstream request is not read
    (fun newHeaders entry =>
      if handshakeKeys.contains (toLowerAscii entry.1) then newHeaders
      else newHeaders.insert entry.1 entry.2) ∅

/-- Every key is passed on, except the ones the dialer sets itself. -/
theorem constructWsHeaders_lookup (requestHeader : Header) (key : GoString) :
    (constructWsHeaders out requestHeader).lookup key
      = if handshakeKeys.contains (toLowerAscii key) then none
        else requestHeader.lookup key :=
  @GoMap.lookup_copyRange _ _ _ (fun key => handshakeKeys.contains (toLowerAscii key)) _ _
    (out.headerOrder.ranges requestHeader) key

/-- What a refused upgrade writes: the `http.Error` of the upgrader. -/
def refuseUpgrade (status : Int) : Serve Unit := do
  modifyHeader fun h =>
    (((h.set (lit "Sec-Websocket-Version") (lit "13")).del (lit "Content-Length")).set
      (lit "Content-Type") (lit "text/plain; charset=utf-8")).set
      (lit "X-Content-Type-Options") (lit "nosniff")
  writeHeader status
  writeBytes (ext.statusText status ++ [byteNewline])

/-- `handleWebSocket` up to the point where both connections are open; then
messages are passed on until one side closes, and it returns nil.  The scheme is
written through the pointer to the upstream request's URL. -/
def handleWebSocket : Serve Unit := do
  let c ← get
  match c.upstreamRequest, c.matchedRoute with
  | some req, some route =>
      let upstreamUrl := { req.url with scheme := lit "ws" }
      let header := constructWsHeaders out c.r.header
      modify fun c => { c with
        upstreamRequest := some { req with url := upstreamUrl }
        upstreamContacts := c.upstreamContacts ++
          [.websocket route.endpoint (ext.urlString upstreamUrl) header] }
      match out.wsDial route.endpoint (ext.urlString upstreamUrl) header with
      | .badHandshake err => throw (.err err)
      | .failed err => throw (.err (lit "websocket upgrader dial failed: " ++ err))
      | .connected =>
          match out.wsUpgrade c.r with
          -- the connection is hijacked: nothing goes through the response writer any more
          | .upgraded => pure ()
          | .failed err => throw (.err (lit "websocket upgrader failed: " ++ err))
          | .refused status err => do
              refuseUpgrade ext status
              throw (.err (lit "websocket upgrader failed: " ++ err))
  -- a nil upstream request or route
  | _, _ => throw (.panic nilDereference)

/-- The closure of `websocketModule.IngressMiddleware`. -/
def websocket (next : NextFunc) : Serve Unit := do
  let c ← get
  if ext.isWebSocketUpgrade c.r.header then handleWebSocket ext out else next

/-! ## §4. What they do to the chain. -/

theorem customHeader_screens (headers : List GoString) :
    Screens (customHeader headers) (fun _ _ => True) where
  pass _ c _ := ⟨{ c with
    responseHeader := setLines (headerLines headers) c.responseHeader },
    ⟨rfl, List.prefix_refl _⟩, rfl⟩
  deny _ _ h := absurd trivial h

/-- With an upstream request prepared, `upstreamHeader` always passes on. -/
theorem upstreamHeader_gate (headers : List GoString) :
    Gate RequestContext.view RequestContext.upstreamContacts (upstreamHeader headers)
      (fun v => v.2.2.2 = true ∨ headerLines headers = []) where
  pass next c h := by
    refine ⟨setUpstreamLines (headerLines headers) c, ?_, rfl, ?_⟩
    · unfold setUpstreamLines RequestContext.view
      simp
    · have hcond : ¬ (c.upstreamRequest.isNone && !(headerLines headers).isEmpty) = true := by
        rcases h with h | h
        · obtain ⟨req, hreq⟩ := Option.isSome_iff_exists.mp h
          simp [hreq]
        · simp [h]
      simp only [upstreamHeader, get_bind_run]
      rw [if_neg hcond]
      rfl
  -- only without an upstream request, that is, outside the chain of a route
  deny next c h := by
    have hcond : (c.upstreamRequest.isNone && !(headerLines headers).isEmpty) = true := by
      have h' : ¬ (c.upstreamRequest.isSome = true ∨ headerLines headers = []) := h
      simpa using h'
    simp only [upstreamHeader, get_bind_run]
    rw [if_pos hcond]
    rfl

theorem refuseUpgrade_responds (status : Int) : Responds (refuseUpgrade ext status) :=
  Keeps.bind (modifyHeader_responds _) fun _ =>
    Keeps.bind (writeHeader_responds _) fun _ => writeBytes_responds _

/-- **A websocket reaches the upstream exactly once**, whatever the dial and the
upgrade answer. -/
theorem handleWebSocket_contacts {c : RequestContext} {req : UpstreamRequest}
    {route : RouteConfig} (hreq : c.upstreamRequest = some req)
    (hroute : c.matchedRoute = some route) :
    (handleWebSocket ext out c).2.upstreamContacts
      = c.upstreamContacts ++ [.websocket route.endpoint
          (ext.urlString { req.url with scheme := lit "ws" })
          (constructWsHeaders out c.r.header)] := by
  simp only [handleWebSocket, get_bind_run, hreq, hroute, modify_bind_run]
  cases out.wsDial route.endpoint (ext.urlString { req.url with scheme := lit "ws" })
      (constructWsHeaders out c.r.header) with
  | badHandshake err => rfl
  | failed err => rfl
  | connected =>
      cases out.wsUpgrade c.r with
      | upgraded => rfl
      | failed err => rfl
      | refused status err =>
          exact Responds.contacts
            (Keeps.bind (refuseUpgrade_responds ext status) fun _ => keeps_throw _) _

theorem websocket_of_upgrade {c : RequestContext} (next : NextFunc)
    (h : ext.isWebSocketUpgrade c.r.header = true) :
    websocket ext out next c = handleWebSocket ext out c := by
  simp only [websocket, get_bind_run]
  rw [if_pos h]

theorem websocket_of_plain {c : RequestContext} (next : NextFunc)
    (h : ¬ ext.isWebSocketUpgrade c.r.header = true) :
    websocket ext out next c = next c := by
  simp only [websocket, get_bind_run]
  rw [if_neg h]

end

end SIngress.Modules.Headers
