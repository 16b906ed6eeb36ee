/-
  SIngress.Proxy.Context — THE CONTEXT OF ONE REQUEST.

  `RequestContext` and `ResponseWriter` of `pkg/proxy/context.go`, the error
  pages of `error.go`, and the functions of `net/http` that write through the
  context.  A handler is an effect on the context that may fail; what it wrote
  before failing stays written.

  `upstreamContacts` is a history variable of the model: every attempt to
  reach an upstream, in order.  Nothing in this module touches it.
-/
import SIngress.Lib.Chain
import SIngress.Lib.Effect
import SIngress.Platform.Ext
import SIngress.Proxy.Config

namespace SIngress.Proxy

open SIngress.Base SIngress.Lib SIngress.Platform

/-! ## §1. The context. -/

/-- One call on the underlying `http.ResponseWriter`; a header is sent as it
stands at that moment. -/
inductive WriterCall where
  | writeHeader (status : Int) (header : Header)
  | write (data : GoString)
  deriving DecidableEq

/-- `proxy.ResponseWriter`; `header` is `W.Header()`. -/
structure ResponseWriter where
  header : Header
  calls : List WriterCall
  writtenStatusCode : Int
  deriving DecidableEq

/-- One attempt to reach an upstream. -/
inductive Contact where
  /-- By `proxy`. -/
  | proxied (endpoint : AddrPort) (request : UpstreamRequest)
  /-- By `handleWebSocket`. -/
  | websocket (endpoint : AddrPort) (url : GoString) (header : Header)
  deriving DecidableEq

/-- `proxy.RequestContext`. -/
structure RequestContext where
  r : Request
  w : ResponseWriter
  requestId : GoString
  remoteIp : AddrPort
  realIp : Addr
  matchedRoute : Option RouteConfig
  upstreamRequest : Option UpstreamRequest
  routingConfig : RoutingConfig
  responseHeader : Header
  responseCookies : List Cookie
  /-- History: the attempts to reach an upstream so far. -/
  upstreamContacts : List Contact
  deriving DecidableEq

/-- `rCtx.ResponseHeader().Set(key, value)`. -/
def RequestContext.setResponseHeader (c : RequestContext) (key value : GoString) :
    RequestContext :=
  { c with responseHeader := c.responseHeader.set key value }

/-- Code that runs with a `*RequestContext`. -/
abbrev Serve (α : Type) := Effect Fail RequestContext α

/-- An effect with a context added to the error it ends in. -/
def wrapServe {α : Type} (context : GoString) (m : Serve α) : Serve α := fun c =>
  match m c with
  | (.ok a, c') => (.ok a, c')
  | (.error e, c') => (.error (e.wrap context), c')

/-- A pure call that may return an error. -/
def liftError {α : Type} : Except GoError α → Serve α
  | .ok a => pure a
  | .error err => throw (.err err)

/-- `proxy.NextFunc`. -/
abbrev NextFunc := Serve Unit

/-! ## §2. Writing a response. -/

/-- `W.Header()` changed by `f`. -/
def modifyHeader (f : Header → Header) : Serve Unit :=
  modify fun c => { c with w := { c.w with header := f c.w.header } }

/-- `ResponseWriter.WriteHeader`; `net/http` panics on a code that does not have
three digits. -/
def writeHeader (statusCode : Int) : Serve Unit := do
  -- the status is recorded before the call that may panic
  modify fun c => { c with w := { c.w with writtenStatusCode := statusCode } }
  if statusCode < 100 ∨ 999 < statusCode then
    throw (.panic (lit "invalid WriteHeader code " ++ itoa statusCode))
  modify fun c =>
    { c with w := { c.w with calls := c.w.calls ++ [.writeHeader statusCode c.w.header] } }

/-- The bytes `ResponseWriter.Write` passes on. -/
def writeBytes (data : GoString) : Serve Unit :=
  modify fun c => { c with w := { c.w with calls := c.w.calls ++ [.write data] } }

section

variable (ext : Ext) (out : Outcomes)

/-- `RequestContext.handleErrorPage`. -/
def handleErrorPage (status : Int) (msg : GoString) : Serve Unit := do
  writeHeader status
  let c ← get
  -- a HEAD gets the status and no page
  if c.r.method = lit "HEAD" then
    return
  match c.routingConfig.errorPage with
  | none =>
      writeBytes msg
      match out.write msg with
      | some err => throw (.err err)
      | none => pure ()
  | some errPage =>
      let (page, err?) := out.executeErrorPage errPage
        { status := status
          statusText := ext.statusText status
          message := msg
          url := c.r.url
          host := c.r.host
          requestId := c.requestId
          realIp := c.realIp }
      writeBytes page
      match err? with
      | some err => throw (.err err)
      | none => pure ()

/-- `RequestContext.HandleErrorf`: the formatted text goes to the log only. -/
def handleErrorf (status : Int) : Serve Unit := handleErrorPage ext out status []

def badRequest (msg : GoString) : Serve Unit := handleErrorPage ext out 400 msg
def unauthorized (msg : GoString) : Serve Unit := handleErrorPage ext out 401 msg
def forbidden (msg : GoString) : Serve Unit := handleErrorPage ext out 403 msg
def notFound (msg : GoString) : Serve Unit := handleErrorPage ext out 404 msg

/-- `http.Redirect`. -/
def redirect (target : GoString) (code : Int) : Serve Unit := do
  let c ← get
  -- as `http.Redirect` does: a body only for GET, and only if nobody set the type
  let hadCT := (c.w.header.lookup (lit "Content-Type")).isSome
  modifyHeader fun h => h.set (lit "Location") (ext.redirectLocation c.r target)
  if !hadCT && (c.r.method == lit "GET" || c.r.method == lit "HEAD") then
    modifyHeader fun h => h.set (lit "Content-Type") (lit "text/html; charset=utf-8")
  writeHeader code
  if !hadCT && c.r.method == lit "GET" then
    writeBytes (ext.redirectBody target code)

/-- `http.SetCookie`. -/
def setCookie (cookie : Cookie) : Serve Unit :=
  if (ext.cookieString cookie).isEmpty then pure ()
  else modifyHeader fun h => h.add (lit "Set-Cookie") (ext.cookieString cookie)

/-- `RequestContext.SetResponseCookie`. -/
def setResponseCookie (cookie : Cookie) : Serve Unit :=
  modify fun c => { c with responseCookies := c.responseCookies ++ [cookie] }

/-! ## §3. None of this reaches an upstream.

`Request.r` and the routing decision stay as they were, and so does the history
of upstream contacts: a response the proxy writes by itself is no contact. -/

/-- The part of the context that writing a response leaves alone. -/
def RequestContext.settled (c : RequestContext) :
    Request × Addr × Option RouteConfig × Option UpstreamRequest × List Contact :=
  (c.r, c.realIp, c.matchedRoute, c.upstreamRequest, c.upstreamContacts)

/-- Writes a response, or part of one, and nothing else. -/
abbrev Responds {α : Type} (m : Serve α) : Prop := Keeps RequestContext.settled m

theorem modifyHeader_responds (f : Header → Header) : Responds (modifyHeader f) :=
  keeps_modify fun _ => rfl

theorem writeBytes_responds (data : GoString) : Responds (writeBytes data) :=
  keeps_modify fun _ => rfl

theorem writeHeader_responds (statusCode : Int) : Responds (writeHeader statusCode) := by
  refine Keeps.bind (keeps_modify fun _ => rfl) fun _ => ?_
  -- the panic happens between the two changes, and both keep what is settled
  by_cases h : statusCode < 100 ∨ 999 < statusCode
  · rw [if_pos h]
    exact Keeps.bind (keeps_throw _) fun _ => keeps_modify fun _ => rfl
  · rw [if_neg h]
    exact keeps_modify fun _ => rfl

theorem throwSome_responds (err? : Option GoError) :
    Responds (match err? with | some err => throw (.err err) | none => pure () : Serve Unit) := by
  cases err? with
  | none => exact keeps_pure _
  | some err => exact keeps_throw _

theorem handleErrorPage_responds (status : Int) (msg : GoString) :
    Responds (handleErrorPage ext out status msg) := by
  refine Keeps.bind (writeHeader_responds _) fun _ => Keeps.bind keeps_get fun c => ?_
  refine Keeps.ite (keeps_pure _) ?_
  cases c.routingConfig.errorPage with
  | none => exact Keeps.bind (writeBytes_responds _) fun _ => throwSome_responds _
  | some errPage => exact Keeps.bind (writeBytes_responds _) fun _ => throwSome_responds _

end

/-! ## §4. One response.

Relative to a context `c₀`: nothing was written yet, or one status and then only body
bytes.  Header changes are possible in both, and an error may end either. -/

/-- Nothing was written since `c₀`. -/
def Unwritten (c₀ c : RequestContext) : Prop :=
  c.settled = c₀.settled ∧ c.w.calls = c₀.w.calls
    ∧ c.w.writtenStatusCode = c₀.w.writtenStatusCode

/-- One status was written since `c₀`, and it is the recorded one. -/
def WrittenOnce (c₀ c : RequestContext) : Prop :=
  c.settled = c₀.settled ∧ ∃ (status : Int) (header : Header) (data : List GoString),
    (100 ≤ status ∧ status ≤ 999)
    ∧ c.w.calls = c₀.w.calls ++ .writeHeader status header :: data.map .write
    ∧ c.w.writtenStatusCode = status

/-- An error, not a panic, with at most one response written. -/
def Failed (c₀ : RequestContext) (e : Fail) (c : RequestContext) : Prop :=
  (∃ err, e = .err err) ∧ (Unwritten c₀ c ∨ WrittenOnce c₀ c)

/-- How a handler that answers by itself ends. -/
abbrev Answered (c₀ : RequestContext) : Except Fail Unit × RequestContext → Prop :=
  Ends (fun _ => WrittenOnce c₀) (Failed c₀)

/-- Changes headers at most. -/
abbrev Prepares {α : Type} (m : Serve α) : Prop :=
  ∀ c₀, Triple (Unwritten c₀) m (fun _ => Unwritten c₀) (Failed c₀)

/-- Writes one response, or fails. -/
abbrev Answers {α : Type} (m : Serve α) : Prop :=
  ∀ c₀, Triple (Unwritten c₀) m (fun _ => WrittenOnce c₀) (Failed c₀)

/-- Adds to the body of a response at most. -/
abbrev Adds {α : Type} (m : Serve α) : Prop :=
  ∀ c₀, Triple (WrittenOnce c₀) m (fun _ => WrittenOnce c₀) (Failed c₀)

theorem unwritten_refl (c : RequestContext) : Unwritten c c := ⟨rfl, rfl, rfl⟩

theorem Answered.contacts {c₀ : RequestContext} {res : Except Fail Unit × RequestContext}
    (h : Answered c₀ res) : res.2.upstreamContacts = c₀.upstreamContacts := by
  -- answered or failed, what is settled is that of `c₀`
  have hsettled : res.2.settled = c₀.settled := by
    rcases res with ⟨e | a, c⟩
    · rcases h with ⟨_, h | h⟩
      · exact h.1
      · exact h.1
    · exact h.1
  exact congrArg (fun t => t.2.2.2.2) hsettled

theorem modifyHeader_prepares (f : Header → Header) : Prepares (modifyHeader f) :=
  fun _ => triple_modify fun _ h => h

theorem modifyHeader_adds (f : Header → Header) : Adds (modifyHeader f) :=
  fun _ => triple_modify fun _ h => h

theorem throw_prepares {α : Type} (err : GoError) : Prepares (throw (.err err) : Serve α) :=
  fun _ => triple_throw fun _ h => ⟨⟨err, rfl⟩, Or.inl h⟩

theorem throw_answers {α : Type} (err : GoError) : Answers (throw (.err err) : Serve α) :=
  fun _ => triple_throw fun _ h => ⟨⟨err, rfl⟩, Or.inl h⟩

theorem throw_adds {α : Type} (err : GoError) : Adds (throw (.err err) : Serve α) :=
  fun _ => triple_throw fun _ h => ⟨⟨err, rfl⟩, Or.inr h⟩

theorem pure_adds {α : Type} (a : α) : Adds (pure a : Serve α) :=
  fun _ => triple_pure fun _ h => h

theorem liftError_prepares {α : Type} (x : Except GoError α) : Prepares (liftError x) := by
  cases x with
  | error err => exact throw_prepares err
  | ok a => exact fun _ => triple_pure fun _ h => h

theorem throwSome_adds (err? : Option GoError) :
    Adds (match err? with | some err => throw (.err err) | none => pure () : Serve Unit) := by
  cases err? with
  | none => exact pure_adds _
  | some err => exact throw_adds err

/-- A code of three digits does not panic. -/
theorem writeHeader_run {statusCode : Int} (h : 100 ≤ statusCode ∧ statusCode ≤ 999)
    (c : RequestContext) :
    writeHeader statusCode c = (.ok (), { c with w := { c.w with
      writtenStatusCode := statusCode
      calls := c.w.calls ++ [.writeHeader statusCode c.w.header] } }) := by
  have hcode : ¬ (statusCode < 100 ∨ 999 < statusCode) := by omega
  simp only [writeHeader, modify_bind_run, if_neg hcode]
  rfl

/-- Writing a status is the response. -/
theorem writeHeader_answers {statusCode : Int} (h : 100 ≤ statusCode ∧ statusCode ≤ 999) :
    Answers (writeHeader statusCode) := by
  rintro c₀ c ⟨hsettled, hcalls, _⟩
  rw [writeHeader_run h]
  exact ⟨hsettled, statusCode, c.w.header, [], h, by rw [hcalls]; rfl, rfl⟩

theorem writeBytes_adds (data : GoString) : Adds (writeBytes data) := by
  refine fun c₀ => triple_modify ?_
  rintro c ⟨hsettled, status, header, written, hstatus, hcalls, hrecorded⟩
  refine ⟨hsettled, status, header, written ++ [data], hstatus, ?_, hrecorded⟩
  show c.w.calls ++ [.write data] = _
  rw [hcalls]
  simp

section

variable (ext : Ext) (out : Outcomes)

theorem handleErrorPage_answers {status : Int} (h : 100 ≤ status ∧ status ≤ 999)
    (msg : GoString) : Answers (handleErrorPage ext out status msg) := by
  refine fun c₀ => (writeHeader_answers h c₀).bind fun _ => triple_get_bind fun c => ?_
  refine Triple.ite (pure_adds _ c₀) ?_
  cases c.routingConfig.errorPage with
  | none => exact (writeBytes_adds _ c₀).bind fun _ => throwSome_adds _ c₀
  | some errPage => exact (writeBytes_adds _ c₀).bind fun _ => throwSome_adds _ c₀

theorem redirect_answers (target : GoString) {code : Int} (h : 100 ≤ code ∧ code ≤ 999) :
    Answers (redirect ext target code) := by
  refine fun c₀ => triple_get_bind fun c => (modifyHeader_prepares _ c₀).bind fun _ => ?_
  -- the body depends on the method only, so both branches end alike
  have hbody : ∀ b : Bool, Triple (Unwritten c₀) (do
      writeHeader code
      if b then writeBytes (ext.redirectBody target code)) (fun _ => WrittenOnce c₀)
      (Failed c₀) := fun b =>
    (writeHeader_answers h c₀).bind fun _ =>
      Triple.ite (writeBytes_adds _ c₀) (pure_adds _ c₀)
  exact Triple.ite ((modifyHeader_prepares _ c₀).bind fun _ => hbody _) (hbody _)

theorem setCookie_prepares (cookie : Cookie) : Prepares (setCookie ext cookie) :=
  fun c₀ => Triple.ite (triple_pure fun _ h => h) (modifyHeader_prepares _ c₀)

theorem setCookie_adds (cookie : Cookie) : Adds (setCookie ext cookie) :=
  fun c₀ => Triple.ite (pure_adds _ c₀) (modifyHeader_adds _ c₀)

end

/-! ## §5. Middlewares as gates. -/

/-- What a check of a middleware may read, and what the end of the chain needs:
the request, the client's address, the matched route and whether an upstream
request was prepared. -/
def RequestContext.view (c : RequestContext) :
    Request × Addr × Option RouteConfig × Bool :=
  (c.r, c.realIp, c.matchedRoute, c.upstreamRequest.isSome)

/-- The middleware passes a request on exactly where `p` holds of the request
and the client's address, and reaches no upstream by itself. -/
abbrev Checks (m : NextFunc → Serve Unit) (p : Request → Addr → Prop) : Prop :=
  Gate RequestContext.view RequestContext.upstreamContacts m (fun v => p v.1 v.2.1)

/-- Writing a response adds no contact. -/
theorem Responds.contacts {α : Type} {m : Serve α} (h : Responds m) (c : RequestContext) :
    (m c).2.upstreamContacts = c.upstreamContacts :=
  congrArg (fun t => t.2.2.2.2) (h c)

/-- What a middleware that passes a request on leaves alone; it may add headers and
cookies for the response. -/
def RequestContext.carried (c : RequestContext) :
    Request × ResponseWriter × GoString × AddrPort × Addr × Option RouteConfig
      × Option UpstreamRequest × RoutingConfig × List Contact :=
  (c.r, c.w, c.requestId, c.remoteIp, c.realIp, c.matchedRoute, c.upstreamRequest,
    c.routingConfig, c.upstreamContacts)

/-- The context a middleware passes on. -/
structure Onward (c c' : RequestContext) : Prop where
  carried : c'.carried = c.carried
  cookies : c.responseCookies <+: c'.responseCookies

theorem Onward.refl (c : RequestContext) : Onward c c := ⟨rfl, List.prefix_refl _⟩

theorem Onward.fields {c c' : RequestContext} (h : Onward c c') :
    c'.r = c.r ∧ c'.w = c.w ∧ c'.requestId = c.requestId ∧ c'.remoteIp = c.remoteIp
      ∧ c'.realIp = c.realIp ∧ c'.matchedRoute = c.matchedRoute
      ∧ c'.upstreamRequest = c.upstreamRequest ∧ c'.routingConfig = c.routingConfig
      ∧ c'.upstreamContacts = c.upstreamContacts := by
  have hcarried := h.carried
  unfold RequestContext.carried at hcarried
  simpa only [Prod.mk.injEq] using hcarried

/-- **What a filtering middleware does**: where its condition holds it calls the rest of the
chain on the context it carries on, elsewhere it answers by itself. -/
structure Screens (m : NextFunc → Serve Unit) (p : Request → Addr → Prop) : Prop where
  pass : ∀ next c, p c.r c.realIp → ∃ c', Onward c c' ∧ m next c = next c'
  deny : ∀ next c, ¬ p c.r c.realIp → Answered c (m next c)

theorem Screens.checks {m : NextFunc → Serve Unit} {p : Request → Addr → Prop}
    (h : Screens m p) : Checks m p where
  pass next c hc := by
    obtain ⟨c', hon, hrun⟩ := h.pass next c hc
    obtain ⟨hr, _, _, _, hrealIp, hroute, hreq, _, hcontacts⟩ := hon.fields
    refine ⟨c', ?_, hcontacts, hrun⟩
    unfold RequestContext.view
    rw [hr, hrealIp, hroute, hreq]
  deny next c hc := (h.deny next c hc).contacts

end SIngress.Proxy
