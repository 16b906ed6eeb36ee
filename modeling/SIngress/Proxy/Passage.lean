/-
  SIngress.Proxy.Passage — HOW FAR A REQUEST GETS.

  A chain of middlewares runs until the first one that does not pass the
  request on.  `Middleware.Continues` is the condition of one middleware, on
  the request and the client's address alone; a chain whose middlewares all
  continue behaves as its end, on a context that differs in the headers and
  cookies meant for later and in the lines set on the upstream request.
-/
import SIngress.Proxy.Serve

namespace SIngress.Proxy

open SIngress.Base SIngress.Lib SIngress.Platform SIngress.Modules SIngress.Modules.Headers

/-! ## §1. Lines on the upstream request. -/

/-- The header lines a middleware sets on the upstream request. -/
def Middleware.lines : Middleware → List (GoString × GoString)
  | .upstreamHeader headers => headerLines headers
  | _ => []

theorem setUpstreamLines_nil (c : RequestContext) : setUpstreamLines [] c = c := by
  unfold setUpstreamLines
  cases hreq : c.upstreamRequest with
  | none =>
      rw [Option.map_none, ← hreq]
  | some req =>
      show { c with upstreamRequest := some req } = c
      rw [← hreq]

theorem setUpstreamLines_append (as bs : List (GoString × GoString)) (c : RequestContext) :
    setUpstreamLines (as ++ bs) c = setUpstreamLines bs (setUpstreamLines as c) := by
  unfold setUpstreamLines setLines
  simp only [List.foldl_append, Option.map_map]
  rfl

/-- Carrying on twice is carrying on once, with the lines of both. -/
theorem Onward.trans {as bs : List (GoString × GoString)} {c c₁ c₂ : RequestContext}
    (h₁ : Onward (setUpstreamLines as c) c₁) (h₂ : Onward (setUpstreamLines bs c₁) c₂) :
    Onward (setUpstreamLines (as ++ bs) c) c₂ := by
  rw [setUpstreamLines_append]
  refine ⟨h₂.carried.trans ?_, h₁.cookies.trans h₂.cookies⟩
  -- field by field: only the upstream request differs, by the first lines
  obtain ⟨hr, hw, hid, hremote, hreal, hroute, hreq, hconf, hcontacts⟩ := h₁.fields
  unfold setUpstreamLines at hreq ⊢
  unfold RequestContext.carried
  simp only [hr, hw, hid, hremote, hreal, hroute, hreq, hconf, hcontacts]
  rfl

section

variable (ext : Ext) (out : Outcomes)

/-! ## §2. One middleware. -/

variable {ext out}

/-- A middleware that continues calls the rest of the chain, once. -/
theorem call_continues {m : Middleware} {c : RequestContext} (next : NextFunc)
    (h : m.Continues ext out c.r c.realIp)
    (hreq : c.upstreamRequest.isSome = true ∨ m.lines = []) :
    ∃ c', Onward (setUpstreamLines m.lines c) c' ∧ m.call ext out next c = next c' := by
  -- the two closures that are no screens are treated by hand
  by_cases hm : m.Answering
  · have hlines : m.lines = [] := by
      cases m with
      | upstreamHeader headers => exact hm.elim
      | _ => rfl
    rw [hlines, setUpstreamLines_nil]
    exact (call_screens ext out hm).pass next c h
  · cases m with
    | websocket =>
        refine ⟨c, ?_, websocket_of_plain ext out next h⟩
        show Onward (setUpstreamLines [] c) c
        rw [setUpstreamLines_nil]
        exact Onward.refl c
    | upstreamHeader headers =>
        refine ⟨setUpstreamLines (headerLines headers) c, Onward.refl _, ?_⟩
        have hcond : ¬ (c.upstreamRequest.isNone && !(headerLines headers).isEmpty) = true := by
          rcases hreq with hreq | hlines
          · obtain ⟨req, hreq⟩ := Option.isSome_iff_exists.mp hreq
            simp [hreq]
          · have hlines : headerLines headers = [] := hlines
            simp [hlines]
        simp only [Middleware.call, upstreamHeader, get_bind_run]
        rw [if_neg hcond]
        rfl
    | _ => exact absurd trivial hm

/-- Every other middleware that stops answers, unless it is the websocket one. -/
theorem call_answered {m : Middleware} {c : RequestContext} (next : NextFunc)
    (h : ¬ m.Continues ext out c.r c.realIp) (hm : m ≠ .websocket) :
    Answered c (m.call ext out next c) := by
  have hanswering : m.Answering := by
    cases m with
    | websocket => exact absurd rfl hm
    | upstreamHeader headers => exact absurd trivial h
    | _ => trivial
  exact (call_screens ext out hanswering).deny next c h

/-! ## §3. The chain. -/

theorem callMiddleware_split (as bs : List Middleware) (f : NextFunc) :
    callMiddleware ext out (as ++ bs) f
      = callMiddleware ext out as (callMiddleware ext out bs f) := by
  rw [callMiddleware_append, ← callMiddleware_eq_chain]

/-- **Every middleware continues: the end of the chain runs, once.** -/
theorem callMiddleware_continues {ms : List Middleware} {c : RequestContext} (f : NextFunc)
    (h : ∀ m ∈ ms, m.Continues ext out c.r c.realIp)
    (hreq : c.upstreamRequest.isSome = true ∨ ∀ m ∈ ms, m.lines = []) :
    ∃ c', Onward (setUpstreamLines (ms.flatMap Middleware.lines) c) c'
      ∧ callMiddleware ext out ms f c = f c' := by
  -- along the chain; the context changes, what the checks read does not
  induction ms generalizing c with
  | nil => exact ⟨c, by rw [List.flatMap_nil, setUpstreamLines_nil]; exact Onward.refl c, rfl⟩
  | cons m ms ih =>
      obtain ⟨c₁, hon₁, hrun₁⟩ := call_continues (callMiddleware ext out ms f)
        (h m List.mem_cons_self) (hreq.imp_right fun hlines => hlines m List.mem_cons_self)
      obtain ⟨hr, _, _, _, hrealIp, _, hreq₁, _, _⟩ := hon₁.fields
      have hsome : c₁.upstreamRequest.isSome = c.upstreamRequest.isSome := by
        rw [hreq₁]
        exact Option.isSome_map
      obtain ⟨c₂, hon₂, hrun₂⟩ := ih (c := c₁)
        (fun n hn => by rw [hr, hrealIp]; exact h n (List.mem_cons_of_mem _ hn))
        (by rw [hsome]; exact hreq.imp_right fun hlines n hn => hlines n (List.mem_cons_of_mem _ hn))
      rw [List.flatMap_cons]
      exact ⟨c₂, hon₁.trans hon₂, hrun₁.trans hrun₂⟩

/-- A chain that does not run to its end has a first middleware that stops it. -/
theorem exists_stop {ms : List Middleware} {r : Request} {realIp : Addr}
    (h : ¬ ∀ m ∈ ms, m.Continues ext out r realIp) :
    ∃ before m after, ms = before ++ m :: after
      ∧ (∀ b ∈ before, b.Continues ext out r realIp) ∧ ¬ m.Continues ext out r realIp := by
  induction ms with
  | nil => exact absurd (fun m hm => absurd hm List.not_mem_nil) h
  | cons m ms ih =>
      by_cases hm : m.Continues ext out r realIp
      · obtain ⟨before, n, after, rfl, hbefore, hn⟩ := ih fun hall =>
          h (List.forall_mem_cons.mpr ⟨hm, hall⟩)
        exact ⟨m :: before, n, after, rfl, List.forall_mem_cons.mpr ⟨hm, hbefore⟩, hn⟩
      · exact ⟨[], m, ms, rfl, fun b hb => absurd hb List.not_mem_nil, hm⟩

/-- **The first middleware that stops decides**, on a context that was carried to it. -/
theorem callMiddleware_stops {before : List Middleware} (m : Middleware) (after : List Middleware)
    {c : RequestContext} (f : NextFunc)
    (h : ∀ b ∈ before, b.Continues ext out c.r c.realIp)
    (hreq : c.upstreamRequest.isSome = true ∨ ∀ b ∈ before, b.lines = []) :
    ∃ c', Onward (setUpstreamLines (before.flatMap Middleware.lines) c) c'
      ∧ callMiddleware ext out (before ++ m :: after) f c
        = m.call ext out (callMiddleware ext out after f) c' := by
  rw [callMiddleware_split]
  exact callMiddleware_continues _ h hreq

end

end SIngress.Proxy
