/-
  SIngress.Modules.Security — HTTPS ENFORCEMENT AND DENIED ROUTES
  (`modules/security`).

  Per module: the annotation it reads, its hooks, and what its closures do to
  a request.  Each closure is a gate for one condition on the request.
-/
import SIngress.Config.Conf
import SIngress.Proxy.Context

namespace SIngress.Modules.Security

open SIngress.Base SIngress.Lib SIngress.K8s SIngress.Platform SIngress.Config SIngress.Proxy

/-! ## §1. `https.go`. -/

def enforceHttpsAnnotation : GoString := lit "s-ingress.oidq.dev/enforce-https"

/-- `enforceHttpsModule`. -/
def enforceHttpsModule (defaultEnforceHttps : Bool) : ModuleInstance where
  typeName := lit "*security.enforceHttpsModule"
  requestMiddleware := .ok (if defaultEnforceHttps then some .enforceHttpsRequest else none)
  ingressMiddleware := fun ingress =>
    -- the annotation can only add the redirect to the default, not take it away
    let doRedirect :=
      defaultEnforceHttps || ingress.annotationValue enforceHttpsAnnotation == lit "true"
    pure (if doRedirect then some .enforceHttpsIngress else none)

/-- `ModuleEnforceHttps`. -/
def moduleEnforceHttps (ext : Ext) : ModuleCreator := fun _ conf => do
  let defaultEnforceHttps ← Reading.lift (wrapErr (lit "error decoding module config: ")
    (conf.getModuleConf (lit "security") ext.decodeSecurity false))
  pure (enforceHttpsModule defaultEnforceHttps)

theorem enforceHttpsModule_run {d : Bool} {ingress : Ingress} {api : Api}
    {used used' : List NamespacedName} {m? : Option Middleware}
    (h : ((enforceHttpsModule d).ingressMiddleware ingress).run api used = .ok (m?, used')) :
    m? = if d || ingress.annotationValue enforceHttpsAnnotation == lit "true"
      then some .enforceHttpsIngress else none :=
  (Reading.run_pure_eq_ok.mp h).1.symm

section

variable (ext : Ext) (out : Outcomes)

/-- `redirectHttps`. -/
def redirectHttps : Serve Unit := do
  let c ← get
  let newUrl := { c.r.url with scheme := lit "https", host := c.r.host }
  redirect ext (ext.urlString newUrl) 301

/-- The closure of `enforceHttpsModule.RequestMiddleware`. -/
def enforceHttpsRequest (next : NextFunc) : Serve Unit := do
  let c ← get
  if c.r.tls then
    -- the request hook alone sets the HSTS header
    modify fun c => c.setResponseHeader (lit "Strict-Transport-Security")
      (lit "max-age=31536000; includeSubDomains")
    next
  else
    redirectHttps ext

/-- The closure of `enforceHttpsModule.IngressMiddleware`. -/
def enforceHttpsIngress (next : NextFunc) : Serve Unit := do
  let c ← get
  if c.r.tls then next else redirectHttps ext

theorem redirectHttps_answers : Answers (redirectHttps ext) :=
  fun c₀ => triple_get_bind fun _ => redirect_answers ext _ (by omega) c₀

theorem enforceHttpsRequest_screens :
    Screens (enforceHttpsRequest ext) (fun r _ => r.tls = true) where
  pass next c h := by
    refine ⟨c.setResponseHeader (lit "Strict-Transport-Security")
      (lit "max-age=31536000; includeSubDomains"), ⟨rfl, List.prefix_refl _⟩, ?_⟩
    simp only [enforceHttpsRequest, get_bind_run]
    rw [if_pos h]
    rfl
  deny next c h := by
    simp only [enforceHttpsRequest, get_bind_run]
    rw [if_neg h]
    exact redirectHttps_answers ext c c (unwritten_refl c)

theorem enforceHttpsIngress_screens :
    Screens (enforceHttpsIngress ext) (fun r _ => r.tls = true) where
  pass next c h := by
    refine ⟨c, Onward.refl c, ?_⟩
    simp only [enforceHttpsIngress, get_bind_run]
    rw [if_pos h]
  deny next c h := by
    simp only [enforceHttpsIngress, get_bind_run]
    rw [if_neg h]
    exact redirectHttps_answers ext c c (unwritten_refl c)

end

/-! ## §2. `deny_route.go`. -/

def denyRouteAnnotation : GoString := lit "s-ingress.oidq.dev/deny-route"

/-- `denyRouteModule`. -/
def denyRouteModule (ext : Ext) : ModuleInstance where
  typeName := lit "*security.denyRouteModule"
  requestMiddleware := .ok none
  ingressMiddleware := fun ingress =>
    let denyAnnotation := ingress.annotationValue denyRouteAnnotation
    if denyAnnotation.isEmpty then pure none
    else do
      Reading.lift (checkf (lit "error compiling deny route regexp: ")
        (ext.regexpCompile denyAnnotation))
      pure (some (.denyRoute denyAnnotation))

/-- `ModuleDenyRoute`. -/
def moduleDenyRoute (ext : Ext) : ModuleCreator := fun _ _ => pure (denyRouteModule ext)

theorem denyRouteModule_run {ext : Ext} {ingress : Ingress} {api : Api}
    {used used' : List NamespacedName} {m? : Option Middleware}
    (h : ((denyRouteModule ext).ingressMiddleware ingress).run api used = .ok (m?, used')) :
    m? = none ∨ m? = some (.denyRoute (ingress.annotationValue denyRouteAnnotation)) := by
  unfold denyRouteModule at h
  dsimp only at h
  split at h
  · exact Or.inl (Reading.run_pure_eq_ok.mp h).1.symm
  · obtain ⟨u, used₁, _, h⟩ := Reading.run_bind_eq_ok.mp h
    exact Or.inr (Reading.run_pure_eq_ok.mp h).1.symm

section

variable (ext : Ext) (out : Outcomes)

/-- The closure of `denyRouteModule.IngressMiddleware`. -/
def denyRoute (denyRegexp : GoString) (next : NextFunc) : Serve Unit := do
  let c ← get
  if ext.regexpMatch denyRegexp c.r.url.path then forbidden ext out (lit "denied") else next

theorem denyRoute_screens (denyRegexp : GoString) :
    Screens (denyRoute ext out denyRegexp)
      (fun r _ => ¬ ext.regexpMatch denyRegexp r.url.path = true) where
  pass next c h := by
    refine ⟨c, Onward.refl c, ?_⟩
    simp only [denyRoute, get_bind_run]
    rw [if_neg h]
  deny next c h := by
    simp only [denyRoute, get_bind_run]
    rw [if_pos (not_not.mp h)]
    exact handleErrorPage_answers ext out (by omega) _ c c (unwritten_refl c)

end

end SIngress.Modules.Security
