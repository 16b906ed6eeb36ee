/-
  SIngress.Controller.BackendPorts — WHICH PORT A BACKEND MEANS.

  A backend refers to a port of its service by a name or by a number.  Two
  functions resolve such references.  `getServiceAddrPort` searches by name and
  reports a name it does not find.  The loop of `addPath` searches by name and
  number at once: a reference by number has the empty name, which is the name
  of an unnamed port too, and a search that finds nothing leaves port 0:

    • `backendPort_eq_number_iff` — when a reference by number finds its port,
    • `portsFaithful_iff`         — when the route of `addPath` goes to the port
                                    the backend refers to.
-/
import SIngress.Controller.Common
import SIngress.Proxy.RouteOrder

namespace SIngress.Controller

open SIngress.Base SIngress.Lib SIngress.K8s SIngress.Platform SIngress.Config SIngress.Proxy
open SIngress.Modules

/-! ## §1. References and their meaning. -/

/-- A reference by name, or by number. -/
def ValidReference (port : ServiceBackendPort) : Prop :=
  (port.name ≠ [] ∧ port.number = 0)
    ∨ (port.name = [] ∧ 1 ≤ port.number ∧ port.number ≤ 65535)

/-- The API server admits ports from 1 to 65535. -/
def ValidPorts (ports : List ServicePort) : Prop := ∀ p ∈ ports, 1 ≤ p.port ∧ p.port ≤ 65535

/-- The port of the service a reference means. -/
def resolvePort (ports : List ServicePort) (port : ServiceBackendPort) : Option ServicePort :=
  if port.name ≠ [] then ports.find? (fun p => p.name == port.name)
  else ports.find? (fun p => p.port == port.number)

section

variable (ext : Ext) (api : Api) (conf : ControllerConf) (ingressConf : IngressConfiguration)
  (ingress : Ingress) (hostname : GoString) (path : HTTPIngressPath)
  (backend : IngressServiceBackend)

/-- The reference means this address and port. -/
def ResolvesTo (e : AddrPort) : Prop :=
  ∃ service ip p, api.getService ⟨ingress.namesp, backend.name⟩ = .ok service
    ∧ ext.parseAddr service.clusterIP = .ok ip
    ∧ resolvePort service.ports backend.port = some p ∧ e = addrPortFrom ip p.port

/-- `addPath` adds a route to this address and port. -/
def AddsRouteTo (e : AddrPort) : Prop :=
  ∃ out route, addPath ext api conf ingressConf ingress hostname path backend = .ok out
    ∧ out.hosts = ingressConf.hosts.insert hostname
        (((ingressConf.hosts.lookup hostname).getD ⟨[]⟩).addRoute route)
    ∧ route.endpoint = e

/-- The route goes to what the reference means, a reference that means nothing is an error,
and by name the two resolvers agree. -/
def PortsFaithful : Prop :=
  (∀ e, AddsRouteTo ext api conf ingressConf ingress hostname path backend e ↔
      ResolvesTo ext api ingress backend e)
    ∧ (∀ service, api.getService ⟨ingress.namesp, backend.name⟩ = .ok service →
        resolvePort service.ports backend.port = none →
          ∃ err, addPath ext api conf ingressConf ingress hostname path backend = .error err)
    ∧ (backend.port.name ≠ [] →
        ∀ e, AddsRouteTo ext api conf ingressConf ingress hostname path backend e ↔
          getServiceAddrPort ext api ⟨ingress.namesp, backend.name⟩ backend.port.name = .ok e)

/-- Nothing but the endpoint can stop `addPath`. -/
def Unobstructed : Prop :=
  (∃ result, getMiddlewares api ingress conf.modules ingressConf.usedSecrets = .ok result)
    ∧ (∃ pathType, mapPathType ext path.pathType = .ok pathType)
    ∧ ∃ httpProxyConf, getHttpProxyConfig ext ingress conf.ingressProxy = .ok httpProxyConf

/-- In a service that can be read, a port has the name; or one has the number, and no unnamed
port stands before it. -/
def PortFound : Prop :=
  ∀ service ip, api.getService ⟨ingress.namesp, backend.name⟩ = .ok service →
    ext.parseAddr service.clusterIP = .ok ip →
      (backend.port.name ≠ [] → ∃ p ∈ service.ports, p.name = backend.port.name)
      ∧ (backend.port.name = [] → ∃ before p after, service.ports = before ++ p :: after
          ∧ p.port = backend.port.number ∧ ∀ q ∈ before, q.name ≠ [])

end

/-! ## §2. The loop over the ports. -/

section

variable {ports : List ServicePort} {port : ServiceBackendPort}

/-- By name the loop finds what `getServiceAddrPort` finds, and port 0 otherwise. -/
theorem backendPort_of_name (hports : ValidPorts ports) (hname : port.name ≠ [])
    (hnumber : port.number = 0) :
    backendPort ports port = ((resolvePort ports port).map ServicePort.port).getD 0 := by
  have hfind : ports.find? (fun p => p.name == port.name || p.port == port.number)
      = ports.find? (fun p => p.name == port.name) := by
    refine find?_congr fun p hp => ?_
    -- no port has the number 0
    have hne : (p.port == port.number) = false := by
      have := (hports p hp).1
      rw [beq_eq_false_iff_ne]
      omega
    rw [hne, Bool.or_false]
  unfold backendPort resolvePort
  rw [hfind, if_pos hname]
  cases ports.find? (fun p => p.name == port.name) with
  | none => rfl
  | some p => rfl

/-- **By number the loop finds the port exactly if no unnamed port stands before it.** -/
theorem backendPort_eq_number_iff (hname : port.name = []) (hnumber : 1 ≤ port.number) :
    backendPort ports port = port.number ↔
      ∃ before p after, ports = before ++ p :: after
        ∧ p.port = port.number ∧ ∀ q ∈ before, q.name ≠ [] := by
  unfold backendPort
  rw [hname]
  constructor
  · intro h
    cases hfind : ports.find? (fun p => p.name == [] || p.port == port.number) with
    | none =>
        rw [hfind] at h
        dsimp only at h
        omega
    | some p =>
        rw [hfind] at h
        obtain ⟨_, before, after, hsplit, hbefore⟩ := List.find?_eq_some_iff_append.mp hfind
        refine ⟨before, p, after, hsplit, h, fun q hq hempty => ?_⟩
        have := hbefore q hq
        simp [hempty] at this
  · rintro ⟨before, p, after, rfl, hp, hbefore⟩
    rw [List.find?_append]
    cases hfind : before.find? (fun p => p.name == [] || p.port == port.number) with
    | none =>
        rw [List.find?_cons_of_pos (by simp [hp])]
        exact hp
    | some q =>
        -- a named port in front can only have matched by its number
        have hq := List.find?_some hfind
        have hnamed := hbefore q (List.mem_of_find?_eq_some hfind)
        simpa [hnamed] using hq

/-- The loop leaves a number that fits into a `uint16`. -/
theorem backendPort_range (hports : ValidPorts ports) :
    0 ≤ backendPort ports port ∧ backendPort ports port ≤ 65535 := by
  unfold backendPort
  cases hfind : ports.find? (fun p => p.name == port.name || p.port == port.number) with
  | none => exact ⟨le_refl _, by decide⟩
  | some p =>
      have := hports p (List.mem_of_find?_eq_some hfind)
      dsimp only
      omega

/-- Ports in range are not confused when they are cut. -/
theorem addrPortFrom_inj {ip : Addr} {m n : Int} (hm : 0 ≤ m ∧ m ≤ 65535) (hn : 0 ≤ n ∧ n ≤ 65535)
    (h : addrPortFrom ip m = addrPortFrom ip n) : m = n := by
  have hcut := congrArg (fun e => e.port.toNat) h
  simp only [addrPortFrom, BitVec.toNat_ofInt] at hcut
  omega

/-- A reference by name means the first port with the name. -/
theorem exists_resolvePort_name (hname : port.name ≠ []) :
    (∃ p, resolvePort ports port = some p) ↔ ∃ p ∈ ports, p.name = port.name := by
  unfold resolvePort
  rw [if_pos hname, ← Option.isSome_iff_exists, List.find?_isSome]
  simp only [beq_iff_eq]

/-- A reference by number means the first port with the number. -/
theorem exists_resolvePort_number (hname : port.name = []) :
    (∃ p, resolvePort ports port = some p) ↔ ∃ p ∈ ports, p.port = port.number := by
  unfold resolvePort
  rw [if_neg (not_not.mpr hname), ← Option.isSome_iff_exists, List.find?_isSome]
  simp only [beq_iff_eq]

theorem port_of_resolvePort_number (hname : port.name = []) {p : ServicePort}
    (hp : resolvePort ports port = some p) : p.port = port.number := by
  unfold resolvePort at hp
  rw [if_neg (not_not.mpr hname)] at hp
  simpa using List.find?_some hp

/-- **Where the port of the loop is the port the reference means.** -/
theorem resolvePort_endpoint_iff (hports : ValidPorts ports) (href : ValidReference port)
    (ip : Addr) :
    (∃ p, resolvePort ports port = some p
        ∧ addrPortFrom ip (backendPort ports port) = addrPortFrom ip p.port)
      ↔ (port.name ≠ [] → ∃ p ∈ ports, p.name = port.name)
        ∧ (port.name = [] → ∃ before p after, ports = before ++ p :: after
          ∧ p.port = port.number ∧ ∀ q ∈ before, q.name ≠ []) := by
  rcases href with ⟨hname, hnumber⟩ | ⟨hname, hlow, hhigh⟩
  · -- by name: the two searches are the same
    have hport := backendPort_of_name hports hname hnumber
    rw [← exists_resolvePort_name hname]
    constructor
    · rintro ⟨p, hp, _⟩
      exact ⟨fun _ => ⟨p, hp⟩, fun h => absurd h hname⟩
    · intro h
      obtain ⟨p, hp⟩ := h.1 hname
      rw [hp] at hport
      exact ⟨p, hp, by rw [hport]; rfl⟩
  · -- by number: the port that is meant has the number
    rw [← backendPort_eq_number_iff hname hlow]
    constructor
    · rintro ⟨p, hp, heq⟩
      rw [port_of_resolvePort_number hname hp] at heq
      exact ⟨fun h => absurd hname h, fun _ =>
        addrPortFrom_inj (backendPort_range hports) ⟨by omega, hhigh⟩ heq⟩
    · intro h
      have hport := h.2 hname
      obtain ⟨before, q, after, hsplit, hq, _⟩ := (backendPort_eq_number_iff hname hlow).mp hport
      have hmem : q ∈ ports := by
        rw [hsplit]
        simp
      obtain ⟨p, hp⟩ := (exists_resolvePort_number hname).mpr ⟨q, hmem, hq⟩
      exact ⟨p, hp, by rw [hport, port_of_resolvePort_number hname hp]⟩

end

/-! ## §3. Routes. -/

/-- A host tells which route was added last. -/
theorem addRoute_injective {hc : HostConfig} {r r' : RouteConfig}
    (h : hc.addRoute r = hc.addRoute r') : r = r' := by
  have hperm : (r :: hc.routes).Perm (r' :: hc.routes) := by
    have hleft := rankedInsert_perm RouteConfig.rank r hc.routes
    have hright := rankedInsert_perm RouteConfig.rank r' hc.routes
    rw [← addRoute_routes] at hleft hright
    rw [h] at hleft
    exact hleft.symm.trans hright
  exact List.singleton_perm_singleton.mp ((List.perm_append_right_iff hc.routes).mp hperm)

section

variable {ext : Ext} {api : Api} {conf : ControllerConf} {ingressConf : IngressConfiguration}
  {ingress : Ingress} {hostname : GoString} {path : HTTPIngressPath}
  {backend : IngressServiceBackend}

/-- The other resolver, by what it reads. -/
theorem getServiceAddrPort_eq_ok_iff {serviceName : NamespacedName} {portName : GoString}
    {e : AddrPort} :
    getServiceAddrPort ext api serviceName portName = .ok e ↔
      ∃ service ip p, api.getService serviceName = .ok service
        ∧ ext.parseAddr service.clusterIP = .ok ip
        ∧ service.ports.find? (fun p => p.name == portName) = some p
        ∧ e = addrPortFrom ip p.port := by
  constructor
  · intro h
    obtain ⟨service, hservice, h⟩ := bind_eq_ok.mp h
    obtain ⟨ip, hip, h⟩ := bind_eq_ok.mp h
    refine ⟨service, ip, ?_⟩
    cases hfind : service.ports.find? (fun p => p.name == portName) with
    | none =>
        rw [hfind] at h
        cases h
    | some p =>
        rw [hfind] at h
        exact ⟨p, errorf_eq_ok.mp hservice, errorf_eq_ok.mp hip, rfl, (Except.ok.inj h).symm⟩
  · rintro ⟨service, ip, p, hservice, hip, hfind, rfl⟩
    refine bind_eq_ok.mpr ⟨service, errorf_eq_ok.mpr hservice,
      bind_eq_ok.mpr ⟨ip, errorf_eq_ok.mpr hip, ?_⟩⟩
    rw [hfind]
    rfl

/-- By name, the meaning of a reference is what `getServiceAddrPort` returns. -/
theorem resolvesTo_iff_getServiceAddrPort (hname : backend.port.name ≠ []) {e : AddrPort} :
    ResolvesTo ext api ingress backend e ↔
      getServiceAddrPort ext api ⟨ingress.namesp, backend.name⟩ backend.port.name = .ok e := by
  rw [getServiceAddrPort_eq_ok_iff]
  unfold ResolvesTo resolvePort
  simp only [if_pos hname]

/-- What `addPath` adds a route to. -/
theorem addsRouteTo_iff (hrest : Unobstructed ext api conf ingressConf ingress path)
    {e : AddrPort} :
    AddsRouteTo ext api conf ingressConf ingress hostname path backend e ↔
      backendEndpoint ext api ingress hostname backend = .ok e := by
  constructor
  · rintro ⟨out, route, hout, hhosts, rfl⟩
    obtain ⟨middlewares, usedSecrets, endpoint, pathType, httpProxyConf, _, hendpoint, _, _, rfl⟩ :=
      addPath_eq_ok.mp hout
    -- the host written last tells the route
    have hlook := congrArg (Finmap.lookup hostname) hhosts
    dsimp only at hlook
    rw [Finmap.lookup_insert, Finmap.lookup_insert] at hlook
    rw [← addRoute_injective (Option.some.inj hlook)]
    exact hendpoint
  · intro hendpoint
    obtain ⟨⟨result, hresult⟩, ⟨pathType, htype⟩, ⟨httpProxyConf, hsize⟩⟩ := hrest
    exact ⟨_, _, addPath_eq_ok.mpr ⟨_, _, e, pathType, httpProxyConf, hresult, hendpoint, htype,
      hsize, rfl⟩, rfl, rfl⟩

theorem exists_addsRouteTo {out : IngressConfiguration}
    (hout : addPath ext api conf ingressConf ingress hostname path backend = .ok out) :
    ∃ e, AddsRouteTo ext api conf ingressConf ingress hostname path backend e := by
  obtain ⟨_, _, endpoint, _, _, _, _, _, _, hconf⟩ := addPath_eq_ok.mp hout
  exact ⟨endpoint, out, _, hout, by rw [hconf], rfl⟩

/-- Where every route goes to what its reference means, the rest of `PortsFaithful` follows. -/
theorem portsFaithful_of_resolves
    (h : ∀ e, AddsRouteTo ext api conf ingressConf ingress hostname path backend e ↔
      ResolvesTo ext api ingress backend e) :
    PortsFaithful ext api conf ingressConf ingress hostname path backend := by
  refine ⟨h, ?_, fun hname e => (h e).trans (resolvesTo_iff_getServiceAddrPort hname)⟩
  intro service hservice hnone
  cases hout : addPath ext api conf ingressConf ingress hostname path backend with
  | error err => exact ⟨err, rfl⟩
  | ok out =>
      obtain ⟨e, he⟩ := exists_addsRouteTo hout
      obtain ⟨service', ip, p, hservice', _, hp, _⟩ := (h e).mp he
      rw [hservice] at hservice'
      rw [← Except.ok.inj hservice', hnone] at hp
      cases hp

/-- **When a backend gets the port it refers to.** -/
theorem portsFaithful_iff (hrest : Unobstructed ext api conf ingressConf ingress path)
    (hports : ∀ service, api.getService ⟨ingress.namesp, backend.name⟩ = .ok service →
      ValidPorts service.ports)
    (href : ValidReference backend.port) :
    PortsFaithful ext api conf ingressConf ingress hostname path backend ↔
      PortFound ext api ingress backend := by
  constructor
  · intro h service ip hservice hip
    rw [← resolvePort_endpoint_iff (hports service hservice) href ip]
    -- the route that is added must be the one that is meant
    have hadds : AddsRouteTo ext api conf ingressConf ingress hostname path backend
        (addrPortFrom ip (backendPort service.ports backend.port)) :=
      (addsRouteTo_iff hrest).mpr
        (backendEndpoint_eq_ok.mpr ⟨service, ip, hservice, hip, rfl⟩)
    obtain ⟨service', ip', p, hservice', hip', hp, heq⟩ := (h.1 _).mp hadds
    rw [hservice] at hservice'
    obtain rfl := Except.ok.inj hservice'
    rw [hip] at hip'
    obtain rfl := Except.ok.inj hip'
    exact ⟨p, hp, heq⟩
  · intro h
    refine portsFaithful_of_resolves fun e => ?_
    rw [addsRouteTo_iff hrest, backendEndpoint_eq_ok]
    have hfound := fun service ip hservice hip =>
      (resolvePort_endpoint_iff (hports service hservice) href ip).mpr (h service ip hservice hip)
    constructor
    · rintro ⟨service, ip, hservice, hip, rfl⟩
      obtain ⟨p, hp, heq⟩ := hfound service ip hservice hip
      exact ⟨service, ip, p, hservice, hip, hp, heq⟩
    · rintro ⟨service, ip, p, hservice, hip, hp, rfl⟩
      obtain ⟨p', hp', heq⟩ := hfound service ip hservice hip
      rw [hp] at hp'
      rw [Option.some.inj hp']
      exact ⟨service, ip, hservice, hip, heq.symm⟩

end

/-! ## §4. Services with unnamed ports. -/

/-- The service of every name has the ports. -/
def Api.withPorts (ports : List ServicePort) : Api :=
  { Api.small with getService := fun _ => .ok ⟨lit "10.0.0.1", ports, []⟩ }

/-- A configuration without modules. -/
def plainConf : ControllerConf := ⟨none, false, [], [], ⟨[], []⟩, ⟨4096⟩, [], ∅, []⟩

def portPath (port : ServiceBackendPort) : HTTPIngressPath :=
  ⟨lit "/", some .exact, some ⟨lit "svc", port⟩⟩

def portIngress : Ingress := Ingress.small (lit "a") ∅ [] []

/-- A named port in front of an unnamed one, and a backend that refers to the unnamed one by its
number. -/
theorem portsFaithful_http :
    PortsFaithful Ext.small (Api.withPorts [⟨lit "http", 80⟩, ⟨[], 8080⟩]) plainConf .empty
      portIngress (lit "a.org") (portPath ⟨[], 8080⟩) ⟨lit "svc", ⟨[], 8080⟩⟩ := by
  refine (portsFaithful_iff ⟨⟨_, rfl⟩, ⟨_, rfl⟩, ⟨_, rfl⟩⟩ ?_
    (Or.inr ⟨rfl, by decide, by decide⟩)).mpr ?_
  · intro service hservice
    cases hservice
    show ∀ p ∈ [(⟨lit "http", 80⟩ : ServicePort), ⟨[], 8080⟩], 1 ≤ p.port ∧ p.port ≤ 65535
    decide
  · intro service ip hservice _
    cases hservice
    refine ⟨fun h => absurd rfl h, fun _ => ⟨[⟨lit "http", 80⟩], ⟨[], 8080⟩, [], rfl, rfl, ?_⟩⟩
    intro q hq
    rw [List.mem_singleton.mp hq]
    decide

/-- With one unnamed port 80 a backend that refers to 8080 is routed to 80, and one that refers
to a name is routed to port 0, which the other resolver refuses. -/
theorem addPath_unnamed_port :
    (resolvePort [⟨[], 80⟩] ⟨[], 8080⟩ = none
        ∧ AddsRouteTo Ext.small (Api.withPorts [⟨[], 80⟩]) plainConf .empty portIngress
          (lit "a.org") (portPath ⟨[], 8080⟩) ⟨lit "svc", ⟨[], 8080⟩⟩ ⟨.v4 0x0A000001, 80⟩)
      ∧ (∃ err, getServiceAddrPort Ext.small (Api.withPorts [⟨[], 80⟩]) ⟨lit "ns", lit "svc"⟩
          (lit "web") = .error err)
      ∧ AddsRouteTo Ext.small (Api.withPorts [⟨[], 80⟩]) plainConf .empty portIngress
          (lit "a.org") (portPath ⟨lit "web", 0⟩) ⟨lit "svc", ⟨lit "web", 0⟩⟩
          ⟨.v4 0x0A000001, 0⟩ := by
  refine ⟨⟨by decide, ?_⟩, ⟨_, rfl⟩, ?_⟩
  · exact (addsRouteTo_iff ⟨⟨_, rfl⟩, ⟨_, rfl⟩, ⟨_, rfl⟩⟩).mpr rfl
  · exact (addsRouteTo_iff ⟨⟨_, rfl⟩, ⟨_, rfl⟩, ⟨_, rfl⟩⟩).mpr rfl

end SIngress.Controller
