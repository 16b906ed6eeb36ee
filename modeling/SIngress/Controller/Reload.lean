/-
  SIngress.Controller.Reload — WHAT A FAILED RELOAD LEAVES BEHIND.

  `reconfigureControllerCommonConfig` runs its four updates one after the
  other.  Each of them computes before it stores; the call as a whole does not:
  an update that fails returns at once, and what the updates before it stored
  stays in the state, for the next build to publish.

    • `reload_atomic_iff`      — the calls that change nothing when they fail,
    • `reload_mixes_certificate` — a configuration whose certificate cannot be
                                 read, stored with the certificate of the one before.
-/
import SIngress.Controller.Common

namespace SIngress.Controller

open SIngress.Base SIngress.Lib SIngress.K8s SIngress.Platform SIngress.Config SIngress.Proxy
open SIngress.Modules

/-! ## §1. The call. -/

section

variable (ext : Ext) (env : ControllerEnvConf) (load : Outside → Except Fail ControllerConf)
  (answers : CommonStage → Outside)

/-- The updates in turn, each with the answers it gets: the state they leave, and the error of
the first that fails. -/
def runUpdates : List CommonStage → K8sState → K8sState × Except Fail Unit
  | [], state => (state, .ok ())
  | stage :: rest, state =>
      match stage.update ext env load (answers stage) state with
      -- nothing is taken back
      | .error err => (state, .error err)
      | .ok state' => runUpdates rest state'

/-- `reconfigureControllerCommonConfig`, without its request for a rebuild. -/
def reconfigureControllerCommonConfig (state : K8sState) : K8sState × Except Fail Unit :=
  runUpdates ext env load answers [.config, .defaultTls, .upstreamIp, .tcpProxy] state

/-- The four fields a reload writes are the same. -/
def SameCommon (state state' : K8sState) : Prop :=
  state'.config = state.config ∧ state'.defaultTlsSecret = state.defaultTlsSecret
    ∧ state'.ingressLoadBalancerStatus = state.ingressLoadBalancerStatus
    ∧ state'.tcpProxies = state.tcpProxies

/-- A call that returns an error changes none of them. -/
def ReloadAtomic (state : K8sState) : Prop :=
  ∀ err, (reconfigureControllerCommonConfig ext env load answers state).2 = .error err →
    SameCommon state (reconfigureControllerCommonConfig ext env load answers state).1

/-- Where a configuration is loaded and a later update cannot be made, the state held before
what the updates in between store: the configuration, if the default certificate cannot be
read; with it the certificate and the addresses, if a TCP proxy has no endpoint. -/
def ReloadKeeps (state : K8sState) : Prop :=
  ∀ conf, load (answers .config) = .ok conf →
    (∀ err, getDefaultTls ext env (answers .defaultTls).api conf = .error err →
      state.config = some conf)
    ∧ ∀ cert, getDefaultTls ext env (answers .defaultTls).api conf = .ok cert →
      (∃ tcp ∈ conf.tcpProxy, ∃ err, tcpProxyOf ext (answers .tcpProxy).api tcp = .error err) →
        state.config = some conf ∧ state.defaultTlsSecret = cert
          ∧ state.ingressLoadBalancerStatus
            = getUpstreamIpAddresses env (answers .upstreamIp).api conf

end

/-! ## §2. One update after the other. -/

section

variable {ext : Ext} {env : ControllerEnvConf} {load : Outside → Except Fail ControllerConf}
  {answers : CommonStage → Outside} {state state' : K8sState} {stage : CommonStage}
  {rest : List CommonStage} {conf : ControllerConf}

theorem runUpdates_ok (h : stage.update ext env load (answers stage) state = .ok state') :
    runUpdates ext env load answers (stage :: rest) state
      = runUpdates ext env load answers rest state' := by
  conv_lhs => unfold runUpdates
  rw [h]

theorem runUpdates_error {err : Fail}
    (h : stage.update ext env load (answers stage) state = .error err) :
    runUpdates ext env load answers (stage :: rest) state = (state, .error err) := by
  unfold runUpdates
  rw [h]

theorem wrapErr_error {α : Type} {context : GoString} {x : Except Fail α} {err : Fail}
    (h : x = .error err) : ∃ err', wrapErr context x = .error err' := by
  cases hw : wrapErr context x with
  | error err' => exact ⟨err', rfl⟩
  | ok a =>
      rw [wrapErr_eq_ok, h] at hw
      cases hw

theorem conf_of_config (hconf : state.config = some conf) : state.conf = .ok conf := by
  unfold K8sState.conf
  rw [hconf]

theorem update_config_ok (hload : load (answers .config) = .ok conf) :
    CommonStage.update ext env load (answers .config) state .config
      = .ok { state with config := some conf } :=
  wrapErr_eq_ok.mpr (bind_eq_ok.mpr ⟨conf, hload, rfl⟩)

theorem update_config_error {err : Fail} (hload : load (answers .config) = .error err) :
    ∃ err', CommonStage.update ext env load (answers .config) state .config = .error err' := by
  have hupdate : updateConfig (load (answers .config)) state = .error err := by
    unfold updateConfig
    rw [hload]
    rfl
  exact wrapErr_error hupdate

theorem update_defaultTls_ok (hconf : state.config = some conf) {cert : Option Certificate}
    (hcert : getDefaultTls ext env (answers .defaultTls).api conf = .ok cert) :
    CommonStage.update ext env load (answers .defaultTls) state .defaultTls
      = .ok { state with defaultTlsSecret := cert } :=
  wrapErr_eq_ok.mpr (bind_eq_ok.mpr ⟨conf, conf_of_config hconf, bind_eq_ok.mpr ⟨cert, hcert, rfl⟩⟩)

theorem update_defaultTls_error (hconf : state.config = some conf) {err : Fail}
    (hcert : getDefaultTls ext env (answers .defaultTls).api conf = .error err) :
    ∃ err', CommonStage.update ext env load (answers .defaultTls) state .defaultTls
      = .error err' := by
  refine @wrapErr_error _ _ _ err ?_
  rw [conf_of_config hconf]
  show (getDefaultTls ext env (answers .defaultTls).api conf >>= _) = _
  rw [hcert]
  rfl

theorem update_upstreamIp_ok (hconf : state.config = some conf) :
    CommonStage.update ext env load (answers .upstreamIp) state .upstreamIp
      = .ok { state with ingressLoadBalancerStatus :=
          getUpstreamIpAddresses env (answers .upstreamIp).api conf } :=
  wrapErr_eq_ok.mpr (bind_eq_ok.mpr ⟨conf, conf_of_config hconf, rfl⟩)

/-- The last update fails exactly if a TCP proxy has no endpoint. -/
theorem update_tcpProxy_error_iff (hconf : state.config = some conf) :
    (∃ err, CommonStage.update ext env load (answers .tcpProxy) state .tcpProxy = .error err)
      ↔ ∃ tcp ∈ conf.tcpProxy, ∃ err, tcpProxyOf ext (answers .tcpProxy).api tcp = .error err := by
  have hok : (∃ state', CommonStage.update ext env load (answers .tcpProxy) state .tcpProxy
      = .ok state') ↔ ∀ tcp ∈ conf.tcpProxy, ∃ p, tcpProxyOf ext (answers .tcpProxy).api tcp = .ok p := by
    rw [← mapM_ok_iff]
    constructor
    · rintro ⟨state', h⟩
      obtain ⟨conf', hconf', h⟩ := bind_eq_ok.mp (wrapErr_eq_ok.mp h)
      rw [conf_of_config hconf] at hconf'
      obtain rfl := Except.ok.inj hconf'
      obtain ⟨proxies, hproxies, _⟩ := bind_eq_ok.mp h
      exact ⟨proxies, hproxies⟩
    · rintro ⟨proxies, hproxies⟩
      exact ⟨_, wrapErr_eq_ok.mpr (bind_eq_ok.mpr ⟨conf, conf_of_config hconf,
        bind_eq_ok.mpr ⟨proxies, hproxies, rfl⟩⟩)⟩
  constructor
  · rintro ⟨err, herr⟩
    by_contra hall
    obtain ⟨state', hstate'⟩ := hok.mpr fun tcp htcp => by
      cases hp : tcpProxyOf ext (answers .tcpProxy).api tcp with
      | ok p => exact ⟨p, rfl⟩
      | error err => exact absurd ⟨tcp, htcp, err, hp⟩ hall
    rw [hstate'] at herr
    cases herr
  · rintro ⟨tcp, htcp, err, herr⟩
    cases hupdate : CommonStage.update ext env load (answers .tcpProxy) state .tcpProxy with
    | error err' => exact ⟨err', rfl⟩
    | ok state' =>
        obtain ⟨p, hp⟩ := hok.mp ⟨state', hupdate⟩ tcp htcp
        rw [herr] at hp
        cases hp

/-! ## §3. The three ways to fail. -/

/-- The state after the first three updates. -/
def afterThree (state : K8sState) (conf : ControllerConf) (cert : Option Certificate)
    (addresses : Option (List LoadBalancerIngress)) : K8sState :=
  { state with config := some conf, defaultTlsSecret := cert, ingressLoadBalancerStatus := addresses }

/-- Without a configuration nothing is stored. -/
theorem reload_unloaded {err : Fail} (hload : load (answers .config) = .error err) :
    ∃ err', reconfigureControllerCommonConfig ext env load answers state = (state, .error err') := by
  obtain ⟨err', herr⟩ : ∃ err', CommonStage.update ext env load (answers .config) state .config
      = .error err' := update_config_error hload
  exact ⟨err', runUpdates_error herr⟩

/-- Without the certificate the configuration is stored. -/
theorem reload_uncertified (hload : load (answers .config) = .ok conf) {err : Fail}
    (hcert : getDefaultTls ext env (answers .defaultTls).api conf = .error err) :
    ∃ err', reconfigureControllerCommonConfig ext env load answers state
      = ({ state with config := some conf }, .error err') := by
  unfold reconfigureControllerCommonConfig
  rw [runUpdates_ok (update_config_ok hload)]
  obtain ⟨err', herr⟩ : ∃ err', CommonStage.update ext env load (answers .defaultTls)
      { state with config := some conf } .defaultTls = .error err' :=
    update_defaultTls_error rfl hcert
  exact ⟨err', runUpdates_error herr⟩

/-- With both, the last update decides; what it needs is stored before it runs. -/
theorem reload_certified (hload : load (answers .config) = .ok conf) {cert : Option Certificate}
    (hcert : getDefaultTls ext env (answers .defaultTls).api conf = .ok cert) :
    reconfigureControllerCommonConfig ext env load answers state
      = runUpdates ext env load answers [.tcpProxy] (afterThree state conf cert
          (getUpstreamIpAddresses env (answers .upstreamIp).api conf)) := by
  have hconf : { state with config := some conf }.config = some conf := rfl
  have hconf' : { state with config := some conf, defaultTlsSecret := cert }.config = some conf := rfl
  unfold reconfigureControllerCommonConfig
  rw [runUpdates_ok (update_config_ok hload), runUpdates_ok (update_defaultTls_ok hconf hcert),
    runUpdates_ok (update_upstreamIp_ok hconf')]
  rfl

theorem reloadAtomic_of_unloaded {err : Fail} (hload : load (answers .config) = .error err) :
    ReloadAtomic ext env load answers state := by
  obtain ⟨err', hrun⟩ : ∃ err', reconfigureControllerCommonConfig ext env load answers state
      = (state, .error err') := reload_unloaded hload
  unfold ReloadAtomic
  rw [hrun]
  exact fun _ _ => ⟨rfl, rfl, rfl, rfl⟩

theorem reloadAtomic_uncertified_iff (hload : load (answers .config) = .ok conf) {err : Fail}
    (hcert : getDefaultTls ext env (answers .defaultTls).api conf = .error err) :
    ReloadAtomic ext env load answers state ↔ state.config = some conf := by
  obtain ⟨err', hrun⟩ : ∃ err', reconfigureControllerCommonConfig ext env load answers state
      = ({ state with config := some conf }, .error err') := reload_uncertified hload hcert
  unfold ReloadAtomic
  rw [hrun]
  constructor
  · intro h
    exact ((h err' rfl).1).symm
  · intro h _ _
    exact ⟨h.symm, rfl, rfl, rfl⟩

/-- With the certificate only the last update can fail. -/
theorem reloadAtomic_certified_iff (hload : load (answers .config) = .ok conf)
    {cert : Option Certificate}
    (hcert : getDefaultTls ext env (answers .defaultTls).api conf = .ok cert) :
    ReloadAtomic ext env load answers state ↔
      ((∃ tcp ∈ conf.tcpProxy, ∃ err, tcpProxyOf ext (answers .tcpProxy).api tcp = .error err) →
        state.config = some conf ∧ state.defaultTlsSecret = cert
          ∧ state.ingressLoadBalancerStatus
            = getUpstreamIpAddresses env (answers .upstreamIp).api conf) := by
  have hconf : (afterThree state conf cert
    (getUpstreamIpAddresses env (answers .upstreamIp).api conf)).config = some conf := rfl
  unfold ReloadAtomic
  rw [reload_certified hload hcert, ← @update_tcpProxy_error_iff ext env load answers _ conf hconf]
  constructor
  · rintro h ⟨err, herr⟩
    rw [runUpdates_error herr] at h
    obtain ⟨h₁, h₂, h₃, _⟩ := h err rfl
    exact ⟨h₁.symm, h₂.symm, h₃.symm⟩
  · intro h err herr
    cases hupdate : CommonStage.update ext env load (answers .tcpProxy) (afterThree state conf
        cert (getUpstreamIpAddresses env (answers .upstreamIp).api conf)) .tcpProxy with
    | ok state' =>
        rw [runUpdates_ok hupdate] at herr
        cases herr
    | error err' =>
        rw [runUpdates_error hupdate]
        obtain ⟨h₁, h₂, h₃⟩ := h ⟨err', hupdate⟩
        exact ⟨h₁.symm, h₂.symm, h₃.symm, rfl⟩

/-- **A failed reload changes nothing exactly if it had nothing new to store** before the
update that failed. -/
theorem reload_atomic_iff (ext : Ext) (env : ControllerEnvConf)
    (load : Outside → Except Fail ControllerConf) (answers : CommonStage → Outside)
    (state : K8sState) :
    ReloadAtomic ext env load answers state ↔ ReloadKeeps ext env load answers state := by
  unfold ReloadKeeps
  cases hload : load (answers .config) with
  | error err =>
      exact iff_of_true (reloadAtomic_of_unloaded hload) (fun conf h => by cases h)
  | ok conf =>
      simp only [Except.ok.injEq, forall_eq']
      cases hcert : getDefaultTls ext env (answers .defaultTls).api conf with
      | error err =>
          rw [reloadAtomic_uncertified_iff hload hcert]
          exact ⟨fun h => ⟨fun _ _ => h, fun cert hok => by cases hok⟩, fun h => h.1 err rfl⟩
      | ok cert =>
          rw [reloadAtomic_certified_iff hload hcert]
          refine ⟨fun h => ⟨fun err herr => (by cases herr), ?_⟩, fun h => h.2 cert rfl⟩
          intro cert' hcert' hfails
          rw [← Except.ok.inj hcert']
          exact h hfails

end

/-- A platform that decodes every file to a configuration with the default certificate
`missing`. -/
def Ext.missingCertificate : Ext :=
  { Ext.small with
    decodeController := fun _ => .ok { zeroControllerYaml with defaultTlsSecret := lit "missing" } }

/-- The state after a reload with another configuration and its certificate. -/
def certifiedState : K8sState :=
  { K8sState.new (lit "oidq.dev/s-ingress") with
    config := some (smallConf 4096)
    defaultTlsSecret := some ⟨lit "crt", lit "key"⟩ }

/-- The certificate of the new configuration cannot be read: the call fails, the new
configuration is in the state, and with it the certificate of the old one. -/
theorem reload_mixes_certificate : ∃ answers : CommonStage → Outside, ∃ conf err,
    getControllerConfig Ext.missingCertificate smallEnv (answers .config) = .ok conf
      ∧ reconfigureControllerCommonConfig Ext.missingCertificate smallEnv
          (getControllerConfig Ext.missingCertificate smallEnv) answers certifiedState
        = ({ certifiedState with config := some conf }, .error err)
      ∧ some conf ≠ certifiedState.config := by
  obtain ⟨order⟩ := (inferInstance : Nonempty (GoMap.RangeChoice GoString OidcClientYaml))
  let outside : Outside := ⟨Api.withFile (lit "tls"), fun _ => .error [], order⟩
  have hload := @getControllerConfig_plain Ext.missingCertificate smallEnv outside (lit "tls") _
    rfl rfl rfl
  obtain ⟨err, hrun⟩ := @reload_uncertified Ext.missingCertificate smallEnv
    (getControllerConfig Ext.missingCertificate smallEnv) (fun _ => outside) certifiedState _ hload _ rfl
  refine ⟨fun _ => outside, _, err, hload, hrun, ?_⟩
  intro hsame
  have htls := congrArg ControllerConf.defaultTlsSecret (Option.some.inj hsame)
  exact absurd htls (by decide)

end SIngress.Controller
