/-
  SIngress.Controller.System — THE CONTROLLER AND THE PROXY LOOP, RUNNING.

  Four parties share the state: the reconcile worker and the class handlers
  (their calls are single atomic steps, taken under the state's lock), the
  `Run` loop of the controller, and the `Start` loop of the proxy.  They
  communicate through three channels: two of capacity one for requests, whose
  sends are dropped when the channel is full, and one of capacity five for
  configurations.

  `Step` is one step of one party; a run is any interleaving.  A panic or an
  exit of the process ends the run: no step leads on from there.

  Two history variables serve the statements: `confOf` is the configuration
  under which an ingress was last reconciled with success, `reloaded` says
  whether the reload that wrote the current configuration ran to its end.
-/
import SIngress.Controller.Ingress
import SIngress.Lib.Chan
import SIngress.Lib.Transition

namespace SIngress.Controller

open SIngress.Base SIngress.Lib SIngress.K8s SIngress.Platform SIngress.Config SIngress.Proxy
open SIngress.Modules

/-! ## §1. The parties. -/

/-- Where the controller's main goroutine is. -/
inductive RunPc where
  /-- In `Init`, before the update `stage`. -/
  | init (stage : CommonStage)
  /-- At the `select` of `Run`. -/
  | select
  /-- In a reload, before the update `stage`. -/
  | common (stage : CommonStage)
  /-- It took a request and has not built yet. -/
  | build
  /-- It waits to send what it built; nil when building failed. -/
  | send (conf : Option RoutingConfig)
  | exited

/-- Where the proxy's `Start` is; `started` once the listeners run. -/
inductive ProxyPc where
  | idle (started : Bool)
  /-- It received a configuration and has not stored it yet. -/
  | received (started : Bool) (conf : Option RoutingConfig)
  /-- `startListeners` panicked on a nil configuration. -/
  | crashed

/-- The whole system. -/
structure Sys where
  state : K8sState
  requestReconfigureChan : Chan Unit 1
  requestReconcileCommonChan : Chan Unit 1
  run : RunPc
  configChan : Chan (Option RoutingConfig) 5
  proxyLoop : ProxyPc
  /-- `Proxy.routingConfig`. -/
  stored : Option RoutingConfig
  /-- History: the configuration of an ingress' last successful reconcile. -/
  confOf : NamespacedName → Option ControllerConf
  /-- History: the reload that wrote `state.config` ran to its end. -/
  reloaded : Bool

/-- The system at the start of `Init`. -/
def Sys.initial (env : ControllerEnvConf) : Sys where
  state := K8sState.new env.controllerName
  requestReconfigureChan := .empty
  requestReconcileCommonChan := .empty
  run := .init .config
  configChan := .empty
  proxyLoop := .idle false
  stored := none
  confOf := fun _ => none
  reloaded := false

/-- `RequestReconfigure`. -/
def Sys.requestReconfigure (s : Sys) : Sys :=
  { s with requestReconfigureChan := s.requestReconfigureChan.trySend () }

/-- `RequestReconfigureWhenRelevant`. -/
def Sys.requestReconfigureWhenRelevant (s : Sys) (relevant : Bool) : Sys :=
  if relevant then s.requestReconfigure else s

/-! ## §2. The steps of the worker and the handlers. -/

section

variable (ext : Ext) (env : ControllerEnvConf) (load : Outside → Except Fail ControllerConf)

/-- The history after a call of `ReconcileIngress`. -/
def Sys.recordConf (s : Sys) (api : Api) (name : NamespacedName) (ingress? : Option Ingress) :
    NamespacedName → Option ControllerConf :=
  match ingress?, (reconcile ext api s.state name ingress?).result with
  | some ingress, .ok () =>
      if isIngressRelevant s.state ingress then
        -- the configuration that was read for the call, which a reload may replace later
        fun n => if n = objectMetaToNamespaced ingress then s.state.config else s.confOf n
      else s.confOf
  | _, _ => s.confOf

/-- `ReconcileIngress`. -/
def Sys.reconcileIngress (s : Sys) (api : Api) (name : NamespacedName)
    (ingress? : Option Ingress) : Sys :=
  { s with
    state := (reconcile ext api s.state name ingress?).state
    confOf := s.recordConf ext api name ingress? }.requestReconfigureWhenRelevant
    (reconcile ext api s.state name ingress?).requested

/-- `RemoveIngressClass`. -/
def Sys.removeIngressClass (s : Sys) (name : GoString) : Sys :=
  { s with state := (s.state.removeIngressClass name).1 }.requestReconfigureWhenRelevant
    (s.state.removeIngressClass name).2

/-- `AddIngressClass`. -/
def Sys.addIngressClass (s : Sys) (cls : IngressClass) : Sys :=
  { s with state := s.state.addIngressClass cls }.requestReconfigure

/-- After the update `stage` succeeded with `state'`: the history, the next update,
or the request at the end of the reload. -/
def Sys.afterUpdate (s : Sys) (stage : CommonStage) (state' : K8sState)
    (pc : CommonStage → RunPc) : Sys :=
  match stage.next with
  -- what this update wrote is visible at once, before the others ran
  | some next => { s with state := state', run := pc next, reloaded := false }
  | none => { s with state := state', run := .select, reloaded := true }.requestReconfigure

/-! ## §3. The step relation. -/

/-- Who does what. -/
inductive Label where
  /-- The worker calls `ReconcileIngress`. -/
  | reconcile (api : Api) (name : NamespacedName) (ingress? : Option Ingress)
  | addClass (cls : IngressClass)
  | removeClass (name : GoString)
  /-- A watch handler calls `RequestReconcileCommon`. -/
  | requestCommon
  | runTakeCommon
  /-- One update of a reload, with the answers it gets. -/
  | runUpdate (outside : Outside)
  | runTakeToken
  /-- `getProxyConfig`, with the order in which it visits the entries. -/
  | runBuild (vs : List EntryVisit)
  | runSend
  | runExit
  | proxyRecv
  | proxyStore

/-- One step of the system. -/
inductive Step : Sys → Label → Sys → Prop
  | reconcile (s : Sys) (api : Api) (name : NamespacedName) (ingress? : Option Ingress) :
      Step s (.reconcile api name ingress?) (s.reconcileIngress ext api name ingress?)
  | addClass (s : Sys) (cls : IngressClass) : Step s (.addClass cls) (s.addIngressClass cls)
  | removeClass (s : Sys) (name : GoString) :
      Step s (.removeClass name) (s.removeIngressClass name)
  | requestCommon (s : Sys) :
      Step s .requestCommon
        { s with requestReconcileCommonChan := s.requestReconcileCommonChan.trySend () }
  | runTakeCommon {s : Sys} {chan : Chan Unit 1} :
      s.run = .select → s.requestReconcileCommonChan.recv = some ((), chan) →
      Step s .runTakeCommon
        { s with requestReconcileCommonChan := chan, run := .common .config }
  | runUpdate {s : Sys} {stage : CommonStage} {outside : Outside} {state' : K8sState} :
      s.run = .common stage → stage.update ext env load outside s.state = .ok state' →
      Step s (.runUpdate outside) (s.afterUpdate stage state' .common)
  /-- A failed update is logged, and `Run` goes back to its `select`. -/
  | runUpdateFails {s : Sys} {stage : CommonStage} {outside : Outside} {err : GoError} :
      -- the updates before it keep what they wrote
      s.run = .common stage → stage.update ext env load outside s.state = .error (.err err) →
      Step s (.runUpdate outside) { s with run := .select }
  | initUpdate {s : Sys} {stage : CommonStage} {outside : Outside} {state' : K8sState} :
      s.run = .init stage → stage.update ext env load outside s.state = .ok state' →
      Step s (.runUpdate outside) (s.afterUpdate stage state' .init)
  | runTakeToken {s : Sys} {chan : Chan Unit 1} :
      s.run = .select → s.requestReconfigureChan.recv = some ((), chan) →
      Step s .runTakeToken { s with requestReconfigureChan := chan, run := .build }
  | runBuild {s : Sys} {vs : List EntryVisit} {conf : RoutingConfig} :
      s.run = .build → Visits s.state.ingresses vs → getProxyConfig s.state vs = .ok conf →
      Step s (.runBuild vs) { s with run := .send (some conf) }
  /-- A failed build is logged, and nil is sent. -/
  | runBuildFails {s : Sys} {vs : List EntryVisit} {err : GoError} :
      s.run = .build → Visits s.state.ingresses vs →
      getProxyConfig s.state vs = .error (.err err) →
      Step s (.runBuild vs) { s with run := .send none }
  | runSend {s : Sys} {conf : Option RoutingConfig} {chan : Chan (Option RoutingConfig) 5} :
      s.run = .send conf → s.configChan.send conf = some chan →
      Step s .runSend { s with configChan := chan, run := .select }
  | runExit {s : Sys} : s.run = .select → Step s .runExit { s with run := .exited }
  | proxyRecv {s : Sys} {started : Bool} {conf : Option RoutingConfig}
      {chan : Chan (Option RoutingConfig) 5} :
      s.proxyLoop = .idle started → s.configChan.recv = some (conf, chan) →
      Step s .proxyRecv { s with configChan := chan, proxyLoop := .received started conf }
  /-- `Store`; after the first one the listeners start. -/
  | proxyStore {s : Sys} {started : Bool} {conf : Option RoutingConfig} :
      -- nil is stored like any configuration; only the first one must not be nil
      s.proxyLoop = .received started conf →
      Step s .proxyStore { s with
        stored := conf
        proxyLoop := if started || conf.isSome then .idle true else .crashed }

end

/-! ## §4. What a step changes. -/

/-- The pending request, as a proposition. -/
def Sys.Pending (s : Sys) : Prop := s.requestReconfigureChan.buf ≠ []

theorem pending_requestReconfigure (s : Sys) : s.requestReconfigure.Pending :=
  Chan.trySend_ne_nil (by decide) _ _

theorem Sys.Pending.whenRelevant {s : Sys} (h : s.Pending) (b : Bool) :
    (s.requestReconfigureWhenRelevant b).Pending := by
  unfold Sys.requestReconfigureWhenRelevant
  cases b with
  | false => exact h
  | true => exact pending_requestReconfigure s

section

variable (ext : Ext) (env : ControllerEnvConf) (load : Outside → Except Fail ControllerConf)

/-- What a step can do to the state and to the history, with the request it leaves. -/
inductive Change (s t : Sys) : Label → Prop
  /-- Neither the state nor the history changes. -/
  | same {l : Label} : t.state = s.state → t.confOf = s.confOf → t.reloaded = s.reloaded →
      Change s t l
  /-- The entry of a deleted ingress goes. -/
  | removed {api : Api} {n : NamespacedName} {e : IngressEntry} :
      s.state.ingresses.lookup n = some e →
      t.state = { s.state with ingresses := s.state.ingresses.erase n } →
      t.confOf = s.confOf → t.reloaded = s.reloaded →
      (isIngressRelevant s.state e.ingress = true → t.Pending) →
      Change s t (.reconcile api n none)
  /-- An irrelevant ingress is recorded without a configuration. -/
  | cleared {api : Api} {n : NamespacedName} {ingress : Ingress} :
      isIngressRelevant s.state ingress = false →
      t.state = s.state.updateIngress ⟨ingress, none⟩ →
      t.confOf = s.confOf → t.reloaded = s.reloaded →
      (∀ e, s.state.ingresses.lookup (objectMetaToNamespaced ingress) = some e →
        isIngressRelevant s.state e.ingress = true → t.Pending) →
      Change s t (.reconcile api n (some ingress))
  /-- A relevant ingress is configured. -/
  | configured {api : Api} {n : NamespacedName} {ingress : Ingress} {conf : ControllerConf}
      {cfg : IngressConfiguration} :
      isIngressRelevant s.state ingress = true → s.state.config = some conf →
      Controller.reconcileIngress ext api conf ingress = .ok cfg →
      t.state = s.state.updateIngress ⟨ingress, some cfg⟩ →
      t.confOf = (fun m => if m = objectMetaToNamespaced ingress then some conf
        else s.confOf m) →
      t.reloaded = s.reloaded → t.Pending →
      Change s t (.reconcile api n (some ingress))
  | classAdded {cls : IngressClass} : t.state = s.state.addIngressClass cls →
      t.confOf = s.confOf → t.reloaded = s.reloaded → t.Pending → Change s t (.addClass cls)
  | classRemoved {name : GoString} :
      t.state = { s.state with controllerClasses := s.state.controllerClasses.erase name } →
      t.confOf = s.confOf → t.reloaded = s.reloaded → t.Pending → Change s t (.removeClass name)
  /-- An update of a reload succeeded. -/
  | updated {stage : CommonStage} {outside : Outside} {state' : K8sState} :
      stage.update ext env load outside s.state = .ok state' → t.state = state' →
      t.confOf = s.confOf → t.reloaded = stage.next.isNone →
      (stage.next = none → t.Pending) → Change s t (.runUpdate outside)

variable {ext env load} {s t : Sys} {l : Label}

theorem recordConf_of_error {api : Api} {name : NamespacedName} {ingress : Ingress}
    {f : Fail} (h : (reconcile ext api s.state name (some ingress)).result = .error f) :
    s.recordConf ext api name (some ingress) = s.confOf := by
  unfold Sys.recordConf
  rw [h]

theorem recordConf_of_irrelevant {api : Api} {name : NamespacedName} {ingress : Ingress}
    (h : isIngressRelevant s.state ingress = false) :
    s.recordConf ext api name (some ingress) = s.confOf := by
  unfold Sys.recordConf
  cases (reconcile ext api s.state name (some ingress)).result with
  | error f => rfl
  | ok u => exact if_neg (by rw [h]; exact Bool.false_ne_true)

theorem recordConf_of_ok {api : Api} {name : NamespacedName} {ingress : Ingress}
    (h : isIngressRelevant s.state ingress = true)
    (hok : (reconcile ext api s.state name (some ingress)).result = .ok ()) :
    s.recordConf ext api name (some ingress)
      = fun n => if n = objectMetaToNamespaced ingress then s.state.config else s.confOf n := by
  unfold Sys.recordConf
  rw [hok]
  exact if_pos h

/-- The parts of the system that a request leaves alone. -/
theorem whenRelevant_fields (s : Sys) (b : Bool) :
    (s.requestReconfigureWhenRelevant b).state = s.state
      ∧ (s.requestReconfigureWhenRelevant b).confOf = s.confOf
      ∧ (s.requestReconfigureWhenRelevant b).reloaded = s.reloaded
      ∧ (s.requestReconfigureWhenRelevant b).run = s.run
      ∧ (b = true → (s.requestReconfigureWhenRelevant b).Pending) := by
  cases b with
  | false => exact ⟨rfl, rfl, rfl, rfl, fun h => by cases h⟩
  | true => exact ⟨rfl, rfl, rfl, rfl, fun _ => pending_requestReconfigure s⟩

variable (ext) in
theorem reconcileIngress_fields (s : Sys) (api : Api) (name : NamespacedName)
    (ingress? : Option Ingress) :
    (s.reconcileIngress ext api name ingress?).state
        = (reconcile ext api s.state name ingress?).state
      ∧ (s.reconcileIngress ext api name ingress?).confOf = s.recordConf ext api name ingress?
      ∧ (s.reconcileIngress ext api name ingress?).reloaded = s.reloaded
      ∧ ((reconcile ext api s.state name ingress?).requested = true →
        (s.reconcileIngress ext api name ingress?).Pending) := by
  obtain ⟨hstate, hconf, hrel, _, hpend⟩ := whenRelevant_fields
    { s with
      state := (reconcile ext api s.state name ingress?).state
      confOf := s.recordConf ext api name ingress? }
    (reconcile ext api s.state name ingress?).requested
  exact ⟨hstate, hconf, hrel, hpend⟩

theorem reconcile_change (s : Sys) (api : Api) (name : NamespacedName)
    (ingress? : Option Ingress) :
    Change ext env load s (s.reconcileIngress ext api name ingress?)
      (.reconcile api name ingress?) := by
  obtain ⟨hstate, hconf, hrel, hpend⟩ := reconcileIngress_fields ext s api name ingress?
  have houtcome := reconcile_outcome ext api s.state name ingress?
  -- the outcome speaks about the call, so the call is named before the cases
  generalize hr : reconcile ext api s.state name ingress? = r at houtcome hstate hpend
  cases houtcome with
  | absent _ => exact .same hstate hconf hrel
  | @removed e he => exact .removed he hstate hconf hrel hpend
  | @noted ingress hirr hnone =>
      refine .cleared hirr hstate (hconf.trans (recordConf_of_irrelevant hirr)) hrel ?_
      intro e he
      rw [hnone] at he
      cases he
  | @cleared ingress e hirr he =>
      refine .cleared hirr hstate (hconf.trans (recordConf_of_irrelevant hirr)) hrel ?_
      intro e' he'
      rw [he] at he'
      cases he'
      exact hpend
  | @failed ingress f _ _ =>
      exact .same hstate (hconf.trans (recordConf_of_error (by rw [hr]))) hrel
  | @configured ingress conf cfg hrelevant hcfg hok =>
      refine .configured hrelevant hcfg hok hstate ?_ hrel (hpend rfl)
      rw [← hcfg]
      exact hconf.trans (recordConf_of_ok hrelevant (by rw [hr]))

theorem afterUpdate_change {stage : CommonStage} {outside : Outside} {state' : K8sState}
    (hok : stage.update ext env load outside s.state = .ok state') (pc : CommonStage → RunPc) :
    Change ext env load s (s.afterUpdate stage state' pc) (.runUpdate outside) := by
  unfold Sys.afterUpdate
  cases hnext : stage.next with
  | none =>
      exact .updated hok rfl rfl (by rw [hnext]; rfl) fun _ => pending_requestReconfigure _
  | some next =>
      refine .updated hok rfl rfl (by rw [hnext]; rfl) fun h => ?_
      rw [hnext] at h
      cases h

/-- **What a step can do.** -/
theorem step_change (h : Step ext env load s l t) : Change ext env load s t l := by
  cases h with
  | reconcile api name ingress? => exact reconcile_change s api name ingress?
  | addClass cls => exact .classAdded rfl rfl rfl (pending_requestReconfigure _)
  -- a class that is not there leaves the state and asks for nothing
  | removeClass name =>
      unfold Sys.removeIngressClass K8sState.removeIngressClass
      cases s.state.controllerClasses.lookup name with
      | none => exact .same rfl rfl rfl
      | some cls => exact .classRemoved rfl rfl rfl (pending_requestReconfigure _)
  | requestCommon => exact .same rfl rfl rfl
  | runTakeCommon _ _ => exact .same rfl rfl rfl
  | runUpdate _ hok => exact afterUpdate_change hok _
  | runUpdateFails _ _ => exact .same rfl rfl rfl
  | initUpdate _ hok => exact afterUpdate_change hok _
  | runTakeToken _ _ => exact .same rfl rfl rfl
  | runBuild _ _ _ => exact .same rfl rfl rfl
  | runBuildFails _ _ _ => exact .same rfl rfl rfl
  | runSend _ _ => exact .same rfl rfl rfl
  | runExit _ => exact .same rfl rfl rfl
  | proxyRecv _ _ => exact .same rfl rfl rfl
  | proxyStore _ => exact .same rfl rfl rfl

end

end SIngress.Controller
