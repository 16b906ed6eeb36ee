/-
  SIngress.Controller.Tracking — NO CHANGE IS MISSED.

  A change of an ingress enqueues its name; an event of a class makes the class
  handler enqueue the names of its ingresses.  `Tracked k n` says that `n` is on
  its way to the worker: queued, delayed, being processed, or still to be
  enqueued by the class handler.

    • `tracked_step`   — a tracked name stays tracked until the worker
                         reconciles it,
    • `reconcile_step` — when it does, the name is tracked on, or the reconcile
                         succeeded on the ingress that the API server has now.
-/
import SIngress.Controller.Cluster

namespace SIngress.Controller

open SIngress.Base SIngress.Lib SIngress.K8s SIngress.Platform SIngress.Config SIngress.Proxy
open SIngress.Modules

/-! ## §1. Which entries have a configuration. -/

theorem configured_updateIngress (state : K8sState) (e : IngressEntry) (n : NamespacedName) :
    (state.updateIngress e).configured n
      = if n = objectMetaToNamespaced e.ingress then e.configuration else state.configured n := by
  unfold K8sState.configured
  rw [lookup_updateIngress]
  split_ifs
  · rfl
  · rfl

theorem configured_erase (state : K8sState) (m n : NamespacedName) :
    { state with ingresses := state.ingresses.erase m }.configured n
      = if n = m then none else state.configured n := by
  unfold K8sState.configured
  rw [GoMap.lookup_erase_eq]
  split_ifs
  · rfl
  · rfl

theorem configured_congr {state state' : K8sState} (h : state'.ingresses = state.ingresses)
    (n : NamespacedName) : state'.configured n = state.configured n := by
  unfold K8sState.configured
  rw [h]

section

variable {ext : Ext} {env : ControllerEnvConf} {load : Outside → Except Fail ControllerConf}

/-- Internal steps of the system change neither entries nor classes, nor the controller's
name. -/
theorem internal_state {s t : Sys} {l : Label} (h : Step ext env load s l t)
    (hl : l.internal = true) :
    t.state.ingresses = s.state.ingresses
      ∧ t.state.controllerClasses = s.state.controllerClasses
      ∧ t.state.controllerName = s.state.controllerName := by
  cases step_change h with
  | same hstate _ _ => rw [hstate]; exact ⟨rfl, rfl, rfl⟩
  | updated hok hstate _ _ _ =>
      rw [hstate]
      exact (update_frame hok).1
  | removed _ _ _ _ _ => cases hl
  | cleared _ _ _ _ _ => cases hl
  | configured _ _ _ _ _ _ _ => cases hl
  | classAdded _ _ _ _ => cases hl
  | classRemoved _ _ _ _ => cases hl

/-- A reconcile leaves the classes alone, and the entries of other ingresses. -/
theorem reconcile_frame (api : Api) (state : K8sState) (n : NamespacedName)
    (ingress? : Option Ingress)
    (hnamed : ∀ i, ingress? = some i → objectMetaToNamespaced i = n) :
    (reconcile ext api state n ingress?).state.controllerClasses = state.controllerClasses
      ∧ ∀ m, m ≠ n →
        (reconcile ext api state n ingress?).state.configured m = state.configured m := by
  have houtcome := reconcile_outcome ext api state n ingress?
  generalize reconcile ext api state n ingress? = r at houtcome
  cases houtcome with
  | absent _ => exact ⟨rfl, fun _ _ => rfl⟩
  | removed _ =>
      refine ⟨rfl, fun m hm => ?_⟩
      rw [configured_erase, if_neg hm]
  | @noted i _ _ =>
      refine ⟨rfl, fun m hm => ?_⟩
      rw [configured_updateIngress, if_neg (by rw [hnamed i rfl]; exact hm)]
  | @cleared i _ _ _ =>
      refine ⟨rfl, fun m hm => ?_⟩
      rw [configured_updateIngress, if_neg (by rw [hnamed i rfl]; exact hm)]
  | failed _ _ => exact ⟨rfl, fun _ _ => rfl⟩
  | @configured i _ _ _ _ _ =>
      refine ⟨rfl, fun m hm => ?_⟩
      rw [configured_updateIngress, if_neg (by rw [hnamed i rfl]; exact hm)]

/-- After a reconcile of `n` with a configuration, either it failed, or the ingress it
saw is relevant. -/
theorem reconcile_configured (api : Api) (state : K8sState) (n : NamespacedName)
    (ingress? : Option Ingress)
    (hnamed : ∀ i, ingress? = some i → objectMetaToNamespaced i = n)
    (hcfg : (reconcile ext api state n ingress?).state.configured n ≠ none) :
    (∃ f, (reconcile ext api state n ingress?).result = .error f)
      ∨ ∃ i, ingress? = some i ∧ isIngressRelevant state i = true := by
  have houtcome := reconcile_outcome ext api state n ingress?
  generalize reconcile ext api state n ingress? = r at houtcome hcfg ⊢
  cases houtcome with
  | absent hnone =>
      refine absurd ?_ hcfg
      unfold K8sState.configured
      rw [hnone]
      rfl
  | removed _ => exact absurd (by rw [configured_erase, if_pos rfl]) hcfg
  | @noted i _ _ =>
      exact absurd (by rw [configured_updateIngress, if_pos (hnamed i rfl).symm]) hcfg
  | @cleared i _ _ _ =>
      exact absurd (by rw [configured_updateIngress, if_pos (hnamed i rfl).symm]) hcfg
  | failed _ _ => exact Or.inl ⟨_, rfl⟩
  | @configured i _ _ hrel _ _ => exact Or.inr ⟨i, rfl, hrel⟩

theorem state_removeIngressClass (s : Sys) (name : GoString) :
    (s.removeIngressClass name).state.ingresses = s.state.ingresses
      ∧ ∀ c, (s.removeIngressClass name).state.controllerClasses.lookup c
        = if c = name then none else s.state.controllerClasses.lookup c := by
  unfold Sys.removeIngressClass
  rw [(whenRelevant_fields _ _).1]
  show (s.state.removeIngressClass name).1.ingresses = _ ∧ _
  unfold K8sState.removeIngressClass
  cases hname : s.state.controllerClasses.lookup name with
  | none =>
      refine ⟨rfl, fun c => ?_⟩
      split_ifs with hc
      · rw [hc]
        exact hname
      · rfl
  | some cls => exact ⟨rfl, fun c => GoMap.lookup_erase_eq _ _ _⟩

theorem state_reconcileIngress (s : Sys) (api : Api) (n : NamespacedName)
    (ingress? : Option Ingress) :
    (s.reconcileIngress ext api n ingress?).state = (reconcile ext api s.state n ingress?).state :=
  (reconcileIngress_fields ext s api n ingress?).1

/-! ## §2. The worker sees the current ingress. -/

/-- What the worker fetched is current, or its name is queued again. -/
def Cluster.FetchedCurrent (k : Cluster) : Prop :=
  ∀ n ingress? named, k.worker = .fetched n ingress? named →
    ingress? = k.ingresses.lookup n ∨ n ∈ k.queue

theorem fetchedCurrent_step {k k' : Cluster} {l : ClusterLabel}
    (h : ClusterStep ext env load k l k') (hk : k.FetchedCurrent) : k'.FetchedCurrent := by
  intro n ingress? named hw
  cases h with
  | apply i =>
      by_cases hn : n = objectMetaToNamespaced i
      · exact Or.inr (mem_enqueue.mpr (Or.inl hn))
      · refine (hk n ingress? named hw).imp (fun heq => ?_) fun hq => mem_enqueue.mpr (Or.inr hq)
        rw [heq]
        exact (Finmap.lookup_insert_of_ne _ hn).symm
  | delete m =>
      by_cases hn : n = m
      · exact Or.inr (mem_enqueue.mpr (Or.inl hn))
      · refine (hk n ingress? named hw).imp (fun heq => ?_) fun hq => mem_enqueue.mpr (Or.inr hq)
        rw [heq]
        exact (Finmap.lookup_erase_ne hn).symm
  | add _ => exact (hk n ingress? named hw).imp_right fun hq => mem_enqueue.mpr (Or.inr hq)
  | watch m => exact (hk n ingress? named hw).imp_right fun hq => mem_enqueue.mpr (Or.inr hq)
  | requeue _ => exact (hk n ingress? named hw).imp_right fun hq => mem_enqueue.mpr (Or.inr hq)
  | take _ _ => cases hw
  | notLoaded _ _ => cases hw
  | getFails _ => cases hw
  | reconcile _ => cases hw
  | get _ _ =>
      cases hw
      exact Or.inl rfl
  | classCreated _ _ => exact hk n ingress? named hw
  | classDeleted _ _ => exact hk n ingress? named hw
  | list _ _ => exact hk n ingress? named hw
  | listFails _ => exact hk n ingress? named hw
  | handled _ => exact hk n ingress? named hw
  | sys _ _ => exact hk n ingress? named hw

/-! ## §3. Names on their way to the worker. -/

/-- The handler will enqueue `n`, an ingress of class `c`. -/
def Cluster.HandlerCovers (k : Cluster) (c : GoString) (n : NamespacedName) : Prop :=
  match k.handler with
  | .idle => False
  | .listing className => className = c
  | .adding names => n ∈ names

/-- The name is on its way to the worker. -/
def Cluster.Tracked (k : Cluster) (n : NamespacedName) : Prop :=
  k.Waiting n ∨ ∃ i c, k.ingresses.lookup n = some i ∧ i.ingressClassName = some c
    ∧ k.HandlerCovers c n

/-- The step is the worker's call of `ReconcileIngress` for `n`. -/
def Cluster.AtWork (k : Cluster) (l : ClusterLabel) (n : NamespacedName) : Prop :=
  ∃ api ingress? named, l = .reconcile api ∧ k.worker = .fetched n ingress? named

/-- A request waits on when the queue grows and nothing else changes. -/
theorem waiting_enqueue {k : Cluster} {n m : NamespacedName} {k' : Cluster}
    (hq : k'.queue = enqueue m k.queue) (hd : k'.delayed = k.delayed)
    (hw : k'.worker = k.worker) (h : k.Waiting n) : k'.Waiting n := by
  unfold Cluster.Waiting
  rw [hq, hd, hw]
  exact h.imp_left fun hmem => mem_enqueue.mpr (Or.inr hmem)

/-- A request the worker gives up comes back later. -/
theorem waiting_delay {k : Cluster} {n m : NamespacedName} {k' : Cluster}
    (hm : k.worker.request = some m) (hq : k'.queue = k.queue)
    (hd : k'.delayed = enqueue m k.delayed) (h : k.Waiting n) : k'.Waiting n := by
  unfold Cluster.Waiting
  rw [hq, hd]
  rcases h with h | h | h
  · exact Or.inl h
  · exact Or.inr (Or.inl (mem_enqueue.mpr (Or.inr h)))
  · rw [hm] at h
    exact Or.inr (Or.inl (mem_enqueue.mpr (Or.inl (Option.some.inj h).symm)))

/-- The head of the queue becomes the request of the worker. -/
theorem waiting_take {k : Cluster} {n m : NamespacedName} {rest : List NamespacedName}
    {k' : Cluster} (hidle : k.worker.request = none) (hqueue : k.queue = m :: rest)
    (hq : k'.queue = rest) (hd : k'.delayed = k.delayed) (hw : k'.worker.request = some m)
    (h : k.Waiting n) : k'.Waiting n := by
  unfold Cluster.Waiting
  rw [hq, hd, hw]
  rcases h with h | h | h
  · rw [hqueue] at h
    rcases List.mem_cons.mp h with rfl | hrest
    · exact Or.inr (Or.inr rfl)
    · exact Or.inl hrest
  · exact Or.inr (Or.inl h)
  · rw [hidle] at h
    cases h

/-- A delayed request goes back to the queue. -/
theorem waiting_requeue {k : Cluster} {n m : NamespacedName} {k' : Cluster}
    (hq : k'.queue = enqueue m k.queue) (hd : k'.delayed = k.delayed.erase m)
    (hw : k'.worker = k.worker) (h : k.Waiting n) : k'.Waiting n := by
  unfold Cluster.Waiting
  rw [hq, hd, hw]
  by_cases heq : n = m
  · exact Or.inl (mem_enqueue.mpr (Or.inl heq))
  · rcases h with h | h | h
    · exact Or.inl (mem_enqueue.mpr (Or.inr h))
    · exact Or.inr (Or.inl ((List.mem_erase_of_ne heq).mpr h))
    · exact Or.inr (Or.inr h)

/-- What the handler does not cover waits. -/
theorem Cluster.Tracked.waiting {k : Cluster} {n : NamespacedName} (h : k.Tracked n)
    (hcov : ∀ i c, k.ingresses.lookup n = some i → i.ingressClassName = some c →
      ¬ k.HandlerCovers c n) : k.Waiting n := by
  refine h.resolve_right ?_
  rintro ⟨i, c, hi, hc, hcovers⟩
  exact hcov i c hi hc hcovers

/-- An idle handler covers nothing. -/
theorem not_covers_of_idle {k : Cluster} {c : GoString} {n : NamespacedName}
    (hidle : k.handler = .idle) : ¬ k.HandlerCovers c n := by
  unfold Cluster.HandlerCovers
  rw [hidle]
  exact id

/-- While it lists it covers its class, and then the names it has listed. -/
theorem covers_listing_iff {k : Cluster} {c className : GoString} {n : NamespacedName}
    (hlisting : k.handler = .listing className) : k.HandlerCovers c n ↔ className = c := by
  unfold Cluster.HandlerCovers
  rw [hlisting]

theorem covers_adding_iff {k : Cluster} {c : GoString} {n : NamespacedName}
    {names : List NamespacedName} (hadding : k.handler = .adding names) :
    k.HandlerCovers c n ↔ n ∈ names := by
  unfold Cluster.HandlerCovers
  rw [hadding]

variable {k k' : Cluster} {l : ClusterLabel} {n : NamespacedName}

/-- A step leaves the ingress of the API server alone, or enqueues its name. -/
theorem ingresses_step (h : ClusterStep ext env load k l k') (n : NamespacedName) :
    k'.Waiting n ∨ k'.ingresses.lookup n = k.ingresses.lookup n := by
  cases h with
  | apply i =>
      by_cases hn : n = objectMetaToNamespaced i
      · exact Or.inl (Or.inl (mem_enqueue.mpr (Or.inl hn)))
      · exact Or.inr (Finmap.lookup_insert_of_ne _ hn)
  | delete m =>
      by_cases hn : n = m
      · exact Or.inl (Or.inl (mem_enqueue.mpr (Or.inl hn)))
      · exact Or.inr (Finmap.lookup_erase_ne hn)
  | _ => exact Or.inr rfl

/-- Only the worker's reconcile of `n` changes whether `n` is configured. -/
theorem configured_step (h : ClusterStep ext env load k l k') (hn : ¬ k.AtWork l n) :
    k'.sys.state.configured n = k.sys.state.configured n := by
  cases h with
  | classDeleted name _ => exact configured_congr (state_removeIngressClass k.sys name).1 n
  | @reconcile m ingress? named api hw =>
      have hne : n ≠ m := by
        rintro rfl
        exact hn ⟨api, ingress?, named, rfl, hw⟩
      show (k.sys.reconcileIngress ext api m ingress?).state.configured n = _
      rw [state_reconcileIngress]
      exact (reconcile_frame api k.sys.state m ingress? named).2 n hne
  | sys hl hs => exact configured_congr (internal_state hs hl).1 n
  | _ => rfl

/-- **A tracked name stays tracked**, until the worker reconciles it; only a failed list
call would lose it. -/
theorem tracked_step (h : ClusterStep ext env load k l k') (hn : ¬ k.AtWork l n)
    (hlist : l = .listFails → ∀ i c, k.ingresses.lookup n = some i →
      i.ingressClassName = some c → k.handler ≠ .listing c)
    (hk : k.Tracked n) : k'.Tracked n := by
  rcases ingresses_step h n with hwait | hsame
  · exact Or.inl hwait
  · unfold Cluster.Tracked
    rw [hsame]
    cases h with
    | apply j => exact hk.imp_left (waiting_enqueue rfl rfl rfl)
    | delete m => exact hk.imp_left (waiting_enqueue rfl rfl rfl)
    | watch m => exact hk.imp_left (waiting_enqueue rfl rfl rfl)
    | sys _ _ => exact hk
    | classCreated cls hidle => exact Or.inl (hk.waiting fun _ _ _ _ => not_covers_of_idle hidle)
    | classDeleted name hidle => exact Or.inl (hk.waiting fun _ _ _ _ => not_covers_of_idle hidle)
    | @list className items hlisting hitems =>
        refine hk.imp_right ?_
        rintro ⟨i, c, hi, hc, hcov⟩
        obtain rfl := (covers_listing_iff hlisting).mp hcov
        have hlisted : (n, i) ∈ items := hitems.mem_iff.mpr hi
        have hclass : decide (i.ingressClassName = some className) = true := decide_eq_true hc
        exact ⟨i, className, hi, hc,
          List.mem_map.mpr ⟨(n, i), List.mem_filter.mpr ⟨hlisted, hclass⟩, k.named n i hi⟩⟩
    | @listFails className hlisting =>
        -- the handler drops its list, but not the class of this ingress
        refine Or.inl (hk.waiting fun i c hi hc hcov => ?_)
        obtain rfl := (covers_listing_iff hlisting).mp hcov
        exact hlist rfl i className hi hc hlisting
    | @add m rest hadding =>
        rcases hk with hwait | ⟨i, c, hi, hc, hcov⟩
        · exact Or.inl (waiting_enqueue rfl rfl rfl hwait)
        · rcases List.mem_cons.mp ((covers_adding_iff hadding).mp hcov) with rfl | hrest
          · exact Or.inl (Or.inl (mem_enqueue.mpr (Or.inl rfl)))
          · exact Or.inr ⟨i, c, hi, hc, hrest⟩
    | handled hadding =>
        refine Or.inl (hk.waiting fun i c _ _ hcov => ?_)
        cases (covers_adding_iff hadding).mp hcov
    | @take m rest hidle hqueue =>
        have hnone : k.worker.request = none := by rw [hidle]; rfl
        exact hk.imp_left (waiting_take hnone hqueue rfl rfl rfl)
    | @notLoaded m hw _ =>
        have hm : k.worker.request = some m := by rw [hw]; rfl
        exact hk.imp_left (waiting_delay hm rfl rfl)
    | @getFails m hw =>
        have hm : k.worker.request = some m := by rw [hw]; rfl
        exact hk.imp_left (waiting_delay hm rfl rfl)
    | get hw _ =>
        refine hk.imp_left fun hwait => hwait.imp_right fun hrest => hrest.imp_right fun hr => ?_
        rw [hw] at hr
        exact hr
    | requeue _ => exact hk.imp_left (waiting_requeue rfl rfl rfl)
    | @reconcile m ingress? named api hw =>
        -- the worker is at another name
        refine hk.imp_left fun hwait => ?_
        rcases hwait with hq | hd | hr
        · exact Or.inl hq
        · refine Or.inr (Or.inl ?_)
          dsimp only
          cases (Controller.reconcile ext api k.sys.state m ingress?).result with
          | ok u => exact hd
          | error f => exact mem_enqueue.mpr (Or.inr hd)
        · rw [hw] at hr
          cases hr
          exact absurd ⟨api, ingress?, named, rfl, hw⟩ hn

/-- **The worker's reconcile of `n`**: the name waits on, or the call succeeded on the
ingress that the API server has now. -/
theorem reconcile_step {api : Api} {ingress? : Option Ingress}
    {named : ∀ i, ingress? = some i → objectMetaToNamespaced i = n}
    (h : ClusterStep ext env load k (.reconcile api) k')
    (hw : k.worker = .fetched n ingress? named) (hcurrent : k.FetchedCurrent) :
    k'.Waiting n ∨ (ingress? = k'.ingresses.lookup n
      ∧ (reconcile ext api k.sys.state n ingress?).result = .ok ()
      ∧ k'.sys.state = (reconcile ext api k.sys.state n ingress?).state) := by
  cases h with
  | @reconcile n' ingress' named' _ hw' =>
      rw [hw] at hw'
      cases hw'
      cases hresult : (reconcile ext api k.sys.state n ingress?).result with
      | error f => exact Or.inl (Or.inr (Or.inl (mem_enqueue.mpr (Or.inl rfl))))
      | ok u =>
          rcases hcurrent n ingress? named hw with hnow | hq
          · exact Or.inr ⟨hnow, rfl, state_reconcileIngress k.sys api n ingress?⟩
          · exact Or.inl (Or.inl hq)

end

end SIngress.Controller
