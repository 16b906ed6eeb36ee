/-
  SIngress.Controller.Cluster — THE CONTROLLER IN ITS CLUSTER.

  Around the system stand the ingresses of the API server as the client's cache
  has them, the work queue with its delayed requests, the one reconcile worker
  (`Reconcile`: take a name, `Get` the ingress, call `ReconcileIngress`) and the
  handler of IngressClass events (change the class table, list the ingresses,
  enqueue those of the class).  A change of an ingress enqueues its name; the
  other watch handlers may enqueue any name.

  Every step of the cluster is a step of the system or leaves it alone
  (`sys_step`), so what holds in every reachable system holds in every
  reachable cluster (`sys_reached_step`).
-/
import SIngress.Controller.Handlers

namespace SIngress.Controller

open SIngress.Base SIngress.Lib SIngress.K8s SIngress.Platform SIngress.Config SIngress.Proxy
open SIngress.Modules

/-! ## §1. The parties around the system. -/

/-- Where the worker is. -/
inductive WorkerPc where
  | idle
  /-- It took a request. -/
  | taken (n : NamespacedName)
  /-- It got the ingress, or learned that there is none. -/
  | fetched (n : NamespacedName) (ingress? : Option Ingress)
      (named : ∀ i, ingress? = some i → objectMetaToNamespaced i = n)

/-- The request the worker is at. -/
def WorkerPc.request : WorkerPc → Option NamespacedName
  | .idle => none
  | .taken n => some n
  | .fetched n _ _ => some n

/-- Where the handler of IngressClass events is. -/
inductive HandlerPc where
  | idle
  /-- It changed the class table and is about to list the ingresses. -/
  | listing (className : GoString)
  /-- It is about to enqueue these. -/
  | adding (names : List NamespacedName)

/-- The controller with what surrounds it. -/
structure Cluster where
  sys : Sys
  /-- The ingresses of the API server, each under its name. -/
  ingresses : GoMap NamespacedName Ingress
  queue : List NamespacedName
  /-- Requests that come back later. -/
  delayed : List NamespacedName
  worker : WorkerPc
  handler : HandlerPc
  named : ∀ n i, ingresses.lookup n = some i → objectMetaToNamespaced i = n

def Cluster.initial (env : ControllerEnvConf) : Cluster where
  sys := Sys.initial env
  ingresses := ∅
  queue := []
  delayed := []
  worker := .idle
  handler := .idle
  named := fun n i h => by
    rw [Finmap.lookup_empty] at h
    cases h

/-- `w.Add`: a name already queued is not queued again. -/
def enqueue (n : NamespacedName) (queue : List NamespacedName) : List NamespacedName :=
  if n ∈ queue then queue else queue ++ [n]

theorem mem_enqueue {n m : NamespacedName} {queue : List NamespacedName} :
    m ∈ enqueue n queue ↔ m = n ∨ m ∈ queue := by
  unfold enqueue
  split_ifs with h
  · refine ⟨Or.inr, fun hm => ?_⟩
    rcases hm with rfl | hm
    · exact h
    · exact hm
  · rw [List.mem_append, List.mem_singleton, Or.comm]

/-- An ingress is created or updated. -/
def Cluster.apply (k : Cluster) (i : Ingress) : Cluster :=
  { k with
    ingresses := k.ingresses.insert (objectMetaToNamespaced i) i
    queue := enqueue (objectMetaToNamespaced i) k.queue
    named := fun n j h => by
      rw [GoMap.lookup_insert_eq] at h
      split_ifs at h with hn
      · cases h
        exact hn.symm
      · exact k.named n j h }

/-- An ingress is deleted. -/
def Cluster.delete (k : Cluster) (n : NamespacedName) : Cluster :=
  { k with
    ingresses := k.ingresses.erase n
    queue := enqueue n k.queue
    named := fun m j h => by
      rw [GoMap.lookup_erase_eq] at h
      split_ifs at h
      exact k.named m j h }

/-- A request for `n` is queued, delayed or being processed. -/
def Cluster.Waiting (k : Cluster) (n : NamespacedName) : Prop :=
  n ∈ k.queue ∨ n ∈ k.delayed ∨ k.worker.request = some n

/-! ## §2. The steps. -/

inductive ClusterLabel where
  | apply (i : Ingress)
  | delete (n : NamespacedName)
  | classCreated (cls : IngressClass)
  | classDeleted (name : GoString)
  | list (items : List (NamespacedName × Ingress))
  | listFails
  | add
  | handled
  /-- Another watch handler enqueues a name. -/
  | watch (n : NamespacedName)
  | take
  | get
  | getFails
  | reconcile (api : Api)
  /-- A delayed request comes back. -/
  | requeue (n : NamespacedName)
  /-- A step of `Run` or of the proxy, or a request to reload. -/
  | sys (l : Label)

/-- The steps of the system that are not calls by the worker or the class handler. -/
def Label.internal : Label → Bool
  | .reconcile _ _ _ | .addClass _ | .removeClass _ => false
  | _ => true

section

variable (ext : Ext) (env : ControllerEnvConf) (load : Outside → Except Fail ControllerConf)

inductive ClusterStep : Cluster → ClusterLabel → Cluster → Prop
  | apply (k : Cluster) (i : Ingress) : ClusterStep k (.apply i) (k.apply i)
  | delete (k : Cluster) (n : NamespacedName) : ClusterStep k (.delete n) (k.delete n)
  | classCreated {k : Cluster} (cls : IngressClass) : k.handler = .idle →
      -- one class event at a time; the requeue reads the cache later
      ClusterStep k (.classCreated cls)
        { k with sys := k.sys.addIngressClass cls, handler := .listing cls.name }
  | classDeleted {k : Cluster} (name : GoString) : k.handler = .idle →
      ClusterStep k (.classDeleted name)
        { k with sys := k.sys.removeIngressClass name, handler := .listing name }
  | list {k : Cluster} {className : GoString} {items : List (NamespacedName × Ingress)} :
      k.handler = .listing className → GoMap.Ranges k.ingresses items →
      ClusterStep k (.list items)
        { k with handler := .adding (getIngressesToRequeueOnClassChange className items) }
  | listFails {k : Cluster} {className : GoString} : k.handler = .listing className →
      -- the error is logged: these ingresses are not enqueued
      ClusterStep k .listFails { k with handler := .idle }
  | add {k : Cluster} {n : NamespacedName} {rest : List NamespacedName} :
      k.handler = .adding (n :: rest) →
      ClusterStep k .add { k with queue := enqueue n k.queue, handler := .adding rest }
  | handled {k : Cluster} : k.handler = .adding [] →
      ClusterStep k .handled { k with handler := .idle }
  | watch (k : Cluster) (n : NamespacedName) :
      ClusterStep k (.watch n) { k with queue := enqueue n k.queue }
  | take {k : Cluster} {n : NamespacedName} {rest : List NamespacedName} :
      k.worker = .idle → k.queue = n :: rest →
      ClusterStep k .take { k with queue := rest, worker := .taken n }
  /-- Without a configuration, `Reconcile` asks to be called again. -/
  | notLoaded {k : Cluster} {n : NamespacedName} :
      k.worker = .taken n → k.sys.state.config = none →
      ClusterStep k .get { k with delayed := enqueue n k.delayed, worker := .idle }
  | get {k : Cluster} {n : NamespacedName} :
      -- the copy the worker goes on with; the API server may change after it
      k.worker = .taken n → k.sys.state.config.isSome = true →
      ClusterStep k .get
        { k with worker := .fetched n (k.ingresses.lookup n) (k.named n) }
  | getFails {k : Cluster} {n : NamespacedName} : k.worker = .taken n →
      ClusterStep k .getFails { k with delayed := enqueue n k.delayed, worker := .idle }
  /-- A failed reconcile is retried later. -/
  | reconcile {k : Cluster} {n : NamespacedName} {ingress? : Option Ingress}
      {named : ∀ i, ingress? = some i → objectMetaToNamespaced i = n} {api : Api} :
      k.worker = .fetched n ingress? named →
      ClusterStep k (.reconcile api)
        { k with
          sys := k.sys.reconcileIngress ext api n ingress?
          delayed :=
            match (Controller.reconcile ext api k.sys.state n ingress?).result with
            | .ok _ => k.delayed
            | .error _ => enqueue n k.delayed
          worker := .idle }
  | requeue {k : Cluster} {n : NamespacedName} : n ∈ k.delayed →
      ClusterStep k (.requeue n)
        { k with queue := enqueue n k.queue, delayed := k.delayed.erase n }
  | sys {k : Cluster} {l : Label} {s : Sys} : l.internal = true →
      Step ext env load k.sys l s → ClusterStep k (.sys l) { k with sys := s }

/-! ## §3. The system inside. -/

variable {ext env load} {k k' : Cluster} {l : ClusterLabel}

/-- Every step of the cluster is a step of the system, or leaves it alone. -/
theorem sys_step (h : ClusterStep ext env load k l k') :
    k'.sys = k.sys ∨ ∃ sl, Step ext env load k.sys sl k'.sys := by
  cases h with
  | classCreated cls _ => exact Or.inr ⟨_, .addClass _ cls⟩
  | classDeleted name _ => exact Or.inr ⟨_, .removeClass _ name⟩
  | @reconcile n ingress? _ api _ => exact Or.inr ⟨_, .reconcile _ api n ingress?⟩
  | sys _ hs => exact Or.inr ⟨_, hs⟩
  | _ => exact Or.inl rfl

/-- The system of a reachable cluster stays reachable. -/
theorem sys_reached_step (h : ClusterStep ext env load k l k') (hk : k.sys.Reached ext env load) :
    k'.sys.Reached ext env load := by
  rcases sys_step h with heq | ⟨sl, hs⟩
  · rw [heq]
    exact hk
  · exact hk.next hs

/-! ## §4. Runs the cluster can take, under a guard that lets them pass. -/

variable {G : Cluster → ClusterLabel → Prop}

/-- A run of the system with internal labels is a run of the cluster. -/
theorem Run.inCluster (hG : ∀ k l, G k (.sys l)) {ls : List Label} {s t : Sys}
    (h : Run (Step ext env load) s ls t) :
    (∀ a ∈ ls, a.internal = true) → ∀ k : Cluster, k.sys = s →
      Run (Guarded (ClusterStep ext env load) G) k (ls.map .sys) { k with sys := t } := by
  -- along the run of the system; the rest of the cluster stands still
  induction h with
  | nil s =>
      rintro _ k rfl
      exact .nil _
  | @cons s u t a as hstep _ ih =>
      rintro hls k rfl
      refine .cons ⟨.sys (hls a List.mem_cons_self) hstep, hG k a⟩ ?_
      exact ih (fun b hb => hls b (List.mem_cons_of_mem _ hb)) { k with sys := u } rfl

/-- The class handler enqueues the names one after the other. -/
theorem add_run (hadd : ∀ k, G k .add) (hhandled : ∀ k, G k .handled)
    (names : List NamespacedName) :
    ∀ k : Cluster, k.handler = .adding names → ∃ ls,
      Run (Guarded (ClusterStep ext env load) G) k ls
        { k with queue := names.foldl (fun q n => enqueue n q) k.queue, handler := .idle } := by
  induction names with
  | nil => exact fun k hk => ⟨_, .single ⟨.handled hk, hhandled k⟩⟩
  | cons n names ih =>
      intro k hk
      obtain ⟨ls, hls⟩ := ih { k with queue := enqueue n k.queue, handler := .adding names } rfl
      exact ⟨_, .cons ⟨.add hk, hadd k⟩ hls⟩

/-- The class handler lists the ingresses and enqueues those of the class. -/
theorem list_run (className : GoString) (items : List (NamespacedName × Ingress))
    (hlist : ∀ k items, G k (.list items)) (hadd : ∀ k, G k .add) (hhandled : ∀ k, G k .handled)
    (hk : k.handler = .listing className) (hitems : GoMap.Ranges k.ingresses items) :
    ∃ ls, Run (Guarded (ClusterStep ext env load) G) k ls
      { k with
        queue := (getIngressesToRequeueOnClassChange className items).foldl
          (fun q n => enqueue n q) k.queue
        handler := .idle } := by
  obtain ⟨ls, hls⟩ := add_run hadd hhandled (getIngressesToRequeueOnClassChange className items)
    { k with handler := .adding (getIngressesToRequeueOnClassChange className items) } rfl
  exact ⟨_, .cons ⟨.list hk hitems, hlist k items⟩ hls⟩

/-- The worker processes the first request of the queue. -/
theorem process_run {n : NamespacedName} {rest : List NamespacedName} {api : Api}
    (htake : ∀ k, G k .take) (hget : ∀ k, G k .get)
    (hreconcile : ∀ k', k'.sys = k.sys → k'.ingresses = k.ingresses →
      (∃ named, k'.worker = .fetched n (k.ingresses.lookup n) named) → G k' (.reconcile api))
    (hw : k.worker = .idle) (hq : k.queue = n :: rest) (hconf : k.sys.state.config.isSome = true)
    (hok : (reconcile ext api k.sys.state n (k.ingresses.lookup n)).result = .ok ()) :
    Run (Guarded (ClusterStep ext env load) G) k [.take, .get, .reconcile api]
      { k with
        sys := k.sys.reconcileIngress ext api n (k.ingresses.lookup n)
        queue := rest
        worker := .idle } := by
  refine .cons ⟨.take hw hq, htake k⟩ (.cons ⟨.get rfl hconf, hget _⟩ ?_)
  let k' : Cluster := { k with
    queue := rest, worker := .fetched n (k.ingresses.lookup n) (k.named n) }
  have hstep : ClusterStep ext env load k' (.reconcile api)
      { k' with
        sys := k.sys.reconcileIngress ext api n (k.ingresses.lookup n)
        delayed :=
          match (reconcile ext api k.sys.state n (k.ingresses.lookup n)).result with
          | .ok _ => k.delayed
          | .error _ => enqueue n k.delayed
        worker := .idle } := .reconcile rfl
  -- a successful call delays nothing
  rw [hok] at hstep
  exact .single ⟨hstep, hreconcile k' rfl rfl ⟨_, rfl⟩⟩

end

/-! ## §5. The small system in its cluster. -/

/-- The steps of the small cluster under a guard. -/
abbrev SmallStep (G : Cluster → ClusterLabel → Prop) : Cluster → ClusterLabel → Cluster → Prop :=
  Guarded (ClusterStep Ext.small smallEnv smallLoad) G

/-- The small system is published; its ingress is in the API server. -/
def Cluster.small (cfg₀ cfg₁ : RoutingConfig) : Cluster :=
  { (Cluster.initial smallEnv).apply smallIngress with
    sys := (Sys.small cfg₀).published cfg₁
    queue := [] }

/-- The system starts, the class is created, the ingress applied, reconciled and published;
the worker is called when there is no entry yet. -/
theorem small_cluster_run {G : Cluster → ClusterLabel → Prop}
    (hG : ∀ k l, (∀ api, l ≠ .reconcile api) → l ≠ .listFails → G k l)
    (hreconcile : ∀ k, k.sys.state.ingresses = ∅ → G k (.reconcile Api.small)) :
    ∃ ls cfg₀ cfg₁, Run (SmallStep G) (Cluster.initial smallEnv) ls (Cluster.small cfg₀ cfg₁) := by
  obtain ⟨outside, vs₀, cfg₀, hboot, _⟩ := small_boot
  obtain ⟨vs₁, hvs₁⟩ := exists_visits (Sys.small cfg₀).state.ingresses
  obtain ⟨cfg₁, hcfg₁⟩ := getProxyConfig_ok (small_state cfg₀).1 (small_standard 4096) vs₁
  let k₁ : Cluster := { Cluster.initial smallEnv with sys := Sys.booted cfg₀ }
  let k₂ : Cluster := { k₁ with sys := Sys.classed cfg₀ }
  let k₃ : Cluster := k₂.apply smallIngress
  let k₄ : Cluster := { k₃ with sys := Sys.small cfg₀, queue := [] }
  have h₁ : Run (SmallStep G) (Cluster.initial smallEnv) _ k₁ :=
    Run.inCluster (fun _ _ => hG _ _ (by simp) (by simp)) hboot
      (by simp [initUpdates, serveRequest, handOver, Label.internal]) _ rfl
  -- the class is created while there is no ingress
  obtain ⟨ls₂, h₂⟩ : ∃ ls, Run (SmallStep G) { k₂ with handler := .listing (lit "c") } ls k₂ :=
    list_run (lit "c") [] (fun _ _ => hG _ _ (by simp) (by simp))
      (fun _ => hG _ _ (by simp) (by simp)) (fun _ => hG _ _ (by simp) (by simp)) rfl
      GoMap.ranges_empty
  have hclass : SmallStep G k₁ (.classCreated smallClass)
      { k₂ with handler := .listing (lit "c") } :=
    ⟨.classCreated smallClass rfl, hG _ _ (by simp) (by simp)⟩
  have h₃ : SmallStep G k₂ (.apply smallIngress) k₃ := ⟨.apply _ _, hG _ _ (by simp) (by simp)⟩
  have h₄ : Run (SmallStep G) k₃ [.take, .get, .reconcile Api.small] k₄ := by
    refine process_run (fun _ => hG _ _ (by simp) (by simp))
      (fun _ => hG _ _ (by simp) (by simp)) ?_ rfl rfl rfl rfl
    intro k' hsys _ _
    refine hreconcile k' ?_
    rw [hsys]
    rfl
  have h₅ : Run (SmallStep G) k₄ _ (Cluster.small cfg₀ cfg₁) :=
    Run.inCluster (fun _ _ => hG _ _ (by simp) (by simp))
      (publish_run (small_waiting cfg₀) hvs₁ hcfg₁)
      (by simp [serveRequest, handOver, Label.internal]) k₄ rfl
  exact ⟨_, cfg₀, cfg₁, h₁.append (.cons hclass (h₂.append (.cons h₃ (h₄.append h₅))))⟩

end SIngress.Controller
