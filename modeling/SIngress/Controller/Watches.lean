/-
  SIngress.Controller.Watches — THE CACHE AND ITS WATCHES.

  The client's cache holds Services, Secrets and ConfigMaps besides the
  ingresses.  A change reaches the cache first and its watch handler later; the
  handler takes the lock of the state, finds the entries that recorded the
  object and enqueues them.  A reconcile holds the lock from its first read to
  its write, but the cache goes on changing under it: it may read one object
  before a change and another one after it.

  Every step is a step of the cluster or leaves it alone (`cluster_step`), so
  the invariants of the cluster hold here (`cluster_invariant_step`).
-/
import SIngress.Controller.Convergence

namespace SIngress.Controller

open SIngress.Base SIngress.Lib SIngress.K8s SIngress.Platform SIngress.Config SIngress.Proxy
open SIngress.Modules

/-! ## §1. The cache. -/

/-- The Services, Secrets and ConfigMaps in the client's cache. -/
structure Store where
  services : GoMap NamespacedName Service
  secrets : GoMap NamespacedName Secret
  configMaps : GoMap NamespacedName ConfigMap

/-- A `Get` from the cache; `resource` is the plural the error names. -/
def getObject {α : Type} (ext : Ext) (resource : GoString) (objects : GoMap NamespacedName α)
    (n : NamespacedName) : Except GoError α :=
  match objects.lookup n with
  | some object => .ok object
  | none => .error (resource ++ lit " " ++ ext.quote n.name ++ lit " not found")

theorem getObject_eq_ok {α : Type} {ext : Ext} {resource : GoString}
    {objects : GoMap NamespacedName α} {n : NamespacedName} {a : α} :
    getObject ext resource objects n = .ok a ↔ objects.lookup n = some a := by
  unfold getObject
  cases objects.lookup n with
  | none => simp
  | some b => simp

/-- The API server as the cache has it. -/
def Store.api (ext : Ext) (store : Store) : Api where
  getService := getObject ext (lit "services") store.services
  getSecret := getObject ext (lit "secrets") store.secrets
  getConfigMap := getObject ext (lit "configmaps") store.configMaps

theorem getService_eq_ok {ext : Ext} {store : Store} {n : NamespacedName} {s : Service} :
    (store.api ext).getService n = .ok s ↔ store.services.lookup n = some s :=
  getObject_eq_ok

theorem getSecret_eq_ok {ext : Ext} {store : Store} {n : NamespacedName} {s : Secret} :
    (store.api ext).getSecret n = .ok s ↔ store.secrets.lookup n = some s :=
  getObject_eq_ok

/-- An object is created, updated or deleted; `none` stands for a deletion. -/
inductive ObjectEvent where
  | service (n : NamespacedName) (object? : Option Service)
  | secret (n : NamespacedName) (object? : Option Secret)
  | configMap (n : NamespacedName) (object? : Option ConfigMap)

/-- Which handler the event goes to, and for which object. -/
def ObjectEvent.about : ObjectEvent → WatchedKind × NamespacedName
  | .service n _ => (.service, n)
  | .secret n _ => (.secret, n)
  | .configMap n _ => (.configMap, n)

def putObject {α : Type} (objects : GoMap NamespacedName α) (n : NamespacedName) :
    Option α → GoMap NamespacedName α
  | some object => objects.insert n object
  | none => objects.erase n

/-- The cache after an event. -/
def Store.apply (store : Store) : ObjectEvent → Store
  | .service n object? => { store with services := putObject store.services n object? }
  | .secret n object? => { store with secrets := putObject store.secrets n object? }
  | .configMap n object? => { store with configMaps := putObject store.configMaps n object? }

theorem lookup_putObject_of_ne {α : Type} {objects : GoMap NamespacedName α}
    {n m : NamespacedName} (hne : m ≠ n) (object? : Option α) :
    (putObject objects n object?).lookup m = objects.lookup m := by
  cases object? with
  | none => exact Finmap.lookup_erase_ne hne
  | some object => exact Finmap.lookup_insert_of_ne _ hne

/-- The two caches have the same object. -/
def Store.Same (store store' : Store) : WatchedKind → NamespacedName → Prop
  | .service, n => store.services.lookup n = store'.services.lookup n
  | .secret, n => store.secrets.lookup n = store'.secrets.lookup n
  | .configMap, n => store.configMaps.lookup n = store'.configMaps.lookup n

theorem Store.Same.trans {s₁ s₂ s₃ : Store} {kind : WatchedKind} {n : NamespacedName}
    (h : s₁.Same s₂ kind n) (h' : s₂.Same s₃ kind n) : s₁.Same s₃ kind n := by
  cases kind with
  | service => exact Eq.trans h h'
  | secret => exact Eq.trans h h'
  | configMap => exact Eq.trans h h'

theorem Store.Same.refl (store : Store) (kind : WatchedKind) (n : NamespacedName) :
    store.Same store kind n := by
  cases kind with
  | service => exact Eq.refl _
  | secret => exact Eq.refl _
  | configMap => exact Eq.refl _

/-- An event changes the object it is about, and no other. -/
theorem same_apply (store : Store) {e : ObjectEvent} {kind : WatchedKind} {n : NamespacedName}
    (hne : (kind, n) ≠ e.about) : store.Same (store.apply e) kind n := by
  cases e with
  | service m object? =>
      cases kind with
      | service => exact (lookup_putObject_of_ne (fun h => hne (by rw [h]; rfl)) object?).symm
      | secret => exact Eq.refl _
      | configMap => exact Eq.refl _
  | secret m object? =>
      cases kind with
      | service => exact Eq.refl _
      | secret => exact (lookup_putObject_of_ne (fun h => hne (by rw [h]; rfl)) object?).symm
      | configMap => exact Eq.refl _
  | configMap m object? =>
      cases kind with
      | service => exact Eq.refl _
      | secret => exact Eq.refl _
      | configMap => exact (lookup_putObject_of_ne (fun h => hne (by rw [h]; rfl)) object?).symm

/-- What a cache answers for a service or a secret, a cache with the same object answers. -/
theorem getService_of_same {ext : Ext} {store store' : Store} {n : NamespacedName} {s : Service}
    (hsame : store.Same store' .service n) (h : (store.api ext).getService n = .ok s) :
    (store'.api ext).getService n = .ok s :=
  getService_eq_ok.mpr (Eq.trans (Eq.symm hsame) (getService_eq_ok.mp h))

theorem getSecret_of_same {ext : Ext} {store store' : Store} {n : NamespacedName} {s : Secret}
    (hsame : store.Same store' .secret n) (h : (store.api ext).getSecret n = .ok s) :
    (store'.api ext).getSecret n = .ok s :=
  getSecret_eq_ok.mpr (Eq.trans (Eq.symm hsame) (getSecret_eq_ok.mp h))

/-! ## §2. The cluster with its cache and its watches. -/

/-- The cluster, the cache, and what is on its way between them. -/
structure World where
  cluster : Cluster
  store : Store
  /-- Changes whose handler has not run yet. -/
  events : List (WatchedKind × NamespacedName)
  /-- Names that handlers returned and that are about to be enqueued. -/
  adding : List NamespacedName
  /-- The caches since the worker took the lock, the current one first; none without the
  lock. -/
  seen : List Store

def World.initial (env : ControllerEnvConf) : World where
  cluster := Cluster.initial env
  store := ⟨∅, ∅, ∅⟩
  events := []
  adding := []
  seen := []

/-- The cache changes; the event waits for its handler. -/
def World.change (w : World) (e : ObjectEvent) : World :=
  { w with
    store := w.store.apply e
    events := w.events ++ [e.about]
    -- a reconcile under way may read the new version from now on
    seen := if w.seen.isEmpty then [] else w.store.apply e :: w.seen }

/-- The handler of a change runs. -/
def World.handle (env : ControllerEnvConf) (w : World) (kind : WatchedKind)
    (object : NamespacedName) (order : List (NamespacedName × IngressEntry)) : World :=
  let handled := kind.handle env w.cluster.sys.state order object
  { w with
    cluster :=
      if handled.reconcileCommon then
        { w.cluster with
          sys := { w.cluster.sys with
            requestReconcileCommonChan := w.cluster.sys.requestReconcileCommonChan.trySend () } }
      else w.cluster
    events := w.events.erase (kind, object)
    adding := w.adding ++ handled.requests }

/-- The next name is enqueued. -/
def World.enqueued (w : World) (n : NamespacedName) (rest : List NamespacedName) : World :=
  { w with
    cluster := { w.cluster with queue := enqueue n w.cluster.queue }
    adding := rest }

/-- An answer to a read: what one of the caches has, or an error. -/
def ServedFrom {α : Type} (seen : List Store) (get : Store → Except GoError α)
    (answer : Except GoError α) : Prop :=
  (∃ err, answer = .error err) ∨ ∃ store ∈ seen, answer = get store

/-- The answers a reconcile under the lock gets. -/
structure World.Answers (ext : Ext) (w : World) (api : Api) : Prop where
  services : ∀ n, ServedFrom w.seen (fun store => (store.api ext).getService n) (api.getService n)
  secrets : ∀ n, ServedFrom w.seen (fun store => (store.api ext).getSecret n) (api.getSecret n)

inductive WorldLabel where
  | change (e : ObjectEvent)
  | handle (kind : WatchedKind) (object : NamespacedName)
      (order : List (NamespacedName × IngressEntry))
  | add
  /-- The worker takes the lock in `ReconcileIngress`. -/
  | lock
  /-- It writes and releases the lock. -/
  | reconcile (api : Api)
  | cluster (l : ClusterLabel)

def ClusterLabel.isReconcile : ClusterLabel → Bool
  | .reconcile _ => true
  | _ => false

section

variable (ext : Ext) (env : ControllerEnvConf) (load : Outside → Except Fail ControllerConf)

inductive WorldStep : World → WorldLabel → World → Prop
  | change (w : World) (e : ObjectEvent) : WorldStep w (.change e) (w.change e)
  | handle {w : World} {kind : WatchedKind} {object : NamespacedName}
      {order : List (NamespacedName × IngressEntry)} :
      -- the handler needs the lock that a reconcile holds
      w.seen = [] → (kind, object) ∈ w.events →
      GoMap.Ranges w.cluster.sys.state.ingresses order →
      WorldStep w (.handle kind object order) (w.handle env kind object order)
  | add {w : World} {n : NamespacedName} {rest : List NamespacedName} : w.adding = n :: rest →
      WorldStep w .add (w.enqueued n rest)
  | lock {w : World} {n : NamespacedName} {ingress? : Option Ingress}
      {named : ∀ i, ingress? = some i → objectMetaToNamespaced i = n} :
      w.cluster.worker = .fetched n ingress? named → w.seen = [] →
      WorldStep w .lock { w with seen := [w.store] }
  | reconcile {w : World} {api : Api} {k : Cluster} : w.seen ≠ [] → w.Answers ext api →
      ClusterStep ext env load w.cluster (.reconcile api) k →
      WorldStep w (.reconcile api) { w with cluster := k, seen := [] }
  /-- Everything else; what else needs the lock is not held back, which only adds runs. -/
  | cluster {w : World} {l : ClusterLabel} {k : Cluster} : l.isReconcile = false →
      ClusterStep ext env load w.cluster l k → WorldStep w (.cluster l) { w with cluster := k }

end

/-! ## §3. The cluster inside. -/

section

variable {ext : Ext} {env : ControllerEnvConf} {load : Outside → Except Fail ControllerConf}
  {w w' : World} {wl : WorldLabel}

/-- The label of the cluster's step, if it makes one. -/
def WorldLabel.inner (env : ControllerEnvConf) (w : World) : WorldLabel → Option ClusterLabel
  | .change _ | .lock => none
  | .handle kind object order =>
      if (kind.handle env w.cluster.sys.state order object).reconcileCommon then
        some (.sys .requestCommon)
      else none
  | .add => w.adding.head?.map .watch
  | .reconcile api => some (.reconcile api)
  | .cluster l => some l

/-- **A step is a step of the cluster, or leaves it alone.** -/
theorem cluster_step (h : WorldStep ext env load w wl w') :
    match wl.inner env w with
    | none => w'.cluster = w.cluster
    | some l => ClusterStep ext env load w.cluster l w'.cluster := by
  cases h with
  | change e => rfl
  | @handle kind object order _ _ _ =>
      unfold WorldLabel.inner World.handle
      dsimp only
      by_cases hcommon :
          (kind.handle env w.cluster.sys.state order object).reconcileCommon = true
      · rw [if_pos hcommon, if_pos hcommon]
        exact ClusterStep.sys rfl (.requestCommon _)
      · rw [if_neg hcommon, if_neg hcommon]
  | @add n rest hadding =>
      unfold WorldLabel.inner
      rw [hadding]
      exact ClusterStep.watch _ n
  | lock _ _ => rfl
  | reconcile _ _ hstep => exact hstep
  | cluster _ hstep => exact hstep

/-- What every step of the cluster keeps, every step of the world keeps. -/
theorem cluster_invariant_step {I : Cluster → Prop}
    (hI : ∀ k l k', ClusterStep ext env load k l k' → I k → I k')
    (h : WorldStep ext env load w wl w') (hw : I w.cluster) : I w'.cluster := by
  have hstep := cluster_step h
  split at hstep
  · rw [hstep]
    exact hw
  · exact hI _ _ _ hstep hw

/-- The system inside is reachable. -/
theorem world_reached_step (h : WorldStep ext env load w wl w')
    (hw : w.cluster.sys.Reached ext env load) : w'.cluster.sys.Reached ext env load := by
  exact cluster_invariant_step (I := fun k => k.sys.Reached ext env load)
    (fun _ _ _ hstep hk => sys_reached_step hstep hk) h hw

/-- Every configuration in the history of the entries was loaded. -/
theorem confOf_loaded {s : Sys} (h : s.Reached ext env load) {n : NamespacedName}
    {conf : ControllerConf} (hconf : s.confOf n = some conf) :
    ∃ outside, load outside = .ok conf := by
  have hinv : s.Reached ext env load ∧
      ∀ n conf, s.confOf n = some conf → ∃ outside, load outside = .ok conf := by
    refine h.invariant (I := fun s => s.Reached ext env load ∧
      ∀ n conf, s.confOf n = some conf → ∃ outside, load outside = .ok conf)
      (fun s₀ h₀ => ?_) (fun s a t hs hstep => ?_)
    · refine ⟨⟨s₀, [], h₀, .nil _⟩, fun n conf hconf => ?_⟩
      rw [h₀] at hconf
      cases hconf
    · obtain ⟨hreached, hloaded⟩ := hs
      refine ⟨hreached.next hstep, fun n conf hconf => ?_⟩
      cases step_change hstep with
      | same _ hconfOf _ => exact hloaded n conf (hconfOf ▸ hconf)
      | removed _ _ hconfOf _ _ => exact hloaded n conf (hconfOf ▸ hconf)
      | cleared _ _ hconfOf _ _ => exact hloaded n conf (hconfOf ▸ hconf)
      | classAdded _ hconfOf _ _ => exact hloaded n conf (hconfOf ▸ hconf)
      | classRemoved _ hconfOf _ _ => exact hloaded n conf (hconfOf ▸ hconf)
      | updated _ _ hconfOf _ _ => exact hloaded n conf (hconfOf ▸ hconf)
      | configured _ hcurrent _ _ hconfOf _ _ =>
          -- the configuration of the controller at that reconcile, which was loaded
          rw [hconfOf] at hconf
          dsimp only at hconf
          split_ifs at hconf
          · cases hconf
            exact config_of_reached hreached hcurrent
          · exact hloaded n conf hconf
  exact hinv.2 n conf hconf

/-- Only the worker's reconcile of `n` changes the configuration `n` was reconciled with. -/
theorem confOf_step {k k' : Cluster} {l : ClusterLabel} {n : NamespacedName}
    (h : ClusterStep ext env load k l k') (hn : ¬ k.AtWork l n) :
    k'.sys.confOf n = k.sys.confOf n := by
  cases h with
  | classDeleted name _ => exact congrFun (whenRelevant_fields _ _).2.1 n
  | @reconcile m ingress? named api hw =>
      have hne : n ≠ m := by
        rintro rfl
        exact hn ⟨api, ingress?, named, rfl, hw⟩
      show (k.sys.reconcileIngress ext api m ingress?).confOf n = _
      have hchange : Change ext env load k.sys (k.sys.reconcileIngress ext api m ingress?)
        (.reconcile api m ingress?) := reconcile_change k.sys api m ingress?
      generalize k.sys.reconcileIngress ext api m ingress? = t at hchange
      cases hchange with
      | same _ hconfOf _ => rw [hconfOf]
      | removed _ _ hconfOf _ _ => rw [hconfOf]
      | cleared _ _ hconfOf _ _ => rw [hconfOf]
      | @configured _ _ i conf cfg _ _ _ _ hconfOf _ _ =>
          rw [hconfOf, named i rfl]
          exact if_neg hne
  | @sys l s hl hs =>
      show s.confOf n = _
      cases step_change hs with
      | same _ hconfOf _ => rw [hconfOf]
      | updated _ _ hconfOf _ _ => rw [hconfOf]
      | removed _ _ _ _ _ => cases hl
      | cleared _ _ _ _ _ => cases hl
      | configured _ _ _ _ _ _ _ => cases hl
      | classAdded _ _ _ _ => cases hl
      | classRemoved _ _ _ _ => cases hl
  | _ => rfl

end

end SIngress.Controller
