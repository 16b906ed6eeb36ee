/-
  SIngress.Controller.Status — THE STATUS OF THE INGRESSES
  (`ensureActiveIngressStatus` of `pkg/controller/converter.go`).

  A reconcile writes the addresses of the load balancer into the status of its
  ingress, if the status is empty.  It decides so on a copy from the client's
  cache, which may be old; the write is itself a change that comes back as an
  event.  By what rule the API server accepts writes is a parameter, of which
  `WriteRule` says what is assumed: writes from outdated copies are refused.
  The cluster of `Controller.Cluster` runs inside: its ingresses are what the
  cache has.  The objects of the API server, with their versions and their
  status, are kept beside it.

    • `status_kept`       — no reconcile changes a status that is not empty,
    • `status_writes_le`  — nor does it write again and again: the writes to an
                            ingress are no more than the changes by others that
                            left it without a status,
    • `status_settles`    — where list calls succeed, every write reaches the API
                            server, which refuses no more than it has to, and
                            there are addresses to write, every relevant ingress
                            has a status once the cache has caught up and nothing
                            is left to do.
-/
import SIngress.Controller.Convergence
import SIngress.Controller.Watches
import SIngress.Lib.Versioned

namespace SIngress.Controller

open SIngress.Base SIngress.Lib SIngress.K8s SIngress.Platform SIngress.Config SIngress.Proxy
open SIngress.Modules

/-! ## §1. `ensureActiveIngressStatus`. -/

/-- `ensureActiveIngressStatus`: the addresses it asks the API server to store.  An empty
`status` is a nil one. -/
def ensureActiveIngressStatus (conf : ControllerConf)
    (loadBalancer : Option (List LoadBalancerIngress)) (status : List LoadBalancerIngress) :
    Option (List LoadBalancerIngress) :=
  if conf.disableStatusUpdate then none
  else if !status.isEmpty then none
  else loadBalancer

/-- The addresses a call of `ReconcileIngress` asks the API server to store.  It comes there
behind the loop over the rules, whatever becomes of the certificates. -/
def statusUpdate (ext : Ext) (api : Api) (state : K8sState) (ingress : Ingress)
    (status : List LoadBalancerIngress) : Option (List LoadBalancerIngress) :=
  if isIngressRelevant state ingress = false then none
  else
    match state.config with
    -- a nil dereference, in front of the first path
    | none => none
    | some conf =>
        match ingress.rules.foldlM (addRule ext api conf ingress) .empty with
        | .error _ => none
        | .ok _ => ensureActiveIngressStatus conf state.ingressLoadBalancerStatus status

section

variable {ext : Ext} {api : Api} {state : K8sState} {ingress : Ingress}
  {status : List LoadBalancerIngress}

/-- A status that is not empty is left alone. -/
theorem statusUpdate_of_status (h : status ≠ []) :
    statusUpdate ext api state ingress status = none := by
  have hgiven : status.isEmpty = false := by
    cases status with
    | nil => exact absurd rfl h
    | cons a l => rfl
  have hensure : ∀ conf loadBalancer,
      ensureActiveIngressStatus conf loadBalancer status = none := by
    intro conf loadBalancer
    unfold ensureActiveIngressStatus
    rw [hgiven]
    split_ifs with _ hnil
    · rfl
    · rfl
    · exact absurd rfl hnil
  unfold statusUpdate
  split_ifs
  · rfl
  · cases state.config with
    | none => rfl
    | some conf =>
        dsimp only
        cases ingress.rules.foldlM (addRule ext api conf ingress) .empty with
        | error f => rfl
        | ok ingressConf => exact hensure conf _

/-- A successful reconcile of a relevant ingress comes to `ensureActiveIngressStatus`. -/
theorem statusUpdate_of_ok {n : NamespacedName} (hrel : isIngressRelevant state ingress = true)
    (hok : (reconcile ext api state n (some ingress)).result = .ok ()) :
    ∃ conf, state.config = some conf ∧ statusUpdate ext api state ingress status
      = ensureActiveIngressStatus conf state.ingressLoadBalancerStatus status := by
  have houtcome := reconcile_outcome ext api state n (some ingress)
  generalize reconcile ext api state n (some ingress) = r at houtcome hok
  cases houtcome with
  | noted hirr _ =>
      rw [hirr] at hrel
      cases hrel
  | cleared hirr _ =>
      rw [hirr] at hrel
      cases hrel
  | failed _ _ => cases hok
  | @configured _ conf cfg _ hconf hcfg =>
      obtain ⟨ingressConf, hrules, _⟩ := bind_eq_ok.mp hcfg
      refine ⟨conf, hconf, ?_⟩
      unfold statusUpdate
      rw [if_neg (by rw [hrel]; exact Bool.noConfusion), hconf]
      dsimp only
      rw [hrules]

end

/-! ## §2. The API server beside the cluster. -/

/-- An ingress with its status. -/
structure IngressObject where
  ingress : Ingress
  status : List LoadBalancerIngress
  deriving DecidableEq

/-- The cluster, the objects of the API server, the client's cache of them and the copy the
worker goes on with. -/
structure StatusWorld where
  cluster : Cluster
  server : VersionedStore NamespacedName IngressObject
  cached : GoMap NamespacedName (Versioned IngressObject)
  fetched : Option (Versioned IngressObject)

def StatusWorld.initial (env : ControllerEnvConf) : StatusWorld where
  cluster := Cluster.initial env
  server := .empty
  cached := ∅
  fetched := none

/-- The cache catches up with an object, and the event enqueues its name. -/
def StatusWorld.observe (w : StatusWorld) (n : NamespacedName) : StatusWorld :=
  { w with
    cluster :=
      match w.server.get n with
      | some o => w.cluster.apply o.value.ingress
      | none => w.cluster.delete n
    cached := putObject w.cached n (w.server.get n) }

/-- The write that the reconcile under way sends: the ingress, the copy it is made from and
what is to be stored. -/
def StatusWorld.update (ext : Ext) (w : StatusWorld) (api : Api) :
    Option (NamespacedName × Versioned IngressObject × IngressObject) :=
  match w.cluster.worker, w.fetched with
  | .fetched n _ _, some copy =>
      (statusUpdate ext api w.cluster.sys.state copy.value.ingress copy.value.status).map
        fun status => (n, copy, { copy.value with status := status })
  | _, _ => none

/-- The API server after the reconcile; an error of the write is logged, and no more. -/
def StatusWorld.reported (rule : WriteRule IngressObject) (ext : Ext) (w : StatusWorld)
    (api : Api) (delivered : Bool) : VersionedStore NamespacedName IngressObject :=
  match w.update ext api with
  | some (n, copy, object) => if delivered then w.server.replace rule n copy object else w.server
  | none => w.server

/-- The ingress whose status the reconcile changes. -/
def StatusWorld.written (rule : WriteRule IngressObject) (ext : Ext) (w : StatusWorld) (api : Api)
    (delivered : Bool) : Option NamespacedName :=
  match w.update ext api with
  | some (n, copy, object) =>
      if delivered && rule.accepts (w.server.get n) copy object then some n else none
  | none => none

inductive StatusLabel where
  /-- Somebody else creates or changes an ingress or its status. -/
  | write (object : IngressObject)
  | remove (n : NamespacedName)
  | observe (n : NamespacedName)
  | get
  /-- The worker's reconcile; whether its write reaches the API server, and whose status it
  changes there. -/
  | reconcile (api : Api) (delivered : Bool) (written : Option NamespacedName)
  | cluster (l : ClusterLabel)

/-- The steps of the cluster that do not touch what is kept beside it. -/
def ClusterLabel.aside : ClusterLabel → Bool
  | .apply _ | .delete _ | .get | .reconcile _ => false
  | _ => true

section

variable (rule : WriteRule IngressObject) (ext : Ext) (env : ControllerEnvConf)
  (load : Outside → Except Fail ControllerConf)

inductive StatusStep : StatusWorld → StatusLabel → StatusWorld → Prop
  | write (w : StatusWorld) (object : IngressObject) : StatusStep w (.write object)
      { w with server := w.server.put (objectMetaToNamespaced object.ingress) object }
  | remove (w : StatusWorld) (n : NamespacedName) :
      StatusStep w (.remove n) { w with server := w.server.remove n }
  | observe (w : StatusWorld) (n : NamespacedName) : StatusStep w (.observe n) (w.observe n)
  | get {w : StatusWorld} {n : NamespacedName} {k : Cluster} : w.cluster.worker = .taken n →
      ClusterStep ext env load w.cluster .get k →
      StatusStep w .get { w with cluster := k, fetched := w.cached.lookup n }
  | reconcile {w : StatusWorld} {api : Api} {delivered : Bool} {k : Cluster} :
      ClusterStep ext env load w.cluster (.reconcile api) k →
      StatusStep w (.reconcile api delivered (w.written rule ext api delivered))
        { w with cluster := k, server := w.reported rule ext api delivered }
  | cluster {w : StatusWorld} {l : ClusterLabel} {k : Cluster} : l.aside = true →
      ClusterStep ext env load w.cluster l k →
      StatusStep w (.cluster l) { w with cluster := k }

end

section

variable {rule : WriteRule IngressObject} {ext : Ext} {env : ControllerEnvConf}
  {load : Outside → Except Fail ControllerConf} {w w' : StatusWorld} {l : StatusLabel}

/-- **A step is a step of the cluster, or leaves it alone.** -/
theorem status_cluster_step (h : StatusStep rule ext env load w l w') :
    w'.cluster = w.cluster ∨ ∃ cl, ClusterStep ext env load w.cluster cl w'.cluster := by
  cases h with
  | write object => exact Or.inl rfl
  | remove n => exact Or.inl rfl
  | observe n =>
      refine Or.inr ?_
      unfold StatusWorld.observe
      dsimp only
      cases w.server.get n with
      | some o => exact ⟨_, .apply _ _⟩
      | none => exact ⟨_, .delete _ _⟩
  | get _ hstep => exact Or.inr ⟨_, hstep⟩
  | reconcile hstep => exact Or.inr ⟨_, hstep⟩
  | cluster _ hstep => exact Or.inr ⟨_, hstep⟩

/-! ## §3. Copies are copies. -/

/-- The cache and the worker hold copies of objects, and the cluster sees what the cache
has. -/
structure StatusWorld.Coherent (w : StatusWorld) : Prop where
  named : ∀ n o, w.server.get n = some o → objectMetaToNamespaced o.value.ingress = n
  mirrored : ∀ n, w.cluster.ingresses.lookup n = (w.cached.lookup n).map fun o => o.value.ingress
  cached : ∀ n o, w.cached.lookup n = some o → w.server.Known n o
  fetched : ∀ n ingress? named, w.cluster.worker = .fetched n ingress? named →
    w.fetched.map (fun o => o.value.ingress) = ingress?
      ∧ ∀ o, w.fetched = some o → w.server.Known n o

theorem coherent_initial : (StatusWorld.initial env).Coherent where
  named := fun n o h => by
    rw [show (StatusWorld.initial env).server = .empty from rfl, VersionedStore.get_empty] at h
    cases h
  mirrored := fun n => by
    rw [show (StatusWorld.initial env).cluster.ingresses = ∅ from rfl,
      show (StatusWorld.initial env).cached = ∅ from rfl, Finmap.lookup_empty, Finmap.lookup_empty]
    rfl
  cached := fun n o h => by
    rw [show (StatusWorld.initial env).cached = ∅ from rfl, Finmap.lookup_empty] at h
    cases h
  fetched := fun n ingress? named h => by cases h

/-- Another store that knows all copies keeps the world coherent. -/
theorem coherent_server (hw : w.Coherent) {server : VersionedStore NamespacedName IngressObject}
    (hnamed : ∀ n o, server.get n = some o → objectMetaToNamespaced o.value.ingress = n)
    (hknown : ∀ n o, w.server.Known n o → server.Known n o) :
    StatusWorld.Coherent { w with server := server } where
  named := hnamed
  mirrored := hw.mirrored
  cached := fun n o h => hknown n o (hw.cached n o h)
  fetched := fun n ingress? named h => by
    obtain ⟨hcopy, hall⟩ := hw.fetched n ingress? named h
    exact ⟨hcopy, fun o ho => hknown n o (hall o ho)⟩

theorem lookup_putObject {α : Type} (objects : GoMap NamespacedName α) (n m : NamespacedName)
    (object? : Option α) :
    (putObject objects n object?).lookup m = if m = n then object? else objects.lookup m := by
  cases object? with
  | none => exact GoMap.lookup_erase_eq objects n m
  | some object => exact GoMap.lookup_insert_eq objects n m object

/-- What is written keeps the name of the object it is made from. -/
theorem update_eq_some {api : Api} {n : NamespacedName} {copy : Versioned IngressObject}
    {object : IngressObject} (h : w.update ext api = some (n, copy, object)) :
    (∃ ingress? named, w.cluster.worker = .fetched n ingress? named) ∧ w.fetched = some copy
      ∧ copy.value.status = [] ∧ object = { copy.value with status := object.status } := by
  unfold StatusWorld.update at h
  split at h
  · next n' ingress? named copy' hworker hfetched =>
      obtain ⟨status, hstatus, heq⟩ := Option.map_eq_some_iff.mp h
      cases heq
      refine ⟨⟨ingress?, named, hworker⟩, hfetched, ?_, rfl⟩
      by_contra hne
      rw [statusUpdate_of_status hne] at hstatus
      cases hstatus
  · cases h

/-- **What the API server has after a reconcile**: the objects it had, or one of them with a
status that was empty. -/
theorem reported_cases (hw : w.Coherent) (api : Api) (delivered : Bool) :
    (w.reported rule ext api delivered = w.server ∧ w.written rule ext api delivered = none)
      ∨ ∃ n copy object, w.written rule ext api delivered = some n ∧ w.server.get n = some copy
        ∧ copy.value.status = [] ∧ object.ingress = copy.value.ingress ∧ object.status ≠ []
        ∧ w.reported rule ext api delivered = w.server.put n object := by
  unfold StatusWorld.reported StatusWorld.written
  cases hupdate : w.update ext api with
  | none => exact Or.inl ⟨rfl, rfl⟩
  | some update =>
      obtain ⟨n, copy, object⟩ := update
      obtain ⟨⟨ingress?, named, hworker⟩, hfetched, hempty, hobject⟩ := update_eq_some hupdate
      dsimp only
      cases delivered with
      | false => exact Or.inl ⟨rfl, rfl⟩
      | true =>
          unfold VersionedStore.replace
          cases haccepts : rule.accepts (w.server.get n) copy object with
          | false => exact Or.inl ⟨rfl, rfl⟩
          | true =>
              have hknown := (hw.fetched n ingress? named hworker).2 copy hfetched
              obtain ⟨hcurrent, hchanged⟩ := VersionedStore.replaced_from hknown haccepts
              refine Or.inr ⟨n, copy, object, rfl, hcurrent, hempty, ?_, ?_, rfl⟩
              · rw [hobject]
              · -- an object that is written differs from the one that was there
                intro hnone
                refine hchanged ?_
                rw [hobject, hnone, ← hempty]

/-- Another cluster with the same ingresses, and a worker with no other copy. -/
theorem coherent_cluster (hw : w.Coherent) {k : Cluster}
    (hingresses : k.ingresses = w.cluster.ingresses)
    (hworker : ∀ n ingress? named, k.worker = .fetched n ingress? named →
      w.cluster.worker = .fetched n ingress? named) :
    StatusWorld.Coherent { w with cluster := k } where
  named := hw.named
  mirrored := fun n => by
    rw [show ({ w with cluster := k } : StatusWorld).cluster.ingresses = w.cluster.ingresses
      from hingresses]
    exact hw.mirrored n
  cached := hw.cached
  fetched := fun n ingress? named h => hw.fetched n ingress? named (hworker n ingress? named h)

/-- A step aside leaves the ingresses, and the worker fetches nothing in it. -/
theorem fetchless_step {k k' : Cluster} {cl : ClusterLabel} (h : ClusterStep ext env load k cl k')
    (hcl : cl.aside = true) : k'.ingresses = k.ingresses
      ∧ ∀ n ingress? named, k'.worker = .fetched n ingress? named →
        k.worker = .fetched n ingress? named := by
  cases h with
  | apply i => cases hcl
  | delete n => cases hcl
  | notLoaded _ _ => cases hcl
  | get _ _ => cases hcl
  | reconcile _ => cases hcl
  | take _ _ => exact ⟨rfl, fun _ _ _ hfetched => by cases hfetched⟩
  | getFails _ => exact ⟨rfl, fun _ _ _ hfetched => by cases hfetched⟩
  | _ => exact ⟨rfl, fun _ _ _ hfetched => hfetched⟩

theorem observe_worker (w : StatusWorld) (n : NamespacedName) :
    (w.observe n).cluster.worker = w.cluster.worker := by
  unfold StatusWorld.observe
  dsimp only
  cases w.server.get n with
  | some o => rfl
  | none => rfl

theorem observe_cached (w : StatusWorld) (n m : NamespacedName) :
    (w.observe n).cached.lookup m = if m = n then w.server.get n else w.cached.lookup m :=
  lookup_putObject _ _ _ _

theorem coherent_observe (hw : w.Coherent) (n : NamespacedName) : (w.observe n).Coherent where
  named := hw.named
  mirrored := by
    intro m
    rw [observe_cached]
    unfold StatusWorld.observe
    dsimp only
    cases hget : w.server.get n with
    | some o =>
        show (w.cluster.ingresses.insert (objectMetaToNamespaced o.value.ingress)
          o.value.ingress).lookup m = _
        rw [hw.named n o hget, GoMap.lookup_insert_eq]
        split_ifs
        · rfl
        · exact hw.mirrored m
    | none =>
        show (w.cluster.ingresses.erase n).lookup m = _
        rw [GoMap.lookup_erase_eq]
        split_ifs
        · rfl
        · exact hw.mirrored m
  cached := by
    intro m o h
    rw [observe_cached] at h
    split_ifs at h with heq
    · rw [heq]
      exact VersionedStore.known_of_get h
    · exact hw.cached m o h
  fetched := by
    intro m ingress? named h
    rw [observe_worker] at h
    exact hw.fetched m ingress? named h

theorem coherent_reported (hw : w.Coherent) (api : Api) (delivered : Bool) :
    StatusWorld.Coherent { w with server := w.reported rule ext api delivered } := by
  rcases @reported_cases rule ext w hw api delivered with ⟨hsame, _⟩
    | ⟨n, copy, object, _, hcurrent, _, hingress, _, hput⟩
  · rw [hsame]
    exact hw
  · rw [hput]
    refine coherent_server hw (fun m o ho => ?_) fun m o hknown => hknown.put n object
    rw [VersionedStore.get_put] at ho
    split_ifs at ho with heq
    · cases ho
      show objectMetaToNamespaced object.ingress = m
      rw [hingress, heq]
      exact hw.named n copy hcurrent
    · exact hw.named m o ho

theorem coherent_step (h : StatusStep rule ext env load w l w') (hw : w.Coherent) :
    w'.Coherent := by
  cases h with
  | write object =>
      refine coherent_server hw (fun n o ho => ?_) fun n o hknown => hknown.put _ object
      rw [VersionedStore.get_put] at ho
      split_ifs at ho with heq
      · cases ho
        exact heq.symm
      · exact hw.named n o ho
  | remove n =>
      refine coherent_server hw (fun m o ho => ?_) fun m o hknown => hknown.remove n
      rw [VersionedStore.get_remove] at ho
      split_ifs at ho
      exact hw.named m o ho
  | observe n => exact coherent_observe hw n
  | @get n k hworker hstep =>
      cases hstep with
      | notLoaded _ _ => exact ⟨hw.named, hw.mirrored, hw.cached, fun _ _ _ h => by cases h⟩
      | get hworker' _ =>
          rw [hworker] at hworker'
          cases hworker'
          refine ⟨hw.named, hw.mirrored, hw.cached, fun m ingress? named h => ?_⟩
          cases h
          exact ⟨(hw.mirrored n).symm, fun o ho => hw.cached n o ho⟩
  | @reconcile api delivered k hstep =>
      cases hstep with
      | reconcile _ =>
          have hreported := @coherent_reported rule ext w hw api delivered
          exact coherent_cluster hreported rfl fun _ _ _ h => by cases h
  | cluster haside hstep =>
      obtain ⟨hingresses, hworker⟩ := fetchless_step hstep haside
      exact coherent_cluster hw hingresses hworker

theorem coherent_of_run {ls : List StatusLabel}
    (h : Run (StatusStep rule ext env load) (StatusWorld.initial env) ls w) : w.Coherent :=
  h.invariant (fun _ _ _ hw hstep => coherent_step hstep hw) coherent_initial

/-! ## §4. No status is written over, and none again and again. -/

/-- **A status is kept.**  Whatever the controller's caches have, whoever else writes and by
whatever rule the API server refuses outdated writes: a reconcile never changes an ingress that
has a status in the API server. -/
theorem status_kept {ls : List StatusLabel}
    (h : Run (StatusStep rule ext env load) (StatusWorld.initial env) ls w) {api : Api}
    {delivered : Bool} {written : Option NamespacedName}
    (hstep : StatusStep rule ext env load w (.reconcile api delivered written) w')
    {n : NamespacedName} {o : Versioned IngressObject} (ho : w.server.get n = some o)
    (hstatus : o.value.status ≠ []) : w'.server.get n = some o := by
  cases hstep with
  | reconcile _ =>
      show (w.reported rule ext api delivered).get n = some o
      rcases @reported_cases rule ext w (coherent_of_run h) api delivered with ⟨hsame, _⟩
        | ⟨m, copy, object, _, hcurrent, hempty, _, _, hput⟩
      · rw [hsame]
        exact ho
      · rw [hput, VersionedStore.get_put]
        split_ifs with heq
        · rw [heq, hcurrent] at ho
          cases ho
          exact absurd hempty hstatus
        · exact ho

/-- The ingress exists without a status: `1`, or `0`. -/
def StatusWorld.bare (n : NamespacedName) (w : StatusWorld) : Nat :=
  match w.server.get n with
  | some o => o.value.status.isEmpty.toNat
  | none => 0

/-- A reconcile changes the status of the ingress. -/
def StatusLabel.writes (n : NamespacedName) : StatusLabel → Bool
  | .reconcile _ _ written => written == some n
  | _ => false

/-- Somebody else leaves the ingress without a status. -/
def StatusLabel.empties (n : NamespacedName) : StatusLabel → Bool
  | .write object => objectMetaToNamespaced object.ingress == n && object.status.isEmpty
  | _ => false

theorem bare_server {n : NamespacedName} {w w' : StatusWorld}
    (h : w'.server.get n = w.server.get n) : w'.bare n = w.bare n := by
  unfold StatusWorld.bare
  rw [h]

/-- After a change of an object its own status decides. -/
theorem bare_put {n m : NamespacedName} {object : IngressObject}
    (h : w'.server = w.server.put m object) :
    w'.bare n = if n = m then object.status.isEmpty.toNat else w.bare n := by
  unfold StatusWorld.bare
  rw [h, VersionedStore.get_put]
  split_ifs
  · rfl
  · rfl

/-- **The writes of a step are paid for**: by an ingress that had no status, or by the change
that left it without one. -/
theorem bare_step (h : StatusStep rule ext env load w l w') (hw : w.Coherent) (n : NamespacedName) :
    w'.bare n + (l.writes n).toNat ≤ w.bare n + (l.empties n).toNat := by
  cases h with
  | write object =>
      rw [bare_put (w := w) rfl]
      split_ifs with hn
      · simp [StatusLabel.writes, StatusLabel.empties, ← hn]
      · exact Nat.le_add_right _ _
  | remove m =>
      have hbare : StatusWorld.bare n { w with server := w.server.remove m } ≤ w.bare n := by
        unfold StatusWorld.bare
        rw [VersionedStore.get_remove]
        split_ifs
        · exact Nat.zero_le _
        · exact le_refl _
      exact hbare
  | observe m => exact le_refl _
  | get _ _ => exact le_refl _
  | cluster _ _ => exact le_refl _
  | @reconcile api delivered k _ =>
      unfold StatusLabel.writes StatusLabel.empties
      dsimp only
      rcases @reported_cases rule ext w hw api delivered with ⟨hsame, hnone⟩
        | ⟨m, copy, object, hwritten, hcurrent, hempty, _, hgiven, hput⟩
      · rw [hnone, bare_server (w := w) (by rw [hsame])]
        exact le_refl _
      · rw [hwritten, bare_put (w := w) hput]
        split_ifs with hn
        · -- the status was empty, and is not any more
          have hbefore : w.bare n = 1 := by
            unfold StatusWorld.bare
            rw [hn, hcurrent]
            show copy.value.status.isEmpty.toNat = 1
            rw [hempty]
            rfl
          have hafter : object.status.isEmpty = false := by
            rw [List.isEmpty_eq_false_iff]
            exact hgiven
          rw [hbefore, hafter, hn]
          simp
        · have hother : (some m == some n) = false := by
            simp [Ne.symm hn]
          rw [hother]

/-- **No writing again and again.**  In every run, the reconciles change the status of an
ingress no more often than somebody else left the ingress without one, its creation
included. -/
theorem status_writes_le {ls : List StatusLabel}
    (h : Run (StatusStep rule ext env load) (StatusWorld.initial env) ls w) (n : NamespacedName) :
    ls.countP (StatusLabel.writes n) ≤ ls.countP (StatusLabel.empties n) := by
  have hcount := h.countP_le_countP (I := StatusWorld.Coherent) (μ := StatusWorld.bare n)
    (p := StatusLabel.writes n) (q := StatusLabel.empties n)
    (fun _ _ _ hw hstep => ⟨coherent_step hstep hw, bare_step hstep hw n⟩) coherent_initial
  have hstart : (StatusWorld.initial env).bare n = 0 := rfl
  omega

/-! ## §5. Every relevant ingress gets a status. -/

/-- There are addresses to write, and they are to be written. -/
def K8sState.HasAddresses (state : K8sState) : Prop :=
  ∀ conf, state.config = some conf → conf.disableStatusUpdate = false
    ∧ ∃ addresses, state.ingressLoadBalancerStatus = some addresses ∧ addresses ≠ []

/-- List calls succeed, every write reaches the API server, and a reconcile has addresses to
write.  An undelivered write is logged and not tried again. -/
def WritesDelivered (w : StatusWorld) : StatusLabel → Prop
  | .reconcile _ delivered _ => delivered = true ∧ w.cluster.sys.state.HasAddresses
  | .cluster l => l ≠ .listFails
  | _ => True

/-- The copy of the worker is the one in the cache, or its name is queued again. -/
def StatusWorld.CopyCurrent (w : StatusWorld) : Prop :=
  ∀ n ingress? named, w.cluster.worker = .fetched n ingress? named →
    w.fetched = w.cached.lookup n ∨ n ∈ w.cluster.queue

/-- The ingress has a status, if it is relevant. -/
def StatusWorld.Reported (w : StatusWorld) (n : NamespacedName) : Prop :=
  ∀ o, w.server.get n = some o → isIngressRelevant w.cluster.sys.state o.value.ingress = true →
    o.value.status ≠ []

/-- The cache has the object that the API server has. -/
def StatusWorld.Observed (w : StatusWorld) (n : NamespacedName) : Prop :=
  w.cached.lookup n = w.server.get n

/-- Every ingress is reported, or an event or a request for it is on its way. -/
def StatusWorld.Reporting (w : StatusWorld) : Prop :=
  ∀ n, w.Observed n → w.cluster.Tracked n ∨ w.Reported n

/-- A step aside keeps the queue, but for the head that the worker takes. -/
theorem queue_aside {k k' : Cluster} {cl : ClusterLabel} (h : ClusterStep ext env load k cl k')
    (hcl : cl.aside = true) {n m : NamespacedName} {ingress? : Option Ingress}
    {named : ∀ i, ingress? = some i → objectMetaToNamespaced i = m}
    (hworker : k'.worker = .fetched m ingress? named) (hn : n ∈ k.queue) : n ∈ k'.queue := by
  cases h with
  | apply i => cases hcl
  | delete n => cases hcl
  | notLoaded _ _ => cases hcl
  | get _ _ => cases hcl
  | reconcile _ => cases hcl
  | take _ _ => cases hworker
  | add _ => exact mem_enqueue.mpr (Or.inr hn)
  | watch m => exact mem_enqueue.mpr (Or.inr hn)
  | requeue _ => exact mem_enqueue.mpr (Or.inr hn)
  | _ => exact hn

/-- The event enqueues the name of its object. -/
theorem observe_queue (hw : w.Coherent) (n : NamespacedName) :
    (w.observe n).cluster.queue = enqueue n w.cluster.queue := by
  unfold StatusWorld.observe
  dsimp only
  cases hget : w.server.get n with
  | some o =>
      show enqueue (objectMetaToNamespaced o.value.ingress) w.cluster.queue = _
      rw [hw.named n o hget]
  | none => rfl

theorem copyCurrent_step (h : StatusStep rule ext env load w l w') (hw : w.Coherent)
    (hcopy : w.CopyCurrent) : w'.CopyCurrent := by
  intro n ingress? named hworker
  cases h with
  | write object => exact hcopy n ingress? named hworker
  | remove m => exact hcopy n ingress? named hworker
  | observe m =>
      rw [observe_worker] at hworker
      rw [observe_queue hw, observe_cached, mem_enqueue]
      show w.fetched = _ ∨ _
      by_cases hn : n = m
      · exact Or.inr (Or.inl hn)
      · rw [if_neg hn]
        exact (hcopy n ingress? named hworker).imp_right Or.inr
  | get hw' hstep =>
      cases hstep with
      | notLoaded _ _ => cases hworker
      | get hw'' _ =>
          rw [hw'] at hw''
          cases hw''
          cases hworker
          exact Or.inl rfl
  | reconcile hstep =>
      cases hstep with
      | reconcile _ => cases hworker
  | cluster haside hstep =>
      have hbefore := (fetchless_step hstep haside).2 n ingress? named hworker
      exact (hcopy n ingress? named hbefore).imp_right fun hn =>
        queue_aside hstep haside hworker hn

/-- **A successful reconcile writes a status that is missing**, if its copy is current. -/
theorem written_of_ok {api : Api} {n : NamespacedName} {o : Versioned IngressObject}
    {named : ∀ i, some o.value.ingress = some i → objectMetaToNamespaced i = n}
    (hworker : w.cluster.worker = .fetched n (some o.value.ingress) named)
    (hfetched : w.fetched = some o) (hget : w.server.get n = some o)
    (hempty : o.value.status = [])
    (hrel : isIngressRelevant w.cluster.sys.state o.value.ingress = true)
    (hok : (reconcile ext api w.cluster.sys.state n (some o.value.ingress)).result = .ok ())
    (haddressed : w.cluster.sys.state.HasAddresses) (hwilling : rule.Willing) :
    w.written rule ext api true = some n := by
  obtain ⟨conf, hconf, hstatus⟩ : ∃ conf, w.cluster.sys.state.config = some conf
      ∧ statusUpdate ext api w.cluster.sys.state o.value.ingress o.value.status
        = ensureActiveIngressStatus conf w.cluster.sys.state.ingressLoadBalancerStatus
          o.value.status := statusUpdate_of_ok hrel hok
  obtain ⟨henabled, addresses, haddresses, hne⟩ := haddressed conf hconf
  have hensure : ensureActiveIngressStatus conf w.cluster.sys.state.ingressLoadBalancerStatus
      o.value.status = some addresses := by
    unfold ensureActiveIngressStatus
    rw [henabled, hempty, haddresses]
    rfl
  have hupdate : w.update ext api
      = some (n, o, { o.value with status := addresses }) := by
    unfold StatusWorld.update
    rw [hworker, hfetched]
    dsimp only
    rw [hstatus, hensure]
    rfl
  have hchanged : ({ o.value with status := addresses } : IngressObject) ≠ o.value := by
    intro heq
    have hsame : addresses = o.value.status := congrArg IngressObject.status heq
    rw [hempty] at hsame
    exact hne hsame
  unfold StatusWorld.written
  rw [hupdate]
  dsimp only
  rw [hget, hwilling o _ hchanged]
  rfl

/-- The status that is written is that of the worker's request. -/
theorem written_request {api : Api} {delivered : Bool} {n m : NamespacedName}
    {ingress? : Option Ingress}
    {named : ∀ i, ingress? = some i → objectMetaToNamespaced i = n}
    (hworker : w.cluster.worker = .fetched n ingress? named)
    (h : w.written rule ext api delivered = some m) : n = m := by
  unfold StatusWorld.written at h
  cases hupdate : w.update ext api with
  | none =>
      rw [hupdate] at h
      cases h
  | some update =>
      obtain ⟨n', copy, object⟩ := update
      obtain ⟨⟨_, _, hworker'⟩, _⟩ := update_eq_some hupdate
      rw [hworker] at hworker'
      cases hworker'
      rw [hupdate] at h
      dsimp only at h
      split_ifs at h
      exact Option.some.inj h

/-- What a step of the cluster does to a name whose object stays as it is. -/
theorem reporting_cluster {cl : ClusterLabel} {n : NamespacedName} (hw : w.Coherent)
    (hstep : ClusterStep ext env load w.cluster cl w'.cluster) (hcl : cl ≠ .listFails)
    (hn : ¬ w.cluster.AtWork cl n) (hget : w'.server.get n = w.server.get n)
    (hobserved : w.Observed n) (hr : w.cluster.Tracked n ∨ w.Reported n) :
    w'.cluster.Tracked n ∨ w'.Reported n := by
  rcases hr with htracked | hreported
  · exact Or.inl (tracked_step hstep hn (fun hl => absurd hl hcl) htracked)
  · by_cases hrel : ∀ o, w.server.get n = some o →
        isIngressRelevant w'.cluster.sys.state o.value.ingress
          = isIngressRelevant w.cluster.sys.state o.value.ingress
    · refine Or.inr fun o ho hrelevant => ?_
      have hbefore : w.server.get n = some o := hget ▸ ho
      refine hreported o hbefore ?_
      rw [← hrel o hbefore]
      exact hrelevant
    · -- the class of the ingress came or went, and the class handler lists
      push Not at hrel
      obtain ⟨o, ho, hne⟩ := hrel
      obtain ⟨c, hc, hlisting⟩ := (relevant_step hstep o.value.ingress).resolve_left hne
      rcases ingresses_step hstep n with hwait | hsame
      · exact Or.inl (Or.inl hwait)
      · refine Or.inl (Or.inr ⟨o.value.ingress, c, ?_, hc, (covers_listing_iff hlisting).mpr rfl⟩)
        rw [hsame, hw.mirrored n, hobserved, ho]
        rfl

/-- A change of other objects leaves the name as it was. -/
theorem reporting_server (hr : w.Reporting) {n : NamespacedName}
    {server : VersionedStore NamespacedName IngressObject}
    (hget : server.get n = w.server.get n)
    (hobserved : StatusWorld.Observed { w with server := server } n) :
    w.cluster.Tracked n ∨ StatusWorld.Reported { w with server := server } n := by
  have hbefore : w.Observed n := hobserved.trans hget
  exact (hr n hbefore).imp_right fun hreported o ho => hreported o (hget ▸ ho)

theorem reporting_observe {m : NamespacedName} (h : StatusStep rule ext env load w (.observe m) w')
    (hw : w.Coherent) (hr : w.Reporting) : w'.Reporting := by
  intro n hobserved
  cases h
  by_cases hn : n = m
  · refine Or.inl (Or.inl (Or.inl ?_))
    rw [observe_queue hw, mem_enqueue]
    exact Or.inl hn
  · have hbefore : w.Observed n := by
      unfold StatusWorld.Observed at hobserved ⊢
      rw [observe_cached, if_neg hn] at hobserved
      exact hobserved
    obtain ⟨cl, hstep, hcl, hwork⟩ : ∃ cl,
        ClusterStep ext env load w.cluster cl (w.observe m).cluster
          ∧ cl ≠ .listFails ∧ ¬ w.cluster.AtWork cl n := by
      unfold StatusWorld.observe
      dsimp only
      cases w.server.get m with
      | some o => exact ⟨_, .apply _ _, by simp, by rintro ⟨_, _, _, hl, _⟩; cases hl⟩
      | none => exact ⟨_, .delete _ _, by simp, by rintro ⟨_, _, _, hl, _⟩; cases hl⟩
    exact reporting_cluster hw hstep hcl hwork rfl hbefore (hr n hbefore)

/-- **A reconcile that writes nothing** leaves its own ingress waiting, or found a status. -/
theorem reported_of_unwritten {api : Api} {k : Cluster} (hw : w.Coherent) (hcopy : w.CopyCurrent)
    (hcurrent : w.cluster.FetchedCurrent) (haddressed : w.cluster.sys.state.HasAddresses)
    (hstep : ClusterStep ext env load w.cluster (.reconcile api) k) {n : NamespacedName}
    (hwork : w.cluster.AtWork (.reconcile api) n) (hobserved : w.Observed n)
    (hwilling : rule.Willing) (hnone : w.written rule ext api true = none) :
    k.Waiting n ∨ ∀ o, w.server.get n = some o →
      isIngressRelevant k.sys.state o.value.ingress = true → o.value.status ≠ [] := by
  obtain ⟨_, ingress?, named, _, hworker⟩ := hwork
  rcases reconcile_step hstep hworker hcurrent with hwait | ⟨_, hok, hstate⟩
  · exact Or.inl hwait
  rcases hcopy n ingress? named hworker with hfetched | hqueued
  · refine Or.inr fun o hget hrel hempty => ?_
    -- the worker reconciled the object that the API server has
    rw [hobserved, hget] at hfetched
    have hseen : some o.value.ingress = ingress? := by
      have hcopied := (hw.fetched n ingress? named hworker).1
      rw [hfetched] at hcopied
      exact hcopied
    subst hseen
    have hbefore : isIngressRelevant w.cluster.sys.state o.value.ingress = true := by
      rw [← relevant_congr (reconcile_frame api w.cluster.sys.state n _ named).1
        (controllerName_reconcile api w.cluster.sys.state n _) o.value.ingress, ← hstate]
      exact hrel
    rw [written_of_ok hworker hfetched hget hempty hbefore hok haddressed hwilling] at hnone
    cases hnone
  · cases hstep with
    | reconcile _ => exact Or.inl (Or.inl hqueued)

theorem reporting_reconcile {api : Api} {k : Cluster} (hw : w.Coherent) (hcopy : w.CopyCurrent)
    (hcurrent : w.cluster.FetchedCurrent) (haddressed : w.cluster.sys.state.HasAddresses)
    (hstep : ClusterStep ext env load w.cluster (.reconcile api) k) (hwilling : rule.Willing)
    (hr : w.Reporting) :
    StatusWorld.Reporting { w with cluster := k, server := w.reported rule ext api true } := by
  intro n hobserved
  have hnow : w.cached.lookup n = (w.reported rule ext api true).get n := hobserved
  rcases @reported_cases rule ext w hw api true with ⟨hsame, hnone⟩
    | ⟨m, copy, object, hwritten, _, _, _, hgiven, hput⟩
  · have hbefore : w.Observed n := by
      rw [hsame] at hnow
      exact hnow
    by_cases hwork : w.cluster.AtWork (.reconcile api) n
    · refine (reported_of_unwritten hw hcopy hcurrent haddressed hstep hwork hbefore hwilling
        hnone).imp Or.inl fun hreported o ho => hreported o ?_
      rw [← hsame]
      exact ho
    · exact reporting_cluster hw hstep (by simp) hwork (by rw [hsame]) hbefore (hr n hbefore)
  · by_cases hn : n = m
    · -- what was written is a status
      refine Or.inr fun o ho _ => ?_
      have hstored : (w.reported rule ext api true).get n = some o := ho
      rw [hput, VersionedStore.get_put, if_pos hn] at hstored
      cases hstored
      exact hgiven
    · have hget : (w.reported rule ext api true).get n = w.server.get n := by
        rw [hput, VersionedStore.get_put, if_neg hn]
      have hwork : ¬ w.cluster.AtWork (.reconcile api) n := by
        rintro ⟨_, ingress?, named, _, hworker⟩
        exact hn (written_request hworker hwritten)
      have hbefore : w.Observed n := hnow.trans hget
      exact reporting_cluster hw hstep (by simp) hwork hget hbefore (hr n hbefore)

/-- **Every ingress stays reported, or on its way.** -/
theorem reporting_step (h : StatusStep rule ext env load w l w') (hguard : WritesDelivered w l)
    (hwilling : rule.Willing) (hw : w.Coherent) (hcopy : w.CopyCurrent)
    (hcurrent : w.cluster.FetchedCurrent) (hr : w.Reporting) : w'.Reporting := by
  cases h with
  | write object =>
      intro n hobserved
      by_cases hn : n = objectMetaToNamespaced object.ingress
      · -- no copy is of the new version
        subst hn
        have hnow : w.cached.lookup (objectMetaToNamespaced object.ingress)
            = (w.server.put (objectMetaToNamespaced object.ingress) object).get
              (objectMetaToNamespaced object.ingress) := hobserved
        cases hcached : w.cached.lookup (objectMetaToNamespaced object.ingress) with
        | none =>
            rw [hcached, VersionedStore.get_put, if_pos rfl] at hnow
            cases hnow
        | some copy =>
            rw [hcached] at hnow
            exact absurd hnow.symm (hw.cached _ copy hcached).get_put_ne
      · exact reporting_server hr (by rw [VersionedStore.get_put, if_neg hn]) hobserved
  | remove m =>
      intro n hobserved
      by_cases hn : n = m
      · refine Or.inr fun o ho _ => ?_
        have hnow : (w.server.remove m).get n = some o := ho
        rw [VersionedStore.get_remove, if_pos hn] at hnow
        cases hnow
      · exact reporting_server hr (by rw [VersionedStore.get_remove, if_neg hn]) hobserved
  | observe m => exact reporting_observe (@StatusStep.observe rule ext env load w m) hw hr
  | get _ hstep =>
      exact fun n hobserved => reporting_cluster hw hstep (by simp)
        (by rintro ⟨_, _, _, hl, _⟩; cases hl) rfl hobserved (hr n hobserved)
  | reconcile hstep =>
      obtain ⟨rfl, haddressed⟩ := hguard
      exact reporting_reconcile hw hcopy hcurrent haddressed hstep hwilling hr
  | cluster haside hstep =>
      refine fun n hobserved => reporting_cluster hw hstep hguard ?_ rfl hobserved (hr n hobserved)
      rintro ⟨_, _, _, rfl, _⟩
      cases haside

theorem fetchedCurrent_status (h : StatusStep rule ext env load w l w')
    (hcurrent : w.cluster.FetchedCurrent) : w'.cluster.FetchedCurrent := by
  rcases status_cluster_step h with heq | ⟨cl, hstep⟩
  · rw [heq]
    exact hcurrent
  · exact fetchedCurrent_step hstep hcurrent

/-- What a run under the guard keeps. -/
structure StatusInv (w : StatusWorld) : Prop where
  coherent : w.Coherent
  copy : w.CopyCurrent
  current : w.cluster.FetchedCurrent
  reporting : w.Reporting

theorem statusInv_initial : StatusInv (StatusWorld.initial env) where
  coherent := coherent_initial
  copy := fun _ _ _ h => by cases h
  current := fun _ _ _ h => by cases h
  reporting := fun n _ => Or.inr fun o ho => by
    rw [show (StatusWorld.initial env).server = .empty from rfl, VersionedStore.get_empty] at ho
    cases ho

theorem statusInv_step (h : StatusStep rule ext env load w l w') (hguard : WritesDelivered w l)
    (hwilling : rule.Willing) (hw : StatusInv w) : StatusInv w' where
  coherent := coherent_step h hw.coherent
  copy := copyCurrent_step h hw.coherent hw.copy
  current := fetchedCurrent_status h hw.current
  reporting := reporting_step h hguard hwilling hw.coherent hw.copy hw.current hw.reporting

/-- **Every relevant ingress gets a status.**  Let list calls succeed, every write of a status
reach the API server, which refuses no write that it may accept, and every reconcile have
addresses to write.  Whatever else happens, and however old the copies are that the writes are
made from: once the cache has caught up and nothing is left to do, no class event included, every
relevant ingress has a status. -/
theorem status_settles {ls : List StatusLabel} (hwilling : rule.Willing)
    (h : Run (Guarded (StatusStep rule ext env load) WritesDelivered) (StatusWorld.initial env) ls
      w) (hdrained : w.cluster.Drained) {n : NamespacedName} (hobserved : w.Observed n)
    {o : Versioned IngressObject} (ho : w.server.get n = some o)
    (hrel : isIngressRelevant w.cluster.sys.state o.value.ingress = true) :
    o.value.status ≠ [] := by
  have hinv : StatusInv w := h.invariant (I := StatusInv)
    (fun _ _ _ hw hstep => statusInv_step hstep.1 hstep.2 hwilling hw) statusInv_initial
  exact (hinv.reporting n hobserved).resolve_left (not_tracked_of_drained hdrained) o ho hrel

end

/-! ## §6. A load balancer with one address. -/

section

variable {rule : WriteRule IngressObject} {ext : Ext} {env : ControllerEnvConf}
  {load : Outside → Except Fail ControllerConf}

/-- A run of the cluster aside is a run with the API server beside it. -/
theorem Run.inStatus {ls : List ClusterLabel} {k k' : Cluster}
    (h : Run (Guarded (ClusterStep ext env load) fun _ l => l.aside = true ∧ l ≠ .listFails)
      k ls k') :
    ∀ w : StatusWorld, w.cluster = k →
      Run (Guarded (StatusStep rule ext env load) WritesDelivered) w (ls.map .cluster)
        { w with cluster := k' } := by
  induction h with
  | nil k =>
      rintro w rfl
      exact .nil _
  | @cons k u k' l ls hstep _ ih =>
      rintro w rfl
      obtain ⟨hstep, haside, hlists⟩ := hstep
      exact .cons ⟨.cluster haside hstep, hlists⟩ (ih { w with cluster := u } rfl)

end

def balancerStatus : List LoadBalancerIngress := [⟨lit "203.0.113.7", []⟩]

/-- The small API server, its services behind a load balancer. -/
def Api.balanced : Api :=
  { Api.small with
    getService := fun _ => .ok ⟨lit "10.0.0.1", [⟨lit "http", 80⟩], balancerStatus⟩ }

def balancedConf : ControllerConf :=
  { smallConf 4096 with upstreamServiceName := some (lit "lb") }

/-- The steps with the load balancer, list calls and writes undisturbed. -/
abbrev BalancedStep : StatusWorld → StatusLabel → StatusWorld → Prop :=
  Guarded (StatusStep .optimistic Ext.small smallEnv fun _ => .ok balancedConf) WritesDelivered

/-- The configuration and the addresses are loaded. -/
def Sys.addressed : Sys :=
  { Sys.initial smallEnv with
    state := { K8sState.new smallEnv.controllerName with
      config := some balancedConf
      ingressLoadBalancerStatus := some balancerStatus }
    run := .select
    reloaded := true }.requestReconfigure

/-- The class is known. -/
def Sys.balanced : Sys := Sys.addressed.addIngressClass smallClass

def StatusWorld.balanced : StatusWorld :=
  { StatusWorld.initial smallEnv with
    cluster := { Cluster.initial smallEnv with sys := Sys.balanced } }

theorem balanced_run : ∃ ls : List ClusterLabel,
    Run BalancedStep (StatusWorld.initial smallEnv) (ls.map .cluster) StatusWorld.balanced := by
  obtain ⟨order⟩ : Nonempty (GoMap.RangeChoice GoString OidcClientYaml) := inferInstance
  let outside : Outside := ⟨Api.balanced, fun _ => .ok [], order⟩
  have hinit : Run (Step Ext.small smallEnv fun _ => .ok balancedConf) (Sys.initial smallEnv)
      (initUpdates outside) Sys.addressed :=
    .cons (.initUpdate rfl rfl) (.cons (.initUpdate rfl rfl)
      (.cons (.initUpdate rfl rfl) (.cons (.initUpdate rfl rfl) (.nil _))))
  let k₁ : Cluster := { Cluster.initial smallEnv with sys := Sys.addressed }
  let k₂ : Cluster := { Cluster.initial smallEnv with sys := Sys.balanced }
  have h₁ : Run (Guarded (ClusterStep Ext.small smallEnv fun _ => .ok balancedConf)
      fun _ l => l.aside = true ∧ l ≠ .listFails) (Cluster.initial smallEnv) _ k₁ :=
    Run.inCluster (fun _ _ => ⟨rfl, by simp⟩) hinit (by simp [initUpdates, Label.internal]) _ rfl
  obtain ⟨ls₂, h₂⟩ : ∃ ls, Run (Guarded (ClusterStep Ext.small smallEnv fun _ => .ok balancedConf)
      fun _ l => l.aside = true ∧ l ≠ .listFails) { k₂ with handler := .listing (lit "c") } ls k₂ :=
    list_run (lit "c") [] (fun _ _ => ⟨rfl, by simp⟩) (fun _ => ⟨rfl, by simp⟩)
      (fun _ => ⟨rfl, by simp⟩) rfl GoMap.ranges_empty
  exact ⟨_, Run.inStatus (h₁.append (.cons ⟨.classCreated smallClass rfl, rfl, by simp⟩ h₂)) _ rfl⟩

/-- The small ingress without a status, and as somebody else gives it one. -/
def bareObject : IngressObject := ⟨smallIngress, []⟩

def foreignObject : IngressObject := ⟨smallIngress, [⟨lit "198.51.100.1", []⟩]⟩

/-- The ingress is created, and the worker has a copy of it. -/
def StatusWorld.copied : StatusWorld :=
  let w : StatusWorld :=
    { StatusWorld.balanced with server := StatusWorld.balanced.server.put smallName bareObject }
  { w.observe smallName with
    cluster := { (w.observe smallName).cluster with
      queue := []
      worker := .fetched smallName ((w.observe smallName).cluster.ingresses.lookup smallName)
        ((w.observe smallName).cluster.named smallName) }
    fetched := (w.observe smallName).cached.lookup smallName }

theorem copied_run : Run BalancedStep StatusWorld.balanced
    [.write bareObject, .observe smallName, .cluster .take, .get] StatusWorld.copied := by
  refine .cons ⟨.write _ _, trivial⟩ (.cons ⟨.observe _ _, trivial⟩ ?_)
  exact .cons ⟨.cluster rfl (.take rfl rfl), by simp [WritesDelivered]⟩
    (.single ⟨.get rfl (.get rfl rfl), trivial⟩)

theorem hasAddresses_of_balanced {state : K8sState} (hconf : state.config = some balancedConf)
    (hstatus : state.ingressLoadBalancerStatus = some balancerStatus) : state.HasAddresses := by
  intro conf h
  rw [hconf] at h
  cases h
  exact ⟨rfl, balancerStatus, hstatus, by decide⟩

/-- The worker writes the status, and its own write comes back as an event. -/
theorem settled_run : ∃ w, Run BalancedStep StatusWorld.copied
      [.reconcile Api.balanced true (some smallName), .observe smallName, .cluster .take, .get,
        .reconcile Api.balanced true none] w
    ∧ w.cluster.Drained ∧ w.Observed smallName
    ∧ w.server.get smallName = some ⟨2, ⟨smallIngress, balancerStatus⟩⟩
    ∧ isIngressRelevant w.cluster.sys.state smallIngress = true := by
  refine ⟨_, .cons ⟨.reconcile (.reconcile rfl), rfl, hasAddresses_of_balanced rfl rfl⟩
    (.cons ⟨.observe _ _, trivial⟩ (.cons ⟨.cluster rfl (.take rfl rfl), by simp [WritesDelivered]⟩
      (.cons ⟨.get rfl (.get rfl rfl), trivial⟩
        (.single ⟨.reconcile (.reconcile rfl), rfl, hasAddresses_of_balanced rfl rfl⟩)))),
    ⟨rfl, rfl, rfl, rfl⟩, rfl, rfl, rfl⟩

/-- Somebody else gives the ingress a status while the worker has a copy without one; the
worker's write is refused. -/
theorem status_kept_conflict : ∃ ls w w',
    Run (StatusStep .optimistic Ext.small smallEnv fun _ => .ok balancedConf)
        (StatusWorld.initial smallEnv) ls w
      ∧ StatusStep .optimistic Ext.small smallEnv (fun _ => .ok balancedConf) w
          (.reconcile Api.balanced true none) w'
      ∧ w.update Ext.small Api.balanced
          = some (smallName, ⟨1, bareObject⟩, ⟨smallIngress, balancerStatus⟩)
      ∧ w'.server.get smallName = some ⟨2, foreignObject⟩ := by
  obtain ⟨ls, hboot⟩ := balanced_run
  have hwrite : BalancedStep StatusWorld.copied (.write foreignObject)
      { StatusWorld.copied with server := StatusWorld.copied.server.put smallName foreignObject } :=
    ⟨.write _ _, trivial⟩
  have hrun := (hboot.append (copied_run.append (.single hwrite))).of_guarded
  have hstep : StatusStep .optimistic Ext.small smallEnv (fun _ => .ok balancedConf)
      { StatusWorld.copied with server := StatusWorld.copied.server.put smallName foreignObject }
      (.reconcile Api.balanced true none) _ := .reconcile (.reconcile rfl)
  exact ⟨_, _, _, hrun, hstep, rfl, status_kept hrun hstep rfl (by decide)⟩

/-- Two reconciles of an ingress that was created without a status write it once. -/
theorem status_writes_le_once : ∃ ls w,
    Run (StatusStep .optimistic Ext.small smallEnv fun _ => .ok balancedConf)
        (StatusWorld.initial smallEnv) ls w
      ∧ 1 ≤ ls.countP (StatusLabel.writes smallName)
      ∧ ls.countP (StatusLabel.writes smallName) ≤ ls.countP (StatusLabel.empties smallName) := by
  obtain ⟨ls, hboot⟩ := balanced_run
  obtain ⟨w, hsettled, _⟩ := settled_run
  have hrun := (hboot.append (copied_run.append hsettled)).of_guarded
  refine ⟨_, w, hrun, ?_, status_writes_le hrun smallName⟩
  rw [List.countP_append]
  exact Nat.le_add_left _ _

/-- The status is there once the event of the write is handled. -/
theorem status_settles_balanced : ∃ ls w,
    Run BalancedStep (StatusWorld.initial smallEnv) ls w ∧ w.cluster.Drained
      ∧ w.Observed smallName
      ∧ w.server.get smallName = some ⟨2, ⟨smallIngress, balancerStatus⟩⟩
      ∧ balancerStatus ≠ [] := by
  obtain ⟨ls, hboot⟩ := balanced_run
  obtain ⟨w, hsettled, hdrained, hobserved, hget, hrel⟩ := settled_run
  have hrun := hboot.append (copied_run.append hsettled)
  exact ⟨_, w, hrun, hdrained, hobserved, hget, status_settles
    WriteRule.optimistic_willing hrun hdrained hobserved hget hrel⟩

end SIngress.Controller
