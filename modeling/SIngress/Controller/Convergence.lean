/-
  SIngress.Controller.Convergence — THE ORDER OF EVENTS DOES NOT MATTER.

  Ingresses and classes come and go while the worker reconciles: an ingress may
  be reconciled before its class is known, after it vanished, or from an object
  that has changed since.  The invariant: every ingress whose configuration is
  not what the current objects say is tracked (`converging_step`).  So once no
  request is left, the history alone decides who is configured:

    • `configured_iff_of_drained` — those that exist and whose class is a current
                                    class of this controller.
-/
import SIngress.Controller.Tracking

namespace SIngress.Controller

open SIngress.Base SIngress.Lib SIngress.K8s SIngress.Platform SIngress.Config SIngress.Proxy
open SIngress.Modules

/-! ## §1. What a history of events leaves. -/

/-- One event of an ingress. -/
def ingressEvent (ingresses : GoMap NamespacedName Ingress) :
    ClusterLabel → GoMap NamespacedName Ingress
  | .apply i => ingresses.insert (objectMetaToNamespaced i) i
  | .delete n => ingresses.erase n
  | _ => ingresses

/-- One event of a class. -/
def classEvent (classes : GoMap GoString IngressClass) :
    ClusterLabel → GoMap GoString IngressClass
  | .classCreated cls => classes.insert cls.name cls
  | .classDeleted name => classes.erase name
  | _ => classes

/-- The ingresses that exist after the events. -/
def ingressesAfter (ls : List ClusterLabel) : GoMap NamespacedName Ingress :=
  ls.foldl ingressEvent ∅

/-- The classes that exist after the events. -/
def classesAfter (ls : List ClusterLabel) : GoMap GoString IngressClass :=
  ls.foldl classEvent ∅

section

variable {ext : Ext} {env : ControllerEnvConf} {load : Outside → Except Fail ControllerConf}
  {k k' : Cluster} {l : ClusterLabel} {n : NamespacedName}

theorem classes_removeIngressClass (s : Sys) (name : GoString) :
    (s.removeIngressClass name).state.controllerClasses = s.state.controllerClasses.erase name := by
  refine Finmap.ext_lookup fun c => ?_
  rw [(state_removeIngressClass s name).2 c, GoMap.lookup_erase_eq]

/-- A reconcile keeps the name of the controller. -/
theorem controllerName_reconcile (api : Api) (state : K8sState) (n : NamespacedName)
    (ingress? : Option Ingress) :
    (reconcile ext api state n ingress?).state.controllerName = state.controllerName := by
  have houtcome := reconcile_outcome ext api state n ingress?
  generalize reconcile ext api state n ingress? = r at houtcome
  cases houtcome <;> rfl

theorem controllerName_removeIngressClass (s : Sys) (name : GoString) :
    (s.removeIngressClass name).state.controllerName = s.state.controllerName := by
  unfold Sys.removeIngressClass
  rw [(whenRelevant_fields _ _).1]
  show (s.state.removeIngressClass name).1.controllerName = _
  unfold K8sState.removeIngressClass
  cases s.state.controllerClasses.lookup name <;> rfl

/-- A step does to the objects what its event says, and keeps the controller's name. -/
theorem history_step (h : ClusterStep ext env load k l k') :
    k'.ingresses = ingressEvent k.ingresses l
      ∧ k'.sys.state.controllerClasses = classEvent k.sys.state.controllerClasses l
      ∧ k'.sys.state.controllerName = k.sys.state.controllerName := by
  cases h with
  -- the class handler changes the state of the controller in the same step
  | classDeleted name _ =>
      exact ⟨rfl, classes_removeIngressClass k.sys name,
        controllerName_removeIngressClass k.sys name⟩
  | @reconcile n ingress? named api _ =>
      dsimp only
      rw [state_reconcileIngress]
      exact ⟨rfl, (reconcile_frame api k.sys.state n ingress? named).1,
        controllerName_reconcile api k.sys.state n ingress?⟩
  | sys hl hs => exact ⟨rfl, (internal_state hs hl).2⟩
  | _ => exact ⟨rfl, rfl, rfl⟩

/-- **The objects after a run are those of its history.** -/
theorem history_run {ls : List ClusterLabel} (h : Run (ClusterStep ext env load) k ls k') :
    k'.ingresses = ls.foldl ingressEvent k.ingresses
      ∧ k'.sys.state.controllerClasses = ls.foldl classEvent k.sys.state.controllerClasses
      ∧ k'.sys.state.controllerName = k.sys.state.controllerName := by
  induction h with
  | nil k => exact ⟨rfl, rfl, rfl⟩
  | cons hstep _ ih =>
      obtain ⟨hing, hcls, hname⟩ := history_step hstep
      obtain ⟨hing', hcls', hname'⟩ := ih
      rw [hing', hcls', hname', hing, hcls, hname]
      exact ⟨rfl, rfl, rfl⟩

/-! ## §2. Up to date, or tracked. -/

/-- The ingress has a configuration exactly if it exists and is relevant now. -/
def Cluster.UpToDate (k : Cluster) (n : NamespacedName) : Prop :=
  k.sys.state.configured n ≠ none ↔
    ∃ i, k.ingresses.lookup n = some i ∧ isIngressRelevant k.sys.state i = true

/-- Every ingress is up to date or on its way to the worker. -/
def Cluster.Converging (k : Cluster) : Prop := ∀ n, k.UpToDate n ∨ k.Tracked n

/-- List calls succeed. -/
def ListsSucceed (_ : Cluster) (l : ClusterLabel) : Prop := l ≠ .listFails

/-- The relevance of an ingress changes only with its class, and then the class handler is
about to list the ingresses of that class. -/
theorem relevant_step (h : ClusterStep ext env load k l k') (i : Ingress) :
    isIngressRelevant k'.sys.state i = isIngressRelevant k.sys.state i
      ∨ ∃ c, i.ingressClassName = some c ∧ k'.handler = .listing c := by
  obtain ⟨_, hcls, hname⟩ := history_step h
  -- the lookup of the class of `i` decides
  by_cases hclass : ∀ c, i.ingressClassName = some c →
      k'.sys.state.controllerClasses.lookup c = k.sys.state.controllerClasses.lookup c
  · refine Or.inl ?_
    unfold isIngressRelevant
    cases hi : i.ingressClassName with
    | none => rfl
    | some c =>
        dsimp only
        rw [hclass c hi, hname]
  · refine Or.inr ?_
    push Not at hclass
    obtain ⟨c, hi, hne⟩ := hclass
    rw [hcls] at hne
    refine ⟨c, hi, ?_⟩
    -- only the two class events change that lookup
    cases h with
    | classCreated cls _ =>
        have hc : c = cls.name := by
          by_contra hc
          exact hne (Finmap.lookup_insert_of_ne _ hc)
        rw [hc]
    | classDeleted name _ =>
        have hc : c = name := by
          by_contra hc
          exact hne (Finmap.lookup_erase_ne hc)
        rw [hc]
    | _ => exact absurd rfl hne

/-- A successful reconcile leaves a configuration exactly if the ingress it saw is
relevant. -/
theorem reconcile_upToDate {api : Api} {state : K8sState} {ingress? : Option Ingress}
    (hnamed : ∀ i, ingress? = some i → objectMetaToNamespaced i = n)
    (hok : (reconcile ext api state n ingress?).result = .ok ()) :
    (reconcile ext api state n ingress?).state.configured n ≠ none ↔
      ∃ i, ingress? = some i ∧ isIngressRelevant state i = true := by
  constructor
  · intro hcfg
    refine (reconcile_configured api state n ingress? hnamed hcfg).resolve_left ?_
    rintro ⟨f, hf⟩
    rw [hok] at hf
    cases hf
  · rintro ⟨i, rfl, hrel⟩
    have houtcome := reconcile_outcome ext api state n (some i)
    generalize reconcile ext api state n (some i) = r at houtcome hok ⊢
    cases houtcome with
    | noted hirr _ => rw [hirr] at hrel; cases hrel
    | cleared hirr _ => rw [hirr] at hrel; cases hrel
    | failed _ _ => cases hok
    | configured _ _ _ =>
        rw [configured_updateIngress, if_pos (hnamed i rfl).symm]
        exact Option.some_ne_none _

/-- **Every ingress stays up to date or tracked.** -/
theorem converging_step (h : ClusterStep ext env load k l k') (hlists : ListsSucceed k l)
    (hcurrent : k.FetchedCurrent) (hk : k.Converging) : k'.Converging := by
  intro n
  rcases ingresses_step h n with hwait | hsame
  · exact Or.inr (Or.inl hwait)
  -- the worker's call decides about `n`; any other step keeps what is configured
  · by_cases hat : k.AtWork l n
    · obtain ⟨api, ingress?, named, rfl, hw⟩ := hat
      rcases reconcile_step h hw hcurrent with hwait | ⟨hnow, hok, hstate⟩
      · exact Or.inr (Or.inl hwait)
      · -- the reconcile saw the current ingress under the current classes
        refine Or.inl ?_
        unfold Cluster.UpToDate
        have hrel : ∀ i, isIngressRelevant (reconcile ext api k.sys.state n ingress?).state i
            = isIngressRelevant k.sys.state i :=
          relevant_congr (reconcile_frame api k.sys.state n ingress? named).1
            (controllerName_reconcile api k.sys.state n ingress?)
        rw [hstate, ← hnow, reconcile_upToDate named hok]
        simp only [hrel]
    · by_cases hrel : ∀ i, k.ingresses.lookup n = some i →
          isIngressRelevant k'.sys.state i = isIngressRelevant k.sys.state i
      -- neither the ingress nor its relevance changed
      · rcases hk n with huptodate | htracked
        · refine Or.inl ?_
          unfold Cluster.UpToDate at huptodate ⊢
          rw [configured_step h hat, hsame, huptodate]
          refine exists_congr fun i => and_congr_right fun hi => ?_
          rw [hrel i hi]
        · exact Or.inr (tracked_step h hat (fun hl => absurd hl hlists) htracked)
      · -- the class of the ingress came or went
        push Not at hrel
        obtain ⟨i, hi, hne⟩ := hrel
        obtain ⟨c, hc, hlisting⟩ := (relevant_step h i).resolve_left hne
        exact Or.inr (Or.inr ⟨i, c, hsame.trans hi, hc, (covers_listing_iff hlisting).mpr rfl⟩)

theorem converging_initial : (Cluster.initial env).Converging := by
  intro n
  refine Or.inl ⟨fun hcfg => absurd ?_ hcfg, ?_⟩
  · unfold K8sState.configured
    rw [show (Cluster.initial env).sys.state.ingresses = ∅ from rfl, Finmap.lookup_empty]
    rfl
  · rintro ⟨i, hi, _⟩
    rw [show (Cluster.initial env).ingresses = ∅ from rfl, Finmap.lookup_empty] at hi
    cases hi

/-! ## §3. Nothing left to do. -/

/-- No request is queued, delayed or being processed, and no class event is being
handled. -/
structure Cluster.Drained (k : Cluster) : Prop where
  queue : k.queue = []
  delayed : k.delayed = []
  worker : k.worker = .idle
  handler : k.handler = .idle

theorem not_tracked_of_drained (h : k.Drained) : ¬ k.Tracked n := by
  rintro ((hq | hd | hr) | ⟨i, c, _, _, hcov⟩)
  · rw [h.queue] at hq
    cases hq
  · rw [h.delayed] at hd
    cases hd
  · rw [h.worker] at hr
    cases hr
  · exact not_covers_of_idle h.handler hcov

/-- An ingress is relevant if its class is known and names the controller. -/
theorem isIngressRelevant_iff {state : K8sState} {i : Ingress} :
    isIngressRelevant state i = true ↔ ∃ c cls, i.ingressClassName = some c
      ∧ state.controllerClasses.lookup c = some cls ∧ cls.controller = state.controllerName := by
  unfold isIngressRelevant
  cases i.ingressClassName with
  | none => simp
  | some c =>
      cases hc : state.controllerClasses.lookup c with
      | none => simp [hc]
      | some cls => simp [hc]

/-- **Convergence.**  After any history of ingress and class events, interleaved with the
worker and the class handler in any way: once nothing is left to do, an ingress has an entry
with a configuration if and only if it exists and its class is a current class of this
controller. -/
theorem configured_iff_of_drained {ls : List ClusterLabel}
    (h : Run (Guarded (ClusterStep ext env load) ListsSucceed) (Cluster.initial env) ls k)
    (hdrained : k.Drained) (n : NamespacedName) :
    (∃ e, k.sys.state.ingresses.lookup n = some e ∧ e.configuration ≠ none) ↔
      ∃ i c cls, (ingressesAfter ls).lookup n = some i ∧ i.ingressClassName = some c
        ∧ (classesAfter ls).lookup c = some cls ∧ cls.controller = env.controllerName := by
  obtain ⟨_, hconverging⟩ : k.FetchedCurrent ∧ k.Converging := by
    -- the worker must not hold a stale copy, so both invariants go together
    refine h.invariant (I := fun k => k.FetchedCurrent ∧ k.Converging) ?_
      ⟨fun n ingress? named hw => (by cases hw), converging_initial⟩
    intro k l k' hk hstep
    exact ⟨fetchedCurrent_step hstep.1 hk.1, converging_step hstep.1 hstep.2 hk.1 hk.2⟩
  obtain ⟨hing, hcls, hname⟩ := history_run h.of_guarded
  have huptodate := (hconverging n).resolve_right (not_tracked_of_drained hdrained)
  unfold Cluster.UpToDate at huptodate
  have hentry : k.sys.state.configured n ≠ none ↔
      ∃ e, k.sys.state.ingresses.lookup n = some e ∧ e.configuration ≠ none := by
    unfold K8sState.configured
    cases k.sys.state.ingresses.lookup n with
    | none => simp
    | some e => simp
  rw [← hentry, huptodate]
  simp only [isIngressRelevant_iff, hing, hcls, hname]
  constructor
  · rintro ⟨i, hi, c, cls, hc, hlook, hctrl⟩
    exact ⟨i, c, cls, hi, hc, hlook, hctrl⟩
  · rintro ⟨i, c, cls, hi, hc, hlook, hctrl⟩
    exact ⟨i, hi, c, cls, hc, hlook, hctrl⟩

end

/-- In the small cluster the ingress of the class is configured. -/
theorem configured_iff_of_drained_small : ∃ ls k,
    Run (SmallStep ListsSucceed) (Cluster.initial smallEnv) ls k ∧ k.Drained
      ∧ (∃ e, k.sys.state.ingresses.lookup smallName = some e ∧ e.configuration ≠ none)
      ∧ ∃ i c cls, (ingressesAfter ls).lookup smallName = some i ∧ i.ingressClassName = some c
        ∧ (classesAfter ls).lookup c = some cls ∧ cls.controller = smallEnv.controllerName := by
  obtain ⟨ls, cfg₀, cfg₁, hrun⟩ : ∃ ls cfg₀ cfg₁, Run (SmallStep ListsSucceed)
      (Cluster.initial smallEnv) ls (Cluster.small cfg₀ cfg₁) :=
    small_cluster_run (fun _ _ _ hl => hl) fun _ _ => by simp [ListsSucceed]
  have hdrained : (Cluster.small cfg₀ cfg₁).Drained := ⟨rfl, rfl, rfl, rfl⟩
  have hentry : ∃ e, (Cluster.small cfg₀ cfg₁).sys.state.ingresses.lookup smallName = some e
      ∧ e.configuration ≠ none := by
    refine ⟨⟨smallIngress, some (smallConfiguration 4096)⟩, ?_, Option.some_ne_none _⟩
    show (Sys.small cfg₀).state.ingresses.lookup smallName = _
    rw [(small_state cfg₀).2, Finmap.lookup_insert]
  exact ⟨ls, _, hrun, hdrained, hentry,
    (configured_iff_of_drained hrun hdrained smallName).mp hentry⟩

end SIngress.Controller
