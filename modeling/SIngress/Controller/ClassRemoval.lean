/-
  SIngress.Controller.ClassRemoval — REMOVING A CLASS takes its routes out of
  service, as long as no configuration is dropped UNSEEN.

  The delete handler of a class changes the class table, requests a rebuild and
  enqueues the ingresses of the class; the worker then clears their
  configurations.  But `markIngressIrrelevant` and `removeIngress` decide on the
  rebuild by the class table as it is NOW, and the class is gone from it: the
  worker requests nothing.  If `Run` served the request of the delete handler
  before, the routes stay in service (`removed_class_served`).  Whenever a
  configuration is dropped that way while a request is pending, they go
  (`removed_class_unserved`).
-/
import SIngress.Controller.PublishedTable
import SIngress.Controller.Tracking

namespace SIngress.Controller

open SIngress.Base SIngress.Lib SIngress.K8s SIngress.Platform SIngress.Config SIngress.Proxy
open SIngress.Modules

/-! ## §1. Dropped configurations are not served. -/

/-- No route of an ingress without a configuration. -/
def ServesConfigured (s : Sys) (conf? : Option RoutingConfig) : Prop :=
  ∀ i, s.state.configured (objectMetaToNamespaced i) = none → ∀ conf, conf? = some conf →
    ∀ h, ∀ r ∈ routesUnder conf.hosts h, r.ingressName ≠ (objectMetaToNamespaced i).string

/-- A reconcile of `n` drops a configuration whose recorded ingress is irrelevant by now:
it will not request a rebuild. -/
def DropsUnseen (s : Sys) (n : NamespacedName) (ingress? : Option Ingress) : Prop :=
  ∃ e, s.state.ingresses.lookup n = some e ∧ e.configuration.isSome = true
    ∧ isIngressRelevant s.state e.ingress = false
    ∧ ∀ i, ingress? = some i → isIngressRelevant s.state i = false

/-- A rebuild from the current state is to come. -/
def Sys.WillBuild (s : Sys) : Prop := s.Pending ∨ s.run = .build

section

variable {ext : Ext} {env : ControllerEnvConf} {load : Outside → Except Fail ControllerConf}

/-- A build serves configured ingresses only. -/
theorem servesConfigured_build {s : Sys} (hs : s.Valid ext) {vs : List EntryVisit}
    {conf : RoutingConfig} (hvs : Visits s.state.ingresses vs)
    (hconf : getProxyConfig s.state vs = .ok conf) : ServesConfigured s (some conf) := by
  rintro i hnone conf' heq h r hr hname
  cases heq
  obtain ⟨_, _, _, _, rfl⟩ := getProxyConfig_eq_ok.mp hconf
  obtain ⟨_, v, hv, hsome, hv'⟩ := published_route hs hvs (mem_routesUnder_hostsOf.mp hr)
  -- the route's name is the name of a configured entry
  have hsame := objectMetaToNamespaced_inj (hv'.symm.trans hname)
  rw [(hs _ _ (hvs.lookup hv)).keyed] at hsame
  unfold K8sState.configured at hnone
  rw [← hsame, hvs.lookup hv] at hnone
  rw [show v.entry.configuration = none from hnone] at hsome
  cases hsome

/-- A reconcile of `n` that nobody will notice had nothing to drop. -/
theorem configured_none_of_unseen {s : Sys} {n : NamespacedName} {e : IngressEntry}
    {ingress? : Option Ingress} (he : s.state.ingresses.lookup n = some e)
    (hrel : isIngressRelevant s.state e.ingress ≠ true)
    (hirr : ∀ i, ingress? = some i → isIngressRelevant s.state i = false)
    (hseen : DropsUnseen s n ingress? → s.WillBuild) (hb : ¬ s.WillBuild) :
    s.state.configured n = none := by
  cases hcfg : e.configuration with
  | none =>
      unfold K8sState.configured
      rw [he]
      exact hcfg
  | some cfg =>
      refine absurd (hseen ⟨e, he, ?_, Bool.not_eq_true _ ▸ hrel, hirr⟩) hb
      rw [hcfg]
      rfl

/-- What the system keeps, step by step. -/
theorem servesConfigured_step {s t : Sys} {l : Label} (h : Step ext env load s l t)
    (hs : s.Valid ext)
    (hseen : ∀ api n ingress?, l = .reconcile api n ingress? →
      (∀ i, ingress? = some i → objectMetaToNamespaced i = n)
        ∧ (DropsUnseen s n ingress? → s.WillBuild))
    (hpub : Published ServesConfigured s) : Published ServesConfigured t := by
  refine published_step (fun vs conf? _ hvs hconf => ?_) (fun hp hb hp' conf? hP i hnone => ?_)
    h hpub
  · -- a new build reads the entries as they are
    cases conf? with
    | some conf => exact servesConfigured_build hs hvs hconf
    | none =>
        rintro i _ conf heq
        cases heq
  · -- no build is to come, so no entry may lose its configuration without being seen
    have hwill : ¬ s.WillBuild := fun hw => hw.elim hp hb
    refine hP i ?_
    cases step_change h with
    | same hstate _ _ => rw [← hstate]; exact hnone
    | @removed api n e he hstate _ _ hreq =>
        rw [hstate, configured_erase] at hnone
        split_ifs at hnone with hn
        · rw [hn]
          refine configured_none_of_unseen he (fun hrel => hp' (hreq hrel)) ?_
            (hseen api n none rfl).2 hwill
          rintro i hi
          cases hi
        · exact hnone
    | @cleared api n ingress hirr hstate _ _ hreq =>
        obtain ⟨hnamed, hdrop⟩ := hseen api n (some ingress) rfl
        have hname := hnamed ingress rfl
        rw [hstate, configured_updateIngress] at hnone
        split_ifs at hnone with hn
        · cases he : s.state.ingresses.lookup n with
          | none =>
              unfold K8sState.configured
              rw [hn, hname, he]
              rfl
          | some e =>
              rw [hn, hname]
              refine configured_none_of_unseen he (fun hrel => hp' (hreq e (hname ▸ he) hrel)) ?_
                hdrop hwill
              rintro i hi
              cases hi
              exact hirr
        · exact hnone
    | @configured api n ingress conf cfg _ _ _ hstate _ _ hreq => exact absurd hreq hp'
    | classAdded _ _ _ hreq => exact absurd hreq hp'
    | classRemoved _ _ _ hreq => exact absurd hreq hp'
    | updated hok hstate _ _ _ =>
        rw [hstate, configured_congr (update_frame hok).1.1] at hnone
        exact hnone

/-! ## §2. Every ingress of the class is on its way to the worker. -/

/-- Every configured ingress of class `c` is on its way to the worker. -/
def Cluster.Covered (k : Cluster) (c : GoString) : Prop :=
  ∀ n i, k.ingresses.lookup n = some i → i.ingressClassName = some c →
    k.sys.state.configured n ≠ none → k.Waiting n ∨ k.HandlerCovers c n

/-- The class is unknown to the controller. -/
def Cluster.ClassGone (k : Cluster) (c : GoString) : Prop :=
  k.sys.state.controllerClasses.lookup c = none

/-- The class is not added again, and listing its ingresses succeeds. -/
def Assumed (c : GoString) (k : Cluster) : ClusterLabel → Prop
  | .classCreated cls => cls.name ≠ c
  | .listFails => k.handler ≠ .listing c
  | _ => True

theorem classGone_step {k k' : Cluster} {l : ClusterLabel} {c : GoString}
    (h : ClusterStep ext env load k l k') (hassumed : Assumed c k l) (hk : k.ClassGone c) :
    k'.ClassGone c := by
  cases h with
  | classCreated cls _ => exact (Finmap.lookup_insert_of_ne _ (Ne.symm hassumed)).trans hk
  | classDeleted name _ =>
      refine ((state_removeIngressClass k.sys name).2 c).trans ?_
      split_ifs
      · rfl
      · exact hk
  | @reconcile n ingress? named api _ =>
      unfold Cluster.ClassGone
      rw [state_reconcileIngress, (reconcile_frame api k.sys.state n ingress? named).1]
      exact hk
  | sys hl hs =>
      unfold Cluster.ClassGone
      rw [(internal_state hs hl).2.1]
      exact hk
  | _ => exact hk

/-- An ingress whose class is gone is irrelevant. -/
theorem irrelevant_of_gone {state : K8sState} {c : GoString}
    (hgone : state.controllerClasses.lookup c = none) {i : Ingress}
    (hi : i.ingressClassName = some c) : isIngressRelevant state i = false := by
  unfold isIngressRelevant
  rw [hi]
  dsimp only
  rw [hgone]

/-- Every ingress of the class stays on its way to the worker. -/
theorem covered_step {k k' : Cluster} {l : ClusterLabel} {c : GoString}
    (h : ClusterStep ext env load k l k') (hassumed : Assumed c k l) (hgone : k.ClassGone c)
    (hcurrent : k.FetchedCurrent) (hk : k.Covered c) : k'.Covered c := by
  intro n i hn hi hcfg
  rcases ingresses_step h n with hwait | hsame
  · exact Or.inl hwait
  · rw [hsame] at hn
    by_cases hat : k.AtWork l n
    · -- the worker clears the ingress, unless it is still to come back
      obtain ⟨api, ingress?, named, rfl, hw⟩ := hat
      refine Or.inl ((reconcile_step h hw hcurrent).resolve_right ?_)
      rintro ⟨hnow, hok, hstate⟩
      rw [hstate] at hcfg
      rcases reconcile_configured api k.sys.state n ingress? named hcfg with
        ⟨f, hf⟩ | ⟨j, hj, hrel⟩
      · rw [hok] at hf
        cases hf
      · rw [hsame, hn, hj] at hnow
        cases hnow
        rw [irrelevant_of_gone hgone hi] at hrel
        cases hrel
    · rw [configured_step h hat] at hcfg
      have htracked : k.Tracked n := (hk n i hn hi hcfg).imp_right fun hcov => ⟨i, c, hn, hi, hcov⟩
      refine (tracked_step h hat ?_ htracked).imp_right ?_
      · rintro rfl i' c' hn' hi' hlisting
        rw [hn] at hn'
        cases hn'
        rw [hi] at hi'
        cases hi'
        exact hassumed hlisting
      · rintro ⟨i', c', hn', hi', hcov⟩
        rw [hsame, hn] at hn'
        cases hn'
        rw [hi] at hi'
        cases hi'
        exact hcov

/-! ## §3. Removal. -/

/-- The step drops no configuration unseen, unless a rebuild is to come. -/
def Seen (k : Cluster) : ClusterLabel → Prop
  | .reconcile _ => ∀ n ingress? named, k.worker = .fetched n ingress? named →
      DropsUnseen k.sys n ingress? → k.sys.WillBuild
  | _ => True

/-- Everything that the removal of the class caused has been processed. -/
structure Cluster.Done (k : Cluster) (c : GoString) : Prop where
  quiet : k.sys.Quiet
  handler : k.handler = .idle
  requests : ∀ n i, k.ingresses.lookup n = some i → i.ingressClassName = some c → ¬ k.Waiting n

/-- The proxy holds no route of an ingress of the class. -/
def Cluster.OutOfService (k : Cluster) (c : GoString) : Prop :=
  ∀ n i, k.ingresses.lookup n = some i → i.ingressClassName = some c →
    ∀ conf, k.sys.stored = some conf → ∀ h, ∀ r ∈ routesUnder conf.hosts h,
      r.ingressName ≠ n.string

/-- What every cluster keeps whose steps drop nothing unseen. -/
structure SeenInv (ext : Ext) (k : Cluster) : Prop where
  valid : k.sys.Valid ext
  current : k.FetchedCurrent
  serves : Published ServesConfigured k.sys

theorem seenInv_initial : SeenInv ext (Cluster.initial env) where
  valid := valid_initial
  current := fun n ingress? named hw => by cases hw
  serves := Or.inr (Or.inr fun i _ conf heq => by cases heq)

theorem serves_step {k k' : Cluster} {l : ClusterLabel} (h : ClusterStep ext env load k l k')
    (hseen : Seen k l) (hvalid : k.sys.Valid ext) (hk : Published ServesConfigured k.sys) :
    Published ServesConfigured k'.sys := by
  cases h with
  | classCreated cls _ =>
      have hs : Step ext env load k.sys (.addClass cls) (k.sys.addIngressClass cls) := .addClass _ _
      exact servesConfigured_step hs hvalid (fun _ _ _ hl => by cases hl) hk
  | classDeleted name _ =>
      have hs : Step ext env load k.sys (.removeClass name) (k.sys.removeIngressClass name) :=
        .removeClass _ _
      exact servesConfigured_step hs hvalid (fun _ _ _ hl => by cases hl) hk
  | @reconcile n ingress? named api hw =>
      have hs : Step ext env load k.sys (.reconcile api n ingress?)
          (k.sys.reconcileIngress ext api n ingress?) := .reconcile _ _ _ _
      refine servesConfigured_step hs hvalid ?_ hk
      rintro api' n' ingress' hl
      cases hl
      exact ⟨named, hseen n ingress? named hw⟩
  | sys hl hs =>
      refine servesConfigured_step hs hvalid ?_ hk
      rintro api' n' ingress' rfl
      cases hl
  | _ => exact hk

theorem seenInv_step {k k' : Cluster} {l : ClusterLabel} (h : ClusterStep ext env load k l k')
    (hseen : Seen k l) (hk : SeenInv ext k) : SeenInv ext k' where
  valid := by
    rcases sys_step h with heq | ⟨sl, hs⟩
    · rw [heq]
      exact hk.valid
    · exact valid_step hs hk.valid
  current := fetchedCurrent_step h hk.current
  serves := serves_step h hseen hk.valid hk.serves

/-- After the delete handler changed the class table, the class is gone and the handler
covers all of its ingresses. -/
theorem classDeleted_covers {k k' : Cluster} {c : GoString}
    (h : ClusterStep ext env load k (.classDeleted c) k') : k'.ClassGone c ∧ k'.Covered c := by
  cases h with
  | classDeleted _ _ =>
      refine ⟨((state_removeIngressClass k.sys c).2 c).trans (if_pos rfl), ?_⟩
      intro n i _ _ _
      exact Or.inr rfl

/-- **Removal of a class takes its routes out of service.**  In every run that drops no
configuration unseen: after the delete handler ran for `c`, if `c` is not added again and
the list call succeeds, then once all requests for ingresses of `c` and all requests to
rebuild are processed, the proxy holds no route of an ingress of `c`. -/
theorem removed_class_unserved {c : GoString} {k₁ k₂ k : Cluster} {ls ls' : List ClusterLabel}
    (hbefore : Run (Guarded (ClusterStep ext env load) Seen) (Cluster.initial env) ls k₁)
    (hdelete : ClusterStep ext env load k₁ (.classDeleted c) k₂)
    (hafter : Run (Guarded (ClusterStep ext env load) fun k l => Seen k l ∧ Assumed c k l) k₂ ls' k)
    (hdone : k.Done c) : k.OutOfService c := by
  have hinv₁ : SeenInv ext k₁ :=
    hbefore.invariant (I := SeenInv ext)
      (fun _ _ _ hk hstep => seenInv_step hstep.1 hstep.2 hk) seenInv_initial
  have hinv₂ : SeenInv ext k₂ := seenInv_step hdelete trivial hinv₁
  obtain ⟨hgone₂, hcovered₂⟩ := classDeleted_covers hdelete
  obtain ⟨hinv, hgone, hcovered⟩ : SeenInv ext k ∧ k.ClassGone c ∧ k.Covered c := by
    refine hafter.invariant (I := fun k => SeenInv ext k ∧ k.ClassGone c ∧ k.Covered c)
      (fun k a k' hk hstep => ?_) ⟨hinv₂, hgone₂, hcovered₂⟩
    obtain ⟨hstep, hseen, hassumed⟩ := hstep
    obtain ⟨hinv, hgone, hcovered⟩ := hk
    exact ⟨seenInv_step hstep hseen hinv, classGone_step hstep hassumed hgone,
      covered_step hstep hassumed hgone hinv.current hcovered⟩
  intro n i hn hi conf hstored h r hr
  -- nothing is on its way any more, so the ingress has no configuration
  have hnone : k.sys.state.configured n = none := by
    by_contra hcfg
    rcases hcovered n i hn hi hcfg with hwait | hcov
    · exact hdone.requests n i hn hi hwait
    · exact not_covers_of_idle hdone.handler hcov
  have hserves := hinv.serves.stored hdone.quiet
  have hname := k.named n i hn
  rw [← hname] at hnone ⊢
  exact hserves i hnone conf hstored h r hr

end

/-! ## §4. Removing the class of the small system. -/

/-- Nothing is dropped on the way to the small cluster. -/
theorem small_seen_run : ∃ ls cfg₀ cfg₁,
    Run (SmallStep Seen) (Cluster.initial smallEnv) ls (Cluster.small cfg₀ cfg₁) := by
  refine small_cluster_run (fun k l hr _ => ?_) fun k hempty => ?_
  · cases l with
    | reconcile api => exact absurd rfl (hr api)
    | _ => trivial
  · rintro n ingress? named hw ⟨e, he, _⟩
    rw [hempty, Finmap.lookup_empty] at he
    cases he

/-- The small system after the delete handler changed the class table. -/
def Sys.unclassed (cfg₀ cfg₁ : RoutingConfig) : Sys :=
  ((Sys.small cfg₀).published cfg₁).removeIngressClass (lit "c")

theorem unclassed_eq (cfg₀ cfg₁ : RoutingConfig) :
    Sys.unclassed cfg₀ cfg₁ = { (Sys.small cfg₀).published cfg₁ with
      state := { (Sys.small cfg₀).state with
        controllerClasses := (Sys.small cfg₀).state.controllerClasses.erase (lit "c") }
      }.requestReconfigure := by
  have hclass : (Sys.small cfg₀).state.controllerClasses.lookup (lit "c") = some smallClass := by
    rw [small_eq]
    rfl
  unfold Sys.unclassed Sys.removeIngressClass K8sState.removeIngressClass
  rw [show ((Sys.small cfg₀).published cfg₁).state = (Sys.small cfg₀).state from rfl, hclass]
  rfl

theorem unclassed_waiting (cfg₀ cfg₁ : RoutingConfig) : (Sys.unclassed cfg₀ cfg₁).Waiting := by
  rw [unclassed_eq]
  exact ⟨pending_requestReconfigure _, rfl, rfl, true, rfl⟩

/-- The ingress is still configured, but irrelevant. -/
theorem unclassed_state (cfg₀ cfg₁ : RoutingConfig) :
    (Sys.unclassed cfg₀ cfg₁).state.config = some (smallConf 4096)
      ∧ (Sys.unclassed cfg₀ cfg₁).state.ingresses.lookup smallName
        = some ⟨smallIngress, some (smallConfiguration 4096)⟩
      ∧ isIngressRelevant (Sys.unclassed cfg₀ cfg₁).state smallIngress = false := by
  obtain ⟨hconf, hing⟩ := small_state cfg₀
  rw [unclassed_eq]
  refine ⟨hconf, ?_, ?_⟩
  · show (Sys.small cfg₀).state.ingresses.lookup smallName = _
    rw [hing, Finmap.lookup_insert]
  · exact irrelevant_of_gone (Finmap.lookup_erase (lit "c") _) rfl

/-- The cluster after the delete handler changed the class table. -/
def Cluster.unclassed (cfg₀ cfg₁ : RoutingConfig) : Cluster :=
  { Cluster.small cfg₀ cfg₁ with
    sys := Sys.unclassed cfg₀ cfg₁
    handler := .listing (lit "c") }

theorem unclassed_step (cfg₀ cfg₁ : RoutingConfig) :
    ClusterStep Ext.small smallEnv smallLoad (Cluster.small cfg₀ cfg₁) (.classDeleted (lit "c"))
      (Cluster.unclassed cfg₀ cfg₁) :=
  .classDeleted (lit "c") rfl

/-- The handler finds the one ingress, and the worker clears it. -/
theorem small_clear_run {G : Cluster → ClusterLabel → Prop} {cfg₀ cfg₁ : RoutingConfig} {s : Sys}
    (hs : s.state = (Sys.unclassed cfg₀ cfg₁).state)
    (hG : ∀ k l, (∀ api, l ≠ .reconcile api) → l ≠ .listFails →
      (∀ cls, l ≠ .classCreated cls) → G k l)
    (hreconcile : ∀ k, k.sys = s → G k (.reconcile Api.small)) :
    ∃ ls, Run (SmallStep G) { Cluster.unclassed cfg₀ cfg₁ with sys := s } ls
      { Cluster.small cfg₀ cfg₁ with
        sys := { s with state := s.state.updateIngress ⟨smallIngress, none⟩ } } := by
  obtain ⟨hconf, hentry, hirr⟩ := unclassed_state cfg₀ cfg₁
  rw [← hs] at hconf hentry hirr
  have hitems : GoMap.Ranges (Cluster.unclassed cfg₀ cfg₁).ingresses [(smallName, smallIngress)] :=
    GoMap.ranges_insert_empty _ _
  let k : Cluster := { Cluster.small cfg₀ cfg₁ with sys := s, queue := [smallName] }
  obtain ⟨ls, hlist⟩ : ∃ ls, Run (SmallStep G) { Cluster.unclassed cfg₀ cfg₁ with sys := s } ls k :=
    list_run (lit "c") [(smallName, smallIngress)] (fun _ _ => hG _ _ (by simp) (by simp) (by simp))
      (fun _ => hG _ _ (by simp) (by simp) (by simp))
      (fun _ => hG _ _ (by simp) (by simp) (by simp)) rfl hitems
  have hlookup : k.ingresses.lookup smallName = some smallIngress := Finmap.lookup_insert _
  have hprocess : Run (SmallStep G) k [.take, .get, .reconcile Api.small]
      { k with sys := s.reconcileIngress Ext.small Api.small smallName (some smallIngress)
               queue := [] } := by
    rw [← hlookup]
    refine process_run (fun _ => hG _ _ (by simp) (by simp) (by simp))
      (fun _ => hG _ _ (by simp) (by simp) (by simp)) ?_ rfl rfl ?_ ?_
    · exact fun k' hk' _ _ => hreconcile k' hk'
    · show s.state.config.isSome = true
      rw [hconf]
      rfl
    · rw [hlookup]
      exact reconcile_result_of_irrelevant hirr
  rw [reconcileIngress_cleared hirr hentry hirr] at hprocess
  exact ⟨_, hlist.append hprocess⟩

theorem removed_class_unserved_small : ∃ ls ls' k₁ k₂ k,
    Run (SmallStep Seen) (Cluster.initial smallEnv) ls k₁
      ∧ ClusterStep Ext.small smallEnv smallLoad k₁ (.classDeleted (lit "c")) k₂
      ∧ Run (SmallStep fun k l => Seen k l ∧ Assumed (lit "c") k l) k₂ ls' k
      ∧ k.ingresses.lookup smallName = some smallIngress
      ∧ k.Done (lit "c") ∧ k.OutOfService (lit "c") := by
  obtain ⟨ls, cfg₀, cfg₁, hbefore⟩ := small_seen_run
  let s : Sys := Sys.unclassed cfg₀ cfg₁
  let s' : Sys := { s with state := s.state.updateIngress ⟨smallIngress, none⟩ }
  obtain ⟨vs, hvs⟩ := exists_visits s'.state.ingresses
  have hconf : s'.state.config = some (smallConf 4096) := (unclassed_state cfg₀ cfg₁).1
  obtain ⟨cfg, hcfg⟩ := getProxyConfig_ok hconf (small_standard 4096) vs
  -- the request of the delete handler is still pending while the worker clears
  have hwait : s.Waiting := unclassed_waiting cfg₀ cfg₁
  have hwait' : s'.Waiting := ⟨hwait.request, hwait.select, hwait.config, hwait.loop⟩
  obtain ⟨ls₁, hclear⟩ : ∃ ls, Run (SmallStep fun k l => Seen k l ∧ Assumed (lit "c") k l)
      (Cluster.unclassed cfg₀ cfg₁) ls { Cluster.small cfg₀ cfg₁ with sys := s' } := by
    refine small_clear_run rfl (fun k l hr hf hc => ⟨?_, ?_⟩) fun k hk => ⟨?_, trivial⟩
    · cases l with
      | reconcile api => exact absurd rfl (hr api)
      | _ => trivial
    · cases l with
      | classCreated cls => exact absurd rfl (hc cls)
      | listFails => exact absurd rfl hf
      | _ => trivial
    · intro _ _ _ _ _
      rw [hk]
      exact Or.inl hwait.request
  have hserve : Run (SmallStep fun k l => Seen k l ∧ Assumed (lit "c") k l)
      { Cluster.small cfg₀ cfg₁ with sys := s' } _
      { Cluster.small cfg₀ cfg₁ with sys := s'.published cfg } :=
    Run.inCluster (fun _ _ => And.intro trivial trivial) (publish_run hwait' hvs hcfg)
      (by simp [serveRequest, handOver, Label.internal])
      { Cluster.small cfg₀ cfg₁ with sys := s' } rfl
  have hdone : Cluster.Done { Cluster.small cfg₀ cfg₁ with sys := s'.published cfg } (lit "c") := by
    refine ⟨⟨rfl, rfl, rfl, fun _ _ h => by cases h⟩, rfl, ?_⟩
    rintro n i _ _ (hq | hd | hw)
    · cases hq
    · cases hd
    · cases hw
  exact ⟨_, _, _, _, _, hbefore, unclassed_step cfg₀ cfg₁, hclear.append hserve,
    Finmap.lookup_insert _, hdone,
    removed_class_unserved hbefore (unclassed_step cfg₀ cfg₁) (hclear.append hserve) hdone⟩

/-- `Run` serves the request of the delete handler BEFORE the worker clears the ingress;
nothing requests another rebuild, and the route stays in service. -/
theorem removed_class_served : ∃ ls ls' k₁ k₂ k,
    Run (ClusterStep Ext.small smallEnv smallLoad) (Cluster.initial smallEnv) ls k₁
      ∧ ClusterStep Ext.small smallEnv smallLoad k₁ (.classDeleted (lit "c")) k₂
      ∧ Run (SmallStep (Assumed (lit "c"))) k₂ ls' k
      ∧ k.Done (lit "c") ∧ ¬ k.OutOfService (lit "c") := by
  obtain ⟨ls, cfg₀, cfg₁, hbefore⟩ := small_seen_run
  obtain ⟨hconf, hentry, _⟩ := unclassed_state cfg₀ cfg₁
  obtain ⟨vs, hvs⟩ := exists_visits (Sys.unclassed cfg₀ cfg₁).state.ingresses
  obtain ⟨cfg, hcfg⟩ := getProxyConfig_ok hconf (small_standard 4096) vs
  -- the request is used up while the entry still has its configuration
  let s : Sys := (Sys.unclassed cfg₀ cfg₁).published cfg
  have hserve : Run (SmallStep (Assumed (lit "c"))) (Cluster.unclassed cfg₀ cfg₁) _
      { Cluster.unclassed cfg₀ cfg₁ with sys := s } :=
    Run.inCluster (fun _ _ => trivial) (publish_run (unclassed_waiting cfg₀ cfg₁) hvs hcfg)
      (by simp [serveRequest, handOver, Label.internal]) (Cluster.unclassed cfg₀ cfg₁) rfl
  obtain ⟨ls₁, hclear⟩ : ∃ ls, Run (SmallStep (Assumed (lit "c")))
      { Cluster.unclassed cfg₀ cfg₁ with sys := s } ls
      { Cluster.small cfg₀ cfg₁ with
        sys := { s with state := s.state.updateIngress ⟨smallIngress, none⟩ } } := by
    refine small_clear_run rfl (fun k l _ hf hc => ?_) fun _ _ => trivial
    cases l with
    | classCreated cls => exact absurd rfl (hc cls)
    | listFails => exact absurd rfl hf
    | _ => trivial
  refine ⟨_, _, _, _, _, hbefore.of_guarded, unclassed_step cfg₀ cfg₁, hserve.append hclear, ?_, ?_⟩
  · refine ⟨⟨rfl, rfl, rfl, fun _ _ h => by cases h⟩, rfl, ?_⟩
    rintro n i _ _ (hq | hd | hw)
    · cases hq
    · cases hd
    · cases hw
  · intro hout
    have hserved : smallRoute 4096 ∈ routesUnder cfg.hosts (lit "a.org") := by
      refine served_of_configured hvs hcfg (n := smallName) ?_ (mem_smallConfiguration 4096)
      unfold K8sState.configured
      rw [hentry]
      rfl
    exact hout smallName smallIngress (Finmap.lookup_insert _) rfl cfg rfl (lit "a.org")
      (smallRoute 4096) hserved rfl

end SIngress.Controller
