/-
  SIngress.Controller.Following — EVERY ENTRY FOLLOWS ITS OBJECTS.

    • `seen_step`        — an object that changed under a reconcile has an event
                           whose handler still waits for the lock,
    • `following_step`   — every ingress is up to date or on its way to the
                           worker,
    • `entry_of_settled` — where no list call fails and no event is taken for the
                           upstream service's alone, every entry is what
                           `reconcileIngress` makes of the CURRENT objects once
                           nothing is left to do.
-/
import SIngress.Controller.Recorded
import SIngress.Controller.Watches

namespace SIngress.Controller

open SIngress.Base SIngress.Lib SIngress.K8s SIngress.Platform SIngress.Config SIngress.Proxy
open SIngress.Modules

section

variable {ext : Ext} {env : ControllerEnvConf} {load : Outside → Except Fail ControllerConf}
  {w w' : World} {wl : WorldLabel}

/-! ## §1. Objects that changed under a reconcile. -/

/-- A cache seen under the lock has the current object, or the object's event waits. -/
def World.SeenCurrent (w : World) : Prop :=
  ∀ store ∈ w.seen, ∀ kind n, (kind, n) ∈ w.events ∨ store.Same w.store kind n

theorem seen_step (h : WorldStep ext env load w wl w') (hw : w.SeenCurrent) : w'.SeenCurrent := by
  cases h with
  | change e =>
      intro store hstore kind n
      show (kind, n) ∈ w.events ++ [e.about] ∨ store.Same (w.store.apply e) kind n
      by_cases habout : (kind, n) = e.about
      · exact Or.inl (List.mem_append_right _ (List.mem_singleton.mpr habout))
      · have hkeep := same_apply w.store habout
        unfold World.change at hstore
        dsimp only at hstore
        split_ifs at hstore with hlocked
        · cases hstore
        · rcases List.mem_cons.mp hstore with rfl | hold
          · exact Or.inr (Store.Same.refl _ kind n)
          · exact (hw store hold kind n).imp (List.mem_append_left _) fun hs => hs.trans hkeep
  | @handle kind object order hfree _ _ =>
      -- no reconcile is under way
      intro store hstore
      have hnone : store ∈ w.seen := hstore
      rw [hfree] at hnone
      cases hnone
  | add _ => exact hw
  | lock _ _ =>
      intro store hstore kind n
      rw [List.mem_singleton.mp hstore]
      exact Or.inr (Store.Same.refl _ kind n)
  | reconcile _ _ _ => exact fun store hstore => absurd hstore List.not_mem_nil
  | cluster _ _ => exact hw

/-- A read under the lock that no waiting event is about gives the current object. -/
theorem readsAgain_of_answers {api : Api} (hw : w.SeenCurrent) (hanswers : w.Answers ext api)
    {cfg : IngressConfiguration}
    (hservices : ∀ n ∈ cfg.usedServices, (.service, n) ∉ w.events)
    (hsecrets : ∀ n ∈ cfg.usedSecrets, (.secret, n) ∉ w.events) :
    ReadsAgain api (w.store.api ext) cfg := by
  refine ⟨fun n hn s hs => ?_, fun n hn s hs => ?_⟩
  · rcases hanswers.services n with ⟨err, herr⟩ | ⟨store, hstore, hget⟩
    · rw [hs] at herr
      cases herr
    · have hsame := (hw store hstore .service n).resolve_left (hservices n hn)
      exact getService_of_same hsame (hget.symm.trans hs)
  · rcases hanswers.secrets n with ⟨err, herr⟩ | ⟨store, hstore, hget⟩
    · rw [hs] at herr
      cases herr
    · have hsame := (hw store hstore .secret n).resolve_left (hsecrets n hn)
      exact getSecret_of_same hsame (hget.symm.trans hs)

/-! ## §2. Up to date, or on its way. -/

variable (ext) in
/-- The entry of `n` is what the current objects say, under the configuration of its last
successful reconcile. -/
inductive World.UpToDate (w : World) (n : NamespacedName) : Prop
  | served {i : Ingress} {conf : ControllerConf} {cfg : IngressConfiguration} :
      w.cluster.ingresses.lookup n = some i → isIngressRelevant w.cluster.sys.state i = true →
      w.cluster.sys.confOf n = some conf →
      reconcileIngress ext (w.store.api ext) conf i = .ok cfg →
      w.cluster.sys.state.configured n = some cfg → UpToDate w n
  | unserved : (∀ i, w.cluster.ingresses.lookup n = some i →
        isIngressRelevant w.cluster.sys.state i = false) →
      w.cluster.sys.state.configured n = none → UpToDate w n

/-- An event waits for an object that `n` recorded. -/
def World.Notifies (w : World) (n : NamespacedName) : Prop :=
  ∃ kind object, kind ≠ .configMap ∧ (kind, object) ∈ w.events
    ∧ Records kind w.cluster.sys.state object n

/-- The name is on its way to the worker. -/
def World.Tracked (w : World) (n : NamespacedName) : Prop :=
  w.cluster.Tracked n ∨ n ∈ w.adding ∨ w.Notifies n

variable (ext) in
/-- Every ingress is up to date or on its way. -/
def World.Following (w : World) : Prop := ∀ n, w.UpToDate ext n ∨ w.Tracked n

variable (env) in
/-- List calls succeed, and no event of the upstream service is for a service that an entry
recorded. -/
def Notified (w : World) : WorldLabel → Prop
  | .cluster l => l ≠ .listFails
  | .handle .service object _ =>
      ¬ (isUpstreamService env w.cluster.sys.state object = true
        ∧ ∃ n, Records .service w.cluster.sys.state object n)
  | _ => True

/-- The worker's reconcile is the only step of the cluster that is one. -/
theorem not_atWork_of_isReconcile {k : Cluster} {l : ClusterLabel} {n : NamespacedName}
    (hl : l.isReconcile = false) : ¬ k.AtWork l n := by
  rintro ⟨api, ingress?, named, rfl, _⟩
  cases hl

/-- What is recorded depends on the configuration of the ingress only. -/
theorem records_congr {kind : WatchedKind} {state state' : K8sState} {object n : NamespacedName}
    (h : state'.configured n = state.configured n) :
    Records kind state' object n ↔ Records kind state object n := by
  unfold Records
  rw [h]

/-- An ingress that is up to date stays so when nothing it depends on changes. -/
theorem upToDate_congr {n : NamespacedName} (hstore : w'.store = w.store)
    (hing : w'.cluster.ingresses.lookup n = w.cluster.ingresses.lookup n)
    (hrel : ∀ i, w.cluster.ingresses.lookup n = some i →
      isIngressRelevant w'.cluster.sys.state i = isIngressRelevant w.cluster.sys.state i)
    (hconfOf : w'.cluster.sys.confOf n = w.cluster.sys.confOf n)
    (hcfg : w'.cluster.sys.state.configured n = w.cluster.sys.state.configured n)
    (h : w.UpToDate ext n) : w'.UpToDate ext n := by
  cases h with
  | served hi hr hconf hok hentry =>
      refine .served (hing.trans hi) ?_ (hconfOf.trans hconf) ?_ (hcfg.trans hentry)
      · rw [hrel _ hi]
        exact hr
      · rw [hstore]
        exact hok
  | unserved hirr hentry =>
      refine .unserved (fun i hi => ?_) (hcfg.trans hentry)
      rw [hing] at hi
      rw [hrel i hi]
      exact hirr i hi

/-- A step of the cluster other than the reconcile of `n`. -/
theorem following_other {l : ClusterLabel} {n : NamespacedName}
    (h : ClusterStep ext env load w.cluster l w'.cluster) (hat : ¬ w.cluster.AtWork l n)
    (hlists : l ≠ .listFails) (hstore : w'.store = w.store) (hevents : w'.events = w.events)
    (hadding : n ∈ w.adding → n ∈ w'.adding ∨ w'.cluster.Waiting n)
    (hn : w.UpToDate ext n ∨ w.Tracked n) : w'.UpToDate ext n ∨ w'.Tracked n := by
  have hcfg := configured_step h hat
  rcases ingresses_step h n with hwait | hsame
  · exact Or.inr (Or.inl (Or.inl hwait))
  rcases hn with hup | hcluster | hadd | ⟨kind, object, hkind, hevent, hrec⟩
  · by_cases hrel : ∀ i, w.cluster.ingresses.lookup n = some i →
        isIngressRelevant w'.cluster.sys.state i = isIngressRelevant w.cluster.sys.state i
    · exact Or.inl (upToDate_congr hstore hsame hrel (confOf_step h hat) hcfg hup)
    · -- the class of the ingress came or went: its handler is about to list
      push Not at hrel
      obtain ⟨i, hi, hne⟩ := hrel
      obtain ⟨c, hc, hlisting⟩ := (relevant_step h i).resolve_left hne
      exact Or.inr (Or.inl (Or.inr
        ⟨i, c, hsame.trans hi, hc, (covers_listing_iff hlisting).mpr rfl⟩))
  · exact Or.inr (Or.inl (tracked_step h hat (fun hl => absurd hl hlists) hcluster))
  · rcases hadding hadd with hadd' | hwait
    · exact Or.inr (Or.inr (Or.inl hadd'))
    · exact Or.inr (Or.inl (Or.inl hwait))
  · exact Or.inr (Or.inr (Or.inr
      ⟨kind, object, hkind, by rw [hevents]; exact hevent, (records_congr hcfg).mpr hrec⟩))

/-- The entry after the worker's successful reconcile of the current ingress: up to date,
unless an object it read has changed meanwhile. -/
theorem following_reconciled {api : Api} {n : NamespacedName} {ingress? : Option Ingress}
    (hreach : w.cluster.sys.Reached ext env (getControllerConfig ext env))
    (hseen : w.SeenCurrent) (hanswers : w.Answers ext api)
    (hnamed : ∀ i, ingress? = some i → objectMetaToNamespaced i = n)
    (hnow : ingress? = w'.cluster.ingresses.lookup n)
    (hok : (reconcile ext api w.cluster.sys.state n ingress?).result = .ok ())
    (hsys : w'.cluster.sys = w.cluster.sys.reconcileIngress ext api n ingress?)
    (hstore : w'.store = w.store) (hevents : w'.events = w.events) :
    w'.UpToDate ext n ∨ w'.Notifies n := by
  have hframe := @reconcile_frame ext api w.cluster.sys.state n ingress? hnamed
  have hstate : w'.cluster.sys.state
      = (reconcile ext api w.cluster.sys.state n ingress?).state := by
    rw [hsys]
    exact state_reconcileIngress _ api n ingress?
  have hrel : ∀ i, isIngressRelevant w'.cluster.sys.state i
      = isIngressRelevant w.cluster.sys.state i := by
    rw [hstate]
    exact relevant_congr hframe.1 (controllerName_reconcile api w.cluster.sys.state n ingress?)
  have hconfOf : w'.cluster.sys.confOf = w.cluster.sys.recordConf ext api n ingress? := by
    rw [hsys]
    exact (reconcileIngress_fields ext _ api n ingress?).2.1
  have houtcome := reconcile_outcome ext api w.cluster.sys.state n ingress?
  generalize hr : reconcile ext api w.cluster.sys.state n ingress? = r at houtcome hok hstate
  cases houtcome with
  | absent hnone =>
      refine Or.inl (.unserved (fun i hi => ?_) ?_)
      · rw [← hnow] at hi
        cases hi
      · rw [hstate]
        unfold K8sState.configured
        rw [hnone]
        rfl
  | removed _ =>
      refine Or.inl (.unserved (fun i hi => ?_) ?_)
      · rw [← hnow] at hi
        cases hi
      · rw [hstate, configured_erase, if_pos rfl]
  | @noted i hirr _ =>
      refine Or.inl (.unserved (fun j hj => ?_) ?_)
      · rw [← hnow] at hj
        cases hj
        rw [hrel]
        exact hirr
      · rw [hstate, configured_updateIngress, if_pos (hnamed i rfl).symm]
  | @cleared i _ hirr _ =>
      refine Or.inl (.unserved (fun j hj => ?_) ?_)
      · rw [← hnow] at hj
        cases hj
        rw [hrel]
        exact hirr
      · rw [hstate, configured_updateIngress, if_pos (hnamed i rfl).symm]
  | failed _ _ => cases hok
  | @configured i conf cfg hrelevant hconf hcfg =>
      have hentry : w'.cluster.sys.state.configured n = some cfg := by
        rw [hstate, configured_updateIngress, if_pos (hnamed i rfl).symm]
      by_cases hquiet : (∀ m ∈ cfg.usedServices, (.service, m) ∉ w.events)
          ∧ ∀ m ∈ cfg.usedSecrets, (.secret, m) ∉ w.events
      · -- every read is current
        obtain ⟨outside, hload⟩ := config_of_reached hreach hconf
        have hcurrent : reconcileIngress ext (w'.store.api ext) conf i = .ok cfg := by
          rw [hstore]
          exact reconcileIngress_again (getControllerConfig_modules ext hload) hcfg
            (readsAgain_of_answers hseen hanswers hquiet.1 hquiet.2)
        refine Or.inl (.served hnow.symm ((hrel i).trans hrelevant) ?_ hcurrent hentry)
        rw [hconfOf, recordConf_of_ok hrelevant (by rw [hr])]
        exact (if_pos (hnamed i rfl).symm).trans hconf
      · -- an object changed: it is on the record of the new entry
        rcases not_and_or.mp hquiet with hquiet | hquiet
        all_goals
          push Not at hquiet
          obtain ⟨m, hm, hevent⟩ := hquiet
        · exact Or.inr ⟨.service, m, by decide, by rw [hevents]; exact hevent, cfg, hentry, hm⟩
        · exact Or.inr ⟨.secret, m, by decide, by rw [hevents]; exact hevent, cfg, hentry, hm⟩

/-- An entry whose record an event is not about stays up to date. -/
theorem following_changed {n : NamespacedName} {e : ObjectEvent}
    (hreach : w.cluster.sys.Reached ext env (getControllerConfig ext env))
    (h : w.UpToDate ext n) : (w.change e).UpToDate ext n ∨ (w.change e).Notifies n := by
  cases h with
  | unserved hirr hentry => exact Or.inl (.unserved hirr hentry)
  | @served i conf cfg hi hrel hconf hok hentry =>
      have hnew : e.about ∈ (w.change e).events :=
        List.mem_append_right _ (List.mem_singleton.mpr rfl)
      by_cases hservice : ∃ m ∈ cfg.usedServices, (WatchedKind.service, m) = e.about
      · obtain ⟨m, hm, habout⟩ := hservice
        exact Or.inr ⟨.service, m, by decide, by rw [habout]; exact hnew, cfg, hentry, hm⟩
      by_cases hsecret : ∃ m ∈ cfg.usedSecrets, (WatchedKind.secret, m) = e.about
      · obtain ⟨m, hm, habout⟩ := hsecret
        exact Or.inr ⟨.secret, m, by decide, by rw [habout]; exact hnew, cfg, hentry, hm⟩
      push Not at hservice hsecret
      obtain ⟨outside, hload⟩ := confOf_loaded hreach hconf
      refine Or.inl (.served hi hrel hconf ?_ hentry)
      refine reconcileIngress_again (getControllerConfig_modules ext hload) hok ⟨?_, ?_⟩
      · intro m hm s hs
        exact getService_of_same (same_apply w.store (hservice m hm)) hs
      · intro m hm s hs
        exact getSecret_of_same (same_apply w.store (hsecret m hm)) hs

/-- The requests of a handler are for all entries that recorded the object. -/
theorem notifies_handled {kind : WatchedKind} {object n : NamespacedName}
    {order : List (NamespacedName × IngressEntry)}
    (horder : GoMap.Ranges w.cluster.sys.state.ingresses order)
    (hguard : Notified env w (.handle kind object order)) (hkind : kind ≠ .configMap)
    (hrec : Records kind w.cluster.sys.state object n) :
    n ∈ (kind.handle env w.cluster.sys.state order object).requests := by
  have hearly : kind.returnsEarly env w.cluster.sys.state object ≠ true := by
    intro hearly
    cases kind with
    | secret => cases hearly
    | service => exact hguard ⟨hearly, n, hrec⟩
    | configMap => exact hkind rfl
  rw [handle_requests, if_neg hearly]
  exact (requestsFor_complete horder kind n).mpr hrec

/-- **Every ingress stays up to date or on its way.** -/
theorem following_step
    (h : WorldStep ext env (getControllerConfig ext env) w wl w') (hguard : Notified env w wl)
    (hreach : w.cluster.sys.Reached ext env (getControllerConfig ext env))
    (hcurrent : w.cluster.FetchedCurrent) (hseen : w.SeenCurrent) (hw : w.Following ext) :
    w'.Following ext := by
  intro n
  cases h with
  | change e =>
      rcases hw n with hup | hcluster | hadd | ⟨kind, object, hkind, hevent, hrec⟩
      · exact (following_changed hreach hup).imp_right fun hnew => Or.inr (Or.inr hnew)
      · exact Or.inr (Or.inl hcluster)
      · exact Or.inr (Or.inr (Or.inl hadd))
      · exact Or.inr (Or.inr (Or.inr
          ⟨kind, object, hkind, List.mem_append_left _ hevent, hrec⟩))
  | @handle kind object order hfree hmem horder =>
      -- the handler does not touch what an entry depends on
      have hsame : (w.handle env kind object order).cluster.ingresses = w.cluster.ingresses
          ∧ (w.handle env kind object order).cluster.sys.state = w.cluster.sys.state
          ∧ (w.handle env kind object order).cluster.sys.confOf = w.cluster.sys.confOf
          ∧ (w.cluster.Tracked n → (w.handle env kind object order).cluster.Tracked n) := by
        unfold World.handle
        dsimp only
        split_ifs
        · exact ⟨rfl, rfl, rfl, id⟩
        · exact ⟨rfl, rfl, rfl, id⟩
      obtain ⟨hing, hstate, hconfOf, htracked⟩ := hsame
      rcases hw n with hup | hcluster | hadd | ⟨kind', object', hkind, hevent, hrec⟩
      · refine Or.inl (upToDate_congr (w := w) rfl (by rw [hing]) (fun i _ => ?_)
          (by rw [hconfOf]) ?_ hup)
        · rw [hstate]
        · rw [hstate]
      · exact Or.inr (Or.inl (htracked hcluster))
      · exact Or.inr (Or.inr (Or.inl (List.mem_append_left _ hadd)))
      · by_cases hthis : (kind', object') = (kind, object)
        · cases hthis
          exact Or.inr (Or.inr (Or.inl (List.mem_append_right _
            (notifies_handled horder hguard hkind hrec))))
        · refine Or.inr (Or.inr (Or.inr ⟨kind', object', hkind, ?_, ?_⟩))
          · exact (List.mem_erase_of_ne hthis).mpr hevent
          · exact (records_congr (by rw [hstate])).mpr hrec
  | @add m rest hadding =>
      have hstep : ClusterStep ext env (getControllerConfig ext env) w.cluster (.watch m)
          (w.enqueued m rest).cluster := .watch _ m
      refine following_other hstep (not_atWork_of_isReconcile rfl) (by simp) rfl rfl
        (fun hadd => ?_) (hw n)
      rw [hadding] at hadd
      rcases List.mem_cons.mp hadd with rfl | hrest
      · exact Or.inr (Or.inl (mem_enqueue.mpr (Or.inl rfl)))
      · exact Or.inl hrest
  | lock _ _ =>
      rcases hw n with hup | htracked
      · exact Or.inl (upToDate_congr (w := w) rfl rfl (fun _ _ => rfl) rfl rfl hup)
      · exact Or.inr htracked
  | @reconcile api k hlocked hanswers hstep =>
      by_cases hat : w.cluster.AtWork (.reconcile api) n
      · obtain ⟨_, ingress?, named, hlabel, hworker⟩ := hat
        cases hlabel
        rcases reconcile_step hstep hworker hcurrent with hwait | ⟨hnow, hok, _⟩
        · exact Or.inr (Or.inl (Or.inl hwait))
        · have hsys : k.sys = w.cluster.sys.reconcileIngress ext api n ingress? := by
            cases hstep with
            | reconcile hworker' =>
                rw [hworker] at hworker'
                cases hworker'
                rfl
          have hnew : World.UpToDate ext { w with cluster := k, seen := [] } n
              ∨ World.Notifies { w with cluster := k, seen := [] } n :=
            following_reconciled hreach hseen hanswers named hnow hok hsys rfl rfl
          exact hnew.imp_right fun hnotifies => Or.inr (Or.inr hnotifies)
      · exact @following_other ext env _ w { w with cluster := k, seen := [] } _ n hstep hat
          (by simp) rfl rfl Or.inl (hw n)
  | @cluster l k hl hstep =>
      exact @following_other ext env _ w { w with cluster := k } _ n hstep
        (not_atWork_of_isReconcile hl) hguard rfl rfl Or.inl (hw n)

/-! ## §3. Nothing left to do. -/

/-- No request, no event and no name to enqueue is left. -/
structure World.Settled (w : World) : Prop where
  drained : w.cluster.Drained
  events : w.events = []
  adding : w.adding = []

theorem not_tracked_of_settled {n : NamespacedName} (h : w.Settled) : ¬ w.Tracked n := by
  rintro (hcluster | hadd | ⟨kind, object, _, hevent, _⟩)
  · exact not_tracked_of_drained h.drained hcluster
  · rw [h.adding] at hadd
    cases hadd
  · rw [h.events] at hevent
    cases hevent

theorem following_initial : (World.initial env).Following ext := by
  intro n
  refine Or.inl (.unserved (fun i hi => ?_) ?_)
  · rw [show (World.initial env).cluster.ingresses = ∅ from rfl, Finmap.lookup_empty] at hi
    cases hi
  · unfold K8sState.configured
    rw [show (World.initial env).cluster.sys.state.ingresses = ∅ from rfl, Finmap.lookup_empty]
    rfl

variable (ext env) in
/-- The invariant of the watched cluster. -/
structure WorldInv (w : World) : Prop where
  reached : w.cluster.sys.Reached ext env (getControllerConfig ext env)
  current : w.cluster.FetchedCurrent
  seen : w.SeenCurrent
  following : w.Following ext

theorem worldInv_initial : WorldInv ext env (World.initial env) where
  reached := ⟨_, [], rfl, .nil _⟩
  current := fun n ingress? named hw => by cases hw
  seen := fun store hstore => by cases hstore
  following := following_initial

theorem worldInv_step (h : WorldStep ext env (getControllerConfig ext env) w wl w')
    (hguard : Notified env w wl) (hw : WorldInv ext env w) : WorldInv ext env w' where
  reached := world_reached_step h hw.reached
  current := cluster_invariant_step (I := Cluster.FetchedCurrent)
    (fun _ _ _ hstep hk => fetchedCurrent_step hstep hk) h hw.current
  seen := seen_step h hw.seen
  following := following_step h hguard hw.reached hw.current hw.seen hw.following

/-- **Every entry follows its objects.**  Let list calls succeed, and no event of the upstream
service be for a recorded service (`Notified`).  Whatever else happened to ingresses, classes,
Services, Secrets and ConfigMaps, in whatever order the handlers, the worker and the reloads
ran, and whatever changed while a reconcile was reading: once nothing is left to do, an ingress
that exists and is relevant has exactly the configuration `reconcileIngress` computes from the
CURRENT objects, under the configuration of its last successful reconcile, and any other name
has none. -/
theorem entry_of_settled {ls : List WorldLabel}
    (h : Run (Guarded (WorldStep ext env (getControllerConfig ext env)) (Notified env))
      (World.initial env) ls w)
    (hsettled : w.Settled) (n : NamespacedName) : w.UpToDate ext n := by
  have hinv : WorldInv ext env w := h.invariant (I := WorldInv ext env)
    (fun _ _ _ hw hstep => worldInv_step hstep.1 hstep.2 hw) worldInv_initial
  exact (hinv.following n).resolve_right (not_tracked_of_settled hsettled)

end

/-! ## §4. Undisturbed worlds. -/

/-- No configured ingress is of the class. -/
def Sys.Unused (s : Sys) (className : GoString) : Prop :=
  ∀ n e, s.state.ingresses.lookup n = some e → e.configuration.isSome = true →
    e.ingress.ingressClassName ≠ some className

/-- A class goes, or goes to another controller, only when no configured ingress is of it. -/
def Orderly (s : Sys) : Label → Prop
  | .removeClass name => s.Unused name
  | .addClass cls => cls.controller = s.state.controllerName ∨ s.Unused cls.name
  | _ => True

/-- A class goes only when no configured ingress is of it. -/
def Cluster.Orderly (k : Cluster) : ClusterLabel → Prop
  | .classCreated cls => Controller.Orderly k.sys (.addClass cls)
  | .classDeleted name => Controller.Orderly k.sys (.removeClass name)
  | _ => True

section

variable (ext : Ext) (env : ControllerEnvConf)

/-- List calls succeed, the event of the upstream service is for no recorded service, and a
class goes only when no configured ingress is of it. -/
def Undisturbed (w : World) (l : WorldLabel) : Prop :=
  Notified env w l ∧ match l with
    | .cluster l => w.cluster.Orderly l
    | _ => True

/-- An undisturbed step of the world. -/
abbrev UndisturbedStep : World → WorldLabel → World → Prop :=
  Guarded (WorldStep ext env (getControllerConfig ext env)) (Undisturbed env)

end

/-! ## §5. The small cluster with its cache. -/

/-- The step of the cluster is none of the worker's, and undisturbed. -/
def Cluster.Aside (k : Cluster) (l : ClusterLabel) : Prop :=
  l.isReconcile = false ∧ l ≠ .listFails ∧ k.Orderly l

/-- A run of the cluster without a reconcile is a run of the world. -/
theorem Run.inWorld {ext : Ext} {env : ControllerEnvConf} {ls : List ClusterLabel} {k k' : Cluster}
    (h : Run (Guarded (ClusterStep ext env (getControllerConfig ext env)) Cluster.Aside) k ls k') :
    ∀ w : World, w.cluster = k →
      Run (UndisturbedStep ext env) w (ls.map .cluster) { w with cluster := k' } := by
  induction h with
  | nil k =>
      rintro w rfl
      exact .nil _
  | @cons k u k' l ls hstep _ ih =>
      rintro w rfl
      obtain ⟨hstep, hl, hlists, horderly⟩ := hstep
      exact .cons ⟨.cluster hl hstep, hlists, horderly⟩ (ih { w with cluster := u } rfl)

/-- **An ingress is applied to an idle world**: the worker takes its name, gets and reconciles
it with what the cache has. -/
theorem applied_run {ext : Ext} {env : ControllerEnvConf} {w : World} {i : Ingress}
    {conf : ControllerConf} {c : IngressConfiguration} (hqueue : w.cluster.queue = [])
    (hworker : w.cluster.worker = .idle) (hseen : w.seen = [])
    (hrel : isIngressRelevant w.cluster.sys.state i = true)
    (hconf : w.cluster.sys.state.config = some conf)
    (hok : reconcileIngress ext (w.store.api ext) conf i = .ok c) :
    ∃ ls, Run (UndisturbedStep ext env) w ls { w with
      cluster := { w.cluster.apply i with
        sys := w.cluster.sys.reconcileIngress ext (w.store.api ext) (objectMetaToNamespaced i)
          (some i)
        queue := [] } } := by
  obtain ⟨⟨sys, ingresses, queue, delayed, worker, handler, named⟩, store, events, adding, seen⟩ :=
    w
  dsimp only at hqueue hworker hseen hrel hconf hok
  subst hqueue hworker hseen
  let n := objectMetaToNamespaced i
  let k₁ : Cluster := Cluster.apply ⟨sys, ingresses, [], delayed, .idle, handler, named⟩ i
  let k₂ : Cluster := { k₁ with
    queue := [], worker := .fetched n (k₁.ingresses.lookup n) (k₁.named n) }
  let w₂ : World := ⟨k₂, store, events, adding, []⟩
  have hloaded : k₁.sys.state.config.isSome = true := by
    show sys.state.config.isSome = true
    rw [hconf]
    rfl
  have hget : Run (UndisturbedStep ext env)
      ⟨⟨sys, ingresses, [], delayed, .idle, handler, named⟩, store, events, adding, []⟩
      [.cluster (.apply i), .cluster .take, .cluster .get] w₂ :=
    .cons ⟨.cluster rfl (.apply _ _), by simp [Notified], trivial⟩
      (.cons ⟨.cluster rfl (.take rfl rfl), by simp [Notified], trivial⟩
        (.single ⟨.cluster rfl (.get rfl hloaded), by simp [Notified], trivial⟩))
  have hlock : UndisturbedStep ext env w₂ .lock { w₂ with seen := [store] } :=
    ⟨.lock rfl rfl, trivial, trivial⟩
  have hanswers : World.Answers ext { w₂ with seen := [store] } (store.api ext) :=
    ⟨fun n => Or.inr ⟨_, List.mem_singleton.mpr rfl, rfl⟩,
      fun n => Or.inr ⟨_, List.mem_singleton.mpr rfl, rfl⟩⟩
  have hlookup : k₁.ingresses.lookup n = some i := Finmap.lookup_insert _
  have hresult : (reconcile ext (store.api ext) k₂.sys.state n (some i)).result = .ok () :=
    reconcile_result_of_ok hrel hconf hok
  have hstep : ClusterStep ext env (getControllerConfig ext env) k₂ (.reconcile (store.api ext))
      _ := .reconcile rfl
  rw [hlookup, hresult] at hstep
  have hreconcile : UndisturbedStep ext env { w₂ with seen := [store] }
      (.reconcile (store.api ext)) _ := ⟨.reconcile (by simp) hanswers hstep, trivial, trivial⟩
  exact ⟨_, hget.append (.cons hlock (.single hreconcile))⟩

/-- The service of the small ingress is created. -/
def smallServiceCreated : ObjectEvent :=
  .service ⟨lit "ns", lit "svc"⟩ (some ⟨lit "10.0.0.1", [⟨lit "http", 80⟩], []⟩)

def Store.small : Store := (World.initial smallEnv).store.apply smallServiceCreated

theorem getService_small :
    (Store.small.api Ext.small).getService ⟨lit "ns", lit "svc"⟩
      = .ok ⟨lit "10.0.0.1", [⟨lit "http", 80⟩], []⟩ :=
  getService_eq_ok.mpr (Finmap.lookup_insert _)

theorem reconcileIngress_store :
    reconcileIngress Ext.small (Store.small.api Ext.small) (smallConf 4096) smallIngress
      = .ok (smallConfiguration 4096) := by
  refine reconcileIngress_again (small_standard 4096) (reconcileIngress_small 4096) ⟨?_, ?_⟩
  · intro n hn s hs
    rw [List.mem_singleton.mp hn] at hs ⊢
    rw [getService_small]
    exact hs
  · intro n hn
    cases hn

/-- Reconciled from the cache, the small system is the same. -/
theorem small_from_store (cfg : RoutingConfig) :
    (Sys.classed cfg).reconcileIngress Ext.small (Store.small.api Ext.small) smallName
      (some smallIngress) = Sys.small cfg := by
  have hconf : (Sys.classed cfg).state.config = some (smallConf 4096) := rfl
  rw [small_eq]
  exact reconcileIngress_configured rfl hconf reconcileIngress_store

/-- The small system in its world, with nothing left to do. -/
def World.small (cfg : RoutingConfig) : World where
  cluster :=
    { (Cluster.initial smallEnv).apply smallIngress with sys := Sys.small cfg, queue := [] }
  store := Store.small
  events := []
  adding := []
  seen := []

/-- The steps of the small world. -/
abbrev SmallWorldStep : World → WorldLabel → World → Prop := UndisturbedStep Ext.small smallEnv

/-- The system starts, the class and the service are created, the ingress is applied and
reconciled. -/
theorem small_world_run : ∃ ls cfg,
    Run SmallWorldStep (World.initial smallEnv) ls (World.small cfg) := by
  obtain ⟨outside, vs, cfg, hboot, _⟩ := small_boot
  let k₁ : Cluster := { Cluster.initial smallEnv with sys := Sys.booted cfg }
  let k₂ : Cluster := { k₁ with sys := Sys.classed cfg }
  have h₁ : Run SmallWorldStep (World.initial smallEnv) _
      { World.initial smallEnv with cluster := k₁ } :=
    Run.inWorld (Run.inCluster (fun _ _ => ⟨rfl, by simp, trivial⟩) hboot
      (by simp [initUpdates, serveRequest, handOver, Label.internal]) _ rfl) _ rfl
  obtain ⟨ls₂, h₂⟩ : ∃ ls, Run (Guarded (ClusterStep Ext.small smallEnv smallLoad) Cluster.Aside)
      { k₂ with handler := .listing (lit "c") } ls k₂ :=
    list_run (lit "c") [] (fun _ _ => ⟨rfl, by simp, trivial⟩) (fun _ => ⟨rfl, by simp, trivial⟩)
      (fun _ => ⟨rfl, by simp, trivial⟩) rfl GoMap.ranges_empty
  have hclass : SmallWorldStep { World.initial smallEnv with cluster := k₁ }
      (.cluster (.classCreated smallClass))
      { World.initial smallEnv with cluster := { k₂ with handler := .listing (lit "c") } } :=
    ⟨.cluster rfl (.classCreated smallClass rfl), by simp [Notified], Or.inl rfl⟩
  have hclassed : Run SmallWorldStep
      { World.initial smallEnv with cluster := { k₂ with handler := .listing (lit "c") } } _
      { World.initial smallEnv with cluster := k₂ } := Run.inWorld h₂ _ rfl
  -- the service comes while there is no entry, so its handler enqueues nothing
  let w₂ : World := { World.initial smallEnv with cluster := k₂ }
  let w₃ : World := { w₂ with store := Store.small }
  have hservice : Run SmallWorldStep w₂
      [.change smallServiceCreated, .handle .service ⟨lit "ns", lit "svc"⟩ []] w₃ := by
    refine .cons ⟨.change _ _, trivial, trivial⟩
      (.single ⟨.handle rfl (List.mem_singleton.mpr rfl) GoMap.ranges_empty, ?_, trivial⟩)
    rintro ⟨hup, _⟩
    cases hup
  obtain ⟨ls, happlied⟩ : ∃ ls, Run SmallWorldStep w₃ ls _ :=
    applied_run (w := w₃) (i := smallIngress) rfl rfl rfl rfl rfl
      reconcileIngress_store
  have hsys : w₃.cluster.sys.reconcileIngress Ext.small (w₃.store.api Ext.small)
      (objectMetaToNamespaced smallIngress) (some smallIngress) = Sys.small cfg :=
    small_from_store cfg
  rw [hsys] at happlied
  exact ⟨_, cfg, h₁.append (.cons hclass (hclassed.append (hservice.append happlied)))⟩

/-- The small ingress has the configuration of the service in the cache. -/
theorem entry_of_settled_small : ∃ ls w,
    Run (Guarded (WorldStep Ext.small smallEnv smallLoad) (Notified smallEnv))
      (World.initial smallEnv) ls w ∧ w.Settled
      ∧ w.cluster.sys.state.configured smallName = some (smallConfiguration 4096)
      ∧ w.UpToDate Ext.small smallName := by
  obtain ⟨ls, cfg, hrun⟩ := small_world_run
  have hrun := hrun.weaken fun _ _ hundisturbed => hundisturbed.1
  have hsettled : (World.small cfg).Settled := ⟨⟨rfl, rfl, rfl, rfl⟩, rfl, rfl⟩
  refine ⟨ls, World.small cfg, hrun, hsettled, ?_, entry_of_settled hrun hsettled smallName⟩
  show ((Sys.small cfg).state.ingresses.lookup smallName).bind _ = _
  rw [(small_state cfg).2, Finmap.lookup_insert]
  rfl

end SIngress.Controller
