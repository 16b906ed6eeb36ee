/-
  SIngress.Controller.Invariants — WHAT HOLDS IN EVERY REACHABLE STATE.

  Every entry stands under the name of its ingress, and every configuration in
  the state is what `reconcileIngress` returned for the recorded ingress, under
  the configuration that was current then.
-/
import SIngress.Controller.Publication

namespace SIngress.Controller

open SIngress.Base SIngress.Lib SIngress.K8s SIngress.Platform SIngress.Config SIngress.Proxy
open SIngress.Modules

section

variable (ext : Ext) (env : ControllerEnvConf) (load : Outside → Except Fail ControllerConf)

/-- A state some run of the system leads to. -/
abbrev Sys.Reached (s : Sys) : Prop :=
  Reachable (Step ext env load) (fun s₀ => s₀ = Sys.initial env) s

/-- The invariant of an entry. -/
structure EntryValid (confOf : NamespacedName → Option ControllerConf) (n : NamespacedName)
    (e : IngressEntry) : Prop where
  keyed : objectMetaToNamespaced e.ingress = n
  backed : ∀ cfg, e.configuration = some cfg →
    ∃ api conf, confOf n = some conf ∧ reconcileIngress ext api conf e.ingress = .ok cfg

/-- Every entry of the state is valid. -/
def Sys.Valid (s : Sys) : Prop :=
  ∀ n e, s.state.ingresses.lookup n = some e → EntryValid ext s.confOf n e

variable {ext env load} {s t : Sys} {l : Label}

/-- **What an update of the common configuration can change**: neither entries nor classes,
and the configuration only to a newly loaded one. -/
theorem update_frame {stage : CommonStage} {outside : Outside} {state state' : K8sState}
    (h : stage.update ext env load outside state = .ok state') :
    (state'.ingresses = state.ingresses ∧ state'.controllerClasses = state.controllerClasses
      ∧ state'.controllerName = state.controllerName)
    ∧ (state'.config = state.config
      ∨ ∃ conf, load outside = .ok conf ∧ state'.config = some conf) := by
  cases stage with
  | config =>
      obtain ⟨conf, hload, h⟩ := bind_eq_ok.mp (wrapErr_eq_ok.mp h)
      cases h
      exact ⟨⟨rfl, rfl, rfl⟩, Or.inr ⟨conf, hload, rfl⟩⟩
  | defaultTls =>
      obtain ⟨conf, _, h⟩ := bind_eq_ok.mp (wrapErr_eq_ok.mp h)
      obtain ⟨cert, _, h⟩ := bind_eq_ok.mp h
      cases h
      exact ⟨⟨rfl, rfl, rfl⟩, Or.inl rfl⟩
  | upstreamIp =>
      obtain ⟨conf, _, h⟩ := bind_eq_ok.mp (wrapErr_eq_ok.mp h)
      cases h
      exact ⟨⟨rfl, rfl, rfl⟩, Or.inl rfl⟩
  | tcpProxy =>
      obtain ⟨conf, _, h⟩ := bind_eq_ok.mp (wrapErr_eq_ok.mp h)
      obtain ⟨proxies, _, h⟩ := bind_eq_ok.mp h
      cases h
      exact ⟨⟨rfl, rfl, rfl⟩, Or.inl rfl⟩

/-- Everything a step can do to the configuration. -/
theorem config_step (h : Step ext env load s l t) :
    t.state.config = s.state.config ∨
      ∃ outside conf, load outside = .ok conf ∧ t.state.config = some conf := by
  cases step_change h with
  | same hstate _ _ => exact Or.inl (by rw [hstate])
  | removed _ hstate _ _ _ => exact Or.inl (by rw [hstate])
  | cleared _ hstate _ _ _ => exact Or.inl (by rw [hstate]; rfl)
  | configured _ _ _ hstate _ _ _ => exact Or.inl (by rw [hstate]; rfl)
  | classAdded hstate _ _ _ => exact Or.inl (by rw [hstate]; rfl)
  | classRemoved hstate _ _ _ => exact Or.inl (by rw [hstate])
  | updated hok hstate _ _ _ =>
      rw [hstate]
      exact (update_frame hok).2.imp_right fun ⟨conf, hload, hconf⟩ => ⟨_, conf, hload, hconf⟩

/-- Every configuration of the state was loaded. -/
theorem config_of_reached (h : s.Reached ext env load) {conf : ControllerConf}
    (hconf : s.state.config = some conf) : ∃ outside, load outside = .ok conf := by
  refine h.invariant (I := fun s => ∀ conf, s.state.config = some conf →
    ∃ outside, load outside = .ok conf) (fun s₀ h₀ conf hconf => ?_)
    (fun s a t hs hstep conf hconf => ?_) conf hconf
  · rw [h₀] at hconf
    cases hconf
  · rcases config_step hstep with heq | ⟨outside, conf', hload, heq⟩
    · exact hs conf (heq ▸ hconf)
    · rw [heq] at hconf
      cases hconf
      exact ⟨outside, hload⟩

theorem config_isSome_step (h : Step ext env load s l t) (hs : s.state.config.isSome = true) :
    t.state.config.isSome = true := by
  rcases config_step h with heq | ⟨_, conf, _, heq⟩
  · rw [heq]
    exact hs
  · rw [heq]
    rfl

theorem lookup_updateIngress (state : K8sState) (e : IngressEntry) (n : NamespacedName) :
    (state.updateIngress e).ingresses.lookup n
      = if n = objectMetaToNamespaced e.ingress then some e else state.ingresses.lookup n :=
  GoMap.lookup_insert_eq _ _ _ _

/-- One step keeps every entry valid. -/
theorem valid_step (h : Step ext env load s l t) (hs : s.Valid ext) : t.Valid ext := by
  intro n e he
  cases step_change h with
  | same hstate hconf _ =>
      rw [hstate] at he
      rw [hconf]
      exact hs n e he
  | removed _ hstate hconf _ _ =>
      rw [hstate, GoMap.lookup_erase_eq] at he
      split_ifs at he
      rw [hconf]
      exact hs n e he
  | cleared _ hstate hconf _ _ =>
      rw [hstate, lookup_updateIngress] at he
      rw [hconf]
      split_ifs at he with hn
      · cases he
        exact ⟨hn.symm, fun cfg hcfg => by cases hcfg⟩
      · exact hs n e he
  | @configured api _ ingress conf cfg _ _ hok hstate hconf _ _ =>
      -- the only step that writes a configuration, with the reconcile that backs it
      rw [hstate, lookup_updateIngress] at he
      rw [hconf]
      split_ifs at he with hn
      · cases he
        refine ⟨hn.symm, fun cfg' hcfg' => ?_⟩
        cases hcfg'
        exact ⟨api, conf, if_pos hn, hok⟩
      · obtain ⟨hkey, hback⟩ := hs n e he
        refine ⟨hkey, fun cfg' hcfg' => ?_⟩
        obtain ⟨api', conf', hconf', hok'⟩ := hback cfg' hcfg'
        exact ⟨api', conf', (if_neg hn).trans hconf', hok'⟩
  | classAdded hstate hconf _ _ =>
      rw [hstate] at he
      rw [hconf]
      exact hs n e he
  | classRemoved hstate hconf _ _ =>
      rw [hstate] at he
      rw [hconf]
      exact hs n e he
  | updated hok hstate hconf _ _ =>
      rw [hstate, (update_frame hok).1.1] at he
      rw [hconf]
      exact hs n e he

/-- Without a configuration of the controller no ingress is configured. -/
theorem config_of_configured (h : s.Reached ext env load) {n : NamespacedName}
    {cfg : IngressConfiguration} (hcfg : s.state.configured n = some cfg) :
    s.state.config.isSome = true := by
  refine h.invariant (I := fun s => ∀ n cfg, s.state.configured n = some cfg →
    s.state.config.isSome = true) (fun s₀ h₀ n cfg hcfg => ?_)
    (fun s a t hs hstep n cfg hcfg => ?_) n cfg hcfg
  · rw [h₀] at hcfg
    have hempty : (Sys.initial env).state.configured n = none := by
      unfold K8sState.configured
      rw [show (Sys.initial env).state.ingresses = ∅ from rfl, Finmap.lookup_empty]
      rfl
    rw [hempty] at hcfg
    cases hcfg
  · obtain ⟨e, he, hcfg⟩ := Option.bind_eq_some_iff.mp hcfg
    have hold : ∀ e, s.state.ingresses.lookup n = some e → e.configuration = some cfg →
        t.state.config.isSome = true := fun e he hcfg =>
      config_isSome_step hstep (hs n cfg (Option.bind_eq_some_iff.mpr ⟨e, he, hcfg⟩))
    cases step_change hstep with
    | same hstate _ _ =>
        rw [hstate] at he
        exact hold e he hcfg
    | removed _ hstate _ _ _ =>
        rw [hstate, GoMap.lookup_erase_eq] at he
        split_ifs at he
        exact hold e he hcfg
    | cleared _ hstate _ _ _ =>
        rw [hstate, lookup_updateIngress] at he
        split_ifs at he
        · cases he
          cases hcfg
        · exact hold e he hcfg
    | configured _ hconf _ _ _ _ _ =>
        -- the reconcile itself read a configuration of the controller
        exact config_isSome_step hstep (by rw [hconf]; rfl)
    | classAdded hstate _ _ _ =>
        rw [hstate] at he
        exact hold e he hcfg
    | classRemoved hstate _ _ _ =>
        rw [hstate] at he
        exact hold e he hcfg
    | updated hok hstate _ _ _ =>
        rw [hstate, (update_frame hok).1.1] at he
        exact hold e he hcfg

theorem valid_initial : (Sys.initial env).Valid ext := by
  intro n e he
  have hempty : (Sys.initial env).state.ingresses.lookup n = none := Finmap.lookup_empty n
  rw [hempty] at he
  cases he

/-- **Every entry of a reached state is valid.** -/
theorem valid_of_reached (h : s.Reached ext env load) : s.Valid ext :=
  h.invariant (fun s₀ h₀ => by rw [h₀]; exact valid_initial) fun _ _ _ hs hstep =>
    valid_step hstep hs

end

end SIngress.Controller
