/-
  SIngress.Controller.Recorded — RECORDED READS.

  A reconcile records every Service and Secret it asks for, and fails if one of
  the reads fails.  So what a SUCCESSFUL reconcile recorded, it has read
  (`recorded_read`), and a server that answers those reads alike gives the same
  result (`reconcileIngress_again`): nothing is asked of it where the first
  server failed.
-/
import SIngress.Controller.Dependencies

namespace SIngress.Controller

open SIngress.Base SIngress.Lib SIngress.K8s SIngress.Platform SIngress.Config SIngress.Proxy
open SIngress.Modules

section

variable {ext : Ext} {api api' : Api} {conf : ControllerConf} {ingress : Ingress}

/-! ## §1. The modules. -/

/-- A computation records only secrets it has read. -/
theorem run_recorded {α : Type} {m : Reading α} :
    ∀ {used used' : List NamespacedName} {a : α}, m.run api used = .ok (a, used') →
      (∀ n ∈ used, ∃ s, api.getSecret n = .ok s) → ∀ n ∈ used', ∃ s, api.getSecret n = .ok s := by
  induction m with
  | ret a =>
      intro used used' b h hused
      cases h
      exact hused
  | fail e =>
      intro used used' b h _
      cases h
  | getSecret secret next ih =>
      intro used used' b h hused
      rw [Reading.run_getSecret] at h
      cases hg : api.getSecret secret with
      | error err =>
          rw [hg] at h
          exact ih _ h hused
      | ok s =>
          rw [hg] at h
          refine ih _ h fun n hn => ?_
          rcases List.mem_append.mp hn with hn | hn
          · exact hused n hn
          · rw [List.mem_singleton.mp hn]
            exact ⟨s, hg⟩

theorem getMiddlewares_recorded {mods : List ModuleInstance} :
    ∀ {used used' : List NamespacedName} {ms : List Middleware},
      getMiddlewares api ingress mods used = .ok (ms, used') →
      (∀ n ∈ used, ∃ s, api.getSecret n = .ok s) → ∀ n ∈ used', ∃ s, api.getSecret n = .ok s := by
  induction mods with
  | nil =>
      intro used used' ms h hused
      cases h
      exact hused
  | cons mod mods ih =>
      intro used used' ms h hused
      obtain ⟨⟨m?, used₁⟩, hrun, h⟩ := bind_eq_ok.mp h
      obtain ⟨⟨rest, used₂⟩, hrest, h⟩ := bind_eq_ok.mp h
      cases h
      exact ih hrest (run_recorded hrun hused)

/-! ## §2. The loops of a reconcile. -/

variable (api) in
/-- Every Service and Secret on the record was read. -/
structure AllRead (ingressConf : IngressConfiguration) : Prop where
  services : ∀ n ∈ ingressConf.usedServices, ∃ s, api.getService n = .ok s
  secrets : ∀ n ∈ ingressConf.usedSecrets, ∃ s, api.getSecret n = .ok s

/-- Names appended to a record of names that were read. -/
theorem read_append {α : Type} {get : NamespacedName → Except GoError α}
    {used : List NamespacedName} {m : NamespacedName} {a : α}
    (hused : ∀ n ∈ used, ∃ s, get n = .ok s) (hm : get m = .ok a) :
    ∀ n ∈ used ++ [m], ∃ s, get n = .ok s := by
  intro n hn
  rcases List.mem_append.mp hn with hn | hn
  · exact hused n hn
  · rw [List.mem_singleton.mp hn]
    exact ⟨a, hm⟩

theorem addPathItem_read {hostname : GoString} {ingressConf ingressConf' : IngressConfiguration}
    {path : HTTPIngressPath}
    (h : addPathItem ext api conf ingress hostname ingressConf path = .ok ingressConf')
    (hread : AllRead api ingressConf) : AllRead api ingressConf' := by
  unfold addPathItem at h
  cases hservice : path.service with
  | none =>
      rw [hservice] at h
      cases h
      exact hread
  | some backend =>
      rw [hservice] at h
      obtain ⟨middlewares, usedSecrets, endpoint, pathType, httpProxyConf, hms, hendpoint, _, _,
        rfl⟩ := addPath_eq_ok.mp h
      obtain ⟨service, _, hget, _, _⟩ := backendEndpoint_eq_ok.mp hendpoint
      exact ⟨read_append hread.services hget, getMiddlewares_recorded hms hread.secrets⟩

theorem addRule_read {ingressConf ingressConf' : IngressConfiguration} {rule : IngressRule}
    (h : addRule ext api conf ingress ingressConf rule = .ok ingressConf')
    (hread : AllRead api ingressConf) : AllRead api ingressConf' := by
  unfold addRule at h
  cases hhttp : rule.http with
  | none =>
      rw [hhttp] at h
      cases h
  | some paths =>
      rw [hhttp] at h
      exact foldlM_invariant (fun _ _ _ _ hstep => addPathItem_read hstep) h hread

theorem addTlsItem_read {ingressConf ingressConf' : IngressConfiguration} {item : IngressTLS}
    (h : addTlsItem ext api ingress ingressConf item = .ok ingressConf')
    (hread : AllRead api ingressConf) : AllRead api ingressConf' := by
  unfold addTlsItem at h
  by_cases hskip : item.secretName.isEmpty = true
  · rw [if_pos hskip] at h
    cases h
    exact hread
  · rw [if_neg hskip] at h
    obtain ⟨cert, hcert, h⟩ := bind_eq_ok.mp h
    cases h
    obtain ⟨secret, hsecret, _⟩ := bind_eq_ok.mp (wrapErr_eq_ok.mp hcert)
    exact ⟨hread.services, read_append hread.secrets (errorf_eq_ok.mp hsecret)⟩

/-- **What a successful reconcile recorded, it has read.** -/
theorem recorded_read {cfg : IngressConfiguration}
    (h : reconcileIngress ext api conf ingress = .ok cfg) : AllRead api cfg := by
  obtain ⟨ingressConf, hrules, htls⟩ := bind_eq_ok.mp h
  have hempty : AllRead api IngressConfiguration.empty :=
    ⟨fun n hn => absurd hn List.not_mem_nil, fun n hn => absurd hn List.not_mem_nil⟩
  have hmiddle : AllRead api ingressConf :=
    foldlM_invariant (fun _ _ _ _ hstep => addRule_read hstep) hrules hempty
  exact foldlM_invariant (fun _ _ _ _ hstep => addTlsItem_read hstep) (wrapErr_eq_ok.mp htls)
    hmiddle

/-! ## §3. The same reads again. -/

variable (api api') in
/-- What the one server answered for a recorded object, the other one answers too. -/
structure ReadsAgain (cfg : IngressConfiguration) : Prop where
  services : ∀ n ∈ cfg.usedServices, ∀ s, api.getService n = .ok s → api'.getService n = .ok s
  secrets : ∀ n ∈ cfg.usedSecrets, ∀ s, api.getSecret n = .ok s → api'.getSecret n = .ok s

/-- A reconcile yields the same on a server that answers its successful reads alike. -/
theorem reconcileIngress_again (hconf : StandardConf ext conf) {cfg : IngressConfiguration}
    (h : reconcileIngress ext api conf ingress = .ok cfg) (hagain : ReadsAgain api api' cfg) :
    reconcileIngress ext api' conf ingress = .ok cfg := by
  have hread := recorded_read h
  have hagree : AgreeOn api api' cfg := by
    refine ⟨fun n hn => ?_, fun n hn => ?_⟩
    · obtain ⟨s, hs⟩ := hread.services n hn
      rw [hs]
      exact hagain.services n hn s hs
    · obtain ⟨s, hs⟩ := hread.secrets n hn
      rw [hs]
      exact hagain.secrets n hn s hs
  -- the two loops run alike, the TLS sections first since the record grows
  obtain ⟨ingressConf, hrules, htls⟩ := bind_eq_ok.mp h
  obtain ⟨htls', hmiddle⟩ := foldlM_transfer
    (fun _ _ _ hstep => addTlsItem_agree hstep) (wrapErr_eq_ok.mp htls) hagree
  obtain ⟨hrules', _⟩ := foldlM_transfer
    (fun _ _ _ hstep => addRule_agree hconf hstep) hrules hmiddle
  exact bind_eq_ok.mpr ⟨ingressConf, hrules', wrapErr_eq_ok.mpr htls'⟩

end

end SIngress.Controller
