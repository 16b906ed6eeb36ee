/-
  SIngress.Proxy.Metrics — WHAT IS COUNTED ABOUT A REQUEST (`pkg/proxy/metrics.go`).

  At its end a request is counted under four labels: its ingress, its `Host`, the
  status and the path of its route.  The metrics library panics on a label value
  that is not valid UTF-8, and a `Host` is whatever bytes the client sent.  The
  library is a parameter: which values it refuses, and what it panics with.

    • `recordRequest_some`     — recording changes nothing about the request,
    • `recordRequest_ok_iff`   — it panics exactly on a `Host` or a route label
                                 that is refused.
-/
import SIngress.Proxy.Context

namespace SIngress.Proxy

open SIngress.Base SIngress.Lib

/-! ## §1. The metrics library. -/

/-- `prometheus.Labels`. -/
abbrev Labels := List (GoString × GoString)

/-- The vectors of `metrics`, as far as `With` can fail: it panics unless it accepts every
value, and it accepts ASCII. -/
structure Metrics where
  validLabel : GoString → Bool
  /-- What `With` panics with, if it does. -/
  withLabels : Labels → Option GoError
  withLabels_eq_none : ∀ labels, withLabels labels = none ↔
    ∀ label ∈ labels, validLabel label.2 = true
  ascii : ∀ value, (∀ b ∈ value, b < 0x80) → validLabel value = true

/-- A library that asks for valid UTF-8, and names a label it refused. -/
def Metrics.utf8 : Metrics where
  validLabel := validUtf8
  withLabels labels :=
    (labels.find? fun label => !validUtf8 label.2).map fun label =>
      lit "label " ++ label.1 ++ lit ": value is not valid UTF-8"
  withLabels_eq_none labels := by
    rw [Option.map_eq_none_iff, List.find?_eq_none]
    simp only [Bool.not_eq_true', Bool.not_eq_false]
  ascii _ := validUtf8_of_ascii

/-! ## §2. `recordRequest`. -/

def labelIngress : GoString := lit "ingress"
def labelDomain : GoString := lit "domain"
def labelStatus : GoString := lit "status"
def labelPath : GoString := lit "path"

/-- A vector is asked for the metric of these labels. -/
def Metrics.observe (m : Metrics) (labels : Labels) : Serve Unit :=
  match m.withLabels labels with
  | none => pure ()
  | some err => throw (.panic err)

/-- The labels of `requestTotals`. -/
def totalLabels (c : RequestContext) : Labels :=
  [(labelIngress, (c.matchedRoute.map RouteConfig.ingressName).getD (lit "-")),
   (labelDomain, c.r.host),
   (labelStatus, itoa c.w.writtenStatusCode),
   (labelPath, (c.matchedRoute.map RouteConfig.path).getD (lit "-"))]

/-- The label of `requestDurations`. -/
def durationLabels (c : RequestContext) : Labels :=
  [(labelIngress, (c.matchedRoute.map RouteConfig.ingressName).getD (lit "-"))]

/-- `recordRequest`; `metrics` is nil without `WithMetrics`. -/
def recordRequest : Option Metrics → Serve Unit
  | none => pure ()
  | some m => do
      let c ← get
      m.observe (totalLabels c)
      m.observe (durationLabels c)

/-! ## §3. When it panics. -/

section

variable {m : Metrics} {c : RequestContext}

/-- What the two vectors panic with, if one does. -/
def Metrics.refusal (m : Metrics) (c : RequestContext) : Option GoError :=
  (m.withLabels (totalLabels c)).or (m.withLabels (durationLabels c))

/-- How a call ends that panics or returns. -/
def panicOf : Option GoError → Except Fail Unit
  | none => .ok ()
  | some err => .error (.panic err)

theorem recordRequest_some (m : Metrics) (c : RequestContext) :
    recordRequest (some m) c = (panicOf (m.refusal c), c) := by
  show (m.observe (totalLabels c) >>= fun _ => m.observe (durationLabels c)) c = _
  rw [bind_run]
  unfold Metrics.observe Metrics.refusal
  cases m.withLabels (totalLabels c) with
  | some err => rfl
  | none =>
      cases m.withLabels (durationLabels c) with
      | some err => rfl
      | none => rfl

/-- Recording a request changes nothing about it. -/
theorem recordRequest_context (metrics : Option Metrics) (c : RequestContext) :
    (recordRequest metrics c).2 = c := by
  cases metrics with
  | none => rfl
  | some m => rw [recordRequest_some]

/-- The labels of a request that a library can refuse: those that are not ASCII by themselves. -/
structure Metrics.Accepts (m : Metrics) (host : GoString) (route? : Option RouteConfig) : Prop where
  host : m.validLabel host = true
  route : ∀ route, route? = some route →
    m.validLabel route.ingressName = true ∧ m.validLabel route.path = true

theorem totalLabels_valid (hstatus : 0 ≤ c.w.writtenStatusCode) :
    (∀ label ∈ totalLabels c, m.validLabel label.2 = true) ↔ m.Accepts c.r.host c.matchedRoute := by
  have hdash : m.validLabel (lit "-") = true := by
    refine m.ascii _ fun b hb => ?_
    rw [List.mem_singleton.mp hb]
    decide
  have hcode : m.validLabel (itoa c.w.writtenStatusCode) = true := by
    obtain ⟨n, hn⟩ := Int.eq_ofNat_of_zero_le hstatus
    rw [hn]
    refine m.ascii _ fun b hb => ?_
    have hdigit := isDecimal_of_mem_itoa hb
    simp only [isDecimal, Bool.and_eq_true, decide_eq_true_eq] at hdigit
    exact UInt8.lt_of_le_of_lt hdigit.2 (by decide)
  unfold totalLabels
  simp only [List.mem_cons, List.not_mem_nil, or_false, forall_eq_or_imp, forall_eq, hcode,
    true_and]
  cases c.matchedRoute with
  | none =>
      constructor
      · intro h
        exact ⟨h.2.1, fun _ hroute => by cases hroute⟩
      · intro h
        exact ⟨hdash, h.host, hdash⟩
  | some route =>
      constructor
      · intro h
        refine ⟨h.2.1, fun route' hroute => ?_⟩
        cases hroute
        exact ⟨h.1, h.2.2⟩
      · intro h
        exact ⟨(h.route route rfl).1, h.host, (h.route route rfl).2⟩

/-- The ingress of the second vector is among the labels of the first. -/
theorem refusal_eq_none_iff : m.refusal c = none ↔
    ∀ label ∈ totalLabels c, m.validLabel label.2 = true := by
  unfold Metrics.refusal
  rw [Option.or_eq_none_iff, m.withLabels_eq_none, m.withLabels_eq_none]
  refine and_iff_left_of_imp fun htotal label hlabel => htotal label ?_
  rw [List.mem_singleton.mp hlabel]
  exact List.mem_cons_self

/-- **Recording panics exactly on a label that is refused.** -/
theorem recordRequest_ok_iff (hstatus : 0 ≤ c.w.writtenStatusCode) :
    (recordRequest (some m) c).1 = .ok () ↔ m.Accepts c.r.host c.matchedRoute := by
  rw [← totalLabels_valid hstatus, ← refusal_eq_none_iff, recordRequest_some]
  cases m.refusal c with
  | none => exact iff_of_true rfl rfl
  | some err => exact iff_of_false (fun h => by cases h) fun h => by cases h

end

end SIngress.Proxy
