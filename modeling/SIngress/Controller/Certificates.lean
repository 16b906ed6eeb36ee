/-
  SIngress.Controller.Certificates — WHICH CERTIFICATE A HANDSHAKE GETS.

  The routing configuration documents the keys of its certificates: an asterisk
  stands for the single name in the first DNS part.  The controller writes such
  keys, for the TLS hosts of an Ingress are bound as they are written.  The two
  `GetCertificate` callbacks of `pkg/proxy/proxy_http.go` look the server name up
  as it is and turn to the default otherwise, so a key with an asterisk is found
  by no handshake.

    • `certificate_honoured_iff`     — a server name gets the documented certificate
                                       exactly if it has one of its own, no wildcard
                                       covers it, or the wildcard's is the default,
    • `certificate_honoured_all_iff` — the same for all server names at once,
    • `wildcard_certificate_unused`  — a certificate for `*.a.org` that a handshake
                                       with `x.a.org` does not get.
-/
import SIngress.Controller.Wildcards

/-! ## §1. The callbacks. -/

namespace SIngress.Proxy

open SIngress.Base

/-- The body that the two callbacks share; `routingConfig` is the stored pointer. -/
def selectCertificate (routingConfig : Option RoutingConfig) (serverName : GoString) :
    Except GoError (Option Certificate) :=
  match routingConfig with
  | none => .error (lit "no routing configuration")
  | some conf =>
      match conf.tlsCertificates.lookup serverName with
      | some certificate => .ok (some certificate)
      | none => .ok conf.defaultTlsCertificate

/-- `GetCertificate` of the server that `startQuic` starts. -/
def startQuic.getCertificate (routingConfig : Option RoutingConfig) (serverName : GoString) :
    Except GoError (Option Certificate) :=
  selectCertificate routingConfig serverName

/-- `GetCertificate` of the listener that `startHttps` opens. -/
def startHttps.getCertificate (routingConfig : Option RoutingConfig) (serverName : GoString) :
    Except GoError (Option Certificate) :=
  selectCertificate routingConfig serverName

/-- Only the server name itself is looked up. -/
theorem selectCertificate_some (conf : RoutingConfig) (serverName : GoString) :
    selectCertificate (some conf) serverName
      = .ok ((conf.tlsCertificates.lookup serverName).or conf.defaultTlsCertificate) := by
  unfold selectCertificate
  dsimp only
  cases conf.tlsCertificates.lookup serverName <;> rfl

end SIngress.Proxy

namespace SIngress.Controller

open SIngress.Base SIngress.Lib SIngress.K8s SIngress.Platform SIngress.Config SIngress.Proxy
open SIngress.Modules

/-! ## §2. The property and the condition. -/

/-- A configured ingress holds the certificate for the TLS host. -/
def Certifies (state : K8sState) (h : GoString) (cert : Certificate) : Prop :=
  ∃ n c, state.configured n = some c ∧ c.tlsCertificates.lookup h = some cert

/-- Some ingress configured the TLS host. -/
def Certified (state : K8sState) (h : GoString) : Prop := ∃ cert, Certifies state h cert

/-- The server name is one label below `d`. -/
def LabelBelow (n d : GoString) : Prop :=
  ∃ l, l ≠ [] ∧ byteDot ∉ l ∧ n = subdomain l d

/-- The certificate that the documented keys give the server name `n`. -/
structure Selects (state : K8sState) (n : GoString) (chosen : Option Certificate) : Prop where
  own : Certified state n → ∃ cert, Certifies state n cert ∧ chosen = some cert
  /-- The asterisk is the first label. -/
  wildcard : ¬ Certified state n → ∀ d, LabelBelow n d → Certified state (wildcardHost d) →
    ∃ cert, Certifies state (wildcardHost d) cert ∧ chosen = some cert
  default : ¬ Certified state n → (∀ d, LabelBelow n d → ¬ Certified state (wildcardHost d)) →
    chosen = state.defaultTlsSecret

/-- Both callbacks choose the documented certificate. -/
def KeysHonoured (state : K8sState) (cfg : RoutingConfig) (n : GoString) : Prop :=
  (∃ chosen, startHttps.getCertificate (some cfg) n = .ok chosen ∧ Selects state n chosen)
    ∧ ∃ chosen, startQuic.getCertificate (some cfg) n = .ok chosen ∧ Selects state n chosen

/-- The wildcard certificate, if there is one, is also the default. -/
def WildcardIsDefault (state : K8sState) (d : GoString) : Prop :=
  Certified state (wildcardHost d) →
    ∃ cert, Certifies state (wildcardHost d) cert ∧ state.defaultTlsSecret = some cert

/-- The server name needs no wildcard key. -/
def WildcardUnneeded (state : K8sState) (n : GoString) : Prop :=
  Certified state n ∨ ∀ d, LabelBelow n d → WildcardIsDefault state d

/-! ## §3. The certificates of a build, by what is configured. -/

section

variable {ext : Ext} {env : ControllerEnvConf} {load : Outside → Except Fail ControllerConf}
  {s : Sys} {state : K8sState} {vs : List EntryVisit} {cfg : RoutingConfig} {h n : GoString}

theorem mem_visits_tls_iff_certifies (hvs : Visits state.ingresses vs) {cert : Certificate} :
    (h, cert) ∈ vs.flatMap visitTls ↔ Certifies state h cert := by
  rw [mem_visits_tls]
  unfold Certifies K8sState.configured
  constructor
  · rintro ⟨v, hv, c, hc, hlook⟩
    exact ⟨v.name, c, Option.bind_eq_some_iff.mpr ⟨v.entry, hvs.lookup hv, hc⟩, hlook⟩
  · rintro ⟨m, c, hc, hlook⟩
    obtain ⟨e, he, hc⟩ := Option.bind_eq_some_iff.mp hc
    obtain ⟨v, hv, _, rfl⟩ := hvs.exists_visit he
    exact ⟨v, hv, c, hc, hlook⟩

/-- A certificate of the table is one that an ingress holds for the host. -/
theorem certifies_of_lookup (hvs : Visits state.ingresses vs)
    (hcfg : getProxyConfig state vs = .ok cfg) {cert : Certificate}
    (hlook : cfg.tlsCertificates.lookup h = some cert) : Certifies state h cert := by
  obtain ⟨_, _, _, _, rfl⟩ := getProxyConfig_eq_ok.mp hcfg
  exact (mem_visits_tls_iff_certifies hvs).mp (lookup_publishedTls hlook)

/-- A key stands in the table exactly if an ingress configured it. -/
theorem lookup_tls_isSome (hvs : Visits state.ingresses vs)
    (hcfg : getProxyConfig state vs = .ok cfg) :
    (cfg.tlsCertificates.lookup h).isSome = true ↔ Certified state h := by
  obtain ⟨_, _, _, _, rfl⟩ := getProxyConfig_eq_ok.mp hcfg
  rw [publishedTls_isSome]
  exact exists_congr fun cert => mem_visits_tls_iff_certifies hvs

theorem lookup_tls_eq_none (hvs : Visits state.ingresses vs)
    (hcfg : getProxyConfig state vs = .ok cfg) (hnone : ¬ Certified state h) :
    cfg.tlsCertificates.lookup h = none := by
  rw [← Option.not_isSome_iff_eq_none]
  exact fun hsome => hnone ((lookup_tls_isSome hvs hcfg).mp hsome)

theorem defaultTls_built (hcfg : getProxyConfig state vs = .ok cfg) :
    cfg.defaultTlsCertificate = state.defaultTlsSecret := by
  obtain ⟨_, _, _, _, rfl⟩ := getProxyConfig_eq_ok.mp hcfg
  rfl

/-! ## §4. The condition is exact. -/

/-- A server name with a certificate of its own. -/
theorem selects_own (hvs : Visits state.ingresses vs)
    (hcfg : getProxyConfig state vs = .ok cfg) (hown : Certified state n) :
    Selects state n ((cfg.tlsCertificates.lookup n).or cfg.defaultTlsCertificate) := by
  obtain ⟨cert, hcert⟩ := Option.isSome_iff_exists.mp ((lookup_tls_isSome hvs hcfg).mpr hown)
  rw [hcert, Option.some_or]
  refine ⟨fun _ => ⟨cert, certifies_of_lookup hvs hcfg hcert, rfl⟩, ?_, ?_⟩
  · exact fun hnone => absurd hown hnone
  · exact fun hnone => absurd hown hnone

/-- For any other server name the default is the documented one exactly if no wildcard covers
the name with a certificate of its own. -/
theorem selects_default_iff (hnone : ¬ Certified state n) :
    Selects state n state.defaultTlsSecret
      ↔ ∀ d, LabelBelow n d → WildcardIsDefault state d := by
  constructor
  · intro hsel d hbelow hwild
    exact hsel.wildcard hnone d hbelow hwild
  · intro hall
    refine ⟨fun hown => absurd hown hnone, ?_, fun _ _ => rfl⟩
    intro _ d hbelow hwild
    exact hall d hbelow hwild

theorem selects_chosen_iff (hvs : Visits state.ingresses vs)
    (hcfg : getProxyConfig state vs = .ok cfg) :
    Selects state n ((cfg.tlsCertificates.lookup n).or cfg.defaultTlsCertificate)
      ↔ WildcardUnneeded state n := by
  by_cases hown : Certified state n
  · exact ⟨fun _ => Or.inl hown, fun _ => selects_own hvs hcfg hown⟩
  · rw [lookup_tls_eq_none hvs hcfg hown, Option.none_or, defaultTls_built hcfg,
      selects_default_iff hown]
    exact ⟨Or.inr, fun hor => hor.resolve_left hown⟩

/-- The two callbacks read the same table in the same way. -/
theorem keysHonoured_iff_selects :
    KeysHonoured state cfg n
      ↔ Selects state n ((cfg.tlsCertificates.lookup n).or cfg.defaultTlsCertificate) := by
  unfold KeysHonoured startHttps.getCertificate startQuic.getCertificate
  rw [selectCertificate_some]
  constructor
  · rintro ⟨⟨chosen, hchosen, hsel⟩, _⟩
    rw [Except.ok.inj hchosen]
    exact hsel
  · intro hsel
    exact ⟨⟨_, rfl, hsel⟩, _, rfl, hsel⟩

/-- **Which server names get the documented certificate**: those with a certificate of their
own and those that no wildcard certificate other than the default covers. -/
theorem certificate_honoured_iff (hvs : Visits state.ingresses vs)
    (hcfg : getProxyConfig state vs = .ok cfg) (n : GoString) :
    KeysHonoured state cfg n ↔ WildcardUnneeded state n := by
  rw [keysHonoured_iff_selects]
  exact selects_chosen_iff hvs hcfg

/-- Some label below `d` has no certificate of its own. -/
theorem exists_uncertified_label (hvs : Visits state.ingresses vs)
    (hcfg : getProxyConfig state vs = .ok cfg) (d : GoString) :
    ∃ n, LabelBelow n d ∧ ¬ Certified state n := by
  obtain ⟨keys, hkeys⟩ := GoMap.exists_ranges cfg.tlsCertificates
  obtain ⟨l, hne, hl, hfresh⟩ := exists_label_not_mem (keys.map Prod.fst) d
  refine ⟨subdomain l d, ⟨l, hne, hl, rfl⟩, fun hown => ?_⟩
  obtain ⟨cert, hcert⟩ := Option.isSome_iff_exists.mp ((lookup_tls_isSome hvs hcfg).mpr hown)
  exact hfresh (List.mem_map.mpr ⟨(subdomain l d, cert), hkeys.mem_iff.mpr hcert, rfl⟩)

/-- For all server names at once: a wildcard certificate is honoured only where it is the
default. -/
theorem certificate_honoured_all_iff (hvs : Visits state.ingresses vs)
    (hcfg : getProxyConfig state vs = .ok cfg) :
    (∀ n, KeysHonoured state cfg n) ↔ ∀ d, WildcardIsDefault state d := by
  have hone : ∀ n, KeysHonoured state cfg n ↔ WildcardUnneeded state n := fun n =>
    keysHonoured_iff_selects.trans (selects_chosen_iff hvs hcfg)
  constructor
  · intro hall d
    obtain ⟨n, hbelow, hnone⟩ := exists_uncertified_label hvs hcfg d
    exact ((hone n).mp (hall n)).resolve_left hnone d hbelow
  · intro hall n
    exact (hone n).mpr (Or.inr fun d _ => hall d)

end

/-! ## §5. One ingress with one TLS host. -/

/-- The ingress `ns/a` without rules that lists one TLS host. -/
def tlsIngress (host : GoString) : Ingress :=
  Ingress.small (lit "a") ∅ [] [⟨[host], lit "tls"⟩]

def tlsConfiguration (host : GoString) : IngressConfiguration :=
  { IngressConfiguration.empty with
    usedSecrets := [⟨lit "ns", lit "tls"⟩]
    tlsCertificates := (∅ : GoMap GoString Certificate).insert host ⟨lit "crt", lit "key"⟩ }

theorem configures_tls (host : GoString) :
    Configures Api.certifying (tlsIngress host) (tlsConfiguration host) := ⟨rfl, rfl⟩

/-- The only certificate of the small system. -/
theorem tlsIngress_certifies {cfg : RoutingConfig} {host h : GoString} {cert : Certificate} :
    Certifies (Sys.configuring Api.certifying cfg [tlsIngress host]).state h cert
      ↔ h = host ∧ cert = ⟨lit "crt", lit "key"⟩ := by
  unfold Certifies K8sState.configured
  constructor
  · rintro ⟨n, c, hc, hlook⟩
    obtain ⟨e, he, hc⟩ := Option.bind_eq_some_iff.mp hc
    obtain ⟨_, rfl⟩ := (configuring_entry (configures_tls host)).mp he
    cases hc
    unfold tlsConfiguration at hlook
    dsimp only at hlook
    rw [GoMap.lookup_insert_eq, Finmap.lookup_empty] at hlook
    split_ifs at hlook with hhost
    exact ⟨hhost, (Option.some.inj hlook).symm⟩
  · rintro ⟨rfl, rfl⟩
    have hentry := (@configuring_entry Api.certifying _ _ cfg (configures_tls h)
      smallName _).mpr ⟨rfl, rfl⟩
    exact ⟨smallName, tlsConfiguration h, Option.bind_eq_some_iff.mpr ⟨_, hentry, rfl⟩,
      Finmap.lookup_insert _⟩

theorem tlsIngress_certified (cfg : RoutingConfig) (host : GoString) :
    Certifies (Sys.configuring Api.certifying cfg [tlsIngress host]).state host
      ⟨lit "crt", lit "key"⟩ :=
  tlsIngress_certifies.mpr ⟨rfl, rfl⟩

/-- The server name `a.org` of the TLS host `a.org`. -/
theorem certificate_honoured_own : ∃ s vs cfg,
    Sys.Reached Ext.small smallEnv smallLoad s ∧ Visits s.state.ingresses vs
      ∧ getProxyConfig s.state vs = .ok cfg
      ∧ Certifies s.state (lit "a.org") ⟨lit "crt", lit "key"⟩
      ∧ KeysHonoured s.state cfg (lit "a.org") := by
  obtain ⟨cfg₀, vs, cfg, hreach, hvs, hcfg⟩ :=
    configuring_reached (.cons (configures_tls (lit "a.org")) .nil)
  have hown := tlsIngress_certified cfg₀ (lit "a.org")
  exact ⟨_, vs, cfg, hreach, hvs, hcfg, hown,
    (certificate_honoured_iff hvs hcfg (lit "a.org")).mpr (Or.inl ⟨_, hown⟩)⟩

/-- A certificate for `*.a.org`: both callbacks answer `x.a.org` with the default, of which
there is none. -/
theorem wildcard_certificate_unused : ∃ s vs cfg,
    Sys.Reached Ext.small smallEnv smallLoad s ∧ Visits s.state.ingresses vs
      ∧ getProxyConfig s.state vs = .ok cfg
      ∧ Certifies s.state (lit "*.a.org") ⟨lit "crt", lit "key"⟩
      ∧ ¬ Certified s.state (lit "x.a.org")
      ∧ startHttps.getCertificate (some cfg) (lit "x.a.org") = .ok none
      ∧ startQuic.getCertificate (some cfg) (lit "x.a.org") = .ok none
      ∧ ¬ KeysHonoured s.state cfg (lit "x.a.org") := by
  obtain ⟨cfg₀, vs, cfg, hreach, hvs, hcfg⟩ :=
    configuring_reached (.cons (configures_tls (lit "*.a.org")) .nil)
  have hwild := tlsIngress_certified cfg₀ (lit "*.a.org")
  have hnone : ¬ Certified
      (Sys.configuring Api.certifying cfg₀ [tlsIngress (lit "*.a.org")]).state
      (lit "x.a.org") := by
    rintro ⟨cert, hcert⟩
    exact absurd (tlsIngress_certifies.mp hcert).1 (by decide)
  have hdefault : (Sys.configuring Api.certifying cfg₀
      [tlsIngress (lit "*.a.org")]).state.defaultTlsSecret = none := by
    rw [configuring_state cfg₀ (.cons (configures_tls (lit "*.a.org")) .nil)]
    rfl
  have hselect : selectCertificate (some cfg) (lit "x.a.org") = .ok none := by
    rw [selectCertificate_some, lookup_tls_eq_none hvs hcfg hnone, Option.none_or,
      defaultTls_built hcfg, hdefault]
  refine ⟨_, vs, cfg, hreach, hvs, hcfg, hwild, hnone, hselect, hselect, fun hhonoured => ?_⟩
  have hsel := keysHonoured_iff_selects.mp hhonoured
  obtain ⟨cert, _, hchosen⟩ := hsel.wildcard hnone (lit "a.org")
    ⟨lit "x", by decide, by decide, rfl⟩ ⟨_, hwild⟩
  rw [lookup_tls_eq_none hvs hcfg hnone, Option.none_or, defaultTls_built hcfg, hdefault] at hchosen
  cases hchosen

end SIngress.Controller
