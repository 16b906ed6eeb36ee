/-
  SIngress.Modules.Registry — THE ACTIVE MODULES (`modules/modules.go`) and
  loading the configuration (`pkg/controller/config.go`).

  `modules` is the list of creators in the order of activation.  Loading reads
  the config map, parses it and runs every creator on it; whatever the file
  says, the result holds one instance of each module in that order
  (`getControllerConfig_modules`).
-/
import SIngress.Modules.Auth
import SIngress.Modules.Headers
import SIngress.Modules.Oidc
import SIngress.Modules.Security

namespace SIngress.Modules

open SIngress.Base SIngress.Lib SIngress.K8s SIngress.Platform SIngress.Config SIngress.Proxy
open Security Auth Oidc Headers

/-! ## §1. The list. -/

/-- What the outside answers while a configuration is loaded: the API server, the
providers, and the order in which OIDC clients are visited. -/
structure Outside where
  api : Api
  newProvider : NewProvider
  clientOrder : GoMap.RangeChoice GoString OidcClientYaml

section

variable (ext : Ext)

/-- `modules.Modules`. -/
def modules (outside : Outside) : List ModuleCreator :=
  [moduleEnforceHttps ext,
   moduleIpAuth ext, moduleBasicAuth ext, moduleSubrequestAuth ext,
   moduleOidc ext outside.newProvider outside.clientOrder,
   moduleDenyRoute ext, moduleWebsocket,
   moduleCustomHeader, moduleUpstreamHeader]

/-- One instance of each module, in the order of `modules`. -/
def standardModules (defaultEnforceHttps : Bool) (configs : GoMap GoString ForwardAuthConfig)
    (clients callbackDomains : GoMap GoString ClientConfig) : List ModuleInstance :=
  [enforceHttpsModule defaultEnforceHttps,
   ipAuthModule ext, basicAuthModule ext, subrequestAuthModule ext configs,
   oidcModule ext clients callbackDomains,
   denyRouteModule ext, websocketModule,
   customHeaderModule, upstreamHeaderModule]

/-! ## §2. Loading. -/

/-- `%T` of a module creator. -/
def creatorType : GoString :=
  lit "func(context.Context, config.ModuleReconciler, *config.ControllerConf) (config.ModuleInstance, error)"

/-- The loop of `getControllerConfig` over the creators. -/
def createModules (api : Api) (namesp : GoString) :
    List ModuleCreator → ControllerConf → List NamespacedName →
      Except Fail (ControllerConf × List NamespacedName)
  | [], conf, used => .ok (conf, used)
  | creator :: rest, conf, used => do
      let (mod, used') ← wrapErr (lit "error creating module " ++ creatorType ++ lit ": ")
        ((creator namesp conf).run api used)
      createModules api namesp rest { conf with modules := conf.modules ++ [mod] } used'

/-- The file `getControllerConfig` reads. -/
def getRawConf (env : ControllerEnvConf) (api : Api) : Except Fail GoString := do
  let confMap ← errorf (lit "error getting config-map: ")
    (api.getConfigMap env.controllerConfigMap)
  match confMap.data.lookup (lit "config.yaml") with
  | none =>
      throw (.err (lit "could not find config.yaml in controller config map " ++
        env.controllerConfigMap.string))
  | some rawConf => pure rawConf

/-- `getControllerConfig`. -/
def getControllerConfig (env : ControllerEnvConf) (outside : Outside) :
    Except Fail ControllerConf := do
  let rawConf ← getRawConf env outside.api
  let conf ← wrapErr (lit "error unmarshalling config.yaml: ") (parseYamlConfig ext rawConf)
  let (conf', usedSecrets) ←
    createModules outside.api env.namesp (modules ext outside) conf []
  pure { conf' with usedSecrets := usedSecrets }

/-! ## §3. Whatever the file says, the modules are the standard ones. -/

/-- Every creator of the list contributes the instance it made. -/
theorem createModules_modules {api : Api} {namesp : GoString} {creators : List ModuleCreator} :
    ∀ {conf conf' : ControllerConf} {used used' : List NamespacedName},
      createModules api namesp creators conf used = .ok (conf', used') →
      ∃ mods, conf'.modules = conf.modules ++ mods
        ∧ List.Forall₂ (fun creator mod => ∃ conf₀ used₀ used₁,
            Reading.run api (creator namesp conf₀) used₀ = .ok (mod, used₁)) creators mods := by
  induction creators with
  | nil =>
      intro conf conf' used used' h
      cases h
      exact ⟨[], by simp, List.Forall₂.nil⟩
  | cons creator rest ih =>
      intro conf conf' used used' h
      obtain ⟨⟨mod, used₁⟩, hmod, hrest⟩ := bind_eq_ok.mp h
      obtain ⟨mods, hmods, hall⟩ := ih hrest
      refine ⟨mod :: mods, by rw [hmods]; simp, List.Forall₂.cons ?_ hall⟩
      exact ⟨conf, used, used₁, wrapErr_eq_ok.mp hmod⟩

theorem moduleEnforceHttps_run {api : Api} {namesp : GoString} {conf : ControllerConf}
    {mod : ModuleInstance} {used used' : List NamespacedName}
    (h : (moduleEnforceHttps ext namesp conf).run api used = .ok (mod, used')) :
    ∃ d, mod = enforceHttpsModule d := by
  obtain ⟨d, used₁, _, hd⟩ := Reading.run_bind_eq_ok.mp h
  exact ⟨d, (Reading.run_pure_eq_ok.mp hd).1.symm⟩

theorem moduleSubrequestAuth_run {api : Api} {namesp : GoString} {conf : ControllerConf}
    {mod : ModuleInstance} {used used' : List NamespacedName}
    (h : (moduleSubrequestAuth ext namesp conf).run api used = .ok (mod, used')) :
    ∃ configs, mod = subrequestAuthModule ext configs := by
  obtain ⟨configs, used₁, _, hd⟩ := Reading.run_bind_eq_ok.mp h
  exact ⟨configs, (Reading.run_pure_eq_ok.mp hd).1.symm⟩

theorem loadClients_run {api : Api} {newProvider : NewProvider} {namesp : GoString}
    {order : List (GoString × OidcClientYaml)} :
    ∀ {clients domains : GoMap GoString ClientConfig} {mod : ModuleInstance}
      {used used' : List NamespacedName},
      (loadClients ext newProvider namesp order clients domains).run api used = .ok (mod, used') →
      ∃ clients' domains', mod = oidcModule ext clients' domains' := by
  induction order with
  | nil =>
      intro clients domains mod used used' h
      exact ⟨clients, domains, (Reading.run_pure_eq_ok.mp h).1.symm⟩
  | cons entry rest ih =>
      intro clients domains mod used used' h
      obtain ⟨c, used₁, _, hrest⟩ := Reading.run_bind_eq_ok.mp h
      exact ih hrest

theorem moduleOidc_run {api : Api} {outside : Outside} {namesp : GoString}
    {conf : ControllerConf} {mod : ModuleInstance} {used used' : List NamespacedName}
    (h : (moduleOidc ext outside.newProvider outside.clientOrder namesp conf).run api used
      = .ok (mod, used')) :
    ∃ clients domains, mod = oidcModule ext clients domains := by
  obtain ⟨clients, used₁, _, hd⟩ := Reading.run_bind_eq_ok.mp h
  exact loadClients_run ext hd

/-- **A loaded configuration holds one instance of each module, in order.** -/
theorem getControllerConfig_modules {env : ControllerEnvConf} {outside : Outside}
    {conf : ControllerConf} (h : getControllerConfig ext env outside = .ok conf) :
    ∃ d configs clients domains, conf.modules = standardModules ext d configs clients domains := by
  obtain ⟨rawConf, _, h⟩ := bind_eq_ok.mp h
  obtain ⟨conf₀, hparse, h⟩ := bind_eq_ok.mp h
  obtain ⟨⟨conf₁, used⟩, hcreate, h⟩ := bind_eq_ok.mp h
  cases h
  obtain ⟨mods, hmods, hall⟩ := createModules_modules hcreate
  rw [parseYamlConfig_modules ext (wrapErr_eq_ok.mp hparse), List.nil_append] at hmods
  -- one instance for each creator of the list
  unfold modules at hall
  obtain _ | ⟨⟨_, _, _, h₁⟩, hall⟩ := hall
  obtain _ | ⟨⟨_, _, _, h₂⟩, hall⟩ := hall
  obtain _ | ⟨⟨_, _, _, h₃⟩, hall⟩ := hall
  obtain _ | ⟨⟨_, _, _, h₄⟩, hall⟩ := hall
  obtain _ | ⟨⟨_, _, _, h₅⟩, hall⟩ := hall
  obtain _ | ⟨⟨_, _, _, h₆⟩, hall⟩ := hall
  obtain _ | ⟨⟨_, _, _, h₇⟩, hall⟩ := hall
  obtain _ | ⟨⟨_, _, _, h₈⟩, hall⟩ := hall
  obtain _ | ⟨⟨_, _, _, h₉⟩, hall⟩ := hall
  cases hall
  obtain ⟨d, rfl⟩ := moduleEnforceHttps_run ext h₁
  obtain ⟨configs, rfl⟩ := moduleSubrequestAuth_run ext h₄
  obtain ⟨clients, domains, rfl⟩ := moduleOidc_run ext h₅
  obtain ⟨rfl, _⟩ := Reading.run_pure_eq_ok.mp h₂
  obtain ⟨rfl, _⟩ := Reading.run_pure_eq_ok.mp h₃
  obtain ⟨rfl, _⟩ := Reading.run_pure_eq_ok.mp h₆
  obtain ⟨rfl, _⟩ := Reading.run_pure_eq_ok.mp h₇
  obtain ⟨rfl, _⟩ := Reading.run_pure_eq_ok.mp h₈
  obtain ⟨rfl, _⟩ := Reading.run_pure_eq_ok.mp h₉
  exact ⟨d, configs, clients, domains, hmods⟩

end

/-! ## §4. The empty file. -/

/-- Namespace, controller name and config map to evaluate the model with. -/
def smallEnv : ControllerEnvConf :=
  ⟨lit "ns", lit "oidq.dev/s-ingress", ⟨lit "ns", lit "conf"⟩⟩

/-- The configuration that a file with nothing but a body limit loads. -/
def smallConf (limit : Int) : ControllerConf where
  upstreamServiceName := none
  disableStatusUpdate := false
  tcpProxy := []
  defaultTlsSecret := []
  generalProxy := ⟨[], defaultErrorPage⟩
  ingressProxy := ⟨limit⟩
  modules := standardModules Ext.small false ∅ ∅ ∅
  moduleConfigs := ∅
  usedSecrets := []

theorem moduleOidc_of_absent (ext : Ext) (newProvider : NewProvider) (namesp : GoString)
    (order : GoMap.RangeChoice GoString OidcClientYaml) (api : Api) {conf : ControllerConf}
    (h : conf.moduleConfigs = ∅) (used : List NamespacedName) :
    (moduleOidc ext newProvider order namesp conf).run api used
      = .ok (oidcModule ext ∅ ∅, used) := by
  unfold moduleOidc ControllerConf.getModuleConf
  rw [h, Finmap.lookup_empty]
  show (loadClients ext newProvider namesp (order.order ∅) ∅ ∅).run _ _ = _
  rw [order.order_empty]
  rfl

/-- A file without module sections loads the standard modules with their defaults. -/
theorem getControllerConfig_plain (ext : Ext) {env : ControllerEnvConf} {outside : Outside}
    {file : GoString} {conf : ControllerConf} (hraw : getRawConf env outside.api = .ok file)
    (hfile : parseYamlConfig ext file = .ok conf) (hplain : conf.moduleConfigs = ∅) :
    getControllerConfig ext env outside
      = .ok { conf with modules := standardModules ext false ∅ ∅ ∅, usedSecrets := [] } := by
  have hnone := parseYamlConfig_modules ext hfile
  obtain ⟨service, disable, tcp, tls, general, proxy, mods, sections, used⟩ := conf
  dsimp only at hnone hplain
  subst hnone hplain
  refine bind_eq_ok.mpr ⟨file, hraw, bind_eq_ok.mpr ⟨_, wrapErr_eq_ok.mpr hfile,
    bind_eq_ok.mpr ⟨(⟨service, disable, tcp, tls, general, proxy,
      standardModules ext false ∅ ∅ ∅, ∅, used⟩, []), ?_, rfl⟩⟩⟩
  refine bind_eq_ok.mpr ⟨(enforceHttpsModule false, []), rfl, ?_⟩
  refine bind_eq_ok.mpr ⟨(ipAuthModule ext, []), rfl, ?_⟩
  refine bind_eq_ok.mpr ⟨(basicAuthModule ext, []), rfl, ?_⟩
  refine bind_eq_ok.mpr ⟨(subrequestAuthModule ext ∅, []), rfl, ?_⟩
  refine bind_eq_ok.mpr ⟨(oidcModule ext ∅ ∅, []),
    wrapErr_eq_ok.mpr (moduleOidc_of_absent _ _ _ _ _ rfl _), ?_⟩
  rfl

theorem getControllerConfig_withFile {file : GoString} {limit : Int} (newProvider : NewProvider)
    (order : GoMap.RangeChoice GoString OidcClientYaml)
    (hfile : parseYamlConfig Ext.small file = .ok { smallConf limit with modules := [] }) :
    getControllerConfig Ext.small smallEnv ⟨Api.withFile file, newProvider, order⟩
      = .ok (smallConf limit) :=
  getControllerConfig_plain Ext.small rfl hfile rfl

/-- An empty file loads the default limit. -/
theorem getControllerConfig_small (newProvider : NewProvider)
    (order : GoMap.RangeChoice GoString OidcClientYaml) :
    getControllerConfig Ext.small smallEnv ⟨Api.small, newProvider, order⟩
      = .ok (smallConf 4096) :=
  getControllerConfig_withFile newProvider order rfl

end SIngress.Modules
