/-
  SIngress.Config.Conf — THE CONTROLLER CONFIGURATION and its parser.

  `ControllerConf` of `pkg/config/config.go`, and `ParseYamlConfig` of
  `config_yaml.go`: everything the decoded file goes through before it becomes
  the configuration, with the texts of its errors.  A module section stays the
  YAML text it was read as until the module decodes it.
-/
import SIngress.Config.Module
import SIngress.Platform.Ext

namespace SIngress.Config

open SIngress.Base SIngress.Lib SIngress.K8s SIngress.Platform

/-! ## §1. The types. -/

/-- `config.ControllerEnvConf`. -/
structure ControllerEnvConf where
  namesp : GoString
  controllerName : GoString
  controllerConfigMap : NamespacedName
  deriving DecidableEq

/-- `config.GeneralProxyConf`; the template is its text. -/
structure GeneralProxyConf where
  trustedProxies : List Prefix
  errorPage : GoString
  deriving DecidableEq

/-- `config.IngressProxyConf`. -/
structure IngressProxyConf where
  maxBodySize : Int
  deriving DecidableEq

/-- `config.TcpProxyConf`. -/
structure TcpProxyConf where
  port : Int
  service : NamespacedName
  servicePortName : GoString
  deriving DecidableEq

/-- `config.ControllerConf`; `defaultTlsSecret` is `Tls.DefaultTlsSecret`. -/
structure ControllerConf where
  upstreamServiceName : Option GoString
  disableStatusUpdate : Bool
  tcpProxy : List TcpProxyConf
  defaultTlsSecret : GoString
  generalProxy : GeneralProxyConf
  ingressProxy : IngressProxyConf
  modules : List ModuleInstance
  moduleConfigs : GoMap GoString GoString
  usedSecrets : List NamespacedName

/-- `ControllerConf.GetModuleConf`: an absent section leaves the zero value. -/
def ControllerConf.getModuleConf {α : Type} (conf : ControllerConf) (name : GoString)
    (decode : GoString → Except GoError α) (zero : α) : Except Fail α :=
  match conf.moduleConfigs.lookup name with
  | none => .ok zero
  | some section_ => errorf (lit "error decoding module config: ") (decode section_)

/-- `config.ModuleCreator`, given the namespace its reconciler reports. -/
abbrev ModuleCreator := GoString → ControllerConf → Reading ModuleInstance

/-! ## §2. Sizes. -/

/-- `sizeMap`, the multiplier of a unit. -/
def sizeMap : List (GoString × Int) :=
  [(lit "", 1), (lit "k", 1000), (lit "kb", 1000), (lit "kib", 2 * 2 ^ 9),
   (lit "m", 10000000), (lit "mb", 10000000), (lit "mib", 2 * 2 ^ 19),
   (lit "g", 10000000000), (lit "gb", 10000000000), (lit "gib", 2 * 2 ^ 29)]

def isDigit (b : UInt8) : Bool := 0x30 ≤ b && b ≤ 0x39

/-- The class `[A-z]`, which also holds the six characters between `Z` and `a`. -/
def isUnitByte (b : UInt8) : Bool := 0x41 ≤ b && b ≤ 0x7A

def decimalValue (digits : GoString) : Nat :=
  digits.foldl (fun n b => 10 * n + (b.toNat - 0x30)) 0

/-- `ParseByteSize`; the product is an `int64`. -/
def parseByteSize (ext : Ext) (sizeRaw : GoString) : Except Fail Int :=
  let digits := sizeRaw.takeWhile isDigit
  let unit := sizeRaw.dropWhile isDigit
  if digits.isEmpty || !unit.all isUnitByte then
    .error (.err (lit "invalid size: " ++ ext.quote sizeRaw))
  else if decimalValue digits ≥ 2 ^ 63 then
    .error (.err (lit "invalid size: " ++ ext.quote sizeRaw))
  else
    match sizeMap.lookup (toLowerAscii unit) with
    | none => .error (.err (lit "invalid unit: " ++ ext.quote unit))
    | some multiplier => .ok (Int.bmod (decimalValue digits * multiplier) (2 ^ 64))

/-! ## §3. Parsing the file. -/

/-- `error.tmpl`. -/
def defaultErrorPage : GoString :=
  lit "<!DOCTYPE html>\n<html lang=\"en\">\n<head>\n\t<title>" ++
  lit "\x7b\x7b .Status \x7d\x7d - \x7b\x7b .StatusText \x7d\x7d</title>\n</head>\n<body>\n<h1>" ++
  lit "\x7b\x7b .Status \x7d\x7d - \x7b\x7b .StatusText \x7d\x7d</h1>\n<p>" ++
  lit "\x7b\x7b .Message \x7d\x7d</p>\n<p>Request ID: <i>\x7b\x7b .RequestID \x7d\x7d</i></p>\n" ++
  lit "</body>\n</html>"

/-- `defaultVal` at strings. -/
def defaultVal (value defaultValue : GoString) : GoString :=
  if value.isEmpty then defaultValue else value

section

variable (ext : Ext)

/-- `parseProxyIngressConf`. -/
def parseProxyIngressConf (conf : ProxyYaml) : Except Fail IngressProxyConf :=
  if conf.maxBodySize.isEmpty then .ok ⟨4096⟩
  else do
    let maxBodySize ← wrapErr (lit "proxy config: ") (parseByteSize ext conf.maxBodySize)
    pure ⟨maxBodySize⟩

/-- `parseGeneralProxyConf`. -/
def parseGeneralProxyConf (conf : ProxyYaml) : Except Fail GeneralProxyConf := do
  let trustedProxies ← conf.trustedProxies.mapM fun trustedProxy =>
    errorf (lit "invalid trusted proxy ip " ++ ext.quote trustedProxy ++ lit ": ")
      (ext.parsePrefix trustedProxy)
  let errorPage := defaultVal conf.errorPage defaultErrorPage
  checkf (lit "failed to parse error page: ") (ext.templateParse errorPage)
  pure ⟨trustedProxies, errorPage⟩

/-- `parseTcpProxyConf`. -/
def parseTcpProxyConf (conf : List TcpProxyYaml) : List TcpProxyConf :=
  conf.map fun tcpConf =>
    { port := tcpConf.port
      service := ⟨tcpConf.serviceNamespace, tcpConf.serviceName⟩
      servicePortName := tcpConf.servicePortName }

/-- `parseConfig`. -/
def parseConfig (conf : ControllerYaml) : Except Fail ControllerConf := do
  let generalProxy ←
    wrapErr (lit "ingress proxy config: ") (parseGeneralProxyConf ext conf.proxy)
  let ingressProxy ←
    wrapErr (lit "ingress proxy config: ") (parseProxyIngressConf ext conf.proxy)
  pure
    { upstreamServiceName := conf.upstreamServiceName
      disableStatusUpdate := conf.disableStatusUpdate
      tcpProxy := parseTcpProxyConf conf.tcpProxy
      defaultTlsSecret := conf.defaultTlsSecret
      generalProxy := generalProxy
      ingressProxy := ingressProxy
      modules := []
      moduleConfigs := conf.module
      usedSecrets := [] }

/-- The zero `controllerConf`. -/
def zeroControllerYaml : ControllerYaml :=
  ⟨none, false, [], [], ⟨[], [], []⟩, ∅⟩

/-- `decode`, skipped for an empty file. -/
def decodeYaml (data : GoString) : Except Fail ControllerYaml :=
  if data.isEmpty then .ok zeroControllerYaml
  else errorf (lit "failed to parse config: ") (ext.decodeController data)

/-- `ParseYamlConfig`. -/
def parseYamlConfig (data : GoString) : Except Fail ControllerConf :=
  wrapErr (lit "failed to parse config: ") (decodeYaml ext data >>= parseConfig ext)

/-- A parsed file has no modules yet. -/
theorem parseYamlConfig_modules {data : GoString} {conf : ControllerConf}
    (h : parseYamlConfig ext data = .ok conf) : conf.modules = [] := by
  obtain ⟨yaml, _, h⟩ := bind_eq_ok.mp (wrapErr_eq_ok.mp h)
  obtain ⟨general, _, h⟩ := bind_eq_ok.mp h
  obtain ⟨ingress, _, h⟩ := bind_eq_ok.mp h
  cases h
  rfl

end

end SIngress.Config
