/-
  SIngress.Config.Yaml — THE CONFIGURATION FILE as decoded from YAML.

  The unexported structs of `pkg/config/config_yaml.go` and the module sections
  that `GetModuleConf` decodes.  Decoding itself is a library call.
-/
import SIngress.Base.GoString
import SIngress.Lib.GoMap
import SIngress.Proxy.Middleware

namespace SIngress.Config

open SIngress.Base SIngress.Lib

/-- `config.tcpProxyConf`. -/
structure TcpProxyYaml where
  serviceName : GoString
  serviceNamespace : GoString
  servicePortName : GoString
  port : Int
  deriving DecidableEq

/-- `config.proxyConf`. -/
structure ProxyYaml where
  maxBodySize : GoString
  trustedProxies : List GoString
  errorPage : GoString
  deriving DecidableEq

/-- `config.controllerConf`; a module section is kept as its YAML text. -/
structure ControllerYaml where
  upstreamServiceName : Option GoString
  disableStatusUpdate : Bool
  tcpProxy : List TcpProxyYaml
  defaultTlsSecret : GoString
  proxy : ProxyYaml
  module : GoMap GoString GoString
  deriving DecidableEq

/-- `oidc.ClientConfig`, the section of one OIDC client. -/
structure OidcClientYaml where
  issuerUrl : GoString
  callbackDomain : GoString
  cookieDomain : GoString
  clientSecretName : GoString
  authExpiration : GoString
  deriving DecidableEq

end SIngress.Config
