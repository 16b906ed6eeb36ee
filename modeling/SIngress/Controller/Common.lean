/-
  SIngress.Controller.Common — THE COMMON CONFIGURATION
  (`reconfigureControllerCommonConfig` and the updates it runs).

  A reload runs four updates one after the other, each under its own lock:
  the configuration, the default certificate, the upstream addresses and the
  TCP proxies.  The first failing update ends the reload; what earlier updates
  wrote stays written.
-/
import SIngress.Controller.Converter

namespace SIngress.Controller

open SIngress.Base SIngress.Lib SIngress.K8s SIngress.Platform SIngress.Config SIngress.Proxy
open SIngress.Modules

/-! ## §1. The four updates. -/

/-- `updateConfig`, given what `getControllerConfig` returned. -/
def updateConfig (loaded : Except Fail ControllerConf) (state : K8sState) :
    Except Fail K8sState := do
  let conf ← loaded
  pure { state with config := some conf }

section

variable (ext : Ext) (env : ControllerEnvConf)

/-- `getDefaultTls`. -/
def getDefaultTls (api : Api) (conf : ControllerConf) : Except Fail (Option Certificate) :=
  if conf.defaultTlsSecret.isEmpty then .ok none
  else do
    let cert ← getCertificateFromSecret ext api ⟨env.namesp, conf.defaultTlsSecret⟩
    pure (some cert)

/-- `getUpstreamIpAddresses`; a service that cannot be read gives no status. -/
def getUpstreamIpAddresses (api : Api) (conf : ControllerConf) :
    Option (List LoadBalancerIngress) :=
  match conf.upstreamServiceName with
  | none => none
  | some name =>
      match api.getService ⟨env.namesp, name⟩ with
      | .error _ => none
      | .ok service => some service.loadBalancer

/-- `getServiceAddrPort`. -/
def getServiceAddrPort (api : Api) (serviceName : NamespacedName) (portName : GoString) :
    Except Fail AddrPort := do
  let service ← errorf (lit "failed to get service " ++ serviceName.string ++ lit ": ")
    (api.getService serviceName)
  let ipNet ← errorf (lit "failed to parse service ip " ++ serviceName.string ++ lit ": ")
    (ext.parseAddr service.clusterIP)
  match service.ports.find? (fun p => p.name == portName) with
  | some servicePort => pure (addrPortFrom ipNet servicePort.port)
  | none =>
      throw (.err (lit "failed to find port " ++ portName ++ lit " for service " ++
        serviceName.string))

/-- The endpoint of one TCP proxy; its port is cut to `uint16`. -/
def tcpProxyOf (api : Api) (tcp : TcpProxyConf) : Except Fail TcpProxyConfig := do
  let endpoint ← wrapErr (lit "could not get service endpoint for tcp proxy: ")
    (getServiceAddrPort ext api tcp.service tcp.servicePortName)
  pure ⟨false, BitVec.ofInt 16 tcp.port, endpoint⟩

/-- The updates of a reload, in order. -/
inductive CommonStage where
  | config
  | defaultTls
  | upstreamIp
  | tcpProxy
  deriving DecidableEq

/-- The update that follows; after the last one the reload requests a rebuild. -/
def CommonStage.next : CommonStage → Option CommonStage
  | .config => some .defaultTls
  | .defaultTls => some .upstreamIp
  | .upstreamIp => some .tcpProxy
  | .tcpProxy => none

/-- The state's configuration, dereferenced. -/
def K8sState.conf (state : K8sState) : Except Fail ControllerConf :=
  match state.config with
  | none => .error (.panic nilDereference)
  | some conf => .ok conf

variable (load : Outside → Except Fail ControllerConf)

/-- One update: `updateConfig`, `updateDefaultTls`, `updateUpstreamIpAddress` or
`updateTcpProxy`, with the answers it gets from the outside. -/
def CommonStage.update (outside : Outside) (state : K8sState) :
    CommonStage → Except Fail K8sState
  | .config => wrapErr (lit "update config: ") (updateConfig (load outside) state)
  | .defaultTls => wrapErr (lit "update default TLS: ") do
      let conf ← state.conf
      let cert ← getDefaultTls ext env outside.api conf
      pure { state with defaultTlsSecret := cert }
  | .upstreamIp => wrapErr (lit "update upstream IP: ") do
      let conf ← state.conf
      pure { state with ingressLoadBalancerStatus := getUpstreamIpAddresses env outside.api conf }
  | .tcpProxy => wrapErr (lit "update tcp proxies: ") do
      let conf ← state.conf
      let proxies ← conf.tcpProxy.mapM (tcpProxyOf ext outside.api)
      pure { state with tcpProxies := proxies }

end

end SIngress.Controller
