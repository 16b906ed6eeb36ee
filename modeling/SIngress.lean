import SIngress.Base.CookieText
import SIngress.Base.Fail
import SIngress.Base.GoString
import SIngress.Base.Http
import SIngress.Base.Netip
import SIngress.Base.NetipPrint
import SIngress.Base.NetipText
import SIngress.Base.UrlText
import SIngress.Config.ByteSize
import SIngress.Config.Conf
import SIngress.Config.Module
import SIngress.Config.Yaml
import SIngress.Controller.Admission
import SIngress.Controller.BackendPorts
import SIngress.Controller.Certificates
import SIngress.Controller.ClassRemoval
import SIngress.Controller.Cluster
import SIngress.Controller.Common
import SIngress.Controller.Convergence
import SIngress.Controller.Converter
import SIngress.Controller.Dependencies
import SIngress.Controller.EndToEnd
import SIngress.Controller.FailClosed
import SIngress.Controller.Following
import SIngress.Controller.Freshness
import SIngress.Controller.Generations
import SIngress.Controller.Handlers
import SIngress.Controller.Handshake
import SIngress.Controller.Ingress
import SIngress.Controller.IngressRoutes
import SIngress.Controller.Invariants
import SIngress.Controller.Isolation
import SIngress.Controller.Mediation
import SIngress.Controller.Merge
import SIngress.Controller.OrderFree
import SIngress.Controller.Process
import SIngress.Controller.Progress
import SIngress.Controller.Publication
import SIngress.Controller.PublishedTable
import SIngress.Controller.Recorded
import SIngress.Controller.Reload
import SIngress.Controller.Renewals
import SIngress.Controller.Responses
import SIngress.Controller.Retention
import SIngress.Controller.ServedTable
import SIngress.Controller.State
import SIngress.Controller.Status
import SIngress.Controller.System
import SIngress.Controller.Tracking
import SIngress.Controller.Watches
import SIngress.Controller.Wildcards
import SIngress.K8s.Objects
import SIngress.Lib.Chain
import SIngress.Lib.Chan
import SIngress.Lib.Digits
import SIngress.Lib.Effect
import SIngress.Lib.GoMap
import SIngress.Lib.Latest
import SIngress.Lib.Percent
import SIngress.Lib.RankedInsert
import SIngress.Lib.Relate
import SIngress.Lib.Transition
import SIngress.Lib.Versioned
import SIngress.Modules.Auth
import SIngress.Modules.Call
import SIngress.Modules.Headers
import SIngress.Modules.Oidc
import SIngress.Modules.OidcAccess
import SIngress.Modules.OidcCallback
import SIngress.Modules.OidcLifetime
import SIngress.Modules.OidcLogin
import SIngress.Modules.OidcProvenance
import SIngress.Modules.OidcSession
import SIngress.Modules.Registry
import SIngress.Modules.Security
import SIngress.Modules.SignIn
import SIngress.Modules.WebSocketRelay
import SIngress.Platform.Ext
import SIngress.Platform.Outcomes
import SIngress.Proxy.Config
import SIngress.Proxy.Context
import SIngress.Proxy.Forwarding
import SIngress.Proxy.HostNames
import SIngress.Proxy.HostTable
import SIngress.Proxy.Indifference
import SIngress.Proxy.Lifecycle
import SIngress.Proxy.Metrics
import SIngress.Proxy.Middleware
import SIngress.Proxy.Passage
import SIngress.Proxy.ProxyHeader
import SIngress.Proxy.Reach
import SIngress.Proxy.RealIp
import SIngress.Proxy.Relay
import SIngress.Proxy.ResponseHeaders
import SIngress.Proxy.RouteLookup
import SIngress.Proxy.RouteOrder
import SIngress.Proxy.Serve
import SIngress.Proxy.Shutdown
