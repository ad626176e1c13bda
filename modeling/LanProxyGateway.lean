import LanProxyGateway.Concurrency.AffinityLookups
import LanProxyGateway.Concurrency.Failover
import LanProxyGateway.Concurrency.LowestLatency
import LanProxyGateway.Concurrency.MetricsHistory
import LanProxyGateway.Concurrency.QueueExpiry
import LanProxyGateway.Concurrency.TimeoutScan
import LanProxyGateway.LogMonitor.LiveFeed
import LanProxyGateway.ProxyCore.ArrivalRates
import LanProxyGateway.ProxyCore.Authentication
import LanProxyGateway.ProxyCore.Credentials
import LanProxyGateway.ProxyCore.DecoderRange
import LanProxyGateway.ProxyCore.Endings
import LanProxyGateway.ProxyCore.GeoRouting
import LanProxyGateway.ProxyCore.LoginCounts
import LanProxyGateway.ProxyCore.NodeCounts
import LanProxyGateway.ProxyCore.Registered
import LanProxyGateway.ProxyCore.Segmentation
import LanProxyGateway.ProxyCore.Traffic
import LanProxyGateway.ProxyCore.Upstream
import LanProxyGateway.RouteDecision.CidrRules
import LanProxyGateway.RouteDecision.DomainNames
import LanProxyGateway.RouteDecision.Priority
import LanProxyGateway.RouteDecision.RuleFile
import LanProxyGateway.UserManager.StoredHashes
import LanProxyGateway.UserManager.UserFile
import LanProxyGateway.V2raynManager.Addresses
import LanProxyGateway.V2raynManager.ConcurrentEdits
import LanProxyGateway.V2raynManager.ExitFlag
import LanProxyGateway.V2raynManager.GeneratedConfig
import LanProxyGateway.V2raynManager.LinkContract
import LanProxyGateway.V2raynManager.PortValues
import LanProxyGateway.V2raynManager.Restart
import LanProxyGateway.V2raynManager.RestartPolicy
import LanProxyGateway.V2raynManager.Rollback
import LanProxyGateway.V2raynManager.ShareLink
import LanProxyGateway.WebServer.AccountLifetime
import LanProxyGateway.WebServer.ErrorReplies
import LanProxyGateway.WebServer.Lockout
import LanProxyGateway.WebServer.LogApi
import LanProxyGateway.WebServer.NodeEditor
import LanProxyGateway.WebServer.NodeWeights
import LanProxyGateway.WebServer.Revocation
import LanProxyGateway.WebServer.SettingsRestart
