import SlipNet.Capture.RoundTrip
import SlipNet.Cli.HostCoverage
import SlipNet.Cli.PacketCommands
import SlipNet.Cli.ServiceBacking
import SlipNet.Cli.SingleTarget
import SlipNet.Cli.TopologyMap
import SlipNet.Core.StateRefinement
import SlipNet.Host.HostEnumeration
import SlipNet.Platform.FrameDecoder
import SlipNet.Platform.ReceiveLoop
import SlipNet.Platform.Tcp
import SlipNet.Port.ScanInterrupt
import SlipNet.Security.LegacySoftware
import SlipNet.Cli.PortScanArguments
import SlipNet.Foundation.ResetCounter
import SlipNet.Host.AddressReaders
import SlipNet.Monitoring.NetworkMonitor
import SlipNet.Network.FailedDiscovery
import SlipNet.Platform.Firewall
import SlipNet.Security.AlertReport
import SlipNet.Security.CredentialReport
import SlipNet.Security.VulnerabilityReport
import SlipNet.Security.SslAuditor
import SlipNet.Platform.FrameEncoding
import SlipNet.Platform.TransportPorts
import SlipNet.Capture.NumericFields
import SlipNet.Capture.LoadedMetadata
import SlipNet.Cli.StoredScan
import SlipNet.Host.BatchedProbing
import SlipNet.Cli.ServiceDetection
import SlipNet.Service.ServerHeader
import SlipNet.Security.LegacyFamilies
import SlipNet.Security.IdentifiedServices
import SlipNet.Security.FirewallProbe
import SlipNet.Platform.ByteCount
import SlipNet.Platform.StopFlag
import SlipNet.Cli.PacketIds
import SlipNet.Cli.NumericArguments
import SlipNet.Platform.MacVendor
import SlipNet.Cli.CommandLine
import SlipNet.Topology.StoredGraph
import SlipNet.Network.SameSubnet
import SlipNet.Network.Subnet
import SlipNet.Network.MacResolver
import SlipNet.Security.Containment
import SlipNet.Platform.TcpSend
import SlipNet.Platform.SystemInfo
import SlipNet.Network.BannerGrabber
import SlipNet.Cli.TurnOrder
import SlipNet.Port.ScanLimits
import SlipNet.Host.PingLimits
import SlipNet.Platform.TcpCalls
import SlipNet.Platform.FirewallCalls
import SlipNet.Cli.Terminal
import SlipNet.Cli.CaptureArchive
import SlipNet.Cli.RiskReports
import SlipNet.Cli.FindingSources
import SlipNet.Cli.SessionCounters
import SlipNet.Monitoring.MonitorLoop
import SlipNet.Platform.CaptureCalls
import SlipNet.Security.SslCalls
import SlipNet.Platform.DefaultRoute
import SlipNet.Network.OsFingerprint
import SlipNet.Cli.InterfaceChoice
import SlipNet.Cli.MappedRoute
import SlipNet.Network.Neighbours
