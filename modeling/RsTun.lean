import RsTun.Library.Locks
import RsTun.SystemNat.Table
import RsTun.SystemNat.Interleaving
import RsTun.SystemNat.Inverse
import RsTun.SystemNat.Eviction
import RsTun.SystemNat.Expiry
import RsTun.Library.OnesComplement
import RsTun.Packet.Checksum
import RsTun.Packet.Mss
import RsTun.Packet.Header
import RsTun.SystemNat.HandleTcp
import RsTun.SystemNat.RoundTrip
import RsTun.Library.Prefix
import RsTun.Net.Subnet
import RsTun.SystemNat.ProcessIpv4
import RsTun.Library.Channel
import RsTun.Netstack.Packet
import RsTun.Netstack.Sink
import RsTun.Netstack.ReadLoop
import RsTun.Gso.Split
import RsTun.Netstack.UdpSocket
import RsTun.NativeTun.Reader
import RsTun.NativeTun.Writer
import RsTun.Library.Pieces
import RsTun.Gso.Segments
import RsTun.Gso.SplitKernel
import RsTun.NativeTun.Offload
import RsTun.Packet.Fragment
import RsTun.Packet.Mtu
import RsTun.SystemNat.Dispatch
import RsTun.Mixed.Dispatch
import RsTun.Netstack.Datagrams
import RsTun.Mixed.Udp
import RsTun.SystemNat.UdpReply
import RsTun.SystemNat.UdpRoundTrip
import RsTun.Library.Circular
import RsTun.Netstack.RingBuffer
import RsTun.Netstack.TcpStream
import RsTun.Netstack.Wakeup
import RsTun.Library.Ledger
import RsTun.Gso.View
import RsTun.Gso.Gro
import RsTun.Library.Grouped
import RsTun.Gso.Candidates
import RsTun.Gso.Coalesce
import RsTun.Gso.Batch
import RsTun.Gso.Handled
import RsTun.Gso.GroLoop
import RsTun.Gso.Accounting
import RsTun.Gso.Lossless
import RsTun.Netstack.SharedRing
import RsTun.Library.Retain
import RsTun.Netstack.TcpListener
import RsTun.Netstack.SynTracker
import RsTun.Netstack.HalfOpen
import RsTun.Config.TunInboundConfig
import RsTun.Linux.Routes
import RsTun.Config.UidRanges
import RsTun.Library.RuleTable
import RsTun.Linux.Rules
import RsTun.Linux.Anchor
import RsTun.Linux.Exclusion
import RsTun.Linux.Teardown
import RsTun.Config.Merged
import RsTun.Config.Options
import RsTun.Config.Settings
import RsTun.Config.RoundTrip
import RsTun.Config.Standard
import RsTun.Icmp.EchoReply
import RsTun.Icmp.FlowTask
import RsTun.SystemNat.Allocation
import RsTun.Packet.Oversize
import RsTun.Handler.Bridge
import RsTun.Icmp.Forwarder
import RsTun.Types.SniffedStream
import RsTun.SystemNat.EmittedReply
import RsTun.Gso.SplitSafe
import RsTun.SystemNat.ReplyLengths
import RsTun.Gso.UdpChecksum
import RsTun.SystemNat.DispatchUdp
import RsTun.Gso.FullBuffers
import RsTun.NativeTun.BatchWrite
import RsTun.NativeTun.GroProbe
import RsTun.Packet.MssWalk
import RsTun.Config.ExcludedUids
import RsTun.SystemNat.Loopback
import RsTun.Monitor.Netlink
import RsTun.Monitor.DiffEvents
import RsTun.Android.Packages
import RsTun.Icmp.EchoReplyValid
import RsTun.Icmp.FragmentedRequest
import RsTun.Icmp.RequestV6
import RsTun.Library.Gaps
import RsTun.Android.UidExclusions
import RsTun.Gso.Overlong
import RsTun.Android.Complements
import RsTun.Packet.ExtensionChain
import RsTun.Net.PrefixNotion
import RsTun.Gso.ChecksumLoops
import RsTun.Library.Bounded
import RsTun.Library.Framing
import RsTun.Netstack.AcceptStream
import RsTun.Netstack.IdleDevice
import RsTun.Netstack.Outbound
import RsTun.Netstack.Relay
import RsTun.Netstack.Sending
import RsTun.SystemNat.AcceptLoop
import RsTun.SystemNat.UdpFlows
import RsTun.Linux.OwnTraffic
import RsTun.Monitor.Watch
import RsTun.Library.RouteMap
import RsTun.Linux.Redirect
import RsTun.Macos.Routes
import RsTun.Windows.Routes
import RsTun.Windows.StrictRoute
