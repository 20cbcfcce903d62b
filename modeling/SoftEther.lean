import SoftEther.Library.Ranges
import SoftEther.Library.Runs
import SoftEther.Mayaqua.Fifo
import SoftEther.Cedar.NatTcp.Defs
import SoftEther.Cedar.NatTcp.Tcb
import SoftEther.Cedar.NatTcp.Session
import SoftEther.Cedar.NatTcp.Window
import SoftEther.Cedar.NatTcp.Reassembly
import SoftEther.Cedar.NatTcp.Close
import SoftEther.Cedar.NatTcp.Send
import SoftEther.Cedar.IpCombine
import SoftEther.Cedar.IpFragments
import SoftEther.Cedar.NatIcmp
import SoftEther.Cedar.NatTable
import SoftEther.Library.SortedSearch
import SoftEther.Mayaqua.List
import SoftEther.Mayaqua.Str
import SoftEther.Cedar.Dhcp.Defs
import SoftEther.Cedar.Dhcp.Leases
import SoftEther.Cedar.AccessList.Defs
import SoftEther.Cedar.AccessList.TwoPhase
import SoftEther.Cedar.Policy
import SoftEther.Cedar.VirtualHub.Defs
import SoftEther.Cedar.VirtualHub.Delivery
import SoftEther.Cedar.VirtualHub.Filter
import SoftEther.Cedar.VirtualHub.Frame
import SoftEther.Cedar.VirtualHub.IpExclusive
import SoftEther.Cedar.VirtualHub.MacExclusive
import SoftEther.Library.Reading
import SoftEther.Library.Tokens
import SoftEther.Mayaqua.Base64
import SoftEther.Mayaqua.Buf
import SoftEther.Mayaqua.Pack.Defs
import SoftEther.Mayaqua.Pack.RoundTrip
import SoftEther.Mayaqua.Cfg.Binary
import SoftEther.Mayaqua.Cfg.BinaryRoundTrip
import SoftEther.Mayaqua.Cfg.Edits
import SoftEther.Cedar.OpenVpn.Authentication
import SoftEther.Mayaqua.Network
import SoftEther.Mayaqua.Rudp.Bulk
import SoftEther.Mayaqua.Rudp.Delivery
import SoftEther.Cedar.L2tp.Control
import SoftEther.Cedar.L2tp.Identifiers
import SoftEther.Cedar.L2tp.LifeCycle
import SoftEther.Cedar.Ike.Defs
import SoftEther.Cedar.Ike.Esp
import SoftEther.Cedar.Ike.Soundness
import SoftEther.Cedar.Ppp.Password
import SoftEther.Cedar.Session.AdditionalConnect
import SoftEther.Cedar.Session.MultiLogins
import SoftEther.Mayaqua.Rudp.Segment
import SoftEther.Cedar.OpenVpn.DataPacket
import SoftEther.Cedar.OpenVpn.DataTransmission
import SoftEther.Cedar.OpenVpn.KeyMethod
import SoftEther.Cedar.Ppp.Codec
import SoftEther.Cedar.Ppp.Gating
import SoftEther.Cedar.Ppp.Soundness
import SoftEther.Cedar.Radius.Eap
import SoftEther.Cedar.Sstp.Calls
import SoftEther.Cedar.Tunnel.Budgets
import SoftEther.Cedar.Tunnel.Bulk
import SoftEther.Cedar.Ike.EspTransport
import SoftEther.Cedar.Ike.FirstMessages
import SoftEther.Cedar.Ike.Negotiation
import SoftEther.Cedar.Ike.SaPackets
import SoftEther.Cedar.InProc.Defs
import SoftEther.Cedar.InProc.Runs
import SoftEther.Cedar.L2tp.Codec
import SoftEther.Cedar.L2tp.SessionIds
import SoftEther.Cedar.Radius.Authenticator
import SoftEther.Cedar.Radius.Codec
import SoftEther.Cedar.Radius.Peap
import SoftEther.Cedar.Radius.Requests
import SoftEther.Mayaqua.Fields
import SoftEther.Mayaqua.TcpIp.Packet
import SoftEther.Cedar.Layer3.Capacity
import SoftEther.Cedar.Layer3.Queries
import SoftEther.Cedar.Layer3.Arp
import SoftEther.Cedar.Layer3.Forwarding
import SoftEther.Cedar.VirtualHub.AcList
import SoftEther.Mayaqua.TcpIp.IPv6RoundTrip
import SoftEther.Mayaqua.TcpIp.IPv6Chains
import SoftEther.Mayaqua.TcpIp.DhcpModifyReads
import SoftEther.Cedar.Ike.Nesting
import SoftEther.Mayaqua.Memory.BufReads
import SoftEther.Mayaqua.Memory.BufWrites
import SoftEther.Mayaqua.Memory.FifoQueue
import SoftEther.Mayaqua.TcpIp.DhcpOptions
import SoftEther.Mayaqua.TcpIp.HeaderBytes
import SoftEther.Mayaqua.TcpIp.DhcpModifyIPv4
import SoftEther.Mayaqua.TcpIp.IPv6Parsed
import SoftEther.Mayaqua.TcpIp.AdjustTcpMss
import SoftEther.Mayaqua.TcpIp.AdjustTcpMssFrames
import SoftEther.Cedar.InProc.ClasslessRoute
import SoftEther.Cedar.Dhcp.Expiry
import SoftEther.Mayaqua.BucketHashList
import SoftEther.Mayaqua.PointerList
import SoftEther.Mayaqua.Utf8Sizes
import SoftEther.Library.OnesComplement
import SoftEther.Library.SinglePrecision
import SoftEther.Library.Replacing
import SoftEther.Library.MixedOrders
import SoftEther.Mayaqua.TcpIp.Checksum
import SoftEther.Mayaqua.TrimEndWith
import SoftEther.Mayaqua.ReplaceStr
import SoftEther.Cedar.AccessList.Delay
import SoftEther.Cedar.NatUdp
import SoftEther.Cedar.UdpAccel.Defs
import SoftEther.Cedar.UdpAccel.RoundTrip
import SoftEther.Cedar.UdpAccel.Replay
import SoftEther.Cedar.UdpAccel.Link
import SoftEther.Cedar.WebSocket
import SoftEther.Cedar.VirtualHub.StormList
import SoftEther.Cedar.VirtualHub.VlanTags
