import RouterSim.Tcp.Transfer
import RouterSim.Tcp.Handshake
import RouterSim.Tcp.SenderRecovery
import RouterSim.Tcp.SenderTimers
import RouterSim.Tcp.CheckpointCodec
import RouterSim.Tcp.ReceiveEdge
import RouterSim.Ipsec.Spd
import RouterSim.Dhcpv4.LeaseHonoured
import RouterSim.Dhcpv4.LeaseConvergence
import RouterSim.Dhcpv4.LeaseRestore
import RouterSim.Ospf.SpfFirstHops
import RouterSim.Ospf.LoopFreeAlternates
import RouterSim.Ospf.DatabaseDistances
import RouterSim.Ospf.Keychain
import RouterSim.Ospf.LsdbConvergence
import RouterSim.Ospf.ElectionRounds
import RouterSim.Dhcpv6.LeasePreview
import RouterSim.Dhcpv6.LeaseRestorable
import RouterSim.Dns.NsecNodata
import RouterSim.Dns.Nsec3Proof
import RouterSim.Dns.PacketRoundTrip
import RouterSim.Dns.MasterFileRoundTrip
import RouterSim.Rib.Lookup
import RouterSim.Dns.NsecPartition
import RouterSim.Rib.IndirectStatic
import RouterSim.Rib.TieBreak
import RouterSim.Ikev2.ExactlyOnce
import RouterSim.Ikev2.SessionCommit
import RouterSim.Ipsec.EspForgery
import RouterSim.Ikev2.Handshake
import RouterSim.Ikev2.ChildForwarding
import RouterSim.Ospf.TransitHops
import RouterSim.Mld.Runs
import RouterSim.Tcp.SackRuns
import RouterSim.Tcp.ControlCheckpoint
import RouterSim.Tcp.SackBlocks
import RouterSim.Tcp.SenderReached
import RouterSim.Tcp.SegmentCodec
import RouterSim.Ospf.LsaChecksum
import RouterSim.Ospf.AcknowledgedInstance
import RouterSim.Ip.AddressFormat
import RouterSim.Ip.FragmentTrace
import RouterSim.Ospf.CoordinatorKeys
import RouterSim.Ospf.RetransmissionRuns
import RouterSim.Dns.RecordCodecs
