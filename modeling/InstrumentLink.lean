import InstrumentLink.Address
import InstrumentLink.Arp.Packet
import InstrumentLink.Arp.Resolver
import InstrumentLink.Bus
import InstrumentLink.Bytes
import InstrumentLink.Checksum
import InstrumentLink.Checksum.Crc32
import InstrumentLink.Client.CommandLine
import InstrumentLink.Client.Dialogue
import InstrumentLink.Client.Error
import InstrumentLink.Client.Host
import InstrumentLink.Client.HostAddress
import InstrumentLink.Client.Ipv6Address
import InstrumentLink.Client.Number
import InstrumentLink.Client.Program
import InstrumentLink.Client.Session
import InstrumentLink.Diagnostic
import InstrumentLink.Etherbone.Endpoint
import InstrumentLink.Etherbone.Packet
import InstrumentLink.Etherbone.Reassembler
import InstrumentLink.Ethernet.Frame
import InstrumentLink.Ethernet.Framing
import InstrumentLink.Fault
import InstrumentLink.Icmp.Answer
import InstrumentLink.Icmp.Message
import InstrumentLink.Interface
import InstrumentLink.Ipv4.Dispatch
import InstrumentLink.Ipv4.Packet
import InstrumentLink.Link
import InstrumentLink.LinkConfig
import InstrumentLink.Mac.Device
import InstrumentLink.Mac.Register
import InstrumentLink.Mac.RegisterBank
import InstrumentLink.Mac.SlotGeometry
import InstrumentLink.Main
import InstrumentLink.Phy.BringUp
import InstrumentLink.Phy.Mode
import InstrumentLink.Port
import InstrumentLink.Severity
import InstrumentLink.Simulation.Bench
import InstrumentLink.Simulation.Consumer
import InstrumentLink.Simulation.Harness
import InstrumentLink.Simulation.Mac
import InstrumentLink.Simulation.Observed
import InstrumentLink.Simulation.Phy
import InstrumentLink.Simulation.RecordingBus
import InstrumentLink.Simulation.RingBench
import InstrumentLink.Simulation.Sink
import InstrumentLink.Simulation.Wire
import InstrumentLink.SlotRing
import InstrumentLink.Text.Blank
import InstrumentLink.Text.Hexadecimal
import InstrumentLink.Text.Quoted
import InstrumentLink.Text.Unprintable
import InstrumentLink.Udp.Segment
import InstrumentLink.Udp.Socket
import InstrumentLink.Proofs.PacketStream
import InstrumentLink.Proofs.Reassembly
import InstrumentLink.Proofs.LosslessDelivery
import InstrumentLink.Proofs.Returns
import InstrumentLink.Proofs.FrameBuilding
import InstrumentLink.Proofs.SafePort
import InstrumentLink.Proofs.EndpointSafety
import InstrumentLink.Proofs.SafeRing
import InstrumentLink.Proofs.FrameSafety
import InstrumentLink.Proofs.SafeLink
import InstrumentLink.Proofs.LinkSafety
import InstrumentLink.Proofs.ReadBack
import InstrumentLink.Proofs.FaithfulPort
import InstrumentLink.Proofs.Observation
import InstrumentLink.Proofs.EndpointService
import InstrumentLink.Proofs.FrameContents
import InstrumentLink.Proofs.WordMemory
import InstrumentLink.Proofs.ChecksumField
import InstrumentLink.Proofs.FaithfulRing
import InstrumentLink.Proofs.FrameCounts
import InstrumentLink.Proofs.WireFormat
import InstrumentLink.Proofs.BuiltFrames
import InstrumentLink.Proofs.LinkTransmissions
import InstrumentLink.Proofs.WellFormedFrames
import InstrumentLink.Proofs.PeerHistory
import InstrumentLink.Proofs.HistorySteps
import InstrumentLink.Proofs.PeerKnowledge
import InstrumentLink.Proofs.FrameAccounts
import InstrumentLink.Proofs.LinkAccounts
import InstrumentLink.Proofs.Accounting
import InstrumentLink.Proofs.PeerProvenance
import InstrumentLink.Proofs.UnresolvedLink
import InstrumentLink.Proofs.PeerLoss
import InstrumentLink.Proofs.FrameHandling
import InstrumentLink.Proofs.SimulatedTraffic
import InstrumentLink.Proofs.SimulatedMedium
import InstrumentLink.Proofs.JoinedLinks
import InstrumentLink.Proofs.TwinPorts
import InstrumentLink.Proofs.TwinEndpoints
import InstrumentLink.Proofs.TwinLinks
import InstrumentLink.Proofs.StaleOctets
import InstrumentLink.Proofs.ScriptedMedium
import InstrumentLink.Proofs.FramingModes
import InstrumentLink.Proofs.Observers
import InstrumentLink.Proofs.FilmedMac
import InstrumentLink.Proofs.LosslessReception
import InstrumentLink.Proofs.SimulatedTwins
import InstrumentLink.Proofs.SimulatedHistory
import InstrumentLink.Proofs.Restart
import InstrumentLink.Proofs.BoundedDamage
import InstrumentLink.Proofs.ReplyMatching
import InstrumentLink.Proofs.CarriedReplies
import InstrumentLink.Proofs.SequentialSessions
import InstrumentLink.Proofs.SharedSocket
import InstrumentLink.Proofs.RegisterStream
import InstrumentLink.Proofs.UnrelatedTraffic
import InstrumentLink.Proofs.FrameOctets
import InstrumentLink.Proofs.FrameWays
import InstrumentLink.Proofs.DatagramDelivery
import InstrumentLink.Proofs.EchoAnswering
import InstrumentLink.Proofs.AtomicSending
import InstrumentLink.Proofs.PeerSearch
import InstrumentLink.Proofs.BurstErrors
import InstrumentLink.Proofs.RingHistory
import InstrumentLink.Proofs.TransmitTurns
import InstrumentLink.Proofs.SlotSeparation
import InstrumentLink.Proofs.ChecksumErrors
import InstrumentLink.Proofs.PacketFields
import InstrumentLink.Proofs.PacketRebuilding
import InstrumentLink.Proofs.WindowedMemory
import InstrumentLink.Proofs.ConfinedPeers
import InstrumentLink.Proofs.OnesComplementSum
import InstrumentLink.Proofs.NumberGrammar
import InstrumentLink.Proofs.StockedLink
import InstrumentLink.Proofs.Draining
import InstrumentLink.Proofs.ProvokedAnswers
import InstrumentLink.Proofs.QuietExchange
