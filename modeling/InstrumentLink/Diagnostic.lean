import InstrumentLink.Arp.Packet
import InstrumentLink.Etherbone.Packet
import InstrumentLink.Ethernet.Framing
import InstrumentLink.Ipv4.Packet
import InstrumentLink.Phy.Mode
import InstrumentLink.Severity

/-!
What the link reports while it runs.

A diagnostic is the event itself; severity and wording are functions of it. Operations return the
diagnostics they gave rise to, in order, beside their result, and no operation reads them back.
-/

set_option autoImplicit false

namespace InstrumentLink

/-- An event worth reporting. -/
inductive Diagnostic where
  | phyMode (mode : Option Phy.Mode)
  | slotReportRefused (slot length : Nat)
  | frameNotFramed (length : Nat) (cause : Ethernet.FramingError)
  | frameExceedsSlot (length : Nat)
  | framingRefused (length : Nat) (cause : Ethernet.FramingError)
  | arpRunt (length : Nat)
  | arpRefused (cause : Arp.Refusal)
  | arpLearned (ip : Ipv4Address) (mac : MacAddress)
  | arpAnswered (ip : Ipv4Address)
  | arpAsking (ip : Ipv4Address) (attempt : Nat)
  | arpRequestNotSent (ip : Ipv4Address)
  | arpResolved (ip : Ipv4Address) (mac : MacAddress)
  | arpUnanswered (ip : Ipv4Address) (attempts : Nat)
  | ipv4Runt (length : Nat)
  | ipv4Refused (cause : Ipv4.Refusal)
  | icmpCutOff
  | udpNoPeer (length : Nat)
  | udpNotPeer (ip : Ipv4Address)
  | udpTooLong (length : Nat)
  | udpRegistered (port : UInt16)
  | linkUp (ip : Ipv4Address) (mac : MacAddress)
  | streamOverflow (buffered : Nat)
  | streamDatagramDropped (length : Nat)
  | streamPacketSkipped (length : Nat)
  | recordSizesRefused (addressSize portSize : UInt8)
  | recordWrite (address value : UInt32)
  | recordRead (address value : UInt32)
  | recordReplyLost (ip : Ipv4Address) (words : Nat)
  | busReadRefused (address : UInt32)
  | busWriteRefused (address : UInt32)
  deriving DecidableEq, Repr

namespace Diagnostic

def severity : Diagnostic → Severity
  | .phyMode _ | .arpResolved _ _ | .linkUp _ _ => .info
  | .frameNotFramed _ _ | .frameExceedsSlot _ | .arpRequestNotSent _ | .arpUnanswered _ _
  | .streamOverflow _ | .streamDatagramDropped _ | .recordReplyLost _ _ => .warn
  | .slotReportRefused _ _ | .framingRefused _ _ | .arpLearned _ _ | .udpNoPeer _ | .udpNotPeer _
  | .udpTooLong _ | .udpRegistered _ | .streamPacketSkipped _ | .recordSizesRefused _ _ => .debug
  | .arpRunt _ | .arpRefused _ | .arpAnswered _ | .arpAsking _ _ | .ipv4Runt _ | .ipv4Refused _
  | .icmpCutOff | .recordWrite _ _ | .recordRead _ _ | .busReadRefused _
  | .busWriteRefused _ => .trace

def message : Diagnostic → String
  | .phyMode (some mode) => "Ethernet phy mode: " ++ mode.name
  | .phyMode none => "Ethernet phy mode: unknown"
  | .slotReportRefused slot length =>
      "ethmac reported slot " ++ toString slot ++ " length " ++ toString length ++ ", dropping"
  | .frameNotFramed length cause =>
      "not sending " ++ toString length ++ " byte frame: " ++ cause.message
  | .frameExceedsSlot length =>
      "not sending " ++ toString length ++ " byte frame: larger than a slot"
  | .framingRefused length cause =>
      "dropping " ++ toString length ++ " byte frame: " ++ cause.message
  | .arpRunt length => "runt ARP frame of " ++ toString length ++ " bytes"
  | .arpRefused cause => "dropping ARP frame: " ++ cause.message
  | .arpLearned ip mac => ip.text ++ " is at " ++ mac.text
  | .arpAnswered ip => "answered who-has from " ++ ip.text
  | .arpAsking ip attempt => "who-has " ++ ip.text ++ ", attempt " ++ toString attempt
  | .arpRequestNotSent ip => "could not send ARP request for " ++ ip.text
  | .arpResolved ip mac => "resolved " ++ ip.text ++ " to " ++ mac.text
  | .arpUnanswered ip attempts =>
      ip.text ++ " did not answer " ++ toString attempts ++ " ARP requests"
  | .ipv4Runt length => "runt IPv4 frame of " ++ toString length ++ " bytes"
  | .ipv4Refused cause => "dropping IPv4 frame: " ++ cause.message
  | .icmpCutOff => "ICMP total length beyond frame"
  | .udpNoPeer length => "no resolved peer, dropping " ++ toString length ++ " byte datagram"
  | .udpNotPeer ip => ip.text ++ " is not the resolved peer, dropping datagram"
  | .udpTooLong length => toString length ++ " byte datagram does not fit a frame"
  | .udpRegistered port => "udp port " ++ toString port.toNat ++ " registered"
  | .linkUp ip mac => "link up: ip " ++ ip.text ++ " mac " ++ mac.text
  | .streamOverflow buffered =>
      "etherbone reassembly overflow, dropping " ++ toString buffered ++ " buffered bytes"
  | .streamDatagramDropped length =>
      "dropping " ++ toString length ++ " byte etherbone datagram"
  | .streamPacketSkipped length =>
      "etherbone packet of " ++ toString length ++ " bytes can never fit, skipping"
  | .recordSizesRefused addressSize portSize =>
      "dropping etherbone packet: sizes " ++ toString addressSize.toNat ++ "/" ++
        toString portSize.toNat
  | .recordWrite address value =>
      "eb write " ++ Text.Hexadecimal.word address ++ " <- " ++ Text.Hexadecimal.word value
  | .recordRead address value =>
      "eb read " ++ Text.Hexadecimal.word address ++ " -> " ++ Text.Hexadecimal.word value
  | .recordReplyLost ip words =>
      "no route to " ++ ip.text ++ ", dropping etherbone reply of " ++ toString words ++ " words"
  | .busReadRefused address =>
      "etherbone read outside window: " ++ Text.Hexadecimal.word address
  | .busWriteRefused address =>
      "etherbone write outside window: " ++ Text.Hexadecimal.word address

end Diagnostic

abbrev Log := List Diagnostic

end InstrumentLink
