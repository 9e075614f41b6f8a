import InstrumentLink.Link
import InstrumentLink.Proofs.ChecksumField
import InstrumentLink.Proofs.FaithfulRing

/-!
What is on the wire is a frame of the station.

A well-formed frame is short enough, framed if software does the framing, and behind the framing
stands an ARP body or an IPv4 packet of the station, with zeros behind what it states as its end.
The three kinds of frames that are built here are of that form, whatever is put into them.
-/

set_option autoImplicit false

namespace InstrumentLink

def Bytes.Blank (octets : Bytes) : Prop := ∀ octet ∈ octets, octet = 0

/-- An ARP body whose sender is a station, with nothing behind it. -/
structure Arp.SentBy (station : Station) (data : Bytes) : Prop where
  checked : check data = .ok ()
  sender_mac : senderMac data = .ok station.mac
  sender_ip : senderIp data = .ok station.ip
  padding : Bytes.Blank (data.drop bodyLength)

/-- A segment of so many octets with a checksum that was computed and holds. -/
structure Udp.Sealed (source destination : Ipv4Address) (length : Nat) (data : Bytes) : Prop where
  long : headerLength ≤ length
  stated : Returns (statedLength data) fun stated => stated.toNat = length
  checksum : Returns (checksum data) fun field => field ≠ 0
  valid : checksumValid data source destination = true

/-- A message of so many octets with a checksum that holds. -/
structure Icmp.Sealed (length : Nat) (data : Bytes) : Prop where
  long : headerLength ≤ length
  valid : checksumValid data (length - headerLength) = .ok true

/-- A packet of so many octets from an address, with nothing behind it. -/
structure Ipv4.SentBy (address : Ipv4Address) (total : Nat) (data : Bytes) : Prop where
  checked : check data = .ok ()
  valid : checksumValid data = .ok true
  source : source data = .ok address
  stated : Returns (totalLength data) fun stated => stated.toNat = total
  present : headerLength ≤ total ∧ total ≤ data.length
  padding : Bytes.Blank (data.drop total)
  carried : Returns (payload data) fun carried =>
    (protocol data = .ok .udp ∧ Returns (destination data) fun receiver =>
        Udp.Sealed address receiver (total - headerLength) carried) ∨
      protocol data = .ok .icmp ∧ Icmp.Sealed (total - headerLength) carried

/-- A frame of a station, without framing. -/
structure Ethernet.SentBy (station : Arp.Station) (frame : Bytes) : Prop where
  long : minimumLength ≤ frame.length
  source : source frame = .ok station.mac
  content : Returns (payload frame) fun content =>
    (etherType frame = .ok typeArp ∧ Arp.SentBy station content) ∨
      etherType frame = .ok typeIpv4 ∧ ∃ total, Ipv4.SentBy station.ip total content

namespace Interface

def station (interface : Interface) : Arp.Station := ⟨interface.mac, interface.ip⟩

/-- What an interface may put on the wire. -/
structure WellFormed (interface : Interface) (octets : Bytes) : Prop where
  short : octets.length ≤ Ethernet.maximumLength
  framed : interface.softwareFraming = true → ∃ stop, Ethernet.checkFraming octets = .ok stop
  frame : ∃ frame, Link.unframe interface octets = .ok (.ok frame) ∧
    Ethernet.SentBy interface.station frame

/-- A frame as an interface puts it on the wire. -/
def onWire (interface : Interface) (frame : Bytes) : Bytes :=
  let padded := Bytes.padTo Ethernet.minimumLength frame
  if interface.softwareFraming then Ethernet.withFraming padded else padded

end Interface

theorem LinkConfig.software_framing_eq (config : LinkConfig) :
    config.interface.softwareFraming = !config.hardwareFraming := by
  unfold interface Interface.softwareFraming
  cases config.hardwareFraming <;> rfl

@[simp] theorem Ethernet.length_preamble : preamble.length = preambleLength := rfl

@[simp] theorem Ethernet.length_with_framing (frame : Bytes) :
    (withFraming frame).length = preambleLength + frame.length + frameCheckLength := by
  simp [withFraming, Nat.add_assoc]

theorem Ethernet.check_framing_with_framing {frame : Bytes} (header : headerLength ≤ frame.length) :
    checkFraming (withFraming frame) = .ok (preambleLength + frame.length) := by
  have length := length_with_framing frame
  have front : (withFraming frame).take preambleLength = preamble := by
    rw [withFraming, List.append_assoc]
    exact List.take_left' length_preamble
  have body : (preamble ++ frame).length = preambleLength + frame.length := by simp
  have bodyEnd : (withFraming frame).length - frameCheckLength =
      preambleLength + frame.length := by omega
  unfold checkFraming
  rw [if_neg (by omega), if_neg (not_not.mpr front)]
  simp only [bodyEnd]
  rw [withFraming, List.take_left' body, List.drop_left' body, List.drop_left' length_preamble]
  exact if_neg (not_not.mpr rfl)

namespace Interface

theorem length_on_wire (interface : Interface) (frame : Bytes) :
    (interface.onWire frame).length = max frame.length Ethernet.minimumLength +
      if interface.softwareFraming then Ethernet.preambleLength + Ethernet.frameCheckLength
      else 0 := by
  unfold onWire
  dsimp only
  split
  · rw [Ethernet.length_with_framing, Bytes.length_pad_to]
    omega
  · rw [Bytes.length_pad_to, Nat.add_zero]

theorem unframe_with_framing {interface : Interface} (software : interface.softwareFraming = true)
    {frame : Bytes} (header : Ethernet.headerLength ≤ frame.length) :
    Link.unframe interface (Ethernet.withFraming frame) = .ok (.ok frame) := by
  unfold Link.unframe
  rw [if_pos software, Ethernet.check_framing_with_framing header]
  dsimp only
  rw [Bytes.slice_inside _ _ _ (Nat.le_add_right _ _) (by simp), Nat.add_sub_cancel_left,
    Ethernet.withFraming, List.append_assoc, List.drop_left' Ethernet.length_preamble,
    List.take_left]
  rfl

/-- Taking the framing off gives back the frame, with zeros behind it if it is short. -/
theorem unframe_on_wire (interface : Interface) (frame : Bytes) :
    Link.unframe interface (interface.onWire frame) =
      .ok (.ok (Bytes.padTo Ethernet.minimumLength frame)) := by
  unfold onWire
  dsimp only
  split
  · next software =>
      apply unframe_with_framing software
      have long := Bytes.length_pad_to Ethernet.minimumLength frame
      simp only [Ethernet.headerLength, Ethernet.minimumLength] at long ⊢
      omega
  · next hardware => exact if_neg hardware

theorem finish_laid (interface : Interface) (frame : Bytes) :
    SlotRing.finish interface.softwareFraming (interface.laid frame) = interface.onWire frame := by
  unfold SlotRing.finish onWire
  split
  · next software =>
      rw [laid, lead, if_pos software, List.drop_left' Ethernet.length_preamble]
      rfl
  · next hardware => simp [laid, lead, hardware]

end Interface

theorem Bytes.blank_zeros (count : Nat) : Blank (zeros count) :=
  fun _ member => List.eq_of_mem_replicate member

theorem Arp.sent_by_body (operation : Operation) (sender target : Station) (count : Nat) :
    SentBy sender (body operation sender target ++ Bytes.zeros count) where
  checked := by simp
  sender_mac := by simp
  sender_ip := by simp
  padding := by
    rw [List.drop_left' (length_body _ _ _)]
    exact Bytes.blank_zeros count

theorem Udp.sealed_segment (source destination : Socket) {content : Bytes}
    (small : headerLength + content.length < 65536) (rest : Bytes) :
    Sealed source.ip destination.ip (headerLength + content.length)
      (segment source destination content ++ rest) where
  long := Nat.le_add_right _ _
  stated := ⟨_, stated_length_segment source destination content rest, Bytes.word16_of_nat small⟩
  checksum := checksum_segment source destination small rest
  valid := checksum_valid_segment source destination small rest

theorem Icmp.sealed_echo (kind : UInt8) (identifier sequence : UInt16) (content rest : Bytes) :
    Sealed (headerLength + content.length) (echo kind identifier sequence content ++ rest) where
  long := Nat.le_add_right _ _
  valid := by
    rw [Nat.add_sub_cancel_left]
    exact checksum_valid_echo kind identifier sequence content rest

theorem Ipv4.sent_by_header {sender receiver : Ipv4Address} {carried : Protocol} {content : Bytes}
    {count : Nat} (small : headerLength + content.length < 65536)
    (holds : (carried = .udp ∧
        Udp.Sealed sender receiver content.length (content ++ Bytes.zeros count)) ∨
      carried = .icmp ∧ Icmp.Sealed content.length (content ++ Bytes.zeros count)) :
    SentBy sender (headerLength + content.length)
      (header sender receiver carried (UInt16.ofNat (headerLength + content.length)) ++
        (content ++ Bytes.zeros count)) where
  checked := by simp
  valid := by simp
  source := by simp
  stated := ⟨_, by simp, Bytes.word16_of_nat small⟩
  present := by simp
  padding := by
    rw [← List.append_assoc, List.drop_left' (by simp)]
    exact Bytes.blank_zeros count
  carried := by
    refine ⟨_, payload_header _ _ _ _ _, ?_⟩
    rw [Nat.add_sub_cancel_left]
    rcases holds with ⟨rfl, holds⟩ | ⟨rfl, holds⟩
    · exact .inl ⟨rfl, receiver, by simp, holds⟩
    · exact .inr ⟨rfl, holds⟩

theorem Ethernet.sent_by_header {station : Arp.Station} {receiver : MacAddress} {kind : UInt16}
    {content : Bytes} (holds : ∀ count, (kind = typeArp ∧
        Arp.SentBy station (content ++ Bytes.zeros count)) ∨
      kind = typeIpv4 ∧ ∃ total, Ipv4.SentBy station.ip total (content ++ Bytes.zeros count)) :
    SentBy station (Bytes.padTo minimumLength (header receiver station.mac kind ++ content)) := by
  have long := Bytes.length_pad_to minimumLength (header receiver station.mac kind ++ content)
  unfold Bytes.padTo at long ⊢
  rw [List.append_assoc] at long ⊢
  refine ⟨by omega, by simp, _, payload_header _ _ _ _, ?_⟩
  rw [ether_type_header]
  rcases holds _ with ⟨rfl, holds⟩ | ⟨rfl, holds⟩
  · exact .inl ⟨rfl, holds⟩
  · exact .inr ⟨rfl, holds⟩

namespace Interface

variable {interface : Interface}

theorem Placed.preamble_of_software (placed : interface.Placed)
    (software : interface.softwareFraming = true) :
    interface.frameOffset = Ethernet.preambleLength :=
  placed.resolve_left (by simpa [softwareFraming] using software)

theorem WellFormed.of_sent {frame : Bytes} (placed : interface.Placed)
    (fits : interface.frameOffset + frame.length ≤ interface.frameEnd)
    (sent : Ethernet.SentBy interface.station (Bytes.padTo Ethernet.minimumLength frame)) :
    interface.WellFormed (interface.onWire frame) where
  short := by
    rw [length_on_wire]
    simp only [frameEnd, Ethernet.maximumLength, Ethernet.minimumLength, Ethernet.preambleLength,
      Ethernet.frameCheckLength] at fits ⊢
    split
    · next software =>
        have preamble := placed.preamble_of_software software
        simp only [if_pos software, Ethernet.preambleLength] at fits preamble
        omega
    · next hardware =>
        rw [if_neg hardware] at fits
        omega
  framed := by
    intro software
    have header : Ethernet.headerLength ≤ (Bytes.padTo Ethernet.minimumLength frame).length :=
      Nat.le_trans (by decide) sent.long
    rw [onWire, if_pos software]
    exact ⟨_, Ethernet.check_framing_with_framing header⟩
  frame := ⟨_, interface.unframe_on_wire frame, sent⟩

theorem sent_by_arp (operation : Arp.Operation) (destination : MacAddress) (target : Arp.Station) :
    Ethernet.SentBy interface.station
      (Bytes.padTo Ethernet.minimumLength (Arp.frame interface operation destination target)) :=
  Ethernet.sent_by_header fun count =>
    .inl ⟨rfl, Arp.sent_by_body operation interface.station target count⟩

theorem sent_by_ipv4 (mac : MacAddress) {receiver : Ipv4Address} {carried : Ipv4.Protocol}
    {content : Bytes} (small : Ipv4.headerLength + content.length < 65536)
    (holds : ∀ count, (carried = .udp ∧
        Udp.Sealed interface.ip receiver content.length (content ++ Bytes.zeros count)) ∨
      carried = .icmp ∧ Icmp.Sealed content.length (content ++ Bytes.zeros count)) :
    Ethernet.SentBy interface.station (Bytes.padTo Ethernet.minimumLength
      (Ethernet.header mac interface.mac Ethernet.typeIpv4 ++
        Ipv4.header interface.ip receiver carried
          (UInt16.ofNat (Ipv4.headerLength + content.length)) ++ content)) := by
  rw [List.append_assoc]
  refine Ethernet.sent_by_header fun count => .inr ⟨rfl, Ipv4.headerLength + content.length, ?_⟩
  rw [List.append_assoc]
  exact Ipv4.sent_by_header small (holds count)

theorem sent_by_udp (peer : Arp.Station) (sourcePort destinationPort : UInt16) {payload : Bytes}
    (small : Udp.frameHeaders + payload.length < 65536) :
    Ethernet.SentBy interface.station (Bytes.padTo Ethernet.minimumLength
      (Udp.frame interface peer sourcePort destinationPort payload)) := by
  simp only [Udp.frameHeaders] at small
  have length := Udp.length_segment ⟨interface.ip, sourcePort⟩ ⟨peer.ip, destinationPort⟩ payload
  rw [Udp.frame, Nat.add_assoc, ← length]
  refine sent_by_ipv4 peer.mac (by omega) fun count => .inl ⟨rfl, ?_⟩
  rw [length]
  exact Udp.sealed_segment ⟨interface.ip, sourcePort⟩ ⟨peer.ip, destinationPort⟩ (by omega) _

theorem sent_by_icmp (mac : MacAddress) (ip : Ipv4Address) (identifier sequence : UInt16)
    {payload : Bytes} (small : Icmp.frameHeaders + payload.length < 65536) :
    Ethernet.SentBy interface.station (Bytes.padTo Ethernet.minimumLength
      (Icmp.replyFrame interface mac ip identifier sequence payload)) := by
  simp only [Icmp.frameHeaders] at small
  have length := Icmp.length_echo Icmp.echoReply identifier sequence payload
  rw [Icmp.replyFrame, Nat.add_assoc, ← length]
  refine sent_by_ipv4 mac (by omega) fun count => .inr ⟨rfl, ?_⟩
  rw [length]
  exact Icmp.sealed_echo _ _ _ _ _

end Interface

end InstrumentLink
