import InstrumentLink.Arp.Resolver
import InstrumentLink.Ipv4.Dispatch
import InstrumentLink.Proofs.FrameBuilding

/-!
What a frame says, by the place of its octets.

Without options every header starts at a place of its own: what an Ethernet frame carries behind
fourteen octets, what an IPv4 packet carries behind thirty-four, the payload of a datagram or an
echo behind forty-two. So a field that is read layer by layer stands at one place of the frame, and
what makes a frame a datagram for a port, or a request that is answered, is a condition on its
octets.
-/

set_option autoImplicit false

namespace InstrumentLink

namespace Bytes

theorem get_d_drop (data : Bytes) (start index : Nat) :
    (data.drop start).getD index 0 = data.getD (start + index) 0 := by
  simp only [List.getD_eq_getElem?_getD, List.getElem?_drop]

/-- The word of the two octets from an index on, in a string with zeros behind it. -/
def pairAt (data : Bytes) (index : Nat) : UInt16 :=
  word16 (data.getD index 0) (data.getD (index + 1) 0)

theorem pair_at_drop (data : Bytes) (start index : Nat) :
    pairAt (data.drop start) index = pairAt data (start + index) := by
  simp only [pairAt, get_d_drop, Nat.add_assoc]

end Bytes

namespace MacAddress

def standing (data : Bytes) (index : Nat) : MacAddress :=
  ⟨data.getD index 0, data.getD (index + 1) 0, data.getD (index + 2) 0, data.getD (index + 3) 0,
    data.getD (index + 4) 0, data.getD (index + 5) 0⟩

theorem standing_drop (data : Bytes) (start index : Nat) :
    standing (data.drop start) index = standing data (start + index) := by
  simp only [standing, Bytes.get_d_drop, Nat.add_assoc]

theorem read_at_standing (data : Bytes) (index : Nat) (inside : index + 6 ≤ data.length) :
    readAt data index = .ok (standing data index) := by
  unfold readAt
  rw [Bytes.drop_eq_cons data index (by omega), Bytes.drop_eq_cons data (index + 1) (by omega),
    Bytes.drop_eq_cons data (index + 2) (by omega), Bytes.drop_eq_cons data (index + 3) (by omega),
    Bytes.drop_eq_cons data (index + 4) (by omega), Bytes.drop_eq_cons data (index + 5) (by omega)]
  rfl

end MacAddress

namespace Ipv4Address

def standing (data : Bytes) (index : Nat) : Ipv4Address :=
  ⟨data.getD index 0, data.getD (index + 1) 0, data.getD (index + 2) 0, data.getD (index + 3) 0⟩

theorem standing_drop (data : Bytes) (start index : Nat) :
    standing (data.drop start) index = standing data (start + index) := by
  simp only [standing, Bytes.get_d_drop, Nat.add_assoc]

theorem read_at_standing (data : Bytes) (index : Nat) (inside : index + 4 ≤ data.length) :
    readAt data index = .ok (standing data index) := by
  unfold readAt
  rw [Bytes.drop_eq_cons data index (by omega), Bytes.drop_eq_cons data (index + 1) (by omega),
    Bytes.drop_eq_cons data (index + 2) (by omega), Bytes.drop_eq_cons data (index + 3) (by omega)]
  rfl

end Ipv4Address

/-- The end of a frame with verified framing lies behind its preamble and inside the slot, so taking
the framing off leaves no octet out. -/
theorem Ethernet.check_framing_inside {framed : Bytes} {stop : Nat}
    (checked : checkFraming framed = .ok stop) :
    preambleLength + headerLength ≤ stop ∧ stop + frameCheckLength = framed.length := by
  unfold checkFraming at checked
  split at checked
  · cases checked
  · next long =>
      split at checked
      · cases checked
      · dsimp only at checked
        split at checked
        · cases checked
        · cases checked
          omega

theorem Ethernet.payload_inside (frame : Bytes) (header : headerLength ≤ frame.length) :
    payload frame = .ok (frame.drop headerLength) :=
  Bytes.suffix_inside frame headerLength header

namespace Arp

/-- A frame of the Ethernet minimum whose body is accepted. -/
structure Complete (frame : Bytes) : Prop where
  long : 60 ≤ frame.length
  accepted : check (frame.drop 14) = .ok ()

section Fields

variable {frame : Bytes} (long : 60 ≤ frame.length)

include long

theorem body_stands : Ethernet.payload frame = .ok (frame.drop 14) :=
  Ethernet.payload_inside frame (Nat.le_trans (by decide) long)

theorem operation_code_stands : operationCode (frame.drop 14) = .ok (Bytes.pairAt frame 20) := by
  unfold operationCode
  rw [Bytes.word16_at_inside _ 6 (by rw [List.length_drop]; omega)]
  exact congrArg Except.ok (Bytes.pair_at_drop frame 14 6)

theorem sender_mac_stands : senderMac (frame.drop 14) = .ok (MacAddress.standing frame 22) := by
  unfold senderMac
  rw [MacAddress.read_at_standing _ 8 (by rw [List.length_drop]; omega), MacAddress.standing_drop]

theorem sender_ip_stands : senderIp (frame.drop 14) = .ok (Ipv4Address.standing frame 28) := by
  unfold senderIp
  rw [Ipv4Address.read_at_standing _ 14 (by rw [List.length_drop]; omega),
    Ipv4Address.standing_drop]

theorem target_ip_stands : targetIp (frame.drop 14) = .ok (Ipv4Address.standing frame 38) := by
  unfold targetIp
  rw [Ipv4Address.read_at_standing _ 24 (by rw [List.length_drop]; omega),
    Ipv4Address.standing_drop]

end Fields

end Arp

namespace Ipv4

/-- A frame that reaches to the payload of what it carries, with a header of twenty octets. -/
structure Plain (frame : Bytes) : Prop where
  long : 42 ≤ frame.length
  header : frame.getD 14 0 = 0x45

instance (frame : Bytes) : Decidable (Plain frame) :=
  decidable_of_iff (42 ≤ frame.length ∧ frame.getD 14 0 = 0x45)
    ⟨fun ⟨long, header⟩ => ⟨long, header⟩, fun ⟨long, header⟩ => ⟨long, header⟩⟩

def kindOf (frame : Bytes) : Protocol := .ofCode (frame.getD 23 0)

theorem kind_icmp {frame : Bytes} : kindOf frame = .icmp ↔ frame.getD 23 0 = 0x01 := by
  grind [kindOf, Protocol.ofCode]

theorem kind_udp {frame : Bytes} : kindOf frame = .udp ↔ frame.getD 23 0 = 0x11 := by
  grind [kindOf, Protocol.ofCode]

section Fields

variable {frame : Bytes} (long : 42 ≤ frame.length)

include long

theorem packet_stands : Ethernet.payload frame = .ok (frame.drop 14) :=
  Ethernet.payload_inside frame (Nat.le_trans (by decide) long)

theorem total_length_stands : totalLength (frame.drop 14) = .ok (Bytes.pairAt frame 16) := by
  unfold totalLength
  rw [Bytes.word16_at_inside _ 2 (by rw [List.length_drop]; omega)]
  exact congrArg Except.ok (Bytes.pair_at_drop frame 14 2)

theorem protocol_stands : protocol (frame.drop 14) = .ok (kindOf frame) := by
  unfold protocol
  rw [Bytes.octet_at_inside _ 9 (by rw [List.length_drop]; omega), Bytes.get_d_drop]
  rfl

theorem source_stands : source (frame.drop 14) = .ok (Ipv4Address.standing frame 26) := by
  unfold source
  rw [Ipv4Address.read_at_standing _ 12 (by rw [List.length_drop]; omega),
    Ipv4Address.standing_drop]

theorem destination_stands :
    destination (frame.drop 14) = .ok (Ipv4Address.standing frame 30) := by
  unfold destination
  rw [Ipv4Address.read_at_standing _ 16 (by rw [List.length_drop]; omega),
    Ipv4Address.standing_drop]

theorem payload_stands : payload (frame.drop 14) = .ok (frame.drop 34) := by
  unfold payload headerLength
  rw [Bytes.suffix_inside _ 20 (by rw [List.length_drop]; omega), List.drop_drop]

theorem check_stands : check (frame.drop 14) = .ok () ↔ frame.getD 14 0 = 0x45 := by
  have complete : ¬(frame.drop 14).length < headerLength := by
    rw [List.length_drop, headerLength]
    omega
  have first : version (frame.drop 14) = .ok (frame.getD 14 0) := by
    unfold version
    rw [Bytes.octet_at_inside _ 0 (by rw [List.length_drop]; omega), Bytes.get_d_drop]
  unfold check
  rw [if_neg complete, first]
  simp [Except.toOption, versionAndLength]

end Fields

end Ipv4

namespace Udp

/-- A frame carries a datagram for a port of an address. -/
structure Reaches (ip : Ipv4Address) (port : UInt16) (frame : Bytes) : Prop where
  plain : Ipv4.Plain frame
  carries : frame.getD 23 0 = 0x11
  total : 28 ≤ (Bytes.pairAt frame 16).toNat
  addressed : Ipv4Address.standing frame 30 = ip
  stated : 8 ≤ (Bytes.pairAt frame 38).toNat
  port : Bytes.pairAt frame 36 = port

instance (ip : Ipv4Address) (port : UInt16) (frame : Bytes) : Decidable (Reaches ip port frame) :=
  decidable_of_iff
    (Ipv4.Plain frame ∧ frame.getD 23 0 = 0x11 ∧ 28 ≤ (Bytes.pairAt frame 16).toNat ∧
      Ipv4Address.standing frame 30 = ip ∧ 8 ≤ (Bytes.pairAt frame 38).toNat ∧
      Bytes.pairAt frame 36 = port)
    ⟨fun ⟨plain, carries, total, addressed, stated, port⟩ =>
        ⟨plain, carries, total, addressed, stated, port⟩,
      fun ⟨plain, carries, total, addressed, stated, port⟩ =>
        ⟨plain, carries, total, addressed, stated, port⟩⟩

def datagramIn (frame : Bytes) : Datagram where
  sourceIp := Ipv4Address.standing frame 26
  sourcePort := Bytes.pairAt frame 34
  destinationPort := Bytes.pairAt frame 36
  payload := (frame.take (34 + min (Bytes.pairAt frame 38).toNat (frame.length - 34))).drop 42

theorem length_payload_le {frame : Bytes} (long : 42 ≤ frame.length) :
    frameHeaders + (datagramIn frame).payload.length ≤ frame.length := by
  have headers : frameHeaders = 42 := rfl
  simp only [datagramIn, List.length_drop, List.length_take]
  omega

section Fields

variable {frame : Bytes} (long : 42 ≤ frame.length)

include long

theorem source_port_stands : sourcePort (frame.drop 34) = .ok (Bytes.pairAt frame 34) := by
  unfold sourcePort
  rw [Bytes.word16_at_inside _ 0 (by rw [List.length_drop]; omega)]
  exact congrArg Except.ok (Bytes.pair_at_drop frame 34 0)

theorem destination_port_stands :
    destinationPort (frame.drop 34) = .ok (Bytes.pairAt frame 36) := by
  unfold destinationPort
  rw [Bytes.word16_at_inside _ 2 (by rw [List.length_drop]; omega)]
  exact congrArg Except.ok (Bytes.pair_at_drop frame 34 2)

theorem stated_length_stands : statedLength (frame.drop 34) = .ok (Bytes.pairAt frame 38) := by
  unfold statedLength
  rw [Bytes.word16_at_inside _ 4 (by rw [List.length_drop]; omega)]
  exact congrArg Except.ok (Bytes.pair_at_drop frame 34 4)

theorem check_stands :
    check (frame.drop 34) =
      if (Bytes.pairAt frame 38).toNat < 8 then .error .lengthBelowHeader else .ok () := by
  have complete : ¬(frame.drop 34).length < headerLength := by
    rw [List.length_drop, headerLength]
    omega
  unfold check
  rw [if_neg complete, stated_length_stands long]
  rfl

theorem payload_stands (stated : 8 ≤ (Bytes.pairAt frame 38).toNat) :
    payload (frame.drop 34) = .ok (datagramIn frame).payload := by
  have whole : (frame.drop 34).length = frame.length - 34 := List.length_drop
  have stop : min (max (Bytes.pairAt frame 38).toNat 8) (frame.length - 34) =
      min (Bytes.pairAt frame 38).toNat (frame.length - 34) := by
    rw [Nat.max_eq_left stated]
  have front : 34 + min (Bytes.pairAt frame 38).toNat (frame.length - 34) - 42 =
      min (Bytes.pairAt frame 38).toNat (frame.length - 34) - 8 := by omega
  unfold payload
  refine bind_known (stated_length_stands long) ?_
  simp only [headerLength, whole, stop]
  rw [Bytes.slice_inside _ 8 _ (by omega) (by omega), List.drop_drop]
  simp only [datagramIn, List.drop_take, front]

end Fields

end Udp

namespace Icmp

/-- Octets of payload, as the total length of the packet has them. -/
def statedPayload (frame : Bytes) : Nat := (Bytes.pairAt frame 16).toNat - 28

/-- A frame carries a request that is answered: its payload is there, and fits a reply. -/
structure Answerable (interface : Interface) (frame : Bytes) : Prop where
  plain : Ipv4.Plain frame
  carries : frame.getD 23 0 = 0x01
  request : frame.getD 34 0 = 8 ∨ frame.getD 34 0 = 13
  present : statedPayload frame ≤ frame.length - 42
  fits : interface.frameOffset + 42 + statedPayload frame ≤
    1532 - if interface.softwareFraming then 4 else 0

instance (interface : Interface) (frame : Bytes) : Decidable (Answerable interface frame) :=
  decidable_of_iff
    (Ipv4.Plain frame ∧ frame.getD 23 0 = 0x01 ∧ (frame.getD 34 0 = 8 ∨ frame.getD 34 0 = 13) ∧
      statedPayload frame ≤ frame.length - 42 ∧
      interface.frameOffset + 42 + statedPayload frame ≤
        1532 - if interface.softwareFraming then 4 else 0)
    ⟨fun ⟨plain, carries, request, present, fits⟩ => ⟨plain, carries, request, present, fits⟩,
      fun ⟨plain, carries, request, present, fits⟩ => ⟨plain, carries, request, present, fits⟩⟩

def replyIn (frame : Bytes) : Reply where
  destinationMac := MacAddress.standing frame 6
  destinationIp := Ipv4Address.standing frame 26
  identifier := Bytes.pairAt frame 38
  sequence := Bytes.pairAt frame 40
  payload := (frame.drop 42).take (statedPayload frame)

theorem Answerable.length_payload {interface : Interface} {frame : Bytes}
    (answerable : Answerable interface frame) :
    (replyIn frame).payload.length = statedPayload frame := by
  have present := answerable.present
  simp only [replyIn, List.length_take, List.length_drop]
  omega

theorem Answerable.reply_fits {interface : Interface} {frame : Bytes}
    (answerable : Answerable interface frame) :
    interface.frameOffset + ((replyIn frame).frame interface).length ≤ interface.frameEnd := by
  have fits : interface.frameOffset + 42 + statedPayload frame ≤ interface.frameEnd :=
    answerable.fits
  have headers : frameHeaders = 42 := rfl
  rw [Reply.length_frame, answerable.length_payload]
  omega

section Fields

variable {frame : Bytes} (long : 42 ≤ frame.length)

include long

theorem check_stands : check (frame.drop 34) = .ok () := by
  have complete : ¬(frame.drop 34).length < headerLength := by
    rw [List.length_drop, headerLength]
    omega
  exact if_neg complete

theorem message_type_stands : messageType (frame.drop 34) = .ok (frame.getD 34 0) := by
  unfold messageType
  rw [Bytes.octet_at_inside _ 0 (by rw [List.length_drop]; omega), Bytes.get_d_drop]

theorem identifier_stands : identifier (frame.drop 34) = .ok (Bytes.pairAt frame 38) := by
  unfold identifier
  rw [Bytes.word16_at_inside _ 4 (by rw [List.length_drop]; omega)]
  exact congrArg Except.ok (Bytes.pair_at_drop frame 34 4)

theorem sequence_stands : sequence (frame.drop 34) = .ok (Bytes.pairAt frame 40) := by
  unfold sequence
  rw [Bytes.word16_at_inside _ 6 (by rw [List.length_drop]; omega)]
  exact congrArg Except.ok (Bytes.pair_at_drop frame 34 6)

theorem payload_stands : payload (frame.drop 34) = .ok (frame.drop 42) := by
  unfold payload headerLength
  rw [Bytes.suffix_inside _ 8 (by rw [List.length_drop]; omega), List.drop_drop]

end Fields

end Icmp

end InstrumentLink
