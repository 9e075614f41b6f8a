import InstrumentLink.Icmp.Answer
import InstrumentLink.Ipv4.Dispatch
import InstrumentLink.Proofs.FrameOctets
import InstrumentLink.Proofs.ReadBack
import InstrumentLink.Proofs.SafePort

/-!
Reading the frames that are built here.

Every field of a header is read back as it was written, whatever stands behind the header. A
datagram comes out of its frame with the ports and the payload that went in, and the zeros that
bring a short frame to the minimum are not taken for payload. The other way round, octets that are
read as an ARP frame are a header and a body of it with the fields that were read.
-/

set_option autoImplicit false

namespace InstrumentLink

theorem Bytes.word16_of_nat {number : Nat} (small : number < 65536) :
    (UInt16.ofNat number).toNat = number := by
  rw [UInt16.toNat_ofNat', Nat.mod_eq_of_lt (by omega)]

namespace Ethernet

section Header

variable (receiver sender : MacAddress) (kind : UInt16) (rest : Bytes)

@[simp] theorem destination_header :
    destination (header receiver sender kind ++ rest) = .ok receiver := rfl

@[simp] theorem source_header : source (header receiver sender kind ++ rest) = .ok sender := rfl

@[simp] theorem ether_type_header : etherType (header receiver sender kind ++ rest) = .ok kind :=
  congrArg Except.ok (Bytes.word16_of_octets kind)

@[simp] theorem payload_header : payload (header receiver sender kind ++ rest) = .ok rest := by
  unfold payload
  rw [Bytes.suffix_inside _ _ (by simp), List.drop_left' (length_header _ _ _)]

end Header

end Ethernet

namespace Arp

section Body

variable (operation : Operation) (sender target : Station) (rest : Bytes)

@[simp] theorem check_body : check (body operation sender target ++ rest) = .ok () := by
  have hardware : hardwareType (body operation sender target ++ rest) = .ok hardwareEthernet := rfl
  have kind : protocolType (body operation sender target ++ rest) = .ok Ethernet.typeIpv4 := rfl
  have hardwareOctets : hardwareSize (body operation sender target ++ rest) = .ok 6 := rfl
  have addressOctets : protocolSize (body operation sender target ++ rest) = .ok 4 := rfl
  simp [check, hardware, kind, hardwareOctets, addressOctets, Except.toOption]

@[simp] theorem operation_code_body :
    operationCode (body operation sender target ++ rest) = .ok operation.code :=
  congrArg Except.ok (Bytes.word16_of_octets operation.code)

@[simp] theorem sender_mac_body :
    senderMac (body operation sender target ++ rest) = .ok sender.mac := rfl

@[simp] theorem sender_ip_body :
    senderIp (body operation sender target ++ rest) = .ok sender.ip := rfl

@[simp] theorem target_ip_body :
    targetIp (body operation sender target ++ rest) = .ok target.ip := rfl

end Body

end Arp

namespace Ipv4

section Header

variable (sender receiver : Ipv4Address) (carried : Protocol) (length : UInt16) (rest : Bytes)

@[simp] theorem check_header : check (header sender receiver carried length ++ rest) = .ok () := by
  have first : version (header sender receiver carried length ++ rest) = .ok versionAndLength := rfl
  simp [check, first, Except.toOption]

@[simp] theorem total_length_header :
    totalLength (header sender receiver carried length ++ rest) = .ok length :=
  congrArg Except.ok (Bytes.word16_of_octets length)

@[simp] theorem protocol_header :
    protocol (header sender receiver carried length ++ rest) = .ok (.ofCode carried.code) := rfl

@[simp] theorem source_header :
    source (header sender receiver carried length ++ rest) = .ok sender := rfl

@[simp] theorem destination_header :
    destination (header sender receiver carried length ++ rest) = .ok receiver := rfl

@[simp] theorem payload_header :
    payload (header sender receiver carried length ++ rest) = .ok rest := by
  unfold payload
  rw [Bytes.suffix_inside _ _ (by simp), List.drop_left' (length_header _ _ _ _)]

end Header

end Ipv4

namespace Udp

section Segment

variable (source destination : Socket) (content rest : Bytes)

@[simp] theorem source_port_segment :
    sourcePort (segment source destination content ++ rest) = .ok source.port :=
  congrArg Except.ok (Bytes.word16_of_octets source.port)

@[simp] theorem destination_port_segment :
    destinationPort (segment source destination content ++ rest) = .ok destination.port :=
  congrArg Except.ok (Bytes.word16_of_octets destination.port)

@[simp] theorem stated_length_segment :
    statedLength (segment source destination content ++ rest) =
      .ok (UInt16.ofNat (headerLength + content.length)) :=
  congrArg Except.ok (Bytes.word16_of_octets _)

variable {content}
omit rest

theorem check_segment (small : headerLength + content.length < 65536) (rest : Bytes) :
    check (segment source destination content ++ rest) = .ok () := by
  have long : ¬(segment source destination content ++ rest).length < headerLength := by
    simp only [List.length_append, length_segment]
    omega
  have stated : ¬headerLength + content.length < headerLength := by omega
  simp only [check, if_neg long, stated_length_segment, Bytes.word16_of_nat small, if_neg stated]

theorem payload_segment (small : headerLength + content.length < 65536) (rest : Bytes) :
    payload (segment source destination content ++ rest) = .ok content := by
  have whole : (segment source destination content ++ rest).length =
      headerLength + content.length + rest.length := by
    simp only [List.length_append, length_segment]
  have stated := stated_length_segment source destination content rest
  have behind : (segment source destination content ++ rest).drop headerLength =
      content ++ rest := by
    rw [segment, List.append_assoc, List.drop_left' (length_header_with _ _ _ _)]
  have stop : min (max (headerLength + content.length) headerLength)
      (segment source destination content ++ rest).length = headerLength + content.length := by
    omega
  simp only [payload, stated, bind, Except.bind, Bytes.word16_of_nat small, stop]
  rw [Bytes.slice_inside _ _ _ (by omega) (by omega), behind, Nat.add_sub_cancel_left,
    List.take_left]

end Segment

end Udp

namespace Ipv4

/-- A datagram comes out of its packet as it went in, if it is for the address and the port. -/
theorem datagram_for_packet (interface receiver : Interface) (peer : Arp.Station)
    (sourcePort destinationPort : UInt16) (content rest : Bytes) (same : receiver.ip = peer.ip)
    (small : headerLength + Udp.headerLength + content.length < 65536) :
    datagramFor receiver destinationPort
        (header interface.ip peer.ip .udp
            (UInt16.ofNat (headerLength + Udp.headerLength + content.length)) ++
          (Udp.segment ⟨interface.ip, sourcePort⟩ ⟨peer.ip, destinationPort⟩ content ++ rest)) =
      .ok (some ⟨interface.ip, sourcePort, destinationPort, content⟩) := by
  have long : ¬headerLength + Udp.headerLength + content.length <
      headerLength + Udp.headerLength := by omega
  have short : Udp.headerLength + content.length < 65536 := by omega
  have checked := Udp.check_segment ⟨interface.ip, sourcePort⟩ ⟨peer.ip, destinationPort⟩ short rest
  have carried := Udp.payload_segment ⟨interface.ip, sourcePort⟩ ⟨peer.ip, destinationPort⟩ short
    rest
  simp only [datagramFor, total_length_header, destination_header, source_header, payload_header,
    Udp.source_port_segment, Udp.destination_port_segment, bind, Except.bind, pure, Except.pure,
    Bytes.word16_of_nat small, if_neg long, same, ne_eq, not_true, if_false, checked, carried]

end Ipv4

theorem Udp.frame_append (interface : Interface) (peer : Arp.Station)
    (sourcePort destinationPort : UInt16) (content rest : Bytes) :
    frame interface peer sourcePort destinationPort content ++ rest =
      Ethernet.header peer.mac interface.mac Ethernet.typeIpv4 ++
        (Ipv4.header interface.ip peer.ip .udp
            (UInt16.ofNat (Ipv4.headerLength + headerLength + content.length)) ++
          (segment ⟨interface.ip, sourcePort⟩ ⟨peer.ip, destinationPort⟩ content ++ rest)) := by
  simp only [frame, List.append_assoc]

theorem Bytes.of_word16_word16 (high low : UInt8) : ofWord16 (word16 high low) = [high, low] := by
  have first := high.toNat_lt
  have second := low.toNat_lt
  have number : (word16 high low).toNat = 256 * high.toNat + low.toNat := by
    unfold word16
    rw [UInt16.toNat_ofNat', Nat.mod_eq_of_lt (by omega)]
  unfold ofWord16
  rw [number]
  congr 1
  · apply UInt8.toNat_inj.mp
    rw [UInt8.toNat_ofNat']
    omega
  · congr 1
    apply UInt8.toNat_inj.mp
    rw [UInt8.toNat_ofNat']
    omega

theorem Bytes.drop_word16 {data : Bytes} {index : Nat} {word : UInt16}
    (read : word16At data index = .ok word) :
    data.drop index = ofWord16 word ++ data.drop (index + 2) := by
  unfold word16At at read
  split at read
  · next high low rest stood =>
      cases read
      rw [← List.drop_drop, stood, of_word16_word16]
      rfl
  · cases read

theorem Bytes.drop_octet {data : Bytes} {index : Nat} {octet : UInt8}
    (read : octetAt data index = .ok octet) : data.drop index = octet :: data.drop (index + 1) := by
  unfold octetAt at read
  split at read
  · next stands =>
      cases read
      obtain ⟨inside, rfl⟩ := List.getElem?_eq_some_iff.mp stands
      exact List.drop_eq_getElem_cons inside
  · cases read

theorem MacAddress.drop_read {data : Bytes} {index : Nat} {address : MacAddress}
    (read : readAt data index = .ok address) :
    data.drop index = address.toBytes ++ data.drop (index + 6) := by
  unfold readAt at read
  split at read
  · next stood =>
      cases read
      rw [← List.drop_drop, stood]
      rfl
  · cases read

theorem Ipv4Address.drop_read {data : Bytes} {index : Nat} {address : Ipv4Address}
    (read : readAt data index = .ok address) :
    data.drop index = address.toBytes ++ data.drop (index + 4) := by
  unfold readAt at read
  split at read
  · next stood =>
      cases read
      rw [← List.drop_drop, stood]
      rfl
  · cases read

theorem Arp.fields_of_check {data : Bytes} (accepted : check data = .ok ()) :
    bodyLength ≤ data.length ∧ hardwareType data = .ok hardwareEthernet ∧
      protocolType data = .ok Ethernet.typeIpv4 ∧ hardwareSize data = .ok 6 ∧
      protocolSize data = .ok 4 := by
  unfold check at accepted
  split at accepted
  · cases accepted
  · next long =>
    split at accepted
    · cases accepted
    · next hardware =>
      split at accepted
      · cases accepted
      · next kind =>
        split at accepted
        · cases accepted
        · next sizes =>
          rw [not_or, not_not, not_not] at sizes
          exact ⟨Nat.le_of_not_lt long, ok_of_to_option (not_not.mp hardware),
            ok_of_to_option (not_not.mp kind), ok_of_to_option sizes.1, ok_of_to_option sizes.2⟩

theorem Arp.body_of_reads {data : Bytes} {mac : MacAddress} {ip : Ipv4Address}
    {operation : Operation} (accepted : check data = .ok ())
    (code : operationCode data = .ok operation.code) (macRead : senderMac data = .ok mac)
    (ipRead : senderIp data = .ok ip) :
    ∃ target rest, data = body operation ⟨mac, ip⟩ target ++ rest := by
  obtain ⟨long, hardware, kind, hardwareOctets, protocolOctets⟩ := fields_of_check accepted
  unfold bodyLength at long
  have targetMacRead := MacAddress.read_at_standing data 18 (by omega)
  have targetIpRead := Ipv4Address.read_at_standing data 24 (by omega)
  refine ⟨⟨.standing data 18, .standing data 24⟩, data.drop 28, ?_⟩
  simp only [body, Station.toBytes, List.append_assoc, List.cons_append, List.nil_append]
  rw [← Ipv4Address.drop_read targetIpRead, ← MacAddress.drop_read targetMacRead,
    ← Ipv4Address.drop_read ipRead, ← MacAddress.drop_read macRead, ← Bytes.drop_word16 code,
    ← Bytes.drop_octet protocolOctets, ← Bytes.drop_octet hardwareOctets,
    ← Bytes.drop_word16 kind, ← Bytes.drop_word16 hardware]
  rfl

theorem Ethernet.header_of_class {frame : Bytes} (long : headerLength ≤ frame.length)
    (arp : classify frame = .arp) :
    ∃ receiver sender rest, frame = header receiver sender typeArp ++ rest ∧
      payload frame = .ok rest := by
  unfold headerLength at long
  have receiverRead := MacAddress.read_at_standing frame 0 (by omega)
  have senderRead := MacAddress.read_at_standing frame 6 (by omega)
  have kindRead : etherType frame = .ok typeArp := by
    unfold classify at arp
    split at arp
    · next kind read =>
        split at arp
        · next same => rw [read, same]
        · split at arp <;> cases arp
    · cases arp
  refine ⟨.standing frame 0, .standing frame 6, frame.drop 14, ?_, payload_inside frame long⟩
  simp only [header, List.append_assoc]
  rw [← Bytes.drop_word16 kindRead, ← MacAddress.drop_read senderRead,
    ← MacAddress.drop_read receiverRead]
  rfl

end InstrumentLink
