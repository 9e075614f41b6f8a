import InstrumentLink.Etherbone.Endpoint
import InstrumentLink.Icmp.Answer
import InstrumentLink.Proofs.Returns

/-!
Frames built over other octets.

Every frame is built in its slot, field after field, over what an earlier frame left there, and
checksums are taken over the octets in place. The fields of a header follow each other without a
gap, a checksum covers only octets that are written by then, and so a finished frame is the frame
that is written down whole: of the octets that were there before, only a payload that was put into
its place is left.
-/

set_option autoImplicit false

namespace InstrumentLink

theorem bind_known {First Second : Type} {computation : Except Fault First} {answer : First}
    {continuation : First → Except Fault Second} {result : Except Fault Second}
    (same : computation = .ok answer) (rest : continuation answer = result) :
    computation >>= continuation = result := by
  rw [same]
  exact rest

namespace Bytes

theorem overwrite_between {front old behind patch : Bytes} {start : Nat}
    (place : front.length = start) (same : patch.length = old.length) :
    overwrite (front ++ (old ++ behind)) start patch = .ok (front ++ (patch ++ behind)) := by
  have inside : start + patch.length ≤ (front ++ (old ++ behind)).length := by
    simp only [List.length_append]
    omega
  have rest : (front ++ (old ++ behind)).drop (start + patch.length) = behind := by
    rw [← List.append_assoc, same, ← place]
    exact List.drop_left' (List.length_append ..)
  rw [overwrite, if_pos inside, rest, List.take_left' place, List.append_assoc]

theorem overwrite_front {old behind patch : Bytes} (same : patch.length = old.length) :
    overwrite (old ++ behind) 0 patch = .ok (patch ++ behind) :=
  @overwrite_between [] old behind patch 0 rfl same

theorem split_at (data : Bytes) (count : Nat) (inside : count ≤ data.length) :
    ∃ front behind : Bytes, data = front ++ behind ∧ front.length = count :=
  ⟨data.take count, data.drop count, (List.take_append_drop count data).symm,
    List.length_take_of_le inside⟩

/-- Fields without a gap between them, the first at the given offset. -/
def Adjacent : Nat → List (Nat × Bytes) → Prop
  | _, [] => True
  | start, (offset, field) :: fields =>
      offset = start ∧ Adjacent (start + field.length) fields

def joined (fields : List (Nat × Bytes)) : Bytes := fields.flatMap Prod.snd

theorem write_fields_between {fields : List (Nat × Bytes)} {front old behind : Bytes} {start : Nat}
    (adjacent : Adjacent start fields) (place : front.length = start)
    (same : (joined fields).length = old.length) :
    writeFields (front ++ (old ++ behind)) fields = .ok (front ++ (joined fields ++ behind)) := by
  induction fields generalizing front old start with
  | nil =>
      have nothing : old = [] := List.eq_nil_of_length_eq_zero same.symm
      rw [nothing]
      rfl
  | cons first fields induction =>
      obtain ⟨offset, field⟩ := first
      obtain ⟨rfl, adjacent⟩ := adjacent
      have parts : joined ((offset, field) :: fields) = field ++ joined fields := rfl
      rw [parts, List.length_append] at same
      obtain ⟨covered, later, rfl, width⟩ := split_at old field.length (by omega)
      rw [List.length_append] at same
      have written : overwrite (front ++ (covered ++ later ++ behind)) offset field =
          .ok (front ++ field ++ (later ++ behind)) := by
        rw [List.append_assoc covered, overwrite_between place width.symm, List.append_assoc]
      rw [writeFields, written, parts]
      refine (induction adjacent ?_ ?_).trans ?_
      · rw [List.length_append, place]
      · omega
      · simp only [List.append_assoc]

theorem write_fields_front {fields : List (Nat × Bytes)} {old behind : Bytes}
    (adjacent : Adjacent 0 fields) (same : (joined fields).length = old.length) :
    writeFields (old ++ behind) fields = .ok (joined fields ++ behind) :=
  @write_fields_between fields [] old behind 0 adjacent rfl same

theorem write_fields_append (data : Bytes) (first second : List (Nat × Bytes)) :
    writeFields data (first ++ second) =
      writeFields data first >>= fun written => writeFields written second := by
  induction first generalizing data with
  | nil => rfl
  | cons field first induction =>
      simp only [List.cons_append, writeFields, bind_assoc, induction]

theorem write_fields_around {before after : List (Nat × Bytes)} {old behind : Bytes} {gap : Nat}
    (first : Adjacent 0 before) (second : Adjacent ((joined before).length + gap) after)
    (width : old.length = (joined before).length + gap + (joined after).length) :
    ∃ left : Bytes, left.length = gap ∧ writeFields (old ++ behind) (before ++ after) =
      .ok (joined before ++ (left ++ (joined after ++ behind))) := by
  obtain ⟨front, rest, rfl, place⟩ := split_at old (joined before).length (by omega)
  rw [List.length_append] at width
  obtain ⟨left, last, rfl, same⟩ := split_at rest gap (by omega)
  rw [List.length_append] at width
  refine ⟨left, same, ?_⟩
  have written : writeFields (front ++ (left ++ last) ++ behind) before =
      .ok (joined before ++ left ++ (last ++ behind)) := by
    simp only [List.append_assoc]
    exact write_fields_front first place.symm
  rw [write_fields_append, written]
  have place : (joined before ++ left).length = (joined before).length + gap := by
    rw [List.length_append, same]
  have length : (joined after).length = last.length := by omega
  refine (write_fields_between second place length).trans ?_
  rw [List.append_assoc]

/-- A checksum covers the octets around its own place, which counts as zeros, and nothing behind
them. -/
theorem install_checksum {front old covered behind : Bytes} {start stop : Nat}
    (place : front.length = start) (width : old.length = 2)
    (whole : (front ++ ([0, 0] ++ covered)).length = stop) :
    (overwrite (front ++ (old ++ (covered ++ behind))) start [0, 0] >>= fun cleared =>
      slice cleared 0 stop >>= fun summed =>
        overwrite cleared start (ofWord16 (Checksum.field summed 0))) =
      .ok (front ++ (ofWord16 (Checksum.field (front ++ ([0, 0] ++ covered)) 0) ++
        (covered ++ behind))) := by
  have cleared : overwrite (front ++ (old ++ (covered ++ behind))) start [0, 0] =
      .ok (front ++ ([0, 0] ++ (covered ++ behind))) :=
    overwrite_between place width.symm
  have summed : slice (front ++ ([0, 0] ++ (covered ++ behind))) 0 stop =
      .ok (front ++ ([0, 0] ++ covered)) := by
    have parts : front ++ ([0, 0] ++ (covered ++ behind)) =
        front ++ ([0, 0] ++ covered) ++ behind := by
      simp only [List.append_assoc]
    rw [parts, slice_inside _ _ _ (Nat.zero_le _) (by rw [List.length_append]; omega),
      List.drop_zero, Nat.sub_zero, List.take_left' whole]
  exact bind_known cleared (bind_known summed (overwrite_between place rfl))

theorem change_from_behind {front behind changed : Bytes} {start : Nat}
    {change : Bytes → Except Fault Bytes} (place : front.length = start)
    (same : change behind = .ok changed) (length : changed.length = behind.length) :
    changeFrom (front ++ behind) start change = .ok (front ++ changed) := by
  have inside : start ≤ (front ++ behind).length := by
    rw [List.length_append]
    omega
  have patched := @overwrite_between front behind [] changed start place length
  simp only [List.append_nil] at patched
  have found : suffix (front ++ behind) start = .ok behind := by
    rw [suffix_inside _ _ inside, List.drop_left' place]
  exact bind_known found (bind_known same patched)

theorem zeros_append (first second third : Nat) :
    zeros (first + second + third) = zeros first ++ (zeros second ++ zeros third) := by
  simp only [zeros, List.replicate_append_replicate, Nat.add_assoc]

theorem pad_to_pad_to (minimum : Nat) (data : Bytes) :
    padTo minimum (padTo minimum data) = padTo minimum data := by
  have full : minimum - (padTo minimum data).length = 0 := by
    rw [length_pad_to]
    omega
  rw [padTo, full]
  exact List.append_nil _

end Bytes

theorem Ethernet.fill_header_over {old behind : Bytes} (destination source : MacAddress)
    (etherType : UInt16) (width : old.length = headerLength) :
    fillHeader (old ++ behind) destination source etherType =
      .ok (header destination source etherType ++ behind) :=
  Bytes.overwrite_front width.symm

theorem Arp.fields_adjacent (operation : Operation) (sender target : Station) :
    Bytes.Adjacent 0 (fields operation sender target) :=
  ⟨rfl, rfl, rfl, rfl, rfl, rfl, rfl, rfl, rfl, trivial⟩

theorem Arp.fill_over {old behind : Bytes} (operation : Operation) (sender target : Station)
    (width : old.length = bodyLength) :
    fill (old ++ behind) operation sender target = .ok (body operation sender target ++ behind) :=
  Bytes.write_fields_front (fields_adjacent operation sender target) width.symm

theorem Ipv4.fill_header_over {old behind : Bytes} (source destination : Ipv4Address)
    (protocol : Protocol) (totalLength : UInt16) (width : old.length = headerLength) :
    fillHeader (old ++ behind) source destination protocol totalLength =
      .ok (header source destination protocol totalLength ++ behind) := by
  -- The checksum stands between the fields in front of it and the two addresses.
  let sizes := (fields source destination protocol totalLength).take 7
  let ends := (fields source destination protocol totalLength).drop 7
  have first : Bytes.Adjacent 0 sizes := ⟨rfl, rfl, rfl, rfl, rfl, rfl, rfl, trivial⟩
  have second : Bytes.Adjacent 12 ends := ⟨rfl, rfl, trivial⟩
  have both : fields source destination protocol totalLength = sizes ++ ends := rfl
  obtain ⟨checksum, short, written⟩ := @Bytes.write_fields_around sizes ends old behind 2 first
    second width
  rw [fillHeader, both]
  exact bind_known written (Bytes.install_checksum rfl short rfl)

theorem Udp.fill_header_covering {old rest covered : Bytes} (source destination : Socket)
    (count : Nat) (width : old.length = headerLength) :
    let length := UInt16.ofNat (headerLength + count)
    Bytes.slice (headerWith 0 source.port destination.port length ++ rest) 0 length.toNat =
        .ok covered →
      fillHeader (old ++ rest) source destination count =
        .ok (headerWith (Checksum.field covered (checksumSeed source.ip destination.ip length))
          source.port destination.port length ++ rest) := by
  intro length sliced
  let ends := Bytes.ofWord16 source.port ++ Bytes.ofWord16 destination.port ++ Bytes.ofWord16 length
  have cleared : Bytes.writeFields (old ++ rest) (fields source.port destination.port length) =
      .ok (headerWith 0 source.port destination.port length ++ rest) :=
    Bytes.write_fields_front ⟨rfl, rfl, rfl, rfl, trivial⟩ width.symm
  have checked : ∀ checksum : UInt16,
      Bytes.overwrite (headerWith 0 source.port destination.port length ++ rest) 6
        (Bytes.ofWord16 checksum) =
          .ok (headerWith checksum source.port destination.port length ++ rest) := by
    intro checksum
    have place : ends.length = 6 := rfl
    refine (congrArg (Bytes.overwrite · 6 _) (List.append_assoc ends ..)).trans ?_
    refine (Bytes.overwrite_between place rfl).trans (congrArg Except.ok ?_)
    exact (List.append_assoc ends ..).symm
  exact bind_known cleared (bind_known sliced (checked _))

theorem Udp.fill_header_over {old payload : Bytes} (source destination : Socket)
    (width : old.length = headerLength) :
    fillHeader (old ++ payload) source destination payload.length =
      .ok (segment source destination payload) := by
  have short : (UInt16.ofNat (headerLength + payload.length)).toNat ≤
      headerLength + payload.length := by
    rw [UInt16.toNat_ofNat']
    exact Nat.mod_le _ _
  apply fill_header_covering source destination payload.length width
  rw [Bytes.slice_inside _ _ _ (Nat.zero_le _) (by rwa [List.length_append, length_header_with])]
  rfl

theorem Udp.fill_header_before {old payload : Bytes} (source destination : Socket)
    (width : old.length = headerLength) (small : headerLength + payload.length < 65536)
    (behind : Bytes) :
    fillHeader (old ++ (payload ++ behind)) source destination payload.length =
      .ok (segment source destination payload ++ behind) := by
  let length := UInt16.ofNat (headerLength + payload.length)
  let covered := headerWith 0 source.port destination.port length ++ payload
  have stated : length.toNat = covered.length := by
    rw [List.length_append, length_header_with, UInt16.toNat_ofNat', Nat.mod_eq_of_lt small]
  have inside : length.toNat ≤ (covered ++ behind).length :=
    Nat.le_trans (Nat.le_of_eq stated) (List.sublist_append_left covered behind).length_le
  have sliced : Bytes.slice (headerWith 0 source.port destination.port length ++
      (payload ++ behind)) 0 length.toNat = .ok (covered.take length.toNat) := by
    rw [← List.append_assoc, Bytes.slice_inside _ _ _ (Nat.zero_le _) inside, List.drop_zero,
      Nat.sub_zero, List.take_append_of_le_length (Nat.le_of_eq stated)]
  refine (fill_header_covering source destination payload.length width sliced).trans ?_
  rw [segment, List.append_assoc]

theorem Icmp.fill_echo_reply_over {old payload : Bytes} (identifier sequence : UInt16)
    (width : old.length = headerLength) :
    fillEchoReply (old ++ payload) identifier sequence payload.length =
      .ok (echo echoReply identifier sequence payload) := by
  let kinds : List (Nat × Bytes) := [(0, [echoReply]), (1, [0])]
  let names : List (Nat × Bytes) :=
    [(4, Bytes.ofWord16 identifier), (6, Bytes.ofWord16 sequence)]
  have first : Bytes.Adjacent 0 kinds := ⟨rfl, rfl, trivial⟩
  have second : Bytes.Adjacent 4 names := ⟨rfl, rfl, trivial⟩
  obtain ⟨checksum, short, written⟩ := @Bytes.write_fields_around kinds names old payload 2 first
    second width
  have whole : (Bytes.joined kinds ++ ([0, 0] ++ (Bytes.joined names ++ payload))).length =
      headerLength + payload.length := by
    have header : (Bytes.joined kinds ++ ([0, 0] ++ Bytes.joined names)).length =
        headerLength := rfl
    rw [← header, ← List.length_append]
    simp only [List.append_assoc]
  have sealed := @Bytes.install_checksum (Bytes.joined kinds) checksum
    (Bytes.joined names ++ payload) [] 2 _ rfl short whole
  simp only [List.append_nil] at sealed
  exact bind_known written sealed

theorem Arp.length_frame (interface : Interface) (operation : Operation)
    (destination : MacAddress) (target : Station) :
    (frame interface operation destination target).length =
      Ethernet.headerLength + bodyLength := by
  rw [frame, List.length_append, Ethernet.length_header, length_body]

theorem Arp.build_frame_eq (interface : Interface) (operation : Operation)
    (destination : MacAddress) (target : Station) {window : Bytes}
    (width : window.length = Ethernet.minimumLength) :
    buildFrame interface operation destination target window =
      .ok (Bytes.padTo Ethernet.minimumLength (frame interface operation destination target)) := by
  let behind := Bytes.zeros 18
  have cleared : Bytes.zeros window.length =
      Bytes.zeros Ethernet.headerLength ++ (Bytes.zeros bodyLength ++ behind) := by
    rw [width]
    exact Bytes.zeros_append 14 28 18
  have filled : fill (Bytes.zeros bodyLength ++ behind) operation ⟨interface.mac, interface.ip⟩
      target = .ok (body operation ⟨interface.mac, interface.ip⟩ target ++ behind) :=
    fill_over operation _ target (Bytes.length_zeros bodyLength)
  have length : (body operation ⟨interface.mac, interface.ip⟩ target ++ behind).length =
      (Bytes.zeros bodyLength ++ behind).length := by
    rw [List.length_append, List.length_append, length_body, Bytes.length_zeros bodyLength]
  have framed : Ethernet.fillHeader (Bytes.zeros window.length) destination interface.mac
      Ethernet.typeArp = .ok (Ethernet.header destination interface.mac Ethernet.typeArp ++
        (Bytes.zeros bodyLength ++ behind)) := by
    rw [cleared]
    exact Ethernet.fill_header_over _ _ _ (Bytes.length_zeros _)
  have place := Ethernet.length_header destination interface.mac Ethernet.typeArp
  have parts : Bytes.padTo Ethernet.minimumLength (frame interface operation destination target) =
      Ethernet.header destination interface.mac Ethernet.typeArp ++
        (body operation ⟨interface.mac, interface.ip⟩ target ++ behind) := by
    have gap : Ethernet.minimumLength - (frame interface operation destination target).length =
        18 := by
      rw [length_frame]
      rfl
    rw [Bytes.padTo, gap, frame, List.append_assoc]
  rw [parts]
  refine bind_known framed ?_
  apply Bytes.change_from_behind place
  · exact filled
  · exact length

theorem Udp.length_segment (source destination : Socket) (payload : Bytes) :
    (segment source destination payload).length = headerLength + payload.length := by
  rw [segment, List.length_append, length_header_with]

theorem Udp.length_frame (interface : Interface) (peer : Arp.Station)
    (sourcePort destinationPort : UInt16) (payload : Bytes) :
    (frame interface peer sourcePort destinationPort payload).length =
      frameHeaders + payload.length := by
  rw [frame, List.length_append, List.length_append, Ethernet.length_header, Ipv4.length_header,
    length_segment, frameHeaders, Nat.add_assoc _ headerLength]

theorem Udp.build_frame_eq (interface : Interface) (peer : Arp.Station)
    (sourcePort destinationPort : UInt16) {window : Bytes} {length : Nat}
    (width : window.length = frameHeaders + length) :
    buildFrame interface peer sourcePort destinationPort length window =
      .ok (frame interface peer sourcePort destinationPort (window.drop frameHeaders)) := by
  obtain ⟨headers, payload, rfl, place⟩ := Bytes.split_at window frameHeaders (by omega)
  rw [List.length_append] at width
  obtain rfl : payload.length = length := by omega
  rw [List.drop_left' place]
  simp only [frameHeaders] at place
  obtain ⟨ethernet, rest, rfl, first⟩ := Bytes.split_at headers Ethernet.headerLength (by omega)
  rw [List.length_append] at place
  obtain ⟨ipv4, udp, rfl, second⟩ := Bytes.split_at rest Ipv4.headerLength (by omega)
  rw [List.length_append] at place
  let source : Socket := ⟨interface.ip, sourcePort⟩
  let destination : Socket := ⟨peer.ip, destinationPort⟩
  let total := UInt16.ofNat (Ipv4.headerLength + headerLength + payload.length)
  have written : fillHeader (udp ++ payload) source destination payload.length =
      .ok (segment source destination payload) :=
    fill_header_over source destination (by omega)
  have carrying : Bytes.changeFrom (ipv4 ++ (udp ++ payload)) Ipv4.headerLength (fun segment =>
      fillHeader segment source destination payload.length) =
        .ok (ipv4 ++ segment source destination payload) :=
    Bytes.change_from_behind second written (by
      rw [length_segment, List.length_append]
      omega)
  have headed : Ipv4.fillHeader (ipv4 ++ segment source destination payload) interface.ip peer.ip
      .udp total = .ok (Ipv4.header interface.ip peer.ip .udp total ++
        segment source destination payload) :=
    Ipv4.fill_header_over interface.ip peer.ip .udp total second
  have framed : Ethernet.fillHeader (ethernet ++ (ipv4 ++ udp) ++ payload) peer.mac interface.mac
      Ethernet.typeIpv4 = .ok (Ethernet.header peer.mac interface.mac Ethernet.typeIpv4 ++
        (ipv4 ++ (udp ++ payload))) := by
    simp only [List.append_assoc]
    exact Ethernet.fill_header_over peer.mac interface.mac Ethernet.typeIpv4 first
  refine bind_known framed ?_
  rw [frame, List.append_assoc]
  apply Bytes.change_from_behind (Ethernet.length_header ..)
  · exact bind_known carrying headed
  · simp only [List.length_append, Ipv4.length_header, length_segment]
    omega

theorem Icmp.length_echo (kind : UInt8) (identifier sequence : UInt16) (payload : Bytes) :
    (echo kind identifier sequence payload).length = headerLength + payload.length := by
  simp only [echo, echoWith, List.length_append, Bytes.length_of_word16, List.length_cons,
    List.length_nil, headerLength]

theorem Icmp.Reply.length_frame (interface : Interface) (reply : Reply) :
    (reply.frame interface).length = frameHeaders + reply.payload.length := by
  rw [frame, replyFrame, List.length_append, List.length_append, Ethernet.length_header,
    Ipv4.length_header, length_echo, frameHeaders, Nat.add_assoc _ headerLength]

theorem Icmp.Reply.build_frame_eq (interface : Interface) (reply : Reply) {window : Bytes}
    (width : window.length = frameHeaders + reply.payload.length) :
    reply.buildFrame interface window = .ok (reply.frame interface) := by
  simp only [frameHeaders] at width
  obtain ⟨ethernet, rest, rfl, first⟩ := Bytes.split_at window Ethernet.headerLength (by omega)
  rw [List.length_append] at width
  obtain ⟨ipv4, message, rfl, second⟩ := Bytes.split_at rest Ipv4.headerLength (by omega)
  rw [List.length_append] at width
  obtain ⟨icmp, old, rfl, third⟩ := Bytes.split_at message headerLength (by omega)
  rw [List.length_append] at width
  have same : reply.payload.length = old.length := by omega
  let total := UInt16.ofNat (Ipv4.headerLength + headerLength + reply.payload.length)
  let content := echo echoReply reply.identifier reply.sequence reply.payload
  have framed : Ethernet.fillHeader (ethernet ++ (ipv4 ++ (icmp ++ old))) reply.destinationMac
      interface.mac Ethernet.typeIpv4 =
        .ok (Ethernet.header reply.destinationMac interface.mac Ethernet.typeIpv4 ++
          (ipv4 ++ (icmp ++ old))) :=
    Ethernet.fill_header_over _ _ _ first
  have headed : Ipv4.fillHeader (ipv4 ++ (icmp ++ old)) interface.ip reply.destinationIp .icmp
      total = .ok (Ipv4.header interface.ip reply.destinationIp .icmp total ++ (icmp ++ old)) :=
    Ipv4.fill_header_over interface.ip reply.destinationIp .icmp total second
  have carrying : Bytes.overwrite (icmp ++ old) headerLength reply.payload =
      .ok (icmp ++ reply.payload) := by
    have patched := @Bytes.overwrite_between icmp old [] reply.payload headerLength third same
    simpa only [List.append_nil] using patched
  have answered : fillEchoReply (icmp ++ reply.payload) reply.identifier reply.sequence
      reply.payload.length = .ok content :=
    fill_echo_reply_over reply.identifier reply.sequence third
  have length : content.length = (icmp ++ old).length := by
    rw [length_echo, List.length_append]
    omega
  refine bind_known framed ?_
  rw [frame, replyFrame, List.append_assoc]
  apply Bytes.change_from_behind (Ethernet.length_header ..)
  · refine bind_known headed ?_
    apply Bytes.change_from_behind (Ipv4.length_header ..)
    · exact bind_known carrying answered
    · exact length
  · rw [List.length_append, List.length_append, Ipv4.length_header, second]
    exact congrArg (Ipv4.headerLength + ·) length

theorem Etherbone.fill_header_over {old behind : Bytes} (flags : PacketFlags)
    (record : RecordFlags) (byteEnable writes reads : UInt8) (width : old.length = headerLength) :
    fillHeader (old ++ behind) flags record byteEnable writes reads =
      .ok (header flags record byteEnable writes reads ++ behind) :=
  Bytes.write_fields_front ⟨rfl, rfl, rfl, rfl, rfl, rfl, rfl, rfl, trivial⟩ width.symm

theorem Etherbone.set_write_values_over {front old : Bytes} {index : Nat} (values : List UInt32)
    (place : front.length = headerLength + 4 + 4 * index) (width : old.length = 4 * values.length) :
    setWriteValues (front ++ old) index values = .ok (front ++ values.flatMap Bytes.ofWord32) := by
  induction values generalizing front old index with
  | nil =>
      obtain rfl : old = [] := List.eq_nil_of_length_eq_zero width
      rfl
  | cons value values induction =>
      rw [List.length_cons] at width
      obtain ⟨word, rest, rfl, four⟩ := Bytes.split_at old 4 (by omega)
      rw [List.length_append] at width
      have written : setWriteValue (front ++ (word ++ rest)) index value =
          .ok (front ++ Bytes.ofWord32 value ++ rest) := by
        rw [List.append_assoc]
        exact Bytes.overwrite_between place four.symm
      refine bind_known written ?_
      rw [List.flatMap_cons, ← List.append_assoc]
      apply induction
      · rw [List.length_append, place, Bytes.length_of_word32]
        omega
      · omega

theorem Etherbone.build_read_reply_eq (byteEnable : UInt8) (returnBase : UInt32)
    {values : List UInt32} {window : Bytes} (reading : values ≠ [])
    (width : window.length = packetLength values.length 0) :
    buildReadReply byteEnable returnBase values window =
      .ok (readReply byteEnable returnBase values) := by
  have count : values.length ≠ 0 := fun none => reading (List.eq_nil_of_length_eq_zero none)
  simp only [packetLength, blockLength, if_neg count, ↓reduceIte] at width
  obtain ⟨head, block, rfl, first⟩ := Bytes.split_at window headerLength (by omega)
  rw [List.length_append] at width
  obtain ⟨base, words, rfl, second⟩ := Bytes.split_at block 4 (by omega)
  rw [List.length_append] at width
  let top := header .reply {} byteEnable (UInt8.ofNat values.length) 0
  have headed : fillHeader (head ++ (base ++ words)) .reply {} byteEnable
      (UInt8.ofNat values.length) 0 = .ok (top ++ (base ++ words)) :=
    fill_header_over _ _ _ _ _ first
  have based : setWriteBase (top ++ (base ++ words)) returnBase =
      .ok (top ++ Bytes.ofWord32 returnBase ++ words) := by
    rw [List.append_assoc]
    exact Bytes.overwrite_between (length_header ..) second.symm
  refine bind_known headed (bind_known based ?_)
  refine (set_write_values_over values rfl (by omega)).trans ?_
  rw [readReply, Etherbone.block, List.append_assoc]

theorem Etherbone.length_read_reply (byteEnable : UInt8) (returnBase : UInt32)
    {values : List UInt32} (reading : values ≠ []) :
    (readReply byteEnable returnBase values).length = packetLength values.length 0 := by
  have count : values.length ≠ 0 := fun none => reading (List.eq_nil_of_length_eq_zero none)
  simp only [readReply, List.length_append, length_header, length_block, packetLength, blockLength,
    if_neg count, ↓reduceIte, Nat.add_zero]

theorem Etherbone.Endpoint.reply_eq {Space : Type} [Bus Space] (datagram : Udp.Datagram)
    (request : Request) {values : List UInt32} (endpoint : Endpoint Space) {area : Bytes}
    (reading : values ≠ []) (room : packetLength values.length 0 ≤ area.length) :
    endpoint.reply datagram request values area =
      let packet := readReply request.byteEnable request.returnBase values
      .store 0 packet <|
        .sendTo datagram.sourceIp endpoint.port datagram.sourcePort packet.length fun sent =>
          endpoint.countReply datagram.sourceIp values.length sent := by
  have built : (Bytes.slice area 0 (packetLength values.length 0) >>=
      buildReadReply request.byteEnable request.returnBase values) =
        .ok (readReply request.byteEnable request.returnBase values) := by
    refine bind_known (Bytes.slice_inside _ _ _ (Nat.zero_le _) room) ?_
    apply build_read_reply_eq _ _ reading
    rw [List.length_take, List.drop_zero, Nat.sub_zero]
    exact Nat.min_eq_left room
  simp only [reply]
  rw [built, length_read_reply _ _ reading]
  rfl

namespace Interface

variable {Port : Type} [TransmitPort Port]

/-- What is built in the slot is sent like a frame that was written down before. -/
theorem emit_eq {interface : Interface} {port : Port} {slot frame : Bytes} {length : Nat}
    {build : Bytes → Except Fault Bytes} (contents : TransmitPort.contents port = .ok slot)
    (inside : interface.frameOffset + length ≤ slot.length)
    (built : ∀ window : Bytes, window = (slot.drop interface.frameOffset).take length →
      window.length = length → build window = .ok frame) :
    interface.emit length build port = interface.sendFrame frame port := by
  have window : Bytes.slice slot interface.frameOffset (interface.frameOffset + length) =
      .ok ((slot.drop interface.frameOffset).take length) := by
    rw [Bytes.slice_inside _ _ _ (Nat.le_add_right _ _) inside, Nat.add_sub_cancel_left]
  refine bind_known contents (bind_known window (bind_known (built _ rfl ?_) rfl))
  rw [List.length_take, List.length_drop]
  omega

end Interface

variable {Port : Type} [TransmitPort Port]

theorem Arp.emit_eq (interface : Interface) (operation : Operation) (destination : MacAddress)
    (target : Station) {port : Port} {slot : Bytes}
    (contents : TransmitPort.contents port = .ok slot)
    (inside : interface.minimumLength ≤ slot.length) :
    emit interface operation destination target port =
      interface.sendFrame (frame interface operation destination target) port := by
  refine (Interface.emit_eq contents inside fun window _ width =>
    build_frame_eq interface operation destination target width).trans ?_
  simp only [Interface.sendFrame, Bytes.pad_to_pad_to]

theorem Icmp.Reply.emit_eq (interface : Interface) (reply : Reply) {port : Port} {slot : Bytes}
    (contents : TransmitPort.contents port = .ok slot)
    (inside : interface.frameOffset + (reply.frame interface).length ≤ slot.length) :
    interface.emit (frameHeaders + reply.payload.length) (reply.buildFrame interface) port =
      interface.sendFrame (reply.frame interface) port := by
  rw [length_frame] at inside
  exact Interface.emit_eq contents inside fun _ _ width => reply.build_frame_eq interface width

theorem Udp.emit_eq (interface : Interface) (peer : Arp.Station)
    (sourcePort destinationPort : UInt16) {length : Nat} {port : Port} {slot : Bytes}
    (contents : TransmitPort.contents port = .ok slot)
    (inside : payloadStart interface + length ≤ slot.length) :
    interface.emit (frameHeaders + length)
        (buildFrame interface peer sourcePort destinationPort length) port =
      interface.sendFrame (frame interface peer sourcePort destinationPort
        ((slot.drop (payloadStart interface)).take length)) port := by
  simp only [payloadStart] at inside
  refine Interface.emit_eq contents (by omega) fun window same width => ?_
  refine (build_frame_eq _ _ _ _ width).trans ?_
  rw [same, List.drop_take, List.drop_drop, payloadStart, Nat.add_sub_cancel_left]

end InstrumentLink
