import InstrumentLink.Etherbone.Endpoint
import InstrumentLink.Proofs.LosslessDelivery
import InstrumentLink.Proofs.SafePort

/-!
When an endpoint faults.

A packet that the reassembler hands out has all the octets its counts announce, so every read of a
packet with a word in it stays inside. The word behind the header is read whatever the counts are,
and a packet without words ends with its header: such a packet stops the link as soon as its bus
widths are the ones that are executed. Nothing else does, on whatever stream and whatever socket.
-/

set_option autoImplicit false

namespace InstrumentLink.Etherbone

/-- What a packet asks for, if it has all the octets its counts announce. -/
def requestOf (packet : Bytes) : Request :=
  let writeCount := (packet.getD 10 0).toNat
  let readCount := (packet.getD 11 0).toNat
  let readBlock := headerLength + blockLength writeCount
  { byteEnable := packet.getD 9 0
    writes := (List.range writeCount).map fun index =>
      (Bytes.wordAt packet headerLength + UInt32.ofNat (4 * index),
        Bytes.wordAt packet (headerLength + 4 + 4 * index))
    reads := (List.range readCount).map fun index =>
      Bytes.wordAt packet (readBlock + 4 + 4 * index)
    returnBase := if readCount = 0 then 0 else Bytes.wordAt packet readBlock }

theorem length_reads_le (packet : Bytes) : (requestOf packet).reads.length ≤ maximumWords := by
  have bound := (packet.getD 11 0).toNat_lt
  simp only [requestOf, List.length_map, List.length_range, maximumWords]
  omega

theorem Framed.length_eq {packet : Bytes} (framed : Framed packet) :
    packet.length = headerLength + blockLength (packet.getD 10 0).toNat +
      blockLength (packet.getD 11 0).toNat :=
  framed.length

theorem Framed.header_le {packet : Bytes} (framed : Framed packet) :
    headerLength ≤ packet.length := by
  rw [framed.length]
  exact header_length_le_announced packet

theorem Framed.sizes {packet : Bytes} (framed : Framed packet) :
    addressSize packet = .ok (unpackSizes (packet.getD 3 0)).1 ∧
      portSize packet = .ok (unpackSizes (packet.getD 3 0)).2 := by
  have header := framed.header_le
  simp only [headerLength] at header
  unfold addressSize portSize
  rw [Bytes.octet_at_inside packet 3 (by omega)]
  exact ⟨rfl, rfl⟩

def HasBusWidths (packet : Bytes) : Prop :=
  unpackSizes (packet.getD 3 0) = (busWidth, busWidth)

instance (packet : Bytes) : Decidable (HasBusWidths packet) :=
  inferInstanceAs (Decidable (unpackSizes (packet.getD 3 0) = (busWidth, busWidth)))

theorem Framed.is_supported {packet : Bytes} (framed : Framed packet) :
    isSupported packet = .ok (decide (HasBusWidths packet)) := by
  have same : magicOf packet = .ok Etherbone.magic := by
    obtain ⟨more, rfl⟩ := framed.magic
    rfl
  unfold isSupported HasBusWidths
  rw [same, framed.sizes.1, framed.sizes.2]
  simp only [bind, Except.bind, pure, Except.pure, if_true, Prod.ext_iff]
  by_cases address : (unpackSizes (packet.getD 3 0)).1 = busWidth
  · simp only [address, if_true, true_and]
  · simp only [address, if_false, false_and, decide_false]

theorem Framed.read_block_start {packet : Bytes} (framed : Framed packet) :
    readBlockStart packet = .ok (headerLength + blockLength (packet.getD 10 0).toNat) := by
  have header := framed.header_le
  simp only [headerLength] at header
  have writes : writeCount packet = .ok (packet.getD 10 0) :=
    Bytes.octet_at_inside packet 10 (by omega)
  unfold readBlockStart
  rw [writes]
  rfl

theorem Framed.write_value {packet : Bytes} (framed : Framed packet) (index : Nat)
    (counted : index < (packet.getD 10 0).toNat) :
    writeValue packet index = .ok (Bytes.wordAt packet (headerLength + 4 + 4 * index)) := by
  have length := framed.length_eq
  have block : blockLength (packet.getD 10 0).toNat = 4 * (1 + (packet.getD 10 0).toNat) :=
    if_neg (by omega)
  exact Bytes.word32_at_inside packet _ (by omega)

theorem Framed.read_block_end {packet : Bytes} (framed : Framed packet)
    (counted : (packet.getD 11 0).toNat ≠ 0) :
    headerLength + blockLength (packet.getD 10 0).toNat + 4 * (1 + (packet.getD 11 0).toNat) =
      packet.length := by
  have block : blockLength (packet.getD 11 0).toNat = 4 * (1 + (packet.getD 11 0).toNat) :=
    if_neg counted
  rw [framed.length_eq, block]

theorem Framed.read_address {packet : Bytes} (framed : Framed packet) (index : Nat)
    (counted : index < (packet.getD 11 0).toNat) :
    readAddress packet index = .ok (Bytes.wordAt packet
      (headerLength + blockLength (packet.getD 10 0).toNat + 4 + 4 * index)) := by
  have inside := framed.read_block_end (by omega)
  unfold readAddress
  rw [framed.read_block_start]
  exact Bytes.word32_at_inside packet _ (by omega)

theorem Framed.return_base {packet : Bytes} (framed : Framed packet)
    (counted : (packet.getD 11 0).toNat ≠ 0) :
    returnBase packet = .ok (Bytes.wordAt packet
      (headerLength + blockLength (packet.getD 10 0).toNat)) := by
  have inside := framed.read_block_end counted
  unfold returnBase
  rw [framed.read_block_start]
  exact Bytes.word32_at_inside packet _ (by omega)

theorem Framed.request {packet : Bytes} (framed : Framed packet) (words : HasWords packet) :
    Request.ofPacket packet = .ok (requestOf packet) := by
  have header := framed.header_lt_length words
  simp only [headerLength] at header
  have base : writeBase packet = .ok (Bytes.wordAt packet headerLength) :=
    Bytes.word32_at_inside packet 12 (by omega)
  have writes : writeCount packet = .ok (packet.getD 10 0) :=
    Bytes.octet_at_inside packet 10 (by omega)
  have reads : readCount packet = .ok (packet.getD 11 0) :=
    Bytes.octet_at_inside packet 11 (by omega)
  have enable : byteEnable packet = .ok (packet.getD 9 0) :=
    Bytes.octet_at_inside packet 9 (by omega)
  unfold Request.ofPacket
  rw [base, writes, reads, enable]
  simp only [bind, Except.bind]
  rw [map_m_ok _ fun index => (Bytes.wordAt packet headerLength + UInt32.ofNat (4 * index),
      Bytes.wordAt packet (headerLength + 4 + 4 * index)),
    map_m_ok _ fun index => Bytes.wordAt packet
      (headerLength + blockLength (packet.getD 10 0).toNat + 4 + 4 * index)]
  · dsimp only
    unfold requestOf
    by_cases none : (packet.getD 11 0).toNat = 0
    · rw [if_pos none]
      simp only [if_pos none]
      rfl
    · rw [if_neg none, framed.return_base none]
      simp only [if_neg none]
      rfl
  · intro index member
    exact framed.read_address index (List.mem_range.mp member)
  · intro index member
    rw [framed.write_value index (List.mem_range.mp member)]
    rfl

/-- A packet without words ends where its first word would stand. -/
theorem Framed.request_wordless {packet : Bytes} (framed : Framed packet)
    (wordless : ¬HasWords packet) : Request.ofPacket packet = .error .outsideBuffer := by
  have length := framed.length_eq
  unfold HasWords at wordless
  have writes : blockLength (packet.getD 10 0).toNat = 0 := if_pos (by omega)
  have reads : blockLength (packet.getD 11 0).toNat = 0 := if_pos (by omega)
  have base : writeBase packet = .error .outsideBuffer :=
    Bytes.word32_at_outside packet headerLength (by omega)
  unfold Request.ofPacket
  rw [base]
  rfl

/-- What stops a link: a packet that is executed although there is no word in it. -/
def Wordless (packet : Bytes) : Prop := HasBusWidths packet ∧ ¬HasWords packet

instance (packet : Bytes) : Decidable (Wordless packet) :=
  inferInstanceAs (Decidable (HasBusWidths packet ∧ ¬HasWords packet))

namespace Endpoint

variable {Space : Type} [Bus Space]

/-- How serving packets ended: it stopped outside a packet if there was a wordless one, and left an
endpoint with the given reassembler if there was none. -/
def Served (packets : List Bytes) (reassembler : Reassembler) :
    Except Fault (Endpoint Space) → Prop
  | .ok endpoint => (∀ packet ∈ packets, ¬Wordless packet) ∧ endpoint.reassembler = reassembler
  | .error fault => fault = .outsideBuffer ∧ ∃ packet ∈ packets, Wordless packet

omit [Bus Space] in
theorem Served.append {before after : List Bytes} {reassembler : Reassembler}
    {result : Except Fault (Endpoint Space)} (harmless : ∀ packet ∈ before, ¬Wordless packet)
    (served : Served after reassembler result) : Served (before ++ after) reassembler result := by
  cases result with
  | ok endpoint => exact ⟨List.forall_mem_append.mpr ⟨harmless, served.1⟩, served.2⟩
  | error fault =>
      obtain ⟨outside, packet, member, wordless⟩ := served
      exact ⟨outside, packet, List.mem_append_right before member, wordless⟩

omit [Bus Space] in
theorem Served.stopped {before after : List Bytes} {reassembler last : Reassembler} {fault : Fault}
    (served : Served before reassembler (.error fault : Except Fault (Endpoint Space))) :
    Served (before ++ after) last (.error fault : Except Fault (Endpoint Space)) := by
  obtain ⟨outside, packet, member, wordless⟩ := served
  exact ⟨outside, packet, List.mem_append_left after member, wordless⟩

theorem length_read_all (addresses : List UInt32) (space : Space) :
    (Bus.readAll addresses space).1.length = addresses.length := by
  induction addresses generalizing space with
  | nil => rfl
  | cons address addresses induction =>
      simp only [Bus.readAll, List.length_cons, induction]

theorem values_ne_nil {addresses : List UInt32} (asked : addresses ≠ []) (space : Space) :
    (Bus.readAll addresses space).1 ≠ [] := by
  intro none
  have length := length_read_all addresses space
  rw [none] at length
  exact asked (List.eq_nil_of_length_eq_zero length.symm)

theorem packet_length_le {words most : Nat} (few : words ≤ most) :
    packetLength words 0 ≤ packetLength most 0 := by
  have block : blockLength words ≤ blockLength most := by
    unfold blockLength
    split
    · exact Nat.zero_le _
    · rw [if_neg (by omega)]
      omega
  unfold packetLength
  omega

theorem reply_room {interface : Interface} (placed : interface.Placed) :
    packetLength maximumWords 0 ≤ Udp.payloadRoom interface := by
  have offset := placed.offset_le
  simp only [Udp.payloadRoom, Udp.payloadStart, Udp.frameHeaders, Interface.frameEnd,
    Ethernet.preambleLength, Ethernet.headerLength, Ipv4.headerLength, Udp.headerLength,
    Ethernet.maximumLength, Ethernet.frameCheckLength] at offset ⊢
  have longest : packetLength maximumWords 0 = 1036 := rfl
  split <;> omega

omit [Bus Space] in
theorem count_reply_ends (room : Nat) {good : Except Fault (Endpoint Space) → Prop}
    (recipient : Ipv4Address) (words : Nat) (sent : Bool) (endpoint : Endpoint Space)
    (kept : ∀ after : Endpoint Space, after.reassembler = endpoint.reassembler →
      good (.ok after)) :
    (endpoint.countReply recipient words sent).Ends room good := by
  unfold countReply
  split
  · exact kept _ rfl
  · exact kept _ rfl

theorem perform_ends {room : Nat} (large : packetLength maximumWords 0 ≤ room)
    {good : Except Fault (Endpoint Space) → Prop} (datagram : Udp.Datagram) (request : Request)
    (endpoint : Endpoint Space) (few : request.reads.length ≤ maximumWords)
    (kept : ∀ after : Endpoint Space, after.reassembler = endpoint.reassembler →
      good (.ok after)) :
    (endpoint.perform datagram request).Ends room good := by
  unfold perform
  apply Udp.Reaction.ends_report_all
  split
  · exact kept _ rfl
  · next reading =>
      have values := values_ne_nil reading (Bus.writeAll request.writes endpoint.bus).1
      intro area length
      have short : packetLength (Bus.readAll request.reads
          (Bus.writeAll request.writes endpoint.bus).1).1.length 0 ≤ room := by
        rw [length_read_all]
        exact Nat.le_trans (packet_length_le few) large
      rw [reply_eq datagram request _ values (Nat.le_trans short (Nat.le_of_eq length.symm))]
      refine ⟨?_, fun sent => count_reply_ends room _ _ sent _ kept⟩
      rw [length_read_reply _ _ values, Nat.zero_add]
      exact short

theorem execute_ends {room : Nat} (large : packetLength maximumWords 0 ≤ room)
    (datagram : Udp.Datagram) (packet : Bytes) (framed : Framed packet)
    (endpoint : Endpoint Space) :
    (endpoint.execute datagram packet).Ends room (Served [packet] endpoint.reassembler) := by
  unfold execute
  rw [framed.is_supported]
  change Udp.Reaction.Ends room _ (if decide (HasBusWidths packet) then _ else _)
  by_cases widths : HasBusWidths packet
  · rw [if_pos (decide_eq_true widths)]
    by_cases words : HasWords packet
    · rw [framed.request words]
      refine perform_ends large datagram (requestOf packet) endpoint (length_reads_le packet) ?_
      intro after same
      refine ⟨?_, same⟩
      intro other member wordless
      rw [List.mem_singleton.mp member] at wordless
      exact wordless.2 words
    · rw [framed.request_wordless words]
      exact ⟨rfl, packet, List.mem_singleton_self packet, widths, words⟩
  · rw [if_neg (by simpa using widths), framed.sizes.1, framed.sizes.2]
    refine ⟨?_, rfl⟩
    intro other member wordless
    rw [List.mem_singleton.mp member] at wordless
    exact widths wordless.1

theorem execute_all_ends {room : Nat} (large : packetLength maximumWords 0 ≤ room)
    (datagram : Udp.Datagram) (found : List Found) (endpoint : Endpoint Space)
    (framed : ∀ packet ∈ packetsOf found, Framed packet) :
    (executeAll datagram found endpoint).Ends room
      (Served (packetsOf found) endpoint.reassembler) := by
  induction found generalizing endpoint with
  | nil => exact ⟨fun packet member => (List.not_mem_nil member).elim, rfl⟩
  | cons first found induction =>
      cases first with
      | oversized length => exact induction endpoint framed
      | packet octets =>
          obtain ⟨framedFirst, framedLater⟩ := List.forall_mem_cons.mp framed
          refine (execute_ends large datagram octets framedFirst endpoint).and_then _ ?_ ?_
          · -- A packet that was served leaves the octets held alone, so the rest goes on as before.
            rintro after ⟨harmless, same⟩
            have rest := induction after framedLater
            rw [same] at rest
            exact rest.mono _ fun result served => served.append harmless
          · intro fault stopped
            exact stopped.stopped

theorem on_datagram_ends {room : Nat} (large : packetLength maximumWords 0 ≤ room)
    (datagram : Udp.Datagram) (endpoint : Endpoint Space) :
    let intake := endpoint.reassembler.accept datagram.payload
    (endpoint.onDatagram datagram).Ends room
      (Served (packetsOf intake.found) intake.reassembler) := by
  intro intake
  unfold onDatagram
  apply Udp.Reaction.ends_report_all
  refine execute_all_ends large datagram intake.found
    { endpoint with reassembler := intake.reassembler } ?_
  intro packet member
  rw [(Reassembler.accept_reads datagram.payload endpoint.reassembler).1] at member
  exact framed_of_mem_parse _ packet member

/-- A datagram that completes no wordless packet does not stop an endpoint. -/
theorem copes_of_harmless {room : Nat} (large : packetLength maximumWords 0 ≤ room)
    {datagram : Udp.Datagram} {endpoint : Endpoint Space}
    (harmless : ∀ packet ∈ packetsOf (endpoint.reassembler.accept datagram.payload).found,
      ¬Wordless packet) : Udp.Copes room endpoint datagram := by
  apply (on_datagram_ends large datagram endpoint).mono
  intro result served
  cases result with
  | ok after => exact Returns.ok trivial
  | error fault =>
      obtain ⟨-, packet, member, wordless⟩ := served
      exact (harmless packet member wordless).elim

end Endpoint

/-- The packets that an input to the reassembler hands out. -/
def Input.packets (reassembler : Reassembler) : Input → List Bytes
  | .push data => packetsOf (reassembler.accept data).found
  | .reset => []

def handedOut : Reassembler → List Input → List Bytes
  | _, [] => []
  | reassembler, input :: inputs =>
      input.packets reassembler ++ handedOut (input.apply reassembler) inputs

inductive Call (Port : Type) where
  | deliver (binding : Udp.Binding) (port : Port) (datagram : Udp.Datagram)
  | reset

namespace Call

variable {Port Space : Type}

def input : Call Port → Input
  | .deliver _ _ datagram => .push datagram.payload
  | .reset => .reset

/-- A datagram comes with a socket over a sound port, whose frames start at the start of the slot or
behind a preamble. -/
def Proper (Sound : Port → Prop) : Call Port → Prop
  | .deliver binding port _ => binding.interface.Placed ∧ Sound port
  | .reset => True

variable [Bus Space] [TransmitPort Port]

def serve (endpoint : Endpoint Space) : Call Port → Except Fault (Endpoint Space)
  | .deliver binding port datagram => do
      let (endpoint, _, _) ← (Udp.Handler.onDatagram datagram endpoint).run binding port
      return endpoint
  | .reset => return Udp.Handler.reset endpoint

def serveAll (calls : List (Call Port)) (endpoint : Endpoint Space) :
    Except Fault (Endpoint Space) :=
  calls.foldlM serve endpoint

variable {Sound : Port → Prop}

theorem serve_served (safe : SafePort Sound) (call : Call Port) (proper : call.Proper Sound)
    (endpoint : Endpoint Space) :
    Endpoint.Served (call.input.packets endpoint.reassembler)
      (call.input.apply endpoint.reassembler) (call.serve endpoint) := by
  cases call with
  | reset => exact ⟨fun packet member => (List.not_mem_nil member).elim, rfl⟩
  | deliver binding port datagram =>
      obtain ⟨placed, sound⟩ := proper
      have ends := Endpoint.on_datagram_ends (Endpoint.reply_room placed) datagram endpoint
      have ended := Udp.Reaction.run_ended safe placed _ port sound ends
      change Endpoint.Served _ _
        (do let (after, _, _) ← (endpoint.onDatagram datagram).run binding port; return after)
      cases run : (endpoint.onDatagram datagram).run binding port with
      | error fault =>
          rw [run] at ended
          exact ended
      | ok answer =>
          rw [run] at ended
          exact ended.1

/-- The invariant of a run: the packets handed out so far were harmless, or it has stopped. -/
theorem serve_all_served (safe : SafePort Sound) (calls : List (Call Port))
    (proper : ∀ call ∈ calls, call.Proper Sound) (endpoint : Endpoint Space) :
    Endpoint.Served (handedOut endpoint.reassembler (calls.map input))
      ((calls.map input).foldl Input.apply endpoint.reassembler) (serveAll calls endpoint) := by
  induction calls generalizing endpoint with
  | nil => exact ⟨fun packet member => (List.not_mem_nil member).elim, rfl⟩
  | cons call calls induction =>
      obtain ⟨properFirst, properLater⟩ := List.forall_mem_cons.mp proper
      -- The packets of the first call come first; what the rest hands out depends on the octets it
      -- leaves, which are known whether or not it sent anything.
      have first := serve_served safe call properFirst endpoint
      rw [List.map_cons, handedOut, List.foldl_cons, serveAll, List.foldlM_cons]
      cases run : call.serve endpoint with
      | error fault =>
          rw [run] at first
          exact first.stopped
      | ok after =>
          rw [run] at first
          obtain ⟨harmless, same⟩ := first
          have rest := induction properLater after
          rw [same] at rest
          exact rest.append harmless

end Call

/-- An endpoint in any state, on sockets over any slots that are long enough: a run of datagrams and
resets comes to its end if no wordless packet is handed out, and stops outside the packet if one
is. -/
theorem endpoint_stops_at_wordless_packets_only {Port Space : Type} [Bus Space]
    [TransmitPort Port] {Sound : Port → Prop} (safe : SafePort Sound) (endpoint : Endpoint Space)
    (calls : List (Call Port)) (proper : ∀ call ∈ calls, call.Proper Sound) :
    let packets := handedOut endpoint.reassembler (calls.map Call.input)
    ((∀ packet ∈ packets, ¬Wordless packet) → Returns (Call.serveAll calls endpoint) fun last =>
        last.reassembler = (calls.map Call.input).foldl Input.apply endpoint.reassembler) ∧
      ((∃ packet ∈ packets, Wordless packet) →
        Call.serveAll calls endpoint = .error .outsideBuffer) := by
  intro packets
  have served := Call.serve_all_served safe calls proper endpoint
  cases run : Call.serveAll calls endpoint with
  | error fault =>
      rw [run] at served
      obtain ⟨rfl, packet, member, wordless⟩ := served
      exact ⟨fun harmless => (harmless packet member wordless).elim, fun _ => rfl⟩
  | ok last =>
      rw [run] at served
      obtain ⟨harmless, same⟩ := served
      refine ⟨fun _ => Returns.ok same, ?_⟩
      rintro ⟨packet, member, wordless⟩
      exact (harmless packet member wordless).elim

theorem sink_holds_frame : Ethernet.maximumLength ≤ ({} : Simulation.Sink).slot.length := by
  change Ethernet.maximumLength ≤ (Bytes.zeros Mac.defaultSlotSize).length
  rw [Bytes.length_zeros]
  decide

/-- A read request in two datagrams, after a datagram that was cut off and a reset. -/
theorem read_request_served :
    let binding : Udp.Binding := ⟨LinkConfig.interface {}, ⟨⟨10, 0, 11, 3⟩, .broadcast⟩⟩
    let datagram (payload : Bytes) : Udp.Datagram := ⟨⟨10, 0, 11, 3⟩, 40000, 1234, payload⟩
    let request := readRequest 0x1000 [0x2000, 0x2004]
    let calls : List (Call Simulation.Sink) :=
      [.deliver binding {} (datagram (request.take 15)), .reset,
        .deliver binding {} (datagram (request.take 7)),
        .deliver binding {} (datagram (request.drop 7))]
    let endpoint : Endpoint MappedBus := { bus := {} }
    handedOut endpoint.reassembler (calls.map Call.input) = [request] ∧
      Returns (Call.serveAll calls endpoint) fun last => last.reassembler = {} := by
  intro binding datagram request calls endpoint
  have packets : handedOut endpoint.reassembler (calls.map Call.input) = [request] := by
    decide +kernel
  have held : (calls.map Call.input).foldl Input.apply endpoint.reassembler = {} := by
    decide +kernel
  have proper : ∀ call ∈ calls,
      call.Proper fun sink => Ethernet.maximumLength ≤ sink.slot.length := by
    intro call member
    simp only [calls, List.mem_cons, List.not_mem_nil, or_false] at member
    rcases member with rfl | rfl | rfl | rfl
    · exact ⟨.inl rfl, sink_holds_frame⟩
    · trivial
    · exact ⟨.inl rfl, sink_holds_frame⟩
    · exact ⟨.inl rfl, sink_holds_frame⟩
  have runs := endpoint_stops_at_wordless_packets_only Simulation.Sink.safe_port endpoint calls
    proper
  rw [packets, held] at runs
  exact ⟨packets, runs.1 (by decide +kernel)⟩

/-- A header that announces no words stops the link with the first octet behind it. -/
theorem header_alone_stops_link :
    ¬∀ calls : List (Call Simulation.Sink),
      (∀ call ∈ calls, call.Proper fun sink => Ethernet.maximumLength ≤ sink.slot.length) →
        Returns (Call.serveAll calls ({ bus := {} } : Endpoint MappedBus)) fun _ => True := by
  intro always
  let calls : List (Call Simulation.Sink) :=
    [.deliver ⟨LinkConfig.interface {}, {}⟩ {}
      ⟨⟨10, 0, 11, 3⟩, 40000, 1234, header .request {} 0x0f 0 0 ++ [0]⟩]
  have proper : ∀ call ∈ calls,
      call.Proper fun sink => Ethernet.maximumLength ≤ sink.slot.length := by
    intro call member
    rw [List.mem_singleton.mp member]
    exact ⟨.inl rfl, sink_holds_frame⟩
  obtain ⟨last, same, -⟩ := always calls proper
  have stops : (Call.serveAll calls ({ bus := {} } : Endpoint MappedBus)).toOption.isNone := by
    decide +kernel
  rw [same] at stops
  cases stops

end InstrumentLink.Etherbone
