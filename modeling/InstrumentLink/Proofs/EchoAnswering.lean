import InstrumentLink.Proofs.BuiltFrames
import InstrumentLink.Proofs.FrameContents
import InstrumentLink.Simulation.Consumer
import InstrumentLink.Simulation.Wire

/-!
Which ICMP requests are answered, and with what.

How long the payload of a reply is comes from the total length of the request, which its sender may
state as he likes. A request is answered if so many octets are there and a reply with them fits a
frame, and then one frame goes back: its fields are those of the request and of the station, its
checksums hold, and zeros bring it to the minimum. Any other ICMP message is consumed, and nothing
is sent for it.
-/

set_option autoImplicit false

namespace InstrumentLink

namespace Icmp

/-- A frame answers a request with so many octets of its payload. -/
structure Answers (interface : Interface) (request : Bytes) (count : Nat) (frame : Bytes) :
    Prop where
  length : frame.length = max (42 + count) 60
  receiver : MacAddress.standing frame 0 = MacAddress.standing request 6
  sender : MacAddress.standing frame 6 = interface.mac
  kind : Bytes.pairAt frame 12 = Ethernet.typeIpv4
  header : frame.getD 14 0 = 0x45
  total : (Bytes.pairAt frame 16).toNat = 28 + count
  carries : frame.getD 23 0 = 0x01
  source : Ipv4Address.standing frame 26 = interface.ip
  destination : Ipv4Address.standing frame 30 = Ipv4Address.standing request 26
  header_valid : Ipv4.checksumValid (frame.drop 14) = .ok true
  reply : frame.getD 34 0 = 0 ∧ frame.getD 35 0 = 0
  identifier : Bytes.pairAt frame 38 = Bytes.pairAt request 38
  sequence : Bytes.pairAt frame 40 = Bytes.pairAt request 40
  payload : (frame.drop 42).take count = (request.drop 42).take count
  message_valid : checksumValid (frame.drop 34) count = .ok true
  padding : Bytes.Blank (frame.drop (42 + count))

theorem Reply.frame_append (interface : Interface) (reply : Reply) (rest : Bytes) :
    reply.frame interface ++ rest =
      Ethernet.header reply.destinationMac interface.mac Ethernet.typeIpv4 ++
        (Ipv4.header interface.ip reply.destinationIp .icmp
            (UInt16.ofNat (Ipv4.headerLength + headerLength + reply.payload.length)) ++
          (echo echoReply reply.identifier reply.sequence reply.payload ++ rest)) := by
  simp only [frame, replyFrame, List.append_assoc]

theorem answers_reply (interface : Interface) {request behind : Bytes}
    (taken : (replyIn request).payload.length = statedPayload request)
    (small : 28 + statedPayload request < 65536) (blank : Bytes.Blank behind)
    (long : ((replyIn request).frame interface ++ behind).length =
      max (42 + statedPayload request) 60) :
    Answers interface request (statedPayload request)
      ((replyIn request).frame interface ++ behind) := by
  have headers : Ipv4.headerLength + headerLength + statedPayload request =
      28 + statedPayload request := rfl
  have layers := (replyIn request).frame_append interface behind
  rw [taken, headers] at layers
  generalize whole : (replyIn request).frame interface ++ behind = frame at layers long
  have packet : frame.drop 14 =
      Ipv4.header interface.ip (Ipv4Address.standing request 26) .icmp
          (UInt16.ofNat (28 + statedPayload request)) ++
        (echo echoReply (Bytes.pairAt request 38) (Bytes.pairAt request 40)
          (replyIn request).payload ++ behind) := by
    rw [layers]
    rfl
  have message : frame.drop 34 =
      echo echoReply (Bytes.pairAt request 38) (Bytes.pairAt request 40)
        (replyIn request).payload ++ behind := by
    rw [layers]
    rfl
  have content : frame.drop 42 = (replyIn request).payload ++ behind := by
    rw [layers]
    rfl
  exact {
    length := long
    receiver := by rw [layers]; rfl
    sender := by rw [layers]; rfl
    kind := by rw [layers]; exact Bytes.word16_of_octets Ethernet.typeIpv4
    header := by rw [layers]; rfl
    total := by
      rw [layers]
      exact (congrArg UInt16.toNat (Bytes.word16_of_octets _)).trans (Bytes.word16_of_nat small)
    carries := by rw [layers]; rfl
    source := by rw [layers]; rfl
    destination := by rw [layers]; rfl
    header_valid := by rw [packet]; exact Ipv4.checksum_valid_header _ _ _ _ _
    reply := by rw [layers]; exact ⟨rfl, rfl⟩
    identifier := by rw [layers]; exact Bytes.word16_of_octets _
    sequence := by rw [layers]; exact Bytes.word16_of_octets _
    payload := by
      rw [content, List.take_left' taken]
      rfl
    message_valid := by
      rw [message, ← taken]
      exact checksum_valid_echo _ _ _ _ _
    padding := by
      rw [← List.drop_drop, content, List.drop_left' taken]
      exact blank }

theorem Answerable.answers {interface : Interface} {request : Bytes}
    (answerable : Answerable interface request) :
    Answers interface request (statedPayload request)
      (Bytes.padTo Ethernet.minimumLength ((replyIn request).frame interface)) := by
  have taken := answerable.length_payload
  have stated := (Bytes.pairAt request 16).toNat_lt
  have small : 28 + statedPayload request < 65536 := by
    unfold statedPayload
    omega
  apply answers_reply interface taken small (Bytes.blank_zeros _)
  change (Bytes.padTo Ethernet.minimumLength ((replyIn request).frame interface)).length = _
  rw [Bytes.length_pad_to, Reply.length_frame, taken]
  rfl

end Icmp

namespace Ipv4

variable {Port Consumer : Type} [TransmitPort Port] [Udp.Handler Consumer] {Sound : Port → Prop}
  {view : Port → PortView} {finish : Bytes → Bytes} {binding : Udp.Binding}
  {registration : Option (Udp.Registration Consumer)} {frame : Bytes} {port : Port}

theorem handle_frame_echoed (faithful : FaithfulPort Sound view finish)
    (prompt : PromptPort Sound binding.interface) (placed : binding.interface.Placed)
    (sound : Sound port) (answerable : Icmp.Answerable binding.interface frame) :
    Returns (handleFrame binding registration frame port) fun answer =>
      answer.1 = .echoReplied ∧ answer.2.1 = registration ∧ Sound answer.2.2.1 ∧
      ∃ reply, Icmp.Answers binding.interface frame (Icmp.statedPayload frame) reply ∧
        (view answer.2.2.1).sent =
          (view port).sent ++ [finish (binding.interface.lead ++ reply)] := by
  rw [handle_frame_answerable binding port registration answerable]
  apply ((Icmp.replyIn frame).emit_sends faithful placed port sound answerable.reply_fits).bind
  rintro ⟨sent, after, sending⟩ ⟨sound, frames, yes⟩
  have yes : sent = true := yes prompt
  rw [if_pos yes] at frames
  exact Returns.ok ⟨rfl, rfl, sound, _, answerable.answers, frames⟩

theorem handle_frame_datagrams (faithful : FaithfulPort Sound view finish)
    (placed : binding.interface.Placed) (sound : Sound port)
    (refused : ¬Icmp.Answerable binding.interface frame) :
    Yields (handleFrame binding registration frame port) fun answer =>
      answer.1 ≠ .echoReplied ∧ ∃ attempts : List Udp.Attempt, (view answer.2.2.1).sent =
        (view port).sent ++ attempts.flatMap (Udp.Attempt.frames binding finish) := by
  have nothing : ∃ attempts : List Udp.Attempt, (view port).sent =
      (view port).sent ++ attempts.flatMap (Udp.Attempt.frames binding finish) :=
    ⟨[], (List.append_nil _).symm⟩
  apply handle_frame_cases .yields
  case other => exact fun _ _ _ => ⟨by simp, nothing⟩
  case ignored => exact fun _ _ _ _ => ⟨by simp, nothing⟩
  case echoed => exact fun answerable => (refused answerable).elim
  case delivered =>
    intro registered _ _
    rw [Udp.Reaction.run_of_observe]
    apply (Udp.Reaction.observe_frames faithful binding placed _ port sound).bind
    rintro seen ⟨-, frames⟩
    exact ⟨by simp, seen.attempts, frames⟩

/-- For every interface that has its frames placed, every port that sends what is stored in it and
holds the longest frame, and every frame: an answerable request is answered with one frame; any
other ICMP message is consumed and changes nothing; and no other frame is answered. -/
theorem echo_answering_is_exact (faithful : FaithfulPort Sound view finish)
    (binding : Udp.Binding) (prompt : PromptPort Sound binding.interface)
    (placed : binding.interface.Placed) (registration : Option (Udp.Registration Consumer))
    (frame : Bytes) (port : Port) (sound : Sound port) :
    (Icmp.Answerable binding.interface frame →
      Returns (handleFrame binding registration frame port) fun answer =>
        answer.1 = .echoReplied ∧ answer.2.1 = registration ∧ Sound answer.2.2.1 ∧
        ∃ reply, Icmp.Answers binding.interface frame (Icmp.statedPayload frame) reply ∧
          (view answer.2.2.1).sent =
            (view port).sent ++ [finish (binding.interface.lead ++ reply)]) ∧
    (Plain frame → frame.getD 23 0 = 0x01 → ¬Icmp.Answerable binding.interface frame →
      ∃ log, handleFrame binding registration frame port =
        .ok (.icmpIgnored, registration, port, log)) ∧
    (¬Icmp.Answerable binding.interface frame →
      Yields (handleFrame binding registration frame port) fun answer =>
        answer.1 ≠ .echoReplied ∧ ∃ attempts : List Udp.Attempt, (view answer.2.2.1).sent =
          (view port).sent ++ attempts.flatMap (Udp.Attempt.frames binding finish)) :=
  ⟨handle_frame_echoed faithful prompt placed sound,
    handle_frame_ignored binding port registration,
    handle_frame_datagrams faithful placed sound⟩

/-- A timestamp request of an odd length is answered behind a preamble, and one that says to be
longer than its frame is not. -/
theorem timestamp_request_echoed :
    let config : LinkConfig := { hardwareFraming := false }
    let binding : Udp.Binding := ⟨config.interface, {}⟩
    let request := Simulation.Wire.ipv4 Simulation.Wire.hostMac Simulation.Wire.hostIp config.ip
      .icmp (Icmp.echo Icmp.timestampRequest 7 1 [1, 2, 3])
    let nobody : Option (Udp.Registration Simulation.Consumer) := none
    (Returns (handleFrame binding nobody request ({} : Simulation.Sink)) fun answer =>
      answer.1 = .echoReplied ∧ ∃ reply, Icmp.Answers binding.interface request 3 reply ∧
        answer.2.2.1.sent = [Ethernet.preamble ++ reply]) ∧
    ∃ log, handleFrame binding nobody (request.take 44) ({} : Simulation.Sink) =
      .ok (.icmpIgnored, none, {}, log) := by
  intro config binding request nobody
  have large : Ethernet.maximumLength ≤ ({} : Simulation.Sink).slot.length := by decide +kernel
  have placed : binding.interface.Placed := .inr rfl
  have answerable : Icmp.Answerable binding.interface request := by decide +kernel
  have count : Icmp.statedPayload request = 3 := by decide +kernel
  have cut : Plain (request.take 44) ∧ (request.take 44).getD 23 0 = 0x01 ∧
      ¬Icmp.Answerable binding.interface (request.take 44) := by decide +kernel
  obtain ⟨answers, -, -⟩ := echo_answering_is_exact Simulation.Sink.faithful_port binding
    (Simulation.Sink.prompt_port _) placed nobody request {} large
  obtain ⟨-, ignores, -⟩ := echo_answering_is_exact Simulation.Sink.faithful_port binding
    (Simulation.Sink.prompt_port _) placed nobody (request.take 44) {} large
  refine ⟨?_, ignores cut.1 cut.2.1 cut.2.2⟩
  apply (answers answerable).mono
  rintro answer ⟨replied, -, -, reply, fields, sent⟩
  rw [count] at fields
  exact ⟨replied, reply, fields, sent⟩

end Ipv4

end InstrumentLink
