import InstrumentLink.Proofs.PeerKnowledge

/-!
What becomes of a received frame, and what is sent for it.

Every frame that is handled goes to one account, and the account says what was sent: an answer for a
question that was answered, a message for an echo, as many datagrams as the consumer was told were
sent, and nothing for the others. What a frame on the wire is, is read off its octets.
-/

set_option autoImplicit false

namespace InstrumentLink

inductive Sending where
  | question
  | answer
  | message
  | datagram
  deriving DecidableEq, Repr

namespace Sending

def ofOperation : Arp.Operation → Sending
  | .request => .question
  | .reply => .answer

def ofCode (code : UInt16) : Option Sending :=
  if code = Arp.Operation.request.code then some .question
  else if code = Arp.Operation.reply.code then some .answer
  else none

def ofProtocol : Ipv4.Protocol → Option Sending
  | .icmp => some .message
  | .udp => some .datagram
  | .tcp | .unknown _ => none

def ofFrame (frame : Bytes) : Option Sending := do
  let content ← (Ethernet.payload frame).toOption
  match Ethernet.classify frame with
  | .arp => ofCode (← (Arp.operationCode content).toOption)
  | .ipv4 => ofProtocol (← (Ipv4.protocol content).toOption)
  | .other | .corrupt => none

def read (interface : Interface) (octets : Bytes) : Option Sending := do
  ofFrame (← (← (Link.unframe interface octets).toOption).toOption)

variable (interface : Interface)

theorem read_on_wire (frame : Bytes) :
    read interface (interface.onWire frame) =
      ofFrame (Bytes.padTo Ethernet.minimumLength frame) := by
  unfold read
  rw [interface.unframe_on_wire]
  rfl

theorem of_ipv4_header (receiver mac : MacAddress) (sender ip : Ipv4Address)
    (carried : Ipv4.Protocol) (length : UInt16) (rest : Bytes) :
    ofFrame (Ethernet.header receiver mac Ethernet.typeIpv4 ++
        (Ipv4.header sender ip carried length ++ rest)) =
      ofProtocol (Ipv4.Protocol.ofCode carried.code) := by
  have other : Ethernet.typeIpv4 ≠ Ethernet.typeArp := by decide
  simp [ofFrame, Ethernet.classify, other, Except.toOption]

theorem read_arp (operation : Arp.Operation) (destination : MacAddress) (target : Arp.Station) :
    read interface (interface.onWire (Arp.frame interface operation destination target)) =
      some (ofOperation operation) := by
  obtain ⟨count, padded⟩ := Arp.pad_frame interface operation destination target
  rw [read_on_wire, padded]
  cases operation <;>
    simp [ofFrame, Ethernet.classify, Except.toOption, ofCode, ofOperation, Arp.Operation.code]

theorem read_message (reply : Icmp.Reply) :
    read interface (interface.onWire (reply.frame interface)) = some .message := by
  rw [read_on_wire, Icmp.Reply.frame, Icmp.replyFrame, Bytes.padTo, List.append_assoc,
    List.append_assoc, of_ipv4_header]
  rfl

theorem read_datagram (peer : Arp.Station) (sourcePort destinationPort : UInt16)
    (payload : Bytes) :
    read interface (interface.onWire
      (Udp.frame interface peer sourcePort destinationPort payload)) = some .datagram := by
  rw [read_on_wire, Bytes.padTo, Udp.frame_append, of_ipv4_header]
  rfl

end Sending

namespace Udp

def datagrams (offers : List Offer) : List Sending :=
  List.replicate (offers.countP Offer.sent) .datagram

theorem datagrams_append (offers more : List Offer) :
    datagrams (offers ++ more) = datagrams offers ++ datagrams more := by
  rw [datagrams, List.countP_append, List.replicate_add]
  rfl

@[simp] theorem count_datagrams (offers : List Offer) (sending : Sending) :
    (datagrams offers).count sending =
      if sending = .datagram then offers.countP Offer.sent else 0 := by
  rw [datagrams, List.count_replicate]
  cases sending <;> rfl

theorem datagrams_single (offer : Offer) :
    datagrams [offer] = if offer.sent then [.datagram] else [] := by
  cases sent : offer.sent <;> simp [datagrams, sent]

end Udp

/-- The ways in which a handled frame is counted. -/
inductive Account where
  | dropped
  | arpAnswered
  | arpLearned
  | icmpEchoed
  /-- An ICMP message that is consumed without an answer; it is counted as received only. -/
  | icmpConsumed
  | udpDelivered
  deriving DecidableEq, Repr

namespace Account

def ofArp : Arp.Outcome → Account
  | .answered _ => .arpAnswered
  | .learned _ => .arpLearned
  | .ignored | .malformed => .dropped

def ofIpv4 : Ipv4.Dispatch → Account
  | .delivered => .udpDelivered
  | .echoReplied => .icmpEchoed
  | .icmpIgnored => .icmpConsumed
  | .notMine => .dropped

def isIcmp : Account → Bool
  | .icmpEchoed | .icmpConsumed => true
  | .dropped | .arpAnswered | .arpLearned | .udpDelivered => false

def sendings (offers : List Udp.Offer) : Account → List Sending
  | .arpAnswered => [.answer]
  | .icmpEchoed => [.message]
  | .udpDelivered => Udp.datagrams offers
  | .dropped | .arpLearned | .icmpConsumed => []

end Account

def LinkStats.book (stats : LinkStats) : Account → LinkStats
  | .dropped => { stats with dropped := stats.dropped + 1 }
  | .arpAnswered => { stats with arpAnswered := stats.arpAnswered + 1 }
  | .arpLearned => { stats with arpLearned := stats.arpLearned + 1 }
  | .icmpEchoed => { stats with icmpEchoes := stats.icmpEchoes + 1 }
  | .icmpConsumed => stats
  | .udpDelivered => { stats with udpDelivered := stats.udpDelivered + 1 }

theorem Link.count_arp_books (stats : LinkStats) (outcome : Arp.Outcome) :
    (countArp stats outcome).1 = stats.book (.ofArp outcome) := by
  cases outcome <;> rfl

theorem Link.count_ipv4_books (stats : LinkStats) (dispatch : Ipv4.Dispatch) :
    countIpv4 stats dispatch = stats.book (.ofIpv4 dispatch) := by
  cases dispatch <;> rfl

variable {Port : Type} {Sound : Port → Prop} {view : Port → PortView} {interface : Interface}

/-- What a port became by sending frames that are what a list says. -/
def Sends (interface : Interface) (Sound : Port → Prop) (view : Port → PortView) (port : Port)
    (sendings : List Sending) (after : Port) : Prop :=
  Sound after ∧ ∃ frames, (view after).sent = (view port).sent ++ frames ∧
    frames.map (Sending.read interface) = sendings.map some

namespace Sends

variable {port between after : Port} {sendings later : List Sending}

theorem nothing (sound : Sound after) (same : (view after).sent = (view port).sent) :
    Sends interface Sound view port [] after :=
  ⟨sound, [], by rw [same, List.append_nil], rfl⟩

theorem trans (first : Sends interface Sound view port sendings between)
    (second : Sends interface Sound view between later after) :
    Sends interface Sound view port (sendings ++ later) after := by
  obtain ⟨-, frames, sent, same⟩ := first
  obtain ⟨sound, others, otherSent, otherSame⟩ := second
  refine ⟨sound, frames ++ others, ?_, ?_⟩
  · rw [otherSent, sent, List.append_assoc]
  · rw [List.map_append, same, otherSame, List.map_append]

theorem one {frame : Bytes} {sending : Sending} (sound : Sound after)
    (sent : (view after).sent = (view port).sent ++ [interface.onWire frame])
    (same : Sending.read interface (interface.onWire frame) = some sending) :
    Sends interface Sound view port [sending] after :=
  ⟨sound, [interface.onWire frame], sent, by simp [same]⟩

end Sends

namespace Udp

variable (binding : Binding) [TransmitPort Port]
  (faithful : FramingPort binding.interface Sound view) (placed : binding.interface.Placed)

theorem Binding.send_fits (sourcePort destinationPort : UInt16) (length : Nat) (port : Port) :
    Yields (binding.send sourcePort destinationPort length port) fun answer =>
      answer.1 = true → length ≤ payloadRoom binding.interface := by
  unfold send
  split
  · split
    · next fits =>
        apply (Yields.intro _).mono
        intro answer _ _
        unfold payloadRoom
        omega
    · exact Yields.ok (by simp)
  · exact Yields.ok (by simp)

include faithful placed

theorem Binding.send_one (sourcePort destinationPort : UInt16) (length : Nat) {port : Port}
    (sound : Sound port) (recipient : Option Ipv4Address) :
    Yields (binding.send sourcePort destinationPort length port) fun answer =>
      Sends binding.interface Sound view port (datagrams [⟨recipient, answer.1⟩]) answer.2.1 := by
  apply ((binding.send_sends faithful placed sourcePort destinationPort length port sound
    recipient).yields.and (binding.send_fits sourcePort destinationPort length port)).mono
  rintro ⟨sent, after, log⟩ ⟨⟨soundAfter, frames, -⟩, fits⟩
  rw [datagrams_single]
  cases sent with
  | false =>
      apply Sends.nothing soundAfter
      simpa [Attempt.frames] using frames
  | true =>
      rw [handed_in_fits faithful placed port sound (fits rfl)] at frames
      exact .one soundAfter (frames.trans (congrArg (_ ++ [·]) (Interface.finish_laid _ _)))
        (Sending.read_datagram _ _ _ _ _)

theorem Binding.send_to_one (ip : Ipv4Address) (sourcePort destinationPort : UInt16)
    (length : Nat) {port : Port} (sound : Sound port) :
    Yields (binding.sendTo ip sourcePort destinationPort length port) fun answer =>
      Sends binding.interface Sound view port (datagrams [⟨some ip, answer.1⟩]) answer.2.1 := by
  unfold sendTo
  split
  · exact binding.send_one faithful placed sourcePort destinationPort length sound (some ip)
  · exact .nothing sound rfl

theorem Reaction.noting_sends {Result : Type} (reaction : Reaction Result) (offers : List Offer)
    {port : Port} (sound : Sound port) :
    Yields ((reaction.noting offers).run binding port) fun answer =>
      ∃ more, answer.1.2 = offers ++ more ∧
        Sends binding.interface Sound view port (datagrams more) answer.2.1 := by
  induction reaction generalizing offers port with
  | done result => exact ⟨[], (List.append_nil _).symm, .nothing sound rfl⟩
  | fail fault => trivial
  | report event next induction => exact (induction offers sound).bind fun answer holds => holds
  | look next induction => exact (Yields.intro _).bind fun area _ => induction area offers sound
  | store offset patch next induction =>
      apply (store_payload_keeps faithful placed offset patch port sound).bind
      rintro stored ⟨sound, same⟩
      apply (induction offers sound).mono
      rintro answer ⟨more, noted, sends⟩
      exact ⟨more, noted, (Sends.nothing sound same).trans sends⟩
  | send sourcePort destinationPort length next induction =>
      apply (binding.send_one faithful placed sourcePort destinationPort length sound none).bind
      rintro ⟨sent, between, log⟩ first
      apply (induction sent _ first.1).bind
      rintro answer ⟨more, noted, sends⟩
      refine ⟨⟨none, sent⟩ :: more, noted.trans (List.append_assoc _ _ _), ?_⟩
      exact datagrams_append [⟨none, sent⟩] more ▸ first.trans sends
  | sendTo ip sourcePort destinationPort length next induction =>
      apply (binding.send_to_one faithful placed ip sourcePort destinationPort length sound).bind
      rintro ⟨sent, between, log⟩ first
      apply (induction sent _ first.1).bind
      rintro answer ⟨more, noted, sends⟩
      refine ⟨⟨some ip, sent⟩ :: more, noted.trans (List.append_assoc _ _ _), ?_⟩
      exact datagrams_append [⟨some ip, sent⟩] more ▸ first.trans sends

end Udp

section Answers

variable [TransmitPort Port] (faithful : FramingPort interface Sound view)
  (prompt : PromptPort Sound interface) (placed : interface.Placed)

include faithful prompt placed

theorem Arp.emit_one (operation : Operation) (destination : MacAddress) (target : Station)
    {port : Port} (sound : Sound port) :
    Returns (emit interface operation destination target port) fun answer =>
      Sends interface Sound view port [.ofOperation operation] answer.2.1 := by
  apply (emit_puts_on_wire faithful prompt placed operation destination target sound).mono
  exact fun answer puts =>
    .one puts.1 puts.2 (Sending.read_arp interface operation destination target)

theorem Arp.handle_frame_sends (cache : PeerCache) (frame : Bytes) {port : Port}
    (sound : Sound port) :
    Yields (handleFrame interface cache frame port) fun handled =>
      Sends interface Sound view port ((Account.ofArp handled.1).sendings []) handled.2.2.1 := by
  have nothing : Sends interface Sound view port [] port := .nothing sound rfl
  apply handle_frame_cases .yields
  case malformed => exact fun _ _ => nothing
  case ignored => exact fun _ _ _ => nothing
  case learned => exact fun _ _ _ _ => nothing
  case answered => exact fun _ _ _ => (emit_one faithful prompt placed .reply _ _ sound).yields

theorem Icmp.Answerable.sends {frame : Bytes} (answerable : Answerable interface frame)
    {port : Port} (sound : Sound port) :
    Yields (interface.emit (frameHeaders + (replyIn frame).payload.length)
      ((replyIn frame).buildFrame interface) port) fun answer =>
        Sends interface Sound view port [.message] answer.2.1 := by
  apply (answerable.emit_puts_on_wire faithful prompt placed sound).yields.mono
  exact fun answer puts => .one puts.1 puts.2 (Sending.read_message interface (replyIn frame))

end Answers

/-- What handling a frame that goes to an account did: what was asked to be sent, and what was. -/
def Account.Settles {Consumer : Type} (interface : Interface) (Sound : Port → Prop)
    (view : Port → PortView) (account : Account)
    (before after : Option (Udp.Registration (Udp.Noted Consumer))) (port last : Port) : Prop :=
  ∃ more, Udp.offersOf after = Udp.offersOf before ++ more ∧
    (account ≠ .udpDelivered → more = []) ∧
    Sends interface Sound view port (account.sendings more) last

theorem Account.Settles.of_sends {Consumer : Type} {account : Account} {port last : Port}
    {registration : Option (Udp.Registration (Udp.Noted Consumer))}
    (sends : Sends interface Sound view port (account.sendings []) last) :
    account.Settles interface Sound view registration registration port last :=
  ⟨[], (List.append_nil _).symm, fun _ => rfl, sends⟩

theorem Account.Settles.between {Consumer : Type} {account : Account}
    {before after : Option (Udp.Registration (Udp.Noted Consumer))} {first port last final : Port}
    (settles : account.Settles interface Sound view before after port last)
    (prior : (view port).sent = (view first).sent) (sound : Sound final)
    (later : (view final).sent = (view last).sent) :
    account.Settles interface Sound view before after first final := by
  obtain ⟨more, noted, others, -, frames, sent, same⟩ := settles
  exact ⟨more, noted, others, sound, frames, by rw [later, sent, prior], same⟩

namespace Ipv4

/-- What an IPv4 frame carries, if it is complete and its packet is accepted. -/
def carried (frame : Bytes) : Option Protocol :=
  if frame.length < Udp.frameHeaders then none
  else do
    let packet ← (Ethernet.payload frame).toOption
    (check packet).toOption
    (protocol packet).toOption

theorem carried_eq (frame : Bytes) :
    carried frame = if Plain frame then some (kindOf frame) else none := by
  unfold carried
  by_cases short : frame.length < Udp.frameHeaders
  · have other : ¬Plain frame := fun plain => Nat.not_lt.mpr plain.long short
    rw [if_pos short, if_neg other]
  · have long : 42 ≤ frame.length := Nat.le_of_not_lt short
    rw [if_neg short, packet_stands long]
    cases checked : check (frame.drop 14) with
    | ok accepted =>
        have plain : Plain frame := ⟨long, (check_stands long).mp checked⟩
        simp [plain, checked, protocol_stands long, Except.toOption]
    | error cause =>
        have other : ¬Plain frame := by
          intro plain
          rw [(check_stands long).mpr plain.header] at checked
          cases checked
        simp [other, checked, Except.toOption]

theorem carried_icmp {frame : Bytes} :
    carried frame = some .icmp ↔ Plain frame ∧ frame.getD 23 0 = 0x01 := by
  simp [carried_eq, kind_icmp]

theorem carried_udp {frame : Bytes} :
    carried frame = some .udp ↔ Plain frame ∧ frame.getD 23 0 = 0x11 := by
  simp [carried_eq, kind_udp]

variable {Consumer : Type} [Udp.Handler Consumer] (binding : Udp.Binding) [TransmitPort Port]
  (faithful : FramingPort binding.interface Sound view) (placed : binding.interface.Placed)
  (registration : Option (Udp.Registration (Udp.Noted Consumer)))

include faithful placed

/-- Every IPv4 frame is settled on its account, which is that of ICMP exactly for ICMP messages. -/
theorem handle_frame_settles (prompt : PromptPort Sound binding.interface) (frame : Bytes)
    {port : Port} (sound : Sound port) :
    Yields (handleFrame binding registration frame port) fun handled =>
      (Account.ofIpv4 handled.1).isIcmp = decide (carried frame = some .icmp) ∧
        (Account.ofIpv4 handled.1).Settles binding.interface Sound view registration handled.2.1
          port handled.2.2.1 := by
  apply handle_frame_cases .yields
  case other =>
    intro log other _
    exact ⟨(decide_eq_false (mt carried_icmp.mp other)).symm, .of_sends (.nothing sound rfl)⟩
  case ignored =>
    intro log plain carries _
    exact ⟨(decide_eq_true (carried_icmp.mpr ⟨plain, carries⟩)).symm,
      .of_sends (.nothing sound rfl)⟩
  case echoed =>
    intro answerable
    have icmp := carried_icmp.mpr ⟨answerable.plain, answerable.carries⟩
    apply (answerable.sends faithful prompt placed sound).mono
    intro answer sends
    exact ⟨(decide_eq_true icmp).symm, .of_sends sends⟩
  case delivered =>
    rintro registered rfl reaches
    have udp := carried_udp.mpr ⟨reaches.plain, reaches.carries⟩
    apply Udp.Noted.reacts
    apply (Udp.Reaction.noting_sends binding faithful placed _ _ sound).mono
    rintro answer ⟨more, noted, sends⟩
    exact ⟨(decide_eq_false (by simp [udp])).symm, more, noted, fun other => (other rfl).elim,
      sends⟩

end Ipv4

end InstrumentLink
