import InstrumentLink.Proofs.EchoAnswering
import InstrumentLink.Proofs.LinkAccounts

/-!
No answer is answered.

Without a consumer that sends, what a link sends for a frame is decided by the frame: one answer to
a question for its address, one reply to an ICMP request, and nothing otherwise. An answer asks for
nothing and a reply is no request, so nobody answers them, whatever the addresses are.
-/

set_option autoImplicit false

namespace InstrumentLink

namespace Arp

instance (data : Bytes) : Decidable (check data = .ok ()) :=
  match check data with
  | .ok () => isTrue rfl
  | .error _ => isFalse nofun

instance (frame : Bytes) : Decidable (Complete frame) :=
  decidable_of_iff (60 ≤ frame.length ∧ check (frame.drop 14) = .ok ())
    ⟨fun ⟨long, accepted⟩ => ⟨long, accepted⟩, fun ⟨long, accepted⟩ => ⟨long, accepted⟩⟩

def Asks (ip : Ipv4Address) (frame : Bytes) : Prop :=
  Complete frame ∧ Bytes.pairAt frame 20 = Operation.request.code ∧
    Ipv4Address.standing frame 38 = ip

instance (ip : Ipv4Address) (frame : Bytes) : Decidable (Asks ip frame) :=
  inferInstanceAs (Decidable (_ ∧ _ ∧ _))

def asker (frame : Bytes) : Station :=
  ⟨MacAddress.standing frame 22, Ipv4Address.standing frame 28⟩

def answerTo (interface : Interface) (frame : Bytes) : Option Bytes :=
  if Asks interface.ip frame then some (replyFrame interface (asker frame)) else none

end Arp

def Icmp.answerTo (interface : Interface) (frame : Bytes) : Option Bytes :=
  if Answerable interface frame then some ((replyIn frame).frame interface) else none

/-- The frame that a frame calls for, both from their Ethernet headers on. -/
def Interface.answerTo (interface : Interface) (frame : Bytes) : Option Bytes :=
  match Ethernet.classify frame with
  | .arp => Arp.answerTo interface frame
  | .ipv4 => Icmp.answerTo interface frame
  | .other | .corrupt => none

/-- What goes on the wire for what is in a slot. -/
def Link.answerTo (interface : Interface) (slot : Bytes) : Option Bytes :=
  match unframe interface slot with
  | .ok (.ok frame) => (interface.answerTo frame).map interface.onWire
  | _ => none

theorem Link.answer_to_frame {interface : Interface} {slot frame : Bytes}
    (unframed : unframe interface slot = .ok (.ok frame)) :
    answerTo interface slot = (interface.answerTo frame).map interface.onWire := by
  rw [answerTo, unframed]

namespace Arp

theorem reply_unanswered (sender receiver : Interface) (asker : Station) :
    receiver.answerTo (Bytes.padTo Ethernet.minimumLength (replyFrame sender asker)) = none := by
  obtain ⟨count, padded⟩ := pad_frame sender .reply asker.mac asker
  have operation : Bytes.pairAt
      (Bytes.padTo Ethernet.minimumLength (replyFrame sender asker)) 20 = Operation.reply.code := by
    rw [replyFrame, padded]
    exact Bytes.word16_of_octets _
  have silent : ¬Asks receiver.ip
      (Bytes.padTo Ethernet.minimumLength (replyFrame sender asker)) := by
    intro asks
    exact absurd (operation.symm.trans asks.2.1) (by decide)
  unfold Interface.answerTo
  rw [replyFrame, classify_frame]
  exact if_neg silent

end Arp

namespace Icmp

theorem reply_unanswered (sender receiver : Interface) (reply : Reply) :
    receiver.answerTo (Bytes.padTo Ethernet.minimumLength (reply.frame sender)) = none := by
  have layers := reply.frame_append sender
    (Bytes.zeros (Ethernet.minimumLength - (reply.frame sender).length))
  change Bytes.padTo Ethernet.minimumLength (reply.frame sender) = _ at layers
  generalize Bytes.padTo Ethernet.minimumLength (reply.frame sender) = frame at layers ⊢
  have kind : Ethernet.classify frame = .ipv4 := by
    have other : Ethernet.typeIpv4 ≠ Ethernet.typeArp := by decide
    simp [layers, Ethernet.classify, other]
  have type : frame.getD 34 0 = echoReply := by
    rw [layers]
    rfl
  have calm : ¬Answerable receiver frame := by
    intro answerable
    rcases answerable.request with echo | timestamp
    · exact absurd (type.symm.trans echo) (by decide)
    · exact absurd (type.symm.trans timestamp) (by decide)
  unfold Interface.answerTo
  rw [kind]
  exact if_neg calm

end Icmp

theorem Interface.answer_unanswered {sender : Interface} (receiver : Interface)
    {frame answer : Bytes} (answered : sender.answerTo frame = some answer) :
    receiver.answerTo (Bytes.padTo Ethernet.minimumLength answer) = none := by
  unfold answerTo at answered
  split at answered
  · obtain ⟨-, rfl⟩ := Option.ite_some_none_eq_some.mp answered
    exact Arp.reply_unanswered sender receiver _
  · obtain ⟨-, rfl⟩ := Option.ite_some_none_eq_some.mp answered
    exact Icmp.reply_unanswered sender receiver _
  · cases answered
  · cases answered

theorem Link.answer_unanswered {sender : Interface} (receiver : Interface) {slot octets : Bytes}
    (framing : sender.softwareFraming = receiver.softwareFraming)
    (answered : answerTo sender slot = some octets) : answerTo receiver octets = none := by
  unfold answerTo at answered
  split at answered
  · obtain ⟨answer, called, rfl⟩ := Option.map_eq_some_iff.mp answered
    rw [answer_to_frame (unframe_from receiver sender answer framing),
      Interface.answer_unanswered receiver called]
    rfl
  · cases answered

namespace Udp

def Reaction.Mute {Result : Type} : Reaction Result → Prop
  | .done _ | .fail _ => True
  | .report _ next => next.Mute
  | .look next => ∀ area, (next area).Mute
  | .store _ _ next => next.Mute
  | .send .. | .sendTo .. => False

def MuteConsumers {Consumer : Type} [Handler Consumer] (Safe : Consumer → Prop) : Prop :=
  ∀ consumer, Safe consumer → ∀ datagram, (Handler.onDatagram datagram consumer).Mute

theorem Reaction.Mute.noting {Result : Type} {reaction : Reaction Result} (mute : reaction.Mute)
    (offers : List Offer) : (reaction.noting offers).Mute := by
  induction reaction with
  | done | fail => trivial
  | report event next induction => exact induction mute
  | look next induction => exact fun area => induction area (mute area)
  | store offset patch next induction => exact induction mute
  | send | sendTo => exact mute.elim

end Udp

section Ports

variable {Port : Type} [TransmitPort Port] {Sound : Port → Prop} {view : Port → PortView}
  {interface : Interface} {port after : Port}

def SendsAnswer (interface : Interface) (Sound : Port → Prop) (view : Port → PortView) (port : Port)
    (answer : Option Bytes) (after : Port) : Prop :=
  Sound after ∧ (view after).sent = (view port).sent ++ (answer.map interface.onWire).toList

omit [TransmitPort Port] in
theorem SendsAnswer.nothing (sound : Sound after) (same : (view after).sent = (view port).sent) :
    SendsAnswer interface Sound view port none after :=
  ⟨sound, same.trans (List.append_nil _).symm⟩

theorem Udp.Reaction.Mute.sends_none {Result : Type} {reaction : Reaction Result}
    (mute : reaction.Mute) {binding : Binding}
    (faithful : FramingPort binding.interface Sound view) (placed : binding.interface.Placed)
    (sound : Sound port) :
    Yields (reaction.run binding port) fun answer =>
      Sound answer.2.1 ∧ (view answer.2.1).sent = (view port).sent := by
  induction reaction generalizing port with
  | done result => exact ⟨sound, rfl⟩
  | fail fault => trivial
  | report event next induction => exact (induction mute sound).bind fun _ kept => kept
  | look next induction =>
      exact (Yields.intro _).bind fun area _ => induction area (mute area) sound
  | store offset patch next induction =>
      apply (store_payload_keeps faithful placed offset patch port sound).bind
      intro stored kept
      apply (induction mute kept.1).mono
      intro answer same
      exact ⟨same.1, same.2.trans kept.2⟩
  | send | sendTo => exact mute.elim

theorem Arp.handle_frame_answers (faithful : FramingPort interface Sound view)
    (prompt : PromptPort Sound interface) (placed : interface.Placed) (cache : PeerCache)
    (frame : Bytes) (sound : Sound port) :
    Yields (handleFrame interface cache frame port) fun handled =>
      SendsAnswer interface Sound view port (answerTo interface frame) handled.2.2.1 := by
  have nothing (silent : ¬Asks interface.ip frame) :
      SendsAnswer interface Sound view port (answerTo interface frame) port := by
    rw [answerTo, if_neg silent]
    exact .nothing sound rfl
  apply handle_frame_cases .yields
  case malformed => exact fun _ cut => nothing fun asks => cut asks.1
  case ignored => exact fun _ _ other => nothing fun asks => other asks.2
  case learned =>
    intro _ _ reply _
    exact nothing fun asks => absurd (reply.symm.trans asks.2.1) (by decide)
  case answered =>
    intro complete request target
    rw [answerTo, if_pos ⟨complete, request, target⟩]
    exact (emit_puts_on_wire faithful prompt placed .reply _ _ sound).yields

theorem Ipv4.handle_frame_answers {Consumer : Type} [Udp.Handler Consumer] {Safe : Consumer → Prop}
    (mute : Udp.MuteConsumers Safe) {binding : Udp.Binding}
    (faithful : FramingPort binding.interface Sound view)
    (prompt : PromptPort Sound binding.interface) (placed : binding.interface.Placed)
    {registration : Option (Udp.Registration (Udp.Noted Consumer))}
    (registered : Udp.SafelyRegistered (fun noted => Safe noted.consumer) registration)
    (frame : Bytes) (sound : Sound port) :
    Yields (handleFrame binding registration frame port) fun handled =>
      SendsAnswer binding.interface Sound view port (Icmp.answerTo binding.interface frame)
        handled.2.2.1 := by
  have nothing (calm : ¬Icmp.Answerable binding.interface frame) :
      Icmp.answerTo binding.interface frame = none := if_neg calm
  apply handle_frame_cases .yields
  case other =>
    intro _ other _
    rw [nothing fun answerable => other ⟨answerable.plain, answerable.carries⟩]
    exact .nothing sound rfl
  case ignored =>
    intro _ _ _ calm
    rw [nothing calm]
    exact .nothing sound rfl
  case echoed =>
    intro answerable
    rw [Icmp.answerTo, if_pos answerable]
    exact (answerable.emit_puts_on_wire faithful prompt placed sound).yields
  case delivered =>
    intro known present reaches
    have calm : ¬Icmp.Answerable binding.interface frame := fun answerable =>
      absurd (answerable.carries.symm.trans reaches.carries) (by decide)
    rw [nothing calm]
    have silent := mute known.consumer.consumer (registered known present) (Udp.datagramIn frame)
    apply Udp.Noted.reacts
    apply ((silent.noting _).sends_none faithful placed sound).mono
    exact fun answer kept => .nothing kept.1 kept.2

end Ports

namespace Link

def Event.provokes (interface : Interface) : Event → Option Bytes
  | .received slot => answerTo interface slot
  | .started | .aimed _ | .other => none

theorem Event.answer_unanswered (event : Event) {sender : Interface} (receiver : Interface)
    {octets : Bytes} (framing : sender.softwareFraming = receiver.softwareFraming)
    (provoked : event.provokes sender = some octets) : answerTo receiver octets = none := by
  cases event with
  | received slot => exact Link.answer_unanswered receiver framing provoked
  | started | aimed | other => cases provoked

section Serving

variable {Hardware Consumer : Type} [Mac.Device Hardware] [Udp.Handler Consumer]
  {geometry : Mac.SlotGeometry} {Good : Hardware → Prop} {side : Hardware → Mac.TransmitSide}
  {config : LinkConfig} {Safe : Consumer → Prop} {link : Link Hardware (Udp.Noted Consumer)}

/-- What a link became by putting at most one frame on the wire. -/
structure PutsOnWire (config : LinkConfig) (geometry : Mac.SlotGeometry) (Good : Hardware → Prop)
    (side : Hardware → Mac.TransmitSide) (link : Link Hardware (Udp.Noted Consumer))
    (answer : Option Bytes) (after : Link Hardware (Udp.Noted Consumer)) : Prop where
  counted : Counted config geometry Good side after
  sent : (SlotRing.view side after.ring).sent =
    (SlotRing.view side link.ring).sent ++ answer.toList

variable (transmitter : Mac.Transmitter geometry Good side) (mute : Udp.MuteConsumers Safe)

include transmitter mute

theorem dispatch_answers (counted : Counted config geometry Good side link)
    (registered : Udp.SafelyRegistered (fun noted => Safe noted.consumer) link.registration)
    (slot : Bytes) :
    Yields (link.dispatch slot) fun dispatched =>
      PutsOnWire config geometry Good side link (answerTo config.interface slot)
        dispatched.2.1 := by
  obtain ⟨rfl, sound⟩ := counted
  have faithful := SlotRing.counting_port transmitter link.config.interface.softwareFraming
  have prompt := SlotRing.counting_prompt transmitter link.config.interface
  have placed := placed_interface link.config
  apply dispatch_cases .yields
  case dropped =>
    intro frameClass log other
    have silent : answerTo link.config.interface slot = none := by
      unfold answerTo
      split
      · next frame unframed =>
          obtain ⟨notArp, notIpv4⟩ := other frame unframed
          unfold Interface.answerTo
          split
          · next arp => exact (notArp arp).elim
          · next ipv4 => exact (notIpv4 ipv4).elim
          · rfl
          · rfl
      · rfl
    rw [silent]
    exact ⟨⟨rfl, sound⟩, (List.append_nil _).symm⟩
  case arp =>
    intro frame unframed arp
    rw [interface] at unframed
    rw [answer_to_frame unframed, Interface.answerTo, arp]
    apply (Arp.handle_frame_answers faithful prompt placed link.cache frame sound).mono
    exact fun handled sends => ⟨⟨rfl, sends.1⟩, sends.2⟩
  case ipv4 =>
    intro frame unframed ipv4
    rw [interface] at unframed
    rw [answer_to_frame unframed, Interface.answerTo, ipv4]
    apply (Ipv4.handle_frame_answers mute faithful prompt placed registered frame sound).mono
    exact fun handled sends => ⟨⟨rfl, sends.1⟩, sends.2⟩

variable (quiet : Mac.QuietReceiver Good side)

include quiet

/-- A call of `service` sends the answer to the frame that it handles, and nothing else. -/
theorem service_answers (counted : Counted config geometry Good side link)
    (registered : Udp.SafelyRegistered (fun noted => Safe noted.consumer) link.registration) :
    Yields link.service fun serviced =>
      PutsOnWire config geometry Good side link (link.serviceEvent.provokes config.interface)
        serviced.2.1 := by
  apply counted.service_cases quiet
  · intro ring log event kept sent
    rw [event]
    exact ⟨kept, sent.trans (List.append_nil _).symm⟩
  · intro ring log slot event polled sent
    rw [event]
    apply (dispatch_answers transmitter mute polled registered slot).mono
    intro dispatched puts
    refine ⟨puts.counted, fun released kept same => ⟨kept, ?_⟩⟩
    exact (same.trans puts.sent).trans (congrArg (· ++ _) sent)

end Serving

end Link

end InstrumentLink
