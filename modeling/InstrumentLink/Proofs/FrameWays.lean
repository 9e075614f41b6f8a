import InstrumentLink.Link
import InstrumentLink.Proofs.FrameOctets

/-!
The ways that a received frame can go.

What becomes of a frame is decided by its octets before anything is sent or handed over. So there is
one equation for each way, and what is to be shown of every frame is shown once for each of them:
an ARP frame is refused, ignored, learned from or answered; an IPv4 frame is left alone, consumed,
echoed or handed to the registered consumer.
-/

set_option autoImplicit false

namespace InstrumentLink

variable {Port : Type} [TransmitPort Port]

namespace Arp

variable {interface : Interface} {cache : PeerCache} {frame : Bytes}

theorem handle_frame_malformed (port : Port) (refused : ¬Complete frame) :
    ∃ log, handleFrame interface cache frame port = .ok (.malformed, cache, port, log) := by
  unfold handleFrame
  by_cases short : frame.length < Ethernet.minimumLength
  · rw [if_pos short]
    exact ⟨_, rfl⟩
  · have long : 60 ≤ frame.length := Nat.le_of_not_lt short
    rw [if_neg short]
    cases checked : check (frame.drop 14) with
    | error cause =>
        refine ⟨[.arpRefused cause], bind_known (body_stands long) ?_⟩
        rw [checked]
        rfl
    | ok accepted => exact (refused ⟨long, checked⟩).elim

theorem handle_frame_complete (port : Port) (complete : Complete frame) :
    handleFrame interface cache frame port =
      let sender : Station := ⟨MacAddress.standing frame 22, Ipv4Address.standing frame 28⟩
      if Bytes.pairAt frame 20 = Operation.reply.code then
        if sender.ip = cache.ip then
          .ok (.learned sender.mac, { cache with mac := sender.mac }, port,
            [.arpLearned sender.ip sender.mac])
        else .ok (.ignored, cache, port, [])
      else if Bytes.pairAt frame 20 = Operation.request.code ∧
          Ipv4Address.standing frame 38 = interface.ip then do
        let (_, port, log) ← emit interface .reply sender.mac sender port
        return (.answered sender.ip, cache, port, log)
      else .ok (.ignored, cache, port, []) := by
  have long := complete.long
  have whole : ¬frame.length < Ethernet.minimumLength := Nat.not_lt.mpr long
  unfold handleFrame
  rw [if_neg whole]
  refine bind_known (body_stands long) ?_
  rw [complete.accepted]
  refine bind_known (operation_code_stands long) (bind_known (sender_mac_stands long) ?_)
  exact bind_known (sender_ip_stands long) (bind_known (target_ip_stands long) rfl)

/-- A frame is malformed, not for the link, told by the peer, or answered. -/
theorem handle_frame_cases (verdict : Verdict) {port : Port}
    {good : Outcome × PeerCache × Port × Log → Prop}
    (malformed : ∀ log, ¬Complete frame → good (.malformed, cache, port, log))
    (ignored : Complete frame →
      ¬(Bytes.pairAt frame 20 = Operation.reply.code ∧ Ipv4Address.standing frame 28 = cache.ip) →
      ¬(Bytes.pairAt frame 20 = Operation.request.code ∧
        Ipv4Address.standing frame 38 = interface.ip) → good (.ignored, cache, port, []))
    (learned : ∀ log, Complete frame → Bytes.pairAt frame 20 = Operation.reply.code →
      Ipv4Address.standing frame 28 = cache.ip →
      good (.learned (MacAddress.standing frame 22),
        { cache with mac := MacAddress.standing frame 22 }, port, log))
    (answered : Complete frame → Bytes.pairAt frame 20 = Operation.request.code →
      Ipv4Address.standing frame 38 = interface.ip →
      verdict.Says (emit interface .reply (MacAddress.standing frame 22)
        ⟨MacAddress.standing frame 22, Ipv4Address.standing frame 28⟩ port) fun answer =>
          good (.answered (Ipv4Address.standing frame 28), cache, answer.2.1, answer.2.2)) :
    verdict.Says (handleFrame interface cache frame port) good := by
  by_cases complete : Complete frame
  · rw [handle_frame_complete port complete]
    dsimp only
    split
    · next reply =>
        have other : Bytes.pairAt frame 20 ≠ Operation.request.code := reply ▸ by decide
        split
        · next peer => exact verdict.ok (learned _ complete reply peer)
        · next stranger =>
            exact verdict.ok (ignored complete (fun told => stranger told.2) fun asked =>
              other asked.1)
    · next other =>
        split
        · next asked =>
            exact verdict.bind (answered complete asked.1 asked.2) fun answer holds =>
              verdict.ok holds
        · next silent =>
            exact verdict.ok (ignored complete (fun told => other told.1) silent)
  · obtain ⟨log, same⟩ := handle_frame_malformed port complete
    rw [same]
    exact verdict.ok (malformed log complete)

end Arp

namespace Icmp

variable {interface : Interface} {frame : Bytes}

theorem reply_to_eq (interface : Interface) {frame : Bytes} (long : 42 ≤ frame.length) :
    replyTo interface frame (frame.drop 14) =
      if frame.getD 34 0 ≠ 8 ∧ frame.getD 34 0 ≠ 13 then .ok (none, [])
      else if (frame.drop 42).length < statedPayload frame then .ok (none, [.icmpCutOff])
      else if interface.frameEnd < interface.frameOffset + 42 + statedPayload frame then
        .ok (none, [])
      else .ok (some (replyIn frame), []) := by
  have source : Ethernet.source frame = .ok (MacAddress.standing frame 6) :=
    MacAddress.read_at_standing frame 6 (by omega)
  unfold replyTo
  refine bind_known (Ipv4.payload_stands long) ?_
  rw [check_stands long]
  refine bind_known (message_type_stands long) ?_
  refine if_congr Iff.rfl rfl ?_
  refine bind_known (Ipv4.total_length_stands long) (bind_known (payload_stands long) ?_)
  refine if_congr Iff.rfl rfl (if_congr Iff.rfl rfl ?_)
  refine bind_known source (bind_known (Ipv4.source_stands long) ?_)
  exact bind_known (identifier_stands long) (bind_known (sequence_stands long) rfl)

theorem reply_to_answerable (answerable : Answerable interface frame) :
    replyTo interface frame (frame.drop 14) = .ok (some (replyIn frame), []) := by
  have there : (frame.drop 42).length = frame.length - 42 := List.length_drop
  have fits : interface.frameOffset + 42 + statedPayload frame ≤ interface.frameEnd :=
    answerable.fits
  have present := answerable.present
  have request : ¬(frame.getD 34 0 ≠ 8 ∧ frame.getD 34 0 ≠ 13) :=
    fun other => answerable.request.elim other.1 other.2
  rw [reply_to_eq interface answerable.plain.long, if_neg request, if_neg (by omega),
    if_neg (by omega)]

theorem reply_to_ignored (plain : Ipv4.Plain frame) (carries : frame.getD 23 0 = 0x01)
    (refused : ¬Answerable interface frame) :
    ∃ log, replyTo interface frame (frame.drop 14) = .ok (none, log) := by
  have there : (frame.drop 42).length = frame.length - 42 := List.length_drop
  rw [reply_to_eq interface plain.long]
  split
  · exact ⟨_, rfl⟩
  · next request =>
      split
      · exact ⟨_, rfl⟩
      · next present =>
          split
          · exact ⟨_, rfl⟩
          · next fits =>
              have request := Decidable.or_iff_not_not_and_not.mpr request
              exact (refused
                ⟨plain, carries, request, by omega, Nat.le_of_not_lt fits⟩).elim

end Icmp

def Udp.ForConsumer {Consumer : Type} (ip : Ipv4Address)
    (registration : Option (Registration Consumer)) (frame : Bytes) : Prop :=
  ∃ registered ∈ registration, Reaches ip registered.port frame

instance {Consumer : Type} (ip : Ipv4Address) (registration : Option (Udp.Registration Consumer))
    (frame : Bytes) : Decidable (Udp.ForConsumer ip registration frame) :=
  inferInstanceAs (Decidable (∃ registered ∈ registration, Udp.Reaches ip registered.port frame))

theorem Udp.icmp_not_for_consumer {Consumer : Type} {ip : Ipv4Address}
    {registration : Option (Registration Consumer)} {frame : Bytes}
    (carries : frame.getD 23 0 = 0x01) : ¬ForConsumer ip registration frame := by
  rintro ⟨registered, -, reaches⟩
  exact absurd (carries.symm.trans reaches.carries) (by decide)

namespace Ipv4

theorem datagram_for_stands (interface : Interface) (port : UInt16) {frame : Bytes}
    (plain : Plain frame) (carries : frame.getD 23 0 = 0x11) :
    datagramFor interface port (frame.drop 14) =
      .ok (if Udp.Reaches interface.ip port frame then some (Udp.datagramIn frame) else none) := by
  have long := plain.long
  unfold datagramFor
  refine bind_known (total_length_stands long) ?_
  by_cases short : (Bytes.pairAt frame 16).toNat < headerLength + Udp.headerLength
  · have refused : ¬Udp.Reaches interface.ip port frame :=
      fun reaches => Nat.not_lt.mpr reaches.total short
    rw [if_pos short, if_neg refused]
    rfl
  rw [if_neg short]
  refine bind_known (destination_stands long) ?_
  by_cases elsewhere : Ipv4Address.standing frame 30 ≠ interface.ip
  · have refused : ¬Udp.Reaches interface.ip port frame :=
      fun reaches => elsewhere reaches.addressed
    rw [if_pos elsewhere, if_neg refused]
    rfl
  rw [if_neg elsewhere]
  refine bind_known (payload_stands long) ?_
  rw [Udp.check_stands long]
  by_cases below : (Bytes.pairAt frame 38).toNat < 8
  · have refused : ¬Udp.Reaches interface.ip port frame :=
      fun reaches => Nat.not_lt.mpr reaches.stated below
    rw [if_pos below, if_neg refused]
    rfl
  rw [if_neg below]
  refine bind_known (Udp.destination_port_stands long) ?_
  by_cases other : Bytes.pairAt frame 36 ≠ port
  · have refused : ¬Udp.Reaches interface.ip port frame := fun reaches => other reaches.port
    rw [if_pos other, if_neg refused]
    rfl
  have reaches : Udp.Reaches interface.ip port frame :=
    ⟨plain, carries, Nat.le_of_not_lt short, not_not.mp elsewhere, Nat.le_of_not_lt below,
      not_not.mp other⟩
  rw [if_neg other, if_pos reaches]
  refine bind_known (source_stands long) (bind_known (Udp.source_port_stands long) ?_)
  exact bind_known (Udp.payload_stands long reaches.stated) rfl

variable {Consumer : Type} [Udp.Handler Consumer] (binding : Udp.Binding)
  {registration : Option (Udp.Registration Consumer)} {frame : Bytes} (port : Port)

theorem handle_frame_plain (registration : Option (Udp.Registration Consumer))
    (plain : Plain frame) :
    handleFrame binding registration frame port =
      match kindOf frame with
      | .icmp => do
          let (dispatch, port, log) ← answerIcmp binding.interface frame (frame.drop 14) port
          return (dispatch, registration, port, log)
      | .udp => deliver binding registration (frame.drop 14) port
      | .tcp | .unknown _ => return (.notMine, registration, port, []) := by
  have complete : ¬frame.length < Udp.frameHeaders := Nat.not_lt.mpr plain.long
  have accepted : check (frame.drop 14) = .ok () := (check_stands plain.long).mpr plain.header
  unfold handleFrame
  rw [if_neg complete]
  refine bind_known (packet_stands plain.long) ?_
  rw [accepted]
  exact bind_known (protocol_stands plain.long) rfl

theorem handle_frame_other (registration : Option (Udp.Registration Consumer))
    (other : ¬Plain frame) :
    ∃ log, handleFrame binding registration frame port =
      .ok (.notMine, registration, port, log) := by
  unfold handleFrame
  by_cases short : frame.length < Udp.frameHeaders
  · rw [if_pos short]
    exact ⟨_, rfl⟩
  · have long : 42 ≤ frame.length := Nat.le_of_not_lt short
    rw [if_neg short]
    cases checked : check (frame.drop 14) with
    | error cause =>
        refine ⟨[.ipv4Refused cause], bind_known (packet_stands long) ?_⟩
        rw [checked]
        rfl
    | ok accepted => exact (other ⟨long, (check_stands long).mp checked⟩).elim

theorem handle_frame_answerable (registration : Option (Udp.Registration Consumer))
    (answerable : Icmp.Answerable binding.interface frame) :
    handleFrame binding registration frame port = do
      let reply := Icmp.replyIn frame
      let (_, port, log) ← binding.interface.emit (Icmp.frameHeaders + reply.payload.length)
        (reply.buildFrame binding.interface) port
      return (.echoReplied, registration, port, log) := by
  rw [handle_frame_plain binding port registration answerable.plain,
    kind_icmp.mpr answerable.carries]
  change answerIcmp binding.interface frame (frame.drop 14) port >>= _ = _
  unfold answerIcmp
  rw [Icmp.reply_to_answerable answerable]
  change (binding.interface.emit _ _ port >>= _) >>= _ = _
  rw [bind_assoc]
  rfl

theorem handle_frame_ignored (registration : Option (Udp.Registration Consumer))
    (plain : Plain frame) (carries : frame.getD 23 0 = 0x01)
    (refused : ¬Icmp.Answerable binding.interface frame) :
    ∃ log, handleFrame binding registration frame port =
      .ok (.icmpIgnored, registration, port, log) := by
  obtain ⟨log, replies⟩ := Icmp.reply_to_ignored plain carries refused
  rw [handle_frame_plain binding port registration plain, kind_icmp.mpr carries]
  refine ⟨log, ?_⟩
  change answerIcmp binding.interface frame (frame.drop 14) port >>= _ = _
  unfold answerIcmp
  rw [replies]
  rfl

theorem handle_frame_reaching {registered : Udp.Registration Consumer}
    (reaches : Udp.Reaches binding.interface.ip registered.port frame) :
    handleFrame binding (some registered) frame port = do
      let (consumer, port, log) ←
        (Udp.Handler.onDatagram (Udp.datagramIn frame) registered.consumer).run binding port
      return (.delivered, some { registered with consumer }, port, log) := by
  rw [handle_frame_plain binding port _ reaches.plain, kind_udp.mpr reaches.carries]
  change deliver binding (some registered) (frame.drop 14) port = _
  unfold deliver
  refine bind_known (datagram_for_stands _ _ reaches.plain reaches.carries) ?_
  rw [if_pos reaches]

theorem handle_frame_not_mine
    (missed : ¬Udp.ForConsumer binding.interface.ip registration frame)
    (other : ¬(Plain frame ∧ frame.getD 23 0 = 0x01)) :
    ∃ log, handleFrame binding registration frame port =
      .ok (.notMine, registration, port, log) := by
  by_cases plain : Plain frame
  · rw [handle_frame_plain binding port registration plain]
    cases kind : kindOf frame with
    | icmp => exact (other ⟨plain, kind_icmp.mp kind⟩).elim
    | tcp => exact ⟨_, rfl⟩
    | unknown code => exact ⟨_, rfl⟩
    | udp =>
        cases registration with
        | none => exact ⟨_, rfl⟩
        | some registered =>
            have refused : ¬Udp.Reaches binding.interface.ip registered.port frame :=
              fun reaches => missed ⟨registered, rfl, reaches⟩
            refine ⟨[], ?_⟩
            change deliver binding (some registered) (frame.drop 14) port = _
            unfold deliver
            refine bind_known (datagram_for_stands _ _ plain (kind_udp.mp kind)) ?_
            rw [if_neg refused]
            rfl
  · exact handle_frame_other binding port registration plain

variable {binding port}

/-- A frame is left alone, consumed, echoed or delivered. -/
theorem handle_frame_cases (verdict : Verdict)
    {good : Dispatch × Option (Udp.Registration Consumer) × Port × Log → Prop}
    (other : ∀ log, ¬(Plain frame ∧ frame.getD 23 0 = 0x01) →
      ¬Udp.ForConsumer binding.interface.ip registration frame →
      good (.notMine, registration, port, log))
    (ignored : ∀ log, Plain frame → frame.getD 23 0 = 0x01 →
      ¬Icmp.Answerable binding.interface frame → good (.icmpIgnored, registration, port, log))
    (echoed : Icmp.Answerable binding.interface frame →
      verdict.Says (binding.interface.emit
        (Icmp.frameHeaders + (Icmp.replyIn frame).payload.length)
        ((Icmp.replyIn frame).buildFrame binding.interface) port) fun answer =>
          good (.echoReplied, registration, answer.2.1, answer.2.2))
    (delivered : ∀ registered, registration = some registered →
      Udp.Reaches binding.interface.ip registered.port frame →
      verdict.Says ((Udp.Handler.onDatagram (Udp.datagramIn frame) registered.consumer).run
        binding port) fun answer =>
          good (.delivered, some { registered with consumer := answer.1 }, answer.2.1,
            answer.2.2)) :
    verdict.Says (handleFrame binding registration frame port) good := by
  by_cases icmp : Plain frame ∧ frame.getD 23 0 = 0x01
  · by_cases answerable : Icmp.Answerable binding.interface frame
    · rw [handle_frame_answerable binding port registration answerable]
      exact verdict.bind (echoed answerable) fun answer holds => verdict.ok holds
    · obtain ⟨log, same⟩ := handle_frame_ignored binding port registration icmp.1 icmp.2 answerable
      rw [same]
      exact verdict.ok (ignored log icmp.1 icmp.2 answerable)
  · by_cases reached : Udp.ForConsumer binding.interface.ip registration frame
    · obtain ⟨registered, rfl, reaches⟩ := reached
      rw [handle_frame_reaching binding port reaches]
      exact verdict.bind (delivered registered rfl reaches) fun answer holds => verdict.ok holds
    · obtain ⟨log, same⟩ := handle_frame_not_mine binding port reached icmp
      rw [same]
      exact verdict.ok (other log icmp reached)

end Ipv4

namespace Link

theorem unframe_returns (interface : Interface) (slot : Bytes) :
    Returns (unframe interface slot) fun unframed =>
      ∀ frame : Bytes, unframed = .ok frame → frame.length ≤ slot.length := by
  unfold unframe
  split
  · split
    · apply Returns.ok
      intro frame same
      cases same
    · next stop checked =>
        obtain ⟨long, inside⟩ := Ethernet.check_framing_inside checked
        rw [Bytes.slice_inside slot _ _ (by omega) (by omega)]
        apply Returns.ok
        intro frame same
        cases same
        rw [List.length_take, List.length_drop]
        omega
  · apply Returns.ok
    intro frame same
    cases same
    exact Nat.le_refl _

theorem length_le_of_unframe {interface : Interface} {slot frame : Bytes}
    (unframed : unframe interface slot = .ok (.ok frame)) : frame.length ≤ slot.length :=
  (unframe_returns interface slot).yields.of_ok unframed frame rfl

variable {Hardware Consumer : Type} [Mac.Device Hardware] [Udp.Handler Consumer]

/-- What is in a slot is dropped, or handled as an ARP frame or an IPv4 frame. -/
theorem dispatch_cases (verdict : Verdict) {slot : Bytes} {link : Link Hardware Consumer}
    {good : Ethernet.FrameClass × Link Hardware Consumer × Log → Prop}
    (dropped : ∀ frameClass log, (∀ frame, unframe link.interface slot = .ok (.ok frame) →
        Ethernet.classify frame ≠ .arp ∧ Ethernet.classify frame ≠ .ipv4) →
      good (frameClass, { link with stats := countDropped link.stats }, log))
    (arp : ∀ frame, unframe link.interface slot = .ok (.ok frame) →
      Ethernet.classify frame = .arp →
      verdict.Says (Arp.handleFrame link.interface link.cache frame link.ring) fun handled =>
        good (.arp, { link with
            cache := handled.2.1
            ring := handled.2.2.1
            stats := (countArp link.stats handled.1).1 },
          handled.2.2.2 ++ (countArp link.stats handled.1).2))
    (ipv4 : ∀ frame, unframe link.interface slot = .ok (.ok frame) →
      Ethernet.classify frame = .ipv4 →
      verdict.Says (Ipv4.handleFrame link.binding link.registration frame link.ring) fun handled =>
        good (.ipv4, { link with
            registration := handled.2.1
            ring := handled.2.2.1
            stats := countIpv4 link.stats handled.1 }, handled.2.2.2)) :
    verdict.Says (link.dispatch slot) good := by
  obtain ⟨unframed, framing, -⟩ := unframe_returns link.interface slot
  unfold dispatch
  rw [framing]
  cases unframed with
  | error cause =>
      refine verdict.ok (dropped _ _ fun frame other => ?_)
      rw [framing] at other
      cases other
  | ok frame =>
      have elsewhere (unlike : Ethernet.classify frame ≠ .arp ∧ Ethernet.classify frame ≠ .ipv4) :
          ∀ other, unframe link.interface slot = .ok (.ok other) →
            Ethernet.classify other ≠ .arp ∧ Ethernet.classify other ≠ .ipv4 := by
        intro other same
        rw [framing] at same
        cases same
        exact unlike
      dsimp only [bind, Except.bind]
      cases frameClass : Ethernet.classify frame with
      | arp =>
          exact verdict.bind (arp frame framing frameClass) fun handled holds => verdict.ok holds
      | ipv4 =>
          exact verdict.bind (ipv4 frame framing frameClass) fun handled holds => verdict.ok holds
      | other => exact verdict.ok (dropped _ _ (elsewhere (by simp [frameClass])))
      | corrupt => exact verdict.ok (dropped _ _ (elsewhere (by simp [frameClass])))

end Link

end InstrumentLink
