import InstrumentLink.Proofs.FrameAccounts
import InstrumentLink.Proofs.FrameCounts
import InstrumentLink.Proofs.HistorySteps

/-!
What the statistics of a link say.

Every frame that a link services goes to one account, and the statistics are what these accounts
come to. The counter of transmitted frames is the number of frames on the wire: the answers and the
echoes that were counted, the questions for a peer, and the datagrams of which somebody was told
that they were sent.
-/

set_option autoImplicit false

namespace InstrumentLink

def LinkStats.receive (stats : LinkStats) (account : Account) : LinkStats :=
  { stats with rxFrames := stats.rxFrames + 1 }.book account

/-- What some accounts come to in counters of 32 bits. -/
def LinkStats.ofAccounts (accounts : List Account) : LinkStats where
  rxFrames := UInt32.ofNat accounts.length
  dropped := UInt32.ofNat (accounts.count .dropped)
  arpAnswered := UInt32.ofNat (accounts.count .arpAnswered)
  arpLearned := UInt32.ofNat (accounts.count .arpLearned)
  icmpEchoes := UInt32.ofNat (accounts.count .icmpEchoed)
  udpDelivered := UInt32.ofNat (accounts.count .udpDelivered)

theorem LinkStats.receive_all (accounts : List Account) :
    accounts.foldl receive {} = ofAccounts accounts := by
  induction accounts using List.reverseRecOn with
  | nil => rfl
  | append_singleton accounts account induction =>
      rw [List.foldl_append, induction]
      cases account <;> simp [receive, book, ofAccounts, UInt32.ofNat_add]

theorem Account.length_eq_counts (accounts : List Account) :
    accounts.length = accounts.count .dropped + accounts.count .arpAnswered +
      accounts.count .arpLearned + accounts.count .icmpEchoed + accounts.count .udpDelivered +
      accounts.count .icmpConsumed := by
  induction accounts with
  | nil => rfl
  | cons account accounts induction =>
      rw [List.length_cons, induction]
      cases account <;> simp <;> omega

namespace Link

def holdsIcmp (interface : Interface) (slot : Bytes) : Bool :=
  match unframe interface slot with
  | .ok (.ok frame) => Ethernet.classify frame = .ipv4 ∧ Ipv4.carried frame = some .icmp
  | _ => false

theorem holds_icmp_of_frame {interface : Interface} {slot frame : Bytes}
    (unframed : unframe interface slot = .ok (.ok frame)) :
    holdsIcmp interface slot =
      decide (Ethernet.classify frame = .ipv4 ∧ Ipv4.carried frame = some .icmp) := by
  rw [holdsIcmp, unframed]

theorem holds_icmp_of_silent {interface : Interface} {slot : Bytes}
    (silent : ∀ frame, unframe interface slot = .ok (.ok frame) →
      Ethernet.classify frame ≠ .ipv4) : holdsIcmp interface slot = false := by
  unfold holdsIcmp
  split
  · next frame unframed => exact decide_eq_false fun holds => silent frame unframed holds.1
  · rfl

section Handling

variable {Hardware Consumer : Type} [Mac.Device Hardware]
  {geometry : Mac.SlotGeometry} {Good : Hardware → Prop} {side : Hardware → Mac.TransmitSide}
  {config : LinkConfig} {link : Link Hardware (Udp.Noted Consumer)}

/-- The invariant of a link: its configuration stays, and its ring has counted what it sent. -/
structure Counted (config : LinkConfig) (geometry : Mac.SlotGeometry) (Good : Hardware → Prop)
    (side : Hardware → Mac.TransmitSide) (link : Link Hardware (Udp.Noted Consumer)) : Prop where
  configured : link.config = config
  ring : SlotRing.Counting geometry Good side config.interface.softwareFraming link.ring

abbrev LinkSends (config : LinkConfig) (geometry : Mac.SlotGeometry) (Good : Hardware → Prop)
    (side : Hardware → Mac.TransmitSide) (link : Link Hardware (Udp.Noted Consumer))
    (sendings : List Sending) (after : Link Hardware (Udp.Noted Consumer)) : Prop :=
  Sends config.interface
    (SlotRing.Counting geometry Good side config.interface.softwareFraming) (SlotRing.view side)
    link.ring sendings after.ring

/-- What a link became by handling a frame of an account. -/
abbrev LinkSettles (config : LinkConfig) (geometry : Mac.SlotGeometry) (Good : Hardware → Prop)
    (side : Hardware → Mac.TransmitSide) (link : Link Hardware (Udp.Noted Consumer))
    (account : Account) (after : Link Hardware (Udp.Noted Consumer)) : Prop :=
  account.Settles config.interface
    (SlotRing.Counting geometry Good side config.interface.softwareFraming) (SlotRing.view side)
    link.registration after.registration link.ring after.ring

variable (transmitter : Mac.Transmitter geometry Good side)

include transmitter

theorem ask_questions (counted : Counted config geometry Good side link) (ip : Ipv4Address) :
    Yields (link.ask ip) fun answer => answer.1.config = config ∧
      answer.1.stats = link.stats ∧
      LinkSends config geometry Good side link [.question] answer.1 := by
  obtain ⟨rfl, sound⟩ := counted
  unfold ask Arp.sendRequest
  apply (Arp.emit_one (SlotRing.counting_port transmitter _)
    (SlotRing.counting_prompt transmitter link.config.interface) (placed_interface _) .request
    .broadcast ⟨.zero, ip⟩ sound).yields.bind
  intro answer sends
  exact ⟨rfl, rfl, sends⟩

theorem send_sends_one (counted : Counted config geometry Good side link)
    (sourcePort destinationPort : UInt16) (length : Nat) :
    Yields (link.send sourcePort destinationPort length) fun answer =>
      answer.2.1.config = config ∧ answer.2.1.stats = link.stats ∧
      LinkSends config geometry Good side link (Udp.datagrams [⟨none, answer.1⟩]) answer.2.1 := by
  obtain ⟨rfl, sound⟩ := counted
  unfold send
  apply (link.binding.send_one (SlotRing.counting_port transmitter _)
    (placed_interface _) sourcePort destinationPort length sound none).bind
  intro answer sends
  exact ⟨rfl, rfl, sends⟩

theorem send_to_sends_one (counted : Counted config geometry Good side link) (ip : Ipv4Address)
    (sourcePort destinationPort : UInt16) (length : Nat) :
    Yields (link.sendTo ip sourcePort destinationPort length) fun answer =>
      answer.2.1.config = config ∧ answer.2.1.stats = link.stats ∧
      LinkSends config geometry Good side link (Udp.datagrams [⟨some ip, answer.1⟩])
        answer.2.1 := by
  obtain ⟨rfl, sound⟩ := counted
  unfold sendTo
  apply (link.binding.send_to_one (SlotRing.counting_port transmitter _)
    (placed_interface _) ip sourcePort destinationPort length sound).bind
  intro answer sends
  exact ⟨rfl, rfl, sends⟩

theorem store_payload_sends_none (counted : Counted config geometry Good side link) (offset : Nat)
    (patch : Bytes) :
    Yields (link.storePayload offset patch) fun after =>
      after.config = config ∧ after.stats = link.stats ∧
      LinkSends config geometry Good side link [] after := by
  obtain ⟨rfl, sound⟩ := counted
  unfold storePayload
  apply (Udp.store_payload_keeps (SlotRing.counting_port transmitter _) (placed_interface _) offset
    patch link.ring sound).bind
  rintro ring ⟨sound, same⟩
  exact ⟨rfl, rfl, .nothing sound same⟩

variable [Udp.Handler Consumer]

/-- A frame that is dispatched goes to an account, which is one of ICMP exactly for ICMP
messages. -/
theorem dispatch_settles (counted : Counted config geometry Good side link) (slot : Bytes) :
    Yields (link.dispatch slot) fun dispatched => dispatched.2.1.config = config ∧
      ∃ account, account.isIcmp = holdsIcmp config.interface slot ∧
        dispatched.2.1.stats = link.stats.book account ∧
        LinkSettles config geometry Good side link account dispatched.2.1 := by
  obtain ⟨rfl, sound⟩ := counted
  have faithful := SlotRing.counting_port transmitter link.config.interface.softwareFraming
  have prompt := SlotRing.counting_prompt transmitter link.config.interface
  have placed := placed_interface link.config
  have dropped : LinkSettles link.config geometry Good side link .dropped
      { link with stats := countDropped link.stats } := .of_sends (.nothing sound rfl)
  apply dispatch_cases .yields
  case dropped =>
    intro frameClass log other
    refine ⟨rfl, .dropped, ?_, rfl, dropped⟩
    exact (holds_icmp_of_silent fun frame unframed => (other frame unframed).2).symm
  case arp =>
    intro frame unframed arp
    apply (Arp.handle_frame_sends faithful prompt placed link.cache frame sound).mono
    rintro ⟨outcome, cache, ring, log⟩ sends
    refine ⟨rfl, .ofArp outcome, ?_, count_arp_books _ _, .of_sends sends⟩
    rw [interface] at unframed
    rw [holds_icmp_of_frame unframed]
    cases outcome <;> simp [Account.ofArp, Account.isIcmp, arp]
  case ipv4 =>
    intro frame unframed ipv4
    apply (Ipv4.handle_frame_settles link.binding faithful placed link.registration
      prompt frame sound).mono
    rintro ⟨handled, registration, ring, log⟩ ⟨icmp, settles⟩
    refine ⟨rfl, .ofIpv4 handled, ?_, count_ipv4_books _ _, settles⟩
    rw [interface] at unframed
    rw [holds_icmp_of_frame unframed]
    simp [icmp, ipv4]

variable (quiet : Mac.QuietReceiver Good side)

include quiet

theorem start_sends_none (counted : Counted config geometry Good side link) :
    Yields link.start fun answer => answer.1.config = config ∧
      answer.1.stats = link.stats ∧ LinkSends config geometry Good side link [] answer.1 := by
  obtain ⟨rfl, sound⟩ := counted
  unfold start
  apply ((sound.up.starts transmitter.toSender quiet.clears).and link.ring.start_counts).yields.bind
  rintro ring ⟨⟨up, sent⟩, same⟩
  exact ⟨rfl, rfl, .nothing (sound.keeps up sent same) sent⟩

omit transmitter in
theorem Counted.service_cases (counted : Counted config geometry Good side link)
    {good : Option Ethernet.FrameClass × Link Hardware (Udp.Noted Consumer) × Log → Prop}
    (idle : ∀ ring log, link.serviceEvent = .other →
      Counted config geometry Good side { link with ring } →
      (SlotRing.view side ring).sent = (SlotRing.view side link.ring).sent →
        good (none, { link with ring }, log))
    (frame : ∀ ring log slot, link.serviceEvent = .received slot →
      Counted config geometry Good side
        { link with ring, stats.rxFrames := link.stats.rxFrames + 1 } →
      (SlotRing.view side ring).sent = (SlotRing.view side link.ring).sent →
        Yields ({ link with ring, stats.rxFrames := link.stats.rxFrames + 1 }.dispatch slot)
          fun dispatched => Counted config geometry Good side dispatched.2.1 ∧
            ∀ released, Counted config geometry Good side
                { dispatched.2.1 with ring := released } →
              (SlotRing.view side released).sent =
                (SlotRing.view side dispatched.2.1.ring).sent →
              good (some dispatched.1, { dispatched.2.1 with ring := released },
                log ++ dispatched.2.2)) :
    Yields link.service good := by
  obtain ⟨configured, sound⟩ := counted
  have polls := (sound.up.poll_receive_keeps quiet).and link.ring.poll_receive_counts
  apply Link.service_cases
  · intro ring log polled event
    obtain ⟨⟨up, sent⟩, same⟩ := polls.of_ok polled
    exact idle ring log event ⟨configured, sound.keeps up sent same⟩ sent
  · intro received ring log slot polled event
    obtain ⟨⟨up, sent⟩, same⟩ := polls.of_ok polled
    apply (frame ring log slot event ⟨configured, sound.keeps up sent same⟩ sent).mono
    intro dispatched kept released done
    obtain ⟨⟨configured, sound⟩, holds⟩ := kept
    obtain ⟨⟨up, sent⟩, same⟩ :=
      ((sound.up.acknowledge_keeps quiet).and dispatched.2.1.ring.acknowledge_counts).of_ok done
    exact holds released ⟨configured, sound.keeps up sent same⟩ sent

theorem service_settles (counted : Counted config geometry Good side link) :
    Yields link.service fun serviced => serviced.2.1.config = config ∧
      match link.serviceEvent with
      | .received slot => ∃ account, account.isIcmp = holdsIcmp config.interface slot ∧
          serviced.2.1.stats = link.stats.receive account ∧
          LinkSettles config geometry Good side link account serviced.2.1
      | _ => serviced.2.1.stats = link.stats ∧
          serviced.2.1.registration = link.registration ∧
          LinkSends config geometry Good side link [] serviced.2.1 := by
  apply counted.service_cases quiet
  · intro ring log event kept sent
    rw [event]
    exact ⟨kept.configured, rfl, rfl, .nothing kept.ring sent⟩
  · intro ring log slot event polled sent
    rw [event]
    apply (dispatch_settles transmitter polled slot).mono
    rintro ⟨frameClass, handled, log⟩ ⟨configured, account, icmp, stats, settles⟩
    obtain ⟨more, noted, others, sends⟩ := settles
    refine ⟨⟨configured, sends.1⟩, fun released kept same =>
      ⟨kept.configured, account, icmp, stats, ?_⟩⟩
    exact Account.Settles.between ⟨more, noted, others, sends⟩ sent kept.ring same

end Handling

end Link

end InstrumentLink
