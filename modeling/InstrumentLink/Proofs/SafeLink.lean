import InstrumentLink.Link
import InstrumentLink.Proofs.FrameSafety

/-!
A link on a safe ring.

What a link does with its ring is safe if the ring is a safe port: it stores in the payload area,
sends, asks for its peer, and handles a frame, with a consumer that does not stop it. Where it also
services what is reported, it looks for its peer. What has to hold of the ring depends on the device,
and stands open here.
-/

set_option autoImplicit false

namespace InstrumentLink.Link

variable {Hardware Consumer : Type} [Mac.Device Hardware]

theorem placed_interface (config : LinkConfig) : config.interface.Placed := by
  unfold LinkConfig.interface Interface.Placed
  cases config.hardwareFraming with
  | true => exact .inl rfl
  | false => exact .inr rfl

/-- The configuration of a link stays, its ring is sound, and so is its consumer. -/
structure OnSafeRing (config : LinkConfig) (Ring : SlotRing Hardware → Prop)
    (Safe : Consumer → Prop) (link : Link Hardware Consumer) : Prop where
  configured : link.config = config
  ring : Ring link.ring
  registered : Udp.SafelyRegistered Safe link.registration

namespace OnSafeRing

variable {config : LinkConfig} {Ring : SlotRing Hardware → Prop} {Safe : Consumer → Prop}
  {link : Link Hardware Consumer}

omit [Mac.Device Hardware] in
theorem placed (sound : OnSafeRing config Ring Safe link) : link.interface.Placed := by
  rw [interface, sound.configured]
  exact placed_interface config

variable (safe : SafePort Ring)

include safe

theorem store_payload_returns (sound : OnSafeRing config Ring Safe link) (offset : Nat)
    (patch : Bytes) (inside : offset + patch.length ≤ Udp.payloadRoom config.interface) :
    Returns (link.storePayload offset patch) (OnSafeRing config Ring Safe) := by
  unfold storePayload
  rw [← sound.configured] at inside
  apply (Udp.store_payload_returns safe sound.placed offset patch _ sound.ring inside).bind
  intro ring stored
  exact Returns.ok ⟨sound.configured, stored, sound.registered⟩

theorem send_returns (sound : OnSafeRing config Ring Safe link)
    (sourcePort destinationPort : UInt16) (length : Nat) :
    Returns (link.send sourcePort destinationPort length) fun answer =>
      OnSafeRing config Ring Safe answer.2.1 := by
  unfold send
  apply (Udp.Binding.send_returns safe link.binding sound.placed sourcePort destinationPort length
    _ sound.ring).bind
  intro answer ring
  exact Returns.ok ⟨sound.configured, ring, sound.registered⟩

theorem send_to_returns (sound : OnSafeRing config Ring Safe link) (ip : Ipv4Address)
    (sourcePort destinationPort : UInt16) (length : Nat) :
    Returns (link.sendTo ip sourcePort destinationPort length) fun answer =>
      OnSafeRing config Ring Safe answer.2.1 := by
  unfold sendTo
  apply (Udp.Binding.send_to_returns safe link.binding sound.placed ip sourcePort destinationPort
    length _ sound.ring).bind
  intro answer ring
  exact Returns.ok ⟨sound.configured, ring, sound.registered⟩

theorem ask_returns (sound : OnSafeRing config Ring Safe link) (ip : Ipv4Address) :
    Returns (link.ask ip) fun answer => OnSafeRing config Ring Safe answer.1 := by
  unfold ask Arp.sendRequest
  apply (Arp.send_returns safe sound.placed .request .broadcast ⟨.zero, ip⟩ link.ring
    sound.ring).bind
  intro answer ring
  exact Returns.ok ⟨sound.configured, ring, sound.registered⟩

variable [Udp.Handler Consumer] {longest : Nat}
  (handler : Udp.SafeHandler (Udp.payloadRoom config.interface) longest Safe)

include handler

omit safe in
theorem start_returns (sound : OnSafeRing config Ring Safe link)
    (starts : Returns link.ring.start Ring) :
    Returns link.start fun answer => OnSafeRing config Ring Safe answer.1 := by
  unfold start
  apply starts.bind
  intro ring started
  refine Returns.ok ⟨sound.configured, started, ?_⟩
  intro registered member
  obtain ⟨before, held, rfl⟩ := Option.map_eq_some_iff.mp member
  exact handler.reset before.consumer (sound.registered before held)

theorem dispatch_returns (sound : OnSafeRing config Ring Safe link) (slot : Bytes)
    (fits : slot.length ≤ Udp.frameHeaders + longest) :
    Returns (link.dispatch slot) fun answer => OnSafeRing config Ring Safe answer.2.1 := by
  apply dispatch_cases .returns
  case dropped => exact fun _ _ _ => ⟨sound.configured, sound.ring, sound.registered⟩
  case arp =>
    intro frame _ _
    apply (Arp.handle_frame_returns safe sound.placed link.cache frame link.ring sound.ring).mono
    exact fun _ ring => ⟨sound.configured, ring, sound.registered⟩
  case ipv4 =>
    intro frame unframed _
    have here : Udp.SafeHandler (Udp.payloadRoom link.interface) longest Safe := by
      rw [interface, sound.configured]
      exact handler
    have short := Nat.le_trans (length_le_of_unframe unframed) fits
    apply (Ipv4.handle_frame_returns safe link.binding sound.placed here link.registration
      sound.registered frame link.ring sound.ring short).mono
    exact fun _ kept => ⟨sound.configured, kept.2, kept.1⟩

omit handler

variable (services : ∀ link : Link Hardware Consumer, OnSafeRing config Ring Safe link →
    Returns link.service fun answer => OnSafeRing config Ring Safe answer.2.1)

include services

omit safe in
theorem await_peer_returns (sound : OnSafeRing config Ring Safe link) (polls : Nat) (log : Log) :
    Returns (awaitPeer polls log link) fun answer => OnSafeRing config Ring Safe answer.2.1 := by
  induction polls generalizing log link with
  | zero => exact Returns.ok sound
  | succ polls induction =>
      unfold awaitPeer
      apply (services link sound).bind
      intro answer serviced
      dsimp only
      split
      · exact Returns.ok serviced
      · exact induction serviced _

theorem attempts_return (sound : OnSafeRing config Ring Safe link) (ip : Ipv4Address)
    (attempt left : Nat) :
    Returns (attempts ip attempt left link) fun answer =>
      OnSafeRing config Ring Safe answer.2.1 := by
  induction left generalizing attempt link with
  | zero => exact Returns.ok sound
  | succ left induction =>
      unfold attempts
      apply (sound.ask_returns safe ip).bind
      intro answer asked
      apply (asked.await_peer_returns services _ []).bind
      intro answer waited
      dsimp only
      split
      · exact Returns.ok waited
      · apply (induction waited (attempt + 1)).bind
        intro answer tried
        exact Returns.ok tried

theorem resolve_returns (sound : OnSafeRing config Ring Safe link) (ip : Ipv4Address) :
    Returns (link.resolve ip) fun answer => OnSafeRing config Ring Safe answer.2.1 := by
  unfold resolve
  split
  · exact Returns.ok sound
  · have aimed : OnSafeRing config Ring Safe { link with cache := .target ip } :=
      ⟨sound.configured, sound.ring, sound.registered⟩
    exact aimed.attempts_return safe services ip 1 _

end OnSafeRing

end InstrumentLink.Link
