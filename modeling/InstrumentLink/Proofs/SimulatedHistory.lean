import InstrumentLink.Proofs.FilmedMac
import InstrumentLink.Proofs.SimulatedTwins
import InstrumentLink.Proofs.WellFormedFrames
import InstrumentLink.Simulation.Harness

/-!
What any history leaves of a simulated MAC.

Frames and reports arrive, peers answer with more octets than a slot has, callers fill the payload
area and send from it, consumers come and go. As long as the link does not stop, its device has the
slots it was made with, its next receive slot is one of them, and its event is raised or not.
-/

set_option autoImplicit false

namespace InstrumentLink

namespace Simulation.SimulatedMac

open Mac (QuietReceiver Transmitter)

variable {geometry : Mac.SlotGeometry} {mac after : SimulatedMac}

theorem Settled.leaves (settled : Settled geometry mac) (leaves : LeavesReceiver mac after) :
    Settled geometry after := by
  refine ⟨leaves.divided.trans settled.divided, leaves.length.trans settled.whole, ?_, ?_⟩
  · rw [leaves.next]
    exact settled.next
  · rw [leaves.pending]
    exact settled.event

theorem Settled.transmitter (named : geometry.txSlots ≤ 4294967296) :
    Transmitter geometry (Settled geometry) side :=
  transmitter_of_leaves named (fun _ settled => settled.divided) (fun _ settled => settled.whole)
    fun _ _ settled leaves => settled.leaves leaves

theorem Settled.receives (settled : Settled geometry mac) :
    Yields mac.receiveNext fun after => Settled geometry after ∧ after.sent = mac.sent := by
  unfold receiveNext
  split
  · exact ⟨settled, rfl⟩
  · split
    · exact ⟨settled, rfl⟩
    · apply (Yields.self _).bind
      intro memory written
      refine ⟨⟨settled.divided, (Bytes.length_overwrite written).trans settled.whole, ?_, .inr rfl⟩,
        rfl⟩
      rw [settled.divided]
      exact Nat.mod_lt _ geometry.has_rx_slot

theorem Settled.changes (settled : Settled geometry mac) (happening : Happening) :
    Yields (happening.change mac) fun after =>
      Settled geometry after ∧ after.sent ⊆ mac.sent := by
  obtain ⟨divided, whole, next, event⟩ := settled
  cases happening with
  | arrival frame =>
      change Yields (mac.inject frame) _
      unfold inject
      split
      · exact ⟨⟨divided, whole, next, event⟩, List.Subset.refl _⟩
      · trivial
  | delay polls | listener peer => exact ⟨⟨divided, whole, next, event⟩, List.Subset.refl _⟩
  | collection => exact ⟨⟨divided, whole, next, event⟩, List.nil_subset _⟩

theorem Settled.quiet : QuietReceiver (Settled geometry) side where
  read := fun register mac settled => by
    cases register with
    | writerEvent =>
        apply settled.receives.bind
        rintro after ⟨settled, same⟩
        exact ⟨settled, congrArg (List.map SentFrame.octets) same⟩
    | writerSlot | writerLength | readerReady | readerSlot | readerLength | readerEvent
    | readerStart =>
        exact ⟨⟨settled.divided, settled.whole, settled.next, settled.event⟩, rfl⟩
  clears := by
    rintro register mac (rfl | rfl) settled
    · exact Returns.ok ⟨⟨settled.divided, settled.whole, settled.next, .inl settled.cleared⟩, rfl⟩
    · exact Returns.ok ⟨⟨settled.divided, settled.whole, settled.next, settled.event⟩, rfl⟩

end Simulation.SimulatedMac

namespace Link

open Simulation (Happening SimulatedLink SimulatedMac)

inductive Deed (Consumer : Type) where
  | start
  | service
  | resolve (ip : Ipv4Address)
  | send (sourcePort destinationPort : UInt16) (length : Nat)
  | sendTo (ip : Ipv4Address) (sourcePort destinationPort : UInt16) (length : Nat)
  | fill (offset : Nat) (patch : Bytes)
  | register (port : UInt16) (consumer : Consumer)
  | unregister
  | outside (happening : Happening)
  /-- The device reports whatever it likes. -/
  | report (slot length : UInt32)

variable {Consumer : Type} [Udp.Handler Consumer]

def Deed.perform (link : Link SimulatedMac Consumer) :
    Deed Consumer → Except Fault (Link SimulatedMac Consumer)
  | .start => do return (← link.start).1
  | .service => do return (← link.service).2.1
  | .resolve ip => do return (← link.resolve ip).2.1
  | .send sourcePort destinationPort length => do
      return (← link.send sourcePort destinationPort length).2.1
  | .sendTo ip sourcePort destinationPort length => do
      return (← link.sendTo ip sourcePort destinationPort length).2.1
  | .fill offset patch => link.storePayload offset patch
  | .register port consumer => return (link.register port consumer).1
  | .unregister => return link.unregister.2
  | .outside happening => do
      return { link with ring := { link.ring with device := ← happening.change link.ring.device } }
  | .report slot length =>
      return SimulatedLink.mapDevice (fun device => device.injectReport slot length) link

/-- A link of a configuration on a simulated MAC, after a history that did not stop it. -/
def Lived (config : LinkConfig) (geometry : Mac.SlotGeometry) (history : List (Deed Consumer))
    (link : Link SimulatedMac Consumer) : Prop :=
  ∃ created, Link.create (.ofGeometry geometry) geometry config = .ok created ∧
    history.foldlM Deed.perform created = .ok link

abbrev Settled (config : LinkConfig) (geometry : Mac.SlotGeometry)
    (link : Link SimulatedMac Consumer) : Prop :=
  Proper config geometry (SimulatedMac.Settled geometry) SimulatedMac.side link

variable {config : LinkConfig} {geometry : Mac.SlotGeometry} {link : Link SimulatedMac Consumer}

omit [Udp.Handler Consumer] in
theorem Settled.of_create
    (created : Link.create (.ofGeometry geometry) geometry config = .ok link) :
    Settled config geometry link := by
  obtain ⟨-, rfl⟩ := Link.of_create created
  exact ⟨rfl, ⟨rfl, config.software_framing_eq.symm, geometry.has_tx_slot, rfl,
    Bytes.length_zeros _, geometry.has_rx_slot, .inl rfl⟩, List.forall_mem_nil _⟩

theorem Settled.happens (settled : Settled config geometry link) (happening : Happening) :
    Yields (Deed.perform link (.outside happening)) (Settled config geometry) := by
  obtain ⟨configured, ⟨divided, framing, slot, good⟩, formed⟩ := settled
  apply (good.changes happening).bind
  rintro mac ⟨good, fewer⟩
  have sent : mac.side.sent ⊆ link.ring.device.side.sent := List.map_subset _ fewer
  exact ⟨configured, ⟨divided, framing, slot, good⟩, fun octets member => formed octets (sent member)⟩

theorem Settled.perform_yields (named : geometry.txSlots ≤ 4294967296)
    (settled : Settled config geometry link) (deed : Deed Consumer) :
    Yields (deed.perform link) (Settled config geometry) := by
  have transmitter : Mac.Transmitter geometry (SimulatedMac.Settled geometry) SimulatedMac.side :=
    SimulatedMac.Settled.transmitter named
  have quiet : Mac.QuietReceiver (SimulatedMac.Settled geometry) SimulatedMac.side :=
    SimulatedMac.Settled.quiet
  cases deed with
  | start =>
      exact (start_transmits transmitter quiet settled.up).bind
        fun answer transmits => settled.of_transmits transmits
  | service => exact (settled.service_yields transmitter quiet).bind fun answer kept => kept
  | resolve ip => exact (settled.resolve_yields transmitter quiet ip).bind fun answer kept => kept
  | send sourcePort destinationPort length =>
      exact (send_transmits transmitter settled.up sourcePort destinationPort length).bind
        fun answer transmits => settled.of_transmits transmits
  | sendTo ip sourcePort destinationPort length =>
      exact (send_to_transmits transmitter settled.up ip sourcePort destinationPort length).bind
        fun answer transmits => settled.of_transmits transmits
  | fill offset patch =>
      exact (store_payload_transmits transmitter settled.up offset patch).mono
        fun after transmits => settled.of_transmits transmits
  | register port consumer => exact ⟨settled.configured, settled.up, settled.formed⟩
  | unregister => exact ⟨settled.configured, settled.up, settled.formed⟩
  | outside happening => exact settled.happens happening
  | report slot length =>
      have good := settled.up.good
      exact ⟨settled.configured, ⟨settled.up.divided, settled.up.framing, settled.up.slot,
        good.divided, good.whole, good.next, .inr rfl⟩, settled.formed⟩

theorem Settled.perform_all_yields (named : geometry.txSlots ≤ 4294967296)
    (settled : Settled config geometry link) (history : List (Deed Consumer)) :
    Yields (history.foldlM Deed.perform link) (Settled config geometry) := by
  induction history generalizing link with
  | nil => exact settled
  | cons deed history induction =>
      rw [List.foldlM_cons]
      exact (settled.perform_yields named deed).bind fun next kept => induction kept

theorem Lived.goes_on {history : List (Deed Consumer)} {deed : Deed Consumer}
    {after : Link SimulatedMac Consumer} (lived : Lived config geometry history link)
    (performed : deed.perform link = .ok after) :
    Lived config geometry (history ++ [deed]) after := by
  obtain ⟨created, fresh, before⟩ := lived
  refine ⟨created, fresh, ?_⟩
  rw [List.foldlM_append]
  exact bind_known before (bind_known performed rfl)

theorem Lived.settled (named : geometry.txSlots ≤ 4294967296) {history : List (Deed Consumer)}
    (lived : Lived config geometry history link) : Settled config geometry link := by
  obtain ⟨created, fresh, performed⟩ := lived
  exact ((Settled.of_create fresh).perform_all_yields named history).of_ok performed

end Link

end InstrumentLink
