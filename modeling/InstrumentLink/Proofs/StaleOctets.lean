import InstrumentLink.Proofs.SimulatedMedium
import InstrumentLink.Proofs.TwinEndpoints
import InstrumentLink.Simulation.Wire

/-!
Nothing that is left in a slot is ever sent.

An operation is carried out on two rings of the same device whose slots hold what they like; where a
payload is sent from its place in the slot, it is the same payload. The same frames go on the wire,
check sequence included, and the same comes of the operation. So no octet of a frame is one that an
earlier frame left in the slot, and no checksum covers such an octet.
-/

set_option autoImplicit false

namespace InstrumentLink

/-- What makes an end of a link send, with all it is given but its binding and its slots. -/
inductive Operation (Consumer : Type) where
  | ask (ip : Ipv4Address)
  | handleArp (frame : Bytes)
  | handleIpv4 (registration : Option (Udp.Registration Consumer)) (frame : Bytes)
  | send (sourcePort destinationPort : UInt16) (length : Nat)
  | sendTo (ip : Ipv4Address) (sourcePort destinationPort : UInt16) (length : Nat)

namespace Operation

inductive Outcome (Consumer : Type) where
  | sent (yes : Bool)
  | arp (outcome : Arp.Outcome) (cache : Arp.PeerCache)
  | ipv4 (dispatch : Ipv4.Dispatch) (registration : Option (Udp.Registration Consumer))

variable {Hardware Consumer : Type} [Mac.Device Hardware] [Udp.Handler Consumer]

def run (binding : Udp.Binding) :
    Operation Consumer → SlotRing Hardware → Except Fault (Outcome Consumer × SlotRing Hardware)
  | .ask ip, ring => do
      let (yes, ring, _) ← Arp.sendRequest binding.interface ip ring
      return (.sent yes, ring)
  | .handleArp frame, ring => do
      let (outcome, cache, ring, _) ← Arp.handleFrame binding.interface binding.cache frame ring
      return (.arp outcome cache, ring)
  | .handleIpv4 registration frame, ring => do
      let (dispatch, registration, ring, _) ← Ipv4.handleFrame binding registration frame ring
      return (.ipv4 dispatch registration, ring)
  | .send sourcePort destinationPort length, ring => do
      let (yes, ring, _) ← binding.send sourcePort destinationPort length ring
      return (.sent yes, ring)
  | .sendTo ip sourcePort destinationPort length, ring => do
      let (yes, ring, _) ← binding.sendTo ip sourcePort destinationPort length ring
      return (.sent yes, ring)

/-- What comes of an operation, and the frames that it puts on the wire. -/
def observe (side : Hardware → Mac.TransmitSide) (binding : Udp.Binding)
    (operation : Operation Consumer) (ring : SlotRing Hardware) :
    Except Fault (Outcome Consumer × List Bytes) := do
  let (outcome, after) ← operation.run binding ring
  return (outcome, (side after.device).sent.drop (side ring.device).sent.length)

/-- The octets that an operation is asked to send stand in both rings. -/
def HandedIn (interface : Interface) (ring other : SlotRing Hardware) :
    Operation Consumer → Prop
  | .send _ _ length | .sendTo _ _ _ length =>
      Udp.handedIn interface length ring = Udp.handedIn interface length other
  | _ => True

end Operation

theorem Alike.map_eq {First Second Answer : Type} {first : Except Fault First}
    {second : Except Fault Second} {answer : First → Answer} {otherAnswer : Second → Answer}
    (alike : Alike (fun one other => answer one = otherAnswer other) first second) :
    (do return answer (← first)) = (do return otherAnswer (← second)) := by
  rcases alike.outcomes with ⟨fault, rfl, rfl⟩ | ⟨one, other, rfl, rfl, same⟩
  · rfl
  · exact congrArg Except.ok same

section Rings

variable {Hardware Space : Type} [Mac.Device Hardware] [Bus Space] {geometry : Mac.SlotGeometry}
  {Good : Hardware → Prop} {side : Hardware → Mac.TransmitSide} {interface : Interface}
  {ring other : SlotRing Hardware}

def SentSame (start otherStart sent otherSent : List Bytes) : Prop :=
  SameSince start otherStart sent otherSent

theorem SlotRing.twin_rings (transmitter : Mac.Transmitter geometry Good side)
    (placed : interface.Placed) (start otherStart : List Bytes) :
    TwinPorts interface interface fun ring other : SlotRing Hardware =>
      Transmitting geometry Good interface.softwareFraming ring ∧
      Transmitting geometry Good interface.softwareFraming other ∧
      SentSame start otherStart (view side ring).sent (view side other).sent := by
  have faithful := faithful_port transmitter interface.softwareFraming
  have prompt := prompt_port transmitter interface
  apply TwinPorts.of_faithful rfl placed placed faithful faithful prompt prompt
  rintro sent otherSent frame ⟨frames, rfl, rfl⟩
  exact ⟨frames ++ [interface.onWire frame], List.append_assoc .., List.append_assoc ..⟩

theorem Operation.run_alike {binding : Udp.Binding}
    {Beside : SlotRing Hardware → SlotRing Hardware → Prop}
    (twins : TwinPorts binding.interface binding.interface Beside)
    (operation : Operation (Etherbone.Endpoint Space)) (beside : Beside ring other)
    (handed : operation.HandedIn binding.interface ring other) :
    Alike (fun answer otherAnswer => answer.1 = otherAnswer.1 ∧ Beside answer.2 otherAnswer.2)
      (operation.run binding ring) (operation.run binding other) := by
  cases operation with
  | ask ip =>
      apply (twins.arp_emit beside .request .broadcast ⟨.zero, ip⟩).bind
      rintro answer otherAnswer ⟨same, beside⟩
      exact Alike.ok ⟨congrArg Outcome.sent same, beside⟩
  | handleArp frame =>
      apply (twins.arp_handle_frame beside binding.cache frame).bind
      rintro answer otherAnswer ⟨outcome, cache, beside⟩
      exact Alike.ok ⟨congrArg₂ Outcome.arp outcome cache, beside⟩
  | handleIpv4 registration frame =>
      apply (twins.handle_frame twins.endpoint_same beside binding.cache
        (Udp.akin_registrations_eq.mpr rfl) frame fun _ _ => Iff.rfl).bind
      rintro answer otherAnswer ⟨dispatch, registration, beside⟩
      exact Alike.ok ⟨congrArg₂ Outcome.ipv4 dispatch (Udp.akin_registrations_eq.mp registration),
        beside⟩
  | send sourcePort destinationPort length =>
      apply (twins.send beside binding.cache sourcePort destinationPort length Iff.rfl
        fun _ => handed).bind
      rintro answer otherAnswer ⟨same, beside⟩
      exact Alike.ok ⟨congrArg Outcome.sent same, beside⟩
  | sendTo ip sourcePort destinationPort length =>
      apply (twins.send_to beside binding.cache ip sourcePort destinationPort length Iff.rfl
        fun _ => handed).bind
      rintro answer otherAnswer ⟨same, beside⟩
      exact Alike.ok ⟨congrArg Outcome.sent same, beside⟩

/-- An operation shows the same outcome and puts the same octets on the wire, whatever an earlier
frame left in the slots. -/
theorem sent_octets_do_not_depend_on_slots (transmitter : Mac.Transmitter geometry Good side)
    (binding : Udp.Binding) (placed : binding.interface.Placed)
    (operation : Operation (Etherbone.Endpoint Space))
    (sound : ring.Transmitting geometry Good binding.interface.softwareFraming)
    (otherSound : other.Transmitting geometry Good binding.interface.softwareFraming)
    (handed : operation.HandedIn binding.interface ring other) :
    operation.observe side binding ring = operation.observe side binding other := by
  let start := (side ring.device).sent
  let otherStart := (side other.device).sent
  have twins := SlotRing.twin_rings transmitter placed start otherStart
  have nothing : SentSame start otherStart start otherStart :=
    ⟨[], (List.append_nil _).symm, (List.append_nil _).symm⟩
  have alike := operation.run_alike twins ⟨sound, otherSound, nothing⟩ handed
  apply Alike.map_eq
  apply alike.mono
  rintro ⟨outcome, after⟩ ⟨otherOutcome, otherAfter⟩ ⟨same, -, -, frames, sent, otherSent⟩
  cases same
  have drop : (side after.device).sent.drop start.length = frames := by
    change (SlotRing.view side after).sent.drop _ = _
    rw [sent, List.drop_left]
  have otherDrop : (side otherAfter.device).sent.drop otherStart.length = frames := by
    change (SlotRing.view side otherAfter).sent.drop _ = _
    rw [otherSent, List.drop_left]
  exact congrArg (outcome, ·) (drop.trans otherDrop.symm)

/-- A greeting is put into a slot that is clear and into one that an earlier frame left full. -/
theorem greeting_sent_over_other_octets :
    let geometry : Mac.SlotGeometry := ⟨1532, 1, 1, by decide, by decide, by decide⟩
    let config : LinkConfig := { hardwareFraming := false }
    let binding : Udp.Binding :=
      ⟨config.interface, ⟨Simulation.Wire.hostIp, Simulation.Wire.hostMac⟩⟩
    let clear : Simulation.SimulatedMac := .ofGeometry geometry
    let full : Simulation.SimulatedMac :=
      { geometry, memory := List.replicate geometry.length 0xa5 }
    let operation : Operation (Etherbone.Endpoint Simulation.RecordingBus) := .send 7642 69 3
    clear.memory ≠ full.memory ∧
    Returns (Udp.storePayload binding.interface 0 [72, 105, 33]
      { device := clear, geometry, softwareFrameCheck := true }) fun ring =>
    Returns (Udp.storePayload binding.interface 0 [72, 105, 33]
      { device := full, geometry, softwareFrameCheck := true }) fun other =>
        operation.observe Simulation.SimulatedMac.side binding ring =
          operation.observe Simulation.SimulatedMac.side binding other ∧
        operation.observe Simulation.SimulatedMac.side binding other = .ok (.sent true,
          [binding.interface.onWire
            (Udp.frame binding.interface binding.cache.station 7642 69 [72, 105, 33])]) := by
  intro geometry config binding clear full operation
  have transmitter : Mac.Transmitter geometry (Simulation.SimulatedMac.Calm geometry 0)
      Simulation.SimulatedMac.side :=
    Simulation.SimulatedMac.transmitter (by decide)
  have faithful := SlotRing.faithful_port transmitter binding.interface.softwareFraming
  have placed := Link.placed_interface config
  have calm : Simulation.SimulatedMac.Calm geometry 0 clear :=
    ⟨rfl, Bytes.length_zeros _, rfl, rfl, by decide, rfl⟩
  have otherCalm : Simulation.SimulatedMac.Calm geometry 0 full :=
    ⟨rfl, List.length_replicate, rfl, rfl, by decide, rfl⟩
  refine ⟨by decide +kernel, ?_⟩
  apply (Udp.handed_in_stored faithful placed [72, 105, 33] _
    ⟨rfl, rfl, geometry.has_tx_slot, calm⟩ (by decide)).mono
  rintro ring ⟨sound, -, handed⟩
  apply (Udp.handed_in_stored faithful placed [72, 105, 33] _
    ⟨rfl, rfl, geometry.has_tx_slot, otherCalm⟩ (by decide)).mono
  rintro other ⟨otherSound, -, otherHanded⟩
  refine ⟨sent_octets_do_not_depend_on_slots transmitter binding placed operation sound otherSound
    (handed.trans otherHanded.symm), ?_⟩
  have prompt := SlotRing.prompt_port transmitter binding.interface
  obtain ⟨⟨yes, after, log⟩, sending, -, sent, willing⟩ :=
    binding.send_sends faithful placed 7642 69 3 other otherSound none
  obtain rfl : yes = true := willing prompt rfl (by decide)
  have frames : (Simulation.SimulatedMac.side after.device).sent =
      (Simulation.SimulatedMac.side other.device).sent ++ [binding.interface.onWire
        (Udp.frame binding.interface binding.cache.station 7642 69 [72, 105, 33])] := by
    have handed : Udp.handedIn binding.interface 3 other = some [72, 105, 33] := otherHanded
    rw [handed] at sent
    rw [← Interface.finish_laid]
    exact sent
  have run : operation.run binding other = .ok (.sent true, after) := bind_known sending rfl
  refine bind_known run (congrArg (fun sent => Except.ok (Operation.Outcome.sent true, sent)) ?_)
  rw [frames, List.drop_left]

end Rings

end InstrumentLink
