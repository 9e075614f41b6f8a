import InstrumentLink.Proofs.SafeLink
import InstrumentLink.Proofs.SafeRing
import InstrumentLink.Simulation.Consumer

/-!
A link never stops by itself.

On a device that may report and store what it likes, with a consumer that does not stop the link and
callers that stay inside the payload area, every operation of a link comes to its end, in any order
and any number. The invariant is the one of the slot ring, so the device was only ever started on
slots that exist and lengths that fit them, and only frames inside their slots were looked at.
-/

set_option autoImplicit false

namespace InstrumentLink.Link

open Mac (LawfulDevice Watched)

variable {Hardware Consumer : Type} [Mac.Device Hardware]

/-- The invariant of a link: its configuration stays, its ring is sound, and so is its consumer. -/
structure Sound (config : LinkConfig) (geometry : Mac.SlotGeometry) (Safe : Consumer → Prop)
    (link : Link (Watched Hardware) Consumer) : Prop where
  configured : link.config = config
  ring : SlotRing.Sound geometry link.ring
  registered : Udp.SafelyRegistered Safe link.registration

variable {config : LinkConfig} {geometry : Mac.SlotGeometry} {Safe : Consumer → Prop}
  {link : Link (Watched Hardware) Consumer}

theorem Sound.on_safe_ring (sound : Sound config geometry Safe link) :
    OnSafeRing config (SlotRing.Sound geometry) Safe link :=
  ⟨sound.configured, sound.ring, sound.registered⟩

theorem OnSafeRing.sound
    (sound : OnSafeRing config (SlotRing.Sound geometry) Safe link) :
    Sound config geometry Safe link :=
  ⟨sound.configured, sound.ring, sound.registered⟩

omit [Mac.Device Hardware] in
theorem of_create {device : Hardware} {link : Link Hardware Consumer}
    (created : Link.create device geometry config = .ok link) :
    config.validate = .ok () ∧ link =
      { config, ring := { device, geometry, softwareFrameCheck := !config.hardwareFraming } } := by
  unfold Link.create at created
  cases valid : config.validate with
  | error refusal =>
      rw [valid] at created
      cases created
  | ok accepted =>
      rw [valid] at created
      cases created
      exact ⟨rfl, rfl⟩

theorem sound_of_create (config : LinkConfig) (geometry : Mac.SlotGeometry)
    (Safe : Consumer → Prop) {device : Hardware} {link : Link (Watched Hardware) Consumer}
    (whole : (Mac.memory device).length = geometry.length)
    (created : Link.create ⟨device, {}⟩ geometry config = .ok link) :
    Sound config geometry Safe link := by
  obtain ⟨-, rfl⟩ := of_create created
  refine ⟨rfl, ⟨rfl, whole, geometry.has_tx_slot, ?_⟩, ?_⟩
  · intro start member
    cases member
  · intro registered member
    cases member

variable [LawfulDevice Hardware]

theorem Sound.store_payload_returns (sound : Sound config geometry Safe link) (offset : Nat)
    (patch : Bytes) (inside : offset + patch.length ≤ Udp.payloadRoom config.interface) :
    Returns (link.storePayload offset patch) (Sound config geometry Safe) :=
  (sound.on_safe_ring.store_payload_returns (SlotRing.safe_port geometry) offset patch inside).mono
    fun _ stored => stored.sound

theorem Sound.send_returns (sound : Sound config geometry Safe link)
    (sourcePort destinationPort : UInt16) (length : Nat) :
    Returns (link.send sourcePort destinationPort length) fun answer =>
      Sound config geometry Safe answer.2.1 :=
  (sound.on_safe_ring.send_returns (SlotRing.safe_port geometry) sourcePort destinationPort
    length).mono fun _ sent => sent.sound

theorem Sound.send_to_returns (sound : Sound config geometry Safe link) (ip : Ipv4Address)
    (sourcePort destinationPort : UInt16) (length : Nat) :
    Returns (link.sendTo ip sourcePort destinationPort length) fun answer =>
      Sound config geometry Safe answer.2.1 :=
  (sound.on_safe_ring.send_to_returns (SlotRing.safe_port geometry) ip sourcePort destinationPort
    length).mono fun _ sent => sent.sound

variable [Udp.Handler Consumer]

def longestDatagram (geometry : Mac.SlotGeometry) : Nat := geometry.slotSize - Udp.frameHeaders

/-- The consumers that fulfil `Safe` do not stop a link of a configuration. -/
abbrev SafeConsumer (config : LinkConfig) (geometry : Mac.SlotGeometry) (Safe : Consumer → Prop) :
    Prop :=
  Udp.SafeHandler (Udp.payloadRoom config.interface) (longestDatagram geometry) Safe

theorem Sound.start_returns (handler : SafeConsumer config geometry Safe)
    (sound : Sound config geometry Safe link) :
    Returns link.start fun answer => Sound config geometry Safe answer.1 :=
  (sound.on_safe_ring.start_returns handler sound.ring.start_returns).mono
    fun _ started => started.sound

theorem Sound.dispatch_returns (handler : SafeConsumer config geometry Safe)
    (sound : Sound config geometry Safe link) (slot : Bytes)
    (fits : slot.length ≤ geometry.slotSize) :
    Returns (link.dispatch slot) fun answer => Sound config geometry Safe answer.2.1 := by
  have carried : slot.length ≤ Udp.frameHeaders + longestDatagram geometry := by
    unfold longestDatagram
    omega
  exact (sound.on_safe_ring.dispatch_returns (SlotRing.safe_port geometry) handler slot
    carried).mono fun _ dispatched => dispatched.sound

/-- On a sound ring a call of `service` finds nothing, or a frame no longer than its slot. If the
frame is dispatched, the call returns. -/
theorem service_returns_cases (sound : SlotRing.Sound geometry link.ring)
    {good : Option Ethernet.FrameClass × Link (Watched Hardware) Consumer × Log → Prop}
    (idle : ∀ ring log, SlotRing.Sound geometry ring → good (none, { link with ring }, log))
    (frame : ∀ received ring log slot, link.ring.pollReceive = .ok (some received, ring, log) →
      ring.receivedFrame received = .ok slot → slot.length ≤ geometry.slotSize →
      SlotRing.Sound geometry ring →
      Returns ({ link with ring, stats.rxFrames := link.stats.rxFrames + 1 }.dispatch slot)
        fun dispatched => SlotRing.Sound geometry dispatched.2.1.ring ∧
          ∀ released, SlotRing.Sound geometry released →
            good (some dispatched.1, { dispatched.2.1 with ring := released },
              log ++ dispatched.2.2)) :
    Returns link.service good := by
  obtain ⟨⟨received, ring, log⟩, polled, ringSound, inside⟩ := sound.poll_receive_returns
  unfold service
  apply Returns.bind_ok polled
  cases received with
  | none => exact Returns.ok (idle ring log ringSound)
  | some received =>
      have held := inside received rfl
      obtain ⟨slot, taken, length⟩ := ringSound.received_frame_returns received held
      apply Returns.bind_ok taken
      apply (frame received ring log slot polled taken (by rw [length]; exact held.2)
        ringSound).bind
      rintro dispatched ⟨after, holds⟩
      apply after.acknowledge_returns.bind
      intro released releasedSound
      exact Returns.ok (holds released releasedSound)

theorem Sound.service_returns (handler : SafeConsumer config geometry Safe)
    (sound : Sound config geometry Safe link) :
    Returns link.service fun answer => Sound config geometry Safe answer.2.1 := by
  apply service_returns_cases sound.ring
  · exact fun ring log ringSound => ⟨sound.configured, ringSound, sound.registered⟩
  · intro received ring log slot _ _ fits ringSound
    have counted : Sound config geometry Safe
        { link with ring, stats.rxFrames := link.stats.rxFrames + 1 } :=
      ⟨sound.configured, ringSound, sound.registered⟩
    apply (counted.dispatch_returns handler slot fits).mono
    exact fun dispatched after => ⟨after.ring, fun released ringSound =>
      ⟨after.configured, ringSound, after.registered⟩⟩

theorem Sound.resolve_returns (handler : SafeConsumer config geometry Safe) (ip : Ipv4Address)
    (sound : Sound config geometry Safe link) :
    Returns (link.resolve ip) fun answer => Sound config geometry Safe answer.2.1 := by
  have services : ∀ link : Link (Watched Hardware) Consumer,
      OnSafeRing config (SlotRing.Sound geometry) Safe link → Returns link.service fun answer =>
        OnSafeRing config (SlotRing.Sound geometry) Safe answer.2.1 :=
    fun link ready => (ready.sound.service_returns handler).mono fun _ serviced =>
      serviced.on_safe_ring
  exact (sound.on_safe_ring.resolve_returns (SlotRing.safe_port geometry) services ip).mono
    fun _ resolved => resolved.sound

inductive Action (Hardware Consumer : Type) where
  | start
  | service
  | resolve (ip : Ipv4Address)
  | send (sourcePort destinationPort : UInt16) (length : Nat)
  | sendTo (ip : Ipv4Address) (sourcePort destinationPort : UInt16) (length : Nat)
  | fill (offset : Nat) (patch : Bytes)
  | register (port : UInt16) (consumer : Consumer)
  | device (change : Hardware → Hardware)

namespace Action

/-- What callers and the device promise: a caller writes into the payload area it was given, a
consumer does not stop the link, and the memory of a device keeps its size. -/
def Allowed (config : LinkConfig) (Safe : Consumer → Prop) : Action Hardware Consumer → Prop
  | .fill offset patch => offset + patch.length ≤ Udp.payloadRoom config.interface
  | .register _ consumer => Safe consumer
  | .device change =>
      ∀ device, (Mac.memory (change device)).length = (Mac.memory device).length
  | _ => True

def perform (link : Link (Watched Hardware) Consumer) :
    Action Hardware Consumer → Except Fault (Link (Watched Hardware) Consumer)
  | .start => do return (← link.start).1
  | .service => do return (← link.service).2.1
  | .resolve ip => do return (← link.resolve ip).2.1
  | .send sourcePort destinationPort length => do
      return (← link.send sourcePort destinationPort length).2.1
  | .sendTo ip sourcePort destinationPort length => do
      return (← link.sendTo ip sourcePort destinationPort length).2.1
  | .fill offset patch => link.storePayload offset patch
  | .register port consumer => return (link.register port consumer).1
  | .device change =>
      let watched := link.ring.device
      return { link with ring := { link.ring with
        device := { watched with device := change watched.device } } }

def performAll (actions : List (Action Hardware Consumer))
    (link : Link (Watched Hardware) Consumer) : Except Fault (Link (Watched Hardware) Consumer) :=
  actions.foldlM perform link

theorem perform_returns (handler : SafeConsumer config geometry Safe)
    (sound : Sound config geometry Safe link) (action : Action Hardware Consumer)
    (allowed : action.Allowed config Safe) :
    Returns (action.perform link) (Sound config geometry Safe) := by
  cases action with
  | start => exact (sound.start_returns handler).bind fun answer started => Returns.ok started
  | service => exact (sound.service_returns handler).bind fun answer serviced => Returns.ok serviced
  | resolve ip =>
      exact (sound.resolve_returns handler ip).bind fun answer resolved => Returns.ok resolved
  | send sourcePort destinationPort length =>
      exact (sound.send_returns sourcePort destinationPort length).bind fun answer sent =>
        Returns.ok sent
  | sendTo ip sourcePort destinationPort length =>
      exact (sound.send_to_returns ip sourcePort destinationPort length).bind fun answer sent =>
        Returns.ok sent
  | fill offset patch => exact sound.store_payload_returns offset patch allowed
  | register port consumer =>
      refine Returns.ok ⟨sound.configured, sound.ring, ?_⟩
      intro registered member
      cases member
      exact allowed
  | device change =>
      refine Returns.ok ⟨sound.configured, ?_, sound.registered⟩
      exact sound.ring.access (allowed link.ring.device.device) rfl

theorem perform_all_returns (handler : SafeConsumer config geometry Safe)
    (sound : Sound config geometry Safe link) (actions : List (Action Hardware Consumer))
    (allowed : ∀ action ∈ actions, action.Allowed config Safe) :
    Returns (performAll actions link) (Sound config geometry Safe) := by
  induction actions generalizing link with
  | nil => exact Returns.ok sound
  | cons action actions induction =>
      obtain ⟨allowedFirst, allowedLater⟩ := List.forall_mem_cons.mp allowed
      unfold performAll
      rw [List.foldlM_cons]
      apply (perform_returns handler sound action allowedFirst).bind
      intro next nextSound
      exact induction nextSound allowedLater

end Action

/-- For every accepted configuration and division of the slot memory, every device and every
consumer that does not stop the link: a run of any length comes to its end, and the device was only
started on transmit slots that exist and lengths that fit them. A frame that is taken lies inside
its receive slot: taking another one would have stopped the run. -/
theorem link_keeps_to_its_slots (config : LinkConfig) (geometry : Mac.SlotGeometry)
    {Safe : Consumer → Prop} (handler : SafeConsumer config geometry Safe) (device : Hardware)
    (whole : (Mac.memory device).length = geometry.length) (link : Link (Watched Hardware) Consumer)
    (created : Link.create ⟨device, {}⟩ geometry config = .ok link)
    (actions : List (Action Hardware Consumer))
    (allowed : ∀ action ∈ actions, action.Allowed config Safe) :
    (Returns (Action.performAll actions link) fun last =>
      last.ring.geometry = geometry ∧
        ∀ start ∈ last.ring.device.record.starts,
          start.1.toNat < geometry.txSlots ∧ start.2.toNat ≤ geometry.slotSize) ∧
      ∀ (ring : SlotRing (Watched Hardware)) (received : SlotRing.Received) (frame : Bytes),
        ring.geometry = geometry → ring.receivedFrame received = .ok frame →
          received.slot < geometry.rxSlots ∧ received.length ≤ geometry.slotSize ∧
            frame = ((Mac.memory ring.device).drop (geometry.rxStart received.slot)).take
              received.length := by
  constructor
  · have sound := sound_of_create config geometry Safe whole created
    refine (Action.perform_all_returns handler sound actions allowed).mono fun last sound => ?_
    exact ⟨sound.ring.divided, sound.ring.starts⟩
  · intro ring received frame divided taken
    obtain ⟨inside, octets⟩ := SlotRing.taken_from_slot taken
    rw [divided] at inside octets
    exact ⟨inside.1, inside.2, octets⟩

/-- A device that answers from a list and overwrites its memory with whatever it answers. After
every start it is busy for some polls. -/
structure Restless where
  octets : Bytes
  answers : List UInt32
  busy : Nat := 0

namespace Restless

def answer (device : Restless) : UInt32 × Restless :=
  match device.answers with
  | [] => (1, device)
  | value :: answers =>
      (value, { device with answers, octets := device.octets.map fun _ => value.toUInt8 })

def read (register : Mac.Register) (device : Restless) : UInt32 × Restless :=
  if register = .readerReady then
    if device.busy = 0 then (1, device) else (0, { device with busy := device.busy - 1 })
  else device.answer

instance : Mac.Device Restless where
  readRegister register device := .ok (device.read register)
  writeRegister register _ device :=
    .ok { device with busy := if register = .readerStart then 3 else device.busy }
  memory device := device.octets
  setMemory octets device := { device with octets }
  patience device := device.busy

theorem length_read (register : Mac.Register) (device : Restless) :
    (device.read register).2.octets.length = device.octets.length := by
  unfold read answer
  split
  · split
    · rfl
    · rfl
  · split
    · rfl
    · exact List.length_map _

instance : LawfulDevice Restless where
  read register device := Returns.ok (length_read register device)
  write register value device := Returns.ok rfl
  set_memory octets device := rfl
  not_ready device after same := by
    have answered : device.read .readerReady = (0, after) := Except.ok.inj same
    unfold read at answered
    rw [if_pos rfl] at answered
    split at answered
    · cases answered
    · cases answered
      change device.busy - 1 < device.busy
      omega

end Restless

def Echoes : Simulation.Consumer → Prop
  | .listener listener => listener.manner = .echo
  | _ => False

theorem echo_safe (room longest : Nat) : Udp.SafeHandler room longest Echoes where
  reset := fun consumer echoes => by
    cases consumer with
    | listener listener => exact echoes
    | discard => exact echoes
    | endpoint endpoint => cases echoes
  on_datagram := fun datagram consumer echoes _ => by
    cases consumer with
    | listener listener =>
        obtain ⟨manner, seen⟩ := listener
        have same : manner = .echo := echoes
        subst same
        intro area length
        refine ⟨?_, fun sent => Returns.ok rfl⟩
        rw [List.length_take]
        omega
    | discard => cases echoes
    | endpoint endpoint => cases echoes

/-- Slots of the smallest accepted size on a device without manners: an unreadable report, a report
of a whole slot, stray octets, callers that ask for too much. -/
theorem link_survives_restless_device :
    let geometry : Mac.SlotGeometry := ⟨1532, 1, 1, by decide, by decide, by decide⟩
    let config : LinkConfig := { hardwareFraming := false }
    let device : Restless := ⟨Bytes.zeros geometry.length, [1, 7, 64, 1, 0, 1532, 1, 0, 1533], 0⟩
    let peer : Ipv4Address := ⟨10, 0, 11, 3⟩
    let actions : List (Action Restless Simulation.Consumer) :=
      [.register 7642 (.listener { manner := .echo }), .start, .service, .service, .resolve peer,
        .fill 1470 (Bytes.zeros 8), .send 1 2 4294967296, .device fun mac => { mac with busy := 5 },
        .sendTo peer 1 2 8]
    ∃ link, Link.create (⟨device, {}⟩ : Watched Restless) geometry config = .ok link ∧
      Returns (Action.performAll actions link) fun last =>
        ∀ start ∈ last.ring.device.record.starts,
          start.1.toNat < geometry.txSlots ∧ start.2.toNat ≤ geometry.slotSize := by
  intro geometry config device peer actions
  have whole : (Mac.memory device).length = geometry.length := Bytes.length_zeros _
  have allowed : ∀ action ∈ actions, action.Allowed config Echoes := by
    intro action member
    simp only [actions, List.mem_cons, List.not_mem_nil, or_false] at member
    rcases member with rfl | rfl | rfl | rfl | rfl | rfl | rfl | rfl | rfl
    · exact rfl
    · trivial
    · trivial
    · trivial
    · trivial
    · change 1470 + (Bytes.zeros 8).length ≤ Udp.payloadRoom config.interface
      decide
    · trivial
    · intro mac
      rfl
    · trivial
  obtain ⟨link, created⟩ : ∃ link : Link (Watched Restless) Simulation.Consumer,
      Link.create ⟨device, {}⟩ geometry config = .ok link := ⟨_, rfl⟩
  have kept := link_keeps_to_its_slots config geometry (echo_safe _ _) device whole link created
    actions allowed
  exact ⟨link, created, kept.1.mono fun last holds => holds.2⟩

end InstrumentLink.Link
