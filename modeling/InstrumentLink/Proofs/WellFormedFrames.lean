import InstrumentLink.Proofs.LinkTransmissions
import InstrumentLink.Simulation.Wire

/-!
Everything a link puts on the wire is well formed.

A tap on the transmit side of a device notes the octets that stand in the chosen slot at every
start. The device may report and receive what it likes, but an access to it leaves the transmit
slots as they are. Then every frame that the tap noted is a well-formed frame of the station, in any
run and with any consumer: what is sent is what was laid into the slot just before, and only such
frames are laid there.
-/

set_option autoImplicit false

namespace InstrumentLink

namespace Link

variable {Hardware Consumer : Type} {config : LinkConfig} {geometry : Mac.SlotGeometry}
  {Good : Hardware → Prop} {side : Hardware → Mac.TransmitSide} {link : Link Hardware Consumer}

structure Proper (config : LinkConfig) (geometry : Mac.SlotGeometry) (Good : Hardware → Prop)
    (side : Hardware → Mac.TransmitSide) (link : Link Hardware Consumer) : Prop where
  configured : link.config = config
  up : Up geometry Good link
  formed : ∀ octets ∈ (side link.ring.device).sent, config.interface.WellFormed octets

theorem Proper.of_transmits {after : Link Hardware Consumer}
    (proper : Proper config geometry Good side link)
    (transmits : Transmits geometry Good side link after) :
    Proper config geometry Good side after := by
  obtain ⟨rfl, -, formed⟩ := proper
  have up := transmits.up
  obtain ⟨configured, -, frames, sent, built⟩ := transmits
  refine ⟨configured, up, ?_⟩
  change (side after.ring.device).sent = (side link.ring.device).sent ++ frames at sent
  rw [sent]
  exact List.forall_mem_append.mpr
    ⟨formed, fun octets member => (built octets member).well_formed (placed_interface _)⟩

variable [Mac.Device Hardware] [Udp.Handler Consumer]
  (transmitter : Mac.Transmitter geometry Good side) (quiet : Mac.QuietReceiver Good side)

include transmitter quiet

theorem Proper.service_yields (proper : Proper config geometry Good side link) :
    Yields link.service fun answer => Proper config geometry Good side answer.2.1 :=
  (service_transmits transmitter quiet proper.up).mono fun _ => proper.of_transmits

theorem Proper.await_peer_yields (polls : Nat) (log : Log)
    (proper : Proper config geometry Good side link) :
    Yields (awaitPeer polls log link) fun answer =>
      Proper config geometry Good side answer.2.1 := by
  induction polls generalizing log link with
  | zero => exact proper
  | succ polls induction =>
      unfold awaitPeer
      apply (proper.service_yields transmitter quiet).bind
      intro answer serviced
      dsimp only
      split
      · exact serviced
      · exact induction _ serviced

theorem Proper.attempts_yield (ip : Ipv4Address) (attempt left : Nat)
    (proper : Proper config geometry Good side link) :
    Yields (attempts ip attempt left link) fun answer =>
      Proper config geometry Good side answer.2.1 := by
  induction left generalizing attempt link with
  | zero => exact proper
  | succ left induction =>
      unfold attempts
      apply (ask_transmits transmitter proper.up ip).bind
      intro answer transmits
      apply ((proper.of_transmits transmits).await_peer_yields transmitter quiet _ []).bind
      intro answer waited
      dsimp only
      split
      · exact waited
      · apply (induction (attempt + 1) waited).bind
        intro answer tried
        exact tried

theorem Proper.resolve_yields (ip : Ipv4Address) (proper : Proper config geometry Good side link) :
    Yields (link.resolve ip) fun answer => Proper config geometry Good side answer.2.1 := by
  unfold resolve
  split
  · exact proper
  · have aimed : Proper config geometry Good side { link with cache := .target ip } :=
      ⟨proper.configured, proper.up, proper.formed⟩
    exact aimed.attempts_yield transmitter quiet ip 1 _

end Link

namespace Mac

/-- What a device was started on, and the octets that stood there. -/
structure Tap where
  slot : UInt32 := 0
  length : UInt32 := 0
  frames : List Bytes := []

def Tap.note (tap : Tap) (geometry : SlotGeometry) (octets : Bytes) (value : UInt32) :
    Register → Tap
  | .readerSlot => { tap with slot := value }
  | .readerLength => { tap with length := value }
  | .readerStart =>
      if value = 0 then tap
      else { tap with frames := tap.frames ++
        [(octets.drop (geometry.txStart tap.slot.toNat)).take tap.length.toNat] }
  | _ => tap

/-- A device with a tap. To a driver it is the device itself. -/
structure Tapped (geometry : SlotGeometry) (Hardware : Type) where
  device : Hardware
  tap : Tap := {}

variable {geometry : SlotGeometry} {Hardware : Type} [Device Hardware]

instance : Device (Tapped geometry Hardware) where
  readRegister register tapped := do
    let (value, device) ← readRegister register tapped.device
    return (value, { tapped with device })
  writeRegister register value tapped := do
    let device ← writeRegister register value tapped.device
    return { device, tap := tapped.tap.note geometry (memory tapped.device) value register }
  memory tapped := memory tapped.device
  setMemory octets tapped := { tapped with device := setMemory octets tapped.device }
  patience tapped := patience tapped.device

instance [LawfulDevice Hardware] : LawfulDevice (Tapped geometry Hardware) where
  read register tapped :=
    (LawfulDevice.read register tapped.device).bind fun _ same => Returns.ok same
  write register value tapped :=
    (LawfulDevice.write register value tapped.device).bind fun _ same => Returns.ok same
  set_memory octets tapped := LawfulDevice.set_memory octets tapped.device
  not_ready tapped after same := by
    obtain ⟨⟨value, device⟩, read, -⟩ := LawfulDevice.read .readerReady tapped.device
    have answer : readRegister .readerReady tapped = .ok (value, { tapped with device }) := by
      change (do let (value, device) ← readRegister .readerReady tapped.device; _) = _
      rw [read]
      rfl
    rw [answer] at same
    cases same
    exact LawfulDevice.not_ready tapped.device device read

/-- A device that keeps what is stored in the transmit slots while it is accessed. -/
class SteadyDevice (geometry : SlotGeometry) (Hardware : Type) [Device Hardware] : Prop extends
    LawfulDevice Hardware where
  /-- The slot register, one word, can name every transmit slot. -/
  named : geometry.txSlots ≤ 4294967296
  stored : ∀ octets (device : Hardware), memory (setMemory octets device) = octets
  read_slots : ∀ register (device : Hardware) answer, readRegister register device = .ok answer →
    (memory answer.2).drop (geometry.txStart 0) = (memory device).drop (geometry.txStart 0)
  write_slots : ∀ register value (device after : Hardware),
    writeRegister register value device = .ok after →
      (memory after).drop (geometry.txStart 0) = (memory device).drop (geometry.txStart 0)

namespace Tapped

def side (watched : Watched (Tapped geometry Hardware)) : TransmitSide where
  slots := (memory watched).drop (geometry.txStart 0)
  slot := watched.device.tap.slot
  length := watched.device.tap.length
  sent := watched.device.tap.frames

def Whole (watched : Watched (Tapped geometry Hardware)) : Prop :=
  (memory watched).length = geometry.length

variable [SteadyDevice geometry Hardware] {watched : Watched (Tapped geometry Hardware)}

theorem read_returns (register : Register) (whole : Whole watched) :
    Returns (readRegister register watched) fun answer =>
      Whole answer.2 ∧ side answer.2 = side watched ∧
        (register = .readerReady → answer.1 = 0 → patience answer.2 < patience watched) := by
  obtain ⟨⟨value, device⟩, read, length⟩ :=
    LawfulDevice.read register watched.device.device
  have answer : readRegister register watched = .ok (value, { watched with
      device := { watched.device with device } }) := by
    change ((readRegister register watched.device.device >>= _) >>= _) = _
    rw [read]
    rfl
  refine ⟨_, answer, length.trans whole, ?_, ?_⟩
  · unfold side
    congr 1
    exact SteadyDevice.read_slots register watched.device.device _ read
  · rintro rfl rfl
    exact LawfulDevice.not_ready watched.device.device device read

theorem write_returns (register : Register) (value : UInt32) (whole : Whole watched) :
    Returns (writeRegister register value watched) fun after =>
      Whole after ∧ (memory after).drop (geometry.txStart 0) =
        (memory watched).drop (geometry.txStart 0) ∧
      after.device.tap = watched.device.tap.note geometry (memory watched) value register := by
  obtain ⟨device, written, length⟩ := LawfulDevice.write register value watched.device.device
  have answer : writeRegister register value watched =
      .ok ⟨⟨device, watched.device.tap.note geometry (memory watched) value register⟩,
        watched.record.note value register⟩ := by
    change ((writeRegister register value watched.device.device >>= _) >>= _) = _
    rw [written]
    rfl
  exact ⟨_, answer, length.trans whole,
    SteadyDevice.write_slots register value watched.device.device _ written, rfl⟩

theorem transmitter :
    Transmitter geometry (Whole : Watched (Tapped geometry Hardware) → Prop) side where
  named := SteadyDevice.named Hardware
  large := fun watched whole => whole
  slots := fun watched whole => rfl
  ready := fun watched whole => by
    apply (read_returns .readerReady whole).mono
    rintro answer ⟨whole, same, less⟩
    exact ⟨whole, same, less rfl⟩
  choose := fun watched value whole => by
    apply (write_returns .readerSlot value whole).mono
    rintro after ⟨whole, slots, tap⟩
    exact ⟨whole, by simp only [side, slots, tap, Tap.note]⟩
  measure := fun watched value whole => by
    apply (write_returns .readerLength value whole).mono
    rintro after ⟨whole, slots, tap⟩
    exact ⟨whole, by simp only [side, slots, tap, Tap.note]⟩
  start := fun watched whole slot length => by
    apply (write_returns .readerStart 1 whole).mono
    rintro after ⟨whole, slots, tap⟩
    refine ⟨whole, ?_⟩
    simp only [side, slots, tap, Tap.note, TransmitSide.chosen, geometry.drop_tx_start]
    rfl
  set_memory := fun watched octets whole length front => by
    have stored : memory (setMemory octets watched) = octets :=
      SteadyDevice.stored geometry octets watched.device.device
    refine ⟨?_, ?_⟩
    · unfold Whole
      rw [stored, length, whole]
    · unfold side
      rw [stored]
      rfl

theorem quiet :
    QuietReceiver (Whole : Watched (Tapped geometry Hardware) → Prop) side where
  read := fun register watched whole =>
    (read_returns register whole).yields.mono fun answer kept =>
      ⟨kept.1, congrArg TransmitSide.sent kept.2.1⟩
  clears := fun register watched event whole => by
    apply (write_returns register eventBit whole).mono
    rintro after ⟨whole, slots, tap⟩
    refine ⟨whole, ?_⟩
    rcases event with rfl | rfl <;> simp only [side, tap, Tap.note]

end Tapped

end Mac

namespace Link

open Mac (SteadyDevice Tapped Watched)

variable {Hardware Consumer : Type} [Mac.Device Hardware] [Udp.Handler Consumer]
  {geometry : Mac.SlotGeometry}

/-- Whether what the device does by itself leaves the tap and the size of the memory. -/
def Action.LeavesTap : Action (Tapped geometry Hardware) Consumer → Prop
  | .device change => ∀ tapped : Tapped geometry Hardware,
      (change tapped).tap = tapped.tap ∧
        (Mac.memory (change tapped)).length = (Mac.memory tapped).length
  | _ => True

variable [SteadyDevice geometry Hardware] {config : LinkConfig}
  {link : Link (Watched (Tapped geometry Hardware)) Consumer}

abbrev Tidy (config : LinkConfig) (link : Link (Watched (Tapped geometry Hardware)) Consumer) :
    Prop :=
  Proper config geometry Tapped.Whole Tapped.side link

omit [Udp.Handler Consumer] [SteadyDevice geometry Hardware] in
theorem tidy_of_create {device : Hardware} (whole : (Mac.memory device).length = geometry.length)
    (created : Link.create ⟨⟨device, {}⟩, {}⟩ geometry config = .ok link) : Tidy config link := by
  obtain ⟨-, rfl⟩ := of_create created
  refine ⟨rfl, ⟨rfl, config.software_framing_eq.symm, geometry.has_tx_slot, whole⟩, ?_⟩
  intro octets member
  cases member

omit [SteadyDevice geometry Hardware] in
theorem Action.device_transmits (up : Up geometry Tapped.Whole link)
    (change : Tapped geometry Hardware → Tapped geometry Hardware)
    (leaves : LeavesTap (.device change : Action (Tapped geometry Hardware) Consumer)) :
    Yields (Action.perform link (.device change))
      (Transmits geometry Tapped.Whole Tapped.side link) := by
  obtain ⟨tap, length⟩ := leaves link.ring.device.device
  have good := length.trans up.good
  have same := congrArg Mac.Tap.frames tap
  exact Transmits.of_keeps rfl ⟨⟨up.divided, up.framing, up.slot, good⟩, same⟩

theorem Action.perform_yields (tidy : Tidy config link)
    (action : Action (Tapped geometry Hardware) Consumer) (leaves : action.LeavesTap) :
    Yields (action.perform link) (Tidy config) := by
  have transmitter : Mac.Transmitter geometry _ (@Tapped.side geometry Hardware _) :=
    Tapped.transmitter
  have quiet : Mac.QuietReceiver _ (@Tapped.side geometry Hardware _) := Tapped.quiet
  cases action with
  | start =>
      exact (start_transmits transmitter quiet tidy.up).bind
        fun answer transmits => tidy.of_transmits transmits
  | service => exact (tidy.service_yields transmitter quiet).bind fun answer tidy => tidy
  | resolve ip => exact (tidy.resolve_yields transmitter quiet ip).bind fun answer tidy => tidy
  | send sourcePort destinationPort length =>
      exact (send_transmits transmitter tidy.up sourcePort destinationPort length).bind
        fun answer transmits => tidy.of_transmits transmits
  | sendTo ip sourcePort destinationPort length =>
      exact (send_to_transmits transmitter tidy.up ip sourcePort destinationPort length).bind
        fun answer transmits => tidy.of_transmits transmits
  | fill offset patch =>
      exact (store_payload_transmits transmitter tidy.up offset patch).mono
        fun after transmits => tidy.of_transmits transmits
  | register port consumer => exact ⟨tidy.configured, tidy.up, tidy.formed⟩
  | device change =>
      exact (device_transmits tidy.up change leaves).mono
        fun after transmits => tidy.of_transmits transmits

theorem Action.perform_all_yields (tidy : Tidy config link)
    (actions : List (Action (Tapped geometry Hardware) Consumer))
    (leave : ∀ action ∈ actions, action.LeavesTap) :
    Yields (performAll actions link) (Tidy config) := by
  induction actions generalizing link with
  | nil => exact tidy
  | cons action actions induction =>
      obtain ⟨leavesFirst, leaveLater⟩ := List.forall_mem_cons.mp leave
      unfold performAll
      rw [List.foldlM_cons]
      apply (perform_yields tidy action leavesFirst).bind
      intro next tidy
      exact induction tidy leaveLater

/-- For every accepted configuration and division of the slot memory, every steady device, whatever
it receives, and every consumer: all frames of a run are well-formed. With a consumer that does not
stop the link, the run comes to its end. -/
theorem frames_on_the_wire_are_well_formed (config : LinkConfig) (geometry : Mac.SlotGeometry)
    [SteadyDevice geometry Hardware] (device : Hardware)
    (whole : (Mac.memory device).length = geometry.length)
    (link : Link (Watched (Tapped geometry Hardware)) Consumer)
    (created : Link.create ⟨⟨device, {}⟩, {}⟩ geometry config = .ok link)
    (actions : List (Action (Tapped geometry Hardware) Consumer))
    (leave : ∀ action ∈ actions, action.LeavesTap) :
    (∀ last, Action.performAll actions link = .ok last →
      ∀ octets ∈ last.ring.device.device.tap.frames, config.interface.WellFormed octets) ∧
    ∀ Safe : Consumer → Prop, SafeConsumer config geometry Safe →
      (∀ action ∈ actions, action.Allowed config Safe) →
        Returns (Action.performAll actions link) fun last =>
          ∀ octets ∈ last.ring.device.device.tap.frames, config.interface.WellFormed octets := by
  have yields := Action.perform_all_yields (tidy_of_create whole created) actions leave
  refine ⟨fun last same => (yields.of_ok same).formed, fun Safe handler allowed => ?_⟩
  have large : (Mac.memory (⟨device, {}⟩ : Tapped geometry Hardware)).length = geometry.length :=
    whole
  have sound := sound_of_create config geometry Safe large created
  obtain ⟨last, same, -⟩ := Action.perform_all_returns handler sound actions allowed
  exact ⟨last, same, (yields.of_ok same).formed⟩

/-- A device that is always ready and answers everything else from a list. -/
structure Mailbox where
  octets : Bytes
  answers : List UInt32

namespace Mailbox

def read (register : Mac.Register) (device : Mailbox) : UInt32 × Mailbox :=
  if register = .readerReady then (1, device)
  else (device.answers.headD 0, { device with answers := device.answers.tail })

instance : Mac.Device Mailbox where
  readRegister register device := .ok (device.read register)
  writeRegister _ _ device := .ok device
  memory device := device.octets
  setMemory octets device := { device with octets }
  patience _ := 0

theorem octets_read (register : Mac.Register) (device : Mailbox) :
    (device.read register).2.octets = device.octets := by
  unfold read
  split <;> rfl

theorem steady (geometry : Mac.SlotGeometry) (named : geometry.txSlots ≤ 4294967296) :
    SteadyDevice geometry Mailbox where
  read register device := Returns.ok (congrArg List.length (device.octets_read register))
  write register value device := Returns.ok rfl
  set_memory octets device := rfl
  not_ready device after same := by cases same
  named := named
  stored octets device := rfl
  read_slots register device answer same := by
    cases same
    exact congrArg _ (device.octets_read register)
  write_slots register value device after same := by
    cases same
    rfl

end Mailbox

/-- A question for the station's address, an echo request, and a peer that does not answer. -/
theorem mail_answered_well_formed :
    let geometry : Mac.SlotGeometry := ⟨1532, 2, 1, by decide, by decide, by decide⟩
    let config : LinkConfig := { hardwareFraming := false, resolveBudget := ⟨1, 1⟩ }
    let question := Ethernet.withFraming
      (Simulation.Wire.arpRequest ⟨Simulation.Wire.hostMac, Simulation.Wire.hostIp⟩ config.ip)
    let echo := Ethernet.withFraming (Simulation.Wire.icmpEcho Simulation.Wire.hostMac
      Simulation.Wire.hostIp config.ip 7 1 [1, 2, 3])
    let device : Mailbox := ⟨Bytes.padTo 1532 question ++ Bytes.padTo 3064 echo,
      [1, 0, 72, 1, 1, 72]⟩
    let actions : List (Action (Tapped geometry Mailbox) Simulation.Consumer) :=
      [.register 7642 (.listener { manner := .echo }), .start, .service, .service,
        .resolve Simulation.Wire.hostIp]
    ∃ link, Link.create ⟨⟨device, {}⟩, {}⟩ geometry config = .ok link ∧
      Returns (Action.performAll actions link) fun last =>
        last.ring.device.device.tap.frames.length = 3 ∧
        ∀ octets ∈ last.ring.device.device.tap.frames, config.interface.WellFormed octets := by
  intro geometry config question echo device actions
  have steady := Mailbox.steady geometry (by decide)
  have whole : (Mac.memory device).length = geometry.length := by decide +kernel
  have leave : ∀ action ∈ actions, action.LeavesTap := by
    intro action member
    simp only [actions, List.mem_cons, List.not_mem_nil, or_false] at member
    rcases member with rfl | rfl | rfl | rfl | rfl <;> trivial
  let link : Link (Watched (Tapped geometry Mailbox)) Simulation.Consumer :=
    { config, ring := { device := ⟨⟨device, {}⟩, {}⟩, geometry, softwareFrameCheck := true } }
  have created : Link.create ⟨⟨device, {}⟩, {}⟩ geometry config = .ok link := rfl
  have three : (Action.performAll actions link).toOption.map (fun last =>
      last.ring.device.device.tap.frames.length) = some 3 := by decide +kernel
  have formed := (frames_on_the_wire_are_well_formed config geometry device whole link created
    actions leave).1
  obtain ⟨last, performed, count⟩ := Returns.of_seen three
  exact ⟨link, created, last, performed, count, formed last performed⟩

end Link

end InstrumentLink
