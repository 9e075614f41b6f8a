import InstrumentLink.Proofs.SafePort
import InstrumentLink.SlotRing

/-!
The slot ring keeps to its slots, whatever the device does.

A device is free in everything but three things: its registers can always be accessed, its memory
keeps its size, and it is not busy for ever. The record of a watched device shows what the transmit
side was started on. Every start is on a transmit slot that exists and on a length that fits it, and
a report is only taken for a frame inside an existing receive slot.
-/

set_option autoImplicit false

namespace InstrumentLink.Mac

/-- What a driver relies on. Apart from that an access may change the device and its memory in any
way. -/
class LawfulDevice (Hardware : Type) [Device Hardware] : Prop where
  read : ∀ (register : Register) (device : Hardware),
    Returns (readRegister register device) fun answer =>
      (memory answer.2).length = (memory device).length
  write : ∀ (register : Register) (value : UInt32) (device : Hardware),
    Returns (writeRegister register value device) fun after =>
      (memory after).length = (memory device).length
  set_memory : ∀ (octets : Bytes) (device : Hardware),
    (memory (setMemory octets device)).length = octets.length
  /-- A device that is not ready can say so fewer times from then on. -/
  not_ready : ∀ device after : Hardware,
    readRegister .readerReady device = .ok (0, after) → patience after < patience device

structure Record where
  slot : UInt32 := 0
  length : UInt32 := 0
  /-- Slot and length of every start, in order. -/
  starts : List (UInt32 × UInt32) := []

def Record.note (record : Record) (value : UInt32) : Register → Record
  | .readerSlot => { record with slot := value }
  | .readerLength => { record with length := value }
  | .readerStart =>
      if value = 0 then record
      else { record with starts := record.starts ++ [(record.slot, record.length)] }
  | _ => record

/-- A device with a record of its starts. To a driver it is the device itself. -/
structure Watched (Hardware : Type) where
  device : Hardware
  record : Record := {}

variable {Hardware : Type} [Device Hardware]

instance : Device (Watched Hardware) where
  readRegister register watched := do
    let (value, device) ← readRegister register watched.device
    return (value, { watched with device })
  writeRegister register value watched := do
    let device ← writeRegister register value watched.device
    return { device, record := watched.record.note value register }
  memory watched := memory watched.device
  setMemory octets watched := { watched with device := setMemory octets watched.device }
  patience watched := patience watched.device

namespace Watched

variable [LawfulDevice Hardware]

theorem read_returns (register : Register) (watched : Watched Hardware) :
    Returns (readRegister register watched) fun answer =>
      (memory answer.2).length = (memory watched).length ∧ answer.2.record = watched.record := by
  apply (LawfulDevice.read register watched.device).bind
  intro answer same
  exact Returns.ok ⟨same, rfl⟩

theorem write_returns (register : Register) (value : UInt32) (watched : Watched Hardware) :
    Returns (writeRegister register value watched) fun after =>
      (memory after).length = (memory watched).length ∧
        after.record = watched.record.note value register := by
  apply (LawfulDevice.write register value watched.device).bind
  intro after same
  exact Returns.ok ⟨same, rfl⟩

/-- Waiting comes to an end: every answer that the device is not ready costs it patience. -/
theorem await_ready_returns (attempts : Nat) (watched : Watched Hardware)
    (patient : patience watched < attempts) :
    Returns (awaitReady attempts watched) fun after =>
      (memory after).length = (memory watched).length ∧ after.record = watched.record := by
  induction attempts generalizing watched with
  | zero => exact (Nat.not_lt_zero _ patient).elim
  | succ attempts induction =>
      obtain ⟨⟨value, asked⟩, same, length⟩ :=
        LawfulDevice.read .readerReady watched.device
      have answer : readRegister .readerReady watched =
          .ok (value, { watched with device := asked }) := by
        change (do let (value, device) ← readRegister .readerReady watched.device; _) = _
        rw [same]
        rfl
      unfold awaitReady isReady
      rw [answer]
      by_cases ready : value = 0
      · subst ready
        -- The patience that is left bounds the attempts that are left.
        have less : patience asked < patience watched.device :=
          LawfulDevice.not_ready watched.device asked same
        have rest := induction { watched with device := asked } (Nat.lt_of_lt_of_le less
          (Nat.le_of_lt_succ patient))
        exact rest.mono fun after kept => ⟨kept.1.trans length, kept.2⟩
      · change Returns (if decide (value ≠ 0) = true then _ else _) _
        rw [if_pos (decide_eq_true ready)]
        exact Returns.ok ⟨length, rfl⟩

end Watched

end InstrumentLink.Mac

namespace InstrumentLink

theorem Mac.SlotGeometry.tx_slot_inside (geometry : Mac.SlotGeometry) (slot : Nat)
    (exists_slot : slot < geometry.txSlots) :
    geometry.txStart slot + geometry.slotSize ≤ geometry.length := by
  have order : geometry.rxSlots + slot + 1 ≤ geometry.rxSlots + geometry.txSlots := by omega
  have scaled := Nat.mul_le_mul_left geometry.slotSize order
  rwa [Nat.mul_add_one] at scaled

theorem Mac.SlotGeometry.rx_slot_inside (geometry : Mac.SlotGeometry) (slot : Nat)
    (exists_slot : slot < geometry.rxSlots) :
    geometry.rxStart slot + geometry.slotSize ≤ geometry.length := by
  have order : slot + 1 ≤ geometry.rxSlots + geometry.txSlots := by omega
  have scaled := Nat.mul_le_mul_left geometry.slotSize order
  rwa [Nat.mul_add_one] at scaled

theorem Mac.SlotGeometry.rx_start_apart (geometry : Mac.SlotGeometry) {first second : Nat}
    (order : first < second) :
    geometry.rxStart first + geometry.slotSize ≤ geometry.rxStart second := by
  have scaled := Nat.mul_le_mul_left geometry.slotSize (Nat.succ_le_of_lt order)
  rwa [Nat.mul_succ] at scaled

theorem Mac.SlotGeometry.rx_before_tx (geometry : Mac.SlotGeometry) {slot : Nat}
    (exist : slot < geometry.rxSlots) (other : Nat) :
    geometry.rxStart slot + geometry.slotSize ≤ geometry.txStart other :=
  geometry.rx_start_apart (Nat.lt_of_lt_of_le exist (Nat.le_add_right _ _))

theorem Ethernet.append_frame_check_fits {buffer framed : Bytes} {length framedLength : Nat}
    (appended : appendFrameCheck buffer length = .ok (framedLength, framed)) :
    framedLength ≤ buffer.length ∧ framed.length = buffer.length := by
  unfold appendFrameCheck at appended
  split at appended
  · cases appended
  · split at appended
    · cases appended
    · cases appended
      simp only [List.length_append, List.length_take, List.length_drop, length_frame_check]
      omega

namespace SlotRing

open Mac (LawfulDevice Watched)

variable {Hardware : Type} [Mac.Device Hardware]

/-- The invariant of a ring: the slots are those of a geometry that the memory has room for, the
next transmit slot exists, and so did every one that the device was started on, which also held the
frame. -/
structure Sound (geometry : Mac.SlotGeometry) (ring : SlotRing (Watched Hardware)) : Prop where
  divided : ring.geometry = geometry
  large : (Mac.memory ring.device).length = geometry.length
  slot : ring.txSlot < geometry.txSlots
  starts : ∀ start ∈ ring.device.record.starts,
    start.1.toNat < geometry.txSlots ∧ start.2.toNat ≤ geometry.slotSize

variable {geometry : Mac.SlotGeometry} {ring : SlotRing (Watched Hardware)}

theorem Sound.access (sound : Sound geometry ring) {after : Watched Hardware}
    (memory : (Mac.memory after).length = (Mac.memory ring.device).length)
    (starts : after.record.starts = ring.device.record.starts) :
    Sound geometry { ring with device := after } := by
  refine ⟨sound.divided, memory.trans sound.large, sound.slot, ?_⟩
  intro start member
  rw [starts] at member
  exact sound.starts start member

theorem Sound.tx_slot_inside (sound : Sound geometry ring) :
    ring.txOffset + geometry.slotSize ≤ (Mac.memory ring.device).length := by
  rw [txOffset, sound.divided, sound.large]
  exact geometry.tx_slot_inside ring.txSlot sound.slot

theorem Sound.contents_returns (sound : Sound geometry ring) :
    Returns ring.contents fun slot => slot.length = geometry.slotSize := by
  have inside := sound.tx_slot_inside
  unfold contents
  rw [sound.divided, Bytes.slice_inside _ _ _ (Nat.le_add_right _ _) inside]
  apply Returns.ok
  rw [List.length_take, List.length_drop]
  omega

variable [LawfulDevice Hardware]

theorem Sound.store_returns (sound : Sound geometry ring) (offset : Nat) (patch : Bytes)
    (inside : offset + patch.length ≤ geometry.slotSize) :
    Returns (ring.store offset patch) (Sound geometry) := by
  have room := sound.tx_slot_inside
  unfold store
  rw [if_pos (by rw [sound.divided]; exact inside)]
  apply (Bytes.overwrite_inside _ _ _ (by omega)).bind
  intro memory same
  apply Returns.ok
  apply sound.access
  · exact (LawfulDevice.set_memory memory ring.device.device).trans same
  · rfl

theorem Sound.launch_returns (sound : Sound geometry ring) (length : Nat)
    (fits : length ≤ geometry.slotSize) :
    Returns (ring.launch length) (Sound geometry) := by
  unfold launch
  apply (Watched.await_ready_returns _ ring.device (Nat.lt_succ_self _)).bind
  intro ready waited
  apply (Watched.write_returns .readerSlot _ ready).bind
  intro chosen choosing
  apply (Watched.write_returns .readerLength _ chosen).bind
  intro measured measuring
  apply (Watched.write_returns .readerStart 1 measured).bind
  intro started starting
  apply Returns.ok
  have starts : started.record.starts = ring.device.record.starts ++
      [(UInt32.ofNat ring.txSlot, UInt32.ofNat length)] := by
    rw [starting.2, measuring.2, choosing.2, waited.2]
    rfl
  constructor
  · exact sound.divided
  · change (Mac.memory started).length = _
    rw [starting.1, measuring.1, choosing.1, waited.1, sound.large]
  · change (ring.txSlot + 1) % ring.geometry.txSlots < geometry.txSlots
    rw [sound.divided]
    exact Nat.mod_lt _ geometry.has_tx_slot
  · intro start member
    change start ∈ started.record.starts at member
    rw [starts] at member
    rcases List.mem_append.mp member with earlier | last
    · exact sound.starts start earlier
    · rw [List.mem_singleton.mp last]
      -- The registers are narrower than the numbers, and a number cut to a word is no larger.
      simp only [UInt32.toNat_ofNat']
      have slot := Nat.mod_le ring.txSlot (2 ^ 32)
      have octets := Nat.mod_le length (2 ^ 32)
      exact ⟨Nat.lt_of_le_of_lt slot sound.slot, Nat.le_trans octets fits⟩

theorem Sound.transmit_returns (sound : Sound geometry ring) (length : Nat) :
    Returns (ring.transmit length) fun answer => Sound geometry answer.2.1 := by
  unfold transmit
  split
  · apply sound.contents_returns.bind
    intro slot whole
    cases appended : Ethernet.appendFrameCheck slot length with
    | error cause => exact Returns.ok sound
    | ok framed =>
        obtain ⟨framedLength, octets⟩ := framed
        obtain ⟨fits, same⟩ := Ethernet.append_frame_check_fits appended
        apply (sound.store_returns 0 octets (by omega)).bind
        intro stored sound
        apply (sound.launch_returns framedLength (by omega)).bind
        intro launched sound
        exact Returns.ok sound
  · split
    · next fits =>
        rw [sound.divided] at fits
        apply (sound.launch_returns length fits).bind
        intro launched sound
        exact Returns.ok sound
    · exact Returns.ok sound

theorem safe_port (geometry : Mac.SlotGeometry) :
    SafePort fun ring : SlotRing (Watched Hardware) => Sound geometry ring where
  contents := fun ring sound => sound.contents_returns.mono fun slot whole => by
    rw [whole]
    exact geometry.holds_frame
  store := fun ring offset patch sound inside =>
    sound.store_returns offset patch (Nat.le_trans inside geometry.holds_frame)
  transmit := fun ring length sound => sound.transmit_returns length

/-- A frame of a receive slot that exists, no longer than the slot. -/
def Received.Inside (geometry : Mac.SlotGeometry) (received : Received) : Prop :=
  received.slot < geometry.rxSlots ∧ received.length ≤ geometry.slotSize

theorem Sound.acknowledge_returns (sound : Sound geometry ring) :
    Returns ring.acknowledge (Sound geometry) := by
  unfold acknowledge
  apply (Watched.write_returns .writerEvent _ ring.device).bind
  intro after accessed
  apply Returns.ok
  apply sound.access accessed.1
  rw [accessed.2]
  rfl

/-- Whatever the device reports, only a frame inside its slot is accepted. -/
theorem Sound.poll_receive_returns (sound : Sound geometry ring) :
    Returns ring.pollReceive fun answer =>
      Sound geometry answer.2.1 ∧ ∀ received ∈ answer.1, received.Inside geometry := by
  unfold pollReceive
  apply (Watched.read_returns .writerEvent ring.device).bind
  intro event asked
  have eventSound := sound.access asked.1 (congrArg _ asked.2)
  dsimp only
  split
  · exact Returns.ok ⟨eventSound, by simp⟩
  · apply (Watched.read_returns .writerSlot event.2).bind
    intro slot slotRead
    apply (Watched.read_returns .writerLength slot.2).bind
    intro length lengthRead
    have slotSound := eventSound.access slotRead.1 (congrArg _ slotRead.2)
    have lengthSound := slotSound.access lengthRead.1 (congrArg _ lengthRead.2)
    split
    · next inside =>
        refine Returns.ok ⟨lengthSound, ?_⟩
        intro received member
        cases member
        rw [sound.divided] at inside
        exact inside
    · apply lengthSound.acknowledge_returns.bind
      intro after sound
      exact Returns.ok ⟨sound, by simp⟩

omit [LawfulDevice Hardware] in
theorem Sound.received_frame_returns (sound : Sound geometry ring) (received : Received)
    (inside : received.Inside geometry) :
    Returns (ring.receivedFrame received) fun frame => frame.length = received.length := by
  have slot := geometry.rx_slot_inside received.slot inside.1
  have short := inside.2
  have large := sound.large
  unfold receivedFrame
  dsimp only
  rw [sound.divided, if_pos (by exact inside),
    Bytes.slice_inside _ _ _ (Nat.le_add_right _ _) (by omega)]
  apply Returns.ok
  rw [List.length_take, List.length_drop]
  omega

theorem taken_from_slot {Hardware : Type} [Mac.Device Hardware] {ring : SlotRing Hardware}
    {received : Received} {frame : Bytes} (taken : ring.receivedFrame received = .ok frame) :
    received.Inside ring.geometry ∧
      frame = ((Mac.memory ring.device).drop (ring.geometry.rxStart received.slot)).take
        received.length := by
  unfold receivedFrame Bytes.slice at taken
  dsimp only at taken
  split at taken
  · next inside =>
      split at taken
      · cases taken
        rw [Nat.add_sub_cancel_left]
        exact ⟨inside, rfl⟩
      · cases taken
  · cases taken

theorem Sound.start_returns (sound : Sound geometry ring) :
    Returns ring.start (Sound geometry) := by
  unfold start
  apply (Watched.write_returns .readerEvent _ ring.device).bind
  intro first cleared
  apply (Watched.write_returns .writerEvent _ first).bind
  intro second clearedToo
  apply (Watched.write_returns .readerSlot 0 second).bind
  intro third chosen
  have starts : third.record.starts = ring.device.record.starts := by
    rw [chosen.2, clearedToo.2, cleared.2]
    rfl
  have accessed : Sound geometry { ring with device := third } :=
    sound.access (chosen.1.trans (clearedToo.1.trans cleared.1)) starts
  apply Returns.ok
  exact ⟨accessed.divided, accessed.large, geometry.has_tx_slot, accessed.starts⟩

end SlotRing

end InstrumentLink
