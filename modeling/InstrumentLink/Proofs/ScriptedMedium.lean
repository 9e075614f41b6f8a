import InstrumentLink.Proofs.SimulatedMedium

/-!
A MAC that receives by a script.

A script says what the next polls find, one entry for each: a frame, or nothing. Behind its end
nothing is found. So a script stands for every way in which frames may arrive between the operations
of a driver and in the middle of them.
-/

set_option autoImplicit false

namespace InstrumentLink

namespace Mac

abbrev Script := List (Option Bytes)

def Script.next (script : Script) : Option Bytes := script.head?.join

/-- A MAC that transmits what it is asked to. `Idle` and `Holding` name the script that is still to
come, between two polls and while a frame is held for the driver. -/
structure Scripted {Hardware : Type} [Device Hardware] (geometry : SlotGeometry)
    (Idle Holding : Script → Hardware → Prop) (side : Hardware → TransmitSide) : Prop where
  idle : ∀ script, Transmitter geometry (Idle script) side
  holding : ∀ script, Transmitter geometry (Holding script) side
  clears : ∀ script, Clears (Idle script) side
  releases : ∀ script, Releases (Holding script) (Idle script) side
  silent : ∀ script device, script.next = none → Idle script device →
    Returns (readRegister .writerEvent device) fun asked =>
      asked.1 &&& eventBit = 0 ∧ Idle script.tail asked.2 ∧ (side asked.2).sent = (side device).sent
  reports : ∀ frame script device, Idle (some frame :: script) device →
    Reports geometry (Holding script) side frame device

end Mac

namespace SlotRing

variable {Hardware : Type} [Mac.Device Hardware] {geometry : Mac.SlotGeometry}
  {Idle Holding : Mac.Script → Hardware → Prop} {side : Hardware → Mac.TransmitSide}
  {framing : Bool} {ring : SlotRing Hardware} {script : Mac.Script}

theorem Transmitting.polls_nothing (scripted : Mac.Scripted geometry Idle Holding side)
    (nothing : script.next = none) (sound : Transmitting geometry (Idle script) framing ring) :
    Returns ring.pollReceive fun answer =>
      Transmitting geometry (Idle script.tail) framing answer.2.1 ∧
      (view side answer.2.1).sent = (view side ring).sent ∧ answer.1 = none := by
  have silent : Transmitting geometry (Mac.Silent (Idle script.tail) side) framing ring :=
    sound.of_device (scripted.silent script _ nothing sound.good)
  exact silent.polls_silence

theorem Transmitting.polls_frame (scripted : Mac.Scripted geometry Idle Holding side)
    {frame : Bytes} (sound : Transmitting geometry (Idle (some frame :: script)) framing ring)
    (fits : frame.length ≤ geometry.slotSize) :
    Returns ring.pollReceive fun answer =>
      Transmitting geometry (Holding script) framing answer.2.1 ∧
      (view side answer.2.1).sent = (view side ring).sent ∧
      ∃ received, answer.1 = some received ∧ answer.2.1.receivedFrame received = .ok frame := by
  have reporting : Transmitting geometry (Mac.Reports geometry (Holding script) side frame) framing
      ring := sound.of_device (scripted.reports frame script _ sound.good)
  exact reporting.polls (scripted.holding script).large fits

end SlotRing

namespace Simulation

open Mac (Script)

/-- The simulated device, with a schedule of what arrives right before each of its polls. -/
structure Scheduled where
  mac : SimulatedMac
  schedule : Script

namespace Scheduled

def arrived (scheduled : Scheduled) : SimulatedMac :=
  { scheduled.mac with wire := scheduled.mac.wire ++ scheduled.schedule.next.toList }

def read (register : Mac.Register) (scheduled : Scheduled) :
    Except Fault (UInt32 × Scheduled) := do
  if register = .writerEvent then
    let (value, mac) ← Mac.readRegister register scheduled.arrived
    return (value, ⟨mac, scheduled.schedule.tail⟩)
  else
    let (value, mac) ← Mac.readRegister register scheduled.mac
    return (value, { scheduled with mac })

instance : Mac.Device Scheduled where
  readRegister := read
  writeRegister register value scheduled := do
    return { scheduled with mac := ← Mac.writeRegister register value scheduled.mac }
  memory scheduled := Mac.memory scheduled.mac
  setMemory octets scheduled := { scheduled with mac := Mac.setMemory octets scheduled.mac }
  patience scheduled := Mac.patience scheduled.mac

theorem read_poll {scheduled : Scheduled} {value : UInt32} {mac : SimulatedMac}
    (polled : Mac.readRegister .writerEvent scheduled.arrived = .ok (value, mac)) :
    Mac.readRegister .writerEvent scheduled = .ok (value, ⟨mac, scheduled.schedule.tail⟩) := by
  change read .writerEvent scheduled = _
  unfold read
  rw [if_pos rfl]
  exact bind_known polled rfl

theorem read_other {register : Mac.Register} {scheduled : Scheduled} {value : UInt32}
    {mac : SimulatedMac} (other : register ≠ .writerEvent)
    (answered : Mac.readRegister register scheduled.mac = .ok (value, mac)) :
    Mac.readRegister register scheduled = .ok (value, { scheduled with mac }) := by
  change read register scheduled = _
  unfold read
  rw [if_neg other]
  exact bind_known answered rfl

def side (scheduled : Scheduled) : Mac.TransmitSide := scheduled.mac.side

/-- A calm device whose schedule is a script of frames that fit a slot. -/
structure Follows (geometry : Mac.SlotGeometry) (pending : UInt32) (script : Script)
    (scheduled : Scheduled) : Prop where
  calm : scheduled.mac.Calm geometry pending
  upcoming : scheduled.schedule = script
  fits : ∀ frame, some frame ∈ script → frame.length ≤ geometry.slotSize

variable {geometry : Mac.SlotGeometry} {pending : UInt32} {script : Script}

theorem Follows.writes {scheduled : Scheduled} {before : UInt32} {register : Mac.Register}
    {value : UInt32} (follows : Follows geometry before script scheduled)
    {good : SimulatedMac → Prop}
    (written : Returns (Mac.writeRegister register value scheduled.mac) fun mac =>
      mac.Calm geometry pending ∧ good mac) :
    Returns (Mac.writeRegister register value scheduled) fun after =>
      Follows geometry pending script after ∧ good after.mac :=
  written.bind fun _ holds => Returns.ok ⟨⟨holds.1, follows.upcoming, follows.fits⟩, holds.2⟩

theorem transmitter (named : geometry.txSlots ≤ 4294967296) :
    Mac.Transmitter geometry (Follows geometry pending script) side where
  named := named
  large := fun scheduled follows => follows.calm.whole
  slots := fun scheduled follows =>
    (SimulatedMac.transmitter named).slots scheduled.mac follows.calm
  ready := fun scheduled follows => by
    obtain ⟨⟨value, mac⟩, ready, calm, same, less⟩ :=
      (SimulatedMac.transmitter named).ready scheduled.mac follows.calm
    exact ⟨(value, { scheduled with mac }), read_other (by decide) ready,
      ⟨calm, follows.upcoming, follows.fits⟩, same, less⟩
  choose := fun scheduled value follows =>
    follows.writes ((SimulatedMac.transmitter named).choose scheduled.mac value follows.calm)
  measure := fun scheduled value follows =>
    follows.writes ((SimulatedMac.transmitter named).measure scheduled.mac value follows.calm)
  start := fun scheduled follows slot length =>
    follows.writes ((SimulatedMac.transmitter named).start scheduled.mac follows.calm slot length)
  set_memory := fun scheduled octets follows length front => by
    obtain ⟨calm, same⟩ := (SimulatedMac.transmitter named).set_memory scheduled.mac octets
      follows.calm length front
    exact ⟨⟨calm, follows.upcoming, follows.fits⟩, same⟩

theorem Follows.silent {scheduled : Scheduled} (follows : Follows geometry 0 script scheduled)
    (nothing : script.next = none) :
    Returns (Mac.readRegister .writerEvent scheduled) fun asked => asked.1 &&& Mac.eventBit = 0 ∧
      Follows geometry 0 script.tail asked.2 ∧ (side asked.2).sent = (side scheduled).sent := by
  obtain ⟨mac, schedule⟩ := scheduled
  obtain ⟨calm, rfl, fits⟩ := follows
  have same : arrived ⟨mac, schedule⟩ = mac := by
    have quiet : schedule.next = none := nothing
    unfold arrived
    rw [quiet, Option.toList_none, List.append_nil]
  have polled : Mac.readRegister .writerEvent (arrived ⟨mac, schedule⟩) = .ok (0, mac) := by
    rw [same]
    exact SimulatedMac.Calm.reads_nothing calm
  refine ⟨(0, ⟨mac, schedule.tail⟩), read_poll polled, UInt32.zero_and, ⟨calm, rfl, ?_⟩, rfl⟩
  exact fun frame member => fits frame (List.mem_of_mem_tail member)

theorem Follows.reports {scheduled : Scheduled} {frame : Bytes}
    (follows : Follows geometry 0 (some frame :: script) scheduled)
    (numbered : geometry.rxSlots ≤ 4294967296) (narrow : geometry.slotSize < 4294967296) :
    Mac.Reports geometry (Follows geometry 1 script) side frame scheduled := by
  obtain ⟨mac, schedule⟩ := scheduled
  obtain ⟨calm, rfl, fits⟩ := follows
  have short := fits frame (List.mem_cons_self ..)
  obtain ⟨⟨event, asked⟩, polled, pending, ⟨slot, named⟩, naming, inside, ⟨length, measured⟩,
    measuring, octets, calm, same, held⟩ :=
    calm.reports numbered short (Nat.lt_of_le_of_lt short narrow)
  exact ⟨_, read_poll polled, pending, _, read_other (by decide) naming, inside, _,
    read_other (by decide) measuring, octets,
    ⟨calm, rfl, fun frame member => fits frame (List.mem_cons_of_mem _ member)⟩, same, held⟩

/-- A simulated device on a schedule receives by it, whatever the schedule is. -/
theorem scripted (geometry : Mac.SlotGeometry) (named : geometry.txSlots ≤ 4294967296)
    (numbered : geometry.rxSlots ≤ 4294967296) (narrow : geometry.slotSize < 4294967296) :
    Mac.Scripted geometry (Follows geometry 0) (Follows geometry 1) side where
  idle := fun _ => transmitter named
  holding := fun _ => transmitter named
  clears := fun _ register scheduled event follows =>
    follows.writes ((SimulatedMac.conveys geometry named numbered).clears register scheduled.mac
      event follows.calm)
  releases := fun _ scheduled follows =>
    follows.writes ((SimulatedMac.conveys geometry named numbered).releases scheduled.mac
      follows.calm)
  silent := fun _ _ nothing follows => follows.silent nothing
  reports := fun _ _ _ follows => follows.reports numbered narrow

end Scheduled

end Simulation

end InstrumentLink
