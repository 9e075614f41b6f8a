import InstrumentLink.Proofs.Observers
import InstrumentLink.Proofs.SimulatedTraffic

/-!
The simulated MAC on film.

After every access a picture is taken of what the device holds for its driver, and whatever is added
to the wire is noted. The pictures tell whether a frame stayed as it was for as long as the driver
had it, and whether it was taken back exactly once.
-/

set_option autoImplicit false

namespace InstrumentLink.Simulation

open Mac (Clears Releases Reports Sender Silent)

/-- A simulated MAC with all frames that were queued towards it and its pictures so far. -/
structure Filmed where
  mac : SimulatedMac
  queued : List Bytes := []
  film : List (Option Bytes) := []

namespace Filmed

def ofGeometry (geometry : Mac.SlotGeometry) : Filmed := { mac := .ofGeometry geometry }

def arrived (filmed : Filmed) : List Bytes :=
  filmed.queued.take (filmed.queued.length - filmed.mac.wire.length)

def next (filmed : Filmed) (mac : SimulatedMac) : Filmed where
  mac
  queued := filmed.queued ++ mac.wire.drop filmed.mac.wire.length
  film := filmed.film ++ [mac.reported]

instance : Mac.Device Filmed where
  readRegister register filmed := do
    let (value, mac) ← Mac.readRegister register filmed.mac
    return (value, filmed.next mac)
  writeRegister register value filmed := do
    return filmed.next (← Mac.writeRegister register value filmed.mac)
  memory filmed := Mac.memory filmed.mac
  setMemory octets filmed := filmed.next (Mac.setMemory octets filmed.mac)
  patience filmed := Mac.patience filmed.mac

variable {filmed : Filmed} {register : Mac.Register} {value : UInt32}

theorem read_next {good : UInt32 × SimulatedMac → Prop}
    (returns : Returns (Mac.readRegister register filmed.mac) good) :
    Returns (Mac.readRegister register filmed) fun answer =>
      ∃ mac, answer.2 = filmed.next mac ∧ good (answer.1, mac) :=
  returns.bind fun answer holds => Returns.ok ⟨answer.2, rfl, holds⟩

theorem write_next {good : SimulatedMac → Prop}
    (returns : Returns (Mac.writeRegister register value filmed.mac) good) :
    Returns (Mac.writeRegister register value filmed) fun after =>
      ∃ mac, after = filmed.next mac ∧ good mac :=
  returns.bind fun mac holds => Returns.ok ⟨mac, rfl, holds⟩

end Filmed

/-- A film shows that some frames were held for the driver, one after the other, and which one is
held last. Each appeared when nothing else was held, stayed as it was, and was taken back once. -/
inductive Shows : List Bytes → Option Bytes → List (Option Bytes) → Prop where
  | start : Shows [] none []
  | stays {taken : List Bytes} {held : Option Bytes} {film : List (Option Bytes)}
      (before : Shows taken held film) : Shows taken held (film ++ [held])
  | appears {taken : List Bytes} {film : List (Option Bytes)} (frame : Bytes)
      (before : Shows taken none film) : Shows taken (some frame) (film ++ [some frame])
  | taken_back {taken : List Bytes} {frame : Bytes} {film : List (Option Bytes)}
      (before : Shows taken (some frame) film) : Shows (taken ++ [frame]) none (film ++ [none])

/-- Since a moment, all pictures show the same. -/
def Still (held : Option Bytes) (before film : List (Option Bytes)) : Prop :=
  ∃ count, film = before ++ List.replicate count held

theorem Still.snoc {held : Option Bytes} {before film : List (Option Bytes)}
    (still : Still held before film) : Still held before (film ++ [held]) := by
  obtain ⟨count, rfl⟩ := still
  exact ⟨count + 1, by rw [List.append_assoc, List.replicate_succ']⟩

theorem Shows.still {taken : List Bytes} {held : Option Bytes} {before film : List (Option Bytes)}
    (shows : Shows taken held before) (still : Still held before film) : Shows taken held film := by
  obtain ⟨count, rfl⟩ := still
  induction count with
  | zero => rwa [List.replicate_zero, List.append_nil]
  | succ count induction =>
      rw [List.replicate_succ', ← List.append_assoc]
      exact induction.stays

/-- The invariant of a device on film: it holds the same since a moment, and what was queued
towards it arrived or is still on the wire, in this order. -/
structure Tracks (geometry : Mac.SlotGeometry) (held : Option Bytes) (arrived : List Bytes)
    (before : List (Option Bytes)) (filmed : Filmed) : Prop where
  sane : SimulatedMac.Sane geometry filmed.mac
  reported : filmed.mac.reported = held
  /-- The receive slots are filled in turn. -/
  slot : filmed.mac.nextRxSlot = arrived.length % geometry.rxSlots
  queued : filmed.queued = arrived ++ filmed.mac.wire
  still : Still held before filmed.film

namespace Tracks

open SimulatedMac (Fetches LeavesReceiver ThroughRegisters Sane)

variable {geometry : Mac.SlotGeometry} {held : Option Bytes} {arrived : List Bytes}
  {before : List (Option Bytes)} {filmed : Filmed} {mac : SimulatedMac} {frame octets : Bytes}
  {rest : List Bytes}

theorem arrived_eq (tracks : Tracks geometry held arrived before filmed) :
    filmed.arrived = arrived := by
  unfold Filmed.arrived
  rw [tracks.queued, List.length_append, Nat.add_sub_cancel, List.take_left]

theorem pending_of_none (tracks : Tracks geometry none arrived before filmed) :
    filmed.mac.writerPending = 0 := by
  have reported := tracks.reported
  unfold SimulatedMac.reported at reported
  split at reported
  · assumption
  · cases reported

theorem pending_of_some (tracks : Tracks geometry (some octets) arrived before filmed) :
    filmed.mac.writerPending = 1 := by
  have reported := tracks.reported
  unfold SimulatedMac.reported at reported
  split at reported
  · cases reported
  · next pending => exact tracks.sane.event.resolve_left pending

theorem stays (tracks : Tracks geometry held arrived before filmed) (sane : Sane geometry mac)
    (same : mac.reported = filmed.mac.reported) (slot : mac.nextRxSlot = filmed.mac.nextRxSlot)
    (arrives : ∃ more, mac.wire = filmed.mac.wire ++ more) :
    Tracks geometry held arrived before (filmed.next mac) := by
  obtain ⟨more, wire⟩ := arrives
  have reported := same.trans tracks.reported
  refine ⟨sane, reported, slot.trans tracks.slot, ?_, ?_⟩
  · change filmed.queued ++ mac.wire.drop filmed.mac.wire.length = _ ++ mac.wire
    rw [tracks.queued, wire, List.drop_left, List.append_assoc]
  · change Still held before (filmed.film ++ [mac.reported])
    rw [reported]
    exact tracks.still.snoc

theorem leaves (tracks : Tracks geometry held arrived before filmed)
    (leaves : LeavesReceiver filmed.mac mac) :
    Tracks geometry held arrived before (filmed.next mac) :=
  tracks.stays (tracks.sane.leaves leaves) (tracks.sane.leaves_reported leaves) leaves.next
    leaves.traffic.arrives

theorem fetches (tracks : Tracks geometry none arrived before filmed)
    (waiting : filmed.mac.wire = frame :: rest)
    (fetches : Fetches geometry frame rest filmed.mac mac) :
    Tracks geometry (some mac.named) (arrived ++ [frame]) (filmed.film ++ [some mac.named])
      (filmed.next mac) := by
  refine ⟨fetches.sane, fetches.reported, ?_, ?_, 0, ?_⟩
  · rw [List.length_append, List.length_singleton, ← Nat.mod_add_mod, ← tracks.slot]
    exact fetches.next
  · change filmed.queued ++ mac.wire.drop filmed.mac.wire.length = _ ++ mac.wire
    rw [tracks.queued, fetches.wire, waiting, List.drop_of_length_le (by simp)]
    simp
  · rw [List.replicate_zero, List.append_nil, ← fetches.reported]
    rfl

theorem clears (tracks : Tracks geometry (some octets) arrived before filmed) :
    Tracks geometry none arrived (filmed.film ++ [none])
      (filmed.next { filmed.mac with writerPending := 0 }) := by
  have sane := tracks.sane
  refine ⟨⟨sane.divided, sane.whole, sane.next, sane.wire, sane.peer, .inl rfl,
    fun pending => (pending rfl).elim⟩, rfl, tracks.slot, ?_, 0, ?_⟩
  · change filmed.queued ++ filmed.mac.wire.drop filmed.mac.wire.length = arrived ++ filmed.mac.wire
    rw [tracks.queued, List.drop_length, List.append_nil]
  · exact (List.append_nil _).symm

theorem sender :
    Sender geometry (Tracks geometry held arrived before) fun filmed => filmed.mac.side where
  large := fun filmed tracks => tracks.sane.whole
  slots := fun filmed tracks => Sane.sender.slots _ tracks.sane
  ready := fun filmed tracks => by
    apply (Filmed.read_next ((Sane.sender.ready _ tracks.sane).and
      (SimulatedMac.read_leaves .readerReady _ (by decide)))).mono
    rintro ⟨value, after⟩ ⟨mac, rfl, ⟨-, same, less⟩, kept⟩
    exact ⟨tracks.leaves kept, same, less⟩
  choose := fun filmed value tracks => by
    apply (Filmed.write_next ((Sane.sender.choose _ value tracks.sane).and
      (SimulatedMac.write_leaves .readerSlot value _ (by decide)))).mono
    rintro after ⟨mac, rfl, ⟨-, same⟩, kept⟩
    exact ⟨tracks.leaves kept, same⟩
  measure := fun filmed value tracks => by
    apply (Filmed.write_next ((Sane.sender.measure _ value tracks.sane).and
      (SimulatedMac.write_leaves .readerLength value _ (by decide)))).mono
    rintro after ⟨mac, rfl, ⟨-, same⟩, kept⟩
    exact ⟨tracks.leaves kept, same⟩
  start := fun filmed tracks slot length => by
    apply (Filmed.write_next ((Sane.sender.start _ tracks.sane slot length).and
      (SimulatedMac.write_leaves .readerStart 1 _ (by decide)))).mono
    rintro after ⟨mac, rfl, ⟨-, same⟩, kept⟩
    exact ⟨tracks.leaves kept, same⟩
  set_memory := fun filmed octets tracks length front => by
    have same := (Sane.sender.set_memory _ octets tracks.sane length front).2
    rw [← tracks.sane.divided] at front
    exact ⟨tracks.leaves (SimulatedMac.set_memory_leaves octets _ length front), same⟩

theorem releases (film : List (Option Bytes)) :
    Releases (fun filmed => Tracks geometry (some octets) arrived before filmed ∧
      filmed.film = film) (fun after => Tracks geometry none arrived (film ++ [none]) after ∧
      after.film = film ++ [none]) fun filmed => filmed.mac.side := by
  rintro filmed ⟨tracks, rfl⟩
  have held := tracks.pending_of_some
  have cleared : filmed.mac.writerPending &&& ~~~ Mac.eventBit = 0 := by
    rw [held]
    decide
  have written : Mac.writeRegister .writerEvent Mac.eventBit filmed.mac =
      .ok { filmed.mac with writerPending := 0 } := by
    rw [← cleared]
    rfl
  apply (Filmed.write_next ⟨_, written, rfl⟩).mono
  rintro after ⟨mac, rfl, rfl⟩
  exact ⟨⟨tracks.clears, rfl⟩, rfl⟩

theorem silent (tracks : Tracks geometry none arrived before filmed)
    (empty : filmed.mac.wire = []) :
    Silent (Tracks geometry none arrived before) (fun filmed => filmed.mac.side) filmed := by
  have polled := SimulatedMac.polls_nothing tracks.pending_of_none empty
  apply (Filmed.read_next ⟨_, polled, rfl⟩).mono
  rintro ⟨event, after⟩ ⟨mac, rfl, same⟩
  cases same
  exact ⟨UInt32.zero_and, tracks.leaves (.refl _), rfl⟩

theorem reports (tracks : Tracks geometry none arrived before filmed)
    (waiting : filmed.mac.wire = frame :: rest) :
    ∃ octets, ThroughRegisters (arrived.length % geometry.rxSlots) frame octets ∧
      octets.length ≤ geometry.slotSize ∧
      Reports geometry
        (Tracks geometry (some octets) (arrived ++ [frame]) (filmed.film ++ [some octets]))
        (fun filmed => filmed.mac.side) octets filmed := by
  have short : frame.length ≤ geometry.slotSize :=
    tracks.sane.wire frame (by rw [waiting]; exact List.mem_cons_self)
  obtain ⟨polled, received, fetches⟩ := tracks.sane.fetches tracks.pending_of_none waiting
  obtain ⟨slot, fits⟩ := fetches.inside tracks.sane short
  have through := fetches.through_registers
  rw [tracks.slot] at through
  refine ⟨polled.named, through, fits,
    (Filmed.read_next ⟨_, fetches.polls received, rfl⟩).mono ?_⟩
  rintro ⟨event, after⟩ ⟨mac, rfl, same⟩
  cases same
  -- Reading where the frame is and how long changes nothing, but there are two pictures more.
  have holds := ((tracks.fetches waiting fetches).leaves (.refl _)).leaves (.refl _)
  have sent : polled.side.sent = filmed.mac.side.sent :=
    congrArg (List.map SentFrame.octets) fetches.sent
  have event : (1 : UInt32) &&& Mac.eventBit ≠ 0 := by decide
  have named : (polled.memory.drop (geometry.rxStart polled.writerSlot.toNat)).take
      polled.named.length = polled.named := by
    rw [fetches.length_named, ← fetches.sane.divided]
    rfl
  exact ⟨event, _, rfl, slot, _, rfl, fetches.length_named.symm, holds, sent, named⟩

end Tracks

inductive Happening where
  | arrival (frame : Bytes)
  | delay (polls : UInt32)
  | listener (peer : Peer)
  | collection

namespace Happening

def change : Happening → SimulatedMac → Except Fault SimulatedMac
  | .arrival frame, mac => mac.inject frame
  | .delay polls, mac => .ok (mac.setBusy polls)
  | .listener peer, mac => .ok (mac.setPeer peer)
  | .collection, mac => .ok mac.collect.2

/-- A peer only answers what has room in so many octets. -/
def Fits (room : Nat) : Happening → Prop
  | .listener peer => peer.Fits room
  | .arrival _ | .delay _ | .collection => True

/-- Nothing that happens disturbs the frame that is held, or the order of those that wait. -/
theorem change_yields {geometry : Mac.SlotGeometry} {mac : SimulatedMac}
    (sane : SimulatedMac.Sane geometry mac) (happening : Happening)
    (fits : happening.Fits geometry.slotSize) :
    Yields (happening.change mac) fun after => SimulatedMac.Sane geometry after ∧
      after.reported = mac.reported ∧ after.nextRxSlot = mac.nextRxSlot ∧
      ∃ arrived, after.wire = mac.wire ++ arrived := by
  obtain ⟨rfl, whole, next, wire, peer, event, report⟩ := sane
  have same : mac.wire = mac.wire ++ [] := (List.append_nil _).symm
  cases happening with
  | arrival frame =>
      change Yields (mac.inject frame) _
      unfold SimulatedMac.inject
      split
      · next short =>
          have longer := List.forall_mem_append.mpr ⟨wire, List.forall_mem_singleton.mpr short⟩
          exact ⟨⟨rfl, whole, next, longer, peer, event, report⟩, rfl, rfl, [frame], rfl⟩
      · trivial
  | delay polls => exact ⟨⟨rfl, whole, next, wire, peer, event, report⟩, rfl, rfl, [], same⟩
  | listener peer => exact ⟨⟨rfl, whole, next, wire, fits, event, report⟩, rfl, rfl, [], same⟩
  | collection => exact ⟨⟨rfl, whole, next, wire, peer, event, report⟩, rfl, rfl, [], same⟩

end Happening

/-- The device after something happened. A frame that is too long for a slot does not get on the
wire. -/
def Filmed.befallen (happening : Happening) (filmed : Filmed) : Filmed :=
  match happening.change filmed.mac with
  | .ok mac => filmed.next mac
  | .error _ => filmed

theorem Tracks.befallen {geometry : Mac.SlotGeometry} {held : Option Bytes}
    {arrived : List Bytes} {before : List (Option Bytes)} {filmed : Filmed}
    (tracks : Tracks geometry held arrived before filmed) (happening : Happening)
    (fits : happening.Fits geometry.slotSize) :
    Tracks geometry held arrived before (filmed.befallen happening) := by
  unfold Filmed.befallen
  split
  · next mac changed =>
      obtain ⟨sane, same, slot, arrives⟩ :=
        (happening.change_yields tracks.sane fits).of_ok changed
      exact tracks.stays sane same slot arrives
  · exact tracks

end InstrumentLink.Simulation
