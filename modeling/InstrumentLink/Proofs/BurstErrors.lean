import InstrumentLink.Proofs.CrcBursts
import InstrumentLink.Proofs.FrameWays
import InstrumentLink.Proofs.FramingInverse
import InstrumentLink.Proofs.SafeRing
import InstrumentLink.Proofs.WellFormedFrames

/-!
No short burst of errors gets past the check sequence.

A frame that was accepted leaves one and the same residue in the register of the CRC. Damage that
lies within four octets leaves another, wherever it lies, the sequence itself included; damage to the
preamble is seen before that. A link that takes such a frame counts it, gives it back and does
nothing else.
-/

set_option autoImplicit false

namespace InstrumentLink

/-- Two strings of one length are different, but only within so many octets next to each other. -/
structure Bytes.Burst (width : Nat) (data damaged : Bytes) : Prop where
  length : damaged.length = data.length
  differ : damaged ≠ data
  window : ∃ start, ∀ index, index < start ∨ start + width ≤ index →
    damaged[index]? = data[index]?

namespace Bytes.Burst

variable {width : Nat} {data damaged : Bytes}

theorem split (burst : Burst width data damaged) :
    ∃ front sound broken behind, data = front ++ sound ++ behind ∧
      damaged = front ++ broken ++ behind ∧
      broken.length = sound.length ∧ broken.length ≤ width ∧ broken ≠ sound := by
  obtain ⟨start, outside⟩ := burst.window
  have whole (octets : Bytes) : octets.take start ++ (octets.drop start).take width ++
      octets.drop (start + width) = octets := by
    rw [← List.take_add, List.take_append_drop]
  have front : damaged.take start = data.take start := by
    apply List.ext_getElem?
    intro index
    simp only [List.getElem?_take]
    split
    · next before => exact outside index (.inl before)
    · rfl
  have behind : damaged.drop (start + width) = data.drop (start + width) := by
    apply List.ext_getElem?
    intro index
    simp only [List.getElem?_drop]
    exact outside _ (.inr (Nat.le_add_right _ _))
  refine ⟨data.take start, (data.drop start).take width, (damaged.drop start).take width,
    data.drop (start + width), (whole data).symm, ?_, ?_, List.length_take_le _ _, ?_⟩
  · rw [← front, ← behind, whole]
  · simp only [List.length_take, List.length_drop, burst.length]
  · intro same
    apply burst.differ
    rw [← whole damaged, front, same, behind, whole]

theorem behind (burst : Burst width data damaged) {front : Nat}
    (same : damaged.take front = data.take front) :
    Burst width (data.drop front) (damaged.drop front) := by
  obtain ⟨start, outside⟩ := burst.window
  refine ⟨?_, ?_, start - front, fun index other => ?_⟩
  · rw [List.length_drop, List.length_drop, burst.length]
  · intro rest
    apply burst.differ
    rw [← List.take_append_drop front damaged, same, rest, List.take_append_drop]
  · rw [List.getElem?_drop, List.getElem?_drop]
    exact outside _ (by omega)

end Bytes.Burst

namespace Ethernet

open Checksum (Crc32.run Crc32.residue Crc32.run_eq_residue_iff Crc32.eq_of_run_eq)

/-- Whatever stands in front of its check sequence, an accepted frame leaves the same residue. -/
theorem residue_of_accepted {framed : Bytes} {stop : Nat}
    (accepted : checkFraming framed = .ok stop) :
    Crc32.run 0xffffffff (framed.drop preambleLength) = Crc32.residue := by
  obtain ⟨long, whole, -, verified⟩ := (check_framing_iff framed stop).mp accepted
  have check : (framed.drop stop).length = 4 := by
    rw [List.length_drop, ← whole, Nat.add_sub_cancel_left]
    rfl
  have parts : framed.drop preambleLength =
      (framed.take stop).drop preambleLength ++ framed.drop stop := by
    nth_rewrite 1 [← List.take_append_drop stop framed]
    exact List.drop_append_of_le_length (by rw [List.length_take]; omega)
  rw [parts]
  exact (Crc32.run_eq_residue_iff _ check).mpr verified

def damage (damaged : Bytes) : FramingError :=
  if damaged.take preambleLength = preamble then .frameCheckMismatch else .badPreamble

theorem refused_of_burst {framed damaged : Bytes} {stop : Nat}
    (accepted : checkFraming framed = .ok stop) (burst : Bytes.Burst 4 framed damaged) :
    checkFraming damaged = .error (damage damaged) := by
  obtain ⟨long, whole, starts, -⟩ := (check_framing_iff framed stop).mp accepted
  have length := burst.length
  cases checked : checkFraming damaged with
  | ok other =>
      exfalso
      obtain ⟨-, -, front, -⟩ := (check_framing_iff damaged other).mp checked
      -- Both frames leave the same residue, so the burst behind the preambles is none.
      obtain ⟨before, sound, broken, after, data, changed, same, short, differ⟩ :=
        (burst.behind (front.trans starts.symm)).split
      have residues := (residue_of_accepted checked).trans (residue_of_accepted accepted).symm
      rw [data, changed] at residues
      exact differ (Crc32.eq_of_run_eq short same residues)
  | error cause =>
      unfold checkFraming at checked
      rw [if_neg (by omega)] at checked
      unfold damage
      split at checked
      · next bad =>
          rw [if_neg bad]
          exact checked.symm
      · next front =>
          rw [if_pos (not_not.mp front)]
          dsimp only at checked
          split at checked
          · exact checked.symm
          · cases checked

end Ethernet

namespace SlotRing

open Mac (Watched)

variable {Hardware : Type} {ring middle after : SlotRing (Watched Hardware)}

def Listened (ring after : SlotRing (Watched Hardware)) : Prop :=
  after = { ring with device := after.device } ∧ after.device.record = ring.device.record

theorem Listened.trans (first : Listened ring middle) (second : Listened middle after) :
    Listened ring after := by
  obtain ⟨same, record⟩ := first
  obtain ⟨again, later⟩ := second
  refine ⟨?_, later.trans record⟩
  rw [again, same]

variable [Mac.Device Hardware]

theorem read_listened (register : Mac.Register) (ring : SlotRing (Watched Hardware)) :
    Yields (Mac.readRegister register ring.device) fun answer =>
      Listened ring { ring with device := answer.2 } :=
  (Yields.intro _).bind fun _ _ => ⟨rfl, rfl⟩

theorem acknowledge_listened (ring : SlotRing (Watched Hardware)) :
    Yields ring.acknowledge (Listened ring) := by
  have written : Yields (Mac.writeRegister .writerEvent Mac.eventBit ring.device) fun after =>
      after.record = ring.device.record := (Yields.intro _).bind fun _ _ => rfl
  exact written.bind fun device same => ⟨rfl, same⟩

theorem poll_listened (ring : SlotRing (Watched Hardware)) :
    Yields ring.pollReceive fun answer => Listened ring answer.2.1 := by
  unfold pollReceive
  apply (read_listened .writerEvent ring).bind
  rintro ⟨event, device⟩ asked
  dsimp only
  split
  · exact asked
  · apply (read_listened .writerSlot { ring with device }).bind
    rintro ⟨slot, device⟩ named
    apply (read_listened .writerLength { ring with device }).bind
    rintro ⟨length, device⟩ measured
    have reported := (asked.trans named).trans measured
    dsimp only
    split
    · exact reported
    · exact (acknowledge_listened _).bind fun after acknowledged => reported.trans acknowledged

end SlotRing

namespace Link

open Mac (Watched)

variable {Hardware Consumer : Type} [Mac.Device Hardware]

/-- A frame was taken and given back, and nothing came of it but the counts. -/
structure Discards (link after : Link (Watched Hardware) Consumer) : Prop where
  config : after.config = link.config
  cache : after.cache = link.cache
  registration : after.registration = link.registration
  stats : after.stats = { link.stats with
    rxFrames := link.stats.rxFrames + 1, dropped := link.stats.dropped + 1 }
  listened : link.ring.Listened after.ring

/-- For every frame that the check accepts and every damage to four octets next to each other, or
fewer, anywhere in it: the check refuses what has become of it. A link that takes it from whatever
device calls it corrupt, counts one more frame and one more drop, writes nothing to the transmit
side, and leaves peer and consumer as they are. -/
theorem short_bursts_are_caught [Udp.Handler Consumer] {framed damaged : Bytes} {stop : Nat}
    (accepted : Ethernet.checkFraming framed = .ok stop)
    (burst : Bytes.Burst 4 framed damaged) :
    Ethernet.checkFraming damaged = .error (Ethernet.damage damaged) ∧
    ∀ link : Link (Watched Hardware) Consumer, link.interface.softwareFraming = true →
      ∀ received polled log, link.ring.pollReceive = .ok (some received, polled, log) →
      polled.receivedFrame received = .ok damaged →
      Returns (polled.release received) (fun _ => True) →
        Returns link.service fun answer =>
          answer.1 = some .corrupt ∧ link.Discards answer.2.1 ∧
          answer.2.2 = log ++ [.framingRefused damaged.length (Ethernet.damage damaged)] := by
  have refused := Ethernet.refused_of_burst accepted burst
  refine ⟨refused, fun link software received polled log asked taken given => ?_⟩
  have polling := link.ring.poll_listened.of_ok asked
  obtain ⟨released, giving, -⟩ := given
  have back := polled.acknowledge_listened.of_ok giving
  have framing : unframe link.interface damaged = .ok (.error (Ethernet.damage damaged)) := by
    unfold unframe
    rw [if_pos software, refused]
    rfl
  unfold service
  apply Returns.bind_ok asked
  apply Returns.bind_ok taken
  dsimp only
  unfold dispatch
  rw [bind_assoc]
  apply Returns.bind_ok framing
  apply Returns.bind_ok giving
  exact Returns.ok ⟨rfl, ⟨rfl, rfl, rfl, rfl, polling.trans back⟩, rfl⟩

/-- Damage to the last octet of a frame and the third of its check sequence. -/
theorem damage_across_the_boundary_is_caught :
    let framed := Ethernet.withFraming (Bytes.zeros 14)
    let damaged := (framed.set 21 1).set 24 0
    let link : Link (Watched Mailbox) Simulation.Consumer := {
      config := { hardwareFraming := false }
      ring := {
        device := ⟨⟨Bytes.padTo 3064 damaged, [1, 0, 26]⟩, {}⟩
        geometry := ⟨1532, 1, 1, by decide, by decide, by decide⟩
        softwareFrameCheck := true } }
    Ethernet.checkFraming framed = .ok 22 ∧
      Returns link.service fun answer => answer.1 = some .corrupt ∧ link.Discards answer.2.1 := by
  intro framed damaged link
  have accepted : Ethernet.checkFraming framed = .ok 22 :=
    Ethernet.check_framing_with_framing (by decide)
  have burst : Bytes.Burst 4 framed damaged := by
    refine ⟨by simp [damaged], by decide +kernel, 21, fun index outside => ?_⟩
    rw [List.getElem?_set_ne (by omega), List.getElem?_set_ne (by omega)]
  have seen : link.ring.pollReceive.toOption.map (fun answer =>
      (answer.1, (answer.2.1.receivedFrame ⟨0, 26⟩).toOption)) =
        some (some ⟨0, 26⟩, some damaged) := by decide +kernel
  obtain ⟨⟨received, polled, log⟩, asked, same⟩ := Returns.of_seen seen
  obtain ⟨rfl, held⟩ := Prod.mk.inj same
  have taken : polled.receivedFrame ⟨0, 26⟩ = .ok damaged := ok_of_to_option held
  have caught := (short_bursts_are_caught accepted burst).2 link rfl _ polled log asked taken
    ⟨_, rfl, trivial⟩
  exact ⟨accepted, caught.mono fun answer holds => ⟨holds.1, holds.2.1⟩⟩

end Link

end InstrumentLink
