import Mathlib.Tactic.SplitIfs
import InstrumentLink.Proofs.FaithfulPort
import InstrumentLink.Proofs.SafeRing

/-!
The slot ring of a device that leaves the transmit slots alone is a faithful port.

Of a device a driver that transmits sees the octets of the transmit slots, what it wrote to the
registers, and the frames sent. A device is a transmitter if nothing else happens to these than what
the driver asks for: a start sends what is in the chosen slot then.
-/

set_option autoImplicit false

namespace InstrumentLink

namespace Bytes

theorem getElem_overwritten {data patch result : Bytes} {start : Nat}
    (written : overwrite data start patch = .ok result) (index : Nat) :
    result[index]? =
      if start ≤ index ∧ index < start + patch.length then patch[index - start]?
      else data[index]? := by
  unfold overwrite at written
  split at written
  · next inside =>
      cases written
      have front : (data.take start).length = start := by
        rw [List.length_take]
        omega
      by_cases before : index < start
      · rw [if_neg (by omega), List.append_assoc, List.getElem?_append_left (by omega),
          List.getElem?_take, if_pos before]
      · by_cases behind : index < start + patch.length
        · rw [if_pos ⟨by omega, behind⟩, List.getElem?_append_left (by simp; omega),
            List.getElem?_append_right (by omega), front]
        · rw [if_neg (by omega), List.getElem?_append_right (by simp; omega), List.getElem?_drop]
          congr 1
          simp only [List.length_append, front]
          omega
  · cases written

/-- Two strings of one length are the same but for some places. -/
def SameBut (places : Nat → Prop) (data other : Bytes) : Prop :=
  other.length = data.length ∧ ∀ index, ¬places index → other[index]? = data[index]?

theorem SameBut.of_overwrite {data patch result : Bytes} {start : Nat}
    (written : overwrite data start patch = .ok result) :
    SameBut (fun index => start ≤ index ∧ index < start + patch.length) data result :=
  ⟨length_overwrite written, fun index elsewhere => by
    rw [getElem_overwritten written, if_neg elsewhere]⟩

theorem SameBut.mono {places wider : Nat → Prop} {data other : Bytes}
    (same : SameBut places data other) (inside : ∀ index, places index → wider index) :
    SameBut wider data other :=
  ⟨same.1, fun index elsewhere => same.2 index fun place => elsewhere (inside index place)⟩

theorem SameBut.trans {places : Nat → Prop} {first second third : Bytes}
    (earlier : SameBut places first second) (later : SameBut places second third) :
    SameBut places first third :=
  ⟨later.1.trans earlier.1, fun index elsewhere =>
    (later.2 index elsewhere).trans (earlier.2 index elsewhere)⟩

theorem SameBut.drop {data other : Bytes} {stop : Nat} (same : SameBut (· < stop) data other) :
    other.drop stop = data.drop stop := by
  apply List.ext_getElem?
  intro index
  rw [List.getElem?_drop, List.getElem?_drop, same.2 _ (Nat.not_lt.mpr (Nat.le_add_right _ _))]

theorem overwrite_window {data patch result : Bytes} {start length offset : Nat}
    (written : overwrite data (start + offset) patch = .ok result)
    (inside : offset + patch.length ≤ length) (whole : start + length ≤ data.length) :
    overwrite ((data.drop start).take length) offset patch =
      .ok ((result.drop start).take length) := by
  have room : offset + patch.length ≤ ((data.drop start).take length).length := by
    rw [List.length_take, List.length_drop]
    omega
  have ok := overwrite_ok room
  rw [ok]
  congr 1
  -- Octet by octet, both sides are the patch inside it and the data elsewhere.
  apply List.ext_getElem?
  intro index
  rw [getElem_overwritten ok index]
  simp only [List.getElem?_take, List.getElem?_drop, getElem_overwritten written]
  split_ifs <;> first | rfl | omega | (congr 1; omega)

theorem window_overwritten {data patch result : Bytes} {start window length : Nat}
    (written : overwrite data start patch = .ok result)
    (apart : window + length ≤ start ∨ start + patch.length ≤ window) :
    (result.drop window).take length = (data.drop window).take length := by
  apply List.ext_getElem?
  intro index
  simp only [List.getElem?_take, List.getElem?_drop, getElem_overwritten written]
  split
  · rw [if_neg (by omega)]
  · rfl

theorem take_overwritten {data patch result : Bytes} {start front : Nat}
    (written : overwrite data start patch = .ok result) (before : front ≤ start) :
    result.take front = data.take front := by
  have apart : 0 + front ≤ start := by rwa [Nat.zero_add]
  exact window_overwritten written (.inl apart)

theorem window_of_take {data other : Bytes} {start length stop : Nat}
    (front : data.take stop = other.take stop) (inside : start + length ≤ stop) :
    (data.drop start).take length = (other.drop start).take length := by
  rw [List.take_drop, List.take_drop, ← Nat.min_eq_left inside, ← List.take_take, front,
    List.take_take]

end Bytes

namespace Mac

/-- What a driver that transmits sees of a device. -/
structure TransmitSide where
  slots : Bytes
  slot : UInt32
  length : UInt32
  sent : List Bytes

theorem SlotGeometry.tx_start_le (geometry : SlotGeometry) (slot : Nat) :
    geometry.txStart 0 ≤ geometry.txStart slot :=
  Nat.mul_le_mul_left _ (Nat.add_le_add_left (Nat.zero_le slot) _)

theorem SlotGeometry.drop_tx_start (geometry : SlotGeometry) (octets : Bytes) (slot : Nat) :
    (octets.drop (geometry.txStart 0)).drop (geometry.slotSize * slot) =
      octets.drop (geometry.txStart slot) := by
  simp only [List.drop_drop, txStart, Nat.mul_add, Nat.add_zero]

def TransmitSide.chosen (side : TransmitSide) (geometry : SlotGeometry) : Bytes :=
  (side.slots.drop (geometry.slotSize * side.slot.toNat)).take side.length.toNat

/-- The devices that fulfil `Good` do on their transmit side what the driver asks for, and are not
busy for ever. -/
structure Sender {Hardware : Type} [Device Hardware] (geometry : SlotGeometry)
    (Good : Hardware → Prop) (side : Hardware → TransmitSide) : Prop where
  large : ∀ device, Good device → (memory device).length = geometry.length
  slots : ∀ device, Good device → (side device).slots = (memory device).drop (geometry.txStart 0)
  ready : ∀ device, Good device →
    Returns (readRegister .readerReady device) fun answer =>
      Good answer.2 ∧ side answer.2 = side device ∧
        (answer.1 = 0 → patience answer.2 < patience device)
  choose : ∀ device value, Good device →
    Returns (writeRegister .readerSlot value device) fun after =>
      Good after ∧ side after = { side device with slot := value }
  measure : ∀ device value, Good device →
    Returns (writeRegister .readerLength value device) fun after =>
      Good after ∧ side after = { side device with length := value }
  start : ∀ device, Good device → (side device).slot.toNat < geometry.txSlots →
    (side device).length.toNat ≤ geometry.slotSize →
      Returns (writeRegister .readerStart 1 device) fun after => Good after ∧
        side after =
          { side device with sent := (side device).sent ++ [(side device).chosen geometry] }
  set_memory : ∀ device octets, Good device → octets.length = (memory device).length →
    octets.take (geometry.txStart 0) = (memory device).take (geometry.txStart 0) →
      Good (setMemory octets device) ∧
        side (setMemory octets device) =
          { side device with slots := octets.drop (geometry.txStart 0) }

/-- A device whose slot register can name every transmit slot. -/
structure Transmitter {Hardware : Type} [Device Hardware] (geometry : SlotGeometry)
    (Good : Hardware → Prop) (side : Hardware → TransmitSide) : Prop
    extends Sender geometry Good side where
  named : geometry.txSlots ≤ 4294967296

def Clears {Hardware : Type} [Device Hardware] (Good : Hardware → Prop)
    (side : Hardware → TransmitSide) : Prop :=
  ∀ register device, register = .writerEvent ∨ register = .readerEvent → Good device →
    Returns (writeRegister register eventBit device) fun after =>
      Good after ∧ (side after).sent = (side device).sent

variable {Hardware : Type} [Device Hardware] {geometry : SlotGeometry} {Good : Hardware → Prop}
  {side : Hardware → TransmitSide}

theorem Sender.await_ready (sender : Sender geometry Good side) (attempts : Nat)
    (device : Hardware) (good : Good device) (patient : patience device < attempts) :
    Returns (awaitReady attempts device) fun after => Good after ∧ side after = side device := by
  induction attempts generalizing device with
  | zero => exact (Nat.not_lt_zero _ patient).elim
  | succ attempts induction =>
      obtain ⟨⟨value, asked⟩, answer, good, same, less⟩ := sender.ready device good
      unfold awaitReady isReady
      rw [answer]
      change Returns (if decide (value ≠ 0) = true then _ else _) _
      split
      · exact Returns.ok ⟨good, same⟩
      · next busy =>
          have less := less (by simpa using busy)
          rw [← same]
          exact induction asked good (Nat.lt_of_lt_of_le less (Nat.le_of_lt_succ patient))

end Mac

namespace SlotRing

variable {Hardware : Type} [Mac.Device Hardware]

def view (side : Hardware → Mac.TransmitSide) (ring : SlotRing Hardware) : PortView where
  slot := ((side ring.device).slots.drop (ring.geometry.slotSize * ring.txSlot)).take
    ring.geometry.slotSize
  sent := (side ring.device).sent

def finish (framing : Bool) (octets : Bytes) : Bytes :=
  if framing then octets ++ Ethernet.frameCheck (octets.drop Ethernet.preambleLength) else octets

theorem append_returns {buffer : Bytes} {length : Nat} (front : Ethernet.preambleLength ≤ length)
    (room : length + Ethernet.frameCheckLength ≤ buffer.length) :
    ∃ framed, Ethernet.appendFrameCheck buffer length = .ok framed := by
  rw [Ethernet.appendFrameCheck, if_neg (Nat.not_lt.mpr front), if_neg (Nat.not_lt.mpr room)]
  exact ⟨_, rfl⟩

theorem finish_of_append {buffer framed : Bytes} {length framedLength : Nat}
    (appended : Ethernet.appendFrameCheck buffer length = .ok (framedLength, framed)) :
    framedLength = length + Ethernet.frameCheckLength ∧
      framed.take framedLength = finish true (buffer.take length) := by
  unfold Ethernet.appendFrameCheck at appended
  split at appended
  · cases appended
  · split at appended
    · cases appended
    · next room =>
        cases appended
        refine ⟨rfl, List.take_left' ?_⟩
        rw [List.length_append, List.length_take, Ethernet.length_frame_check]
        omega

/-- The invariant of a ring that transmits: its slots are those of a geometry, its current slot
exists, and its device is as good as ever. -/
structure Transmitting (geometry : Mac.SlotGeometry) (Good : Hardware → Prop) (framing : Bool)
    (ring : SlotRing Hardware) : Prop where
  divided : ring.geometry = geometry
  framing : ring.softwareFrameCheck = framing
  slot : ring.txSlot < geometry.txSlots
  good : Good ring.device

variable {geometry : Mac.SlotGeometry} {Good : Hardware → Prop} {side : Hardware → Mac.TransmitSide}
  {framing : Bool} {ring : SlotRing Hardware}

omit [Mac.Device Hardware] in
theorem Transmitting.of_device {Known : Hardware → Prop}
    (sound : Transmitting geometry Good framing ring) (known : Known ring.device) :
    Transmitting geometry Known framing ring :=
  ⟨sound.divided, sound.framing, sound.slot, known⟩

theorem Transmitting.slot_inside (sender : Mac.Sender geometry Good side)
    (sound : Transmitting geometry Good framing ring) :
    ring.txOffset + geometry.slotSize ≤ (Mac.memory ring.device).length := by
  rw [txOffset, sound.divided, sender.large _ sound.good]
  exact geometry.tx_slot_inside _ sound.slot

theorem Transmitting.view_slot (sender : Mac.Sender geometry Good side)
    (sound : Transmitting geometry Good framing ring) :
    (view side ring).slot =
      ((Mac.memory ring.device).drop ring.txOffset).take geometry.slotSize := by
  simp only [view, sender.slots _ sound.good, sound.divided, geometry.drop_tx_start, txOffset]

theorem Transmitting.length_slot (sender : Mac.Sender geometry Good side)
    (sound : Transmitting geometry Good framing ring) :
    (view side ring).slot.length = geometry.slotSize := by
  have inside := sound.slot_inside sender
  rw [sound.view_slot sender, List.length_take, List.length_drop]
  omega

theorem Transmitting.contents_eq (sender : Mac.Sender geometry Good side)
    (sound : Transmitting geometry Good framing ring) :
    ring.contents = .ok (view side ring).slot := by
  have inside := sound.slot_inside sender
  unfold contents
  rw [sound.view_slot sender, sound.divided,
    Bytes.slice_inside _ _ _ (Nat.le_add_right _ _) inside, Nat.add_sub_cancel_left]

theorem Transmitting.stores (sender : Mac.Sender geometry Good side)
    (sound : Transmitting geometry Good framing ring) (offset : Nat) (patch : Bytes)
    (inside : offset + patch.length ≤ geometry.slotSize) :
    Returns (ring.store offset patch) fun after => Transmitting geometry Good framing after ∧
      Bytes.overwrite (view side ring).slot offset patch = .ok (view side after).slot ∧
      (view side after).sent = (view side ring).sent := by
  have room := sound.slot_inside sender
  have front : geometry.txStart 0 ≤ ring.txOffset + offset := by
    rw [txOffset, sound.divided]
    exact Nat.le_trans (geometry.tx_start_le _) (Nat.le_add_right _ _)
  unfold store
  rw [if_pos (by rw [sound.divided]; exact inside)]
  obtain ⟨memory, written, length⟩ := Bytes.overwrite_inside (Mac.memory ring.device)
    (ring.txOffset + offset) patch (by omega)
  apply Returns.bind_ok written
  obtain ⟨good, same⟩ := sender.set_memory ring.device memory sound.good length
    (Bytes.take_overwritten written front)
  refine Returns.ok ⟨⟨sound.divided, sound.framing, sound.slot, good⟩, ?_, ?_⟩
  · rw [sound.view_slot sender, Bytes.overwrite_window written inside room]
    simp only [view, same, sound.divided, geometry.drop_tx_start, txOffset]
  · simp only [view, same]

/-- The device is started on the current slot, and sends what is in it as far as its registers can
name it. -/
theorem Transmitting.launches (sender : Mac.Sender geometry Good side)
    (sound : Transmitting geometry Good framing ring) (length : Nat)
    (fits : length ≤ geometry.slotSize) :
    Returns (ring.launch length) fun after => Transmitting geometry Good framing after ∧
      ∃ frame, (view side after).sent = (view side ring).sent ++ [frame] ∧
        (geometry.txSlots ≤ 4294967296 → length < 4294967296 →
          frame = (view side ring).slot.take length) := by
  unfold launch
  apply (sender.await_ready _ _ sound.good (Nat.lt_succ_self _)).bind
  rintro ready ⟨good, waited⟩
  apply (sender.choose ready _ good).bind
  rintro chosen ⟨good, choosing⟩
  apply (sender.measure chosen _ good).bind
  rintro measured ⟨good, measuring⟩
  have slot : (side measured).slot.toNat = ring.txSlot % 4294967296 := by
    rw [measuring, choosing, UInt32.toNat_ofNat']
  have octets : (side measured).length.toNat = length % 4294967296 := by
    rw [measuring, UInt32.toNat_ofNat']
  have slots : (side measured).slots = (side ring.device).slots := by
    rw [measuring, choosing, waited]
  have sent : (side measured).sent = (side ring.device).sent := by
    rw [measuring, choosing, waited]
  have exist := sound.slot
  have chosen := Nat.mod_le ring.txSlot 4294967296
  have short := Nat.mod_le length 4294967296
  apply (sender.start measured good (by omega) (by omega)).bind
  rintro started ⟨good, starting⟩
  have next : (ring.txSlot + 1) % ring.geometry.txSlots < geometry.txSlots := by
    rw [sound.divided]
    exact Nat.mod_lt _ geometry.has_tx_slot
  refine Returns.ok ⟨⟨sound.divided, sound.framing, next, good⟩,
    (side measured).chosen geometry, ?_, fun named narrow => ?_⟩
  · simp only [view, starting, sent]
  · rw [Nat.mod_eq_of_lt (by omega)] at slot
    rw [Nat.mod_eq_of_lt narrow] at octets
    simp only [view, Mac.TransmitSide.chosen, slot, octets, slots, sound.divided, List.take_take,
      Nat.min_eq_left fits]

theorem Transmitting.sends_stored (sender : Mac.Sender geometry Good side)
    (sound : Transmitting geometry Good framing ring) {octets : Bytes}
    (whole : octets.length = geometry.slotSize) (length : Nat) (fits : length ≤ geometry.slotSize) :
    Returns (ring.store 0 octets >>= launch length) fun after =>
      Transmitting geometry Good framing after ∧
      ∃ frame, (view side after).sent = (view side ring).sent ++ [frame] ∧
        (geometry.txSlots ≤ 4294967296 → length < 4294967296 → frame = octets.take length) := by
  apply (sound.stores sender 0 octets (by omega)).bind
  rintro stored ⟨stays, written, sent⟩
  have slot : octets = (view side stored).slot := by
    have filled := sound.length_slot sender
    rw [Bytes.overwrite_ok (by omega), Nat.zero_add, List.drop_of_length_le (by omega)] at written
    simpa using written
  rw [slot, ← sent]
  exact stays.launches sender length fits

theorem Transmitting.transmits (sender : Mac.Sender geometry Good side)
    (sound : Transmitting geometry Good framing ring) (length : Nat) :
    Returns (ring.transmit length) fun answer => Transmitting geometry Good framing answer.2.1 ∧
      ∃ frame, (view side answer.2.1).sent =
          ((view side ring).sent ++ if answer.1 then [frame] else []) ∧
        (geometry.txSlots ≤ 4294967296 → length ≤ Ethernet.maximumLength →
          frame = finish framing ((view side ring).slot.take length)) := by
  have nothing : (view side ring).sent = (view side ring).sent ++ [] := (List.append_nil _).symm
  have longest : Ethernet.maximumLength = 1532 := rfl
  unfold transmit
  rw [sound.framing]
  split
  · next software =>
      apply Returns.bind_ok (sound.contents_eq sender)
      cases appended : Ethernet.appendFrameCheck (view side ring).slot length with
      | error cause => exact Returns.ok ⟨sound, _, nothing, fun _ _ => rfl⟩
      | ok framed =>
          obtain ⟨framedLength, octets⟩ := framed
          obtain ⟨fits, same⟩ := Ethernet.append_frame_check_fits appended
          rw [sound.length_slot sender] at fits same
          obtain ⟨longer, front⟩ := finish_of_append appended
          have check : Ethernet.frameCheckLength = 4 := rfl
          dsimp only
          rw [← bind_assoc]
          apply (sound.sends_stored sender same framedLength fits).bind
          rintro launched ⟨stays, frame, sends, same⟩
          refine Returns.ok ⟨stays, frame, sends, fun named narrow => ?_⟩
          rw [same named (by omega), front, software]
  · next hardware =>
    split
    · next fits =>
        rw [sound.divided] at fits
        apply (sound.launches sender length fits).bind
        rintro launched ⟨sound, frame, sends, same⟩
        refine Returns.ok ⟨sound, frame, sends, fun named narrow => ?_⟩
        rw [same named (by omega), finish, if_neg hardware]
    · exact Returns.ok ⟨sound, _, nothing, fun _ _ => rfl⟩

theorem Transmitting.starts (sender : Mac.Sender geometry Good side)
    (clears : Mac.Clears Good side) (sound : Transmitting geometry Good framing ring) :
    Returns ring.start fun after => Transmitting geometry Good framing after ∧
      (view side after).sent = (view side ring).sent := by
  unfold start
  apply (clears .readerEvent _ (.inr rfl) sound.good).bind
  rintro first ⟨good, firstSame⟩
  apply (clears .writerEvent _ (.inl rfl) good).bind
  rintro second ⟨good, secondSame⟩
  apply (sender.choose second 0 good).bind
  rintro third ⟨good, thirdSame⟩
  refine Returns.ok ⟨⟨sound.divided, sound.framing, geometry.has_tx_slot, good⟩, ?_⟩
  simp only [view, thirdSame, secondSame, firstSame]

theorem Transmitting.safe_port (sender : Mac.Sender geometry Good side) (framing : Bool) :
    SafePort (Transmitting geometry Good framing) where
  contents := fun _ sound =>
    ⟨_, sound.contents_eq sender,
      Nat.le_trans geometry.holds_frame (Nat.le_of_eq (sound.length_slot sender).symm)⟩
  store := fun _ offset patch sound inside =>
    (sound.stores sender offset patch (Nat.le_trans inside geometry.holds_frame)).mono
      fun _ stored => stored.1
  transmit := fun _ length sound => (sound.transmits sender length).mono fun _ sent => sent.1

theorem faithful_port (transmitter : Mac.Transmitter geometry Good side) (framing : Bool) :
    FaithfulPort (Transmitting geometry Good framing) (view side) (finish framing) where
  room := fun _ sound => by
    rw [sound.length_slot transmitter.toSender]
    exact geometry.holds_frame
  contents := fun ring sound => sound.contents_eq transmitter.toSender
  store := fun ring offset patch sound inside =>
    sound.stores transmitter.toSender offset patch (Nat.le_trans inside geometry.holds_frame)
  transmit := fun ring length sound => by
    apply (sound.transmits transmitter.toSender length).mono
    rintro answer ⟨sound, frame, sent, same⟩
    refine ⟨sound, fun narrow => ?_⟩
    rw [sent, same transmitter.named narrow]

theorem prompt_port (transmitter : Mac.Transmitter geometry Good side) (interface : Interface) :
    PromptPort (Transmitting geometry Good interface.softwareFraming) interface := by
  intro ring length answer sound long short transmitted
  have yes : Yields (ring.transmit length) fun answer => answer.1 = true := by
    have longest : Ethernet.maximumLength = 1532 := rfl
    have check : Ethernet.frameCheckLength = 4 := rfl
    have holds := geometry.holds_frame
    unfold transmit
    rw [sound.framing]
    simp only [Interface.minimumLength, Interface.frameEnd, Ethernet.minimumLength] at long short
    split
    · next software =>
        rw [if_pos software] at short
        have slot := sound.length_slot transmitter.toSender
        have front : Ethernet.preambleLength ≤ length := by
          simp only [Ethernet.preambleLength]
          omega
        have room : length + Ethernet.frameCheckLength ≤ (view side ring).slot.length := by omega
        obtain ⟨framed, appended⟩ := append_returns front room
        apply Yields.bind_ok (sound.contents_eq transmitter.toSender)
        rw [appended]
        exact (Yields.intro _).bind fun _ _ => (Yields.intro _).bind fun _ _ => rfl
    · rw [if_pos (by rw [sound.divided]; omega)]
      exact (Yields.intro _).bind fun _ _ => rfl
  exact yes.of_ok transmitted

end SlotRing

end InstrumentLink
