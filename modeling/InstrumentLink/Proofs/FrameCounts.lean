import InstrumentLink.Proofs.FaithfulRing

/-!
What the counter of a ring counts.

The counter goes on by one with every frame that is handed to the device, and with nothing else. So
it is the number of frames sent, as far as a word can hold it.
-/

set_option autoImplicit false

namespace InstrumentLink

namespace SlotRing

section Pace

variable {Hardware Measure : Type} [Mac.Device Hardware] {measure : SlotRing Hardware → Measure}
  {Tick : Measure → Measure → Prop}

/-- Something about a ring that goes on with every frame that is handed to the device, and stays as
it is when octets are stored. -/
structure Paced (measure : SlotRing Hardware → Measure) (Tick : Measure → Measure → Prop) :
    Prop where
  store : ∀ (ring : SlotRing Hardware) (offset : Nat) (patch : Bytes),
    Yields (ring.store offset patch) fun after => measure after = measure ring
  launch : ∀ (ring : SlotRing Hardware) (length : Nat),
    Yields (ring.launch length) fun after => Tick (measure ring) (measure after)

/-- It went on if a frame was sent, and stayed if none was. -/
def Paces (Tick : Measure → Measure → Prop) : Bool → Measure → Measure → Prop
  | true, before, after => Tick before after
  | false, before, after => after = before

theorem Paces.unique {next : Measure → Measure} {sent : Bool} {before after otherAfter : Measure}
    (paces : Paces (fun before after => after = next before) sent before after)
    (again : Paces (fun before after => after = next before) sent before otherAfter) :
    after = otherAfter := by
  cases sent with
  | true => exact paces.trans again.symm
  | false => exact paces.trans again.symm

theorem Paced.transmit (paced : Paced measure Tick) (ring : SlotRing Hardware) (length : Nat) :
    Yields (ring.transmit length) fun answer =>
      Paces Tick answer.1 (measure ring) (measure answer.2.1) := by
  unfold SlotRing.transmit
  split
  · apply (Yields.intro _).bind
    intro slot _
    split
    · exact rfl
    · apply (paced.store ring 0 _).bind
      intro stored same
      apply (paced.launch stored _).bind
      intro launched ticked
      rw [same] at ticked
      exact ticked
  · split
    · exact (paced.launch ring length).bind fun launched ticked => ticked
    · exact rfl

theorem Paced.send_frame (paced : Paced measure Tick) (interface : Interface) (frame : Bytes)
    (ring : SlotRing Hardware) :
    Yields (interface.sendFrame frame ring) fun answer =>
      Paces Tick answer.1 (measure ring) (measure answer.2.1) := by
  unfold Interface.sendFrame
  apply (Yields.intro _).bind
  intro lead _
  apply (paced.store ring 0 _).bind
  intro stored same
  rw [← same]
  exact paced.transmit stored _

theorem Paced.store_payload (paced : Paced measure Tick) (interface : Interface) (offset : Nat)
    (patch : Bytes) (ring : SlotRing Hardware) :
    Yields (Udp.storePayload interface offset patch ring) fun after =>
      measure after = measure ring := by
  unfold Udp.storePayload
  apply (Yields.intro _).bind
  intro area _
  split
  · exact paced.store ring _ patch
  · trivial

end Pace

section Counter

variable {Hardware : Type} [Mac.Device Hardware]

theorem paced_transmitted :
    Paced (transmitted : SlotRing Hardware → UInt32) fun before after => after = before + 1 where
  store := fun ring offset patch => by
    unfold store
    split
    · exact (Yields.intro _).bind fun memory _ => rfl
    · trivial
  launch := fun ring length =>
    (Yields.intro _).bind fun _ _ => (Yields.intro _).bind fun _ _ =>
      (Yields.intro _).bind fun _ _ => (Yields.intro _).bind fun _ _ => rfl

variable (ring : SlotRing Hardware)

theorem store_counts (offset : Nat) (patch : Bytes) :
    Yields (ring.store offset patch) fun after => after.transmitted = ring.transmitted :=
  paced_transmitted.store ring offset patch

theorem transmit_counts (length : Nat) :
    Yields (ring.transmit length) fun answer =>
      answer.2.1.transmitted = ring.transmitted + if answer.1 then 1 else 0 := by
  apply (paced_transmitted.transmit ring length).mono
  rintro ⟨yes, after, log⟩ counted
  cases yes with
  | true => exact counted
  | false => exact (show after.transmitted = _ from counted).trans (UInt32.add_zero _).symm

theorem start_counts : Yields ring.start fun after => after.transmitted = ring.transmitted :=
  (Yields.intro _).bind fun _ _ => (Yields.intro _).bind fun _ _ =>
    (Yields.intro _).bind fun _ _ => rfl

theorem acknowledge_changes_device :
    Yields ring.acknowledge fun after => ∃ device, after = { ring with device } :=
  (Yields.intro _).bind fun device _ => ⟨device, rfl⟩

theorem poll_receive_changes_device :
    Yields ring.pollReceive fun answer => ∃ device, answer.2.1 = { ring with device } := by
  unfold pollReceive
  apply (Yields.intro _).bind
  rintro ⟨event, asked⟩ -
  dsimp only
  split
  · exact ⟨asked, rfl⟩
  · apply (Yields.intro _).bind
    rintro ⟨slot, named⟩ -
    apply (Yields.intro _).bind
    rintro ⟨length, measured⟩ -
    dsimp only
    split
    · exact ⟨measured, rfl⟩
    · exact (acknowledge_changes_device _).bind fun after ⟨device, same⟩ => ⟨device, same⟩

theorem acknowledge_counts :
    Yields ring.acknowledge fun after => after.transmitted = ring.transmitted :=
  ring.acknowledge_changes_device.mono fun _ ⟨_, same⟩ => same ▸ rfl

theorem poll_receive_counts :
    Yields ring.pollReceive fun answer => answer.2.1.transmitted = ring.transmitted :=
  ring.poll_receive_changes_device.mono fun _ ⟨_, same⟩ => same ▸ rfl

end Counter

variable {Hardware : Type} [Mac.Device Hardware] {geometry : Mac.SlotGeometry}
  {Good : Hardware → Prop} {side : Hardware → Mac.TransmitSide} {framing : Bool}
  {ring : SlotRing Hardware}

/-- A ring that transmits and has counted the frames sent. -/
structure Counting (geometry : Mac.SlotGeometry) (Good : Hardware → Prop)
    (side : Hardware → Mac.TransmitSide) (framing : Bool) (ring : SlotRing Hardware) : Prop where
  up : Transmitting geometry Good framing ring
  counted : ring.transmitted = UInt32.ofNat (view side ring).sent.length

omit [Mac.Device Hardware] in
theorem Counting.keeps {after : SlotRing Hardware}
    (counting : Counting geometry Good side framing ring)
    (up : Transmitting geometry Good framing after)
    (sent : (view side after).sent = (view side ring).sent)
    (same : after.transmitted = ring.transmitted) :
    Counting geometry Good side framing after :=
  ⟨up, by rw [same, sent, counting.counted]⟩

theorem counting_port (transmitter : Mac.Transmitter geometry Good side) (framing : Bool) :
    FaithfulPort (Counting geometry Good side framing) (view side) (finish framing) where
  room := fun ring sound => (faithful_port transmitter framing).room ring sound.up
  contents := fun ring sound => sound.up.contents_eq transmitter.toSender
  store := fun ring offset patch sound inside => by
    apply (((faithful_port transmitter framing).store ring offset patch sound.up inside).and
      (ring.store_counts offset patch)).mono
    rintro after ⟨⟨up, written, sent⟩, same⟩
    exact ⟨sound.keeps up sent same, written, sent⟩
  transmit := fun ring length sound => by
    apply ((sound.up.transmits transmitter.toSender length).and (ring.transmit_counts length)).mono
    rintro ⟨yes, after, log⟩ ⟨⟨up, frame, sent, same⟩, counted⟩
    refine ⟨⟨up, ?_⟩, fun narrow => by rw [sent, same transmitter.named narrow]⟩
    dsimp only at sent counted ⊢
    rw [counted, sent, sound.counted]
    cases yes with
    | false => simp
    | true => simp [UInt32.ofNat_add]

theorem counting_prompt (transmitter : Mac.Transmitter geometry Good side) (interface : Interface) :
    PromptPort (Counting geometry Good side interface.softwareFraming) interface :=
  fun ring length answer sound => prompt_port transmitter interface ring length answer sound.up

end SlotRing

end InstrumentLink
