import InstrumentLink.Proofs.FrameHandling
import InstrumentLink.Proofs.WellFormedFrames

/-!
Devices under observation.

An observer around a device passes every access on to it and gives back what comes of it. So
whatever holds of the accesses to the device holds of the accesses through the observer.
-/

set_option autoImplicit false

namespace InstrumentLink.Mac

/-- Every access to the outer device is an access to the inner one. -/
structure Observes {Outer Inner : Type} [Device Outer] [Device Inner] (inner : Outer → Inner) :
    Prop where
  read : ∀ register outer,
    (fun answer => (answer.1, inner answer.2)) <$> readRegister register outer =
      readRegister register (inner outer)
  write : ∀ register value outer,
    inner <$> writeRegister register value outer = writeRegister register value (inner outer)
  memory : ∀ outer, memory outer = Mac.memory (inner outer)
  set_memory : ∀ octets outer, inner (setMemory octets outer) = setMemory octets (inner outer)
  patience : ∀ outer, patience outer = Mac.patience (inner outer)

namespace Observes

variable {Outermost Outer Inner : Type} [Device Outermost] [Device Outer] [Device Inner]
  {outer : Outermost → Outer} {inner : Outer → Inner}

theorem comp (observes : Observes outer) (further : Observes inner) :
    Observes fun device => inner (outer device) where
  read := fun register device => by
    rw [← further.read, ← observes.read, Functor.map_map]
  write := fun register value device => by
    rw [← further.write, ← observes.write, Functor.map_map]
  memory := fun device => (observes.memory device).trans (further.memory _)
  set_memory := fun octets device => by rw [observes.set_memory, further.set_memory]
  patience := fun device => (observes.patience device).trans (further.patience _)

variable {geometry : SlotGeometry} {Good Holding Idle : Inner → Prop}
  {side : Inner → TransmitSide} {frame : Bytes}

theorem read_returns (observes : Observes inner) {register : Register} {device : Outer}
    {good : UInt32 × Inner → Prop} (returns : Returns (readRegister register (inner device)) good) :
    Returns (readRegister register device) fun answer => good (answer.1, inner answer.2) := by
  rw [← observes.read] at returns
  exact returns.of_map

theorem write_returns (observes : Observes inner) {register : Register} {value : UInt32}
    {device : Outer} {good : Inner → Prop}
    (returns : Returns (writeRegister register value (inner device)) good) :
    Returns (writeRegister register value device) fun after => good (inner after) := by
  rw [← observes.write] at returns
  exact returns.of_map

theorem sender (observes : Observes inner) (sender : Sender geometry Good side) :
    Sender geometry (fun device => Good (inner device)) fun device => side (inner device) where
  large := fun device good => by
    rw [observes.memory]
    exact sender.large _ good
  slots := fun device good => by
    rw [observes.memory]
    exact sender.slots _ good
  ready := fun device good => by
    simp only [observes.patience]
    exact observes.read_returns (sender.ready _ good)
  choose := fun _ value good => observes.write_returns (sender.choose _ value good)
  measure := fun device value good => observes.write_returns (sender.measure _ value good)
  start := fun _ good slot length => observes.write_returns (sender.start _ good slot length)
  set_memory := fun device octets good length front => by
    rw [observes.memory] at length front
    rw [observes.set_memory]
    exact sender.set_memory _ octets good length front

theorem transmitter (observes : Observes inner) (transmitter : Transmitter geometry Good side) :
    Transmitter geometry (fun device => Good (inner device)) fun device => side (inner device) :=
  ⟨observes.sender transmitter.toSender, transmitter.named⟩

theorem clears (observes : Observes inner) (clears : Clears Good side) :
    Clears (fun device => Good (inner device)) fun device => side (inner device) :=
  fun register _ event good => observes.write_returns (clears register _ event good)

theorem releases (observes : Observes inner) (releases : Releases Holding Idle side) :
    Releases (fun device => Holding (inner device)) (fun device => Idle (inner device))
      fun device => side (inner device) :=
  fun _ holding => observes.write_returns (releases _ holding)

theorem silent (observes : Observes inner) {device : Outer}
    (silent : Silent Idle side (inner device)) :
    Silent (fun device => Idle (inner device)) (fun device => side (inner device)) device :=
  observes.read_returns silent

theorem reports (observes : Observes inner) {device : Outer}
    (reports : Reports geometry Holding side frame (inner device)) :
    Reports geometry (fun device => Holding (inner device)) (fun device => side (inner device))
      frame device := by
  apply (observes.read_returns reports).mono
  rintro reported ⟨pending, naming⟩
  refine ⟨pending, (observes.read_returns naming).mono ?_⟩
  rintro named ⟨inside, measuring⟩
  refine ⟨inside, (observes.read_returns measuring).mono ?_⟩
  rintro measured ⟨octets, holding, same, held⟩
  refine ⟨octets, holding, same, ?_⟩
  rw [observes.memory]
  exact held

end Observes

variable {Hardware : Type} [Device Hardware] {geometry : SlotGeometry}

theorem Watched.observes : Observes (Watched.device : Watched Hardware → Hardware) where
  read := fun register watched => by
    change _ <$> (readRegister register watched.device >>= _) = _
    rw [map_bind]
    exact bind_pure _
  write := fun register value watched => by
    change _ <$> (writeRegister register value watched.device >>= _) = _
    rw [map_bind]
    exact bind_pure _
  memory := fun watched => rfl
  set_memory := fun octets watched => rfl
  patience := fun watched => rfl

theorem Tapped.observes : Observes (Tapped.device : Tapped geometry Hardware → Hardware) where
  read := fun register tapped => by
    change _ <$> (readRegister register tapped.device >>= _) = _
    rw [map_bind]
    exact bind_pure _
  write := fun register value tapped => by
    change _ <$> (writeRegister register value tapped.device >>= _) = _
    rw [map_bind]
    exact bind_pure _
  memory := fun tapped => rfl
  set_memory := fun octets tapped => rfl
  patience := fun tapped => rfl

end InstrumentLink.Mac
