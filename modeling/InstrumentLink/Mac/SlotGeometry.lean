import InstrumentLink.Ethernet.Frame

/-!
How the slot memory is divided: receive slots first, transmit slots behind them, all of one size.

A geometry is accepted only if a slot holds the longest frame and both directions have a slot, and
that acceptance is part of the type.
-/

set_option autoImplicit false

namespace InstrumentLink.Mac

def defaultSlotSize : Nat := 2048

def defaultRxSlots : Nat := 2

def defaultTxSlots : Nat := 2

/-- A division of the slot memory. -/
structure SlotGeometry where
  slotSize : Nat
  rxSlots : Nat
  txSlots : Nat
  holds_frame : Ethernet.maximumLength ≤ slotSize
  has_rx_slot : 0 < rxSlots
  has_tx_slot : 0 < txSlots
  deriving DecidableEq

namespace SlotGeometry

inductive Refusal where
  | noMemory
  | slotTooSmall
  | noSlot
  deriving DecidableEq, Repr

def Refusal.message : Refusal → String
  | .noMemory => "Slot memory base is null"
  | .slotTooSmall => "Slots must hold a full MTU frame"
  | .noSlot => "Need at least one RX and one TX slot"

/-- Accepts a division of memory that is there. The slot size is judged before the counts. -/
def ofSizes (present : Bool) (slotSize rxSlots txSlots : Nat) : Except Refusal SlotGeometry :=
  if present then
    if holds_frame : Ethernet.maximumLength ≤ slotSize then
      if has_slots : 0 < rxSlots ∧ 0 < txSlots then
        .ok ⟨slotSize, rxSlots, txSlots, holds_frame, has_slots.1, has_slots.2⟩
      else .error .noSlot
    else .error .slotTooSmall
  else .error .noMemory

def standard : SlotGeometry :=
  ⟨defaultSlotSize, defaultRxSlots, defaultTxSlots, by decide, by decide, by decide⟩

def length (geometry : SlotGeometry) : Nat :=
  geometry.slotSize * (geometry.rxSlots + geometry.txSlots)

def rxStart (geometry : SlotGeometry) (slot : Nat) : Nat := geometry.slotSize * slot

def txStart (geometry : SlotGeometry) (slot : Nat) : Nat :=
  geometry.slotSize * (geometry.rxSlots + slot)

end SlotGeometry

end InstrumentLink.Mac
