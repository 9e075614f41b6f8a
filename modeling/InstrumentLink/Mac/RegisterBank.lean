import InstrumentLink.Mac.Device

/-!
A MAC behind a memory-mapped register bank: plain words at the offsets of a map, and slot memory.

Nothing happens on an access but loading and storing. A register that is no aligned word of the
bank cannot be reached. The word behind the readiness register does not change by itself, so a
driver that does not find it ready would wait for ever; its patience is zero.
-/

set_option autoImplicit false

namespace InstrumentLink.Mac

/-- Words of a register bank and the slot memory beside it. -/
structure RegisterBank where
  map : RegisterMap := {}
  words : List UInt32
  memory : Bytes := []

namespace RegisterBank

def wordIndex (bank : RegisterBank) (register : Register) : Except Fault Nat :=
  let offset := bank.map.offset register
  if offset % 4 = 0 ∧ offset / 4 < bank.words.length then .ok (offset / 4)
  else .error .outsideBuffer

def read (register : Register) (bank : RegisterBank) : Except Fault (UInt32 × RegisterBank) := do
  return (bank.words.getD (← bank.wordIndex register) 0, bank)

def write (register : Register) (value : UInt32) (bank : RegisterBank) :
    Except Fault RegisterBank := do
  return { bank with words := bank.words.set (← bank.wordIndex register) value }

def poke (index : Nat) (value : UInt32) (bank : RegisterBank) : Except Fault RegisterBank :=
  if index < bank.words.length then .ok { bank with words := bank.words.set index value }
  else .error .outsideBuffer

def pokeMemory (start : Nat) (patch : Bytes) (bank : RegisterBank) : Except Fault RegisterBank := do
  return { bank with memory := ← Bytes.overwrite bank.memory start patch }

/-- A bank of zeros with the words of a list put in; an entry for no word is passed over. -/
def ofEntries (map : RegisterMap) (size : Nat) (entries : List (Nat × UInt32)) (memory : Bytes) :
    RegisterBank where
  map
  words := entries.foldl (fun words entry => words.set entry.1 entry.2) (List.replicate size 0)
  memory

def nonzeroWords (bank : RegisterBank) : List (Nat × UInt32) :=
  (bank.words.zipIdx.filter fun entry => entry.1 ≠ 0).map fun entry => (entry.2, entry.1)

instance : Device RegisterBank where
  readRegister := read
  writeRegister := write
  memory := memory
  setMemory memory bank := { bank with memory }
  patience _ := 0

end RegisterBank

end InstrumentLink.Mac
