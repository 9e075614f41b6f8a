import InstrumentLink.Fault

/-!
Octet strings and the fields inside them.

Reading or writing a field outside the string is a `Fault`, never a default value, so every codec
built on this module says by its type when it can go wrong. Multi-octet fields are big-endian; only
the frame check sequence uses the little-endian pair.
-/

set_option autoImplicit false

namespace InstrumentLink

/-- A string of octets: a frame, a datagram, the contents of a slot. -/
abbrev Bytes := List UInt8

namespace Bytes

def ofWord16 (word : UInt16) : Bytes :=
  [UInt8.ofNat (word.toNat / 256), UInt8.ofNat word.toNat]

def ofWord32 (word : UInt32) : Bytes :=
  [UInt8.ofNat (word.toNat / 16777216), UInt8.ofNat (word.toNat / 65536),
    UInt8.ofNat (word.toNat / 256), UInt8.ofNat word.toNat]

/-- The four octets of a word, least significant first. -/
def ofWord32Reversed (word : UInt32) : Bytes := (ofWord32 word).reverse

/-- The word with the given octets, most significant first. -/
def word16 (high low : UInt8) : UInt16 := UInt16.ofNat (256 * high.toNat + low.toNat)

def word32 (first second third fourth : UInt8) : UInt32 :=
  UInt32.ofNat (16777216 * first.toNat + 65536 * second.toNat + 256 * third.toNat + fourth.toNat)

def octetAt (data : Bytes) (index : Nat) : Except Fault UInt8 :=
  match data[index]? with
  | some octet => .ok octet
  | none => .error .outsideBuffer

def word16At (data : Bytes) (index : Nat) : Except Fault UInt16 :=
  match data.drop index with
  | high :: low :: _ => .ok (word16 high low)
  | _ => .error .outsideBuffer

def word32At (data : Bytes) (index : Nat) : Except Fault UInt32 :=
  match data.drop index with
  | first :: second :: third :: fourth :: _ => .ok (word32 first second third fourth)
  | _ => .error .outsideBuffer

/-- The octets from `start` up to, not including, `stop`. -/
def slice (data : Bytes) (start stop : Nat) : Except Fault Bytes :=
  if start ≤ stop ∧ stop ≤ data.length then .ok ((data.drop start).take (stop - start))
  else .error .outsideBuffer

def suffix (data : Bytes) (start : Nat) : Except Fault Bytes :=
  if start ≤ data.length then .ok (data.drop start) else .error .outsideBuffer

/-- Replaces the octets from `start` on by `patch`, which has to lie inside the string; the length
stays the same. -/
def overwrite (data : Bytes) (start : Nat) (patch : Bytes) : Except Fault Bytes :=
  if start + patch.length ≤ data.length then
    .ok (data.take start ++ patch ++ data.drop (start + patch.length))
  else .error .outsideBuffer

def writeFields (data : Bytes) : List (Nat × Bytes) → Except Fault Bytes
  | [] => .ok data
  | (offset, field) :: fields => do writeFields (← overwrite data offset field) fields

/-- Changes the octets from `start` on, as a string of their own. -/
def changeFrom (data : Bytes) (start : Nat) (change : Bytes → Except Fault Bytes) :
    Except Fault Bytes := do
  overwrite data start (← change (← suffix data start))

def zeros (count : Nat) : Bytes := List.replicate count 0

def padTo (minimum : Nat) (data : Bytes) : Bytes := data ++ zeros (minimum - data.length)

@[simp] theorem length_of_word16 (word : UInt16) : (ofWord16 word).length = 2 := rfl

@[simp] theorem length_of_word32 (word : UInt32) : (ofWord32 word).length = 4 := rfl

@[simp] theorem length_of_word32_reversed (word : UInt32) :
    (ofWord32Reversed word).length = 4 := rfl

@[simp] theorem length_zeros (count : Nat) : (zeros count).length = count := by
  simp [zeros]

theorem length_pad_to (minimum : Nat) (data : Bytes) :
    (padTo minimum data).length = max data.length minimum := by
  simp only [padTo, List.length_append, length_zeros]
  omega

theorem length_overwrite {data patch result : Bytes} {start : Nat}
    (written : overwrite data start patch = .ok result) : result.length = data.length := by
  unfold overwrite at written
  split at written
  · cases written
    simp only [List.length_append, List.length_take, List.length_drop]
    omega
  · cases written

end Bytes

end InstrumentLink
