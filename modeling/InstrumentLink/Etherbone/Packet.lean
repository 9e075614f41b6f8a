import InstrumentLink.Bytes

/-!
Etherbone packets: register accesses over UDP, one record in a packet.

A packet has a twelve-octet header, then a write block if the record writes, then a read block if it
reads. A block is a base address and one word for each access:

* header: magic, flags, sizes, four reserved octets, record flags, byte enable, write count, read
  count;
* write block: base address, then the values for consecutive words;
* read block: return address, then the addresses to read.

The place of the read block depends on the write count, so the counts have to be in the header
before the blocks are written.
-/

set_option autoImplicit false

namespace InstrumentLink.Etherbone

def magic : UInt16 := 0x4e6f

def version : UInt8 := 1

def headerLength : Nat := 12

/-- The only address and port width that is executed, in octets. -/
def busWidth : UInt8 := 4

def maximumWords : Nat := 255

structure PacketFlags where
  version : UInt8 := 0
  noReads : Bool := false
  probeResponse : Bool := false
  probe : Bool := false
  deriving DecidableEq, Repr

namespace PacketFlags

/-- The flags of a reply: it asks for no reads. -/
def reply : PacketFlags := { version := Etherbone.version, noReads := true }

def request : PacketFlags := { version := Etherbone.version }

/-- The flags in one octet: version above, three flags below, bit 3 reserved. -/
def pack (flags : PacketFlags) : UInt8 :=
  ((flags.version &&& 0x0f) <<< 4) ||| (flags.noReads.toUInt8 <<< 2) |||
    (flags.probeResponse.toUInt8 <<< 1) ||| flags.probe.toUInt8

def unpack (octet : UInt8) : PacketFlags where
  version := octet >>> 4
  noReads := octet &&& 0x04 ≠ 0
  probeResponse := octet &&& 0x02 ≠ 0
  probe := octet &&& 0x01 ≠ 0

end PacketFlags

structure RecordFlags where
  bca : Bool := false
  rca : Bool := false
  rff : Bool := false
  cyc : Bool := false
  wca : Bool := false
  wff : Bool := false
  deriving DecidableEq, Repr

namespace RecordFlags

/-- The flags in one octet; bits 3 and 7 are reserved. -/
def pack (flags : RecordFlags) : UInt8 :=
  flags.bca.toUInt8 ||| (flags.rca.toUInt8 <<< 1) ||| (flags.rff.toUInt8 <<< 2) |||
    (flags.cyc.toUInt8 <<< 4) ||| (flags.wca.toUInt8 <<< 5) ||| (flags.wff.toUInt8 <<< 6)

def unpack (octet : UInt8) : RecordFlags where
  bca := octet &&& 0x01 ≠ 0
  rca := octet &&& 0x02 ≠ 0
  rff := octet &&& 0x04 ≠ 0
  cyc := octet &&& 0x10 ≠ 0
  wca := octet &&& 0x20 ≠ 0
  wff := octet &&& 0x40 ≠ 0

end RecordFlags

def packSizes (addressSize portSize : UInt8) : UInt8 :=
  ((addressSize &&& 0x0f) <<< 4) ||| (portSize &&& 0x0f)

def unpackSizes (octet : UInt8) : UInt8 × UInt8 := (octet >>> 4, octet &&& 0x0f)

/-- Octets of a block with so many words; an absent block has none. -/
def blockLength (count : Nat) : Nat := if count = 0 then 0 else 4 * (1 + count)

def packetLength (writes reads : Nat) : Nat := headerLength + blockLength writes + blockLength reads

def magicOf (data : Bytes) : Except Fault UInt16 := Bytes.word16At data 0

def packetFlags (data : Bytes) : Except Fault PacketFlags := do
  return PacketFlags.unpack (← Bytes.octetAt data 2)

def addressSize (data : Bytes) : Except Fault UInt8 := do
  return (unpackSizes (← Bytes.octetAt data 3)).1

def portSize (data : Bytes) : Except Fault UInt8 := do
  return (unpackSizes (← Bytes.octetAt data 3)).2

def recordFlags (data : Bytes) : Except Fault RecordFlags := do
  return RecordFlags.unpack (← Bytes.octetAt data 8)

def byteEnable (data : Bytes) : Except Fault UInt8 := Bytes.octetAt data 9

def writeCount (data : Bytes) : Except Fault UInt8 := Bytes.octetAt data 10

def readCount (data : Bytes) : Except Fault UInt8 := Bytes.octetAt data 11

/-- Octets of the packet that the counts announce. -/
def announcedLength (data : Bytes) : Except Fault Nat := do
  return packetLength (← writeCount data).toNat (← readCount data).toNat

/-- The announced length, once the header is complete. -/
def peekLength (data : Bytes) : Option Nat :=
  if data.length < headerLength then none else (announcedLength data).toOption

/-- Whether the packet has the magic and the bus widths that are executed. The sizes are looked at
only under the right magic. -/
def isSupported (data : Bytes) : Except Fault Bool := do
  if (← magicOf data) = magic then
    if (← addressSize data) = busWidth then
      return (← portSize data) = busWidth
    else return false
  else return false

def writeBase (data : Bytes) : Except Fault UInt32 := Bytes.word32At data headerLength

def writeValue (data : Bytes) (index : Nat) : Except Fault UInt32 :=
  Bytes.word32At data (headerLength + 4 + 4 * index)

def readBlockStart (data : Bytes) : Except Fault Nat := do
  return headerLength + blockLength (← writeCount data).toNat

def returnBase (data : Bytes) : Except Fault UInt32 := do
  Bytes.word32At data (← readBlockStart data)

def readAddress (data : Bytes) (index : Nat) : Except Fault UInt32 := do
  Bytes.word32At data ((← readBlockStart data) + 4 + 4 * index)

/-- Why octets are not taken for a packet, or a packet cannot be written. -/
inductive Refusal where
  | tooShort
  | recordCutOff
  | wordCount
  | noRoom
  deriving DecidableEq, Repr

def Refusal.message : Refusal → String
  | .tooShort => "Buffer too short to contain an Etherbone header"
  | .recordCutOff => "Buffer shorter than the Etherbone record it announces"
  | .wordCount => "Etherbone records carry between 1 and 255 words"
  | .noRoom => "Buffer too small for the Etherbone packet"

/-- Accepts octets that hold the whole packet their counts announce. Magic and bus widths are left
to `isSupported`. -/
def check (data : Bytes) : Except Refusal Unit :=
  match peekLength data with
  | none => .error .tooShort
  | some length => if data.length < length then .error .recordCutOff else .ok ()

def header (flags : PacketFlags) (record : RecordFlags) (byteEnable writes reads : UInt8) : Bytes :=
  Bytes.ofWord16 magic ++ [flags.pack, packSizes busWidth busWidth] ++ Bytes.zeros 4 ++
    [record.pack, byteEnable, writes, reads]

def block (base : UInt32) (words : List UInt32) : Bytes :=
  Bytes.ofWord32 base ++ words.flatMap Bytes.ofWord32

def fields (flags : PacketFlags) (record : RecordFlags) (byteEnable writes reads : UInt8) :
    List (Nat × Bytes) :=
  [(0, Bytes.ofWord16 magic), (2, [flags.pack]), (3, [packSizes busWidth busWidth]),
    (4, Bytes.zeros 4), (8, [record.pack]), (9, [byteEnable]), (10, [writes]), (11, [reads])]

def fillHeader (data : Bytes) (flags : PacketFlags) (record : RecordFlags)
    (byteEnable writes reads : UInt8) : Except Fault Bytes :=
  Bytes.writeFields data (fields flags record byteEnable writes reads)

def setWriteBase (data : Bytes) (address : UInt32) : Except Fault Bytes :=
  Bytes.overwrite data headerLength (Bytes.ofWord32 address)

def setWriteValue (data : Bytes) (index : Nat) (value : UInt32) : Except Fault Bytes :=
  Bytes.overwrite data (headerLength + 4 + 4 * index) (Bytes.ofWord32 value)

def setReturnBase (data : Bytes) (address : UInt32) : Except Fault Bytes := do
  Bytes.overwrite data (← readBlockStart data) (Bytes.ofWord32 address)

def setReadAddress (data : Bytes) (index : Nat) (address : UInt32) : Except Fault Bytes := do
  Bytes.overwrite data ((← readBlockStart data) + 4 + 4 * index) (Bytes.ofWord32 address)

def writeRequest (base : UInt32) (values : List UInt32) : Bytes :=
  header .request {} 0x0f (UInt8.ofNat values.length) 0 ++ block base values

def readRequest (returnBase : UInt32) (addresses : List UInt32) : Bytes :=
  header .request {} 0x0f 0 (UInt8.ofNat addresses.length) ++ block returnBase addresses

def readReply (byteEnable : UInt8) (returnBase : UInt32) (values : List UInt32) : Bytes :=
  header .reply {} byteEnable (UInt8.ofNat values.length) 0 ++ block returnBase values

def setWriteValues (data : Bytes) (index : Nat) : List UInt32 → Except Fault Bytes
  | [] => .ok data
  | value :: values => do setWriteValues (← setWriteValue data index value) (index + 1) values

def buildReadReply (byteEnable : UInt8) (returnBase : UInt32) (values : List UInt32)
    (window : Bytes) : Except Fault Bytes := do
  let headed ← fillHeader window .reply {} byteEnable (UInt8.ofNat values.length) 0
  let based ← setWriteBase headed returnBase
  setWriteValues based 0 values

/-- Puts a packet of one block at the start of a buffer and gives its length with the buffer. The
word count is judged before the room. -/
def place (buffer : Bytes) (count : Nat) (packet : Bytes) : Except Refusal (Nat × Bytes) :=
  if count = 0 ∨ maximumWords < count then .error .wordCount
  else if buffer.length < packetLength count 0 then .error .noRoom
  else .ok (packetLength count 0, packet ++ buffer.drop (packetLength count 0))

def fillWriteRequest (buffer : Bytes) (base : UInt32) (values : List UInt32) :
    Except Refusal (Nat × Bytes) :=
  place buffer values.length (writeRequest base values)

def fillReadRequest (buffer : Bytes) (returnBase : UInt32) (addresses : List UInt32) :
    Except Refusal (Nat × Bytes) :=
  place buffer addresses.length (readRequest returnBase addresses)

def fillReadReply (buffer : Bytes) (byteEnable : UInt8) (returnBase : UInt32)
    (values : List UInt32) : Except Refusal (Nat × Bytes) :=
  place buffer values.length (readReply byteEnable returnBase values)

@[simp] theorem length_header (flags : PacketFlags) (record : RecordFlags)
    (byteEnable writes reads : UInt8) :
    (header flags record byteEnable writes reads).length = headerLength := rfl

@[simp] theorem length_block (base : UInt32) (words : List UInt32) :
    (block base words).length = 4 * (1 + words.length) := by
  unfold block
  induction words with
  | nil => rfl
  | cons word words induction =>
      simp only [List.flatMap_cons, List.length_append, Bytes.length_of_word32,
        List.length_cons] at induction ⊢
      omega

end InstrumentLink.Etherbone
