import InstrumentLink.Client.Dialogue

/-!
The host side of remote register access: a session with one device.

Each read record carries a return address of its own, which the device sends back as the base of its
reply. That is how a late reply to an earlier read is told from the reply to this one. Accesses
longer than a record are cut into records.
-/

set_option autoImplicit false

namespace InstrumentLink.Client

/-- How long a read waits for its reply unless told otherwise, in milliseconds. -/
def defaultTimeout : Nat := 500

def maximumWords : Nat := 255

structure Session where
  /-- How long a read waits for its reply, in milliseconds. -/
  timeout : Nat := defaultTimeout
  /-- The return address of the next read record. -/
  nextTag : UInt32 := 0
  deriving DecidableEq, Repr

def records {Word : Type} (words : List Word) : List (List Word) :=
  if words.length = 0 then []
  else words.take maximumWords :: records (words.drop maximumWords)
termination_by words.length
decreasing_by
  simp only [List.length_drop, maximumWords]
  omega

/-- A write record sent back as the answer to a read. -/
structure Reply where
  base : UInt32
  values : List UInt32
  deriving DecidableEq, Repr

/-- Takes a reply apart; a packet of other widths, or one that writes nothing, is none. -/
def Reply.ofPacket (packet : Bytes) : Except Fault (Option Reply) := do
  if ← Etherbone.isSupported packet then
    let count := (← Etherbone.writeCount packet).toNat
    if count = 0 then return none
    else
      let base ← Etherbone.writeBase packet
      let values ← (List.range count).mapM (Etherbone.writeValue packet)
      return some { base, values }
  else return none

/-- What a datagram means to a read with a return address and a word count. A reply to another
return address belongs to another read. -/
def examine (tag : UInt32) (count : Nat) (datagram : Bytes) :
    Verdict (Except Error (List UInt32)) :=
  match Etherbone.check datagram with
  | .error cause => .ignored (.datagramRefused cause)
  | .ok () =>
      match Reply.ofPacket datagram with
      | .ok (some reply) =>
          if reply.base ≠ tag then .ignored (.staleReply reply.base)
          else if reply.values.length ≠ count then
            .settled (.error (.malformedReply .wordCount))
          else .settled (.ok reply.values)
      | .ok none | .error _ => .ignored .notAReply

namespace Session

def datagram (filled : Bytes → Except Etherbone.Refusal (Nat × Bytes)) : Except Error Bytes :=
  match filled (Bytes.zeros datagramCapacity) with
  | .ok (length, buffer) => .ok (buffer.take length)
  | .error cause => .error (.request cause)

/-- Reads the addresses of one record. The return address is used up even if nothing comes back. -/
def readRecord (addresses : List UInt32) (session : Session) :
    Dialogue (Except Error (List UInt32) × Session) :=
  let tag := session.nextTag
  let session := { session with nextTag := tag + 4 }
  match datagram fun buffer => Etherbone.fillReadRequest buffer tag addresses with
  | .error error => .done (.error error, session)
  | .ok request =>
      .send request <| .report (.reading addresses.length tag) <|
        .await (examine tag addresses.length) fun
          | some answer => .done (answer, session)
          | none => .done (.error (.timeout (addresses.headD 0)), session)

def readRecords : List (List UInt32) → Session →
    Dialogue (Except Error (List UInt32) × Session)
  | [], session => .done (.ok [], session)
  | record :: rest, session => do
      match ← session.readRecord record with
      | (.error error, session) => return (.error error, session)
      | (.ok values, session) =>
          let (remaining, session) ← readRecords rest session
          return (remaining.map fun others => values ++ others, session)

def readMany (addresses : List UInt32) (session : Session) :
    Dialogue (Except Error (List UInt32) × Session) :=
  session.readRecords (records addresses)

def read (address : UInt32) (session : Session) : Dialogue (Except Error UInt32 × Session) := do
  let (answer, session) ← session.readMany [address]
  match answer with
  | .ok (value :: _) => return (.ok value, session)
  | .ok [] => return (.error (.malformedReply .noValues), session)
  | .error error => return (.error error, session)

/-- Writes records behind each other, each to where the one before it ends. Writes are not
acknowledged. -/
def writeRecords (base : UInt32) : Nat → List (List UInt32) → Dialogue (Except Error Unit)
  | _, [] => .done (.ok ())
  | index, record :: rest =>
      let address := base + UInt32.ofNat (index * maximumWords * 4)
      match datagram fun buffer => Etherbone.fillWriteRequest buffer address record with
      | .error error => .done (.error error)
      | .ok request =>
          .report (.writing record.length address) <|
            .send request (writeRecords base (index + 1) rest)

def writeBurst (base : UInt32) (values : List UInt32) : Dialogue (Except Error Unit) :=
  writeRecords base 0 (records values)

def write (address value : UInt32) : Dialogue (Except Error Unit) := writeBurst address [value]

end Session

end InstrumentLink.Client
