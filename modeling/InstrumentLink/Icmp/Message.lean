import InstrumentLink.Checksum

/-!
ICMP messages. The four octets behind the checksum mean different things by type: identifier and
sequence of an echo, the gateway of a redirect, the next hop's frame limit of an unreachable report.
-/

set_option autoImplicit false

namespace InstrumentLink.Icmp

def headerLength : Nat := 8

def echoReply : UInt8 := 0

def destinationUnreachable : UInt8 := 3

def echoRequest : UInt8 := 8

def timestampRequest : UInt8 := 13

def messageType (data : Bytes) : Except Fault UInt8 := Bytes.octetAt data 0

def code (data : Bytes) : Except Fault UInt8 := Bytes.octetAt data 1

def checksum (data : Bytes) : Except Fault UInt16 := Bytes.word16At data 2

def identifier (data : Bytes) : Except Fault UInt16 := Bytes.word16At data 4

def sequence (data : Bytes) : Except Fault UInt16 := Bytes.word16At data 6

def gateway (data : Bytes) : Except Fault Ipv4Address := Ipv4Address.readAt data 4

def nextHopLimit (data : Bytes) : Except Fault UInt16 := Bytes.word16At data 6

def payload (data : Bytes) : Except Fault Bytes := Bytes.suffix data headerLength

def checksumValid (data : Bytes) (payloadLength : Nat) : Except Fault Bool := do
  return Checksum.isValid (← Bytes.slice data 0 (headerLength + payloadLength)) 0

inductive Refusal where
  | tooShort
  deriving DecidableEq, Repr

def Refusal.message : Refusal → String
  | .tooShort => "Message too short to contain an ICMP header"

def check (data : Bytes) : Except Refusal Unit :=
  if data.length < headerLength then .error .tooShort else .ok ()

def echoWith (checksum : UInt16) (messageType : UInt8) (identifier sequence : UInt16)
    (payload : Bytes) : Bytes :=
  [messageType, 0] ++ Bytes.ofWord16 checksum ++ Bytes.ofWord16 identifier ++
    Bytes.ofWord16 sequence ++ payload

def echo (messageType : UInt8) (identifier sequence : UInt16) (payload : Bytes) : Bytes :=
  echoWith (Checksum.field (echoWith 0 messageType identifier sequence payload) 0)
    messageType identifier sequence payload

def setChecksum (data : Bytes) (payloadLength : Nat) : Except Fault Bytes := do
  let cleared ← Bytes.overwrite data 2 [0, 0]
  let covered ← Bytes.slice cleared 0 (headerLength + payloadLength)
  Bytes.overwrite cleared 2 (Bytes.ofWord16 (Checksum.field covered 0))

/-- Turns the octets into an echo reply around a payload that is already in place. -/
def fillEchoReply (data : Bytes) (identifier sequence : UInt16) (payloadLength : Nat) :
    Except Fault Bytes := do
  let named ← Bytes.writeFields data
    [(0, [echoReply]), (1, [0]), (4, Bytes.ofWord16 identifier), (6, Bytes.ofWord16 sequence)]
  setChecksum named payloadLength

end InstrumentLink.Icmp
