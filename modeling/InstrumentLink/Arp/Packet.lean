import InstrumentLink.Ethernet.Frame

/-!
ARP bodies that map IPv4 addresses to Ethernet addresses: 28 octets behind the Ethernet header.
-/

set_option autoImplicit false

namespace InstrumentLink.Arp

def bodyLength : Nat := 28

def hardwareEthernet : UInt16 := 1

inductive Operation where
  | request
  | reply
  deriving DecidableEq, Repr

def Operation.code : Operation → UInt16
  | .request => 1
  | .reply => 2

structure Station where
  mac : MacAddress
  ip : Ipv4Address
  deriving DecidableEq, Repr

def Station.toBytes (station : Station) : Bytes := station.mac.toBytes ++ station.ip.toBytes

def body (operation : Operation) (sender target : Station) : Bytes :=
  Bytes.ofWord16 hardwareEthernet ++ Bytes.ofWord16 Ethernet.typeIpv4 ++ [6, 4] ++
    Bytes.ofWord16 operation.code ++ sender.toBytes ++ target.toBytes

def hardwareType (data : Bytes) : Except Fault UInt16 := Bytes.word16At data 0

def protocolType (data : Bytes) : Except Fault UInt16 := Bytes.word16At data 2

def hardwareSize (data : Bytes) : Except Fault UInt8 := Bytes.octetAt data 4

def protocolSize (data : Bytes) : Except Fault UInt8 := Bytes.octetAt data 5

def operationCode (data : Bytes) : Except Fault UInt16 := Bytes.word16At data 6

def senderMac (data : Bytes) : Except Fault MacAddress := MacAddress.readAt data 8

def senderIp (data : Bytes) : Except Fault Ipv4Address := Ipv4Address.readAt data 14

def targetMac (data : Bytes) : Except Fault MacAddress := MacAddress.readAt data 18

def targetIp (data : Bytes) : Except Fault Ipv4Address := Ipv4Address.readAt data 24

inductive Refusal where
  | tooShort
  | hardwareType
  | protocolType
  | addressSizes
  deriving DecidableEq, Repr

def Refusal.message : Refusal → String
  | .tooShort => "ARP body is too small"
  | .hardwareType => "ARP hardware type is not Ethernet"
  | .protocolType => "ARP protocol type is not IPv4"
  | .addressSizes => "ARP address sizes are not Ethernet/IPv4"

/-- Accepts a complete body for Ethernet and IPv4. The first failing test names the refusal. -/
def check (data : Bytes) : Except Refusal Unit :=
  if data.length < bodyLength then .error .tooShort
  else if (hardwareType data).toOption ≠ some hardwareEthernet then .error .hardwareType
  else if (protocolType data).toOption ≠ some Ethernet.typeIpv4 then .error .protocolType
  else if (hardwareSize data).toOption ≠ some 6 ∨ (protocolSize data).toOption ≠ some 4 then
    .error .addressSizes
  else .ok ()

def setOperation (data : Bytes) (operation : Operation) : Except Fault Bytes :=
  Bytes.overwrite data 6 (Bytes.ofWord16 operation.code)

def setSender (data : Bytes) (sender : Station) : Except Fault Bytes :=
  Bytes.overwrite data 8 sender.toBytes

def setTarget (data : Bytes) (target : Station) : Except Fault Bytes :=
  Bytes.overwrite data 18 target.toBytes

/-- The fields of a body and their offsets, in the order in which they are written. -/
def fields (operation : Operation) (sender target : Station) : List (Nat × Bytes) :=
  [(0, Bytes.ofWord16 hardwareEthernet), (2, Bytes.ofWord16 Ethernet.typeIpv4), (4, [6]), (5, [4]),
    (6, Bytes.ofWord16 operation.code), (8, sender.mac.toBytes), (14, sender.ip.toBytes),
    (18, target.mac.toBytes), (24, target.ip.toBytes)]

def fill (data : Bytes) (operation : Operation) (sender target : Station) : Except Fault Bytes :=
  Bytes.writeFields data (fields operation sender target)

@[simp] theorem length_body (operation : Operation) (sender target : Station) :
    (body operation sender target).length = bodyLength := rfl

end InstrumentLink.Arp
