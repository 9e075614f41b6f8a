import InstrumentLink.Client.Ipv6Address

/-!
The addresses that sockets are bound and connected to, in either version of the Internet protocol,
and their written forms.

An IPv4 address need not be four decimal numbers. It may have fewer parts, the last of which fills
the octets that are left, and a part may be hexadecimal or octal: `127.1`, `0177.0.0.1` and
`0x7f000001` are one address.

Behind an IPv6 address a `%` and a zone may stand: the number of the interface that the address is
meant for, or its name where the address means something on one interface only.
-/

set_option autoImplicit false

namespace InstrumentLink.Client

/-- The address of a host. The zone of an IPv6 address is the number of an interface, or zero. -/
inductive HostAddress where
  | v4 (address : Ipv4Address)
  | v6 (address : Ipv6Address) (zone : UInt32)
  deriving DecidableEq, Repr

namespace HostAddress

def isUnspecified : HostAddress → Bool
  | .v4 address => address = .unspecified
  | .v6 address _ => address.isUnspecified

/-- Whether the address is complete only with the interface it is used on. -/
def isLinkScoped : HostAddress → Bool
  | .v4 _ => false
  | .v6 address _ => address.isLinkScoped

/-- The interface that the address names. The zone of an address that means the same on every
interface names none. -/
def link : HostAddress → Option UInt32
  | .v4 _ => none
  | .v6 address zone => if address.isLinkScoped ∧ zone ≠ 0 then some zone else none

/-- The address, as an IPv4 address if it stands for one. -/
def plain : HostAddress → HostAddress
  | .v4 address => .v4 address
  | .v6 address zone =>
      match address.embedded with
      | some ip => .v4 ip
      | none => .v6 address zone

/-- Whether the address is one of the fourth version or stands for one. -/
def isIpv4 (address : HostAddress) : Bool :=
  match address.plain with
  | .v4 _ => true
  | .v6 _ _ => false

/-- Whether two sockets bound to these addresses would receive the same datagrams. The unspecified
address of the sixth version covers the fourth one too, and one address on two links is two. -/
def overlaps (first second : HostAddress) : Bool :=
  match first.plain, second.plain with
  | .v4 one, .v4 other => one = other ∨ one = .unspecified ∨ other = .unspecified
  | .v6 one _, .v6 other _ =>
      one = other ∧ first.link = second.link ∨ one.isUnspecified ∨ other.isUnspecified
  | .v4 _, .v6 address _ | .v6 address _, .v4 _ => address.isUnspecified

/-- Whether a socket bound to the first address speaks the version of the second one. One that is
bound to an address of the sixth version and stands for none of the fourth speaks only its own. -/
def speaks : HostAddress → HostAddress → Bool
  | .v4 _, .v4 _ | .v6 _ _, .v6 _ _ => true
  | .v4 _, .v6 _ _ => false
  | .v6 near _, .v4 _ => near.isUnspecified ∨ near.embedded.isSome

/-- Whether it is settled on which link a socket bound to the near address finds the far one: one of
the two names it if the far one needs it, and they do not name two. -/
def settlesLink (near far : HostAddress) : Bool :=
  match near.link, far.link with
  | none, none => !far.isLinkScoped
  | some near, some far => near = far
  | _, _ => true

def text : HostAddress → String
  | .v4 address => address.text
  | .v6 address zone =>
      if zone = 0 then address.text else address.text ++ "%" ++ toString zone.toNat

/-- The number in one part: hexadecimal behind `0x`, octal behind any other zero, decimal
otherwise. -/
def readPart : List Char → Option Nat
  | '0' :: 'x' :: digits => Number.ofDigits 16 digits
  | '0' :: 'X' :: digits => Number.ofDigits 16 digits
  | '0' :: digits => Number.ofDigits 8 ('0' :: digits)
  | digits => Number.ofDigits 10 digits

/-- The number that parts make in so many octets. Each part is one octet but the last, which fills
the octets that are left. -/
def assemble : Nat → List Nat → Option Nat
  | octets + 1, [last] => if last < 256 ^ (octets + 1) then some last else none
  | octets + 1, part :: parts =>
      if part < 256 then (assemble octets parts).map fun rest => 256 ^ octets * part + rest
      else none
  | _, _ => none

def readIpv4 (text : String) : Option Ipv4Address := do
  let parts ← (text.toList.splitOn '.').mapM readPart
  let value ← assemble 4 parts
  (Ipv4Address.readAt (Bytes.ofWord32 (UInt32.ofNat value)) 0).toOption

/-- Reads an address in either version, without a zone; what is none may still be the name of a
host. -/
def ofText (text : String) : Option HostAddress :=
  match readIpv4 text with
  | some address => some (.v4 address)
  | none => (Ipv6Address.ofText text).map fun address => .v6 address 0

def readZone (digits : List Char) : Option UInt32 :=
  ((Number.ofDigits 10 digits).filter fun zone => zone < 4294967296).map UInt32.ofNat

/-- Reads an address with a zone, which starts behind the first `%`. The zone of an address that
means something on one interface only is the name of an interface, if there is one of this name. -/
def ofZonedText (interface : String → Option UInt32) (text : String) : Option HostAddress := do
  match text.toList.span fun character => character ≠ '%' with
  | (_, []) => none
  | (front, _ :: behind) =>
      let address ← Ipv6Address.ofText (String.ofList front)
      let named := if address.isLinkScoped then interface (String.ofList behind) else none
      return .v6 address (← named.or (readZone behind))

end HostAddress

structure SocketAddress where
  ip : HostAddress
  port : UInt16
  deriving DecidableEq, Repr

def SocketAddress.text (address : SocketAddress) : String :=
  let ip :=
    match address.ip with
    | .v4 _ => address.ip.text
    | .v6 _ _ => "[" ++ address.ip.text ++ "]"
  ip ++ ":" ++ toString address.port.toNat

/-- Whether two sockets cannot both be bound. Port zero stands for any free one. -/
def SocketAddress.conflicts (first second : SocketAddress) : Bool :=
  first.port ≠ 0 ∧ first.port = second.port ∧ first.ip.overlaps second.ip

end InstrumentLink.Client
