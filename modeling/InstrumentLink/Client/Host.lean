import InstrumentLink.Client.Error

/-!
What opening a session depends on: the addresses and routes of the host it runs on.
-/

set_option autoImplicit false

namespace InstrumentLink.Client

inductive SocketFailure where
  | noSuchDevice
  | invalidArgument
  | addressFamily
  | addressInUse
  | addressNotAvailable
  | networkUnreachable
  | connectionRefused
  deriving DecidableEq, Repr

namespace SocketFailure

def all : List SocketFailure :=
  [.noSuchDevice, .invalidArgument, .addressFamily, .addressInUse, .addressNotAvailable,
    .networkUnreachable, .connectionRefused]

def code : SocketFailure → Nat
  | .noSuchDevice => 19
  | .invalidArgument => 22
  | .addressFamily => 97
  | .addressInUse => 98
  | .addressNotAvailable => 99
  | .networkUnreachable => 101
  | .connectionRefused => 111

def description : SocketFailure → String
  | .noSuchDevice => "No such device"
  | .invalidArgument => "Invalid argument"
  | .addressFamily => "Address family not supported by protocol"
  | .addressInUse => "Address already in use"
  | .addressNotAvailable => "Cannot assign requested address"
  | .networkUnreachable => "Network is unreachable"
  | .connectionRefused => "Connection refused"

def message (failure : SocketFailure) : String :=
  failure.description ++ " (os error " ++ toString failure.code ++ ")"

end SocketFailure

structure Host where
  /-- The sockets that are bound already. -/
  bound : List SocketAddress
  /-- Why no socket can be bound to an address, if none can. -/
  refusal : HostAddress → Option SocketFailure
  /-- The source address on the way from a bound address to a destination, if there is a way. -/
  route : HostAddress → HostAddress → Except SocketFailure HostAddress
  /-- The address of a host name, or the words of the operating system. -/
  lookup : String → Except String HostAddress

namespace Host

/-- Opens a session from a near address to a far one, and gives the address it is bound to. -/
def openSession (host : Host) (near far : SocketAddress) : Except Error SocketAddress :=
  let failed (failure : SocketFailure) : Except Error SocketAddress :=
    .error (.io failure.message)
  match host.refusal near.ip with
  | some failure => failed failure
  | none =>
      if host.bound.any near.conflicts then failed .addressInUse
      else if !near.ip.speaks far.ip then failed .addressFamily
      else
        match host.route near.ip far.ip with
        | .error failure => failed failure
        | .ok source => .ok { near with ip := if near.ip.isUnspecified then source else near.ip }

/-- The number of the one interface that such a host has, to itself. -/
def isolatedInterface : UInt32 := 1

/-- A host that was never connected to anything knows no addresses of its own. It binds sockets to
any address of the fourth version, because nothing says that the address is not its own, but of the
sixth version only to those that are no single host's. An address that is complete only with an
interface has to name the one there is. -/
def isolatedRefusal : HostAddress → Option SocketFailure
  | .v4 _ => none
  | .v6 address zone =>
      if address.isLinkScoped ∧ zone = 0 then some .invalidArgument
      else if address.isLinkScoped ∧ zone ≠ isolatedInterface then some .noSuchDevice
      else if address.isUnspecified ∨ address.isMulticast ∨ address.embedded.isSome then none
      else some .addressNotAvailable

def isShared (address : Ipv4Address) : Bool :=
  address ≠ .unspecified ∧ !address.isUnicast

/-- Why there is no way from one address to another on a host without a network. In the sixth
version it is the link that is missed first, then the source address, unless there is one. A socket
whose address stands for one of the fourth version goes by that version where it can, and then the
address it is bound to is judged first, because it would send from that very address. -/
def isolatedRoute : HostAddress → HostAddress → SocketFailure
  | .v4 _, _ => .networkUnreachable
  | .v6 near zone, far =>
      if near.embedded.any isShared ∧ (far.isIpv4 ∨ far.isUnspecified) then .invalidArgument
      else if !(HostAddress.v6 near zone).settlesLink far then .invalidArgument
      else if near.embedded.isSome ∨ far.isIpv4 then .networkUnreachable
      else .addressNotAvailable

def isNameCharacter (character : Char) : Bool :=
  character.isAlphanum ∨ character = '-' ∨ character = '_'

/-- Whether a text can be the name of a host: labels of one to sixty-three characters with dots
between them, at most 253 characters, and no dash in front. A dot at the end changes nothing, and
stands alone for the root of all names. -/
def isName (text : List Char) : Bool :=
  let name := if text.getLast? = some '.' then text.dropLast else text
  text = ['.'] ∨ name.head? ≠ some '-' ∧ name.length ≤ 253 ∧ (name.splitOn '.').all fun label =>
    label ≠ [] ∧ label.length ≤ 63 ∧ label.all isNameCharacter

/-- The number of an interface by its name, which is shorter than sixteen bytes. A colon and what
is behind it do not belong to the name. -/
def isolatedInterfaceNamed (name : String) : Option UInt32 :=
  if name.utf8ByteSize < 16 ∧ (name.toList.takeWhile fun character => character ≠ ':') = ['l', 'o']
  then some isolatedInterface
  else none

/-- The address of a host name where nobody can be asked: the host knows its own name only, and the
names of its interfaces in addresses with a zone. -/
def isolatedLookup (name : String) : Except String HostAddress :=
  let failed (cause : String) : Except String HostAddress :=
    .error ("failed to lookup address information: " ++ cause)
  match HostAddress.ofZonedText isolatedInterfaceNamed name with
  | some address => .ok address
  | none =>
      if name.toLower = "localhost" then .ok (.v4 ⟨127, 0, 0, 1⟩)
      else if isName name.toList then failed "Temporary failure in name resolution"
      else failed "Name or service not known"

def isolated (bound : List SocketAddress) : Host where
  bound
  refusal := isolatedRefusal
  route near far := .error (isolatedRoute near far)
  lookup := isolatedLookup

end Host

end InstrumentLink.Client
