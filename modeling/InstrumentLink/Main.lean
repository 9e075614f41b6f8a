import InstrumentLink.Client.Program
import Std.Async.DNS
import Std.Async.Timer
import Std.Async.UDP

/-!
The register client as a command.

Everything it decides is decided in `Client.Program`. What is left here is to carry a dialogue out
over a UDP socket: to send its datagrams, to wait for others until the time is up, and to print.
-/

set_option autoImplicit false

namespace InstrumentLink.Client.Command

open Std.Net Std.Async

/-- A socket with its session's time to wait and the verbosity of the log. -/
structure Connection where
  socket : UDP.Socket
  timeout : Nat
  verbosity : Nat

/-- An address as the socket takes it. It takes no zones. -/
def netAddress (address : Client.SocketAddress) : Std.Net.SocketAddress :=
  match address.ip with
  | .v4 ip =>
      .v4 { addr := .ofParts ip.octet0 ip.octet1 ip.octet2 ip.octet3, port := address.port }
  | .v6 ip _ => .v6 { addr := ⟨ip.groups⟩, port := address.port }

def hostAddress : IPAddr → HostAddress
  | .v4 address =>
      let octets := address.octets
      .v4 ⟨octets[0], octets[1], octets[2], octets[3]⟩
  | .v6 address => .v6 ⟨address.segments⟩ 0

def sessionAddress : Std.Net.SocketAddress → Client.SocketAddress
  | .v4 address => { ip := hostAddress (.v4 address.addr), port := address.port }
  | .v6 address => { ip := hostAddress (.v6 address.addr), port := address.port }

def codeInText (text : String) : Option UInt32 :=
  match text.splitOn "error code: " with
  | _ :: rest :: _ => (Number.ofDigits 10 (rest.toList.takeWhile Char.isDigit)).map UInt32.ofNat
  | _ => none

/-- The number that the operating system gave a failure. A failure that ended a wait comes as its
description only. -/
def systemCode : IO.Error → Option UInt32
  | .resourceBusy code _ | .otherError code _ | .unsupportedOperation code _
  | .permissionDenied _ code _ | .invalidArgument _ code _ | .noSuchThing _ code _
  | .resourceExhausted _ code _ | .noFileOrDirectory _ code _ => some code
  | .userError text => codeInText text
  | _ => none

/-- The words for a failure of the socket. The event loop negates the numbers. -/
def socketFailure (error : IO.Error) : Error :=
  let code := (systemCode error).getD 0
  match SocketFailure.all.find? fun failure =>
      failure.code = code.toNat ∨ failure.code = (0 - code).toNat with
  | some failure => .io failure.message
  | none => .io (toString error)

/-- Prints an event if the verbosity asks for it. -/
def report (connection : Connection) (event : Event) : IO Unit :=
  (logLines connection.verbosity [event]).forM IO.eprintln

def receive (connection : Connection) (deadline : Nat) : IO (Option Bytes) := do
  let now ← IO.monoMsNow
  if deadline ≤ now then return none
  else
    let left := Std.Time.Millisecond.Offset.ofNat (deadline - now)
    Async.block do
      Selectable.one #[
        .case (connection.socket.recvSelector (UInt64.ofNat datagramCapacity)) fun received =>
          return some received.1.toList,
        .case (← Selector.sleep left) fun _ => return none]

/-- Examines datagrams until one settles the question or the time is up. -/
partial def settle {Answer : Type} (connection : Connection) (deadline : Nat)
    (examine : Bytes → Verdict Answer) : IO (Option Answer) := do
  match ← receive connection deadline with
  | none => return none
  | some datagram =>
      match examine (datagram.take datagramCapacity) with
      | .settled answer => return some answer
      | .ignored event =>
          report connection event
          settle connection deadline examine

def converse {Result : Type} (connection : Connection) : Dialogue Result → IO Result
  | .done result => return result
  | .report event next => do
      report connection event
      converse connection next
  | .send datagram next => do
      Async.block (connection.socket.send ⟨datagram.toArray⟩)
      converse connection next
  | .await examine next => do
      let deadline := (← IO.monoMsNow) + connection.timeout
      let answer ← settle connection deadline examine
      converse connection (next answer)

def lookUp (name : String) : IO (Except String HostAddress) := do
  try
    let addresses ← Async.block (DNS.getAddrInfo name "")
    return addresses.toList.head?.elim (.error "no address") fun found => .ok (hostAddress found)
  catch error => return .error (toString error)

/-- Looks up the host names of a command line before its plan is made. -/
def lookUpAll (invocation : CommandLine.Invocation) :
    IO (String → Except String HostAddress) := do
  let names := [invocation.host, invocation.bind].filter fun name =>
    (HostAddress.ofText name).isNone
  let answers ← names.mapM fun name => return (name, ← lookUp name)
  return fun name => ((answers.find? fun answer => answer.1 = name).map Prod.snd).getD
    (.error "no address")

def carryOut (plan : Plan) (verbosity : Nat) (action : CommandLine.Action) :
    IO (Except Failure (List String)) := do
  try
    let socket ← UDP.Socket.mk
    socket.bind (netAddress plan.near)
    socket.connect (netAddress plan.far)
    let near := sessionAddress (← socket.getSockName)
    let connection : Connection := { socket, timeout := plan.timeout, verbosity }
    converse connection
      (.report (.opened near plan.far) (perform action { timeout := plan.timeout }))
  catch error => return .error (.access (socketFailure error))

def finish (result : Except Failure (List String)) : IO UInt32 := do
  match Transcript.ofEnd [] result with
  | .ran code output errors =>
      output.forM IO.println
      errors.forM IO.eprintln
      return UInt32.ofNat code
  | .usage code => return UInt32.ofNat code

def invoke (invocation : CommandLine.Invocation) : IO UInt32 := do
  let lookup ← lookUpAll invocation
  match Plan.ofInvocation lookup invocation with
  | .error failure => finish (.error failure)
  | .ok plan => finish (← carryOut plan invocation.verbosity invocation.action)

end InstrumentLink.Client.Command

open InstrumentLink.Client in
def main (arguments : List String) : IO UInt32 := do
  match CommandLine.parse arguments with
  | .ok invocation => Command.invoke invocation
  | .error .help => do
      CommandLine.usageLines.forM IO.println
      return 0
  | .error .usage => do
      CommandLine.usageLines.forM IO.eprintln
      return 1
  | .error (.version asked) => do
      IO.println (CommandLine.versionLine asked)
      return 0
