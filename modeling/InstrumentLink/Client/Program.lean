import InstrumentLink.Client.CommandLine
import InstrumentLink.Client.Host
import InstrumentLink.Client.Number
import InstrumentLink.Client.Session

/-!
The register client as a whole: from the words of its command line to what it prints.

The steps are separate, so that a program with a real socket and an experiment with a written-down
one share them: `Plan.ofInvocation` settles addresses and times, opening the session is the host's
business, `perform` is the dialogue with the device, and `run` puts them together for a host and a
network that are pure values.
-/

set_option autoImplicit false

namespace InstrumentLink.Client

inductive Failure where
  | badPort (text : String)
  | unresolved (name cause : String)
  | badTimeout (text : String)
  | access (error : Error)
  deriving DecidableEq, Repr

def Failure.message : Failure → String
  | .badPort text => "bad port " ++ Text.Quoted.encode text
  | .unresolved name cause => "cannot resolve " ++ name ++ ": " ++ cause
  | .badTimeout text => "bad timeout " ++ Text.Quoted.encode text
  | .access error => error.message

def Failure.line (failure : Failure) : String :=
  CommandLine.program ++ ": " ++ failure.message

structure Plan where
  near : SocketAddress
  far : SocketAddress
  timeout : Nat
  deriving DecidableEq, Repr

namespace Plan

/-- The address in a text: a written address, or something that the host looks up: a name, or an
address with a zone, because only the host knows its interfaces. The port is judged first. -/
def socketAddress (lookup : String → Except String HostAddress) (name port : String) :
    Except Failure SocketAddress :=
  match Number.readPort port with
  | none => .error (.badPort port)
  | some port =>
      match HostAddress.ofText name with
      | some ip => .ok { ip, port }
      | none =>
          match lookup name with
          | .ok ip => .ok { ip, port }
          | .error cause => .error (.unresolved name cause)

/-- The plan of a command line: the far address first, then the near one, then the time. -/
def ofInvocation (lookup : String → Except String HostAddress)
    (invocation : CommandLine.Invocation) : Except Failure Plan := do
  let far ← socketAddress lookup invocation.host invocation.port
  let near ← socketAddress lookup invocation.bind invocation.port
  match invocation.timeout with
  | none => return { near, far, timeout := defaultTimeout }
  | some text =>
      match Number.readMilliseconds text with
      | some timeout => return { near, far, timeout }
      | none => .error (.badTimeout text)

end Plan

def word (text : String) : Except Failure UInt32 :=
  match Number.readWord text with
  | .ok word => .ok word
  | .error trimmed => .error (.access (.badNumber trimmed))

def valueLine (address value : UInt32) : String :=
  Text.Hexadecimal.word address ++ ": " ++ Text.Hexadecimal.word value

def consecutive (address count : UInt32) : List UInt32 :=
  (List.range count.toNat).map fun index => address + UInt32.ofNat (4 * index)

def performRead (address : UInt32) (count : UInt32) (session : Session) :
    Dialogue (Except Failure (List String)) := do
  let addresses := consecutive address count
  let (answer, _) ← session.readMany addresses
  match answer with
  | .ok values => return .ok (List.zipWith valueLine addresses values)
  | .error error => return .error (.access error)

def performWrite (address : UInt32) (values : List UInt32) :
    Dialogue (Except Failure (List String)) := do
  match ← Session.writeBurst address values with
  | .ok () => return .ok []
  | .error error => return .error (.access error)

/-- Carries an action out in an open session, and gives the lines to print. Numbers are read only
now, the address first. -/
def perform (action : CommandLine.Action) (session : Session) :
    Dialogue (Except Failure (List String)) :=
  match action with
  | .read address count =>
      match word address, count.mapM word with
      | .ok address, .ok count => performRead address (count.getD 1) session
      | .error failure, _ => .done (.error failure)
      | .ok _, .error failure => .done (.error failure)
  | .write address values =>
      match word address, values.mapM word with
      | .ok address, .ok values => performWrite address values
      | .error failure, _ => .done (.error failure)
      | .ok _, .error failure => .done (.error failure)

def logSource : String := "zapnet_remote::client"

def logLine (event : Event) : String :=
  String.ofList (event.severity.name.toList.rightpad 5 ' ') ++ " " ++ logSource ++ ": " ++
    event.message

def logLines (verbosity : Nat) (events : List Event) : List String :=
  (events.filter fun event => (Severity.ofVerbosity verbosity).admits event.severity).map logLine

/-- What a run of the program shows: its exit code and the lines it prints. -/
inductive Transcript where
  /-- A usage or help text. -/
  | usage (exit : Nat)
  | ran (exit : Nat) (output errors : List String)
  deriving DecidableEq, Repr

def Transcript.ofStop : CommandLine.Stop → Transcript
  | .help => .usage 0
  | .usage => .usage 1
  | .version asked => .ran 0 [CommandLine.versionLine asked] []

def Transcript.ofEnd (log : List String) : Except Failure (List String) → Transcript
  | .ok lines => .ran 0 lines log
  | .error failure => .ran 1 [] (log ++ [failure.line])

def run {Net : Type} [Network Net] (host : Host) (words : List String) (net : Net) :
    Transcript × Net :=
  match CommandLine.parse words with
  | .error stop => (.ofStop stop, net)
  | .ok invocation =>
      match Plan.ofInvocation host.lookup invocation with
      | .error failure => (.ofEnd [] (.error failure), net)
      | .ok plan =>
          match host.openSession plan.near plan.far with
          | .error error => (.ofEnd [] (.error (.access error)), net)
          | .ok near =>
              let session : Session := { timeout := plan.timeout }
              let dialogue := perform invocation.action session
              let (result, net, events) :=
                Dialogue.run (.report (.opened near plan.far) dialogue) net
              (.ofEnd (logLines invocation.verbosity events) result, net)

end InstrumentLink.Client
