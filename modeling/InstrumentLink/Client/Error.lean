import InstrumentLink.Client.HostAddress
import InstrumentLink.Etherbone.Packet
import InstrumentLink.Severity
import InstrumentLink.Text.Quoted

/-!
What a register access from the host can fail with, and what a session reports while it runs.
-/

set_option autoImplicit false

namespace InstrumentLink.Client

inductive MalformedReply where
  | wordCount
  | noValues
  deriving DecidableEq, Repr

def MalformedReply.message : MalformedReply → String
  | .wordCount => "word count differs from the request"
  | .noValues => "reply carried no values"

inductive Error where
  /-- The socket failed, in the words of the operating system. -/
  | io (text : String)
  /-- Nothing answered the request whose first address is given. -/
  | timeout (address : UInt32)
  | malformedReply (cause : MalformedReply)
  | request (cause : Etherbone.Refusal)
  | badNumber (text : String)
  deriving DecidableEq, Repr

namespace Error

def message : Error → String
  | .io text => "socket error: " ++ text
  | .timeout address => "no reply reading " ++ Text.Hexadecimal.word address
  | .malformedReply cause => "malformed reply: " ++ cause.message
  | .request cause => "cannot build request: " ++ cause.message
  | .badNumber text => "not a number: " ++ Text.Quoted.encode text

/-- The words of the operating system, if it is the cause. -/
def source : Error → Option String
  | .io text => some text
  | _ => none

end Error

inductive Event where
  | opened (near far : SocketAddress)
  | writing (words : Nat) (address : UInt32)
  | reading (words : Nat) (tag : UInt32)
  | datagramRefused (cause : Etherbone.Refusal)
  | notAReply
  | staleReply (tag : UInt32)
  deriving DecidableEq, Repr

namespace Event

def severity : Event → Severity
  | .opened _ _ | .datagramRefused _ | .notAReply | .staleReply _ => .debug
  | .writing _ _ | .reading _ _ => .trace

def message : Event → String
  | .opened near far => "etherbone session " ++ near.text ++ " -> " ++ far.text
  | .writing words address =>
      "write " ++ toString words ++ " words at " ++ Text.Hexadecimal.word address
  | .reading words tag =>
      "read " ++ toString words ++ " words, tag " ++ Text.Hexadecimal.tag tag
  | .datagramRefused cause => "ignoring datagram: " ++ cause.message
  | .notAReply => "ignoring datagram without a reply record"
  | .staleReply tag => "ignoring stale reply " ++ Text.Hexadecimal.tag tag

end Event

end InstrumentLink.Client
