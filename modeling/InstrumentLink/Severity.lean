/-!
How much a diagnostic matters.
-/

set_option autoImplicit false

namespace InstrumentLink

/-- Severities, the gravest first. -/
inductive Severity where
  | error
  | warn
  | info
  | debug
  | trace
  deriving DecidableEq, Repr

namespace Severity

def name : Severity → String
  | .error => "ERROR"
  | .warn => "WARN"
  | .info => "INFO"
  | .debug => "DEBUG"
  | .trace => "TRACE"

def rank : Severity → Nat
  | .error => 0
  | .warn => 1
  | .info => 2
  | .debug => 3
  | .trace => 4

def admits (threshold severity : Severity) : Bool := severity.rank ≤ threshold.rank

def ofVerbosity (count : Nat) : Severity :=
  match count with
  | 0 => .warn
  | 1 => .info
  | 2 => .debug
  | _ => .trace

end Severity

end InstrumentLink
