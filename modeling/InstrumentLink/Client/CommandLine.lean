/-!
The command line of the register client.

Options come first, then one command with its own arguments. An option takes its value from the
same word, behind an equals sign or, for a one-letter option, directly, or from the next word; a
word that starts with a dash is never taken for a value. After a double dash only values follow.
Asking for help or the version ends the reading at that word.
-/

set_option autoImplicit false

namespace InstrumentLink.Client.CommandLine

inductive Stop where
  | help
  | usage
  | version (command : String)
  deriving DecidableEq, Repr

inductive Action where
  | read (address : String) (count : Option String)
  | write (address : String) (values : List String)
  deriving DecidableEq, Repr

structure Invocation where
  host : String
  port : String
  bind : String
  timeout : Option String
  verbosity : Nat
  action : Action
  deriving DecidableEq, Repr

inductive Name where
  | host
  | port
  | bind
  | timeout
  deriving DecidableEq, Repr

def Name.ofLong : String → Option Name
  | "host" => some .host
  | "port" => some .port
  | "bind" => some .bind
  | "timeout-ms" => some .timeout
  | _ => none

def Name.ofLetter : Char → Option Name
  | 'p' => some .port
  | 't' => some .timeout
  | _ => none

/-- How often an option was given, and its first value. -/
structure Setting where
  occurrences : Nat := 0
  value : Option String := none
  deriving DecidableEq, Repr

namespace Setting

def mention (setting : Setting) : Setting :=
  { setting with occurrences := setting.occurrences + 1 }

def fill (value : String) (setting : Setting) : Setting :=
  { setting with value := setting.value.or (some value) }

end Setting

structure Options where
  host : Setting := {}
  port : Setting := {}
  bind : Setting := {}
  timeout : Setting := {}
  verbosity : Nat := 0
  deriving DecidableEq, Repr

namespace Options

def update (options : Options) (name : Name) (change : Setting → Setting) : Options :=
  match name with
  | .host => { options with host := change options.host }
  | .port => { options with port := change options.port }
  | .bind => { options with bind := change options.bind }
  | .timeout => { options with timeout := change options.timeout }

/-- Whether the options can stand: none with a value is given twice, and a timeout that is given has
a value. The others fall back to their defaults. -/
def acceptable (options : Options) : Bool :=
  [options.host, options.port, options.bind, options.timeout].all
    (fun setting => setting.occurrences ≤ 1) ∧
  (options.timeout.occurrences = 0 ∨ options.timeout.value.isSome)

def invocation (options : Options) (action : Action) : Invocation where
  host := options.host.value.getD "10.0.11.2"
  port := options.port.value.getD "1234"
  bind := options.bind.value.getD "0.0.0.0"
  timeout := options.timeout.value
  verbosity := options.verbosity
  action

end Options

/-- Whether a word starts an option. A single dash is a value. -/
def startsOption (word : List Char) : Bool := word.head? = some '-' ∧ word ≠ ['-']

/-- An option word without its dashes, taken apart at the first equals sign. -/
def splitLong (word : List Char) : List Char × Option (List Char) :=
  let body := word.dropWhile (· = '-')
  let name := body.takeWhile (· ≠ '=')
  if name.length < body.length then (name, some (body.drop (name.length + 1))) else (name, none)

def attached (value : List Char) : String := String.ofList (value.dropWhile (· = '='))

abbrev Step := Except Stop (Options × Option Name)

def take (options : Options) (name : Name) (value : Option (List Char)) : Options × Option Name :=
  let options := options.update name Setting.mention
  match value with
  | some value => (options.update name (Setting.fill (attached value)), none)
  | none => (options, some name)

def longOption (command : String) (options : Options) (word : List Char) : Step :=
  let (name, value) := splitLong word
  match Name.ofLong (String.ofList name) with
  | some option => .ok (take options option value)
  | none =>
      if name = "help".toList then .error .help
      else if name = "version".toList then .error (.version command)
      else .error .usage

/-- Reads one-letter options. The rest of the word behind one with a value is its value. -/
def letterOptions (command : String) (options : Options) : List Char → Step
  | [] => .ok (options, none)
  | letter :: rest =>
      match Name.ofLetter letter with
      | some option => .ok (take options option (if rest = [] then none else some rest))
      | none =>
          if letter = 'v' then
            letterOptions command { options with verbosity := options.verbosity + 1 } rest
          else if letter = 'h' then .error .help
          else if letter = 'V' then .error (.version command)
          else .error .usage

def program : String := "zapnet-remote"

def programVersion : String := "0.1.0"

/-- The values of a command, in order. A command has no options but help and version. `room` is the
number of values it still takes, if that is limited; a value too many is noticed before anything
behind it. -/
def commandValues (command : String) (room : Option Nat) : List String →
    Except Stop (List String)
  | [] => .ok []
  | word :: rest =>
      let letters := word.toList
      if letters = ['-', '-'] then .ok rest
      else if startsOption letters then
        let (name, _) := splitLong letters
        let letter := (letters.drop 1).head?
        if letter = some '-' then
          if name = "help".toList then .error .help
          else if name = "version".toList then .error (.version command)
          else .error .usage
        else if letter = some 'h' then .error .help
        else if letter = some 'V' then .error (.version command)
        else .error .usage
      else if room = some 0 then .error .usage
      else (commandValues command (room.map (· - 1)) rest).map (word :: ·)

def readAction : List String → Except Stop Action
  | [address] => .ok (.read address none)
  | [address, count] => .ok (.read address (some count))
  | _ => .error .usage

def writeAction : List String → Except Stop Action
  | address :: value :: values => .ok (.write address (value :: values))
  | _ => .error .usage

/-- Whether the words behind the help command name something to explain. -/
def explained (words : List String) : Bool :=
  words = [] ∨ words = ["read"] ∨ words = ["write"] ∨ words = ["help"]

def finish (options : Options) (action : Action) : Except Stop Invocation :=
  if options.acceptable then .ok (options.invocation action) else .error .usage

def command (options : Options) (name : String) (rest : List String) : Except Stop Invocation := do
  if name = "read" then
    finish options (← readAction (← commandValues "read" (some 2) rest))
  else if name = "write" then
    finish options (← writeAction (← commandValues "write" none rest))
  else if name = "help" then
    if explained rest then .error .help else .error .usage
  else .error .usage

/-- Reads the words of a command line, `waiting` being the option that still needs its value.
Without a command it is not well formed. -/
def read (waiting : Option Name) (options : Options) : List String → Except Stop Invocation
  | [] => .error .usage
  | word :: rest =>
      let letters := word.toList
      if letters = ['-', '-'] then .error .usage
      else if startsOption letters then do
        let (options, waiting) ←
          if (letters.drop 1).head? = some '-' then longOption program options letters
          else letterOptions program options (letters.drop 1)
        read waiting options rest
      else
        match waiting with
        | some name => read none (options.update name (Setting.fill word)) rest
        | none => command options word rest

def parse (words : List String) : Except Stop Invocation := read none {} words

/-- The line that answers a question for the version. The commands have no version of their own. -/
def versionLine (asked : String) : String :=
  if asked = program then program ++ " " ++ programVersion else program ++ "-" ++ asked ++ " "

def usageLines : List String :=
  ["usage: " ++ program ++ " [options] read <addr> [<count>]",
    "       " ++ program ++ " [options] write <addr> <value>...",
    "",
    "  --host <host>          device address, 10.0.11.2 unless given",
    "  -p, --port <port>      UDP port on both ends, 1234 unless given",
    "  --bind <addr>          local address to send from, 0.0.0.0 unless given",
    "  -t, --timeout-ms <ms>  how long to wait for each read reply",
    "  -v                     log more; repeat for debug and trace output",
    "  -h, --help             show this text",
    "  -V, --version          show the version"]

end InstrumentLink.Client.CommandLine
