import EventEngine.Config.Settings
import EventEngine.Text.Terminal

/-! Command line options. An option that takes a value waits for the next argument, and
what it was given is looked at only when the next option or the end is reached: a stray
argument in between is reported first. Help and version act as soon as they are
reached. -/
namespace EventEngine

structure Options where
  configPath : Option String := none
  logLevel : Option String := none
  jsonLogs : Bool := false
  maxTicks : Option UInt64 := none
  deriving DecidableEq, Repr

namespace Options

def path (o : Options) : String := o.configPath.getD "config.toml"

def applyTo (o : Options) (s : Config.Settings) : Config.Settings where
  engine := { s.engine with maxTicks := o.maxTicks.getD s.engine.maxTicks }
  logging :=
    { level := o.logLevel.getD s.logging.level
      jsonFormat := o.jsonLogs || s.logging.jsonFormat }

inductive Valued
  | config
  | logLevel
  | maxTicks
  deriving DecidableEq, Repr

inductive Switch
  | jsonLogs
  | help
  | version
  deriving DecidableEq, Repr

def Valued.text : Valued → String
  | config => "--config <FILE>"
  | logLevel => "--log-level <LEVEL>"
  | maxTicks => "--max-ticks <COUNT>"

def Switch.text : Switch → String
  | jsonLogs => "--json-logs"
  | help => "--help"
  | version => "--version"

inductive CountError
  | empty
  | invalidDigit
  | tooLarge
  deriving DecidableEq, Repr

def CountError.message : CountError → String
  | empty => "cannot parse integer from empty string"
  | invalidDigit => "invalid digit found in string"
  | tooLarge => "number too large to fit in target type"

inductive UsageError
  | unexpectedArgument (text : String)
  | unexpectedValue (value : String) (option : Switch)
  | missingValue (option : Valued)
  /-- The option was given before. -/
  | repeated (option : String)
  | invalidCount (value : String) (error : CountError)
  deriving DecidableEq, Repr

/-- What the arguments hold is shown without commands to the terminal. -/
def UsageError.message : UsageError → String
  | unexpectedArgument text => s!"error: unexpected argument '{Text.Terminal.visible text}' found"
  | unexpectedValue value option =>
    s!"error: unexpected value '{Text.Terminal.visible value}' for '{option.text}' found; " ++
      "no more were expected"
  | missingValue option =>
    s!"error: a value is required for '{option.text}' but none was supplied"
  | repeated option => s!"error: the argument '{option}' cannot be used multiple times"
  | invalidCount value error =>
    s!"error: invalid value '{Text.Terminal.visible value}' for '{Valued.maxTicks.text}': " ++
      error.message

/-- The exit code of the program when its arguments are refused. -/
def UsageError.exitCode (_ : UsageError) : Int32 := 2

/-- One more digit; the first fault from the left is reported. -/
def countDigit (total : Nat) (c : Char) : Except CountError Nat :=
  if c.isDigit then
    let next := total * 10 + (c.toNat - '0'.toNat)
    if next < UInt64.size then .ok next else .error .tooLarge
  else .error .invalidDigit

/-- A count in a 64-bit word; a plus may stand in front. -/
def readCount (s : String) : Except CountError UInt64 :=
  match s.toList with
  | [] => .error .empty
  | ['+'] => .error .invalidDigit
  | '+' :: cs => (cs.foldlM countDigit 0).map UInt64.ofNat
  | cs => (cs.foldlM countDigit 0).map UInt64.ofNat

inductive Request
  | start (options : Options)
  | help
  | version
  deriving DecidableEq, Repr

/-- The options read so far, and the one whose value was not looked at yet. -/
structure Scan where
  options : Options := {}
  pending : Option (Valued × Option String) := none

def Scan.store (s : Scan) (option : Valued) (value : String) : Except UsageError Scan :=
  let o := s.options
  match option with
  | .config =>
    if o.configPath.isSome then .error (.repeated option.text)
    else .ok { options := { o with configPath := some value } }
  | .logLevel =>
    if o.logLevel.isSome then .error (.repeated option.text)
    else .ok { options := { o with logLevel := some value } }
  | .maxTicks =>
    if o.maxTicks.isSome then .error (.repeated option.text)
    else
      match readCount value with
      | .ok n => .ok { options := { o with maxTicks := some n } }
      | .error e => .error (.invalidCount value e)

def Scan.settle (s : Scan) : Except UsageError Scan :=
  match s.pending with
  | none => .ok s
  | some (option, none) => .error (.missingValue option)
  | some (option, some value) => s.store option value

/-- An option with its value in the same argument, or without one yet. -/
def Scan.valued (s : Scan) (option : Valued) (value : Option String) : Except UsageError Scan := do
  let s ← s.settle
  match value with
  | some value => s.store option value
  | none => .ok { s with pending := some (option, none) }

/-- An option without a value; some of them end the reading. -/
def Scan.switch (s : Scan) (option : Switch) : Except UsageError (Request ⊕ Scan) := do
  let s ← s.settle
  match option with
  | .jsonLogs =>
    if s.options.jsonLogs then .error (.repeated option.text)
    else .ok (.inr { s with options := { s.options with jsonLogs := true } })
  | .help => .ok (.inl .help)
  | .version => .ok (.inl .version)

def long? : String → Option (Valued ⊕ Switch)
  | "config" => some (.inl .config)
  | "log-level" => some (.inl .logLevel)
  | "max-ticks" => some (.inl .maxTicks)
  | "json-logs" => some (.inr .jsonLogs)
  | "help" => some (.inr .help)
  | "version" => some (.inr .version)
  | _ => none

def short? : Char → Option (Valued ⊕ Switch)
  | 'c' => some (.inl .config)
  | 'l' => some (.inl .logLevel)
  | 't' => some (.inl .maxTicks)
  | 'h' => some (.inr .help)
  | 'V' => some (.inr .version)
  | _ => none

/-- An argument that starts with two dashes, without them. -/
def Scan.long (s : Scan) (cs : List Char) : Except UsageError (Request ⊕ Scan) :=
  let name := String.ofList (cs.takeWhile (· != '='))
  let value := match cs.dropWhile (· != '=') with
    | _ :: value => some (String.ofList value)
    | [] => none
  match long? name with
  | some (.inl option) => (s.valued option value).map .inr
  | some (.inr option) =>
    match value with
    | some value => .error (.unexpectedValue value option)
    | none => s.switch option
  | none => .error (.unexpectedArgument ("--" ++ name))

/-- Letters behind one dash. A letter that takes a value takes the rest of them. -/
def Scan.short (s : Scan) : List Char → Except UsageError (Request ⊕ Scan)
  | [] => .ok (.inr s)
  | c :: cs =>
    match short? c with
    | some (.inl option) =>
      let value := match cs with
        | [] => none
        | '=' :: value => some (String.ofList value)
        | value => some (String.ofList value)
      (s.valued option value).map .inr
    | some (.inr option) => do
      match ← s.switch option with
      | .inl request => .ok (.inl request)
      | .inr s => s.short cs
    | none => .error (.unexpectedArgument (String.ofList ['-', c]))

/-- An argument that is no option: the value of the option in front of it. -/
def Scan.plain (s : Scan) (arg : String) : Except UsageError Scan :=
  match s.pending with
  | some (option, none) => .ok { s with pending := some (option, some arg) }
  | _ => .error (.unexpectedArgument arg)

/-- The arguments from the left. Behind a lone double dash nothing is expected. -/
def Scan.read (s : Scan) : List String → Except UsageError Request
  | [] => s.settle.map fun s => .start s.options
  | arg :: rest =>
    match arg.toList with
    | ['-', '-'] =>
      match rest with
      | [] => s.settle.map fun s => .start s.options
      | next :: _ => .error (.unexpectedArgument next)
    | '-' :: '-' :: cs => do
      match ← s.long cs with
      | .inl request => .ok request
      | .inr s => s.read rest
    | '-' :: c :: cs => do
      match ← s.short (c :: cs) with
      | .inl request => .ok request
      | .inr s => s.read rest
    | _ => do (← s.plain arg).read rest

def parse (args : List String) : Except UsageError Request := ({} : Scan).read args

def versionText : String := "Zenith Engine 0.3.0\n"

def helpText : String :=
  "Headless host for the Zenith 2D engine event loop\n\nUsage: zenith [OPTIONS]\n\nOptions:\n" ++
  "  -c, --config <FILE>      Configuration file path [default: config.toml]\n" ++
  "  -l, --log-level <LEVEL>  Log level (trace, debug, info, warn, error)\n" ++
  "      --json-logs          Output logs in JSON format\n" ++
  "  -t, --max-ticks <COUNT>  Stop after this many ticks (0 runs until quit)\n" ++
  "  -h, --help               Print help\n" ++
  "  -V, --version            Print version\n"

end Options
end EventEngine
