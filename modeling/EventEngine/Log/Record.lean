import EventEngine.Text.Parts
import EventEngine.Text.Terminal
import EventEngine.Json.Value

/-! Log records: a severity, the part of the program they come from, a message and
named values. -/
namespace EventEngine.Log

inductive Level
  | error
  | warn
  | info
  | debug
  | trace
  deriving DecidableEq, Repr, Inhabited

namespace Level

/-- Less grave levels are greater. -/
def verbosity : Level → Nat
  | error => 1
  | warn => 2
  | info => 3
  | debug => 4
  | trace => 5

def name : Level → String
  | error => "ERROR"
  | warn => "WARN"
  | info => "INFO"
  | debug => "DEBUG"
  | trace => "TRACE"

end Level

inductive Value
  | text (s : String)
  /-- What stands for a value that is no text itself. -/
  | shown (s : String)
  | nat (n : Nat)
  | bool (b : Bool)
  deriving DecidableEq, Repr

namespace Value

def toText : Value → String
  | text s => s
  | shown s => s
  | nat n => toString n
  | bool b => toString b

/-- On the console texts stand between quotes. -/
def toConsole : Value → String
  | text s => Text.quoted s
  | value => value.toText

def toJson : Value → Json
  | text s => .string s
  | shown s => .string s
  | nat n => .ofNat n
  | bool b => .bool b

end Value

structure Record where
  level : Level
  target : String
  message : String
  fields : List (String × Value) := []
  deriving DecidableEq, Repr

namespace Record

/-- Every record has its message as a value of this name. -/
def messageName : String := "message"

def names (r : Record) : List String := messageName :: r.fields.map (·.1)

def line (r : Record) : String :=
  r.fields.foldl (fun out (name, value) => out ++ s!" {name}={value.toText}")
    s!"{r.level.name} {r.message}"

/-- A record on the console, with the thread it comes from. The message cannot command
the terminal, but may go on over several lines. -/
def console (thread : String) (r : Record) : String :=
  r.fields.foldl (fun out (name, value) => out ++ s!" {name}={value.toConsole}")
    s!"{r.level.name} {thread} {Text.Terminal.disarm r.message}"

def consoleLines (thread : String) (r : Record) : List String :=
  Text.lines (r.console thread ++ "\n")

def toJson (thread : String) (r : Record) : Json :=
  .ofMembers [("level", .string r.level.name), ("target", .string r.target),
    ("threadName", .string thread),
    ("fields", .ofMembers ((messageName, .string r.message) ::
      r.fields.map fun (name, value) => (name, value.toJson)))]

end Record
end EventEngine.Log
