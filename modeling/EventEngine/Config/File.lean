import EventEngine.Config.FileTree
import EventEngine.Config.Settings
import EventEngine.Toml.Reader

/-! The configuration file. A file that is missing is written with the defaults; one that
is there must be readable text and a valid document. -/
namespace EventEngine.Config

inductive LoadError
  | unreadable (path : String)
  | malformed (path : String)
  | unwritable (path : String)
  deriving DecidableEq, Repr

def LoadError.message : LoadError → String
  | unreadable path => s!"Failed to read config file {path}"
  | malformed path => s!"Failed to parse config file {path}"
  | unwritable path => s!"Failed to write default config {path}"

def defaultDocument : String :=
  let s : Settings := {}
  s!"[engine]\ntick_interval_ms = {s.engine.tickIntervalMillis.toNat}\n" ++
  s!"execute_timeout_ms = {s.engine.executeTimeoutMillis.toNat}\n" ++
  s!"max_ticks = {s.engine.maxTicks.toNat}\n\n" ++
  s!"[logging]\nlevel = \"{s.logging.level}\"\njson_format = {s.logging.jsonFormat}\n"

/-- The settings a document writes; items behind the last field of a record given by
position are ignored. -/
def Settings.ofDocument? (text : String) : Option Settings := do
  let value ← Toml.read? text
  match Settings.decode false value.toJson with
  | .ok s => some s
  | .error _ => none

def Settings.ofBytes (path : String) (bytes : List UInt8) : Except LoadError Settings :=
  match String.fromUTF8? ⟨bytes.toArray⟩ with
  | none => .error (.unreadable path)
  | some text =>
    match Settings.ofDocument? text with
    | some s => .ok s
    | none => .error (.malformed path)

/-- Loads settings; a missing file is made with the defaults. -/
def load (path : String) (t : FileTree) : Except LoadError Settings × FileTree :=
  match t.locate path with
  | .found _ (.file bytes) => (Settings.ofBytes path bytes, t)
  | .found _ .directory => (.error (.unreadable path), t)
  | .vacant place => (.ok {}, t.put place (.file defaultDocument.toUTF8.toList))
  | .nowhere => (.error (.unwritable path), t)

end EventEngine.Config
