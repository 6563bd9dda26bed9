import EventEngine.Engine
import EventEngine.Options
import EventEngine.Config.File
import EventEngine.Log.Filter

/-! The whole program: options, settings, logging, the engine's run and the report at its
end. -/
namespace EventEngine.Host

open Program (ask)
open Log (Record Source)
open Config (Settings)

inductive StartError
  | load (error : Config.LoadError)
  | invalid (error : Config.SettingsError)
  | loggingInUse
  deriving DecidableEq, Repr

def StartError.message : StartError → String
  | load error => error.message
  | invalid error => s!"Configuration validation failed: {error.message}"
  | loggingInUse =>
    "Failed to initialize logging: a global default trace dispatcher has already been set"

def StartError.complaint (e : StartError) : String := s!"Error: {e.message}"

def setUpLogging (inUse : Bool) : Except StartError Unit :=
  if inUse then .error .loggingInUse else .ok ()

/-- The settings in force: the loaded ones with the overrides of the options, checked. -/
def inForce (options : Options) (loaded : Except Config.LoadError Settings) :
    Except StartError Settings := do
  let s := options.applyTo (← loaded.mapError .load)
  s.validate.mapError .invalid
  pure s

/-- The filter of the environment if it can be read, else that of the settings. -/
def filter (environment : Option String) (s : Settings) : Log.Filter :=
  (environment.bind Log.Filter.read?).getD
    (.ofVerbosity ((Log.verbosity? s.logging.level).getD 1))

/-! ### Lines of the program's own -/

def version : String := "0.3.0"

def padRight (width : Nat) (s : String) : String := s.pushn ' ' (width - s.length)

def openingLines (path : String) (s : Settings) : List Record :=
  Source.logging.record .info s!"🔧 Logging initialized with level: {s.logging.level}" ::
    [ "╔══════════════════════════════════════╗",
      "║           🌟 ZENITH ENGINE 🌟         ║",
      s!"║              v{padRight 22 version} ║",
      "╚══════════════════════════════════════╝",
      s!"📂 Config: {path}" ].map (Source.host.record .info ·)

def reportLines (r : Engine.Report) : List Record :=
  let c := r.counters
  let info (message : String) : Record := Source.host.record .info message
  [ info "📊 Final Statistics:",
    info s!"  - Ticks: {r.ticks} ({r.updates} updates, {r.renders} renders)",
    info (s!"  - Events: {c.queued} queued, {c.dequeued} dequeued, {c.dispatched} dispatched, " ++
      s!"{c.consumed} consumed"),
    info s!"  - Drains: {c.drains} ({c.drainsCompleted} complete, {c.drainsPartial} partial)" ] ++
  (if c.anomalies = 0 then []
    else [Source.host.record .warn s!"  - Dispatch anomalies: {c.anomalies}"]) ++
  [ info s!"👋 Zenith shut down with exit code {r.exitCode.toInt}" ]

variable {σ : Type}

def say : List Record → Program σ Unit
  | [] => pure ()
  | r :: rest => do
    ask (.note (.said r))
    say rest

def prepare (path : String) (s : Settings) (clock : Clock) : Program σ (ManagerId × Engine) := do
  say (openingLines path s)
  let m ← ask (.newManager clock)
  let engine ← Engine.create m s.engine
  say [Source.host.record .info "🛑 Press Ctrl+C to quit"]
  pure (m, engine)

/-- What the program does after the engine's loop. It ends at once with an exit code that
is not zero, and gives its manager up otherwise. -/
def close (m : ManagerId) (r : Engine.Report) : Program σ Int32 := do
  say (reportLines r)
  let issues ← ask (.validate m)
  say (issues.map fun issue => Source.host.record .warn s!"⚠️ {issue.message}")
  if r.exitCode = 0 then ask (.releaseManager m)
  pure r.exitCode

/-- The engine's whole life; `none` if `limit` ticks were not enough. -/
def live (path : String) (s : Settings) (clock : Clock) (limit : Nat) :
    Program σ (Option Int32) := do
  let (m, engine) ← prepare path s clock
  match ← engine.run limit with
  | some report => some <$> close m report
  | none => pure none

structure Exit where
  code : Int32
  /-- Text on standard output that is no log. -/
  text : String := ""
  records : List Record := []
  jsonLogs : Bool := false
  complaint : Option String := none
  files : Config.FileTree

/-- No listener of the program is scripted. -/
def noBehaviour : Behaviour Unit := fun _ _ => .done false

/-- How deep operations nest: the listeners of the program ask for none. -/
def nesting : Nat := 1

/-- The program, with readings of its clock and a bound on the ticks it is followed. -/
def run (args : List String) (environment : Option String) (files : Config.FileTree)
    (clock : Clock) (limit : Nat) : Exit :=
  match Options.parse args with
  | .error e => { code := e.exitCode, complaint := some e.message, files }
  | .ok .help => { code := 0, text := Options.helpText, files }
  | .ok .version => { code := 0, text := Options.versionText, files }
  | .ok (.start options) =>
    let (loaded, files) := Config.load options.path files
    match inForce options loaded with
    | .error e => { code := 1, complaint := some e.complaint, files }
    | .ok s =>
      let jsonLogs := s.logging.jsonFormat
      match (live options.path s clock limit).run noBehaviour nesting (World.initial ()) with
      | some (.returned (some code), w) =>
        { code, records := (records w.journal.toList).filter (filter environment s).admits
          jsonLogs, files }
      | _ => { code := 101, files }

end EventEngine.Host
