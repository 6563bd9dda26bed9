import EventEngine.Host
import EventEngine.Json.Writer

/-! The command line program. Arguments and the log filter come from the environment, the
settings from a file, time from the monotonic clock; log records go to standard output.
What to do is decided by the host's programs, which are run piece by piece so that
records appear and ticks start when their time has come. -/
namespace EventEngine.CommandLine

open Config (Settings LoadError)

/-- The settings file on disk; where nothing can be opened one is made with the defaults. -/
def loadFile (path : String) : IO (Except LoadError Settings) := do
  match ← (IO.FS.Handle.mk path .read).toBaseIO with
  | .ok _ =>
    match ← (IO.FS.readBinFile path).toBaseIO with
    | .ok bytes => return Settings.ofBytes path bytes.toList
    | .error _ => return .error (.unreadable path)
  | .error (.permissionDenied ..) => return .error (.unreadable path)
  | .error _ =>
    match ← (IO.FS.writeFile path Config.defaultDocument).toBaseIO with
    | .ok () => return .ok {}
    | .error _ => return .error (.unwritable path)

structure Console where
  filter : Log.Filter
  jsonLogs : Bool

def Console.write (c : Console) (r : Log.Record) : IO Unit := do
  if c.filter.admits r then
    IO.println (if c.jsonLogs then (r.toJson "main").text else r.console "main")

/-- Runs a piece of the host's program and writes what it logs. -/
def Console.follow {α : Type} (c : Console) (p : Program Unit α) (w : World Unit) :
    IO (α × World Unit) := do
  match p.run Host.noBehaviour Host.nesting w with
  | some (.returned result, w) =>
    (records w.journal.toList).forM c.write
    return (result, { w with journal := #[] })
  | some (.panicked message, _) => throw (.userError message)
  | none => throw (.userError "listeners are nested too deeply")

/-- Nanoseconds since the program started, as a point in time. -/
def readTime (started : Nat) : IO Timestamp := do
  let elapsed := (← IO.monoNanosNow) - started
  return ⟨(Duration.ofParts? (elapsed / 1000000000) (elapsed % 1000000000)).getD .zero⟩

/-- Waits for a point on the monotonic clock; tells the time after it. -/
def waitUntil (due : Nat) : IO Nat := do
  let before ← IO.monoNanosNow
  if before < due then
    IO.sleep (UInt32.ofNat ((due - before + 999999) / 1000000))
  return max before due

/-- Ticks until the engine stops. A tick that starts late moves the ones behind it. -/
partial def loop (c : Console) (started due : Nat) (g : Engine) (w : World Unit) :
    IO (Engine × World Unit) := do
  let begun ← waitUntil due
  let w := w.modifyClock g.manager (·.set (← readTime started))
  let ((g, goesOn), w) ← c.follow g.turn w
  if goesOn then loop c started (begun + g.settings.tickIntervalMillis.toNat * 1000000) g w
  else return (g, w)

def live (c : Console) (path : String) (s : Settings) : IO Int32 := do
  let started ← IO.monoNanosNow
  let ((m, g), w) ← c.follow (Host.prepare path s (.manual .now)) (World.initial ())
  let ((), w) ← c.follow g.announce w
  let (g, w) ← loop c started started g w
  let (report, w) ← c.follow g.report w
  let ((), w) ← c.follow g.drop w
  let (code, _) ← c.follow (Host.close m report) w
  return code

end EventEngine.CommandLine

open EventEngine

def main (args : List String) : IO UInt32 := do
  match Options.parse args with
  | .error e =>
    IO.eprintln e.message
    return e.exitCode.toUInt32
  | .ok .help =>
    IO.print Options.helpText
    return 0
  | .ok .version =>
    IO.print Options.versionText
    return 0
  | .ok (.start options) =>
    match Host.inForce options (← CommandLine.loadFile options.path) with
    | .error e =>
      IO.eprintln e.complaint
      return 1
    | .ok s =>
      let filter := Host.filter (← IO.getEnv "RUST_LOG") s
      let code ← CommandLine.live { filter, jsonLogs := s.logging.jsonFormat } options.path s
      return code.toUInt32
