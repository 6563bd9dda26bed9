import EventEngine.Program
import EventEngine.Config.Settings

/-! The main loop. A tick dispatches an update and a render, then drains the queue once.
The loop ends when a quit event reaches the engine's own listener; the tick limit ends
it by queueing such an event. -/
namespace EventEngine

open Config (EngineSettings)

structure Engine where
  manager : ManagerId
  settings : EngineSettings
  quit : ListenerId
  frames : ListenerId
  /-- Ticks begun so far. -/
  tick : UInt64
  /-- When the last tick began. -/
  lastTick : Timestamp
  deriving DecidableEq, Repr

structure Engine.Report where
  ticks : Nat
  updates : Nat
  renders : Nat
  exitCode : Int32
  counters : Counters
  deriving DecidableEq, Repr

namespace Engine

variable {σ : Type}

open Program (ask connect disconnect dispatchNew enqueueNew)

/-- A new engine holds its manager and registers its own listeners. -/
def create (m : ManagerId) (settings : EngineSettings) : Program σ Engine := do
  ask (.holdManager m)
  let quit ← ask (.newListener "quit" (.quit true 0))
  let frames ← ask (.newListener "frame_stats" (.frames 0 0))
  let _ ← connect m quit Kind.quit.typeId
  let _ ← connect m frames Kind.update.typeId
  let _ ← connect m frames Kind.render.typeId
  let lastTick ← ask (.now m)
  pure { manager := m, settings, quit, frames, tick := 0, lastTick }

/-- The engine at the beginning of a tick. -/
def begin (reading : Timestamp) (g : Engine) : Engine :=
  { g with tick := g.tick + 1, lastTick := reading }

/-- Whether the engine quits by itself at the end of this tick. -/
def atLimit (g : Engine) : Bool := 0 < g.settings.maxTicks && g.settings.maxTicks ≤ g.tick

/-- Whether no quit event has reached the engine. -/
def isRunning (g : Engine) : Program σ Bool := do
  match ← ask (.roleOf g.quit) with
  | .quit running _ => pure running
  | _ => pure true

/-- At the tick limit the engine queues a quit event. -/
def heedLimit (g : Engine) : Program σ Unit :=
  if g.atLimit then do
    ask (.note (.tickLimitReached g.settings.maxTicks.toNat))
    enqueueNew g.manager (.engine (.quit 0))
  else pure ()

/-- The part of a tick before its drain: update and render. -/
def present (g : Engine) (delta : Duration) : Program σ Unit := do
  let _ ← dispatchNew g.manager (.engine (.update g.tick delta))
  let _ ← dispatchNew g.manager (.engine (.render g.tick))
  g.heedLimit

/-- Tells what the drain of a tick left. -/
def tellLeft (g : Engine) (drained : Bool) : Program σ Unit :=
  if drained then pure () else do
    let manager ← ask (.inspect g.manager)
    ask (.note (.eventsLeft g.tick.toNat manager.queue.active.length))

/-- The drain of a tick; tells whether the loop goes on. -/
def drain (g : Engine) : Program σ Bool := do
  let drained ← ask (.execute g.manager g.settings.executeTimeout)
  g.tellLeft drained
  g.isRunning

/-- The part of a tick after its beginning: update, render, drain. -/
def advance (g : Engine) (delta : Duration) : Program σ Bool := do
  g.present delta
  g.drain

/-- One tick; tells whether the loop goes on. The engine as it is from the beginning of
the tick is handed to `keep` before any listener runs. -/
def runTick (keep : Engine → Program σ Unit) (g : Engine) : Program σ Bool := do
  let reading ← ask (.now g.manager)
  let delta := reading.since g.lastTick
  let g := g.begin reading
  keep g
  g.advance delta

/-- One tick; the engine after it, and whether the loop goes on. -/
def turn (g : Engine) : Program σ (Engine × Bool) := do
  let reading ← ask (.now g.manager)
  let delta := reading.since g.lastTick
  let g := g.begin reading
  pure (g, ← g.advance delta)

/-- Ticks until a quit event arrives; `none` if `limit` ticks were not enough. -/
def loop : Nat → Engine → Program σ (Option Engine)
  | 0, _ => pure none
  | limit + 1, g => do
    let (g, goesOn) ← g.turn
    if goesOn then loop limit g else pure (some g)

def announce (g : Engine) : Program σ Unit :=
  ask (.note (.loopStarted g.settings.tickIntervalMillis.toNat g.settings.maxTicks.toNat))

def report (g : Engine) : Program σ Report := do
  let manager ← ask (.inspect g.manager)
  let exitCode := match ← ask (.roleOf g.quit) with
    | .quit _ exitCode => exitCode
    | _ => 0
  let (updates, renders) := match ← ask (.roleOf g.frames) with
    | .frames updates renders => (updates, renders)
    | _ => (0, 0)
  pure ⟨g.tick.toNat, updates, renders, exitCode, manager.counters⟩

/-- The engine takes its listeners off and gives its manager up. -/
def drop (g : Engine) : Program σ Unit := do
  let _ ← disconnect g.manager g.quit Kind.quit.typeId
  let _ ← disconnect g.manager g.frames Kind.update.typeId
  let _ ← disconnect g.manager g.frames Kind.render.typeId
  ask (.releaseManager g.manager)
  let _ ← ask (.dropListener g.quit)
  let _ ← ask (.dropListener g.frames)

/-- Runs the loop to its end and drops the engine, also when a listener panics. -/
def run (limit : Nat) (g : Engine) : Program σ (Option Report) :=
  Program.ensuring (do
    g.announce
    match ← loop limit g with
    | some g => some <$> g.report
    | none => pure none) g.drop

end Engine

/-! ### Quitting from outside -/

/-- The exit code after a termination signal. -/
def signalExitCode : Int32 := 130

/-- Queues a quit on the process-wide manager, if there is one. -/
def requestQuit {σ : Type} (exitCode : Int32) : Program σ Bool := do
  match ← Program.ask .acquireCurrent with
  | some m =>
    Program.enqueueNew m (.engine (.quit exitCode))
    Program.ask (.releaseManager m)
    pure true
  | none =>
    Program.ask (.note .quitUnheard)
    pure false

/-- A termination signal becomes a quit request. -/
def receiveSignal {σ : Type} (name : String) : Program σ Unit := do
  Program.ask (.note (.signalReceived name))
  Program.ask (.note .shutdownRequested)
  let _ ← requestQuit signalExitCode

end EventEngine
