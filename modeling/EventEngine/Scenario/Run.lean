import EventEngine.Scenario.Stage

/-! Carrying out the steps of a scenario. A step holds its manager while it runs, so a
script may give up the name of the manager that is calling it. A step that panics is
reported and the scenario goes on. -/
namespace EventEngine.Scenario

open Program (ask memory update)

abbrev Play := Program Stage

/-- More ticks than any engine of a scenario needs. -/
def tickBudget : Nat := 100000000

/-- The manager of a name, held during a program. -/
def withManager (name : String) (p : ManagerId → Play Answer) : Play Answer := do
  match meaning? name (← memory).managers with
  | some m =>
    ask (.holdManager m)
    (p m).ensuring (ask (.releaseManager m))
  | none => pure (.failure (.unknownName name))

def withListener (name : String) (p : ListenerId → Play Answer) : Play Answer := do
  match meaning? name (← memory).listeners with
  | some l => p l
  | none => pure (.failure (.unknownName name))

def withEngine (name : String) (p : Engine → Play Answer) : Play Answer := do
  match meaning? name (← memory).engines with
  | some g => p g
  | none => pure (.failure (.unknownName name))

/-- The event of a specification, a point in time out of range being a panic. -/
def build (spec : EventSpec) : Play Event :=
  match spec.build with
  | .ok e => pure e
  | .error e => .panic e.message

def moment (m : Moment) : Play Timestamp :=
  match m.resolve with
  | .ok t => pure t
  | .error e => .panic e.message

def withSubject (handled : Option EventRef) (subject : Subject) (p : EventRef → Play Answer) :
    Play Answer := do
  match subject with
  | .declared name =>
    match meaning? name (← memory).events with
    | some e => p e
    | none => pure (.failure (.unknownName name))
  | .current =>
    match handled with
    | some e => p e
    | none => pure (.failure (.unknownName "$current"))
  | .fresh spec =>
    let e ← build spec
    p (← ask (.newEvent e))

def withCategory (handled : Option EventRef) (category : Category) (p : TypeId → Play Answer) :
    Play Answer :=
  match category, handled with
  | .fixed t, _ => p t
  | .current, some e => p e.typeId
  | .current, none => pure (.failure (.unknownName "$current"))

/-- Makes a listener and gives up the one that had its name. -/
def declareListener (l : String) (kind : ListenerKind) (name : Option String) (script : Script) :
    Play ListenerId := do
  let (name, role) : String × Role := match kind with
    | .named => (name.getD l, .custom)
    | .unnamed => ("listener", .custom)
    | .quit => ("quit", .quit true 0)
    | .frames => ("frame_stats", .frames 0 0)
  let id ← ask (.newListener name role)
  let older := meaning? l (← memory).listeners
  update fun s => { s with
    listeners := bindName l id s.listeners
    scripts := s.scripts.set id { script with label := l } }
  if let some older := older then
    let _ ← ask (.dropListener older)
  pure id

/-- Makes and connects so many listeners; gives how many were accepted. -/
def connectMany (stem : String) (m : ManagerId) (t : TypeId) (consume : List Bool) :
    Nat → Nat → Nat → Play Nat
  | 0, _, accepted => pure accepted
  | left + 1, i, accepted => do
    let l ← declareListener s!"{stem}{i}" .named none { consume }
    let connected ← Program.connect m l t
    connectMany stem m t consume left (i + 1) (accepted + connected.toNat)

def fill (m : ManagerId) (spec : EventSpec) : Nat → Play Unit
  | 0 => pure ()
  | left + 1 => do
    Program.enqueueNew m (← build spec)
    fill m spec left

def removalAnswer : Except RegistrationError Nat → Answer
  | .ok n => .count n
  | .error e => .failure (.registration e)

def dropManager (m : Option ManagerId) : Play Unit := do
  if let some m := m then ask (.releaseManager m)

def dropEngine (g : Option Engine) : Play Unit := do
  if let some g := g then g.drop

/-- Carries out one step about the manager `name`, inside the call for `handled`. -/
def play (handled : Option EventRef) (name : String) : Step → Play Answer
  | .manager start runs => do
    let start ← match start with
      | some start => moment start
      | none => pure Timestamp.now
    let m ← ask (.newManager (if runs then .sampled (fun _ => .now) 0 else .manual start))
    let older := meaning? name (← memory).managers
    update fun s => { s with managers := bindName name m s.managers }
    dropManager older
    pure (.installed (← ask (.isCurrent m)))
  | .dropManager => do
    let m := meaning? name (← memory).managers
    update fun s => { s with managers := unbindName name s.managers }
    dropManager m
    pure (.bool m.isSome)
  | .listener l kind shown script loops consume => do
    let _ ← declareListener l kind shown { body := script, loops, consume }
    pure .null
  | .dropListener l => withListener l fun l => do pure (.bool (← ask (.dropListener l)))
  | .event e spec => do
    let built ← build spec
    let ref ← ask (.newEvent built)
    update fun s => { s with events := bindName e ref s.events }
    pure .null
  | .connect l type => withManager name fun m => withListener l fun l =>
    withCategory handled type fun t => do pure (.bool (← Program.connect m l t))
  | .disconnect l type => withManager name fun m => withListener l fun l =>
    withCategory handled type fun t => do pure (.bool (← Program.disconnect m l t))
  | .tryConnect l type => withManager name fun m => withListener l fun l =>
    withCategory handled type fun t => do
      match ← ask (.tryConnect m l t) with
      | .ok _ => pure .ok
      | .error e => pure (.failure (.registration e))
  | .tryDisconnect l type => withManager name fun m => withListener l fun l =>
    withCategory handled type fun t => do
      pure (removalAnswer (← ask (.tryDisconnect m l t)))
  | .connectMany stem count type consume => withManager name fun m =>
    withCategory handled type fun t => do
      pure (.count (← connectMany stem m t consume count 0 0))
  | .handleInfo l => withListener l fun l => do
    let called ← ask (.nameOf l)
    pure (.handle called.isSome (called.getD "<dropped>"))
  | .handleEq a b => withListener a fun a => withListener b fun b => pure (.bool (a == b))
  | .callListener l subject => withListener l fun l => withSubject handled subject fun e => do
    match ← ask (.callListener l e) with
    | some consumed => pure (.bool consumed)
    | none => pure .null
  | .dispatch subject => withManager name fun m => withSubject handled subject fun e => do
    pure (.bool (← ask (.dispatch m e)))
  | .queue subject => withManager name fun m => withSubject handled subject fun e => do
    ask (.enqueue m e)
    pure (.bool true)
  | .fill count spec => withManager name fun m => do
    fill m spec count
    pure .null
  | .dequeue subject all => withManager name fun m => withSubject handled subject fun e => do
    ask (.dequeue m e all)
    pure (.bool true)
  | .execute budget => withManager name fun m => do
    pure (.bool (← ask (.execute m budget)))
  | .sameEvent a b => withSubject handled (.declared a) fun a =>
    withSubject handled (.declared b) fun b => pure (.bool (a.same b))
  | .describe subject => withSubject handled subject fun e => pure (.event e.event)
  | .advance distance => withManager name fun m => do
    ask (.advance m distance)
    pure (.time (← ask (.now m)))
  | .setClock target => withManager name fun m => do
    ask (.setClock m (← moment target))
    pure (.time (← ask (.now m)))
  | .now => withManager name fun m => do pure (.time (← ask (.now m)))
  | .after delay => withManager name fun m => do pure (.time (← Program.after m delay))
  | .listenerCount type => withManager name fun m => withCategory handled type fun t => do
    pure (.count ((← ask (.inspect m)).registry.table.count t))
  | .hasListeners type => withManager name fun m => withCategory handled type fun t => do
    pure (.bool (0 < (← ask (.inspect m)).registry.table.count t))
  | .isDispatching type => withManager name fun m => withCategory handled type fun t => do
    pure (.bool ((← ask (.inspect m)).registry.isDispatching t))
  | .totalListeners => withManager name fun m => do
    pure (.count (← ask (.inspect m)).registry.table.total)
  | .pending => withManager name fun m => do
    pure (.count (← ask (.inspect m)).queue.pending.size)
  | .active => withManager name fun m => do
    pure (.count (← ask (.inspect m)).queue.active.length)
  | .pruneStale => withManager name fun m => do pure (.count (← ask (.pruneStale m)))
  | .clearQueue => withManager name fun m => do pure (.count (← ask (.clearQueue m)))
  | .registeredTypes => withManager name fun m => do
    pure (.types (← ask (.inspect m)).registry.table.types)
  | .isDraining => withManager name fun m => do
    pure (.bool (← ask (.inspect m)).queue.draining)
  | .isGlobal => withManager name fun m => do pure (.bool (← ask (.isCurrent m)))
  | .clearListeners => withManager name fun m => do
    ask (.clearListeners m)
    pure .null
  | .validate => withManager name fun m => do
    pure (.texts ((← ask (.validate m)).map (·.message)))
  | .stats => withManager name fun m => do pure (.counters (← ask (.inspect m)).counters)
  | .debug => withManager name fun m => do
    pure (.text (recordText "EventManager" [("registry", Text.quoted "[registry]"),
      ("queue", Text.quoted "[queue]"), ("global", toString (← ask (.isCurrent m)))]))
  | .currentManager => do
    match ← ask .acquireCurrent with
    | some m =>
      ask (.releaseManager m)
      pure (.text ((nameOf? (· == m) (← memory).managers).getD "<unnamed>"))
    | none => pure .null
  | .requestQuit code => do pure (.bool (← requestQuit code))
  | .signal signal => do
    receiveSignal signal
    pure (.bool true)
  | .engine g settings => withManager name fun m => do
    let engine ← Engine.create m settings
    let older := meaning? g (← memory).engines
    update fun s => { s with engines := bindName g engine s.engines }
    dropEngine older
    pure .null
  | .tick g => withEngine g fun engine => do
    let keep (engine : Engine) : Play Unit :=
      update fun s => { s with engines := bindName g engine s.engines }
    pure (.bool (← engine.runTick keep))
  | .report g => withEngine g fun engine => do pure (.report (← engine.report))
  | .run g => withEngine g fun engine => do
    update fun s => { s with engines := unbindName g s.engines }
    match ← engine.run tickBudget with
    | some report => pure (.report report)
    | none => pure .null
  | .dropEngine g => do
    let engine := meaning? g (← memory).engines
    update fun s => { s with engines := unbindName g s.engines }
    dropEngine engine
    pure .null
  | .listenerState l => withListener l fun l => do
    match ← ask (.roleOf l) with
    | .quit running exitCode => pure (.quitState running exitCode)
    | .frames updates renders => pure (.frameState updates renders)
    | .custom => pure .null
  | .panic message => .panic message

/-- The steps of one call, each answer told. -/
def playAll (l : String) (handled : EventRef) : List (String × Step) → Play Unit
  | [] => pure ()
  | (name, step) :: rest => do
    let answer ← play (some handled) name step
    update (·.tell (.did l step.verb answer))
    playAll l handled rest

/-- A scripted listener tells of its call, runs its steps and tells its answer. -/
def scripted : Behaviour Stage := fun l e => do
  let stage ← memory
  let script := stage.scripts.get l
  let n := script.calls
  update fun s => { s with
    scripts := s.scripts.modify l fun script => { script with calls := script.calls + 1 } }
  update (·.tell (.called script.label (n + 1) (stage.nameOfEvent? e) e.event.debug))
  playAll script.label e (script.stepsAt n)
  let consumed := nth script.consume n
  update (·.tell (.ended script.label consumed))
  pure consumed

structure View where
  pending : Nat
  active : Nat
  draining : Bool
  types : List (TypeId × Nat)
  counters : Counters

def View.of (m : Manager) : View where
  pending := m.queue.pending.size
  active := m.queue.active.length
  draining := m.queue.draining
  types := m.registry.table.entries.map fun entry => (entry.1, entry.2.length)
  counters := m.counters

structure Entry where
  answer : Answer
  trace : List TraceEntry
  records : List Log.Record
  view : Option View

/-- Calls of listeners are followed to this depth. -/
def callDepth : Nat := 1000000

/-- Carries out one step from outside. -/
def runStep (name : String) (step : Step) (w : World Stage) : Entry × World Stage :=
  let start := w.journal.size
  let w := { w with memory := { w.memory with trace := #[] } }
  let (answer, w) := match (play none name step).run scripted callDepth w with
    | some (.returned answer, w) => (answer, w)
    | some (.panicked message, w) => (.failure (.panicked message), w)
    | none => (.failure (.panicked "calls nest too deeply"),
        World.initial ({} : Stage))
  ({ answer
     trace := w.memory.trace.toList
     records := records (w.journal.extract start w.journal.size).toList
     view := (meaning? name w.memory.managers).map fun m => .of (w.manager m) }, w)

def runSteps : List (String × Step) → World Stage → List Entry
  | [], _ => []
  | (name, step) :: rest, w =>
    let (entry, w) := runStep name step w
    entry :: runSteps rest w

/-- A scenario starts with a manager of its own, unless it wants none. -/
def run (ownManager : Bool) (steps : List (String × Step)) : List Entry :=
  let w := World.initial ({} : Stage)
  runSteps steps (if ownManager then (runStep "main" (.manager none false) w).2 else w)

end EventEngine.Scenario
