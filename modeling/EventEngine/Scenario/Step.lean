import EventEngine.Engine

/-! The steps of a scenario. A scenario names its managers, listeners, events and
engines; a listener of a scenario runs a script of steps at each of its calls. -/
namespace EventEngine.Scenario

inductive Moment
  | fixed (t : Timestamp)
  | seconds (x : Number.Double)
  deriving DecidableEq, Repr

/-- Not every number of seconds is a point in time. -/
def Moment.resolve : Moment → Except Timestamp.SecondsError Timestamp
  | fixed t => .ok t
  | seconds x => Timestamp.ofSeconds x

inductive Content
  | quit (exitCode : Int32)
  | update (tick : UInt64) (delta : Duration)
  | render (frame : UInt64)
  | input (device : Device) (code : UInt32) (value : Number.Single)
  | keyboard (key : UInt32) (action : KeyAction)
  | joystickAxis (joystick axis : UInt8) (value : Number.Single)
  | sensor (sensor : SensorKind) (x y z : Number.Single)
  | plain (type : TypeId)
  | custom (type : TypeId)
  deriving DecidableEq, Repr

structure EventSpec where
  content : Content
  priority : Option Priority
  due : Option Moment
  deriving DecidableEq, Repr

/-- An event of the engine with what the specification overrides. -/
def EventSpec.engine (spec : EventSpec) (due : Option Timestamp) (e : EngineEvent) : Event :=
  let e := match spec.priority with
    | some p => e.withPriority p
    | none => e
  .engine (match due with
    | some t => e.scheduledAt t
    | none => e)

def EventSpec.resolveDue (spec : EventSpec) : Except Timestamp.SecondsError (Option Timestamp) :=
  match spec.content, spec.due with
  | .plain _, _ => .ok none
  | _, some moment => some <$> moment.resolve
  | _, none => .ok none

/-- The event of a specification. A plain record has no schedule: what is written of one
is not looked at. -/
def EventSpec.build (spec : EventSpec) : Except Timestamp.SecondsError Event := do
  let due ← spec.resolveDue
  .ok <| match spec.content with
    | .quit exitCode => spec.engine due (.quit exitCode)
    | .update tick delta => spec.engine due (.update tick delta)
    | .render frame => spec.engine due (.render frame)
    | .input device code value => spec.engine due (.input device code value)
    | .keyboard key action => spec.engine due (.keyboard key action)
    | .joystickAxis joystick axis value => spec.engine due (.joystickAxis joystick axis value)
    | .sensor kind x y z => spec.engine due (.sensor kind x y z)
    | .plain type => .plain type
    | .custom type => .custom type (spec.priority.getD .lowest) (due.getD .now)

inductive Subject
  | declared (name : String)
  | current
  | fresh (spec : EventSpec)
  deriving DecidableEq, Repr

inductive Category
  | fixed (t : TypeId)
  | current
  deriving DecidableEq, Repr

inductive ListenerKind
  | named
  | unnamed
  | quit
  | frames
  deriving DecidableEq, Repr

/-- Which truth values a listener answers, call by call; the last one is kept. -/
def nth (answers : List Bool) (n : Nat) : Bool := (answers[n]?.or answers.getLast?).getD false

/-- A step, apart from the name of the manager it is about. -/
inductive Step
  /-- A new manager; its clock stands at `start`, or runs by itself. -/
  | manager (start : Option Moment) (runs : Bool)
  | dropManager
  | listener (l : String) (kind : ListenerKind) (name : Option String)
      (script : List (List (String × Step))) (loops : Bool) (consume : List Bool)
  | dropListener (l : String)
  | event (e : String) (spec : EventSpec)
  | connect (l : String) (type : Category)
  | disconnect (l : String) (type : Category)
  | tryConnect (l : String) (type : Category)
  | tryDisconnect (l : String) (type : Category)
  | connectMany (stem : String) (count : Nat) (type : Category) (consume : List Bool)
  | handleInfo (l : String)
  | handleEq (a b : String)
  | callListener (l : String) (e : Subject)
  | dispatch (e : Subject)
  | queue (e : Subject)
  | fill (count : Nat) (spec : EventSpec)
  | dequeue (e : Subject) (all : Bool)
  | execute (budget : Option Duration)
  | sameEvent (a b : String)
  | describe (e : Subject)
  | advance (distance : Duration)
  | setClock (target : Moment)
  | now
  | after (delay : Duration)
  | listenerCount (type : Category)
  | hasListeners (type : Category)
  | isDispatching (type : Category)
  | totalListeners
  | pending
  | active
  | pruneStale
  | clearQueue
  | registeredTypes
  | isDraining
  | isGlobal
  | clearListeners
  | validate
  | stats
  | debug
  | currentManager
  | requestQuit (code : Int32)
  | signal (name : String)
  | engine (g : String) (settings : Config.EngineSettings)
  | tick (g : String)
  | report (g : String)
  | run (g : String)
  | dropEngine (g : String)
  | listenerState (l : String)
  | panic (message : String)
  deriving Inhabited

/-- What a step is called in a transcript. -/
def Step.verb : Step → String
  | manager .. => "manager"
  | dropManager => "drop_manager"
  | listener .. => "listener"
  | dropListener .. => "drop_listener"
  | event .. => "event"
  | connect .. => "connect"
  | disconnect .. => "disconnect"
  | tryConnect .. => "try_connect"
  | tryDisconnect .. => "try_disconnect"
  | connectMany .. => "connect_many"
  | handleInfo .. => "handle_info"
  | handleEq .. => "handle_eq"
  | callListener .. => "call_listener"
  | dispatch .. => "dispatch"
  | queue .. => "queue"
  | fill .. => "fill"
  | dequeue .. => "dequeue"
  | execute .. => "execute"
  | sameEvent .. => "same_event"
  | describe .. => "describe"
  | advance .. => "advance"
  | setClock .. => "set_clock"
  | now => "now"
  | after .. => "after"
  | listenerCount .. => "listener_count"
  | hasListeners .. => "has_listeners"
  | isDispatching .. => "is_dispatching"
  | totalListeners => "total_listeners"
  | pending => "pending"
  | active => "active"
  | pruneStale => "prune_stale"
  | clearQueue => "clear_queue"
  | registeredTypes => "registered_types"
  | isDraining => "is_draining"
  | isGlobal => "is_global"
  | clearListeners => "clear_listeners"
  | validate => "validate"
  | stats => "stats"
  | debug => "debug"
  | currentManager => "instance"
  | requestQuit .. => "request_quit"
  | signal .. => "signal"
  | engine .. => "engine"
  | tick .. => "tick"
  | report .. => "report"
  | run .. => "run"
  | dropEngine .. => "drop_engine"
  | listenerState .. => "listener_state"
  | panic .. => "panic"

inductive Failure
  | registration (error : RegistrationError)
  | panicked (message : String)
  /-- The step names something the scenario does not have. -/
  | unknownName (name : String)
  deriving DecidableEq, Repr

inductive Answer
  | null
  | ok
  | bool (b : Bool)
  | count (n : Nat)
  | text (s : String)
  | texts (lines : List String)
  | time (t : Timestamp)
  | types (types : List TypeId)
  | failure (failure : Failure)
  | installed (isCurrent : Bool)
  | handle (alive : Bool) (name : String)
  | event (e : Event)
  | counters (counters : Counters)
  | report (report : Engine.Report)
  | quitState (running : Bool) (exitCode : Int32)
  | frameState (updates renders : Nat)

end EventEngine.Scenario
