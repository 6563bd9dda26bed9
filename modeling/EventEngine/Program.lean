import EventEngine.World.Delivery

/-! What a listener, or the host itself, does: a program that asks for operations one
after the other and goes on with their outcomes. A panic of an operation is an outcome
like any other, so a program can stop at it or go on. Programs are finite; they nest
only through the listeners that their operations call. -/
namespace EventEngine

inductive Op
  | newManager (clock : Clock)
  | holdManager (m : ManagerId)
  | releaseManager (m : ManagerId)
  /-- The process-wide manager, held for the caller. -/
  | acquireCurrent
  | isCurrent (m : ManagerId)
  | newListener (name : String) (role : Role)
  | dropListener (l : ListenerId)
  | nameOf (l : ListenerId)
  | roleOf (l : ListenerId)
  /-- Calls a listener directly, if it lives. -/
  | callListener (l : ListenerId) (e : EventRef)
  | newEvent (e : Event)
  | tryConnect (m : ManagerId) (l : ListenerId) (t : TypeId)
  | tryDisconnect (m : ManagerId) (l : ListenerId) (t : TypeId)
  | clearListeners (m : ManagerId)
  | pruneStale (m : ManagerId)
  | dispatch (m : ManagerId) (e : EventRef)
  | enqueue (m : ManagerId) (e : EventRef)
  | dequeue (m : ManagerId) (e : EventRef) (all : Bool)
  | clearQueue (m : ManagerId)
  | execute (m : ManagerId) (budget : Option Duration)
  | now (m : ManagerId)
  | advance (m : ManagerId) (step : Duration)
  | setClock (m : ManagerId) (target : Timestamp)
  | inspect (m : ManagerId)
  | validate (m : ManagerId)
  | note (notice : Notice)

abbrev Op.Reply : Op → Type
  | newManager _ => ManagerId
  | acquireCurrent => Option ManagerId
  | newListener .. => ListenerId
  | nameOf _ => Option String
  | roleOf _ => Role
  | callListener .. => Option Bool
  | newEvent _ => EventRef
  | tryConnect .. => Except RegistrationError Unit
  | tryDisconnect .. => Except RegistrationError Nat
  | isCurrent _ | dropListener _ | dispatch .. | execute .. => Bool
  | pruneStale _ | clearQueue _ => Nat
  | now _ => Timestamp
  | inspect _ => Manager
  | validate _ => List Manager.Issue
  | holdManager _ | releaseManager _ | clearListeners _ | enqueue .. | dequeue .. | advance ..
  | setClock .. | note _ => Unit

/-- A program with memory `σ` and a result. -/
inductive Program (σ α : Type)
  | done (result : α)
  | panic (message : String)
  | call (op : Op) (next : Outcome op.Reply → Program σ α)
  | read (next : σ → Program σ α)
  | change (f : σ → σ) (next : Program σ α)

namespace Program

variable {σ α β : Type}

def bind (p : Program σ α) (f : α → Program σ β) : Program σ β :=
  match p with
  | done a => f a
  | panic message => panic message
  | call op next => call op fun outcome => (next outcome).bind f
  | read next => read fun memory => (next memory).bind f
  | change g next => change g (next.bind f)

instance : Monad (Program σ) where
  pure := done
  bind := bind

/-- A program that does not panic, but ends with how the given one would have. -/
def attempt : Program σ α → Program σ (Outcome α)
  | done a => done (.returned a)
  | panic message => done (.panicked message)
  | call op next => call op fun outcome => (next outcome).attempt
  | read next => read fun memory => (next memory).attempt
  | change g next => change g next.attempt

/-- Goes on with an outcome: a panic stays a panic. -/
def ofOutcome : Outcome α → Program σ α
  | .returned a => done a
  | .panicked message => panic message

/-- A program, and then another one however the first ended. -/
def ensuring (p : Program σ α) (last : Program σ Unit) : Program σ α :=
  p.attempt.bind fun outcome => last.bind fun _ => ofOutcome outcome

/-- One operation; its panic stops the program. -/
def ask (op : Op) : Program σ op.Reply := call op ofOutcome

def memory : Program σ σ := read done

def update (f : σ → σ) : Program σ Unit := change f (done ())

/-- Runs a program, given how operations are carried out. -/
def runWith (perform : (op : Op) → Action σ op.Reply) : Program σ α → Action σ α
  | done a, w => some (.returned a, w)
  | panic message, w => some (.panicked message, w)
  | call op next, w =>
    match perform op w with
    | none => none
    | some (outcome, w) => (next outcome).runWith perform w
  | read next, w => (next w.memory).runWith perform w
  | change f next, w => next.runWith perform { w with memory := f w.memory }

end Program

/-- What the listeners whose role is `custom` do, given the event. -/
abbrev Behaviour (σ : Type) := ListenerId → EventRef → Program σ Bool

namespace World

variable {σ : Type}

/-- A quit event stops the engine of its listener and is consumed. -/
def receiveQuit (l : ListenerId) (e : EventRef) (w : World σ) : Bool × World σ :=
  match e.event with
  | .engine { payload := .quit exitCode, .. } =>
    (true, (w.note (.quitReceived l exitCode)).modifyListener l
      fun listener => { listener with role := .quit false exitCode })
  | _ => (false, w)

/-- Updates and renders are counted and left to others. -/
def countFrame (l : ListenerId) (updates renders : Nat) (e : EventRef) (w : World σ) : World σ :=
  match e.event.kind? with
  | some .update =>
    w.modifyListener l fun listener => { listener with role := .frames (updates + 1) renders }
  | some .render =>
    w.modifyListener l fun listener => { listener with role := .frames updates (renders + 1) }
  | _ => w

def handle (behaviour : Behaviour σ) (perform : (op : Op) → Action σ op.Reply) : Calls σ :=
  fun l e w =>
    match (w.listener l).role with
    | .custom => (behaviour l e).runWith perform w
    | .quit .. => let (consumed, w) := w.receiveQuit l e; some (.returned consumed, w)
    | .frames updates renders => some (.returned false, w.countFrame l updates renders e)

/-- A direct call, without a manager. -/
def callListener (call : Calls σ) (l : ListenerId) (e : EventRef) : Action σ (Option Bool) :=
  fun w =>
    if w.isAlive l then
      match call l e (w.enter l) with
      | none => none
      | some (.returned consumed, w) => some (.returned (some consumed), w.leave l)
      | some (.panicked message, w) => some (.panicked message, w.leave l)
    else some (.returned none, w)

/-- Carries out an operation that calls no listener; the others give `none`. -/
def carryOut : (op : Op) → World σ → Option (op.Reply × World σ)
  | .newManager clock, w => some (w.newManager clock)
  | .holdManager m, w => some ((), w.holdManager m)
  | .releaseManager m, w => some ((), w.releaseManager m)
  | .acquireCurrent, w => some w.acquireCurrent
  | .isCurrent m, w => some (w.current == some m, w)
  | .newListener name role, w => some (w.newListener name role)
  | .dropListener l, w => some (w.dropListener l)
  | .nameOf l, w => some (w.roll l, w)
  | .roleOf l, w => some ((w.listener l).role, w)
  | .newEvent e, w => some (w.newEvent e)
  | .tryConnect m l t, w => some (w.tryConnect m l t)
  | .tryDisconnect m l t, w => some (w.tryDisconnect m l t)
  | .clearListeners m, w => some ((), w.clearListeners m)
  | .pruneStale m, w => some (w.pruneStale m)
  | .enqueue m e, w => some ((), w.enqueue m e)
  | .dequeue m e all, w => some ((), w.dequeue m e all)
  | .clearQueue m, w => some (w.clearQueue m)
  | .now m, w => some (w.readClock m)
  | .advance m d, w => some ((), w.modifyClock m (·.advance d))
  | .setClock m target, w => some ((), w.modifyClock m (·.set target))
  | .inspect m, w => some (w.manager m, w)
  | .validate m, w => some ((w.manager m).validate w.roll, w)
  | .note notice, w => some ((), w.note (.told notice))
  | .callListener .., _ | .dispatch .., _ | .execute .., _ => none

/-- Carries out an operation. Calls of listeners nest at most `depth` deep; `none` tells
that this was not enough. -/
def perform (behaviour : Behaviour σ) : Nat → (op : Op) → Action σ op.Reply
  | 0, _, _ => none
  | depth + 1, op, w =>
    let call := handle behaviour (perform behaviour depth)
    match op with
    | .callListener l e => callListener call l e w
    | .dispatch m e => dispatch call m e w
    | .execute m budget => execute call m budget w
    | op => (w.carryOut op).map fun result => (.returned result.1, result.2)

end World

/-- Runs a program of the host; listeners nest at most `depth` deep. -/
def Program.run {σ α : Type} (behaviour : Behaviour σ) (depth : Nat) (p : Program σ α) :
    Action σ α :=
  p.runWith (World.perform behaviour depth)

/-! ### Operations made of others -/

namespace Program

variable {σ : Type}

/-- Registers a listener; a refusal is logged. -/
def connect (m : ManagerId) (l : ListenerId) (t : TypeId) : Program σ Bool := do
  match ← ask (.tryConnect m l t) with
  | .ok _ => pure true
  | .error e => ask (.note (.connectRefused m e)); pure false

/-- Removes a listener; a refusal is logged. -/
def disconnect (m : ManagerId) (l : ListenerId) (t : TypeId) : Program σ Bool := do
  match ← ask (.tryDisconnect m l t) with
  | .ok _ => pure true
  | .error e => ask (.note (.disconnectRefused m e)); pure false

def enqueueNew (m : ManagerId) (e : Event) : Program σ Unit := do
  let e ← ask (.newEvent e)
  ask (.enqueue m e)

def dispatchNew (m : ManagerId) (e : Event) : Program σ Bool := do
  let e ← ask (.newEvent e)
  ask (.dispatch m e)

/-- The point a while from now, for what is to be due then. -/
def after (m : ManagerId) (delay : Duration) : Program σ Timestamp := do
  let reading ← ask (.now m)
  pure (reading.after delay)

end Program
end EventEngine
