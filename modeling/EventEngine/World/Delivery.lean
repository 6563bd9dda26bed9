import EventEngine.World.Basic

/-! Delivery of events. A dispatch walks a copy of the list that its category had when
it began: a listener that is gone is taken off the list, one that left the list
meanwhile is skipped, and the first one to consume the event ends the walk. A drain
dispatches queued events from the front while they are due and time is left. A panic
of a listener passes through both; the frame is closed and the drain is ended on its
way. What happens between two calls of listeners is a step of its own. -/
namespace EventEngine

inductive Outcome (α : Type)
  | returned (value : α)
  | panicked (message : String)
  deriving DecidableEq, Repr, Inhabited

/-- A computation on the world; `none` if calls are nested too deeply to be followed. -/
abbrev Action (σ α : Type) := World σ → Option (Outcome α × World σ)

abbrev Calls (σ : Type) := ListenerId → EventRef → Action σ Bool

namespace World

variable {σ : Type}

/-! ### Steps of a dispatch -/

def openFrame (m : ManagerId) (t : TypeId) (w : World σ) : UInt64 × World σ :=
  let (frame, registry) := (w.manager m).registry.beginDispatch t
  (frame, (w.modifyManager m ({ · with registry })).note
    (.opened m frame t registry.depth))

/-- Closes the frame of a dispatch; tells whether its list changed. -/
def closeFrame (m : ManagerId) (frame : UInt64) (w : World σ) : Bool × World σ :=
  let (mutated, registry) := (w.manager m).registry.endDispatch frame
  (mutated, w.modifyManager m ({ · with registry }))

/-- A dispatch begins: with a frame and a copy of the list of its category, or without
anything left to do if there is no list. -/
def beginDispatch (m : ManagerId) (e : EventRef) (w : World σ) :
    Option (UInt64 × List ListenerId) × World σ :=
  let w := w.note (.dispatched m e)
  match (w.manager m).registry.table.list? e.typeId with
  | none => (none, (w.modifyManager m Manager.countUnheard).note (.unheard m e))
  | some list =>
    let (frame, w) := w.openFrame m e.typeId
    (some (frame, list), w)

def pruneOne (m : ManagerId) (frame : UInt64) (t : TypeId) (l : ListenerId) (w : World σ) :
    Bool × World σ :=
  let (removed, registry) := (w.manager m).registry.prune w.roll t l
  let w := w.modifyManager m ({ · with registry })
  (removed, if removed then w.note (.pruned m frame l) else w)

def invoke (m : ManagerId) (frame : UInt64) (l : ListenerId) (e : EventRef) (w : World σ) :
    World σ :=
  (w.note (.invoked m frame l e)).enter l

def consume (m : ManagerId) (frame : UInt64) (l : ListenerId) (e : EventRef) (w : World σ) :
    World σ :=
  (w.note (.consumed m frame l e (w.roll.describe l))).leave l

open Manager (Tally)

/-- A walk has ended: its frame is closed, it is counted and reported. -/
def conclude (m : ManagerId) (frame : UInt64) (e : EventRef) (consumed : Bool) (tally : Tally)
    (w : World σ) : World σ :=
  let (mutated, w) := w.closeFrame m frame
  let w := (w.modifyManager m (·.countDispatch tally consumed mutated)).note
    (.closed m frame consumed mutated)
  let w := if mutated && !consumed then w.note (.anomaly m e) else w
  if tally.pruned = 0 then w else w.note (.prunedFrom m e.typeId tally.pruned)

def unwindDispatch (m : ManagerId) (frame : UInt64) (w : World σ) : World σ :=
  (w.closeFrame m frame).2.note (.unwound m frame)

/-! ### Steps of a drain -/

/-- Whether more time has passed than a drain may take. -/
def overBudget (budget : Option Duration) (started reading : Timestamp) : Bool :=
  match budget with
  | some budget => budget < reading.since started
  | none => false

/-- A drain begins, with its first reading of the clock and a bound on its turns: each
turn takes an event, so one turn more than there are active events is enough. Refused
while a drain of the same manager is running. -/
def beginDrain (m : ManagerId) (w : World σ) : Option (Timestamp × Nat) × World σ :=
  let before := (w.manager m).queue
  match before.beginDrain with
  | none => (none, w.note (.drainRefused m))
  | some queue =>
    let w := w.modifyManager m ({ · with queue })
    let w := if before.active.isEmpty then w.note (.swapped m queue.active) else w
    let (started, w) := (w.note (.drainStarted m queue.active.length)).readClock m
    (some (started, queue.active.length + 1), w)

/-- The event that a turn of a drain takes, if time is left and one is due. -/
def takeDue (m : ManagerId) (budget : Option Duration) (started : Timestamp) (delivered : Nat)
    (w : World σ) : Option EventRef × World σ :=
  let (reading, w) := w.readClock m
  if overBudget budget started reading then
    (none, w.note (.budgetExhausted m (budget.getD .zero) delivered))
  else
    match (w.manager m).queue.popDue reading with
    | none => (none, w)
    | some (e, queue) => (some e, (w.modifyManager m ({ · with queue })).note (.handedOver m e))

/-- The queue of a manager stops draining; tells whether nothing active is left. -/
def endDrain (m : ManagerId) (w : World σ) : Bool × World σ :=
  let (drained, queue) := (w.manager m).queue.finishDrain
  (drained, w.modifyManager m ({ · with queue }))

def finishDrain (m : ManagerId) (delivered : Nat) (w : World σ) : Bool × World σ :=
  let (drained, w) := w.endDrain m
  (drained, (w.modifyManager m (·.countDrain drained)).note (.drainFinished m delivered drained))

def unwindDrain (m : ManagerId) (w : World σ) : World σ :=
  (w.endDrain m).2.note (.drainUnwound m)

/-! ### Dispatches and drains -/

/-- Calls the listeners of a copied list in order, until one consumes the event. -/
def walk (call : Calls σ) (m : ManagerId) (frame : UInt64) (e : EventRef) :
    List ListenerId → Tally → Action σ Bool
  | [], tally, w => some (.returned false, w.conclude m frame e false tally)
  | l :: rest, tally, w =>
    if w.isAlive l = false then
      let (removed, w) := w.pruneOne m frame e.typeId l
      walk call m frame e rest { tally with pruned := tally.pruned + removed.toNat } w
    else if (w.manager m).registry.removedDuring frame l then
      walk call m frame e rest tally w
    else
      let tally := { tally with invoked := tally.invoked + 1 }
      match call l e (w.invoke m frame l e) with
      | none => none
      | some (.panicked message, w) =>
        some (.panicked message, (w.leave l).unwindDispatch m frame)
      | some (.returned true, w) =>
        some (.returned true, (w.consume m frame l e).conclude m frame e true tally)
      | some (.returned false, w) => walk call m frame e rest tally (w.leave l)

def dispatch (call : Calls σ) (m : ManagerId) (e : EventRef) : Action σ Bool := fun w =>
  match w.beginDispatch m e with
  | (none, w) => some (.returned false, w)
  | (some (frame, list), w) => walk call m frame e list {} w

/-- The turns of a drain; tells whether all active events were delivered. -/
def drain (deliver : EventRef → Action σ Bool) (m : ManagerId) (budget : Option Duration)
    (started : Timestamp) : Nat → Nat → Action σ Bool
  | 0, delivered, w =>
    let (drained, w) := w.finishDrain m delivered
    some (.returned drained, w)
  | turns + 1, delivered, w =>
    match w.takeDue m budget started delivered with
    | (none, w) =>
      let (drained, w) := w.finishDrain m delivered
      some (.returned drained, w)
    | (some e, w) =>
      match deliver e w with
      | none => none
      | some (.panicked message, w) => some (.panicked message, w.unwindDrain m)
      | some (.returned _, w) => drain deliver m budget started turns (delivered + 1) w

/-- Delivers queued events that are due; tells whether all active ones were delivered. -/
def execute (call : Calls σ) (m : ManagerId) (budget : Option Duration) : Action σ Bool :=
  fun w =>
  match w.beginDrain m with
  | (none, w) => some (.returned false, w)
  | (some (started, turns), w) => drain (dispatch call m) m budget started turns 0 w

end World
end EventEngine
