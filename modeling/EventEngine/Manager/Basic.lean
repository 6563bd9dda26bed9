import EventEngine.Listener.Registry
import EventEngine.Event.Queue
import EventEngine.Manager.Counters
import EventEngine.Time.Clock

/-! An event manager: a registry, a queue, a clock and counters. It lives while someone
holds it. Each operation here is one step that no listener can interrupt; what calls
listeners is built from these steps. -/
namespace EventEngine

structure Manager where
  registry : Registry
  queue : Queue
  counters : Counters
  clock : Clock
  holders : Nat

namespace Manager

/-- A new manager in the hands of its maker. -/
def fresh (clock : Clock) : Manager := ⟨.empty, .empty, {}, clock, 1⟩

instance : Inhabited Manager := ⟨fresh default⟩

def isAlive (m : Manager) : Bool := m.holders != 0

def connect (roll : Roll) (l : ListenerId) (t : TypeId) (m : Manager) :
    Except RegistrationError Unit × Manager :=
  match m.registry.connect roll l t with
  | .ok registry =>
    (.ok (), { m with registry, counters.connects := m.counters.connects + 1 })
  | .error e => (.error e, { m with counters.conflicts := m.counters.conflicts + 1 })

def disconnect (l : ListenerId) (t : TypeId) (m : Manager) :
    Except RegistrationError Nat × Manager :=
  match m.registry.disconnect l t with
  | .ok (removed, registry) =>
    (.ok removed, { m with registry, counters.disconnects := m.counters.disconnects + removed })
  | .error e => (.error e, { m with counters.conflicts := m.counters.conflicts + 1 })

def pruneStale (roll : Roll) (m : Manager) : Nat × Manager :=
  let (removed, registry) := m.registry.pruneAll roll
  (removed, { m with registry, counters.pruned := m.counters.pruned + removed })

/-- Forgets all registrations; gives how many there were. -/
def clearListeners (m : Manager) : Nat × Manager :=
  (m.registry.table.total, { m with registry := m.registry.clear })

def enqueue (e : EventRef) (m : Manager) : Manager :=
  { m with queue := m.queue.push e, counters.queued := m.counters.queued + 1 }

/-- Cancels one event, or all of its category; tells how many there were. -/
def dequeue (e : EventRef) (all : Bool) (m : Manager) : Nat × Manager :=
  let (removed, queue) := m.queue.dequeue e all
  (removed, { m with queue, counters.dequeued := m.counters.dequeued + removed })

/-- Drops all queued events; tells how many there were. -/
def clearQueue (m : Manager) : Nat × Manager :=
  (m.queue.length, { m with queue := m.queue.clear })

def readClock (m : Manager) : Timestamp × Manager :=
  let (reading, clock) := m.clock.read
  (reading, { m with clock })

structure Tally where
  invoked : Nat := 0
  pruned : Nat := 0
  deriving DecidableEq, Repr

def countUnheard (m : Manager) : Manager :=
  { m with counters.dispatched := m.counters.dispatched + 1 }

def countDispatch (tally : Tally) (consumed mutated : Bool) (m : Manager) : Manager :=
  let c := m.counters
  { m with counters := { c with
      dispatched := c.dispatched + 1
      invocations := c.invocations + tally.invoked
      pruned := c.pruned + tally.pruned
      consumed := c.consumed + consumed.toNat
      anomalies := c.anomalies + (mutated && !consumed).toNat } }

def countDrain (drained : Bool) (m : Manager) : Manager :=
  let c := m.counters
  { m with counters := { c with
      drainsCompleted := c.drainsCompleted + drained.toNat
      drainsPartial := c.drainsPartial + (!drained).toNat } }

/-- More listeners than this in one list are reported. -/
def excessiveListeners : Nat := 100

def queueBacklog : Nat := 10000

inductive Issue
  | noListeners (type : TypeId)
  | manyListeners (type : TypeId) (count : Nat)
  | droppedListeners (type : TypeId) (count : Nat)
  | backlog (count : Nat)
  deriving DecidableEq, Repr

def Issue.message : Issue → String
  | noListeners type => s!"Event type {type} has no listeners"
  | manyListeners type count => s!"Event type {type} has excessive listeners: {count}"
  | droppedListeners type count => s!"Event type {type} holds {count} dropped listener(s)"
  | backlog count => s!"Event queue backlog: {count} events"

def listIssues (roll : Roll) (type : TypeId) (list : List ListenerId) : List Issue :=
  let stale := list.countP (!roll.isAlive ·)
  (if list.isEmpty then [.noListeners type] else []) ++
    (if excessiveListeners < list.length then [.manyListeners type list.length] else []) ++
    (if 0 < stale then [.droppedListeners type stale] else [])

/-- Everything worth a look: the lists in order of their categories, then the queue. -/
def validate (roll : Roll) (m : Manager) : List Issue :=
  (m.registry.table.entries.flatMap fun entry => listIssues roll entry.1 entry.2) ++
    (if queueBacklog < m.queue.length then [.backlog m.queue.length] else [])

end Manager
end EventEngine
