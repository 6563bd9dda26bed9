import EventEngine.Scenario.Stage

/-! Scenarios about a queue alone or a registry alone, without a manager around them. -/
namespace EventEngine.Scenario

/-! ### A queue -/

inductive QueueStep
  | event (e : String) (spec : EventSpec)
  | push (e : String)
  | cancel (e : String)
  | cancelType (t : TypeId)
  | clear
  | peek

inductive QueueAnswer
  | null
  | bool (b : Bool)
  | count (n : Nat)
  | type (t : TypeId)
  | failure (failure : Failure)

structure QueueBench where
  queue : Queue := .empty
  events : List (String × EventRef) := []
  nextEvent : Nat := 0

namespace QueueBench

def withEvent (b : QueueBench) (e : String) (f : EventRef → QueueAnswer × QueueBench) :
    QueueAnswer × QueueBench :=
  match meaning? e b.events with
  | some e => f e
  | none => (.failure (.unknownName e), b)

def step (b : QueueBench) : QueueStep → QueueAnswer × QueueBench
  | .event e spec =>
    match spec.build with
    | .ok event =>
      (.null, { b with
        events := bindName e ⟨b.nextEvent, event⟩ b.events, nextEvent := b.nextEvent + 1 })
    | .error error => (.failure (.panicked error.message), b)
  | .push e => b.withEvent e fun e => (.bool true, { b with queue := b.queue.push e })
  | .cancel e => b.withEvent e fun e =>
    let (found, queue) := b.queue.cancel e
    (.bool found, { b with queue })
  | .cancelType t =>
    let (removed, queue) := b.queue.cancelType t
    (.count removed, { b with queue })
  | .clear => (.count b.queue.length, { b with queue := b.queue.clear })
  | .peek =>
    match b.queue.active.head? with
    | some e => (.type e.typeId, b)
    | none => (.null, b)

/-- Every answer with the queue after it. -/
def run (b : QueueBench) : List QueueStep → List (QueueAnswer × Queue)
  | [] => []
  | s :: rest =>
    let (answer, b) := b.step s
    (answer, b.queue) :: b.run rest

end QueueBench

/-! ### A registry -/

inductive RegistryStep
  | listener (l : String) (kind : ListenerKind) (name : Option String)
  | dropListener (l : String)
  | connect (l : String) (t : TypeId)
  | disconnect (l : String) (t : TypeId)
  | snapshot (t : TypeId)
  | contains (l : String) (t : TypeId)
  | prune (l : String) (t : TypeId)
  | isDispatching (t : TypeId)
  | pruneAll
  | listenerCount (t : TypeId)
  | depth
  | clear

inductive RegistryAnswer
  | null
  | ok
  | bool (b : Bool)
  | count (n : Nat)
  /-- For each listener its declared name, if it has one, and what it is called. -/
  | listeners (list : List (Option String × String))
  | failure (failure : Failure)

structure RegistryBench where
  registry : Registry := .empty
  listeners : List (String × ListenerId) := []
  cells : Store Listener := .empty

namespace RegistryBench

/-- Listeners live while they are held. -/
def roll (b : RegistryBench) : Roll := fun l =>
  if (b.cells.get l).held then some (b.cells.get l).name else none

def withListener (b : RegistryBench) (l : String) (f : ListenerId → RegistryAnswer × RegistryBench) :
    RegistryAnswer × RegistryBench :=
  match meaning? l b.listeners with
  | some l => f l
  | none => (.failure (.unknownName l), b)

/-- Gives a listener up. -/
def release (b : RegistryBench) (l : ListenerId) : RegistryBench :=
  { b with cells := b.cells.modify l fun cell => { cell with held := false } }

def step (b : RegistryBench) : RegistryStep → RegistryAnswer × RegistryBench
  | .listener l kind name =>
    let name := match kind with
      | .named => name.getD l
      | .unnamed => "listener"
      | .quit => "quit"
      | .frames => "frame_stats"
    let older := meaning? l b.listeners
    let id := b.cells.size
    let b := { b with
      cells := b.cells.push ⟨name, .custom, true⟩, listeners := bindName l id b.listeners }
    (.null, match older with
      | some older => b.release older
      | none => b)
  | .dropListener l => b.withListener l fun l => (.bool (b.cells.get l).held, b.release l)
  | .connect l t => b.withListener l fun l =>
    match b.registry.connect b.roll l t with
    | .ok registry => (.ok, { b with registry })
    | .error e => (.failure (.registration e), b)
  | .disconnect l t => b.withListener l fun l =>
    match b.registry.disconnect l t with
    | .ok (removed, registry) => (.count removed, { b with registry })
    | .error e => (.failure (.registration e), b)
  | .snapshot t =>
    match b.registry.table.list? t with
    | some list =>
      (.listeners (list.map fun l => (nameOf? (· == l) b.listeners, b.roll.describe l)), b)
    | none => (.null, b)
  | .contains l t => b.withListener l fun l => (.bool (b.registry.contains t l), b)
  | .prune l t => b.withListener l fun l =>
    let (removed, registry) := b.registry.prune b.roll t l
    (.bool removed, { b with registry })
  | .isDispatching t => (.bool (b.registry.isDispatching t), b)
  | .pruneAll =>
    let (removed, registry) := b.registry.pruneAll b.roll
    (.count removed, { b with registry })
  | .listenerCount t => (.count (b.registry.table.count t), b)
  | .depth => (.count b.registry.depth, b)
  | .clear => (.null, { b with registry := b.registry.clear })

/-- Every answer with the registry after it. -/
def run (b : RegistryBench) : List RegistryStep → List (RegistryAnswer × Registry)
  | [] => []
  | s :: rest =>
    let (answer, b) := b.step s
    (answer, b.registry) :: b.run rest

end RegistryBench
end EventEngine.Scenario
