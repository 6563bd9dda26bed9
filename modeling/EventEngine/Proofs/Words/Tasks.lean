import EventEngine.Proofs.Machine.Tasks
import EventEngine.Proofs.Words.Checked

/-! What is done with a manager, computed with words. A task has no fault where the counts of the
manager are words before it and after it, and then makes of the manager what it makes of it with
numbers without bound. No task lets a counter go down, so counters that are words were words all
along. -/
namespace EventEngine

/-! ### Counters -/

namespace Counters

/-- The counters of a manager, and the number of its drains, are words. -/
structure InWords (c : Counters) : Prop where
  connects : c.connects < UInt64.size
  disconnects : c.disconnects < UInt64.size
  conflicts : c.conflicts < UInt64.size
  queued : c.queued < UInt64.size
  dequeued : c.dequeued < UInt64.size
  dispatched : c.dispatched < UInt64.size
  consumed : c.consumed < UInt64.size
  invocations : c.invocations < UInt64.size
  pruned : c.pruned < UInt64.size
  anomalies : c.anomalies < UInt64.size
  drainsCompleted : c.drainsCompleted < UInt64.size
  drainsPartial : c.drainsPartial < UInt64.size
  drains : c.drains < UInt64.size

theorem inWords_iff {c : Counters} :
    c.InWords ↔ ∀ n ∈ c.drains :: c.toList, n < UInt64.size := by
  simp only [toList, List.forall_mem_cons]
  constructor
  · rintro ⟨connects, disconnects, conflicts, queued, dequeued, dispatched, consumed, invocations,
      pruned, anomalies, completed, stopped, drains⟩
    exact ⟨drains, connects, disconnects, conflicts, queued, dequeued, dispatched, consumed,
      invocations, pruned, anomalies, completed, stopped, nofun⟩
  · rintro ⟨drains, connects, disconnects, conflicts, queued, dequeued, dispatched, consumed,
      invocations, pruned, anomalies, completed, stopped, -⟩
    exact ⟨connects, disconnects, conflicts, queued, dequeued, dispatched, consumed, invocations,
      pruned, anomalies, completed, stopped, drains⟩

instance (c : Counters) : Decidable c.InWords := decidable_of_iff' _ inWords_iff

/-- No counter is greater than in others. -/
structure AtMost (c d : Counters) : Prop where
  connects : c.connects ≤ d.connects
  disconnects : c.disconnects ≤ d.disconnects
  conflicts : c.conflicts ≤ d.conflicts
  queued : c.queued ≤ d.queued
  dequeued : c.dequeued ≤ d.dequeued
  dispatched : c.dispatched ≤ d.dispatched
  consumed : c.consumed ≤ d.consumed
  invocations : c.invocations ≤ d.invocations
  pruned : c.pruned ≤ d.pruned
  anomalies : c.anomalies ≤ d.anomalies
  drainsCompleted : c.drainsCompleted ≤ d.drainsCompleted
  drainsPartial : c.drainsPartial ≤ d.drainsPartial

variable {c d e : Counters}

theorem AtMost.refl (c : Counters) : c.AtMost c := by
  constructor <;> exact Nat.le_refl _

theorem AtMost.trans (first : c.AtMost d) (second : d.AtMost e) : c.AtMost e := by
  cases first
  cases second
  constructor <;> omega

theorem InWords.mono (words : d.InWords) (atMost : c.AtMost d) : c.InWords := by
  have drains : c.drains ≤ d.drains := Nat.add_le_add atMost.drainsCompleted atMost.drainsPartial
  cases words
  cases atMost
  constructor <;> omega

end Counters

namespace Manager

/-- What a manager counts and holds is counted by words. -/
structure InWords (x : Manager) : Prop where
  counters : x.counters.InWords
  queued : x.queue.length < UInt64.size
  registered : x.registry.table.total < UInt64.size

variable {roll : Roll} {x : Manager}

/-! ### Requests -/

def Request.checked (roll : Roll) : Request → Manager → Checked Manager
  | connect l t, x =>
    match x.registry.connect roll l t with
    | .ok registry => do
      let connects ← Checked.add x.counters.connects 1
      pure { x with registry, counters.connects := connects }
    | .error _ => do
      let conflicts ← Checked.add x.counters.conflicts 1
      pure { x with counters.conflicts := conflicts }
  | disconnect l t, x => do
    match ← x.registry.checkedDisconnect l t with
    | .ok (removed, registry) =>
      let disconnects ← Checked.add x.counters.disconnects removed
      pure { x with registry, counters.disconnects := disconnects }
    | .error _ =>
      let conflicts ← Checked.add x.counters.conflicts 1
      pure { x with counters.conflicts := conflicts }
  | clearListeners, x => do
    let _ ← x.registry.checkedTotal
    pure { x with registry := x.registry.clear }
  | pruneStale, x => do
    let (removed, registry) ← x.registry.checkedPruneAll roll
    let pruned ← Checked.addAny x.counters.pruned removed
    pure { x with registry, counters.pruned := pruned }
  | enqueue e, x => do
    let queued ← Checked.add x.counters.queued 1
    pure { x with queue := x.queue.push e, counters.queued := queued }
  | dequeue e all, x => do
    let (removed, queue) ← x.queue.checkedDequeue e all
    let dequeued ← Checked.addAny x.counters.dequeued removed
    pure { x with queue, counters.dequeued := dequeued }
  | clearQueue, x => do
    let (_, queue) ← x.queue.checkedClear
    pure { x with queue }
  | r, x => pure (r.serve roll x)

/-! ### Tasks -/

def checkedCountUnheard (x : Manager) : Checked Manager := do
  let dispatched ← Checked.add x.counters.dispatched 1
  pure { x with counters.dispatched := dispatched }

def checkedCountDispatch (tally : Tally) (consumed mutated : Bool) (x : Manager) :
    Checked Manager := do
  let c := x.counters
  let dispatched ← Checked.add c.dispatched 1
  let invocations ← Checked.add c.invocations tally.invoked
  let pruned ← Checked.add c.pruned tally.pruned
  let taken ← Checked.addOneIf consumed c.consumed
  let anomalies ← Checked.addOneIf (mutated && !consumed) c.anomalies
  pure { x with counters :=
    { c with dispatched, invocations, pruned, consumed := taken, anomalies } }

def checkedCountDrain (drained : Bool) (x : Manager) : Checked Manager :=
  if drained then do
    let drainsCompleted ← Checked.add x.counters.drainsCompleted 1
    pure { x with counters.drainsCompleted := drainsCompleted }
  else do
    let drainsPartial ← Checked.add x.counters.drainsPartial 1
    pure { x with counters.drainsPartial := drainsPartial }

def checkedCloseFrame (frame : UInt64) (x : Manager) : Checked (Bool × Manager) := do
  let (mutated, registry) ← x.registry.checkedEndDispatch frame
  pure (mutated, { x with registry })

/-- Everything that is summed up when somebody looks at a manager. -/
def checkedLook (x : Manager) : Checked Manager := do
  let _ ← Checked.add x.counters.drainsCompleted x.counters.drainsPartial
  let _ ← x.queue.checkedLength
  let _ ← x.registry.checkedTotal
  pure x

def checkedFinishDrain (x : Manager) : Checked Manager :=
  x.endDrain.checkedCountDrain x.queue.finishDrain.1

def Task.checked (roll : Roll) : Task → Manager → Checked Manager
  | serve r, x => r.checked roll x
  | look, x => x.checkedLook
  | beginDispatch t, x =>
    match x.registry.table.list? t with
    | none => x.checkedCountUnheard
    | some _ => pure (x.openFrame t)
  | conclude frame consumed tally, x => do
    let (mutated, x) ← x.checkedCloseFrame frame
    x.checkedCountDispatch tally consumed mutated
  | closeFrame frame, x => do
    let (_, x) ← x.checkedCloseFrame frame
    pure x
  | turn budget started, x =>
    match x.takeDue budget started with
    | (some _, x) => pure x
    | (none, x) => x.checkedFinishDrain
  | finishDrain, x => x.checkedFinishDrain
  | task, x => pure (task.run roll x)

theorem Request.checked_eq {r : Request} (before : x.InWords)
    (after : (r.serve roll x).counters.InWords) : r.checked roll x = .ok (r.serve roll x) := by
  cases r with
  | connect l t =>
    simp only [serve, Manager.connect] at after
    simp only [checked, serve, Manager.connect]
    cases connected : x.registry.connect roll l t with
    | ok registry =>
      rw [connected] at after
      simp only [Checked.add_eq after.connects, Checked.ok_bind, Checked.pure_eq_ok]
    | error e =>
      rw [connected] at after
      simp only [Checked.add_eq after.conflicts, Checked.ok_bind, Checked.pure_eq_ok]
  | disconnect l t =>
    simp only [serve, Manager.disconnect] at after
    simp only [checked, serve, Manager.disconnect, Registry.checkedDisconnect_eq, Checked.ok_bind]
    cases disconnected : x.registry.disconnect l t with
    | ok result =>
      rw [disconnected] at after
      simp only [Checked.add_eq after.disconnects, Checked.ok_bind, Checked.pure_eq_ok]
    | error e =>
      rw [disconnected] at after
      simp only [Checked.add_eq after.conflicts, Checked.ok_bind, Checked.pure_eq_ok]
  | clearListeners =>
    simp only [checked, serve, Registry.checkedTotal_eq before.registered, Checked.ok_bind]
    rfl
  | pruneStale =>
    have fits : x.counters.pruned + (x.registry.pruneAll roll).1 < UInt64.size := after.pruned
    simp only [checked, Registry.checkedPruneAll_eq before.registered, Checked.addAny_eq fits,
      Checked.ok_bind]
    rfl
  | enqueue e =>
    simp only [checked, Checked.add_eq after.queued, Checked.ok_bind]
    rfl
  | dequeue e all =>
    have fits : x.counters.dequeued + (x.queue.dequeue e all).1 < UInt64.size := after.dequeued
    simp only [checked, Queue.checkedDequeue_eq, Checked.addAny_eq fits, Checked.ok_bind]
    rfl
  | clearQueue =>
    simp only [checked, Queue.checkedClear_eq before.queued, Checked.ok_bind]
    rfl
  | hold | readClock | advance | setClock => rfl

theorem checkedCountDispatch_eq {tally : Tally} {consumed mutated : Bool}
    (after : (x.countDispatch tally consumed mutated).counters.InWords) :
    x.checkedCountDispatch tally consumed mutated = .ok (x.countDispatch tally consumed mutated) := by
  simp only [checkedCountDispatch, Checked.add_eq after.dispatched, Checked.add_eq after.invocations,
    Checked.add_eq after.pruned, Checked.addOneIf_eq after.consumed,
    Checked.addOneIf_eq after.anomalies, Checked.ok_bind]
  rfl

theorem checkedFinishDrain_eq (after : x.finishDrain.2.counters.InWords) :
    x.checkedFinishDrain = .ok x.finishDrain.2 := by
  simp only [finishDrain, checkedFinishDrain] at after ⊢
  cases drained : x.queue.finishDrain.1 with
  | true =>
    have fits : x.endDrain.counters.drainsCompleted + 1 < UInt64.size := by
      rw [drained] at after
      exact after.drainsCompleted
    simp only [checkedCountDrain, if_true, Checked.add_eq fits, Checked.ok_bind]
    rfl
  | false =>
    have fits : x.endDrain.counters.drainsPartial + 1 < UInt64.size := by
      rw [drained] at after
      exact after.drainsPartial
    simp only [checkedCountDrain, Bool.false_eq_true, if_false, Checked.add_eq fits, Checked.ok_bind]
    rfl

theorem checkedLook_eq (before : x.InWords) : x.checkedLook = .ok x := by
  simp only [checkedLook, Checked.add_eq before.counters.drains, Queue.checkedLength_eq before.queued,
    Registry.checkedTotal_eq before.registered, Checked.ok_bind, Checked.pure_eq_ok]

theorem checkedCloseFrame_eq (frame : UInt64) (x : Manager) :
    x.checkedCloseFrame frame = .ok ((x.registry.endDispatch frame).1, x.closeFrame frame) := by
  simp only [checkedCloseFrame, Registry.checkedEndDispatch_eq, Checked.ok_bind]
  rfl

/-- Where counts are words, a task does with words what it does with numbers without bound. -/
theorem Task.checked_eq {task : Task} (before : x.InWords)
    (after : (task.run roll x).counters.InWords) : task.checked roll x = .ok (task.run roll x) := by
  cases task with
  | serve r => exact Request.checked_eq before after
  | look => exact checkedLook_eq before
  | beginDispatch t =>
    simp only [run, Manager.beginDispatch] at after
    simp only [checked, run, Manager.beginDispatch]
    cases listed : x.registry.table.list? t with
    | some list => rfl
    | none =>
      rw [listed] at after
      simp only [checkedCountUnheard, Checked.add_eq after.dispatched, Checked.ok_bind]
      rfl
  | conclude frame consumed tally =>
    simp only [checked, checkedCloseFrame_eq, Checked.ok_bind]
    exact checkedCountDispatch_eq after
  | closeFrame frame =>
    simp only [checked, checkedCloseFrame_eq, Checked.ok_bind]
    rfl
  | turn budget started =>
    simp only [run, Manager.turn] at after
    simp only [checked, run, Manager.turn]
    generalize x.takeDue budget started = taken at after ⊢
    obtain ⟨front, y⟩ := taken
    cases front with
    | some e => rfl
    | none => exact checkedFinishDrain_eq after
  | finishDrain => exact checkedFinishDrain_eq after
  | make | release | pruneOne | beginDrain | endDrain => rfl

/-! ### What grows and what does not -/

theorem Request.serve_atMost (r : Request) : x.counters.AtMost (r.serve roll x).counters := by
  cases r with
  | connect l t =>
    simp only [serve, Manager.connect]
    split <;> constructor <;> simp
  | disconnect l t =>
    simp only [serve, Manager.disconnect]
    split <;> constructor <;> simp
  | pruneStale | enqueue | dequeue =>
    constructor <;> simp [serve, Manager.pruneStale, Manager.enqueue, Manager.dequeue]
  | hold | clearListeners | clearQueue | readClock | advance | setClock => exact .refl _

theorem takeDue_counters (budget : Option Duration) (started : Timestamp) :
    (x.takeDue budget started).2.counters = x.counters := by
  simp only [takeDue]
  split
  · rfl
  · split <;> rfl

theorem finishDrain_atMost : x.counters.AtMost x.finishDrain.2.counters := by
  constructor <;> simp [finishDrain, endDrain, countDrain]

/-- No task lets a counter go down, but that a manager that is made has counted nothing. -/
theorem Task.run_atMost {task : Task} (kept : ∀ clock, task ≠ .make clock) :
    x.counters.AtMost (task.run roll x).counters := by
  cases task with
  | make clock => exact absurd rfl (kept clock)
  | serve r => exact r.serve_atMost
  | beginDispatch t =>
    simp only [run, Manager.beginDispatch]
    split
    · constructor <;> simp [countUnheard]
    · exact .refl _
  | conclude => constructor <;> simp [run, Manager.conclude, Manager.closeFrame, countDispatch]
  | turn budget started =>
    have same := takeDue_counters (x := x) budget started
    simp only [run, Manager.turn]
    split
    case h_1 taken =>
      rw [taken] at same
      exact same ▸ .refl _
    case h_2 taken =>
      rw [taken] at same
      exact same ▸ finishDrain_atMost
  | finishDrain => exact finishDrain_atMost
  | beginDrain =>
    simp only [run, Manager.beginDrain]
    split <;> exact .refl _
  | release | look | pruneOne | closeFrame | endDrain => exact .refl _

end Manager
end EventEngine
