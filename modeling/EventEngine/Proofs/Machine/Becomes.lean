import EventEngine.Proofs.Machine.Step

/-! What the acts of a run do to the manager they are about. Each of them makes something of this
manager alone and leaves everything else in the world as it is, the calls of listeners included;
so two runs are compared act by act through what they make of single managers. -/
namespace EventEngine

namespace Happening

/-- A dispatch of a manager calls a listener with an event. -/
def invocation : Happening → List (ManagerId × ListenerId × EventRef)
  | .invoked m _ l e => [(m, l, e)]
  | _ => []

end Happening

namespace Manager

/-! ### Acts on one manager -/

/-- What a program can ask of a manager that calls no listener and gives up no hold on it. -/
inductive Request
  | hold
  | connect (l : ListenerId) (t : TypeId)
  | disconnect (l : ListenerId) (t : TypeId)
  | clearListeners
  | pruneStale
  | enqueue (e : EventRef)
  | dequeue (e : EventRef) (all : Bool)
  | clearQueue
  | readClock
  | advance (step : Duration)
  | setClock (target : Timestamp)
  deriving DecidableEq

def Request.serve (roll : Roll) : Request → Manager → Manager
  | hold, x => { x with holders := x.holders + 1 }
  | connect l t, x => (x.connect roll l t).2
  | disconnect l t, x => (x.disconnect l t).2
  | clearListeners, x => x.clearListeners.2
  | pruneStale, x => (x.pruneStale roll).2
  | enqueue e, x => x.enqueue e
  | dequeue e all, x => (x.dequeue e all).2
  | clearQueue, x => x.clearQueue.2
  | readClock, x => x.readClock.2
  | advance step, x => { x with clock := x.clock.advance step }
  | setClock target, x => { x with clock := x.clock.set target }

def release (x : Manager) : Manager := { x with holders := x.holders - 1 }

/-- A dispatch of a category that has a list begins. -/
def openFrame (t : TypeId) (x : Manager) : Manager :=
  { x with registry := (x.registry.beginDispatch t).2 }

def pruneOne (roll : Roll) (t : TypeId) (l : ListenerId) (x : Manager) : Manager :=
  { x with registry := (x.registry.prune roll t l).2 }

def closeFrame (frame : UInt64) (x : Manager) : Manager :=
  { x with registry := (x.registry.endDispatch frame).2 }

/-- A walk has ended. -/
def conclude (frame : UInt64) (consumed : Bool) (tally : Tally) (x : Manager) : Manager :=
  (x.closeFrame frame).countDispatch tally consumed (x.registry.endDispatch frame).1

/-- A drain begins, with its first reading of the clock and a bound on its turns. -/
def beginDrain (x : Manager) : Option (Timestamp × Nat) × Manager :=
  match x.queue.beginDrain with
  | none => (none, x)
  | some queue =>
    let (started, x) := { x with queue }.readClock
    (some (started, queue.active.length + 1), x)

/-- A turn of a drain. -/
def takeDue (budget : Option Duration) (started : Timestamp) (x : Manager) :
    Option EventRef × Manager :=
  let (reading, x) := x.readClock
  if World.overBudget budget started reading then (none, x)
  else
    match x.queue.popDue reading with
    | none => (none, x)
    | some (e, queue) => (some e, { x with queue })

def endDrain (x : Manager) : Manager := { x with queue := x.queue.finishDrain.2 }

/-- A drain ends by itself. -/
def finishDrain (x : Manager) : Bool × Manager :=
  (x.queue.finishDrain.1, x.endDrain.countDrain x.queue.finishDrain.1)

variable {budget : Option Duration} {started : Timestamp} {x : Manager}

theorem takeDue_late (late : World.overBudget budget started x.readClock.1 = true) :
    x.takeDue budget started = (none, x.readClock.2) := by
  unfold takeDue
  exact if_pos late

theorem takeDue_blocked (early : World.overBudget budget started x.readClock.1 ≠ true)
    (blocked : x.readClock.2.queue.popDue x.readClock.1 = none) :
    x.takeDue budget started = (none, x.readClock.2) := by
  unfold takeDue
  dsimp only
  rw [if_neg early, blocked]

theorem takeDue_taken {e : EventRef} {queue : Queue}
    (early : World.overBudget budget started x.readClock.1 ≠ true)
    (taken : x.readClock.2.queue.popDue x.readClock.1 = some (e, queue)) :
    x.takeDue budget started = (some e, { x.readClock.2 with queue }) := by
  unfold takeDue
  dsimp only
  rw [if_neg early, taken]

end Manager

/-- The request to a manager that an operation is. -/
def Op.request? : Op → Option (ManagerId × Manager.Request)
  | .holdManager m => some (m, .hold)
  | .tryConnect m l t => some (m, .connect l t)
  | .tryDisconnect m l t => some (m, .disconnect l t)
  | .clearListeners m => some (m, .clearListeners)
  | .pruneStale m => some (m, .pruneStale)
  | .enqueue m e => some (m, .enqueue e)
  | .dequeue m e all => some (m, .dequeue e all)
  | .clearQueue m => some (m, .clearQueue)
  | .now m => some (m, .readClock)
  | .advance m step => some (m, .advance step)
  | .setClock m target => some (m, .setClock target)
  | _ => none

/-- The operation that a request to a manager is. -/
def Manager.Request.op (m : ManagerId) : Manager.Request → Op
  | hold => .holdManager m
  | connect l t => .tryConnect m l t
  | disconnect l t => .tryDisconnect m l t
  | clearListeners => .clearListeners m
  | pruneStale => .pruneStale m
  | enqueue e => .enqueue m e
  | dequeue e all => .dequeue m e all
  | clearQueue => .clearQueue m
  | readClock => .now m
  | advance step => .advance m step
  | setClock target => .setClock m target

theorem Op.request?_eq_some_iff {op : Op} {m : ManagerId} {r : Manager.Request} :
    op.request? = some (m, r) ↔ op = r.op m := by
  constructor
  · intro asks
    cases op <;> cases asks <;> rfl
  · rintro rfl
    cases r <;> rfl

/-- What a world holds besides its managers, and which listeners its dispatches have called. -/
structure Surroundings (σ : Type) where
  listeners : Store Listener
  running : List ListenerId
  current : Option ManagerId
  nextEvent : Nat
  memory : σ
  invocations : List (ManagerId × ListenerId × EventRef)

namespace World

open Manager (Tally)

variable {σ : Type} {w w' w'' : World σ} {n : ManagerId} {x y : Manager}

/-- The calls that the dispatches of managers have made so far. -/
def invocations (w : World σ) : List (ManagerId × ListenerId × EventRef) :=
  w.journal.toList.flatMap (·.invocation)

@[simp] theorem invocations_note (h : Happening) :
    (w.note h).invocations = w.invocations ++ h.invocation := by
  simp only [invocations, journal_note, Array.toList_push, List.flatMap_append,
    List.flatMap_singleton]

def surroundings (w : World σ) : Surroundings σ :=
  ⟨w.listeners, w.running, w.current, w.nextEvent, w.memory, w.invocations⟩

/-- Only calls of listeners change what surrounds the managers by being noted. -/
theorem surroundings_note {h : Happening} (silent : h.invocation = []) :
    (w.note h).surroundings = w.surroundings := by
  simp only [surroundings, invocations_note, silent, List.append_nil]
  rfl

/-- A manager becomes another one, and nothing else happens. -/
structure Becomes (n : ManagerId) (x : Manager) (w w' : World σ) : Prop where
  managers : ∀ k, w'.manager k = if n = k then x else w.manager k
  size : w'.managers.size = max w.managers.size (n + 1)
  surroundings : w'.surroundings = w.surroundings

namespace Becomes

theorem trans (first : Becomes n x w w') (second : Becomes n y w' w'') : Becomes n y w w'' where
  managers := fun k => by
    rw [second.managers, first.managers]
    split <;> rfl
  size := by
    rw [second.size, first.size]
    omega
  surroundings := second.surroundings.trans first.surroundings

theorem note {h : Happening} (before : Becomes n x w w') (silent : h.invocation = []) :
    Becomes n x w (w'.note h) where
  managers := before.managers
  size := before.size
  surroundings := (surroundings_note silent).trans before.surroundings

theorem noted {h : Happening} (after : Becomes n x (w.note h) w') (silent : h.invocation = []) :
    Becomes n x w w' where
  managers := after.managers
  size := after.size
  surroundings := after.surroundings.trans (surroundings_note silent)

theorem modify {f : Manager → Manager} (becomes : f (w.manager n) = x) :
    Becomes n x w (w.modifyManager n f) where
  managers := fun k => by
    rw [manager_modifyManager]
    split
    · rename_i same
      rw [← same, becomes]
    · rfl
  size := Store.size_modify ..
  surroundings := rfl

theorem readClock (before : Becomes n x w w') :
    ∃ w'', w'.readClock n = (x.readClock.1, w'') ∧ Becomes n x.readClock.2 w w'' := by
  have found : w'.manager n = x := by rw [before.managers, if_pos rfl]
  have read : Becomes n x.readClock.2 w' (w'.readClock n).2 := found ▸ .modify rfl
  refine ⟨_, Prod.ext ?_ rfl, before.trans read⟩
  simp only [World.readClock, found]

/-- A manager that was made stays as it is. -/
theorem still (made : n < w.managers.size) : Becomes n (w.manager n) w w where
  managers := fun k => by
    split
    · rename_i same
      rw [same]
    · rfl
  size := (Nat.max_eq_left made).symm
  surroundings := rfl

end Becomes

theorem tryConnect_becomes (n : ManagerId) (l : ListenerId) (t : TypeId) :
    Becomes n ((w.manager n).connect w.roll l t).2 w (w.tryConnect n l t).2 := by
  simp only [tryConnect]
  split
  · rename_i result
    rw [result]
    exact .note (.modify rfl) rfl
  · rename_i result
    rw [result]
    exact .modify rfl

theorem tryDisconnect_becomes (n : ManagerId) (l : ListenerId) (t : TypeId) :
    Becomes n ((w.manager n).disconnect l t).2 w (w.tryDisconnect n l t).2 := by
  simp only [tryDisconnect]
  split
  · rename_i result
    rw [result]
    dsimp only
    split
    · exact .modify rfl
    · exact .note (.modify rfl) rfl
  · rename_i result
    rw [result]
    exact .modify rfl

theorem tryConnect_reply (n : ManagerId) (l : ListenerId) (t : TypeId) :
    (w.tryConnect n l t).1 = ((w.manager n).registry.connect w.roll l t).map fun _ => () := by
  simp only [tryConnect, Manager.connect]
  cases (w.manager n).registry.connect w.roll l t <;> rfl

theorem tryDisconnect_reply (n : ManagerId) (l : ListenerId) (t : TypeId) :
    (w.tryDisconnect n l t).1 = ((w.manager n).registry.disconnect l t).map Prod.fst := by
  simp only [tryDisconnect, Manager.disconnect]
  cases (w.manager n).registry.disconnect l t <;> rfl

/-- An operation that is a request to a manager is just that. -/
theorem carryOut_becomes {op : Op} {result : op.Reply × World σ} {r : Manager.Request}
    (asks : op.request? = some (n, r)) (carried : w.carryOut op = some result) :
    Becomes n (r.serve w.roll (w.manager n)) w result.2 := by
  cases op with
  | tryConnect _ l t =>
    cases asks
    cases carried
    exact tryConnect_becomes n l t
  | tryDisconnect _ l t =>
    cases asks
    cases carried
    exact tryDisconnect_becomes n l t
  | clearListeners | pruneStale | enqueue | dequeue | clearQueue =>
    cases asks
    cases carried
    exact .note (.modify rfl) rfl
  | holdManager | now | advance | setClock =>
    cases asks
    cases carried
    exact .modify rfl
  | _ => cases asks

theorem beginDispatch_unheard {e : EventRef}
    (unheard : (w.manager n).registry.table.list? e.typeId = none) :
    ∃ w', w.beginDispatch n e = (none, w') ∧ Becomes n (w.manager n).countUnheard w w' := by
  have unheard' : ((w.note (.dispatched n e)).manager n).registry.table.list? e.typeId = none :=
    unheard
  simp only [beginDispatch, unheard']
  exact ⟨_, rfl, .noted (.note (.modify rfl) rfl) rfl⟩

theorem beginDispatch_heard {e : EventRef} {list : List ListenerId}
    (heard : (w.manager n).registry.table.list? e.typeId = some list) :
    ∃ w', w.beginDispatch n e = (some ((w.manager n).registry.nextFrame, list), w') ∧
      Becomes n ((w.manager n).openFrame e.typeId) w w' := by
  have heard' : ((w.note (.dispatched n e)).manager n).registry.table.list? e.typeId = some list :=
    heard
  simp only [beginDispatch, heard']
  exact ⟨_, rfl, .noted (.note (.modify rfl) rfl) rfl⟩

theorem pruneOne_becomes (n : ManagerId) (frame : UInt64) (t : TypeId) (l : ListenerId) :
    Becomes n ((w.manager n).pruneOne w.roll t l) w (w.pruneOne n frame t l).2 := by
  simp only [pruneOne]
  split
  · exact .note (.modify rfl) rfl
  · exact .modify rfl

theorem closeFrame_becomes (n : ManagerId) (frame : UInt64) :
    Becomes n ((w.manager n).closeFrame frame) w (w.closeFrame n frame).2 :=
  .modify rfl

theorem conclude_becomes (n : ManagerId) (frame : UInt64) (e : EventRef) (consumed : Bool)
    (tally : Tally) :
    Becomes n ((w.manager n).conclude frame consumed tally) w
      (w.conclude n frame e consumed tally) := by
  have closed := closeFrame_becomes (w := w) n frame
  have counted := closed.trans ((Becomes.modify
    (f := (·.countDispatch tally consumed (w.closeFrame n frame).1)) rfl))
  rw [closed.managers n, if_pos rfl] at counted
  simp only [conclude]
  split <;> split
  · exact (counted.note rfl).note rfl
  · exact counted.note rfl
  · exact ((counted.note rfl).note rfl).note rfl
  · exact (counted.note rfl).note rfl

/-- A manager whose queue is drained was made. -/
theorem made_of_draining (draining : (w.manager n).queue.draining = true) :
    n < w.managers.size := by
  rcases Nat.lt_or_ge n w.managers.size with made | unmade
  · exact made
  · rw [manager, Store.get_of_size_le _ unmade] at draining
    cases draining

theorem beginDrain_becomes (n : ManagerId) :
    ∃ w', w.beginDrain n = ((w.manager n).beginDrain.1, w') ∧
      Becomes n (w.manager n).beginDrain.2 w w' := by
  cases begun : (w.manager n).queue.beginDrain with
  | none =>
    have draining : (w.manager n).queue.draining = true := by
      unfold Queue.beginDrain at begun
      split at begun
      · assumption
      · split at begun <;> cases begun
    simp only [beginDrain, Manager.beginDrain, begun]
    exact ⟨_, rfl, (Becomes.still (made_of_draining draining)).note rfl⟩
  | some queue =>
    have marked : Becomes n { w.manager n with queue } w
        (if (w.manager n).queue.active.isEmpty then
          (w.modifyManager n ({ · with queue })).note (.swapped n queue.active)
        else w.modifyManager n ({ · with queue })) := by
      split
      · exact .note (.modify rfl) rfl
      · exact .modify rfl
    obtain ⟨w', read, becomes⟩ :=
      (marked.note (h := .drainStarted n queue.active.length) rfl).readClock
    simp only [beginDrain, Manager.beginDrain, begun, read]
    exact ⟨w', rfl, becomes⟩

theorem takeDue_becomes (n : ManagerId) (budget : Option Duration) (started : Timestamp)
    (delivered : Nat) :
    ∃ w', w.takeDue n budget started delivered = (((w.manager n).takeDue budget started).1, w') ∧
      Becomes n ((w.manager n).takeDue budget started).2 w w' := by
  obtain ⟨w', read, becomes⟩ :
      ∃ w', w.readClock n = ((w.manager n).readClock.1, w') ∧
        Becomes n (w.manager n).readClock.2 w w' := ⟨_, rfl, .modify rfl⟩
  have found : w'.manager n = (w.manager n).readClock.2 := by rw [becomes.managers, if_pos rfl]
  simp only [takeDue, Manager.takeDue, read, found]
  split
  · exact ⟨_, rfl, becomes.note rfl⟩
  · cases popped : (w.manager n).readClock.2.queue.popDue (w.manager n).readClock.1 with
    | none => exact ⟨_, rfl, becomes⟩
    | some taken =>
      refine ⟨_, rfl, .note (becomes.trans (.modify ?_)) rfl⟩
      rw [found]

theorem endDrain_becomes (n : ManagerId) :
    Becomes n (w.manager n).endDrain w (w.endDrain n).2 :=
  .modify rfl

theorem finishDrain_becomes (n : ManagerId) (delivered : Nat) :
    ∃ w', w.finishDrain n delivered = ((w.manager n).finishDrain.1, w') ∧
      Becomes n (w.manager n).finishDrain.2 w w' := by
  have ended := endDrain_becomes (w := w) n
  have counted := ended.trans (Becomes.modify (f := (·.countDrain (w.endDrain n).1)) rfl)
  rw [ended.managers n, if_pos rfl] at counted
  exact ⟨_, rfl, counted.note rfl⟩

end World
end EventEngine
