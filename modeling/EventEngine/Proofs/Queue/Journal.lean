import EventEngine.Proofs.Machine.Acts
import EventEngine.Proofs.Queue.Stock

/-! The journal of every run is a run of the queue of each manager: it leaves out nothing
that moves an event, and tells each such happening as it was. -/
namespace EventEngine

namespace Queue

variable {q : Queue} {e : EventRef}

theorem cancelled_eq (all : Bool) :
    q.cancelled e all = Stock.cancelled e all q.pending.toList := by
  simp only [cancelled, Stock.cancelled, Array.toList_filter, Array.find?_toList]

theorem pending_dequeue (all : Bool) :
    (q.dequeue e all).2.pending.toList = Stock.kept e all q.pending.toList := by
  obtain ⟨active, ⟨pending⟩, draining⟩ := q
  cases all <;> simp [dequeue, cancel, cancelType, Stock.kept]

theorem active_dequeue (all : Bool) : (q.dequeue e all).2.active = q.active := by
  cases all <;> rfl

/-- The number that a cancellation gives is that of the occurrences it takes out. -/
theorem dequeue_count (all : Bool) : (q.dequeue e all).1 = (q.cancelled e all).length := by
  obtain ⟨active, ⟨pending⟩, draining⟩ := q
  cases all with
  | false =>
    have any : (pending.find? (·.same e)).isSome = pending.any (·.same e) := List.isSome_find?
    simp only [dequeue, cancel, cancelled, Bool.false_eq_true, if_false, List.any_toArray,
      List.find?_toArray, ← any]
    cases pending.find? (·.same e) <;> rfl
  | true =>
    have whole := List.length_eq_countP_add_countP (·.typeId == e.typeId) (l := pending)
    simp only [List.countP_eq_length_filter, decide_not, Bool.decide_eq_true] at whole
    simp only [dequeue, cancelType, cancelled, if_true, List.filter_toArray', List.size_toArray, bne]
    omega

end Queue

/-- The queue of a manager as the transition system sees it. -/
def Manager.stock (manager : Manager) : Stock :=
  ⟨manager.queue.active, manager.queue.pending.toList, manager.counters.queued,
    manager.counters.dequeued⟩

namespace World

open Manager (Tally)

variable {σ : Type} {w w' w'' : World σ} {m n : ManagerId}

def stock (m : ManagerId) (w : World σ) : Stock := (w.manager m).stock

@[simp] theorem stock_note (h : Happening) : (w.note h).stock m = w.stock m := rfl

@[simp] theorem stock_modifyListener (l : ListenerId) (f : Listener → Listener) :
    (w.modifyListener l f).stock m = w.stock m := rfl

theorem stock_modifyManager {f : Manager → Manager}
    (kept : (f (w.manager n)).stock = (w.manager n).stock) :
    (w.modifyManager n f).stock m = w.stock m := by
  simp only [stock, manager_modifyManager]
  split
  case isTrue same => rw [← same, kept]
  case isFalse => rfl

theorem stock_modifyManager_self (f : Manager → Manager) :
    (w.modifyManager m f).stock m = (f (w.manager m)).stock := by
  simp only [stock, manager_modifyManager, if_true]

theorem stock_modifyManager_ne {f : Manager → Manager} (other : n ≠ m) :
    (w.modifyManager n f).stock m = w.stock m := by
  simp only [stock, manager_modifyManager, if_neg other]

/-- The journal goes on by a run of the queue of a manager. -/
def Continues (m : ManagerId) (w w' : World σ) : Prop :=
  ∃ hs, w'.journal.toList = w.journal.toList ++ hs ∧ Stock.Run m (w.stock m) hs (w'.stock m)

namespace Continues

theorem still (journal : w'.journal = w.journal) (stock : w'.stock m = w.stock m) :
    Continues m w w' :=
  ⟨[], by rw [journal, List.append_nil], stock ▸ .nil⟩

theorem refl (w : World σ) : Continues m w w := still rfl rfl

theorem trans (first : Continues m w w') (second : Continues m w' w'') : Continues m w w'' := by
  obtain ⟨hs, journal, run⟩ := first
  obtain ⟨later, journal', run'⟩ := second
  exact ⟨hs ++ later, by rw [journal', journal, List.append_assoc], run.append run'⟩

/-- One happening is noted together with what it does. -/
theorem note {h : Happening} (journal : w'.journal = w.journal)
    (step : Stock.Step m (w.stock m) h (w'.stock m)) : Continues m w (w'.note h) :=
  ⟨[h], by rw [journal_note, Array.toList_push, journal], .cons step .nil⟩

/-- A happening that moves no event of the manager is noted. -/
theorem noteQuiet {h : Happening} (before : Continues m w w') (still : h.moves m = false) :
    Continues m w (w'.note h) :=
  before.trans (note rfl (.quiet still))

/-- A change of a manager that keeps its stock. -/
theorem modifyManager {f : Manager → Manager}
    (kept : (f (w.manager n)).stock = (w.manager n).stock) : Continues m w (w.modifyManager n f) :=
  still rfl (stock_modifyManager kept)

theorem modifyListener (l : ListenerId) (f : Listener → Listener) :
    Continues m w (w.modifyListener l f) :=
  still rfl rfl

theorem elsewhere {f : Manager → Manager} (other : n ≠ m) : Continues m w (w.modifyManager n f) :=
  still rfl (stock_modifyManager_ne other)

end Continues

open Continues

/-! ### Operations that move events -/

theorem enqueue_continues (n : ManagerId) (e : EventRef) : Continues m w (w.enqueue n e) := by
  by_cases same : n = m
  · subst same
    have filled : (w.modifyManager n (·.enqueue e)).stock n =
        { w.stock n with
          pending := (w.stock n).pending ++ [e], queued := (w.stock n).queued + 1 } := by
      rw [stock_modifyManager_self]
      simp only [Manager.enqueue, Manager.stock, Queue.push, Array.toList_push, stock]
    exact .note rfl (filled ▸ .queued)
  · exact (elsewhere same).noteQuiet (by simpa [Happening.moves] using same)

theorem dequeue_continues (n : ManagerId) (e : EventRef) (all : Bool) :
    Continues m w (w.dequeue n e all) := by
  by_cases same : n = m
  · subst same
    have taken := Queue.cancelled_eq (q := (w.manager n).queue) (e := e) all
    have changed : (w.setManager n ((w.manager n).dequeue e all).2).stock n =
        { w.stock n with
          pending := Stock.kept e all (w.stock n).pending
          dequeued := (w.stock n).dequeued + ((w.manager n).queue.cancelled e all).length } := by
      simp only [stock, manager_setManager, if_true, Manager.stock, Manager.dequeue,
        Queue.pending_dequeue, Queue.active_dequeue, Queue.dequeue_count]
    have count : ((w.manager n).dequeue e all).1 = ((w.manager n).queue.cancelled e all).length :=
      Queue.dequeue_count all
    change Continues n w ((w.setManager n ((w.manager n).dequeue e all).2).note
      (.dequeued n e all ((w.manager n).dequeue e all).1 ((w.manager n).queue.cancelled e all)))
    rw [count]
    exact .note rfl (changed ▸ .dequeued e all taken.symm)
  · exact (elsewhere same).noteQuiet (by simpa [Happening.moves] using same)

theorem clearQueue_continues (n : ManagerId) : Continues m w (w.clearQueue n).2 := by
  by_cases same : n = m
  · subst same
    have emptied : (w.setManager n (w.manager n).clearQueue.2).stock n =
        { w.stock n with active := [], pending := [] } := by
      simp only [stock, manager_setManager, if_true, Manager.stock, Manager.clearQueue, Queue.clear]
    have count : (w.manager n).clearQueue.1 =
        ((w.stock n).active ++ (w.stock n).pending).length := by
      simp only [Manager.clearQueue, Queue.length, stock, Manager.stock, List.length_append,
        Array.length_toList]
    change Continues n w ((w.setManager n (w.manager n).clearQueue.2).note
      (.dropped n (w.manager n).clearQueue.1 ((w.stock n).active ++ (w.stock n).pending)))
    rw [count]
    exact .note rfl (emptied ▸ .dropped)
  · exact (elsewhere same).noteQuiet (by simpa [Happening.moves] using same)

theorem readClock_continues (n : ManagerId) : Continues m w (w.readClock n).2 :=
  .modifyManager rfl

theorem beginDrain_refused (draining : (w.manager n).queue.draining = true) :
    w.beginDrain n = (none, w.note (.drainRefused n)) := by
  simp only [beginDrain, Queue.beginDrain, draining, if_true]

/-- The world in which a drain reads the clock for the first time, if nothing was left over. -/
def swapIn (n : ManagerId) (w : World σ) : World σ :=
  let batch := (w.manager n).queue.pending.toList.mergeSort deliversBefore
  ((w.modifyManager n fun manager => { manager with queue := ⟨batch, #[], true⟩ }).note
    (.swapped n batch)).note (.drainStarted n batch.length)

/-- The world in which a drain reads the clock for the first time, if events were left over. -/
def takeUp (n : ManagerId) (w : World σ) : World σ :=
  let queue := { (w.manager n).queue with draining := true }
  (w.modifyManager n fun manager => { manager with queue }).note
    (.drainStarted n queue.active.length)

theorem beginDrain_swapIn (idle : (w.manager n).queue.draining = false)
    (drained : (w.manager n).queue.active = []) :
    w.beginDrain n = (some (((w.swapIn n).readClock n).1,
      ((w.manager n).queue.pending.toList.mergeSort deliversBefore).length + 1),
      ((w.swapIn n).readClock n).2) := by
  simp only [beginDrain, Queue.beginDrain, idle, drained, Bool.false_eq_true, if_false,
    List.isEmpty_nil, if_true, swapIn]

theorem beginDrain_takeUp (idle : (w.manager n).queue.draining = false)
    (left : (w.manager n).queue.active ≠ []) :
    w.beginDrain n = (some (((w.takeUp n).readClock n).1, (w.manager n).queue.active.length + 1),
      ((w.takeUp n).readClock n).2) := by
  simp only [beginDrain, Queue.beginDrain, idle, Bool.false_eq_true, if_false,
    List.isEmpty_eq_false_iff.mpr left, takeUp]

theorem swapIn_continues (n : ManagerId) (drained : (w.manager n).queue.active = []) :
    Continues m w (w.swapIn n) := by
  refine .noteQuiet ?_ rfl
  by_cases same : n = m
  · subst same
    refine .note rfl ?_
    rw [stock_modifyManager_self]
    exact .swapped drained
  · exact (elsewhere same).noteQuiet (by simpa [Happening.moves] using same)

/-- A drain makes the pending buffer active when nothing active is left. -/
theorem beginDrain_continues (n : ManagerId) : Continues m w (w.beginDrain n).2 := by
  cases idle : (w.manager n).queue.draining with
  | true =>
    rw [beginDrain_refused idle]
    exact (Continues.refl w).noteQuiet (by rfl)
  | false =>
    by_cases drained : (w.manager n).queue.active = []
    · rw [beginDrain_swapIn idle drained]
      exact (swapIn_continues n drained).trans (readClock_continues n)
    · rw [beginDrain_takeUp idle drained]
      refine .trans (.noteQuiet (.modifyManager ?_) rfl) (readClock_continues n)
      rfl

@[simp] theorem queue_readClock : ((w.readClock n).2.manager m).queue = (w.manager m).queue := by
  simp only [readClock, Manager.readClock, manager_setManager]
  split
  case isTrue same => rw [same]
  case isFalse => rfl

theorem takeDue_exhausted (exceeded : overBudget budget started (w.readClock n).1 = true) :
    w.takeDue n budget started delivered =
      (none, (w.readClock n).2.note (.budgetExhausted n (budget.getD .zero) delivered)) := by
  simp only [takeDue, if_pos exceeded]

theorem takeDue_blocked (within : overBudget budget started (w.readClock n).1 = false)
    (blocked : (w.manager n).queue.popDue (w.readClock n).1 = none) :
    w.takeDue n budget started delivered = (none, (w.readClock n).2) := by
  simp only [takeDue, within, Bool.false_eq_true, if_false, queue_readClock, blocked]

/-- The world in which the front of the active buffer has been taken. -/
def takeFront (n : ManagerId) (e : EventRef) (rest : List EventRef) (w : World σ) : World σ :=
  ((w.readClock n).2.modifyManager n fun manager =>
    { manager with queue := { (w.manager n).queue with active := rest } }).note (.handedOver n e)

theorem takeDue_front (within : overBudget budget started (w.readClock n).1 = false)
    (front : (w.manager n).queue.active = e :: rest)
    (due : e.due.isDue (w.readClock n).1 = true) :
    w.takeDue n budget started delivered = (some e, w.takeFront n e rest) := by
  simp only [takeDue, within, Bool.false_eq_true, if_false, queue_readClock, Queue.popDue, front,
    due, if_true, takeFront]

/-- What a turn of a drain comes to. -/
theorem takeDue_cases (n : ManagerId) (budget : Option Duration) (started : Timestamp)
    (delivered : Nat) (w : World σ) :
    (w.takeDue n budget started delivered =
      (none, (w.readClock n).2.note (.budgetExhausted n (budget.getD .zero) delivered))) ∨
    w.takeDue n budget started delivered = (none, (w.readClock n).2) ∨
    ∃ e rest, (w.manager n).queue.active = e :: rest ∧
      w.takeDue n budget started delivered = (some e, w.takeFront n e rest) := by
  cases exceeded : overBudget budget started (w.readClock n).1 with
  | true => exact .inl (takeDue_exhausted exceeded)
  | false =>
    cases active : (w.manager n).queue.active with
    | nil => exact .inr (.inl (takeDue_blocked exceeded (by simp only [Queue.popDue, active])))
    | cons e rest =>
      cases due : e.due.isDue (w.readClock n).1 with
      | false =>
        exact .inr (.inl (takeDue_blocked exceeded
          (by simp only [Queue.popDue, active, due, Bool.false_eq_true, if_false])))
      | true => exact .inr (.inr ⟨e, rest, rfl, takeDue_front exceeded active due⟩)

/-- A turn that takes an event takes the front of the active buffer. -/
theorem takeDue_some (taken : (w.takeDue n budget started delivered).1 = some e) :
    ∃ rest, (w.manager n).queue.active = e :: rest ∧
      (w.takeDue n budget started delivered).2 = w.takeFront n e rest := by
  rcases takeDue_cases n budget started delivered w with none | none | ⟨_, rest, front, some⟩
  · rw [none] at taken
    cases taken
  · rw [none] at taken
    cases taken
  · rw [some] at taken ⊢
    cases taken
    exact ⟨rest, front, rfl⟩

theorem takeFront_continues (n : ManagerId) (front : (w.manager n).queue.active = e :: rest) :
    Continues m w (w.takeFront n e rest) := by
  refine (readClock_continues n).trans ?_
  by_cases same : n = m
  · subst same
    refine .note rfl ?_
    rw [stock_modifyManager_self]
    have active : ((w.readClock n).2.stock n).active = e :: rest := by
      simpa only [stock, Manager.stock, queue_readClock] using front
    simpa only [stock, Manager.stock, queue_readClock] using Stock.Step.handedOver active
  · exact (elsewhere same).noteQuiet (by simpa [Happening.moves] using same)

/-- A turn of a drain takes the front of the active buffer or leaves the queue as it is. -/
theorem takeDue_continues (n : ManagerId) (budget : Option Duration) (started : Timestamp)
    (delivered : Nat) : Continues m w (w.takeDue n budget started delivered).2 := by
  rcases takeDue_cases n budget started delivered w with taken | taken | ⟨e, rest, front, taken⟩
  · rw [taken]
    exact (readClock_continues n).noteQuiet rfl
  · rw [taken]
    exact readClock_continues n
  · rw [taken]
    exact takeFront_continues n front

theorem endDrain_continues (n : ManagerId) : Continues m w (w.endDrain n).2 :=
  .modifyManager rfl

theorem finishDrain_continues (n : ManagerId) (delivered : Nat) :
    Continues m w (w.finishDrain n delivered).2 :=
  .noteQuiet (.trans (endDrain_continues n) (.modifyManager rfl)) rfl

theorem unwindDrain_continues (n : ManagerId) : Continues m w (w.unwindDrain n) :=
  .noteQuiet (endDrain_continues n) rfl

/-! ### Everything else -/

theorem closeFrame_continues (n : ManagerId) (frame : UInt64) :
    Continues m w (w.closeFrame n frame).2 :=
  .modifyManager rfl

theorem conclude_continues (n : ManagerId) (frame : UInt64) (e : EventRef) (consumed : Bool)
    (tally : Tally) : Continues m w (w.conclude n frame e consumed tally) := by
  have closed : Continues m w (((w.closeFrame n frame).2.modifyManager n
      (·.countDispatch tally consumed (w.closeFrame n frame).1)).note
      (.closed n frame consumed (w.closeFrame n frame).1)) :=
    .noteQuiet (.trans (closeFrame_continues n frame) (.modifyManager rfl)) rfl
  simp only [conclude]
  split <;> split
  · exact closed.noteQuiet rfl
  · exact closed
  · exact (closed.noteQuiet rfl).noteQuiet rfl
  · exact closed.noteQuiet rfl

theorem beginDispatch_continues (n : ManagerId) (e : EventRef) :
    Continues m w (w.beginDispatch n e).2 := by
  have called : Continues m w (w.note (.dispatched n e)) := (Continues.refl w).noteQuiet rfl
  simp only [beginDispatch]
  split
  · exact .noteQuiet (called.trans (.modifyManager rfl)) rfl
  · exact .noteQuiet (called.trans (.modifyManager rfl)) rfl

theorem pruneOne_continues (n : ManagerId) (frame : UInt64) (t : TypeId) (l : ListenerId) :
    Continues m w (w.pruneOne n frame t l).2 := by
  simp only [pruneOne]
  split
  · exact .noteQuiet (.modifyManager rfl) rfl
  · exact .modifyManager rfl

theorem receiveQuit_continues (l : ListenerId) (e : EventRef) :
    Continues m w (w.receiveQuit l e).2 := by
  unfold receiveQuit
  split
  · exact .trans (.noteQuiet (.refl w) rfl) (.modifyListener l _)
  · exact .refl w

theorem countFrame_continues (l : ListenerId) (updates renders : Nat) (e : EventRef) :
    Continues m w (w.countFrame l updates renders e) := by
  unfold countFrame
  split
  · exact .modifyListener l _
  · exact .modifyListener l _
  · exact .refl w

theorem newManager_continues (clock : Clock) : Continues m w (w.newManager clock).2 := by
  have made : Continues m w { w with managers := w.managers.push (.fresh clock) } := by
    refine .still rfl ?_
    simp only [stock, manager, Store.get_push]
    split
    case isTrue last =>
      rw [Store.get_of_size_le _ (Nat.le_of_eq last.symm)]
      rfl
    case isFalse => rfl
  simp only [newManager]
  split
  · exact made.noteQuiet rfl
  · exact .noteQuiet (made.trans (.still rfl rfl)) rfl

theorem releaseManager_continues (n : ManagerId) : Continues m w (w.releaseManager n) := by
  simp only [releaseManager]
  split
  · exact .noteQuiet (.trans (.modifyManager rfl) (.still rfl rfl)) rfl
  · exact .modifyManager rfl

theorem tryConnect_continues (n : ManagerId) (l : ListenerId) (t : TypeId) :
    Continues m w (w.tryConnect n l t).2 := by
  have kept : ((w.manager n).connect w.roll l t).2.stock = (w.manager n).stock := by
    unfold Manager.connect
    split <;> rfl
  simp only [tryConnect]
  split
  case h_1 connected =>
    rw [connected] at kept
    exact .noteQuiet (.modifyManager kept) rfl
  case h_2 refused =>
    rw [refused] at kept
    exact .modifyManager kept

theorem tryDisconnect_continues (n : ManagerId) (l : ListenerId) (t : TypeId) :
    Continues m w (w.tryDisconnect n l t).2 := by
  have kept : ((w.manager n).disconnect l t).2.stock = (w.manager n).stock := by
    unfold Manager.disconnect
    split <;> rfl
  simp only [tryDisconnect]
  split
  case h_1 removed =>
    rw [removed] at kept
    dsimp only
    split
    · exact .modifyManager kept
    · exact .noteQuiet (.modifyManager kept) rfl
  case h_2 refused =>
    rw [refused] at kept
    exact .modifyManager kept

theorem carryOut_continues {op : Op} {result : op.Reply × World σ}
    (carried : w.carryOut op = some result) : Continues m w result.2 := by
  cases op with
  | callListener | dispatch | execute => cases carried
  | newManager clock => cases carried; exact newManager_continues clock
  | releaseManager n => cases carried; exact releaseManager_continues n
  | tryConnect n l t => cases carried; exact tryConnect_continues n l t
  | tryDisconnect n l t => cases carried; exact tryDisconnect_continues n l t
  | clearListeners n => cases carried; exact .noteQuiet (.modifyManager rfl) rfl
  | pruneStale n => cases carried; exact .noteQuiet (.modifyManager rfl) rfl
  | enqueue n e => cases carried; exact enqueue_continues n e
  | dequeue n e all => cases carried; exact dequeue_continues n e all
  | clearQueue n => cases carried; exact clearQueue_continues n
  | holdManager | now | advance | setClock => cases carried; exact .modifyManager rfl
  | dropListener l => cases carried; exact .modifyListener l _
  | note notice => cases carried; exact .noteQuiet (.refl w) rfl
  | acquireCurrent =>
    cases carried
    simp only [acquireCurrent]
    split
    · exact .modifyManager rfl
    · exact .refl w
  | isCurrent | newListener | nameOf | roleOf | newEvent | inspect | validate =>
    cases carried
    exact .still rfl rfl

end World

namespace Machine

variable {σ : Type} {behaviour : Behaviour σ} {c d : State σ} {w w' : World σ} {m : ManagerId}

open World

theorem Acts.continues (act : Acts w w') : Continues m w w' := by
  cases act with
  | rests => exact .refl w
  | remembers | enters | leaves => exact .still rfl rfl
  | carriesOut carried => exact carryOut_continues carried
  | receivesQuit => exact receiveQuit_continues _ _
  | countsFrame => exact countFrame_continues _ _ _ _
  | beginsDispatch => exact beginDispatch_continues _ _
  | prunes => exact pruneOne_continues _ _ _ _
  | invokes => exact .noteQuiet (.refl w) rfl
  | concludes => exact conclude_continues _ _ _ _ _
  | consumes => exact .trans (.noteQuiet (.refl w) rfl) (conclude_continues _ _ _ _ _)
  | unwindsDispatch => exact .noteQuiet (closeFrame_continues _ _) rfl
  | beginsDrain => exact beginDrain_continues _
  | takes => exact takeDue_continues _ _ _ _
  | stopsTaking => exact .trans (takeDue_continues _ _ _ _) (finishDrain_continues _ _)
  | finishesDrain => exact finishDrain_continues _ _
  | unwindsDrain => exact unwindDrain_continues _

/-- What the journal gains along a run is a run of the queue of every manager. -/
theorem Reaches.continues (run : Reaches behaviour c d) (m : ManagerId) :
    Continues m c.world d.world :=
  run.relates .refl .trans Acts.continues

/-- The journal is a run of the queue of every manager from an empty queue on. -/
theorem Reachable.queueRun (reachable : Reachable behaviour c) (m : ManagerId) :
    Stock.Run m .empty c.world.journal.toList (c.world.stock m) := by
  obtain ⟨p, memory, run⟩ := reachable
  obtain ⟨hs, journal, queue⟩ := run.continues m
  have new : (start p memory).world.stock m = .empty := by
    simp only [start, World.stock, World.manager, World.initial, Store.get_empty]
    rfl
  rw [new] at queue
  rw [journal]
  exact queue

end Machine
end EventEngine
