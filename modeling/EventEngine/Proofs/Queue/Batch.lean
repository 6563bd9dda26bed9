import EventEngine.Proofs.Queue.Ledger

/-! The batch that a drain works through. Its order is settled when it is made active. While
the drain is under way nothing but the drain itself takes from it, unless the queue is
cleared. -/
namespace EventEngine

open Manager (Tally)

/-- What a drain that begins now works through. -/
def Queue.batch (q : Queue) : List EventRef :=
  if q.active.isEmpty then q.pending.toList.mergeSort deliversBefore else q.active

/-- What is pending is in the batch if nothing was left over. -/
theorem Queue.mem_batch {q : Queue} {e : EventRef} (pending : e ∈ q.pending)
    (drained : q.active = []) : e ∈ q.batch := by
  simp only [batch, drained, List.isEmpty_nil, if_true, List.mem_mergeSort]
  exact Array.mem_toList_iff.mpr pending

namespace World

variable {σ : Type} {w w' w'' : World σ} {m n : ManagerId}

/-- What is active in the queue of a manager, and whether a drain is under way. -/
def underway (m : ManagerId) (w : World σ) : List EventRef × Bool :=
  ((w.manager m).queue.active, (w.manager m).queue.draining)

theorem underway_iff {active : List EventRef} {draining : Bool} :
    w.underway m = (active, draining) ↔
      (w.manager m).queue.active = active ∧ (w.manager m).queue.draining = draining := by
  rw [underway, Prod.mk.injEq]

def KeepsBatch (m : ManagerId) (w w' : World σ) : Prop := w'.underway m = w.underway m

namespace KeepsBatch

theorem refl (w : World σ) : KeepsBatch m w w := Eq.refl _

theorem trans (first : KeepsBatch m w w') (second : KeepsBatch m w' w'') : KeepsBatch m w w'' :=
  Eq.trans second first

theorem note {h : Happening} (before : KeepsBatch m w w') : KeepsBatch m w (w'.note h) := before

theorem modifyManager {f : Manager → Manager}
    (active : (f (w.manager n)).queue.active = (w.manager n).queue.active)
    (draining : (f (w.manager n)).queue.draining = (w.manager n).queue.draining) :
    KeepsBatch m w (w.modifyManager n f) := by
  simp only [KeepsBatch, underway, manager_modifyManager]
  split
  · rename_i same
    rw [← same, active, draining]
  · rfl

/-- What is done to a manager does not touch another one. -/
theorem elsewhere {f : Manager → Manager} (other : n ≠ m) :
    KeepsBatch m w (w.modifyManager n f) := by
  simp only [KeepsBatch, underway, manager_modifyManager, if_neg other]

end KeepsBatch

theorem newManager_keepsBatch (clock : Clock) : KeepsBatch m w (w.newManager clock).2 := by
  have made : KeepsBatch m w { w with managers := w.managers.push (.fresh clock) } := by
    simp only [KeepsBatch, underway, manager, Store.get_push]
    split
    · rename_i last
      rw [Store.get_of_size_le _ (Nat.le_of_eq last.symm)]
      rfl
    · rfl
  simp only [newManager]
  split <;> exact made

theorem carryOut_keepsBatch {op : Op} {result : op.Reply × World σ}
    (carried : w.carryOut op = some result) (keeps : op ≠ .clearQueue m) :
    KeepsBatch m w result.2 := by
  cases op with
  | callListener | dispatch | execute => cases carried
  | newManager clock => cases carried; exact newManager_keepsBatch clock
  | clearQueue n =>
    have other : n ≠ m := fun same => keeps (congrArg Op.clearQueue same)
    cases carried
    exact .note (.elsewhere other)
  | releaseManager n =>
    cases carried
    simp only [releaseManager]
    split
    · exact .note (.modifyManager rfl rfl)
    · exact .modifyManager rfl rfl
  | tryConnect n l t =>
    have kept : ((w.manager n).connect w.roll l t).2.queue = (w.manager n).queue := by
      unfold Manager.connect
      split <;> rfl
    cases carried
    simp only [tryConnect]
    split <;>
    · rename_i result
      rw [result] at kept
      exact .modifyManager (congrArg _ kept) (congrArg _ kept)
  | tryDisconnect n l t =>
    have kept : ((w.manager n).disconnect l t).2.queue = (w.manager n).queue := by
      unfold Manager.disconnect
      split <;> rfl
    cases carried
    simp only [tryDisconnect]
    split
    · rename_i result
      rw [result] at kept
      dsimp only
      split <;> exact .modifyManager (congrArg _ kept) (congrArg _ kept)
    · rename_i result
      rw [result] at kept
      exact .modifyManager (congrArg _ kept) (congrArg _ kept)
  | acquireCurrent =>
    cases carried
    simp only [acquireCurrent]
    split
    · exact .modifyManager rfl rfl
    · exact .refl w
  | dequeue n e all =>
    cases carried
    refine .note (.modifyManager (Queue.active_dequeue all) ?_)
    cases all <;> rfl
  | clearListeners | pruneStale | enqueue => cases carried; exact .note (.modifyManager rfl rfl)
  | holdManager | now | advance | setClock => cases carried; exact .modifyManager rfl rfl
  | isCurrent | newListener | dropListener | nameOf | roleOf | newEvent | inspect | validate
  | note =>
    cases carried
    exact .refl w

theorem receiveQuit_keepsBatch (l : ListenerId) (e : EventRef) :
    KeepsBatch m w (w.receiveQuit l e).2 := by
  unfold receiveQuit
  split <;> exact .refl w

theorem countFrame_keepsBatch (l : ListenerId) (updates renders : Nat) (e : EventRef) :
    KeepsBatch m w (w.countFrame l updates renders e) := by
  unfold countFrame
  split <;> exact .refl w

theorem beginDispatch_keepsBatch (n : ManagerId) (e : EventRef) :
    KeepsBatch m w (w.beginDispatch n e).2 := by
  have called : KeepsBatch m w (w.note (.dispatched n e)) := .note (.refl w)
  simp only [beginDispatch]
  split
  · exact .note (called.trans (.modifyManager rfl rfl))
  · exact .note (called.trans (.modifyManager rfl rfl))

theorem pruneOne_keepsBatch (n : ManagerId) (frame : UInt64) (t : TypeId) (l : ListenerId) :
    KeepsBatch m w (w.pruneOne n frame t l).2 := by
  simp only [pruneOne]
  split
  · exact .note (.modifyManager rfl rfl)
  · exact .modifyManager rfl rfl

theorem conclude_keepsBatch (n : ManagerId) (frame : UInt64) (e : EventRef) (consumed : Bool)
    (tally : Tally) : KeepsBatch m w (w.conclude n frame e consumed tally) := by
  have closed : KeepsBatch m w (w.closeFrame n frame).2 := .modifyManager rfl rfl
  have counted : KeepsBatch m w (((w.closeFrame n frame).2.modifyManager n
      (·.countDispatch tally consumed (w.closeFrame n frame).1)).note
      (.closed n frame consumed (w.closeFrame n frame).1)) :=
    .note (closed.trans (.modifyManager rfl rfl))
  simp only [conclude]
  split <;> split
  · exact .note counted
  · exact counted
  · exact .note (.note counted)
  · exact .note counted

theorem readClock_keepsBatch (n : ManagerId) : KeepsBatch m w (w.readClock n).2 :=
  .modifyManager rfl rfl

/-- A drain of one manager does not touch the batch of another one. -/
theorem beginDrain_elsewhere (other : n ≠ m) : KeepsBatch m w (w.beginDrain n).2 := by
  simp only [beginDrain]
  split
  · exact .refl w
  · split <;> exact .trans (.elsewhere other) (readClock_keepsBatch n)

theorem takeDue_elsewhere (budget : Option Duration) (started : Timestamp) (delivered : Nat)
    (other : n ≠ m) : KeepsBatch m w (w.takeDue n budget started delivered).2 := by
  have read := readClock_keepsBatch (w := w) (m := m) n
  rcases takeDue_cases n budget started delivered w with taken | taken | ⟨e, rest, _, taken⟩
  · rw [taken]
    exact read
  · rw [taken]
    exact read
  · rw [taken]
    exact .note (read.trans (.elsewhere other))

theorem finishDrain_elsewhere (delivered : Nat) (other : n ≠ m) :
    KeepsBatch m w (w.finishDrain n delivered).2 :=
  .note (.trans (.elsewhere other) (.elsewhere other))

theorem clearQueue_underway :
    (w.clearQueue m).2.underway m = ([], (w.manager m).queue.draining) := by
  simp only [underway, clearQueue, Manager.clearQueue, Queue.clear, manager_note,
    manager_setManager, if_true]

/-- A drain that ends leaves what is active, and gives up its mark. -/
theorem endDrain_underway :
    (w.endDrain m).2.underway m = ((w.manager m).queue.active, false) := by
  simp only [underway, endDrain, Queue.finishDrain, manager_modifyManager, if_true]

theorem finishDrain_underway (delivered : Nat) :
    (w.finishDrain m delivered).2.underway m = ((w.manager m).queue.active, false) := by
  have counted : KeepsBatch m (w.endDrain m).2 (w.finishDrain m delivered).2 :=
    .note (.modifyManager rfl rfl)
  exact Eq.trans counted endDrain_underway

/-- A drain takes the front of its batch and leaves the rest. -/
theorem takeFront_underway (e : EventRef) (rest : List EventRef) :
    (w.takeFront m e rest).underway m = (rest, (w.manager m).queue.draining) := by
  simp only [underway, takeFront, manager_note, manager_modifyManager, if_true]

/-- A drain that is not refused makes its batch active and has a turn more than it needs. -/
theorem beginDrain_batch (idle : (w.manager m).queue.draining = false) :
    ∃ started w', w.beginDrain m =
        (some (started, (w.manager m).queue.batch.length + 1), w') ∧
      w'.underway m = ((w.manager m).queue.batch, true) := by
  by_cases drained : (w.manager m).queue.active = []
  · have batch : (w.manager m).queue.batch =
        (w.manager m).queue.pending.toList.mergeSort deliversBefore := by
      simp only [Queue.batch, drained, List.isEmpty_nil, if_true]
    rw [batch]
    refine ⟨_, _, beginDrain_swapIn idle drained, ?_⟩
    rw [readClock_keepsBatch m]
    simp only [underway, swapIn, manager_note, manager_modifyManager, if_true]
  · have batch : (w.manager m).queue.batch = (w.manager m).queue.active := by
      simp only [Queue.batch, List.isEmpty_eq_false_iff.mpr drained, Bool.false_eq_true, if_false]
    rw [batch]
    refine ⟨_, _, beginDrain_takeUp idle drained, ?_⟩
    rw [readClock_keepsBatch m]
    simp only [underway, takeUp, manager_note, manager_modifyManager, if_true]

theorem beginDrain_keepsBatch_of_refused (refused : (w.beginDrain n).1 = none) :
    KeepsBatch m w (w.beginDrain n).2 := by
  cases draining : (w.manager n).queue.draining with
  | true =>
    rw [beginDrain_refused draining]
    exact .note (.refl w)
  | false =>
    obtain ⟨_, _, begins, _⟩ := beginDrain_batch draining
    rw [begins] at refused
    cases refused

theorem takeDue_keepsBatch_of_none {budget : Option Duration} {started : Timestamp}
    {delivered : Nat} (stopped : (w.takeDue n budget started delivered).1 = none) :
    KeepsBatch m w (w.takeDue n budget started delivered).2 := by
  rcases takeDue_cases n budget started delivered w with taken | taken | ⟨_, _, _, taken⟩
  · rw [taken]
    exact readClock_keepsBatch n
  · rw [taken]
    exact readClock_keepsBatch n
  · rw [taken] at stopped
    cases stopped

end World

namespace Machine

variable {σ : Type} {behaviour : Behaviour σ} {c d : State σ} {m n : ManagerId}

open World

def Waiting.drains (m : ManagerId) : Waiting σ → Nat
  | .drain n .. => if n = m then 1 else 0
  | _ => 0

def Control.drains (m : ManagerId) : Control σ → Nat
  | .drain n .. => if n = m then 1 else 0
  | _ => 0

def stackDrains (m : ManagerId) (stack : List (Waiting σ)) : Nat := (stack.map (·.drains m)).sum

/-- How many drains of a manager are under way. -/
def State.drains (m : ManagerId) (c : State σ) : Nat := c.control.drains m + stackDrains m c.stack

/-- What a step does to the active buffer of a manager and to the drains of it under way. -/
inductive Draws (m : ManagerId) (c d : State σ) : Prop
  | rests (drains : d.drains m = c.drains m) (kept : KeepsBatch m c.world d.world)
  | clears (asked : c.control = .program (.call (.clearQueue m) next))
    (drains : d.drains m = c.drains m)
    (cleared : d.world.underway m = ([], (c.world.manager m).queue.draining))
  | begins (asked : c.control = .execute m budget)
    (idle : (c.world.manager m).queue.draining = false) (drains : d.drains m = c.drains m + 1)
    (begun : d.world.underway m = ((c.world.manager m).queue.batch, true))
  | takes (inside : 0 < c.drains m) (drains : d.drains m = c.drains m)
    (front : (c.world.manager m).queue.active = e :: rest)
    (taken : d.world.underway m = (rest, (c.world.manager m).queue.draining))
  | ends (drains : c.drains m = d.drains m + 1)
    (ended : d.world.underway m = ((c.world.manager m).queue.active, false))

variable {stack : List (Waiting σ)} {w : World σ}

theorem drains_push (control : Control σ) (top : Waiting σ) :
    State.drains m ⟨control, top :: stack, w⟩ =
      control.drains m + (top.drains m + stackDrains m stack) := rfl

/-- A drain of one manager is none of another one. -/
theorem drains_other (budget : Option Duration) (started : Timestamp) (turns delivered : Nat)
    (other : n ≠ m) :
    State.drains m ⟨.drain n budget started turns delivered, stack, w⟩ = stackDrains m stack := by
  simp only [State.drains, Control.drains, if_neg other, Nat.zero_add]

theorem drains_self (budget : Option Duration) (started : Timestamp) (turns delivered : Nat) :
    State.drains n ⟨.drain n budget started turns delivered, stack, w⟩ = stackDrains n stack + 1 := by
  simp only [State.drains, Control.drains, if_true, Nat.add_comm]

theorem carryOut_draws {op : Op} {next : Outcome op.Reply → Program σ Bool}
    {result : op.Reply × World σ} (carried : w.carryOut op = some result) (p : Program σ Bool) :
    Draws m ⟨.program (.call op next), stack, w⟩ ⟨.program p, stack, result.2⟩ := by
  by_cases clears : op = .clearQueue m
  · subst clears
    cases carried
    exact .clears rfl rfl clearQueue_underway
  · exact .rests rfl (carryOut_keepsBatch carried clears)

theorem begin_draws {started : Timestamp} {turns : Nat} (budget : Option Duration)
    (begun : (w.beginDrain n).1 = some (started, turns)) :
    Draws m ⟨.execute n budget, stack, w⟩
      ⟨.drain n budget started turns 0, stack, (w.beginDrain n).2⟩ := by
  by_cases same : n = m
  · subst same
    cases draining : (w.manager n).queue.draining with
    | true =>
      rw [beginDrain_refused draining] at begun
      cases begun
    | false =>
      obtain ⟨_, w', begins, batch⟩ := beginDrain_batch draining
      rw [begins]
      refine .begins rfl draining ?_ batch
      rw [drains_self]
      simp only [State.drains, Control.drains, Nat.zero_add]
  · refine .rests ?_ (beginDrain_elsewhere same)
    rw [drains_other _ _ _ _ same]
    exact (Nat.zero_add _).symm

theorem endTurns_draws {v : World σ} (budget : Option Duration) (started : Timestamp)
    (turns delivered : Nat) (kept : KeepsBatch m w v) :
    Draws m ⟨.drain n budget started turns delivered, stack, w⟩ (endTurns stack n delivered v) := by
  have last : State.drains m (endTurns stack n delivered v) = stackDrains m stack := Nat.zero_add _
  by_cases same : n = m
  · subst same
    have active : (v.manager n).queue.active = (w.manager n).queue.active := congrArg Prod.fst kept
    exact .ends (by rw [drains_self, last]) (active ▸ finishDrain_underway delivered)
  · refine .rests ?_ (kept.trans (finishDrain_elsewhere delivered same))
    rw [drains_other _ _ _ _ same, last]

theorem take_draws {budget : Option Duration} {started : Timestamp} {turns delivered : Nat}
    {e : EventRef} (taken : (w.takeDue n budget started delivered).1 = some e) :
    Draws m ⟨.drain n budget started (turns + 1) delivered, stack, w⟩
      ⟨.dispatch n e, .drain n budget started turns delivered :: stack,
        (w.takeDue n budget started delivered).2⟩ := by
  by_cases same : n = m
  · subst same
    obtain ⟨rest, front, handed⟩ := takeDue_some taken
    rw [handed]
    refine .takes ?_ ?_ front (takeFront_underway e rest)
    · rw [drains_self]
      exact Nat.succ_pos _
    · rw [drains_self, drains_push]
      simp only [Control.drains, Waiting.drains, if_true, Nat.zero_add, Nat.add_comm]
  · refine .rests ?_ (takeDue_elsewhere budget started delivered same)
    rw [drains_other _ _ _ _ same, drains_push]
    simp only [Control.drains, Waiting.drains, if_neg same, Nat.zero_add]

theorem unwindDrain_draws (budget : Option Duration) (started : Timestamp) (turns delivered : Nat)
    (message : String) :
    Draws m ⟨.outcome (.panicked message), .drain n budget started turns delivered :: stack, w⟩
      ⟨.outcome (.panicked message), stack, w.unwindDrain n⟩ := by
  by_cases same : n = m
  · subst same
    refine .ends ?_ endDrain_underway
    rw [drains_push]
    simp only [State.drains, Control.drains, Waiting.drains, if_true, Nat.zero_add, Nat.add_comm]
  · refine .rests ?_ (.note (.elsewhere same))
    rw [drains_push]
    simp only [State.drains, Control.drains, Waiting.drains, if_neg same, Nat.zero_add]

/-- Every step leaves the batch of a manager alone, clears it, or is the beginning, a turn or the
end of a drain. -/
theorem step_draws (moved : step behaviour c = some d) (m : ManagerId) : Draws m c d := by
  cases step_moves moved with
  | finishes | panics | reads | changes | misses | handles | skips => exact .rests rfl (.refl _)
  | carriesOut carried => exact carryOut_draws carried _
  | callsListener | dispatches | executes | visits | answers | answersCaller | panicsCaller
  | declines | delivers =>
    exact .rests (by simp [State.drains, stackDrains, Control.drains, Waiting.drains]) (.refl _)
  | receivesQuit => exact .rests rfl (receiveQuit_keepsBatch _ _)
  | countsFrame => exact .rests rfl (countFrame_keepsBatch _ _ _ _)
  | unheard | heard => exact .rests rfl (beginDispatch_keepsBatch _ _)
  | prunes => exact .rests rfl (pruneOne_keepsBatch _ _ _ _)
  | concludes => exact .rests rfl (conclude_keepsBatch _ _ _ _ _)
  | refuses refused => exact .rests rfl (beginDrain_keepsBatch_of_refused refused)
  | begins begun => exact begin_draws _ begun
  | ends => exact endTurns_draws _ _ _ _ (.refl _)
  | stops stopped => exact endTurns_draws _ _ _ _ (takeDue_keepsBatch_of_none stopped)
  | takes taken => exact take_draws taken
  | consumes =>
    exact .rests (by simp [State.drains, stackDrains, Control.drains, Waiting.drains])
      (conclude_keepsBatch _ _ _ _ _)
  | unwindsDispatch =>
    exact .rests (by simp [State.drains, stackDrains, Control.drains, Waiting.drains])
      (.note (.modifyManager rfl rfl))
  | unwindsDrain => exact unwindDrain_draws _ _ _ _ _

/-- While no drain of the manager is begun or goes on, its batch is left as it is unless the
queue is cleared. -/
theorem Draws.keepsBatch (draws : Draws m c d) (apart : c.drains m = 0)
    (refused : ∀ budget, c.control = .execute m budget →
      (c.world.manager m).queue.draining = true)
    (keeps : ∀ next, c.control ≠ .program (.call (.clearQueue m) next)) :
    d.drains m = 0 ∧ KeepsBatch m c.world d.world := by
  cases draws with
  | rests drains kept => exact ⟨drains.trans apart, kept⟩
  | clears asked => exact (keeps _ asked).elim
  | begins asked idle =>
    rw [refused _ asked] at idle
    cases idle
  | takes inside => omega
  | ends drains => omega

theorem after_keepsBatch {n : Nat} (run : after behaviour n c = some d) (apart : c.drains m = 0)
    (refused : ∀ j < n, ∀ x budget, after behaviour j c = some x → x.control = .execute m budget →
      KeepsBatch m c.world x.world → (x.world.manager m).queue.draining = true)
    (keeps : ∀ j < n, ∀ x next, after behaviour j c = some x →
      x.control ≠ .program (.call (.clearQueue m) next)) :
    d.drains m = 0 ∧ KeepsBatch m c.world d.world := by
  induction n generalizing d with
  | zero =>
    cases run
    exact ⟨apart, .refl _⟩
  | succ n ih =>
    obtain ⟨x, before, moved⟩ := Option.bind_eq_some_iff.mp (after_succ n c ▸ run)
    obtain ⟨still, kept⟩ := ih before
      (fun j early => refused j (Nat.lt_succ_of_lt early))
      (fun j early => keeps j (Nat.lt_succ_of_lt early))
    obtain ⟨later, next⟩ := (step_draws moved m).keepsBatch still
      (fun budget asked => refused n (Nat.lt_succ_self n) x budget before asked kept)
      (fun next => keeps n (Nat.lt_succ_self n) x next before)
    exact ⟨later, kept.trans next⟩

/-- A drain that is under way beneath a run finds its batch as it left it. -/
theorem Reaches.keepsBatch (run : Reaches behaviour c d) (apart : c.drains m = 0)
    (draining : (c.world.manager m).queue.draining = true)
    (keeps : ∀ x next, Reaches behaviour c x →
      x.control ≠ .program (.call (.clearQueue m) next)) :
    KeepsBatch m c.world d.world := by
  obtain ⟨n, run⟩ := run
  refine (after_keepsBatch run apart ?_ ?_).2
  · intro j _ x budget _ _ kept
    exact (congrArg Prod.snd kept).trans draining
  · intro j _ x next before
    exact keeps x next ⟨j, before⟩

/-- The active events of a queue stand in the order of their delivery. -/
theorem Reachable.active_sorted (reachable : Reachable behaviour c) (m : ManagerId) :
    (c.world.manager m).queue.active.Pairwise fun a b => deliversBefore a b = true := by
  have tells := Ledger.Tells.empty.run (reachable.queueRun m)
  have active : (c.world.manager m).queue.active = _ := tells.active.symm
  rw [active, List.pairwise_map]
  refine tells.sorted.imp fun precedes => ?_
  rw [Occurrence.precedes_iff] at precedes
  rw [deliversBefore_iff]
  omega

end Machine
end EventEngine
