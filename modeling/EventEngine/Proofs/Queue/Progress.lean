import EventEngine.Proofs.Machine.Tasks
import EventEngine.Proofs.Machine.Yields
import EventEngine.Proofs.Queue.Isolation

/-! No due event starves. What is due stays so, since clocks do not go back; so a drain without a
budget empties the active buffer, and the next one finds it empty and takes everything that is
pending. Two drains are enough for whatever is queued, left over or not. -/
namespace EventEngine

/-! ### Queues of due events -/

namespace Manager

/-- Everything queued is due at a point of time that the clock has reached. -/
structure Ripe (point : Timestamp) (x : Manager) : Prop where
  reaches : x.clock.Reaches point
  due : ∀ e ∈ x.queue.toList, e.due.isDue point = true

/-- The task does not make a manager, and queues nothing that is not due. -/
def Task.Timely (point : Timestamp) : Task → Prop
  | make _ => False
  | serve (.enqueue e) => e.due.isDue point = true
  | _ => True

variable {point : Timestamp} {x y : Manager} {roll : Roll}

theorem Task.Plain.timely {task : Task} (plain : task.Plain) : task.Timely point := by
  cases task with
  | make => exact plain.elim
  | serve r =>
    cases r with
    | enqueue => exact plain.elim
    | _ => trivial
  | _ => trivial

/-- Nothing new is queued. -/
theorem Ripe.keep (ripe : x.Ripe point) (reaches : y.clock.Reaches point)
    (queued : y.queue.toList ⊆ x.queue.toList) : y.Ripe point :=
  ⟨reaches, fun e inside => ripe.due e (queued inside)⟩

theorem toList_dequeue_subset (e : EventRef) (all : Bool) (q : Queue) :
    (q.dequeue e all).2.toList ⊆ q.toList := by
  have kept : Stock.kept e all q.pending.toList ⊆ q.pending.toList := by
    cases all with
    | true => exact List.filter_sublist.subset
    | false => exact List.eraseP_subset
  simp only [Queue.toList, Queue.active_dequeue, Queue.pending_dequeue]
  exact List.append_subset.mpr
    ⟨List.subset_append_left .., fun k inside => List.mem_append_right _ (kept inside)⟩

theorem Ripe.serve {r : Request} (ripe : x.Ripe point) (timely : (Task.serve r).Timely point) :
    (r.serve roll x).Ripe point := by
  have same (y : Manager) (clock : y.clock = x.clock) (queue : y.queue = x.queue) : y.Ripe point :=
    ripe.keep (clock ▸ ripe.reaches) (queue ▸ List.Subset.refl _)
  cases r with
  | hold | clearListeners | pruneStale => exact same _ rfl rfl
  | connect l t =>
    simp only [Request.serve, connect]
    split <;> exact same _ rfl rfl
  | disconnect l t =>
    simp only [Request.serve, disconnect]
    split <;> exact same _ rfl rfl
  | enqueue e =>
    refine ⟨ripe.reaches, fun k inside => ?_⟩
    have queued : k ∈ x.queue.toList ∨ k = e := by
      simpa [Request.serve, enqueue, Queue.push, Queue.toList, or_assoc] using inside
    rcases queued with before | rfl
    · exact ripe.due k before
    · exact timely
  | dequeue e all => exact ripe.keep ripe.reaches (toList_dequeue_subset e all x.queue)
  | clearQueue => exact ripe.keep ripe.reaches (List.nil_subset _)
  | readClock => exact ripe.keep ripe.reaches.read (List.Subset.refl _)
  | advance step => exact ripe.keep (ripe.reaches.advance step) (List.Subset.refl _)
  | setClock target => exact ripe.keep (ripe.reaches.set target) (List.Subset.refl _)

theorem Ripe.beginDrain (ripe : x.Ripe point) : x.beginDrain.2.Ripe point := by
  unfold Manager.beginDrain
  split
  case h_1 => exact ripe
  case h_2 queue begun =>
    refine ripe.keep ripe.reaches.read ?_
    unfold Queue.beginDrain at begun
    split at begun
    · cases begun
    · split at begun <;> cases begun
      · intro e inside
        have pending : e ∈ x.queue.pending.toList := by simpa [readClock, Queue.toList] using inside
        exact List.mem_append_right _ pending
      · exact List.Subset.refl _

theorem Ripe.takeDue (ripe : x.Ripe point) (budget : Option Duration) (started : Timestamp) :
    (x.takeDue budget started).2.Ripe point := by
  have read : x.readClock.2.Ripe point := ripe.keep ripe.reaches.read (List.Subset.refl _)
  unfold Manager.takeDue
  dsimp only
  split
  · exact read
  · split
    case h_1 => exact read
    case h_2 e queue popped =>
      refine read.keep read.reaches ?_
      unfold Queue.popDue at popped
      split at popped
      · cases popped
      · rename_i front rest active
        split at popped
        · cases popped
          simp only [Queue.toList, active]
          exact List.subset_cons_self ..
        · cases popped

theorem Ripe.finishDrain (ripe : x.Ripe point) : x.finishDrain.2.Ripe point :=
  ripe.keep ripe.reaches (List.Subset.refl _)

theorem Ripe.turn (ripe : x.Ripe point) (budget : Option Duration) (started : Timestamp) :
    (x.turn budget started).Ripe point := by
  have taken := ripe.takeDue budget started
  unfold Manager.turn
  split
  case h_1 same =>
    rw [same] at taken
    exact taken
  case h_2 same =>
    rw [same] at taken
    exact taken.finishDrain

/-- What is ripe stays so with every timely task. -/
theorem Ripe.run {task : Task} (ripe : x.Ripe point) (timely : task.Timely point) :
    (task.run roll x).Ripe point := by
  have same (y : Manager) (clock : y.clock = x.clock) (queue : y.queue.toList = x.queue.toList) :
      y.Ripe point := ripe.keep (clock ▸ ripe.reaches) (queue ▸ List.Subset.refl _)
  cases task with
  | make => cases timely
  | serve r => exact ripe.serve timely
  | beginDrain => exact ripe.beginDrain
  | turn budget started => exact ripe.turn budget started
  | beginDispatch t =>
    simp only [Task.run, beginDispatch]
    split <;> exact same _ rfl rfl
  | release | look | pruneOne | conclude | closeFrame | finishDrain | endDrain => exact same _ rfl rfl

end Manager

/-! ### Occurrences -/

namespace Ledger

variable {m : ManagerId} {ledger : Ledger} {s last : Stock} {h : Happening} {hs : List Happening}

/-- The occurrences in a queue. -/
def queued (ledger : Ledger) : List Occurrence := ledger.active ++ ledger.pending

/-- What has happened since a moment to the pending occurrences: the next number is no lower, and
every pending one is one of then or has a number of since. -/
structure Since (ledger later : Ledger) : Prop where
  next : ledger.next ≤ later.next
  pending : ∀ a ∈ later.pending, a ∈ ledger.pending ∨ ledger.next ≤ a.number

theorem Since.trans {first second third : Ledger} (one : Since first second)
    (other : Since second third) : Since first third := by
  refine ⟨Nat.le_trans one.next other.next, fun a inside => ?_⟩
  rcases other.pending a inside with before | later
  · exact one.pending a before
  · exact .inr (Nat.le_trans one.next later)

theorem since_record (m : ManagerId) (ledger : Ledger) (h : Happening) :
    Since ledger (ledger.record m h) := by
  have same : Since ledger ledger := ⟨Nat.le_refl _, fun _ inside => .inl inside⟩
  unfold record
  split
  case isFalse => exact same
  case isTrue =>
    cases h with
    | queued n e =>
      refine ⟨Nat.le_succ _, fun a inside => ?_⟩
      rcases List.mem_append.mp inside with before | new
      · exact .inl before
      · rw [List.mem_singleton.mp new]
        exact .inr (Nat.le_refl _)
    | dequeued n e all =>
      refine ⟨Nat.le_refl _, fun a inside => .inl ?_⟩
      cases all with
      | true => exact (List.mem_filter.mp inside).1
      | false => exact List.mem_of_mem_eraseP inside
    | dropped | swapped => exact ⟨Nat.le_refl _, nofun⟩
    | handedOver => exact ⟨Nat.le_refl _, fun _ inside => .inl inside⟩
    | _ => exact same

theorem since_run (m : ManagerId) (ledger : Ledger) (hs : List Happening) :
    Since ledger (hs.foldl (record m) ledger) := by
  induction hs generalizing ledger with
  | nil => exact ⟨Nat.le_refl _, fun _ inside => .inl inside⟩
  | cons h hs ih => exact (since_record m ledger h).trans (ih _)

/-- A happening with which an occurrence of an event can leave the queue of a manager. -/
inductive Departs (m : ManagerId) (e : EventRef) : Happening → Prop
  | handedOver : Departs m e (.handedOver m e)
  | dequeued : Departs m e (.dequeued m other all count removed)
  | dropped : Departs m e (.dropped m count removed)

theorem Tells.departs {a : Occurrence} (tells : Tells ledger s) (step : Stock.Step m s h last)
    (inside : a ∈ ledger.queued) (left : a ∉ (ledger.record m h).queued) :
    Departs m a.event h := by
  cases step with
  | quiet still =>
    simp only [record, still] at left
    exact (left inside).elim
  | queued =>
    simp only [record, Happening.moves, beq_self_eq_true, if_true, move] at left
    refine (left ?_).elim
    rw [queued, ← List.append_assoc]
    exact List.mem_append_left _ inside
  | dequeued => exact .dequeued
  | dropped => exact .dropped
  | swapped drained =>
    simp only [record, Happening.moves, beq_self_eq_true, if_true, move] at left
    have nothing : ledger.active = [] := List.map_eq_nil_iff.mp (tells.active.trans drained)
    rw [queued, nothing, List.nil_append] at inside
    refine (left (List.mem_append_left _ ?_)).elim
    exact (List.mergeSort_perm _ _).mem_iff.mpr inside
  | @handedOver _ e rest front =>
    simp only [record, Happening.moves, beq_self_eq_true, if_true, move] at left
    obtain ⟨first, behind, active, rfl, _⟩ := List.map_eq_cons_iff.mp (tells.active.trans front)
    rw [queued, active, List.tail_cons] at left
    rw [queued, active, List.cons_append] at inside
    rcases List.mem_cons.mp inside with rfl | stays
    · exact .handedOver
    · exact (left stays).elim

theorem Tells.departed {a : Occurrence} (tells : Tells ledger s) (run : Stock.Run m s hs last)
    (inside : a ∈ ledger.queued) (left : a ∉ (hs.foldl (record m) ledger).queued) :
    ∃ h ∈ hs, Departs m a.event h := by
  induction run generalizing ledger with
  | nil => exact (left inside).elim
  | @cons s h next hs last step rest ih =>
    by_cases stays : a ∈ (ledger.record m h).queued
    · obtain ⟨k, later, departs⟩ := ih (tells.step step) stays left
      exact ⟨k, List.mem_cons_of_mem h later, departs⟩
    · exact ⟨h, List.mem_cons_self .., tells.departs step inside stays⟩

end Ledger

namespace World

variable {σ : Type} {w w' : World σ} {m : ManagerId}

/-- The occurrences in the queue of a manager. -/
def queued (m : ManagerId) (w : World σ) : List Occurrence := (w.ledger m).queued

theorem Continues.since (continues : Continues m w w') : (w.ledger m).Since (w'.ledger m) := by
  obtain ⟨hs, journal, _⟩ := continues
  rw [ledger, ledger, journal, Ledger.of_append]
  exact Ledger.since_run m _ hs

theorem Continues.tells (continues : Continues m w w') (tells : (w.ledger m).Tells (w.stock m)) :
    (w'.ledger m).Tells (w'.stock m) := by
  obtain ⟨hs, journal, run⟩ := continues
  rw [ledger, journal, Ledger.of_append]
  exact tells.run run

/-- A drain that finds nothing left over leaves nothing pending when it begins. -/
theorem beginDrain_pending (idle : (w.manager m).queue.draining = false)
    (drained : (w.manager m).queue.active = []) :
    ((w.beginDrain m).2.stock m).pending = [] := by
  rw [beginDrain_swapIn idle drained]
  simp only [stock, Manager.stock, queue_readClock, swapIn, manager_note, manager_modifyManager,
    if_true, Array.toList_empty]

end World

namespace Machine

open World

variable {σ : Type} {behaviour : Behaviour σ} {c d : State σ} {m : ManagerId} {point : Timestamp}
  {w v u : World σ}

/-- How an occurrence leaves the queue of a manager with a step. -/
inductive Leaves (m : ManagerId) (a : Occurrence) (c d : State σ) : Prop
  | dispatched (turn : c.control = .drain m budget started turns delivered)
    (dispatches : d.control = .dispatch m a.event)
  | dequeued (asked : c.control = .program (.call (.dequeue m e all) next))
  | cleared (asked : c.control = .program (.call (.clearQueue m) next))

/-- An occurrence leaves a queue in one of these ways only. -/
theorem step_leaves {a : Occurrence} (moved : step behaviour c = some d)
    (tells : (c.world.ledger m).Tells (c.world.stock m)) (inside : a ∈ c.world.queued m)
    (left : a ∉ d.world.queued m) : Leaves m a c d := by
  obtain ⟨hs, journal, causes⟩ := step_causes moved
  obtain ⟨hs', journal', run⟩ := (Reaches.single moved).continues m
  cases List.append_cancel_left (journal.symm.trans journal')
  rw [World.queued, World.ledger, journal, Ledger.of_append] at left
  obtain ⟨h, noted, departs⟩ := tells.departed run inside left
  have cause := causes h noted
  cases departs with
  | handedOver =>
    cases cause with
    | rests still => simpa [Happening.moves] using still m
    | handsOver turn dispatches => exact .dispatched turn dispatches
  | dequeued =>
    cases cause with
    | rests still => simpa [Happening.moves] using still m
    | dequeues asked => exact .dequeued asked
  | dropped =>
    cases cause with
    | rests still => simpa [Happening.moves] using still m
    | drops asked => exact .cleared asked

/-- What ceases to hold along a run does so with one of its steps. -/
theorem Reaches.crossing {P : State σ → Prop} (run : Reaches behaviour c d) (before : P c)
    (since : ¬ P d) : ∃ x y, Reaches behaviour c x ∧ step behaviour x = some y ∧
      Reaches behaviour y d ∧ P x ∧ ¬ P y := by
  obtain ⟨n, run⟩ := run
  induction n generalizing c with
  | zero =>
    cases run
    exact (since before).elim
  | succ n ih =>
    obtain ⟨y, moved, rest⟩ := Option.bind_eq_some_iff.mp run
    by_cases still : P y
    · obtain ⟨x, z, first, later⟩ := ih still rest
      exact ⟨x, z, (Reaches.single moved).trans first, later⟩
    · exact ⟨c, y, .refl c, moved, ⟨n, rest⟩, before, still⟩

/-! ### One drain -/

/-- Listeners that are called return, and whoever queues events of a manager queues such as are due
at a point of time. -/
structure Obliging (behaviour : Behaviour σ) (m : ManagerId) (point : Timestamp) (c : State σ) :
    Prop where
  returns : ∀ l e stack v, Reaches behaviour c ⟨.call l e, stack, v⟩ →
    ∃ consumed u, Reaches behaviour ⟨.call l e, [], v⟩ ⟨.outcome (.returned consumed), [], u⟩
  queues : ∀ e next stack v, Reaches behaviour c ⟨.program (.call (.enqueue m e) next), stack, v⟩ →
    e.due.isDue point = true

theorem Obliging.inside {base : List (Waiting σ)} (obliging : Obliging behaviour m point c)
    (run : Reaches behaviour c (d.over base)) : Obliging behaviour m point d where
  returns := fun l e _ v called => obliging.returns l e _ v (run.trans (called.over base))
  queues := fun e next _ v asked => obliging.queues e next _ v (run.trans (asked.over base))

/-- The task of a step is timely if the manager was made and what is queued is due. -/
theorem timely_of_task {task : Manager.Task} (works : c.task? = some (m, task))
    (made : m < c.world.managers.size)
    (queues : ∀ e next, c.control = .program (.call (.enqueue m e) next) →
      e.due.isDue point = true) : task.Timely point := by
  cases task?_origin works with
  | makes last => exact (Nat.ne_of_lt made last).elim
  | queues asked => exact queues _ _ asked
  | other plain => exact plain.timely

/-- While a drain is marked, a step leaves due what is due, unless it queues something else. -/
theorem step_ripe (moved : step behaviour c = some d) (ripe : (c.world.manager m).Ripe point)
    (draining : (c.world.manager m).queue.draining = true)
    (queues : ∀ e next, c.control = .program (.call (.enqueue m e) next) →
      e.due.isDue point = true) : (d.world.manager m).Ripe point := by
  have does := step_does moved
  cases works : c.task? with
  | none =>
    rw [works] at does
    rw [does m]
    exact ripe
  | some work =>
    obtain ⟨n, task⟩ := work
    rw [works] at does
    rw [does m]
    split
    · rename_i same
      subst same
      exact ripe.run (timely_of_task works (made_of_draining draining) queues)
    · exact ripe

theorem execute_ripe (moved : step behaviour ⟨.execute m none, [], w⟩ = some d)
    (ripe : (w.manager m).Ripe point) : (d.world.manager m).Ripe point := by
  rw [step_does moved m, if_pos rfl]
  exact ripe.run trivial

/-- A drain of what is due delivers everything that is active. -/
theorem drain_completes (idle : (w.manager m).queue.draining = false)
    (ripe : (w.manager m).Ripe point)
    (obliging : Obliging behaviour m point ⟨.execute m none, [], w⟩) :
    ∃ u, Reaches behaviour ⟨.execute m none, [], w⟩ ⟨.outcome (.returned true), [], u⟩ ∧
      (u.manager m).Ripe point ∧ u.underway m = ([], false) := by
  obtain ⟨v, moved, batch⟩ := execute_begins behaviour idle none
  have begun := Reaches.single moved
  obtain ⟨marked, spared⟩ := spared_of_idle none idle
  have throughout {x : State σ} (run : Reaches behaviour ⟨.drain m none (w.readClock m).1
      ((w.manager m).queue.batch.length + 1) 0, [], v⟩ x) : (x.world.manager m).Ripe point := by
    refine run.throughout (P := fun x => (x.world.manager m).Ripe point) (marked.step moved) ?_
      (execute_ripe moved ripe)
    rintro ⟨control, stack, x⟩ y here draining ripe goes
    refine step_ripe goes ripe draining fun e next asked => ?_
    cases asked
    exact obliging.queues e next stack x (begun.trans here)
  obtain ⟨o, u, ended, drained, rfl⟩ := drain_ends (P := fun o => ∃ drained, o = .returned drained)
    (fun drained => ⟨drained, rfl⟩)
    (fun l e top below x called => by
      obtain ⟨consumed, y, returns⟩ := obliging.returns l e _ x (begun.trans called)
      exact ⟨_, y, returns, consumed, rfl⟩)
    _ 0 v (.refl _)
  have run := begun.trans ended
  obtain ⟨turns, i, x, here, nothing, told, left⟩ := execute_returned idle run
  have ripe' : (x.manager m).Ripe point := by
    rcases here.eq_or_later moved with same | later
    · cases same
    · exact throughout later
  have empty : (x.manager m).queue.active = [] := by
    cases active : (x.manager m).queue.active with
    | nil => rfl
    | cons e rest =>
      have due : e.due.isDue point = true := by
        refine ripe'.due e (List.mem_append_left _ ?_)
        rw [active]
        exact List.mem_cons_self ..
      refine (nothing e ⟨nofun, by rw [active]; rfl, ?_⟩).elim
      exact isDue_iff.mp (Timestamp.isDue_mono ripe'.reaches.reading due)
  rw [empty] at told left
  cases told
  exact ⟨u, run, throughout ended,
    underway_iff.mpr ⟨left, (run.spared marked spared).1.ended⟩⟩

/-! ### Two drains -/

/-- A manager is drained twice without a budget, one drain right after the other. -/
def twice (m : ManagerId) (w : World σ) : State σ :=
  ⟨.program ((Program.ask (.execute m none)).bind fun _ => Program.ask (.execute m none)), [], w⟩

/-- Two drains that began in this world and ended in those two have served the queue of a manager:
all that was queued has left, dispatched, cancelled or cleared with some step of theirs, and what is
queued now was queued during the second one. -/
structure Served (behaviour : Behaviour σ) (m : ManagerId) (w u v : World σ) : Prop where
  tells : (v.queued m).map (·.event) = (v.manager m).queue.toList
  leaves : ∀ a ∈ w.queued m, a ∉ v.queued m ∧ ∃ c d, Reaches behaviour (twice m w) c ∧
    step behaviour c = some d ∧ Reaches behaviour d ⟨.outcome (.returned true), [], v⟩ ∧
    a ∈ c.world.queued m ∧ a ∉ d.world.queued m ∧ Leaves m a c d
  recent : ∀ a ∈ v.queued m, (u.ledger m).next ≤ a.number

/-- A drain that finds nothing left over leaves only what was queued during it. -/
theorem queued_since_drain {o : Outcome Bool} (idle : (w.manager m).queue.draining = false)
    (drained : (w.manager m).queue.active = []) (tells : (w.ledger m).Tells (w.stock m))
    (run : Reaches behaviour ⟨.execute m none, [], w⟩ ⟨.outcome o, [], u⟩)
    (left : (u.manager m).queue.active = []) :
    ∀ a ∈ u.queued m, (w.ledger m).next ≤ a.number := by
  obtain ⟨v, begins, _⟩ := beginDrain_reads idle
  have moved : step behaviour ⟨.execute m none, [], w⟩ = some ⟨.drain m none (w.readClock m).1
      ((w.manager m).queue.batch.length + 1) 0, [], v⟩ := by
    simp only [step, begins]
  have emptied : (v.stock m).pending = [] := by
    have begun := beginDrain_pending idle drained
    rwa [begins] at begun
  have begun : Continues m w v := (Reaches.single moved).continues m
  have went : Continues m v u := by
    rcases run.eq_or_later moved with same | later
    · cases same
    · exact later.continues m
  have before := begun.tells tells
  have nothing : (u.ledger m).active = [] :=
    List.map_eq_nil_iff.mp ((went.tells before).active.trans left)
  have none : (v.ledger m).pending = [] := List.map_eq_nil_iff.mp (before.pending.trans emptied)
  intro a inside
  rw [World.queued, Ledger.queued, nothing, List.nil_append] at inside
  rcases went.since.pending a inside with old | recent
  · rw [none] at old
    cases old
  · exact Nat.le_trans begun.since.next recent

/-- Where everything queued is due, two drains without a budget complete and serve it all, left over
or not, whatever is done by listeners that return and queue only what is due. -/
theorem due_events_are_served {control : Control σ} {stack : List (Waiting σ)}
    (reachable : Reachable behaviour ⟨control, stack, w⟩)
    (idle : (w.manager m).queue.draining = false)
    (monotonic : (w.manager m).clock.Monotonic)
    (due : ∀ e ∈ (w.manager m).queue.toList, e.due.isDue (w.readClock m).1 = true)
    (obliging : Obliging behaviour m (w.readClock m).1 (twice m w)) :
    ∃ u v, Yields behaviour (Program.ask (.execute m none)) w true u ∧
      Yields behaviour (Program.ask (.execute m none)) u true v ∧ Served behaviour m w u v := by
  have first : Reaches behaviour (twice m w)
      (State.over [.program fun o => (Program.ofOutcome o).bind fun _ => Program.ask (.execute m none)]
        ⟨.execute m none, [], w⟩) := .single rfl
  obtain ⟨u, run, ripe, under⟩ := drain_completes idle ⟨monotonic.reaches, due⟩ (obliging.inside first)
  have between := first.trans (run.over _)
  have second : Reaches behaviour (twice m w)
      (State.over [.program Program.ofOutcome] ⟨.execute m none, [], u⟩) :=
    between.trans (.trans (.single rfl) (.single rfl))
  obtain ⟨active, idle'⟩ := underway_iff.mp under
  obtain ⟨v, run', ripe', under'⟩ := drain_completes idle' ripe (obliging.inside second)
  have whole : Reaches behaviour (twice m w) ⟨.outcome (.returned true), [], v⟩ :=
    second.trans ((run'.over _).trans (.trans (.single rfl) (.single rfl)))
  have tells := reachable.tells m
  have earlier := between.continues m
  have recent := queued_since_drain idle' active (earlier.tells tells) run' (underway_iff.mp under').1
  refine ⟨u, v, .executed run, .executed run', ?_, fun a inside => ?_, recent⟩
  · have told := (whole.continues m).tells tells
    rw [World.queued, Ledger.queued, List.map_append, told.active, told.pending]
    rfl
  · have gone : a ∉ v.queued m := fun still => by
      refine Nat.lt_irrefl a.number ?_
      calc a.number < (w.ledger m).next := tells.numbered a inside
        _ ≤ (u.ledger m).next := earlier.since.next
        _ ≤ a.number := recent a still
    obtain ⟨c, d, before, moved, later, here, left⟩ :=
      whole.crossing (P := fun c => a ∈ c.world.queued m) inside gone
    exact ⟨gone, c, d, before, moved, later, here, left,
      step_leaves moved ((before.continues m).tells tells) here left⟩

/-- Whether an event that a program queues for a manager is due at a point of time. -/
def State.queuesDue (m : ManagerId) (point : Timestamp) (c : State σ) : Bool :=
  match c.control with
  | .program (.call (.enqueue n e) _) => n != m || e.due.isDue point
  | _ => true

/-- The first event was left over because it was not due, the second one is pending. The listener
queues again whatever it is called with; only this is queued in the end, with events that are
dispatched last. -/
theorem leftovers_are_served_first :
    let behaviour : Behaviour Unit := fun _ e => do
      Program.ask (.enqueue 0 e)
      pure true
    let host : Program Unit Bool := do
      let m ← Program.ask (.newManager default)
      let l ← Program.ask (.newListener "listener" .custom)
      let _ ← Program.ask (.tryConnect m l ⟨7⟩)
      Program.enqueueNew m (.custom ⟨7⟩ .low (.ofMillis 5))
      let _ ← Program.ask (.execute m none)
      Program.enqueueNew m (.plain ⟨7⟩)
      Program.ask (.advance m (.ofMillis 5))
      let _ ← Program.ask (.execute m none)
      Program.ask (.execute m none)
    ∃ stack w u v, Reaches behaviour (start host ()) ⟨.execute 0 none, stack, w⟩ ∧
      (w.manager 0).queue.active.map (·.id) = [0] ∧
      (w.manager 0).queue.pending.map (·.id) = #[1] ∧
      Yields behaviour (Program.ask (.execute 0 none)) w true u ∧
      Yields behaviour (Program.ask (.execute 0 none)) u true v ∧ Served behaviour 0 w u v ∧
      (v.manager 0).queue.toList.map (·.id) = [0, 1] := by
  intro behaviour host
  have ran : (after behaviour 13 (start host ())).any (State.atExecute fun m budget w => m == 0 &&
      budget == none && !(w.manager 0).queue.draining &&
      (w.manager 0).queue.active.map (·.id) == [0] &&
      (w.manager 0).queue.pending.map (·.id) == #[1] && (w.manager 0).clock.isManual &&
      ((w.manager 0).queue.toList.all fun e => e.due.isDue (w.readClock 0).1) &&
      (after behaviour 33 (twice 0 w)).any (State.hasReturned true) &&
      ((List.range 34).all fun k =>
        (after behaviour k (twice 0 w)).all (State.queuesDue 0 (w.readClock 0).1)) &&
      comesTo behaviour 2 ((Program.ask (.execute 0 none)).bind fun _ => Program.ask (.execute 0 none))
        w (fun _ v => (v.manager 0).queue.toList.map (·.id) == [0, 1])) = true := by cbv
  obtain ⟨c, run, told⟩ := (Option.any_eq_true ..).mp ran
  obtain ⟨m, budget, stack, w, rfl, checked⟩ := atExecute_sound told
  simp only [Bool.and_eq_true, beq_iff_eq, Bool.not_eq_true', List.all_eq_true] at checked
  obtain ⟨⟨⟨⟨⟨⟨⟨⟨⟨rfl, rfl⟩, idle⟩, active⟩, pending⟩, manual⟩, due⟩, ends⟩, queues⟩, served⟩ := checked
  obtain ⟨d, ended, returned⟩ := (Option.any_eq_true ..).mp ends
  obtain ⟨_, rfl⟩ := hasReturned_iff.mp returned
  have obliging : Obliging behaviour 0 (w.readClock 0).1 (twice 0 w) := by
    refine ⟨fun l e _ v _ => call_returns ⟨true, _, 2, rfl⟩, fun e next above v there => ?_⟩
    have checked := there.checked ended (List.all_eq_true.mpr queues)
    simpa [State.queuesDue] using checked
  obtain ⟨u, v, first, second, serves⟩ := due_events_are_served ⟨host, (), 13, run⟩ idle
    (Clock.monotonic_of_isManual manual) due obliging
  obtain ⟨_, _, comes, left⟩ := Yields.checked served
  cases comes.unique (first.bind second)
  exact ⟨stack, w, u, _, ⟨13, run⟩, active, pending, first, second, serves, beq_iff_eq.mp left⟩

end Machine
end EventEngine
