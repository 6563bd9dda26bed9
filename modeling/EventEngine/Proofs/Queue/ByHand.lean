import EventEngine.Proofs.Machine.Apart
import EventEngine.Proofs.Machine.Yields
import EventEngine.Proofs.Dispatch.Walk

/-! A drain and a host that takes all pending events out of the queue and dispatches them itself, in
their order, come to the same. Both runs are followed side by side: the queue of the drained manager
differs in its active buffer and its mark, which no listener sees. -/
namespace EventEngine

open Manager (Tally)

/-! ### The order of a batch -/

namespace Occurrence

/-- Events that were queued one after the other. -/
def numbered (events : List EventRef) : List Occurrence := events.mapIdx fun i e => ⟨i, e⟩

theorem map_numbered (events : List EventRef) : (numbered events).map (·.event) = events := by
  exact List.ext_getElem (by simp [numbered]) (by simp [numbered])

theorem numbered_ascending (events : List EventRef) :
    (numbered events).Pairwise fun a b => a.number < b.number := by
  simp [numbered, List.pairwise_iff_getElem]

end Occurrence

/-- The order of delivery of what is pending is the one in which a drain makes it active. -/
theorem DeliveryOrder.eq_mergeSort {events : List EventRef} {order : List Occurrence}
    (ordered : DeliveryOrder (Occurrence.numbered events) order) :
    order.map (·.event) = events.mergeSort deliversBefore := by
  have sorted := mergeSort_deliveryOrder (Occurrence.numbered_ascending events)
  calc order.map (·.event)
      = ((Occurrence.numbered events).mergeSort Occurrence.before).map (·.event) := by
        rw [ordered.unique sorted]
    _ = ((Occurrence.numbered events).map (·.event)).mergeSort deliversBefore :=
        List.map_mergeSort fun _ _ _ _ => rfl
    _ = events.mergeSort deliversBefore := by rw [Occurrence.map_numbered]

/-! ### Managers that differ in their batch -/

/-- Two managers that nobody can tell apart who looks neither at the active buffer nor at the mark
of the queue, nor counts the readings of the clock. -/
structure Manager.Alike (x y : Manager) : Prop where
  registry : x.registry = y.registry
  pending : x.queue.pending = y.queue.pending
  counters : x.counters = y.counters
  clock : x.clock.Alike y.clock
  holders : x.holders = y.holders

/-- The first manager drains its queue, whose events are due; the second one need not. -/
structure Manager.Drained (point : Timestamp) (x y : Manager) : Prop extends Manager.Alike x y where
  draining : x.queue.draining = true
  reaches : x.clock.Reaches point

namespace Manager.Drained

variable {point : Timestamp} {x y : Manager}

/-- What is made of registry and counters, and from these alone, is the same. -/
theorem change (drained : Drained point x y) (f : Registry → Counters → Registry × Counters) :
    Drained point
      { x with registry := (f x.registry x.counters).1, counters := (f x.registry x.counters).2 }
      { y with registry := (f y.registry y.counters).1, counters := (f y.registry y.counters).2 } :=
  ⟨⟨by rw [drained.registry, drained.counters], drained.pending,
    by rw [drained.registry, drained.counters], drained.clock, drained.holders⟩,
    drained.draining, drained.reaches⟩

theorem countUnheard (drained : Drained point x y) :
    Drained point x.countUnheard y.countUnheard :=
  drained.change fun r c => (r, { c with dispatched := c.dispatched + 1 })

theorem openFrame (drained : Drained point x y) (t : TypeId) :
    Drained point (x.openFrame t) (y.openFrame t) :=
  drained.change fun r c => ((r.beginDispatch t).2, c)

theorem pruneOne (drained : Drained point x y) (roll : Roll) (t : TypeId) (l : ListenerId) :
    Drained point (x.pruneOne roll t l) (y.pruneOne roll t l) :=
  drained.change fun r c => ((r.prune roll t l).2, c)

theorem closeFrame (drained : Drained point x y) (frame : UInt64) :
    Drained point (x.closeFrame frame) (y.closeFrame frame) :=
  drained.change fun r c => ((r.endDispatch frame).2, c)

theorem countDispatch (drained : Drained point x y) (tally : Tally) (consumed mutated : Bool) :
    Drained point (x.countDispatch tally consumed mutated) (y.countDispatch tally consumed mutated) :=
  drained.change fun r c => (r, { c with
    dispatched := c.dispatched + 1
    invocations := c.invocations + tally.invoked
    pruned := c.pruned + tally.pruned
    consumed := c.consumed + consumed.toNat
    anomalies := c.anomalies + (mutated && !consumed).toNat })

theorem conclude (drained : Drained point x y) (frame : UInt64) (consumed : Bool) (tally : Tally) :
    Drained point (x.conclude frame consumed tally) (y.conclude frame consumed tally) := by
  rw [Manager.conclude, Manager.conclude, drained.registry]
  exact (drained.closeFrame frame).countDispatch tally consumed _

theorem release (drained : Drained point x y) : Drained point x.release y.release :=
  ⟨⟨drained.registry, drained.pending, drained.counters, drained.clock,
    congrArg (· - 1) drained.holders⟩, drained.draining, drained.reaches⟩

theorem request (drained : Drained point x y) (roll : Roll) (r : Request) :
    Drained point (r.serve roll x) (r.serve roll y) := by
  obtain ⟨registry, ⟨active, pending, draining⟩, counters, clock, holders⟩ := x
  obtain ⟨registry', ⟨active', pending', draining'⟩, counters', clock', holders'⟩ := y
  obtain ⟨⟨rfl, rfl, rfl, alike, rfl⟩, rfl, reaches⟩ := drained
  cases r with
  | hold | clearListeners | pruneStale | enqueue | clearQueue =>
    exact ⟨⟨rfl, rfl, rfl, alike, rfl⟩, rfl, reaches⟩
  | connect l t =>
    simp only [Request.serve, Manager.connect]
    split <;> exact ⟨⟨rfl, rfl, rfl, alike, rfl⟩, rfl, reaches⟩
  | disconnect l t =>
    simp only [Request.serve, Manager.disconnect]
    split <;> exact ⟨⟨rfl, rfl, rfl, alike, rfl⟩, rfl, reaches⟩
  | dequeue e all => cases all <;> exact ⟨⟨rfl, rfl, rfl, alike, rfl⟩, rfl, reaches⟩
  | readClock => exact ⟨⟨rfl, rfl, rfl, alike.read, rfl⟩, rfl, reaches.read⟩
  | advance step => exact ⟨⟨rfl, rfl, rfl, alike.advance step, rfl⟩, rfl, reaches.advance step⟩
  | setClock target => exact ⟨⟨rfl, rfl, rfl, alike.set target, rfl⟩, rfl, reaches.set target⟩

/-- Nothing but a drain of the one manager or a look at its queue shows the difference. -/
theorem hidden (point : Timestamp) (roll : Roll) : Hidden roll (Drained point) where
  registry := fun drained => drained.registry
  holders := fun drained => drained.holders
  fresh := fun drained => nomatch drained.draining
  request := fun r drained => drained.request roll r
  release := fun drained => drained.release
  unheard := fun drained => drained.countUnheard
  opened := fun t drained => drained.openFrame t
  pruned := fun t l drained => drained.pruneOne roll t l
  closed := fun frame drained => drained.closeFrame frame
  concluded := fun frame consumed tally drained => drained.conclude frame consumed tally

end Manager.Drained

/-- The managers of a world in which one manager is drained, and of one in which it is not. -/
def DrainedAt (m : ManagerId) (point : Timestamp) (n : ManagerId) (x y : Manager) : Prop :=
  if n = m then x.Drained point y else x = y

theorem DrainedAt.eq_only (m : ManagerId) (point : Timestamp) :
    DrainedAt m point = Only m (Manager.Drained point) := rfl

namespace Manager

variable {x : Manager} {e : EventRef} {rest : List EventRef}

theorem takeDue_empty (drained : x.queue.active = []) (started : Timestamp) :
    x.takeDue none started = (none, x.readClock.2) := by
  simp only [takeDue, World.overBudget, Bool.false_eq_true, if_false, readClock, Queue.popDue,
    drained]

theorem takeDue_front (front : x.queue.active = e :: rest)
    (due : e.due.isDue x.clock.read.1 = true) (started : Timestamp) :
    x.takeDue none started =
      (some e, { x with clock := x.clock.read.2, queue := { x.queue with active := rest } }) := by
  simp only [takeDue, World.overBudget, Bool.false_eq_true, if_false, readClock, Queue.popDue,
    front, due, if_true]

end Manager

/-- Dispatches events one after the other. -/
def Program.dispatchAll {σ : Type} (m : ManagerId) : List EventRef → Program σ Unit
  | [] => pure ()
  | e :: rest => do
    let _ ← ask (.dispatch m e)
    dispatchAll m rest

/-- Takes everything out of the queue, and dispatches events by hand instead. -/
def Program.byHand {σ : Type} (m : ManagerId) (events : List EventRef) : Program σ Unit := do
  let _ ← ask (.clearQueue m)
  dispatchAll m events

namespace Machine

open World

variable {σ : Type} {behaviour : Behaviour σ} {c c' d : State σ} {a b : World σ} {m : ManagerId}
  {point : Timestamp} {stack stack' : List (Waiting σ)}

/-- An operation that does not drain or clear the queue of a manager, by a program that goes on as
it would if the active buffer and the mark of this queue, or the number of readings of its clock,
were others. -/
def Discreet (m : ManagerId) (w : World σ) : (op : Op) → (Outcome op.Reply → Program σ Bool) → Prop
  | .execute n _, _ => n ≠ m
  | .clearQueue n, _ => n ≠ m
  | .inspect n, next => n = m → ∀ y, (w.manager n).Alike y →
    next (.returned (w.manager n)) = next (.returned y)
  | .validate n, next => n = m → ∀ y, (w.manager n).Alike y →
    next (.returned ((w.manager n).validate w.roll)) = next (.returned (y.validate w.roll))
  | .now n, next => n = m → ∀ y, (w.manager n).Alike y →
    next (.returned (w.manager n).readClock.1) = next (.returned y.readClock.1)
  | _, _ => True

theorem Discreet.agree {op : Op} {next : Outcome op.Reply → Program σ Bool}
    {x y : op.Reply × World σ} (discreet : Discreet m a op next)
    (beside : a.Beside (DrainedAt m point) b) (left : a.carryOut op = some x)
    (right : b.carryOut op = some y) : next (.returned x.1) = next (.returned y.1) := by
  rw [DrainedAt.eq_only] at beside
  have alike : (a.manager m).Alike (b.manager m) := (beside.managers m).here.toAlike
  by_cases tells : op.Tells m
  · cases op with
    | clearQueue n => exact (discreet tells).elim
    | now n | inspect n =>
      cases left
      cases right
      cases tells
      exact discreet rfl _ alike
    | validate n =>
      cases left
      cases right
      cases tells
      rw [← beside.roll]
      exact discreet rfl _ alike
    | _ => exact tells.elim
  · exact congrArg next (congrArg _ (beside.sameReply (Manager.Drained.hidden point _) left right tells))

/-- A drain and what is done by hand go the same way from one call of a listener to the next. -/
theorem step_drained (beside : c.Beside (DrainedAt m point) Eq d) (apart : c.drains m = 0)
    (idle : ∀ budget, c.control ≠ .execute m budget)
    (discreet : ∀ op next, c.control = .program (.call op next) → Discreet m c.world op next)
    (moved : step behaviour c = some c') :
    ∃ d', step behaviour d = some d' ∧ c'.Beside (DrainedAt m point) Eq d' := by
  rw [DrainedAt.eq_only] at beside ⊢
  refine step_apart (Manager.Drained.hidden point _) beside ?_ ?_ ?_ moved
  · exact fun op next x y asks left right => (discreet op next asks).agree beside.world left right
  · exact fun budget executes => (idle budget executes).elim
  · exact fun inside => (inside apart).elim

/-- What is below a discreet run does not drain the manager. -/
theorem after_drained {k : Nat} (run : after behaviour k c = some c')
    (beside : c.Beside (DrainedAt m point) Eq d) (apart : c.drains m = 0)
    (idle : ∀ budget, c.control ≠ .execute m budget)
    (discreet : ∀ x op next, Reaches behaviour c x → x.control = .program (.call op next) →
      Discreet m x.world op next) :
    ∃ d', after behaviour k d = some d' ∧ c'.Beside (DrainedAt m point) Eq d' ∧
      c'.drains m = 0 ∧ ∀ budget, c'.control ≠ .execute m budget := by
  induction k generalizing c' with
  | zero =>
    cases run
    exact ⟨d, rfl, beside, apart, idle⟩
  | succ k ih =>
    obtain ⟨x, before, moved⟩ := Option.bind_eq_some_iff.mp (after_succ k c ▸ run)
    obtain ⟨y, there, besides, none, waits⟩ := ih before
    have asks := fun op next => discreet x op next ⟨k, before⟩
    obtain ⟨d', moves, result⟩ := step_drained besides none waits asks moved
    refine ⟨d', after_next there moves, result, ?_, fun budget executes => ?_⟩
    · cases step_draws moved m with
      | rests drains => exact drains.trans none
      | clears _ drains => exact drains.trans none
      | begins executes => exact (waits _ executes).elim
      | takes inside => omega
      | ends drains => omega
    · obtain ⟨next, asked⟩ := execute_asked moved executes
      exact asks _ next asked rfl

/-! ### The batch -/

/-- A drain without a limit on its time, begun in this world, whose listeners return and do not look
at what tells them that they are called by a drain. -/
structure Unheeded (behaviour : Behaviour σ) (m : ManagerId) (w : World σ) : Prop where
  returns : ∀ l e top below v,
    Reaches behaviour ⟨.execute m none, [], w⟩ ⟨.call l e, [top, below], v⟩ →
    ∃ consumed v', Reaches behaviour ⟨.call l e, [], v⟩ ⟨.outcome (.returned consumed), [], v'⟩
  discreet : ∀ op next above v,
    Reaches behaviour ⟨.execute m none, [], w⟩ ⟨.program (.call op next), above, v⟩ →
    Discreet m v op next

/-- Two worlds that a drain and dispatches by hand leave behind. -/
structure SameDelivery (m : ManagerId) (u v : World σ) : Prop where
  invocations : u.invocations = v.invocations
  registry : (u.manager m).registry = (v.manager m).registry
  pending : (u.manager m).queue.pending = (v.manager m).queue.pending
  counters : (u.manager m).counters = { (v.manager m).counters with
    drainsCompleted := (v.manager m).counters.drainsCompleted + 1 }
  clock : (u.manager m).clock.Alike (v.manager m).clock
  holders : (u.manager m).holders = (v.manager m).holders
  others : ∀ n ≠ m, u.manager n = v.manager n
  surroundings : u.surroundings = v.surroundings

variable {w : World σ} {base : List (Waiting σ)} {e : EventRef} {rest active : List EventRef}
  {started : Timestamp} {turns delivered : Nat}

/-- A drain that finds nothing active any more ends, and is counted. -/
theorem ends_by_hand (batch : a.underway m = ([], true)) (beside : a.Beside (DrainedAt m point) b) :
    ∃ u, step behaviour ⟨.drain m none started (turns + 1) delivered, [], a⟩ =
        some ⟨.outcome (.returned true), [], u⟩ ∧ SameDelivery m u b := by
  have drained := (underway_iff.mp batch).1
  obtain ⟨v, took, becomes⟩ := takeDue_becomes (w := a) m none started delivered
  rw [Manager.takeDue_empty drained] at took becomes
  obtain ⟨u, finished, becomes'⟩ := finishDrain_becomes (w := v) m delivered
  have found : v.manager m = (a.manager m).readClock.2 := by rw [becomes.managers, if_pos rfl]
  have all : (v.manager m).finishDrain.1 = true := by
    rw [found]
    simp only [Manager.finishDrain, Queue.finishDrain, Manager.readClock, drained, List.isEmpty_nil]
  rw [all] at finished
  have whole := becomes.trans becomes'
  rw [found] at whole
  have last : u.manager m = (a.manager m).readClock.2.finishDrain.2 :=
    (whole.managers m).trans (if_pos rfl)
  have related := beside.managers m
  rw [DrainedAt, if_pos rfl] at related
  have around : u.surroundings = b.surroundings := whole.surroundings.trans beside.surroundings
  refine ⟨u, by simp only [step, took, endTurns, finished], ?_⟩
  exact {
    invocations := congrArg Surroundings.invocations around
    registry := last ▸ related.registry
    pending := last ▸ related.pending
    counters := by
      rw [last, ← related.counters]
      simp only [Manager.finishDrain, Manager.countDrain, Manager.endDrain, Manager.readClock,
        Queue.finishDrain, drained, List.isEmpty_nil, Bool.toNat_true, Bool.not_true,
        Bool.toNat_false, Nat.add_zero]
    clock := last ▸ related.clock.read_left
    holders := last ▸ related.holders
    others := fun n other => by
      rw [whole.managers, if_neg (Ne.symm other)]
      exact Only.other (beside.managers n) other
    surroundings := around }

/-- A drain that finds an event at the front of its batch, which is due, hands it over. -/
theorem hands_over_by_hand (batch : a.underway m = (e :: rest, true))
    (beside : a.Beside (DrainedAt m point) b) (due : e.due.isDue point = true) :
    ∃ a', step behaviour ⟨.drain m none started (turns + 1) delivered, stack, a⟩ =
        some ⟨.dispatch m e, .drain m none started turns delivered :: stack, a'⟩ ∧
      a'.underway m = (rest, true) ∧ a'.Beside (DrainedAt m point) b := by
  obtain ⟨front, draining⟩ := underway_iff.mp batch
  have related := beside.managers m
  rw [DrainedAt, if_pos rfl] at related
  have dueNow := Timestamp.isDue_mono related.reaches.reading due
  obtain ⟨a', took, becomes⟩ := takeDue_becomes (w := a) m none started delivered
  rw [Manager.takeDue_front front dueNow] at took becomes
  have found := (becomes.managers m).trans (if_pos rfl)
  have still : Becomes m (b.manager m) b b := .still (beside.size ▸ made_of_draining draining)
  refine ⟨a', by simp only [step, took], underway_iff.mpr ?_, beside.becomes becomes still ?_⟩
  · rw [found]
    exact ⟨rfl, draining⟩
  · rw [DrainedAt, if_pos rfl]
    exact ⟨⟨related.registry, related.pending, related.counters, related.clock.read_left,
      related.holders⟩, draining, related.reaches.read⟩

/-- What is left of a batch is delivered by the drain as by hand. -/
theorem drains_by_hand (reachable : Reachable behaviour ⟨.execute m none, base, w⟩)
    (unheeded : Unheeded behaviour m w) (active : List EventRef)
    (due : ∀ e ∈ active, e.due.isDue point = true) (delivered : Nat) (a b : World σ)
    (run : Reaches behaviour ⟨.execute m none, [], w⟩
      ⟨.drain m none started (active.length + 1) delivered, [], a⟩)
    (batch : a.underway m = (active, true)) (beside : a.Beside (DrainedAt m point) b) :
    ∃ u v, Reaches behaviour ⟨.drain m none started (active.length + 1) delivered, [], a⟩
        ⟨.outcome (.returned true), [], u⟩ ∧
      Yields behaviour (Program.dispatchAll m active) b () v ∧ SameDelivery m u v := by
  induction active generalizing delivered a b with
  | nil =>
    obtain ⟨u, moved, same⟩ := ends_by_hand batch beside
    exact ⟨u, b, .single moved, .done () b, same⟩
  | cons e rest ih =>
    obtain ⟨a', moved, batch', beside'⟩ :=
      hands_over_by_hand batch beside (due e (List.mem_cons_self ..))
    have inside := run.trans (.single moved)
    have below : Reachable behaviour ⟨.dispatch m e,
        .drain m none started (rest.length + 1) delivered :: base, a'⟩ :=
      reachable.next (inside.over base)
    -- the dispatch, followed by itself, is a part of the drain
    have part {x : State σ} (there : Reaches behaviour ⟨.dispatch m e, [], a'⟩ x) :
        Reaches behaviour ⟨.execute m none, [], w⟩
          (x.over [.drain m none started (rest.length + 1) delivered]) :=
      inside.trans (there.over _)
    have discreet {x : State σ} (there : Reaches behaviour ⟨.dispatch m e, [], a'⟩ x) {op : Op}
        {next : Outcome op.Reply → Program σ Bool} (asks : x.control = .program (.call op next)) :
        Discreet m x.world op next := by
      obtain ⟨control, above, v⟩ := x
      cases asks
      exact unheeded.discreet op next _ v (part there)
    obtain ⟨n, consumed, u, ended, _⟩ := dispatch_walked below fun l top v called =>
      unheeded.returns l e _ _ v (part called)
    have whole : Reaches behaviour ⟨.dispatch m e, [], a'⟩ ⟨.outcome (.returned consumed), [], u⟩ :=
      ⟨n, ended⟩
    obtain ⟨⟨control, above, v⟩, ended', ⟨controls, waiting, beside''⟩, _⟩ :=
      after_drained (d := ⟨.dispatch m e, [], b⟩) ended ⟨.dispatch, .nil, beside'⟩ rfl nofun
        fun x op next there asks => discreet there asks
    cases controls
    cases waiting
    have kept : KeepsBatch m a' u := whole.keepsBatch rfl (underway_iff.mp batch').2
      fun x next there clears => discreet there clears rfl
    have turn : Reaches behaviour ⟨.drain m none started (rest.length + 1 + 1) delivered, [], a⟩
        ⟨.drain m none started (rest.length + 1) (delivered + 1), [], u⟩ :=
      (Reaches.single moved).trans ((whole.over _).trans (.single rfl))
    obtain ⟨u', v', ends, yields, same⟩ :=
      ih (fun f behind => due f (List.mem_cons_of_mem _ behind)) (delivered + 1) u v
        (run.trans turn) (Eq.trans kept batch') beside''
    exact ⟨u', v', turn.trans ends, .bind (.dispatched ⟨n, ended'⟩) yields, same⟩

/-- What is pending is made active by a drain, and dropped by a host that does it by hand. -/
theorem begins_by_hand (behaviour : Behaviour σ) (stack : List (Waiting σ)) (monotonic : (w.manager m).clock.Monotonic)
    (idle : (w.manager m).queue.draining = false) (drained : (w.manager m).queue.active = []) :
    ∃ started a b,
      step behaviour ⟨.execute m none, stack, w⟩ = some ⟨.drain m none started
        (((w.manager m).queue.pending.toList.mergeSort deliversBefore).length + 1) 0, stack, a⟩ ∧
      Yields behaviour (Program.ask (.clearQueue m)) w (w.clearQueue m).1 b ∧
      a.underway m = ((w.manager m).queue.pending.toList.mergeSort deliversBefore, true) ∧
      a.Beside (DrainedAt m (w.readClock m).1) b := by
  obtain ⟨started, a, begins, batch⟩ := beginDrain_batch idle
  obtain ⟨a', begins', becomes⟩ := beginDrain_becomes (w := w) m
  obtain rfl : a = a' := congrArg Prod.snd (begins.symm.trans begins')
  have sorted : (w.manager m).queue.batch =
      (w.manager m).queue.pending.toList.mergeSort deliversBefore := by
    simp only [Queue.batch, drained, List.isEmpty_nil, if_true]
  rw [sorted] at begins batch
  have cleared : Becomes m (w.manager m).clearQueue.2 w (w.clearQueue m).2 :=
    .note (.modify rfl) rfl
  refine ⟨started, a, (w.clearQueue m).2, by simp only [step, begins],
    .carried (.clearQueue m) rfl, batch, ?_⟩
  refine (Beside.refl w).replace becomes cleared ?_ ?_
  · simp only [Manager.beginDrain, Queue.beginDrain, idle, drained, Bool.false_eq_true, if_false,
      List.isEmpty_nil, if_true]
    rw [DrainedAt, if_pos rfl]
    exact ⟨⟨rfl, rfl, rfl, (Clock.Alike.refl _).read_left, rfl⟩, rfl, monotonic.reaches.read⟩
  · intro n other _
    rw [DrainedAt, if_neg other]

/-- A drain without a time limit, of a queue whose events are all pending and due, delivers them as
a host does that takes them out of the queue and dispatches them itself in the order of delivery. It
makes the same calls of listeners one after the other and leaves the same behind; it is just counted
as a drain that was completed. -/
theorem execute_as_by_hand {order : List Occurrence}
    (reachable : Reachable behaviour ⟨.execute m none, base, w⟩)
    (idle : (w.manager m).queue.draining = false) (drained : (w.manager m).queue.active = [])
    (monotonic : (w.manager m).clock.Monotonic)
    (due : ∀ e ∈ (w.manager m).queue.pending, e.due.isDue (w.readClock m).1 = true)
    (unheeded : Unheeded behaviour m w)
    (ordered : DeliveryOrder (Occurrence.numbered (w.manager m).queue.pending.toList) order) :
    ∃ u v, Yields behaviour (Program.ask (.execute m none)) w true u ∧
      Yields behaviour (Program.byHand m (order.map (·.event))) w () v ∧ SameDelivery m u v := by
  obtain ⟨started, a, b, begins, cleared, batch, beside⟩ :=
    begins_by_hand behaviour [] monotonic idle drained
  have dueSorted : ∀ e ∈ (w.manager m).queue.pending.toList.mergeSort deliversBefore,
      e.due.isDue (w.readClock m).1 = true := fun e inside =>
    due e (Array.mem_toList_iff.mp (List.mem_mergeSort.mp inside))
  obtain ⟨u, v, run, yields, same⟩ :=
    drains_by_hand reachable unheeded _ dueSorted 0 a b (.single begins) batch beside
  rw [ordered.eq_mergeSort]
  exact ⟨u, v, .executed ((Reaches.single begins).trans run), cleared.bind yields, same⟩

/-- Whether an operation that a program goes on with has nothing to do with the queue of a manager
but adding to it. -/
def State.minds (m : ManagerId) (c : State σ) : Bool :=
  match c.control with
  | .program (.call op _) =>
    match op with
    | .execute n _ | .clearQueue n | .inspect n | .validate n | .now n => n != m
    | _ => true
  | _ => true

theorem Discreet.of_minds {op : Op} {next : Outcome op.Reply → Program σ Bool}
    {above : List (Waiting σ)} {v : World σ}
    (minds : State.minds m ⟨.program (.call op next), above, v⟩ = true) : Discreet m v op next := by
  cases op with
  | execute n | clearQueue n => exact bne_iff_ne.mp minds
  | inspect n | validate n | now n => exact fun same => (bne_iff_ne.mp minds same).elim
  | _ => trivial

/-- The first listener connects the second one, moves the clock and queues the event again. The
event of greater priority is delivered first, to the first listener only. -/
theorem drain_as_by_hand_with_changes :
    let t : TypeId := ⟨7⟩
    let behaviour : Behaviour Unit := fun l e =>
      match l with
      | 0 => do
        let _ ← Program.ask (.tryConnect 0 1 t)
        Program.ask (.advance 0 (.ofMillis 1))
        Program.ask (.enqueue 0 e)
        pure false
      | _ => pure true
    let host : Program Unit Bool := do
      let m ← Program.ask (.newManager default)
      let first ← Program.ask (.newListener "first" .custom)
      let _ ← Program.ask (.newListener "second" .custom)
      let _ ← Program.ask (.tryConnect m first t)
      Program.enqueueNew m (.custom t .low .now)
      Program.enqueueNew m (.custom t .high .now)
      Program.ask (.execute m none)
    let low : EventRef := ⟨0, .custom t .low .now⟩
    let high : EventRef := ⟨1, .custom t .high .now⟩
    ∃ stack w u v, Reaches behaviour (start host ()) ⟨.execute 0 none, stack, w⟩ ∧
      (w.manager 0).queue.pending = #[low, high] ∧
      Yields behaviour (Program.ask (.execute 0 none)) w true u ∧
      Yields behaviour (Program.byHand 0 [high, low]) w () v ∧ SameDelivery 0 u v ∧
      u.invocations = [(0, 0, high), (0, 0, low), (0, 1, low)] := by
  intro t behaviour host low high
  have ran : (after behaviour 9 (start host ())).any (State.atExecute fun m budget w =>
      m == 0 && budget == none && (w.manager 0).queue.pending == #[low, high] &&
        !(w.manager 0).queue.draining && (w.manager 0).queue.active == [] &&
        (w.manager 0).clock.isManual && low.due.isDue (w.readClock 0).1 &&
        high.due.isDue (w.readClock 0).1 &&
        (after behaviour 27 ⟨.execute 0 none, [], w⟩).any (State.hasReturned true) &&
        ((List.range 28).all fun k =>
          (after behaviour k ⟨.execute 0 none, [], w⟩).all (State.minds 0)) &&
        comesTo behaviour 2 (Program.ask (.execute 0 none)) w (fun _ u =>
          u.invocations == [(0, 0, high), (0, 0, low), (0, 1, low)])) = true := by cbv
  obtain ⟨c, run, told⟩ := (Option.any_eq_true ..).mp ran
  obtain ⟨m, budget, stack, w, rfl, checked⟩ := atExecute_sound told
  simp only [Bool.and_eq_true, beq_iff_eq, Bool.not_eq_true'] at checked
  obtain ⟨⟨⟨⟨⟨⟨⟨⟨⟨⟨rfl, rfl⟩, pending⟩, idle⟩, drained⟩, manual⟩, dueLow⟩, dueHigh⟩, ends⟩, minds⟩,
    invoked⟩ := checked
  obtain ⟨d, ended, returned⟩ := (Option.any_eq_true ..).mp ends
  obtain ⟨_, rfl⟩ := hasReturned_iff.mp returned
  have unheeded : Unheeded behaviour 0 w := by
    refine ⟨fun l e top below v _ => call_returns ?_, fun op next above v there =>
      .of_minds (there.checked ended minds)⟩
    simp only [behaviour]
    split
    · exact ⟨false, _, 4, rfl⟩
    · exact ⟨true, _, 1, rfl⟩
  have due : ∀ e ∈ (w.manager 0).queue.pending, e.due.isDue (w.readClock 0).1 = true := by
    rw [pending]
    simpa using ⟨dueLow, dueHigh⟩
  have ordered : DeliveryOrder (Occurrence.numbered (w.manager 0).queue.pending.toList)
      [⟨1, high⟩, ⟨0, low⟩] := by
    rw [pending]
    exact ⟨.swap .., by simp [Occurrence.Precedes]; decide⟩
  obtain ⟨u, v, executes, byHand, same⟩ := execute_as_by_hand ⟨host, (), 9, run⟩ idle drained
    (Clock.monotonic_of_isManual manual) due unheeded ordered
  obtain ⟨_, u', comes, calls⟩ := Yields.checked invoked
  cases comes.unique executes
  exact ⟨stack, w, _, v, ⟨9, run⟩, pending, executes, byHand, same, beq_iff_eq.mp calls⟩

end Machine
end EventEngine
