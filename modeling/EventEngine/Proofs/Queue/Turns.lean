import EventEngine.Proofs.Machine.Calls
import EventEngine.Proofs.Queue.Exclusion

/-! When a drain stops. Each of its turns reads the clock once and hands over the front of the active
buffer, if time is left and the front is due; the first turn that does not is the last. -/
namespace EventEngine

/-- The time since the first reading does not exceed the budget, if there is one. -/
def InTime (budget : Option Duration) (started reading : Timestamp) : Prop :=
  ∀ limit, budget = some limit →
    reading.sinceOrigin.toNanos ≤ started.sinceOrigin.toNanos + limit.toNanos

/-- What a turn with this reading finds is an event to hand over. -/
structure HandsOver (budget : Option Duration) (started reading : Timestamp)
    (active : List EventRef) (e : EventRef) : Prop where
  inTime : InTime budget started reading
  front : active.head? = some e
  due : e.dueNanos ≤ reading.sinceOrigin.toNanos

namespace World

variable {σ : Type} {w : World σ} {m : ManagerId} {budget : Option Duration}
  {started reading : Timestamp} {delivered : Nat} {e : EventRef}

theorem overBudget_eq_false_iff :
    overBudget budget started reading = false ↔ InTime budget started reading := by
  cases budget with
  | none => exact ⟨fun _ => nofun, fun _ => rfl⟩
  | some limit =>
    have passed : (reading.since started).toNanos =
        reading.sinceOrigin.toNanos - started.sinceOrigin.toNanos :=
      Duration.toNanos_saturatingSub ..
    simp only [overBudget, decide_eq_false_iff_not, Duration.lt_iff, passed, InTime,
      Option.some.injEq, forall_eq']
    omega

/-- A drain that is not refused reads the clock once before its first turn. -/
theorem beginDrain_reads (idle : (w.manager m).queue.draining = false) :
    ∃ v, w.beginDrain m =
        (some ((w.readClock m).1, (w.manager m).queue.batch.length + 1), v) ∧
      v.underway m = ((w.manager m).queue.batch, true) := by
  obtain ⟨started, v, begins, batch⟩ := beginDrain_batch idle
  have read : started = (w.readClock m).1 := by
    by_cases drained : (w.manager m).queue.active = []
    · rw [beginDrain_swapIn idle drained] at begins
      simp only [Prod.mk.injEq, Option.some.injEq] at begins
      rw [← begins.1.1]
      simp only [swapIn, readClock, Manager.readClock, manager_note, manager_modifyManager, if_true]
    · rw [beginDrain_takeUp idle drained] at begins
      simp only [Prod.mk.injEq, Option.some.injEq] at begins
      rw [← begins.1.1]
      simp only [takeUp, readClock, Manager.readClock, manager_note, manager_modifyManager, if_true]
  exact ⟨v, read ▸ begins, batch⟩

/-- A turn takes an event exactly if there is one to hand over. -/
theorem takeDue_eq_some_iff : (w.takeDue m budget started delivered).1 = some e ↔
    HandsOver budget started (w.readClock m).1 (w.manager m).queue.active e := by
  cases exceeded : overBudget budget started (w.readClock m).1 with
  | true =>
    rw [takeDue_exhausted exceeded]
    constructor
    · intro taken
      cases taken
    · intro hands
      rw [overBudget_eq_false_iff.mpr hands.inTime] at exceeded
      cases exceeded
  | false =>
    have inTime := overBudget_eq_false_iff.mp exceeded
    cases active : (w.manager m).queue.active with
    | nil =>
      rw [takeDue_blocked exceeded (by simp only [Queue.popDue, active])]
      constructor
      · intro taken
        cases taken
      · intro hands
        cases hands.front
    | cons first rest =>
      cases due : first.due.isDue (w.readClock m).1 with
      | false =>
        rw [takeDue_blocked exceeded
          (by simp only [Queue.popDue, active, due, Bool.false_eq_true, if_false])]
        constructor
        · intro taken
          cases taken
        · intro hands
          cases hands.front
          rw [isDue_iff.mpr hands.due] at due
          cases due
      | true =>
        rw [takeDue_front exceeded active due]
        constructor
        · intro same
          cases same
          exact ⟨inTime, rfl, isDue_iff.mp due⟩
        · exact HandsOver.front

end World

namespace Machine

open World

variable {σ : Type} {behaviour : Behaviour σ} {c d : State σ} {m n : ManagerId}

/-- A drain that was begun in a world comes to one of its turns: so many are left, so many events
were delivered, and this is the world before the clock is read. -/
inductive TurnAfter (behaviour : Behaviour σ) (m : ManagerId) (budget : Option Duration)
    (started : Timestamp) (turns₀ : Nat) (v₀ : World σ) : Nat → Nat → World σ → Prop
  | first : TurnAfter behaviour m budget started turns₀ v₀ turns₀ 0 v₀
  | next (before : TurnAfter behaviour m budget started turns₀ v₀ (turns + 1) delivered v)
    (taken : v.takeDue m budget started delivered = (some e, x))
    (returns : Reaches behaviour ⟨.dispatch m e, [], x⟩ ⟨.outcome (.returned consumed), [], u⟩) :
    TurnAfter behaviour m budget started turns₀ v₀ turns (delivered + 1) u

/-- Where a drain can be: at a turn, in the dispatch of one, or ended by its last turn or by a
panic in a dispatch. -/
inductive Draining (behaviour : Behaviour σ) (m : ManagerId) (budget : Option Duration)
    (started : Timestamp) (turns₀ : Nat) (v₀ : World σ) : State σ → Prop
  | turn (here : TurnAfter behaviour m budget started turns₀ v₀ turns delivered v) :
    Draining behaviour m budget started turns₀ v₀ ⟨.drain m budget started turns delivered, [], v⟩
  | dispatching (turn : TurnAfter behaviour m budget started turns₀ v₀ (turns + 1) delivered v)
    (taken : v.takeDue m budget started delivered = (some e, x))
    (inside : Reaches behaviour ⟨.dispatch m e, [], x⟩ y) :
    Draining behaviour m budget started turns₀ v₀ (y.over [.drain m budget started turns delivered])
  | returned (turn : TurnAfter behaviour m budget started turns₀ v₀ turns delivered v)
    (moved : step behaviour ⟨.drain m budget started turns delivered, [], v⟩ =
      some ⟨.outcome (.returned drained), [], u⟩) :
    Draining behaviour m budget started turns₀ v₀ ⟨.outcome (.returned drained), [], u⟩
  | panicked (turn : TurnAfter behaviour m budget started turns₀ v₀ (turns + 1) delivered v)
    (taken : v.takeDue m budget started delivered = (some e, x))
    (panics : Reaches behaviour ⟨.dispatch m e, [], x⟩ ⟨.outcome (.panicked message), [], u⟩) :
    Draining behaviour m budget started turns₀ v₀ ⟨.outcome (.panicked message), [], u.unwindDrain m⟩

/-! ### Turns that are left -/

def Waiting.turns (m : ManagerId) : Waiting σ → List Nat
  | .drain n _ _ turns _ => if n = m then [turns] else []
  | _ => []

def Control.turns (m : ManagerId) : Control σ → List Nat
  | .drain n _ _ turns _ => if n = m then [turns] else []
  | _ => []

/-- How many turns each of the drains of a manager that are under way has left. -/
def State.turns (m : ManagerId) (c : State σ) : List Nat :=
  c.control.turns m ++ c.stack.flatMap (·.turns m)

theorem length_turns (m : ManagerId) (c : State σ) : (c.turns m).length = c.drains m := by
  obtain ⟨control, stack, w⟩ := c
  have waiting (top : Waiting σ) : (top.turns m).length = top.drains m := by
    cases top with
    | drain n =>
      simp only [Waiting.turns, Waiting.drains]
      split <;> rfl
    | _ => rfl
  have here : (control.turns m).length = control.drains m := by
    cases control with
    | drain n =>
      simp only [Control.turns, Control.drains]
      split <;> rfl
    | _ => rfl
  simp only [State.turns, State.drains, stackDrains, List.length_append, List.length_flatMap, here,
    waiting]

/-- Every drain of a manager under way has more turns left than there are active events, so it is
never for want of turns that one ends. -/
def Spared (m : ManagerId) (c : State σ) : Prop :=
  ∀ turns ∈ c.turns m, (c.world.manager m).queue.active.length < turns

/-- Unless a drain begins, what is active is at most what was. -/
theorem Draws.suffix (draws : Draws m c d)
    (refused : ∀ budget, c.control = .execute m budget →
      (c.world.manager m).queue.draining = true) :
    (d.world.manager m).queue.active <:+ (c.world.manager m).queue.active := by
  cases draws with
  | rests _ kept =>
    have same : (d.world.manager m).queue.active = _ := congrArg Prod.fst kept
    exact same ▸ List.suffix_rfl
  | clears _ _ cleared =>
    rw [(underway_iff.mp cleared).1]
    exact List.nil_suffix
  | begins asked idle =>
    rw [refused _ asked] at idle
    cases idle
  | takes _ _ front taken =>
    rw [front, (underway_iff.mp taken).1]
    exact List.suffix_cons ..
  | ends _ ended =>
    rw [(underway_iff.mp ended).1]

theorem Spared.fewer (spared : Spared m c)
    (active : (d.world.manager m).queue.active <:+ (c.world.manager m).queue.active)
    (left : d.turns m ⊆ c.turns m) : Spared m d :=
  fun turns inside => Nat.lt_of_le_of_lt active.length_le (spared turns (left inside))

variable {stack : List (Waiting σ)} {w : World σ} {budget : Option Duration} {started : Timestamp}
  {turns delivered : Nat}

/-- A drain begins with a turn more than there are events in its batch, where no other drain of the
manager is under way. -/
theorem begin_spared (marked : Marked m ⟨.execute n budget, stack, w⟩)
    (spared : Spared m ⟨.execute n budget, stack, w⟩)
    (begun : (w.beginDrain n).1 = some (started, turns)) :
    Spared m ⟨.drain n budget started turns 0, stack, (w.beginDrain n).2⟩ := by
  by_cases same : n = m
  · subst same
    cases draining : (w.manager n).queue.draining with
    | true =>
      rw [beginDrain_refused draining] at begun
      cases begun
    | false =>
      have nothing : State.turns n ⟨.execute n budget, stack, w⟩ = [] := by
        apply List.eq_nil_of_length_eq_zero
        rw [length_turns, marked, draining]
        rfl
      obtain ⟨_, w', begins, batch⟩ := beginDrain_batch draining
      rw [begins] at begun ⊢
      cases begun
      intro turns inside
      have only : turns = (w.manager n).queue.batch.length + 1 := by
        simp only [State.turns, Control.turns, List.nil_append] at nothing
        simpa only [State.turns, Control.turns, if_true, nothing, List.append_nil,
          List.mem_singleton] using inside
      rw [only, (underway_iff.mp batch).1]
      exact Nat.lt_succ_self _
  · refine spared.fewer ?_ ?_
    · rw [(underway_iff.mp (beginDrain_elsewhere same)).1]
    · simp [State.turns, Control.turns, same]

/-- A turn is used up with the event that is taken in it. -/
theorem take_spared {e : EventRef}
    (spared : Spared m ⟨.drain n budget started (turns + 1) delivered, stack, w⟩)
    (taken : (w.takeDue n budget started delivered).1 = some e) :
    Spared m ⟨.dispatch n e, .drain n budget started turns delivered :: stack,
      (w.takeDue n budget started delivered).2⟩ := by
  by_cases same : n = m
  · subst same
    obtain ⟨rest, front, handed⟩ := takeDue_some taken
    rw [handed]
    have enough : ∀ left ∈ State.turns n ⟨.drain n budget started (turns + 1) delivered, stack, w⟩,
        rest.length + 1 < left := by
      intro left inside
      simpa only [front, List.length_cons] using spared left inside
    simp only [State.turns, Control.turns, if_true, List.singleton_append, List.mem_cons] at enough
    intro left inside
    simp only [State.turns, Control.turns, List.nil_append, List.flatMap_cons, Waiting.turns,
      if_true, List.singleton_append, List.mem_cons] at inside
    rw [(underway_iff.mp (takeFront_underway e rest)).1]
    rcases inside with rfl | beneath
    · exact Nat.lt_of_succ_lt_succ (enough _ (.inl rfl))
    · exact Nat.lt_of_succ_lt (enough _ (.inr beneath))
  · refine spared.fewer ?_ ?_
    · rw [(underway_iff.mp (takeDue_elsewhere budget started delivered same)).1]
    · simp [State.turns, Control.turns, Waiting.turns, same]

theorem Spared.step (spared : Spared m c) (marked : Marked m c)
    (moved : step behaviour c = some d) : Spared m d := by
  cases step_moves moved with
  | begins begun => exact begin_spared marked spared begun
  | takes taken => exact take_spared spared taken
  | refuses refused =>
    refine spared.fewer ?_ (List.Subset.refl _)
    rw [(underway_iff.mp (beginDrain_keepsBatch_of_refused refused)).1]
  | _ =>
    refine spared.fewer ((step_draws moved m).suffix ?_) ?_
    · intro budget asked
      cases asked
    · simp [State.turns, Control.turns, Waiting.turns, endTurns]

/-! ### From turn to turn -/

variable {turns₀ : Nat} {v₀ v u : World σ}

theorem Draining.step (draining : Draining behaviour m budget started turns₀ v₀ c)
    (moved : step behaviour c = some d) : Draining behaviour m budget started turns₀ v₀ d := by
  cases draining with
  | @turn turns delivered v here =>
    cases turns with
    | zero =>
      have ended := moved
      cases moved
      exact .returned here ended
    | succ turns =>
      have ended := moved
      simp only [Machine.step] at moved
      split at moved
      case h_1 =>
        cases moved
        exact .returned here ended
      case h_2 taken =>
        cases moved
        exact .dispatching here taken (.refl _)
  | @dispatching turns delivered v e x y turn taken inside =>
    cases within : Machine.step behaviour y with
    | some z =>
      cases (step_over within _).symm.trans moved
      exact .dispatching turn taken (inside.trans (.single within))
    | none =>
      obtain ⟨o, u, rfl⟩ := ended_of_stuck within
      cases moved
      cases o with
      | returned consumed => exact .turn (.next turn taken inside)
      | panicked message => exact .panicked turn taken inside
  | returned | panicked => cases moved

/-- A drain is nowhere else. -/
theorem Reaches.draining
    (run : Reaches behaviour ⟨.drain m budget started turns₀ 0, [], v₀⟩ d) :
    Draining behaviour m budget started turns₀ v₀ d :=
  run.invariant (fun _ _ => Draining.step) (.turn .first)

theorem Draining.atTurn
    (draining : Draining behaviour m budget started turns₀ v₀
      ⟨.drain m budget started turns delivered, [], v⟩) :
    TurnAfter behaviour m budget started turns₀ v₀ turns delivered v := by
  generalize here : (⟨.drain m budget started turns delivered, [], v⟩ : State σ) = d at draining
  cases draining with
  | turn turn =>
    cases here
    exact turn
  | dispatching => exact (List.append_ne_nil_of_right_ne_nil _ (List.cons_ne_nil _ _)
      (congrArg State.stack here).symm).elim
  | returned | panicked => cases here

/-- A drain that has ended did so at a turn or by a panic in a dispatch. -/
theorem Draining.atEnd {o : Outcome Bool}
    (draining : Draining behaviour m budget started turns₀ v₀ ⟨.outcome o, [], u⟩) :
    ∃ turns delivered v, TurnAfter behaviour m budget started turns₀ v₀ turns delivered v ∧
      (Machine.step behaviour ⟨.drain m budget started turns delivered, [], v⟩ =
          some ⟨.outcome o, [], u⟩ ∧ (∃ drained, o = .returned drained) ∨
        ∃ left e x y message,
          Machine.step behaviour ⟨.drain m budget started turns delivered, [], v⟩ =
            some ⟨.dispatch m e, [.drain m budget started left delivered], x⟩ ∧
          Reaches behaviour ⟨.dispatch m e, [], x⟩ ⟨.outcome o, [], y⟩ ∧ o = .panicked message) := by
  generalize here : (⟨.outcome o, [], u⟩ : State σ) = d at draining
  cases draining with
  | turn => cases here
  | dispatching => exact (List.append_ne_nil_of_right_ne_nil _ (List.cons_ne_nil _ _)
      (congrArg State.stack here).symm).elim
  | @returned turns delivered v drained _ turn moved =>
    cases here
    exact ⟨turns, delivered, v, turn, .inl ⟨moved, drained, rfl⟩⟩
  | @panicked turns delivered v e x message y turn taken panics =>
    cases here
    refine ⟨turns + 1, delivered, v, turn, .inr ⟨turns, e, x, y, message, ?_, panics, rfl⟩⟩
    simp only [Machine.step, taken]

namespace TurnAfter

theorem reaches (turn : TurnAfter behaviour m budget started turns₀ v₀ turns delivered v) :
    Reaches behaviour ⟨.drain m budget started turns₀ 0, [], v₀⟩
      ⟨.drain m budget started turns delivered, [], v⟩ := by
  induction turn with
  | first => exact .refl _
  | @next turns delivered v e x consumed u _ taken returns ih =>
    have moved : step behaviour ⟨.drain m budget started (turns + 1) delivered, [], v⟩ =
        some ⟨.dispatch m e, [.drain m budget started turns delivered], x⟩ := by
      simp only [step, taken]
    exact ih.trans ((Reaches.single moved).trans ((returns.over _).trans (.single rfl)))

theorem total (turn : TurnAfter behaviour m budget started turns₀ v₀ turns delivered v) :
    turns + delivered = turns₀ := by
  induction turn with
  | first => rfl
  | next _ _ _ ih => omega

/-- There is one turn after so many deliveries. -/
theorem unique {turns' : Nat}
    (one : TurnAfter behaviour m budget started turns₀ v₀ turns delivered v)
    (other : TurnAfter behaviour m budget started turns₀ v₀ turns' delivered u) : v = u := by
  induction one generalizing turns' u with
  | first =>
    cases other with
    | first => rfl
  | next before taken returns ih =>
    cases other with
    | next before' taken' returns' =>
      cases ih before'
      cases taken.symm.trans taken'
      exact (returns.outcome_unique returns').2

/-- Every turn before hands an event over. -/
theorem earlier {i : Nat} (turn : TurnAfter behaviour m budget started turns₀ v₀ turns delivered v)
    (early : i < delivered) : ∃ left x e y,
      TurnAfter behaviour m budget started turns₀ v₀ (left + 1) i x ∧
        x.takeDue m budget started i = (some e, y) := by
  induction turn with
  | first => cases early
  | @next turns delivered v e x consumed u before taken returns ih =>
    rcases Nat.lt_succ_iff_lt_or_eq.mp early with sooner | rfl
    · exact ih sooner
    · exact ⟨turns, v, e, x, before, taken⟩

end TurnAfter

/-! ### When a drain stops -/

/-- A turn of a drain: it dispatches the event that there is to hand over, or it is the last one and
tells whether nothing active is left. -/
structure Decides (behaviour : Behaviour σ) (m : ManagerId) (budget : Option Duration)
    (started : Timestamp) (turns delivered : Nat) (v : World σ) : Prop where
  handsOver : ∀ e, HandsOver budget started (v.readClock m).1 (v.manager m).queue.active e ↔
    ∃ left u, step behaviour ⟨.drain m budget started turns delivered, [], v⟩ =
      some ⟨.dispatch m e, [.drain m budget started left delivered], u⟩
  stops : (∀ e, ¬ HandsOver budget started (v.readClock m).1 (v.manager m).queue.active e) →
    ∃ u, step behaviour ⟨.drain m budget started turns delivered, [], v⟩ =
        some ⟨.outcome (.returned (v.manager m).queue.active.isEmpty), [], u⟩ ∧
      (u.manager m).queue.active = (v.manager m).queue.active

/-- A drain tells whether nothing active is left when it ends. -/
theorem endTurns_eq (m : ManagerId) (delivered : Nat) (w : World σ) (stack : List (Waiting σ)) :
    endTurns stack m delivered w =
      ⟨.outcome (.returned (w.manager m).queue.active.isEmpty), stack, (w.finishDrain m delivered).2⟩ :=
  rfl

/-- With a turn to spare, nothing but the clock and the active buffer decides. -/
theorem decides_of_spared {turns delivered : Nat} (behaviour : Behaviour σ)
    (enough : (v.manager m).queue.active.length < turns) :
    Decides behaviour m budget started turns delivered v := by
  cases turns with
  | zero => cases enough
  | succ turns =>
    cases taken : (v.takeDue m budget started delivered).1 with
    | none =>
      have moved : step behaviour ⟨.drain m budget started (turns + 1) delivered, [], v⟩ =
          some (endTurns [] m delivered (v.takeDue m budget started delivered).2) :=
        (Moves.stops taken).step
      have nothing (e : EventRef) :
          ¬ HandsOver budget started (v.readClock m).1 (v.manager m).queue.active e := by
        intro hands
        have taken' : (v.takeDue m budget started delivered).1 = some e :=
          takeDue_eq_some_iff.mpr hands
        cases taken.symm.trans taken'
      have kept : (v.takeDue m budget started delivered).2.underway m = v.underway m :=
        takeDue_keepsBatch_of_none taken
      have active : ((v.takeDue m budget started delivered).2.manager m).queue.active =
          (v.manager m).queue.active := congrArg Prod.fst kept
      rw [endTurns_eq, active] at moved
      refine ⟨fun e => ⟨fun hands => (nothing e hands).elim, ?_⟩, fun _ => ⟨_, moved, ?_⟩⟩
      · rintro ⟨left, u, hands⟩
        cases moved.symm.trans hands
      · exact (underway_iff.mp (finishDrain_underway delivered)).1.trans active
    | some first =>
      have moved : step behaviour ⟨.drain m budget started (turns + 1) delivered, [], v⟩ =
          some ⟨.dispatch m first, [.drain m budget started turns delivered],
            (v.takeDue m budget started delivered).2⟩ := (Moves.takes taken).step
      have hands := takeDue_eq_some_iff.mp taken
      refine ⟨fun e => ⟨fun hands' => ?_, ?_⟩, fun nothing => (nothing first hands).elim⟩
      · cases hands.front.symm.trans hands'.front
        exact ⟨_, _, moved⟩
      · rintro ⟨left, u, dispatches⟩
        cases moved.symm.trans dispatches
        exact hands

/-- A drain of a manager that begins in a world comes to a turn with so many left, after so many
deliveries, in this world. -/
def AtTurn (behaviour : Behaviour σ) (m : ManagerId) (budget : Option Duration) (w : World σ)
    (turns delivered : Nat) (v : World σ) : Prop :=
  Reaches behaviour ⟨.execute m budget, [], w⟩
    ⟨.drain m budget (w.readClock m).1 turns delivered, [], v⟩

/-- A drain of a manager that begins in this world, with nothing beneath it, stops exactly when it
should, whatever the listeners do. -/
structure StopsExactly (behaviour : Behaviour σ) (m : ManagerId) (budget : Option Duration)
    (w : World σ) : Prop where
  /-- After the first reading comes the first turn. If its reading is the same and the front is due,
  it hands that over. -/
  begins : ∃ turns v, step behaviour ⟨.execute m budget, [], w⟩ =
      some ⟨.drain m budget (w.readClock m).1 turns 0, [], v⟩ ∧
    v.underway m = ((w.manager m).queue.batch, true) ∧
    ∀ e, (w.manager m).queue.batch.head? = some e → e.due.isDue (w.readClock m).1 = true →
      (v.readClock m).1 = (w.readClock m).1 →
      HandsOver budget (w.readClock m).1 (v.readClock m).1 (v.manager m).queue.active e
  turn : ∀ turns i v, AtTurn behaviour m budget w turns i v →
    Decides behaviour m budget (w.readClock m).1 turns i v
  /-- After a turn that hands an event over comes the next one, if the dispatch returns. -/
  goesOn : ∀ turns i v left e x consumed y, AtTurn behaviour m budget w turns i v →
    step behaviour ⟨.drain m budget (w.readClock m).1 turns i, [], v⟩ =
      some ⟨.dispatch m e, [.drain m budget (w.readClock m).1 left i], x⟩ →
    Reaches behaviour ⟨.dispatch m e, [], x⟩ ⟨.outcome (.returned consumed), [], y⟩ →
    AtTurn behaviour m budget w left (i + 1) y
  /-- A drain that returns does so from a turn that has nothing to hand over. -/
  returned : ∀ drained u, Reaches behaviour ⟨.execute m budget, [], w⟩
      ⟨.outcome (.returned drained), [], u⟩ →
    ∃ turns i v, AtTurn behaviour m budget w turns i v ∧
      (∀ e, ¬ HandsOver budget (w.readClock m).1 (v.readClock m).1 (v.manager m).queue.active e) ∧
      drained = (v.manager m).queue.active.isEmpty ∧
      (u.manager m).queue.active = (v.manager m).queue.active
  /-- A drain that panics does so from a dispatch. -/
  panicked : ∀ message u, Reaches behaviour ⟨.execute m budget, [], w⟩
      ⟨.outcome (.panicked message), [], u⟩ →
    ∃ turns i v left e x y, AtTurn behaviour m budget w turns i v ∧
      step behaviour ⟨.drain m budget (w.readClock m).1 turns i, [], v⟩ =
        some ⟨.dispatch m e, [.drain m budget (w.readClock m).1 left i], x⟩ ∧
      Reaches behaviour ⟨.dispatch m e, [], x⟩ ⟨.outcome (.panicked message), [], y⟩
  /-- The first turn beyond the budget is the last, so at most one dispatch takes too long. -/
  overruns : ∀ turns i v turns' j v', AtTurn behaviour m budget w turns i v →
    ¬ InTime budget (w.readClock m).1 (v.readClock m).1 →
    AtTurn behaviour m budget w turns' j v' → j ≤ i
  /-- Without a budget only an event that is not due yet is a reason to leave something. -/
  waits : budget = none → ∀ u, Reaches behaviour ⟨.execute m budget, [], w⟩
      ⟨.outcome (.returned false), [], u⟩ →
    ∃ turns i v e, AtTurn behaviour m budget w turns i v ∧
      (u.manager m).queue.active.head? = some e ∧ (v.readClock m).1 < e.due

variable {w : World σ}

theorem spared_of_idle (budget : Option Duration) (idle : (w.manager m).queue.draining = false) :
    Marked m ⟨.execute m budget, [], w⟩ ∧ Spared m ⟨.execute m budget, [], w⟩ := by
  refine ⟨?_, nofun⟩
  rw [Marked, idle]
  rfl

theorem Reaches.spared (run : Reaches behaviour c d) (marked : Marked m c) (spared : Spared m c) :
    Marked m d ∧ Spared m d :=
  run.invariant (P := fun d => Marked m d ∧ Spared m d)
    (fun _ _ both moved => ⟨both.1.step moved, both.2.step both.1 moved⟩) ⟨marked, spared⟩

/-- A drain comes to every turn with one to spare. -/
theorem AtTurn.spared {turns delivered : Nat}
    (run : AtTurn behaviour m budget w turns delivered v)
    (idle : (w.manager m).queue.draining = false) :
    (v.manager m).queue.active.length < turns := by
  obtain ⟨marked, spared⟩ := spared_of_idle budget idle
  refine (Reaches.spared run marked spared).2 turns ?_
  simp [State.turns, Control.turns]

theorem execute_draining
    (moved : step behaviour ⟨.execute m budget, [], w⟩ =
      some ⟨.drain m budget started turns₀ 0, [], v₀⟩)
    (run : Reaches behaviour ⟨.execute m budget, [], w⟩ d)
    (later : d.control ≠ .execute m budget) :
    Draining behaviour m budget started turns₀ v₀ d := by
  rcases run.eq_or_later moved with rfl | run
  · exact (later rfl).elim
  · exact run.draining

theorem AtTurn.turnAfter {turns delivered : Nat}
    (run : AtTurn behaviour m budget w turns delivered v)
    (moved : step behaviour ⟨.execute m budget, [], w⟩ =
      some ⟨.drain m budget (w.readClock m).1 turns₀ 0, [], v₀⟩) :
    TurnAfter behaviour m budget (w.readClock m).1 turns₀ v₀ turns delivered v :=
  (execute_draining moved run nofun).atTurn

theorem TurnAfter.atTurn {turns delivered : Nat}
    (turn : TurnAfter behaviour m budget (w.readClock m).1 turns₀ v₀ turns delivered v)
    (moved : step behaviour ⟨.execute m budget, [], w⟩ =
      some ⟨.drain m budget (w.readClock m).1 turns₀ 0, [], v₀⟩) :
    AtTurn behaviour m budget w turns delivered v :=
  (Reaches.single moved).trans turn.reaches

/-- A turn that ends a drain had nothing to hand over. -/
theorem Decides.last {turns delivered : Nat} {drained : Bool}
    (decides : Decides behaviour m budget started turns delivered v)
    (last : step behaviour ⟨.drain m budget started turns delivered, [], v⟩ =
      some ⟨.outcome (.returned drained), [], u⟩) :
    (∀ e, ¬ HandsOver budget started (v.readClock m).1 (v.manager m).queue.active e) ∧
      drained = (v.manager m).queue.active.isEmpty ∧
      (u.manager m).queue.active = (v.manager m).queue.active := by
  have nothing (e : EventRef) :
      ¬ HandsOver budget started (v.readClock m).1 (v.manager m).queue.active e := by
    intro hands
    obtain ⟨left, x, handed⟩ := (decides.handsOver e).mp hands
    cases last.symm.trans handed
  obtain ⟨u', stops, active⟩ := decides.stops nothing
  cases last.symm.trans stops
  exact ⟨nothing, rfl, active⟩

/-- A drain that is not refused comes to its first turn with the whole batch. -/
theorem execute_begins (behaviour : Behaviour σ) (idle : (w.manager m).queue.draining = false)
    (budget : Option Duration) : ∃ v,
      step behaviour ⟨.execute m budget, [], w⟩ = some ⟨.drain m budget (w.readClock m).1
        ((w.manager m).queue.batch.length + 1) 0, [], v⟩ ∧
      v.underway m = ((w.manager m).queue.batch, true) := by
  obtain ⟨v, begins, batch⟩ := beginDrain_reads idle
  exact ⟨v, by simp only [step, begins], batch⟩

/-- A drain that returns does so from a turn that has nothing to hand over. -/
theorem execute_returned {drained : Bool} (idle : (w.manager m).queue.draining = false)
    (run : Reaches behaviour ⟨.execute m budget, [], w⟩ ⟨.outcome (.returned drained), [], u⟩) :
    ∃ turns i v, AtTurn behaviour m budget w turns i v ∧
      (∀ e, ¬ HandsOver budget (w.readClock m).1 (v.readClock m).1 (v.manager m).queue.active e) ∧
      drained = (v.manager m).queue.active.isEmpty ∧
      (u.manager m).queue.active = (v.manager m).queue.active := by
  obtain ⟨v₀, moved, _⟩ := execute_begins behaviour idle budget
  obtain ⟨turns, i, v, turn, ⟨last, _⟩ | ⟨_, _, _, _, _, _, _, same⟩⟩ :=
    (execute_draining moved run nofun).atEnd
  · have here := turn.atTurn moved
    exact ⟨turns, i, v, here, (decides_of_spared behaviour (here.spared idle)).last last⟩
  · cases same

/-- For every budget, and whatever the listeners and the clock do. -/
theorem drain_stops_exactly (idle : (w.manager m).queue.draining = false)
    (budget : Option Duration) : StopsExactly behaviour m budget w := by
  obtain ⟨v₀, moved, batch⟩ := execute_begins behaviour idle budget
  refine ⟨⟨_, v₀, moved, batch, ?_⟩, fun turns i v run => ?_, ?_,
    fun drained u run => execute_returned idle run, ?_, ?_, ?_⟩
  · intro e front due same
    rw [(underway_iff.mp batch).1, same]
    exact ⟨fun limit _ => Nat.le_add_right .., front, isDue_iff.mp due⟩
  · exact decides_of_spared behaviour (run.spared idle)
  · intro turns i v left e x consumed y run hands returns
    exact run.trans ((Reaches.single hands).trans ((returns.over _).trans (.single rfl)))
  · intro message u run
    obtain ⟨turns, i, v, turn, ⟨_, _, same⟩ | ⟨left, e, x, y, _, hands, panics, _⟩⟩ :=
      (execute_draining moved run nofun).atEnd
    · cases same
    · exact ⟨turns, i, v, left, e, x, y, turn.atTurn moved, hands, panics⟩
  · intro turns i v turns' j v' run late run'
    refine Nat.le_of_not_lt fun early => ?_
    obtain ⟨left, x, e, y, before, taken⟩ := (run'.turnAfter moved).earlier early
    cases (run.turnAfter moved).unique before
    exact late (takeDue_eq_some_iff.mp (congrArg Prod.fst taken)).inTime
  · rintro rfl u run
    obtain ⟨turns, i, v, turn, nothing, drained, active⟩ := execute_returned idle run
    rw [active]
    cases left : (v.manager m).queue.active with
    | nil =>
      rw [left] at drained
      cases drained
    | cons e rest =>
      refine ⟨turns, i, v, e, turn, rfl, ?_⟩
      have early : ¬ e.dueNanos ≤ (v.readClock m).1.sinceOrigin.toNanos := fun due =>
        nothing e ⟨nofun, by rw [left]; rfl, due⟩
      exact Duration.lt_iff.mpr (Nat.lt_of_not_le early)

/-- The clock is read at 0, 5, 6 ms, and the budget is 5 ms: the first of three events is dispatched
at the last moment, the others wait. -/
theorem drain_stops_beyond_budget :
    let behaviour : Behaviour Unit := fun _ e => do
      Program.ask (.enqueue 0 e)
      pure true
    let host : Program Unit Bool := do
      let m ← Program.ask (.newManager (.sampled (fun n => .ofMillis (#[0, 5].getD n 6)) 0))
      let l ← Program.ask (.newListener "listener" .custom)
      let _ ← Program.ask (.tryConnect m l ⟨7⟩)
      Program.enqueueNew m (.plain ⟨7⟩)
      Program.enqueueNew m (.plain ⟨7⟩)
      Program.enqueueNew m (.plain ⟨7⟩)
      Program.ask (.execute m (some (.ofMillis 5)))
    ∃ stack w u, Reaches behaviour (start host ()) ⟨.execute 0 (some (.ofMillis 5)), stack, w⟩ ∧
      (w.manager 0).queue.draining = false ∧
      StopsExactly behaviour 0 (some (.ofMillis 5)) w ∧
      Reaches behaviour ⟨.execute 0 (some (.ofMillis 5)), [], w⟩
        ⟨.outcome (.returned false), [], u⟩ ∧
      (History.delivered 0 u.journal.toList).map (·.id) = [0] ∧
      (u.manager 0).queue.active.map (·.id) = [1, 2] := by
  intro behaviour host
  have ran : (after behaviour 10 (start host ())).any (State.atExecute fun m budget w => m == 0 &&
      budget == some (.ofMillis 5) && !(w.manager 0).queue.draining &&
      (after behaviour 10 ⟨.execute 0 (some (.ofMillis 5)), [], w⟩).any fun d =>
        d.hasReturned false && (History.delivered 0 d.world.journal.toList).map (·.id) == [0] &&
          (d.world.manager 0).queue.active.map (·.id) == [1, 2]) = true := by cbv
  obtain ⟨c, run, told⟩ := (Option.any_eq_true ..).mp ran
  obtain ⟨m, budget, stack, w, rfl, checked⟩ := atExecute_sound told
  simp only [Bool.and_eq_true, beq_iff_eq, Bool.not_eq_true'] at checked
  obtain ⟨⟨⟨rfl, rfl⟩, idle⟩, ended⟩ := checked
  obtain ⟨d, last, told⟩ := (Option.any_eq_true ..).mp ended
  simp only [Bool.and_eq_true, beq_iff_eq] at told
  obtain ⟨⟨returned, delivered⟩, left⟩ := told
  obtain ⟨u, rfl⟩ := hasReturned_iff.mp returned
  exact ⟨stack, w, u, ⟨10, run⟩, idle, drain_stops_exactly idle _, ⟨10, last⟩, delivered, left⟩

end Machine
end EventEngine
