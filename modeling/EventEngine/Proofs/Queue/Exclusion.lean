import EventEngine.Proofs.Queue.Batch
import EventEngine.Proofs.Dispatch.Walk

/-! Drains of one manager exclude each other. The mark of its queue tells exactly whether one is
under way; another one that is asked for meanwhile is refused and changes nothing. A listener's
panic ends the drain with its mark, takes one event with it and leaves the rest of the batch to
the next drain. -/
namespace EventEngine

/-- What is active at the end of a run was active all the time, behind what was handed over, or
it is what is left of the pending buffer that was made active last. -/
theorem Stock.Run.batch {m : ManagerId} {s last : Stock} {hs : List Happening}
    (run : Run m s hs last) (left : last.active ≠ []) :
    ((∀ other, .swapped m other ∉ hs) ∧ History.delivered m hs ++ last.active = s.active) ∨
    ∃ before middle since, Run m s before middle ∧
      hs = before ++ .swapped m (middle.pending.mergeSort deliversBefore) :: since ∧
      (∀ other, .swapped m other ∉ since) ∧
      History.delivered m since ++ last.active = middle.pending.mergeSort deliversBefore := by
  induction run with
  | nil => exact .inl ⟨fun _ => List.not_mem_nil, rfl⟩
  | @cons s h next hs last step rest ih =>
    rcases ih left with ⟨unswapped, active⟩ | ⟨before, middle, since, first, rfl, later⟩
    · have go (other : ∀ batch, h ≠ .swapped m batch)
          (active : h.delivering m ++ next.active = s.active) :
          (∀ other, .swapped m other ∉ h :: hs) ∧
            History.delivered m (h :: hs) ++ last.active = s.active := by
        refine ⟨fun batch inside => ?_, ?_⟩
        · rcases List.mem_cons.mp inside with same | behind
          · exact other batch same.symm
          · exact unswapped batch behind
        · rw [← active, ← ‹_ = next.active›, ← List.append_assoc]
          rfl
      cases step with
      | quiet still =>
        refine .inl (go (fun batch same => ?_) ?_)
        · rw [same] at still
          simp [Happening.moves] at still
        · rw [(Happening.quiet_moves_nothing still).2.1]
          rfl
      | queued | dequeued =>
        refine .inl (go (fun batch same => ?_) rfl)
        cases same
      | dropped => exact (left (List.append_eq_nil_iff.mp active).2).elim
      | swapped => exact .inr ⟨[], s, hs, .nil, rfl, unswapped, active⟩
      | handedOver front =>
        refine .inl (go (fun batch same => ?_) ?_)
        · cases same
        · rw [front]
          simp only [Happening.delivering, if_true, List.singleton_append]
    · exact .inr ⟨h :: before, middle, since, .cons step first, rfl, later⟩

namespace World

variable {σ : Type}

/-- These events are what drains have left of the batch that was made active last: of the events
that were pending then, in the order of delivery. -/
def BatchLeft (m : ManagerId) (left : List EventRef) (w : World σ) : Prop :=
  ∃ before s since, Stock.Run m .empty before s ∧
    w.journal.toList = before ++ .swapped m (s.pending.mergeSort deliversBefore) :: since ∧
    (∀ other, .swapped m other ∉ since) ∧
    History.delivered m since ++ left = s.pending.mergeSort deliversBefore

end World

namespace Machine

open World

variable {σ : Type} {behaviour : Behaviour σ} {c d : State σ} {m : ManagerId}

/-- What is active at a moment of a run is left of the last batch. -/
theorem Reachable.batchLeft {left : List EventRef} (reachable : Reachable behaviour c)
    (active : (c.world.manager m).queue.active = left) (some : left ≠ []) :
    c.world.BatchLeft m left := by
  have last : (c.world.stock m).active = left := active
  rcases (reachable.queueRun m).batch (last ▸ some) with
    ⟨_, nothing⟩ | ⟨before, s, since, first, history, unswapped, parts⟩
  · exact (some (last ▸ (List.append_eq_nil_iff.mp nothing).2)).elim
  · exact ⟨before, s, since, first, history, unswapped, last ▸ parts⟩

/-- The queue of a manager is marked while one drain of it is under way, and there is no other. -/
def Marked (m : ManagerId) (c : State σ) : Prop :=
  c.drains m = if (c.world.manager m).queue.draining then 1 else 0

theorem Marked.step (marked : Marked m c) (moved : step behaviour c = some d) : Marked m d := by
  unfold Marked at marked ⊢
  cases step_draws moved m with
  | rests drains kept =>
    have draining : (d.world.manager m).queue.draining = _ := congrArg Prod.snd kept
    rw [drains, draining]
    exact marked
  | clears _ drains cleared =>
    have draining : (d.world.manager m).queue.draining = _ := congrArg Prod.snd cleared
    rw [drains, draining]
    exact marked
  | begins _ idle drains begun =>
    have draining : (d.world.manager m).queue.draining = true := congrArg Prod.snd begun
    rw [idle] at marked
    rw [drains, draining, marked]
    rfl
  | takes _ drains _ taken =>
    have draining : (d.world.manager m).queue.draining = _ := congrArg Prod.snd taken
    rw [drains, draining]
    exact marked
  | ends drains ended =>
    have draining : (d.world.manager m).queue.draining = false := congrArg Prod.snd ended
    rw [draining]
    split at marked
    · exact Nat.succ.inj (drains.symm.trans marked)
    · omega

theorem Reachable.marked (reachable : Reachable behaviour c) (m : ManagerId) : Marked m c := by
  obtain ⟨p, memory, run⟩ := reachable
  refine run.invariant (fun _ _ => Marked.step) ?_
  simp only [Marked, start, World.manager, World.initial, Store.get_empty]
  rfl

/-- A drain is under way on a manager at most once, its queue is marked exactly then, and a
drain that is asked for meanwhile is refused: it changes nothing but the journal. -/
structure Exclusive (behaviour : Behaviour σ) (m : ManagerId) (c : State σ) : Prop where
  once : c.drains m ≤ 1
  marked : (c.world.manager m).queue.draining = true ↔ c.drains m = 1
  refused : ∀ budget stack w, c = ⟨.execute m budget, stack, w⟩ → c.drains m = 1 →
    step behaviour c = some ⟨.outcome (.returned false), stack, w.note (.drainRefused m)⟩

theorem Marked.exclusive (marked : Marked m c) : Exclusive behaviour m c := by
  have draining : (c.world.manager m).queue.draining = true ↔ c.drains m = 1 := by
    rw [marked]
    cases (c.world.manager m).queue.draining <;> decide
  refine ⟨?_, draining, ?_⟩
  · rw [marked]
    split <;> decide
  · rintro budget stack w rfl one
    have refuses : w.beginDrain m = _ := beginDrain_refused (draining.mpr one)
    simp only [Machine.step, refuses]

/-! ### After a panic -/

/-- While a drain waits beneath, what is active stays or is cleared. -/
theorem Reaches.batchOrNothing (run : Reaches behaviour c d) (apart : c.drains m = 0)
    (draining : (c.world.manager m).queue.draining = true) :
    KeepsBatch m c.world d.world ∨ d.world.underway m = ([], true) := by
  have still : d.drains m = 0 ∧ (d.world.manager m).queue.draining = true ∧
      (KeepsBatch m c.world d.world ∨ d.world.underway m = ([], true)) := by
    refine run.invariant (P := fun d => d.drains m = 0 ∧
      (d.world.manager m).queue.draining = true ∧
      (KeepsBatch m c.world d.world ∨ d.world.underway m = ([], true))) ?_ ⟨apart, draining, .inl rfl⟩
    rintro x y ⟨none, mark, before⟩ moved
    cases step_draws moved m with
    | rests drains kept =>
      exact ⟨drains.trans none, (congrArg Prod.snd kept).trans mark,
        before.imp (fun first => first.trans kept) fun cleared => Eq.trans kept cleared⟩
    | clears _ drains cleared =>
      rw [mark] at cleared
      exact ⟨drains.trans none, congrArg Prod.snd cleared, .inr cleared⟩
    | begins _ idle =>
      rw [mark] at idle
      cases idle
    | takes inside => omega
    | ends drains => omega
  exact still.2.2

/-- Whatever happens until then, the next drain of a manager is not refused and goes on with these
events, unless the queue is cleared before: it dispatches the first of them in its first turn if
that is due and time is left. -/
def ResumesWith (behaviour : Behaviour σ) (m : ManagerId) (first : EventRef)
    (behind : List EventRef) (c : State σ) : Prop :=
  ∀ k budget stack w, after behaviour k c = some ⟨.execute m budget, stack, w⟩ →
    (∀ j < k, ∀ x, after behaviour j c = some x →
      (∀ budget, x.control ≠ .execute m budget) ∧
        ∀ next, x.control ≠ .program (.call (.clearQueue m) next)) →
    let started := ((w.takeUp m).readClock m).1
    let v := ((w.takeUp m).readClock m).2
    step behaviour ⟨.execute m budget, stack, w⟩ =
        some ⟨.drain m budget started (behind.length + 1 + 1) 0, stack, v⟩ ∧
      v.underway m = (first :: behind, true) ∧
      (overBudget budget started (v.readClock m).1 = false →
        first.due.isDue (v.readClock m).1 = true →
        step behaviour ⟨.drain m budget started (behind.length + 1 + 1) 0, stack, v⟩ =
          some ⟨.dispatch m first, .drain m budget started (behind.length + 1) 0 :: stack,
            v.takeFront m first behind⟩)

theorem resumes_of_left {first : EventRef} {behind : List EventRef} (apart : c.drains m = 0)
    (left : c.world.underway m = (first :: behind, false)) :
    ResumesWith behaviour m first behind c := by
  intro k budget stack w here between
  obtain ⟨_, kept⟩ := after_keepsBatch here apart
    (fun j early x budget there asked => ((between j early x there).1 budget asked).elim)
    (fun j early x next there => (between j early x there).2 next)
  have found : w.underway m = (first :: behind, false) := Eq.trans kept left
  obtain ⟨active, idle⟩ := underway_iff.mp found
  have begun := beginDrain_takeUp idle (active ▸ List.cons_ne_nil first behind)
  rw [active, List.length_cons] at begun
  have underway : ((w.takeUp m).readClock m).2.underway m = (first :: behind, true) := by
    rw [readClock_keepsBatch m]
    simp only [World.underway, takeUp, manager_note, manager_modifyManager, if_true, active]
  have front := (underway_iff.mp underway).1
  refine ⟨by simp only [step, begun], underway, fun within due => ?_⟩
  simp only [step, takeDue_front within front due]

/-- A drain has ended because of a panic in the dispatch of an event, with these events behind it.
The mark of the queue is gone, and of the batch that the drain was working through just this event
is gone too: what followed it is still active, and the next drain goes on with it, unless somebody
cleared the queue. -/
structure Recovers (behaviour : Behaviour σ) (m : ManagerId) (e : EventRef) (v : World σ)
    (rest : List EventRef) (d : State σ) : Prop where
  unmarked : (d.world.manager m).queue.draining = false
  active : (d.world.manager m).queue.active = rest ∨ (d.world.manager m).queue.active = []
  resumes : (∀ x next, Reaches behaviour ⟨.dispatch m e, [], v⟩ x →
      x.control ≠ .program (.call (.clearQueue m) next)) →
    (d.world.manager m).queue.active = rest ∧
      ∀ first behind, rest = first :: behind → ResumesWith behaviour m first behind d

theorem recovers_from_panic {budget : Option Duration} {started : Timestamp} {turns delivered : Nat}
    {stack : List (Waiting σ)} {w v u : World σ} {e : EventRef} {message : String}
    (reachable : Reachable behaviour ⟨.drain m budget started (turns + 1) delivered, stack, w⟩)
    (taken : w.takeDue m budget started delivered = (some e, v))
    (panics : Reaches behaviour ⟨.dispatch m e, [], v⟩ ⟨.outcome (.panicked message), [], u⟩) :
    let d : State σ := ⟨.outcome (.panicked message), stack, u.unwindDrain m⟩
    Reaches behaviour ⟨.drain m budget started (turns + 1) delivered, stack, w⟩ d ∧
      ∃ rest, (w.manager m).queue.active = e :: rest ∧ w.BatchLeft m (e :: rest) ∧
        Recovers behaviour m e v rest d := by
  intro d
  have moved : step behaviour ⟨.drain m budget started (turns + 1) delivered, stack, w⟩ =
      some ⟨.dispatch m e, .drain m budget started turns delivered :: stack, v⟩ := by
    simp only [step, taken]
  obtain ⟨rest, front, handed⟩ := takeDue_some (congrArg Prod.fst taken)
  obtain rfl : v = w.takeFront m e rest := (congrArg Prod.snd taken).symm.trans handed
  have exclusive : Exclusive behaviour m _ := (reachable.marked m).exclusive
  have once : 1 + stackDrains m stack ≤ 1 := by
    simpa only [State.drains, Control.drains, if_true] using exclusive.once
  have marked : (w.manager m).queue.draining = true := by
    refine exclusive.marked.mpr ?_
    simp only [State.drains, Control.drains, if_true]
    omega
  have handed := takeFront_underway (w := w) (m := m) e rest
  rw [marked] at handed
  generalize w.takeFront m e rest = x at moved taken panics handed ⊢
  have draining := (underway_iff.mp handed).2
  have whole : Reaches behaviour ⟨.drain m budget started (turns + 1) delivered, stack, w⟩ d :=
    (Reaches.single moved).trans ((panics.over _).trans (.single rfl))
  have apart : d.drains m = 0 := by
    simp only [d, State.drains, Control.drains]
    omega
  have unwound : (u.unwindDrain m).underway m = ((u.manager m).queue.active, false) :=
    endDrain_underway
  obtain ⟨active, unmarked⟩ := underway_iff.mp unwound
  refine ⟨whole, rest, front, reachable.batchLeft front (List.cons_ne_nil e rest), unmarked, ?_,
    fun keeps => ?_⟩
  · rw [active]
    exact (panics.batchOrNothing rfl draining).imp
      (fun kept => (underway_iff.mp (Eq.trans kept handed)).1)
      (fun cleared => (underway_iff.mp cleared).1)
  · have kept : KeepsBatch m x u := panics.keepsBatch rfl draining keeps
    have left := (underway_iff.mp (Eq.trans kept handed)).1
    refine ⟨active.trans left, fun first behind parts => resumes_of_left apart ?_⟩
    rw [unwound, left, parts]

/-- Drains of a manager exclude each other at every moment of every run, and a panic of a listener
in the middle of one loses no other event than the one that was being dispatched. -/
theorem drains_exclude_each_other (reachable : Reachable behaviour c) (m : ManagerId) :
    Exclusive behaviour m c ∧
      ∀ budget started turns delivered stack w e v message u,
        c = ⟨.drain m budget started (turns + 1) delivered, stack, w⟩ →
        w.takeDue m budget started delivered = (some e, v) →
        Reaches behaviour ⟨.dispatch m e, [], v⟩ ⟨.outcome (.panicked message), [], u⟩ →
        Reaches behaviour c ⟨.outcome (.panicked message), stack, u.unwindDrain m⟩ ∧
          ∃ rest, (w.manager m).queue.active = e :: rest ∧ w.BatchLeft m (e :: rest) ∧
            Recovers behaviour m e v rest
              ⟨.outcome (.panicked message), stack, u.unwindDrain m⟩ := by
  refine ⟨(reachable.marked m).exclusive, ?_⟩
  rintro budget started turns delivered stack w e v message u rfl taken panics
  exact recovers_from_panic reachable taken panics

/-- What can be computed where a host comes to a turn of a drain that takes an event. -/
def State.atTurn (check : ManagerId → EventRef → World σ → World σ → Bool) (c : State σ) : Bool :=
  match c.control with
  | .drain m budget started (_ + 1) delivered =>
    match c.world.takeDue m budget started delivered with
    | (some e, v) => check m e c.world v
    | _ => false
  | _ => false

theorem atTurn_sound {check : ManagerId → EventRef → World σ → World σ → Bool}
    (checked : c.atTurn check = true) :
    ∃ m budget started turns delivered stack w e v,
      c = ⟨.drain m budget started (turns + 1) delivered, stack, w⟩ ∧
      w.takeDue m budget started delivered = (some e, v) ∧ check m e w v = true := by
  obtain ⟨control, stack, w⟩ := c
  cases control with
  | drain m budget started turns delivered =>
    cases turns with
    | zero => cases checked
    | succ turns =>
      simp only [State.atTurn] at checked
      split at checked
      · rename_i e v taken
        exact ⟨m, budget, started, turns, delivered, stack, w, e, v, rfl, taken, checked⟩
      · cases checked
  | _ => cases checked

/-- Three events are queued. The listener of the first two asks for a drain itself and is refused,
and panics at the second one. The host goes on and drains again: the third event is delivered. -/
theorem drain_resumed_after_panic :
    let behaviour : Behaviour Unit := fun _ e => do
      let _ ← Program.ask (.execute 0 none)
      if e.id = 1 then .panic "lost" else pure true
    let host : Program Unit Bool := do
      let m ← Program.ask (.newManager default)
      let l ← Program.ask (.newListener "listener" .custom)
      let _ ← Program.ask (.tryConnect m l ⟨7⟩)
      Program.enqueueNew m (.plain ⟨7⟩)
      Program.enqueueNew m (.plain ⟨7⟩)
      Program.enqueueNew m (.plain ⟨7⟩)
      let _ ← (Program.ask (.execute m none)).attempt
      Program.ask (.execute m none)
    (∃ budget stack w,
      after behaviour 26 (start host ()) = some ⟨.execute 0 budget, stack, w⟩ ∧
      State.drains 0 ⟨.execute 0 budget, stack, w⟩ = 1 ∧
      step behaviour ⟨.execute 0 budget, stack, w⟩ =
        some ⟨.outcome (.returned false), stack, w.note (.drainRefused 0)⟩) ∧
    ∃ budget started turns delivered stack w e v u rest x,
      after behaviour 21 (start host ()) =
        some ⟨.drain 0 budget started (turns + 1) delivered, stack, w⟩ ∧
      w.takeDue 0 budget started delivered = (some e, v) ∧
      Reaches behaviour ⟨.dispatch 0 e, [], v⟩ ⟨.outcome (.panicked "lost"), [], u⟩ ∧
      (w.manager 0).queue.active = e :: rest ∧ e.id = 1 ∧ rest.map (·.id) = [2] ∧
      Recovers behaviour 0 e v rest ⟨.outcome (.panicked "lost"), stack, u.unwindDrain 0⟩ ∧
      after behaviour 35 (start host ()) = some x ∧
      (History.delivered 0 x.world.journal.toList).map (·.id) = [0, 1, 2] := by
  intro behaviour host
  have nested : (after behaviour 26 (start host ())).any
      (fun c => c.drains 0 == 1 && c.atExecute fun m _ _ => m == 0) = true := by cbv
  have panics : (after behaviour 21 (start host ())).any (State.atTurn fun m e w v => m == 0 &&
      e.id == 1 && (w.manager m).queue.active.map (·.id) == [1, 2] &&
      (after behaviour 8 ⟨.dispatch m e, [], v⟩).any (State.hasPanicked "lost")) = true := by cbv
  have resumed : (after behaviour 35 (start host ())).any
      (fun x => (History.delivered 0 x.world.journal.toList).map (·.id) == [0, 1, 2]) = true := by
    cbv
  obtain ⟨c, run, told⟩ := (Option.any_eq_true ..).mp nested
  simp only [Bool.and_eq_true, beq_iff_eq] at told
  obtain ⟨m, budget, stack, w, rfl, here⟩ := atExecute_sound told.2
  cases beq_iff_eq.mp here
  have refused := (drains_exclude_each_other ⟨host, (), 26, run⟩ 0).1.refused budget stack w rfl told.1
  refine ⟨⟨budget, stack, w, run, told.1, refused⟩, ?_⟩
  obtain ⟨_, turn, told⟩ := (Option.any_eq_true ..).mp panics
  obtain ⟨m, budget, started, turns, delivered, stack, w, e, v, rfl, taken, checked⟩ :=
    atTurn_sound told
  simp only [Bool.and_eq_true, beq_iff_eq] at checked
  obtain ⟨⟨⟨rfl, number⟩, numbers⟩, ended⟩ := checked
  obtain ⟨_, last, panicked⟩ := (Option.any_eq_true ..).mp ended
  obtain ⟨u, rfl⟩ := hasPanicked_iff.mp panicked
  obtain ⟨x, later, delivers⟩ := (Option.any_eq_true ..).mp resumed
  obtain ⟨_, rest, active, _, recovers⟩ := (drains_exclude_each_other ⟨host, (), 21, turn⟩ 0).2
    budget started turns delivered stack w e v _ u rfl taken ⟨8, last⟩
  rw [active, List.map_cons] at numbers
  exact ⟨budget, started, turns, delivered, stack, w, e, v, u, rest, x, turn, taken, ⟨8, last⟩,
    active, number, (List.cons.inj numbers).2, recovers, later, beq_iff_eq.mp delivers⟩

end Machine
end EventEngine
