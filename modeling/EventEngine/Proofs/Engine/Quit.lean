import EventEngine.Proofs.Engine.Tick

/-! When a quit event ends the loop. It does so in the tick whose drain works through it, unless
something ahead of it is not due or time runs out. What is left over from an earlier drain comes
before everything that is pending. -/
namespace EventEngine

namespace World

variable {σ : Type} {w : World σ} {l : ListenerId} {e : EventRef}

theorem receiveQuit_stops (kind : e.event.kind? = some .quit) :
    ((w.receiveQuit l e).2.listener l).role.Quits false := by
  obtain ⟨id, event⟩ := e
  cases event with
  | plain | custom => cases kind
  | engine event =>
    obtain ⟨payload, priority, due⟩ := event
    cases payload with
    | quit exitCode =>
      refine ⟨exitCode, ?_⟩
      simp only [receiveQuit, listener, modifyListener, Store.get_modify, if_true]
    | _ => cases kind

end World

namespace Machine

open World

variable {σ : Type} {behaviour : Behaviour σ} {g : Engine} {w v u : World σ} {q : EventRef}
  {base : List (Waiting σ)}

/-- As long as an event waits in the drain of a tick, time is left, it is due, and so is
whatever is active with it and has a greater priority. -/
def Timely (behaviour : Behaviour σ) (g : Engine) (w : World σ) (q : EventRef) : Prop :=
  ∀ started turns delivered later v,
    Reaches behaviour (ticking g w)
      ⟨.drain g.manager g.settings.executeTimeout started (turns + 1) delivered,
        [.program later], v⟩ →
    q ∈ (v.manager g.manager).queue.active →
    let reading := (v.readClock g.manager).1
    overBudget g.settings.executeTimeout started reading = false ∧
      q.due.isDue reading = true ∧
      ∀ e ∈ (v.manager g.manager).queue.active, q.priority.rank < e.priority.rank →
        e.due.isDue reading = true

/-- No listener that has its turn before the engine's own one consumes the event. -/
def LeftToEngine (behaviour : Behaviour σ) (g : Engine) (w : World σ) (q : EventRef) : Prop :=
  ∀ l frame rest tally base v v',
    Reaches behaviour (ticking g w) ⟨.call l q, .walk g.manager frame q l rest tally :: base, v⟩ →
    g.quit ∈ rest → ¬ Reaches behaviour ⟨.call l q, [], v⟩ ⟨.outcome (.returned true), [], v'⟩

/-- The engine's own listener is called with the event in the tick. -/
def Delivered (behaviour : Behaviour σ) (g : Engine) (w : World σ) (q : EventRef) : Prop :=
  ∃ base v, Reaches behaviour (ticking g w) ⟨.call g.quit q, base, v⟩

/-- The engine's own listener was called with the event, and is a stopped one. -/
def Arrived (behaviour : Behaviour σ) (g : Engine) (w : World σ) (q : EventRef) (u : World σ) :
    Prop :=
  Delivered behaviour g w q ∧ (u.listener g.quit).role.Quits false

theorem step_quit {l : ListenerId} {e : EventRef} {running : Bool} {stack : List (Waiting σ)}
    (quits : (v.listener l).role.Quits running) :
    step behaviour ⟨.call l e, stack, v⟩ =
      some ⟨.outcome (.returned (v.receiveQuit l e).1), stack, (v.receiveQuit l e).2⟩ := by
  obtain ⟨exitCode, role⟩ := quits
  simp only [step, handle, role]

/-- What has been stopped stays so to the end of a run. -/
theorem Reaches.staysStopped {c d : State σ} {l : ListenerId} (run : Reaches behaviour c d)
    (stopped : (c.world.listener l).role.Quits false) : (d.world.listener l).role.Quits false := by
  have ages : Ages c.world d.world := run.relates Ages.refl Ages.trans Acts.ages
  obtain ⟨later, quits, still⟩ := ages.roles l false stopped
  exact still rfl ▸ quits

theorem Arrived.later {control other : Control σ} {stack above : List (Waiting σ)}
    (arrived : Arrived behaviour g w q v)
    (run : Reaches behaviour ⟨control, stack, v⟩ ⟨other, above, u⟩) :
    Arrived behaviour g w q u :=
  ⟨arrived.1, run.staysStopped arrived.2⟩

/-- The dispatch of a quit event comes to the engine's own listener, which stops. -/
theorem Undisturbed.quitDispatched {n : Nat} {called : List ListenerId} {consumed : Bool}
    (tick : Undisturbed behaviour g w) (kind : q.event.kind? = some .quit)
    (left : LeftToEngine behaviour g w q)
    (during : During behaviour g w (.dispatch g.manager q) base v)
    (run : after behaviour n ⟨.dispatch g.manager q, [], v⟩ =
      some ⟨.outcome (.returned consumed), [], u⟩)
    (walked : Walked behaviour ⟨.dispatch g.manager q, [], v⟩ g.manager q 1
      ((v.registry g.manager).listed q.typeId) called consumed) :
    Arrived behaviour g w q u := by
  have type : q.typeId = Kind.quit.typeId := by
    obtain ⟨id, event⟩ := q
    cases event with
    | plain | custom => cases kind
    | engine event => exact congrArg Kind.typeId (Option.some.inj kind)
  have stays : ∀ j d, after behaviour j ⟨.dispatch g.manager q, [], v⟩ = some d →
      d.world.isAlive g.quit = true ∧ g.quit ∈ (d.world.registry g.manager).listed q.typeId := by
    rintro j ⟨control, above, x⟩ here
    have heard := tick.heard _ (during.next ⟨j, here⟩).run
    rw [type]
    exact heard
  have declined : ∀ j k rest i, Turn behaviour ⟨.dispatch g.manager q, [], v⟩ g.manager q j
      (k :: rest) → g.quit ∈ rest →
      ¬ Answers behaviour ⟨.dispatch g.manager q, [], v⟩ k q (j + 1) i true := by
    rintro j k rest i turn behind ⟨top, x, x', here, answer⟩
    obtain ⟨frame, tally, stack⟩ := turn.calls here rfl
    cases stack
    exact left _ _ _ _ _ _ _ (during.next ⟨_, here⟩).run behind ⟨i, answer⟩
  obtain ⟨j, k, answered, top, x, x', here, _⟩ :=
    walked.answers (stays 0 _ rfl).2 stays declined
  have called := (during.next ⟨j, here⟩).run
  obtain ⟨running, quits⟩ := tick.quitsLater called
  have rest := Reaches.ends run (after_next here (step_quit quits))
  exact ⟨⟨_, _, called⟩, rest.staysStopped (receiveQuit_stops kind)⟩

/-- A turn of the drain of a tick that takes an event dispatches it and comes to the next turn,
with the rest of the batch. -/
theorem Undisturbed.handsOver {started : Timestamp} {turns delivered : Nat} {e : EventRef}
    {rest : List EventRef} {budget : Option Duration} (tick : Undisturbed behaviour g w)
    (during : During behaviour g w (.drain g.manager budget started (turns + 1) delivered) base v)
    (draining : (v.manager g.manager).queue.draining = true)
    (taken : v.takeDue g.manager budget started delivered =
      (some e, v.takeFront g.manager e rest)) :
    ∃ u, Reaches behaviour ⟨.drain g.manager budget started (turns + 1) delivered, [], v⟩
        ⟨.drain g.manager budget started turns (delivered + 1), [], u⟩ ∧
      u.underway g.manager = (rest, true) ∧
      (e.event.kind? = some .quit → LeftToEngine behaviour g w e →
        Arrived behaviour g w e u) := by
  have moved : step behaviour ⟨.drain g.manager budget started (turns + 1) delivered, [], v⟩ =
      some ⟨.dispatch g.manager e, [.drain g.manager budget started turns delivered],
        v.takeFront g.manager e rest⟩ := by
    simp only [step, taken]
  have front := takeFront_underway (w := v) (m := g.manager) e rest
  rw [draining] at front
  generalize v.takeFront g.manager e rest = x at moved front
  have dispatches := during.next (.single moved)
  obtain ⟨n, consumed, u, run, walked⟩ := tick.dispatched dispatches
  have reached : Reaches behaviour ⟨.dispatch g.manager e, [], x⟩
      ⟨.outcome (.returned consumed), [], u⟩ := ⟨n, run⟩
  have kept : KeepsBatch g.manager x u := by
    refine reached.keepsBatch rfl (congrArg Prod.snd front) ?_
    rintro ⟨control, above, y⟩ next inside
    have keeps := tick.keeps _ next (dispatches.next inside).run
    exact keeps
  refine ⟨u, (Reaches.single moved).trans ((reached.over _).trans (.single rfl)), ?_, ?_⟩
  · exact Eq.trans kept front
  · exact fun kind left => tick.quitDispatched kind left dispatches run walked

/-- As long as a timely event waits, a turn takes the front of the batch. -/
theorem Timely.takes {started : Timestamp} {turns delivered : Nat}
    {later : Outcome Bool → Program σ Bool} {active : List EventRef}
    (timely : Timely behaviour g w q)
    (during : During behaviour g w
      (.drain g.manager g.settings.executeTimeout started (turns + 1) delivered) [.program later] v)
    (batch : (v.manager g.manager).queue.active = active) (waits : q ∈ active) :
    ∃ e rest, active = e :: rest ∧ v.takeDue g.manager g.settings.executeTimeout started delivered =
      (some e, v.takeFront g.manager e rest) := by
  obtain ⟨within, due, higher⟩ := timely _ _ _ _ _ during.run (batch ▸ waits)
  obtain ⟨_, reachable⟩ := during.reachable
  have sorted := reachable.active_sorted g.manager
  cases active with
  | nil => cases waits
  | cons e rest =>
    refine ⟨e, rest, rfl, takeDue_front within batch ?_⟩
    rcases List.mem_cons.mp waits with rfl | behind
    · exact due
    · have before : deliversBefore e q = true := by
        rw [batch] at sorted
        exact List.rel_of_pairwise_cons sorted behind
      exact due_of_deliversBefore before due (higher e (batch ▸ List.mem_cons_self ..))

/-- A turn either takes the front of the batch or ends the drain after the event arrived. -/
theorem Timely.turn {started : Timestamp} {turns delivered : Nat}
    {later : Outcome Bool → Program σ Bool} {active : List EventRef}
    (timely : Timely behaviour g w q)
    (during : During behaviour g w
      (.drain g.manager g.settings.executeTimeout started (turns + 1) delivered) [.program later] v)
    (batch : (v.manager g.manager).queue.active = active)
    (waits : Arrived behaviour g w q v ∨ q ∈ active) :
    (∃ x, v.takeDue g.manager g.settings.executeTimeout started delivered = (none, x) ∧
        Arrived behaviour g w q v) ∨
      ∃ e rest, active = e :: rest ∧
        v.takeDue g.manager g.settings.executeTimeout started delivered =
          (some e, v.takeFront g.manager e rest) := by
  rcases waits with arrived | inBatch
  · rcases takeDue_cases g.manager g.settings.executeTimeout started delivered v with
      taken | taken | ⟨e, rest, first, taken⟩
    · exact .inl ⟨_, taken, arrived⟩
    · exact .inl ⟨_, taken, arrived⟩
    · exact .inr ⟨e, rest, batch.symm.trans first, taken⟩
  · exact .inr (timely.takes during batch inBatch)

/-- The drain of a tick, from a turn on, ends after the quit event that waits was delivered. -/
theorem Undisturbed.drains {started : Timestamp} {later : Outcome Bool → Program σ Bool}
    (tick : Undisturbed behaviour g w) (kind : q.event.kind? = some .quit)
    (left : LeftToEngine behaviour g w q) (timely : Timely behaviour g w q)
    (turns delivered : Nat) (v : World σ) (active : List EventRef)
    (during : During behaviour g w
      (.drain g.manager g.settings.executeTimeout started turns delivered) [.program later] v)
    (batch : v.underway g.manager = (active, true))
    (waits : Arrived behaviour g w q v ∨ q ∈ active ∧ active.length < turns) :
    ∃ drained u,
      Reaches behaviour
        ⟨.drain g.manager g.settings.executeTimeout started turns delivered, [], v⟩
        ⟨.outcome (.returned drained), [], u⟩ ∧
      Arrived behaviour g w q u := by
  induction turns generalizing delivered v active with
  | zero =>
    have ended : Reaches behaviour
        ⟨.drain g.manager g.settings.executeTimeout started 0 delivered, [], v⟩
        ⟨.outcome (.returned (v.finishDrain g.manager delivered).1), [],
          (v.finishDrain g.manager delivered).2⟩ := .single rfl
    rcases waits with arrived | ⟨_, short⟩
    · exact ⟨_, _, ended, arrived.later ended⟩
    · cases short
  | succ turns ih =>
    have front : (v.manager g.manager).queue.active = active := congrArg Prod.fst batch
    rcases timely.turn during front (waits.imp id And.left) with
      ⟨x, taken, arrived⟩ | ⟨e, rest, rfl, taken⟩
    · have ended : Reaches behaviour
          ⟨.drain g.manager g.settings.executeTimeout started (turns + 1) delivered, [], v⟩
          ⟨.outcome (.returned (x.finishDrain g.manager delivered).1), [],
            (x.finishDrain g.manager delivered).2⟩ := by
        refine .single ?_
        simp only [step, taken]
        rfl
      exact ⟨_, _, ended, arrived.later ended⟩
    · obtain ⟨u, run, behind, arrives⟩ :=
        tick.handsOver during (congrArg Prod.snd batch) taken
      have goesOn : Arrived behaviour g w q u ∨ q ∈ rest ∧ rest.length < turns := by
        rcases waits with arrived | ⟨inBatch, short⟩
        · exact .inl (arrived.later run)
        · rcases List.mem_cons.mp inBatch with rfl | inRest
          · exact .inl (arrives kind left)
          · exact .inr ⟨inRest, Nat.lt_of_succ_lt_succ short⟩
      obtain ⟨drained, last, ends, arrived⟩ :=
        ih (delivered + 1) u rest (during.next run) behind goesOn
      exact ⟨drained, last, run.trans ends, arrived⟩

/-- A quit event that is made as usual is due at once and nothing has a greater priority, so
only a time limit can come before it. -/
theorem Timely.ofQuit {exitCode : Int32} (usual : q.event = .engine (.quit exitCode))
    (unlimited : g.settings.executeTimeout = none) : Timely behaviour g w q := by
  intro started turns delivered later v _ _
  rw [unlimited]
  refine ⟨rfl, ?_, fun e _ higher => ?_⟩
  · rw [isDue_iff]
    have origin : q.dueNanos = 0 := by
      rw [EventRef.dueNanos, EventRef.due, usual]
      change Duration.zero.toNanos = 0
      decide
    omega
  · have highest : q.priority.rank = 10 := by
      rw [EventRef.priority, usual]
      rfl
    have := e.priority.rank_le
    omega

/-- A quit event that is in the batch of the drain of a tick ends the loop with that tick, if
time is left, and it and what goes before it by its priority are due until its turn comes. At
the tick limit a quit event of the engine's own is pending, which is in the batch if nothing was
left over. -/
theorem quit_in_batch_ends_loop {next : Engine × Bool → Program σ Bool}
    {stack : List (Waiting σ)}
    (reachable : Reachable behaviour ⟨.program (g.turn.bind next), stack, w⟩)
    (tick : Undisturbed behaviour g w) :
    ∃ v, Asks behaviour g.turn w (.execute g.manager g.settings.executeTimeout) v ∧
      (let queue := (v.manager g.manager).queue
       ((begun g w).atLimit = true → ∃ q ∈ queue.pending, q.event = .engine (.quit 0) ∧
          (queue.active = [] → q ∈ queue.batch) ∧
          (g.settings.executeTimeout = none → Timely behaviour g w q)) ∧
       ∀ q ∈ queue.batch, q.event.kind? = some .quit → queue.draining = false →
          LeftToEngine behaviour g w q → Timely behaviour g w q →
          Delivered behaviour g w q ∧ ∃ u, Yields behaviour g.turn w (begun g w, false) u ∧
            ∀ limit, Yields behaviour (Engine.loop (limit + 1) g) w (some (begun g w)) u) := by
  obtain ⟨v, presents, limited⟩ := tick.presents reachable
  have asks := turn_asks_drain presents
  refine ⟨v, asks, fun atLimit => ?_, fun q inBatch kind idle left timely => ?_⟩
  · obtain ⟨q, pending, usual⟩ := limited atLimit
    exact ⟨q, pending, usual, Queue.mem_batch pending, Timely.ofQuit usual⟩
  · obtain ⟨later, during⟩ := During.ofAsks reachable asks
    obtain ⟨started, v', begins, batch⟩ := beginDrain_batch idle
    have moved : step behaviour ⟨.execute g.manager g.settings.executeTimeout, [], v⟩ =
        some ⟨.drain g.manager g.settings.executeTimeout started
          ((v.manager g.manager).queue.batch.length + 1) 0, [], v'⟩ := by
      simp only [step, begins]
    obtain ⟨drained, u, run, arrived, stopped⟩ := tick.drains kind left timely _ 0 v' _
      (during.next (.single moved)) batch (.inr ⟨inBatch, Nat.lt_succ_self _⟩)
    obtain ⟨u', drains⟩ := drain_yields (g := begun g w) ((Reaches.single moved).trans run) stopped
    have turns := turn_yields (.bind presents drains)
    exact ⟨arrived, u', turns, fun limit => loop_yields limit turns⟩

/-! ### Ticks that end in so many steps -/

/-- What can be computed of a moment of a tick: it is undisturbed, the engine's own listener is
not behind one that is called, and the drain begins with such a queue. -/
def fits (p : Queue → Bool) (g : Engine) (d : State σ) : Bool :=
  d.world.isAlive g.quit &&
    ((d.world.registry g.manager).listed Kind.quit.typeId).contains g.quit &&
    match d.control, d.stack with
    | .program (.call (.clearQueue m) _), _ => m != g.manager
    | .call .., .walk _ _ _ _ rest _ :: _ => !rest.contains g.quit
    | .execute m _, [_] => p (d.world.manager m).queue
    | _, _ => true

def tickFits (behaviour : Behaviour σ) (n : Nat) (p : Queue → Bool) (g : Engine) (w : World σ) :
    Bool :=
  match after behaviour n (ticking g w) with
  | some ⟨.outcome _, [], _⟩ =>
    (List.range (n + 1)).all fun k => (after behaviour k (ticking g w)).all (fits p g)
  | _ => false

theorem tickFits_sound {n : Nat} {p : Queue → Bool} {running : Bool} {exitCode : Int32}
    (checked : tickFits behaviour n p g w = true)
    (role : (w.listener g.quit).role = .quit running exitCode)
    (returns : ∀ l e v, ∃ consumed v', Reaches behaviour ⟨.program (behaviour l e), [], v⟩
      ⟨.outcome (.returned consumed), [], v'⟩) :
    Undisturbed behaviour g w ∧ (∀ q, LeftToEngine behaviour g w q) ∧
      ∀ v, Asks behaviour g.turn w (.execute g.manager g.settings.executeTimeout) v →
        p (v.manager g.manager).queue = true := by
  unfold tickFits at checked
  split at checked
  case h_2 => cases checked
  case h_1 ended =>
    have moments {d : State σ} (run : Reaches behaviour (ticking g w) d) : fits p g d = true :=
      run.checked ended checked
    refine ⟨⟨⟨running, exitCode, role⟩, ?_, ?_, ?_⟩, ?_, ?_⟩
    · intro d run
      have moment := moments run
      simp only [fits, Bool.and_eq_true, List.contains_iff_mem] at moment
      exact moment.1
    · intro l e stack v _
      exact call_returns (returns l e v)
    · intro d next run clears
      have moment := moments run
      simp [fits, clears] at moment
    · intro q l frame rest tally base v v' called behind _
      have moment := moments called
      simp [fits, behind] at moment
    · intro v asks
      obtain ⟨later, run⟩ := asks (fun result => .done result.2) []
      have moment := moments run
      simp only [fits, Bool.and_eq_true] at moment
      exact moment.2

/-- At its tick limit an engine quits although an event of lower priority is not due. -/
theorem quit_at_tick_limit_ends_loop :
    let behaviour : Behaviour Unit := fun _ _ => .done false
    let host : Program Unit Engine := do
      let m ← Program.ask (.newManager default)
      let g ← Engine.create m { maxTicks := 1 }
      Program.enqueueNew m (.custom ⟨7⟩ .low (.ofMillis 5))
      pure g
    ∃ g w u, Yields behaviour host (World.initial ()) g w ∧ g.settings.maxTicks = 1 ∧
      Undisturbed behaviour g w ∧ Yields behaviour (Engine.loop 2 g) w (some (begun g w)) u := by
  intro behaviour host
  have ran : comesTo behaviour 1 host (World.initial ()) (fun g w =>
      tickFits behaviour 34 (fun queue => queue.active.isEmpty && !queue.draining) g w &&
        ((w.listener g.quit).role == .quit true 0 && (begun g w).atLimit) &&
        (g.settings.maxTicks == 1 && g.settings.executeTimeout == none)) = true := by cbv
  obtain ⟨g, w, yields, told⟩ := Yields.checked ran
  simp only [Bool.and_eq_true, beq_iff_eq] at told
  obtain ⟨⟨checked, role, atLimit⟩, limit, unlimited⟩ := told
  obtain ⟨tick, left, begins⟩ := tickFits_sound checked role fun l e v => ⟨false, v, .single rfl⟩
  have reachable := yields.reachable fun g => g.turn.bind fun result => .done result.2
  obtain ⟨v, asks, own, ends⟩ := quit_in_batch_ends_loop reachable tick
  obtain ⟨q, _, usual, inBatch, timely⟩ := own atLimit
  have queue := begins v asks
  simp only [Bool.and_eq_true, List.isEmpty_iff, Bool.not_eq_true'] at queue
  obtain ⟨_, u, _, loops⟩ :=
    ends q (inBatch queue.1) (by rw [usual]; rfl) queue.2 (left q) (timely unlimited)
  exact ⟨g, w, u, yields, limit, tick, loops 1⟩

/-- What an earlier drain left over is not due, so the quit of the tick limit waits and the loop
goes on. -/
theorem leftovers_hold_quit_back :
    let behaviour : Behaviour Unit := fun _ _ => .done false
    let host : Program Unit Engine := do
      let m ← Program.ask (.newManager default)
      Program.enqueueNew m (.custom ⟨7⟩ .low (.ofMillis 5))
      let _ ← Program.ask (.execute m none)
      Engine.create m { maxTicks := 1 }
    ∃ g w v u u' q, Yields behaviour host (World.initial ()) g w ∧ g.settings.maxTicks = 1 ∧
      Undisturbed behaviour g w ∧ LeftToEngine behaviour g w q ∧
      Asks behaviour g.turn w (.execute g.manager g.settings.executeTimeout) v ∧
      (v.manager g.manager).queue.draining = false ∧
      q ∈ (v.manager g.manager).queue.pending ∧ q.event = .engine (.quit 0) ∧
      Yields behaviour g.turn w (begun g w, true) u ∧
      Yields behaviour (Engine.loop 2 g) w none u' := by
  intro behaviour host
  have ran : comesTo behaviour 1 host (World.initial ()) (fun g w =>
      tickFits behaviour 28 (fun queue => !queue.draining) g w &&
        ((w.listener g.quit).role == .quit true 0 && (begun g w).atLimit) &&
        (g.settings.maxTicks == 1 &&
          comesTo behaviour 1 g.turn w (fun result _ => result == (begun g w, true)) &&
          comesTo behaviour 1 (Engine.loop 2 g) w fun result _ => result == none)) = true := by cbv
  obtain ⟨g, w, yields, told⟩ := Yields.checked ran
  simp only [Bool.and_eq_true, beq_iff_eq] at told
  obtain ⟨⟨checked, role, atLimit⟩, ⟨limit, turned⟩, looped⟩ := told
  obtain ⟨tick, left, begins⟩ := tickFits_sound checked role fun l e v => ⟨false, v, .single rfl⟩
  obtain ⟨result, u, turns, goesOn⟩ := Yields.checked turned
  obtain ⟨last, u', loops, enough⟩ := Yields.checked looped
  cases beq_iff_eq.mp goesOn
  cases beq_iff_eq.mp enough
  have reachable := yields.reachable fun g => g.turn.bind fun result => .done result.2
  obtain ⟨v, presents, own⟩ := tick.presents reachable
  obtain ⟨q, pending, usual⟩ := own atLimit
  have asks := turn_asks_drain presents
  have idle : (v.manager g.manager).queue.draining = false := by simpa using begins v asks
  exact ⟨g, w, v, u, u', q, yields, limit, tick, left q, asks, idle, pending, usual, turns, loops⟩

end Machine
end EventEngine
