import EventEngine.Engine
import EventEngine.Proofs.Dispatch.Walk
import EventEngine.Proofs.Machine.Yields
import EventEngine.Proofs.Queue.Batch

/-! A tick of an engine, part by part. If the listeners return, the tick comes to its drain. -/
namespace EventEngine.Machine

open World

variable {σ : Type} {behaviour : Behaviour σ} {g : Engine} {w v : World σ}

/-- A tick that is followed by itself. -/
def ticking (g : Engine) (w : World σ) : State σ :=
  ⟨.program (g.turn.bind fun result => .done result.2), [], w⟩

/-- The engine from the beginning of a tick on. -/
def begun (g : Engine) (w : World σ) : Engine := g.begin (w.readClock g.manager).1

/-- What a tick relies on: its quit listener is one, lives and stays connected, all listeners
return, and nobody clears the queue. -/
structure Undisturbed (behaviour : Behaviour σ) (g : Engine) (w : World σ) : Prop where
  quits : ∃ running, (w.listener g.quit).role.Quits running
  heard : ∀ d, Reaches behaviour (ticking g w) d → d.world.isAlive g.quit = true ∧
    g.quit ∈ (d.world.registry g.manager).listed Kind.quit.typeId
  returns : ∀ l e stack v, Reaches behaviour (ticking g w) ⟨.call l e, stack, v⟩ →
    ∃ consumed v', Reaches behaviour ⟨.call l e, [], v⟩ ⟨.outcome (.returned consumed), [], v'⟩
  keeps : ∀ d next, Reaches behaviour (ticking g w) d →
    d.control ≠ .program (.call (.clearQueue g.manager) next)

/-- A moment of a tick, with what waits in the tick itself. -/
structure During (behaviour : Behaviour σ) (g : Engine) (w : World σ) (control : Control σ)
    (base : List (Waiting σ)) (v : World σ) : Prop where
  run : Reaches behaviour (ticking g w) ⟨control, base, v⟩
  reachable : ∃ stack, Reachable behaviour ⟨control, stack, v⟩

variable {base : List (Waiting σ)} {control : Control σ}

theorem During.ofAsks {next : Engine × Bool → Program σ Bool} {stack : List (Waiting σ)}
    (reachable : Reachable behaviour ⟨.program (g.turn.bind next), stack, w⟩)
    (asks : Asks behaviour g.turn w control v) :
    ∃ later, During behaviour g w control [.program later] v := by
  obtain ⟨later, run⟩ := asks (fun result => .done result.2) []
  obtain ⟨_, inside⟩ := asks next stack
  exact ⟨later, run, _, reachable.next inside⟩

theorem During.next {other : Control σ} {above : List (Waiting σ)} {v' : World σ}
    (during : During behaviour g w control base v)
    (run : Reaches behaviour ⟨control, [], v⟩ ⟨other, above, v'⟩) :
    During behaviour g w other (above ++ base) v' := by
  obtain ⟨stack, reachable⟩ := during.reachable
  exact ⟨during.run.trans (run.over base), _, reachable.next (run.over stack)⟩

/-- The engine's quit listener goes on being one. -/
theorem Undisturbed.quitsLater {d : State σ} (tick : Undisturbed behaviour g w)
    (run : Reaches behaviour (ticking g w) d) :
    ∃ running, (d.world.listener g.quit).role.Quits running := by
  obtain ⟨running, quits⟩ := tick.quits
  have ages : Ages w d.world := run.relates Ages.refl Ages.trans Acts.ages
  obtain ⟨later, quitsLater, _⟩ := ages.roles g.quit running quits
  exact ⟨later, quitsLater⟩

/-- What a tick dispatches goes through the listeners. -/
theorem Undisturbed.dispatched {m : ManagerId} {e : EventRef} (tick : Undisturbed behaviour g w)
    (during : During behaviour g w (.dispatch m e) base v) :
    ∃ n consumed u,
      after behaviour n ⟨.dispatch m e, [], v⟩ = some ⟨.outcome (.returned consumed), [], u⟩ ∧
      Walked behaviour ⟨.dispatch m e, [], v⟩ m e 1 ((v.registry m).listed e.typeId)
        (calls behaviour n ⟨.dispatch m e, [], v⟩) consumed := by
  obtain ⟨stack, reachable⟩ := during.reachable
  refine dispatch_walked reachable fun l top x called => ?_
  exact tick.returns l e _ x (during.next called).run

/-! ### Before the drain -/

theorem turn_asks (asks : Asks behaviour ((begun g w).advance
      ((w.readClock g.manager).1.since g.lastTick)) (w.readClock g.manager).2 control v) :
    Asks behaviour g.turn w control v :=
  .later (.carried (.now g.manager) rfl) (.first asks)

theorem turn_yields {goesOn : Bool} (yields : Yields behaviour ((begun g w).advance
      ((w.readClock g.manager).1.since g.lastTick)) (w.readClock g.manager).2 goesOn v) :
    Yields behaviour g.turn w (begun g w, goesOn) v :=
  .bind (.carried (.now g.manager) rfl) (.bind yields (.done _ _))

theorem dispatchNew_asks (behaviour : Behaviour σ) (m : ManagerId) (event : Event) (w : World σ) :
    Asks behaviour (Program.dispatchNew m event) w (.dispatch m (w.newEvent event).1)
      (w.newEvent event).2 :=
  .later (.carried (.newEvent event) rfl) (.dispatch m _ _)

theorem dispatchNew_yields {m : ManagerId} {event : Event} {consumed : Bool}
    (run : Reaches behaviour ⟨.dispatch m (w.newEvent event).1, [], (w.newEvent event).2⟩
      ⟨.outcome (.returned consumed), [], v⟩) :
    Yields behaviour (Program.dispatchNew m event) w consumed v :=
  .bind (.carried (.newEvent event) rfl) (.dispatched run)

/-- At the tick limit a quit event of the engine's own is pending when the drain comes. -/
theorem heedLimit_yields (behaviour : Behaviour σ) (g : Engine) (w : World σ) :
    ∃ v, Yields behaviour g.heedLimit w () v ∧
      (g.atLimit = true → ∃ q ∈ (v.manager g.manager).queue.pending,
        q.event = .engine (.quit 0)) := by
  unfold Engine.heedLimit
  split
  · let noted := w.note (.told (.tickLimitReached g.settings.maxTicks.toNat))
    let quit := (noted.newEvent (.engine (.quit 0))).1
    let made := (noted.newEvent (.engine (.quit 0))).2
    refine ⟨made.enqueue g.manager quit, ?_, fun _ => ⟨quit, ?_, rfl⟩⟩
    · exact .bind (.carried (.note _) rfl)
        (.bind (.carried (.newEvent _) rfl) (.carried (.enqueue g.manager quit) rfl))
    · simp [enqueue, Manager.enqueue, Queue.push]
  · rename_i early
    exact ⟨w, .done _ _, fun late => (early late).elim⟩

/-- If the listeners return, a tick comes to its drain. -/
theorem Undisturbed.presents {next : Engine × Bool → Program σ Bool} {stack : List (Waiting σ)}
    (tick : Undisturbed behaviour g w)
    (reachable : Reachable behaviour ⟨.program (g.turn.bind next), stack, w⟩) :
    ∃ v, Yields behaviour
        ((begun g w).present ((w.readClock g.manager).1.since g.lastTick))
        (w.readClock g.manager).2 () v ∧
      ((begun g w).atLimit = true → ∃ q ∈ (v.manager g.manager).queue.pending,
        q.event = .engine (.quit 0)) := by
  let m := g.manager
  let delta := (w.readClock m).1.since g.lastTick
  let update : Event := .engine (.update (begun g w).tick delta)
  let render : Event := .engine (.render (begun g w).tick)
  have first := dispatchNew_asks behaviour m update (w.readClock m).2
  obtain ⟨_, during⟩ := During.ofAsks reachable (turn_asks (.first (.first first)))
  obtain ⟨n, _, updated, run, _⟩ := tick.dispatched during
  have updates := dispatchNew_yields ⟨n, run⟩
  have second := dispatchNew_asks behaviour m render updated
  obtain ⟨_, during⟩ :=
    During.ofAsks reachable (turn_asks (.first (.later updates (.first second))))
  obtain ⟨n, _, rendered, run, _⟩ := tick.dispatched during
  have renders := dispatchNew_yields ⟨n, run⟩
  obtain ⟨v, heeds, limited⟩ := heedLimit_yields behaviour (begun g w) rendered
  exact ⟨v, .bind updates (.bind renders heeds), limited⟩

theorem turn_asks_drain (presents : Yields behaviour
      ((begun g w).present ((w.readClock g.manager).1.since g.lastTick))
      (w.readClock g.manager).2 () v) :
    Asks behaviour g.turn w (.execute g.manager g.settings.executeTimeout) v :=
  turn_asks (.later presents (.first (.execute g.manager g.settings.executeTimeout v)))

/-! ### After the drain -/

theorem tellLeft_yields (behaviour : Behaviour σ) (g : Engine) (drained : Bool) (w : World σ) :
    ∃ v, Yields behaviour (g.tellLeft drained) w () v ∧ v.listeners = w.listeners := by
  unfold Engine.tellLeft
  split
  · exact ⟨w, .done _ _, rfl⟩
  · exact ⟨_, .bind (.carried (.inspect g.manager) rfl) (.carried (.note _) rfl), rfl⟩

theorem isRunning_yields {running : Bool} (quits : (w.listener g.quit).role.Quits running) :
    Yields behaviour g.isRunning w running w := by
  obtain ⟨exitCode, role⟩ := quits
  have asked : w.carryOut (.roleOf g.quit) = some (.quit running exitCode, w) := by
    rw [← role]
    rfl
  exact .bind (.carried (.roleOf g.quit) asked) (.done running w)

/-- What a tick tells is whether its quit listener was stopped by the end of its drain. -/
theorem drain_yields {drained running : Bool} {u : World σ}
    (run : Reaches behaviour ⟨.execute g.manager g.settings.executeTimeout, [], v⟩
      ⟨.outcome (.returned drained), [], u⟩)
    (quits : (u.listener g.quit).role.Quits running) :
    ∃ u', Yields behaviour g.drain v running u' := by
  obtain ⟨u', tells, same⟩ := tellLeft_yields behaviour g drained u
  have role : (u'.listener g.quit).role.Quits running := by
    rw [listener, same]
    exact quits
  exact ⟨u', .bind (.executed run) (.bind tells (isRunning_yields role))⟩

/-- The loop ends with a tick that tells so. -/
theorem loop_yields (limit : Nat) (yields : Yields behaviour g.turn w (begun g w, false) v) :
    Yields behaviour (Engine.loop (limit + 1) g) w (some (begun g w)) v :=
  .bind yields (.done _ v)

end EventEngine.Machine
