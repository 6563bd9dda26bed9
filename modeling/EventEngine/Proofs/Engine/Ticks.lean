import EventEngine.Proofs.Engine.Receipts
import EventEngine.Proofs.Engine.Tick
import EventEngine.Proofs.Machine.Works
import EventEngine.Proofs.Manager.Clocks

/-! What the ticks of an engine amount to. Each of them dispatches one update and one render and
drains the queue once; the updates share out the time that has passed since the engine was built,
and a tick tells whether a quit event has reached the engine at all. -/
namespace EventEngine

/-- The time that an operation hands on in an update. -/
def Op.delta? : Op → Option Duration
  | .dispatch _ { event := .engine { payload := .update _ delta, .. }, .. } => some delta
  | _ => none

/-- Whether an operation calls listeners or queues an event. -/
def Op.acts : Op → Bool
  | .callListener .. | .dispatch .. | .execute .. | .enqueue .. => true
  | _ => false

/-- The same engine, so many ticks later. -/
structure Engine.Later (k : Nat) (g g' : Engine) : Prop where
  manager : g'.manager = g.manager
  settings : g'.settings = g.settings
  quit : g'.quit = g.quit
  tick : g'.tick = g.tick + .ofNat k

namespace Engine.Later

variable {j k : Nat} {g g' g'' : Engine}

theorem refl (g : Engine) : Later 0 g g := ⟨rfl, rfl, rfl, (UInt64.add_zero _).symm⟩

theorem begin (reading : Timestamp) (g : Engine) : Later 1 g (g.begin reading) :=
  ⟨rfl, rfl, rfl, rfl⟩

theorem trans (first : Later j g g') (second : Later k g' g'') : Later (j + k) g g'' where
  manager := second.manager.trans first.manager
  settings := second.settings.trans first.settings
  quit := second.quit.trans first.quit
  tick := by rw [second.tick, first.tick, UInt64.ofNat_add, UInt64.add_assoc]

end Engine.Later

theorem filterMap_delta? (ops : List Op) :
    (ops.filter (·.acts)).filterMap (·.delta?) = ops.filterMap (·.delta?) := by
  rw [List.filterMap_filter]
  refine congrArg (List.filterMap · ops) (funext fun op => ?_)
  cases op <;> rfl

namespace Machine

open World

variable {σ : Type}

/-- An engine that was built at a moment has made so many ticks since, with these lengths of time
handed on in their updates. Each of them was made by a program that began with it, by hand or in the
loop of a run, and anything may have happened before it. -/
inductive Ticked (behaviour : Behaviour σ) (g₀ : Engine) (built : State σ) :
    Nat → List Duration → Engine → State σ → Prop
  | built : Ticked behaviour g₀ built 0 [] g₀ built
  | meanwhile (ticked : Ticked behaviour g₀ built k deltas g c) (run : Reaches behaviour c d) :
    Ticked behaviour g₀ built k deltas g d
  | ticks {p : Program σ Bool} {next : Engine × Bool → Program σ Bool}
    (ticked : Ticked behaviour g₀ built k deltas g ⟨.program p, stack, w⟩)
    (begins : g.turn.Begins p next) (works : Works behaviour g.turn w ops (g', goesOn) v) :
    Ticked behaviour g₀ built (k + 1) (deltas ++ ops.filterMap (·.delta?)) g'
      ⟨.program (next (g', goesOn)), stack, v⟩

variable {behaviour : Behaviour σ} {g g' : Engine} {w v : World σ} {ops : List Op} {goesOn : Bool}

/-! ### The operations of a tick -/

theorem dispatchNew_works_iff {m : ManagerId} {event : Event} {consumed : Bool} :
    Works behaviour (Program.dispatchNew m event) w ops consumed v ↔
      ops = [.newEvent event, .dispatch m (w.newEvent event).1] ∧
      Reaches behaviour ⟨.dispatch m (w.newEvent event).1, [], (w.newEvent event).2⟩
        ⟨.outcome (.returned consumed), [], v⟩ := by
  refine (Works.carried_bind_iff (.newEvent event) rfl).trans ?_
  rw [← Performs.dispatch_iff]
  constructor
  · rintro ⟨rest, rfl, second⟩
    obtain ⟨rfl, performs⟩ := Works.ask_iff.mp second
    exact ⟨rfl, performs⟩
  · rintro ⟨rfl, performs⟩
    exact ⟨_, rfl, Works.ask_iff.mpr ⟨rfl, performs⟩⟩

/-- At its tick limit an engine queues a quit event. -/
def limitQuit (g : Engine) (id : Nat) : List Op :=
  if g.atLimit then [.enqueue g.manager ⟨id, .engine (.quit 0)⟩] else []

theorem heedLimit_acts (works : Works behaviour g.heedLimit w ops () v) :
    ops.filter (·.acts) = limitQuit g w.nextEvent := by
  unfold Engine.heedLimit at works
  unfold limitQuit
  split at works
  · rename_i late
    obtain ⟨_, rfl, noted⟩ := (Works.carried_bind_iff _ rfl).mp works
    obtain ⟨_, rfl, made⟩ := (Works.carried_bind_iff _ rfl).mp noted
    obtain ⟨rfl, -⟩ := (Works.carried_iff rfl).mp made
    rw [if_pos late]
    rfl
  · rename_i early
    rw [if_neg early, (Works.done_iff.mp works).1]
    rfl

theorem heedLimit_works (behaviour : Behaviour σ) (g : Engine) (w : World σ) :
    ∃ ops v, Works behaviour g.heedLimit w ops () v := by
  unfold Engine.heedLimit
  split
  · exact ⟨_, _, .bind (.carried (.note _) rfl)
      (.bind (.carried (.newEvent _) rfl) (.carried (.enqueue ..) rfl))⟩
  · exact ⟨_, w, .done⟩

theorem tellLeft_acts {drained : Bool} (works : Works behaviour (g.tellLeft drained) w ops () v) :
    ops.filter (·.acts) = [] := by
  unfold Engine.tellLeft at works
  split at works
  · rw [(Works.done_iff.mp works).1]
    rfl
  · obtain ⟨_, rfl, inspected⟩ := (Works.carried_bind_iff _ rfl).mp works
    obtain ⟨rfl, -⟩ := (Works.carried_iff rfl).mp inspected
    rfl

theorem tellLeft_works (behaviour : Behaviour σ) (g : Engine) (drained : Bool) (w : World σ) :
    ∃ ops v, Works behaviour (g.tellLeft drained) w ops () v := by
  unfold Engine.tellLeft
  split
  · exact ⟨_, w, .done⟩
  · exact ⟨_, _, .bind (.carried (.inspect g.manager) rfl) (.carried (.note _) rfl)⟩

/-- A tick tells whether the engine's own listener goes on running. -/
theorem isRunning_works_iff {running : Bool} {code : Int32}
    (role : (w.listener g.quit).role = .quit running code) :
    Works behaviour g.isRunning w ops goesOn v ↔
      ops = [.roleOf g.quit] ∧ goesOn = running ∧ v = w := by
  have asked : w.carryOut (.roleOf g.quit) = some (.quit running code, w) := by
    rw [← role]
    rfl
  refine (Works.carried_bind_iff _ asked).trans
    ((exists_congr fun _ => and_congr_right fun _ => Works.done_iff).trans ?_)
  constructor
  · rintro ⟨_, rfl, rfl, rfl, rfl⟩
    exact ⟨rfl, rfl, rfl⟩
  · rintro ⟨rfl, rfl, rfl⟩
    exact ⟨_, rfl, rfl, rfl, rfl⟩

theorem isRunning_works (behaviour : Behaviour σ) (g : Engine) (w : World σ) :
    ∃ ops goesOn, Works behaviour g.isRunning w ops goesOn w := by
  have asked : w.carryOut (.roleOf g.quit) = some ((w.listener g.quit).role, w) := rfl
  cases role : (w.listener g.quit).role with
  | quit running code => exact ⟨_, _, (isRunning_works_iff role).mpr ⟨rfl, rfl, rfl⟩⟩
  | _ =>
    rw [role] at asked
    exact ⟨_, _, .bind (.carried _ asked) .done⟩

theorem isRunning_acts (works : Works behaviour g.isRunning w ops goesOn v) :
    ops.filter (·.acts) = [] ∧ v = w := by
  obtain ⟨_, rfl, told⟩ := (Works.carried_bind_iff (.roleOf g.quit) rfl).mp works
  dsimp only at told
  split at told
  all_goals
    obtain ⟨rfl, -, rfl⟩ := Works.done_iff.mp told
    exact ⟨rfl, rfl⟩

theorem drain_acts (works : Works behaviour g.drain w ops goesOn v) :
    ops.filter (·.acts) = [.execute g.manager g.settings.executeTimeout] ∧
      ∀ running code, (v.listener g.quit).role = .quit running code → goesOn = running := by
  obtain ⟨_, drained, u, after, first, others, rfl⟩ := Works.bind_iff.mp works
  obtain ⟨rfl, -⟩ := Works.ask_iff.mp first
  obtain ⟨told, _, x, asked, second, third, rfl⟩ := Works.bind_iff.mp others
  obtain ⟨silent, rfl⟩ := isRunning_acts third
  refine ⟨?_, fun running code role => ((isRunning_works_iff role).mp third).2.1⟩
  rw [List.filter_append, List.filter_append, tellLeft_acts second, silent]
  rfl

/-- A tick dispatches one update and one render, heeds its limit and drains the queue once. It tells
what the engine's own listener remembers at its end. -/
theorem turn_acts (works : Works behaviour g.turn w ops (g', goesOn) v) :
    g' = begun g w ∧
    ∃ update render id,
      update.event = .engine
        (.update (begun g w).tick ((w.readClock g.manager).1.since g.lastTick)) ∧
      render.event = .engine (.render (begun g w).tick) ∧
      ops.filter (·.acts) = .dispatch g.manager update :: .dispatch g.manager render ::
        (limitQuit (begun g w) id ++ [.execute g.manager g.settings.executeTimeout]) ∧
      ∀ running code, (v.listener g.quit).role = .quit running code → goesOn = running := by
  obtain ⟨_, rfl, advances⟩ := (Works.carried_bind_iff (.now g.manager) rfl).mp works
  obtain ⟨all, told, x, _, parts, last, rfl⟩ := Works.bind_iff.mp advances
  obtain ⟨rfl, same, rfl⟩ := Works.done_iff.mp last
  cases same
  obtain ⟨before, _, y, behind, presents, drains, rfl⟩ := Works.bind_iff.mp parts
  obtain ⟨_, _, updated, _, first, others, rfl⟩ := Works.bind_iff.mp presents
  obtain ⟨rfl, -⟩ := dispatchNew_works_iff.mp first
  obtain ⟨_, _, rendered, limit, second, heeds, rfl⟩ := Works.bind_iff.mp others
  obtain ⟨rfl, -⟩ := dispatchNew_works_iff.mp second
  obtain ⟨drain, tells⟩ := drain_acts drains
  have rest : (limit ++ behind ++ []).filter (·.acts) =
      limitQuit (begun g w) rendered.nextEvent ++
        [.execute g.manager g.settings.executeTimeout] := by
    rw [List.append_nil, List.filter_append, heedLimit_acts heeds, drain]
    rfl
  let update := ((w.readClock g.manager).2.newEvent
    (.engine (.update (begun g w).tick ((w.readClock g.manager).1.since g.lastTick)))).1
  let render := (updated.newEvent (.engine (.render (begun g w).tick))).1
  exact ⟨rfl, update, render, rendered.nextEvent, rfl, rfl,
    congrArg ([Op.dispatch g.manager update, Op.dispatch g.manager render] ++ ·) rest, tells⟩

/-- All listeners that are called in a tick return. -/
def CallsReturn (behaviour : Behaviour σ) (g : Engine) (w : World σ) : Prop :=
  ∀ l e above v, Reaches behaviour (ticking g w) ⟨.call l e, above, v⟩ →
    ∃ consumed v', Reaches behaviour ⟨.call l e, [], v⟩ ⟨.outcome (.returned consumed), [], v'⟩

/-- If its listeners return, a tick comes to its end. -/
theorem turn_works (returns : CallsReturn behaviour g w) :
    ∃ ops goesOn v, Works behaviour g.turn w ops (begun g w, goesOn) v := by
  let m := g.manager
  let Returns (o : Outcome Bool) : Prop := ∃ consumed, o = .returned consumed
  -- whatever the tick asks for, the calls within it return
  have calls {control : Control σ} {v : World σ} (asks : Asks behaviour g.turn w control v)
      {l : ListenerId} {e : EventRef} {above : List (Waiting σ)} {u : World σ}
      (called : Reaches behaviour ⟨control, [], v⟩ ⟨.call l e, above, u⟩) :
      Ends behaviour Returns ⟨.call l e, [], u⟩ := by
    obtain ⟨later, run⟩ := asks (fun result => .done result.2) []
    obtain ⟨consumed, v', answers⟩ := returns l e _ u (run.trans (called.over _))
    exact ⟨_, v', answers, consumed, rfl⟩
  let delta := (w.readClock m).1.since g.lastTick
  have first := dispatchNew_asks behaviour m (.engine (.update (begun g w).tick delta))
    (w.readClock m).2
  obtain ⟨_, updated, run, consumed, rfl⟩ := dispatch_ends (P := Returns)
    (fun consumed => ⟨consumed, rfl⟩) fun l top v => calls (turn_asks (.first (.first first)))
  have updates := dispatchNew_works_iff.mpr ⟨rfl, run⟩
  have second := dispatchNew_asks behaviour m (.engine (.render (begun g w).tick)) updated
  obtain ⟨_, rendered, run, consumed, rfl⟩ := dispatch_ends (P := Returns)
    (fun consumed => ⟨consumed, rfl⟩) fun l top v =>
      calls (turn_asks (.first (.later updates.yields (.first second))))
  have renders := dispatchNew_works_iff.mpr ⟨rfl, run⟩
  obtain ⟨_, heeded, heeds⟩ := heedLimit_works behaviour (begun g w) rendered
  have presents : Works behaviour ((begun g w).present delta) (w.readClock m).2 _ () heeded :=
    .bind updates (.bind renders heeds)
  obtain ⟨_, drained, run, left, rfl⟩ := execute_ends (P := Returns)
    (fun consumed => ⟨consumed, rfl⟩) fun l e top below v =>
      calls (turn_asks_drain presents.yields)
  obtain ⟨_, told, tells⟩ := tellLeft_works behaviour (begun g w) left drained
  obtain ⟨_, goesOn, checks⟩ := isRunning_works behaviour (begun g w) told
  have drains : Works behaviour (begun g w).drain heeded _ goesOn told :=
    .bind (Works.ask_iff.mpr ⟨rfl, .executes run⟩) (.bind tells checks)
  exact ⟨_, goesOn, told, .bind (.carried (.now m) rfl) (.bind (.bind presents drains) .done)⟩

/-! ### Building and dropping an engine -/

theorem Works.clocks {α : Type} {p : Program σ α} {a : α} (works : Works behaviour p w ops a v) :
    KeepsClocks w v :=
  (works.yields (fun _ => .done true) []).clocks

theorem connect_becomes {m : ManagerId} {l : ListenerId} {t : TypeId} {connected : Bool}
    (works : Works behaviour (Program.connect m l t) w ops connected v) :
    Becomes m ((w.manager m).connect w.roll l t).2 w v := by
  have becomes := tryConnect_becomes (w := w) m l t
  obtain ⟨_, rfl, tried⟩ := (Works.carried_bind_iff (.tryConnect m l t) rfl).mp works
  split at tried
  · obtain ⟨-, -, rfl⟩ := Works.done_iff.mp tried
    exact becomes
  · obtain ⟨_, rfl, noted⟩ := (Works.carried_bind_iff _ rfl).mp tried
    obtain ⟨-, -, rfl⟩ := Works.done_iff.mp noted
    exact becomes.note rfl

theorem disconnect_works {m : ManagerId} {l : ListenerId} {t : TypeId} {removed : Bool}
    (works : Works behaviour (Program.disconnect m l t) w ops removed v) :
    ops.filter (·.acts) = [] ∧ Becomes m ((w.manager m).disconnect l t).2 w v := by
  have becomes := tryDisconnect_becomes (w := w) m l t
  obtain ⟨_, rfl, tried⟩ := (Works.carried_bind_iff (.tryDisconnect m l t) rfl).mp works
  split at tried
  · obtain ⟨rfl, -, rfl⟩ := Works.done_iff.mp tried
    exact ⟨rfl, becomes⟩
  · obtain ⟨_, rfl, noted⟩ := (Works.carried_bind_iff _ rfl).mp tried
    obtain ⟨rfl, -, rfl⟩ := Works.done_iff.mp noted
    exact ⟨rfl, becomes.note rfl⟩

/-- An engine that is built makes two listeners and connects them to its categories. -/
theorem create_connects {m : ManagerId} {settings : Config.EngineSettings}
    (works : Works behaviour (Engine.create m settings) w ops g v) :
    ∃ x y u ops₁ ops₂ ops₃ connected₁ connected₂ connected₃,
      let made := (((w.holdManager m).newListener "quit" (.quit true 0)).2.newListener
        "frame_stats" (.frames 0 0)).2
      Works behaviour (Program.connect m g.quit Kind.quit.typeId) made ops₁ connected₁ x ∧
      Works behaviour (Program.connect m g.frames Kind.update.typeId) x ops₂ connected₂ y ∧
      Works behaviour (Program.connect m g.frames Kind.render.typeId) y ops₃ connected₃ u ∧
      g = ⟨m, settings, w.listeners.size, w.listeners.size + 1, 0, (u.readClock m).1⟩ ∧
      v = (u.readClock m).2 := by
  obtain ⟨_, rfl, held⟩ := (Works.carried_bind_iff (.holdManager m) rfl).mp works
  obtain ⟨_, rfl, quit⟩ := (Works.carried_bind_iff _ rfl).mp held
  obtain ⟨_, rfl, frames⟩ := (Works.carried_bind_iff _ rfl).mp quit
  obtain ⟨ops₁, connected₁, x, _, first, others, rfl⟩ := Works.bind_iff.mp frames
  obtain ⟨ops₂, connected₂, y, _, second, last, rfl⟩ := Works.bind_iff.mp others
  obtain ⟨ops₃, connected₃, u, _, third, reads, rfl⟩ := Works.bind_iff.mp last
  obtain ⟨_, rfl, read⟩ := (Works.carried_bind_iff (.now m) rfl).mp reads
  obtain ⟨-, rfl, rfl⟩ := Works.done_iff.mp read
  have next : ((w.holdManager m).newListener "quit" (.quit true 0)).2.listeners.size =
      w.listeners.size + 1 := Store.size_push ..
  refine ⟨x, y, u, ops₁, ops₂, ops₃, connected₁, connected₂, connected₃, first, second, third, ?_,
    rfl⟩
  exact congrArg (fun frames => Engine.mk m settings w.listeners.size frames 0 _) next

/-- An engine that is dropped disconnects its listeners and gives them and its manager up. -/
theorem drop_disconnects (works : Works behaviour g.drop w ops () v) :
    ∃ x y u ops₁ ops₂ ops₃ removed₁ removed₂ removed₃,
      Works behaviour (Program.disconnect g.manager g.quit Kind.quit.typeId) w ops₁ removed₁ x ∧
      Works behaviour (Program.disconnect g.manager g.frames Kind.update.typeId) x ops₂ removed₂ y ∧
      Works behaviour (Program.disconnect g.manager g.frames Kind.render.typeId) y ops₃ removed₃ u ∧
      ops = ops₁ ++ (ops₂ ++ (ops₃ ++
        [.releaseManager g.manager, .dropListener g.quit, .dropListener g.frames])) ∧
      v = (((u.releaseManager g.manager).dropListener g.quit).2.dropListener g.frames).2 := by
  obtain ⟨ops₁, removed₁, x, _, first, updates, rfl⟩ := Works.bind_iff.mp works
  obtain ⟨ops₂, removed₂, y, _, second, renders, rfl⟩ := Works.bind_iff.mp updates
  obtain ⟨ops₃, removed₃, u, _, third, off, rfl⟩ := Works.bind_iff.mp renders
  obtain ⟨_, rfl, released⟩ := (Works.carried_bind_iff (.releaseManager g.manager) rfl).mp off
  obtain ⟨_, rfl, quit⟩ := (Works.carried_bind_iff (.dropListener g.quit) rfl).mp released
  obtain ⟨_, rfl, frames⟩ := (Works.carried_bind_iff (.dropListener g.frames) rfl).mp quit
  obtain ⟨rfl, -, rfl⟩ := Works.done_iff.mp frames
  exact ⟨x, y, u, ops₁, ops₂, ops₃, removed₁, removed₂, removed₃, first, second, third, rfl, rfl⟩

/-- What an engine is like when it was built, with the last reading of its clock at that point. -/
structure New (m : ManagerId) (settings : Config.EngineSettings) (w : World σ) (g : Engine)
    (v : World σ) : Prop where
  manager : g.manager = m
  settings : g.settings = settings
  tick : g.tick = 0
  quit : (v.listener g.quit).role = .quit true 0
  reading : ∃ u : World σ, m < u.managers.size ∧ (w.manager m).clock.Keeps (u.manager m).clock ∧
    v = (u.readClock m).2 ∧ g.lastTick = (u.readClock m).1

theorem create_new {m : ManagerId} {settings : Config.EngineSettings}
    (works : Works behaviour (Engine.create m settings) w ops g v) : New m settings w g v := by
  obtain ⟨_, _, u, _, _, _, _, _, _, first, second, third, rfl, rfl⟩ := create_connects works
  have listeners : u.listeners = ((w.holdManager m).listeners.push
      ⟨"quit", .quit true 0, true⟩).push ⟨"frame_stats", .frames 0 0, true⟩ :=
    (connect_becomes third).listeners.trans
      ((connect_becomes second).listeners.trans (connect_becomes first).listeners)
  have kept : KeepsClocks (w.holdManager m) u := by
    refine .trans ?_ (first.clocks.trans (second.clocks.trans third.clocks))
    exact .of_eq rfl
  have made : m < (w.holdManager m).managers.size := by
    rw [World.holdManager, modifyManager, Store.size_modify]
    exact Nat.lt_of_lt_of_le (Nat.lt_succ_self m) (Nat.le_max_right ..)
  have same : ((w.holdManager m).manager m).clock = (w.manager m).clock := by
    rw [World.holdManager, manager_modifyManager, if_pos rfl]
  refine ⟨rfl, rfl, rfl, ?_, u, Nat.lt_of_lt_of_le made kept.size, same ▸ kept.clocks m made, rfl,
    rfl⟩
  have before : (w.holdManager m).listeners.size ≠ (w.holdManager m).listeners.size + 1 :=
    Nat.ne_of_lt (Nat.lt_succ_self _)
  change (u.listeners.get (w.holdManager m).listeners.size).role = _
  rw [listeners, Store.get_push, Store.size_push, if_neg before, Store.get_push, if_pos rfl]

/-! ### Tick after tick -/

/-- The nanoseconds of several lengths of time together. -/
def elapsed (deltas : List Duration) : Nat := (deltas.map (·.toNanos)).sum

theorem elapsed_concat (deltas : List Duration) (delta : Duration) :
    elapsed (deltas ++ [delta]) = elapsed deltas + delta.toNanos := by
  simp [elapsed]

/-- The only length of time that a tick hands on is the one since the last tick. -/
theorem turn_deltas (works : Works behaviour g.turn w ops (g', goesOn) v) :
    ops.filterMap (·.delta?) = [(w.readClock g.manager).1.since g.lastTick] := by
  obtain ⟨-, update, render, id, updates, renders, acts, -⟩ := turn_acts works
  obtain ⟨_, _⟩ := update
  obtain ⟨_, _⟩ := render
  dsimp only at updates renders
  subst updates renders
  rw [← filterMap_delta?, acts]
  unfold limitQuit
  split <;> rfl

variable {g₀ : Engine} {built : State σ} {k : Nat} {deltas : List Duration} {c d : State σ}

theorem Ticked.run (ticked : Ticked behaviour g₀ built k deltas g c) :
    Reaches behaviour built c := by
  induction ticked with
  | built => exact .refl _
  | meanwhile _ run ih => exact ih.trans run
  | ticks _ begins works ih => exact ih.trans (works.reaches begins _)

theorem Ticked.later (ticked : Ticked behaviour g₀ built k deltas g c) : g₀.Later k g := by
  induction ticked with
  | built => exact .refl _
  | meanwhile _ _ ih => exact ih
  | ticks _ _ works ih =>
    obtain ⟨rfl, -⟩ := turn_acts works
    exact ih.trans (.begin ..)

/-- The clock goes on from the last tick, to which the updates have handed on all the time since
the engine was built. -/
structure Accounted (g₀ : Engine) (deltas : List Duration) (g : Engine) (w : World σ) : Prop where
  made : g.manager < w.managers.size
  monotonic : (w.manager g.manager).clock.Monotonic
  reaches : (w.manager g.manager).clock.Reaches g.lastTick
  total : g₀.lastTick.sinceOrigin.toNanos + elapsed deltas = g.lastTick.sinceOrigin.toNanos

namespace Accounted

theorem meanwhile (accounted : Accounted g₀ deltas g w) (clocks : KeepsClocks w v) :
    Accounted g₀ deltas g v :=
  have keeps := clocks.clocks g.manager accounted.made
  { made := Nat.lt_of_lt_of_le accounted.made clocks.size
    monotonic := keeps.monotonic accounted.monotonic
    reaches := keeps.reaches _ accounted.reaches
    total := accounted.total }

/-- The clock has not gone back since the last tick, so none of the time since is lost. -/
theorem total_next (accounted : Accounted g₀ deltas g w) :
    g₀.lastTick.sinceOrigin.toNanos +
        elapsed (deltas ++ [(w.readClock g.manager).1.since g.lastTick]) =
      (w.readClock g.manager).1.sinceOrigin.toNanos := by
  rw [elapsed_concat, ← Nat.add_assoc, accounted.total]
  exact Timestamp.toNanos_since accounted.reaches.reading

/-- A tick begins where the last one left off. -/
theorem ticks (accounted : Accounted g₀ deltas g w)
    (works : Works behaviour g.turn w ops (g', goesOn) v) :
    Accounted g₀ (deltas ++ ops.filterMap (·.delta?)) g' v := by
  rw [turn_deltas works]
  obtain ⟨rfl, -⟩ := turn_acts works
  obtain ⟨_, rfl, advances⟩ := (Works.carried_bind_iff (.now g.manager) rfl).mp works
  have read := readClock_clocks w g.manager
  have begun : Accounted g₀ (deltas ++ [(w.readClock g.manager).1.since g.lastTick]) (begun g w)
      (w.readClock g.manager).2 :=
    { made := Nat.lt_of_lt_of_le accounted.made read.size
      monotonic := (read.clocks _ accounted.made).monotonic accounted.monotonic
      reaches := readClock_reaches accounted.monotonic
      total := accounted.total_next }
  exact begun.meanwhile advances.clocks

end Accounted

theorem New.accounted {m : ManagerId} {settings : Config.EngineSettings}
    (new : New m settings w g v) (monotonic : (w.manager m).clock.Monotonic) :
    Accounted g [] g v := by
  obtain ⟨u, made, keeps, rfl, reading⟩ := new.reading
  obtain rfl := new.manager
  have monotonic := keeps.monotonic monotonic
  have read := readClock_clocks u g.manager
  exact {
    made := Nat.lt_of_lt_of_le made read.size
    monotonic := (read.clocks _ made).monotonic monotonic
    reaches := reading ▸ readClock_reaches monotonic
    total := Nat.add_zero _ }

theorem Ticked.accounted (ticked : Ticked behaviour g₀ built k deltas g c)
    (accounted : Accounted g₀ [] g₀ built.world) : Accounted g₀ deltas g c.world := by
  induction ticked with
  | built => exact accounted
  | meanwhile _ run ih => exact ih.meanwhile run.clocks
  | ticks _ _ works ih => exact ih.ticks works

/-- Every tick of an engine dispatches one update and one render, with its number, heeds its limit
and drains the queue once. With the update of this tick the updates have handed on just the time
from when the engine was built to the beginning of the tick. The tick tells to stop if and only if
by its end a genuine quit event has reached the engine's own listener. -/
theorem ticks_account_for_time_and_frames {m : ManagerId} {settings : Config.EngineSettings}
    {w₀ v₀ : World σ} {ops₀ : List Op} {next₀ : Engine → Program σ Bool} {p : Program σ Bool}
    {next : Engine × Bool → Program σ Bool} {stack₀ stack : List (Waiting σ)}
    (created : Works behaviour (Engine.create m settings) w₀ ops₀ g₀ v₀)
    (monotonic : (w₀.manager m).clock.Monotonic)
    (history : Ticked behaviour g₀ ⟨.program (next₀ g₀), stack₀, v₀⟩ k deltas g
      ⟨.program p, stack, w⟩)
    (begins : g.turn.Begins p next) :
    (∃ u : World σ, g₀.lastTick = (u.readClock m).1 ∧ v₀ = (u.readClock m).2) ∧
    (CallsReturn behaviour g w →
      ∃ ops goesOn v, Works behaviour g.turn w ops (begun g w, goesOn) v) ∧
    ∀ ops g' goesOn v, Works behaviour g.turn w ops (g', goesOn) v →
      g' = begun g w ∧
      ∃ update render id delta,
        update.event = .engine (.update (.ofNat (k + 1)) delta) ∧
        render.event = .engine (.render (.ofNat (k + 1))) ∧
        ops.filter (·.acts) = .dispatch m update :: .dispatch m render ::
          (limitQuit g' id ++ [.execute m settings.executeTimeout]) ∧
        ops.filterMap (·.delta?) = [delta] ∧
        g₀.lastTick.sinceOrigin.toNanos + elapsed (deltas ++ [delta]) =
          (w.readClock m).1.sinceOrigin.toNanos ∧
        (goesOn = false ↔ QuitReaches behaviour g₀.quit ⟨.program (next₀ g₀), stack₀, v₀⟩
          ⟨.program (next (g', goesOn)), stack, v⟩) := by
  have new := create_new created
  have accounted := history.accounted (new.accounted monotonic)
  obtain ⟨u, -, -, after, reading⟩ := new.reading
  refine ⟨⟨u, reading, after⟩, turn_works, fun ops g' goesOn v works => ?_⟩
  have ended := history.ticks begins works
  have manager : g.manager = m := history.later.manager.trans new.manager
  have settled : g.settings = settings := history.later.settings.trans new.settings
  have number : g'.tick = .ofNat (k + 1) := by
    rw [ended.later.tick, new.tick, UInt64.zero_add]
  obtain ⟨rfl, update, render, id, updates, renders, acts, tells⟩ := turn_acts works
  have total := accounted.total_next
  rw [number] at updates renders
  rw [manager, settled] at acts
  rw [manager] at updates total
  rw [history.later.quit] at tells
  refine ⟨rfl, update, render, id, _, updates, renders, acts, ?_, total, ?_⟩
  · rw [turn_deltas works, manager]
  obtain ⟨running, code, role⟩ := ended.run.quits new.quit
  rw [← stopped_iff new.quit ended.run (by rintro e ⟨⟩), role, tells running code role]
  constructor
  · rintro rfl
    exact ⟨code, rfl⟩
  · rintro ⟨_, same⟩
    cases same
    rfl

/-- A listener moves the clock during the first two ticks. A plain event with the category of a
quit event does not end the loop in the first one; a quit event does in the second one. -/
theorem second_tick_ends_with_the_quit :
    let behaviour : Behaviour Unit := fun _ _ => do
      Program.ask (.advance 0 (.ofMillis 5))
      pure false
    let setup : Program Unit Unit := do
      let m ← Program.ask (.newManager default)
      let l ← Program.ask (.newListener "mover" .custom)
      let _ ← Program.connect m l Kind.update.typeId
    ∃ (next₀ : Engine → Program Unit Bool) (next : Engine × Bool → Program Unit Bool),
    ∃ w₀ ops₀ g₀ v₀ g w ops v, Yields behaviour setup (World.initial ()) () w₀ ∧
      Works behaviour (Engine.create 0 {}) w₀ ops₀ g₀ v₀ ∧
      Ticked behaviour g₀ ⟨.program (next₀ g₀), [], v₀⟩ 1 [.ofMillis 7] g
        ⟨.program (g.turn.bind next), [], w⟩ ∧
      Works behaviour g.turn w ops (begun g w, false) v ∧
      ops.filterMap (·.delta?) = [.ofMillis 5] ∧
      QuitReaches behaviour g₀.quit ⟨.program (next₀ g₀), [], v₀⟩
        ⟨.program (next (begun g w, false)), [], v⟩ := by
  intro behaviour setup
  let between : Program Unit Unit := do
    Program.ask (.advance 0 (.ofMillis 7))
    Program.enqueueNew 0 (.plain Kind.quit.typeId)
  let quit : Program Unit Unit := Program.enqueueNew 0 (.engine (.quit 3))
  let next : Engine × Bool → Program Unit Bool := fun result => .done result.2
  let next₁ : Engine × Bool → Program Unit Bool := fun result =>
    quit.bind fun _ => result.1.turn.bind next
  let next₀ : Engine → Program Unit Bool := fun g => between.bind fun _ => g.turn.bind next₁
  have ran : comesTo behaviour 2 setup (World.initial ()) (fun _ w₀ =>
      comesTo behaviour 2 (Engine.create 0 {}) w₀ fun g₀ v₀ =>
        (w₀.manager 0).clock.isManual && comesTo behaviour 2 between v₀ fun _ w₁ =>
          (w₁.readClock g₀.manager).1.since g₀.lastTick == .ofMillis 7 &&
          comesTo behaviour 2 g₀.turn w₁ fun result v₁ =>
            comesTo behaviour 2 quit v₁ fun _ w =>
              (w.readClock result.1.manager).1.since result.1.lastTick == .ofMillis 5 &&
              comesTo behaviour 2 result.1.turn w fun last v =>
                (v.listener g₀.quit).role == .quit false 3) = true := by cbv
  obtain ⟨_, _, w₀, sets, ran⟩ := Works.checked ran
  obtain ⟨ops₀, g₀, v₀, created, ran⟩ := Works.checked ran
  obtain ⟨manual, ran⟩ := Bool.and_eq_true_iff.mp ran
  obtain ⟨_, _, w₁, moves, ran⟩ := Works.checked ran
  obtain ⟨first, ran⟩ := Bool.and_eq_true_iff.mp ran
  obtain ⟨ops₁, ⟨g, goesOn⟩, v₁, ticks, ran⟩ := Works.checked ran
  obtain ⟨_, _, w, queues, ran⟩ := Works.checked ran
  obtain ⟨second, ran⟩ := Bool.and_eq_true_iff.mp ran
  obtain ⟨_, last, v, lasts, stopped⟩ := Works.checked ran
  rw [beq_iff_eq] at first second stopped
  have began : Ticked behaviour g₀ ⟨.program (next₀ g₀), [], v₀⟩ 0 [] g₀
      ⟨.program (g₀.turn.bind next₁), [], w₁⟩ :=
    .meanwhile .built (moves.yields (fun _ => g₀.turn.bind next₁) [])
  have once := began.ticks (.bind .itself next₁) ticks
  rw [turn_deltas ticks, first] at once
  have history := once.meanwhile (queues.yields (fun _ => g.turn.bind next) [])
  obtain ⟨-, returns, tells⟩ := ticks_account_for_time_and_frames created
    (Clock.monotonic_of_isManual manual) history (.bind .itself next)
  obtain ⟨ops, goesOn, v', works⟩ := returns fun l e above v _ => call_returns ⟨false, _, 2, rfl⟩
  obtain ⟨-, _, _, _, _, -, -, -, -, -, ends⟩ := tells _ _ _ _ works
  -- the engine's listener was stopped, so the tick tells so
  cases works.yields.unique lasts.yields
  obtain ⟨rfl, -⟩ := turn_acts ticks
  obtain ⟨-, _, _, _, -, -, -, own⟩ := turn_acts works
  cases own false 3 stopped
  refine ⟨next₀, next, w₀, ops₀, g₀, v₀, _, w, ops, v, sets.yields, created, history, works, ?_,
    ends.mp rfl⟩
  rw [turn_deltas works, second]

end Machine
end EventEngine
