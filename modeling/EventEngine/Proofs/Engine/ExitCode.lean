import EventEngine.Proofs.Engine.Ticks

/-! The exit code that an engine reports. It is that of the last quit event that reached the
engine's own listener, whoever queued or dispatched it, so a quit of the tick limit can take the
place of another one. The engine queues such a quit only in a tick that has come to the limit. -/
namespace EventEngine.Machine

open World

variable {σ : Type}

/-- Ticks one right after the other that all tell to go on. -/
inductive GoesOn (behaviour : Behaviour σ) (g : Engine) (w : World σ) :
    Nat → List Op → Engine → World σ → Prop
  | starts : GoesOn behaviour g w 0 [] g w
  | ticks (before : GoesOn behaviour g w k ops h u)
    (works : Works behaviour h.turn u ops' (h', true) v) :
    GoesOn behaviour g w (k + 1) (ops ++ ops') h' v

variable {behaviour : Behaviour σ} {g g' h h' : Engine} {w u v : World σ} {ops ops' : List Op}
  {k limit : Nat} {goesOn running : Bool} {code : Int32}

/-! ### The loop -/

/-- The only event that a tick queues by itself is a quit, at the limit of the engine. -/
theorem turn_queues {n : ManagerId} {q : EventRef} (later : g.Later k h)
    (works : Works behaviour h.turn u ops (h', goesOn) v) (queued : .enqueue n q ∈ ops) :
    n = g.manager ∧ q.event = .engine (.quit 0) ∧
      0 < g.settings.maxTicks ∧ g.settings.maxTicks ≤ g.tick + .ofNat (k + 1) := by
  obtain ⟨rfl, update, render, id, -, -, acts, -⟩ := turn_acts works
  have own : .enqueue n q ∈ ops.filter (·.acts) := List.mem_filter.mpr ⟨queued, rfl⟩
  have onward : g.Later (k + 1) (begun h u) := later.trans (.begin ..)
  rw [acts, limitQuit] at own
  split at own
  · rename_i late
    obtain ⟨rfl, rfl⟩ : n = (begun h u).manager ∧ q = ⟨id, .engine (.quit 0)⟩ := by simpa using own
    rw [Engine.atLimit, onward.settings, onward.tick, Bool.and_eq_true, decide_eq_true_iff,
      decide_eq_true_iff] at late
    exact ⟨later.manager, rfl, late⟩
  · simp at own

/-- What a loop does after a tick. -/
def afterTick (left : Nat) (result : Engine × Bool) : Program σ (Option Engine) :=
  if result.2 then Engine.loop left result.1 else .done (some result.1)

/-- A loop begins with a tick, also in a run, which catches panics. -/
theorem loop_begins {β : Type} (g : Engine) (left : Nat) (rest : Option Engine → Program σ β)
    (next : Outcome β → Program σ Bool) :
    g.turn.Begins (((Engine.loop (left + 1) g).bind rest).attempt.bind next) fun result =>
      ((afterTick left result).bind rest).attempt.bind next := by
  have tick : (g.turn : Program σ _).Begins (Engine.loop (left + 1) g) (afterTick left) :=
    .bind .itself (afterTick left)
  exact .bind (.attempt (.bind tick rest)) next

namespace GoesOn

theorem first (works : Works behaviour g.turn w ops (g', true) u)
    (rest : GoesOn behaviour g' u k ops' h v) :
    GoesOn behaviour g w (k + 1) (ops ++ ops') h v := by
  induction rest with
  | starts =>
    rw [List.append_nil]
    exact .ticks .starts works
  | ticks before last ih => exact List.append_assoc .. ▸ ih.ticks last

theorem later (goes : GoesOn behaviour g w k ops h v) : g.Later k h := by
  induction goes with
  | starts => exact .refl g
  | ticks before works ih =>
    obtain ⟨rfl, -⟩ := turn_acts works
    exact ih.trans (.begin ..)

/-- As long as the ticks tell to go on, no quit event has reached the engine's own listener. -/
theorem quits (goes : GoesOn behaviour g w k ops h v)
    (role : (w.listener g.quit).role = .quit running code) :
    ∃ running code, (v.listener g.quit).role = .quit running code ∧ (k = 0 ∨ running = true) := by
  induction goes with
  | starts => exact ⟨running, code, role, .inl rfl⟩
  | ticks before works ih =>
    obtain ⟨_, _, role, -⟩ := ih
    obtain ⟨later, code, role⟩ := (works.yields (fun _ => .done true) []).quits role
    obtain ⟨-, _, _, _, -, -, -, tells⟩ := turn_acts works
    rw [before.later.quit] at tells
    exact ⟨later, code, role, .inr (tells later code role).symm⟩

/-- All that is queued by the engine itself is a quit when it has come to its limit. -/
theorem queues {n : ManagerId} {q : EventRef} (goes : GoesOn behaviour g w k ops h v)
    (queued : .enqueue n q ∈ ops) :
    n = g.manager ∧ q.event = .engine (.quit 0) ∧
      ∃ j ≤ k, 0 < g.settings.maxTicks ∧ g.settings.maxTicks ≤ g.tick + .ofNat j := by
  induction goes with
  | starts => cases queued
  | ticks before works ih =>
    rcases List.mem_append.mp queued with earlier | now
    · obtain ⟨same, quit, j, early, limited⟩ := ih earlier
      exact ⟨same, quit, j, Nat.le_succ_of_le early, limited⟩
    · obtain ⟨same, quit, limited⟩ := turn_queues before.later works now
      exact ⟨same, quit, _, Nat.le_refl _, limited⟩

/-- Ticks that go on in the loop of a run are ticks of the engine like others. -/
theorem ticked {β : Type} {g₀ : Engine} {built : State σ} {j : Nat} {deltas : List Duration}
    {stack : List (Waiting σ)} (goes : GoesOn behaviour g w k ops h v) (left : Nat)
    (rest : Option Engine → Program σ β) (next : Outcome β → Program σ Bool)
    (before : Ticked behaviour g₀ built j deltas g
      ⟨.program (((Engine.loop (k + left) g).bind rest).attempt.bind next), stack, w⟩) :
    ∃ deltas, Ticked behaviour g₀ built (j + k) deltas h
      ⟨.program (((Engine.loop left h).bind rest).attempt.bind next), stack, v⟩ := by
  induction goes generalizing left with
  | starts => exact ⟨deltas, Nat.zero_add left ▸ before⟩
  | ticks earlier works ih =>
    rw [Nat.add_assoc, Nat.add_comm 1] at before
    obtain ⟨_, here⟩ := ih (left + 1) before
    exact ⟨_, here.ticks (loop_begins _ left rest next) works⟩

end GoesOn

/-- A loop that ends consists of ticks that go on and one that does not. -/
theorem loop_ticks (works : Works behaviour (Engine.loop limit g) w ops (some g') v) :
    ∃ k h u before last, k < limit ∧ GoesOn behaviour g w k before h u ∧
      Works behaviour h.turn u last (g', false) v ∧ ops = before ++ last := by
  induction limit generalizing g w ops with
  | zero => cases works
  | succ limit ih =>
    obtain ⟨first, ⟨g₁, goesOn⟩, u, rest, ticks, others, rfl⟩ := Works.bind_iff.mp works
    cases goesOn with
    | false =>
      obtain ⟨rfl, same, rfl⟩ := Works.done_iff.mp others
      cases same
      exact ⟨0, g, w, [], first, Nat.succ_pos _, .starts, ticks, List.append_nil _⟩
    | true =>
      obtain ⟨k, h, x, before, last, enough, goes, ends, rfl⟩ := ih others
      exact ⟨k + 1, h, x, first ++ before, last, Nat.succ_lt_succ enough, goes.first ticks, ends,
        (List.append_assoc ..).symm⟩

/-- What is queued in ticks that go on and a last one is a quit at the limit, counted from when the
engine was built. -/
theorem run_queues {g₀ : Engine} {j : Nat} {n : ManagerId} {q : EventRef} (fresh : g₀.tick = 0)
    (later : g₀.Later j g) (goes : GoesOn behaviour g w k ops h u)
    (ends : Works behaviour h.turn u ops' (h', goesOn) v) (queued : .enqueue n q ∈ ops ++ ops') :
    n = g₀.manager ∧ q.event = .engine (.quit 0) ∧
      0 < g₀.settings.maxTicks ∧ g₀.settings.maxTicks.toNat ≤ j + k + 1 := by
  have limited : n = g.manager ∧ q.event = .engine (.quit 0) ∧
      ∃ i ≤ k + 1, 0 < g.settings.maxTicks ∧ g.settings.maxTicks ≤ g.tick + .ofNat i := by
    rcases List.mem_append.mp queued with earlier | now
    · obtain ⟨same, quit, i, early, limited⟩ := goes.queues earlier
      exact ⟨same, quit, i, Nat.le_succ_of_le early, limited⟩
    · obtain ⟨same, quit, limited⟩ := turn_queues goes.later ends now
      exact ⟨same, quit, k + 1, Nat.le_refl _, limited⟩
  obtain ⟨same, quit, i, early, positive, late⟩ := limited
  rw [later.settings] at positive late
  rw [later.tick, fresh, UInt64.zero_add, ← UInt64.ofNat_add, UInt64.le_iff_toNat_le,
    UInt64.toNat_ofNat'] at late
  have counted : (j + i) % 2 ^ 64 ≤ j + i := Nat.mod_le ..
  exact ⟨same.trans later.manager, quit, positive, by omega⟩

/-! ### The end of a run -/

/-- What calls no listener leaves a quit listener as it is. -/
theorem Works.keepsQuit {α : Type} {p : Program σ α} {a : α} {l : ListenerId}
    (works : Works behaviour p w ops a v) (idle : ops.filter (·.acts) = [])
    (role : (w.listener l).role = .quit running code) :
    (v.listener l).role = .quit running code := by
  induction works with
  | done => exact role
  | performs first rest ih =>
    rw [List.filter_cons] at idle
    cases first with
    | carries carried =>
      split at idle
      · cases idle
      · exact ih idle ((carryOut_keepsRole (known_of_quit role) carried).trans role)
    | _ => cases idle
  | reads rest ih | changes rest ih => exact ih idle role

theorem report_works {report : Engine.Report} (works : Works behaviour g.report w ops report v) :
    ops.filter (·.acts) = [] ∧ v = w ∧ report.ticks = g.tick.toNat ∧
      ∀ running code, (w.listener g.quit).role = .quit running code → report.exitCode = code := by
  obtain ⟨_, rfl, asks⟩ := (Works.carried_bind_iff (.inspect g.manager) rfl).mp works
  obtain ⟨_, rfl, others⟩ := (Works.carried_bind_iff (.roleOf g.quit) rfl).mp asks
  obtain ⟨_, rfl, last⟩ := (Works.carried_bind_iff (.roleOf g.frames) rfl).mp others
  obtain ⟨rfl, rfl, rfl⟩ := Works.done_iff.mp last
  refine ⟨rfl, rfl, rfl, fun running code role => ?_⟩
  simp only [role]

theorem drop_works (works : Works behaviour g.drop w ops () v) : ops.filter (·.acts) = [] := by
  obtain ⟨_, _, _, _, _, _, _, _, _, first, second, third, rfl, -⟩ := drop_disconnects works
  rw [List.filter_append, List.filter_append, List.filter_append, (disconnect_works first).1,
    (disconnect_works second).1, (disconnect_works third).1]
  rfl

/-- The world after an engine has announced its loop. -/
def announced (g : Engine) (w : World σ) : World σ :=
  w.note (.told (.loopStarted g.settings.tickIntervalMillis.toNat g.settings.maxTicks.toNat))

/-- A run that ends consists of ticks that go on, one last tick, and what acts no more. Its report
tells what the engine's own listener remembers after the last tick, which stays so. -/
theorem run_works {report : Engine.Report}
    (works : Works behaviour (Engine.run limit g) w ops (some report) v) :
    ∃ k h u before last x, k < limit ∧ GoesOn behaviour g (announced g w) k before h u ∧
      Works behaviour h.turn u last (begun h u, false) x ∧
      ops.filter (·.acts) = (before ++ last).filter (·.acts) ∧
      report.ticks = (begun h u).tick.toNat ∧
      ∀ running code, (x.listener h.quit).role = .quit running code →
        report.exitCode = code ∧ (v.listener h.quit).role = .quit running code := by
  obtain ⟨body, y, off, loops, drops, rfl⟩ := Works.ensuring_iff.mp works
  obtain ⟨_, rfl, ticks⟩ := (Works.carried_bind_iff _ rfl).mp loops
  obtain ⟨inside, ended, x, after, first, rest, rfl⟩ := Works.bind_iff.mp ticks
  cases ended with
  | none => cases rest
  | some g' =>
    obtain ⟨asked, made, z, _, reports, done, rfl⟩ := Works.bind_iff.mp rest
    obtain ⟨rfl, same, rfl⟩ := Works.done_iff.mp done
    cases same
    obtain ⟨k, h, u, before, last, enough, goes, ends, rfl⟩ := loop_ticks first
    obtain ⟨silent, rfl, number, tells⟩ := report_works reports
    obtain ⟨rfl, -⟩ := turn_acts ends
    refine ⟨k, h, u, before, last, y, enough, goes, ends, ?_, number, fun running code role => ?_⟩
    · rw [List.append_nil, List.filter_append, drop_works drops, List.append_nil,
        List.filter_cons_of_neg Bool.false_ne_true, List.filter_append, silent, List.append_nil]
    · exact ⟨tells running code role, drops.keepsQuit (drop_works drops) role⟩

/-- A run comes to the last one of its ticks. -/
theorem run_ticked {g₀ : Engine} {built : State σ} {j : Nat} {deltas : List Duration}
    {next : Option Engine.Report → Program σ Bool} {stack : List (Waiting σ)}
    (before : Ticked behaviour g₀ built j deltas g
      ⟨.program ((Engine.run limit g).bind next), stack, w⟩)
    (goes : GoesOn behaviour g (announced g w) k ops h u) (enough : k < limit) :
    ∃ deltas p later, Ticked behaviour g₀ built (j + k) deltas h ⟨.program p, stack, u⟩ ∧
      h.turn.Begins p later := by
  obtain ⟨left, rfl⟩ := Nat.exists_eq_add_of_lt enough
  have announces : Works behaviour g.announce w _ () (announced g w) := .carried (.note _) rfl
  unfold Engine.run Program.ensuring at before
  rw [Program.bind_assoc] at before
  have started := before.meanwhile
    (announces.reaches (.bind (.attempt (.bind .itself _)) _) stack)
  obtain ⟨deltas, there⟩ := goes.ticked (left + 1) _ _ started
  exact ⟨deltas, _, _, there, loop_begins ..⟩

/-- After a run the engine's own listener is stopped and remembers what the report tells. -/
theorem run_remembers {report : Engine.Report}
    (works : Works behaviour (Engine.run limit g) w ops (some report) v)
    (role : (w.listener g.quit).role = .quit running code) :
    (v.listener g.quit).role = .quit false report.exitCode := by
  obtain ⟨k, h, u, before, last, x, -, goes, ends, -, -, tells⟩ := run_works works
  obtain ⟨_, _, atLast, -⟩ := goes.quits (w := announced g w) role
  rw [← goes.later.quit] at atLast ⊢
  obtain ⟨later, code, ended⟩ := (ends.yields (fun _ => .done true) []).quits atLast
  obtain ⟨-, _, _, _, -, -, -, told⟩ := turn_acts ends
  have stopped : false = later := told later code ended
  subst stopped
  obtain ⟨reported, remembered⟩ := tells false code ended
  rw [remembered, reported]

/-- The exit code that an engine reports is that of the last quit event that has reached its own
listener since it was built. Before the last tick no such event came, unless that is the first one
of the run; and a quit event of the engine's own is queued only when the limit is reached. -/
theorem exit_code_is_of_the_last_quit {m : ManagerId} {settings : Config.EngineSettings}
    {g₀ : Engine} {w₀ v₀ : World σ} {ops₀ : List Op} {next₀ : Engine → Program σ Bool}
    {next : Option Engine.Report → Program σ Bool} {stack₀ stack : List (Waiting σ)} {j : Nat}
    {deltas : List Duration} {report : Engine.Report}
    (created : Works behaviour (Engine.create m settings) w₀ ops₀ g₀ v₀)
    (history : Ticked behaviour g₀ ⟨.program (next₀ g₀), stack₀, v₀⟩ j deltas g
      ⟨.program ((Engine.run limit g).bind next), stack, w⟩)
    (ran : Works behaviour (Engine.run limit g) w ops (some report) v) :
    let built : State σ := ⟨.program (next₀ g₀), stack₀, v₀⟩
    ∃ k < limit, ∃ deltas h p later u last x n,
      Ticked behaviour g₀ built (j + k) deltas h ⟨.program p, stack, u⟩ ∧
      h.turn.Begins p later ∧ Works behaviour h.turn u last (begun h u, false) x ∧
      (k = 0 ∨ ¬ QuitReaches behaviour g₀.quit built ⟨.program p, stack, u⟩) ∧
      report.ticks = (UInt64.ofNat (j + k + 1)).toNat ∧
      (∀ m' q, .enqueue m' q ∈ ops → m' = m ∧ q.event = .engine (.quit 0) ∧
        0 < settings.maxTicks ∧ settings.maxTicks.toNat ≤ j + k + 1) ∧
      after behaviour n built = some ⟨.program (next (some report)), stack, v⟩ ∧
      (receipts behaviour g₀.quit n built).getLast? = some report.exitCode := by
  intro built
  have new := create_new created
  obtain ⟨_, _, role⟩ := history.run.quits new.quit
  rw [← history.later.quit] at role
  obtain ⟨k, h, u, before, last, x, enough, goes, ends, acts, number, -⟩ := run_works ran
  obtain ⟨deltas, p, later, ticked, begins⟩ := run_ticked history goes enough
  obtain ⟨n, whole⟩ := history.run.trans (ran.yields next stack)
  refine ⟨k, enough, deltas, h, p, later, u, last, x, n, ticked, begins, ends, ?_, ?_, ?_, whole,
    ?_⟩
  · -- ticks that go on leave the listener running
    obtain ⟨_, _, atLast, early⟩ := goes.quits (w := announced g w) role
    refine early.imp_right fun runs came => ?_
    obtain ⟨_, stopped⟩ := (stopped_iff new.quit ticked.run (by rintro e ⟨⟩)).mpr came
    rw [← history.later.quit, atLast, runs] at stopped
    cases stopped
  · have onward : g₀.Later (j + k + 1) (begun h u) := ticked.later.trans (.begin ..)
    rw [number, onward.tick, new.tick, UInt64.zero_add]
  · intro m' q queued
    have own : .enqueue m' q ∈ (before ++ last).filter (·.acts) :=
      acts ▸ List.mem_filter.mpr ⟨queued, rfl⟩
    rw [← new.manager, ← new.settings]
    exact run_queues new.tick history.later goes ends (List.mem_filter.mp own).1
  · apply receipts_getLast? new.quit whole
    rw [← history.later.quit]
    exact run_remembers ran role

/-- A listener quits in the third tick of an engine with a limit of four, the second one of its
run. The limit has no part in that. -/
theorem quit_before_the_limit_is_reported :
    let behaviour : Behaviour Unit := fun _ e =>
      if e.event = .engine (.update 3 .zero) then do
        Program.enqueueNew 0 (.engine (.quit 3))
        pure false
      else pure false
    let setup : Program Unit Unit := do
      let m ← Program.ask (.newManager default)
      let l ← Program.ask (.newListener "quitter" .custom)
      let _ ← Program.connect m l Kind.update.typeId
    ∃ (next₀ : Engine → Program Unit Bool) (next : Option Engine.Report → Program Unit Bool),
    ∃ w₀ ops₀ g₀ v₀ g w ops report v, Yields behaviour setup (World.initial ()) () w₀ ∧
      Works behaviour (Engine.create 0 { maxTicks := 4 }) w₀ ops₀ g₀ v₀ ∧
      Ticked behaviour g₀ ⟨.program (next₀ g₀), [], v₀⟩ 1 [.zero] g
        ⟨.program ((Engine.run 5 g).bind next), [], w⟩ ∧
      Works behaviour (Engine.run 5 g) w ops (some report) v ∧
      report.ticks = 3 ∧ report.exitCode = 3 ∧ (∀ m q, .enqueue m q ∉ ops) ∧
      ∃ n, (receipts behaviour g₀.quit n ⟨.program (next₀ g₀), [], v₀⟩).getLast? = some 3 := by
  intro behaviour setup
  let next : Option Engine.Report → Program Unit Bool := fun _ => .done true
  let next₁ : Engine × Bool → Program Unit Bool := fun result =>
    (Engine.run 5 result.1).bind next
  let next₀ : Engine → Program Unit Bool := fun g => g.turn.bind next₁
  have ran : comesTo behaviour 2 setup (World.initial ()) (fun _ w₀ =>
      comesTo behaviour 2 (Engine.create 0 { maxTicks := 4 }) w₀ fun g₀ v₀ =>
        (v₀.readClock g₀.manager).1.since g₀.lastTick == .zero &&
        comesTo behaviour 2 g₀.turn v₀ fun result w =>
          comesTo behaviour 2 (Engine.run 5 result.1) w fun ended _ =>
            ended.any fun report => report.ticks == 3 && report.exitCode == 3) = true := by cbv
  obtain ⟨_, _, w₀, sets, ran⟩ := Works.checked ran
  obtain ⟨ops₀, g₀, v₀, created, ran⟩ := Works.checked ran
  obtain ⟨still, ran⟩ := Bool.and_eq_true_iff.mp ran
  obtain ⟨_, ⟨g, goesOn⟩, w, ticks, ran⟩ := Works.checked ran
  obtain ⟨ops, _, v, works, ended⟩ := Works.checked ran
  obtain ⟨report, rfl, told⟩ := (Option.any_eq_true ..).mp ended
  rw [Bool.and_eq_true, beq_iff_eq, beq_iff_eq] at told
  rw [beq_iff_eq] at still
  have started : Ticked behaviour g₀ ⟨.program (next₀ g₀), [], v₀⟩ 0 [] g₀
    ⟨.program (g₀.turn.bind next₁), [], v₀⟩ := .built
  have history := started.ticks (.bind .itself next₁) ticks
  rw [turn_deltas ticks, still] at history
  obtain ⟨k, few, _, _, _, _, _, _, _, n, -, -, -, -, number, queued, -, last⟩ :=
    exit_code_is_of_the_last_quit created history works
  rw [told.1, UInt64.toNat_ofNat'] at number
  rw [told.2] at last
  refine ⟨next₀, next, w₀, ops₀, g₀, v₀, g, w, ops, report, v, sets.yields, created, history, works,
    told.1, told.2, fun m q asked => ?_, n, last⟩
  obtain ⟨-, -, -, late⟩ := queued m q asked
  have limit : 4 ≤ 1 + k + 1 := late
  omega

/-- A termination signal comes before the only tick that an engine may make. It reaches the engine
in that tick, but the quit that the engine itself queues there at its limit comes after it, so the
report does not tell of the signal. -/
theorem tick_limit_replaces_exit_code :
    let behaviour : Behaviour Unit := fun _ _ => .done false
    let host : Program Unit Engine := do
      let m ← Program.ask (.newManager default)
      let g ← Engine.create m { maxTicks := 1 }
      receiveSignal "SIGINT"
      pure g
    let next : Option Engine.Report → Program Unit Bool := fun _ => .done true
    ∃ g w report v n, Yields behaviour host (World.initial ()) g w ∧ g.settings.maxTicks = 1 ∧
      (w.manager g.manager).queue.pending.map (·.event) = #[.engine (.quit signalExitCode)] ∧
      Yields behaviour (Engine.run 1 g) w (some report) v ∧ report.ticks = 1 ∧
      receipts behaviour g.quit n ⟨.program ((Engine.run 1 g).bind next), [], w⟩ =
        [signalExitCode, 0] ∧
      report.exitCode = 0 := by
  intro behaviour host next
  have ran : comesTo behaviour 2 host (World.initial ()) (fun g w =>
      (g.settings.maxTicks == 1 &&
        (w.manager g.manager).queue.pending.map (·.event) == #[.engine (.quit signalExitCode)]) &&
      (receipts behaviour g.quit 40 ⟨.program ((Engine.run 1 g).bind next), [], w⟩ ==
          [signalExitCode, 0] &&
        comesTo behaviour 2 (Engine.run 1 g) w fun ended _ =>
          ended.any fun report => report.ticks == 1 && report.exitCode == 0)) = true := by cbv
  obtain ⟨g, w, hosts, ran⟩ := Yields.checked ran
  obtain ⟨asked, ran⟩ := Bool.and_eq_true_iff.mp ran
  obtain ⟨delivered, ran⟩ := Bool.and_eq_true_iff.mp ran
  obtain ⟨_, v, runs, ended⟩ := Yields.checked ran
  obtain ⟨report, rfl, told⟩ := (Option.any_eq_true ..).mp ended
  simp only [Bool.and_eq_true, beq_iff_eq] at asked delivered told
  exact ⟨g, w, report, v, 40, hosts, asked.1, asked.2, runs, told.1, delivered, told.2⟩

end EventEngine.Machine
