import EventEngine.Proofs.Machine.Step

/-! What a step does, kind by kind, and when. What holds of every step is shown by cases of this
account; that a step is made is shown by telling its kind. -/
namespace EventEngine.Machine

variable {σ : Type}

/-- The kinds of steps. -/
inductive Moves (behaviour : Behaviour σ) : State σ → State σ → Prop
  -- A program goes on.
  | finishes :
    Moves behaviour ⟨.program (.done consumed), stack, w⟩ ⟨.outcome (.returned consumed), stack, w⟩
  | panics :
    Moves behaviour ⟨.program (.panic message), stack, w⟩ ⟨.outcome (.panicked message), stack, w⟩
  | reads : Moves behaviour ⟨.program (.read next), stack, w⟩ ⟨.program (next w.memory), stack, w⟩
  | changes :
    Moves behaviour ⟨.program (.change f next), stack, w⟩
      ⟨.program next, stack, { w with memory := f w.memory }⟩
  | carriesOut {result : op.Reply × World σ} (carried : w.carryOut op = some result) :
    Moves behaviour ⟨.program (.call op next), stack, w⟩
      ⟨.program (next (.returned result.1)), stack, result.2⟩
  | misses (gone : w.isAlive l = false) :
    Moves behaviour ⟨.program (.call (.callListener l e) next), stack, w⟩
      ⟨.program (next (.returned none)), stack, w⟩
  | callsListener (alive : w.isAlive l = true) :
    Moves behaviour ⟨.program (.call (.callListener l e) next), stack, w⟩
      ⟨.call l e, .direct l next :: stack, w.enter l⟩
  | dispatches :
    Moves behaviour ⟨.program (.call (.dispatch m e) next), stack, w⟩
      ⟨.dispatch m e, .program next :: stack, w⟩
  | executes :
    Moves behaviour ⟨.program (.call (.execute m budget) next), stack, w⟩
      ⟨.execute m budget, .program next :: stack, w⟩
  -- A listener handles an event.
  | handles (role : (w.listener l).role = .custom) :
    Moves behaviour ⟨.call l e, stack, w⟩ ⟨.program (behaviour l e), stack, w⟩
  | receivesQuit (role : (w.listener l).role = .quit running exitCode) :
    Moves behaviour ⟨.call l e, stack, w⟩
      ⟨.outcome (.returned (w.receiveQuit l e).1), stack, (w.receiveQuit l e).2⟩
  | countsFrame (role : (w.listener l).role = .frames updates renders) :
    Moves behaviour ⟨.call l e, stack, w⟩
      ⟨.outcome (.returned false), stack, w.countFrame l updates renders e⟩
  -- A dispatch begins and comes to its listeners.
  | unheard (unlisted : (w.manager m).registry.table.list? e.typeId = none) :
    Moves behaviour ⟨.dispatch m e, stack, w⟩
      ⟨.outcome (.returned false), stack, (w.beginDispatch m e).2⟩
  | heard (listed : (w.manager m).registry.table.list? e.typeId = some list) :
    Moves behaviour ⟨.dispatch m e, stack, w⟩
      ⟨.walk m (w.manager m).registry.nextFrame e list {}, stack, (w.beginDispatch m e).2⟩
  | prunes (gone : w.isAlive l = false) :
    Moves behaviour ⟨.walk m frame e (l :: rest) tally, stack, w⟩
      ⟨.walk m frame e rest
        { tally with pruned := tally.pruned + (w.pruneOne m frame e.typeId l).1.toNat },
        stack, (w.pruneOne m frame e.typeId l).2⟩
  | skips (alive : w.isAlive l = true)
    (left : (w.manager m).registry.removedDuring frame l = true) :
    Moves behaviour ⟨.walk m frame e (l :: rest) tally, stack, w⟩
      ⟨.walk m frame e rest tally, stack, w⟩
  | visits (alive : w.isAlive l = true)
    (stays : (w.manager m).registry.removedDuring frame l = false) :
    Moves behaviour ⟨.walk m frame e (l :: rest) tally, stack, w⟩
      ⟨.call l e, .walk m frame e l rest { tally with invoked := tally.invoked + 1 } :: stack,
        w.invoke m frame l e⟩
  | concludes :
    Moves behaviour ⟨.walk m frame e [] tally, stack, w⟩
      ⟨.outcome (.returned false), stack, w.conclude m frame e false tally⟩
  -- A drain begins and comes to its turns.
  | refuses (refused : (w.beginDrain m).1 = none) :
    Moves behaviour ⟨.execute m budget, stack, w⟩
      ⟨.outcome (.returned false), stack, (w.beginDrain m).2⟩
  | begins (begun : (w.beginDrain m).1 = some (started, turns)) :
    Moves behaviour ⟨.execute m budget, stack, w⟩
      ⟨.drain m budget started turns 0, stack, (w.beginDrain m).2⟩
  | ends :
    Moves behaviour ⟨.drain m budget started 0 delivered, stack, w⟩ (endTurns stack m delivered w)
  | stops (stopped : (w.takeDue m budget started delivered).1 = none) :
    Moves behaviour ⟨.drain m budget started (turns + 1) delivered, stack, w⟩
      (endTurns stack m delivered (w.takeDue m budget started delivered).2)
  | takes (taken : (w.takeDue m budget started delivered).1 = some e) :
    Moves behaviour ⟨.drain m budget started (turns + 1) delivered, stack, w⟩
      ⟨.dispatch m e, .drain m budget started turns delivered :: stack,
        (w.takeDue m budget started delivered).2⟩
  -- An outcome is passed on.
  | answers :
    Moves behaviour ⟨.outcome o, .program next :: stack, w⟩ ⟨.program (next o), stack, w⟩
  | answersCaller :
    Moves behaviour ⟨.outcome (.returned consumed), .direct l next :: stack, w⟩
      ⟨.program (next (.returned (some consumed))), stack, w.leave l⟩
  | panicsCaller :
    Moves behaviour ⟨.outcome (.panicked message), .direct l next :: stack, w⟩
      ⟨.program (next (.panicked message)), stack, w.leave l⟩
  | consumes :
    Moves behaviour ⟨.outcome (.returned true), .walk m frame e l rest tally :: stack, w⟩
      ⟨.outcome (.returned true), stack, (w.consume m frame l e).conclude m frame e true tally⟩
  | declines :
    Moves behaviour ⟨.outcome (.returned false), .walk m frame e l rest tally :: stack, w⟩
      ⟨.walk m frame e rest tally, stack, w.leave l⟩
  | unwindsDispatch :
    Moves behaviour ⟨.outcome (.panicked message), .walk m frame e l rest tally :: stack, w⟩
      ⟨.outcome (.panicked message), stack, (w.leave l).unwindDispatch m frame⟩
  | delivers :
    Moves behaviour
      ⟨.outcome (.returned consumed), .drain m budget started turns delivered :: stack, w⟩
      ⟨.drain m budget started turns (delivered + 1), stack, w⟩
  | unwindsDrain :
    Moves behaviour
      ⟨.outcome (.panicked message), .drain m budget started turns delivered :: stack, w⟩
      ⟨.outcome (.panicked message), stack, w.unwindDrain m⟩

variable {behaviour : Behaviour σ} {c d : State σ} {stack : List (Waiting σ)} {w : World σ}

theorem ask_moves {op : Op} {next : Outcome op.Reply → Program σ Bool}
    (asked : ask stack w op next = some d) :
    Moves behaviour ⟨.program (.call op next), stack, w⟩ d := by
  have carried (op : Op) (next : Outcome op.Reply → Program σ Bool)
      (asked : ((w.carryOut op).map fun result =>
        (⟨.program (next (.returned result.1)), stack, result.2⟩ : State σ)) = some d) :
      Moves behaviour ⟨.program (.call op next), stack, w⟩ d := by
    obtain ⟨result, carried, rfl⟩ := Option.map_eq_some_iff.mp asked
    exact .carriesOut carried
  cases op with
  | dispatch m e =>
    cases asked
    exact .dispatches
  | execute m budget =>
    cases asked
    exact .executes
  | callListener l e =>
    simp only [ask] at asked
    split at asked
    case isTrue alive =>
      cases asked
      exact .callsListener alive
    case isFalse gone =>
      cases asked
      exact .misses (Bool.eq_false_iff.mpr gone)
  | _ => exact carried _ next asked

theorem handle_moves (behaviour : Behaviour σ) (l : ListenerId) (e : EventRef) :
    Moves behaviour ⟨.call l e, stack, w⟩ (handle behaviour stack w l e) := by
  unfold handle
  split
  case h_1 role => exact .handles role
  case h_2 role => exact .receivesQuit role
  case h_3 role => exact .countsFrame role

/-- A dispatch walks a copy of the list of its category, if there is one. -/
theorem beginDispatch_fst (m : ManagerId) (e : EventRef) (w : World σ) :
    (w.beginDispatch m e).1 = ((w.manager m).registry.table.list? e.typeId).map fun list =>
      ((w.manager m).registry.nextFrame, list) := by
  have noted : ((w.note (.dispatched m e)).manager m).registry = (w.manager m).registry := rfl
  simp only [World.beginDispatch, noted]
  cases (w.manager m).registry.table.list? e.typeId <;> rfl

theorem dispatch_moves {m : ManagerId} {e : EventRef}
    (moved : step behaviour ⟨.dispatch m e, stack, w⟩ = some d) :
    Moves behaviour ⟨.dispatch m e, stack, w⟩ d := by
  have answer := beginDispatch_fst m e w
  simp only [step] at moved
  split at moved
  case h_1 w' begun =>
    obtain rfl : (w.beginDispatch m e).2 = w' := congrArg Prod.snd begun
    cases moved
    rw [begun] at answer
    exact .unheard (Option.map_eq_none_iff.mp answer.symm)
  case h_2 w' begun =>
    obtain rfl : (w.beginDispatch m e).2 = w' := congrArg Prod.snd begun
    cases moved
    rw [begun] at answer
    obtain ⟨list, listed, same⟩ := Option.map_eq_some_iff.mp answer.symm
    cases same
    exact .heard listed

theorem execute_moves {m : ManagerId} {budget : Option Duration}
    (moved : step behaviour ⟨.execute m budget, stack, w⟩ = some d) :
    Moves behaviour ⟨.execute m budget, stack, w⟩ d := by
  simp only [step] at moved
  split at moved
  case h_1 w' begun =>
    obtain rfl : (w.beginDrain m).2 = w' := congrArg Prod.snd begun
    cases moved
    exact .refuses (congrArg Prod.fst begun)
  case h_2 w' begun =>
    obtain rfl : (w.beginDrain m).2 = w' := congrArg Prod.snd begun
    cases moved
    exact .begins (congrArg Prod.fst begun)

theorem drain_moves {m : ManagerId} {budget : Option Duration} {started : Timestamp}
    {turns delivered : Nat}
    (moved : step behaviour ⟨.drain m budget started turns delivered, stack, w⟩ = some d) :
    Moves behaviour ⟨.drain m budget started turns delivered, stack, w⟩ d := by
  cases turns with
  | zero =>
    cases moved
    exact .ends
  | succ turns =>
    simp only [step] at moved
    split at moved
    case h_1 w' taken =>
      obtain rfl : (w.takeDue m budget started delivered).2 = w' := congrArg Prod.snd taken
      cases moved
      exact .stops (congrArg Prod.fst taken)
    case h_2 w' taken =>
      obtain rfl : (w.takeDue m budget started delivered).2 = w' := congrArg Prod.snd taken
      cases moved
      exact .takes (congrArg Prod.fst taken)

theorem visit_moves (m : ManagerId) (frame : UInt64) (e : EventRef) (tally : Manager.Tally)
    (rest : List ListenerId) :
    Moves behaviour ⟨.walk m frame e rest tally, stack, w⟩ (visit stack w m frame e tally rest) := by
  cases rest with
  | nil => exact .concludes
  | cons l rest =>
    cases alive : w.isAlive l with
    | false =>
      simp only [visit, alive, if_true]
      exact .prunes alive
    | true =>
      cases left : (w.manager m).registry.removedDuring frame l with
      | true =>
        simp only [visit, alive, left, Bool.true_eq_false, if_false, if_true]
        exact .skips alive left
      | false =>
        simp only [visit, alive, left, Bool.true_eq_false, Bool.false_eq_true, if_false]
        exact .visits alive left

theorem resume_moves (o : Outcome Bool) (top : Waiting σ) :
    Moves behaviour ⟨.outcome o, top :: stack, w⟩ (resume o stack w top) := by
  cases top with
  | program next => exact .answers
  | direct l next =>
    cases o with
    | returned consumed => exact .answersCaller
    | panicked message => exact .panicsCaller
  | walk m frame e l rest tally =>
    cases o with
    | panicked message => exact .unwindsDispatch
    | returned consumed =>
      cases consumed with
      | true => exact .consumes
      | false => exact .declines
  | drain m budget started turns delivered =>
    cases o with
    | panicked message => exact .unwindsDrain
    | returned consumed => exact .delivers

/-- Every step is of one of the kinds. -/
theorem step_moves (moved : step behaviour c = some d) : Moves behaviour c d := by
  obtain ⟨control, stack, w⟩ := c
  cases control with
  | program p =>
    cases p with
    | done consumed =>
      cases moved
      exact .finishes
    | panic message =>
      cases moved
      exact .panics
    | call op next => exact ask_moves moved
    | read next =>
      cases moved
      exact .reads
    | change f next =>
      cases moved
      exact .changes
  | call l e =>
    cases moved
    exact handle_moves behaviour l e
  | dispatch m e => exact dispatch_moves moved
  | walk m frame e rest tally =>
    cases moved
    exact visit_moves m frame e tally rest
  | execute m budget => exact execute_moves moved
  | drain m budget started turns delivered => exact drain_moves moved
  | outcome o =>
    cases stack with
    | nil => cases moved
    | cons top stack =>
      cases moved
      exact resume_moves o top

theorem step_dispatch_none {m : ManagerId} {e : EventRef}
    (unlisted : (w.manager m).registry.table.list? e.typeId = none) :
    step behaviour ⟨.dispatch m e, stack, w⟩ =
      some ⟨.outcome (.returned false), stack, (w.beginDispatch m e).2⟩ := by
  have answer := beginDispatch_fst m e w
  rw [unlisted] at answer
  simp only [step]
  split
  case h_1 begun => rw [begun]
  case h_2 begun =>
    rw [begun] at answer
    cases answer

theorem step_dispatch_some {m : ManagerId} {e : EventRef} {list : List ListenerId}
    (listed : (w.manager m).registry.table.list? e.typeId = some list) :
    step behaviour ⟨.dispatch m e, stack, w⟩ =
      some ⟨.walk m (w.manager m).registry.nextFrame e list {}, stack, (w.beginDispatch m e).2⟩ := by
  have answer := beginDispatch_fst m e w
  rw [listed] at answer
  simp only [step]
  split
  case h_1 begun =>
    rw [begun] at answer
    cases answer
  case h_2 begun =>
    rw [begun] at answer
    cases answer
    rw [begun]

/-- Every kind of step is made. -/
theorem Moves.step (moves : Moves behaviour c d) : step behaviour c = some d := by
  cases moves with
  | @carriesOut op =>
    rename_i carried
    cases op with
    | callListener | dispatch | execute => cases carried
    | _ => cases carried; rfl
  | misses gone => simp [Machine.step, proceed, ask, gone]
  | callsListener alive => simp only [Machine.step, proceed, ask, alive, if_true]
  | handles role | receivesQuit role | countsFrame role => simp only [Machine.step, handle, role]
  | unheard unlisted => exact step_dispatch_none unlisted
  | heard listed => exact step_dispatch_some listed
  | prunes gone => simp only [Machine.step, visit, gone, if_true]
  | skips alive left =>
    simp only [Machine.step, visit, alive, left, Bool.true_eq_false, if_false, if_true]
  | visits alive stays =>
    simp only [Machine.step, visit, alive, stays, Bool.true_eq_false, Bool.false_eq_true, if_false]
  | refuses refused =>
    simp only [Machine.step]
    split
    case h_1 answer => rw [answer]
    case h_2 answer => rw [answer] at refused; cases refused
  | begins begun =>
    simp only [Machine.step]
    split
    case h_1 answer => rw [answer] at begun; cases begun
    case h_2 answer => rw [answer] at begun ⊢; cases begun; rfl
  | stops stopped =>
    simp only [Machine.step]
    split
    case h_1 answer => rw [answer]
    case h_2 answer => rw [answer] at stopped; cases stopped
  | takes taken =>
    simp only [Machine.step]
    split
    case h_1 answer => rw [answer] at taken; cases taken
    case h_2 answer => rw [answer] at taken ⊢; cases taken; rfl
  | _ => rfl

end EventEngine.Machine
