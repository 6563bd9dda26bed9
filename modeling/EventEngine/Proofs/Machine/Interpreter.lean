import EventEngine.Proofs.Machine.Step

/-! The step machine and the interpreter are one semantics. A computation of the interpreter
is followed step by step; where the interpreter gives up because calls nest deeper than it
may follow, the machine goes on for at least as many steps. -/
namespace EventEngine.Machine

open Manager (Tally)

variable {σ α : Type} {behaviour : Behaviour σ}

def Lasts (behaviour : Behaviour σ) (n : Nat) (c : State σ) : Prop :=
  ∃ d, after behaviour n c = some d

theorem Lasts.step {c d : State σ} (moved : step behaviour c = some d)
    (lasts : Lasts behaviour n d) : Lasts behaviour (n + 1) c := by
  obtain ⟨last, run⟩ := lasts
  exact ⟨last, by simp only [after, moved, Option.bind_some, run]⟩

theorem Lasts.pred {c : State σ} (lasts : Lasts behaviour (n + 1) c) : Lasts behaviour n c := by
  obtain ⟨last, run⟩ := lasts
  rw [after_succ] at run
  obtain ⟨before, run, _⟩ := Option.bind_eq_some_iff.mp run
  exact ⟨before, run⟩

theorem Lasts.reach {c d : State σ} (run : Reaches behaviour c d) (lasts : Lasts behaviour n d) :
    Lasts behaviour n c := by
  obtain ⟨k, run⟩ := run
  obtain ⟨last, rest⟩ := lasts
  induction k with
  | zero => exact ⟨last, Option.some.inj run ▸ rest⟩
  | succ k ih =>
    have whole : Lasts behaviour (n + (k + 1)) c :=
      ⟨last, by rw [Nat.add_comm, after_add, run, Option.bind_some, rest]⟩
    clear ih run
    induction k with
    | zero => exact whole.pred
    | succ k ih => exact ih whole.pred

/-- The machine comes to where the interpreter ends, or lasts for `depth` steps if the
interpreter does not come to an end. -/
def Follows (behaviour : Behaviour σ) (depth : Nat) (c : State σ) : Option (State σ) → Prop
  | some d => Reaches behaviour c d
  | none => Lasts behaviour depth c

namespace Follows

variable {c d : State σ} {target : Option (State σ)}

theorem after_run (run : Reaches behaviour c d) (rest : Follows behaviour depth d target) :
    Follows behaviour depth c target := by
  cases target with
  | none => exact Lasts.reach run rest
  | some last => exact run.trans rest

theorem after_step (moved : step behaviour c = some d)
    (rest : Follows behaviour depth d target) : Follows behaviour depth c target :=
  after_run (.single moved) rest

theorem deeper (moved : step behaviour c = some d) (rest : Follows behaviour depth d target) :
    Follows behaviour (depth + 1) c target := by
  cases target with
  | none => exact Lasts.step moved rest
  | some last => exact (Reaches.single moved).trans rest

/-- Where the interpreter ends, the machine goes on by one more step. -/
theorem then_step {result : Option α} {first second : α → State σ}
    (run : Follows behaviour depth c (result.map first))
    (moved : ∀ a, step behaviour (first a) = some (second a)) :
    Follows behaviour depth c (result.map second) := by
  cases result with
  | none => exact run
  | some a => exact run.trans (.single (moved a))

/-- The machine goes on from where the interpreter ends. -/
theorem bind {result : Option α} {first : α → State σ} {next : α → Option (State σ)}
    (run : Follows behaviour depth c (result.map first))
    (rest : ∀ a, Follows behaviour depth (first a) (next a)) :
    Follows behaviour depth c (result.bind next) := by
  cases result with
  | none => exact run
  | some a => exact after_run run (rest a)

end Follows

/-- The state in which the outcome of a call is passed on. -/
def passOn (stack : List (Waiting σ)) (result : Outcome Bool × World σ) : State σ :=
  ⟨.outcome result.1, stack, result.2⟩

section
variable {depth : Nat}

/-- How calls of listeners are followed at a depth. -/
def CallsFollow (behaviour : Behaviour σ) (depth : Nat) (call : Calls σ) : Prop :=
  ∀ l e stack w, Follows behaviour depth ⟨.call l e, stack, w⟩ ((call l e w).map (passOn stack))

theorem walk_follows {call : Calls σ} (calls : CallsFollow behaviour depth call)
    (m : ManagerId) (frame : UInt64) (e : EventRef) (rest : List ListenerId) (tally : Tally)
    (stack : List (Waiting σ)) (w : World σ) :
    Follows behaviour depth ⟨.walk m frame e rest tally, stack, w⟩
      ((World.walk call m frame e rest tally w).map (passOn stack)) := by
  induction rest generalizing tally w with
  | nil => exact .after_step rfl (.refl _)
  | cons l rest ih =>
    by_cases gone : w.isAlive l = false
    · have moved : step behaviour ⟨.walk m frame e (l :: rest) tally, stack, w⟩ =
          some ⟨.walk m frame e rest { tally with
            pruned := tally.pruned + (w.pruneOne m frame e.typeId l).1.toNat }, stack,
            (w.pruneOne m frame e.typeId l).2⟩ := by
        simp only [step, visit, if_pos gone]
      refine .after_step moved ?_
      simp only [World.walk, if_pos gone]
      exact ih _ _
    · by_cases left : (w.manager m).registry.removedDuring frame l = true
      · have moved : step behaviour ⟨.walk m frame e (l :: rest) tally, stack, w⟩ =
            some ⟨.walk m frame e rest tally, stack, w⟩ := by
          simp only [step, visit, if_neg gone, if_pos left]
        refine .after_step moved ?_
        simp only [World.walk, if_neg gone, if_pos left]
        exact ih tally w
      · have called := calls l e (.walk m frame e l rest { tally with invoked := tally.invoked + 1 }
          :: stack) (w.invoke m frame l e)
        have moved : step behaviour ⟨.walk m frame e (l :: rest) tally, stack, w⟩ =
            some ⟨.call l e, .walk m frame e l rest { tally with invoked := tally.invoked + 1 }
              :: stack, w.invoke m frame l e⟩ := by
          simp only [step, visit, if_neg gone, if_neg left]
        refine .after_step moved ?_
        simp only [World.walk, if_neg gone, if_neg left]
        cases answered : call l e (w.invoke m frame l e) with
        | none =>
          rw [answered] at called
          exact called
        | some result =>
          rw [answered] at called
          refine .after_run called ?_
          obtain ⟨outcome, w'⟩ := result
          cases outcome with
          | panicked message => exact .single rfl
          | returned consumed =>
            cases consumed with
            | true => exact .single rfl
            | false => exact .after_step rfl (ih _ _)

theorem dispatch_follows {call : Calls σ} (calls : CallsFollow behaviour depth call)
    (m : ManagerId) (e : EventRef) (stack : List (Waiting σ)) (w : World σ) :
    Follows behaviour depth ⟨.dispatch m e, stack, w⟩
      ((World.dispatch call m e w).map (passOn stack)) := by
  unfold World.dispatch
  rcases begun : w.beginDispatch m e with ⟨_ | ⟨frame, list⟩, w'⟩
  · exact .single (by simp only [step, begun, passOn])
  · exact .after_step (by simp only [step, begun]) (walk_follows calls m frame e list {} stack w')

theorem drain_follows {call : Calls σ} (calls : CallsFollow behaviour depth call)
    (m : ManagerId) (budget : Option Duration) (started : Timestamp) (turns delivered : Nat)
    (stack : List (Waiting σ)) (w : World σ) :
    Follows behaviour depth ⟨.drain m budget started turns delivered, stack, w⟩
      ((World.drain (World.dispatch call m) m budget started turns delivered w).map
        (passOn stack)) := by
  induction turns generalizing delivered w with
  | zero => exact .single rfl
  | succ turns ih =>
    unfold World.drain
    rcases taken : w.takeDue m budget started delivered with ⟨_ | e, w'⟩
    · exact .single (by simp only [step, taken]; rfl)
    · refine .after_step (d := ⟨.dispatch m e, .drain m budget started turns delivered :: stack, w'⟩)
        (by simp only [step, taken]) ?_
      dsimp only
      have dispatched := dispatch_follows calls m e
        (.drain m budget started turns delivered :: stack) w'
      cases answered : World.dispatch call m e w' with
      | none =>
        rw [answered] at dispatched
        exact dispatched
      | some result =>
        rw [answered] at dispatched
        refine .after_run dispatched ?_
        obtain ⟨outcome, w''⟩ := result
        cases outcome with
        | panicked message => exact .single rfl
        | returned _ => exact .after_step rfl (ih _ _)

theorem execute_follows {call : Calls σ} (calls : CallsFollow behaviour depth call)
    (m : ManagerId) (budget : Option Duration) (stack : List (Waiting σ)) (w : World σ) :
    Follows behaviour depth ⟨.execute m budget, stack, w⟩
      ((World.execute call m budget w).map (passOn stack)) := by
  unfold World.execute
  rcases begun : w.beginDrain m with ⟨_ | ⟨started, turns⟩, w'⟩
  · exact .single (by simp only [step, begun, passOn])
  · exact .after_step (by simp only [step, begun])
      (drain_follows calls m budget started turns 0 stack w')

/-- How operations are followed at a depth. -/
def OperationsFollow (behaviour : Behaviour σ) (depth : Nat) : Prop :=
  ∀ op next stack w, Follows behaviour depth ⟨.program (.call op next), stack, w⟩
    ((World.perform behaviour depth op w).map fun result => ⟨.program (next result.1), stack, result.2⟩)

theorem run_follows (operations : OperationsFollow behaviour depth) (p : Program σ Bool)
    (stack : List (Waiting σ)) (w : World σ) :
    Follows behaviour depth ⟨.program p, stack, w⟩ ((p.run behaviour depth w).map (passOn stack)) := by
  induction p generalizing w with
  | done consumed => exact .single rfl
  | panic message => exact .single rfl
  | call op next ih =>
    have asked := operations op next stack w
    simp only [Program.run, Program.runWith]
    cases answered : World.perform behaviour depth op w with
    | none =>
      rw [answered] at asked
      exact asked
    | some result =>
      rw [answered] at asked
      exact .after_run asked (ih result.1 result.2)
  | read next ih => exact .after_step rfl (ih w.memory w)
  | change f next ih => exact .after_step rfl (ih _)

theorem handle_follows (operations : OperationsFollow behaviour depth) :
    CallsFollow behaviour depth (World.handle behaviour (World.perform behaviour depth)) := by
  intro l e stack w
  unfold World.handle
  cases role : (w.listener l).role with
  | custom =>
    exact .after_step (by simp only [step, handle, role]) (run_follows operations _ stack w)
  | quit running exitCode => exact .single (by simp only [step, handle, role]; rfl)
  | frames updates renders => exact .single (by simp only [step, handle, role]; rfl)

end

theorem perform_follows (behaviour : Behaviour σ) (depth : Nat) :
    OperationsFollow behaviour depth := by
  induction depth with
  | zero => intro op next stack w; exact ⟨_, rfl⟩
  | succ depth ih =>
    intro op next stack w
    have calls := handle_follows ih
    cases op with
    | dispatch m e =>
      exact .deeper rfl ((dispatch_follows calls m e (.program next :: stack) w).then_step
        fun _ => rfl)
    | execute m budget =>
      exact .deeper rfl ((execute_follows calls m budget (.program next :: stack) w).then_step
        fun _ => rfl)
    | callListener l e =>
      simp only [World.perform, World.callListener]
      by_cases alive : w.isAlive l = true
      · have called := calls l e (.direct l next :: stack) (w.enter l)
        refine .deeper (d := ⟨.call l e, .direct l next :: stack, w.enter l⟩)
          (by simp only [step, proceed, ask, alive, if_true]) ?_
        simp only [alive, if_true]
        cases answered : World.handle behaviour (World.perform behaviour depth) l e (w.enter l) with
        | none =>
          rw [answered] at called
          exact called
        | some result =>
          rw [answered] at called
          refine .after_run called ?_
          obtain ⟨outcome, w'⟩ := result
          cases outcome <;> exact .single rfl
      · simp only [alive]
        exact .single (by simp only [step, proceed, ask, alive]; rfl)
    | _ => exact .single rfl

/-- A run of the interpreter is a run of the machine. -/
theorem run_reaches {p : Program σ Bool} {w w' : World σ} {o : Outcome Bool}
    (ran : p.run behaviour depth w = some (o, w')) (stack : List (Waiting σ)) :
    Reaches behaviour ⟨.program p, stack, w⟩ ⟨.outcome o, stack, w'⟩ := by
  have run := run_follows (perform_follows behaviour depth) p stack w
  rwa [ran] at run

/-- The two semantics agree: the interpreter ends for some depth exactly where the machine
does. -/
theorem run_iff {p : Program σ Bool} {w w' : World σ} {o : Outcome Bool} :
    (∃ depth, p.run behaviour depth w = some (o, w')) ↔
      Reaches behaviour ⟨.program p, [], w⟩ ⟨.outcome o, [], w'⟩ := by
  constructor
  · rintro ⟨depth, ran⟩
    exact run_reaches ran []
  · rintro ⟨n, run⟩
    have followed := run_follows (perform_follows behaviour (n + 1)) p [] w
    cases ran : p.run behaviour (n + 1) w with
    | none =>
      rw [ran] at followed
      obtain ⟨later, onwards⟩ := followed
      rw [after_succ, run] at onwards
      contradiction
    | some result =>
      obtain ⟨o', last⟩ := result
      rw [ran] at followed
      obtain ⟨k, other⟩ := followed
      refine ⟨n + 1, ?_⟩
      cases after_ended run other
      cases run.symm.trans other
      exact ran

end EventEngine.Machine
