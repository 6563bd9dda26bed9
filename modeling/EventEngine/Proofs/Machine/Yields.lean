import EventEngine.Proofs.Machine.Beneath
import EventEngine.Proofs.Machine.Interpreter

/-! Programs that go on with others. What a program comes to does not depend on what follows
it, so a long program is followed part by part. -/
namespace EventEngine

namespace Program

variable {σ α β γ : Type}

theorem bind_assoc (p : Program σ α) (f : α → Program σ β) (g : β → Program σ γ) :
    (p.bind f).bind g = p.bind fun a => (f a).bind g := by
  induction p with
  | done a => rfl
  | panic message => rfl
  | call op next ih => exact congrArg (call op) (funext ih)
  | read next ih => exact congrArg read (funext ih)
  | change h next ih => exact congrArg (change h) ih

end Program

namespace Machine

variable {σ α β : Type} {behaviour : Behaviour σ} {w v u : World σ}

/-- A program, begun in a world, comes to a result in another world, whatever follows it. -/
def Yields (behaviour : Behaviour σ) (p : Program σ α) (w : World σ) (a : α) (v : World σ) : Prop :=
  ∀ (next : α → Program σ Bool) (stack : List (Waiting σ)),
    Reaches behaviour ⟨.program (p.bind next), stack, w⟩ ⟨.program (next a), stack, v⟩

/-- A program, begun in a world, comes to wait for a dispatch or a drain in another world,
whatever follows it. -/
def Asks (behaviour : Behaviour σ) (p : Program σ α) (w : World σ) (control : Control σ)
    (v : World σ) : Prop :=
  ∀ (next : α → Program σ Bool) (stack : List (Waiting σ)), ∃ later,
    Reaches behaviour ⟨.program (p.bind next), stack, w⟩ ⟨control, .program later :: stack, v⟩

/-- What can be computed of the result of a program. -/
def comesTo (behaviour : Behaviour σ) (depth : Nat) (p : Program σ α) (w : World σ)
    (check : α → World σ → Bool) : Bool :=
  match p.run behaviour depth w with
  | some (.returned a, v) => check a v
  | _ => false

theorem ask_carried {op : Op} {result : op.Reply × World σ} {stack : List (Waiting σ)}
    {next : Outcome op.Reply → Program σ Bool} (carried : w.carryOut op = some result) :
    ask stack w op next = some ⟨.program (next (.returned result.1)), stack, result.2⟩ := by
  cases op with
  | callListener | dispatch | execute => cases carried
  | _ => simp only [ask, carried, Option.map_some]

namespace Yields

theorem done (a : α) (w : World σ) : Yields behaviour (.done a) w a w := fun _ _ => .refl _

theorem bind {p : Program σ α} {f : α → Program σ β} {a : α} {b : β}
    (first : Yields behaviour p w a v) (second : Yields behaviour (f a) v b u) :
    Yields behaviour (p.bind f) w b u := by
  intro next stack
  rw [Program.bind_assoc]
  exact (first _ stack).trans (second next stack)

theorem carried (op : Op) {result : op.Reply × World σ} (carried : w.carryOut op = some result) :
    Yields behaviour (Program.ask op) w result.1 result.2 :=
  fun _ _ => .single (ask_carried carried)

/-- A dispatch returns to the program that asked for it. -/
theorem dispatched {m : ManagerId} {e : EventRef} {consumed : Bool}
    (run : Reaches behaviour ⟨.dispatch m e, [], w⟩ ⟨.outcome (.returned consumed), [], v⟩) :
    Yields behaviour (Program.ask (.dispatch m e)) w consumed v := by
  intro next stack
  have asked : step behaviour ⟨.program ((Program.ask (.dispatch m e)).bind next), stack, w⟩ =
      some ⟨.dispatch m e,
        .program (fun outcome => (Program.ofOutcome outcome).bind next) :: stack, w⟩ := rfl
  exact (Reaches.single asked).trans ((run.over _).trans (.single rfl))

/-- A drain returns to the program that asked for it. -/
theorem executed {m : ManagerId} {budget : Option Duration} {drained : Bool}
    (run : Reaches behaviour ⟨.execute m budget, [], w⟩ ⟨.outcome (.returned drained), [], v⟩) :
    Yields behaviour (Program.ask (.execute m budget)) w drained v := by
  intro next stack
  have asked : step behaviour ⟨.program ((Program.ask (.execute m budget)).bind next), stack, w⟩ =
      some ⟨.execute m budget,
        .program (fun outcome => (Program.ofOutcome outcome).bind next) :: stack, w⟩ := rfl
  exact (Reaches.single asked).trans ((run.over _).trans (.single rfl))

/-- A program comes to what the interpreter gives. -/
theorem ofRun {p : Program σ α} {a : α} {depth : Nat}
    (ran : p.run behaviour depth w = some (.returned a, v)) : Yields behaviour p w a v := by
  intro next stack
  induction p generalizing w with
  | done b => cases ran; exact .refl _
  | panic message => cases ran
  | call op rest ih =>
    have asked := perform_follows behaviour depth op (fun outcome => (rest outcome).bind next) stack w
    simp only [Program.run, Program.runWith] at ran ih
    cases answered : World.perform behaviour depth op w with
    | none =>
      rw [answered] at ran
      cases ran
    | some result =>
      rw [answered] at ran asked
      exact asked.trans (ih result.1 ran)
  | read rest ih => exact Reaches.trans (.single rfl) (ih w.memory ran)
  | change f rest ih => exact Reaches.trans (.single rfl) (ih ran)

theorem checked {p : Program σ α} {depth : Nat} {check : α → World σ → Bool}
    (checked : comesTo behaviour depth p w check = true) :
    ∃ a v, Yields behaviour p w a v ∧ check a v = true := by
  unfold comesTo at checked
  split at checked
  case h_1 a v ran => exact ⟨a, v, .ofRun ran, checked⟩
  case h_2 => cases checked

/-- A program comes to one world. -/
theorem unique {p : Program σ α} {a b : α} (one : Yields behaviour p w a v)
    (other : Yields behaviour p w b u) : v = u := by
  obtain ⟨n, run⟩ := (one (fun _ => .done true) []).trans (.single rfl)
  obtain ⟨k, run'⟩ := (other (fun _ => .done true) []).trans (.single rfl)
  cases after_ended run run'
  cases run.symm.trans run'
  rfl

/-- A host comes to what follows a program that it begins with. -/
theorem reachable {p : Program σ α} {memory : σ} {a : α}
    (yields : Yields behaviour p (World.initial memory) a v) (next : α → Program σ Bool) :
    Reachable behaviour ⟨.program (next a), [], v⟩ :=
  ⟨_, memory, yields next []⟩

end Yields

namespace Asks

variable {control : Control σ}

theorem dispatch (m : ManagerId) (e : EventRef) (w : World σ) :
    Asks behaviour (Program.ask (.dispatch m e)) w (.dispatch m e) w :=
  fun _ _ => ⟨_, .single rfl⟩

theorem execute (m : ManagerId) (budget : Option Duration) (w : World σ) :
    Asks behaviour (Program.ask (.execute m budget)) w (.execute m budget) w :=
  fun _ _ => ⟨_, .single rfl⟩

theorem first {p : Program σ α} {f : α → Program σ β} (asks : Asks behaviour p w control v) :
    Asks behaviour (p.bind f) w control v := by
  intro next stack
  rw [Program.bind_assoc]
  exact asks _ stack

theorem later {p : Program σ α} {f : α → Program σ β} {a : α} (yields : Yields behaviour p w a v)
    (asks : Asks behaviour (f a) v control u) : Asks behaviour (p.bind f) w control u := by
  intro next stack
  rw [Program.bind_assoc]
  obtain ⟨waits, run⟩ := asks next stack
  exact ⟨waits, (yields _ stack).trans run⟩

end Asks

end Machine
end EventEngine
