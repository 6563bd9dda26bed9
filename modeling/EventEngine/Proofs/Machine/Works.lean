import EventEngine.Proofs.Machine.Calls
import EventEngine.Proofs.Machine.Yields

/-! What a program itself asks for. Each of its operations comes to an outcome, those that call
listeners by a run of their own, and the program goes on with it; so what a long program does is
known from what its parts do. -/
namespace EventEngine

namespace Program

/-- A program begins with another one and goes on with its result. A panic of the other one ends
the program, or is caught on its way. -/
inductive Begins {σ β : Type} (first : Program σ β) :
    {α : Type} → Program σ α → (β → Program σ α) → Prop
  | itself : Begins first first .done
  | bind {α γ : Type} {p : Program σ α} {next : β → Program σ α} (begins : Begins first p next)
    (f : α → Program σ γ) : Begins first (p.bind f) fun b => (next b).bind f
  | attempt {α : Type} {p : Program σ α} {next : β → Program σ α} (begins : Begins first p next) :
    Begins first p.attempt fun b => (next b).attempt

namespace Begins

variable {σ α β : Type} {p : Program σ α} {following : β → Program σ α}

theorem of_done {b : β} (begins : Begins (.done b) p following) : p = following b := by
  induction begins with
  | itself => rfl
  | bind _ f ih => exact congrArg (·.bind f) ih
  | attempt _ ih => exact congrArg Program.attempt ih

theorem of_call {op : Op} {next : Outcome op.Reply → Program σ β}
    (begins : Begins (.call op next) p following) :
    ∃ next', p = .call op next' ∧ ∀ o, Begins (next o) (next' o) following := by
  induction begins with
  | itself => exact ⟨next, rfl, fun o => .itself⟩
  | bind _ f ih =>
    obtain ⟨next', rfl, begins⟩ := ih
    exact ⟨_, rfl, fun o => (begins o).bind f⟩
  | attempt _ ih =>
    obtain ⟨next', rfl, begins⟩ := ih
    exact ⟨_, rfl, fun o => (begins o).attempt⟩

theorem of_read {next : σ → Program σ β} (begins : Begins (.read next) p following) :
    ∃ next', p = .read next' ∧ ∀ memory, Begins (next memory) (next' memory) following := by
  induction begins with
  | itself => exact ⟨next, rfl, fun memory => .itself⟩
  | bind _ f ih =>
    obtain ⟨next', rfl, begins⟩ := ih
    exact ⟨_, rfl, fun memory => (begins memory).bind f⟩
  | attempt _ ih =>
    obtain ⟨next', rfl, begins⟩ := ih
    exact ⟨_, rfl, fun memory => (begins memory).attempt⟩

theorem of_change {g : σ → σ} {next : Program σ β} (begins : Begins (.change g next) p following) :
    ∃ next', p = .change g next' ∧ Begins next next' following := by
  induction begins with
  | itself => exact ⟨next, rfl, .itself⟩
  | bind _ f ih =>
    obtain ⟨next', rfl, begins⟩ := ih
    exact ⟨_, rfl, begins.bind f⟩
  | attempt _ ih =>
    obtain ⟨next', rfl, begins⟩ := ih
    exact ⟨_, rfl, begins.attempt⟩

end Begins

end Program

namespace Machine

variable {σ α β : Type}

/-- An operation, begun in a world, comes to an outcome in another world. -/
inductive Performs (behaviour : Behaviour σ) :
    (op : Op) → World σ → Outcome op.Reply → World σ → Prop
  | carries {op : Op} {result : op.Reply × World σ} (carried : w.carryOut op = some result) :
    Performs behaviour op w (.returned result.1) result.2
  | dispatches (run : Reaches behaviour ⟨.dispatch m e, [], w⟩ ⟨.outcome o, [], v⟩) :
    Performs behaviour (.dispatch m e) w o v
  | executes (run : Reaches behaviour ⟨.execute m budget, [], w⟩ ⟨.outcome o, [], v⟩) :
    Performs behaviour (.execute m budget) w o v
  | misses (gone : w.isAlive l = false) :
    Performs behaviour (.callListener l e) w (.returned none) w
  | calls (alive : w.isAlive l = true)
    (run : Reaches behaviour ⟨.call l e, [], w.enter l⟩ ⟨.outcome (.returned consumed), [], v⟩) :
    Performs behaviour (.callListener l e) w (.returned (some consumed)) (v.leave l)
  | callPanics (alive : w.isAlive l = true)
    (run : Reaches behaviour ⟨.call l e, [], w.enter l⟩ ⟨.outcome (.panicked message), [], v⟩) :
    Performs behaviour (.callListener l e) w (.panicked message) (v.leave l)

/-- A program, begun in a world, comes to a result in another world after these operations. -/
inductive Works (behaviour : Behaviour σ) :
    Program σ α → World σ → List Op → α → World σ → Prop
  | done : Works behaviour (.done a) w [] a w
  | performs {op : Op} {next : Outcome op.Reply → Program σ α} {o : Outcome op.Reply}
    (first : Performs behaviour op w o u) (rest : Works behaviour (next o) u ops a v) :
    Works behaviour (.call op next) w (op :: ops) a v
  | reads (rest : Works behaviour (next w.memory) w ops a v) :
    Works behaviour (.read next) w ops a v
  | changes (rest : Works behaviour next { w with memory := f w.memory } ops a v) :
    Works behaviour (.change f next) w ops a v

variable {behaviour : Behaviour σ} {w v u : World σ}

namespace Performs

variable {op : Op} {o : Outcome op.Reply}

theorem reaches (performs : Performs behaviour op w o v)
    (next : Outcome op.Reply → Program σ Bool) (stack : List (Waiting σ)) :
    Reaches behaviour ⟨.program (.call op next), stack, w⟩ ⟨.program (next o), stack, v⟩ := by
  cases performs with
  | carries carried => exact .single (Moves.carriesOut carried).step
  | dispatches run => exact (Reaches.single rfl).trans ((run.over _).trans (.single rfl))
  | executes run => exact (Reaches.single rfl).trans ((run.over _).trans (.single rfl))
  | misses gone => exact .single (Moves.misses gone).step
  | calls alive run | callPanics alive run =>
    exact (Reaches.single (Moves.callsListener alive).step).trans
      ((run.over _).trans (.single rfl))

/-- An operation that calls no listener is just carried out. -/
theorem carried {result : op.Reply × World σ} (carried : w.carryOut op = some result)
    (performs : Performs behaviour op w o v) : o = .returned result.1 ∧ v = result.2 := by
  cases performs with
  | carries same =>
    cases carried.symm.trans same
    exact ⟨rfl, rfl⟩
  | _ => cases carried

theorem dispatch_iff {m : ManagerId} {e : EventRef} {o : Outcome Bool} :
    Performs behaviour (.dispatch m e) w o v ↔
      Reaches behaviour ⟨.dispatch m e, [], w⟩ ⟨.outcome o, [], v⟩ := by
  refine ⟨fun performs => ?_, .dispatches⟩
  cases performs with
  | carries carried => cases carried
  | dispatches run => exact run

/-- An operation comes to what the interpreter gives. -/
theorem ofPerform {depth : Nat} (performed : World.perform behaviour depth op w = some (o, v)) :
    Performs behaviour op w o v := by
  cases depth with
  | zero => cases performed
  | succ depth =>
    have calls := handle_follows (perform_follows behaviour depth)
    cases op with
    | dispatch m e =>
      have run := dispatch_follows calls m e [] w
      rw [show World.dispatch _ m e w = some (o, v) from performed] at run
      exact .dispatches run
    | execute m budget =>
      have run := execute_follows calls m budget [] w
      rw [show World.execute _ m budget w = some (o, v) from performed] at run
      exact .executes run
    | callListener l e =>
      have run := calls l e [] (w.enter l)
      simp only [World.perform, World.callListener] at performed
      split at performed
      · rename_i alive
        split at performed
        · cases performed
        all_goals
          rename_i answered
          rw [answered] at run
          cases performed
        · exact .calls alive run
        · exact .callPanics alive run
      · rename_i gone
        cases performed
        exact .misses (Bool.eq_false_iff.mpr gone)
    | _ =>
      cases performed
      exact .carries rfl

end Performs

namespace Works

variable {p : Program σ α} {f : α → Program σ β} {ops ops' : List Op} {a : α} {b : β}

/-- A program that begins with another one comes to what follows that one. -/
theorem reaches {q : Program σ Bool} {following : α → Program σ Bool}
    (works : Works behaviour p w ops a v) (begins : p.Begins q following)
    (stack : List (Waiting σ)) :
    Reaches behaviour ⟨.program q, stack, w⟩ ⟨.program (following a), stack, v⟩ := by
  induction works generalizing q with
  | done =>
    rw [begins.of_done]
    exact .refl _
  | performs first rest ih =>
    obtain ⟨next, rfl, onward⟩ := begins.of_call
    exact (first.reaches next stack).trans (ih (onward _))
  | reads rest ih =>
    obtain ⟨next, rfl, onward⟩ := begins.of_read
    exact Reaches.trans (.single rfl) (ih (onward _))
  | changes rest ih =>
    obtain ⟨next, rfl, onward⟩ := begins.of_change
    exact Reaches.trans (.single rfl) (ih onward)

theorem yields (works : Works behaviour p w ops a v) : Yields behaviour p w a v :=
  fun next stack => works.reaches (.bind .itself next) stack

theorem bind (first : Works behaviour p w ops a v) (second : Works behaviour (f a) v ops' b u) :
    Works behaviour (p.bind f) w (ops ++ ops') b u := by
  induction first with
  | done => exact second
  | performs first rest ih => exact .performs first (ih second)
  | reads rest ih => exact .reads (ih second)
  | changes rest ih => exact .changes (ih second)

/-- What a program does that goes on with another one consists of what both do. -/
theorem bind_iff : Works behaviour (p.bind f) w ops b u ↔ ∃ before a v after,
    Works behaviour p w before a v ∧ Works behaviour (f a) v after b u ∧ ops = before ++ after := by
  constructor
  · intro works
    induction p generalizing w ops with
    | done a => exact ⟨[], a, w, ops, .done, works, rfl⟩
    | panic message => cases works
    | call op next ih =>
      cases works with
      | performs first rest =>
        obtain ⟨before, a, v, after, one, other, rfl⟩ := ih _ rest
        exact ⟨op :: before, a, v, after, .performs first one, other, rfl⟩
    | read next ih =>
      cases works with
      | reads rest =>
        obtain ⟨before, a, v, after, one, other, rfl⟩ := ih _ rest
        exact ⟨before, a, v, after, .reads one, other, rfl⟩
    | change g next ih =>
      cases works with
      | changes rest =>
        obtain ⟨before, a, v, after, one, other, rfl⟩ := ih rest
        exact ⟨before, a, v, after, .changes one, other, rfl⟩
  · rintro ⟨before, a, v, after, one, other, rfl⟩
    exact one.bind other

theorem done_iff {a' : α} : Works behaviour (.done a) w ops a' v ↔ ops = [] ∧ a' = a ∧ v = w := by
  constructor
  · intro works
    cases works
    exact ⟨rfl, rfl, rfl⟩
  · rintro ⟨rfl, rfl, rfl⟩
    exact .done

theorem ask_iff {op : Op} {reply : op.Reply} : Works behaviour (Program.ask op) w ops reply v ↔
    ops = [op] ∧ Performs behaviour op w (.returned reply) v := by
  constructor
  · intro works
    cases works with
    | performs first rest =>
      rename_i o
      cases o with
      | panicked message => cases rest
      | returned answer =>
        cases rest
        exact ⟨rfl, first⟩
  · rintro ⟨rfl, performs⟩
    exact .performs performs .done

/-- An operation that calls no listener is asked for and replied to. -/
theorem carried_iff {op : Op} {result : op.Reply × World σ} {reply : op.Reply}
    (carried : w.carryOut op = some result) :
    Works behaviour (Program.ask op) w ops reply v ↔ ops = [op] ∧ (reply, v) = result := by
  rw [ask_iff]
  refine and_congr_right fun _ => ⟨fun performs => ?_, ?_⟩
  · obtain ⟨answer, rfl⟩ := performs.carried carried
    cases answer
    rfl
  · rintro rfl
    exact .carries carried

theorem carried (op : Op) {result : op.Reply × World σ} (carried : w.carryOut op = some result) :
    Works behaviour (Program.ask op) w [op] result.1 result.2 :=
  (carried_iff carried).mpr ⟨rfl, rfl⟩

/-- A program that begins with an operation that calls no listener goes on with the reply. -/
theorem carried_bind_iff (op : Op) {result : op.Reply × World σ} {f : op.Reply → Program σ β}
    (carried : w.carryOut op = some result) :
    Works behaviour ((Program.ask op).bind f) w ops b v ↔
      ∃ rest, ops = op :: rest ∧ Works behaviour (f result.1) result.2 rest b v := by
  rw [bind_iff]
  constructor
  · rintro ⟨before, reply, between, rest, first, second, rfl⟩
    obtain ⟨rfl, rfl⟩ := (carried_iff carried).mp first
    exact ⟨rest, rfl, second⟩
  · rintro ⟨rest, rfl, second⟩
    exact ⟨[op], _, _, rest, .carried op carried, second, rfl⟩

/-- A program that ends without a panic does what it does where panics are caught. -/
theorem attempt_iff :
    Works behaviour p.attempt w ops (.returned a) v ↔ Works behaviour p w ops a v := by
  constructor
  · intro works
    induction p generalizing w ops with
    | done b =>
      cases works
      exact .done
    | panic message => cases works
    | call op next ih =>
      cases works with
      | performs first rest => exact .performs first (ih _ rest)
    | read next ih =>
      cases works with
      | reads rest => exact .reads (ih _ rest)
    | change g next ih =>
      cases works with
      | changes rest => exact .changes (ih rest)
  · intro works
    induction works with
    | done => exact .done
    | performs first rest ih => exact .performs first ih
    | reads rest ih => exact .reads ih
    | changes rest ih => exact .changes ih

/-- A program that ends without a panic goes on to what is done however it ends. -/
theorem ensuring_iff {last : Program σ Unit} :
    Works behaviour (p.ensuring last) w ops a v ↔ ∃ before u after, Works behaviour p w before a u ∧
      Works behaviour last u after () v ∧ ops = before ++ after := by
  unfold Program.ensuring
  rw [bind_iff]
  constructor
  · rintro ⟨before, outcome, u, _, first, others, rfl⟩
    obtain ⟨after, _, x, _, second, ends, rfl⟩ := bind_iff.mp others
    cases outcome with
    | panicked message => cases ends
    | returned b =>
      cases ends
      exact ⟨before, u, after, attempt_iff.mp first, second, by rw [List.append_nil]⟩
  · rintro ⟨before, u, after, first, second, rfl⟩
    refine ⟨before, .returned a, u, after, attempt_iff.mpr first, ?_, rfl⟩
    exact List.append_nil after ▸ second.bind .done

/-- A program comes to what the interpreter gives. -/
theorem ofRun {depth : Nat} (ran : p.run behaviour depth w = some (.returned a, v)) :
    ∃ ops, Works behaviour p w ops a v := by
  induction p generalizing w with
  | done b =>
    cases ran
    exact ⟨[], .done⟩
  | panic message => cases ran
  | call op next ih =>
    simp only [Program.run, Program.runWith] at ran ih
    cases performed : World.perform behaviour depth op w with
    | none =>
      rw [performed] at ran
      cases ran
    | some result =>
      rw [performed] at ran
      obtain ⟨ops, rest⟩ := ih result.1 ran
      exact ⟨_, .performs (.ofPerform performed) rest⟩
  | read next ih =>
    obtain ⟨ops, rest⟩ := ih w.memory ran
    exact ⟨ops, .reads rest⟩
  | change f next ih =>
    obtain ⟨ops, rest⟩ := ih ran
    exact ⟨ops, .changes rest⟩

theorem checked {depth : Nat} {check : α → World σ → Bool}
    (checked : comesTo behaviour depth p w check = true) :
    ∃ ops a v, Works behaviour p w ops a v ∧ check a v = true := by
  unfold comesTo at checked
  split at checked
  case h_1 a v ran =>
    obtain ⟨ops, works⟩ := ofRun ran
    exact ⟨ops, a, v, works, checked⟩
  case h_2 => cases checked

end Works

end Machine
end EventEngine
