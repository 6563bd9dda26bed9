import EventEngine.Proofs.Machine.Beneath

/-! Calls and their ends. A call that ends comes to one outcome, and dispatches and drains end if the
calls of listeners do. -/
namespace EventEngine.Machine

open Manager (Tally)

variable {σ : Type} {behaviour : Behaviour σ} {c d : State σ}

/-- A run is at its first moment or has made its first step. -/
theorem Reaches.eq_or_later {x : State σ} (moved : step behaviour c = some x)
    (run : Reaches behaviour c d) : d = c ∨ Reaches behaviour x d := by
  obtain ⟨n, run⟩ := run
  cases n with
  | zero => exact .inl (Option.some.inj run).symm
  | succ n =>
    simp only [after, moved, Option.bind_some] at run
    exact .inr ⟨n, run⟩

/-- A call that ends comes to one outcome. -/
theorem Reaches.outcome_unique {o o' : Outcome Bool} {w w' : World σ}
    (one : Reaches behaviour c ⟨.outcome o, [], w⟩)
    (other : Reaches behaviour c ⟨.outcome o', [], w'⟩) : o = o' ∧ w = w' := by
  obtain ⟨n, one⟩ := one
  obtain ⟨k, other⟩ := other
  cases after_ended one other
  cases one.symm.trans other
  exact ⟨rfl, rfl⟩

/-- What is called comes to an end, with such an outcome. -/
def Ends (behaviour : Behaviour σ) (P : Outcome Bool → Prop) (c : State σ) : Prop :=
  ∃ o w, Reaches behaviour c ⟨.outcome o, [], w⟩ ∧ P o

variable {P : Outcome Bool → Prop}

theorem Ends.of_reaches (run : Reaches behaviour c d) (ends : Ends behaviour P d) :
    Ends behaviour P c := by
  obtain ⟨o, w, later, outcome⟩ := ends
  exact ⟨o, w, run.trans later, outcome⟩

/-- A walk ends if the calls of its listeners do, and not otherwise than they. -/
theorem walk_ends {m : ManagerId} {frame : UInt64} {e : EventRef}
    (returns : ∀ consumed, P (.returned consumed))
    (calls : ∀ l top v, Reaches behaviour c ⟨.call l e, [top], v⟩ →
      Ends behaviour P ⟨.call l e, [], v⟩)
    (rest : List ListenerId) (tally : Tally) (w : World σ)
    (here : Reaches behaviour c ⟨.walk m frame e rest tally, [], w⟩) :
    Ends behaviour P ⟨.walk m frame e rest tally, [], w⟩ := by
  induction rest generalizing tally w with
  | nil => exact ⟨_, _, .single rfl, returns false⟩
  | cons l rest ih =>
    have moves : Moves behaviour ⟨.walk m frame e (l :: rest) tally, [], w⟩
        (visit [] w m frame e tally (l :: rest)) := visit_moves ..
    generalize visit [] w m frame e tally (l :: rest) = x at moves
    have moved := moves.step
    cases moves with
    | prunes | skips => exact .of_reaches (.single moved) (ih _ _ (here.trans (.single moved)))
    | visits =>
      obtain ⟨o, v, called, outcome⟩ := calls l _ _ (here.trans (.single moved))
      have answered := (Reaches.single moved).trans (called.over [_])
      cases o with
      | panicked message => exact ⟨_, _, answered.trans (.single rfl), outcome⟩
      | returned consumed =>
        cases consumed with
        | true => exact ⟨_, _, answered.trans (.single rfl), returns true⟩
        | false =>
          have next := answered.trans (.single rfl)
          exact .of_reaches next (ih _ _ (here.trans next))

theorem dispatch_ends {m : ManagerId} {e : EventRef} {w : World σ}
    (returns : ∀ consumed, P (.returned consumed))
    (calls : ∀ l top v, Reaches behaviour ⟨.dispatch m e, [], w⟩ ⟨.call l e, [top], v⟩ →
      Ends behaviour P ⟨.call l e, [], v⟩) :
    Ends behaviour P ⟨.dispatch m e, [], w⟩ := by
  cases heard : (w.manager m).registry.table.list? e.typeId with
  | none => exact ⟨_, _, .single (step_dispatch_none heard), returns false⟩
  | some list =>
    have begun : Reaches behaviour ⟨.dispatch m e, [], w⟩ ⟨.walk m
        (w.manager m).registry.nextFrame e list {}, [], (w.beginDispatch m e).2⟩ :=
      .single (step_dispatch_some heard)
    exact .of_reaches begun (walk_ends returns calls list {} _ begun)

/-- A drain ends if the calls of listeners in its dispatches do, and not otherwise than they. -/
theorem drain_ends {m : ManagerId} {budget : Option Duration} {started : Timestamp}
    (returns : ∀ consumed, P (.returned consumed))
    (calls : ∀ l e top below v, Reaches behaviour c ⟨.call l e, [top, below], v⟩ →
      Ends behaviour P ⟨.call l e, [], v⟩)
    (turns delivered : Nat) (w : World σ)
    (here : Reaches behaviour c ⟨.drain m budget started turns delivered, [], w⟩) :
    Ends behaviour P ⟨.drain m budget started turns delivered, [], w⟩ := by
  induction turns generalizing delivered w with
  | zero => exact ⟨_, _, .single rfl, returns _⟩
  | succ turns ih =>
    cases taken : (w.takeDue m budget started delivered).1 with
    | none => exact ⟨_, _, .single (Moves.stops taken).step, returns _⟩
    | some e =>
      have moved : step behaviour ⟨.drain m budget started (turns + 1) delivered, [], w⟩ =
          some ⟨.dispatch m e, [.drain m budget started turns delivered],
            (w.takeDue m budget started delivered).2⟩ := (Moves.takes taken).step
      generalize (w.takeDue m budget started delivered).2 = x at moved
      have inside := here.trans (.single moved)
      have ends : Ends behaviour P ⟨.dispatch m e, [], x⟩ := dispatch_ends returns
        fun l top v called => calls l e top _ v (inside.trans (called.over _))
      obtain ⟨o, v, dispatched, outcome⟩ := ends
      have answered := (Reaches.single moved).trans (dispatched.over _)
      cases o with
      | panicked message => exact ⟨_, _, answered.trans (.single rfl), outcome⟩
      | returned consumed =>
        have next := answered.trans (.single rfl)
        exact .of_reaches next (ih _ _ (here.trans next))

theorem execute_ends {m : ManagerId} {budget : Option Duration} {w : World σ}
    (returns : ∀ consumed, P (.returned consumed))
    (calls : ∀ l e top below v,
      Reaches behaviour ⟨.execute m budget, [], w⟩ ⟨.call l e, [top, below], v⟩ →
        Ends behaviour P ⟨.call l e, [], v⟩) :
    Ends behaviour P ⟨.execute m budget, [], w⟩ := by
  cases begun : (w.beginDrain m).1 with
  | none => exact ⟨_, _, .single (Moves.refuses begun).step, returns false⟩
  | some begins =>
    have moved : Reaches behaviour ⟨.execute m budget, [], w⟩
        ⟨.drain m budget begins.1 begins.2 0, [], (w.beginDrain m).2⟩ :=
      .single (Moves.begins begun).step
    exact .of_reaches moved (drain_ends returns calls begins.2 0 _ moved)

end EventEngine.Machine
