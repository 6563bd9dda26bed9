import EventEngine.Proofs.Machine.Moves

/-! What waits beneath a run does not matter until the run has ended. A call can therefore be
followed by itself, with nothing beneath it, wherever it is made. -/
namespace EventEngine.Machine

variable {σ : Type} {behaviour : Behaviour σ} {c d : State σ}

/-- A state above others that wait. -/
def State.over (base : List (Waiting σ)) (c : State σ) : State σ :=
  ⟨c.control, c.stack ++ base, c.world⟩

theorem Moves.over (moves : Moves behaviour c d) (base : List (Waiting σ)) :
    Moves behaviour (c.over base) (d.over base) := by
  cases moves <;> constructor <;> assumption

/-- A step does not depend on what waits beneath. -/
theorem step_over (moved : step behaviour c = some d) (base : List (Waiting σ)) :
    step behaviour (c.over base) = some (d.over base) :=
  ((step_moves moved).over base).step

theorem after_over {n : Nat} (run : after behaviour n c = some d) (base : List (Waiting σ)) :
    after behaviour n (c.over base) = some (d.over base) := by
  induction n generalizing c with
  | zero => exact congrArg _ (congrArg (State.over base) (Option.some.inj run))
  | succ n ih =>
    obtain ⟨next, moved, rest⟩ := Option.bind_eq_some_iff.mp run
    simp only [after, step_over moved base, Option.bind_some]
    exact ih rest

theorem Reaches.over (run : Reaches behaviour c d) (base : List (Waiting σ)) :
    Reaches behaviour (c.over base) (d.over base) := by
  obtain ⟨n, run⟩ := run
  exact ⟨n, after_over run base⟩

/-- A listener is called above what waits for it. -/
theorem stack_ne_nil_of_call {l : ListenerId} {e : EventRef} (moved : step behaviour c = some d)
    (called : d.control = .call l e) : d.stack ≠ [] := by
  cases step_moves moved with
  | callsListener | visits => exact List.cons_ne_nil _ _
  | _ => cases called

/-- A drain begins where a program asks for it. -/
theorem execute_asked {n : ManagerId} {budget : Option Duration} (moved : step behaviour c = some d)
    (executes : d.control = .execute n budget) :
    ∃ next, c.control = .program (.call (.execute n budget) next) := by
  cases step_moves moved with
  | executes =>
    cases executes
    exact ⟨_, rfl⟩
  | _ => cases executes

end EventEngine.Machine
