import EventEngine.Proofs.Dispatch.Lives
import Mathlib.Data.List.Forall2

/-! Whom dispatches still have to come to. What a dispatch has ahead of it is the list that its
category had when it began, and becomes shorter with every turn; the lists ahead go with the open
frames. -/
namespace EventEngine.Machine

open World

variable {σ : Type} {behaviour : Behaviour σ} {c d : State σ} {m n : ManagerId}

def Waiting.ahead (m : ManagerId) : Waiting σ → List (List ListenerId)
  | .walk n _ _ _ rest _ => if n = m then [rest] else []
  | _ => []

def Control.ahead (m : ManagerId) : Control σ → List (List ListenerId)
  | .walk n _ _ rest _ => if n = m then [rest] else []
  | _ => []

/-- The listeners that the dispatches under way on a manager still have to come to, those of the
newest dispatch first. -/
def State.ahead (m : ManagerId) (c : State σ) : List (List ListenerId) :=
  c.control.ahead m ++ c.stack.flatMap (·.ahead m)

theorem length_ahead (m : ManagerId) (c : State σ) : (c.ahead m).length = (c.walks m).length := by
  have control : (c.control.ahead m).length = (c.control.walks m).length := by
    cases c.control with
    | walk n => simp only [Control.ahead, Control.walks]; split <;> rfl
    | _ => rfl
  have waiting (top : Waiting σ) : (top.ahead m).length = (top.walks m).length := by
    cases top with
    | walk n => simp only [Waiting.ahead, Waiting.walks]; split <;> rfl
    | _ => rfl
  simp only [State.ahead, State.walks, stackWalks, List.length_append, List.length_flatMap, control,
    waiting]

/-- What a step does to the lists that dispatches have ahead. -/
inductive Shortens (m : ManagerId) (c d : State σ) : Prop
  | goesOn (ahead : List.Forall₂ (· ⊆ ·) (d.ahead m) (c.ahead m))
  | begins (walks : ∃ frame, d.walks m = (frame, t) :: c.walks m)
    (ahead : d.ahead m = (c.world.registry m).listed t :: c.ahead m)
  | ends (ahead : c.ahead m = rest :: d.ahead m)

namespace Shortens

theorem same (ahead : d.ahead m = c.ahead m) : Shortens m c d :=
  .goesOn (ahead ▸ List.forall₂_same.mpr fun _ _ => List.Subset.refl _)

/-- A walk passes over the first listener, or calls it. -/
theorem passes {l : ListenerId} {rest : List ListenerId} {older : List (List ListenerId)}
    (before : c.ahead m = (if n = m then [l :: rest] else []) ++ older)
    (after : d.ahead m = (if n = m then [rest] else []) ++ older) : Shortens m c d := by
  have kept : List.Forall₂ (· ⊆ ·) older older :=
    List.forall₂_same.mpr fun _ _ => List.Subset.refl _
  refine .goesOn ?_
  rw [before, after]
  split
  · exact .cons (List.subset_cons_self ..) kept
  · exact kept

theorem leaves {rest : List ListenerId}
    (before : c.ahead m = (if n = m then [rest] else []) ++ d.ahead m) : Shortens m c d := by
  by_cases same : n = m
  · rw [if_pos same] at before
    exact .ends before
  · rw [if_neg same] at before
    exact .same before.symm

end Shortens

theorem step_shortens (moved : step behaviour c = some d) (m : ManagerId) : Shortens m c d := by
  cases step_moves moved with
  | @heard list n e _ w listed =>
    by_cases same : n = m
    · subst same
      refine .begins (t := e.typeId) ⟨(w.registry n).nextFrame, ?_⟩ ?_
      · simp [State.walks, Control.walks, World.registry]
      · simp [State.ahead, Control.ahead, Registry.listed, World.registry, listed]
    · exact .same (by simp [State.ahead, Control.ahead, same])
  | prunes | skips | visits => exact .passes rfl rfl
  | concludes | consumes | unwindsDispatch => exact .leaves rfl
  | _ => exact .same rfl

/-- What happens, in one step or besides, to the dispatches under way on a manager, to the lists
that they have ahead and to the registry. -/
inductive Proceeds (m : ManagerId) (c d : State σ) : Prop
  | goesOn (walks : d.walks m = c.walks m)
    (ahead : List.Forall₂ (· ⊆ ·) (d.ahead m) (c.ahead m))
    (altered : Registry.Alters c.world.roll (c.world.registry m) (d.world.registry m))
  | begins (walks : d.walks m = ((c.world.registry m).nextFrame, t) :: c.walks m)
    (ahead : d.ahead m = (c.world.registry m).listed t :: c.ahead m)
    (opened : d.world.registry m = ((c.world.registry m).beginDispatch t).2)
  | ends (walks : c.walks m = (frame, t) :: d.walks m) (ahead : c.ahead m = rest :: d.ahead m)
    (closed : d.world.registry m = ((c.world.registry m).endDispatch frame).2)

namespace Proceeds

theorem refl (m : ManagerId) (c : State σ) : Proceeds m c c :=
  .goesOn rfl (List.forall₂_same.mpr fun _ _ => List.Subset.refl _) (.refl _ _)

theorem turns (proceeds : Proceeds m c d) : Turns m c d := by
  cases proceeds with
  | goesOn walks _ altered => exact .alters walks altered
  | begins walks _ opened => exact .opens walks opened
  | ends walks _ closed => exact .closes walks closed

end Proceeds

/-- With every step a list ahead is taken up or given up just when a frame is opened or closed. -/
theorem step_proceeds (moved : step behaviour c = some d) (m : ManagerId) : Proceeds m c d := by
  have lengths := length_ahead m c
  have lengths' := length_ahead m d
  cases step_turns moved m with
  | alters walks altered =>
    have sizes := congrArg List.length walks
    cases step_shortens moved m with
    | goesOn ahead => exact .goesOn walks ahead altered
    | begins begun =>
      obtain ⟨frame, more⟩ := begun
      rw [more, List.length_cons] at sizes
      omega
    | ends ahead =>
      rw [ahead, List.length_cons] at lengths
      omega
  | @opens t walks opened =>
    have sizes := congrArg List.length walks
    rw [List.length_cons] at sizes
    cases step_shortens moved m with
    | goesOn ahead =>
      have := ahead.length_eq
      omega
    | begins begun ahead =>
      obtain ⟨frame, more⟩ := begun
      obtain ⟨same, -⟩ := List.cons.inj (walks.symm.trans more)
      cases same
      exact .begins walks ahead opened
    | ends ahead =>
      rw [ahead, List.length_cons] at lengths
      omega
  | closes walks closed =>
    have sizes := congrArg List.length walks
    rw [List.length_cons] at sizes
    cases step_shortens moved m with
    | goesOn ahead =>
      have := ahead.length_eq
      omega
    | begins begun =>
      obtain ⟨frame, more⟩ := begun
      rw [more, List.length_cons] at sizes
      omega
    | ends ahead => exact .ends walks ahead closed

/-- What a run does in one step, or what happens to its world besides. -/
structure Goes (c d : State σ) : Prop where
  proceeds : ∀ m, Proceeds m c d
  ages : Ages c.world d.world

theorem Goes.refl (c : State σ) : Goes c c := ⟨fun m => .refl m c, .refl c.world⟩

theorem Goes.step (moved : step behaviour c = some d) : Goes c d :=
  ⟨step_proceeds moved, (step_acts moved).ages⟩

/-- The open frames are those of the dispatches under way, and only listeners that were made are
called, registered or still to come. -/
structure Sound (c : State σ) : Prop where
  balanced : Balanced c
  settled : Settled c.world
  known : ∀ m, ∀ rest ∈ c.ahead m, ∀ l ∈ rest, l < c.world.listeners.size

theorem Sound.goes (sound : Sound c) (goes : Goes c d) : Sound d := by
  have turns m := (goes.proceeds m).turns
  refine ⟨sound.balanced.turn turns, Settled.turn sound.settled goes.ages turns,
    fun m rest inside l inRest => ?_⟩
  refine Nat.lt_of_lt_of_le ?_ goes.ages.size
  cases goes.proceeds m with
  | goesOn _ ahead =>
    obtain ⟨i, short, rfl⟩ := List.getElem_of_mem inside
    have long := ahead.length_eq ▸ short
    exact sound.known m _ (List.getElem_mem long) l (ahead.get short long inRest)
  | @begins t _ ahead =>
    rw [ahead] at inside
    rcases List.mem_cons.mp inside with rfl | older
    · exact sound.settled.listed m t l inRest
    · exact sound.known m rest older l inRest
  | ends _ ahead => exact sound.known m rest (ahead ▸ List.mem_cons_of_mem _ inside) l inRest

/-- Nobody who is ahead comes back to life. -/
theorem Sound.lived (sound : Sound c) (goes : Goes c d) (m : ManagerId) :
    ∀ rest ∈ c.ahead m, ∀ l ∈ rest, d.world.isAlive l = true → c.world.isAlive l = true := by
  intro rest inside l inRest alive
  cases before : c.world.isAlive l with
  | true => rfl
  | false =>
    rw [goes.ages.gone l (sound.known m rest inside l inRest) before] at alive
    cases alive

theorem Sound.start (p : Program σ Bool) (memory : σ) : Sound (start p memory) := by
  have reachable : Reachable (fun _ _ => .done false) (Machine.start p memory) := ⟨p, memory, .refl _⟩
  exact ⟨reachable.balanced, reachable.settled, nofun⟩

end EventEngine.Machine
