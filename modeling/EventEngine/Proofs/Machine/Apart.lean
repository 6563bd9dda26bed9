import EventEngine.Proofs.Machine.Beside

/-! Two runs that differ in one manager only, and there not in the registry. Dispatches then walk
the same lists in both, so the runs go the same way as long as no program looks at the difference
and no drain comes upon it. -/
namespace EventEngine

open Manager (Tally)

/-- One manager is related to its counterpart, and the others are the same. -/
def Only (m : ManagerId) (R : Manager → Manager → Prop) (n : ManagerId) (x y : Manager) : Prop :=
  if n = m then R x y else x = y

/-- A relation between managers with the same registry that is kept by all acts but those of
drains. -/
structure Hidden (roll : Roll) (R : Manager → Manager → Prop) : Prop where
  registry : R x y → x.registry = y.registry
  holders : R x y → x.holders = y.holders
  fresh : R default default → R (.fresh clock) (.fresh clock)
  request : ∀ r : Manager.Request, R x y → R (r.serve roll x) (r.serve roll y)
  release : R x y → R x.release y.release
  unheard : R x y → R x.countUnheard y.countUnheard
  opened : ∀ t, R x y → R (x.openFrame t) (y.openFrame t)
  pruned : ∀ t l, R x y → R (x.pruneOne roll t l) (y.pruneOne roll t l)
  closed : ∀ frame, R x y → R (x.closeFrame frame) (y.closeFrame frame)
  concluded : ∀ frame consumed tally, R x y →
    R (x.conclude frame consumed tally) (y.conclude frame consumed tally)

namespace Only

variable {m n : ManagerId} {R : Manager → Manager → Prop} {x y : Manager} {f : Manager → Manager}

theorem here (related : Only m R m x y) : R x y := by
  rwa [Only, if_pos rfl] at related

theorem other (related : Only m R n x y) (other : n ≠ m) : x = y := by
  rwa [Only, if_neg other] at related

theorem map (related : Only m R n x y) (kept : R x y → R (f x) (f y)) :
    Only m R n (f x) (f y) := by
  unfold Only at related ⊢
  split at related
  · rename_i same
    rw [if_pos same]
    exact kept related
  · rename_i other
    rw [if_neg other, related]

theorem shared {α : Type} (related : Only m R n x y) {g : Manager → α}
    (same : R x y → g x = g y) : g x = g y := by
  unfold Only at related
  split at related
  · exact same related
  · rw [related]

end Only

namespace Hidden

variable {roll : Roll} {R : Manager → Manager → Prop} {m n : ManagerId} {x y : Manager}

/-- Nothing shows the difference but drains of the one manager and a look at it. -/
theorem unseen (hidden : Hidden roll R) (m : ManagerId) : Unseen roll (· ≠ m) (Only m R) Eq where
  holders := fun related => related.shared hidden.holders
  fresh := fun {n clock} related => by
    unfold Only at related ⊢
    split at related
    · rename_i same
      rw [if_pos same]
      exact hidden.fresh related
    · rename_i other
      rw [if_neg other]
  request := fun r related => related.map (hidden.request r)
  release := fun related => related.map hidden.release
  nextFrame := fun related =>
    congrArg Registry.nextFrame (related.shared (g := (·.registry)) hidden.registry)
  lists := fun t related => by
    rw [related.shared hidden.registry]
    cases (_ : Registry).table.list? t with
    | none => exact .none
    | some list => exact .some rfl
  unheard := fun related => related.map hidden.unheard
  opened := fun t related => related.map (hidden.opened t)
  closed := fun frame related => related.map (hidden.closed frame)
  concluded := fun {rest tally rest' tally' n x y} frame consumed alike related => by
    cases alike
    exact related.map (hidden.concluded frame consumed tally)
  begun := fun other related => by
    rw [related.other other]
    exact ⟨rfl, by simp [Only, other]⟩
  taken := fun budget started other related => by
    rw [related.other other]
    exact ⟨rfl, by simp [Only, other]⟩
  ended := fun other related => by
    rw [related.other other]
    simp [Only, other]
  finished := fun other related => by
    rw [related.other other]
    exact ⟨rfl, by simp [Only, other]⟩

end Hidden

/-- The operation tells of the queue or the clock of a manager. -/
def Op.Tells (m : ManagerId) : Op → Prop
  | .clearQueue n | .now n | .inspect n | .validate n => n = m
  | _ => False

namespace World

variable {σ : Type} {a b : World σ} {m : ManagerId} {R : Manager → Manager → Prop}

/-- Operations that tell neither of the queue nor of the clock reply the same. -/
theorem Beside.sameReply (beside : a.Beside (Only m R) b) (hidden : Hidden a.roll R) {op : Op}
    {x y : op.Reply × World σ} (left : a.carryOut op = some x) (right : b.carryOut op = some y)
    (silent : ¬op.Tells m) : x.1 = y.1 := by
  have registry (n : ManagerId) : (a.manager n).registry = (b.manager n).registry :=
    (beside.managers n).shared hidden.registry
  have reply (same : ∀ n, op.consulted = some n → n ≠ m) : x.1 = y.1 :=
    beside.reply (hidden.unseen m) left right fun n is => (beside.managers n).other (same n is)
  cases op with
  | tryConnect n l t =>
    cases left
    cases right
    rw [tryConnect_reply, tryConnect_reply, registry, beside.roll]
  | tryDisconnect n l t =>
    cases left
    cases right
    rw [tryDisconnect_reply, tryDisconnect_reply, registry]
  | pruneStale n =>
    cases left
    cases right
    change ((a.manager n).registry.pruneAll a.roll).1 = ((b.manager n).registry.pruneAll b.roll).1
    rw [registry, beside.roll]
  | clearQueue n | now n | inspect n | validate n =>
    refine reply fun k is => ?_
    cases is
    exact silent
  | _ => exact reply nofun

end World

namespace Machine

open World

variable {σ : Type} {behaviour : Behaviour σ} {c c' d : State σ} {a b : World σ} {m : ManagerId}
  {R : Manager → Manager → Prop} {stack stack' : List (Waiting σ)}

/-- Both dispatches come to the same listener. -/
theorem visit_apart (hidden : Hidden a.roll R)
    (waiting : List.Forall₂ (Waiting.Beside Eq) stack stack') (beside : a.Beside (Only m R) b)
    (n : ManagerId) (frame : UInt64) (e : EventRef) (tally : Tally) (rest : List ListenerId) :
    (visit stack a n frame e tally rest).Beside (Only m R) Eq
      (visit stack' b n frame e tally rest) := by
  cases rest with
  | nil => exact walked_beside (hidden.unseen m) waiting beside rfl n frame e
  | cons l rest =>
    have registry := (beside.managers n).shared hidden.registry
    cases alive : a.isAlive l with
    | false =>
      have gone : b.isAlive l = false := beside.isAlive l ▸ alive
      have removed : (a.pruneOne n frame e.typeId l).1 = (b.pruneOne n frame e.typeId l).1 := by
        simp only [World.pruneOne, registry, beside.roll]
      have pruned : World.Beside (Only m R) (a.pruneOne n frame e.typeId l).2
          (b.pruneOne n frame e.typeId l).2 := by
        refine beside.becomes (pruneOne_becomes ..) (pruneOne_becomes ..) ?_
        rw [← beside.roll]
        exact (beside.managers n).map (hidden.pruned e.typeId l)
      simp only [visit, alive, gone, if_true]
      exact ⟨.walk (by rw [removed]), waiting, pruned⟩
    | true =>
      cases left : (a.manager n).registry.removedDuring frame l with
      | true =>
        have left' : (b.manager n).registry.removedDuring frame l = true := registry ▸ left
        have alive' : b.isAlive l = true := beside.isAlive l ▸ alive
        simp only [visit, alive, alive', left, left', Bool.true_eq_false, if_false, if_true]
        exact ⟨.walk rfl, waiting, beside⟩
      | false => exact visit_beside waiting beside rfl alive left (registry ▸ left) e

/-- Two runs that differ in one manager go the same way where its drains do not show it. -/
theorem step_apart (hidden : Hidden c.world.roll R) (beside : c.Beside (Only m R) Eq d)
    (agree : Agree c d)
    (executes : ∀ budget, c.control = .execute m budget →
      BeginAlike R (c.world.manager m) (d.world.manager m))
    (turns : c.drains m ≠ 0 → Turning R) (moved : step behaviour c = some c') :
    ∃ d', step behaviour d = some d' ∧ c'.Beside (Only m R) Eq d' := by
  have unseen := hidden.unseen m
  have here : Only m R m = R := by
    funext x y
    exact if_pos rfl
  by_cases walks : ∃ n frame e rest tally, c.control = .walk n frame e rest tally
  · obtain ⟨control, stack, a⟩ := c
    obtain ⟨n, frame, e, rest, tally, rfl⟩ := walks
    obtain ⟨control', stack', b⟩ := d
    obtain ⟨controls, waiting, beside⟩ := beside
    cases controls with
    | walk alike =>
      cases alike
      cases moved
      exact ⟨_, rfl, visit_apart hidden waiting beside n frame e tally rest⟩
  · refine step_beside unseen beside agree ?_ ?_
      (fun n frame e rest tally walk => walks ⟨n, frame, e, rest, tally, walk⟩) moved
    · intro n budget asked
      by_cases same : n = m
      · subst same
        rw [here]
        exact executes budget asked
      · exact unseen.begun same (beside.world.managers n)
    · intro n inside
      by_cases same : n = m
      · subst same
        rw [here]
        exact turns inside
      · exact unseen.turning same

end Machine
end EventEngine
