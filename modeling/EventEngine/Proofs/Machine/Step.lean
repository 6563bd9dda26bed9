import EventEngine.Program

/-! A run, one step at a time. What waits for the outcome of a call stands on an explicit
stack, so every moment of a run is a state of its own: also a moment inside the call of a
listener, and also one of a run that never ends. The steps on the world are those of the
interpreter. -/
namespace EventEngine.Machine

open Manager (Tally)

/-- What waits for the outcome of a call. -/
inductive Waiting (σ : Type)
  /-- A program that asked for a dispatch or a drain. -/
  | program (next : Outcome Bool → Program σ Bool)
  /-- A program that called the listener itself. -/
  | direct (l : ListenerId) (next : Outcome (Option Bool) → Program σ Bool)
  /-- A dispatch that called the listener; those of `rest` have their turn later. -/
  | walk (m : ManagerId) (frame : UInt64) (e : EventRef) (l : ListenerId)
      (rest : List ListenerId) (tally : Tally)
  /-- A drain that handed an event over. -/
  | drain (m : ManagerId) (budget : Option Duration) (started : Timestamp)
      (turns delivered : Nat)

/-- What is done next. -/
inductive Control (σ : Type)
  | program (p : Program σ Bool)
  /-- The listener, which has been entered, handles the event. -/
  | call (l : ListenerId) (e : EventRef)
  | dispatch (m : ManagerId) (e : EventRef)
  /-- A dispatch comes to the first of the listeners that are left. -/
  | walk (m : ManagerId) (frame : UInt64) (e : EventRef) (rest : List ListenerId) (tally : Tally)
  | execute (m : ManagerId) (budget : Option Duration)
  /-- A drain comes to its next turn. -/
  | drain (m : ManagerId) (budget : Option Duration) (started : Timestamp)
      (turns delivered : Nat)
  /-- A call has ended. -/
  | outcome (o : Outcome Bool)

structure State (σ : Type) where
  control : Control σ
  stack : List (Waiting σ)
  world : World σ

variable {σ : Type}

/-- A program goes on with an operation. -/
def ask (stack : List (Waiting σ)) (w : World σ) :
    (op : Op) → (Outcome op.Reply → Program σ Bool) → Option (State σ)
  | .dispatch m e, next => some ⟨.dispatch m e, .program next :: stack, w⟩
  | .execute m budget, next => some ⟨.execute m budget, .program next :: stack, w⟩
  | .callListener l e, next =>
    if w.isAlive l then some ⟨.call l e, .direct l next :: stack, w.enter l⟩
    else some ⟨.program (next (.returned none)), stack, w⟩
  | op, next =>
    (w.carryOut op).map fun result => ⟨.program (next (.returned result.1)), stack, result.2⟩

/-- A program goes on. -/
def proceed (stack : List (Waiting σ)) (w : World σ) : Program σ Bool → Option (State σ)
  | .done consumed => some ⟨.outcome (.returned consumed), stack, w⟩
  | .panic message => some ⟨.outcome (.panicked message), stack, w⟩
  | .call op next => ask stack w op next
  | .read next => some ⟨.program (next w.memory), stack, w⟩
  | .change f next => some ⟨.program next, stack, { w with memory := f w.memory }⟩

/-- A listener handles an event: at once if it belongs to an engine. -/
def handle (behaviour : Behaviour σ) (stack : List (Waiting σ)) (w : World σ)
    (l : ListenerId) (e : EventRef) : State σ :=
  match (w.listener l).role with
  | .custom => ⟨.program (behaviour l e), stack, w⟩
  | .quit .. =>
    let (consumed, w) := w.receiveQuit l e
    ⟨.outcome (.returned consumed), stack, w⟩
  | .frames updates renders => ⟨.outcome (.returned false), stack, w.countFrame l updates renders e⟩

/-- The turn of the first listener that is left. -/
def visit (stack : List (Waiting σ)) (w : World σ) (m : ManagerId) (frame : UInt64)
    (e : EventRef) (tally : Tally) : List ListenerId → State σ
  | [] => ⟨.outcome (.returned false), stack, w.conclude m frame e false tally⟩
  | l :: rest =>
    if w.isAlive l = false then
      let (removed, w) := w.pruneOne m frame e.typeId l
      ⟨.walk m frame e rest { tally with pruned := tally.pruned + removed.toNat }, stack, w⟩
    else if (w.manager m).registry.removedDuring frame l then
      ⟨.walk m frame e rest tally, stack, w⟩
    else
      let tally := { tally with invoked := tally.invoked + 1 }
      ⟨.call l e, .walk m frame e l rest tally :: stack, w.invoke m frame l e⟩

/-- A drain ends by itself. -/
def endTurns (stack : List (Waiting σ)) (m : ManagerId) (delivered : Nat) (w : World σ) : State σ :=
  let (drained, w) := w.finishDrain m delivered
  ⟨.outcome (.returned drained), stack, w⟩

/-- The outcome of a call is passed on. -/
def resume (o : Outcome Bool) (stack : List (Waiting σ)) (w : World σ) : Waiting σ → State σ
  | .program next => ⟨.program (next o), stack, w⟩
  | .direct l next =>
    match o with
    | .returned consumed => ⟨.program (next (.returned (some consumed))), stack, w.leave l⟩
    | .panicked message => ⟨.program (next (.panicked message)), stack, w.leave l⟩
  | .walk m frame e l rest tally =>
    match o with
    | .panicked _ => ⟨.outcome o, stack, (w.leave l).unwindDispatch m frame⟩
    | .returned true => ⟨.outcome o, stack, (w.consume m frame l e).conclude m frame e true tally⟩
    | .returned false => ⟨.walk m frame e rest tally, stack, w.leave l⟩
  | .drain m budget started turns delivered =>
    match o with
    | .panicked _ => ⟨.outcome o, stack, w.unwindDrain m⟩
    | .returned _ => ⟨.drain m budget started turns (delivered + 1), stack, w⟩

/-- One step of a run; `none` when it has ended. -/
def step (behaviour : Behaviour σ) : State σ → Option (State σ)
  | ⟨.program p, stack, w⟩ => proceed stack w p
  | ⟨.call l e, stack, w⟩ => some (handle behaviour stack w l e)
  | ⟨.dispatch m e, stack, w⟩ =>
    match w.beginDispatch m e with
    | (none, w) => some ⟨.outcome (.returned false), stack, w⟩
    | (some (frame, list), w) => some ⟨.walk m frame e list {}, stack, w⟩
  | ⟨.walk m frame e rest tally, stack, w⟩ => some (visit stack w m frame e tally rest)
  | ⟨.execute m budget, stack, w⟩ =>
    match w.beginDrain m with
    | (none, w) => some ⟨.outcome (.returned false), stack, w⟩
    | (some (started, turns), w) => some ⟨.drain m budget started turns 0, stack, w⟩
  | ⟨.drain m _ _ 0 delivered, stack, w⟩ => some (endTurns stack m delivered w)
  | ⟨.drain m budget started (turns + 1) delivered, stack, w⟩ =>
    match w.takeDue m budget started delivered with
    | (none, w) => some (endTurns stack m delivered w)
    | (some e, w) => some ⟨.dispatch m e, .drain m budget started turns delivered :: stack, w⟩
  | ⟨.outcome _, [], _⟩ => none
  | ⟨.outcome o, top :: stack, w⟩ => some (resume o stack w top)

/-- The state after so many steps, if the run is that long. -/
def after (behaviour : Behaviour σ) : Nat → State σ → Option (State σ)
  | 0, c => some c
  | n + 1, c => (step behaviour c).bind (after behaviour n)

/-- A run comes from one state to another. -/
def Reaches (behaviour : Behaviour σ) (c d : State σ) : Prop := ∃ n, after behaviour n c = some d

/-- A program of the host begins before anything has happened. -/
def start (p : Program σ Bool) (memory : σ) : State σ := ⟨.program p, [], World.initial memory⟩

/-- A moment of some run of some host. -/
def Reachable (behaviour : Behaviour σ) (c : State σ) : Prop :=
  ∃ p memory, Reaches behaviour (start p memory) c

variable {behaviour : Behaviour σ} {c d : State σ}

/-- A run stops only where its outcome is passed on to nobody. -/
theorem ended_of_stuck (stuck : step behaviour c = none) : ∃ o w, c = ⟨.outcome o, [], w⟩ := by
  obtain ⟨control, stack, w⟩ := c
  cases control with
  | outcome o =>
    cases stack with
    | nil => exact ⟨o, w, rfl⟩
    | cons top stack => cases stuck
  | program p =>
    cases p with
    | call op next =>
      cases op with
      | callListener l e =>
        simp only [step, proceed, ask] at stuck
        split at stuck <;> cases stuck
      | _ => cases stuck
    | _ => cases stuck
  | call l e => cases stuck
  | walk m frame e rest tally => cases stuck
  | dispatch m e =>
    simp only [step] at stuck
    split at stuck <;> cases stuck
  | execute m budget =>
    simp only [step] at stuck
    split at stuck <;> cases stuck
  | drain m budget started turns delivered =>
    cases turns with
    | zero => cases stuck
    | succ turns =>
      simp only [step] at stuck
      split at stuck <;> cases stuck

theorem after_succ (n : Nat) (c : State σ) :
    after behaviour (n + 1) c = (after behaviour n c).bind (step behaviour) := by
  induction n generalizing c with
  | zero => simp [after]
  | succ n ih =>
    cases moved : step behaviour c with
    | none => simp [after, moved]
    | some d =>
      have next := ih d
      simp only [after] at next
      simpa only [after, moved, Option.bind_some] using next

theorem after_add (n k : Nat) (c : State σ) :
    after behaviour (n + k) c = (after behaviour n c).bind (after behaviour k) := by
  induction n generalizing c with
  | zero => simp [after]
  | succ n ih =>
    rw [Nat.add_right_comm]
    cases moved : step behaviour c with
    | none => simp [after, moved]
    | some d => simp only [after, moved, Option.bind_some, ih]

/-- What is collected along a run grows by what its last moment has. -/
theorem filterMap_range_succ {α : Type} (f : Nat → Option α) (n : Nat) :
    (List.range (n + 1)).filterMap f = (List.range n).filterMap f ++ (f n).toList := by
  rw [List.range_succ, List.filterMap_append, List.filterMap_cons]
  cases f n <;> rfl

theorem after_one (moved : step behaviour c = some d) : after behaviour 1 c = some d := by
  simp only [after, moved, Option.bind_some]

theorem after_first {n : Nat} {x : State σ} (moved : step behaviour c = some d)
    (run : after behaviour n d = some x) : after behaviour (n + 1) c = some x := by
  simp only [after, moved, Option.bind_some, run]

theorem after_next {n : Nat} {x : State σ} (run : after behaviour n c = some d)
    (moved : step behaviour d = some x) : after behaviour (n + 1) c = some x := by
  rw [after_succ, run]
  exact moved

/-- A run passes through all moments before its last one. -/
theorem after_le {n j : Nat} (run : after behaviour n c = some d) (early : j ≤ n) :
    ∃ x, after behaviour j c = some x := by
  obtain ⟨k, rfl⟩ := Nat.exists_eq_add_of_le early
  rw [after_add] at run
  obtain ⟨x, before, _⟩ := Option.bind_eq_some_iff.mp run
  exact ⟨x, before⟩

/-- Nothing happens after the end of a run. -/
theorem le_of_ended {n k : Nat} {o : Outcome Bool} {w : World σ}
    (run : after behaviour n c = some ⟨.outcome o, [], w⟩) (other : after behaviour k c = some d) :
    k ≤ n := by
  refine Nat.le_of_not_lt fun early => ?_
  obtain ⟨x, later⟩ := after_le other early
  rw [after_succ, run] at later
  cases later

/-- A call returns if what the host says about the listener does; the listeners of engines do. -/
theorem call_returns {l : ListenerId} {e : EventRef} {w : World σ}
    (custom : ∃ consumed w', Reaches behaviour ⟨.program (behaviour l e), [], w⟩
      ⟨.outcome (.returned consumed), [], w'⟩) :
    ∃ consumed w', Reaches behaviour ⟨.call l e, [], w⟩
      ⟨.outcome (.returned consumed), [], w'⟩ := by
  cases role : (w.listener l).role with
  | custom =>
    obtain ⟨consumed, w', n, run⟩ := custom
    have called : step behaviour ⟨.call l e, [], w⟩ = some ⟨.program (behaviour l e), [], w⟩ := by
      simp only [step, handle, role]
    exact ⟨consumed, w', n + 1, after_first called run⟩
  | quit running exitCode =>
    exact ⟨_, _, 1, after_one (by simp only [step, handle, role]; rfl)⟩
  | frames updates renders =>
    exact ⟨_, _, 1, after_one (by simp only [step, handle, role]; rfl)⟩

/-- A run ends once. -/
theorem after_ended {n k : Nat} {o o' : Outcome Bool} {w w' : World σ}
    (run : after behaviour n c = some ⟨.outcome o, [], w⟩)
    (other : after behaviour k c = some ⟨.outcome o', [], w'⟩) : n = k :=
  Nat.le_antisymm (le_of_ended other run) (le_of_ended run other)

namespace Reaches

theorem refl (c : State σ) : Reaches behaviour c c := ⟨0, rfl⟩

theorem trans {a : State σ} (first : Reaches behaviour a c) (second : Reaches behaviour c d) :
    Reaches behaviour a d := by
  obtain ⟨n, first⟩ := first
  obtain ⟨k, second⟩ := second
  exact ⟨n + k, by rw [after_add, first, Option.bind_some, second]⟩

theorem single (moved : step behaviour c = some d) : Reaches behaviour c d :=
  ⟨1, after_one moved⟩

/-- A run that ends goes on from each of its moments to its end. -/
theorem ends {n k : Nat} {o : Outcome Bool} {w : World σ}
    (run : after behaviour n c = some ⟨.outcome o, [], w⟩) (here : after behaviour k c = some d) :
    Reaches behaviour d ⟨.outcome o, [], w⟩ := by
  obtain ⟨rest, rfl⟩ := Nat.exists_eq_add_of_le (le_of_ended run here)
  rw [after_add, here] at run
  exact ⟨rest, run⟩

/-- What can be computed of every moment of a run that ends holds all along it. -/
theorem checked {p : State σ → Bool} {n : Nat} {o : Outcome Bool} {w : World σ}
    (ended : after behaviour n c = some ⟨.outcome o, [], w⟩)
    (all : ((List.range (n + 1)).all fun k => (after behaviour k c).all p) = true)
    (run : Reaches behaviour c d) : p d = true := by
  obtain ⟨k, here⟩ := run
  have early : k ∈ List.range (n + 1) :=
    List.mem_range.mpr (Nat.lt_succ_of_le (le_of_ended ended here))
  have holds := List.all_eq_true.mp all k early
  rwa [here] at holds

/-- What every step preserves holds along a run. -/
theorem invariant {P : State σ → Prop}
    (preserves : ∀ c d, P c → step behaviour c = some d → P d)
    (run : Reaches behaviour c d) (initial : P c) : P d := by
  obtain ⟨n, run⟩ := run
  induction n generalizing c with
  | zero => exact Option.some.inj run ▸ initial
  | succ n ih =>
    obtain ⟨next, moved, run⟩ := Option.bind_eq_some_iff.mp run
    exact ih (preserves _ _ initial moved) run

end Reaches

theorem Reachable.next (reachable : Reachable behaviour c) (run : Reaches behaviour c d) :
    Reachable behaviour d := by
  obtain ⟨p, memory, before⟩ := reachable
  exact ⟨p, memory, before.trans run⟩

end EventEngine.Machine
