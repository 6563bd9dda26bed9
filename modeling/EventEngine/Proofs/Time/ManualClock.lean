import EventEngine.Proofs.Machine.Tasks
import EventEngine.Proofs.Machine.Yields
import EventEngine.Proofs.Manager.Clocks

/-! The time of a manual clock. In nanoseconds it is what the moves of the clock add up to, cut off
at the last point there is, whoever makes these moves and whatever else a run does; and what is to
be due a while after a reading is due as soon as the clock has reached that sum. -/
namespace EventEngine

namespace Timestamp

/-- A point so many nanoseconds from the origin, as full seconds and the rest. -/
structure IsAt (n : Nat) (t : Timestamp) : Prop where
  secs : t.sinceOrigin.secs.toNat = n / nanosPerSec
  nanos : t.sinceOrigin.nanos = n % nanosPerSec

variable {n : Nat} {t : Timestamp}

theorem isAt_iff : t.IsAt n ↔ t.sinceOrigin.toNanos = n := by
  have below : t.sinceOrigin.nanos < 1000000000 := t.sinceOrigin.nanos_lt
  constructor
  · rintro ⟨secs, nanos⟩
    rw [Duration.toNanos, secs, nanos, Nat.mul_comm]
    exact Nat.div_add_mod ..
  · rintro rfl
    constructor <;> simp only [Duration.toNanos, nanosPerSec] <;> omega

/-- What has passed since an earlier point leads from there to the later one. -/
theorem after_since (a b : Timestamp) : b.after (a.since b) = if b < a then a else b := by
  have most := a.sinceOrigin.toNanos_le_longest
  have most' := b.sinceOrigin.toNanos_le_longest
  have sum : (b.after (a.since b)).sinceOrigin.toNanos =
      max a.sinceOrigin.toNanos b.sinceOrigin.toNanos := by
    rw [after, since, Duration.toNanos_saturatingAdd, Duration.toNanos_saturatingSub]
    omega
  have same {c : Timestamp} (nanos : c.sinceOrigin.toNanos =
      max a.sinceOrigin.toNanos b.sinceOrigin.toNanos) : b.after (a.since b) = c :=
    congrArg mk (Duration.eq_iff.mpr (sum.trans nanos.symm))
  split
  · rename_i later
    exact same (Nat.max_eq_left (Nat.le_of_lt (Duration.lt_iff.mp later))).symm
  · rename_i notLater
    exact same (Nat.max_eq_right (Nat.le_of_not_lt (mt Duration.lt_iff.mpr notLater))).symm

end Timestamp

namespace Clock

/-- What moves a manual clock. -/
inductive Move
  | advance (step : Duration)
  | set (target : Timestamp)

def Move.apply : Move → Clock → Clock
  | advance step, c => c.advance step
  | set target, c => c.set target

/-- A move of a number of nanoseconds: forward, but not beyond the end of time, or up to a target. -/
def Move.count : Move → Nat → Nat
  | advance step, n => min (n + step.toNanos) Duration.longest.toNanos
  | set target, n => max n target.sinceOrigin.toNanos

/-- The clock after one move and another. -/
def moved (c : Clock) (moves : List Move) : Clock := moves.foldl (fun c move => move.apply c) c

/-- The nanoseconds after one move and another. -/
def counted (n : Nat) (moves : List Move) : Nat := moves.foldl (fun n move => move.count n) n

variable {c : Clock} {point now : Timestamp}

theorem moved_append (c : Clock) (moves later : List Move) :
    c.moved (moves ++ later) = (c.moved moves).moved later :=
  List.foldl_append

theorem apply_manual (move : Move) (now : Timestamp) : ∃ next, move.apply (.manual now) = .manual next ∧
    next.sinceOrigin.toNanos = move.count now.sinceOrigin.toNanos := by
  cases move with
  | advance step => exact ⟨_, rfl, Duration.toNanos_saturatingAdd ..⟩
  | set target =>
    refine ⟨_, rfl, ?_⟩
    simp only [Move.count]
    split
    · rename_i ahead
      exact (Nat.max_eq_right (Nat.le_of_lt (Duration.lt_iff.mp ahead))).symm
    · rename_i behind
      exact (Nat.max_eq_left (Nat.le_of_not_lt (mt Duration.lt_iff.mpr behind))).symm

/-- A manual clock stays one, and shows what its moves add up to. -/
theorem moved_manual (moves : List Move) (start : Timestamp) :
    ∃ now, (manual start).moved moves = .manual now ∧
      now.sinceOrigin.toNanos = counted start.sinceOrigin.toNanos moves := by
  induction moves generalizing start with
  | nil => exact ⟨start, rfl, rfl⟩
  | cons move moves ih =>
    obtain ⟨next, first, counts⟩ := apply_manual move start
    obtain ⟨now, rest, sum⟩ := ih next
    refine ⟨now, ?_, ?_⟩
    · rw [← rest, ← first]
      rfl
    · rw [sum, counts]
      rfl

theorem Reaches.moved (reaches : c.Reaches point) (moves : List Move) :
    (c.moved moves).Reaches point := by
  induction moves generalizing c with
  | nil => exact reaches
  | cons move moves ih =>
    cases move with
    | advance step => exact ih (reaches.advance step)
    | set target => exact ih (reaches.set target)

end Clock

namespace Manager

/-- How a task moves the clock of its manager. -/
def Task.clockMoves : Task → List Clock.Move
  | serve (.advance step) => [.advance step]
  | serve (.setClock target) => [.set target]
  | _ => []

variable {x : Manager} {roll : Roll} {now : Timestamp}

theorem beginDrain_manual (manual : x.clock = .manual now) : x.beginDrain.2.clock = .manual now := by
  simp only [beginDrain]
  split
  · exact manual
  · simp only [readClock, manual, Clock.read]

theorem takeDue_manual (budget : Option Duration) (started : Timestamp)
    (manual : x.clock = .manual now) : (x.takeDue budget started).2.clock = .manual now := by
  simp only [takeDue, readClock, manual, Clock.read]
  split
  · rfl
  · split <;> rfl

/-- Nothing but its moves makes a manual clock show another time. -/
theorem Task.run_clock {task : Task} (old : ∀ clock, task ≠ .make clock)
    (manual : x.clock = .manual now) :
    (task.run roll x).clock = (Clock.manual now).moved task.clockMoves := by
  cases task with
  | make clock => exact absurd rfl (old clock)
  | serve r =>
    cases r with
    | advance | setClock =>
      rw [← manual]
      rfl
    | connect l t =>
      simp only [run, Request.serve, connect]
      split <;> exact manual
    | disconnect l t =>
      simp only [run, Request.serve, disconnect]
      split <;> exact manual
    | readClock =>
      simp only [run, Request.serve, Manager.readClock, manual]
      rfl
    | hold | clearListeners | pruneStale | enqueue | dequeue | clearQueue => exact manual
  | beginDispatch t =>
    simp only [run, Manager.beginDispatch]
    split <;> exact manual
  | beginDrain => exact beginDrain_manual manual
  | turn budget started =>
    have took := takeDue_manual budget started manual
    simp only [run, Manager.turn]
    split
    all_goals
      rename_i same
      rw [same] at took
      exact took
  | release | look | pruneOne | conclude | closeFrame | finishDrain | endDrain => exact manual

end Manager

namespace Machine

open World
open Clock (Move counted)

variable {σ : Type} {behaviour : Behaviour σ} {c d : State σ} {m : ManagerId} {start now : Timestamp}

/-- How the next step moves the clock of a manager. -/
def State.clockMoves (m : ManagerId) (c : State σ) : List Move :=
  match c.task? with
  | some (n, task) => if n = m then task.clockMoves else []
  | none => []

/-- How a run of so many steps moves the clock of a manager. -/
def movesWithin (behaviour : Behaviour σ) (m : ManagerId) (n : Nat) (c : State σ) : List Move :=
  (List.range n).flatMap fun j => ((after behaviour j c).map (State.clockMoves m)).getD []

theorem movesWithin_succ {n : Nat} (here : after behaviour n c = some d) :
    movesWithin behaviour m (n + 1) c = movesWithin behaviour m n c ++ d.clockMoves m := by
  simp only [movesWithin, List.range_succ, List.flatMap_append, List.flatMap_cons, here,
    Option.map_some, Option.getD_some, List.flatMap_nil, List.append_nil]

theorem step_clock (made : m < c.world.managers.size)
    (manual : (c.world.manager m).clock = .manual now) (moved : step behaviour c = some d) :
    (d.world.manager m).clock = (Clock.manual now).moved (c.clockMoves m) := by
  have does := step_does moved
  unfold State.clockMoves
  cases works : c.task? with
  | none =>
    rw [works] at does
    exact (congrArg (·.clock) (does m)).trans manual
  | some asked =>
    obtain ⟨n, task⟩ := asked
    rw [works] at does
    have becomes := does m
    dsimp only
    split at becomes
    · rename_i same
      subst same
      rw [becomes, if_pos rfl]
      refine Manager.Task.run_clock (fun clock makes => ?_) manual
      cases task?_origin works with
      | makes last => exact Nat.ne_of_lt made last
      | queues asked => cases makes
      | other plain =>
        rw [makes] at plain
        exact plain
    · rename_i other
      rw [becomes, if_neg other]
      exact manual

/-- In a run a manual clock goes by its moves. -/
theorem after_clock {n : Nat} (made : m < c.world.managers.size)
    (manual : (c.world.manager m).clock = .manual start) (run : after behaviour n c = some d) :
    (d.world.manager m).clock = (Clock.manual start).moved (movesWithin behaviour m n c) := by
  induction n generalizing d with
  | zero =>
    cases run
    exact manual
  | succ n ih =>
    rw [after_succ] at run
    obtain ⟨x, before, moved⟩ := Option.bind_eq_some_iff.mp run
    have made' : m < x.world.managers.size :=
      Nat.lt_of_lt_of_le made (Reaches.clocks ⟨n, before⟩).size
    obtain ⟨now, shows, -⟩ := Clock.moved_manual (movesWithin behaviour m n c) start
    rw [movesWithin_succ before, Clock.moved_append, shows]
    exact step_clock made' ((ih before).trans shows) moved

/-- What a program is told of the time a while from now. -/
theorem after_yields (m : ManagerId) (delay : Duration) (w : World σ) :
    Yields behaviour (Program.after m delay) w ((w.readClock m).1.after delay) (w.readClock m).2 :=
  .bind (.carried (.now m) rfl) (.done _ _)

/-- Time is counted exactly, in nanoseconds up to the last point there is. A manual clock shows what
its moves add up to, as full seconds and the rest, and never less than before; in a run of the
system no other step moves it. What is scheduled a while after a reading is due from that sum on, and
then it stays due. What has passed between two points is their difference, and leads from the
earlier to the later one. -/
theorem time_is_exact_and_saturates (behaviour : Behaviour σ) :
    (∀ start moves, ((Clock.manual start).moved moves).read.1.IsAt
      (counted start.sinceOrigin.toNanos moves)) ∧
    (∀ start moves later, ((Clock.manual start).moved moves).read.1 ≤
      ((Clock.manual start).moved (moves ++ later)).read.1) ∧
    (∀ m start n c d, m < c.world.managers.size → (c.world.manager m).clock = .manual start →
      after behaviour n c = some d →
      (d.world.manager m).clock = (Clock.manual start).moved (movesWithin behaviour m n c)) ∧
    (∀ m delay w, ∃ due v, Yields behaviour (Program.after m delay) w due v ∧
      ∀ e : Event, e.due = due → ∀ reading, e.due.isDue reading = true ↔
        min ((w.readClock m).1.sinceOrigin.toNanos + delay.toNanos) Duration.longest.toNanos ≤
          reading.sinceOrigin.toNanos) ∧
    (∀ due reading later : Timestamp, reading ≤ later → due.isDue reading = true →
      due.isDue later = true) ∧
    ∀ a b : Timestamp, (a.since b).toNanos = a.sinceOrigin.toNanos - b.sinceOrigin.toNanos ∧
      b.after (a.since b) = if b < a then a else b := by
  refine ⟨fun start moves => ?_, fun start moves later => ?_, fun m start n c d => after_clock,
    fun m delay w => ⟨_, _, after_yields m delay w, fun e scheduled reading => ?_⟩,
    fun _ _ _ => Timestamp.isDue_mono,
    fun a b => ⟨Duration.toNanos_saturatingSub .., Timestamp.after_since a b⟩⟩
  · obtain ⟨now, shows, sum⟩ := Clock.moved_manual moves start
    rw [shows]
    exact Timestamp.isAt_iff.mpr sum
  · obtain ⟨now, shows, -⟩ := Clock.moved_manual moves start
    have monotonic : ((Clock.manual start).moved moves).Monotonic := shows ▸ trivial
    rw [Clock.moved_append]
    exact (monotonic.reaches.moved later).reading
  · rw [scheduled, Timestamp.isDue_iff, Timestamp.after, Duration.toNanos_saturatingAdd]

/-- The clock is not set back, and the last advance goes beyond the end of time. -/
theorem clock_stands_at_the_end_of_time :
    let behaviour : Behaviour Unit := fun _ _ => pure true
    let host : Program Unit Bool := do
      Program.ask (.setClock 0 (.ofMillis 5))
      Program.ask (.setClock 0 (.ofMillis 40))
      Program.ask (.advance 0 ⟨0xffffffffffffffff, 960000000, by decide⟩)
      pure true
    ∃ d, after behaviour 3
        ⟨.program host, [], ((World.initial ()).newManager (.manual (.ofMillis 10))).2⟩ = some d ∧
      (d.world.manager 0).clock.read.1 = ⟨.longest⟩ := by
  intro behaviour host
  have moves := (time_is_exact_and_saturates behaviour).2.2.1 0 (.ofMillis 10) 3
    ⟨.program host, [], ((World.initial ()).newManager (.manual (.ofMillis 10))).2⟩ _
    (by decide) rfl rfl
  refine ⟨_, rfl, ?_⟩
  rw [moves]
  decide

end Machine
end EventEngine
