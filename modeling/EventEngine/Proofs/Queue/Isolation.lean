import EventEngine.Proofs.Queue.Causes
import EventEngine.Proofs.Queue.Turns

/-! Drains are bounded and isolated from what happens during them. Nothing joins the active buffer
of a manager while a drain of it is under way, so a drain dispatches at most the batch that it began
with, and nothing that was queued later. -/
namespace EventEngine

/-- Whether a happening makes the pending buffer of a manager active. -/
def Happening.swaps (m : ManagerId) : Happening → Bool
  | .swapped n _ => n == m
  | _ => false

namespace Ledger

variable {m : ManagerId} {ledger : Ledger} {h : Happening} {hs : List Happening}

/-- Without a swap nothing joins the active occurrences. -/
theorem record_suffix (other : h.swaps m = false) :
    (ledger.record m h).active <:+ ledger.active := by
  unfold record
  split
  case isFalse => exact List.suffix_rfl
  case isTrue moves =>
    cases h with
    | swapped n batch =>
      rw [Happening.swaps, beq_eq_false_iff_ne] at other
      exact (other (beq_iff_eq.mp moves)).elim
    | dropped => exact List.nil_suffix
    | handedOver => exact List.tail_suffix _
    | _ => exact List.suffix_rfl

theorem run_suffix (unswapped : ∀ h ∈ hs, h.swaps m = false) :
    (hs.foldl (record m) ledger).active <:+ ledger.active := by
  induction hs generalizing ledger with
  | nil => exact List.suffix_rfl
  | cons h hs ih =>
    have later : (hs.foldl (record m) (ledger.record m h)).active <:+ (ledger.record m h).active :=
      ih fun k inside => unswapped k (List.mem_cons_of_mem h inside)
    exact later.trans (record_suffix (unswapped h (List.mem_cons_self ..)))

theorem of_append (m : ManagerId) (before since : List Happening) :
    Ledger.of m (before ++ since) = since.foldl (record m) (Ledger.of m before) :=
  List.foldl_append ..

end Ledger

namespace World

variable {σ : Type} {w w' : World σ} {m : ManagerId}

/-- The occurrences in the queue of a manager. -/
def ledger (m : ManagerId) (w : World σ) : Ledger := Ledger.of m w.journal.toList

/-- The pending buffer of a manager is not made active. -/
abbrev Unswapped (m : ManagerId) : World σ → World σ → Prop := Notes fun h => h.swaps m = false

/-- Nothing has joined what is active in the queue of a manager: the end of it is left. -/
structure Dwindles (m : ManagerId) (w w' : World σ) : Prop where
  occurrences : (w'.ledger m).active <:+ (w.ledger m).active
  events : (w'.manager m).queue.active <:+ (w.manager m).queue.active

theorem Unswapped.dwindles (unswapped : Unswapped m w w')
    (before : (w.ledger m).Tells (w.stock m)) (after : (w'.ledger m).Tells (w'.stock m)) :
    Dwindles m w w' := by
  obtain ⟨hs, journal, none⟩ := unswapped
  have occurrences : (w'.ledger m).active <:+ (w.ledger m).active := by
    rw [ledger, journal, Ledger.of_append]
    exact Ledger.run_suffix none
  refine ⟨occurrences, ?_⟩
  have active : (w.manager m).queue.active = _ := before.active.symm
  have active' : (w'.manager m).queue.active = _ := after.active.symm
  rw [active, active']
  exact occurrences.map _

/-- Between these two moments of a drain it has handed over events of its batch only: a beginning of
it, each event at its turn, and nothing that was queued since the first moment. -/
structure Isolated (m : ManagerId) (v w : World σ) : Prop extends Dwindles m v w where
  handedOver : ∃ since, w.journal.toList = v.journal.toList ++ since ∧
    History.delivered m since <+: (v.manager m).queue.active ∧
    ∀ before e later, since = before ++ .handedOver m e :: later →
      ∃ a ∈ (v.ledger m).active, a.event = e ∧ a.number < (v.ledger m).next ∧
        (Ledger.of m (v.journal.toList ++ before)).active.head? = some a

end World

namespace Machine

open World

variable {σ : Type} {behaviour : Behaviour σ} {c d : State σ} {m : ManagerId}

/-- A pending buffer is made active only where a drain begins. -/
theorem step_unswapped (moved : step behaviour c = some d)
    (refused : ∀ budget, c.control = .execute m budget →
      (c.world.manager m).queue.draining = true) : Unswapped m c.world d.world := by
  refine (step_causes moved).mono fun h cause => ?_
  cases cause with
  | rests still =>
    cases h with
    | swapped => exact still m
    | _ => rfl
  | swaps executes idle =>
    refine beq_eq_false_iff_ne.mpr fun same => ?_
    subst same
    rw [refused _ executes] at idle
    cases idle
  | _ => rfl

theorem Reachable.tells (reachable : Reachable behaviour c) (m : ManagerId) :
    (c.world.ledger m).Tells (c.world.stock m) :=
  Ledger.Tells.empty.run (reachable.queueRun m)

/-- A drain that has not ended is marked. -/
theorem Draining.marked {budget : Option Duration} {started : Timestamp} {turns₀ : Nat}
    {v₀ : World σ} (draining : Draining behaviour m budget started turns₀ v₀ c)
    (marked : Marked m c) (moved : Machine.step behaviour c = some d) :
    (c.world.manager m).queue.draining = true := by
  have inside : 0 < c.drains m := by
    cases draining with
    | turn => simp [State.drains, Control.drains]
    | dispatching => simp [State.drains, State.over, stackDrains, Waiting.drains]
    | returned | panicked => cases moved
  rw [marked] at inside
  by_contra idle
  rw [if_neg idle] at inside
  cases inside

/-- A drain that has ended, with nothing beneath it, has given up its mark. -/
theorem Marked.ended {o : Outcome Bool} {u : World σ} (marked : Marked m ⟨.outcome o, [], u⟩) :
    (u.manager m).queue.draining = false := by
  cases draining : (u.manager m).queue.draining with
  | false => rfl
  | true =>
    simp only [Marked, draining, if_true] at marked
    cases marked

/-- What every step preserves that is made while a drain is marked holds all along the drain. -/
theorem Reaches.throughout {budget : Option Duration} {started : Timestamp} {turns₀ : Nat}
    {v₀ : World σ} {P : State σ → Prop}
    (run : Reaches behaviour ⟨.drain m budget started turns₀ 0, [], v₀⟩ d)
    (marked : Marked m ⟨.drain m budget started turns₀ 0, [], v₀⟩)
    (preserves : ∀ x y, Reaches behaviour ⟨.drain m budget started turns₀ 0, [], v₀⟩ x →
      (x.world.manager m).queue.draining = true → P x → Machine.step behaviour x = some y → P y)
    (initial : P ⟨.drain m budget started turns₀ 0, [], v₀⟩) : P d := by
  have whole : (Reaches behaviour ⟨.drain m budget started turns₀ 0, [], v₀⟩ d ∧ Marked m d) ∧
      P d := by
    refine run.invariant (P := fun d => (Reaches behaviour
      ⟨.drain m budget started turns₀ 0, [], v₀⟩ d ∧ Marked m d) ∧ P d) ?_
      ⟨⟨.refl _, marked⟩, initial⟩
    rintro x y ⟨⟨before, marked⟩, holds⟩ moved
    exact ⟨⟨before.trans (.single moved), marked.step moved⟩,
      preserves x y before (before.draining.marked marked moved) holds moved⟩
  exact whole.2

/-- No pending buffer is made active while a drain goes on. -/
theorem Reaches.unswapped {budget : Option Duration} {started : Timestamp} {turns₀ : Nat}
    {v₀ : World σ} (run : Reaches behaviour ⟨.drain m budget started turns₀ 0, [], v₀⟩ d)
    (marked : Marked m ⟨.drain m budget started turns₀ 0, [], v₀⟩) : Unswapped m v₀ d.world :=
  run.throughout (P := fun d => Unswapped m v₀ d.world) marked
    (fun _ _ _ draining before moved => before.trans (step_unswapped moved fun _ _ => draining))
    (.refl v₀)

/-- What a drain hands over comes from what was active when it began. -/
theorem isolated_of_unswapped {v w : World σ} (unswapped : Unswapped m v w)
    (continues : Continues m v w) (before : (v.ledger m).Tells (v.stock m))
    (after : (w.ledger m).Tells (w.stock m)) : Isolated m v w := by
  refine ⟨unswapped.dwindles before after, ?_⟩
  obtain ⟨since, journal, none⟩ := unswapped
  obtain ⟨hs, journal', run⟩ := continues
  cases List.append_cancel_left (journal.symm.trans journal')
  have noSwap (batch : List EventRef) : .swapped m batch ∉ since := fun inside => by
    have other : (m == m) = false := none _ inside
    rw [beq_self_eq_true] at other
    cases other
  obtain ⟨rest, parts, _⟩ := run.remaining noSwap
  refine ⟨since, journal, ⟨rest, parts.symm⟩, ?_⟩
  rintro early e later rfl
  obtain ⟨middle, next, first, hands, -⟩ := run.split
  obtain ⟨a, behind, active, event⟩ := (before.run first).handsOver hands
  have inBatch : a ∈ (v.ledger m).active := by
    have suffix : (early.foldl (Ledger.record m) (v.ledger m)).active <:+ (v.ledger m).active :=
      Ledger.run_suffix fun h inside => none h (List.mem_append_left _ inside)
    exact suffix.subset (active ▸ List.mem_cons_self ..)
  refine ⟨a, inBatch, event, before.numbered a (List.mem_append_left _ inBatch), ?_⟩
  rw [Ledger.of_append]
  exact active ▸ rfl

/-- A drain of a manager that begins in this world, with nothing beneath it, is bounded by its
batch. -/
structure BoundedByBatch (behaviour : Behaviour σ) (m : ManagerId) (budget : Option Duration)
    (w : World σ) : Prop where
  isolated : ∃ v, step behaviour ⟨.execute m budget, [], w⟩ =
      some ⟨.drain m budget (w.readClock m).1 ((w.manager m).queue.batch.length + 1) 0, [], v⟩ ∧
    (v.manager m).queue.active = (w.manager m).queue.batch ∧
    ∀ d, Reaches behaviour ⟨.drain m budget (w.readClock m).1
      ((w.manager m).queue.batch.length + 1) 0, [], v⟩ d → Isolated m v d.world
  /-- There is never a turn too few for what is active. -/
  turn : ∀ turns i v, AtTurn behaviour m budget w turns i v →
    i + (v.manager m).queue.active.length ≤ (w.manager m).queue.batch.length ∧
      (v.manager m).queue.active.length < turns
  /-- It ends if the calls of listeners in its dispatches do, and returns if they return. -/
  ends : ∀ P : Outcome Bool → Prop, (∀ drained, P (.returned drained)) →
    (∀ l e top below v,
      Reaches behaviour ⟨.execute m budget, [], w⟩ ⟨.call l e, [top, below], v⟩ →
      Ends behaviour P ⟨.call l e, [], v⟩) →
    Ends behaviour P ⟨.execute m budget, [], w⟩

/-- While a drain of a manager is under way no step of whoever it is adds to its active buffer, and
every drain that begins is bounded by its batch. -/
theorem drains_are_isolated (reachable : Reachable behaviour c) (m : ManagerId) :
    ((c.world.manager m).queue.draining = true → ∀ d, step behaviour c = some d →
      Dwindles m c.world d.world) ∧
    ∀ budget stack w, c = ⟨.execute m budget, stack, w⟩ →
      (w.manager m).queue.draining = false → BoundedByBatch behaviour m budget w := by
  refine ⟨fun draining d moved => ?_, ?_⟩
  · have later := reachable.next (.single moved)
    exact (step_unswapped moved fun _ _ => draining).dwindles (reachable.tells m) (later.tells m)
  rintro budget stack w rfl idle
  obtain ⟨v, moved, batch⟩ := execute_begins behaviour idle budget
  obtain ⟨marked, _⟩ := spared_of_idle budget idle
  refine ⟨⟨v, moved, (underway_iff.mp batch).1, fun d run => ?_⟩, fun turns i x run => ?_,
    fun P returns calls => ?_⟩
  · have begun := reachable.next ((Reaches.single moved).over stack)
    have here := begun.next (run.over stack)
    exact isolated_of_unswapped (run.unswapped (marked.step moved)) (run.continues m)
      (begun.tells m) (here.tells m)
  · have enough := run.spared idle
    have total := (run.turnAfter moved).total
    omega
  · exact .of_reaches (.single moved) (drain_ends returns calls _ 0 v (.single moved))

/-- Two events are queued. Their listener queues both again at every call, asks for a drain itself
and dispatches another event. Two events are delivered, and what was queued meanwhile is pending. -/
theorem drain_of_busy_listener_is_bounded :
    let behaviour : Behaviour Unit := fun l e => do
      if l = 0 then
        Program.ask (.enqueue 0 e)
        Program.ask (.enqueue 0 e)
        let _ ← Program.ask (.execute 0 none)
        let _ ← Program.dispatchNew 0 (.plain ⟨8⟩)
      pure false
    let host : Program Unit Bool := do
      let m ← Program.ask (.newManager default)
      let first ← Program.ask (.newListener "first" .custom)
      let second ← Program.ask (.newListener "second" .custom)
      let _ ← Program.ask (.tryConnect m first ⟨7⟩)
      let _ ← Program.ask (.tryConnect m second ⟨8⟩)
      Program.enqueueNew m (.plain ⟨7⟩)
      Program.enqueueNew m (.plain ⟨7⟩)
      Program.ask (.execute m none)
    (∃ c d, after behaviour 18 (start host ()) = some c ∧
      (c.world.manager 0).queue.draining = true ∧ step behaviour c = some d ∧
      Dwindles 0 c.world d.world) ∧
    ∃ stack w u, after behaviour 10 (start host ()) = some ⟨.execute 0 none, stack, w⟩ ∧
      (w.manager 0).queue.draining = false ∧ (w.manager 0).queue.batch.map (·.id) = [0, 1] ∧
      BoundedByBatch behaviour 0 none w ∧
      Reaches behaviour ⟨.execute 0 none, [], w⟩ ⟨.outcome (.returned true), [], u⟩ ∧
      (History.delivered 0 u.journal.toList).map (·.id) = [0, 1] ∧
      (u.manager 0).queue.pending.map (·.id) = #[0, 0, 1, 1] := by
  intro behaviour host
  have nested : (after behaviour 18 (start host ())).any (fun c =>
      (c.world.manager 0).queue.draining && (step behaviour c).isSome) = true := by cbv
  have ran : (after behaviour 10 (start host ())).any (State.atExecute fun m budget w => m == 0 &&
      budget == none && !(w.manager 0).queue.draining &&
      (w.manager 0).queue.batch.map (·.id) == [0, 1] &&
      (after behaviour 46 ⟨.execute 0 none, [], w⟩).any fun d => d.hasReturned true &&
        (History.delivered 0 d.world.journal.toList).map (·.id) == [0, 1] &&
        (d.world.manager 0).queue.pending.map (·.id) == #[0, 0, 1, 1]) = true := by cbv
  obtain ⟨c, inside, told⟩ := (Option.any_eq_true ..).mp nested
  obtain ⟨draining, moves⟩ := Bool.and_eq_true_iff.mp told
  obtain ⟨d, moved⟩ := Option.isSome_iff_exists.mp moves
  have dwindles := (drains_are_isolated ⟨host, (), 18, inside⟩ 0).1 draining d moved
  refine ⟨⟨c, d, inside, draining, moved, dwindles⟩, ?_⟩
  obtain ⟨_, run, told⟩ := (Option.any_eq_true ..).mp ran
  obtain ⟨m, budget, stack, w, rfl, checked⟩ := atExecute_sound told
  simp only [Bool.and_eq_true, beq_iff_eq, Bool.not_eq_true'] at checked
  obtain ⟨⟨⟨⟨rfl, rfl⟩, idle⟩, batch⟩, ended⟩ := checked
  obtain ⟨_, last, told⟩ := (Option.any_eq_true ..).mp ended
  simp only [Bool.and_eq_true, beq_iff_eq] at told
  obtain ⟨⟨returned, delivered⟩, pending⟩ := told
  obtain ⟨u, rfl⟩ := hasReturned_iff.mp returned
  have bounded := (drains_are_isolated ⟨host, (), 10, run⟩ 0).2 none stack w rfl idle
  exact ⟨stack, w, u, run, idle, batch, bounded, ⟨46, last⟩, delivered, pending⟩

end Machine
end EventEngine
