import EventEngine.Proofs.Queue.Causes
import EventEngine.Proofs.Queue.Order
import Mathlib

/-! The occurrences that stand in a queue, as the journal tells of them. From this ledger
follows in which order drains deliver, whatever happens between and during them. -/
namespace EventEngine

structure Ledger where
  /-- The number of the next queueing. -/
  next : Nat
  pending : List Occurrence
  active : List Occurrence

namespace Ledger

def empty : Ledger := ⟨0, [], []⟩

/-- What a happening that moves events does to the occurrences. -/
def move (ledger : Ledger) : Happening → Ledger
  | .queued _ e =>
    { ledger with next := ledger.next + 1, pending := ledger.pending ++ [⟨ledger.next, e⟩] }
  | .dequeued _ e all .. =>
    { ledger with
      pending := if all then ledger.pending.filter (·.event.typeId != e.typeId)
        else ledger.pending.eraseP (·.event.same e) }
  | .dropped .. => { ledger with pending := [], active := [] }
  | .swapped .. => { ledger with pending := [], active := ledger.pending.mergeSort Occurrence.before }
  | .handedOver .. => { ledger with active := ledger.active.tail }
  | _ => ledger

def record (m : ManagerId) (ledger : Ledger) (h : Happening) : Ledger :=
  if h.moves m then ledger.move h else ledger

/-- The occurrences in the queue of a manager after a history. -/
def of (m : ManagerId) (history : List Happening) : Ledger := history.foldl (record m) empty

/-- A ledger tells of a queue. Occurrences were numbered in the order in which they came, and
what is active came before what is pending. -/
structure Tells (ledger : Ledger) (s : Stock) : Prop where
  active : ledger.active.map (·.event) = s.active
  pending : ledger.pending.map (·.event) = s.pending
  ascending : ledger.pending.Pairwise fun a b => a.number < b.number
  sorted : ledger.active.Pairwise Occurrence.Precedes
  older : ∀ a ∈ ledger.active, ∀ b ∈ ledger.pending, a.number < b.number
  numbered : ∀ a ∈ ledger.active ++ ledger.pending, a.number < ledger.next

theorem Tells.empty : Tells .empty .empty :=
  ⟨rfl, rfl, .nil, .nil, by simp [Ledger.empty], by simp [Ledger.empty]⟩

variable {m : ManagerId} {ledger : Ledger} {s last : Stock} {h : Happening}

/-- Some pending occurrences leave and nothing else happens. -/
theorem Tells.keep (tells : Tells ledger s) {kept : List Occurrence}
    (sublist : kept.Sublist ledger.pending) {dequeued : Nat} :
    Tells { ledger with pending := kept }
      { s with pending := kept.map (·.event), dequeued } where
  active := tells.active
  pending := rfl
  ascending := tells.ascending.sublist sublist
  sorted := tells.sorted
  older := fun a inActive b inKept => tells.older a inActive b (sublist.subset inKept)
  numbered := fun a inside =>
    tells.numbered a (((List.Sublist.refl _).append sublist).subset inside)

theorem Tells.step (tells : Tells ledger s) (step : Stock.Step m s h last) :
    Tells (ledger.record m h) last := by
  cases step with
  | quiet still =>
    simp only [record, still]
    exact tells
  | @queued _ e =>
    simp only [record, Happening.moves, beq_self_eq_true, if_true, move]
    refine ⟨tells.active, by simp [tells.pending], ?_, tells.sorted, ?_, ?_⟩
    · refine List.pairwise_append.mpr ⟨tells.ascending, List.pairwise_singleton .., ?_⟩
      intro a inPending b isNew
      rw [List.mem_singleton.mp isNew]
      exact tells.numbered a (List.mem_append_right _ inPending)
    · intro a inActive b inPending
      rcases List.mem_append.mp inPending with old | new
      · exact tells.older a inActive b old
      · rw [List.mem_singleton.mp new]
        exact tells.numbered a (List.mem_append_left _ inActive)
    · intro a inside
      have old : a ∈ ledger.active ++ ledger.pending ∨ a = ⟨ledger.next, e⟩ := by
        simpa only [List.mem_append, List.mem_singleton, ← or_assoc] using inside
      rcases old with old | rfl
      · exact Nat.lt_succ_of_lt (tells.numbered a old)
      · exact Nat.lt_succ_self _
  | dequeued e all taken =>
    simp only [record, Happening.moves, beq_self_eq_true, if_true, move]
    rw [← tells.pending]
    cases all with
    | false =>
      simp only [Stock.kept, List.eraseP_map, Bool.false_eq_true, if_false]
      exact tells.keep (List.eraseP_sublist)
    | true =>
      simp only [Stock.kept, List.filter_map, if_true]
      exact tells.keep List.filter_sublist
  | dropped =>
    simp only [record, Happening.moves, beq_self_eq_true, if_true, move]
    exact ⟨rfl, rfl, .nil, .nil, by simp, by simp⟩
  | swapped drained =>
    simp only [record, Happening.moves, beq_self_eq_true, if_true, move]
    have order := mergeSort_deliveryOrder tells.ascending
    refine ⟨?_, rfl, .nil, order.sorted, by simp, ?_⟩
    · rw [← tells.pending]
      exact List.map_mergeSort fun _ _ _ _ => rfl
    · intro a inside
      rw [List.append_nil] at inside
      exact tells.numbered a (List.mem_append_right _ (order.perm.mem_iff.mp inside))
  | @handedOver _ e rest front =>
    simp only [record, Happening.moves, beq_self_eq_true, if_true, move]
    have inTail : ledger.active.tail.Sublist ledger.active := List.tail_sublist _
    refine ⟨?_, tells.pending, tells.ascending, tells.sorted.sublist inTail, ?_, ?_⟩
    · rw [List.map_tail, tells.active, front, List.tail_cons]
    · exact fun a inActive => tells.older a (inTail.subset inActive)
    · exact fun a inside => tells.numbered a ((inTail.append (.refl _)).subset inside)

theorem Tells.run {hs : List Happening} (tells : Tells ledger s) (run : Stock.Run m s hs last) :
    Tells (hs.foldl (record m) ledger) last := by
  induction run generalizing ledger with
  | nil => exact tells
  | cons step rest ih => exact ih (tells.step step)

/-- The front of the active buffer goes before every occurrence left in the queue that was
queued earlier. -/
theorem Tells.front (tells : Tells ledger s) {a : Occurrence} {rest : List Occurrence}
    (front : ledger.active = a :: rest) {b : Occurrence} (waits : b ∈ rest ++ ledger.pending)
    (earlier : b.number < a.number) : deliveryOrder b.event a.event = .gt := by
  rcases List.mem_append.mp waits with behind | pending
  · have sorted := tells.sorted
    rw [front] at sorted
    exact (List.rel_of_pairwise_cons sorted behind).order_gt earlier
  · have older := tells.older a (front ▸ List.mem_cons_self ..) b pending
    omega

/-- What is handed over is the front of the active buffer. -/
theorem Tells.handsOver {e : EventRef} (tells : Tells ledger s)
    (hands : Stock.Step m s (.handedOver m e) last) :
    ∃ a behind, ledger.active = a :: behind ∧ a.event = e := by
  cases hands with
  | quiet still => simp [Happening.moves] at still
  | handedOver front =>
    obtain ⟨a, behind, active, event, _⟩ := List.map_eq_cons_iff.mp (tells.active.trans front)
    exact ⟨a, behind, active, event⟩

end Ledger

/-- Between two swaps the active buffer only loses its front, or everything. -/
theorem Stock.Run.remaining {m : ManagerId} {s last : Stock} {hs : List Happening}
    (run : Run m s hs last) (unswapped : ∀ batch, .swapped m batch ∉ hs) :
    ∃ rest, s.active = History.delivered m hs ++ rest ∧
      (last.active = rest ∨ last.active = []) ∧
      ((∀ count removed, .dropped m count removed ∉ hs) → last.active = rest) := by
  induction run with
  | nil => exact ⟨_, rfl, .inl rfl, fun _ => rfl⟩
  | @cons s h next hs last step rest ih =>
    obtain ⟨left, parts, ends, complete⟩ :=
      ih fun batch later => unswapped batch (List.mem_cons_of_mem _ later)
    have same (active : next.active = s.active) (none : h.delivering m = []) :
        ∃ rest, s.active = History.delivered m (h :: hs) ++ rest ∧
          (last.active = rest ∨ last.active = []) ∧
          ((∀ count removed, .dropped m count removed ∉ h :: hs) → last.active = rest) := by
      refine ⟨left, ?_, ends, fun undropped => complete fun count removed later =>
        undropped count removed (List.mem_cons_of_mem _ later)⟩
      simp only [History.delivered, List.flatMap_cons, none, List.nil_append]
      exact active ▸ parts
    cases step with
    | quiet still => exact same rfl (Happening.quiet_moves_nothing still).2.1
    | queued => exact same rfl rfl
    | dequeued => exact same rfl rfl
    | dropped =>
      obtain ⟨nothing, none⟩ := List.append_eq_nil_iff.mp parts.symm
      rw [none, or_self] at ends
      refine ⟨s.active, ?_, .inr ends, fun undropped =>
        (undropped _ _ (List.mem_cons_self ..)).elim⟩
      simp only [History.delivered, List.flatMap_cons, Happening.delivering, List.nil_append]
      exact (congrArg (· ++ s.active) nothing).symm
    | swapped => exact (unswapped _ (List.mem_cons_self ..)).elim
    | handedOver front =>
      refine ⟨left, ?_, ends, fun undropped => complete fun count removed later =>
        undropped count removed (List.mem_cons_of_mem _ later)⟩
      rw [front]
      simp only [History.delivered, List.flatMap_cons, Happening.delivering, if_true,
        List.singleton_append]
      exact congrArg _ parts

/-- What order means for the queue of a manager at a moment. The ledger of the journal is the
queue as it is. A buffer is made active when nothing active is left, in the one order of
delivery of its batch; what drains hand over from then on is a prefix of that order and, unless
the queue is cleared, the rest of it is active. Nothing is handed over while an occurrence that
was queued earlier and need not wait for it is in the queue. -/
structure DrainedInOrder {σ : Type} (m : ManagerId) (w : World σ) : Prop where
  active : (Ledger.of m w.journal.toList).active.map (·.event) = (w.manager m).queue.active
  pending : (Ledger.of m w.journal.toList).pending.map (·.event) =
    (w.manager m).queue.pending.toList
  swapped : ∀ before batch since, w.journal.toList = before ++ .swapped m batch :: since →
    (Ledger.of m before).active = [] ∧
      ∃ order, order.map (·.event) = batch ∧
        ∀ other, DeliveryOrder (Ledger.of m before).pending other ↔ other = order
  sinceSwap : ∀ before batch since, w.journal.toList = before ++ .swapped m batch :: since →
    (∀ other, .swapped m other ∉ since) →
    History.delivered m since <+: batch ∧
      ((∀ count removed, .dropped m count removed ∉ since) →
        History.delivered m since ++ (w.manager m).queue.active = batch)
  handedOver : ∀ before e since, w.journal.toList = before ++ .handedOver m e :: since →
    ∃ a rest, (Ledger.of m before).active = a :: rest ∧ a.event = e ∧
      ∀ b ∈ rest ++ (Ledger.of m before).pending, b.number < a.number →
        deliveryOrder b.event e = .gt

namespace Machine

variable {σ : Type} {behaviour : Behaviour σ} {c : State σ}

/-- Drains deliver in order, at every moment of every run: what the journal says of that, it says
truly. -/
theorem drains_deliver_in_order (reachable : Reachable behaviour c) (m : ManagerId) :
    DrainedInOrder m c.world ∧ Truthful behaviour m c := by
  have run := reachable.queueRun m
  have tells := Ledger.Tells.empty.run run
  refine ⟨⟨tells.active, tells.pending, ?_, ?_, ?_⟩, truthful behaviour m c⟩
  · intro before batch since history
    rw [history] at run
    obtain ⟨middle, next, first, swap, -⟩ := run.split
    have told := Ledger.Tells.empty.run first
    cases swap with
    | quiet still => simp [Happening.moves] at still
    | swapped drained =>
      have order := mergeSort_deliveryOrder told.ascending
      refine ⟨?_, _, ?_, fun other => ⟨fun one => one.unique order, fun same => same ▸ order⟩⟩
      · exact List.map_eq_nil_iff.mp (told.active.trans drained)
      · rw [← told.pending]
        exact List.map_mergeSort fun _ _ _ _ => rfl
  · intro before batch since history unswapped
    rw [history] at run
    obtain ⟨middle, next, -, swap, rest⟩ := run.split
    obtain ⟨left, parts, _, complete⟩ := rest.remaining unswapped
    cases swap with
    | quiet still => simp [Happening.moves] at still
    | swapped drained =>
      refine ⟨⟨left, parts.symm⟩, fun undropped => ?_⟩
      have whole : (c.world.manager m).queue.active = left := complete undropped
      rw [whole]
      exact parts.symm
  · intro before e since history
    rw [history] at run
    obtain ⟨middle, next, first, hands, -⟩ := run.split
    have told := Ledger.Tells.empty.run first
    obtain ⟨a, behind, active, event⟩ := told.handsOver hands
    refine ⟨a, behind, active, event, fun b waits earlier => ?_⟩
    exact event ▸ told.front active waits earlier

/-- Two batches: the second waits, whatever its priority, until the last event of the first
one is due. -/
theorem two_batches_drained_in_order :
    let producer : Program Unit Bool := do
      let m ← Program.ask (.newManager default)
      let low ← Program.ask (.newEvent (.custom ⟨1⟩ .low .now))
      let late ← Program.ask (.newEvent (.custom ⟨1⟩ .low (.ofMillis 5)))
      let high ← Program.ask (.newEvent (.custom ⟨1⟩ .high .now))
      Program.ask (.enqueue m late)
      Program.ask (.enqueue m low)
      Program.ask (.enqueue m high)
      let _ ← Program.ask (.execute m none)
      Program.ask (.enqueue m high)
      let _ ← Program.ask (.execute m none)
      Program.ask (.setClock m (.ofMillis 5))
      let _ ← Program.ask (.execute m none)
      Program.ask (.execute m none)
    ∃ c : State Unit, Reaches (fun _ _ => .done false) (start producer ()) c ∧
      (deliveriesOf (fun _ _ => .done false) 0 36 (start producer ())).map (·.id) = [2, 0, 1, 2] ∧
      DrainedInOrder 0 c.world := by
  intro producer
  have ran : (after (fun _ _ => .done false) 35 (start producer ())).map
      (fun c => (History.delivered 0 c.world.journal.toList).map (·.id)) =
      some [2, 0, 1, 2] := by cbv
  obtain ⟨c, run, told⟩ := Option.map_eq_some_iff.mp ran
  obtain ⟨ordered, truthful⟩ := drains_deliver_in_order ⟨producer, (), 35, run⟩ 0
  rw [truthful.delivered producer () 35 run] at told
  exact ⟨c, ⟨35, run⟩, told, ordered⟩

end Machine
end EventEngine
