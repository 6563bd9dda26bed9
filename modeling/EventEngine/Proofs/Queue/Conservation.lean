import EventEngine.Proofs.Queue.Causes
import Mathlib

/-! No event is lost or doubled on its way through a queue. What was queued is pending or
active, or it left in one of three ways: it was handed over, cancelled or dropped. -/
namespace EventEngine

namespace Stock

variable {m : ManagerId} {s last : Stock} {h : Happening} {hs : List Happening}

/-- A cancellation divides the pending buffer. -/
theorem cancelled_append_kept (e : EventRef) (all : Bool) (pending : List EventRef) :
    (cancelled e all pending ++ kept e all pending).Perm pending := by
  cases all with
  | false =>
    simp only [cancelled, kept, Bool.false_eq_true, if_false]
    induction pending with
    | nil => exact .nil
    | cons front rest ih =>
      cases found : front.same e with
      | true => simp only [List.find?_cons, found, List.eraseP_cons]; exact .refl _
      | false =>
        simp only [List.find?_cons, found, List.eraseP_cons, cond_false]
        exact List.perm_middle.trans (ih.cons front)
  | true => exact List.filter_append_perm _ _

/-- What joins and what was there is what is left and what went out. -/
theorem Step.conserves (step : Step m s h last) :
    (s.pending + s.active + h.joining m : Multiset EventRef) =
      last.pending + last.active + h.delivering m + h.cancelling m + h.dropping m := by
  cases step with
  | quiet still =>
    obtain ⟨joining, delivering, cancelling, dropping, _⟩ := Happening.quiet_moves_nothing still
    simp only [joining, delivering, cancelling, dropping, Multiset.coe_nil, add_zero]
  | queued =>
    simp only [Happening.joining, Happening.delivering, Happening.cancelling, Happening.dropping,
      if_true, ← Multiset.coe_add, Multiset.coe_nil, add_zero]
    abel
  | dequeued e all taken =>
    have divided : (s.pending : Multiset EventRef) =
        cancelled e all s.pending + kept e all s.pending := by
      rw [Multiset.coe_add, Multiset.coe_eq_coe]
      exact (cancelled_append_kept e all s.pending).symm
    simp only [Happening.joining, Happening.delivering, Happening.cancelling, Happening.dropping,
      if_true, Multiset.coe_nil, add_zero]
    rw [divided, taken]
    abel
  | dropped =>
    simp only [Happening.joining, Happening.delivering, Happening.cancelling, Happening.dropping,
      if_true, ← Multiset.coe_add, Multiset.coe_nil, add_zero, zero_add]
    abel
  | swapped drained =>
    have sorted : (s.pending.mergeSort deliversBefore : Multiset EventRef) = s.pending :=
      Multiset.coe_eq_coe.mpr (List.mergeSort_perm _ _)
    simp only [Happening.joining, Happening.delivering, Happening.cancelling, Happening.dropping,
      drained, sorted, Multiset.coe_nil, add_zero, zero_add]
  | handedOver front =>
    simp only [Happening.joining, Happening.delivering, Happening.cancelling, Happening.dropping,
      if_true, front, Multiset.coe_nil, add_zero]
    rw [← List.singleton_append, ← Multiset.coe_add]
    abel

theorem Run.conserves (run : Run m s hs last) :
    (s.pending + s.active + History.joined m hs : Multiset EventRef) =
      last.pending + last.active + History.delivered m hs + History.cancelled m hs +
        History.dropped m hs := by
  induction run with
  | nil => simp [History.joined, History.delivered, History.cancelled, History.dropped]
  | @cons s h next hs last step rest ih =>
    simp only [History.joined, History.delivered, History.cancelled, History.dropped, List.flatMap_cons,
      ← Multiset.coe_add] at ih ⊢
    rw [← add_assoc, step.conserves]
    calc _ = (next.pending + next.active + (hs.flatMap (·.joining m) : List EventRef) : Multiset EventRef) +
          h.delivering m + h.cancelling m + h.dropping m := by abel
      _ = _ := by rw [ih]; abel

theorem Step.counts (step : Step m s h last) :
    last.queued = s.queued + (h.joining m).length ∧
      last.dequeued = s.dequeued + (h.cancelling m).length ∧
      h.dropCount m = (h.dropping m).length := by
  cases step with
  | quiet still =>
    obtain ⟨joining, _, cancelling, dropping, dropCount⟩ := Happening.quiet_moves_nothing still
    simp only [joining, cancelling, dropping, dropCount, List.length_nil, Nat.add_zero, and_self]
  | _ =>
    simp only [Happening.joining, Happening.cancelling, Happening.dropping, Happening.dropCount,
      if_true, List.length_nil, List.length_singleton, Nat.add_zero, and_self]

/-- The counters count what joined and what was cancelled, and clearing the queue gives the
number of what it drops. -/
theorem Run.counts (run : Run m s hs last) :
    last.queued = s.queued + (History.joined m hs).length ∧
      last.dequeued = s.dequeued + (History.cancelled m hs).length ∧
      History.dropCounts m hs = (History.dropped m hs).length := by
  induction run with
  | nil => exact ⟨rfl, rfl, rfl⟩
  | cons step rest ih =>
    obtain ⟨queued, dequeued, dropCount⟩ := step.counts
    simp only [History.joined, History.cancelled, History.dropped, History.dropCounts, List.flatMap_cons,
      List.length_append, List.map_cons, List.sum_cons] at ih ⊢
    omega

end Stock

/-- The accounts of a queue: every event that joined it is, as often as it joined, pending or
active, or it was handed over to a dispatch, cancelled or dropped. The counters agree, and what
clearing the queue gives is the number of events it drops. -/
structure Accounts {σ : Type} (m : ManagerId) (w : World σ) : Prop where
  events : (History.joined m w.journal.toList : Multiset EventRef) =
    (w.manager m).queue.pending.toList + (w.manager m).queue.active +
      History.delivered m w.journal.toList + History.cancelled m w.journal.toList +
      History.dropped m w.journal.toList
  queued : (w.manager m).counters.queued = (History.joined m w.journal.toList).length
  dequeued : (w.manager m).counters.dequeued = (History.cancelled m w.journal.toList).length
  dropCounts : History.dropCounts m w.journal.toList = (History.dropped m w.journal.toList).length
  clearing : ∃ removed, (w.clearQueue m).1 = removed.length ∧
    (w.clearQueue m).2.journal = w.journal.push (.dropped m removed.length removed)

theorem clearQueue_noted {σ : Type} (m : ManagerId) (w : World σ) :
    ∃ removed, (w.clearQueue m).1 = removed.length ∧
      (w.clearQueue m).2.journal = w.journal.push (.dropped m removed.length removed) := by
  have count : (w.clearQueue m).1 = (w.manager m).queue.toList.length := by
    simp only [World.clearQueue, Manager.clearQueue, Queue.length, Queue.toList,
      List.length_append, Array.length_toList]
  refine ⟨(w.manager m).queue.toList, count, ?_⟩
  rw [← count]
  rfl

namespace Machine

variable {σ : Type} {behaviour : Behaviour σ} {c : State σ}

/-- No queued event is lost or doubled: the accounts of every queue are right at every moment
of every run, and the journal that they are drawn from is true to the run. -/
theorem queued_events_accounted_for (reachable : Reachable behaviour c) (m : ManagerId) :
    Accounts m c.world ∧ Truthful behaviour m c := by
  have run := reachable.queueRun m
  have kept := run.conserves
  obtain ⟨queued, dequeued, dropCounts⟩ := run.counts
  simp only [Stock.empty, Multiset.coe_nil, zero_add] at kept queued dequeued
  exact ⟨⟨kept, queued, dequeued, dropCounts, clearQueue_noted m c.world⟩, truthful behaviour m c⟩

/-- Accounts after one event was delivered, one cancelled, two dropped, and one is pending. -/
theorem accounts_after_errands :
    let errands : Program Unit Bool := do
      let m ← Program.ask (.newManager default)
      let a ← Program.ask (.newEvent (.plain ⟨1⟩))
      let b ← Program.ask (.newEvent (.plain ⟨2⟩))
      Program.ask (.enqueue m a)
      let _ ← Program.ask (.execute m none)
      Program.ask (.enqueue m a)
      Program.ask (.enqueue m b)
      Program.ask (.enqueue m b)
      Program.ask (.dequeue m b false)
      let _ ← Program.ask (.clearQueue m)
      Program.ask (.enqueue m a)
      pure true
    ∃ c : State Unit, Reaches (fun _ _ => .done false) (start errands ()) c ∧
      (History.joined 0 c.world.journal.toList).map (·.id) = [0, 0, 1, 1, 0] ∧
      (deliveriesOf (fun _ _ => .done false) 0 19 (start errands ())).map (·.id) = [0] ∧
      (History.cancelled 0 c.world.journal.toList).map (·.id) = [1] ∧
      (History.dropped 0 c.world.journal.toList).map (·.id) = [0, 1] ∧
      Accounts 0 c.world := by
  intro errands
  have ran : (after (fun _ _ => .done false) 18 (start errands ())).map
      (fun c => [History.joined, History.delivered, History.cancelled, History.dropped].map
        fun events => (events 0 c.world.journal.toList).map (·.id)) =
      some [[0, 0, 1, 1, 0], [0], [1], [0, 1]] := by cbv
  obtain ⟨c, run, told⟩ := Option.map_eq_some_iff.mp ran
  simp only [List.map_cons, List.map_nil, List.cons.injEq, and_true] at told
  obtain ⟨joined, delivered, cancelled, dropped⟩ := told
  obtain ⟨accounts, truthful⟩ := queued_events_accounted_for ⟨errands, (), 18, run⟩ 0
  rw [truthful.delivered errands () 18 run] at delivered
  exact ⟨c, ⟨18, run⟩, joined, delivered, cancelled, dropped, accounts⟩

end Machine
end EventEngine
