import EventEngine.Event.Queue
import EventEngine.Proofs.Time.Readings

/-! The order of delivery on occurrences. An event that is queued twice occurs twice;
occurrences are told apart by the number of their queueing, which decides between events of
one priority and one due time. A batch has exactly one order of delivery, and the sort of a
queue finds it. -/
namespace EventEngine

namespace EventRef

/-- The due time in nanoseconds. -/
def dueNanos (e : EventRef) : Nat := e.due.sinceOrigin.toNanos

theorem due_lt_iff {a b : EventRef} : a.due < b.due ↔ a.dueNanos < b.dueNanos :=
  Duration.lt_iff

theorem due_eq_iff {a b : EventRef} : a.due = b.due ↔ a.dueNanos = b.dueNanos := by
  rw [dueNanos, dueNanos, ← Duration.eq_iff]
  exact ⟨congrArg _, fun same => congrArg Timestamp.mk same⟩

theorem compare_due (a b : EventRef) :
    (if a.due < b.due then .lt else if b.due < a.due then .gt else .eq : Ordering) =
      compare a.dueNanos b.dueNanos := by
  have earlier := due_lt_iff (a := a) (b := b)
  have later := due_lt_iff (a := b) (b := a)
  rcases Nat.lt_trichotomy a.dueNanos b.dueNanos with less | same | more
  · rw [if_pos (earlier.mpr less), Nat.compare_eq_lt.mpr less]
  · rw [if_neg (mt earlier.mp (Nat.not_lt_of_le (Nat.le_of_eq same.symm))),
      if_neg (mt later.mp (Nat.not_lt_of_le (Nat.le_of_eq same))), Nat.compare_eq_eq.mpr same]
  · rw [if_neg (mt earlier.mp (Nat.lt_asymm more)), if_pos (later.mpr more),
      Nat.compare_eq_gt.mpr more]

end EventRef

/-- The order of delivery compares priorities, greater ones first, then due times. -/
theorem deliveryOrder_eq_compareLex : deliveryOrder =
    compareLex (fun a b => compareOn (fun e : EventRef => e.priority.rank) b a)
      (compareOn EventRef.dueNanos) := by
  funext a b
  rw [deliveryOrder, EventRef.compare_due, compareLex, compareOn, compareOn]

/-- Any two events compare one way, and three of them never go round in a circle. -/
instance : Std.TransCmp deliveryOrder := by
  rw [deliveryOrder_eq_compareLex]
  have higher : Std.TransCmp fun a b => compareOn (fun e : EventRef => e.priority.rank) b a :=
    Std.TransCmp.opposite
  infer_instance

theorem deliveryOrder_gt_iff {a b : EventRef} :
    deliveryOrder a b = .gt ↔ deliversBefore a b = false := by
  unfold deliversBefore
  cases deliveryOrder a b <;> simp [Ordering.isLE]

theorem deliversBefore_iff {a b : EventRef} :
    deliversBefore a b = true ↔ b.priority.rank < a.priority.rank ∨
      a.priority.rank = b.priority.rank ∧ a.dueNanos ≤ b.dueNanos := by
  have earlier := EventRef.due_lt_iff (a := a) (b := b)
  have later := EventRef.due_lt_iff (a := b) (b := a)
  unfold deliversBefore deliveryOrder
  rcases Nat.lt_trichotomy a.priority.rank b.priority.rank with lower | same | higher
  · rw [Nat.compare_eq_gt.mpr lower]
    simp only [Ordering.then, Ordering.isLE, Bool.false_eq_true, false_iff]
    omega
  · rw [Nat.compare_eq_eq.mpr same.symm]
    by_cases sooner : a.due < b.due
    · simp only [Ordering.then, Ordering.isLE, if_pos sooner, true_iff]
      rw [earlier] at sooner
      omega
    · by_cases waits : b.due < a.due
      · simp only [Ordering.then, Ordering.isLE, if_neg sooner, if_pos waits, Bool.false_eq_true,
          false_iff]
        rw [later] at waits
        omega
      · simp only [Ordering.then, Ordering.isLE, if_neg sooner, if_neg waits, true_iff]
        rw [later] at waits
        omega
  · rw [Nat.compare_eq_lt.mpr higher]
    simp only [Ordering.then, Ordering.isLE, true_iff]
    exact .inl higher

theorem isDue_iff {e : EventRef} {reading : Timestamp} :
    e.due.isDue reading = true ↔ e.dueNanos ≤ reading.sinceOrigin.toNanos :=
  Timestamp.isDue_iff

/-- An event that need not wait for one that is due is due itself, unless its priority is
greater. -/
theorem due_of_deliversBefore {a b : EventRef} {reading : Timestamp}
    (before : deliversBefore a b = true) (due : b.due.isDue reading = true)
    (higher : b.priority.rank < a.priority.rank → a.due.isDue reading = true) :
    a.due.isDue reading = true := by
  rcases deliversBefore_iff.mp before with greater | ⟨_, sooner⟩
  · exact higher greater
  · rw [isDue_iff] at due ⊢
    exact Nat.le_trans sooner due

/-- One queueing of an event. -/
structure Occurrence where
  number : Nat
  event : EventRef

namespace Occurrence

/-- Greater priorities come first, then earlier due times, then earlier queueings. -/
def Precedes (a b : Occurrence) : Prop :=
  b.event.priority.rank < a.event.priority.rank ∨
    a.event.priority.rank = b.event.priority.rank ∧
      (a.event.due < b.event.due ∨ a.event.due = b.event.due ∧ a.number < b.number)

def before (a b : Occurrence) : Bool := deliversBefore a.event b.event

theorem before_trans (a b c : Occurrence) (first : a.before b = true) (second : b.before c = true) :
    a.before c = true := by
  simp only [before, deliversBefore_iff] at *
  omega

theorem before_total (a b : Occurrence) : (a.before b || b.before a) = true := by
  simp only [Bool.or_eq_true, before, deliversBefore_iff]
  omega

theorem precedes_iff {a b : Occurrence} :
    a.Precedes b ↔ b.event.priority.rank < a.event.priority.rank ∨
      a.event.priority.rank = b.event.priority.rank ∧
        (a.event.dueNanos < b.event.dueNanos ∨
          a.event.dueNanos = b.event.dueNanos ∧ a.number < b.number) := by
  rw [Precedes, EventRef.due_lt_iff, EventRef.due_eq_iff]

/-- Where the order of delivery wants an occurrence first although it was queued later, it
does not let the other one go first. -/
theorem Precedes.order_gt {a b : Occurrence} (precedes : a.Precedes b)
    (earlier : b.number < a.number) : deliveryOrder b.event a.event = .gt := by
  rw [precedes_iff] at precedes
  rw [deliveryOrder_gt_iff, ← Bool.not_eq_true, deliversBefore_iff]
  omega

theorem Precedes.asymm {a b : Occurrence} (first : a.Precedes b) (second : b.Precedes a) :
    False := by
  rw [precedes_iff] at first second
  omega

end Occurrence

open Occurrence

/-- The order in which a batch is delivered: its stable sort. -/
structure DeliveryOrder (batch order : List Occurrence) : Prop where
  perm : order.Perm batch
  sorted : order.Pairwise Precedes

theorem DeliveryOrder.unique {batch first second : List Occurrence}
    (one : DeliveryOrder batch first) (other : DeliveryOrder batch second) : first = second :=
  (one.perm.trans other.perm.symm).eq_of_pairwise
    (fun _ _ _ _ ahead behind => (ahead.asymm behind).elim) one.sorted other.sorted

/-- A stable sort does not touch the order of occurrences that tie. -/
theorem filter_mergeSort {batch : List Occurrence} {p : Occurrence → Bool}
    (tie : ∀ a b, p a = true → p b = true → a.before b = true) :
    (batch.mergeSort before).filter p = batch.filter p := by
  have tied : (batch.filter p).Pairwise fun a b => a.before b = true := by
    refine List.pairwise_of_forall_mem_list fun a inA b inB => ?_
    exact tie a b ((List.mem_filter.mp inA).2) ((List.mem_filter.mp inB).2)
  have kept : (batch.filter p).Sublist (batch.mergeSort before) :=
    List.sublist_mergeSort before_trans before_total tied List.filter_sublist
  have inside := kept.filter p
  rw [List.filter_filter] at inside
  simp only [Bool.and_self] at inside
  exact (inside.eq_of_length ((List.mergeSort_perm batch before).filter p).length_eq.symm).symm

/-- The sort finds the order of delivery of a batch that stands in the order of its queueing. -/
theorem mergeSort_deliveryOrder {batch : List Occurrence}
    (ascending : batch.Pairwise fun a b => a.number < b.number) :
    DeliveryOrder batch (batch.mergeSort before) := by
  refine ⟨List.mergeSort_perm batch before, List.pairwise_iff_forall_sublist.mpr ?_⟩
  intro a b ordered
  have first : a.before b = true :=
    List.pairwise_iff_forall_sublist.mp (List.pairwise_mergeSort before_trans before_total batch)
      ordered
  rw [Occurrence.before, deliversBefore_iff] at first
  rw [precedes_iff]
  rcases first with higher | ⟨same, due⟩
  · exact .inl higher
  · refine .inr ⟨same, ?_⟩
    rcases Nat.lt_or_eq_of_le due with earlier | tie
    · exact .inl earlier
    · -- Occurrences that tie stand in the sort as they stand in the batch.
      let p (o : Occurrence) : Bool := o.before a && a.before o
      have ties : ∀ o o' : Occurrence, p o = true → p o' = true → o.before o' = true := by
        intro o o' one other
        simp only [p, Bool.and_eq_true] at one other
        exact before_trans o a o' one.1 other.2
      have among := ordered.filter p
      rw [filter_mergeSort ties] at among
      have left : p a = true := by
        simp only [p, Bool.and_self, Occurrence.before, deliversBefore_iff, Nat.le_refl, and_self,
          or_true]
      have right : p b = true := by
        simp only [p, Bool.and_eq_true, Occurrence.before, deliversBefore_iff]
        omega
      simp only [List.filter_cons, left, right, if_true, List.filter_nil] at among
      have inBatch := among.trans List.filter_sublist
      exact .inr ⟨tie, List.pairwise_iff_forall_sublist.mp ascending inBatch⟩

end EventEngine
