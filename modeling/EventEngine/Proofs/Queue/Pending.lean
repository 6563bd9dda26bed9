import EventEngine.Proofs.Machine.Apart
import EventEngine.Proofs.Queue.Journal

/-! What a cancellation takes out of a queue, and managers whose pending buffers differ by one event.
The difference goes through all that is done with a manager; only a drain that makes the pending
buffer active brings it to light. -/
namespace EventEngine

open Manager (Tally)

/-! ### Cancellations -/

/-- What is left of a buffer without the first occurrence of an event. -/
inductive DropsFirst (e : EventRef) : List EventRef → List EventRef → Prop
  | absent (none : ∀ f ∈ p, f.same e = false) : DropsFirst e p p
  | first (before : List EventRef) (f : EventRef) (behind : List EventRef)
    (none : ∀ g ∈ before, g.same e = false) (same : f.same e = true) :
    DropsFirst e (before ++ f :: behind) (before ++ behind)

/-- What a cancellation of one event, or of all of its category, makes of a queue. -/
structure Queue.Cancels (e : EventRef) (all : Bool) (q q' : Queue) : Prop where
  active : q'.active = q.active
  draining : q'.draining = q.draining
  one : all = false → DropsFirst e q.pending.toList q'.pending.toList
  category : all = true → q'.pending.toList = q.pending.toList.filter (·.typeId != e.typeId)

/-- Pending buffers that stay related whatever is queued and cancelled. -/
structure Pooled (P : List EventRef → List EventRef → Prop) : Prop where
  empty : P [] []
  queued : ∀ f, P p q → P (p ++ [f]) (q ++ [f])
  kept : ∀ f all, P p q → P (Stock.kept f all p) (Stock.kept f all q)

variable {e f : EventRef} {p q : List EventRef}

theorem eraseP_absent (none : ∀ f ∈ p, f.same e = false) : p.eraseP (·.same e) = p :=
  List.eraseP_of_forall_not fun f inside => Bool.eq_false_iff.mp (none f inside)

theorem dropsFirst_iff : DropsFirst e p q ↔ q = p.eraseP (·.same e) := by
  constructor
  · rintro (none | ⟨before, f, behind, none, same⟩)
    · exact (eraseP_absent none).symm
    · rw [List.eraseP_append_right _ fun g inside => Bool.eq_false_iff.mp (none g inside),
        List.eraseP_cons_of_pos (p := fun g : EventRef => g.same e) same]
  · rintro rfl
    by_cases present : ∃ f ∈ p, f.same e = true
    · obtain ⟨f, inside, same⟩ := present
      obtain ⟨g, before, behind, none, first, rfl, erased⟩ :=
        List.exists_of_eraseP (p := fun g : EventRef => g.same e) inside same
      rw [erased]
      exact .first before g behind (fun h early => Bool.eq_false_iff.mpr (none h early)) first
    · have none : ∀ f ∈ p, f.same e = false := fun f inside =>
        Bool.eq_false_iff.mpr fun same => present ⟨f, inside, same⟩
      rw [eraseP_absent none]
      exact .absent none

theorem Queue.dequeue_cancels (e : EventRef) (all : Bool) (q : Queue) :
    q.Cancels e all (q.dequeue e all).2 where
  active := active_dequeue all
  draining := by cases all <;> rfl
  one := fun one => by
    rw [pending_dequeue, dropsFirst_iff, one]
    rfl
  category := fun category => by
    rw [pending_dequeue, category]
    rfl

/-! ### Pending buffers that differ by one event -/

/-- The second buffer is the first one, or is what the first one is without an occurrence of the
event. -/
def Lacks (e : EventRef) (p q : List EventRef) : Prop := q = p ∨ DropsFirst e p q

theorem pooled_eq : Pooled Eq :=
  ⟨rfl, fun _ same => congrArg (· ++ _) same, fun _ _ same => congrArg _ same⟩

/-- Whether another event is kept or not, cancelling it first or last makes no difference. -/
theorem eraseP_eraseP_comm (different : f.id ≠ e.id) (p : List EventRef) :
    (p.eraseP (·.same e)).eraseP (·.same f) = (p.eraseP (·.same f)).eraseP (·.same e) := by
  induction p with
  | nil => rfl
  | cons g p ih =>
    by_cases here : g.id = e.id
    · have other : g.id ≠ f.id := fun same => different (same.symm.trans here)
      simp [EventRef.same, here, different.symm]
    · by_cases here' : g.id = f.id
      · simp [EventRef.same, here', different]
      · simp only [EventRef.same] at ih
        simp [EventRef.same, here, here', ih]

theorem filter_eraseP (keep : EventRef → Bool) (p : List EventRef) :
    (p.eraseP (·.same e)).filter keep = p.filter keep ∨
      (p.eraseP (·.same e)).filter keep = (p.filter keep).eraseP (·.same e) := by
  induction p with
  | nil => exact .inl rfl
  | cons g p ih =>
    cases same : g.same e <;> cases stays : keep g <;> simp [same, stays, ih]

theorem Lacks.iff : Lacks e p q ↔ q = p ∨ q = p.eraseP (·.same e) := by
  rw [Lacks, dropsFirst_iff]

theorem pooled_lacks (e : EventRef) : Pooled (Lacks e) where
  empty := .inl rfl
  queued := fun {p q} f lacks => by
    rw [Lacks.iff] at lacks ⊢
    rcases lacks with rfl | rfl
    · exact .inl rfl
    · by_cases present : ∃ g ∈ p, g.same e = true
      · obtain ⟨g, inside, same⟩ := present
        exact .inr (List.eraseP_append_left (p := fun g : EventRef => g.same e) same _ inside).symm
      · rw [eraseP_absent fun g inside => Bool.eq_false_iff.mpr fun same => present ⟨g, inside, same⟩]
        exact .inl rfl
  kept := fun {p q} f all lacks => by
    rw [Lacks.iff] at lacks ⊢
    rcases lacks with rfl | rfl
    · exact .inl rfl
    · cases all with
      | true => exact filter_eraseP ..
      | false =>
        by_cases same : f.id = e.id
        · refine .inr ?_
          simp only [Stock.kept, EventRef.same, same, Bool.false_eq_true, if_false]
        · exact .inr (eraseP_eraseP_comm same p)

/-- Two managers that differ at most in what is pending, and in how many events were queued and
cancelled. -/
structure Manager.SameButPending (P : List EventRef → List EventRef → Prop) (x y : Manager) :
    Prop where
  registry : x.registry = y.registry
  active : x.queue.active = y.queue.active
  draining : x.queue.draining = y.queue.draining
  pending : P x.queue.pending.toList y.queue.pending.toList
  counters : x.counters =
    { y.counters with queued := x.counters.queued, dequeued := x.counters.dequeued }
  clock : x.clock = y.clock
  holders : x.holders = y.holders

namespace Manager.SameButPending

variable {P : List EventRef → List EventRef → Prop} {x y : Manager}

theorem mono {Q : List EventRef → List EventRef → Prop} (same : SameButPending P x y)
    (weaker : P x.queue.pending.toList y.queue.pending.toList →
      Q x.queue.pending.toList y.queue.pending.toList) : SameButPending Q x y :=
  { same with pending := weaker same.pending }

/-- All that the two managers differ in. -/
theorem apart (same : SameButPending P x y) : ∃ pending queued dequeued,
    P pending.toList y.queue.pending.toList ∧ x = { y with
      queue.pending := pending
      counters := { y.counters with queued := queued, dequeued := dequeued } } := by
  obtain ⟨registry, ⟨active, pending, draining⟩, counters, clock, holders⟩ := x
  obtain ⟨registry', ⟨active', pending', draining'⟩, counters', clock', holders'⟩ := y
  obtain ⟨rfl, rfl, rfl, related, counted, rfl, rfl⟩ := same
  exact ⟨pending, counters.queued, counters.dequeued, related, counted ▸ rfl⟩

theorem conclude (same : SameButPending P x y) (frame : UInt64) (consumed : Bool) (tally : Tally) :
    SameButPending P (x.conclude frame consumed tally) (y.conclude frame consumed tally) := by
  obtain ⟨pending, queued, dequeued, related, rfl⟩ := same.apart
  exact ⟨rfl, rfl, rfl, related, rfl, rfl, rfl⟩

theorem serve (same : SameButPending P x y) (pooled : Pooled P) (roll : Roll) (r : Request) :
    SameButPending P (r.serve roll x) (r.serve roll y) := by
  obtain ⟨pending, queued, dequeued, related, rfl⟩ := same.apart
  cases r with
  | hold | clearListeners | pruneStale | readClock | advance | setClock =>
    exact ⟨rfl, rfl, rfl, related, rfl, rfl, rfl⟩
  | connect l t =>
    simp only [Request.serve, Manager.connect]
    split <;> exact ⟨rfl, rfl, rfl, related, rfl, rfl, rfl⟩
  | disconnect l t =>
    simp only [Request.serve, Manager.disconnect]
    split <;> exact ⟨rfl, rfl, rfl, related, rfl, rfl, rfl⟩
  | enqueue e =>
    refine ⟨rfl, rfl, rfl, ?_, rfl, rfl, rfl⟩
    simp only [Request.serve, Manager.enqueue, Queue.push, Array.toList_push]
    exact pooled.queued e related
  | dequeue e all =>
    refine ⟨rfl, ?_, ?_, ?_, rfl, rfl, rfl⟩
    · simp only [Request.serve, Manager.dequeue, Queue.active_dequeue]
    · cases all <;> rfl
    · simp only [Request.serve, Manager.dequeue, Queue.pending_dequeue]
      exact pooled.kept e all related
  | clearQueue => exact ⟨rfl, rfl, rfl, pooled.empty, rfl, rfl, rfl⟩

/-- Nothing shows the difference but a drain that makes events active, or a look at the queue. -/
theorem hidden (pooled : Pooled P) (roll : Roll) : Hidden roll (SameButPending P) where
  registry := fun same => same.registry
  holders := fun same => same.holders
  fresh := fun _ => ⟨rfl, rfl, rfl, pooled.empty, rfl, rfl, rfl⟩
  request := fun r same => same.serve pooled roll r
  release := fun same => by
    obtain ⟨pending, queued, dequeued, related, rfl⟩ := same.apart
    exact ⟨rfl, rfl, rfl, related, rfl, rfl, rfl⟩
  unheard := fun same => by
    obtain ⟨pending, queued, dequeued, related, rfl⟩ := same.apart
    exact ⟨rfl, rfl, rfl, related, rfl, rfl, rfl⟩
  opened := fun t same => by
    obtain ⟨pending, queued, dequeued, related, rfl⟩ := same.apart
    exact ⟨rfl, rfl, rfl, related, rfl, rfl, rfl⟩
  pruned := fun t l same => by
    obtain ⟨pending, queued, dequeued, related, rfl⟩ := same.apart
    exact ⟨rfl, rfl, rfl, related, rfl, rfl, rfl⟩
  closed := fun frame same => by
    obtain ⟨pending, queued, dequeued, related, rfl⟩ := same.apart
    exact ⟨rfl, rfl, rfl, related, rfl, rfl, rfl⟩
  concluded := fun frame consumed tally same => same.conclude frame consumed tally

/-- A turn of a drain looks at what is active only. -/
theorem turning : Turning (SameButPending P) where
  taken := fun {x y} budget started same => by
    obtain ⟨pending, queued, dequeued, related, rfl⟩ := same.apart
    obtain ⟨registry, ⟨active, pending', draining⟩, counters, clock, holders⟩ := y
    simp only [takeDue, readClock, Queue.popDue]
    by_cases late : World.overBudget budget started clock.read.1 = true
    · simp only [late, if_true]
      exact ⟨trivial, rfl, rfl, rfl, related, rfl, rfl, rfl⟩
    · simp only [late]
      cases active with
      | nil => exact ⟨rfl, rfl, rfl, rfl, related, rfl, rfl, rfl⟩
      | cons front rest =>
        by_cases due : front.due.isDue clock.read.1 = true
        · simp only [due, if_true]
          exact ⟨rfl, rfl, rfl, rfl, related, rfl, rfl, rfl⟩
        · simp only [due]
          exact ⟨rfl, rfl, rfl, rfl, related, rfl, rfl, rfl⟩
  ended := fun same => by
    obtain ⟨pending, queued, dequeued, related, rfl⟩ := same.apart
    exact ⟨rfl, rfl, rfl, related, rfl, rfl, rfl⟩
  finished := fun same => by
    obtain ⟨pending, queued, dequeued, related, rfl⟩ := same.apart
    exact ⟨rfl, rfl, rfl, rfl, related, rfl, rfl, rfl⟩

/-- Drains begin alike if they do not make active what the managers differ in. -/
theorem beginAlike (same : SameButPending P x y) (pooled : Pooled P)
    (swapped : x.queue.draining = false → x.queue.active = [] →
      x.queue.pending.toList = y.queue.pending.toList) : BeginAlike (SameButPending P) x y := by
  obtain ⟨pending, queued, dequeued, related, rfl⟩ := same.apart
  obtain ⟨registry, ⟨active, pending', draining⟩, counters, clock, holders⟩ := y
  cases draining with
  | true => exact ⟨rfl, same⟩
  | false =>
    cases active with
    | nil =>
      have equal : pending.toList = pending'.toList := swapped rfl rfl
      simp only [BeginAlike, beginDrain, Queue.beginDrain, Bool.false_eq_true, if_false,
        List.isEmpty_nil, if_true, equal]
      exact ⟨rfl, rfl, rfl, rfl, pooled.empty, rfl, rfl, rfl⟩
    | cons front rest => exact ⟨rfl, rfl, rfl, rfl, related, rfl, rfl, rfl⟩

end Manager.SameButPending

end EventEngine
