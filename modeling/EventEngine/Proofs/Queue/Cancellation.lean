import EventEngine.Proofs.Dispatch.Pruning
import EventEngine.Proofs.Queue.Causes
import EventEngine.Proofs.Queue.Pending

/-! An event that is queued and cancelled again before it became active leaves no trace. The run is
compared with one in which both calls are left out: until the cancellation the pending buffers
differ by the one event, and from then on both runs differ only in what was counted. -/
namespace EventEngine.Machine

open World

variable {σ : Type} {behaviour : Behaviour σ} {c c' d : State σ} {a b w : World σ} {m : ManagerId}
  {e f : EventRef} {P : List EventRef → List EventRef → Prop} {stack : List (Waiting σ)}

/-! ### Unobserved events -/

/-- An operation by a program that would go on as it does if an event were not pending, and events
had been queued and cancelled more or less often. -/
def Oblivious (m : ManagerId) (e : EventRef) (w : World σ) :
    (op : Op) → (Outcome op.Reply → Program σ Bool) → Prop
  | .inspect n, next => n = m → ∀ y, (w.manager n).SameButPending (Lacks e) y →
    next (.returned (w.manager n)) = next (.returned y)
  | .validate n, next => n = m → ∀ y, (w.manager n).SameButPending (Lacks e) y →
    next (.returned ((w.manager n).validate w.roll)) = next (.returned (y.validate w.roll))
  | _, _ => True

/-- The next step leaves nothing pending in the queue of a manager. -/
def State.Empties (m : ManagerId) (c : State σ) : Prop :=
  match c.control with
  | .execute n _ =>
    n = m ∧ (c.world.manager m).queue.draining = false ∧ (c.world.manager m).queue.active = []
  | .program (.call (.clearQueue n) _) => n = m
  | _ => False

theorem State.Empties.step (empties : c.Empties m) (moved : step behaviour c = some d) :
    (d.world.manager m).queue.pending = #[] := by
  obtain ⟨control, stack, w⟩ := c
  cases control with
  | execute n budget =>
    obtain ⟨rfl, idle, drained⟩ := empties
    obtain ⟨w', begins, becomes⟩ := beginDrain_becomes (w := w) n
    have left : (w'.manager n).queue.pending = #[] := by
      rw [becomes.managers, if_pos rfl]
      simp only [Manager.beginDrain, Queue.beginDrain, idle, drained, Bool.false_eq_true, if_false,
        List.isEmpty_nil, if_true]
      rfl
    cases begun : (w.manager n).beginDrain.1 <;>
    · simp only [step, begins, begun] at moved
      cases moved
      exact left
  | program p =>
    cases p with
    | call op next =>
      cases op with
      | clearQueue n =>
        cases empties
        cases moved
        simp only [World.clearQueue, Manager.clearQueue, Queue.clear, manager_note,
          manager_setManager, if_true]
      | _ => exact empties.elim
    | _ => exact empties.elim
  | _ => exact empties.elim

theorem Oblivious.agree {op : Op} {next : Outcome op.Reply → Program σ Bool}
    {x y : op.Reply × World σ} (oblivious : Oblivious m e a op next) (pooled : Pooled P)
    (weaker : ∀ p q, P p q → Lacks e p q) (beside : a.Beside (Only m (Manager.SameButPending P)) b)
    (clears : op = .clearQueue m →
      (a.manager m).queue.pending.toList = (b.manager m).queue.pending.toList)
    (left : a.carryOut op = some x) (right : b.carryOut op = some y) :
    next (.returned x.1) = next (.returned y.1) := by
  have same : (a.manager m).SameButPending P (b.manager m) := (beside.managers m).here
  by_cases tells : op.Tells m
  · cases op with
    | clearQueue n =>
      cases left
      cases right
      cases tells
      have length : (a.manager m).queue.length = (b.manager m).queue.length := by
        rw [Queue.length, Queue.length, same.active, ← Array.length_toList, clears rfl,
          Array.length_toList]
      exact congrArg next (congrArg Outcome.returned length)
    | now n =>
      cases left
      cases right
      cases tells
      exact congrArg next (congrArg (fun clock => Outcome.returned (Clock.read clock).1) same.clock)
    | inspect n =>
      cases left
      cases right
      cases tells
      exact oblivious rfl _ (same.mono (weaker _ _))
    | validate n =>
      cases left
      cases right
      cases tells
      rw [← beside.roll]
      exact oblivious rfl _ (same.mono (weaker _ _))
    | _ => exact tells.elim
  · exact congrArg next (congrArg _
      (beside.sameReply (Manager.SameButPending.hidden pooled _) left right tells))

/-- Two runs that differ in what is pending go the same way as long as this does not matter. -/
theorem step_same_but_pending (beside : c.Beside (Only m (Manager.SameButPending P)) Eq d)
    (pooled : Pooled P) (weaker : ∀ p q, P p q → Lacks e p q)
    (oblivious : ∀ op next, c.control = .program (.call op next) → Oblivious m e c.world op next)
    (empties : c.Empties m → (c.world.manager m).queue.pending.toList =
      (d.world.manager m).queue.pending.toList)
    (moved : step behaviour c = some c') :
    ∃ d', step behaviour d = some d' ∧ c'.Beside (Only m (Manager.SameButPending P)) Eq d' := by
  refine step_apart (Manager.SameButPending.hidden pooled _) beside ?_ ?_
    (fun _ => Manager.SameButPending.turning) moved
  · intro op next x y asks left right
    refine (oblivious op next asks).agree pooled weaker beside.world (fun clears => ?_) left right
    subst clears
    exact empties (by simp only [State.Empties, asks])
  · intro budget executes
    refine (beside.world.managers m).here.beginAlike pooled fun idle drained => empties ?_
    simp only [State.Empties, executes, idle, drained, and_self]

/-! ### Occurrences that are pending -/

/-- What is pending was pending before, or joined the queue since. -/
theorem pending_of_run {s last : Stock} {hs : List Happening} (run : Stock.Run m s hs last)
    (pending : f ∈ last.pending) : f ∈ s.pending ∨ f ∈ History.joined m hs := by
  induction run with
  | nil => exact .inl pending
  | @cons s h next hs last step rest ih =>
    rw [History.joined, List.flatMap_cons, List.mem_append]
    rcases ih pending with before | later
    · cases step with
      | quiet => exact .inl before
      | queued =>
        rcases List.mem_append.mp before with before | here
        · exact .inl before
        · exact .inr (.inl (by simpa [Happening.joining] using here))
      | dequeued e all =>
        refine .inl ?_
        cases all with
        | true => exact List.mem_of_mem_filter before
        | false => exact List.mem_of_mem_eraseP before
      | dropped | swapped => cases before
      | handedOver => exact .inl before
    · exact .inr (.inr later)

/-- An event is pending since a program queued it. -/
theorem step_pending (moved : step behaviour c = some d)
    (pending : f ∈ (d.world.manager m).queue.pending) :
    f ∈ (c.world.manager m).queue.pending ∨
      ∃ next, c.control = .program (.call (.enqueue m f) next) := by
  obtain ⟨hs, journal, run⟩ := (step_acts moved).continues (m := m)
  obtain ⟨hs', journal', causes⟩ := step_causes moved
  obtain rfl : hs = hs' := List.append_cancel_left (journal.symm.trans journal')
  rcases pending_of_run run (Array.mem_toList_iff.mpr pending) with before | joined
  · exact .inl (Array.mem_toList_iff.mp before)
  · obtain ⟨h, inside, joins⟩ := List.mem_flatMap.mp joined
    cases causes h inside with
    | rests still => rw [(Happening.quiet_moves_nothing (still m)).1] at joins; cases joins
    | @queues n g next asked =>
      simp only [Happening.joining] at joins
      split at joins
      · rename_i same
        cases List.mem_singleton.mp joins
        exact .inr ⟨next, same ▸ asked⟩
      · cases joins
    | _ => cases joins

/-- An event that is not pending, and is not queued, is not pending later. -/
theorem absent_of_unqueued {n : Nat} (run : after behaviour n c = some d)
    (absent : ∀ f ∈ (c.world.manager m).queue.pending, f.same e = false)
    (unqueued : ∀ j < n, ∀ x f next, after behaviour j c = some x →
      x.control = .program (.call (.enqueue m f) next) → f.same e = false) :
    ∀ f ∈ (d.world.manager m).queue.pending, f.same e = false := by
  induction n generalizing d with
  | zero =>
    cases run
    exact absent
  | succ n ih =>
    obtain ⟨x, before, moved⟩ := Option.bind_eq_some_iff.mp (after_succ n c ▸ run)
    intro f pending
    rcases step_pending moved pending with pending | ⟨next, asked⟩
    · exact ih before (fun j early => unqueued j (Nat.lt_succ_of_lt early)) f pending
    · exact unqueued n (Nat.lt_succ_self n) x f next before asked

/-! ### Both runs -/

/-- Moments of two runs at which the same is done next and the same waits. Their worlds differ in one
manager only, in what is pending there and in how many events were queued and cancelled. -/
structure Alongside (m : ManagerId) (P : List EventRef → List EventRef → Prop) (c d : State σ) :
    Prop where
  control : c.control = d.control
  stack : c.stack = d.stack
  manager : (c.world.manager m).SameButPending P (d.world.manager m)
  others : ∀ n ≠ m, c.world.manager n = d.world.manager n
  surroundings : c.world.surroundings = d.world.surroundings

theorem Waiting.Beside.eq {top top' : Waiting σ} (tops : top.Beside Eq top') : top = top' := by
  cases tops with
  | walk alike => cases alike; rfl
  | _ => rfl

theorem Control.Beside.eq {control control' : Control σ} (controls : control.Beside Eq control') :
    control = control' := by
  cases controls with
  | walk alike => cases alike; rfl
  | _ => rfl

theorem alongside_of_beside (beside : c.Beside (Only m (Manager.SameButPending P)) Eq d) :
    Alongside m P c d where
  control := beside.control.eq
  stack := List.forall₂_eq_eq_eq ▸ beside.stack.imp fun _ _ => Waiting.Beside.eq
  manager := (beside.world.managers m).here
  others := fun n other => (beside.world.managers n).other other
  surroundings := beside.world.surroundings

theorem Waiting.Beside.refl (top : Waiting σ) : top.Beside Eq top := by
  cases top with
  | walk => exact .walk rfl
  | program => exact .program
  | direct => exact .direct
  | drain => exact .drain

theorem rel_cases {α β : Type} {R : α → β → Prop} {x : Option α} {y : Option β}
    (rel : Option.Rel R x y) :
    x = none ∧ y = none ∨ ∃ a b, x = some a ∧ y = some b ∧ R a b := by
  cases rel with
  | none => exact .inl ⟨rfl, rfl⟩
  | some related => exact .inr ⟨_, _, rfl, rfl, related⟩

/-- Two runs stay alongside each other as long as what is pending is not made active, or
dropped, where they differ in it. -/
theorem after_same_but_pending (beside : c.Beside (Only m (Manager.SameButPending P)) Eq d)
    (pooled : Pooled P) (weaker : ∀ p q, P p q → Lacks e p q)
    (oblivious : ∀ x op next, Reaches behaviour c x → x.control = .program (.call op next) →
      Oblivious m e x.world op next) (n : Nat)
    (empties : ∀ j < n, ∀ x y, after behaviour j c = some x →
      x.Beside (Only m (Manager.SameButPending P)) Eq y → x.Empties m →
      (x.world.manager m).queue.pending.toList = (y.world.manager m).queue.pending.toList) :
    Option.Rel (State.Beside (Only m (Manager.SameButPending P)) Eq) (after behaviour n c)
      (after behaviour n d) := by
  induction n with
  | zero => exact .some beside
  | succ n ih =>
    have before := ih fun j early => empties j (Nat.lt_succ_of_lt early)
    rw [after_succ, after_succ]
    rcases rel_cases before with ⟨left, right⟩ | ⟨x, y, left, right, besides⟩
    · rw [left, right]
      exact .none
    · rw [left, right, Option.bind_some, Option.bind_some]
      cases moved : step behaviour x with
      | none =>
        obtain ⟨o, u, rfl⟩ := ended_of_stuck moved
        obtain ⟨control, stack, v⟩ := y
        obtain ⟨controls, waiting, -⟩ := besides
        cases controls
        cases waiting
        exact .none
      | some x' =>
        obtain ⟨y', moved', besides'⟩ := step_same_but_pending besides pooled weaker
          (fun op next => oblivious x op next ⟨n, left⟩)
          (empties n (Nat.lt_succ_self n) x y left besides) moved
        rw [moved']
        exact .some besides'

theorem Alongside.delivery (alongside : Alongside m P c d) : c.delivery = d.delivery := by
  obtain ⟨control, stack, a⟩ := c
  obtain ⟨control', stack', b⟩ := d
  obtain ⟨rfl, rfl, -⟩ := alongside
  cases control with
  | dispatch =>
    cases stack with
    | nil => rfl
    | cons top stack => cases top <;> rfl
  | _ => rfl

theorem deliveries_eq {n : Nat} (alongside : ∀ j < n,
    Option.Rel (Alongside m P) (after behaviour j c) (after behaviour j d)) :
    deliveries behaviour n c = deliveries behaviour n d := by
  refine List.filterMap_congr fun j early => ?_
  rcases rel_cases (alongside j (List.mem_range.mp early)) with
    ⟨left, right⟩ | ⟨x, y, left, right, same⟩
  · rw [left, right]
  · rw [left, right]
    exact same.delivery

theorem alongside_of_rel {x y : Option (State σ)}
    (rel : Option.Rel (State.Beside (Only m (Manager.SameButPending P)) Eq) x y) :
    Option.Rel (Alongside m P) x y := by
  cases rel with
  | none => exact .none
  | some beside => exact .some (alongside_of_beside beside)

theorem enqueue_beside {p : Program σ Bool} (made : m < w.managers.size)
    (absent : ∀ f ∈ (w.manager m).queue.pending, f.same e = false) :
    State.Beside (Only m (Manager.SameButPending (Lacks e))) Eq ⟨.program p, stack, w.enqueue m e⟩
      ⟨.program p, stack, w⟩ := by
  have enqueued : Becomes m ((w.manager m).enqueue e) w (w.enqueue m e) := .note (.modify rfl) rfl
  refine ⟨.program, List.forall₂_same.mpr fun top _ => .refl top,
    (Beside.refl w).replace enqueued (.still made) ?_ ?_⟩
  · rw [Only, if_pos rfl]
    refine ⟨rfl, rfl, rfl, .inr ?_, rfl, rfl, rfl⟩
    have dropped := DropsFirst.first (w.manager m).queue.pending.toList e []
      (fun f inside => absent f (Array.mem_toList_iff.mp inside)) (beq_self_eq_true e.id)
    simpa [Manager.enqueue, Queue.push] using dropped
  · intro n other _
    rw [Only, if_neg other]

theorem dequeue_beside (p : Program σ Bool) (stack : List (Waiting σ)) {u v : World σ}
    (beside : v.Beside (Only m (Manager.SameButPending (Lacks e))) u)
    (present : ∃ f ∈ (v.manager m).queue.pending, f.same e = true)
    (absent : ∀ f ∈ (u.manager m).queue.pending, f.same e = false) :
    State.Beside (Only m (Manager.SameButPending Eq)) Eq
      ⟨.program p, stack, v.dequeue m e false⟩ ⟨.program p, stack, u⟩ := by
  have made : m < v.managers.size := by
    rcases Nat.lt_or_ge m v.managers.size with made | unmade
    · exact made
    · rw [World.manager, Store.get_of_size_le _ unmade] at present
      obtain ⟨f, inside, -⟩ := present
      exact (List.not_mem_nil (Array.mem_toList_iff.mpr inside)).elim
  have dequeued : Becomes m ((v.manager m).dequeue e false).2 v (v.dequeue m e false) :=
    .note (.modify rfl) rfl
  refine ⟨.program, List.forall₂_same.mpr fun top _ => .refl top,
    beside.replace dequeued (.still (beside.size ▸ made)) ?_ ?_⟩
  · have same := (beside.managers m).here
    obtain ⟨f, inside, cancels⟩ := present
    have lacks : (u.manager m).queue.pending.toList =
        (v.manager m).queue.pending.toList.eraseP (·.same e) := by
      rcases Lacks.iff.mp same.pending with equal | lacks
      · have there : f ∈ (u.manager m).queue.pending.toList :=
          equal ▸ Array.mem_toList_iff.mpr inside
        rw [absent f (Array.mem_toList_iff.mp there)] at cancels
        cases cancels
      · exact lacks
    rw [Only, if_pos rfl]
    exact ⟨same.registry, same.active, same.draining,
      (Queue.pending_dequeue (q := (v.manager m).queue) false).trans lacks.symm,
      congrArg (fun c : Counters => { c with
        dequeued := c.dequeued + ((v.manager m).queue.dequeue e false).1 }) same.counters,
      same.clock, same.holders⟩
  · intro n other related
    rw [Only, if_neg other]
    exact related.other other

/-- What is pending at the end of a run, and was not queued in it, was pending all the time. -/
theorem pending_all_along {k : Nat} (run : after behaviour k c = some d)
    (single : ∀ j < k, ∀ x f next, after behaviour j c = some x →
      x.control = .program (.call (.enqueue m f) next) → f.same e = false)
    (pending : ∃ f ∈ (d.world.manager m).queue.pending, f.same e = true) {j : Nat} {x : State σ}
    (early : j ≤ k) (here : after behaviour j c = some x) :
    ∃ f ∈ (x.world.manager m).queue.pending, f.same e = true := by
  obtain ⟨i, rfl⟩ := Nat.exists_eq_add_of_le early
  rw [after_add, here] at run
  refine Classical.byContradiction fun lost => ?_
  obtain ⟨f, inside, same⟩ := pending
  have gone := absent_of_unqueued run
    (fun f inside => Bool.eq_false_iff.mpr fun same => lost ⟨f, inside, same⟩)
    (fun l early y f next there => single (j + l) (Nat.add_lt_add_left early j) y f next
      (by rw [after_add, here]; exact there))
  rw [gone f inside] at same
  cases same

/-- As long as the event is pending, nothing else is made active or dropped. -/
theorem after_lacking {k : Nat}
    (beside : c.Beside (Only m (Manager.SameButPending (Lacks e))) Eq d)
    (oblivious : ∀ x op next, Reaches behaviour c x → x.control = .program (.call op next) →
      Oblivious m e x.world op next)
    (pends : ∀ j ≤ k, ∀ x, after behaviour j c = some x →
      ∃ f ∈ (x.world.manager m).queue.pending, f.same e = true)
    (reached : after behaviour k c = some c') {j : Nat} (early : j ≤ k) :
    Option.Rel (State.Beside (Only m (Manager.SameButPending (Lacks e))) Eq)
      (after behaviour j c) (after behaviour j d) := by
  refine after_same_but_pending beside (pooled_lacks e) (fun _ _ => id) oblivious j
    fun i sooner x y here _ empties => ?_
  obtain ⟨x', later⟩ := after_le reached (Nat.le_trans sooner early)
  obtain ⟨f, inside, -⟩ := pends (i + 1) (Nat.le_trans sooner early) x' later
  rw [Nat.succ_eq_add_one, after_succ, here] at later
  rw [empties.step later] at inside
  exact (List.not_mem_nil (Array.mem_toList_iff.mpr inside)).elim

/-- An event that is queued once, and cancelled while it is pending, leaves no trace. The run with
both calls left out does the same at every moment, and so delivers the same events in the same
order; once the event is cancelled, both runs differ in nothing but how many events were queued and
cancelled. A cancellation takes the first pending occurrence of an event, or all pending events of
its category; what is active it does not touch. -/
theorem cancelled_event_leaves_no_trace {k : Nat} {next next' : Outcome Unit → Program σ Bool}
    {stack' : List (Waiting σ)} {v : World σ} (made : m < w.managers.size)
    (absent : ∀ f ∈ (w.manager m).queue.pending, f.same e = false)
    (run : after behaviour k ⟨.program (next (.returned ())), stack, w.enqueue m e⟩ =
      some ⟨.program (.call (.dequeue m e false) next'), stack', v⟩)
    (single : ∀ j < k, ∀ f later above u,
      after behaviour j ⟨.program (next (.returned ())), stack, w.enqueue m e⟩ =
        some ⟨.program (.call (.enqueue m f) later), above, u⟩ → f.same e = false)
    (removes : ∃ f ∈ (v.manager m).queue.pending, f.same e = true)
    (oblivious : ∀ op later above u,
      Reaches behaviour ⟨.program (.call (.enqueue m e) next), stack, w⟩
        ⟨.program (.call op later), above, u⟩ → Oblivious m e u op later) :
    (∀ j ≤ k, Option.Rel (Alongside m (Lacks e))
      (after behaviour j ⟨.program (next (.returned ())), stack, w.enqueue m e⟩)
      (after behaviour j ⟨.program (next (.returned ())), stack, w⟩)) ∧
    deliveries behaviour k ⟨.program (next (.returned ())), stack, w.enqueue m e⟩ =
      deliveries behaviour k ⟨.program (next (.returned ())), stack, w⟩ ∧
    (∃ u, after behaviour k ⟨.program (next (.returned ())), stack, w⟩ =
        some ⟨.program (.call (.dequeue m e false) next'), stack', u⟩ ∧
      ∀ n, Option.Rel (Alongside m Eq)
          (after behaviour n ⟨.program (next' (.returned ())), stack', v.dequeue m e false⟩)
          (after behaviour n ⟨.program (next' (.returned ())), stack', u⟩) ∧
        deliveries behaviour n ⟨.program (next' (.returned ())), stack', v.dequeue m e false⟩ =
          deliveries behaviour n ⟨.program (next' (.returned ())), stack', u⟩) ∧
    ∀ (x : World σ) (f : EventRef) (all : Bool),
      (x.manager m).queue.Cancels f all ((x.dequeue m f all).manager m).queue := by
  have queued : State.Beside (Only m (Manager.SameButPending (Lacks e))) Eq
      ⟨.program (next (.returned ())), stack, w.enqueue m e⟩
      ⟨.program (next (.returned ())), stack, w⟩ := enqueue_beside made absent
  have unheeding {x : State σ} {op : Op} {later : Outcome op.Reply → Program σ Bool}
      (there : Reaches behaviour ⟨.program (.call (.enqueue m e) next), stack, w⟩ x)
      (asks : x.control = .program (.call op later)) : Oblivious m e x.world op later := by
    obtain ⟨control, above, u⟩ := x
    cases asks
    exact oblivious op later above u there
  have first : Reaches behaviour ⟨.program (.call (.enqueue m e) next), stack, w⟩
      ⟨.program (next (.returned ())), stack, w.enqueue m e⟩ := .single rfl
  have asksOnce (j : Nat) (early : j < k) (x : State σ) (f : EventRef)
      (later : Outcome Unit → Program σ Bool)
      (here : after behaviour j ⟨.program (next (.returned ())), stack, w.enqueue m e⟩ = some x)
      (asks : x.control = .program (.call (.enqueue m f) later)) : f.same e = false := by
    obtain ⟨control, above, u⟩ := x
    cases asks
    exact single j early f later above u here
  have pends := fun j early x => pending_all_along (j := j) (x := x) run asksOnce removes early
  have together (j : Nat) (early : j ≤ k) := after_lacking queued
    (fun x op later there => unheeding (first.trans there)) pends run early
  obtain ⟨c, ⟨control, above, u⟩, here, there, beside⟩ :=
    (rel_cases (together k (Nat.le_refl k))).resolve_left fun ended => by
      cases run.symm.trans ended.1
  cases run.symm.trans here
  obtain ⟨rfl, rfl, -⟩ := alongside_of_beside beside
  -- the other run queues the event as little as this one does, so it has none to cancel
  have lost := absent_of_unqueued there absent fun j early y f later here' asks => by
    obtain ⟨x, y', before, before', besides⟩ :=
      (rel_cases (together j early.le)).resolve_left fun ended => by
        cases here'.symm.trans ended.2
    cases here'.symm.trans before'
    exact asksOnce j early x f later before (besides.control.eq.trans asks)
  have cancelled := dequeue_beside (next' (.returned ())) stack' beside.world removes lost
  have second := first.trans ⟨k, run⟩
  have onward (n : Nat) := after_same_but_pending cancelled pooled_eq
    (fun _ _ same => .inl same.symm)
    (fun x op later rest => unheeding ((second.trans (.single rfl)).trans rest)) n
    (fun _ _ _ _ _ besides _ => (besides.world.managers m).here.pending)
  refine ⟨fun j early => alongside_of_rel (together j early),
    deliveries_eq fun j early => alongside_of_rel (together j early.le), ⟨u, there, fun n =>
      ⟨alongside_of_rel (onward n), deliveries_eq fun j _ => alongside_of_rel (onward j)⟩⟩, ?_⟩
  intro x f all
  have dequeued : (x.dequeue m f all).manager m = ((x.manager m).dequeue f all).2 := by
    simp only [World.dequeue, manager_note, manager_setManager, if_true]
  rw [dequeued]
  exact (x.manager m).queue.dequeue_cancels f all

theorem Oblivious.of_countsNothing {op : Op} {next : Outcome op.Reply → Program σ Bool}
    (checked : State.countsNothing ⟨.program (.call op next), stack, w⟩ = true) :
    Oblivious m e w op next := by
  cases op with
  | inspect | validate => cases checked
  | _ => trivial

/-- Whether an event is queued next. -/
def State.queues (e : EventRef) (c : State σ) : Bool :=
  match c.control with
  | .program (.call (.enqueue _ f) _) => f.same e
  | _ => false

/-- The first event is left over because it is not due yet. Then the second one is queued and the
third one, the first one is delivered, and the second one is cancelled. -/
theorem cancelled_while_leftovers_are_delivered :
    let t : TypeId := ⟨7⟩
    let behaviour : Behaviour Unit := fun _ _ => pure true
    let host : Program Unit Bool := do
      let m ← Program.ask (.newManager default)
      let l ← Program.ask (.newListener "listener" .custom)
      let _ ← Program.ask (.tryConnect m l t)
      Program.enqueueNew m (.custom t .low (.ofMillis 5))
      let _ ← Program.ask (.execute m none)
      let e ← Program.ask (.newEvent (.custom t .high .now))
      Program.ask (.enqueue m e)
      Program.enqueueNew m (.custom t .low .now)
      Program.ask (.advance m (.ofMillis 5))
      let _ ← Program.ask (.execute m none)
      Program.ask (.dequeue m e false)
      Program.ask (.execute m none)
    let late : EventRef := ⟨0, .custom t .low (.ofMillis 5)⟩
    let e : EventRef := ⟨1, .custom t .high .now⟩
    let kept : EventRef := ⟨2, .custom t .low .now⟩
    ∃ next stack w next' stack' v u,
      Reaches behaviour (start host ()) ⟨.program (.call (.enqueue 0 e) next), stack, w⟩ ∧
      (w.manager 0).queue.active = [late] ∧
      after behaviour 14 ⟨.program (next (.returned ())), stack, w.enqueue 0 e⟩ =
        some ⟨.program (.call (.dequeue 0 e false) next'), stack', v⟩ ∧
      after behaviour 14 ⟨.program (next (.returned ())), stack, w⟩ =
        some ⟨.program (.call (.dequeue 0 e false) next'), stack', u⟩ ∧
      deliveries behaviour 14 ⟨.program (next (.returned ())), stack, w⟩ = [(0, late)] ∧
      deliveries behaviour 13 ⟨.program (next' (.returned ())), stack', u⟩ = [(0, kept)] := by
  intro t behaviour host late e kept
  have asked : (after behaviour 10 (start host ())).any (State.atCall fun op w =>
      op.request? == some (0, .enqueue e) && decide (0 < w.managers.size) &&
        (w.manager 0).queue.active == [late] && (w.manager 0).queue.pending == #[]) = true := by cbv
  have cancels : (after behaviour 25 (start host ())).any (State.atCall fun op v =>
      op.request? == some (0, .dequeue e false) &&
        (v.manager 0).queue.pending.any (·.same e)) = true := by cbv
  have ends : (after behaviour 38 (start host ())).any (State.hasReturned true) = true := by cbv
  have counts : ((List.range 39).all fun k =>
      (after behaviour k (start host ())).all State.countsNothing) = true := by cbv
  have once : ((List.range 14).all fun j =>
      (after behaviour (11 + j) (start host ())).all (!·.queues e)) = true := by cbv
  have before : ((List.range 14).filterMap fun j =>
      (after behaviour (11 + j) (start host ())).bind State.delivery) = [(0, late)] := by cbv
  have since : ((List.range 13).filterMap fun j =>
      (after behaviour (26 + j) (start host ())).bind State.delivery) = [(0, kept)] := by cbv
  obtain ⟨c, here, told⟩ := (Option.any_eq_true ..).mp asked
  obtain ⟨op, next, stack, w, rfl, checked⟩ := atCall_sound told
  simp only [Bool.and_eq_true, beq_iff_eq, decide_eq_true_eq] at checked
  obtain ⟨⟨⟨asks, made⟩, active⟩, pending⟩ := checked
  obtain rfl : op = .enqueue 0 e := Op.request?_eq_some_iff.mp asks
  obtain ⟨d, there, told'⟩ := (Option.any_eq_true ..).mp cancels
  obtain ⟨op, next', stack', v, rfl, checked⟩ := atCall_sound told'
  simp only [Bool.and_eq_true, beq_iff_eq, Array.any_eq_true'] at checked
  obtain ⟨asks, removes⟩ := checked
  obtain rfl : op = .dequeue 0 e false := Op.request?_eq_some_iff.mp asks
  obtain ⟨x, last, returned⟩ := (Option.any_eq_true ..).mp ends
  obtain ⟨z, rfl⟩ := hasReturned_iff.mp returned
  have shift (j : Nat) : after behaviour (11 + j) (start host ()) =
      after behaviour j ⟨.program (next (.returned ())), stack, w.enqueue 0 e⟩ := by
    rw [after_add, after_next here rfl]
    rfl
  have run := (shift 14).symm.trans there
  have shift' (j : Nat) : after behaviour (26 + j) (start host ()) =
      after behaviour j ⟨.program (next' (.returned ())), stack', v.dequeue 0 e false⟩ := by
    rw [after_add, after_next there rfl]
    rfl
  have single : ∀ j < 14, ∀ f later above u,
      after behaviour j ⟨.program (next (.returned ())), stack, w.enqueue 0 e⟩ =
        some ⟨.program (.call (.enqueue 0 f) later), above, u⟩ → f.same e = false := by
    intro j early f later above u queues
    have other := List.all_eq_true.mp once j (List.mem_range.mpr early)
    rw [shift, queues] at other
    simpa [State.queues] using other
  obtain ⟨-, delivered, ⟨u, unqueued, onward⟩, -⟩ := cancelled_event_leaves_no_trace made
    (by simp [pending]) run single removes fun op later above u rest =>
      .of_countsNothing ((Reaches.trans ⟨10, here⟩ rest).checked last counts)
  simp only [shift] at before
  simp only [shift'] at since
  exact ⟨next, stack, w, next', stack', v, u, ⟨10, here⟩, active, run, unqueued,
    delivered.symm.trans before, (onward 13).2.symm.trans since⟩

end EventEngine.Machine
