import EventEngine.Proofs.Queue.Journal

/-! What moves the events of queues, step by step. An event is queued, cancelled or dropped where a
program asks for it, made active where a drain begins, and handed over where a drain dispatches it;
no other step does anything to a queue. So what the journal says of queues is true to the run. -/
namespace EventEngine

/-- A happening that moves no event of any queue. -/
def Happening.Rests (h : Happening) : Prop := ∀ m, h.moves m = false

namespace World

variable {σ : Type} {w w' w'' : World σ} {P Q : Happening → Prop}

/-- The journal goes on, with such happenings only. -/
def Notes (P : Happening → Prop) (w w' : World σ) : Prop :=
  ∃ hs, w'.journal.toList = w.journal.toList ++ hs ∧ ∀ h ∈ hs, P h

namespace Notes

theorem still (journal : w'.journal = w.journal) : Notes P w w' :=
  ⟨[], by rw [journal, List.append_nil], nofun⟩

theorem refl (w : World σ) : Notes P w w := still rfl

theorem trans (first : Notes P w w') (second : Notes P w' w'') : Notes P w w'' := by
  obtain ⟨hs, journal, kind⟩ := first
  obtain ⟨later, journal', kind'⟩ := second
  refine ⟨hs ++ later, by rw [journal', journal, List.append_assoc], fun h inside => ?_⟩
  exact (List.mem_append.mp inside).elim (kind h) (kind' h)

theorem note {h : Happening} (before : Notes P w w') (kind : P h) : Notes P w (w'.note h) := by
  refine before.trans ⟨[h], by rw [journal_note, Array.toList_push], fun k inside => ?_⟩
  rwa [List.mem_singleton.mp inside]

theorem mono (notes : Notes P w w') (weaker : ∀ h, P h → Q h) : Notes Q w w' := by
  obtain ⟨hs, journal, kind⟩ := notes
  exact ⟨hs, journal, fun h inside => weaker h (kind h inside)⟩

end Notes

open Notes

theorem receiveQuit_rests (l : ListenerId) (e : EventRef) :
    Notes Happening.Rests w (w.receiveQuit l e).2 := by
  unfold receiveQuit
  split
  · exact .note (refl w) fun _ => rfl
  · exact refl w

theorem countFrame_rests (l : ListenerId) (updates renders : Nat) (e : EventRef) :
    Notes Happening.Rests w (w.countFrame l updates renders e) := by
  unfold countFrame
  split <;> exact still rfl

theorem beginDispatch_rests (n : ManagerId) (e : EventRef) :
    Notes Happening.Rests w (w.beginDispatch n e).2 := by
  have called : Notes Happening.Rests w (w.note (.dispatched n e)) := .note (refl w) fun _ => rfl
  simp only [beginDispatch]
  split <;> exact .note (called.trans (still rfl)) fun _ => rfl

theorem pruneOne_rests (n : ManagerId) (frame : UInt64) (t : TypeId) (l : ListenerId) :
    Notes Happening.Rests w (w.pruneOne n frame t l).2 := by
  simp only [pruneOne]
  split
  · exact .note (still rfl) fun _ => rfl
  · exact still rfl

theorem conclude_rests (n : ManagerId) (frame : UInt64) (e : EventRef) (consumed : Bool)
    (tally : Manager.Tally) : Notes Happening.Rests w (w.conclude n frame e consumed tally) := by
  have closed : Notes Happening.Rests w (((w.closeFrame n frame).2.modifyManager n
      (·.countDispatch tally consumed (w.closeFrame n frame).1)).note
      (.closed n frame consumed (w.closeFrame n frame).1)) := .note (still rfl) fun _ => rfl
  simp only [conclude]
  split <;> split
  · exact closed.note fun _ => rfl
  · exact closed
  · exact (closed.note fun _ => rfl).note fun _ => rfl
  · exact closed.note fun _ => rfl

theorem unwindDispatch_rests (n : ManagerId) (frame : UInt64) :
    Notes Happening.Rests w (w.unwindDispatch n frame) :=
  .note (still rfl) fun _ => rfl

theorem finishDrain_rests (n : ManagerId) (delivered : Nat) :
    Notes Happening.Rests w (w.finishDrain n delivered).2 :=
  .note (still rfl) fun _ => rfl

theorem unwindDrain_rests (n : ManagerId) : Notes Happening.Rests w (w.unwindDrain n) :=
  .note (still rfl) fun _ => rfl

/-- A drain is refused, or it begins and may make pending events active. -/
theorem beginDrain_notes (n : ManagerId) : Notes (fun h => h.Rests ∨
    (w.manager n).queue.draining = false ∧ ∃ batch, h = .swapped n batch) w (w.beginDrain n).2 := by
  cases idle : (w.manager n).queue.draining with
  | true =>
    rw [beginDrain_refused idle]
    exact .note (refl w) (.inl fun _ => rfl)
  | false =>
    by_cases drained : (w.manager n).queue.active = []
    · rw [beginDrain_swapIn idle drained]
      have swapped : Notes (fun h => h.Rests ∨ false = false ∧ ∃ batch, h = .swapped n batch) w
          (w.swapIn n) :=
        .note (.note (still rfl) (.inr ⟨rfl, _, rfl⟩)) (.inl fun _ => rfl)
      exact swapped.trans (still rfl)
    · rw [beginDrain_takeUp idle drained]
      have started : Notes (fun h => h.Rests ∨ false = false ∧ ∃ batch, h = .swapped n batch) w
          (w.takeUp n) := .note (still rfl) (.inl fun _ => rfl)
      exact started.trans (still rfl)

/-- A turn of a drain hands over the event that it takes. -/
theorem takeDue_notes (n : ManagerId) (budget : Option Duration) (started : Timestamp)
    (delivered : Nat) : Notes (fun h => h.Rests ∨
      ∃ e, (w.takeDue n budget started delivered).1 = some e ∧ h = .handedOver n e) w
      (w.takeDue n budget started delivered).2 := by
  rcases takeDue_cases n budget started delivered w with taken | taken | ⟨e, rest, _, taken⟩
  · rw [taken]
    exact .note (still rfl) (.inl fun _ => rfl)
  · rw [taken]
    exact still rfl
  · rw [taken]
    exact .note (still rfl) (.inr ⟨e, rfl, rfl⟩)

end World

namespace Machine

open World

variable {σ : Type} {behaviour : Behaviour σ} {c d : State σ}

/-- What a step notes, as far as queues are concerned. -/
inductive Causes (c d : State σ) : Happening → Prop
  | rests (still : h.Rests) : Causes c d h
  | queues (asked : c.control = .program (.call (.enqueue m e) next)) : Causes c d (.queued m e)
  | dequeues (asked : c.control = .program (.call (.dequeue m e all) next)) :
    Causes c d (.dequeued m e all count removed)
  | drops (asked : c.control = .program (.call (.clearQueue m) next)) :
    Causes c d (.dropped m count removed)
  | swaps (executes : c.control = .execute m budget)
    (idle : (c.world.manager m).queue.draining = false) : Causes c d (.swapped m batch)
  | handsOver (turn : c.control = .drain m budget started turns delivered)
    (dispatches : d.control = .dispatch m e) : Causes c d (.handedOver m e)

theorem rests_causes {w w' : World σ} (rests : Notes Happening.Rests w w') :
    Notes (Causes c d) w w' :=
  rests.mono fun _ => .rests

theorem carryOut_causes {op : Op} {next : Outcome op.Reply → Program σ Bool}
    {result : op.Reply × World σ} {stack : List (Waiting σ)} {w : World σ}
    (carried : w.carryOut op = some result) :
    Notes (Causes ⟨.program (.call op next), stack, w⟩ d) w result.2 := by
  cases op with
  | callListener | dispatch | execute => cases carried
  | enqueue m e =>
    cases carried
    exact .note (.still rfl) (.queues rfl)
  | dequeue m e all =>
    cases carried
    exact .note (.still rfl) (.dequeues rfl)
  | clearQueue m =>
    cases carried
    exact .note (.still rfl) (.drops rfl)
  | newManager clock =>
    cases carried
    simp only [newManager]
    split <;> exact .note (.still rfl) (.rests fun _ => rfl)
  | releaseManager n =>
    cases carried
    simp only [releaseManager]
    split
    · exact .note (.still rfl) (.rests fun _ => rfl)
    · exact .still rfl
  | acquireCurrent =>
    cases carried
    simp only [acquireCurrent]
    split <;> exact .still rfl
  | tryConnect n l t =>
    cases carried
    simp only [tryConnect]
    split
    · exact .note (.still rfl) (.rests fun _ => rfl)
    · exact .still rfl
  | tryDisconnect n l t =>
    cases carried
    simp only [tryDisconnect]
    split
    · dsimp only
      split
      · exact .still rfl
      · exact .note (.still rfl) (.rests fun _ => rfl)
    · exact .still rfl
  | clearListeners | pruneStale | note =>
    cases carried
    exact .note (.still rfl) (.rests fun _ => rfl)
  | holdManager | isCurrent | newListener | dropListener | nameOf | roleOf | newEvent | now
  | advance | setClock | inspect | validate =>
    cases carried
    exact .still rfl

/-- Whatever a step notes about a queue it notes for one of these reasons. -/
theorem step_causes (moved : step behaviour c = some d) : Notes (Causes c d) c.world d.world := by
  cases step_moves moved with
  | carriesOut carried => exact carryOut_causes carried
  | receivesQuit => exact rests_causes (receiveQuit_rests ..)
  | countsFrame => exact rests_causes (countFrame_rests ..)
  | unheard | heard => exact rests_causes (beginDispatch_rests ..)
  | prunes => exact rests_causes (pruneOne_rests ..)
  | visits => exact .trans (.note (.refl _) (.rests fun _ => rfl)) (.still rfl)
  | concludes => exact rests_causes (conclude_rests ..)
  | refuses | begins =>
    refine (beginDrain_notes _).mono ?_
    rintro h (still | ⟨idle, batch, rfl⟩)
    · exact .rests still
    · exact .swaps rfl idle
  | takes taken =>
    refine (takeDue_notes ..).mono ?_
    rintro h (still | ⟨e, taken', rfl⟩)
    · exact .rests still
    · cases taken.symm.trans taken'
      exact .handsOver rfl rfl
  | stops stopped =>
    refine .trans ((takeDue_notes ..).mono ?_) (rests_causes (finishDrain_rests ..))
    rintro h (still | ⟨e, taken, rfl⟩)
    · exact .rests still
    · cases stopped.symm.trans taken
  | ends => exact rests_causes (finishDrain_rests ..)
  | consumes =>
    have consumed (w : World σ) (m : ManagerId) (frame : UInt64) (l : ListenerId) (e : EventRef) :
        Notes Happening.Rests w (w.consume m frame l e) :=
      .trans (.note (.refl _) fun _ => rfl) (.still rfl)
    exact rests_causes (.trans (consumed ..) (conclude_rests ..))
  | unwindsDispatch => exact rests_causes (.trans (.still rfl) (unwindDispatch_rests ..))
  | unwindsDrain => exact rests_causes (unwindDrain_rests ..)
  | _ => exact .still rfl

/-! ### Deliveries -/

/-- The event that a drain has just handed over to a dispatch. -/
def State.delivery : State σ → Option (ManagerId × EventRef)
  | ⟨.dispatch m e, .drain .. :: _, _⟩ => some (m, e)
  | _ => none

/-- The events that drains deliver in a run of so many steps, in their order. -/
def deliveries (behaviour : Behaviour σ) (n : Nat) (c : State σ) : List (ManagerId × EventRef) :=
  (List.range n).filterMap fun j => (after behaviour j c).bind State.delivery

/-- Those of them that the drains of a manager deliver. -/
def deliveriesOf (behaviour : Behaviour σ) (m : ManagerId) (n : Nat) (c : State σ) :
    List EventRef :=
  ((deliveries behaviour n c).filter (·.1 == m)).map (·.2)

theorem deliveriesOf_succ {m : ManagerId} {n : Nat} (here : after behaviour n c = some d) :
    deliveriesOf behaviour m (n + 1) c = deliveriesOf behaviour m n c ++
      (d.delivery.toList.filter (·.1 == m)).map (·.2) := by
  rw [deliveriesOf, deliveries, filterMap_range_succ, here, List.filter_append, List.map_append]
  rfl

/-- A step either delivers an event and notes this alone, or delivers nothing and notes no
delivery. -/
theorem step_delivers (moved : step behaviour c = some d) :
    (∃ m e, d.delivery = some (m, e) ∧ d.world.journal = c.world.journal.push (.handedOver m e)) ∨
      d.delivery = none ∧ Notes (fun h => ∀ m, h.delivering m = []) c.world d.world := by
  have causes := step_causes moved
  cases step_moves moved with
  | takes taken =>
    obtain ⟨rest, -, handed⟩ := takeDue_some taken
    exact .inl ⟨_, _, rfl, congrArg (·.journal) handed⟩
  | _ =>
    -- no other step of a drain goes on with a dispatch
    refine .inr ⟨rfl, causes.mono ?_⟩
    intro h cause m
    cases cause with
    | rests still => exact (Happening.quiet_moves_nothing (still m)).2.1
    | handsOver turn dispatches => cases turn <;> cases dispatches
    | _ => rfl

/-- A step notes what it hands over. -/
theorem step_delivered (moved : step behaviour c = some d) (m : ManagerId) :
    History.delivered m d.world.journal.toList = History.delivered m c.world.journal.toList ++
      (d.delivery.toList.filter (·.1 == m)).map (·.2) := by
  rcases step_delivers moved with ⟨n, e, hands, journal⟩ | ⟨none, hs, journal, others⟩
  · rw [hands, journal, Array.toList_push, History.delivered, List.flatMap_append]
    by_cases same : n = m <;> simp [Happening.delivering, same, History.delivered]
  · have nothing : hs.flatMap (·.delivering m) = [] := by
      apply List.flatMap_eq_nil_iff.mpr
      intro h inside
      exact others h inside m
    rw [none, journal, History.delivered, List.flatMap_append, nothing]
    rfl

/-- The journal is true to the run, as far as the queue of a manager is concerned: whatever a step
notes of queues it notes for a reason, and what was handed over up to this moment is what drains of
the manager have delivered to dispatches. -/
structure Truthful (behaviour : Behaviour σ) (m : ManagerId) (c : State σ) : Prop where
  causes : ∀ d, step behaviour c = some d → Notes (Causes c d) c.world d.world
  delivered : ∀ p memory n, after behaviour n (start p memory) = some c →
    History.delivered m c.world.journal.toList =
      deliveriesOf behaviour m (n + 1) (start p memory)

theorem truthful (behaviour : Behaviour σ) (m : ManagerId) (c : State σ) :
    Truthful behaviour m c := by
  constructor
  · intro d moved
    exact step_causes moved
  · intro p memory n run
    induction n generalizing c with
    | zero =>
      cases run
      rfl
    | succ n ih =>
      have before := run
      rw [after_succ] at before
      obtain ⟨x, here, moved⟩ := Option.bind_eq_some_iff.mp before
      rw [step_delivered moved, ih x here, deliveriesOf_succ run]

end Machine
end EventEngine
