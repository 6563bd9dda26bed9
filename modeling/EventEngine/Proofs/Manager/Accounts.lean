import EventEngine.Proofs.Manager.Entries

/-! What the counters of a manager mean. Where no dispatch is under way every registration that was
accepted is accounted for, and the counters tell of all that happened but for what dispatches and
drains had counted when a panic passed through them. -/
namespace EventEngine.Machine

open World

variable {σ : Type} {behaviour : Behaviour σ} {c d : State σ} {m : ManagerId}

/-- The sum of a count over so many steps, taken before each of them. -/
def along (behaviour : Behaviour σ) (count : State σ → Nat) : Nat → State σ → Nat
  | 0, _ => 0
  | n + 1, c =>
    match step behaviour c with
    | none => 0
    | some d => count c + along behaviour count n d

theorem along_next {count : State σ → Nat} {n : Nat} {x : State σ}
    (run : after behaviour n c = some d) (moved : step behaviour d = some x) :
    along behaviour count (n + 1) c = along behaviour count n c + count d := by
  induction n generalizing c with
  | zero =>
    cases run
    simp only [along, moved, Nat.add_zero, Nat.zero_add]
  | succ n ih =>
    obtain ⟨y, first, rest⟩ := Option.bind_eq_some_iff.mp run
    have later := ih rest
    rw [along, first]
    simp only [along, first] at later ⊢
    omega

theorem along_none {count : State σ → Nat} {n : Nat}
    (none : ∀ j < n, ∀ x, after behaviour j c = some x → count x = 0) :
    along behaviour count n c = 0 := by
  induction n generalizing c with
  | zero => rfl
  | succ n ih =>
    rw [along]
    split
    · rfl
    · rename_i d moved
      rw [none 0 (Nat.succ_pos n) c rfl, ih fun j early x run =>
        none (j + 1) (Nat.succ_lt_succ early) x (after_first moved run)]

/-- What a run notes in the journal is what it enters in the books of a manager. -/
theorem after_posts {n : Nat} (settled : Settled c.world) (run : after behaviour n c = some d)
    (m : ManagerId) :
    Posts m (along behaviour (State.clearing m) n c)
      (along behaviour (fun x => (x.unwinds m).toNat) n c) c.world (c.book m) d.world (d.book m) := by
  induction n generalizing d with
  | zero =>
    cases run
    exact (Quiet.refl c.world).posts _ _
  | succ n ih =>
    obtain ⟨x, before, moved⟩ := Option.bind_eq_some_iff.mp (after_succ n c ▸ run)
    have settled' : Settled x.world := Reaches.invariant (P := fun c => Settled c.world)
      (fun _ _ => Settled.step) ⟨n, before⟩ settled
    rw [along_next before moved, along_next before moved]
    exact (ih before).trans (step_enters settled' moved m)

theorem new_book (p : Program σ Bool) (memory : σ) (m : ManagerId) :
    (start p memory).book m = .empty := by
  simp only [State.book, start, book, manager, World.initial, Store.get_empty]
  rfl

/-- The books of a manager agree with the journal at every moment of a run. -/
theorem after_agrees {p : Program σ Bool} {memory : σ} {n : Nat}
    (run : after behaviour n (start p memory) = some c) (m : ManagerId) :
    Book.Agrees m c.world.journal.toList (c.book m) ∧
      History.clearances m c.world.journal.toList =
        along behaviour (State.clearing m) n (start p memory) ∧
      History.unwinds m c.world.journal.toList =
        along behaviour (fun x => (x.unwinds m).toNat) n (start p memory) := by
  have begun : Reachable behaviour (start p memory) := ⟨p, memory, .refl _⟩
  obtain ⟨hs, journal, books, clearances, unwinds⟩ := after_posts begun.settled run m
  have all : c.world.journal.toList = hs := journal
  rw [new_book] at books
  rw [all]
  exact ⟨books.agrees, clearances, unwinds⟩

/-- A dispatch under way has a tally. -/
theorem tallies_of_walks (idle : c.walks m = []) : c.tallies m = [] := by
  have top : ∀ x : Waiting σ, x.walks m = [] → x.tallies m = [] := by
    intro x none
    cases x with
    | walk n =>
      simp only [Waiting.walks] at none
      split at none
      · cases none
      · rename_i other
        rw [Waiting.tallies, if_neg other]
    | _ => rfl
  obtain ⟨here, beneath⟩ := List.append_eq_nil_iff.mp idle
  refine List.append_eq_nil_iff.mpr ⟨?_, List.flatMap_eq_nil_iff.mpr fun x inside => ?_⟩
  · cases control : c.control with
    | walk n =>
      rw [control, Control.walks] at here
      split at here
      · cases here
      · rename_i other
        rw [Control.tallies, if_neg other]
    | _ => rfl
  · exact top x (List.flatMap_eq_nil_iff.mp beneath x inside)

/-- While no dispatch is under way nothing waits to be entered. -/
theorem book_of_idle (idle : c.walks m = []) :
    (c.book m).underWay.length = 0 ∧ (c.book m).invokedUnderWay = 0 ∧
      (c.book m).prunedUnderWay = 0 := by
  have none : (c.book m).underWay = [] := tallies_of_walks idle
  simp only [Book.invokedUnderWay, Book.prunedUnderWay, none, List.length_nil, List.map_nil,
    List.sum_nil, and_self]

/-- Every registration is accounted for. In a run in which no listener that a dispatch has called
panics, whoever was connected to a manager is registered, was disconnected, was removed because
it was gone or was forgotten with all others, whenever no dispatch of the manager is under way. -/
theorem registrations_accounted_for {p : Program σ Bool} {memory : σ} {n : Nat}
    (run : after behaviour n (start p memory) = some c) (m : ManagerId)
    (calm : ∀ j < n, ∀ x, after behaviour j (start p memory) = some x → x.unwinds m = false)
    (idle : c.walks m = []) :
    (c.world.manager m).counters.connects =
      (c.world.manager m).counters.disconnects + (c.world.manager m).counters.pruned +
        along behaviour (State.clearing m) n (start p memory) +
        (c.world.manager m).registry.table.total := by
  obtain ⟨agrees, clearances, unwinds⟩ := after_agrees run m
  have none : along behaviour (fun x => (x.unwinds m).toNat) n (start p memory) = 0 :=
    along_none fun j early x before => by rw [calm j early x before]; rfl
  have registrations : (c.world.manager m).counters.connects =
      (c.world.manager m).counters.disconnects + (c.world.manager m).registry.table.total +
        History.removals m c.world.journal.toList + History.clearances m c.world.journal.toList :=
    agrees.registrations
  have removals : (c.world.manager m).counters.pruned + (c.book m).prunedUnderWay +
      (History.lost m c.world.journal.toList).pruned =
        History.removals m c.world.journal.toList := agrees.removals
  rw [(book_of_idle idle).2.2, History.lost_eq (unwinds.trans none)] at removals
  dsimp only at removals
  omega

/-- The first listener, when it is called, gives up the second one, which a dispatch within its own
takes off the list, disconnects the third one, has all others forgotten and connects one again. -/
theorem accounts_after_nested_changes :
    let behaviour : Behaviour Unit := fun l e =>
      match l, e.id with
      | 0, 0 => do
        let _ ← Program.ask (.dropListener 1)
        let _ ← Program.dispatchNew 0 (.plain ⟨7⟩)
        let _ ← Program.ask (.tryDisconnect 0 2 ⟨7⟩)
        Program.ask (.clearListeners 0)
        let _ ← Program.ask (.tryConnect 0 2 ⟨8⟩)
        pure false
      | _, _ => pure false
    let host : Program Unit Bool := do
      let m ← Program.ask (.newManager default)
      let first ← Program.ask (.newListener "first" .custom)
      let second ← Program.ask (.newListener "second" .custom)
      let third ← Program.ask (.newListener "third" .custom)
      let _ ← Program.ask (.tryConnect m first ⟨7⟩)
      let _ ← Program.ask (.tryConnect m second ⟨7⟩)
      let _ ← Program.ask (.tryConnect m third ⟨7⟩)
      let _ ← Program.ask (.tryConnect m third ⟨9⟩)
      Program.dispatchNew m (.plain ⟨7⟩)
    ∃ c, after behaviour 38 (start host ()) = some c ∧ c.walks 0 = [] ∧
      (c.world.manager 0).counters.connects = 5 ∧ (c.world.manager 0).counters.disconnects = 1 ∧
      (c.world.manager 0).counters.pruned = 1 ∧
      along behaviour (State.clearing 0) 38 (start host ()) +
        (c.world.manager 0).registry.table.total = 3 := by
  intro behaviour host
  have ran : (after behaviour 38 (start host ())).any (fun c => c.walks 0 == [] &&
      (c.world.manager 0).counters.connects == 5 && (c.world.manager 0).counters.disconnects == 1 &&
      (c.world.manager 0).counters.pruned == 1) = true := by cbv
  have quiet : ((List.range 38).all fun k =>
      (after behaviour k (start host ())).all fun x => !x.unwinds 0) = true := by cbv
  obtain ⟨c, run, told⟩ := (Option.any_eq_true ..).mp ran
  simp only [Bool.and_eq_true, beq_iff_eq] at told
  obtain ⟨⟨⟨idle, connects⟩, disconnects⟩, pruned⟩ := told
  have accounted := registrations_accounted_for run 0 (fun j early x before => by
    have calm := List.all_eq_true.mp quiet j (List.mem_range.mpr early)
    rwa [before, Option.all_some, Bool.not_eq_true'] at calm) idle
  rw [connects, disconnects, pruned] at accounted
  exact ⟨c, run, idle, connects, disconnects, pruned, by omega⟩

/-- What the counters of a manager tell of a history. They leave out the dispatches and drains that
a panic has passed through, and what these dispatches had counted before. -/
structure CountersTell (m : ManagerId) (w : World σ) : Prop where
  dispatched : (w.manager m).counters.dispatched + History.unwinds m w.journal.toList =
    History.calls m w.journal.toList
  invocations : (w.manager m).counters.invocations + (History.lost m w.journal.toList).invoked =
    History.invocations m w.journal.toList
  consumed : (w.manager m).counters.consumed = History.consumptions m w.journal.toList
  pruned : (w.manager m).counters.pruned + (History.lost m w.journal.toList).pruned =
    History.removals m w.journal.toList
  drains : (w.manager m).counters.drains + History.drainsUnwound m w.journal.toList =
    History.drainsBegun m w.journal.toList

/-- Whenever neither a dispatch nor a drain of a manager is under way, its counters tell of all
dispatches, calls of listeners, removals and drains that came to their end. -/
theorem counters_tell_of_what_ended (reachable : Reachable behaviour c) (m : ManagerId)
    (idle : c.walks m = []) (apart : c.drains m = 0) : CountersTell m c.world := by
  obtain ⟨p, memory, n, run⟩ := reachable
  obtain ⟨agrees, -, -⟩ := after_agrees run m
  obtain ⟨none, invoked, pruned⟩ := book_of_idle idle
  have called : (c.book m).called = 0 := rfl
  have draining : (c.book m).draining = 0 := apart
  obtain ⟨-, calls, invocations, consumptions, removals, -, drains⟩ := agrees
  rw [none, called, Nat.add_zero] at calls
  rw [invoked, Nat.add_zero] at invocations
  rw [pruned, Nat.add_zero] at removals
  rw [draining, Nat.add_zero] at drains
  exact ⟨calls, invocations, consumptions, removals, drains⟩

/-- A listener that is gone and one that panics are on a list. What the drain and the dispatch of its
event have done is missing from the counters when the host has caught the panic. -/
theorem caught_panic_is_missing_from_counters :
    let behaviour : Behaviour Unit := fun _ _ => .panic "lost"
    let host : Program Unit Bool := do
      let m ← Program.ask (.newManager default)
      let first ← Program.ask (.newListener "first" .custom)
      let second ← Program.ask (.newListener "second" .custom)
      let _ ← Program.ask (.tryConnect m first ⟨7⟩)
      let _ ← Program.ask (.tryConnect m second ⟨7⟩)
      let _ ← Program.ask (.dropListener first)
      let _ ← Program.dispatchNew m (.plain ⟨8⟩)
      Program.enqueueNew m (.plain ⟨7⟩)
      let _ ← (Program.ask (.execute m none)).attempt
      pure true
    ∃ c, Reachable behaviour c ∧ after behaviour 24 (start host ()) = some c ∧
      c.walks 0 = [] ∧ c.drains 0 = 0 ∧
      (c.world.manager 0).counters.dispatched = 1 ∧ History.calls 0 c.world.journal.toList = 2 ∧
      (c.world.manager 0).counters.invocations = 0 ∧
      History.invocations 0 c.world.journal.toList = 1 ∧
      (c.world.manager 0).counters.pruned = 0 ∧ History.removals 0 c.world.journal.toList = 1 ∧
      (c.world.manager 0).counters.drains = 0 ∧
      History.drainsBegun 0 c.world.journal.toList = 1 := by
  intro behaviour host
  have ran : (after behaviour 24 (start host ())).any (fun c => c.walks 0 == [] &&
      c.drains 0 == 0 && (c.world.manager 0).counters.dispatched == 1 &&
      History.calls 0 c.world.journal.toList == 2 &&
      (c.world.manager 0).counters.invocations == 0 &&
      History.invocations 0 c.world.journal.toList == 1 &&
      (c.world.manager 0).counters.pruned == 0 &&
      History.removals 0 c.world.journal.toList == 1 &&
      (c.world.manager 0).counters.drains == 0 &&
      History.drainsBegun 0 c.world.journal.toList == 1) = true := by cbv
  obtain ⟨c, run, told⟩ := (Option.any_eq_true ..).mp ran
  simp only [Bool.and_eq_true, beq_iff_eq, and_assoc] at told
  exact ⟨c, ⟨host, (), 24, run⟩, run, told⟩

/-- The second of three queued events makes the listener panic. The drain that hands it over is
unwound, and the third event is delivered by the next drain. -/
theorem counters_after_caught_panic :
    let behaviour : Behaviour Unit := fun _ e => if e.id = 1 then .panic "lost" else pure true
    let host : Program Unit Bool := do
      let m ← Program.ask (.newManager default)
      let l ← Program.ask (.newListener "listener" .custom)
      let _ ← Program.ask (.tryConnect m l ⟨7⟩)
      Program.enqueueNew m (.plain ⟨7⟩)
      Program.enqueueNew m (.plain ⟨7⟩)
      Program.enqueueNew m (.plain ⟨7⟩)
      let _ ← (Program.ask (.execute m none)).attempt
      Program.ask (.execute m none)
    ∃ c, after behaviour 38 (start host ()) = some c ∧ c.walks 0 = [] ∧ c.drains 0 = 0 ∧
      History.calls 0 c.world.journal.toList = 3 ∧ History.unwinds 0 c.world.journal.toList = 1 ∧
      History.lost 0 c.world.journal.toList = ⟨1, 0⟩ ∧ CountersTell 0 c.world := by
  intro behaviour host
  have ran : (after behaviour 38 (start host ())).any (fun c => c.walks 0 == [] &&
      c.drains 0 == 0 && History.calls 0 c.world.journal.toList == 3 &&
      History.unwinds 0 c.world.journal.toList == 1 &&
      History.lost 0 c.world.journal.toList == ⟨1, 0⟩) = true := by cbv
  obtain ⟨c, run, told⟩ := (Option.any_eq_true ..).mp ran
  simp only [Bool.and_eq_true, beq_iff_eq] at told
  obtain ⟨⟨⟨⟨idle, apart⟩, calls⟩, unwinds⟩, lost⟩ := told
  exact ⟨c, run, idle, apart, calls, unwinds, lost,
    counters_tell_of_what_ended ⟨host, (), 38, run⟩ 0 idle apart⟩

end EventEngine.Machine
