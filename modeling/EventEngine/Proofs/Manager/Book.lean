import Mathlib
import EventEngine.Journal
import EventEngine.Manager.Basic

/-! The books of one manager as a transition system of their own. What a dispatch counts is
entered when it comes to its end, so the tallies of dispatches that are under way stand beside the
counters; those of dispatches that are unwound are never entered. -/
namespace EventEngine

open Manager (Tally)

namespace Happening

variable (m : ManagerId)

/-- Whether a happening is one for the books of a manager. -/
def concerns : Happening → Bool
  | .connected n .. | .disconnected n .. | .cleared n _ | .prunedAll n _ | .dispatched n _
  | .unheard n _ | .opened n .. | .pruned n .. | .invoked n .. | .closed n .. | .unwound n _
  | .drainStarted n _ | .drainFinished n .. | .drainUnwound n => n == m
  | _ => false

/-- A dispatch was called. -/
def calls : Happening → Nat
  | .dispatched n _ => if n = m then 1 else 0
  | _ => 0

/-- A dispatch called a listener. -/
def invocations : Happening → Nat
  | .invoked n .. => if n = m then 1 else 0
  | _ => 0

/-- A dispatch came to its end and told that its event was consumed. -/
def consumptions : Happening → Nat
  | .closed n _ taken _ => if n = m then taken.toNat else 0
  | _ => 0

/-- A panic passed through a dispatch. -/
def unwinds : Happening → Nat
  | .unwound n _ => if n = m then 1 else 0
  | _ => 0

/-- Registrations were removed because their listeners were gone. -/
def removals : Happening → Nat
  | .pruned n .. => if n = m then 1 else 0
  | .prunedAll n count => if n = m then count else 0
  | _ => 0

/-- Registrations were forgotten. -/
def clearances : Happening → Nat
  | .cleared n count => if n = m then count else 0
  | _ => 0

/-- A drain was called and not refused. -/
def drainsBegun : Happening → Nat
  | .drainStarted n _ => if n = m then 1 else 0
  | _ => 0

/-- A panic passed through a drain. -/
def drainsUnwound : Happening → Nat
  | .drainUnwound n => if n = m then 1 else 0
  | _ => 0

end Happening

/-- The tallies of the dispatches of a manager under way, the newest first, and all that was
tallied by dispatches that were unwound. -/
structure Reckoning where
  underWay : List Tally
  lost : Tally

namespace Reckoning

def empty : Reckoning := ⟨[], {}⟩

/-- The tally of the newest dispatch under way is changed. -/
def onNewest (f : Tally → Tally) (r : Reckoning) : Reckoning :=
  { r with underWay := r.underWay.modifyHead f }

/-- The newest dispatch under way is over. -/
def dropNewest (r : Reckoning) : Reckoning := { r with underWay := r.underWay.tail }

/-- The newest dispatch under way is over, and its tally is lost. -/
def lose (r : Reckoning) : Reckoning :=
  let tally := r.underWay.headD {}
  { underWay := r.underWay.tail
    lost := ⟨r.lost.invoked + tally.invoked, r.lost.pruned + tally.pruned⟩ }

def record (m : ManagerId) (r : Reckoning) : Happening → Reckoning
  | .opened n .. => if n = m then { r with underWay := {} :: r.underWay } else r
  | .invoked n .. => if n = m then r.onNewest fun t => { t with invoked := t.invoked + 1 } else r
  | .pruned n .. => if n = m then r.onNewest fun t => { t with pruned := t.pruned + 1 } else r
  | .closed n .. => if n = m then r.dropNewest else r
  | .unwound n _ => if n = m then r.lose else r
  | _ => r

end Reckoning

namespace History

variable (m : ManagerId) (hs : List Happening)

/-- What the dispatches under way have tallied, and what was lost, after a history. -/
def reckoning : Reckoning := hs.foldl (Reckoning.record m) .empty

/-- What dispatches of a manager had tallied when a panic passed through them. -/
def lost : Tally := (reckoning m hs).lost

def calls : Nat := (hs.map (·.calls m)).sum

def invocations : Nat := (hs.map (·.invocations m)).sum

def consumptions : Nat := (hs.map (·.consumptions m)).sum

def unwinds : Nat := (hs.map (·.unwinds m)).sum

def removals : Nat := (hs.map (·.removals m)).sum

def clearances : Nat := (hs.map (·.clearances m)).sum

def drainsBegun : Nat := (hs.map (·.drainsBegun m)).sum

def drainsUnwound : Nat := (hs.map (·.drainsUnwound m)).sum

end History

/-- The counters of a manager that tell of its registrations, dispatches and drains, beside what
they do not tell of. -/
structure Book where
  connects : Nat
  disconnects : Nat
  pruned : Nat
  dispatched : Nat
  consumed : Nat
  invocations : Nat
  drains : Nat
  /-- How many registrations there are. -/
  registered : Nat
  /-- Dispatches that were called and have not looked for their list yet. -/
  called : Nat
  /-- The tallies of the dispatches under way, the newest first. -/
  underWay : List Tally
  /-- How many drains are under way. -/
  draining : Nat

namespace Book

def empty : Book := ⟨0, 0, 0, 0, 0, 0, 0, 0, 0, [], 0⟩

/-- What a happening enters in the books of a manager. -/
inductive Step (m : ManagerId) : Book → Happening → Book → Prop
  | quiet (apart : h.concerns m = false) : Step m b h b
  | connected : Step m b (.connected m l t name)
      { b with connects := b.connects + 1, registered := b.registered + 1 }
  | disconnected (held : b.registered = left + 1) : Step m b (.disconnected m l t name)
      { b with disconnects := b.disconnects + 1, registered := left }
  | cleared : Step m b (.cleared m b.registered) { b with registered := 0 }
  | prunedAll (held : b.registered = left + count) : Step m b (.prunedAll m count)
      { b with pruned := b.pruned + count, registered := left }
  | dispatched : Step m b (.dispatched m e) { b with called := b.called + 1 }
  | unheard (called : b.called = others + 1) : Step m b (.unheard m e)
      { b with called := others, dispatched := b.dispatched + 1 }
  | opened (called : b.called = others + 1) : Step m b (.opened m frame t depth)
      { b with called := others, underWay := {} :: b.underWay }
  | pruned (newest : b.underWay = tally :: older) (held : b.registered = left + 1) :
    Step m b (.pruned m frame l)
      { b with underWay := { tally with pruned := tally.pruned + 1 } :: older, registered := left }
  | invoked (newest : b.underWay = tally :: older) : Step m b (.invoked m frame l e)
      { b with underWay := { tally with invoked := tally.invoked + 1 } :: older }
  | closed (newest : b.underWay = tally :: older) : Step m b (.closed m frame taken mutated)
      { b with
        underWay := older
        dispatched := b.dispatched + 1
        consumed := b.consumed + taken.toNat
        invocations := b.invocations + tally.invoked
        pruned := b.pruned + tally.pruned }
  | unwound (newest : b.underWay = tally :: older) : Step m b (.unwound m frame)
      { b with underWay := older }
  | drainStarted : Step m b (.drainStarted m active) { b with draining := b.draining + 1 }
  | drainFinished (draining : b.draining = others + 1) :
    Step m b (.drainFinished m delivered drained)
      { b with draining := others, drains := b.drains + 1 }
  | drainUnwound (draining : b.draining = others + 1) : Step m b (.drainUnwound m)
      { b with draining := others }

/-- What happenings enter, one after the other. -/
inductive Run (m : ManagerId) : Book → List Happening → Book → Prop
  | nil : Run m b [] b
  | cons (first : Step m b h next) (rest : Run m next hs last) : Run m b (h :: hs) last

variable {m : ManagerId} {b next last : Book} {h : Happening} {hs later : List Happening}

theorem Run.append (first : Run m b hs next) (rest : Run m next later last) :
    Run m b (hs ++ later) last := by
  induction first with
  | nil => exact rest
  | cons step _ ih => exact .cons step (ih rest)

theorem Run.single (step : Step m b h next) : Run m b [h] next := .cons step .nil

theorem Run.quiet (apart : ∀ h ∈ hs, h.concerns m = false) : Run m b hs b := by
  induction hs with
  | nil => exact .nil
  | cons h hs ih =>
    exact .cons (.quiet (apart h (List.mem_cons_self ..)))
      (ih fun h later => apart h (List.mem_cons_of_mem _ later))

/-- What holds of empty books and is kept by every happening holds after every history. -/
theorem Run.invariant {P : List Happening → Book → Prop}
    (keeps : ∀ hs b h next, P hs b → Step m b h next → P (hs ++ [h]) next)
    (run : Run m b later last) (hs : List Happening) (initial : P hs b) : P (hs ++ later) last := by
  induction run generalizing hs with
  | nil => rwa [List.append_nil]
  | cons step _ ih =>
    rw [List.append_cons]
    exact ih _ (keeps _ _ _ _ initial step)

end Book

/-- A happening of which nothing is counted. -/
structure Happening.Silent (m : ManagerId) (h : Happening) : Prop where
  calls : h.calls m = 0
  invocations : h.invocations m = 0
  consumptions : h.consumptions m = 0
  unwinds : h.unwinds m = 0
  removals : h.removals m = 0
  clearances : h.clearances m = 0
  drainsBegun : h.drainsBegun m = 0
  drainsUnwound : h.drainsUnwound m = 0
  record : ∀ r : Reckoning, r.record m h = r

theorem Happening.silent {m : ManagerId} {h : Happening} (apart : h.concerns m = false) :
    h.Silent m := by
  cases h with
  | connected | disconnected | cleared | prunedAll | dispatched | unheard | opened | pruned
  | invoked | closed | unwound | drainStarted | drainFinished | drainUnwound =>
    simp only [concerns, beq_eq_false_iff_ne, ne_eq] at apart
    constructor <;> simp only [calls, invocations, consumptions, unwinds, removals, clearances,
      drainsBegun, drainsUnwound, Reckoning.record, if_neg apart, implies_true]
  | _ => exact ⟨rfl, rfl, rfl, rfl, rfl, rfl, rfl, rfl, fun _ => rfl⟩

namespace Book

/-- What dispatches under way have counted of the calls of listeners. -/
def invokedUnderWay (b : Book) : Nat := (b.underWay.map (·.invoked)).sum

/-- What dispatches under way have counted of the listeners that were gone. -/
def prunedUnderWay (b : Book) : Nat := (b.underWay.map (·.pruned)).sum

variable {m : ManagerId} {b next : Book} {h : Happening} {hs : List Happening} {r : Reckoning}

namespace Step

theorem reckons (step : Step m b h next) (same : r.underWay = b.underWay) :
    (r.record m h).underWay = next.underWay := by
  cases step with
  | quiet apart => rw [(Happening.silent apart).record, same]
  | opened | pruned newest | invoked newest | closed newest | unwound newest =>
    simp_all [Reckoning.record, Reckoning.onNewest, Reckoning.dropNewest, Reckoning.lose]
  | _ => exact same

/-- A dispatch that is called is under way until it is counted or unwound. -/
theorem calls (step : Step m b h next) :
    next.dispatched + next.called + next.underWay.length + h.unwinds m =
      b.dispatched + b.called + b.underWay.length + h.calls m := by
  cases step with
  | quiet apart =>
    have silent := Happening.silent apart
    rw [silent.calls, silent.unwinds]
  | pruned newest | invoked newest => simp [Happening.calls, Happening.unwinds, newest]
  | dispatched | unheard called | opened called | closed newest | unwound newest =>
    simp only [Happening.calls, Happening.unwinds, if_true, List.length_cons, *]
    omega
  | _ => rfl

/-- A call of a listener is tallied, and the tally is entered or lost. -/
theorem invocations (step : Step m b h next) (same : r.underWay = b.underWay) :
    next.invocations + next.invokedUnderWay + (r.record m h).lost.invoked =
      b.invocations + b.invokedUnderWay + r.lost.invoked + h.invocations m := by
  cases step with
  | quiet apart =>
    have silent := Happening.silent apart
    rw [silent.record, silent.invocations]
    rfl
  | opened => simp [Happening.invocations, Reckoning.record, invokedUnderWay]
  | pruned newest => simp [Happening.invocations, Reckoning.record, Reckoning.onNewest,
      invokedUnderWay, newest]
  | invoked newest =>
    simp only [Happening.invocations, Reckoning.record, if_true, Reckoning.onNewest,
      invokedUnderWay, newest, List.map_cons, List.sum_cons]
    omega
  | closed newest =>
    simp only [Happening.invocations, Reckoning.record, if_true, Reckoning.dropNewest,
      invokedUnderWay, newest, List.map_cons, List.sum_cons]
    omega
  | unwound newest =>
    simp only [Happening.invocations, Reckoning.record, if_true, Reckoning.lose, invokedUnderWay,
      same, newest, List.headD_cons, List.map_cons, List.sum_cons]
    omega
  | _ => rfl

theorem consumptions (step : Step m b h next) :
    next.consumed = b.consumed + h.consumptions m := by
  cases step with
  | quiet apart => rw [(Happening.silent apart).consumptions]; rfl
  | closed => simp [Happening.consumptions]
  | _ => rfl

/-- A removal is entered at once or tallied, and the tally is entered or lost. -/
theorem removals (step : Step m b h next) (same : r.underWay = b.underWay) :
    next.pruned + next.prunedUnderWay + (r.record m h).lost.pruned =
      b.pruned + b.prunedUnderWay + r.lost.pruned + h.removals m := by
  cases step with
  | quiet apart =>
    have silent := Happening.silent apart
    rw [silent.record, silent.removals]
    rfl
  | opened => simp [Happening.removals, Reckoning.record, prunedUnderWay]
  | invoked newest => simp [Happening.removals, Reckoning.record, Reckoning.onNewest,
      prunedUnderWay, newest]
  | prunedAll =>
    simp only [Happening.removals, Reckoning.record, if_true, prunedUnderWay]
    omega
  | pruned newest =>
    simp only [Happening.removals, Reckoning.record, if_true, Reckoning.onNewest, prunedUnderWay,
      newest, List.map_cons, List.sum_cons]
    omega
  | closed newest =>
    simp only [Happening.removals, Reckoning.record, if_true, Reckoning.dropNewest,
      prunedUnderWay, newest, List.map_cons, List.sum_cons]
    omega
  | unwound newest =>
    simp only [Happening.removals, Reckoning.record, if_true, Reckoning.lose, prunedUnderWay,
      same, newest, List.headD_cons, List.map_cons, List.sum_cons]
    omega
  | _ => rfl

/-- Whoever was registered still is, or left in one of three ways. -/
theorem registrations (step : Step m b h next) :
    next.connects + b.disconnects + b.registered =
      b.connects + next.disconnects + next.registered + h.removals m + h.clearances m := by
  cases step with
  | quiet apart =>
    have silent := Happening.silent apart
    rw [silent.removals, silent.clearances]
    omega
  | disconnected held | prunedAll held | pruned _ held =>
    simp only [Happening.removals, Happening.clearances, if_true, held]
    omega
  | connected | cleared =>
    simp only [Happening.removals, Happening.clearances, if_true]
    omega
  | _ => simp only [Happening.removals, Happening.clearances, Nat.add_zero]

theorem drains (step : Step m b h next) :
    next.drains + next.draining + h.drainsUnwound m =
      b.drains + b.draining + h.drainsBegun m := by
  cases step with
  | quiet apart =>
    have silent := Happening.silent apart
    rw [silent.drainsBegun, silent.drainsUnwound]
  | drainStarted | drainFinished draining | drainUnwound draining =>
    simp only [Happening.drainsBegun, Happening.drainsUnwound, if_true, *]
    omega
  | _ => rfl

end Step

/-- The books agree with a history. What happened is in the counters, is tallied by a dispatch
under way, or is lost. -/
structure Agrees (m : ManagerId) (hs : List Happening) (b : Book) : Prop where
  underWay : (History.reckoning m hs).underWay = b.underWay
  calls : b.dispatched + b.called + b.underWay.length + History.unwinds m hs = History.calls m hs
  invocations : b.invocations + b.invokedUnderWay + (History.lost m hs).invoked =
    History.invocations m hs
  consumptions : b.consumed = History.consumptions m hs
  removals : b.pruned + b.prunedUnderWay + (History.lost m hs).pruned = History.removals m hs
  registrations : b.connects =
    b.disconnects + b.registered + History.removals m hs + History.clearances m hs
  drains : b.drains + b.draining + History.drainsUnwound m hs = History.drainsBegun m hs

theorem agrees_empty (m : ManagerId) : Agrees m [] .empty := ⟨rfl, rfl, rfl, rfl, rfl, rfl, rfl⟩

theorem count_concat (count : Happening → Nat) (hs : List Happening) (h : Happening) :
    ((hs ++ [h]).map count).sum = (hs.map count).sum + count h := by
  simp

/-- One happening more, and the books still agree. -/
theorem Agrees.step (agrees : Agrees m hs b) (step : Step m b h next) :
    Agrees m (hs ++ [h]) next := by
  have reckoning : History.reckoning m (hs ++ [h]) = (History.reckoning m hs).record m h := by
    rw [History.reckoning, List.foldl_append]
    rfl
  have lost : History.lost m (hs ++ [h]) = ((History.reckoning m hs).record m h).lost :=
    congrArg Reckoning.lost reckoning
  have removals : History.removals m (hs ++ [h]) = History.removals m hs + h.removals m :=
    count_concat _ hs h
  refine ⟨reckoning ▸ step.reckons agrees.underWay, ?_, ?_, ?_, ?_, ?_, ?_⟩
  · have before := agrees.calls
    have now := step.calls
    simp only [History.unwinds, History.calls, count_concat] at before ⊢
    omega
  · rw [lost, step.invocations agrees.underWay, History.invocations, count_concat]
    exact congrArg (· + _) agrees.invocations
  · rw [step.consumptions, agrees.consumptions, History.consumptions, History.consumptions,
      count_concat]
  · rw [lost, step.removals agrees.underWay, removals]
    exact congrArg (· + _) agrees.removals
  · have before := agrees.registrations
    have now := step.registrations
    rw [removals]
    simp only [History.clearances, count_concat] at before ⊢
    omega
  · have before := agrees.drains
    have now := step.drains
    simp only [History.drainsBegun, History.drainsUnwound, count_concat] at before ⊢
    omega

theorem Run.agrees (run : Run m .empty hs b) : Agrees m hs b :=
  run.invariant (fun _ _ _ _ => Agrees.step) [] (agrees_empty m)

end Book

/-- Where no panic passes through a dispatch nothing is lost. -/
theorem History.lost_eq {m : ManagerId} {hs : List Happening} (calm : unwinds m hs = 0) :
    lost m hs = {} := by
  have kept (r : Reckoning) : (hs.foldl (Reckoning.record m) r).lost = r.lost := by
    induction hs generalizing r with
    | nil => rfl
    | cons h hs ih =>
      simp only [unwinds, List.map_cons, List.sum_cons, Nat.add_eq_zero_iff] at calm
      rw [List.foldl_cons, ih calm.2]
      cases h with
      | unwound n frame =>
        have other : ¬ n = m := fun same => by simp [Happening.unwinds, same] at calm
        rw [Reckoning.record, if_neg other]
      | opened | invoked | pruned | closed =>
        simp only [Reckoning.record]
        split <;> rfl
      | _ => rfl
  exact kept .empty

end EventEngine
