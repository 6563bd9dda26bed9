import EventEngine.Proofs.Manager.Accounts
import EventEngine.Proofs.Queue.Conservation
import EventEngine.Proofs.Queue.Turns
import EventEngine.Proofs.Time.Seconds
import EventEngine.Proofs.Words.Tasks

/-! Runs whose counts are words. What a manager holds is never more than it has counted, and what
dispatches and drains under way have counted never more than what there was when they began; so as
long as the counters of the managers are words, no step has a fault, and a panic is always one that
a program had. Beside that only numbers of seconds can be too large for what is made of them. -/
namespace EventEngine

open Manager (Tally Task)

theorem Table.length_le_total {table : Table} {t : TypeId} {list : List ListenerId}
    (listed : table.list? t = some list) : list.length ≤ table.total := by
  have replaced := total_set t table []
  rw [listed, Option.getD_some, List.length_nil] at replaced
  omega

theorem Queue.length_batch_le (q : Queue) : q.batch.length ≤ q.length := by
  simp only [batch, length]
  split
  · simp only [List.length_mergeSort, Array.length_toList]
    omega
  · exact Nat.le_add_right ..

/-- The counters of all managers are words. -/
def World.InWords {σ : Type} (w : World σ) : Prop := ∀ m, (w.manager m).counters.InWords

theorem World.inWords_of_all {σ : Type} {w : World σ}
    (all : (w.managers.data.all fun x => decide x.counters.InWords) = true) : w.InWords := by
  intro m
  rw [World.manager, Store.get]
  cases made : w.managers.data[m]? with
  | none => decide
  | some x =>
    exact of_decide_eq_true (Array.all_eq_true_iff_forall_mem.mp all x (Array.mem_of_getElem? made))

namespace Machine

open World

variable {σ : Type} {behaviour : Behaviour σ} {c d : State σ} {m : ManagerId}

/-! ### What managers have counted -/

/-- No counter goes down in a step. -/
theorem step_atMost (moved : step behaviour c = some d) (m : ManagerId) :
    (c.world.manager m).counters.AtMost (d.world.manager m).counters := by
  have does := step_does moved
  cases asked : c.task? with
  | none =>
    rw [asked] at does
    exact does m ▸ .refl _
  | some task =>
    obtain ⟨n, task⟩ := task
    rw [asked] at does
    rw [does m]
    split
    case isFalse => exact .refl _
    case isTrue same =>
      subst same
      cases task with
      | make clock =>
        have last : n = c.world.managers.size := by
          cases task?_origin asked with
          | makes last => exact last
          | other plain => exact plain.elim
        have unmade : c.world.manager n = default :=
          Store.get_of_size_le _ (Nat.le_of_eq last.symm)
        rw [unmade]
        exact .refl _
      | _ => exact Task.run_atMost nofun

theorem Reachable.registered_le (reachable : Reachable behaviour c) (m : ManagerId) :
    (c.world.manager m).registry.table.total ≤ (c.world.manager m).counters.connects := by
  obtain ⟨p, memory, n, run⟩ := reachable
  have registrations := (after_agrees run m).1.registrations
  simp only [State.book, World.book, Manager.figures] at registrations
  omega

theorem Reachable.length_le (reachable : Reachable behaviour c) (m : ManagerId) :
    (c.world.manager m).queue.length ≤ (c.world.manager m).counters.queued := by
  have run := reachable.queueRun m
  have kept := congrArg Multiset.card run.conserves
  have queued := run.counts.1
  simp only [Stock.empty, World.stock, Manager.stock, Multiset.coe_nil, zero_add, Multiset.coe_card,
    Multiset.card_add, Array.length_toList] at kept queued
  simp only [Queue.length]
  omega

/-! ### What dispatches and drains under way have counted -/

/-- A walk has counted each of its listeners once at most, and there were no more of them than were
ever connected. -/
structure Bounded (x : Manager) (rest : List ListenerId) (tally : Tally) : Prop where
  invoked : tally.invoked + rest.length ≤ x.counters.connects
  pruned : tally.pruned + rest.length ≤ x.counters.connects

/-- What a dispatch or a drain has counted is bounded by what its manager has. -/
def Control.Within (w : World σ) : Control σ → Prop
  | .walk m _ _ rest tally => Bounded (w.manager m) rest tally
  | .drain m _ _ turns delivered => delivered + turns ≤ (w.manager m).counters.queued + 1
  | _ => True

def Waiting.Within (w : World σ) : Waiting σ → Prop
  | .walk m _ _ _ rest tally => Bounded (w.manager m) rest tally
  | .drain m _ _ turns delivered => delivered + turns ≤ (w.manager m).counters.queued
  | _ => True

structure Within (c : State σ) : Prop where
  control : c.control.Within c.world
  stack : ∀ top ∈ c.stack, top.Within c.world

theorem Bounded.mono {x y : Manager} {rest : List ListenerId} {tally : Tally}
    (bounded : Bounded x rest tally) (atMost : x.counters.AtMost y.counters) :
    Bounded y rest tally :=
  ⟨Nat.le_trans bounded.invoked atMost.connects, Nat.le_trans bounded.pruned atMost.connects⟩

/-- A walk counts one more at most with each listener that it comes to. -/
theorem Bounded.next {x : Manager} {l : ListenerId} {rest : List ListenerId} {tally later : Tally}
    (bounded : Bounded x (l :: rest) tally) (invoked : later.invoked ≤ tally.invoked + 1)
    (pruned : later.pruned ≤ tally.pruned + 1) : Bounded x rest later := by
  obtain ⟨invoked', pruned'⟩ := bounded
  rw [List.length_cons] at invoked' pruned'
  exact ⟨by omega, by omega⟩

theorem Waiting.Within.mono {w w' : World σ} {top : Waiting σ} (within : top.Within w)
    (atMost : ∀ m, (w.manager m).counters.AtMost (w'.manager m).counters) : top.Within w' := by
  cases top with
  | walk m => exact Bounded.mono within (atMost m)
  | drain m => exact Nat.le_trans within (atMost m).queued
  | program | direct => trivial

variable {stack : List (Waiting σ)} {w : World σ}

/-- A dispatch begins with as many listeners as are registered at most. -/
theorem heard_bounded {t : TypeId} {list : List ListenerId} {x : Manager}
    (listed : x.registry.table.list? t = some list)
    (registered : x.registry.table.total ≤ x.counters.connects) : Bounded x list {} := by
  have fits := Nat.le_trans (Table.length_le_total listed) registered
  exact ⟨by rwa [Nat.zero_add], by rwa [Nat.zero_add]⟩

/-- A drain begins with a turn more than there are events at most. -/
theorem begin_within {started : Timestamp} {turns : Nat}
    (queued : (w.manager m).queue.length ≤ (w.manager m).counters.queued)
    (begun : (w.beginDrain m).1 = some (started, turns)) :
    turns ≤ (w.manager m).counters.queued + 1 := by
  cases draining : (w.manager m).queue.draining with
  | true =>
    rw [beginDrain_refused draining] at begun
    cases begun
  | false =>
    obtain ⟨_, _, begins, _⟩ := beginDrain_batch draining
    rw [begins] at begun
    cases begun
    have shorter := (w.manager m).queue.length_batch_le
    omega

theorem Within.step (within : Within c) (moved : step behaviour c = some d)
    (registered : ∀ m, (c.world.manager m).registry.table.total ≤
      (c.world.manager m).counters.connects)
    (queued : ∀ m, (c.world.manager m).queue.length ≤ (c.world.manager m).counters.queued) :
    Within d := by
  have atMost := step_atMost moved
  have kept (top : Waiting σ) (inside : top ∈ c.stack) : top.Within d.world :=
    (within.stack top inside).mono atMost
  cases step_moves moved with
  | finishes | panics | reads | changes | carriesOut | misses | handles | receivesQuit | countsFrame
  | unheard | concludes | refuses | ends | stops => exact ⟨trivial, kept⟩
  | callsListener | dispatches | executes =>
    exact ⟨trivial, List.forall_mem_cons.mpr ⟨trivial, kept⟩⟩
  | heard listed => exact ⟨(heard_bounded listed (registered _)).mono (atMost _), kept⟩
  | prunes =>
    refine ⟨Bounded.mono ?_ (atMost _), kept⟩
    exact Bounded.next within.control (Nat.le_succ _) (Nat.add_le_add_left (Bool.toNat_le _) _)
  | skips =>
    refine ⟨Bounded.mono ?_ (atMost _), kept⟩
    exact Bounded.next within.control (Nat.le_succ _) (Nat.le_succ _)
  | visits =>
    refine ⟨trivial, List.forall_mem_cons.mpr ⟨Bounded.mono ?_ (atMost _), kept⟩⟩
    exact Bounded.next within.control (Nat.le_refl _) (Nat.le_succ _)
  | begins begun =>
    refine ⟨?_, kept⟩
    rw [Control.Within, Nat.zero_add]
    exact Nat.le_trans (begin_within (queued _) begun) (Nat.succ_le_succ (atMost _).queued)
  | takes =>
    refine ⟨trivial, List.forall_mem_cons.mpr ⟨?_, kept⟩⟩
    exact Nat.le_trans (Nat.le_of_succ_le_succ within.control) (atMost _).queued
  | declines =>
    obtain ⟨waiting, beneath⟩ := List.forall_mem_cons.mp kept
    exact ⟨waiting, beneath⟩
  | delivers =>
    obtain ⟨waiting, beneath⟩ := List.forall_mem_cons.mp kept
    refine ⟨?_, beneath⟩
    rw [Control.Within, Nat.add_right_comm]
    exact Nat.succ_le_succ waiting
  | answers | answersCaller | panicsCaller | consumes | unwindsDispatch | unwindsDrain =>
    exact ⟨trivial, (List.forall_mem_cons.mp kept).2⟩

theorem Reachable.within (reachable : Reachable behaviour c) : Within c := by
  obtain ⟨p, memory, run⟩ := reachable
  have whole : Reachable behaviour c ∧ Within c := by
    refine run.invariant (P := fun c => Reachable behaviour c ∧ Within c) ?_
      ⟨⟨p, memory, .refl _⟩, trivial, nofun⟩
    intro x y both moved
    exact ⟨both.1.next (.single moved), both.2.step moved both.1.registered_le both.1.length_le⟩
  exact whole.2

theorem Reachable.spared (reachable : Reachable behaviour c) (m : ManagerId) : Spared m c := by
  obtain ⟨p, memory, run⟩ := reachable
  have begun : Reachable behaviour (start p memory) := ⟨p, memory, .refl _⟩
  exact (run.spared (begun.marked m) nofun).2

/-! ### Steps with words -/

def Control.counts : Control σ → List Nat
  | .walk _ _ _ _ tally => [tally.invoked, tally.pruned]
  | .drain _ _ _ _ delivered => [delivered]
  | _ => []

def Waiting.counts : Waiting σ → List Nat
  | .walk _ _ _ _ _ tally => [tally.invoked, tally.pruned]
  | .drain _ _ _ _ delivered => [delivered]
  | _ => []

/-- What the dispatches and the drains under way have counted. -/
def State.counts (c : State σ) : List Nat := c.control.counts ++ c.stack.flatMap (·.counts)

theorem Bounded.inWords {x : Manager} {rest : List ListenerId} {tally : Tally}
    (bounded : Bounded x rest tally) (words : x.counters.InWords) :
    ∀ n ∈ [tally.invoked, tally.pruned], n < UInt64.size := by
  obtain ⟨invoked, pruned⟩ := bounded
  have connects := words.connects
  intro n counted
  simp only [List.mem_cons, List.not_mem_nil, or_false] at counted
  omega

/-- What is counted beside the counters of managers is a word where those are. -/
theorem Reachable.counts (reachable : Reachable behaviour c) (words : c.world.InWords) :
    ∀ n ∈ c.counts, n < UInt64.size := by
  obtain ⟨within, beneath⟩ := reachable.within
  refine List.forall_mem_append.mpr ⟨?_, List.forall_mem_flatMap.mpr fun top inside => ?_⟩
  · cases control : c.control with
    | walk m frame e rest tally =>
      rw [control] at within
      exact Bounded.inWords within (words m)
    | drain m budget started turns delivered =>
      rw [control] at within
      have left : delivered + turns ≤ (c.world.manager m).counters.queued + 1 := within
      have queued := (words m).queued
      have spare := reachable.spared m turns (by simp [State.turns, control, Control.turns])
      intro n counted
      rw [List.mem_singleton.mp counted]
      omega
    | _ => exact List.forall_mem_nil _
  · have within := beneath top inside
    cases top with
    | walk m frame e l rest tally => exact Bounded.inWords within (words m)
    | drain m budget started turns delivered =>
      have left : delivered + turns ≤ (c.world.manager m).counters.queued := within
      have queued := (words m).queued
      intro n counted
      rw [List.mem_singleton.mp counted]
      omega
    | program | direct => exact List.forall_mem_nil _

/-- A step computes with words alone. -/
structure Faultless (c d : State σ) : Prop where
  /-- What it does with a manager has no fault, and is what it does with numbers without bound. -/
  task : ∀ m task, c.task? = some (m, task) →
    task.checked c.world.roll (c.world.manager m) = .ok (d.world.manager m)
  /-- What it counts beside is a word. -/
  counts : ∀ n ∈ d.counts, n < UInt64.size
  /-- A panic is one that a program has, or that is passed on. -/
  panics : ∀ message, d.control = .outcome (.panicked message) →
    c.control = .program (.panic message) ∨ c.control = .outcome (.panicked message)

theorem step_panics (moved : step behaviour c = some d) {message : String}
    (panicked : d.control = .outcome (.panicked message)) :
    c.control = .program (.panic message) ∨ c.control = .outcome (.panicked message) := by
  cases step_moves moved with
  | panics =>
    cases panicked
    exact .inl rfl
  | unwindsDispatch | unwindsDrain =>
    cases panicked
    exact .inr rfl
  | _ => cases panicked

theorem Reachable.inWords (reachable : Reachable behaviour c) (words : c.world.InWords)
    (m : ManagerId) : (c.world.manager m).InWords where
  counters := words m
  queued := Nat.lt_of_le_of_lt (reachable.length_le m) (words m).queued
  registered := Nat.lt_of_le_of_lt (reachable.registered_le m) (words m).connects

theorem step_faultless (reachable : Reachable behaviour c) (moved : step behaviour c = some d)
    (words : d.world.InWords) : Faultless c d where
  task := fun m task asked => by
    have words' : c.world.InWords := fun n => (words n).mono (step_atMost moved n)
    have does := step_does moved
    rw [asked] at does
    have ran : d.world.manager m = task.run c.world.roll (c.world.manager m) := by
      rw [does m, if_pos rfl]
    rw [ran]
    exact Task.checked_eq (reachable.inWords words' m) (ran ▸ words m)
  counts := (reachable.next (.single moved)).counts words
  panics := fun _ => step_panics moved

/-! ### Runs with words -/

theorem Reaches.atMost (run : Reaches behaviour c d) (m : ManagerId) :
    (c.world.manager m).counters.AtMost (d.world.manager m).counters :=
  run.invariant (P := fun d => (c.world.manager m).counters.AtMost (d.world.manager m).counters)
    (fun _ _ before moved => before.trans (step_atMost moved m)) (.refl _)

/-- No panic comes up where no program has one. -/
theorem Reaches.calm (run : Reaches behaviour c d)
    (begun : ∀ message, c.control ≠ .outcome (.panicked message))
    (programs : ∀ x, Reaches behaviour c x → Reaches behaviour x d →
      ∀ message, x.control ≠ .program (.panic message)) :
    ∀ message, d.control ≠ .outcome (.panicked message) := by
  obtain ⟨n, run⟩ := run
  induction n generalizing c with
  | zero =>
    cases run
    exact begun
  | succ n ih =>
    have whole : Reaches behaviour c d := ⟨n + 1, run⟩
    obtain ⟨x, moved, rest⟩ := Option.bind_eq_some_iff.mp run
    refine ih ?_ (fun y before => programs y ((Reaches.single moved).trans before)) rest
    intro message panicked
    rcases step_panics moved panicked with own | passed
    · exact programs c (.refl c) whole message own
    · exact begun message passed

/-- A run computes with words alone, and panics only where a program does. -/
structure RunsFaultless (behaviour : Behaviour σ) (c d : State σ) : Prop where
  steps : ∀ x y, Reaches behaviour c x → step behaviour x = some y → Reaches behaviour y d →
    Faultless x y
  calm : (∀ message, c.control ≠ .outcome (.panicked message)) →
    (∀ x, Reaches behaviour c x → Reaches behaviour x d →
      ∀ message, x.control ≠ .program (.panic message)) →
    ∀ message, d.control ≠ .outcome (.panicked message)

/-- What can go wrong with what is computed, and what cannot. -/
structure FaultsBeyondTimeOnly (behaviour : Behaviour σ) : Prop where
  /-- A number of seconds is a point in time unless it is 2⁶⁴ or more. -/
  seconds : ∀ seconds : Number.Double,
    (∃ t, Timestamp.ofSeconds seconds = .ok t) ↔ ¬ seconds.value.AtLeast UInt64.size
  /-- Points in time go no further than the longest length, and lengths no lower than zero. -/
  after : ∀ (t : Timestamp) (delay : Duration), (t.after delay).sinceOrigin.toNanos =
    min (t.sinceOrigin.toNanos + delay.toNanos) Duration.longest.toNanos
  since : ∀ t earlier : Timestamp,
    (t.since earlier).toNanos = t.sinceOrigin.toNanos - earlier.sinceOrigin.toNanos
  names : ∀ (bytes : List UInt8) (mask : UInt32), bytes.length < UInt64.size →
    Hash.checkedOneAtATime bytes mask = .ok (Hash.oneAtATime bytes mask)
  /-- The queue is sorted by an order. -/
  order : Std.TransCmp deliveryOrder
  queues : ∀ q : Queue, q.length < UInt64.size → q.Faultless
  registries : ∀ (roll : Roll) (r : Registry), r.table.total < UInt64.size → r.Faultless roll
  runs : ∀ c d, Reachable behaviour c → Reaches behaviour c d → d.world.InWords →
    RunsFaultless behaviour c d

/-- The core has one fault of its own: it makes points in time of numbers of seconds, and there is
none so late as 2⁶⁴ seconds. Apart from that it computes whatever it is asked for as long as there
is no more to count than fits in words. -/
theorem faults_beyond_time_only (behaviour : Behaviour σ) : FaultsBeyondTimeOnly behaviour where
  seconds _ := Timestamp.exists_ofSeconds_iff
  after t delay := Duration.toNanos_saturatingAdd ..
  since t earlier := Duration.toNanos_saturatingSub ..
  names _ mask fits := Hash.checkedOneAtATime_eq fits mask
  order := inferInstance
  queues _ fits := Queue.faultless fits
  registries _ _ fits := Registry.faultless fits
  runs c d reachable run words := by
    refine ⟨fun x y before moved later => ?_, fun begun programs => run.calm begun programs⟩
    exact step_faultless (reachable.next before) moved fun m => (words m).mono (later.atMost m)

/-- A listener queues another event and dispatches one while a drain delivers its first. Both drains
run without a fault, and what was queued and delivered is counted. -/
theorem nested_calls_run_faultless :
    let behaviour : Behaviour Unit := fun l _ => do
      if l = 0 then
        Program.enqueueNew 0 (.plain ⟨8⟩)
        let _ ← Program.dispatchNew 0 (.plain ⟨8⟩)
      pure false
    let host : Program Unit Bool := do
      let m ← Program.ask (.newManager default)
      let first ← Program.ask (.newListener "first" .custom)
      let second ← Program.ask (.newListener "second" .custom)
      let _ ← Program.ask (.tryConnect m first ⟨7⟩)
      let _ ← Program.ask (.tryConnect m second ⟨8⟩)
      Program.enqueueNew m (.plain ⟨7⟩)
      let _ ← Program.ask (.execute m none)
      Program.ask (.execute m none)
    ∃ d, Reaches behaviour (start host ()) d ∧ d.hasReturned true = true ∧
      (d.world.manager 0).counters.toList = [2, 0, 0, 2, 0, 3, 0, 3, 0, 0, 2, 0] ∧
      RunsFaultless behaviour (start host ()) d := by
  intro behaviour host
  have ran : (after behaviour 43 (start host ())).any (fun d => d.hasReturned true &&
      (d.world.manager 0).counters.toList == [2, 0, 0, 2, 0, 3, 0, 3, 0, 0, 2, 0] &&
      d.world.managers.data.all fun x => decide x.counters.InWords) = true := by cbv
  obtain ⟨d, run, told⟩ := (Option.any_eq_true ..).mp ran
  simp only [Bool.and_eq_true, beq_iff_eq] at told
  obtain ⟨⟨returned, counted⟩, words⟩ := told
  have faultless := (faults_beyond_time_only behaviour).runs (start host ()) d
    ⟨host, (), .refl _⟩ ⟨43, run⟩ (World.inWords_of_all words)
  exact ⟨d, ⟨43, run⟩, returned, counted, faultless⟩

/-- An infinite number of seconds is one for which there is no point in time. -/
theorem infinity_is_no_point_in_time :
    ¬ ∀ seconds : Number.Double, ∃ t, Timestamp.ofSeconds seconds = .ok t := by
  intro always
  obtain ⟨t, point⟩ := always ⟨0x7ff0000000000000⟩
  have value : Number.Double.value ⟨0x7ff0000000000000⟩ = .infinite false := by decide +kernel
  rw [Timestamp.ofSeconds, value] at point
  cases point

end Machine
end EventEngine
