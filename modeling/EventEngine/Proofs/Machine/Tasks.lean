import EventEngine.Proofs.Machine.Becomes
import EventEngine.Proofs.Machine.Moves

/-! What every step of a run does with managers: it does one task with one manager, or leaves all of
them as they are. What holds of a manager is followed through a run task by task. -/
namespace EventEngine

namespace Manager

/-- A dispatch of a category begins. -/
def beginDispatch (t : TypeId) (x : Manager) : Manager :=
  match x.registry.table.list? t with
  | none => x.countUnheard
  | some _ => x.openFrame t

/-- A turn of a drain; the drain ends if nothing is taken. -/
def turn (budget : Option Duration) (started : Timestamp) (x : Manager) : Manager :=
  match x.takeDue budget started with
  | (some _, x) => x
  | (none, x) => x.finishDrain.2

/-- What a step can do with a manager. -/
inductive Task
  | make (clock : Clock)
  | serve (r : Request)
  | release
  /-- It is only looked at. -/
  | look
  | beginDispatch (t : TypeId)
  | pruneOne (t : TypeId) (l : ListenerId)
  | conclude (frame : UInt64) (consumed : Bool) (tally : Tally)
  | closeFrame (frame : UInt64)
  | beginDrain
  | turn (budget : Option Duration) (started : Timestamp)
  | finishDrain
  | endDrain

def Task.run (roll : Roll) : Task → Manager → Manager
  | make clock, _ => .fresh clock
  | serve r, x => r.serve roll x
  | release, x => x.release
  | look, x => x
  | beginDispatch t, x => x.beginDispatch t
  | pruneOne t l, x => x.pruneOne roll t l
  | conclude frame consumed tally, x => x.conclude frame consumed tally
  | closeFrame frame, x => x.closeFrame frame
  | beginDrain, x => x.beginDrain.2
  | turn budget started, x => x.turn budget started
  | finishDrain, x => x.finishDrain.2
  | endDrain, x => x.endDrain

/-- It neither makes a manager nor queues anything. -/
def Task.Plain : Task → Prop
  | make _ | serve (.enqueue _) => False
  | _ => True

/-- It neither makes a manager nor is a request to it. -/
def Task.Inner : Task → Prop
  | make _ | serve _ => False
  | _ => True

theorem Task.Inner.plain {task : Task} (inner : task.Inner) : task.Plain := by
  cases task with
  | make | serve => cases inner
  | _ => trivial

end Manager

open Manager (Task)

/-- The task of an operation that calls no listener. -/
def Op.task? {σ : Type} (w : World σ) : Op → Option (ManagerId × Task)
  | .newManager clock => some (w.managers.size, .make clock)
  | .releaseManager m => some (m, .release)
  | .acquireCurrent => w.processWide.map (·, .serve .hold)
  | .inspect m | .validate m => some (m, .look)
  | op => op.request?.map fun asked => (asked.1, .serve asked.2)

namespace World

variable {σ : Type} {w w' : World σ}

/-- This task, if any, is all that is done with managers. -/
def Does (roll : Roll) (task? : Option (ManagerId × Task)) (w w' : World σ) : Prop :=
  match task? with
  | some (m, task) =>
    ∀ k, w'.manager k = if m = k then task.run roll (w.manager m) else w.manager k
  | none => ∀ k, w'.manager k = w.manager k

theorem newManager_manager (clock : Clock) (k : ManagerId) : (w.newManager clock).2.manager k =
    if w.managers.size = k then .fresh clock else w.manager k := by
  have made : (w.managers.push (.fresh clock)).get k =
      if w.managers.size = k then .fresh clock else w.manager k := by
    rw [Store.get_push, manager]
    simp only [eq_comm]
  simp only [newManager]
  split <;> exact made

theorem releaseManager_manager (m k : ManagerId) : (w.releaseManager m).manager k =
    if m = k then (w.manager m).release else w.manager k := by
  have released : (w.modifyManager m (·.release)).manager k =
      if m = k then (w.manager m).release else w.manager k := by
    rw [manager_modifyManager]
    split
    · rename_i same
      rw [same]
    · rfl
  simp only [releaseManager]
  split <;> exact released

theorem carryOut_does {op : Op} {result : op.Reply × World σ}
    (carried : w.carryOut op = some result) : Does w.roll (op.task? w) w result.2 := by
  have looked (m k : ManagerId) : w.manager k = if m = k then w.manager m else w.manager k := by
    split
    · rename_i same
      rw [same]
    · rfl
  have served {m : ManagerId} {r : Manager.Request} (asks : op.request? = some (m, r)) :
      Does w.roll (some (m, .serve r)) w result.2 :=
    (carryOut_becomes asks carried).managers
  cases op with
  | callListener | dispatch | execute => cases carried
  | newManager clock =>
    cases carried
    exact newManager_manager clock
  | releaseManager m =>
    cases carried
    exact releaseManager_manager m
  | acquireCurrent =>
    cases carried
    simp only [acquireCurrent, Op.task?]
    cases w.processWide with
    | none => exact fun _ => rfl
    | some m => exact (Becomes.modify (f := fun x => { x with holders := x.holders + 1 }) rfl).managers
  | inspect m | validate m =>
    cases carried
    exact looked m
  | holdManager | tryConnect | tryDisconnect | clearListeners | pruneStale | enqueue | dequeue
  | clearQueue | now | advance | setClock => exact served rfl
  | isCurrent | newListener | dropListener | nameOf | roleOf | newEvent | note =>
    cases carried
    exact fun _ => rfl

theorem beginDispatch_does (m : ManagerId) (e : EventRef) :
    Does w.roll (some (m, .beginDispatch e.typeId)) w (w.beginDispatch m e).2 := by
  cases heard : (w.manager m).registry.table.list? e.typeId with
  | none =>
    obtain ⟨w', begun, becomes⟩ := beginDispatch_unheard heard
    simp only [begun, Does, Task.run, Manager.beginDispatch, heard]
    exact becomes.managers
  | some list =>
    obtain ⟨w', begun, becomes⟩ := beginDispatch_heard heard
    simp only [begun, Does, Task.run, Manager.beginDispatch, heard]
    exact becomes.managers

theorem receiveQuit_does (l : ListenerId) (e : EventRef) :
    Does w.roll none w (w.receiveQuit l e).2 := by
  unfold receiveQuit
  split <;> exact fun _ => rfl

theorem countFrame_does (l : ListenerId) (updates renders : Nat) (e : EventRef) :
    Does w.roll none w (w.countFrame l updates renders e) := by
  unfold countFrame
  split <;> exact fun _ => rfl

theorem beginDrain_does (m : ManagerId) :
    Does w.roll (some (m, .beginDrain)) w (w.beginDrain m).2 := by
  obtain ⟨w', begun, becomes⟩ := beginDrain_becomes (w := w) m
  rw [begun]
  exact becomes.managers

theorem takeDue_does {m : ManagerId} {budget : Option Duration} {started : Timestamp}
    {delivered : Nat} {e : EventRef} (taken : (w.takeDue m budget started delivered).1 = some e) :
    Does w.roll (some (m, .turn budget started)) w (w.takeDue m budget started delivered).2 := by
  obtain ⟨w', takes, becomes⟩ := takeDue_becomes (w := w) m budget started delivered
  rw [takes] at taken ⊢
  have ran : (w.manager m).turn budget started = ((w.manager m).takeDue budget started).2 := by
    unfold Manager.turn
    split
    case h_1 same => rw [same]
    case h_2 same =>
      rw [same] at taken
      cases taken
  simp only [Does, Task.run, ran]
  exact becomes.managers

theorem stopTaking_does {m : ManagerId} {budget : Option Duration} {started : Timestamp}
    {delivered : Nat} (stopped : (w.takeDue m budget started delivered).1 = none) :
    Does w.roll (some (m, .turn budget started)) w
      ((w.takeDue m budget started delivered).2.finishDrain m delivered).2 := by
  obtain ⟨w', takes, becomes⟩ := takeDue_becomes (w := w) m budget started delivered
  rw [takes] at stopped ⊢
  obtain ⟨w'', ends, finished⟩ := finishDrain_becomes (w := w') m delivered
  rw [ends]
  have found : w'.manager m = ((w.manager m).takeDue budget started).2 := by
    rw [becomes.managers, if_pos rfl]
  have ran : (w.manager m).turn budget started = (w'.manager m).finishDrain.2 := by
    rw [found]
    unfold Manager.turn
    split
    case h_1 same =>
      rw [same] at stopped
      cases stopped
    case h_2 same => rw [same]
  simp only [Does, Task.run, ran]
  exact (becomes.trans finished).managers

theorem finishDrain_does (m : ManagerId) (delivered : Nat) :
    Does w.roll (some (m, .finishDrain)) w (w.finishDrain m delivered).2 := by
  obtain ⟨w', ends, becomes⟩ := finishDrain_becomes (w := w) m delivered
  rw [ends]
  exact becomes.managers

end World

namespace Machine

open World

variable {σ : Type} {behaviour : Behaviour σ} {c d : State σ}

/-- The task of passing on an outcome. -/
def Waiting.task? (o : Outcome Bool) : Waiting σ → Option (ManagerId × Task)
  | .walk m frame _ _ _ tally =>
    match o with
    | .returned true => some (m, .conclude frame true tally)
    | .returned false => none
    | .panicked _ => some (m, .closeFrame frame)
  | .drain m .. =>
    match o with
    | .returned _ => none
    | .panicked _ => some (m, .endDrain)
  | .program _ | .direct .. => none

/-- The task of the next step. -/
def State.task? : State σ → Option (ManagerId × Task)
  | ⟨.program (.call op _), _, w⟩ => op.task? w
  | ⟨.dispatch m e, _, _⟩ => some (m, .beginDispatch e.typeId)
  | ⟨.walk m frame _ [] tally, _, _⟩ => some (m, .conclude frame false tally)
  | ⟨.walk m _ e (l :: _) _, _, w⟩ => if w.isAlive l then none else some (m, .pruneOne e.typeId l)
  | ⟨.execute m _, _, _⟩ => some (m, .beginDrain)
  | ⟨.drain m _ _ 0 _, _, _⟩ => some (m, .finishDrain)
  | ⟨.drain m budget started (_ + 1) _, _, _⟩ => some (m, .turn budget started)
  | ⟨.outcome o, top :: _, _⟩ => top.task? o
  | _ => none

/-- A step does its task and nothing else with managers. -/
theorem step_does (moved : step behaviour c = some d) :
    Does c.world.roll c.task? c.world d.world := by
  cases step_moves moved with
  | carriesOut carried => exact carryOut_does carried
  | receivesQuit => exact receiveQuit_does _ _
  | countsFrame => exact countFrame_does _ _ _ _
  | unheard | heard => exact beginDispatch_does _ _
  | prunes gone =>
    simp only [State.task?, gone, Bool.false_eq_true, if_false]
    exact (pruneOne_becomes ..).managers
  | skips alive | visits alive =>
    simp only [State.task?, alive, if_true]
    exact fun _ => rfl
  | concludes => exact (conclude_becomes ..).managers
  | refuses | begins => exact beginDrain_does _
  | ends => exact finishDrain_does _ _
  | stops stopped => exact stopTaking_does stopped
  | takes taken => exact takeDue_does taken
  | consumes => exact (conclude_becomes (w := World.consume _ _ _ _ _) ..).managers
  | unwindsDispatch => exact (closeFrame_becomes (w := World.leave _ _) ..).managers
  | unwindsDrain => exact (endDrain_becomes _).managers
  | _ => exact fun _ => rfl

/-- Only programs make managers and ask for anything. -/
theorem inner_of_task? {m : ManagerId} {task : Task} (works : c.task? = some (m, task))
    (other : ∀ p, c.control ≠ .program p) : task.Inner := by
  obtain ⟨control, stack, w⟩ := c
  cases control with
  | program p => exact absurd rfl (other p)
  | walk n frame e rest tally =>
    cases rest with
    | nil =>
      cases works
      trivial
    | cons l rest =>
      simp only [State.task?] at works
      split at works
      · cases works
      · cases works
        trivial
  | drain n budget started turns delivered =>
    cases turns <;>
    · cases works
      trivial
  | outcome o =>
    cases stack with
    | nil => cases works
    | cons top stack =>
      cases top with
      | program | direct => cases works
      | walk | drain =>
        cases o with
        | panicked message =>
          cases works
          trivial
        | returned consumed => cases consumed <;> cases works <;> trivial
  | call | dispatch | execute => cases works <;> trivial

/-- What a step has a task from. -/
inductive Origin (c : State σ) (m : ManagerId) : Task → Prop
  | makes (last : m = c.world.managers.size) : Origin c m (.make clock)
  | queues (asked : c.control = .program (.call (.enqueue m e) next)) :
    Origin c m (.serve (.enqueue e))
  | other (plain : task.Plain) : Origin c m task

/-- Managers are made with the next number, and events are queued by programs. -/
theorem task?_origin {m : ManagerId} {task : Task} (works : c.task? = some (m, task)) :
    Origin c m task := by
  by_cases programs : ∃ p, c.control = .program p
  · obtain ⟨control, stack, w⟩ := c
    obtain ⟨p, rfl⟩ := programs
    cases p with
    | call op next =>
      cases op with
      | newManager clock =>
        cases works
        exact .makes rfl
      | enqueue n e =>
        cases works
        exact .queues rfl
      | acquireCurrent =>
        obtain ⟨n, _, same⟩ := Option.map_eq_some_iff.mp works
        cases same
        exact .other trivial
      | _ => cases works <;> exact .other trivial
    | _ => cases works
  · exact .other (inner_of_task? works fun p same => programs ⟨p, same⟩).plain

end Machine
end EventEngine
