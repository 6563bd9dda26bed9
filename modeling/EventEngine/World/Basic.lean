import EventEngine.Journal
import EventEngine.Manager.Basic
import EventEngine.Store

/-! Everything that listeners can touch: the managers and the process-wide one among
them, the listeners and which of them are being called, the events made so far, and
the journal of what happened. `σ` is memory of the host's own. -/
namespace EventEngine

inductive Role
  | custom
  /-- Stops its engine when a quit event arrives. -/
  | quit (running : Bool) (exitCode : Int32)
  | frames (updates renders : Nat)
  deriving DecidableEq, Repr, Inhabited

structure Listener where
  name : String
  role : Role
  /-- Whether somebody besides its running calls keeps it. -/
  held : Bool
  deriving DecidableEq, Repr, Inhabited

structure World (σ : Type) where
  managers : Store Manager
  listeners : Store Listener
  /-- The listeners being called, innermost first. -/
  running : List ListenerId
  /-- The manager that was installed as the process-wide one. -/
  current : Option ManagerId
  nextEvent : Nat
  journal : Array Happening
  memory : σ

namespace World

variable {σ : Type}

def initial (memory : σ) : World σ := ⟨.empty, .empty, [], none, 0, #[], memory⟩

def note (h : Happening) (w : World σ) : World σ := { w with journal := w.journal.push h }

def manager (m : ManagerId) (w : World σ) : Manager := w.managers.get m

def modifyManager (m : ManagerId) (f : Manager → Manager) (w : World σ) : World σ :=
  { w with managers := w.managers.modify m f }

def setManager (m : ManagerId) (manager : Manager) (w : World σ) : World σ :=
  w.modifyManager m fun _ => manager

def listener (l : ListenerId) (w : World σ) : Listener := w.listeners.get l

def modifyListener (l : ListenerId) (f : Listener → Listener) (w : World σ) : World σ :=
  { w with listeners := w.listeners.modify l f }

@[simp] theorem manager_note (h : Happening) (m : ManagerId) (w : World σ) :
    (w.note h).manager m = w.manager m := rfl

@[simp] theorem journal_note (h : Happening) (w : World σ) :
    (w.note h).journal = w.journal.push h := rfl

@[simp] theorem manager_modifyManager (m n : ManagerId) (f : Manager → Manager) (w : World σ) :
    (w.modifyManager m f).manager n = if m = n then f (w.manager n) else w.manager n :=
  Store.get_modify ..

@[simp] theorem journal_modifyManager (m : ManagerId) (f : Manager → Manager) (w : World σ) :
    (w.modifyManager m f).journal = w.journal := rfl

@[simp] theorem manager_setManager (m n : ManagerId) (manager : Manager) (w : World σ) :
    (w.setManager m manager).manager n = if m = n then manager else w.manager n :=
  manager_modifyManager ..

@[simp] theorem journal_setManager (m : ManagerId) (manager : Manager) (w : World σ) :
    (w.setManager m manager).journal = w.journal := rfl

@[simp] theorem manager_modifyListener (l : ListenerId) (f : Listener → Listener) (m : ManagerId)
    (w : World σ) : (w.modifyListener l f).manager m = w.manager m := rfl

@[simp] theorem journal_modifyListener (l : ListenerId) (f : Listener → Listener) (w : World σ) :
    (w.modifyListener l f).journal = w.journal := rfl

/-- A listener lives while it is held or being called. -/
def isAlive (l : ListenerId) (w : World σ) : Bool := (w.listener l).held || w.running.contains l

def roll (w : World σ) : Roll := fun l => if w.isAlive l then some (w.listener l).name else none

def enter (l : ListenerId) (w : World σ) : World σ := { w with running := l :: w.running }

def leave (l : ListenerId) (w : World σ) : World σ := { w with running := w.running.erase l }

/-! ### Managers and the process-wide one -/

/-- The installed manager, as long as it lives. -/
def processWide (w : World σ) : Option ManagerId :=
  w.current.filter fun m => (w.manager m).isAlive

/-- A new manager is installed as the process-wide one unless another one lives. -/
def newManager (clock : Clock) (w : World σ) : ManagerId × World σ :=
  let m := w.managers.size
  let made := { w with managers := w.managers.push (.fresh clock) }
  match w.processWide with
  | some _ => (m, made.note (.shadowed m))
  | none => (m, { made with current := some m }.note (.installed m))

def holdManager (m : ManagerId) (w : World σ) : World σ :=
  w.modifyManager m fun manager => { manager with holders := manager.holders + 1 }

/-- With its last holder the manager is gone, and with it the process-wide one if it
was that. -/
def releaseManager (m : ManagerId) (w : World σ) : World σ :=
  let w := w.modifyManager m fun manager => { manager with holders := manager.holders - 1 }
  if (w.manager m).isAlive = false ∧ w.current = some m then
    { w with current := none }.note (.uninstalled m)
  else w

/-- The process-wide manager, held for the caller. -/
def acquireCurrent (w : World σ) : Option ManagerId × World σ :=
  match w.processWide with
  | some m => (some m, w.holdManager m)
  | none => (none, w)

/-! ### Listeners and events -/

def newListener (name : String) (role : Role) (w : World σ) : ListenerId × World σ :=
  (w.listeners.size, { w with listeners := w.listeners.push ⟨name, role, true⟩ })

def dropListener (l : ListenerId) (w : World σ) : Bool × World σ :=
  ((w.listener l).held, w.modifyListener l fun listener => { listener with held := false })

def newEvent (e : Event) (w : World σ) : EventRef × World σ :=
  (⟨w.nextEvent, e⟩, { w with nextEvent := w.nextEvent + 1 })

/-! ### Steps of a manager -/

def tryConnect (m : ManagerId) (l : ListenerId) (t : TypeId) (w : World σ) :
    Except RegistrationError Unit × World σ :=
  let roll := w.roll
  match (w.manager m).connect roll l t with
  | (.ok (), manager) =>
    (.ok (), (w.setManager m manager).note (.connected m l t (roll.describe l)))
  | (.error e, manager) => (.error e, w.setManager m manager)

def tryDisconnect (m : ManagerId) (l : ListenerId) (t : TypeId) (w : World σ) :
    Except RegistrationError Nat × World σ :=
  match (w.manager m).disconnect l t with
  | (.ok removed, manager) =>
    let w := w.setManager m manager
    (.ok removed,
      if removed = 0 then w else w.note (.disconnected m l t (w.roll.describe l)))
  | (.error e, manager) => (.error e, w.setManager m manager)

def clearListeners (m : ManagerId) (w : World σ) : World σ :=
  let (count, manager) := (w.manager m).clearListeners
  (w.setManager m manager).note (.cleared m count)

def pruneStale (m : ManagerId) (w : World σ) : Nat × World σ :=
  let (removed, manager) := (w.manager m).pruneStale w.roll
  (removed, (w.setManager m manager).note (.prunedAll m removed))

def enqueue (m : ManagerId) (e : EventRef) (w : World σ) : World σ :=
  (w.modifyManager m (·.enqueue e)).note (.queued m e)

def dequeue (m : ManagerId) (e : EventRef) (all : Bool) (w : World σ) : World σ :=
  let (count, manager) := (w.manager m).dequeue e all
  (w.setManager m manager).note
    (.dequeued m e all count ((w.manager m).queue.cancelled e all))

def clearQueue (m : ManagerId) (w : World σ) : Nat × World σ :=
  let (count, manager) := (w.manager m).clearQueue
  (count, (w.setManager m manager).note (.dropped m count (w.manager m).queue.toList))

def readClock (m : ManagerId) (w : World σ) : Timestamp × World σ :=
  let (reading, manager) := (w.manager m).readClock
  (reading, w.setManager m manager)

def modifyClock (m : ManagerId) (f : Clock → Clock) (w : World σ) : World σ :=
  w.modifyManager m fun manager => { manager with clock := f manager.clock }

end World
end EventEngine
