import EventEngine.Proofs.Machine.Acts
import EventEngine.Proofs.Dispatch.Frames

/-! The lives of listeners. A listener that is gone never comes back, only listeners that were
made are registered or called, and no list holds one of them twice. -/
namespace EventEngine

open Manager (Tally)

namespace Role

/-- The role of an engine's own quit listener, while the engine runs or after it was stopped. -/
def Quits (running : Bool) (role : Role) : Prop := ∃ exitCode, role = .quit running exitCode

/-- A quit listener goes on being one, and an engine that was stopped is not started again. -/
def Endures (before after : Role) : Prop :=
  ∀ running, before.Quits running → ∃ later, after.Quits later ∧ (running = false → later = false)

theorem Endures.refl (role : Role) : role.Endures role := fun running quits => ⟨running, quits, id⟩

theorem Endures.trans {first second third : Role} (one : first.Endures second)
    (other : second.Endures third) : first.Endures third := by
  intro running quits
  obtain ⟨middle, quits, stopped⟩ := one running quits
  obtain ⟨later, quits, stopped'⟩ := other middle quits
  exact ⟨later, quits, fun was => stopped' (stopped was)⟩

end Role

namespace World

variable {σ : Type} {w w' w'' : World σ} {l : ListenerId}

theorem isAlive_roll (l : ListenerId) (w : World σ) : w.roll.isAlive l = w.isAlive l := by
  simp only [Roll.isAlive, roll]
  split
  · rename_i alive
    rw [alive]
    rfl
  · rename_i gone
    simpa using gone

theorem isAlive_iff : w.isAlive l = true ↔ (w.listener l).held = true ∨ l ∈ w.running := by
  simp only [isAlive, Bool.or_eq_true, List.contains_iff_mem]

theorem held_known (held : (w.listener l).held = true) : l < w.listeners.size := by
  rcases Nat.lt_or_ge l w.listeners.size with known | unknown
  · exact known
  · rw [listener, Store.get_of_size_le _ unknown] at held
    cases held

/-- Time passes: listeners are made, called and given up, and engines are stopped. -/
structure Ages (w w' : World σ) : Prop where
  size : w.listeners.size ≤ w'.listeners.size
  gone : ∀ l < w.listeners.size, w.isAlive l = false → w'.isAlive l = false
  running : (∀ l ∈ w.running, l < w.listeners.size) → ∀ l ∈ w'.running, l < w'.listeners.size
  roles : ∀ l, (w.listener l).role.Endures (w'.listener l).role

namespace Ages

theorem of_eq (listeners : w'.listeners = w.listeners) (running : w'.running = w.running) :
    Ages w w' where
  size := Nat.le_of_eq (congrArg Store.size listeners.symm)
  gone := fun l _ gone => by
    simp only [isAlive, listener, listeners, running] at gone ⊢
    exact gone
  running := by
    rw [listeners, running]
    exact id
  roles := fun l => by
    rw [listener, listener, listeners]
    exact .refl _

theorem refl (w : World σ) : Ages w w := of_eq rfl rfl

theorem trans (first : Ages w w') (second : Ages w' w'') : Ages w w'' where
  size := Nat.le_trans first.size second.size
  gone := fun l known gone =>
    second.gone l (Nat.lt_of_lt_of_le known first.size) (first.gone l known gone)
  running := fun known => second.running (first.running known)
  roles := fun l => (first.roles l).trans (second.roles l)

theorem note {h : Happening} (before : Ages w w') : Ages w (w'.note h) :=
  before.trans (of_eq rfl rfl)

theorem modifyManager {m : ManagerId} {f : Manager → Manager} (before : Ages w w') :
    Ages w (w'.modifyManager m f) :=
  before.trans (of_eq rfl rfl)

theorem enter (alive : w.isAlive l = true) : Ages w (w.enter l) where
  size := Nat.le_refl _
  gone := fun k _ gone => by
    have different : k ≠ l := fun same => by
      rw [same, alive] at gone
      cases gone
    simp only [isAlive, World.enter, listener, Bool.or_eq_false_iff] at gone ⊢
    refine ⟨gone.1, ?_⟩
    rw [List.contains_cons, gone.2]
    simpa using different
  running := fun known k entered => by
    rcases List.mem_cons.mp entered with rfl | before
    · exact (isAlive_iff.mp alive).elim held_known (known k)
    · exact known k before
  roles := fun _ => .refl _

theorem leave (w : World σ) (l : ListenerId) : Ages w (w.leave l) where
  size := Nat.le_refl _
  gone := fun k _ gone => by
    rw [← Bool.not_eq_true, isAlive_iff] at gone ⊢
    exact fun alive => gone (alive.imp_right List.mem_of_mem_erase)
  running := fun known k running => known k (List.mem_of_mem_erase running)
  roles := fun _ => .refl _

/-- A listener that is changed is not taken hold of again. -/
theorem modifyListener {f : Listener → Listener}
    (dropped : ∀ listener, (f listener).held = true → listener.held = true)
    (endures : (w.listener l).role.Endures (f (w.listener l)).role) :
    Ages w (w.modifyListener l f) where
  size := Store.size_le_modify ..
  gone := fun k _ gone => by
    rw [← Bool.not_eq_true, isAlive_iff] at gone ⊢
    refine fun alive => gone (alive.imp_left fun held => ?_)
    simp only [listener, World.modifyListener, Store.get_modify] at held
    split at held
    · exact dropped _ held
    · exact held
  running := fun known k running => Nat.lt_of_lt_of_le (known k running) (Store.size_le_modify ..)
  roles := fun k => by
    simp only [listener, World.modifyListener, Store.get_modify]
    split
    · rename_i same
      exact same ▸ endures
    · exact .refl _

theorem newListener (name : String) (role : Role) : Ages w (w.newListener name role).2 where
  size := by
    simp only [World.newListener, Store.size_push]
    omega
  gone := fun k known gone => by
    rw [← Bool.not_eq_true, isAlive_iff] at gone ⊢
    refine fun alive => gone (alive.imp_left fun held => ?_)
    simp only [listener, World.newListener, Store.get_push, if_neg (Nat.ne_of_lt known)] at held
    exact held
  running := fun known k running => by
    simp only [World.newListener, Store.size_push]
    exact Nat.lt_succ_of_lt (known k running)
  roles := fun k => by
    simp only [listener, World.newListener, Store.get_push]
    split
    · rename_i last
      rw [Store.get_of_size_le _ (Nat.le_of_eq last.symm)]
      rintro _ ⟨_, unwritten⟩
      cases unwritten
    · exact .refl _

end Ages

theorem carryOut_ages {op : Op} {result : op.Reply × World σ}
    (carried : w.carryOut op = some result) : Ages w result.2 := by
  cases op with
  | callListener | dispatch | execute => cases carried
  | newListener name role => cases carried; exact .newListener name role
  | dropListener l =>
    cases carried
    exact .modifyListener (fun _ held => absurd held (by simp)) (.refl _)
  | newManager clock =>
    cases carried
    simp only [newManager]
    split <;> exact .of_eq rfl rfl
  | releaseManager m =>
    cases carried
    simp only [releaseManager]
    split <;> exact .of_eq rfl rfl
  | acquireCurrent =>
    cases carried
    simp only [acquireCurrent]
    split <;> exact .of_eq rfl rfl
  | tryConnect m l t =>
    cases carried
    simp only [tryConnect]
    split <;> exact .of_eq rfl rfl
  | tryDisconnect m l t =>
    cases carried
    simp only [tryDisconnect]
    split
    · dsimp only
      split <;> exact .of_eq rfl rfl
    · exact .of_eq rfl rfl
  | _ =>
    cases carried
    exact .of_eq rfl rfl

theorem receiveQuit_ages (l : ListenerId) (e : EventRef) : Ages w (w.receiveQuit l e).2 := by
  unfold receiveQuit
  split
  · refine (Ages.refl w).note.trans (.modifyListener (fun _ held => held) ?_)
    exact fun _ _ => ⟨false, ⟨_, rfl⟩, fun _ => rfl⟩
  · exact .refl w

theorem countFrame_ages {updates renders : Nat} (role : (w.listener l).role = .frames updates renders)
    (e : EventRef) : Ages w (w.countFrame l updates renders e) := by
  have other (after : Role) : (w.listener l).role.Endures after := by
    rintro _ ⟨_, quits⟩
    rw [role] at quits
    cases quits
  unfold countFrame
  split
  · exact .modifyListener (fun _ held => held) (other _)
  · exact .modifyListener (fun _ held => held) (other _)
  · exact .refl w

theorem beginDispatch_ages (m : ManagerId) (e : EventRef) : Ages w (w.beginDispatch m e).2 := by
  simp only [beginDispatch]
  split
  · exact (Ages.refl w).note.modifyManager.note
  · exact (Ages.refl w).note.modifyManager.note

theorem pruneOne_ages (m : ManagerId) (frame : UInt64) (t : TypeId) (l : ListenerId) :
    Ages w (w.pruneOne m frame t l).2 := by
  simp only [pruneOne]
  split
  · exact (Ages.refl w).modifyManager.note
  · exact (Ages.refl w).modifyManager

theorem closeFrame_ages (m : ManagerId) (frame : UInt64) : Ages w (w.closeFrame m frame).2 :=
  (Ages.refl w).modifyManager

theorem conclude_ages (m : ManagerId) (frame : UInt64) (e : EventRef) (consumed : Bool)
    (tally : Tally) : Ages w (w.conclude m frame e consumed tally) := by
  have closed : Ages w (((w.closeFrame m frame).2.modifyManager m
      (·.countDispatch tally consumed (w.closeFrame m frame).1)).note
      (.closed m frame consumed (w.closeFrame m frame).1)) :=
    (closeFrame_ages m frame).modifyManager.note
  simp only [conclude]
  split <;> split
  · exact closed.note
  · exact closed
  · exact closed.note.note
  · exact closed.note

theorem readClock_ages (m : ManagerId) : Ages w (w.readClock m).2 :=
  (Ages.refl w).modifyManager

theorem beginDrain_ages (m : ManagerId) : Ages w (w.beginDrain m).2 := by
  simp only [beginDrain]
  split
  · exact (Ages.refl w).note
  · split
    · exact (Ages.refl w).modifyManager.note.note.trans (readClock_ages m)
    · exact (Ages.refl w).modifyManager.note.trans (readClock_ages m)

theorem takeDue_ages (m : ManagerId) (budget : Option Duration) (started : Timestamp)
    (delivered : Nat) : Ages w (w.takeDue m budget started delivered).2 := by
  have read := readClock_ages (w := w) m
  unfold takeDue
  dsimp only
  split
  · exact read.note
  · split
    · exact read
    · exact read.modifyManager.note

theorem finishDrain_ages (m : ManagerId) (delivered : Nat) :
    Ages w (w.finishDrain m delivered).2 :=
  (Ages.refl w).modifyManager.modifyManager.note

/-- Only listeners that were made are called or registered, each once in a list. -/
structure Settled (w : World σ) : Prop where
  running : ∀ l ∈ w.running, l < w.listeners.size
  listed : ∀ m t, ∀ l ∈ (w.registry m).listed t, l < w.listeners.size
  nodup : ∀ m t, ((w.registry m).listed t).Nodup

theorem Settled.known (settled : Settled w) (alive : w.isAlive l = true) :
    l < w.listeners.size :=
  (isAlive_iff.mp alive).elim held_known (settled.running l)

end World

namespace Machine

variable {σ : Type} {behaviour : Behaviour σ} {c d : State σ} {w w' : World σ} {m : ManagerId}

open World

theorem Acts.ages (act : Acts w w') : Ages w w' := by
  cases act with
  | rests => exact .refl w
  | remembers => exact .of_eq rfl rfl
  | carriesOut carried => exact carryOut_ages carried
  | enters alive => exact .enter alive
  | leaves => exact .leave w _
  | receivesQuit => exact receiveQuit_ages _ _
  | countsFrame role => exact countFrame_ages role _
  | beginsDispatch => exact beginDispatch_ages _ _
  | prunes => exact pruneOne_ages _ _ _ _
  | invokes alive =>
    exact (Ages.refl w).note.trans (.enter alive)
  | concludes => exact conclude_ages _ _ _ _ _
  | consumes =>
    exact ((Ages.refl w).note.trans (.leave _ _)).trans (conclude_ages _ _ _ _ _)
  | unwindsDispatch => exact ((Ages.leave w _).trans (closeFrame_ages _ _)).note
  | beginsDrain => exact beginDrain_ages _
  | takes => exact takeDue_ages _ _ _ _
  | stopsTaking => exact (takeDue_ages _ _ _ _).trans (finishDrain_ages _ _)
  | finishesDrain => exact finishDrain_ages _ _
  | unwindsDrain => exact (Ages.refl w).modifyManager.note

/-- Opening and closing frames leaves the lists as they are. -/
theorem Turns.listed (turns : Turns m c d) (t : TypeId) :
    (∀ l ∈ (d.world.registry m).listed t,
      l ∈ (c.world.registry m).listed t ∨ c.world.isAlive l = true) ∧
    (((c.world.registry m).listed t).Nodup → ((d.world.registry m).listed t).Nodup) := by
  cases turns with
  | alters _ altered =>
    refine ⟨fun l isListed => ?_, altered.nodup t⟩
    rw [← isAlive_roll]
    exact altered.listed t l isListed
  | opens _ opened =>
    rw [opened]
    exact ⟨fun _ isListed => .inl isListed, id⟩
  | closes _ closed =>
    rw [closed]
    exact ⟨fun _ isListed => .inl isListed, id⟩

theorem Settled.turn (settled : Settled c.world) (ages : Ages c.world d.world)
    (turns : ∀ m, Turns m c d) : Settled d.world := by
  refine ⟨ages.running settled.running, fun m t l isListed => ?_, fun m t => ?_⟩
  · refine Nat.lt_of_lt_of_le ?_ ages.size
    rcases ((turns m).listed t).1 l isListed with before | alive
    · exact settled.listed m t l before
    · exact settled.known alive
  · exact ((turns m).listed t).2 (settled.nodup m t)

theorem Settled.step (settled : Settled c.world) (moved : step behaviour c = some d) :
    Settled d.world :=
  Settled.turn settled (step_acts moved).ages (step_turns moved)

/-- At every moment of every run the listeners are settled. -/
theorem Reachable.settled (reachable : Reachable behaviour c) : Settled c.world := by
  obtain ⟨p, memory, run⟩ := reachable
  refine run.invariant (P := fun c => Settled c.world) (fun _ _ => Settled.step) ?_
  have nobody (m : ManagerId) (t : TypeId) :
      ((start p memory).world.registry m).listed t = [] := by
    simp only [start, registry, manager, World.initial, Store.get_empty]
    rfl
  refine ⟨fun l running => ?_, fun m t l isListed => ?_, fun m t => ?_⟩
  · cases running
  · rw [nobody] at isListed
    cases isListed
  · rw [nobody]
    exact .nil

end Machine
end EventEngine
