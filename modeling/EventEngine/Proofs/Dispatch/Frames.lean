import EventEngine.Proofs.Machine.Beneath
import EventEngine.Proofs.Registry.Lists

/-! Open frames and dispatches under way. Whatever listeners do, the open frames of a manager
are those of the dispatches that have begun on it and have not ended, the newest first. -/
namespace EventEngine

open Manager (Tally)

/-- The operation is about registrations. -/
def Op.registers : Op → Bool
  | .tryConnect .. | .tryDisconnect .. | .clearListeners _ | .pruneStale _ => true
  | _ => false

namespace World

variable {σ : Type} {w w' : World σ} {m n : ManagerId}

def registry (m : ManagerId) (w : World σ) : Registry := (w.manager m).registry

/-- No registry is touched. -/
def KeepsRegistries (w w' : World σ) : Prop := ∀ m, w'.registry m = w.registry m

namespace KeepsRegistries

theorem refl (w : World σ) : KeepsRegistries w w := fun _ => rfl

theorem trans {w'' : World σ} (first : KeepsRegistries w w') (second : KeepsRegistries w' w'') :
    KeepsRegistries w w'' :=
  fun m => (second m).trans (first m)

theorem note {h : Happening} (before : KeepsRegistries w w') : KeepsRegistries w (w'.note h) :=
  before

theorem modifyManager {f : Manager → Manager}
    (kept : (f (w.manager n)).registry = (w.manager n).registry) :
    KeepsRegistries w (w.modifyManager n f) := by
  intro m
  simp only [registry, manager_modifyManager]
  split
  · rename_i same
    rw [← same, kept]
  · rfl

end KeepsRegistries

theorem registry_modifyManager_self (f : Manager → Manager) :
    (w.modifyManager m f).registry m = (f (w.manager m)).registry := by
  simp only [registry, manager_modifyManager, if_true]

theorem registry_modifyManager_ne {f : Manager → Manager} (other : n ≠ m) :
    (w.modifyManager n f).registry m = w.registry m := by
  simp only [registry, manager_modifyManager, if_neg other]

/-- The registry of every manager is altered, or none is. -/
def AltersRegistries (w w' : World σ) : Prop :=
  ∀ m, Registry.Alters w.roll (w.registry m) (w'.registry m)

theorem KeepsRegistries.alters (kept : KeepsRegistries w w') : AltersRegistries w w' :=
  fun m => kept m ▸ .refl _ _

theorem AltersRegistries.note {h : Happening} (before : AltersRegistries w w') :
    AltersRegistries w (w'.note h) :=
  before

theorem AltersRegistries.modifyManager {f : Manager → Manager}
    (altered : Registry.Alters w.roll (w.registry n) (f (w.manager n)).registry) :
    AltersRegistries w (w.modifyManager n f) := by
  intro m
  by_cases same : n = m
  · subst same
    rw [registry_modifyManager_self]
    exact altered
  · rw [registry_modifyManager_ne same]
    exact .refl _ _

theorem tryConnect_alters (n : ManagerId) (l : ListenerId) (t : TypeId) :
    AltersRegistries w (w.tryConnect n l t).2 := by
  have altered : Registry.Alters w.roll (w.registry n)
      ((w.manager n).connect w.roll l t).2.registry := by
    unfold Manager.connect
    split
    · rename_i connected
      exact Registry.connect_alters connected
    · exact .refl _ _
  simp only [tryConnect]
  split
  · rename_i connected
    rw [connected] at altered
    exact .note (.modifyManager altered)
  · rename_i refused
    rw [refused] at altered
    exact .modifyManager altered

theorem tryDisconnect_alters (n : ManagerId) (l : ListenerId) (t : TypeId) :
    AltersRegistries w (w.tryDisconnect n l t).2 := by
  have altered : Registry.Alters w.roll (w.registry n)
      ((w.manager n).disconnect l t).2.registry := by
    unfold Manager.disconnect
    split
    · rename_i disconnected
      exact Registry.disconnect_alters disconnected
    · exact .refl _ _
  simp only [tryDisconnect]
  split
  · rename_i disconnected
    rw [disconnected] at altered
    dsimp only
    split
    · exact .modifyManager altered
    · exact .note (.modifyManager altered)
  · rename_i refused
    rw [refused] at altered
    exact .modifyManager altered

theorem newManager_keeps (clock : Clock) : KeepsRegistries w (w.newManager clock).2 := by
  have made : KeepsRegistries w { w with managers := w.managers.push (.fresh clock) } := by
    intro m
    simp only [registry, manager, Store.get_push]
    split
    · rename_i last
      rw [Store.get_of_size_le _ (Nat.le_of_eq last.symm)]
      rfl
    · rfl
  simp only [newManager]
  split <;> exact made

/-- Only these operations do anything with registrations. -/
theorem carryOut_keeps {op : Op} {result : op.Reply × World σ}
    (carried : w.carryOut op = some result) (apart : op.registers = false) :
    KeepsRegistries w result.2 := by
  cases op with
  | callListener | dispatch | execute => cases carried
  | tryConnect | tryDisconnect | clearListeners | pruneStale => cases apart
  | newManager clock => cases carried; exact newManager_keeps clock
  | releaseManager n =>
    cases carried
    simp only [releaseManager]
    split
    · exact .note (.modifyManager rfl)
    · exact .modifyManager rfl
  | acquireCurrent =>
    cases carried
    simp only [acquireCurrent]
    split
    · exact .modifyManager rfl
    · exact .refl w
  | holdManager | now | advance | setClock | enqueue | dequeue | clearQueue =>
    cases carried
    exact .modifyManager rfl
  | isCurrent | newListener | dropListener | nameOf | roleOf | newEvent | inspect | validate
  | note =>
    cases carried
    exact .refl w

theorem carryOut_alters {op : Op} {result : op.Reply × World σ}
    (carried : w.carryOut op = some result) : AltersRegistries w result.2 := by
  cases registers : op.registers with
  | false => exact (carryOut_keeps carried registers).alters
  | true =>
    cases op with
    | tryConnect n l t => cases carried; exact tryConnect_alters n l t
    | tryDisconnect n l t => cases carried; exact tryDisconnect_alters n l t
    | clearListeners n => cases carried; exact .note (.modifyManager Registry.clear_alters)
    | pruneStale n => cases carried; exact .note (.modifyManager Registry.pruneAll_alters)
    | _ => cases registers

theorem pruneOne_alters (n : ManagerId) (frame : UInt64) (t : TypeId) (l : ListenerId) :
    AltersRegistries w (w.pruneOne n frame t l).2 := by
  simp only [pruneOne]
  split
  · exact .note (.modifyManager Registry.prune_alters)
  · exact .modifyManager Registry.prune_alters

theorem receiveQuit_keeps (l : ListenerId) (e : EventRef) :
    KeepsRegistries w (w.receiveQuit l e).2 := by
  unfold receiveQuit
  split <;> exact .refl w

theorem countFrame_keeps (l : ListenerId) (updates renders : Nat) (e : EventRef) :
    KeepsRegistries w (w.countFrame l updates renders e) := by
  unfold countFrame
  split <;> exact .refl w

theorem beginDrain_keeps (n : ManagerId) : KeepsRegistries w (w.beginDrain n).2 := by
  simp only [beginDrain]
  split
  · exact .refl w
  · split <;> exact .trans (.modifyManager rfl) (.modifyManager rfl)

theorem takeDue_keeps (n : ManagerId) (budget : Option Duration) (started : Timestamp)
    (delivered : Nat) : KeepsRegistries w (w.takeDue n budget started delivered).2 := by
  have read : KeepsRegistries w (w.readClock n).2 := .modifyManager rfl
  simp only [takeDue]
  split
  · exact read
  · split
    · exact read
    · exact read.trans (.modifyManager rfl)

theorem finishDrain_keeps (n : ManagerId) (delivered : Nat) :
    KeepsRegistries w (w.finishDrain n delivered).2 :=
  .trans (.modifyManager rfl) (.modifyManager rfl)

theorem unwindDrain_keeps (n : ManagerId) : KeepsRegistries w (w.unwindDrain n) :=
  .note (.modifyManager rfl)

/-- A frame of a manager is closed. -/
def Closes (n : ManagerId) (frame : UInt64) (w w' : World σ) : Prop :=
  ∀ m, w'.registry m =
    if n = m then ((w.registry m).endDispatch frame).2 else w.registry m

theorem closeFrame_closes (n : ManagerId) (frame : UInt64) :
    Closes n frame w (w.closeFrame n frame).2 := by
  intro m
  by_cases same : n = m
  · subst same
    rw [if_pos rfl]
    exact registry_modifyManager_self _
  · rw [if_neg same]
    exact registry_modifyManager_ne same

theorem conclude_closes (n : ManagerId) (frame : UInt64) (e : EventRef) (consumed : Bool)
    (tally : Tally) : Closes n frame w (w.conclude n frame e consumed tally) := by
  have counted : KeepsRegistries (w.closeFrame n frame).2 (((w.closeFrame n frame).2.modifyManager n
      (·.countDispatch tally consumed (w.closeFrame n frame).1)).note
      (.closed n frame consumed (w.closeFrame n frame).1)) :=
    .note (.modifyManager rfl)
  have concluded : KeepsRegistries (w.closeFrame n frame).2 (w.conclude n frame e consumed tally) := by
    simp only [conclude]
    split <;> split
    · exact .note counted
    · exact counted
    · exact .note (.note counted)
    · exact .note counted
  intro m
  rw [concluded m]
  exact closeFrame_closes n frame m

theorem unwindDispatch_closes (n : ManagerId) (frame : UInt64) :
    Closes n frame w (w.unwindDispatch n frame) :=
  closeFrame_closes n frame

theorem beginDispatch_keeps {e : EventRef}
    (unheard : (w.registry n).table.list? e.typeId = none) :
    KeepsRegistries w (w.beginDispatch n e).2 := by
  have unheard' : ((w.note (.dispatched n e)).manager n).registry.table.list? e.typeId = none :=
    unheard
  simp only [beginDispatch, unheard']
  exact .modifyManager rfl

/-- A dispatch of a category that has a list opens a frame. -/
theorem beginDispatch_opens {e : EventRef} {list : List ListenerId}
    (heard : (w.registry n).table.list? e.typeId = some list) (m : ManagerId) :
    (w.beginDispatch n e).2.registry m =
      if n = m then ((w.registry m).beginDispatch e.typeId).2 else w.registry m := by
  have heard' : ((w.note (.dispatched n e)).manager n).registry.table.list? e.typeId = some list :=
    heard
  simp only [beginDispatch, heard']
  by_cases same : n = m
  · subst same
    rw [if_pos rfl]
    exact registry_modifyManager_self _
  · rw [if_neg same]
    exact registry_modifyManager_ne same

end World

namespace Machine

variable {σ : Type} {behaviour : Behaviour σ} {c d : State σ} {m : ManagerId}

open World

/-- The dispatches under way on a manager: their frames and categories. -/
def Waiting.walks (m : ManagerId) : Waiting σ → List (UInt64 × TypeId)
  | .walk n frame e .. => if n = m then [(frame, e.typeId)] else []
  | _ => []

def Control.walks (m : ManagerId) : Control σ → List (UInt64 × TypeId)
  | .walk n frame e .. => if n = m then [(frame, e.typeId)] else []
  | _ => []

def stackWalks (m : ManagerId) (stack : List (Waiting σ)) : List (UInt64 × TypeId) :=
  stack.flatMap (·.walks m)

/-- The dispatches under way on a manager, the newest first. -/
def State.walks (m : ManagerId) (c : State σ) : List (UInt64 × TypeId) :=
  c.control.walks m ++ stackWalks m c.stack

theorem walks_over (base : List (Waiting σ)) :
    (c.over base).walks m = c.walks m ++ stackWalks m base := by
  simp only [State.walks, State.over, stackWalks, List.flatMap_append, List.append_assoc]

/-- What a step does to the registry of a manager and to the dispatches under way on it. -/
inductive Turns (m : ManagerId) (c d : State σ) : Prop
  | alters (walks : d.walks m = c.walks m)
    (altered : Registry.Alters c.world.roll (c.world.registry m) (d.world.registry m))
  | opens (walks : d.walks m = ((c.world.registry m).nextFrame, t) :: c.walks m)
    (opened : d.world.registry m = ((c.world.registry m).beginDispatch t).2)
  | closes (walks : c.walks m = (frame, t) :: d.walks m)
    (closed : d.world.registry m = ((c.world.registry m).endDispatch frame).2)

/-- A dispatch ends by closing its frame. -/
theorem Turns.ofCloses {n : ManagerId} {frame : UInt64} {t : TypeId}
    (walks : c.walks m = (if n = m then [(frame, t)] else []) ++ d.walks m)
    (closes : Closes n frame c.world d.world) : Turns m c d := by
  have closed := closes m
  by_cases same : n = m
  · rw [if_pos same] at walks closed
    exact .closes walks closed
  · rw [if_neg same] at walks closed
    exact .alters walks.symm (closed ▸ .refl _ _)

/-- Every step alters a registry, opens the frame of a new dispatch or closes that of the
newest one. -/
theorem step_turns (moved : step behaviour c = some d) (m : ManagerId) : Turns m c d := by
  cases step_moves moved with
  | carriesOut carried => exact .alters rfl (carryOut_alters carried m)
  | receivesQuit => exact .alters rfl ((receiveQuit_keeps _ _).alters m)
  | countsFrame => exact .alters rfl ((countFrame_keeps _ _ _ _).alters m)
  | unheard unlisted => exact .alters rfl ((beginDispatch_keeps unlisted).alters m)
  | @heard list n e _ w listed =>
    have opened := beginDispatch_opens listed m
    by_cases same : n = m
    · subst same
      rw [if_pos rfl] at opened
      exact .opens (by simp [State.walks, Control.walks, registry]) opened
    · rw [if_neg same] at opened
      exact .alters (by simp [State.walks, Control.walks, same]) (opened ▸ .refl _ _)
  | prunes => exact .alters rfl (pruneOne_alters _ _ _ _ m)
  | concludes => exact .ofCloses rfl (conclude_closes _ _ _ _ _)
  | refuses | begins => exact .alters rfl ((beginDrain_keeps _).alters m)
  | ends => exact .alters rfl ((finishDrain_keeps _ _).alters m)
  | stops =>
    exact .alters rfl (((takeDue_keeps _ _ _ _).trans (finishDrain_keeps _ _)).alters m)
  | takes => exact .alters rfl ((takeDue_keeps _ _ _ _).alters m)
  | consumes => exact .ofCloses rfl (conclude_closes _ _ _ _ _)
  | unwindsDispatch => exact .ofCloses rfl (unwindDispatch_closes _ _)
  | unwindsDrain => exact .alters rfl ((unwindDrain_keeps _).alters m)
  | _ => exact .alters rfl (.refl _ _)

/-- The open frames are those of the dispatches under way. -/
def Balanced (c : State σ) : Prop :=
  ∀ m, (c.world.registry m).frames.map (fun f => (f.id, f.type)) = c.walks m

theorem Balanced.newest (balanced : Balanced c) (walks : c.walks m = (frame, t) :: others) :
    ∃ f rest, (c.world.registry m).frames = f :: rest ∧ f.id = frame ∧ f.type = t ∧
      rest.map (fun f => (f.id, f.type)) = others := by
  obtain ⟨f, rest, frames, key, older⟩ := List.map_eq_cons_iff.mp ((balanced m).trans walks)
  exact ⟨f, rest, frames, congrArg Prod.fst key, congrArg Prod.snd key, older⟩

theorem Balanced.turn (balanced : Balanced c) (turns : ∀ m, Turns m c d) : Balanced d := by
  intro m
  cases turns m with
  | alters walks altered =>
    obtain ⟨change, frames, notices⟩ := altered.frames
    have keys : (fun f : Frame => (f.id, f.type)) ∘ change = fun f => (f.id, f.type) :=
      funext fun f => Prod.ext (notices f).id (notices f).type
    rw [walks, ← balanced m, frames, List.map_map, keys]
  | opens walks opened =>
    rw [walks, ← balanced m, opened]
    rfl
  | closes walks closed =>
    obtain ⟨f, rest, frames, rfl, rfl, older⟩ := balanced.newest walks
    rw [closed, Registry.endDispatch_newest frames]
    exact older

theorem Balanced.step (balanced : Balanced c) (moved : step behaviour c = some d) :
    Balanced d :=
  balanced.turn (step_turns moved)

/-- At every moment of every run the frames are balanced. -/
theorem Reachable.balanced (reachable : Reachable behaviour c) : Balanced c := by
  obtain ⟨p, memory, run⟩ := reachable
  refine run.invariant (fun _ _ => Balanced.step) fun m => ?_
  simp only [start, World.registry, World.manager, World.initial, Store.get_empty]
  rfl

/-- A dispatch that begins puts its frame on those of the dispatches under way. -/
theorem opened_newest {base : List (Waiting σ)} {w : World σ} {e : EventRef}
    {list : List ListenerId} (heard : (w.registry m).table.list? e.typeId = some list)
    (balanced : Balanced (State.over base ⟨.dispatch m e, [], w⟩)) :
    ((w.beginDispatch m e).2.registry m).frames.reverse[(stackWalks m base).length]? =
      some { id := (w.registry m).nextFrame, type := e.typeId } := by
  have size : (w.registry m).frames.length = (stackWalks m base).length := by
    have sizes := balanced m
    rw [walks_over] at sizes
    simpa [State.walks, Control.walks, stackWalks, State.over] using congrArg List.length sizes
  rw [beginDispatch_opens heard m, if_pos rfl, ← size]
  simp [Registry.beginDispatch]

/-- The frame of a dispatch that has none above it is the newest one. -/
theorem frame_newest {base : List (Waiting σ)} {f : Frame} {frame : UInt64} {t : TypeId}
    (balanced : Balanced (c.over base)) (alone : c.walks m = [(frame, t)])
    (found : (c.world.registry m).frames.reverse[(stackWalks m base).length]? = some f) :
    ∃ others, (c.world.registry m).frames = f :: others := by
  have above := walks_over (c := c) (m := m) base
  rw [alone, List.singleton_append] at above
  obtain ⟨newest, others, frames, _, _, older⟩ := balanced.newest above
  change (c.world.registry m).frames = newest :: others at frames
  have size : others.reverse.length = (stackWalks m base).length := by
    rw [List.length_reverse, ← List.length_map, older]
  rw [frames, List.reverse_cons, ← size] at found
  obtain rfl : newest = f := by simpa using found
  exact ⟨others, frames⟩

/-- The frame of a dispatch that goes on stays where it is when other ones are opened or closed. -/
theorem frame_stays {base : List (Waiting σ)} {f : Frame} (balanced : Balanced (c.over base))
    (found : (c.world.registry m).frames.reverse[(stackWalks m base).length]? = some f)
    (moved : step behaviour c = some d) (apart : d.walks m ≠ c.walks m) (goesOn : d.walks m ≠ []) :
    (d.world.registry m).frames.reverse[(stackWalks m base).length]? = some f := by
  cases step_turns moved m with
  | alters walks => exact (apart walks).elim
  | opens walks opened =>
    rw [opened]
    simp only [Registry.beginDispatch, List.reverse_cons]
    rw [List.getElem?_append_left (List.getElem?_eq_some_iff.mp found).1]
    exact found
  | closes walks closed =>
    have above := walks_over (c := c) (m := m) base
    rw [walks, List.cons_append] at above
    obtain ⟨newest, rest, frames, rfl, _, older⟩ := balanced.newest above
    change (c.world.registry m).frames = newest :: rest at frames
    have size : rest.length = (d.walks m).length + (stackWalks m base).length := by
      rw [← List.length_map, older, List.length_append]
    have inside : (stackWalks m base).length < rest.reverse.length := by
      have := List.length_pos_iff.mpr goesOn
      rw [List.length_reverse]
      omega
    rw [frames, List.reverse_cons, List.getElem?_append_left inside] at found
    rw [closed, Registry.endDispatch_newest frames]
    exact found

end Machine
end EventEngine
