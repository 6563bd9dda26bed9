import Mathlib
import EventEngine.Engine
import EventEngine.Proofs.Machine.Acts
import EventEngine.Proofs.Machine.Becomes
import EventEngine.Proofs.Machine.Yields

/-! The process-wide manager. A manager that is made while none is process-wide is from then on,
until its last holder gives it up. No other manager ever takes its place, and a quit request goes
to it alone. -/
namespace EventEngine

open Manager (Tally)

namespace World

variable {σ : Type} {w w' w'' : World σ} {m n : ManagerId}

/-- The managers stay in the hands they are in, and the slot stays. -/
structure KeepsHolders (w w' : World σ) : Prop where
  current : w'.current = w.current
  size : w.managers.size ≤ w'.managers.size
  holders : ∀ m, (w'.manager m).holders = (w.manager m).holders

namespace KeepsHolders

theorem of_eq (current : w'.current = w.current) (managers : w'.managers = w.managers) :
    KeepsHolders w w' where
  current := current
  size := Nat.le_of_eq (congrArg Store.size managers.symm)
  holders := fun m => by rw [manager, manager, managers]

theorem refl (w : World σ) : KeepsHolders w w := of_eq rfl rfl

theorem trans (first : KeepsHolders w w') (second : KeepsHolders w' w'') : KeepsHolders w w'' where
  current := second.current.trans first.current
  size := Nat.le_trans first.size second.size
  holders := fun m => (second.holders m).trans (first.holders m)

theorem note {h : Happening} (before : KeepsHolders w w') : KeepsHolders w (w'.note h) :=
  before.trans (of_eq rfl rfl)

theorem ofBecomes {x : Manager} (becomes : Becomes n x w w')
    (kept : x.holders = (w.manager n).holders) : KeepsHolders w w' where
  current := congrArg Surroundings.current becomes.surroundings
  size := by
    rw [becomes.size]
    exact Nat.le_max_left ..
  holders := fun m => by
    rw [becomes.managers]
    split
    · rename_i same
      rw [← same, kept]
    · rfl

end KeepsHolders

theorem receiveQuit_keepsHolders (l : ListenerId) (e : EventRef) :
    KeepsHolders w (w.receiveQuit l e).2 := by
  unfold receiveQuit
  split <;> exact .of_eq rfl rfl

theorem countFrame_keepsHolders (l : ListenerId) (updates renders : Nat) (e : EventRef) :
    KeepsHolders w (w.countFrame l updates renders e) := by
  unfold countFrame
  split <;> exact .of_eq rfl rfl

theorem beginDispatch_keepsHolders (n : ManagerId) (e : EventRef) :
    KeepsHolders w (w.beginDispatch n e).2 := by
  cases listed : (w.manager n).registry.table.list? e.typeId with
  | none =>
    obtain ⟨w', begun, becomes⟩ := beginDispatch_unheard listed
    rw [begun]
    exact .ofBecomes becomes rfl
  | some list =>
    obtain ⟨w', begun, becomes⟩ := beginDispatch_heard listed
    rw [begun]
    exact .ofBecomes becomes rfl

theorem beginDrain_keepsHolders (n : ManagerId) : KeepsHolders w (w.beginDrain n).2 := by
  obtain ⟨w', begun, becomes⟩ := beginDrain_becomes (w := w) n
  rw [begun]
  refine .ofBecomes becomes ?_
  unfold Manager.beginDrain
  split <;> rfl

theorem takeDue_keepsHolders (n : ManagerId) (budget : Option Duration) (started : Timestamp)
    (delivered : Nat) : KeepsHolders w (w.takeDue n budget started delivered).2 := by
  obtain ⟨w', taken, becomes⟩ := takeDue_becomes (w := w) n budget started delivered
  rw [taken]
  refine .ofBecomes becomes ?_
  simp only [Manager.takeDue]
  split
  · rfl
  · split <;> rfl

theorem finishDrain_keepsHolders (n : ManagerId) (delivered : Nat) :
    KeepsHolders w (w.finishDrain n delivered).2 := by
  obtain ⟨w', finished, becomes⟩ := finishDrain_becomes (w := w) n delivered
  rw [finished]
  exact .ofBecomes becomes rfl

theorem conclude_keepsHolders (n : ManagerId) (frame : UInt64) (e : EventRef) (consumed : Bool)
    (tally : Tally) : KeepsHolders w (w.conclude n frame e consumed tally) :=
  .ofBecomes (conclude_becomes ..) rfl

theorem consume_keepsHolders (n : ManagerId) (frame : UInt64) (l : ListenerId) (e : EventRef) :
    KeepsHolders w (w.consume n frame l e) :=
  .of_eq rfl rfl

theorem unwindDispatch_keepsHolders (l : ListenerId) (n : ManagerId) (frame : UInt64) :
    KeepsHolders w ((w.leave l).unwindDispatch n frame) :=
  have left : KeepsHolders w (w.leave l) := .of_eq rfl rfl
  (left.trans (.ofBecomes (closeFrame_becomes ..) rfl)).note

theorem serve_holders {request : Manager.Request} (roll : Roll) (x : Manager)
    (other : request ≠ .hold) : (request.serve roll x).holders = x.holders := by
  cases request with
  | hold => exact (other rfl).elim
  | connect =>
    simp only [Manager.Request.serve, Manager.connect]
    split <;> rfl
  | disconnect =>
    simp only [Manager.Request.serve, Manager.disconnect]
    split <;> rfl
  | _ => rfl

/-- Operations that do not make managers, copy handles or give them up. -/
theorem carryOut_keepsHolders {op : Op} {result : op.Reply × World σ}
    (carried : w.carryOut op = some result) (makes : ∀ clock, op ≠ .newManager clock)
    (holds : ∀ n, op ≠ .holdManager n) (acquires : op ≠ .acquireCurrent)
    (releases : ∀ n, op ≠ .releaseManager n) : KeepsHolders w result.2 := by
  have serves {n : ManagerId} {request : Manager.Request} (asks : op.request? = some (n, request))
      (other : request ≠ .hold) : KeepsHolders w result.2 :=
    .ofBecomes (carryOut_becomes asks carried) (serve_holders _ _ other)
  cases op with
  | callListener | dispatch | execute => cases carried
  | newManager clock => exact (makes clock rfl).elim
  | holdManager n => exact (holds n rfl).elim
  | acquireCurrent => exact (acquires rfl).elim
  | releaseManager n => exact (releases n rfl).elim
  | tryConnect | tryDisconnect | clearListeners | pruneStale | enqueue | dequeue | clearQueue | now
  | advance | setClock => exact serves rfl nofun
  | isCurrent | newListener | dropListener | nameOf | roleOf | newEvent | inspect | validate
  | note =>
    cases carried
    exact .of_eq rfl rfl

theorem manager_newManager (clock : Clock) (m : ManagerId) :
    (w.newManager clock).2.manager m =
      if m = w.managers.size then .fresh clock else w.manager m := by
  simp only [newManager]
  split <;> exact Store.get_push ..

theorem holders_holdManager (n m : ManagerId) : ((w.holdManager n).manager m).holders =
    if n = m then (w.manager m).holders + 1 else (w.manager m).holders := by
  rw [holdManager, manager_modifyManager]
  split <;> rfl

theorem manager_releaseManager (n m : ManagerId) : (w.releaseManager n).manager m =
    if n = m then { w.manager m with holders := (w.manager m).holders - 1 } else w.manager m := by
  simp only [releaseManager]
  split <;> exact manager_modifyManager ..

theorem size_le_releaseManager (n : ManagerId) :
    w.managers.size ≤ (w.releaseManager n).managers.size := by
  simp only [releaseManager]
  split <;> exact Store.size_le_modify ..

theorem current_releaseManager (n : ManagerId) : (w.releaseManager n).current =
    if w.current = some n ∧ (w.manager n).holders ≤ 1 then none else w.current := by
  have last : (w.manager n).holders - 1 = 0 ↔ (w.manager n).holders ≤ 1 :=
    Nat.sub_eq_zero_iff_le
  simp only [releaseManager, manager_modifyManager, if_true, Manager.isAlive, bne_eq_false_iff_eq,
    last]
  split
  · rename_i leaves
    exact (if_pos leaves.symm).symm
  · rename_i stays
    exact (if_neg fun leaves => stays leaves.symm).symm

/-! ### The slot -/

/-- Of the managers that were installed the one that lives, if there is one, is in the slot. -/
structure SlotHolds (installed : List ManagerId) (w : World σ) : Prop where
  known : ∀ m ∈ installed, m < w.managers.size
  current : ∀ m, w.current = some m ↔ m ∈ installed ∧ (w.manager m).isAlive = true

namespace SlotHolds

variable {installed : List ManagerId}

theorem processWide (slot : SlotHolds installed w) : w.processWide = w.current := by
  rw [World.processWide]
  cases current : w.current with
  | none => rfl
  | some m => rw [Option.filter_some, if_pos ((slot.current m).mp current).2]

theorem keep (slot : SlotHolds installed w) (kept : KeepsHolders w w') :
    SlotHolds installed w' where
  known := fun m inside => Nat.lt_of_lt_of_le (slot.known m inside) kept.size
  current := fun m => by
    rw [kept.current, slot.current, Manager.isAlive, Manager.isAlive, kept.holders]

/-- A handle of a living manager is copied. -/
theorem hold (slot : SlotHolds installed w) (alive : (w.manager n).isAlive = true) :
    SlotHolds installed (w.holdManager n) where
  known := fun m inside => Nat.lt_of_lt_of_le (slot.known m inside) (Store.size_le_modify ..)
  current := fun m => by
    have same : ((w.holdManager n).manager m).isAlive = (w.manager m).isAlive := by
      rw [Manager.isAlive, holders_holdManager]
      split
      · rename_i same
        rw [← same, alive]
        rfl
      · rfl
    rw [same]
    exact slot.current m

/-- Who asks for the process-wide manager is told what is in the slot. -/
theorem acquired (slot : SlotHolds installed w) : w.acquireCurrent.1 = w.current := by
  rw [acquireCurrent, slot.processWide]
  split
  · rename_i n current
    exact current.symm
  · rename_i current
    exact current.symm

theorem acquire (slot : SlotHolds installed w) :
    SlotHolds installed w.acquireCurrent.2 ∧ w.acquireCurrent.2.current = w.current := by
  rw [acquireCurrent, slot.processWide]
  split
  · rename_i n current
    exact ⟨slot.hold ((slot.current n).mp current).2, rfl⟩
  · exact ⟨slot, rfl⟩

theorem holders_acquire (slot : SlotHolds installed w) (m : ManagerId) :
    (w.acquireCurrent.2.manager m).holders =
      if w.current = some m then (w.manager m).holders + 1 else (w.manager m).holders := by
  rw [acquireCurrent, slot.processWide]
  split
  · rename_i n current
    rw [holders_holdManager, current]
    simp only [Option.some.injEq]
  · rename_i current
    rw [current, if_neg nofun]

theorem any_alive (slot : SlotHolds installed w) :
    (installed.any fun m => (w.manager m).isAlive) = w.current.isSome := by
  rw [Bool.eq_iff_iff, List.any_eq_true, Option.isSome_iff_exists]
  exact exists_congr fun m => (slot.current m).symm

/-- A manager that is made takes the slot if no manager that was installed lives. -/
theorem make (slot : SlotHolds installed w) (clock : Clock) :
    SlotHolds (if installed.any fun m => (w.manager m).isAlive then installed
        else installed ++ [w.managers.size]) (w.newManager clock).2 ∧
      (w.newManager clock).2.current = some (w.current.getD w.managers.size) := by
  rw [slot.any_alive]
  have size : (w.newManager clock).2.managers.size = w.managers.size + 1 := by
    simp only [newManager]
    split <;> exact Store.size_push ..
  cases current : w.current with
  | some k =>
    have stays : (w.newManager clock).2.current = some k := by
      simp only [newManager, slot.processWide, current]
      rfl
    rw [Option.isSome_some, if_pos rfl]
    refine ⟨⟨fun m inside => ?_, fun m => ?_⟩, stays⟩
    · rw [size]
      exact Nat.lt_succ_of_lt (slot.known m inside)
    · rw [stays, ← current, slot.current]
      refine and_congr_right fun inside => ?_
      rw [manager_newManager, if_neg (Nat.ne_of_lt (slot.known m inside))]
  | none =>
    have takes : (w.newManager clock).2.current = some w.managers.size := by
      simp only [newManager, slot.processWide, current]
      rfl
    rw [Option.isSome_none, if_neg Bool.false_ne_true]
    refine ⟨⟨fun m inside => ?_, fun m => ?_⟩, takes⟩
    · rw [size]
      rcases List.mem_append.mp inside with before | last
      · exact Nat.lt_succ_of_lt (slot.known m before)
      · exact List.mem_singleton.mp last ▸ Nat.lt_succ_self _
    · rw [takes]
      constructor
      · rintro ⟨⟩
        refine ⟨List.mem_append_right _ (List.mem_singleton_self _), ?_⟩
        rw [manager_newManager, if_pos rfl]
        rfl
      · rintro ⟨inside, alive⟩
        rcases List.mem_append.mp inside with before | last
        · rw [manager_newManager, if_neg (Nat.ne_of_lt (slot.known m before))] at alive
          have other := (slot.current m).mpr ⟨before, alive⟩
          rw [current] at other
          cases other
        · rw [List.mem_singleton.mp last]

/-- A manager that is given up by its last holder leaves the slot. -/
theorem release (slot : SlotHolds installed w) (n : ManagerId) :
    SlotHolds installed (w.releaseManager n) where
  known := fun m inside => Nat.lt_of_lt_of_le (slot.known m inside) (size_le_releaseManager n)
  current := fun m => by
    have alive : ((w.releaseManager n).manager m).isAlive = true ↔
        (w.manager m).isAlive = true ∧ (n = m → 1 < (w.manager m).holders) := by
      simp only [manager_releaseManager, Manager.isAlive, bne_iff_ne]
      split
      · rename_i same
        simp only [same, forall_const]
        omega
      · rename_i other
        simp only [other, false_implies, and_true]
    rw [current_releaseManager, alive, ← and_assoc, ← slot.current]
    split
    · -- the one that leaves was the only one that was installed and lived
      rename_i leaves
      refine ⟨nofun, fun ⟨current, more⟩ => ?_⟩
      cases leaves.1.symm.trans current
      exact (Nat.not_lt.mpr leaves.2 (more rfl)).elim
    · rename_i stays
      refine ⟨fun current => ⟨current, fun same => ?_⟩, And.left⟩
      subst same
      exact Nat.lt_of_not_le fun last => stays ⟨current, last⟩

end SlotHolds

end World

namespace Machine

open World

variable {σ : Type} {behaviour : Behaviour σ} {c d : State σ} {w : World σ} {m : ManagerId}
  {ms : List ManagerId}

/-- Which manager is process-wide after the next step: one that is made, if there is none, and
none, if the last holder gives it up. -/
def State.nextProcessWide (c : State σ) : Option ManagerId :=
  match c.control with
  | .program (.call (.newManager _) _) =>
    some (c.world.acquireCurrent.1.getD c.world.managers.size)
  | .program (.call (.releaseManager m) _) =>
    if c.world.acquireCurrent.1 = some m ∧ (c.world.manager m).holders ≤ 1 then none
    else c.world.acquireCurrent.1
  | _ => c.world.acquireCurrent.1

/-- How many hold a manager after the next step. -/
def State.nextHolders (c : State σ) (m : ManagerId) : Nat :=
  match c.control with
  | .program (.call (.newManager _) _) =>
    if m = c.world.managers.size then 1 else (c.world.manager m).holders
  | .program (.call (.holdManager n) _) =>
    if n = m then (c.world.manager m).holders + 1 else (c.world.manager m).holders
  | .program (.call .acquireCurrent _) =>
    if c.world.acquireCurrent.1 = some m then (c.world.manager m).holders + 1
    else (c.world.manager m).holders
  | .program (.call (.releaseManager n) _) =>
    if n = m then (c.world.manager m).holders - 1 else (c.world.manager m).holders
  | _ => (c.world.manager m).holders

/-- The managers that were installed, after the next step: one that is made is installed if no
manager that was installed before lives. -/
def State.nextInstalled (installed : List ManagerId) (c : State σ) : List ManagerId :=
  match c.control with
  | .program (.call (.newManager _) _) =>
    if installed.any fun m => (c.world.manager m).isAlive then installed
    else installed ++ [c.world.managers.size]
  | _ => installed

/-- Whether a handle that is copied in the next step is one of a living manager. -/
def State.copiesLiving (c : State σ) : Bool :=
  match c.control with
  | .program (.call (.holdManager m) _) => (c.world.manager m).isAlive
  | _ => true

/-- What a step does to the process-wide manager and to the hands that managers are in. -/
structure Passes (ms : List ManagerId) (c d : State σ) : Prop where
  slot : SlotHolds (c.nextInstalled ms) d.world
  processWide : d.world.acquireCurrent.1 = c.nextProcessWide
  holders : ∀ m, (d.world.manager m).holders = c.nextHolders m

theorem step_passes (slot : SlotHolds ms c.world) (moved : step behaviour c = some d)
    (living : c.copiesLiving = true) : Passes ms c d := by
  have passes (after : SlotHolds (c.nextInstalled ms) d.world)
      (current : d.world.current = c.nextProcessWide)
      (holders : ∀ m, (d.world.manager m).holders = c.nextHolders m) : Passes ms c d :=
    ⟨after, after.acquired.trans current, holders⟩
  -- all steps but the four that deal with handles
  have plain (kept : KeepsHolders c.world d.world) (sameInstalled : c.nextInstalled ms = ms)
      (sameSlot : c.nextProcessWide = c.world.acquireCurrent.1)
      (sameHolders : c.nextHolders = fun m => (c.world.manager m).holders) : Passes ms c d := by
    refine passes ?_ ?_ fun m => ?_
    · rw [sameInstalled]
      exact slot.keep kept
    · rw [sameSlot, slot.acquired, kept.current]
    · rw [sameHolders, kept.holders]
  cases step_moves moved with
  | @carriesOut op _ _ _ _ carried =>
    cases op with
    | newManager clock =>
      cases carried
      refine passes (slot.make clock).1 ?_ fun m => ?_
      · simp only [(slot.make clock).2, State.nextProcessWide, slot.acquired]
      · rw [manager_newManager, apply_ite Manager.holders]
        rfl
    | holdManager n =>
      cases carried
      exact passes (slot.hold living) slot.acquired.symm (holders_holdManager n)
    | acquireCurrent =>
      cases carried
      refine passes slot.acquire.1 (slot.acquire.2.trans slot.acquired.symm) fun m => ?_
      simp only [slot.holders_acquire, State.nextHolders, slot.acquired]
    | releaseManager n =>
      cases carried
      refine passes (slot.release n) ?_ fun m => ?_
      · simp only [current_releaseManager, State.nextProcessWide, slot.acquired]
      · rw [manager_releaseManager, apply_ite Manager.holders]
        rfl
    | _ => exact plain (carryOut_keepsHolders carried nofun nofun nofun nofun) rfl rfl rfl
  | finishes | panics | reads | misses | dispatches | executes | handles | skips | answers
  | delivers => exact plain (.refl _) rfl rfl rfl
  | changes | callsListener | visits | answersCaller | panicsCaller | declines =>
    exact plain (.of_eq rfl rfl) rfl rfl rfl
  | receivesQuit => exact plain (receiveQuit_keepsHolders _ _) rfl rfl rfl
  | countsFrame => exact plain (countFrame_keepsHolders _ _ _ _) rfl rfl rfl
  | unheard | heard => exact plain (beginDispatch_keepsHolders _ _) rfl rfl rfl
  | prunes => exact plain (.ofBecomes (pruneOne_becomes ..) rfl) rfl rfl rfl
  | concludes => exact plain (conclude_keepsHolders ..) rfl rfl rfl
  | refuses | begins => exact plain (beginDrain_keepsHolders _) rfl rfl rfl
  | ends => exact plain (finishDrain_keepsHolders _ _) rfl rfl rfl
  | stops =>
    exact plain ((takeDue_keepsHolders ..).trans (finishDrain_keepsHolders _ _)) rfl rfl rfl
  | takes => exact plain (takeDue_keepsHolders ..) rfl rfl rfl
  | consumes =>
    exact plain ((consume_keepsHolders ..).trans (conclude_keepsHolders ..)) rfl rfl rfl
  | unwindsDispatch => exact plain (unwindDispatch_keepsHolders ..) rfl rfl rfl
  | unwindsDrain => exact plain (.note (.ofBecomes (endDrain_becomes _) rfl)) rfl rfl rfl

/-- The managers that were installed in so many steps. -/
def installed (behaviour : Behaviour σ) (c : State σ) : Nat → List ManagerId
  | 0 => []
  | n + 1 =>
    match after behaviour n c with
    | none => installed behaviour c n
    | some x => x.nextInstalled (installed behaviour c n)

theorem slotHolds_initial (memory : σ) : SlotHolds [] (World.initial memory) where
  known := nofun
  current := fun _ => ⟨nofun, nofun⟩

theorem after_slotHolds {p : Program σ Bool} {memory : σ} {n : Nat}
    (run : after behaviour n (start p memory) = some c)
    (copies : ∀ j < n, ∀ x, after behaviour j (start p memory) = some x → x.copiesLiving = true) :
    SlotHolds (installed behaviour (start p memory) n) c.world := by
  induction n generalizing c with
  | zero =>
    cases run
    exact slotHolds_initial memory
  | succ n ih =>
    obtain ⟨x, before, moved⟩ := Option.bind_eq_some_iff.mp (after_succ n _ ▸ run)
    have slot := ih before fun j early => copies j (Nat.lt_succ_of_lt early)
    simp only [installed, before]
    exact (step_passes slot moved (copies n (Nat.lt_succ_self n) x before)).slot

/-- A manager to which a quit request has been queued. -/
def withQuit (code : Int32) (id : Nat) (manager : Manager) : Manager :=
  { manager with
    queue.pending := manager.queue.pending.push ⟨id, .engine (.quit code)⟩
    counters.queued := manager.counters.queued + 1 }

theorem enqueueNew_yields (m : ManagerId) (event : Event) (w : World σ) :
    Yields behaviour (Program.enqueueNew m event) w ()
      ((w.newEvent event).2.enqueue m (w.newEvent event).1) :=
  .bind (.carried (.newEvent event) rfl) (.carried (.enqueue m _) rfl)

theorem releaseManager_yields (m : ManagerId) (w : World σ) :
    Yields behaviour (Program.ask (.releaseManager m)) w () (w.releaseManager m) :=
  fun _ _ => .single rfl

/-- A quit request is queued to the manager in the slot. -/
theorem requestQuit_yields (slot : SlotHolds ms w) (code : Int32) :
    ∃ v, Yields behaviour (requestQuit code) w w.current.isSome v ∧ v.current = w.current ∧
      ∀ m, v.manager m =
        if w.current = some m then withQuit code w.nextEvent (w.manager m) else w.manager m := by
  cases current : w.current with
  | none =>
    have acquired : w.carryOut .acquireCurrent = some (none, w) := by
      simp only [carryOut, acquireCurrent, slot.processWide, current]
    exact ⟨w.note (.told .quitUnheard),
      .bind (.carried .acquireCurrent acquired) (.bind (.carried (.note _) rfl) (.done _ _)),
      current, fun m => (if_neg nofun).symm⟩
  | some k =>
    have acquired : w.carryOut .acquireCurrent = some (some k, w.holdManager k) := by
      simp only [carryOut, acquireCurrent, slot.processWide, current]
    have alive : (w.manager k).holders ≠ 0 := bne_iff_ne.mp ((slot.current k).mp current).2
    let queued : World σ := ((w.holdManager k).newEvent (.engine (.quit code))).2.enqueue k
      ((w.holdManager k).newEvent (.engine (.quit code))).1
    have held (m : ManagerId) : queued.manager m = if k = m then
        { withQuit code w.nextEvent (w.manager m) with holders := (w.manager m).holders + 1 }
        else w.manager m := by
      simp only [queued, enqueue, manager_note, manager_modifyManager]
      split
      · rename_i same
        simp only [newEvent, holdManager, manager, modifyManager, Store.get_modify, same, if_true]
        rfl
      · rename_i other
        simp only [newEvent, holdManager, manager, modifyManager, Store.get_modify, other, if_false]
    refine ⟨queued.releaseManager k, ?_, ?_, fun m => ?_⟩
    · have quits : Yields behaviour (Program.enqueueNew k (.engine (.quit code)))
          (w.holdManager k) () queued := enqueueNew_yields _ _ _
      exact .bind (.carried .acquireCurrent acquired)
        (.bind quits (.bind (releaseManager_yields k queued) (.done _ _)))
    · -- the manager has a holder besides the request, which does not empty the slot
      have stays : ¬(queued.current = some k ∧ (queued.manager k).holders ≤ 1) := by
        rw [held, if_pos rfl]
        rintro ⟨-, last⟩
        exact alive (Nat.le_zero.mp (Nat.le_of_succ_le_succ last))
      rw [current_releaseManager, if_neg stays]
      exact current
    · rw [manager_releaseManager, held]
      simp only [Option.some.injEq]
      split <;> rfl

/-- The process-wide manager. As long as handles are copied of living managers only, whoever asks
for the process-wide manager gets the one that lives of those that were made while no such one
lived, and no other manager takes itself for it. It changes by its last holder and, if there is
none, by a manager that is made, and by nothing else. A quit request is queued to it, if there is
one, and to no other manager. -/
theorem process_wide_is_the_installed_that_lives {p : Program σ Bool} {memory : σ} {n : Nat}
    (run : after behaviour n (start p memory) = some c)
    (copies : ∀ j < n, ∀ x, after behaviour j (start p memory) = some x → x.copiesLiving = true) :
    (∀ m, c.world.acquireCurrent.1 = some m ↔
      m ∈ installed behaviour (start p memory) n ∧ (c.world.manager m).isAlive = true) ∧
    (∀ m, c.world.carryOut (.isCurrent m) =
      some (c.world.acquireCurrent.1 == some m, c.world)) ∧
    (∀ d, step behaviour c = some d → c.copiesLiving = true →
      d.world.acquireCurrent.1 = c.nextProcessWide ∧
        ∀ m, (d.world.manager m).holders = c.nextHolders m) ∧
    ∀ code, ∃ v, Yields behaviour (requestQuit code) c.world c.world.acquireCurrent.1.isSome v ∧
      v.current = c.world.current ∧ ∀ m, v.manager m =
        if c.world.acquireCurrent.1 = some m then
          withQuit code c.world.nextEvent (c.world.manager m)
        else c.world.manager m := by
  have slot := after_slotHolds run copies
  rw [slot.acquired]
  refine ⟨slot.current, fun m => rfl, fun d moved living => ?_, requestQuit_yields slot⟩
  have passes := step_passes slot moved living
  exact ⟨passes.processWide, passes.holders⟩

/-- The first manager is given up by its maker and by who has asked for it. The second one lives on
and is not installed; the third one is. -/
theorem quit_goes_to_the_third_manager :
    let behaviour : Behaviour Unit := fun _ _ => pure false
    let host : Program Unit Bool := do
      let first ← Program.ask (.newManager default)
      let second ← Program.ask (.newManager default)
      let asked ← Program.ask .acquireCurrent
      Program.ask (.releaseManager first)
      if let some m := asked then Program.ask (.releaseManager m)
      let _ ← requestQuit 3
      let _ ← Program.ask (.newManager default)
      Program.ask (.holdManager second)
      requestQuit 4
    ∃ c v, after behaviour 13 (start host ()) = some c ∧
      installed behaviour (start host ()) 13 = [0, 2] ∧ (c.world.manager 0).isAlive = false ∧
      (c.world.manager 1).isAlive = true ∧ c.world.acquireCurrent.1 = some 2 ∧
      Yields behaviour (requestQuit 5) c.world true v ∧
      (v.manager 2).queue.pending.map (·.event) =
        #[.engine (.quit 4), .engine (.quit 5)] ∧
      v.manager 1 = c.world.manager 1 := by
  intro behaviour host
  have ran : (after behaviour 13 (start host ())).any (fun c =>
      !(c.world.manager 0).isAlive && (c.world.manager 1).isAlive && (c.world.manager 2).isAlive &&
      decide ((c.world.manager 2).queue.pending.map (·.event) = #[.engine (.quit 4)])) = true := by
    cbv
  have living : ((List.range 13).all fun k =>
      (after behaviour k (start host ())).all State.copiesLiving) = true := by cbv
  have two : installed behaviour (start host ()) 13 = [0, 2] := by cbv
  obtain ⟨c, run, told⟩ := (Option.any_eq_true ..).mp ran
  simp only [Bool.and_eq_true, Bool.not_eq_true', decide_eq_true_eq] at told
  obtain ⟨⟨⟨first, second⟩, third⟩, pending⟩ := told
  obtain ⟨processWide, -, -, quits⟩ := process_wide_is_the_installed_that_lives run
    fun j early x before => by
      have copied := List.all_eq_true.mp living j (List.mem_range.mpr early)
      rwa [before, Option.all_some] at copied
  have current : c.world.acquireCurrent.1 = some 2 :=
    (processWide 2).mpr ⟨by rw [two]; decide, third⟩
  obtain ⟨v, yields, -, managers⟩ := quits 5
  rw [current] at yields managers
  refine ⟨c, v, run, two, first, second, current, yields, ?_, managers 1⟩
  rw [managers 2, if_pos rfl, withQuit, Array.map_push, pending]
  rfl

end Machine
end EventEngine
