import EventEngine.Proofs.Dispatch.Lives
import EventEngine.Proofs.Queue.Batch
import EventEngine.Proofs.Registry.Totals
import EventEngine.Proofs.Manager.Book

/-! What every step of a run enters in the books of a manager. The journal of a run is a run of the
books of each manager, in which the tallies of dispatches stand on the stack until they are
entered. -/
namespace EventEngine

open Manager (Tally)

/-- What the counters and the lists of a manager tell. -/
def Manager.figures (x : Manager) : Book where
  connects := x.counters.connects
  disconnects := x.counters.disconnects
  pruned := x.counters.pruned
  dispatched := x.counters.dispatched
  consumed := x.counters.consumed
  invocations := x.counters.invocations
  drains := x.counters.drains
  registered := x.registry.table.total
  called := 0
  underWay := []
  draining := 0

namespace World

variable {σ : Type} {w w' w'' : World σ} {m n : ManagerId}

/-- The books of a manager, given what dispatches and drains under way know. -/
def book (m : ManagerId) (underWay : List Tally) (draining : Nat) (w : World σ) : Book :=
  { (w.manager m).figures with underWay, draining }

/-- Nothing happens that concerns the books of a manager. -/
def Quiet (m : ManagerId) (w w' : World σ) : Prop :=
  ∃ hs, w'.journal.toList = w.journal.toList ++ hs ∧ (∀ h ∈ hs, h.concerns m = false) ∧
    (w'.manager m).figures = (w.manager m).figures

namespace Quiet

theorem still (journal : w'.journal = w.journal)
    (figures : (w'.manager m).figures = (w.manager m).figures) : Quiet m w w' :=
  ⟨[], by rw [journal, List.append_nil], nofun, figures⟩

theorem refl (w : World σ) : Quiet m w w := still rfl rfl

theorem trans (first : Quiet m w w') (second : Quiet m w' w'') : Quiet m w w'' := by
  obtain ⟨hs, journal, apart, figures⟩ := first
  obtain ⟨later, journal', apart', figures'⟩ := second
  refine ⟨hs ++ later, by rw [journal', journal, List.append_assoc], fun h inside => ?_,
    figures'.trans figures⟩
  exact (List.mem_append.mp inside).elim (apart h) (apart' h)

theorem note {h : Happening} (before : Quiet m w w') (apart : h.concerns m = false) :
    Quiet m w (w'.note h) := by
  refine before.trans ⟨[h], by rw [journal_note, Array.toList_push], fun k inside => ?_, rfl⟩
  rwa [List.mem_singleton.mp inside]

/-- What concerns one manager does not concern another one. -/
theorem elsewhere {f : Manager → Manager} (other : n ≠ m) : Quiet m w (w.modifyManager n f) :=
  still rfl (by rw [manager_modifyManager, if_neg other])

theorem modifyManager {f : Manager → Manager}
    (kept : (f (w.manager n)).figures = (w.manager n).figures) :
    Quiet m w (w.modifyManager n f) := by
  refine still rfl ?_
  rw [manager_modifyManager]
  split
  · rename_i same
    rw [← same, kept]
  · rfl

end Quiet

/-! ### What is quiet -/

theorem newManager_quiet (clock : Clock) : Quiet m w (w.newManager clock).2 := by
  have made : Quiet m w { w with managers := w.managers.push (.fresh clock) } := by
    refine .still rfl ?_
    simp only [manager, Store.get_push]
    split
    · rename_i last
      rw [Store.get_of_size_le _ (Nat.le_of_eq last.symm)]
      rfl
    · rfl
  simp only [newManager]
  split
  · exact made.note rfl
  · exact .note (made.trans (.still rfl rfl)) rfl

theorem releaseManager_quiet (n : ManagerId) : Quiet m w (w.releaseManager n) := by
  simp only [releaseManager]
  split
  · exact .note (.trans (.modifyManager rfl) (.still rfl rfl)) rfl
  · exact .modifyManager rfl

theorem acquireCurrent_quiet : Quiet m w w.acquireCurrent.2 := by
  simp only [acquireCurrent]
  split
  · exact .modifyManager rfl
  · exact .refl w

theorem receiveQuit_quiet (l : ListenerId) (e : EventRef) : Quiet m w (w.receiveQuit l e).2 := by
  unfold receiveQuit
  split
  · exact .trans ((Quiet.refl w).note rfl) (.still rfl rfl)
  · exact .refl w

theorem countFrame_quiet (l : ListenerId) (updates renders : Nat) (e : EventRef) :
    Quiet m w (w.countFrame l updates renders e) := by
  unfold countFrame
  split <;> exact .still rfl rfl

theorem closeFrame_quiet (n : ManagerId) (frame : UInt64) : Quiet m w (w.closeFrame n frame).2 :=
  .modifyManager rfl

theorem readClock_quiet (n : ManagerId) : Quiet m w (w.readClock n).2 := .modifyManager rfl

theorem takeDue_quiet (n : ManagerId) (budget : Option Duration) (started : Timestamp)
    (delivered : Nat) : Quiet m w (w.takeDue n budget started delivered).2 := by
  have read := readClock_quiet (w := w) (m := m) n
  rcases takeDue_cases n budget started delivered w with taken | taken | ⟨e, rest, _, taken⟩
  · rw [taken]
    exact read.note rfl
  · rw [taken]
    exact read
  · rw [taken]
    exact .note (read.trans (.modifyManager rfl)) rfl

theorem endDrain_quiet (n : ManagerId) : Quiet m w (w.endDrain n).2 := .modifyManager rfl

/-! ### What is entered -/

/-- The journal goes on by happenings that make one state of the books of a manager another one.
They tell how many registrations were forgotten, and how many dispatches were unwound. -/
def Posts (m : ManagerId) (cleared unwound : Nat) (w : World σ) (b : Book) (w' : World σ)
    (b' : Book) : Prop :=
  ∃ hs, w'.journal.toList = w.journal.toList ++ hs ∧ Book.Run m b hs b' ∧
    History.clearances m hs = cleared ∧ History.unwinds m hs = unwound

variable {underWay : List Tally} {draining cleared unwound : Nat} {b b' : Book}

theorem count_quiet {count : Happening → Nat} {hs : List Happening}
    (none : ∀ h ∈ hs, count h = 0) : (hs.map count).sum = 0 := by
  induction hs with
  | nil => rfl
  | cons h hs ih =>
    rw [List.map_cons, List.sum_cons, none h (List.mem_cons_self ..),
      ih fun h later => none h (List.mem_cons_of_mem _ later)]

theorem Quiet.posts (quiet : Quiet m w w') (underWay : List Tally) (draining : Nat) :
    Posts m 0 0 w (w.book m underWay draining) w' (w'.book m underWay draining) := by
  obtain ⟨hs, journal, apart, figures⟩ := quiet
  refine ⟨hs, journal, ?_, ?_, ?_⟩
  · rw [book, book, figures]
    exact .quiet apart
  · exact count_quiet fun h inside => (Happening.silent (apart h inside)).clearances
  · exact count_quiet fun h inside => (Happening.silent (apart h inside)).unwinds

namespace Posts

/-- One happening is noted together with what it enters. -/
theorem note {h : Happening} (journal : w'.journal = w.journal) (step : Book.Step m b h b')
    (clears : h.clearances m = cleared) (unwinds : h.unwinds m = unwound) :
    Posts m cleared unwound w b (w'.note h) b' := by
  refine ⟨[h], by rw [journal_note, Array.toList_push, journal], .single step, ?_, ?_⟩
  · simp [History.clearances, clears]
  · simp [History.unwinds, unwinds]

theorem trans {cleared' unwound' : Nat} {b'' : Book} (first : Posts m cleared unwound w b w' b')
    (second : Posts m cleared' unwound' w' b' w'' b'') :
    Posts m (cleared + cleared') (unwound + unwound') w b w'' b'' := by
  obtain ⟨hs, journal, run, rfl, rfl⟩ := first
  obtain ⟨later, journal', run', rfl, rfl⟩ := second
  refine ⟨hs ++ later, by rw [journal', journal, List.append_assoc], run.append run', ?_, ?_⟩
  · simp [History.clearances]
  · simp [History.unwinds]

theorem preceded (quiet : Quiet m w w')
    (posts : Posts m cleared unwound w' (w'.book m underWay draining) w'' b) :
    Posts m cleared unwound w (w.book m underWay draining) w'' b := by
  have whole := (quiet.posts underWay draining).trans posts
  rwa [Nat.zero_add, Nat.zero_add] at whole

theorem followed (posts : Posts m cleared unwound w b w' (w'.book m underWay draining))
    (quiet : Quiet m w' w'') :
    Posts m cleared unwound w b w'' (w''.book m underWay draining) :=
  posts.trans (quiet.posts underWay draining)

end Posts

variable {n : ManagerId} {later : List Tally} {others : Nat}

/-- A manager is changed, and a happening tells of it. -/
theorem Posts.enter {h : Happening} {f : Manager → Manager}
    (step : Book.Step n b h
      { (f (w.manager n)).figures with underWay := later, draining := others })
    (clears : h.clearances n = cleared) (unwinds : h.unwinds n = unwound) :
    Posts n cleared unwound w b ((w.modifyManager n f).note h)
      (((w.modifyManager n f).note h).book n later others) := by
  refine .note rfl ?_ clears unwinds
  have after : ((w.modifyManager n f).note h).book n later others =
      { (f (w.manager n)).figures with underWay := later, draining := others } := by
    rw [book, manager_note, manager_modifyManager, if_pos rfl]
  rw [after]
  exact step

theorem tryConnect_posts (l : ListenerId) (t : TypeId) :
    Posts n 0 0 w (w.book n underWay draining) (w.tryConnect n l t).2
      ((w.tryConnect n l t).2.book n underWay draining) := by
  simp only [tryConnect, Manager.connect]
  cases connected : (w.manager n).registry.connect w.roll l t with
  | error e => exact Quiet.posts (.modifyManager rfl) underWay draining
  | ok registry =>
    refine .enter ?_ rfl rfl
    rw [Manager.figures, Registry.connect_total connected]
    exact .connected

theorem tryConnect_quiet (other : n ≠ m) (l : ListenerId) (t : TypeId) :
    Quiet m w (w.tryConnect n l t).2 := by
  simp only [tryConnect]
  split
  · exact .note (.elsewhere other) (by simpa [Happening.concerns])
  · exact .elsewhere other

theorem tryDisconnect_posts {l : ListenerId} {t : TypeId}
    (nodup : ((w.registry n).listed t).Nodup) :
    Posts n 0 0 w (w.book n underWay draining) (w.tryDisconnect n l t).2
      ((w.tryDisconnect n l t).2.book n underWay draining) := by
  simp only [tryDisconnect, Manager.disconnect]
  cases disconnected : (w.manager n).registry.disconnect l t with
  | error e => exact Quiet.posts (.modifyManager rfl) underWay draining
  | ok answer =>
    obtain ⟨removed, registry⟩ := answer
    obtain ⟨total, once⟩ := Registry.disconnect_total nodup disconnected
    dsimp only
    split
    · rename_i none
      have same : registry.table.total = (w.manager n).registry.table.total := by
        rw [none] at total
        exact total.symm
      refine Quiet.posts (.modifyManager ?_) underWay draining
      simp only [Manager.figures, Counters.drains, none, Nat.add_zero, same]
    · rename_i some
      obtain rfl : removed = 1 := by omega
      exact .enter (.disconnected total) rfl rfl

theorem tryDisconnect_quiet (other : n ≠ m) (l : ListenerId) (t : TypeId) :
    Quiet m w (w.tryDisconnect n l t).2 := by
  simp only [tryDisconnect]
  split
  · dsimp only
    split
    · exact .elsewhere other
    · exact .note (.elsewhere other) (by simpa [Happening.concerns])
  · exact .elsewhere other

theorem clearListeners_posts :
    Posts n (w.registry n).table.total 0 w (w.book n underWay draining) (w.clearListeners n)
      ((w.clearListeners n).book n underWay draining) :=
  .enter .cleared (if_pos rfl) rfl

theorem pruneStale_posts :
    Posts n 0 0 w (w.book n underWay draining) (w.pruneStale n).2
      ((w.pruneStale n).2.book n underWay draining) :=
  .enter (.prunedAll Registry.pruneAll_total) rfl rfl

/-- The call of a dispatch is noted before its list is looked for. -/
theorem called_posts (e : EventRef) :
    Posts n 0 0 w (w.book n underWay draining) (w.note (.dispatched n e))
      { w.book n underWay draining with called := 1 } :=
  .note rfl .dispatched rfl rfl

/-- A dispatch of a category without a list is counted at once. -/
theorem unheard_posts {e : EventRef}
    (unlisted : (w.manager n).registry.table.list? e.typeId = none) :
    Posts n 0 0 w (w.book n underWay draining) (w.beginDispatch n e).2
      ((w.beginDispatch n e).2.book n underWay draining) := by
  have unlisted' : ((w.note (.dispatched n e)).manager n).registry.table.list? e.typeId = none :=
    unlisted
  simp only [beginDispatch, unlisted']
  exact (called_posts e).trans (.enter (.unheard rfl) rfl rfl)

/-- A dispatch of a category that has a list begins with an empty tally. -/
theorem heard_posts {e : EventRef} {list : List ListenerId}
    (listed : (w.manager n).registry.table.list? e.typeId = some list) :
    Posts n 0 0 w (w.book n underWay draining) (w.beginDispatch n e).2
      ((w.beginDispatch n e).2.book n ({} :: underWay) draining) := by
  have listed' : ((w.note (.dispatched n e)).manager n).registry.table.list? e.typeId =
      some list := listed
  simp only [beginDispatch, listed']
  exact (called_posts e).trans (.enter (.opened rfl) rfl rfl)

theorem beginDispatch_quiet (other : n ≠ m) (e : EventRef) :
    Quiet m w (w.beginDispatch n e).2 := by
  have called : Quiet m w (w.note (.dispatched n e)) :=
    .note (.refl w) (by simpa [Happening.concerns])
  simp only [beginDispatch]
  split <;> exact .note (called.trans (.elsewhere other)) (by simpa [Happening.concerns])

/-- A listener that is gone is tallied if its place was still there. -/
theorem pruneOne_posts {frame : UInt64} {t : TypeId} {l : ListenerId} {tally : Tally}
    (nodup : ((w.registry n).listed t).Nodup) :
    Posts n 0 0 w (w.book n (tally :: underWay) draining) (w.pruneOne n frame t l).2
      ((w.pruneOne n frame t l).2.book n
        ({ tally with pruned := tally.pruned + (w.pruneOne n frame t l).1.toNat } :: underWay)
        draining) := by
  have total := Registry.prune_total w.roll l nodup
  simp only [pruneOne]
  cases removed : ((w.manager n).registry.prune w.roll t l).1 with
  | true =>
    rw [registry, removed] at total
    exact .enter (.pruned rfl total) rfl rfl
  | false =>
    rw [registry, removed] at total
    have same : ((w.manager n).registry.prune w.roll t l).2.table.total =
        (w.manager n).registry.table.total := total.symm
    refine Quiet.posts (.modifyManager ?_) _ draining
    simp only [Manager.figures, same]

theorem pruneOne_quiet (other : n ≠ m) (frame : UInt64) (t : TypeId) (l : ListenerId) :
    Quiet m w (w.pruneOne n frame t l).2 := by
  simp only [pruneOne]
  split
  · exact .note (.elsewhere other) (by simpa [Happening.concerns])
  · exact .elsewhere other

theorem invoke_posts {frame : UInt64} {l : ListenerId} {e : EventRef} {tally : Tally} :
    Posts n 0 0 w (w.book n (tally :: underWay) draining) (w.invoke n frame l e)
      ((w.invoke n frame l e).book n ({ tally with invoked := tally.invoked + 1 } :: underWay)
        draining) := by
  have noted : Posts n 0 0 w (w.book n (tally :: underWay) draining) (w.note (.invoked n frame l e))
      ((w.note (.invoked n frame l e)).book n
        ({ tally with invoked := tally.invoked + 1 } :: underWay) draining) :=
    .note rfl (.invoked rfl) rfl rfl
  exact noted.followed (.still rfl rfl)

theorem invoke_quiet (other : n ≠ m) (frame : UInt64) (l : ListenerId) (e : EventRef) :
    Quiet m w (w.invoke n frame l e) :=
  .trans (.note (.refl w) (by simpa [Happening.concerns])) (.still rfl rfl)

/-- What is reported at the end of a dispatch does not concern the books. -/
theorem reports_quiet (mutated taken : Bool) (tally : Tally) (e : EventRef) (w : World σ) :
    let w' := if mutated && !taken then w.note (.anomaly n e) else w
    Quiet m w (if tally.pruned = 0 then w' else w'.note (.prunedFrom n e.typeId tally.pruned)) := by
  have anomaly : Quiet m w (if mutated && !taken then w.note (.anomaly n e) else w) := by
    split
    · exact .note (.refl w) rfl
    · exact .refl w
  dsimp only
  split
  · exact anomaly
  · exact anomaly.note rfl

/-- What a dispatch tallied is entered at its end. -/
theorem conclude_posts {frame : UInt64} {e : EventRef} {taken : Bool} {tally : Tally} :
    Posts n 0 0 w (w.book n (tally :: underWay) draining) (w.conclude n frame e taken tally)
      ((w.conclude n frame e taken tally).book n underWay draining) := by
  have closed : Posts n 0 0 w (w.book n (tally :: underWay) draining)
      (((w.closeFrame n frame).2.modifyManager n
        (·.countDispatch tally taken (w.closeFrame n frame).1)).note
        (.closed n frame taken (w.closeFrame n frame).1)) _ :=
    .preceded (closeFrame_quiet n frame) (.enter (.closed rfl) rfl rfl)
  exact closed.followed (reports_quiet ..)

theorem conclude_quiet (other : n ≠ m) (frame : UInt64) (e : EventRef) (taken : Bool)
    (tally : Tally) : Quiet m w (w.conclude n frame e taken tally) := by
  have closed : Quiet m w (((w.closeFrame n frame).2.modifyManager n
      (·.countDispatch tally taken (w.closeFrame n frame).1)).note
      (.closed n frame taken (w.closeFrame n frame).1)) :=
    .note ((closeFrame_quiet n frame).trans (.elsewhere other)) (by simpa [Happening.concerns])
  exact closed.trans (reports_quiet ..)

/-- What a dispatch tallied is lost when it is unwound. -/
theorem unwindDispatch_posts (frame : UInt64) (tally : Tally) :
    Posts n 0 1 w (w.book n (tally :: underWay) draining) (w.unwindDispatch n frame)
      ((w.unwindDispatch n frame).book n underWay draining) :=
  .preceded (closeFrame_quiet n frame) (.note rfl (.unwound rfl) rfl (if_pos rfl))

theorem unwindDispatch_quiet (other : n ≠ m) (frame : UInt64) :
    Quiet m w (w.unwindDispatch n frame) :=
  .note (closeFrame_quiet n frame) (by simpa [Happening.concerns])

/-- A drain that is not refused is under way. -/
theorem beginDrain_posts {begun : Timestamp × Nat} (accepted : (w.beginDrain n).1 = some begun) :
    Posts n 0 0 w (w.book n underWay draining) (w.beginDrain n).2
      ((w.beginDrain n).2.book n underWay (draining + 1)) := by
  have started (v : World σ) (active : Nat) :
      Posts n 0 0 v (v.book n underWay draining) (v.note (.drainStarted n active))
        ((v.note (.drainStarted n active)).book n underWay (draining + 1)) :=
    .note rfl .drainStarted rfl rfl
  cases idle : (w.manager n).queue.draining with
  | true =>
    rw [beginDrain_refused idle] at accepted
    cases accepted
  | false =>
    by_cases drained : (w.manager n).queue.active = []
    · rw [beginDrain_swapIn idle drained]
      refine .followed (.preceded ?_ (started ..)) (readClock_quiet n)
      exact .note (.modifyManager rfl) rfl
    · rw [beginDrain_takeUp idle drained]
      refine .followed (.preceded ?_ (started ..)) (readClock_quiet n)
      exact .modifyManager rfl

theorem beginDrain_quiet (unconcerned : n ≠ m ∨ (w.beginDrain n).1 = none) :
    Quiet m w (w.beginDrain n).2 := by
  cases idle : (w.manager n).queue.draining with
  | true =>
    rw [beginDrain_refused idle]
    exact .note (.refl w) rfl
  | false =>
    have other : n ≠ m := by
      refine unconcerned.resolve_right fun refused => ?_
      obtain ⟨_, _, begins, _⟩ := beginDrain_batch idle
      rw [begins] at refused
      cases refused
    have apart (active : Nat) : (Happening.drainStarted n active).concerns m = false := by
      simpa [Happening.concerns]
    by_cases drained : (w.manager n).queue.active = []
    · rw [beginDrain_swapIn idle drained]
      exact .trans (.note (.note (.modifyManager rfl) rfl) (apart _)) (readClock_quiet n)
    · rw [beginDrain_takeUp idle drained]
      exact .trans (.note (.modifyManager rfl) (apart _)) (readClock_quiet n)

theorem drains_countDrain (drained : Bool) (x : Manager) :
    (x.countDrain drained).counters.drains = x.counters.drains + 1 := by
  cases drained <;>
  · simp only [Manager.countDrain, Counters.drains, Bool.toNat_true, Bool.toNat_false,
      Bool.not_true, Bool.not_false]
    omega

theorem finishDrain_posts (delivered : Nat) :
    Posts n 0 0 w (w.book n underWay (draining + 1)) (w.finishDrain n delivered).2
      ((w.finishDrain n delivered).2.book n underWay draining) := by
  refine .preceded (endDrain_quiet n) (.enter ?_ rfl rfl)
  rw [Manager.figures, drains_countDrain]
  exact .drainFinished rfl

theorem finishDrain_quiet (other : n ≠ m) (delivered : Nat) :
    Quiet m w (w.finishDrain n delivered).2 :=
  .note ((endDrain_quiet n).trans (.elsewhere other)) (by simpa [Happening.concerns])

theorem unwindDrain_posts :
    Posts n 0 0 w (w.book n underWay (draining + 1)) (w.unwindDrain n)
      ((w.unwindDrain n).book n underWay draining) :=
  .preceded (endDrain_quiet n) (.note rfl (.drainUnwound rfl) rfl rfl)

theorem unwindDrain_quiet (other : n ≠ m) : Quiet m w (w.unwindDrain n) :=
  .note (endDrain_quiet n) (by simpa [Happening.concerns])

end World

namespace Machine

open World

variable {σ : Type} {behaviour : Behaviour σ} {c d : State σ} {m : ManagerId}

def Waiting.tallies (m : ManagerId) : Waiting σ → List Tally
  | .walk n _ _ _ _ tally => if n = m then [tally] else []
  | _ => []

def Control.tallies (m : ManagerId) : Control σ → List Tally
  | .walk n _ _ _ tally => if n = m then [tally] else []
  | _ => []

/-- The tallies of the dispatches under way on a manager, the newest first. -/
def State.tallies (m : ManagerId) (c : State σ) : List Tally :=
  c.control.tallies m ++ c.stack.flatMap (·.tallies m)

def State.book (m : ManagerId) (c : State σ) : Book := c.world.book m (c.tallies m) (c.drains m)

/-- How many registrations of a manager the next step forgets. -/
def State.clearing (m : ManagerId) (c : State σ) : Nat :=
  match c.control with
  | .program (.call (.clearListeners n) _) =>
    if n = m then (c.world.manager m).registry.table.total else 0
  | _ => 0

/-- Whether a panic of a listener comes to a dispatch of a manager. -/
def State.unwinds (m : ManagerId) (c : State σ) : Bool :=
  match c.control, c.stack with
  | .outcome (.panicked _), .walk n .. :: _ => n == m
  | _, _ => false

/-- What a step enters in the books of a manager. -/
def Enters (m : ManagerId) (c d : State σ) : Prop :=
  Posts m (c.clearing m) (c.unwinds m).toNat c.world (c.book m) d.world (d.book m)

theorem Enters.of {underWay later : List Tally} {draining others cleared unwound : Nat}
    (posts : Posts m cleared unwound c.world (c.world.book m underWay draining) d.world
      (d.world.book m later others))
    (tallies : c.tallies m = underWay) (tallies' : d.tallies m = later)
    (drains : c.drains m = draining) (drains' : d.drains m = others)
    (clearing : c.clearing m = cleared) (unwinds : (c.unwinds m).toNat = unwound) :
    Enters m c d := by
  subst tallies tallies' drains drains' clearing unwinds
  exact posts

theorem Enters.quiet (quiet : Quiet m c.world d.world) (tallies : d.tallies m = c.tallies m)
    (drains : d.drains m = c.drains m) (clearing : c.clearing m = 0) (calm : c.unwinds m = false) :
    Enters m c d :=
  .of (quiet.posts (c.tallies m) (c.drains m)) rfl tallies rfl drains clearing
    (congrArg Bool.toNat calm)

variable {stack : List (Waiting σ)} {w : World σ} {n : ManagerId}

theorem carryOut_enters {op : Op} {next : Outcome op.Reply → Program σ Bool}
    {result : op.Reply × World σ} (settled : Settled w) (carried : w.carryOut op = some result)
    (p : Program σ Bool) :
    Enters m ⟨.program (.call op next), stack, w⟩ ⟨.program p, stack, result.2⟩ := by
  cases op with
  | callListener | dispatch | execute => cases carried
  | tryConnect n l t =>
    cases carried
    by_cases same : n = m
    · subst same
      exact tryConnect_posts l t
    · exact .quiet (tryConnect_quiet same l t) rfl rfl rfl rfl
  | tryDisconnect n l t =>
    cases carried
    by_cases same : n = m
    · subst same
      exact tryDisconnect_posts (settled.nodup n t)
    · exact .quiet (tryDisconnect_quiet same l t) rfl rfl rfl rfl
  | clearListeners n =>
    cases carried
    by_cases same : n = m
    · subst same
      have clearing : State.clearing n ⟨.program (.call (.clearListeners n) next), stack, w⟩ =
          (w.registry n).table.total := if_pos rfl
      rw [Enters, clearing]
      exact clearListeners_posts
    · exact .quiet (.note (.elsewhere same) (by simpa [Happening.concerns])) rfl rfl
        (if_neg same) rfl
  | pruneStale n =>
    cases carried
    by_cases same : n = m
    · subst same
      exact pruneStale_posts
    · exact .quiet (.note (.elsewhere same) (by simpa [Happening.concerns])) rfl rfl rfl rfl
  | newManager clock => cases carried; exact .quiet (newManager_quiet clock) rfl rfl rfl rfl
  | releaseManager n => cases carried; exact .quiet (releaseManager_quiet n) rfl rfl rfl rfl
  | acquireCurrent => cases carried; exact .quiet acquireCurrent_quiet rfl rfl rfl rfl
  | enqueue | dequeue | clearQueue =>
    cases carried
    exact .quiet (.note (.modifyManager rfl) rfl) rfl rfl rfl rfl
  | holdManager | now | advance | setClock =>
    cases carried
    exact .quiet (.modifyManager rfl) rfl rfl rfl rfl
  | note notice => cases carried; exact .quiet (.note (.refl w) rfl) rfl rfl rfl rfl
  | isCurrent | newListener | dropListener | nameOf | roleOf | newEvent | inspect | validate =>
    cases carried
    exact .quiet (.still rfl rfl) rfl rfl rfl rfl

theorem tallies_self (frame : UInt64) (e : EventRef) (rest : List ListenerId) (tally : Tally) :
    State.tallies n ⟨.walk n frame e rest tally, stack, w⟩ =
      tally :: stack.flatMap (·.tallies n) := by
  simp only [State.tallies, Control.tallies, if_true, List.singleton_append]

theorem tallies_other (other : n ≠ m) (frame : UInt64) (e : EventRef) (rest : List ListenerId)
    (tally : Tally) :
    State.tallies m ⟨.walk n frame e rest tally, stack, w⟩ = stack.flatMap (·.tallies m) := by
  simp only [State.tallies, Control.tallies, if_neg other, List.nil_append]

/-- The stack of a listener that a dispatch has called. -/
theorem tallies_called (o : Outcome Bool) (frame : UInt64) (e : EventRef) (l : ListenerId)
    (rest : List ListenerId) (tally : Tally) :
    State.tallies m ⟨.outcome o, .walk n frame e l rest tally :: stack, w⟩ =
      State.tallies m ⟨.walk n frame e rest tally, stack, w⟩ := by
  simp [State.tallies, Control.tallies, Waiting.tallies]

/-- A drain that has called a dispatch is still under way. -/
theorem drains_called (o : Outcome Bool) (frame : UInt64) (e : EventRef) (l : ListenerId)
    (rest : List ListenerId) (tally : Tally) :
    State.drains m ⟨.outcome o, .walk n frame e l rest tally :: stack, w⟩ = stackDrains m stack := by
  simp [State.drains, stackDrains, Control.drains, Waiting.drains]

section Dispatches

variable {frame : UInt64} {e : EventRef} {l : ListenerId} {rest : List ListenerId} {tally : Tally}

theorem unheard_enters (unlisted : (w.manager n).registry.table.list? e.typeId = none) :
    Enters m ⟨.dispatch n e, stack, w⟩
      ⟨.outcome (.returned false), stack, (w.beginDispatch n e).2⟩ := by
  by_cases same : n = m
  · subst same
    exact unheard_posts unlisted
  · exact .quiet (beginDispatch_quiet same e) rfl rfl rfl rfl

theorem heard_enters {list : List ListenerId}
    (listed : (w.manager n).registry.table.list? e.typeId = some list) :
    Enters m ⟨.dispatch n e, stack, w⟩
      ⟨.walk n (w.manager n).registry.nextFrame e list {}, stack, (w.beginDispatch n e).2⟩ := by
  by_cases same : n = m
  · subst same
    exact .of (heard_posts listed) rfl (tallies_self ..) rfl rfl rfl rfl
  · exact .quiet (beginDispatch_quiet same e) (tallies_other same ..) rfl rfl rfl

theorem prune_enters (settled : Settled w) :
    Enters m ⟨.walk n frame e (l :: rest) tally, stack, w⟩
      ⟨.walk n frame e rest
        { tally with pruned := tally.pruned + (w.pruneOne n frame e.typeId l).1.toNat },
        stack, (w.pruneOne n frame e.typeId l).2⟩ := by
  by_cases same : n = m
  · subst same
    exact .of (pruneOne_posts (settled.nodup n _)) (tallies_self ..) (tallies_self ..) rfl rfl
      rfl rfl
  · refine .quiet (pruneOne_quiet same ..) ?_ rfl rfl rfl
    rw [tallies_other same, tallies_other same]

theorem visit_enters :
    Enters m ⟨.walk n frame e (l :: rest) tally, stack, w⟩
      ⟨.call l e, .walk n frame e l rest { tally with invoked := tally.invoked + 1 } :: stack,
        w.invoke n frame l e⟩ := by
  have drains : State.drains m ⟨.call l e,
      .walk n frame e l rest { tally with invoked := tally.invoked + 1 } :: stack,
      w.invoke n frame l e⟩ =
      State.drains m ⟨.walk n frame e (l :: rest) tally, stack, w⟩ := by
    simp [State.drains, stackDrains, Control.drains, Waiting.drains]
  by_cases same : n = m
  · subst same
    refine .of invoke_posts (tallies_self ..) ?_ rfl drains rfl rfl
    simp [State.tallies, Control.tallies, Waiting.tallies]
  · refine .quiet (invoke_quiet same ..) ?_ drains rfl rfl
    simp [State.tallies, Control.tallies, Waiting.tallies, same]

theorem conclude_enters (o : Outcome Bool) (taken : Bool) :
    Enters m ⟨.walk n frame e [] tally, stack, w⟩
      ⟨.outcome o, stack, w.conclude n frame e taken tally⟩ := by
  by_cases same : n = m
  · subst same
    exact .of conclude_posts (tallies_self ..) rfl rfl rfl rfl rfl
  · refine .quiet (conclude_quiet same ..) ?_ rfl rfl rfl
    rw [tallies_other same]
    rfl

theorem consume_enters :
    Enters m ⟨.outcome (.returned true), .walk n frame e l rest tally :: stack, w⟩
      ⟨.outcome (.returned true), stack, (w.consume n frame l e).conclude n frame e true tally⟩ := by
  have called : Quiet m w (w.consume n frame l e) := .trans (.note (.refl w) rfl) (.still rfl rfl)
  by_cases same : n = m
  · subst same
    refine .of (.preceded called conclude_posts) ?_ rfl (drains_called ..) (Nat.zero_add _) rfl rfl
    rw [tallies_called, tallies_self]
    rfl
  · refine .quiet (called.trans (conclude_quiet same ..)) ?_ ?_ rfl rfl
    · rw [tallies_called, tallies_other same]
      rfl
    · rw [drains_called]
      exact Nat.zero_add _

theorem decline_enters :
    Enters m ⟨.outcome (.returned false), .walk n frame e l rest tally :: stack, w⟩
      ⟨.walk n frame e rest tally, stack, w.leave l⟩ := by
  refine .quiet (.still rfl rfl) ?_ ?_ rfl rfl
  · rw [tallies_called]
    rfl
  · rw [drains_called]
    exact Nat.zero_add _

theorem unwind_enters (message : String) :
    Enters m ⟨.outcome (.panicked message), .walk n frame e l rest tally :: stack, w⟩
      ⟨.outcome (.panicked message), stack, (w.leave l).unwindDispatch n frame⟩ := by
  have left : Quiet m w (w.leave l) := .still rfl rfl
  by_cases same : n = m
  · subst same
    refine .of (.preceded left (unwindDispatch_posts frame tally)) ?_ rfl (drains_called ..)
      (Nat.zero_add _) rfl ?_
    · rw [tallies_called, tallies_self]
      rfl
    · simp [State.unwinds]
  · refine .quiet (left.trans (unwindDispatch_quiet same frame)) ?_ ?_ rfl ?_
    · rw [tallies_called, tallies_other same]
      rfl
    · rw [drains_called]
      exact Nat.zero_add _
    · simpa [State.unwinds]

end Dispatches

section Drains

variable {budget : Option Duration} {started : Timestamp} {turns delivered : Nat}

theorem begin_enters (begun : (w.beginDrain n).1 = some (started, turns)) :
    Enters m ⟨.execute n budget, stack, w⟩
      ⟨.drain n budget started turns 0, stack, (w.beginDrain n).2⟩ := by
  by_cases same : n = m
  · subst same
    exact .of (beginDrain_posts begun) rfl rfl (Nat.zero_add _) (drains_self ..) rfl rfl
  · refine .quiet (beginDrain_quiet (.inl same)) rfl ?_ rfl rfl
    rw [drains_other _ _ _ _ same]
    exact (Nat.zero_add _).symm

/-- A drain ends by itself, after a last turn that takes nothing. -/
theorem endTurns_enters {v : World σ} (quiet : Quiet m w v) :
    Enters m ⟨.drain n budget started turns delivered, stack, w⟩ (endTurns stack n delivered v) := by
  have last : State.drains m (endTurns stack n delivered v) = stackDrains m stack := Nat.zero_add _
  by_cases same : n = m
  · subst same
    exact .of (.preceded quiet (finishDrain_posts delivered)) rfl rfl (drains_self ..) last rfl rfl
  · refine .quiet (quiet.trans (finishDrain_quiet same delivered)) rfl ?_ rfl rfl
    rw [drains_other _ _ _ _ same, last]

theorem take_enters (e : EventRef) :
    Enters m ⟨.drain n budget started (turns + 1) delivered, stack, w⟩
      ⟨.dispatch n e, .drain n budget started turns delivered :: stack,
        (w.takeDue n budget started delivered).2⟩ := by
  refine .quiet (takeDue_quiet ..) ?_ ?_ rfl rfl
  · simp [State.tallies, Control.tallies, Waiting.tallies]
  · simp [State.drains, stackDrains, Control.drains, Waiting.drains]

theorem unwindDrain_enters (message : String) :
    Enters m ⟨.outcome (.panicked message), .drain n budget started turns delivered :: stack, w⟩
      ⟨.outcome (.panicked message), stack, w.unwindDrain n⟩ := by
  have tallies : State.tallies m ⟨.outcome (.panicked message), stack, w.unwindDrain n⟩ =
      State.tallies m ⟨.outcome (.panicked message),
        .drain n budget started turns delivered :: stack, w⟩ := by
    simp [State.tallies, Control.tallies, Waiting.tallies]
  by_cases same : n = m
  · subst same
    refine .of unwindDrain_posts rfl tallies ?_ (Nat.zero_add _) rfl rfl
    rw [drains_push]
    simp only [Control.drains, Waiting.drains, if_true]
    omega
  · refine .quiet (unwindDrain_quiet same) tallies ?_ rfl rfl
    rw [drains_push]
    simp only [State.drains, Control.drains, Waiting.drains, if_neg same, Nat.zero_add]

end Drains

/-- Every step enters in the books of a manager what it notes in the journal. -/
theorem step_enters (settled : Settled c.world) (moved : step behaviour c = some d)
    (m : ManagerId) : Enters m c d := by
  cases step_moves moved with
  | finishes | panics | reads | changes | misses | handles | skips =>
    exact .quiet (.still rfl rfl) rfl rfl rfl rfl
  | carriesOut carried => exact carryOut_enters settled carried _
  | callsListener | dispatches | executes | answersCaller | panicsCaller | delivers =>
    refine .quiet (.still rfl rfl) ?_ ?_ rfl rfl
    · simp [State.tallies, Control.tallies, Waiting.tallies]
    · simp [State.drains, stackDrains, Control.drains, Waiting.drains]
  | @answers o =>
    refine .quiet (.still rfl rfl) ?_ ?_ rfl ?_
    · simp [State.tallies, Control.tallies, Waiting.tallies]
    · simp [State.drains, stackDrains, Control.drains, Waiting.drains]
    · cases o <;> rfl
  | receivesQuit => exact .quiet (receiveQuit_quiet _ _) rfl rfl rfl rfl
  | countsFrame => exact .quiet (countFrame_quiet _ _ _ _) rfl rfl rfl rfl
  | unheard unlisted => exact unheard_enters unlisted
  | heard listed => exact heard_enters listed
  | prunes => exact prune_enters settled
  | visits => exact visit_enters
  | concludes => exact conclude_enters _ _
  | refuses refused => exact .quiet (beginDrain_quiet (.inr refused)) rfl rfl rfl rfl
  | begins begun => exact begin_enters begun
  | ends => exact endTurns_enters (.refl _)
  | stops => exact endTurns_enters (takeDue_quiet ..)
  | takes => exact take_enters _
  | consumes => exact consume_enters
  | declines => exact decline_enters
  | unwindsDispatch => exact unwind_enters _
  | unwindsDrain => exact unwindDrain_enters _

end Machine
end EventEngine
