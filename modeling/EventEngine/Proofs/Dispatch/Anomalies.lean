import EventEngine.Proofs.Dispatch.Walk
import EventEngine.Proofs.Machine.Becomes

/-! When a dispatch is counted as an anomaly. Its frame is marked by exactly those changes of
registrations that concern its category, whoever makes them and however deep within the calls of
its listeners, and the dispatch that closes the frame counts the mark unless somebody consumed the
event. -/
namespace EventEngine

/-- The anomalies that a manager has counted. -/
def World.anomalies {σ : Type} (m : ManagerId) (w : World σ) : Nat :=
  (w.manager m).counters.anomalies

namespace Machine

open World
open Registry (Marks)

/-- The next step changes the registrations of a category: a listener is connected, or one that is
registered is disconnected, or all listeners are cleared while there are some. -/
inductive Changes {σ : Type} (m : ManagerId) (t : TypeId) : State σ → Prop
  | connects (accepted : (w.tryConnect m l t).1 = .ok ()) :
    Changes m t ⟨.program (.call (.tryConnect m l t) next), stack, w⟩
  | disconnects (found : (w.tryDisconnect m l t).1 = .ok removed) (some : 0 < removed) :
    Changes m t ⟨.program (.call (.tryDisconnect m l t) next), stack, w⟩
  | clears (held : (w.registry m).listed t ≠ []) :
    Changes m t ⟨.program (.call (.clearListeners m) next), stack, w⟩

variable {σ : Type} {behaviour : Behaviour σ} {c d x : State σ} {m : ManagerId} {t : TypeId}
  {w : World σ} {stack : List (Waiting σ)} {base : List (Waiting σ)}

theorem Changes.registers {op : Op} {next : Outcome op.Reply → Program σ Bool}
    (changes : Changes m t ⟨.program (.call op next), stack, w⟩) :
    op.registers = true ∧ op.request?.map Prod.fst = some m := by
  cases changes <;> exact ⟨rfl, rfl⟩

/-- What waits beneath a change does not matter. -/
theorem Changes.over (changes : Changes m t c) (base : List (Waiting σ)) :
    Changes m t (c.over base) := by
  cases changes with
  | connects accepted => exact .connects accepted
  | disconnects found some => exact .disconnects found some
  | clears held => exact .clears held

/-- A change begins or ends no dispatch. -/
theorem Changes.walks (changes : Changes m t c) (moved : step behaviour c = some d) :
    d.walks m = c.walks m := by
  cases changes <;> cases moved <;> rfl

theorem tryConnect_marks (l : ListenerId) (t : TypeId)
    (next : Outcome (Except RegistrationError Unit) → Program σ Bool) :
    Marks (fun u => Changes m u ⟨.program (.call (.tryConnect m l t) next), stack, w⟩)
      (w.registry m) ((w.manager m).connect w.roll l t).2.registry := by
  have reply := tryConnect_reply (w := w) m l t
  unfold Manager.connect
  cases connected : (w.manager m).registry.connect w.roll l t with
  | ok registry =>
    rw [connected] at reply
    refine (Registry.connect_marks connected).congr fun u => ⟨?_, ?_⟩
    · rintro ⟨⟩
      rfl
    · rintro rfl
      exact .connects reply
  | error refusal =>
    rw [connected] at reply
    refine .still rfl fun u changes => ?_
    cases changes with
    | connects accepted => cases reply.symm.trans accepted

theorem tryDisconnect_marks (l : ListenerId) (t : TypeId)
    (next : Outcome (Except RegistrationError Nat) → Program σ Bool) :
    Marks (fun u => Changes m u ⟨.program (.call (.tryDisconnect m l t) next), stack, w⟩)
      (w.registry m) ((w.manager m).disconnect l t).2.registry := by
  have reply := tryDisconnect_reply (w := w) m l t
  unfold Manager.disconnect
  cases disconnected : (w.manager m).registry.disconnect l t with
  | ok result =>
    obtain ⟨removed, registry⟩ := result
    rw [disconnected] at reply
    refine (Registry.disconnect_marks disconnected).congr fun u => ⟨?_, ?_⟩
    · rintro (_ | ⟨found, some⟩ | _)
      cases reply.symm.trans found
      exact ⟨rfl, some⟩
    · rintro ⟨rfl, some⟩
      exact .disconnects reply some
  | error refusal =>
    rw [disconnected] at reply
    refine .still rfl fun u changes => ?_
    cases changes with
    | disconnects found => cases reply.symm.trans found

/-- An operation marks the frames of the categories whose registrations it changes. -/
theorem carryOut_marks {op : Op} {result : op.Reply × World σ}
    {next : Outcome op.Reply → Program σ Bool} (carried : w.carryOut op = some result) :
    Marks (fun t => Changes m t ⟨.program (.call op next), stack, w⟩) (w.registry m)
      (result.2.registry m) := by
  have elsewhere (n : ManagerId) (r : Manager.Request) (asks : op.request? = some (n, r))
      (other : n ≠ m) : Marks (fun t => Changes m t ⟨.program (.call op next), stack, w⟩)
        (w.registry m) (result.2.registry m) := by
    refine .still ?_ fun t changes => ?_
    · rw [World.registry, (carryOut_becomes asks carried).managers, if_neg other, World.registry]
    · have same := changes.registers.2
      rw [asks] at same
      exact other (Option.some.inj same)
  have here (r : Manager.Request) (asks : op.request? = some (m, r)) :
      result.2.registry m = (r.serve w.roll (w.manager m)).registry := by
    rw [World.registry, (carryOut_becomes asks carried).managers, if_pos rfl]
  cases registers : op.registers with
  | false =>
    refine .still (congrArg _ (carryOut_keeps carried registers m)) fun t changes => ?_
    rw [changes.registers.1] at registers
    cases registers
  | true =>
    cases op with
    | tryConnect n l t =>
      by_cases same : n = m
      · subst same
        rw [here _ rfl]
        exact tryConnect_marks l t next
      · exact elsewhere _ _ rfl same
    | tryDisconnect n l t =>
      by_cases same : n = m
      · subst same
        rw [here _ rfl]
        exact tryDisconnect_marks l t next
      · exact elsewhere _ _ rfl same
    | clearListeners n =>
      by_cases same : n = m
      · subst same
        rw [here _ rfl]
        refine Registry.clear_marks.congr fun u => ⟨?_, .clears⟩
        rintro (_ | _ | held)
        exact held
      · exact elsewhere _ _ rfl same
    | pruneStale n =>
      by_cases same : n = m
      · subst same
        rw [here _ rfl]
        exact .still rfl fun u changes => by cases changes
      · exact elsewhere _ _ rfl same
    | _ => cases registers

theorem pruneOne_frames (n : ManagerId) (frame : UInt64) (t : TypeId) (l : ListenerId) :
    ((w.pruneOne n frame t l).2.registry m).frames = (w.registry m).frames := by
  rw [World.registry, (pruneOne_becomes n frame t l).managers]
  split
  · rename_i same
    subst same
    exact Registry.prune_frames
  · rfl

/-- A dispatch of another manager ends. -/
theorem marks_of_closes {n : ManagerId} {frame : UInt64} {t : TypeId} {P : TypeId → Prop}
    (walks : c.walks m = (if n = m then [(frame, t)] else []) ++ d.walks m)
    (closes : Closes n frame c.world d.world) (steady : d.walks m = c.walks m)
    (none : ∀ t, ¬ P t) : Marks P (c.world.registry m) (d.world.registry m) := by
  have other : n ≠ m := by
    rintro rfl
    rw [if_pos rfl, steady] at walks
    exact List.cons_ne_self _ _ walks.symm
  exact .still (by rw [closes m, if_neg other]) none

/-- A step that begins or ends no dispatch marks the frames of the categories whose registrations it
changes. -/
theorem step_marks (moved : step behaviour c = some d) (steady : d.walks m = c.walks m) :
    Marks (fun t => Changes m t c) (c.world.registry m) (d.world.registry m) := by
  have rests (kept : KeepsRegistries c.world d.world) (none : ∀ t, ¬ Changes m t c) :
      Marks (fun t => Changes m t c) (c.world.registry m) (d.world.registry m) :=
    .still (congrArg Registry.frames (kept m)) none
  cases step_moves moved with
  | carriesOut carried => exact carryOut_marks carried
  | receivesQuit => exact rests (receiveQuit_keeps _ _) (by rintro _ ⟨⟩)
  | countsFrame => exact rests (countFrame_keeps _ _ _ _) (by rintro _ ⟨⟩)
  | unheard unlisted => exact rests (beginDispatch_keeps unlisted) (by rintro _ ⟨⟩)
  | refuses | begins => exact rests (beginDrain_keeps _) (by rintro _ ⟨⟩)
  | ends => exact rests (finishDrain_keeps _ _) (by rintro _ ⟨⟩)
  | stops => exact rests ((takeDue_keeps _ _ _ _).trans (finishDrain_keeps _ _)) (by rintro _ ⟨⟩)
  | takes => exact rests (takeDue_keeps _ _ _ _) (by rintro _ ⟨⟩)
  | unwindsDrain => exact rests (unwindDrain_keeps _) (by rintro _ ⟨⟩)
  | @heard list n e _ w listed =>
    have other : n ≠ m := by
      rintro rfl
      simp [State.walks, Control.walks] at steady
    refine .still ?_ (by rintro _ ⟨⟩)
    rw [beginDispatch_opens listed m, if_neg other]
  | prunes => exact .still (pruneOne_frames ..) (by rintro _ ⟨⟩)
  | concludes => exact marks_of_closes rfl (conclude_closes _ _ _ _ _) steady (by rintro _ ⟨⟩)
  | consumes => exact marks_of_closes rfl (conclude_closes _ _ _ _ _) steady (by rintro _ ⟨⟩)
  | unwindsDispatch => exact marks_of_closes rfl (unwindDispatch_closes _ _) steady (by rintro _ ⟨⟩)
  | _ => exact rests (.refl _) (by rintro _ ⟨⟩)

/-! ### The frame of a dispatch -/

/-- Registrations of a category change in a run of so many steps. -/
def ChangesWithin (behaviour : Behaviour σ) (m : ManagerId) (t : TypeId) (n : Nat) (c : State σ) :
    Prop :=
  ∃ j < n, ∃ d, after behaviour j c = some d ∧ Changes m t d

theorem changesWithin_succ {n : Nat} (here : after behaviour n c = some d) :
    ChangesWithin behaviour m t (n + 1) c ↔ ChangesWithin behaviour m t n c ∨ Changes m t d := by
  constructor
  · rintro ⟨j, early, x, there, changes⟩
    rcases Nat.lt_or_eq_of_le (Nat.le_of_lt_succ early) with before | rfl
    · exact .inl ⟨j, before, x, there, changes⟩
    · cases here.symm.trans there
      exact .inr changes
  · rintro (⟨j, early, x, there, changes⟩ | changes)
    · exact ⟨j, Nat.lt_succ_of_lt early, x, there, changes⟩
    · exact ⟨n, Nat.lt_succ_self n, d, here, changes⟩

/-- The frame of a dispatch, which stands on those of the dispatches that were under way before it,
tells at a moment whether registrations of its category have changed since the dispatch began. -/
def Records (behaviour : Behaviour σ) (c : State σ) (m : ManagerId) (t : TypeId) (frame : UInt64)
    (older i : Nat) (d : State σ) : Prop :=
  ∃ f, (d.world.registry m).frames.reverse[older]? = some f ∧ f.id = frame ∧ f.type = t ∧
    (f.mutated = true ↔ ChangesWithin behaviour m t i c)

/-- As long as the dispatch is under way, its frame goes on recording. -/
theorem Records.step {frame : UInt64} {i : Nat} (reachable : Reachable behaviour (c.over base))
    (records : Records behaviour c m t frame (stackWalks m base).length i d)
    (here : after behaviour i c = some d) (moved : step behaviour d = some x)
    (goesOn : x.walks m ≠ []) :
    Records behaviour c m t frame (stackWalks m base).length (i + 1) x := by
  obtain ⟨f, found, rfl, rfl, told⟩ := records
  by_cases steady : x.walks m = d.walks m
  · obtain ⟨change, frames, marks⟩ := step_marks moved steady
    obtain ⟨id, type, mutated⟩ := marks f
    refine ⟨change f, ?_, id, type, ?_⟩
    · rw [frames, ← List.map_reverse, List.getElem?_map, found, Option.map_some]
    · rw [mutated, told, changesWithin_succ here]
  · have balanced := (reachable.next ⟨i, after_over here base⟩).balanced
    refine ⟨f, frame_stays balanced found moved steady goesOn, rfl, rfl, ?_⟩
    rw [told, changesWithin_succ here]
    exact (or_iff_left fun changes => steady (changes.walks moved)).symm

/-- Nothing changes while a frame is opened. -/
theorem opening_changes_nothing {e : EventRef} :
    ¬ ChangesWithin behaviour m t 1 ⟨.dispatch m e, [], w⟩ := by
  rintro ⟨j, early, d, here, changes⟩
  obtain rfl : j = 0 := by omega
  cases here
  cases changes

/-- A frame records from the moment on at which it is opened. -/
theorem records_opened {e : EventRef} {list : List ListenerId}
    (heard : (w.registry m).table.list? e.typeId = some list)
    (reachable : Reachable behaviour (State.over base ⟨.dispatch m e, [], w⟩)) :
    Records behaviour ⟨.dispatch m e, [], w⟩ m e.typeId (w.registry m).nextFrame
      (stackWalks m base).length 1
      ⟨.walk m (w.registry m).nextFrame e list {}, [], (w.beginDispatch m e).2⟩ := by
  refine ⟨{ id := (w.registry m).nextFrame, type := e.typeId }, opened_newest heard reachable.balanced,
    rfl, rfl, ?_⟩
  simp only [Bool.false_eq_true, false_iff]
  exact opening_changes_nothing

/-! ### The count -/

/-- Whether a dispatch, followed by itself, makes the next step itself, and not a listener that it
calls. -/
def State.isOwn : State σ → Bool
  | ⟨_, [], _⟩ => true
  | ⟨.outcome _, [_], _⟩ => true
  | _ => false

/-- Within a call no step is the dispatch's own until the call has ended. -/
theorem step_none_of_isOwn {top : Waiting σ} (own : (c.over [top]).isOwn = true) :
    step behaviour c = none := by
  obtain ⟨control, stack, w⟩ := c
  cases stack with
  | nil =>
    cases control with
    | outcome o => rfl
    | _ => cases own
  | cons first others => cases others <;> cases control <;> simp [State.over, State.isOwn] at own

/-- By how much a dispatch, followed by itself, raises the count of anomalies of a manager in those
of so many steps that are its own. -/
def raised (behaviour : Behaviour σ) (m : ManagerId) : Nat → State σ → Int
  | 0, _ => 0
  | n + 1, c =>
    match step behaviour c with
    | none => 0
    | some d =>
      (if c.isOwn then (d.world.anomalies m : Int) - c.world.anomalies m else 0) +
        raised behaviour m n d

/-- A dispatch that came to such an answer in so many steps has raised the count of anomalies by
one, if it was not consumed and registrations of its category changed, and otherwise not at all. -/
def Judged (behaviour : Behaviour σ) (m : ManagerId) (e : EventRef) (w : World σ) (n : Nat)
    (consumed : Bool) : Prop :=
  ∃ anomaly : Bool, raised behaviour m n ⟨.dispatch m e, [], w⟩ = anomaly.toNat ∧
    (anomaly = true ↔
      consumed = false ∧ ChangesWithin behaviour m e.typeId n ⟨.dispatch m e, [], w⟩)

/-- A dispatch, followed by itself, has opened its frame and not closed it yet. -/
inductive Underway (m : ManagerId) (frame : UInt64) (e : EventRef) : State σ → Prop
  | walks {w : World σ} : Underway m frame e ⟨.walk m frame e rest tally, [], w⟩
  | calls (inner : State σ) : Underway m frame e (inner.over [.walk m frame e l rest tally])

variable {frame : UInt64} {e : EventRef}

theorem Underway.walks_ne_nil (underway : Underway m frame e c) : c.walks m ≠ [] := by
  cases underway with
  | walks => simp [State.walks, Control.walks]
  | calls inner => simp [walks_over, stackWalks, Waiting.walks]

/-- The frame of a dispatch is closed by a step of its own. -/
structure Closing (m : ManagerId) (frame : UInt64) (e : EventRef) (c d : State σ) : Prop where
  own : c.isOwn = true
  alone : c.walks m = [(frame, e.typeId)]
  ended : ∃ o v, d = ⟨.outcome o, [], v⟩ ∧ ∀ consumed, o = .returned consumed →
    ∃ tally, ∃ u : World σ, u.manager m = c.world.manager m ∧
      v = u.conclude m frame e consumed tally

theorem Underway.step (underway : Underway m frame e c) (moved : step behaviour c = some d) :
    (Underway m frame e d ∧ (c.isOwn = true → d.world.anomalies m = c.world.anomalies m)) ∨
      Closing m frame e c d := by
  cases underway with
  | @walks rest tally w =>
    cases rest with
    | nil =>
      cases moved
      exact .inr ⟨rfl, by simp [State.walks, Control.walks, stackWalks], _, _, rfl,
        fun consumed answer => by cases answer; exact ⟨tally, w, rfl, rfl⟩⟩
    | cons l rest =>
      have moves : Moves behaviour ⟨.walk m frame e (l :: rest) tally, [], w⟩
          (visit [] w m frame e tally (l :: rest)) := visit_moves ..
      obtain rfl : visit [] w m frame e tally (l :: rest) = d :=
        Option.some.inj (moves.step.symm.trans moved)
      generalize visit [] w m frame e tally (l :: rest) = x at moves
      cases moves with
      | prunes =>
        refine .inl ⟨.walks, fun _ => ?_⟩
        rw [World.anomalies, (pruneOne_becomes m frame e.typeId l).managers, if_pos rfl]
        rfl
      | skips => exact .inl ⟨.walks, fun _ => rfl⟩
      | visits => exact .inl ⟨.calls ⟨.call l e, [], w.invoke m frame l e⟩, fun _ => rfl⟩
  | @calls l rest tally inner =>
    cases within : Machine.step behaviour inner with
    | some x =>
      cases (step_over within _).symm.trans moved
      refine .inl ⟨.calls x, fun own => ?_⟩
      cases within.symm.trans (step_none_of_isOwn own)
    | none =>
      obtain ⟨o, w, rfl⟩ := ended_of_stuck within
      cases o with
      | panicked message =>
        cases moved
        exact .inr ⟨rfl, by simp [State.walks, State.over, Control.walks, stackWalks, Waiting.walks],
          _, _, rfl, fun consumed answer => by cases answer⟩
      | returned consumed =>
        cases consumed with
        | true =>
          cases moved
          exact .inr ⟨rfl,
            by simp [State.walks, State.over, Control.walks, stackWalks, Waiting.walks], _, _, rfl,
            fun consumed answer => by cases answer; exact ⟨tally, w.consume m frame l e, rfl, rfl⟩⟩
        | false =>
          cases moved
          exact .inl ⟨.walks, fun _ => rfl⟩

/-- The dispatch that closes its frame counts an anomaly if the frame is marked and nobody consumed
the event. -/
theorem conclude_anomalies {f : Frame} {others : List Frame}
    (newest : (w.registry m).frames = f :: others) (consumed : Bool) (tally : Manager.Tally) :
    (w.conclude m f.id e consumed tally).anomalies m =
      w.anomalies m + (f.mutated && !consumed).toNat := by
  have marked : ((w.manager m).registry.endDispatch f.id).1 = f.mutated := by
    change (w.manager m).registry.frames = f :: others at newest
    simp [Registry.endDispatch, Registry.frame?, newest]
  rw [World.anomalies, (conclude_becomes m f.id e consumed tally).managers, if_pos rfl, ← marked]
  rfl

/-- What is left of a dispatch whose frame is open raises the count by what the frame tells in the
end. -/
theorem raised_rest {n i : Nat} {consumed : Bool} {v : World σ}
    (reachable : Reachable behaviour (c.over base)) (underway : Underway m frame e x)
    (here : after behaviour i c = some x)
    (records : Records behaviour c m e.typeId frame (stackWalks m base).length i x)
    (run : after behaviour n x = some ⟨.outcome (.returned consumed), [], v⟩) :
    ∃ anomaly : Bool, raised behaviour m n x = anomaly.toNat ∧
      (anomaly = true ↔ consumed = false ∧ ChangesWithin behaviour m e.typeId (i + n) c) := by
  induction n generalizing i x with
  | zero =>
    cases run
    exact (underway.walks_ne_nil rfl).elim
  | succ n ih =>
    obtain ⟨y, moved, rest⟩ := Option.bind_eq_some_iff.mp run
    rcases underway.step moved with ⟨goesOn, still⟩ | closing
    · obtain ⟨anomaly, count, judged⟩ := ih goesOn (after_next here moved)
        (records.step reachable here moved goesOn.walks_ne_nil) rest
      refine ⟨anomaly, ?_, by rwa [Nat.add_right_comm] at judged⟩
      have own : (if x.isOwn then (y.world.anomalies m : Int) - x.world.anomalies m else 0) = 0 := by
        split
        · rename_i own
          rw [still own, Int.sub_self]
        · rfl
      simp only [raised, moved, own, count, Int.zero_add]
    · obtain ⟨o, u, rfl, concluded⟩ := closing.ended
      obtain rfl : n = 0 := Nat.le_zero.mp (le_of_ended rfl rest)
      cases rest
      obtain ⟨tally, before, same, rfl⟩ := concluded consumed rfl
      obtain ⟨f, found, rfl, -, told⟩ := records
      have balanced := (reachable.next ⟨i, after_over here base⟩).balanced
      obtain ⟨others, newest⟩ := frame_newest balanced closing.alone found
      have steady : ¬ Changes m e.typeId x := fun changes => by
        have walks := changes.walks moved
        rw [closing.alone] at walks
        cases walks
      have count : (before.conclude m f.id e consumed tally).anomalies m =
          x.world.anomalies m + (f.mutated && !consumed).toNat := by
        rw [conclude_anomalies (by rwa [World.registry, same]), World.anomalies, same, ← World.anomalies]
      refine ⟨f.mutated && !consumed, ?_, ?_⟩
      · simp only [raised, moved, closing.own, if_true, count]
        omega
      · rw [changesWithin_succ here, or_iff_left steady, ← told]
        cases consumed <;> simp

theorem Judged.of_returned {n : Nat} {consumed : Bool} {v : World σ}
    (reachable : Reachable behaviour ⟨.dispatch m e, base, w⟩)
    (run : after behaviour n ⟨.dispatch m e, [], w⟩ =
      some ⟨.outcome (.returned consumed), [], v⟩) : Judged behaviour m e w n consumed := by
  cases n with
  | zero => cases run
  | succ n =>
    obtain ⟨x, moved, rest⟩ := Option.bind_eq_some_iff.mp run
    cases heard : (w.registry m).table.list? e.typeId with
    | none =>
      cases moved.symm.trans (step_dispatch_none heard)
      obtain rfl : n = 0 := Nat.le_zero.mp (le_of_ended rfl rest)
      have counted : (w.beginDispatch m e).2.anomalies m = w.anomalies m := by
        obtain ⟨w', begun, becomes⟩ := beginDispatch_unheard heard
        rw [begun, World.anomalies, becomes.managers, if_pos rfl]
        rfl
      refine ⟨false, ?_, ?_⟩
      · simp only [raised, moved, State.isOwn, if_true, counted, Int.sub_self, Int.zero_add]
        rfl
      · simp only [Bool.false_eq_true, false_iff, not_and]
        exact fun _ => opening_changes_nothing
    | some list =>
      cases moved.symm.trans (step_dispatch_some heard)
      obtain ⟨anomaly, count, judged⟩ := raised_rest reachable .walks (after_one moved)
        (records_opened heard reachable) rest
      refine ⟨anomaly, ?_, by rwa [Nat.add_comm] at judged⟩
      have opened : (w.beginDispatch m e).2.anomalies m = w.anomalies m := by
        obtain ⟨w', begun, becomes⟩ := beginDispatch_heard heard
        rw [begun, World.anomalies, becomes.managers, if_pos rfl]
        rfl
      simp only [raised, moved, State.isOwn, if_true, opened, count, Int.sub_self, Int.zero_add]

/-- A dispatch that returns, whatever its listeners do, has itself counted an anomaly exactly if
nobody consumed its event and registrations of its category changed in the meantime. The same goes
for the dispatches that its listeners ask for in turn, and what changes during one of them changes
during the ones around it. -/
theorem anomalies_are_unconsumed_changes {n : Nat} {consumed : Bool} {v : World σ}
    (reachable : Reachable behaviour ⟨.dispatch m e, base, w⟩)
    (run : after behaviour n ⟨.dispatch m e, [], w⟩ =
      some ⟨.outcome (.returned consumed), [], v⟩) :
    Judged behaviour m e w n consumed ∧
    ∀ i e' above u k consumed' v',
      after behaviour i ⟨.dispatch m e, [], w⟩ = some ⟨.dispatch m e', above, u⟩ →
      after behaviour k ⟨.dispatch m e', [], u⟩ = some ⟨.outcome (.returned consumed'), [], v'⟩ →
      Judged behaviour m e' u k consumed' ∧
      ∀ t, ChangesWithin behaviour m t k ⟨.dispatch m e', [], u⟩ →
        ChangesWithin behaviour m t n ⟨.dispatch m e, [], w⟩ := by
  refine ⟨.of_returned reachable run, fun i e' above u k consumed' v' nested returned => ⟨?_, ?_⟩⟩
  · exact .of_returned (reachable.next ⟨i, after_over nested base⟩) returned
  · rintro t ⟨j, early, d, here, changes⟩
    have there : after behaviour (i + j) ⟨.dispatch m e, [], w⟩ = some (d.over above) := by
      rw [after_add, nested, Option.bind_some]
      exact after_over here above
    have inside : i + j ≠ n := by
      rintro rfl
      have ended := run.symm.trans there
      cases changes <;> cases ended
    exact ⟨i + j, Nat.lt_of_le_of_ne (le_of_ended run there) inside, _, there, changes.over above⟩

/-- The listener answers the first event by having another one of the same category dispatched, and
during that dispatch it connects another listener and consumes. The change counts for the outer
dispatch, which nobody consumed, and not for the inner one. -/
theorem anomaly_of_nested_change :
    let t : TypeId := ⟨7⟩
    let behaviour : Behaviour Unit := fun _ e =>
      if e.id = 0 then do
        let _ ← Program.dispatchNew 0 (.plain t)
        pure false
      else do
        let _ ← Program.ask (.tryConnect 0 1 t)
        pure true
    let host : Program Unit Bool := do
      let m ← Program.ask (.newManager default)
      let l ← Program.ask (.newListener "listener" .custom)
      let _ ← Program.ask (.newListener "other" .custom)
      let _ ← Program.ask (.tryConnect m l t)
      Program.dispatchNew m (.plain t)
    ∃ e stack w n v e' above u k v',
      Reaches behaviour (start host ()) ⟨.dispatch 0 e, stack, w⟩ ∧
      after behaviour n ⟨.dispatch 0 e, [], w⟩ = some ⟨.outcome (.returned false), [], v⟩ ∧
      Reaches behaviour ⟨.dispatch 0 e, [], w⟩ ⟨.dispatch 0 e', above, u⟩ ∧
      after behaviour k ⟨.dispatch 0 e', [], u⟩ = some ⟨.outcome (.returned true), [], v'⟩ ∧
      ChangesWithin behaviour 0 t k ⟨.dispatch 0 e', [], u⟩ ∧
      raised behaviour 0 n ⟨.dispatch 0 e, [], w⟩ = 1 ∧
      raised behaviour 0 k ⟨.dispatch 0 e', [], u⟩ = 0 := by
  intro t behaviour host
  have ran : (after behaviour 6 (start host ())).any (State.atDispatch fun m e w => m == 0 &&
      e.typeId == t && (after behaviour 15 ⟨.dispatch m e, [], w⟩).any (State.hasReturned false) &&
      (after behaviour 5 ⟨.dispatch m e, [], w⟩).any (State.atDispatch fun m' e' u => m' == 0 &&
        (after behaviour 6 ⟨.dispatch m' e', [], u⟩).any (State.hasReturned true) &&
        (after behaviour 3 ⟨.dispatch m' e', [], u⟩).any (State.atCall fun op v =>
          op.request? == some (m', .connect 1 t) && (v.tryConnect m' 1 t).1.isOk))) = true := by cbv
  obtain ⟨c, run, told⟩ := (Option.any_eq_true ..).mp ran
  obtain ⟨m, e, stack, w, rfl, checked⟩ := atDispatch_sound told
  simp only [Bool.and_eq_true, beq_iff_eq] at checked
  obtain ⟨⟨⟨rfl, type⟩, ended⟩, within⟩ := checked
  obtain ⟨d, last, returned⟩ := (Option.any_eq_true ..).mp ended
  obtain ⟨v, rfl⟩ := hasReturned_iff.mp returned
  obtain ⟨d, nested, told⟩ := (Option.any_eq_true ..).mp within
  obtain ⟨m', e', above, u, rfl, checked⟩ := atDispatch_sound told
  simp only [Bool.and_eq_true, beq_iff_eq] at checked
  obtain ⟨⟨rfl, ended⟩, connects⟩ := checked
  obtain ⟨d, last', returned⟩ := (Option.any_eq_true ..).mp ended
  obtain ⟨v', rfl⟩ := hasReturned_iff.mp returned
  obtain ⟨x, there, told⟩ := (Option.any_eq_true ..).mp connects
  obtain ⟨op, next, below, z, rfl, checked⟩ := atCall_sound told
  simp only [Bool.and_eq_true, beq_iff_eq] at checked
  obtain ⟨asks, accepted⟩ := checked
  obtain rfl : op = .tryConnect 0 1 t := Op.request?_eq_some_iff.mp asks
  have changes : ChangesWithin behaviour 0 t 6 ⟨.dispatch 0 e', [], u⟩ := by
    refine ⟨3, by decide, _, there, .connects ?_⟩
    cases reply : (z.tryConnect 0 1 t).1 with
    | ok done => rfl
    | error refusal =>
      rw [reply] at accepted
      cases accepted
  obtain ⟨⟨outer, count, judged⟩, all⟩ := anomalies_are_unconsumed_changes ⟨host, (), 6, run⟩ last
  obtain ⟨⟨inner, count', judged'⟩, around⟩ := all 5 e' above u 6 true v' nested last'
  obtain rfl : outer = true := judged.mpr ⟨rfl, type ▸ around t changes⟩
  obtain rfl : inner = false := by simpa using judged'
  exact ⟨e, stack, w, 15, v, e', above, u, 6, v', ⟨6, run⟩, last, ⟨5, nested⟩, last', changes,
    count, count'⟩

end Machine
end EventEngine
