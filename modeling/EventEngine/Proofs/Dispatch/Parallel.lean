import EventEngine.Proofs.Dispatch.Ahead
import EventEngine.Proofs.Registry.Resemblance

/-! Two runs that differ in listeners that are gone only. Where one of them has such a listener
ahead, it passes over it while the other one waits; otherwise both go on in the same way, since
their frames tell the same of the living listeners. -/
namespace EventEngine

open Manager (Tally)

namespace World

variable {σ : Type} {a b w w' : World σ} {l : ListenerId} {m : ManagerId}

/-- The listener was made and does not live any more. -/
def isGone (w : World σ) (l : ListenerId) : Bool := decide (l < w.listeners.size) && !w.isAlive l

theorem isGone_iff : w.isGone l = true ↔ l < w.listeners.size ∧ w.isAlive l = false := by
  simp only [isGone, Bool.and_eq_true, decide_eq_true_eq, Bool.not_eq_true']

theorem isGone_of_known (known : l < w.listeners.size) : w.isGone l = !w.isAlive l := by
  rw [isGone, decide_eq_true known, Bool.true_and]

theorem not_isGone (alive : w.isAlive l = true) : w.isGone l = false := by
  rw [isGone, alive, Bool.not_true, Bool.and_false]

theorem not_isGone_of_roll (w : World σ) (l : ListenerId) (alive : w.roll.isAlive l = true) :
    w.isGone l = false :=
  not_isGone (isAlive_roll l w ▸ alive)

theorem Ages.isGone (ages : Ages w w') (l : ListenerId) (gone : w.isGone l = true) :
    w'.isGone l = true := by
  obtain ⟨known, dead⟩ := isGone_iff.mp gone
  exact isGone_iff.mpr ⟨Nat.lt_of_lt_of_le known ages.size, ages.gone l known dead⟩

theorem Beside.isGone {R : ManagerId → Manager → Manager → Prop} (beside : Beside R a b) :
    a.isGone = b.isGone := by
  funext l
  rw [World.isGone, World.isGone, beside.listeners, beside.isAlive]

/-- Every listener that is gone is taken off the lists of a manager, if there is this manager. -/
def sweep (m : ManagerId) (w : World σ) : World σ :=
  if m < w.managers.size then (w.pruneStale m).2 else w

/-- What happens to listeners that are gone is not seen. -/
abbrev Resembles (a b : World σ) : Prop := a.Beside (fun _ x y => x.Resembles a.isGone y) b

theorem Resembles.refl (w : World σ) : w.Resembles w := (Beside.refl w).mono fun _ _ => .refl _ _

/-- Only listeners that are gone are taken off. -/
theorem Settled.sweep (settled : Settled w) (m : ManagerId) : w.Resembles (w.sweep m) := by
  unfold World.sweep
  split
  · rename_i made
    have pruned : Becomes m ((w.manager m).pruneStale w.roll).2 w (w.pruneStale m).2 :=
      .note (.modify rfl) rfl
    refine (Resembles.refl w).becomes (.still made) pruned
      ⟨.prunes fun t l isListed => ?_, rfl, rfl, rfl⟩
    rw [isGone_of_known (settled.listed m t l isListed), isAlive_roll]
  · exact .refl w

/-- A dispatch that comes to a listener that is gone takes it off the list. -/
theorem pruneOne_resembles (made : m < w.managers.size) (gone : w.isGone l = true) (frame : UInt64)
    (t : TypeId) : w.Resembles (w.pruneOne m frame t l).2 :=
  (Resembles.refl w).becomes (.still made) (pruneOne_becomes m frame t l)
    ⟨.prune gone w.roll t _, rfl, rfl, rfl⟩

/-- A manager on which a dispatch is under way was made. -/
theorem made_of_frames {f : Frame} {others : List Frame}
    (frames : (w.registry m).frames = f :: others) : m < w.managers.size := by
  rcases Nat.lt_or_ge m w.managers.size with made | unmade
  · exact made
  · rw [registry, manager, Store.get_of_size_le _ unmade] at frames
    cases frames

end World

/-- A frame tells of a living listener that was on the list, or of which it already told. -/
theorem Registry.Notices.told {roll : Roll} {r r' : Registry} {f f' : Frame} {l : ListenerId}
    (notices : Notices roll r r' f f') (alive : roll.isAlive l = true)
    (accounted : f.TellsOf l ∨ l ∈ r.listed f.type) :
    f'.TellsOf l ↔ f.TellsOf l ∨ l ∉ r'.listed f.type := by
  by_cases isListed : l ∈ r.listed f.type
  · exact notices.departure l isListed alive
  · have told := accounted.resolve_right isListed
    exact ⟨fun _ => .inl told, fun _ => notices.remembers l told⟩

namespace Machine

open World

variable {σ : Type} {behaviour : Behaviour σ} {c c' d d' : State σ} {m : ManagerId} {w w' : World σ}

/-- Moments of two runs that differ in listeners that are gone only. -/
abbrev State.Resembles (c d : State σ) : Prop :=
  c.Beside (fun _ x y => x.Resembles c.world.isGone y)
    (Manager.Resembles.AheadAlike c.world.isGone) d

theorem State.Beside.walks {R : ManagerId → Manager → Manager → Prop}
    {P : List ListenerId × Tally → List ListenerId × Tally → Prop} (beside : c.Beside R P d)
    (m : ManagerId) : c.walks m = d.walks m := by
  obtain ⟨control, stack, w⟩ := c
  obtain ⟨control', stack', w'⟩ := d
  obtain ⟨controls, waiting, -⟩ := beside
  have front : control.walks m = control'.walks m := by cases controls <;> rfl
  have behind : stackWalks m stack = stackWalks m stack' := by
    clear controls
    change List.Forall₂ (Waiting.Beside P) stack stack' at waiting
    induction waiting with
    | nil => rfl
    | @cons top top' _ _ tops _ ih =>
      have same : top.walks m = top'.walks m := by cases tops <;> rfl
      simp only [stackWalks, List.flatMap_cons, same] at ih ⊢
      rw [ih]
  exact congrArg₂ (· ++ ·) front behind

/-! ### What frames tell -/

/-- The open frames of two runs tell the same of the living listeners that dispatches have ahead:
that they left the list, or nothing, and then they are still on it. -/
inductive Accord (w : World σ) (r : Registry) :
    List (List ListenerId) → List Frame → List Frame → Prop
  | nil : Accord w r [] [] []
  | cons {f f' : Frame} {rest : List ListenerId} {ahead : List (List ListenerId)}
    {frames frames' : List Frame} (types : f'.type = f.type)
    (told : ∀ l ∈ rest, w.isAlive l = true →
      (f.TellsOf l ↔ f'.TellsOf l) ∧ (f.TellsOf l ∨ l ∈ r.listed f.type))
    (older : Accord w r ahead frames frames') :
    Accord w r (rest :: ahead) (f :: frames) (f' :: frames')

variable {r r' s s' : Registry} {ahead ahead' : List (List ListenerId)} {frames frames' : List Frame}

/-- Both runs change the registry, and what living listeners find in it stays the same. -/
theorem Accord.noticed {change change' : Frame → Frame} (accord : Accord w r ahead frames frames')
    (fewer : List.Forall₂ (· ⊆ ·) ahead' ahead)
    (notices : ∀ f, Registry.Notices w.roll r r' f (change f))
    (notices' : ∀ f, Registry.Notices w.roll s s' f (change' f))
    (before : ∀ t l, w.isAlive l = true → (l ∈ r.listed t ↔ l ∈ s.listed t))
    (after : ∀ t l, w'.isAlive l = true → (l ∈ r'.listed t ↔ l ∈ s'.listed t))
    (lived : ∀ rest ∈ ahead, ∀ l ∈ rest, w'.isAlive l = true → w.isAlive l = true) :
    Accord w' r' ahead' (frames.map change) (frames'.map change') := by
  induction accord generalizing ahead' with
  | nil =>
    cases fewer
    exact .nil
  | @cons f f' rest ahead frames frames' types told older ih =>
    cases fewer with
    | cons first others =>
      refine .cons ?_ (fun l inRest alive => ?_)
        (ih others fun rest inside => lived rest (List.mem_cons_of_mem _ inside))
      · rw [(notices f).type, (notices' f').type, types]
      · have living := lived rest (List.mem_cons_self ..) l (first inRest) alive
        obtain ⟨same, accounted⟩ := told l (first inRest) living
        have living' : w.roll.isAlive l = true := by rw [isAlive_roll, living]
        have accounted' : f'.TellsOf l ∨ l ∈ s.listed f'.type := by
          rw [← same, types, ← before _ l living]
          exact accounted
        have tells := (notices f).told living' accounted
        have tells' := (notices' f').told living' accounted'
        rw [types, ← after _ l alive, ← same, ← tells] at tells'
        refine ⟨tells'.symm, ?_⟩
        rw [tells, (notices f).type]
        by_cases isListed : l ∈ r'.listed f.type
        · exact .inr isListed
        · exact .inl (.inr isListed)

/-- The lists stay as they are, and perhaps listeners die. -/
theorem Accord.kept (accord : Accord w r ahead frames frames')
    (lists : ∀ t, r'.listed t = r.listed t)
    (lived : ∀ rest ∈ ahead, ∀ l ∈ rest, w'.isAlive l = true → w.isAlive l = true) :
    Accord w' r' ahead frames frames' := by
  induction accord with
  | nil => exact .nil
  | @cons f f' rest ahead frames frames' types told older ih =>
    refine .cons types (fun l inRest alive => ?_)
      (ih fun rest inside => lived rest (List.mem_cons_of_mem _ inside))
    rw [lists]
    exact told l inRest (lived rest (List.mem_cons_self ..) l inRest alive)

/-! ### Two runs abreast -/

/-- Two runs that go on in the same way but for listeners that are gone. -/
structure Parallel (c d : State σ) : Prop where
  resembles : c.Resembles d
  accord : ∀ m, Accord c.world (c.world.registry m) (c.ahead m) (c.world.registry m).frames
    (d.world.registry m).frames
  left : Sound c
  right : Sound d

/-- Pruning happens besides. -/
theorem Goes.sweep (m : ManagerId) (c : State σ) : Goes c { c with world := c.world.sweep m } := by
  unfold World.sweep
  split
  · have altered : AltersRegistries c.world (c.world.pruneStale m).2 :=
      .note (.modifyManager Registry.pruneAll_alters)
    constructor
    · intro n
      exact .goesOn rfl (List.forall₂_same.mpr fun _ _ => List.Subset.refl _) (altered n)
    · exact .of_eq rfl rfl
  · exact .refl c

namespace Parallel

theorem mem_listed (resembles : c.Resembles d) (m : ManagerId) (t : TypeId) (l : ListenerId)
    (alive : c.world.isAlive l = true) :
    l ∈ (c.world.registry m).listed t ↔ l ∈ (d.world.registry m).listed t :=
  (resembles.world.managers m).registry.mem_listed (not_isGone alive)

/-- The frames go on telling the same, whatever happens in both runs. -/
theorem accords (parallel : Parallel c d) (left : Goes c c') (right : Goes d d')
    (resembles : c'.Resembles d') (m : ManagerId) :
    Accord c'.world (c'.world.registry m) (c'.ahead m) (c'.world.registry m).frames
      (d'.world.registry m).frames := by
  have accord := parallel.accord m
  have rolls := parallel.resembles.world.roll
  have lived := parallel.left.lived left m
  -- the same dispatches are under way before and after, so both runs proceed alike
  have walks := parallel.resembles.walks m
  have walks' := resembles.walks m
  cases left.proceeds m with
  | goesOn same fewer altered =>
    cases right.proceeds m with
    | goesOn same' fewer' altered' =>
      obtain ⟨change, frames, notices⟩ := altered.frames
      obtain ⟨change', frames', notices'⟩ := altered'.frames
      rw [← rolls] at notices'
      rw [frames, frames']
      exact accord.noticed fewer notices notices' (mem_listed parallel.resembles m)
        (mem_listed resembles m) lived
    | begins more =>
      exact (List.cons_ne_self _ _ (more.symm.trans (walks'.symm.trans (same.trans walks)))).elim
    | ends fewer' =>
      exact (List.cons_ne_self _ _
        (fewer'.symm.trans (walks.symm.trans (same.symm.trans walks')))).elim
  | @begins t more ahead opened =>
    cases right.proceeds m with
    | goesOn same' =>
      exact (List.cons_ne_self _ _ (more.symm.trans (walks'.trans (same'.trans walks.symm)))).elim
    | begins more' ahead' opened' =>
      obtain ⟨first, -⟩ := List.cons.inj (more.symm.trans (walks'.trans more'))
      obtain rfl := congrArg Prod.snd first
      rw [ahead, opened, opened']
      exact .cons rfl (fun l isListed _ => ⟨.rfl, .inr isListed⟩) (accord.kept (fun _ => rfl) lived)
    | ends fewer' =>
      have sizes := congrArg List.length fewer'
      rw [← walks, List.length_cons, ← walks', more, List.length_cons] at sizes
      omega
  | ends fewer ahead closed =>
    cases right.proceeds m with
    | goesOn same' =>
      exact (List.cons_ne_self _ _
        (fewer.symm.trans (walks.trans (same'.symm.trans walks'.symm)))).elim
    | begins more' =>
      have sizes := congrArg List.length fewer
      rw [walks, List.length_cons, walks', more', List.length_cons] at sizes
      omega
    | ends fewer' _ closed' =>
      obtain ⟨f, fs, frames, rfl, -, -⟩ := parallel.left.balanced.newest fewer
      obtain ⟨f', fs', frames', rfl, -, -⟩ := parallel.right.balanced.newest fewer'
      rw [closed, closed', Registry.endDispatch_newest frames, Registry.endDispatch_newest frames']
      rw [ahead, frames, frames'] at accord
      rw [ahead] at lived
      cases accord with
      | cons _ _ older =>
        exact older.kept (fun _ => rfl) fun rest inside => lived rest (List.mem_cons_of_mem _ inside)

/-- Whatever happens in both runs, they stay parallel if they go on resembling each other. -/
theorem move (parallel : Parallel c d) (left : Goes c c') (right : Goes d d')
    (beside : c'.Beside (fun _ x y => x.Resembles c.world.isGone y)
      (Manager.Resembles.AheadAlike c.world.isGone) d') : Parallel c' d' := by
  have still := left.ages.isGone
  have resembles : c'.Resembles d' := beside.mono (fun _ _ _ related => related.mono still)
    fun p q alike => by
      rw [Manager.Resembles.AheadAlike, ← remaining_remaining still, alike, remaining_remaining still]
  exact ⟨resembles, parallel.accords left right resembles, parallel.left.goes left,
    parallel.right.goes right⟩

/-- A manager of one run is pruned. -/
theorem sweep (parallel : Parallel c d) (m : ManagerId) :
    Parallel c { d with world := d.world.sweep m } := by
  obtain ⟨control, waiting, world⟩ := parallel.resembles
  refine parallel.move (.refl c) (.sweep m d) ⟨control, waiting, ?_⟩
  have swept := parallel.right.settled.sweep m
  rw [World.Resembles, ← world.isGone] at swept
  exact world.trans swept fun _ _ _ _ => .trans

end Parallel

/-! ### Results -/

/-- What a run asks of managers, and what comes of it. -/
inductive Report
  | dispatches (m : ManagerId) (e : EventRef)
  | executes (m : ManagerId) (budget : Option Duration)
  /-- A dispatch, a drain or a call of a listener has ended. -/
  | ended (o : Outcome Bool)
  | connects (m : ManagerId) (l : ListenerId) (t : TypeId)
    (result : Except RegistrationError Unit)
  | disconnects (m : ManagerId) (l : ListenerId) (t : TypeId)
    (result : Except RegistrationError Unit)

def State.report : State σ → Option Report
  | ⟨.dispatch m e, _, _⟩ => some (.dispatches m e)
  | ⟨.execute m budget, _, _⟩ => some (.executes m budget)
  | ⟨.outcome o, _, _⟩ => some (.ended o)
  | ⟨.program (.call (.tryConnect m l t) _), _, w⟩ => some (.connects m l t (w.tryConnect m l t).1)
  | ⟨.program (.call (.tryDisconnect m l t) _), _, w⟩ =>
    some (.disconnects m l t ((w.tryDisconnect m l t).1.map fun _ => ()))
  | _ => none

/-- What a run has reported before a moment. -/
def reports (run : Nat → Option (State σ)) (n : Nat) : List Report :=
  (List.range n).filterMap fun k => (run k).bind State.report

theorem reports_succ (run : Nat → Option (State σ)) {n : Nat} (here : run n = some c) :
    reports run (n + 1) = reports run n ++ c.report.toList := by
  rw [reports, filterMap_range_succ, here]
  rfl

theorem State.Resembles.report (resembles : c.Resembles d) : c.report = d.report := by
  obtain ⟨control, stack, a⟩ := c
  obtain ⟨control', stack', b⟩ := d
  obtain ⟨controls, waiting, world⟩ := resembles
  cases controls with
  | @program p =>
    cases p with
    | call op next =>
      cases op with
      | tryConnect m l t =>
        have same := (world.managers m).registry.connect_result (l := l) (t := t) (not_isGone_of_roll a)
        simp only [State.report, tryConnect_reply, same]
        rw [show a.roll = b.roll from world.roll]
      | tryDisconnect m l t =>
        have same := (world.managers m).registry.disconnect_result (l := l) (t := t)
        simp only [State.report, tryDisconnect_reply]
        exact congrArg (fun result => some (Report.disconnects m l t result)) same
      | _ => rfl
    | _ => rfl
  | _ => rfl

/-- A program that does not count on how many registrations of listeners there are that are gone,
nor on what a manager has counted. -/
def Indifferent (w : World σ) : (op : Op) → (Outcome op.Reply → Program σ Bool) → Prop
  | .tryDisconnect .., next => ∀ k k', next (.returned (.ok k)) = next (.returned (.ok k'))
  | .pruneStale _, next => ∀ k k', next (.returned k) = next (.returned k')
  | .inspect m, next => ∀ y, (w.manager m).Resembles w.isGone y →
    next (.returned (w.manager m)) = next (.returned y)
  | .validate m, next => ∀ y, (w.manager m).Resembles w.isGone y →
    next (.returned ((w.manager m).validate w.roll)) = next (.returned (y.validate w.roll))
  | _, _ => True

theorem Indifferent.agree {a b : World σ} {op : Op} {next : Outcome op.Reply → Program σ Bool}
    {x y : op.Reply × World σ} (indifferent : Indifferent a op next) (resembles : a.Resembles b)
    (left : a.carryOut op = some x) (right : b.carryOut op = some y) :
    next (.returned x.1) = next (.returned y.1) := by
  have reply (same : ∀ n, op.consulted = some n → a.manager n = b.manager n) : x.1 = y.1 :=
    resembles.reply (Manager.Resembles.unseen (not_isGone_of_roll a)) left right same
  cases op with
  | tryConnect m l t =>
    cases left
    cases right
    rw [tryConnect_reply, tryConnect_reply, ← resembles.roll,
      (resembles.managers m).registry.connect_result (not_isGone_of_roll a)]
  | tryDisconnect m l t =>
    cases left
    cases right
    rw [tryDisconnect_reply, tryDisconnect_reply]
    rcases (resembles.managers m).registry.disconnect (l := l) (t := t) with
      ⟨e, left, right⟩ | ⟨k, k', r', s', left, right, -⟩
    · rw [left, right]
    · rw [left, right]
      exact indifferent k k'
  | pruneStale m =>
    cases left
    cases right
    exact indifferent _ _
  | clearQueue m =>
    cases left
    cases right
    have same := congrArg Queue.length (resembles.managers m).queue
    exact congrArg _ (congrArg _ same)
  | now m =>
    cases left
    cases right
    have same := congrArg (·.read.1) (resembles.managers m).clock
    exact congrArg _ (congrArg _ same)
  | inspect m =>
    cases left
    cases right
    exact indifferent _ (resembles.managers m)
  | validate m =>
    cases left
    cases right
    rw [← resembles.roll]
    exact indifferent _ (resembles.managers m)
  | _ => exact congrArg _ (congrArg _ (reply nofun))

/-! ### Going on -/

/-- The number of listeners that a dispatch which is to go on has ahead. -/
def State.front (c : State σ) : Nat :=
  match c.control with
  | .walk _ _ _ rest _ => rest.length
  | _ => 0

/-- How two runs go on: both of them, or one that comes to a listener which is gone. -/
inductive Advances (behaviour : Behaviour σ) (c d : State σ) : Prop
  | ended (left : step behaviour c = none) (right : step behaviour d = none)
  | both {c' d' : State σ} (left : step behaviour c = some c') (right : step behaviour d = some d')
    (parallel : Parallel c' d')
  | left {c' : State σ} (moved : step behaviour c = some c') (parallel : Parallel c' d)
    (silent : c.report = none) (nearer : c'.front < c.front)
  | right {d' : State σ} (moved : step behaviour d = some d') (parallel : Parallel c d')
    (silent : d.report = none) (nearer : d'.front < d.front)

namespace Parallel

variable {n : ManagerId} {frame : UInt64} {e : EventRef} {l : ListenerId}
  {rest rest' : List ListenerId} {tally tally' : Tally} {stack stack' : List (Waiting σ)}
  {a b : World σ}

/-- A dispatch that comes to a listener that is gone takes it off the list and goes on. -/
theorem step_gone (gone : a.isGone l = true) :
    step behaviour ⟨.walk n frame e (l :: rest) tally, stack, a⟩ =
      some ⟨.walk n frame e rest
        { tally with pruned := tally.pruned + (a.pruneOne n frame e.typeId l).1.toNat }, stack,
        (a.pruneOne n frame e.typeId l).2⟩ := by
  simp only [step, visit, (isGone_iff.mp gone).2, if_true]

theorem walks_of_walk : State.walks n ⟨.walk n frame e rest tally, stack, a⟩ =
    (frame, e.typeId) :: stackWalks n stack := by
  simp only [State.walks, Control.walks, if_true, List.singleton_append]

theorem made (sound : Sound ⟨.walk n frame e rest tally, stack, a⟩) : n < a.managers.size := by
  obtain ⟨f, others, frames, -⟩ := sound.balanced.newest walks_of_walk
  exact made_of_frames frames

theorem passes_left (parallel : Parallel ⟨.walk n frame e (l :: rest) tally, stack, a⟩ d)
    (gone : a.isGone l = true) :
    Advances behaviour ⟨.walk n frame e (l :: rest) tally, stack, a⟩ d := by
  have passes : step behaviour ⟨.walk n frame e (l :: rest) tally, stack, a⟩ = some _ :=
    step_gone gone
  refine .left passes (parallel.move (.step passes) (.refl d) ?_) rfl (Nat.lt_succ_self _)
  obtain ⟨control', stack', b⟩ := d
  obtain ⟨control, waiting, world⟩ := parallel.resembles
  have pruned := pruneOne_resembles (made parallel.left) gone frame e.typeId
  refine ⟨?_, waiting, (pruned.symm fun _ _ _ => .symm).trans world fun _ _ _ _ => .trans⟩
  cases control with
  | walk alike =>
    refine .walk ?_
    simpa [Manager.Resembles.AheadAlike, gone] using alike

theorem passes_right (parallel : Parallel c ⟨.walk n frame e (l :: rest) tally, stack, b⟩)
    (gone : b.isGone l = true) :
    Advances behaviour c ⟨.walk n frame e (l :: rest) tally, stack, b⟩ := by
  have passes : step behaviour ⟨.walk n frame e (l :: rest) tally, stack, b⟩ = some _ :=
    step_gone gone
  refine .right passes (parallel.move (.refl c) (.step passes) ?_) rfl (Nat.lt_succ_self _)
  obtain ⟨control', stack', a⟩ := c
  obtain ⟨control, waiting, world⟩ := parallel.resembles
  have pruned := pruneOne_resembles (made parallel.right) gone frame e.typeId
  have same : a.isGone = b.isGone := world.isGone
  rw [World.Resembles, ← same] at pruned
  refine ⟨?_, waiting, world.trans pruned fun _ _ _ _ => .trans⟩
  cases control with
  | walk alike =>
    refine .walk ?_
    simpa [Manager.Resembles.AheadAlike, same, gone] using alike

/-- The frames of both dispatches tell the same of a living listener that is ahead. -/
theorem removedDuring_eq (parallel : Parallel ⟨.walk n frame e (l :: rest) tally, stack, a⟩
    ⟨.walk n frame e rest' tally', stack', b⟩) (alive : a.isAlive l = true) :
    (a.manager n).registry.removedDuring frame l = (b.manager n).registry.removedDuring frame l := by
  obtain ⟨f, fs, frames, number, -⟩ := parallel.left.balanced.newest walks_of_walk
  obtain ⟨f', fs', frames', number', -⟩ := parallel.right.balanced.newest walks_of_walk
  have accord := parallel.accord n
  simp only [State.ahead, Control.ahead, if_true, List.singleton_append, frames, frames'] at accord
  cases accord with
  | cons _ told _ =>
    have tells := Registry.removedDuring_newest (l := l) frames
    have tells' := Registry.removedDuring_newest (l := l) frames'
    rw [number] at tells
    rw [number'] at tells'
    rw [Bool.eq_iff_iff]
    exact tells.trans ((told l (List.mem_cons_self ..) alive).1.trans tells'.symm)

/-- Two dispatches that come to the same living listener, or to their ends, go on together. -/
theorem walks_together (parallel : Parallel ⟨.walk n frame e rest tally, stack, a⟩
    ⟨.walk n frame e rest' tally', stack', b⟩)
    (present : ∀ l, rest.head? = some l → a.isGone l = false)
    (present' : ∀ l, rest'.head? = some l → a.isGone l = false) :
    (visit stack a n frame e tally rest).Beside (fun _ x y => x.Resembles a.isGone y)
      (Manager.Resembles.AheadAlike a.isGone) (visit stack' b n frame e tally' rest') := by
  obtain ⟨control, waiting, world⟩ := parallel.resembles
  cases control with
  | walk alike =>
    cases rest with
    | nil =>
      cases rest' with
      | nil =>
        exact walked_beside (Manager.Resembles.unseen (not_isGone_of_roll a)) waiting world alike
          n frame e
      | cons l' rest' => simp [Manager.Resembles.AheadAlike, present' l' rfl] at alike
    | cons l rest =>
      cases rest' with
      | nil => simp [Manager.Resembles.AheadAlike, present l rfl] at alike
      | cons l' rest' =>
        have fronts : l = l' ∧ Remaining a.isGone rest = Remaining a.isGone rest' := by
          simpa [Manager.Resembles.AheadAlike, present l rfl, present' l' rfl] using alike
        obtain ⟨rfl, behind⟩ := fronts
        have known : l < a.listeners.size :=
          parallel.left.known n (l :: rest) (by simp [State.ahead, Control.ahead]) l
            (List.mem_cons_self ..)
        have alive : a.isAlive l = true := by
          have stays := present l rfl
          rwa [isGone_of_known known, Bool.not_eq_false'] at stays
        have same := parallel.removedDuring_eq alive
        cases told : (a.manager n).registry.removedDuring frame l with
        | false => exact visit_beside waiting world behind alive told (same ▸ told) e
        | true =>
          have told' : (b.manager n).registry.removedDuring frame l = true := same ▸ told
          have alive' : b.isAlive l = true := world.isAlive l ▸ alive
          simp only [visit, alive, alive', told, told', Bool.true_eq_false, if_false, if_true]
          exact ⟨.walk behind, waiting, world⟩

/-- Two parallel runs go on to moments where they are parallel again. -/
theorem advances (parallel : Parallel c d)
    (indifferent : ∀ op next, c.control = .program (.call op next) → Indifferent c.world op next) :
    Advances behaviour c d := by
  by_cases walks : ∃ n frame e rest tally, c.control = .walk n frame e rest tally
  · obtain ⟨control, stack, a⟩ := c
    obtain ⟨n, frame, e, rest, tally, rfl⟩ := walks
    obtain ⟨control', stack', b⟩ := d
    have same : a.isGone = b.isGone := parallel.resembles.world.isGone
    cases parallel.resembles.control with
    | @walk _ _ rest' tally' =>
      by_cases gone : ∃ l behind, rest = l :: behind ∧ a.isGone l = true
      · obtain ⟨l, behind, rfl, gone⟩ := gone
        exact parallel.passes_left gone
      · by_cases gone' : ∃ l behind, rest' = l :: behind ∧ a.isGone l = true
        · obtain ⟨l, behind, rfl, gone'⟩ := gone'
          exact parallel.passes_right (same ▸ gone')
        · have present (list : List ListenerId)
              (none : ¬∃ l behind, list = l :: behind ∧ a.isGone l = true) (l : ListenerId)
              (front : list.head? = some l) : a.isGone l = false := by
            obtain ⟨behind, rfl⟩ := List.head?_eq_some_iff.mp front
            exact Bool.eq_false_iff.mpr fun gone => none ⟨l, behind, rfl, gone⟩
          have together := parallel.walks_together (present rest gone) (present rest' gone')
          have left : step behaviour ⟨.walk n frame e rest tally, stack, a⟩ =
              some (visit stack a n frame e tally rest) := rfl
          have right : step behaviour ⟨.walk n frame e rest' tally', stack', b⟩ =
              some (visit stack' b n frame e tally' rest') := rfl
          exact .both left right (parallel.move (.step left) (.step right) together)
  · cases left : step behaviour c with
    | none =>
      obtain ⟨o, a, rfl⟩ := ended_of_stuck left
      obtain ⟨control', stack', b⟩ := d
      obtain ⟨control, waiting, -⟩ := parallel.resembles
      cases control
      cases waiting
      exact .ended left rfl
    | some c' =>
      have unseen := Manager.Resembles.unseen (not_isGone_of_roll c.world)
      obtain ⟨d', right, beside⟩ := step_beside unseen parallel.resembles
        (fun op next x y asks left right =>
          (indifferent op next asks).agree parallel.resembles.world left right)
        (fun n _ _ => unseen.begun (n := n) trivial (parallel.resembles.world.managers n))
        (fun n _ => unseen.turning (n := n) trivial)
        (fun n frame e rest tally walk => walks ⟨n, frame, e, rest, tally, walk⟩) left
      exact .both left right (parallel.move (.step left) (.step right) beside)

end Parallel

end Machine
end EventEngine
