import EventEngine.Proofs.Machine.Becomes
import EventEngine.Proofs.Queue.Batch

/-! Two runs side by side. Their worlds differ in the managers only, and what waits differs in the
listeners that dispatches still have to come to. If the difference between managers is one that no
act brings to light, both runs go the same way. -/
namespace EventEngine

open Manager (Tally)

namespace World

variable {σ : Type} {a a' b b' : World σ} {n : ManagerId} {x y : Manager}
  {R : ManagerId → Manager → Manager → Prop}

/-- Two worlds that differ in their managers only, and these are related. -/
structure Beside (R : ManagerId → Manager → Manager → Prop) (a b : World σ) : Prop where
  managers : ∀ n, R n (a.manager n) (b.manager n)
  size : a.managers.size = b.managers.size
  surroundings : a.surroundings = b.surroundings

namespace Beside

theorem refl (w : World σ) : Beside (fun _ x y => x = y) w w := ⟨fun _ => rfl, rfl, rfl⟩

theorem mono {S : ManagerId → Manager → Manager → Prop} (beside : Beside R a b)
    (weaker : ∀ n, R n (a.manager n) (b.manager n) → S n (a.manager n) (b.manager n)) :
    Beside S a b :=
  ⟨fun n => weaker n (beside.managers n), beside.size, beside.surroundings⟩

theorem symm (symmetric : ∀ n x y, R n x y → R n y x) (beside : Beside R a b) : Beside R b a :=
  ⟨fun n => symmetric _ _ _ (beside.managers n), beside.size.symm, beside.surroundings.symm⟩

theorem trans {S T : ManagerId → Manager → Manager → Prop} (first : Beside R a b)
    (second : Beside S b b') (both : ∀ n x y z, R n x y → S n y z → T n x z) : Beside T a b' :=
  ⟨fun n => both _ _ _ _ (first.managers n) (second.managers n), first.size.trans second.size,
    first.surroundings.trans second.surroundings⟩

theorem listeners (beside : Beside R a b) : a.listeners = b.listeners :=
  congrArg Surroundings.listeners beside.surroundings

theorem running (beside : Beside R a b) : a.running = b.running :=
  congrArg Surroundings.running beside.surroundings

theorem current (beside : Beside R a b) : a.current = b.current :=
  congrArg Surroundings.current beside.surroundings

theorem nextEvent (beside : Beside R a b) : a.nextEvent = b.nextEvent :=
  congrArg Surroundings.nextEvent beside.surroundings

theorem memory (beside : Beside R a b) : a.memory = b.memory :=
  congrArg Surroundings.memory beside.surroundings

theorem invocations (beside : Beside R a b) : a.invocations = b.invocations :=
  congrArg Surroundings.invocations beside.surroundings

theorem listener (beside : Beside R a b) (l : ListenerId) : a.listener l = b.listener l := by
  rw [World.listener, World.listener, beside.listeners]

theorem isAlive (beside : Beside R a b) (l : ListenerId) : a.isAlive l = b.isAlive l := by
  rw [World.isAlive, World.isAlive, beside.listener, beside.running]

theorem roll (beside : Beside R a b) : a.roll = b.roll := by
  funext l
  rw [World.roll, World.roll, beside.isAlive, beside.listener]

/-- The same happens to what surrounds the managers. -/
theorem around (beside : Beside R a b) (left : a'.managers = a.managers)
    (right : b'.managers = b.managers) (change : Surroundings σ → Surroundings σ)
    (changed : a'.surroundings = change a.surroundings)
    (changed' : b'.surroundings = change b.surroundings) : Beside R a' b' where
  managers := fun n => by
    rw [manager, manager, left, right]
    exact beside.managers n
  size := by rw [left, right, beside.size]
  surroundings := by rw [changed, changed', beside.surroundings]

/-- One manager becomes another one in both worlds. -/
theorem replace {S : ManagerId → Manager → Manager → Prop} (beside : Beside S a b)
    (left : Becomes n x a a') (right : Becomes n y b b') (related : R n x y)
    (others : ∀ k ≠ n, S k (a.manager k) (b.manager k) → R k (a.manager k) (b.manager k)) :
    Beside R a' b' where
  managers := fun k => by
    rw [left.managers, right.managers]
    split
    · rename_i same
      exact same ▸ related
    · rename_i other
      exact others k (Ne.symm other) (beside.managers k)
  size := by rw [left.size, right.size, beside.size]
  surroundings := by rw [left.surroundings, right.surroundings, beside.surroundings]

theorem becomes (beside : Beside R a b) (left : Becomes n x a a') (right : Becomes n y b b')
    (related : R n x y) : Beside R a' b' :=
  beside.replace left right related fun _ _ => id

theorem note {h h' : Happening} (beside : Beside R a b) (same : h.invocation = h'.invocation) :
    Beside R (a.note h) (b.note h') := by
  refine beside.around rfl rfl
    (fun s => { s with invocations := s.invocations ++ h.invocation }) ?_ ?_
  · simp only [World.surroundings, invocations_note]
    rfl
  · simp only [World.surroundings, invocations_note, same]
    rfl

theorem enter (beside : Beside R a b) (l : ListenerId) : Beside R (a.enter l) (b.enter l) :=
  beside.around rfl rfl (fun s => { s with running := l :: s.running }) rfl rfl

theorem leave (beside : Beside R a b) (l : ListenerId) : Beside R (a.leave l) (b.leave l) :=
  beside.around rfl rfl (fun s => { s with running := s.running.erase l }) rfl rfl

theorem modifyListener (beside : Beside R a b) (l : ListenerId) (f : Listener → Listener) :
    Beside R (a.modifyListener l f) (b.modifyListener l f) :=
  beside.around rfl rfl (fun s => { s with listeners := s.listeners.modify l f }) rfl rfl

theorem receiveQuit (beside : Beside R a b) (l : ListenerId) (e : EventRef) :
    (a.receiveQuit l e).1 = (b.receiveQuit l e).1 ∧
      Beside R (a.receiveQuit l e).2 (b.receiveQuit l e).2 := by
  unfold World.receiveQuit
  split
  · exact ⟨rfl, (beside.note rfl).modifyListener l _⟩
  · exact ⟨rfl, beside⟩

theorem countFrame (beside : Beside R a b) (l : ListenerId) (updates renders : Nat) (e : EventRef) :
    Beside R (a.countFrame l updates renders e) (b.countFrame l updates renders e) := by
  unfold World.countFrame
  split
  · exact beside.modifyListener l _
  · exact beside.modifyListener l _
  · exact beside

end Beside

end World

/-- A relation between the managers of two runs, and one between how far two walks of the same
dispatch have come, that are kept by all acts but those within walks. It shows itself in none of
them, nor in drains of some managers. -/
structure Unseen (roll : Roll) (drained : ManagerId → Prop)
    (R : ManagerId → Manager → Manager → Prop)
    (P : List ListenerId × Tally → List ListenerId × Tally → Prop) : Prop where
  holders : R n x y → x.holders = y.holders
  fresh : R n default default → R n (.fresh clock) (.fresh clock)
  request : ∀ r : Manager.Request, R n x y → R n (r.serve roll x) (r.serve roll y)
  release : R n x y → R n x.release y.release
  nextFrame : R n x y → x.registry.nextFrame = y.registry.nextFrame
  lists : ∀ t, R n x y → Option.Rel (fun list list' => P (list, {}) (list', {}))
    (x.registry.table.list? t) (y.registry.table.list? t)
  unheard : R n x y → R n x.countUnheard y.countUnheard
  opened : ∀ t, R n x y → R n (x.openFrame t) (y.openFrame t)
  closed : ∀ frame, R n x y → R n (x.closeFrame frame) (y.closeFrame frame)
  concluded : ∀ frame consumed, P (rest, tally) (rest', tally') → R n x y →
    R n (x.conclude frame consumed tally) (y.conclude frame consumed tally')
  begun : drained n → R n x y → x.beginDrain.1 = y.beginDrain.1 ∧ R n x.beginDrain.2 y.beginDrain.2
  taken : ∀ budget started, drained n → R n x y →
    (x.takeDue budget started).1 = (y.takeDue budget started).1 ∧
      R n (x.takeDue budget started).2 (y.takeDue budget started).2
  ended : drained n → R n x y → R n x.endDrain y.endDrain
  finished : drained n → R n x y →
    x.finishDrain.1 = y.finishDrain.1 ∧ R n x.finishDrain.2 y.finishDrain.2

/-- Drains of two managers begin alike. -/
def BeginAlike (R : Manager → Manager → Prop) (x y : Manager) : Prop :=
  x.beginDrain.1 = y.beginDrain.1 ∧ R x.beginDrain.2 y.beginDrain.2

/-- A relation between two managers that does not show itself in drains under way. -/
structure Turning (R : Manager → Manager → Prop) : Prop where
  taken : ∀ budget started, R x y →
    (x.takeDue budget started).1 = (y.takeDue budget started).1 ∧
      R (x.takeDue budget started).2 (y.takeDue budget started).2
  ended : R x y → R x.endDrain y.endDrain
  finished : R x y → x.finishDrain.1 = y.finishDrain.1 ∧ R x.finishDrain.2 y.finishDrain.2

theorem Unseen.turning {roll : Roll} {drained : ManagerId → Prop}
    {R : ManagerId → Manager → Manager → Prop}
    {P : List ListenerId × Tally → List ListenerId × Tally → Prop} {n : ManagerId}
    (unseen : Unseen roll drained R P) (drains : drained n) : Turning (R n) :=
  ⟨fun budget started => unseen.taken budget started drains, unseen.ended drains,
    unseen.finished drains⟩

/-- The manager that an operation looks into. -/
def Op.consulted : Op → Option ManagerId
  | .tryConnect m .. | .tryDisconnect m .. | .pruneStale m | .clearQueue m | .now m | .inspect m
  | .validate m => some m
  | _ => none

namespace World

variable {σ : Type} {a b : World σ} {n : ManagerId} {R : ManagerId → Manager → Manager → Prop}
  {P : List ListenerId × Tally → List ListenerId × Tally → Prop} {drained : ManagerId → Prop}
  {roll : Roll}

theorem Beside.processWide (unseen : Unseen roll drained R P) (beside : Beside R a b) :
    a.processWide = b.processWide := by
  have alive (m : ManagerId) : (a.manager m).isAlive = (b.manager m).isAlive := by
    rw [Manager.isAlive, Manager.isAlive, unseen.holders (beside.managers m)]
  simp only [World.processWide, beside.current, alive]

theorem Beside.newManager (unseen : Unseen roll drained R P) (beside : Beside R a b)
    (clock : Clock) :
    (a.newManager clock).1 = (b.newManager clock).1 ∧
      Beside R (a.newManager clock).2 (b.newManager clock).2 := by
  have made : Beside R { a with managers := a.managers.push (.fresh clock) }
      { b with managers := b.managers.push (.fresh clock) } := by
    refine ⟨fun n => ?_, ?_, beside.surroundings⟩
    · simp only [manager, Store.get_push, beside.size]
      split
      · rename_i last
        have before := beside.managers n
        rw [manager, manager, Store.get_of_size_le _ (beside.size ▸ last.ge),
          Store.get_of_size_le _ last.ge] at before
        exact unseen.fresh before
      · exact beside.managers n
    · rw [Store.size_push, Store.size_push, beside.size]
  refine ⟨?_, ?_⟩
  · simp only [World.newManager]
    rw [beside.processWide unseen]
    split <;> exact beside.size
  · simp only [World.newManager]
    rw [beside.processWide unseen]
    split
    · exact .note made rfl
    · exact .note (made.around rfl rfl (fun s => { s with current := some a.managers.size }) rfl
        (by rw [beside.size]; rfl)) rfl

theorem Beside.releaseManager (unseen : Unseen roll drained R P) (beside : Beside R a b)
    (n : ManagerId) : Beside R (a.releaseManager n) (b.releaseManager n) := by
  have left : Becomes n (a.manager n).release a (a.modifyManager n Manager.release) := .modify rfl
  have right : Becomes n (b.manager n).release b (b.modifyManager n Manager.release) := .modify rfl
  have released := beside.becomes left right (unseen.release (beside.managers n))
  have alive : ((a.modifyManager n Manager.release).manager n).isAlive =
      ((b.modifyManager n Manager.release).manager n).isAlive := by
    rw [Manager.isAlive, Manager.isAlive, unseen.holders (released.managers n)]
  change Beside R
    (if ((a.modifyManager n Manager.release).manager n).isAlive = false ∧
        (a.modifyManager n Manager.release).current = some n then _ else _)
    (if ((b.modifyManager n Manager.release).manager n).isAlive = false ∧
        (b.modifyManager n Manager.release).current = some n then _ else _)
  rw [alive, released.current]
  split
  · exact .note (released.around rfl rfl (fun s => { s with current := none }) rfl rfl) rfl
  · exact released

theorem Beside.served (unseen : Unseen a.roll drained R P) (beside : Beside R a b) {op : Op}
    {r : Manager.Request} {x y : op.Reply × World σ} (asks : op.request? = some (n, r))
    (left : a.carryOut op = some x) (right : b.carryOut op = some y) : Beside R x.2 y.2 := by
  refine beside.becomes (carryOut_becomes asks left) (carryOut_becomes asks right) ?_
  rw [← beside.roll]
  exact unseen.request r (beside.managers _)

/-- An operation that calls no listener keeps two worlds beside each other. -/
theorem Beside.carryOut (unseen : Unseen a.roll drained R P) (beside : Beside R a b) {op : Op}
    {x : op.Reply × World σ} (carried : a.carryOut op = some x) :
    ∃ y, b.carryOut op = some y ∧ Beside R x.2 y.2 := by
  cases op with
  | callListener | dispatch | execute => cases carried
  | newManager clock =>
    cases carried
    exact ⟨_, rfl, (beside.newManager unseen clock).2⟩
  | releaseManager m =>
    cases carried
    exact ⟨_, rfl, beside.releaseManager unseen m⟩
  | acquireCurrent =>
    cases carried
    refine ⟨_, rfl, ?_⟩
    simp only [World.acquireCurrent]
    rw [beside.processWide unseen]
    split
    · exact beside.becomes (.modify rfl) (.modify rfl) (unseen.request .hold (beside.managers _))
    · exact beside
  | newListener name role =>
    cases carried
    exact ⟨_, rfl, beside.around rfl rfl
      (fun s => { s with listeners := s.listeners.push ⟨name, role, true⟩ }) rfl rfl⟩
  | dropListener l =>
    cases carried
    exact ⟨_, rfl, beside.modifyListener l _⟩
  | newEvent e =>
    cases carried
    exact ⟨_, rfl, beside.around rfl rfl (fun s => { s with nextEvent := s.nextEvent + 1 }) rfl rfl⟩
  | note notice =>
    cases carried
    exact ⟨_, rfl, beside.note rfl⟩
  | isCurrent | nameOf | roleOf | inspect | validate =>
    cases carried
    exact ⟨_, rfl, beside⟩
  | holdManager | tryConnect | tryDisconnect | clearListeners | pruneStale | enqueue | dequeue
  | clearQueue | now | advance | setClock =>
    exact ⟨_, rfl, beside.served unseen rfl carried rfl⟩

/-- What an operation replies depends on the manager that it looks into, if it does, and on what
both worlds have in common. -/
theorem Beside.reply (unseen : Unseen roll drained R P) (beside : Beside R a b) {op : Op}
    {x y : op.Reply × World σ} (left : a.carryOut op = some x) (right : b.carryOut op = some y)
    (same : ∀ n, op.consulted = some n → a.manager n = b.manager n) : x.1 = y.1 := by
  cases op with
  | callListener | dispatch | execute => cases left
  | newManager clock =>
    cases left
    cases right
    exact (beside.newManager unseen clock).1
  | acquireCurrent =>
    cases left
    cases right
    simp only [World.acquireCurrent]
    rw [beside.processWide unseen]
    split <;> rfl
  | isCurrent m =>
    cases left
    cases right
    exact congrArg (· == some m) beside.current
  | newListener name role =>
    cases left
    cases right
    exact congrArg Store.size beside.listeners
  | dropListener l =>
    cases left
    cases right
    exact congrArg Listener.held (beside.listener l)
  | nameOf l =>
    cases left
    cases right
    exact congrFun beside.roll l
  | roleOf l =>
    cases left
    cases right
    exact congrArg Listener.role (beside.listener l)
  | newEvent e =>
    cases left
    cases right
    exact congrArg (EventRef.mk · e) beside.nextEvent
  | tryConnect m l t =>
    cases left
    cases right
    rw [tryConnect_reply, tryConnect_reply, same m rfl, beside.roll]
  | tryDisconnect m l t =>
    cases left
    cases right
    rw [tryDisconnect_reply, tryDisconnect_reply, same m rfl]
  | pruneStale m =>
    cases left
    cases right
    have pruned := congrArg₂ Manager.pruneStale beside.roll (same m rfl)
    exact congrArg (fun x : Nat × Manager => x.1) pruned
  | validate m =>
    cases left
    cases right
    exact congrArg₂ Manager.validate beside.roll (same m rfl)
  | clearQueue m =>
    cases left
    cases right
    exact congrArg (fun x => (Manager.clearQueue x).1) (same m rfl)
  | now m =>
    cases left
    cases right
    exact congrArg (fun x => (Manager.readClock x).1) (same m rfl)
  | inspect m =>
    cases left
    cases right
    exact same m rfl
  | holdManager | releaseManager | clearListeners | enqueue | dequeue | advance | setClock
  | note => rfl

theorem Beside.beginDrain (beside : Beside R a b)
    (begins : BeginAlike (R n) (a.manager n) (b.manager n)) :
    ∃ result a' b', a.beginDrain n = (result, a') ∧ b.beginDrain n = (result, b') ∧
      Beside R a' b' := by
  obtain ⟨a', left, becomes⟩ := beginDrain_becomes (w := a) n
  obtain ⟨b', right, becomes'⟩ := beginDrain_becomes (w := b) n
  obtain ⟨same, related⟩ := begins
  exact ⟨_, a', b', left, same ▸ right, beside.becomes becomes becomes' related⟩

theorem Beside.takeDue (beside : Beside R a b) (turning : Turning (R n)) (budget : Option Duration)
    (started : Timestamp) (delivered : Nat) :
    ∃ taken a' b', a.takeDue n budget started delivered = (taken, a') ∧
      b.takeDue n budget started delivered = (taken, b') ∧ Beside R a' b' := by
  obtain ⟨a', left, becomes⟩ := takeDue_becomes (w := a) n budget started delivered
  obtain ⟨b', right, becomes'⟩ := takeDue_becomes (w := b) n budget started delivered
  obtain ⟨same, related⟩ := turning.taken budget started (beside.managers n)
  exact ⟨_, a', b', left, same ▸ right, beside.becomes becomes becomes' related⟩

theorem Beside.finishDrain (beside : Beside R a b) (turning : Turning (R n)) (delivered : Nat) :
    ∃ drained a' b', a.finishDrain n delivered = (drained, a') ∧
      b.finishDrain n delivered = (drained, b') ∧ Beside R a' b' := by
  obtain ⟨a', left, becomes⟩ := finishDrain_becomes (w := a) n delivered
  obtain ⟨b', right, becomes'⟩ := finishDrain_becomes (w := b) n delivered
  obtain ⟨same, related⟩ := turning.finished (beside.managers n)
  exact ⟨_, a', b', left, same ▸ right, beside.becomes becomes becomes' related⟩

theorem Beside.unwindDrain (beside : Beside R a b) (turning : Turning (R n)) :
    Beside R (a.unwindDrain n) (b.unwindDrain n) :=
  (beside.becomes (endDrain_becomes n) (endDrain_becomes n)
    (turning.ended (beside.managers n))).note rfl

theorem Beside.conclude {rest rest' : List ListenerId} {tally tally' : Tally}
    (unseen : Unseen roll drained R P) (beside : Beside R a b)
    (alike : P (rest, tally) (rest', tally')) (frame : UInt64) (e : EventRef) (consumed : Bool) :
    Beside R (a.conclude n frame e consumed tally) (b.conclude n frame e consumed tally') :=
  beside.becomes (conclude_becomes n frame e consumed tally)
    (conclude_becomes n frame e consumed tally')
    (unseen.concluded frame consumed alike (beside.managers n))

theorem Beside.unwindDispatch (unseen : Unseen roll drained R P) (beside : Beside R a b)
    (frame : UInt64) : Beside R (a.unwindDispatch n frame) (b.unwindDispatch n frame) :=
  (beside.becomes (closeFrame_becomes n frame) (closeFrame_becomes n frame)
    (unseen.closed frame (beside.managers n))).note rfl

end World

/-! ### Moments of two runs -/

namespace Machine

open World

variable {σ : Type}

/-- What waits in two runs at the same place. -/
inductive Waiting.Beside (P : List ListenerId × Tally → List ListenerId × Tally → Prop) :
    Waiting σ → Waiting σ → Prop
  | program : Beside P (.program next) (.program next)
  | direct : Beside P (.direct l next) (.direct l next)
  | walk (alike : P (rest, tally) (rest', tally')) :
    Beside P (.walk m frame e l rest tally) (.walk m frame e l rest' tally')
  | drain : Beside P (.drain m budget started turns delivered) (.drain m budget started turns delivered)

/-- What is done next in two runs. -/
inductive Control.Beside (P : List ListenerId × Tally → List ListenerId × Tally → Prop) :
    Control σ → Control σ → Prop
  | program : Beside P (.program p) (.program p)
  | call : Beside P (.call l e) (.call l e)
  | dispatch : Beside P (.dispatch m e) (.dispatch m e)
  | walk (alike : P (rest, tally) (rest', tally')) :
    Beside P (.walk m frame e rest tally) (.walk m frame e rest' tally')
  | execute : Beside P (.execute m budget) (.execute m budget)
  | drain : Beside P (.drain m budget started turns delivered) (.drain m budget started turns delivered)
  | outcome : Beside P (.outcome o) (.outcome o)

/-- Moments of two runs that go the same way. -/
structure State.Beside (R : ManagerId → Manager → Manager → Prop)
    (P : List ListenerId × Tally → List ListenerId × Tally → Prop) (c d : State σ) : Prop where
  control : c.control.Beside P d.control
  stack : List.Forall₂ (Waiting.Beside P) c.stack d.stack
  world : c.world.Beside R d.world

theorem State.Beside.mono {S : ManagerId → Manager → Manager → Prop}
    {Q : List ListenerId × Tally → List ListenerId × Tally → Prop} {c d : State σ}
    (beside : c.Beside R P d) (weaker : ∀ n x y, R n x y → S n x y)
    (alike : ∀ p q, P p q → Q p q) : c.Beside S Q d := by
  obtain ⟨control, stack, w⟩ := c
  obtain ⟨control', stack', w'⟩ := d
  obtain ⟨control, waiting, world⟩ := beside
  refine ⟨?_, waiting.imp fun top top' tops => ?_, world.mono fun n => weaker n _ _⟩
  · cases control with
    | walk same => exact .walk (alike _ _ same)
    | program => exact .program
    | call => exact .call
    | dispatch => exact .dispatch
    | execute => exact .execute
    | drain => exact .drain
    | outcome => exact .outcome
  · cases tops with
    | walk same => exact .walk (alike _ _ same)
    | program => exact .program
    | direct => exact .direct
    | drain => exact .drain

/-- Two runs come to programs that go on in the same way, whatever the operation that they ask for
replies. -/
def Agree (c d : State σ) : Prop :=
  ∀ op next x y, c.control = .program (.call op next) → c.world.carryOut op = some x →
    d.world.carryOut op = some y → next (.returned x.1) = next (.returned y.1)

variable {behaviour : Behaviour σ} {c c' d : State σ} {a b : World σ}
  {stack stack' : List (Waiting σ)} {R : ManagerId → Manager → Manager → Prop}
  {P : List ListenerId × Tally → List ListenerId × Tally → Prop} {drained : ManagerId → Prop}
  {roll : Roll}

theorem ask_beside {op : Op} {next : Outcome op.Reply → Program σ Bool}
    (unseen : Unseen a.roll drained R P) (waiting : List.Forall₂ (Waiting.Beside P) stack stack')
    (beside : a.Beside R b)
    (agree : ∀ x y, a.carryOut op = some x → b.carryOut op = some y →
      next (.returned x.1) = next (.returned y.1))
    (asked : ask stack a op next = some c') :
    ∃ d', ask stack' b op next = some d' ∧ c'.Beside R P d' := by
  have carried (op : Op) (next : Outcome op.Reply → Program σ Bool)
      (agree : ∀ x y, a.carryOut op = some x → b.carryOut op = some y →
        next (.returned x.1) = next (.returned y.1))
      (asked : ((a.carryOut op).map fun result =>
        (⟨.program (next (.returned result.1)), stack, result.2⟩ : State σ)) = some c') :
      ∃ d', ((b.carryOut op).map fun result =>
        (⟨.program (next (.returned result.1)), stack', result.2⟩ : State σ)) = some d' ∧
        c'.Beside R P d' := by
    obtain ⟨x, left, rfl⟩ := Option.map_eq_some_iff.mp asked
    obtain ⟨y, right, besides⟩ := beside.carryOut unseen left
    refine ⟨_, Option.map_eq_some_iff.mpr ⟨y, right, rfl⟩, ?_, waiting, besides⟩
    rw [agree x y left right]
    exact .program
  cases op with
  | dispatch m e =>
    cases asked
    exact ⟨_, rfl, .dispatch, .cons .program waiting, beside⟩
  | execute m budget =>
    cases asked
    exact ⟨_, rfl, .execute, .cons .program waiting, beside⟩
  | callListener l e =>
    simp only [ask, ← beside.isAlive] at asked ⊢
    split at asked
    case isTrue alive =>
      cases asked
      rw [if_pos alive]
      exact ⟨_, rfl, .call, .cons .direct waiting, beside.enter l⟩
    case isFalse gone =>
      cases asked
      rw [if_neg gone]
      exact ⟨_, rfl, .program, waiting, beside⟩
  | _ => exact carried _ next agree asked

theorem handle_beside (waiting : List.Forall₂ (Waiting.Beside P) stack stack')
    (beside : a.Beside R b) (l : ListenerId) (e : EventRef) :
    (handle behaviour stack a l e).Beside R P (handle behaviour stack' b l e) := by
  unfold handle
  rw [← beside.listener l]
  split
  · exact ⟨.program, waiting, beside⟩
  · obtain ⟨same, besides⟩ := beside.receiveQuit l e
    refine ⟨?_, waiting, besides⟩
    change Control.Beside P (.outcome (.returned (a.receiveQuit l e).1)) _
    rw [same]
    exact .outcome
  · exact ⟨.outcome, waiting, beside.countFrame l _ _ e⟩

theorem dispatch_beside {m : ManagerId} {e : EventRef} (unseen : Unseen roll drained R P)
    (waiting : List.Forall₂ (Waiting.Beside P) stack stack') (beside : a.Beside R b)
    (moved : step behaviour ⟨.dispatch m e, stack, a⟩ = some c') :
    ∃ d', step behaviour ⟨.dispatch m e, stack', b⟩ = some d' ∧ c'.Beside R P d' := by
  have related := beside.managers m
  have frame := unseen.nextFrame related
  have lists := unseen.lists e.typeId related
  cases left : (a.manager m).registry.table.list? e.typeId with
  | none =>
    cases right : (b.manager m).registry.table.list? e.typeId with
    | some list => rw [left, right] at lists; cases lists
    | none =>
      obtain ⟨a', begun, becomes⟩ := beginDispatch_unheard left
      obtain ⟨b', begun', becomes'⟩ := beginDispatch_unheard right
      simp only [step, begun] at moved
      cases moved
      simp only [step, begun']
      exact ⟨_, rfl, .outcome, waiting, beside.becomes becomes becomes' (unseen.unheard related)⟩
  | some list =>
    cases right : (b.manager m).registry.table.list? e.typeId with
    | none => rw [left, right] at lists; cases lists
    | some list' =>
      rw [left, right] at lists
      cases lists with
      | some alike =>
        obtain ⟨a', begun, becomes⟩ := beginDispatch_heard left
        obtain ⟨b', begun', becomes'⟩ := beginDispatch_heard right
        simp only [step, begun] at moved
        cases moved
        simp only [step, begun', frame]
        exact ⟨_, rfl, .walk alike, waiting,
          beside.becomes becomes becomes' (unseen.opened _ related)⟩

theorem execute_beside {m : ManagerId} {budget : Option Duration}
    (waiting : List.Forall₂ (Waiting.Beside P) stack stack') (beside : a.Beside R b)
    (begins : BeginAlike (R m) (a.manager m) (b.manager m))
    (moved : step behaviour ⟨.execute m budget, stack, a⟩ = some c') :
    ∃ d', step behaviour ⟨.execute m budget, stack', b⟩ = some d' ∧ c'.Beside R P d' := by
  obtain ⟨result, a', b', left, right, besides⟩ := beside.beginDrain begins
  simp only [step, left] at moved
  simp only [step, right]
  cases result with
  | none =>
    cases moved
    exact ⟨_, rfl, .outcome, waiting, besides⟩
  | some begun =>
    cases moved
    exact ⟨_, rfl, .drain, waiting, besides⟩

theorem endTurns_beside {m : ManagerId}
    (waiting : List.Forall₂ (Waiting.Beside P) stack stack') (beside : a.Beside R b)
    (turning : Turning (R m)) (delivered : Nat) :
    (endTurns stack m delivered a).Beside R P (endTurns stack' m delivered b) := by
  obtain ⟨all, a', b', left, right, besides⟩ := beside.finishDrain turning delivered
  simp only [endTurns, left, right]
  exact ⟨.outcome, waiting, besides⟩

theorem turn_beside {m : ManagerId} {budget : Option Duration} {started : Timestamp}
    {turns delivered : Nat} (waiting : List.Forall₂ (Waiting.Beside P) stack stack')
    (beside : a.Beside R b) (turning : Turning (R m))
    (moved : step behaviour ⟨.drain m budget started turns delivered, stack, a⟩ = some c') :
    ∃ d', step behaviour ⟨.drain m budget started turns delivered, stack', b⟩ = some d' ∧
      c'.Beside R P d' := by
  cases turns with
  | zero =>
    cases moved
    exact ⟨_, rfl, endTurns_beside waiting beside turning delivered⟩
  | succ turns =>
    obtain ⟨taken, a', b', left, right, besides⟩ :=
      beside.takeDue turning budget started delivered
    simp only [step, left] at moved
    simp only [step, right]
    cases taken with
    | none =>
      cases moved
      exact ⟨_, rfl, endTurns_beside waiting besides turning delivered⟩
    | some e =>
      cases moved
      exact ⟨_, rfl, .dispatch, .cons .drain waiting, besides⟩

theorem resume_beside {top top' : Waiting σ} (unseen : Unseen roll drained R P)
    (waiting : List.Forall₂ (Waiting.Beside P) stack stack') (tops : top.Beside P top')
    (beside : a.Beside R b) (turns : ∀ n, top.drains n ≠ 0 → Turning (R n)) (o : Outcome Bool) :
    (resume o stack a top).Beside R P (resume o stack' b top') := by
  cases tops with
  | program => exact ⟨.program, waiting, beside⟩
  | @direct l next =>
    cases o with
    | returned consumed => exact ⟨.program, waiting, beside.leave l⟩
    | panicked message => exact ⟨.program, waiting, beside.leave l⟩
  | @walk rest tally rest' tally' m frame e l alike =>
    cases o with
    | panicked message =>
      exact ⟨.outcome, waiting, (beside.leave l).unwindDispatch unseen frame⟩
    | returned consumed =>
      cases consumed with
      | true =>
        have noted : World.Beside R (a.note (.consumed m frame l e (a.roll.describe l)))
            (b.note (.consumed m frame l e (b.roll.describe l))) := beside.note rfl
        have consumed : World.Beside R (a.consume m frame l e) (b.consume m frame l e) :=
          noted.leave l
        exact ⟨.outcome, waiting, consumed.conclude unseen alike frame e true⟩
      | false => exact ⟨.walk alike, waiting, beside.leave l⟩
  | @drain m budget started turns delivered =>
    cases o with
    | returned _ => exact ⟨.drain, waiting, beside⟩
    | panicked message =>
      exact ⟨.outcome, waiting, beside.unwindDrain (turns m (by simp [Waiting.drains]))⟩

/-- Two runs go the same way at every moment but within a walk. -/
theorem step_beside (unseen : Unseen c.world.roll drained R P) (beside : c.Beside R P d)
    (agree : Agree c d)
    (executes : ∀ n budget, c.control = .execute n budget →
      BeginAlike (R n) (c.world.manager n) (d.world.manager n))
    (turns : ∀ n, c.drains n ≠ 0 → Turning (R n))
    (elsewhere : ∀ m frame e rest tally, c.control ≠ .walk m frame e rest tally)
    (moved : step behaviour c = some c') :
    ∃ d', step behaviour d = some d' ∧ c'.Beside R P d' := by
  obtain ⟨control, stack, a⟩ := c
  obtain ⟨control', stack', b⟩ := d
  obtain ⟨controls, waiting, beside⟩ := beside
  cases controls with
  | @program p =>
    cases p with
    | done | panic =>
      cases moved
      exact ⟨_, rfl, .outcome, waiting, beside⟩
    | call op next =>
      exact ask_beside unseen waiting beside (fun x y => agree op next x y rfl) moved
    | read next =>
      cases moved
      refine ⟨_, rfl, ?_, waiting, beside⟩
      have same : a.memory = b.memory := beside.memory
      rw [same]
      exact .program
    | change f next =>
      cases moved
      exact ⟨_, rfl, .program, waiting,
        beside.around rfl rfl (fun s => { s with memory := f s.memory }) rfl rfl⟩
  | @call l e =>
    cases moved
    exact ⟨_, rfl, handle_beside waiting beside l e⟩
  | dispatch => exact dispatch_beside unseen waiting beside moved
  | walk => exact (elsewhere _ _ _ _ _ rfl).elim
  | execute => exact execute_beside waiting beside (executes _ _ rfl) moved
  | @drain m =>
    exact turn_beside waiting beside (turns m (by simp [State.drains, Control.drains])) moved
  | @outcome o =>
    cases waiting with
    | nil => cases moved
    | @cons top top' stack stack' tops waiting =>
      cases moved
      refine ⟨_, rfl, resume_beside unseen waiting tops beside (fun n inside => turns n ?_) o⟩
      simp only [State.drains, stackDrains, List.map_cons, List.sum_cons]
      omega

/-! ### Within walks -/

variable {rest rest' : List ListenerId} {tally tally' : Tally}

/-- Both walks have come to an end. -/
theorem walked_beside (unseen : Unseen roll drained R P)
    (waiting : List.Forall₂ (Waiting.Beside P) stack stack') (beside : a.Beside R b)
    (alike : P ([], tally) ([], tally')) (m : ManagerId) (frame : UInt64) (e : EventRef) :
    (visit stack a m frame e tally []).Beside R P (visit stack' b m frame e tally' []) :=
  ⟨.outcome, waiting, beside.conclude unseen alike frame e false⟩

/-- Both walks call the same listener. -/
theorem visit_beside {m : ManagerId} {frame : UInt64} {l : ListenerId}
    (waiting : List.Forall₂ (Waiting.Beside P) stack stack') (beside : a.Beside R b)
    (alike : P (rest, { tally with invoked := tally.invoked + 1 })
      (rest', { tally' with invoked := tally'.invoked + 1 }))
    (alive : a.isAlive l = true)
    (stays : (a.manager m).registry.removedDuring frame l = false)
    (stays' : (b.manager m).registry.removedDuring frame l = false) (e : EventRef) :
    (visit stack a m frame e tally (l :: rest)).Beside R P
      (visit stack' b m frame e tally' (l :: rest')) := by
  have alive' : b.isAlive l = true := beside.isAlive l ▸ alive
  simp only [visit, alive, alive', stays, stays', Bool.true_eq_false, Bool.false_eq_true, if_false]
  exact ⟨.call, .cons (.walk alike) waiting, (beside.note rfl).enter l⟩

end Machine
end EventEngine
