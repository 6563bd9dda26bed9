import EventEngine.Proofs.Dispatch.Parallel

/-! Taking listeners that are gone off the lists makes no difference, at whatever moments of a run
it is done. A run and the same run with such calls inserted are followed side by side. -/
namespace EventEngine.Machine

open World

variable {σ : Type} {behaviour : Behaviour σ} {c d : State σ} {m : ManagerId} {w : World σ}

/-- Some managers are pruned, one after the other. -/
def State.sweep (ms : List ManagerId) (c : State σ) : State σ :=
  { c with world := ms.foldl (fun w m => w.sweep m) c.world }

/-- A run into which calls for pruning are inserted, before its first step and after every one: the
state after so many steps, if the run is that long. -/
def strewn (behaviour : Behaviour σ) (inserted : Nat → List ManagerId) :
    Nat → State σ → Option (State σ)
  | 0, c => some (c.sweep (inserted 0))
  | n + 1, c => (strewn behaviour inserted n c).bind fun d =>
    (step behaviour d).map (·.sweep (inserted (n + 1)))

theorem Parallel.sweeps (parallel : Parallel c d) (ms : List ManagerId) :
    Parallel c (d.sweep ms) := by
  induction ms generalizing d with
  | nil => exact parallel
  | cons m ms ih => exact ih (parallel.sweep m)

theorem Parallel.start (p : Program σ Bool) (memory : σ) :
    Parallel (start p memory) (start p memory) := by
  have nobody (m : ManagerId) : ((Machine.start p memory).world.registry m).frames = [] := by
    simp only [Machine.start, registry, manager, World.initial, Store.get_empty]
    rfl
  refine ⟨⟨.program, .nil, World.Resembles.refl _⟩, fun m => ?_, .start p memory, .start p memory⟩
  rw [nobody]
  exact .nil

variable {inserted : Nat → List ManagerId} {first : State σ} {i j : Nat}

/-- A run and the run with calls inserted are parallel at these moments and have reported the same
before. -/
def Abreast (behaviour : Behaviour σ) (inserted : Nat → List ManagerId) (first : State σ)
    (i j : Nat) : Prop :=
  ∃ c d, after behaviour i first = some c ∧ strewn behaviour inserted j first = some d ∧
    Parallel c d ∧
    reports (after behaviour · first) i = reports (strewn behaviour inserted · first) j

/-- How many listeners a run has ahead at a moment. -/
def frontAt (run : Nat → Option (State σ)) (n : Nat) : Nat := ((run n).map State.front).getD 0

theorem Abreast.advance (abreast : Abreast behaviour inserted first i j)
    (indifferent : ∀ op next stack w,
      Reaches behaviour first ⟨.program (.call op next), stack, w⟩ → Indifferent w op next) :
    (after behaviour (i + 1) first = none ∧ strewn behaviour inserted (j + 1) first = none) ∨
      Abreast behaviour inserted first (i + 1) (j + 1) ∨
      (Abreast behaviour inserted first (i + 1) j ∧
        frontAt (after behaviour · first) (i + 1) < frontAt (after behaviour · first) i) ∨
      (Abreast behaviour inserted first i (j + 1) ∧
        frontAt (strewn behaviour inserted · first) (j + 1) <
          frontAt (strewn behaviour inserted · first) j) := by
  obtain ⟨c, d, here, there, parallel, same⟩ := abreast
  have goesOn : after behaviour (i + 1) first = step behaviour c := by
    rw [after_succ, here, Option.bind_some]
  have goesOn' : strewn behaviour inserted (j + 1) first =
      (step behaviour d).map (·.sweep (inserted (j + 1))) := by
    rw [strewn, there, Option.bind_some]
  have reported := reports_succ (after behaviour · first) here
  have reported' := reports_succ (strewn behaviour inserted · first) there
  have advances : Advances behaviour c d := parallel.advances fun op next asks => by
    obtain ⟨control, stack, w⟩ := c
    cases asks
    exact indifferent op next stack w ⟨i, here⟩
  cases advances with
  | ended left right => exact .inl ⟨goesOn.trans left, by rw [goesOn', right, Option.map_none]⟩
  | @both c' d' left right later =>
    refine .inr (.inl ⟨c', _, goesOn.trans left, by rw [goesOn', right, Option.map_some],
      later.sweeps _, ?_⟩)
    rw [reported, reported', same, parallel.resembles.report]
  | @left c' moved later silent nearer =>
    refine .inr (.inr (.inl ⟨⟨c', d, goesOn.trans moved, there, later, ?_⟩, ?_⟩))
    · rw [reported, silent, Option.toList_none, List.append_nil, same]
    · simpa only [frontAt, goesOn, moved, here, Option.map_some, Option.getD_some] using nearer
  | @right d' moved later silent nearer =>
    refine .inr (.inr (.inr ⟨⟨c, _, here, by rw [goesOn', moved, Option.map_some],
      later.sweeps _, ?_⟩, ?_⟩))
    · rw [reported', silent, Option.toList_none, List.append_nil, same]
    · simp only [frontAt, goesOn', moved, there, Option.map_some, Option.getD_some]
      exact nearer

/-- Of two runs that meet at their beginnings, one keeps pace with the other if it is never left
waiting for long. -/
theorem keeps_pace (Meets : Nat → Nat → Prop) (lasts : Nat → Prop) (rank : Nat → Nat)
    (begins : Meets 0 0) (earlier : ∀ i, lasts (i + 1) → lasts i)
    (advance : ∀ i j, Meets i j → lasts (i + 1) →
      (∃ k, Meets (i + 1) k) ∨ (Meets i (j + 1) ∧ rank (j + 1) < rank j)) (i : Nat)
    (there : lasts i) : ∃ j, Meets i j := by
  induction i with
  | zero => exact ⟨0, begins⟩
  | succ i ih =>
    obtain ⟨j, meets⟩ := ih (earlier i there)
    generalize waits : rank j = left
    induction left using Nat.strongRecOn generalizing j with
    | ind left catchUp =>
      rcases advance i j meets there with later | ⟨meets, nearer⟩
      · exact later
      · exact catchUp _ (waits ▸ nearer) (j + 1) meets rfl

/-- Moments of two runs at which the same is to be done, the same listeners have been called and the
same are registered, once those that are gone are left out. -/
structure Corresponds (c d : State σ) : Prop where
  resembles : c.Resembles d
  invocations : c.world.invocations = d.world.invocations
  lists : ∀ m t, ((c.world.registry m).table.list? t).map (·.filter c.world.isAlive) =
    ((d.world.registry m).table.list? t).map (·.filter d.world.isAlive)

theorem Parallel.corresponds (parallel : Parallel c d) : Corresponds c d := by
  have world := parallel.resembles.world
  refine ⟨parallel.resembles, world.invocations, fun m t => ?_⟩
  have living (w : World σ) (settled : Settled w) :
      ((w.registry m).table.list? t).map (·.filter w.isAlive) =
        ((w.registry m).table.list? t).map (Remaining w.isGone) := by
    have known := settled.listed m t
    unfold Registry.listed at known
    cases held : (w.registry m).table.list? t with
    | none => rfl
    | some list =>
      rw [held] at known
      refine congrArg some (List.filter_congr fun l inList => ?_)
      rw [isGone_of_known (known l inList), Bool.not_not]
  rw [living _ parallel.left.settled, living _ parallel.right.settled, ← world.isGone]
  exact (world.managers m).registry.lists t

/-- Pruning is transparent. If managers are pruned at any moments of a run whose programs do not
count on registrations of listeners that are gone, then to each moment of the run corresponds one of
the run with pruning, and the other way round, up to which the same has been asked with the same
results. -/
theorem pruning_is_transparent {p : Program σ Bool} {memory : σ} (inserted : Nat → List ManagerId)
    (indifferent : ∀ op next stack w,
      Reaches behaviour (start p memory) ⟨.program (.call op next), stack, w⟩ →
      Indifferent w op next) :
    (∀ i c, after behaviour i (start p memory) = some c →
      ∃ j d, strewn behaviour inserted j (start p memory) = some d ∧ Corresponds c d ∧
        reports (after behaviour · (start p memory)) i =
          reports (strewn behaviour inserted · (start p memory)) j) ∧
    ∀ j d, strewn behaviour inserted j (start p memory) = some d →
      ∃ i c, after behaviour i (start p memory) = some c ∧ Corresponds c d ∧
        reports (after behaviour · (start p memory)) i =
          reports (strewn behaviour inserted · (start p memory)) j := by
  have begins : Abreast behaviour inserted (start p memory) 0 0 :=
    ⟨_, _, rfl, rfl, (Parallel.start p memory).sweeps _, rfl⟩
  refine ⟨fun i c here => ?_, fun j d there => ?_⟩
  · obtain ⟨j, c', d, here', there, parallel, same⟩ := keeps_pace
      (Abreast behaviour inserted (start p memory))
      (fun i => ∃ c, after behaviour i (start p memory) = some c)
      (frontAt (strewn behaviour inserted · (start p memory))) begins
      (fun i ⟨c, later⟩ => after_le later (Nat.le_succ i)) (fun i j abreast ⟨c, later⟩ => by
        rcases abreast.advance indifferent with ⟨ended, -⟩ | both | ⟨alone, -⟩ | waits
        · rw [ended] at later
          cases later
        · exact .inl ⟨_, both⟩
        · exact .inl ⟨_, alone⟩
        · exact .inr waits) i ⟨c, here⟩
    cases here.symm.trans here'
    exact ⟨j, d, there, parallel.corresponds, same⟩
  · obtain ⟨i, c, d', here, there', parallel, same⟩ := keeps_pace
      (fun j i => Abreast behaviour inserted (start p memory) i j)
      (fun j => ∃ d, strewn behaviour inserted j (start p memory) = some d)
      (frontAt (after behaviour · (start p memory))) begins
      (fun j ⟨d, later⟩ => by
        obtain ⟨x, before, -⟩ := Option.bind_eq_some_iff.mp later
        exact ⟨x, before⟩) (fun j i abreast ⟨d, later⟩ => by
        rcases abreast.advance indifferent with ⟨-, ended⟩ | both | waits | ⟨alone, -⟩
        · rw [ended] at later
          cases later
        · exact .inl ⟨_, both⟩
        · exact .inr waits
        · exact .inl ⟨_, alone⟩) j ⟨d, there⟩
    cases there.symm.trans there'
    exact ⟨i, c, here, parallel.corresponds, same⟩

/-- Whether an operation that a program goes on with has nothing to do with counting. -/
def State.countsNothing (c : State σ) : Bool :=
  match c.control with
  | .program (.call op _) =>
    match op with
    | .tryDisconnect .. | .pruneStale _ | .inspect _ | .validate _ => false
    | _ => true
  | _ => true

theorem Indifferent.of_countsNothing {op : Op} {next : Outcome op.Reply → Program σ Bool}
    {stack : List (Waiting σ)} (checked : State.countsNothing ⟨.program (.call op next), stack, w⟩ = true) :
    Indifferent w op next := by
  cases op with
  | tryDisconnect | pruneStale | inspect | validate => cases checked
  | _ => trivial

/-- The host gives up the second listener, and the first listener, when it is called, the third one.
Both times they are taken off the list at once in the run with pruning. -/
theorem pruned_before_and_within_dispatch :
    let t : TypeId := ⟨7⟩
    let behaviour : Behaviour Unit := fun l _ =>
      match l with
      | 0 => do
        let _ ← Program.ask (.dropListener 2)
        pure false
      | _ => pure true
    let host : Program Unit Bool := do
      let m ← Program.ask (.newManager default)
      let first ← Program.ask (.newListener "first" .custom)
      let second ← Program.ask (.newListener "second" .custom)
      let third ← Program.ask (.newListener "third" .custom)
      let _ ← Program.ask (.tryConnect m first t)
      let _ ← Program.ask (.tryConnect m second t)
      let _ ← Program.ask (.tryConnect m third t)
      let _ ← Program.ask (.dropListener second)
      Program.dispatchNew m (.plain t)
    let inserted : Nat → List ManagerId := fun n => if n = 9 ∨ n = 14 then [0] else []
    ∃ c d j w, after behaviour 14 (start host ()) = some c ∧
      (c.world.registry 0).listed t = [0, 1, 2] ∧
      strewn behaviour inserted 14 (start host ()) = some d ∧
      (d.world.registry 0).listed t = [0] ∧
      strewn behaviour inserted j (start host ()) = some ⟨.outcome (.returned false), [], w⟩ ∧
      w.invocations = [(0, 0, ⟨0, .plain t⟩)] ∧
      reports (after behaviour · (start host ())) 21 =
        reports (strewn behaviour inserted · (start host ())) j := by
  intro t behaviour host inserted
  have before : (after behaviour 14 (start host ())).any
      (fun c => (c.world.registry 0).listed t == [0, 1, 2]) = true := by cbv
  have pruned : (strewn behaviour inserted 14 (start host ())).any
      (fun d => (d.world.registry 0).listed t == [0]) = true := by cbv
  have ran : (after behaviour 21 (start host ())).any (fun c => c.hasReturned false &&
      c.world.invocations == [(0, 0, ⟨0, .plain t⟩)]) = true := by cbv
  have counts : ((List.range 22).all fun k =>
      (after behaviour k (start host ())).all State.countsNothing) = true := by cbv
  obtain ⟨c, here, listed⟩ := (Option.any_eq_true ..).mp before
  obtain ⟨d, there, listed'⟩ := (Option.any_eq_true ..).mp pruned
  obtain ⟨x, last, told⟩ := (Option.any_eq_true ..).mp ran
  simp only [Bool.and_eq_true, beq_iff_eq] at told
  obtain ⟨returned, called⟩ := told
  obtain ⟨v, rfl⟩ := hasReturned_iff.mp returned
  obtain ⟨follows, -⟩ := pruning_is_transparent (p := host) inserted fun op next stack w run =>
    .of_countsNothing (run.checked last counts)
  obtain ⟨j, ⟨control, stack, w⟩, ended, corresponds, same⟩ := follows 21 _ last
  obtain ⟨controls, waiting, -⟩ := corresponds.resembles
  cases controls
  cases waiting
  exact ⟨c, d, j, w, here, beq_iff_eq.mp listed, there, beq_iff_eq.mp listed', ended,
    corresponds.invocations.symm.trans called, same⟩

end EventEngine.Machine
