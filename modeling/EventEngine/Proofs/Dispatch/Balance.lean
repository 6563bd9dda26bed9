import EventEngine.Proofs.Dispatch.Walk

/-! What the open frames of a manager tell at any moment: which dispatches are under way, in
which order, and how many. A dispatch leaves them as it found them, also when it is unwound. The
numbers of frames start again after the last one, so they tell frames apart as long as not too
many are opened while one stays open. -/
namespace EventEngine

namespace Registry

/-- The numbers and categories of the open frames, the newest first. -/
def openFrames (r : Registry) : List (UInt64 × TypeId) := r.frames.map fun f => (f.id, f.type)

theorem isDispatching_iff {t : TypeId} {r : Registry} :
    r.isDispatching t = true ↔ ∃ frame, (frame, t) ∈ r.openFrames := by
  simp only [isDispatching, openFrames, List.any_eq_true, beq_iff_eq, List.mem_map, Prod.mk.injEq]
  constructor
  · rintro ⟨f, isOpen, rfl⟩
    exact ⟨f.id, f, isOpen, rfl, rfl⟩
  · rintro ⟨_, f, isOpen, _, type⟩
    exact ⟨f, isOpen, type⟩

theorem depth_eq (r : Registry) : r.depth = r.openFrames.length := by
  simp only [depth, openFrames, List.length_map]

end Registry

namespace Machine

open World

variable {σ : Type} {behaviour : Behaviour σ} {c d : State σ} {m : ManagerId}

/-- How many dispatches of a manager, of a category that has a list, begin in so many steps. -/
def beginnings (behaviour : Behaviour σ) (m : ManagerId) : Nat → State σ → Nat
  | 0, _ => 0
  | n + 1, c =>
    match step behaviour c with
    | none => 0
    | some d => (d.walks m).length - (c.walks m).length + beginnings behaviour m n d

theorem beginnings_pos {n : Nat} (moved : step behaviour c = some d)
    (grows : (c.walks m).length < (d.walks m).length) : 0 < beginnings behaviour m (n + 1) c := by
  rw [beginnings, moved]
  dsimp only
  omega

theorem beginnings_next {n : Nat} {x : State σ} (run : after behaviour n c = some d)
    (moved : step behaviour d = some x) :
    beginnings behaviour m (n + 1) c =
      beginnings behaviour m n c + ((x.walks m).length - (d.walks m).length) := by
  induction n generalizing c with
  | zero =>
    cases run
    simp only [beginnings, moved, Nat.add_zero, Nat.zero_add]
  | succ n ih =>
    obtain ⟨y, first, rest⟩ := Option.bind_eq_some_iff.mp run
    have later := ih rest
    rw [beginnings, first]
    simp only [beginnings, first] at later ⊢
    omega

theorem beginnings_le (n k : Nat) (run : after behaviour (n + k) c = some d) :
    beginnings behaviour m n c ≤ beginnings behaviour m (n + k) c := by
  induction k generalizing d with
  | zero => exact Nat.le_refl _
  | succ k ih =>
    obtain ⟨x, before, moved⟩ := Option.bind_eq_some_iff.mp (after_succ (n + k) c ▸ run)
    have later := beginnings_next (m := m) before moved
    exact Nat.le_trans (ih before) (by rw [← Nat.add_assoc, later]; exact Nat.le_add_right ..)

/-- A step begins at most one dispatch. -/
theorem beginnings_le_steps (n : Nat) (c : State σ) : beginnings behaviour m n c ≤ n := by
  induction n generalizing c with
  | zero => exact Nat.le_refl 0
  | succ n ih =>
    rw [beginnings]
    split
    · exact Nat.zero_le _
    · rename_i d moved
      have one : (d.walks m).length - (c.walks m).length ≤ 1 := by
        cases step_turns moved m with
        | alters walks => rw [walks]; omega
        | opens walks => rw [walks, List.length_cons]; omega
        | closes walks => rw [walks, List.length_cons]; omega
      have := ih d
      omega

/-- The number that the next frame gets counts the frames that were opened. -/
theorem nextFrame_after {n : Nat} (run : after behaviour n c = some d) :
    (d.world.registry m).nextFrame =
      (c.world.registry m).nextFrame + UInt64.ofNat (beginnings behaviour m n c) := by
  induction n generalizing d with
  | zero =>
    cases run
    simp [beginnings]
  | succ n ih =>
    obtain ⟨x, before, moved⟩ := Option.bind_eq_some_iff.mp (after_succ n c ▸ run)
    rw [beginnings_next before moved]
    cases step_turns moved m with
    | alters walks altered =>
      rw [altered.nextFrame, ih before, walks, Nat.sub_self, Nat.add_zero]
    | opens walks opened =>
      have next : (d.world.registry m).nextFrame = (x.world.registry m).nextFrame + 1 := by
        rw [opened]
        rfl
      rw [next, ih before, walks, List.length_cons, Nat.add_sub_cancel_left, UInt64.ofNat_add,
        UInt64.add_assoc]
      rfl
    | closes walks closed =>
      have fewer : (d.walks m).length - (x.walks m).length = 0 := by
        rw [walks, List.length_cons]
        omega
      have next : (d.world.registry m).nextFrame = (x.world.registry m).nextFrame := by
        rw [closed]
        rfl
      rw [next, ih before, fewer, Nat.add_zero]

/-- The frame that the next step opens stays open for so many steps. -/
def StaysOpen (behaviour : Behaviour σ) (m : ManagerId) (k : Nat) (c : State σ) : Prop :=
  ∀ j, 0 < j → j ≤ k → ∀ d, after behaviour j c = some d → (c.walks m).length < (d.walks m).length

/-- While one frame is open, fewer than `2 ^ 64` others are opened. -/
def FewBegin (behaviour : Behaviour σ) (m : ManagerId) (n : Nat) (c : State σ) : Prop :=
  ∀ i k d, i + k ≤ n → after behaviour i c = some d → StaysOpen behaviour m k d →
    beginnings behaviour m k d ≤ 2 ^ 64

theorem FewBegin.of_le {n : Nat} (short : n ≤ 2 ^ 64) : FewBegin behaviour m n c := by
  intro i k d early _ _
  have : beginnings behaviour m k d ≤ k := beginnings_le_steps k d
  omega

/-- Where an open frame comes from: it was opened with this many frames beneath it, some steps
ago, and has been open since. -/
structure Born (behaviour : Behaviour σ) (m : ManagerId) (c : State σ) (n : Nat) (frame : UInt64)
    (older : Nat) (x : State σ) (i k : Nat) : Prop where
  time : i + k = n
  here : after behaviour i c = some x
  beneath : (x.walks m).length = older
  number : frame = (x.world.registry m).nextFrame
  past : 0 < k
  stays : StaysOpen behaviour m k x

theorem Born.rest {n i k older : Nat} {frame : UInt64} {x : State σ}
    (born : Born behaviour m c n frame older x i k) (run : after behaviour n c = some d) :
    after behaviour k x = some d := by
  rwa [← born.time, after_add, born.here, Option.bind_some] at run

theorem Born.later {n i k older : Nat} {frame : UInt64} {x y : State σ}
    (born : Born behaviour m c n frame older x i k) (run : after behaviour n c = some y)
    (moved : step behaviour y = some d) (inside : older < (d.walks m).length) :
    Born behaviour m c (n + 1) frame older x i (k + 1) := by
  refine ⟨by rw [← born.time, Nat.add_assoc], born.here, born.beneath, born.number,
    Nat.succ_pos k, ?_⟩
  intro j positive early z there
  rcases Nat.lt_or_eq_of_le early with before | rfl
  · exact born.stays j positive (Nat.le_of_lt_succ before) z there
  · have last := after_next run moved
    rw [← born.time, Nat.add_assoc, after_add, born.here, Option.bind_some, there] at last
    cases last
    rw [born.beneath]
    exact inside

theorem born_of_open {n : Nat} (initial : c.walks m = []) (run : after behaviour n c = some d)
    {newer older : List (UInt64 × TypeId)} {frame : UInt64} {t : TypeId}
    (parts : d.walks m = newer ++ (frame, t) :: older) :
    ∃ x i k, Born behaviour m c n frame older.length x i k := by
  induction n generalizing d newer with
  | zero =>
    cases run
    rw [initial] at parts
    cases newer <;> cases parts
  | succ n ih =>
    obtain ⟨y, before, moved⟩ := Option.bind_eq_some_iff.mp (after_succ n c ▸ run)
    have inside : older.length < (d.walks m).length := by
      rw [parts, List.length_append, List.length_cons]
      omega
    cases step_turns moved m with
    | alters walks =>
      obtain ⟨x, i, k, born⟩ := ih before (walks ▸ parts)
      exact ⟨x, i, k + 1, born.later before moved inside⟩
    | @opens category walks opened =>
      rw [parts] at walks
      cases newer with
      | nil =>
        obtain ⟨number, rfl⟩ := List.cons.inj walks
        refine ⟨y, n, 1, rfl, before, rfl, congrArg Prod.fst number, Nat.one_pos, ?_⟩
        intro j positive early z there
        obtain rfl : j = 1 := by omega
        cases (after_one moved).symm.trans there
        exact inside
      | cons _ newer =>
        obtain ⟨x, i, k, born⟩ := ih before (List.cons.inj walks).2.symm
        exact ⟨x, i, k + 1, born.later before moved inside⟩
    | @closes closing category walks =>
      have above : y.walks m = ((closing, category) :: newer) ++ (frame, t) :: older := by
        rw [walks, parts, List.cons_append]
      obtain ⟨x, i, k, born⟩ := ih before above
      exact ⟨x, i, k + 1, born.later before moved inside⟩

/-- A frame that stands on another one was opened later. -/
theorem Born.earlier {n i k i' k' older older' : Nat} {frame frame' : UInt64} {x x' : State σ}
    (born : Born behaviour m c n frame older x i k)
    (born' : Born behaviour m c n frame' older' x' i' k') (above : older' < older) :
    ∃ j, k' = j + 1 + k ∧ after behaviour (j + 1) x' = some x := by
  have time := born.time
  have time' := born'.time
  have beneath := born.beneath
  have beneath' := born'.beneath
  rcases Nat.lt_trichotomy i i' with before | rfl | behind
  · obtain ⟨j, rfl⟩ := Nat.exists_eq_add_of_lt before
    have there := born'.here
    rw [Nat.add_assoc, after_add, born.here, Option.bind_some] at there
    have more := born.stays (j + 1) (Nat.succ_pos j) (by omega) x' there
    omega
  · cases born.here.symm.trans born'.here
    omega
  · obtain ⟨j, rfl⟩ := Nat.exists_eq_add_of_lt behind
    have here := born.here
    rw [Nat.add_assoc, after_add, born'.here, Option.bind_some] at here
    exact ⟨j, by omega, here⟩

/-- Of two open frames the newer one has another number, if few frames are opened while the
older one is open. -/
theorem Born.ne {n i k i' k' older older' : Nat} {frame frame' : UInt64} {x x' : State σ}
    (few : FewBegin behaviour m n c) (run : after behaviour n c = some d)
    (born : Born behaviour m c n frame older x i k)
    (born' : Born behaviour m c n frame' older' x' i' k') (above : older' < older) :
    frame ≠ frame' := by
  obtain ⟨j, rfl, between⟩ := born.earlier born' above
  obtain ⟨k, rfl⟩ := Nat.exists_eq_succ_of_ne_zero (Nat.ne_of_gt born.past)
  have most := few i' _ x' (Nat.le_of_eq born'.time) born'.here born'.stays
  have whole := born'.rest run
  rw [show j + 1 + (k + 1) = j + 1 + 1 + k by omega] at most whole
  -- the older frame is counted first, the newer one last, and the numbers run between them
  obtain ⟨y, opening, _⟩ := Option.bind_eq_some_iff.mp (born.rest run)
  have opens := born.stays 1 Nat.one_pos born.past y (after_one opening)
  have counted := beginnings_next (m := m) between opening
  have fewer := beginnings_le (m := m) (j + 1 + 1) k whole
  obtain ⟨z, begins, _⟩ := Option.bind_eq_some_iff.mp between
  have first := beginnings_pos (n := j) begins
    (born'.stays 1 Nat.one_pos born'.past z (after_one begins))
  intro same
  rw [born.number, born'.number, nextFrame_after (m := m) between] at same
  have zero := congrArg UInt64.toNat (UInt64.add_eq_left.mp same)
  rw [UInt64.toNat_ofNat', UInt64.toNat_zero] at zero
  omega

theorem openFrames_distinct {n : Nat} (initial : c.walks m = []) (balanced : Balanced d)
    (run : after behaviour n c = some d) (few : FewBegin behaviour m n c) :
    ((d.world.registry m).openFrames.map Prod.fst).Nodup := by
  have frames : (d.world.registry m).openFrames = d.walks m := balanced m
  rw [frames]
  suffices distinct : ∀ newer older, d.walks m = newer ++ older → (older.map Prod.fst).Nodup from
    distinct [] _ rfl
  intro newer older parts
  induction older generalizing newer with
  | nil => exact .nil
  | cons first older ih =>
    obtain ⟨frame, t⟩ := first
    refine List.nodup_cons.mpr ⟨fun again => ?_, ih (newer ++ [(frame, t)]) (by simp [parts])⟩
    obtain ⟨⟨same, u⟩, inside, equal⟩ := List.mem_map.mp again
    obtain ⟨middle, oldest, rfl⟩ := List.append_of_mem inside
    obtain ⟨x, i, k, born⟩ := born_of_open initial run parts
    have deeper : d.walks m = (newer ++ (frame, t) :: middle) ++ (same, u) :: oldest := by
      simp [parts]
    obtain ⟨x', i', k', born'⟩ := born_of_open initial run deeper
    refine born.ne few run born' ?_ equal.symm
    rw [List.length_append, List.length_cons]
    omega

/-- The open frames of a manager are those of the dispatches that are under way on it. -/
structure FramesFollow (m : ManagerId) (c : State σ) : Prop where
  frames : (c.world.registry m).openFrames = c.walks m
  dispatching : ∀ t, (c.world.registry m).isDispatching t = true ↔ ∃ frame, (frame, t) ∈ c.walks m
  depth : (c.world.registry m).depth = (c.walks m).length
  idle : c.walks m = [] →
    (∀ t, (c.world.registry m).isDispatching t = false) ∧ (c.world.registry m).depth = 0

theorem Balanced.framesFollow (balanced : Balanced c) (m : ManagerId) : FramesFollow m c := by
  have frames : (c.world.registry m).openFrames = c.walks m := balanced m
  have dispatching : ∀ t, (c.world.registry m).isDispatching t = true ↔
      ∃ frame, (frame, t) ∈ c.walks m := fun t => frames ▸ Registry.isDispatching_iff
  have depth : (c.world.registry m).depth = (c.walks m).length := frames ▸ Registry.depth_eq _
  refine ⟨frames, dispatching, depth, fun quiet => ⟨fun t => ?_, ?_⟩⟩
  · rw [← Bool.not_eq_true, dispatching, quiet]
    rintro ⟨_, nobody⟩
    cases nobody
  · rw [depth, quiet]
    rfl

/-- A dispatch that ends, whether it returns or is unwound, leaves the frames that it found. -/
theorem openFrames_of_ended {k : ManagerId} {e : EventRef} {stack : List (Waiting σ)}
    {w w' : World σ} {o : Outcome Bool} (reachable : Reachable behaviour ⟨.dispatch k e, stack, w⟩)
    (ended : Reaches behaviour ⟨.dispatch k e, [], w⟩ ⟨.outcome o, [], w'⟩) (m : ManagerId) :
    (w'.registry m).openFrames = (w.registry m).openFrames := by
  have run : Reaches behaviour ⟨.dispatch k e, stack, w⟩ ⟨.outcome o, stack, w'⟩ := ended.over stack
  calc (w'.registry m).openFrames
      = stackWalks m stack := (reachable.next run).balanced m
    _ = (w.registry m).openFrames := (reachable.balanced m).symm

/-- At every moment of every run the open frames of a manager are those of the dispatches under
way on it, so its registry tells rightly which categories are being dispatched and how deep.
Their numbers differ if fewer than `2 ^ 64` frames are opened while one is open. A dispatch
leaves the frames that it found, also when a listener panics. -/
theorem open_frames_follow_dispatches {p : Program σ Bool} {memory : σ} {n : Nat}
    (run : after behaviour n (start p memory) = some c) (m : ManagerId) :
    FramesFollow m c ∧
      (FewBegin behaviour m n (start p memory) →
        ((c.world.registry m).openFrames.map Prod.fst).Nodup) ∧
      ∀ k e stack w, c = ⟨.dispatch k e, stack, w⟩ → ∀ o w',
        Reaches behaviour ⟨.dispatch k e, [], w⟩ ⟨.outcome o, [], w'⟩ →
        Reaches behaviour c ⟨.outcome o, stack, w'⟩ ∧
          (w'.registry m).openFrames = (w.registry m).openFrames := by
  have reachable : Reachable behaviour c := ⟨p, memory, n, run⟩
  refine ⟨reachable.balanced.framesFollow m, openFrames_distinct rfl reachable.balanced run, ?_⟩
  rintro k e stack w rfl o w' ended
  exact ⟨ended.over stack, openFrames_of_ended reachable ended m⟩

/-- A listener dispatches another event, whose listener panics, and goes on: two frames are open
inside, one before and after. -/
theorem frames_after_caught_panic :
    let behaviour : Behaviour Unit := fun l _ =>
      match l with
      | 0 => do
        let _ ← (Program.dispatchNew 0 (.plain ⟨8⟩)).attempt
        pure false
      | _ => .panic "lost"
    let host : Program Unit Bool := do
      let m ← Program.ask (.newManager default)
      let first ← Program.ask (.newListener "first" .custom)
      let second ← Program.ask (.newListener "second" .custom)
      let _ ← Program.ask (.tryConnect m first ⟨7⟩)
      let _ ← Program.ask (.tryConnect m second ⟨8⟩)
      Program.dispatchNew m (.plain ⟨7⟩)
    ∃ e stack w w' c, after behaviour 12 (start host ()) = some ⟨.dispatch 0 e, stack, w⟩ ∧
      (w.registry 0).openFrames = [(0, ⟨7⟩)] ∧
      Reaches behaviour ⟨.dispatch 0 e, stack, w⟩ ⟨.outcome (.panicked "lost"), stack, w'⟩ ∧
      (w'.registry 0).openFrames = [(0, ⟨7⟩)] ∧
      after behaviour 14 (start host ()) = some c ∧ c.walks 0 = [(1, ⟨8⟩), (0, ⟨7⟩)] ∧
      FramesFollow 0 c ∧ ((c.world.registry 0).openFrames.map Prod.fst).Nodup := by
  intro behaviour host
  have before : (after behaviour 12 (start host ())).any (State.atDispatch fun m e w => m == 0 &&
      (w.registry m).openFrames == [(0, ⟨7⟩)] &&
      (after behaviour 5 ⟨.dispatch m e, [], w⟩).any (State.hasPanicked "lost")) = true := by cbv
  have inside : (after behaviour 14 (start host ())).any
      (fun c => c.walks 0 == [(1, ⟨8⟩), (0, ⟨7⟩)]) = true := by cbv
  obtain ⟨_, run, told⟩ := (Option.any_eq_true ..).mp before
  obtain ⟨m, e, stack, w, rfl, checked⟩ := atDispatch_sound told
  simp only [Bool.and_eq_true, beq_iff_eq] at checked
  obtain ⟨⟨rfl, found⟩, ended⟩ := checked
  obtain ⟨_, last, panicked⟩ := (Option.any_eq_true ..).mp ended
  obtain ⟨w', rfl⟩ := hasPanicked_iff.mp panicked
  obtain ⟨c, deeper, walks⟩ := (Option.any_eq_true ..).mp inside
  obtain ⟨_, _, leaves⟩ := open_frames_follow_dispatches run 0
  obtain ⟨unwound, same⟩ := leaves 0 e stack w rfl _ w' ⟨5, last⟩
  obtain ⟨follow, distinct, _⟩ := open_frames_follow_dispatches deeper 0
  exact ⟨e, stack, w, w', c, run, found, unwound, same.trans found, deeper, beq_iff_eq.mp walks,
    follow, distinct (.of_le (by decide))⟩

end Machine
end EventEngine
