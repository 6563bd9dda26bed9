import EventEngine.Proofs.Registry.History

/-! Open frames and their history. In whatever order frames are opened and closed, each open one
tells what has happened to the list of its category since it was opened: which of those on the list
at that time have left it, and whether it was changed at all. This rests on the numbers of frames,
none of which is given out twice before all of them have been. -/
namespace EventEngine
namespace Registry

/-- A deed changes the list of a category: somebody is connected to it, or disconnected from it, or
it is forgotten while it holds somebody. -/
inductive Deed.Changes (roll : Roll) (r : Registry) (t : TypeId) : Deed → Prop
  | connects (connected : r.connect roll l t = .ok r') : Changes roll r t (.connect l t)
  | disconnects (disconnected : r.disconnect l t = .ok (removed, r')) (some : 0 < removed) :
    Changes roll r t (.disconnect l t)
  | clears (held : r.listed t ≠ []) : Changes roll r t .clear

/-- What a deed may be, done to a registry while those on a roll live. -/
abbrev Occasion := Registry → Roll → Deed → Prop

namespace Occasion

/-- A frame of the category is opened and gets this number. -/
def opens (t : TypeId) (frame : UInt64) : Occasion := fun r _ deed =>
  deed = .openFrame t ∧ (r.beginDispatch t).1 = frame

def closes (frame : UInt64) : Occasion := fun _ _ deed => deed = .closeFrame frame

def changes (t : TypeId) : Occasion := fun r roll deed => deed.Changes roll r t

/-- The listener is on the list of the category, and then it is not. -/
def leaves (t : TypeId) (l : ListenerId) : Occasion := fun r roll deed =>
  l ∈ r.listed t ∧ l ∉ (deed.perform roll r).2.listed t

/-- The listener is gone. Nobody comes back from there, so one who is alive has never been missed. -/
def misses (l : ListenerId) : Occasion := fun _ roll _ => roll.isAlive l = false

end Occasion

open Occasion

/-- The occasion comes at this time of the history. -/
def ComesAt (hs : List (Roll × Deed)) (occasion : Occasion) (i : Nat) : Prop :=
  ∃ roll deed, hs[i]? = some (roll, deed) ∧ occasion (ofDeeds (hs.take i)) roll deed

/-- The occasion has come after this time of the history. -/
def ComesSince (hs : List (Roll × Deed)) (occasion : Occasion) (i : Nat) : Prop :=
  ∃ j, i < j ∧ ComesAt hs occasion j

/-- The frame was opened at this time of the history, and has not been closed since. -/
structure OpenSince (hs : List (Roll × Deed)) (t : TypeId) (frame : UInt64) (i : Nat) : Prop where
  opened : ComesAt hs (opens t frame) i
  unclosed : ¬ ComesSince hs (closes frame) i

/-- The frame was opened at some time of the history, and closed after that. -/
def Closed (hs : List (Roll × Deed)) (frame : UInt64) : Prop :=
  ∃ t i, ComesAt hs (opens t frame) i ∧ ComesSince hs (closes frame) i

/-- How many frames a deed opens. -/
def Deed.openings : Deed → Nat
  | openFrame _ => 1
  | _ => 0

/-- How many frames are opened in a history. -/
def openings (hs : List (Roll × Deed)) : Nat := (hs.map (·.2.openings)).sum

/-- The frames of a registry are the open ones of its history, and tell of it. -/
structure FramesTell (hs : List (Roll × Deed)) (r : Registry) : Prop where
  /-- No two frames have one number. -/
  distinct : (r.frames.map (·.id)).Nodup
  frames : ∀ t frame, (∃ f ∈ r.frames, f.id = frame ∧ f.type = t) ↔ ∃ i, OpenSince hs t frame i
  /-- Of a listener that was on the list and is still alive, a frame tells whether it has left. -/
  removed : ∀ t frame i l, OpenSince hs t frame i → l ∈ (ofDeeds (hs.take i)).listed t →
    ¬ ComesSince hs (misses l) i →
      (r.removedDuring frame l = true ↔ ComesSince hs (leaves t l) i)
  /-- At its end a frame tells whether its list has been changed. -/
  mutated : ∀ t frame i, OpenSince hs t frame i →
    ((r.endDispatch frame).1 = true ↔ ComesSince hs (changes t) i)
  /-- A frame ends alone, and the others stay as they are. -/
  ends : ∀ frame, (r.endDispatch frame).2 = { r with frames := r.frames.filter (·.id != frame) }
  closed : ∀ frame, Closed hs frame →
    r.endDispatch frame = (false, r) ∧ ∀ l, r.removedDuring frame l = false

variable {roll : Roll} {r : Registry} {t u : TypeId} {l : ListenerId} {hs : List (Roll × Deed)}
  {deed : Deed} {occasion : Occasion} {frame : UInt64} {f : Frame} {i j : Nat}

/-! ### Times -/

theorem ComesAt.lt (comes : ComesAt hs occasion i) : i < hs.length := by
  obtain ⟨_, _, there, -⟩ := comes
  exact (List.getElem?_eq_some_iff.mp there).1

theorem comesAt_concat : ComesAt (hs ++ [(roll, deed)]) occasion i ↔
    ComesAt hs occasion i ∨ i = hs.length ∧ occasion (ofDeeds hs) roll deed := by
  constructor
  · rintro ⟨_, _, there, comes⟩
    rcases at_concat.mp there with there | ⟨rfl, same⟩
    · have before := (List.getElem?_eq_some_iff.mp there).1
      rw [List.take_append_of_le_length before.le] at comes
      exact .inl ⟨_, _, there, comes⟩
    · cases same
      rw [List.take_left' rfl] at comes
      exact .inr ⟨rfl, comes⟩
  · rintro (comes | ⟨rfl, comes⟩)
    · have before := comes.lt
      obtain ⟨_, _, there, comes⟩ := comes
      refine ⟨_, _, at_concat.mpr (.inl there), ?_⟩
      rwa [List.take_append_of_le_length before.le]
    · refine ⟨roll, deed, at_concat.mpr (.inr ⟨rfl, rfl⟩), ?_⟩
      rwa [List.take_left' rfl]

theorem comesSince_concat (earlier : i < hs.length) :
    ComesSince (hs ++ [(roll, deed)]) occasion i ↔
      ComesSince hs occasion i ∨ occasion (ofDeeds hs) roll deed := by
  simp only [ComesSince, comesAt_concat]
  constructor
  · rintro ⟨j, later, comes | ⟨-, comes⟩⟩
    · exact .inl ⟨j, later, comes⟩
    · exact .inr comes
  · rintro (⟨j, later, comes⟩ | comes)
    · exact ⟨j, later, .inl comes⟩
    · exact ⟨_, earlier, .inr ⟨rfl, comes⟩⟩

/-- Nothing has come since just now. -/
theorem not_comesSince_last :
    ¬ ComesSince (hs ++ [(roll, deed)]) occasion hs.length := by
  rintro ⟨j, later, comes⟩
  rcases comesAt_concat.mp comes with comes | ⟨rfl, -⟩
  · exact later.not_gt comes.lt
  · exact later.false

theorem not_comesSince {n : Nat} (length : hs.length = n)
    (never : ∀ j, i < j → j < n → ∀ roll deed, hs[j]? = some (roll, deed) →
      ¬ occasion (ofDeeds (hs.take j)) roll deed) : ¬ ComesSince hs occasion i := by
  rintro ⟨j, later, comes⟩
  have early := length ▸ comes.lt
  obtain ⟨roll, deed, there, comes⟩ := comes
  exact never j later early roll deed there comes

/-! ### Single deeds -/

/-- A deed that neither opens nor closes a frame. -/
def Deed.Ordinary : Deed → Prop
  | openFrame _ | closeFrame _ => False
  | _ => True

/-- An ordinary deed does one of the things that alter a registry, and marks the frames of the
categories whose lists it changes. -/
theorem perform_alters (roll : Roll) (r : Registry) (ordinary : deed.Ordinary) :
    Alters roll r (deed.perform roll r).2 ∧ Marks (deed.Changes roll r) r (deed.perform roll r).2 := by
  cases deed with
  | connect l t =>
    simp only [Deed.perform, connectInPlace_eq]
    cases connected : r.connect roll l t with
    | ok after =>
      refine ⟨connect_alters connected, (connect_marks connected).congr fun u => ⟨?_, ?_⟩⟩
      · rintro ⟨⟩
        rfl
      · rintro rfl
        exact .connects connected
    | error e =>
      refine ⟨.refl roll r, .still rfl fun u changes => ?_⟩
      cases changes with
      | connects accepted => cases connected.symm.trans accepted
  | disconnect l t =>
    simp only [Deed.perform]
    cases disconnected : r.disconnect l t with
    | ok result =>
      obtain ⟨removed, after⟩ := result
      refine ⟨disconnect_alters disconnected, (disconnect_marks disconnected).congr fun u => ⟨?_, ?_⟩⟩
      · rintro (_ | ⟨found, some⟩ | _)
        cases disconnected.symm.trans found
        exact ⟨rfl, some⟩
      · rintro ⟨rfl, some⟩
        exact .disconnects disconnected some
    | error e =>
      refine ⟨.refl roll r, .still rfl fun u changes => ?_⟩
      cases changes with
      | disconnects found => cases disconnected.symm.trans found
  | prune t l => exact ⟨prune_alters, .still prune_frames (by rintro u ⟨⟩)⟩
  | pruneAll => exact ⟨pruneAll_alters, .still rfl (by rintro u ⟨⟩)⟩
  | clear =>
    refine ⟨clear_alters, clear_marks.congr fun u => ⟨?_, .clears⟩⟩
    rintro (_ | _ | held)
    exact held
  | openFrame | closeFrame => cases ordinary

/-- The frames that a deed opens. -/
def Deed.opened (r : Registry) : Deed → List Frame
  | openFrame t => [{ id := r.nextFrame, type := t }]
  | _ => []

/-- Whether a deed closes the frame with a number. -/
def Deed.closes (frame : UInt64) : Deed → Bool
  | closeFrame closed => frame == closed
  | _ => false

/-- An open frame before and after a deed. -/
structure Follows (roll : Roll) (r : Registry) (deed : Deed) (f f' : Frame) : Prop where
  notices : Notices roll r (deed.perform roll r).2 f f'
  mutated : f'.mutated = true ↔ f.mutated = true ∨ deed.Changes roll r f.type

/-- If numbers are distinct, closing the first frame with a number closes all of them. -/
theorem eraseP_eq_filter {frames : List Frame} (distinct : (frames.map (·.id)).Nodup) :
    frames.eraseP (·.id == frame) = frames.filter (·.id != frame) := by
  induction frames with
  | nil => rfl
  | cons f frames ih =>
    obtain ⟨new, distinct⟩ := List.nodup_cons.mp distinct
    by_cases same : f.id = frame
    · rw [List.eraseP_cons_of_pos (by simpa using same), List.filter_cons_of_neg (by simpa using same)]
      refine (List.filter_eq_self.mpr fun g inside => bne_iff_ne.mpr fun equal => new ?_).symm
      exact List.mem_map.mpr ⟨g, inside, equal.trans same.symm⟩
    · rw [List.eraseP_cons_of_neg (by simpa using same), List.filter_cons_of_pos (by simpa using same),
        ih distinct]

theorem ordinary_frames (roll : Roll) (r : Registry) (ordinary : deed.Ordinary) :
    ∃ change : Frame → Frame, (deed.perform roll r).2.frames = r.frames.map change ∧
      ∀ f ∈ r.frames, Follows roll r deed f (change f) := by
  obtain ⟨⟨⟨change, frames, notices⟩, -⟩, change', frames', marks⟩ := perform_alters roll r ordinary
  refine ⟨change, frames, fun f inside => ⟨notices f, ?_⟩⟩
  rw [List.map_inj_left.mp (frames.symm.trans frames') f inside]
  exact (marks f).2.2

/-- A deed opens some frames and closes some, and the others follow what it does. -/
theorem frames_perform (roll : Roll) (deed : Deed) (distinct : (r.frames.map (·.id)).Nodup) :
    ∃ change : Frame → Frame, (deed.perform roll r).2.frames =
        deed.opened r ++ (r.frames.filter fun f => !deed.closes f.id).map change ∧
      ∀ f ∈ r.frames, Follows roll r deed f (change f) := by
  cases deed with
  | openFrame t =>
    refine ⟨id, ?_, fun f _ => ⟨.unmoved fun l listed _ => listed, ?_⟩⟩
    · simp [Deed.perform, beginDispatch, Deed.opened, Deed.closes]
    · exact (or_iff_left (by rintro ⟨⟩)).symm
  | closeFrame frame =>
    refine ⟨id, ?_, fun f _ => ⟨.unmoved fun l listed _ => listed, ?_⟩⟩
    · rw [List.map_id]
      exact eraseP_eq_filter distinct
    · exact (or_iff_left (by rintro ⟨⟩)).symm
  | _ =>
    refine (ordinary_frames roll r (by exact trivial)).imp fun change follows => ⟨?_, follows.2⟩
    simp [follows.1, Deed.opened, Deed.closes]

/-! ### Numbers -/

theorem openings_concat : openings (hs ++ [(roll, deed)]) = openings hs + deed.openings := by
  simp [openings]

theorem openings_take_succ (there : hs[i]? = some (roll, deed)) :
    openings (hs.take (i + 1)) = openings (hs.take i) + deed.openings := by
  rw [List.take_add_one, there]
  exact openings_concat

theorem openings_take_mono (earlier : i ≤ j) : openings (hs.take i) ≤ openings (hs.take j) := by
  have sublist : (hs.take i).Sublist (hs.take j) := (List.take_prefix_take_left earlier).sublist
  exact (sublist.map _).sum_le_sum fun _ _ => Nat.zero_le _

theorem perform_nextFrame (roll : Roll) (r : Registry) (deed : Deed) :
    (deed.perform roll r).2.nextFrame = r.nextFrame + .ofNat deed.openings := by
  cases deed with
  | openFrame | closeFrame => first | rfl | exact (UInt64.add_zero _).symm
  | _ => exact (perform_alters roll r (by exact trivial)).1.nextFrame.trans (UInt64.add_zero _).symm

/-- The number that the next frame gets. -/
theorem nextFrame_ofDeeds (hs : List (Roll × Deed)) :
    (ofDeeds hs).nextFrame = .ofNat (openings hs) := by
  induction hs using List.reverseRecOn with
  | nil => rfl
  | append_singleton hs h ih =>
    rw [ofDeeds_append, perform_nextFrame, ih, openings_concat, UInt64.ofNat_add]

/-- A number is given out once. -/
theorem opened_once (few : openings hs < 2 ^ 64) (first : ComesAt hs (opens t frame) i)
    (other : ComesAt hs (opens u frame) j) : i = j := by
  -- a number is the count of the frames that were opened before, which grows with each one
  have least {t : TypeId} {i : Nat} (comes : ComesAt hs (opens t frame) i) :
      frame = .ofNat (openings (hs.take i)) ∧
        openings (hs.take (i + 1)) = openings (hs.take i) + 1 := by
    obtain ⟨_, _, there, rfl, number⟩ := comes
    exact ⟨number.symm.trans (nextFrame_ofDeeds _), openings_take_succ there⟩
  have before {t u : TypeId} {i j : Nat} (first : ComesAt hs (opens t frame) i)
      (other : ComesAt hs (opens u frame) j) : ¬ i < j := by
    intro earlier
    obtain ⟨number, more⟩ := least first
    obtain ⟨number', -⟩ := least other
    have grown : openings (hs.take (i + 1)) ≤ openings (hs.take j) := openings_take_mono earlier
    have few' : openings (hs.take j) ≤ openings (hs.take hs.length) := openings_take_mono other.lt.le
    rw [List.take_length] at few'
    have same := congrArg UInt64.toNat (number.symm.trans number')
    rw [UInt64.toNat_ofNat_of_lt' (by simp only [UInt64.size]; omega),
      UInt64.toNat_ofNat_of_lt' (by simp only [UInt64.size]; omega)] at same
    omega
  exact Nat.le_antisymm (Nat.le_of_not_lt (before other first)) (Nat.le_of_not_lt (before first other))

/-! ### Records -/

/-- A frame tells what has happened to the list of its category since a time at which it was
opened. -/
structure TellsSince (hs : List (Roll × Deed)) (i : Nat) (f : Frame) : Prop where
  openSince : OpenSince hs f.type f.id i
  mutated : f.mutated = true ↔ ComesSince hs (changes f.type) i
  stays : ∀ l ∈ (ofDeeds (hs.take i)).listed f.type,
    l ∈ (ofDeeds hs).listed f.type ∨ ComesSince hs (leaves f.type l) i
  left : ∀ l ∈ (ofDeeds (hs.take i)).listed f.type, ¬ ComesSince hs (misses l) i →
    (f.TellsOf l ↔ ComesSince hs (leaves f.type l) i)

theorem Deed.closes_iff : deed.closes frame = true ↔ deed = .closeFrame frame := by
  cases deed with
  | closeFrame closed =>
    rw [Deed.closes, beq_iff_eq, Deed.closeFrame.injEq]
    exact eq_comm
  | _ => exact iff_of_false nofun nofun

/-- A frame that is not closed by a deed goes on telling. -/
theorem TellsSince.perform {f' : Frame} (tells : TellsSince hs i f)
    (unclosed : deed.closes f.id = false) (follows : Follows roll (ofDeeds hs) deed f f') :
    TellsSince (hs ++ [(roll, deed)]) i f' := by
  have earlier := tells.openSince.opened.lt
  have taken : (hs ++ [(roll, deed)]).take i = hs.take i := List.take_append_of_le_length earlier.le
  constructor
  · rw [follows.notices.id, follows.notices.type]
    refine ⟨comesAt_concat.mpr (.inl tells.openSince.opened), fun closed => ?_⟩
    rcases (comesSince_concat earlier).mp closed with closed | now
    · exact tells.openSince.unclosed closed
    · rw [Deed.closes_iff.mpr now] at unclosed
      cases unclosed
  · rw [follows.notices.type, follows.mutated, tells.mutated, comesSince_concat earlier]
    exact Iff.rfl
  · rw [follows.notices.type, taken, ofDeeds_append]
    intro l listed
    rw [comesSince_concat earlier]
    rcases tells.stays l listed with inside | left
    · by_cases stays : l ∈ (deed.perform roll (ofDeeds hs)).2.listed f.type
      · exact .inl stays
      · exact .inr (.inr ⟨inside, stays⟩)
    · exact .inr (.inl left)
  · rw [follows.notices.type, taken]
    intro l listed alive
    rw [comesSince_concat earlier, not_or] at alive
    have told := tells.left l listed alive.1
    rw [comesSince_concat earlier]
    -- a frame notices a departure at once, and does not forget it if the listener comes back
    rcases tells.stays l listed with inside | left
    · rw [follows.notices.departure l inside (by simpa [misses] using alive.2), told]
      exact or_congr_right (and_iff_right inside).symm
    · exact iff_of_true (follows.notices.remembers l (told.mpr left)) (.inl left)

/-- A frame that was just opened tells nothing yet. -/
theorem tellsSince_opened (inside : f ∈ deed.opened (ofDeeds hs)) :
    TellsSince (hs ++ [(roll, deed)]) hs.length f := by
  cases deed with
  | openFrame t =>
    obtain rfl := List.mem_singleton.mp inside
    refine ⟨⟨comesAt_concat.mpr (.inr ⟨rfl, rfl, rfl⟩), not_comesSince_last⟩,
      iff_of_false nofun not_comesSince_last, fun l listed => ?_,
      fun l _ _ => iff_of_false ?_ not_comesSince_last⟩
    · rw [List.take_left' rfl] at listed
      rw [ofDeeds_append]
      exact .inl listed
    · rintro (cleared | removed)
      · cases cleared
      · cases removed
  | _ => cases inside

/-- The frames of a registry are the open ones of its history, each with a number of its own. -/
structure Books (hs : List (Roll × Deed)) (r : Registry) : Prop where
  tells : ∀ f ∈ r.frames, ∃ i, TellsSince hs i f
  kept : ∀ t frame i, OpenSince hs t frame i → ∃ f ∈ r.frames, f.id = frame
  distinct : (r.frames.map (·.id)).Nodup

theorem books_empty : Books [] .empty where
  tells := fun f inside => by cases inside
  kept := fun t frame i isOpen => by cases isOpen.opened.lt
  distinct := .nil

theorem Books.perform (books : Books hs (ofDeeds hs))
    (few : openings (hs ++ [(roll, deed)]) < 2 ^ 64) :
    Books (hs ++ [(roll, deed)]) (deed.perform roll (ofDeeds hs)).2 := by
  obtain ⟨change, frames, follows⟩ := frames_perform roll deed books.distinct
  constructor
  · intro f' there
    rw [frames] at there
    rcases List.mem_append.mp there with new | old
    · exact ⟨_, tellsSince_opened new⟩
    · obtain ⟨f, kept, rfl⟩ := List.mem_map.mp old
      obtain ⟨inside, unclosed⟩ := List.mem_filter.mp kept
      obtain ⟨i, tells⟩ := books.tells f inside
      exact ⟨i, tells.perform (by simpa using unclosed) (follows f inside)⟩
  · intro t frame i isOpen
    rw [frames]
    rcases comesAt_concat.mp isOpen.opened with opened | ⟨rfl, rfl, number⟩
    · have since {occasion : Occasion} : ComesSince (hs ++ [(roll, deed)]) occasion i ↔
          ComesSince hs occasion i ∨ occasion (ofDeeds hs) roll deed := comesSince_concat opened.lt
      obtain ⟨f, inside, rfl⟩ := books.kept t frame i
        ⟨opened, fun closed => isOpen.unclosed (since.mpr (.inl closed))⟩
      have unclosed : deed.closes f.id = false := Bool.eq_false_iff.mpr fun closes =>
        isOpen.unclosed (since.mpr (.inr (Deed.closes_iff.mp closes)))
      refine ⟨change f, List.mem_append_right _ (List.mem_map_of_mem ?_), (follows f inside).notices.id⟩
      exact List.mem_filter.mpr ⟨inside, by rw [unclosed]; rfl⟩
    · exact ⟨_, List.mem_append_left _ (List.mem_singleton.mpr rfl), number⟩
  · have same : ((((ofDeeds hs).frames.filter fun f => !deed.closes f.id).map change).map (·.id)) =
        ((ofDeeds hs).frames.filter fun f => !deed.closes f.id).map (·.id) := by
      rw [List.map_map]
      exact List.map_congr_left fun f inside => (follows f (List.mem_filter.mp inside).1).notices.id
    rw [frames, List.map_append, same]
    refine List.nodup_append.mpr ⟨?_, books.distinct.sublist (List.filter_sublist.map _), ?_⟩
    · cases deed with
      | openFrame => exact List.nodup_singleton _
      | _ => exact .nil
    · -- an old frame with the new number would have got it at another time
      intro new isNew old isOld equal
      obtain ⟨f, opens, rfl⟩ := List.mem_map.mp isNew
      obtain ⟨g, kept, rfl⟩ := List.mem_map.mp isOld
      obtain ⟨i, tells⟩ := books.tells g (List.mem_filter.mp kept).1
      have told : TellsSince (hs ++ [(roll, deed)]) hs.length f := tellsSince_opened opens
      have opened := told.openSince.opened
      rw [equal] at opened
      exact tells.openSince.opened.lt.ne
        (opened_once few (comesAt_concat.mpr (.inl tells.openSince.opened)) opened)

theorem books_ofDeeds (few : openings hs < 2 ^ 64) : Books hs (ofDeeds hs) := by
  induction hs using List.reverseRecOn with
  | nil => exact books_empty
  | append_singleton hs h books =>
    rw [ofDeeds_append]
    refine (books (Nat.lt_of_le_of_lt ?_ few)).perform few
    rw [openings_concat]
    exact Nat.le_add_right ..

/-! ### Open and closed frames -/

/-- An open frame of the history is found among those of the registry. -/
theorem Books.found (books : Books hs r) (few : openings hs < 2 ^ 64)
    (isOpen : OpenSince hs t frame i) :
    ∃ f ∈ r.frames, f.id = frame ∧ f.type = t ∧ TellsSince hs i f := by
  obtain ⟨f, inside, rfl⟩ := books.kept t frame i isOpen
  obtain ⟨j, tells⟩ := books.tells f inside
  obtain rfl := opened_once few isOpen.opened tells.openSince.opened
  obtain ⟨_, _, there, rfl, -⟩ := isOpen.opened
  obtain ⟨_, _, there', same, -⟩ := tells.openSince.opened
  cases there.symm.trans there'
  exact ⟨f, inside, rfl, (Deed.openFrame.inj same).symm, tells⟩

theorem frame?_eq (distinct : (r.frames.map (·.id)).Nodup) (inside : f ∈ r.frames) :
    r.frame? f.id = some f := by
  unfold frame?
  cases found : r.frames.find? (·.id == f.id) with
  | none => exact absurd (BEq.rfl (a := f.id)) (List.find?_eq_none.mp found f inside)
  | some g =>
    have same : g.id = f.id := by simpa using List.find?_some found
    rw [List.inj_on_of_nodup_map distinct (List.mem_of_find?_eq_some found) inside same]

/-- No frame of the registry was closed. -/
theorem Books.frame?_closed (books : Books hs r) (few : openings hs < 2 ^ 64)
    (closed : Closed hs frame) : r.frame? frame = none := by
  obtain ⟨t, i, opened, since⟩ := closed
  refine List.find?_eq_none.mpr fun f inside same => ?_
  obtain rfl : f.id = frame := beq_iff_eq.mp same
  obtain ⟨j, tells⟩ := books.tells f inside
  obtain rfl := opened_once few opened tells.openSince.opened
  exact tells.openSince.unclosed since

/-- The frames of a registry follow its history, in whatever order they are opened and closed. As
long as there have been numbers for all of them, the frames are those that were opened and have not
been closed. Each of them tells of the living listeners who were on its list whether they have left
it, even if they are back, and at its end whether the list was changed; it ends alone, and then its
number tells nothing any more. -/
theorem frames_follow_history (hs : List (Roll × Deed)) (few : openings hs < 2 ^ 64) :
    FramesTell hs (ofDeeds hs) := by
  have books := books_ofDeeds few
  constructor
  · exact books.distinct
  · intro t frame
    constructor
    · rintro ⟨f, inside, rfl, rfl⟩
      obtain ⟨i, tells⟩ := books.tells f inside
      exact ⟨i, tells.openSince⟩
    · rintro ⟨i, isOpen⟩
      obtain ⟨f, inside, same, type, -⟩ := books.found few isOpen
      exact ⟨f, inside, same, type⟩
  · intro t frame i l isOpen listed alive
    obtain ⟨f, inside, rfl, rfl, tells⟩ := books.found few isOpen
    rw [removedDuring_iff (frame?_eq books.distinct inside)]
    exact tells.left l listed alive
  · intro t frame i isOpen
    obtain ⟨f, inside, rfl, rfl, tells⟩ := books.found few isOpen
    rw [endDispatch, frame?_eq books.distinct inside]
    exact tells.mutated
  · intro frame
    rw [endDispatch, eraseP_eq_filter books.distinct]
  · intro frame closed
    have none := books.frame?_closed few closed
    have absent : (ofDeeds hs).frames.eraseP (·.id == frame) = (ofDeeds hs).frames :=
      List.eraseP_of_forall_not (List.find?_eq_none.mp none)
    exact ⟨by rw [endDispatch, none, absent]; rfl, fun l => by rw [removedDuring, none]⟩

/-- The first of three frames is closed first. While it was open it told of a listener who had left
the list and come back; now it tells nothing, and of the others only the one of the same category
tells that the list was changed. -/
theorem first_frame_closed_first :
    let alive : Roll := fun _ => some "listener"
    let before : List (Roll × Deed) := [(alive, .connect 1 ⟨7⟩), (alive, .connect 2 ⟨7⟩),
      (alive, .openFrame ⟨7⟩), (alive, .openFrame ⟨8⟩), (alive, .disconnect 1 ⟨7⟩),
      (alive, .openFrame ⟨7⟩), (alive, .connect 1 ⟨7⟩)]
    let hs := before ++ [(alive, .closeFrame 0)]
    openings before < 2 ^ 64 ∧ openings hs < 2 ^ 64 ∧
      (ofDeeds before).removedDuring 0 1 = true ∧ (ofDeeds hs).removedDuring 0 1 = false ∧
      ((ofDeeds hs).endDispatch 1).1 = false ∧ ((ofDeeds hs).endDispatch 2).1 = true := by
  intro alive before hs
  have few : openings before < 2 ^ 64 := by decide
  have few' : openings hs < 2 ^ 64 := by decide
  have told := frames_follow_history before few
  have tells := frames_follow_history hs few'
  have first : OpenSince before ⟨7⟩ 0 2 := ⟨⟨_, _, rfl, rfl, rfl⟩, not_comesSince (n := 7) rfl
    fun j _ _ _ _ there closed => by interval_cases j <;> cases there <;> cases closed⟩
  have second : OpenSince hs ⟨8⟩ 1 3 := ⟨⟨_, _, rfl, rfl, rfl⟩, not_comesSince (n := 8) rfl
    fun j _ _ _ _ there closed => by interval_cases j <;> cases there <;> cases closed⟩
  have third : OpenSince hs ⟨7⟩ 2 5 := ⟨⟨_, _, rfl, rfl, rfl⟩, not_comesSince (n := 8) rfl
    fun j _ _ _ _ there closed => by interval_cases j <;> cases there <;> cases closed⟩
  refine ⟨few, few', ?_, ?_, ?_, ?_⟩
  · refine (told.removed ⟨7⟩ 0 2 1 first (by decide) (not_comesSince (n := 7) rfl
      fun j _ _ _ _ there gone => by interval_cases j <;> cases there <;> cases gone)).mpr ?_
    exact ⟨4, by decide, _, _, rfl, by decide, by decide⟩
  · exact (tells.closed 0 ⟨⟨7⟩, 2, ⟨_, _, rfl, rfl, rfl⟩, 7, by decide, _, _, rfl, rfl⟩).2 1
  · refine Bool.eq_false_iff.mpr fun mutated => ?_
    exact not_comesSince (n := 8) rfl
      (fun j _ _ _ _ there changed => by interval_cases j <;> cases there <;> cases changed)
      ((tells.mutated ⟨8⟩ 1 3 second).mp mutated)
  · exact (tells.mutated ⟨7⟩ 2 5 third).mpr ⟨6, by decide, _, _, rfl, .connects rfl⟩

end Registry
end EventEngine
