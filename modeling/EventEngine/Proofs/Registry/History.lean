import Mathlib
import EventEngine.Proofs.Registry.Resemblance

/-! A registry and its history. At every time the list of a category holds those whose latest
connect has not been undone since, in the order of these connects, and the category has a list if
somebody was connected to it since all lists were forgotten. What is refused changes nothing. -/
namespace EventEngine
namespace Registry

/-- Connecting, one thing after the other: a category without a list gets one before the list is
looked through. -/
def connectInPlace (roll : Roll) (l : ListenerId) (t : TypeId) (r : Registry) :
    Option RegistrationError × Registry :=
  match roll l with
  | none => (some (.deadListener t), r)
  | some name =>
    let made := { r with table := r.table.set t (r.listed t) }
    if made.contains t l then (some (.alreadyConnected name t), made)
    else (none, mapFrames t Frame.markMutated
      { made with table := made.table.set t (made.listed t ++ [l]) })

/-- What is done to a registry. -/
inductive Deed
  | connect (l : ListenerId) (t : TypeId)
  | disconnect (l : ListenerId) (t : TypeId)
  | prune (t : TypeId) (l : ListenerId)
  | pruneAll
  | clear
  | openFrame (t : TypeId)
  | closeFrame (frame : UInt64)

namespace Deed

/-- The refusal of a deed, if it is refused, and the registry after it. -/
def perform (roll : Roll) (r : Registry) : Deed → Option RegistrationError × Registry
  | connect l t => r.connectInPlace roll l t
  | disconnect l t =>
    match r.disconnect l t with
    | .ok (_, after) => (none, after)
    | .error e => (some e, r)
  | prune t l => (none, (r.prune roll t l).2)
  | pruneAll => (none, (r.pruneAll roll).2)
  | clear => (none, r.clear)
  | openFrame t => (none, (r.beginDispatch t).2)
  | closeFrame frame => (none, (r.endDispatch frame).2)

/-- Whether a deed takes a listener off the list of a category, if it is there. Those that are
alive are not pruned. -/
def removes (roll : Roll) (t : TypeId) (l : ListenerId) : Deed → Bool
  | disconnect k u => decide (k = l ∧ u = t)
  | prune u k => decide (k = l ∧ u = t ∧ roll.isAlive l = false)
  | pruneAll => !roll.isAlive l
  | clear => true
  | connect .. | openFrame _ | closeFrame _ => false

/-- The listener that joins the list of a category by a deed. -/
def joining (roll : Roll) (r : Registry) (t : TypeId) : Deed → List ListenerId
  | connect l u => if u = t ∧ (r.connectInPlace roll l u).1 = none then [l] else []
  | _ => []

end Deed

/-- What deeds make of a new registry, each of them done while those on its roll live. -/
def ofDeeds (hs : List (Roll × Deed)) : Registry :=
  hs.foldl (fun r h => (h.2.perform h.1 r).2) .empty

/-- At this time of the history the listener is connected to the category, and not refused. -/
def Connects (hs : List (Roll × Deed)) (t : TypeId) (l : ListenerId) (i : Nat) : Prop :=
  ∃ roll, hs[i]? = some (roll, .connect l t) ∧
    ((Deed.connect l t).perform roll (ofDeeds (hs.take i))).1 = none

/-- The latest connect of the listener to the category is the one at this time, and nothing has
taken the listener off the list since. -/
structure Stands (hs : List (Roll × Deed)) (t : TypeId) (l : ListenerId) (i : Nat) : Prop where
  connects : Connects hs t l i
  latest : ∀ j, i < j → ¬ Connects hs t l j
  stays : ∀ j roll deed, i < j → hs[j]? = some (roll, deed) → deed.removes roll t l = false

/-- Somebody was connected to the category, and the lists have not been forgotten since. -/
def Known (hs : List (Roll × Deed)) (t : TypeId) : Prop :=
  ∃ i l, Connects hs t l i ∧ ∀ j roll, i < j → hs[j]? ≠ some (roll, .clear)

/-- A registry holds what its history says. -/
structure Records (hs : List (Roll × Deed)) (r : Registry) : Prop where
  listed : ∀ t l, l ∈ r.listed t ↔ ∃ i, Stands hs t l i
  ordered : ∀ t, (r.listed t).Pairwise fun k l => ∀ i j, Stands hs t k i → Stands hs t l j → i < j
  known : ∀ t, (r.table.list? t).isSome = true ↔ Known hs t

/-- What a registry with a history answers to those who connect and disconnect. -/
structure Answers (hs : List (Roll × Deed)) (r : Registry) : Prop where
  dead : ∀ roll l t, r.connect roll l t = .error (.deadListener t) ↔ roll.isAlive l = false
  double : ∀ roll l t, r.connect roll l t = .error (.alreadyConnected (roll.describe l) t) ↔
    roll.isAlive l = true ∧ ∃ i, Stands hs t l i
  connects : ∀ roll l t, (∃ after, r.connect roll l t = .ok after) ↔
    roll.isAlive l = true ∧ ¬ ∃ i, Stands hs t l i
  unknown : ∀ l t, r.disconnect l t = .error (.unknownEventType t) ↔ ¬ Known hs t
  removes : ∀ l t, (∃ after, r.disconnect l t = .ok (1, after)) ↔ ∃ i, Stands hs t l i
  absent : ∀ l t, r.disconnect l t = .ok (0, r) ↔ Known hs t ∧ ¬ ∃ i, Stands hs t l i
  /-- A connect of the history is one that is answered so. -/
  performs : ∀ roll l t, (Deed.connect l t).perform roll r =
    match r.connect roll l t with
    | .ok after => (none, after)
    | .error e => (some e, r)

variable {roll : Roll} {r r' : Registry} {t : TypeId} {l : ListenerId} {hs : List (Roll × Deed)}

/-! ### Single deeds -/

/-- Who is listed is on a list that there is. -/
theorem list?_of_listed (inside : l ∈ r.listed t) : r.table.list? t = some (r.listed t) := by
  unfold listed at inside ⊢
  cases held : r.table.list? t with
  | none => rw [held] at inside; cases inside
  | some list => rfl

theorem connect_eq (roll : Roll) (l : ListenerId) (t : TypeId) (r : Registry) :
    r.connect roll l t =
      if roll.isAlive l = false then .error (.deadListener t)
      else if l ∈ r.listed t then .error (.alreadyConnected (roll.describe l) t)
      else .ok (mapFrames t Frame.markMutated
        { r with table := r.table.set t (r.listed t ++ [l]) }) := by
  rw [connect, Roll.isAlive, Roll.describe]
  cases roll l with
  | none => rfl
  | some name =>
    simp only [Option.isSome_some, Bool.true_eq_false, if_false, Option.getD_some]
    by_cases inside : l ∈ r.listed t
    · rw [if_pos inside, if_pos (contains_iff.mpr inside)]
    · rw [if_neg inside, if_neg (mt contains_iff.mp inside), listed]

/-- Who is on a list holds one place of it. -/
theorem disconnect_eq (nodup : (r.listed t).Nodup) :
    r.disconnect l t =
      if (r.table.list? t).isSome = true then
        if l ∈ r.listed t then
          .ok (1, mapFrames t (Frame.markRemoved l)
            { r with table := r.table.set t ((r.listed t).filter (· != l)) })
        else .ok (0, r)
      else .error (.unknownEventType t) := by
  unfold listed at nodup ⊢
  rw [disconnect]
  cases held : r.table.list? t with
  | none => rfl
  | some list =>
    rw [held, Option.getD_some] at nodup
    simp only [Option.isSome_some, Option.getD_some, if_true]
    by_cases inside : l ∈ list
    · rw [if_pos inside, List.count_eq_one_of_mem nodup inside, if_neg Nat.one_ne_zero]
    · rw [if_neg inside, if_pos (List.count_eq_zero.mpr inside)]

/-- Making the list first makes no difference. -/
theorem connectInPlace_eq (roll : Roll) (l : ListenerId) (t : TypeId) (r : Registry) :
    r.connectInPlace roll l t =
      match r.connect roll l t with
      | .ok after => (none, after)
      | .error e => (some e, r) := by
  simp only [connectInPlace, connect]
  cases roll l with
  | none => rfl
  | some name =>
    have same : ({ r with table := r.table.set t (r.listed t) } : Registry).contains t l =
        r.contains t l := by
      simp only [contains, Table.list?_set, if_true, Option.getD_some, listed]
    simp only [same]
    cases inside : r.contains t l with
    | true =>
      have held := list?_of_listed (contains_iff.mp inside)
      simp only [if_true, Table.set_of_list? held]
    | false =>
      simp only [Bool.false_eq_true, if_false, Table.set_set, listed, Table.list?_set, if_true,
        Option.getD_some]

theorem connectInPlace_none :
    (r.connectInPlace roll l t).1 = none ↔ ∃ after, r.connect roll l t = .ok after := by
  rw [connectInPlace_eq]
  cases r.connect roll l t <;> simp

/-- Who is connected was not on the list. -/
theorem not_listed_of_connect (connected : r.connect roll l t = .ok r') : l ∉ r.listed t := by
  intro inside
  rw [← contains_iff] at inside
  unfold connect at connected
  split at connected
  · cases connected
  · rw [if_pos inside] at connected
    cases connected

theorem mem_joining {deed : Deed} :
    l ∈ deed.joining roll r t ↔ deed = .connect l t ∧ (deed.perform roll r).1 = none := by
  cases deed with
  | connect k u =>
    simp only [Deed.joining, Deed.perform, Deed.connect.injEq]
    split
    · rename_i joins
      rw [List.mem_singleton]
      exact ⟨fun same => ⟨⟨same.symm, joins.1⟩, joins.2⟩, fun same => same.1.1.symm⟩
    · rename_i refused
      simp only [List.not_mem_nil, false_iff]
      exact fun joins => refused ⟨joins.1.2, joins.2⟩
  | _ => simp [Deed.joining]

theorem not_listed_of_joining {deed : Deed} (joins : l ∈ deed.joining roll r t) :
    l ∉ r.listed t := by
  obtain ⟨rfl, accepted⟩ := mem_joining.mp joins
  obtain ⟨_, connected⟩ := connectInPlace_none.mp accepted
  exact not_listed_of_connect connected

/-- The list of a category after a deed that nobody joins the list by. -/
def Deed.leaves (roll : Roll) (t : TypeId) (deed : Deed) (held : Option (List ListenerId)) :
    Option (List ListenerId) :=
  match deed with
  | .clear => none
  | deed => held.map (·.filter (!deed.removes roll t ·))

theorem map_filter_kept {p : ListenerId → Bool} {held : Option (List ListenerId)}
    (kept : ∀ l, p l = true) : held.map (·.filter p) = held := by
  have all : p = fun _ => true := funext kept
  cases held <;> simp [all]

/-- A deed takes listeners off a list, or appends those who join it. -/
theorem list?_perform (roll : Roll) (r : Registry) (deed : Deed) (t : TypeId) :
    (deed.perform roll r).2.table.list? t =
      if deed.joining roll r t = [] then deed.leaves roll t (r.table.list? t)
      else some (r.listed t ++ deed.joining roll r t) := by
  cases deed with
  | connect l u =>
    have stays : (Deed.connect l u).leaves roll t (r.table.list? t) = r.table.list? t :=
      map_filter_kept fun _ => rfl
    rw [stays]
    simp only [Deed.joining, Deed.perform, connectInPlace_eq]
    cases connected : r.connect roll l u with
    | error e => simp
    | ok after =>
      rw [(connect_relists connected).lists]
      by_cases same : u = t
      · subst same
        simp [listed]
      · simp [same]
  | disconnect l u =>
    simp only [Deed.joining, Deed.perform, if_true]
    have here : (Deed.disconnect l u).leaves roll t (r.table.list? t) =
        if u = t then (r.table.list? t).map (·.filter (· != l)) else r.table.list? t := by
      by_cases same : u = t
      · rw [if_pos same, Deed.leaves]
        · refine congrArg (Option.map · _) (funext fun list => List.filter_congr fun k _ => ?_)
          by_cases equal : l = k
          · simp [Deed.removes, same, equal]
          · simp [Deed.removes, equal, Ne.symm equal]
        · rintro ⟨⟩
      · rw [if_neg same]
        exact map_filter_kept fun k => by simp [Deed.removes, same]
    rw [here]
    cases held : r.table.list? u with
    | none =>
      simp only [disconnect, held]
      split
      · rename_i same
        rw [← same, held]
        rfl
      · rfl
    | some list =>
      obtain ⟨removed, after, disconnected⟩ := disconnect_ok (l := l) held
      simp only [disconnected]
      exact (disconnect_relists disconnected).lists t
  | prune u l =>
    simp only [Deed.joining, Deed.perform, if_true]
    rw [prune_relists.lists]
    by_cases taken : u = t ∧ roll.isAlive l = false
    · rw [if_pos taken, Deed.leaves]
      · refine congrArg (Option.map · _) (funext fun list => List.filter_congr fun k _ => ?_)
        by_cases same : l = k
        · simp [Deed.removes, taken, ← same]
        · simp [Deed.removes, same, Ne.symm same]
      · rintro ⟨⟩
    · rw [if_neg taken]
      refine (map_filter_kept fun k => ?_).symm
      simp only [Deed.removes, Bool.not_eq_true', decide_eq_false_iff_not]
      rintro ⟨rfl, removed⟩
      exact taken removed
  | pruneAll =>
    simp only [Deed.joining, Deed.perform, Deed.leaves, Deed.removes, Bool.not_not, if_true]
    exact pruneAll_relists.lists t
  | clear => rfl
  | openFrame | closeFrame => exact (map_filter_kept fun _ => rfl).symm

/-- Those whom a deed takes off a list are gone from it, and those who join come last. -/
theorem listed_perform (roll : Roll) (r : Registry) (deed : Deed) (t : TypeId) :
    (deed.perform roll r).2.listed t =
      (r.listed t).filter (!deed.removes roll t ·) ++ deed.joining roll r t := by
  rw [listed, list?_perform]
  split
  · rename_i nobody
    rw [nobody, List.append_nil]
    cases deed <;> cases held : r.table.list? t <;> simp [Deed.leaves, Deed.removes, listed, held]
  · rename_i somebody
    cases deed with
    | connect => simp [Deed.removes]
    | _ => simp [Deed.joining] at somebody

/-! ### Histories -/

theorem ofDeeds_append (hs : List (Roll × Deed)) (h : Roll × Deed) :
    ofDeeds (hs ++ [h]) = (h.2.perform h.1 (ofDeeds hs)).2 := by
  rw [ofDeeds, List.foldl_append]
  rfl

variable {deed : Deed} {i j : Nat}

theorem at_concat {h h' : Roll × Deed} :
    (hs ++ [h])[j]? = some h' ↔ hs[j]? = some h' ∨ j = hs.length ∧ h = h' := by
  rcases Nat.lt_trichotomy j hs.length with before | rfl | after
  · rw [List.getElem?_append_left before]
    exact ⟨.inl, fun there => there.resolve_right fun last => before.ne last.1⟩
  · rw [List.getElem?_concat_length, List.getElem?_eq_none (Nat.le_refl _)]
    exact ⟨fun same => .inr ⟨rfl, Option.some.inj same⟩, fun there => by
      rw [(there.resolve_left nofun).2]⟩
  · rw [List.getElem?_eq_none (by rw [List.length_append]; exact after),
      List.getElem?_eq_none after.le]
    exact ⟨nofun, fun there => (after.ne' (there.resolve_left nofun).1).elim⟩

theorem Connects.lt (connects : Connects hs t l i) : i < hs.length := by
  obtain ⟨_, there, -⟩ := connects
  exact (List.getElem?_eq_some_iff.mp there).1

theorem Stands.lt (stands : Stands hs t l i) : i < hs.length := stands.connects.lt

theorem connects_concat :
    Connects (hs ++ [(roll, deed)]) t l i ↔
      Connects hs t l i ∨ i = hs.length ∧ l ∈ deed.joining roll (ofDeeds hs) t := by
  constructor
  · rintro ⟨_, there, accepted⟩
    rcases at_concat.mp there with there | ⟨rfl, same⟩
    · have before := (List.getElem?_eq_some_iff.mp there).1
      rw [List.take_append_of_le_length before.le] at accepted
      exact .inl ⟨_, there, accepted⟩
    · cases same
      rw [List.take_left'] at accepted
      · exact .inr ⟨rfl, mem_joining.mpr ⟨rfl, accepted⟩⟩
      · rfl
  · rintro (connects | ⟨rfl, joins⟩)
    · have before := connects.lt
      obtain ⟨_, there, accepted⟩ := connects
      refine ⟨_, at_concat.mpr (.inl there), ?_⟩
      rwa [List.take_append_of_le_length before.le]
    · obtain ⟨rfl, accepted⟩ := mem_joining.mp joins
      refine ⟨roll, at_concat.mpr (.inr ⟨rfl, rfl⟩), ?_⟩
      rwa [List.take_left' rfl]

theorem stands_concat :
    Stands (hs ++ [(roll, deed)]) t l i ↔
      Stands hs t l i ∧ deed.removes roll t l = false ∧ l ∉ deed.joining roll (ofDeeds hs) t ∨
        i = hs.length ∧ l ∈ deed.joining roll (ofDeeds hs) t := by
  constructor
  · intro stands
    rcases connects_concat.mp stands.connects with connects | last
    · refine .inl ⟨⟨connects, fun j later again => ?_, fun j _ _ later there => ?_⟩, ?_, fun joins => ?_⟩
      · exact stands.latest j later (connects_concat.mpr (.inl again))
      · exact stands.stays j _ _ later (at_concat.mpr (.inl there))
      · exact stands.stays _ roll deed connects.lt (at_concat.mpr (.inr ⟨rfl, rfl⟩))
      · exact stands.latest _ connects.lt (connects_concat.mpr (.inr ⟨rfl, joins⟩))
    · exact .inr last
  · rintro (⟨stands, stays, absent⟩ | ⟨rfl, joins⟩)
    · refine ⟨connects_concat.mpr (.inl stands.connects), fun j later again => ?_,
        fun j _ _ later there => ?_⟩
      · rcases connects_concat.mp again with again | ⟨-, joins⟩
        · exact stands.latest j later again
        · exact absent joins
      · rcases at_concat.mp there with there | ⟨-, same⟩
        · exact stands.stays j _ _ later there
        · cases same
          exact stays
    · refine ⟨connects_concat.mpr (.inr ⟨rfl, joins⟩), fun j later again => ?_,
        fun j _ _ later there => ?_⟩
      · rcases connects_concat.mp again with again | ⟨rfl, -⟩
        · exact later.not_gt again.lt
        · exact later.false
      · rcases at_concat.mp there with there | ⟨rfl, -⟩
        · exact (later.not_gt (List.getElem?_eq_some_iff.mp there).1).elim
        · exact later.false.elim

theorem known_concat :
    Known (hs ++ [(roll, deed)]) t ↔
      deed ≠ .clear ∧ Known hs t ∨ deed.joining roll (ofDeeds hs) t ≠ [] := by
  constructor
  · rintro ⟨i, l, connects, since⟩
    rcases connects_concat.mp connects with connects | ⟨-, joins⟩
    · refine .inl ⟨fun cleared => ?_, i, l, connects, fun j _ later there => ?_⟩
      · exact since _ roll connects.lt (at_concat.mpr (.inr ⟨rfl, cleared ▸ rfl⟩))
      · exact since j _ later (at_concat.mpr (.inl there))
    · exact .inr (List.ne_nil_of_mem joins)
  · rintro (⟨kept, i, l, connects, since⟩ | joins)
    · refine ⟨i, l, connects_concat.mpr (.inl connects), fun j _ later there => ?_⟩
      rcases at_concat.mp there with there | ⟨-, same⟩
      · exact since j _ later there
      · exact kept (congrArg Prod.snd same)
    · obtain ⟨l, joins⟩ := List.exists_mem_of_ne_nil _ joins
      refine ⟨hs.length, l, connects_concat.mpr (.inr ⟨rfl, joins⟩), fun j _ later there => ?_⟩
      rcases at_concat.mp there with there | ⟨rfl, -⟩
      · exact later.not_gt (List.getElem?_eq_some_iff.mp there).1
      · exact later.false

theorem records_empty : Records [] .empty where
  listed := fun t l => by
    constructor
    · intro inside
      cases inside
    · rintro ⟨i, stands⟩
      cases stands.lt
  ordered := fun _ => .nil
  known := fun t => by
    constructor
    · intro held
      cases held
    · rintro ⟨i, l, connects, -⟩
      cases connects.lt

/-- Those who stay on a list keep their order, and those who join come last. -/
theorem Records.ordered_perform (records : Records hs (ofDeeds hs)) (roll : Roll) (deed : Deed)
    (t : TypeId) :
    ((deed.perform roll (ofDeeds hs)).2.listed t).Pairwise fun k l => ∀ i j,
      Stands (hs ++ [(roll, deed)]) t k i → Stands (hs ++ [(roll, deed)]) t l j → i < j := by
  have old {k i} (inside : k ∈ (ofDeeds hs).listed t)
      (stands : Stands (hs ++ [(roll, deed)]) t k i) : Stands hs t k i := by
    rcases stands_concat.mp stands with ⟨stands, -⟩ | ⟨-, joins⟩
    · exact stands
    · exact (not_listed_of_joining joins inside).elim
  rw [listed_perform, List.pairwise_append]
  refine ⟨?_, ?_, fun k kept l joins i j first second => ?_⟩
  · refine ((records.ordered t).filter _).imp_of_mem fun kept kept' before i j first second => ?_
    exact before i j (old (List.mem_filter.mp kept).1 first) (old (List.mem_filter.mp kept').1 second)
  · cases deed with
    | connect =>
      simp only [Deed.joining]
      split
      · exact List.pairwise_singleton ..
      · exact .nil
    | _ => exact .nil
  · rcases stands_concat.mp second with ⟨-, -, absent⟩ | ⟨rfl, -⟩
    · exact (absent joins).elim
    · exact (old (List.mem_filter.mp kept).1 first).lt

/-- One deed more, and the registry still holds what the history says. -/
theorem Records.perform (records : Records hs (ofDeeds hs)) (roll : Roll) (deed : Deed) :
    Records (hs ++ [(roll, deed)]) (deed.perform roll (ofDeeds hs)).2 where
  listed := fun t l => by
    rw [listed_perform, List.mem_append, List.mem_filter, records.listed, Bool.not_eq_true']
    simp only [stands_concat, exists_or, exists_and_right, exists_eq, true_and]
    constructor
    · rintro (⟨stands, stays⟩ | joins)
      · refine .inl ⟨stands, stays, fun joins => ?_⟩
        exact not_listed_of_joining joins ((records.listed t l).mpr stands)
      · exact .inr joins
    · exact Or.imp_left fun ⟨stands, stays, _⟩ => ⟨stands, stays⟩
  ordered := records.ordered_perform roll deed
  known := fun t => by
    rw [known_concat, list?_perform, ← records.known]
    split
    · rename_i nobody
      rw [nobody]
      cases deed <;> simp [Deed.leaves]
    · rename_i somebody
      simp [somebody]

/-- A registry holds what its history says. -/
theorem records_ofDeeds (hs : List (Roll × Deed)) : Records hs (ofDeeds hs) := by
  induction hs using List.reverseRecOn with
  | nil => exact records_empty
  | append_singleton hs h records =>
    rw [ofDeeds_append]
    exact records.perform h.1 h.2

/-- Nobody is on a list twice. -/
theorem Records.nodup (records : Records hs r) (t : TypeId) : (r.listed t).Nodup := by
  refine (records.ordered t).imp_of_mem fun inside _ before same => ?_
  obtain ⟨i, stands⟩ := (records.listed t _).mp inside
  exact (before i i stands (same ▸ stands)).false

/-- What is refused changes nothing. -/
theorem perform_refused {e : RegistrationError} (refused : (deed.perform roll r).1 = some e) :
    (deed.perform roll r).2 = r := by
  cases deed with
  | connect l t =>
    simp only [Deed.perform, connectInPlace_eq] at refused ⊢
    cases connected : r.connect roll l t with
    | error e => rfl
    | ok after => simp [connected] at refused
  | disconnect l t =>
    simp only [Deed.perform] at refused ⊢
    cases disconnected : r.disconnect l t with
    | error e => rfl
    | ok after => simp [disconnected] at refused
  | _ => cases refused

theorem Records.answers (records : Records hs r) : Answers hs r where
  dead := fun roll l t => by
    rw [connect_eq]
    by_cases dead : roll.isAlive l = false
    · simp [dead]
    · by_cases inside : l ∈ r.listed t <;> simp [dead, inside]
  double := fun roll l t => by
    rw [connect_eq, ← records.listed]
    cases alive : roll.isAlive l with
    | false => simp
    | true => by_cases inside : l ∈ r.listed t <;> simp [inside]
  connects := fun roll l t => by
    rw [connect_eq, ← records.listed]
    cases alive : roll.isAlive l with
    | false => simp
    | true => by_cases inside : l ∈ r.listed t <;> simp [inside]
  unknown := fun l t => by
    rw [disconnect_eq (records.nodup t), ← records.known]
    by_cases known : (r.table.list? t).isSome = true
    · by_cases inside : l ∈ r.listed t <;> simp [known, inside]
    · simp [known]
  removes := fun l t => by
    rw [disconnect_eq (records.nodup t), ← records.listed]
    by_cases inside : l ∈ r.listed t
    · simp [list?_of_listed inside, inside]
    · by_cases known : (r.table.list? t).isSome = true <;> simp [known, inside]
  absent := fun l t => by
    rw [disconnect_eq (records.nodup t), ← records.known, ← records.listed]
    by_cases known : (r.table.list? t).isSome = true
    · by_cases inside : l ∈ r.listed t <;> simp [known, inside]
    · simp [known]
  performs := fun roll l t => connectInPlace_eq roll l t r

/-- A registry follows its history, whoever dies in the course of it. It holds who was connected
last and not taken off since, in the order of the connects and nobody twice; its answers say who
is connected and which categories are known; and what it refuses leaves all of it unchanged. -/
theorem lists_follow_history (hs : List (Roll × Deed)) :
    Records hs (ofDeeds hs) ∧ (∀ t, ((ofDeeds hs).listed t).Nodup) ∧ Answers hs (ofDeeds hs) ∧
      ∀ roll deed e, (Deed.perform roll (ofDeeds hs) deed).1 = some e →
        (Deed.perform roll (ofDeeds hs) deed).2 = ofDeeds hs :=
  have records := records_ofDeeds hs
  ⟨records, records.nodup, records.answers, fun _ _ _ => perform_refused⟩

end Registry
end EventEngine
