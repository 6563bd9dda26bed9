import EventEngine.Proofs.Queue.Order
import EventEngine.Proofs.Registry.Totals
import Mathlib

/-! Counts and lengths as 64-bit words. A sum that is no word, a difference below zero and a place
beyond the end of a list are faults. The operations on a byte string, on a queue and on a registry
are written here as they are computed with words, difference by difference and place by place; where
what there is fits in a word, they have no fault and give what they give of numbers without bound. -/
namespace EventEngine

/-- Why a computation with words gives nothing. -/
inductive Fault
  | overflow
  | underflow
  | outOfRange
  deriving DecidableEq, Repr

abbrev Checked := Except Fault

namespace Checked

variable {α : Type}

def add (a b : Nat) : Checked Nat := if a + b < UInt64.size then .ok (a + b) else .error .overflow

/-- Adds a count if there is anything to count. -/
def addAny (a b : Nat) : Checked Nat := if 0 < b then add a b else pure a

def addOneIf (b : Bool) (a : Nat) : Checked Nat := if b then add a 1 else pure a

def sub (a b : Nat) : Checked Nat := if b ≤ a then .ok (a - b) else .error .underflow

def sum (ns : List Nat) : Checked Nat := ns.foldlM add 0

/-- What stands at a place, and the list without it. -/
def remove (xs : List α) (i : Nat) : Checked (α × List α) :=
  match xs[i]? with
  | some a => .ok (a, xs.eraseIdx i)
  | none => .error .outOfRange

@[simp] theorem ok_bind {β : Type} (a : α) (f : α → Checked β) : (Except.ok a >>= f) = f a := rfl

@[simp] theorem pure_eq_ok (a : α) : (pure a : Checked α) = .ok a := rfl

theorem add_eq {a b : Nat} (fits : a + b < UInt64.size) : add a b = .ok (a + b) := if_pos fits

theorem sub_eq {a b : Nat} (held : b ≤ a) : sub a b = .ok (a - b) := if_pos held

theorem addAny_eq {a b : Nat} (fits : a + b < UInt64.size) : addAny a b = .ok (a + b) := by
  rcases Nat.eq_zero_or_pos b with rfl | some
  · rfl
  · rw [addAny, if_pos some, add_eq fits]

theorem addOneIf_eq {a : Nat} {b : Bool} (fits : a + b.toNat < UInt64.size) :
    addOneIf b a = .ok (a + b.toNat) := by
  cases b with
  | false => rfl
  | true => exact add_eq fits

theorem foldlM_add {ns : List Nat} {n : Nat} (fits : n + ns.sum < UInt64.size) :
    ns.foldlM add n = .ok (n + ns.sum) := by
  induction ns generalizing n with
  | nil => rfl
  | cons k ns ih =>
    rw [List.sum_cons, ← Nat.add_assoc] at fits ⊢
    rw [List.foldlM_cons, add_eq (Nat.lt_of_le_of_lt (Nat.le_add_right ..) fits), ok_bind, ih fits]

/-- Numbers whose sum is a word can be added one by one. -/
theorem sum_eq {ns : List Nat} (fits : ns.sum < UInt64.size) : sum ns = .ok ns.sum := by
  rw [sum, foldlM_add (by rwa [Nat.zero_add]), Nat.zero_add]

/-- A place that was found is there to be removed. -/
theorem remove_found {xs : List α} {p : α → Bool} {i : Nat} (found : xs.findIdx? p = some i) :
    ∃ a, xs.find? p = some a ∧ remove xs i = .ok (a, xs.eraseP p) := by
  have erased : xs.eraseP p = xs.eraseIdx i := by
    rw [List.eraseP_eq_eraseIdx, found]
  obtain ⟨inside, holds, first⟩ := List.findIdx?_eq_some_iff_getElem.mp found
  have earliest : ∀ j (early : j < i), (!p xs[j]) = true :=
    fun j early => Bool.not_eq_true' _ ▸ Bool.eq_false_iff.mpr (first j early)
  refine ⟨xs[i], List.find?_eq_some_iff_getElem.mpr ⟨holds, i, inside, rfl, earliest⟩, ?_⟩
  rw [remove, List.getElem?_eq_getElem inside, erased]

/-- Where no place is found there is nothing to take out. -/
theorem eraseP_missing {xs : List α} {p : α → Bool} (missing : xs.findIdx? p = none) :
    xs.eraseP p = xs :=
  List.eraseP_of_forall_not fun a inside =>
    Bool.eq_false_iff.mp (List.findIdx?_eq_none_iff.mp missing a inside)

end Checked

/-! ### Byte strings -/

namespace Hash

/-- The bytes from a place on are mixed in, each read at its place. -/
def checkedMix (bytes : List UInt8) (i : Nat) (hash : UInt32) : Checked UInt32 :=
  if i < bytes.length then
    match bytes[i]? with
    | some byte => do
      let _ ← Checked.add i 1
      checkedMix bytes (i + 1) (mix hash byte)
    | none => .error .outOfRange
  else .ok hash
termination_by bytes.length - i

def checkedOneAtATime (bytes : List UInt8) (mask : UInt32) : Checked UInt32 := do
  let hash ← checkedMix bytes 0 0
  pure (finish hash &&& mask)

theorem checkedMix_eq {bytes : List UInt8} (fits : bytes.length < UInt64.size) (i : Nat)
    (hash : UInt32) : checkedMix bytes i hash = .ok ((bytes.drop i).foldl mix hash) := by
  induction i, hash using checkedMix.induct bytes with
  | case1 i hash inside byte found ih =>
    obtain ⟨_, same⟩ := List.getElem?_eq_some_iff.mp found
    have next : i + 1 < UInt64.size := Nat.lt_of_le_of_lt inside fits
    rw [checkedMix, if_pos inside, found, List.drop_eq_getElem_cons inside, same, List.foldl_cons]
    simp only [Checked.add_eq next, Checked.ok_bind, ih]
  | case2 i hash inside missing =>
    rw [List.getElem?_eq_getElem inside] at missing
    cases missing
  | case3 i hash beyond =>
    rw [checkedMix, if_neg beyond, List.drop_eq_nil_of_le (Nat.le_of_not_lt beyond)]
    rfl

theorem checkedOneAtATime_eq {bytes : List UInt8} (fits : bytes.length < UInt64.size)
    (mask : UInt32) : checkedOneAtATime bytes mask = .ok (oneAtATime bytes mask) := by
  rw [checkedOneAtATime, checkedMix_eq fits, List.drop_zero]
  rfl

end Hash

/-! ### Queues -/

namespace Queue

def checkedLength (q : Queue) : Checked Nat := Checked.add q.active.length q.pending.size

/-- The first pending occurrence of an event is taken out at its place. -/
def checkedCancel (e : EventRef) (q : Queue) : Checked (Bool × Queue) :=
  match q.pending.toList.findIdx? (·.same e) with
  | some i => do
    let (_, pending) ← Checked.remove q.pending.toList i
    pure (true, { q with pending := pending.toArray })
  | none => pure (false, q)

def checkedCancelType (t : TypeId) (q : Queue) : Checked (Nat × Queue) := do
  let kept := q.pending.filter (·.typeId != t)
  let removed ← Checked.sub q.pending.size kept.size
  pure (removed, { q with pending := kept })

def checkedDequeue (e : EventRef) (all : Bool) (q : Queue) : Checked (Nat × Queue) :=
  if all then q.checkedCancelType e.typeId
  else do
    let (found, q) ← q.checkedCancel e
    pure (found.toNat, q)

def checkedClear (q : Queue) : Checked (Nat × Queue) := do
  let dropped ← q.checkedLength
  pure (dropped, q.clear)

theorem checkedCancel_eq (e : EventRef) (q : Queue) : q.checkedCancel e = .ok (q.cancel e) := by
  obtain ⟨active, ⟨pending⟩, draining⟩ := q
  simp only [checkedCancel, cancel, List.any_toArray, List.eraseP_toArray]
  cases found : pending.findIdx? (·.same e) with
  | some i =>
    obtain ⟨a, first, removed⟩ := Checked.remove_found found
    have same := List.find?_some first
    have any : pending.any (·.same e) = true :=
      List.any_eq_true.mpr ⟨a, List.mem_of_find?_eq_some first, same⟩
    simp only [removed, any, Checked.ok_bind, Checked.pure_eq_ok]
  | none =>
    have none := List.findIdx?_eq_none_iff.mp found
    have any : pending.any (·.same e) = false :=
      List.any_eq_false.mpr fun a inside => Bool.eq_false_iff.mp (none a inside)
    simp only [Checked.eraseP_missing found, any, Checked.pure_eq_ok]

theorem checkedCancelType_eq (t : TypeId) (q : Queue) :
    q.checkedCancelType t = .ok (q.cancelType t) := by
  rw [checkedCancelType, Checked.sub_eq Array.size_filter_le]
  rfl

theorem checkedDequeue_eq (e : EventRef) (all : Bool) (q : Queue) :
    q.checkedDequeue e all = .ok (q.dequeue e all) := by
  cases all with
  | true => exact checkedCancelType_eq e.typeId q
  | false =>
    simp only [checkedDequeue, checkedCancel_eq]
    rfl

theorem checkedLength_eq {q : Queue} (fits : q.length < UInt64.size) :
    q.checkedLength = .ok q.length :=
  Checked.add_eq fits

theorem checkedClear_eq {q : Queue} (fits : q.length < UInt64.size) :
    q.checkedClear = .ok (q.length, q.clear) := by
  rw [checkedClear, checkedLength_eq fits]
  rfl

/-- No operation on a queue that counts has a fault. -/
structure Faultless (q : Queue) : Prop where
  length : q.checkedLength = .ok q.length
  cancel : ∀ e, q.checkedCancel e = .ok (q.cancel e)
  cancelType : ∀ t, q.checkedCancelType t = .ok (q.cancelType t)
  clear : q.checkedClear = .ok (q.length, q.clear)

theorem faultless {q : Queue} (fits : q.length < UInt64.size) : q.Faultless where
  length := checkedLength_eq fits
  cancel e := checkedCancel_eq e q
  cancelType t := checkedCancelType_eq t q
  clear := checkedClear_eq fits

end Queue

/-! ### Registries -/

namespace Table

/-- The lists of all categories. -/
def lists (table : Table) : List (List ListenerId) := table.entries.map (·.2)

theorem total_eq_sum (table : Table) : table.total = (table.lists.map List.length).sum := by
  rw [total, lists, List.length_flatMap, List.map_map]
  rfl

end Table

namespace Registry

variable {roll : Roll} {r : Registry}

def checkedTotal (r : Registry) : Checked Nat := Checked.sum (r.table.lists.map List.length)

/-- Takes a listener off the list of a category; how many places it held is what the list is
shorter by. -/
def checkedDisconnect (l : ListenerId) (t : TypeId) (r : Registry) :
    Checked (Except RegistrationError (Nat × Registry)) :=
  match r.table.list? t with
  | none => pure (.error (.unknownEventType t))
  | some list => do
    let kept := list.filter (· != l)
    let removed ← Checked.sub list.length kept.length
    let r := { r with table := r.table.set t kept }
    pure (.ok (removed, if 0 < removed then r.mapFrames t (Frame.markRemoved l) else r))

/-- How many listeners are gone from lists, counted list by list. -/
def checkedGone (roll : Roll) : List (List ListenerId) → Nat → Checked Nat
  | [], removed => pure removed
  | list :: lists, removed => do
    let gone ← Checked.sub list.length (list.filter roll.isAlive).length
    let removed ← Checked.add removed gone
    checkedGone roll lists removed

def checkedPruneAll (roll : Roll) (r : Registry) : Checked (Nat × Registry) := do
  let removed ← checkedGone roll r.table.lists 0
  pure (removed, { r with table := r.table.map (·.filter roll.isAlive) })

/-- The newest frame of a number is taken out at its place. -/
def checkedEndDispatch (id : UInt64) (r : Registry) : Checked (Bool × Registry) :=
  match r.frames.findIdx? (·.id == id) with
  | some i => do
    let (frame, frames) ← Checked.remove r.frames i
    pure (frame.mutated, { r with frames })
  | none => pure (false, r)

/-- The lists can be counted in any order. -/
theorem sum_lengths_eq {lists : List (List ListenerId)}
    (same : lists.Perm r.table.lists) (fits : r.table.total < UInt64.size) :
    Checked.sum (lists.map List.length) = .ok r.table.total := by
  have total : (lists.map List.length).sum = r.table.total :=
    (same.map List.length).sum_nat.trans r.table.total_eq_sum.symm
  rw [← total] at fits ⊢
  exact Checked.sum_eq fits

theorem checkedTotal_eq (fits : r.table.total < UInt64.size) : r.checkedTotal = .ok r.table.total :=
  sum_lengths_eq (List.Perm.refl _) fits

/-- What is left of a list and what is taken out make up the list. -/
theorem length_filter_add_countP (p : ListenerId → Bool) (list : List ListenerId) :
    (list.filter p).length + list.countP (!p ·) = list.length := by
  have parts := List.length_eq_countP_add_countP p (l := list)
  simp only [Bool.not_eq_true, Bool.decide_eq_false] at parts
  rw [← List.countP_eq_length_filter, parts]

theorem checkedDisconnect_eq (l : ListenerId) (t : TypeId) (r : Registry) :
    r.checkedDisconnect l t = .ok (r.disconnect l t) := by
  unfold checkedDisconnect disconnect
  cases held : r.table.list? t with
  | none => rfl
  | some list =>
    have parts := length_filter_add_countP (· != l) list
    have shorter : list.length - (list.filter (· != l)).length = list.count l := by
      simp only [bne, Bool.not_not] at parts ⊢
      exact Nat.sub_eq_of_eq_add ((Nat.add_comm ..).trans parts).symm
    simp only [Checked.sub_eq (List.length_filter_le ..), Checked.ok_bind, Checked.pure_eq_ok,
      shorter]
    by_cases absent : list.count l = 0
    · have kept : list.filter (· != l) = list :=
        List.filter_eq_self.mpr fun other inside =>
          bne_iff_ne.mpr fun same => List.count_eq_zero.mp absent (same ▸ inside)
      simp only [absent, kept, Table.set_of_list? held, Nat.lt_irrefl, if_true, if_false]
    · simp only [absent, Nat.pos_of_ne_zero absent, if_true, if_false]

theorem checkedGone_eq {lists : List (List ListenerId)} {n : Nat}
    (fits : n + (lists.map List.length).sum < UInt64.size) :
    checkedGone roll lists n = .ok (n + (lists.map (·.countP (!roll.isAlive ·))).sum) := by
  induction lists generalizing n with
  | nil => rfl
  | cons list lists ih =>
    simp only [List.map_cons, List.sum_cons] at fits ⊢
    have parts := length_filter_add_countP roll.isAlive list
    have gone : list.length - (list.filter roll.isAlive).length = list.countP (!roll.isAlive ·) := by
      omega
    have first : n + list.countP (!roll.isAlive ·) < UInt64.size := by omega
    rw [checkedGone, Checked.sub_eq (List.length_filter_le ..), Checked.ok_bind, gone,
      Checked.add_eq first, Checked.ok_bind, ih (by omega), Nat.add_assoc]

theorem sum_lengths_filter (p : ListenerId → Bool) (lists : List (List ListenerId)) :
    (lists.map List.length).sum =
      (lists.map fun list => (list.filter p).length).sum + (lists.map (·.countP (!p ·))).sum := by
  induction lists with
  | nil => rfl
  | cons list lists ih =>
    have parts := length_filter_add_countP p list
    simp only [List.map_cons, List.sum_cons] at ih ⊢
    omega

/-- However the lists are visited, as many listeners are gone as a prune takes off. -/
theorem checkedGone_pruneAll {lists : List (List ListenerId)}
    (same : lists.Perm r.table.lists) (fits : r.table.total < UInt64.size) :
    checkedGone roll lists 0 = .ok (r.pruneAll roll).1 := by
  have total : (lists.map List.length).sum = r.table.total :=
    (same.map List.length).sum_nat.trans r.table.total_eq_sum.symm
  have left : (lists.map fun list => (list.filter roll.isAlive).length).sum =
      (r.table.map (·.filter roll.isAlive)).total := by
    rw [(same.map _).sum_nat, Table.total_eq_sum, Table.lists, Table.lists, Table.map]
    simp only [List.map_map]
    rfl
  have removed : r.table.total - (r.table.map (·.filter roll.isAlive)).total =
      (lists.map (·.countP (!roll.isAlive ·))).sum := by
    rw [← left, ← total, sum_lengths_filter roll.isAlive, Nat.add_sub_cancel_left]
  rw [checkedGone_eq (by rwa [Nat.zero_add, total]), Nat.zero_add, ← removed]
  rfl

theorem checkedPruneAll_eq (fits : r.table.total < UInt64.size) :
    r.checkedPruneAll roll = .ok (r.pruneAll roll) := by
  rw [checkedPruneAll, checkedGone_pruneAll (List.Perm.refl _) fits]
  rfl

theorem checkedEndDispatch_eq (id : UInt64) (r : Registry) :
    r.checkedEndDispatch id = .ok (r.endDispatch id) := by
  simp only [checkedEndDispatch, endDispatch, frame?]
  cases found : r.frames.findIdx? (·.id == id) with
  | some i =>
    obtain ⟨f, first, removed⟩ := Checked.remove_found found
    simp only [removed, first, Checked.ok_bind, Checked.pure_eq_ok, Option.map_some,
      Option.getD_some]
  | none =>
    have none := List.findIdx?_eq_none_iff.mp found
    have missing : r.frames.find? (·.id == id) = Option.none :=
      List.find?_eq_none.mpr fun f inside => Bool.eq_false_iff.mp (none f inside)
    simp only [Checked.eraseP_missing found, missing, Checked.pure_eq_ok, Option.map_none,
      Option.getD_none]

/-- No operation on a registry that counts or takes out has a fault, in whatever order the lists
are visited. -/
structure Faultless (roll : Roll) (r : Registry) : Prop where
  total : ∀ lists : List (List ListenerId), lists.Perm r.table.lists →
    Checked.sum (lists.map List.length) = .ok r.table.total
  disconnect : ∀ l t, r.checkedDisconnect l t = .ok (r.disconnect l t)
  gone : ∀ lists : List (List ListenerId), lists.Perm r.table.lists →
    checkedGone roll lists 0 = .ok (r.pruneAll roll).1
  pruneAll : r.checkedPruneAll roll = .ok (r.pruneAll roll)
  endDispatch : ∀ frame, r.checkedEndDispatch frame = .ok (r.endDispatch frame)

theorem faultless (fits : r.table.total < UInt64.size) : r.Faultless roll where
  total _ same := sum_lengths_eq same fits
  disconnect l t := checkedDisconnect_eq l t r
  gone _ same := checkedGone_pruneAll same fits
  pruneAll := checkedPruneAll_eq fits
  endDispatch frame := checkedEndDispatch_eq frame r

end Registry

end EventEngine
