import EventEngine.Event.Decoding
import EventEngine.Proofs.Json.Records
import EventEngine.Proofs.Number.Exact

/-! The domains of an event's values. However an event comes about, its priority is at most the
highest. An event that is built has its axis position between −1 and 1, unless that is no number; one
that is read from a document has whatever position the document says. -/
namespace EventEngine

open Number (Single single signed)

/-! ### Axis positions -/

namespace Number

/-- The bits behind the sign. -/
def Single.magnitude (x : Single) : UInt32 := x.bits &&& 0x7fffffff

/-- No number, or one between −1 and 1, as told by the bits. -/
def Single.IsPosition (x : Single) : Prop := x.magnitude ≤ 0x3f800000 ∨ 0x7f800000 < x.magnitude

instance (x : Single) : Decidable x.IsPosition :=
  inferInstanceAs (Decidable (x.magnitude ≤ 0x3f800000 ∨ 0x7f800000 < x.magnitude))

theorem Single.toNat_magnitude (x : Single) : x.magnitude.toNat = x.bits.toNat % twoTo single.signBit :=
  (UInt32.toNat_and ..).trans (Nat.and_two_pow_sub_one_eq_mod _ 31)

theorem Single.isPosition_iff (x : Single) :
    x.IsPosition ↔ x.value = .nan ∨
      x.value.lt minusOne.value = false ∧ one.value.lt x.value = false := by
  have infinity : single.infinity = 0x7f800000 := by decide
  have code := x.toNat_magnitude
  rw [IsPosition, UInt32.le_iff_toNat_le, UInt32.lt_iff_toNat_lt, code]
  cases value : x.value with
  | nan =>
    have above := Format.lt_of_decode_nan value
    rw [infinity] at above
    exact ⟨fun _ => .inl rfl, fun _ => .inr above⟩
  | infinite negative =>
    rw [Format.eq_of_decode_infinite value, infinity]
    cases negative <;> decide
  | finite negative m e =>
    obtain ⟨canonical, below, -, same⟩ := Format.decode_eq_finite_iff.mp value
    have unit : single.Canonical (2 ^ 23) (-23) := ⟨by decide, by decide, by decide⟩
    have ordered := canonical.magnitude_le_iff unit below
    have greatest : one.value = .finite false (2 ^ 23) (-23) := by decide
    have least : minusOne.value = .finite true (2 ^ 23) (-23) := by decide
    have one' : signed false (2 ^ 23) (-23) = 1 := by norm_num [signed]
    have minusOne' : signed true (2 ^ 23) (-23) = -1 := by norm_num [signed]
    have oneBits : single.magnitude (2 ^ 23) (-23) = 0x3f800000 := by decide
    rw [greatest, least, ← Bool.not_eq_true, ← Bool.not_eq_true, Value.lt_finite_iff,
      Value.lt_finite_iff, one', minusOne', signed_within_iff, same]
    have top : ((2 ^ 23 : Nat) : ℚ) * 2 ^ (-23 : Int) = 1 := by norm_num
    rw [oneBits, top] at ordered
    rw [infinity] at below
    constructor
    · rintro (small | large)
      · exact .inr (ordered.mp small)
      · exact absurd (below.trans large) (Nat.lt_irrefl _)
    · rintro (nan | small)
      · cases nan
      · exact .inl (ordered.mpr small)

theorem Single.isPosition_clampUnit (x : Single) : x.clampUnit.IsPosition := by
  unfold clampUnit
  split
  · decide
  · rename_i notBelow
    split
    · decide
    · rename_i notAbove
      rw [isPosition_iff]
      exact .inr ⟨eq_false_of_ne_true notBelow, eq_false_of_ne_true notAbove⟩

end Number

/-! ### Where events come from -/

/-- Whether an event was made in the program or read from a document. -/
inductive Source
  | built
  | stored (document : Json)

namespace EngineEvent

/-- An event that is made by a constructor or read from a document, and by giving such events other
priorities and due times. -/
inductive ComesFrom : Source → EngineEvent → Prop
  | quit (exitCode : Int32) : ComesFrom .built (.quit exitCode)
  | update (tick : UInt64) (delta : Duration) : ComesFrom .built (.update tick delta)
  | render (frame : UInt64) : ComesFrom .built (.render frame)
  | input (device : Device) (code : UInt32) (value : Single) :
    ComesFrom .built (.input device code value)
  | keyboard (key : UInt32) (action : KeyAction) : ComesFrom .built (.keyboard key action)
  | joystickAxis (joystick axis : UInt8) (value : Single) :
    ComesFrom .built (.joystickAxis joystick axis value)
  | sensor (kind : SensorKind) (x y z : Single) : ComesFrom .built (.sensor kind x y z)
  | decoded {kind : Kind} {document : Json} {e : EngineEvent} (read : decode kind document = .ok e) :
    ComesFrom (.stored document) e
  | withPriority {source : Source} {e : EngineEvent} (path : ComesFrom source e) (rank : UInt8) :
    ComesFrom source (e.withPriority (.ofNat rank.toNat))
  | scheduledAt {source : Source} {e : EngineEvent} (path : ComesFrom source e) (due : Timestamp) :
    ComesFrom source (e.scheduledAt due)

/-! ### Reading from documents -/

variable {kind : Kind} {document : Json} {e : EngineEvent}

theorem decodeWith_eq_ok {reports : List Json.SlotReport} {payload : Except DecodeError Payload}
    (read : decodeWith kind document reports payload = .ok e) :
    payload = .ok e.payload ∧
    ∃ content, document.field? reports.length "priority" = some content ∧
      Priority.decode content = .ok e.priority := by
  have built := Json.decodeRecord_eq_ok read
  cases payload with
  | error fault => cases built
  | ok payload =>
    simp only [bind, Except.bind] at built
    split at built
    · cases built
    · rename_i priority found
      split at built
      · cases built
      · cases built
        exact ⟨rfl, Json.get_slot_eq_ok found⟩

theorem decode_kind (read : decode kind document = .ok e) : e.payload.kind = kind := by
  obtain ⟨payload, priority, due⟩ := e
  cases kind
  all_goals
    have built := (decodeWith_eq_ok read).1
    simp only [bind, Except.bind, Except.map] at built
    repeat' split at built
    all_goals cases built
    all_goals rfl

theorem decode_priority (read : decode kind document = .ok e) :
    ∃ content, document.field? (kind.fields.length - 2) "priority" = some content ∧
      Priority.decode content = .ok e.priority := by
  cases kind <;> exact (decodeWith_eq_ok read).2

theorem decode_axis {joystick axis : UInt8} {value : Single} (read : decode kind document = .ok e)
    (position : e.payload = .joystickAxis joystick axis value) :
    ∃ content, document.field? 2 "value" = some content ∧ content.decodeSingle = .ok value := by
  obtain rfl : Kind.joystickAxis = kind := by
    rw [← decode_kind read, position]
    rfl
  have built := (decodeWith_eq_ok read).1
  simp only [bind, Except.bind] at built
  split at built
  · cases built
  · split at built
    · cases built
    · split at built
      · cases built
      · rename_i found
        cases built.trans (congrArg _ position)
        exact Json.get_slot_eq_ok found

end EngineEvent

theorem Json.decodeUInt8_eq_ok {content : Json} {n : UInt8} (read : content.decodeUInt8 = .ok n) :
    content = .int n.toNat := by
  cases content with
  | int k =>
    simp only [decodeUInt8, decodeInt] at read
    split at read
    · rename_i within
      have few : k.toNat < UInt8.size := by
        have limit : UInt8.size = 256 := rfl
        omega
      cases read
      rw [UInt8.toNat_ofNat_of_lt' few, Int.toNat_of_nonneg within.1]
    · cases read
  | _ => cases read

theorem Priority.decode_eq_ok {content : Json} {p : Priority}
    (read : Priority.decode content = .ok p) :
    ∃ n : UInt8, content = .int n.toNat ∧ p = .ofNat n.toNat := by
  cases number : content.decodeUInt8 with
  | ok n =>
    rw [decode, number] at read
    cases read
    exact ⟨n, Json.decodeUInt8_eq_ok number, rfl⟩
  | error fault =>
    rw [decode, number] at read
    cases read

namespace EngineEvent

/-- Where an axis may stand, after where its event comes from. -/
def MayStandAt : Source → Single → Prop
  | .built, value => value.IsPosition
  | .stored document, value =>
    ∃ content, document.field? 2 "value" = some content ∧ content.decodeSingle = .ok value

theorem ComesFrom.axis {source : Source} (path : ComesFrom source e) {joystick axis : UInt8}
    {value : Single} (position : e.payload = .joystickAxis joystick axis value) :
    MayStandAt source value := by
  induction path with
  | joystickAxis joystick axis value =>
    cases position
    exact Single.isPosition_clampUnit value
  | decoded read => exact decode_axis read position
  | withPriority _ _ ih => exact ih position
  | scheduledAt _ _ ih => exact ih position
  | quit | update | render | input | keyboard | sensor => cases position

/-- However an event comes about, its priority is within bounds; the rank in a document is brought
there. The axis position of an event that was built is within bounds as well, that of an event that
was read is what its document says. -/
theorem values_keep_domains_unless_read {source : Source} {e : EngineEvent}
    (path : ComesFrom source e) :
    e.priority.rank ≤ 10 ∧
    (∀ kind document, decode kind document = .ok e →
      ∃ n : UInt8, document.field? (kind.fields.length - 2) "priority" = some (.int n.toNat) ∧
        e.priority.rank = min n.toNat 10) ∧
    ∀ joystick axis value, e.payload = .joystickAxis joystick axis value →
      MayStandAt source value := by
  refine ⟨e.priority.rank_le, ?_, fun _ _ _ position => path.axis position⟩
  intro kind document read
  obtain ⟨content, here, rank⟩ := decode_priority read
  obtain ⟨n, rfl, bounded⟩ := Priority.decode_eq_ok rank
  exact ⟨n, here, congrArg Priority.rank bounded⟩

/-- An axis that is moved to 3.5, at rank 200. -/
def pushedAxis : EngineEvent :=
  ((joystickAxis 3 1 ⟨0x40600000⟩).withPriority (.ofNat 200)).scheduledAt ⟨.longest⟩

theorem pushed_axis_keeps_domains :
    ComesFrom .built pushedAxis ∧ pushedAxis.priority.rank ≤ 10 ∧
      pushedAxis.payload = .joystickAxis 3 1 .one ∧ Single.one.IsPosition := by
  have path : ComesFrom .built pushedAxis :=
    .scheduledAt (.withPriority (.joystickAxis 3 1 ⟨0x40600000⟩) 200) ⟨.longest⟩
  have position : pushedAxis.payload = .joystickAxis 3 1 .one := by decide
  obtain ⟨bounded, -, admitted⟩ := values_keep_domains_unless_read path
  exact ⟨path, bounded, position, admitted 3 1 .one position⟩

/-! ### Positions that are read -/

/-- A document of an axis that stands at 3.5. -/
def strayAxis : Json := .ofMembers
  [("joystick", .int 0), ("axis", .int 1), ("value", .float ⟨0x400c000000000000⟩),
    ("priority", .int 5), ("timestamp", Timestamp.now.encode)]

theorem stray_axis_leaves_domain :
    ComesFrom (.stored strayAxis) ⟨.joystickAxis 0 1 ⟨0x40600000⟩, .medium, .now⟩ ∧
      ¬ Single.IsPosition ⟨0x40600000⟩ := by
  have read : decode .joystickAxis strayAxis =
      .ok ⟨.joystickAxis 0 1 ⟨0x40600000⟩, .medium, .now⟩ := by
    rfl
  exact ⟨.decoded read, by decide⟩

end EngineEvent
end EventEngine
