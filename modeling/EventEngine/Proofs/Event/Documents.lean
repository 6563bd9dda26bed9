import EventEngine.Event.Decoding
import EventEngine.Proofs.Json.Records
import EventEngine.Proofs.Number.Exact

/-! The stored form of an event and the way back. Each kind of field is read as it was stored, floats
with the same bits; so a document that holds an event's fields, by name or by place and with whatever
other members, is read as that event. -/
namespace EventEngine

open Json (Holds)
open Number (Single)

/-! ### Numbers -/

namespace Json

theorem decodeInt_ok {least greatest n : Int} (expected : String) (above : least ≤ n)
    (below : n ≤ greatest) : decodeInt least greatest expected (.int n) = .ok n :=
  if_pos ⟨above, below⟩

theorem decodeUInt8_ok (n : UInt8) : decodeUInt8 (.int n.toNat) = .ok n := by
  have below := n.toNat_lt
  rw [decodeUInt8, decodeInt_ok _ (by omega) (by omega), Except.map, Int.toNat_natCast,
    UInt8.ofNat_toNat]

theorem decodeUInt32_ok (n : UInt32) : decodeUInt32 (.int n.toNat) = .ok n := by
  have below := n.toNat_lt
  rw [decodeUInt32, decodeInt_ok _ (by omega) (by omega), Except.map, Int.toNat_natCast,
    UInt32.ofNat_toNat]

theorem decodeUInt64_ok (n : UInt64) : decodeUInt64 (.int n.toNat) = .ok n := by
  have below := n.toNat_lt
  rw [decodeUInt64, decodeInt_ok _ (by omega) (by omega), Except.map, Int.toNat_natCast,
    UInt64.ofNat_toNat]

theorem decodeInt32_ok (n : Int32) : decodeInt32 (.int n.toInt) = .ok n := by
  have above := n.le_toInt
  have below := n.toInt_lt
  rw [decodeInt32, decodeInt_ok _ (by omega) (by omega), Except.map, Int32.ofInt_toInt]

theorem decodeSingle_ok {x : Single} (finite : x.isFinite) : (encodeSingle x).decodeSingle = .ok x := by
  rw [encodeSingle, if_pos finite, decodeSingle, Single.toSingle_toDouble finite]

end Json

/-! ### Fields -/

theorem Priority.decode_encode (p : Priority) : Priority.decode p.encode = .ok p := by
  have few : p.rank < UInt8.size := p.rank_le.trans_lt (by decide)
  have read := Json.decodeUInt8_ok (UInt8.ofNat p.rank)
  rw [UInt8.toNat_ofNat_of_lt' few] at read
  rw [decode, encode, read, Except.map, UInt8.toNat_ofNat_of_lt' few, ofNat_rank]

theorem Duration.encode_eq (d : Duration) :
    d.encode = .object [("nanos", .int d.nanos), ("secs", .int d.secs.toNat)] := by
  have before : "nanos" < "secs" := by decide
  simp only [encode, Json.ofMembers, List.foldl_cons, List.foldl_nil, Json.insertMember, if_pos before]

theorem Duration.ofParts?_parts (d : Duration) : ofParts? d.secs.toNat d.nanos = some d := by
  have small := Nat.div_eq_of_lt d.nanos_lt
  have fits := d.secs.toNat_lt_size
  simp only [ofParts?, small, Nat.add_zero, if_pos fits, UInt64.ofNat_toNat,
    Nat.mod_eq_of_lt d.nanos_lt]

theorem Duration.decode_encode (d : Duration) : Duration.decode d.encode = .ok d := by
  have few : d.nanos < UInt32.size := d.nanos_lt.trans (by decide)
  have nanos := Json.decodeUInt32_ok (UInt32.ofNat d.nanos)
  rw [UInt32.toNat_ofNat_of_lt' few] at nanos
  have holds : d.encode.Holds [("secs", .int d.secs.toNat), ("nanos", .int d.nanos)] := by
    rw [encode_eq]
    apply Holds.named
    simp only [List.mem_cons, Prod.mk.injEq, List.not_mem_nil, or_false]
    rintro _ _ (⟨rfl, rfl⟩ | ⟨rfl, rfl⟩)
    · simp [Json.get?]
    · simp [Json.get?]
  have first := holds.slot 0 rfl (Json.decodeUInt64_ok d.secs)
  have second := holds.slot 1 rfl nanos
  simp only [Duration.decode, first, second, Json.Slot.get, bind, Except.bind,
    UInt32.toNat_ofNat_of_lt' few, ofParts?_parts]
  refine holds.decodeRecord ?_ ?_ rfl
  · intro _ members same
    rw [encode_eq, Json.object.injEq] at same
    subst same
    simp [Json.Slot.report]
  · simp [Json.SlotReport.Clean, Json.Slot.report]

theorem Timestamp.decode_encode (t : Timestamp) : Timestamp.decode t.encode = .ok t := by
  rw [Timestamp.decode, Timestamp.encode, Duration.decode_encode]
  rfl

theorem Device.decode_encode (device : Device) : Device.decode device.encode = .ok device := by
  cases device with
  | joystick number =>
    show (Json.decodeUInt8 _).map _ = _
    rw [Json.decodeUInt8_ok]
    rfl
  | keyboard | mouse | touch | sensor => rfl

theorem KeyAction.decode_encode (action : KeyAction) : KeyAction.decode action.encode = .ok action := by
  cases action <;> rfl

theorem SensorKind.decode_encode (kind : SensorKind) : SensorKind.decode kind.encode = .ok kind := by
  cases kind <;> rfl

theorem decodeAxes_ok {x y z : Single} (finiteX : x.isFinite) (finiteY : y.isFinite)
    (finiteZ : z.isFinite) :
    decodeAxes (.array [encodeSingle x, encodeSingle y, encodeSingle z]) = .ok (x, y, z) := by
  simp only [decodeAxes, Json.decodeSingle_ok finiteX, Json.decodeSingle_ok finiteY,
    Json.decodeSingle_ok finiteZ]
  rfl

/-! ### Events -/

/-- The floats of a payload. -/
def Payload.floats : Payload → List Single
  | input _ _ value => [value]
  | joystickAxis _ _ value => [value]
  | sensor _ x y z => [x, y, z]
  | _ => []

theorem Kind.fields_nodup (kind : Kind) : kind.fields.Nodup := by
  cases kind <;> decide

namespace EngineEvent

variable {e : EngineEvent} {value : Json} {reports : List Json.SlotReport}

theorem encodeFields_names (e : EngineEvent) :
    e.encodeFields.map (·.1) = e.payload.kind.fields := by
  obtain ⟨payload, priority, due⟩ := e
  cases payload <;> rfl

theorem decodeWith_ok (holds : value.Holds e.encodeFields)
    (places : reports.length = e.payload.encodeFields.length)
    (clean : ∀ report ∈ reports, report.Clean) :
    decodeWith e.payload.kind value reports (.ok e.payload) = .ok e := by
  have behind (index : Nat) : e.encodeFields[reports.length + index]? =
      [("priority", e.priority.encode), ("timestamp", e.due.encode)][index]? := by
    rw [encodeFields, List.getElem?_append_right (by omega), places, Nat.add_sub_cancel_left]
  have priority := holds.slot reports.length (behind 0) (Priority.decode_encode e.priority)
  have due := holds.slot (reports.length + 1) (behind 1) (Timestamp.decode_encode e.due)
  simp only [decodeWith, priority, due]
  apply holds.decodeRecord
  · exact Json.Admits.lenient rfl _
  · intro report inside
    simp only [List.mem_append, List.mem_cons, List.not_mem_nil, or_false] at inside
    obtain inside | rfl | rfl := inside
    · exact clean report inside
    · exact Json.Slot.clean ..
    · exact Json.Slot.clean ..
  · rw [← encodeFields_names, List.length_map]

/-- A document that holds an event's fields is read as that event. -/
theorem decode_of_holds (holds : value.Holds e.encodeFields)
    (finite : ∀ x ∈ e.payload.floats, x.isFinite) :
    decode e.payload.kind value = .ok e := by
  obtain ⟨payload, priority, due⟩ := e
  cases payload with
  | quit exitCode =>
    have exitCode' := holds.slot 0 rfl (Json.decodeInt32_ok exitCode)
    simp only [Payload.kind, decode, exitCode']
    apply decodeWith_ok holds
    · rfl
    · simp [Json.Slot.clean]
  | update tick delta =>
    have tick' := holds.slot 0 rfl (Json.decodeUInt64_ok tick)
    have delta' := holds.slot 1 rfl (Duration.decode_encode delta)
    simp only [Payload.kind, decode, tick', delta']
    apply decodeWith_ok holds
    · rfl
    · simp [Json.Slot.clean]
  | render frame =>
    have frame' := holds.slot 0 rfl (Json.decodeUInt64_ok frame)
    simp only [Payload.kind, decode, frame']
    apply decodeWith_ok holds
    · rfl
    · simp [Json.Slot.clean]
  | input device code sample =>
    have device' := holds.slot 0 rfl (Device.decode_encode device)
    have code' := holds.slot 1 rfl (Json.decodeUInt32_ok code)
    have sample' := holds.slot 2 rfl (Json.decodeSingle_ok (finite sample (List.mem_singleton_self _)))
    simp only [Payload.kind, decode, device', code', sample']
    apply decodeWith_ok holds
    · rfl
    · simp [Json.Slot.clean]
  | keyboard key action =>
    have key' := holds.slot 0 rfl (Json.decodeUInt32_ok key)
    have action' := holds.slot 1 rfl (KeyAction.decode_encode action)
    simp only [Payload.kind, decode, key', action']
    apply decodeWith_ok holds
    · rfl
    · simp [Json.Slot.clean]
  | joystickAxis joystick axis sample =>
    have joystick' := holds.slot 0 rfl (Json.decodeUInt8_ok joystick)
    have axis' := holds.slot 1 rfl (Json.decodeUInt8_ok axis)
    have sample' := holds.slot 2 rfl (Json.decodeSingle_ok (finite sample (List.mem_singleton_self _)))
    simp only [Payload.kind, decode, joystick', axis', sample']
    apply decodeWith_ok holds
    · rfl
    · simp [Json.Slot.clean]
  | sensor kind x y z =>
    have axes := decodeAxes_ok (finite x (by simp [Payload.floats]))
      (finite y (by simp [Payload.floats])) (finite z (by simp [Payload.floats]))
    have kind' := holds.slot 0 rfl (SensorKind.decode_encode kind)
    have axes' := holds.slot 1 rfl axes
    simp only [Payload.kind, decode, kind', axes']
    apply decodeWith_ok holds
    · rfl
    · simp [Json.Slot.clean]

/-- An event comes back from its stored form: by name, by place, and with members of other names
beside its own. -/
theorem events_return_from_documents (e : EngineEvent)
    (finite : ∀ x ∈ e.payload.floats, x.isFinite) :
    decode e.payload.kind e.encode = .ok e ∧
    decode e.payload.kind e.encodePositional = .ok e ∧
    ∀ extra : List (String × Json), (∀ member ∈ extra, member.1 ∉ e.payload.kind.fields) →
      decode e.payload.kind (.ofMembers (e.encodeFields ++ extra)) = .ok e := by
  have different : (e.encodeFields.map (·.1)).Nodup := by
    rw [encodeFields_names]
    exact e.payload.kind.fields_nodup
  have added (extra : List (String × Json))
      (unknown : ∀ member ∈ extra, member.1 ∉ e.payload.kind.fields) :
      decode e.payload.kind (.ofMembers (e.encodeFields ++ extra)) = .ok e := by
    rw [← encodeFields_names] at unknown
    exact decode_of_holds (Holds.ofMembers _ extra different unknown) finite
  refine ⟨?_, ?_, added⟩
  · have alone := added [] fun member none => absurd none List.not_mem_nil
    rwa [List.append_nil] at alone
  · exact decode_of_holds (Holds.positional _) finite

/-- The negative single nearest to zero, from a joystick at the end of time. -/
def lateInput : EngineEvent :=
  ⟨.input (.joystick 7) 0xffffffff ⟨0x80000001⟩, .high, ⟨.longest⟩⟩

theorem late_input_returns_from_documents :
    (∀ x ∈ lateInput.payload.floats, x.isFinite) ∧
    decode .input lateInput.encode = .ok lateInput ∧
    decode .input lateInput.encodePositional = .ok lateInput ∧
    (∀ member ∈ [("id", Json.int 3), ("note", .null)], member.1 ∉ Kind.input.fields) ∧
    decode .input (.ofMembers (lateInput.encodeFields ++ [("id", .int 3), ("note", .null)])) =
      .ok lateInput := by
  have finite : ∀ x ∈ lateInput.payload.floats, x.isFinite := by decide
  have unknown : ∀ member ∈ [("id", Json.int 3), ("note", .null)],
      member.1 ∉ Kind.input.fields := by decide
  obtain ⟨named, positional, added⟩ := events_return_from_documents lateInput finite
  exact ⟨finite, named, positional, unknown, added _ unknown⟩

end EngineEvent
end EventEngine
