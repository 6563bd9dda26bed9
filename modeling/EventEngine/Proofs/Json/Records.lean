import EventEngine.Json.Decoder
import Mathlib

/-! Records in documents. An object holds under a name what was put there last. A document holds a
record's fields by name or by place; members of other names are let be, and a record whose fields
can all be read has no fault. -/
namespace EventEngine.Json

/-! ### Members of an object -/

theorem find?_insertMember (name : String) (content : Json) (members : List (String × Json))
    (other : String) :
    (insertMember name content members).find? (·.1 == other) =
      if name = other then some (name, content) else members.find? (·.1 == other) := by
  induction members with
  | nil => simp [insertMember, List.find?_singleton]
  | cons member rest ih =>
    obtain ⟨held, stored⟩ := member
    rw [insertMember]
    split
    · by_cases here : name = other
      · simp [here]
      · simp [here]
    · split
      · rename_i same
        subst same
        by_cases here : name = other
        · simp [here]
        · simp [here]
      · rename_i different
        by_cases before : held = other
        · subst before
          simp [different]
        · simpa [before] using ih

/-- The last member of a name wins. -/
theorem get?_ofMembers (members : List (String × Json)) (name : String) :
    (ofMembers members).get? name = (members.reverse.find? (·.1 == name)).map (·.2) := by
  rw [ofMembers, get?]
  congr 1
  induction members using List.reverseRecOn with
  | nil => rfl
  | append_singleton members member ih =>
    obtain ⟨other, content⟩ := member
    rw [List.foldl_concat, find?_insertMember, ih, List.reverse_concat]
    by_cases here : other = name
    · simp [here]
    · simp [here]

theorem get?_ofMembers_append {fields extra : List (String × Json)} {name : String} {content : Json}
    (different : (fields.map (·.1)).Nodup) (field : (name, content) ∈ fields)
    (unknown : ∀ member ∈ extra, member.1 ≠ name) :
    (ofMembers (fields ++ extra)).get? name = some content := by
  have none : extra.reverse.find? (·.1 == name) = none := by
    rw [List.find?_eq_none]
    intro member inside
    simpa using unknown member (List.mem_reverse.mp inside)
  rw [get?_ofMembers, List.reverse_append, List.find?_append, none, Option.none_or]
  obtain ⟨found, here⟩ : ∃ found, fields.reverse.find? (·.1 == name) = some found := by
    rw [← Option.isSome_iff_exists, List.find?_isSome]
    exact ⟨_, List.mem_reverse.mpr field, beq_self_eq_true _⟩
  have inside := List.mem_reverse.mp (List.mem_of_find?_eq_some here)
  have same : found.1 = name := by simpa using List.find?_some here
  have unique := List.inj_on_of_nodup_map different inside field same
  rw [here, unique, Option.map_some]

/-! ### Fields of a record -/

/-- A document that has some fields of a record, by name or by place and with nothing behind them. -/
structure Holds (value : Json) (fields : List (String × Json)) : Prop where
  found : ∀ {index name content}, fields[index]? = some (name, content) →
    value.field? index name = some content
  record : (∃ members, value = object members) ∨
    ∃ items, value = array items ∧ items.length ≤ fields.length

theorem Holds.positional (fields : List (String × Json)) :
    (array (fields.map (·.2))).Holds fields where
  found here := by simp only [field?, List.getElem?_map, here, Option.map_some]
  record := .inr ⟨_, rfl, List.length_map _ |>.le⟩

theorem Holds.named {members fields : List (String × Json)}
    (stored : ∀ name content, (name, content) ∈ fields →
      (object members).get? name = some content) :
    (object members).Holds fields where
  found here := stored _ _ (List.mem_of_getElem? here)
  record := .inl ⟨_, rfl⟩

/-- Fields of different names are held whatever members of other names there are. -/
theorem Holds.ofMembers (fields extra : List (String × Json))
    (different : (fields.map (·.1)).Nodup)
    (unknown : ∀ member ∈ extra, member.1 ∉ fields.map (·.1)) :
    (ofMembers (fields ++ extra)).Holds fields :=
  .named fun _ _ field => get?_ofMembers_append different field fun member inside same =>
    unknown member inside (same ▸ List.mem_map_of_mem field)

section Reading

variable {α : Type} {value : Json} {fields : List (String × Json)}

theorem Holds.slot (index : Nat) {name : String} {content : Json} {decode : Decoder α} {a : α}
    (holds : value.Holds fields) (here : fields[index]? = some (name, content))
    (read : decode content = .ok a) : value.slot index name decode = .found a := by
  simp only [Json.slot, holds.found here, read, Slot.ofResult]

/-- A report of a field that could be read. -/
def SlotReport.Clean (report : SlotReport) : Prop := report.absent = false ∧ report.error = none

theorem Slot.clean (name : String) (a : α) : (Slot.report name (.found a)).Clean := ⟨rfl, rfl⟩

/-- Whether a record refuses none of a document's members. -/
def Admits (shape : Shape) (reports : List SlotReport) (value : Json) : Prop :=
  shape.strict = true → ∀ members, value = object members →
    ∀ member ∈ members, member.1 ∈ reports.map (·.name)

theorem Admits.lenient {shape : Shape} (lenient : shape.strict = false) (reports : List SlotReport) :
    Admits shape reports value :=
  fun strict => absurd (strict.symm.trans lenient) (by decide)

theorem memberFault_clean {shape : Shape} {reports : List SlotReport} {name : String}
    (known : shape.strict = true → name ∈ reports.map (·.name))
    (clean : ∀ report ∈ reports, report.Clean) : memberFault shape reports name = none := by
  rw [memberFault]
  split
  · rename_i report found
    exact (clean report (List.mem_of_find?_eq_some found)).2
  · rename_i missing
    refine if_neg fun strict => ?_
    obtain ⟨report, inside, same⟩ := List.mem_map.mp (known strict)
    exact absurd (beq_iff_eq.mpr same) (List.find?_eq_none.mp missing report inside)

theorem Holds.recordFault {shape : Shape} {reports : List SlotReport} (holds : value.Holds fields)
    (admitted : Admits shape reports value) (clean : ∀ report ∈ reports, report.Clean) :
    recordFault shape value reports = none := by
  obtain ⟨members, rfl⟩ | ⟨items, rfl, -⟩ := holds.record
  · have present : reports.find? (·.absent) = none := by
      rw [List.find?_eq_none]
      intro report inside
      simp [(clean report inside).1]
    have readable : (members.findSome? fun member => memberFault shape reports member.1) = none := by
      rw [List.findSome?_eq_none_iff]
      intro member inside
      exact memberFault_clean (fun strict => admitted strict members rfl member inside) clean
    simp only [Json.recordFault, present, readable, Option.map_none, Option.or_none]
  · have present : reports.findIdx? (·.absent) = none := by
      rw [List.findIdx?_eq_none_iff]
      exact fun report inside => (clean report inside).1
    have readable : reports.findSome? (·.error) = none := by
      rw [List.findSome?_eq_none_iff]
      exact fun report inside => (clean report inside).2
    simp only [Json.recordFault, present, readable, Option.map_none, Option.or_none]

/-- A record whose fields can all be read is built. -/
theorem Holds.decodeRecord {shape : Shape} {reports : List SlotReport} {built : α}
    (holds : value.Holds fields) (admitted : Admits shape reports value)
    (clean : ∀ report ∈ reports, report.Clean) (places : shape.fields.length = fields.length) :
    decodeRecord shape value reports (.ok built) = .ok built := by
  have fitting : surplusFault shape value = none := by
    obtain ⟨members, rfl⟩ | ⟨items, rfl, few⟩ := holds.record
    · rfl
    · exact if_neg fun surplus => by omega
  simp only [Json.decodeRecord, holds.recordFault admitted clean, fitting]

/-! ### What a record was built of -/

theorem decodeRecord_eq_ok {shape : Shape} {reports : List SlotReport}
    {build : Except DecodeError α} {built : α}
    (read : decodeRecord shape value reports build = .ok built) : build = .ok built := by
  unfold decodeRecord at read
  split at read
  · cases read
  · split at read
    · cases read
    · split at read
      · cases read
      · exact read

theorem slot_eq_found {index : Nat} {name : String} {decode : Decoder α} {a : α}
    (found : value.slot index name decode = .found a) :
    ∃ content, value.field? index name = some content ∧ decode content = .ok a := by
  unfold slot at found
  split at found
  · rename_i content here
    refine ⟨content, here, ?_⟩
    unfold Slot.ofResult at found
    split at found
    · cases found
      assumption
    · cases found
  · cases found

theorem get_slot_eq_ok {index : Nat} {name label : String} {decode : Decoder α} {a : α}
    (read : (value.slot index name decode).get label = .ok a) :
    ∃ content, value.field? index name = some content ∧ decode content = .ok a := by
  apply slot_eq_found
  unfold Slot.get at read
  split at read
  · cases read
  · cases read
  · cases read
    assumption

end Reading
end EventEngine.Json
