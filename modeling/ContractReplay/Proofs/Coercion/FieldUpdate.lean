import ContractReplay.Proofs.Coercion.FieldKeys
import ContractReplay.Proofs.Coercion.FirstFailure

/-!
# One field put anew

The wire name of a field is the first key under which an object is searched for it, so a value
that is put there is the one that the field is read from, under whatever other spellings the
object has the field.  Where no other field may be held under this wire name, all other fields are
read as before: the object is coerced to the record value in which that one slot is set anew.
-/

namespace ContractReplay.Coercion

open Schema

variable
  {catalog : Catalog} {path : Path} {members : Json.Members} {record : RecordSchema}
  {field other : FieldSchema}

/-! ## The same record value anywhere -/

/-- The record value that an object is coerced to does not depend on where it stands. -/
theorem coerceRecordAt_anywhere
    {raw : Json}
    {value : Record}
    (coerced : coerceRecordAt catalog path record raw = .ok value)
    (place : Path) :
    coerceRecordAt catalog place record raw = .ok value := by
  have coercedAt : coerceAt catalog path (.record record) raw = .ok (.record value) := by
    rw [coerceAt_record, coerced]
    rfl
  have elsewhere := sameAnywhere catalog raw _ _ _ coercedAt place
  rw [coerceAt_record] at elsewhere
  rcases map_eq_ok_iff.mp elsewhere with ⟨found, isFound, same⟩
  rw [isFound, Typed.record.inj same]

/-! ## Members -/

theorem fieldValue?_insert_wireName
    (field : FieldSchema)
    (item : Json)
    (members : Json.Members) :
    (Json.Members.insert field.wireName item members).fieldValue? field = some item := by
  rw [Json.Members.fieldValue?, FieldOf.candidates, Naming.fieldCandidates, findSome?_eraseDups,
    List.findSome?_cons, Json.Members.get?_insert_self]

theorem fieldValue?_insert_of_not_mem
    {key : String}
    (notCandidate : key ∉ field.candidates)
    (item : Json)
    (members : Json.Members) :
    (Json.Members.insert key item members).fieldValue? field = members.fieldValue? field := by
  rw [Json.Members.fieldValue?, Json.Members.fieldValue?]
  refine findSome?_congr fun candidate isCandidate => ?_
  exact Json.Members.get?_insert_of_ne (ne_of_mem_of_not_mem isCandidate notCandidate) _ _

/-! ## Slots -/

theorem fillSlots_congr
    {value changed : FieldSchema → Except Failure (Option Typed)}
    {fields : List FieldSchema}
    (same : ∀ field ∈ fields, changed field = value field) :
    fillSlots changed fields = fillSlots value fields := by
  induction fields with
  | nil => rfl
  | cons first later ih =>
      rw [List.forall_mem_cons] at same
      rw [fillSlots, fillSlots, same.1, ih same.2]

/-- Where one field is read anew and the others as before, only the slot of this field changes. -/
theorem setSlot?_of_fillSlots
    {value changed : FieldSchema → Except Failure (Option Typed)}
    {fields : List FieldSchema}
    {slots : List Slot}
    {inner : Option Typed}
    (filled : fillSlots value fields = .ok slots)
    (distinct : (fields.map (·.fieldName)).Nodup)
    (declared : field ∈ fields)
    (readAnew : changed field = .ok inner)
    (asBefore : ∀ other ∈ fields, other ≠ field → changed other = value other) :
    ∃ after, RecordValueOf.setSlot? field.fieldName inner slots = some after ∧
      fillSlots changed fields = .ok after := by
  induction fields generalizing slots with
  | nil => cases declared
  | cons first later ih =>
      rw [List.map_cons, List.nodup_cons] at distinct
      rw [List.forall_mem_cons] at asBefore
      rcases fillSlots_eq_ok_iff.mp filled with _ | ⟨⟨found, firstRead, rfl⟩, laterRead⟩
      have laterFilled := fillSlots_eq_ok_iff.mpr laterRead
      rw [RecordValueOf.setSlot?, fillSlots]
      by_cases isFirst : first = field
      · subst isFirst
        have laterSame : fillSlots changed later = fillSlots value later := by
          refine fillSlots_congr fun other member => asBefore.2 other member ?_
          rintro rfl
          exact distinct.1 (List.mem_map_of_mem member)
        rw [if_pos rfl, readAnew, laterSame, laterFilled]
        exact ⟨_, rfl, rfl⟩
      · have inLater := (List.mem_cons.mp declared).resolve_left (Ne.symm isFirst)
        have otherName : first.fieldName ≠ field.fieldName := by
          intro sameName
          exact distinct.1 (sameName ▸ List.mem_map_of_mem inLater)
        rcases ih laterFilled distinct.2 inLater asBefore.2 with ⟨after, isSet, afterFilled⟩
        rw [if_neg otherName, isSet, asBefore.1 isFirst, firstRead, afterFilled]
        exact ⟨_, rfl, rfl⟩

/--
An object in which a value is put under the wire name of a field is coerced to the record value in
which the slot of this field is set to the typed value.
-/
theorem coerceRecordAt_insert
    {item : Json}
    {value : Record}
    {inner : Typed}
    (coerced : coerceRecordAt catalog path record (.object members) = .ok value)
    (distinct : record.DistinctNames)
    (apart : record.KeysApart)
    (declared : field ∈ record.fields)
    (notNull : item ≠ .null)
    (itemCoerced :
      coerceAt catalog (path.add (.field field.wireName)) field.schema item = .ok inner) :
    coerceRecordAt catalog path record (.object (Json.Members.insert field.wireName item members)) =
      .ok (value.put field.fieldName inner) := by
  rcases map_eq_ok_iff.mp coerced with ⟨slots, filled, rfl⟩
  have held := fieldValue?_insert_wireName field item members
  have readAnew :
      coerceField catalog path (Json.Members.insert field.wireName item members) field =
        .ok (some inner) :=
    coerceField_eq_ok_iff.mpr (.inr ⟨item, inner, held, notNull, itemCoerced, rfl⟩)
  have asBefore :
      ∀ other ∈ record.fields, other ≠ field →
        coerceField catalog path (Json.Members.insert field.wireName item members) other =
          coerceField catalog path members other := by
    intro other otherDeclared different
    have notCandidate : field.wireName ∉ other.candidates :=
      apart.apart other otherDeclared field declared
        (distinct.wireName_ne declared otherDeclared different.symm)
    rw [coerceField_eq, coerceField_eq, fieldValue?_insert_of_not_mem notCandidate]
  rcases setSlot?_of_fillSlots filled distinct.fieldNames declared readAnew asBefore with
    ⟨after, isSet, afterFilled⟩
  rw [RecordValueOf.put, RecordValueOf.assign, RecordValueOf.set?, isSet]
  exact map_eq_ok_iff.mpr ⟨after, afterFilled, rfl⟩

end ContractReplay.Coercion
