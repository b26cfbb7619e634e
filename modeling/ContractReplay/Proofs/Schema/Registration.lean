import ContractReplay.Catalog
import Mathlib.Data.List.Nodup
import Mathlib.Tactic.Common

/-!
# What registration rules out

Registration refuses a record two of whose fields have one name or one wire name, and
nothing else about its fields.  So the names and the wire names of a record that is found
in a catalog are distinct; the error record, which is not registered, has distinct ones too.
-/

namespace ContractReplay

/-- A record no two of whose fields have the same name, or the same wire name. -/
structure RecordOf.DistinctNames (record : RecordSchema) : Prop where
  fieldNames : (record.fields.map (·.fieldName)).Nodup
  wireNames : (record.fields.map (·.wireName)).Nodup

instance (record : RecordSchema) : Decidable record.DistinctNames :=
  decidable_of_iff
    ((record.fields.map (·.fieldName)).Nodup ∧ (record.fields.map (·.wireName)).Nodup)
    ⟨fun holds => ⟨holds.1, holds.2⟩, fun distinct => ⟨distinct.fieldNames, distinct.wireNames⟩⟩

theorem RecordOf.DistinctNames.fieldName_ne
    {record : RecordSchema}
    (distinct : record.DistinctNames)
    {field other : FieldSchema}
    (declared : field ∈ record.fields)
    (otherDeclared : other ∈ record.fields)
    (different : field ≠ other) :
    field.fieldName ≠ other.fieldName :=
  fun same => different (List.inj_on_of_nodup_map distinct.fieldNames declared otherDeclared same)

theorem RecordOf.DistinctNames.wireName_ne
    {record : RecordSchema}
    (distinct : record.DistinctNames)
    {field other : FieldSchema}
    (declared : field ∈ record.fields)
    (otherDeclared : other ∈ record.fields)
    (different : field ≠ other) :
    field.wireName ≠ other.wireName :=
  fun same => different (List.inj_on_of_nodup_map distinct.wireNames declared otherDeclared same)

namespace Catalog

variable {catalog : Catalog} {schemas : List Schema}

/-- Fields have no defect exactly when their names are new and distinct, of either kind. -/
theorem fieldDefect?_eq_none_iff
    {fieldNames wireNames : List String}
    {fields : List FieldSchema} :
    fieldDefect? fieldNames wireNames fields = none ↔
      ((fields.map (·.fieldName)).Nodup ∧ ∀ field ∈ fields, field.fieldName ∉ fieldNames) ∧
        ((fields.map (·.wireName)).Nodup ∧ ∀ field ∈ fields, field.wireName ∉ wireNames) := by
  induction fields generalizing fieldNames wireNames with
  | nil => simp [fieldDefect?]
  | cons field later ih =>
      rw [fieldDefect?]
      split_ifs with nameTaken wireNameTaken
      · simp [List.contains_iff_mem.mp nameTaken]
      · simp [List.contains_iff_mem.mp wireNameTaken]
      · rw [List.contains_iff_mem] at nameTaken wireNameTaken
        rw [ih]
        simp only [List.mem_cons, not_or, List.map_cons, List.nodup_cons, List.mem_map, forall_and]
        grind

theorem distinctNames_of_declarationDefect?
    {record : RecordSchema}
    (sound : declarationDefect? (.record record) = none) :
    record.DistinctNames := by
  rcases fieldDefect?_eq_none_iff.mp sound with ⟨⟨fieldNames, -⟩, ⟨wireNames, -⟩⟩
  exact ⟨fieldNames, wireNames⟩

/-- What was registered declares nothing twice. -/
theorem declarationDefect?_of_validated
    {taken : List String}
    {named : Named}
    {registered : List Named}
    (validates : validated taken schemas = .ok registered)
    (member : named ∈ registered) :
    declarationDefect? named = none := by
  induction schemas generalizing taken registered with
  | nil =>
      cases validates
      cases member
  | cons schema later ih =>
      rw [validated] at validates
      split at validates
      · cases validates
      · rename_i first _
        split at validates
        · cases validates
        · rename_i sound
          cases laterValidates : validated (first.name :: taken) later with
          | error failure =>
              rw [laterValidates] at validates
              cases validates
          | ok others =>
              rw [laterValidates] at validates
              cases validates
              rcases List.mem_cons.mp member with rfl | member
              · rw [defect?] at sound
                split_ifs at sound
                exact sound
              · exact ih laterValidates member

theorem declarationDefect?_of_mem_registered
    (built : ofSchemas schemas = .ok catalog)
    {named : Named}
    (member : named ∈ catalog.registered) :
    declarationDefect? named = none := by
  rw [ofSchemas] at built
  cases validates : validated [] schemas with
  | error failure =>
      rw [validates] at built
      cases built
  | ok registered =>
      rw [validates] at built
      cases built
      exact declarationDefect?_of_validated validates member

theorem resolve_eq_ok_iff
    {name : String}
    {named : Named} :
    catalog.resolve name = .ok named ↔ catalog.find? name = some named := by
  rw [resolve]
  cases catalog.find? name with
  | none => simp
  | some other => simp

/-- What is found under a name in a catalog is the error record or was registered. -/
theorem eq_errorRecord_or_mem_of_resolve
    {name : String}
    {named : Named}
    (resolved : catalog.resolve name = .ok named) :
    named = .record errorRecord ∨ named ∈ catalog.registered := by
  rw [resolve_eq_ok_iff, find?] at resolved
  split_ifs at resolved with isError
  · cases resolved
    exact .inl rfl
  · exact .inr (List.mem_of_find?_eq_some resolved)

/-- A record that is found in a catalog is the error record or was registered. -/
theorem eq_errorRecord_or_mem_of_record
    {name : String}
    {record : RecordSchema}
    (found : catalog.record name = .ok record) :
    record = errorRecord ∨ .record record ∈ catalog.registered := by
  rw [Catalog.record] at found
  split at found
  · cases found
  · rename_i declared resolved
    cases found
    rcases eq_errorRecord_or_mem_of_resolve resolved with isError | member
    · exact .inl (Named.record.inj isError)
    · exact .inr member
  · cases found

theorem errorRecord_distinctNames :
    errorRecord.DistinctNames :=
  ⟨by decide +kernel, by decide +kernel⟩

/-- The fields of a record in a catalog have distinct names, and distinct wire names. -/
theorem distinctNames_of_record
    (built : ofSchemas schemas = .ok catalog)
    {name : String}
    {record : RecordSchema}
    (found : catalog.record name = .ok record) :
    record.DistinctNames := by
  rcases eq_errorRecord_or_mem_of_record found with rfl | member
  · exact errorRecord_distinctNames
  · exact
      distinctNames_of_declarationDefect? (declarationDefect?_of_mem_registered built member)

end Catalog

end ContractReplay
