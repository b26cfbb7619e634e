import ContractReplay.Proofs.Schema.Reach
import ContractReplay.Proofs.Schema.ValidSets

/-!
# Schemas written inside others

Registration looks at the schemas that it is given, and at nothing that is written inside them.
So a record or an enumeration of a catalog declares nothing twice, and what is written inside it,
as the schema of a field or within a list, a map or a union, may.  Everything in a catalog
declares nothing twice exactly when what is written inside the registered schemas does not.
-/

namespace ContractReplay

namespace Schema

/-- Schemas that declare the same under the same name, whatever is written inside them. -/
inductive SameLabels : Schema → Schema → Prop where
  | refl (schema : Schema) :
      SameLabels schema schema
  | record
      {left right : RecordSchema}
      (name : left.name = right.name)
      (fieldNames : left.fields.map (·.fieldName) = right.fields.map (·.fieldName))
      (wireNames : left.fields.map (·.wireName) = right.fields.map (·.wireName)) :
      SameLabels (.record left) (.record right)

/-- Whether a schema by itself, without what is written inside it, declares nothing twice. -/
def declaresOnce : Schema → Bool
  | .record declared => decide declared.DistinctNames
  | .enum enumeration => decide enumeration.symbols.Nodup
  | _ => true

theorem declaresOnce_toSchema_iff
    {named : Named} :
    named.toSchema.declaresOnce = true ↔ named.DeclaresOnce := by
  cases named <;> simp [Named.toSchema, declaresOnce, Named.DeclaresOnce]

end Schema

namespace Catalog

open Schema

variable {catalog : Catalog} {schemas others : List Schema}

/-! ## What registration looks at -/

theorem fieldDefect?_congr
    {lefts rights : List FieldSchema}
    (sameNames : lefts.map (·.fieldName) = rights.map (·.fieldName))
    (sameWires : lefts.map (·.wireName) = rights.map (·.wireName))
    (fieldNames wireNames : List String) :
    fieldDefect? fieldNames wireNames lefts = fieldDefect? fieldNames wireNames rights := by
  induction lefts generalizing rights fieldNames wireNames with
  | nil =>
      rw [List.map_nil, eq_comm, List.map_eq_nil_iff] at sameNames
      rw [sameNames]
  | cons left lefts ih =>
      cases rights with
      | nil => cases sameNames
      | cons right rights =>
          simp only [List.map_cons, List.cons.injEq] at sameNames sameWires
          rw [fieldDefect?, fieldDefect?, sameNames.1, sameWires.1, ih sameNames.2 sameWires.2]

theorem defect?_congr
    {left right : RecordSchema}
    (sameName : left.name = right.name)
    (sameNames : left.fields.map (·.fieldName) = right.fields.map (·.fieldName))
    (sameWires : left.fields.map (·.wireName) = right.fields.map (·.wireName))
    (taken : List String) :
    defect? taken (.record left) = defect? taken (.record right) := by
  have sameDefect : declarationDefect? (.record left) = declarationDefect? (.record right) :=
    fieldDefect?_congr sameNames sameWires [] []
  rw [defect?, defect?, sameDefect, Named.name, Named.name, sameName]

theorem map_names_cons
    (named : Named)
    (result : Except Failure (List Named)) :
    (result.map (named :: ·)).map (·.map Named.name) =
      (result.map (·.map Named.name)).map (named.name :: ·) := by
  cases result <;> rfl

/-- Schemas with the same labels are registered under the same names, or refused alike. -/
theorem validated_of_sameLabels
    (same : List.Forall₂ SameLabels schemas others)
    (taken : List String) :
    (validated taken schemas).map (·.map Named.name) =
      (validated taken others).map (·.map Named.name) := by
  induction same generalizing taken with
  | nil => rfl
  | @cons left right _ _ first _ ih =>
      rw [validated, validated]
      cases first with
      | refl =>
          cases isNamed : left.named? with
          | none => rfl
          | some named =>
              cases found : defect? taken named with
              | some defect => simp only [found]
              | none => simp only [found, map_names_cons, ih]
      | @record left right name fieldNames wireNames =>
          simp only [named?, defect?_congr name fieldNames wireNames]
          cases defect? taken (.record right) with
          | some defect => simp only [Named.name, name]
          | none => simp only [map_names_cons, Named.name, name, ih]

theorem exists_ofSchemas_of_sameLabels
    (same : List.Forall₂ SameLabels schemas others)
    (built : ofSchemas schemas = .ok catalog) :
    ∃ other, ofSchemas others = .ok other := by
  have sameOutcome := validated_of_sameLabels same []
  rw [ofSchemas_eq_ok_iff.mp built] at sameOutcome
  cases validates : validated [] others with
  | error failure =>
      rw [validates] at sameOutcome
      cases sameOutcome
  | ok registered => exact ⟨⟨registered⟩, ofSchemas_eq_ok_iff.mpr validates⟩

/-! ## What a catalog has -/

theorem declaresOnce_of_occursIn_errorRecord
    {inner : Named}
    (occurs : OccursIn inner.toSchema (.record errorRecord)) :
    inner.DeclaresOnce := by
  rw [← declaresOnce_toSchema_iff]
  exact holds_of_occursIn (by decide +kernel) occurs

theorem declaresOnce_of_resolve
    (built : ofSchemas schemas = .ok catalog)
    {name : String}
    {named : Named}
    (resolved : catalog.resolve name = .ok named) :
    named.DeclaresOnce := by
  rcases eq_errorRecord_or_mem_of_resolve resolved with rfl | member
  · exact declaresOnce_of_occursIn_errorRecord .here
  · exact declarationDefect?_eq_none_iff.mp (declarationDefect?_of_mem_registered built member)

/--
What is found in a catalog declares nothing twice.  So does everything that occurs in it exactly
when everything does that is written inside the registered schemas, and registration does not see
to this: it accepts the schemas with anything else written inside them as well.
-/
theorem declaresOnce_inside_iff
    (built : ofSchemas schemas = .ok catalog) :
    (∀ name named, catalog.resolve name = .ok named → named.DeclaresOnce) ∧
      ((∀ name named, catalog.resolve name = .ok named →
          ∀ inner : Named, OccursIn inner.toSchema named.toSchema → inner.DeclaresOnce) ↔
        ∀ schema ∈ schemas, ∀ inner : Named, WrittenInside inner.toSchema schema →
          inner.DeclaresOnce) ∧
        ∀ others, List.Forall₂ SameLabels schemas others →
          ∃ other, ofSchemas others = .ok other := by
  have outside : ∀ name named, catalog.resolve name = .ok named → named.DeclaresOnce :=
    fun _ _ => declaresOnce_of_resolve built
  rcases validated_eq_ok_iff_registrable.mp (ofSchemas_eq_ok_iff.mp built) with ⟨listed, -⟩
  refine ⟨outside, ⟨?_, ?_⟩, fun _ same => exists_ofSchemas_of_sameLabels same built⟩
  · intro everywhere schema isListed inner written
    rw [listed] at isListed
    rcases List.mem_map.mp isListed with ⟨named, member, rfl⟩
    have resolved : catalog.resolve named.name = .ok named :=
      (answers_of_ofSchemas built).listed named (listed ▸ List.mem_map_of_mem member)
    exact everywhere named.name named resolved inner (occursIn_iff.mpr (.inr written))
  · intro inside name named resolved inner occurs
    rcases occursIn_iff.mp occurs with isNamed | written
    · rw [Named.toSchema_injective isNamed]
      exact outside name named resolved
    · rcases eq_errorRecord_or_mem_of_resolve resolved with rfl | member
      · exact declaresOnce_of_occursIn_errorRecord occurs
      · refine inside named.toSchema ?_ inner written
        rw [listed]
        exact List.mem_map_of_mem member

end Catalog

namespace Demo

/-- A label whose two lines go by these names. -/
def labelRecord (first second : String) : RecordSchema where
  name := "Label"
  fields := [⟨first, first, .scalar .string, false⟩, ⟨second, second, .scalar .string, false⟩]

/-- A crate that may have a label, and holds a list of labels or one of some marks. -/
def crateRecord (first second : String) : RecordSchema where
  name := "Crate"
  fields := [
    ⟨"label", "label", .record (labelRecord first second), false⟩,
    ⟨"contents", "contents",
      .map (.union [.list (.record (labelRecord first second)), .enum ⟨"Mark", ["a", "b"]⟩]),
      false⟩]

/-- A catalog of crates. -/
def crateCatalog (first second : String) : Catalog :=
  ⟨[.record (crateRecord first second)]⟩

theorem crateRecord_admissible
    (first second : String) :
    (Named.record (crateRecord first second)).Admissible where
  notBlank := by
    show Text.isBlank "Crate" = false
    decide +kernel
  notBuiltIn := by
    show "Crate" ≠ "Error"
    decide
  declaresOnce := ⟨by simp [crateRecord], by simp [crateRecord]⟩

theorem crateCatalog_built
    (first second : String) :
    Catalog.ofSchemas [.record (crateRecord first second)] =
      .ok (crateCatalog first second) := by
  refine Catalog.ofSchemas_eq_ok_iff.mpr (Catalog.validated_eq_ok_iff.mpr ⟨rfl, ?_, ?_⟩)
  · exact List.nodup_singleton _
  · intro named member
    obtain rfl := List.mem_singleton.mp member
    exact ⟨List.not_mem_nil, crateRecord_admissible first second⟩

theorem labelRecord_occursIn_crateRecord
    (first second : String) :
    Schema.OccursIn (.record (labelRecord first second)) (.record (crateRecord first second)) := by
  have declared :
      ⟨"label", "label", .record (labelRecord first second), false⟩ ∈
        (crateRecord first second).fields :=
    List.mem_cons_self
  exact .inside .here (.field declared)

end Demo

namespace Catalog

open Schema

/-- Everything in a catalog of crates declares nothing twice, if the lines of a label differ. -/
theorem declaresOnce_inside_iff_crate :
    ofSchemas [.record (Demo.crateRecord "line" "note")] =
        .ok (Demo.crateCatalog "line" "note") ∧
      ∀ name named, (Demo.crateCatalog "line" "note").resolve name = .ok named →
        ∀ inner : Named, OccursIn inner.toSchema named.toSchema → inner.DeclaresOnce := by
  have built := Demo.crateCatalog_built "line" "note"
  refine ⟨built, (declaresOnce_inside_iff built).2.1.mpr ?_⟩
  intro schema isListed inner written
  obtain rfl := List.mem_singleton.mp isListed
  rw [← declaresOnce_toSchema_iff]
  exact holds_of_occursIn (by decide +kernel) (occursIn_iff.mpr (.inr written))

/-- A record that is written inside a registered one may have two fields of one name. -/
theorem not_forall_declaresOnce_inside :
    ¬ ∀ (schemas : List Schema) (catalog : Catalog),
      ofSchemas schemas = .ok catalog →
        ∀ name named, catalog.resolve name = .ok named →
          ∀ inner : Named, OccursIn inner.toSchema named.toSchema → inner.DeclaresOnce := by
  intro everywhere
  have once : (Named.record (Demo.labelRecord "line" "line")).DeclaresOnce :=
    everywhere _ _ (Demo.crateCatalog_built "line" "line") "Crate"
      (.record (Demo.crateRecord "line" "line")) rfl _
      (Demo.labelRecord_occursIn_crateRecord "line" "line")
  rw [← declaresOnce_toSchema_iff] at once
  exact absurd once (by decide)

end Catalog

end ContractReplay
