import ContractReplay.Proofs.Coercion.Steps
import ContractReplay.Proofs.Schema.ValidSets

/-!
# Coercion under larger catalogs

A catalog that registers more schemas finds what was found before under the same names.  Names are
looked up when a value gets to them, in shapes as well as in values, so a run of coercion that
misses no name has looked up nothing but names which keep their meaning.  Such a run goes the same
way under the larger catalog, to the same value or to the same failure.
-/

namespace ContractReplay

namespace Catalog

/-- That a catalog finds all that another one finds, and the same under each name. -/
def Extends (large small : Catalog) : Prop :=
  ∀ name named, small.resolve name = .ok named → large.resolve name = .ok named

/-- Schemas that are registered after others change nothing that was found before. -/
theorem extends_of_ofSchemas_append
    {schemas more : List Schema}
    {small large : Catalog}
    (built : ofSchemas schemas = .ok small)
    (enlarged : ofSchemas (schemas ++ more) = .ok large) :
    large.Extends small := by
  rw [ofSchemas_eq_ok_iff] at built enlarged
  rw [validated_append built] at enlarged
  cases found : validated ((small.registered.map Named.name).reverse ++ []) more with
  | error failure =>
      rw [found] at enlarged
      cases enlarged
  | ok others =>
      rw [found] at enlarged
      have registered : large.registered = small.registered ++ others :=
        (Except.ok.inj enlarged).symm
      intro name named resolved
      rw [resolve_eq_ok_iff, find?] at resolved ⊢
      split_ifs at resolved ⊢ with isError
      · exact resolved
      · rw [registered, List.find?_append, resolved]
        rfl

end Catalog

namespace Coercion

variable {small large : Catalog} {raw : Json} {path : Path}

/-! ## Results that are settled -/

/-- That a result is for want of a name, or is what another run gives too. -/
def Settles {α : Type} (result other : Except Failure α) : Prop :=
  (∃ name, result = .error (.unknownType name)) ∨ other = result

theorem Settles.map
    {α β : Type}
    {result other : Except Failure α}
    (settles : Settles result other)
    (change : α → β) :
    Settles (result.map change) (other.map change) := by
  rcases settles with ⟨name, rfl⟩ | rfl
  · exact .inl ⟨name, rfl⟩
  · exact .inr rfl

theorem settles_resolve
    (larger : large.Extends small)
    (name : String) :
    Settles (small.resolve name) (large.resolve name) := by
  cases resolved : small.resolve name with
  | error failure =>
      rw [Catalog.resolve] at resolved
      split at resolved
      · cases resolved
      · cases resolved
        exact .inl ⟨name, rfl⟩
  | ok named => exact .inr (larger name named resolved)

/-! ## Shapes -/

theorem settles_selectVariant
    {variants : List Schema}
    (each :
      ∀ variant ∈ variants,
        Settles (accepts small raw variant) (accepts large raw variant)) :
    Settles (selectVariant small raw variants) (selectVariant large raw variants) := by
  induction variants with
  | nil => exact .inr rfl
  | cons first later ih =>
      rcases List.forall_mem_cons.mp each with ⟨firstSettles, laterSettle⟩
      rw [selectVariant, selectVariant]
      rcases firstSettles with ⟨name, missing⟩ | same
      · rw [missing]
        exact .inl ⟨name, rfl⟩
      · rw [same]
        rcases accepts small raw first with failure | _ | _
        · exact .inr rfl
        · exact ih laterSettle
        · exact .inr rfl

theorem settles_accepts
    (larger : large.Extends small)
    (schema : Schema) :
    Settles (accepts small raw schema) (accepts large raw schema) := by
  induction schema with
  | union variants ih =>
      rw [accepts, accepts, anyAccepts_eq, anyAccepts_eq]
      exact (settles_selectVariant ih).map _
  | reference name =>
      rw [accepts, accepts]
      rcases settles_resolve larger name with ⟨absent, missing⟩ | same
      · rw [missing]
        exact .inl ⟨absent, rfl⟩
      · rw [same]
        exact .inr rfl
  | _ => exact .inr rfl

/-! ## Lists, maps and records -/

/-- That coercion of a value is settled under every schema, wherever the value stands. -/
def SettlesAt (small large : Catalog) (raw : Json) : Prop :=
  ∀ path schema, Settles (coerceAt small path schema raw) (coerceAt large path schema raw)

theorem settles_coerceItems
    {items : List Json}
    (each : ∀ item ∈ items, SettlesAt small large item)
    (element : Schema)
    (index : Nat) :
    Settles (coerceItems small path element index items)
      (coerceItems large path element index items) := by
  induction items generalizing index with
  | nil => exact .inr rfl
  | cons first later ih =>
      rcases List.forall_mem_cons.mp each with ⟨firstSettles, laterSettle⟩
      rw [coerceItems, coerceItems]
      rcases firstSettles (path.add (.index index)) element with ⟨name, missing⟩ | same
      · rw [missing]
        exact .inl ⟨name, rfl⟩
      · rw [same]
        cases coerceAt small (path.add (.index index)) element first with
        | error failure => exact .inr rfl
        | ok value => exact (ih laterSettle (index + 1)).map _

theorem settles_coerceEntries
    {members : List (String × Json)}
    (each : ∀ member ∈ members, SettlesAt small large member.2)
    (schema : Schema) :
    Settles (coerceEntries small path schema members)
      (coerceEntries large path schema members) := by
  induction members with
  | nil => exact .inr rfl
  | cons first later ih =>
      rcases first with ⟨key, item⟩
      rcases List.forall_mem_cons.mp each with ⟨firstSettles, laterSettle⟩
      rw [coerceEntries, coerceEntries]
      rcases firstSettles (path.add (.key key)) schema with ⟨name, missing⟩ | same
      · rw [missing]
        exact .inl ⟨name, rfl⟩
      · rw [same]
        cases coerceAt small (path.add (.key key)) schema item with
        | error failure => exact .inr rfl
        | ok value => exact (ih laterSettle).map _

theorem settles_coerceField
    {members : Json.Members}
    (each : ∀ member ∈ members, SettlesAt small large member.2)
    (field : FieldSchema) :
    Settles (coerceField small path members field) (coerceField large path members field) := by
  rw [coerceField_eq, coerceField_eq]
  cases held : members.fieldValue? field with
  | none => exact .inr rfl
  | some item =>
      rcases exists_mem_of_fieldValue? held with ⟨key, -, member⟩
      simp only [coerceOptional]
      split_ifs
      · exact .inr rfl
      · exact (each (key, item) member _ _).map some

theorem settles_fillSlots
    {value other : FieldSchema → Except Failure (Option Typed)}
    (each : ∀ field, Settles (value field) (other field))
    (fields : List FieldSchema) :
    Settles (fillSlots value fields) (fillSlots other fields) := by
  induction fields with
  | nil => exact .inr rfl
  | cons field later ih =>
      rw [fillSlots, fillSlots]
      rcases each field with ⟨name, missing⟩ | same
      · rw [missing]
        exact .inl ⟨name, rfl⟩
      · rw [same]
        cases value field with
        | error failure => exact .inr rfl
        | ok found => exact ih.map _

/-! ## Whole values -/

theorem settles_coerceHead
    (inside : ∀ part, Json.PartOf part raw → SettlesAt small large part)
    (found : Head) :
    Settles (coerceHead small path raw found) (coerceHead large path raw found) := by
  cases found with
  | scalar kind => exact .inr rfl
  | enum enumeration => exact .inr rfl
  | list element =>
      cases raw with
      | array items =>
          have each : ∀ item ∈ items, SettlesAt small large item :=
            fun item member => inside item (.item member)
          exact (settles_coerceItems each element 0).map Typed.list
      | _ => exact .inr rfl
  | map schema =>
      cases raw with
      | object members =>
          have each : ∀ member ∈ members, SettlesAt small large member.2 :=
            fun member isMember => inside member.2 (.member isMember)
          exact (settles_coerceEntries each schema).map Typed.ofEntries
      | _ => exact .inr rfl
  | record record =>
      cases raw with
      | object members =>
          have each : ∀ member ∈ members, SettlesAt small large member.2 :=
            fun member isMember => inside member.2 (.member isMember)
          have filled :
              Settles (fillSlots (coerceField small path members) record.fields)
                (fillSlots (coerceField large path members) record.fields) :=
            settles_fillSlots (settles_coerceField each) record.fields
          exact (filled.map _).map Typed.record
      | _ => exact .inr rfl

/-- Coercion that misses no name is settled, at every depth of the value. -/
theorem settlesAt
    (larger : large.Extends small)
    (raw : Json) :
    SettlesAt small large raw := by
  induction raw using Json.part_induction with
  | step raw inside =>
      intro path schema
      have settlesHead (found : Head) :
          Settles (coerceAt small path found.toSchema raw)
            (coerceAt large path found.toSchema raw) := by
        rw [coerceAt_toSchema, coerceAt_toSchema]
        exact settles_coerceHead inside found
      -- Unions inside unions are gone through on the same value, so the schema gets smaller.
      induction schema with
      | union variants ih =>
          rw [coerceAt_union, coerceAt_union]
          rcases settles_selectVariant fun variant _ => settles_accepts larger variant with
            ⟨name, missing⟩ | same
          · rw [missing]
            exact .inl ⟨name, rfl⟩
          · rw [same]
            rcases selected : selectVariant small raw variants with failure | _ | variant
            · exact .inr rfl
            · exact .inr rfl
            · exact ih variant (mem_of_selectVariant selected)
      | reference name =>
          rw [coerceAt_reference, coerceAt_reference]
          rcases settles_resolve larger name with ⟨absent, missing⟩ | same
          · rw [missing]
            exact .inl ⟨absent, rfl⟩
          · rw [same]
            cases small.resolve name with
            | error failure => exact .inr rfl
            | ok named =>
                have settles := settlesHead (.ofNamed named)
                rw [Head.toSchema_ofNamed] at settles
                exact settles
      | scalar kind => exact settlesHead (.scalar kind)
      | record record _ => exact settlesHead (.record record)
      | enum enumeration => exact settlesHead (.enum enumeration)
      | list element _ => exact settlesHead (.list element)
      | map value _ => exact settlesHead (.map value)

/--
Registering more schemas changes no coercion that is settled: whatever coercion gives under the
smaller catalog, a value or a failure other than that a name is missing, it gives under the larger
one.
-/
theorem coerceAt_of_more_registered
    {schemas more : List Schema}
    {schema : Schema}
    (built : Catalog.ofSchemas schemas = .ok small)
    (enlarged : Catalog.ofSchemas (schemas ++ more) = .ok large)
    (settled : ∀ name, coerceAt small path schema raw ≠ .error (.unknownType name)) :
    coerceAt large path schema raw = coerceAt small path schema raw := by
  have larger := Catalog.extends_of_ofSchemas_append built enlarged
  rcases settlesAt larger raw path schema with ⟨name, missing⟩ | same
  · exact absurd missing (settled name)
  · exact same

end Coercion

namespace Demo

/-- A note that may answer another note, and has a mood. -/
def noteRecord : RecordSchema where
  name := "Note"
  fields := [
    .ofWireName "text" (.scalar .string),
    .ofWireName "answers" (.reference "Note"),
    .ofWireName "mood" (.union [.scalar .integer, .reference "Mood"])]

/-- The moods of notes. -/
def moodEnum : EnumSchema where
  name := "Mood"
  symbols := ["glad", "sad"]

/-- A note with a mood in numbers that answers one without a mood. -/
def moodlessNote : Json :=
  .object [
    ("text", .string "yes"),
    ("mood", .number (.whole (.ofInt64 3))),
    ("answers", .object [("text", .string "well?"), ("Mood", .null)])]

end Demo

namespace Coercion

/-- Notes are read as before once their moods are registered, unless a mood was looked up. -/
theorem coerceAt_of_more_registered_moods :
    coerceAt ⟨[.record Demo.noteRecord, .enum Demo.moodEnum]⟩ rootPath (.reference "Note")
        Demo.moodlessNote =
          coerceAt ⟨[.record Demo.noteRecord]⟩ rootPath (.reference "Note") Demo.moodlessNote ∧
      coerceAt ⟨[.record Demo.noteRecord]⟩ rootPath (.reference "Note")
          (.object [("mood", .string "glad")]) = .error (.unknownType "Mood") := by
  have built :
      Catalog.ofSchemas [.record Demo.noteRecord] = .ok ⟨[.record Demo.noteRecord]⟩ := by
    rfl
  have enlarged :
      Catalog.ofSchemas ([.record Demo.noteRecord] ++ [.enum Demo.moodEnum]) =
        .ok ⟨[.record Demo.noteRecord, .enum Demo.moodEnum]⟩ := by
    rfl
  refine ⟨coerceAt_of_more_registered built enlarged ?_, by rfl⟩
  intro name missing
  cases missing

end Coercion

end ContractReplay
