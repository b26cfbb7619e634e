import ContractReplay.Proofs.Coercion.Steps

/-!
# What coercion refuses

Coercion fails for one of two reasons: a schema on the way refers to a name under which nothing
is registered, or something at a place inside the value does not fit.  The place is told from
the place of the whole value, and the code of the failure is one of three.
-/

namespace ContractReplay.Coercion

variable {catalog : Catalog} {raw : Json} {path : Path} {failure : Failure}

theorem map_eq_error_iff
    {α β : Type}
    {result : Except Failure α}
    {change : α → β} :
    result.map change = .error failure ↔ result = .error failure := by
  cases result <;> simp [Except.map]

/-- The failures of coercion at a place. -/
inductive Refusal (catalog : Catalog) (path : Path) : Failure → Prop where
  | unknownType
      {name : String}
      (absent : catalog.find? name = none) :
      Refusal catalog path (.unknownType name)
  | coercion
      (steps : List Step)
      (schema : String)
      (cause : CoercionCause) :
      Refusal catalog path (.coercion ⟨path.root, path.steps ++ steps⟩ schema cause)
  | unknownSymbol
      (steps : List Step)
      (enumName symbol : String) :
      Refusal catalog path (.unknownSymbol ⟨path.root, path.steps ++ steps⟩ enumName symbol)

namespace Refusal

theorem code_mem
    (refusal : Refusal catalog path failure) :
    failure.code ∈ [3001, 3002, 3003] := by
  cases refusal <;> simp [Failure.code]

/-- The value at the place itself does not fit. -/
theorem coercion_here
    (catalog : Catalog)
    (path : Path)
    (schema : String)
    (cause : CoercionCause) :
    Refusal catalog path (.coercion path schema cause) := by
  simpa using @coercion catalog path [] schema cause

theorem unknownSymbol_here
    (catalog : Catalog)
    (path : Path)
    (enumName symbol : String) :
    Refusal catalog path (.unknownSymbol path enumName symbol) := by
  simpa using @unknownSymbol catalog path [] enumName symbol

/-- A refusal at a place inside is a refusal of the whole. -/
theorem of_add
    {step : Step}
    (refusal : Refusal catalog (path.add step) failure) :
    Refusal catalog path failure := by
  cases refusal with
  | unknownType absent => exact .unknownType absent
  | coercion steps schema cause =>
      simpa [Path.add] using
        @coercion catalog path (step :: steps) schema cause
  | unknownSymbol steps enumName symbol =>
      simpa [Path.add] using
        @unknownSymbol catalog path (step :: steps) enumName symbol

end Refusal

/-! ## Unions and references -/

/-- What a reference does not lead to is not registered. -/
theorem unknownType_of_resolve
    {name : String}
    (refused : catalog.resolve name = .error failure) :
    catalog.find? name = none ∧ failure = .unknownType name := by
  rw [Catalog.resolve] at refused
  split at refused
  · cases refused
  · rename_i absent
    cases refused
    exact ⟨absent, rfl⟩

/-- Where no variant can be selected, the shape of one of them cannot be told. -/
theorem exists_of_selectVariant_eq_error
    {variants : List Schema}
    (refused : selectVariant catalog raw variants = .error failure) :
    ∃ variant ∈ variants, accepts catalog raw variant = .error failure := by
  induction variants with
  | nil => cases refused
  | cons first later ih =>
      rw [selectVariant] at refused
      split at refused
      · rename_i failed
        cases refused
        exact ⟨first, List.mem_cons_self, failed⟩
      · cases refused
      · rcases ih refused with ⟨variant, member, failed⟩
        exact ⟨variant, List.mem_cons_of_mem _ member, failed⟩

/-- That a failure is of a name to which a schema refers and under which nothing is registered. -/
def MissesType (catalog : Catalog) (schema : Schema) (failure : Failure) : Prop :=
  ∃ name, Schema.Reaches catalog schema (.reference name) ∧ catalog.find? name = none ∧
    failure = .unknownType name

theorem MissesType.refusal
    {schema : Schema}
    (misses : MissesType catalog schema failure) :
    Refusal catalog path failure := by
  rcases misses with ⟨name, -, absent, rfl⟩
  exact .unknownType absent

theorem missesType_of_resolve
    {name : String}
    (refused : catalog.resolve name = .error failure) :
    MissesType catalog (.reference name) failure :=
  ⟨name, .here, unknownType_of_resolve refused⟩

theorem MissesType.of_variant
    {variants : List Schema}
    {variant : Schema}
    (member : variant ∈ variants)
    (misses : MissesType catalog variant failure) :
    MissesType catalog (.union variants) failure := by
  rcases misses with ⟨name, reaches, missing⟩
  exact ⟨name, (Schema.LeadsTo.variant member).reaches.trans reaches, missing⟩

/-- The shape of a schema cannot be told only if a name is missing. -/
theorem missesType_of_accepts
    {schema : Schema}
    (refused : accepts catalog raw schema = .error failure) :
    MissesType catalog schema failure := by
  induction schema with
  | union variants ih =>
      rw [accepts, anyAccepts_eq, map_eq_error_iff] at refused
      rcases exists_of_selectVariant_eq_error refused with ⟨variant, member, failed⟩
      exact (ih variant member failed).of_variant member
  | reference name =>
      rw [accepts] at refused
      split at refused
      · cases refused
      · rename_i unresolved
        cases refused
        exact missesType_of_resolve unresolved
  | _ => cases refused

/-- Unions and references lead nowhere if a name is missing or no variant accepts the value. -/
theorem missesType_or_noVariant_of_head
    {schema : Schema}
    (refused : head catalog raw path schema = .error failure) :
    MissesType catalog schema failure ∨
      ∃ variants,
        failure = .coercion path (Schema.union variants).display (.noVariant raw.kind) := by
  induction schema with
  | union variants ih =>
      rw [head, headOfFirst_eq] at refused
      cases selected : selectVariant catalog raw variants with
      | error earlier =>
          rw [selected] at refused
          cases refused
          rcases exists_of_selectVariant_eq_error selected with ⟨variant, member, failed⟩
          exact .inl ((missesType_of_accepts failed).of_variant member)
      | ok found =>
          rw [selected] at refused
          cases found with
          | none =>
              cases refused
              exact .inr ⟨variants, rfl⟩
          | some variant =>
              have member := mem_of_selectVariant selected
              have variantRefused : head catalog raw path variant = .error failure := by
                cases variantHead : head catalog raw path variant with
                | error earlier =>
                    simp only [variantHead, Except.map] at refused
                    rw [refused]
                | ok found => simp [variantHead, Except.map] at refused
              exact (ih variant member variantRefused).imp_left (·.of_variant member)
  | reference name =>
      rw [head] at refused
      split at refused
      · cases refused
      · rename_i unresolved
        cases refused
        exact .inl (missesType_of_resolve unresolved)
  | _ => cases refused

theorem refusal_of_head
    {schema : Schema}
    (refused : head catalog raw path schema = .error failure) :
    Refusal catalog path failure := by
  rcases missesType_or_noVariant_of_head refused with misses | ⟨variants, rfl⟩
  · exact misses.refusal
  · exact .coercion_here _ _ _ _

/-! ## Scalars and enumerations -/

theorem refusal_of_coerceScalar
    {kind : Scalar}
    (refused : coerceScalar path raw kind = .error failure) :
    Refusal catalog path failure := by
  unfold coerceScalar at refused
  (repeat' split at refused) <;> cases refused <;> exact .coercion_here _ _ _ _

theorem refusal_of_coerceSymbol
    {enumeration : EnumSchema}
    (refused : coerceSymbol path raw enumeration = .error failure) :
    Refusal catalog path failure := by
  cases raw with
  | string symbol =>
      rw [coerceSymbol] at refused
      split_ifs at refused
      cases refused
      exact .unknownSymbol_here _ _ _ _
  | _ =>
      cases refused
      exact .coercion_here _ _ _ _

/-! ## Lists, maps and records -/

theorem exists_of_coerceItems_eq_error
    {element : Schema}
    {index : Nat}
    {items : List Json}
    (refused : coerceItems catalog path element index items = .error failure) :
    ∃ place, ∃ item ∈ items,
      coerceAt catalog (path.add (.index place)) element item = .error failure := by
  induction items generalizing index with
  | nil => cases refused
  | cons first later ih =>
      rw [coerceItems] at refused
      split at refused
      · rename_i failed
        cases refused
        exact ⟨index, first, List.mem_cons_self, failed⟩
      · rcases ih (map_eq_error_iff.mp refused) with ⟨place, item, member, failed⟩
        exact ⟨place, item, List.mem_cons_of_mem _ member, failed⟩

theorem exists_of_coerceEntries_eq_error
    {schema : Schema}
    {members : List (String × Json)}
    (refused : coerceEntries catalog path schema members = .error failure) :
    ∃ key item, (key, item) ∈ members ∧
      coerceAt catalog (path.add (.key key)) schema item = .error failure := by
  induction members with
  | nil => cases refused
  | cons first later ih =>
      rcases first with ⟨key, item⟩
      rw [coerceEntries] at refused
      split at refused
      · rename_i failed
        cases refused
        exact ⟨key, item, List.mem_cons_self, failed⟩
      · rcases ih (map_eq_error_iff.mp refused) with ⟨name, other, member, failed⟩
        exact ⟨name, other, List.mem_cons_of_mem _ member, failed⟩

theorem exists_of_fillSlots_eq_error
    {value : FieldSchema → Except Failure (Option Typed)}
    {fields : List FieldSchema}
    (refused : fillSlots value fields = .error failure) :
    ∃ field ∈ fields, value field = .error failure := by
  induction fields with
  | nil => cases refused
  | cons first later ih =>
      rw [fillSlots] at refused
      split at refused
      · rename_i failed
        cases refused
        exact ⟨first, List.mem_cons_self, failed⟩
      · rcases ih (map_eq_error_iff.mp refused) with ⟨field, member, failed⟩
        exact ⟨field, List.mem_cons_of_mem _ member, failed⟩

/-- A value is refused where a value other than `null` is expected or none at all. -/
theorem coerceOptional_eq_error_iff
    {schema : Schema} :
    coerceOptional catalog path schema raw = .error failure ↔
      raw ≠ .null ∧ coerceAt catalog path schema raw = .error failure := by
  rw [coerceOptional]
  split_ifs with isNull
  · rw [Json.isNull_iff] at isNull
    simp [isNull]
  · rw [Json.isNull_iff] at isNull
    rw [map_eq_error_iff]
    exact (and_iff_right isNull).symm

theorem exists_of_coerceField_eq_error
    {members : Json.Members}
    {field : FieldSchema}
    (refused : coerceField catalog path members field = .error failure) :
    ∃ key item, (key, item) ∈ members ∧
      coerceAt catalog (path.add (.field field.wireName)) field.schema item =
        .error failure := by
  rw [coerceField_eq] at refused
  split at refused
  · cases refused
  · rename_i item held
    rcases exists_mem_of_fieldValue? held with ⟨key, -, member⟩
    exact ⟨key, item, member, (coerceOptional_eq_error_iff.mp refused).2⟩

theorem refusal_of_coerceRecordAt
    {record : RecordSchema}
    (inside :
      ∀ part, Json.PartOf part raw → ∀ schema place,
        coerceAt catalog place schema part = .error failure → Refusal catalog place failure)
    (refused : coerceRecordAt catalog path record raw = .error failure) :
    Refusal catalog path failure := by
  cases raw with
  | object members =>
      rcases exists_of_fillSlots_eq_error (map_eq_error_iff.mp refused) with
        ⟨field, -, unfilled⟩
      rcases exists_of_coerceField_eq_error unfilled with ⟨key, item, member, failed⟩
      exact (inside item (.member member) _ _ failed).of_add
  | _ =>
      cases refused
      exact .coercion_here _ _ _ _

/-- Under a head, the parts of a value are refused, or the value itself. -/
theorem refusal_of_coerceHead
    {found : Head}
    (inside :
      ∀ part, Json.PartOf part raw → ∀ schema place,
        coerceAt catalog place schema part = .error failure → Refusal catalog place failure)
    (refused : coerceHead catalog path raw found = .error failure) :
    Refusal catalog path failure := by
  cases found with
  | scalar kind => exact refusal_of_coerceScalar refused
  | enum enumeration => exact refusal_of_coerceSymbol refused
  | list element =>
      cases raw with
      | array items =>
          rcases exists_of_coerceItems_eq_error (map_eq_error_iff.mp refused) with
            ⟨place, item, member, failed⟩
          exact (inside item (.item member) _ _ failed).of_add
      | _ =>
          cases refused
          exact .coercion_here _ _ _ _
  | map value =>
      cases raw with
      | object members =>
          rcases exists_of_coerceEntries_eq_error (map_eq_error_iff.mp refused) with
            ⟨key, item, member, failed⟩
          exact (inside item (.member member) _ _ failed).of_add
      | _ =>
          cases refused
          exact .coercion_here _ _ _ _
  | record record => exact refusal_of_coerceRecordAt inside (map_eq_error_iff.mp refused)

/-- Every failure of coercion is a name that is not registered or tells of a place inside. -/
theorem refusal_of_coerceAt
    {schema : Schema}
    (refused : coerceAt catalog path schema raw = .error failure) :
    Refusal catalog path failure := by
  -- The induction is on the value, since a schema may lead back to itself.
  induction raw using Json.part_induction generalizing path schema with
  | step raw ih =>
      rw [coerceAt_eq] at refused
      split at refused
      · rename_i failed
        cases refused
        exact refusal_of_head failed
      · refine refusal_of_coerceHead ?_ refused
        intro part isPart inner place failed
        exact ih part isPart failed

end ContractReplay.Coercion
