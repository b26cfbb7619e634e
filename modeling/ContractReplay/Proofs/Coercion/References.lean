import ContractReplay.Proofs.Coercion.Refusal

/-!
# Names that coercion cannot find

Coercion follows references as it meets them, so it fails for a name without a schema only where
the schema that it started from reaches a reference with this name.  Under a schema that reaches
no such reference, coercion fails for nothing but the value.
-/

namespace ContractReplay

open Schema

/-- That everything to which a schema refers, directly or through other schemas, is registered. -/
def Schema.Closed (catalog : Catalog) (schema : Schema) : Prop :=
  ∀ name, Reaches catalog schema (.reference name) → ∃ named, catalog.resolve name = .ok named

/-- Whether a schema is not a reference, or one to a name under which something is registered. -/
def Catalog.refersInside (catalog : Catalog) : Schema → Bool
  | .reference name => (catalog.find? name).isSome
  | _ => true

/-- A schema is closed where neither it nor the catalog refers to an unregistered name. -/
theorem Schema.closed_of_everywhere
    {catalog : Catalog}
    {schema : Schema}
    (every : everyNamed catalog.refersInside catalog = true)
    (inside : everywhere catalog.refersInside schema = true) :
    schema.Closed catalog := by
  intro name reached
  have refers : (catalog.find? name).isSome = true := holds_of_reaches every inside reached
  rcases Option.isSome_iff_exists.mp refers with ⟨named, found⟩
  exact ⟨named, by rw [Catalog.resolve, found]⟩

theorem Schema.closed_of_resolve
    {catalog : Catalog}
    {name : String}
    {named : Named}
    (every : everyNamed catalog.refersInside catalog = true)
    (resolved : catalog.resolve name = .ok named) :
    named.toSchema.Closed catalog :=
  closed_of_everywhere every (everywhere_of_resolve every resolved)

namespace Coercion

variable {catalog : Catalog} {raw : Json} {path : Path} {name : String} {schema : Schema}

/-! ## Unions and references -/

theorem reaches_of_head_eq_error
    (refused : head catalog raw path schema = .error (.unknownType name)) :
    Reaches catalog schema (.reference name) := by
  rcases missesType_or_noVariant_of_head refused with ⟨_, reaches, -, same⟩ | ⟨_, other⟩
  · cases same
    exact reaches
  · cases other

/-- A schema reaches the one to which its unions and references lead. -/
theorem reaches_of_head
    {found : Head}
    (leads : head catalog raw path schema = .ok found) :
    Reaches catalog schema found.toSchema := by
  induction schema with
  | union variants ih =>
      rcases head_union_eq_ok_iff.mp leads with ⟨variant, selected, variantLeads⟩
      have member := mem_of_selectVariant selected
      exact (LeadsTo.variant member).reaches.trans (ih variant member variantLeads)
  | reference target =>
      rcases head_reference_eq_ok_iff.mp leads with ⟨named, resolved, rfl⟩
      rw [Head.toSchema_ofNamed]
      exact (LeadsTo.reference resolved).reaches
  | _ =>
      cases leads
      exact .here

/-! ## Whole values -/

theorem coerceScalar_ne_unknownType
    {kind : Scalar} :
    coerceScalar path raw kind ≠ .error (.unknownType name) := by
  intro refused
  unfold coerceScalar at refused
  (repeat' split at refused) <;> cases refused

theorem coerceSymbol_ne_unknownType
    {enumeration : EnumSchema} :
    coerceSymbol path raw enumeration ≠ .error (.unknownType name) := by
  intro refused
  cases raw with
  | string symbol =>
      rw [coerceSymbol] at refused
      split_ifs at refused
      cases refused
  | _ => cases refused

/-- Under a head, a name is missing where a part of the value is coerced. -/
theorem reaches_of_coerceHead
    {found : Head}
    (inside :
      ∀ part, Json.PartOf part raw → ∀ inner place,
        coerceAt catalog place inner part = .error (.unknownType name) →
          Reaches catalog inner (.reference name))
    (refused : coerceHead catalog path raw found = .error (.unknownType name)) :
    Reaches catalog found.toSchema (.reference name) := by
  cases found with
  | scalar kind => exact absurd refused coerceScalar_ne_unknownType
  | enum enumeration => exact absurd refused coerceSymbol_ne_unknownType
  | list element =>
      cases raw with
      | array items =>
          rcases exists_of_coerceItems_eq_error (map_eq_error_iff.mp refused) with
            ⟨place, item, member, failed⟩
          exact (LeadsTo.element element).reaches.trans (inside item (.item member) _ _ failed)
      | _ => cases refused
  | map value =>
      cases raw with
      | object members =>
          rcases exists_of_coerceEntries_eq_error (map_eq_error_iff.mp refused) with
            ⟨key, item, member, failed⟩
          exact (LeadsTo.value value).reaches.trans (inside item (.member member) _ _ failed)
      | _ => cases refused
  | record record =>
      cases raw with
      | object members =>
          rcases
            exists_of_fillSlots_eq_error (map_eq_error_iff.mp (map_eq_error_iff.mp refused)) with
            ⟨field, declared, unfilled⟩
          rcases exists_of_coerceField_eq_error unfilled with ⟨key, item, member, failed⟩
          exact (LeadsTo.field declared).reaches.trans (inside item (.member member) _ _ failed)
      | _ => cases refused

/-- A name that coercion cannot find is one to which the schema refers. -/
theorem reaches_of_coerceAt
    (refused : coerceAt catalog path schema raw = .error (.unknownType name)) :
    Reaches catalog schema (.reference name) := by
  induction raw using Json.part_induction generalizing path schema with
  | step raw ih =>
      rw [coerceAt_eq] at refused
      split at refused
      · rename_i failed
        cases refused
        exact reaches_of_head_eq_error failed
      · rename_i found leads
        refine (reaches_of_head leads).trans (reaches_of_coerceHead ?_ refused)
        intro part isPart inner place failed
        exact ih part isPart failed

/-- Under a closed schema, coercion fails for the value: no name is missing. -/
theorem code_of_coerceAt_of_closed
    {failure : Failure}
    (closed : schema.Closed catalog)
    (refused : coerceAt catalog path schema raw = .error failure) :
    failure.code = 3002 ∨ failure.code = 3003 := by
  cases refusal_of_coerceAt refused with
  | @unknownType name absent =>
      rcases closed name (reaches_of_coerceAt refused) with ⟨named, resolved⟩
      rw [Catalog.resolve, absent] at resolved
      cases resolved
  | coercion => exact .inl rfl
  | unknownSymbol => exact .inr rfl

end Coercion

end ContractReplay
