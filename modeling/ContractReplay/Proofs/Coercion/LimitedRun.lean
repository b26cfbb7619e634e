import ContractReplay.Proofs.Coercion.Steps

/-!
# Coercion as calls that are counted

Here coercion is written as four functions that call each other: one for values, one for
record values, one that selects a variant of a union, and one that matches a value
against a shape.  A union and a reference are followed by further calls on the same
value.  Each function may nest only so many calls, and a run that needs more is cut off.
The limit is a count and nothing else: no function looks at it.
-/

namespace ContractReplay.Coercion

/-- What a limited run gives: nothing if it was cut off. -/
abbrev Answer (α : Type) := Option (Except Failure α)

/-! ## Loops over what calls give -/

/-- The values that calls give for the items of an array, from the item at an index on. -/
def itemsBy
    (answer : Path → Json → Answer Typed)
    (path : Path)
    (index : Nat) : List Json → Answer (List Typed)
  | [] => some (.ok [])
  | item :: later =>
    match answer (path.add (.index index)) item with
    | none => none
    | some (.error failure) => some (.error failure)
    | some (.ok value) => (itemsBy answer path (index + 1) later).map (·.map (value :: ·))

/-- The values that calls give for the members of an object, with their keys. -/
def entriesBy
    (answer : Path → Json → Answer Typed)
    (path : Path) : List (String × Json) → Answer (List (String × Typed))
  | [] => some (.ok [])
  | (key, item) :: later =>
    match answer (path.add (.key key)) item with
    | none => none
    | some (.error failure) => some (.error failure)
    | some (.ok value) => (entriesBy answer path later).map (·.map ((key, value) :: ·))

/-- The value that a call gives for a field, which has none where `null` or nothing is there. -/
def fieldBy
    (answer : Path → Schema → Json → Answer Typed)
    (path : Path)
    (members : Json.Members)
    (field : FieldSchema) : Answer (Option Typed) :=
  match members.fieldValue? field with
  | none => some (.ok none)
  | some item =>
    if item.isNull then some (.ok none)
    else (answer (path.add (.field field.wireName)) field.schema item).map (·.map some)

/-- The slots that calls fill for some fields. -/
def slotsBy
    (answer : FieldSchema → Answer (Option Typed)) : List FieldSchema → Answer (List Slot)
  | [] => some (.ok [])
  | field :: later =>
    match answer field with
    | none => none
    | some (.error failure) => some (.error failure)
    | some (.ok found) =>
      (slotsBy answer later).map (·.map (⟨field.fieldName, field.wireName, found⟩ :: ·))

/-- The first of some variants for which a call gives that it matches. -/
def variantBy
    (answer : Schema → Answer Bool) : List Schema → Answer (Option Schema)
  | [] => some (.ok none)
  | variant :: later =>
    match answer variant with
    | none => none
    | some (.error failure) => some (.error failure)
    | some (.ok true) => some (.ok (some variant))
    | some (.ok false) => variantBy answer later

/-! ## The four functions -/

mutual

/-- The typed value that a JSON value is under a schema. -/
def valueWithin
    (catalog : Catalog) : (limit : Nat) → Path → Schema → Json → Answer Typed
  | 0, _, _, _ => none
  | limit + 1, path, schema, raw =>
    match schema with
    | .scalar kind => some (coerceScalar path raw kind)
    | .record record => (recordWithin catalog limit path record raw).map (·.map .record)
    | .enum enumeration => some (coerceSymbol path raw enumeration)
    | .list element =>
      match raw with
      | .array items =>
        (itemsBy (fun place item => valueWithin catalog limit place element item) path 0
          items).map (·.map .list)
      | _ => some (.error (wrongKind path (Schema.list element).display "array" raw))
    | .map value =>
      match raw with
      | .object members =>
        (entriesBy (fun place item => valueWithin catalog limit place value item) path
          members).map (·.map .ofEntries)
      | _ => some (.error (wrongKind path (Schema.map value).display "object" raw))
    | .union variants =>
      match selectWithin catalog limit raw variants with
      | none => none
      | some (.error failure) => some (.error failure)
      | some (.ok none) =>
        some (.error (.coercion path (Schema.union variants).display (.noVariant raw.kind)))
      | some (.ok (some variant)) => valueWithin catalog limit path variant raw
    | .reference name =>
      match catalog.resolve name with
      | .error failure => some (.error failure)
      | .ok named => valueWithin catalog limit path named.toSchema raw

/-- The record value that a JSON value is under a record. -/
def recordWithin
    (catalog : Catalog) : (limit : Nat) → Path → RecordSchema → Json → Answer Record
  | 0, _, _, _ => none
  | limit + 1, path, record, raw =>
    match raw with
    | .object members =>
      (slotsBy
        (fieldBy (fun place schema item => valueWithin catalog limit place schema item) path
          members)
        record.fields).map (·.map fun slots => ⟨record.name, slots⟩)
    | _ => some (.error (wrongKind path (Schema.record record).display "object" raw))

/-- The first variant whose shape a JSON value has, if one has it. -/
def selectWithin
    (catalog : Catalog) : (limit : Nat) → Json → List Schema → Answer (Option Schema)
  | 0, _, _ => none
  | limit + 1, raw, variants =>
    variantBy (fun variant => shapeWithin catalog limit raw variant) variants

/-- Whether a JSON value has the shape of a schema. -/
def shapeWithin
    (catalog : Catalog) : (limit : Nat) → Json → Schema → Answer Bool
  | 0, _, _ => none
  | limit + 1, raw, schema =>
    match schema with
    | .scalar kind => some (.ok (scalarAccepts raw kind))
    | .record _ => some (.ok (raw.kind == .object))
    | .map _ => some (.ok (raw.kind == .object))
    | .enum enumeration => some (.ok (enumAccepts raw enumeration))
    | .list _ => some (.ok (raw.kind == .array))
    | .union variants => (selectWithin catalog limit raw variants).map (·.map Option.isSome)
    | .reference name =>
      match catalog.resolve name with
      | .error failure => some (.error failure)
      | .ok named => shapeWithin catalog limit raw named.toSchema

end

variable {catalog : Catalog} {raw : Json} {path : Path}

/-! ## What the loops give when every call gives an answer -/

theorem itemsBy_eq
    {answer : Path → Json → Answer Typed}
    {element : Schema}
    {index : Nat}
    {items : List Json}
    (answered :
      ∀ item ∈ items, ∀ place, answer place item = some (coerceAt catalog place element item)) :
    itemsBy answer path index items = some (coerceItems catalog path element index items) := by
  induction items generalizing index with
  | nil => rfl
  | cons first later ih =>
      rcases List.forall_mem_cons.mp answered with ⟨firstAnswered, laterAnswered⟩
      rw [itemsBy, firstAnswered, coerceItems, ih laterAnswered]
      cases coerceAt catalog (path.add (.index index)) element first <;> rfl

theorem entriesBy_eq
    {answer : Path → Json → Answer Typed}
    {schema : Schema}
    {members : List (String × Json)}
    (answered :
      ∀ member ∈ members, ∀ place,
        answer place member.2 = some (coerceAt catalog place schema member.2)) :
    entriesBy answer path members = some (coerceEntries catalog path schema members) := by
  induction members with
  | nil => rfl
  | cons first later ih =>
      rcases first with ⟨key, item⟩
      rcases List.forall_mem_cons.mp answered with ⟨firstAnswered, laterAnswered⟩
      rw [entriesBy, firstAnswered, coerceEntries, ih laterAnswered]
      cases coerceAt catalog (path.add (.key key)) schema item <;> rfl

theorem fieldBy_eq
    {answer : Path → Schema → Json → Answer Typed}
    {members : Json.Members}
    {field : FieldSchema}
    (answered :
      ∀ key item, (key, item) ∈ members → ∀ place,
        answer place field.schema item = some (coerceAt catalog place field.schema item)) :
    fieldBy answer path members field = some (coerceField catalog path members field) := by
  rw [fieldBy, coerceField_eq]
  cases held : members.fieldValue? field with
  | none => rfl
  | some item =>
      rcases exists_mem_of_fieldValue? held with ⟨key, -, member⟩
      simp only [coerceOptional, answered key item member]
      split_ifs <;> rfl

theorem slotsBy_eq
    {answer : FieldSchema → Answer (Option Typed)}
    {value : FieldSchema → Except Failure (Option Typed)}
    {fields : List FieldSchema}
    (answered : ∀ field ∈ fields, answer field = some (value field)) :
    slotsBy answer fields = some (fillSlots value fields) := by
  induction fields with
  | nil => rfl
  | cons field later ih =>
      rcases List.forall_mem_cons.mp answered with ⟨firstAnswered, laterAnswered⟩
      rw [slotsBy, firstAnswered, fillSlots, ih laterAnswered]
      cases value field <;> rfl

theorem variantBy_eq
    {answer : Schema → Answer Bool}
    {variants : List Schema}
    (answered : ∀ variant ∈ variants, answer variant = some (accepts catalog raw variant)) :
    variantBy answer variants = some (selectVariant catalog raw variants) := by
  induction variants with
  | nil => rfl
  | cons first later ih =>
      rcases List.forall_mem_cons.mp answered with ⟨firstAnswered, laterAnswered⟩
      rw [variantBy, firstAnswered, selectVariant, ih laterAnswered]
      rcases accepts catalog raw first with failure | accepted
      · rfl
      · cases accepted <;> rfl

end ContractReplay.Coercion
