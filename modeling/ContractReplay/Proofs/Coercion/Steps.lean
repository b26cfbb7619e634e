import ContractReplay.Coercion
import ContractReplay.Proofs.Schema.Reach
import ContractReplay.Proofs.Typed.Wire
import Mathlib.Data.List.Forall2

/-!
# What coercion does in one step

Coercion first follows unions and references to a schema of another kind, and then goes
into the value.  The lemmas say for each of the functions when it succeeds, in terms of
the items, the members and the fields that it went through; later proofs cite them and
open none of the functions again.
-/

namespace ContractReplay.Coercion

open Schema

variable {catalog : Catalog} {raw : Json} {path : Path}

theorem map_eq_ok_iff
    {α β : Type}
    {result : Except Failure α}
    {change : α → β}
    {value : β} :
    result.map change = .ok value ↔ ∃ found, result = .ok found ∧ change found = value := by
  cases result <;> simp [Except.map]

theorem exists_mem_zip
    {α β : Type}
    {lefts : List α}
    {rights : List β}
    (sameLength : lefts.length = rights.length)
    {right : β}
    (member : right ∈ rights) :
    ∃ left, (left, right) ∈ lefts.zip rights := by
  rw [← List.map_snd_zip (Nat.le_of_eq sameLength.symm)] at member
  rcases List.mem_map.mp member with ⟨⟨left, _⟩, paired, rfl⟩
  exact ⟨left, paired⟩

theorem eq_of_mem_zip
    {α β γ : Type}
    {leftName : α → γ}
    {rightName : β → γ}
    {lefts : List α}
    {rights : List β}
    (same : rights.map rightName = lefts.map leftName)
    {left : α}
    {right : β}
    (paired : (left, right) ∈ lefts.zip rights) :
    rightName right = leftName left := by
  induction lefts generalizing rights with
  | nil => cases paired
  | cons first later ih =>
      cases rights with
      | nil => cases paired
      | cons other others =>
          rw [List.map_cons, List.map_cons, List.cons.injEq] at same
          rcases List.mem_cons.mp paired with isFirst | inLater
          · cases isFirst
            exact same.1
          · exact ih same.2 inLater

/-! ## Shapes -/

/-- A head as a schema. -/
def Head.toSchema : Head → Schema
  | .scalar kind => .scalar kind
  | .record declared => .record declared
  | .enum enumeration => .enum enumeration
  | .list element => .list element
  | .map value => .map value

theorem Head.toSchema_ofNamed
    (named : Named) :
    (Head.ofNamed named).toSchema = named.toSchema := by
  cases named <;> rfl

theorem accepts_toSchema
    (named : Named) :
    accepts catalog raw named.toSchema = .ok (namedAccepts raw named) := by
  cases named <;> rfl

theorem accepts_reference
    {name : String}
    {named : Named}
    (resolved : catalog.resolve name = .ok named) :
    accepts catalog raw (.reference name) = accepts catalog raw named.toSchema := by
  rw [accepts_toSchema, accepts, resolved]

/-- No variant is accepted exactly when each of them is refused. -/
theorem anyAccepts_eq_false_iff
    {variants : List Schema} :
    anyAccepts catalog raw variants = .ok false ↔
      ∀ variant ∈ variants, accepts catalog raw variant = .ok false := by
  induction variants with
  | nil => simp [anyAccepts]
  | cons first later ih =>
      rw [anyAccepts, List.forall_mem_cons]
      split
      · rename_i failure failed
        simp [failed]
      · rename_i accepted
        simp [accepted]
      · rename_i refused
        simp [refused, ih]

/-- The first variant whose shape a JSON value has, if one has it. -/
def selectVariant (catalog : Catalog) (raw : Json) :
    List Schema → Except Failure (Option Schema)
  | [] => .ok none
  | variant :: later =>
    match accepts catalog raw variant with
    | .error failure => .error failure
    | .ok true => .ok (some variant)
    | .ok false => selectVariant catalog raw later

/--
Some variants are split at the first one that a value has the shape of: the earlier ones
refuse the value, and this one accepts it.
-/
structure FirstAccepting
    (catalog : Catalog)
    (raw : Json)
    (variants before : List Schema)
    (variant : Schema)
    (after : List Schema) : Prop where
  split : variants = before ++ variant :: after
  refused : ∀ earlier ∈ before, accepts catalog raw earlier = .ok false
  accepted : accepts catalog raw variant = .ok true

theorem FirstAccepting.mem
    {variants before after : List Schema}
    {variant : Schema}
    (first : FirstAccepting catalog raw variants before variant after) :
    variant ∈ variants := by
  rw [first.split]
  simp

theorem FirstAccepting.mem_before
    {variants before after : List Schema}
    {variant earlier : Schema}
    (first : FirstAccepting catalog raw variants before variant after)
    (member : earlier ∈ before) :
    earlier ∈ variants := by
  rw [first.split]
  simp [member]

theorem FirstAccepting.cons
    {variants before after : List Schema}
    {variant refusing : Schema}
    (first : FirstAccepting catalog raw variants before variant after)
    (refuses : accepts catalog raw refusing = .ok false) :
    FirstAccepting catalog raw (refusing :: variants) (refusing :: before) variant after where
  split := by
    rw [first.split]
    rfl
  refused := List.forall_mem_cons.mpr ⟨refuses, first.refused⟩
  accepted := first.accepted

/-- A variant is selected exactly when it is the first accepting one. -/
theorem selectVariant_eq_some_iff
    {variants : List Schema}
    {variant : Schema} :
    selectVariant catalog raw variants = .ok (some variant) ↔
      ∃ before after, FirstAccepting catalog raw variants before variant after := by
  constructor
  · intro selected
    induction variants with
    | nil => cases selected
    | cons first later ih =>
        rw [selectVariant] at selected
        split at selected
        · cases selected
        · rename_i accepted
          cases selected
          exact ⟨[], later, ⟨rfl, by simp, accepted⟩⟩
        · rename_i refused
          rcases ih selected with ⟨before, after, isFirst⟩
          exact ⟨first :: before, after, isFirst.cons refused⟩
  · rintro ⟨before, after, rfl, refused, accepted⟩
    induction before with
    | nil => rw [List.nil_append, selectVariant, accepted]
    | cons first later ih =>
        rcases List.forall_mem_cons.mp refused with ⟨firstRefused, laterRefused⟩
        rw [List.cons_append, selectVariant, firstRefused]
        exact ih laterRefused

theorem mem_of_selectVariant
    {variants : List Schema}
    {variant : Schema}
    (selected : selectVariant catalog raw variants = .ok (some variant)) :
    variant ∈ variants := by
  rcases selectVariant_eq_some_iff.mp selected with ⟨before, after, first⟩
  exact first.mem

/-- Some variant is accepted exactly when one is selected. -/
theorem anyAccepts_eq
    (variants : List Schema) :
    anyAccepts catalog raw variants = (selectVariant catalog raw variants).map Option.isSome := by
  induction variants with
  | nil => rfl
  | cons first later ih =>
      rw [anyAccepts, selectVariant]
      rcases accepts catalog raw first with failure | accepted
      · rfl
      · cases accepted with
        | true => rfl
        | false => exact ih

/-- Some variant is accepted exactly when there is a first one. -/
theorem anyAccepts_eq_true_iff
    {variants : List Schema} :
    anyAccepts catalog raw variants = .ok true ↔
      ∃ before variant after, FirstAccepting catalog raw variants before variant after := by
  rw [anyAccepts_eq, map_eq_ok_iff]
  constructor
  · rintro ⟨found, selected, isSome⟩
    rcases Option.isSome_iff_exists.mp isSome with ⟨variant, rfl⟩
    rcases selectVariant_eq_some_iff.mp selected with ⟨before, after, first⟩
    exact ⟨before, variant, after, first⟩
  · rintro ⟨before, variant, after, first⟩
    exact ⟨some variant, selectVariant_eq_some_iff.mpr ⟨before, after, first⟩, rfl⟩

/-- No variant is selected exactly when each of them is refused. -/
theorem selectVariant_eq_none_iff
    {variants : List Schema} :
    selectVariant catalog raw variants = .ok none ↔
      ∀ variant ∈ variants, accepts catalog raw variant = .ok false := by
  rw [← anyAccepts_eq_false_iff, anyAccepts_eq, map_eq_ok_iff]
  simp

/-! ## Unions and references -/

theorem headOfFirst_eq
    (variants : List Schema) :
    headOfFirst catalog raw path variants =
      match selectVariant catalog raw variants with
      | .error failure => .error failure
      | .ok none => .ok none
      | .ok (some variant) => (head catalog raw path variant).map some := by
  induction variants with
  | nil => rfl
  | cons first later ih =>
      rw [headOfFirst, selectVariant]
      rcases accepts catalog raw first with failure | accepted
      · rfl
      · cases accepted with
        | true => rfl
        | false => exact ih

/-- A union leads to the head of the variant that is selected. -/
theorem head_union_eq_ok_iff
    {variants : List Schema}
    {found : Head} :
    head catalog raw path (.union variants) = .ok found ↔
      ∃ variant,
        selectVariant catalog raw variants = .ok (some variant) ∧
          head catalog raw path variant = .ok found := by
  rw [head, headOfFirst_eq]
  rcases selectVariant catalog raw variants with failure | selected
  · simp
  · cases selected with
    | none => simp
    | some variant =>
        cases variantHead : head catalog raw path variant <;> simp [Except.map, variantHead]

theorem head_reference_eq_ok_iff
    {name : String}
    {found : Head} :
    head catalog raw path (.reference name) = .ok found ↔
      ∃ named, catalog.resolve name = .ok named ∧ Head.ofNamed named = found := by
  rw [head]
  split
  · rename_i named resolved
    simp [resolved]
  · rename_i failure unresolved
    simp [unresolved]

/-! ## Lists and maps -/

/-- The items of a coerced array were coerced one by one. -/
theorem forall₂_of_coerceItems
    {element : Schema}
    {index : Nat}
    {items : List Json}
    {values : List Typed}
    (coerced : coerceItems catalog path element index items = .ok values) :
    List.Forall₂ (fun item value => ∃ place, coerceAt catalog place element item = .ok value)
      items values := by
  induction items generalizing index values with
  | nil =>
      cases coerced
      exact .nil
  | cons first later ih =>
      rw [coerceItems] at coerced
      split at coerced
      · cases coerced
      · rename_i value firstCoerced
        rcases map_eq_ok_iff.mp coerced with ⟨others, laterCoerced, rfl⟩
        exact .cons ⟨_, firstCoerced⟩ (ih laterCoerced)

theorem coerceItems_of_forall₂
    {element : Schema}
    {index : Nat}
    {items : List Json}
    {values : List Typed}
    (coerced :
      List.Forall₂ (fun item value => ∀ place, coerceAt catalog place element item = .ok value)
        items values) :
    coerceItems catalog path element index items = .ok values := by
  induction coerced generalizing index with
  | nil => rfl
  | cons firstCoerced _ ih =>
      rw [coerceItems, firstCoerced]
      exact map_eq_ok_iff.mpr ⟨_, ih, rfl⟩

/-- The members of a coerced object were coerced one by one, and kept their keys. -/
theorem forall₂_of_coerceEntries
    {schema : Schema}
    {members : List (String × Json)}
    {pairs : List (String × Typed)}
    (coerced : coerceEntries catalog path schema members = .ok pairs) :
    List.Forall₂
      (fun member pair =>
        pair.1 = member.1 ∧ ∃ place, coerceAt catalog place schema member.2 = .ok pair.2)
      members pairs := by
  induction members generalizing pairs with
  | nil =>
      cases coerced
      exact .nil
  | cons first later ih =>
      rcases first with ⟨key, item⟩
      rw [coerceEntries] at coerced
      split at coerced
      · cases coerced
      · rename_i value firstCoerced
        rcases map_eq_ok_iff.mp coerced with ⟨others, laterCoerced, rfl⟩
        exact .cons ⟨rfl, _, firstCoerced⟩ (ih laterCoerced)

theorem coerceEntries_of_forall₂
    {schema : Schema}
    {members : List (String × Json)}
    {pairs : List (String × Typed)}
    (coerced :
      List.Forall₂
        (fun member pair =>
          pair.1 = member.1 ∧ ∀ place, coerceAt catalog place schema member.2 = .ok pair.2)
        members pairs) :
    coerceEntries catalog path schema members = .ok pairs := by
  induction coerced with
  | nil => rfl
  | cons first _ ih =>
      rcases first with ⟨sameKey, firstCoerced⟩
      rw [coerceEntries, firstCoerced, ← sameKey]
      exact map_eq_ok_iff.mpr ⟨_, ih, rfl⟩

/-! ## Records -/

/-- That slots have the names of some fields, in the order of the fields. -/
def SlotsFor (fields : List FieldSchema) (slots : List Slot) : Prop :=
  slots.map (fun slot => (slot.fieldName, slot.wireName)) =
    fields.map fun field => (field.fieldName, field.wireName)

theorem SlotsFor.length_eq
    {fields : List FieldSchema}
    {slots : List Slot}
    (names : SlotsFor fields slots) :
    fields.length = slots.length := by
  simpa using (congrArg List.length names).symm

theorem SlotsFor.wireNames_eq
    {fields : List FieldSchema}
    {slots : List Slot}
    (names : SlotsFor fields slots) :
    slots.map (·.wireName) = fields.map (·.wireName) := by
  simpa [List.map_map, Function.comp_def] using congrArg (List.map Prod.snd) names

theorem SlotsFor.fieldNames_eq
    {fields : List FieldSchema}
    {slots : List Slot}
    (names : SlotsFor fields slots) :
    slots.map (·.fieldName) = fields.map (·.fieldName) := by
  simpa [List.map_map, Function.comp_def] using congrArg (List.map Prod.fst) names

/-- Slots are filled with what is found for each field, in the order of the fields. -/
theorem fillSlots_eq_ok_iff
    {value : FieldSchema → Except Failure (Option Typed)}
    {fields : List FieldSchema}
    {slots : List Slot} :
    fillSlots value fields = .ok slots ↔
      List.Forall₂
        (fun field slot =>
          ∃ found, value field = .ok found ∧ slot = ⟨field.fieldName, field.wireName, found⟩)
        fields slots := by
  induction fields generalizing slots with
  | nil => simp [fillSlots, List.forall₂_nil_left_iff, eq_comm]
  | cons field later ih =>
      rw [fillSlots, List.forall₂_cons_left_iff]
      cases fieldValue : value field with
      | error failure => simp
      | ok found =>
          cases laterFilled : fillSlots value later with
          | error failure =>
              rw [laterFilled] at ih
              constructor
              · intro filled
                cases filled
              · rintro ⟨slot, others, -, othersFilled, -⟩
                cases ih.mpr othersFilled
          | ok others =>
              rw [laterFilled] at ih
              constructor
              · intro filled
                cases filled
                exact ⟨_, _, ⟨found, rfl, rfl⟩, ih.mp rfl, rfl⟩
              · rintro ⟨slot, rest, ⟨content, isFound, rfl⟩, restFilled, rfl⟩
                cases isFound
                cases ih.mpr restFilled
                rfl

theorem slotsFor_of_fillSlots
    {value : FieldSchema → Except Failure (Option Typed)}
    {fields : List FieldSchema}
    {slots : List Slot}
    (filled : fillSlots value fields = .ok slots) :
    SlotsFor fields slots := by
  rw [SlotsFor]
  have related := fillSlots_eq_ok_iff.mp filled
  clear filled
  induction related with
  | nil => rfl
  | cons first _ ih =>
      rcases first with ⟨found, -, rfl⟩
      rw [List.map_cons, List.map_cons, ih]

theorem exists_slot_of_fillSlots
    {value : FieldSchema → Except Failure (Option Typed)}
    {fields : List FieldSchema}
    {slots : List Slot}
    (filled : fillSlots value fields = .ok slots)
    {field : FieldSchema}
    (declared : field ∈ fields) :
    ∃ found, value field = .ok found ∧ ⟨field.fieldName, field.wireName, found⟩ ∈ slots := by
  have related := fillSlots_eq_ok_iff.mp filled
  clear filled
  induction related with
  | nil => cases declared
  | cons first _ ih =>
      rcases List.mem_cons.mp declared with rfl | inLater
      · rcases first with ⟨found, isFound, rfl⟩
        exact ⟨found, isFound, List.mem_cons_self⟩
      · rcases ih inLater with ⟨found, isFound, member⟩
        exact ⟨found, isFound, List.mem_cons_of_mem _ member⟩

end ContractReplay.Coercion

namespace ContractReplay.Json.Members

/-- The value under the first candidate key of a field that an object has. -/
def fieldValue? (members : Members) (field : FieldSchema) : Option Json :=
  field.candidates.findSome? fun key => get? key members

end ContractReplay.Json.Members

namespace ContractReplay.Coercion

variable {catalog : Catalog} {path : Path}

theorem findSome?_get?_eq
    (keys : List String)
    (members : Json.Members) :
    keys.findSome? (fun key => Json.Members.get? key members) =
      (keys.find? members.hasKey).bind fun key => Json.Members.get? key members := by
  induction keys with
  | nil => rfl
  | cons key later ih =>
      cases found : Json.Members.get? key members with
      | none =>
          have absent : members.hasKey key = false := by
            rw [← Bool.not_eq_true, Json.Members.hasKey_iff]
            exact Json.Members.get?_eq_none_iff.mp found
          rw [List.findSome?_cons, found, List.find?_cons, absent]
          exact ih
      | some value =>
          have present : members.hasKey key = true := by
            rw [Json.Members.hasKey_iff]
            exact Json.Members.mem_keys_of_mem (Json.Members.mem_of_get? found)
          rw [List.findSome?_cons, found, List.find?_cons, present]
          exact found.symm

theorem exists_mem_of_fieldValue?
    {members : Json.Members}
    {field : FieldSchema}
    {item : Json}
    (found : members.fieldValue? field = some item) :
    ∃ key ∈ field.candidates, (key, item) ∈ members := by
  rcases List.exists_of_findSome?_eq_some found with ⟨key, candidate, isItem⟩
  exact ⟨key, candidate, Json.Members.mem_of_get? isItem⟩

/-- The member of a key is coerced unless it is `null`. -/
theorem coerceMember_eq
    (schema : Schema)
    (key : String)
    (members : Json.Members) :
    coerceMember catalog path schema key members =
      match Json.Members.get? key members with
      | none => .ok none
      | some item => coerceOptional catalog path schema item := by
  induction members with
  | nil => rfl
  | cons first later ih =>
      rcases first with ⟨name, item⟩
      rw [coerceMember, Json.Members.get?]
      split_ifs with same isNull
      · simp [coerceOptional, isNull]
      · simp [coerceOptional, isNull]
      · exact ih

/-- A field is filled with the value under its first candidate key, unless that is `null`. -/
theorem coerceField_eq
    (members : Json.Members)
    (field : FieldSchema) :
    coerceField catalog path members field =
      match members.fieldValue? field with
      | none => .ok none
      | some item =>
        coerceOptional catalog (path.add (.field field.wireName)) field.schema item := by
  rw [coerceField, Json.Members.fieldValue?, findSome?_get?_eq, memberKey?]
  cases found : field.candidates.find? members.hasKey with
  | none => rfl
  | some key => exact coerceMember_eq _ _ _

theorem coerceOptional_of_isNull
    {schema : Schema}
    {item : Json}
    (isNull : item.isNull = true) :
    coerceOptional catalog path schema item = .ok none := by
  rw [coerceOptional, if_pos isNull]

theorem coerceOptional_eq_ok_iff
    {schema : Schema}
    {item : Json}
    (notNull : item.isNull = false)
    {found : Option Typed} :
    coerceOptional catalog path schema item = .ok found ↔
      ∃ value, coerceAt catalog path schema item = .ok value ∧ found = some value := by
  rw [coerceOptional, notNull]
  show (coerceAt catalog path schema item).map some = .ok found ↔ _
  rw [map_eq_ok_iff]
  simp only [eq_comm]

/--
A field is unset where no candidate key is there or the first one holds `null`; otherwise
it is set to the typed value under that key.
-/
theorem coerceField_eq_ok_iff
    {members : Json.Members}
    {field : FieldSchema}
    {found : Option Typed} :
    coerceField catalog path members field = .ok found ↔
      (found = none ∧
          (members.fieldValue? field = none ∨ members.fieldValue? field = some .null)) ∨
        ∃ item value,
          members.fieldValue? field = some item ∧
            item ≠ .null ∧
              coerceAt catalog (path.add (.field field.wireName)) field.schema item = .ok value ∧
                found = some value := by
  rw [coerceField_eq]
  cases held : members.fieldValue? field with
  | none => simp [eq_comm]
  | some item =>
      by_cases isNull : item = .null
      · subst isNull
        have skipped :
            coerceOptional catalog (path.add (.field field.wireName)) field.schema .null =
              .ok none :=
          coerceOptional_of_isNull rfl
        simp [skipped, eq_comm]
      · have notNull : item.isNull = false := by
          rw [← Bool.not_eq_true, Json.isNull_iff]
          exact isNull
        simp [coerceOptional_eq_ok_iff notNull, isNull]

/-! ## The step into a value -/

/-- The typed value that a JSON value is under a head. -/
def coerceHead (catalog : Catalog) (path : Path) (raw : Json) : Head → Except Failure Typed
  | .scalar kind => coerceScalar path raw kind
  | .enum enumeration => coerceSymbol path raw enumeration
  | .list element =>
    match raw with
    | .array items => (coerceItems catalog path element 0 items).map .list
    | _ => .error (wrongKind path (Schema.list element).display "array" raw)
  | .map value =>
    match raw with
    | .object members => (coerceEntries catalog path value members).map .ofEntries
    | _ => .error (wrongKind path (Schema.map value).display "object" raw)
  | .record record => (coerceRecordAt catalog path record raw).map .record

/-- Coercion goes into the value under the head of the schema. -/
theorem coerceAt_eq
    (schema : Schema)
    (raw : Json) :
    coerceAt catalog path schema raw =
      match head catalog raw path schema with
      | .error failure => .error failure
      | .ok found => coerceHead catalog path raw found := by
  cases leads : head catalog raw path schema with
  | error failure =>
      cases raw <;> simp only [coerceAt, leads]
  | ok found =>
      cases found with
      | record record =>
          have recordCase := coerceAt_record catalog path record raw
          simp only [coerceHead, ← recordCase]
          cases raw <;> simp only [coerceAt, leads, head]
      | _ => cases raw <;> simp only [coerceAt, leads, coerceHead]

theorem coerceAt_toSchema
    (found : Head)
    (raw : Json) :
    coerceAt catalog path found.toSchema raw = coerceHead catalog path raw found := by
  rw [coerceAt_eq]
  cases found <;> rfl

theorem coerceAt_eq_ok_iff
    {schema : Schema}
    {raw : Json}
    {value : Typed} :
    coerceAt catalog path schema raw = .ok value ↔
      ∃ found, head catalog raw path schema = .ok found ∧
        coerceHead catalog path raw found = .ok value := by
  rw [coerceAt_eq]
  cases head catalog raw path schema <;> simp

/-- A value is coerced under a reference by what is registered under its name. -/
theorem coerceAt_reference
    (name : String)
    (raw : Json) :
    coerceAt catalog path (.reference name) raw =
      match catalog.resolve name with
      | .error failure => .error failure
      | .ok named => coerceAt catalog path named.toSchema raw := by
  rw [coerceAt_eq, head]
  cases catalog.resolve name with
  | error failure => rfl
  | ok named =>
      simp only [coerceAt_eq]
      cases named <;> rfl

/-- A value is coerced under a union by the variant that is selected. -/
theorem coerceAt_union
    (variants : List Schema)
    (raw : Json) :
    coerceAt catalog path (.union variants) raw =
      match selectVariant catalog raw variants with
      | .error failure => .error failure
      | .ok none =>
        .error (.coercion path (Schema.union variants).display (.noVariant raw.kind))
      | .ok (some variant) => coerceAt catalog path variant raw := by
  rw [coerceAt_eq, head, headOfFirst_eq]
  rcases selectVariant catalog raw variants with failure | selected
  · rfl
  · cases selected with
    | none => rfl
    | some variant =>
        simp only [coerceAt_eq]
        cases head catalog raw path variant <;> rfl

/-- Under a union, the first variant that accepts a value is the one that it is coerced by. -/
theorem coerceAt_union_of_first
    {variants before after : List Schema}
    {variant : Schema}
    {raw : Json}
    (first : FirstAccepting catalog raw variants before variant after) :
    coerceAt catalog path (.union variants) raw = coerceAt catalog path variant raw := by
  rw [coerceAt_union, selectVariant_eq_some_iff.mpr ⟨before, after, first⟩]

end ContractReplay.Coercion
