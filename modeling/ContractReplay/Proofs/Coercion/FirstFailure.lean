import ContractReplay.Proofs.Coercion.Refusal
import ContractReplay.Proofs.Coercion.Reordering

/-!
# The first place that does not fit

Where a value stands has no part in what it is coerced to; only failures tell of it.  A failure
tells of the first place inside the value that does not fit.  Every step on the way there goes to
a field, an item or an entry past earlier ones that are coerced; references and unions on the way
are followed without a step.
-/

namespace ContractReplay

namespace Path

/-- The place that one comes to from a place through some steps. -/
def followedBy (path : Path) (steps : List Step) : Path :=
  ⟨path.root, path.steps ++ steps⟩

theorem followedBy_nil
    (path : Path) :
    path.followedBy [] = path := by
  rw [followedBy, List.append_nil]

theorem followedBy_cons
    (path : Path)
    (step : Step)
    (later : List Step) :
    path.followedBy (step :: later) = (path.add step).followedBy later := by
  rw [followedBy, followedBy, add, List.append_cons]

theorem text_add
    (path : Path)
    (step : Step) :
    (path.add step).text = path.text ++ step.text := by
  rw [text, text, add, List.foldl_append]
  rfl

/-- The text of a place goes on with the texts of the steps. -/
theorem text_followedBy
    (path : Path)
    (steps : List Step) :
    (path.followedBy steps).text = path.text ++ String.join (steps.map Step.text) := by
  induction steps generalizing path with
  | nil => simp [followedBy_nil, String.join]
  | cons step later ih =>
      rw [followedBy_cons, ih, text_add, List.map_cons, String.join_cons, String.append_assoc]

end Path

/-- The place that a failure tells of, if it tells of one. -/
def Failure.place? : Failure → Option Path
  | .coercion path _ _ => some path
  | .unknownSymbol path _ _ => some path
  | _ => none

namespace Coercion

variable {catalog : Catalog} {raw : Json} {path place : Path} {failure : Failure}

/-! ## The same value anywhere -/

/-- That what a value is coerced to does not depend on where it stands. -/
def SameAnywhere (catalog : Catalog) (raw : Json) : Prop :=
  ∀ path schema value, coerceAt catalog path schema raw = .ok value →
    ∀ place, coerceAt catalog place schema raw = .ok value

theorem coerceSymbol_anywhere
    {enumeration : EnumSchema}
    {value : Typed}
    (coerced : coerceSymbol path raw enumeration = .ok value)
    (place : Path) :
    coerceSymbol place raw enumeration = .ok value := by
  cases raw with
  | string symbol =>
      rw [coerceSymbol] at coerced ⊢
      split_ifs at coerced ⊢
      exact coerced
  | _ => cases coerced

theorem coerceField_anywhere
    {members : Json.Members}
    (inside : ∀ key item, (key, item) ∈ members → SameAnywhere catalog item)
    {field : FieldSchema}
    {found : Option Typed}
    (coerced : coerceField catalog path members field = .ok found)
    (place : Path) :
    coerceField catalog place members field = .ok found := by
  refine coerceField_eq_ok_iff.mpr ((coerceField_eq_ok_iff.mp coerced).imp_right ?_)
  rintro ⟨item, value, held, notNull, itemCoerced, rfl⟩
  rcases exists_mem_of_fieldValue? held with ⟨key, -, member⟩
  exact ⟨item, value, held, notNull, inside key item member _ _ _ itemCoerced _, rfl⟩

theorem coerceHead_anywhere
    {found : Head}
    (inside : ∀ part, Json.PartOf part raw → SameAnywhere catalog part)
    {value : Typed}
    (coerced : coerceHead catalog path raw found = .ok value)
    (place : Path) :
    coerceHead catalog place raw found = .ok value := by
  cases found with
  | scalar kind => exact coerceScalar_anywhere coerced place
  | enum enumeration => exact coerceSymbol_anywhere coerced place
  | list element =>
      cases raw with
      | array items =>
          rcases map_eq_ok_iff.mp coerced with ⟨values, itemsCoerced, rfl⟩
          refine map_eq_ok_iff.mpr ⟨values, coerceItems_of_forall₂ ?_, rfl⟩
          have each := forall₂_of_coerceItems itemsCoerced
          refine ((List.forall₂_and_left _ _).mpr ⟨fun _ member => member, each⟩).imp ?_
          rintro item value ⟨member, earlier, itemCoerced⟩
          exact inside item (.item member) earlier element value itemCoerced
      | _ => cases coerced
  | map schema =>
      cases raw with
      | object members =>
          rcases map_eq_ok_iff.mp coerced with ⟨pairs, entriesCoerced, rfl⟩
          refine map_eq_ok_iff.mpr ⟨pairs, coerceEntries_of_forall₂ ?_, rfl⟩
          have each := forall₂_of_coerceEntries entriesCoerced
          refine ((List.forall₂_and_left _ _).mpr ⟨fun _ member => member, each⟩).imp ?_
          rintro ⟨key, item⟩ pair ⟨member, sameKey, earlier, itemCoerced⟩
          exact ⟨sameKey, inside item (.member member) earlier schema pair.2 itemCoerced⟩
      | _ => cases coerced
  | record record =>
      cases raw with
      | object members =>
          rcases map_eq_ok_iff.mp coerced with ⟨value, recordCoerced, rfl⟩
          rcases map_eq_ok_iff.mp recordCoerced with ⟨slots, filled, rfl⟩
          refine map_eq_ok_iff.mpr ⟨_, map_eq_ok_iff.mpr ⟨slots, ?_, rfl⟩, rfl⟩
          refine fillSlots_eq_ok_iff.mpr ((fillSlots_eq_ok_iff.mp filled).imp ?_)
          rintro field slot ⟨found, fieldCoerced, rfl⟩
          have insideMembers : ∀ key item, (key, item) ∈ members → SameAnywhere catalog item :=
            fun key item member => inside item (.member member)
          exact ⟨found, coerceField_anywhere insideMembers fieldCoerced place, rfl⟩
      | _ => cases coerced

/-- What a value is coerced to does not depend on where it stands. -/
theorem sameAnywhere
    (catalog : Catalog)
    (raw : Json) :
    SameAnywhere catalog raw := by
  induction raw using Json.part_induction with
  | step raw inside =>
      intro path schema value coerced place
      rcases coerceAt_eq_ok_iff.mp coerced with ⟨found, leads, headCoerced⟩
      exact
        coerceAt_eq_ok_iff.mpr
          ⟨found, head_of_reordered (.refl raw) leads place,
            coerceHead_anywhere inside headCoerced place⟩

/-- That a value is coerced under a schema, wherever it stands. -/
def Coerces (catalog : Catalog) (schema : Schema) (raw : Json) : Prop :=
  ∃ value, ∀ path, coerceAt catalog path schema raw = .ok value

/-- That a field is filled from an object or left unset, wherever the object stands. -/
def Fills (catalog : Catalog) (members : Json.Members) (field : FieldSchema) : Prop :=
  ∃ found, ∀ path, coerceField catalog path members field = .ok found

theorem coerces_iff
    (path : Path)
    {schema : Schema} :
    Coerces catalog schema raw ↔ ∃ value, coerceAt catalog path schema raw = .ok value := by
  constructor
  · rintro ⟨value, coerced⟩
    exact ⟨value, coerced path⟩
  · rintro ⟨value, coerced⟩
    exact ⟨value, sameAnywhere catalog raw path schema value coerced⟩

theorem fills_iff
    (path : Path)
    {members : Json.Members}
    {field : FieldSchema} :
    Fills catalog members field ↔ ∃ found, coerceField catalog path members field = .ok found := by
  constructor
  · rintro ⟨found, filled⟩
    exact ⟨found, filled path⟩
  · rintro ⟨found, filled⟩
    exact ⟨found, coerceField_anywhere (fun _ item _ => sameAnywhere catalog item) filled⟩

/-! ## The first item, entry or field that fails -/

theorem coerceItems_eq_error_iff
    {element : Schema}
    {index : Nat}
    {items : List Json} :
    coerceItems catalog path element index items = .error failure ↔
      ∃ before item after,
        items = before ++ item :: after ∧
          (∀ earlier ∈ before, Coerces catalog element earlier) ∧
            coerceAt catalog (path.add (.index (index + before.length))) element item =
              .error failure := by
  refine
    scan_fails_iff (Coerces catalog element)
      (fun index item => coerceAt catalog (path.add (.index index)) element item = .error failure)
      (fun index items => coerceItems catalog path element index items = .error failure)
      (fun _ => nofun) ?_ index items
  intro index first later
  rw [coerceItems, coerces_iff (path.add (.index index))]
  cases coerceAt catalog (path.add (.index index)) element first with
  | error earlier => simp
  | ok value => simp [map_eq_error_iff]

theorem coerceEntries_eq_error_iff
    {schema : Schema}
    {members : List (String × Json)} :
    coerceEntries catalog path schema members = .error failure ↔
      ∃ before entry after,
        members = before ++ entry :: after ∧
          (∀ earlier ∈ before, Coerces catalog schema earlier.2) ∧
            coerceAt catalog (path.add (.key entry.1)) schema entry.2 = .error failure := by
  refine
    scan_fails_iff (fun entry : String × Json => Coerces catalog schema entry.2)
      (fun _ entry => coerceAt catalog (path.add (.key entry.1)) schema entry.2 = .error failure)
      (fun _ members => coerceEntries catalog path schema members = .error failure)
      (fun _ => nofun) ?_ 0 members
  rintro - ⟨key, item⟩ later
  rw [coerceEntries, coerces_iff (path.add (.key key))]
  cases coerceAt catalog (path.add (.key key)) schema item with
  | error earlier => simp
  | ok value => simp [map_eq_error_iff]

theorem fillSlots_eq_error_iff
    {members : Json.Members}
    {fields : List FieldSchema} :
    fillSlots (coerceField catalog path members) fields = .error failure ↔
      ∃ before field after,
        fields = before ++ field :: after ∧
          (∀ earlier ∈ before, Fills catalog members earlier) ∧
            coerceField catalog path members field = .error failure := by
  refine
    scan_fails_iff (Fills catalog members)
      (fun _ field => coerceField catalog path members field = .error failure)
      (fun _ fields => fillSlots (coerceField catalog path members) fields = .error failure)
      (fun _ => nofun) ?_ 0 fields
  intro _ field later
  rw [fillSlots, fills_iff path]
  cases coerceField catalog path members field with
  | error earlier => simp
  | ok found => simp [map_eq_error_iff]

/-- A field fails with the value that it holds, which is not `null`. -/
theorem coerceField_eq_error_iff
    {members : Json.Members}
    {field : FieldSchema} :
    coerceField catalog path members field = .error failure ↔
      ∃ item, members.fieldValue? field = some item ∧ item ≠ .null ∧
        coerceAt catalog (path.add (.field field.wireName)) field.schema item =
          .error failure := by
  rw [coerceField_eq]
  cases members.fieldValue? field with
  | none => simp
  | some item => simp [coerceOptional_eq_error_iff]

/-! ## The way to the first failure -/

/--
That some steps lead from a value and its schema to one inside and its own.  A reference is
followed to what is registered under its name and a union to its first accepting variant, both
without a step.  A step goes to an item, an entry or a field that all earlier ones are coerced
before.
-/
inductive Descends (catalog : Catalog) : Schema → Json → List Step → Schema → Json → Prop where
  | here (schema : Schema) (raw : Json) :
      Descends catalog schema raw [] schema raw
  | reference
      {name : String}
      {named : Named}
      {inner : Schema}
      {raw part : Json}
      {steps : List Step}
      (resolved : catalog.resolve name = .ok named)
      (rest : Descends catalog named.toSchema raw steps inner part) :
      Descends catalog (.reference name) raw steps inner part
  | variant
      {variants before after : List Schema}
      {variant inner : Schema}
      {raw part : Json}
      {steps : List Step}
      (first : FirstAccepting catalog raw variants before variant after)
      (rest : Descends catalog variant raw steps inner part) :
      Descends catalog (.union variants) raw steps inner part
  | item
      {element inner : Schema}
      {before after : List Json}
      {item part : Json}
      {steps : List Step}
      (earlierCoerced : ∀ earlier ∈ before, Coerces catalog element earlier)
      (rest : Descends catalog element item steps inner part) :
      Descends catalog (.list element) (.array (before ++ item :: after))
        (.index before.length :: steps) inner part
  | entry
      {value inner : Schema}
      {before after : List (String × Json)}
      {key : String}
      {item part : Json}
      {steps : List Step}
      (earlierCoerced : ∀ earlier ∈ before, Coerces catalog value earlier.2)
      (rest : Descends catalog value item steps inner part) :
      Descends catalog (.map value) (.object (before ++ (key, item) :: after))
        (.key key :: steps) inner part
  | field
      {record : RecordSchema}
      {before after : List FieldSchema}
      {field : FieldSchema}
      {inner : Schema}
      {members : Json.Members}
      {item part : Json}
      {steps : List Step}
      (declared : record.fields = before ++ field :: after)
      (earlierFilled : ∀ earlier ∈ before, Fills catalog members earlier)
      (held : members.fieldValue? field = some item)
      (notNull : item ≠ .null)
      (rest : Descends catalog field.schema item steps inner part) :
      Descends catalog (.record record) (.object members)
        (.field field.wireName :: steps) inner part

/--
That a value at a place does not fit a schema by itself, whatever is inside it, and the failure
that tells so.
-/
inductive Misfit (catalog : Catalog) (place : Path) (raw : Json) : Schema → Failure → Prop where
  | scalar
      {kind : Scalar}
      {failure : Failure}
      (refused : coerceScalar place raw kind = .error failure) :
      Misfit catalog place raw (.scalar kind) failure
  | symbol
      {enumeration : EnumSchema}
      {failure : Failure}
      (refused : coerceSymbol place raw enumeration = .error failure) :
      Misfit catalog place raw (.enum enumeration) failure
  | noArray
      (element : Schema)
      (kind : raw.kind ≠ .array) :
      Misfit catalog place raw (.list element)
        (wrongKind place (Schema.list element).display "array" raw)
  | noMap
      (value : Schema)
      (kind : raw.kind ≠ .object) :
      Misfit catalog place raw (.map value)
        (wrongKind place (Schema.map value).display "object" raw)
  | noRecord
      (record : RecordSchema)
      (kind : raw.kind ≠ .object) :
      Misfit catalog place raw (.record record)
        (wrongKind place (Schema.record record).display "object" raw)
  | noVariant
      {variants : List Schema}
      (refused : ∀ variant ∈ variants, accepts catalog raw variant = .ok false) :
      Misfit catalog place raw (.union variants)
        (.coercion place (Schema.union variants).display (.noVariant raw.kind))

variable {schema inner : Schema} {part : Json} {steps : List Step}

theorem Misfit.place?_eq
    (misfit : Misfit catalog place raw schema failure) :
    failure.place? = some place := by
  cases misfit with
  | scalar refused =>
      unfold coerceScalar at refused
      (repeat' split at refused) <;> cases refused <;> rfl
  | symbol refused =>
      unfold coerceSymbol at refused
      (repeat' split at refused) <;> cases refused <;> rfl
  | _ => rfl

theorem Misfit.coerceAt_eq_error
    (misfit : Misfit catalog path raw schema failure) :
    coerceAt catalog path schema raw = .error failure := by
  cases misfit with
  | @scalar kind _ refused => exact (coerceAt_toSchema (.scalar kind) raw).trans refused
  | @symbol enumeration _ refused =>
      exact (coerceAt_toSchema (.enum enumeration) raw).trans refused
  | noArray element kind =>
      cases raw with
      | array items => exact absurd rfl kind
      | _ => rfl
  | noMap value kind =>
      cases raw with
      | object members => exact absurd rfl kind
      | _ => rfl
  | noRecord record kind =>
      cases raw with
      | object members => exact absurd rfl kind
      | _ => rfl
  | noVariant refused => rw [coerceAt_union, selectVariant_eq_none_iff.mpr refused]

/-- What does not fit at the end of the way makes the coercion of the whole fail. -/
theorem Descends.coerceAt_eq_error
    (descends : Descends catalog schema raw steps inner part)
    (misfit : Misfit catalog (path.followedBy steps) part inner failure) :
    coerceAt catalog path schema raw = .error failure := by
  induction descends generalizing path with
  | here =>
      rw [Path.followedBy_nil] at misfit
      exact misfit.coerceAt_eq_error
  | reference resolved _ ih =>
      rw [coerceAt_reference, resolved]
      exact ih misfit
  | variant first _ ih =>
      rw [coerceAt_union_of_first first]
      exact ih misfit
  | @item element _ before after item _ _ earlierCoerced _ ih =>
      rw [Path.followedBy_cons] at misfit
      have itemsFail :
          coerceItems catalog path element 0 (before ++ item :: after) = .error failure := by
        refine coerceItems_eq_error_iff.mpr ⟨before, item, after, rfl, earlierCoerced, ?_⟩
        rw [Nat.zero_add]
        exact ih misfit
      exact (coerceAt_toSchema (.list element) _).trans (map_eq_error_iff.mpr itemsFail)
  | @entry value _ before after key item _ _ earlierCoerced _ ih =>
      rw [Path.followedBy_cons] at misfit
      have entriesFail :
          coerceEntries catalog path value (before ++ (key, item) :: after) = .error failure :=
        coerceEntries_eq_error_iff.mpr
          ⟨before, (key, item), after, rfl, earlierCoerced, ih misfit⟩
      exact (coerceAt_toSchema (.map value) _).trans (map_eq_error_iff.mpr entriesFail)
  | @field record before after field _ members item _ _ declared earlierFilled held notNull _ ih =>
      rw [Path.followedBy_cons] at misfit
      rw [coerceAt_record, map_eq_error_iff, coerceRecordAt, map_eq_error_iff,
        fillSlots_eq_error_iff]
      refine ⟨before, field, after, declared, earlierFilled, ?_⟩
      exact coerceField_eq_error_iff.mpr ⟨item, held, notNull, ih misfit⟩

/-- That a failure is of the first place inside a value that does not fit. -/
def FailsFirst
    (catalog : Catalog)
    (path : Path)
    (schema : Schema)
    (raw : Json)
    (failure : Failure) : Prop :=
  ∃ steps inner part,
    Descends catalog schema raw steps inner part ∧
      Misfit catalog (path.followedBy steps) part inner failure

namespace FailsFirst

theorem here
    (misfit : Misfit catalog path raw schema failure) :
    FailsFirst catalog path schema raw failure := by
  refine ⟨[], schema, raw, .here schema raw, ?_⟩
  rwa [Path.followedBy_nil]

/-- The way to a value inside goes on from there. -/
theorem of_step
    {step : Step}
    {item : Json}
    {element : Schema}
    (goesOn :
      ∀ steps inner part, Descends catalog element item steps inner part →
        Descends catalog schema raw (step :: steps) inner part)
    (fails : FailsFirst catalog (path.add step) element item failure) :
    FailsFirst catalog path schema raw failure := by
  rcases fails with ⟨steps, inner, part, descends, misfit⟩
  refine ⟨step :: steps, inner, part, goesOn steps inner part descends, ?_⟩
  rwa [Path.followedBy_cons]

theorem reference
    {name : String}
    {named : Named}
    (resolved : catalog.resolve name = .ok named)
    (fails : FailsFirst catalog path named.toSchema raw failure) :
    FailsFirst catalog path (.reference name) raw failure := by
  rcases fails with ⟨steps, inner, part, descends, misfit⟩
  exact ⟨steps, inner, part, .reference resolved descends, misfit⟩

theorem variant
    {variants before after : List Schema}
    {variant : Schema}
    (first : FirstAccepting catalog raw variants before variant after)
    (fails : FailsFirst catalog path variant raw failure) :
    FailsFirst catalog path (.union variants) raw failure := by
  rcases fails with ⟨steps, inner, part, descends, misfit⟩
  exact ⟨steps, inner, part, .variant first descends, misfit⟩

end FailsFirst

/-- Under a head, the first failure is of the value itself or of a part of it. -/
theorem failsFirst_of_head
    (found : Head)
    (inside :
      ∀ part, Json.PartOf part raw → ∀ path schema,
        coerceAt catalog path schema part = .error failure →
          FailsFirst catalog path schema part failure)
    (refused : coerceAt catalog path found.toSchema raw = .error failure) :
    FailsFirst catalog path found.toSchema raw failure := by
  rw [coerceAt_toSchema] at refused
  cases found with
  | scalar kind => exact .here (.scalar refused)
  | enum enumeration => exact .here (.symbol refused)
  | list element =>
      cases raw with
      | array items =>
          rcases coerceItems_eq_error_iff.mp (map_eq_error_iff.mp refused) with
            ⟨before, item, after, rfl, earlierCoerced, failed⟩
          rw [Nat.zero_add] at failed
          have isPart : Json.PartOf item (.array (before ++ item :: after)) := .item (by simp)
          exact .of_step (fun _ _ _ => .item earlierCoerced) (inside item isPart _ _ failed)
      | _ =>
          cases refused
          exact .here (.noArray element nofun)
  | map value =>
      cases raw with
      | object members =>
          rcases coerceEntries_eq_error_iff.mp (map_eq_error_iff.mp refused) with
            ⟨before, ⟨key, item⟩, after, rfl, earlierCoerced, failed⟩
          have member : (key, item) ∈ before ++ (key, item) :: after := by simp
          exact
            .of_step (fun _ _ _ => .entry earlierCoerced)
              (inside item (.member member) _ _ failed)
      | _ =>
          cases refused
          exact .here (.noMap value nofun)
  | record record =>
      cases raw with
      | object members =>
          rcases fillSlots_eq_error_iff.mp (map_eq_error_iff.mp (map_eq_error_iff.mp refused)) with
            ⟨before, field, after, declared, earlierFilled, unfilled⟩
          rcases coerceField_eq_error_iff.mp unfilled with ⟨item, held, notNull, failed⟩
          rcases exists_mem_of_fieldValue? held with ⟨key, -, member⟩
          exact
            .of_step (fun _ _ _ => .field declared earlierFilled held notNull)
              (inside item (.member member) _ _ failed)
      | _ =>
          cases refused
          exact .here (.noRecord record nofun)

/-- Under a reference, a name is missing or what is registered under it refuses the value. -/
theorem coerceAt_reference_eq_error
    {name : String}
    (refused : coerceAt catalog path (.reference name) raw = .error failure) :
    MissesType catalog (.reference name) failure ∨
      ∃ named, catalog.resolve name = .ok named ∧
        coerceAt catalog path named.toSchema raw = .error failure := by
  rw [coerceAt_reference] at refused
  split at refused
  · rename_i unresolved
    cases refused
    exact .inl (missesType_of_resolve unresolved)
  · rename_i named resolved
    exact .inr ⟨named, resolved, refused⟩

/-- Under a union, a name is missing, no variant accepts the value, or the first one refuses it. -/
theorem coerceAt_union_eq_error
    {variants : List Schema}
    (refused : coerceAt catalog path (.union variants) raw = .error failure) :
    MissesType catalog (.union variants) failure ∨
      Misfit catalog path raw (.union variants) failure ∨
        ∃ before variant after, FirstAccepting catalog raw variants before variant after ∧
          coerceAt catalog path variant raw = .error failure := by
  rw [coerceAt_union] at refused
  split at refused
  · rename_i unselected
    cases refused
    rcases exists_of_selectVariant_eq_error unselected with ⟨variant, member, failed⟩
    exact .inl ((missesType_of_accepts failed).of_variant member)
  · rename_i noneSelected
    cases refused
    exact .inr (.inl (.noVariant (selectVariant_eq_none_iff.mp noneSelected)))
  · rename_i variant selected
    rcases selectVariant_eq_some_iff.mp selected with ⟨before, after, first⟩
    exact .inr (.inr ⟨before, variant, after, first, refused⟩)

theorem place?_of_missesType
    (misses : MissesType catalog schema failure) :
    failure.place? = none := by
  rcases misses with ⟨name, -, -, rfl⟩
  rfl

/-- A failure that tells of a place tells of the first one that does not fit. -/
theorem failsFirst_of_coerceAt
    (refused : coerceAt catalog path schema raw = .error failure)
    (placed : failure.place? ≠ none) :
    FailsFirst catalog path schema raw failure := by
  induction raw using Json.part_induction generalizing path schema with
  | step raw ih =>
      have inside :
          ∀ part, Json.PartOf part raw → ∀ path schema,
            coerceAt catalog path schema part = .error failure →
              FailsFirst catalog path schema part failure :=
        fun part isPart _ _ failed => ih part isPart failed
      -- Unions inside unions are gone through on the same value, so the schema gets smaller.
      induction schema with
      | union variants variantFails =>
          rcases coerceAt_union_eq_error refused with
            misses | misfit | ⟨before, variant, after, first, variantRefused⟩
          · exact absurd (place?_of_missesType misses) placed
          · exact .here misfit
          · exact .variant first (variantFails variant first.mem variantRefused)
      | reference name =>
          rcases coerceAt_reference_eq_error refused with misses | ⟨named, resolved, namedRefused⟩
          · exact absurd (place?_of_missesType misses) placed
          · rw [← Head.toSchema_ofNamed] at namedRefused
            have namedFails := failsFirst_of_head _ inside namedRefused
            rw [Head.toSchema_ofNamed] at namedFails
            exact .reference resolved namedFails
      | scalar kind => exact failsFirst_of_head (.scalar kind) inside refused
      | record record _ => exact failsFirst_of_head (.record record) inside refused
      | enum enumeration => exact failsFirst_of_head (.enum enumeration) inside refused
      | list element _ => exact failsFirst_of_head (.list element) inside refused
      | map value _ => exact failsFirst_of_head (.map value) inside refused

/--
Coercion fails with a place exactly if this is the first place inside the value that does not
fit, and then with the failure of the part there; the text of the place goes on from the text of
the path with the texts of the steps.  What a value is coerced to does not depend on the path.
-/
theorem coerceAt_fails_first
    (catalog : Catalog)
    (path : Path)
    (schema : Schema)
    (raw : Json) :
    (∀ place value,
        coerceAt catalog place schema raw = .ok value ↔
          coerceAt catalog path schema raw = .ok value) ∧
      (∀ failure place,
        coerceAt catalog path schema raw = .error failure ∧ failure.place? = some place ↔
          ∃ steps inner part,
            place = path.followedBy steps ∧
              Descends catalog schema raw steps inner part ∧
                Misfit catalog place part inner failure) ∧
      ∀ steps,
        (path.followedBy steps).text = path.text ++ String.join (steps.map Step.text) := by
  refine ⟨fun place value => ⟨?_, ?_⟩, fun failure place => ⟨?_, ?_⟩, path.text_followedBy⟩
  · exact fun coerced => sameAnywhere catalog raw place schema value coerced path
  · exact fun coerced => sameAnywhere catalog raw path schema value coerced place
  · rintro ⟨refused, placed⟩
    have isPlaced : failure.place? ≠ none := by simp [placed]
    rcases failsFirst_of_coerceAt refused isPlaced with ⟨steps, inner, part, descends, misfit⟩
    obtain rfl := Option.some.inj (placed.symm.trans misfit.place?_eq)
    exact ⟨steps, inner, part, rfl, descends, misfit⟩
  · rintro ⟨steps, inner, part, rfl, descends, misfit⟩
    exact ⟨descends.coerceAt_eq_error misfit, misfit.place?_eq⟩

end Coercion

namespace Demo

/-- Orders by customer, each with its lines; a line has a size, or is a flag and has none. -/
def ordersSchema : Schema :=
  .map (.list (.union [
    .scalar .boolean,
    .record ⟨"Line", [
      ⟨"label", "label", .scalar .string, false⟩,
      ⟨"size", "size", .scalar .integer, false⟩]⟩]))

/-- Two orders, of which the second has two lines, one of them with a size in words. -/
def ordersJson : Json :=
  .object [
    ("anna", .array []),
    ("bo \"b\"", .array [.bool true, .object [("Size", .string "m"), ("label", .string "hat")]])]

/-- The steps to the size in words. -/
def sizeSteps : List Step :=
  [.key "bo \"b\"", .index 1, .field "size"]

end Demo

namespace Coercion

/-- The size in words is the first thing in the orders that does not fit. -/
theorem coerceAt_fails_first_orders :
    (∃ inner part,
        Descends .empty Demo.ordersSchema Demo.ordersJson Demo.sizeSteps inner part ∧
          Misfit .empty ((Path.ofRoot "$").followedBy Demo.sizeSteps) part inner
            (.coercion ((Path.ofRoot "$").followedBy Demo.sizeSteps) "integer"
              (.wrongKind "64-bit integer" .string))) ∧
      ((Path.ofRoot "$").followedBy Demo.sizeSteps).text = "$[\"bo \\\"b\\\"\"][1].size" := by
  have failsFirst :=
    coerceAt_fails_first .empty (.ofRoot "$") Demo.ordersSchema Demo.ordersJson
  have refused :
      coerceAt .empty (.ofRoot "$") Demo.ordersSchema Demo.ordersJson =
        .error (.coercion ((Path.ofRoot "$").followedBy Demo.sizeSteps) "integer"
          (.wrongKind "64-bit integer" .string)) := by
    rfl
  constructor
  · rcases (failsFirst.2.1 _ _).mp ⟨refused, rfl⟩ with ⟨steps, inner, part, same, descends, misfit⟩
    obtain rfl : Demo.sizeSteps = steps := by
      simpa [Path.followedBy, Path.ofRoot] using same
    exact ⟨inner, part, descends, misfit⟩
  · rw [failsFirst.2.2]
    decide +kernel

end Coercion

end ContractReplay
