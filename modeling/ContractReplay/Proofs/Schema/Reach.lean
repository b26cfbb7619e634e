import ContractReplay.Proofs.Schema.Registration

/-!
# Schemas that can be reached

A schema reaches what it is made of, and through a catalog what its references stand
for.  Records may refer to themselves, so there is no depth to go by; what holds of
everything that can be reached is shown by a set of schemas that nothing leads out of.
Without the references there is a depth: what occurs in a schema is written there.
-/

namespace ContractReplay

/-- Induction on schemas, through the fields of records and the variants of unions. -/
@[induction_eliminator]
theorem Schema.induct
    {motive : Schema → Prop}
    (scalar : ∀ kind, motive (.scalar kind))
    (record : ∀ record, (∀ field ∈ record.fields, motive field.schema) → motive (.record record))
    (enum : ∀ enumeration, motive (.enum enumeration))
    (list : ∀ element, motive element → motive (.list element))
    (map : ∀ value, motive value → motive (.map value))
    (union : ∀ variants, (∀ variant ∈ variants, motive variant) → motive (.union variants))
    (reference : ∀ name, motive (.reference name))
    (schema : Schema) :
    motive schema :=
  @Schema.rec
    motive
    (fun record => ∀ field ∈ record.fields, motive field.schema)
    (fun variants => ∀ variant ∈ variants, motive variant)
    (fun fields => ∀ field ∈ fields, motive field.schema)
    (fun field => motive field.schema)
    scalar record enum list map union reference
    (fun _ _ hold => hold)
    (by simp)
    (fun _ _ firstHolds laterHold => List.forall_mem_cons.mpr ⟨firstHolds, laterHold⟩)
    (by simp)
    (fun _ _ firstHolds laterHold => List.forall_mem_cons.mpr ⟨firstHolds, laterHold⟩)
    (fun _ _ _ _ holds => holds)
    schema

namespace Schema

/-- The schemas to which a schema leads in one step. -/
inductive LeadsTo (catalog : Catalog) : Schema → Schema → Prop where
  | field
      {record : RecordSchema}
      {field : FieldSchema}
      (declared : field ∈ record.fields) :
      LeadsTo catalog (.record record) field.schema
  | element (element : Schema) :
      LeadsTo catalog (.list element) element
  | value (value : Schema) :
      LeadsTo catalog (.map value) value
  | variant
      {variants : List Schema}
      {variant : Schema}
      (declared : variant ∈ variants) :
      LeadsTo catalog (.union variants) variant
  | reference
      {name : String}
      {named : Named}
      (resolved : catalog.resolve name = .ok named) :
      LeadsTo catalog (.reference name) named.toSchema

/-- The schemas to which a schema leads in any number of steps. -/
inductive Reaches (catalog : Catalog) (schema : Schema) : Schema → Prop where
  | here : Reaches catalog schema schema
  | step
      {middle last : Schema}
      (reached : Reaches catalog schema middle)
      (leads : LeadsTo catalog middle last) :
      Reaches catalog schema last

variable {catalog : Catalog} {first second third : Schema}

theorem LeadsTo.reaches
    (leads : LeadsTo catalog first second) :
    Reaches catalog first second :=
  .step .here leads

theorem Reaches.trans
    (left : Reaches catalog first second)
    (right : Reaches catalog second third) :
    Reaches catalog first third := by
  induction right with
  | here => exact left
  | step _ leads ih => exact .step ih leads

/-- What can be reached stays in a set that no step leaves. -/
theorem Reaches.mem_of_closed
    (inside : Schema → Prop)
    (closed : ∀ middle last, inside middle → LeadsTo catalog middle last → inside last)
    (start : inside first)
    (reached : Reaches catalog first second) :
    inside second := by
  induction reached with
  | here => exact start
  | step _ leads ih => exact closed _ _ ih leads

/-! ## Checking everything that can be reached -/

mutual

/-- Whether a property holds of a schema and of everything inside it, references not followed. -/
def everywhere (holds : Schema → Bool) : Schema → Bool
  | .record ⟨name, fields⟩ => holds (.record ⟨name, fields⟩) && everyField holds fields
  | .list element => holds (.list element) && everywhere holds element
  | .map value => holds (.map value) && everywhere holds value
  | .union variants => holds (.union variants) && everyVariant holds variants
  | other => holds other

/-- Whether a property holds everywhere in the schemas of some fields. -/
def everyField (holds : Schema → Bool) : List (FieldOf Schema) → Bool
  | [] => true
  | ⟨_, _, schema, _⟩ :: later => everywhere holds schema && everyField holds later

/-- Whether a property holds everywhere in some variants. -/
def everyVariant (holds : Schema → Bool) : List Schema → Bool
  | [] => true
  | variant :: later => everywhere holds variant && everyVariant holds later

end

theorem holds_of_everywhere
    {holds : Schema → Bool}
    {schema : Schema}
    (inside : everywhere holds schema = true) :
    holds schema = true := by
  cases schema with
  | record | list | map | union =>
      rw [everywhere, Bool.and_eq_true] at inside
      exact inside.1
  | _ => exact inside

theorem everyField_eq_true_iff
    {holds : Schema → Bool}
    {fields : List FieldSchema} :
    everyField holds fields = true ↔ ∀ field ∈ fields, everywhere holds field.schema = true := by
  induction fields with
  | nil => simp [everyField]
  | cons first later ih => rw [everyField, Bool.and_eq_true, ih, List.forall_mem_cons]

theorem everyVariant_eq_true_iff
    {holds : Schema → Bool}
    {variants : List Schema} :
    everyVariant holds variants = true ↔ ∀ variant ∈ variants, everywhere holds variant = true := by
  induction variants with
  | nil => simp [everyVariant]
  | cons first later ih => rw [everyVariant, Bool.and_eq_true, ih, List.forall_mem_cons]

/-- Whether a property holds everywhere in what a catalog has. -/
def everyNamed (holds : Schema → Bool) (catalog : Catalog) : Bool :=
  everywhere holds (.record errorRecord) &&
    catalog.registered.all fun named => everywhere holds named.toSchema

theorem everywhere_of_resolve
    {holds : Schema → Bool}
    (every : everyNamed holds catalog = true)
    {name : String}
    {named : Named}
    (resolved : catalog.resolve name = .ok named) :
    everywhere holds named.toSchema = true := by
  rw [everyNamed, Bool.and_eq_true, List.all_eq_true] at every
  rcases Catalog.eq_errorRecord_or_mem_of_resolve resolved with rfl | member
  · exact every.1
  · exact every.2 named member

/-! ## What is written in a schema -/

/-- The schemas of which a schema is made directly.  References are not followed. -/
inductive WrittenIn : Schema → Schema → Prop where
  | field
      {record : RecordSchema}
      {field : FieldSchema}
      (declared : field ∈ record.fields) :
      WrittenIn field.schema (.record record)
  | element (element : Schema) :
      WrittenIn element (.list element)
  | value (value : Schema) :
      WrittenIn value (.map value)
  | variant
      {variants : List Schema}
      {variant : Schema}
      (declared : variant ∈ variants) :
      WrittenIn variant (.union variants)

/-- The schemas that occur in a schema, itself included. -/
inductive OccursIn (schema : Schema) : Schema → Prop where
  | here : OccursIn schema schema
  | inside
      {part whole : Schema}
      (occurs : OccursIn schema part)
      (written : WrittenIn part whole) :
      OccursIn schema whole

/-- That a schema is written inside another one, at any depth. -/
def WrittenInside (schema whole : Schema) : Prop :=
  ∃ part, OccursIn schema part ∧ WrittenIn part whole

theorem occursIn_iff :
    OccursIn first second ↔ first = second ∨ WrittenInside first second := by
  constructor
  · intro occurs
    cases occurs with
    | here => exact .inl rfl
    | inside occurs written => exact .inr ⟨_, occurs, written⟩
  · rintro (rfl | ⟨part, occurs, written⟩)
    · exact .here
    · exact .inside occurs written

theorem everywhere_of_writtenIn
    {holds : Schema → Bool}
    (inside : everywhere holds second = true)
    (written : WrittenIn first second) :
    everywhere holds first = true := by
  cases written with
  | field declared =>
      rw [everywhere, Bool.and_eq_true, everyField_eq_true_iff] at inside
      exact inside.2 _ declared
  | element | value =>
      rw [everywhere, Bool.and_eq_true] at inside
      exact inside.2
  | variant declared =>
      rw [everywhere, Bool.and_eq_true, everyVariant_eq_true_iff] at inside
      exact inside.2 _ declared

/-- What holds everywhere in a schema holds of everything that occurs in it. -/
theorem holds_of_occursIn
    {holds : Schema → Bool}
    (inside : everywhere holds second = true)
    (occurs : OccursIn first second) :
    holds first = true := by
  induction occurs with
  | here => exact holds_of_everywhere inside
  | inside _ written ih => exact ih (everywhere_of_writtenIn inside written)

/-- What holds everywhere in a schema and in a catalog holds of everything the schema reaches. -/
theorem holds_of_reaches
    {holds : Schema → Bool}
    (every : everyNamed holds catalog = true)
    (inside : everywhere holds first = true)
    (reached : Reaches catalog first second) :
    holds second = true := by
  apply holds_of_everywhere
  refine reached.mem_of_closed (fun schema => everywhere holds schema = true) ?_ inside
  intro middle last middleInside leads
  cases leads with
  | field declared => exact everywhere_of_writtenIn middleInside (.field declared)
  | element => exact everywhere_of_writtenIn middleInside (.element last)
  | value => exact everywhere_of_writtenIn middleInside (.value last)
  | variant declared => exact everywhere_of_writtenIn middleInside (.variant declared)
  | reference resolved => exact everywhere_of_resolve every resolved

end Schema

/--
A record whose wire names are distinct and none of whose fields may be held under the
wire name of another one.
-/
structure RecordOf.KeysApart (record : RecordSchema) : Prop where
  distinct : (record.fields.map (·.wireName)).Nodup
  apart :
    ∀ field ∈ record.fields, ∀ other ∈ record.fields,
      other.wireName ≠ field.wireName → other.wireName ∉ field.candidates

instance (record : RecordSchema) : Decidable record.KeysApart :=
  decidable_of_iff
    ((record.fields.map (·.wireName)).Nodup ∧
      ∀ field ∈ record.fields, ∀ other ∈ record.fields,
        other.wireName ≠ field.wireName → other.wireName ∉ field.candidates)
    ⟨fun holds => ⟨holds.1, holds.2⟩, fun apart => ⟨apart.distinct, apart.apart⟩⟩

end ContractReplay
