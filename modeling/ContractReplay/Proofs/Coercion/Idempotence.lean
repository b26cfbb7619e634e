import ContractReplay.Proofs.Coercion.Conformance
import ContractReplay.Proofs.Coercion.ReadBack

/-!
# Coercion of a coerced value

The wire form of a value that coercion returned is coerced to the same value.  It need not
be the JSON value that was coerced first: keys are spelled as declared, fields without a
value are left out, timestamps are written in one way, and floats are no whole numbers.
None of these changes lets a variant of a union accept what it refused before, so a union
selects the same variant again.  The induction is on what the value was read from, for
schemas may refer to themselves.
-/

namespace ContractReplay.Coercion

open Schema

variable {catalog : Catalog} {raw wire : Json} {path : Path}

/-! ## What changes on the wire -/

/-- How a JSON value and the wire form of its reading may differ, as far as shapes can tell. -/
inductive Rewritten : Json → Json → Prop where
  | same (raw : Json) : Rewritten raw raw
  | number
      {first second : Json.Number}
      (noInteger : first.toInt64? = none → second.toInt64? = none) :
      Rewritten (.number first) (.number second)
  | timestamp
      {text : String}
      {value : Timestamp}
      (read : Timestamp.ofText? text = some value)
      (plain : value.HasPlainYear) :
      Rewritten (.string text) (.string value.text)
  | array (first second : List Json) : Rewritten (.array first) (.array second)
  | object (first second : Json.Members) : Rewritten (.object first) (.object second)

/-- The wire form of a reading is rewritten in one of these ways. -/
theorem rewritten_of_conforms
    {schema : Schema}
    {value : Typed}
    (conforming : Conforms catalog raw schema value)
    (plain : value.PlainYears) :
    Rewritten raw value.toWire := by
  induction conforming with
  | integer read =>
      apply Rewritten.number
      intro noInteger
      rw [read] at noInteger
      cases noInteger
  | float read => exact .number fun _ => rfl
  | timestamp read => exact .timestamp read (plain _ List.mem_cons_self)
  | list => exact .array _ _
  | map => exact .object _ _
  | record => exact .object _ _
  | union _ _ ih => exact ih plain
  | reference _ _ ih => exact ih plain
  | _ => exact .same _

/-! ## What was refused is refused again -/

/-- A timestamp is no text of bytes: the alphabet of base64 has no hyphen. -/
theorem decode_timestamp
    {text : String}
    {value : Timestamp}
    (read : Timestamp.ofText? text = some value) :
    (Base64.decode text).toOption.isSome = false := by
  cases decoded : Base64.decode text with
  | error failure => rfl
  | ok bytes =>
      have isEncoded := Base64.decode_eq_ok_iff.mp decoded
      have hyphen := Timestamp.hyphen_of_ofText? read
      rw [isEncoded] at hyphen
      exact absurd hyphen (Base64.hyphen_not_mem_encode bytes)

theorem scalarAccepts_rewritten
    {kind : Scalar}
    (rewritten : Rewritten raw wire)
    (refused : scalarAccepts raw kind = false) :
    scalarAccepts wire kind = false := by
  cases rewritten with
  | same => exact refused
  | number noInteger =>
      cases kind with
      | integer =>
          simp only [scalarAccepts, Option.isSome_eq_false_iff, Option.isNone_iff_eq_none] at *
          exact noInteger refused
      | _ => exact refused
  | timestamp read plain =>
      cases kind with
      | binary => exact decode_timestamp (Timestamp.ofText?_text plain)
      | timestamp =>
          rw [scalarAccepts, read] at refused
          cases refused
      | _ => exact refused
  | array => exact refused
  | object => exact refused

/-- That no symbol of an enumeration is the text of a timestamp. -/
def NoTimestamps (enumeration : EnumSchema) : Prop :=
  ∀ symbol ∈ enumeration.symbols, Timestamp.ofText? symbol = none

instance (enumeration : EnumSchema) : Decidable (NoTimestamps enumeration) :=
  inferInstanceAs (Decidable (∀ symbol ∈ enumeration.symbols, Timestamp.ofText? symbol = none))

theorem enumAccepts_rewritten
    {enumeration : EnumSchema}
    (noTimestamps : NoTimestamps enumeration)
    (rewritten : Rewritten raw wire)
    (refused : enumAccepts raw enumeration = false) :
    enumAccepts wire enumeration = false := by
  cases rewritten with
  | same => exact refused
  | @timestamp text value read plain =>
      rw [enumAccepts, EnumSchema.contains, List.contains_eq_mem, decide_eq_false_iff_not]
      intro declared
      have noTime := noTimestamps value.text declared
      rw [Timestamp.ofText?_text plain] at noTime
      cases noTime
  | _ => rfl

/-- A schema that refuses a value refuses the wire form of its reading. -/
theorem refused_of_rewritten
    {schema : Schema}
    (noTimestamps :
      ∀ enumeration, Reaches catalog schema (.enum enumeration) → NoTimestamps enumeration)
    (rewritten : Rewritten raw wire)
    (refused : accepts catalog raw schema = .ok false) :
    accepts catalog wire schema = .ok false := by
  induction schema with
  | scalar kind =>
      rw [accepts, Except.ok.injEq] at *
      exact scalarAccepts_rewritten rewritten refused
  | enum enumeration =>
      rw [accepts, Except.ok.injEq] at *
      exact enumAccepts_rewritten (noTimestamps enumeration .here) rewritten refused
  | union variants ih =>
      rw [accepts, anyAccepts_eq_false_iff] at *
      intro variant declared
      refine ih variant declared ?_ (refused variant declared)
      intro enumeration reached
      exact noTimestamps enumeration ((LeadsTo.variant declared).reaches.trans reached)
  | reference name =>
      cases resolved : catalog.resolve name with
      | error failure =>
          rw [accepts, resolved] at refused
          cases refused
      | ok named =>
          rw [accepts_reference resolved, accepts_toSchema, Except.ok.injEq] at *
          cases named with
          | record record => cases rewritten <;> exact refused
          | enum enumeration =>
              have reached := (LeadsTo.reference resolved).reaches
              exact enumAccepts_rewritten (noTimestamps enumeration reached) rewritten refused
  | _ => cases rewritten <;> exact refused

/-! ## What is read is read again -/

/-- What everything that a schema reaches has to meet for wire forms to be read back. -/
structure Unambiguous (catalog : Catalog) (schema : Schema) : Prop where
  keysApart : ∀ record, Reaches catalog schema (.record record) → record.KeysApart
  noTimestamps :
    ∀ enumeration, Reaches catalog schema (.enum enumeration) → NoTimestamps enumeration

theorem Unambiguous.of_reaches
    {schema other : Schema}
    (unambiguous : Unambiguous catalog schema)
    (reached : Reaches catalog schema other) :
    Unambiguous catalog other where
  keysApart record inside := unambiguous.keysApart record (reached.trans inside)
  noTimestamps enumeration inside := unambiguous.noTimestamps enumeration (reached.trans inside)

/-- Whether a schema by itself, without what it leads to, leaves nothing ambiguous. -/
def isUnambiguous : Schema → Bool
  | .record declared => decide declared.KeysApart
  | .enum enumeration => decide (NoTimestamps enumeration)
  | _ => true

/-- Going through a schema and the catalog once decides that all reached is unambiguous. -/
theorem unambiguous_of_everywhere
    {schema : Schema}
    (every : everyNamed isUnambiguous catalog = true)
    (inside : everywhere isUnambiguous schema = true) :
    Unambiguous catalog schema where
  keysApart _ reached := of_decide_eq_true (holds_of_reaches every inside reached)
  noTimestamps _ reached := of_decide_eq_true (holds_of_reaches every inside reached)

theorem toWire_ne_null
    {schema : Schema}
    {value : Typed}
    (conforming : Conforms catalog raw schema value)
    (notNull : value ≠ .json .null) :
    value.toWire ≠ .null := by
  induction conforming with
  | json held =>
      intro isNull
      exact notNull (congrArg Typed.json isNull)
  | union _ _ ih => exact ih notNull
  | reference _ _ ih => exact ih notNull
  | _ => exact Json.noConfusion

/-- The wire form of the reading of a value is read in the same way. -/
theorem coerceAt_toWire_of_conforms
    {schema : Schema}
    {value : Typed}
    (conforming : Conforms catalog raw schema value)
    (unambiguous : Unambiguous catalog schema)
    (plain : value.PlainYears) :
    ∀ path, coerceAt catalog path schema value.toWire = .ok value := by
  induction conforming with
  | boolean | float | string =>
      intro path
      rfl
  | json held =>
      intro path
      rw [coerceAt_eq]
      rfl
  | integer =>
      intro path
      exact coerceAt_toWire_integer _
  | binary bytes =>
      intro path
      exact coerceAt_toWire_binary bytes
  | timestamp =>
      intro path
      exact coerceAt_toWire_timestamp (plain _ List.mem_cons_self)
  | enum declared =>
      intro path
      exact coerceAt_toWire_enum declared
  | @list element items values length conforming ih =>
      intro path
      apply coerceAt_toWire_list
      intro value member
      rcases exists_mem_zip length member with ⟨item, paired⟩
      exact
        ih item value paired (unambiguous.of_reaches (LeadsTo.element element).reaches)
          (plain.item member)
  | @map schema members entries source ascending keys held conforming ih =>
      intro path
      apply coerceAt_toWire_map ascending
      intro key value member
      exact
        ih key value member (unambiguous.of_reaches (LeadsTo.value schema).reaches)
          (plain.entry member)
  | @record record members slots names unset conforming notNull ih =>
      intro path
      apply coerceAt_toWire_record (unambiguous.keysApart record .here) names
      intro field slot value paired set
      have isSlot := (List.of_mem_zip paired).2
      cases held : members.fieldValue? field with
      | none =>
          have isUnset := (unset field slot paired).mpr (Or.inl held)
          cases set.symm.trans isUnset
      | some item =>
          have valueConforms := conforming field slot item value paired held set
          refine ⟨toWire_ne_null valueConforms ?_, ?_⟩
          · rintro rfl
            exact notNull slot isSlot set
          · exact
              ih field slot item value paired held set
                (unambiguous.of_reaches (LeadsTo.field (List.of_mem_zip paired).1).reaches)
                (plain.slot isSlot set)
  | @union raw variants before after variant value first conforming ih =>
      intro path
      have readBack :=
        ih (unambiguous.of_reaches (LeadsTo.variant first.mem).reaches) plain
      have rewritten := rewritten_of_conforms conforming plain
      have firstAgain : FirstAccepting catalog value.toWire variants before variant after := by
        refine ⟨first.split, ?_, accepts_of_conforms (conforms_of_coerceAt (readBack path))⟩
        intro earlier isEarlier
        have reached : Reaches catalog (.union variants) earlier :=
          (LeadsTo.variant (first.mem_before isEarlier)).reaches
        exact
          refused_of_rewritten (unambiguous.of_reaches reached).noTimestamps rewritten
            (first.refused earlier isEarlier)
      rw [coerceAt_union_of_first firstAgain]
      exact readBack path
  | reference resolved _ ih =>
      intro path
      rw [coerceAt_reference, resolved]
      exact ih (unambiguous.of_reaches (LeadsTo.reference resolved).reaches) plain path

/--
Coercion is idempotent through the wire form: what it returns is what it returns for the
wire form of that, at every depth.  The record has to be unambiguous under the catalog, and
the years of the timestamps in the value have to be written with four digits.
-/
theorem coerceRecord_idempotent
    {record : RecordSchema}
    {value : Record}
    (unambiguous : Unambiguous catalog (.record record))
    (coerced : coerceRecord catalog record raw = .ok value)
    (plain : Typed.PlainYears (.record value)) :
    coerceRecord catalog record value.toWire = .ok value := by
  have coercedAt : coerceAt catalog rootPath (.record record) raw = .ok (.record value) := by
    rw [coerceAt_record]
    exact map_eq_ok_iff.mpr ⟨value, coerced, rfl⟩
  have readBack :=
    coerceAt_toWire_of_conforms (conforms_of_coerceAt coercedAt) unambiguous plain rootPath
  rw [coerceAt_record] at readBack
  rcases map_eq_ok_iff.mp readBack with ⟨other, otherCoerced, same⟩
  cases same
  exact otherCoerced

/-- The wire form spells two keys and a timestamp in another way and has no `null`. -/
theorem coerceRecord_idempotent_nestedJson :
    coerceRecord Demo.catalog Demo.anyRecord Demo.nestedJson = .ok Demo.nestedAny ∧
      coerceRecord Demo.catalog Demo.anyRecord Demo.nestedAny.toWire = .ok Demo.nestedAny := by
  have unambiguous : Unambiguous Demo.catalog (.record Demo.anyRecord) :=
    unambiguous_of_everywhere (by decide +kernel) (by decide +kernel)
  have coerced :
      coerceRecord Demo.catalog Demo.anyRecord Demo.nestedJson = .ok Demo.nestedAny := by
    rfl
  have plain : Typed.PlainYears (.record Demo.nestedAny) := by
    decide
  exact ⟨coerced, coerceRecord_idempotent unambiguous coerced plain⟩

end ContractReplay.Coercion
