import ContractReplay.Proofs.Coercion.Steps
import ContractReplay.Proofs.Typed.WireEquality
import ContractReplay.ServiceError

/-!
# Service errors as values of the error record

Every catalog has the error record, which refers to itself for the error that caused another.
The wire form of a service error is always coerced by it, whatever stands in the details and
however many errors stand behind each other, and the record value has what the error has at
every level; details that are `null` count as none.  Two errors whose record values have equal
wire forms therefore agree level by level.
-/

namespace ContractReplay

open Coercion

/-- The fields of the error record. -/
theorem errorRecord_fields :
    errorRecord.fields = [
      ⟨"code", "code", .scalar .string, false⟩,
      ⟨"message", "message", .scalar .string, false⟩,
      ⟨"details", "details", .scalar .json, false⟩,
      ⟨"innerError", "inner_error", .reference errorTypeName, false⟩] := by
  rfl

theorem resolve_errorTypeName
    (catalog : Catalog) :
    catalog.resolve errorTypeName = .ok (.record errorRecord) := by
  rw [Catalog.resolve, Catalog.find?, if_pos rfl]

namespace ServiceError

/-- Induction on the errors that stand behind an error. -/
@[induction_eliminator]
theorem induct
    {motive : ServiceError → Prop}
    (first : ∀ code message details, motive ⟨code, message, details, none⟩)
    (caused :
      ∀ code message details inner, motive inner → motive ⟨code, message, details, some inner⟩)
    (error : ServiceError) :
    motive error :=
  @ServiceError.rec
    motive
    (fun innerError => ∀ inner, innerError = some inner → motive inner)
    (fun code message details innerError innerHolds =>
      match innerError with
      | none => first code message details
      | some inner => caused code message details inner (innerHolds inner rfl))
    (fun _ absent => nomatch absent)
    (fun _ holds _ same => Option.some.inj same ▸ holds)
    error

/-! ## Levels -/

/-- An error and the errors that stand behind it, the outermost first. -/
def levels : ServiceError → List ServiceError
  | ⟨code, message, details, none⟩ => [⟨code, message, details, none⟩]
  | ⟨code, message, details, some inner⟩ => ⟨code, message, details, some inner⟩ :: levels inner

theorem levels_eq
    (error : ServiceError) :
    error.levels = error :: error.innerError.elim [] levels := by
  rcases error with ⟨code, message, details, _ | inner⟩ <;> rw [levels] <;> rfl

/-- The details of an error, where `null` counts as none. -/
def stated (details : Option Json) : Option Json :=
  details.filter (!·.isNull)

/-- That two errors agree in what they say of themselves. -/
structure SameLevel (left right : ServiceError) : Prop where
  code : left.code = right.code
  message : left.message = right.message
  details : equalSides (stated left.details) (stated right.details) = true

/-- That two errors agree at every level, and have as many errors behind them. -/
def Same (left right : ServiceError) : Prop :=
  List.Forall₂ SameLevel left.levels right.levels

/-- Errors agree when they agree in themselves and in the errors right behind them, if any. -/
theorem same_iff
    {left right : ServiceError} :
    Same left right ↔
      SameLevel left right ∧ Option.Rel Same left.innerError right.innerError := by
  rw [Same, levels_eq left, levels_eq right, List.forall₂_cons]
  apply and_congr_right
  intro sameLevel
  cases left.innerError with
  | none =>
      cases right.innerError with
      | none => exact iff_of_true .nil .none
      | some rightInner =>
          rw [Option.elim, Option.elim, levels_eq rightInner]
          exact iff_of_false nofun nofun
  | some leftInner =>
      cases right.innerError with
      | none =>
          rw [Option.elim, Option.elim, levels_eq leftInner]
          exact iff_of_false nofun nofun
      | some rightInner =>
          rw [Option.rel_some_some]
          rfl

/-! ## The record value of an error -/

/-- The value of the error record with the given contents. -/
def recordOf
    (code : String)
    (message : Option String)
    (details : Option Json)
    (innerError : Option Record) : Record :=
  ⟨errorTypeName, [
    ⟨"code", "code", some (.string code)⟩,
    ⟨"message", "message", message.map .string⟩,
    ⟨"details", "details", (stated details).map .json⟩,
    ⟨"inner_error", "innerError", innerError.map .record⟩]⟩

/-- An error as a value of the error record. -/
def toRecord : ServiceError → Record
  | ⟨code, message, details, none⟩ => recordOf code message details none
  | ⟨code, message, details, some inner⟩ =>
    recordOf code message details (some (toRecord inner))

theorem toRecord_eq
    (error : ServiceError) :
    error.toRecord =
      recordOf error.code error.message error.details (error.innerError.map toRecord) := by
  rcases error with ⟨code, message, details, _ | inner⟩ <;> rw [toRecord] <;> rfl

/-! ## Reading the wire form of an error -/

/-- The members of the wire form of an error. -/
def members (error : ServiceError) : Json.Members :=
  ("code", .string error.code) :: (member? "message" (error.message.map .string) ++
    (member? "details" error.details ++ member? "innerError" (error.innerError.map toWire)))

theorem toWire_eq
    (error : ServiceError) :
    error.toWire = .object error.members := by
  rcases error with ⟨code, message, details, _ | inner⟩ <;>
    simp [toWire, innerToWire, members, member?]

/-- Each field of the error record finds its own part of an error, and no other. -/
theorem fieldValue?_members
    (error : ServiceError) :
    errorRecord.fields.map (Json.Members.fieldValue? error.members) = [
      some (.string error.code),
      error.message.map .string,
      error.details,
      error.innerError.map toWire] := by
  rcases error with ⟨code, _ | message, _ | details, _ | inner⟩ <;> rfl

section

variable {catalog : Catalog} {path : Path} {field : FieldSchema} {held : Json.Members}

theorem coerceField_text
    (text : Option String)
    (isText : field.schema = .scalar .string)
    (found : held.fieldValue? field = text.map .string) :
    coerceField catalog path held field = .ok (text.map .string) := by
  rw [coerceField_eq, found, isText]
  cases text <;> rfl

theorem coerceField_details
    {details : Option Json}
    (isJson : field.schema = .scalar .json)
    (found : held.fieldValue? field = details) :
    coerceField catalog path held field = .ok ((stated details).map .json) := by
  rw [coerceField_eq, found, isJson]
  rcases details with _ | value
  · rfl
  · cases value <;> rfl

theorem coerceField_innerError
    {innerError : Option ServiceError}
    (isError : field.schema = .reference errorTypeName)
    (found : held.fieldValue? field = innerError.map toWire)
    (readBack :
      ∀ inner, innerError = some inner → ∀ place,
        coerceRecordAt catalog place errorRecord inner.toWire = .ok inner.toRecord) :
    coerceField catalog path held field =
      .ok ((innerError.map toRecord).map .record) := by
  rw [coerceField_eq, found, isError]
  cases innerError with
  | none => rfl
  | some inner =>
      have notNull : inner.toWire.isNull = false := by
        rw [toWire_eq]
        rfl
      apply (coerceOptional_eq_ok_iff notNull).mpr
      refine ⟨.record inner.toRecord, ?_, rfl⟩
      rw [coerceAt_reference, resolve_errorTypeName]
      show coerceAt catalog _ (.record errorRecord) inner.toWire = _
      rw [coerceAt_record, readBack inner rfl]
      rfl

/-- An error whose inner errors are read back is read back. -/
theorem coerceRecordAt_toWire_of_inner
    (error : ServiceError)
    (readBack :
      ∀ inner, error.innerError = some inner → ∀ place,
        coerceRecordAt catalog place errorRecord inner.toWire = .ok inner.toRecord) :
    coerceRecordAt catalog path errorRecord error.toWire = .ok error.toRecord := by
  have found := fieldValue?_members error
  rw [errorRecord_fields] at found
  simp only [List.map_cons, List.map_nil, List.cons.injEq, and_true] at found
  rcases found with ⟨codeFound, messageFound, detailsFound, innerFound⟩
  have codeFilled :
      coerceField catalog path error.members ⟨"code", "code", .scalar .string, false⟩ =
        .ok (some (.string error.code)) :=
    coerceField_text (some error.code) rfl codeFound
  rw [toWire_eq, coerceRecordAt, errorRecord_fields, toRecord_eq]
  simp only [fillSlots, codeFilled, coerceField_text error.message rfl messageFound,
    coerceField_details rfl detailsFound, coerceField_innerError rfl innerFound readBack]
  rfl

end

/-- The wire form of an error is always coerced by the error record, at every depth. -/
theorem coerceRecordAt_toWire
    (catalog : Catalog)
    (error : ServiceError) :
    ∀ path, coerceRecordAt catalog path errorRecord error.toWire = .ok error.toRecord := by
  induction error with
  | first code message details =>
      intro path
      exact coerceRecordAt_toWire_of_inner _ fun inner absent => nomatch absent
  | caused code message details inner ih =>
      intro path
      apply coerceRecordAt_toWire_of_inner
      rintro other ⟨⟩
      exact ih

/-! ## Equality of errors -/

/-- The record values of two errors have equal wire forms when their contents agree. -/
theorem equal_recordOf_iff
    {leftCode rightCode : String}
    {leftMessage rightMessage : Option String}
    {leftDetails rightDetails : Option Json}
    {leftInner rightInner : Option Record} :
    (recordOf leftCode leftMessage leftDetails leftInner).toWire.equal
        (recordOf rightCode rightMessage rightDetails rightInner).toWire = true ↔
      leftCode = rightCode ∧ leftMessage = rightMessage ∧
        equalSides (stated leftDetails) (stated rightDetails) = true ∧
          equalSides (leftInner.map RecordValueOf.toWire)
            (rightInner.map RecordValueOf.toWire) = true := by
  have distinct : ["code", "message", "details", "innerError"].Nodup := by
    decide
  have sameCode :
      equalSides ((some (Typed.string leftCode)).map Typed.toWire)
          ((some (Typed.string rightCode)).map Typed.toWire) = true ↔
        leftCode = rightCode := by
    simp [equalSides, Typed.toWire, Json.equal]
  have sameMessage :
      equalSides ((leftMessage.map Typed.string).map Typed.toWire)
          ((rightMessage.map Typed.string).map Typed.toWire) = true ↔
        leftMessage = rightMessage := by
    cases leftMessage <;> cases rightMessage <;> simp [equalSides, Typed.toWire, Json.equal]
  have wireDetails :
      ∀ details : Option Json, (details.map Typed.json).map Typed.toWire = details := by
    rintro (_ | details) <;> rfl
  have wireInner :
      ∀ inner : Option Record,
        (inner.map Typed.record).map Typed.toWire = inner.map RecordValueOf.toWire := by
    rintro (_ | inner) <;> rfl
  refine Iff.trans (Typed.equal_record_iff_forall₂ ?_ ?_) ?_
  · rfl
  · exact distinct
  · simp only [List.forall₂_cons, List.Forall₂.nil, and_true, wireDetails, wireInner, sameCode,
      sameMessage]

/-- Inner errors that are told apart by their record values agree when the wire forms do. -/
theorem equalSides_innerError_iff
    {left right : Option ServiceError}
    (told :
      ∀ inner, left = some inner → ∀ other,
        inner.toRecord.toWire.equal other.toRecord.toWire = true ↔ Same inner other) :
    equalSides ((left.map toRecord).map RecordValueOf.toWire)
        ((right.map toRecord).map RecordValueOf.toWire) = true ↔
      Option.Rel Same left right := by
  cases left with
  | none =>
      cases right with
      | none => exact iff_of_true rfl .none
      | some other => exact iff_of_false nofun nofun
  | some inner =>
      cases right with
      | none => exact iff_of_false nofun nofun
      | some other => exact (told inner rfl other).trans Option.rel_some_some.symm

theorem equal_toRecord_iff_of_inner
    {left : ServiceError}
    (told :
      ∀ inner, left.innerError = some inner → ∀ other,
        inner.toRecord.toWire.equal other.toRecord.toWire = true ↔ Same inner other)
    (right : ServiceError) :
    left.toRecord.toWire.equal right.toRecord.toWire = true ↔ Same left right := by
  rw [same_iff, toRecord_eq left, toRecord_eq right, equal_recordOf_iff,
    equalSides_innerError_iff told]
  constructor
  · rintro ⟨sameCode, sameMessage, sameDetails, sameInner⟩
    exact ⟨⟨sameCode, sameMessage, sameDetails⟩, sameInner⟩
  · rintro ⟨⟨sameCode, sameMessage, sameDetails⟩, sameInner⟩
    exact ⟨sameCode, sameMessage, sameDetails, sameInner⟩

/-- Two errors agree level by level exactly when their record values have equal wire forms. -/
theorem equal_toRecord_iff
    (left right : ServiceError) :
    left.toRecord.toWire.equal right.toRecord.toWire = true ↔ Same left right := by
  induction left generalizing right with
  | first code message details =>
      refine equal_toRecord_iff_of_inner ?_ right
      rintro inner ⟨⟩
  | caused code message details inner ih =>
      refine equal_toRecord_iff_of_inner ?_ right
      rintro other ⟨⟩
      exact ih

end ServiceError

end ContractReplay
