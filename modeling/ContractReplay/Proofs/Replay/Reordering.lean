import ContractReplay.Demo.Service
import ContractReplay.Proofs.Coercion.Reordering
import ContractReplay.Proofs.Replay.Stages
import ContractReplay.Proofs.Report.Counts

/-!
# The order of keys and the verdict

What a case expects is recorded as JSON, and the order in which its objects have their members
is an accident of the recording.  A case and another one that expects reordered values make the
same call, and both pass or both fail: what is expected is coerced in both or in neither, and the
wire form that the comparison starts from is the same up to the order.
-/

namespace ContractReplay

open Coercion

/-! ## Cases that expect reordered values -/

/-- Cases that differ in nothing but the order of the keys in what they expect. -/
structure Case.Reordered (left right : Case) : Prop where
  name : left.name = right.name
  method : left.method = right.method
  request : left.request = right.request
  response : Option.Rel Json.Reordered left.response right.response
  error : Option.Rel Json.Reordered left.error right.error

/-- That the objects in what a case expects have distinct keys. -/
structure Case.KeysDistinct (case : Case) : Prop where
  response : ∀ payload ∈ case.response, payload.KeysDistinct
  error : ∀ payload ∈ case.error, payload.KeysDistinct

/-- Expectations that are equal up to the order of keys. -/
inductive Expectation.Reordered : Expectation → Expectation → Prop where
  | response
      {left right : Json}
      (payloads : left.Reordered right)
      (distinct : left.KeysDistinct) :
      Reordered (.response left) (.response right)
  | error
      {left right : Json}
      (payloads : left.Reordered right)
      (distinct : left.KeysDistinct) :
      Reordered (.error left) (.error right)
  | empty : Reordered .empty .empty

theorem Case.Reordered.expectation
    {left right : Case}
    (reordered : left.Reordered right)
    (distinct : left.KeysDistinct) :
    left.expectation.Reordered right.expectation := by
  rcases left with ⟨leftName, leftMethod, leftRequest, leftResponse, leftError⟩
  rcases right with ⟨rightName, rightMethod, rightRequest, rightResponse, rightError⟩
  rcases reordered with ⟨-, -, -, responses, errors⟩
  cases errors with
  | some payloads => exact .error payloads (distinct.error _ rfl)
  | none =>
      cases responses with
      | some payloads => exact .response payloads (distinct.response _ rfl)
      | none => exact .empty

/-! ## Judgements -/

section

variable {catalog : Catalog} {left right : Json} {most : Nat}

theorem compareValues_of_reordered
    {root : String}
    {expected other : Typed}
    (reordered : expected.toWire.Reordered other.toWire)
    (actual : Typed) :
    compareValues most root expected actual = .ok () ↔
      compareValues most root other actual = .ok () := by
  rw [compareValues_eq_ok_iff, compareValues_eq_ok_iff, reordered.equal_eq]

theorem coerceRecord_of_reordered
    (reordered : left.Reordered right)
    (distinct : left.KeysDistinct)
    (catalog : Catalog)
    (record : RecordSchema) :
    SameResult ((coerceRecord catalog record left).map .record)
      ((coerceRecord catalog record right).map .record) := by
  rw [coerceRecord, coerceRecord, ← coerceAt_record, ← coerceAt_record]
  exact coerceAt_of_reordered reordered distinct catalog rootPath (.record record)

theorem expectedLike_of_reordered
    (reordered : left.Reordered right)
    (distinct : left.KeysDistinct)
    (actual : Typed) :
    SameResult (expectedLike catalog left actual) (expectedLike catalog right actual) := by
  cases actual with
  | record found =>
      rw [expectedLike, expectedLike]
      cases catalog.record found.typeName with
      | error failure => exact .failures failure failure
      | ok record => exact coerceRecord_of_reordered reordered distinct catalog record
  | _ => exact .values reordered

theorem judgeError_of_reordered
    (reordered : left.Reordered right)
    (distinct : left.KeysDistinct)
    (actual : ServiceError) :
    judgeError catalog most left actual = .ok () ↔
      judgeError catalog most right actual = .ok () := by
  have same := coerceRecord_of_reordered reordered distinct catalog errorRecord
  rw [judgeError, judgeError]
  generalize coerceRecord catalog errorRecord left = leftRead,
    coerceRecord catalog errorRecord right = rightRead at same
  cases leftRead with
  | error failure =>
      cases rightRead with
      | error other => exact iff_of_false nofun nofun
      | ok other => cases same
  | ok expected =>
      cases rightRead with
      | error other => cases same
      | ok other =>
          cases coerceRecord catalog errorRecord actual.toWire with
          | error failure => exact .rfl
          | ok found =>
              cases same with
              | values wires => exact compareValues_of_reordered wires (.record found)

theorem judgeResponse_of_reordered
    (reordered : left.Reordered right)
    (distinct : left.KeysDistinct)
    (actual : Typed) :
    judgeResponse catalog most left actual = .ok () ↔
      judgeResponse catalog most right actual = .ok () := by
  have same : SameResult (expectedLike catalog left actual) (expectedLike catalog right actual) :=
    expectedLike_of_reordered reordered distinct actual
  rw [judgeResponse, judgeResponse]
  generalize expectedLike catalog left actual = leftRead,
    expectedLike catalog right actual = rightRead at same
  cases same with
  | failures => exact iff_of_false nofun nofun
  | values wires => exact compareValues_of_reordered wires actual

/-- A reply is judged well by both expectations or by neither. -/
theorem judge_of_reordered
    {expectation other : Expectation}
    (reordered : expectation.Reordered other)
    (reply : Reply) :
    judge catalog most expectation reply = .ok () ↔ judge catalog most other reply = .ok () := by
  cases reordered with
  | empty => exact .rfl
  | error payloads distinct =>
      cases reply with
      | error actual => exact judgeError_of_reordered payloads distinct actual
      | value actual => exact iff_of_false nofun nofun
  | response payloads distinct =>
      cases reply with
      | error actual => exact .rfl
      | value actual => exact judgeResponse_of_reordered payloads distinct actual

end

/-! ## Verdicts -/

section

variable {σ : Type}

theorem Case.Reordered.prepare_eq
    {left right : Case}
    (reordered : left.Reordered right)
    (client : Client σ) :
    client.prepare left = client.prepare right := by
  rw [Client.prepare, Client.prepare, reordered.method, reordered.request]

/-- A case that expects reordered values has the same verdict and the same effect. -/
theorem Case.Reordered.replayCase
    {left right : Case}
    (reordered : left.Reordered right)
    (distinct : left.KeysDistinct)
    (client : Client σ)
    (most : Nat)
    (state : σ) :
    (client.replayCase most left state).1.outcome.isPassed =
        (client.replayCase most right state).1.outcome.isPassed ∧
      (client.replayCase most left state).2 = (client.replayCase most right state).2 := by
  cases prepared : client.prepare left with
  | error failure =>
      have otherPrepared := (reordered.prepare_eq client).symm.trans prepared
      rw [replayCase_of_refused prepared, replayCase_of_refused otherPrepared]
      exact ⟨rfl, rfl⟩
  | ok call =>
      rcases call with ⟨method, arguments⟩
      have otherPrepared := (reordered.prepare_eq client).symm.trans prepared
      rw [replayCase_of_answer prepared rfl, replayCase_of_answer otherPrepared rfl]
      refine ⟨?_, rfl⟩
      rw [Bool.eq_iff_iff, Outcome.isPassed_iff, Outcome.isPassed_iff,
        outcome_ofCheck_passed_iff, outcome_ofCheck_passed_iff, Client.judgeAnswer,
        Client.judgeAnswer]
      cases (client.call method arguments state).1.toReply method with
      | error failure => exact .rfl
      | ok reply => exact judge_of_reordered (reordered.expectation distinct) reply

end

/--
The order of keys decides nothing.  Where objects have distinct keys, a value is coerced under a
schema if and only if a reordered form of it is, and then to values whose wire forms are
reordered forms of each other; and a case and one that expects reordered values both pass or
both fail, whatever the client replies.
-/
theorem order_of_keys_decides_nothing :
    (∀ (catalog : Catalog) (path : Path) (schema : Schema) (left right : Json),
        left.Reordered right → left.KeysDistinct →
          ((∃ value, coerceAt catalog path schema left = .ok value) ↔
            ∃ other, coerceAt catalog path schema right = .ok other) ∧
          ∀ value other, coerceAt catalog path schema left = .ok value →
            coerceAt catalog path schema right = .ok other →
              value.toWire.Reordered other.toWire) ∧
      ∀ (σ : Type) (client : Client σ) (most : Nat) (state : σ) (left right : Case),
        left.Reordered right → left.KeysDistinct →
          (client.replayCase most left state).1.outcome.isPassed =
              (client.replayCase most right state).1.outcome.isPassed ∧
            (client.replayCase most left state).2 = (client.replayCase most right state).2 := by
  constructor
  · intro catalog path schema left right reordered distinct
    have same := coerceAt_of_reordered reordered distinct catalog path schema
    exact ⟨same.isOk_iff, fun _ _ => same.reordered⟩
  · intro σ client most state left right reordered distinct
    exact reordered.replayCase distinct client most state

namespace Demo

/-- A field that is a widget as one of several choices, and a map. -/
def choiceAndMap : Json :=
  .object [
    ("choice", .object [("Name", .string "bolt"), ("price", .null)]),
    ("map", .object [("right", .string "r"), ("left", .string "l")])]

/-- The same with the keys of all three objects the other way round. -/
def mapAndChoice : Json :=
  .object [
    ("map", .object [("left", .string "l"), ("right", .string "r")]),
    ("choice", .object [("price", .null), ("Name", .string "bolt")])]

/-- A case that sends a choice and a map and expects some field in return. -/
def mirrorCase (expected : Json) : Case :=
  ⟨"mirror", "mirrorFields", [("field", choiceAndMap)], some (.object [("field", expected)]), none⟩

theorem choiceAndMap_reordered :
    choiceAndMap.Reordered mapAndChoice := by
  have swapped (first second : String × Json) : [first, second].Perm [second, first] :=
    .swap second first []
  refine .object (swapped _ _) rfl (.cons ?_ (.cons ?_ .nil))
  · exact .object (swapped _ _) rfl (.cons (.refl _) (.cons (.refl _) .nil))
  · exact .object (swapped _ _) rfl (.cons (.refl _) (.cons (.refl _) .nil))

theorem keysDistinct_choiceAndMap :
    choiceAndMap.KeysDistinct := by
  refine .object (by decide) ?_
  simp only [List.mem_cons, Prod.mk.injEq, List.not_mem_nil, or_false]
  rintro key item (⟨rfl, rfl⟩ | ⟨rfl, rfl⟩)
  · refine .object (by decide) ?_
    simp only [List.mem_cons, Prod.mk.injEq, List.not_mem_nil, or_false]
    rintro key item (⟨rfl, rfl⟩ | ⟨rfl, rfl⟩) <;> constructor
  · refine .object (by decide) ?_
    simp only [List.mem_cons, Prod.mk.injEq, List.not_mem_nil, or_false]
    rintro key item (⟨rfl, rfl⟩ | ⟨rfl, rfl⟩) <;> constructor

theorem mirrorCase_reordered :
    (mirrorCase choiceAndMap).Reordered (mirrorCase mapAndChoice) where
  name := rfl
  method := rfl
  request := rfl
  response := .some (.object (.refl _) rfl (.cons choiceAndMap_reordered .nil))
  error := .none

theorem keysDistinct_mirrorCase :
    (mirrorCase choiceAndMap).KeysDistinct where
  response := by
    rintro payload ⟨rfl⟩
    refine .object (by decide) ?_
    simp only [List.mem_singleton, Prod.mk.injEq]
    rintro key item ⟨rfl, rfl⟩
    exact keysDistinct_choiceAndMap
  error := nofun

end Demo

/-- What was sent is expected with all keys the other way round. -/
theorem order_of_keys_decides_nothing_mirror :
    (∃ value,
        coerceAt Demo.catalog rootPath (.reference "Any") Demo.mapAndChoice = .ok value) ∧
      (Demo.client.replayCase 8 (Demo.mirrorCase Demo.mapAndChoice) ()).1.outcome.isPassed =
        true := by
  constructor
  · rw [← (order_of_keys_decides_nothing.1 Demo.catalog rootPath (.reference "Any") _ _
      Demo.choiceAndMap_reordered Demo.keysDistinct_choiceAndMap).1]
    exact ⟨_, rfl⟩
  · rw [← (order_of_keys_decides_nothing.2 Unit Demo.client 8 () _ _
      Demo.mirrorCase_reordered Demo.keysDistinct_mirrorCase).1]
    decide +kernel

end ContractReplay
