import ContractReplay.Proofs.Demo.Replies
import ContractReplay.Proofs.Replay.BoundArguments
import ContractReplay.Proofs.Replay.Reordering
import ContractReplay.Proofs.Replay.Stages

/-!
# The mirror of the demo service

One operation of the demo service sends back what it was sent.  A recorded case that expects its
own request as the response therefore asks whether a value survives the way through a client: it
is coerced by the schema of a parameter, copied by the service, and compared with the same JSON
coerced by the fields of the response.  The schemas of the parameters are those of the fields and
the values stand at the same paths, so the two sides are one record value.
-/

namespace ContractReplay.Demo

open Coercion

/-- The schema of the parameter and of the field that a key of a mirrored request is for. -/
def mirrorSchema (key : String) : Schema :=
  if key = "field" then .reference "Any" else .list (.list (.scalar .float))

/-- The case that sends fields to the mirror and expects them back. -/
def mirroringCase (name : String) (request : Json.Members) : Case :=
  ⟨name, "mirrorFields", request, some (.object request), none⟩

/-- That a member of a request can be mirrored: its value is `null` or is coerced. -/
def Mirrors (member : String × Json) : Prop :=
  member.2 = .null ∨ ∃ value, coerce catalog (mirrorSchema member.1) member.2 = .ok value

/-- That a request has no other keys than those of the fields that are mirrored. -/
def MirrorKeys (request : Json.Members) : Prop :=
  ∀ member ∈ request, member.1 = "field" ∨ member.1 = "matrix"

/-! ## Its parameters -/

/-- The parameter that a key of a mirrored request is for. -/
def mirrorParameter (key : String) : Parameter :=
  ⟨key, mirrorSchema key, key = "matrix"⟩

theorem catalog_client :
    client.catalog = catalog :=
  rfl

theorem resolveMethod_mirrorFields :
    resolveMethod client.methods "mirrorFields" = .ok Operation.mirrorFields.method := by
  rfl

theorem resolveParameter_mirror
    {key : String}
    (isKey : key = "field" ∨ key = "matrix") :
    Operation.mirrorFields.method.resolveParameter key = .ok (mirrorParameter key) := by
  rcases isKey with rfl | rfl <;> rfl

variable {request : Json.Members} {member : String × Json} {failure : Failure}

theorem parameter?_mirror
    {key : String}
    (isKey : key = "field" ∨ key = "matrix") :
    Operation.mirrorFields.method.parameter? (mirrorParameter key).name =
      some (mirrorParameter key) :=
  parameter?_of_resolveParameter (resolveParameter_mirror isKey)

theorem addresses_mirror_iff
    {key : String}
    (isKey : member.1 = "field" ∨ member.1 = "matrix") :
    Operation.mirrorFields.method.Addresses member key ↔ member.1 = key := by
  rw [Method.Addresses, resolveParameter_mirror isKey]
  simp [mirrorParameter]

/-- The value under a key fits its parameter exactly when it can be mirrored. -/
theorem fits_iff_mirrors
    (isKey : member.1 = "field" ∨ member.1 = "matrix")
    (distinct : member.2.KeysDistinct) :
    Operation.mirrorFields.method.Fits catalog member ↔ Mirrors member := by
  have anywhere {path place : Path} {schema : Schema} {value : Typed}
      (coerced : coerceAt catalog path schema member.2 = .ok value) :
      coerceAt catalog place schema member.2 = .ok value := by
    rcases sameCoercion_of_reordered (.refl member.2) distinct path schema value coerced with
      ⟨other, same, -⟩
    rw [same place, ← coerced, same path]
  rw [Method.Fits, resolveParameter_mirror isKey, Mirrors]
  constructor
  · rintro ⟨parameter, isParameter, isNull | ⟨value, coerced⟩⟩
    · exact .inl isNull
    · cases isParameter
      exact .inr ⟨value, anywhere coerced⟩
  · rintro (isNull | ⟨value, coerced⟩)
    · exact ⟨_, rfl, .inl isNull⟩
    · exact ⟨_, rfl, .inr ⟨value, anywhere coerced⟩⟩

/-! ## Its response -/

/-- The response with some values for the fields. -/
def mirrorValue (field matrix : Option Typed) : Record :=
  ⟨"MirrorFieldsResponse", [⟨"field", "field", field⟩, ⟨"matrix", "matrix", matrix⟩]⟩

theorem call_mirrorFields
    (arguments : Arguments) :
    client.call Operation.mirrorFields.method arguments () =
      (.reply (success (mirrorValue (arguments.get? "field") (arguments.get? "matrix"))), ()) := by
  rcases exists_reply_to_call arguments .mirrorFields with ⟨reply, answered, replies⟩
  rw [answered]
  cases replies with
  | mirrored => rfl
  | notFound asksFor => simp at asksFor

theorem record_mirrorResponse :
    catalog.record "MirrorFieldsResponse" = .ok mirrorResponse :=
  hasRecords_catalog.response .mirrorFields

/-- The field of the response that a key is for. -/
def mirrorField (key : String) : FieldSchema :=
  ⟨key, key, mirrorSchema key, false⟩

theorem fields_mirrorResponse :
    mirrorResponse.fields = [mirrorField "field", mirrorField "matrix"] := by
  rfl

/-- A field of the response is looked up under its own key, as there are no other spellings. -/
theorem fieldValue?_mirror
    (keys : MirrorKeys request)
    {key : String}
    (isKey : key = "field" ∨ key = "matrix") :
    request.fieldValue? (mirrorField key) = Json.Members.get? key request := by
  have absent {name : String} (notKey : name ≠ "field" ∧ name ≠ "matrix") :
      Json.Members.get? name request = none := by
    rw [Json.Members.get?_eq_none_iff]
    intro isName
    rcases List.mem_map.mp isName with ⟨member, isMember, rfl⟩
    exact (keys member isMember).elim notKey.1 notKey.2
  have spelled :
      (mirrorField key).candidates = [key, if key = "field" then "Field" else "Matrix"] := by
    rcases isKey with rfl | rfl <;> decide +kernel
  have capital :
      Json.Members.get? (if key = "field" then "Field" else "Matrix") request = none := by
    rcases isKey with rfl | rfl
    · exact absent (by decide)
    · exact absent (by decide)
  rw [Json.Members.fieldValue?, spelled, List.findSome?_cons, List.findSome?_cons,
    List.findSome?_nil, capital]
  cases Json.Members.get? key request <;> rfl

/-- The mirrored request is read as the response that the service gives. -/
theorem coerceRecord_mirrorResponse
    {arguments : Arguments}
    (keys : MirrorKeys request)
    (distinct : request.keys.Nodup)
    (bound : bindRequest catalog Operation.mirrorFields.method request = .ok arguments) :
    coerceRecord catalog mirrorResponse (.object request) =
      .ok (mirrorValue (arguments.get? "field") (arguments.get? "matrix")) := by
  have fieldRead {key : String} (isKey : key = "field" ∨ key = "matrix") :
      coerceField catalog rootPath request (mirrorField key) = .ok (arguments.get? key) := by
    rw [coerceField_eq, fieldValue?_mirror keys isKey]
    exact
      coerceOptional_get?_of_binds (binds_of_bindRequest bound) distinct
        (parameter?_mirror isKey)
        (fun member isMember => addresses_mirror_iff (keys member isMember))
  have filled :
      fillSlots (coerceField catalog rootPath request) mirrorResponse.fields =
        .ok (mirrorValue (arguments.get? "field") (arguments.get? "matrix")).slots := by
    rw [fields_mirrorResponse, fillSlots_eq_ok_iff]
    exact
      .cons ⟨_, fieldRead (.inl rfl), rfl⟩ (.cons ⟨_, fieldRead (.inr rfl), rfl⟩ .nil)
  exact map_eq_ok_iff.mpr ⟨_, filled, rfl⟩

/-! ## The verdict -/

/-- A request all of whose values can be mirrored passes. -/
theorem mirroringCase_passed
    {most : Nat}
    (name : String)
    (distinct : (Json.object request).KeysDistinct)
    (keys : MirrorKeys request)
    (fits : ∀ member ∈ request, Operation.mirrorFields.method.Fits catalog member) :
    (client.replayCase most (mirroringCase name request) ()).1.outcome.verdict = .passed := by
  rcases exists_bindRequest_eq_ok_iff.mpr fits with ⟨arguments, bound⟩
  have prepared :
      client.prepare (mirroringCase name request) =
        .ok (Operation.mirrorFields.method, arguments) := by
    rw [Client.prepare, mirroringCase, resolveMethod_mirrorFields]
    exact map_eq_ok_iff.mpr ⟨arguments, bound, rfl⟩
  have keysNodup : request.keys.Nodup := by
    cases distinct with
    | object keysNodup _ => exact keysNodup
  have read := coerceRecord_mirrorResponse keys keysNodup bound
  have conforming := conforms_of_coerceAt ((coerceAt_record _ _ _ _).trans (congrArg _ read))
  have expectation : (mirroringCase name request).expectation = .response (.object request) := rfl
  rw [passed_iff_judge_eq_ok prepared (call_mirrorFields arguments), expectation, catalog_client,
    success, judge, judgeResponse, expectedLike]
  simp only [mirrorValue, record_mirrorResponse, read]
  exact
    compareValues_eq_ok_iff.mpr
      (Json.equal_self (keysDistinct_of_conforms conforming distinct).wire)

/-- A request with a value that cannot be mirrored fails for the first one, without a call. -/
theorem mirroringCase_failed
    {most : Nat}
    (name : String)
    (keys : MirrorKeys request)
    (first : FirstFailing (Operation.mirrorFields.method.Fits catalog) request member) :
    ∃ failure,
      coerceAt catalog (rootPath.add (.field member.1)) (mirrorSchema member.1) member.2 =
          .error failure ∧
        client.replayCase most (mirroringCase name request) () =
          (.ofCheck name (.error (.ofFailure failure)), ()) ∧
        (client.recording.replayCase most (mirroringCase name request) ((), [])).2.2 = [] := by
  have resolved := resolveParameter_mirror (keys member first.mem)
  have known : ∀ other ∈ request, Operation.mirrorFields.method.Knows other :=
    fun other isMember => knows_of_resolveParameter (resolveParameter_mirror (keys other isMember))
  rcases exists_refuses_of_knows (known member first.mem) first.fails with ⟨failure, refuses⟩
  have refused : bindRequest catalog Operation.mirrorFields.method request = .error failure :=
    bindRequest_eq_error_iff.mpr (.inr ⟨known, member, first, refuses⟩)
  have notPrepared : client.prepare (mirroringCase name request) = .error failure := by
    rw [Client.prepare, mirroringCase, resolveMethod_mirrorFields]
    exact map_eq_error_iff.mpr refused
  rcases refuses with ⟨parameter, isParameter, -, fails⟩
  cases resolved.symm.trans isParameter
  refine ⟨failure, fails, replayCase_of_refused notPrepared, ?_⟩
  rw [replayCase_recording, Client.callsOf, notPrepared]
  rfl

/--
The demo service mirrors.  A case that sends an object with the fields of the mirror and expects
the same object passes when every value that is not `null` is coerced by the schema of its field.
Otherwise it fails without a call, with the code and the words of the failure to coerce the first
value, in the order of the object, that is not.
-/
theorem mirrorFields_mirrors
    (most : Nat)
    (name : String)
    (request : Json.Members)
    (distinct : (Json.object request).KeysDistinct)
    (keys : MirrorKeys request) :
    ((∀ member ∈ request, Mirrors member) →
        (client.replayCase most (mirroringCase name request) ()).1.outcome.verdict = .passed) ∧
      ((¬ ∀ member ∈ request, Mirrors member) →
        ∃ member failure,
          FirstFailing Mirrors request member ∧
            coerceAt catalog (rootPath.add (.field member.1)) (mirrorSchema member.1) member.2 =
              .error failure ∧
            (client.replayCase most (mirroringCase name request) ()).1.outcome.verdict =
              .failed failure.code [failure.message] ∧
            (client.recording.replayCase most (mirroringCase name request) ((), [])).2.2 = []) := by
  have valuesDistinct : ∀ member ∈ request, member.2.KeysDistinct := by
    cases distinct with
    | object _ inside => exact fun member isMember => inside member.1 member.2 isMember
  have same :
      ∀ member ∈ request, Operation.mirrorFields.method.Fits catalog member ↔ Mirrors member :=
    fun member isMember => fits_iff_mirrors (keys member isMember) (valuesDistinct member isMember)
  constructor
  · intro mirrors
    exact
      mirroringCase_passed name distinct keys fun member isMember =>
        (same member isMember).mpr (mirrors member isMember)
  · intro notAll
    rcases exists_firstFailing_of_not_forall notAll with ⟨member, first⟩
    have firstMisfit := first.congr fun other isMember => (same other isMember).symm
    rcases mirroringCase_failed name keys firstMisfit with ⟨failure, fails, replayed, noCall⟩
    refine ⟨member, failure, first, fails, ?_, noCall⟩
    rw [replayed]
    rfl

/-- A request for the mirror with a choice and a map, and some value for the other field. -/
def choiceAndMatrix (matrix : Json) : Json.Members :=
  [("field", choiceAndMap), ("matrix", matrix)]

theorem keysDistinct_choiceAndMatrix
    {matrix : Json}
    (distinct : matrix.KeysDistinct) :
    (Json.object (choiceAndMatrix matrix)).KeysDistinct := by
  refine .object (by simp [choiceAndMatrix, Json.Members.keys]) ?_
  simp only [choiceAndMatrix, List.mem_cons, Prod.mk.injEq, List.not_mem_nil, or_false]
  rintro key item (⟨rfl, rfl⟩ | ⟨rfl, rfl⟩)
  · exact keysDistinct_choiceAndMap
  · exact distinct

theorem mirrorKeys_choiceAndMatrix
    (matrix : Json) :
    MirrorKeys (choiceAndMatrix matrix) := by
  simp [MirrorKeys, choiceAndMatrix]

/-- A choice and a map come back without a matrix; a text is no matrix, and no call is made. -/
theorem mirrorFields_mirrors_choiceAndMatrix :
    (client.replayCase 8
        (mirroringCase "mirror" (choiceAndMatrix .null)) ()).1.outcome.verdict = .passed ∧
      (client.recording.replayCase 8
        (mirroringCase "mirror" (choiceAndMatrix (.string "m"))) ((), [])).2.2 = [] := by
  constructor
  · apply
      (mirrorFields_mirrors 8 "mirror" _ (keysDistinct_choiceAndMatrix .null)
        (mirrorKeys_choiceAndMatrix _)).1
    simp only [choiceAndMatrix, List.forall_mem_cons, List.not_mem_nil, false_implies,
      implies_true, and_true]
    exact ⟨.inr ⟨_, rfl⟩, .inl rfl⟩
  · have refused : ¬ ∀ member ∈ choiceAndMatrix (.string "m"), Mirrors member := by
      intro mirrors
      rcases mirrors ("matrix", .string "m") (by simp [choiceAndMatrix]) with isNull | ⟨_, read⟩
      · cases isNull
      · cases read
    rcases
      (mirrorFields_mirrors 8 "mirror" _ (keysDistinct_choiceAndMatrix (.string "m"))
        (mirrorKeys_choiceAndMatrix _)).2 refused
      with ⟨member, failure, -, -, -, noCall⟩
    exact noCall

end ContractReplay.Demo
