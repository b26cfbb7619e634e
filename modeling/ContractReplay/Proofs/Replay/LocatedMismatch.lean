import ContractReplay.Proofs.Coercion.Outline
import ContractReplay.Proofs.Difference.Verdict
import ContractReplay.Proofs.Replay.Stages

/-!
# A mismatch is told with its place

A case fails where the wire form of what it expects differs from that of the value that the
client returned, and the walk through both tells where.  The wire forms are compared by wire
names and the walk goes by the names of fields, so it explains the failure as long as a field
that is set on both sides goes by one wire name.  Only unions can break this: what is expected is
read by the first variant that fits, and what was returned may be of another.
-/

namespace ContractReplay

open Coercion Schema

/-! ## What a record value is compared with -/

/-- The record value with which a case compares one that a call returned. -/
inductive Case.Expects (catalog : Catalog) (case : Case) (actual : Record) : Record → Prop where
  | response
      {payload : Json}
      {record : RecordSchema}
      {expected : Record}
      (stated : case.expectation = .response payload)
      (registered : catalog.record actual.typeName = .ok record)
      (coerced : coerceRecord catalog record payload = .ok expected) :
      Expects catalog case actual expected
  | empty
      (nothing : case.expectation = .empty) :
      Expects catalog case actual actual.cleared

section

variable {catalog : Catalog} {case : Case} {expected actual : Record} {most : Nat}

/-- Unequal wire forms fail the case, with the first differences of the walk. -/
theorem judge_of_unequal
    (expects : case.Expects catalog actual expected)
    (unequal : expected.toWire.equal actual.toWire = false) :
    judge catalog most case.expectation (.value (.record actual)) =
      .error
        ⟨.mismatch (Typed.record expected).repr (Typed.record actual).repr,
          (Walk.start "value" (.record expected) (.record actual)).take most⟩ := by
  have compared :
      compareValues most "value" (.record expected) (.record actual) =
        .error
          ⟨.mismatch (Typed.record expected).repr (Typed.record actual).repr,
            (Walk.start "value" (.record expected) (.record actual)).take most⟩ := by
    rw [compareValues]
    exact if_neg (Bool.eq_false_iff.mp unequal)
  cases expects with
  | @response payload record _ stated registered coerced =>
      have expectedRead :
          expectedLike catalog payload (.record actual) = .ok (.record expected) := by
        rw [expectedLike, registered]
        exact map_eq_ok_iff.mpr ⟨expected, coerced, rfl⟩
      rw [stated, judge, judgeResponse, expectedRead]
      exact compared
  | empty nothing =>
      have notEmpty : ¬ actual.isEmpty = true := by
        rw [← RecordValueOf.equal_cleared_iff]
        exact Bool.eq_false_iff.mp unequal
      rw [nothing, judge, judgeEmpty, if_neg notEmpty]
      exact compared

/-- What a record value is compared with has the outline of the same record. -/
theorem Case.Expects.hasOutline
    {record : RecordSchema}
    (expects : case.Expects catalog actual expected)
    (registered : catalog.record actual.typeName = .ok record)
    (outlined : HasOutline catalog (.record record) (.record actual)) :
    HasOutline catalog (.record record) (.record expected) := by
  cases expects with
  | @response payload _ _ _ otherRegistered coerced =>
      cases registered.symm.trans otherRegistered
      have coercedAt :
          coerceAt catalog rootPath (.record record) payload = .ok (.record expected) := by
        rw [coerceAt_record]
        exact map_eq_ok_iff.mpr ⟨expected, coerced, rfl⟩
      exact (conforms_of_coerceAt coercedAt).hasOutline
  | empty => exact outlined.cleared

end

/-! ## The first difference -/

/-- Registration sees to the names of a record, so only records written inside others may clash. -/
theorem allDistinct_of_inlineDistinct
    {catalog : Catalog}
    {schemas : List Schema}
    {schema : Schema}
    (built : Catalog.ofSchemas schemas = .ok catalog)
    (inlineDistinct :
      ∀ inner : RecordSchema, Reaches catalog schema (.record inner) →
        (∀ name, catalog.record name ≠ .ok inner) → inner.DistinctNames) :
    AllDistinct catalog schema := by
  intro inner reached
  by_cases registered : ∃ name, catalog.record name = .ok inner
  · rcases registered with ⟨name, found⟩
    exact Catalog.distinctNames_of_record built found
  · exact inlineDistinct inner reached (not_exists.mp registered)

/-- A walk through values with unequal wire forms finds a difference, and knows its place. -/
theorem exists_first_difference
    {expected actual : Typed}
    (apart : NamedApart expected actual)
    (shares : ∀ left right, Meets expected actual left right → left.SharesWires right)
    (unequal : expected.toWire.equal actual.toWire = false)
    (root : String)
    (most : Nat) :
    ∃ difference later fields left right,
      (Walk.start root expected actual).take (most + 1) = difference :: later ∧
        Along fields (some expected) (some actual) left right ∧
          difference.StandsAt root fields left right := by
  rw [Walk.take_eq_take_toList, Walk.toList_start]
  cases found : Difference.list (.ofRoot root) (some actual) (some expected) with
  | nil =>
      have equal := Difference.equal_of_list_eq_nil apart shares found
      rw [unequal] at equal
      cases equal
  | cons difference later =>
      have isFound : difference ∈ Difference.list (.ofRoot root) (some actual) (some expected) := by
        rw [found]
        exact List.mem_cons_self
      rcases Difference.exists_along_of_mem_list apart _ isFound with
        ⟨fields, left, right, along, shows⟩
      exact ⟨difference, later.take most, fields, left, right, rfl, along, shows.standsAt⟩

/--
A mismatch is told with its place.  Let a call return a record value that has the slots of the
registered record it names, as every well-typed value has, and let the records that are written
inside others, without a registration that would see to it, have distinct field names and distinct
wire names.  Let no union be reached from this record, or let every field that is set on both sides
go by one wire name there.  Where a case expects another wire form, the first line after the
message tells of a place along declared fields and of the two sides that have unequal wire forms at
this place.
-/
theorem mismatch_is_located
    {σ : Type}
    {client : Client σ}
    {case : Case}
    {method : Method}
    {arguments : Arguments}
    {state next : σ}
    {most : Nat}
    {schemas : List Schema}
    {record : RecordSchema}
    {expected actual : Record}
    (built : Catalog.ofSchemas schemas = .ok client.catalog)
    (registered : client.catalog.record actual.typeName = .ok record)
    (typed : HasOutline client.catalog (.record record) (.record actual))
    (inlineDistinct :
      ∀ inner : RecordSchema, Reaches client.catalog (.record record) (.record inner) →
        (∀ name, client.catalog.record name ≠ .ok inner) → inner.DistinctNames)
    (prepared : client.prepare case = .ok (method, arguments))
    (answered : client.call method arguments state = (.reply (.value (.record actual)), next))
    (expects : case.Expects client.catalog actual expected)
    (shares :
      UnionFree client.catalog (.record record) ∨
        ∀ left right, Meets (.record expected) (.record actual) left right →
          left.SharesWires right)
    (unequal : expected.toWire.equal actual.toWire = false)
    (shown : 1 ≤ most) :
    ∃ (difference : Difference) (later fields : List String) (left right : Option Typed),
      (client.replayCase most case state).1.outcome.verdict =
          .failed 3007
            ((Failure.mismatch (Typed.record expected).repr (Typed.record actual).repr).message ::
              difference.line :: later) ∧
        Along fields (some (.record expected)) (some (.record actual)) left right ∧
          difference.StandsAt "value" fields left right := by
  have distinct : AllDistinct client.catalog (.record record) :=
    allDistinct_of_inlineDistinct built inlineDistinct
  have expectedTyped : HasOutline client.catalog (.record record) (.record expected) :=
    expects.hasOutline registered typed
  have apart : NamedApart (.record expected) (.record actual) :=
    namedApart_of_hasOutline distinct distinct expectedTyped typed
  have sharesWires :
      ∀ left right, Meets (.record expected) (.record actual) left right →
        left.SharesWires right := by
    rcases shares with unionFree | shares
    · exact sharesWires_of_unionFree distinct unionFree expectedTyped typed
    · exact shares
  obtain ⟨fewer, rfl⟩ : ∃ fewer, most = fewer + 1 := ⟨most - 1, by omega⟩
  rcases exists_first_difference apart sharesWires unequal "value" fewer with
    ⟨difference, later, fields, left, right, first, along, standsAt⟩
  refine ⟨difference, later.map Difference.line, fields, left, right, ?_, along, standsAt⟩
  rw [replayCase_of_reply prepared answered, judge_of_unequal expects unequal, first]
  rfl

namespace Demo

/-- A ticket, whose item goes by one wire name. -/
def ticketRecord : RecordSchema where
  name := "Ticket"
  fields := [.ofWireName "itemId" (.scalar .string)]

/-- A coupon, whose item goes by another. -/
def couponRecord : RecordSchema where
  name := "Coupon"
  fields := [.ofWireName "item_id" (.scalar .string), .ofWireName "label" (.scalar .string)]

/-- An envelope with a ticket or a coupon. -/
def envelopeRecord : RecordSchema where
  name := "Envelope"
  fields := [.ofWireName "content" (.union [.reference "Ticket", .reference "Coupon"])]

/-- The records of envelopes and what is in them. -/
def envelopeSchemas : List Schema :=
  [.record ticketRecord, .record couponRecord, .record envelopeRecord]

/-- An envelope with a ticket for an item. -/
def ticketEnvelope (item : String) : Record :=
  ⟨"Envelope",
    [⟨"content", "content",
      some (.record ⟨"Ticket", [⟨"item_id", "itemId", some (.string item)⟩]⟩)⟩]⟩

/-- An envelope with a coupon that may be for an item and may have a label. -/
def couponEnvelope (item label : Option String) : Record :=
  ⟨"Envelope",
    [⟨"content", "content",
      some (.record ⟨"Coupon",
        [⟨"item_id", "item_id", item.map .string⟩, ⟨"label", "label", label.map .string⟩]⟩)⟩]⟩

/-- The catalog of envelopes. -/
def envelopeCatalog : Catalog :=
  ⟨[.record ticketRecord, .record couponRecord, .record envelopeRecord]⟩

/-- A client that always returns one envelope. -/
def envelopeClient (envelope : Record) : Client Unit where
  methods := [⟨"get_envelope", []⟩]
  catalog := envelopeCatalog
  call := fun _ _ state => (.reply (.value (.record envelope)), state)

/-- A case that expects an item under one key. -/
def envelopeCase (key item : String) : Case :=
  ⟨"envelope", "getEnvelope", [], some (.object [("content", .object [(key, .string item)])]), none⟩

theorem envelopeCatalog_built :
    Catalog.ofSchemas envelopeSchemas = .ok envelopeCatalog := by
  rfl

theorem envelopeRecord_registered :
    envelopeCatalog.record "Envelope" = .ok envelopeRecord := by
  rfl

theorem envelopeRecord_allDistinct :
    AllDistinct envelopeCatalog (.record envelopeRecord) :=
  allDistinct_of_everywhere (by decide +kernel) (by decide +kernel)

theorem envelopeClient_prepare
    (envelope : Record)
    (key item : String) :
    (envelopeClient envelope).prepare (envelopeCase key item) =
      .ok (⟨"get_envelope", []⟩, .empty) := by
  have resolved :
      resolveMethod (envelopeClient envelope).methods "getEnvelope" =
        .ok ⟨"get_envelope", []⟩ := by
    rfl
  have bound :
      bindRequest envelopeCatalog ⟨"get_envelope", []⟩ [] = .ok .empty := by
    rfl
  rw [Client.prepare, envelopeCase, resolved]
  exact map_eq_ok_iff.mpr ⟨_, bound, rfl⟩

/-- An item under the key of either record is read into a ticket, the first variant. -/
theorem envelopeCase_expects
    (envelope : Record)
    (named : envelope.typeName = "Envelope")
    (item : String)
    {key : String}
    (isKey : key = "itemId" ∨ key = "item_id") :
    (envelopeCase key item).Expects envelopeCatalog envelope (ticketEnvelope item) := by
  have registered : envelopeCatalog.record envelope.typeName = .ok envelopeRecord := by
    rw [named]
    exact envelopeRecord_registered
  refine .response rfl registered ?_
  rcases isKey with rfl | rfl <;> rfl

theorem couponEnvelope_wellTyped
    (item label : Option String) :
    WellTyped envelopeCatalog (.record envelopeRecord)
      (.record (couponEnvelope item label)) := by
  have coupon :
      WellTyped envelopeCatalog (.record couponRecord)
        (.record ⟨"Coupon",
          [⟨"item_id", "item_id", item.map .string⟩, ⟨"label", "label", label.map .string⟩]⟩) := by
    refine .record rfl ?_ (by cases item <;> cases label <;> simp)
    intro field slot value paired set
    simp only [couponRecord, List.zip_cons_cons, List.zip_nil_left, List.mem_cons,
      Prod.mk.injEq, List.not_mem_nil, or_false] at paired
    rcases paired with ⟨rfl, rfl⟩ | ⟨rfl, rfl⟩
    · rcases Option.map_eq_some_iff.mp set with ⟨text, -, rfl⟩
      exact .string text
    · rcases Option.map_eq_some_iff.mp set with ⟨text, -, rfl⟩
      exact .string text
  refine .record rfl ?_ (by simp)
  intro field slot value paired set
  simp only [envelopeRecord, List.zip_cons_cons, List.zip_nil_left, List.mem_singleton,
    Prod.mk.injEq] at paired
  rcases paired with ⟨rfl, rfl⟩
  cases set
  have resolved : envelopeCatalog.resolve "Coupon" = .ok (.record couponRecord) := by
    rfl
  exact .union (List.mem_cons_of_mem _ List.mem_cons_self) (.reference resolved coupon)

/-- No field of an envelope with a ticket is set under another wire name in one with a label. -/
theorem sharesWires_of_meets
    (item label : String)
    {left right : Record}
    (met :
      Meets (.record (ticketEnvelope item)) (.record (couponEnvelope none (some label)))
        left right) :
    left.SharesWires right := by
  cases met with
  | here =>
      simp [RecordValueOf.SharesWires, ticketEnvelope, couponEnvelope]
  | inside declared set found met =>
      obtain rfl := List.mem_singleton.mp declared
      cases set
      cases found
      cases met with
      | here => simp [RecordValueOf.SharesWires]
      | inside declared set found met =>
          obtain rfl := List.mem_singleton.mp declared
          cases found

/-- The walk goes by field names, and the item of a ticket and that of a coupon have one. -/
theorem list_couponEnvelope
    (path : Path) :
    Difference.list path (some (.record (couponEnvelope (some "7") none)))
        (some (.record (ticketEnvelope "7"))) =
      [] := by
  simp [ticketEnvelope, couponEnvelope, Difference.list_records, RecordValueOf.get?, addedSlots,
    RecordValueOf.declares, Difference.list, wholeDifference?, equalSides, Typed.toWire,
    Json.equal]

end Demo

/-- A ticket is expected and a coupon with nothing but a label is returned. -/
theorem mismatch_is_located_coupon :
    ∃ (difference : Difference) (later fields : List String) (left right : Option Typed),
      ((Demo.envelopeClient (Demo.couponEnvelope none (some "gift"))).replayCase 1
            (Demo.envelopeCase "itemId" "8") ()).1.outcome.verdict =
          .failed 3007
            ((Failure.mismatch (Typed.record (Demo.ticketEnvelope "8")).repr
                (Typed.record (Demo.couponEnvelope none (some "gift"))).repr).message ::
              difference.line :: later) ∧
        Along fields (some (.record (Demo.ticketEnvelope "8")))
            (some (.record (Demo.couponEnvelope none (some "gift")))) left right ∧
          difference.StandsAt "value" fields left right :=
  mismatch_is_located Demo.envelopeCatalog_built Demo.envelopeRecord_registered
    (Demo.couponEnvelope_wellTyped none (some "gift")).hasOutline
    (fun inner reached _ => Demo.envelopeRecord_allDistinct inner reached)
    (Demo.envelopeClient_prepare _ "itemId" "8") rfl
    (Demo.envelopeCase_expects _ rfl "8" (.inl rfl))
    (.inr fun _ _ met => Demo.sharesWires_of_meets "8" "gift" met) (by decide) (by decide)

/-- The same item goes by different wire names, and the failure shows no difference at all. -/
theorem not_forall_mismatch_has_difference :
    ¬ ∀ (client : Client Unit) (case : Case) (method : Method) (arguments : Arguments)
        (schemas : List Schema) (record : RecordSchema) (expected actual : Record) (most : Nat),
      Catalog.ofSchemas schemas = .ok client.catalog →
        client.catalog.record actual.typeName = .ok record →
          WellTyped client.catalog (.record record) (.record actual) →
            client.prepare case = .ok (method, arguments) →
              (client.call method arguments ()).1 = .reply (.value (.record actual)) →
                case.Expects client.catalog actual expected →
                  expected.toWire.equal actual.toWire = false →
                    1 ≤ most →
                      ∃ code message difference later,
                        (client.replayCase most case ()).1.outcome.verdict =
                          .failed code (message :: difference :: later) := by
  intro claim
  have prepared := Demo.envelopeClient_prepare (Demo.couponEnvelope (some "7") none) "item_id" "7"
  have expects :=
    Demo.envelopeCase_expects (Demo.couponEnvelope (some "7") none) rfl "7" (.inr rfl)
  have unequal :
      (Demo.ticketEnvelope "7").toWire.equal (Demo.couponEnvelope (some "7") none).toWire =
        false := by
    decide
  have noDifference :
      (Walk.start "value" (.record (Demo.ticketEnvelope "7"))
          (.record (Demo.couponEnvelope (some "7") none))).take 8 =
        [] := by
    rw [Walk.take_eq_take_toList, Walk.toList_start, Demo.list_couponEnvelope]
    rfl
  have judged :
      ∃ failure,
        judge Demo.envelopeCatalog 8 (Demo.envelopeCase "item_id" "7").expectation
            (.value (.record (Demo.couponEnvelope (some "7") none))) =
          .error ⟨failure, []⟩ := by
    rw [judge_of_unequal expects unequal, noDifference]
    exact ⟨_, rfl⟩
  rcases judged with ⟨failure, judged⟩
  have replayed :
      ((Demo.envelopeClient (Demo.couponEnvelope (some "7") none)).replayCase 8
          (Demo.envelopeCase "item_id" "7") ()).1 =
        .ofCheck "envelope" (.error ⟨failure, []⟩) := by
    rw [replayCase_of_reply prepared rfl]
    exact congrArg (CaseResult.ofCheck "envelope") judged
  rcases
    claim (Demo.envelopeClient _) (Demo.envelopeCase "item_id" "7") _ _ _ Demo.envelopeRecord
      (Demo.ticketEnvelope "7") (Demo.couponEnvelope (some "7") none) 8
      Demo.envelopeCatalog_built Demo.envelopeRecord_registered
      (Demo.couponEnvelope_wellTyped (some "7") none) prepared rfl expects unequal (by decide)
    with ⟨code, message, difference, later, verdict⟩
  rw [replayed] at verdict
  cases verdict

end ContractReplay
