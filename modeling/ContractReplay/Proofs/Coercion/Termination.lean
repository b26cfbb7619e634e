import ContractReplay.Proofs.Coercion.Conformance
import ContractReplay.Proofs.Coercion.LimitedRun
import Mathlib.Data.Set.Finite.List
import Mathlib.Order.Filter.AtTopBot.Basic
import Mathlib.Order.Filter.Finite

/-!
# Coercion ends

References may lead from a record back to itself, and unions and references are followed
without going into the value, so neither the schema nor the value gets smaller with
every call.  What gets smaller is the depth of the value together with a rank: a call on
the same value leads to one of lower rank, because what a catalog registers is neither a
union nor a reference.  By induction on the calls, every run ends with the result of
coercion once it may nest enough calls, and a typed value is no deeper on the wire than
the value that it was coerced from.
-/

namespace ContractReplay.Coercion

open Filter

variable {catalog : Catalog} {raw : Json} {path : Path}

/-! ## Calls -/

/-- The calls of the four functions, without the places that only failures show. -/
inductive Call where
  | value (schema : Schema) (raw : Json)
  | record (record : RecordSchema) (raw : Json)
  | select (variants : List Schema) (raw : Json)
  | shape (schema : Schema) (raw : Json)

/-- The value that a call is about. -/
def Call.input : Call → Json
  | .value _ raw => raw
  | .record _ raw => raw
  | .select _ raw => raw
  | .shape _ raw => raw

/-- `Calls catalog callee caller` says that the one call may be made by the other. -/
inductive Calls (catalog : Catalog) : Call → Call → Prop where
  | record (record : RecordSchema) (raw : Json) :
      Calls catalog (.record record raw) (.value (.record record) raw)
  | item
      (element : Schema)
      {items : List Json}
      {item : Json}
      (member : item ∈ items) :
      Calls catalog (.value element item) (.value (.list element) (.array items))
  | entry
      (schema : Schema)
      {members : Json.Members}
      {key : String}
      {item : Json}
      (member : (key, item) ∈ members) :
      Calls catalog (.value schema item) (.value (.map schema) (.object members))
  | select (variants : List Schema) (raw : Json) :
      Calls catalog (.select variants raw) (.value (.union variants) raw)
  | variant
      {variants : List Schema}
      {variant : Schema}
      (declared : variant ∈ variants)
      (raw : Json) :
      Calls catalog (.value variant raw) (.value (.union variants) raw)
  | resolved
      {name : String}
      {named : Named}
      (resolved : catalog.resolve name = .ok named)
      (raw : Json) :
      Calls catalog (.value named.toSchema raw) (.value (.reference name) raw)
  | field
      {record : RecordSchema}
      {field : FieldSchema}
      {members : Json.Members}
      {key : String}
      {item : Json}
      (declared : field ∈ record.fields)
      (member : (key, item) ∈ members) :
      Calls catalog (.value field.schema item) (.record record (.object members))
  | tried
      {variants : List Schema}
      {variant : Schema}
      (declared : variant ∈ variants)
      (raw : Json) :
      Calls catalog (.shape variant raw) (.select variants raw)
  | selectShape (variants : List Schema) (raw : Json) :
      Calls catalog (.select variants raw) (.shape (.union variants) raw)
  | resolvedShape
      {name : String}
      {named : Named}
      (resolved : catalog.resolve name = .ok named)
      (raw : Json) :
      Calls catalog (.shape named.toSchema raw) (.shape (.reference name) raw)

/-! ## The measure -/

mutual

/-- The greatest number of unions and references on the way to a schema of another kind. -/
def hops : Schema → Nat
  | .union variants => hopsOf variants + 1
  | .reference _ => 1
  | _ => 0

/-- The greatest number of unions and references that any of some variants leads through. -/
def hopsOf : List Schema → Nat
  | [] => 0
  | variant :: later => max (hops variant) (hopsOf later)

end

/-- One look-up is all that a reference takes. -/
theorem hops_toSchema
    (named : Named) :
    hops named.toSchema = 0 := by
  cases named <;> rfl

theorem hops_le_hopsOf
    {variants : List Schema}
    {variant : Schema}
    (declared : variant ∈ variants) :
    hops variant ≤ hopsOf variants := by
  induction variants with
  | nil => cases declared
  | cons first later ih =>
      rw [hopsOf]
      rcases List.mem_cons.mp declared with rfl | inLater
      · exact Nat.le_max_left _ _
      · exact Nat.le_trans (ih inLater) (Nat.le_max_right _ _)

/-- A bound on the calls that can be nested in a call before one goes into the value. -/
def Call.rank : Call → Nat
  | .value schema _ => 2 * hops schema + 1
  | .record _ _ => 0
  | .select variants _ => 2 * hopsOf variants + 1
  | .shape schema _ => 2 * hops schema

/-- A call is made on a part of the value, or on the same value with a lower rank. -/
theorem part_or_rank_lt_of_calls
    {callee caller : Call}
    (calls : Calls catalog callee caller) :
    Json.PartOf callee.input caller.input ∨
      (callee.input = caller.input ∧ callee.rank < caller.rank) := by
  cases calls with
  | item element member => exact Or.inl (.item member)
  | entry schema member => exact Or.inl (.member member)
  | field declared member => exact Or.inl (.member member)
  | record record raw =>
      refine Or.inr ⟨rfl, ?_⟩
      exact Nat.succ_pos _
  | select variants raw =>
      refine Or.inr ⟨rfl, ?_⟩
      simp only [Call.rank, hops]
      omega
  | variant declared raw =>
      refine Or.inr ⟨rfl, ?_⟩
      have fewer := hops_le_hopsOf declared
      simp only [Call.rank, hops]
      omega
  | @resolved name named resolved raw =>
      refine Or.inr ⟨rfl, ?_⟩
      simp only [Call.rank, hops, hops_toSchema]
      decide
  | tried declared raw =>
      refine Or.inr ⟨rfl, ?_⟩
      have fewer := hops_le_hopsOf declared
      simp only [Call.rank]
      omega
  | selectShape variants raw =>
      refine Or.inr ⟨rfl, ?_⟩
      simp only [Call.rank, hops]
      omega
  | resolvedShape resolved raw =>
      refine Or.inr ⟨rfl, ?_⟩
      simp only [Call.rank, hops, hops_toSchema]
      decide

/-- No run nests calls without an end. -/
theorem wellFounded_calls
    (catalog : Catalog) :
    WellFounded (Calls catalog) := by
  have measured :
      WellFounded (InvImage (Prod.Lex (· < ·) (· < ·)) fun call : Call =>
        (call.input.depth, call.rank)) :=
    InvImage.wf _ (Prod.lex Nat.lt_wfRel Nat.lt_wfRel).wf
  refine Subrelation.wf ?_ measured
  intro callee caller calls
  rcases part_or_rank_lt_of_calls calls with isPart | ⟨sameValue, lower⟩
  · exact .left _ _ isPart.depth_lt
  · simp only [InvImage, sameValue]
    exact .right _ lower

/-- Chains of so many nested calls from one call to another, all of them on the same value. -/
inductive ChainOnValue (catalog : Catalog) (caller : Call) : Nat → Call → Prop where
  | here : ChainOnValue catalog caller 0 caller
  | call
      {length : Nat}
      {middle callee : Call}
      (chain : ChainOnValue catalog caller length middle)
      (calls : Calls catalog callee middle)
      (sameValue : callee.input = middle.input) :
      ChainOnValue catalog caller (length + 1) callee

/-- A chain of calls on the same value is no longer than the rank of the call it starts with. -/
theorem length_add_rank_le
    {caller callee : Call}
    {length : Nat}
    (chain : ChainOnValue catalog caller length callee) :
    length + callee.rank ≤ caller.rank := by
  induction chain with
  | here => exact Nat.le_of_eq (Nat.zero_add _)
  | call _ calls sameValue ih =>
      rcases part_or_rank_lt_of_calls calls with isPart | ⟨-, lower⟩
      · have shallower := isPart.depth_lt
        rw [sameValue] at shallower
        exact absurd shallower (Nat.lt_irrefl _)
      · omega

/-! ## Every call returns -/

theorem eventually_of_succ
    {holds : Nat → Prop}
    (later : ∀ᶠ limit in atTop, holds (limit + 1)) :
    ∀ᶠ limit in atTop, holds limit := by
  rw [← map_add_atTop_eq_nat 1]
  exact later

theorem eventually_forall_mem
    {α : Type}
    {items : List α}
    {holds : Nat → α → Prop}
    (each : ∀ item ∈ items, ∀ᶠ limit in atTop, holds limit item) :
    ∀ᶠ limit in atTop, ∀ item ∈ items, holds limit item :=
  (eventually_all_finite (List.finite_toSet items)).mpr each

/--
That the runs of a call give the result of coercion, and the result of matching a shape,
as soon as they may nest enough calls.
-/
def Call.Returns (catalog : Catalog) : Call → Prop
  | .value schema raw =>
    ∀ᶠ limit in atTop, ∀ path,
      valueWithin catalog limit path schema raw = some (coerceAt catalog path schema raw)
  | .record declared raw =>
    ∀ᶠ limit in atTop, ∀ path,
      recordWithin catalog limit path declared raw =
        some (coerceRecordAt catalog path declared raw)
  | .select variants raw =>
    ∀ᶠ limit in atTop,
      selectWithin catalog limit raw variants = some (selectVariant catalog raw variants)
  | .shape schema raw =>
    ∀ᶠ limit in atTop,
      shapeWithin catalog limit raw schema = some (accepts catalog raw schema)

theorem returns_select
    {variants : List Schema}
    (inner :
      ∀ callee, Calls catalog callee (.select variants raw) → callee.Returns catalog) :
    (Call.select variants raw).Returns catalog := by
  apply eventually_of_succ
  have matched :
      ∀ᶠ limit in atTop, ∀ variant ∈ variants,
        shapeWithin catalog limit raw variant = some (accepts catalog raw variant) :=
    eventually_forall_mem fun variant declared => inner _ (.tried declared raw)
  filter_upwards [matched] with limit answered
  rw [selectWithin]
  exact variantBy_eq answered

theorem returns_shape
    {schema : Schema}
    (inner : ∀ callee, Calls catalog callee (.shape schema raw) → callee.Returns catalog) :
    (Call.shape schema raw).Returns catalog := by
  apply eventually_of_succ
  cases schema with
  | union variants =>
      have selected := inner _ (.selectShape variants raw)
      filter_upwards [selected] with limit answered
      rw [shapeWithin, answered, accepts, anyAccepts_eq]
      rfl
  | reference name =>
      cases resolved : catalog.resolve name with
      | error failure =>
          refine Eventually.of_forall fun limit => ?_
          simp only [shapeWithin, accepts, resolved]
      | ok named =>
          have matched := inner _ (.resolvedShape resolved raw)
          filter_upwards [matched] with limit answered
          simp only [shapeWithin, resolved, answered, accepts_reference resolved]
  | _ => exact Eventually.of_forall fun limit => rfl

theorem returns_record
    {record : RecordSchema}
    (inner : ∀ callee, Calls catalog callee (.record record raw) → callee.Returns catalog) :
    (Call.record record raw).Returns catalog := by
  apply eventually_of_succ
  cases raw with
  | object members =>
      have answered :
          ∀ᶠ limit in atTop, ∀ field ∈ record.fields, ∀ member ∈ members, ∀ path,
            valueWithin catalog limit path field.schema member.2 =
              some (coerceAt catalog path field.schema member.2) :=
        eventually_forall_mem fun field declared =>
          eventually_forall_mem fun member isMember => inner _ (.field declared isMember)
      filter_upwards [answered] with limit fieldAnswered path
      have filled :
          ∀ field ∈ record.fields,
            fieldBy (fun place schema item => valueWithin catalog limit place schema item) path
                members field =
              some (coerceField catalog path members field) :=
        fun field declared =>
          fieldBy_eq fun key item member => fieldAnswered field declared (key, item) member
      rw [recordWithin, slotsBy_eq filled]
      rfl
  | _ => exact Eventually.of_forall fun limit path => rfl

theorem returns_value
    {schema : Schema}
    (inner : ∀ callee, Calls catalog callee (.value schema raw) → callee.Returns catalog) :
    (Call.value schema raw).Returns catalog := by
  apply eventually_of_succ
  cases schema with
  | scalar kind => exact Eventually.of_forall fun limit path => by cases raw <;> rfl
  | enum enumeration => exact Eventually.of_forall fun limit path => by cases raw <;> rfl
  | record record =>
      have returned := inner _ (.record record raw)
      filter_upwards [returned] with limit answered path
      rw [valueWithin, answered, coerceAt_record]
      rfl
  | list element =>
      cases raw with
      | array items =>
          have returned :
              ∀ᶠ limit in atTop, ∀ item ∈ items, ∀ path,
                valueWithin catalog limit path element item =
                  some (coerceAt catalog path element item) :=
            eventually_forall_mem fun item member => inner _ (.item element member)
          filter_upwards [returned] with limit answered path
          rw [valueWithin, itemsBy_eq answered, coerceAt_eq]
          rfl
      | _ => exact Eventually.of_forall fun limit path => rfl
  | map value =>
      cases raw with
      | object members =>
          have returned :
              ∀ᶠ limit in atTop, ∀ member ∈ members, ∀ path,
                valueWithin catalog limit path value member.2 =
                  some (coerceAt catalog path value member.2) :=
            eventually_forall_mem fun member isMember => inner _ (.entry value isMember)
          filter_upwards [returned] with limit answered path
          rw [valueWithin, entriesBy_eq answered, coerceAt_eq]
          rfl
      | _ => exact Eventually.of_forall fun limit path => rfl
  | union variants =>
      have selected := inner _ (.select variants raw)
      cases selection : selectVariant catalog raw variants with
      | error failure =>
          filter_upwards [selected] with limit answered path
          simp only [valueWithin, answered, coerceAt_union, selection]
      | ok choice =>
          cases choice with
          | none =>
              filter_upwards [selected] with limit answered path
              simp only [valueWithin, answered, coerceAt_union, selection]
          | some variant =>
              have returned := inner _ (.variant (mem_of_selectVariant selection) raw)
              filter_upwards [selected, returned] with limit answered variantAnswered path
              simp only [valueWithin, answered, coerceAt_union, selection, variantAnswered]
  | reference name =>
      cases resolved : catalog.resolve name with
      | error failure =>
          refine Eventually.of_forall fun limit path => ?_
          simp only [valueWithin, coerceAt_reference, resolved]
      | ok named =>
          have returned := inner _ (.resolved resolved raw)
          filter_upwards [returned] with limit answered path
          simp only [valueWithin, coerceAt_reference, resolved, answered]

/-- Every call returns, by induction on the calls that it leads to. -/
theorem returns
    (call : Call) :
    call.Returns catalog := by
  induction call using (wellFounded_calls catalog).induction with
  | _ call inner =>
      cases call with
      | value schema raw => exact returns_value inner
      | record record raw => exact returns_record inner
      | select variants raw => exact returns_select inner
      | shape schema raw => exact returns_shape inner

/-! ## Depth -/

/-- A value is no deeper on the wire than the JSON value that it is the reading of. -/
theorem depth_toWire_le
    {schema : Schema}
    {value : Typed}
    (conforming : Conforms catalog raw schema value) :
    value.toWire.depth ≤ raw.depth := by
  induction conforming with
  | @list element items values length conforming ih =>
      rw [Typed.toWire, Typed.itemsToWire_eq_map]
      apply Json.depth_array_le
      intro wire member
      rcases List.mem_map.mp member with ⟨value, isValue, rfl⟩
      rcases exists_mem_zip length isValue with ⟨item, paired⟩
      exact ⟨item, (List.of_mem_zip paired).1, ih item value paired⟩
  | @map schema members entries source ascending keys held conforming ih =>
      rw [Typed.toWire_map_of_ascending ascending, Typed.entriesToWire_eq_map]
      apply Json.depth_object_le
      intro key wire member
      rcases List.mem_map.mp member with ⟨⟨name, value⟩, entry, same⟩
      cases same
      have present := (keys name).mp (List.mem_map.mpr ⟨_, entry, rfl⟩)
      exact ⟨name, source name, held name present, ih name value entry⟩
  | @record record members slots names unset conforming notNull ih =>
      rw [Typed.toWire]
      apply Json.depth_object_le
      intro key wire member
      rcases Typed.mem_slotsToWire.mp (Json.Members.mem_of_mem_ofList member) with
        ⟨slot, isSlot, -, value, set, rfl⟩
      rcases exists_mem_zip names.length_eq isSlot with ⟨field, paired⟩
      cases held : members.fieldValue? field with
      | none =>
          have isUnset := (unset field slot paired).mpr (Or.inl held)
          cases set.symm.trans isUnset
      | some item =>
          rcases exists_mem_of_fieldValue? held with ⟨name, -, isMember⟩
          exact ⟨name, item, isMember, ih field slot item value paired held set⟩
  | union _ _ ih => exact ih
  | reference _ _ ih => exact ih
  | json value => exact Nat.le_refl _
  | _ => exact Nat.zero_le _

/-! ## Coercion as a whole -/

/--
Coercion ends on every JSON value, under every catalog and every schema.  Calls cannot be
nested without an end, and a chain of calls on one value is no longer than what the schema
of its first call allows.  Each of the four functions gives its result once it may nest
enough calls, and what coercion returns is no deeper than the value that it was given.
-/
theorem coercion_terminates
    (catalog : Catalog) :
    WellFounded (Calls catalog) ∧
      (∀ caller length callee,
        ChainOnValue catalog caller length callee → length ≤ caller.rank) ∧
      (∀ schema raw, ∃ enough, ∀ limit, enough ≤ limit → ∀ path,
        valueWithin catalog limit path schema raw = some (coerceAt catalog path schema raw)) ∧
      (∀ record raw, ∃ enough, ∀ limit, enough ≤ limit → ∀ path,
        recordWithin catalog limit path record raw =
          some (coerceRecordAt catalog path record raw)) ∧
      (∀ variants raw, ∃ enough, ∀ limit, enough ≤ limit →
        selectWithin catalog limit raw variants = some (selectVariant catalog raw variants)) ∧
      (∀ schema raw, ∃ enough, ∀ limit, enough ≤ limit →
        shapeWithin catalog limit raw schema = some (accepts catalog raw schema)) ∧
      ∀ path schema raw value,
        coerceAt catalog path schema raw = .ok value → value.toWire.depth ≤ raw.depth := by
  refine ⟨wellFounded_calls catalog, ?chains, ?values, ?records, ?selections, ?shapes, ?depths⟩
  case chains =>
    intro caller length callee chain
    exact Nat.le_trans (Nat.le_add_right _ _) (length_add_rank_le chain)
  case values =>
    intro schema raw
    exact eventually_atTop.mp (returns (.value schema raw))
  case records =>
    intro record raw
    exact eventually_atTop.mp (returns (.record record raw))
  case selections =>
    intro variants raw
    exact eventually_atTop.mp (returns (.select variants raw))
  case shapes =>
    intro schema raw
    exact eventually_atTop.mp (returns (.shape schema raw))
  case depths =>
    intro path schema raw value coerced
    exact depth_toWire_le (conforms_of_coerceAt coerced)

/-- A record that refers to itself, in a value that goes round the reference twice. -/
theorem coercion_terminates_nestedJson :
    (∃ enough, ∀ limit, enough ≤ limit →
        valueWithin Demo.catalog limit rootPath (.reference "Any") Demo.nestedJson =
          some (.ok (.record Demo.nestedAny))) ∧
      Demo.nestedAny.toWire.depth ≤ Demo.nestedJson.depth := by
  have coerced :
      coerceAt Demo.catalog rootPath (.reference "Any") Demo.nestedJson =
        .ok (.record Demo.nestedAny) := by
    rfl
  rcases coercion_terminates Demo.catalog with ⟨-, -, values, -, -, -, depths⟩
  rcases values (.reference "Any") Demo.nestedJson with ⟨enough, answers⟩
  refine ⟨⟨enough, fun limit isEnough => ?_⟩, depths _ _ _ _ coerced⟩
  rw [answers limit isEnough, coerced]

end ContractReplay.Coercion
