import ContractReplay.Proofs.Coercion.Conformance
import ContractReplay.Proofs.Json.Reordered

/-!
# Coercion of reordered values

Coercion does not see the order of the members of objects with distinct keys.  Shapes are told
by kinds and scalars alone, so unions and references lead to the same schema; a record looks its
fields up, a map is sorted by its keys, and only opaque JSON keeps the order that it was given.
So a reordered value is coerced whenever the value is, and to a value with a reordered wire form.
-/

namespace ContractReplay

/-! ## Maps from entries in another order -/

namespace Typed

theorem perm_insertEntry
    {entries : List (String × Typed)}
    {key : String}
    (absent : key ∉ entries.map Prod.fst)
    (value : Typed) :
    (insertEntry key value entries).Perm ((key, value) :: entries) := by
  induction entries with
  | nil => exact .refl _
  | cons first later ih =>
      rcases first with ⟨old, oldValue⟩
      rw [List.map_cons, List.mem_cons, not_or] at absent
      rw [insertEntry, if_neg absent.1]
      split_ifs with below
      · exact .refl _
      · exact ((ih absent.2).cons _).trans (.swap _ _ _)

/-- Pairs with distinct keys are only put in order when they are put into entries. -/
theorem perm_insertAll
    {pairs entries : List (String × Typed)}
    (distinct : ((entries ++ pairs).map Prod.fst).Nodup) :
    (insertAll pairs entries).Perm (entries ++ pairs) := by
  induction pairs generalizing entries with
  | nil =>
      rw [List.append_nil]
      exact .refl _
  | cons pair later ih =>
      rcases pair with ⟨key, value⟩
      have moved : (entries ++ (key, value) :: later).Perm ((key, value) :: (entries ++ later)) :=
        List.perm_middle
      have distinctMoved := (moved.map Prod.fst).nodup_iff.mp distinct
      rw [List.map_cons, List.nodup_cons, List.map_append, List.mem_append, not_or]
        at distinctMoved
      have inserted := perm_insertEntry distinctMoved.1.1 value
      have grown :
          (insertEntry key value entries ++ later).Perm (entries ++ (key, value) :: later) :=
        (inserted.append_right later).trans moved.symm
      exact (ih ((grown.map Prod.fst).nodup_iff.mpr distinct)).trans grown

/-- Entries with the same key and values with reordered wire forms. -/
def SameEntry (left right : String × Typed) : Prop :=
  left.1 = right.1 ∧ left.2.toWire.Reordered right.2.toWire

theorem reordered_map_toWire
    {lefts rights : List (String × Typed)}
    (leftDistinct : (lefts.map Prod.fst).Nodup)
    (rightDistinct : (rights.map Prod.fst).Nodup)
    (rearranged : Rearranged SameEntry lefts rights) :
    (ofEntries lefts).toWire.Reordered (ofEntries rights).toWire := by
  have ascendingFrom (pairs : List (String × Typed)) : Ascending (insertAll pairs []) :=
    ascending_insertAll pairs List.Pairwise.nil
  rw [ofEntries_eq, ofEntries_eq, toWire_map_of_ascending (ascendingFrom lefts),
    toWire_map_of_ascending (ascendingFrom rights), entriesToWire_eq_map, entriesToWire_eq_map,
    Json.reordered_object_iff]
  have leftSorted : (insertAll lefts []).Perm lefts := perm_insertAll leftDistinct
  have rightSorted : (insertAll rights []).Perm rights := perm_insertAll rightDistinct
  rcases (rearranged.of_perm_left leftSorted).of_perm_right rightSorted.symm with
    ⟨arranged, permuted, paired⟩
  refine ⟨_, permuted.map _, ?_⟩
  rw [List.forall₂_map_left_iff, List.forall₂_map_right_iff]
  exact paired

/-- Slots of one field that are both unset, or set to values with reordered wire forms. -/
structure SameSlot (left right : Slot) : Prop where
  wireName : left.wireName = right.wireName
  value : Option.Rel (fun value other => value.toWire.Reordered other.toWire) left.value right.value

theorem reordered_record_toWire
    {typeName otherName : String}
    {lefts rights : List Slot}
    (slots : List.Forall₂ SameSlot lefts rights) :
    (Typed.record ⟨typeName, lefts⟩).toWire.Reordered
      (Typed.record ⟨otherName, rights⟩).toWire := by
  have members :
      List.Forall₂ Json.SameMember (slotsToWire lefts) (slotsToWire rights) := by
    induction slots with
    | nil => exact .nil
    | @cons left right _ _ first _ ih =>
        rcases left with ⟨fieldName, wireName, value⟩
        rcases right with ⟨otherField, otherWire, other⟩
        rcases first with ⟨sameWire, sameValue⟩
        cases sameValue with
        | none => exact ih
        | some reordered => exact .cons ⟨sameWire, reordered⟩ ih
  rw [toWire, toWire, Json.reordered_object_iff]
  exact .of_forall₂ (Json.Members.ofList_of_forall₂ members)

end Typed

namespace Coercion

variable {catalog : Catalog} {left right : Json} {path : Path}

/-! ## Shapes -/

theorem scalarAccepts_of_reordered
    (reordered : left.Reordered right)
    (kind : Scalar) :
    scalarAccepts left kind = scalarAccepts right kind := by
  cases reordered with
  | array | object => cases kind <;> rfl
  | _ => rfl

theorem enumAccepts_of_reordered
    (reordered : left.Reordered right)
    (enumeration : EnumSchema) :
    enumAccepts left enumeration = enumAccepts right enumeration := by
  cases reordered <;> rfl

theorem kind_of_reordered
    (reordered : left.Reordered right) :
    left.kind = right.kind := by
  cases reordered <;> rfl

/-- A schema accepts a value exactly when it accepts a reordered form of it. -/
theorem accepts_of_reordered
    (reordered : left.Reordered right)
    (schema : Schema) :
    accepts catalog left schema = accepts catalog right schema := by
  induction schema with
  | scalar kind => rw [accepts, accepts, scalarAccepts_of_reordered reordered]
  | enum enumeration => rw [accepts, accepts, enumAccepts_of_reordered reordered]
  | record | list | map => rw [accepts, accepts, kind_of_reordered reordered]
  | reference name =>
      rw [accepts, accepts]
      cases catalog.resolve name with
      | error failure => rfl
      | ok named =>
          cases named with
          | record record => simp only [namedAccepts, kind_of_reordered reordered]
          | enum enumeration => simp only [namedAccepts, enumAccepts_of_reordered reordered]
  | union variants ih =>
      rw [accepts, accepts]
      induction variants with
      | nil => rfl
      | cons first later laterSame =>
          rw [anyAccepts, anyAccepts, ih first List.mem_cons_self,
            laterSame fun variant member => ih variant (List.mem_cons_of_mem _ member)]

theorem selectVariant_of_reordered
    (reordered : left.Reordered right)
    (variants : List Schema) :
    selectVariant catalog left variants = selectVariant catalog right variants := by
  induction variants with
  | nil => rfl
  | cons first later ih =>
      rw [selectVariant, selectVariant, accepts_of_reordered reordered, ih]

/-- Unions and references lead to the same schema, wherever the value stands. -/
theorem head_of_reordered
    {schema : Schema}
    {found : Head}
    (reordered : left.Reordered right)
    (leads : head catalog left path schema = .ok found)
    (place : Path) :
    head catalog right place schema = .ok found := by
  induction schema with
  | union variants ih =>
      rcases head_union_eq_ok_iff.mp leads with ⟨variant, selected, variantLeads⟩
      refine head_union_eq_ok_iff.mpr ⟨variant, ?_, ?_⟩
      · rw [← selectVariant_of_reordered reordered]
        exact selected
      · exact ih variant (mem_of_selectVariant selected) variantLeads
  | reference name => exact head_reference_eq_ok_iff.mpr (head_reference_eq_ok_iff.mp leads)
  | _ => exact leads

/-! ## Values -/

/--
What it means for the coercion of a value under a schema to be the same for a reordered form
of it: that one is coerced too, wherever it stands, to a value with a reordered wire form.
-/
def SameCoercion (catalog : Catalog) (left right : Json) : Prop :=
  ∀ path schema value, coerceAt catalog path schema left = .ok value →
    ∃ other, (∀ place, coerceAt catalog place schema right = .ok other) ∧
      value.toWire.Reordered other.toWire

theorem coerceField_of_reordered
    {lefts rights : Json.Members}
    (distinct : lefts.keys.Nodup)
    (rearranged : Rearranged Json.SameMember lefts rights)
    (inside :
      ∀ key item, (key, item) ∈ lefts → ∀ other, item.Reordered other →
        SameCoercion catalog item other)
    {field : FieldSchema}
    {found : Option Typed}
    (coerced : coerceField catalog path lefts field = .ok found) :
    ∃ other, (∀ place, coerceField catalog place rights field = .ok other) ∧
      Option.Rel (fun value other => value.toWire.Reordered other.toWire) found other := by
  have fieldValues := Json.Members.fieldValue?_of_rearranged distinct rearranged field
  rcases coerceField_eq_ok_iff.mp coerced with
    ⟨rfl, unset⟩ | ⟨item, value, isItem, notNull, itemCoerced, rfl⟩
  · refine ⟨none, fun place => coerceField_eq_ok_iff.mpr (.inl ⟨rfl, ?_⟩), .none⟩
    rcases unset with absent | isNull
    · rw [absent] at fieldValues
      generalize rights.fieldValue? field = held at fieldValues
      cases fieldValues
      exact .inl rfl
    · rw [isNull] at fieldValues
      generalize rights.fieldValue? field = held at fieldValues
      cases fieldValues with
      | some same =>
          cases same
          exact .inr rfl
  · rw [isItem] at fieldValues
    generalize isOther : rights.fieldValue? field = held at fieldValues
    cases fieldValues with
    | @some _ other same =>
        rcases exists_mem_of_fieldValue? isItem with ⟨key, -, member⟩
        rcases inside key item member other same _ _ _ itemCoerced with
          ⟨otherValue, otherCoerced, reordered⟩
        refine ⟨some otherValue, fun place => coerceField_eq_ok_iff.mpr (.inr ?_), .some reordered⟩
        refine ⟨other, otherValue, isOther, ?_, otherCoerced _, rfl⟩
        rintro rfl
        cases same
        exact notNull rfl

theorem coerceRecordAt_of_reordered
    {lefts rights : Json.Members}
    (distinct : lefts.keys.Nodup)
    (rearranged : Rearranged Json.SameMember lefts rights)
    (inside :
      ∀ key item, (key, item) ∈ lefts → ∀ other, item.Reordered other →
        SameCoercion catalog item other)
    {record : RecordSchema}
    {value : Record}
    (coerced : coerceRecordAt catalog path record (.object lefts) = .ok value) :
    ∃ other, (∀ place, coerceRecordAt catalog place record (.object rights) = .ok other) ∧
      value.toWire.Reordered other.toWire := by
  rcases map_eq_ok_iff.mp coerced with ⟨slots, filled, rfl⟩
  have sameFields : List.Forall₂ Eq record.fields record.fields := List.forall₂_refl _
  rcases
    exists_forall₂_of_forall₂
      (fun (field : FieldSchema) slot => ∃ found,
        (∀ place, coerceField catalog place rights field = .ok found) ∧
          slot = ⟨field.fieldName, field.wireName, found⟩)
      Typed.SameSlot sameFields (fillSlots_eq_ok_iff.mp filled)
      (by
        rintro field - _ slot rfl ⟨found, fieldCoerced, rfl⟩
        rcases coerceField_of_reordered distinct rearranged inside fieldCoerced with
          ⟨other, otherCoerced, same⟩
        exact ⟨_, ⟨other, otherCoerced, rfl⟩, ⟨rfl, same⟩⟩)
    with ⟨others, roles, same⟩
  refine ⟨⟨record.name, others⟩, fun place => map_eq_ok_iff.mpr ⟨others, ?_, rfl⟩,
    Typed.reordered_record_toWire same⟩
  apply fillSlots_eq_ok_iff.mpr
  refine roles.imp ?_
  rintro field slot ⟨found, fieldCoerced, rfl⟩
  exact ⟨found, fieldCoerced place, rfl⟩

theorem coerceHead_list_of_reordered
    {lefts rights : List Json}
    (items : List.Forall₂ Json.Reordered lefts rights)
    (inside : ∀ item ∈ lefts, ∀ other, item.Reordered other → SameCoercion catalog item other)
    {element : Schema}
    {value : Typed}
    (coerced : coerceHead catalog path (.array lefts) (.list element) = .ok value) :
    ∃ other, (∀ place, coerceHead catalog place (.array rights) (.list element) = .ok other) ∧
      value.toWire.Reordered other.toWire := by
  rcases map_eq_ok_iff.mp coerced with ⟨values, itemsCoerced, rfl⟩
  rcases
    exists_forall₂_of_forall₂
      (fun item other => ∀ place, coerceAt catalog place element item = .ok other)
      (fun value other => value.toWire.Reordered other.toWire)
      items (forall₂_of_coerceItems itemsCoerced)
      (by
        rintro item member other value same ⟨place, itemCoerced⟩
        exact inside item member other same place element value itemCoerced)
    with ⟨others, othersCoerced, same⟩
  refine
    ⟨.list others,
      fun place => map_eq_ok_iff.mpr ⟨others, coerceItems_of_forall₂ othersCoerced, rfl⟩, ?_⟩
  rw [Typed.toWire, Typed.toWire, Typed.itemsToWire_eq_map, Typed.itemsToWire_eq_map]
  apply Json.Reordered.array
  rw [List.forall₂_map_left_iff, List.forall₂_map_right_iff]
  exact same

theorem keys_eq_of_coerceEntries
    {members : List (String × Json)}
    {pairs : List (String × Typed)}
    {coercedTo : String × Json → String × Typed → Prop}
    (coerced :
      List.Forall₂ (fun member pair => pair.1 = member.1 ∧ coercedTo member pair)
        members pairs) :
    pairs.map Prod.fst = members.map Prod.fst := by
  induction coerced with
  | nil => rfl
  | cons first _ ih => rw [List.map_cons, List.map_cons, first.1, ih]

theorem coerceHead_map_of_reordered
    {lefts rights : Json.Members}
    (distinct : lefts.keys.Nodup)
    (rearranged : Rearranged Json.SameMember lefts rights)
    (inside :
      ∀ key item, (key, item) ∈ lefts → ∀ other, item.Reordered other →
        SameCoercion catalog item other)
    {schema : Schema}
    {value : Typed}
    (coerced : coerceHead catalog path (.object lefts) (.map schema) = .ok value) :
    ∃ other, (∀ place, coerceHead catalog place (.object rights) (.map schema) = .ok other) ∧
      value.toWire.Reordered other.toWire := by
  rcases map_eq_ok_iff.mp coerced with ⟨pairs, entriesCoerced, rfl⟩
  have leftEntries := forall₂_of_coerceEntries entriesCoerced
  have leftDistinct : (pairs.map Prod.fst).Nodup := by
    rw [keys_eq_of_coerceEntries leftEntries]
    exact distinct
  rcases rearranged with ⟨arranged, permuted, members⟩
  -- The pairs are arranged as the members are, to go through both objects side by side.
  rcases List.perm_comp_forall₂ permuted.symm leftEntries with
    ⟨arrangedPairs, arrangedEntries, arrangedPermuted⟩
  rcases
    exists_forall₂_of_forall₂
      (fun member other =>
        other.1 = member.1 ∧ ∀ place, coerceAt catalog place schema member.2 = .ok other.2)
      Typed.SameEntry
      members arrangedEntries
      (by
        rintro ⟨key, item⟩ member ⟨otherKey, other⟩ ⟨pairKey, pairValue⟩ ⟨sameKey, same⟩
          ⟨isKey, place, itemCoerced⟩
        rcases inside key item (permuted.mem_iff.mpr member) other same place schema pairValue
          itemCoerced with ⟨otherValue, otherCoerced, reordered⟩
        exact ⟨(otherKey, otherValue), ⟨rfl, otherCoerced⟩, isKey.trans sameKey, reordered⟩)
    with ⟨others, othersCoerced, same⟩
  have rightDistinct : (others.map Prod.fst).Nodup := by
    rw [keys_eq_of_coerceEntries othersCoerced]
    exact (Json.keys_perm_of_rearranged ⟨arranged, permuted, members⟩).nodup_iff.mp distinct
  exact
    ⟨.ofEntries others,
      fun place => map_eq_ok_iff.mpr ⟨others, coerceEntries_of_forall₂ othersCoerced, rfl⟩,
      Typed.reordered_map_toWire leftDistinct rightDistinct
        ⟨arrangedPairs, arrangedPermuted.symm, same⟩⟩

theorem coerceScalar_anywhere
    {raw : Json}
    {kind : Scalar}
    {value : Typed}
    (coerced : coerceScalar path raw kind = .ok value)
    (place : Path) :
    coerceScalar place raw kind = .ok value := by
  have conforming : Conforms .empty raw (.scalar kind) value := conforms_of_coerceScalar coerced
  cases conforming with
  | boolean | string | json => rfl
  | integer read => rw [coerceScalar, read]
  | float read => rw [coerceScalar, read]
  | binary bytes => rw [coerceScalar, Base64.decode_encode]
  | timestamp read => rw [coerceScalar, read]

theorem coerceScalar_of_reordered
    (reordered : left.Reordered right)
    {kind : Scalar}
    {value : Typed}
    (coerced : coerceScalar path left kind = .ok value) :
    ∃ other, (∀ place, coerceScalar place right kind = .ok other) ∧
      value.toWire.Reordered other.toWire := by
  cases reordered with
  | array items =>
      cases kind with
      | json =>
          cases coerced
          exact ⟨_, fun place => rfl, .array items⟩
      | _ => cases coerced
  | object permuted sameKeys values =>
      cases kind with
      | json =>
          cases coerced
          exact ⟨_, fun place => rfl, .object permuted sameKeys values⟩
      | _ => cases coerced
  | _ => exact ⟨value, coerceScalar_anywhere coerced, .refl _⟩

theorem coerceSymbol_of_reordered
    (reordered : left.Reordered right)
    {enumeration : EnumSchema}
    {value : Typed}
    (coerced : coerceSymbol path left enumeration = .ok value) :
    ∃ other, (∀ place, coerceSymbol place right enumeration = .ok other) ∧
      value.toWire.Reordered other.toWire := by
  cases reordered with
  | string symbol =>
      rw [coerceSymbol] at coerced
      split_ifs at coerced with declared
      refine ⟨value, fun place => ?_, .refl _⟩
      rw [coerceSymbol, if_pos declared]
      exact coerced
  | _ => cases coerced

/-- A reordered value is coerced wherever the value is, to the same value up to the order. -/
theorem sameCoercion_of_reordered
    (reordered : left.Reordered right)
    (distinct : left.KeysDistinct) :
    SameCoercion catalog left right := by
  induction left using Json.part_induction generalizing right with
  | step left inside =>
      intro path schema value coerced
      rcases coerceAt_eq_ok_iff.mp coerced with ⟨found, leads, headCoerced⟩
      have sameHead :
          ∃ other, (∀ place, coerceHead catalog place right found = .ok other) ∧
            value.toWire.Reordered other.toWire := by
        cases found with
        | scalar kind => exact coerceScalar_of_reordered reordered headCoerced
        | enum enumeration => exact coerceSymbol_of_reordered reordered headCoerced
        | list element =>
            cases reordered with
            | array items =>
                cases distinct with
                | array itemsDistinct =>
                    apply coerceHead_list_of_reordered items _ headCoerced
                    intro item member other same
                    exact inside item (.item member) same (itemsDistinct item member)
            | _ => cases headCoerced
        | map schema =>
            cases reordered with
            | object permuted sameKeys values =>
                cases distinct with
                | object keysDistinct valuesDistinct =>
                    have rearranged :=
                      Json.reordered_object_iff.mp (.object permuted sameKeys values)
                    apply coerceHead_map_of_reordered keysDistinct rearranged _ headCoerced
                    intro key item member other same
                    exact inside item (.member member) same (valuesDistinct key item member)
            | _ => cases headCoerced
        | record record =>
            cases reordered with
            | object permuted sameKeys values =>
                cases distinct with
                | object keysDistinct valuesDistinct =>
                    have rearranged :=
                      Json.reordered_object_iff.mp (.object permuted sameKeys values)
                    rcases map_eq_ok_iff.mp headCoerced with ⟨slots, recordCoerced, rfl⟩
                    rcases
                      coerceRecordAt_of_reordered keysDistinct rearranged
                        (fun key item member other same =>
                          inside item (.member member) same (valuesDistinct key item member))
                        recordCoerced
                      with ⟨other, otherCoerced, same⟩
                    exact
                      ⟨.record other,
                        fun place => map_eq_ok_iff.mpr ⟨other, otherCoerced place, rfl⟩, same⟩
            | _ => cases headCoerced
      rcases sameHead with ⟨other, otherCoerced, same⟩
      refine ⟨other, fun place => ?_, same⟩
      exact
        coerceAt_eq_ok_iff.mpr
          ⟨found, head_of_reordered reordered leads place, otherCoerced place⟩

/-- Results that are both failures, or both values, with reordered wire forms. -/
inductive SameResult : Except Failure Typed → Except Failure Typed → Prop where
  | failures (first second : Failure) : SameResult (.error first) (.error second)
  | values
      {value other : Typed}
      (reordered : value.toWire.Reordered other.toWire) :
      SameResult (.ok value) (.ok other)

theorem SameResult.isOk_iff
    {first second : Except Failure Typed}
    (same : SameResult first second) :
    (∃ value, first = .ok value) ↔ ∃ other, second = .ok other := by
  cases same with
  | failures => exact iff_of_false nofun nofun
  | values => exact iff_of_true ⟨_, rfl⟩ ⟨_, rfl⟩

theorem SameResult.reordered
    {first second : Except Failure Typed}
    (same : SameResult first second)
    {value other : Typed}
    (firstOk : first = .ok value)
    (secondOk : second = .ok other) :
    value.toWire.Reordered other.toWire := by
  subst firstOk secondOk
  cases same with
  | values reordered => exact reordered

/-- A value and a reordered form of it are coerced both or neither. -/
theorem coerceAt_of_reordered
    (reordered : left.Reordered right)
    (distinct : left.KeysDistinct)
    (catalog : Catalog)
    (path : Path)
    (schema : Schema) :
    SameResult (coerceAt catalog path schema left) (coerceAt catalog path schema right) := by
  have forth : SameCoercion catalog left right := sameCoercion_of_reordered reordered distinct
  have back : SameCoercion catalog right left :=
    sameCoercion_of_reordered reordered.symm (reordered.keysDistinct distinct)
  cases leftRead : coerceAt catalog path schema left with
  | ok value =>
      rcases forth path schema value leftRead with ⟨other, rightRead, same⟩
      rw [rightRead path]
      exact .values same
  | error failure =>
      cases rightRead : coerceAt catalog path schema right with
      | error other => exact .failures failure other
      | ok other =>
          rcases back path schema other rightRead with ⟨value, leftOk, -⟩
          cases leftRead.symm.trans (leftOk path)

end Coercion

end ContractReplay
