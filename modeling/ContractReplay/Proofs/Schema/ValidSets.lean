import ContractReplay.Proofs.Lists
import ContractReplay.Proofs.Schema.Registration
import Mathlib.Data.List.Sort
import Mathlib.Data.Set.List
import Mathlib.Data.String.Basic

/-!
# Sets of schemas that can be registered

Registration goes through a list of schemas once, with the names that are taken so far.  It
accepts a list exactly when this can be said of the list without any order: its schemas have
names of their own that are distinct, neither blank nor the name of the error record, and declare
nothing twice.  Otherwise it reports the first schema that does not fit those before it, by the
first check that this schema fails.  What was registered is what is found, under its own name and
no other, and the order of the list is not seen in any answer.
-/

namespace ContractReplay

/-! ## Valid sets -/

/-- That a named schema declares no field name, no wire name and no symbol twice. -/
def Named.DeclaresOnce : Named → Prop
  | .record declared => declared.DistinctNames
  | .enum enumeration => enumeration.symbols.Nodup

/-- The names that some schemas have of their own. -/
def Schema.ownNames (schemas : List Schema) : List String :=
  schemas.filterMap Schema.name?

/-- That a named schema by itself, without the others of its set, can be registered. -/
structure Named.Admissible (named : Named) : Prop where
  notBlank : Text.isBlank named.name = false
  notBuiltIn : named.name ≠ errorTypeName
  declaresOnce : named.DeclaresOnce

/-- That a set of schemas can be registered. -/
structure Registrable (schemas : List Schema) : Prop where
  allNamed : ∀ schema ∈ schemas, ∃ named : Named, schema = named.toSchema
  distinct : (Schema.ownNames schemas).Nodup
  admissible : ∀ named : Named, named.toSchema ∈ schemas → named.Admissible

/-- What a named schema declares for the second time, where nothing before that is repeated. -/
inductive Named.Repeats : Named → SchemaDefect → Prop where
  | fieldName
      {record : RecordSchema}
      {before after : List FieldSchema}
      {field : FieldSchema}
      (split : record.fields = before ++ field :: after)
      (distinct : RecordOf.DistinctNames ⟨record.name, before⟩)
      (repeated : field.fieldName ∈ before.map (·.fieldName)) :
      Repeats (.record record) (.duplicateField field.fieldName)
  | wireName
      {record : RecordSchema}
      {before after : List FieldSchema}
      {field : FieldSchema}
      (split : record.fields = before ++ field :: after)
      (distinct : RecordOf.DistinctNames ⟨record.name, before⟩)
      (isNew : field.fieldName ∉ before.map (·.fieldName))
      (repeated : field.wireName ∈ before.map (·.wireName)) :
      Repeats (.record record) (.duplicateWireName field.wireName)
  | symbol
      {enumeration : EnumSchema}
      {before after : List String}
      {symbol : String}
      (split : enumeration.symbols = before ++ symbol :: after)
      (distinct : before.Nodup)
      (repeated : symbol ∈ before) :
      Repeats (.enum enumeration) (.duplicateSymbol symbol)

/--
What is wrong with a named schema where some names are taken.  Each rule requires that the checks
of the rules before it are met.
-/
inductive Named.Offends (taken : List String) (named : Named) : SchemaDefect → Prop where
  | duplicateName
      (isTaken : named.name ∈ taken) :
      Offends taken named .duplicateName
  | blankName
      (isNew : named.name ∉ taken)
      (blank : Text.isBlank named.name = true) :
      Offends taken named .blankName
  | builtIn
      (isNew : named.name ∉ taken)
      (notBlank : Text.isBlank named.name = false)
      (isError : named.name = errorTypeName) :
      Offends taken named .builtIn
  | repeated
      {defect : SchemaDefect}
      (isNew : named.name ∉ taken)
      (notBlank : Text.isBlank named.name = false)
      (notBuiltIn : named.name ≠ errorTypeName)
      (repeats : named.Repeats defect) :
      Offends taken named defect

/-- What is wrong with a schema that comes after others, and the name under which it is reported. -/
inductive Offends (earlier : List Schema) : Schema → String → SchemaDefect → Prop where
  | unnamed
      {schema : Schema}
      (nameless : schema.name? = none) :
      Offends earlier schema schema.display .unnamed
  | named
      {named : Named}
      {defect : SchemaDefect}
      (offends : named.Offends (Schema.ownNames earlier) defect) :
      Offends earlier named.toSchema named.name defect

/-! ## Names of their own -/

namespace Schema

theorem named?_eq_some_iff
    {schema : Schema}
    {named : Named} :
    schema.named? = some named ↔ schema = named.toSchema := by
  cases schema <;> cases named <;> simp [named?, Named.toSchema]

theorem named?_toSchema
    (named : Named) :
    named.toSchema.named? = some named :=
  named?_eq_some_iff.mpr rfl

theorem name?_toSchema
    (named : Named) :
    named.toSchema.name? = some named.name := by
  rw [name?, named?_toSchema]
  rfl

theorem name?_eq_none_iff
    {schema : Schema} :
    schema.name? = none ↔ schema.named? = none := by
  rw [name?, Option.map_eq_none_iff]

theorem ownNames_map_toSchema
    (registered : List Named) :
    ownNames (registered.map Named.toSchema) = registered.map Named.name := by
  simp [ownNames, List.filterMap_map, name?_toSchema]

end Schema

theorem Named.toSchema_injective :
    Function.Injective Named.toSchema := by
  intro first second same
  have found := Schema.named?_toSchema first
  rw [same, Schema.named?_toSchema] at found
  exact (Option.some.inj found).symm

namespace Catalog

variable {catalog : Catalog} {schemas : List Schema} {named : Named} {defect : SchemaDefect}
  {taken : List String}

/-! ## What a schema declares -/

/-- Fields that come after others are checked with the names of these. -/
theorem fieldDefect?_append
    (fieldNames wireNames : List String)
    (before after : List FieldSchema) :
    fieldDefect? fieldNames wireNames (before ++ after) =
      (fieldDefect? fieldNames wireNames before).or
        (fieldDefect? ((before.map (·.fieldName)).reverse ++ fieldNames)
          ((before.map (·.wireName)).reverse ++ wireNames) after) := by
  induction before generalizing fieldNames wireNames with
  | nil => rfl
  | cons first later ih =>
      rw [List.cons_append, fieldDefect?, fieldDefect?]
      split_ifs
      · rfl
      · rfl
      · simp [ih]

theorem fieldDefect?_eq_none_iff_distinctNames
    {name : String}
    {fields : List FieldSchema} :
    fieldDefect? [] [] fields = none ↔ RecordOf.DistinctNames ⟨name, fields⟩ := by
  rw [fieldDefect?_eq_none_iff]
  constructor
  · rintro ⟨⟨fieldNames, -⟩, ⟨wireNames, -⟩⟩
    exact ⟨fieldNames, wireNames⟩
  · intro distinct
    simpa using ⟨distinct.fieldNames, distinct.wireNames⟩

theorem distinctNames_nil
    (name : String) :
    RecordOf.DistinctNames ⟨name, []⟩ :=
  ⟨List.nodup_nil, List.nodup_nil⟩

/-- Symbols that come after others are checked with these. -/
theorem symbolDefect?_append
    (earlier before after : List String) :
    symbolDefect? earlier (before ++ after) =
      (symbolDefect? earlier before).or (symbolDefect? (before.reverse ++ earlier) after) := by
  induction before generalizing earlier with
  | nil => rfl
  | cons first later ih =>
      rw [List.cons_append, symbolDefect?, symbolDefect?]
      split_ifs
      · rfl
      · simp [ih]

theorem symbolDefect?_eq_none_iff
    {earlier symbols : List String} :
    symbolDefect? earlier symbols = none ↔
      symbols.Nodup ∧ ∀ symbol ∈ symbols, symbol ∉ earlier := by
  induction symbols generalizing earlier with
  | nil => simp [symbolDefect?]
  | cons first later ih =>
      rw [symbolDefect?]
      split_ifs with repeated
      · simp [List.contains_iff_mem.mp repeated]
      · rw [List.contains_iff_mem] at repeated
        rw [ih]
        simp only [List.mem_cons, not_or, List.nodup_cons]
        grind

theorem symbolDefect?_nil_eq_none_iff
    {symbols : List String} :
    symbolDefect? [] symbols = none ↔ symbols.Nodup := by
  simp [symbolDefect?_eq_none_iff]

theorem declarationDefect?_eq_none_iff :
    declarationDefect? named = none ↔ named.DeclaresOnce := by
  cases named with
  | record record => exact fieldDefect?_eq_none_iff_distinctNames
  | enum enumeration => exact symbolDefect?_nil_eq_none_iff

/-- What a schema declares has the defect that something is declared for the second time. -/
theorem declarationDefect?_eq_some_iff :
    declarationDefect? named = some defect ↔ named.Repeats defect := by
  constructor
  · intro found
    cases named with
    | record record =>
        have notAll : ¬ RecordOf.DistinctNames ⟨record.name, record.fields⟩ := by
          rw [← fieldDefect?_eq_none_iff_distinctNames]
          exact fun sound => by simp [declarationDefect?, sound] at found
        rcases
            exists_first_failing_prefix
              (fun fields => RecordOf.DistinctNames ⟨record.name, fields⟩)
              (distinctNames_nil record.name) record.fields notAll with
          ⟨before, field, after, split, distinct, fails⟩
        have sound := fieldDefect?_eq_none_iff_distinctNames.mpr distinct
        rw [declarationDefect?, split, fieldDefect?_append, sound, Option.none_or, fieldDefect?]
          at found
        split_ifs at found with nameTaken wireNameTaken
        · cases found
          exact .fieldName split distinct (by simpa using nameTaken)
        · cases found
          exact .wireName split distinct (by simpa using nameTaken) (by simpa using wireNameTaken)
        · rw [← fieldDefect?_eq_none_iff_distinctNames, fieldDefect?_append, sound,
            Option.none_or, fieldDefect?, if_neg nameTaken, if_neg wireNameTaken] at fails
          exact absurd rfl fails
    | enum enumeration =>
        have notAll : ¬ enumeration.symbols.Nodup := by
          rw [← symbolDefect?_nil_eq_none_iff]
          exact fun sound => by simp [declarationDefect?, sound] at found
        rcases exists_first_failing_prefix List.Nodup List.nodup_nil enumeration.symbols notAll with
          ⟨before, symbol, after, split, distinct, fails⟩
        have sound := symbolDefect?_nil_eq_none_iff.mpr distinct
        rw [declarationDefect?, split, symbolDefect?_append, sound, Option.none_or,
          symbolDefect?] at found
        split_ifs at found with taken
        · cases found
          exact .symbol split distinct (by simpa using taken)
        · rw [← symbolDefect?_nil_eq_none_iff, symbolDefect?_append, sound, Option.none_or,
            symbolDefect?, if_neg taken] at fails
          exact absurd rfl fails
  · intro repeats
    cases repeats with
    | fieldName split distinct repeated =>
        rw [declarationDefect?, split, fieldDefect?_append,
          fieldDefect?_eq_none_iff_distinctNames.mpr distinct, Option.none_or, fieldDefect?,
          if_pos (by simpa using repeated)]
    | wireName split distinct isNew repeated =>
        rw [declarationDefect?, split, fieldDefect?_append,
          fieldDefect?_eq_none_iff_distinctNames.mpr distinct, Option.none_or, fieldDefect?,
          if_neg (by simpa using isNew), if_pos (by simpa using repeated)]
    | symbol split distinct repeated =>
        rw [declarationDefect?, split, symbolDefect?_append,
          symbolDefect?_nil_eq_none_iff.mpr distinct, Option.none_or, symbolDefect?,
          if_pos (by simpa using repeated)]

/-! ## One schema after others -/

theorem defect?_eq_none_iff :
    defect? taken named = none ↔ named.name ∉ taken ∧ named.Admissible := by
  rw [defect?]
  split_ifs with nameTaken blank isError
  · simp [List.contains_iff_mem.mp nameTaken]
  · simp only [false_iff, not_and]
    exact fun _ admissible => by simp [admissible.notBlank] at blank
  · simp only [false_iff, not_and]
    exact fun _ admissible => admissible.notBuiltIn isError
  · rw [List.contains_iff_mem] at nameTaken
    rw [declarationDefect?_eq_none_iff, and_iff_right nameTaken]
    exact ⟨fun once => ⟨by simpa using blank, isError, once⟩, Named.Admissible.declaresOnce⟩

theorem defect?_eq_some_iff :
    defect? taken named = some defect ↔ named.Offends taken defect := by
  rw [defect?]
  constructor
  · intro found
    split_ifs at found with isTaken blank isError
    · cases found
      exact .duplicateName (List.contains_iff_mem.mp isTaken)
    · cases found
      exact .blankName (by simpa using isTaken) blank
    · cases found
      exact .builtIn (by simpa using isTaken) (by simpa using blank) isError
    · exact
        .repeated (by simpa using isTaken) (by simpa using blank) isError
          (declarationDefect?_eq_some_iff.mp found)
  · intro offends
    cases offends with
    | duplicateName isTaken => rw [if_pos (List.contains_iff_mem.mpr isTaken)]
    | blankName isNew blank => rw [if_neg (by simpa using isNew), if_pos blank]
    | builtIn isNew notBlank isError =>
        rw [if_neg (by simpa using isNew), if_neg (by simp [notBlank]), if_pos isError]
    | repeated isNew notBlank notBuiltIn repeats =>
        rw [if_neg (by simpa using isNew), if_neg (by simp [notBlank]), if_neg notBuiltIn,
          declarationDefect?_eq_some_iff.mpr repeats]

/-- The order in which names were taken does not matter. -/
theorem defect?_reverse :
    defect? taken.reverse named = defect? taken named := by
  simp [defect?]

/-- A list is accepted as it stands: its schemas are the named ones that registration keeps. -/
theorem validated_eq_ok_iff
    {registered : List Named} :
    validated taken schemas = .ok registered ↔
      schemas = registered.map Named.toSchema ∧ (registered.map Named.name).Nodup ∧
        ∀ named ∈ registered, named.name ∉ taken ∧ named.Admissible := by
  induction schemas generalizing taken registered with
  | nil =>
      rw [validated]
      constructor
      · intro same
        cases same
        simp
      · rintro ⟨same, -⟩
        rw [List.map_eq_nil_iff.mp same.symm]
  | cons schema later ih =>
      rw [validated]
      constructor
      · intro validates
        split at validates
        · cases validates
        · rename_i first isFirst
          rw [Schema.named?_eq_some_iff] at isFirst
          split at validates
          · cases validates
          · rename_i sound
            cases laterValidates : validated (first.name :: taken) later with
            | error failure =>
                rw [laterValidates] at validates
                cases validates
            | ok others =>
                rw [laterValidates] at validates
                cases validates
                rcases ih.mp laterValidates with ⟨rfl, distinct, each⟩
                simp only [List.mem_cons, not_or] at each
                refine ⟨by rw [isFirst, List.map_cons], ?_, ?_⟩
                · rw [List.map_cons, List.nodup_cons, List.mem_map]
                  refine ⟨?_, distinct⟩
                  rintro ⟨other, member, same⟩
                  exact (each other member).1.1 same
                · rw [List.forall_mem_cons]
                  exact
                    ⟨defect?_eq_none_iff.mp sound,
                      fun other member => ⟨(each other member).1.2, (each other member).2⟩⟩
      · rintro ⟨split, distinct, each⟩
        cases registered with
        | nil => cases split
        | cons first others =>
            rw [List.map_cons, List.cons.injEq] at split
            rcases split with ⟨rfl, rfl⟩
            rw [List.map_cons, List.nodup_cons, List.mem_map] at distinct
            rw [List.forall_mem_cons] at each
            have laterValidates :
                validated (first.name :: taken) (others.map Named.toSchema) = .ok others := by
              refine ih.mpr ⟨rfl, distinct.2, fun other member => ⟨?_, (each.2 other member).2⟩⟩
              rw [List.mem_cons, not_or]
              exact ⟨fun same => distinct.1 ⟨other, member, same⟩, (each.2 other member).1⟩
            simp only [Schema.named?_toSchema, defect?_eq_none_iff.mpr each.1, laterValidates]
            rfl

/-- Schemas that come after accepted ones are checked with the names of these. -/
theorem validated_append
    {before after : List Schema}
    {registered : List Named}
    (validates : validated taken before = .ok registered) :
    validated taken (before ++ after) =
      (validated ((registered.map Named.name).reverse ++ taken) after).map (registered ++ ·) := by
  induction before generalizing taken registered with
  | nil =>
      cases validates
      cases found : validated taken after with
      | error failure => simp [found, Except.map]
      | ok others => simp [found, Except.map]
  | cons schema later ih =>
      rw [List.cons_append, validated]
      rw [validated] at validates
      split at validates
      · cases validates
      · rename_i first isFirst
        split at validates
        · cases validates
        · rename_i sound
          cases laterValidates : validated (first.name :: taken) later with
          | error failure =>
              rw [laterValidates] at validates
              cases validates
          | ok others =>
              rw [laterValidates] at validates
              cases validates
              simp only [ih laterValidates, List.map_cons, List.reverse_cons, List.append_assoc,
                List.singleton_append]
              cases validated ((others.map Named.name).reverse ++ first.name :: taken) after with
              | error failure => rfl
              | ok rest => rfl

/-! ## Which lists are accepted -/

theorem ofSchemas_eq_ok_iff :
    ofSchemas schemas = .ok catalog ↔ validated [] schemas = .ok catalog.registered := by
  rw [ofSchemas]
  cases validated [] schemas with
  | error failure => simp [Except.map]
  | ok registered =>
      cases catalog
      simp [Except.map]

/-- A set that can be registered consists of named schemas, each fit for registration. -/
theorem registrable_map_toSchema_iff
    {registered : List Named} :
    Registrable (registered.map Named.toSchema) ↔
      (registered.map Named.name).Nodup ∧ ∀ named ∈ registered, named.Admissible := by
  constructor
  · intro registrable
    exact
      ⟨by simpa [Schema.ownNames_map_toSchema] using registrable.distinct,
        fun named member => registrable.admissible named (List.mem_map_of_mem member)⟩
  · rintro ⟨distinct, each⟩
    exact
      { allNamed := by
          intro schema member
          rcases List.mem_map.mp member with ⟨named, -, rfl⟩
          exact ⟨named, rfl⟩
        distinct := by rwa [Schema.ownNames_map_toSchema]
        admissible := by
          intro named member
          exact each named ((List.mem_map_of_injective Named.toSchema_injective).mp member) }

theorem validated_eq_ok_iff_registrable
    {registered : List Named} :
    validated [] schemas = .ok registered ↔
      schemas = registered.map Named.toSchema ∧ Registrable schemas := by
  rw [validated_eq_ok_iff]
  constructor
  · rintro ⟨rfl, distinct, each⟩
    exact ⟨rfl, registrable_map_toSchema_iff.mpr ⟨distinct, fun named member =>
      (each named member).2⟩⟩
  · rintro ⟨rfl, registrable⟩
    rcases registrable_map_toSchema_iff.mp registrable with ⟨distinct, each⟩
    exact ⟨rfl, distinct, fun named member => ⟨List.not_mem_nil, each named member⟩⟩

end Catalog

namespace Registrable

variable {schemas : List Schema}

theorem nil :
    Registrable [] where
  allNamed := by simp
  distinct := List.nodup_nil
  admissible := by simp

theorem exists_eq_map_toSchema
    (registrable : Registrable schemas) :
    ∃ registered : List Named, schemas = registered.map Named.toSchema := by
  have inRange : schemas ∈ Set.range (List.map Named.toSchema) := by
    rw [Set.range_list_map]
    intro schema member
    rcases registrable.allNamed schema member with ⟨named, rfl⟩
    exact ⟨named, rfl⟩
  rcases inRange with ⟨registered, same⟩
  exact ⟨registered, same.symm⟩

theorem concat
    (registrable : Registrable schemas)
    {named : Named}
    (isNew : named.name ∉ Schema.ownNames schemas)
    (admissible : named.Admissible) :
    Registrable (schemas ++ [named.toSchema]) := by
  rcases registrable.exists_eq_map_toSchema with ⟨registered, rfl⟩
  rw [Catalog.registrable_map_toSchema_iff] at registrable
  rw [Schema.ownNames_map_toSchema] at isNew
  rw [← List.map_singleton, ← List.map_append, Catalog.registrable_map_toSchema_iff]
  constructor
  · simpa [List.nodup_append] using
      ⟨registrable.1, fun other member same => isNew (same ▸ List.mem_map_of_mem member)⟩
  · intro other member
    rcases List.mem_append.mp member with member | member
    · exact registrable.2 other member
    · rw [List.mem_singleton] at member
      exact member ▸ admissible

theorem perm
    (registrable : Registrable schemas)
    {others : List Schema}
    (permuted : schemas.Perm others) :
    Registrable others where
  allNamed schema member := registrable.allNamed schema (permuted.mem_iff.mpr member)
  distinct := (permuted.filterMap Schema.name?).nodup_iff.mp registrable.distinct
  admissible named member := registrable.admissible named (permuted.mem_iff.mpr member)

end Registrable

namespace Catalog

variable {catalog : Catalog} {schemas : List Schema}

/-- Registration fails for a schema that offends after acceptable ones. -/
theorem ofSchemas_of_offends
    {before after : List Schema}
    {schema : Schema}
    {name : String}
    {defect : SchemaDefect}
    (registrable : Registrable before)
    (offends : Offends before schema name defect) :
    ofSchemas (before ++ schema :: after) = .error (.invalidSchema name defect) := by
  rcases registrable.exists_eq_map_toSchema with ⟨registered, rfl⟩
  have validates := validated_eq_ok_iff_registrable.mpr ⟨rfl, registrable⟩
  rw [ofSchemas, validated_append validates, validated]
  cases offends with
  | unnamed nameless => rw [Schema.name?_eq_none_iff.mp nameless]; rfl
  | named offends =>
      rw [Schema.ownNames_map_toSchema, ← defect?_eq_some_iff, ← defect?_reverse] at offends
      simp only [Schema.named?_toSchema, List.append_nil, offends]
      rfl

/-- A set that cannot be registered has a first schema that offends. -/
theorem exists_offends_of_not_registrable
    (notRegistrable : ¬ Registrable schemas) :
    ∃ before schema after name defect,
      schemas = before ++ schema :: after ∧ Registrable before ∧
        Offends before schema name defect := by
  rcases exists_first_failing_prefix Registrable Registrable.nil schemas notRegistrable with
    ⟨before, schema, after, split, registrable, fails⟩
  cases isNamed : schema.named? with
  | none =>
      exact
        ⟨before, schema, after, schema.display, .unnamed, split, registrable,
          .unnamed (Schema.name?_eq_none_iff.mpr isNamed)⟩
  | some named =>
      obtain rfl := Schema.named?_eq_some_iff.mp isNamed
      cases found : defect? (Schema.ownNames before) named with
      | none =>
          rcases defect?_eq_none_iff.mp found with ⟨isNew, admissible⟩
          exact absurd (registrable.concat isNew admissible) fails
      | some defect =>
          exact
            ⟨before, named.toSchema, after, named.name, defect, split, registrable,
              .named (defect?_eq_some_iff.mp found)⟩

theorem exists_ofSchemas_eq_ok_iff :
    (∃ catalog, ofSchemas schemas = .ok catalog) ↔ Registrable schemas := by
  constructor
  · rintro ⟨catalog, built⟩
    exact (validated_eq_ok_iff_registrable.mp (ofSchemas_eq_ok_iff.mp built)).2
  · intro registrable
    rcases registrable.exists_eq_map_toSchema with ⟨registered, same⟩
    exact
      ⟨⟨registered⟩,
        ofSchemas_eq_ok_iff.mpr (validated_eq_ok_iff_registrable.mpr ⟨same, registrable⟩)⟩

theorem ofSchemas_eq_error_iff
    {failure : Failure} :
    ofSchemas schemas = .error failure ↔
      ∃ before schema after name defect,
        schemas = before ++ schema :: after ∧ Registrable before ∧
          Offends before schema name defect ∧ failure = .invalidSchema name defect := by
  constructor
  · intro refused
    have notRegistrable : ¬ Registrable schemas := by
      rw [← exists_ofSchemas_eq_ok_iff]
      rintro ⟨catalog, built⟩
      rw [built] at refused
      cases refused
    rcases exists_offends_of_not_registrable notRegistrable with
      ⟨before, schema, after, name, defect, rfl, registrable, offends⟩
    rw [ofSchemas_of_offends registrable offends] at refused
    cases refused
    exact ⟨before, schema, after, name, defect, rfl, registrable, offends, rfl⟩
  · rintro ⟨before, schema, after, name, defect, rfl, registrable, offends, rfl⟩
    exact ofSchemas_of_offends registrable offends

/-! ## What is found -/

/-- That a catalog answers with a list of schemas, the error record, and nothing else. -/
structure Answers (catalog : Catalog) (schemas : List Schema) : Prop where
  listed : ∀ named : Named, named.toSchema ∈ schemas → catalog.resolve named.name = .ok named
  builtIn : catalog.resolve errorTypeName = .ok (.record errorRecord)
  unknown :
    ∀ name, name ≠ errorTypeName → name ∉ Schema.ownNames schemas →
      catalog.resolve name = .error (.unknownType name)
  ascending : catalog.names.Pairwise (· < ·)
  complete : ∀ name, name ∈ catalog.names ↔ ∃ named, catalog.resolve name = .ok named
  oneHop :
    ∀ schema resolved, catalog.resolveSchema schema = .ok resolved →
      ∀ name, resolved ≠ .reference name

theorem find?_of_mem
    (distinct : (catalog.registered.map Named.name).Nodup)
    (member : named ∈ catalog.registered)
    (notBuiltIn : named.name ≠ errorTypeName) :
    catalog.find? named.name = some named := by
  rw [find?, if_neg notBuiltIn]
  exact find?_key_of_nodup distinct member

theorem find?_eq_none_of_not_mem
    {name : String}
    (notBuiltIn : name ≠ errorTypeName)
    (absent : name ∉ catalog.registered.map Named.name) :
    catalog.find? name = none := by
  rw [find?, if_neg notBuiltIn, List.find?_eq_none]
  intro other member
  simpa using fun same : other.name = name => absent (same ▸ List.mem_map_of_mem member)

theorem mem_names_iff
    {name : String} :
    name ∈ catalog.names ↔ name = errorTypeName ∨ name ∈ catalog.registered.map Named.name := by
  rw [names, List.mem_mergeSort, List.mem_cons]

/-- The names in a catalog are those under which something is found. -/
theorem mem_names_iff_exists_resolve
    {name : String} :
    name ∈ catalog.names ↔ ∃ named, catalog.resolve name = .ok named := by
  simp only [mem_names_iff, resolve_eq_ok_iff, ← Option.isSome_iff_exists]
  by_cases isError : name = errorTypeName
  · simp [find?, isError]
  · simp [find?, isError, List.find?_isSome]

/-- Distinct names that are not the error record's are listed in strictly ascending order. -/
theorem names_pairwise_lt
    (distinct : (catalog.registered.map Named.name).Nodup)
    (notBuiltIn : ∀ named ∈ catalog.registered, named.name ≠ errorTypeName) :
    catalog.names.Pairwise (· < ·) := by
  have nodup : catalog.names.Nodup := by
    rw [names, (List.mergeSort_perm _ _).nodup_iff, List.nodup_cons, List.mem_map]
    exact ⟨fun ⟨named, member, same⟩ => notBuiltIn named member same, distinct⟩
  have ascending : catalog.names.Pairwise (· ≤ ·) := List.pairwise_mergeSort' _ _
  exact (ascending.and nodup).imp fun ⟨below, different⟩ => lt_of_le_of_ne below different

theorem not_reference_of_resolveSchema
    {schema resolved : Schema}
    (found : catalog.resolveSchema schema = .ok resolved)
    (name : String) :
    resolved ≠ .reference name := by
  rintro rfl
  cases schema with
  | reference target =>
      rw [resolveSchema] at found
      cases isResolved : catalog.resolve target with
      | error failure =>
          rw [isResolved] at found
          cases found
      | ok named =>
          rw [isResolved] at found
          cases named <;> cases found
  | _ => cases found

/-- A catalog answers with the schemas that it was built from. -/
theorem answers_of_ofSchemas
    (built : ofSchemas schemas = .ok catalog) :
    catalog.Answers schemas := by
  rcases validated_eq_ok_iff_registrable.mp (ofSchemas_eq_ok_iff.mp built) with
    ⟨rfl, registrable⟩
  rcases registrable_map_toSchema_iff.mp registrable with ⟨distinct, each⟩
  exact
    { listed := by
        intro named member
        rw [List.mem_map_of_injective Named.toSchema_injective] at member
        exact resolve_eq_ok_iff.mpr (find?_of_mem distinct member (each named member).notBuiltIn)
      builtIn := rfl
      unknown := by
        intro name notBuiltIn absent
        rw [Schema.ownNames_map_toSchema] at absent
        rw [resolve, find?_eq_none_of_not_mem notBuiltIn absent]
      ascending := names_pairwise_lt distinct fun named member => (each named member).notBuiltIn
      complete := fun _ => mem_names_iff_exists_resolve
      oneHop := fun _ _ => not_reference_of_resolveSchema }

/-! ## The order of the list -/

namespace Answers

variable {other : Catalog} {others : List Schema}

/-- What is found under a name depends only on which schemas were listed. -/
theorem resolve_eq_of_perm
    (answers : catalog.Answers schemas)
    (otherAnswers : other.Answers others)
    (permuted : schemas.Perm others)
    (name : String) :
    other.resolve name = catalog.resolve name := by
  by_cases isError : name = errorTypeName
  · rw [isError, answers.builtIn, otherAnswers.builtIn]
  by_cases isListed : name ∈ Schema.ownNames schemas
  · rcases List.mem_filterMap.mp isListed with ⟨schema, member, isNamed⟩
    rw [Schema.name?, Option.map_eq_some_iff] at isNamed
    rcases isNamed with ⟨named, isNamed, rfl⟩
    obtain rfl := Schema.named?_eq_some_iff.mp isNamed
    rw [answers.listed named member, otherAnswers.listed named (permuted.mem_iff.mp member)]
  · have notInOthers : name ∉ Schema.ownNames others := by
      rwa [Schema.ownNames, ← (permuted.filterMap Schema.name?).mem_iff]
    rw [answers.unknown name isError isListed, otherAnswers.unknown name isError notInOthers]

/-- Catalogs that find the same list the same names. -/
theorem names_eq_of_resolve_eq
    (answers : catalog.Answers schemas)
    (otherAnswers : other.Answers others)
    (same : ∀ name, other.resolve name = catalog.resolve name) :
    other.names = catalog.names :=
  otherAnswers.ascending.eq_of_mem_iff answers.ascending fun name => by
    rw [answers.complete, otherAnswers.complete, same]

end Answers

theorem resolveSchema_eq_of_resolve_eq
    {other : Catalog}
    (same : ∀ name, other.resolve name = catalog.resolve name)
    (schema : Schema) :
    other.resolveSchema schema = catalog.resolveSchema schema := by
  cases schema with
  | reference name => rw [resolveSchema, resolveSchema, same]
  | _ => rfl

/--
Registration accepts exactly the valid sets of schemas, and otherwise reports the first schema that
offends.  A catalog that was built answers with what was registered, and neither acceptance nor any
answer depends on the order of the list.
-/
theorem ofSchemas_specification
    (schemas : List Schema) :
    ((∃ catalog, ofSchemas schemas = .ok catalog) ↔ Registrable schemas) ∧
      (∀ failure,
        ofSchemas schemas = .error failure ↔
          ∃ before schema after name defect,
            schemas = before ++ schema :: after ∧ Registrable before ∧
              Offends before schema name defect ∧ failure = .invalidSchema name defect) ∧
      (∀ catalog, ofSchemas schemas = .ok catalog → catalog.Answers schemas) ∧
      ∀ others, schemas.Perm others →
        ((∃ catalog, ofSchemas schemas = .ok catalog) ↔ ∃ other, ofSchemas others = .ok other) ∧
          ∀ catalog other, ofSchemas schemas = .ok catalog → ofSchemas others = .ok other →
            (∀ name, other.resolve name = catalog.resolve name) ∧
              (∀ schema, other.resolveSchema schema = catalog.resolveSchema schema) ∧
              other.names = catalog.names := by
  refine
    ⟨exists_ofSchemas_eq_ok_iff, fun _ => ofSchemas_eq_error_iff, fun _ => answers_of_ofSchemas,
      fun others permuted => ⟨?_, fun catalog other built otherBuilt => ?_⟩⟩
  · rw [exists_ofSchemas_eq_ok_iff, exists_ofSchemas_eq_ok_iff]
    exact ⟨(·.perm permuted), (·.perm permuted.symm)⟩
  · have answers := answers_of_ofSchemas built
    have otherAnswers := answers_of_ofSchemas otherBuilt
    have same := answers.resolve_eq_of_perm otherAnswers permuted
    exact
      ⟨same, resolveSchema_eq_of_resolve_eq same,
        answers.names_eq_of_resolve_eq otherAnswers same⟩

end Catalog

end ContractReplay
