import ContractReplay.Proofs.Arguments.Entries
import ContractReplay.Proofs.Coercion.Typing
import ContractReplay.Proofs.Replay.Binding

/-!
# What a request binds

Several keys of a request may be resolved to one parameter: the first of them fixes the place of
the parameter among the arguments, and the last of them its argument.  After the request, the
parameters without a default that are still unbound are bound to no value, in the order of their
declarations.  This says all there is to the arguments for a request: they are the only ones
that are like this.
-/

namespace ContractReplay

open Coercion

/-- What a parameter takes a raw value for: `null` is no value, and any other is coerced. -/
inductive Parameter.Takes
    (catalog : Catalog)
    (parameter : Parameter) : Json → Argument → Prop where
  | noValue : Takes catalog parameter .null none
  | value
      {raw : Json}
      {value : Typed}
      (notNull : raw ≠ .null)
      (coerced : coerceAt catalog (argumentPath parameter) parameter.schema raw = .ok value) :
      Takes catalog parameter raw (some value)

/-! ## The parameters that a request names -/

namespace Method

/-- That the key of a member of a request is resolved to a parameter with a name. -/
def Addresses (method : Method) (member : String × Json) (name : String) : Prop :=
  ∃ parameter, method.resolveParameter member.1 = .ok parameter ∧ parameter.name = name

/-- The names of the parameters to which the keys of a request are resolved, key by key. -/
def addressed (method : Method) (request : Json.Members) : List String :=
  request.filterMap fun member => (method.resolveParameter member.1).toOption.map (·.name)

/-- The names of the parameters without a default, in the order of their declarations. -/
def undefaulted (method : Method) : List String :=
  (method.parameters.filter (!·.hasDefault)).map (·.name)

/--
That arguments are what a request binds.  A request may have several keys for a parameter, and a
method several parameters of one name; the first of these gives the schema.
-/
structure Binds
    (catalog : Catalog)
    (method : Method)
    (request : Json.Members)
    (arguments : Arguments) : Prop where
  /-- No parameter is bound twice. -/
  distinct : arguments.names.Nodup
  /-- Only declared parameters are bound. -/
  declared :
    ∀ name ∈ arguments.names, ∃ parameter ∈ method.parameters, parameter.name = name
  /-- A parameter without a default is bound. -/
  complete :
    ∀ parameter ∈ method.parameters,
      parameter.hasDefault = false → parameter.name ∈ arguments.names
  /-- A name that only has parameters with a default is bound when the request asks for it. -/
  defaulted :
    ∀ name,
      (∀ parameter ∈ method.parameters, parameter.name = name → parameter.hasDefault = true) →
        (name ∈ arguments.names ↔ ∃ member ∈ request, method.Addresses member name)
  /-- The last key for a parameter gives the argument, where `null` is no value. -/
  requested :
    ∀ before member after name,
      request = before ++ member :: after →
        method.Addresses member name →
          (∀ other ∈ after, ¬ method.Addresses other name) →
            ∃ parameter argument,
              method.parameter? name = some parameter ∧
                parameter.Takes catalog member.2 argument ∧
                  (name, argument) ∈ arguments.entries
  /-- A parameter that is bound without a key for it has no value. -/
  unrequested :
    ∀ name argument,
      (name, argument) ∈ arguments.entries →
        (∀ member ∈ request, ¬ method.Addresses member name) → argument = none
  /-- The parameters stand where the request first asks for them, and then the remaining ones
  without a default in the order of their declarations. -/
  order :
    arguments.names =
      (method.addressed request).eraseDups ++
        (method.undefaulted.filter (· ∉ method.addressed request)).eraseDups

end Method

variable {catalog : Catalog} {method : Method} {request : Json.Members}
  {member : String × Json} {parameter : Parameter} {name : String}

theorem takes_of_coerceOptional
    {raw : Json}
    {argument : Argument}
    (coerced :
      coerceOptional catalog (argumentPath parameter) parameter.schema raw = .ok argument) :
    parameter.Takes catalog raw argument := by
  by_cases isNull : raw = .null
  · subst isNull
    rw [coerceOptional_of_isNull rfl] at coerced
    cases coerced
    exact .noValue
  · have notNull : raw.isNull = false := by
      rw [← Bool.not_eq_true, Json.isNull_iff]
      exact isNull
    rcases (coerceOptional_eq_ok_iff notNull).mp coerced with ⟨value, isValue, rfl⟩
    exact .value isNull isValue

theorem Parameter.Takes.eq
    {raw : Json}
    {argument other : Argument}
    (takes : parameter.Takes catalog raw argument)
    (alsoTakes : parameter.Takes catalog raw other) :
    other = argument := by
  cases takes with
  | noValue =>
      cases alsoTakes with
      | noValue => rfl
      | value notNull => exact absurd rfl notNull
  | value notNull coerced =>
      cases alsoTakes with
      | noValue => exact absurd rfl notNull
      | value _ otherCoerced =>
          cases coerced.symm.trans otherCoerced
          rfl

theorem mem_addressed_iff :
    name ∈ method.addressed request ↔ ∃ member ∈ request, method.Addresses member name := by
  rw [Method.addressed, List.mem_filterMap]
  refine exists_congr fun member => and_congr_right fun _ => ?_
  cases resolved : method.resolveParameter member.1 with
  | error failure => simp [Method.Addresses, resolved, Except.toOption]
  | ok parameter => simp [Method.Addresses, resolved, Except.toOption]

/-- A key is resolved to the first parameter of its name. -/
theorem parameter?_of_resolveParameter
    {key : String}
    (resolved : method.resolveParameter key = .ok parameter) :
    method.parameter? parameter.name = some parameter := by
  rw [Method.resolveParameter] at resolved
  split at resolved
  · rename_i found isFound
    cases resolved
    rcases List.exists_of_findSome?_eq_some isFound with ⟨candidate, -, named⟩
    have sameName : parameter.name = candidate := by
      simpa using List.find?_some named
    rw [sameName]
    exact named
  · cases resolved

theorem mem_parameters_of_addresses
    (addresses : method.Addresses member name) :
    ∃ parameter ∈ method.parameters, parameter.name = name := by
  rcases addresses with ⟨parameter, resolved, isNamed⟩
  exact
    ⟨parameter, List.mem_of_find?_eq_some (parameter?_of_resolveParameter resolved), isNamed⟩

theorem mem_undefaulted_iff :
    name ∈ method.undefaulted ↔
      ∃ parameter ∈ method.parameters, parameter.hasDefault = false ∧ parameter.name = name := by
  simp [Method.undefaulted, and_assoc]

/-! ## Binding the values -/

/-- That parameters with values are what the keys of a request are resolved to. -/
abbrev Resolves (method : Method) : Json.Members → List (Parameter × Json) → Prop :=
  List.Forall₂ fun member value =>
    method.resolveParameter member.1 = .ok value.1 ∧ value.2 = member.2

section

variable {values : List (Parameter × Json)} {arguments bound : Arguments}

theorem addressed_cons
    (resolved : method.resolveParameter member.1 = .ok parameter)
    (later : Json.Members) :
    method.addressed (member :: later) = parameter.name :: method.addressed later := by
  rw [Method.addressed, List.filterMap_cons, resolved]
  rfl

theorem names_of_resolves
    (resolves : Resolves method request values) :
    values.map (·.1.name) = method.addressed request := by
  induction resolves with
  | nil => rfl
  | @cons first value _ _ firstResolved _ ih =>
      rw [List.map_cons, ih, addressed_cons firstResolved.1]

/-- Binding one value and then the later ones. -/
theorem bindValues_cons_eq_ok_iff
    {raw : Json}
    {later : List (Parameter × Json)} :
    bindValues catalog arguments ((parameter, raw) :: later) = .ok bound ↔
      ∃ argument,
        coerceOptional catalog (argumentPath parameter) parameter.schema raw = .ok argument ∧
          bindValues catalog (arguments.bind parameter.name argument) later = .ok bound := by
  rw [bindValues]
  cases coerceOptional catalog (argumentPath parameter) parameter.schema raw <;> simp

/-- New names are bound in the order of the values. -/
theorem names_bindValues
    (distinct : arguments.names.Nodup)
    (isBound : bindValues catalog arguments values = .ok bound) :
    bound.names = (arguments.names ++ values.map (·.1.name)).eraseDups := by
  induction values generalizing arguments with
  | nil =>
      cases isBound
      rw [List.map_nil, List.append_nil, eraseDups_of_nodup distinct]
  | cons value later ih =>
      rcases value with ⟨parameter, raw⟩
      rcases bindValues_cons_eq_ok_iff.mp isBound with ⟨argument, -, laterBound⟩
      rw [ih (Arguments.nodup_names_bind distinct _ _) laterBound, Arguments.names_bind distinct,
        eraseDups_append_eraseDups, List.append_assoc, List.map_cons, List.singleton_append]

/-- Parameters that no value is for are left as they are. -/
theorem argument?_bindValues_of_not_addressed
    (resolves : Resolves method request values)
    (isBound : bindValues catalog arguments values = .ok bound)
    (unaddressed : ∀ member ∈ request, ¬ method.Addresses member name) :
    bound.argument? name = arguments.argument? name := by
  induction resolves generalizing arguments with
  | nil =>
      cases isBound
      rfl
  | @cons first value _ _ firstResolved _ ih =>
      rcases value with ⟨parameter, raw⟩
      rcases bindValues_cons_eq_ok_iff.mp isBound with ⟨argument, -, laterBound⟩
      rcases List.forall_mem_cons.mp unaddressed with ⟨notFirst, notLater⟩
      have different : name ≠ parameter.name := by
        rintro rfl
        exact notFirst ⟨parameter, firstResolved.1, rfl⟩
      rw [ih laterBound notLater, Arguments.argument?_bind_of_ne different]

/-- The last value for a parameter is what the parameter is bound to. -/
theorem argument?_bindValues_of_last
    {before after : Json.Members}
    (resolves : Resolves method request values)
    (isBound : bindValues catalog arguments values = .ok bound)
    (split : request = before ++ member :: after)
    (resolved : method.resolveParameter member.1 = .ok parameter)
    (isLast : ∀ other ∈ after, ¬ method.Addresses other parameter.name) :
    ∃ argument,
      coerceOptional catalog (argumentPath parameter) parameter.schema member.2 = .ok argument ∧
        bound.argument? parameter.name = some argument := by
  induction resolves generalizing arguments before with
  | nil => simp at split
  | @cons first value _ _ firstResolved laterResolves ih =>
      rcases value with ⟨firstParameter, raw⟩
      rcases bindValues_cons_eq_ok_iff.mp isBound with ⟨argument, coerced, laterBound⟩
      cases before with
      | cons earlier others =>
          rw [List.cons_append, List.cons.injEq] at split
          exact ih laterBound split.2
      | nil =>
          rw [List.nil_append, List.cons.injEq] at split
          rcases split with ⟨rfl, rfl⟩
          rcases firstResolved with ⟨isParameter, rfl⟩
          cases isParameter.symm.trans resolved
          refine ⟨argument, coerced, ?_⟩
          rw [argument?_bindValues_of_not_addressed laterResolves laterBound isLast,
            Arguments.argument?_bind_self]

/-! ## Binding the rest -/

theorem bindRest_cons
    (arguments : Arguments)
    (parameter : Parameter)
    (later : List Parameter) :
    bindRest arguments (parameter :: later) =
      if parameter.name ∈ arguments.names ∨ parameter.hasDefault = true then
        bindRest arguments later
      else bindRest (arguments.bind parameter.name none) later := by
  have sameTest :
      ((arguments.isBound parameter.name || parameter.hasDefault) = true) ↔
        (parameter.name ∈ arguments.names ∨ parameter.hasDefault = true) := by
    rw [Bool.or_eq_true, Arguments.isBound_iff]
  rw [bindRest, List.foldl_cons, ← bindRest]
  simp only [sameTest]
  split_ifs <;> rfl

/-- Parameters without a default are bound after the others, in their order. -/
theorem names_bindRest
    (parameters : List Parameter)
    (distinct : arguments.names.Nodup) :
    (bindRest arguments parameters).names =
      (arguments.names ++ (parameters.filter (!·.hasDefault)).map (·.name)).eraseDups := by
  induction parameters generalizing arguments with
  | nil =>
      rw [List.filter_nil, List.map_nil, List.append_nil, eraseDups_of_nodup distinct]
      rfl
  | cons parameter later ih =>
      rw [bindRest_cons]
      cases isDefaulted : parameter.hasDefault with
      | true =>
          rw [if_pos (Or.inr rfl), ih distinct, List.filter_cons_of_neg (by simp [isDefaulted])]
      | false =>
          rw [List.filter_cons_of_pos (by simp [isDefaulted]), List.map_cons,
            ← List.singleton_append, ← List.append_assoc, ← eraseDups_append_eraseDups]
          by_cases isBound : parameter.name ∈ arguments.names
          · rw [if_pos (Or.inl isBound), ih distinct,
              Arguments.eraseDups_names_append_of_mem distinct isBound]
          · rw [if_neg (by simp [isBound]), ih (Arguments.nodup_names_bind distinct _ _),
              Arguments.names_bind distinct]

/-- What is bound is left as it is. -/
theorem argument?_bindRest_of_mem
    (parameters : List Parameter)
    (isBound : name ∈ arguments.names)
    (distinct : arguments.names.Nodup) :
    (bindRest arguments parameters).argument? name = arguments.argument? name := by
  induction parameters generalizing arguments with
  | nil => rfl
  | cons parameter later ih =>
      rw [bindRest_cons]
      split_ifs with skipped
      · exact ih isBound distinct
      · have different : name ≠ parameter.name := by
          rintro rfl
          exact skipped (.inl isBound)
        have stillBound : name ∈ (arguments.bind parameter.name none).names := by
          rw [Arguments.names_bind distinct, List.mem_eraseDups]
          exact List.mem_append_left _ isBound
        rw [ih stillBound (Arguments.nodup_names_bind distinct _ _),
          Arguments.argument?_bind_of_ne different]

/-- What is not bound yet is bound to no value, if at all. -/
theorem argument?_bindRest_of_not_mem
    {argument : Argument}
    (parameters : List Parameter)
    (unbound : name ∉ arguments.names)
    (isArgument : (bindRest arguments parameters).argument? name = some argument)
    (distinct : arguments.names.Nodup) :
    argument = none := by
  induction parameters generalizing arguments with
  | nil => exact absurd (Arguments.mem_names_of_argument? isArgument) unbound
  | cons parameter later ih =>
      rw [bindRest_cons] at isArgument
      split_ifs at isArgument with skipped
      · exact ih unbound isArgument distinct
      · have nextDistinct := Arguments.nodup_names_bind distinct parameter.name none
        by_cases isNamed : name = parameter.name
        · subst isNamed
          have nowBound : parameter.name ∈ (arguments.bind parameter.name none).names :=
            Arguments.mem_names_of_argument? (Arguments.argument?_bind_self _ _ _)
          rw [argument?_bindRest_of_mem later nowBound nextDistinct,
            Arguments.argument?_bind_self] at isArgument
          exact (Option.some.inj isArgument).symm
        · refine ih ?_ isArgument nextDistinct
          rw [Arguments.names_bind distinct, List.mem_eraseDups]
          simp [unbound, isNamed]

/-! ## The whole request -/

/-- The arguments for a request: the values of its keys are bound, and then the rest. -/
theorem exists_of_bindRequest
    (isBound : bindRequest catalog method request = .ok arguments) :
    ∃ values bound,
      Resolves method request values ∧
        bindValues catalog .empty values = .ok bound ∧
          bindRest bound method.parameters = arguments := by
  rw [bindRequest] at isBound
  split at isBound
  · cases isBound
  · rename_i values resolved
    rcases map_eq_ok_iff.mp isBound with ⟨bound, valuesBound, rest⟩
    exact ⟨values, bound, forall₂_of_resolveRequest resolved, valuesBound, rest⟩

/-- The arguments for a request are like this. -/
theorem binds_of_bindRequest
    (isBound : bindRequest catalog method request = .ok arguments) :
    method.Binds catalog request arguments := by
  rcases exists_of_bindRequest isBound with ⟨values, bound, resolves, valuesBound, rfl⟩
  have boundNames : bound.names = (method.addressed request).eraseDups := by
    have unbound : Arguments.empty.names.Nodup := List.nodup_nil
    rw [names_bindValues unbound valuesBound, names_of_resolves resolves, Arguments.names_empty,
      List.nil_append]
  have boundDistinct : bound.names.Nodup := by
    rw [boundNames]
    exact nodup_eraseDups _
  have names :
      (bindRest bound method.parameters).names =
        (method.addressed request ++ method.undefaulted).eraseDups := by
    rw [names_bindRest _ boundDistinct, boundNames, eraseDups_append_eraseDups]
    rfl
  have distinct : (bindRest bound method.parameters).names.Nodup := by
    rw [names]
    exact nodup_eraseDups _
  have memNames : ∀ name,
      name ∈ (bindRest bound method.parameters).names ↔
        (∃ member ∈ request, method.Addresses member name) ∨ name ∈ method.undefaulted := by
    intro name
    rw [names, List.mem_eraseDups, List.mem_append, mem_addressed_iff]
  refine ⟨distinct, ?declared, ?complete, ?defaulted, ?requested, ?unrequested, ?order⟩
  case declared =>
    intro name isName
    rcases (memNames name).mp isName with ⟨member, -, addresses⟩ | undefaulted
    · exact mem_parameters_of_addresses addresses
    · rcases mem_undefaulted_iff.mp undefaulted with ⟨parameter, declared, -, isNamed⟩
      exact ⟨parameter, declared, isNamed⟩
  case complete =>
    intro parameter declared noDefault
    exact (memNames _).mpr (.inr (mem_undefaulted_iff.mpr ⟨parameter, declared, noDefault, rfl⟩))
  case defaulted =>
    intro name allDefaulted
    refine (memNames name).trans (or_iff_left fun undefaulted => ?_)
    rcases mem_undefaulted_iff.mp undefaulted with ⟨parameter, declared, noDefault, isNamed⟩
    cases noDefault.symm.trans (allDefaulted parameter declared isNamed)
  case requested =>
    rintro before member after name split ⟨parameter, resolved, rfl⟩ isLast
    rcases argument?_bindValues_of_last resolves valuesBound split resolved isLast with
      ⟨argument, coerced, held⟩
    have kept :=
      argument?_bindRest_of_mem method.parameters (Arguments.mem_names_of_argument? held)
        boundDistinct
    exact
      ⟨parameter, argument, parameter?_of_resolveParameter resolved,
        takes_of_coerceOptional coerced, Arguments.mem_of_argument? (kept.trans held)⟩
  case unrequested =>
    intro name argument member unaddressed
    have unbound : bound.argument? name = none :=
      argument?_bindValues_of_not_addressed resolves valuesBound unaddressed
    exact
      argument?_bindRest_of_not_mem method.parameters
        (Arguments.argument?_eq_none_iff.mp unbound) (Arguments.argument?_of_mem distinct member)
        boundDistinct
  case order =>
    rw [names, List.eraseDups_append, List.removeAll]
    simp

/-- No other arguments are like those for a request. -/
theorem Method.Binds.eq
    {others : Arguments}
    (binds : method.Binds catalog request arguments)
    (alsoBinds : method.Binds catalog request others) :
    others = arguments := by
  have sameNames : others.names = arguments.names := by
    rw [alsoBinds.order, binds.order]
  refine Arguments.eq_of_names_eq binds.distinct sameNames ?_
  rintro ⟨name, other⟩ member
  by_cases isRequested : ∃ member ∈ request, method.Addresses member name
  · rcases exists_last_of_mem isRequested with ⟨before, last, after, split, addresses, isLast⟩
    rcases binds.requested before last after name split addresses isLast with
      ⟨parameter, argument, first, takes, isEntry⟩
    rcases alsoBinds.requested before last after name split addresses isLast with
      ⟨otherParameter, otherArgument, otherFirst, otherTakes, isOtherEntry⟩
    cases first.symm.trans otherFirst
    rw [Arguments.eq_of_mem alsoBinds.distinct member isOtherEntry, takes.eq otherTakes]
    exact isEntry
  · have unrequested : ∀ member ∈ request, ¬ method.Addresses member name :=
      fun member isMember addresses => isRequested ⟨member, isMember, addresses⟩
    have isName : name ∈ arguments.names := by
      rw [← sameNames]
      exact Arguments.mem_names_of_mem member
    rcases List.mem_map.mp isName with ⟨⟨entryName, argument⟩, isEntry, rfl⟩
    rw [alsoBinds.unrequested _ other member unrequested]
    rw [binds.unrequested _ argument isEntry unrequested] at isEntry
    exact isEntry

end

/-! ## A parameter that one key is for -/

theorem get?_eq_of_argument?
    {arguments : Arguments}
    {argument : Argument}
    (held : arguments.argument? name = some argument) :
    arguments.get? name = argument := by
  rw [Arguments.argument?, Option.map_eq_some_iff] at held
  rcases held with ⟨entry, found, rfl⟩
  rw [Arguments.get?, found]
  rfl

theorem get?_eq_none_of_argument?
    {arguments : Arguments}
    (unbound : arguments.argument? name = none) :
    arguments.get? name = none := by
  rw [Arguments.argument?, Option.map_eq_none_iff] at unbound
  rw [Arguments.get?, unbound]
  rfl

theorem coerceOptional_of_takes
    {raw : Json}
    {argument : Argument}
    (takes : parameter.Takes catalog raw argument) :
    coerceOptional catalog (argumentPath parameter) parameter.schema raw = .ok argument := by
  cases takes with
  | noValue => exact coerceOptional_of_isNull rfl
  | value notNull coerced =>
      have hasValue : raw.isNull = false := by
        rw [← Bool.not_eq_true, Json.isNull_iff]
        exact notNull
      exact (coerceOptional_eq_ok_iff hasValue).mpr ⟨_, coerced, rfl⟩

/--
Where one key alone leads to a parameter, the value of the parameter is what the value under this
key is coerced to, and nothing without the key.
-/
theorem coerceOptional_get?_of_binds
    {arguments : Arguments}
    (binds : method.Binds catalog request arguments)
    (distinct : request.keys.Nodup)
    {key : String}
    (isFirst : method.parameter? parameter.name = some parameter)
    (addresses : ∀ member ∈ request, method.Addresses member parameter.name ↔ member.1 = key) :
    (match Json.Members.get? key request with
      | none => .ok none
      | some raw => coerceOptional catalog (argumentPath parameter) parameter.schema raw :
        Except Failure (Option Typed)) =
      .ok (arguments.get? parameter.name) := by
  cases held : Json.Members.get? key request with
  | none =>
      have unaddressed : ∀ member ∈ request, ¬ method.Addresses member parameter.name := by
        intro member isMember isAddressed
        have isKey := (addresses member isMember).mp isAddressed
        rw [Json.Members.get?_eq_none_iff] at held
        exact held (isKey ▸ List.mem_map_of_mem isMember)
      cases isBound : arguments.argument? parameter.name with
      | none => rw [get?_eq_none_of_argument? isBound]
      | some argument =>
          rw [get?_eq_of_argument? isBound,
            binds.unrequested _ _ (Arguments.mem_of_argument? isBound) unaddressed]
  | some raw =>
      have isMember := Json.Members.mem_of_get? held
      rcases List.append_of_mem isMember with ⟨before, after, split⟩
      have isLast : ∀ other ∈ after, ¬ method.Addresses other parameter.name := by
        intro other isAfter isAddressed
        have inRequest : other ∈ request := by
          rw [split]
          exact List.mem_append_right _ (List.mem_cons_of_mem _ isAfter)
        have repeated : key ∈ after.map Prod.fst := by
          rw [← (addresses other inRequest).mp isAddressed]
          exact List.mem_map_of_mem isAfter
        rw [split, Json.Members.keys, List.map_append, List.map_cons, List.nodup_append,
          List.nodup_cons] at distinct
        exact distinct.2.1.1 repeated
      have isAddressed := (addresses (key, raw) isMember).mpr rfl
      rcases binds.requested before (key, raw) after _ split isAddressed isLast with
        ⟨other, argument, isOther, takes, isEntry⟩
      cases isFirst.symm.trans isOther
      rw [get?_eq_of_argument? (Arguments.argument?_of_mem binds.distinct isEntry)]
      exact coerceOptional_of_takes takes

theorem mem_of_get?
    {arguments : Arguments}
    {value : Typed}
    (held : arguments.get? name = some value) :
    (name, some value) ∈ arguments.entries := by
  rw [Arguments.get?, Option.bind_eq_some_iff] at held
  rcases held with ⟨⟨found, argument⟩, isFound, isValue⟩
  obtain rfl : argument = some value := isValue
  have sameName : found = name := by
    simpa using List.find?_some isFound
  exact sameName ▸ List.mem_of_find?_eq_some isFound

/-- The value of a parameter has the type that the method declares, and is no `null`. -/
theorem hasType_of_get?
    {arguments : Arguments}
    {value : Typed}
    (binds : method.Binds catalog request arguments)
    (held : arguments.get? name = some value) :
    ∃ parameter, method.parameter? name = some parameter ∧
      HasType catalog parameter.schema value ∧ value ≠ .json .null := by
  have isEntry := mem_of_get? held
  have isRequested : ∃ member ∈ request, method.Addresses member name := by
    by_contra unrequested
    have unset :=
      binds.unrequested name (some value) isEntry fun member isMember isAddressed =>
        unrequested ⟨member, isMember, isAddressed⟩
    cases unset
  rcases exists_last_of_mem isRequested with
    ⟨before, ⟨key, raw⟩, after, split, addresses, isLast⟩
  rcases binds.requested before (key, raw) after name split addresses isLast with
    ⟨parameter, argument, isParameter, takes, isOther⟩
  obtain rfl := Arguments.eq_of_mem binds.distinct isEntry isOther
  cases takes with
  | value notNull coerced =>
      have conforming := conforms_of_coerceAt coerced
      refine ⟨parameter, isParameter, conforming.hasType, ?_⟩
      rintro rfl
      exact notNull (eq_of_conforms_json conforming)

/--
Argument binding is complete and exact.  A request is bound exactly when each of its keys is
resolved to a parameter that its value fits, and then the arguments are the only ones that bind
every parameter once, in order, and to what the request says of it.
-/
theorem bindRequest_eq_ok_iff
    (catalog : Catalog)
    (method : Method)
    (request : Json.Members)
    (arguments : Arguments) :
    bindRequest catalog method request = .ok arguments ↔
      (∀ member ∈ request, method.Fits catalog member) ∧
        method.Binds catalog request arguments := by
  constructor
  · intro isBound
    exact ⟨exists_bindRequest_eq_ok_iff.mp ⟨arguments, isBound⟩, binds_of_bindRequest isBound⟩
  · rintro ⟨fits, binds⟩
    rcases exists_bindRequest_eq_ok_iff.mpr fits with ⟨found, isBound⟩
    rw [isBound, (binds_of_bindRequest isBound).eq binds]

end ContractReplay
