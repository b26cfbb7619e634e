import ContractReplay.Proofs.Coercion.Refusal
import ContractReplay.Proofs.Lists
import ContractReplay.Proofs.Naming.MethodNames
import ContractReplay.Replay

/-!
# How a request is bound

The keys of a request are all resolved before any of its values is coerced.  So a request with
a key that no parameter answers to is refused for the first such key, whatever its values are;
and one without such a key is refused for the first value that does not fit the parameter of
its key.  Without either, all its values are bound.
-/

namespace ContractReplay

open Coercion

/-! ## Resolution -/

/-- That one of the candidates for a recorded name is the name of a method. -/
def Published (methods : List Method) (recorded : String) : Prop :=
  ∃ name ∈ Naming.methodCandidates recorded, ∃ method ∈ methods, method.name = name

/-- That one of the candidates for the key of a request is the name of a parameter of a method. -/
def Method.Knows (method : Method) (member : String × Json) : Prop :=
  ∃ name ∈ Naming.parameterCandidates member.1,
    ∃ parameter ∈ method.parameters, parameter.name = name

theorem resolveMethod_eq_error_iff
    {methods : List Method}
    {recorded : String}
    {failure : Failure} :
    resolveMethod methods recorded = .error failure ↔
      ¬ Published methods recorded ∧
        failure = .methodNotFound recorded (Naming.methodCandidates recorded) := by
  rw [resolveMethod]
  cases found : (Naming.methodCandidates recorded).findSome? (methodNamed? methods) with
  | none =>
      have unpublished : ¬ Published methods recorded := by
        rintro ⟨name, candidate, method, declared, isNamed⟩
        have noMethod := List.findSome?_eq_none_iff.mp found name candidate
        exact methodNamed?_eq_none_iff.mp noMethod method declared isNamed
      simp [unpublished, eq_comm]
  | some method =>
      have published : Published methods recorded := by
        rcases List.exists_of_findSome?_eq_some found with ⟨name, candidate, named⟩
        exact
          ⟨name, candidate, method, List.mem_reverse.mp (List.mem_of_find?_eq_some named),
            name_of_methodNamed? named⟩
      simp [published]

variable {catalog : Catalog} {method : Method} {request : Json.Members} {failure : Failure}
  {member : String × Json} {parameter : Parameter}

theorem resolveParameter_eq_error_iff :
    method.resolveParameter member.1 = .error failure ↔
      ¬ method.Knows member ∧ failure = .unknownParameter method.name member.1 := by
  rw [Method.resolveParameter]
  cases found : (Naming.parameterCandidates member.1).findSome? method.parameter? with
  | none =>
      have unknown : ¬ method.Knows member := by
        rintro ⟨name, candidate, parameter, declared, rfl⟩
        have noParameter := List.findSome?_eq_none_iff.mp found parameter.name candidate
        simpa using List.find?_eq_none.mp noParameter parameter declared
      simp [unknown, eq_comm]
  | some parameter =>
      have known : method.Knows member := by
        rcases List.exists_of_findSome?_eq_some found with ⟨name, candidate, named⟩
        exact
          ⟨name, candidate, parameter, List.mem_of_find?_eq_some named,
            by simpa using List.find?_some named⟩
      simp [known]

theorem knows_of_resolveParameter
    (resolved : method.resolveParameter member.1 = .ok parameter) :
    method.Knows member := by
  by_contra unknown
  cases resolved.symm.trans (resolveParameter_eq_error_iff.mpr ⟨unknown, rfl⟩)

/-- A request is refused for the first key that the method does not know. -/
theorem resolveRequest_eq_error_iff :
    resolveRequest method request = .error failure ↔
      ∃ member, FirstFailing method.Knows request member ∧
        failure = .unknownParameter method.name member.1 := by
  induction request with
  | nil => simp [resolveRequest, not_firstFailing_nil]
  | cons first later ih =>
      rw [resolveRequest]
      cases resolved : method.resolveParameter first.1 with
      | error refusal =>
          rcases resolveParameter_eq_error_iff.mp resolved with ⟨unknown, rfl⟩
          simp only [firstFailing_cons_of_fails unknown, exists_eq_left, Except.error.injEq,
            @eq_comm _ failure]
      | ok parameter =>
          have known := knows_of_resolveParameter resolved
          simp only [firstFailing_cons_of_holds known, map_eq_error_iff, ih]

/-- A request is resolved key by key, and keeps its values. -/
theorem forall₂_of_resolveRequest
    {values : List (Parameter × Json)}
    (resolved : resolveRequest method request = .ok values) :
    List.Forall₂
      (fun member value =>
        method.resolveParameter member.1 = .ok value.1 ∧ value.2 = member.2)
      request values := by
  induction request generalizing values with
  | nil =>
      cases resolved
      exact .nil
  | cons first later ih =>
      rw [resolveRequest] at resolved
      split at resolved
      · cases resolved
      · rename_i parameter firstResolved
        rcases map_eq_ok_iff.mp resolved with ⟨others, laterResolved, rfl⟩
        exact .cons ⟨firstResolved, rfl⟩ (ih laterResolved)

/-! ## Values -/

/--
That the value under a key of a request is `null` or can be coerced to the schema of the
parameter that the key names.
-/
def Method.Fits (catalog : Catalog) (method : Method) (member : String × Json) : Prop :=
  ∃ parameter, method.resolveParameter member.1 = .ok parameter ∧
    (member.2 = .null ∨
      ∃ value,
        coerceAt catalog (argumentPath parameter) parameter.schema member.2 = .ok value)

/-- That the value under a key of a request is refused by the parameter that the key names. -/
def Method.Refuses
    (catalog : Catalog)
    (method : Method)
    (member : String × Json)
    (failure : Failure) : Prop :=
  ∃ parameter, method.resolveParameter member.1 = .ok parameter ∧ member.2 ≠ .null ∧
    coerceAt catalog (argumentPath parameter) parameter.schema member.2 = .error failure

theorem fits_iff
    (resolved : method.resolveParameter member.1 = .ok parameter) :
    method.Fits catalog member ↔
      ∃ argument,
        coerceOptional catalog (argumentPath parameter) parameter.schema member.2 =
          .ok argument := by
  constructor
  · rintro ⟨other, isOther, isNull | ⟨value, coerced⟩⟩
    · rw [isNull]
      exact ⟨none, coerceOptional_of_isNull rfl⟩
    · cases resolved.symm.trans isOther
      rw [coerceOptional, coerced]
      split_ifs
      · exact ⟨none, rfl⟩
      · exact ⟨some value, rfl⟩
  · rintro ⟨argument, coerced⟩
    refine ⟨parameter, resolved, ?_⟩
    rw [coerceOptional] at coerced
    split_ifs at coerced with isNull
    · exact .inl (Json.isNull_iff.mp isNull)
    · rcases map_eq_ok_iff.mp coerced with ⟨value, isValue, -⟩
      exact .inr ⟨value, isValue⟩

theorem refuses_iff
    (resolved : method.resolveParameter member.1 = .ok parameter) :
    method.Refuses catalog member failure ↔
      coerceOptional catalog (argumentPath parameter) parameter.schema member.2 =
        .error failure := by
  rw [coerceOptional_eq_error_iff, Method.Refuses, resolved]
  simp

theorem knows_of_fits
    (fits : method.Fits catalog member) :
    method.Knows member := by
  rcases fits with ⟨parameter, resolved, -⟩
  exact knows_of_resolveParameter resolved

/-- What does not fit the parameter of its key is refused by it. -/
theorem exists_refuses_of_knows
    (known : method.Knows member)
    (misfit : ¬ method.Fits catalog member) :
    ∃ failure, method.Refuses catalog member failure := by
  cases resolved : method.resolveParameter member.1 with
  | error failure => exact absurd known (resolveParameter_eq_error_iff.mp resolved).1
  | ok parameter =>
      cases coerced :
          coerceOptional catalog (argumentPath parameter) parameter.schema member.2 with
      | error failure => exact ⟨failure, (refuses_iff resolved).mpr coerced⟩
      | ok argument => exact absurd ((fits_iff resolved).mpr ⟨argument, coerced⟩) misfit

theorem Method.Refuses.code_mem
    (refuses : method.Refuses catalog member failure) :
    failure.code ∈ [3001, 3002, 3003] := by
  rcases refuses with ⟨parameter, -, -, refused⟩
  exact (refusal_of_coerceAt refused).code_mem

section

variable {values : List (Parameter × Json)} {arguments : Arguments}

/-- Values are refused for the first that does not fit, with the failure of this one. -/
theorem bindValues_eq_error_iff
    (resolved :
      List.Forall₂
        (fun member value =>
          method.resolveParameter member.1 = .ok value.1 ∧ value.2 = member.2)
        request values) :
    bindValues catalog arguments values = .error failure ↔
      ∃ member, FirstFailing (method.Fits catalog) request member ∧
        method.Refuses catalog member failure := by
  induction resolved generalizing arguments with
  | nil => simp [bindValues, not_firstFailing_nil]
  | @cons first value _ _ firstResolved _ ih =>
      rcases value with ⟨parameter, raw⟩
      rcases firstResolved with ⟨isParameter, rfl⟩
      rw [bindValues]
      cases coerced :
          coerceOptional catalog (argumentPath parameter) parameter.schema first.2 with
      | error refusal =>
          have misfit : ¬ method.Fits catalog first := by
            rw [fits_iff isParameter, coerced]
            simp
          simp only [firstFailing_cons_of_fails misfit, exists_eq_left, refuses_iff isParameter,
            coerced, Except.error.injEq]
      | ok argument =>
          have fits : method.Fits catalog first := by
            rw [fits_iff isParameter, coerced]
            exact ⟨argument, rfl⟩
          simp only [firstFailing_cons_of_holds fits, ih]

end

/-! ## The whole request -/

theorem forall_knows_of_resolveRequest
    {values : List (Parameter × Json)}
    (resolved : resolveRequest method request = .ok values) :
    ∀ member ∈ request, method.Knows member := by
  by_contra notAll
  rcases exists_firstFailing_of_not_forall notAll with ⟨member, first⟩
  cases resolved.symm.trans (resolveRequest_eq_error_iff.mpr ⟨member, first, rfl⟩)

/-- A request is refused for its first unknown key, and otherwise for its first misfit value. -/
theorem bindRequest_eq_error_iff :
    bindRequest catalog method request = .error failure ↔
      (∃ member, FirstFailing method.Knows request member ∧
          failure = .unknownParameter method.name member.1) ∨
        (∀ member ∈ request, method.Knows member) ∧
          ∃ member, FirstFailing (method.Fits catalog) request member ∧
            method.Refuses catalog member failure := by
  rw [← resolveRequest_eq_error_iff, bindRequest]
  cases resolved : resolveRequest method request with
  | error refusal =>
      rcases resolveRequest_eq_error_iff.mp resolved with ⟨member, first, -⟩
      have notAll : ¬ ∀ member ∈ request, method.Knows member :=
        fun known => first.fails (known member first.mem)
      rw [or_iff_left fun refused => notAll refused.1, Except.error.injEq, Except.error.injEq]
  | ok values =>
      have known := forall_knows_of_resolveRequest resolved
      rw [or_iff_right nofun, and_iff_right known]
      exact map_eq_error_iff.trans (bindValues_eq_error_iff (forall₂_of_resolveRequest resolved))

/-- A request is bound exactly when all its values fit. -/
theorem exists_bindRequest_eq_ok_iff :
    (∃ arguments, bindRequest catalog method request = .ok arguments) ↔
      ∀ member ∈ request, method.Fits catalog member := by
  cases bound : bindRequest catalog method request with
  | error failure =>
      refine iff_of_false nofun fun fits => ?_
      rcases bindRequest_eq_error_iff.mp bound with ⟨member, first, -⟩ | ⟨-, member, first, -⟩
      · exact first.fails (knows_of_fits (fits member first.mem))
      · exact first.fails (fits member first.mem)
  | ok arguments =>
      refine iff_of_true ⟨arguments, rfl⟩ ?_
      by_contra notAll
      have refused : ∃ failure, bindRequest catalog method request = .error failure := by
        by_cases known : ∀ member ∈ request, method.Knows member
        · rcases exists_firstFailing_of_not_forall notAll with ⟨member, first⟩
          rcases exists_refuses_of_knows (known member first.mem) first.fails with
            ⟨failure, refuses⟩
          exact ⟨failure, bindRequest_eq_error_iff.mpr (.inr ⟨known, member, first, refuses⟩)⟩
        · rcases exists_firstFailing_of_not_forall known with ⟨member, first⟩
          exact ⟨_, bindRequest_eq_error_iff.mpr (.inl ⟨member, first, rfl⟩)⟩
      rcases refused with ⟨failure, refused⟩
      cases bound.symm.trans refused

end ContractReplay
