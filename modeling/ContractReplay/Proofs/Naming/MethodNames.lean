import ContractReplay.Method
import ContractReplay.Proofs.Lists
import ContractReplay.Proofs.Naming.InternalNames

/-!
# Generated method names

A client that declares its methods under the internal names of some external names is found
under these external names again: where the internal names are distinct, each external name
leads to the method that was declared for it and to no other.  Names that start with a small
letter directly followed by a capital are the exception, since the look-up raises the first
letter before it looks for boundaries.
-/

namespace ContractReplay

open Naming

/-! ## Looking a method up by its name -/

theorem methodNamed?_eq_none_iff
    {methods : List Method}
    {name : String} :
    methodNamed? methods name = none ↔ ∀ method ∈ methods, method.name ≠ name := by
  simp [methodNamed?, List.find?_eq_none]

theorem name_of_methodNamed?
    {methods : List Method}
    {name : String}
    {method : Method}
    (found : methodNamed? methods name = some method) :
    method.name = name := by
  simpa using List.find?_some found

/-- Where names are distinct, a method is found under its name. -/
theorem methodNamed?_of_nodup
    {methods : List Method}
    (distinct : (methods.map (·.name)).Nodup)
    {method : Method}
    (declared : method ∈ methods) :
    methodNamed? methods method.name = some method := by
  rw [methodNamed?]
  apply find?_key_of_nodup
  · rwa [List.map_reverse, List.nodup_reverse]
  · rwa [List.mem_reverse]

/-- A method that a recorded name is resolved to is one of the methods. -/
theorem mem_of_resolveMethod
    {methods : List Method}
    {recorded : String}
    {method : Method}
    (resolved : resolveMethod methods recorded = .ok method) :
    method ∈ methods := by
  rw [resolveMethod] at resolved
  split at resolved
  · rename_i found
    cases resolved
    rcases List.exists_of_findSome?_eq_some found with ⟨name, -, named⟩
    exact List.mem_reverse.mp (List.mem_of_find?_eq_some named)
  · cases resolved

/-- What a recorded name is resolved to has one of its candidates as its name. -/
theorem name_mem_of_resolveMethod
    {methods : List Method}
    {recorded : String}
    {method : Method}
    (resolved : resolveMethod methods recorded = .ok method) :
    method.name ∈ methodCandidates recorded := by
  rw [resolveMethod] at resolved
  split at resolved
  · rename_i found isFound
    cases resolved
    rcases List.exists_of_findSome?_eq_some isFound with ⟨name, candidate, named⟩
    rw [name_of_methodNamed? named]
    exact candidate
  · cases resolved

/-- A recorded name is resolved to the first of its candidates that is declared. -/
theorem resolveMethod_of_candidates
    {methods : List Method}
    {recorded : String}
    {method : Method}
    (before after : List String)
    (split : methodCandidates recorded = before ++ method.name :: after)
    (undeclared : ∀ name ∈ before, methodNamed? methods name = none)
    (declared : methodNamed? methods method.name = some method) :
    resolveMethod methods recorded = .ok method := by
  have found : (methodCandidates recorded).findSome? (methodNamed? methods) = some method := by
    rw [split, List.findSome?_append, List.findSome?_eq_none_iff.mpr undeclared,
      List.findSome?_cons, declared]
    rfl
  rw [resolveMethod, found]

/-! ## Methods declared under internal names -/

section

variable {externals : List String} {declared : String → Method}

theorem nodup_names_declared
    (named : ∀ external ∈ externals, (declared external).name = internalName external)
    (distinct : (externals.map internalName).Nodup) :
    ((externals.map declared).map (·.name)).Nodup := by
  have sameNames : (externals.map declared).map (·.name) = externals.map internalName := by
    rw [List.map_map]
    exact List.map_congr_left named
  rw [sameNames]
  exact distinct

/-- No reserved word is the name of a method. -/
theorem methodNamed?_declared_of_isReserved
    (named : ∀ external ∈ externals, (declared external).name = internalName external)
    {name : String}
    (reserved : isReserved name = true) :
    methodNamed? (externals.map declared) name = none := by
  rw [methodNamed?_eq_none_iff]
  intro method isDeclared isName
  rcases List.mem_map.mp isDeclared with ⟨external, member, rfl⟩
  rw [← isName, named external member, not_isReserved_internalName] at reserved
  cases reserved

/-- A name that does not start humped is resolved to the method that was declared for it. -/
theorem resolveMethod_declared
    (named : ∀ external ∈ externals, (declared external).name = internalName external)
    (distinct : (externals.map internalName).Nodup)
    {external : String}
    (member : external ∈ externals)
    (ascii : IsAscii external)
    (level : startsHumped external = false) :
    resolveMethod (externals.map declared) external = .ok (declared external) := by
  have found :
      methodNamed? (externals.map declared) (declared external).name =
        some (declared external) :=
    methodNamed?_of_nodup (nodup_names_declared named distinct) (List.mem_map_of_mem member)
  have candidates :
      methodCandidates external = [snakeCase external, escaped (snakeCase external)] := by
    rw [methodCandidates, snakeCase_upperFirst ascii level]
  have isNamed := named external member
  rw [internalName] at isNamed
  split_ifs at isNamed with reserved
  · refine resolveMethod_of_candidates [snakeCase external] [] ?_ ?_ found
    · rw [candidates, isNamed]
      rfl
    · intro name isFirst
      rw [List.mem_singleton.mp isFirst]
      exact methodNamed?_declared_of_isReserved named reserved
  · refine
      resolveMethod_of_candidates [] [escaped (snakeCase external)] ?_ (by simp) found
    rw [candidates, isNamed]
    rfl

/--
Generated method names resolve.  Where methods are declared under the distinct internal names
of some external names, an ASCII name among these is resolved to the method that was declared
for it, unless it starts with a small letter directly followed by a capital; such a name is
never resolved to its own method.
-/
theorem resolveMethod_internalName_iff
    (named : ∀ external ∈ externals, (declared external).name = internalName external)
    (distinct : (externals.map internalName).Nodup)
    {external : String}
    (member : external ∈ externals)
    (ascii : IsAscii external) :
    resolveMethod (externals.map declared) external = .ok (declared external) ↔
      startsHumped external = false := by
  constructor
  · intro resolved
    have candidate := name_mem_of_resolveMethod resolved
    rw [named external member] at candidate
    rw [← Bool.not_eq_true]
    intro humped
    exact internalName_not_mem_methodCandidates ascii humped candidate
  · exact resolveMethod_declared named distinct member ascii

end

/-- The method without parameters that is declared for an external name. -/
def bareMethod (external : String) : Method :=
  ⟨internalName external, []⟩

/-- Capitals, digits, underscores and a reserved word: each name leads to its own method. -/
theorem resolveMethod_internalName_iff_import :
    resolveMethod (["getV2_beta", "import", "ETag"].map bareMethod) "import" =
        .ok (bareMethod "import") ∧
      bareMethod "import" = ⟨"import_", []⟩ := by
  refine ⟨?_, by rfl⟩
  have decided :
      resolveMethod (["getV2_beta", "import", "ETag"].map bareMethod) "import" =
          .ok (bareMethod "import") ↔
        startsHumped "import" = false :=
    resolveMethod_internalName_iff (fun external member => rfl) (by decide +kernel)
      (by decide) (by decide)
  exact decided.mpr (by decide)

/--
Distinct internal names alone do not suffice: `eSign` is declared as `e_sign` and looked up as
`esign`, which is the method of another name.
-/
theorem not_forall_resolveMethod_declared :
    ¬ ∀ (externals : List String) (declared : String → Method),
      (∀ external ∈ externals, external ≠ "" ∧ IsAscii external) →
        (∀ external ∈ externals, (declared external).name = internalName external) →
          (externals.map internalName).Nodup →
            ∀ external ∈ externals,
              resolveMethod (externals.map declared) external = .ok (declared external) := by
  intro resolves
  have own :=
    resolves ["eSign", "esign"] bareMethod (by decide) (fun external member => rfl)
      (by decide +kernel) "eSign" (by decide)
  have other :
      resolveMethod (["eSign", "esign"].map bareMethod) "eSign" = .ok (bareMethod "esign") := by
    rfl
  rw [own] at other
  have sameName : internalName "eSign" = internalName "esign" :=
    congrArg Method.name (Except.ok.inj other)
  revert sameName
  decide +kernel

end ContractReplay
