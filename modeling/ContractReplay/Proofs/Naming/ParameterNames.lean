import ContractReplay.Method
import ContractReplay.Proofs.Lists
import ContractReplay.Proofs.Naming.SnakeCase

/-!
# Generated parameter names

A method that declares its parameters under the internal names of some external names knows
them under these external names: where the internal names are distinct, each external name leads
to the parameter that was declared for it.  The candidates that are tried on the way stand for
the same member as the external name, so none of them is the name of another parameter.
-/

namespace ContractReplay

open Naming

/-! ## Looking a parameter up by its name -/

theorem parameter?_eq_some
    {method : Method}
    {name : String}
    {parameter : Parameter}
    (found : method.parameter? name = some parameter) :
    parameter ∈ method.parameters ∧ parameter.name = name :=
  ⟨List.mem_of_find?_eq_some found, by simpa using List.find?_some found⟩

/-- The key as written is tried first, then its snake-case form, and then that with the mark. -/
theorem findSome?_parameterCandidates
    {α : Type}
    (key : String)
    (value? : String → Option α) :
    (parameterCandidates key).findSome? value? =
      [key, snakeCase key, escaped (snakeCase key)].findSome? value? :=
  findSome?_eraseDups value? _

/-! ## Parameters declared under internal names -/

section

variable {externals : List String} {declared : String → Parameter} {method : Method}

/-- The parameter of an external name is found under its internal name. -/
theorem parameter?_internalName
    (parameters : method.parameters = externals.map declared)
    (named : ∀ external ∈ externals, (declared external).name = internalName external)
    (distinct : (externals.map internalName).Nodup)
    {external : String}
    (member : external ∈ externals) :
    method.parameter? (internalName external) = some (declared external) := by
  have sameNames : method.parameters.map (·.name) = externals.map internalName := by
    rw [parameters, List.map_map]
    exact List.map_congr_left named
  have isDeclared : declared external ∈ method.parameters := by
    rw [parameters]
    exact List.mem_map_of_mem member
  rw [← named external member]
  exact find?_key_of_nodup (sameNames ▸ distinct) isDeclared

/-- A spelling that stands for the same member as an external name leads to no other one. -/
theorem parameter?_spelling
    (parameters : method.parameters = externals.map declared)
    (named : ∀ external ∈ externals, (declared external).name = internalName external)
    (distinct : (externals.map internalName).Nodup)
    {external spelling : String}
    (member : external ∈ externals)
    (sameMember : internalName spelling = internalName external) :
    method.parameter? spelling = none ∨ method.parameter? spelling = some (declared external) := by
  cases found : method.parameter? spelling with
  | none => exact .inl rfl
  | some parameter =>
      rcases parameter?_eq_some found with ⟨isDeclared, isSpelling⟩
      rw [parameters] at isDeclared
      rcases List.mem_map.mp isDeclared with ⟨other, isOther, rfl⟩
      have sameInternal : internalName other = internalName external := by
        rw [← internalName_internalName other, ← named other isOther, isSpelling, sameMember]
      rw [List.inj_on_of_nodup_map distinct isOther member sameInternal]
      exact .inr rfl

/--
Generated parameter names resolve to their own parameters.  Where a method declares its
parameters under the distinct internal names of some external names, each of these names is
resolved to the parameter that was declared for it.
-/
theorem resolveParameter_internalName
    (parameters : method.parameters = externals.map declared)
    (named : ∀ external ∈ externals, (declared external).name = internalName external)
    (distinct : (externals.map internalName).Nodup) :
    ∀ external ∈ externals, method.resolveParameter external = .ok (declared external) := by
  intro external member
  have own := parameter?_internalName parameters named distinct member
  have spelling {name : String} (sameMember : internalName name = internalName external) :=
    parameter?_spelling parameters named distinct member sameMember
  have found :
      [external, snakeCase external, escaped (snakeCase external)].findSome? method.parameter? =
        some (declared external) := by
    rw [internalName] at own
    split_ifs at own with reserved
    · have agreeing :
          ∀ name ∈ [external, snakeCase external],
            method.parameter? name = none ∨ method.parameter? name = some (declared external) := by
        simp only [List.forall_mem_cons, List.not_mem_nil, false_implies, implies_true, and_true]
        exact ⟨spelling rfl, spelling (internalName_snakeCase external)⟩
      exact findSome?_of_agreeing agreeing own
    · have agreeing :
          ∀ name ∈ [external],
            method.parameter? name = none ∨ method.parameter? name = some (declared external) := by
        rw [List.forall_mem_singleton]
        exact spelling rfl
      exact findSome?_of_agreeing agreeing own
  rw [Method.resolveParameter, findSome?_parameterCandidates, found]

end

/-- The parameter of opaque JSON that is declared for an external name. -/
def plainParameter (external : String) : Parameter :=
  ⟨internalName external, .scalar .json, false⟩

/-- A reserved word, a name with a boundary, one beyond ASCII and one that ends in marks. -/
theorem resolveParameter_internalName_reserved :
    (plainParameter "ID").name = "id_" ∧
      ∀ external ∈ ["ID", "inputId", "Übergröße", "id__"],
        Method.resolveParameter
            ⟨"check", ["ID", "inputId", "Übergröße", "id__"].map plainParameter⟩ external =
          .ok (plainParameter external) := by
  refine ⟨by rfl, ?_⟩
  exact resolveParameter_internalName rfl (fun external member => rfl) (by decide +kernel)

end ContractReplay
