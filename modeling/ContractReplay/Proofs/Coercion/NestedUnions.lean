import ContractReplay.Proofs.Coercion.Refusal

/-!
# Unions inside unions

A union that stands among the variants of another one adds nothing but a choice of its own.  Only
the variants that are no unions count, in the order in which they are written, however deep they
stand: unions with the same of them coerce a value alike, and show themselves only in the failure
that no variant accepts the value.  A variant that is selected is kept to, so variants that come
after it change nothing, even if its coercion fails.
-/

namespace ContractReplay

namespace Schema

mutual

/-- The variants that a schema has once the unions inside it are opened. -/
def leaves : Schema → List Schema
  | .union variants => leavesOf variants
  | other => [other]

/-- The variants that some schemas have once the unions inside them are opened. -/
def leavesOf : List Schema → List Schema
  | [] => []
  | variant :: later => leaves variant ++ leavesOf later

end

theorem leavesOf_append
    (before after : List Schema) :
    leavesOf (before ++ after) = leavesOf before ++ leavesOf after := by
  induction before with
  | nil => rfl
  | cons first later ih => rw [List.cons_append, leavesOf, leavesOf, ih, List.append_assoc]

theorem leavesOf_singleton
    (variant : Schema) :
    leavesOf [variant] = leaves variant := by
  rw [leavesOf, leavesOf, List.append_nil]

end Schema

namespace Coercion

open Schema

variable {catalog : Catalog} {raw : Json} {path : Path}

/-! ## Where some variants lead -/

theorem headOfFirst_eq_none_iff
    {variants : List Schema} :
    headOfFirst catalog raw path variants = .ok none ↔
      ∀ variant ∈ variants, accepts catalog raw variant = .ok false := by
  rw [headOfFirst_eq, ← selectVariant_eq_none_iff]
  rcases selectVariant catalog raw variants with failure | _ | variant
  · simp
  · simp
  · cases leads : head catalog raw path variant <;> simp [leads, Except.map]

/-- Variants that come after others count only where none of these accepts the value. -/
theorem headOfFirst_append
    (before after : List Schema) :
    headOfFirst catalog raw path (before ++ after) =
      match headOfFirst catalog raw path before with
      | .ok none => headOfFirst catalog raw path after
      | decided => decided := by
  induction before with
  | nil => rfl
  | cons first later ih =>
      rw [List.cons_append, headOfFirst, headOfFirst]
      rcases accepts catalog raw first with failure | _ | _
      · rfl
      · exact ih
      · cases head catalog raw path first <;> rfl

/-- A union by itself leads to where its variants lead. -/
theorem headOfFirst_union
    (variants : List Schema) :
    headOfFirst catalog raw path [.union variants] = headOfFirst catalog raw path variants := by
  rw [headOfFirst, accepts, anyAccepts_eq, head, headOfFirst_eq]
  rcases selectVariant catalog raw variants with failure | _ | variant
  · rfl
  · rfl
  · cases leads : head catalog raw path variant <;> simp [leads, Except.map]

/-- Schemas lead to where their leaves lead. -/
theorem headOfFirst_leaves
    (schema : Schema) :
    headOfFirst catalog raw path (leaves schema) = headOfFirst catalog raw path [schema] := by
  induction schema with
  | union variants ih =>
      rw [headOfFirst_union, leaves]
      induction variants with
      | nil => rfl
      | cons first later laterIH =>
          rw [leavesOf, ← List.singleton_append (l := later), headOfFirst_append,
            headOfFirst_append, ih first List.mem_cons_self,
            laterIH fun variant member => ih variant (List.mem_cons_of_mem _ member)]
  | _ => rfl

theorem headOfFirst_leavesOf
    (variants : List Schema) :
    headOfFirst catalog raw path (leavesOf variants) = headOfFirst catalog raw path variants := by
  rw [← headOfFirst_union variants, ← headOfFirst_leaves, leaves]

/-! ## Coercion under unions -/

/-- The failure that no variant of a union accepts a value. -/
def noVariantOf (path : Path) (variants : List Schema) (raw : Json) : Failure :=
  .coercion path (Schema.union variants).display (.noVariant raw.kind)

/--
That two unions coerce a value alike: to the same value, or with the same failure but for the words
for the union where no variant accepts the value.
-/
structure CoerceAlike
    (catalog : Catalog)
    (path : Path)
    (raw : Json)
    (variants others : List Schema) : Prop where
  accepted :
    (∃ variant ∈ others, accepts catalog raw variant ≠ .ok false) →
      coerceAt catalog path (.union variants) raw = coerceAt catalog path (.union others) raw
  refused :
    (∀ variant ∈ others, accepts catalog raw variant = .ok false) →
      coerceAt catalog path (.union variants) raw = .error (noVariantOf path variants raw) ∧
        coerceAt catalog path (.union others) raw = .error (noVariantOf path others raw)

/-- Unions with the same leaves coerce every value alike. -/
theorem coerceAlike_of_leavesOf_eq
    {variants others : List Schema}
    (same : leavesOf variants = leavesOf others) :
    CoerceAlike catalog path raw variants others := by
  have sameHead : headOfFirst catalog raw path variants = headOfFirst catalog raw path others := by
    rw [← headOfFirst_leavesOf variants, same, headOfFirst_leavesOf]
  constructor
  · rintro ⟨variant, member, notRefused⟩
    rw [coerceAt_eq, coerceAt_eq, head, head, sameHead]
    rcases leads : headOfFirst catalog raw path others with failure | _ | found
    · rfl
    · exact absurd (headOfFirst_eq_none_iff.mp leads variant member) notRefused
    · rfl
  · intro refused
    have noHead : headOfFirst catalog raw path others = .ok none :=
      headOfFirst_eq_none_iff.mpr refused
    rw [coerceAt_eq, coerceAt_eq, head, head, sameHead, noHead]
    exact ⟨rfl, rfl⟩

/-- Variants that come after the selected one change nothing. -/
theorem selectVariant_append_of_selected
    {before : List Schema}
    {variant : Schema}
    (selected : selectVariant catalog raw before = .ok (some variant))
    (after : List Schema) :
    selectVariant catalog raw (before ++ after) = .ok (some variant) := by
  rcases selectVariant_eq_some_iff.mp selected with ⟨earlier, later, first⟩
  refine selectVariant_eq_some_iff.mpr ⟨earlier, later ++ after, ?_, first.refused, first.accepted⟩
  rw [first.split, List.append_assoc, List.cons_append]

/--
A union among the variants of a union can be replaced by its variants, and variants after a
selected one can be left out.  The failure of a selected variant is the failure of the union.
-/
theorem union_flattens_and_commits
    (catalog : Catalog)
    (path : Path)
    (raw : Json)
    (before inner after : List Schema) :
    CoerceAlike catalog path raw (before ++ [.union inner] ++ after) (before ++ inner ++ after) ∧
      ∀ variant, selectVariant catalog raw before = .ok (some variant) →
        coerceAt catalog path (.union (before ++ after)) raw =
            coerceAt catalog path (.union before) raw ∧
          coerceAt catalog path (.union before) raw = coerceAt catalog path variant raw := by
  constructor
  · apply coerceAlike_of_leavesOf_eq
    rw [leavesOf_append, leavesOf_append, leavesOf_append, leavesOf_append, leavesOf_singleton,
      leaves]
  · intro variant selected
    rw [coerceAt_union, coerceAt_union, selected,
      selectVariant_append_of_selected selected after]
    exact ⟨rfl, rfl⟩

end Coercion

namespace Demo

/-- A line of an order with a size in numbers. -/
def sizedLine : Schema :=
  .record ⟨"Line", [⟨"size", "size", .scalar .integer, false⟩]⟩

/-- A line of an order, an amount or a remark, which are told apart in a union of their own. -/
def nestedEntry : List Schema :=
  [sizedLine] ++ [.union [.scalar .integer, .scalar .string]] ++ [.map (.scalar .json)]

/-- A line of an order, an amount or a remark, all in one union. -/
def flatEntry : List Schema :=
  [sizedLine] ++ [.scalar .integer, .scalar .string] ++ [.map (.scalar .json)]

end Demo

namespace Coercion

/--
A size in words makes the selected line fail, although the map after it would take anything.  The
two ways to write the union differ in the words for it, where no variant accepts `null`.
-/
theorem union_flattens_and_commits_entry :
    coerceAt .empty rootPath (.union ([Demo.sizedLine] ++ [.map (.scalar .json)]))
        (.object [("Size", .string "m")]) =
          .error (.coercion (rootPath.add (.field "size")) "integer"
            (.wrongKind "64-bit integer" .string)) ∧
      coerceAt .empty rootPath (.union Demo.nestedEntry) (.string "hat") =
        coerceAt .empty rootPath (.union Demo.flatEntry) (.string "hat") ∧
      coerceAt .empty rootPath (.union Demo.nestedEntry) .null =
        .error (noVariantOf rootPath Demo.nestedEntry .null) ∧
      (Schema.union Demo.nestedEntry).display =
        "union<record Line | union<integer | string> | map<string, object>>" := by
  refine ⟨?commits, ?alike, ?refused, by decide +kernel⟩
  case commits =>
    rcases
      union_flattens_and_commits .empty rootPath (.object [("Size", .string "m")])
        [Demo.sizedLine] [] [.map (.scalar .json)] with
      ⟨-, committed⟩
    rcases committed Demo.sizedLine (by rfl) with ⟨same, isVariant⟩
    rw [same, isVariant]
    rfl
  case alike =>
    have flattens :=
      (union_flattens_and_commits .empty rootPath (.string "hat") [Demo.sizedLine]
        [.scalar .integer, .scalar .string] [.map (.scalar .json)]).1
    exact flattens.accepted ⟨.scalar .string, by simp, nofun⟩
  case refused =>
    have flattens :=
      (union_flattens_and_commits .empty rootPath .null [Demo.sizedLine]
        [.scalar .integer, .scalar .string] [.map (.scalar .json)]).1
    have refused :
        ∀ variant ∈ Demo.flatEntry, accepts .empty .null variant = .ok false := by
      simp only [Demo.flatEntry, List.cons_append, List.nil_append, List.forall_mem_cons]
      exact ⟨rfl, rfl, rfl, rfl, List.forall_mem_nil _⟩
    exact (flattens.refused refused).1

end Coercion

end ContractReplay
