import ContractReplay.Proofs.Coercion.Conformance

/-!
# Shapes and coercion

A union chooses a variant by the shape of a value, before anything is coerced, and keeps to its
choice.  A schema accepts the shape of every value that it coerces, so the variants before the
chosen one would not have coerced the value.  The shape may promise too much where a value has
parts, since lists, maps and records are told by their kind alone.  Of schemas whose values have
none it promises exactly what coercion does.
-/

namespace ContractReplay

namespace Coercion

variable {catalog : Catalog} {raw : Json} {schema : Schema}

/-! ## What is coerced is accepted -/

theorem accepts_of_coerceAt
    {path : Path}
    {value : Typed}
    (coerced : coerceAt catalog path schema raw = .ok value) :
    accepts catalog raw schema = .ok true :=
  accepts_of_conforms (conforms_of_coerceAt coerced)

/-- A schema that refuses the shape of a value does not coerce the value anywhere. -/
theorem coerceAt_ne_ok_of_refused
    (refused : accepts catalog raw schema = .ok false)
    (path : Path)
    (value : Typed) :
    coerceAt catalog path schema raw ≠ .ok value := by
  intro coerced
  rw [accepts_of_coerceAt coerced] at refused
  cases refused

/-! ## What is accepted is coerced -/

/--
That a schema is for values without parts: a scalar, an enumeration, a reference to a registered
enumeration, or a union of such schemas.
-/
inductive Atomic (catalog : Catalog) : Schema → Prop where
  | scalar (kind : Scalar) : Atomic catalog (.scalar kind)
  | enum (enumeration : EnumSchema) : Atomic catalog (.enum enumeration)
  | reference
      {name : String}
      {enumeration : EnumSchema}
      (resolved : catalog.resolve name = .ok (.enum enumeration)) :
      Atomic catalog (.reference name)
  | union
      {variants : List Schema}
      (each : ∀ variant ∈ variants, Atomic catalog variant) :
      Atomic catalog (.union variants)

theorem exists_coerceScalar_of_accepts
    {kind : Scalar}
    (accepted : scalarAccepts raw kind = true)
    (path : Path) :
    ∃ value, coerceScalar path raw kind = .ok value := by
  cases kind with
  | boolean =>
      cases raw with
      | bool value => exact ⟨_, rfl⟩
      | _ => cases accepted
  | integer =>
      cases raw with
      | number found =>
          rcases Option.isSome_iff_exists.mp accepted with ⟨value, read⟩
          exact ⟨.integer value, by simp only [coerceScalar, read]⟩
      | _ => cases accepted
  | float =>
      cases raw with
      | number found => exact ⟨_, rfl⟩
      | _ => cases accepted
  | string =>
      cases raw with
      | string text => exact ⟨_, rfl⟩
      | _ => cases accepted
  | binary =>
      cases raw with
      | string text =>
          cases decoded : Base64.decode text with
          | error failure => simp [scalarAccepts, decoded, Except.toOption] at accepted
          | ok bytes => exact ⟨.binary bytes, by simp only [coerceScalar, decoded]⟩
      | _ => cases accepted
  | timestamp =>
      cases raw with
      | string text =>
          rcases Option.isSome_iff_exists.mp accepted with ⟨value, read⟩
          exact ⟨.timestamp value, by simp only [coerceScalar, read]⟩
      | _ => cases accepted
  | json => exact ⟨_, rfl⟩

theorem exists_coerceAt_enum_of_accepts
    {enumeration : EnumSchema}
    (accepted : enumAccepts raw enumeration = true)
    (path : Path) :
    ∃ value, coerceAt catalog path (.enum enumeration) raw = .ok value := by
  cases raw with
  | string symbol =>
      rw [enumAccepts] at accepted
      have coerced :
          coerceSymbol path (.string symbol) enumeration = .ok (.enum enumeration.name symbol) := by
        rw [coerceSymbol, if_pos accepted]
      exact ⟨_, (coerceAt_toSchema (.enum enumeration) _).trans coerced⟩
  | _ => cases accepted

/-- What has the shape of an atomic schema is coerced under it. -/
theorem Atomic.exists_coerceAt
    (atomic : Atomic catalog schema)
    (accepted : accepts catalog raw schema = .ok true)
    (path : Path) :
    ∃ value, coerceAt catalog path schema raw = .ok value := by
  induction atomic with
  | scalar kind =>
      rw [accepts, Except.ok.injEq] at accepted
      rcases exists_coerceScalar_of_accepts accepted path with ⟨value, coerced⟩
      exact ⟨value, (coerceAt_toSchema (.scalar kind) raw).trans coerced⟩
  | enum enumeration =>
      rw [accepts, Except.ok.injEq] at accepted
      exact exists_coerceAt_enum_of_accepts accepted path
  | @reference name enumeration resolved =>
      rw [accepts_reference resolved, accepts_toSchema, Except.ok.injEq] at accepted
      rw [coerceAt_reference, resolved]
      exact exists_coerceAt_enum_of_accepts accepted path
  | union _ ih =>
      rcases anyAccepts_eq_true_iff.mp accepted with ⟨before, variant, after, first⟩
      rw [coerceAt_union_of_first first]
      exact ih variant first.mem first.accepted

/-! ## The choice of a union -/

/--
The variant that a union selects coerces in the place of the union, and no variant before it would
have coerced the value.
-/
theorem exists_before_of_selectVariant
    {variants : List Schema}
    {variant : Schema}
    (selected : selectVariant catalog raw variants = .ok (some variant)) :
    ∃ before after,
      variants = before ++ variant :: after ∧
        (∀ path,
          coerceAt catalog path (.union variants) raw = coerceAt catalog path variant raw) ∧
        ∀ earlier ∈ before, ∀ path value, coerceAt catalog path earlier raw ≠ .ok value := by
  rcases selectVariant_eq_some_iff.mp selected with ⟨before, after, first⟩
  refine ⟨before, after, first.split, fun path => coerceAt_union_of_first first, ?_⟩
  intro earlier isEarlier
  exact coerceAt_ne_ok_of_refused (first.refused earlier isEarlier)

/--
The shapes that schemas accept agree with coercion.  What is coerced is accepted, and under atomic
schemas nothing else is.  So a union selects the first variant that could coerce the value, to
which it keeps, and where it selects none no variant could.
-/
theorem accepts_agrees_with_coercion
    (catalog : Catalog)
    (raw : Json) :
    (∀ path schema value,
        coerceAt catalog path schema raw = .ok value → accepts catalog raw schema = .ok true) ∧
      (∀ schema, Atomic catalog schema →
        ∀ path,
          accepts catalog raw schema = .ok true ↔
            ∃ value, coerceAt catalog path schema raw = .ok value) ∧
      (∀ variants variant, selectVariant catalog raw variants = .ok (some variant) →
        ∃ before after,
          variants = before ++ variant :: after ∧
            (∀ path,
              coerceAt catalog path (.union variants) raw = coerceAt catalog path variant raw) ∧
            ∀ earlier ∈ before, ∀ path value, coerceAt catalog path earlier raw ≠ .ok value) ∧
      ∀ variants, selectVariant catalog raw variants = .ok none →
        ∀ variant ∈ variants, ∀ path value, coerceAt catalog path variant raw ≠ .ok value := by
  refine
    ⟨fun _ _ _ => accepts_of_coerceAt, fun schema atomic path => ⟨?_, ?_⟩,
      fun _ _ => exists_before_of_selectVariant, fun variants noneSelected variant member => ?_⟩
  · exact fun accepted => atomic.exists_coerceAt accepted path
  · exact fun ⟨_, coerced⟩ => accepts_of_coerceAt coerced
  · exact coerceAt_ne_ok_of_refused (selectVariant_eq_none_iff.mp noneSelected variant member)

end Coercion

namespace Demo

/-- A time, a number or an answer, or else any text. -/
def remarkVariants : List Schema := [
  .scalar .timestamp,
  .union [.scalar .integer, .reference "Answer"],
  .scalar .string]

theorem remarkVariants_atomic :
    Coercion.Atomic catalog (.union remarkVariants) := by
  have answer : Coercion.Atomic catalog (.reference "Answer") := .reference (by rfl)
  have numberOrAnswer :
      Coercion.Atomic catalog (.union [.scalar .integer, .reference "Answer"]) :=
    .union (by simpa using ⟨.scalar _, answer⟩)
  exact .union (by simpa [remarkVariants] using ⟨.scalar _, numberOrAnswer, .scalar _⟩)

end Demo

namespace Coercion

/-- An answer is accepted and coerced by the second variant; the first would not have coerced it. -/
theorem accepts_agrees_with_coercion_answer :
    (∃ value,
        coerceAt Demo.catalog rootPath (.union Demo.remarkVariants) (.string "no") = .ok value) ∧
      accepts Demo.catalog (.string "no") (.union Demo.remarkVariants) = .ok true ∧
      ∀ value, coerceAt Demo.catalog rootPath (.scalar .timestamp) (.string "no") ≠ .ok value := by
  rcases accepts_agrees_with_coercion Demo.catalog (.string "no") with
    ⟨accepted, atomicIff, committed, -⟩
  have coerced :=
    (atomicIff (.union Demo.remarkVariants) Demo.remarkVariants_atomic rootPath).mp (by rfl)
  have selected :
      selectVariant Demo.catalog (.string "no") Demo.remarkVariants =
        .ok (some (.union [.scalar .integer, .reference "Answer"])) := by
    rfl
  refine ⟨coerced, coerced.elim fun value isValue => accepted _ _ value isValue, ?_⟩
  rcases committed _ _ selected with ⟨before, after, split, -, earlierFail⟩
  cases before with
  | nil => simp [Demo.remarkVariants] at split
  | cons first later =>
      obtain ⟨rfl, -⟩ := List.cons.inj split
      exact earlierFail _ List.mem_cons_self rootPath

end Coercion

end ContractReplay
