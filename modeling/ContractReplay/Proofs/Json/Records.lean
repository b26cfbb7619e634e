import ContractReplay.Proofs.Json.Layouts

/-!
# Records in a layout

A record is read from an object in a layout member by member: the field under the key of a member
reads the text of its value as a change of the record.  When the keys of the object are distinct
and no field that must be there is missing, the record is the blank one after all the changes.
-/

namespace ContractReplay.Json

variable {α : Type}

namespace Shape

variable {shape : Shape α} {layout : Layout} {level : Nat}

/-- That the field under the key of a member reads the text of the value as a change. -/
def ReadsMember
    (shape : Shape α)
    (layout : Layout)
    (level : Nat)
    (member : String × Json)
    (change : α → α) : Prop :=
  ∃ field, shape.field? member.1 = some field ∧
    Reads field.decoder.reader (layout.text level member.2) change

theorem gathers_of_readsMember
    {members : Members}
    {changes : List (α → α)}
    (each : List.Forall₂ (shape.ReadsMember layout level) members changes)
    (distinct : members.keys.Nodup)
    (progress : Progress α)
    (isNew : ∀ key ∈ members.keys, key ∉ progress.seen) :
    Gathers shape.memberReader progress (pieces layout.colon (layout.text level) members)
      ⟨members.keys.reverse ++ progress.seen,
        changes.foldl (fun value change => change value) progress.value⟩ := by
  induction each generalizing progress with
  | nil => exact .nil progress
  | @cons member change members changes reads _ ih =>
      rcases member with ⟨key, value⟩
      rcases reads with ⟨field, isField, fieldReads⟩
      rw [Members.keys, List.map_cons, List.nodup_cons] at distinct
      rw [Members.keys, List.map_cons, List.forall_mem_cons] at isNew
      have keyIsNew : progress.seen.contains key = false := by
        simpa using isNew.1
      have memberReads :
          Reads (shape.memberReader progress key) (afterKey layout.colon (layout.text level value))
            (progress.add key change) := by
        rw [memberReader, isField]
        simp only [keyIsNew]
        exact (fieldReads.map (progress.add key)).afterColon layout.isColon
      have laterNew : ∀ other ∈ Members.keys members, other ∉ (progress.add key change).seen := by
        intro other member seen
        rcases List.mem_cons.mp seen with rfl | seen
        · exact distinct.1 member
        · exact isNew.2 other member seen
      have laterGathers := ih distinct.2 (progress.add key change) laterNew
      refine .cons memberReads ?_
      simpa [pieces, Members.keys, Progress.add] using laterGathers

/-- A record is read from an object that has its required fields. -/
theorem reads_record
    (name : String)
    {members : Members}
    {changes : List (α → α)}
    (each : List.Forall₂ (shape.ReadsMember layout (level + 1)) members changes)
    (distinct : members.keys.Nodup)
    (complete : ∀ field ∈ shape.fields, field.required = true → field.key ∈ members.keys) :
    Reads (Shape.reader name (some shape)) (layout.text level (.object members))
      (changes.foldl (fun value change => change value) shape.blank) where
  starts := by
    rcases layout.text_object level members with ⟨closing, -, isText⟩
    exact ⟨'\x7b', _, isText, by decide, by decide⟩
  run {gap rest} isGap _ := by
    rcases layout.text_object level members with ⟨closing, isClosing, isText⟩
    have gathers :=
      gathers_of_readsMember each distinct ⟨[], shape.blank⟩ fun _ _ => List.not_mem_nil
    have membersRead :
        readMembers shape.memberReader true ⟨[], shape.blank⟩
          (separated (layout.gap (level + 1)) true
            ((pieces layout.colon (layout.text (level + 1)) members).map memberText) ++
              (closing ++ '\x7d' :: rest)) = _ :=
      readMembers_separated gathers true (layout.isGap (level + 1)) isClosing
    have noneMissing :
        (shape.fields.find? fun field =>
          field.required && !(members.keys.reverse ++ []).contains field.key) = none := by
      rw [List.find?_eq_none]
      intro field member
      have present := complete field member
      simpa using present
    simp only [Shape.reader, isText, List.cons_append, List.append_assoc, List.nil_append,
      skipBlank_gap isGap (by decide : isBlankChar '\x7b' = false), membersRead, finish,
      noneMissing]

end Shape

end ContractReplay.Json
