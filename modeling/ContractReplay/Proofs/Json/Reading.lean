import ContractReplay.Json.Decoder
import ContractReplay.Proofs.Json.Scalars
import ContractReplay.Proofs.Json.Values
import Mathlib.Data.List.Forall2

/-!
# Texts that are read as a value

A reader reads a text as a value when it does so with white space before the text and with
anything behind it that ends a numeral.  The items of an array and the members of an object are
read one by one when they are separated by commas, whatever white space stands before each of
them and before the closing bracket.
-/

namespace ContractReplay.Json

/-! ## White space -/

/-- White space of JSON text. -/
def IsGap (text : List Char) : Prop :=
  ∀ char ∈ text, isBlankChar char = true

variable {gap closing colon rest : List Char}

theorem isGap_nil :
    IsGap [] :=
  nofun

theorem isGap_newLine
    (level : Nat) :
    IsGap (newLine level) := by
  intro char member
  rcases List.mem_cons.mp member with rfl | member
  · rfl
  · rw [List.eq_of_mem_replicate member]
    rfl

theorem skipBlank_gap
    (isGap : IsGap gap)
    {first : Char}
    (notBlank : isBlankChar first = false)
    (later : List Char) :
    skipBlank (gap ++ first :: later) = first :: later := by
  rw [skipBlank, List.dropWhile_append_of_pos isGap]
  exact List.dropWhile_cons_of_neg (by simp [notBlank])

theorem endsNumeral_nil :
    EndsNumeral [] :=
  nofun

theorem endsNumeral_cons
    {char : Char}
    (ends : char.isDigit = false ∧ char ≠ '.' ∧ char ≠ 'e' ∧ char ≠ 'E')
    (later : List Char) :
    EndsNumeral (char :: later) := by
  rintro _ _ ⟨⟩
  exact ends

theorem EndsNumeral.gap_append
    (ends : EndsNumeral rest)
    (isGap : IsGap gap) :
    EndsNumeral (gap ++ rest) := by
  cases gap with
  | nil => exact ends
  | cons char later =>
      have isBlank := isGap char List.mem_cons_self
      simp only [isBlankChar, Bool.or_eq_true, beq_iff_eq] at isBlank
      apply endsNumeral_cons
      rcases isBlank with ((rfl | rfl) | rfl) | rfl <;> decide

/-! ## Reading a text as a value -/

section

variable {α β σ : Type} {reader : Reader α} {text : List Char} {value : α}

/-- That a reader reads a text as a value, whatever white space comes before the text. -/
structure Reads {α : Type} (reader : Reader α) (text : List Char) (value : α) : Prop where
  starts : ∃ first later, text = first :: later ∧ isBlankChar first = false ∧ first ≠ ']'
  run :
    ∀ {gap rest : List Char}, IsGap gap → EndsNumeral rest →
      reader.run (gap ++ (text ++ rest)) = .ok (value, rest)

theorem Reads.map
    (reads : Reads reader text value)
    (change : α → β) :
    Reads (reader.map change) text (change value) where
  starts := reads.starts
  run isGap ends := by
    simp only [Reader.map, reads.run isGap ends]

theorem Reads.afterColon
    (reads : Reads reader text value)
    (isColon : IsGap colon) :
    Reads reader.afterColon (':' :: (colon ++ text)) value where
  starts := ⟨':', _, rfl, by decide, by decide⟩
  run {gap rest} isGap ends := by
    have colonRead :
        readColon (gap ++ (':' :: (colon ++ text) ++ rest)) = .ok (colon ++ (text ++ rest)) := by
      rw [readColon, List.cons_append, skipBlank_gap isGap (by decide), List.append_assoc]
      rfl
    simp only [Reader.afterColon, colonRead, reads.run isColon ends]

theorem Reads.readAll
    (reads : Reads reader text value) :
    reader.readAll (String.ofList text) = .ok value := by
  have read := reads.run isGap_nil endsNumeral_nil
  rw [List.nil_append, List.append_nil] at read
  rw [Reader.readAll, String.toList_ofList, read]
  rfl

/-! ## Items and members with commas between them -/

/-- Texts with white space before each of them, and a comma before each but the first of all. -/
def separated (gap : List Char) : Bool → List (List Char) → List Char
  | _, [] => []
  | true, text :: later => gap ++ (text ++ separated gap false later)
  | false, text :: later => ',' :: (gap ++ (text ++ separated gap false later))

/-- What follows an item or a member ends a numeral. -/
theorem endsNumeral_separated
    (isClosing : IsGap closing)
    (bracket : Char)
    (isBracket : bracket = ']' ∨ bracket = '\x7d')
    (texts : List (List Char)) :
    EndsNumeral (separated gap false texts ++ (closing ++ bracket :: rest)) := by
  cases texts with
  | nil =>
      have ends : EndsNumeral (bracket :: rest) := by
        apply endsNumeral_cons
        rcases isBracket with rfl | rfl <;> decide
      exact ends.gap_append isClosing
  | cons text later => exact endsNumeral_cons (by decide) _

theorem enterItem_closing
    (first : Bool)
    (isClosing : IsGap closing) :
    enterItem first (closing ++ ']' :: rest) = .ok (.closed rest) := by
  rw [enterItem, skipBlank_gap isClosing (by decide)]
  rfl

theorem enterItem_separated
    (first : Bool)
    (isGap : IsGap gap)
    (starts : ∃ head later, text = head :: later ∧ isBlankChar head = false ∧ head ≠ ']')
    (texts : List (List Char)) :
    enterItem first (separated gap first (text :: texts) ++ rest) =
      .ok (.item (text ++ (separated gap false texts ++ rest))) := by
  rcases starts with ⟨head, later, rfl, notBlank, notClosing⟩
  cases first with
  | true =>
      rw [separated, List.append_assoc, List.append_assoc, List.cons_append, enterItem,
        skipBlank_gap isGap notBlank]
      simp [notClosing]
  | false =>
      rw [separated, List.cons_append, List.append_assoc, List.append_assoc, List.cons_append,
        enterItem, ← List.nil_append (',' :: _), skipBlank_gap isGap_nil (by decide)]
      simp only [skipBlank_gap isGap notBlank, if_true, Bool.false_eq_true, if_false]
      rw [if_neg (by decide)]
      split
      · rename_i atEnd
        cases atEnd
      · rename_i atClosing
        cases atClosing
        exact absurd rfl notClosing
      · rfl

theorem readItems_closed
    {item : Reader α}
    {first : Bool}
    (entered : enterItem first text = .ok (.closed rest)) :
    readItems item first text = .ok ([], rest) := by
  rw [readItems]
  split
  · rename_i failed
    rw [entered] at failed
    cases failed
  · rename_i closed
    rw [entered] at closed
    cases closed
    rfl
  · rename_i item
    rw [entered] at item
    cases item

theorem readItems_item
    {item : Reader α}
    {first : Bool}
    {start last : List Char}
    {value : α}
    {values : List α}
    (entered : enterItem first text = .ok (.item start))
    (itemRead : item.run start = .ok (value, rest))
    (laterRead : readItems item false rest = .ok (values, last)) :
    readItems item first text = .ok (value :: values, last) := by
  rw [readItems]
  split
  · rename_i failed
    rw [entered] at failed
    cases failed
  · rename_i closed
    rw [entered] at closed
    cases closed
  · rename_i isItem
    rw [entered] at isItem
    cases isItem
    split
    · rename_i failed
      rw [itemRead] at failed
      cases failed
    · rename_i isRead
      rw [itemRead] at isRead
      cases isRead
      rw [laterRead]

theorem readItems_separated
    {item : Reader α}
    {texts : List (List Char)}
    {values : List α}
    (each : List.Forall₂ (Reads item) texts values)
    (first : Bool)
    (isGap : IsGap gap)
    (isClosing : IsGap closing) :
    readItems item first (separated gap first texts ++ (closing ++ ']' :: rest)) =
      .ok (values, rest) := by
  induction each generalizing first with
  | nil =>
      rw [separated, List.nil_append]
      exact readItems_closed (enterItem_closing first isClosing)
  | @cons text value texts values reads _ ih =>
      have ends : EndsNumeral (separated gap false texts ++ (closing ++ ']' :: rest)) :=
        endsNumeral_separated isClosing ']' (.inl rfl) texts
      have itemRead := reads.run isGap_nil ends
      exact readItems_item (enterItem_separated first isGap reads.starts texts) itemRead (ih false)

theorem enterMember_closing
    (first : Bool)
    (isClosing : IsGap closing) :
    enterMember first (closing ++ '\x7d' :: rest) = .ok (.closed rest) := by
  rw [enterMember, skipBlank_gap isClosing (by decide)]
  rfl

theorem readKey_writeString
    (key : String)
    (rest : List Char) :
    readKey (writeString key ++ rest) = .ok (.member key rest) := by
  simp [writeString, readKey, readString_spelled]

/-- A key with what follows it. -/
def memberText (piece : String × List Char) : List Char :=
  writeString piece.1 ++ piece.2

theorem enterMember_separated
    (first : Bool)
    (isGap : IsGap gap)
    (key : String)
    (tail : List Char)
    (texts : List (List Char)) :
    enterMember first (separated gap first (memberText (key, tail) :: texts) ++ rest) =
      .ok (.member key (tail ++ (separated gap false texts ++ rest))) := by
  have keyRead :
      readKey ('"' :: (key.toList.flatMap escapeChar ++ '"' ::
        (tail ++ (separated gap false texts ++ rest)))) =
        .ok (.member key (tail ++ (separated gap false texts ++ rest))) := by
    rw [← readKey_writeString, writeString]
    simp
  have quote := skipBlank_gap isGap (by decide : isBlankChar '"' = false)
  cases first with
  | true =>
      simp only [separated, memberText, writeString, List.append_assoc, List.cons_append,
        List.nil_append, enterMember, quote]
      simpa using keyRead
  | false =>
      have comma := skipBlank_gap isGap_nil (by decide : isBlankChar ',' = false)
      simp only [List.nil_append] at comma
      simp only [separated, memberText, writeString, List.append_assoc, List.cons_append,
        List.nil_append, enterMember, comma, quote]
      simpa using keyRead

/-- That the members of an object, each a key and a text, take a state to another one by one. -/
inductive Gathers {σ : Type} (member : σ → String → Reader σ) :
    σ → List (String × List Char) → σ → Prop where
  | nil (state : σ) : Gathers member state [] state
  | cons
      {state next final : σ}
      {key : String}
      {tail : List Char}
      {later : List (String × List Char)}
      (reads : Reads (member state key) tail next)
      (gathers : Gathers member next later final) :
      Gathers member state ((key, tail) :: later) final

theorem readMembers_closed
    {member : σ → String → Reader σ}
    {first : Bool}
    (state : σ)
    (entered : enterMember first text = .ok (.closed rest)) :
    readMembers member first state text = .ok (state, rest) := by
  rw [readMembers]
  split
  · rename_i failed
    rw [entered] at failed
    cases failed
  · rename_i closed
    rw [entered] at closed
    cases closed
    rfl
  · rename_i isMember
    rw [entered] at isMember
    cases isMember

theorem readMembers_member
    {member : σ → String → Reader σ}
    {first : Bool}
    {key : String}
    {start : List Char}
    {state next : σ}
    (entered : enterMember first text = .ok (.member key start))
    (memberRead : (member state key).run start = .ok (next, rest)) :
    readMembers member first state text = readMembers member false next rest := by
  rw [readMembers]
  split
  · rename_i failed
    rw [entered] at failed
    cases failed
  · rename_i closed
    rw [entered] at closed
    cases closed
  · rename_i isMember
    rw [entered] at isMember
    cases isMember
    split
    · rename_i failed
      rw [memberRead] at failed
      cases failed
    · rename_i isRead
      rw [memberRead] at isRead
      cases isRead
      rfl

theorem readMembers_separated
    {member : σ → String → Reader σ}
    {state final : σ}
    {pieces : List (String × List Char)}
    (gathers : Gathers member state pieces final)
    (first : Bool)
    (isGap : IsGap gap)
    (isClosing : IsGap closing) :
    readMembers member first state
        (separated gap first (pieces.map memberText) ++ (closing ++ '\x7d' :: rest)) =
      .ok (final, rest) := by
  induction gathers generalizing first with
  | nil state =>
      rw [List.map_nil, separated, List.nil_append]
      exact readMembers_closed state (enterMember_closing first isClosing)
  | @cons state next final key tail later reads _ ih =>
      have ends :
          EndsNumeral
            (separated gap false (later.map memberText) ++ (closing ++ '\x7d' :: rest)) :=
        endsNumeral_separated isClosing '\x7d' (.inr rfl) _
      have memberRead := reads.run isGap_nil ends
      rw [List.map_cons,
        readMembers_member (enterMember_separated first isGap key tail _) memberRead]
      exact ih false

/-! ## Readers of values of one kind -/

theorem reads_string
    (expected text : String) :
    Reads (stringReader expected) (writeString text) text where
  starts := ⟨'"', _, rfl, by decide, by decide⟩
  run {gap rest} isGap _ := by
    simp only [stringReader, writeString, List.cons_append, List.append_assoc, List.nil_append,
      skipBlank_gap isGap (by decide : isBlankChar '"' = false), readString_spelled,
      String.ofList_toList]

/-- A value that may be absent is read as present from a text that does not start as `null` does. -/
theorem Reads.optional
    {reader : Reader α}
    {text : List Char}
    {value : α}
    (reads : Reads reader text value)
    (notNull : ∀ first later, text = first :: later → first ≠ 'n') :
    Reads (optionalReader reader) text (some value) where
  starts := reads.starts
  run {gap rest} isGap ends := by
    have valueRead := reads.run isGap_nil ends
    rcases reads.starts with ⟨first, later, rfl, notBlank, -⟩
    have start : skipBlank (gap ++ (first :: later ++ rest)) = first :: (later ++ rest) :=
      skipBlank_gap isGap notBlank _
    rw [List.nil_append, List.cons_append] at valueRead
    simp only [optionalReader, start]
    split
    · rename_i isNull
      cases isNull
      exact absurd rfl (notNull 'n' later rfl)
    · rw [valueRead]

theorem reads_list
    {item : Reader α}
    {texts : List (List Char)}
    {values : List α}
    (each : List.Forall₂ (Reads item) texts values)
    (isGap : IsGap gap)
    (isClosing : IsGap closing) :
    Reads (listReader (some item)) ('[' :: (separated gap true texts ++ (closing ++ [']'])))
      values where
  starts := ⟨'[', _, rfl, by decide, by decide⟩
  run {before rest} isBefore _ := by
    have itemsRead :
        readItems item true (separated gap true texts ++ (closing ++ ']' :: rest)) =
          .ok (values, rest) :=
      readItems_separated each true isGap isClosing
    simpa only [listReader, readArray, List.cons_append, List.append_assoc, List.nil_append,
      skipBlank_gap isBefore (by decide : isBlankChar '[' = false)] using itemsRead

theorem reads_members
    {item : Reader Json}
    {pieces : List (String × List Char)}
    {members : Members}
    (gathers : Gathers (memberReader item) [] pieces members)
    (isGap : IsGap gap)
    (isClosing : IsGap closing) :
    Reads (membersReader (some item))
      ('\x7b' :: (separated gap true (pieces.map memberText) ++ (closing ++ ['\x7d'])))
      members where
  starts := ⟨'\x7b', _, rfl, by decide, by decide⟩
  run {before rest} isBefore _ := by
    have membersRead :
        readMembers (memberReader item) true []
            (separated gap true (pieces.map memberText) ++ (closing ++ '\x7d' :: rest)) =
          .ok (members, rest) :=
      readMembers_separated gathers true isGap isClosing
    simpa only [membersReader, readObject, List.cons_append, List.append_assoc, List.nil_append,
      skipBlank_gap isBefore (by decide : isBlankChar '\x7b' = false)] using membersRead

/-- What follows a key whose value has a text. -/
def afterKey (colon text : List Char) : List Char :=
  ':' :: (colon ++ text)

/-- The members of an object with the texts of their values. -/
def pieces
    (colon : List Char)
    (textOf : Json → List Char)
    (members : Members) : List (String × List Char) :=
  members.map fun member => (member.1, afterKey colon (textOf member.2))

/-- Members with distinct keys are gathered as they are. -/
theorem gathers_members
    {item : Reader Json}
    {textOf : Json → List Char}
    {members : Members}
    (isColon : IsGap colon)
    (distinct : members.keys.Nodup)
    (each : ∀ key value, (key, value) ∈ members → Reads item (textOf value) value) :
    Gathers (memberReader item) [] (pieces colon textOf members) members := by
  have gathered :
      ∀ later : Members, (∀ key value, (key, value) ∈ later → Reads item (textOf value) value) →
        ∀ state : Members,
          Gathers (memberReader item) state (pieces colon textOf later)
            (later.foldl (fun members pair => Members.insert pair.1 pair.2 members) state) := by
    intro later
    induction later with
    | nil => exact fun _ state => .nil state
    | cons first later ih =>
        intro each state
        have firstReads := each first.1 first.2 List.mem_cons_self
        have laterGathers := ih fun key value member =>
          each key value (List.mem_cons_of_mem _ member)
        exact .cons ((firstReads.map _).afterColon isColon) (laterGathers _)
  have fromEmpty := gathered members each []
  rwa [← Members.ofList, Members.ofList_of_nodup distinct] at fromEmpty

/-! ## Readers of any value -/

theorem reader_eq_valueReader
    (levels : Nat) :
    Json.reader levels = valueReader (innerReader levels) := by
  cases levels <;> rfl

theorem Reads.array
    {inner : Option (Reader Json)}
    {later : List Char}
    {items : List Json}
    (reads : Reads (listReader inner) ('[' :: later) items) :
    Reads (valueReader inner) ('[' :: later) (.array items) where
  starts := reads.starts
  run {gap rest} isGap ends := by
    have itemsRead := reads.run isGap ends
    have start : skipBlank (gap ++ ('[' :: later ++ rest)) = '[' :: (later ++ rest) :=
      skipBlank_gap isGap (by decide) _
    simp only [listReader, start] at itemsRead
    simp only [valueReader, start, itemsRead]

theorem Reads.object
    {inner : Option (Reader Json)}
    {later : List Char}
    {members : Members}
    (reads : Reads (membersReader inner) ('\x7b' :: later) members) :
    Reads (valueReader inner) ('\x7b' :: later) (.object members) where
  starts := reads.starts
  run {gap rest} isGap ends := by
    have membersRead := reads.run isGap ends
    have start : skipBlank (gap ++ ('\x7b' :: later ++ rest)) = '\x7b' :: (later ++ rest) :=
      skipBlank_gap isGap (by decide) _
    simp only [membersReader, start] at membersRead
    simp only [valueReader, start, membersRead]

theorem Reads.scalar
    {inner : Option (Reader Json)}
    {first : Char}
    {later : List Char}
    {value : Json}
    (notBlank : isBlankChar first = false)
    (notBracket : first ≠ ']' ∧ first ≠ '[' ∧ first ≠ '\x7b')
    (read :
      ∀ {rest}, EndsNumeral rest → readScalar (first :: later ++ rest) = .ok (value, rest)) :
    Reads (valueReader inner) (first :: later) value where
  starts := ⟨first, later, rfl, notBlank, notBracket.1⟩
  run {gap rest} isGap ends := by
    have start : skipBlank (gap ++ (first :: later ++ rest)) = first :: later ++ rest :=
      skipBlank_gap isGap notBlank _
    have scalarRead := read ends
    rw [List.cons_append] at start scalarRead
    simp only [valueReader, List.cons_append, start]
    split
    · rename_i isList
      cases isList
      exact absurd rfl notBracket.2.1
    · rename_i isObject
      cases isObject
      exact absurd rfl notBracket.2.2
    · rw [scalarRead]

end

end ContractReplay.Json
