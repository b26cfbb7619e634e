import ContractReplay.Proofs.Naming.SnakeCase

/-!
# Words that keep their boundaries

An identifier in snake case is made of words with an underscore between two of them.  Pascal case
raises the first letter of every word in place of the underscores, and camel case that of every
word but the first.  The way back to snake case looks for capitals that follow a small letter
directly.  So it finds the start of a word exactly where the word before it ends in a small
letter: a digit at the end of a word loses the boundary, and so does a single letter that was
raised.
-/

namespace ContractReplay.Naming

open Text

/-! ## Words -/

/-- The characters of words: ASCII small letters and digits. -/
def InWord (char : Char) : Prop :=
  char.isLower = true ∨ char.isDigit = true

/-- Words of an identifier: an ASCII small letter, then ASCII small letters and digits. -/
def IsWord : List Char → Prop
  | [] => False
  | first :: later => first.isLower = true ∧ ∀ char ∈ later, InWord char

/-- That the last character of a word is a letter. -/
def EndsInLetter (word : List Char) : Prop :=
  word.getLast?.any Char.isLower = true

/-- That a word whose first letter is raised still ends in a small letter. -/
def KeepsBoundary (word : List Char) : Prop :=
  2 ≤ word.length ∧ EndsInLetter word

/-- A word with its first letter raised. -/
def capitalized : List Char → List Char
  | [] => []
  | first :: later => first.toUpper :: later

instance (char : Char) : Decidable (InWord char) :=
  inferInstanceAs (Decidable (char.isLower = true ∨ char.isDigit = true))

instance : ∀ word, Decidable (IsWord word)
  | [] => inferInstanceAs (Decidable False)
  | first :: later =>
    have := List.decidableBAll InWord later
    inferInstanceAs (Decidable (first.isLower = true ∧ ∀ char ∈ later, InWord char))

instance (word : List Char) : Decidable (EndsInLetter word) :=
  inferInstanceAs (Decidable (word.getLast?.any Char.isLower = true))

/-! ## Small letters -/

section

variable {letter char : Char}

/-- What holds of the small letters among the first 128 characters holds of every small letter. -/
theorem of_forall_small
    (holds : Char → Prop)
    (each : ∀ code < 128, (Char.ofNat code).isLower = true → holds (Char.ofNat code))
    (small : letter.isLower = true) :
    holds letter := by
  have atMostZ : letter.toNat ≤ 'z'.toNat := of_decide_eq_true (Bool.and_eq_true_iff.mp small).2
  have ascii : letter.toNat < 128 := Nat.lt_of_le_of_lt atMostZ (by decide)
  exact of_forall_ascii (fun char => char.isLower = true → holds char) each ascii small

theorem isAlphabetic_of_small
    (small : letter.isLower = true) :
    isAlphabetic letter = true :=
  of_forall_small (fun letter => isAlphabetic letter = true) (by decide +kernel) small

theorem upperChar_of_small
    (small : letter.isLower = true) :
    upperChar letter = [letter.toUpper] :=
  of_forall_small (fun letter => upperChar letter = [letter.toUpper]) (by decide +kernel) small

/-- That a character is a capital, and of which letter. -/
structure IsCapitalOf (letter capital : Char) : Prop where
  isUpper : capital.isUpper = true
  notLower : capital.isLower = false
  lowered : lowerChar capital = [letter]

instance (letter capital : Char) : Decidable (IsCapitalOf letter capital) :=
  decidable_of_iff
    (capital.isUpper = true ∧ capital.isLower = false ∧ lowerChar capital = [letter])
    ⟨fun holds => ⟨holds.1, holds.2.1, holds.2.2⟩,
      fun capital => ⟨capital.isUpper, capital.notLower, capital.lowered⟩⟩

/-- A small letter is raised to its capital. -/
theorem isCapitalOf_toUpper
    (small : letter.isLower = true) :
    IsCapitalOf letter letter.toUpper :=
  of_forall_small (fun letter => IsCapitalOf letter letter.toUpper) (by decide +kernel) small

theorem InWord.ascii
    (inWord : InWord char) :
    char.toNat < 128 := by
  rcases inWord with small | digit
  · exact of_forall_small (fun letter => letter.toNat < 128) (by decide +kernel) small
  · have atMost9 : char.toNat ≤ '9'.toNat := of_decide_eq_true (Bool.and_eq_true_iff.mp digit).2
    exact Nat.lt_of_le_of_lt atMost9 (by decide)

theorem InWord.lowerChar_eq
    (inWord : InWord char) :
    lowerChar char = [char] :=
  of_forall_ascii (fun char => InWord char → lowerChar char = [char])
    (by decide +kernel) inWord.ascii inWord

theorem InWord.ne_underscore
    (inWord : InWord char) :
    char ≠ '_' :=
  of_forall_ascii (fun char => InWord char → char ≠ '_') (by decide +kernel) inWord.ascii inWord

end

/-! ## Words in Pascal case -/

section

variable {word : List Char}

theorem IsWord.inWord
    (isWord : IsWord word) :
    ∀ char ∈ word, InWord char := by
  cases word with
  | nil => cases isWord
  | cons first later => exact List.forall_mem_cons.mpr ⟨.inl isWord.1, isWord.2⟩

theorem pascalChars_false_append
    {chars : List Char}
    (inWord : ∀ char ∈ chars, InWord char)
    (rest : List Char) :
    pascalChars false (chars ++ rest) = chars ++ pascalChars false rest := by
  induction chars with
  | nil => rfl
  | cons first later ih =>
      rw [List.forall_mem_cons] at inWord
      have noUnderscore := inWord.1.ne_underscore
      rw [List.cons_append, pascalChars, ih inWord.2]
      simp [noUnderscore]

/-- A word that is to be raised comes out with its first letter raised. -/
theorem pascalChars_word_append
    (isWord : IsWord word)
    (rest : List Char) :
    pascalChars true (word ++ rest) = capitalized word ++ pascalChars false rest := by
  cases word with
  | nil => cases isWord
  | cons first later =>
      have noUnderscore := InWord.ne_underscore (.inl isWord.1)
      rw [List.cons_append, pascalChars, pascalChars_false_append isWord.2,
        upperChar_of_small isWord.1]
      simp [noUnderscore, capitalized]

/-- The underscore before a word is taken for the start of the word. -/
theorem pascalChars_underscore_append
    (isWord : IsWord word)
    (rest : List Char) :
    pascalChars false ('_' :: (word ++ rest)) = pascalChars true (word ++ rest) := by
  cases word with
  | nil => cases isWord
  | cons first later =>
      rw [List.cons_append, pascalChars]
      simp [startsAlphabetic, isAlphabetic_of_small isWord.1]

/-- Words that follow an underscore each come out one after the other, all of them raised. -/
theorem pascalChars_later
    {words : List (List Char)}
    (areWords : ∀ word ∈ words, IsWord word) :
    pascalChars false (words.flatMap ('_' :: ·)) = words.flatMap capitalized := by
  induction words with
  | nil => rfl
  | cons first later ih =>
      rw [List.forall_mem_cons] at areWords
      rw [List.flatMap_cons, List.flatMap_cons, List.cons_append,
        pascalChars_underscore_append areWords.1, pascalChars_word_append areWords.1,
        ih areWords.2]

theorem pascalChars_words
    {first : List Char}
    {later : List (List Char)}
    (isWord : IsWord first)
    (areWords : ∀ word ∈ later, IsWord word) :
    pascalChars true (first ++ later.flatMap ('_' :: ·)) =
      capitalized first ++ later.flatMap capitalized := by
  rw [pascalChars_word_append isWord, pascalChars_later areWords]

end

/-! ## The way back -/

/-- Whether the characters so far end in a small letter, where nothing is known of an empty text. -/
def endsSmall (before : Bool) (chars : List Char) : Bool :=
  (chars.getLast?.map Char.isLower).getD before

/-- What comes later is converted by what the characters before it end in. -/
theorem snakeChars_append
    (before : Bool)
    (chars rest : List Char) :
    snakeChars before (chars ++ rest) =
      snakeChars before chars ++ snakeChars (endsSmall before chars) rest := by
  induction chars generalizing before with
  | nil => rfl
  | cons first later ih =>
      have sameEnd : endsSmall before (first :: later) = endsSmall first.isLower later := by
        cases later <;> simp [endsSmall, List.getLast?_cons]
      rw [List.cons_append, snakeChars, snakeChars, ih, sameEnd]
      simp only [List.append_assoc]

section

variable {word : List Char}

theorem snakeChars_word
    (isWord : IsWord word) :
    snakeChars false word = word :=
  snakeChars_of_lowered
    (fun char member => (isWord.inWord char member).lowerChar_eq) false

/-- A raised word comes back as the word, with an underscore where a small letter is before it. -/
theorem snakeChars_capitalized
    (isWord : IsWord word)
    (before : Bool) :
    snakeChars before (capitalized word) = (if before then ['_'] else []) ++ word := by
  cases word with
  | nil => cases isWord
  | cons first later =>
      have sameLater : ∀ small, snakeChars small later = later :=
        snakeChars_of_lowered fun char member => (isWord.2 char member).lowerChar_eq
      have capital := isCapitalOf_toUpper isWord.1
      rw [capitalized, snakeChars, capital.isUpper, capital.lowered, sameLater, Bool.and_true]
      rfl

theorem endsSmall_word
    (isWord : IsWord word) :
    endsSmall false word = true ↔ EndsInLetter word := by
  cases word with
  | nil => cases isWord
  | cons first later => simp [endsSmall, EndsInLetter, List.getLast?_cons]

theorem endsSmall_capitalized
    (isWord : IsWord word)
    (before : Bool) :
    endsSmall before (capitalized word) = true ↔ KeepsBoundary word := by
  cases word with
  | nil => cases isWord
  | cons first later =>
      cases later with
      | nil => simp [endsSmall, capitalized, KeepsBoundary, (isCapitalOf_toUpper isWord.1).notLower]
      | cons second rest =>
          simp [endsSmall, capitalized, KeepsBoundary, EndsInLetter, List.getLast?_cons]

end

/-- All items but the last: none where there is one item, and otherwise the first one and others. -/
theorem forall_mem_dropLast_cons
    {α : Type}
    {property : α → Prop}
    {first : α}
    {later : List α} :
    (∀ item ∈ (first :: later).dropLast, property item) ↔
      later = [] ∨ property first ∧ ∀ item ∈ later.dropLast, property item := by
  cases later with
  | nil => simp
  | cons second rest => simp

/--
Raised words come back with an underscore before each of them exactly when a small letter is
before the first one and every word but the last keeps its boundary.
-/
theorem snakeChars_capitalized_words_iff
    {words : List (List Char)}
    (areWords : ∀ word ∈ words, IsWord word)
    (before : Bool) :
    snakeChars before (words.flatMap capitalized) = words.flatMap ('_' :: ·) ↔
      words = [] ∨ before = true ∧ ∀ word ∈ words.dropLast, KeepsBoundary word := by
  induction words generalizing before with
  | nil => exact iff_of_true rfl (.inl rfl)
  | cons first later ih =>
      rw [List.forall_mem_cons] at areWords
      rw [List.flatMap_cons, List.flatMap_cons, snakeChars_append,
        snakeChars_capitalized areWords.1]
      cases before with
      | false =>
          -- The first letter of the word stands where the underscore should be.
          refine iff_of_false ?_ (by simp)
          cases first with
          | nil => exact fun _ => areWords.1
          | cons letter rest =>
              have noUnderscore := InWord.ne_underscore (.inl areWords.1.1)
              intro same
              exact noUnderscore (List.cons.inj same).1
      | true =>
          have cancelled :
              (if true then ['_'] else []) ++ first ++
                    snakeChars (endsSmall true (capitalized first)) (later.flatMap capitalized) =
                  '_' :: first ++ later.flatMap ('_' :: ·) ↔
                snakeChars (endsSmall true (capitalized first)) (later.flatMap capitalized) =
                  later.flatMap ('_' :: ·) :=
            List.append_right_inj ('_' :: first)
          rw [cancelled, ih areWords.2, endsSmall_capitalized areWords.1, forall_mem_dropLast_cons]
          simp

/--
Raised words after a start that comes back as a word come back as the identifier exactly when the
start ends in a small letter and every word but the last keeps its boundary.
-/
theorem snakeChars_start_append_iff
    {start first : List Char}
    {later : List (List Char)}
    (converted : snakeChars false start = first)
    (areWords : ∀ word ∈ later, IsWord word) :
    snakeChars false (start ++ later.flatMap capitalized) = first ++ later.flatMap ('_' :: ·) ↔
      later = [] ∨ endsSmall false start = true ∧ ∀ word ∈ later.dropLast, KeepsBoundary word := by
  rw [snakeChars_append, converted, List.append_right_inj]
  exact snakeChars_capitalized_words_iff areWords _

/-! ## Identifiers -/

/-- An identifier is its first word and then each other word after an underscore. -/
theorem intercalate_underscore_cons
    (first : List Char)
    (later : List (List Char)) :
    ['_'].intercalate (first :: later) = first ++ later.flatMap ('_' :: ·) := by
  induction later generalizing first with
  | nil => simp
  | cons second rest ih =>
      rw [List.intercalate_cons_cons, ih, List.flatMap_cons, List.append_assoc]
      rfl

section

variable {words : List String}

/-- The identifier that is made of some words. -/
def identifier (words : List String) : String :=
  "_".intercalate words

theorem toList_identifier_cons
    (first : String)
    (later : List String) :
    (identifier (first :: later)).toList =
      first.toList ++ (later.map String.toList).flatMap ('_' :: ·) := by
  rw [identifier, String.toList_intercalate, List.map_cons]
  exact intercalate_underscore_cons _ _

theorem toList_pascalCase_identifier
    {first : String}
    {later : List String}
    (areWords : ∀ word ∈ first :: later, IsWord word.toList) :
    (pascalCase (identifier (first :: later))).toList =
      capitalized first.toList ++ (later.map String.toList).flatMap capitalized := by
  rw [List.forall_mem_cons] at areWords
  rw [pascalCase, String.toList_ofList, toList_identifier_cons]
  exact pascalChars_words areWords.1 (List.forall_mem_map.mpr areWords.2)

/-- Camel case lowers the first word again. -/
theorem toList_camelCase_identifier
    {first : String}
    {later : List String}
    (areWords : ∀ word ∈ first :: later, IsWord word.toList) :
    (camelCase (identifier (first :: later))).toList =
      first.toList ++ (later.map String.toList).flatMap capitalized := by
  have isWord := areWords first List.mem_cons_self
  have raised := toList_pascalCase_identifier areWords
  rw [pascalCase, String.toList_ofList] at raised
  rw [camelCase, raised]
  cases chars : first.toList with
  | nil =>
      rw [chars] at isWord
      cases isWord
  | cons letter rest =>
      rw [chars] at isWord
      rw [capitalized, List.cons_append]
      simp only [(isCapitalOf_toUpper isWord.1).lowered, String.toList_ofList]
      rfl

theorem snakeCase_eq_iff
    {name converted : String} :
    snakeCase name = converted ↔ snakeChars false name.toList = converted.toList := by
  rw [← String.toList_inj, snakeCase, String.toList_ofList]

theorem snakeCase_pascalCase_identifier_iff
    (areWords : ∀ word ∈ words, IsWord word.toList) :
    snakeCase (pascalCase (identifier words)) = identifier words ↔
      ∀ word ∈ words.dropLast, KeepsBoundary word.toList := by
  cases words with
  | nil => exact iff_of_true rfl (by simp)
  | cons first later =>
      have isWord := areWords first List.mem_cons_self
      have laterWords : ∀ word ∈ later.map String.toList, IsWord word :=
        List.forall_mem_map.mpr (List.forall_mem_cons.mp areWords).2
      have converted : snakeChars false (capitalized first.toList) = first.toList :=
        snakeChars_capitalized isWord false
      rw [snakeCase_eq_iff, toList_pascalCase_identifier areWords, toList_identifier_cons,
        snakeChars_start_append_iff converted laterWords, endsSmall_capitalized isWord,
        forall_mem_dropLast_cons, List.map_eq_nil_iff, ← List.map_dropLast, List.forall_mem_map]

theorem snakeCase_camelCase_identifier_iff
    (areWords : ∀ word ∈ words, IsWord word.toList) :
    snakeCase (camelCase (identifier words)) = identifier words ↔
      (∀ word ∈ words.dropLast, EndsInLetter word.toList) ∧
        ∀ word ∈ words.tail.dropLast, 2 ≤ word.toList.length := by
  cases words with
  | nil => exact iff_of_true rfl (by simp)
  | cons first later =>
      have isWord := areWords first List.mem_cons_self
      have laterWords : ∀ word ∈ later.map String.toList, IsWord word :=
        List.forall_mem_map.mpr (List.forall_mem_cons.mp areWords).2
      rw [snakeCase_eq_iff, toList_camelCase_identifier areWords, toList_identifier_cons,
        snakeChars_start_append_iff (snakeChars_word isWord) laterWords, endsSmall_word isWord,
        forall_mem_dropLast_cons, List.map_eq_nil_iff, ← List.map_dropLast, List.forall_mem_map,
        List.tail_cons]
      simp only [KeepsBoundary]
      constructor
      · rintro (rfl | ⟨firstEnds, each⟩)
        · simp
        · exact
            ⟨.inr ⟨firstEnds, fun word member => (each word member).2⟩,
              fun word member => (each word member).1⟩
      · rintro ⟨rfl | ⟨firstEnds, eachEnds⟩, eachLong⟩
        · exact .inl rfl
        · exact
            .inr ⟨firstEnds, fun word member => ⟨eachLong word member, eachEnds word member⟩⟩

end

/--
The case conversions are inverse exactly where words keep a boundary.  An identifier comes back
from Pascal case if and only if every word but the last has at least two characters and ends in a
letter.  It comes back from camel case if and only if every word but the last ends in a letter and
every word strictly between the first and the last has at least two characters.
-/
theorem case_conversions_inverse_iff
    (words : List String)
    (areWords : ∀ word ∈ words, IsWord word.toList) :
    (snakeCase (pascalCase (identifier words)) = identifier words ↔
        ∀ word ∈ words.dropLast, 2 ≤ word.toList.length ∧ EndsInLetter word.toList) ∧
      (snakeCase (camelCase (identifier words)) = identifier words ↔
        (∀ word ∈ words.dropLast, EndsInLetter word.toList) ∧
          ∀ word ∈ words.tail.dropLast, 2 ≤ word.toList.length) :=
  ⟨snakeCase_pascalCase_identifier_iff areWords, snakeCase_camelCase_identifier_iff areWords⟩

/-- A single letter comes first: its boundary is lost in Pascal case and kept in camel case. -/
theorem case_conversions_inverse_iff_eTagV2 :
    snakeCase (pascalCase (identifier ["e", "tag", "v2"])) ≠ identifier ["e", "tag", "v2"] ∧
      snakeCase (camelCase (identifier ["e", "tag", "v2"])) = identifier ["e", "tag", "v2"] := by
  have areWords : ∀ word ∈ ["e", "tag", "v2"], IsWord word.toList := by
    decide +kernel
  have inverse := case_conversions_inverse_iff ["e", "tag", "v2"] areWords
  refine ⟨?_, inverse.2.mpr (by decide +kernel)⟩
  rw [Ne, inverse.1]
  decide +kernel

end ContractReplay.Naming
