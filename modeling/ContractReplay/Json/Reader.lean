import ContractReplay.Json.Numeral
import ContractReplay.Json.StringReader

/-!
# Reading JSON text

A reader takes a value from the front of a text and leaves a shorter rest.  The
text is read once from left to right, so the first error in reading order is the
one reported, be it of the text or of the shape of what it holds.  Arrays and
objects may be nested up to a depth; the reader of the items of an array is the
reader for one level less.
-/

namespace ContractReplay.Json

/-- A reader of values from the front of a text; whatever it reads takes at least one character. -/
structure Reader (α : Type) where
  run : List Char → Except ReadError (α × List Char)
  progress :
    ∀ {text rest : List Char} {value : α},
      run text = .ok (value, rest) → rest.length < text.length

/-! ## White space and punctuation -/

/-- White space of JSON text. -/
def isBlankChar (char : Char) : Bool :=
  char == ' ' || char == '\t' || char == '\n' || char == '\r'

/-- A text without the white space at its front. -/
def skipBlank (text : List Char) : List Char :=
  text.dropWhile isBlankChar

theorem skipBlank_length_le
    (text : List Char) :
    (skipBlank text).length ≤ text.length :=
  (List.dropWhile_sublist isBlankChar).length_le

theorem skipBlank_cons_shorter
    {text rest : List Char}
    {char : Char}
    (skipped : skipBlank text = char :: rest) :
    rest.length < text.length := by
  have bound := skipBlank_length_le text
  rw [skipped, List.length_cons] at bound
  omega

/-- The text after the colon that must come next. -/
def readColon (text : List Char) : Except SyntaxError (List Char) :=
  match skipBlank text with
  | [] => .error .endInObject
  | ':' :: rest => .ok rest
  | _ => .error .expectedColon

theorem readColon_shorter
    {text rest : List Char}
    (read : readColon text = .ok rest) :
    rest.length < text.length := by
  have bound := skipBlank_length_le text
  unfold readColon at read
  split at read
  · cases read
  · rename_i equation
    cases read
    rw [equation, List.length_cons] at bound
    omega
  · cases read

/-! ## Scalars -/

/-- The text after the letters that must come next. -/
def readLetters : List Char → List Char → Except SyntaxError (List Char)
  | [], text => .ok text
  | _ :: _, [] => .error .endInValue
  | letter :: letters, char :: text =>
    if char = letter then readLetters letters text else .error .expectedLiteral

theorem readLetters_length_le
    {letters text rest : List Char}
    (read : readLetters letters text = .ok rest) :
    rest.length ≤ text.length := by
  fun_induction readLetters letters text with
  | case1 =>
    cases read
    exact Nat.le_refl _
  | case3 letter letters text ih =>
    have bound := ih read
    simp only [List.length_cons]
    omega
  | _ => cases read

/-- The literal value whose letters after the first must come next. -/
def readLiteral
    (value : Json)
    (letters text : List Char) : Except SyntaxError (Json × List Char) :=
  match readLetters letters text with
  | .ok rest => .ok (value, rest)
  | .error failure => .error failure

/-- The number whose sign was just read. -/
def readNumber
    (negative : Bool)
    (text : List Char) : Except SyntaxError (Number × List Char) :=
  match lexNumeral .endInValue negative text with
  | .error failure => .error failure
  | .ok (numeral, rest) =>
    match numeral.number? with
    | some value => .ok (value, rest)
    | none => .error .numberOutOfRange

/-- The value at the very front of a text, if it is neither an array nor an object. -/
def readScalar : List Char → Except SyntaxError (Json × List Char)
  | [] => .error .endInValue
  | char :: later =>
    if char = 'n' then readLiteral .null ['u', 'l', 'l'] later
    else if char = 't' then readLiteral (.bool true) ['r', 'u', 'e'] later
    else if char = 'f' then readLiteral (.bool false) ['a', 'l', 's', 'e'] later
    else if char = '"' then
      match readString true later with
      | .ok (chars, rest) => .ok (.string (String.ofList chars), rest)
      | .error failure => .error failure
    else if char = '-' then
      match readNumber true later with
      | .ok (value, rest) => .ok (.number value, rest)
      | .error failure => .error failure
    else if char.isDigit then
      match readNumber false (char :: later) with
      | .ok (value, rest) => .ok (.number value, rest)
      | .error failure => .error failure
    else .error .expectedValue

theorem readLiteral_length_le
    {value found : Json}
    {letters text rest : List Char}
    (read : readLiteral value letters text = .ok (found, rest)) :
    rest.length ≤ text.length := by
  unfold readLiteral at read
  split at read
  · rename_i lettersRead
    cases read
    exact readLetters_length_le lettersRead
  · cases read

theorem readNumber_shorter
    {negative : Bool}
    {text rest : List Char}
    {value : Number}
    (read : readNumber negative text = .ok (value, rest)) :
    rest.length < text.length := by
  unfold readNumber at read
  split at read
  · cases read
  · rename_i lexed
    split at read
    · cases read
      exact lexNumeral_shorter lexed
    · cases read

/-- A scalar takes at least one character. -/
theorem readScalar_shorter
    {text rest : List Char}
    {value : Json}
    (read : readScalar text = .ok (value, rest)) :
    rest.length < text.length := by
  unfold readScalar at read
  split at read
  · cases read
  · simp only [List.length_cons]
    split at read
    · have bound := readLiteral_length_le read
      omega
    split at read
    · have bound := readLiteral_length_le read
      omega
    split at read
    · have bound := readLiteral_length_le read
      omega
    split at read
    · split at read
      · rename_i stringRead
        cases read
        have shorter := readString_shorter stringRead
        omega
      · cases read
    split at read
    · split at read
      · rename_i numberRead
        cases read
        have shorter := readNumber_shorter numberRead
        omega
      · cases read
    split at read
    · split at read
      · rename_i numberRead
        cases read
        have shorter := readNumber_shorter numberRead
        simp only [List.length_cons] at shorter
        omega
      · cases read
    · cases read

/-! ## Arrays -/

/-- What comes next in an array: its closing bracket, or an item. -/
inductive ItemEntry where
  | closed (rest : List Char)
  | item (start : List Char)

/-- The step to the next item of an array; `first` says that no item was read yet. -/
def enterItem (first : Bool) (text : List Char) : Except SyntaxError ItemEntry :=
  match skipBlank text with
  | [] => .error .endInList
  | char :: rest =>
    if char = ']' then .ok (.closed rest)
    else if first then .ok (.item (char :: rest))
    else if char = ',' then
      match skipBlank rest with
      | [] => .error .endInValue
      | ']' :: _ => .error .trailingComma
      | start => .ok (.item start)
    else .error .expectedListCommaOrEnd

theorem enterItem_closed_shorter
    {first : Bool}
    {text rest : List Char}
    (entered : enterItem first text = .ok (.closed rest)) :
    rest.length < text.length := by
  have bound := skipBlank_length_le text
  unfold enterItem at entered
  split at entered
  · cases entered
  · rename_i equation
    rw [equation, List.length_cons] at bound
    repeat' split at entered
    all_goals cases entered
    omega

theorem enterItem_item_length_le
    {first : Bool}
    {text start : List Char}
    (entered : enterItem first text = .ok (.item start)) :
    start.length ≤ text.length := by
  have bound := skipBlank_length_le text
  unfold enterItem at entered
  split at entered
  · cases entered
  · rename_i char rest equation
    rw [equation, List.length_cons] at bound
    have further := skipBlank_length_le rest
    split at entered
    · cases entered
    split at entered
    · cases entered
      simp only [List.length_cons]
      omega
    split at entered
    · split at entered
      · cases entered
      · cases entered
      · cases entered
        omega
    · cases entered

/-- The items of an array up to its closing bracket. -/
def readItems
    {α : Type}
    (item : Reader α)
    (first : Bool)
    (text : List Char) : Except ReadError (List α × List Char) :=
  match _ : enterItem first text with
  | .error failure => .error (.malformed failure)
  | .ok (.closed rest) => .ok ([], rest)
  | .ok (.item start) =>
    match _ : item.run start with
    | .error failure => .error failure
    | .ok (value, rest) =>
      match readItems item false rest with
      | .error failure => .error failure
      | .ok (values, last) => .ok (value :: values, last)
termination_by text.length
decreasing_by
  have bound := enterItem_item_length_le ‹enterItem first text = _›
  have shorter := item.progress ‹item.run start = _›
  omega

/-- The items of an array take at least the closing bracket. -/
theorem readItems_shorter
    {α : Type}
    {item : Reader α}
    {first : Bool}
    {text rest : List Char}
    {values : List α}
    (read : readItems item first text = .ok (values, rest)) :
    rest.length < text.length := by
  fun_induction readItems item first text generalizing values with
  | case2 _ _ _ entered =>
    cases read
    exact enterItem_closed_shorter entered
  | case5 _ _ _ entered _ _ itemRead _ _ laterRead ih =>
    cases read
    have bound := enterItem_item_length_le entered
    have shorter := item.progress itemRead
    have further := ih laterRead
    omega
  | _ => cases read

/-! ## Objects -/

/-- What comes next in an object: its closing brace, or a key. -/
inductive MemberEntry where
  | closed (rest : List Char)
  | member (key : String) (rest : List Char)

/-- The key that must come next. -/
def readKey : List Char → Except SyntaxError MemberEntry
  | '"' :: later =>
    match readString true later with
    | .ok (chars, rest) => .ok (.member (String.ofList chars) rest)
    | .error failure => .error failure
  | _ => .error .keyNotString

/-- The step to the next key of an object; `first` says that no member was read yet. -/
def enterMember (first : Bool) (text : List Char) : Except SyntaxError MemberEntry :=
  match skipBlank text with
  | [] => .error .endInObject
  | char :: rest =>
    if char = '\x7d' then .ok (.closed rest)
    else if first then readKey (char :: rest)
    else if char = ',' then
      match skipBlank rest with
      | [] => .error .endInValue
      | '\x7d' :: _ => .error .trailingComma
      | start => readKey start
    else .error .expectedObjectCommaOrEnd

theorem readKey_shorter
    {text rest : List Char}
    {key : String}
    (read : readKey text = .ok (.member key rest)) :
    rest.length < text.length := by
  unfold readKey at read
  split at read
  · split at read
    · rename_i stringRead
      cases read
      have shorter := readString_shorter stringRead
      simp only [List.length_cons]
      omega
    · cases read
  · cases read

theorem readKey_ne_closed
    {text rest : List Char} :
    readKey text ≠ .ok (.closed rest) := by
  unfold readKey
  split
  · split <;> nofun
  · nofun

theorem enterMember_closed_shorter
    {first : Bool}
    {text rest : List Char}
    (entered : enterMember first text = .ok (.closed rest)) :
    rest.length < text.length := by
  have bound := skipBlank_length_le text
  unfold enterMember at entered
  split at entered
  · cases entered
  · rename_i equation
    rw [equation, List.length_cons] at bound
    split at entered
    · cases entered
      omega
    split at entered
    · exact absurd entered readKey_ne_closed
    split at entered
    · split at entered
      · cases entered
      · cases entered
      · exact absurd entered readKey_ne_closed
    · cases entered

theorem enterMember_member_shorter
    {first : Bool}
    {text rest : List Char}
    {key : String}
    (entered : enterMember first text = .ok (.member key rest)) :
    rest.length < text.length := by
  have bound := skipBlank_length_le text
  unfold enterMember at entered
  split at entered
  · cases entered
  · rename_i char later equation
    rw [equation, List.length_cons] at bound
    have further := skipBlank_length_le later
    split at entered
    · cases entered
    split at entered
    · have shorter := readKey_shorter entered
      simp only [List.length_cons] at shorter
      omega
    split at entered
    · split at entered
      · cases entered
      · cases entered
      · have shorter := readKey_shorter entered
        omega
    · cases entered

/--
The members of an object up to its closing brace, gathered into a state;
`member` reads what follows a key and takes the state further.
-/
def readMembers
    {σ : Type}
    (member : σ → String → Reader σ)
    (first : Bool)
    (state : σ)
    (text : List Char) : Except ReadError (σ × List Char) :=
  match _ : enterMember first text with
  | .error failure => .error (.malformed failure)
  | .ok (.closed rest) => .ok (state, rest)
  | .ok (.member key start) =>
    match _ : (member state key).run start with
    | .error failure => .error failure
    | .ok (next, rest) => readMembers member false next rest
termination_by text.length
decreasing_by
  have bound := enterMember_member_shorter ‹enterMember first text = _›
  have shorter := (member state key).progress ‹(member state key).run start = _›
  omega

/-- The members of an object take at least the closing brace. -/
theorem readMembers_shorter
    {σ : Type}
    {member : σ → String → Reader σ}
    {first : Bool}
    {state final : σ}
    {text rest : List Char}
    (read : readMembers member first state text = .ok (final, rest)) :
    rest.length < text.length := by
  fun_induction readMembers member first state text with
  | case2 _ _ _ _ entered =>
    cases read
    exact enterMember_closed_shorter entered
  | case4 _ _ _ _ _ entered _ _ memberRead ih =>
    have bound := enterMember_member_shorter entered
    have shorter := Reader.progress _ memberRead
    have further := ih read
    omega
  | _ => cases read

/-! ## Readers -/

/-- A reader that always fails. -/
def Reader.fail
    {α : Type}
    (failure : ReadError) : Reader α where
  run := fun _ => .error failure
  progress := by nofun

/-- A reader whose value is changed by a function. -/
def Reader.map
    {α β : Type}
    (change : α → β)
    (reader : Reader α) : Reader β where
  run := fun text =>
    match reader.run text with
    | .ok (value, rest) => .ok (change value, rest)
    | .error failure => .error failure
  progress := by
    intro text rest value read
    split at read
    · rename_i inner
      cases read
      exact reader.progress inner
    · cases read

/-- A reader of what follows a key: a colon, and then what the given reader reads. -/
def Reader.afterColon
    {α : Type}
    (reader : Reader α) : Reader α where
  run := fun text =>
    match readColon text with
    | .ok rest => reader.run rest
    | .error failure => .error (.malformed failure)
  progress := by
    intro text rest value read
    split at read
    · rename_i colonRead
      have first := readColon_shorter colonRead
      have second := reader.progress read
      omega
    · cases read

/-- The items of an array after its opening bracket, if a level of nesting is left. -/
def readArray
    {α : Type}
    (inner : Option (Reader α))
    (text : List Char) : Except ReadError (List α × List Char) :=
  match inner with
  | none => .error (.malformed .tooDeep)
  | some item => readItems item true text

/-- The reader of what follows a key, which puts the value under the key. -/
def memberReader
    (item : Reader Json)
    (members : Members)
    (key : String) : Reader Members :=
  (item.map fun value => Members.insert key value members).afterColon

/-- The members of an object after its opening brace, if a level of nesting is left. -/
def readObject
    (inner : Option (Reader Json))
    (text : List Char) : Except ReadError (Members × List Char) :=
  match inner with
  | none => .error (.malformed .tooDeep)
  | some item => readMembers (memberReader item) true [] text

theorem readArray_shorter
    {α : Type}
    {inner : Option (Reader α)}
    {text rest : List Char}
    {items : List α}
    (read : readArray inner text = .ok (items, rest)) :
    rest.length < text.length := by
  unfold readArray at read
  split at read
  · cases read
  · exact readItems_shorter read

theorem readObject_shorter
    {inner : Option (Reader Json)}
    {text rest : List Char}
    {members : Members}
    (read : readObject inner text = .ok (members, rest)) :
    rest.length < text.length := by
  unfold readObject at read
  split at read
  · cases read
  · exact readMembers_shorter read

/-- A reader of values, given the reader of the values one level further in, if there may be any. -/
def valueReader (inner : Option (Reader Json)) : Reader Json where
  run := fun text =>
    match skipBlank text with
    | '[' :: later =>
      match readArray inner later with
      | .ok (items, rest) => .ok (.array items, rest)
      | .error failure => .error failure
    | '\x7b' :: later =>
      match readObject inner later with
      | .ok (members, rest) => .ok (.object members, rest)
      | .error failure => .error failure
    | start =>
      match readScalar start with
      | .ok (value, rest) => .ok (value, rest)
      | .error failure => .error (.malformed failure)
  progress := by
    intro text rest value read
    split at read
    · rename_i start
      split at read
      · rename_i itemsRead
        cases read
        have first := skipBlank_cons_shorter start
        have second := readArray_shorter itemsRead
        omega
      · cases read
    · rename_i start
      split at read
      · rename_i membersRead
        cases read
        have first := skipBlank_cons_shorter start
        have second := readObject_shorter membersRead
        omega
      · cases read
    · split at read
      · rename_i scalarRead
        cases read
        have first := skipBlank_length_le text
        have second := readScalar_shorter scalarRead
        omega
      · cases read

/-- The reader of values with at most a number of levels of nesting. -/
def reader : Nat → Reader Json
  | 0 => valueReader none
  | levels + 1 => valueReader (some (reader levels))

/-- The reader of the values inside a value that may have a number of levels, if it may have any. -/
def innerReader : Nat → Option (Reader Json)
  | 0 => none
  | levels + 1 => some (reader levels)

/-- The number of levels of nesting that a text may have. -/
def maxLevels : Nat := 127

/-- The value that a whole text holds, read by a reader; only white space may follow. -/
def Reader.readAll
    {α : Type}
    (reader : Reader α)
    (text : String) : Except ReadError α :=
  match reader.run text.toList with
  | .error failure => .error failure
  | .ok (value, rest) =>
    match skipBlank rest with
    | [] => .ok value
    | _ :: _ => .error (.malformed .trailingCharacters)

/-- The value of a JSON text. -/
def parse (text : String) : Except ReadError Json :=
  (reader maxLevels).readAll text

end ContractReplay.Json
