import ContractReplay.Json.Skip

/-!
# Decoding values of known shape

A decoder finds a value of some type in a JSON text, while the text is read, or
in a JSON value that was read before.  Records are decoded from an object, whose
unknown keys are passed over, or from an array of their fields in order.
-/

namespace ContractReplay.Json

/-- Two ways to one value: from a text, and from a JSON value. -/
structure Decoder (α : Type) where
  reader : Reader α
  ofJson : Json → Except ShapeError α

/-- A decoder whose value is changed by a function. -/
def Decoder.map
    {α β : Type}
    (change : α → β)
    (decoder : Decoder α) : Decoder β where
  reader := decoder.reader.map change
  ofJson := fun json => (decoder.ofJson json).map change

/-- The error for a value at the front of a text that is not of the expected kind. -/
def misfit (expected : String) (start : List Char) : ReadError :=
  match start with
  | '[' :: _ => .misshapen (.wrongType .sequence expected)
  | '\x7b' :: _ => .misshapen (.wrongType .map expected)
  | _ =>
    match readScalar start with
    | .ok (value, _) => .misshapen (.wrongType (.ofJson value) expected)
    | .error failure => .malformed failure

/-- The error for a JSON value that is not of the expected kind. -/
def mismatch {α : Type} (expected : String) (value : Json) : Except ShapeError α :=
  .error (.wrongType (.ofJson value) expected)

/-! ## Scalars, arrays and objects -/

/-- A reader of strings; `expected` names what was asked for. -/
def stringReader (expected : String) : Reader String where
  run := fun text =>
    match skipBlank text with
    | '"' :: later =>
      match readString true later with
      | .ok (chars, rest) => .ok (String.ofList chars, rest)
      | .error failure => .error (.malformed failure)
    | start => .error (misfit expected start)
  progress := by
    intro text rest value read
    split at read
    · rename_i start
      split at read
      · rename_i stringRead
        cases read
        have first := skipBlank_cons_shorter start
        have second := readString_shorter stringRead
        omega
      · cases read
    · cases read

/-- Strings; `expected` names what was asked for. -/
def stringDecoder (expected : String) : Decoder String where
  reader := stringReader expected
  ofJson
    | .string value => .ok value
    | other => mismatch expected other

/-- Any value, with at most a number of levels of nesting. -/
def valueDecoder (levels : Nat) : Decoder Json where
  reader := Json.reader levels
  ofJson := .ok

/-- The number below `2 ^ 64` that a numeral may name. -/
def naturalOf (expected : String) : Number → Except ShapeError Nat
  | .whole value =>
    if 0 ≤ value.value then .ok value.value.toNat
    else .error (.wrongValue (.integer value.value) expected)
  | .float value => .error (.wrongType (.float value) expected)

/-- The number at the front of a text, with its sign. -/
def readSignedNumber : List Char → Except SyntaxError (Number × List Char)
  | '-' :: later => readNumber true later
  | start => readNumber false start

/-- A reader of natural numbers below `2 ^ 64`. -/
def naturalReader (expected : String) : Reader Nat where
  run := fun text =>
    match skipBlank text with
    | [] => .error (.malformed .endInValue)
    | char :: later =>
      if char = '-' || char.isDigit then
        match readSignedNumber (char :: later) with
        | .error failure => .error (.malformed failure)
        | .ok (value, rest) =>
          match naturalOf expected value with
          | .ok natural => .ok (natural, rest)
          | .error failure => .error (.misshapen failure)
      else .error (misfit expected (char :: later))
  progress := by
    intro text rest value read
    have bound := skipBlank_length_le text
    split at read
    · cases read
    · rename_i char later start
      rw [start] at bound
      split at read
      · split at read
        · cases read
        · rename_i numberRead
          split at read
          · cases read
            unfold readSignedNumber at numberRead
            split at numberRead
            · rename_i signed
              have shorter := readNumber_shorter numberRead
              cases signed
              simp only [List.length_cons] at bound
              omega
            · have shorter := readNumber_shorter numberRead
              omega
          · cases read
      · cases read

/-- Natural numbers below `2 ^ 64`. -/
def naturalDecoder (expected : String) : Decoder Nat where
  reader := naturalReader expected
  ofJson
    | .number value => naturalOf expected value
    | other => mismatch expected other

/-- A reader that takes `null` for the absence of a value. -/
def optionalReader
    {α : Type}
    (inner : Reader α) : Reader (Option α) where
  run := fun text =>
    match skipBlank text with
    | 'n' :: later =>
      match readLetters ['u', 'l', 'l'] later with
      | .ok rest => .ok (none, rest)
      | .error failure => .error (.malformed failure)
    | start =>
      match inner.run start with
      | .ok (value, rest) => .ok (some value, rest)
      | .error failure => .error failure
  progress := by
    intro text rest value read
    split at read
    · rename_i start
      split at read
      · rename_i lettersRead
        cases read
        have first := skipBlank_cons_shorter start
        have second := readLetters_length_le lettersRead
        omega
      · cases read
    · split at read
      · rename_i innerRead
        cases read
        have first := skipBlank_length_le text
        have second := inner.progress innerRead
        omega
      · cases read

/-- Values that may be absent, which `null` stands for. -/
def optionalDecoder
    {α : Type}
    (inner : Decoder α) : Decoder (Option α) where
  reader := optionalReader inner.reader
  ofJson
    | .null => .ok none
    | other => (inner.ofJson other).map some

/-- A reader of whole objects, given the reader of the values in them. -/
def membersReader (inner : Option (Reader Json)) : Reader Members where
  run := fun text =>
    match skipBlank text with
    | '\x7b' :: later => readObject inner later
    | start => .error (misfit "a map" start)
  progress := by
    intro text rest value read
    split at read
    · rename_i start
      have first := skipBlank_cons_shorter start
      have second := readObject_shorter read
      omega
    · cases read

/-- Whole objects, with at most a number of levels of nesting. -/
def membersDecoder (levels : Nat) : Decoder Members where
  reader := membersReader (innerReader levels)
  ofJson
    | .object members => .ok members
    | other => mismatch "a map" other

/-- A reader of arrays, given the reader of their items. -/
def listReader
    {α : Type}
    (inner : Option (Reader α)) : Reader (List α) where
  run := fun text =>
    match skipBlank text with
    | '[' :: later => readArray inner later
    | start => .error (misfit "a sequence" start)
  progress := by
    intro text rest value read
    split at read
    · rename_i start
      have first := skipBlank_cons_shorter start
      have second := readArray_shorter read
      omega
    · cases read

/-- The values of a list, decoded one after the other. -/
def decodeItems
    {α : Type}
    (decode : Json → Except ShapeError α) : List Json → Except ShapeError (List α)
  | [] => .ok []
  | item :: later => do
    let value ← decode item
    let values ← decodeItems decode later
    return value :: values

/-- Arrays, given the decoder of their items, if a level of nesting is left. -/
def listDecoder
    {α : Type}
    (inner : Option (Decoder α)) : Decoder (List α) where
  reader := listReader (inner.map (·.reader))
  ofJson
    | .array items =>
      match inner with
      | some decoder => decodeItems decoder.ofJson items
      | none => mismatch "a sequence" (.array items)
    | other => mismatch "a sequence" other

/-! ## Records -/

/-- A field of a record: its key, whether it must be there, and how its value changes a record. -/
structure Field (α : Type) where
  key : String
  required : Bool
  decoder : Decoder (α → α)

/-- A record type: its name, the record before any field is read, and the fields in order. -/
structure Shape (α : Type) where
  name : String
  blank : α
  fields : List (Field α)

namespace Shape

variable {α : Type}

/-- How error texts name the shape. -/
def expectation (name : String) : String :=
  "struct " ++ name

/-- How error texts name the shape of an array with an item for each field. -/
def lengthExpectation (shape : Shape α) : String :=
  expectation shape.name ++ " with " ++ Nat.repr shape.fields.length ++
    if shape.fields.length = 1 then " element" else " elements"

/-- The field with a key. -/
def field? (shape : Shape α) (key : String) : Option (Field α) :=
  shape.fields.find? (·.key == key)

/-- A record in the making: the keys read so far, and what they made of it. -/
structure Progress (α : Type) where
  seen : List String
  value : α

/-- The progress after a field. -/
def Progress.add (progress : Progress α) (key : String) (change : α → α) : Progress α :=
  ⟨key :: progress.seen, change progress.value⟩

/-- The record, if every field that must be there was read. -/
def finish (shape : Shape α) (progress : Progress α) : Except ShapeError α :=
  match shape.fields.find? fun field => field.required && !progress.seen.contains field.key with
  | some field => .error (.missingField field.key)
  | none => .ok progress.value

/-- The reader of what follows a key. -/
def memberReader
    (shape : Shape α)
    (progress : Progress α)
    (key : String) : Reader (Progress α) :=
  match shape.field? key with
  | none => (skipper.map fun _ => progress).afterColon
  | some field =>
    if progress.seen.contains key then .fail (.misshapen (.duplicateField key))
    else (field.decoder.reader.map (progress.add key)).afterColon

/-- The text after the bracket that must close an array now. -/
def readClosing (text : List Char) : Except SyntaxError (List Char) :=
  match skipBlank text with
  | [] => .error .endInList
  | char :: rest =>
    if char = ']' then .ok rest
    else if char = ',' then
      match skipBlank rest with
      | ']' :: _ => .error .trailingComma
      | _ => .error .trailingCharacters
    else .error .trailingCharacters

/-- The record without its last fields, unless one of them must be there. -/
def withoutRest
    (shape : Shape α)
    (index : Nat)
    (fields : List (Field α))
    (value : α) : Except ShapeError α :=
  match fields.findIdx? (·.required) with
  | some later => .error (.wrongLength (index + later) shape.lengthExpectation)
  | none => .ok value

/-- A record from the items of an array, one for each field in order. -/
def readInOrder
    (shape : Shape α)
    (index : Nat)
    (value : α)
    (text : List Char) : List (Field α) → Except ReadError (α × List Char)
  | [] =>
    match readClosing text with
    | .ok rest => .ok (value, rest)
    | .error failure => .error (.malformed failure)
  | field :: later =>
    match enterItem (index == 0) text with
    | .error failure => .error (.malformed failure)
    | .ok (.closed rest) =>
      match shape.withoutRest index (field :: later) value with
      | .ok record => .ok (record, rest)
      | .error failure => .error (.misshapen failure)
    | .ok (.item start) =>
      match field.decoder.reader.run start with
      | .error failure => .error failure
      | .ok (change, rest) => readInOrder shape (index + 1) (change value) rest later

theorem readClosing_shorter
    {text rest : List Char}
    (read : readClosing text = .ok rest) :
    rest.length < text.length := by
  unfold readClosing at read
  split at read
  · cases read
  · rename_i start
    split at read
    · cases read
      exact skipBlank_cons_shorter start
    split at read
    · split at read <;> cases read
    · cases read

theorem readInOrder_shorter
    {shape : Shape α}
    {index : Nat}
    {value record : α}
    {text rest : List Char}
    {fields : List (Field α)}
    (read : readInOrder shape index value text fields = .ok (record, rest)) :
    rest.length < text.length := by
  fun_induction readInOrder shape index value text fields with
  | case1 _ _ _ _ closing =>
    cases read
    exact readClosing_shorter closing
  | case4 _ _ _ _ _ _ entered =>
    cases read
    exact enterItem_closed_shorter entered
  | case7 _ _ _ field _ _ entered _ _ fieldRead ih =>
    have first := enterItem_item_length_le entered
    have second := Reader.progress _ fieldRead
    have third := ih read
    omega
  | _ => cases read

/-- A reader of records, if a level of nesting is left. -/
def reader (name : String) (inner : Option (Shape α)) : Reader α where
  run := fun text =>
    match skipBlank text with
    | '[' :: later =>
      match inner with
      | none => .error (.malformed .tooDeep)
      | some shape => shape.readInOrder 0 shape.blank later shape.fields
    | '\x7b' :: later =>
      match inner with
      | none => .error (.malformed .tooDeep)
      | some shape =>
        match readMembers shape.memberReader true ⟨[], shape.blank⟩ later with
        | .error failure => .error failure
        | .ok (progress, rest) =>
          match shape.finish progress with
          | .ok record => .ok (record, rest)
          | .error failure => .error (.misshapen failure)
    | start => .error (misfit (expectation name) start)
  progress := by
    intro text rest value read
    split at read
    · rename_i start
      have first := skipBlank_cons_shorter start
      split at read
      · cases read
      · have second := readInOrder_shorter read
        omega
    · rename_i start
      have first := skipBlank_cons_shorter start
      split at read
      · cases read
      · split at read
        · cases read
        · rename_i membersRead
          have second := readMembers_shorter membersRead
          split at read
          · cases read
            omega
          · cases read
    · cases read

/-- The progress after the members of an object, in order. -/
def decodeMembers
    (shape : Shape α)
    (progress : Progress α) : List (String × Json) → Except ShapeError (Progress α)
  | [] => .ok progress
  | (key, value) :: later =>
    match shape.field? key with
    | none => decodeMembers shape progress later
    | some field => do
      let change ← field.decoder.ofJson value
      decodeMembers shape (progress.add key change) later

/-- A record from the items of an array, one for each field in order, and how many are left over. -/
def decodeInOrder
    (shape : Shape α)
    (index : Nat)
    (value : α) : List (Field α) → List Json → Except ShapeError (α × Nat)
  | [], items => .ok (value, items.length)
  | field :: later, [] => (shape.withoutRest index (field :: later) value).map (·, 0)
  | field :: later, item :: items => do
    let change ← field.decoder.ofJson item
    decodeInOrder shape (index + 1) (change value) later items

/-- A record from a JSON value. -/
def ofJson (shape : Shape α) : Json → Except ShapeError α
  | .object members => do
    let progress ← shape.decodeMembers ⟨[], shape.blank⟩ members
    shape.finish progress
  | .array items => do
    let (record, excess) ← shape.decodeInOrder 0 shape.blank shape.fields items
    if excess = 0 then return record
    else throw (.wrongLength items.length "fewer elements in array")
  | other => mismatch (expectation shape.name) other

/-- Records, if a level of nesting is left. -/
def decoder (name : String) (inner : Option (Shape α)) : Decoder α where
  reader := Shape.reader name inner
  ofJson := fun json =>
    match inner with
    | some shape => shape.ofJson json
    | none => mismatch (expectation name) json

end Shape

end ContractReplay.Json
