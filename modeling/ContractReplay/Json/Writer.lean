import ContractReplay.Json.Basic

/-!
# JSON text

The compact text has no white space at all.  The indented text puts every item
and member on a line of its own, two spaces further in than the bracket that
holds it, and leaves empty arrays and objects closed up.
-/

namespace ContractReplay.Json

/-- The spelling of one character between the quotes of a JSON string. -/
def escapeChar (char : Char) : List Char :=
  if char = '"' then ['\\', '"']
  else if char = '\\' then ['\\', '\\']
  else if char = '\x08' then ['\\', 'b']
  else if char = '\t' then ['\\', 't']
  else if char = '\n' then ['\\', 'n']
  else if char = '\x0c' then ['\\', 'f']
  else if char = '\r' then ['\\', 'r']
  else if char.toNat < 32 then
    ['\\', 'u', '0', '0', Nat.digitChar (char.toNat / 16), Nat.digitChar (char.toNat % 16)]
  else [char]

/-- A text between quotes. -/
def writeString (text : String) : List Char :=
  '"' :: (text.toList.flatMap escapeChar ++ ['"'])

mutual

/-- The compact text of a value. -/
def write : Json → List Char
  | .null => ['n', 'u', 'l', 'l']
  | .bool true => ['t', 'r', 'u', 'e']
  | .bool false => ['f', 'a', 'l', 's', 'e']
  | .number value => value.spell
  | .string value => writeString value
  | .array [] => ['[', ']']
  | .array (item :: later) => '[' :: (write item ++ writeItems later)
  | .object [] => ['\x7b', '\x7d']
  | .object ((key, value) :: later) =>
    '\x7b' :: (writeString key ++ ':' :: (write value ++ writeMembers later))

/-- The compact text of the items after the first, with the closing bracket. -/
def writeItems : List Json → List Char
  | [] => [']']
  | item :: later => ',' :: (write item ++ writeItems later)

/-- The compact text of the members after the first, with the closing brace. -/
def writeMembers : List (String × Json) → List Char
  | [] => ['\x7d']
  | (key, value) :: later =>
    ',' :: (writeString key ++ ':' :: (write value ++ writeMembers later))

end

/-- A line break and the spaces of a level of nesting. -/
def newLine (level : Nat) : List Char :=
  '\n' :: List.replicate (2 * level) ' '

mutual

/-- The indented text of a value that stands at a level of nesting. -/
def writeIndented (level : Nat) : Json → List Char
  | .array [] => ['[', ']']
  | .array (item :: later) =>
    '[' :: (newLine (level + 1) ++
      (writeIndented (level + 1) item ++ writeIndentedItems level later))
  | .object [] => ['\x7b', '\x7d']
  | .object ((key, value) :: later) =>
    '\x7b' :: (newLine (level + 1) ++ (writeString key ++ ':' :: ' ' ::
      (writeIndented (level + 1) value ++ writeIndentedMembers level later)))
  | .null => write .null
  | .bool value => write (.bool value)
  | .number value => write (.number value)
  | .string value => write (.string value)

/-- The indented text of the items after the first, with the closing bracket. -/
def writeIndentedItems (level : Nat) : List Json → List Char
  | [] => newLine level ++ [']']
  | item :: later =>
    ',' :: (newLine (level + 1) ++
      (writeIndented (level + 1) item ++ writeIndentedItems level later))

/-- The indented text of the members after the first, with the closing brace. -/
def writeIndentedMembers (level : Nat) : List (String × Json) → List Char
  | [] => newLine level ++ ['\x7d']
  | (key, value) :: later =>
    ',' :: (newLine (level + 1) ++ (writeString key ++ ':' :: ' ' ::
      (writeIndented (level + 1) value ++ writeIndentedMembers level later)))

end

/-- The compact text of a value. -/
def compact (value : Json) : String :=
  String.ofList (write value)

/-- The indented text of a value. -/
def pretty (value : Json) : String :=
  String.ofList (writeIndented 0 value)

end ContractReplay.Json
