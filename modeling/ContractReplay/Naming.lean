import ContractReplay.Text.Alphabetic
import ContractReplay.Text.LetterCase

/-!
# Naming conventions

Recorded cases name methods, parameters and fields in camel or Pascal case;
clients declare snake-case members and mark a name that collides with a
reserved word by a trailing underscore.  This module converts between the
conventions and lists, in order of preference, the spellings under which a
name from a recorded case may be declared.
-/

namespace ContractReplay.Naming

open Text

/-- Words that no member of a client can have as its name. -/
def reservedWords : List String := [
  "and", "as", "assert", "bool", "break", "bytes", "class", "continue", "decimal", "def",
  "del", "dict", "elif", "else", "enum", "except", "exec", "facility", "finally", "float",
  "for", "from", "global", "id", "if", "import", "in", "int", "is", "lambda", "list", "map",
  "next", "not", "object", "or", "pass", "print", "raise", "return", "self", "set", "str",
  "try", "tuple", "type", "typing", "while", "with", "yield"]

/-- Whether a name is a reserved word. -/
def isReserved (name : String) : Bool :=
  reservedWords.contains name

/-- A name with the mark that keeps it apart from a reserved word. -/
def escaped (name : String) : String :=
  name ++ "_"

/--
The characters of a snake-case name: everything in lower case, with an
underscore before an ASCII capital whose predecessor is an ASCII small letter.
-/
def snakeChars (afterSmall : Bool) : List Char → List Char
  | [] => []
  | char :: later =>
    (if afterSmall && char.isUpper then ['_'] else []) ++
      (lowerChar char ++ snakeChars char.isLower later)

/-- A name in snake case. -/
def snakeCase (name : String) : String :=
  String.ofList (snakeChars false name.toList)

/-- Whether the first character of a list, if there is one, is alphabetic. -/
def startsAlphabetic : List Char → Bool
  | [] => false
  | char :: _ => isAlphabetic char

/--
The characters of a Pascal-case name: an underscore before an alphabetic
character goes and raises that character, and the first character is raised.
-/
def pascalChars (raise : Bool) : List Char → List Char
  | [] => []
  | char :: later =>
    if char = '_' && startsAlphabetic later then pascalChars true later
    else if raise then upperChar char ++ pascalChars false later
    else char :: pascalChars false later

/-- A name in Pascal case. -/
def pascalCase (name : String) : String :=
  String.ofList (pascalChars true name.toList)

/-- A name in Pascal case whose first character is lowered. -/
def camelCase (name : String) : String :=
  match pascalChars true name.toList with
  | [] => ""
  | first :: later => String.ofList (lowerChar first ++ later)

/-- A name whose first character is raised and the rest left as it is. -/
def upperFirst (name : String) : String :=
  match name.toList with
  | [] => ""
  | first :: later => String.ofList (upperChar first ++ later)

/-- The name under which a client declares the member of an external name. -/
def internalName (external : String) : String :=
  let converted := snakeCase external
  if isReserved converted then escaped converted else converted

/-- The names to try for a recorded method, in order of preference. -/
def methodCandidates (recorded : String) : List String :=
  let converted := snakeCase (upperFirst recorded)
  [converted, escaped converted]

/-- The names to try for the key of a recorded request, in order of preference. -/
def parameterCandidates (key : String) : List String :=
  let converted := snakeCase key
  [key, converted, escaped converted].eraseDups

/-- The keys under which an object may hold a record field, in order of preference. -/
def fieldCandidates (wireName fieldName : String) : List String :=
  [wireName, fieldName, pascalCase wireName, camelCase wireName].eraseDups

end ContractReplay.Naming
