import ContractReplay.Text.CaseRuns

/-!
# Lower and upper case of single characters

Both mappings are the full, context-free ones of Unicode: a character may map
to several, and no rule looks at the neighbours of a character.
-/

namespace ContractReplay.Text

/-- The run that holds a code point, among runs in ascending order. -/
def findRun (code : Nat) : List CaseRun → Option CaseRun
  | [] => none
  | run :: later =>
    if code < run.first then none
    else if run.contains code then some run
    else findRun code later

/-- The mapping given by runs and by single entries; a character in neither maps to itself. -/
def mapCase
    (runs : List CaseRun)
    (specials : List (Nat × List Nat))
    (char : Char) : List Char :=
  match findRun char.toNat runs with
  | some run => [Char.ofNat (Int.ofNat char.toNat + run.shift).toNat]
  | none =>
    match specials.lookup char.toNat with
    | some codes => codes.map Char.ofNat
    | none => [char]

/-- The lower-case form of a character. -/
def lowerChar (char : Char) : List Char :=
  mapCase lowerRuns lowerSpecials char

/-- The upper-case form of a character. -/
def upperChar (char : Char) : List Char :=
  mapCase upperRuns upperSpecials char

end ContractReplay.Text
