/-!
# Search for a part of a text
-/

namespace ContractReplay.Text

/-- Whether one list of characters occurs in another without a gap. -/
def occursIn (part : List Char) : List Char → Bool
  | [] => part.isEmpty
  | char :: later => part.isPrefixOf (char :: later) || occursIn part later

/-- Whether a text contains another. -/
def contains (text part : String) : Bool :=
  occursIn part.toList text.toList

end ContractReplay.Text
