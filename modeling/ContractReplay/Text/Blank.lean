import ContractReplay.Text.CodeRanges

/-!
# The Unicode property White_Space

A text is blank when every character of it is white space, which is to say
that nothing is left of it once white space is trimmed from both ends.
-/

namespace ContractReplay.Text

/-- The code points with the property White_Space. -/
def whiteSpaceRanges : CodeRanges := [
    (0x9, 0xD), (0x20, 0x20), (0x85, 0x85), (0xA0, 0xA0), (0x1680, 0x1680), (0x2000, 0x200A),
    (0x2028, 0x2029), (0x202F, 0x202F), (0x205F, 0x205F), (0x3000, 0x3000)]

/-- Whether a character has the property White_Space. -/
def isWhiteSpace (char : Char) : Bool :=
  whiteSpaceRanges.contains char

/-- Whether a text holds nothing but white space. -/
def isBlank (text : String) : Bool :=
  text.toList.all isWhiteSpace

end ContractReplay.Text
