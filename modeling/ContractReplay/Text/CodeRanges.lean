/-!
# Sets of characters by code point ranges

A property of the Unicode character database is a set of code points.  It is
given here by its maximal ranges in ascending order, and membership walks the
ranges until the code point can no longer be in one of them.
-/

namespace ContractReplay.Text

/-- Closed ranges of code points, in ascending order. -/
abbrev CodeRanges := List (Nat × Nat)

/-- Whether a code point lies in one of the ranges. -/
def CodeRanges.hasCode
    (code : Nat) :
    CodeRanges → Bool
  | [] => false
  | (first, last) :: later =>
    if code < first then false
    else if code ≤ last then true
    else CodeRanges.hasCode code later

/-- Whether a character lies in one of the ranges. -/
def CodeRanges.contains
    (ranges : CodeRanges)
    (char : Char) : Bool :=
  ranges.hasCode char.toNat

end ContractReplay.Text
