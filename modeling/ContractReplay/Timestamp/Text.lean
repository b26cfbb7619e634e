import ContractReplay.Decimal.Digits
import ContractReplay.Text.Blank
import ContractReplay.Timestamp.Basic

/-!
# Timestamps as text

The canonical text has a date, a time with the fewest of zero, three, six or
nine decimal places, and the offset.  Three forms are read: the strict form with
an offset, a date and a time without offset, and a bare date.  The latter two are
lenient about white space and leading zeros, and are taken as universal time.
-/

namespace ContractReplay.Timestamp

open Decimal Text

/-! ## Writing -/

/-- A natural number with at least a number of digits. -/
def padded (width value : Nat) : List Char :=
  let digits := Nat.toDigits 10 value
  List.replicate (width - digits.length) '0' ++ digits

/-- A year: four digits, or a sign and at least four digits outside the years 0 to 9999. -/
def writeYear (year : Int) : List Char :=
  if 0 ≤ year ∧ year ≤ 9999 then padded 4 year.natAbs
  else (if year < 0 then '-' else '+') :: padded 4 year.natAbs

/-- A fraction of a second with the fewest of zero, three, six or nine decimal places. -/
def writeFraction (nanosecond : Nat) : List Char :=
  if nanosecond = 0 then []
  else if nanosecond % 1000000 = 0 then '.' :: padded 3 (nanosecond / 1000000)
  else if nanosecond % 1000 = 0 then '.' :: padded 6 (nanosecond / 1000)
  else '.' :: padded 9 nanosecond

/-- An offset: `Z`, or a sign, hours and minutes. -/
def writeOffset (minutes : Int) : List Char :=
  if minutes = 0 then ['Z']
  else
    (if minutes < 0 then '-' else '+') ::
      (padded 2 (minutes.natAbs / 60) ++ ':' :: padded 2 (minutes.natAbs % 60))

/-- The characters of the canonical text. -/
def write (timestamp : Timestamp) : List Char :=
  writeYear timestamp.year ++ '-' :: (padded 2 timestamp.month ++ '-' :: (padded 2 timestamp.day ++
    'T' :: (padded 2 timestamp.hour ++ ':' :: (padded 2 timestamp.minute ++
      ':' :: (padded 2 timestamp.second ++
        (writeFraction timestamp.nanosecond ++ writeOffset timestamp.offset))))))

/-- The canonical text. -/
def text (timestamp : Timestamp) : String :=
  String.ofList timestamp.write

/-! ## Reading -/

/-- Up to a number of digits at the front of a text, and the rest. -/
def takeUpTo : Nat → List Char → List Nat × List Char
  | 0, text => ([], text)
  | _ + 1, [] => ([], [])
  | most + 1, char :: later =>
    match digitValue? char with
    | some digit => (digit :: (takeUpTo most later).1, (takeUpTo most later).2)
    | none => ([], char :: later)

/-- The number of exactly `count` digits at the front of a text. -/
def exactly (count : Nat) (text : List Char) : Option (Nat × List Char) :=
  let (digits, rest) := takeUpTo count text
  if digits.length = count then some (ofDigits digits, rest) else none

/-- The number of one to `most` digits at the front of a text. -/
def upTo (most : Nat) (text : List Char) : Option (Nat × List Char) :=
  match takeUpTo most text with
  | ([], _) => none
  | (digits, rest) => some (ofDigits digits, rest)

/-- The text after a character that must be one of some. -/
def expect (allowed : List Char) : List Char → Option (List Char)
  | [] => none
  | char :: later => if allowed.contains char then some later else none

/-- The nanoseconds of the digits after a point; digits after the ninth do not count. -/
def nanosecondsOf (digits : List Nat) : Nat :=
  let counted := digits.take 9
  ofDigits counted * Nat.pow 10 (9 - counted.length)

/-- The nanoseconds of the fraction of a second at the front of a text, if there is a fraction. -/
def readFraction : List Char → Option (Nat × List Char)
  | '.' :: later =>
    match takeDigits later with
    | ([], _) => none
    | (digits, rest) => some (nanosecondsOf digits, rest)
  | later => some (0, later)

/-- The offset in minutes that a whole text spells. -/
def readOffset (text : List Char) : Option Int := do
  match text with
  | ['Z'] => return 0
  | ['z'] => return 0
  | sign :: later =>
    if sign ≠ '+' ∧ sign ≠ '-' ∧ sign ≠ '\u2212' then none
    let (hours, afterHours) ← exactly 2 later
    let (minutes, rest) ← expect [':'] afterHours >>= exactly 2
    if 60 ≤ minutes ∨ rest ≠ [] then none
    let total : Int := Int.ofNat (60 * hours + minutes)
    return if sign = '+' then total else -total
  | [] => none

/-- A timestamp in the strict form: every part has its full width, and the offset is there. -/
def readStrict (text : List Char) : Option Timestamp := do
  let (year, afterYear) ← exactly 4 text
  let (month, afterMonth) ← expect ['-'] afterYear >>= exactly 2
  let (day, afterDay) ← expect ['-'] afterMonth >>= exactly 2
  let (hour, afterHour) ← expect ['T', 't', ' '] afterDay >>= exactly 2
  let (minute, afterMinute) ← expect [':'] afterHour >>= exactly 2
  let (second, afterSecond) ← expect [':'] afterMinute >>= exactly 2
  let (nanosecond, afterFraction) ← readFraction afterSecond
  let offset ← readOffset afterFraction
  ofParts? year month day hour minute second nanosecond offset

/-- The number of up to two digits at the front of a text, after white space. -/
def readShort (text : List Char) : Option (Nat × List Char) :=
  upTo 2 (text.dropWhile isWhiteSpace)

/-- The year at the front of a text, after white space: up to four digits, or any number after a
sign. -/
def readYear (text : List Char) : Option (Int × List Char) :=
  match text.dropWhile isWhiteSpace with
  | '-' :: later => (upTo later.length later).map fun (year, rest) => (-Int.ofNat year, rest)
  | '+' :: later => (upTo later.length later).map fun (year, rest) => (Int.ofNat year, rest)
  | later => (upTo 4 later).map fun (year, rest) => (Int.ofNat year, rest)

/-- The year, month and day of a date in the lenient form. -/
def readDateParts (text : List Char) : Option (Int × Nat × Nat × List Char) := do
  let (year, afterYear) ← readYear text
  let (month, afterMonth) ← expect ['-'] afterYear >>= readShort
  let (day, afterDay) ← expect ['-'] afterMonth >>= readShort
  return (year, month, day, afterDay)

/-- A date and a time in the lenient form. -/
def readDateTime (text : List Char) : Option Timestamp := do
  let (year, month, day, afterDate) ← readDateParts text
  let (hour, afterHour) ← expect ['T'] afterDate >>= readShort
  let (minute, afterMinute) ← expect [':'] afterHour >>= readShort
  let (second, afterSecond) ← expect [':'] afterMinute >>= readShort
  let (nanosecond, rest) ← readFraction afterSecond
  if rest ≠ [] then none
  ofParts? year month day hour minute second nanosecond 0

/-- A date in the lenient form, which stands for its first instant. -/
def readDate (text : List Char) : Option Timestamp := do
  let (year, month, day, rest) ← readDateParts text
  if rest ≠ [] then none
  ofParts? year month day 0 0 0 0 0

/-- The timestamp that a text spells: in the strict form if it has it, else in a lenient one. -/
def ofText? (text : String) : Option Timestamp :=
  (readStrict text.toList).or ((readDateTime text.toList).or (readDate text.toList))

end ContractReplay.Timestamp
