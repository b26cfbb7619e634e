/-!
# Timestamps

A timestamp is a date and a time of day in the proleptic Gregorian calendar,
read on a clock that is ahead of universal time by whole minutes.  A sixtieth
second is a leap second, which any minute may have.  Two timestamps are the same
instant when their clocks read the same once both are set to universal time.

Every offset that is read from a text is of whole minutes.  A client could make up
a timestamp whose offset has seconds too; such timestamps are left out here.
-/

namespace ContractReplay

namespace Timestamp

/-- Whether a year has a leap day. -/
def isLeapYear (year : Int) : Bool :=
  year % 4 == 0 && (year % 100 != 0 || year % 400 == 0)

/-- The number of days of a month. -/
def daysInMonth (year : Int) (month : Nat) : Nat :=
  if month = 2 then if isLeapYear year then 29 else 28
  else if month = 4 ∨ month = 6 ∨ month = 9 ∨ month = 11 then 30
  else 31

/-- Whether the parts of a date name a day of the calendar. -/
def IsDate (year : Int) (month day : Nat) : Prop :=
  (-262143 ≤ year ∧ year ≤ 262142) ∧ (1 ≤ month ∧ month ≤ 12) ∧
    (1 ≤ day ∧ day ≤ daysInMonth year month)

/-- Whether the parts of a time name a time of day. -/
def IsTime (hour minute second nanosecond : Nat) : Prop :=
  (hour < 24 ∧ minute < 60) ∧ (second ≤ 60 ∧ nanosecond < 1000000000)

/-- Whether a number of minutes is less than a day. -/
def IsOffset (minutes : Int) : Prop :=
  -1440 < minutes ∧ minutes < 1440

instance (year : Int) (month day : Nat) : Decidable (IsDate year month day) := by
  unfold IsDate
  infer_instance

instance (hour minute second nanosecond : Nat) :
    Decidable (IsTime hour minute second nanosecond) := by
  unfold IsTime
  infer_instance

instance (minutes : Int) : Decidable (IsOffset minutes) := by
  unfold IsOffset
  infer_instance

end Timestamp

/-- A date and a time of day on a clock that is `offset` minutes ahead of universal time. -/
structure Timestamp where
  year : Int
  month : Nat
  day : Nat
  hour : Nat
  minute : Nat
  second : Nat
  nanosecond : Nat
  offset : Int
  isDate : Timestamp.IsDate year month day
  isTime : Timestamp.IsTime hour minute second nanosecond
  isOffset : Timestamp.IsOffset offset
deriving DecidableEq

namespace Timestamp

/-- The timestamp with these parts, if they name one. -/
def ofParts?
    (year : Int)
    (month day hour minute second nanosecond : Nat)
    (offset : Int) : Option Timestamp :=
  if isDate : IsDate year month day then
    if isTime : IsTime hour minute second nanosecond then
      if isOffset : IsOffset offset then
        some ⟨year, month, day, hour, minute, second, nanosecond, offset, isDate, isTime, isOffset⟩
      else none
    else none
  else none

/-- The number of days from the first day of the year 1 to the first day of a year. -/
def daysBeforeYear (year : Int) : Int :=
  let past := year - 1
  365 * past + past / 4 - past / 100 + past / 400

/-- The number of days of a year before the first day of a month. -/
def daysBeforeMonth (year : Int) (month : Nat) : Nat :=
  (List.range (month - 1)).foldl (fun days past => days + daysInMonth year (past + 1)) 0

/-- The number of days from the first day of 1970 to a day. -/
def dayNumber (year : Int) (month day : Nat) : Int :=
  daysBeforeYear year + Int.ofNat (daysBeforeMonth year month + day) - 719163

/-- Seconds of universal time since the start of 1970; a leap second counts as the one before it. -/
def unixSeconds (timestamp : Timestamp) : Int :=
  86400 * dayNumber timestamp.year timestamp.month timestamp.day +
    Int.ofNat (3600 * timestamp.hour + 60 * timestamp.minute + min timestamp.second 59) -
    60 * timestamp.offset

/-- Nanoseconds since the second of `unixSeconds` began; a leap second has a billion more. -/
def subsecond (timestamp : Timestamp) : Nat :=
  timestamp.nanosecond + if timestamp.second = 60 then 1000000000 else 0

/-- Whether two timestamps are the same instant, whatever their clocks. -/
def sameInstant (left right : Timestamp) : Bool :=
  left.unixSeconds == right.unixSeconds && left.subsecond == right.subsecond

end Timestamp

end ContractReplay
