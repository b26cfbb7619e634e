import ContractReplay.Proofs.Decimal.Digits
import ContractReplay.Timestamp.Text
import Mathlib.Algebra.Group.Nat.Defs
import Mathlib.Tactic.Common

/-!
# Canonical timestamps are read back

A part of a canonical text is a number with a fixed number of digits.  Reading as
many digits gives the number again and leaves the rest of the text, so the strict
form reads a canonical text part by part.  Only years of four digits have such a
text: other years are written with a sign.

Every text of a timestamp, in whichever form, has a hyphen after its year.
-/

namespace ContractReplay.Timestamp

open Decimal Text

/-! ## Runs of digits -/

theorem takeUpTo_run
    (run rest : List Char)
    (digits : ∀ char ∈ run, char.isDigit) :
    takeUpTo run.length (run ++ rest) = (run.map digitOf, rest) := by
  induction run with
  | nil => rfl
  | cons char later ih =>
      have laterTaken := ih fun other member => digits other (by simp [member])
      rw [List.cons_append, List.length_cons, takeUpTo,
        digitValue?_of_isDigit (digits char (by simp)), laterTaken]
      rfl

/-! ## Padded numbers -/

theorem padded_isDigit
    (width value : Nat) :
    ∀ char ∈ padded width value, char.isDigit := by
  intro char member
  rcases List.mem_append.mp member with filling | digit
  · rw [List.eq_of_mem_replicate filling]
    rfl
  · exact Nat.isDigit_of_mem_toDigits (by decide) (by decide) digit

theorem padded_length
    {width value : Nat}
    (positive : 0 < width)
    (fits : value < 10 ^ width) :
    (padded width value).length = width := by
  have enough : (Nat.toDigits 10 value).length ≤ width :=
    (Nat.length_toDigits_le_iff (by decide) positive).mpr fits
  simp only [padded, List.length_append, List.length_replicate]
  omega

theorem ofDigits_padded
    (width value : Nat) :
    ofDigits ((padded width value).map digitOf) = value := by
  rw [ofDigits_map_digitOf, padded, Nat.ofDigitChars_append, Nat.ofDigitChars_replicate_zero,
    Nat.mul_zero, Nat.ofDigitChars_ten_toDigits]

/-- A padded number is read by its width, and the rest of the text stays. -/
theorem exactly_padded
    {width value : Nat}
    (positive : 0 < width)
    (fits : value < 10 ^ width)
    (rest : List Char) :
    exactly width (padded width value ++ rest) = some (value, rest) := by
  have length := padded_length positive fits
  have taken := takeUpTo_run (padded width value) rest (padded_isDigit width value)
  rw [length] at taken
  rw [exactly, taken]
  simp [length, ofDigits_padded]

/-- A padded number after one of some characters is read by its width. -/
theorem expect_exactly_padded
    {allowed : List Char}
    {mark : Char}
    (isAllowed : allowed.contains mark = true)
    {value : Nat}
    (fits : value < 100)
    (rest : List Char) :
    (expect allowed (mark :: (padded 2 value ++ rest))).bind (exactly 2) =
      some (value, rest) := by
  rw [expect, if_pos isAllowed]
  exact exactly_padded (by decide) fits rest

/-! ## Fractions and offsets -/

theorem readFraction_padded
    {width value : Nat}
    (positive : 0 < width)
    (short : width ≤ 9)
    (fits : value < 10 ^ width)
    {rest : List Char}
    (undigited : StartsUndigited rest) :
    readFraction ('.' :: (padded width value ++ rest)) =
      some (value * 10 ^ (9 - width), rest) := by
  have length := padded_length positive fits
  have mapLength : ((padded width value).map digitOf).length = width := by
    rw [List.length_map, length]
  have taken :=
    takeDigits_run (padded width value) rest (padded_isDigit width value) undigited
  have nanoseconds :
      nanosecondsOf ((padded width value).map digitOf) = value * 10 ^ (9 - width) := by
    rw [nanosecondsOf, List.take_of_length_le (by omega), mapLength, ofDigits_padded,
      Nat.pow_eq]
  rw [readFraction, taken]
  split
  · rename_i none_taken
    have empty : (padded width value).map digitOf = [] := congrArg Prod.fst none_taken
    rw [empty] at mapLength
    simp only [List.length_nil] at mapLength
    omega
  · rename_i digits others _ some_taken
    cases some_taken
    rw [nanoseconds]

theorem writeOffset_undigited
    (minutes : Int) :
    StartsUndigited (writeOffset minutes) := by
  intro char later starts
  rw [writeOffset] at starts
  split_ifs at starts <;> cases starts <;> rfl

theorem readFraction_writeOffset
    (minutes : Int) :
    readFraction (writeOffset minutes) = some (0, writeOffset minutes) := by
  rw [writeOffset]
  split_ifs <;> rfl

theorem readFraction_writeFraction
    {nanosecond : Nat}
    (fits : nanosecond < 1000000000)
    (minutes : Int) :
    readFraction (writeFraction nanosecond ++ writeOffset minutes) =
      some (nanosecond, writeOffset minutes) := by
  have undigited := writeOffset_undigited minutes
  rw [writeFraction]
  split_ifs with whole milliseconds microseconds
  · rw [whole]
    exact readFraction_writeOffset minutes
  · rw [List.cons_append,
      readFraction_padded (by decide) (by decide) (by omega) undigited]
    congr 2
    omega
  · rw [List.cons_append,
      readFraction_padded (by decide) (by decide) (by omega) undigited]
    congr 2
    omega
  · rw [List.cons_append,
      readFraction_padded (by decide) (by decide) (by omega) undigited]
    congr 2
    omega

/-- An offset that is spelled out has two digits of hours and two of minutes. -/
theorem readOffset_spelled
    {sign : Char}
    (isSign : sign = '+' ∨ sign = '-')
    {hours minutes : Nat}
    (hoursFit : hours < 100)
    (minutesFit : minutes < 60) :
    readOffset (sign :: (padded 2 hours ++ ':' :: padded 2 minutes)) =
      some (if sign = '+' then Int.ofNat (60 * hours + minutes)
        else -Int.ofNat (60 * hours + minutes)) := by
  have hoursRead :
      exactly 2 (padded 2 hours ++ ':' :: padded 2 minutes) =
        some (hours, ':' :: padded 2 minutes) :=
    exactly_padded (by decide) hoursFit _
  have minutesRead :
      (expect [':'] (':' :: padded 2 minutes)).bind (exactly 2) = some (minutes, []) := by
    have isAllowed : [':'].contains ':' = true := rfl
    have read := expect_exactly_padded isAllowed (show minutes < 100 by omega) []
    rwa [List.append_nil] at read
  have inRange : ¬ (60 ≤ minutes ∨ ([] : List Char) ≠ []) := by
    simp [minutesFit]
  have allowed : ¬ (sign ≠ '+' ∧ sign ≠ '-' ∧ sign ≠ '\u2212') := by
    tauto
  have isNoLetter : sign ≠ 'Z' ∧ sign ≠ 'z' := by
    rcases isSign with rfl | rfl <;> decide
  rw [readOffset, if_neg allowed, hoursRead]
  · simp only [Option.bind_eq_bind, Option.bind_some, minutesRead, if_neg inRange]
    rfl
  · exact fun isLetter _ => isNoLetter.1 isLetter
  · exact fun isLetter _ => isNoLetter.2 isLetter

theorem readOffset_writeOffset
    {minutes : Int}
    (isOffset : IsOffset minutes) :
    readOffset (writeOffset minutes) = some minutes := by
  rcases isOffset with ⟨lower, upper⟩
  rw [writeOffset]
  split_ifs with none behind
  · rw [none]
    rfl
  · rw [readOffset_spelled (Or.inr rfl) (by omega) (by omega), if_neg (by decide)]
    congr 1
    simp only [Int.ofNat_eq_natCast]
    omega
  · rw [readOffset_spelled (Or.inl rfl) (by omega) (by omega), if_pos rfl]
    congr 1
    simp only [Int.ofNat_eq_natCast]
    omega

/-! ## Whole texts -/

/-- The parts of a timestamp name it. -/
theorem ofParts?_self
    (timestamp : Timestamp) :
    ofParts? timestamp.year timestamp.month timestamp.day timestamp.hour timestamp.minute
      timestamp.second timestamp.nanosecond timestamp.offset = some timestamp := by
  rw [ofParts?, dif_pos timestamp.isDate, dif_pos timestamp.isTime, dif_pos timestamp.isOffset]

/-- Timestamps whose year is written with four digits and no sign. -/
def HasPlainYear (timestamp : Timestamp) : Prop :=
  0 ≤ timestamp.year ∧ timestamp.year ≤ 9999

instance (timestamp : Timestamp) : Decidable timestamp.HasPlainYear :=
  inferInstanceAs (Decidable (0 ≤ timestamp.year ∧ timestamp.year ≤ 9999))

theorem daysInMonth_le
    (year : Int)
    (month : Nat) :
    daysInMonth year month ≤ 31 := by
  rw [daysInMonth]
  split_ifs <;> omega

/-- The strict form reads the canonical text of a timestamp with a plain year. -/
theorem readStrict_write
    {timestamp : Timestamp}
    (plain : timestamp.HasPlainYear) :
    readStrict timestamp.write = some timestamp := by
  rcases plain with ⟨notBefore, notAfter⟩
  rcases timestamp.isDate with ⟨-, ⟨-, monthFits⟩, ⟨-, dayFits⟩⟩
  rcases timestamp.isTime with ⟨⟨hourFits, minuteFits⟩, ⟨secondFits, nanosecondFits⟩⟩
  have days := daysInMonth_le timestamp.year timestamp.month
  have yearFits : timestamp.year.natAbs < 10 ^ 4 := by
    omega
  have year : (timestamp.year.natAbs : Int) = timestamp.year := by
    omega
  have dash : ∀ value < 100, ∀ rest,
      (expect ['-'] ('-' :: (padded 2 value ++ rest))).bind (exactly 2) = some (value, rest) :=
    fun value fits rest => expect_exactly_padded rfl fits rest
  have colon : ∀ value < 100, ∀ rest,
      (expect [':'] (':' :: (padded 2 value ++ rest))).bind (exactly 2) = some (value, rest) :=
    fun value fits rest => expect_exactly_padded rfl fits rest
  have clock : ∀ value < 100, ∀ rest,
      (expect ['T', 't', ' '] ('T' :: (padded 2 value ++ rest))).bind (exactly 2) =
        some (value, rest) :=
    fun value fits rest => expect_exactly_padded rfl fits rest
  rw [readStrict, write, writeYear, if_pos ⟨notBefore, notAfter⟩,
    exactly_padded (by decide) yearFits]
  simp only [Option.bind_eq_bind, Option.bind_some, dash timestamp.month (by omega),
    dash timestamp.day (by omega), clock timestamp.hour (by omega),
    colon timestamp.minute (by omega), colon timestamp.second (by omega),
    readFraction_writeFraction nanosecondFits, readOffset_writeOffset timestamp.isOffset]
  rw [year, ofParts?_self]

/-- The canonical text of a timestamp with a plain year is read as the timestamp. -/
theorem ofText?_text
    {timestamp : Timestamp}
    (plain : timestamp.HasPlainYear) :
    ofText? timestamp.text = some timestamp := by
  rw [ofText?, text, String.toList_ofList, readStrict_write plain]
  rfl

/-! ## The hyphen after the year -/

theorem mem_of_expect
    {mark : Char}
    {text rest : List Char}
    (found : expect [mark] text = some rest) :
    mark ∈ text := by
  cases text with
  | nil => cases found
  | cons char later =>
      rw [expect] at found
      split_ifs at found with isMark
      have same : char = mark := by
        simpa using isMark
      rw [same]
      exact List.mem_cons_self

theorem takeUpTo_suffix
    (most : Nat)
    (text : List Char) :
    (takeUpTo most text).2 <:+ text := by
  induction most generalizing text with
  | zero => exact List.suffix_rfl
  | succ most ih =>
      cases text with
      | nil => exact List.suffix_rfl
      | cons char later =>
          rw [takeUpTo]
          split
          · exact (ih later).trans (List.suffix_cons char later)
          · exact List.suffix_rfl

theorem exactly_suffix
    {count value : Nat}
    {text rest : List Char}
    (read : exactly count text = some (value, rest)) :
    rest <:+ text := by
  have suffix := takeUpTo_suffix count text
  rw [exactly] at read
  dsimp only at read
  split_ifs at read
  cases read
  exact suffix

theorem upTo_suffix
    {most value : Nat}
    {text rest : List Char}
    (read : upTo most text = some (value, rest)) :
    rest <:+ text := by
  have suffix := takeUpTo_suffix most text
  rw [upTo] at read
  split at read
  · cases read
  · rename_i digits others _ taken
    rw [taken] at suffix
    cases read
    exact suffix

theorem readYear_suffix
    {text rest : List Char}
    {year : Int}
    (read : readYear text = some (year, rest)) :
    rest <:+ text := by
  have trimmed : text.dropWhile isWhiteSpace <:+ text :=
    List.dropWhile_suffix isWhiteSpace
  rw [readYear] at read
  split at read
  · rename_i later isSigned
    rcases Option.map_eq_some_iff.mp read with ⟨⟨value, others⟩, valueRead, same⟩
    cases same
    rw [isSigned] at trimmed
    exact ((upTo_suffix valueRead).trans (List.suffix_cons _ _)).trans trimmed
  · rename_i later isSigned
    rcases Option.map_eq_some_iff.mp read with ⟨⟨value, others⟩, valueRead, same⟩
    cases same
    rw [isSigned] at trimmed
    exact ((upTo_suffix valueRead).trans (List.suffix_cons _ _)).trans trimmed
  · rcases Option.map_eq_some_iff.mp read with ⟨⟨value, others⟩, valueRead, same⟩
    cases same
    exact (upTo_suffix valueRead).trans trimmed

theorem hyphen_of_readStrict
    {text : List Char}
    {timestamp : Timestamp}
    (read : readStrict text = some timestamp) :
    '-' ∈ text := by
  simp only [readStrict, Option.bind_eq_bind, Option.bind_eq_some_iff] at read
  rcases read with ⟨⟨year, afterYear⟩, yearRead, -, ⟨rest, hyphen, -⟩, -⟩
  exact (exactly_suffix yearRead).mem (mem_of_expect hyphen)

theorem hyphen_of_readDateParts
    {text rest : List Char}
    {year : Int}
    {month day : Nat}
    (read : readDateParts text = some (year, month, day, rest)) :
    '-' ∈ text := by
  simp only [readDateParts, Option.bind_eq_bind, Option.bind_eq_some_iff] at read
  rcases read with ⟨⟨year, afterYear⟩, yearRead, -, ⟨rest, hyphen, -⟩, -⟩
  exact (readYear_suffix yearRead).mem (mem_of_expect hyphen)

/-- A text that is read as a timestamp has a hyphen. -/
theorem hyphen_of_ofText?
    {text : String}
    {timestamp : Timestamp}
    (read : ofText? text = some timestamp) :
    '-' ∈ text.toList := by
  rw [ofText?, Option.or_eq_some_iff, Option.or_eq_some_iff] at read
  rcases read with strict | ⟨-, dateTime | ⟨-, date⟩⟩
  · exact hyphen_of_readStrict strict
  · simp only [readDateTime, Option.bind_eq_bind, Option.bind_eq_some_iff] at dateTime
    rcases dateTime with ⟨⟨year, month, day, rest⟩, dateRead, -⟩
    exact hyphen_of_readDateParts dateRead
  · simp only [readDate, Option.bind_eq_bind, Option.bind_eq_some_iff] at date
    rcases date with ⟨⟨year, month, day, rest⟩, dateRead, -⟩
    exact hyphen_of_readDateParts dateRead

end ContractReplay.Timestamp
