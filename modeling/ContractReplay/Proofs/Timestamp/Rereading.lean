import ContractReplay.Proofs.Coercion.ReadBack
import ContractReplay.Proofs.Timestamp.RoundTrip
import Mathlib.Data.List.Induction

/-!
# Which canonical timestamps are read again

The canonical text of a timestamp always spells the offset, so only the strict form can read it;
and the strict form has four digits for the year and no sign.  A timestamp that was read in the
strict form has such a year.  The lenient forms also read years of any number of digits after a
sign: what they read has the offset zero, which is spelled by the letter `Z`, and no lenient form
gets past that letter.
-/

namespace ContractReplay.Timestamp

open Coercion Decimal Text

/-! ## The letter that ends a text in universal time -/

theorem zulu_mem_takeUpTo
    (most : Nat)
    {text : List Char}
    (zulu : 'Z' ∈ text) :
    'Z' ∈ (takeUpTo most text).2 := by
  induction most generalizing text with
  | zero => exact zulu
  | succ most ih =>
      cases text with
      | nil => exact zulu
      | cons char later =>
          rw [takeUpTo]
          split
          · rename_i digit isDigit
            have different : 'Z' ≠ char := by
              rintro rfl
              cases isDigit
            exact ih (List.mem_of_ne_of_mem different zulu)
          · exact zulu

theorem zulu_mem_takeDigits
    {text : List Char}
    (zulu : 'Z' ∈ text) :
    'Z' ∈ (takeDigits text).2 := by
  induction text with
  | nil => exact zulu
  | cons char later ih =>
      rw [takeDigits]
      split
      · rename_i digit isDigit
        have different : 'Z' ≠ char := by
          rintro rfl
          cases isDigit
        exact ih (List.mem_of_ne_of_mem different zulu)
      · exact zulu

theorem zulu_mem_dropWhile
    {text : List Char}
    (zulu : 'Z' ∈ text) :
    'Z' ∈ text.dropWhile isWhiteSpace := by
  induction text with
  | nil => exact zulu
  | cons char later ih =>
      rw [List.dropWhile_cons]
      split_ifs with blank
      · have different : 'Z' ≠ char := by
          rintro rfl
          revert blank
          decide
        exact ih (List.mem_of_ne_of_mem different zulu)
      · exact zulu

theorem zulu_mem_expect
    {allowed text rest : List Char}
    (unallowed : 'Z' ∉ allowed)
    (found : expect allowed text = some rest)
    (zulu : 'Z' ∈ text) :
    'Z' ∈ rest := by
  cases text with
  | nil => cases found
  | cons char later =>
      rw [expect] at found
      split_ifs at found with isAllowed
      cases found
      have different : 'Z' ≠ char := by
        rintro rfl
        exact unallowed (List.contains_iff_mem.mp isAllowed)
      exact List.mem_of_ne_of_mem different zulu

theorem zulu_mem_upTo
    {most value : Nat}
    {text rest : List Char}
    (read : upTo most text = some (value, rest))
    (zulu : 'Z' ∈ text) :
    'Z' ∈ rest := by
  have left := zulu_mem_takeUpTo most zulu
  rw [upTo] at read
  split at read
  · cases read
  · rename_i digits others _ taken
    rw [taken] at left
    cases read
    exact left

theorem zulu_mem_readShort
    {value : Nat}
    {text rest : List Char}
    (read : readShort text = some (value, rest))
    (zulu : 'Z' ∈ text) :
    'Z' ∈ rest :=
  zulu_mem_upTo read (zulu_mem_dropWhile zulu)

theorem zulu_mem_readYear
    {text rest : List Char}
    {year : Int}
    (read : readYear text = some (year, rest))
    (zulu : 'Z' ∈ text) :
    'Z' ∈ rest := by
  have left := zulu_mem_dropWhile zulu
  rw [readYear] at read
  split at read
  · rename_i later isSigned
    rcases Option.map_eq_some_iff.mp read with ⟨⟨value, others⟩, valueRead, same⟩
    cases same
    rw [isSigned] at left
    exact zulu_mem_upTo valueRead (List.mem_of_ne_of_mem (by decide) left)
  · rename_i later isSigned
    rcases Option.map_eq_some_iff.mp read with ⟨⟨value, others⟩, valueRead, same⟩
    cases same
    rw [isSigned] at left
    exact zulu_mem_upTo valueRead (List.mem_of_ne_of_mem (by decide) left)
  · rcases Option.map_eq_some_iff.mp read with ⟨⟨value, others⟩, valueRead, same⟩
    cases same
    exact zulu_mem_upTo valueRead left

theorem zulu_mem_readDateParts
    {text rest : List Char}
    {year : Int}
    {month day : Nat}
    (read : readDateParts text = some (year, month, day, rest))
    (zulu : 'Z' ∈ text) :
    'Z' ∈ rest := by
  simp only [readDateParts, Option.bind_eq_bind, Option.bind_eq_some_iff] at read
  rcases read with
    ⟨⟨year, afterYear⟩, yearRead, ⟨month, afterMonth⟩, ⟨beforeMonth, hyphen, monthRead⟩,
      ⟨day, afterDay⟩, ⟨beforeDay, secondHyphen, dayRead⟩, same⟩
  cases same
  have inYear := zulu_mem_readYear yearRead zulu
  have inMonth := zulu_mem_readShort monthRead (zulu_mem_expect (by decide) hyphen inYear)
  exact zulu_mem_readShort dayRead (zulu_mem_expect (by decide) secondHyphen inMonth)

theorem zulu_mem_readFraction
    {text rest : List Char}
    {nanosecond : Nat}
    (read : readFraction text = some (nanosecond, rest))
    (zulu : 'Z' ∈ text) :
    'Z' ∈ rest := by
  unfold readFraction at read
  split at read
  · rename_i later
    have left := zulu_mem_takeDigits (List.mem_of_ne_of_mem (by decide) zulu)
    split at read
    · cases read
    · rename_i digits others _ taken
      rw [taken] at left
      cases read
      exact left
  · cases read
    exact zulu

/-! ## What the forms read -/

theorem of_ofParts?
    {year offset : Int}
    {month day hour minute second nanosecond : Nat}
    {timestamp : Timestamp}
    (named :
      ofParts? year month day hour minute second nanosecond offset = some timestamp) :
    timestamp.year = year ∧ timestamp.offset = offset := by
  rw [ofParts?] at named
  split_ifs at named
  cases named
  exact ⟨rfl, rfl⟩

/-- The lenient form with a time stops at the letter `Z`, and reads the offset zero. -/
theorem universal_of_readDateTime
    {text : List Char}
    {timestamp : Timestamp}
    (read : readDateTime text = some timestamp) :
    'Z' ∉ text ∧ timestamp.offset = 0 := by
  simp only [readDateTime, Option.bind_eq_bind, Option.bind_none, Option.bind_eq_some_iff] at read
  rcases read with
    ⟨⟨year, month, day, afterDate⟩, dateRead, ⟨hour, afterHour⟩, ⟨beforeHour, mark, hourRead⟩,
      ⟨minute, afterMinute⟩, ⟨beforeMinute, colon, minuteRead⟩, ⟨second, afterSecond⟩,
      ⟨beforeSecond, secondColon, secondRead⟩, ⟨nanosecond, rest⟩, fractionRead, named⟩
  split_ifs at named with more
  refine ⟨fun zulu => more ?_, (of_ofParts? named).2⟩
  have inDate := zulu_mem_readDateParts dateRead zulu
  have inHour := zulu_mem_readShort hourRead (zulu_mem_expect (by decide) mark inDate)
  have inMinute := zulu_mem_readShort minuteRead (zulu_mem_expect (by decide) colon inHour)
  have inSecond :=
    zulu_mem_readShort secondRead (zulu_mem_expect (by decide) secondColon inMinute)
  exact List.ne_nil_of_mem (zulu_mem_readFraction fractionRead inSecond)

/-- The bare date stops at the letter `Z`, and reads the offset zero. -/
theorem universal_of_readDate
    {text : List Char}
    {timestamp : Timestamp}
    (read : readDate text = some timestamp) :
    'Z' ∉ text ∧ timestamp.offset = 0 := by
  simp only [readDate, Option.bind_eq_bind, Option.bind_none, Option.bind_eq_some_iff] at read
  rcases read with ⟨⟨year, month, day, rest⟩, dateRead, named⟩
  split_ifs at named with more
  exact
    ⟨fun zulu => more (List.ne_nil_of_mem (zulu_mem_readDateParts dateRead zulu)),
      (of_ofParts? named).2⟩

theorem ofDigits_lt
    {digits : List Nat}
    (small : ∀ digit ∈ digits, digit < 10) :
    ofDigits digits < 10 ^ digits.length := by
  induction digits using List.reverseRecOn with
  | nil => exact Nat.one_pos
  | append_singleton earlier digit ih =>
      have earlierSmall := ih fun other member => small other (List.mem_append_left _ member)
      have digitSmall := small digit (by simp)
      rw [ofDigits, List.foldl_append, List.foldl_cons, List.foldl_nil, ← ofDigits,
        List.length_append, List.length_singleton, Nat.pow_succ]
      omega

theorem digitValue?_lt
    {char : Char}
    {digit : Nat}
    (isDigit : digitValue? char = some digit) :
    digit < 10 := by
  rw [digitValue?] at isDigit
  split_ifs at isDigit with inRange
  cases isDigit
  have upper : char.toNat ≤ 57 := (Char.isDigit_iff_toNat.mp inRange).2
  show char.toNat - 48 < 10
  omega

theorem takeUpTo_lt
    (most : Nat)
    (text : List Char) :
    ∀ digit ∈ (takeUpTo most text).1, digit < 10 := by
  induction most generalizing text with
  | zero => exact List.forall_mem_nil _
  | succ most ih =>
      cases text with
      | nil => exact List.forall_mem_nil _
      | cons char later =>
          rw [takeUpTo]
          split
          · rename_i digit isDigit
            exact List.forall_mem_cons.mpr ⟨digitValue?_lt isDigit, ih later⟩
          · exact List.forall_mem_nil _

theorem exactly_lt
    {count value : Nat}
    {text rest : List Char}
    (read : exactly count text = some (value, rest)) :
    value < 10 ^ count := by
  have small := ofDigits_lt (takeUpTo_lt count text)
  rw [exactly] at read
  dsimp only at read
  split_ifs at read with full
  cases read
  rwa [full] at small

/-- What the strict form reads has a year of four digits. -/
theorem hasPlainYear_of_readStrict
    {text : List Char}
    {timestamp : Timestamp}
    (read : readStrict text = some timestamp) :
    timestamp.HasPlainYear := by
  simp only [readStrict, Option.bind_eq_bind, Option.bind_eq_some_iff] at read
  rcases read with
    ⟨⟨year, afterYear⟩, yearRead, _, _, _, _, _, _, _, _, _, _, _, _, _, _, named⟩
  have isYear := (of_ofParts? named).1
  have fits := exactly_lt yearRead
  rw [HasPlainYear, isYear]
  dsimp only
  omega

/-- A timestamp that was read has a year of four digits or the offset zero. -/
theorem plain_or_universal_of_ofText?
    {text : String}
    {timestamp : Timestamp}
    (read : ofText? text = some timestamp) :
    timestamp.HasPlainYear ∨ timestamp.offset = 0 := by
  rw [ofText?, Option.or_eq_some_iff, Option.or_eq_some_iff] at read
  rcases read with strict | ⟨-, dateTime | ⟨-, date⟩⟩
  · exact .inl (hasPlainYear_of_readStrict strict)
  · exact .inr (universal_of_readDateTime dateTime).2
  · exact .inr (universal_of_readDate date).2

/-! ## Years that are written with a sign -/

/-- The strict form reads no year with a sign. -/
theorem readStrict_write_of_not_plain
    {timestamp : Timestamp}
    (signed : ¬ timestamp.HasPlainYear) :
    readStrict timestamp.write = none := by
  have noDigits : ∀ rest,
      exactly 4 ((if timestamp.year < 0 then '-' else '+') :: rest) = none := by
    intro rest
    split_ifs <;> rfl
  rw [HasPlainYear] at signed
  rw [readStrict, write, writeYear, if_neg signed, List.cons_append, noDigits]
  rfl

theorem zulu_mem_write
    {timestamp : Timestamp}
    (universal : timestamp.offset = 0) :
    'Z' ∈ timestamp.write := by
  simp [write, writeOffset, universal]

/-- No form reads the canonical text in universal time of a year with a sign. -/
theorem ofText?_text_of_not_plain
    {timestamp : Timestamp}
    (signed : ¬ timestamp.HasPlainYear)
    (universal : timestamp.offset = 0) :
    ofText? timestamp.text = none := by
  have zulu := zulu_mem_write universal
  have noDateTime : readDateTime timestamp.write = none := by
    by_contra isRead
    rcases Option.ne_none_iff_exists'.mp isRead with ⟨found, read⟩
    exact (universal_of_readDateTime read).1 zulu
  have noDate : readDate timestamp.write = none := by
    by_contra isRead
    rcases Option.ne_none_iff_exists'.mp isRead with ⟨found, read⟩
    exact (universal_of_readDate read).1 zulu
  rw [ofText?, text, String.toList_ofList, readStrict_write_of_not_plain signed, noDateTime,
    noDate]
  rfl

/-! ## Reading again -/

theorem coerceAt_timestamp_of_unreadable
    (catalog : Catalog)
    (path : Path)
    {text : String}
    (unreadable : ofText? text = none) :
    coerceAt catalog path (.scalar .timestamp) (.string text) =
      .error (.coercion path Scalar.timestamp.name (.notTimestamp text)) := by
  simp [coerceAt_eq, head, coerceHead, coerceScalar, unreadable]

/-- What was read from a text is read again where its year has four digits and no sign. -/
theorem ofText?_text_of_read
    {text : String}
    {timestamp : Timestamp}
    (read : ofText? text = some timestamp) :
    ofText? timestamp.text = if timestamp.HasPlainYear then some timestamp else none := by
  split_ifs with plain
  · exact ofText?_text plain
  · rcases plain_or_universal_of_ofText? read with isPlain | universal
    · exact absurd isPlain plain
    · exact ofText?_text_of_not_plain plain universal

/--
A timestamp that was read from a text is read again from its canonical text, with all its parts,
if its year has four digits and no sign; otherwise its canonical text is no timestamp at all.
What the strict form reads always has such a year.  The same goes for coercion: the wire form
gives the timestamp again or is refused.
-/
theorem canonical_text_read_again
    {text : String}
    {timestamp : Timestamp}
    (read : ofText? text = some timestamp)
    (catalog : Catalog)
    (path : Path) :
    ofText? timestamp.text = (if timestamp.HasPlainYear then some timestamp else none) ∧
      coerceAt catalog path (.scalar .timestamp) (Typed.timestamp timestamp).toWire =
        (if timestamp.HasPlainYear then .ok (.timestamp timestamp)
          else .error (.coercion path Scalar.timestamp.name (.notTimestamp timestamp.text))) ∧
        ((readStrict text.toList).isSome = true → timestamp.HasPlainYear) := by
  have again := ofText?_text_of_read read
  refine ⟨again, ?_, ?_⟩
  · split_ifs with plain
    · exact coerceAt_toWire_timestamp plain
    · rw [if_neg plain] at again
      exact coerceAt_timestamp_of_unreadable catalog path again
  · intro isStrict
    rcases Option.isSome_iff_exists.mp isStrict with ⟨found, strict⟩
    rw [ofText?, strict, Option.some_or] at read
    cases read
    exact hasPlainYear_of_readStrict strict

/-- A leap second with milliseconds on a clock five and a half hours ahead. -/
def leapSecond : Timestamp :=
  ⟨2016, 12, 31, 23, 59, 60, 250000000, 330, by decide, by decide, by decide⟩

theorem canonical_text_read_again_leapSecond :
    ofText? "2016-12-31t23:59:60.25+05:30" = some leapSecond ∧
      leapSecond.text = "2016-12-31T23:59:60.250+05:30" ∧
        ofText? leapSecond.text = some leapSecond := by
  have read : ofText? "2016-12-31t23:59:60.25+05:30" = some leapSecond := by
    decide +kernel
  have again := canonical_text_read_again read .empty rootPath
  rw [if_pos (by decide)] at again
  exact ⟨read, by decide +kernel, again.1⟩

/-- A bare date of a year with a sign is read, but its canonical text is not. -/
theorem not_forall_canonical_text_read_again :
    ¬ ∀ (text : String) (timestamp : Timestamp),
      ofText? text = some timestamp → ofText? timestamp.text = some timestamp := by
  intro again
  have isRead : (ofText? "+10000-01-01").isSome = true := by
    decide +kernel
  have unread :
      ((ofText? "+10000-01-01").bind fun timestamp => ofText? timestamp.text) = none := by
    decide +kernel
  rcases Option.isSome_iff_exists.mp isRead with ⟨timestamp, read⟩
  rw [read, Option.bind_some, again _ _ read] at unread
  cases unread

end ContractReplay.Timestamp
