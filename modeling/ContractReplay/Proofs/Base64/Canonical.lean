import ContractReplay.Base64
import Mathlib.Tactic.Common

/-!
# Bytes have one Base64 text

A text that is read consists of the symbols of whole groups, the symbols of the
last group and its padding, and no bit of the last symbol is lost.  Such a text
is the written form of the bytes that it is read as, and every list of bytes has
such a text.  Hence reading accepts the written forms and nothing else.
-/

namespace ContractReplay.Base64

/-! ## Symbols and their bytes -/

/-- The byte of the symbol of a number below 64. -/
def symbolByte (value : Nat) : UInt8 :=
  (symbol value).toUInt8

theorem symbolValue?_symbolByte :
    ∀ value < 64,
      symbolValue? (symbolByte value) = some value := by
  decide

theorem symbol_ascii :
    ∀ value < 64,
      (symbol value).toNat < 128 := by
  decide

section Table

set_option maxRecDepth 8192

/-- The table of symbols read backwards, byte by byte. -/
private theorem symbolByte_of_table :
    ∀ code < 256,
      (symbolValue? (UInt8.ofNat code)).all fun value =>
        decide (value < 64 ∧ symbolByte value = UInt8.ofNat code) := by
  decide

end Table

/-- A byte stands for a number exactly when it is the byte of the symbol of that number. -/
theorem symbolValue?_eq_some_iff
    {byte : UInt8}
    {value : Nat} :
    symbolValue? byte = some value ↔
      value < 64 ∧ symbolByte value = byte := by
  constructor
  · intro read
    have table := symbolByte_of_table byte.toNat byte.toNat_lt
    rw [UInt8.ofNat_toNat, read] at table
    simpa using table
  · rintro ⟨small, rfl⟩
    exact symbolValue?_symbolByte value small

theorem symbolByte_ne_padding
    {value : Nat}
    (small : value < 64) :
    symbolByte value ≠ padding := by
  intro isPadding
  have read := symbolValue?_symbolByte value small
  rw [isPadding] at read
  cases read

/-! ## Texts as bytes -/

private theorem toList_loop
    (bytes : ByteArray)
    (index : Nat)
    (reversed : List UInt8) :
    ByteArray.toList.loop bytes index reversed =
      reversed.reverse ++ bytes.data.toList.drop index := by
  fun_induction ByteArray.toList.loop bytes index reversed with
  | case1 index reversed inside ih =>
      have listed : index < bytes.data.toList.length := by
        simpa using inside
      have item : bytes.get! index = bytes.data.toList[index] := by
        show bytes.data[index]! = _
        rw [getElem!_pos bytes.data index (by simpa using listed)]
        simp
      rw [ih, List.drop_eq_getElem_cons listed, item]
      simp
  | case2 index reversed outside =>
      have nothing : bytes.data.toList.drop index = [] :=
        List.drop_eq_nil_of_le (by simpa using Nat.le_of_not_lt outside)
      rw [nothing, List.append_nil]

theorem toList_eq_data
    (bytes : ByteArray) :
    bytes.toList = bytes.data.toList := by
  rw [ByteArray.toList, toList_loop]
  simp

/-- The bytes of a text of ASCII characters are the bytes of its characters. -/
theorem toUTF8_ofList_ascii
    (chars : List Char)
    (ascii : ∀ char ∈ chars, char.toNat < 128) :
    (String.ofList chars).toUTF8.toList = chars.map Char.toUInt8 := by
  have single :
      ∀ char ∈ chars, String.utf8EncodeChar char = [char.toUInt8] := by
    intro char member
    apply String.utf8EncodeChar_eq_singleton
    rw [Char.utf8Size_eq_one_iff, UInt32.le_iff_toNat_le]
    exact Nat.le_of_lt_succ (ascii char member)
  rw [String.toUTF8_eq_toByteArray, String.toByteArray_ofList, toList_eq_data,
    List.utf8Encode, List.toList_data_toByteArray]
  induction chars with
  | nil => rfl
  | cons char later ih =>
      rw [List.flatMap_cons, single char (by simp), List.map_cons,
        ih (fun other member => ascii other (by simp [member]))
          (fun other member => single other (by simp [member]))]
      rfl

/-- A text is determined by its bytes. -/
theorem eq_of_bytes_eq
    {left right : String}
    (equal : left.toUTF8.toList = right.toUTF8.toList) :
    left = right := by
  rw [toList_eq_data, toList_eq_data] at equal
  apply String.toByteArray_inj.mp
  apply ByteArray.ext
  exact Array.toList_inj.mp equal

/-! ## Reading runs of symbols -/

/-- Some bytes are read as symbols exactly when they are the bytes of symbols. -/
theorem symbolValues_eq_ok_iff
    {offset : Nat}
    {bytes : List UInt8}
    {values : List Nat} :
    symbolValues offset bytes = .ok values ↔
      (∀ value ∈ values, value < 64) ∧ values.map symbolByte = bytes := by
  induction bytes generalizing offset values with
  | nil =>
      simp only [symbolValues, Except.ok.injEq, List.map_eq_nil_iff]
      constructor
      · rintro rfl
        exact ⟨by simp, rfl⟩
      · rintro ⟨-, rfl⟩
        rfl
  | cons byte later ih =>
      constructor
      · intro read
        rw [symbolValues] at read
        split at read
        · cases read
        · rename_i first firstRead
          rcases symbolValue?_eq_some_iff.mp firstRead with ⟨small, isByte⟩
          cases laterRead : symbolValues (offset + 1) later with
          | error failure =>
              rw [laterRead] at read
              cases read
          | ok others =>
              rw [laterRead] at read
              cases read
              rcases ih.mp laterRead with ⟨othersSmall, areBytes⟩
              constructor
              · intro value member
                rcases List.mem_cons.mp member with rfl | member
                · exact small
                · exact othersSmall value member
              · rw [List.map_cons, isByte, areBytes]
      · rintro ⟨small, areBytes⟩
        cases values with
        | nil => cases areBytes
        | cons first others =>
            rw [List.map_cons, List.cons.injEq] at areBytes
            rcases areBytes with ⟨rfl, areBytes⟩
            have laterRead : symbolValues (offset + 1) later = .ok others :=
              ih.mpr ⟨fun value member => small value (by simp [member]), areBytes⟩
            rw [symbolValues, symbolValue?_symbolByte first (small first (by simp))]
            show (symbolValues (offset + 1) later).map (first :: ·) = _
            rw [laterRead]
            rfl

/-- The bytes of a last group: its symbols, and then its padding. -/
def LastGroup.bytes (group : LastGroup) : List UInt8 :=
  group.values.map symbolByte ++ List.replicate group.padded padding

/-- What starts with padding is a last group exactly when it is padding from the third byte on. -/
theorem readLastGroup_padding_iff
    {offset index : Nat}
    {later : List UInt8}
    {group : LastGroup} :
    readLastGroup offset index (padding :: later) = .ok group ↔
      (∀ value ∈ group.values, value < 64) ∧ group.bytes = padding :: later ∧
        (group.padded = 0 ∨ 2 ≤ index + group.values.length) := by
  rw [readLastGroup, if_pos rfl]
  constructor
  · intro read
    split at read
    · cases read
    · split at read
      · rename_i placed allPadding
        cases read
        have isReplicate : later = List.replicate later.length padding :=
          List.eq_replicate_iff.mpr ⟨rfl, by simpa using allPadding⟩
        refine ⟨by simp, ?_, Or.inr (by omega)⟩
        rw [LastGroup.bytes, List.map_nil, List.nil_append, List.replicate_succ, ← isReplicate]
      · cases read
  · rintro ⟨small, areBytes, placed⟩
    rcases group with ⟨values, padded⟩
    cases values with
    | cons first others =>
        have first_is := (List.cons.inj areBytes).1
        exact absurd first_is (symbolByte_ne_padding (small first (by simp)))
    | nil =>
        cases padded with
        | zero => cases areBytes
        | succ padded =>
            have isReplicate : List.replicate padded padding = later :=
              (List.cons.inj areBytes).2
            subst isReplicate
            have late : ¬ index < 2 := by
              simp only [List.length_nil] at placed
              omega
            rw [if_neg late, if_pos (by simp)]
            simp

/--
Some bytes are read as a last group exactly when they are the bytes of the group and
no padding stands before the third byte.
-/
theorem readLastGroup_eq_ok_iff
    {offset index : Nat}
    {bytes : List UInt8}
    {group : LastGroup} :
    readLastGroup offset index bytes = .ok group ↔
      (∀ value ∈ group.values, value < 64) ∧ group.bytes = bytes ∧
        (group.padded = 0 ∨ 2 ≤ index + group.values.length) := by
  induction bytes generalizing index group with
  | nil =>
      constructor
      · intro read
        cases read
        exact ⟨by simp, rfl, Or.inl rfl⟩
      · rintro ⟨-, areBytes, -⟩
        rcases group with ⟨values, padded⟩
        simp only [LastGroup.bytes, List.append_eq_nil_iff, List.map_eq_nil_iff,
          List.replicate_eq_nil_iff] at areBytes
        rcases areBytes with ⟨rfl, rfl⟩
        rfl
  | cons byte later ih =>
      by_cases isPadding : byte = padding
      · subst isPadding
        exact readLastGroup_padding_iff
      · rw [readLastGroup, if_neg isPadding]
        constructor
        · intro read
          split at read
          · cases read
          · rename_i first firstRead
            rcases symbolValue?_eq_some_iff.mp firstRead with ⟨small, isByte⟩
            cases laterRead : readLastGroup offset (index + 1) later with
            | error failure =>
                rw [laterRead] at read
                cases read
            | ok rest =>
                rw [laterRead] at read
                cases read
                rcases ih.mp laterRead with ⟨restSmall, areBytes, placed⟩
                refine ⟨?_, ?_, ?_⟩
                · intro value member
                  rcases List.mem_cons.mp member with rfl | member
                  · exact small
                  · exact restSmall value member
                · rw [LastGroup.bytes, List.map_cons, List.cons_append, isByte, ← areBytes]
                  rfl
                · simp only [List.length_cons]
                  omega
        · rintro ⟨small, areBytes, placed⟩
          rcases group with ⟨values, padded⟩
          cases values with
          | nil =>
              cases padded with
              | zero => cases areBytes
              | succ padded =>
                  exact absurd (List.cons.inj areBytes).1.symm isPadding
          | cons first others =>
              rw [LastGroup.bytes, List.map_cons, List.cons_append, List.cons.injEq] at areBytes
              rcases areBytes with ⟨rfl, areBytes⟩
              have laterRead : readLastGroup offset (index + 1) later = .ok ⟨others, padded⟩ := by
                apply ih.mpr
                refine ⟨fun value member => small value (by simp [member]), areBytes, ?_⟩
                change padded = 0 ∨ 2 ≤ index + (others.length + 1) at placed
                show padded = 0 ∨ 2 ≤ index + 1 + others.length
                omega
              rw [symbolValue?_symbolByte first (small first (by simp))]
              show (readLastGroup offset (index + 1) later).map _ = _
              rw [laterRead]
              rfl

/-! ## Texts as groups -/

/-- The groups of a text: the values of the symbols of the whole groups, and the last group. -/
structure Groups where
  whole : List Nat
  last : LastGroup

namespace Groups

/-- The bytes of the text. -/
def text (groups : Groups) : List UInt8 :=
  groups.whole.map symbolByte ++ groups.last.bytes

/-- The bytes that the text stands for. -/
def bytes (groups : Groups) : List UInt8 :=
  groupBytes groups.whole ++ (lastBytes groups.last.values).1

/-- Groups of four, of which the last may be padded after two symbols and loses no bit. -/
structure Canonical (groups : Groups) : Prop where
  whole_small : ∀ value ∈ groups.whole, value < 64
  last_small : ∀ value ∈ groups.last.values, value < 64
  whole_length : groups.whole.length % 4 = 0
  last_length : groups.last.values.length + groups.last.padded = 4
  last_symbols : 2 ≤ groups.last.values.length
  last_exact : (lastBytes groups.last.values).2 = true

end Groups

theorem LastGroup.bytes_length
    (group : LastGroup) :
    group.bytes.length = group.values.length + group.padded := by
  simp [LastGroup.bytes]

/-- What a text that is read tells of its parts. -/
theorem decodeBytes_parts
    {text bytes : List UInt8}
    (nonempty : text ≠ [])
    (read : decodeBytes text = .ok bytes) :
    ∃ values group,
      symbolValues 0 (text.take (lastGroupOffset text.length)) = .ok values ∧
      readLastGroup (lastGroupOffset text.length) 0 (text.drop (lastGroupOffset text.length)) =
        .ok group ∧
      2 ≤ group.values.length ∧
      (group.values.length + group.padded) % 4 = 0 ∧
      (lastBytes group.values).2 = true ∧
      groupBytes values ++ (lastBytes group.values).1 = bytes := by
  have hasBytes : text.isEmpty = false := by
    simpa using nonempty
  rw [decodeBytes] at read
  split at read
  · cases read
  · simp only [bind, Except.bind] at read
    split at read
    · cases read
    · rename_i values valuesRead
      split at read
      · cases read
      · rename_i group groupRead
        refine ⟨values, group, valuesRead, groupRead, ?_⟩
        simp only [hasBytes, Bool.not_false, Bool.true_and, decide_eq_true_eq, throw,
          throwThe, MonadExceptOf.throw, pure, Except.pure, ne_eq] at read
        split_ifs at read with short unpadded inexact
        refine ⟨by omega, unpadded, by simpa using inexact, ?_⟩
        cases read
        rfl

theorem lastGroupOffset_of_dvd
    {length : Nat}
    (groups : length % 4 = 0) :
    lastGroupOffset length = length - 4 := by
  rw [lastGroupOffset, if_pos groups]

theorem lastGroupOffset_of_not_dvd
    {length : Nat}
    (ragged : length % 4 ≠ 0) :
    lastGroupOffset length = length - length % 4 := by
  rw [lastGroupOffset, if_neg ragged]

/-- A text that is read consists of the groups of the bytes that it is read as. -/
theorem groups_of_decodeBytes
    {text bytes : List UInt8}
    (nonempty : text ≠ [])
    (read : decodeBytes text = .ok bytes) :
    ∃ groups : Groups,
      groups.Canonical ∧ groups.text = text ∧ groups.bytes = bytes := by
  rcases decodeBytes_parts nonempty read with
    ⟨values, group, valuesRead, groupRead, symbols, padded, exact, areBytes⟩
  rcases symbolValues_eq_ok_iff.mp valuesRead with ⟨wholeSmall, wholeBytes⟩
  rcases readLastGroup_eq_ok_iff.mp groupRead with ⟨lastSmall, lastIs, -⟩
  have positive : 0 < text.length :=
    List.length_pos_iff.mpr nonempty
  have lengths := congrArg List.length lastIs
  rw [LastGroup.bytes_length, List.length_drop] at lengths
  have wholeLength := congrArg List.length wholeBytes
  rw [List.length_map, List.length_take] at wholeLength
  -- A ragged text would leave one to three bytes for the last group.
  have groupsOnly : text.length % 4 = 0 := by
    by_contra ragged
    rw [lastGroupOffset_of_not_dvd ragged] at lengths
    omega
  rw [lastGroupOffset_of_dvd groupsOnly] at lengths wholeLength
  refine ⟨⟨values, group⟩, ?_, ?_, areBytes⟩
  · exact
      { whole_small := wholeSmall
        last_small := lastSmall
        whole_length := by
          show values.length % 4 = 0
          omega
        last_length := by
          show group.values.length + group.padded = 4
          omega
        last_symbols := symbols
        last_exact := exact }
  · show values.map symbolByte ++ group.bytes = text
    rw [wholeBytes, lastIs, List.take_append_drop]

/-- The text of groups is read as their bytes. -/
theorem decodeBytes_groups
    {groups : Groups}
    (canonical : groups.Canonical) :
    decodeBytes groups.text = .ok groups.bytes := by
  have lastLength : groups.last.bytes.length = 4 := by
    rw [LastGroup.bytes_length, canonical.last_length]
  have length : groups.text.length = groups.whole.length + 4 := by
    rw [Groups.text, List.length_append, List.length_map, lastLength]
  have wholeLength := canonical.whole_length
  have offset : lastGroupOffset groups.text.length = groups.whole.length := by
    rw [lastGroupOffset_of_dvd (by omega)]
    omega
  have wholeRead :
      symbolValues 0 (groups.text.take groups.whole.length) = .ok groups.whole := by
    rw [symbolValues_eq_ok_iff, Groups.text, List.take_left' (by simp)]
    exact ⟨canonical.whole_small, rfl⟩
  have lastRead :
      readLastGroup groups.whole.length 0 (groups.text.drop groups.whole.length) =
        .ok groups.last := by
    rw [readLastGroup_eq_ok_iff, Groups.text, List.drop_left' (by simp)]
    have symbols := canonical.last_symbols
    exact ⟨canonical.last_small, rfl, Or.inr (by omega)⟩
  have noStray : strayLastByte? groups.text = none := by
    rw [strayLastByte?, if_neg (by omega)]
  have enough : ¬ groups.last.values.length < 2 := by
    have symbols := canonical.last_symbols
    omega
  rw [decodeBytes, noStray]
  simp only [offset, wholeRead, lastRead, bind, Except.bind, canonical.last_length,
    canonical.last_exact, enough]
  simp [Groups.bytes, pure, Except.pure]

/-! ## Writing groups -/

/-- The bytes of a whole group are written as its symbols. -/
theorem encodeBytes_group
    {first second third fourth : Nat}
    (firstSmall : first < 64)
    (secondSmall : second < 64)
    (thirdSmall : third < 64)
    (fourthSmall : fourth < 64)
    (values : List Nat)
    (later : List UInt8) :
    encodeBytes (groupBytes (first :: second :: third :: fourth :: values) ++ later) =
      symbol first :: symbol second :: symbol third :: symbol fourth ::
        encodeBytes (groupBytes values ++ later) := by
  have bits :
      (((first * 64 + second) * 64 + third) * 64 + fourth) / 65536 % 256 * 65536 +
          (((first * 64 + second) * 64 + third) * 64 + fourth) / 256 % 256 * 256 +
          (((first * 64 + second) * 64 + third) * 64 + fourth) % 256 =
        ((first * 64 + second) * 64 + third) * 64 + fourth := by
    omega
  have firstIs :
      (((first * 64 + second) * 64 + third) * 64 + fourth) / 262144 = first := by
    omega
  have secondIs :
      (((first * 64 + second) * 64 + third) * 64 + fourth) / 4096 % 64 = second := by
    omega
  have thirdIs :
      (((first * 64 + second) * 64 + third) * 64 + fourth) / 64 % 64 = third := by
    omega
  have fourthIs :
      (((first * 64 + second) * 64 + third) * 64 + fourth) % 64 = fourth := by
    omega
  simp only [groupBytes, List.cons_append, encodeBytes, UInt8.toNat_ofNat', Nat.reducePow,
    bits, firstIs, secondIs, thirdIs, fourthIs]

theorem encodeBytes_groups
    {values : List Nat}
    (small : ∀ value ∈ values, value < 64)
    (groups : values.length % 4 = 0)
    (later : List UInt8) :
    encodeBytes (groupBytes values ++ later) = values.map symbol ++ encodeBytes later := by
  fun_induction groupBytes values with
  | case1 first second third fourth values bits ih =>
      have laterSmall : ∀ value ∈ values, value < 64 :=
        fun value member => small value (by simp [member])
      have laterGroups : values.length % 4 = 0 := by
        simp only [List.length_cons] at groups
        omega
      have written := encodeBytes_group (small first (by simp)) (small second (by simp))
        (small third (by simp)) (small fourth (by simp)) values later
      rw [groupBytes] at written
      rw [written, ih laterSmall laterGroups]
      rfl
  | case2 values ragged =>
      rcases values with _ | ⟨first, _ | ⟨second, _ | ⟨third, _ | ⟨fourth, values⟩⟩⟩⟩
      · rfl
      · simp at groups
      · simp at groups
      · simp at groups
      · exact (ragged first second third fourth values rfl).elim

/-- The bytes of a last group are written as its symbols and its padding. -/
theorem encodeBytes_lastBytes
    {values : List Nat}
    {padded : Nat}
    (small : ∀ value ∈ values, value < 64)
    (length : values.length + padded = 4)
    (symbols : 2 ≤ values.length)
    (exact : (lastBytes values).2 = true) :
    encodeBytes (lastBytes values).1 = values.map symbol ++ List.replicate padded '=' := by
  rcases values with _ | ⟨first, _ | ⟨second, _ | ⟨third, _ | ⟨fourth, values⟩⟩⟩⟩
  · simp at symbols
  · simp at symbols
  · obtain rfl : padded = 2 := by
      simp only [List.length_cons, List.length_nil] at length
      omega
    have firstSmall := small first (by simp)
    have secondSmall := small second (by simp)
    have noneLost : (first * 64 + second) % 16 = 0 := by
      simpa [lastBytes] using exact
    have firstIs :
        (first * 64 + second) / 16 % 256 * 65536 / 262144 = first := by
      omega
    have secondIs :
        (first * 64 + second) / 16 % 256 * 65536 / 4096 % 64 = second := by
      omega
    simp only [lastBytes, encodeBytes, UInt8.toNat_ofNat', Nat.reducePow, firstIs, secondIs]
    rfl
  · obtain rfl : padded = 1 := by
      simp only [List.length_cons, List.length_nil] at length
      omega
    have firstSmall := small first (by simp)
    have secondSmall := small second (by simp)
    have thirdSmall := small third (by simp)
    have noneLost : ((first * 64 + second) * 64 + third) % 4 = 0 := by
      simpa [lastBytes] using exact
    have bits :
        ((first * 64 + second) * 64 + third) / 1024 % 256 * 65536 +
            ((first * 64 + second) * 64 + third) / 4 % 256 * 256 =
          ((first * 64 + second) * 64 + third) * 64 := by
      omega
    have firstIs :
        ((first * 64 + second) * 64 + third) * 64 / 262144 = first := by
      omega
    have secondIs :
        ((first * 64 + second) * 64 + third) * 64 / 4096 % 64 = second := by
      omega
    have thirdIs :
        ((first * 64 + second) * 64 + third) * 64 / 64 % 64 = third := by
      omega
    simp only [lastBytes, encodeBytes, UInt8.toNat_ofNat', Nat.reducePow, bits, firstIs,
      secondIs, thirdIs]
    rfl
  · obtain ⟨rfl, rfl⟩ : values = [] ∧ padded = 0 := by
      simp only [List.length_cons] at length
      exact ⟨List.length_eq_zero_iff.mp (by omega), by omega⟩
    have written := encodeBytes_groups small (by simp) []
    rw [List.append_nil] at written
    rw [lastBytes, written]
    rfl
    all_goals simp

/-- The bytes of groups are written as the text of the groups. -/
theorem encodeBytes_bytes
    {groups : Groups}
    (canonical : groups.Canonical) :
    (encodeBytes groups.bytes).map Char.toUInt8 = groups.text := by
  rw [Groups.bytes, encodeBytes_groups canonical.whole_small canonical.whole_length,
    encodeBytes_lastBytes canonical.last_small canonical.last_length canonical.last_symbols
      canonical.last_exact]
  simp only [List.map_append, List.map_map, List.map_replicate]
  rfl

/-! ## The groups of bytes -/

theorem ofNat_eq_of_toNat
    (byte : UInt8)
    {value : Nat}
    (equal : value % 256 = byte.toNat) :
    UInt8.ofNat value = byte := by
  apply UInt8.toNat_inj.mp
  rw [UInt8.toNat_ofNat', ← equal]

/-- The last group of one byte. -/
def lastOfOne (first : UInt8) : LastGroup :=
  ⟨[first.toNat / 4, first.toNat % 4 * 16], 2⟩

/-- The last group of two bytes. -/
def lastOfTwo (first second : UInt8) : LastGroup :=
  ⟨[first.toNat / 4, first.toNat % 4 * 16 + second.toNat / 16, second.toNat % 16 * 4], 1⟩

/-- The values of the group of three bytes. -/
def groupValues (first second third : UInt8) : List Nat :=
  [first.toNat / 4, first.toNat % 4 * 16 + second.toNat / 16,
    second.toNat % 16 * 4 + third.toNat / 64, third.toNat % 64]

theorem groupValues_small
    (first second third : UInt8) :
    ∀ value ∈ groupValues first second third, value < 64 := by
  have firstSmall := first.toNat_lt
  have secondSmall := second.toNat_lt
  have thirdSmall := third.toNat_lt
  simp only [groupValues, List.mem_cons, List.not_mem_nil, or_false]
  rintro value (rfl | rfl | rfl | rfl) <;> omega

theorem groupBytes_groupValues
    (first second third : UInt8)
    (values : List Nat) :
    groupBytes (groupValues first second third ++ values) =
      first :: second :: third :: groupBytes values := by
  have firstSmall := first.toNat_lt
  have secondSmall := second.toNat_lt
  have thirdSmall := third.toNat_lt
  simp only [groupValues, List.cons_append, List.nil_append, groupBytes]
  rw [ofNat_eq_of_toNat first (by omega),
    ofNat_eq_of_toNat second (by omega),
    ofNat_eq_of_toNat third (by omega)]

/-- Every list of bytes is the bytes of canonical groups. -/
theorem exists_groups :
    ∀ bytes : List UInt8, bytes ≠ [] →
      ∃ groups : Groups, groups.Canonical ∧ groups.bytes = bytes
  | [], nonempty => absurd rfl nonempty
  | [first], _ => by
      have firstSmall := first.toNat_lt
      refine ⟨⟨[], lastOfOne first⟩, ⟨by simp, ?_, rfl, rfl, by simp [lastOfOne], ?_⟩, ?_⟩
      · simp only [lastOfOne, List.mem_cons, List.not_mem_nil, or_false]
        rintro value (rfl | rfl) <;> omega
      · simp only [lastOfOne, lastBytes, beq_iff_eq]
        omega
      · simp only [Groups.bytes, groupBytes, lastOfOne, lastBytes, List.nil_append]
        rw [ofNat_eq_of_toNat first (by omega)]
  | [first, second], _ => by
      have firstSmall := first.toNat_lt
      have secondSmall := second.toNat_lt
      refine
        ⟨⟨[], lastOfTwo first second⟩, ⟨by simp, ?_, rfl, rfl, by simp [lastOfTwo], ?_⟩, ?_⟩
      · simp only [lastOfTwo, List.mem_cons, List.not_mem_nil, or_false]
        rintro value (rfl | rfl | rfl) <;> omega
      · simp only [lastOfTwo, lastBytes, beq_iff_eq]
        omega
      · simp only [Groups.bytes, groupBytes, lastOfTwo, lastBytes, List.nil_append]
        rw [ofNat_eq_of_toNat first (by omega),
          ofNat_eq_of_toNat second (by omega)]
  | [first, second, third], _ => by
      refine
        ⟨⟨[], groupValues first second third, 0⟩,
          ⟨by simp, groupValues_small first second third, rfl, rfl, by simp [groupValues], rfl⟩,
          ?_⟩
      exact groupBytes_groupValues first second third []
  | first :: second :: third :: fourth :: later, _ => by
      rcases exists_groups (fourth :: later) (by simp) with ⟨⟨whole, last⟩, canonical, areBytes⟩
      refine ⟨⟨groupValues first second third ++ whole, last⟩, ?_, ?_⟩
      · refine
          { canonical with
            whole_small := ?_
            whole_length := ?_ }
        · intro value member
          rcases List.mem_append.mp member with member | member
          · exact groupValues_small first second third value member
          · exact canonical.whole_small value member
        · have wholeLength : whole.length % 4 = 0 := canonical.whole_length
          simp only [groupValues, List.length_append, List.length_cons, List.length_nil]
          omega
      · rw [← areBytes]
        simp only [Groups.bytes, groupBytes_groupValues]
        rfl

/-! ## Reading accepts exactly the written forms -/

/-- A written form holds symbols and padding. -/
theorem mem_encodeBytes
    {bytes : List UInt8}
    {char : Char}
    (member : char ∈ encodeBytes bytes) :
    char = '=' ∨ ∃ value < 64, char = symbol value := by
  by_cases nonempty : bytes = []
  · rw [nonempty] at member
    cases member
  · rcases exists_groups bytes nonempty with ⟨groups, canonical, rfl⟩
    rw [Groups.bytes, encodeBytes_groups canonical.whole_small canonical.whole_length,
      encodeBytes_lastBytes canonical.last_small canonical.last_length canonical.last_symbols
        canonical.last_exact, List.mem_append, List.mem_append] at member
    rcases member with whole | last | filling
    · rcases List.mem_map.mp whole with ⟨value, valueMember, rfl⟩
      exact Or.inr ⟨value, canonical.whole_small value valueMember, rfl⟩
    · rcases List.mem_map.mp last with ⟨value, valueMember, rfl⟩
      exact Or.inr ⟨value, canonical.last_small value valueMember, rfl⟩
    · exact Or.inl (List.eq_of_mem_replicate filling)

theorem encodeBytes_ascii
    (bytes : List UInt8) :
    ∀ char ∈ encodeBytes bytes, char.toNat < 128 := by
  intro char member
  rcases mem_encodeBytes member with rfl | ⟨value, small, rfl⟩
  · decide
  · exact symbol_ascii value small

/-- The hyphen is no symbol of the standard alphabet. -/
theorem hyphen_not_mem_encode
    (bytes : List UInt8) :
    '-' ∉ (encode bytes).toList := by
  rw [encode, String.toList_ofList]
  intro member
  have noSymbol : ∀ value < 64, '-' ≠ symbol value := by
    decide
  rcases mem_encodeBytes member with isPadding | ⟨value, small, isSymbol⟩
  · exact absurd isPadding (by decide)
  · exact noSymbol value small isSymbol

theorem toUTF8_encode
    (bytes : List UInt8) :
    (encode bytes).toUTF8.toList = (encodeBytes bytes).map Char.toUInt8 :=
  toUTF8_ofList_ascii (encodeBytes bytes) (encodeBytes_ascii bytes)

/-- A text is read as some bytes exactly when it is their written form. -/
theorem decode_eq_ok_iff
    {text : String}
    {bytes : List UInt8} :
    decode text = .ok bytes ↔ text = encode bytes := by
  constructor
  · intro read
    apply eq_of_bytes_eq
    rw [toUTF8_encode]
    by_cases nonempty : text.toUTF8.toList = []
    · rw [decode, nonempty] at read
      cases read
      exact nonempty
    · rcases groups_of_decodeBytes nonempty read with ⟨groups, canonical, isText, rfl⟩
      rw [encodeBytes_bytes canonical, isText]
  · rintro rfl
    rw [decode, toUTF8_encode]
    by_cases nonempty : bytes = []
    · subst nonempty
      rfl
    · rcases exists_groups bytes nonempty with ⟨groups, canonical, rfl⟩
      rw [encodeBytes_bytes canonical]
      exact decodeBytes_groups canonical

theorem decode_encode
    (bytes : List UInt8) :
    decode (encode bytes) = .ok bytes :=
  decode_eq_ok_iff.mpr rfl

end ContractReplay.Base64
