/-!
# Base64 text

Bytes are written in groups of three by four symbols of the standard alphabet;
the last group is filled up with padding.  Reading accepts exactly the written
form.  Of several faults in a text, one in the symbol after whole groups comes
first, then symbols before the last group, and then the last group itself.
-/

namespace ContractReplay.Base64

/-- The symbol of a number below 64. -/
def symbol (value : Nat) : Char :=
  if value < 26 then Char.ofNat ('A'.toNat + value)
  else if value < 52 then Char.ofNat ('a'.toNat + (value - 26))
  else if value < 62 then Char.ofNat ('0'.toNat + (value - 52))
  else if value = 62 then '+'
  else '/'

/-- The number that a symbol, given by its byte, stands for. -/
def symbolValue? (byte : UInt8) : Option Nat :=
  let code := byte.toNat
  if 'A'.toNat ≤ code ∧ code ≤ 'Z'.toNat then some (code - 'A'.toNat)
  else if 'a'.toNat ≤ code ∧ code ≤ 'z'.toNat then some (code - 'a'.toNat + 26)
  else if '0'.toNat ≤ code ∧ code ≤ '9'.toNat then some (code - '0'.toNat + 52)
  else if code = '+'.toNat then some 62
  else if code = '/'.toNat then some 63
  else none

/-- The byte of the padding character. -/
def padding : UInt8 := 61

/-! ## Writing -/

/-- The symbols of a list of bytes. -/
def encodeBytes : List UInt8 → List Char
  | [] => []
  | [first] =>
    let bits := first.toNat * 65536
    [symbol (bits / 262144), symbol (bits / 4096 % 64), '=', '=']
  | [first, second] =>
    let bits := first.toNat * 65536 + second.toNat * 256
    [symbol (bits / 262144), symbol (bits / 4096 % 64), symbol (bits / 64 % 64), '=']
  | first :: second :: third :: later =>
    let bits := first.toNat * 65536 + second.toNat * 256 + third.toNat
    symbol (bits / 262144) :: symbol (bits / 4096 % 64) :: symbol (bits / 64 % 64) ::
      symbol (bits % 64) :: encodeBytes later

/-- The text of a list of bytes. -/
def encode (bytes : List UInt8) : String :=
  String.ofList (encodeBytes bytes)

/-! ## Reading -/

/-- Why a text is not the written form of any bytes. -/
inductive DecodeError where
  | invalidSymbol (byte : UInt8) (offset : Nat)
  | invalidLastSymbol (byte : UInt8) (offset : Nat)
  | invalidLength (length : Nat)
  | invalidPadding
deriving DecidableEq

/-- The words for a decoding error. -/
def DecodeError.message : DecodeError → String
  | .invalidSymbol byte offset =>
    "Invalid symbol " ++ Nat.repr byte.toNat ++ ", offset " ++ Nat.repr offset ++ "."
  | .invalidLastSymbol byte offset =>
    "Invalid last symbol " ++ Nat.repr byte.toNat ++ ", offset " ++ Nat.repr offset ++ "."
  | .invalidLength length => "Invalid input length: " ++ Nat.repr length
  | .invalidPadding => "Invalid padding"

/-- The values of symbols that start at an offset; none of them may be anything else. -/
def symbolValues (offset : Nat) : List UInt8 → Except DecodeError (List Nat)
  | [] => .ok []
  | byte :: later =>
    match symbolValue? byte with
    | none => .error (.invalidSymbol byte offset)
    | some value => (symbolValues (offset + 1) later).map (value :: ·)

/-- The last group of a text: the values of its symbols, and the count of its padding. -/
structure LastGroup where
  values : List Nat
  padded : Nat

/--
The last group of a text from the byte at an index of the group.  Padding may
start after two symbols, and only padding may follow it.
-/
def readLastGroup
    (offset index : Nat) : List UInt8 → Except DecodeError LastGroup
  | [] => .ok ⟨[], 0⟩
  | byte :: later =>
    if byte = padding then
      if index < 2 then .error (.invalidSymbol byte (offset + index))
      else if later.all (· == padding) then .ok ⟨[], later.length + 1⟩
      else .error (.invalidSymbol byte (offset + index))
    else
      match symbolValue? byte with
      | none => .error (.invalidSymbol byte (offset + index))
      | some value =>
        (readLastGroup offset (index + 1) later).map fun group =>
          { group with values := value :: group.values }

/-- The bytes of whole groups of values. -/
def groupBytes : List Nat → List UInt8
  | first :: second :: third :: fourth :: later =>
    let bits := ((first * 64 + second) * 64 + third) * 64 + fourth
    UInt8.ofNat (bits / 65536) :: UInt8.ofNat (bits / 256) :: UInt8.ofNat bits :: groupBytes later
  | _ => []

/-- The bytes of the last group, and whether the bits that no byte takes are all zero. -/
def lastBytes : List Nat → List UInt8 × Bool
  | [first, second] =>
    let bits := first * 64 + second
    ([UInt8.ofNat (bits / 16)], bits % 16 == 0)
  | [first, second, third] =>
    let bits := (first * 64 + second) * 64 + third
    ([UInt8.ofNat (bits / 1024), UInt8.ofNat (bits / 4)], bits % 4 == 0)
  | values => (groupBytes values, true)

/-- The number of bytes before the last group of a text. -/
def lastGroupOffset (length : Nat) : Nat :=
  if length % 4 = 0 then length - 4 else length - length % 4

/-- A byte after whole groups that is neither a symbol nor padding. -/
def strayLastByte? (bytes : List UInt8) : Option UInt8 :=
  if bytes.length % 4 = 1 then
    bytes.getLast?.filter fun byte => (symbolValue? byte).isNone && byte != padding
  else none

/-- The bytes whose written form is a list of bytes. -/
def decodeBytes (bytes : List UInt8) : Except DecodeError (List UInt8) :=
  match strayLastByte? bytes with
  | some byte => .error (.invalidSymbol byte (bytes.length - 1))
  | none => do
    let offset := lastGroupOffset bytes.length
    let values ← symbolValues 0 (bytes.take offset)
    let group ← readLastGroup offset 0 (bytes.drop offset)
    let count := group.values.length
    if !bytes.isEmpty && count < 2 then throw (.invalidLength (offset + count))
    if (count + group.padded) % 4 ≠ 0 then throw .invalidPadding
    let (last, exact) := lastBytes group.values
    if !exact then
      throw (.invalidLastSymbol (bytes.getD (offset + count - 1) 0) (offset + count - 1))
    return groupBytes values ++ last

/-- The bytes whose written form is a text. -/
def decode (text : String) : Except DecodeError (List UInt8) :=
  decodeBytes text.toUTF8.toList

end ContractReplay.Base64
