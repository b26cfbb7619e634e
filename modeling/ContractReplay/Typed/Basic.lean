import ContractReplay.Base64
import ContractReplay.Json.Writer
import ContractReplay.Schema
import ContractReplay.Timestamp.Text

/-!
# Typed values

A typed value is what a JSON value becomes under a schema, and what a call of a
service returns.  A record value has a slot for every field of its record, set or
not.  On the wire an unset slot is left out, so it cannot be told from one that
is `null` there.
-/

namespace ContractReplay

/--
A slot of a record value over values of type `τ`: the names of its field, and its value
if it is set.
-/
structure SlotOf (τ : Type) where
  fieldName : String
  wireName : String
  value : Option τ

/-- A record value over values of type `τ`: the name of its record, and its slots in order. -/
structure RecordValueOf (τ : Type) where
  typeName : String
  slots : List (SlotOf τ)

/-- A typed value. -/
inductive Typed where
  | boolean (value : Bool)
  | integer (value : Int64)
  | float (value : Binary64)
  | string (value : String)
  | binary (bytes : List UInt8)
  | timestamp (value : Timestamp)
  | json (value : Json)
  | enum (typeName symbol : String)
  | list (items : List Typed)
  | map (entries : List (String × Typed))
  | record (record : RecordValueOf Typed)

/-- A slot of a record value. -/
abbrev Slot := SlotOf Typed

/-- A record value. -/
abbrev Record := RecordValueOf Typed

namespace Typed

/-! ## Maps -/

/-- The entries of a map, in ascending order of their keys, with a value put under a key. -/
def insertEntry (key : String) (value : Typed) : List (String × Typed) → List (String × Typed)
  | [] => [(key, value)]
  | (name, old) :: later =>
    if key = name then (key, value) :: later
    else if key < name then (key, value) :: (name, old) :: later
    else (name, old) :: insertEntry key value later

/-- The map that results from putting pairs one after the other into an empty map. -/
def ofEntries (pairs : List (String × Typed)) : Typed :=
  .map (pairs.foldl (fun entries pair => insertEntry pair.1 pair.2 entries) [])

/-! ## Wire form -/

mutual

/-- The wire form of a value. -/
def toWire : Typed → Json
  | .boolean value => .bool value
  | .integer value => .number (.whole (.ofInt64 value))
  | .float value => .ofBinary64 value
  | .string value => .string value
  | .binary bytes => .string (Base64.encode bytes)
  | .timestamp value => .string value.text
  | .json value => value
  | .enum _ symbol => .string symbol
  | .list items => .array (itemsToWire items)
  | .map entries => .object (Json.Members.ofList (entriesToWire entries))
  | .record ⟨_, slots⟩ => .object (Json.Members.ofList (slotsToWire slots))

/-- The wire forms of the items of a list. -/
def itemsToWire : List Typed → List Json
  | [] => []
  | item :: later => toWire item :: itemsToWire later

/-- The keys and the wire forms of the entries of a map. -/
def entriesToWire : List (String × Typed) → List (String × Json)
  | [] => []
  | (key, value) :: later => (key, toWire value) :: entriesToWire later

/-- The wire names and the wire forms of the slots that are set. -/
def slotsToWire : List (SlotOf Typed) → List (String × Json)
  | [] => []
  | ⟨_, _, none⟩ :: later => slotsToWire later
  | ⟨_, wireName, some value⟩ :: later => (wireName, toWire value) :: slotsToWire later

end

/-- The compact text of the wire form. -/
def repr (value : Typed) : String :=
  value.toWire.compact

/-! ## Equality -/

mutual

/-- Equality of typed values: floats by value, timestamps by instant, JSON as JSON. -/
def same : Typed → Typed → Bool
  | .boolean left, .boolean right => left == right
  | .integer left, .integer right => left == right
  | .float left, .float right => left.equal right
  | .string left, .string right => left == right
  | .binary left, .binary right => left == right
  | .timestamp left, .timestamp right => left.sameInstant right
  | .json left, .json right => left.equal right
  | .enum leftType left, .enum rightType right => leftType == rightType && left == right
  | .list left, .list right => sameItems left right
  | .map left, .map right => sameEntries left right
  | .record ⟨leftType, left⟩, .record ⟨rightType, right⟩ =>
    leftType == rightType && sameSlots left right
  | _, _ => false

/-- Equality of lists, item by item. -/
def sameItems : List Typed → List Typed → Bool
  | [], [] => true
  | left :: lefts, right :: rights => same left right && sameItems lefts rights
  | _, _ => false

/-- Equality of maps, entry by entry. -/
def sameEntries : List (String × Typed) → List (String × Typed) → Bool
  | [], [] => true
  | (leftKey, left) :: lefts, (rightKey, right) :: rights =>
    leftKey == rightKey && same left right && sameEntries lefts rights
  | _, _ => false

/-- Equality of record values, slot by slot. -/
def sameSlots : List (SlotOf Typed) → List (SlotOf Typed) → Bool
  | [], [] => true
  | ⟨leftField, leftWire, none⟩ :: lefts, ⟨rightField, rightWire, none⟩ :: rights =>
    leftField == rightField && leftWire == rightWire && sameSlots lefts rights
  | ⟨leftField, leftWire, some left⟩ :: lefts, ⟨rightField, rightWire, some right⟩ :: rights =>
    leftField == rightField && leftWire == rightWire && same left right && sameSlots lefts rights
  | _, _ => false

end

/-! ## Views -/

/-- The text of a string or of an enumeration symbol. -/
def text? : Typed → Option String
  | .string value => some value
  | .enum _ symbol => some symbol
  | _ => none

/-- The value of an integer. -/
def integer? : Typed → Option Int64
  | .integer value => some value
  | _ => none

/-- The record value that a value is, if it is one. -/
def record? : Typed → Option Record
  | .record value => some value
  | _ => none

end Typed

end ContractReplay
