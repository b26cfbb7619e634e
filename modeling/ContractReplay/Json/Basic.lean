import ContractReplay.Json.Number

/-!
# JSON values

Objects keep their members in the order in which they were written.  Equality
of values looks through that order; putting a member under a key that is there
already keeps its place.
-/

namespace ContractReplay

/-- A JSON value. -/
inductive Json where
  | null
  | bool (value : Bool)
  | number (value : Json.Number)
  | string (value : String)
  | array (items : List Json)
  | object (members : List (String × Json))

namespace Json

/-- The kinds of JSON values. -/
inductive Kind where
  | null
  | boolean
  | number
  | string
  | array
  | object
deriving DecidableEq

/-- The word for a kind of values. -/
def Kind.name : Kind → String
  | .null => "null"
  | .boolean => "boolean"
  | .number => "number"
  | .string => "string"
  | .array => "array"
  | .object => "object"

/-- The kind of a value. -/
def kind : Json → Kind
  | .null => .null
  | .bool _ => .boolean
  | .number _ => .number
  | .string _ => .string
  | .array _ => .array
  | .object _ => .object

/-- Members of an object, in order. -/
abbrev Members := List (String × Json)

/-- The value of the first member under a key. -/
def Members.get? (key : String) : Members → Option Json
  | [] => none
  | (name, value) :: later => if name = key then some value else Members.get? key later

/-- Whether there is a member under a key. -/
def Members.hasKey (members : Members) (key : String) : Bool :=
  members.any (·.1 == key)

/-- The members with a value put under a key: in the place of the key, or at the end. -/
def Members.insert (key : String) (value : Json) : Members → Members
  | [] => [(key, value)]
  | (name, old) :: later =>
    if name = key then (name, value) :: later else (name, old) :: Members.insert key value later

/-- The members that result from putting pairs one after the other into an empty object. -/
def Members.ofList (pairs : List (String × Json)) : Members :=
  pairs.foldl (fun members pair => Members.insert pair.1 pair.2 members) []

mutual

/-- Equality of values: numbers by kind and value, objects whatever the order of their members. -/
def equal : Json → Json → Bool
  | .null, .null => true
  | .bool left, .bool right => left == right
  | .number left, .number right => left.equal right
  | .string left, .string right => left == right
  | .array left, .array right => equalItems left right
  | .object left, .object right =>
    left.length == right.length && equalMembers left right
  | _, _ => false

/-- Equality of arrays, item by item. -/
def equalItems : List Json → List Json → Bool
  | [], [] => true
  | left :: lefts, right :: rights => equal left right && equalItems lefts rights
  | _, _ => false

/-- Whether every member of a list has an equal one under the same key in another list. -/
def equalMembers : List (String × Json) → List (String × Json) → Bool
  | [], _ => true
  | (key, left) :: lefts, rights =>
    (match Members.get? key rights with
      | some right => equal left right
      | none => false) && equalMembers lefts rights

end

/-- An integer as a value; one that does not fit 64 bits is `null`. -/
def ofInt (value : Int) : Json :=
  match Whole.ofInt? value with
  | some whole => .number (.whole whole)
  | none => .null

/-- A binary64 datum as a value; one that is not finite is `null`. -/
def ofBinary64 : Binary64 → Json
  | .finite value => .number (.float value)
  | _ => .null

/-- The value is `null`. -/
def isNull : Json → Bool
  | .null => true
  | _ => false

/-- The text of a string. -/
def text? : Json → Option String
  | .string value => some value
  | _ => none

/-- The number of nested arrays and objects on the way to the deepest value. -/
def depth : Json → Nat
  | .array items => 1 + depthItems items
  | .object members => 1 + depthMembers members
  | _ => 0
where
  depthItems : List Json → Nat
    | [] => 0
    | item :: later => max (depth item) (depthItems later)
  depthMembers : List (String × Json) → Nat
    | [] => 0
    | (_, value) :: later => max (depth value) (depthMembers later)

end Json

end ContractReplay
