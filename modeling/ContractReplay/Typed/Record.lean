import ContractReplay.Typed.Basic

/-!
# Record values

Slots are found by the name of their field; of several with one name the first
counts.
-/

namespace ContractReplay.RecordValueOf

/-- The value of a record with no slot set. -/
def empty (record : RecordSchema) : Record where
  typeName := record.name
  slots := record.fields.map fun field => ⟨field.fieldName, field.wireName, none⟩

/-- The value of the slot of a field, if there is such a slot and it is set. -/
def get? (record : Record) (fieldName : String) : Option Typed :=
  (record.slots.find? (·.fieldName == fieldName)).bind (·.value)

/-- Slots with the value of the first slot of a field replaced; nothing without such a slot. -/
def setSlot? (fieldName : String) (value : Option Typed) : List Slot → Option (List Slot)
  | [] => none
  | slot :: later =>
    if slot.fieldName = fieldName then some ({ slot with value := value } :: later)
    else (setSlot? fieldName value later).map (slot :: ·)

/-- The record value with the slot of a field set or cleared; nothing without such a slot. -/
def set? (record : Record) (fieldName : String) (value : Option Typed) : Option Record :=
  (setSlot? fieldName value record.slots).map fun slots => { record with slots := slots }

/-- The record value with the slot of a field set or cleared, if it has such a slot. -/
def assign (record : Record) (fieldName : String) (value : Option Typed) : Record :=
  (record.set? fieldName value).getD record

/-- The record value with the slot of a field set, if it has such a slot. -/
def put (record : Record) (fieldName : String) (value : Typed) : Record :=
  record.assign fieldName (some value)

/-- Whether no slot is set. -/
def isEmpty (record : Record) : Bool :=
  record.slots.all (·.value.isNone)

/-- The record value with every slot cleared. -/
def cleared (record : Record) : Record :=
  { record with slots := record.slots.map fun slot => { slot with value := none } }

/-- The wire names of the fields that a record must have and that are unset in a value. -/
def missingRequired (value : Record) (record : RecordSchema) : List String :=
  (record.fields.filter fun field =>
    field.required && (value.get? field.fieldName).isNone).map (·.wireName)

/-- The wire form of a record value. -/
def toWire (record : Record) : Json :=
  Typed.toWire (.record record)

end ContractReplay.RecordValueOf
