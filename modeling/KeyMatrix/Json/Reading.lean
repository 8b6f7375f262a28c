import KeyMatrix.Json.ReadError

/-! # Reading JSON values

The records of a keyboard are read and written by a serialization library, which is not part of the
repository. What is read here, and how it is refused, follows the documented behaviour of that
library: a record is stored as an object, whose unknown fields are ignored, or as an array of its
fields in order, and integers are refused when they do not fit.
-/
namespace KeyMatrix.Json

/-- Read an integer of 8 bits. -/
def readByte : Json → Except ReadError UInt8
  | .integer value =>
    if 0 ≤ value ∧ value < 256 then .ok (.ofNat value.toNat)
    else .error (.outOfRange value .byte)
  | found => .error (.wrongKind found .byte)

/-- Read an integer of 16 bits. -/
def readWord : Json → Except ReadError UInt16
  | .integer value =>
    if 0 ≤ value ∧ value < 65536 then .ok (.ofNat value.toNat)
    else .error (.outOfRange value .word)
  | found => .error (.wrongKind found .word)

/-- Read the field of this name, if there is one. -/
def readField {α : Type} (fields : List (String × Json)) (name : String)
    (read : Json → Except ReadError α) : Except ReadError (Option α) :=
  match fields.lookup name with
  | some value => (read value).map some
  | none => .ok none

/-- The value of a field that must not be missing. -/
def require {α : Type} (name : String) : Option α → Except ReadError α
  | some value => .ok value
  | none => .error (.missingField name)

/-- Read the element at this position of the array form of a record. -/
def readElement {α : Type} (form : RecordForm) (items : List Json) (position : Nat)
    (read : Json → Except ReadError α) : Except ReadError α :=
  match items[position]? with
  | some value => read value
  | none => .error (.tooShort items.length form)

/-- Refuse an array with elements after the last field of a record. -/
def requireEnd (form : RecordForm) (items : List Json) : Except ReadError Unit :=
  if form.fields.length < items.length then .error (.tooLong items.length) else .ok ()

end KeyMatrix.Json
