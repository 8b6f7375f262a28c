import KeyMatrix.Json

/-! # Reading errors

Why a JSON value does not stand for a value of the library, and how that is put in words.
-/
namespace KeyMatrix

/-- The stored form of a record: its name, and its fields in the order of their declaration. -/
structure RecordForm where
  name : String
  fields : List String
  deriving DecidableEq, Repr

/-- What a reader is looking for. -/
inductive Expectation where
  /-- An integer that fits in 8 bits. -/
  | byte
  /-- An integer that fits in 16 bits. -/
  | word
  /-- The name of a choice, alone or as the only key of an object. -/
  | choice
  /-- Nothing, for a choice that carries no data. -/
  | nothing
  /-- A record, as an object or as an array. -/
  | record (form : RecordForm)
  deriving DecidableEq, Repr

def Expectation.name : Expectation → String
  | .byte => "u8"
  | .word => "u16"
  | .choice => "string or map"
  | .nothing => "unit"
  | .record form => s!"struct {form.name}"

/-- Why a value cannot be read. -/
inductive ReadError where
  /-- The value is of another kind. -/
  | wrongKind (found : Json) (expected : Expectation)
  /-- The integer does not fit. -/
  | outOfRange (found : Int) (expected : Expectation)
  /-- There is no choice of this name. -/
  | unknownChoice (found : String) (first second : String)
  /-- An object that should name a choice has not exactly one key. -/
  | notSingleKey
  /-- An object lacks this field of a record. -/
  | missingField (name : String)
  /-- An array ends before the record does. -/
  | tooShort (length : Nat) (form : RecordForm)
  /-- An array goes on after the record. -/
  | tooLong (length : Nat)
  deriving Inhabited

def ReadError.message : ReadError → String
  | .wrongKind found expected => s!"invalid type: {found.described}, expected {expected.name}"
  | .outOfRange found expected =>
    s!"invalid value: {(Json.integer found).described}, expected {expected.name}"
  | .unknownChoice found first second =>
    s!"unknown variant `{found}`, expected `{first}` or `{second}`"
  | .notSingleKey => "invalid value: map, expected map with a single key"
  | .missingField name => s!"missing field `{name}`"
  | .tooShort length form =>
    s!"invalid length {length}, expected struct {form.name} with {form.fields.length} elements"
  | .tooLong length => s!"invalid length {length}, expected fewer elements in array"

end KeyMatrix
