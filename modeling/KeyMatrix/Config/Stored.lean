import KeyMatrix.Config
import KeyMatrix.Json.Reading

/-! # The stored form of settings

Only the names, kinds and order of the fields are the repository's own. How they are read follows
the documented behaviour of its serialization library, which is not part of the repository. That
library sorts the fields of an object by name: they are read in this order, and only when all that
are there have been read is a missing one reported.
-/
namespace KeyMatrix

namespace TimeUnit

/-- The name under which a unit is stored. -/
def name : TimeUnit → String
  | .millis => "Millis"
  | .frames => "Frames"

/-- The unit of this name. -/
def ofName (text : String) : Except ReadError TimeUnit :=
  if text = millis.name then .ok .millis
  else if text = frames.name then .ok .frames
  else .error (.unknownChoice text millis.name frames.name)

/-- Read a unit: its name, or an object that maps its name to nothing. -/
def ofJson : Json → Except ReadError TimeUnit
  | .string text => ofName text
  | .object [(text, value)] => do
    let unit ← ofName text
    match value with
    | .null => return unit
    | found => throw (.wrongKind found .nothing)
  | .object _ => .error .notSingleKey
  | found => .error (.wrongKind found .choice)

def toJson (unit : TimeUnit) : Json := .string unit.name

@[simp] theorem ofJson_toJson (unit : TimeUnit) : ofJson unit.toJson = .ok unit := by
  cases unit <;> rfl

end TimeUnit

namespace Config

/-- The stored form. -/
def form : RecordForm := ⟨"DebounceConfig", ["press", "release", "quiesce", "time_unit"]⟩

def ofFields (fields : List (String × Json)) : Except ReadError Config := do
  let press ← Json.readField fields "press" Json.readByte
  let quiesce ← Json.readField fields "quiesce" Json.readByte
  let release ← Json.readField fields "release" Json.readByte
  let unit ← Json.readField fields "time_unit" TimeUnit.ofJson
  let press ← Json.require "press" press
  let release ← Json.require "release" release
  let quiesce ← Json.require "quiesce" quiesce
  let unit ← Json.require "time_unit" unit
  return { press, release, quiesce, unit }

def ofElements (items : List Json) : Except ReadError Config := do
  let press ← Json.readElement form items 0 Json.readByte
  let release ← Json.readElement form items 1 Json.readByte
  let quiesce ← Json.readElement form items 2 Json.readByte
  let unit ← Json.readElement form items 3 TimeUnit.ofJson
  Json.requireEnd form items
  return { press, release, quiesce, unit }

/-- Read settings from an object or an array. -/
def ofJson : Json → Except ReadError Config
  | .object fields => ofFields fields
  | .array items => ofElements items
  | found => .error (.wrongKind found (.record form))

def toJson (config : Config) : Json :=
  .object [
    ("press", .integer config.press.toNat),
    ("release", .integer config.release.toNat),
    ("quiesce", .integer config.quiesce.toNat),
    ("time_unit", config.unit.toJson)]

end Config
end KeyMatrix
