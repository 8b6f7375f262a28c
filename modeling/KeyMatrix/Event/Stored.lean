import KeyMatrix.Event
import KeyMatrix.Json.Reading

/-! # The stored form of events

As for settings, only the fields are the repository's own. They are read as the serialization
library documents it, which is not part of the repository: those of an object are sorted by name.
The column is stored with the direction in its top bit.
-/
namespace KeyMatrix.Event

/-- The stored form. -/
def form : RecordForm := ⟨"DebounceEvent", ["time", "row", "col"]⟩

def ofFields (fields : List (String × Json)) : Except ReadError Event := do
  let packed ← Json.readField fields "col" Json.readByte
  let row ← Json.readField fields "row" Json.readByte
  let time ← Json.readField fields "time" Json.readWord
  let time ← Json.require "time" time
  let row ← Json.require "row" row
  let packed ← Json.require "col" packed
  return { time, row, packed }

def ofElements (items : List Json) : Except ReadError Event := do
  let time ← Json.readElement form items 0 Json.readWord
  let row ← Json.readElement form items 1 Json.readByte
  let packed ← Json.readElement form items 2 Json.readByte
  Json.requireEnd form items
  return { time, row, packed }

/-- Read an event from an object or an array. -/
def ofJson : Json → Except ReadError Event
  | .object fields => ofFields fields
  | .array items => ofElements items
  | found => .error (.wrongKind found (.record form))

def toJson (event : Event) : Json :=
  .object [
    ("time", .integer event.time.toNat),
    ("row", .integer event.row.toNat),
    ("col", .integer event.packed.toNat)]

end KeyMatrix.Event
