import KeyMatrix.Config.Stored
import KeyMatrix.Event.Stored
import KeyMatrix.Fault
import Mathlib.Data.List.Forall2

/-! # What can be read

A record can be read from a JSON value if and only if the value has an admissible value for each of
its fields, be it under the names of the fields or in their order. It does not matter which of the
two it is, nor what else there is in an object.
-/
namespace KeyMatrix

namespace Json

/-- What a JSON value has for the fields of a record, if it has something for all of them. An object
has it under their names, and an array of the same length in their order. -/
def values? (form : RecordForm) : Json → Option (List Json)
  | .object fields => form.fields.mapM fun name => fields.lookup name
  | .array items => if items.length = form.fields.length then some items else none
  | _ => none

/-- An integer between zero and the given one. -/
def IsUpTo (max : Nat) (json : Json) : Prop := ∃ n : Nat, n ≤ max ∧ json = .integer n

theorem values?_object {form : RecordForm} {fields : List (String × Json)} {values : List Json} :
    (object fields).values? form = some values ↔
      List.Forall₂ (fun name value => fields.lookup name = some value) form.fields values := by
  rw [values?]
  induction form.fields generalizing values with
  | nil => simp [eq_comm]
  | cons name names ih =>
    simp only [List.mapM_cons, Option.bind_eq_bind, Option.bind_eq_some_iff, Option.pure_def,
      Option.some.injEq, List.forall₂_cons_left_iff, ← ih]
    constructor
    · rintro ⟨value, hvalue, others, hothers, rfl⟩
      exact ⟨value, others, hvalue, hothers, rfl⟩
    · rintro ⟨value, others, hvalue, hothers, rfl⟩
      exact ⟨value, hvalue, others, hothers, rfl⟩

/-! ## The parts of a record -/

section Integers
variable {α : Type} {size : Nat} {toNat : α → Nat} {ofNat : Nat → α}
variable (hlt : ∀ word, toNat word < size) (hto : ∀ n < size, toNat (ofNat n) = n)
include hlt hto

/-- A word is read from the integer that it is written as. -/
theorem ofNat_eq_ok (hof : ∀ word, ofNat (toNat word) = word) {value : Int} {error : ReadError}
    {word : α} :
    (if 0 ≤ value ∧ value < size then Except.ok (ofNat value.toNat) else .error error) = .ok word ↔
      value = toNat word := by
  constructor
  · intro h
    split at h
    · cases h
      rw [hto _ (by omega)]
      omega
    · cases h
  · rintro rfl
    have hword := hlt word
    rw [if_pos (by omega), Int.toNat_natCast, hof]

theorem isUpTo_iff {max : Nat} (hmax : max + 1 = size) {json : Json} :
    json.IsUpTo max ↔ ∃ word : α, json = .integer (toNat word) := by
  constructor
  · rintro ⟨n, hn, rfl⟩
    exact ⟨ofNat n, by rw [hto n (by omega)]⟩
  · rintro ⟨word, rfl⟩
    have hword := hlt word
    exact ⟨toNat word, by omega, rfl⟩

end Integers

theorem readByte_eq_ok {json : Json} {byte : UInt8} :
    readByte json = .ok byte ↔ json = .integer byte.toNat := by
  cases json with
  | integer value =>
    rw [Json.integer.injEq]
    exact ofNat_eq_ok UInt8.toNat_lt (fun _ => UInt8.toNat_ofNat_of_lt') fun _ => UInt8.ofNat_toNat
  | null | bool | real | string | array | object => simp [readByte]

theorem readWord_eq_ok {json : Json} {word : UInt16} :
    readWord json = .ok word ↔ json = .integer word.toNat := by
  cases json with
  | integer value =>
    rw [Json.integer.injEq]
    exact ofNat_eq_ok UInt16.toNat_lt (fun _ => UInt16.toNat_ofNat_of_lt') fun _ =>
      UInt16.ofNat_toNat
  | null | bool | real | string | array | object => simp [readWord]

theorem isUpTo_byte {json : Json} :
    json.IsUpTo 255 ↔ ∃ byte : UInt8, json = .integer byte.toNat :=
  isUpTo_iff UInt8.toNat_lt (fun _ => UInt8.toNat_ofNat_of_lt') rfl

theorem isUpTo_word {json : Json} :
    json.IsUpTo 65535 ↔ ∃ word : UInt16, json = .integer word.toNat :=
  isUpTo_iff UInt16.toNat_lt (fun _ => UInt16.toNat_ofNat_of_lt') rfl

section Reading
variable {α : Type} {read : Json → Except ReadError α} {value : α}

theorem readField_eq_ok_some {fields : List (String × Json)} {name : String} :
    readField fields name read = .ok (some value) ↔
      ∃ json, fields.lookup name = some json ∧ read json = .ok value := by
  rw [readField]
  cases fields.lookup name with
  | none => simp
  | some json => cases hread : read json <;> simp [Except.map, hread]

theorem require_eq_ok {name : String} {found : Option α} :
    require name found = .ok value ↔ found = some value := by
  cases found <;> simp [require]

theorem readElement_eq_ok {form : RecordForm} {items : List Json} {position : Nat} :
    readElement form items position read = .ok value ↔
      ∃ json, items[position]? = some json ∧ read json = .ok value := by
  rw [readElement]
  cases items[position]? <;> simp

theorem requireEnd_eq_ok {form : RecordForm} {items : List Json} {done : Unit} :
    requireEnd form items = .ok done ↔ items.length ≤ form.fields.length := by
  simp [requireEnd]

/-- A field of a known name is not hidden by others. -/
theorem readField_filter {form : RecordForm} {name : String} (hname : name ∈ form.fields)
    (fields : List (String × Json)) :
    readField (fields.filter (·.1 ∈ form.fields)) name read = readField fields name read := by
  have hlookup : (fields.filter (·.1 ∈ form.fields)).lookup name = fields.lookup name := by
    induction fields with
    | nil => rfl
    | cons field fields ih =>
      obtain ⟨key, value⟩ := field
      by_cases hkey : name = key
      · subst hkey
        simp [hname]
      · have hother : (name == key) = false := beq_false_of_ne hkey
        rw [List.filter_cons, List.lookup_cons, hother]
        split
        · rw [List.lookup_cons, hother, ih]
        · exact ih
  rw [readField, hlookup, readField]

end Reading
end Json

namespace TimeUnit

/-- The ways to write a time unit. -/
def NamedBy (unit : TimeUnit) (json : Json) : Prop :=
  json = .string unit.name ∨ json = .object [(unit.name, .null)]

theorem ofName_eq_ok {text : String} {unit : TimeUnit} :
    ofName text = .ok unit ↔ text = unit.name := by
  constructor
  · intro h
    rw [ofName] at h
    split at h
    · cases h
      assumption
    · split at h
      · cases h
        assumption
      · cases h
  · rintro rfl
    cases unit <;> rfl

theorem ofJson_eq_ok {json : Json} {unit : TimeUnit} :
    ofJson json = .ok unit ↔ unit.NamedBy json := by
  rw [NamedBy]
  match json with
  | .string text => simp [ofJson, ofName_eq_ok]
  | .object [(text, value)] =>
    simp only [ofJson, bind_eq_ok, ofName_eq_ok]
    cases value <;> simp [pure, Except.pure, throw, throwThe, MonadExceptOf.throw]
  | .object [] => simp [ofJson]
  | .object (first :: second :: fields) => simp [ofJson]
  | .null | .bool _ | .integer _ | .real _ | .array _ => simp [ofJson]

end TimeUnit

namespace Config

/-- Values from which settings can be read. -/
def Admits : List Json → Prop
  | [press, release, quiesce, unit] =>
    press.IsUpTo 255 ∧ release.IsUpTo 255 ∧ quiesce.IsUpTo 255 ∧
      ∃ named, TimeUnit.NamedBy named unit
  | _ => False

/-- The settings are made of these values. -/
def Holds (config : Config) : List Json → Prop
  | [press, release, quiesce, unit] =>
    press = .integer config.press.toNat ∧ release = .integer config.release.toNat ∧
      quiesce = .integer config.quiesce.toNat ∧ config.unit.NamedBy unit
  | _ => False

theorem admits_iff {values : List Json} :
    Admits values ↔ ∃ config : Config, config.Holds values := by
  match values with
  | [press, release, quiesce, unit] =>
    simp only [Admits, Holds, Json.isUpTo_byte]
    constructor
    · rintro ⟨⟨press, hpress⟩, ⟨release, hrelease⟩, ⟨quiesce, hquiesce⟩, named, hunit⟩
      exact ⟨⟨press, release, quiesce, named⟩, hpress, hrelease, hquiesce, hunit⟩
    · rintro ⟨config, hpress, hrelease, hquiesce, hunit⟩
      exact ⟨⟨_, hpress⟩, ⟨_, hrelease⟩, ⟨_, hquiesce⟩, _, hunit⟩
  | [] | [_] | [_, _] | [_, _, _] | _ :: _ :: _ :: _ :: _ :: _ => simp [Admits, Holds]

theorem ofFields_eq_ok {fields : List (String × Json)} {config : Config} :
    ofFields fields = .ok config ↔
      ∃ values, (Json.object fields).values? form = some values ∧ config.Holds values := by
  simp only [ofFields, bind_eq_ok, Json.require_eq_ok, Json.values?_object]
  constructor
  · rintro ⟨_, hpress, _, hquiesce, _, hrelease, _, hunit, _, rfl, _, rfl, _, rfl, _, rfl, hconfig⟩
    cases hconfig
    rw [Json.readField_eq_ok_some] at hpress hquiesce hrelease hunit
    obtain ⟨press, hpress, hreadPress⟩ := hpress
    obtain ⟨release, hrelease, hreadRelease⟩ := hrelease
    obtain ⟨quiesce, hquiesce, hreadQuiesce⟩ := hquiesce
    obtain ⟨unit, hunit, hreadUnit⟩ := hunit
    rw [Json.readByte_eq_ok] at hreadPress hreadRelease hreadQuiesce
    rw [TimeUnit.ofJson_eq_ok] at hreadUnit
    exact ⟨[press, release, quiesce, unit],
      .cons hpress (.cons hrelease (.cons hquiesce (.cons hunit .nil))),
      hreadPress, hreadRelease, hreadQuiesce, hreadUnit⟩
  · intro ⟨_, .cons hpress (.cons hrelease (.cons hquiesce (.cons hunit .nil))),
      hreadPress, hreadRelease, hreadQuiesce, hreadUnit⟩
    rw [← Json.readByte_eq_ok] at hreadPress hreadRelease hreadQuiesce
    rw [← TimeUnit.ofJson_eq_ok] at hreadUnit
    exact ⟨_, Json.readField_eq_ok_some.2 ⟨_, hpress, hreadPress⟩,
      _, Json.readField_eq_ok_some.2 ⟨_, hquiesce, hreadQuiesce⟩,
      _, Json.readField_eq_ok_some.2 ⟨_, hrelease, hreadRelease⟩,
      _, Json.readField_eq_ok_some.2 ⟨_, hunit, hreadUnit⟩, _, rfl, _, rfl, _, rfl, _, rfl, rfl⟩

theorem ofElements_eq_ok {items : List Json} {config : Config} :
    ofElements items = .ok config ↔
      ∃ values, (Json.array items).values? form = some values ∧ config.Holds values := by
  match items with
  | [press, release, quiesce, unit] =>
    have hread : ofElements [press, release, quiesce, unit] = (do
        let press ← Json.readByte press
        let release ← Json.readByte release
        let quiesce ← Json.readByte quiesce
        let unit ← TimeUnit.ofJson unit
        return { press, release, quiesce, unit }) := rfl
    have hvalues : (Json.array [press, release, quiesce, unit]).values? form =
        some [press, release, quiesce, unit] := rfl
    simp only [hread, hvalues, bind_eq_ok, Json.readByte_eq_ok, TimeUnit.ofJson_eq_ok,
      Option.some.injEq, exists_eq_left', Holds]
    constructor
    · rintro ⟨_, hpress, _, hrelease, _, hquiesce, _, hunit, hconfig⟩
      cases hconfig
      exact ⟨hpress, hrelease, hquiesce, hunit⟩
    · rintro ⟨hpress, hrelease, hquiesce, hunit⟩
      exact ⟨_, hpress, _, hrelease, _, hquiesce, _, hunit, rfl⟩
  | [] | [_] | [_, _] | [_, _, _] | _ :: _ :: _ :: _ :: _ :: _ =>
    simp only [ofElements, bind_eq_ok, Json.readElement_eq_ok, Json.requireEnd_eq_ok]
    simp [Json.values?, form]

theorem ofJson_eq_ok {json : Json} {config : Config} :
    ofJson json = .ok config ↔ ∃ values, json.values? form = some values ∧ config.Holds values := by
  cases json with
  | object fields => exact ofFields_eq_ok
  | array items => exact ofElements_eq_ok
  | null | bool | integer | real | string => simp [ofJson, Json.values?]

/-- Fields that are not known are ignored. -/
theorem ofJson_filter (fields : List (String × Json)) :
    ofJson (.object (fields.filter (·.1 ∈ form.fields))) = ofJson (.object fields) := by
  simp (disch := decide) only [ofJson, ofFields, Json.readField_filter]

theorem holds_toJson (config : Config) :
    ∃ values, config.toJson.values? form = some values ∧ config.Holds values :=
  ⟨_, rfl, rfl, rfl, rfl, .inl rfl⟩

end Config

namespace Event

/-- Values from which an event can be read. -/
def Admits : List Json → Prop
  | [time, row, col] => time.IsUpTo 65535 ∧ row.IsUpTo 255 ∧ col.IsUpTo 255
  | _ => False

/-- The event is made of these values. -/
def Holds (event : Event) : List Json → Prop
  | [time, row, col] =>
    time = .integer event.time.toNat ∧ row = .integer event.row.toNat ∧
      col = .integer event.packed.toNat
  | _ => False

theorem admits_iff {values : List Json} :
    Admits values ↔ ∃ event : Event, event.Holds values := by
  match values with
  | [time, row, col] =>
    simp only [Admits, Holds, Json.isUpTo_byte, Json.isUpTo_word]
    constructor
    · rintro ⟨⟨time, htime⟩, ⟨row, hrow⟩, ⟨col, hcol⟩⟩
      exact ⟨⟨time, row, col⟩, htime, hrow, hcol⟩
    · rintro ⟨event, htime, hrow, hcol⟩
      exact ⟨⟨_, htime⟩, ⟨_, hrow⟩, ⟨_, hcol⟩⟩
  | [] | [_] | [_, _] | _ :: _ :: _ :: _ :: _ => simp [Admits, Holds]

theorem ofFields_eq_ok {fields : List (String × Json)} {event : Event} :
    ofFields fields = .ok event ↔
      ∃ values, (Json.object fields).values? form = some values ∧ event.Holds values := by
  simp only [ofFields, bind_eq_ok, Json.require_eq_ok, Json.values?_object]
  constructor
  · rintro ⟨_, hcol, _, hrow, _, htime, _, rfl, _, rfl, _, rfl, hevent⟩
    cases hevent
    rw [Json.readField_eq_ok_some] at hcol hrow htime
    obtain ⟨time, htime, hreadTime⟩ := htime
    obtain ⟨row, hrow, hreadRow⟩ := hrow
    obtain ⟨col, hcol, hreadCol⟩ := hcol
    rw [Json.readByte_eq_ok] at hreadRow hreadCol
    rw [Json.readWord_eq_ok] at hreadTime
    exact ⟨[time, row, col], .cons htime (.cons hrow (.cons hcol .nil)), hreadTime, hreadRow,
      hreadCol⟩
  · intro ⟨_, .cons htime (.cons hrow (.cons hcol .nil)), hreadTime, hreadRow, hreadCol⟩
    rw [← Json.readByte_eq_ok] at hreadRow hreadCol
    rw [← Json.readWord_eq_ok] at hreadTime
    exact ⟨_, Json.readField_eq_ok_some.2 ⟨_, hcol, hreadCol⟩,
      _, Json.readField_eq_ok_some.2 ⟨_, hrow, hreadRow⟩,
      _, Json.readField_eq_ok_some.2 ⟨_, htime, hreadTime⟩, _, rfl, _, rfl, _, rfl, rfl⟩

theorem ofElements_eq_ok {items : List Json} {event : Event} :
    ofElements items = .ok event ↔
      ∃ values, (Json.array items).values? form = some values ∧ event.Holds values := by
  match items with
  | [time, row, col] =>
    have hread : ofElements [time, row, col] = (do
        let time ← Json.readWord time
        let row ← Json.readByte row
        let packed ← Json.readByte col
        return { time, row, packed }) := rfl
    have hvalues : (Json.array [time, row, col]).values? form = some [time, row, col] := rfl
    simp only [hread, hvalues, bind_eq_ok, Json.readByte_eq_ok, Json.readWord_eq_ok,
      Option.some.injEq, exists_eq_left', Holds]
    constructor
    · rintro ⟨_, htime, _, hrow, _, hcol, hevent⟩
      cases hevent
      exact ⟨htime, hrow, hcol⟩
    · rintro ⟨htime, hrow, hcol⟩
      exact ⟨_, htime, _, hrow, _, hcol, rfl⟩
  | [] | [_] | [_, _] | _ :: _ :: _ :: _ :: _ =>
    simp only [ofElements, bind_eq_ok, Json.readElement_eq_ok, Json.requireEnd_eq_ok]
    simp [Json.values?, form]

theorem ofJson_eq_ok {json : Json} {event : Event} :
    ofJson json = .ok event ↔ ∃ values, json.values? form = some values ∧ event.Holds values := by
  cases json with
  | object fields => exact ofFields_eq_ok
  | array items => exact ofElements_eq_ok
  | null | bool | integer | real | string => simp [ofJson, Json.values?]

theorem ofJson_filter (fields : List (String × Json)) :
    ofJson (.object (fields.filter (·.1 ∈ form.fields))) = ofJson (.object fields) := by
  simp (disch := decide) only [ofJson, ofFields, Json.readField_filter]

theorem holds_toJson (event : Event) :
    ∃ values, event.toJson.values? form = some values ∧ event.Holds values :=
  ⟨_, rfl, rfl, rfl, rfl⟩

/-- An event is what is recorded of its own time, key and direction. -/
theorem record_self (event : Event) :
    record event.time event.row event.col event.pressed = event := by
  have hbyte : ∀ byte : BitVec 8,
      ((byte &&& ~~~0x80) &&& ~~~0x80) ||| (if byte &&& 0x80 = 0 then 0 else 0x80) = byte := by
    decide
  have hpacked : (event.col &&& ~~~pressedFlag) ||| (if event.pressed then pressedFlag else 0) =
      event.packed := by
    simpa [Event.col, Event.pressed, pressedFlag, ← UInt8.toBitVec_inj, apply_ite UInt8.toBitVec]
      using hbyte event.packed.toBitVec
  rw [record, hpacked]

end Event

/-- A reader accepts what it should, and nothing else. -/
structure ReadsExactly {α : Type} (form : RecordForm) (Admits : List Json → Prop)
    (Holds : α → List Json → Prop) (ofJson : Json → Except ReadError α) (toJson : α → Json) :
    Prop where
  accepts_iff (json : Json) : (∃ value, ofJson json = .ok value) ↔
    ∃ values, json.values? form = some values ∧ Admits values
  /-- The result is made of just these values. -/
  ok_iff (json : Json) (value : α) : ofJson json = .ok value ↔
    ∃ values, json.values? form = some values ∧ Holds value values
  /-- It does not matter in which form they are given. -/
  eq_of_values (json json' : Json) : json.values? form = json'.values? form →
    (ofJson json).toOption = (ofJson json').toOption
  /-- Unknown fields make no difference to the result, nor to the error. -/
  eq_of_known (fields fields' : List (String × Json)) :
    fields.filter (·.1 ∈ form.fields) = fields'.filter (·.1 ∈ form.fields) →
    ofJson (.object fields) = ofJson (.object fields')
  /-- What has been stored can be read. -/
  ofJson_toJson (value : α) : ofJson (toJson value) = .ok value

theorem ReadsExactly.of_ok_iff {α : Type} {form : RecordForm} {Admits : List Json → Prop}
    {Holds : α → List Json → Prop} {ofJson : Json → Except ReadError α} {toJson : α → Json}
    (hadmits : ∀ values, Admits values ↔ ∃ value, Holds value values)
    (hok : ∀ json value, ofJson json = .ok value ↔
      ∃ values, json.values? form = some values ∧ Holds value values)
    (hfilter : ∀ fields,
      ofJson (.object (fields.filter (·.1 ∈ form.fields))) = ofJson (.object fields))
    (hstored : ∀ value, ∃ values, (toJson value).values? form = some values ∧ Holds value values) :
    ReadsExactly form Admits Holds ofJson toJson where
  accepts_iff json := by
    simp only [hok, hadmits]
    exact ⟨fun ⟨value, values, hvalues, hholds⟩ => ⟨values, hvalues, value, hholds⟩,
      fun ⟨values, hvalues, value, hholds⟩ => ⟨value, values, hvalues, hholds⟩⟩
  ok_iff := hok
  eq_of_values json json' h := by
    have hsame : ∀ value, ofJson json = .ok value ↔ ofJson json' = .ok value := by
      intro value
      rw [hok, hok, h]
    cases hjson : ofJson json with
    | ok value => rw [(hsame value).1 hjson]
    | error error =>
      cases hjson' : ofJson json' with
      | ok value => exact absurd ((hsame value).2 hjson') (by simp [hjson])
      | error error' => rfl
  eq_of_known fields fields' h := by rw [← hfilter, h, hfilter]
  ofJson_toJson value := (hok ..).2 (hstored value)

/-- Settings and events can be read from exactly the JSON values that have an admissible value for
each of their fields. The form of these values and other fields beside them make no difference, and
what has been stored can be read again. An event that has been read is one that could have been
recorded. -/
theorem stored_forms_are_exact :
    ReadsExactly Config.form Config.Admits Config.Holds Config.ofJson Config.toJson ∧
      ReadsExactly Event.form Event.Admits Event.Holds Event.ofJson Event.toJson ∧
      ∀ event : Event, Event.record event.time event.row event.col event.pressed = event :=
  ⟨.of_ok_iff (fun _ => Config.admits_iff) (fun _ _ => Config.ofJson_eq_ok) Config.ofJson_filter
      Config.holds_toJson,
    .of_ok_iff (fun _ => Event.admits_iff) (fun _ _ => Event.ofJson_eq_ok) Event.ofJson_filter
      Event.holds_toJson,
    Event.record_self⟩

/-- Settings in the order of somebody's liking. -/
def someSettings : List (String × Json) := [
  ("release", .integer 255),
  ("time_unit", .object [("Frames", .null)]),
  ("press", .integer 0),
  ("quiesce", .integer 7)]

/-- The settings can be read, from an array as well. A press time that does not fit is refused for
the same reason whether or not there is a note beside it. The top bit of the column of an event
tells that the key went down. -/
theorem someSettings_read :
    let array := Json.array [.integer 0, .integer 255, .integer 7, .object [("Frames", .null)]]
    let tooLong : List (String × Json) := [("press", .integer 256)]
    let event : Event := ⟨65535, 3, 130⟩
    Config.ofJson (.object someSettings) = .ok ⟨0, 255, 7, .frames⟩ ∧
      (Json.object someSettings).values? Config.form = array.values? Config.form ∧
      (Config.ofJson (.object someSettings)).toOption = (Config.ofJson array).toOption ∧
      Config.ofJson (.object (("note", .string "slow") :: tooLong)) =
        Config.ofJson (.object tooLong) ∧
      Config.ofJson (.object tooLong) = .error (.outOfRange 256 .byte) ∧
      Event.ofJson (.array [.integer 65535, .integer 3, .integer 130]) = .ok event ∧
      event.col = 2 ∧ event.pressed = true ∧
      Event.record event.time event.row event.col event.pressed = event := by
  intro array tooLong event
  obtain ⟨hconfig, hevent, hrecord⟩ := stored_forms_are_exact
  have hvalues : (Json.object someSettings).values? Config.form = array.values? Config.form := rfl
  exact ⟨(hconfig.ok_iff ..).2 ⟨_, rfl, rfl, rfl, rfl, .inr rfl⟩, hvalues,
    hconfig.eq_of_values _ _ hvalues, hconfig.eq_of_known _ _ (by simp [tooLong, Config.form]), rfl,
    (hevent.ok_iff ..).2 ⟨_, rfl, rfl, rfl, rfl⟩, by decide, by decide,
    hrecord event⟩

end KeyMatrix
