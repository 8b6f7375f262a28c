/-! # Recorded key changes

An event packs one raw key change into four bytes: a wrapped timestamp, the row, and a
column byte whose top bit tells the direction.
-/
namespace KeyMatrix

/-- One raw key change. -/
structure Event where
  /-- The lower 16 bits of the time in milliseconds. -/
  time : UInt16
  row : UInt8
  /-- The column in the lower 7 bits; the top bit is set if the key went down. -/
  packed : UInt8
  deriving DecidableEq, Repr

namespace Event

/-- The bit of the packed column that stands for a press. -/
def pressedFlag : UInt8 := 0x80

/-- The event of a key that went down or up; only the lower 7 bits of the column are kept. -/
def record (time : UInt16) (row col : UInt8) (pressed : Bool) : Event where
  time := time
  row := row
  packed := (col &&& ~~~pressedFlag) ||| (if pressed then pressedFlag else 0)

/-- The column of the key. -/
def col (event : Event) : UInt8 := event.packed &&& ~~~pressedFlag

/-- Whether the key went down. -/
def pressed (event : Event) : Bool := event.packed &&& pressedFlag != 0

/-! ## The view of a recorded event -/

@[simp] theorem pressed_record (time : UInt16) (row col : UInt8) (pressed : Bool) :
    (record time row col pressed).pressed = pressed := by
  have hbyte : ∀ byte : BitVec 8, ((byte &&& ~~~0x80) ||| 0) &&& 0x80 = 0 ∧
      ((byte &&& ~~~0x80) ||| 0x80) &&& 0x80 ≠ 0 := by decide
  cases pressed with
  | false =>
    simpa [record, Event.pressed, pressedFlag, ← UInt8.toBitVec_inj] using (hbyte col.toBitVec).1
  | true =>
    simpa [record, Event.pressed, pressedFlag, ← UInt8.toBitVec_inj] using (hbyte col.toBitVec).2

/-- A column that fits in 7 bits is kept. -/
theorem col_record (time : UInt16) (row : UInt8) {col : UInt8} (h : col.toNat < 128)
    (pressed : Bool) : (record time row col pressed).col = col := by
  have hbyte : ∀ byte : BitVec 8, byte.toNat < 128 →
      ((byte &&& ~~~0x80) ||| 0) &&& ~~~0x80 = byte ∧
        ((byte &&& ~~~0x80) ||| 0x80) &&& ~~~0x80 = byte := by decide
  cases pressed with
  | false =>
    simpa [record, Event.col, pressedFlag, ← UInt8.toBitVec_inj] using (hbyte col.toBitVec h).1
  | true =>
    simpa [record, Event.col, pressedFlag, ← UInt8.toBitVec_inj] using (hbyte col.toBitVec h).2

end Event
end KeyMatrix
