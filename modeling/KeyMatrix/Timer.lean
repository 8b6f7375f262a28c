import KeyMatrix.Config
import KeyMatrix.Fault
import KeyMatrix.Message

/-! # Time sources

A debouncer asks its time source once per scan cycle how many time units have passed
since the cycle before. The answer saturates at one byte.
-/
namespace KeyMatrix

/-- A reading of the clock. -/
structure Instant where
  /-- Microseconds since the clock was started. -/
  micros : Nat
  deriving DecidableEq, Repr

namespace Instant

/-- The instant at which the clock was started. -/
def start : Instant := ⟨0⟩

/-- Whole milliseconds since the clock was started. -/
def millis (now : Instant) : Nat := now.micros / 1000

end Instant

/-- What a time source answers. -/
structure Reading (τ : Type) where
  /-- Time units since the reading before. -/
  units : UInt8
  /-- The time source after the reading. -/
  timer : τ
  log : List Message := []

/-- A source of the time that passes between two scan cycles. -/
class TimeSource (τ : Type) where
  /-- Take a reading. -/
  elapsed : τ → Instant → Reading τ
  /-- Forget the reading before, so that the next one starts over. -/
  reset : τ → τ

/-- The largest number of time units that a reading can hold. -/
def maxUnits : Nat := 255

/-- Counts whole milliseconds of the clock. The first reading is 1, so that the first scan
cycle always takes time; a clock that has gone back reads as no time at all. -/
structure MillisTimer where
  /-- The time of the reading before, in milliseconds. -/
  last : Option Nat := none
  deriving DecidableEq, Repr

namespace MillisTimer

def elapsed (timer : MillisTimer) (now : Instant) : Reading MillisTimer :=
  match timer.last with
  | none => { units := 1, timer := ⟨some now.millis⟩, log := [.timerStarted now.millis] }
  | some last =>
    { units := UInt8.ofNat (min (now.millis - last) maxUnits), timer := ⟨some now.millis⟩ }

instance : TimeSource MillisTimer where
  elapsed := elapsed
  reset _ := {}

/-- A reading is remembered, whatever was remembered before. -/
theorem timer_elapsed (timer : MillisTimer) (now : Instant) :
    (timer.elapsed now).timer = ⟨some now.millis⟩ := by
  rw [elapsed]
  split <;> rfl

/-- From the second one on, a reading tells how long ago the one before was. -/
theorem toNat_units_elapsed (last : Nat) (now : Instant) :
    ((MillisTimer.mk (some last)).elapsed now).units.toNat = min (now.millis - last) maxUnits := by
  change (UInt8.ofNat (min (now.millis - last) maxUnits)).toNat = _
  rw [UInt8.toNat_ofNat_of_lt']
  exact Nat.lt_of_le_of_lt (Nat.min_le_right ..) (by decide)

end MillisTimer

/-- Counts scan cycles: every reading is 1. -/
structure FrameTimer where
  deriving DecidableEq, Repr

instance : TimeSource FrameTimer where
  elapsed timer _ := { units := 1, timer := timer }
  reset timer := timer

/-- The time source that belongs to a time unit. -/
inductive Timer where
  | millis (timer : MillisTimer)
  | frames (timer : FrameTimer)
  deriving DecidableEq, Repr

namespace Timer

/-- A fresh time source for the given unit. -/
def ofUnit : TimeUnit → Timer
  | .millis => .millis {}
  | .frames => .frames {}

instance : TimeSource Timer where
  elapsed
    | .millis timer, now =>
      let reading := TimeSource.elapsed timer now
      { reading with timer := .millis reading.timer }
    | .frames timer, now =>
      let reading := TimeSource.elapsed timer now
      { reading with timer := .frames reading.timer }
  reset
    | .millis timer => .millis (TimeSource.reset timer)
    | .frames timer => .frames (TimeSource.reset timer)

end Timer
end KeyMatrix
