/-! # Settings

All durations are counted in the time unit of the settings and fit in one byte.
-/
namespace KeyMatrix

/-- What one unit of elapsed time stands for. -/
inductive TimeUnit where
  /-- One millisecond of the clock. -/
  | millis
  /-- One scan cycle. -/
  | frames
  deriving DecidableEq, Repr, Inhabited

/-- The settings of a debouncer with a timer for every key. -/
structure Config where
  /-- How long a key must stay down before the press is accepted. -/
  press : UInt8
  /-- How long a key must stay up before the release is accepted. -/
  release : UInt8
  /-- How long a key ignores its input after an accepted change. -/
  quiesce : UInt8
  unit : TimeUnit := .millis
  deriving DecidableEq, Repr

namespace Config

/-- The usual time for both press and release. -/
def usualDebounce : UInt8 := 5

/-- The usual cooldown after an accepted change. -/
def usualQuiesce : UInt8 := 30

/-- Settings with the same time for press and release. -/
def uniform (time : UInt8) : Config := { press := time, release := time, quiesce := usualQuiesce }

instance : Inhabited Config := ⟨uniform usualDebounce⟩

/-- How long a key must stay in a state before it is taken to have moved there. -/
def threshold (config : Config) (pressed : Bool) : UInt8 :=
  if pressed then config.press else config.release

end Config
end KeyMatrix
