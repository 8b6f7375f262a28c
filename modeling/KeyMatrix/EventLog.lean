import KeyMatrix.Debouncer
import KeyMatrix.History

/-! # Recording raw key changes

A diagnostic debouncer that filters nothing: every raw change goes straight to the cooked
grid and is recorded, so that the bouncing of the switches can be looked at later.
-/
namespace KeyMatrix

/-- Records the last `capacity` raw changes of a matrix with at most `rows` rows. -/
structure EventLog (rows cols capacity : Nat) where
  events : History Event capacity := .empty
  /-- The rows in use, none unless initialized. -/
  numRows : Nat := 0
  numRows_le : numRows ≤ rows := by exact Nat.zero_le _

namespace EventLog

variable {rows cols capacity width : Nat}

/-- The usual number of events kept. -/
def usualCapacity : Nat := 128

instance : Inhabited (EventLog rows cols capacity) := ⟨{}⟩

/-- Start over with `n` rows and no events. -/
def init (_log : EventLog rows cols capacity) (n : Nat) :
    Except Fault (Prepared (EventLog rows cols capacity)) :=
  if h : n ≤ rows then .ok { debouncer := { numRows := n, numRows_le := h } }
  else .error .tooManyRows

/-- Stop recording. The events are kept, so that they can still be looked at. -/
def free (log : EventLog rows cols capacity) : Prepared (EventLog rows cols capacity) where
  debouncer := { events := log.events }

/-- The event of a change at the given time. -/
def eventOf (now : Instant) (change : Change) : Event :=
  .record (.ofNat now.millis) (.ofNat change.row) (.ofNat change.col) change.pressed

/-- A cycle over the first rows: record the differences to the cooked grid, then copy the raw
rows. -/
def cover (shared : Nat) (now : Instant) (log : EventLog rows cols capacity)
    (raw cooked : Grid width) (changed : Bool) : Cycle (EventLog rows cols capacity) width :=
  if changed then
    let events := (cooked.changes raw shared cols).map (eventOf now)
    { debouncer := { log with events := log.events.pushAll events }
      cooked := cooked.overwrite shared raw }
  else { debouncer := log, cooked }

/-- One scan cycle. -/
def debounce (now : Instant) (log : EventLog rows cols capacity) (raw cooked : Grid width)
    (numRows : Nat) (changed : Bool) : Cycle (EventLog rows cols capacity) width :=
  log.cover (sharedRows numRows log.numRows raw cooked) now raw cooked changed

/-- One message for every event kept, oldest first. -/
def dump (log : EventLog rows cols capacity) : List Message :=
  log.events.toList.map .logged

instance : Debouncer (EventLog rows cols capacity) where
  init := init
  free := free
  debounce _ now log raw cooked numRows changed :=
    .ok (log.debounce now raw cooked numRows changed)
  isActive _ := true

end EventLog
end KeyMatrix
