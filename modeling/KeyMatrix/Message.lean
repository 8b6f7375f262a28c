import KeyMatrix.Change
import KeyMatrix.Event

/-! # Messages

What the library reports while it works. A message is data; `line` is its written form.
-/
namespace KeyMatrix

/-- The importance of a message. -/
inductive Level where
  | trace
  | debug
  | info
  deriving DecidableEq, Repr

def Level.name : Level → String
  | .trace => "TRACE"
  | .debug => "DEBUG"
  | .info => "INFO"

/-- Something worth reporting. -/
inductive Message where
  /-- A debouncer now serves this many rows and columns. -/
  | initialized (rows cols : Nat)
  /-- A debouncer has been released. -/
  | freed
  /-- A timer has taken its first reading, at this time in milliseconds. -/
  | timerStarted (millis : Nat)
  /-- A key change has been accepted. -/
  | accepted (change : Change)
  /-- A recorded event, as shown when a log is dumped. -/
  | logged (event : Event)
  deriving DecidableEq, Repr

namespace Message

def level : Message → Level
  | .initialized .. | .logged _ => .info
  | .freed | .timerStarted _ => .debug
  | .accepted _ => .trace

def text : Message → String
  | .initialized rows cols => s!"Debouncer initialized for {rows}x{cols} matrix"
  | .freed => "Debouncer freed"
  | .timerStarted millis => s!"Debounce timer started at {millis}"
  | .accepted change =>
    let state := if change.pressed then "true" else "false"
    s!"Key ({change.row}, {change.col}) debounced, pressed: {state}"
  | .logged event =>
    let direction := if event.pressed then "down" else "up"
    s!"{event.time.toNat}: ({event.row.toNat}, {event.col.toNat}) {direction}"

/-- The level followed by the text. -/
def line (message : Message) : String := s!"{message.level.name} {message.text}"

end Message
end KeyMatrix
