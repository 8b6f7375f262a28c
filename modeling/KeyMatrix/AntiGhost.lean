import KeyMatrix.Debouncer
import KeyMatrix.Sweep

/-! # Debouncing with rejection of phantom keys

Every key has an automaton of its own, and a cell that could be a phantom contact is
frozen: its key stays as it is until the tally no longer finds the cell ambiguous. The
tally is renewed only in cycles whose hint says that the raw grid changed.
-/
namespace KeyMatrix

/-- A debouncer with a timed automaton for every key, for at most `rows` rows. -/
structure AntiGhost (τ : Type) (rows cols : Nat) where
  config : Config
  timer : τ
  tally : Tally rows cols := .clear
  keys : KeyTable rows cols := .waiting
  /-- The rows in use, none unless initialized. -/
  numRows : Nat := 0
  numRows_le : numRows ≤ rows := by exact Nat.zero_le _

namespace AntiGhost

variable {τ : Type} {rows cols width : Nat}

/-- A debouncer with a time source of its own. -/
def ofTimer (config : Config) (timer : τ) : AntiGhost τ rows cols where
  config := config
  timer := timer

/-- A debouncer whose time source follows the unit of its settings. -/
def ofConfig (config : Config) : AntiGhost Timer rows cols :=
  ofTimer config (.ofUnit config.unit)

instance : Inhabited (AntiGhost Timer rows cols) := ⟨ofConfig default⟩

/-- The tally of a cycle over the first rows. -/
def renewed (shared : Nat) (debouncer : AntiGhost τ rows cols) (raw : Grid width) (changed : Bool) :
    Tally rows cols :=
  if changed then debouncer.tally.recompute (raw.take shared) else debouncer.tally

theorem renewed_of_size {shared : Nat} (debouncer : AntiGhost τ rows cols) {raw : Grid width}
    (hraw : raw.size = shared) (changed : Bool) :
    debouncer.renewed shared raw changed =
      if changed then debouncer.tally.recompute raw else debouncer.tally := by
  rw [renewed, raw.take_of_size_le (Nat.le_of_eq hraw)]

/-- The sweep of a cycle over the first rows, when so many units are read. -/
def swept (shared : Nat) (units : UInt8) (debouncer : AntiGhost τ rows cols)
    (raw cooked : Grid width) (changed : Bool) : Sweep width rows cols :=
  let tally := debouncer.renewed shared raw changed
  Sweep.run { config := debouncer.config, tally, elapsed := units, raw }
    { cooked, keys := debouncer.keys } (cells shared cols)

variable [TimeSource τ]

/-- Start over with `n` rows, all keys waiting. -/
def init (debouncer : AntiGhost τ rows cols) (n : Nat) :
    Except Fault (Prepared (AntiGhost τ rows cols)) :=
  if h : n ≤ rows then
    .ok {
      debouncer := {
        config := debouncer.config
        timer := TimeSource.reset debouncer.timer
        numRows := n
        numRows_le := h }
      log := [.initialized n cols] }
  else .error .tooManyRows

/-- Forget the tally and the time. The keys are left for the next `init` to reset. -/
def free (debouncer : AntiGhost τ rows cols) : Prepared (AntiGhost τ rows cols) where
  debouncer := {
    config := debouncer.config
    timer := TimeSource.reset debouncer.timer
    keys := debouncer.keys }
  log := [.freed]

/-- A cycle over the first rows of a debouncer in use. -/
def served (shared : Nat) (now : Instant) (debouncer : AntiGhost τ rows cols)
    (raw cooked : Grid width) (changed : Bool) : Cycle (AntiGhost τ rows cols) width :=
  let reading := TimeSource.elapsed debouncer.timer now
  let tally := debouncer.renewed shared raw changed
  let swept := debouncer.swept shared reading.units raw cooked changed
  { debouncer := { debouncer with timer := reading.timer, tally, keys := swept.keys }
    cooked := swept.cooked
    log := reading.log ++ swept.changes.toList.map .accepted }

/-- A cycle over the first rows. Nothing happens, and no time is taken, unless some rows are in
use. -/
def cover (shared : Nat) (now : Instant) (debouncer : AntiGhost τ rows cols)
    (raw cooked : Grid width) (changed : Bool) : Cycle (AntiGhost τ rows cols) width :=
  if debouncer.numRows = 0 then { debouncer, cooked }
  else debouncer.served shared now raw cooked changed

/-- One scan cycle. With checks, a debouncer in use refuses to cover fewer rows than it is asked
to. -/
def debounce (checks : Checks) (now : Instant) (debouncer : AntiGhost τ rows cols)
    (raw cooked : Grid width) (numRows : Nat) (changed : Bool) :
    Except Fault (Cycle (AntiGhost τ rows cols) width) :=
  let shared := sharedRows numRows debouncer.numRows raw cooked
  if checks = .on ∧ debouncer.numRows ≠ 0 ∧ shared ≠ numRows then .error .sizeMismatch
  else .ok (debouncer.cover shared now raw cooked changed)

instance : Debouncer (AntiGhost τ rows cols) where
  init := init
  free := free
  debounce := debounce
  isActive _ := true

end AntiGhost
end KeyMatrix
