import KeyMatrix.Timer

/-! # Debouncers

A debouncer turns the grids sampled from a matrix into a stable grid, one scan cycle at a
time. The stable or cooked grid belongs to the caller. A call that breaks its contract
answers a fault; the debouncer and the grid it was given then stay as they are.
-/
namespace KeyMatrix

/-- A debouncer after a call that leaves the grids alone, with what it had to report. -/
structure Prepared (δ : Type) where
  debouncer : δ
  log : List Message := []

/-- A debouncer and the cooked grid after a scan cycle, with what there was to report. -/
structure Cycle (δ : Type) (width : Nat) where
  debouncer : δ
  cooked : Grid width
  log : List Message := []

/-- Filters for the grids of a key matrix. -/
class Debouncer (δ : Type) where
  /-- Prepare for a matrix with the given number of rows. -/
  init : δ → Nat → Except Fault (Prepared δ)
  /-- Stop serving; nothing is debounced until the next `init`. -/
  free : δ → Prepared δ
  /-- Run one scan cycle over the first `numRows` rows of `raw` and `cooked`. The hint
  `changed` tells that `raw` differs from the cycle before. -/
  debounce {width : Nat} (checks : Checks) (now : Instant) (debouncer : δ)
    (raw cooked : Grid width) (numRows : Nat) (changed : Bool) : Except Fault (Cycle δ width)
  /-- Whether the raw grid is processed at all. -/
  isActive : δ → Bool

/-- The rows that a cycle really covers: those that are asked for, in use, and present in
both grids. -/
def sharedRows {width : Nat} (numRows inUse : Nat) (raw cooked : Grid width) : Nat :=
  min (min (min numRows inUse) raw.size) cooked.size

theorem sharedRows_le_inUse {width : Nat} (numRows inUse : Nat) (raw cooked : Grid width) :
    sharedRows numRows inUse raw cooked ≤ inUse := by
  simp only [sharedRows]
  omega

end KeyMatrix
