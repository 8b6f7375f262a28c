import KeyMatrix.Sweep

/-! # Guarded steps

The views that a cycle works with are total. Here each step that it takes is guarded: a grid, a row
or a table is only looked at where it has an entry, and only as many rows are cut off as there are.
A column beyond the width of a row is refused with checks and wraps around without, and so does a
byte that is lowered by more than it holds.
-/
namespace KeyMatrix

/-- What a guard stops. -/
inductive Trap where
  /-- A contract is broken, or something is looked up where there is nothing. -/
  | fault (fault : Fault)
  /-- A byte is lowered by more than it holds. -/
  | underflow
  deriving DecidableEq, Repr

instance : MonadLift (Except Fault) (Except Trap) := ⟨Except.mapError .fault⟩

theorem lift_ok {α : Type} (value : α) :
    (liftM (Except.ok value : Except Fault α) : Except Trap α) = .ok value := rfl

theorem ok_bind {α β : Type} (value : α) (next : α → Except Trap β) :
    (Except.ok value : Except Trap α) >>= next = next value := rfl

/-! ## Lookups that succeed -/

section Lookups
variable {width rows cols : Nat}

/-- Checks or not, a column that the row has stands for itself. -/
theorem Row.column_eq (checks : Checks) {c : Nat} (hc : c < width) :
    Row.column checks width c = .ok c := by
  cases checks with
  | on => exact if_pos hc
  | off => exact congrArg Except.ok (Nat.mod_eq_of_lt hc)

theorem Row.isPressedAt_eq (checks : Checks) (row : Row width) {c : Nat} (hc : c < width) :
    row.isPressedAt checks c = .ok (row.isPressed c) := by
  rw [isPressedAt, column_eq checks hc]
  rfl

theorem Tally.crowdedAt_eq (tally : Tally rows cols) {r : Nat} (hr : r < rows) :
    tally.crowdedAt r = .ok (tally.isCrowded r) := by
  rw [crowdedAt, dif_pos hr, isCrowded, Vector.getElem?_eq_getElem hr, Option.getD_some]

theorem Tally.downAt_eq (tally : Tally rows cols) {c : Nat} (hc : c < cols) :
    tally.downAt c = .ok (tally.downIn c) := by
  rw [downAt, dif_pos hc, downIn, Vector.getElem?_eq_getElem hc, Option.getD_some]

theorem Tally.ambiguousAt_eq (tally : Tally rows cols) {r c : Nat} (hr : r < rows)
    (hc : c < cols) : tally.ambiguousAt r c = .ok (tally.isAmbiguous r c) := by
  rw [ambiguousAt, tally.crowdedAt_eq hr, tally.downAt_eq hc, isAmbiguous]
  cases tally.isCrowded r <;> rfl

theorem KeyTable.keyAt_eq (table : KeyTable rows cols) {r c : Nat} (hr : r < rows)
    (hc : c < cols) : table.keyAt r c = .ok (table.get r c) := if_pos ⟨hr, hc⟩

end Lookups

namespace Guarded

variable {width : Nat}

/-! ## Rows of grids -/

/-- The row of a grid at the given place. -/
def rowAt (grid : Grid width) (r : Nat) : Except Trap (Row width) :=
  if r < grid.size then .ok (grid.row r) else .error (.fault .outOfBounds)

/-- The first `n` rows of a grid. -/
def take (grid : Grid width) (n : Nat) : Except Trap (Grid width) :=
  if n ≤ grid.size then .ok (grid.take n) else .error (.fault .outOfBounds)

/-- Copy the first `n` rows of `source`. Both parts must have the same length. -/
def copy (target source : Grid width) (n : Nat) : Except Trap (Grid width) := do
  let old ← take target n
  let new ← take source n
  if old.size = new.size then return target.overwrite n source
  else .error (.fault .sizeMismatch)

theorem rowAt_eq {grid : Grid width} {r : Nat} (h : r < grid.size) :
    rowAt grid r = .ok (grid.row r) := if_pos h

theorem take_eq {grid : Grid width} {n : Nat} (h : n ≤ grid.size) :
    take grid n = .ok (grid.take n) := if_pos h

theorem copy_eq {target source : Grid width} {n : Nat} (htarget : n ≤ target.size)
    (hsource : n ≤ source.size) : copy target source n = .ok (target.overwrite n source) := by
  have hsame : (target.take n).size = (source.take n).size := by
    rw [Grid.size_take, Grid.size_take, Nat.min_eq_left htarget, Nat.min_eq_left hsource]
  rw [copy, take_eq htarget, take_eq hsource, ok_bind, ok_bind, if_pos hsame]
  rfl

/-! ## Keys of grids -/

/-- Whether a key of a grid is pressed. -/
def isPressed (checks : Checks) (grid : Grid width) (r c : Nat) : Except Trap Bool := do
  (← rowAt grid r).isPressedAt checks c

/-- Flip a key of a grid. -/
def toggle (checks : Checks) (grid : Grid width) (r c : Nat) : Except Trap (Grid width) :=
  if r < grid.size then (Row.column checks width c).map (grid.toggle r)
  else .error (.fault .outOfBounds)

theorem isPressed_eq (checks : Checks) {grid : Grid width} {r c : Nat} (hr : r < grid.size)
    (hc : c < width) : isPressed checks grid r c = .ok (grid.isPressed r c) := by
  rw [isPressed, rowAt_eq hr, ok_bind, Row.isPressedAt_eq checks _ hc]
  rfl

theorem toggle_eq (checks : Checks) {grid : Grid width} {r c : Nat} (hr : r < grid.size)
    (hc : c < width) : toggle checks grid r c = .ok (grid.toggle r c) := by
  rw [toggle, if_pos hr, Row.column_eq checks hc]
  rfl

/-! ## Steps of keys -/

/-- Lower a byte. -/
def lower (checks : Checks) (a b : UInt8) : Except Trap UInt8 :=
  if checks = .on ∧ a < b then .error .underflow else .ok (a - b)

/-- Advance a key whose input can be trusted. -/
def advance (checks : Checks) (config : Config) (raw cooked : Bool) (elapsed : UInt8) :
    Key → Except Trap (Key × Verdict)
  | .waiting =>
    if raw = cooked then .ok (.waiting, .ignored)
    else .ok (.debouncing (config.threshold raw), .pending)
  | .debouncing remaining =>
    if raw = cooked then .ok (.waiting, .ignored)
    else if remaining > elapsed then do
      return (.debouncing (← lower checks remaining elapsed), .pending)
    else .ok (.quiescing config.quiesce, .accepted)
  | .quiescing remaining =>
    if remaining > elapsed then do
      return (.quiescing (← lower checks remaining elapsed), .pending)
    else .ok (.waiting, .ignored)

/-- Advance a key by one cycle. -/
def step (checks : Checks) (config : Config) (sample : Sample) (key : Key) :
    Except Trap (Key × Verdict) :=
  if sample.ambiguous then .ok (key, .ignored)
  else advance checks config sample.raw sample.cooked sample.elapsed key

theorem lower_eq (checks : Checks) {a b : UInt8} (h : b < a) : lower checks a b = .ok (a - b) :=
  if_neg fun hover => UInt8.lt_asymm h hover.2

/-- A byte is only lowered when it is larger than what has elapsed. -/
theorem advance_eq (checks : Checks) (config : Config) (raw cooked : Bool) (elapsed : UInt8)
    (key : Key) :
    advance checks config raw cooked elapsed key = .ok (key.advance config raw cooked elapsed) := by
  cases key with
  | waiting => exact (apply_ite Except.ok ..).symm
  | debouncing remaining =>
    rw [advance, Key.advance]
    split
    · rfl
    · split
      · rename_i h
        rw [lower_eq checks h]
        rfl
      · rfl
  | quiescing remaining =>
    rw [advance, Key.advance]
    split
    · rename_i h
      rw [lower_eq checks h]
      rfl
    · rfl

theorem step_eq (checks : Checks) (config : Config) (sample : Sample) (key : Key) :
    step checks config sample key = .ok (key.step config sample) := by
  rw [step, Key.step, advance_eq]
  exact (apply_ite Except.ok ..).symm

end Guarded
end KeyMatrix
