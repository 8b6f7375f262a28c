/-! # Faults

A call that breaks its contract is refused with a fault and changes nothing.
Some contracts are verified only while checks are on.
-/
namespace KeyMatrix

/-- Whether the optional contract checks are carried out. -/
inductive Checks where
  | on
  | off
  deriving DecidableEq, Repr

/-- The ways in which a call can break its contract. -/
inductive Fault where
  /-- A debouncer is asked to serve more rows than it has room for. -/
  | tooManyRows
  /-- A scanner samples more rows than its matrix has room for. -/
  | scannerTooLarge
  /-- A cycle covers more rows than the debouncer and the two grids have in common. -/
  | sizeMismatch
  /-- A row or column outside a table is looked up. -/
  | outOfBounds
  /-- A column beyond the width of a row is addressed. -/
  | columnOverflow
  deriving DecidableEq, Repr

/-- Violated capacities explain themselves; bad coordinates do not. -/
def Fault.message? : Fault → Option String
  | .tooManyRows => some "debouncer initialized with more rows than it can hold"
  | .scannerTooLarge => some "scanner produces more rows than the matrix can hold"
  | .sizeMismatch => some "matrix size doesn't match the debouncer"
  | .outOfBounds | .columnOverflow => none

/-- Two calls in a row succeed only if both do. -/
theorem bind_eq_ok {ε α β : Type} {call : Except ε α} {next : α → Except ε β} {result : β} :
    call >>= next = .ok result ↔ ∃ value, call = .ok value ∧ next value = .ok result := by
  cases call with
  | error fault => simp [bind, Except.bind]
  | ok value => simp [bind, Except.bind]

end KeyMatrix
