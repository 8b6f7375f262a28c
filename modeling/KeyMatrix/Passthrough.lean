import KeyMatrix.Debouncer

/-! # Passing grids through

For matrices whose switches do not bounce, or are debounced in hardware.
-/
namespace KeyMatrix

/-- A debouncer that copies the raw grid as it is, whatever its size. -/
structure Passthrough where
  /-- The rows in use, none unless initialized. -/
  numRows : Nat := 0
  deriving DecidableEq, Repr, Inhabited

namespace Passthrough

variable {width : Nat}

def init (_debouncer : Passthrough) (n : Nat) : Prepared Passthrough where
  debouncer := ⟨n⟩

def free (_debouncer : Passthrough) : Prepared Passthrough where
  debouncer := {}

/-- A cycle over the first rows: copy the raw rows, unless the hint says that there is nothing
new. -/
def cover (shared : Nat) (debouncer : Passthrough) (raw cooked : Grid width) (changed : Bool) :
    Cycle Passthrough width where
  debouncer := debouncer
  cooked := if changed then cooked.overwrite shared raw else cooked

/-- One scan cycle. -/
def debounce (debouncer : Passthrough) (raw cooked : Grid width) (numRows : Nat)
    (changed : Bool) : Cycle Passthrough width :=
  debouncer.cover (sharedRows numRows debouncer.numRows raw cooked) raw cooked changed

instance : Debouncer Passthrough where
  init debouncer n := .ok (debouncer.init n)
  free := free
  debounce _ _ debouncer raw cooked numRows changed :=
    .ok (debouncer.debounce raw cooked numRows changed)
  isActive _ := false

end Passthrough
end KeyMatrix
