import KeyMatrix.Grid

/-! # Tallies of pressed keys

In a matrix without diodes, three keys held on the corners of a rectangle make the fourth
corner read as pressed too. A pressed cell can only be such a phantom if its row holds
another pressed key and its column a pressed key of another row. A tally keeps what is
needed to tell: which rows are crowded, and how many keys are down in every column.
-/
namespace KeyMatrix

/-- Which rows hold several pressed keys, and how many keys are down in every column. -/
structure Tally (rows cols : Nat) where
  crowded : Vector Bool rows
  /-- Counts that saturate at 255. -/
  down : Vector UInt8 cols
  deriving DecidableEq

namespace Tally

variable {width rows cols : Nat}

/-- The tally of a grid without pressed keys. -/
def clear : Tally rows cols := ⟨Vector.replicate rows false, Vector.replicate cols 0⟩

/-- Count the pressed keys of one more row. -/
def countRow (counts : Vector UInt8 cols) (row : Row width) : Vector UInt8 cols :=
  counts.mapIdx fun c count => if row.isPressed c && count != 255 then count + 1 else count

/-- The tally of the given grid. Rows that the grid lacks keep their flag; rows that the
tally lacks are not counted. -/
def recompute (tally : Tally rows cols) (raw : Grid width) : Tally rows cols where
  crowded := tally.crowded.mapIdx fun r flag => (raw.rows[r]?.map Row.hasMultiple).getD flag
  down := (raw.take rows).toList.foldl countRow (Vector.replicate cols 0)

/-- Whether several keys of row `r` are pressed. -/
def isCrowded (tally : Tally rows cols) (r : Nat) : Bool := tally.crowded[r]?.getD false

/-- How many keys of column `c` are pressed. -/
def downIn (tally : Tally rows cols) (c : Nat) : UInt8 := tally.down[c]?.getD 0

/-- Whether the cell lies in a crowded row and shares its column with another row. -/
def isAmbiguous (tally : Tally rows cols) (r c : Nat) : Bool :=
  tally.isCrowded r && 1 < tally.downIn c

/-! ## Looking up entries

Rows and columns outside the tally are refused. A cell of a row that is not crowded is
known to be unambiguous without looking at its column.
-/

/-- `isCrowded` for a row of the tally. -/
def crowdedAt (tally : Tally rows cols) (r : Nat) : Except Fault Bool :=
  if h : r < rows then .ok tally.crowded[r] else .error .outOfBounds

/-- `downIn` for a column of the tally. -/
def downAt (tally : Tally rows cols) (c : Nat) : Except Fault UInt8 :=
  if h : c < cols then .ok tally.down[c] else .error .outOfBounds

/-- `isAmbiguous` for a cell of the tally. -/
def ambiguousAt (tally : Tally rows cols) (r c : Nat) : Except Fault Bool := do
  if ← tally.crowdedAt r then return 1 < (← tally.downAt c) else return false

/-! ## The view of each operation -/

@[simp] theorem isCrowded_clear (r : Nat) : (clear : Tally rows cols).isCrowded r = false := by
  simp only [clear, isCrowded, Vector.getElem?_replicate]
  split <;> rfl

@[simp] theorem downIn_clear (c : Nat) : (clear : Tally rows cols).downIn c = 0 := by
  simp only [clear, downIn, Vector.getElem?_replicate]
  split <;> rfl

theorem isCrowded_recompute (tally : Tally rows cols) (raw : Grid width) (r : Nat) :
    (tally.recompute raw).isCrowded r =
      if r < rows ∧ r < raw.size then (raw.row r).hasMultiple else tally.isCrowded r := by
  simp only [isCrowded, recompute, Vector.getElem?_mapIdx, Grid.row, Grid.size]
  by_cases hr : r < rows
  · by_cases hs : r < raw.rows.size
    · simp [hr, hs]
    · simp [hr, hs]
  · simp [hr]

/-- Nothing of an older tally shows through where the grid has a row. -/
@[simp] theorem recompute_recompute (tally : Tally rows cols) (raw : Grid width) :
    (tally.recompute raw).recompute raw = tally.recompute raw := by
  rw [recompute, recompute, mk.injEq]
  refine ⟨?_, rfl⟩
  apply Vector.ext
  intro r hr
  rw [Vector.getElem_mapIdx, Vector.getElem_mapIdx]
  cases raw.rows[r]? <;> rfl

private theorem countRow_empty (counts : Vector UInt8 cols) :
    countRow counts (Row.empty : Row width) = counts := by
  apply Vector.ext
  intro c hc
  simp [countRow]

@[simp] theorem recompute_clear_released (n : Nat) :
    (clear : Tally rows cols).recompute (.released n : Grid width) = clear := by
  rw [recompute, clear, mk.injEq]
  constructor
  · apply Vector.ext
    intro r hr
    simp only [Grid.released, Vector.getElem_mapIdx, Vector.getElem_replicate,
      Array.getElem?_replicate]
    split
    · simp [Row.hasMultiple, Row.empty]
    · rfl
  · rw [Grid.take_released]
    simp only [Grid.toList, Grid.released, Array.toList_replicate]
    induction min rows n with
    | zero => rfl
    | succ m ih => rw [List.replicate_succ, List.foldl_cons, countRow_empty, ih]

end Tally
end KeyMatrix
