import KeyMatrix.Grid

/-! # Cells and changes

The cells of a table are visited row by row, from the left. A change is a cell together
with the state its key has moved to.
-/
namespace KeyMatrix

/-- The place of a key. -/
structure Cell where
  row : Nat
  col : Nat
  deriving DecidableEq, Repr

/-- The cells of a table with the given numbers of rows and columns, row by row. -/
def cells (rows cols : Nat) : List Cell :=
  (List.range rows).flatMap fun r => (List.range cols).map (Cell.mk r)

@[simp] theorem mem_cells {rows cols : Nat} {cell : Cell} :
    cell ∈ cells rows cols ↔ cell.row < rows ∧ cell.col < cols := by
  rcases cell with ⟨r, c⟩
  simp only [cells, List.mem_flatMap, List.mem_range, List.mem_map, Cell.mk.injEq]
  constructor
  · rintro ⟨_, hr, _, hc, rfl, rfl⟩
    exact ⟨hr, hc⟩
  · rintro ⟨hr, hc⟩
    exact ⟨r, hr, c, hc, rfl, rfl⟩

theorem nodup_cells (rows cols : Nat) : (cells rows cols).Nodup := by
  rw [cells, List.nodup_iff_pairwise_ne, List.pairwise_flatMap]
  constructor
  · intro r _
    rw [List.pairwise_map]
    refine List.nodup_range.imp ?_
    intro c d hne h
    exact hne (Cell.mk.inj h).2
  · refine List.nodup_range.imp ?_
    intro r s hne x hx y hy h
    rcases List.mem_map.1 hx with ⟨_, _, rfl⟩
    rcases List.mem_map.1 hy with ⟨_, _, rfl⟩
    exact hne (Cell.mk.inj h).1

/-- A key that has gone down or up. -/
structure Change where
  row : Nat
  col : Nat
  pressed : Bool
  deriving DecidableEq, Repr

def Change.cell (change : Change) : Cell := ⟨change.row, change.col⟩

/-- The changes that lead from `old` to `new` within the given rows and columns, row by row. -/
def Grid.changes {width : Nat} (old new : Grid width) (rows cols : Nat) : List Change :=
  (cells rows cols).filterMap fun cell =>
    let pressed := new.isPressed cell.row cell.col
    if pressed != old.isPressed cell.row cell.col then some ⟨cell.row, cell.col, pressed⟩
    else none

@[simp] theorem Grid.changes_self {width : Nat} (grid : Grid width) (rows cols : Nat) :
    grid.changes grid rows cols = [] := by
  simp [Grid.changes]

end KeyMatrix
