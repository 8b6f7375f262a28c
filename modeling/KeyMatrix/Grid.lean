import KeyMatrix.Row

/-! # Grids of keys

A grid is a list of rows that can be updated in place. Its view `isPressed` is total:
below the last row, as beyond the last column, nothing is pressed.
-/
namespace KeyMatrix

/-- The rows of a key matrix, from the top. -/
@[ext] structure Grid (width : Nat) where
  rows : Array (Row width)
  deriving DecidableEq

namespace Grid

variable {width : Nat}

/-- A grid of `n` rows with every key released. -/
def released (n : Nat) : Grid width := ⟨Array.replicate n Row.empty⟩

def ofList (rows : List (Row width)) : Grid width := ⟨rows.toArray⟩

def toList (grid : Grid width) : List (Row width) := grid.rows.toList

/-- The number of rows. -/
def size (grid : Grid width) : Nat := grid.rows.size

/-- A row of the grid, empty below the last one. -/
def row (grid : Grid width) (r : Nat) : Row width := grid.rows[r]?.getD Row.empty

/-- Whether the key at `(r, c)` is pressed. -/
def isPressed (grid : Grid width) (r c : Nat) : Bool := (grid.row r).isPressed c

/-- Press or release the key at `(r, c)`. -/
def set (grid : Grid width) (r c : Nat) (pressed : Bool) : Grid width :=
  ⟨grid.rows.modify r (·.set c pressed)⟩

/-- Flip the key at `(r, c)`. -/
def toggle (grid : Grid width) (r c : Nat) : Grid width :=
  ⟨grid.rows.modify r (·.toggle c)⟩

/-- `set` at a row of the grid and a column address; other rows are refused. -/
def setAt (checks : Checks) (grid : Grid width) (r c : Nat) (pressed : Bool) :
    Except Fault (Grid width) :=
  if r < grid.size then (Row.column checks width c).map (grid.set r · pressed)
  else .error .outOfBounds

/-- The first `n` rows, all of them when there are fewer. -/
def take (grid : Grid width) (n : Nat) : Grid width := ⟨grid.rows.take n⟩

/-- Replace the first `n` rows by those of `top`, as far as both grids reach. -/
def overwrite (grid : Grid width) (n : Nat) (top : Grid width) : Grid width :=
  ⟨grid.rows.mapIdx fun r row => if r < n then top.rows[r]?.getD row else row⟩

/-! ## The view of each operation -/

theorem row_of_size_le (grid : Grid width) {r : Nat} (h : grid.size ≤ r) :
    grid.row r = Row.empty := by
  simp [row, Array.getElem?_eq_none h]

theorem isPressed_of_size_le (grid : Grid width) {r : Nat} (h : grid.size ≤ r) (c : Nat) :
    grid.isPressed r c = false := by
  simp [isPressed, grid.row_of_size_le h]

theorem ext_row {a b : Grid width} (hs : a.size = b.size)
    (h : ∀ r < a.size, a.row r = b.row r) : a = b := by
  apply Grid.ext
  apply Array.ext hs
  intro r ha hb
  have hr := h r ha
  simpa [row, Array.getElem?_eq_getElem ha, Array.getElem?_eq_getElem hb] using hr

theorem ext_isPressed {a b : Grid width} (hs : a.size = b.size)
    (h : ∀ r < a.size, ∀ c < width, a.isPressed r c = b.isPressed r c) : a = b :=
  ext_row hs fun r hr => Row.ext_isPressed (h r hr)

@[simp] theorem size_released (n : Nat) : (released n : Grid width).size = n := by
  simp [released, size]

@[simp] theorem row_released (n r : Nat) : (released n : Grid width).row r = Row.empty := by
  simp only [released, row, Array.getElem?_replicate]
  split <;> rfl

@[simp] theorem isPressed_released (n r c : Nat) :
    (released n : Grid width).isPressed r c = false := by
  simp [isPressed]

@[simp] theorem size_set (grid : Grid width) (r c : Nat) (pressed : Bool) :
    (grid.set r c pressed).size = grid.size := by
  simp [set, size]

@[simp] theorem size_toggle (grid : Grid width) (r c : Nat) :
    (grid.toggle r c).size = grid.size := by
  simp [toggle, size]

theorem row_set (grid : Grid width) (r c : Nat) (pressed : Bool) (s : Nat) :
    (grid.set r c pressed).row s =
      if s = r ∧ r < grid.size then (grid.row s).set c pressed else grid.row s := by
  simp only [row, set, Array.getElem?_modify, size]
  by_cases hs : r = s
  · subst hs
    by_cases hr : r < grid.rows.size
    · simp [hr]
    · simp [hr]
  · simp [hs, Ne.symm hs]

/-- A set changes its own cell, if the grid has it, and no other. -/
theorem isPressed_set (grid : Grid width) (r c : Nat) (pressed : Bool) (s d : Nat) :
    (grid.set r c pressed).isPressed s d =
      if s = r ∧ d = c ∧ r < grid.size ∧ c < width then pressed else grid.isPressed s d := by
  rw [isPressed, row_set]
  by_cases hr : s = r ∧ r < grid.size
  · rw [if_pos hr, Row.isPressed_set]
    by_cases hc : d = c ∧ c < width
    · simp [hr, hc]
    · rw [if_neg hc, if_neg (by omega)]
      rfl
  · rw [if_neg hr, if_neg (by omega)]
    rfl

theorem row_toggle (grid : Grid width) (r c s : Nat) :
    (grid.toggle r c).row s =
      if s = r ∧ r < grid.size then (grid.row s).toggle c else grid.row s := by
  simp only [row, toggle, Array.getElem?_modify, size]
  by_cases hs : r = s
  · subst hs
    by_cases hr : r < grid.rows.size
    · simp [hr]
    · simp [hr]
  · simp [hs, Ne.symm hs]

/-- A toggle flips its own cell, if the grid has it, and no other. -/
theorem isPressed_toggle (grid : Grid width) (r c s d : Nat) :
    (grid.toggle r c).isPressed s d =
      if s = r ∧ d = c ∧ r < grid.size ∧ c < width then !grid.isPressed s d
      else grid.isPressed s d := by
  rw [isPressed, row_toggle]
  by_cases hr : s = r ∧ r < grid.size
  · rw [if_pos hr, Row.isPressed_toggle]
    by_cases hc : d = c ∧ c < width
    · simp [hr, hc, isPressed]
    · rw [if_neg hc, if_neg (by omega)]
      rfl
  · rw [if_neg hr, if_neg (by omega)]
    rfl

@[simp] theorem size_take (grid : Grid width) (n : Nat) :
    (grid.take n).size = min n grid.size := by
  simp [take, size]

theorem getElem?_take (grid : Grid width) (n r : Nat) :
    (grid.take n).rows[r]? = if r < n then grid.rows[r]? else none := by
  simp only [take, Array.take_eq_extract, Array.getElem?_extract, Nat.sub_zero, Nat.zero_add,
    Nat.lt_min]
  by_cases hn : r < n
  · by_cases hr : r < grid.rows.size <;> simp [hn, hr]
  · simp [hn]

theorem row_take (grid : Grid width) (n r : Nat) :
    (grid.take n).row r = if r < n then grid.row r else Row.empty := by
  rw [row, getElem?_take, row]
  split <;> rfl

theorem isPressed_take (grid : Grid width) (n r c : Nat) :
    (grid.take n).isPressed r c = (decide (r < n) && grid.isPressed r c) := by
  rw [isPressed, row_take]
  by_cases h : r < n <;> simp [h, isPressed]

theorem take_of_size_le (grid : Grid width) {n : Nat} (h : grid.size ≤ n) :
    grid.take n = grid := by
  apply ext_row
  · rw [size_take]
    omega
  · intro r hr
    rw [size_take] at hr
    rw [row_take, if_pos (by omega)]

@[simp] theorem take_released (n rows : Nat) :
    (released rows : Grid width).take n = released (min n rows) := by
  apply ext_row
  · rw [size_take, size_released, size_released]
  · intro r _
    rw [row_take, row_released, row_released, ite_self]

@[simp] theorem size_overwrite (grid : Grid width) (n : Nat) (top : Grid width) :
    (grid.overwrite n top).size = grid.size := by
  simp [overwrite, size]

theorem row_overwrite (grid : Grid width) (n : Nat) (top : Grid width) (r : Nat) :
    (grid.overwrite n top).row r =
      if r < n ∧ r < grid.size ∧ r < top.size then top.row r else grid.row r := by
  simp only [overwrite, row, Array.getElem?_mapIdx, size]
  by_cases hg : r < grid.rows.size
  · by_cases hn : r < n
    · by_cases ht : r < top.rows.size
      · simp [hg, hn, ht]
      · simp [hg, hn, ht]
    · simp [hg, hn]
  · simp [hg]

/-- Rows that have been written and cut off again are the rows that were written. -/
theorem take_overwrite (grid : Grid width) {n : Nat} {top : Grid width} (hn : n ≤ grid.size)
    (htop : top.size = n) : (grid.overwrite n top).take n = top := by
  apply ext_row
  · rw [size_take, size_overwrite]
    omega
  · intro r hr
    rw [size_take, size_overwrite] at hr
    rw [row_take, if_pos (by omega), row_overwrite, if_pos ⟨by omega, by omega, by omega⟩]

@[simp] theorem overwrite_self (grid : Grid width) (n : Nat) : grid.overwrite n grid = grid := by
  apply ext_row (size_overwrite ..)
  intro r _
  rw [row_overwrite, ite_self]

@[simp] theorem overwrite_zero (grid top : Grid width) : grid.overwrite 0 top = grid := by
  apply ext_row (size_overwrite ..)
  intro r _
  rw [row_overwrite, if_neg (by omega)]

theorem overwrite_eq_self_iff (grid : Grid width) {n : Nat} {top : Grid width}
    (hn : n ≤ grid.size) (htop : top.size = n) :
    grid.overwrite n top = grid ↔ top = grid.take n := by
  constructor
  · intro h
    have ht := grid.take_overwrite hn htop
    rw [h] at ht
    exact ht.symm
  · intro h
    apply ext_row (size_overwrite ..)
    intro r _
    rw [row_overwrite, h, row_take]
    split
    · rename_i hr
      rw [if_pos hr.1]
    · rfl

end Grid
end KeyMatrix
