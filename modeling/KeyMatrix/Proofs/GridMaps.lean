import KeyMatrix.Proofs.ChangeLog

/-! # Maps between grids

A sweep looks at the cells of its path and at nothing else. When its grids are replaced by others
with the same keys there, it does the same to the keys, and to the other grids what it did to the
first ones.
-/
namespace KeyMatrix

/-- A cycle over the first rows and columns does not notice that its grids have been mapped. -/
structure Grid.Keeps {width width' : Nat} (f : Grid width → Grid width') (rows cols : Nat) :
    Prop where
  isPressed_eq (grid : Grid width) {cell : Cell} : cell.row < rows → cell.col < cols →
    (f grid).isPressed cell.row cell.col = grid.isPressed cell.row cell.col
  map_toggle (grid : Grid width) {cell : Cell} : cell.row < rows → cell.col < cols →
    f (grid.toggle cell.row cell.col) = (f grid).toggle cell.row cell.col
  recompute_eq (grid : Grid width) {room : Nat} (tally : Tally room cols) :
    tally.recompute ((f grid).take rows) = tally.recompute (grid.take rows)
  map_overwrite (grid top : Grid width) :
    f (grid.overwrite rows top) = (f grid).overwrite rows (f top)

section Maps
variable {width width' room rows cols : Nat} {f : Grid width → Grid width'}

theorem Grid.Keeps.changes_eq (h : Grid.Keeps f rows cols) (old new : Grid width) :
    (f old).changes (f new) rows cols = old.changes new rows cols := by
  rw [Grid.changes_eq_filterMap, Grid.changes_eq_filterMap]
  apply List.filterMap_congr
  intro cell hcell
  obtain ⟨hr, hc⟩ := mem_cells.1 hcell
  rw [Grid.change?, Grid.change?, h.isPressed_eq old hr hc, h.isPressed_eq new hr hc]

/-! ## Sweeps -/

/-- The same scene with another input. -/
def Scene.map (scene : Scene width room cols) (f : Grid width → Grid width') :
    Scene width' room cols where
  config := scene.config
  tally := scene.tally
  elapsed := scene.elapsed
  raw := f scene.raw

namespace Sweep

/-- The same state of a sweep with another cooked grid. -/
def map (sweep : Sweep width room cols) (f : Grid width → Grid width') :
    Sweep width' room cols where
  cooked := f sweep.cooked
  keys := sweep.keys
  changes := sweep.changes

variable (h : Grid.Keeps f rows cols) (scene : Scene width room cols)
  (sweep : Sweep width room cols)
include h

theorem outcome_map {cell : Cell} (hr : cell.row < rows) (hc : cell.col < cols) :
    outcome (scene.map f) (sweep.map f) cell = outcome scene sweep cell := by
  simp only [outcome, Scene.sample, Scene.map, map, h.isPressed_eq _ hr hc]

theorem visit_map {cell : Cell} (hr : cell.row < rows) (hc : cell.col < cols) :
    visit (scene.map f) (sweep.map f) cell = (visit scene sweep cell).map f := by
  have houtcome := outcome_map h scene sweep hr hc
  simp only [outcome] at houtcome
  simp only [visit, houtcome]
  simp only [map]
  generalize Key.step _ _ _ = outcome
  obtain ⟨key, verdict⟩ := outcome
  cases verdict with
  | accepted =>
    have hflipped := h.map_toggle sweep.cooked hr hc
    have hpressed := h.isPressed_eq (sweep.cooked.toggle cell.row cell.col) hr hc
    rw [hflipped] at hpressed
    simp only [hflipped, hpressed]
  | pending => rfl
  | ignored => rfl

theorem run_map {path : List Cell} (hpath : ∀ cell ∈ path, cell.row < rows ∧ cell.col < cols) :
    run (scene.map f) (sweep.map f) path = (run scene sweep path).map f := by
  induction path generalizing sweep with
  | nil => rfl
  | cons cell path ih =>
    rw [List.forall_mem_cons] at hpath
    rw [run_cons, run_cons, visit_map h scene sweep hpath.1.1 hpath.1.2, ih _ hpath.2]

end Sweep

end Maps

/-! ## Cutting off rows -/

namespace Grid

variable {width : Nat}

theorem take_take (grid : Grid width) (n : Nat) : (grid.take n).take n = grid.take n := by
  apply take_of_size_le
  rw [size_take]
  exact Nat.min_le_left ..

theorem take_toggle (grid : Grid width) (n r c : Nat) :
    (grid.toggle r c).take n = (grid.take n).toggle r c := by
  apply ext_row
  · simp
  · intro s hs
    rw [size_take, size_toggle] at hs
    have hsn : s < n := Nat.lt_of_lt_of_le hs (Nat.min_le_left ..)
    rw [row_take, if_pos hsn, row_toggle, row_toggle, size_take, row_take, if_pos hsn]
    by_cases hsr : s = r
    · subst hsr
      simp [hsn]
    · rw [if_neg fun h => hsr h.1, if_neg fun h => hsr h.1]

/-- Rows can be cut off before or after they are copied. -/
theorem take_overwrite_take (grid top : Grid width) (n : Nat) :
    (grid.take n).overwrite n (top.take n) = (grid.overwrite n top).take n := by
  apply ext_row
  · simp
  · intro r hr
    rw [size_overwrite, size_take] at hr
    have hrn : r < n := Nat.lt_of_lt_of_le hr (Nat.min_le_left ..)
    rw [row_overwrite, row_take, row_take, row_take, if_pos hrn, if_pos hrn, if_pos hrn,
      row_overwrite, size_take, size_take]
    simp only [hrn, true_and, Nat.lt_min]

/-- A cycle does not notice that rows which it does not cover have been cut off. -/
theorem keeps_take (n cols : Nat) : Keeps (fun grid : Grid width => grid.take n) n cols where
  isPressed_eq grid cell hr _ := by
    rw [isPressed_take, decide_eq_true hr, Bool.true_and]
  map_toggle grid cell _ _ := take_toggle grid n cell.row cell.col
  recompute_eq grid _ tally := by rw [take_take]
  map_overwrite grid top := (take_overwrite_take grid top n).symm

end Grid

/-! ## More columns -/

namespace Row

variable {width width' : Nat}

/-- The same keys in a wider row. -/
def widen (width' : Nat) (row : Row width) : Row width' := ⟨row.bits.setWidth width'⟩

/-- No key is lost, and none is added. -/
theorem isPressed_widen (h : width ≤ width') (row : Row width) (c : Nat) :
    (row.widen width').isPressed c = row.isPressed c := by
  rw [isPressed, widen, BitVec.getLsbD_setWidth]
  by_cases hc : c < width
  · rw [decide_eq_true (Nat.lt_of_lt_of_le hc h), Bool.true_and, isPressed]
  · rw [row.isPressed_of_width_le (Nat.le_of_not_lt hc),
      BitVec.getLsbD_of_ge _ _ (Nat.le_of_not_lt hc), Bool.and_false]

theorem widen_injective (h : width ≤ width') {a b : Row width}
    (hab : a.widen width' = b.widen width') : a = b := by
  apply ext_isPressed
  intro c _
  rw [← isPressed_widen h a, hab, isPressed_widen h b]

@[simp] theorem widen_empty : (empty : Row width).widen width' = empty := by
  simp [widen, empty]

theorem hasMultiple_widen (h : width ≤ width') (row : Row width) :
    (row.widen width').hasMultiple = row.hasMultiple := by
  rw [Bool.eq_iff_iff, hasMultiple_iff, hasMultiple_iff]
  simp only [isPressed_widen h]

theorem toggle_widen (h : width ≤ width') (row : Row width) {c : Nat} (hc : c < width) :
    (row.toggle c).widen width' = (row.widen width').toggle c := by
  apply ext_isPressed
  intro d _
  rw [isPressed_widen h, isPressed_toggle, isPressed_toggle, isPressed_widen h]
  simp only [hc, Nat.lt_of_lt_of_le hc h]

end Row

namespace Grid

variable {width width' : Nat}

/-- The same keys in a grid of wider rows. -/
def widen (width' : Nat) (grid : Grid width) : Grid width' :=
  ⟨grid.rows.map (Row.widen width')⟩

@[simp] theorem size_widen (grid : Grid width) : (grid.widen width').size = grid.size := by
  simp [widen, size]

theorem row_widen (grid : Grid width) (r : Nat) :
    (grid.widen width').row r = (grid.row r).widen width' := by
  simp only [row, widen, Array.getElem?_map]
  cases grid.rows[r]? with
  | none => exact Row.widen_empty.symm
  | some row => rfl

theorem isPressed_widen (h : width ≤ width') (grid : Grid width) (r c : Nat) :
    (grid.widen width').isPressed r c = grid.isPressed r c := by
  rw [isPressed, row_widen, Row.isPressed_widen h, isPressed]

theorem widen_injective (h : width ≤ width') {a b : Grid width}
    (hab : a.widen width' = b.widen width') : a = b := by
  have hsize : a.size = b.size := by
    have hwide := congrArg size hab
    rwa [size_widen, size_widen] at hwide
  apply ext_row hsize
  intro r _
  apply Row.widen_injective h
  rw [← row_widen, hab, row_widen]

@[simp] theorem widen_released (n : Nat) :
    (released n : Grid width).widen width' = released n := by
  apply ext_row
  · simp
  · intro r _
    rw [row_widen, row_released, row_released, Row.widen_empty]

theorem take_widen (grid : Grid width) (n : Nat) :
    (grid.widen width').take n = (grid.take n).widen width' := by
  apply ext_row
  · simp
  · intro r _
    rw [row_take, row_widen, row_widen, row_take]
    split
    · rfl
    · exact Row.widen_empty.symm

theorem overwrite_widen (grid top : Grid width) (n : Nat) :
    (grid.widen width').overwrite n (top.widen width') = (grid.overwrite n top).widen width' := by
  apply ext_row
  · simp
  · intro r _
    rw [row_overwrite, row_widen, row_widen, row_widen, row_overwrite, size_widen, size_widen]
    split <;> rfl

theorem toggle_widen (h : width ≤ width') (grid : Grid width) (r : Nat) {c : Nat}
    (hc : c < width) : (grid.toggle r c).widen width' = (grid.widen width').toggle r c := by
  apply ext_row
  · simp
  · intro s _
    rw [row_widen, row_toggle, row_toggle, size_widen, row_widen]
    split
    · exact Row.toggle_widen h _ hc
    · rfl

end Grid

theorem Tally.recompute_widen {width width' rows cols : Nat} (h : width ≤ width')
    (tally : Tally rows cols) (grid : Grid width) :
    tally.recompute (grid.widen width') = tally.recompute grid := by
  rw [recompute, recompute, mk.injEq]
  constructor
  · apply Vector.ext
    intro r hr
    simp only [Vector.getElem_mapIdx, Grid.widen, Array.getElem?_map, Option.map_map]
    cases grid.rows[r]? with
    | none => rfl
    | some row => exact Row.hasMultiple_widen h row
  · have hcount (counts : Vector UInt8 cols) (row : Row width) :
        countRow counts (row.widen width') = countRow counts row := by
      simp only [countRow, Row.isPressed_widen h]
    rw [Grid.take_widen, Grid.toList, Grid.widen, Array.toList_map, List.foldl_map]
    simp only [hcount]
    rfl

/-- A cycle does not notice that its rows have been widened, as long as they had all columns
before. -/
theorem Grid.keeps_widen {width width' cols : Nat} (h : width ≤ width') (hcols : cols ≤ width)
    (rows : Nat) : Keeps (widen width' : Grid width → Grid width') rows cols where
  isPressed_eq grid cell _ _ := isPressed_widen h grid cell.row cell.col
  map_toggle grid cell _ hc := toggle_widen h grid cell.row (Nat.lt_of_lt_of_le hc hcols)
  recompute_eq grid _ tally := by rw [take_widen, Tally.recompute_widen h]
  map_overwrite grid top := (overwrite_widen grid top rows).symm

end KeyMatrix
