import KeyMatrix.Proofs.GridMaps
import KeyMatrix.Proofs.InPlace

/-! # The rows that a cycle covers

Apart from the question whether it is refused, a cycle is one over the rows that it shares with the
debouncer and both grids. It does not notice whether there are more rows, or more columns.
-/
namespace KeyMatrix

/-- The same cycle with another cooked grid. -/
def Cycle.map {δ : Type} {width width' : Nat} (cycle : Cycle δ width)
    (f : Grid width → Grid width') : Cycle δ width' where
  debouncer := cycle.debouncer
  cooked := f cycle.cooked
  log := cycle.log

/-- Debouncers whose cycles cover the first rows of their grids. -/
class CoveringDebouncer (δ : Type) [Debouncer δ] [SteadyDebouncer δ] [InPlaceDebouncer δ] where
  /-- What a cycle over the first rows comes to. -/
  cover {width : Nat} (shared : Nat) (now : Instant) (debouncer : δ) (raw cooked : Grid width)
    (changed : Bool) : Cycle δ width
  /-- With checks, a cycle over fewer rows than it is asked for is refused. -/
  strict : Bool
  debounce_eq {width : Nat} (checks : Checks) (now : Instant) (debouncer : δ)
    (raw cooked : Grid width) (numRows : Nat) (changed : Bool) :
    Debouncer.debounce checks now debouncer raw cooked numRows changed =
      let shared := sharedRows numRows (SteadyDebouncer.rowsInUse debouncer) raw cooked
      if checks = .on ∧ strict = true ∧ SteadyDebouncer.rowsInUse debouncer ≠ 0 ∧ shared ≠ numRows
      then .error .sizeMismatch
      else .ok (cover shared now debouncer raw cooked changed)
  cover_map {width width' shared : Nat} {f : Grid width → Grid width'} :
    Grid.Keeps f shared (InPlaceDebouncer.cols δ) →
    ∀ (now : Instant) (debouncer : δ) (raw cooked : Grid width) (changed : Bool),
      cover shared now debouncer (f raw) (f cooked) changed =
        (cover shared now debouncer raw cooked changed).map f
  size_cover {width : Nat} (shared : Nat) (now : Instant) (debouncer : δ) (raw cooked : Grid width)
    (changed : Bool) : (cover shared now debouncer raw cooked changed).cooked.size = cooked.size
  row_cover {width shared r : Nat} : shared ≤ r →
    ∀ (now : Instant) (debouncer : δ) (raw cooked : Grid width) (changed : Bool),
      (cover shared now debouncer raw cooked changed).cooked.row r = cooked.row r

/-! ## Timed keys -/

/-- A sweep leaves the rows alone that its path does not touch. -/
theorem Sweep.run_row_outside {width rows cols : Nat} (scene : Scene width rows cols)
    (sweep : Sweep width rows cols) {path : List Cell} {r : Nat}
    (h : ∀ cell ∈ path, cell.row ≠ r) :
    (run scene sweep path).cooked.row r = sweep.cooked.row r := by
  apply Row.ext_isPressed
  intro c _
  exact run_isPressed_outside scene sweep fun hmem => h ⟨r, c⟩ hmem rfl

theorem row_ne_of_mem_cells {rows cols r : Nat} (hr : rows ≤ r) :
    ∀ cell ∈ cells rows cols, cell.row ≠ r := by
  intro cell hcell heq
  exact Nat.not_lt.2 hr (heq ▸ (mem_cells.1 hcell).1)

namespace AntiGhost

variable {τ : Type} {rows cols width width' shared : Nat}

theorem renewed_map {f : Grid width → Grid width'} (h : Grid.Keeps f shared cols)
    (debouncer : AntiGhost τ rows cols) (raw : Grid width) (changed : Bool) :
    debouncer.renewed shared (f raw) changed = debouncer.renewed shared raw changed := by
  rw [renewed, renewed, h.recompute_eq]

theorem swept_map {f : Grid width → Grid width'} (h : Grid.Keeps f shared cols) (units : UInt8)
    (debouncer : AntiGhost τ rows cols) (raw cooked : Grid width) (changed : Bool) :
    debouncer.swept shared units (f raw) (f cooked) changed =
      (debouncer.swept shared units raw cooked changed).map f := by
  rw [swept, renewed_map h]
  exact Sweep.run_map h
    { config := debouncer.config
      tally := debouncer.renewed shared raw changed
      elapsed := units
      raw }
    { cooked, keys := debouncer.keys } fun _ hcell => mem_cells.1 hcell

variable [TimeSource τ]

theorem cover_map {f : Grid width → Grid width'} (h : Grid.Keeps f shared cols) (now : Instant)
    (debouncer : AntiGhost τ rows cols) (raw cooked : Grid width) (changed : Bool) :
    debouncer.cover shared now (f raw) (f cooked) changed =
      (debouncer.cover shared now raw cooked changed).map f := by
  rw [cover, cover]
  by_cases hn : debouncer.numRows = 0
  · rw [if_pos hn, if_pos hn]
    rfl
  · rw [if_neg hn, if_neg hn, served, renewed_map h, swept_map h]
    rfl

instance : CoveringDebouncer (AntiGhost τ rows cols) where
  cover := cover
  strict := true
  debounce_eq _ _ _ _ _ _ _ := by
    simp only [true_and]
    rfl
  cover_map := cover_map
  size_cover := size_cover
  row_cover hr now debouncer raw cooked changed := by
    rw [cover]
    split
    · rfl
    · exact Sweep.run_row_outside _ _ (row_ne_of_mem_cells hr)

/-- The keys and flags of rows that a cycle does not cover stay as they are. -/
theorem cover_outside {r : Nat} (hr : shared ≤ r) (now : Instant)
    (debouncer : AntiGhost τ rows cols) (raw cooked : Grid width) (changed : Bool) :
    (∀ c, (cover shared now debouncer raw cooked changed).debouncer.keys.get r c =
        debouncer.keys.get r c) ∧
      (cover shared now debouncer raw cooked changed).debouncer.tally.isCrowded r =
        debouncer.tally.isCrowded r := by
  rw [cover]
  split
  · exact ⟨fun _ => rfl, rfl⟩
  · constructor
    · intro c
      refine Sweep.run_get_outside _ _ fun hmem => ?_
      exact row_ne_of_mem_cells hr ⟨r, c⟩ hmem rfl
    · cases changed with
      | false => rfl
      | true =>
        refine (Tally.isCrowded_recompute ..).trans (if_neg ?_)
        rw [Grid.size_take]
        omega

end AntiGhost

/-! ## Copied rows -/

theorem Grid.row_overwrite_outside {width rows r : Nat} (hr : rows ≤ r) (grid top : Grid width) :
    (grid.overwrite rows top).row r = grid.row r := by
  rw [row_overwrite, if_neg fun h => Nat.not_lt.2 hr h.1]

namespace EventLog

variable {rows cols capacity width width' shared : Nat}

theorem cover_map {f : Grid width → Grid width'} (h : Grid.Keeps f shared cols) (now : Instant)
    (log : EventLog rows cols capacity) (raw cooked : Grid width) (changed : Bool) :
    cover shared now log (f raw) (f cooked) changed =
      (cover shared now log raw cooked changed).map f := by
  cases changed with
  | false => rfl
  | true => simp only [cover, if_true, h.changes_eq, h.map_overwrite, Cycle.map]

instance : CoveringDebouncer (EventLog rows cols capacity) where
  cover := cover
  strict := false
  debounce_eq checks now log raw cooked numRows changed :=
    (if_neg fun h => Bool.false_ne_true h.2.1).symm
  cover_map := cover_map
  size_cover := size_cover
  row_cover hr now log raw cooked changed := by
    cases changed with
    | false => rfl
    | true => exact Grid.row_overwrite_outside hr cooked raw

end EventLog

namespace Passthrough

variable {width : Nat}

instance : CoveringDebouncer Passthrough where
  cover shared _ := cover shared
  strict := false
  debounce_eq checks now debouncer raw cooked numRows changed :=
    (if_neg fun h => Bool.false_ne_true h.2.1).symm
  cover_map h now debouncer raw cooked changed := by
    cases changed with
    | false => rfl
    | true => simp only [cover, if_true, h.map_overwrite, Cycle.map]
  size_cover shared _ := size_cover shared
  row_cover hr now debouncer raw cooked changed := by
    cases changed with
    | false => rfl
    | true => exact Grid.row_overwrite_outside hr cooked raw

end Passthrough
end KeyMatrix
