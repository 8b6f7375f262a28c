import KeyMatrix.Change
import KeyMatrix.KeyTable
import KeyMatrix.Tally

/-! # Sweeps over the keys of a matrix

A sweep visits the cells row by row and advances each key in place. An accepted change
flips the cooked bit of the cell at once and is noted with the state the bit then has.
Since a visit reads and writes nothing but its own cell, every key advances as if it
were alone.
-/
namespace KeyMatrix

/-- What a whole sweep shares: the settings, the input and the time since the last cycle. -/
structure Scene (width rows cols : Nat) where
  config : Config
  tally : Tally rows cols
  elapsed : UInt8
  raw : Grid width

/-- What the key of a cell gets to see, given the cooked grid. -/
def Scene.sample {width rows cols : Nat} (scene : Scene width rows cols) (cooked : Grid width)
    (cell : Cell) : Sample where
  raw := scene.raw.isPressed cell.row cell.col
  cooked := cooked.isPressed cell.row cell.col
  elapsed := scene.elapsed
  ambiguous := scene.tally.isAmbiguous cell.row cell.col

/-- The state of a sweep between two visits. -/
structure Sweep (width rows cols : Nat) where
  cooked : Grid width
  keys : KeyTable rows cols
  changes : Array Change := #[]

namespace Sweep

variable {width rows cols : Nat}

/-- Advance the key of one cell. -/
def visit (scene : Scene width rows cols) (sweep : Sweep width rows cols) (cell : Cell) :
    Sweep width rows cols :=
  let ⟨cooked, keys, changes⟩ := sweep
  let ⟨key, verdict⟩ :=
    (keys.get cell.row cell.col).step scene.config (scene.sample cooked cell)
  let keys := keys.set cell.row cell.col key
  match verdict with
  | .accepted =>
    let cooked := cooked.toggle cell.row cell.col
    let pressed := cooked.isPressed cell.row cell.col
    { cooked, keys, changes := changes.push ⟨cell.row, cell.col, pressed⟩ }
  | .pending | .ignored => { cooked, keys, changes }

/-- Visit the given cells in order. -/
def run (scene : Scene width rows cols) (sweep : Sweep width rows cols) (path : List Cell) :
    Sweep width rows cols :=
  path.foldl (visit scene) sweep

/-- What the key of a cell does when it is visited. -/
def outcome (scene : Scene width rows cols) (sweep : Sweep width rows cols) (cell : Cell) :
    Key × Verdict :=
  (sweep.keys.get cell.row cell.col).step scene.config (scene.sample sweep.cooked cell)

/-! ## The view of one visit -/

theorem visit_keys (scene : Scene width rows cols) (sweep : Sweep width rows cols)
    (cell : Cell) :
    (visit scene sweep cell).keys =
      sweep.keys.set cell.row cell.col (outcome scene sweep cell).1 := by
  simp only [visit, outcome]
  split <;> rfl

theorem visit_cooked (scene : Scene width rows cols) (sweep : Sweep width rows cols)
    (cell : Cell) :
    (visit scene sweep cell).cooked =
      if (outcome scene sweep cell).2 = .accepted then sweep.cooked.toggle cell.row cell.col
      else sweep.cooked := by
  simp only [visit, outcome]
  split <;> simp_all

theorem visit_changes (scene : Scene width rows cols) (sweep : Sweep width rows cols)
    (cell : Cell) :
    (visit scene sweep cell).changes.toList = sweep.changes.toList ++
      if (outcome scene sweep cell).2 = .accepted then
        [⟨cell.row, cell.col, (visit scene sweep cell).cooked.isPressed cell.row cell.col⟩]
      else [] := by
  simp only [visit, outcome]
  split <;> simp_all

@[simp] theorem visit_size (scene : Scene width rows cols) (sweep : Sweep width rows cols)
    (cell : Cell) : (visit scene sweep cell).cooked.size = sweep.cooked.size := by
  rw [visit_cooked]
  split <;> simp

theorem visit_get_other (scene : Scene width rows cols) (sweep : Sweep width rows cols)
    {cell : Cell} {r c : Nat} (h : cell ≠ ⟨r, c⟩) :
    (visit scene sweep cell).keys.get r c = sweep.keys.get r c := by
  rw [visit_keys, KeyTable.get_set, if_neg]
  rintro ⟨rfl, rfl, _, _⟩
  exact h rfl

theorem visit_isPressed_other (scene : Scene width rows cols) (sweep : Sweep width rows cols)
    {cell : Cell} {r c : Nat} (h : cell ≠ ⟨r, c⟩) :
    (visit scene sweep cell).cooked.isPressed r c = sweep.cooked.isPressed r c := by
  rw [visit_cooked]
  split
  · rw [Grid.isPressed_toggle, if_neg]
    rintro ⟨rfl, rfl, _, _⟩
    exact h rfl
  · rfl

/-- A visit elsewhere does not change what a key is about to do. -/
theorem outcome_visit_other (scene : Scene width rows cols) (sweep : Sweep width rows cols)
    {cell other : Cell} (h : cell ≠ other) :
    outcome scene (visit scene sweep cell) other = outcome scene sweep other := by
  simp only [outcome, Scene.sample]
  rw [visit_get_other _ _ h, visit_isPressed_other _ _ h]

/-! ## The view of a whole run -/

@[simp] theorem run_nil (scene : Scene width rows cols) (sweep : Sweep width rows cols) :
    run scene sweep [] = sweep := rfl

@[simp] theorem run_cons (scene : Scene width rows cols) (sweep : Sweep width rows cols)
    (cell : Cell) (path : List Cell) :
    run scene sweep (cell :: path) = run scene (visit scene sweep cell) path := rfl

@[simp] theorem run_size (scene : Scene width rows cols) (sweep : Sweep width rows cols)
    (path : List Cell) : (run scene sweep path).cooked.size = sweep.cooked.size := by
  induction path generalizing sweep with
  | nil => rfl
  | cons cell path ih => rw [run_cons, ih, visit_size]

theorem run_get_outside (scene : Scene width rows cols) (sweep : Sweep width rows cols)
    {path : List Cell} {r c : Nat} (h : ⟨r, c⟩ ∉ path) :
    (run scene sweep path).keys.get r c = sweep.keys.get r c := by
  induction path generalizing sweep with
  | nil => rfl
  | cons cell path ih =>
    rw [List.mem_cons, not_or] at h
    rw [run_cons, ih _ h.2, visit_get_other _ _ (Ne.symm h.1)]

theorem run_isPressed_outside (scene : Scene width rows cols) (sweep : Sweep width rows cols)
    {path : List Cell} {r c : Nat} (h : ⟨r, c⟩ ∉ path) :
    (run scene sweep path).cooked.isPressed r c = sweep.cooked.isPressed r c := by
  induction path generalizing sweep with
  | nil => rfl
  | cons cell path ih =>
    rw [List.mem_cons, not_or] at h
    rw [run_cons, ih _ h.2, visit_isPressed_other _ _ (Ne.symm h.1)]

/-- On a path without repetitions, the key of a visited cell ends up where its own step
from the state before the run takes it. -/
theorem run_get_visited (scene : Scene width rows cols) (sweep : Sweep width rows cols)
    {path : List Cell} (hp : path.Nodup) {cell : Cell} (h : cell ∈ path)
    (hr : cell.row < rows) (hc : cell.col < cols) :
    (run scene sweep path).keys.get cell.row cell.col = (outcome scene sweep cell).1 := by
  induction path generalizing sweep with
  | nil => simp at h
  | cons first path ih =>
    rw [List.nodup_cons] at hp
    by_cases he : cell = first
    · subst he
      rw [run_cons, run_get_outside _ _ hp.1, visit_keys, KeyTable.get_set,
        if_pos ⟨rfl, rfl, hr, hc⟩]
    · have hm : cell ∈ path := (List.mem_cons.1 h).resolve_left he
      rw [run_cons, ih _ hp.2 hm, outcome_visit_other _ _ (Ne.symm he)]

/-- On a path without repetitions, the cooked bit of a visited cell is flipped exactly when
its key accepts a change. -/
theorem run_isPressed_visited (scene : Scene width rows cols) (sweep : Sweep width rows cols)
    {path : List Cell} (hp : path.Nodup) {cell : Cell} (h : cell ∈ path)
    (hr : cell.row < sweep.cooked.size) (hc : cell.col < width) :
    (run scene sweep path).cooked.isPressed cell.row cell.col =
      (sweep.cooked.isPressed cell.row cell.col ^^
        decide ((outcome scene sweep cell).2 = .accepted)) := by
  induction path generalizing sweep with
  | nil => simp at h
  | cons first path ih =>
    rw [List.nodup_cons] at hp
    by_cases he : cell = first
    · subst he
      rw [run_cons, run_isPressed_outside _ _ hp.1, visit_cooked]
      by_cases ha : (outcome scene sweep cell).2 = .accepted
      · rw [if_pos ha, Grid.isPressed_toggle, if_pos ⟨rfl, rfl, hr, hc⟩]
        simp [ha]
      · simp [ha]
    · have hm : cell ∈ path := (List.mem_cons.1 h).resolve_left he
      rw [run_cons, ih _ hp.2 hm (by rw [visit_size]; exact hr),
        outcome_visit_other _ _ (Ne.symm he), visit_isPressed_other _ _ (Ne.symm he)]

end Sweep
end KeyMatrix
