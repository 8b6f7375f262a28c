import KeyMatrix.Debouncer
import KeyMatrix.Scanner

/-! # Debounced matrices

A scanner paired with a debouncer. The matrix owns the raw and the cooked grid; each
update is one scan cycle over the rows that the scanner samples.
-/
namespace KeyMatrix

/-- A scanner and a debouncer at work on a matrix with room for `rows` rows. -/
structure Matrix (σ δ : Type) (width rows : Nat) where
  scanner : σ
  debouncer : δ
  /-- The grid sampled in the last cycle. -/
  raw : Grid width := .released rows
  /-- The debounced grid. -/
  cooked : Grid width := .released rows
  /-- The rows in use. -/
  numRows : Nat
  numRows_le : numRows ≤ rows
  size_raw : raw.size = rows := by simp
  size_cooked : cooked.size = rows := by simp

namespace Matrix

variable {σ δ : Type} {width rows : Nat} [Scanner σ width] [Debouncer δ]

/-- A matrix that has just been put to work, with what there was to report. -/
structure Opened (σ δ : Type) (width rows : Nat) where
  matrix : Matrix σ δ width rows
  log : List Message

/-- Pair a scanner with a debouncer, which is initialized for the rows of the scanner. -/
def ofScanner (scanner : σ) (debouncer : δ) : Except Fault (Opened σ δ width rows) :=
  let n := Scanner.numRows scanner
  if h : n ≤ rows then do
    let prepared ← Debouncer.init debouncer n
    return {
      matrix := { scanner, debouncer := prepared.debouncer, numRows := n, numRows_le := h }
      log := prepared.log }
  else .error .scannerTooLarge

/-- A matrix after a scan cycle. -/
structure Updated (σ δ : Type) (width rows : Nat) where
  matrix : Matrix σ δ width rows
  /-- The debounced grid has changed. -/
  changed : Bool
  log : List Message

/-- Run one scan cycle. -/
def update (checks : Checks) (now : Instant) (matrix : Matrix σ δ width rows) :
    Except Fault (Updated σ δ width rows) := do
  let n := matrix.numRows
  let scan := Scanner.scan matrix.scanner (matrix.raw.take n)
  let raw := matrix.raw.overwrite n scan.raw
  let cycle ← Debouncer.debounce checks now matrix.debouncer
    (raw.take n) (matrix.cooked.take n) n scan.changed
  let cooked := matrix.cooked.overwrite n cycle.cooked
  return {
    matrix := { matrix with
      scanner := scan.scanner
      debouncer := cycle.debouncer
      raw, cooked
      size_raw := (Grid.size_overwrite ..).trans matrix.size_raw
      size_cooked := (Grid.size_overwrite ..).trans matrix.size_cooked }
    changed := matrix.cooked != cooked
    log := cycle.log }

/-- The rows in use of the grid sampled in the last cycle. -/
def rawRows (matrix : Matrix σ δ width rows) : Grid width := matrix.raw.take matrix.numRows

/-- The rows in use of the debounced grid. -/
def cookedRows (matrix : Matrix σ δ width rows) : Grid width :=
  matrix.cooked.take matrix.numRows

/-- The debounced state of a key; a key outside the matrix is not pressed. -/
def isPressed (matrix : Matrix σ δ width rows) (r c : Nat) : Bool :=
  matrix.cookedRows.isPressed r c

/-- Stop: the debouncer is freed and handed back. -/
def close (matrix : Matrix σ δ width rows) : Prepared δ := Debouncer.free matrix.debouncer

end Matrix
end KeyMatrix
