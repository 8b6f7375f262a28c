import KeyMatrix.Grid

/-! # Scanners

A scanner samples the lines of a matrix once per scan cycle.
-/
namespace KeyMatrix

/-- What a scan yields. -/
structure Scan (σ : Type) (width : Nat) where
  /-- The scanner after the scan. -/
  scanner : σ
  /-- The rows as sampled. -/
  raw : Grid width
  /-- The hint that something changed since the scan before. -/
  changed : Bool

/-- A source of raw grids. -/
class Scanner (σ : Type) (width : outParam Nat) where
  /-- How many rows are sampled. -/
  numRows : σ → Nat
  /-- Sample the rows, given what they held before. -/
  scan : σ → Grid width → Scan σ width

end KeyMatrix
