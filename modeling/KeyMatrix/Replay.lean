import KeyMatrix.Scanner
import KeyMatrix.Timer

/-! # Recorded inputs

A scanner that plays back recorded grids and a time source that is told what to answer,
for running a matrix away from its hardware.
-/
namespace KeyMatrix

/-- A recorded scan. -/
structure Frame (width : Nat) where
  grid : Grid width
  /-- The hint to give; if there is none, the grid is compared with the one before. -/
  hint : Option Bool := none

/-- Plays back frames, and repeats the last grid when there are no more of them. -/
structure FrameScanner (width : Nat) where
  numRows : Nat
  frames : List (Frame width)
  /-- The grid of the last frame, once there has been one. -/
  last? : Option (Grid width) := none

namespace FrameScanner

variable {width : Nat}

/-- The last grid. Before the first frame all keys are released. -/
def last (scanner : FrameScanner width) : Grid width :=
  scanner.last?.getD (.released scanner.numRows)

/-- Add frames to be played later. -/
def push (scanner : FrameScanner width) (frames : List (Frame width)) : FrameScanner width :=
  { scanner with frames := scanner.frames ++ frames }

/-- Play the next frame. Rows that the frame lacks keep what they held. -/
def scan (scanner : FrameScanner width) (raw : Grid width) :
    Scan (FrameScanner width) width :=
  match scanner.frames with
  | [] =>
    let last := scanner.last
    { scanner, raw := raw.overwrite last.size last, changed := false }
  | frame :: rest =>
    { scanner := { scanner with frames := rest, last? := some frame.grid }
      raw := raw.overwrite frame.grid.size frame.grid
      changed := frame.hint.getD (frame.grid != scanner.last) }

instance : Scanner (FrameScanner width) width where
  numRows := numRows
  scan := scan

end FrameScanner

/-- A time source that answers what it has been told. -/
structure ScriptedTimer where
  units : UInt8 := 1
  deriving DecidableEq, Repr

instance : TimeSource ScriptedTimer where
  elapsed timer _ := { units := timer.units, timer }
  reset timer := timer

end KeyMatrix
