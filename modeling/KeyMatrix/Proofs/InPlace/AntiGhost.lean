import KeyMatrix.Proofs.Desk

/-! # Timed keys, step by step

The calls of a debouncer with timed keys, in the order in which they look at things and change
them. The tally is renewed row by row, and the keys are advanced cell by cell.
-/
namespace KeyMatrix

theorem sharedRows_le_raw {width : Nat} (numRows inUse : Nat) (raw cooked : Grid width) :
    sharedRows numRows inUse raw cooked ≤ raw.size := by
  simp only [sharedRows]
  omega

theorem sharedRows_le_cooked {width : Nat} (numRows inUse : Nat) (raw cooked : Grid width) :
    sharedRows numRows inUse raw cooked ≤ cooked.size := by
  simp only [sharedRows]
  omega

theorem Row.hasMultiple_of_isEmpty {width : Nat} {row : Row width} (h : row.isEmpty = true) :
    row.hasMultiple = false := by
  have hbits : row.bits = 0 := by simpa [isEmpty] using h
  simp [hasMultiple, hbits]

namespace Grid

variable {width : Nat}

theorem getElem?_rows {grid : Grid width} {r : Nat} (h : r < grid.size) :
    grid.rows[r]? = some (grid.row r) := by
  rw [row, Array.getElem?_eq_getElem h, Option.getD_some]

theorem toList_take_succ {grid : Grid width} {r : Nat} (h : r < grid.size) :
    (grid.take (r + 1)).toList = (grid.take r).toList ++ [grid.row r] := by
  have hr : grid.rows.toList[r]? = some (grid.row r) := by
    rw [Array.getElem?_toList, getElem?_rows h]
  simp only [toList, take, Array.take_eq_extract, Array.toList_extract, List.extract_eq_take_drop,
    List.drop_zero, Nat.sub_zero]
  rw [List.take_add_one, hr]
  rfl

end Grid

/-! ## The tally row by row -/

namespace Tally

variable {width rows cols : Nat}

theorem countRow_of_isEmpty (counts : Vector UInt8 cols) {row : Row width}
    (h : row.isEmpty = true) : countRow counts row = counts := by
  rw [Row.isEmpty_iff] at h
  apply Vector.ext
  intro c hc
  simp [countRow, h]

theorem recompute_take_zero (tally : Tally rows cols) (raw : Grid width) :
    tally.recompute (raw.take 0) = { tally with down := Vector.replicate cols 0 } := by
  rw [recompute, mk.injEq]
  constructor
  · apply Vector.ext
    intro r hr
    simp [Grid.take]
  · simp [Grid.take, Grid.toList]

/-- One more row replaces its flag and adds its keys to the counts. -/
theorem recompute_take_succ (tally : Tally rows cols) (raw : Grid width) {r : Nat} (hr : r < rows)
    (hraw : r < raw.size) :
    tally.recompute (raw.take (r + 1)) =
      { crowded := (tally.recompute (raw.take r)).crowded.setIfInBounds r (raw.row r).hasMultiple
        down := countRow (tally.recompute (raw.take r)).down (raw.row r) } := by
  have hall (n : Nat) (hn : n ≤ rows) : (raw.take n).take rows = raw.take n := by
    apply Grid.take_of_size_le
    rw [Grid.size_take]
    omega
  rw [recompute, mk.injEq]
  constructor
  · apply Vector.ext
    intro s hs
    by_cases hsr : s = r
    · subst hsr
      simp [Grid.getElem?_take, Grid.getElem?_rows hraw]
    · have hlt : s < r + 1 ↔ s < r := by omega
      have hsame : (raw.take (r + 1)).rows[s]? = (raw.take r).rows[s]? := by
        simp only [Grid.getElem?_take, hlt]
      simp [recompute, hsame, Ne.symm hsr]
  · rw [recompute, hall _ hr, hall _ (Nat.le_of_lt hr), Grid.toList_take_succ hraw,
      List.foldl_append]
    rfl

/-- Rows that the tally lacks make no difference. -/
theorem recompute_take_all (tally : Tally rows cols) (raw : Grid width) :
    tally.recompute (raw.take (min rows raw.size)) = tally.recompute raw := by
  rw [recompute, recompute, mk.injEq]
  constructor
  · apply Vector.ext
    intro r hr
    by_cases hraw : r < raw.size
    · have hlt : r < min rows raw.size := by omega
      rw [Vector.getElem_mapIdx, Vector.getElem_mapIdx, Grid.getElem?_take, if_pos hlt]
    · have hnone : raw.rows[r]? = none := Array.getElem?_eq_none (Nat.le_of_not_lt hraw)
      simp [Grid.getElem?_take, hnone]
  · have htake : (raw.take (min rows raw.size)).take rows = raw.take rows := by
      apply Grid.ext_row
      · simp only [Grid.size_take]
        omega
      · intro r hr
        simp only [Grid.size_take] at hr
        rw [Grid.row_take, Grid.row_take, Grid.row_take, if_pos (by omega), if_pos (by omega),
          if_pos (by omega)]
    rw [htake]

/-- Count a pressed key of column `c`, unless the counter is full. -/
def countKey (tally : Tally rows cols) (c : Nat) : Tally rows cols where
  crowded := tally.crowded
  down := tally.down.mapIdx fun d count => if d = c && count != 255 then count + 1 else count

/-- The counts when a row has been looked through as far as column `c`. -/
def countTo (counts : Vector UInt8 cols) (row : Row width) (c : Nat) : Vector UInt8 cols :=
  counts.mapIdx fun d count =>
    if d < c ∧ row.isPressed d = true ∧ count ≠ 255 then count + 1 else count

theorem countTo_zero (counts : Vector UInt8 cols) (row : Row width) :
    countTo counts row 0 = counts := by
  apply Vector.ext
  intro d hd
  simp [countTo]

theorem countTo_cols (counts : Vector UInt8 cols) (row : Row width) :
    countTo counts row cols = countRow counts row := by
  apply Vector.ext
  intro d hd
  simp [countTo, countRow, hd]

theorem countTo_succ_of_pressed (crowded : Vector Bool rows) (counts : Vector UInt8 cols)
    {row : Row width} {c : Nat} (hc : row.isPressed c = true) :
    (⟨crowded, countTo counts row (c + 1)⟩ : Tally rows cols) =
      countKey ⟨crowded, countTo counts row c⟩ c := by
  rw [countKey, mk.injEq]
  refine ⟨rfl, ?_⟩
  apply Vector.ext
  intro d hd
  by_cases hdc : d = c
  · subst hdc
    simp [countTo, hc]
  · have hlt : d < c + 1 ↔ d < c := by omega
    simp only [countTo, Vector.getElem_mapIdx, hlt]
    simp [hdc]

theorem countTo_succ_of_released (counts : Vector UInt8 cols) {row : Row width} {c : Nat}
    (hc : row.isPressed c = false) : countTo counts row (c + 1) = countTo counts row c := by
  apply Vector.ext
  intro d hd
  by_cases hdc : d = c
  · subst hdc
    simp [countTo, hc]
  · have hlt : d < c + 1 ↔ d < c := by omega
    simp only [countTo, Vector.getElem_mapIdx, hlt]

end Tally

namespace InPlace

open Guarded

variable {τ : Type} {width rows cols : Nat}

/-- The desk with another tally. -/
def tallied (desk : Desk (AntiGhost τ rows cols) width) (tally : Tally rows cols) :
    Desk (AntiGhost τ rows cols) width :=
  { desk with debouncer := { desk.debouncer with tally } }

/-- Change the tally. -/
def retally (f : Tally rows cols → Tally rows cols) : Work (AntiGhost τ rows cols) width Unit :=
  Work.alter fun debouncer => { debouncer with tally := f debouncer.tally }

theorem run_retally (f : Tally rows cols → Tally rows cols)
    (desk : Desk (AntiGhost τ rows cols) width) :
    (retally f).run desk = .ok () (tallied desk (f desk.debouncer.tally)) := rfl

/-- Look at one key of a row, and count it if it is pressed. -/
def tallyKey (checks : Checks) (row : Row width) (c : Nat) :
    Work (AntiGhost τ rows cols) width Unit := do
  if ← row.isPressedAt checks c then retally (·.countKey c)

/-- Look through a row. If no key is pressed in it, none of them is looked at. -/
def tallyRow (checks : Checks) (raw : Grid width) (r : Nat) :
    Work (AntiGhost τ rows cols) width Unit := do
  let row ← rowAt raw r
  if row.isEmpty then
    retally fun tally => { tally with crowded := tally.crowded.setIfInBounds r false }
  else
    retally fun tally => { tally with crowded := tally.crowded.setIfInBounds r row.hasMultiple }
    forM (List.range cols) (tallyKey checks row)

/-- Renew the tally. -/
def recompute (checks : Checks) (raw : Grid width) : Work (AntiGhost τ rows cols) width Unit := do
  retally fun tally => { tally with down := Vector.replicate cols 0 }
  forM (List.range (min rows raw.size)) (tallyRow checks raw)

theorem run_tallyKey (checks : Checks) (row : Row width) {c : Nat} (hc : c < width)
    (crowded : Vector Bool rows) (counts : Vector UInt8 cols)
    (desk : Desk (AntiGhost τ rows cols) width) :
    (tallyKey checks row c).run (tallied desk ⟨crowded, Tally.countTo counts row c⟩) =
      .ok () (tallied desk ⟨crowded, Tally.countTo counts row (c + 1)⟩) := by
  rw [tallyKey, row.isPressedAt_eq checks hc, Work.run_bind_ok (Work.run_lift_fault_ok ..)]
  cases hp : row.isPressed c with
  | true =>
    rw [Tally.countTo_succ_of_pressed crowded counts hp]
    rfl
  | false =>
    rw [Tally.countTo_succ_of_released counts hp]
    rfl

theorem run_tallyRow (hcols : cols ≤ width) (checks : Checks) (raw : Grid width) {r : Nat}
    (hr : r < rows) (hraw : r < raw.size) (tally : Tally rows cols)
    (desk : Desk (AntiGhost τ rows cols) width) :
    (tallyRow checks raw r).run (tallied desk (tally.recompute (raw.take r))) =
      .ok () (tallied desk (tally.recompute (raw.take (r + 1)))) := by
  rw [tally.recompute_take_succ raw hr hraw, tallyRow, rowAt_eq hraw,
    Work.run_bind_ok (Work.run_lift_ok ..)]
  generalize tally.recompute (raw.take r) = before
  by_cases hempty : (raw.row r).isEmpty = true
  · rw [if_pos hempty, run_retally, Row.hasMultiple_of_isEmpty hempty,
      Tally.countRow_of_isEmpty _ hempty]
    rfl
  · have hkeys := Work.run_forM_range (tallyKey checks (raw.row r))
      (fun c => tallied desk ⟨before.crowded.setIfInBounds r (raw.row r).hasMultiple,
        Tally.countTo before.down (raw.row r) c⟩)
      fun c hc => run_tallyKey checks (raw.row r) (Nat.lt_of_lt_of_le hc hcols) _ _ desk
    rw [Tally.countTo_zero, Tally.countTo_cols] at hkeys
    rw [if_neg hempty, Work.run_bind_ok (run_retally ..)]
    exact hkeys

/-- Row by row, the tally becomes the one of the whole grid. -/
theorem run_recompute (hcols : cols ≤ width) (checks : Checks) (raw : Grid width)
    (desk : Desk (AntiGhost τ rows cols) width) :
    (recompute checks raw).run desk =
      .ok () (tallied desk (desk.debouncer.tally.recompute raw)) := by
  have hrows := Work.run_forM_range (tallyRow checks raw) (n := min rows raw.size)
    (fun r => tallied desk (desk.debouncer.tally.recompute (raw.take r)))
    fun r hr => run_tallyRow hcols checks raw (by omega) (by omega) _ desk
  rw [Tally.recompute_take_zero, Tally.recompute_take_all] at hrows
  rw [recompute, Work.run_bind_ok (run_retally ..)]
  exact hrows

/-- Look at the raw grid for phantoms if it has changed. -/
def renewTally (checks : Checks) (raw : Grid width) (shared : Nat) (changed : Bool) :
    Work (AntiGhost τ rows cols) width Unit := do
  if changed then recompute checks (← take raw shared)

theorem run_renewTally (hcols : cols ≤ width) (checks : Checks) {raw : Grid width} {shared : Nat}
    (hraw : shared ≤ raw.size) (changed : Bool) (desk : Desk (AntiGhost τ rows cols) width) :
    (renewTally checks raw shared changed).run desk =
      .ok () (tallied desk (desk.debouncer.renewed shared raw changed)) := by
  cases changed with
  | false => rfl
  | true =>
    rw [renewTally, if_pos rfl, take_eq hraw, Work.run_bind_ok (Work.run_lift_ok ..),
      run_recompute hcols]
    rfl

/-! ## The keys cell by cell -/

/-- The desk in the course of a sweep. -/
def swept (desk : Desk (AntiGhost τ rows cols) width) (sweep : Sweep width rows cols) :
    Desk (AntiGhost τ rows cols) width where
  debouncer := { desk.debouncer with keys := sweep.keys }
  cooked := sweep.cooked
  log := desk.log ++ sweep.changes.toList.map .accepted

/-- Nothing has happened before the first visit. -/
theorem swept_self (desk : Desk (AntiGhost τ rows cols) width) :
    swept desk { cooked := desk.cooked, keys := desk.debouncer.keys } = desk :=
  congrArg (Desk.mk desk.debouncer desk.cooked) (List.append_nil desk.log)

/-- What the visits of a sweep share. -/
def scene (desk : Desk (AntiGhost τ rows cols) width) (raw : Grid width) (elapsed : UInt8) :
    Scene width rows cols where
  config := desk.debouncer.config
  tally := desk.debouncer.tally
  elapsed := elapsed
  raw := raw

/-- Advance the key of one cell. -/
def visit (checks : Checks) (raw : Grid width) (elapsed : UInt8) (cell : Cell) :
    Work (AntiGhost τ rows cols) width Unit := do
  let ⟨debouncer, grid, _⟩ ← get
  let pressed ← isPressed checks raw cell.row cell.col
  let cooked ← isPressed checks grid cell.row cell.col
  let ambiguous ← debouncer.tally.ambiguousAt cell.row cell.col
  let key ← debouncer.keys.keyAt cell.row cell.col
  let ⟨key, verdict⟩ ← step checks debouncer.config ⟨pressed, cooked, elapsed, ambiguous⟩ key
  Work.alter fun debouncer =>
    { debouncer with keys := debouncer.keys.set cell.row cell.col key }
  match verdict with
  | .accepted =>
    let grid ← toggle checks grid cell.row cell.col
    Work.recook fun _ => grid
    let pressed ← isPressed checks grid cell.row cell.col
    Work.report [.accepted ⟨cell.row, cell.col, pressed⟩]
  | .pending | .ignored => return

theorem run_visit (hcols : cols ≤ width) (checks : Checks) {raw : Grid width} (elapsed : UInt8)
    {cell : Cell} {desk : Desk (AntiGhost τ rows cols) width} {sweep : Sweep width rows cols}
    (hraw : cell.row < raw.size) (hcooked : cell.row < sweep.cooked.size) (hr : cell.row < rows)
    (hc : cell.col < cols) :
    (visit checks raw elapsed cell).run (swept desk sweep) =
      .ok () (swept desk (sweep.visit (scene desk raw elapsed) cell)) := by
  have hwidth : cell.col < width := Nat.lt_of_lt_of_le hc hcols
  have hflipped : cell.row < (sweep.cooked.toggle cell.row cell.col).size := by
    rw [Grid.size_toggle]
    exact hcooked
  simp only [visit, swept, EStateM.run_bind, EStateM.run_get, isPressed_eq checks hraw hwidth,
    isPressed_eq checks hcooked hwidth, desk.debouncer.tally.ambiguousAt_eq hr hc,
    sweep.keys.keyAt_eq hr hc, step_eq, Work.run_lift_ok, Work.run_lift_fault_ok, Work.run_alter,
    Sweep.visit, Scene.sample, scene]
  generalize Key.step _ _ _ = outcome
  obtain ⟨key, verdict⟩ := outcome
  cases verdict with
  | accepted =>
    simp only [toggle_eq checks hcooked hwidth, isPressed_eq checks hflipped hwidth,
      EStateM.run_bind, Work.run_lift_ok, Work.run_recook, Work.run_report]
    simp
  | pending => rfl
  | ignored => rfl

/-- A loop over cells that all grids and tables have does what a sweep does. -/
theorem run_visits (hcols : cols ≤ width) (checks : Checks) (raw : Grid width) (elapsed : UInt8)
    (desk : Desk (AntiGhost τ rows cols) width) (sweep : Sweep width rows cols) {path : List Cell}
    (hpath : ∀ cell ∈ path, cell.row < raw.size ∧ cell.row < sweep.cooked.size ∧
      cell.row < rows ∧ cell.col < cols) :
    (forM path (visit checks raw elapsed)).run (swept desk sweep) =
      .ok () (swept desk (sweep.run (scene desk raw elapsed) path)) := by
  induction path generalizing sweep with
  | nil => rfl
  | cons cell path ih =>
    obtain ⟨hraw, hcooked, hr, hc⟩ := hpath cell List.mem_cons_self
    rw [List.forM_cons, Work.run_bind_ok (run_visit hcols checks elapsed hraw hcooked hr hc),
      Sweep.run_cons]
    apply ih
    intro other hmem
    rw [Sweep.visit_size]
    exact hpath other (List.mem_cons_of_mem _ hmem)

/-! ## The calls -/

variable [TimeSource τ]

/-- Take a reading of the time. -/
def readTime (now : Instant) : Work (AntiGhost τ rows cols) width UInt8 := do
  let reading := TimeSource.elapsed (← get).debouncer.timer now
  Work.alter fun debouncer => { debouncer with timer := reading.timer }
  Work.report reading.log
  return reading.units

def initAntiGhost (n : Nat) : Work (AntiGhost τ rows cols) width Unit := do
  if h : n ≤ rows then
    Work.alter fun debouncer => { debouncer with timer := TimeSource.reset debouncer.timer }
    retally fun _ => .clear
    Work.alter fun debouncer => { debouncer with keys := .waiting }
    Work.alter fun debouncer => { debouncer with numRows := n, numRows_le := h }
    Work.report [.initialized n cols]
  else throw (.fault .tooManyRows)

def freeAntiGhost : Work (AntiGhost τ rows cols) width Unit := do
  Work.alter fun debouncer => { debouncer with numRows := 0, numRows_le := Nat.zero_le _ }
  retally fun _ => .clear
  Work.alter fun debouncer => { debouncer with timer := TimeSource.reset debouncer.timer }
  Work.report [.freed]

/-- A cycle over the first rows of the grids. -/
def sweepRows (checks : Checks) (now : Instant) (raw : Grid width) (shared : Nat)
    (changed : Bool) : Work (AntiGhost τ rows cols) width Unit := do
  let elapsed ← readTime now
  renewTally checks raw shared changed
  forM (cells shared cols) (visit checks raw elapsed)

def debounceAntiGhost (checks : Checks) (now : Instant) (raw : Grid width) (numRows : Nat)
    (changed : Bool) : Work (AntiGhost τ rows cols) width Unit := do
  let desk ← get
  let shared := sharedRows numRows desk.debouncer.numRows raw desk.cooked
  if desk.debouncer.numRows = 0 then return
  else if checks = .on ∧ shared ≠ numRows then throw (.fault .sizeMismatch)
  else sweepRows checks now raw shared changed

theorem run_readTime (now : Instant) (desk : Desk (AntiGhost τ rows cols) width) :
    let reading := TimeSource.elapsed desk.debouncer.timer now
    (readTime now).run desk = .ok reading.units
      { desk with
        debouncer := { desk.debouncer with timer := reading.timer }
        log := desk.log ++ reading.log } := rfl

theorem run_sweepRows (hcols : cols ≤ width) (checks : Checks) (now : Instant) {raw : Grid width}
    {shared : Nat} (changed : Bool) {desk : Desk (AntiGhost τ rows cols) width}
    (hraw : shared ≤ raw.size) (hcooked : shared ≤ desk.cooked.size) (hrows : shared ≤ rows) :
    (sweepRows checks now raw shared changed).run desk =
      desk.settle (.ok (.cycled (desk.debouncer.served shared now raw desk.cooked changed))) := by
  have hpath : ∀ cell ∈ cells shared cols, cell.row < raw.size ∧ cell.row < desk.cooked.size ∧
      cell.row < rows ∧ cell.col < cols := by
    intro cell hcell
    obtain ⟨hr, hc⟩ := mem_cells.1 hcell
    exact ⟨Nat.lt_of_lt_of_le hr hraw, Nat.lt_of_lt_of_le hr hcooked, Nat.lt_of_lt_of_le hr hrows,
      hc⟩
  let reading := TimeSource.elapsed desk.debouncer.timer now
  have hvisits := run_visits hcols checks raw reading.units
    { debouncer := { desk.debouncer with
        timer := reading.timer
        tally := desk.debouncer.renewed shared raw changed }
      cooked := desk.cooked
      log := desk.log ++ reading.log }
    { cooked := desk.cooked, keys := desk.debouncer.keys } hpath
  rw [swept_self] at hvisits
  rw [sweepRows, Work.run_bind_ok (run_readTime now desk),
    Work.run_bind_ok (run_renewTally hcols checks hraw changed _), Desk.settle, AntiGhost.served,
    ← List.append_assoc]
  exact hvisits

theorem run_initAntiGhost (n : Nat) (desk : Desk (AntiGhost τ rows cols) width) :
    (initAntiGhost n).run desk =
      desk.settle ((Debouncer.init desk.debouncer n).map .prepared) := by
  change _ = desk.settle ((desk.debouncer.init n).map .prepared)
  rw [initAntiGhost, AntiGhost.init]
  split
  · rfl
  · rfl

theorem run_freeAntiGhost (desk : Desk (AntiGhost τ rows cols) width) :
    freeAntiGhost.run desk = desk.settle (.ok (.prepared (Debouncer.free desk.debouncer))) := rfl

/-- Whatever the sizes of the grids, a cycle looks at nothing that is not there. -/
theorem run_debounceAntiGhost (hcols : cols ≤ width) (checks : Checks) (now : Instant)
    (raw : Grid width) (numRows : Nat) (changed : Bool)
    (desk : Desk (AntiGhost τ rows cols) width) :
    (debounceAntiGhost checks now raw numRows changed).run desk =
      desk.settle ((Debouncer.debounce checks now desk.debouncer raw desk.cooked numRows
        changed).map .cycled) := by
  change _ = desk.settle ((desk.debouncer.debounce checks now raw desk.cooked numRows
    changed).map .cycled)
  rw [AntiGhost.debounce, debounceAntiGhost, Work.run_bind_ok (EStateM.run_get _)]
  by_cases hn : desk.debouncer.numRows = 0
  · rw [if_pos hn, if_neg fun h => h.2.1 hn, AntiGhost.cover, if_pos hn, Except.map, Desk.settle,
      List.append_nil]
    rfl
  · by_cases hsize : checks = .on ∧
        sharedRows numRows desk.debouncer.numRows raw desk.cooked ≠ numRows
    · rw [if_neg hn, if_pos hsize, if_pos ⟨hsize.1, hn, hsize.2⟩]
      rfl
    · rw [if_neg hn, if_neg hsize, if_neg fun h => hsize ⟨h.1, h.2.2⟩, AntiGhost.cover,
        if_neg hn, run_sweepRows hcols]
      · rfl
      · exact sharedRows_le_raw ..
      · exact sharedRows_le_cooked ..
      · exact Nat.le_trans (sharedRows_le_inUse ..) desk.debouncer.numRows_le

end InPlace
end KeyMatrix
