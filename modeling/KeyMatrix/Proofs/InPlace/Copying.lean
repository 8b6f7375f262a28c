import KeyMatrix.Proofs.ChangeLog
import KeyMatrix.Proofs.InPlace.AntiGhost

/-! # Copied rows, step by step

The calls of the two debouncers that copy the raw grid. The one that records events goes through
the rows one by one: it leaves out rows that are equal, and before it copies one of the others it
compares the columns in use.
-/
namespace KeyMatrix

/-! ## One more row -/

theorem cells_succ (rows cols : Nat) :
    cells (rows + 1) cols = cells rows cols ++ (List.range cols).map (Cell.mk rows) := by
  rw [cells, List.range_succ, List.flatMap_append, List.flatMap_singleton, cells]

theorem History.pushAll_append {α : Type} {capacity : Nat} (history : History α capacity)
    (first second : List α) :
    history.pushAll (first ++ second) = (history.pushAll first).pushAll second :=
  List.foldl_append

namespace Grid

variable {width : Nat}

/-- Replace a row, if the grid has it. -/
def put (grid : Grid width) (r : Nat) (row : Row width) : Grid width :=
  ⟨grid.rows.setIfInBounds r row⟩

@[simp] theorem size_put (grid : Grid width) (r : Nat) (row : Row width) :
    (grid.put r row).size = grid.size := by
  simp [put, size]

theorem row_put (grid : Grid width) (r : Nat) (row : Row width) (s : Nat) :
    (grid.put r row).row s = if s = r ∧ r < grid.size then row else grid.row s := by
  simp only [Grid.row, put, Array.getElem?_setIfInBounds, size]
  by_cases hs : r = s
  · subst hs
    by_cases hr : r < grid.rows.size
    · simp [hr]
    · simp [hr]
  · simp [hs, Ne.symm hs]

theorem overwrite_succ (grid : Grid width) {top : Grid width} {r : Nat} (hr : r < top.size) :
    grid.overwrite (r + 1) top = (grid.overwrite r top).put r (top.row r) := by
  apply ext_row
  · rw [size_put, size_overwrite, size_overwrite]
  · intro s hs
    rw [size_overwrite] at hs
    rw [row_put, size_overwrite, row_overwrite, row_overwrite]
    by_cases hsr : s = r
    · subst hsr
      rw [if_pos ⟨Nat.lt_succ_self s, hs, hr⟩, if_pos ⟨rfl, hs⟩]
    · have hlt : s < r + 1 ↔ s < r := by omega
      rw [if_neg fun h : s = r ∧ r < grid.size => hsr h.1]
      simp only [hlt]

theorem overwrite_succ_of_row_eq {grid top : Grid width} {r : Nat}
    (h : top.row r = grid.row r) : grid.overwrite (r + 1) top = grid.overwrite r top := by
  apply ext_row
  · rw [size_overwrite, size_overwrite]
  · intro s _
    rw [row_overwrite, row_overwrite]
    by_cases hsr : s = r
    · subst hsr
      rw [h, ite_self, ite_self]
    · have hlt : s < r + 1 ↔ s < r := by omega
      simp only [hlt]

/-- The changes of the first columns of a row. -/
def rowChanges (old new : Grid width) (r cols : Nat) : List Change :=
  ((List.range cols).map (Cell.mk r)).filterMap (old.change? new)

theorem changes_succ (old new : Grid width) (rows cols : Nat) :
    old.changes new (rows + 1) cols =
      old.changes new rows cols ++ old.rowChanges new rows cols := by
  rw [changes_eq_filterMap, cells_succ, List.filterMap_append]
  rfl

theorem rowChanges_succ (old new : Grid width) (r cols : Nat) :
    old.rowChanges new r (cols + 1) =
      old.rowChanges new r cols ++ (old.change? new ⟨r, cols⟩).toList := by
  rw [rowChanges, List.range_succ, List.map_append, List.filterMap_append, rowChanges]
  cases h : old.change? new ⟨r, cols⟩ <;> simp [h]

theorem rowChanges_of_row_eq {old new : Grid width} {r : Nat} (h : new.row r = old.row r)
    (cols : Nat) : old.rowChanges new r cols = [] := by
  rw [rowChanges, List.filterMap_eq_nil_iff]
  intro cell hcell
  obtain ⟨c, _, rfl⟩ := List.mem_map.1 hcell
  have hsame : new.isPressed r c = old.isPressed r c := congrArg (Row.isPressed · c) h
  rw [change?, hsame, bne_self_eq_false]
  rfl

end Grid

namespace InPlace

open Guarded

variable {rows cols capacity width : Nat}

/-! ## Recording events -/

/-- The desk with more events. -/
def recorded (desk : Desk (EventLog rows cols capacity) width) (events : List Event) :
    Desk (EventLog rows cols capacity) width :=
  { desk with debouncer :=
    { desk.debouncer with events := desk.debouncer.events.pushAll events } }

/-- Look at one key of two rows, and record an event if they differ. -/
def compareKey (checks : Checks) (now : Instant) (r : Nat) (new old : Row width) (c : Nat) :
    Work (EventLog rows cols capacity) width Unit := do
  let pressed ← new.isPressedAt checks c
  let before ← old.isPressedAt checks c
  if pressed != before then
    Work.alter fun log =>
      { log with events := log.events.push (EventLog.eventOf now ⟨r, c, pressed⟩) }

/-- Record the differences of a row and copy it, unless there are none. -/
def copyRow (checks : Checks) (now : Instant) (raw : Grid width) (r : Nat) :
    Work (EventLog rows cols capacity) width Unit := do
  let old ← rowAt (← get).cooked r
  let new ← rowAt raw r
  if new = old then return
  else
    forM (List.range cols) (compareKey checks now r new old)
    Work.recook (·.put r new)

def initEventLog (n : Nat) : Work (EventLog rows cols capacity) width Unit := do
  if h : n ≤ rows then
    Work.alter fun log => { log with events := .empty }
    Work.alter fun log => { log with numRows := n, numRows_le := h }
  else throw (.fault .tooManyRows)

def freeEventLog : Work (EventLog rows cols capacity) width Unit :=
  Work.alter fun log => { log with numRows := 0, numRows_le := Nat.zero_le _ }

def debounceEventLog (checks : Checks) (now : Instant) (raw : Grid width) (numRows : Nat)
    (changed : Bool) : Work (EventLog rows cols capacity) width Unit := do
  if changed then
    let desk ← get
    forM (List.range (sharedRows numRows desk.debouncer.numRows raw desk.cooked))
      (copyRow checks now raw)

theorem recorded_append (desk : Desk (EventLog rows cols capacity) width)
    (first second : List Event) :
    recorded desk (first ++ second) = recorded (recorded desk first) second := by
  simp only [recorded, History.pushAll_append]

/-- Looking at one more key records its change, if there is one. -/
theorem run_compareKey (checks : Checks) (now : Instant) (old new : Grid width) (r : Nat) {c : Nat}
    (hc : c < width) (desk : Desk (EventLog rows cols capacity) width) :
    (compareKey checks now r (new.row r) (old.row r) c).run
        (recorded desk ((old.rowChanges new r c).map (EventLog.eventOf now))) =
      .ok () (recorded desk ((old.rowChanges new r (c + 1)).map (EventLog.eventOf now))) := by
  rw [Grid.rowChanges_succ, List.map_append, recorded_append, compareKey,
    Row.isPressedAt_eq checks _ hc, Row.isPressedAt_eq checks _ hc,
    Work.run_bind_ok (Work.run_lift_fault_ok ..), Work.run_bind_ok (Work.run_lift_fault_ok ..),
    Grid.change?, Grid.isPressed, Grid.isPressed]
  by_cases hdiffer : ((new.row r).isPressed c != (old.row r).isPressed c) = true
  · rw [if_pos hdiffer, if_pos hdiffer]
    rfl
  · rw [if_neg hdiffer, if_neg hdiffer]
    rfl

/-- The desk when the first `r` rows have been copied. -/
def copied (now : Instant) (raw : Grid width) (desk : Desk (EventLog rows cols capacity) width)
    (r : Nat) : Desk (EventLog rows cols capacity) width :=
  { recorded desk ((desk.cooked.changes raw r cols).map (EventLog.eventOf now)) with
    cooked := desk.cooked.overwrite r raw }

theorem copied_zero (now : Instant) (raw : Grid width)
    (desk : Desk (EventLog rows cols capacity) width) : copied now raw desk 0 = desk := by
  rw [copied, Grid.overwrite_zero]
  rfl

theorem copied_succ (now : Instant) (raw : Grid width)
    (desk : Desk (EventLog rows cols capacity) width) (r : Nat) :
    copied now raw desk (r + 1) =
      { recorded (copied now raw desk r)
          ((desk.cooked.rowChanges raw r cols).map (EventLog.eventOf now)) with
        cooked := desk.cooked.overwrite (r + 1) raw } := by
  rw [copied, Grid.changes_succ, List.map_append, recorded_append]
  rfl

theorem run_copyRow (hcols : cols ≤ width) (checks : Checks) (now : Instant) {raw : Grid width}
    {r : Nat} {desk : Desk (EventLog rows cols capacity) width} (hr : r < raw.size)
    (hcooked : r < desk.cooked.size) :
    (copyRow checks now raw r).run (copied now raw desk r) =
      .ok () (copied now raw desk (r + 1)) := by
  have hold : (copied now raw desk r).cooked.row r = desk.cooked.row r := by
    rw [copied, Grid.row_overwrite, if_neg fun h => Nat.lt_irrefl r h.1]
  have hsize : r < (copied now raw desk r).cooked.size := by
    rwa [copied, Grid.size_overwrite]
  rw [copyRow, Work.run_bind_ok (EStateM.run_get _), rowAt_eq hsize, rowAt_eq hr,
    Work.run_bind_ok (Work.run_lift_ok ..), Work.run_bind_ok (Work.run_lift_ok ..), hold,
    copied_succ]
  by_cases hsame : raw.row r = desk.cooked.row r
  · rw [if_pos hsame, Grid.rowChanges_of_row_eq hsame, Grid.overwrite_succ_of_row_eq hsame]
    rfl
  · have hkeys :
        (forM (List.range cols) (compareKey checks now r (raw.row r) (desk.cooked.row r))).run
            (copied now raw desk r) =
          .ok () (recorded (copied now raw desk r)
            ((desk.cooked.rowChanges raw r cols).map (EventLog.eventOf now))) :=
      Work.run_forM_range _
        (fun c => recorded (copied now raw desk r)
          ((desk.cooked.rowChanges raw r c).map (EventLog.eventOf now)))
        fun c hc => run_compareKey checks now desk.cooked raw r (Nat.lt_of_lt_of_le hc hcols) _
    rw [if_neg hsame, Work.run_bind_ok hkeys, Grid.overwrite_succ _ hr]
    rfl

theorem run_initEventLog (n : Nat) (desk : Desk (EventLog rows cols capacity) width) :
    (initEventLog n).run desk =
      desk.settle ((Debouncer.init desk.debouncer n).map .prepared) := by
  change _ = desk.settle ((desk.debouncer.init n).map .prepared)
  rw [initEventLog, EventLog.init]
  split
  · rw [Except.map, Desk.settle, List.append_nil]
    rfl
  · rfl

theorem run_freeEventLog (desk : Desk (EventLog rows cols capacity) width) :
    freeEventLog.run desk = desk.settle (.ok (.prepared (Debouncer.free desk.debouncer))) := by
  change _ = desk.settle (.ok (.prepared desk.debouncer.free))
  rw [EventLog.free, Desk.settle, List.append_nil]
  rfl

/-- Whatever the sizes of the grids, a cycle looks at nothing that is not there. -/
theorem run_debounceEventLog (hcols : cols ≤ width) (checks : Checks) (now : Instant)
    (raw : Grid width) (numRows : Nat) (changed : Bool)
    (desk : Desk (EventLog rows cols capacity) width) :
    (debounceEventLog checks now raw numRows changed).run desk =
      desk.settle ((Debouncer.debounce checks now desk.debouncer raw desk.cooked numRows
        changed).map .cycled) := by
  change _ = desk.settle (.ok (.cycled (desk.debouncer.debounce now raw desk.cooked numRows
    changed)))
  cases changed with
  | false =>
    rw [EventLog.debounce, EventLog.cover, if_neg Bool.false_ne_true, Desk.settle, List.append_nil]
    rfl
  | true =>
    have hrows := Work.run_forM_range (copyRow checks now raw) (copied now raw desk)
      fun r hr => run_copyRow hcols checks now
        (Nat.lt_of_lt_of_le hr (sharedRows_le_raw numRows desk.debouncer.numRows raw desk.cooked))
        (Nat.lt_of_lt_of_le hr (sharedRows_le_cooked ..))
    rw [copied_zero] at hrows
    rw [EventLog.debounce, EventLog.cover, if_pos rfl, Desk.settle, List.append_nil]
    exact hrows

/-! ## Just copying -/

def initPassthrough (n : Nat) : Work Passthrough width Unit :=
  Work.alter fun debouncer => { debouncer with numRows := n }

def freePassthrough : Work Passthrough width Unit :=
  Work.alter fun debouncer => { debouncer with numRows := 0 }

def debouncePassthrough (raw : Grid width) (numRows : Nat) (changed : Bool) :
    Work Passthrough width Unit := do
  if changed then
    let desk ← get
    let copied ← copy desk.cooked raw
      (sharedRows numRows desk.debouncer.numRows raw desk.cooked)
    Work.recook fun _ => copied

theorem run_initPassthrough (n : Nat) (desk : Desk Passthrough width) :
    (initPassthrough n).run desk =
      desk.settle ((Debouncer.init desk.debouncer n).map .prepared) := by
  change _ = desk.settle (.ok (.prepared (desk.debouncer.init n)))
  rw [Passthrough.init, Desk.settle, List.append_nil]
  rfl

theorem run_freePassthrough (desk : Desk Passthrough width) :
    freePassthrough.run desk = desk.settle (.ok (.prepared (Debouncer.free desk.debouncer))) := by
  change _ = desk.settle (.ok (.prepared desk.debouncer.free))
  rw [Passthrough.free, Desk.settle, List.append_nil]
  rfl

theorem run_debouncePassthrough (checks : Checks) (now : Instant) (raw : Grid width)
    (numRows : Nat) (changed : Bool) (desk : Desk Passthrough width) :
    (debouncePassthrough raw numRows changed).run desk =
      desk.settle ((Debouncer.debounce checks now desk.debouncer raw desk.cooked numRows
        changed).map .cycled) := by
  change _ = desk.settle (.ok (.cycled (desk.debouncer.debounce raw desk.cooked numRows changed)))
  rw [Passthrough.debounce, Passthrough.cover, Desk.settle, List.append_nil]
  cases changed with
  | false => rfl
  | true =>
    rw [debouncePassthrough, if_pos rfl, Work.run_bind_ok (EStateM.run_get _),
      copy_eq (sharedRows_le_cooked ..) (sharedRows_le_raw ..),
      Work.run_bind_ok (Work.run_lift_ok ..)]
    rfl

end InPlace
end KeyMatrix
