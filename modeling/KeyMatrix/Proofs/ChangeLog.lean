import KeyMatrix.Proofs.Spacing
import KeyMatrix.Proofs.WrittenChanges

/-! # The change log of a run

What a cycle reports, after its time source has spoken, is the list of changes between the cooked
grids before and after it. The lines written are therefore enough to rebuild the cooked grid.
-/
namespace KeyMatrix

/-! ## Lists of changes -/

/-- Row by row, from the left. -/
def Cell.Before (a b : Cell) : Prop := a.row < b.row ∨ a.row = b.row ∧ a.col < b.col

theorem pairwise_cells (rows cols : Nat) : (cells rows cols).Pairwise Cell.Before := by
  rw [cells, List.pairwise_flatMap]
  constructor
  · intro r _
    rw [List.pairwise_map]
    exact List.pairwise_lt_range.imp fun h => .inr ⟨rfl, h⟩
  · refine List.pairwise_lt_range.imp fun hrs x hx y hy => ?_
    rcases List.mem_map.1 hx with ⟨c, _, rfl⟩
    rcases List.mem_map.1 hy with ⟨d, _, rfl⟩
    exact .inl hrs

namespace Grid

variable {width : Nat} {old new : Grid width}

/-- The change of one cell, if it differs. -/
def change? (old new : Grid width) (cell : Cell) : Option Change :=
  if new.isPressed cell.row cell.col != old.isPressed cell.row cell.col then
    some ⟨cell.row, cell.col, new.isPressed cell.row cell.col⟩
  else none

theorem changes_eq_filterMap (old new : Grid width) (rows cols : Nat) :
    old.changes new rows cols = (cells rows cols).filterMap (old.change? new) := rfl

theorem change?_eq_some_iff {cell : Cell} {change : Change} :
    old.change? new cell = some change ↔
      change.cell = cell ∧ change.pressed = new.isPressed change.row change.col ∧
        change.pressed ≠ old.isPressed change.row change.col := by
  rcases cell with ⟨r, c⟩
  rcases change with ⟨s, d, pressed⟩
  simp only [change?, Change.cell, Option.ite_none_right_eq_some, bne_iff_ne, Option.some.injEq,
    Change.mk.injEq, Cell.mk.injEq]
  constructor
  · rintro ⟨hne, rfl, rfl, rfl⟩
    exact ⟨⟨rfl, rfl⟩, rfl, hne⟩
  · rintro ⟨⟨rfl, rfl⟩, rfl, hne⟩
    exact ⟨hne, rfl, rfl, rfl⟩

theorem mem_changes {rows cols : Nat} {change : Change} :
    change ∈ old.changes new rows cols ↔
      (change.row < rows ∧ change.col < cols) ∧
        change.pressed = new.isPressed change.row change.col ∧
          change.pressed ≠ old.isPressed change.row change.col := by
  simp only [changes_eq_filterMap, List.mem_filterMap, change?_eq_some_iff, mem_cells]
  constructor
  · rintro ⟨cell, hcell, rfl, h⟩
    exact ⟨hcell, h⟩
  · rintro ⟨hcell, h⟩
    exact ⟨change.cell, hcell, rfl, h⟩

/-- The changes of one cell. -/
theorem filter_changes {rows cols : Nat} (old new : Grid width) {cell : Cell}
    (hcell : cell ∈ cells rows cols) :
    (old.changes new rows cols).filter (·.cell = cell) = (old.change? new cell).toList := by
  have hown : (cells rows cols).filter (· = cell) = [cell] := by
    rw [List.filter_eq, List.count_eq_one_of_mem (nodup_cells rows cols) hcell]
    rfl
  have hfilter (other : Cell) : (old.change? new other).filter (·.cell = cell) =
      if decide (other = cell) = true then old.change? new other else none := by
    cases h : old.change? new other with
    | none => simp
    | some change =>
      rw [Option.filter_some, (change?_eq_some_iff.1 h).1]
  rw [changes_eq_filterMap, List.filter_filterMap]
  simp only [hfilter]
  rw [← List.filterMap_filter, hown]
  cases h : old.change? new cell <;> simp [h]

/-- Changes are listed row by row, and no cell is listed twice. -/
theorem pairwise_changes (old new : Grid width) (rows cols : Nat) :
    (old.changes new rows cols).Pairwise fun a b => a.cell.Before b.cell := by
  rw [changes_eq_filterMap, List.pairwise_filterMap]
  refine (pairwise_cells rows cols).imp fun hbefore a ha b hb => ?_
  rw [(change?_eq_some_iff.1 ha).1, (change?_eq_some_iff.1 hb).1]
  exact hbefore

/-- Carry out the given changes in order. -/
def replay (grid : Grid width) (changes : List Change) : Grid width :=
  changes.foldl (fun grid change => grid.set change.row change.col change.pressed) grid

@[simp] theorem replay_nil (grid : Grid width) : grid.replay [] = grid := rfl

@[simp] theorem replay_cons (grid : Grid width) (change : Change) (changes : List Change) :
    grid.replay (change :: changes) =
      (grid.set change.row change.col change.pressed).replay changes := rfl

theorem replay_append (grid : Grid width) (first second : List Change) :
    grid.replay (first ++ second) = (grid.replay first).replay second :=
  List.foldl_append

@[simp] theorem size_replay (grid : Grid width) (changes : List Change) :
    (grid.replay changes).size = grid.size := by
  induction changes generalizing grid with
  | nil => rfl
  | cons change changes ih => rw [replay_cons, ih, size_set]

/-- When all changes of a cell lead to the same state, the cell ends in it as soon as there is
one of them. -/
theorem isPressed_replay (grid : Grid width) {changes : List Change} {r c : Nat} (pressed : Bool)
    (hr : r < grid.size) (hc : c < width)
    (h : ∀ change ∈ changes, change.cell = ⟨r, c⟩ → change.pressed = pressed) :
    (grid.replay changes).isPressed r c =
      if ∃ change ∈ changes, change.cell = ⟨r, c⟩ then pressed else grid.isPressed r c := by
  induction changes generalizing grid with
  | nil => simp
  | cons change changes ih =>
    rw [List.forall_mem_cons] at h
    rw [replay_cons, ih _ (by rwa [size_set]) h.2, isPressed_set]
    by_cases hcell : change.cell = ⟨r, c⟩
    · have hplace := Cell.mk.inj hcell
      simp [hcell, hplace, hr, hc, h.1 hcell]
    · have hplace : ¬ (r = change.row ∧ c = change.col ∧ change.row < grid.size ∧
          change.col < width) := by
        rintro ⟨rfl, rfl, _⟩
        exact hcell rfl
      simp [hcell, hplace]

/-- The changes from one grid to another lead there, if none of the differing cells is left
out. -/
theorem replay_changes {rows cols : Nat} (hsize : old.size = new.size)
    (h : ∀ r c, new.isPressed r c ≠ old.isPressed r c → r < rows ∧ c < cols) :
    old.replay (old.changes new rows cols) = new := by
  apply ext_isPressed
  · rw [size_replay, hsize]
  · intro r hr c hc
    rw [size_replay] at hr
    rw [old.isPressed_replay (new.isPressed r c) hr hc]
    · split
      · rfl
      · rename_i hnone
        apply Decidable.byContradiction
        intro hne
        have hdiffers : new.isPressed r c ≠ old.isPressed r c := Ne.symm hne
        exact hnone ⟨⟨r, c, new.isPressed r c⟩, mem_changes.2 ⟨h r c hdiffers, rfl, hdiffers⟩, rfl⟩
    · intro change hmem hcell
      rcases Cell.mk.inj hcell with ⟨rfl, rfl⟩
      exact (mem_changes.1 hmem).2.1

end Grid

/-! ## What a sweep reports -/

namespace Sweep

variable {width rows cols : Nat}

/-- A visit reports the change of its cell. -/
theorem visit_changes_eq (scene : Scene width rows cols) (sweep : Sweep width rows cols)
    {cell : Cell} (hr : cell.row < sweep.cooked.size) (hc : cell.col < width) :
    (visit scene sweep cell).changes.toList = sweep.changes.toList ++
      (sweep.cooked.change? (visit scene sweep cell).cooked cell).toList := by
  rw [visit_changes, Grid.change?, visit_cooked]
  by_cases ha : (outcome scene sweep cell).2 = .accepted
  · simp [ha, Grid.isPressed_toggle, hr, hc]
  · simp [ha]

/-- On a path without repetitions, a sweep reports the change of every visited cell. -/
theorem run_changes (scene : Scene width rows cols) (sweep : Sweep width rows cols)
    {path : List Cell} (hp : path.Nodup)
    (hin : ∀ cell ∈ path, cell.row < sweep.cooked.size ∧ cell.col < width) :
    (run scene sweep path).changes.toList = sweep.changes.toList ++
      path.filterMap (sweep.cooked.change? (run scene sweep path).cooked) := by
  induction path generalizing sweep with
  | nil => simp
  | cons first path ih =>
    rw [List.nodup_cons] at hp
    rw [List.forall_mem_cons] at hin
    -- Later visits leave the first cell alone, and the first visit all later cells.
    have hfirst : sweep.cooked.change? (run scene (visit scene sweep first) path).cooked first =
        sweep.cooked.change? (visit scene sweep first).cooked first := by
      rw [Grid.change?, Grid.change?, run_isPressed_outside _ _ hp.1]
    have hlater : path.filterMap
          ((visit scene sweep first).cooked.change?
            (run scene (visit scene sweep first) path).cooked) =
        path.filterMap
          (sweep.cooked.change? (run scene (visit scene sweep first) path).cooked) := by
      apply List.filterMap_congr
      intro cell hcell
      have hne : first ≠ cell := by
        rintro rfl
        exact hp.1 hcell
      rw [Grid.change?, Grid.change?, visit_isPressed_other _ _ hne]
    rw [run_cons, ih _ hp.2 (by simpa using hin.2), visit_changes_eq _ _ hin.1.1 hin.1.2, hlater,
      List.filterMap_cons, hfirst, List.append_assoc]
    cases sweep.cooked.change? (visit scene sweep first).cooked first <;> rfl

end Sweep

/-! ## What a time source reports -/

/-- Time sources that never report at the level of key changes. -/
class Discreet (τ : Type) [TimeSource τ] : Prop where
  level_ne_trace (timer : τ) (now : Instant) :
    ∀ message ∈ (TimeSource.elapsed timer now).log, message.level ≠ .trace

instance : Discreet MillisTimer where
  level_ne_trace timer now := by
    rcases timer with ⟨last⟩
    cases last with
    | none => simp [TimeSource.elapsed, MillisTimer.elapsed, Message.level]
    | some last => simp [TimeSource.elapsed, MillisTimer.elapsed]

instance : Discreet FrameTimer where
  level_ne_trace timer now := by simp [TimeSource.elapsed]

instance : Discreet Timer where
  level_ne_trace timer now := by
    cases timer with
    | millis timer => exact Discreet.level_ne_trace timer now
    | frames timer => exact Discreet.level_ne_trace timer now

/-! ## What a run reports -/

namespace Run

variable {σ τ : Type} {width rows room cols : Nat} [Scanner σ width] [TimeSource τ]
variable (run : Run σ (AntiGhost τ room cols) width rows)

/-- What the time source has to report in cycle `k`. It is not asked if there are no rows. -/
def timerLog (k : Nat) : List Message :=
  if run.numRows = 0 then []
  else (TimeSource.elapsed (run.matrix k).debouncer.timer (run.clock k)).log

/-- The changes from the cooked grid before cycle `k` to the one after it. -/
def changes (k : Nat) : List Change :=
  (run.cooked k).changes (run.cooked (k + 1)) run.numRows cols

theorem size_cooked_succ (k : Nat) : (run.cooked k).size = (run.cooked (k + 1)).size := by
  rw [size_cooked, size_cooked]

theorem used_of_isPressed_ne {r c k : Nat}
    (h : (run.cooked (k + 1)).isPressed r c ≠ (run.cooked k).isPressed r c) :
    r < run.numRows ∧ c < cols :=
  run.used_of_flips (show Flips (run.switch r c) k from h)

/-- Every cell that differs is listed, wherever it lies. -/
theorem mem_changes {k : Nat} {change : Change} :
    change ∈ run.changes k ↔
      change.pressed = (run.cooked (k + 1)).isPressed change.row change.col ∧
        change.pressed ≠ (run.cooked k).isPressed change.row change.col := by
  rw [changes, Grid.mem_changes]
  constructor
  · exact fun h => h.2
  · intro h
    refine ⟨run.used_of_isPressed_ne (k := k) ?_, h⟩
    rw [← h.1]
    exact h.2

theorem pressed_of_mem_changes (hcols : cols ≤ width) {k : Nat} {change : Change}
    (h : change ∈ run.changes k) :
    change.pressed = (run.raw k).isPressed change.row change.col := by
  rcases run.mem_changes.1 h with ⟨hnew, hold⟩
  have hflips : Flips (run.switch change.row change.col) k := fun hsame =>
    hold (hnew.trans hsame)
  rw [hnew, run.raw_of_flips hcols hflips]
  rfl

/-- No change is reported when the matrix is opened. -/
theorem greeting_eq : run.greeting = [.initialized run.numRows cols] := by
  rcases AntiGhost.init_cases run.init_debouncer with ⟨_, hprepared⟩
  exact congrArg Prepared.log hprepared

/-- A cycle reports what its time source has to say and then the changes of the cooked grid. -/
theorem log_eq (hcols : cols ≤ width) (k : Nat) :
    run.log k = run.timerLog k ++ (run.changes k).map .accepted := by
  by_cases hn : run.numRows = 0
  · rcases run.cycle_of_numRows_eq_zero hn k with ⟨_, _, hlog⟩
    simp [timerLog, changes, hn, hlog, Grid.changes, cells]
  · rcases run.cycle_of_numRows_ne_zero hn k with ⟨_, hcooked, hlog⟩
    have hswept : (run.swept k).changes.toList = run.changes k := by
      rw [changes, hcooked, swept, Sweep.run_changes _ _ (nodup_cells _ _)]
      · rfl
      · intro cell hcell
        rw [mem_cells] at hcell
        exact ⟨hcell.1.trans_eq (run.size_cooked k).symm, hcell.2.trans_le hcols⟩
    rw [hlog, hswept, timerLog, if_neg hn]

theorem level_of_mem_timerLog [Discreet τ] {k : Nat} {message : Message}
    (h : message ∈ run.timerLog k) : message.level ≠ .trace := by
  rw [timerLog] at h
  split at h
  · cases h
  · exact Discreet.level_ne_trace _ _ _ h

/-- All that is ever reported at the level of key changes are the changes. -/
theorem filter_trace_log [Discreet τ] (hcols : cols ≤ width) (k : Nat) :
    (run.log k).filter (·.level = .trace) = (run.changes k).map .accepted := by
  rw [run.log_eq hcols, List.filter_append, List.filter_eq_nil_iff.2, List.nil_append,
    List.filter_eq_self.2]
  · simp [Message.level]
  · intro message h
    simpa using run.level_of_mem_timerLog h

/-- The changes of a cycle are enough to tell the cooked grid after it. -/
theorem replay_cycle (k : Nat) : (run.cooked k).replay (run.changes k) = run.cooked (k + 1) :=
  Grid.replay_changes (run.size_cooked_succ k) fun _ _ => run.used_of_isPressed_ne

theorem changed_iff (k : Nat) : run.changed k = true ↔ run.changes k ≠ [] := by
  rw [changed_eq, bne_iff_ne, not_iff_not]
  constructor
  · intro hsame
    rw [changes, ← hsame, Grid.changes_self]
  · intro hnone
    rw [← run.replay_cycle, hnone, Grid.replay_nil]

/-- The changes of the cycles so far lead to the cooked grid. -/
theorem replay_changes (k : Nat) :
    (Grid.released run.numRows).replay ((List.range k).flatMap run.changes) = run.cooked k := by
  induction k with
  | zero => rw [cooked_zero]; rfl
  | succ k ih =>
    rw [List.range_succ, List.flatMap_append, Grid.replay_append, ih, List.flatMap_singleton,
      replay_cycle]

/-! ## What a run writes -/

/-- The lines written in cycle `k`. -/
def lines (k : Nat) : List String := (run.log k).map Message.line

/-- The lines written from the opening of the matrix to the start of cycle `k`. -/
def transcript (k : Nat) : List String :=
  run.greeting.map Message.line ++ (List.range k).flatMap run.lines

theorem lines_eq (hcols : cols ≤ width) (k : Nat) :
    run.lines k = (run.timerLog k).map Message.line ++ (run.changes k).map fun change =>
      s!"TRACE Key ({change.row}, {change.col}) debounced, pressed: {change.pressed}" := by
  rw [lines, run.log_eq hcols, List.map_append, List.map_map]
  exact congrArg (_ ++ ·) (List.map_congr_left fun change _ => Message.line_accepted change)

/-- Whoever reads the lines of a cycle gets its changes. -/
theorem read_lines [Discreet τ] (hcols : cols ≤ width) (k : Nat) :
    (run.lines k).filterMap Change.ofLine? = run.changes k := by
  have htimer : (run.timerLog k).filterMap Message.change? = [] :=
    List.filterMap_eq_nil_iff.2 fun _ h => Message.change?_eq_none (run.level_of_mem_timerLog h)
  rw [lines, Change.filterMap_ofLine?, run.log_eq hcols, List.filterMap_append, htimer,
    List.nil_append, List.filterMap_map]
  exact List.filterMap_some

theorem read_transcript [Discreet τ] (hcols : cols ≤ width) (k : Nat) :
    (run.transcript k).filterMap Change.ofLine? = (List.range k).flatMap run.changes := by
  have hgreeting : (run.greeting.map Message.line).filterMap Change.ofLine? = [] := by
    rw [Change.filterMap_ofLine?, greeting_eq]
    rfl
  rw [transcript, List.filterMap_append, hgreeting, List.nil_append, List.filterMap_flatMap]
  simp only [run.read_lines hcols]

theorem changed_iff_exists_line [Discreet τ] (hcols : cols ≤ width) (k : Nat) :
    run.changed k = true ↔ ∃ line ∈ run.lines k, ∃ change, Change.ofLine? line = some change := by
  rw [changed_iff, ← run.read_lines hcols, ne_eq, List.filterMap_eq_nil_iff]
  simp only [not_forall, exists_prop, ← ne_eq, Option.ne_none_iff_exists']

/-- The acceptances that a cycle reports are the cells whose cooked bit is flipped, row by row and
each once, with the state that they share with the raw grid. An update tells whether there are any,
and all of them together rebuild the cooked grid. It does not matter whether one looks at the
messages or reads the lines. -/
theorem acceptances_form_a_change_log (hcols : cols ≤ width) (k : Nat) :
    run.greeting = [.initialized run.numRows cols] ∧
    run.log k = run.timerLog k ++ (run.changes k).map .accepted ∧
    (Discreet τ → (run.log k).filter (·.level = .trace) = (run.changes k).map .accepted) ∧
    (run.changes k).Pairwise (fun a b => a.cell.Before b.cell) ∧
    (∀ change, change ∈ run.changes k ↔
      change.pressed = (run.cooked (k + 1)).isPressed change.row change.col ∧
        change.pressed ≠ (run.cooked k).isPressed change.row change.col) ∧
    (∀ change ∈ run.changes k, change.pressed = (run.raw k).isPressed change.row change.col) ∧
    (run.changed k = true ↔ run.changes k ≠ []) ∧
    (Grid.released run.numRows).replay ((List.range k).flatMap run.changes) = run.cooked k ∧
    run.lines k = (run.timerLog k).map Message.line ++ (run.changes k).map (fun change =>
      s!"TRACE Key ({change.row}, {change.col}) debounced, pressed: {change.pressed}") ∧
    (Discreet τ → (run.lines k).filterMap Change.ofLine? = run.changes k ∧
      (run.changed k = true ↔
        ∃ line ∈ run.lines k, ∃ change, Change.ofLine? line = some change) ∧
      (Grid.released run.numRows).replay ((run.transcript k).filterMap Change.ofLine?) =
        run.cooked k) := by
  refine ⟨run.greeting_eq, run.log_eq hcols k, fun _ => run.filter_trace_log hcols k,
    Grid.pairwise_changes _ _ _ _, fun _ => run.mem_changes,
    fun _ => run.pressed_of_mem_changes hcols, run.changed_iff k, run.replay_changes k,
    run.lines_eq hcols k, ?_⟩
  intro _
  refine ⟨run.read_lines hcols k, run.changed_iff_exists_line hcols k, ?_⟩
  rw [run.read_transcript hcols, replay_changes]

/-- Two keys go down together, and one of them is let go again. -/
def chord : Run (FrameScanner 8) (AntiGhost MillisTimer 2 3) 8 2 :=
  Run.ofScanner .on (fun k => ⟨1000 * k⟩)
    { numRows := 2
      frames := [
        { grid := .ofList [⟨0b100⟩, ⟨0b010⟩] },
        { grid := .ofList [⟨0b100⟩, ⟨0b010⟩] },
        { grid := .ofList [⟨0b000⟩, ⟨0b010⟩] }] }
    (.ofTimer { press := 1, release := 1, quiesce := 0 } {}) rfl

theorem chord_change_log :
    3 ≤ 8 ∧
      chord.log 0 = [.timerStarted 0] ∧
      (chord.log 1).filter (·.level = .trace) =
        [.accepted ⟨0, 2, true⟩, .accepted ⟨1, 1, true⟩] ∧
      chord.lines 1 =
        ["TRACE Key (0, 2) debounced, pressed: true", "TRACE Key (1, 1) debounced, pressed: true"] ∧
      (chord.changed 4 = true ↔ chord.changes 4 ≠ []) ∧ chord.changes 4 = [⟨0, 2, false⟩] ∧
      (Grid.released 2).replay ((List.range 5).flatMap chord.changes) = chord.cooked 5 ∧
      chord.transcript 5 =
        ["INFO Debouncer initialized for 2x3 matrix",
          "DEBUG Debounce timer started at 0",
          "TRACE Key (0, 2) debounced, pressed: true",
          "TRACE Key (1, 1) debounced, pressed: true",
          "TRACE Key (0, 2) debounced, pressed: false"] ∧
      (Grid.released 2).replay ((chord.transcript 5).filterMap Change.ofLine?) = chord.cooked 5 ∧
      chord.cooked 5 = .ofList [⟨0b000⟩, ⟨0b010⟩] := by
  obtain ⟨_, _, hreported, _⟩ := chord.acceptances_form_a_change_log (by decide) 1
  obtain ⟨_, _, _, _, _, _, htold, _⟩ := chord.acceptances_form_a_change_log (by decide) 4
  obtain ⟨_, _, _, _, _, _, _, hrebuilt, _, hread⟩ :=
    chord.acceptances_form_a_change_log (by decide) 5
  obtain ⟨_, _, hreplayed⟩ := hread inferInstance
  refine ⟨by decide, by decide +kernel, ?_, by decide +kernel, htold, by decide +kernel, hrebuilt,
    by decide +kernel, hreplayed, by decide +kernel⟩
  rw [hreported inferInstance]
  decide +kernel

end Run
end KeyMatrix
