import KeyMatrix.Proofs.Census
import KeyMatrix.Proofs.Course
import KeyMatrix.Proofs.Run
import KeyMatrix.Replay

/-! # The keys of a run

What a run with timed keys looks like from one cell. A sweep toggles cooked bits in place,
shares one reading of the time among all keys, and may work with an old tally. None of it is
felt by a key: cell by cell, a run is a family of separate courses.
-/
namespace KeyMatrix.Run

variable {σ τ : Type} {width rows room cols : Nat} [Scanner σ width] [TimeSource τ]
variable (run : Run σ (AntiGhost τ room cols) width rows)

/-- The key of a cell before cycle `k`. -/
def key (k r c : Nat) : Key := (run.matrix k).debouncer.keys.get r c

/-- The time units that the time source reports in cycle `k`. -/
def elapsed (k : Nat) : UInt8 :=
  (TimeSource.elapsed (run.matrix k).debouncer.timer (run.clock k)).units

/-- Whether a cell is ambiguous during the sweep of cycle `k`. -/
def isAmbiguous (k r c : Nat) : Bool := (run.matrix (k + 1)).debouncer.tally.isAmbiguous r c

/-- What reaches a cell in cycle `k`. -/
def signal (r c k : Nat) : Signal where
  raw := (run.raw k).isPressed r c
  elapsed := run.elapsed k
  ambiguous := run.isAmbiguous k r c

/-- A cell before cycle `k`. -/
def switch (r c k : Nat) : Switch where
  key := run.key k r c
  cooked := (run.cooked k).isPressed r c

/-- What the sweep of cycle `k` shares. -/
def scene (k : Nat) : Scene width room cols where
  config := (run.matrix k).debouncer.config
  tally := (run.matrix (k + 1)).debouncer.tally
  elapsed := run.elapsed k
  raw := run.raw k

/-- The sweep of cycle `k` before its first visit. -/
def unswept (k : Nat) : Sweep width room cols where
  cooked := run.cooked k
  keys := (run.matrix k).debouncer.keys

def swept (k : Nat) : Sweep width room cols :=
  Sweep.run (run.scene k) (run.unswept k) (cells run.numRows cols)

theorem numRows_debouncer (k : Nat) : (run.matrix k).debouncer.numRows = run.numRows :=
  run.rowsInUse_debouncer k

theorem numRows_le_room : run.numRows ≤ room := by
  rw [← run.numRows_debouncer 0]
  exact (run.matrix 0).debouncer.numRows_le

theorem debouncer_zero : (run.matrix 0).debouncer =
    { config := run.debouncer.config
      timer := TimeSource.reset run.debouncer.timer
      numRows := run.numRows
      numRows_le := run.numRows_le_room } := by
  obtain ⟨_, h⟩ := AntiGhost.init_cases run.init_debouncer
  exact congrArg Prepared.debouncer h

/-- A cycle of a matrix without rows does nothing. -/
theorem cycle_of_numRows_eq_zero (hn : run.numRows = 0) (k : Nat) :
    (run.matrix (k + 1)).debouncer = (run.matrix k).debouncer ∧
      run.cooked (k + 1) = run.cooked k ∧ run.log k = [] := by
  have h := run.debounced k
  change AntiGhost.debounce _ _ _ _ _ _ _ = _ at h
  rw [AntiGhost.debounce_of_idle _ _ _ _ _ _ ((run.numRows_debouncer k).trans hn),
    Except.ok.injEq] at h
  have hd := congrArg Cycle.debouncer h
  have hc := congrArg Cycle.cooked h
  have hl := congrArg Cycle.log h
  exact ⟨hd.symm, hc.symm, hl.symm⟩

/-- A cycle of any other matrix takes one reading, renews the tally if it is told to, and sweeps
the rows in use. -/
theorem cycle_of_numRows_ne_zero (hn : run.numRows ≠ 0) (k : Nat) :
    (run.matrix (k + 1)).debouncer =
      { (run.matrix k).debouncer with
        timer := (TimeSource.elapsed (run.matrix k).debouncer.timer (run.clock k)).timer
        tally := if run.hint k then (run.matrix k).debouncer.tally.recompute (run.raw k)
          else (run.matrix k).debouncer.tally
        keys := (run.swept k).keys } ∧
      run.cooked (k + 1) = (run.swept k).cooked ∧
      run.log k = (TimeSource.elapsed (run.matrix k).debouncer.timer (run.clock k)).log ++
        (run.swept k).changes.toList.map .accepted := by
  have huse := run.numRows_debouncer k
  have hraw := (run.size_raw k).trans huse.symm
  have h := run.debounced k
  change AntiGhost.debounce _ _ _ _ _ _ _ = _ at h
  rw [← huse, AntiGhost.debounce_self _ _ _ _ hraw ((run.size_cooked k).trans huse.symm),
    AntiGhost.cover, if_neg (huse.symm ▸ hn), AntiGhost.served, AntiGhost.swept,
    AntiGhost.renewed_of_size _ hraw, Except.ok.injEq] at h
  have htally : (run.matrix (k + 1)).debouncer.tally =
      if run.hint k then (run.matrix k).debouncer.tally.recompute (run.raw k)
      else (run.matrix k).debouncer.tally :=
    (congrArg (fun cycle => cycle.debouncer.tally) h).symm
  have hswept : run.swept k = Sweep.run
      { config := (run.matrix k).debouncer.config
        tally := if run.hint k then (run.matrix k).debouncer.tally.recompute (run.raw k)
          else (run.matrix k).debouncer.tally
        elapsed := run.elapsed k
        raw := run.raw k } (run.unswept k) (cells (run.matrix k).debouncer.numRows cols) := by
    rw [swept, scene, htally, huse]
  rw [hswept]
  exact ⟨(congrArg Cycle.debouncer h).symm, (congrArg Cycle.cooked h).symm,
    (congrArg Cycle.log h).symm⟩

theorem timer_succ (hn : run.numRows ≠ 0) (k : Nat) :
    (run.matrix (k + 1)).debouncer.timer =
      (TimeSource.elapsed (run.matrix k).debouncer.timer (run.clock k)).timer := by
  rw [(run.cycle_of_numRows_ne_zero hn k).1]

theorem tally_succ (hn : run.numRows ≠ 0) (k : Nat) :
    (run.matrix (k + 1)).debouncer.tally =
      if run.hint k then (run.matrix k).debouncer.tally.recompute (run.raw k)
      else (run.matrix k).debouncer.tally := by
  rw [(run.cycle_of_numRows_ne_zero hn k).1]

theorem config_eq (k : Nat) : (run.matrix k).debouncer.config = run.debouncer.config := by
  induction k with
  | zero => rw [debouncer_zero]
  | succ k ih =>
    by_cases hn : run.numRows = 0
    · rw [(run.cycle_of_numRows_eq_zero hn k).1, ih]
    · rw [(run.cycle_of_numRows_ne_zero hn k).1, ih]

theorem switch_zero (r c : Nat) : run.switch r c 0 = {} := by
  ext1
  · change (run.matrix 0).debouncer.keys.get r c = .waiting
    rw [debouncer_zero, KeyTable.get_waiting]
  · change (run.cooked 0).isPressed r c = false
    rw [cooked_zero, Grid.isPressed_released]

/-- What a sweep does to a cell in use depends on this cell alone. -/
theorem switch_succ (hcols : cols ≤ width) {r c : Nat} (hr : r < run.numRows) (hc : c < cols)
    (k : Nat) :
    run.switch r c (k + 1) =
      (run.switch r c k).advance run.debouncer.config (run.signal r c k) := by
  have hn : run.numRows ≠ 0 := Nat.ne_zero_of_lt hr
  obtain ⟨hdeb, hcooked, _⟩ := run.cycle_of_numRows_ne_zero hn k
  have hmem : Cell.mk r c ∈ cells run.numRows cols := mem_cells.2 ⟨hr, hc⟩
  have hstep : Sweep.outcome (run.scene k) (run.unswept k) ⟨r, c⟩ =
      (run.switch r c k).step run.debouncer.config (run.signal r c k) := by
    rw [← run.config_eq k]
    rfl
  ext1
  · change (run.matrix (k + 1)).debouncer.keys.get r c = _
    rw [hdeb, Switch.advance, ← hstep]
    exact Sweep.run_get_visited (run.scene k) (run.unswept k) (nodup_cells run.numRows cols) hmem
      (Nat.lt_of_lt_of_le hr run.numRows_le_room) hc
  · change (run.cooked (k + 1)).isPressed r c = _
    rw [hcooked, Switch.advance, ← hstep]
    have h := Sweep.run_isPressed_visited (run.scene k) (run.unswept k)
      (nodup_cells run.numRows cols) hmem (Nat.lt_of_lt_of_eq hr (run.size_cooked k).symm)
      (Nat.lt_of_lt_of_le hc hcols)
    exact h

/-- Cells out of use stay as they are. -/
theorem switch_succ_of_not_used {r c : Nat} (h : ¬ (r < run.numRows ∧ c < cols)) (k : Nat) :
    run.switch r c (k + 1) = run.switch r c k := by
  by_cases hn : run.numRows = 0
  · obtain ⟨hdeb, hcooked, _⟩ := run.cycle_of_numRows_eq_zero hn k
    rw [switch, switch, key, key, hdeb, hcooked]
  · obtain ⟨hdeb, hcooked, _⟩ := run.cycle_of_numRows_ne_zero hn k
    have hmem : Cell.mk r c ∉ cells run.numRows cols := fun hm => h (mem_cells.1 hm)
    ext1
    · change (run.matrix (k + 1)).debouncer.keys.get r c = _
      rw [hdeb]
      exact Sweep.run_get_outside _ _ hmem
    · change (run.cooked (k + 1)).isPressed r c = _
      rw [hcooked]
      exact Sweep.run_isPressed_outside _ _ hmem

theorem switch_eq_course (hcols : cols ≤ width) {r c : Nat} (hr : r < run.numRows)
    (hc : c < cols) (k : Nat) :
    run.switch r c k = Switch.course run.debouncer.config (run.signal r c) k := by
  induction k with
  | zero => exact run.switch_zero r c
  | succ k ih => rw [run.switch_succ hcols hr hc, ih, Switch.course_succ]

/-! ## What the tally stands for -/

/-- The raw grid of the latest cycle before cycle `k` whose hint was given, released if there
has been none. -/
def noted : Nat → Grid width
  | 0 => .released run.numRows
  | k + 1 => if run.hint k then run.raw k else noted k

/-- The tally, old or not, answers for the grid that was noted last. -/
theorem isAmbiguous_tally {r c : Nat} (hr : r < run.numRows) (hc : c < cols) (k : Nat) :
    (run.matrix k).debouncer.tally.isAmbiguous r c = (run.noted k).isSuspect r c := by
  have hn : run.numRows ≠ 0 := Nat.ne_zero_of_lt hr
  induction k with
  | zero =>
    rw [debouncer_zero, noted, Grid.isSuspect_released, Tally.isAmbiguous, Tally.isCrowded_clear,
      Bool.false_and]
  | succ k ih =>
    rw [run.tally_succ hn k, noted]
    by_cases hh : run.hint k = true
    · rw [if_pos hh, if_pos hh]
      apply Tally.isAmbiguous_recompute
      · rw [size_raw]
        exact hr
      · rw [size_raw]
        exact run.numRows_le_room
      · exact hc
    · rw [if_neg hh, if_neg hh]
      exact ih

theorem isAmbiguous_eq {r c : Nat} (hr : r < run.numRows) (hc : c < cols) (k : Nat) :
    run.isAmbiguous k r c = (run.noted (k + 1)).isSuspect r c :=
  run.isAmbiguous_tally hr hc (k + 1)

/-- While the scanner is honest, what was noted last is what the grid still is. -/
theorem noted_eq_rawBefore {n : Nat} (honest : run.Honest n) {k : Nat} (hk : k ≤ n) :
    run.noted k = run.rawBefore k := by
  induction k with
  | zero => rw [rawBefore_zero, noted]
  | succ k ih =>
    rw [noted, rawBefore_succ]
    cases hh : run.hint k with
    | true => rfl
    | false =>
      rw [honest.raw_eq hk hh]
      exact ih (Nat.le_of_succ_le hk)

/-- Every cell in use goes through the course of a lone key. It is fed with its own raw bit, the
reading of the cycle, and the rule for phantoms on the grid that was noted last. -/
theorem switch_eq_course_of_noted (hcols : cols ≤ width) {r c : Nat} (hr : r < run.numRows)
    (hc : c < cols) (k : Nat) :
    run.switch r c k = Switch.course run.debouncer.config (fun i =>
      { raw := (run.raw i).isPressed r c
        elapsed := run.elapsed i
        ambiguous := (run.noted (i + 1)).isSuspect r c }) k := by
  rw [run.switch_eq_course hcols hr hc]
  congr 1
  funext i
  rw [signal, run.isAmbiguous_eq hr hc]

/-- A key at `(0, 0)` is held down. In cycles 1 and 2 two more contacts make all four cells read
as pressed. The scanner does not tell that they are gone again until cycle 4. -/
def detour : Run (FrameScanner 8) (AntiGhost MillisTimer 2 2) 8 2 :=
  Run.ofScanner .on (fun k => ⟨1000 * [0, 5, 9, 10, 11].getD k 13⟩)
    { numRows := 2
      frames := [
        { grid := .ofList [⟨0b01⟩, ⟨0b00⟩] },
        { grid := .ofList [⟨0b11⟩, ⟨0b11⟩] },
        { grid := .ofList [⟨0b11⟩, ⟨0b11⟩] },
        { grid := .ofList [⟨0b01⟩, ⟨0b00⟩], hint := some false },
        { grid := .ofList [⟨0b01⟩, ⟨0b00⟩], hint := some true }] }
    (.ofTimer { press := 2, release := 3, quiesce := 1 } {}) rfl

theorem detour_switch_eq_course :
    2 ≤ 8 ∧ 0 < detour.numRows ∧ 0 < 2 ∧
      detour.switch 0 0 6 = Switch.course detour.debouncer.config (fun i =>
        { raw := (detour.raw i).isPressed 0 0
          elapsed := detour.elapsed i
          ambiguous := (detour.noted (i + 1)).isSuspect 0 0 }) 6 ∧
      detour.switch 0 0 4 = ⟨.debouncing 2, false⟩ ∧
      detour.switch 0 0 6 = ⟨.quiescing 1, true⟩ :=
  ⟨by decide, by decide, by decide,
    detour.switch_eq_course_of_noted (by decide) (by decide) (by decide) 6,
    by decide +kernel, by decide +kernel⟩

end KeyMatrix.Run
