import KeyMatrix.Proofs.KeyRun

/-! # What reaches a key

Of a raw grid a key only notices its own row and its own column: they alone decide its input and
whether it can be trusted. Runs that are paced alike and agree there do the same to the key,
whatever they find elsewhere.
-/
namespace KeyMatrix

/-- The course up to a cycle depends on the signals before it only. -/
theorem Switch.course_congr (config : Config) {first second : Nat → Signal} {k : Nat}
    (h : ∀ i < k, first i = second i) : course config first k = course config second k := by
  induction k with
  | zero => rfl
  | succ k ih =>
    rw [course_succ, course_succ, ih fun i hi => h i (Nat.lt_succ_of_lt hi),
      h k (Nat.lt_succ_self k)]

/-- Grids that are alike in a column have as many pressed keys there. -/
theorem Grid.countIn_congr {width c : Nat} {a b : Grid width} (hsize : a.size = b.size)
    (hcol : ∀ s < a.size, a.isPressed s c = b.isPressed s c) : a.countIn c = b.countIn c := by
  have heq : (fun s => a.isPressed s c = true) = fun s => b.isPressed s c = true := by
    funext s
    by_cases hs : s < a.size
    · rw [hcol s hs]
    · rw [a.isPressed_of_size_le (Nat.le_of_not_lt hs),
        b.isPressed_of_size_le (hsize ▸ Nat.le_of_not_lt hs)]
  simp only [countIn, heq, hsize]

/-- Two grids are alike in row `r` and in column `c`. -/
structure Grid.SameCross {width : Nat} (a b : Grid width) (r c : Nat) : Prop where
  size : a.size = b.size
  row : a.row r = b.row r
  col : ∀ s < a.size, a.isPressed s c = b.isPressed s c

namespace Grid.SameCross

variable {width r c : Nat} {a b : Grid width}

theorem refl (a : Grid width) (r c : Nat) : a.SameCross a r c :=
  ⟨rfl, rfl, fun _ _ => rfl⟩

theorem isPressed_eq (h : a.SameCross b r c) : a.isPressed r c = b.isPressed r c := by
  rw [isPressed, h.row, isPressed]

theorem countIn_eq (h : a.SameCross b r c) : a.countIn c = b.countIn c :=
  countIn_congr h.size h.col

theorem isSuspect_eq (h : a.SameCross b r c) : a.isSuspect r c = b.isSuspect r c := by
  rw [isSuspect, isSuspect, h.row, h.countIn_eq]

end Grid.SameCross

namespace Run

variable {σ σ' τ τ' : Type} {width rows room cols : Nat}
variable [Scanner σ width] [Scanner σ' width] [TimeSource τ] [TimeSource τ']

/-- For `n` cycles two runs with the same settings and rows have the same hints and readings. -/
structure SamePace (a : Run σ (AntiGhost τ room cols) width rows)
    (b : Run σ' (AntiGhost τ' room cols) width rows) (n : Nat) : Prop where
  config : a.debouncer.config = b.debouncer.config
  numRows : a.numRows = b.numRows
  hint : ∀ k < n, a.hint k = b.hint k
  elapsed : ∀ k < n, a.elapsed k = b.elapsed k

/-- For `n` cycles the raw grids of two runs are alike in row `r` and, in the rows in use, in
column `c`. -/
structure SameCross (a : Run σ (AntiGhost τ room cols) width rows)
    (b : Run σ' (AntiGhost τ' room cols) width rows) (r c n : Nat) : Prop where
  row : ∀ k < n, (a.raw k).row r = (b.raw k).row r
  col : ∀ k < n, ∀ s < a.numRows, (a.raw k).isPressed s c = (b.raw k).isPressed s c

variable {a : Run σ (AntiGhost τ room cols) width rows}
variable {b : Run σ' (AntiGhost τ' room cols) width rows} {r c n : Nat}

theorem SameCross.raw (cross : a.SameCross b r c n) (hrows : a.numRows = b.numRows) {k : Nat}
    (hk : k < n) : (a.raw k).SameCross (b.raw k) r c where
  size := by rw [size_raw, size_raw, hrows]
  row := cross.row k hk
  col s hs := by
    rw [size_raw] at hs
    exact cross.col k hk s hs

/-- The grids that the tallies stand for are alike too, old or not. -/
theorem SameCross.noted (cross : a.SameCross b r c n) (pace : a.SamePace b n) {k : Nat}
    (hk : k ≤ n) : (a.noted k).SameCross (b.noted k) r c := by
  induction k with
  | zero =>
    rw [Run.noted, Run.noted, pace.numRows]
    exact .refl _ _ _
  | succ k ih =>
    rw [Run.noted, Run.noted, pace.hint k hk]
    split
    · exact cross.raw pace.numRows hk
    · exact ih (Nat.le_of_succ_le hk)

/-- A cell that reads alike in both runs, and is ambiguous in both or in none, gets the same
signal. -/
theorem SamePace.signal_eq (pace : a.SamePace b n) (hr : r < a.numRows) (hc : c < cols) {k : Nat}
    (hk : k < n) (hpressed : (a.raw k).isPressed r c = (b.raw k).isPressed r c)
    (hsuspect : (a.noted (k + 1)).isSuspect r c = (b.noted (k + 1)).isSuspect r c) :
    a.signal r c k = b.signal r c k := by
  rw [signal, signal, isAmbiguous_eq _ hr hc, isAmbiguous_eq _ (pace.numRows ▸ hr) hc,
    hpressed, pace.elapsed k hk, hsuspect]

theorem SameCross.signal_eq (cross : a.SameCross b r c n) (pace : a.SamePace b n)
    (hr : r < a.numRows) (hc : c < cols) {k : Nat} (hk : k < n) :
    a.signal r c k = b.signal r c k :=
  pace.signal_eq hr hc hk (cross.raw pace.numRows hk).isPressed_eq
    (cross.noted pace hk).isSuspect_eq

/-- Two runs that are paced alike and agree on the row and the column of a cell in use agree on its
key, its cooked bit, and whether it is ambiguous. -/
theorem only_row_and_column_matter (hcols : cols ≤ width) (hr : r < a.numRows) (hc : c < cols)
    (pace : a.SamePace b n) (cross : a.SameCross b r c n) {k : Nat} (hk : k ≤ n) :
    a.key k r c = b.key k r c ∧
      (a.cooked k).isPressed r c = (b.cooked k).isPressed r c ∧
      (a.matrix k).debouncer.tally.isAmbiguous r c =
        (b.matrix k).debouncer.tally.isAmbiguous r c := by
  have hr' : r < b.numRows := pace.numRows ▸ hr
  have hswitch : a.switch r c k = b.switch r c k := by
    rw [a.switch_eq_course hcols hr hc, b.switch_eq_course hcols hr' hc, ← pace.config]
    exact Switch.course_congr _ fun i hi => cross.signal_eq pace hr hc (hi.trans_le hk)
  refine ⟨congrArg Switch.key hswitch, congrArg Switch.cooked hswitch, ?_⟩
  rw [isAmbiguous_tally _ hr hc, isAmbiguous_tally _ hr' hc]
  exact (cross.noted pace hk).isSuspect_eq

/-- A key at `(0, 0)` is held down. In cycle 1 it shares both its row and its column. The contacts
of `rest` lie elsewhere, and the scanner does not tell when some of them open in cycle 2. -/
def crowd (rest : BitVec 8) : FrameScanner 8 where
  numRows := 3
  frames := [
    { grid := .ofList [⟨0b001⟩, ⟨rest⟩, ⟨0b000⟩], hint := some true },
    { grid := .ofList [⟨0b101⟩, ⟨rest ||| 0b001⟩, ⟨rest⟩], hint := some true },
    { grid := .ofList [⟨0b001⟩, ⟨0b000⟩, ⟨rest⟩], hint := some false },
    { grid := .ofList [⟨0b001⟩, ⟨rest⟩, ⟨0b000⟩], hint := some true }]

def emptyRoom : Run (FrameScanner 8) (AntiGhost MillisTimer 3 3) 8 3 :=
  Run.ofScanner .on (fun k => ⟨1000 * k⟩) (crowd 0)
    (.ofTimer { press := 2, release := 1, quiesce := 9 } {}) rfl

/-- Cycles are counted in place of milliseconds. -/
def fullRoom : Run (FrameScanner 8) (AntiGhost FrameTimer 3 3) 8 3 :=
  Run.ofScanner .on (fun _ => .start) (crowd 0b11110)
    (.ofTimer { press := 2, release := 1, quiesce := 9 } {}) rfl

theorem rooms_agree :
    3 ≤ 8 ∧ 0 < emptyRoom.numRows ∧ 0 < 3 ∧ emptyRoom.SamePace fullRoom 6 ∧
      emptyRoom.SameCross fullRoom 0 0 6 ∧
      emptyRoom.raw 1 ≠ fullRoom.raw 1 ∧
      emptyRoom.key 5 0 0 = fullRoom.key 5 0 0 ∧ emptyRoom.key 5 0 0 = .quiescing 9 ∧
      (emptyRoom.cooked 5).isPressed 0 0 = (fullRoom.cooked 5).isPressed 0 0 ∧
      (emptyRoom.matrix 2).debouncer.tally.isAmbiguous 0 0 =
        (fullRoom.matrix 2).debouncer.tally.isAmbiguous 0 0 ∧
      (emptyRoom.matrix 2).debouncer.tally.isAmbiguous 0 0 = true := by
  have pace : emptyRoom.SamePace fullRoom 6 :=
    ⟨rfl, rfl, by decide +kernel, by decide +kernel⟩
  have cross : emptyRoom.SameCross fullRoom 0 0 6 := ⟨by decide +kernel, by decide +kernel⟩
  have hlate := only_row_and_column_matter (by decide) (by decide) (by decide) pace cross
    (show 5 ≤ 6 by decide)
  have hearly := only_row_and_column_matter (by decide) (by decide) (by decide) pace cross
    (show 2 ≤ 6 by decide)
  exact ⟨by decide, by decide, by decide, pace, cross, by decide +kernel, hlate.1,
    by decide +kernel, hlate.2.1, hearly.2.2, by decide +kernel⟩

end Run
end KeyMatrix
