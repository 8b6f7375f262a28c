import KeyMatrix.Proofs.Isolation

/-! # Stray bits

The word of a row has room for more bits than the matrix has columns. A bit behind the last column
belongs to no key, yet the rule for phantoms counts it as a pressed key of its row. What it can do
is this: a key of that row becomes ambiguous, and is frozen, if its column is held in several rows.
Where this makes no difference stray bits make none.
-/
namespace KeyMatrix

/-- If a column has as many pressed keys in both grids, the rule for phantoms tells its cells apart
only where the column is shared and the row counts as crowded in one of them. -/
theorem Grid.isSuspect_eq_iff {width r c : Nat} {a b : Grid width}
    (hcount : a.countIn c = b.countIn c) :
    a.isSuspect r c = b.isSuspect r c ↔
      (2 ≤ a.countIn c → (a.row r).hasMultiple = (b.row r).hasMultiple) := by
  rw [isSuspect, isSuspect, ← hcount, ← Row.hasMultiple_eq, ← Row.hasMultiple_eq]
  by_cases hshared : 2 ≤ a.countIn c
  · rw [decide_eq_true hshared, Bool.and_true, Bool.and_true, forall_prop_of_true hshared]
  · rw [decide_eq_false hshared, Bool.and_false, Bool.and_false]
    exact iff_of_true rfl fun h => absurd h hshared

namespace Run

variable {σ σ' τ τ' : Type} {width rows room cols : Nat}
variable [Scanner σ width] [Scanner σ' width] [TimeSource τ] [TimeSource τ']

/-- For `n` cycles the raw grids of two runs are alike in the rows in use and the columns of the
matrix. -/
def SameColumns (a : Run σ (AntiGhost τ room cols) width rows)
    (b : Run σ' (AntiGhost τ' room cols) width rows) (n : Nat) : Prop :=
  ∀ k < n, ∀ r < a.numRows, ∀ c < cols, (a.raw k).isPressed r c = (b.raw k).isPressed r c

/-- Whenever in `n` cycles the scanner hints at a change and column `c` is held in several rows,
row `r` counts as crowded in both runs or in none. -/
def SameCrowds (a : Run σ (AntiGhost τ room cols) width rows)
    (b : Run σ' (AntiGhost τ' room cols) width rows) (r c n : Nat) : Prop :=
  ∀ k < n, a.hint k = true → 2 ≤ (a.raw k).countIn c →
    ((a.raw k).row r).hasMultiple = ((b.raw k).row r).hasMultiple

variable {a : Run σ (AntiGhost τ room cols) width rows}
variable {b : Run σ' (AntiGhost τ' room cols) width rows} {r c n : Nat}

instance : Decidable (a.SameColumns b n) :=
  inferInstanceAs (Decidable (∀ k < n, ∀ r < a.numRows, ∀ c < cols, _))

instance : Decidable (a.SameCrowds b r c n) :=
  inferInstanceAs (Decidable (∀ k < n, a.hint k = true → 2 ≤ (a.raw k).countIn c → _))

theorem SameColumns.countIn_eq (columns : a.SameColumns b n) (hrows : a.numRows = b.numRows)
    (hc : c < cols) {k : Nat} (hk : k < n) : (a.raw k).countIn c = (b.raw k).countIn c := by
  apply Grid.countIn_congr
  · rw [size_raw, size_raw, hrows]
  · intro s hs
    rw [size_raw] at hs
    exact columns k hk s hs c hc

/-- The grids that were noted last agree about a cell as long as its row is as crowded in both. -/
theorem SameColumns.isSuspect_eq_iff (columns : a.SameColumns b n) (pace : a.SamePace b n)
    (hc : c < cols) :
    (∀ k ≤ n, (a.noted k).isSuspect r c = (b.noted k).isSuspect r c) ↔ a.SameCrowds b r c n := by
  constructor
  · intro heq k hk hhint
    have hnoted := heq (k + 1) hk
    rw [noted, noted, if_pos hhint, if_pos (pace.hint k hk ▸ hhint),
      Grid.isSuspect_eq_iff (columns.countIn_eq pace.numRows hc hk)] at hnoted
    exact hnoted
  · intro crowds k
    -- A cycle without a hint notes nothing: what was noted before still holds.
    induction k with
    | zero =>
      intro _
      rw [noted, noted, Grid.isSuspect_released, Grid.isSuspect_released]
    | succ k ih =>
      intro hk
      rw [noted, noted, ← pace.hint k hk]
      by_cases hhint : a.hint k = true
      · rw [if_pos hhint, if_pos hhint,
          Grid.isSuspect_eq_iff (columns.countIn_eq pace.numRows hc hk)]
        exact crowds k hk hhint
      · rw [if_neg hhint, if_neg hhint]
        exact ih (Nat.le_of_succ_le hk)

/-- Let two runs be paced alike and be alike in the columns of the matrix. A cell in use is
ambiguous in the same cycles of both exactly if stray bits never make its row crowded while its
column is shared, and then its key and its cooked bit are the same too. -/
theorem stray_bits_matter_in_crowds_only (hcols : cols ≤ width) (hr : r < a.numRows) (hc : c < cols)
    (pace : a.SamePace b n) (columns : a.SameColumns b n) :
    ((∀ k ≤ n, (a.matrix k).debouncer.tally.isAmbiguous r c =
        (b.matrix k).debouncer.tally.isAmbiguous r c) ↔ a.SameCrowds b r c n) ∧
      (a.SameCrowds b r c n → ∀ k ≤ n,
        a.key k r c = b.key k r c ∧
          (a.cooked k).isPressed r c = (b.cooked k).isPressed r c) := by
  have hr' : r < b.numRows := pace.numRows ▸ hr
  constructor
  · simp only [isAmbiguous_tally _ hr hc, isAmbiguous_tally _ hr' hc]
    exact columns.isSuspect_eq_iff pace hc
  · intro crowds k hk
    have hsuspect := (columns.isSuspect_eq_iff pace hc).2 crowds
    have hswitch : a.switch r c k = b.switch r c k := by
      rw [a.switch_eq_course hcols hr hc, b.switch_eq_course hcols hr' hc, ← pace.config]
      refine Switch.course_congr _ fun i hi => ?_
      have hin : i < n := hi.trans_le hk
      exact pace.signal_eq hr hc hin (columns i hin r hr c hc) (hsuspect (i + 1) hin)
    exact ⟨congrArg Switch.key hswitch, congrArg Switch.cooked hswitch⟩

/-- The keys at `(0, 0)` and `(1, 0)` are held down, and in cycle 1 the key at `(1, 1)` too. The
matrix has two columns in words of eight bits. The bits of `stray` are set in the first row all the
time, and in the second row in cycle 1. -/
def twoColumns (stray : BitVec 8) : Run (FrameScanner 8) (AntiGhost FrameTimer 2 2) 8 2 :=
  Run.ofScanner .on (fun _ => .start)
    { numRows := 2
      frames := [
        { grid := .ofList [⟨stray ||| 0b01⟩, ⟨0b01⟩] },
        { grid := .ofList [⟨stray ||| 0b01⟩, ⟨stray ||| 0b11⟩] },
        { grid := .ofList [⟨stray ||| 0b01⟩, ⟨0b01⟩] }] }
    (.ofTimer { press := 1, release := 1, quiesce := 1 } {}) rfl

/-- The second row is only crowded when it is so on its own. -/
theorem second_row_is_not_disturbed :
    2 ≤ 8 ∧ 1 < (twoColumns 0).numRows ∧ 0 < 2 ∧
      (twoColumns 0).SamePace (twoColumns 0b100) 4 ∧
      (twoColumns 0).SameColumns (twoColumns 0b100) 4 ∧
      (twoColumns 0).SameCrowds (twoColumns 0b100) 1 0 4 ∧
      (twoColumns 0).key 3 1 0 = (twoColumns 0b100).key 3 1 0 ∧
      (twoColumns 0).key 3 1 0 = .quiescing 1 := by
  have pace : (twoColumns 0).SamePace (twoColumns 0b100) 4 :=
    ⟨rfl, rfl, by decide +kernel, by decide +kernel⟩
  have columns : (twoColumns 0).SameColumns (twoColumns 0b100) 4 := by decide +kernel
  have crowds : (twoColumns 0).SameCrowds (twoColumns 0b100) 1 0 4 := by decide +kernel
  obtain ⟨_, hagree⟩ := stray_bits_matter_in_crowds_only (r := 1) (c := 0) (by decide) (by decide)
    (by decide) pace columns
  exact ⟨by decide, by decide, by decide, pace, columns, crowds,
    (hagree crowds 3 (by decide)).1, by decide +kernel⟩

/-- In the first row the stray bit is taken for a second key: the key at `(0, 0)` becomes ambiguous,
and is never found pressed. -/
theorem stray_bit_freezes_key :
    (twoColumns 0).SamePace (twoColumns 0b100) 4 ∧
      (twoColumns 0).SameColumns (twoColumns 0b100) 4 ∧
      (twoColumns 0).key 2 0 0 = .quiescing 1 ∧ (twoColumns 0b100).key 2 0 0 = .waiting ∧
      ((twoColumns 0).cooked 2).isPressed 0 0 = true ∧
      ((twoColumns 0b100).cooked 2).isPressed 0 0 = false ∧
      (twoColumns 0).isAmbiguous 1 0 0 = false ∧ (twoColumns 0b100).isAmbiguous 1 0 0 = true :=
  ⟨⟨rfl, rfl, by decide +kernel, by decide +kernel⟩, by decide +kernel, by decide +kernel,
    by decide +kernel, by decide +kernel, by decide +kernel, by decide +kernel, by decide +kernel⟩

end Run
end KeyMatrix
