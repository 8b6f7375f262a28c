import KeyMatrix.Proofs.ChangeLog
import KeyMatrix.Proofs.Invariant
import KeyMatrix.Proofs.Isolation
import Mathlib.Logic.Equiv.Basic

/-! # Rows and columns can be renamed

Nothing hangs on how rows and columns are numbered. A run over renamed grids is the renamed run: the
key of a cell, the flag of a row and the count of a column go wherever their names go. Only the
order of the reports within a cycle follows the new numbers.
-/
namespace KeyMatrix

/-- New names for the rows in use and for the columns. All other rows and columns keep theirs. -/
structure Renaming (rows cols : Nat) where
  row : Equiv.Perm Nat
  col : Equiv.Perm Nat
  row_of_le {r : Nat} : rows ≤ r → row r = r
  col_of_le {c : Nat} : cols ≤ c → col c = c

section Permutations
variable {π : Equiv.Perm Nat} {n : Nat}

/-- A permutation that only moves numbers below a bound moves none of them out. -/
theorem perm_lt_iff (hπ : ∀ i, n ≤ i → π i = i) (i : Nat) : π i < n ↔ i < n := by
  constructor
  · intro h
    by_contra hi
    rw [hπ i (Nat.le_of_not_lt hi)] at h
    exact hi h
  · intro h
    by_contra hi
    have hfix : π i = i := π.injective (hπ (π i) (Nat.le_of_not_lt hi))
    rw [hfix] at hi
    exact hi h

/-- Counting does not depend on the order. -/
theorem count_perm (hπ : ∀ i, n ≤ i → π i = i) {p q : Nat → Prop} [DecidablePred p]
    [DecidablePred q] (h : ∀ i, q (π i) ↔ p i) : Nat.count q n = Nat.count p n := by
  rw [Nat.count_eq_card_filter_range, Nat.count_eq_card_filter_range, eq_comm]
  apply Finset.card_equiv π
  intro i
  rw [Finset.mem_filter, Finset.mem_filter, Finset.mem_range, Finset.mem_range, perm_lt_iff hπ, h]

end Permutations

namespace Renaming

variable {rows cols : Nat} (ν : Renaming rows cols)

theorem row_lt_iff (r : Nat) : ν.row r < rows ↔ r < rows :=
  perm_lt_iff (fun _ => ν.row_of_le) r

theorem col_lt_iff (c : Nat) : ν.col c < cols ↔ c < cols :=
  perm_lt_iff (fun _ => ν.col_of_le) c

/-- The same change under the new names. -/
def change (change : Change) : Change := ⟨ν.row change.row, ν.col change.col, change.pressed⟩

theorem change_injective : Function.Injective ν.change := by
  rintro ⟨r, c, pressed⟩ ⟨s, d, pressed'⟩ h
  simpa [change] using h

end Renaming

namespace Grid

variable {width rows cols : Nat}

/-- The grid `b` is the grid `a` under the new names. -/
structure Renamed (ν : Renaming rows cols) (a b : Grid width) : Prop where
  size : a.size = b.size
  isPressed : ∀ r < a.size, ∀ c < width, b.isPressed (ν.row r) (ν.col c) = a.isPressed r c

namespace Renamed

variable {ν : Renaming rows cols} {a b : Grid width}

theorem released (ν : Renaming rows cols) (n : Nat) :
    Renamed ν (released n : Grid width) (released n) where
  size := rfl
  isPressed := by simp

/-- Cells outside the grid are not pressed under any name. -/
theorem isPressed_eq (h : Renamed ν a b) (hsize : a.size = rows) (hcols : cols ≤ width)
    (r c : Nat) : b.isPressed (ν.row r) (ν.col c) = a.isPressed r c := by
  by_cases hr : r < a.size
  · by_cases hc : c < width
    · exact h.isPressed r hr c hc
    · have hcol : width ≤ c := Nat.le_of_not_lt hc
      rw [ν.col_of_le (hcols.trans hcol), Grid.isPressed, Row.isPressed_of_width_le _ hcol,
        Grid.isPressed, Row.isPressed_of_width_le _ hcol]
  · have hrow : a.size ≤ r := Nat.le_of_not_lt hr
    rw [ν.row_of_le (hsize.symm.trans_le hrow), b.isPressed_of_size_le (h.size ▸ hrow),
      a.isPressed_of_size_le hrow]

theorem count_row (h : Renamed ν a b) (hsize : a.size = rows) (hcols : cols ≤ width) (r : Nat) :
    (b.row (ν.row r)).count = (a.row r).count := by
  apply count_perm (fun c hc => ν.col_of_le (hcols.trans hc))
  intro c
  exact Bool.eq_iff_iff.1 (h.isPressed_eq hsize hcols r c)

theorem countIn (h : Renamed ν a b) (hsize : a.size = rows) (hcols : cols ≤ width) (c : Nat) :
    b.countIn (ν.col c) = a.countIn c := by
  rw [Grid.countIn, Grid.countIn, ← h.size]
  apply count_perm (fun r hr => ν.row_of_le (hsize.symm.trans_le hr))
  intro r
  exact Bool.eq_iff_iff.1 (h.isPressed_eq hsize hcols r c)

theorem hasMultiple_row (h : Renamed ν a b) (hsize : a.size = rows) (hcols : cols ≤ width)
    (r : Nat) : (b.row (ν.row r)).hasMultiple = (a.row r).hasMultiple := by
  rw [Row.hasMultiple_eq, Row.hasMultiple_eq, h.count_row hsize hcols]

theorem isSuspect (h : Renamed ν a b) (hsize : a.size = rows) (hcols : cols ≤ width) (r c : Nat) :
    b.isSuspect (ν.row r) (ν.col c) = a.isSuspect r c := by
  rw [Grid.isSuspect, Grid.isSuspect, h.count_row hsize hcols, h.countIn hsize hcols]

end Renamed
end Grid

namespace Run

section Tallies
variable {σ τ : Type} {width rows room cols : Nat} [Scanner σ width] [TimeSource τ]
variable (run : Run σ (AntiGhost τ room cols) width rows)

theorem size_noted (k : Nat) : (run.noted k).size = run.numRows := by
  induction k with
  | zero => rw [noted, Grid.size_released]
  | succ k ih =>
    rw [noted]
    split
    · exact run.size_raw k
    · exact ih

/-- The flags of the rows in use tell of the grid that was noted last. -/
theorem isCrowded_tally {r : Nat} (hr : r < run.numRows) (k : Nat) :
    (run.matrix k).debouncer.tally.isCrowded r = ((run.noted k).row r).hasMultiple := by
  induction k with
  | zero =>
    rw [debouncer_zero, Tally.isCrowded_clear, noted, Grid.row_released]
    simp [Row.hasMultiple, Row.empty]
  | succ k ih =>
    rw [run.tally_succ (Nat.ne_zero_of_lt hr) k, noted]
    split
    · have hroom := run.numRows_le_room
      have hsize := run.size_raw k
      rw [Tally.isCrowded_recompute, if_pos (by omega)]
    · exact ih

/-- The counts of the columns tell of the grid that was noted last. -/
theorem toNat_downIn_tally {c : Nat} (hc : c < cols) (hn : run.numRows ≠ 0) (k : Nat) :
    ((run.matrix k).debouncer.tally.downIn c).toNat = min 255 ((run.noted k).countIn c) := by
  induction k with
  | zero =>
    have hnone : (Grid.released run.numRows : Grid width).countIn c = 0 := by
      simp [Grid.countIn, Nat.count_false]
    rw [debouncer_zero, Tally.downIn_clear, noted, hnone]
    rfl
  | succ k ih =>
    rw [run.tally_succ hn k, noted]
    split
    · rw [Tally.toNat_downIn_recompute _ _ hc,
        Grid.take_of_size_le _ ((run.size_raw k).trans_le run.numRows_le_room)]
    · exact ih

end Tallies

variable {σ σ' τ : Type} {width rows room cols : Nat}
variable [Scanner σ width] [Scanner σ' width] [TimeSource τ]

/-- For `n` cycles the run `b` is given the grids of the run `a` under new names. In all else, also
in the hints that come with the grids, the two are given the same. -/
structure RenamedInput (a : Run σ (AntiGhost τ room cols) width rows)
    (b : Run σ' (AntiGhost τ room cols) width rows) (ν : Renaming a.numRows cols) (n : Nat) :
    Prop where
  debouncer : a.debouncer = b.debouncer
  numRows : a.numRows = b.numRows
  clock : ∀ k < n, a.clock k = b.clock k
  hint : ∀ k < n, a.hint k = b.hint k
  raw : ∀ k < n, (a.raw k).Renamed ν (b.raw k)

/-- For `n` cycles the run `b` goes through the states of the run `a` under new names. It answers
and reports the same, but the changes of a cycle may be reported in another order. -/
structure RenamedOutput (a : Run σ (AntiGhost τ room cols) width rows)
    (b : Run σ' (AntiGhost τ room cols) width rows) (ν : Renaming a.numRows cols) (n : Nat) :
    Prop where
  cooked : ∀ k ≤ n, (a.cooked k).Renamed ν (b.cooked k)
  key : ∀ k ≤ n, ∀ r c, b.key k (ν.row r) (ν.col c) = a.key k r c
  isCrowded : ∀ k ≤ n, ∀ r, (b.matrix k).debouncer.tally.isCrowded (ν.row r) =
    (a.matrix k).debouncer.tally.isCrowded r
  downIn : ∀ k ≤ n, ∀ c, (b.matrix k).debouncer.tally.downIn (ν.col c) =
    (a.matrix k).debouncer.tally.downIn c
  greeting : a.greeting = b.greeting
  changed : ∀ k < n, a.changed k = b.changed k
  log : ∀ k < n, ∃ old new : List Change,
    a.log k = a.timerLog k ++ old.map .accepted ∧
      b.log k = a.timerLog k ++ new.map .accepted ∧ new.Perm (old.map ν.change)

namespace RenamedInput

variable {a : Run σ (AntiGhost τ room cols) width rows}
variable {b : Run σ' (AntiGhost τ room cols) width rows} {ν : Renaming a.numRows cols} {n k : Nat}

theorem timer_eq (input : a.RenamedInput b ν n) (hk : k ≤ n) :
    (a.matrix k).debouncer.timer = (b.matrix k).debouncer.timer := by
  induction k with
  | zero => rw [debouncer_zero, debouncer_zero, input.debouncer]
  | succ k ih =>
    have hsame := ih (Nat.le_of_succ_le hk)
    by_cases hn : a.numRows = 0
    · rw [(a.cycle_of_numRows_eq_zero hn k).1,
        (b.cycle_of_numRows_eq_zero (input.numRows ▸ hn) k).1, hsame]
    · rw [a.timer_succ hn, b.timer_succ (input.numRows ▸ hn), hsame, input.clock k hk]

theorem elapsed_eq (input : a.RenamedInput b ν n) (hk : k < n) : a.elapsed k = b.elapsed k := by
  rw [elapsed, elapsed, input.timer_eq (Nat.le_of_lt hk), input.clock k hk]

theorem timerLog_eq (input : a.RenamedInput b ν n) (hk : k < n) : a.timerLog k = b.timerLog k := by
  rw [timerLog, timerLog, input.timer_eq (Nat.le_of_lt hk), input.clock k hk, input.numRows]

/-- The grids that the tallies stand for go by the new names too, old or not. -/
theorem noted (input : a.RenamedInput b ν n) (hk : k ≤ n) : (a.noted k).Renamed ν (b.noted k) := by
  induction k with
  | zero =>
    rw [Run.noted, Run.noted, ← input.numRows]
    exact .released ν _
  | succ k ih =>
    rw [Run.noted, Run.noted, ← input.hint k hk]
    split
    · exact input.raw k hk
    · exact ih (Nat.le_of_succ_le hk)

theorem isCrowded_eq (input : a.RenamedInput b ν n) (hcols : cols ≤ width) (hk : k ≤ n) (r : Nat) :
    (b.matrix k).debouncer.tally.isCrowded (ν.row r) =
      (a.matrix k).debouncer.tally.isCrowded r := by
  by_cases hr : r < a.numRows
  · have hr' : ν.row r < b.numRows := input.numRows ▸ (ν.row_lt_iff r).2 hr
    rw [b.isCrowded_tally hr', a.isCrowded_tally hr,
      (input.noted hk).hasMultiple_row (a.size_noted k) hcols]
  · have hr' := Nat.le_of_not_lt hr
    rw [ν.row_of_le hr', a.not_isCrowded_of_numRows_le hr',
      b.not_isCrowded_of_numRows_le (input.numRows ▸ hr')]

theorem downIn_eq (input : a.RenamedInput b ν n) (hcols : cols ≤ width) (hk : k ≤ n) (c : Nat) :
    (b.matrix k).debouncer.tally.downIn (ν.col c) = (a.matrix k).debouncer.tally.downIn c := by
  by_cases hc : c < cols
  · apply UInt8.toNat_inj.1
    by_cases hn : a.numRows = 0
    · have ha := a.toNat_downIn_le k c
      have hb := b.toNat_downIn_le k (ν.col c)
      have hn' := input.numRows
      omega
    · rw [a.toNat_downIn_tally hc hn,
        b.toNat_downIn_tally ((ν.col_lt_iff c).2 hc) (input.numRows ▸ hn),
        (input.noted hk).countIn (a.size_noted k) hcols]
  · have hc' := Nat.le_of_not_lt hc
    rw [ν.col_of_le hc', Tally.downIn_of_cols_le _ hc', Tally.downIn_of_cols_le _ hc']

/-- What reaches a cell reaches it under its new name. -/
theorem signal_eq (input : a.RenamedInput b ν n) (hcols : cols ≤ width) (hk : k < n) (r c : Nat) :
    b.signal (ν.row r) (ν.col c) k = a.signal r c k := by
  have hambiguous : b.isAmbiguous k (ν.row r) (ν.col c) = a.isAmbiguous k r c := by
    rw [isAmbiguous, isAmbiguous, Tally.isAmbiguous, Tally.isAmbiguous,
      input.isCrowded_eq hcols hk, input.downIn_eq hcols hk]
  rw [signal, signal, (input.raw k hk).isPressed_eq (a.size_raw k) hcols, input.elapsed_eq hk,
    hambiguous]

theorem switch_eq (input : a.RenamedInput b ν n) (hcols : cols ≤ width) (hk : k ≤ n) (r c : Nat) :
    b.switch (ν.row r) (ν.col c) k = a.switch r c k := by
  by_cases hused : r < a.numRows ∧ c < cols
  · have hr' : ν.row r < b.numRows := input.numRows ▸ (ν.row_lt_iff r).2 hused.1
    rw [a.switch_eq_course hcols hused.1 hused.2,
      b.switch_eq_course hcols hr' ((ν.col_lt_iff c).2 hused.2), input.debouncer]
    exact Switch.course_congr _ fun i hi => input.signal_eq hcols (hi.trans_le hk) r c
  · have hused' : ¬ (ν.row r < b.numRows ∧ ν.col c < cols) := by
      rwa [← input.numRows, ν.row_lt_iff, ν.col_lt_iff]
    rw [a.switch_of_not_used hused, b.switch_of_not_used hused']

theorem isPressed_cooked_eq (input : a.RenamedInput b ν n) (hcols : cols ≤ width) (hk : k ≤ n)
    (r c : Nat) : (b.cooked k).isPressed (ν.row r) (ν.col c) = (a.cooked k).isPressed r c :=
  congrArg Switch.cooked (input.switch_eq hcols hk r c)

/-- The cells that change in a cycle are the same, in some order. -/
theorem changes_perm (input : a.RenamedInput b ν n) (hcols : cols ≤ width) (hk : k < n) :
    (b.changes k).Perm ((a.changes k).map ν.change) := by
  have hnodup {σ : Type} [Scanner σ width] (run : Run σ (AntiGhost τ room cols) width rows) :
      (run.changes k).Nodup := by
    apply (Grid.pairwise_changes _ _ _ _).imp
    rintro x _ hbefore rfl
    rcases hbefore with hlt | ⟨_, hlt⟩
    · exact Nat.lt_irrefl _ hlt
    · exact Nat.lt_irrefl _ hlt
  rw [List.perm_ext_iff_of_nodup (hnodup b) ((hnodup a).map ν.change_injective)]
  have hchange (change : Change) : ν.change change ∈ b.changes k ↔ change ∈ a.changes k := by
    rw [b.mem_changes, a.mem_changes, Renaming.change,
      input.isPressed_cooked_eq hcols (Nat.le_of_lt hk), input.isPressed_cooked_eq hcols hk]
  rintro ⟨r, c, pressed⟩
  rw [List.mem_map]
  constructor
  · intro hmem
    have hback : ν.change ⟨ν.row.symm r, ν.col.symm c, pressed⟩ = ⟨r, c, pressed⟩ := by
      simp [Renaming.change]
    exact ⟨_, (hchange _).1 (hback ▸ hmem), hback⟩
  · rintro ⟨change, hmem, hrenamed⟩
    rw [← hrenamed]
    exact (hchange change).2 hmem

theorem changed_eq (input : a.RenamedInput b ν n) (hcols : cols ≤ width) (hk : k < n) :
    a.changed k = b.changed k := by
  have hperm := (input.changes_perm hcols hk).length_eq
  rw [List.length_map] at hperm
  rw [Bool.eq_iff_iff, a.changed_iff, b.changed_iff, ← List.length_pos_iff, ← List.length_pos_iff,
    hperm]

end RenamedInput

/-- A run over grids whose rows in use and whose columns have got new names goes through the same
states under the new names. -/
theorem rows_and_columns_can_be_renamed (hcols : cols ≤ width)
    {a : Run σ (AntiGhost τ room cols) width rows} {b : Run σ' (AntiGhost τ room cols) width rows}
    {ν : Renaming a.numRows cols} {n : Nat} (input : a.RenamedInput b ν n) :
    a.RenamedOutput b ν n where
  cooked k hk :=
    { size := by rw [size_cooked, size_cooked, input.numRows]
      isPressed := fun r _ c _ => input.isPressed_cooked_eq hcols hk r c }
  key k hk r c := congrArg Switch.key (input.switch_eq hcols hk r c)
  isCrowded k hk := input.isCrowded_eq hcols hk
  downIn k hk := input.downIn_eq hcols hk
  greeting := by rw [greeting_eq, greeting_eq, input.numRows]
  changed k hk := input.changed_eq hcols hk
  log k hk := ⟨a.changes k, b.changes k, a.log_eq hcols k, input.timerLog_eq hk ▸ b.log_eq hcols k,
    input.changes_perm hcols hk⟩

/-- Two keys go down together. A contact beyond the columns of the debouncer lies in the row of one
of them, and in cycle 2 another contact closes without a hint. -/
def plain : Run (FrameScanner 8) (AntiGhost MillisTimer 2 3) 8 2 :=
  Run.ofScanner .on (fun k => ⟨1000 * k⟩)
    { numRows := 2
      frames := [
        { grid := .ofList [⟨0b10000001⟩, ⟨0b00000010⟩], hint := some true },
        { grid := .ofList [⟨0b10000001⟩, ⟨0b00000010⟩], hint := some true },
        { grid := .ofList [⟨0b10000011⟩, ⟨0b00000010⟩], hint := some false }] }
    (.ofTimer { press := 1, release := 1, quiesce := 0 } {}) rfl

/-- The rows change places and the columns go round. -/
def rewired : Run (FrameScanner 8) (AntiGhost MillisTimer 2 3) 8 2 :=
  Run.ofScanner .on (fun k => ⟨1000 * k⟩)
    { numRows := 2
      frames := [
        { grid := .ofList [⟨0b00000100⟩, ⟨0b10000010⟩], hint := some true },
        { grid := .ofList [⟨0b00000100⟩, ⟨0b10000010⟩], hint := some true },
        { grid := .ofList [⟨0b00000100⟩, ⟨0b10000110⟩], hint := some false }] }
    (.ofTimer { press := 1, release := 1, quiesce := 0 } {}) rfl

def rewiring : Renaming plain.numRows 3 where
  row := Equiv.swap 0 1
  col := (Equiv.swap 1 2).trans (Equiv.swap 0 1)
  row_of_le {r} hr := by
    have hr' : 2 ≤ r := hr
    exact Equiv.swap_apply_of_ne_of_ne (by omega) (by omega)
  col_of_le {c} hc := by
    have hlast : Equiv.swap 1 2 c = c := Equiv.swap_apply_of_ne_of_ne (by omega) (by omega)
    have hfirst : Equiv.swap 0 1 c = c := Equiv.swap_apply_of_ne_of_ne (by omega) (by omega)
    rw [Equiv.trans_apply, hlast, hfirst]

theorem plain_rewired :
    3 ≤ 8 ∧ plain.RenamedInput rewired rewiring 4 ∧
      plain.log 1 = [.accepted ⟨0, 0, true⟩, .accepted ⟨1, 1, true⟩] ∧
      rewired.log 1 = [.accepted ⟨0, 2, true⟩, .accepted ⟨1, 1, true⟩] ∧
      (plain.cooked 2).Renamed rewiring (rewired.cooked 2) ∧
      rewired.key 3 (rewiring.row 0) (rewiring.col 1) = plain.key 3 0 1 ∧
      plain.key 3 0 1 = .debouncing 1 ∧
      (rewired.matrix 3).debouncer.tally.isCrowded (rewiring.row 0) =
        (plain.matrix 3).debouncer.tally.isCrowded 0 ∧
      (plain.matrix 3).debouncer.tally.isCrowded 0 = true ∧
      plain.changed 1 = rewired.changed 1 := by
  have hsize : ∀ k < 4, (plain.raw k).size = (rewired.raw k).size := by decide +kernel
  have hpressed : ∀ k < 4, ∀ r < (plain.raw k).size, ∀ c < 8,
      (rewired.raw k).isPressed (rewiring.row r) (rewiring.col c) =
        (plain.raw k).isPressed r c := by decide +kernel
  have input : plain.RenamedInput rewired rewiring 4 :=
    ⟨rfl, rfl, fun _ _ => rfl, by decide +kernel, fun k hk => ⟨hsize k hk, hpressed k hk⟩⟩
  have output := rows_and_columns_can_be_renamed (by decide) input
  exact ⟨by decide, input, by decide +kernel, by decide +kernel, output.cooked 2 (by decide),
    output.key 3 (by decide) 0 1, by decide +kernel, output.isCrowded 3 (by decide) 0,
    by decide +kernel, output.changed 1 (by decide)⟩

end Run
end KeyMatrix
