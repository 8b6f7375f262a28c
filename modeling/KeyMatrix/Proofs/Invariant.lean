import KeyMatrix.Proofs.KeyRun

/-! # What every state of a run keeps

A countdown never holds more than the time it began with, and the direction in which a key
counts down is told by its cooked bit alone. Nothing outside the rows in use and the columns of
the debouncer ever leaves its first state. One cycle keeps all of this, so that every run does.
-/
namespace KeyMatrix

/-! ## Countdowns -/

/-- A countdown from `total` may have `remaining` left: not more than `total`, and nothing only
if there was nothing to begin with. -/
def Lingers (remaining total : UInt8) : Prop :=
  remaining ≤ total ∧ (remaining = 0 → total = 0)

instance (remaining total : UInt8) : Decidable (Lingers remaining total) :=
  inferInstanceAs (Decidable (_ ∧ _))

theorem Lingers.refl (total : UInt8) : Lingers total total :=
  ⟨UInt8.le_refl total, id⟩

/-- A countdown is only lowered by less than it holds. -/
theorem Lingers.sub {remaining total elapsed : UInt8} (h : Lingers remaining total)
    (helapsed : elapsed < remaining) : Lingers (remaining - elapsed) total := by
  have hsub := UInt8.toNat_sub_of_le _ _ (UInt8.le_of_lt helapsed)
  have hle := h.1
  rw [UInt8.le_iff_toNat_le] at hle
  rw [UInt8.lt_iff_toNat_lt] at helapsed
  constructor
  · rw [UInt8.le_iff_toNat_le, hsub]
    omega
  · intro hzero
    have hz := congrArg UInt8.toNat hzero
    rw [hsub, UInt8.toNat_zero] at hz
    omega

namespace Switch

/-- The time left to a key fits what it is doing. While it debounces, the change is one away from
its settled state. -/
def Bounded (config : Config) : Switch → Prop
  | ⟨.waiting, _⟩ => True
  | ⟨.debouncing n, cooked⟩ => Lingers n (config.threshold !cooked)
  | ⟨.quiescing n, _⟩ => Lingers n config.quiesce

theorem Bounded.advance {config : Config} {switch : Switch} (h : switch.Bounded config)
    (signal : Signal) : (switch.advance config signal).Bounded config := by
  cases ht : signal.ambiguous with
  | true =>
    rw [advance_ambiguous config switch ht]
    exact h
  | false =>
    rcases switch with ⟨key, cooked⟩
    cases key with
    | waiting =>
      rw [advance_waiting ht rfl]
      split
      · exact h
      · rename_i hraw
        rw [Bool.eq_not_iff.2 hraw]
        exact .refl _
    | debouncing n =>
      rw [advance_debouncing ht rfl]
      split
      · trivial
      · split
        · rename_i hn
          exact Lingers.sub h hn
        · exact Lingers.refl _
    | quiescing n =>
      rw [advance_quiescing ht rfl]
      split
      · rename_i hn
        exact Lingers.sub h hn
      · trivial

end Switch

/-! ## Tallies and grids -/

namespace Tally

variable {width rows cols : Nat}

theorem downIn_of_cols_le (tally : Tally rows cols) {c : Nat} (hc : cols ≤ c) :
    tally.downIn c = 0 := by
  rw [downIn, Vector.getElem?_eq_none hc, Option.getD_none]

/-- No column has more keys down than there are rows. -/
theorem toNat_downIn_recompute_le (tally : Tally rows cols) (raw : Grid width) (c : Nat) :
    ((tally.recompute raw).downIn c).toNat ≤ min 255 raw.size := by
  by_cases hc : c < cols
  · have hcount : (raw.take rows).countIn c ≤ (raw.take rows).size := Nat.count_le _
    rw [Grid.size_take] at hcount
    rw [toNat_downIn_recompute tally raw hc]
    omega
  · rw [downIn_of_cols_le _ (Nat.le_of_not_lt hc)]
    exact Nat.zero_le _

end Tally

/-! ## The invariant -/

/-- The state of a matrix with timed keys between two cycles. -/
structure Matrix.Tidy {σ τ : Type} {width rows room cols : Nat}
    (matrix : Matrix σ (AntiGhost τ room cols) width rows) : Prop where
  bounded (r c : Nat) : Switch.Bounded matrix.debouncer.config
    ⟨matrix.debouncer.keys.get r c, matrix.cooked.isPressed r c⟩
  waiting {r : Nat} (c : Nat) : matrix.numRows ≤ r → matrix.debouncer.keys.get r c = .waiting
  not_crowded {r : Nat} : matrix.numRows ≤ r → matrix.debouncer.tally.isCrowded r = false
  down_le (c : Nat) : (matrix.debouncer.tally.downIn c).toNat ≤ min 255 matrix.numRows
  row_cooked {r : Nat} : matrix.numRows ≤ r → matrix.cooked.row r = .empty
  row_raw {r : Nat} : matrix.numRows ≤ r → matrix.raw.row r = .empty
  released (r : Nat) {c : Nat} : cols ≤ c → matrix.cooked.isPressed r c = false

namespace Run

section Grids
variable {σ δ : Type} {width rows : Nat} [Scanner σ width] [Debouncer δ]
variable (run : Run σ δ width rows)

theorem row_cooked_of_numRows_le {r : Nat} (hr : run.numRows ≤ r) (k : Nat) :
    (run.matrix k).cooked.row r = .empty := by
  induction k with
  | zero =>
    obtain ⟨_, _, _, _, _, _, hcooked, _⟩ := Matrix.ofScanner_cases run.opened
    change (run.matrix 0).cooked = _ at hcooked
    rw [hcooked, Grid.row_released]
  | succ k ih =>
    obtain ⟨_, _, _, _, _, _, hcooked, _⟩ := Matrix.update_cases (run.updated k)
    dsimp only at hcooked
    rw [hcooked, numRows_matrix, Grid.row_overwrite, if_neg (by omega), ih]

theorem row_raw_of_numRows_le {r : Nat} (hr : run.numRows ≤ r) (k : Nat) :
    (run.matrix k).raw.row r = .empty := by
  induction k with
  | zero =>
    obtain ⟨_, _, _, _, _, hraw, _⟩ := Matrix.ofScanner_cases run.opened
    change (run.matrix 0).raw = _ at hraw
    rw [hraw, Grid.row_released]
  | succ k ih =>
    obtain ⟨_, _, _, _, _, hraw, _⟩ := Matrix.update_cases (run.updated k)
    dsimp only at hraw
    rw [hraw, Matrix.rescanned, numRows_matrix, Grid.row_overwrite, if_neg (by omega), ih]

/-- Nothing of the cooked grid is lost by looking at the rows in use only. -/
theorem isPressed_matrix_cooked (k r c : Nat) :
    (run.matrix k).cooked.isPressed r c = (run.cooked k).isPressed r c := by
  rw [cooked, Matrix.cookedRows, numRows_matrix, Grid.isPressed_take]
  by_cases hr : r < run.numRows
  · rw [decide_eq_true hr, Bool.true_and]
  · rw [decide_eq_false hr, Bool.false_and, Grid.isPressed,
      run.row_cooked_of_numRows_le (Nat.le_of_not_lt hr), Row.isPressed_empty]

end Grids

variable {σ τ : Type} {width rows room cols : Nat} [Scanner σ width] [TimeSource τ]
variable (run : Run σ (AntiGhost τ room cols) width rows)

theorem switch_of_not_used {r c : Nat} (h : ¬ (r < run.numRows ∧ c < cols)) (k : Nat) :
    run.switch r c k = {} := by
  induction k with
  | zero => exact run.switch_zero r c
  | succ k ih => rw [run.switch_succ_of_not_used h k, ih]

theorem switch_bounded (hcols : cols ≤ width) (r c k : Nat) :
    (run.switch r c k).Bounded run.debouncer.config := by
  by_cases hused : r < run.numRows ∧ c < cols
  · induction k with
    | zero =>
      rw [switch_zero]
      trivial
    | succ k ih =>
      rw [run.switch_succ hcols hused.1 hused.2]
      exact ih.advance _
  · rw [run.switch_of_not_used hused]
    trivial

/-- A cycle leaves the tally alone or renews it. -/
theorem tally_succ_eq_or (k : Nat) :
    (run.matrix (k + 1)).debouncer.tally = (run.matrix k).debouncer.tally ∨
      (run.matrix (k + 1)).debouncer.tally =
        (run.matrix k).debouncer.tally.recompute (run.raw k) := by
  by_cases hn : run.numRows = 0
  · rw [(run.cycle_of_numRows_eq_zero hn k).1]
    exact .inl rfl
  · rw [run.tally_succ hn k]
    split
    · exact .inr rfl
    · exact .inl rfl

theorem not_isCrowded_of_numRows_le {r : Nat} (hr : run.numRows ≤ r) (k : Nat) :
    (run.matrix k).debouncer.tally.isCrowded r = false := by
  induction k with
  | zero => rw [debouncer_zero, Tally.isCrowded_clear]
  | succ k ih =>
    rcases run.tally_succ_eq_or k with h | h
    · rw [h, ih]
    · rw [h, Tally.isCrowded_recompute, size_raw, if_neg (by omega), ih]

theorem toNat_downIn_le (k c : Nat) :
    ((run.matrix k).debouncer.tally.downIn c).toNat ≤ min 255 run.numRows := by
  induction k with
  | zero =>
    rw [debouncer_zero, Tally.downIn_clear]
    exact Nat.zero_le _
  | succ k ih =>
    rcases run.tally_succ_eq_or k with h | h
    · rw [h]
      exact ih
    · rw [h, ← run.size_raw k]
      exact Tally.toNat_downIn_recompute_le _ _ c

/-- Every state of a run is tidy, whatever the scanner samples and the time source answers. -/
theorem matrix_is_tidy (hcols : cols ≤ width) (k : Nat) : (run.matrix k).Tidy where
  bounded r c := by
    rw [config_eq, isPressed_matrix_cooked]
    exact run.switch_bounded hcols r c k
  waiting {r} c hr := by
    rw [numRows_matrix] at hr
    exact congrArg Switch.key (run.switch_of_not_used (fun h => absurd h.1 (Nat.not_lt.2 hr)) k)
  not_crowded hr := by
    rw [numRows_matrix] at hr
    exact run.not_isCrowded_of_numRows_le hr k
  down_le c := by
    rw [numRows_matrix]
    exact run.toNat_downIn_le k c
  row_cooked hr := by
    rw [numRows_matrix] at hr
    exact run.row_cooked_of_numRows_le hr k
  row_raw hr := by
    rw [numRows_matrix] at hr
    exact run.row_raw_of_numRows_le hr k
  released r c hc := by
    rw [isPressed_matrix_cooked]
    exact congrArg Switch.cooked (run.switch_of_not_used (fun h => absurd h.2 (Nat.not_lt.2 hc)) k)

/-- A matrix with room for four rows, a debouncer with room for three, and a scanner of two. The
highest contact of row 0 lies beyond the columns of the debouncer. -/
def spare : Run (FrameScanner 8) (AntiGhost FrameTimer 3 3) 8 4 :=
  Run.ofScanner .on (fun _ => .start)
    { numRows := 2
      frames := List.replicate 6 { grid := .ofList [⟨0b10000001⟩, ⟨0b10⟩, ⟨0b111⟩] } ++
        [{ grid := .ofList [⟨0b10000000⟩, ⟨0b10⟩, ⟨0b111⟩] }] }
    (.ofTimer { press := 2, release := 0, quiesce := 3 } {}) rfl

/-- A press that has been counting down, and a release that need not last. -/
theorem spare_tidy :
    3 ≤ 8 ∧ (spare.matrix 2).Tidy ∧ (spare.matrix 7).Tidy ∧
      spare.switch 0 0 2 = ⟨.debouncing 1, false⟩ ∧ spare.switch 0 0 7 = ⟨.debouncing 0, true⟩ ∧
      (spare.matrix 2).debouncer.tally.isCrowded 0 = true ∧
      (spare.matrix 7).cooked.isPressed 1 1 = true :=
  ⟨by decide, spare.matrix_is_tidy (by decide) 2, spare.matrix_is_tidy (by decide) 7,
    by decide +kernel, by decide +kernel, by decide +kernel, by decide +kernel⟩

end Run
end KeyMatrix
