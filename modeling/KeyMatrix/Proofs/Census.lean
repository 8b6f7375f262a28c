import KeyMatrix.Tally
import Mathlib.Data.Nat.Count

/-! # Counting pressed keys

A tally answers with a bit trick and with saturating counters what is a question about sets
of columns and rows. Here its answers are read as plain counts of pressed keys.
-/
namespace KeyMatrix

/-- Counting to two is finding two different places. -/
theorem two_le_count_iff {p : Nat → Prop} [DecidablePred p] {n : Nat} :
    2 ≤ Nat.count p n ↔ ∃ i < n, ∃ j < n, i ≠ j ∧ p i ∧ p j := by
  rw [Nat.count_eq_card_filter_range, Nat.succ_le_iff, Finset.one_lt_card]
  constructor
  · rintro ⟨i, hi, j, hj, hne⟩
    rw [Finset.mem_filter, Finset.mem_range] at hi hj
    exact ⟨i, hi.1, j, hj.1, hne, hi.2, hj.2⟩
  · rintro ⟨i, hi, j, hj, hne, hpi, hpj⟩
    exact ⟨i, Finset.mem_filter.2 ⟨Finset.mem_range.2 hi, hpi⟩,
      j, Finset.mem_filter.2 ⟨Finset.mem_range.2 hj, hpj⟩, hne⟩

/-- A number has one bit only if it is a power of two. -/
theorem isPowerOfTwo_iff_testBit {n : Nat} (hn : n ≠ 0) :
    n.isPowerOfTwo ↔ ∀ i j, n.testBit i = true → n.testBit j = true → i = j := by
  constructor
  · rintro ⟨k, rfl⟩ i j hi hj
    rw [Nat.testBit_two_pow, decide_eq_true_eq] at hi hj
    exact hi.symm.trans hj
  · intro h
    have htop : n.testBit n.log2 = true := Nat.testBit_log2 hn
    refine ⟨n.log2, Nat.eq_of_testBit_eq fun i => ?_⟩
    rw [Nat.testBit_two_pow]
    by_cases hi : n.log2 = i
    · subst hi
      simpa using htop
    · rw [decide_eq_false hi]
      exact Bool.eq_false_iff.2 fun hbit => hi (h _ _ htop hbit)

namespace Row

variable {width : Nat}

/-- How many keys of the row are pressed. -/
def count (row : Row width) : Nat := Nat.count (fun c => row.isPressed c) width

theorem lt_width_of_isPressed {row : Row width} {c : Nat} (h : row.isPressed c = true) :
    c < width := by
  by_contra hc
  rw [row.isPressed_of_width_le (Nat.le_of_not_lt hc)] at h
  exact Bool.false_ne_true h

theorem two_le_count_iff (row : Row width) :
    2 ≤ row.count ↔ ∃ c d, c ≠ d ∧ row.isPressed c = true ∧ row.isPressed d = true := by
  rw [count, KeyMatrix.two_le_count_iff]
  constructor
  · rintro ⟨c, _, d, _, h⟩
    exact ⟨c, d, h⟩
  · rintro ⟨c, d, hne, hc, hd⟩
    exact ⟨c, lt_width_of_isPressed hc, d, lt_width_of_isPressed hd, hne, hc, hd⟩

/-- Clearing the lowest set bit leaves something exactly if two different keys are pressed. -/
theorem hasMultiple_iff (row : Row width) :
    row.hasMultiple = true ↔
      ∃ c d, c ≠ d ∧ row.isPressed c = true ∧ row.isPressed d = true := by
  by_cases hz : row.bits = 0
  · have hrow : row = empty := Row.ext hz
    rw [hrow]
    simp [hasMultiple, empty, isPressed]
  · have hn : row.bits.toNat ≠ 0 := fun h => hz (BitVec.eq_of_toNat_eq (by simpa using h))
    have hsub : (row.bits - 1).toNat = row.bits.toNat - 1 := by
      have hlt := row.bits.isLt
      have hone : (1 : BitVec width).toNat = 1 := by
        rw [show (1 : BitVec width) = BitVec.ofNat width 1 from rfl, BitVec.toNat_ofNat]
        exact Nat.mod_eq_of_lt (by omega)
      rw [BitVec.toNat_sub_of_le, hone]
      rw [BitVec.le_def, hone]
      omega
    have hclear : row.hasMultiple = true ↔ ¬ row.bits.toNat.isPowerOfTwo := by
      rw [← Nat.and_sub_one_eq_zero_iff_isPowerOfTwo hn, ← hsub, ← BitVec.toNat_and, hasMultiple,
        bne_iff_ne, ne_eq, ← BitVec.toNat_inj]
      rfl
    rw [hclear, isPowerOfTwo_iff_testBit hn]
    push Not
    constructor
    · rintro ⟨c, d, hc, hd, hne⟩
      exact ⟨c, d, hne, hc, hd⟩
    · rintro ⟨c, d, hne, hc, hd⟩
      exact ⟨c, d, hc, hd, hne⟩

theorem hasMultiple_eq (row : Row width) : row.hasMultiple = decide (2 ≤ row.count) := by
  rw [Bool.eq_iff_iff, hasMultiple_iff, decide_eq_true_eq, two_le_count_iff]

end Row

namespace Grid

variable {width : Nat}

/-- How many keys of column `c` are pressed. -/
def countIn (grid : Grid width) (c : Nat) : Nat :=
  Nat.count (fun r => grid.isPressed r c) grid.size

theorem lt_size_of_isPressed {grid : Grid width} {r c : Nat} (h : grid.isPressed r c = true) :
    r < grid.size := by
  by_contra hr
  rw [grid.isPressed_of_size_le (Nat.le_of_not_lt hr)] at h
  exact Bool.false_ne_true h

theorem two_le_countIn_iff (grid : Grid width) (c : Nat) :
    2 ≤ grid.countIn c ↔
      ∃ r s, r ≠ s ∧ grid.isPressed r c = true ∧ grid.isPressed s c = true := by
  rw [countIn, KeyMatrix.two_le_count_iff]
  constructor
  · rintro ⟨r, _, s, _, h⟩
    exact ⟨r, s, h⟩
  · rintro ⟨r, s, hne, hr, hs⟩
    exact ⟨r, lt_size_of_isPressed hr, s, lt_size_of_isPressed hs, hne, hr, hs⟩

private theorem countP_eq_count (rows : List (Row width)) (c : Nat) :
    rows.countP (·.isPressed c) =
      Nat.count (fun r => (rows[r]?.getD Row.empty).isPressed c) rows.length := by
  induction rows with
  | nil => rfl
  | cons row rows ih =>
    rw [List.countP_cons, List.length_cons, Nat.count_succ', ih]
    simp

theorem countIn_eq_countP (grid : Grid width) (c : Nat) :
    grid.countIn c = grid.toList.countP (·.isPressed c) := by
  rw [countP_eq_count]
  simp only [toList, Array.length_toList, Array.getElem?_toList]
  rfl

/-- The rule for cells that may be phantoms: several keys are pressed in the row of the cell
and several in its column. -/
def isSuspect (grid : Grid width) (r c : Nat) : Bool :=
  decide (2 ≤ (grid.row r).count) && decide (2 ≤ grid.countIn c)

theorem isSuspect_iff (grid : Grid width) (r c : Nat) :
    grid.isSuspect r c = true ↔
      (∃ d e, d ≠ e ∧ grid.isPressed r d = true ∧ grid.isPressed r e = true) ∧
        ∃ s t, s ≠ t ∧ grid.isPressed s c = true ∧ grid.isPressed t c = true := by
  rw [isSuspect, Bool.and_eq_true, decide_eq_true_eq, decide_eq_true_eq, Row.two_le_count_iff,
    two_le_countIn_iff]
  rfl

@[simp] theorem isSuspect_released (n r c : Nat) :
    (released n : Grid width).isSuspect r c = false := by
  rw [Bool.eq_false_iff, ne_eq, isSuspect_iff]
  rintro ⟨⟨d, _, _, hd, _⟩, _⟩
  rw [isPressed_released] at hd
  exact Bool.false_ne_true hd

end Grid

namespace Tally

variable {width rows cols : Nat}

private theorem getElem_countRow (counts : Vector UInt8 cols) (row : Row width) {c : Nat}
    (hc : c < cols) :
    (countRow counts row)[c].toNat =
      min 255 (counts[c].toNat + if row.isPressed c then 1 else 0) := by
  have hlt := counts[c].toNat_lt
  rw [countRow, Vector.getElem_mapIdx]
  by_cases hp : row.isPressed c = true
  · by_cases hfull : counts[c] = 255
    · simp [hp, hfull]
    · have hne : counts[c].toNat ≠ 255 := fun h => hfull (UInt8.toNat_inj.1 h)
      have hroom : (row.isPressed c && counts[c] != 255) = true := by simp [hp, hfull]
      rw [if_pos hroom, if_pos hp, UInt8.toNat_add]
      change (counts[c].toNat + 1) % 256 = _
      omega
  · simp only [hp, Bool.false_and, if_false, Bool.false_eq_true]
    omega

/-- A counter that saturates at every row ends where one that saturates at the end does. -/
private theorem getElem_foldl_countRow (counts : Vector UInt8 cols) (list : List (Row width))
    {c : Nat} (hc : c < cols) :
    (list.foldl countRow counts)[c].toNat =
      min 255 (counts[c].toNat + list.countP (·.isPressed c)) := by
  induction list generalizing counts with
  | nil =>
    have hlt := counts[c].toNat_lt
    simp only [List.foldl_nil, List.countP_nil]
    omega
  | cons row list ih =>
    rw [List.foldl_cons, ih, getElem_countRow _ _ hc, List.countP_cons]
    omega

theorem toNat_downIn_recompute (tally : Tally rows cols) (raw : Grid width) {c : Nat}
    (hc : c < cols) :
    ((tally.recompute raw).downIn c).toNat = min 255 ((raw.take rows).countIn c) := by
  rw [Grid.countIn_eq_countP, downIn, recompute]
  have hzero : (Vector.replicate cols (0 : UInt8))[c].toNat = 0 := by simp
  have hfold := getElem_foldl_countRow (Vector.replicate cols 0) (raw.take rows).toList hc
  rw [hzero, Nat.zero_add] at hfold
  rw [← hfold]
  simp [Vector.getElem?_eq_getElem hc]

/-- On the rows and columns of a tally its answer is the rule for phantoms, read off the grid
that it was last given. -/
theorem isAmbiguous_recompute (tally : Tally rows cols) (raw : Grid width) {r c : Nat}
    (hr : r < raw.size) (hsize : raw.size ≤ rows) (hc : c < cols) :
    (tally.recompute raw).isAmbiguous r c = raw.isSuspect r c := by
  have hdown := toNat_downIn_recompute tally raw hc
  rw [raw.take_of_size_le hsize] at hdown
  rw [isAmbiguous, isCrowded_recompute, if_pos ⟨by omega, hr⟩, Row.hasMultiple_eq,
    Grid.isSuspect]
  congr 1
  rw [decide_eq_decide, UInt8.lt_iff_toNat_lt, hdown]
  change 1 < _ ↔ _
  omega

end Tally
end KeyMatrix
