import KeyMatrix.Proofs.Census
import KeyMatrix.Proofs.Desk

/-! # Rows as sets of columns

A row is the set of the columns where a key is pressed. Work on a row shifts a one to the column
that it is about and combines it with the word, which puts one element into the set or takes it out
and leaves the others alone. A column that is refused stops the work before anything is written.
-/
namespace KeyMatrix

/-! ## Shifted bits -/

section Words
variable {width : Nat}

theorem getLsbD_and_one (word : BitVec width) (i : Nat) :
    (word &&& 1).getLsbD i = (decide (i = 0) && word.getLsbD i) := by
  by_cases hi : i < width
  · have hw : 0 < width := Nat.zero_lt_of_lt hi
    simp only [BitVec.getLsbD_and, BitVec.ofNat_eq_ofNat, BitVec.getLsbD_one, hw, decide_true,
      Bool.true_and]
    exact Bool.and_comm ..
  · rw [BitVec.getLsbD_of_ge _ _ (Nat.le_of_not_lt hi),
      BitVec.getLsbD_of_ge _ _ (Nat.le_of_not_lt hi), Bool.and_false]

theorem and_one_eq_zero_iff (word : BitVec width) :
    word &&& 1 = 0 ↔ word.getLsbD 0 = false := by
  refine BitVec.zero_iff_eq_false.trans ?_
  constructor
  · intro h
    simpa only [getLsbD_and_one, decide_true, Bool.true_and] using h 0
  · intro h i
    rw [getLsbD_and_one]
    by_cases hi : i = 0
    · rw [hi, h, Bool.and_false]
    · rw [decide_eq_false hi, Bool.false_and]

/-- Every number but zero is one more than its predecessor. That of zero is the largest number. -/
theorem toNat_sub_one (word : BitVec width) :
    (word - 1).toNat = (word.toNat + (2 ^ width - 1)) % 2 ^ width := by
  have hone : (1 : BitVec width).toNat = 1 % 2 ^ width := BitVec.toNat_ofNat ..
  rw [BitVec.toNat_sub, hone, Nat.add_comm]
  -- In a word without bits, one is zero.
  rcases Nat.eq_zero_or_pos width with rfl | hw
  · simp [Nat.mod_one]
  · rw [Nat.mod_eq_of_lt (Nat.one_lt_two_pow (Nat.ne_of_gt hw))]

end Words

namespace Row

variable {width : Nat}

theorem isPressed_eq_shiftRight (row : Row width) (c : Nat) :
    row.isPressed c = ((row.bits >>> c) &&& 1 != 0) := by
  have hbit : (row.bits >>> c).getLsbD 0 = row.isPressed c := by
    rw [BitVec.getLsbD_ushiftRight, Nat.add_zero, isPressed]
  rw [← hbit, Bool.eq_iff_iff, bne_iff_ne, ne_eq, and_one_eq_zero_iff, Bool.not_eq_false]

/-- A one that is shifted beyond the word is lost. -/
theorem mask_eq_shiftLeft (width c : Nat) : mask width c = (1 : BitVec width) <<< c := by
  by_cases hc : c < width
  · rw [mask, if_pos hc]
    rfl
  · rw [mask, if_neg hc]
    exact (BitVec.shiftLeft_eq_zero (Nat.le_of_not_lt hc)).symm

theorem set_true_eq_shiftLeft (row : Row width) (c : Nat) :
    row.set c true = ⟨row.bits ||| (1 : BitVec width) <<< c⟩ := by
  rw [set, if_pos rfl, mask_eq_shiftLeft]

theorem set_false_eq_shiftLeft (row : Row width) (c : Nat) :
    row.set c false = ⟨row.bits &&& ~~~((1 : BitVec width) <<< c)⟩ := by
  rw [set, if_neg Bool.false_ne_true, mask_eq_shiftLeft]

theorem toggle_eq_shiftLeft (row : Row width) (c : Nat) :
    row.toggle c = ⟨row.bits ^^^ (1 : BitVec width) <<< c⟩ := by
  rw [toggle, mask_eq_shiftLeft]

/-! ## Sets of columns -/

/-- One row has the keys of the other, but for the key at `c`, which is pressed as told. -/
structure ChangedAt (before : Row width) (c : Nat) (pressed : Bool) (after : Row width) :
    Prop where
  here : after.isPressed c = pressed
  elsewhere (other : Nat) : other ≠ c → after.isPressed other = before.isPressed other

theorem changedAt_set (row : Row width) {c : Nat} (hc : c < width) (pressed : Bool) :
    row.ChangedAt c pressed (row.set c pressed) where
  here := by rw [isPressed_set, if_pos ⟨rfl, hc⟩]
  elsewhere other hother := by rw [isPressed_set, if_neg fun h => hother h.1]

theorem changedAt_toggle (row : Row width) {c : Nat} (hc : c < width) :
    row.ChangedAt c (!row.isPressed c) (row.toggle c) where
  here := by rw [isPressed_toggle, if_pos ⟨rfl, hc⟩]
  elsewhere other hother := by rw [isPressed_toggle, if_neg fun h => hother h.1]

theorem eq_iff_isPressed (a b : Row width) :
    a = b ↔ ∀ c < width, a.isPressed c = b.isPressed c := by
  constructor
  · rintro rfl c _
    rfl
  · exact ext_isPressed

theorem isEmpty_iff_columns (row : Row width) :
    row.isEmpty = true ↔ ∀ c < width, row.isPressed c = false := by
  rw [isEmpty_iff]
  constructor
  · intro h c _
    exact h c
  · intro h c
    by_cases hc : c < width
    · exact h c hc
    · exact row.isPressed_of_width_le (Nat.le_of_not_lt hc)

theorem hasMultiple_iff_columns (row : Row width) :
    row.hasMultiple = true ↔
      ∃ c < width, ∃ d < width, c ≠ d ∧ row.isPressed c = true ∧ row.isPressed d = true := by
  rw [hasMultiple_iff]
  constructor
  · rintro ⟨c, d, hne, hc, hd⟩
    exact ⟨c, lt_width_of_isPressed hc, d, lt_width_of_isPressed hd, hne, hc, hd⟩
  · rintro ⟨c, _, d, _, h⟩
    exact ⟨c, d, h⟩

theorem hasMultiple_eq_toNat (row : Row width) :
    row.hasMultiple =
      (row.toNat &&& ((row.toNat + (2 ^ width - 1)) % 2 ^ width) != 0) := by
  rw [Bool.eq_iff_iff, bne_iff_ne, hasMultiple, bne_iff_ne, toNat, ← toNat_sub_one,
    ← BitVec.toNat_and, ne_eq, ne_eq, ← BitVec.toNat_inj]
  rfl

end Row

/-! ## Work on a row -/

/-- Work on a row in place. When it is stopped, what has been written so far stays. -/
abbrev RowWork (width : Nat) := EStateM Fault (Row width)

/-- What an answer leaves of a row. If it is refused, that is the row as it was. -/
def Row.settle {α : Type} {width : Nat} (row : Row width) :
    Except Fault (α × Row width) → EStateM.Result Fault (Row width) α
  | .ok (value, after) => .ok value after
  | .error fault => .error fault row

namespace RowWork

variable {α : Type} {width : Nat}

/-- Find out what column an address stands for, and look at the row or change it there. -/
def atColumn (checks : Checks) (c : Nat) (act : Nat → Row width → α × Row width) :
    RowWork width α := do
  let c ← ofExcept (Row.column checks width c)
  modifyGet (act c)

/-- Look at a bit when it has been shifted to the lowest place. -/
def isPressed (checks : Checks) (c : Nat) : RowWork width Bool :=
  atColumn checks c fun c row => ((row.bits >>> c) &&& 1 != 0, row)

/-- Press or release a key. -/
def set (checks : Checks) (c : Nat) (pressed : Bool) : RowWork width Unit :=
  if pressed then atColumn checks c fun c row => ((), ⟨row.bits ||| (1 : BitVec width) <<< c⟩)
  else atColumn checks c fun c row => ((), ⟨row.bits &&& ~~~((1 : BitVec width) <<< c)⟩)

/-- Flip a key. -/
def toggle (checks : Checks) (c : Nat) : RowWork width Unit :=
  atColumn checks c fun c row => ((), ⟨row.bits ^^^ (1 : BitVec width) <<< c⟩)

section Steps
variable (checks : Checks) (c : Nat)

theorem run_atColumn (act : Nat → Row width → α × Row width) (row : Row width) :
    (atColumn checks c act).run row =
      row.settle ((Row.column checks width c).map fun c => act c row) := by
  rw [atColumn]
  cases Row.column checks width c <;> rfl

/-- The bits that are shifted are those of the key. -/
theorem isPressed_eq_atColumn :
    (isPressed checks c : RowWork width Bool) =
      atColumn checks c fun c row => (row.isPressed c, row) := by
  simp only [isPressed, Row.isPressed_eq_shiftRight]

theorem set_eq_atColumn (pressed : Bool) :
    (set checks c pressed : RowWork width Unit) =
      atColumn checks c fun c row => ((), row.set c pressed) := by
  cases pressed with
  | true => simp only [set, if_true, Row.set_true_eq_shiftLeft]
  | false => simp only [set, Bool.false_eq_true, if_false, Row.set_false_eq_shiftLeft]

theorem toggle_eq_atColumn :
    (toggle checks c : RowWork width Unit) =
      atColumn checks c fun c row => ((), row.toggle c) := by
  simp only [toggle, Row.toggle_eq_shiftLeft]

end Steps

section Columns
variable (row : Row width) {c : Nat} (act : Nat → Row width → α × Row width)

/-- Checks or not, a column that the row has is found. -/
theorem run_atColumn_of_lt (checks : Checks) (hc : c < width) :
    (atColumn checks c act).run row = .ok (act c row).1 (act c row).2 := by
  rw [run_atColumn, Row.column_eq checks hc]
  rfl

theorem run_atColumn_of_width_le (hc : width ≤ c) :
    (atColumn .on c act).run row = .error .columnOverflow row := by
  have hcolumn : Row.column .on width c = .error .columnOverflow := if_neg (Nat.not_lt.2 hc)
  rw [run_atColumn, hcolumn]
  rfl

end Columns

end RowWork

/-- Rows of a width are sets of columns, and work on them in place keeps to that. -/
structure ColumnSets (width : Nat) : Prop where
  /-- Shift by shift, a row is asked and changed as it answers. -/
  run_isPressed (checks : Checks) (c : Nat) (row : Row width) :
    (RowWork.isPressed checks c).run row =
      row.settle ((row.isPressedAt checks c).map fun pressed => (pressed, row))
  run_set (checks : Checks) (c : Nat) (pressed : Bool) (row : Row width) :
    (RowWork.set checks c pressed).run row =
      row.settle ((row.setAt checks c pressed).map fun after => ((), after))
  run_toggle (checks : Checks) (c : Nat) (row : Row width) :
    (RowWork.toggle checks c).run row =
      row.settle ((row.toggleAt checks c).map fun after => ((), after))
  /-- A column of the row is not refused, checks or not. It is shown as it is, -/
  isPressed_ok (checks : Checks) (row : Row width) {c : Nat} : c < width →
    (RowWork.isPressed checks c).run row = .ok (row.isPressed c) row
  /-- and changed without any effect on the others. -/
  set_ok (checks : Checks) (row : Row width) {c : Nat} (pressed : Bool) : c < width →
    ∃ after, (RowWork.set checks c pressed).run row = .ok () after ∧
      row.ChangedAt c pressed after
  toggle_ok (checks : Checks) (row : Row width) {c : Nat} : c < width →
    ∃ after, (RowWork.toggle checks c).run row = .ok () after ∧
      row.ChangedAt c (!row.isPressed c) after
  /-- With checks, a column that the row does not have is refused, and the row stays as it is. -/
  refused (row : Row width) {c : Nat} (pressed : Bool) : width ≤ c →
    (RowWork.isPressed .on c).run row = .error .columnOverflow row ∧
      (RowWork.set .on c pressed).run row = .error .columnOverflow row ∧
      (RowWork.toggle .on c).run row = .error .columnOverflow row
  eq_iff (a b : Row width) : a = b ↔ ∀ c < width, a.isPressed c = b.isPressed c
  isEmpty_iff (row : Row width) : row.isEmpty = true ↔ ∀ c < width, row.isPressed c = false
  /-- As a number, a row with several keys has a bit in common with its predecessor. -/
  hasMultiple_eq (row : Row width) : row.hasMultiple =
    (row.toNat &&& ((row.toNat + (2 ^ width - 1)) % 2 ^ width) != 0)
  hasMultiple_iff (row : Row width) : row.hasMultiple = true ↔
    ∃ c < width, ∃ d < width, c ≠ d ∧ row.isPressed c = true ∧ row.isPressed d = true

/-- A row is known by the columns where a key is pressed. It can be asked about each of them and
changed there, which has no effect on the others; a column that it does not have is refused. It is
empty if no key is pressed, and shares a bit with its predecessor if two are. -/
theorem rows_are_sets_of_columns (width : Nat) : ColumnSets width where
  run_isPressed checks c row := by
    rw [RowWork.isPressed_eq_atColumn, RowWork.run_atColumn, Row.isPressedAt]
    cases Row.column checks width c <;> rfl
  run_set checks c pressed row := by
    rw [RowWork.set_eq_atColumn, RowWork.run_atColumn, Row.setAt]
    cases Row.column checks width c <;> rfl
  run_toggle checks c row := by
    rw [RowWork.toggle_eq_atColumn, RowWork.run_atColumn, Row.toggleAt]
    cases Row.column checks width c <;> rfl
  isPressed_ok checks row c hc := by
    rw [RowWork.isPressed_eq_atColumn, RowWork.run_atColumn_of_lt row _ checks hc]
  set_ok checks row c pressed hc := by
    rw [RowWork.set_eq_atColumn, RowWork.run_atColumn_of_lt row _ checks hc]
    exact ⟨_, rfl, row.changedAt_set hc pressed⟩
  toggle_ok checks row c hc := by
    rw [RowWork.toggle_eq_atColumn, RowWork.run_atColumn_of_lt row _ checks hc]
    exact ⟨_, rfl, row.changedAt_toggle hc⟩
  refused row c pressed hc := by
    rw [RowWork.isPressed_eq_atColumn, RowWork.set_eq_atColumn, RowWork.toggle_eq_atColumn]
    exact ⟨RowWork.run_atColumn_of_width_le row _ hc, RowWork.run_atColumn_of_width_le row _ hc,
      RowWork.run_atColumn_of_width_le row _ hc⟩
  eq_iff := Row.eq_iff_isPressed
  isEmpty_iff := Row.isEmpty_iff_columns
  hasMultiple_eq := Row.hasMultiple_eq_toNat
  hasMultiple_iff := Row.hasMultiple_iff_columns

/-- The first and the last key of a row of 128 are held down. -/
def bothEnds : Row 128 := .ofNat 128 (2 ^ 127 + 1)

/-- The last key is let go by a toggle as well as by a release, and the first one stays down. There
is no key behind the last. Without keys the predecessor of the row has all bits, and still none in
common with it. -/
theorem bothEnds_are_a_set :
    let first : Row 128 := .ofNat 128 1
    127 < 128 ∧ (RowWork.isPressed .on 127).run bothEnds = .ok true bothEnds ∧
      (RowWork.toggle .on 127).run bothEnds = .ok () first ∧ bothEnds.ChangedAt 127 false first ∧
      (RowWork.set .on 127 false).run bothEnds = .ok () first ∧
      128 ≤ 128 ∧ (RowWork.set .on 128 true).run bothEnds = .error .columnOverflow bothEnds ∧
      bothEnds ≠ first ∧ (¬ ∀ c < 128, bothEnds.isPressed c = first.isPressed c) ∧
      first.isEmpty = false ∧ (¬ ∀ c < 128, first.isPressed c = false) ∧
      bothEnds.hasMultiple = true ∧
      (∃ c < 128, ∃ d < 128, c ≠ d ∧ bothEnds.isPressed c = true ∧ bothEnds.isPressed d = true) ∧
      ((Row.empty : Row 128).toNat + (2 ^ 128 - 1)) % 2 ^ 128 = 2 ^ 128 - 1 ∧
      (Row.empty : Row 128).hasMultiple = false := by
  intro first
  have hsets := rows_are_sets_of_columns 128
  have hlast : 127 < 128 := by decide
  have hne : bothEnds ≠ first := by decide
  have hfirst : ¬ first.isEmpty = true := by decide
  have hpressed : bothEnds.isPressed 127 = true := by decide
  have hshown := hsets.isPressed_ok .on bothEnds hlast
  rw [hpressed] at hshown
  obtain ⟨toggled, htoggle, hchanged⟩ := hsets.toggle_ok .on bothEnds hlast
  obtain ⟨released, hrelease, _⟩ := hsets.set_ok .on bothEnds false hlast
  have htoggled : toggled = first := by
    cases htoggle
    decide
  have hreleased : released = first := by
    cases hrelease
    decide
  rw [htoggled, hpressed] at hchanged
  rw [htoggled] at htoggle
  rw [hreleased] at hrelease
  exact ⟨hlast, hshown, htoggle, hchanged, hrelease, Nat.le_refl 128,
    (hsets.refused bothEnds true (Nat.le_refl 128)).2.1, hne, fun h => hne ((hsets.eq_iff ..).2 h),
    Bool.eq_false_iff.2 hfirst, fun h => hfirst ((hsets.isEmpty_iff first).2 h), by decide,
    (hsets.hasMultiple_iff bothEnds).1 (by decide), by decide, by decide⟩

end KeyMatrix
