import KeyMatrix.Fault

/-! # Rows of keys

A row is a word with one bit per column, set while the key there is closed. The view of a
row is `isPressed`, total over all columns: beyond the width of the word nothing is pressed.
-/
namespace KeyMatrix

/-- The keys of one row, column `c` in bit `c`. -/
@[ext] structure Row (width : Nat) where
  bits : BitVec width
  deriving DecidableEq

namespace Row

variable {width : Nat}

/-- The row with every key released. -/
def empty : Row width := ⟨0⟩

instance : Inhabited (Row width) := ⟨empty⟩

/-- The row whose word has the value `n`, cut to the width. -/
def ofNat (width n : Nat) : Row width := ⟨BitVec.ofNat width n⟩

/-- The value of the word. -/
def toNat (row : Row width) : Nat := row.bits.toNat

/-- Whether the key at `col` is pressed. -/
def isPressed (row : Row width) (col : Nat) : Bool := row.bits.getLsbD col

/-- The word that selects the key at `col`, and nothing for a column beyond the width. -/
def mask (width col : Nat) : BitVec width :=
  if col < width then BitVec.twoPow width col else 0

/-- Press or release the key at `col`. -/
def set (row : Row width) (col : Nat) (pressed : Bool) : Row width :=
  if pressed then ⟨row.bits ||| mask width col⟩
  else ⟨row.bits &&& ~~~mask width col⟩

/-- Flip the key at `col`. -/
def toggle (row : Row width) (col : Nat) : Row width :=
  ⟨row.bits ^^^ mask width col⟩

/-- No key is pressed. -/
def isEmpty (row : Row width) : Bool := row.bits == 0

/-- More than one key is pressed: something is left once the lowest set bit is cleared. -/
def hasMultiple (row : Row width) : Bool := row.bits &&& (row.bits - 1) != 0

/-! ## Addressing columns

A column address is refused when checks are on and it lies beyond the word; without
checks it wraps around.
-/

/-- The column that the address `col` stands for. -/
def column (checks : Checks) (width col : Nat) : Except Fault Nat :=
  match checks with
  | .on => if col < width then .ok col else .error .columnOverflow
  | .off => .ok (col % width)

/-- `isPressed` at a column address. -/
def isPressedAt (checks : Checks) (row : Row width) (col : Nat) : Except Fault Bool :=
  (column checks width col).map row.isPressed

/-- `set` at a column address. -/
def setAt (checks : Checks) (row : Row width) (col : Nat) (pressed : Bool) :
    Except Fault (Row width) :=
  (column checks width col).map (row.set · pressed)

/-- `toggle` at a column address. -/
def toggleAt (checks : Checks) (row : Row width) (col : Nat) : Except Fault (Row width) :=
  (column checks width col).map row.toggle

/-! ## The view of each operation -/

theorem isPressed_of_width_le (row : Row width) {col : Nat} (h : width ≤ col) :
    row.isPressed col = false :=
  BitVec.getLsbD_of_ge _ _ h

theorem ext_isPressed {a b : Row width} (h : ∀ col < width, a.isPressed col = b.isPressed col) :
    a = b :=
  Row.ext (BitVec.eq_of_getLsbD_eq h)

@[simp] theorem isPressed_empty (col : Nat) : (empty : Row width).isPressed col = false := by
  simp [empty, isPressed]

@[simp] theorem getLsbD_mask (width col other : Nat) :
    (mask width col).getLsbD other = decide (other = col ∧ col < width) := by
  by_cases hw : col < width
  · by_cases hc : other = col
    · simp [mask, hw, hc]
    · simp [mask, hw, hc, Ne.symm hc]
  · simp [mask, hw]

theorem isPressed_set (row : Row width) (col : Nat) (pressed : Bool) (other : Nat) :
    (row.set col pressed).isPressed other =
      if other = col ∧ col < width then pressed else row.isPressed other := by
  by_cases h : other = col ∧ col < width
  · rcases h with ⟨rfl, hw⟩
    cases pressed <;> simp [set, isPressed, -BitVec.getLsbD_eq_getElem, hw]
  · rw [if_neg h]
    by_cases hw : other < width
    · cases pressed <;> simp [set, isPressed, -BitVec.getLsbD_eq_getElem, h, hw]
    · rw [isPressed_of_width_le _ (by omega), isPressed_of_width_le _ (by omega)]

theorem isPressed_toggle (row : Row width) (col other : Nat) :
    (row.toggle col).isPressed other =
      if other = col ∧ col < width then !row.isPressed other else row.isPressed other := by
  by_cases h : other = col ∧ col < width
  · simp [toggle, isPressed, -BitVec.getLsbD_eq_getElem, h]
  · simp only [toggle, isPressed, BitVec.getLsbD_xor, getLsbD_mask, h, if_false, decide_false,
      Bool.xor_false]

theorem isEmpty_iff (row : Row width) :
    row.isEmpty = true ↔ ∀ col, row.isPressed col = false := by
  rw [isEmpty, beq_iff_eq]
  constructor
  · intro h col
    simp [isPressed, h]
  · intro h
    apply BitVec.eq_of_getLsbD_eq
    intro col _
    simpa [isPressed] using h col

end Row
end KeyMatrix
