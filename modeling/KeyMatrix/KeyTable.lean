import KeyMatrix.Fault
import KeyMatrix.Key

/-! # Tables of keys

One automaton for every cell of a matrix, updated in place. The view `get` is total:
outside the table every key waits.
-/
namespace KeyMatrix

/-- The keys of a matrix, row by row. -/
structure KeyTable (rows cols : Nat) where
  keys : Vector Key (rows * cols)
  deriving DecidableEq

namespace KeyTable

variable {rows cols : Nat}

/-- The table whose keys all wait. -/
def waiting : KeyTable rows cols := ⟨Vector.replicate (rows * cols) .waiting⟩

/-- The key at `(r, c)`. -/
def get (table : KeyTable rows cols) (r c : Nat) : Key :=
  if c < cols then table.keys[r * cols + c]?.getD .waiting else .waiting

/-- Put a key at `(r, c)`, if the table has that cell. -/
def set (table : KeyTable rows cols) (r c : Nat) (key : Key) : KeyTable rows cols :=
  if c < cols then ⟨table.keys.setIfInBounds (r * cols + c) key⟩ else table

/-- The key of a cell of the table; other cells are refused. -/
def keyAt (table : KeyTable rows cols) (r c : Nat) : Except Fault Key :=
  if r < rows ∧ c < cols then .ok (table.get r c) else .error .outOfBounds

/-! ## The view of each operation -/

private theorem index_lt_iff {r c : Nat} (hc : c < cols) :
    r * cols + c < rows * cols ↔ r < rows := by
  constructor
  · intro h
    exact Nat.lt_of_mul_lt_mul_right (Nat.lt_of_le_of_lt (Nat.le_add_right _ _) h)
  · intro h
    calc
      r * cols + c < r * cols + cols := by omega
      _ = (r + 1) * cols := (Nat.succ_mul r cols).symm
      _ ≤ rows * cols := Nat.mul_le_mul_right _ h

private theorem index_inj {r c s d : Nat} (hc : c < cols) (hd : d < cols)
    (h : r * cols + c = s * cols + d) : r = s ∧ c = d := by
  have hdiv := congrArg (· / cols) h
  have hmod := congrArg (· % cols) h
  simp only [Nat.add_comm _ c, Nat.add_comm _ d, Nat.add_mul_mod_self_right,
    Nat.mod_eq_of_lt hc, Nat.mod_eq_of_lt hd] at hmod
  simp only [Nat.add_comm _ c, Nat.add_comm _ d,
    Nat.add_mul_div_right _ _ (Nat.zero_lt_of_lt hc), Nat.div_eq_of_lt hc,
    Nat.div_eq_of_lt hd, Nat.zero_add] at hdiv
  exact ⟨hdiv, hmod⟩

@[simp] theorem get_waiting (r c : Nat) : (waiting : KeyTable rows cols).get r c = .waiting := by
  simp only [waiting, get, Vector.getElem?_replicate]
  split
  · split <;> rfl
  · rfl

/-- A put changes its own cell, if the table has it, and no other. -/
theorem get_set (table : KeyTable rows cols) (r c : Nat) (key : Key) (s d : Nat) :
    (table.set r c key).get s d =
      if s = r ∧ d = c ∧ r < rows ∧ c < cols then key else table.get s d := by
  by_cases hc : c < cols
  · by_cases hd : d < cols
    · simp only [set, get, hc, hd, if_true, Vector.getElem?_setIfInBounds, index_lt_iff hc]
      by_cases he : r * cols + c = s * cols + d
      · rcases index_inj hc hd he with ⟨rfl, rfl⟩
        by_cases hr : r < rows
        · simp [hr]
        · have hn : ¬ r * cols + c < rows * cols := by rw [index_lt_iff hc]; exact hr
          simp [hr, Vector.getElem?_eq_none (Nat.le_of_not_lt hn)]
      · rw [if_neg he, if_neg]
        rintro ⟨rfl, rfl, _⟩
        exact he rfl
    · have hne : ¬ (s = r ∧ d = c ∧ r < rows ∧ c < cols) := by
        rintro ⟨_, rfl, _, _⟩
        exact hd hc
      rw [if_neg hne]
      simp [get, hd]
  · simp [set, hc]

/-- A table is determined by the keys of its cells. -/
theorem ext_get {a b : KeyTable rows cols}
    (h : ∀ r < rows, ∀ c < cols, a.get r c = b.get r c) : a = b := by
  rcases a with ⟨a⟩
  rcases b with ⟨b⟩
  congr
  apply Vector.ext
  intro i hi
  have hcols : 0 < cols := by
    rcases Nat.eq_zero_or_pos cols with rfl | hpos
    · simp at hi
    · exact hpos
  have hc := Nat.mod_lt i hcols
  have hi' : i / cols * cols + i % cols = i := by
    rw [Nat.mul_comm]
    exact Nat.div_add_mod i cols
  have hr : i / cols < rows := Nat.div_lt_of_lt_mul (by rw [Nat.mul_comm]; exact hi)
  have hcell := h (i / cols) hr (i % cols) hc
  simpa [get, hc, hi', hi] using hcell

end KeyTable
end KeyMatrix
