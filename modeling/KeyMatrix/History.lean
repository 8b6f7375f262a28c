/-! # Bounded histories

A history keeps the newest entries, as many as it has room for; the oldest entry makes way
for a new one. A history without room stays empty.
-/
namespace KeyMatrix

/-- The newest `capacity` entries of a sequence, oldest first. -/
structure History (α : Type) (capacity : Nat) where
  toList : List α := []
  length_le : toList.length ≤ capacity := by simp

namespace History

variable {α : Type} {capacity : Nat}

def empty : History α capacity := {}

instance : Inhabited (History α capacity) := ⟨empty⟩

/-- What is kept when a new entry is about to come: all entries but, if there is no room,
the oldest. -/
def kept (history : History α capacity) : List α :=
  if history.toList.length < capacity then history.toList else history.toList.drop 1

/-- Add an entry, if there is or can be made room for it. -/
def push (history : History α capacity) (entry : α) : History α capacity where
  toList :=
    if history.kept.length < capacity then history.kept ++ [entry] else history.kept
  length_le := by
    have hl := history.length_le
    have hk : history.kept.length ≤ capacity := by
      rw [kept]
      split
      · exact hl
      · rw [List.length_drop]
        omega
    split
    · rw [List.length_append, List.length_singleton]
      omega
    · exact hk

/-- Add several entries in order. -/
def pushAll (history : History α capacity) (entries : List α) : History α capacity :=
  entries.foldl push history

/-- The entries after a push are the last ones, as many as fit, of the old ones and the new. -/
theorem toList_push (history : History α capacity) (entry : α) :
    (history.push entry).toList =
      (history.toList ++ [entry]).drop (history.toList.length + 1 - capacity) := by
  have hl := history.length_le
  change (if history.kept.length < capacity then history.kept ++ [entry] else history.kept) = _
  by_cases hroom : history.toList.length < capacity
  · have hk : history.kept = history.toList := if_pos hroom
    have hz : history.toList.length + 1 - capacity = 0 := by omega
    simp [hk, hroom, hz]
  · have hk : history.kept = history.toList.drop 1 := if_neg hroom
    by_cases hcap : 0 < capacity
    · have hlen : (history.toList.drop 1).length < capacity := by
        rw [List.length_drop]
        omega
      have hone : history.toList.length + 1 - capacity = 1 := by omega
      rw [hk, if_pos hlen, hone, List.drop_append_of_le_length (by omega)]
    · have hnil : history.toList = [] := List.eq_nil_of_length_eq_zero (by omega)
      have hz : capacity = 0 := by omega
      simp [hk, hnil, hz]

end History
end KeyMatrix
