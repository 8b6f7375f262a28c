import KeyMatrix.Proofs.Spacing
import Mathlib.Data.Nat.Count

/-! # Cooked bits follow raw bits

A bit follows another one if, whenever it moves, it moves to where the other one is. It then moves
no more often than its leader. Every cooked bit follows its raw bit, so that debouncing never
invents a change of a key.
-/
namespace KeyMatrix

/-- A bit that starts where its leader starts and only ever moves to where its leader is. -/
structure Follows (leader follower : Nat → Bool) : Prop where
  start : follower 0 = leader 0
  arrives (k : Nat) : follower (k + 1) ≠ follower k → follower (k + 1) = leader (k + 1)

/-- How often a bit moves in its first `n` steps. -/
def moves (bits : Nat → Bool) (n : Nat) : Nat := Nat.count (fun k => bits (k + 1) ≠ bits k) n

@[simp] theorem moves_zero (bits : Nat → Bool) : moves bits 0 = 0 := rfl

theorem moves_succ (bits : Nat → Bool) (n : Nat) :
    moves bits (n + 1) = moves bits n + if bits (n + 1) = bits n then 0 else 1 := by
  simp [moves, Nat.count_succ]

/-- Where a follower differs from its leader, the leader is one move ahead. -/
theorem Follows.moves_add_lag_le {leader follower : Nat → Bool} (h : Follows leader follower)
    (n : Nat) :
    moves follower n + (if follower n = leader n then 0 else 1) ≤ moves leader n := by
  induction n with
  | zero => simp [h.start]
  | succ n ih =>
    rw [moves_succ, moves_succ]
    by_cases hmove : follower (n + 1) = follower n
    · by_cases hlead : leader (n + 1) = leader n
      · simpa [hmove, hlead] using ih
      · have hlag : (if follower (n + 1) = leader (n + 1) then 0 else 1) ≤ 1 := by split <;> simp
        rw [if_pos hmove, if_neg hlead]
        omega
    · have hcaught := h.arrives n hmove
      rw [if_neg hmove, if_pos hcaught]
      by_cases hlead : leader (n + 1) = leader n
      · -- The leader has not moved, so the move answers a difference there was before.
        have hlag : follower n ≠ leader n := fun hsame =>
          hmove (hcaught.trans (hlead.trans hsame.symm))
        rw [if_neg hlag] at ih
        rw [if_pos hlead]
        omega
      · rw [if_neg hlead]
        omega

theorem Follows.moves_le {leader follower : Nat → Bool} (h : Follows leader follower) (n : Nat) :
    moves follower n ≤ moves leader n :=
  Nat.le_of_add_right_le (h.moves_add_lag_le n)

namespace Run

variable {σ τ : Type} {width rows room cols : Nat} [Scanner σ width] [TimeSource τ]
variable (run : Run σ (AntiGhost τ room cols) width rows)

/-- The raw bit of a cell before cycle `k`. Before the first cycle all keys are released. -/
def rawBit (r c : Nat) : Nat → Bool
  | 0 => false
  | k + 1 => (run.raw k).isPressed r c

/-- The cooked bit of a cell before cycle `k`. -/
def cookedBit (r c k : Nat) : Bool := (run.cooked k).isPressed r c

theorem cookedBit_follows (hcols : cols ≤ width) (r c : Nat) :
    Follows (run.rawBit r c) (run.cookedBit r c) where
  start := by simp [cookedBit, rawBit, cooked_zero]
  arrives _ hflip := (run.raw_of_flips hcols hflip).symm

/-- A cooked bit never moves more often than its raw bit, and only ever to where its raw bit is in
the same cycle. -/
theorem flips_never_outnumber_raw_changes (hcols : cols ≤ width) (r c n : Nat) :
    moves (run.cookedBit r c) n ≤ moves (run.rawBit r c) n ∧
      ∀ k, run.cookedBit r c (k + 1) ≠ run.cookedBit r c k →
        run.cookedBit r c (k + 1) = (run.raw k).isPressed r c :=
  ⟨(run.cookedBit_follows hcols r c).moves_le n, (run.cookedBit_follows hcols r c).arrives⟩

/-- In `rebound` the contact chatters, and half of its changes are believed. -/
theorem rebound_flips_le :
    2 ≤ 8 ∧ moves (rebound.cookedBit 0 0) 9 ≤ moves (rebound.rawBit 0 0) 9 ∧
      moves (rebound.cookedBit 0 0) 9 = 2 ∧ moves (rebound.rawBit 0 0) 9 = 4 ∧
      rebound.cookedBit 0 0 9 = (rebound.raw 8).isPressed 0 0 := by
  have h := rebound.flips_never_outnumber_raw_changes (by decide) 0 0 9
  exact ⟨by decide, h.1, by decide +kernel, by decide +kernel, h.2 8 (by decide +kernel)⟩

end Run
end KeyMatrix
