import KeyMatrix.Key
import Mathlib.Algebra.BigOperators.Intervals

/-! # The course of one key

A switch is a key together with its settled state. Left to itself it only sees, in every
cycle, its own input, the elapsed time, and whether the input can be trusted.
-/
namespace KeyMatrix

/-- What reaches a switch in one cycle. -/
structure Signal where
  raw : Bool
  elapsed : UInt8
  ambiguous : Bool
  deriving DecidableEq, Repr

@[ext] structure Switch where
  key : Key := .waiting
  cooked : Bool := false
  deriving DecidableEq, Repr

namespace Switch

/-- What the key of a switch does in one cycle. -/
def step (config : Config) (switch : Switch) (signal : Signal) : Key × Verdict :=
  switch.key.step config
    { raw := signal.raw
      cooked := switch.cooked
      elapsed := signal.elapsed
      ambiguous := signal.ambiguous }

/-- One cycle. The settled state is flipped exactly when the key accepts. -/
def advance (config : Config) (switch : Switch) (signal : Signal) : Switch where
  key := (switch.step config signal).1
  cooked := switch.cooked ^^ decide ((switch.step config signal).2 = .accepted)

/-- The switch before every cycle. At first it waits and is released. -/
def course (config : Config) (signals : Nat → Signal) : Nat → Switch
  | 0 => {}
  | k + 1 => (course config signals k).advance config (signals k)

theorem course_succ (config : Config) (signals : Nat → Signal) (k : Nat) :
    course config signals (k + 1) = (course config signals k).advance config (signals k) := rfl

theorem advance_ambiguous (config : Config) (switch : Switch) {signal : Signal}
    (h : signal.ambiguous = true) : switch.advance config signal = switch := by
  ext1
  · simp [advance, step, Key.step, h]
  · simp [advance, step, Key.step, h]

section Trusted
variable {config : Config} {switch : Switch} {signal : Signal}

theorem advance_waiting (ht : signal.ambiguous = false) (hk : switch.key = .waiting) :
    switch.advance config signal =
      if signal.raw = switch.cooked then switch
      else ⟨.debouncing (config.threshold signal.raw), switch.cooked⟩ := by
  rcases switch with ⟨key, cooked⟩
  subst hk
  by_cases hr : signal.raw = cooked
  · simp [advance, step, Key.step, Key.advance, ht, hr]
  · simp [advance, step, Key.step, Key.advance, ht, hr]

theorem advance_debouncing {n : UInt8} (ht : signal.ambiguous = false)
    (hk : switch.key = .debouncing n) :
    switch.advance config signal =
      if signal.raw = switch.cooked then ⟨.waiting, switch.cooked⟩
      else if n > signal.elapsed then ⟨.debouncing (n - signal.elapsed), switch.cooked⟩
      else ⟨.quiescing config.quiesce, !switch.cooked⟩ := by
  rcases switch with ⟨key, cooked⟩
  subst hk
  by_cases hr : signal.raw = cooked
  · simp [advance, step, Key.step, Key.advance, ht, hr]
  · by_cases hn : n > signal.elapsed
    · simp [advance, step, Key.step, Key.advance, ht, hr, hn]
    · simp [advance, step, Key.step, Key.advance, ht, hr, hn]

theorem advance_quiescing {n : UInt8} (ht : signal.ambiguous = false)
    (hk : switch.key = .quiescing n) :
    switch.advance config signal =
      if n > signal.elapsed then ⟨.quiescing (n - signal.elapsed), switch.cooked⟩
      else ⟨.waiting, switch.cooked⟩ := by
  rcases switch with ⟨key, cooked⟩
  subst hk
  by_cases hn : n > signal.elapsed
  · simp [advance, step, Key.step, Key.advance, ht, hn]
  · simp [advance, step, Key.step, Key.advance, ht, hn]

/-- A flip takes a countdown that is over while the input still differs. -/
theorem cooked_advance_ne_iff :
    (switch.advance config signal).cooked ≠ switch.cooked ↔
      signal.ambiguous = false ∧ signal.raw ≠ switch.cooked ∧
        ∃ n, switch.key = .debouncing n ∧ n ≤ signal.elapsed := by
  cases ht : signal.ambiguous with
  | true => simp [advance_ambiguous config switch ht]
  | false =>
    cases hk : switch.key with
    | waiting =>
      rw [advance_waiting ht hk]
      split <;> simp
    | debouncing n =>
      rw [advance_debouncing ht hk]
      split
      · simp_all
      · split
        · simp_all
        · simp_all
    | quiescing n =>
      rw [advance_quiescing ht hk]
      split <;> simp

/-- A countdown that goes on has just begun, was held up, or has been lowered. -/
theorem debouncing_advance {n : UInt8} (h : (switch.advance config signal).key = .debouncing n) :
    (signal.ambiguous = true ∧ switch.key = .debouncing n) ∨
      (signal.ambiguous = false ∧ signal.raw ≠ switch.cooked ∧
        (switch.key = .waiting ∨
          ∃ m, switch.key = .debouncing m ∧ signal.elapsed < m ∧ n = m - signal.elapsed)) := by
  cases ht : signal.ambiguous with
  | true =>
    rw [advance_ambiguous config switch ht] at h
    exact .inl ⟨rfl, h⟩
  | false =>
    refine .inr ⟨rfl, ?_⟩
    cases hk : switch.key with
    | waiting =>
      rw [advance_waiting ht hk] at h
      split at h
      · rw [hk] at h
        cases h
      · rename_i hr
        exact ⟨hr, .inl rfl⟩
    | debouncing m =>
      rw [advance_debouncing ht hk] at h
      split at h
      · cases h
      · rename_i hr
        split at h
        · rename_i hm
          cases h
          exact ⟨hr, .inr ⟨m, rfl, hm, rfl⟩⟩
        · cases h
    | quiescing m =>
      rw [advance_quiescing ht hk] at h
      split at h <;> cases h

end Trusted

end Switch

/-! ## Trusted time -/

/-- The time that passes for a switch after cycle `j`, up to and with cycle `k`. Cycles in which
its input is not trusted take no time. -/
def trustedTime (signals : Nat → Signal) (j k : Nat) : Nat :=
  ∑ i ∈ Finset.Ioc j k with (signals i).ambiguous = false, (signals i).elapsed.toNat

@[simp] theorem trustedTime_self (signals : Nat → Signal) (j : Nat) :
    trustedTime signals j j = 0 := by
  simp [trustedTime]

theorem trustedTime_succ_trusted {signals : Nat → Signal} {j k : Nat} (hjk : j ≤ k)
    (h : (signals (k + 1)).ambiguous = false) :
    trustedTime signals j (k + 1) = trustedTime signals j k + (signals (k + 1)).elapsed.toNat := by
  rw [trustedTime, trustedTime, Finset.sum_filter, Finset.sum_filter,
    Finset.sum_Ioc_succ_top hjk, if_pos h]

theorem trustedTime_succ_ambiguous {signals : Nat → Signal} {j k : Nat} (hjk : j ≤ k)
    (h : (signals (k + 1)).ambiguous = true) :
    trustedTime signals j (k + 1) = trustedTime signals j k := by
  rw [trustedTime, trustedTime, Finset.sum_filter, Finset.sum_filter,
    Finset.sum_Ioc_succ_top hjk, h]
  rfl

end KeyMatrix
