import KeyMatrix.Config

/-! # The automaton of one key

A key waits until its input differs from its settled state, then counts down the time that
the new state must last, and after an accepted change counts down its cooldown. Remaining
times are bytes; they are only ever lowered by less than they hold.
-/
namespace KeyMatrix

/-- What one key is doing. -/
inductive Key where
  /-- The settled state matches the input. -/
  | waiting
  /-- The input has left the settled state; so much time is left before that is believed. -/
  | debouncing (remaining : UInt8)
  /-- A change has just been accepted; so much time is left before the key listens again. -/
  | quiescing (remaining : UInt8)
  deriving DecidableEq, Repr, Inhabited

/-- What a key has to say at the end of a cycle. -/
inductive Verdict where
  /-- The settled state is to be flipped. -/
  | accepted
  /-- A countdown goes on. -/
  | pending
  /-- There is nothing to do. -/
  | ignored
  deriving DecidableEq, Repr

/-- What a key gets to see in one cycle. -/
structure Sample where
  /-- The input of the key. -/
  raw : Bool
  /-- The settled state of the key. -/
  cooked : Bool
  /-- Time units since the cycle before. -/
  elapsed : UInt8
  /-- The input may be a phantom and must not be trusted. -/
  ambiguous : Bool
  deriving DecidableEq, Repr

namespace Key

/-- Advance a key whose input can be trusted. -/
def advance (config : Config) (raw cooked : Bool) (elapsed : UInt8) : Key → Key × Verdict
  | .waiting =>
    if raw = cooked then (.waiting, .ignored)
    else (.debouncing (config.threshold raw), .pending)
  | .debouncing remaining =>
    if raw = cooked then (.waiting, .ignored)
    else if remaining > elapsed then (.debouncing (remaining - elapsed), .pending)
    else (.quiescing config.quiesce, .accepted)
  | .quiescing remaining =>
    if remaining > elapsed then (.quiescing (remaining - elapsed), .pending)
    else (.waiting, .ignored)

/-- Advance a key by one cycle. A key whose input cannot be trusted stays as it is. -/
def step (config : Config) (sample : Sample) (key : Key) : Key × Verdict :=
  if sample.ambiguous then (key, .ignored)
  else key.advance config sample.raw sample.cooked sample.elapsed

theorem step_ambiguous (config : Config) {sample : Sample} (h : sample.ambiguous = true)
    (key : Key) : key.step config sample = (key, .ignored) := by
  simp [step, h]

/-- Only a key that has been counting down, and whose input still differs, accepts. -/
theorem step_accepted {config : Config} {sample : Sample} {key : Key}
    (h : (key.step config sample).2 = .accepted) :
    sample.ambiguous = false ∧ sample.raw = !sample.cooked ∧
      (key.step config sample).1 = .quiescing config.quiesce ∧
      ∃ remaining, key = .debouncing remaining ∧ remaining ≤ sample.elapsed := by
  rcases sample with ⟨raw, cooked, elapsed, ambiguous⟩
  cases ambiguous
  · cases key with
    | waiting => cases raw <;> cases cooked <;> simp [step, advance] at h
    | debouncing remaining =>
      cases raw <;> cases cooked <;>
        by_cases hr : elapsed < remaining <;> simp_all [step, advance, UInt8.not_lt.2]
    | quiescing remaining =>
      by_cases hr : remaining > elapsed <;> simp [step, advance, hr] at h
  · simp [step] at h

end Key
end KeyMatrix
