import KeyMatrix.Proofs.KeyRun

/-! # When a change is accepted

A change is detected while the key waits, must then last, and is accepted in the first trusted
cycle in which the trusted time since its detection reaches the threshold. The threshold is the
one of the direction in which the change was detected.
-/
namespace KeyMatrix

section Conditions
variable (signals : Nat → Signal) (states : Nat → Switch)

/-- In cycle `j` the key waits and its trusted input differs. -/
def Detected (j : Nat) : Prop :=
  (signals j).ambiguous = false ∧ (states j).key = .waiting ∧ (signals j).raw ≠ (states j).cooked

/-- In every trusted cycle after `j`, up to and with `k`, the input differs. -/
def Lasting (j k : Nat) : Prop :=
  ∀ i ≤ k, j < i → (signals i).ambiguous = false → (signals i).raw ≠ (states i).cooked

/-- In no trusted cycle between `j` and `k` the time since `j` reaches the threshold. -/
def Early (threshold j k : Nat) : Prop :=
  ∀ i < k, j < i → (signals i).ambiguous = false → trustedTime signals j i < threshold

/-- A change that was detected in cycle `j` is due in cycle `k`. -/
def Due (threshold j k : Nat) : Prop :=
  Detected signals states j ∧ Lasting signals states j k ∧ Early signals threshold j k ∧
    threshold ≤ trustedTime signals j k

instance (j : Nat) : Decidable (Detected signals states j) :=
  inferInstanceAs (Decidable (_ ∧ _ ∧ _))

instance (j k : Nat) : Decidable (Lasting signals states j k) :=
  inferInstanceAs (Decidable (∀ i ≤ k, _))

instance (threshold j k : Nat) : Decidable (Early signals threshold j k) :=
  inferInstanceAs (Decidable (∀ i < k, _))

instance (threshold j k : Nat) : Decidable (Due signals states threshold j k) :=
  inferInstanceAs (Decidable (_ ∧ _ ∧ _ ∧ _))

end Conditions

namespace Switch

variable {config : Config} {signals : Nat → Signal}

/-- A countdown that began in cycle `j` goes on after cycle `k`. -/
structure CountsDown (config : Config) (signals : Nat → Signal) (j k : Nat) : Prop where
  le : j ≤ k
  detected : Detected signals (course config signals) j
  lasting : Lasting signals (course config signals) j k
  early : Early signals (config.threshold (signals j).raw).toNat j (k + 1)

theorem CountsDown.of_le {j k m : Nat} (h : CountsDown config signals j k) (hjm : j ≤ m)
    (hmk : m ≤ k) : CountsDown config signals j m where
  le := hjm
  detected := h.detected
  lasting i hi := h.lasting i (by omega)
  early i hi := h.early i (by omega)

theorem CountsDown.of_detected {j : Nat} (h : Detected signals (course config signals) j) :
    CountsDown config signals j j where
  le := Nat.le_refl j
  detected := h
  lasting i hi := by omega
  early i hi := by omega

theorem CountsDown.succ {j k : Nat} (h : CountsDown config signals j k)
    (hnext : (signals (k + 1)).ambiguous = false →
      (signals (k + 1)).raw ≠ (course config signals (k + 1)).cooked ∧
        trustedTime signals j (k + 1) < (config.threshold (signals j).raw).toNat) :
    CountsDown config signals j (k + 1) where
  le := Nat.le_succ_of_le h.le
  detected := h.detected
  lasting i hi hji ht := by
    rcases Nat.of_le_succ hi with hi | rfl
    · exact h.lasting i hi hji ht
    · exact (hnext ht).1
  early i hi hji ht := by
    rcases Nat.of_le_succ (Nat.le_of_lt_succ hi) with hi | rfl
    · exact h.early i (Nat.lt_succ_of_le hi) hji ht
    · exact (hnext ht).2

/-- While a countdown goes on, the time spent and the time left make up the threshold. -/
theorem CountsDown.remaining {j k : Nat} (h : CountsDown config signals j k) :
    ∃ n, course config signals (k + 1) = ⟨.debouncing n, (course config signals j).cooked⟩ ∧
      n.toNat + trustedTime signals j k = (config.threshold (signals j).raw).toNat := by
  have hjk := h.le
  induction k, hjk using Nat.le_induction with
  | base =>
    obtain ⟨ht, hk, hd⟩ := h.detected
    refine ⟨config.threshold (signals j).raw, ?_, ?_⟩
    · rw [course_succ, advance_waiting ht hk, if_neg hd]
    · rw [trustedTime_self, Nat.add_zero]
  | succ k hjk ih =>
    obtain ⟨n, hstate, hn⟩ := ih (h.of_le hjk (Nat.le_succ k))
    cases ht : (signals (k + 1)).ambiguous with
    | true =>
      refine ⟨n, ?_, ?_⟩
      · rw [course_succ, advance_ambiguous _ _ ht, hstate]
      · rw [trustedTime_succ_ambiguous hjk ht, hn]
    | false =>
      have hdiff := h.lasting (k + 1) (Nat.le_refl _) (by omega) ht
      have hearly := h.early (k + 1) (Nat.lt_succ_self _) (by omega) ht
      rw [trustedTime_succ_trusted hjk ht] at hearly
      have hlt : n > (signals (k + 1)).elapsed := by
        rw [gt_iff_lt, UInt8.lt_iff_toNat_lt]
        omega
      refine ⟨n - (signals (k + 1)).elapsed, ?_, ?_⟩
      · rw [course_succ, advance_debouncing ht (congrArg Switch.key hstate), if_neg hdiff,
          if_pos hlt, hstate]
      · rw [trustedTime_succ_trusted hjk ht, UInt8.toNat_sub_of_le _ _ (UInt8.le_of_lt hlt)]
        omega

/-- A key that counts down has detected a change that lasts. -/
theorem exists_countsDown {k : Nat} {n : UInt8}
    (h : (course config signals (k + 1)).key = .debouncing n) :
    ∃ j, CountsDown config signals j k := by
  induction k generalizing n with
  | zero =>
    rcases debouncing_advance h with ⟨_, hk⟩ | ⟨ht, hd, hk | ⟨_, hk, _⟩⟩
    · cases hk
    · exact ⟨0, .of_detected ⟨ht, hk, hd⟩⟩
    · cases hk
  | succ k ih =>
    rcases debouncing_advance h with ⟨ht, hk⟩ | ⟨ht, hd, hk | ⟨m, hk, hm, _⟩⟩
    · obtain ⟨j, hj⟩ := ih hk
      refine ⟨j, hj.succ fun hf => ?_⟩
      rw [ht] at hf
      cases hf
    · exact ⟨k + 1, .of_detected ⟨ht, hk, hd⟩⟩
    · obtain ⟨j, hj⟩ := ih hk
      refine ⟨j, hj.succ fun _ => ⟨hd, ?_⟩⟩
      obtain ⟨n', hstate, hn'⟩ := hj.remaining
      rw [hstate] at hk
      cases hk
      rw [trustedTime_succ_trusted hj.le ht]
      rw [UInt8.lt_iff_toNat_lt] at hm
      omega

/-- While a countdown goes on, an input that differs is still that of its first cycle. -/
theorem CountsDown.raw_eq {j k : Nat} (h : CountsDown config signals j k)
    (hd : (signals (k + 1)).raw ≠ (course config signals (k + 1)).cooked) :
    (signals j).raw = (signals (k + 1)).raw := by
  obtain ⟨n, hstate, _⟩ := h.remaining
  rw [hstate] at hd
  have hj : (signals j).raw = !(course config signals j).cooked :=
    Bool.eq_not_iff.2 h.detected.2.2
  have hk : (signals (k + 1)).raw = !(course config signals j).cooked := Bool.eq_not_iff.2 hd
  rw [hj, hk]

/-- A countdown that goes on ends with a flip when the time since its first cycle reaches the
threshold. -/
theorem CountsDown.flips_iff {j k : Nat} (h : CountsDown config signals j k) :
    (course config signals (k + 2)).cooked ≠ (course config signals (k + 1)).cooked ↔
      (signals (k + 1)).ambiguous = false ∧
        (signals (k + 1)).raw ≠ (course config signals (k + 1)).cooked ∧
          (config.threshold (signals j).raw).toNat ≤ trustedTime signals j (k + 1) := by
  obtain ⟨n, hstate, hn⟩ := h.remaining
  have hkey : (course config signals (k + 1)).key = .debouncing n := congrArg Switch.key hstate
  rw [course_succ config signals (k + 1), cooked_advance_ne_iff, hkey]
  constructor
  · rintro ⟨ht, hd, m, hm, hle⟩
    cases hm
    refine ⟨ht, hd, ?_⟩
    rw [UInt8.le_iff_toNat_le] at hle
    rw [trustedTime_succ_trusted h.le ht]
    omega
  · rintro ⟨ht, hd, hle⟩
    refine ⟨ht, hd, n, rfl, ?_⟩
    rw [trustedTime_succ_trusted h.le ht] at hle
    rw [UInt8.le_iff_toNat_le]
    omega

/-- Only a key that counts down flips its settled state. -/
theorem exists_countsDown_of_flips {k : Nat}
    (h : (course config signals (k + 2)).cooked ≠ (course config signals (k + 1)).cooked) :
    ∃ j, CountsDown config signals j k := by
  rw [course_succ config signals (k + 1), cooked_advance_ne_iff] at h
  obtain ⟨_, _, n, hkey, _⟩ := h
  exact exists_countsDown hkey

theorem course_one_cooked (config : Config) (signals : Nat → Signal) :
    (course config signals 1).cooked = (course config signals 0).cooked := by
  apply Decidable.byContradiction
  intro h
  obtain ⟨_, _, n, hkey, _⟩ := cooked_advance_ne_iff.1 h
  cases hkey

/-- The settled state is flipped exactly when a change that was detected before is due. -/
theorem course_flips_iff (config : Config) (signals : Nat → Signal) (k : Nat) :
    (course config signals (k + 1)).cooked ≠ (course config signals k).cooked ↔
      (signals k).ambiguous = false ∧ ∃ j < k, (signals j).raw = (signals k).raw ∧
        Due signals (course config signals) (config.threshold (signals k).raw).toNat j k := by
  cases k with
  | zero =>
    constructor
    · exact fun h => absurd (course_one_cooked config signals) h
    · rintro ⟨_, j, hj, _⟩
      cases hj
  | succ k =>
    constructor
    · intro hflip
      obtain ⟨j, hj⟩ := exists_countsDown_of_flips hflip
      obtain ⟨ht, hd, henough⟩ := hj.flips_iff.1 hflip
      have hraw := hj.raw_eq hd
      refine ⟨ht, j, Nat.lt_succ_of_le hj.le, hraw, hj.detected, ?_, ?_, ?_⟩
      · intro i hi hji hti
        rcases Nat.of_le_succ hi with hi | rfl
        · exact hj.lasting i hi hji hti
        · exact hd
      · rw [← hraw]
        exact hj.early
      · rw [← hraw]
        exact henough
    · rintro ⟨ht, j, hjk, hraw, hdet, hlast, hearly, henough⟩
      rw [← hraw] at hearly henough
      have hj : CountsDown config signals j k :=
        ⟨Nat.le_of_lt_succ hjk, hdet, fun i hi => hlast i (Nat.le_succ_of_le hi), hearly⟩
      exact hj.flips_iff.2 ⟨ht, hlast (k + 1) (Nat.le_refl _) hjk ht, henough⟩

/-- Without a threshold the first trusted cycle after the detection decides. -/
theorem course_flips_iff_of_threshold_zero {j k : Nat} (hjk : j < k)
    (hdet : Detected signals (course config signals) j)
    (hzero : config.threshold (signals j).raw = 0) (ht : (signals k).ambiguous = false)
    (hfirst : ∀ i < k, j < i → (signals i).ambiguous = true) :
    (course config signals (k + 1)).cooked ≠ (course config signals k).cooked ↔
      (signals k).raw ≠ (course config signals k).cooked := by
  cases k with
  | zero => cases hjk
  | succ k =>
    -- No cycle in between is trusted, so that nothing has ended the countdown.
    have hj : CountsDown config signals j k := by
      refine ⟨Nat.le_of_lt_succ hjk, hdet, fun i hi hji hti => ?_, fun i hi hji hti => ?_⟩
      · rw [hfirst i (Nat.lt_succ_of_le hi) hji] at hti
        cases hti
      · rw [hfirst i hi hji] at hti
        cases hti
    rw [hj.flips_iff, hzero]
    exact ⟨fun h => h.2.1, fun hd => ⟨ht, hd, Nat.zero_le _⟩⟩

end Switch

namespace Run

variable {σ τ : Type} {width rows room cols : Nat} [Scanner σ width] [TimeSource τ]
variable (run : Run σ (AntiGhost τ room cols) width rows)

/-- A cooked bit is flipped exactly when a change in the direction of the raw bit, detected in an
earlier cycle, is due; without a threshold the first trusted cycle after the detection decides. -/
theorem flips_iff_due (hcols : cols ≤ width) {r c : Nat} (hr : r < run.numRows) (hc : c < cols)
    (k : Nat) :
    ((run.cooked (k + 1)).isPressed r c ≠ (run.cooked k).isPressed r c ↔
      run.isAmbiguous k r c = false ∧
      ∃ j < k, (run.raw j).isPressed r c = (run.raw k).isPressed r c ∧
        Due (run.signal r c) (run.switch r c)
          (run.debouncer.config.threshold ((run.raw k).isPressed r c)).toNat j k) ∧
    ∀ j < k, Detected (run.signal r c) (run.switch r c) j →
      run.debouncer.config.threshold ((run.raw j).isPressed r c) = 0 →
      run.isAmbiguous k r c = false → (∀ i < k, j < i → run.isAmbiguous i r c = true) →
      ((run.cooked (k + 1)).isPressed r c ≠ (run.cooked k).isPressed r c ↔
        (run.raw k).isPressed r c ≠ (run.cooked k).isPressed r c) := by
  have hcourse : run.switch r c = Switch.course run.debouncer.config (run.signal r c) :=
    funext (run.switch_eq_course hcols hr hc)
  constructor
  · have h := Switch.course_flips_iff run.debouncer.config (run.signal r c) k
    rw [← hcourse] at h
    exact h
  · intro j hjk hdet hzero ht hfirst
    rw [hcourse] at hdet
    have h := Switch.course_flips_iff_of_threshold_zero hjk hdet hzero ht hfirst
    rw [← hcourse] at h
    exact h

/-- In `detour` the key of the first cell is held up between the detection of its change in
cycle 0 and the cycle in which the change is due. -/
theorem detour_due :
    2 ≤ 8 ∧ 0 < detour.numRows ∧ 0 < 2 ∧
      (detour.cooked 6).isPressed 0 0 ≠ (detour.cooked 5).isPressed 0 0 ∧
      Detected (detour.signal 0 0) (detour.switch 0 0) 0 ∧
      ∃ j < 5, (detour.raw j).isPressed 0 0 = (detour.raw 5).isPressed 0 0 ∧
        Due (detour.signal 0 0) (detour.switch 0 0)
          (detour.debouncer.config.threshold ((detour.raw 5).isPressed 0 0)).toNat j 5 := by
  have hflip : (detour.cooked 6).isPressed 0 0 ≠ (detour.cooked 5).isPressed 0 0 := by
    decide +kernel
  refine ⟨by decide, by decide, by decide, hflip, by decide +kernel, ?_⟩
  exact ((detour.flips_iff_due (by decide) (by decide) (by decide) 5).1.1 hflip).2

/-- Presses are accepted at once and releases slowly. -/
def slowRelease : Run (FrameScanner 8) (AntiGhost MillisTimer 1 1) 8 1 :=
  Run.ofScanner .on (fun k => ⟨[0, 1000, 1000, 1000].getD k 100000⟩)
    { numRows := 1
      frames := [⟨.ofList [⟨1⟩], none⟩, ⟨.ofList [⟨1⟩], none⟩, ⟨.ofList [⟨0⟩], none⟩] }
    (.ofTimer { press := 1, release := 100, quiesce := 0 } {}) rfl

/-- The direction matters: here a press is detected in cycle 0 and accepted in cycle 1, the input
differs in every cycle, and in cycle 4 the time since cycle 0 reaches the threshold of a release.
But the release has only been detected in cycle 3. -/
theorem slowRelease_not_due :
    ¬ ((slowRelease.cooked 5).isPressed 0 0 ≠ (slowRelease.cooked 4).isPressed 0 0 ↔
      slowRelease.isAmbiguous 4 0 0 = false ∧
      ∃ j < 4, Due (slowRelease.signal 0 0) (slowRelease.switch 0 0)
        (slowRelease.debouncer.config.threshold ((slowRelease.raw 4).isPressed 0 0)).toNat j 4) := by
  decide +kernel

end Run
end KeyMatrix
