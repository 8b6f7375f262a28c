import KeyMatrix.Proofs.Invariant
import KeyMatrix.Proofs.Spacing

/-! # Settling

Once the raw grid stays the same, and some time passes in every cycle, each trusted key comes to
rest at its input. The work that is left to it is counted in cycles, goes down by one in every
cycle, and is bounded in every state that a run can reach.
-/
namespace KeyMatrix

namespace Config

/-- The cycles that a countdown takes at most, if time passes in each of them. -/
def countdownCycles (config : Config) : Nat :=
  max (max config.press.toNat config.release.toNat) 1

/-- The cycles that a cooldown takes at most, if time passes in each of them. -/
def cooldownCycles (config : Config) : Nat := max config.quiesce.toNat 1

/-- Two cooldowns, a detection and a countdown. -/
def settlingCycles (config : Config) : Nat :=
  2 * config.cooldownCycles + config.countdownCycles + 1

theorem toNat_threshold_le (config : Config) (pressed : Bool) :
    max (config.threshold pressed).toNat 1 ≤ config.countdownCycles := by
  cases pressed with
  | true =>
    change max config.press.toNat 1 ≤ _
    rw [countdownCycles]
    omega
  | false =>
    change max config.release.toNat 1 ≤ _
    rw [countdownCycles]
    omega

end Config

namespace Switch

variable {config : Config}

/-- The trusted cycles left until a key has come to rest, if its input stays `raw`. -/
def workLeft (config : Config) (raw : Bool) : Switch → Nat
  | ⟨.waiting, cooked⟩ =>
    if raw = cooked then 0 else config.cooldownCycles + config.countdownCycles + 1
  | ⟨.debouncing n, cooked⟩ =>
    if raw = cooked then 1 else config.cooldownCycles + max n.toNat 1
  | ⟨.quiescing n, cooked⟩ =>
    max n.toNat 1 +
      if raw = cooked then 0 else config.cooldownCycles + config.countdownCycles + 1

theorem eq_of_workLeft_eq_zero {raw : Bool} {switch : Switch}
    (h : switch.workLeft config raw = 0) : switch = ⟨.waiting, raw⟩ := by
  rcases switch with ⟨key, cooked⟩
  cases key with
  | waiting =>
    rw [workLeft] at h
    split at h
    · rename_i hraw
      rw [hraw]
    · cases h
  | debouncing n =>
    rw [workLeft] at h
    split at h
    · cases h
    · omega
  | quiescing n =>
    rw [workLeft] at h
    omega

theorem workLeft_settled (config : Config) (raw : Bool) :
    workLeft config raw ⟨.waiting, raw⟩ = 0 :=
  if_pos rfl

/-- In a trusted cycle in which time passes the work goes down. -/
theorem workLeft_advance_le (config : Config) (switch : Switch) {signal : Signal}
    (ht : signal.ambiguous = false) (he : 1 ≤ signal.elapsed) :
    (switch.advance config signal).workLeft config signal.raw ≤
      switch.workLeft config signal.raw - 1 := by
  rw [UInt8.le_iff_toNat_le, UInt8.toNat_one] at he
  rcases switch with ⟨key, cooked⟩
  cases key with
  | waiting =>
    rw [advance_waiting ht rfl]
    by_cases hraw : signal.raw = cooked
    · rw [if_pos hraw, ← hraw, workLeft_settled]
    · have hcount := config.toNat_threshold_le signal.raw
      rw [if_neg hraw, workLeft, workLeft, if_neg hraw, if_neg hraw]
      omega
  | debouncing n =>
    rw [advance_debouncing ht rfl]
    by_cases hraw : signal.raw = cooked
    · rw [if_pos hraw, ← hraw, workLeft_settled]
      exact Nat.zero_le _
    · rw [if_neg hraw]
      by_cases hn : n > signal.elapsed
      · rw [if_pos hn, workLeft, workLeft, if_neg hraw, if_neg hraw,
          UInt8.toNat_sub_of_le _ _ (UInt8.le_of_lt hn)]
        rw [gt_iff_lt, UInt8.lt_iff_toNat_lt] at hn
        omega
      · rw [if_neg hn, workLeft, workLeft, if_pos (Bool.eq_not_iff.2 hraw), if_neg hraw,
          Config.cooldownCycles]
        omega
  | quiescing n =>
    rw [advance_quiescing ht rfl]
    by_cases hn : n > signal.elapsed
    · rw [if_pos hn, workLeft, workLeft, UInt8.toNat_sub_of_le _ _ (UInt8.le_of_lt hn)]
      rw [gt_iff_lt, UInt8.lt_iff_toNat_lt] at hn
      dsimp only
      omega
    · rw [if_neg hn, workLeft, workLeft]
      dsimp only
      omega

/-- The work left in a reachable state. -/
theorem Bounded.workLeft_le {switch : Switch} (h : switch.Bounded config) (raw : Bool) :
    switch.workLeft config raw ≤ config.settlingCycles := by
  rcases switch with ⟨key, cooked⟩
  have hcool : max config.quiesce.toNat 1 = config.cooldownCycles := rfl
  cases key with
  | waiting =>
    rw [workLeft, Config.settlingCycles]
    split <;> omega
  | debouncing n =>
    have hn : n ≤ config.threshold !cooked := h.1
    have hcount := config.toNat_threshold_le !cooked
    rw [UInt8.le_iff_toNat_le] at hn
    rw [workLeft, Config.settlingCycles]
    split <;> omega
  | quiescing n =>
    have hn : n ≤ config.quiesce := h.1
    rw [UInt8.le_iff_toNat_le] at hn
    rw [workLeft, Config.settlingCycles]
    split <;> omega

end Switch

namespace Run

variable {σ τ : Type} {width rows room cols : Nat} [Scanner σ width] [TimeSource τ]

/-- From cycle `s` until before cycle `n` the raw grid stays the same, and time passes. The
scanner hints at the grid in cycle `s`. -/
structure Calm (run : Run σ (AntiGhost τ room cols) width rows) (s n : Nat) : Prop where
  raw_eq : ∀ k < n, s ≤ k → run.raw k = run.raw s
  hint : run.hint s = true
  one_le_elapsed : ∀ k < n, s ≤ k → 1 ≤ run.elapsed k

/-- A cycle in which no cell changes leaves the matrix as it was, and says so. -/
theorem unchanged_of_switch_succ_eq (run : Run σ (AntiGhost τ room cols) width rows) {k : Nat}
    (hsame : ∀ r c, run.switch r c (k + 1) = run.switch r c k) :
    (run.matrix (k + 1)).cooked = (run.matrix k).cooked ∧
      (run.matrix (k + 1)).debouncer.keys = (run.matrix k).debouncer.keys ∧
      run.changed k = false := by
  have hcooked : run.cooked (k + 1) = run.cooked k := by
    apply Grid.ext_isPressed
    · rw [size_cooked, size_cooked]
    · intro r _ c _
      exact congrArg Switch.cooked (hsame r c)
  refine ⟨?_, ?_, ?_⟩
  · apply Grid.ext_isPressed
    · rw [(run.matrix (k + 1)).size_cooked, (run.matrix k).size_cooked]
    · intro r _ c _
      rw [isPressed_matrix_cooked, isPressed_matrix_cooked, hcooked]
  · apply KeyTable.ext_get
    intro r _ c _
    exact congrArg Switch.key (hsame r c)
  · rw [changed_eq, hcooked, bne_self_eq_false]

variable {run : Run σ (AntiGhost τ room cols) width rows} {s n r c : Nat}

namespace Calm

theorem noted_eq (calm : run.Calm s n) {k : Nat} (hk : k < n) (hsk : s ≤ k) :
    run.noted (k + 1) = run.raw s := by
  induction k, hsk using Nat.le_induction with
  | base => rw [noted, if_pos calm.hint]
  | succ k hsk ih =>
    rw [noted]
    split
    · exact calm.raw_eq (k + 1) hk (Nat.le_succ_of_le hsk)
    · exact ih (Nat.lt_of_succ_lt hk)

/-- As long as the grid stays, the same cells are ambiguous. -/
theorem isAmbiguous_eq (calm : run.Calm s n) (hr : r < run.numRows) (hc : c < cols) {k : Nat}
    (hk : k < n) (hsk : s ≤ k) : run.isAmbiguous k r c = (run.raw s).isSuspect r c := by
  rw [run.isAmbiguous_eq hr hc, calm.noted_eq hk hsk]

/-! ## Trusted cells -/

/-- Every cycle takes its share of the work. -/
theorem workLeft_le (calm : run.Calm s n) (hcols : cols ≤ width) (hr : r < run.numRows)
    (hc : c < cols) (htrusted : (run.raw s).isSuspect r c = false) {k : Nat} (hk : k ≤ n)
    (hsk : s ≤ k) :
    (run.switch r c k).workLeft run.debouncer.config ((run.raw s).isPressed r c) ≤
      run.debouncer.config.settlingCycles - (k - s) := by
  induction k, hsk using Nat.le_induction with
  | base =>
    rw [Nat.sub_self]
    exact (run.switch_bounded hcols r c s).workLeft_le _
  | succ k hsk ih =>
    have hraw : (run.signal r c k).raw = (run.raw s).isPressed r c :=
      congrArg (fun grid => grid.isPressed r c) (calm.raw_eq k hk hsk)
    have ht : (run.signal r c k).ambiguous = false :=
      (calm.isAmbiguous_eq hr hc hk hsk).trans htrusted
    have hstep := Switch.workLeft_advance_le run.debouncer.config (run.switch r c k) ht
      (calm.one_le_elapsed k hk hsk)
    have hbefore := ih (Nat.le_of_succ_le hk)
    rw [← run.switch_succ hcols hr hc, hraw] at hstep
    omega

theorem switch_eq (calm : run.Calm s n) (hcols : cols ≤ width) (hr : r < run.numRows)
    (hc : c < cols) (htrusted : (run.raw s).isSuspect r c = false) {k : Nat} (hk : k ≤ n)
    (hsk : s + run.debouncer.config.settlingCycles ≤ k) :
    run.switch r c k = ⟨.waiting, (run.raw s).isPressed r c⟩ := by
  have hwork := calm.workLeft_le hcols hr hc htrusted hk (Nat.le_of_add_right_le hsk)
  rw [Nat.sub_eq_zero_of_le (Nat.le_sub_of_add_le' hsk)] at hwork
  exact Switch.eq_of_workLeft_eq_zero (Nat.le_zero.1 hwork)

/-- After a flip the cooked bit is where the raw bit stays. -/
theorem cooked_of_flips (calm : run.Calm s n) (hcols : cols ≤ width) {i k : Nat} (hsi : s ≤ i)
    (h : Flips (run.switch r c) i) (hik : i < k) (hk : k ≤ n) :
    (run.switch r c k).cooked = (run.raw s).isPressed r c := by
  have hflip {m : Nat} (hm : Flips (run.switch r c) m) (hmn : m < n) (hsm : s ≤ m) :
      (run.switch r c (m + 1)).cooked = (run.raw s).isPressed r c := by
    rw [← run.raw_of_flips hcols hm, calm.raw_eq m hmn hsm]
  induction k, hik using Nat.le_induction with
  | base => exact hflip h hk hsi
  | succ k hik ih =>
    by_cases hm : Flips (run.switch r c) k
    · exact hflip hm hk (hsi.trans (Nat.le_of_lt hik))
    · exact (Decidable.not_not.1 hm).trans (ih (Nat.le_of_succ_le hk))

theorem card_flips_le_one (calm : run.Calm s n) (hcols : cols ≤ width) :
    {k ∈ Finset.Ico s n | Flips (run.switch r c) k}.card ≤ 1 := by
  have honce {i j : Nat} (hsi : s ≤ i) (hi : Flips (run.switch r c) i) (hij : i < j)
      (hjn : j < n) : ¬ Flips (run.switch r c) j := by
    have hbefore := calm.cooked_of_flips hcols hsi hi hij (Nat.le_of_lt hjn)
    have hafter := calm.cooked_of_flips hcols hsi hi (Nat.lt_succ_of_lt hij) hjn
    exact not_not.2 (hafter.trans hbefore.symm)
  rw [Finset.card_le_one]
  intro i hi j hj
  rw [Finset.mem_filter, Finset.mem_Ico] at hi hj
  rcases Nat.lt_trichotomy i j with hij | hij | hij
  · exact absurd hj.2 (honce hi.1.1 hi.2 hij hj.1.2)
  · exact hij
  · exact absurd hi.2 (honce hj.1.1 hj.2 hij hi.1.2)

/-! ## Ambiguous cells, and all cells -/

theorem switch_eq_of_isSuspect (calm : run.Calm s n) (hcols : cols ≤ width)
    (hr : r < run.numRows) (hc : c < cols) (hsuspect : (run.raw s).isSuspect r c = true) {k : Nat}
    (hk : k ≤ n) (hsk : s ≤ k) : run.switch r c k = run.switch r c s := by
  induction k, hsk using Nat.le_induction with
  | base => rfl
  | succ k hsk ih =>
    have ha : (run.signal r c k).ambiguous = true :=
      (calm.isAmbiguous_eq hr hc hk hsk).trans hsuspect
    rw [run.switch_succ hcols hr hc, Switch.advance_ambiguous _ _ ha, ih (Nat.le_of_succ_le hk)]

theorem switch_succ_eq (calm : run.Calm s n) (hcols : cols ≤ width) {k : Nat} (hk : k < n)
    (hsk : s + run.debouncer.config.settlingCycles ≤ k) (r c : Nat) :
    run.switch r c (k + 1) = run.switch r c k := by
  by_cases hused : r < run.numRows ∧ c < cols
  · cases hsuspect : (run.raw s).isSuspect r c with
    | true =>
      rw [calm.switch_eq_of_isSuspect hcols hused.1 hused.2 hsuspect hk (by omega),
        calm.switch_eq_of_isSuspect hcols hused.1 hused.2 hsuspect (Nat.le_of_lt hk) (by omega)]
    | false =>
      rw [calm.switch_eq hcols hused.1 hused.2 hsuspect hk (by omega),
        calm.switch_eq hcols hused.1 hused.2 hsuspect (Nat.le_of_lt hk) hsk]
  · exact run.switch_succ_of_not_used hused k

end Calm

/-- While the raw grid stays the same every trusted cell comes to rest at its raw bit and is
flipped at most once, every ambiguous cell is frozen, and then nothing happens any more. -/
theorem settles_in_bounded_time (hcols : cols ≤ width) (calm : run.Calm s n)
    (hn : s + run.debouncer.config.settlingCycles ≤ n) :
    (∀ r < run.numRows, ∀ c < cols, (run.raw s).isSuspect r c = false →
      run.switch r c (s + run.debouncer.config.settlingCycles) =
          ⟨.waiting, (run.raw s).isPressed r c⟩ ∧
        {k ∈ Finset.Ico s n | Flips (run.switch r c) k}.card ≤ 1) ∧
    (∀ r < run.numRows, ∀ c < cols, (run.raw s).isSuspect r c = true →
      ∀ k ≤ n, s ≤ k → run.switch r c k = run.switch r c s) ∧
    ∀ k < n, s + run.debouncer.config.settlingCycles ≤ k →
      (run.matrix (k + 1)).cooked = (run.matrix k).cooked ∧
        (run.matrix (k + 1)).debouncer.keys = (run.matrix k).debouncer.keys ∧
        run.changed k = false := by
  refine ⟨fun r hr c hc htrusted => ?_, fun r hr c hc hsuspect k hk hsk => ?_,
    fun k hk hsk => ?_⟩
  · exact ⟨calm.switch_eq hcols hr hc htrusted hn (Nat.le_refl _), calm.card_flips_le_one hcols⟩
  · exact calm.switch_eq_of_isSuspect hcols hr hc hsuspect hk hsk
  · exact run.unchanged_of_switch_succ_eq (calm.switch_succ_eq hcols hk hsk)

/-- The key at (0, 0) is released while it cools down from its press, and a rectangle covers the
key at (1, 1) during its countdown. -/
def stubborn : Run (FrameScanner 8) (AntiGhost FrameTimer 3 3) 8 3 :=
  Run.ofScanner .on (fun _ => .start)
    { numRows := 3
      frames := [
        { grid := .ofList [⟨0b001⟩, ⟨0b000⟩, ⟨0b000⟩] },
        { grid := .ofList [⟨0b001⟩, ⟨0b010⟩, ⟨0b000⟩] },
        { grid := .ofList [⟨0b000⟩, ⟨0b110⟩, ⟨0b110⟩] }] }
    (.ofTimer { press := 1, release := 2, quiesce := 1 } {}) rfl

/-- The key at (0, 0) needs all the cycles it is allowed, and flips in the meantime. -/
theorem stubborn_settles :
    3 ≤ 8 ∧ stubborn.Calm 2 8 ∧ stubborn.debouncer.config.settlingCycles = 5 ∧
      stubborn.switch 0 0 6 = ⟨.quiescing 1, false⟩ ∧
      stubborn.switch 0 0 7 = ⟨.waiting, false⟩ ∧ Flips (stubborn.switch 0 0) 5 ∧
      {k ∈ Finset.Ico 2 8 | Flips (stubborn.switch 0 0) k}.card ≤ 1 ∧
      stubborn.switch 1 1 8 = ⟨.debouncing 1, false⟩ ∧
      (stubborn.matrix 8).cooked = (stubborn.matrix 7).cooked ∧ stubborn.changed 7 = false := by
  have hcalm : stubborn.Calm 2 8 := ⟨by decide +kernel, by decide +kernel, by decide +kernel⟩
  obtain ⟨hsettled, hfrozen, hstable⟩ :=
    settles_in_bounded_time (by decide) hcalm (show 2 + 5 ≤ 8 by decide)
  have hkey := hsettled 0 (by decide) 0 (by decide) (by decide +kernel)
  have hcovered := hfrozen 1 (by decide) 1 (by decide) (by decide +kernel) 8 (by decide) (by decide)
  have hlast := hstable 7 (by decide) (by decide)
  have hreleased : (stubborn.raw 2).isPressed 0 0 = false := by decide +kernel
  have hcounting : stubborn.switch 1 1 2 = ⟨.debouncing 1, false⟩ := by decide +kernel
  rw [hreleased] at hkey
  rw [hcounting] at hcovered
  exact ⟨by decide, hcalm, rfl, by decide +kernel, hkey.1, by decide +kernel, hkey.2, hcovered,
    hlast.1, hlast.2.2⟩

end Run
end KeyMatrix
