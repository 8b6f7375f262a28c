import KeyMatrix.Proofs.Acceptance

/-! # The time between accepted changes

After a flip a key first cools down, deaf to its input, then waits, and only then counts down to
the next flip. The cooldown takes the quiesce time and the countdown takes the threshold. Even
if both are zero each of the phases takes a trusted cycle of its own.
-/
namespace KeyMatrix

section Conditions
variable (signals : Nat → Signal) (states : Nat → Switch)

/-- In cycle `k` the settled state is flipped. -/
def Flips (k : Nat) : Prop := (states (k + 1)).cooked ≠ (states k).cooked

instance (k : Nat) : Decidable (Flips states k) :=
  inferInstanceAs (Decidable (_ ≠ _))

/-- A cooldown that began in cycle `i` goes on after cycle `k`. The time spent and the time left
make up the quiesce time. -/
structure Cooling (quiesce i k : Nat) : Prop where
  le : i ≤ k
  quiescing : ∀ m ≤ k, i ≤ m → ∃ n, (states (m + 1)).key = .quiescing n
  remaining : ∃ n, (states (k + 1)).key = .quiescing n ∧
    n.toNat + trustedTime signals i k = quiesce

/-- A cooldown that began in cycle `i` ends in cycle `j`. -/
structure CoolsDown (quiesce i j : Nat) : Prop where
  lt : i < j
  quiescing : ∀ m < j, i ≤ m → ∃ n, (states (m + 1)).key = .quiescing n
  trusted : (signals j).ambiguous = false
  waiting : (states (j + 1)).key = .waiting
  enough : quiesce ≤ trustedTime signals i j

/-- A countdown that began in cycle `k` ends with a flip in cycle `l`. -/
structure Ripens (threshold k l : Nat) : Prop where
  lt : k < l
  detected : Detected signals states k
  debouncing : ∀ m < l, k ≤ m → ∃ n, (states (m + 1)).key = .debouncing n
  trusted : (signals l).ambiguous = false
  enough : threshold ≤ trustedTime signals k l

end Conditions

/-! ## Adding up trusted time -/

section TrustedTime
variable (signals : Nat → Signal) {j k l : Nat}

theorem trustedTime_add (hjk : j ≤ k) (hkl : k ≤ l) :
    trustedTime signals j k + trustedTime signals k l = trustedTime signals j l := by
  simp only [trustedTime, Finset.sum_filter]
  exact Finset.sum_Ioc_consecutive _ hjk hkl

/-- The trusted cycles after cycle `j`, up to and with cycle `k`. -/
def trustedCycles (j k : Nat) : Finset Nat :=
  {i ∈ Finset.Ioc j k | (signals i).ambiguous = false}

variable {signals} in
theorem mem_trustedCycles {i : Nat} :
    i ∈ trustedCycles signals j k ↔ (j < i ∧ i ≤ k) ∧ (signals i).ambiguous = false := by
  rw [trustedCycles, Finset.mem_filter, Finset.mem_Ioc]

end TrustedTime

section Phases
variable {signals : Nat → Signal} {states : Nat → Switch} {quiesce threshold i j k l : Nat}

/-- A cooldown and a countdown after it take their times one after the other. -/
theorem CoolsDown.add_le_trustedTime (hj : CoolsDown signals states quiesce i j) (hjk : j < k)
    (hk : Ripens signals states threshold k l) :
    quiesce + threshold ≤ trustedTime signals i l := by
  have hfirst := trustedTime_add signals (Nat.le_of_lt hj.lt) (Nat.le_of_lt hjk)
  have hsecond := trustedTime_add signals (Nat.le_of_lt (hj.lt.trans hjk)) (Nat.le_of_lt hk.lt)
  have hrest := hj.enough
  have hpress := hk.enough
  omega

/-- The cooldown ends, the countdown begins and the countdown ends in trusted cycles. -/
theorem CoolsDown.three_le_card_trustedCycles (hj : CoolsDown signals states quiesce i j)
    (hjk : j < k) (hk : Ripens signals states threshold k l) :
    3 ≤ (trustedCycles signals i l).card := by
  have hij := hj.lt
  have hkl := hk.lt
  rw [Nat.succ_le_iff, Finset.two_lt_card]
  refine ⟨j, ?_, k, ?_, l, ?_, by omega, by omega, by omega⟩
  · exact mem_trustedCycles.2 ⟨⟨hij, by omega⟩, hj.trusted⟩
  · exact mem_trustedCycles.2 ⟨⟨by omega, by omega⟩, hk.detected.1⟩
  · exact mem_trustedCycles.2 ⟨⟨by omega, Nat.le_refl l⟩, hk.trusted⟩

end Phases

namespace Switch

variable {config : Config} {signals : Nat → Signal}

/-! ## The cooldown -/

/-- A flip takes place in a trusted cycle and begins a cooldown. -/
theorem course_of_flips {i : Nat} (h : Flips (course config signals) i) :
    (signals i).ambiguous = false ∧ (signals i).raw = (course config signals (i + 1)).cooked ∧
      course config signals (i + 1) =
        ⟨.quiescing config.quiesce, !(course config signals i).cooked⟩ := by
  obtain ⟨ht, hd, n, hkey, hn⟩ := cooked_advance_ne_iff.1 h
  have hstate : course config signals (i + 1) =
      ⟨.quiescing config.quiesce, !(course config signals i).cooked⟩ := by
    rw [course_succ, advance_debouncing ht hkey, if_neg hd, if_neg (UInt8.not_lt.2 hn)]
  refine ⟨ht, ?_, hstate⟩
  rw [hstate]
  exact Bool.eq_not_iff.2 hd

/-- A cooldown is held up, is lowered, or is over. -/
theorem advance_of_quiescing {switch : Switch} {n : UInt8} (hk : switch.key = .quiescing n)
    (signal : Signal) :
    (signal.ambiguous = true ∧ (switch.advance config signal).key = .quiescing n) ∨
      (signal.ambiguous = false ∧ signal.elapsed < n ∧
        (switch.advance config signal).key = .quiescing (n - signal.elapsed)) ∨
      (signal.ambiguous = false ∧ n ≤ signal.elapsed ∧
        (switch.advance config signal).key = .waiting) := by
  cases ht : signal.ambiguous with
  | true =>
    rw [advance_ambiguous config switch ht]
    exact .inl ⟨rfl, hk⟩
  | false =>
    rw [advance_quiescing ht hk]
    by_cases hn : n > signal.elapsed
    · rw [if_pos hn]
      exact .inr (.inl ⟨rfl, hn, rfl⟩)
    · rw [if_neg hn]
      exact .inr (.inr ⟨rfl, UInt8.not_lt.1 hn, rfl⟩)

theorem cooling_of_flips {i : Nat} (h : Flips (course config signals) i) :
    Cooling signals (course config signals) config.quiesce.toNat i i := by
  have hkey := congrArg Switch.key (course_of_flips h).2.2
  refine ⟨Nat.le_refl i, fun m hm him => ?_, config.quiesce, hkey, ?_⟩
  · obtain rfl := Nat.le_antisymm hm him
    exact ⟨_, hkey⟩
  · rw [trustedTime_self, Nat.add_zero]

/-- A cooldown goes on for another cycle, or ends in it. -/
theorem cooling_succ {quiesce i k : Nat}
    (h : Cooling signals (course config signals) quiesce i k) :
    Cooling signals (course config signals) quiesce i (k + 1) ∨
      CoolsDown signals (course config signals) quiesce i (k + 1) := by
  obtain ⟨n, hkey, hn⟩ := h.remaining
  have hgoes {n' : UInt8} (hkey' : (course config signals (k + 2)).key = .quiescing n') :
      ∀ m ≤ k + 1, i ≤ m → ∃ n, (course config signals (m + 1)).key = .quiescing n := by
    intro m hm him
    rcases Nat.of_le_succ hm with hm | rfl
    · exact h.quiescing m hm him
    · exact ⟨n', hkey'⟩
  rcases advance_of_quiescing hkey (signals (k + 1)) with
    ⟨ht, hkey'⟩ | ⟨ht, hlt, hkey'⟩ | ⟨ht, hle, hkey'⟩
  · refine .inl ⟨Nat.le_succ_of_le h.le, hgoes hkey', n, hkey', ?_⟩
    rw [trustedTime_succ_ambiguous h.le ht, hn]
  · refine .inl ⟨Nat.le_succ_of_le h.le, hgoes hkey', _, hkey', ?_⟩
    rw [trustedTime_succ_trusted h.le ht, UInt8.toNat_sub_of_le _ _ (UInt8.le_of_lt hlt)]
    rw [UInt8.lt_iff_toNat_lt] at hlt
    omega
  · refine .inr ⟨Nat.lt_succ_of_le h.le, ?_, ht, hkey', ?_⟩
    · exact fun m hm => h.quiescing m (Nat.le_of_lt_succ hm)
    · rw [trustedTime_succ_trusted h.le ht]
      rw [UInt8.le_iff_toNat_le] at hle
      omega

/-- After a flip the cooldown either still goes on or has ended. -/
theorem cooling_or_cooled {i k : Nat} (h : Flips (course config signals) i) (hik : i ≤ k) :
    Cooling signals (course config signals) config.quiesce.toNat i k ∨
      ∃ j ≤ k, CoolsDown signals (course config signals) config.quiesce.toNat i j := by
  induction k, hik using Nat.le_induction with
  | base => exact .inl (cooling_of_flips h)
  | succ k hik ih =>
    rcases ih with hcooling | ⟨j, hjk, hj⟩
    · exact (cooling_succ hcooling).imp_right fun hk => ⟨k + 1, Nat.le_refl _, hk⟩
    · exact .inr ⟨j, Nat.le_succ_of_le hjk, hj⟩

/-- Without flips the settled state stays. -/
theorem cooked_eq_of_not_flips {states : Nat → Switch} {i l : Nat} (hil : i ≤ l)
    (h : ∀ m < l, i ≤ m → ¬ Flips states m) : (states l).cooked = (states i).cooked := by
  induction l, hil using Nat.le_induction with
  | base => rfl
  | succ l hil ih =>
    rw [← ih fun m hm => h m (Nat.lt_succ_of_lt hm)]
    exact Decidable.not_not.1 (h l (Nat.lt_succ_self l) hil)

/-! ## The countdown -/

theorem exists_ripens {l : Nat} (h : Flips (course config signals) l) :
    ∃ k, Ripens signals (course config signals)
      (config.threshold (course config signals (l + 1)).cooked).toNat k l := by
  cases l with
  | zero => exact absurd (course_one_cooked config signals) h
  | succ l =>
    obtain ⟨k, hk⟩ := exists_countsDown_of_flips h
    obtain ⟨ht, hd, henough⟩ := hk.flips_iff.1 h
    refine ⟨k, Nat.lt_succ_of_le hk.le, hk.detected, fun m hm hkm => ?_, ht, ?_⟩
    · obtain ⟨n, hstate, _⟩ := (hk.of_le hkm (Nat.le_of_lt_succ hm)).remaining
      exact ⟨n, congrArg Switch.key hstate⟩
    · rw [← (course_of_flips h).2.1, ← hk.raw_eq hd]
      exact henough

/-- Between two flips a key cools down, waits, and counts down, in this order. -/
theorem exists_phases {i l : Nat} (hil : i < l) (hi : Flips (course config signals) i)
    (hl : Flips (course config signals) l) :
    ∃ j k, j < k ∧ CoolsDown signals (course config signals) config.quiesce.toNat i j ∧
      Ripens signals (course config signals)
        (config.threshold (course config signals (l + 1)).cooked).toNat k l := by
  obtain ⟨k, hk⟩ := exists_ripens hl
  obtain ⟨l, rfl⟩ := Nat.exists_eq_add_one_of_ne_zero (Nat.ne_zero_of_lt hil)
  obtain ⟨n, hn⟩ := hk.debouncing l (Nat.lt_succ_self l) (Nat.le_of_lt_succ hk.lt)
  -- Just before the second flip the key counts down, so its cooldown is over.
  rcases cooling_or_cooled hi (Nat.le_of_lt_succ hil) with hcooling | ⟨j, _, hj⟩
  · obtain ⟨n', hn', _⟩ := hcooling.remaining
    rw [hn] at hn'
    cases hn'
  · refine ⟨j, k, ?_, hj, hk⟩
    apply Nat.lt_of_not_le
    intro hkj
    -- The countdown cannot have begun before the cooldown ended.
    by_cases hki : k ≤ i
    · obtain ⟨m, hm⟩ := hk.debouncing i hil hki
      obtain ⟨m', hm'⟩ := hj.quiescing i hj.lt (Nat.le_refl i)
      rw [hm] at hm'
      cases hm'
    · obtain ⟨k, rfl⟩ := Nat.exists_eq_add_one_of_ne_zero (Nat.ne_zero_of_lt (Nat.lt_of_not_le hki))
      obtain ⟨m, hm⟩ := hj.quiescing k hkj (Nat.le_of_lt_succ (Nat.lt_of_not_le hki))
      rw [hk.detected.2.1] at hm
      cases hm

end Switch

namespace Run

variable {σ τ : Type} {width rows room cols : Nat} [Scanner σ width] [TimeSource τ]
variable (run : Run σ (AntiGhost τ room cols) width rows)

theorem used_of_switch_succ_ne {r c k : Nat} (h : run.switch r c (k + 1) ≠ run.switch r c k) :
    r < run.numRows ∧ c < cols := by
  apply Decidable.byContradiction
  intro hused
  exact h (run.switch_succ_of_not_used hused k)

theorem used_of_flips {r c k : Nat} (h : Flips (run.switch r c) k) :
    r < run.numRows ∧ c < cols :=
  run.used_of_switch_succ_ne fun hsame => h (congrArg Switch.cooked hsame)

/-- A cell that is ever flipped runs its course. -/
theorem switch_eq_course_of_flips (hcols : cols ≤ width) {r c k : Nat}
    (h : Flips (run.switch r c) k) :
    run.switch r c = Switch.course run.debouncer.config (run.signal r c) := by
  have hused := run.used_of_flips h
  exact funext (run.switch_eq_course hcols hused.1 hused.2)

/-- A flip brings the cooked bit to where the raw bit is. -/
theorem raw_of_flips (hcols : cols ≤ width) {r c k : Nat} (h : Flips (run.switch r c) k) :
    (run.raw k).isPressed r c = (run.switch r c (k + 1)).cooked := by
  have hcourse := run.switch_eq_course_of_flips hcols h
  rw [hcourse] at h ⊢
  exact (Switch.course_of_flips h).2.1

/-- At least the quiesce time and a threshold lie between two flips of a cell. -/
theorem quiesce_add_threshold_le (hcols : cols ≤ width) {r c i l : Nat} (hil : i < l)
    (hi : Flips (run.switch r c) i) (hl : Flips (run.switch r c) l) :
    run.debouncer.config.quiesce.toNat +
        (run.debouncer.config.threshold (run.switch r c (l + 1)).cooked).toNat ≤
      trustedTime (run.signal r c) i l := by
  have hcourse := run.switch_eq_course_of_flips hcols hi
  rw [hcourse] at hi hl ⊢
  obtain ⟨j, k, hjk, hj, hk⟩ := Switch.exists_phases hil hi hl
  exact hj.add_le_trustedTime hjk hk

/-- Between two flips of a cell lie a cooldown that takes at least the quiesce time and, after it,
a countdown that takes at least the threshold. Each ends in a trusted cycle, and the countdown
begins in one. If there is no flip in between, the two flips have opposite directions. -/
theorem flips_are_spaced (hcols : cols ≤ width) {r c i l : Nat} (hil : i < l)
    (hi : Flips (run.switch r c) i) (hl : Flips (run.switch r c) l) :
    run.isAmbiguous i r c = false ∧
    (∃ j k, j < k ∧
      CoolsDown (run.signal r c) (run.switch r c) run.debouncer.config.quiesce.toNat i j ∧
      Ripens (run.signal r c) (run.switch r c)
        (run.debouncer.config.threshold (run.switch r c (l + 1)).cooked).toNat k l) ∧
    3 ≤ (trustedCycles (run.signal r c) i l).card ∧
    run.debouncer.config.quiesce.toNat +
        (run.debouncer.config.threshold (run.switch r c (l + 1)).cooked).toNat ≤
      trustedTime (run.signal r c) i l ∧
    ((∀ m < l, i < m → ¬ Flips (run.switch r c) m) →
      (run.switch r c (l + 1)).cooked = !(run.switch r c (i + 1)).cooked) := by
  have hcourse := run.switch_eq_course_of_flips hcols hi
  rw [hcourse] at hi hl ⊢
  obtain ⟨j, k, hjk, hj, hk⟩ := Switch.exists_phases hil hi hl
  refine ⟨(Switch.course_of_flips hi).1, ⟨j, k, hjk, hj, hk⟩,
    hj.three_le_card_trustedCycles hjk hk, hj.add_le_trustedTime hjk hk, ?_⟩
  intro hnone
  have hsame : (Switch.course run.debouncer.config (run.signal r c) l).cooked =
      (Switch.course run.debouncer.config (run.signal r c) (i + 1)).cooked :=
    Switch.cooked_eq_of_not_flips hil fun m hm him => hnone m hm him
  rw [← hsame]
  exact Bool.eq_not_iff.2 hl

/-- A key is held down for two cycles. The chatter of cycle 2 falls into its cooldown, which is
held up in cycle 3 by a detour over other contacts. -/
def rebound : Run (FrameScanner 8) (AntiGhost MillisTimer 2 2) 8 2 :=
  Run.ofScanner .on (fun k => ⟨1000 * if k < 3 then k else k + 4⟩)
    { numRows := 2
      frames := [
        { grid := .ofList [⟨0b01⟩, ⟨0b00⟩] },
        { grid := .ofList [⟨0b01⟩, ⟨0b00⟩] },
        { grid := .ofList [⟨0b00⟩, ⟨0b00⟩] },
        { grid := .ofList [⟨0b11⟩, ⟨0b11⟩] },
        { grid := .ofList [⟨0b00⟩, ⟨0b00⟩] }] }
    (.ofTimer { press := 1, release := 2, quiesce := 3 } {}) rfl

theorem rebound_flips_spaced :
    2 ≤ 8 ∧ 1 < 8 ∧ Flips (rebound.switch 0 0) 1 ∧ Flips (rebound.switch 0 0) 8 ∧
      (∀ m < 8, 1 < m → ¬ Flips (rebound.switch 0 0) m) ∧
      (∃ j k, j < k ∧ CoolsDown (rebound.signal 0 0) (rebound.switch 0 0) 3 1 j ∧
        Ripens (rebound.signal 0 0) (rebound.switch 0 0) 2 k 8) ∧
      3 ≤ (trustedCycles (rebound.signal 0 0) 1 8).card ∧
      3 + 2 ≤ trustedTime (rebound.signal 0 0) 1 8 ∧
      (rebound.switch 0 0 9).cooked = !(rebound.switch 0 0 2).cooked := by
  have hi : Flips (rebound.switch 0 0) 1 := by decide +kernel
  have hl : Flips (rebound.switch 0 0) 8 := by decide +kernel
  have hnone : ∀ m < 8, 1 < m → ¬ Flips (rebound.switch 0 0) m := by decide +kernel
  have hrelease : (rebound.switch 0 0 (8 + 1)).cooked = false := by decide +kernel
  obtain ⟨_, hphases, hcycles, htime, hdir⟩ :=
    rebound.flips_are_spaced (by decide) (by decide) hi hl
  rw [hrelease] at hphases htime
  exact ⟨by decide, by decide, hi, hl, hnone, hphases, hcycles, htime, hdir hnone⟩

end Run
end KeyMatrix
