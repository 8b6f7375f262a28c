import KeyMatrix.Proofs.Invariant
import KeyMatrix.Proofs.Spacing

/-! # Accepting changes by the wall clock

With the millisecond timer, the time that a key counts in bytes, cycle by cycle, is as good as the
time that the clock shows. Rounding down to milliseconds loses nothing, since the roundings of
consecutive cycles cancel, and a gap too long for a byte outlasts every threshold. The reading of
the first cycle is never counted.
-/
namespace KeyMatrix

/-- In cycle `k` the key begins to count down. -/
def StartsDebouncing (states : Nat → Switch) (k : Nat) : Prop :=
  (∀ n, (states k).key ≠ .debouncing n) ∧ ∃ n, (states (k + 1)).key = .debouncing n

/-- The elapsed time of every cycle but the first is the time on the clock since the cycle
before, as far as it fits in a byte. -/
def CountsMillis (signals : Nat → Signal) (millis : Nat → Nat) : Prop :=
  ∀ k, (signals (k + 1)).elapsed.toNat = min (millis (k + 1) - millis k) maxUnits

section Counting
variable {signals : Nat → Signal} {millis : Nat → Nat}

/-- Less trusted time than time on the clock is counted. -/
theorem CountsMillis.trustedTime_le (h : CountsMillis signals millis) (hmono : Monotone millis)
    {j k : Nat} (hjk : j ≤ k) : trustedTime signals j k ≤ millis k - millis j := by
  induction k, hjk using Nat.le_induction with
  | base =>
    rw [trustedTime_self]
    exact Nat.zero_le _
  | succ k hjk ih =>
    have hj := hmono hjk
    have hk : millis k ≤ millis (k + 1) := hmono (Nat.le_succ k)
    cases ht : (signals (k + 1)).ambiguous with
    | true =>
      rw [trustedTime_succ_ambiguous hjk ht]
      omega
    | false =>
      rw [trustedTime_succ_trusted hjk ht, h k]
      omega

/-- While all cycles are trusted the clock is counted in full, or up to more than any threshold. -/
theorem CountsMillis.le_trustedTime (h : CountsMillis signals millis) {j k : Nat} (hjk : j ≤ k)
    (ht : ∀ i ≤ k, j < i → (signals i).ambiguous = false) :
    min (millis k - millis j) maxUnits ≤ trustedTime signals j k := by
  induction k, hjk using Nat.le_induction with
  | base =>
    rw [Nat.sub_self, Nat.zero_min]
    exact Nat.zero_le _
  | succ k hjk ih =>
    have hk := ih fun i hi => ht i (Nat.le_succ_of_le hi)
    rw [trustedTime_succ_trusted hjk (ht (k + 1) (Nat.le_refl _) (Nat.lt_succ_of_le hjk)), h k]
    omega

end Counting

namespace Switch

variable {config : Config} {signals : Nat → Signal}

theorem startsDebouncing_iff {k : Nat} :
    StartsDebouncing (course config signals) k ↔ Detected signals (course config signals) k := by
  constructor
  · rintro ⟨hbefore, n, hafter⟩
    rcases debouncing_advance hafter with ⟨_, hk⟩ | ⟨ht, hd, hk | ⟨m, hk, _⟩⟩
    · exact absurd hk (hbefore n)
    · exact ⟨ht, hk, hd⟩
    · exact absurd hk (hbefore m)
  · rintro ⟨ht, hk, hd⟩
    constructor
    · intro n hn
      rw [hk] at hn
      cases hn
    · refine ⟨config.threshold (signals k).raw, ?_⟩
      rw [course_succ, advance_waiting ht hk, if_neg hd]

theorem CountsDown.cooked_eq {j k : Nat} (h : CountsDown config signals j k) :
    (course config signals (k + 1)).cooked = (course config signals j).cooked := by
  obtain ⟨n, hstate, _⟩ := h.remaining
  rw [hstate]

/-- Nothing is flipped while a countdown goes on. -/
theorem CountsDown.not_flips {j k m : Nat} (h : CountsDown config signals j k) (hjm : j ≤ m)
    (hmk : m ≤ k) : ¬ Flips (course config signals) m := by
  have hafter := (h.of_le hjm hmk).cooked_eq
  have hbefore : (course config signals m).cooked = (course config signals j).cooked := by
    rcases Nat.eq_or_lt_of_le hjm with rfl | hjm
    · rfl
    · obtain ⟨m, rfl⟩ := Nat.exists_eq_add_one_of_ne_zero (Nat.ne_zero_of_lt hjm)
      exact (h.of_le (Nat.le_of_lt_succ hjm) (Nat.le_of_succ_le hmk)).cooked_eq
  exact not_not.2 (hafter.trans hbefore.symm)

/-- The input that a key has begun to count down for differs from its settled state as long as it
stays the same. -/
theorem CountsDown.raw_ne {j k : Nat} (h : CountsDown config signals j k)
    (hraw : (signals (k + 1)).raw = (signals j).raw) :
    (signals (k + 1)).raw ≠ (course config signals (k + 1)).cooked := by
  rw [hraw, h.cooked_eq]
  exact h.detected.2.2

/-- A countdown goes on while the input stays the same and the threshold has not been reached. -/
theorem countsDown_of_steady {j k : Nat} (hjk : j ≤ k)
    (hdet : Detected signals (course config signals) j)
    (hraw : ∀ i ≤ k, j < i → (signals i).raw = (signals j).raw)
    (hearly : Early signals (config.threshold (signals j).raw).toNat j (k + 1)) :
    CountsDown config signals j k := by
  induction k, hjk using Nat.le_induction with
  | base => exact .of_detected hdet
  | succ k hjk ih =>
    have hk := ih (fun i hi => hraw i (Nat.le_succ_of_le hi))
      (fun i hi => hearly i (Nat.lt_succ_of_lt hi))
    have hj : j < k + 1 := Nat.lt_succ_of_le hjk
    exact hk.succ fun ht => ⟨hk.raw_ne (hraw (k + 1) (Nat.le_refl _) hj),
      hearly (k + 1) (Nat.lt_succ_self _) hj ht⟩

/-- A change that lasts, and whose input is trusted all the time, is accepted in the first cycle
in which the time on the clock reaches the threshold. -/
theorem course_flips_on_time {millis : Nat → Nat} (hcount : CountsMillis signals millis)
    (hmono : Monotone millis) {k l : Nat} (hkl : k < l)
    (hdet : Detected signals (course config signals) k)
    (hdue : (config.threshold (signals k).raw).toNat ≤ millis l - millis k)
    (hfirst : ∀ m < l, k < m → millis m - millis k < (config.threshold (signals k).raw).toNat)
    (hsteady : ∀ m ≤ l, k < m → (signals m).raw = (signals k).raw ∧ (signals m).ambiguous = false) :
    Flips (course config signals) l ∧ ∀ m < l, k ≤ m → ¬ Flips (course config signals) m := by
  obtain ⟨l, rfl⟩ := Nat.exists_eq_add_one_of_ne_zero (Nat.ne_zero_of_lt hkl)
  have hkl' := Nat.le_of_lt_succ hkl
  have hlast := hsteady (l + 1) (Nat.le_refl _) hkl
  have hdown : CountsDown config signals k l :=
    countsDown_of_steady hkl' hdet (fun i hi hki => (hsteady i (Nat.le_succ_of_le hi) hki).1)
      fun i hi hki _ => (hcount.trustedTime_le hmono (Nat.le_of_lt hki)).trans_lt (hfirst i hi hki)
  constructor
  · refine hdown.flips_iff.2 ⟨hlast.2, hdown.raw_ne hlast.1, ?_⟩
    have hcounted := hcount.le_trustedTime (Nat.le_of_lt hkl) fun i hi hki => (hsteady i hi hki).2
    have hbyte := (config.threshold (signals k).raw).toNat_lt
    rw [maxUnits] at hcounted
    omega
  · exact fun m hm hkm => hdown.not_flips hkm (Nat.le_of_lt_succ hm)

end Switch

/-! ## Runs with a millisecond timer -/

namespace Run

section Count
variable {σ τ : Type} {width rows room cols : Nat} [Scanner σ width] [TimeSource τ]
variable (run : Run σ (AntiGhost τ room cols) width rows)

/-- The milliseconds that the clock shows in cycle `k`. -/
def millis (k : Nat) : Nat := (run.clock k).millis

theorem monotone_millis (hclock : Monotone fun k => (run.clock k).micros) :
    Monotone run.millis :=
  fun _ _ h => Nat.div_le_div_right (hclock h)

/-- A time source that holds a millisecond timer counts the milliseconds of the clock from cycle
to cycle. -/
theorem countsMillis_of_timer (ofMillis : MillisTimer → τ)
    (hunits : ∀ timer now, (TimeSource.elapsed (ofMillis timer) now).units =
      (timer.elapsed now).units)
    (htimer : ∀ timer now, (TimeSource.elapsed (ofMillis timer) now).timer =
      ofMillis (timer.elapsed now).timer)
    (hfirst : TimeSource.reset run.debouncer.timer = ofMillis {}) (hn : run.numRows ≠ 0)
    (r c : Nat) : CountsMillis (run.signal r c) run.millis := by
  have hlast (k : Nat) : (run.matrix (k + 1)).debouncer.timer = ofMillis ⟨some (run.millis k)⟩ := by
    induction k with
    | zero =>
      rw [run.timer_succ hn, debouncer_zero, hfirst, htimer, MillisTimer.timer_elapsed]
      rfl
    | succ k ih =>
      rw [run.timer_succ hn, ih, htimer, MillisTimer.timer_elapsed]
      rfl
  intro k
  change (run.elapsed (k + 1)).toNat = _
  rw [elapsed, hlast k, hunits, MillisTimer.toNat_units_elapsed]
  rfl

theorem used_of_startsDebouncing {r c k : Nat} (h : StartsDebouncing (run.switch r c) k) :
    r < run.numRows ∧ c < cols := by
  obtain ⟨n, hn⟩ := h.2
  apply run.used_of_switch_succ_ne
  intro hsame
  rw [hsame] at hn
  exact h.1 n hn

/-- Changes are accepted by the clock. -/
structure Punctual : Prop where
  /-- A flip ends a countdown that has taken the threshold of its direction. -/
  not_early {r c l : Nat} : Flips (run.switch r c) l →
    ∃ k < l, StartsDebouncing (run.switch r c) k ∧
      (∀ m < l, k ≤ m → ∃ n, run.key (m + 1) r c = .debouncing n) ∧
      (run.debouncer.config.threshold (run.switch r c (l + 1)).cooked).toNat ≤
        run.millis l - run.millis k
  /-- Since any flip before it, the quiesce time has passed as well. -/
  spaced {r c i l : Nat} : i < l → Flips (run.switch r c) i → Flips (run.switch r c) l →
    run.debouncer.config.quiesce.toNat +
        (run.debouncer.config.threshold (run.switch r c (l + 1)).cooked).toNat ≤
      run.millis l - run.millis i
  /-- A change that lasts, and is trusted all the time, is accepted in the first cycle in which
  the threshold has passed. -/
  not_late {r c k l : Nat} : StartsDebouncing (run.switch r c) k → k < l →
    (run.debouncer.config.threshold ((run.raw k).isPressed r c)).toNat ≤
      run.millis l - run.millis k →
    (∀ m < l, k < m → run.millis m - run.millis k <
      (run.debouncer.config.threshold ((run.raw k).isPressed r c)).toNat) →
    (∀ m ≤ l, k ≤ m → (run.raw m).isPressed r c = (run.raw k).isPressed r c ∧
      run.isAmbiguous m r c = false) →
    Flips (run.switch r c) l ∧ ∀ m < l, k ≤ m → ¬ Flips (run.switch r c) m

theorem punctual_of_countsMillis (hcols : cols ≤ width)
    (hclock : Monotone fun k => (run.clock k).micros)
    (hcount : run.numRows ≠ 0 → ∀ r c, CountsMillis (run.signal r c) run.millis) :
    run.Punctual := by
  have hmono := run.monotone_millis hclock
  have hcourse {r c : Nat} (hused : r < run.numRows ∧ c < cols) :
      run.switch r c = Switch.course run.debouncer.config (run.signal r c) ∧
        CountsMillis (run.signal r c) run.millis :=
    ⟨funext (run.switch_eq_course hcols hused.1 hused.2),
      hcount (Nat.ne_zero_of_lt hused.1) r c⟩
  constructor
  · intro r c l hl
    obtain ⟨hswitch, hcounts⟩ := hcourse (run.used_of_flips hl)
    change ∃ k < l, StartsDebouncing (run.switch r c) k ∧
      (∀ m < l, k ≤ m → ∃ n, (run.switch r c (m + 1)).key = .debouncing n) ∧ _
    rw [hswitch] at hl ⊢
    obtain ⟨k, hk⟩ := Switch.exists_ripens hl
    exact ⟨k, hk.lt, Switch.startsDebouncing_iff.2 hk.detected, hk.debouncing,
      hk.enough.trans (hcounts.trustedTime_le hmono (Nat.le_of_lt hk.lt))⟩
  · intro r c i l hil hi hl
    obtain ⟨_, hcounts⟩ := hcourse (run.used_of_flips hl)
    exact (run.quiesce_add_threshold_le hcols hil hi hl).trans
      (hcounts.trustedTime_le hmono (Nat.le_of_lt hil))
  · intro r c k l hk hkl hdue hfirst hsteady
    obtain ⟨hswitch, hcounts⟩ := hcourse (run.used_of_startsDebouncing hk)
    rw [hswitch, Switch.startsDebouncing_iff] at hk
    rw [hswitch]
    exact Switch.course_flips_on_time hcounts hmono hkl hk hdue hfirst
      fun m hm hkm => hsteady m hm (Nat.le_of_lt hkm)

end Count

section Punctuality
variable {σ : Type} {width rows room cols : Nat} [Scanner σ width]

/-- With a millisecond timer, of its own kind or chosen by the unit of the settings, and a clock
that never goes back, changes are accepted by the clock. What the first cycle reads is of no
account: it is enough that all later cycles count the milliseconds since the cycle before. -/
theorem wall_clock_decides (hcols : cols ≤ width) :
    (∀ run : Run σ (AntiGhost MillisTimer room cols) width rows,
      Monotone (fun k => (run.clock k).micros) → run.Punctual) ∧
    (∀ run : Run σ (AntiGhost Timer room cols) width rows,
      (∃ timer, run.debouncer.timer = .millis timer) →
      Monotone (fun k => (run.clock k).micros) → run.Punctual) ∧
    ∀ (τ : Type) [TimeSource τ] (run : Run σ (AntiGhost τ room cols) width rows),
      (∀ r c, CountsMillis (run.signal r c) run.millis) →
      Monotone (fun k => (run.clock k).micros) → run.Punctual := by
  refine ⟨fun run hclock => ?_, fun run ⟨timer, htimer⟩ hclock => ?_,
    fun τ _ run hcount hclock => run.punctual_of_countsMillis hcols hclock fun _ => hcount⟩
  · refine run.punctual_of_countsMillis hcols hclock fun hn => ?_
    exact run.countsMillis_of_timer id (fun _ _ => rfl) (fun _ _ => rfl) rfl hn
  · refine run.punctual_of_countsMillis hcols hclock fun hn => ?_
    refine run.countsMillis_of_timer .millis (fun _ _ => rfl) (fun _ _ => rfl) ?_ hn
    rw [htimer]
    rfl

end Punctuality

/-- A key goes down and stays down. Cycle 1 takes less than a millisecond, and cycle 2 more than a
minute. -/
def longGap : Run (FrameScanner 8) (AntiGhost Timer 1 1) 8 1 :=
  Run.ofScanner .on (fun k => ⟨if k = 0 then 0 else if k = 1 then 900 else 66000000⟩)
    { numRows := 1, frames := [⟨.ofList [⟨1⟩], none⟩] }
    (.ofConfig { press := 200, release := 3, quiesce := 0 }) rfl

/-- A time source that is told what to answer, also in cycle 0. -/
def prompted : Run (FrameScanner 8) (AntiGhost ScriptedTimer 1 1) 8 1 :=
  Run.ofScanner .on (fun k => ⟨7000 * k⟩)
    { numRows := 1, frames := [⟨.ofList [⟨1⟩], none⟩] }
    (.ofTimer { press := 20, release := 3, quiesce := 0 } { units := 7 }) rfl

theorem prompted_elapsed (k : Nat) : prompted.elapsed k = 7 := by
  change (prompted.matrix k).debouncer.timer.units = 7
  induction k with
  | zero => rfl
  | succ k ih =>
    rw [prompted.timer_succ (by decide)]
    exact ih

theorem prompted_countsMillis (r c : Nat) : CountsMillis (prompted.signal r c) prompted.millis := by
  intro k
  change (prompted.elapsed (k + 1)).toNat = _
  rw [prompted_elapsed, maxUnits]
  change 7 = min (7000 * (k + 1) / 1000 - 7000 * k / 1000) 255
  omega

/-- The gap in `longGap` is counted as 255 milliseconds, which is enough. -/
theorem longGap_punctual :
    2 ≤ 8 ∧ 1 ≤ 8 ∧ rebound.Punctual ∧ longGap.Punctual ∧ prompted.Punctual ∧
      3 + 2 ≤ rebound.millis 8 - rebound.millis 1 ∧
      StartsDebouncing (longGap.switch 0 0) 0 ∧ longGap.millis 2 - longGap.millis 0 = 66000 ∧
      longGap.elapsed 2 = 255 ∧ Flips (longGap.switch 0 0) 2 ∧
      ∀ m < 2, 0 ≤ m → ¬ Flips (longGap.switch 0 0) m := by
  have hrebound : rebound.Punctual := by
    refine (wall_clock_decides (by decide)).1 rebound ?_
    intro a b hab
    change (1000 * if a < 3 then a else a + 4) ≤ 1000 * if b < 3 then b else b + 4
    split_ifs <;> omega
  have hgap : longGap.Punctual := by
    refine (wall_clock_decides (by decide)).2.1 longGap ⟨{}, rfl⟩ ?_
    intro a b hab
    change (if a = 0 then 0 else if a = 1 then 900 else 66000000) ≤
      if b = 0 then 0 else if b = 1 then 900 else 66000000
    split_ifs <;> omega
  have hprompted : prompted.Punctual := by
    refine (wall_clock_decides (by decide)).2.2 ScriptedTimer prompted prompted_countsMillis ?_
    exact fun a b hab => Nat.mul_le_mul_left 7000 hab
  have hspaced := hrebound.spaced (show 1 < 8 by decide)
    (show Flips (rebound.switch 0 0) 1 by decide +kernel) (by decide +kernel)
  have hstart : StartsDebouncing (longGap.switch 0 0) 0 := by
    refine ⟨fun n hn => ?_, 200, by decide +kernel⟩
    rw [switch_zero] at hn
    cases hn
  have hontime := hgap.not_late hstart (show 0 < 2 by decide) (by decide +kernel)
    (by decide +kernel) (by decide +kernel)
  have hrelease : (rebound.switch 0 0 (8 + 1)).cooked = false := by decide +kernel
  rw [hrelease] at hspaced
  exact ⟨by decide, by decide, hrebound, hgap, hprompted, hspaced, hstart, by decide +kernel,
    by decide +kernel, hontime.1, hontime.2⟩

end Run
end KeyMatrix
