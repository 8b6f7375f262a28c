import KeyMatrix.Proofs.Run
import KeyMatrix.Replay

/-! # The change hint only saves work

A debouncer that has taken notice of a raw grid has nothing to do when it is given the same
grid again, whether it is told so or not. With an honest scanner a run therefore goes through
the same states as one whose scanner always hints.
-/
namespace KeyMatrix

/-- Debouncers for which the hint only saves work. -/
class HintedDebouncer (δ : Type) [Debouncer δ] [SteadyDebouncer δ] where
  /-- Notice has been taken of the raw grid. -/
  Synced {width : Nat} (debouncer : δ) (raw cooked : Grid width) : Prop
  synced_init {width : Nat} {debouncer : δ} {n : Nat} {prepared : Prepared δ} :
    Debouncer.init debouncer n = .ok prepared →
    Synced prepared.debouncer (.released n : Grid width) (.released n)
  synced_debounce {width : Nat} {checks : Checks} {now : Instant} {debouncer : δ}
    {raw cooked : Grid width} {cycle : Cycle δ width} :
    raw.size = SteadyDebouncer.rowsInUse debouncer →
    cooked.size = SteadyDebouncer.rowsInUse debouncer →
    Debouncer.debounce checks now debouncer raw cooked (SteadyDebouncer.rowsInUse debouncer) true =
      .ok cycle →
    Synced cycle.debouncer raw cycle.cooked
  debounce_synced {width : Nat} (checks : Checks) (now : Instant) {debouncer : δ}
    {raw cooked : Grid width} :
    raw.size = SteadyDebouncer.rowsInUse debouncer →
    cooked.size = SteadyDebouncer.rowsInUse debouncer →
    Synced debouncer raw cooked →
    Debouncer.debounce checks now debouncer raw cooked (SteadyDebouncer.rowsInUse debouncer)
        false =
      Debouncer.debounce checks now debouncer raw cooked (SteadyDebouncer.rowsInUse debouncer) true

section Instances
variable {τ : Type} [TimeSource τ] {rows cols capacity : Nat}

/-- Notice is taken of a grid by the tally. -/
instance : HintedDebouncer (AntiGhost τ rows cols) where
  Synced debouncer raw _ := debouncer.numRows ≠ 0 → debouncer.tally.recompute raw = debouncer.tally
  synced_init {width debouncer n prepared} h _ := by
    obtain ⟨_, rfl⟩ := AntiGhost.init_cases h
    exact Tally.recompute_clear_released n
  synced_debounce {width checks now debouncer raw cooked cycle} hraw hcooked h hn := by
    change debouncer.debounce checks now raw cooked debouncer.numRows true = _ at h
    rw [AntiGhost.debounce_self _ _ _ _ hraw hcooked, AntiGhost.cover] at h
    split at h
    · rename_i hz
      cases h
      exact absurd hz hn
    · cases h
      have hrenewed : debouncer.renewed debouncer.numRows raw true =
          debouncer.tally.recompute raw := debouncer.renewed_of_size hraw true
      change (debouncer.renewed debouncer.numRows raw true).recompute raw =
        debouncer.renewed debouncer.numRows raw true
      rw [hrenewed, Tally.recompute_recompute]
  debounce_synced {width} checks now {debouncer raw cooked} hraw hcooked hsync := by
    change debouncer.debounce checks now raw cooked debouncer.numRows false =
      debouncer.debounce checks now raw cooked debouncer.numRows true
    rw [AntiGhost.debounce_self _ _ _ _ hraw hcooked, AntiGhost.debounce_self _ _ _ _ hraw hcooked,
      AntiGhost.cover, AntiGhost.cover]
    by_cases hz : debouncer.numRows = 0
    · rw [if_pos hz, if_pos hz]
    · have hkept : debouncer.renewed debouncer.numRows raw false =
          debouncer.renewed debouncer.numRows raw true :=
        (hsync hz).symm.trans (debouncer.renewed_of_size hraw true).symm
      rw [if_neg hz, if_neg hz, AntiGhost.served, AntiGhost.served, AntiGhost.swept,
        AntiGhost.swept, hkept]

/-- Notice is taken of a grid by copying it. -/
instance : HintedDebouncer (EventLog rows cols capacity) where
  Synced _ raw cooked := cooked = raw
  synced_init _ := rfl
  synced_debounce {width checks now debouncer raw cooked cycle} hraw hcooked h := by
    change Except.ok (debouncer.debounce now raw cooked debouncer.numRows true) = .ok cycle at h
    cases h
    exact overwrite_sharedRows hraw hcooked
  debounce_synced {width} checks now {debouncer raw cooked} hraw hcooked hsync := by
    change Except.ok (debouncer.debounce now raw cooked debouncer.numRows false) =
      .ok (debouncer.debounce now raw cooked debouncer.numRows true)
    subst hsync
    simp [EventLog.debounce, EventLog.cover, History.pushAll]

instance : HintedDebouncer Passthrough where
  Synced _ raw cooked := cooked = raw
  synced_init _ := rfl
  synced_debounce {width checks now debouncer raw cooked cycle} hraw hcooked h := by
    change Except.ok (debouncer.debounce raw cooked debouncer.numRows true) = .ok cycle at h
    cases h
    exact overwrite_sharedRows hraw hcooked
  debounce_synced {width} checks now {debouncer raw cooked} hraw hcooked hsync := by
    change Except.ok (debouncer.debounce raw cooked debouncer.numRows false) =
      .ok (debouncer.debounce raw cooked debouncer.numRows true)
    subst hsync
    simp [Passthrough.debounce, Passthrough.cover]

end Instances

namespace Run

variable {σ σ' δ : Type} {width rows : Nat} [Scanner σ width] [Scanner σ' width] [Debouncer δ]

/-- In the first `n` cycles the scanner always hints. -/
def Eager (run : Run σ δ width rows) (n : Nat) : Prop := ∀ k < n, run.hint k = true

instance (run : Run σ δ width rows) (n : Nat) : Decidable (run.Eager n) :=
  inferInstanceAs (Decidable (∀ k < n, run.hint k = true))

/-- Two runs of the same debouncer see the same grids at the same times for `n` cycles. -/
structure SameInput (a : Run σ δ width rows) (b : Run σ' δ width rows) (n : Nat) : Prop where
  checks : a.checks = b.checks
  debouncer : a.debouncer = b.debouncer
  numRows : a.numRows = b.numRows
  clock : ∀ k < n, a.clock k = b.clock k
  raw : ∀ k < n, a.raw k = b.raw k

/-- Two runs go through the same states and report the same for `n` cycles. -/
structure SameOutput (a : Run σ δ width rows) (b : Run σ' δ width rows) (n : Nat) : Prop where
  greeting : a.greeting = b.greeting
  debouncer : ∀ k ≤ n, (a.matrix k).debouncer = (b.matrix k).debouncer
  cooked : ∀ k ≤ n, a.cooked k = b.cooked k
  changed : ∀ k < n, a.changed k = b.changed k
  log : ∀ k < n, a.log k = b.log k

variable [SteadyDebouncer δ] [HintedDebouncer δ]

/-- What a cycle of an honest scanner does, it also does when it is given the hint. -/
theorem debounced_eager (run : Run σ δ width rows) {n k : Nat} (honest : run.Honest n) (hk : k < n)
    (hsync : HintedDebouncer.Synced (run.matrix k).debouncer (run.rawBefore k) (run.cooked k)) :
    Debouncer.debounce run.checks (run.clock k) (run.matrix k).debouncer (run.raw k)
        (run.cooked k) run.numRows true =
      .ok ⟨(run.matrix (k + 1)).debouncer, run.cooked (k + 1), run.log k⟩ := by
  have huse := run.rowsInUse_debouncer k
  have h := run.debounced k
  cases hh : run.hint k with
  | true =>
    rw [hh] at h
    exact h
  | false =>
    rw [← honest.raw_eq hk hh] at hsync
    rw [hh, ← huse, HintedDebouncer.debounce_synced _ _ ((run.size_raw k).trans huse.symm)
      ((run.size_cooked k).trans huse.symm) hsync, huse] at h
    exact h

/-- Along an honest run notice has always been taken of the raw grid. -/
theorem synced (run : Run σ δ width rows) {n : Nat} (honest : run.Honest n) {k : Nat}
    (hk : k ≤ n) :
    HintedDebouncer.Synced (run.matrix k).debouncer (run.rawBefore k) (run.cooked k) := by
  induction k with
  | zero =>
    rw [rawBefore_zero, cooked_zero]
    exact HintedDebouncer.synced_init run.init_debouncer
  | succ k ih =>
    have huse := run.rowsInUse_debouncer k
    have h := run.debounced_eager honest hk (ih (Nat.le_of_succ_le hk))
    rw [← huse] at h
    exact HintedDebouncer.synced_debounce ((run.size_raw k).trans huse.symm)
      ((run.size_cooked k).trans huse.symm) h

/-- An honest run and one whose scanner always hints stay in step. -/
theorem SameInput.sameOutput {a : Run σ δ width rows} {b : Run σ' δ width rows} {n : Nat}
    (same : SameInput a b n) (honest : a.Honest n) (eager : b.Eager n) : SameOutput a b n := by
  have hinit := a.init_debouncer
  rw [same.debouncer, same.numRows, b.init_debouncer] at hinit
  have hstep (k : Nat) (hk : k < n) (hd : (a.matrix k).debouncer = (b.matrix k).debouncer)
      (hc : a.cooked k = b.cooked k) :
      (⟨(a.matrix (k + 1)).debouncer, a.cooked (k + 1), a.log k⟩ : Cycle δ width) =
        ⟨(b.matrix (k + 1)).debouncer, b.cooked (k + 1), b.log k⟩ := by
    have ha := a.debounced_eager honest hk (a.synced honest (Nat.le_of_lt hk))
    have hb := b.debounced k
    rw [eager k hk, ← same.checks, ← same.clock k hk, ← hd, ← same.raw k hk, ← hc,
      ← same.numRows, ha] at hb
    exact Except.ok.inj hb
  have hstates (k : Nat) (hk : k ≤ n) :
      (a.matrix k).debouncer = (b.matrix k).debouncer ∧ a.cooked k = b.cooked k := by
    induction k with
    | zero =>
      refine ⟨(congrArg Prepared.debouncer (Except.ok.inj hinit)).symm, ?_⟩
      rw [cooked_zero, cooked_zero, same.numRows]
    | succ k ih =>
      obtain ⟨hd, hc⟩ := ih (Nat.le_of_succ_le hk)
      have h := hstep k hk hd hc
      exact ⟨congrArg Cycle.debouncer h, congrArg Cycle.cooked h⟩
  constructor
  · exact (congrArg Prepared.log (Except.ok.inj hinit)).symm
  · intro k hk
    exact (hstates k hk).1
  · intro k hk
    exact (hstates k hk).2
  · intro k hk
    rw [changed_eq, changed_eq, (hstates k (Nat.le_of_lt hk)).2, (hstates (k + 1) hk).2]
  · intro k hk
    obtain ⟨hd, hc⟩ := hstates k (Nat.le_of_lt hk)
    exact congrArg Cycle.log (hstep k hk hd hc)

/-- With each of the debouncers, an honest run goes through the same states and reports the same
as the run over the same grids whose scanner always hints. -/
theorem hint_only_saves_work (τ : Type) [TimeSource τ] (room cols capacity n : Nat) :
    (∀ (a : Run σ (AntiGhost τ room cols) width rows)
      (b : Run σ' (AntiGhost τ room cols) width rows),
      SameInput a b n → a.Honest n → b.Eager n → SameOutput a b n) ∧
    (∀ (a : Run σ (EventLog room cols capacity) width rows)
      (b : Run σ' (EventLog room cols capacity) width rows),
      SameInput a b n → a.Honest n → b.Eager n → SameOutput a b n) ∧
    ∀ (a : Run σ Passthrough width rows) (b : Run σ' Passthrough width rows),
      SameInput a b n → a.Honest n → b.Eager n → SameOutput a b n :=
  ⟨fun _ _ => SameInput.sameOutput, fun _ _ => SameInput.sameOutput,
    fun _ _ => SameInput.sameOutput⟩

/-- A key goes down, stays down for another cycle, and goes up. -/
def heldTap (hint : Option Bool) : FrameScanner 8 where
  numRows := 1
  frames := [⟨.ofList [⟨1⟩], hint⟩, ⟨.ofList [⟨1⟩], hint⟩, ⟨.ofList [⟨0⟩], hint⟩]

def heldTapRun (hint : Option Bool) (debouncer : δ)
    (h : (Matrix.ofScanner (heldTap hint) debouncer :
      Except Fault (Matrix.Opened _ δ 8 1)).isOk = true) : Run (FrameScanner 8) δ 8 1 :=
  Run.ofScanner .on (fun k => ⟨1000 * k⟩) (heldTap hint) debouncer h

/-- A scanner that compares its grids does not hint in cycle 1, in which the key held down is
accepted, and nothing is missed. -/
theorem heldTap_sameOutput :
    let antiGhost (hint : Option Bool) :=
      heldTapRun hint (.ofTimer (.uniform 0) {} : AntiGhost MillisTimer 1 1) rfl
    let eventLog (hint : Option Bool) := heldTapRun hint ({} : EventLog 1 1 4) rfl
    let passthrough (hint : Option Bool) := heldTapRun hint ({} : Passthrough) rfl
    (antiGhost none).hint 1 = false ∧
      SameOutput (antiGhost none) (antiGhost (some true)) 3 ∧
      (antiGhost none).log 1 = [.accepted ⟨0, 0, true⟩] ∧
      ((antiGhost none).matrix 2).debouncer.keys.get 0 0 = .quiescing 30 ∧
      (antiGhost none).cooked 3 = .ofList [⟨1⟩] ∧
      SameOutput (eventLog none) (eventLog (some true)) 3 ∧
      ((eventLog none).matrix 3).debouncer.events.toList =
        [.record 0 0 0 true, .record 2 0 0 false] ∧
      SameOutput (passthrough none) (passthrough (some true)) 3 ∧
      (passthrough none).cooked 2 = .ofList [⟨1⟩] ∧
      (passthrough none).cooked 3 = .ofList [⟨0⟩] := by
  intro antiGhost eventLog passthrough
  refine ⟨by decide +kernel, ?_, by decide +kernel, by decide +kernel, by decide +kernel, ?_,
    by decide +kernel, ?_, by decide +kernel, by decide +kernel⟩
  · exact (hint_only_saves_work MillisTimer 1 1 4 3).1 _ _
      ⟨rfl, rfl, rfl, fun _ _ => rfl, by decide +kernel⟩ (by decide +kernel) (by decide +kernel)
  · exact (hint_only_saves_work MillisTimer 1 1 4 3).2.1 _ _
      ⟨rfl, rfl, rfl, fun _ _ => rfl, by decide +kernel⟩ (by decide +kernel) (by decide +kernel)
  · exact (hint_only_saves_work MillisTimer 1 1 4 3).2.2 _ _
      ⟨rfl, rfl, rfl, fun _ _ => rfl, by decide +kernel⟩ (by decide +kernel) (by decide +kernel)

end Run
end KeyMatrix
