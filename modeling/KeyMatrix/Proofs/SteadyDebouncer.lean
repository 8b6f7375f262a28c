import KeyMatrix.AntiGhost
import KeyMatrix.EventLog
import KeyMatrix.Passthrough

/-! # Debouncers that serve

Once it is prepared for some rows, a debouncer never refuses a cycle over just those rows.
All three debouncers keep this contract.
-/
namespace KeyMatrix

/-- Debouncers that accept every cycle over the rows in use and hand back as many. -/
class SteadyDebouncer (δ : Type) [Debouncer δ] where
  rowsInUse : δ → Nat
  rowsInUse_init {debouncer : δ} {n : Nat} {prepared : Prepared δ} :
    Debouncer.init debouncer n = .ok prepared → rowsInUse prepared.debouncer = n
  debounce_ok {width : Nat} (checks : Checks) (now : Instant) (debouncer : δ)
    {raw cooked : Grid width} (changed : Bool) :
    raw.size = rowsInUse debouncer → cooked.size = rowsInUse debouncer →
    ∃ cycle, Debouncer.debounce checks now debouncer raw cooked (rowsInUse debouncer) changed =
        .ok cycle ∧
      rowsInUse cycle.debouncer = rowsInUse debouncer ∧
      cycle.cooked.size = rowsInUse debouncer

theorem sharedRows_self {width n : Nat} {raw cooked : Grid width} (hraw : raw.size = n)
    (hcooked : cooked.size = n) : sharedRows n n raw cooked = n := by
  simp only [sharedRows]
  omega

/-- Copying all rows in use makes the grids equal. -/
theorem overwrite_sharedRows {width n : Nat} {raw cooked : Grid width} (hraw : raw.size = n)
    (hcooked : cooked.size = n) : cooked.overwrite (sharedRows n n raw cooked) raw = raw := by
  rw [sharedRows_self hraw hcooked]
  have h := cooked.take_overwrite (Nat.le_of_eq hcooked.symm) hraw
  rwa [Grid.take_of_size_le _ (Nat.le_of_eq ((Grid.size_overwrite ..).trans hcooked))] at h

section Instances
variable {τ : Type} [TimeSource τ] {rows cols capacity width : Nat}

/-- What a successful `init` answers does not depend on what went before. -/
theorem AntiGhost.init_cases {debouncer : AntiGhost τ rows cols} {n : Nat}
    {prepared : Prepared (AntiGhost τ rows cols)} (h : debouncer.init n = .ok prepared) :
    ∃ hn : n ≤ rows, prepared = {
      debouncer := {
        config := debouncer.config
        timer := TimeSource.reset debouncer.timer
        numRows := n
        numRows_le := hn }
      log := [.initialized n cols] } := by
  rw [AntiGhost.init] at h
  split at h
  · rename_i hn
    exact ⟨hn, (Except.ok.inj h).symm⟩
  · cases h

theorem AntiGhost.init_ok_iff (debouncer : AntiGhost τ rows cols) (n : Nat) :
    (∃ prepared, Debouncer.init debouncer n = .ok prepared) ↔ n ≤ rows := by
  constructor
  · rintro ⟨prepared, hinit⟩
    obtain ⟨hn, _⟩ := AntiGhost.init_cases hinit
    exact hn
  · exact fun hn => ⟨_, dif_pos hn⟩

theorem AntiGhost.init_of_lt (debouncer : AntiGhost τ rows cols) {n : Nat} (hn : rows < n) :
    Debouncer.init debouncer n = .error .tooManyRows :=
  dif_neg (Nat.not_le.2 hn)

theorem EventLog.init_cases {log : EventLog rows cols capacity} {n : Nat}
    {prepared : Prepared (EventLog rows cols capacity)} (h : log.init n = .ok prepared) :
    ∃ hn : n ≤ rows, prepared = { debouncer := { numRows := n, numRows_le := hn } } := by
  rw [EventLog.init] at h
  split at h
  · rename_i hn
    exact ⟨hn, (Except.ok.inj h).symm⟩
  · cases h

theorem EventLog.init_ok_iff (log : EventLog rows cols capacity) (n : Nat) :
    (∃ prepared, Debouncer.init log n = .ok prepared) ↔ n ≤ rows := by
  constructor
  · rintro ⟨prepared, hinit⟩
    obtain ⟨hn, _⟩ := EventLog.init_cases hinit
    exact hn
  · exact fun hn => ⟨_, dif_pos hn⟩

theorem EventLog.init_of_lt (log : EventLog rows cols capacity) {n : Nat} (hn : rows < n) :
    Debouncer.init log n = .error .tooManyRows :=
  dif_neg (Nat.not_le.2 hn)

theorem AntiGhost.debounce_of_idle (checks : Checks) (now : Instant)
    {debouncer : AntiGhost τ rows cols} (raw cooked : Grid width) (numRows : Nat) (changed : Bool)
    (hn : debouncer.numRows = 0) :
    debouncer.debounce checks now raw cooked numRows changed = .ok { debouncer, cooked } :=
  (if_neg fun h => h.2.1 hn).trans (congrArg Except.ok (if_pos hn))

/-- A cycle over grids of the size in use is not refused. -/
theorem AntiGhost.debounce_self (checks : Checks) (now : Instant)
    (debouncer : AntiGhost τ rows cols) {raw cooked : Grid width} (changed : Bool)
    (hraw : raw.size = debouncer.numRows) (hcooked : cooked.size = debouncer.numRows) :
    debouncer.debounce checks now raw cooked debouncer.numRows changed =
      .ok (debouncer.cover debouncer.numRows now raw cooked changed) := by
  rw [AntiGhost.debounce, sharedRows_self hraw hcooked]
  exact if_neg fun h => h.2.2 rfl

/-- A cycle that is not refused does nothing, or it serves the rows that it covers. -/
theorem AntiGhost.debounce_cases {checks : Checks} {now : Instant}
    {debouncer : AntiGhost τ rows cols} {raw cooked : Grid width} {numRows : Nat} {changed : Bool}
    {cycle : Cycle (AntiGhost τ rows cols) width}
    (h : debouncer.debounce checks now raw cooked numRows changed = .ok cycle) :
    (debouncer.numRows = 0 ∧ cycle = { debouncer, cooked }) ∨
    (debouncer.numRows ≠ 0 ∧ cycle =
      debouncer.served (sharedRows numRows debouncer.numRows raw cooked) now raw cooked
        changed) := by
  rw [AntiGhost.debounce] at h
  split at h
  · cases h
  · rw [← Except.ok.inj h, AntiGhost.cover]
    by_cases hn : debouncer.numRows = 0
    · exact .inl ⟨hn, if_pos hn⟩
    · exact .inr ⟨hn, if_neg hn⟩

theorem AntiGhost.numRows_cover (shared : Nat) (now : Instant) (debouncer : AntiGhost τ rows cols)
    (raw cooked : Grid width) (changed : Bool) :
    (debouncer.cover shared now raw cooked changed).debouncer.numRows = debouncer.numRows := by
  rw [AntiGhost.cover]
  split <;> rfl

theorem AntiGhost.size_cover (shared : Nat) (now : Instant) (debouncer : AntiGhost τ rows cols)
    (raw cooked : Grid width) (changed : Bool) :
    (debouncer.cover shared now raw cooked changed).cooked.size = cooked.size := by
  rw [AntiGhost.cover]
  split
  · rfl
  · exact Sweep.run_size ..

theorem EventLog.numRows_cover (shared : Nat) (now : Instant) (log : EventLog rows cols capacity)
    (raw cooked : Grid width) (changed : Bool) :
    (log.cover shared now raw cooked changed).debouncer.numRows = log.numRows := by
  cases changed <;> rfl

theorem EventLog.size_cover (shared : Nat) (now : Instant) (log : EventLog rows cols capacity)
    (raw cooked : Grid width) (changed : Bool) :
    (log.cover shared now raw cooked changed).cooked.size = cooked.size := by
  cases changed with
  | false => rfl
  | true => exact Grid.size_overwrite ..

theorem Passthrough.size_cover (shared : Nat) (debouncer : Passthrough) (raw cooked : Grid width)
    (changed : Bool) : (debouncer.cover shared raw cooked changed).cooked.size = cooked.size := by
  cases changed with
  | false => rfl
  | true => exact Grid.size_overwrite ..

instance : SteadyDebouncer (AntiGhost τ rows cols) where
  rowsInUse := AntiGhost.numRows
  rowsInUse_init {debouncer n prepared} h := by
    obtain ⟨_, rfl⟩ := AntiGhost.init_cases h
    rfl
  debounce_ok checks now debouncer raw cooked changed hraw hcooked :=
    ⟨_, debouncer.debounce_self checks now changed hraw hcooked, AntiGhost.numRows_cover ..,
      (AntiGhost.size_cover ..).trans hcooked⟩

instance : SteadyDebouncer (EventLog rows cols capacity) where
  rowsInUse := EventLog.numRows
  rowsInUse_init {debouncer n prepared} h := by
    obtain ⟨_, rfl⟩ := EventLog.init_cases h
    rfl
  debounce_ok _ _ _ _ _ _ _ hcooked :=
    ⟨_, rfl, EventLog.numRows_cover .., (EventLog.size_cover ..).trans hcooked⟩

instance : SteadyDebouncer Passthrough where
  rowsInUse := Passthrough.numRows
  rowsInUse_init {debouncer n prepared} h := by
    cases h
    rfl
  debounce_ok _ _ _ _ _ _ _ hcooked := ⟨_, rfl, rfl, (Passthrough.size_cover ..).trans hcooked⟩

end Instances
end KeyMatrix
