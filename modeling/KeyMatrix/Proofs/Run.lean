import KeyMatrix.Matrix
import KeyMatrix.Proofs.SteadyDebouncer

/-! # Runs of a matrix

A run opens a matrix for a scanner and a debouncer and then updates it once per cycle,
without end; its first cycles are what a shorter run consists of. The scanner is any state
machine, so that the grids and hints of a run are arbitrary. Seen through the rows in use,
every update is one call of the debouncer. A matrix that has been opened never refuses an
update, so that it always has a run.
-/
namespace KeyMatrix

variable {σ δ : Type} {width rows : Nat} [Scanner σ width] [Debouncer δ]

/-- The matrix with the given number is the one before the cycle of this number. -/
structure Run (σ δ : Type) (width rows : Nat) [Scanner σ width] [Debouncer δ] where
  checks : Checks
  scanner : σ
  debouncer : δ
  /-- The time of every cycle. -/
  clock : Nat → Instant
  matrix : Nat → Matrix σ δ width rows
  /-- What the debouncer had to report when the matrix was opened. -/
  greeting : List Message
  /-- What the update of every cycle answers. -/
  changed : Nat → Bool
  log : Nat → List Message
  opened : Matrix.ofScanner scanner debouncer = .ok ⟨matrix 0, greeting⟩
  updated : ∀ k, (matrix k).update checks (clock k) = .ok ⟨matrix (k + 1), changed k, log k⟩

namespace Matrix

theorem ofScanner_cases {scanner : σ} {debouncer : δ} {opened : Opened σ δ width rows}
    (h : ofScanner scanner debouncer = .ok opened) :
    ∃ prepared, Debouncer.init debouncer (Scanner.numRows scanner) = .ok prepared ∧
      opened.matrix.numRows = Scanner.numRows scanner ∧
      opened.matrix.scanner = scanner ∧
      opened.matrix.debouncer = prepared.debouncer ∧
      opened.matrix.raw = .released rows ∧
      opened.matrix.cooked = .released rows ∧
      opened.log = prepared.log := by
  rw [ofScanner] at h
  split at h
  · obtain ⟨prepared, hinit, hopened⟩ := bind_eq_ok.1 h
    cases hopened
    exact ⟨prepared, hinit, rfl, rfl, rfl, rfl, rfl, rfl⟩
  · cases h

/-- A matrix can be opened if it has room for the rows of its scanner, and its debouncer can be
prepared for them. -/
theorem ofScanner_ok_iff (scanner : σ) (debouncer : δ) :
    (∃ opened : Opened σ δ width rows, ofScanner scanner debouncer = .ok opened) ↔
      Scanner.numRows scanner ≤ rows ∧
        ∃ prepared, Debouncer.init debouncer (Scanner.numRows scanner) = .ok prepared := by
  constructor
  · rintro ⟨opened, hopened⟩
    obtain ⟨prepared, hinit, hn, _⟩ := ofScanner_cases hopened
    exact ⟨hn ▸ opened.matrix.numRows_le, prepared, hinit⟩
  · rintro ⟨hn, prepared, hinit⟩
    rw [ofScanner, dif_pos hn, hinit]
    exact ⟨_, rfl⟩

/-- What a scan leaves in the raw grid. -/
def rescanned (matrix : Matrix σ δ width rows) : Grid width :=
  matrix.raw.overwrite matrix.numRows (Scanner.scan matrix.scanner matrix.rawRows).raw

theorem update_cases {checks : Checks} {now : Instant} {matrix : Matrix σ δ width rows}
    {updated : Updated σ δ width rows} (h : matrix.update checks now = .ok updated) :
    ∃ cycle, Debouncer.debounce checks now matrix.debouncer
        (matrix.rescanned.take matrix.numRows) matrix.cookedRows matrix.numRows
        (Scanner.scan matrix.scanner matrix.rawRows).changed = .ok cycle ∧
      updated.matrix.numRows = matrix.numRows ∧
      updated.matrix.scanner = (Scanner.scan matrix.scanner matrix.rawRows).scanner ∧
      updated.matrix.debouncer = cycle.debouncer ∧
      updated.matrix.raw = matrix.rescanned ∧
      updated.matrix.cooked = matrix.cooked.overwrite matrix.numRows cycle.cooked ∧
      updated.changed = (matrix.cooked != updated.matrix.cooked) ∧
      updated.log = cycle.log := by
  obtain ⟨cycle, hcycle, hupdated⟩ := bind_eq_ok.1 h
  cases hupdated
  exact ⟨cycle, hcycle, rfl, rfl, rfl, rfl, rfl, rfl, rfl⟩

end Matrix

namespace Run

variable (run : Run σ δ width rows)

/-- The rows in use. -/
def numRows : Nat := Scanner.numRows run.scanner

/-- The raw grid that the scan of cycle `k` finds. -/
def rawBefore (k : Nat) : Grid width := (run.matrix k).rawRows

/-- The raw grid that cycle `k` works on. -/
def raw (k : Nat) : Grid width := (run.matrix (k + 1)).rawRows

/-- The debounced grid before cycle `k`. -/
def cooked (k : Nat) : Grid width := (run.matrix k).cookedRows

/-- The hint that the scanner gives in cycle `k`. -/
def hint (k : Nat) : Bool := (Scanner.scan (run.matrix k).scanner (run.matrix k).rawRows).changed

/-- In the first `n` cycles the scanner hints at every change of the raw grid. -/
def Honest (n : Nat) : Prop := ∀ k < n, run.raw k ≠ run.rawBefore k → run.hint k = true

instance (n : Nat) : Decidable (run.Honest n) :=
  inferInstanceAs (Decidable (∀ k < n, run.raw k ≠ run.rawBefore k → run.hint k = true))

variable {run} in
theorem Honest.raw_eq {n k : Nat} (honest : run.Honest n) (hk : k < n)
    (hh : run.hint k = false) : run.raw k = run.rawBefore k := by
  apply Decidable.byContradiction
  intro hne
  rw [honest k hk hne] at hh
  cases hh

theorem rawBefore_succ (k : Nat) : run.rawBefore (k + 1) = run.raw k := rfl

@[simp] theorem numRows_matrix (k : Nat) : (run.matrix k).numRows = run.numRows := by
  induction k with
  | zero =>
    obtain ⟨_, _, hn, _⟩ := Matrix.ofScanner_cases run.opened
    exact hn
  | succ k ih =>
    obtain ⟨_, _, hn, _⟩ := Matrix.update_cases (run.updated k)
    exact hn.trans ih

theorem numRows_le : run.numRows ≤ rows := by
  rw [← run.numRows_matrix 0]
  exact (run.matrix 0).numRows_le

theorem size_rawBefore (k : Nat) : (run.rawBefore k).size = run.numRows := by
  rw [rawBefore, Matrix.rawRows, Grid.size_take, (run.matrix k).size_raw, numRows_matrix]
  exact Nat.min_eq_left run.numRows_le

theorem size_raw (k : Nat) : (run.raw k).size = run.numRows := run.size_rawBefore (k + 1)

theorem size_cooked (k : Nat) : (run.cooked k).size = run.numRows := by
  rw [cooked, Matrix.cookedRows, Grid.size_take, (run.matrix k).size_cooked, numRows_matrix]
  exact Nat.min_eq_left run.numRows_le

theorem rawBefore_zero : run.rawBefore 0 = .released run.numRows := by
  obtain ⟨_, _, _, _, _, hraw, _⟩ := Matrix.ofScanner_cases run.opened
  change (run.matrix 0).raw = _ at hraw
  rw [rawBefore, Matrix.rawRows, hraw, Grid.take_released, numRows_matrix,
    Nat.min_eq_left run.numRows_le]

theorem cooked_zero : run.cooked 0 = .released run.numRows := by
  obtain ⟨_, _, _, _, _, _, hcooked, _⟩ := Matrix.ofScanner_cases run.opened
  change (run.matrix 0).cooked = _ at hcooked
  rw [cooked, Matrix.cookedRows, hcooked, Grid.take_released, numRows_matrix,
    Nat.min_eq_left run.numRows_le]

theorem init_debouncer :
    Debouncer.init run.debouncer run.numRows = .ok ⟨(run.matrix 0).debouncer, run.greeting⟩ := by
  obtain ⟨prepared, hinit, _, _, hd, _, _, hlog⟩ := Matrix.ofScanner_cases run.opened
  change (run.matrix 0).debouncer = _ at hd
  change run.greeting = _ at hlog
  rw [hd, hlog]
  exact hinit

section Steady
variable [SteadyDebouncer δ]

/-- What an update does, once it is known how many rows the debouncer serves. -/
private theorem debounced_of_rowsInUse (k : Nat)
    (huse : SteadyDebouncer.rowsInUse (run.matrix k).debouncer = run.numRows) :
    Debouncer.debounce run.checks (run.clock k) (run.matrix k).debouncer (run.raw k)
        (run.cooked k) run.numRows (run.hint k) =
      .ok ⟨(run.matrix (k + 1)).debouncer, run.cooked (k + 1), run.log k⟩ ∧
    SteadyDebouncer.rowsInUse (run.matrix (k + 1)).debouncer = run.numRows ∧
    run.changed k = (run.cooked k != run.cooked (k + 1)) := by
  obtain ⟨cycle, hcycle, _, _, hdeb, hraw, hcooked, hchanged, hlog⟩ :=
    Matrix.update_cases (run.updated k)
  dsimp only at hdeb hraw hcooked hchanged hlog
  have hraw' : (run.matrix k).rescanned.take (run.matrix k).numRows = run.raw k := by
    rw [raw, Matrix.rawRows, hraw, numRows_matrix, numRows_matrix]
  rw [hraw', numRows_matrix] at hcycle
  obtain ⟨cycle', hcycle', huse', hsize⟩ := SteadyDebouncer.debounce_ok run.checks (run.clock k)
    (run.matrix k).debouncer (run.hint k) ((run.size_raw k).trans huse.symm)
    ((run.size_cooked k).trans huse.symm)
  rw [huse] at hcycle' huse' hsize
  -- The contract of the debouncer and the update speak of the same answer.
  have hanswer : cycle' = cycle := Except.ok.inj (hcycle'.symm.trans hcycle)
  subst hanswer
  have hn : run.numRows ≤ (run.matrix k).cooked.size := by
    rw [(run.matrix k).size_cooked]
    exact run.numRows_le
  have hnext : run.cooked (k + 1) = cycle'.cooked := by
    rw [cooked, Matrix.cookedRows, hcooked, numRows_matrix, numRows_matrix,
      Grid.take_overwrite _ hn hsize]
  have hsame : (run.matrix k).cooked = (run.matrix (k + 1)).cooked ↔
      run.cooked k = run.cooked (k + 1) := by
    rw [hnext, cooked, Matrix.cookedRows, hcooked, numRows_matrix, eq_comm,
      Grid.overwrite_eq_self_iff _ hn hsize, eq_comm]
  refine ⟨?_, ?_, ?_⟩
  · rw [hdeb, hnext, hlog]
    exact hcycle'
  · rw [hdeb]
    exact huse'
  · rw [hchanged, Bool.eq_iff_iff, bne_iff_ne, bne_iff_ne, ne_eq, ne_eq, hsame]

theorem rowsInUse_debouncer (k : Nat) :
    SteadyDebouncer.rowsInUse (run.matrix k).debouncer = run.numRows := by
  induction k with
  | zero => exact SteadyDebouncer.rowsInUse_init run.init_debouncer
  | succ k ih => exact (run.debounced_of_rowsInUse k ih).2.1

/-- A cycle is one call of the debouncer over the rows in use. -/
theorem debounced (k : Nat) :
    Debouncer.debounce run.checks (run.clock k) (run.matrix k).debouncer (run.raw k)
        (run.cooked k) run.numRows (run.hint k) =
      .ok ⟨(run.matrix (k + 1)).debouncer, run.cooked (k + 1), run.log k⟩ :=
  (run.debounced_of_rowsInUse k (run.rowsInUse_debouncer k)).1

/-- An update tells whether any row in use changed. -/
theorem changed_eq (k : Nat) : run.changed k = (run.cooked k != run.cooked (k + 1)) :=
  (run.debounced_of_rowsInUse k (run.rowsInUse_debouncer k)).2.2

end Steady

end Run

/-! ## Every matrix that can be opened has a run -/

section Existence
variable [SteadyDebouncer δ]

/-- The debouncer serves exactly the rows of the matrix. -/
def Matrix.Ready (matrix : Matrix σ δ width rows) : Prop :=
  SteadyDebouncer.rowsInUse matrix.debouncer = matrix.numRows

theorem Matrix.ready_of_ofScanner {scanner : σ} {debouncer : δ} {opened : Opened σ δ width rows}
    (h : ofScanner scanner debouncer = .ok opened) : opened.matrix.Ready := by
  obtain ⟨prepared, hinit, hn, _, hd, _⟩ := ofScanner_cases h
  rw [Ready, hd, hn]
  exact SteadyDebouncer.rowsInUse_init hinit

theorem Matrix.Ready.size_rescanned {matrix : Matrix σ δ width rows} (h : matrix.Ready) :
    (matrix.rescanned.take matrix.numRows).size =
      SteadyDebouncer.rowsInUse matrix.debouncer := by
  rw [Grid.size_take, rescanned, Grid.size_overwrite, matrix.size_raw, h]
  exact Nat.min_eq_left matrix.numRows_le

omit [Scanner σ width] in
theorem Matrix.Ready.size_cookedRows {matrix : Matrix σ δ width rows} (h : matrix.Ready) :
    matrix.cookedRows.size = SteadyDebouncer.rowsInUse matrix.debouncer := by
  rw [cookedRows, Grid.size_take, matrix.size_cooked, h]
  exact Nat.min_eq_left matrix.numRows_le

theorem Matrix.Ready.update_ok {matrix : Matrix σ δ width rows} (h : matrix.Ready)
    (checks : Checks) (now : Instant) :
    ∃ updated, matrix.update checks now = .ok updated ∧ updated.matrix.Ready := by
  obtain ⟨cycle, hcycle, huse, _⟩ := SteadyDebouncer.debounce_ok checks now matrix.debouncer
    (Scanner.scan matrix.scanner matrix.rawRows).changed h.size_rescanned h.size_cookedRows
  rw [h] at hcycle huse
  rw [rescanned, rawRows, cookedRows] at hcycle
  simp only [update, hcycle, bind, Except.bind, pure, Except.pure]
  exact ⟨_, rfl, huse⟩

/-- The update of a matrix that is ready. -/
def Matrix.next (checks : Checks) (now : Instant)
    (matrix : { matrix : Matrix σ δ width rows // matrix.Ready }) :
    { updated : Updated σ δ width rows //
      matrix.val.update checks now = .ok updated ∧ updated.matrix.Ready } :=
  match h : matrix.val.update checks now with
  | .ok updated => ⟨updated, rfl, by
      obtain ⟨_, hok, hready⟩ := matrix.property.update_ok checks now
      rw [h] at hok
      cases hok
      exact hready⟩
  | .error _ => False.elim (by
      obtain ⟨_, hok, _⟩ := matrix.property.update_ok checks now
      rw [h] at hok
      cases hok)

/-- The matrices between the cycles. -/
def Matrix.iterate (checks : Checks) (clock : Nat → Instant)
    (first : { matrix : Matrix σ δ width rows // matrix.Ready }) :
    Nat → { matrix : Matrix σ δ width rows // matrix.Ready }
  | 0 => first
  | k + 1 =>
    let updated := next checks (clock k) (iterate checks clock first k)
    ⟨updated.val.matrix, updated.property.2⟩

/-- The run that begins with an opened matrix. -/
def Run.ofOpened (checks : Checks) (clock : Nat → Instant) {scanner : σ} {debouncer : δ}
    {opened : Matrix.Opened σ δ width rows}
    (h : Matrix.ofScanner scanner debouncer = .ok opened) : Run σ δ width rows where
  checks := checks
  scanner := scanner
  debouncer := debouncer
  clock := clock
  matrix k := (Matrix.iterate checks clock ⟨_, Matrix.ready_of_ofScanner h⟩ k).val
  greeting := opened.log
  changed k := (Matrix.next checks (clock k)
    (Matrix.iterate checks clock ⟨_, Matrix.ready_of_ofScanner h⟩ k)).val.changed
  log k := (Matrix.next checks (clock k)
    (Matrix.iterate checks clock ⟨_, Matrix.ready_of_ofScanner h⟩ k)).val.log
  opened := h
  updated k := (Matrix.next checks (clock k)
    (Matrix.iterate checks clock ⟨_, Matrix.ready_of_ofScanner h⟩ k)).property.1

/-- The run of a matrix that can be opened. -/
def Run.ofScanner (checks : Checks) (clock : Nat → Instant) (scanner : σ) (debouncer : δ)
    (h : (Matrix.ofScanner scanner debouncer :
      Except Fault (Matrix.Opened σ δ width rows)).isOk = true) : Run σ δ width rows :=
  match hm : (Matrix.ofScanner scanner debouncer : Except Fault (Matrix.Opened σ δ width rows)) with
  | .ok _ => Run.ofOpened checks clock hm
  | .error _ => False.elim (by
      rw [hm] at h
      cases h)

end Existence
end KeyMatrix
