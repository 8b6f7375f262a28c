import KeyMatrix.Proofs.Census
import KeyMatrix.Proofs.Coverage
import KeyMatrix.Proofs.Run
import KeyMatrix.Replay

/-! # Matrices never trap

Whether a matrix can be opened depends on the number of rows that its scanner samples, and on
nothing else. From then on it can be updated and looked at in any order, at any place, until it is
closed: no guard is ever hit, with or without checks.
-/
namespace KeyMatrix

/-- What a matrix is asked for between its construction and its end. -/
inductive Request where
  | update (now : Instant)
  | isPressed (r c : Nat)

section Matrices
variable {σ δ : Type} {width rows : Nat}

/-! ## Looking at a key -/

theorem Matrix.numRows_le_size_raw (matrix : Matrix σ δ width rows) :
    matrix.numRows ≤ matrix.raw.size :=
  Nat.le_trans matrix.numRows_le (Nat.le_of_eq matrix.size_raw.symm)

theorem Matrix.numRows_le_size_cooked (matrix : Matrix σ δ width rows) :
    matrix.numRows ≤ matrix.cooked.size :=
  Nat.le_trans matrix.numRows_le (Nat.le_of_eq matrix.size_cooked.symm)

namespace Guarded

/-- The debounced state of a key, which is not looked up outside the matrix. -/
def lookup (matrix : Matrix σ δ width rows) (r c : Nat) : Except Trap Bool :=
  if c < width then do
    let cooked ← take matrix.cooked matrix.numRows
    if r < cooked.size then isPressed .on cooked r c else return false
  else return false

theorem lookup_eq (matrix : Matrix σ δ width rows) (r c : Nat) :
    lookup matrix r c = .ok (matrix.isPressed r c) := by
  rw [lookup, Matrix.isPressed, Matrix.cookedRows]
  by_cases hc : c < width
  · rw [if_pos hc, take_eq matrix.numRows_le_size_cooked, ok_bind]
    by_cases hr : r < (matrix.cooked.take matrix.numRows).size
    · rw [if_pos hr, isPressed_eq .on hr hc]
    · rw [if_neg hr, Grid.isPressed_of_size_le _ (Nat.le_of_not_lt hr)]
      rfl
  · rw [if_neg hc, Grid.isPressed, Row.isPressed_of_width_le _ (Nat.le_of_not_lt hc)]
    rfl

end Guarded

theorem Matrix.isPressed_iff (matrix : Matrix σ δ width rows) (r c : Nat) :
    matrix.isPressed r c = true ↔ r < matrix.numRows ∧ c < width ∧
      (matrix.cookedRows.row r).bits.getLsbD c = true := by
  constructor
  · intro h
    have hr := Grid.lt_size_of_isPressed h
    have hc : c < width := by
      apply Nat.lt_of_not_le
      intro hc
      rw [isPressed, Grid.isPressed, Row.isPressed_of_width_le _ hc] at h
      cases h
    rw [cookedRows, Grid.size_take] at hr
    exact ⟨Nat.lt_of_lt_of_le hr (Nat.min_le_left ..), hc, h⟩
  · exact fun h => h.2.2

/-! ## Serving requests -/

theorem Matrix.size_cooked_overwrite (matrix : Matrix σ δ width rows) (cycle : Cycle δ width) :
    (matrix.cooked.overwrite matrix.numRows cycle.cooked).size = rows :=
  (Grid.size_overwrite ..).trans matrix.size_cooked

variable [Scanner σ width] [Debouncer δ] [InPlaceDebouncer δ]

namespace Guarded

/-- One scan cycle of a debouncer, carried out step by step with checks. -/
def debounce (now : Instant) (debouncer : δ) (raw cooked : Grid width) (numRows : Nat)
    (changed : Bool) : Except Trap (Cycle δ width) :=
  match (InPlaceDebouncer.debounce .on now raw numRows changed).run { debouncer, cooked } with
  | .ok () ⟨debouncer, cooked, log⟩ => .ok { debouncer, cooked, log }
  | .error trap _ => .error trap

/-- Run one scan cycle. -/
def update (now : Instant) (matrix : Matrix σ δ width rows) :
    Except Trap (Matrix.Updated σ δ width rows) := do
  let n := matrix.numRows
  let scan := Scanner.scan matrix.scanner (← take matrix.raw n)
  let raw := matrix.raw.overwrite n scan.raw
  let cycle ← debounce now matrix.debouncer
    (← take raw n) (← take matrix.cooked n) n scan.changed
  let cooked := matrix.cooked.overwrite n cycle.cooked
  return {
    matrix := { matrix with
      scanner := scan.scanner
      debouncer := cycle.debouncer
      raw, cooked
      size_raw := (Grid.size_overwrite ..).trans matrix.size_raw
      size_cooked := matrix.size_cooked_overwrite cycle }
    changed := matrix.cooked != cooked
    log := cycle.log }

/-- The matrix after a request. -/
def serve (matrix : Matrix σ δ width rows) : Request → Except Trap (Matrix σ δ width rows)
  | .update now => return (← update now matrix).matrix
  | .isPressed r c => do
    let _ ← lookup matrix r c
    return matrix

/-- The matrix after several requests in order. -/
def serveAll (matrix : Matrix σ δ width rows) (requests : List Request) :
    Except Trap (Matrix σ δ width rows) :=
  requests.foldlM serve matrix

/-- Open a matrix, ask it for something and close it. -/
def lifetime (width rows : Nat) [Scanner σ width] (scanner : σ) (debouncer : δ)
    (requests : List Request) : Except Trap (Prepared δ) := do
  let opened ← (Matrix.ofScanner scanner debouncer :
    Except Fault (Matrix.Opened σ δ width rows))
  return (← serveAll opened.matrix requests).close

variable [SteadyDebouncer δ] [CoveringDebouncer δ]

/-- A cycle over the rows in use hits no guard, and comes to the same with or without checks. -/
theorem debounce_ok (hcols : InPlaceDebouncer.cols δ ≤ width) (now : Instant) (debouncer : δ)
    {raw cooked : Grid width} (changed : Bool)
    (hraw : raw.size = SteadyDebouncer.rowsInUse debouncer)
    (hcooked : cooked.size = SteadyDebouncer.rowsInUse debouncer) :
    ∃ cycle, debounce now debouncer raw cooked (SteadyDebouncer.rowsInUse debouncer) changed =
        .ok cycle ∧
      ∀ checks, Debouncer.debounce checks now debouncer raw cooked
        (SteadyDebouncer.rowsInUse debouncer) changed = .ok cycle := by
  have hcycle (checks : Checks) := CoveringDebouncer.debounce_eq checks now debouncer raw cooked
    (SteadyDebouncer.rowsInUse debouncer) changed
  simp only [sharedRows_self hraw hcooked, ne_eq, not_true_eq_false, and_false, if_false] at hcycle
  refine ⟨_, ?_, hcycle⟩
  rw [debounce, InPlaceDebouncer.run_debounce hcols, hcycle, Except.map, Desk.settle,
    List.nil_append]

theorem update_ok {matrix : Matrix σ δ width rows} (hcols : InPlaceDebouncer.cols δ ≤ width)
    (hready : matrix.Ready) (now : Instant) :
    ∃ updated, update now matrix = .ok updated ∧
      ∀ checks, matrix.update checks now = .ok updated := by
  obtain ⟨cycle, hguarded, hcycle⟩ := debounce_ok hcols now matrix.debouncer
    (Scanner.scan matrix.scanner matrix.rawRows).changed hready.size_rescanned
    hready.size_cookedRows
  rw [hready] at hguarded hcycle
  rw [Matrix.rescanned, Matrix.rawRows, Matrix.cookedRows] at hguarded hcycle
  have hrescanned : matrix.numRows ≤ (matrix.raw.overwrite matrix.numRows
      (Scanner.scan matrix.scanner (matrix.raw.take matrix.numRows)).raw).size := by
    rw [Grid.size_overwrite]
    exact matrix.numRows_le_size_raw
  obtain ⟨updated, hupdated, _⟩ := hready.update_ok .on now
  refine ⟨updated, ?_, fun checks => ?_⟩
  · simp only [Matrix.update, hcycle] at hupdated
    cases hupdated
    simp only [update, take_eq matrix.numRows_le_size_raw, take_eq matrix.numRows_le_size_cooked,
      take_eq hrescanned, ok_bind, hguarded]
    rfl
  · rw [← hupdated]
    simp only [Matrix.update, hcycle]

/-- A request leaves a matrix as ready as it was. -/
theorem serve_ok {matrix : Matrix σ δ width rows} (hcols : InPlaceDebouncer.cols δ ≤ width)
    (hready : matrix.Ready) (request : Request) :
    ∃ next, serve matrix request = .ok next ∧ next.Ready ∧ next.numRows = matrix.numRows := by
  cases request with
  | update now =>
    obtain ⟨updated, hupdate, hupdated⟩ := update_ok hcols hready now
    obtain ⟨_, hnext, hnextready⟩ := hready.update_ok .on now
    obtain ⟨_, _, hn, _⟩ := Matrix.update_cases (hupdated .on)
    rw [hupdated .on] at hnext
    cases hnext
    refine ⟨updated.matrix, ?_, hnextready, hn⟩
    rw [serve, hupdate]
    rfl
  | isPressed r c =>
    refine ⟨matrix, ?_, hready, rfl⟩
    rw [serve, lookup_eq]
    rfl

theorem serveAll_ok {matrix : Matrix σ δ width rows} (hcols : InPlaceDebouncer.cols δ ≤ width)
    (hready : matrix.Ready) (requests : List Request) :
    ∃ last, serveAll matrix requests = .ok last ∧ last.Ready ∧ last.numRows = matrix.numRows := by
  induction requests generalizing matrix with
  | nil => exact ⟨matrix, rfl, hready, rfl⟩
  | cons request requests ih =>
    obtain ⟨next, hserve, hnext, hn⟩ := serve_ok hcols hready request
    obtain ⟨last, hserves, hlast, hm⟩ := ih hnext
    refine ⟨last, ?_, hlast, hm.trans hn⟩
    rw [serveAll, List.foldlM_cons, hserve, ok_bind]
    exact hserves

end Guarded

/-! ## The life of a matrix -/

/-- Whatever such a matrix is asked for, no guard is hit. -/
structure Matrix.Trapless (matrix : Matrix σ δ width rows) : Prop where
  /-- An update hits no guard, and does the same with or without checks. -/
  update_ok (now : Instant) : ∃ updated, Guarded.update now matrix = .ok updated ∧
    ∀ checks, matrix.update checks now = .ok updated
  /-- A key may be anywhere. It is pressed if it lies in the matrix and its cooked bit is set. -/
  isPressed_ok (r c : Nat) : ∃ pressed, Guarded.lookup matrix r c = .ok pressed ∧
    matrix.isPressed r c = pressed ∧
    (pressed = true ↔ r < matrix.numRows ∧ c < width ∧
      (matrix.cookedRows.row r).bits.getLsbD c = true)

variable [SteadyDebouncer δ] [CoveringDebouncer δ]

theorem Matrix.Ready.trapless {matrix : Matrix σ δ width rows} (hready : matrix.Ready)
    (hcols : InPlaceDebouncer.cols δ ≤ width) : matrix.Trapless where
  update_ok := Guarded.update_ok hcols hready
  isPressed_ok r c := ⟨_, Guarded.lookup_eq matrix r c, rfl, matrix.isPressed_iff r c⟩

/-- Matrices that can be opened for just the scanners whose rows fit, and are fit for any life from
then on. -/
structure NeverTraps (σ δ : Type) (width rows : Nat) [Scanner σ width] [Debouncer δ]
    [InPlaceDebouncer δ] (fits : Nat → Prop) : Prop where
  opens_iff (scanner : σ) (debouncer : δ) :
    (∃ opened : Matrix.Opened σ δ width rows, Matrix.ofScanner scanner debouncer = .ok opened) ↔
      Scanner.numRows scanner ≤ rows ∧ fits (Scanner.numRows scanner)
  lives {scanner : σ} {debouncer : δ} {opened : Matrix.Opened σ δ width rows} :
    Matrix.ofScanner scanner debouncer = .ok opened → ∀ requests : List Request,
      ∃ last, Guarded.serveAll opened.matrix requests = .ok last ∧
        Guarded.lifetime width rows scanner debouncer requests = .ok last.close ∧
        last.numRows = Scanner.numRows scanner ∧ last.Trapless

theorem neverTraps_of_init_iff {fits : Nat → Prop} (hcols : InPlaceDebouncer.cols δ ≤ width)
    (hfits : ∀ (debouncer : δ) (n : Nat),
      (∃ prepared, Debouncer.init debouncer n = .ok prepared) ↔ fits n) :
    NeverTraps σ δ width rows fits where
  opens_iff scanner debouncer := by
    rw [Matrix.ofScanner_ok_iff, hfits]
  lives {scanner debouncer opened} hopened requests := by
    obtain ⟨_, _, hn, _⟩ := Matrix.ofScanner_cases hopened
    obtain ⟨last, hserves, hready, hm⟩ :=
      Guarded.serveAll_ok hcols (Matrix.ready_of_ofScanner hopened) requests
    refine ⟨last, hserves, ?_, hm.trans hn, hready.trapless hcols⟩
    rw [Guarded.lifetime, hopened, lift_ok, ok_bind, hserves]
    rfl

end Matrices

/-! ## The three debouncers -/

/-- A matrix can be opened if and only if its scanner samples no more rows than the matrix and its
debouncer have room for; a debouncer that just copies has room for any number. From then on no
sequence of requests hits a guard. -/
theorem matrices_never_trap (σ τ : Type) {width : Nat} [Scanner σ width] [TimeSource τ]
    (rows room cols capacity : Nat) (hcols : cols ≤ width) :
    NeverTraps σ (AntiGhost τ room cols) width rows (· ≤ room) ∧
      NeverTraps σ (EventLog room cols capacity) width rows (· ≤ room) ∧
      NeverTraps σ Passthrough width rows (fun _ => True) := by
  refine ⟨?_, ?_, ?_⟩
  · exact neverTraps_of_init_iff hcols AntiGhost.init_ok_iff
  · exact neverTraps_of_init_iff hcols EventLog.init_ok_iff
  · exact neverTraps_of_init_iff (Nat.zero_le width) fun _ _ => iff_of_true ⟨_, rfl⟩ trivial

/-- The first of `n` rows holds a key. -/
def heldKey (n : Nat) : FrameScanner 8 :=
  { numRows := n, frames := [{ grid := .ofList [⟨1⟩] }] }

/-- The debouncer has no room for four rows. With two rows the key is accepted, and nothing happens
when a key far outside the matrix is looked up. -/
theorem heldKey_never_traps :
    let debouncer : AntiGhost FrameTimer 3 3 := .ofTimer (.uniform 0) {}
    let requests : List Request := [.update ⟨0⟩, .isPressed 7 200, .update ⟨0⟩]
    3 ≤ 8 ∧
      (¬ ∃ opened : Matrix.Opened (FrameScanner 8) (AntiGhost FrameTimer 3 3) 8 4,
        Matrix.ofScanner (heldKey 4) debouncer = .ok opened) ∧
      ∃ opened : Matrix.Opened (FrameScanner 8) (AntiGhost FrameTimer 3 3) 8 4,
        Matrix.ofScanner (heldKey 2) debouncer = .ok opened ∧
        ∃ last, Guarded.serveAll opened.matrix requests = .ok last ∧
          Guarded.lookup last 0 0 = .ok true ∧ Guarded.lookup last 7 200 = .ok false := by
  intro debouncer requests
  have hcols : 3 ≤ 8 := by decide
  have hmatrix := (matrices_never_trap (FrameScanner 8) FrameTimer 4 3 3 0 hcols).1
  have hrefused : ¬ ∃ opened : Matrix.Opened (FrameScanner 8) (AntiGhost FrameTimer 3 3) 8 4,
      Matrix.ofScanner (heldKey 4) debouncer = .ok opened := by
    rw [hmatrix.opens_iff]
    decide
  obtain ⟨opened, hopened⟩ := (hmatrix.opens_iff (heldKey 2) debouncer).2 (by decide)
  obtain ⟨last, hlast, _, _, htrapless⟩ := hmatrix.lives hopened requests
  have hpressed : (do
      let opened ← (Matrix.ofScanner (heldKey 2) debouncer :
        Except Fault (Matrix.Opened _ _ 8 4))
      Guarded.lookup (← Guarded.serveAll opened.matrix requests) 0 0 : Except Trap Bool) =
      .ok true := by decide +kernel
  rw [hopened, lift_ok, ok_bind, hlast, ok_bind] at hpressed
  obtain ⟨pressed, hlookup, _, hiff⟩ := htrapless.isPressed_ok 7 200
  have hfalse : pressed = false :=
    Bool.eq_false_iff.2 fun h => absurd (hiff.1 h).2.1 (by decide)
  exact ⟨hcols, hrefused, opened, hopened, last, hlast, hpressed, hfalse ▸ hlookup⟩

end KeyMatrix
