import KeyMatrix.Proofs.Coverage
import KeyMatrix.Proofs.Run
import KeyMatrix.Replay

/-! # Wider rows

Rows may have more columns than are used. Grids of wider rows that hold the same keys lead a
debouncer through the same states: it reports the same, and its cooked grid is again the same one
with wider rows. A matrix cannot tell the difference either.
-/
namespace KeyMatrix

section Widen
variable {δ : Type} {width : Nat}

/-- The same call over grids of wider rows. -/
def Call.widen (width' : Nat) : Call width → Call width'
  | .init n => .init n
  | .free => .free
  | .debounce now raw cooked numRows changed =>
    .debounce now (raw.widen width') (cooked.widen width') numRows changed

/-- The same answer with a cooked grid of wider rows. -/
def Answer.widen (width' : Nat) : Answer δ width → Answer δ width'
  | .prepared answer => .prepared answer
  | .cycled cycle => .cycled (cycle.map (Grid.widen width'))

/-- The same desk with a cooked grid of wider rows. -/
def Desk.widen (width' : Nat) (desk : Desk δ width) : Desk δ width' where
  debouncer := desk.debouncer
  cooked := desk.cooked.widen width'
  log := desk.log

/-- The same outcome with a cooked grid of wider rows. -/
def Outcome.widen (width' : Nat) (outcome : Outcome δ width) : Outcome δ width' where
  call := outcome.call.widen width'
  trap? := outcome.trap?
  desk := outcome.desk.widen width'

namespace Call

theorem desk_widen (width' : Nat) (debouncer : δ) (call : Call width) :
    (call.widen width').desk debouncer = (call.desk debouncer).widen width' := by
  cases call with
  | init n => simp only [widen, desk, Desk.widen, Grid.widen_released]
  | free => simp only [widen, desk, Desk.widen, Grid.widen_released]
  | debounce => rfl

theorem outcomeOf_widen (width' : Nat) (debouncer : δ) (call : Call width)
    (answer : Except Fault (Answer δ width)) :
    (call.widen width').outcomeOf debouncer (answer.map (Answer.widen width')) =
      (call.outcomeOf debouncer answer).widen width' := by
  cases answer with
  | error fault => simp only [Except.map, outcomeOf, Outcome.widen, desk_widen]
  | ok answer =>
    cases answer with
    | prepared prepared =>
      simp only [Except.map, Answer.widen, outcomeOf, Outcome.widen, desk_widen, Desk.widen]
    | cycled cycle => rfl

end Call

end Widen

namespace Run

variable {σ σ' δ : Type} {width width' rows : Nat} [Scanner σ width] [Scanner σ' width']
variable [Debouncer δ]

/-- For `n` cycles the second run is given what the first one is given, in wider rows. -/
structure WidenedInput (a : Run σ δ width rows) (b : Run σ' δ width' rows) (n : Nat) : Prop where
  checks : b.checks = a.checks
  debouncer : b.debouncer = a.debouncer
  numRows : b.numRows = a.numRows
  clock : ∀ k < n, b.clock k = a.clock k
  hint : ∀ k < n, b.hint k = a.hint k
  raw : ∀ k < n, b.raw k = (a.raw k).widen width'

/-- For `n` cycles the second run is the first one in wider rows. -/
structure WidenedCourse (a : Run σ δ width rows) (b : Run σ' δ width' rows) (n : Nat) : Prop where
  greeting_eq : b.greeting = a.greeting
  debouncer_eq : ∀ k ≤ n, (b.matrix k).debouncer = (a.matrix k).debouncer
  cooked_eq : ∀ k ≤ n, b.cooked k = (a.cooked k).widen width'
  isPressed_eq : ∀ k ≤ n, ∀ r c, (b.matrix k).isPressed r c = (a.matrix k).isPressed r c
  changed_eq : ∀ k < n, b.changed k = a.changed k
  log_eq : ∀ k < n, b.log k = a.log k

theorem start_widen {n : Nat} {a : Run σ δ width rows} {b : Run σ' δ width' rows}
    (input : a.WidenedInput b n) :
    b.greeting = a.greeting ∧ (b.matrix 0).debouncer = (a.matrix 0).debouncer ∧
      b.cooked 0 = (a.cooked 0).widen width' := by
  have hinit := b.init_debouncer
  rw [input.debouncer, input.numRows, a.init_debouncer] at hinit
  obtain ⟨hdebouncer, hgreeting⟩ := Prepared.mk.inj (Except.ok.inj hinit)
  refine ⟨hgreeting.symm, hdebouncer.symm, ?_⟩
  rw [b.cooked_zero, a.cooked_zero, Grid.widen_released, input.numRows]

end Run

/-- Debouncers that do the same with wider rows. -/
structure WidthBlind (δ : Type) [Debouncer δ] [InPlaceDebouncer δ] (width width' : Nat) : Prop where
  /-- A sequence of calls is answered the same, also where calls are refused. -/
  answers_widen (checks : Checks) (debouncer : δ) (calls : List (Call width)) :
    Call.answers checks debouncer (calls.map (Call.widen width')) =
      (Call.answers checks debouncer calls).map (Except.map (Answer.widen width'))
  /-- Carried out step by step, the calls have the same outcomes. -/
  outcomes_widen (checks : Checks) (debouncer : δ) (calls : List (Call width)) :
    Call.outcomes checks debouncer (calls.map (Call.widen width')) =
        (Call.outcomes checks debouncer calls).map (Outcome.widen width') ∧
      Call.leftBy checks debouncer (calls.map (Call.widen width')) =
        Call.leftBy checks debouncer calls
  /-- A matrix takes the same course. -/
  course_widen {σ σ' : Type} [Scanner σ width] [Scanner σ' width'] {rows n : Nat}
    {a : Run σ δ width rows} {b : Run σ' δ width' rows} :
    a.WidenedInput b n → a.WidenedCourse b n

section WidthBlind
variable {δ : Type} [Debouncer δ] [SteadyDebouncer δ] [InPlaceDebouncer δ] [CoveringDebouncer δ]
variable {width width' : Nat}

/-! ## Calls -/

theorem debounce_widen (hwidth : width ≤ width') (hcols : InPlaceDebouncer.cols δ ≤ width)
    (checks : Checks) (now : Instant) (debouncer : δ) (raw cooked : Grid width) (numRows : Nat)
    (changed : Bool) :
    Debouncer.debounce checks now debouncer (raw.widen width') (cooked.widen width') numRows
        changed =
      (Debouncer.debounce checks now debouncer raw cooked numRows changed).map
        (·.map (Grid.widen width')) := by
  have hshared : sharedRows numRows (SteadyDebouncer.rowsInUse debouncer) (raw.widen width')
      (cooked.widen width') = sharedRows numRows (SteadyDebouncer.rowsInUse debouncer) raw
        cooked := by
    rw [sharedRows, Grid.size_widen, Grid.size_widen, sharedRows]
  rw [CoveringDebouncer.debounce_eq, CoveringDebouncer.debounce_eq]
  dsimp only
  rw [hshared, CoveringDebouncer.cover_map (Grid.keeps_widen hwidth hcols _)]
  split <;> rfl

theorem answer_widen (hwidth : width ≤ width') (hcols : InPlaceDebouncer.cols δ ≤ width)
    (checks : Checks) (debouncer : δ) (call : Call width) :
    (call.widen width').answer checks debouncer =
      (call.answer checks debouncer).map (Answer.widen width') := by
  cases call with
  | init n =>
    rw [Call.widen, Call.answer, Call.answer]
    cases Debouncer.init debouncer n <;> rfl
  | free => rfl
  | debounce now raw cooked numRows changed =>
    rw [Call.widen, Call.answer, Call.answer, debounce_widen hwidth hcols]
    cases Debouncer.debounce checks now debouncer raw cooked numRows changed <;> rfl

theorem outcome_widen (hwidth : width ≤ width') (hcols : InPlaceDebouncer.cols δ ≤ width)
    (checks : Checks) (debouncer : δ) (call : Call width) :
    (call.widen width').outcome checks debouncer =
      (call.outcome checks debouncer).widen width' := by
  rw [Call.outcome_eq (Nat.le_trans hcols hwidth), Call.outcome_eq hcols,
    answer_widen hwidth hcols, Call.outcomeOf_widen]

theorem outcomes_map_widen (hwidth : width ≤ width') (hcols : InPlaceDebouncer.cols δ ≤ width)
    (checks : Checks) (debouncer : δ) (calls : List (Call width)) :
    Call.outcomes checks debouncer (calls.map (Call.widen width')) =
        (Call.outcomes checks debouncer calls).map (Outcome.widen width') ∧
      Call.leftBy checks debouncer (calls.map (Call.widen width')) =
        Call.leftBy checks debouncer calls := by
  induction calls generalizing debouncer with
  | nil => exact ⟨rfl, rfl⟩
  | cons call calls ih =>
    obtain ⟨houtcomes, hleft⟩ := ih (call.outcome checks debouncer).desk.debouncer
    have hcall := outcome_widen hwidth hcols checks debouncer call
    have hdebouncer : ((call.widen width').outcome checks debouncer).desk.debouncer =
        (call.outcome checks debouncer).desk.debouncer := by
      rw [hcall]
      rfl
    rw [List.map_cons, Call.outcomes_cons, Call.outcomes_cons, Call.leftBy_cons, Call.leftBy_cons,
      List.map_cons, hdebouncer, houtcomes, hleft, hcall]
    exact ⟨rfl, rfl⟩

theorem answers_map_widen (hwidth : width ≤ width') (hcols : InPlaceDebouncer.cols δ ≤ width)
    (checks : Checks) (debouncer : δ) (calls : List (Call width)) :
    Call.answers checks debouncer (calls.map (Call.widen width')) =
      (Call.answers checks debouncer calls).map (Except.map (Answer.widen width')) := by
  induction calls generalizing debouncer with
  | nil => rfl
  | cons call calls ih =>
    have hafter : (call.widen width').after checks debouncer = call.after checks debouncer := by
      rw [← Call.debouncer_outcome (Nat.le_trans hcols hwidth), outcome_widen hwidth hcols,
        ← Call.debouncer_outcome hcols]
      rfl
    rw [List.map_cons, Call.answers, Call.answers, List.map_cons, hafter, ih,
      answer_widen hwidth hcols]

/-! ## Matrices -/

namespace Run

variable {σ σ' : Type} [Scanner σ width] [Scanner σ' width'] {rows n : Nat}
variable {a : Run σ δ width rows} {b : Run σ' δ width' rows}

/-- A cycle keeps the widened run in step, and answers the same. -/
theorem cycle_widen (hwidth : width ≤ width') (hcols : InPlaceDebouncer.cols δ ≤ width)
    (input : a.WidenedInput b n) {k : Nat} (hk : k < n)
    (hdebouncer : (b.matrix k).debouncer = (a.matrix k).debouncer)
    (hcooked : b.cooked k = (a.cooked k).widen width') :
    (b.matrix (k + 1)).debouncer = (a.matrix (k + 1)).debouncer ∧
      b.cooked (k + 1) = (a.cooked (k + 1)).widen width' ∧ b.log k = a.log k ∧
      b.changed k = a.changed k := by
  have hcycle := b.debounced k
  rw [input.checks, input.clock k hk, hdebouncer, input.raw k hk, hcooked, input.numRows,
    input.hint k hk, debounce_widen hwidth hcols, a.debounced k] at hcycle
  obtain ⟨hdebouncer', hcooked', hlog⟩ := Cycle.mk.inj (Except.ok.inj hcycle)
  refine ⟨hdebouncer'.symm, hcooked'.symm, hlog.symm, ?_⟩
  -- No two grids become equal when their rows are widened.
  rw [b.changed_eq, a.changed_eq, hcooked, ← hcooked', Bool.eq_iff_iff, bne_iff_ne, bne_iff_ne]
  exact not_congr ⟨Grid.widen_injective hwidth, congrArg _⟩

theorem in_step_widen (hwidth : width ≤ width') (hcols : InPlaceDebouncer.cols δ ≤ width)
    (input : a.WidenedInput b n) {k : Nat} (hk : k ≤ n) :
    (b.matrix k).debouncer = (a.matrix k).debouncer ∧
      b.cooked k = (a.cooked k).widen width' := by
  induction k with
  | zero => exact (start_widen input).2
  | succ k ih =>
    obtain ⟨hdebouncer, hcooked⟩ := ih (Nat.le_of_succ_le hk)
    obtain ⟨hdebouncer', hcooked', _⟩ := cycle_widen hwidth hcols input hk hdebouncer hcooked
    exact ⟨hdebouncer', hcooked'⟩

theorem widenedCourse (hwidth : width ≤ width') (hcols : InPlaceDebouncer.cols δ ≤ width)
    (input : a.WidenedInput b n) : a.WidenedCourse b n where
  greeting_eq := (start_widen input).1
  debouncer_eq _ hk := (in_step_widen hwidth hcols input hk).1
  cooked_eq _ hk := (in_step_widen hwidth hcols input hk).2
  isPressed_eq k hk r c := by
    change (b.cooked k).isPressed r c = (a.cooked k).isPressed r c
    rw [(in_step_widen hwidth hcols input hk).2, Grid.isPressed_widen hwidth]
  changed_eq k hk := by
    obtain ⟨hdebouncer, hcooked⟩ := in_step_widen hwidth hcols input (Nat.le_of_lt hk)
    exact (cycle_widen hwidth hcols input hk hdebouncer hcooked).2.2.2
  log_eq k hk := by
    obtain ⟨hdebouncer, hcooked⟩ := in_step_widen hwidth hcols input (Nat.le_of_lt hk)
    exact (cycle_widen hwidth hcols input hk hdebouncer hcooked).2.2.1

end Run

theorem widthBlind (hwidth : width ≤ width') (hcols : InPlaceDebouncer.cols δ ≤ width) :
    WidthBlind δ width width' where
  answers_widen := answers_map_widen hwidth hcols
  outcomes_widen := outcomes_map_widen hwidth hcols
  course_widen := Run.widenedCourse hwidth hcols

end WidthBlind

/-- None of the three debouncers can tell how wide the rows are, as long as they have all columns
in use. -/
theorem width_is_unobservable (τ : Type) [TimeSource τ] (rows capacity : Nat)
    {cols width width' : Nat} (hcols : cols ≤ width) (hwidth : width ≤ width') :
    WidthBlind (AntiGhost τ rows cols) width width' ∧
      WidthBlind (EventLog rows cols capacity) width width' ∧
      WidthBlind Passthrough width width' :=
  ⟨widthBlind hwidth hcols, widthBlind hwidth hcols, widthBlind hwidth (Nat.zero_le width)⟩

/-- Three keys are held down, one of them in the last of eight columns and another one below it. -/
def corners (width : Nat) : FrameScanner width where
  numRows := 2
  frames := [{ grid := .ofList [.ofNat width 0b10000001, .ofNat width 0b10000000] }]

def narrowRun : Run (FrameScanner 8) (AntiGhost FrameTimer 2 8) 8 2 :=
  Run.ofScanner .on (fun _ => .start) (corners 8)
    (.ofTimer { press := 1, release := 1, quiesce := 9 } {}) rfl

def wideRun : Run (FrameScanner 128) (AntiGhost FrameTimer 2 8) 128 2 :=
  Run.ofScanner .on (fun _ => .start) (corners 128)
    (.ofTimer { press := 1, release := 1, quiesce := 9 } {}) rfl

/-- Two of the keys are accepted. The one in the corner could be a phantom, with wider rows as
well. -/
theorem corners_in_wider_rows :
    8 ≤ 8 ∧ 8 ≤ 128 ∧ narrowRun.WidenedInput wideRun 3 ∧
      narrowRun.cooked 2 = .ofList [⟨0b00000001⟩, ⟨0b10000000⟩] ∧
      wideRun.cooked 2 = (narrowRun.cooked 2).widen 128 ∧
      (wideRun.matrix 2).debouncer.tally.isAmbiguous 0 7 =
        (narrowRun.matrix 2).debouncer.tally.isAmbiguous 0 7 ∧
      (narrowRun.matrix 2).debouncer.tally.isAmbiguous 0 7 = true ∧
      wideRun.log 1 = narrowRun.log 1 ∧
      narrowRun.log 1 = [.accepted ⟨0, 0, true⟩, .accepted ⟨1, 7, true⟩] ∧
      wideRun.changed 1 = narrowRun.changed 1 := by
  have hblind := (width_is_unobservable FrameTimer 2 0 (show 8 ≤ 8 by decide)
    (show 8 ≤ 128 by decide)).1
  have hinput : narrowRun.WidenedInput wideRun 3 :=
    ⟨rfl, rfl, rfl, fun _ _ => rfl, by decide +kernel, by decide +kernel⟩
  have hcourse := hblind.course_widen hinput
  refine ⟨by decide, by decide, hinput, by decide +kernel, hcourse.cooked_eq 2 (by decide), ?_,
    by decide +kernel, hcourse.log_eq 1 (by decide), by decide +kernel,
    hcourse.changed_eq 1 (by decide)⟩
  rw [hcourse.debouncer_eq 2 (by decide)]

end KeyMatrix
