import KeyMatrix.Proofs.Phantom
import KeyMatrix.Proofs.Restart

/-! # No phantom is pressed, whatever is called

Between its cycles a debouncer with timed keys may be initialized and freed. A caller that keeps the
rows of the last cycle in mind, and takes them for released after every initialization, knows when
the hint is due. Then the tally finds every corner of a pressed rectangle, and none is accepted. A
caller that does not forget what it saw before an initialization is not warned of phantoms.
-/
namespace KeyMatrix

namespace Grid

variable {width : Nat}

/-- The same keys are pressed in two grids, whatever their sizes. -/
def SameKeys (a b : Grid width) : Prop := ∀ r c, a.isPressed r c = b.isPressed r c

theorem SameKeys.isSuspect_eq {a b : Grid width} (h : a.SameKeys b) (r c : Nat) :
    a.isSuspect r c = b.isSuspect r c := by
  rw [Bool.eq_iff_iff, isSuspect_iff, isSuspect_iff]
  simp only [h _ _]

/-- The cell is the corner of a rectangle of four pressed cells. -/
def IsCorner (grid : Grid width) (r c : Nat) : Prop :=
  ∃ s d, r ≠ s ∧ c ≠ d ∧ grid.isPressed r c = true ∧ grid.isPressed r d = true ∧
    grid.isPressed s c = true ∧ grid.isPressed s d = true

theorem IsCorner.isSuspect {grid : Grid width} {r c : Nat} (h : grid.IsCorner r c) :
    grid.isSuspect r c = true := by
  obtain ⟨s, d, hrs, hcd, hrc, hrd, hsc, _⟩ := h
  exact isSuspect_of_rectangle hrs hcd hrc hrd hsc

end Grid

/-! ## Sweeps past ambiguous cells -/

namespace Sweep

variable {width rows cols : Nat}

theorem visit_of_isAmbiguous (scene : Scene width rows cols) (sweep : Sweep width rows cols)
    {r c : Nat} (h : scene.tally.isAmbiguous r c = true) :
    (visit scene sweep ⟨r, c⟩).keys.get r c = sweep.keys.get r c ∧
      (visit scene sweep ⟨r, c⟩).cooked.isPressed r c = sweep.cooked.isPressed r c := by
  have hfrozen : outcome scene sweep ⟨r, c⟩ = (sweep.keys.get r c, .ignored) :=
    Key.step_ambiguous scene.config h _
  constructor
  · rw [visit_keys, hfrozen, KeyTable.get_set]
    split <;> rfl
  · rw [visit_cooked, hfrozen, if_neg nofun]

/-- A sweep leaves ambiguous cells as they are, however often it comes past. -/
theorem run_of_isAmbiguous (scene : Scene width rows cols) (sweep : Sweep width rows cols)
    (path : List Cell) {r c : Nat} (h : scene.tally.isAmbiguous r c = true) :
    (run scene sweep path).keys.get r c = sweep.keys.get r c ∧
      (run scene sweep path).cooked.isPressed r c = sweep.cooked.isPressed r c := by
  induction path generalizing sweep with
  | nil => exact ⟨rfl, rfl⟩
  | cons cell path ih =>
    rw [run_cons, (ih _).1, (ih _).2]
    by_cases hcell : cell = ⟨r, c⟩
    · subst hcell
      exact visit_of_isAmbiguous scene sweep h
    · exact ⟨visit_get_other _ _ hcell, visit_isPressed_other _ _ hcell⟩

end Sweep

/-! ## Keeping the last cycle in mind -/

/-- A debouncer with timed keys in the hands of a caller. -/
structure Watch (τ : Type) (rows cols width : Nat) where
  debouncer : AntiGhost τ rows cols
  /-- The rows that the last cycle covered, released if there has been none since the debouncer was
  constructed, initialized or freed. -/
  seen : Grid width := .released 0

namespace Watch

variable {τ : Type} {rows cols width : Nat}

/-- The rows that a cycle covers. -/
def covered (watch : Watch τ rows cols width) (raw cooked : Grid width) (numRows : Nat) :
    Grid width :=
  raw.take (sharedRows numRows watch.debouncer.numRows raw cooked)

theorem size_covered_le (watch : Watch τ rows cols width) (raw cooked : Grid width)
    (numRows : Nat) : (watch.covered raw cooked numRows).size ≤ rows := by
  rw [covered, Grid.size_take]
  exact (Nat.min_le_left ..).trans ((sharedRows_le_inUse ..).trans watch.debouncer.numRows_le)

/-- The tally finds all cells ambiguous that were suspect in the last cycle. -/
def Vigilant (watch : Watch τ rows cols width) : Prop :=
  watch.debouncer.numRows ≠ 0 → ∀ r c, c < cols → watch.seen.isSuspect r c = true →
    watch.debouncer.tally.isAmbiguous r c = true

theorem vigilant_released (debouncer : AntiGhost τ rows cols) (n : Nat) :
    Vigilant { debouncer, seen := (.released n : Grid width) } := by
  intro _ r c _ hsuspect
  rw [Grid.isSuspect_released] at hsuspect
  cases hsuspect

/-- The tally of a cycle finds all cells ambiguous that are suspect in the rows it covers. -/
theorem Vigilant.isAmbiguous_of_isSuspect {watch : Watch τ rows cols width} (h : watch.Vigilant)
    (hn : watch.debouncer.numRows ≠ 0) {raw cooked : Grid width} {numRows : Nat} {changed : Bool}
    (hhint : changed = false → (watch.covered raw cooked numRows).SameKeys watch.seen) {r c : Nat}
    (hc : c < cols) (hsuspect : (watch.covered raw cooked numRows).isSuspect r c = true) :
    (if changed then watch.debouncer.tally.recompute (watch.covered raw cooked numRows)
      else watch.debouncer.tally).isAmbiguous r c = true := by
  cases changed with
  | false => exact h hn r c hc ((hhint rfl).isSuspect_eq r c ▸ hsuspect)
  | true =>
    obtain ⟨⟨d, _, _, hrd, _⟩, _⟩ := (Grid.isSuspect_iff _ r c).1 hsuspect
    rw [if_pos rfl, Tally.isAmbiguous_recompute _ _ (Grid.lt_size_of_isPressed hrd)
      (watch.size_covered_le ..) hc]
    exact hsuspect

variable [TimeSource τ]

/-- Debouncer and caller after a call. A call that is refused has no effect on either. -/
def after (checks : Checks) (watch : Watch τ rows cols width) (call : Call width) :
    Watch τ rows cols width where
  debouncer := call.after checks watch.debouncer
  seen :=
    match call with
    | .init n => if n ≤ rows then .released n else watch.seen
    | .free => .released 0
    | .debounce now raw cooked numRows changed =>
      match Debouncer.debounce checks now watch.debouncer raw cooked numRows changed with
      | .ok _ => watch.covered raw cooked numRows
      | .error _ => watch.seen

/-- Debouncer and caller after several calls in order. -/
def afterAll (checks : Checks) (watch : Watch τ rows cols width) (calls : List (Call width)) :
    Watch τ rows cols width :=
  calls.foldl (after checks) watch

theorem debouncer_afterAll (checks : Checks) (watch : Watch τ rows cols width)
    (calls : List (Call width)) :
    (watch.afterAll checks calls).debouncer = Call.afterAll checks watch.debouncer calls := by
  induction calls generalizing watch with
  | nil => rfl
  | cons call calls ih => exact ih (watch.after checks call)

/-- A cycle comes with the hint if it covers other pressed keys than the cycle before. -/
def Hinted (watch : Watch τ rows cols width) : Call width → Prop
  | .debounce _ raw cooked numRows changed =>
    changed = false → (watch.covered raw cooked numRows).SameKeys watch.seen
  | _ => True

/-- All calls in a row come with the hint when it is due. -/
def HintedAll (checks : Checks) (watch : Watch τ rows cols width) : List (Call width) → Prop
  | [] => True
  | call :: calls => watch.Hinted call ∧ HintedAll checks (watch.after checks call) calls

theorem hintedAll_concat {checks : Checks} {watch : Watch τ rows cols width}
    {calls : List (Call width)} {call : Call width} :
    watch.HintedAll checks (calls ++ [call]) ↔
      watch.HintedAll checks calls ∧ (watch.afterAll checks calls).Hinted call := by
  induction calls generalizing watch with
  | nil => exact and_comm
  | cons first calls ih =>
    change _ ∧ HintedAll checks (watch.after checks first) (calls ++ [call]) ↔ (_ ∧ _) ∧ _
    rw [ih, and_assoc]
    rfl

theorem after_init_of_lt (checks : Checks) (watch : Watch τ rows cols width) {n : Nat}
    (hn : rows < n) : watch.after checks (.init n) = watch := by
  rw [after, Call.after_init_of_error (AntiGhost.init_of_lt watch.debouncer hn),
    if_neg (Nat.not_le.2 hn)]

theorem after_debounce_of_error {checks : Checks} {watch : Watch τ rows cols width} {now : Instant}
    {raw cooked : Grid width} {numRows : Nat} {changed : Bool} {fault : Fault}
    (h : Debouncer.debounce checks now watch.debouncer raw cooked numRows changed =
      .error fault) :
    watch.after checks (.debounce now raw cooked numRows changed) = watch := by
  simp only [after, Call.after, h]

theorem after_debounce_of_ok {checks : Checks} {watch : Watch τ rows cols width} {now : Instant}
    {raw cooked : Grid width} {numRows : Nat} {changed : Bool}
    {cycle : Cycle (AntiGhost τ rows cols) width}
    (h : Debouncer.debounce checks now watch.debouncer raw cooked numRows changed = .ok cycle) :
    watch.after checks (.debounce now raw cooked numRows changed) =
      { debouncer := cycle.debouncer, seen := watch.covered raw cooked numRows } := by
  simp only [after, Call.after, h]

theorem Vigilant.after {watch : Watch τ rows cols width} (h : watch.Vigilant) (checks : Checks)
    {call : Call width} (hhint : watch.Hinted call) : (watch.after checks call).Vigilant := by
  cases call with
  | init n =>
    by_cases hn : n ≤ rows
    · rw [Watch.after, if_pos hn]
      exact vigilant_released _ n
    · rw [after_init_of_lt checks watch (Nat.lt_of_not_le hn)]
      exact h
  | free => exact vigilant_released _ 0
  | debounce now raw cooked numRows changed =>
    cases hcycle : Debouncer.debounce checks now watch.debouncer raw cooked numRows changed with
    | error fault =>
      rw [after_debounce_of_error hcycle]
      exact h
    | ok cycle =>
      rw [after_debounce_of_ok hcycle]
      obtain ⟨hn, rfl⟩ | ⟨hn, rfl⟩ := AntiGhost.debounce_cases hcycle
      · exact fun hused => absurd hn hused
      · exact fun _ r c hc hsuspect => h.isAmbiguous_of_isSuspect hn hhint hc hsuspect

theorem Vigilant.afterAll {watch : Watch τ rows cols width} (h : watch.Vigilant) {checks : Checks}
    {calls : List (Call width)} (hhints : watch.HintedAll checks calls) :
    (watch.afterAll checks calls).Vigilant := by
  induction calls generalizing watch with
  | nil => exact h
  | cons call calls ih => exact ih (h.after checks hhints.1) hhints.2

/-- In the next cycle the corners of pressed rectangles stay as they are. -/
theorem Vigilant.frozen {watch : Watch τ rows cols width} (h : watch.Vigilant) {checks : Checks}
    {now : Instant} {raw cooked : Grid width} {numRows : Nat} {changed : Bool}
    (hhint : watch.Hinted (.debounce now raw cooked numRows changed))
    {cycle : Cycle (AntiGhost τ rows cols) width}
    (hcycle : Debouncer.debounce checks now watch.debouncer raw cooked numRows changed = .ok cycle)
    {r c : Nat} (hcorner : (watch.covered raw cooked numRows).IsCorner r c) :
    cycle.debouncer.keys.get r c = watch.debouncer.keys.get r c ∧
      cycle.cooked.isPressed r c = cooked.isPressed r c := by
  obtain ⟨_, rfl⟩ | ⟨hn, rfl⟩ := AntiGhost.debounce_cases hcycle
  · exact ⟨rfl, rfl⟩
  · by_cases hc : c < cols
    · exact Sweep.run_of_isAmbiguous _ _ _
        (h.isAmbiguous_of_isSuspect hn hhint hc hcorner.isSuspect)
    · have houtside :
          ⟨r, c⟩ ∉ cells (sharedRows numRows watch.debouncer.numRows raw cooked) cols := by
        rw [mem_cells]
        exact fun hmem => hc hmem.2
      exact ⟨Sweep.run_get_outside _ _ houtside, Sweep.run_isPressed_outside _ _ houtside⟩

end Watch

/-! ## Any sequence of calls -/

/-- However often a debouncer with timed keys is initialized and freed between its cycles, as long
as its caller takes every initialization for a released matrix when it gives the hints, no corner
of a rectangle of pressed keys has its key or its cooked bit changed. -/
theorem AntiGhost.corners_are_frozen {τ : Type} [TimeSource τ] {rows cols width : Nat}
    (checks : Checks) (config : Config) (timer : τ) (calls : List (Call width)) (now : Instant)
    (raw cooked : Grid width) (numRows : Nat) (changed : Bool)
    (hhints : Watch.HintedAll checks
      { debouncer := (.ofTimer config timer : AntiGhost τ rows cols) }
      (calls ++ [.debounce now raw cooked numRows changed])) :
    let debouncer := Call.afterAll checks (.ofTimer config timer : AntiGhost τ rows cols) calls
    ∀ cycle, Debouncer.debounce checks now debouncer raw cooked numRows changed = .ok cycle →
      ∀ r c, (raw.take (sharedRows numRows debouncer.numRows raw cooked)).IsCorner r c →
        cycle.debouncer.keys.get r c = debouncer.keys.get r c ∧
          cycle.cooked.isPressed r c = cooked.isPressed r c := by
  intro debouncer cycle hcycle r c hcorner
  obtain ⟨hcalls, hlast⟩ := Watch.hintedAll_concat.1 hhints
  have hvigilant := (Watch.vigilant_released (.ofTimer config timer) 0).afterAll hcalls
  have hdebouncer : _ = debouncer :=
    Watch.debouncer_afterAll checks { debouncer := .ofTimer config timer } calls
  rw [← hdebouncer] at hcycle hcorner ⊢
  exact hvigilant.frozen hlast hcycle hcorner

/-- All four keys of a matrix are held. -/
def square : Grid 8 := .ofList [⟨3⟩, ⟨3⟩]

/-- A cycle that finds the square held. -/
def squareCycle (changed : Bool) : Call 8 := .debounce ⟨0⟩ square (.released 2) 2 changed

theorem square_isCorner : square.IsCorner 0 0 :=
  ⟨1, 1, by decide, by decide, by decide, by decide, by decide, by decide⟩

theorem square_debounced {debouncer : AntiGhost FrameTimer 2 2} (hn : debouncer.numRows = 2)
    (changed : Bool) :
    ∃ cycle, Debouncer.debounce .on ⟨0⟩ debouncer square (.released 2) 2 changed = .ok cycle := by
  have hsquare : square.size = SteadyDebouncer.rowsInUse debouncer := hn.symm
  have hcooked : (.released 2 : Grid 8).size = SteadyDebouncer.rowsInUse debouncer := hn.symm
  obtain ⟨cycle, hcycle, _⟩ := SteadyDebouncer.debounce_ok .on ⟨0⟩ debouncer changed hsquare hcooked
  rw [show SteadyDebouncer.rowsInUse debouncer = 2 from hn] at hcycle
  exact ⟨cycle, hcycle⟩

/-- A debouncer is freed and initialized again while the square is held. In the first cycle after it
the hint is due again, in the second one it is not. -/
theorem square_is_frozen_after_reinit :
    let constructed : AntiGhost FrameTimer 2 2 := .ofTimer (.uniform 1) {}
    let calls := [.init 2, squareCycle true, .free, .init 2, squareCycle true]
    let debouncer := Call.afterAll .on constructed calls
    Watch.HintedAll .on { debouncer := constructed } (calls ++ [squareCycle false]) ∧
      (square.take (sharedRows 2 debouncer.numRows square (.released 2))).IsCorner 0 0 ∧
      ∃ cycle, Debouncer.debounce .on ⟨0⟩ debouncer square (.released 2) 2 false = .ok cycle ∧
        cycle.debouncer.keys.get 0 0 = .waiting ∧ cycle.cooked.isPressed 0 0 = false := by
  intro constructed calls debouncer
  have hsame : (Watch.afterAll .on { debouncer := constructed } calls).covered square
      (.released 2) 2 = (Watch.afterAll .on { debouncer := constructed } calls).seen := by
    decide +kernel
  have hhints : Watch.HintedAll .on { debouncer := constructed } (calls ++ [squareCycle false]) :=
    Watch.hintedAll_concat.2 ⟨⟨trivial, nofun, trivial, trivial, nofun, trivial⟩,
      fun _ r c => congrArg (Grid.isPressed · r c) hsame⟩
  have hn : debouncer.numRows = 2 := by decide +kernel
  have hcorner :
      (square.take (sharedRows 2 debouncer.numRows square (.released 2))).IsCorner 0 0 := by
    rw [hn]
    exact square_isCorner
  obtain ⟨cycle, hcycle⟩ := square_debounced hn false
  have hfrozen := AntiGhost.corners_are_frozen .on (.uniform 1) ({} : FrameTimer) calls ⟨0⟩ square
    (.released 2) 2 false hhints cycle hcycle 0 0 hcorner
  have hkey : debouncer.keys.get 0 0 = .waiting := by decide +kernel
  exact ⟨hhints, hcorner, cycle, hcycle, hfrozen.1.trans hkey, hfrozen.2⟩

/-! ## Hints that look back past an initialization -/

/-- All cycles come with the hint if the raw grid has other keys pressed than the one before, even
if the debouncer has been initialized in between. -/
def HintedAtChanges {width : Nat} (seen : Grid width) : List (Call width) → Prop
  | [] => True
  | .debounce _ raw _ _ changed :: calls =>
    (changed = false → raw.SameKeys seen) ∧ HintedAtChanges raw calls
  | _ :: calls => HintedAtChanges seen calls

/-- With such hints, an initialization makes a debouncer forget that the square is held, and the
cycle after the next accepts it. -/
theorem square_is_pressed_after_reinit :
    let constructed : AntiGhost FrameTimer 2 2 := .ofTimer (.uniform 1) {}
    let calls := [.init 2, squareCycle true, .init 2, squareCycle false]
    HintedAtChanges (.released 0) (calls ++ [squareCycle false]) ∧ square.IsCorner 0 0 ∧
      ∃ cycle, Debouncer.debounce .on ⟨0⟩ (Call.afterAll .on constructed calls) square
          (.released 2) 2 false = .ok cycle ∧
        cycle.cooked.isPressed 0 0 = true := by
  intro constructed calls
  have hn : (Call.afterAll .on constructed calls).numRows = 2 := by decide +kernel
  obtain ⟨cycle, hcycle⟩ := square_debounced hn false
  have hpressed : (Debouncer.debounce .on ⟨0⟩ (Call.afterAll .on constructed calls) square
      (.released 2) 2 false).map (·.cooked.isPressed 0 0) = .ok true := by decide +kernel
  rw [hcycle] at hpressed
  exact ⟨⟨nofun, fun _ _ _ => rfl, fun _ _ _ => rfl, trivial⟩, square_isCorner, cycle, hcycle,
    Except.ok.inj hpressed⟩

end KeyMatrix
