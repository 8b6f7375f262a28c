import KeyMatrix.Proofs.Coverage
import KeyMatrix.Proofs.Refusals

/-! # Sizes that do not match

Without checks, a cycle that is asked for too many rows covers those that there are: it does what
it would do if it were asked for just these rows, and the others stay as they are. Where checks
find nothing to refuse, it makes no difference whether they are on.
-/
namespace KeyMatrix

/-- Once everything is cut to the rows that a cycle covers, nothing more is cut off. -/
theorem sharedRows_take {width : Nat} (numRows inUse : Nat) (raw cooked : Grid width) :
    let shared := sharedRows numRows inUse raw cooked
    sharedRows shared inUse (raw.take shared) (cooked.take shared) = shared := by
  simp only [sharedRows, Grid.size_take]
  omega

/-- Debouncers that make do with the rows that there are when nothing is checked. -/
structure Clamps (δ : Type) [Debouncer δ] [SteadyDebouncer δ] [InPlaceDebouncer δ] (width : Nat) :
    Prop where
  /-- Step by step, a call does what it answers, with and without checks. -/
  run_work (checks : Checks) (debouncer : δ) (call : Call width) :
    (call.work checks).run (call.desk debouncer) =
      (call.desk debouncer).settle (call.answer checks debouncer)
  /-- If no call is refused with checks, the calls have the same outcomes without. -/
  outcomes_eq (debouncer : δ) (calls : List (Call width)) :
    (∀ outcome ∈ Call.outcomes .on debouncer calls, outcome.trap? = none) →
    Call.outcomes .off debouncer calls = Call.outcomes .on debouncer calls ∧
      Call.leftBy .off debouncer calls = Call.leftBy .on debouncer calls
  /-- Without checks no cycle is stopped. It leaves alone the rows that it does not cover, and does
  to the others what it does when everything is cut to them. -/
  cycle_eq (debouncer : δ) (now : Instant) (raw cooked : Grid width) (numRows : Nat)
    (changed : Bool) :
    let shared := sharedRows numRows (SteadyDebouncer.rowsInUse debouncer) raw cooked
    let whole := (Call.debounce now raw cooked numRows changed).outcome .off debouncer
    let cut := Call.debounce now (raw.take shared) (cooked.take shared) shared changed
    whole.trap? = none ∧ whole.desk.cooked.size = cooked.size ∧
      (∀ r, shared ≤ r → whole.desk.cooked.row r = cooked.row r) ∧
      ∀ checks, cut.outcome checks debouncer =
        { call := cut
          trap? := none
          desk := { whole.desk with cooked := whole.desk.cooked.take shared } }

section Clamping
variable {δ : Type} [Debouncer δ] [SteadyDebouncer δ] [InPlaceDebouncer δ] [CoveringDebouncer δ]
variable {width : Nat}

theorem debounce_off (now : Instant) (debouncer : δ) (raw cooked : Grid width) (numRows : Nat)
    (changed : Bool) :
    Debouncer.debounce .off now debouncer raw cooked numRows changed =
      .ok (CoveringDebouncer.cover (sharedRows numRows (SteadyDebouncer.rowsInUse debouncer) raw
        cooked) now debouncer raw cooked changed) := by
  rw [CoveringDebouncer.debounce_eq]
  exact if_neg fun h => nomatch h.1

/-- A cycle that is asked for just the rows that it covers is not refused. -/
theorem debounce_cut (checks : Checks) (now : Instant) (debouncer : δ) (raw cooked : Grid width)
    (numRows : Nat) (changed : Bool) :
    let shared := sharedRows numRows (SteadyDebouncer.rowsInUse debouncer) raw cooked
    Debouncer.debounce checks now debouncer (raw.take shared) (cooked.take shared) shared changed =
      .ok ((CoveringDebouncer.cover shared now debouncer raw cooked changed).map
        (·.take shared)) := by
  intro shared
  have hshared : sharedRows shared (SteadyDebouncer.rowsInUse debouncer) (raw.take shared)
      (cooked.take shared) = shared := sharedRows_take ..
  rw [CoveringDebouncer.debounce_eq]
  dsimp only
  rw [hshared, if_neg fun h => h.2.2.2 rfl,
    CoveringDebouncer.cover_map (Grid.keeps_take shared (InPlaceDebouncer.cols δ))]

/-- What is not refused with checks is answered the same without. -/
theorem answer_off {debouncer : δ} {call : Call width}
    (h : fault? (call.answer .on debouncer) = none) :
    call.answer .off debouncer = call.answer .on debouncer := by
  cases call with
  | init n => rfl
  | free => rfl
  | debounce now raw cooked numRows changed =>
    rw [Call.answer, fault?_map, CoveringDebouncer.debounce_eq] at h
    rw [Call.answer, Call.answer, debounce_off, CoveringDebouncer.debounce_eq]
    dsimp only at h ⊢
    split at h
    · cases h
    · rename_i haccepted
      rw [if_neg haccepted]

theorem outcomes_off (hcols : InPlaceDebouncer.cols δ ≤ width) {debouncer : δ}
    {calls : List (Call width)}
    (h : ∀ outcome ∈ Call.outcomes .on debouncer calls, outcome.trap? = none) :
    Call.outcomes .off debouncer calls = Call.outcomes .on debouncer calls ∧
      Call.leftBy .off debouncer calls = Call.leftBy .on debouncer calls := by
  induction calls generalizing debouncer with
  | nil => exact ⟨rfl, rfl⟩
  | cons call calls ih =>
    rw [Call.outcomes_cons, List.forall_mem_cons, trap?_outcome hcols, Option.map_eq_none_iff] at h
    have hsame : call.outcome .off debouncer = call.outcome .on debouncer := by
      rw [Call.outcome_eq hcols, Call.outcome_eq hcols, answer_off h.1]
    obtain ⟨houtcomes, hleft⟩ := ih h.2
    rw [Call.outcomes_cons, Call.outcomes_cons, Call.leftBy_cons, Call.leftBy_cons, hsame,
      houtcomes, hleft]
    exact ⟨rfl, rfl⟩

theorem clamps (hcols : InPlaceDebouncer.cols δ ≤ width) : Clamps δ width where
  run_work := Call.run_work hcols
  outcomes_eq _ _ := outcomes_off hcols
  cycle_eq debouncer now raw cooked numRows changed := by
    have hcut := fun checks => debounce_cut checks now debouncer raw cooked numRows changed
    dsimp only at hcut ⊢
    simp only [Call.outcome_eq hcols, Call.answer, debounce_off, hcut]
    exact ⟨rfl, CoveringDebouncer.size_cover .., fun r hr => CoveringDebouncer.row_cover hr ..,
      fun _ => rfl⟩

end Clamping

/-- All three debouncers make do with the rows that there are when nothing is checked; one with
timed keys also leaves alone the keys and the flags of the other rows. Where checks refuse nothing,
they make no difference. -/
theorem sizes_are_clamped (τ : Type) [TimeSource τ] (rows capacity : Nat) {cols width : Nat}
    (hcols : cols ≤ width) :
    Clamps (AntiGhost τ rows cols) width ∧ Clamps (EventLog rows cols capacity) width ∧
      Clamps Passthrough width ∧
      ∀ (debouncer : AntiGhost τ rows cols) (now : Instant) (raw cooked : Grid width)
        (numRows : Nat) (changed : Bool) (r : Nat),
        let whole := (Call.debounce now raw cooked numRows changed).outcome .off debouncer
        sharedRows numRows debouncer.numRows raw cooked ≤ r →
        (∀ c, whole.desk.debouncer.keys.get r c = debouncer.keys.get r c) ∧
          whole.desk.debouncer.tally.isCrowded r = debouncer.tally.isCrowded r := by
  refine ⟨clamps hcols, clamps hcols, clamps (Nat.zero_le width), ?_⟩
  intro debouncer now raw cooked numRows changed r whole hr
  have hcols' : InPlaceDebouncer.cols (AntiGhost τ rows cols) ≤ width := hcols
  have hleft : whole.desk.debouncer = (AntiGhost.cover (sharedRows numRows debouncer.numRows raw
      cooked) now debouncer raw cooked changed).debouncer := by
    change (Call.outcome .off debouncer _).desk.debouncer = _
    rw [Call.outcome_eq hcols', Call.answer, debounce_off]
    rfl
  rw [hleft]
  exact AntiGhost.cover_outside hr now debouncer raw cooked changed

/-- A debouncer for three rows is initialized for two, and a key goes down. -/
def twoRows : List (Call 8) :=
  [.init 2, .debounce ⟨1000⟩ (.ofList [⟨1⟩, ⟨0⟩]) (.released 2) 2 true]

def threeRawRows : Grid 8 := .ofList [⟨1⟩, ⟨0⟩, ⟨0b111⟩]

def fourCookedRows : Grid 8 := .ofList [⟨0⟩, ⟨0⟩, ⟨1⟩, ⟨1⟩]

/-- A cycle for five rows covers two of them. The key is accepted there, and the third row is
neither debounced nor looked at for phantoms. -/
theorem five_rows_clamped :
    let fresh : AntiGhost MillisTimer 3 3 := .ofTimer (.uniform 0) {}
    let debouncer := Call.leftBy .on fresh twoRows
    let five := Call.debounce ⟨2000⟩ threeRawRows fourCookedRows 5 true
    let two := Call.debounce ⟨2000⟩ (threeRawRows.take 2) (fourCookedRows.take 2) 2 true
    let whole := five.outcome .off debouncer
    3 ≤ 8 ∧
      (∀ outcome ∈ Call.outcomes .on fresh twoRows, outcome.trap? = none) ∧
      Call.outcomes .off fresh twoRows = Call.outcomes .on fresh twoRows ∧
      (five.outcome .on debouncer).trap? = some (.fault .sizeMismatch) ∧
      whole.trap? = none ∧ whole.desk.cooked = .ofList [⟨1⟩, ⟨0⟩, ⟨1⟩, ⟨1⟩] ∧
      (two.outcome .on debouncer).desk =
        { whole.desk with cooked := whole.desk.cooked.take 2 } ∧
      sharedRows 5 debouncer.numRows threeRawRows fourCookedRows ≤ 2 ∧
      whole.desk.debouncer.keys.get 2 0 = debouncer.keys.get 2 0 ∧
      whole.desk.debouncer.tally.isCrowded 2 = debouncer.tally.isCrowded 2 := by
  intro fresh debouncer
  dsimp only
  obtain ⟨hclamps, _, _, hrows⟩ := sizes_are_clamped MillisTimer 3 4 (show 3 ≤ 8 by decide)
  have hcalls : ∀ outcome ∈ Call.outcomes .on fresh twoRows, outcome.trap? = none := by
    decide +kernel
  have hshared : sharedRows 5 debouncer.numRows threeRawRows fourCookedRows = 2 := by
    decide +kernel
  obtain ⟨htrap, _, _, hcut⟩ :=
    hclamps.cycle_eq debouncer ⟨2000⟩ threeRawRows fourCookedRows 5 true
  have htwo := congrArg Outcome.desk (hcut .on)
  rw [show sharedRows 5 (SteadyDebouncer.rowsInUse debouncer) threeRawRows fourCookedRows = 2 from
    hshared] at htwo
  obtain ⟨hkeys, hflag⟩ :=
    hrows debouncer ⟨2000⟩ threeRawRows fourCookedRows 5 true 2 (Nat.le_of_eq hshared)
  exact ⟨by decide, hcalls, (hclamps.outcomes_eq fresh twoRows hcalls).1, by decide +kernel, htrap,
    by decide +kernel, htwo, Nat.le_of_eq hshared, hkeys 0, hflag⟩

end KeyMatrix
