import KeyMatrix.Proofs.InPlace

/-! # Refused calls

With checks, a call is refused for two reasons only: there is no room for so many rows, or a cycle
is to cover more rows than there are. It is refused before anything has been written, so that the
calls around it cannot tell whether it was made at all, not even from the time that they measure.
-/
namespace KeyMatrix

/-! ## When calls are refused -/

section Refusals
variable {τ : Type} {rows cols capacity width : Nat}

/-- Why a debouncer with timed keys refuses a call, if it does. -/
def AntiGhost.refusal (debouncer : AntiGhost τ rows cols) : Call width → Option Fault
  | .init n => if rows < n then some .tooManyRows else none
  | .free => none
  | .debounce _ raw cooked numRows _ =>
    if debouncer.numRows ≠ 0 ∧ min (min debouncer.numRows raw.size) cooked.size < numRows then
      some .sizeMismatch
    else none

/-- Why a debouncer that records events refuses a call, if it does. -/
def EventLog.refusal (_log : EventLog rows cols capacity) : Call width → Option Fault
  | .init n => if rows < n then some .tooManyRows else none
  | .free | .debounce .. => none

theorem sharedRows_ne_iff (numRows inUse : Nat) (raw cooked : Grid width) :
    sharedRows numRows inUse raw cooked ≠ numRows ↔
      min (min inUse raw.size) cooked.size < numRows := by
  simp only [sharedRows]
  omega

/-- The fault of a call that is refused. -/
def fault? {α : Type} : Except Fault α → Option Fault
  | .ok _ => none
  | .error fault => some fault

@[simp] theorem fault?_map {α β : Type} (f : α → β) (result : Except Fault α) :
    fault? (result.map f) = fault? result := by
  cases result <;> rfl

theorem fault?_of_room {α : Type} {n rows : Nat} (start : n ≤ rows → α) :
    fault? (if h : n ≤ rows then .ok (start h) else .error .tooManyRows) =
      if rows < n then some .tooManyRows else none := by
  by_cases hn : n ≤ rows
  · rw [dif_pos hn, if_neg (Nat.not_lt.2 hn)]
    rfl
  · rw [dif_neg hn, if_pos (Nat.lt_of_not_le hn)]
    rfl

theorem AntiGhost.fault?_answer [TimeSource τ] (debouncer : AntiGhost τ rows cols)
    (call : Call width) : fault? (call.answer .on debouncer) = debouncer.refusal call := by
  cases call with
  | init n =>
    rw [Call.answer, fault?_map, refusal]
    exact fault?_of_room _
  | free => rfl
  | debounce now raw cooked numRows changed =>
    rw [Call.answer, fault?_map, refusal]
    change fault? (debouncer.debounce .on now raw cooked numRows changed) = _
    rw [AntiGhost.debounce]
    simp only [sharedRows_ne_iff, true_and]
    split <;> rfl

theorem EventLog.fault?_answer (log : EventLog rows cols capacity) (call : Call width) :
    fault? (call.answer .on log) = log.refusal call := by
  cases call with
  | init n =>
    rw [Call.answer, fault?_map, refusal]
    exact fault?_of_room _
  | free => rfl
  | debounce now raw cooked numRows changed => rfl

end Refusals

/-! ## Calls that might as well not have been made -/

/-- Calls are refused just as told, and a refused call is as good as none. -/
structure Unnoticed {δ : Type} [Debouncer δ] [InPlaceDebouncer δ] (width : Nat)
    (refusal : δ → Call width → Option Fault) : Prop where
  /-- Step by step, a call does what it answers. -/
  run_work (debouncer : δ) (call : Call width) :
    (call.work .on).run (call.desk debouncer) =
      (call.desk debouncer).settle (call.answer .on debouncer)
  /-- A call is stopped if and only if it is refused, and by nothing else. -/
  trap?_eq (debouncer : δ) (call : Call width) :
    (call.outcome .on debouncer).trap? = (refusal debouncer call).map .fault
  /-- Until then nothing has been written, neither to the debouncer nor to the cooked grid, and
  nothing has been reported. -/
  desk_eq (debouncer : δ) (call : Call width) : (call.outcome .on debouncer).trap? ≠ none →
    (call.outcome .on debouncer).desk = call.desk debouncer
  /-- Without the refused calls the others have the same outcomes, and leave the same debouncer. -/
  outcomes_kept (debouncer : δ) (calls : List (Call width)) :
    let kept := (Call.outcomes .on debouncer calls).filter Outcome.isOk
    Call.outcomes .on debouncer (kept.map (·.call)) = kept ∧
      Call.leftBy .on debouncer (kept.map (·.call)) = Call.leftBy .on debouncer calls

section Unnoticed
variable {δ : Type} [Debouncer δ] [InPlaceDebouncer δ] {width : Nat}

theorem trap?_outcome (hcols : InPlaceDebouncer.cols δ ≤ width) (checks : Checks) (debouncer : δ)
    (call : Call width) : (call.outcome checks debouncer).trap? =
      (fault? (call.answer checks debouncer)).map .fault := by
  rw [Call.outcome_eq hcols]
  cases call.answer checks debouncer with
  | error fault => rfl
  | ok answer => cases answer <;> rfl

theorem desk_outcome_of_trap (hcols : InPlaceDebouncer.cols δ ≤ width) {checks : Checks}
    {debouncer : δ} {call : Call width} (h : (call.outcome checks debouncer).trap? ≠ none) :
    (call.outcome checks debouncer).desk = call.desk debouncer := by
  rw [trap?_outcome hcols] at h
  rw [Call.outcome_eq hcols]
  cases hanswer : call.answer checks debouncer with
  | error fault => rfl
  | ok answer =>
    rw [hanswer] at h
    exact absurd rfl h

theorem debouncer_outcome_of_trap (hcols : InPlaceDebouncer.cols δ ≤ width) {checks : Checks}
    {debouncer : δ} {call : Call width} (h : (call.outcome checks debouncer).trap? ≠ none) :
    (call.outcome checks debouncer).desk.debouncer = debouncer := by
  rw [desk_outcome_of_trap hcols h, Call.debouncer_desk]

/-- Refused calls can be deleted one by one: each leaves the debouncer to the next call as it found
it. -/
theorem outcomes_filter (hcols : InPlaceDebouncer.cols δ ≤ width) (checks : Checks) (debouncer : δ)
    (calls : List (Call width)) :
    let kept := (Call.outcomes checks debouncer calls).filter Outcome.isOk
    Call.outcomes checks debouncer (kept.map (·.call)) = kept ∧
      Call.leftBy checks debouncer (kept.map (·.call)) = Call.leftBy checks debouncer calls := by
  induction calls generalizing debouncer with
  | nil => exact ⟨rfl, rfl⟩
  | cons call calls ih =>
    dsimp only at ih ⊢
    rw [Call.outcomes_cons, Call.leftBy_cons]
    by_cases hkept : (call.outcome checks debouncer).isOk = true
    · obtain ⟨houtcomes, hleft⟩ := ih (call.outcome checks debouncer).desk.debouncer
      rw [List.filter_cons_of_pos hkept, List.map_cons, Call.call_outcome, Call.outcomes_cons,
        houtcomes, Call.leftBy_cons, hleft]
      exact ⟨rfl, rfl⟩
    · have hsame : (call.outcome checks debouncer).desk.debouncer = debouncer :=
        debouncer_outcome_of_trap hcols fun h => hkept (by rw [Outcome.isOk, h]; rfl)
      rw [List.filter_cons_of_neg hkept, hsame]
      exact ih debouncer

theorem unnoticed_of_fault?_answer (hcols : InPlaceDebouncer.cols δ ≤ width)
    {refusal : δ → Call width → Option Fault}
    (h : ∀ debouncer call, fault? (call.answer .on debouncer) = refusal debouncer call) :
    Unnoticed width refusal where
  run_work := Call.run_work hcols .on
  trap?_eq debouncer call := by rw [trap?_outcome hcols, h]
  desk_eq _ _ := desk_outcome_of_trap hcols
  outcomes_kept := outcomes_filter hcols .on

/-- If all calls are refused, the debouncer is left as it was. -/
theorem leftBy_of_trap (hcols : InPlaceDebouncer.cols δ ≤ width) {checks : Checks} {debouncer : δ}
    {calls : List (Call width)}
    (h : ∀ outcome ∈ Call.outcomes checks debouncer calls, outcome.trap? ≠ none) :
    Call.leftBy checks debouncer calls = debouncer := by
  induction calls with
  | nil => rfl
  | cons call calls ih =>
    rw [Call.outcomes_cons, List.forall_mem_cons] at h
    have hsame := debouncer_outcome_of_trap hcols h.1
    rw [hsame] at h
    rw [Call.leftBy_cons, hsame]
    exact ih h.2

end Unnoticed

/-! ## The time that refused calls take -/

/-- A time source that keeps what it has answered. -/
structure Recorded (τ : Type) where
  timer : τ
  readings : List UInt8 := []
  deriving DecidableEq, Repr

instance {τ : Type} [TimeSource τ] : TimeSource (Recorded τ) where
  elapsed recorded now :=
    let reading := TimeSource.elapsed recorded.timer now
    { reading with
      timer := { timer := reading.timer, readings := recorded.readings ++ [reading.units] } }
  reset recorded := { recorded with timer := TimeSource.reset recorded.timer }

section Time
variable {τ : Type} [TimeSource τ] {rows cols width : Nat}

/-- A cycle that is not refused takes one reading, if rows are in use. -/
theorem AntiGhost.timer_outcome (hcols : cols ≤ width) {checks : Checks}
    {debouncer : AntiGhost τ rows cols} {now : Instant} {raw cooked : Grid width} {numRows : Nat}
    {changed : Bool} (huse : debouncer.numRows ≠ 0)
    (hok : ((Call.debounce now raw cooked numRows changed).outcome checks debouncer).trap? = none) :
    let left := ((Call.debounce now raw cooked numRows changed).outcome checks
      debouncer).desk.debouncer
    left.timer = (TimeSource.elapsed debouncer.timer now).timer ∧
      left.numRows = debouncer.numRows := by
  have hcols' : InPlaceDebouncer.cols (AntiGhost τ rows cols) ≤ width := hcols
  rw [Call.outcome_eq hcols', Call.answer] at hok ⊢
  cases h : Debouncer.debounce checks now debouncer raw cooked numRows changed with
  | error fault =>
    rw [h] at hok
    cases hok
  | ok cycle =>
    obtain ⟨hzero, _⟩ | ⟨_, hcycle⟩ := AntiGhost.debounce_cases h
    · exact absurd hzero huse
    · rw [hcycle]
      exact ⟨rfl, rfl⟩

/-- However many calls are refused after a successful cycle, the next one measures the time since
then. -/
theorem AntiGhost.readings_after_refusals (hcols : cols ≤ width)
    {debouncer : AntiGhost (Recorded MillisTimer) rows cols} (huse : debouncer.numRows ≠ 0)
    {first last : Instant} {raw raw' cooked cooked' : Grid width} {numRows numRows' : Nat}
    {changed changed' : Bool} {between : List (Call width)} :
    let before := (Call.debounce first raw cooked numRows changed).outcome .on debouncer
    let after := (Call.debounce last raw' cooked' numRows' changed').outcome .on
      (Call.leftBy .on before.desk.debouncer between)
    before.trap? = none →
    (∀ outcome ∈ Call.outcomes .on before.desk.debouncer between, outcome.trap? ≠ none) →
    after.trap? = none →
    after.desk.debouncer.timer.readings = before.desk.debouncer.timer.readings ++
      [UInt8.ofNat (min (last.millis - first.millis) maxUnits)] := by
  intro before after hbefore hbetween hafter
  obtain ⟨htimer, hnum⟩ := AntiGhost.timer_outcome hcols huse hbefore
  have hleft : Call.leftBy .on before.desk.debouncer between = before.desk.debouncer := by
    refine leftBy_of_trap ?_ hbetween
    exact hcols
  have huse' : (Call.leftBy .on before.desk.debouncer between).numRows ≠ 0 := by
    rw [hleft, hnum]
    exact huse
  obtain ⟨htimer', _⟩ := AntiGhost.timer_outcome hcols huse' hafter
  -- The time of the first cycle is still what the timer remembers.
  have hlast : before.desk.debouncer.timer.timer.last = some first.millis := by
    rw [htimer]
    simp only [TimeSource.elapsed, MillisTimer.elapsed]
    split <;> rfl
  rw [htimer', hleft]
  simp only [TimeSource.elapsed, MillisTimer.elapsed, hlast]

end Time

/-- A debouncer with timed keys refuses to be initialized with more rows than it has, and cycles
that ask for more rows than it has in common with the grids; one that records events refuses only
the former. A refused call is as good as none, also to a time source that keeps what it has
answered: the next cycle measures from the last one that was not refused. -/
theorem refused_calls_go_unnoticed (τ : Type) [TimeSource τ] (rows capacity : Nat)
    {cols width : Nat} (hcols : cols ≤ width) :
    Unnoticed width (AntiGhost.refusal : AntiGhost τ rows cols → Call width → Option Fault) ∧
    Unnoticed width
      (AntiGhost.refusal : AntiGhost (Recorded τ) rows cols → Call width → Option Fault) ∧
    Unnoticed width
      (EventLog.refusal : EventLog rows cols capacity → Call width → Option Fault) ∧
    ∀ (debouncer : AntiGhost (Recorded MillisTimer) rows cols) (first last : Instant)
      (raw raw' cooked cooked' : Grid width) (numRows numRows' : Nat) (changed changed' : Bool)
      (between : List (Call width)),
      let before := (Call.debounce first raw cooked numRows changed).outcome .on debouncer
      let after := (Call.debounce last raw' cooked' numRows' changed').outcome .on
        (Call.leftBy .on before.desk.debouncer between)
      debouncer.numRows ≠ 0 → before.trap? = none →
      (∀ outcome ∈ Call.outcomes .on before.desk.debouncer between, outcome.trap? ≠ none) →
      after.trap? = none →
      after.desk.debouncer.timer.readings = before.desk.debouncer.timer.readings ++
        [UInt8.ofNat (min (last.millis - first.millis) maxUnits)] := by
  refine ⟨?_, ?_, ?_, ?_⟩
  · exact unnoticed_of_fault?_answer hcols AntiGhost.fault?_answer
  · exact unnoticed_of_fault?_answer hcols AntiGhost.fault?_answer
  · exact unnoticed_of_fault?_answer hcols EventLog.fault?_answer
  · intro debouncer first last raw raw' cooked cooked' numRows numRows' changed changed' between
      before after huse
    exact AntiGhost.readings_after_refusals hcols huse

/-- The first of two keys in a column is held down. -/
def heldDown : Grid 8 := .ofList [⟨1⟩, ⟨0⟩]

/-- A debouncer for two rows is asked for three, by an initialization and by a cycle. -/
def excess : List (Call 8) := [.init 3, .debounce ⟨9000⟩ heldDown (.released 2) 3 true]

/-- Both requests are refused, and the cycle after them measures seven milliseconds. -/
theorem excess_goes_unnoticed :
    let fresh : AntiGhost (Recorded MillisTimer) 2 3 := .ofTimer (.uniform 0) ⟨{}, []⟩
    let initialized := Call.leftBy .on fresh ([.init 2] : List (Call 8))
    let before := (Call.debounce ⟨5000⟩ heldDown (.released 2) 2 true).outcome .on initialized
    let calls := .debounce ⟨5000⟩ heldDown (.released 2) 2 true :: excess
    let kept := (Call.outcomes .on initialized calls).filter Outcome.isOk
    let after := (Call.debounce ⟨12000⟩ heldDown (.released 2) 2 true).outcome .on
      (Call.leftBy .on before.desk.debouncer excess)
    3 ≤ 8 ∧
      (Call.outcomes .on initialized calls).map (·.trap?) =
        [none, some (.fault .tooManyRows), some (.fault .sizeMismatch)] ∧
      kept.length = 1 ∧
      Call.outcomes .on initialized (kept.map (·.call)) = kept ∧
      initialized.numRows ≠ 0 ∧ before.trap? = none ∧
      (∀ outcome ∈ Call.outcomes .on before.desk.debouncer excess, outcome.trap? ≠ none) ∧
      after.trap? = none ∧
      after.desk.debouncer.timer.readings = before.desk.debouncer.timer.readings ++
        [UInt8.ofNat (min ((⟨12000⟩ : Instant).millis - (⟨5000⟩ : Instant).millis) maxUnits)] ∧
      after.desk.debouncer.timer.readings = [1, 7] := by
  dsimp only
  obtain ⟨_, hunnoticed, _, hmeasured⟩ :=
    refused_calls_go_unnoticed MillisTimer 2 4 (show 3 ≤ 8 by decide)
  refine ⟨by decide, by decide +kernel, by decide +kernel, (hunnoticed.outcomes_kept _ _).1,
    by decide +kernel, by decide +kernel, by decide +kernel, by decide +kernel, ?_,
    by decide +kernel⟩
  apply hmeasured
  · decide +kernel
  · decide +kernel
  · decide +kernel
  · decide +kernel

end KeyMatrix
