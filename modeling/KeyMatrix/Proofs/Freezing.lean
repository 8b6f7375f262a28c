import KeyMatrix.Proofs.ChangeLog

/-! # Frozen keys

As long as its cell is ambiguous a key is frozen: it neither looks at its input nor takes the time.
A freeze may last as long as it likes, and it is as good as none, since the key goes on afterwards
where it has stopped. All that a key has ever heard is what reached it in the other cycles, and two
keys that have heard the same cannot be told apart.
-/
namespace KeyMatrix

/-! ## What a switch hears -/

/-- The signals that can be trusted. -/
def Signal.trusted (signals : List Signal) : List Signal :=
  signals.filter fun signal => !signal.ambiguous

theorem Signal.trusted_cons (signal : Signal) (signals : List Signal) :
    trusted (signal :: signals) =
      if signal.ambiguous then trusted signals else signal :: trusted signals := by
  rw [trusted, List.filter_cons]
  cases signal.ambiguous <;> rfl

namespace Switch

variable (config : Config) (switch : Switch)

/-- The switch after several signals in order. -/
def afterAll (switch : Switch) (signals : List Signal) : Switch :=
  signals.foldl (advance config) switch

/-- The states that a switch accepts on the way. -/
def acceptances (switch : Switch) : List Signal → List Bool
  | [] => []
  | signal :: signals =>
    let later := acceptances (switch.advance config signal) signals
    if (switch.step config signal).2 = .accepted then
      (switch.advance config signal).cooked :: later
    else later

theorem afterAll_cons (signal : Signal) (signals : List Signal) :
    switch.afterAll config (signal :: signals) =
      (switch.advance config signal).afterAll config signals := rfl

theorem afterAll_append (first second : List Signal) :
    switch.afterAll config (first ++ second) =
      (switch.afterAll config first).afterAll config second :=
  List.foldl_append

theorem acceptances_append (first second : List Signal) :
    switch.acceptances config (first ++ second) =
      switch.acceptances config first ++
        (switch.afterAll config first).acceptances config second := by
  induction first generalizing switch with
  | nil => rfl
  | cons signal first ih =>
    simp only [List.cons_append, acceptances, afterAll_cons, ih]
    split <;> simp

/-- A switch is deaf to signals that it does not trust. -/
theorem afterAll_trusted (signals : List Signal) :
    switch.afterAll config (Signal.trusted signals) = switch.afterAll config signals := by
  induction signals generalizing switch with
  | nil => rfl
  | cons signal signals ih =>
    rw [Signal.trusted_cons, afterAll_cons]
    by_cases ht : signal.ambiguous = true
    · rw [if_pos ht, advance_ambiguous config switch ht, ih]
    · rw [if_neg ht, afterAll_cons, ih]

theorem acceptances_trusted (signals : List Signal) :
    switch.acceptances config (Signal.trusted signals) = switch.acceptances config signals := by
  induction signals generalizing switch with
  | nil => rfl
  | cons signal signals ih =>
    rw [Signal.trusted_cons, acceptances]
    by_cases ht : signal.ambiguous = true
    · have hignored : (switch.step config signal).2 = .ignored := by
        rw [step, Key.step_ambiguous config ht]
      simp [ht, hignored, advance_ambiguous config switch ht, ih]
    · simp [ht, acceptances, ih]

end Switch

/-! ## What a run does to a cell -/

/-- The change whose acceptance is reported. -/
def Message.accepted? : Message → Option Change
  | .accepted change => some change
  | .initialized .. | .freed | .timerStarted _ | .logged _ => none

namespace Run

variable {σ τ : Type} {width rows room cols : Nat} [Scanner σ width] [TimeSource τ]
variable (run : Run σ (AntiGhost τ room cols) width rows)

/-- What reaches a cell in the first `n` cycles. -/
def signals (r c n : Nat) : List Signal := (List.range n).map (run.signal r c)

/-- What it hears of that: the signals of the cycles in which it is not ambiguous. -/
def heard (r c n : Nat) : List Signal := Signal.trusted (run.signals r c n)

/-- The changes of a cell that are reported as accepted in cycle `k`, once the time source has had
its say. -/
def acceptedIn (cell : Cell) (k : Nat) : List Change :=
  (((run.log k).drop (run.timerLog k).length).filterMap Message.accepted?).filter (·.cell = cell)

/-- The changes of a cell that are reported as accepted in the first `n` cycles. -/
def acceptedChanges (cell : Cell) (n : Nat) : List Change :=
  (List.range n).flatMap (run.acceptedIn cell)

theorem signals_succ (r c n : Nat) :
    run.signals r c (n + 1) = run.signals r c n ++ [run.signal r c n] := by
  simp [signals, List.range_succ]

theorem acceptedChanges_succ (cell : Cell) (n : Nat) :
    run.acceptedChanges cell (n + 1) = run.acceptedChanges cell n ++ run.acceptedIn cell n := by
  simp [acceptedChanges, List.range_succ]

theorem acceptedIn_eq (hcols : cols ≤ width) {cell : Cell} (hcell : cell ∈ cells run.numRows cols)
    (k : Nat) :
    run.acceptedIn cell k = ((run.cooked k).change? (run.cooked (k + 1)) cell).toList := by
  have hmessages : ((run.changes k).map Message.accepted).filterMap Message.accepted? =
      run.changes k := by
    simp [List.filterMap_map, Function.comp_def, Message.accepted?]
  rw [acceptedIn, run.log_eq hcols, List.drop_left, hmessages, changes,
    Grid.filter_changes _ _ hcell]

section Cell
variable (hcols : cols ≤ width) {r c : Nat} (hr : r < run.numRows) (hc : c < cols)
include hcols hr hc

/-- What is reported of a cell is what its switch accepts. -/
theorem acceptedIn_eq_acceptances (k : Nat) :
    run.acceptedIn ⟨r, c⟩ k =
      ((run.switch r c k).acceptances run.debouncer.config [run.signal r c k]).map
        (Change.mk r c) := by
  have hbefore : (run.cooked k).isPressed r c = (run.switch r c k).cooked := rfl
  have hafter : (run.cooked (k + 1)).isPressed r c =
      ((run.switch r c k).advance run.debouncer.config (run.signal r c k)).cooked :=
    congrArg Switch.cooked (run.switch_succ hcols hr hc k)
  rw [run.acceptedIn_eq hcols (mem_cells.2 ⟨hr, hc⟩), Grid.change?]
  dsimp only
  rw [hbefore, hafter]
  simp only [Switch.acceptances, Switch.advance]
  by_cases ha : ((run.switch r c k).step run.debouncer.config (run.signal r c k)).2 = .accepted
  · simp [ha]
  · simp [ha]

theorem switch_eq_afterAll (n : Nat) :
    run.switch r c n = Switch.afterAll run.debouncer.config {} (run.signals r c n) := by
  induction n with
  | zero => exact run.switch_zero r c
  | succ n ih =>
    rw [signals_succ, Switch.afterAll_append, ← ih]
    exact run.switch_succ hcols hr hc n

theorem acceptedChanges_eq (n : Nat) :
    run.acceptedChanges ⟨r, c⟩ n =
      (Switch.acceptances run.debouncer.config {} (run.signals r c n)).map (Change.mk r c) := by
  induction n with
  | zero => rfl
  | succ n ih =>
    rw [acceptedChanges_succ, signals_succ, Switch.acceptances_append, List.map_append, ih,
      run.acceptedIn_eq_acceptances hcols hr hc, run.switch_eq_afterAll hcols hr hc]

/-- A key is where the signals that it has heard lead. -/
theorem switch_eq_afterAll_heard (n : Nat) :
    run.switch r c n = Switch.afterAll run.debouncer.config {} (run.heard r c n) := by
  rw [heard, Switch.afterAll_trusted]
  exact run.switch_eq_afterAll hcols hr hc n

theorem acceptedChanges_eq_heard (n : Nat) :
    run.acceptedChanges ⟨r, c⟩ n =
      (Switch.acceptances run.debouncer.config {} (run.heard r c n)).map (Change.mk r c) := by
  rw [heard, Switch.acceptances_trusted]
  exact run.acceptedChanges_eq hcols hr hc n

/-- What becomes of a key, and what is reported of it, depends on the signals that it has heard, and
on nothing else. It makes no difference how often and how long it has been frozen in between, nor
what has reached it meanwhile: in every other run in which it hears the same, the same becomes of
it. -/
theorem frozen_cycles_leave_no_trace (n : Nat) :
    run.switch r c n = Switch.afterAll run.debouncer.config {} (run.heard r c n) ∧
    run.acceptedChanges ⟨r, c⟩ n =
      (Switch.acceptances run.debouncer.config {} (run.heard r c n)).map (Change.mk r c) ∧
    ∀ (σ' τ' : Type) (width' rows' room' cols' : Nat) [Scanner σ' width'] [TimeSource τ']
      (other : Run σ' (AntiGhost τ' room' cols') width' rows') (m : Nat),
      cols' ≤ width' → r < other.numRows → c < cols' →
      other.debouncer.config = run.debouncer.config → other.heard r c m = run.heard r c n →
      other.key m r c = run.key n r c ∧
        (other.cooked m).isPressed r c = (run.cooked n).isPressed r c ∧
        other.acceptedChanges ⟨r, c⟩ m = run.acceptedChanges ⟨r, c⟩ n := by
  have hswitch := run.switch_eq_afterAll_heard hcols hr hc n
  have haccepted := run.acceptedChanges_eq_heard hcols hr hc n
  refine ⟨hswitch, haccepted, ?_⟩
  intro σ' τ' width' rows' room' cols' _ _ other m hcols' hr' hc' hconfig hheard
  have hsame : other.switch r c m = run.switch r c n := by
    rw [hswitch, other.switch_eq_afterAll_heard hcols' hr' hc', hconfig, hheard]
  have hreports : other.acceptedChanges ⟨r, c⟩ m = run.acceptedChanges ⟨r, c⟩ n := by
    rw [haccepted, other.acceptedChanges_eq_heard hcols' hr' hc', hconfig, hheard]
  exact ⟨congrArg Switch.key hsame, congrArg Switch.cooked hsame, hreports⟩

end Cell

/-- The key of `detour` is held down again, but nothing comes in between. -/
def straight : Run (FrameScanner 8) (AntiGhost MillisTimer 2 2) 8 2 :=
  Run.ofScanner .on (fun k => ⟨1000 * [0, 1].getD k 3⟩)
    { numRows := 2, frames := [{ grid := .ofList [⟨0b01⟩, ⟨0b00⟩] }] }
    (.ofTimer { press := 2, release := 3, quiesce := 1 } {}) rfl

/-- In `detour` the key is frozen for three cycles and ten milliseconds. Then it goes on as in
`straight`, and is accepted on the same signal. -/
theorem straight_eq_detour :
    2 ≤ 8 ∧ 0 < detour.numRows ∧ 0 < straight.numRows ∧ 0 < 2 ∧
      straight.debouncer.config = detour.debouncer.config ∧
      straight.heard 0 0 3 = detour.heard 0 0 6 ∧
      (detour.signals 0 0 6).map (·.ambiguous) = [false, true, true, true, false, false] ∧
      straight.key 3 0 0 = detour.key 6 0 0 ∧
      (straight.cooked 3).isPressed 0 0 = (detour.cooked 6).isPressed 0 0 ∧
      straight.acceptedChanges ⟨0, 0⟩ 3 = detour.acceptedChanges ⟨0, 0⟩ 6 ∧
      detour.acceptedChanges ⟨0, 0⟩ 6 = [⟨0, 0, true⟩] := by
  have hheard : straight.heard 0 0 3 = detour.heard 0 0 6 := by decide +kernel
  have hfrozen : (detour.signals 0 0 6).map (·.ambiguous) =
      [false, true, true, true, false, false] := by decide +kernel
  have hreport : detour.acceptedChanges ⟨0, 0⟩ 6 = [⟨0, 0, true⟩] := by decide +kernel
  have hr : 0 < detour.numRows := by decide
  have hr' : 0 < straight.numRows := by decide
  obtain ⟨hkey, hcooked, haccepted⟩ :=
    (detour.frozen_cycles_leave_no_trace (by decide) hr (by decide) 6).2.2 _ _ _ _ _ _ straight 3
      (by decide) hr' (by decide) rfl hheard
  exact ⟨by decide, hr, hr', by decide, rfl, hheard, hfrozen, hkey, hcooked, haccepted, hreport⟩

end Run
end KeyMatrix
