import KeyMatrix.Proofs.ChangeLog
import KeyMatrix.Proofs.RecentEvents
import KeyMatrix.Replay

/-! # The mirror of the cooked grid

The events that a matrix records are the changes of its cooked grid. Carried out in order, they
rebuild it. Of one key they go down and up in turns, at most once per cycle, and end with the state
that it is in. A log without room for all of them still shows the end of this course.
-/
namespace KeyMatrix

/-! ## The turns of a bit -/

section Turns
variable (state : Nat → Bool)

/-- Those of the first `k` steps in which the bit turns. -/
def turns (k : Nat) : List Nat := (List.range k).filter fun i => state (i + 1) ≠ state i

theorem turns_succ (k : Nat) :
    turns state (k + 1) = turns state k ++ if state (k + 1) = state k then [] else [k] := by
  rw [turns, List.range_succ, List.filter_append, turns]
  by_cases h : state (k + 1) = state k
  · simp [h]
  · simp [h]

theorem pairwise_turns (k : Nat) : (turns state k).Pairwise (· < ·) :=
  List.pairwise_lt_range.filter _

/-- The last turn has led to the present state. -/
theorem state_of_getLast?_turns {k i : Nat} (h : i ∈ (turns state k).getLast?) :
    state (i + 1) = state k := by
  induction k with
  | zero => simp [turns] at h
  | succ k ih =>
    rw [turns_succ] at h
    by_cases hsame : state (k + 1) = state k
    · rw [if_pos hsame, List.append_nil] at h
      rw [ih h, hsame]
    · rw [if_neg hsame, List.getLast?_concat, Option.mem_some_iff] at h
      rw [h]

/-- From turn to turn the state alternates. -/
theorem isChain_turns (k : Nat) :
    (turns state k).IsChain fun i j => state (i + 1) ≠ state (j + 1) := by
  induction k with
  | zero => simp [turns]
  | succ k ih =>
    rw [turns_succ]
    by_cases hsame : state (k + 1) = state k
    · rw [if_pos hsame, List.append_nil]
      exact ih
    · rw [if_neg hsame, List.isChain_append]
      refine ⟨ih, List.isChain_singleton k, fun i hi j hj => ?_⟩
      rw [List.head?_cons, Option.mem_some_iff] at hj
      rw [state_of_getLast?_turns state hi, ← hj]
      exact Ne.symm hsame

end Turns

/-! ## Events and changes -/

/-- The change that an event stands for. -/
def Event.change (event : Event) : Change where
  row := event.row.toNat
  col := event.col.toNat
  pressed := event.pressed

theorem EventLog.change_eventOf (now : Instant) {change : Change} (hrow : change.row < 256)
    (hcol : change.col < 128) : (eventOf now change).change = change := by
  have hentry := entry_eventOf now change hrow hcol
  rw [Event.entry, Entry.mk.injEq] at hentry
  rw [Event.change, hentry.2.1, hentry.2.2.1, hentry.2.2.2]

/-! ## What a run records -/

namespace Run

variable {σ : Type} {width rows room cols capacity : Nat} [Scanner σ width]
variable (run : Run σ (EventLog room cols capacity) width rows)

/-- The events that are kept before cycle `k`. -/
def events (k : Nat) : History Event capacity := (run.matrix k).debouncer.events

/-- The events that cycle `k` records. -/
def recorded (k : Nat) : List Event :=
  if run.hint k then
    ((run.cooked k).changes (run.raw k) run.numRows cols).map (EventLog.eventOf (run.clock k))
  else []

theorem log_has_room : run.numRows ≤ room := by
  obtain ⟨hn, _⟩ := EventLog.init_cases run.init_debouncer
  exact hn

theorem events_zero : run.events 0 = .empty := by
  obtain ⟨_, hprepared⟩ := EventLog.init_cases run.init_debouncer
  exact congrArg (fun prepared => prepared.debouncer.events) hprepared

/-- A cycle adds its events, and leaves the raw grid as the cooked one, unless the scanner hints
that there is nothing new. -/
theorem recording (k : Nat) :
    run.events (k + 1) = (run.events k).pushAll (run.recorded k) ∧
      run.cooked (k + 1) = if run.hint k then run.raw k else run.cooked k := by
  have huse : (run.matrix k).debouncer.numRows = run.numRows := run.rowsInUse_debouncer k
  have hshared : sharedRows run.numRows (run.matrix k).debouncer.numRows (run.raw k)
      (run.cooked k) = run.numRows := by
    rw [huse]
    exact sharedRows_self (run.size_raw k) (run.size_cooked k)
  have hcopied : (run.cooked k).overwrite run.numRows (run.raw k) = run.raw k := by
    have h := overwrite_sharedRows (run.size_raw k) (run.size_cooked k)
    rwa [sharedRows_self (run.size_raw k) (run.size_cooked k)] at h
  have hcycle : (run.matrix k).debouncer.debounce (run.clock k) (run.raw k) (run.cooked k)
      run.numRows (run.hint k) = ⟨(run.matrix (k + 1)).debouncer, run.cooked (k + 1), run.log k⟩ :=
    Except.ok.inj (run.debounced k)
  rw [EventLog.debounce, hshared, EventLog.cover, hcopied] at hcycle
  rw [events, events, recorded]
  cases hhint : run.hint k with
  | false =>
    rw [hhint] at hcycle
    obtain ⟨hdebouncer, hcooked, _⟩ := Cycle.mk.inj hcycle
    rw [← hdebouncer, ← hcooked]
    exact ⟨rfl, rfl⟩
  | true =>
    rw [hhint] at hcycle
    obtain ⟨hdebouncer, hcooked, _⟩ := Cycle.mk.inj hcycle
    rw [← hdebouncer, ← hcooked]
    exact ⟨rfl, rfl⟩

/-- What is recorded are the changes of the cooked grid. -/
theorem recorded_eq (k : Nat) :
    run.recorded k = ((run.cooked k).changes (run.cooked (k + 1)) run.numRows cols).map
      (EventLog.eventOf (run.clock k)) := by
  rw [recorded, (run.recording k).2]
  cases run.hint k with
  | false => simp
  | true => rfl

/-- All that has been recorded before cycle `k`, with the cycles that it stems from. -/
def chronicle (k : Nat) : List (Nat × Event) :=
  (List.range k).flatMap fun i => (run.recorded i).map (Prod.mk i)

/-- The end of it that is still kept. -/
def retained (k : Nat) : List (Nat × Event) := (run.chronicle k).rtake capacity

/-- The end of the course of one key, as far as it is kept. -/
def retainedOf (cell : Cell) (k : Nat) : List (Nat × Event) :=
  (run.retained k).filter (·.2.change.cell = cell)

theorem chronicle_succ (k : Nat) :
    run.chronicle (k + 1) = run.chronicle k ++ (run.recorded k).map (Prod.mk k) := by
  rw [chronicle, List.range_succ, List.flatMap_append, List.flatMap_singleton, chronicle]

theorem events_eq (k : Nat) : (run.events k).toList = (run.retained k).map Prod.snd := by
  rw [retained, ← rtake_map]
  induction k with
  | zero =>
    rw [events_zero]
    simp [chronicle, History.empty, List.rtake]
  | succ k ih =>
    rw [(run.recording k).1, History.toList_pushAll, ih, rtake_append_rtake, chronicle_succ,
      List.map_append, List.map_map]
    simp

variable (hroom : room ≤ 254) (hcols : cols ≤ 127)
include hroom hcols

/-- In a matrix whose rows and columns fit into an event, every event can be read back. -/
theorem change_eventOf_of_mem {k : Nat} {change : Change}
    (h : change ∈ (run.cooked k).changes (run.cooked (k + 1)) run.numRows cols) :
    (EventLog.eventOf (run.clock k) change).change = change := by
  have hn := run.log_has_room
  obtain ⟨hcell, _⟩ := Grid.mem_changes.1 h
  exact EventLog.change_eventOf _ (by omega) (by omega)

theorem map_change_recorded (k : Nat) :
    (run.recorded k).map Event.change =
      (run.cooked k).changes (run.cooked (k + 1)) run.numRows cols := by
  rw [recorded_eq, List.map_map]
  exact (List.map_congr_left fun _ h => run.change_eventOf_of_mem hroom hcols h).trans
    (List.map_id _)

theorem recorded_of_cell {cell : Cell} (hcell : cell ∈ cells run.numRows cols) (k : Nat) :
    let state := fun i => (run.cooked i).isPressed cell.row cell.col
    (run.recorded k).filter (·.change.cell = cell) =
      if state (k + 1) = state k then []
      else [EventLog.eventOf (run.clock k) ⟨cell.row, cell.col, state (k + 1)⟩] := by
  intro state
  have hread : ((run.cooked k).changes (run.cooked (k + 1)) run.numRows cols).filter
        (fun change => (EventLog.eventOf (run.clock k) change).change.cell = cell) =
      ((run.cooked k).changes (run.cooked (k + 1)) run.numRows cols).filter (·.cell = cell) :=
    List.filter_congr fun change h => by rw [run.change_eventOf_of_mem hroom hcols h]
  rw [recorded_eq, List.filter_map]
  refine (congrArg _ (hread.trans (Grid.filter_changes _ _ hcell))).trans ?_
  by_cases hsame : state (k + 1) = state k
  · have hnone : (run.cooked k).change? (run.cooked (k + 1)) cell = none :=
      if_neg (by rw [bne_iff_ne]; exact not_not_intro hsame)
    rw [hnone, if_pos hsame]
    rfl
  · have hsome : (run.cooked k).change? (run.cooked (k + 1)) cell =
        some ⟨cell.row, cell.col, state (k + 1)⟩ := if_pos (bne_iff_ne.2 hsame)
    rw [hsome, if_neg hsame]
    rfl

/-- The course of a key in use: an event for every turn of its cooked bit. -/
theorem chronicle_of_cell {cell : Cell} (hcell : cell ∈ cells run.numRows cols) (k : Nat) :
    let state := fun i => (run.cooked i).isPressed cell.row cell.col
    (run.chronicle k).filter (·.2.change.cell = cell) =
      (turns state k).map fun i =>
        (i, EventLog.eventOf (run.clock i) ⟨cell.row, cell.col, state (i + 1)⟩) := by
  intro state
  induction k with
  | zero => simp [chronicle, turns]
  | succ k ih =>
    have hcycle : ((run.recorded k).map (Prod.mk k)).filter (·.2.change.cell = cell) =
        ((run.recorded k).filter (·.change.cell = cell)).map (Prod.mk k) := List.filter_map
    rw [chronicle_succ, List.filter_append, ih, hcycle, run.recorded_of_cell hroom hcols hcell,
      turns_succ, List.map_append]
    by_cases hsame : state (k + 1) = state k
    · rw [if_pos hsame, if_pos hsame]
      rfl
    · rw [if_neg hsame, if_neg hsame]
      rfl

/-- Keys that are not in use have no events. -/
theorem chronicle_outside {cell : Cell} (hcell : cell ∉ cells run.numRows cols) (k : Nat) :
    (run.chronicle k).filter (·.2.change.cell = cell) = [] := by
  rw [List.filter_eq_nil_iff]
  intro entry hentry hown
  obtain ⟨i, _, hi⟩ := List.mem_flatMap.1 hentry
  obtain ⟨event, hevent, rfl⟩ := List.mem_map.1 hi
  have hchange := List.mem_map_of_mem (f := Event.change) hevent
  rw [run.map_change_recorded hroom hcols, Grid.mem_changes] at hchange
  rw [decide_eq_true_eq] at hown
  exact hcell (hown ▸ mem_cells.2 hchange.1)

/-- The whole course of a key: its events alternate, there is at most one in a cycle, and the last
one has led to its present state. -/
theorem course_of_cell (cell : Cell) (k : Nat) :
    let own := (run.chronicle k).filter (·.2.change.cell = cell)
    own.IsChain (fun a b => a.2.pressed ≠ b.2.pressed) ∧ own.Pairwise (fun a b => a.1 < b.1) ∧
      ∀ last ∈ own.getLast?, last.2.pressed = (run.cooked k).isPressed cell.row cell.col := by
  intro own
  by_cases hcell : cell ∈ cells run.numRows cols
  · let state := fun i => (run.cooked i).isPressed cell.row cell.col
    have hown : own = (turns state k).map fun i =>
        (i, EventLog.eventOf (run.clock i) ⟨cell.row, cell.col, state (i + 1)⟩) :=
      run.chronicle_of_cell hroom hcols hcell k
    have hpressed (i : Nat) : (EventLog.eventOf (run.clock i)
        ⟨cell.row, cell.col, state (i + 1)⟩).pressed = state (i + 1) := Event.pressed_record ..
    rw [hown, List.isChain_map, List.pairwise_map, List.getLast?_map]
    refine ⟨?_, pairwise_turns state k, fun last hlast => ?_⟩
    · simp only [hpressed]
      exact isChain_turns state k
    · obtain ⟨i, hi, rfl⟩ := Option.mem_map.1 hlast
      rw [hpressed, state_of_getLast?_turns state hi]
  · have hnone : own = [] := run.chronicle_outside hroom hcols hcell k
    rw [hnone]
    exact ⟨List.isChain_nil, List.Pairwise.nil, fun _ h => nomatch h⟩

/-- All events so far, carried out in order, rebuild the columns in use. -/
theorem replay_chronicle (hwidth : cols ≤ width) (k : Nat) {r c : Nat} (hr : r < run.numRows)
    (hc : c < cols) :
    ((Grid.released run.numRows : Grid width).replay
        ((run.chronicle k).map (·.2.change))).isPressed r c = (run.cooked k).isPressed r c := by
  induction k with
  | zero =>
    rw [cooked_zero]
    rfl
  | succ k ih =>
    have hcycle : ((run.recorded k).map (Prod.mk k)).map (·.2.change) =
        (run.cooked k).changes (run.cooked (k + 1)) run.numRows cols := by
      rw [List.map_map]
      exact run.map_change_recorded hroom hcols k
    rw [chronicle_succ, List.map_append, Grid.replay_append, hcycle,
      Grid.isPressed_replay _ ((run.cooked (k + 1)).isPressed r c), ih]
    · split
      · rfl
      · rename_i hnone
        apply Decidable.byContradiction
        intro hne
        exact hnone ⟨⟨r, c, (run.cooked (k + 1)).isPressed r c⟩,
          Grid.mem_changes.2 ⟨⟨hr, hc⟩, rfl, Ne.symm hne⟩, rfl⟩
    · rw [Grid.size_replay, Grid.size_released]
      exact hr
    · exact hc.trans_le hwidth
    · intro change hchange hown
      obtain ⟨rfl, rfl⟩ := Cell.mk.inj hown
      exact (Grid.mem_changes.1 hchange).2.1

omit hroom hcols in
/-- What is kept of the course of a key is its end. -/
theorem retainedOf_suffix (cell : Cell) (k : Nat) :
    run.retainedOf cell k <:+ (run.chronicle k).filter (·.2.change.cell = cell) :=
  (List.drop_suffix _ _).filter _

end Run

/-- Before cycle `k` the event log shows how the cooked grid has come about. -/
structure Run.Mirrors {σ : Type} {width rows room cols capacity : Nat} [Scanner σ width]
    (run : Run σ (EventLog room cols capacity) width rows) (k : Nat) : Prop where
  /-- Nothing is kept at first, and every cycle adds what it records. -/
  events_zero : run.events 0 = .empty
  events_succ (i : Nat) : run.events (i + 1) = (run.events i).pushAll (run.recorded i)
  /-- What is kept is the end of what has been recorded. -/
  events_eq : (run.events k).toList = (run.retained k).map Prod.snd
  /-- All that has been recorded, carried out in order, gives the columns in use. -/
  replay_eq (r : Nat) {c : Nat} : c < cols →
    ((Grid.released run.numRows : Grid width).replay
        ((run.chronicle k).map (·.2.change))).isPressed r c = (run.cooked k).isPressed r c
  /-- The events kept of a key go down and up in turns. -/
  alternate (cell : Cell) : (run.retainedOf cell k).IsChain fun a b => a.2.pressed ≠ b.2.pressed
  /-- No two of them stem from the same cycle. -/
  pairwise_lt (cell : Cell) : (run.retainedOf cell k).Pairwise fun a b => a.1 < b.1
  /-- The newest one tells the state that the key is in. -/
  newest (cell : Cell) : ∀ last ∈ (run.retainedOf cell k).getLast?,
    last.2.pressed = (run.cooked k).isPressed cell.row cell.col

/-- In every matrix that records events, and however many of them have been forgotten, the log
mirrors the cooked grid. -/
theorem event_log_mirrors_cooked {σ : Type} {width rows room cols : Nat} [Scanner σ width]
    (capacity : Nat) (hroom : room ≤ 254) (hcols : cols ≤ 127) (hwidth : cols ≤ width)
    (run : Run σ (EventLog room cols capacity) width rows) (k : Nat) : run.Mirrors k where
  events_zero := run.events_zero
  events_succ i := (run.recording i).1
  events_eq := run.events_eq k
  replay_eq r c hc := by
    by_cases hr : r < run.numRows
    · exact run.replay_chronicle hroom hcols hwidth k hr hc
    · have hr' := Nat.le_of_not_lt hr
      rw [Grid.isPressed_of_size_le _ (by rwa [Grid.size_replay, Grid.size_released]),
        Grid.isPressed_of_size_le _ (by rwa [run.size_cooked])]
  alternate cell := (run.course_of_cell hroom hcols cell k).1.suffix (run.retainedOf_suffix cell k)
  pairwise_lt cell :=
    (run.course_of_cell hroom hcols cell k).2.1.sublist (run.retainedOf_suffix cell k).sublist
  newest cell last hlast := by
    obtain ⟨older, hown⟩ := run.retainedOf_suffix cell k
    refine (run.course_of_cell hroom hcols cell k).2.2 last ?_
    rw [← hown]
    exact List.mem_getLast?_append_of_mem_getLast? hlast

/-- A key bounces twice while another one goes down. The scanner does not tell about the first
bounce, and there is room for three events only. -/
def bouncedTwice : Run (FrameScanner 8) (EventLog 2 3 3) 8 2 :=
  Run.ofScanner .on (fun k => ⟨1000 * k⟩)
    { numRows := 2
      frames := [
        { grid := .ofList [⟨0b01⟩, ⟨0⟩] },
        { grid := .ofList [⟨0b00⟩, ⟨0⟩], hint := some false },
        { grid := .ofList [⟨0b10⟩, ⟨0⟩] },
        { grid := .ofList [⟨0b11⟩, ⟨0⟩] }] } {} rfl

/-- The first event of the key has been forgotten. The others still alternate, and the newest one
tells that the key is down. -/
theorem bouncedTwice_mirrored :
    2 ≤ 254 ∧ 3 ≤ 127 ∧ 3 ≤ 8 ∧
      (bouncedTwice.chronicle 4).map (fun entry => (entry.1, entry.2.change)) =
        [(0, ⟨0, 0, true⟩), (2, ⟨0, 0, false⟩), (2, ⟨0, 1, true⟩), (3, ⟨0, 0, true⟩)] ∧
      (bouncedTwice.events 4).toList = (bouncedTwice.retained 4).map Prod.snd ∧
      (bouncedTwice.retainedOf ⟨0, 0⟩ 4).map (fun entry => (entry.1, entry.2.pressed)) =
        [(2, false), (3, true)] ∧
      (bouncedTwice.retainedOf ⟨0, 0⟩ 4).IsChain (fun a b => a.2.pressed ≠ b.2.pressed) ∧
      (∀ last ∈ (bouncedTwice.retainedOf ⟨0, 0⟩ 4).getLast?,
        last.2.pressed = (bouncedTwice.cooked 4).isPressed 0 0) ∧
      ((Grid.released 2 : Grid 8).replay
        ((bouncedTwice.chronicle 4).map (·.2.change))).isPressed 0 1 =
          (bouncedTwice.cooked 4).isPressed 0 1 ∧
      bouncedTwice.cooked 4 = .ofList [⟨0b11⟩, ⟨0⟩] := by
  have hmirrors := event_log_mirrors_cooked 3 (show 2 ≤ 254 by decide) (show 3 ≤ 127 by decide)
    (show 3 ≤ 8 by decide) bouncedTwice 4
  exact ⟨by decide, by decide, by decide, by decide +kernel, hmirrors.events_eq, by decide +kernel,
    hmirrors.alternate ⟨0, 0⟩, hmirrors.newest ⟨0, 0⟩, hmirrors.replay_eq 0 (by decide),
    by decide +kernel⟩

end KeyMatrix
