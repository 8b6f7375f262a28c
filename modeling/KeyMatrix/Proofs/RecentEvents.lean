import KeyMatrix.EventLog
import KeyMatrix.Proofs.Calls
import Mathlib.Data.List.DropRight

/-! # What an event log keeps

Read back, the events of a log are the latest differences between the raw and the cooked grids that
it was given since it was last initialized, as many as it has room for.
-/
namespace KeyMatrix

/-! ## The latest entries -/

section Latest
variable {α β : Type} {capacity : Nat}

/-- Forgetting early what will be forgotten anyway makes no difference. -/
theorem rtake_append_rtake (old new : List α) (n : Nat) :
    (old.rtake n ++ new).rtake n = (old ++ new).rtake n := by
  simp only [List.rtake_eq_reverse_take_reverse, List.reverse_append, List.reverse_reverse]
  rw [List.take_append, List.take_append, List.take_take]
  simp

theorem rtake_map (f : α → β) (list : List α) (n : Nat) :
    (list.map f).rtake n = (list.rtake n).map f := by
  simp [List.rtake, List.map_drop]

namespace History

theorem rtake_toList (history : History α capacity) :
    history.toList.rtake capacity = history.toList := by
  rw [List.rtake, Nat.sub_eq_zero_of_le history.length_le, List.drop_zero]

theorem toList_pushAll (history : History α capacity) (entries : List α) :
    (history.pushAll entries).toList = (history.toList ++ entries).rtake capacity := by
  induction entries generalizing history with
  | nil => rw [List.append_nil, rtake_toList]; rfl
  | cons entry entries ih =>
    have hpush : (history.push entry).toList = (history.toList ++ [entry]).rtake capacity := by
      rw [toList_push, List.rtake, List.length_append, List.length_singleton]
    change ((history.push entry).pushAll entries).toList = _
    rw [ih, hpush, rtake_append_rtake, List.append_assoc, List.singleton_append]

end History
end Latest

/-! ## Reading events back -/

/-- A raw key change as it is told: when, where, and whether the key went down. -/
structure Entry where
  /-- The time in milliseconds, without whole turns of the 16-bit clock. -/
  time : Nat
  row : Nat
  col : Nat
  pressed : Bool
  deriving DecidableEq, Repr

/-- What an event tells. -/
def Event.entry (event : Event) : Entry where
  time := event.time.toNat
  row := event.row.toNat
  col := event.col.toNat
  pressed := event.pressed

/-- The cells in which two grids differ, row by row, with the raw bit. -/
def differences {width : Nat} (now : Instant) (raw cooked : Grid width) (rows cols : Nat) :
    List Entry :=
  ((cells rows cols).filter fun cell =>
      raw.isPressed cell.row cell.col ≠ cooked.isPressed cell.row cell.col).map fun cell =>
    { time := now.millis % 65536
      row := cell.row
      col := cell.col
      pressed := raw.isPressed cell.row cell.col }

namespace EventLog
variable {rows cols capacity width : Nat}

theorem entry_eventOf (now : Instant) (change : Change) (hrow : change.row < 256)
    (hcol : change.col < 128) : (eventOf now change).entry =
      ⟨now.millis % 65536, change.row, change.col, change.pressed⟩ := by
  have hrowByte : (UInt8.ofNat change.row).toNat = change.row := UInt8.toNat_ofNat_of_lt' hrow
  have hcolByte : (UInt8.ofNat change.col).toNat = change.col :=
    UInt8.toNat_ofNat_of_lt' (hcol.trans (by decide))
  rw [Event.entry, eventOf, Event.pressed_record,
    Event.col_record _ _ (hcolByte.trans_lt hcol), hcolByte]
  simp only [Event.record, hrowByte]
  rfl

/-- In a matrix whose rows and columns fit into an event, nothing is lost by packing. -/
theorem map_entry_changes (hrows : rows ≤ 254) (hcols : cols ≤ 127) (now : Instant)
    (raw cooked : Grid width) :
    ((cooked.changes raw rows cols).map (eventOf now)).map Event.entry =
      differences now raw cooked rows cols := by
  have hfits : ∀ cell ∈ cells rows cols, cell.row < 256 ∧ cell.col < 128 := by
    intro cell hcell
    rw [mem_cells] at hcell
    omega
  rw [Grid.changes, differences]
  generalize cells rows cols = path at hfits
  induction path with
  | nil => rfl
  | cons cell path ih =>
    rw [List.forall_mem_cons] at hfits
    have hentry := entry_eventOf now ⟨cell.row, cell.col, raw.isPressed cell.row cell.col⟩
      hfits.1.1 hfits.1.2
    by_cases hsame : raw.isPressed cell.row cell.col = cooked.isPressed cell.row cell.col
    · simpa [hsame] using ih hfits.2
    · simpa [hsame, hentry] using ih hfits.2

end EventLog

/-! ## The chronicle of a sequence of calls -/

/-- All that happened since a log was last initialized. -/
structure Chronicle where
  /-- The rows in use. -/
  numRows : Nat := 0
  entries : List Entry := []

namespace Chronicle
variable {width : Nat}

/-- The chronicle after a call of a log with `rows` rows and `cols` columns. -/
def after (rows cols : Nat) (chronicle : Chronicle) : Call width → Chronicle
  | .init n => if n ≤ rows then { numRows := n } else chronicle
  | .free => { chronicle with numRows := 0 }
  | .debounce now raw cooked numRows changed =>
    if changed then
      let shared := min (min (min numRows chronicle.numRows) raw.size) cooked.size
      { chronicle with entries := chronicle.entries ++ differences now raw cooked shared cols }
    else chronicle

/-- The chronicle of a sequence of calls. -/
def ofCalls (rows cols : Nat) (calls : List (Call width)) : Chronicle :=
  calls.foldl (after rows cols) {}

end Chronicle

namespace EventLog
variable {rows cols capacity width : Nat}

/-- A log refuses to be initialized with more rows than it has. -/
theorem after_init_of_lt (log : EventLog rows cols capacity) (checks : Checks) {n : Nat}
    (hn : rows < n) : (Call.init n : Call width).after checks log = log := by
  simp only [Call.after, Debouncer.init, EventLog.init, dif_neg (Nat.not_le.mpr hn)]

theorem events_after_debounce (log : EventLog rows cols capacity) (checks : Checks) (now : Instant)
    (raw cooked : Grid width) (numRows : Nat) :
    ((Call.debounce now raw cooked numRows true).after checks log).events =
      log.events.pushAll ((cooked.changes raw (sharedRows numRows log.numRows raw cooked) cols).map
        (eventOf now)) := rfl

/-- A log tells the end of a chronicle. -/
structure Tells (log : EventLog rows cols capacity) (chronicle : Chronicle) : Prop where
  numRows_eq : log.numRows = chronicle.numRows
  entries_eq : log.events.toList.map Event.entry = chronicle.entries.rtake capacity

theorem Tells.blank : Tells ({} : EventLog rows cols capacity) {} where
  numRows_eq := rfl
  entries_eq := by simp [History.empty, List.rtake]

/-- Whatever is called, a log goes on telling the end of the chronicle. -/
theorem Tells.after {log : EventLog rows cols capacity} {chronicle : Chronicle}
    (htells : Tells log chronicle) (hrows : rows ≤ 254) (hcols : cols ≤ 127) (checks : Checks)
    (call : Call width) : Tells (call.after checks log) (chronicle.after rows cols call) := by
  cases call with
  | init n =>
    by_cases hn : n ≤ rows
    · simp only [Call.after, Debouncer.init, EventLog.init, dif_pos hn, Chronicle.after, if_pos hn]
      exact ⟨rfl, by simp [History.empty, List.rtake]⟩
    · simpa only [after_init_of_lt log checks (Nat.not_le.mp hn), Chronicle.after, if_neg hn]
        using htells
  | free => exact ⟨rfl, htells.entries_eq⟩
  | debounce now raw cooked numRows changed =>
    cases changed with
    | false => exact htells
    | true =>
      constructor
      · exact htells.numRows_eq
      · have hshared : sharedRows numRows log.numRows raw cooked ≤ 254 :=
          (sharedRows_le_inUse ..).trans (log.numRows_le.trans hrows)
        -- What had to make way before is not among the latest entries now either.
        rw [events_after_debounce, History.toList_pushAll, ← rtake_map, List.map_append,
          htells.entries_eq, map_entry_changes hshared hcols, rtake_append_rtake,
          htells.numRows_eq]
        rfl

theorem Tells.afterAll {log : EventLog rows cols capacity} {chronicle : Chronicle}
    (htells : Tells log chronicle) (hrows : rows ≤ 254) (hcols : cols ≤ 127) (checks : Checks)
    (calls : List (Call width)) :
    Tells (Call.afterAll checks log calls) (calls.foldl (Chronicle.after rows cols) chronicle) := by
  induction calls generalizing log chronicle with
  | nil => exact htells
  | cons call calls ih => exact ih (htells.after hrows hcols checks call)

/-! ## A log out of use -/

/-- Without rows in use, and as long as no initialization succeeds, no call has an effect. -/
theorem after_of_numRows_eq_zero (log : EventLog rows cols capacity) (checks : Checks)
    (call : Call width) (hidle : log.numRows = 0) (hrefused : ∀ n, call = .init n → rows < n) :
    (call.after checks log).numRows = 0 ∧ (call.after checks log).events = log.events := by
  cases call with
  | init n =>
    rw [after_init_of_lt log checks (hrefused n rfl)]
    exact ⟨hidle, rfl⟩
  | free => exact ⟨rfl, rfl⟩
  | debounce now raw cooked numRows changed =>
    cases changed with
    | false => exact ⟨hidle, rfl⟩
    | true =>
      constructor
      · exact hidle
      · have hshared : sharedRows numRows log.numRows raw cooked = 0 := by
          simp [sharedRows, hidle]
        rw [events_after_debounce, hshared]
        rfl

theorem events_afterAll_of_numRows_eq_zero (log : EventLog rows cols capacity) (checks : Checks)
    (calls : List (Call width)) (hidle : log.numRows = 0)
    (hrefused : ∀ n, .init n ∈ calls → rows < n) :
    (Call.afterAll checks log calls).events = log.events := by
  induction calls generalizing log with
  | nil => rfl
  | cons call calls ih =>
    have hcall := after_of_numRows_eq_zero log checks call hidle fun n hn =>
      hrefused n (hn ▸ List.mem_cons_self)
    rw [Call.afterAll_cons, ← hcall.2]
    exact ih _ hcall.1 fun n hn => hrefused n (List.mem_cons_of_mem _ hn)

/-- After any sequence of calls a log holds the latest entries of its chronicle, as many as it has
room for. Freeing it keeps them, and nothing is added before it is initialized again. -/
theorem events_are_latest_changes (rows cols capacity : Nat) (hrows : rows ≤ 254)
    (hcols : cols ≤ 127) (checks : Checks) (calls : List (Call width)) :
    let log := Call.afterAll checks ({} : EventLog rows cols capacity) calls
    log.events.toList.map Event.entry =
        (Chronicle.ofCalls rows cols calls).entries.rtake capacity ∧
      ∀ later : List (Call width), (∀ n, .init n ∈ later → rows < n) →
        (Call.afterAll checks log (.free :: later)).events = log.events := by
  intro log
  constructor
  · exact (Tells.blank.afterAll hrows hcols checks calls).entries_eq
  · intro later hrefused
    exact events_afterAll_of_numRows_eq_zero log.free.debouncer checks later rfl hrefused

/-- The calls of six cycles in which a finger slides along a strip of keys. -/
def slide : List (Call 8) :=
  .init 1 :: (List.range 6).map fun c =>
    .debounce ⟨1000 * (70000 + c)⟩ (.ofList [.ofNat 8 (1 <<< c)])
      (.ofList [.ofNat 8 ((1 <<< c) / 2)]) 1 true

/-- Of eleven changes a log with room for four keeps the last ones, also when it is freed and its
caller goes on regardless. -/
theorem slide_latest_changes :
    let log := Call.afterAll .on ({} : EventLog 1 8 4) slide
    1 ≤ 254 ∧ 8 ≤ 127 ∧ (Chronicle.ofCalls 1 8 slide).entries.length = 11 ∧
      log.events.toList.map Event.entry = [⟨4468, 0, 3, false⟩, ⟨4468, 0, 4, true⟩,
        ⟨4469, 0, 4, false⟩, ⟨4469, 0, 5, true⟩] ∧
      (∀ n, .init n ∈ (.init 2 :: slide.tail) → 1 < n) ∧
      (Call.afterAll .on log (.free :: .init 2 :: slide.tail)).events = log.events := by
  have hrefused : ∀ n, .init n ∈ (.init 2 :: slide.tail) → 1 < n := by simp [slide]
  obtain ⟨hlatest, hfreed⟩ := events_are_latest_changes 1 8 4 (by decide) (by decide) .on slide
  refine ⟨by decide, by decide, by decide +kernel, ?_, hrefused, hfreed _ hrefused⟩
  rw [hlatest]
  decide +kernel

end EventLog
end KeyMatrix
