import KeyMatrix.Proofs.Guarded
import KeyMatrix.Proofs.Sessions
import KeyMatrix.Proofs.WallClock

/-! # Ideal time

A reading stops at 255 milliseconds, and a key has no room for more time either. Here is a machine
that does not know of bytes: its gaps and its remaining times are numbers of any size, and lowering
a number by more than it is stops it. It cannot be told from the one with bytes. A remaining time
never comes from anywhere but the settings, so that it fits in a byte, and a gap that does not fit
in one ends it as well as 255 milliseconds do.
-/
namespace KeyMatrix

namespace Ideal

/-- The times of the settings. -/
structure Times where
  press : Nat
  release : Nat
  quiesce : Nat

def Times.threshold (times : Times) (pressed : Bool) : Nat :=
  if pressed then times.press else times.release

/-- What one key is doing. -/
inductive Key where
  | waiting
  | debouncing (remaining : Nat)
  | quiescing (remaining : Nat)
  deriving DecidableEq

/-- Lower a number. -/
def lower (a b : Nat) : Except Trap Nat := if b ≤ a then .ok (a - b) else .error .underflow

/-- Advance a key whose input can be trusted. -/
def Key.advance (times : Times) (raw cooked : Bool) (gap : Nat) :
    Key → Except Trap (Key × Verdict)
  | .waiting =>
    if raw = cooked then .ok (.waiting, .ignored)
    else .ok (.debouncing (times.threshold raw), .pending)
  | .debouncing remaining =>
    if raw = cooked then .ok (.waiting, .ignored)
    else if remaining > gap then do return (.debouncing (← lower remaining gap), .pending)
    else .ok (.quiescing times.quiesce, .accepted)
  | .quiescing remaining =>
    if remaining > gap then do return (.quiescing (← lower remaining gap), .pending)
    else .ok (.waiting, .ignored)

/-- Advance a key by one cycle. A key whose input cannot be trusted stays as it is. -/
def Key.step (times : Times) (ambiguous raw cooked : Bool) (gap : Nat) (key : Key) :
    Except Trap (Key × Verdict) :=
  if ambiguous then .ok (key, .ignored) else key.advance times raw cooked gap

/-- The machine without its clock. -/
structure Board (rows cols : Nat) where
  times : Times
  tally : Tally rows cols := .clear
  keys : Cell → Key := fun _ => .waiting
  numRows : Nat := 0

/-- What a whole sweep shares. -/
structure Scene (width rows cols : Nat) where
  times : Times
  tally : Tally rows cols
  gap : Nat
  raw : Grid width

/-- The state of a sweep between two visits. -/
structure Sweep (width : Nat) where
  cooked : Grid width
  keys : Cell → Key
  changes : List Change := []

variable {width rows cols : Nat}

/-- Advance the key of one cell. -/
def visit (scene : Scene width rows cols) (sweep : Sweep width) (cell : Cell) :
    Except Trap (Sweep width) := do
  let ambiguous := scene.tally.isAmbiguous cell.row cell.col
  let raw := scene.raw.isPressed cell.row cell.col
  let cooked := sweep.cooked.isPressed cell.row cell.col
  let ⟨key, verdict⟩ ← (sweep.keys cell).step scene.times ambiguous raw cooked scene.gap
  let keys := Function.update sweep.keys cell key
  match verdict with
  | .accepted =>
    let cooked := sweep.cooked.toggle cell.row cell.col
    let pressed := cooked.isPressed cell.row cell.col
    return { cooked, keys, changes := sweep.changes ++ [⟨cell.row, cell.col, pressed⟩] }
  | .pending | .ignored => return { sweep with keys }

/-- Visit the given cells in order. -/
def run (scene : Scene width rows cols) (sweep : Sweep width) (path : List Cell) :
    Except Trap (Sweep width) :=
  path.foldlM (visit scene) sweep

/-- The machine between two calls. -/
structure Machine (rows cols : Nat) where
  board : Board rows cols
  /-- The time of the cycle before, in milliseconds. -/
  last : Option Nat := none

/-- The milliseconds that have passed since the cycle before. There has been none before the first
cycle, which takes any gap that it is given. -/
def Machine.gap (machine : Machine rows cols) (first : Nat) (now : Instant) : Nat :=
  match machine.last with
  | none => first
  | some last => (max 0 ((now.millis : Int) - last)).toNat

theorem Machine.gap_of_none {machine : Machine rows cols} (h : machine.last = none) (first : Nat)
    (now : Instant) : machine.gap first now = first := by
  rw [gap, h]

theorem Machine.gap_of_some {machine : Machine rows cols} {last : Nat}
    (h : machine.last = some last) (first : Nat) (now : Instant) :
    machine.gap first now = now.millis - last := by
  rw [gap, h]
  change (max 0 ((now.millis : Int) - last)).toNat = _
  omega

/-- What the machine does when it is called. -/
def Machine.step (checks : Checks) (first : Nat) (machine : Machine rows cols) :
    Call width → Except Trap (Machine rows cols × Answer (Board rows cols) width)
  | .init n =>
    if n ≤ rows then
      let board := { times := machine.board.times, numRows := n }
      .ok ({ board }, .prepared { debouncer := board, log := [.initialized n cols] })
    else .error (.fault .tooManyRows)
  | .free =>
    let board := { times := machine.board.times, keys := machine.board.keys }
    .ok ({ board }, .prepared { debouncer := board, log := [.freed] })
  | .debounce now raw cooked numRows changed =>
    let board := machine.board
    if board.numRows = 0 then .ok (machine, .cycled { debouncer := board, cooked })
    else
      let shared := sharedRows numRows board.numRows raw cooked
      if checks = .on ∧ shared ≠ numRows then .error (.fault .sizeMismatch)
      else do
        let tally := if changed then board.tally.recompute (raw.take shared) else board.tally
        let scene := { times := board.times, tally, gap := machine.gap first now, raw }
        let swept ← run scene { cooked, keys := board.keys } (cells shared cols)
        let board := { board with tally, keys := swept.keys }
        return ({ board, last := some now.millis },
          .cycled {
            debouncer := board
            cooked := swept.cooked
            log := swept.changes.map .accepted })

/-- What the machine answers to several calls in order. Every call comes with the gap to be taken
if it is a first cycle. -/
def Machine.answers (checks : Checks) (machine : Machine rows cols) :
    List (Call width × Nat) → List (Except Trap (Answer (Board rows cols) width))
  | [] => []
  | (call, first) :: calls =>
    match machine.step checks first call with
    | .ok (later, answer) => .ok answer :: answers checks later calls
    | .error trap => .error trap :: answers checks machine calls

end Ideal

/-! ## Bytes as numbers -/

def Config.ideal (config : Config) : Ideal.Times where
  press := config.press.toNat
  release := config.release.toNat
  quiesce := config.quiesce.toNat

def Key.ideal : Key → Ideal.Key
  | .waiting => .waiting
  | .debouncing remaining => .debouncing remaining.toNat
  | .quiescing remaining => .quiescing remaining.toNat

def Sweep.ideal {width rows cols : Nat} (sweep : Sweep width rows cols) : Ideal.Sweep width where
  cooked := sweep.cooked
  keys cell := (sweep.keys.get cell.row cell.col).ideal
  changes := sweep.changes.toList

def AntiGhost.ideal {τ : Type} {rows cols : Nat} (debouncer : AntiGhost τ rows cols) :
    Ideal.Board rows cols where
  times := debouncer.config.ideal
  tally := debouncer.tally
  keys cell := (debouncer.keys.get cell.row cell.col).ideal
  numRows := debouncer.numRows

def Answer.ideal {τ : Type} {rows cols width : Nat} :
    Answer (AntiGhost τ rows cols) width → Answer (Ideal.Board rows cols) width
  | .prepared left => .prepared { debouncer := left.debouncer.ideal, log := left.log }
  | .cycled left => .cycled { left with debouncer := left.debouncer.ideal }

/-- What an ideal machine would have answered. -/
def idealAnswer {τ : Type} {rows cols width : Nat} :
    Except Fault (Answer (AntiGhost τ rows cols) width) →
      Except Trap (Answer (Ideal.Board rows cols) width)
  | .ok answer => .ok answer.ideal
  | .error fault => .error (.fault fault)

theorem Config.toNat_threshold (config : Config) (pressed : Bool) :
    (config.threshold pressed).toNat = config.ideal.threshold pressed := by
  cases pressed <;> rfl

/-- A key cannot tell how long a gap is that is longer than it can hold. -/
theorem Key.advance_ideal (config : Config) (raw cooked : Bool) {gap : Nat} {units : UInt8}
    (hunits : units.toNat = min gap maxUnits) (key : Key) :
    key.ideal.advance config.ideal raw cooked gap =
      .ok ((key.advance config raw cooked units).1.ideal,
        (key.advance config raw cooked units).2) := by
  have hlonger (remaining : UInt8) : remaining > units ↔ remaining.toNat > gap := by
    have hlt := remaining.toNat_lt
    rw [gt_iff_lt, UInt8.lt_iff_toNat_lt, hunits, maxUnits]
    omega
  have hlower {remaining : UInt8} (h : remaining.toNat > gap) :
      Ideal.lower remaining.toNat gap = .ok (remaining - units).toNat := by
    have hle := UInt8.le_of_lt ((hlonger remaining).2 h)
    have hlt := remaining.toNat_lt
    rw [Ideal.lower, if_pos (Nat.le_of_lt h), UInt8.toNat_sub_of_le _ _ hle, hunits, maxUnits]
    congr 1
    omega
  cases key with
  | waiting =>
    rw [ideal, Ideal.Key.advance, advance, ← Config.toNat_threshold]
    split <;> rfl
  | debouncing remaining =>
    simp only [ideal, Ideal.Key.advance, advance, hlonger]
    split
    · rfl
    · split
      · rename_i h
        rw [hlower h]
        rfl
      · rfl
  | quiescing remaining =>
    simp only [ideal, Ideal.Key.advance, advance, hlonger]
    split
    · rename_i h
      rw [hlower h]
      rfl
    · rfl

theorem Key.step_ideal (config : Config) (sample : Sample) {gap : Nat}
    (hunits : sample.elapsed.toNat = min gap maxUnits) (key : Key) :
    key.ideal.step config.ideal sample.ambiguous sample.raw sample.cooked gap =
      .ok ((key.step config sample).1.ideal, (key.step config sample).2) := by
  rw [Ideal.Key.step, step, advance_ideal config _ _ hunits]
  split <;> rfl

/-! ## Sweeps -/

section Sweeps
variable {width rows cols : Nat}

theorem KeyTable.ideal_set (keys : KeyTable rows cols) {cell : Cell} (hr : cell.row < rows)
    (hc : cell.col < cols) (key : Key) :
    (fun other : Cell => ((keys.set cell.row cell.col key).get other.row other.col).ideal) =
      Function.update (fun other : Cell => (keys.get other.row other.col).ideal) cell
        key.ideal := by
  funext other
  rw [KeyTable.get_set, Function.update_apply]
  by_cases hother : other = cell
  · rw [if_pos hother, hother, if_pos ⟨rfl, rfl, hr, hc⟩]
  · rw [if_neg hother, if_neg]
    rintro ⟨hrow, hcol, _, _⟩
    exact hother (by rw [Cell.mk.injEq]; exact ⟨hrow, hcol⟩)

theorem Ideal.visit_eq (scene : KeyMatrix.Scene width rows cols) {gap : Nat}
    (hunits : scene.elapsed.toNat = min gap maxUnits) (sweep : KeyMatrix.Sweep width rows cols)
    {cell : Cell} (hr : cell.row < rows) (hc : cell.col < cols) :
    visit { times := scene.config.ideal, tally := scene.tally, gap, raw := scene.raw } sweep.ideal
      cell = .ok (sweep.visit scene cell).ideal := by
  have hstep := Key.step_ideal scene.config (scene.sample sweep.cooked cell) hunits
    (sweep.keys.get cell.row cell.col)
  simp only [KeyMatrix.Scene.sample] at hstep
  simp only [visit, KeyMatrix.Sweep.visit, KeyMatrix.Sweep.ideal, KeyMatrix.Scene.sample, hstep,
    ok_bind]
  generalize KeyMatrix.Key.step _ _ _ = outcome
  obtain ⟨key, verdict⟩ := outcome
  have hkeys := sweep.keys.ideal_set hr hc key
  cases verdict with
  | accepted =>
    simp only [hkeys, Array.toList_push]
    rfl
  | pending =>
    simp only [hkeys]
    rfl
  | ignored =>
    simp only [hkeys]
    rfl

/-- On cells of the table both sweeps do the same. -/
theorem Ideal.run_eq (scene : KeyMatrix.Scene width rows cols) {gap : Nat}
    (hunits : scene.elapsed.toNat = min gap maxUnits) (sweep : KeyMatrix.Sweep width rows cols)
    {path : List Cell} (hpath : ∀ cell ∈ path, cell.row < rows ∧ cell.col < cols) :
    run { times := scene.config.ideal, tally := scene.tally, gap, raw := scene.raw } sweep.ideal
      path = .ok (sweep.run scene path).ideal := by
  induction path generalizing sweep with
  | nil => rfl
  | cons cell path ih =>
    obtain ⟨hr, hc⟩ := hpath cell List.mem_cons_self
    rw [run, List.foldlM_cons, visit_eq scene hunits sweep hr hc, KeyMatrix.Sweep.run_cons]
    exact ih _ fun other hother => hpath other (List.mem_cons_of_mem _ hother)

end Sweeps

/-! ## Calls -/

section Calls
variable {rows cols width : Nat}

/-- The ideal machine in the place of a debouncer that counts milliseconds. -/
def AntiGhost.machine (debouncer : AntiGhost MillisTimer rows cols) : Ideal.Machine rows cols where
  board := debouncer.ideal
  last := debouncer.timer.last

/-- As long as the time has not been read all keys are waiting. -/
def AntiGhost.Unread (debouncer : AntiGhost MillisTimer rows cols) : Prop :=
  debouncer.timer.last = none → debouncer.numRows ≠ 0 → debouncer.keys = .waiting

/-- A sweep notices as much of the gap as fits in a byte. That is what the time source reads, unless
it is read for the first time, when all keys are waiting. -/
theorem AntiGhost.run_machine {debouncer : AntiGhost MillisTimer rows cols}
    (unread : debouncer.Unread) (hn : debouncer.numRows ≠ 0) (first : Nat) (now : Instant)
    {shared : Nat} (hshared : shared ≤ debouncer.numRows) (raw cooked : Grid width)
    (changed : Bool) :
    Ideal.run
      { times := debouncer.config.ideal
        tally := debouncer.renewed shared raw changed
        gap := debouncer.machine.gap first now
        raw }
      { cooked, keys := debouncer.ideal.keys } (cells shared cols) =
        .ok (debouncer.swept shared (TimeSource.elapsed debouncer.timer now).units raw cooked
          changed).ideal := by
  have hpath : ∀ cell ∈ cells shared cols, cell.row < rows ∧ cell.col < cols := by
    intro cell hcell
    obtain ⟨hr, hc⟩ := mem_cells.1 hcell
    exact ⟨hr.trans_le (hshared.trans debouncer.numRows_le), hc⟩
  have hrun (units : UInt8)
      (hunits : units.toNat = min (debouncer.machine.gap first now) maxUnits) :=
    Ideal.run_eq
      { config := debouncer.config
        tally := debouncer.renewed shared raw changed
        elapsed := units
        raw } hunits { cooked, keys := debouncer.keys } hpath
  cases hlast : debouncer.timer.last with
  | none =>
    -- All keys wait, so that the units may be exchanged for the ones that fit the ideal gap.
    rw [swept_of_waiting (unread hlast hn) shared _ (UInt8.ofNat (min first maxUnits))]
    refine hrun _ ?_
    rw [Ideal.Machine.gap_of_none hlast]
    refine UInt8.toNat_ofNat_of_lt' ?_
    exact Nat.lt_of_le_of_lt (Nat.min_le_right ..) (by decide)
  | some last =>
    have htimer : debouncer.timer = ⟨some last⟩ := by rw [← hlast]
    refine hrun _ ?_
    rw [Ideal.Machine.gap_of_some hlast, htimer]
    exact MillisTimer.toNat_units_elapsed last now

theorem KeyTable.ideal_waiting :
    (fun cell : Cell => ((waiting : KeyTable rows cols).get cell.row cell.col).ideal) =
      fun _ => .waiting := by
  funext cell
  rw [get_waiting]
  rfl

/-- A cycle that has the time read does the same to both machines. -/
theorem AntiGhost.step_machine_of_served {checks : Checks} (first : Nat)
    {debouncer : AntiGhost MillisTimer rows cols} (unread : debouncer.Unread)
    (hn : debouncer.numRows ≠ 0) (now : Instant) {raw cooked : Grid width} {numRows : Nat}
    (changed : Bool) (hserved : ¬ (checks = .on ∧
      sharedRows numRows debouncer.numRows raw cooked ≠ numRows)) :
    let cycle := debouncer.cover (sharedRows numRows debouncer.numRows raw cooked) now raw cooked
      changed
    debouncer.machine.step checks first (.debounce now raw cooked numRows changed) =
      .ok (cycle.debouncer.machine, (Answer.cycled (debouncer.shown now cycle)).ideal) := by
  have hrun := run_machine unread hn first now
    (sharedRows_le_inUse numRows debouncer.numRows raw cooked) raw cooked changed
  have hideal : debouncer.machine.step checks first
      (.debounce now raw cooked numRows changed) = _ :=
    (if_neg hn).trans ((if_neg hserved).trans (congrArg (· >>= _) hrun))
  have hlast : (TimeSource.elapsed debouncer.timer now).timer.last = some now.millis :=
    congrArg MillisTimer.last (debouncer.timer.timer_elapsed now)
  dsimp only
  rw [shown_cover_of_ne_zero hn, hideal, cover, if_neg hn, served, ok_bind]
  simp only [machine, hlast]
  rfl

/-- A call does the same to both machines. -/
theorem AntiGhost.step_machine (checks : Checks) (first : Nat)
    {debouncer : AntiGhost MillisTimer rows cols} (unread : debouncer.Unread) (call : Call width) :
    debouncer.machine.step checks first call =
      match call.sight checks debouncer with
      | .ok answer => .ok ((call.after checks debouncer).machine, answer.ideal)
      | .error fault => .error (.fault fault) := by
  cases call with
  | init n =>
    rw [Call.sight_init, Ideal.Machine.step]
    by_cases hn : n ≤ rows
    · have hinit : Debouncer.init debouncer n = .ok _ := dif_pos hn
      rw [if_pos hn, dif_pos hn, Call.after_init_eq hinit]
      simp only [machine, Answer.ideal, AntiGhost.ideal, KeyTable.ideal_waiting]
      rfl
    · rw [if_neg hn, dif_neg hn]
  | free => rfl
  | debounce now raw cooked numRows changed =>
    rw [Call.sight_debounce, AntiGhost.after_debounce]
    dsimp only
    by_cases hn : debouncer.numRows = 0
    · have hideal : debouncer.machine.step checks first
          (.debounce now raw cooked numRows changed) =
            .ok (debouncer.machine, .cycled { debouncer := debouncer.ideal, cooked }) := if_pos hn
      rw [hideal, if_neg fun h => h.2.1 hn, if_neg fun h => h.2.1 hn, shown_cover_of_idle hn,
        cover, if_pos hn]
      rfl
    · by_cases hrefused : checks = .on ∧
          sharedRows numRows debouncer.numRows raw cooked ≠ numRows
      · have hideal : debouncer.machine.step checks first
            (.debounce now raw cooked numRows changed) = .error (.fault .sizeMismatch) :=
          (if_neg hn).trans (if_pos hrefused)
        rw [hideal, if_pos ⟨hrefused.1, hn, hrefused.2⟩]
      · rw [step_machine_of_served first unread hn now changed hrefused,
          if_neg fun h => hrefused ⟨h.1, h.2.2⟩, if_neg fun h => hrefused ⟨h.1, h.2.2⟩]
        rfl

theorem AntiGhost.Unread.after {debouncer : AntiGhost MillisTimer rows cols}
    (unread : debouncer.Unread) (checks : Checks) (call : Call width) :
    (call.after checks debouncer).Unread := by
  obtain hsame | ⟨_, _, hkeys⟩ | ⟨now, hread, _⟩ :=
    Session.after_cases checks ⟨debouncer, none⟩ call
  · have hdebouncer : call.after checks debouncer = debouncer := congrArg Session.debouncer hsame
    rw [hdebouncer]
    exact unread
  · exact fun _ => hkeys
  · intro hlast
    have hknown := congrArg MillisTimer.last (hread.trans (debouncer.timer.timer_elapsed now))
    cases hknown.symm.trans hlast

/-- Call by call the ideal machine answers what shows of the debouncer. -/
theorem Session.answers_machine (checks : Checks) {session : Session MillisTimer rows cols}
    (unread : session.debouncer.Unread) (calls : List (Call width × Nat)) :
    session.debouncer.machine.answers checks calls =
      (session.sights checks (calls.map Prod.fst)).map idealAnswer := by
  induction calls generalizing session with
  | nil => rfl
  | cons call calls ih =>
    obtain ⟨call, first⟩ := call
    have hrest : (session.after checks call).debouncer.machine.answers checks calls = _ :=
      ih (unread.after checks call)
    rw [Ideal.Machine.answers, AntiGhost.step_machine checks first unread]
    change _ = idealAnswer (call.sight checks session.debouncer) ::
      ((session.after checks call).sights checks (calls.map Prod.fst)).map idealAnswer
    rw [← hrest]
    cases hsight : call.sight checks session.debouncer with
    | ok answer => rfl
    | error fault =>
      have hsame : (session.after checks call).debouncer = session.debouncer :=
        Call.after_of_sight_error hsight
      rw [hsame]
      rfl

end Calls

/-- From a successful initialization on, whatever the clock does and whatever is called, an ideal
machine with the same settings cannot be told from a debouncer that counts milliseconds in bytes,
and never lowers a number by more than it is. The first cycle after an initialization may take the
ideal machine any time. -/
theorem saturation_leaves_no_trace {rows cols width : Nat} (checks : Checks)
    {debouncer : AntiGhost MillisTimer rows cols} {n : Nat}
    {prepared : Prepared (AntiGhost MillisTimer rows cols)}
    (hinit : Debouncer.init debouncer n = .ok prepared) (calls : List (Call width × Nat)) :
    let machine : Ideal.Machine rows cols :=
      { board := { times := debouncer.config.ideal, numRows := n } }
    let session : Session MillisTimer rows cols := { debouncer := prepared.debouncer }
    machine.answers checks calls = (session.sights checks (calls.map Prod.fst)).map idealAnswer ∧
      .error .underflow ∉ machine.answers checks calls := by
  intro machine session
  obtain ⟨hn, rfl⟩ := AntiGhost.init_cases hinit
  have hmachine : machine = session.debouncer.machine := by
    simp only [machine, session, AntiGhost.machine, AntiGhost.ideal, KeyTable.ideal_waiting]
    rfl
  have hanswers : machine.answers checks calls =
      (session.sights checks (calls.map Prod.fst)).map idealAnswer := by
    rw [hmachine]
    exact Session.answers_machine checks (fun _ _ => rfl) calls
  refine ⟨hanswers, fun hmem => ?_⟩
  rw [hanswers, List.mem_map] at hmem
  obtain ⟨result, _, hresult⟩ := hmem
  cases result <;> cases hresult

/-- A key is held down. The cycles are 254, 65536, 254 and 256 milliseconds apart, and once in
between the clock goes back. -/
def longGaps : List (Call 8 × Nat) := [
  (.debounce ⟨5000⟩ (.ofList [⟨1⟩]) (.released 1) 1 true, 70000),
  (.debounce ⟨259000⟩ (.ofList [⟨1⟩]) (.released 1) 1 true, 0),
  (.debounce ⟨100000⟩ (.ofList [⟨1⟩]) (.released 1) 1 false, 0),
  (.debounce ⟨65636000⟩ (.ofList [⟨1⟩]) (.released 1) 1 false, 0),
  (.debounce ⟨65890000⟩ (.ofList [⟨1⟩]) (.ofList [⟨1⟩]) 1 false, 0),
  (.debounce ⟨66146000⟩ (.ofList [⟨1⟩]) (.ofList [⟨1⟩]) 1 false, 0)]

/-- The press is accepted after the longest gap. Bytes show the same. -/
theorem longGaps_answers :
    let debouncer : AntiGhost MillisTimer 1 1 :=
      .ofTimer { press := 255, release := 255, quiesce := 255 } {}
    let machine : Ideal.Machine 1 1 := { board := { times := ⟨255, 255, 255⟩, numRows := 1 } }
    ∃ prepared, Debouncer.init debouncer 1 = .ok prepared ∧
      machine.answers .on longGaps =
        (Session.sights .on { debouncer := prepared.debouncer }
          (longGaps.map Prod.fst)).map idealAnswer ∧
      (machine.answers .on longGaps).map
          (fun answer => answer.toOption.map (·.debouncer.keys ⟨0, 0⟩)) =
        [some (.debouncing 255), some (.debouncing 1), some (.debouncing 1),
          some (.quiescing 255), some (.quiescing 1), some .waiting] := by
  intro debouncer machine
  obtain ⟨prepared, hinit⟩ := (debouncer.init_ok_iff 1).2 (by decide)
  obtain ⟨hanswers, _⟩ := saturation_leaves_no_trace .on hinit longGaps
  exact ⟨prepared, hinit, hanswers, by decide +kernel⟩

end KeyMatrix
