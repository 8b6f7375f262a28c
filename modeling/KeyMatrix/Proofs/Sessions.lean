import KeyMatrix.Proofs.Coverage
import KeyMatrix.Proofs.Restart

/-! # Sessions

A debouncer with timed keys goes through a sequence of calls. What shows of each call is told apart
here from what its time source does: when it is read, and what it reads. Of a reading only the units
show, and as long as all keys are waiting not even these do.
-/
namespace KeyMatrix

/-! ## Waiting keys -/

theorem Sweep.visit_of_waiting {width rows cols : Nat} (scene : Scene width rows cols)
    (units : UInt8) {sweep : Sweep width rows cols} {cell : Cell}
    (hwait : sweep.keys.get cell.row cell.col = .waiting) :
    visit { scene with elapsed := units } sweep cell = visit scene sweep cell := by
  rw [visit, visit, hwait]
  rfl

/-- A sweep over waiting keys takes as long as you like. No key is visited after it has left off
waiting, as no cell is visited twice. -/
theorem Sweep.run_of_waiting {width rows cols : Nat} (scene : Scene width rows cols)
    (units : UInt8) {sweep : Sweep width rows cols} {path : List Cell} (hpath : path.Nodup)
    (hwait : ∀ cell ∈ path, sweep.keys.get cell.row cell.col = .waiting) :
    run { scene with elapsed := units } sweep path = run scene sweep path := by
  induction path generalizing sweep with
  | nil => rfl
  | cons cell path ih =>
    rw [List.nodup_cons] at hpath
    rw [run_cons, run_cons, visit_of_waiting scene units (hwait cell List.mem_cons_self)]
    refine ih hpath.2 fun other hother => ?_
    have hne : cell ≠ other := fun heq => hpath.1 (heq ▸ hother)
    rw [visit_get_other _ _ hne]
    exact hwait other (List.mem_cons_of_mem _ hother)

/-! ## Debouncers without their time sources -/

namespace AntiGhost

variable {τ : Type} {rows cols width : Nat}

/-- A debouncer without its time source, and without the unit in which it takes the time. -/
def untimed (debouncer : AntiGhost τ rows cols) : AntiGhost Unit rows cols where
  config := { debouncer.config with unit := default }
  timer := ()
  tally := debouncer.tally
  keys := debouncer.keys
  numRows := debouncer.numRows
  numRows_le := debouncer.numRows_le

theorem swept_of_waiting {debouncer : AntiGhost τ rows cols} (hkeys : debouncer.keys = .waiting)
    (shared : Nat) (units units' : UInt8) (raw cooked : Grid width) (changed : Bool) :
    debouncer.swept shared units raw cooked changed =
      debouncer.swept shared units' raw cooked changed := by
  have hwait : ∀ cell ∈ cells shared cols, debouncer.keys.get cell.row cell.col = .waiting := by
    intro cell _
    rw [hkeys, KeyTable.get_waiting]
  exact Sweep.run_of_waiting
    { config := debouncer.config
      tally := debouncer.renewed shared raw changed
      elapsed := units'
      raw } units (nodup_cells shared cols) hwait

variable [TimeSource τ]

/-- What the time source has to report in a cycle. It is not asked unless some rows are in use. -/
def timerLog (now : Instant) (debouncer : AntiGhost τ rows cols) : List Message :=
  if debouncer.numRows = 0 then [] else (TimeSource.elapsed debouncer.timer now).log

/-- What shows of a cycle, apart from the time source and its messages. -/
def shown (now : Instant) (debouncer : AntiGhost τ rows cols)
    (cycle : Cycle (AntiGhost τ rows cols) width) : Cycle (AntiGhost Unit rows cols) width where
  debouncer := cycle.debouncer.untimed
  cooked := cycle.cooked
  log := cycle.log.drop (debouncer.timerLog now).length

theorem shown_cover_of_idle {debouncer : AntiGhost τ rows cols} (hn : debouncer.numRows = 0)
    (shared : Nat) (now : Instant) (raw cooked : Grid width) (changed : Bool) :
    debouncer.shown now (debouncer.cover shared now raw cooked changed) =
      { debouncer := debouncer.untimed, cooked } := by
  rw [cover, if_pos hn, shown, timerLog, if_pos hn]
  rfl

/-- Of the time source only the units that it reads show. -/
theorem shown_cover_of_ne_zero {debouncer : AntiGhost τ rows cols} (hn : debouncer.numRows ≠ 0)
    (shared : Nat) (now : Instant) (raw cooked : Grid width) (changed : Bool) :
    debouncer.shown now (debouncer.cover shared now raw cooked changed) =
      let units := (TimeSource.elapsed debouncer.timer now).units
      let swept := debouncer.untimed.swept shared units raw cooked changed
      let tally := debouncer.untimed.renewed shared raw changed
      { debouncer := { debouncer.untimed with tally, keys := swept.keys }
        cooked := swept.cooked
        log := swept.changes.toList.map .accepted } := by
  rw [cover, if_neg hn, served, shown, timerLog, if_neg hn, List.drop_left]
  rfl

end AntiGhost

/-- The debouncer that a call leaves. -/
def Answer.debouncer {δ : Type} {width : Nat} : Answer δ width → δ
  | .prepared left => left.debouncer
  | .cycled left => left.debouncer

namespace Call

variable {τ : Type} [TimeSource τ] {rows cols width : Nat}

/-- What shows of a call, apart from the time source and its messages. -/
def sight (checks : Checks) (debouncer : AntiGhost τ rows cols) :
    Call width → Except Fault (Answer (AntiGhost Unit rows cols) width)
  | init n =>
    (Debouncer.init debouncer n).map fun prepared => .prepared {
      debouncer := prepared.debouncer.untimed
      log := prepared.log }
  | free =>
    let prepared := Debouncer.free debouncer
    .ok (.prepared { debouncer := prepared.debouncer.untimed, log := prepared.log })
  | debounce now raw cooked numRows changed =>
    (Debouncer.debounce checks now debouncer raw cooked numRows changed).map fun cycle =>
      .cycled (debouncer.shown now cycle)

theorem sight_init (checks : Checks) (debouncer : AntiGhost τ rows cols) (n : Nat) :
    (init n : Call width).sight checks debouncer =
      if h : n ≤ rows then
        .ok (.prepared {
          debouncer := {
            config := debouncer.untimed.config
            timer := ()
            numRows := n
            numRows_le := h }
          log := [.initialized n cols] })
      else .error .tooManyRows := by
  change (debouncer.init n).map _ = _
  rw [AntiGhost.init]
  split <;> rfl

theorem sight_free (checks : Checks) (debouncer : AntiGhost τ rows cols) :
    (free : Call width).sight checks debouncer = .ok (.prepared {
      debouncer := {
        config := debouncer.untimed.config
        timer := ()
        keys := debouncer.untimed.keys }
      log := [.freed] }) := rfl

/-- A cycle is refused by `checks` if it is to cover more rows than there are. -/
theorem sight_debounce (checks : Checks) (debouncer : AntiGhost τ rows cols) (now : Instant)
    (raw cooked : Grid width) (numRows : Nat) (changed : Bool) :
    (debounce now raw cooked numRows changed).sight checks debouncer =
      let shared := sharedRows numRows debouncer.untimed.numRows raw cooked
      if checks = .on ∧ debouncer.untimed.numRows ≠ 0 ∧ shared ≠ numRows then .error .sizeMismatch
      else .ok (.cycled (debouncer.shown now (debouncer.cover shared now raw cooked changed))) := by
  change (debouncer.debounce ..).map _ = _
  rw [AntiGhost.debounce]
  exact apply_ite (Except.map _) ..

/-- A refused call leaves the debouncer as it was. -/
theorem after_of_sight_error {checks : Checks} {debouncer : AntiGhost τ rows cols}
    {call : Call width} {fault : Fault} (h : call.sight checks debouncer = .error fault) :
    call.after checks debouncer = debouncer := by
  cases call with
  | init n =>
    rw [after]
    rw [sight] at h
    cases hinit : Debouncer.init debouncer n with
    | ok prepared => rw [hinit] at h; cases h
    | error fault => rfl
  | free => cases h
  | debounce now raw cooked numRows changed =>
    rw [after]
    rw [sight] at h
    cases hcycle : Debouncer.debounce checks now debouncer raw cooked numRows changed with
    | ok cycle => rw [hcycle] at h; cases h
    | error fault => rfl

theorem untimed_after (checks : Checks) (debouncer : AntiGhost τ rows cols) (call : Call width) :
    (call.after checks debouncer).untimed =
      match call.sight checks debouncer with
      | .ok answer => answer.debouncer
      | .error _ => debouncer.untimed := by
  cases call with
  | init n =>
    rw [after, sight]
    cases Debouncer.init debouncer n <;> rfl
  | free => rfl
  | debounce now raw cooked numRows changed =>
    rw [after, sight]
    cases Debouncer.debounce checks now debouncer raw cooked numRows changed <;> rfl

end Call

theorem AntiGhost.after_debounce {τ : Type} [TimeSource τ] {rows cols width : Nat} (checks : Checks)
    (debouncer : AntiGhost τ rows cols) (now : Instant) (raw cooked : Grid width) (numRows : Nat)
    (changed : Bool) :
    (Call.debounce now raw cooked numRows changed).after checks debouncer =
      let shared := sharedRows numRows debouncer.numRows raw cooked
      if checks = .on ∧ debouncer.numRows ≠ 0 ∧ shared ≠ numRows then debouncer
      else (debouncer.cover shared now raw cooked changed).debouncer := by
  have hcover : Debouncer.debounce checks now debouncer raw cooked numRows changed =
      debouncer.debounce checks now raw cooked numRows changed := rfl
  rw [Call.after, hcover, debounce]
  by_cases hrefused : checks = .on ∧ debouncer.numRows ≠ 0 ∧
      sharedRows numRows debouncer.numRows raw cooked ≠ numRows
  · rw [if_pos hrefused, if_pos hrefused]
  · rw [if_neg hrefused, if_neg hrefused]

/-! ## Readings -/

/-- A debouncer between two calls. -/
structure Session (τ : Type) (rows cols : Nat) where
  debouncer : AntiGhost τ rows cols
  /-- When the time source was read last, if it has been read since the debouncer was last
  initialized or freed. -/
  last : Option Instant := none

namespace Session

variable {τ : Type} [TimeSource τ] {rows cols width : Nat}

/-- A debouncer that has just been constructed. -/
def ofTimer (config : Config) (timer : τ) : Session τ rows cols where
  debouncer := .ofTimer config timer

/-- When a call has the time source read. -/
def readAt (checks : Checks) (session : Session τ rows cols) : Call width → Option Instant
  | .init _ | .free => none
  | .debounce now raw cooked numRows changed =>
    if session.debouncer.numRows = 0 then none
    else
      match Debouncer.debounce checks now session.debouncer raw cooked numRows changed with
      | .ok _ => some now
      | .error _ => none

def after (checks : Checks) (session : Session τ rows cols) (call : Call width) :
    Session τ rows cols where
  debouncer := call.after checks session.debouncer
  last :=
    match call with
    | .init n => if n ≤ rows then none else session.last
    | .free => none
    | .debounce .. => (session.readAt checks call).or session.last

/-- What there is to see in several calls in order. -/
def along {β : Type} (checks : Checks) (view : Session τ rows cols → Call width → β) :
    Session τ rows cols → List (Call width) → List β
  | _, [] => []
  | session, call :: calls =>
    view session call :: along checks view (session.after checks call) calls

/-- What shows of several calls in order, apart from the time source. -/
def sights (checks : Checks) : Session τ rows cols → List (Call width) →
    List (Except Fault (Answer (AntiGhost Unit rows cols) width)) :=
  along checks fun session call => call.sight checks session.debouncer

theorem readAt_debounce (checks : Checks) (session : Session τ rows cols) (now : Instant)
    (raw cooked : Grid width) (numRows : Nat) (changed : Bool) :
    session.readAt checks (.debounce now raw cooked numRows changed) =
      if session.debouncer.numRows ≠ 0 ∧ ¬ (checks = .on ∧
        sharedRows numRows session.debouncer.numRows raw cooked ≠ numRows) then some now
      else none := by
  have hcycle : Debouncer.debounce checks now session.debouncer raw cooked numRows changed =
      AntiGhost.debounce checks now session.debouncer raw cooked numRows changed := rfl
  rw [readAt, hcycle, AntiGhost.debounce]
  by_cases hn : session.debouncer.numRows = 0
  · rw [if_pos hn, if_neg fun h => h.1 hn]
  · rw [if_neg hn]
    by_cases hrefused : checks = .on ∧
        sharedRows numRows session.debouncer.numRows raw cooked ≠ numRows
    · rw [if_pos ⟨hrefused.1, hn, hrefused.2⟩, if_neg fun h => h.2 hrefused]
    · rw [if_neg fun h => hrefused ⟨h.1, h.2.2⟩]
      exact (if_pos ⟨hn, hrefused⟩).symm

/-- All that a call can do to the time source: leave it alone together with all the rest, or reset
it, after which the keys wait if any rows are in use, or have it read once. -/
theorem after_cases (checks : Checks) (session : Session τ rows cols) (call : Call width) :
    session.after checks call = session ∨
    ((session.after checks call).debouncer.timer = TimeSource.reset session.debouncer.timer ∧
      (session.after checks call).last = none ∧
      ((session.after checks call).debouncer.numRows ≠ 0 →
        (session.after checks call).debouncer.keys = .waiting)) ∨
    ∃ now, (session.after checks call).debouncer.timer =
        (TimeSource.elapsed session.debouncer.timer now).timer ∧
      (session.after checks call).last = some now := by
  cases call with
  | init n =>
    by_cases hn : n ≤ rows
    · have hinit : Debouncer.init session.debouncer n = .ok _ := dif_pos hn
      rw [after, Call.after_init_eq hinit]
      exact .inr (.inl ⟨rfl, if_pos hn, fun _ => rfl⟩)
    · have hinit := session.debouncer.init_of_lt (Nat.lt_of_not_le hn)
      rw [after, Call.after_init_of_error hinit]
      exact .inl (congrArg (Session.mk _) (if_neg hn))
  | free => exact .inr (.inl ⟨rfl, rfl, fun huse => absurd rfl huse⟩)
  | debounce now raw cooked numRows changed =>
    rw [after, readAt, Call.after]
    cases h : Debouncer.debounce checks now session.debouncer raw cooked numRows changed with
    | error fault => exact .inl (congrArg (Session.mk _) (congrArg (Option.or · _) (ite_self none)))
    | ok cycle =>
      obtain ⟨hidle, rfl⟩ | ⟨hn, rfl⟩ := AntiGhost.debounce_cases h
      · exact .inl (congrArg (Session.mk _) (congrArg (Option.or · _) (if_pos hidle)))
      · exact .inr (.inr ⟨now, rfl, congrArg (Option.or · _) (if_neg hn)⟩)

end Session

end KeyMatrix
