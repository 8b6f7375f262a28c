import KeyMatrix.Proofs.InPlace

/-! # Debouncers that copy

A caller keeps a cooked grid from call to call. Two of the debouncers copy raw rows to it as they
are, bits beyond the columns in use included. One goes through them key by key and records what it
finds, the other copies all at once. What they leave in the grid is the same after every call.
-/
namespace KeyMatrix

/-- What the caller of a debouncer does next. Between the calls it has its own way with the cooked
grid. -/
inductive Turn (width : Nat) where
  | init (n : Nat)
  | free
  | debounce (now : Instant) (raw : Grid width) (numRows : Nat) (changed : Bool)
  | recook (f : Grid width → Grid width)

/-- What matters to the cooked grid as long as rows are only copied. -/
structure Sheet (width : Nat) where
  /-- The rows in use, none unless initialized. -/
  numRows : Nat := 0
  cooked : Grid width

def Desk.sheet {δ : Type} {width : Nat} [Debouncer δ] [SteadyDebouncer δ] (desk : Desk δ width) :
    Sheet width where
  numRows := SteadyDebouncer.rowsInUse desk.debouncer
  cooked := desk.cooked

namespace Turn

variable {δ : Type} {width : Nat}

/-- What copying comes to. -/
def copy (sheet : Sheet width) : Turn width → Sheet width
  | init n => { sheet with numRows := n }
  | free => { sheet with numRows := 0 }
  | debounce _ raw numRows changed =>
    if changed then
      let shared := sharedRows numRows sheet.numRows raw sheet.cooked
      { sheet with cooked := sheet.cooked.overwrite shared raw }
    else sheet
  | recook f => { sheet with cooked := f sheet.cooked }

/-- After a cycle that is told that there is something new, the rows that it covers are raw. -/
theorem row_copy_debounce (sheet : Sheet width) (now : Instant) (raw : Grid width) (numRows : Nat)
    (changed : Bool) (r : Nat) :
    (copy sheet (debounce now raw numRows changed)).cooked.row r =
      if changed = true ∧ r < sharedRows numRows sheet.numRows raw sheet.cooked then raw.row r
      else sheet.cooked.row r := by
  cases changed with
  | false => simp [copy]
  | true =>
    have hraw := sharedRows_le_raw numRows sheet.numRows raw sheet.cooked
    have hcooked := sharedRows_le_cooked numRows sheet.numRows raw sheet.cooked
    simp only [copy, if_true, Grid.row_overwrite, true_and]
    congr 1
    rw [eq_iff_iff]
    omega

theorem size_copy_debounce (sheet : Sheet width) (now : Instant) (raw : Grid width) (numRows : Nat)
    (changed : Bool) :
    (copy sheet (debounce now raw numRows changed)).cooked.size = sheet.cooked.size := by
  cases changed <;> simp [copy]

variable [Debouncer δ]

/-- What a turn leaves on the desk, going by the answer of the debouncer. -/
def outcome (checks : Checks) (desk : Desk δ width) :
    Turn width → EStateM.Result Trap (Desk δ width) Unit
  | init n => desk.settle ((Call.init n).answer checks desk.debouncer)
  | free => desk.settle (Call.free.answer checks desk.debouncer)
  | debounce now raw numRows changed =>
    desk.settle ((Call.debounce now raw desk.cooked numRows changed).answer checks desk.debouncer)
  | recook f => .ok () { desk with cooked := f desk.cooked }

variable [InPlaceDebouncer δ]

/-- Take a turn step by step. -/
def work (checks : Checks) : Turn width → Work δ width Unit
  | init n => InPlaceDebouncer.init n
  | free => InPlaceDebouncer.free
  | debounce now raw numRows changed => InPlaceDebouncer.debounce checks now raw numRows changed
  | recook f => Work.recook f

/-- Take several turns. -/
def works (checks : Checks) (turns : List (Turn width)) : Work δ width Unit :=
  forM turns (work checks)

theorem run_work (hcols : InPlaceDebouncer.cols δ ≤ width) (checks : Checks) (turn : Turn width)
    (desk : Desk δ width) : (turn.work checks).run desk = turn.outcome checks desk := by
  cases turn with
  | init n => exact InPlaceDebouncer.run_init n desk
  | free => exact InPlaceDebouncer.run_free desk
  | debounce now raw numRows changed =>
    exact InPlaceDebouncer.run_debounce hcols checks now raw numRows changed desk
  | recook f => rfl

end Turn

/-- Debouncers that do nothing to the cooked grid but copy rows to it. -/
class CopyingDebouncer (δ : Type) [Debouncer δ] [SteadyDebouncer δ] where
  /-- Whether there is room for so many rows. -/
  HasRoom : Nat → Prop
  init_ok (debouncer : δ) {n : Nat} : HasRoom n →
    ∃ prepared, Debouncer.init debouncer n = .ok prepared
  rowsInUse_free (debouncer : δ) :
    SteadyDebouncer.rowsInUse (Debouncer.free debouncer).debouncer = 0
  debounce_ok {width : Nat} (checks : Checks) (now : Instant) (debouncer : δ)
    (raw cooked : Grid width) (numRows : Nat) (changed : Bool) :
    ∃ cycle, Debouncer.debounce checks now debouncer raw cooked numRows changed = .ok cycle ∧
      ⟨SteadyDebouncer.rowsInUse cycle.debouncer, cycle.cooked⟩ =
        Turn.copy ⟨SteadyDebouncer.rowsInUse debouncer, cooked⟩
          (.debounce now raw numRows changed)

instance {rows cols capacity : Nat} : CopyingDebouncer (EventLog rows cols capacity) where
  HasRoom n := n ≤ rows
  init_ok log n := (log.init_ok_iff n).2
  rowsInUse_free _ := rfl
  debounce_ok checks now log raw cooked numRows changed := by
    refine ⟨_, rfl, ?_⟩
    cases changed <;> rfl

instance : CopyingDebouncer Passthrough where
  HasRoom _ := True
  init_ok _ _ _ := ⟨_, rfl⟩
  rowsInUse_free _ := rfl
  debounce_ok checks now debouncer raw cooked numRows changed := by
    refine ⟨_, rfl, ?_⟩
    cases changed <;> rfl

section Copying
variable {δ : Type} [Debouncer δ] [SteadyDebouncer δ] [CopyingDebouncer δ] {width : Nat}

/-- No turn is refused for which there is room. -/
theorem Turn.outcome_ok (checks : Checks) {turn : Turn width}
    (hroom : ∀ n, turn = .init n → CopyingDebouncer.HasRoom δ n) (desk : Desk δ width) :
    ∃ desk', turn.outcome checks desk = .ok () desk' ∧ desk'.sheet = turn.copy desk.sheet := by
  cases turn with
  | init n =>
    obtain ⟨prepared, hinit⟩ := CopyingDebouncer.init_ok desk.debouncer (hroom n rfl)
    simp only [outcome, Call.answer, hinit]
    refine ⟨_, rfl, ?_⟩
    simp only [Desk.sheet, copy, SteadyDebouncer.rowsInUse_init hinit]
  | free =>
    have hfree := CopyingDebouncer.rowsInUse_free desk.debouncer
    exact ⟨_, rfl, congrArg (Sheet.mk · desk.cooked) hfree⟩
  | debounce now raw numRows changed =>
    obtain ⟨cycle, hcycle, hcopied⟩ := CopyingDebouncer.debounce_ok checks now desk.debouncer raw
      desk.cooked numRows changed
    simp only [outcome, Call.answer, hcycle]
    exact ⟨_, rfl, hcopied⟩
  | recook f => exact ⟨_, rfl, rfl⟩

variable [InPlaceDebouncer δ]

/-- Step by step, several turns leave the copies that they should. -/
theorem Turn.run_works (hcols : InPlaceDebouncer.cols δ ≤ width) (checks : Checks)
    (turns : List (Turn width)) (hroom : ∀ n, .init n ∈ turns → CopyingDebouncer.HasRoom δ n)
    (desk : Desk δ width) :
    ∃ desk', (works checks turns).run desk = .ok () desk' ∧
      desk'.sheet = turns.foldl copy desk.sheet := by
  induction turns generalizing desk with
  | nil => exact ⟨desk, rfl, rfl⟩
  | cons turn turns ih =>
    obtain ⟨next, hturn, hcopy⟩ :=
      turn.outcome_ok checks (fun n hn => hroom n (hn ▸ List.mem_cons_self)) desk
    obtain ⟨last, hturns, hlast⟩ := ih (fun n hn => hroom n (List.mem_cons_of_mem _ hn)) next
    rw [← run_work hcols] at hturn
    refine ⟨last, ?_, ?_⟩
    · rw [works, List.forM_cons, Work.run_bind_ok hturn]
      exact hturns
    · rw [hlast, hcopy, List.foldl_cons]

end Copying

/-- After several turns, the caller cannot tell from its cooked grid which of the two debouncers it
has. -/
structure Interchangeable {rows cols capacity width : Nat} (checks : Checks)
    (logging : Desk (EventLog rows cols capacity) width) (passing : Desk Passthrough width)
    (turns : List (Turn width)) : Prop where
  /-- No turn is refused, and both leave the same grid. -/
  same_cooked : ∃ (logging' : Desk (EventLog rows cols capacity) width)
      (passing' : Desk Passthrough width),
    (Turn.works checks turns).run logging = .ok () logging' ∧
      (Turn.works checks turns).run passing = .ok () passing' ∧
      logging'.cooked = passing'.cooked
  /-- One more cycle, if it is told that there is something new, makes the rows raw that are asked
  for, in use, and present in both grids. Everything else stays as it is. -/
  next_cycle (now : Instant) (raw : Grid width) (numRows : Nat) (changed : Bool) :
    ∃ before after : Desk Passthrough width,
      (Turn.works checks turns).run passing = .ok () before ∧
      (Turn.works checks (turns ++ [.debounce now raw numRows changed])).run passing =
        .ok () after ∧
      after.cooked.size = before.cooked.size ∧
      let inUse := (turns.foldl Turn.copy passing.sheet).numRows
      ∀ r, after.cooked.row r =
        if changed = true ∧ r < min (min (min numRows inUse) raw.size) before.cooked.size then
          raw.row r
        else before.cooked.row r

/-- Whether the changes are recorded or not makes no difference to the cooked grid, whatever its
caller does. -/
theorem copies_are_interchangeable {rows cols capacity width : Nat} (hcols : cols ≤ width)
    (checks : Checks) {logging : Desk (EventLog rows cols capacity) width}
    {passing : Desk Passthrough width} (hsheet : logging.sheet = passing.sheet) :
    (∀ (turn : Turn width) (desk : Desk (EventLog rows cols capacity) width),
      (turn.work checks).run desk = turn.outcome checks desk) ∧
    (∀ (turn : Turn width) (desk : Desk Passthrough width),
      (turn.work checks).run desk = turn.outcome checks desk) ∧
    ∀ turns : List (Turn width), (∀ n, .init n ∈ turns → n ≤ rows) →
      Interchangeable checks logging passing turns := by
  have hpassing (turns : List (Turn width)) :=
    Turn.run_works (Nat.zero_le width) checks turns (fun _ _ => trivial) passing
  refine ⟨Turn.run_work hcols checks, Turn.run_work (Nat.zero_le width) checks, ?_⟩
  intro turns hroom
  constructor
  case same_cooked =>
    obtain ⟨logging', hrun, hleft⟩ := Turn.run_works hcols checks turns hroom logging
    obtain ⟨passing', hrun', hleft'⟩ := hpassing turns
    have hsame : logging'.sheet = passing'.sheet := by rw [hleft, hleft', hsheet]
    exact ⟨logging', passing', hrun, hrun', congrArg Sheet.cooked hsame⟩
  case next_cycle =>
    intro now raw numRows changed
    obtain ⟨before, hrun, hbefore⟩ := hpassing turns
    obtain ⟨after, hrun', hafter⟩ := hpassing (turns ++ [.debounce now raw numRows changed])
    rw [List.foldl_append, ← hbefore, List.foldl_cons, List.foldl_nil] at hafter
    have hcooked : after.cooked =
        (Turn.copy before.sheet (.debounce now raw numRows changed)).cooked :=
      congrArg Sheet.cooked hafter
    refine ⟨before, after, hrun, hrun', ?_, ?_⟩
    · rw [hcooked]
      exact Turn.size_copy_debounce ..
    · intro inUse r
      rw [hcooked]
      simp only [inUse, ← hbefore]
      exact Turn.row_copy_debounce ..

/-- A cycle too early, one that brings stray bits and a row too many, and a new start. -/
def copyTurns : List (Turn 8) := [
  .debounce ⟨0⟩ (.ofList [⟨1⟩]) 1 true,
  .init 2,
  .debounce ⟨1000⟩ (.ofList [⟨0b10000001⟩, ⟨0b1⟩, ⟨0b111⟩]) 5 true,
  .free,
  .init 3,
  .recook (·.set 2 0 true)]

/-- The log has room for two of the events, and none for the stray bit, but all of it is copied.
After that a cycle for seven rows covers the only one that it is given. -/
theorem copyTurns_interchangeable :
    let cooked : Grid 8 := .ofList [⟨0⟩, ⟨0⟩, ⟨0b10⟩]
    let logging : Desk (EventLog 3 3 2) 8 := { debouncer := {}, cooked }
    let passing : Desk Passthrough 8 := { debouncer := {}, cooked }
    3 ≤ 8 ∧ logging.sheet = passing.sheet ∧ (∀ n, .init n ∈ copyTurns → n ≤ 3) ∧
      ∃ before after : Desk Passthrough 8,
        (Turn.works .on copyTurns).run passing = .ok () before ∧
        before.cooked = .ofList [⟨0b10000001⟩, ⟨0b1⟩, ⟨0b11⟩] ∧
        (∃ logged, (Turn.works .on copyTurns).run logging = .ok () logged ∧
          logged.cooked = before.cooked) ∧
        (Turn.works .on (copyTurns ++ [.debounce ⟨2000⟩ (.ofList [⟨0b1000⟩]) 7 true])).run passing =
          .ok () after ∧
        after.cooked.row 0 = ⟨0b1000⟩ ∧ after.cooked.row 1 = ⟨0b1⟩ := by
  intro cooked logging passing
  have hinit : ∀ n, .init n ∈ copyTurns → n ≤ 3 := by simp [copyTurns]
  obtain ⟨_, _, hturns⟩ :=
    copies_are_interchangeable (by decide) .on (show logging.sheet = passing.sheet from rfl)
  obtain ⟨hsame, hcycle⟩ := hturns copyTurns hinit
  obtain ⟨before, after, hbefore, hafter, _, hrow⟩ :=
    hcycle ⟨2000⟩ (.ofList [⟨0b1000⟩]) 7 true
  have hcooked : before.cooked = .ofList [⟨0b10000001⟩, ⟨0b1⟩, ⟨0b11⟩] := by
    have hleft :
        (match (Turn.works .on copyTurns).run passing with
          | .ok () desk | .error _ desk => desk.cooked) =
        .ofList [⟨0b10000001⟩, ⟨0b1⟩, ⟨0b11⟩] := by decide +kernel
    rwa [hbefore] at hleft
  obtain ⟨logged, passed, hlogged, hpassed, heq⟩ := hsame
  rw [hbefore] at hpassed
  cases hpassed
  rw [hcooked] at hrow
  exact ⟨by decide, rfl, hinit, before, after, hbefore, hcooked, ⟨logged, hlogged, heq⟩, hafter,
    hrow 0, hrow 1⟩

end KeyMatrix
