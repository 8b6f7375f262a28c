import KeyMatrix.Proofs.InPlace.Copying

/-! # Outcomes

A call that is carried out step by step leaves the desk as its answer says. What a call has written
when it is stopped is not taken back, so that a sequence of calls goes on with it.
-/
namespace KeyMatrix

/-- Debouncers whose calls are carried out step by step. -/
class InPlaceDebouncer (δ : Type) [Debouncer δ] where
  /-- The columns that a cycle looks at. -/
  cols : Nat
  init {width : Nat} (n : Nat) : Work δ width Unit
  free {width : Nat} : Work δ width Unit
  /-- One scan cycle. The cooked grid lies on the desk. -/
  debounce {width : Nat} (checks : Checks) (now : Instant) (raw : Grid width) (numRows : Nat)
    (changed : Bool) : Work δ width Unit
  run_init {width : Nat} (n : Nat) (desk : Desk δ width) :
    (init n).run desk = desk.settle ((Debouncer.init desk.debouncer n).map .prepared)
  run_free {width : Nat} (desk : Desk δ width) :
    free.run desk = desk.settle (.ok (.prepared (Debouncer.free desk.debouncer)))
  run_debounce {width : Nat} : cols ≤ width → ∀ (checks : Checks) (now : Instant)
    (raw : Grid width) (numRows : Nat) (changed : Bool) (desk : Desk δ width),
    (debounce checks now raw numRows changed).run desk =
      desk.settle ((Debouncer.debounce checks now desk.debouncer raw desk.cooked numRows
        changed).map .cycled)

section Instances
variable {τ : Type} [TimeSource τ] {rows cols capacity : Nat}

instance : InPlaceDebouncer (AntiGhost τ rows cols) where
  cols := cols
  init := InPlace.initAntiGhost
  free := InPlace.freeAntiGhost
  debounce := InPlace.debounceAntiGhost
  run_init := InPlace.run_initAntiGhost
  run_free := InPlace.run_freeAntiGhost
  run_debounce := InPlace.run_debounceAntiGhost

instance : InPlaceDebouncer (EventLog rows cols capacity) where
  cols := cols
  init := InPlace.initEventLog
  free := InPlace.freeEventLog
  debounce := InPlace.debounceEventLog
  run_init := InPlace.run_initEventLog
  run_free := InPlace.run_freeEventLog
  run_debounce := InPlace.run_debounceEventLog

instance : InPlaceDebouncer Passthrough where
  cols := 0
  init := InPlace.initPassthrough
  free := InPlace.freePassthrough
  debounce _ _ := InPlace.debouncePassthrough
  run_init := InPlace.run_initPassthrough
  run_free := InPlace.run_freePassthrough
  run_debounce _ := InPlace.run_debouncePassthrough

end Instances

/-- What becomes of a call. -/
structure Outcome (δ : Type) (width : Nat) where
  call : Call width
  /-- What stopped the call, if anything. -/
  trap? : Option Trap
  /-- What then lies on the desk. -/
  desk : Desk δ width

/-- The call was not stopped. -/
def Outcome.isOk {δ : Type} {width : Nat} (outcome : Outcome δ width) : Bool :=
  outcome.trap?.isNone

namespace Call

variable {δ : Type} {width : Nat}

/-- What lies on the desk when a call comes. A cycle brings the cooked grid of its caller. -/
def desk (debouncer : δ) : Call width → Desk δ width
  | .debounce _ _ cooked _ _ => { debouncer, cooked }
  | .init _ | .free => { debouncer }

@[simp] theorem debouncer_desk (debouncer : δ) (call : Call width) :
    (call.desk debouncer).debouncer = debouncer := by
  cases call <;> rfl

@[simp] theorem log_desk (debouncer : δ) (call : Call width) :
    (call.desk debouncer).log = [] := by
  cases call <;> rfl

variable [Debouncer δ] [InPlaceDebouncer δ]

/-- Carry out a call step by step. -/
def work (checks : Checks) : Call width → Work δ width Unit
  | .init n => InPlaceDebouncer.init n
  | .free => InPlaceDebouncer.free
  | .debounce now raw _ numRows changed =>
    InPlaceDebouncer.debounce checks now raw numRows changed

/-- The outcome of a call of the given debouncer. -/
def outcome (checks : Checks) (debouncer : δ) (call : Call width) : Outcome δ width :=
  match (call.work checks).run (call.desk debouncer) with
  | .ok () desk => { call, trap? := none, desk }
  | .error trap desk => { call, trap? := some trap, desk }

/-- The outcomes of several calls in order. Each of them finds the debouncer as the call before has
left it, stopped or not. -/
def outcomes (checks : Checks) (debouncer : δ) : List (Call width) → List (Outcome δ width)
  | [] => []
  | call :: calls =>
    let outcome := call.outcome checks debouncer
    outcome :: outcomes checks outcome.desk.debouncer calls

/-- The debouncer that several calls in order leave. -/
def leftBy (checks : Checks) (debouncer : δ) (calls : List (Call width)) : δ :=
  calls.foldl (fun debouncer call => (call.outcome checks debouncer).desk.debouncer) debouncer

theorem outcomes_cons (checks : Checks) (debouncer : δ) (call : Call width)
    (calls : List (Call width)) :
    outcomes checks debouncer (call :: calls) = call.outcome checks debouncer ::
      outcomes checks (call.outcome checks debouncer).desk.debouncer calls := rfl

theorem leftBy_cons (checks : Checks) (debouncer : δ) (call : Call width)
    (calls : List (Call width)) :
    leftBy checks debouncer (call :: calls) =
      leftBy checks (call.outcome checks debouncer).desk.debouncer calls := rfl

/-! ## Outcomes and answers -/

/-- Step by step, a call does what it answers. -/
theorem run_work (hcols : InPlaceDebouncer.cols δ ≤ width) (checks : Checks) (debouncer : δ)
    (call : Call width) :
    (call.work checks).run (call.desk debouncer) =
      (call.desk debouncer).settle (call.answer checks debouncer) := by
  cases call with
  | init n => exact InPlaceDebouncer.run_init n _
  | free => exact InPlaceDebouncer.run_free _
  | debounce now raw cooked numRows changed =>
    exact InPlaceDebouncer.run_debounce hcols checks now raw numRows changed _

/-- The outcome that an answer stands for. -/
def outcomeOf (debouncer : δ) (call : Call width) :
    Except Fault (Answer δ width) → Outcome δ width
  | .ok (.prepared ⟨debouncer', log⟩) =>
    { call, trap? := none, desk := { call.desk debouncer with debouncer := debouncer', log } }
  | .ok (.cycled ⟨debouncer', cooked, log⟩) =>
    { call, trap? := none, desk := ⟨debouncer', cooked, log⟩ }
  | .error fault => { call, trap? := some (.fault fault), desk := call.desk debouncer }

theorem outcome_eq (hcols : InPlaceDebouncer.cols δ ≤ width) (checks : Checks) (debouncer : δ)
    (call : Call width) :
    call.outcome checks debouncer = call.outcomeOf debouncer (call.answer checks debouncer) := by
  rw [outcome, run_work hcols]
  cases call.answer checks debouncer with
  | error fault => rfl
  | ok answer =>
    cases answer with
    | prepared prepared => simp only [Desk.settle, outcomeOf, log_desk, List.nil_append]
    | cycled cycle => simp only [Desk.settle, outcomeOf, log_desk, List.nil_append]

@[simp] theorem call_outcome (checks : Checks) (debouncer : δ) (call : Call width) :
    (call.outcome checks debouncer).call = call := by
  rw [outcome]
  split <;> rfl

/-- The debouncer that a call leaves on the desk is the one after it. -/
theorem debouncer_outcome (hcols : InPlaceDebouncer.cols δ ≤ width) (checks : Checks)
    (debouncer : δ) (call : Call width) :
    (call.outcome checks debouncer).desk.debouncer = call.after checks debouncer := by
  rw [outcome_eq hcols]
  cases call with
  | init n =>
    simp only [answer, after]
    cases Debouncer.init debouncer n <;> rfl
  | free => rfl
  | debounce now raw cooked numRows changed =>
    simp only [answer, after]
    cases Debouncer.debounce checks now debouncer raw cooked numRows changed <;> rfl

end Call
end KeyMatrix
