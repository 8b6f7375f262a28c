import KeyMatrix.Proofs.Guarded
import KeyMatrix.Proofs.Restart

/-! # Work at a desk

On the desk lie a debouncer, the cooked grid of its caller, and a pad for what is reported. Work
writes to them step by step, and when it is stopped halfway, what has been written so far stays.
-/
namespace KeyMatrix

/-- What a call can write to. -/
structure Desk (δ : Type) (width : Nat) where
  debouncer : δ
  /-- The grid of the caller. -/
  cooked : Grid width := .released 0
  log : List Message := []

/-- What the answer of a call leaves on the desk. If the call is refused, that is all there was. -/
def Desk.settle {δ : Type} {width : Nat} (desk : Desk δ width) :
    Except Fault (Answer δ width) → EStateM.Result Trap (Desk δ width) Unit
  | .ok (.prepared ⟨debouncer, log⟩) => .ok () { desk with debouncer, log := desk.log ++ log }
  | .ok (.cycled ⟨debouncer, cooked, log⟩) => .ok () ⟨debouncer, cooked, desk.log ++ log⟩
  | .error fault => .error (.fault fault) desk

abbrev Work (δ : Type) (width : Nat) := EStateM Trap (Desk δ width)

instance {δ : Type} {width : Nat} : MonadLift (Except Trap) (Work δ width) where
  monadLift
    | .ok value => pure value
    | .error trap => throw trap

namespace Work

variable {δ α β : Type} {width : Nat}

/-- Change the debouncer. -/
def alter (f : δ → δ) : Work δ width Unit :=
  modify fun desk => { desk with debouncer := f desk.debouncer }

/-- Change the cooked grid. -/
def recook (f : Grid width → Grid width) : Work δ width Unit :=
  modify fun desk => { desk with cooked := f desk.cooked }

def report (messages : List Message) : Work δ width Unit :=
  modify fun desk => { desk with log := desk.log ++ messages }

@[simp] theorem run_alter (f : δ → δ) (desk : Desk δ width) :
    (alter f).run desk = .ok () { desk with debouncer := f desk.debouncer } := rfl

@[simp] theorem run_recook (f : Grid width → Grid width) (desk : Desk δ width) :
    (recook f).run desk = .ok () { desk with cooked := f desk.cooked } := rfl

@[simp] theorem run_report (messages : List Message) (desk : Desk δ width) :
    (report messages).run desk = .ok () { desk with log := desk.log ++ messages } := rfl

@[simp] theorem run_lift_ok (value : α) (desk : Desk δ width) :
    (liftM (Except.ok value : Except Trap α) : Work δ width α).run desk = .ok value desk := rfl

@[simp] theorem run_lift_fault_ok (value : α) (desk : Desk δ width) :
    (liftM (Except.ok value : Except Fault α) : Work δ width α).run desk = .ok value desk := rfl

theorem run_bind_ok {work : Work δ width α} {next : α → Work δ width β} {desk desk' : Desk δ width}
    {value : α} (h : work.run desk = .ok value desk') :
    (work >>= next).run desk = (next value).run desk' := by
  rw [EStateM.run_bind, h]

/-- A loop over numbers leads through the desks that its steps lead through. -/
theorem run_forM_range (step : Nat → Work δ width Unit) {n : Nat} (desks : Nat → Desk δ width)
    (h : ∀ i < n, (step i).run (desks i) = .ok () (desks (i + 1))) :
    (forM (List.range n) step).run (desks 0) = .ok () (desks n) := by
  induction n with
  | zero => rfl
  | succ n ih =>
    have hfirst := ih fun i hi => h i (Nat.lt_succ_of_lt hi)
    rw [List.range_succ, List.forM_append, run_bind_ok hfirst, List.forM_cons,
      run_bind_ok (h n (Nat.lt_succ_self n))]
    rfl

end Work

end KeyMatrix
