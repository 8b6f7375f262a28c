import KeyMatrix.Debouncer

/-! # Sequences of calls

A debouncer is at the mercy of its caller: it can be initialized, freed and asked for cycles in any
order, over grids of any size. A call that is refused leaves it as it was.
-/
namespace KeyMatrix

/-- A call of a debouncer. The grids of a cycle are those of its caller. -/
inductive Call (width : Nat) where
  | init (n : Nat)
  | free
  | debounce (now : Instant) (raw cooked : Grid width) (numRows : Nat) (changed : Bool)

namespace Call

variable {δ : Type} [Debouncer δ] {width : Nat}

/-- The debouncer after a call. -/
def after (checks : Checks) (debouncer : δ) : Call width → δ
  | init n =>
    match Debouncer.init debouncer n with
    | .ok prepared => prepared.debouncer
    | .error _ => debouncer
  | free => (Debouncer.free debouncer).debouncer
  | debounce now raw cooked numRows changed =>
    match Debouncer.debounce checks now debouncer raw cooked numRows changed with
    | .ok cycle => cycle.debouncer
    | .error _ => debouncer

/-- The debouncer after several calls in order. -/
def afterAll (checks : Checks) (debouncer : δ) (calls : List (Call width)) : δ :=
  calls.foldl (after checks) debouncer

@[simp] theorem afterAll_nil (checks : Checks) (debouncer : δ) :
    afterAll checks debouncer ([] : List (Call width)) = debouncer := rfl

@[simp] theorem afterAll_cons (checks : Checks) (debouncer : δ) (call : Call width)
    (calls : List (Call width)) :
    afterAll checks debouncer (call :: calls) =
      afterAll checks (call.after checks debouncer) calls := rfl

theorem afterAll_append (checks : Checks) (debouncer : δ) (first second : List (Call width)) :
    afterAll checks debouncer (first ++ second) =
      afterAll checks (afterAll checks debouncer first) second :=
  List.foldl_append

theorem after_init_eq {checks : Checks} {debouncer : δ} {n : Nat} {prepared : Prepared δ}
    (h : Debouncer.init debouncer n = .ok prepared) :
    (init n : Call width).after checks debouncer = prepared.debouncer := by
  simp only [after, h]

theorem after_init_of_error {checks : Checks} {debouncer : δ} {n : Nat} {fault : Fault}
    (h : Debouncer.init debouncer n = .error fault) :
    (init n : Call width).after checks debouncer = debouncer := by
  simp only [after, h]

end Call
end KeyMatrix
