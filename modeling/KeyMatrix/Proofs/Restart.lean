import KeyMatrix.Proofs.Calls
import KeyMatrix.Proofs.SteadyDebouncer

/-! # Starting over

A debouncer may have gone through any calls, also ones that it refused. Once it is initialized again
it cannot be told from one that has just been constructed. Before that, and after it is freed, its
cycles come to nothing: not even the time is looked at.
-/
namespace KeyMatrix

/-! ## Time sources that start over -/

/-- Time sources of which a reset leaves nothing but what they were constructed with. -/
class ForgetfulTimeSource (τ : Type) [TimeSource τ] : Prop where
  reset_elapsed (timer : τ) (now : Instant) :
    TimeSource.reset (TimeSource.elapsed timer now).timer = TimeSource.reset timer
  reset_reset (timer : τ) : TimeSource.reset (TimeSource.reset timer) = TimeSource.reset timer

/-- Two time sources are of the same kind if a reset makes them equal. -/
def SameKind {τ : Type} [TimeSource τ] (a b : τ) : Prop := TimeSource.reset a = TimeSource.reset b

instance : ForgetfulTimeSource MillisTimer where
  reset_elapsed _ _ := rfl
  reset_reset _ := rfl

instance : ForgetfulTimeSource FrameTimer where
  reset_elapsed _ _ := rfl
  reset_reset _ := rfl

instance : ForgetfulTimeSource Timer where
  reset_elapsed timer _ := by cases timer <;> rfl
  reset_reset timer := by cases timer <;> rfl

/-- A time source that counts how often it is read. -/
structure Metered (τ : Type) where
  timer : τ
  readings : Nat := 0
  deriving DecidableEq, Repr

instance {τ : Type} [TimeSource τ] : TimeSource (Metered τ) where
  elapsed metered now :=
    let reading := TimeSource.elapsed metered.timer now
    { reading with timer := { timer := reading.timer, readings := metered.readings + 1 } }
  reset metered := { metered with timer := TimeSource.reset metered.timer }

/-! ## What calls answer -/

/-- What a call leaves and reports. -/
inductive Answer (δ : Type) (width : Nat) where
  | prepared (prepared : Prepared δ)
  | cycled (cycle : Cycle δ width)

namespace Call

variable {δ : Type} [Debouncer δ] {width : Nat}

/-- What a call answers, unless it is refused. -/
def answer (checks : Checks) (debouncer : δ) : Call width → Except Fault (Answer δ width)
  | init n => (Debouncer.init debouncer n).map .prepared
  | free => .ok (.prepared (Debouncer.free debouncer))
  | debounce now raw cooked numRows changed =>
    (Debouncer.debounce checks now debouncer raw cooked numRows changed).map .cycled

/-- What several calls in order answer. -/
def answers (checks : Checks) (debouncer : δ) :
    List (Call width) → List (Except Fault (Answer δ width))
  | [] => []
  | call :: calls =>
    call.answer checks debouncer :: answers checks (call.after checks debouncer) calls

end Call

/-! ## Debouncers that start over -/

/-- Debouncers that keep nothing but what they were constructed with when they are initialized. -/
class RestartingDebouncer (δ : Type) [Debouncer δ] where
  /-- What a debouncer is constructed with, as far as it matters. -/
  Origin : Type
  origin : δ → Origin
  origin_init {debouncer : δ} {n : Nat} {prepared : Prepared δ} :
    Debouncer.init debouncer n = .ok prepared → origin prepared.debouncer = origin debouncer
  origin_free (debouncer : δ) : origin (Debouncer.free debouncer).debouncer = origin debouncer
  origin_debounce {width : Nat} {checks : Checks} {now : Instant} {debouncer : δ}
    {raw cooked : Grid width} {numRows : Nat} {changed : Bool} {cycle : Cycle δ width} :
    Debouncer.debounce checks now debouncer raw cooked numRows changed = .ok cycle →
      origin cycle.debouncer = origin debouncer
  init_congr {a b : δ} (n : Nat) : origin a = origin b → Debouncer.init a n = Debouncer.init b n

section Restarting
variable {δ : Type} [Debouncer δ] [RestartingDebouncer δ] {width : Nat}

theorem origin_after (checks : Checks) (debouncer : δ) (call : Call width) :
    RestartingDebouncer.origin (call.after checks debouncer) =
      RestartingDebouncer.origin debouncer := by
  cases call with
  | init n =>
    cases h : Debouncer.init debouncer n with
    | error fault => rw [Call.after_init_of_error h]
    | ok prepared => rw [Call.after_init_eq h, RestartingDebouncer.origin_init h]
  | free => exact RestartingDebouncer.origin_free debouncer
  | debounce now raw cooked numRows changed =>
    cases h : Debouncer.debounce checks now debouncer raw cooked numRows changed with
    | error fault => simp only [Call.after, h]
    | ok cycle => simp only [Call.after, h, RestartingDebouncer.origin_debounce h]

theorem origin_afterAll (checks : Checks) (debouncer : δ) (calls : List (Call width)) :
    RestartingDebouncer.origin (Call.afterAll checks debouncer calls) =
      RestartingDebouncer.origin debouncer := by
  induction calls generalizing debouncer with
  | nil => rfl
  | cons call calls ih => rw [Call.afterAll_cons, ih, origin_after]

end Restarting

/-- Whatever calls it has gone through, an initialization makes `debouncer` what it makes of
`fresh`. -/
structure StartsOver {δ : Type} [Debouncer δ] (width : Nat) (debouncer fresh : δ) : Prop where
  /-- It answers the same, also if it is refused. -/
  init_eq (checks : Checks) (calls : List (Call width)) (n : Nat) :
    Debouncer.init (Call.afterAll checks debouncer calls) n = Debouncer.init fresh n
  /-- After it nothing that is called tells the two apart. -/
  answers_eq (checks : Checks) (calls later : List (Call width)) {n : Nat}
    {prepared : Prepared δ} : Debouncer.init fresh n = .ok prepared →
    Call.answers checks (Call.afterAll checks debouncer (calls ++ [.init n])) later =
      Call.answers checks prepared.debouncer later

theorem startsOver_of_origin_eq {δ : Type} [Debouncer δ] [RestartingDebouncer δ] (width : Nat)
    {debouncer fresh : δ}
    (h : RestartingDebouncer.origin debouncer = RestartingDebouncer.origin fresh) :
    StartsOver width debouncer fresh := by
  have hinit (checks : Checks) (calls : List (Call width)) (n : Nat) :
      Debouncer.init (Call.afterAll checks debouncer calls) n = Debouncer.init fresh n :=
    RestartingDebouncer.init_congr n ((origin_afterAll checks debouncer calls).trans h)
  refine ⟨hinit, ?_⟩
  intro checks calls later n prepared hfresh
  have hlast : (Call.init n : Call width).after checks (Call.afterAll checks debouncer calls) =
      prepared.debouncer :=
    Call.after_init_eq ((hinit checks calls n).trans hfresh)
  rw [Call.afterAll_append, Call.afterAll_cons, Call.afterAll_nil, hlast]

/-! ## Debouncers that rest -/

/-- Debouncers that do nothing while no rows are in use. -/
class RestingDebouncer (δ : Type) [Debouncer δ] [SteadyDebouncer δ] : Prop where
  rowsInUse_free (debouncer : δ) :
    SteadyDebouncer.rowsInUse (Debouncer.free debouncer).debouncer = 0
  debounce_rest {width : Nat} (checks : Checks) (now : Instant) {debouncer : δ}
    (raw cooked : Grid width) (numRows : Nat) (changed : Bool) :
    SteadyDebouncer.rowsInUse debouncer = 0 →
    Debouncer.debounce checks now debouncer raw cooked numRows changed =
      .ok { debouncer, cooked, log := [] }

/-- The debouncer has just been constructed, or freed after some calls. -/
def Stopped {δ : Type} [Debouncer δ] (width : Nat) (checks : Checks) (constructed debouncer : δ) :
    Prop :=
  debouncer = constructed ∨ ∃ calls : List (Call width),
    debouncer = (Debouncer.free (Call.afterAll checks constructed calls)).debouncer

/-- No initialization succeeds among the calls. -/
def Pause {width : Nat} (refused : Nat → Prop) (calls : List (Call width)) : Prop :=
  ∀ n, .init n ∈ calls → refused n

theorem Pause.of_cons {width : Nat} {refused : Nat → Prop} {call : Call width}
    {calls : List (Call width)} (h : Pause refused (call :: calls)) :
    (∀ n, call = .init n → refused n) ∧ Pause refused calls :=
  ⟨fun n hn => h n (hn ▸ List.mem_cons_self), fun n hn => h n (List.mem_cons_of_mem _ hn)⟩

/-- As long as it is stopped and no initialization succeeds, a debouncer does nothing. -/
structure Rests {δ : Type} [Debouncer δ] (width : Nat) (refused : Nat → Prop) (constructed : δ) :
    Prop where
  /-- A cycle changes neither the debouncer nor the cooked grid, and reports nothing. -/
  debounce_eq (checks : Checks) {start : δ} {calls : List (Call width)} (now : Instant)
    (raw cooked : Grid width) (numRows : Nat) (changed : Bool) :
    Stopped width checks constructed start → Pause refused calls →
    Debouncer.debounce checks now (Call.afterAll checks start calls) raw cooked numRows changed =
      .ok { debouncer := Call.afterAll checks start calls, cooked, log := [] }
  /-- However many cycles there are, the debouncer stays what it was. -/
  afterAll_eq (checks : Checks) {start : δ} {calls : List (Call width)} :
    Stopped width checks constructed start → Pause refused calls → .free ∉ calls →
    Call.afterAll checks start calls = start

section Resting
variable {δ : Type} [Debouncer δ] [SteadyDebouncer δ] [RestingDebouncer δ] {width : Nat}

theorem Stopped.rowsInUse_eq_zero {checks : Checks} {constructed debouncer : δ}
    (h : Stopped width checks constructed debouncer)
    (hconstructed : SteadyDebouncer.rowsInUse constructed = 0) :
    SteadyDebouncer.rowsInUse debouncer = 0 := by
  rcases h with rfl | ⟨calls, rfl⟩
  · exact hconstructed
  · exact RestingDebouncer.rowsInUse_free _

variable {refused : Nat → Prop}

/-- A call without effect leaves the rows out of use, and all else too unless it is a free. -/
theorem after_of_rowsInUse_eq_zero
    (hrefused : ∀ n, refused n →
      ∀ debouncer : δ, ∃ fault, Debouncer.init debouncer n = .error fault)
    (checks : Checks) {debouncer : δ} (hidle : SteadyDebouncer.rowsInUse debouncer = 0)
    {call : Call width} (hcall : ∀ n, call = .init n → refused n) :
    SteadyDebouncer.rowsInUse (call.after checks debouncer) = 0 ∧
      (call ≠ .free → call.after checks debouncer = debouncer) := by
  cases call with
  | init n =>
    obtain ⟨fault, hfault⟩ := hrefused n (hcall n rfl) debouncer
    rw [Call.after_init_of_error hfault]
    exact ⟨hidle, fun _ => rfl⟩
  | free => exact ⟨RestingDebouncer.rowsInUse_free debouncer, fun h => absurd rfl h⟩
  | debounce now raw cooked numRows changed =>
    have h := RestingDebouncer.debounce_rest checks now raw cooked numRows changed hidle
    simp only [Call.after, h]
    exact ⟨hidle, fun _ => trivial⟩

theorem afterAll_of_rowsInUse_eq_zero
    (hrefused : ∀ n, refused n →
      ∀ debouncer : δ, ∃ fault, Debouncer.init debouncer n = .error fault)
    (checks : Checks) {debouncer : δ} (hidle : SteadyDebouncer.rowsInUse debouncer = 0)
    {calls : List (Call width)} (hpause : Pause refused calls) :
    SteadyDebouncer.rowsInUse (Call.afterAll checks debouncer calls) = 0 ∧
      (.free ∉ calls → Call.afterAll checks debouncer calls = debouncer) := by
  induction calls generalizing debouncer with
  | nil => exact ⟨hidle, fun _ => rfl⟩
  | cons call calls ih =>
    obtain ⟨hcall, hcalls⟩ := hpause.of_cons
    obtain ⟨hzero, hsame⟩ := after_of_rowsInUse_eq_zero hrefused checks hidle hcall
    obtain ⟨hlast, hrest⟩ := ih hzero hcalls
    refine ⟨hlast, fun hfree => ?_⟩
    rw [List.mem_cons, not_or] at hfree
    rw [Call.afterAll_cons, hrest hfree.2, hsame (Ne.symm hfree.1)]

theorem rests_of_refused {constructed : δ}
    (hconstructed : SteadyDebouncer.rowsInUse constructed = 0)
    (hrefused : ∀ n, refused n →
      ∀ debouncer : δ, ∃ fault, Debouncer.init debouncer n = .error fault) :
    Rests width refused constructed where
  debounce_eq checks _ _ now raw cooked numRows changed hstart hpause :=
    RestingDebouncer.debounce_rest checks now raw cooked numRows changed
      (afterAll_of_rowsInUse_eq_zero hrefused checks (hstart.rowsInUse_eq_zero hconstructed)
        hpause).1
  afterAll_eq checks _ _ hstart hpause :=
    (afterAll_of_rowsInUse_eq_zero hrefused checks (hstart.rowsInUse_eq_zero hconstructed)
      hpause).2

end Resting

/-! ## The three debouncers -/

section Instances
variable {τ : Type} [TimeSource τ] {rows cols capacity width : Nat}

instance [ForgetfulTimeSource τ] : RestartingDebouncer (AntiGhost τ rows cols) where
  Origin := Config × τ
  origin debouncer := (debouncer.config, TimeSource.reset debouncer.timer)
  origin_init {debouncer n prepared} h := by
    obtain ⟨_, rfl⟩ := AntiGhost.init_cases h
    exact congrArg (Prod.mk _) (ForgetfulTimeSource.reset_reset _)
  origin_free debouncer := congrArg (Prod.mk _) (ForgetfulTimeSource.reset_reset debouncer.timer)
  origin_debounce {width checks now debouncer raw cooked numRows changed cycle} h := by
    obtain ⟨_, rfl⟩ | ⟨_, rfl⟩ := AntiGhost.debounce_cases h
    · rfl
    · exact congrArg (Prod.mk _) (ForgetfulTimeSource.reset_elapsed debouncer.timer now)
  init_congr {a b} n h := by
    obtain ⟨hconfig, htimer⟩ := Prod.mk.inj h
    change a.init n = b.init n
    rw [AntiGhost.init, AntiGhost.init, hconfig, htimer]

instance : RestartingDebouncer (EventLog rows cols capacity) where
  Origin := Unit
  origin _ := ()
  origin_init _ := rfl
  origin_free _ := rfl
  origin_debounce _ := rfl
  init_congr _ _ := rfl

instance : RestartingDebouncer Passthrough where
  Origin := Unit
  origin _ := ()
  origin_init _ := rfl
  origin_free _ := rfl
  origin_debounce _ := rfl
  init_congr _ _ := rfl

theorem sharedRows_eq_zero {numRows inUse : Nat} (raw cooked : Grid width) (h : inUse = 0) :
    sharedRows numRows inUse raw cooked = 0 :=
  Nat.le_zero.1 (Nat.le_trans (sharedRows_le_inUse ..) (Nat.le_of_eq h))

instance : RestingDebouncer (AntiGhost τ rows cols) where
  rowsInUse_free _ := rfl
  debounce_rest _ _ _ _ _ _ _ h := AntiGhost.debounce_of_idle _ _ _ _ _ _ h

instance : RestingDebouncer (EventLog rows cols capacity) where
  rowsInUse_free _ := rfl
  debounce_rest {width} checks now {debouncer} raw cooked numRows changed h := by
    change Except.ok (debouncer.debounce now raw cooked numRows changed) = _
    have hshared : sharedRows numRows debouncer.numRows raw cooked = 0 :=
      sharedRows_eq_zero raw cooked h
    cases changed with
    | false => rfl
    | true =>
      simp only [EventLog.debounce, EventLog.cover, if_true, hshared, Grid.overwrite_zero]
      rfl

instance : RestingDebouncer Passthrough where
  rowsInUse_free _ := rfl
  debounce_rest {width} checks now {debouncer} raw cooked numRows changed h := by
    change Except.ok (debouncer.debounce raw cooked numRows changed) = _
    have hshared : sharedRows numRows debouncer.numRows raw cooked = 0 :=
      sharedRows_eq_zero raw cooked h
    cases changed with
    | false => rfl
    | true =>
      simp only [Passthrough.debounce, Passthrough.cover, if_true, hshared, Grid.overwrite_zero]

/-- Without rows in use no call reads the time, not even a free. -/
theorem AntiGhost.readings_after (checks : Checks) {debouncer : AntiGhost (Metered τ) rows cols}
    (hidle : SteadyDebouncer.rowsInUse debouncer = 0) {call : Call width}
    (hcall : ∀ n, call = .init n → rows < n) :
    (call.after checks debouncer).timer.readings = debouncer.timer.readings := by
  have hsame := (after_of_rowsInUse_eq_zero
    (fun n hn debouncer => ⟨_, AntiGhost.init_of_lt debouncer hn⟩) checks hidle hcall).2
  cases call with
  | free => rfl
  | init n => rw [hsame nofun]
  | debounce now raw cooked numRows changed => rw [hsame nofun]

theorem AntiGhost.readings_afterAll (checks : Checks)
    {debouncer : AntiGhost (Metered τ) rows cols}
    (hidle : SteadyDebouncer.rowsInUse debouncer = 0) {calls : List (Call width)}
    (hpause : Pause (rows < ·) calls) :
    (Call.afterAll checks debouncer calls).timer.readings = debouncer.timer.readings := by
  induction calls generalizing debouncer with
  | nil => rfl
  | cons call calls ih =>
    obtain ⟨hcall, hcalls⟩ := hpause.of_cons
    have hnext := (after_of_rowsInUse_eq_zero
      (fun n hn debouncer => ⟨_, AntiGhost.init_of_lt debouncer hn⟩) checks hidle hcall).1
    rw [Call.afterAll_cons, ih hnext hcalls, AntiGhost.readings_after checks hidle hcall]

end Instances

/-- Nothing survives an initialization, and nothing happens while a debouncer is stopped. The time
source of a debouncer with timed keys starts over with it, and is not read as long as it is
stopped. -/
theorem init_starts_over_and_stopped_rests (τ : Type) [TimeSource τ] (config : Config)
    (rows cols capacity width : Nat) :
    (∀ [ForgetfulTimeSource τ] (timer fresh : τ), SameKind timer fresh →
      StartsOver width (.ofTimer config timer : AntiGhost τ rows cols) (.ofTimer config fresh)) ∧
    (∀ timer : τ, Rests width (rows < ·) (.ofTimer config timer : AntiGhost τ rows cols)) ∧
    (∀ (timer : Metered τ) (checks : Checks) (start : AntiGhost (Metered τ) rows cols)
      (calls : List (Call width)), Stopped width checks (.ofTimer config timer) start →
      Pause (rows < ·) calls →
      (Call.afterAll checks start calls).timer.readings = start.timer.readings) ∧
    StartsOver width ({} : EventLog rows cols capacity) {} ∧
    Rests width (rows < ·) ({} : EventLog rows cols capacity) ∧
    StartsOver width ({} : Passthrough) {} ∧
    Rests width (fun _ => False) ({} : Passthrough) := by
  refine ⟨fun timer fresh hkind => ?_, fun timer => ?_,
    fun timer checks start calls hstart hpause => ?_, ?_, ?_, ?_, ?_⟩
  · exact startsOver_of_origin_eq width (congrArg (Prod.mk config) hkind)
  · exact rests_of_refused rfl fun n hn debouncer => ⟨_, AntiGhost.init_of_lt debouncer hn⟩
  · exact AntiGhost.readings_afterAll checks (hstart.rowsInUse_eq_zero rfl) hpause
  · exact startsOver_of_origin_eq width rfl
  · exact rests_of_refused rfl fun n hn log => ⟨_, EventLog.init_of_lt log hn⟩
  · exact startsOver_of_origin_eq width rfl
  · exact rests_of_refused rfl fun _ hn => hn.elim

/-- A key goes down, and its debouncer is freed before the press is accepted. A request for more
rows than there are is refused. -/
def doze : List (Call 8) :=
  [.init 2, .debounce ⟨5000⟩ (.ofList [⟨1⟩, ⟨0⟩]) (.released 2) 2 true, .init 3, .free]

/-- The key is still counting down when the debouncer is freed. Neither it nor the time of the last
reading is left after the next initialization, and until then it does not go on. -/
theorem doze_starts_over_and_rests :
    let constructed : AntiGhost MillisTimer 2 2 := .ofTimer (.uniform 0) {}
    let asleep := Call.afterAll .on constructed doze
    asleep.keys.get 0 0 = .debouncing 0 ∧
      SameKind ({} : MillisTimer) ⟨some 7⟩ ∧
      Debouncer.init asleep 2 =
        Debouncer.init (.ofTimer (.uniform 0) ⟨some 7⟩ : AntiGhost MillisTimer 2 2) 2 ∧
      Stopped 8 .on constructed asleep ∧ Pause (2 < ·) ([.init 3] : List (Call 8)) ∧
      Debouncer.debounce .on ⟨9000⟩ (Call.afterAll .on asleep ([.init 3] : List (Call 8)))
          (.ofList [⟨1⟩, ⟨0⟩] : Grid 8) (.released 2) 2 true =
        .ok { debouncer := Call.afterAll .on asleep ([.init 3] : List (Call 8))
              cooked := .released 2, log := [] } := by
  intro constructed asleep
  obtain ⟨hover, hrests, _⟩ := init_starts_over_and_stopped_rests MillisTimer (.uniform 0) 2 2 4 8
  have hkind : SameKind ({} : MillisTimer) ⟨some 7⟩ := rfl
  have hstopped : Stopped 8 .on constructed asleep := .inr ⟨doze.dropLast, rfl⟩
  have hpause : Pause (2 < ·) ([.init 3] : List (Call 8)) := by simp [Pause]
  exact ⟨by decide +kernel, hkind, (hover {} ⟨some 7⟩ hkind).init_eq .on doze 2, hstopped, hpause,
    (hrests {}).debounce_eq .on ⟨9000⟩ _ _ 2 true hstopped hpause⟩

end KeyMatrix
