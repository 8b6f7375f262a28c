import KeyMatrix.Proofs.Sessions
import KeyMatrix.Proofs.WallClock

/-! # The first reading

The first cycle after an initialization finds all keys waiting, and a waiting key does not look at
the time. Whatever the time source reads then leaves no trace, so that debouncers whose time sources
agree from then on cannot be told apart. If the cycles are a millisecond apart, it makes no
difference whether milliseconds or cycles are counted.
-/
namespace KeyMatrix

variable {τ τ' : Type} [TimeSource τ] [TimeSource τ'] {rows cols width : Nat}

/-! ## Calls that are alike -/

/-- Two calls that are the same but for the time at which they are made. -/
inductive Call.Alike : Call width → Call width → Prop where
  | init (n : Nat) : Alike (.init n) (.init n)
  | free : Alike .free .free
  | debounce (now now' : Instant) (raw cooked : Grid width) (numRows : Nat) (changed : Bool) :
    Alike (.debounce now raw cooked numRows changed) (.debounce now' raw cooked numRows changed)

/-- Two debouncers that only differ in their time sources show the same if they read the same units,
or find all keys waiting. -/
theorem AntiGhost.shown_cover_congr {a : AntiGhost τ rows cols} {b : AntiGhost τ' rows cols}
    (huntimed : a.untimed = b.untimed) {now now' : Instant}
    (hunits : a.numRows ≠ 0 → a.keys = .waiting ∨
      (TimeSource.elapsed a.timer now).units = (TimeSource.elapsed b.timer now').units)
    (shared : Nat) (raw cooked : Grid width) (changed : Bool) :
    a.shown now (a.cover shared now raw cooked changed) =
      b.shown now' (b.cover shared now' raw cooked changed) := by
  have hnumRows : a.numRows = b.numRows := congrArg numRows huntimed
  by_cases hn : a.numRows = 0
  · rw [shown_cover_of_idle hn, shown_cover_of_idle (hnumRows ▸ hn), huntimed]
  · have hswept : b.untimed.swept shared (TimeSource.elapsed a.timer now).units raw cooked changed =
        b.untimed.swept shared (TimeSource.elapsed b.timer now').units raw cooked changed := by
      rcases hunits hn with hkeys | hunits
      · have hwaiting : b.untimed.keys = .waiting := by
          rw [← huntimed]
          exact hkeys
        exact swept_of_waiting hwaiting ..
      · rw [hunits]
    rw [shown_cover_of_ne_zero hn, shown_cover_of_ne_zero (hnumRows ▸ hn)]
    simp only [huntimed, hswept]

namespace Session

/-- If a call has the time source read, and not for the first time: when it was read before, and
when it is read now. -/
def rereadAt (checks : Checks) (session : Session τ rows cols) (call : Call width) :
    Option (Instant × Instant) :=
  session.last.bind fun last => (session.readAt checks call).map (last, ·)

theorem isSome_rereadAt_eq (checks : Checks) (session : Session τ rows cols) (call : Call width) :
    (session.rereadAt checks call).isSome =
      (session.last.isSome && (session.readAt checks call).isSome) := by
  rw [rereadAt]
  cases session.last with
  | none => rfl
  | some last => exact Option.isSome_map

theorem last_of_rereadAt {checks : Checks} {session : Session τ rows cols} {call : Call width}
    {times : Instant × Instant} (h : session.rereadAt checks call = some times) :
    session.last = some times.1 := by
  rw [rereadAt, Option.bind_eq_some_iff] at h
  obtain ⟨last, hlast, h⟩ := h
  obtain ⟨now, _, rfl⟩ := Option.map_eq_some_iff.1 h
  exact hlast

/-- The units that are read in a call, unless it is the first reading. -/
def laterUnits (checks : Checks) (session : Session τ rows cols) (call : Call width) :
    Option UInt8 :=
  (session.rereadAt checks call).map fun times =>
    (TimeSource.elapsed session.debouncer.timer times.2).units

/-- By how many whole milliseconds the clock has gone on since the reading before. -/
def gap (checks : Checks) (session : Session τ rows cols) (call : Call width) : Option Int :=
  (session.rereadAt checks call).map fun times => times.2.millis - times.1.millis

/-- What is read in several calls, but for the first readings. -/
def laterReadings (checks : Checks) :
    Session τ rows cols → List (Call width) → List (Option UInt8) :=
  along checks (laterUnits checks)

/-- By how many whole milliseconds the clock goes on from one reading to the next. -/
def gaps (checks : Checks) : Session τ rows cols → List (Call width) → List (Option Int) :=
  along checks (gap checks)

/-- Two sessions that can only be told apart by their time sources. -/
structure Twins (a : Session τ rows cols) (b : Session τ' rows cols) : Prop where
  untimed : a.debouncer.untimed = b.debouncer.untimed
  isSome_last : a.last.isSome = b.last.isSome
  /-- The first reading finds all keys waiting. -/
  keys_waiting : a.last = none → a.debouncer.numRows ≠ 0 → a.debouncer.keys = .waiting

namespace Twins

variable {a : Session τ rows cols} {b : Session τ' rows cols} {checks : Checks}
variable {call call' : Call width}

omit [TimeSource τ] [TimeSource τ'] in
theorem numRows_eq (twins : a.Twins b) : a.debouncer.numRows = b.debouncer.numRows :=
  congrArg AntiGhost.numRows twins.untimed

theorem isSome_readAt (twins : a.Twins b) (checks : Checks) (alike : call.Alike call') :
    (a.readAt checks call).isSome = (b.readAt checks call').isSome := by
  cases alike with
  | init n => rfl
  | free => rfl
  | debounce now now' raw cooked numRows changed =>
    rw [readAt_debounce, readAt_debounce, twins.numRows_eq]
    split <;> rfl

theorem isSome_rereadAt (twins : a.Twins b) (checks : Checks) (alike : call.Alike call') :
    (a.rereadAt checks call).isSome = (b.rereadAt checks call').isSome := by
  rw [isSome_rereadAt_eq, isSome_rereadAt_eq, twins.isSome_last, twins.isSome_readAt checks alike]

/-- Sessions that agree on their readings from the second one on show the same. -/
theorem sight_eq (twins : a.Twins b) (alike : call.Alike call')
    (hunits : a.laterUnits checks call = b.laterUnits checks call') :
    call.sight checks a.debouncer = call'.sight checks b.debouncer := by
  cases alike with
  | init n => rw [Call.sight_init, Call.sight_init, twins.untimed]
  | free => rw [Call.sight_free, Call.sight_free, twins.untimed]
  | debounce now now' raw cooked numRows changed =>
    rw [Call.sight_debounce, Call.sight_debounce, ← twins.untimed]
    refine ite_congr rfl (fun _ => rfl) fun hserved => ?_
    refine congrArg (Except.ok ∘ Answer.cycled) ?_
    refine AntiGhost.shown_cover_congr twins.untimed (fun hn => ?_) _ raw cooked changed
    -- The reading is the first one, or it is a later one.
    cases hlast : a.last with
    | none => exact .inl (twins.keys_waiting hlast hn)
    | some last =>
      have hread : a.debouncer.numRows ≠ 0 ∧ ¬ (checks = .on ∧
          sharedRows numRows a.debouncer.numRows raw cooked ≠ numRows) :=
        ⟨hn, fun h => hserved ⟨h.1, hn, h.2⟩⟩
      have hlast' := twins.isSome_last
      rw [hlast, Option.isSome_some, eq_comm, Option.isSome_iff_exists] at hlast'
      obtain ⟨last', hlast'⟩ := hlast'
      rw [laterUnits, laterUnits, rereadAt, rereadAt, readAt_debounce, readAt_debounce,
        ← twins.numRows_eq, if_pos hread, if_pos hread, hlast, hlast'] at hunits
      exact .inr (Option.some.inj hunits)

theorem after (twins : a.Twins b) (alike : call.Alike call')
    (hsight : call.sight checks a.debouncer = call'.sight checks b.debouncer) :
    (a.after checks call).Twins (b.after checks call') where
  untimed := by
    change (call.after checks a.debouncer).untimed = (call'.after checks b.debouncer).untimed
    rw [Call.untimed_after, Call.untimed_after, hsight, twins.untimed]
  isSome_last := by
    have hread := twins.isSome_readAt checks alike
    cases alike with
    | init n =>
      simp only [Session.after]
      split
      · rfl
      · exact twins.isSome_last
    | free => rfl
    | debounce now now' raw cooked numRows changed =>
      simp only [Session.after, Option.isSome_or, hread, twins.isSome_last]
  keys_waiting := by
    intro hlast huse
    obtain hsame | ⟨_, _, hkeys⟩ | ⟨now, _, hread⟩ := a.after_cases checks call
    · rw [hsame] at hlast huse ⊢
      exact twins.keys_waiting hlast huse
    · exact hkeys huse
    · cases hread.symm.trans hlast

/-- Whatever the first readings are, nothing that shows depends on them. -/
theorem sights_eq (twins : a.Twins b) {calls calls' : List (Call width)}
    (alike : List.Forall₂ Call.Alike calls calls')
    (hunits : a.laterReadings checks calls = b.laterReadings checks calls') :
    a.sights checks calls = b.sights checks calls' := by
  induction alike generalizing a b with
  | nil => rfl
  | cons hcall _ ih =>
    obtain ⟨hfirst, hrest⟩ := List.cons.inj hunits
    have hsight := twins.sight_eq hcall hfirst
    exact congrArg₂ List.cons hsight (ih (twins.after hcall hsight) hrest)

end Twins

end Session

/-! ## Cycles that are a millisecond apart -/

theorem MillisTimer.units_eq_one {timer : MillisTimer} {last : Nat} {now : Instant}
    (hlast : timer.last = some last) (hgap : (now.millis : Int) - last = 1) :
    (timer.elapsed now).units = 1 := by
  obtain ⟨timer⟩ := timer
  subst hlast
  rw [← UInt8.toNat_inj, toNat_units_elapsed, maxUnits]
  change _ = 1
  omega

/-- `wrap` puts a time source into another one that only passes its readings on. -/
structure Wraps (wrap : τ → τ') : Prop where
  elapsed_eq (timer : τ) (now : Instant) :
    TimeSource.elapsed (wrap timer) now =
      { TimeSource.elapsed timer now with timer := wrap (TimeSource.elapsed timer now).timer }
  reset_eq (timer : τ) : TimeSource.reset (wrap timer) = wrap (TimeSource.reset timer)

theorem wraps_id : Wraps (id : τ → τ) := ⟨fun _ _ => rfl, fun _ => rfl⟩

theorem wraps_millis : Wraps Timer.millis := ⟨fun _ _ => rfl, fun _ => rfl⟩

theorem wraps_frames : Wraps Timer.frames := ⟨fun _ _ => rfl, fun _ => rfl⟩

namespace Session

/-- A session that counts milliseconds, and knows when its reading before was. -/
def InMillis (wrap : MillisTimer → τ) (session : Session τ rows cols) : Prop :=
  ∃ timer : MillisTimer, session.debouncer.timer = wrap timer ∧
    ∀ last, session.last = some last → timer.last = some last.millis

/-- A session that counts cycles. -/
def InFrames (wrap : FrameTimer → τ) (session : Session τ rows cols) : Prop :=
  ∃ timer : FrameTimer, session.debouncer.timer = wrap timer

theorem InMillis.after {wrap : MillisTimer → τ} (hwrap : Wraps wrap)
    {session : Session τ rows cols} (h : session.InMillis wrap) (checks : Checks)
    (call : Call width) : (session.after checks call).InMillis wrap := by
  obtain ⟨timer, htimer, hknown⟩ := h
  obtain hsame | ⟨hreset, hlast, _⟩ | ⟨now, hread, hlast⟩ := session.after_cases checks call
  · rw [hsame]
    exact ⟨timer, htimer, hknown⟩
  · refine ⟨TimeSource.reset timer, ?_, fun last h => ?_⟩
    · rw [hreset, htimer, hwrap.reset_eq]
    · cases hlast.symm.trans h
  · refine ⟨(TimeSource.elapsed timer now).timer, ?_, fun last h => ?_⟩
    · rw [hread, htimer, hwrap.elapsed_eq]
    · obtain rfl := Option.some.inj (hlast.symm.trans h)
      exact congrArg MillisTimer.last (timer.timer_elapsed now)

theorem InFrames.after {wrap : FrameTimer → τ} (hwrap : Wraps wrap)
    {session : Session τ rows cols} (h : session.InFrames wrap) (checks : Checks)
    (call : Call width) : (session.after checks call).InFrames wrap := by
  obtain ⟨timer, htimer⟩ := h
  obtain hsame | ⟨hreset, _⟩ | ⟨now, hread, _⟩ := session.after_cases checks call
  · rw [hsame]
    exact ⟨timer, htimer⟩
  · exact ⟨_, by rw [hreset, htimer, hwrap.reset_eq]⟩
  · exact ⟨_, by rw [hread, htimer, hwrap.elapsed_eq]⟩

section Ticking
variable {wrap : MillisTimer → τ} {wrap' : FrameTimer → τ'}
variable {a : Session τ rows cols} {b : Session τ' rows cols} {checks : Checks}

/-- A later reading in milliseconds is one unit if the clock has gone on by one millisecond. -/
theorem laterUnits_eq_of_gap (hwrap : Wraps wrap) (hwrap' : Wraps wrap') (hmillis : a.InMillis wrap)
    (hframes : b.InFrames wrap') (twins : a.Twins b) {call call' : Call width}
    (alike : call.Alike call') (hgap : ∀ gap, a.gap checks call = some gap → gap = 1) :
    a.laterUnits checks call = b.laterUnits checks call' := by
  obtain ⟨timer, htimer, hknown⟩ := hmillis
  obtain ⟨timer', htimer'⟩ := hframes
  have hsome := twins.isSome_rereadAt checks alike
  rw [gap] at hgap
  rw [laterUnits, laterUnits]
  cases ha : a.rereadAt checks call with
  | none =>
    rw [ha, eq_comm, Option.isSome_none, Option.isSome_eq_false_iff, Option.isNone_iff_eq_none]
      at hsome
    rw [hsome]
    rfl
  | some times =>
    rw [ha, eq_comm, Option.isSome_some, Option.isSome_iff_exists] at hsome
    obtain ⟨times', hb⟩ := hsome
    have hunits : (TimeSource.elapsed timer times.2).units = 1 := by
      refine MillisTimer.units_eq_one (hknown _ (last_of_rereadAt ha)) (hgap _ ?_)
      rw [ha]
      rfl
    rw [hb, htimer, htimer', Option.map_some, Option.map_some, hwrap.elapsed_eq, hwrap'.elapsed_eq,
      hunits]
    rfl

/-- As long as the clock goes on by one millisecond from reading to reading, milliseconds cannot be
told from cycles. -/
theorem Twins.sights_eq_of_gaps (hwrap : Wraps wrap) (hwrap' : Wraps wrap') (twins : a.Twins b)
    (hmillis : a.InMillis wrap) (hframes : b.InFrames wrap') {calls calls' : List (Call width)}
    (alike : List.Forall₂ Call.Alike calls calls')
    (hgaps : ∀ gap, some gap ∈ a.gaps checks calls → gap = 1) :
    a.sights checks calls = b.sights checks calls' := by
  induction alike generalizing a b with
  | nil => rfl
  | cons hcall _ ih =>
    have hunits := laterUnits_eq_of_gap hwrap hwrap' hmillis hframes twins hcall
      fun gap hgap => hgaps gap (hgap ▸ List.mem_cons_self)
    have hsight := twins.sight_eq hcall hunits
    refine congrArg₂ List.cons hsight ?_
    exact ih (twins.after hcall hsight) (hmillis.after hwrap checks _)
      (hframes.after hwrap' checks _) fun gap hgap => hgaps gap (List.mem_cons_of_mem _ hgap)

end Ticking

omit [TimeSource τ] [TimeSource τ'] in
theorem twins_ofTimer (config config' : Config)
    (hconfig : { config with unit := default } = { config' with unit := default }) (timer : τ)
    (timer' : τ') :
    (ofTimer config timer : Session τ rows cols).Twins (ofTimer config' timer') where
  untimed := congrArg (AntiGhost.ofTimer · ()) hconfig
  isSome_last := rfl
  keys_waiting _ huse := absurd rfl huse

end Session

/-- Let a debouncer be constructed twice, and be called alike. If its two time sources agree, except
on the first readings, all that shows is the same. In particular milliseconds show no difference to
cycles if they go by at the same pace, whether the time source is chosen or follows the unit of the
settings. -/
theorem first_readings_leave_no_trace (rows cols width : Nat) (checks : Checks) (config : Config) :
    (∀ (τ τ' : Type) [TimeSource τ] [TimeSource τ'] (timer : τ) (timer' : τ')
      (calls calls' : List (Call width)), List.Forall₂ Call.Alike calls calls' →
      let a : Session τ rows cols := .ofTimer config timer
      let b : Session τ' rows cols := .ofTimer config timer'
      a.laterReadings checks calls = b.laterReadings checks calls' →
      a.sights checks calls = b.sights checks calls') ∧
    (∀ calls calls' : List (Call width), List.Forall₂ Call.Alike calls calls' →
      let a : Session MillisTimer rows cols := .ofTimer config {}
      let b : Session FrameTimer rows cols := .ofTimer config {}
      (∀ gap, some gap ∈ a.gaps checks calls → gap = 1) →
      a.sights checks calls = b.sights checks calls') ∧
    (∀ calls calls' : List (Call width), List.Forall₂ Call.Alike calls calls' →
      let a : Session Timer rows cols := ⟨.ofConfig { config with unit := .millis }, none⟩
      let b : Session Timer rows cols := ⟨.ofConfig { config with unit := .frames }, none⟩
      (∀ gap, some gap ∈ a.gaps checks calls → gap = 1) →
      a.sights checks calls = b.sights checks calls') := by
  refine ⟨?_, ?_, ?_⟩
  · intro τ τ' _ _ timer timer' calls calls' alike a b
    exact (Session.twins_ofTimer config config rfl timer timer').sights_eq alike
  · intro calls calls' alike a b
    exact (Session.twins_ofTimer config config rfl _ _).sights_eq_of_gaps wraps_id wraps_id
      ⟨_, rfl, nofun⟩ ⟨_, rfl⟩ alike
  · intro calls calls' alike a b
    have twins : a.Twins b :=
      Session.twins_ofTimer { config with unit := .millis } { config with unit := .frames } rfl
        (Timer.ofUnit .millis) (Timer.ofUnit .frames)
    exact twins.sights_eq_of_gaps wraps_millis wraps_frames ⟨_, rfl, nofun⟩ ⟨_, rfl⟩ alike

/-- Counts milliseconds, but reads `first` to begin with. -/
structure OtherTimer where
  first : UInt8
  timer : MillisTimer := {}

instance : TimeSource OtherTimer where
  elapsed other now :=
    let reading := TimeSource.elapsed other.timer now
    { reading with
      units := if other.timer.last = none then other.first else reading.units
      timer := { other with timer := reading.timer } }
  reset other := { other with timer := TimeSource.reset other.timer }

/-- The first key of two rows is held down. -/
def bothDown : Grid 8 := .ofList [⟨1⟩, ⟨1⟩]

/-- Four cycles of a debouncer that is initialized, freed and initialized again. The time goes on by
`tick` from cycle to cycle. -/
def twoTurns (tick : Nat) : List (Call 8) := [
  .init 2,
  .debounce ⟨7300⟩ bothDown (.released 2) 2 true,
  .debounce ⟨7300 + tick⟩ bothDown (.released 2) 2 true,
  .free,
  .debounce ⟨9000⟩ bothDown (.released 2) 2 true,
  .init 1,
  .debounce ⟨9900⟩ bothDown (.released 2) 1 true,
  .debounce ⟨9900 + tick⟩ bothDown (.released 2) 1 true]

theorem alike_twoTurns (tick tick' : Nat) :
    List.Forall₂ Call.Alike (twoTurns tick) (twoTurns tick') :=
  .cons (.init 2) <| .cons (.debounce ..) <| .cons (.debounce ..) <| .cons .free <|
    .cons (.debounce ..) <| .cons (.init 1) <| .cons (.debounce ..) <| .cons (.debounce ..) .nil

/-- A time source that starts with 200 units is not noticed, nor one that counts cycles without
looking at the clock. -/
theorem twoTurns_sights :
    let config : Config := { press := 1, release := 1, quiesce := 1 }
    let millis : Session MillisTimer 2 1 := .ofTimer config {}
    let other : Session OtherTimer 2 1 := .ofTimer config { first := 200 }
    let frames : Session FrameTimer 2 1 := .ofTimer config {}
    List.Forall₂ Call.Alike (twoTurns 1000) (twoTurns 1000) ∧
      List.Forall₂ Call.Alike (twoTurns 1000) (twoTurns 0) ∧
      millis.laterReadings .on (twoTurns 1000) = other.laterReadings .on (twoTurns 1000) ∧
      millis.gaps .on (twoTurns 1000) =
        [none, none, some 1, none, none, none, none, some 1] ∧
      (TimeSource.elapsed other.debouncer.timer ⟨7300⟩).units = 200 ∧
      (Call.afterAll .on millis.debouncer (twoTurns 1000)).keys.get 0 0 = .quiescing 1 ∧
      millis.sights .on (twoTurns 1000) = other.sights .on (twoTurns 1000) ∧
      millis.sights .on (twoTurns 1000) = frames.sights .on (twoTurns 0) := by
  obtain ⟨hfirst, hticks, _⟩ := first_readings_leave_no_trace 2 1 8 .on
    { press := 1, release := 1, quiesce := 1 }
  have hreadings : (Session.ofTimer { press := 1, release := 1, quiesce := 1 } {} :
        Session MillisTimer 2 1).laterReadings .on (twoTurns 1000) =
      (Session.ofTimer { press := 1, release := 1, quiesce := 1 } { first := 200 } :
        Session OtherTimer 2 1).laterReadings .on (twoTurns 1000) := by decide +kernel
  have hgaps : (Session.ofTimer { press := 1, release := 1, quiesce := 1 } {} :
        Session MillisTimer 2 1).gaps .on (twoTurns 1000) =
      [none, none, some 1, none, none, none, none, some 1] := by decide +kernel
  refine ⟨alike_twoTurns 1000 1000, alike_twoTurns 1000 0, hreadings, hgaps, by decide +kernel,
    by decide +kernel, hfirst _ _ _ _ _ _ (alike_twoTurns 1000 1000) hreadings,
    hticks _ _ (alike_twoTurns 1000 0) fun gap hgap => ?_⟩
  rw [hgaps] at hgap
  simpa using hgap

end KeyMatrix
