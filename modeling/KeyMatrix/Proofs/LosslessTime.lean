import KeyMatrix.Timer
import Mathlib.Data.List.Chain

/-! # Counting without loss

The millisecond timer rounds the clock and not the gaps. The roundings of two readings in a row
cancel, so that nothing is lost and nothing is gained, however often the timer is read. Only a gap
too long for a byte is cut short.
-/
namespace KeyMatrix

theorem Instant.millis_mono {before now : Instant} (h : before.micros ≤ now.micros) :
    before.millis ≤ now.millis :=
  Nat.div_le_div_right h

namespace MillisTimer

/-- What a timer answers when it is read several times. -/
def results (timer : MillisTimer) : List Instant → List UInt8
  | [] => []
  | now :: later => (timer.elapsed now).units :: results (timer.elapsed now).timer later

/-- The timer after several readings. -/
def afterAll (timer : MillisTimer) (readings : List Instant) : MillisTimer :=
  readings.foldl (fun timer now => (timer.elapsed now).timer) timer

/-- The time units of several readings together. -/
def total : List UInt8 → Nat
  | [] => 0
  | units :: more => units.toNat + total more

/-- A timer that was last read at the given instant. -/
def since (last : Instant) : MillisTimer := ⟨some last.millis⟩

@[simp] theorem total_nil : total [] = 0 := rfl

@[simp] theorem total_cons (units : UInt8) (more : List UInt8) :
    total (units :: more) = units.toNat + total more := rfl

/-- All that a timer knows of its past is the last reading. -/
theorem results_cons (timer : MillisTimer) (now : Instant) (later : List Instant) :
    timer.results (now :: later) = (timer.elapsed now).units :: (since now).results later := by
  rw [results, timer_elapsed, since]

theorem results_append (timer : MillisTimer) (earlier later : List Instant) :
    timer.results (earlier ++ later) =
      timer.results earlier ++ (timer.afterAll earlier).results later := by
  induction earlier generalizing timer with
  | nil => rfl
  | cons now earlier ih => simp only [List.cons_append, results, ih, afterAll, List.foldl_cons]

theorem afterAll_concat (timer : MillisTimer) (earlier : List Instant) (last : Instant) :
    timer.afterAll (earlier ++ [last]) = since last := by
  simp [afterAll, timer_elapsed, since]

theorem toNat_units_since (last now : Instant) :
    ((since last).elapsed now).units.toNat = min (now.millis - last.millis) maxUnits :=
  toNat_units_elapsed last.millis now

/-- A clock that has gone back reads as no time at all. -/
theorem units_eq_zero {last now : Instant} (h : now.micros ≤ last.micros) :
    ((since last).elapsed now).units = 0 := by
  have hmillis := Instant.millis_mono h
  apply UInt8.toNat_inj.1
  rw [toNat_units_since, UInt8.toNat_zero]
  omega

/-- One reading moves the count no further than the clock, and as far as that unless the gap is too
long for it. -/
theorem units_add_millis {last now : Instant} (h : last.micros ≤ now.micros) :
    ((since last).elapsed now).units.toNat + last.millis ≤ now.millis ∧
      (((since last).elapsed now).units.toNat + last.millis = now.millis ↔
        now.millis - last.millis ≤ maxUnits) := by
  have hmillis := Instant.millis_mono h
  rw [toNat_units_since]
  omega

/-- Later readings go on from there. -/
theorem total_add_millis (last : Instant) (later : List Instant)
    (hmono : (last :: later).IsChain fun before now => before.micros ≤ now.micros) :
    total ((since last).results later) + last.millis ≤ (later.getLastD last).millis ∧
      (total ((since last).results later) + last.millis = (later.getLastD last).millis ↔
        (last :: later).IsChain fun before now => now.millis - before.millis ≤ maxUnits) := by
  induction later generalizing last with
  | nil => simp [results]
  | cons now later ih =>
    rw [List.isChain_cons_cons] at hmono
    have hstep := units_add_millis hmono.1
    have hrest := ih now hmono.2
    rw [results_cons, total_cons, List.isChain_cons_cons, List.getLastD_cons, ← hstep.2, ← hrest.2]
    omega

/-- From its first reading on, a timer counts the milliseconds that begin on the clock, however
often it is read. It never counts one too many, and it misses none as long as no two readings in a
row are more than 255 of them apart. If the clock goes back, no time is counted, and the timer goes
on as any other that was last read then. -/
theorem counts_without_loss (timer : MillisTimer) :
    let fresh : MillisTimer := TimeSource.reset timer
    (∀ (first : Instant) (later : List Instant),
      ((first :: later).IsChain fun before now => before.micros ≤ now.micros) →
      let counted := total (fresh.results (first :: later)).tail
      let passed := (later.getLastD first).millis - first.millis
      counted ≤ passed ∧
        (counted = passed ↔
          (first :: later).IsChain fun before now => now.millis - before.millis ≤ 255)) ∧
    ∀ (earlier : List Instant) (last now : Instant) (later : List Instant) (other : MillisTimer),
      now.micros < last.micros →
      fresh.results (earlier ++ last :: now :: later) =
        fresh.results (earlier ++ [last]) ++ 0 :: (other.elapsed now).timer.results later := by
  intro fresh
  constructor
  · intro first later hmono counted passed
    have hcounted : counted = total ((since first).results later) := by
      simp only [counted, results_cons, List.tail_cons]
    obtain ⟨hle, heq⟩ := total_add_millis first later hmono
    have hpassed : counted = passed ↔
        total ((since first).results later) + first.millis = (later.getLastD first).millis := by
      simp only [hcounted, passed]
      omega
    exact ⟨by omega, hpassed.trans heq⟩
  · intro earlier last now later other hback
    rw [List.append_cons, results_append, afterAll_concat, results_cons,
      units_eq_zero (Nat.le_of_lt hback), timer_elapsed, since]

/-- Readings that are mostly less than a millisecond apart. The longest gap is 255 milliseconds by
the clock, although it takes almost one more. -/
def dense : List Instant := [⟨1100⟩, ⟨1100⟩, ⟨1900⟩, ⟨2000⟩, ⟨257999⟩]

/-- The gaps of `dense` are counted in full. A gap of 257 milliseconds after them is cut short, and
the way back of the clock after that is not counted, but the way from there is. -/
theorem dense_counts :
    let fresh : MillisTimer := TimeSource.reset ⟨some 7⟩
    let first : Instant := ⟨900⟩
    let gap : Instant := ⟨514000⟩
    ((first :: dense).IsChain fun before now => before.micros ≤ now.micros) ∧
      total (fresh.results (first :: dense)).tail =
        (dense.getLastD first).millis - first.millis ∧
      ((first :: (dense ++ [gap])).IsChain fun before now => before.micros ≤ now.micros) ∧
      total (fresh.results (first :: (dense ++ [gap]))).tail ≠
        ((dense ++ [gap]).getLastD first).millis - first.millis ∧
      300000 < gap.micros ∧
      fresh.results ((first :: dense) ++ gap :: ⟨300000⟩ :: [⟨303000⟩]) =
        fresh.results ((first :: dense) ++ [gap]) ++
          0 :: ((⟨some 7⟩ : MillisTimer).elapsed ⟨300000⟩).timer.results [⟨303000⟩] ∧
      fresh.results ((first :: dense) ++ gap :: ⟨300000⟩ :: [⟨303000⟩]) =
        [1, 1, 0, 0, 1, 255, 255, 0, 3] := by
  intro fresh first gap
  have hdense : (first :: dense).IsChain fun before now => before.micros ≤ now.micros := by decide
  have hlong : (first :: (dense ++ [gap])).IsChain
      fun before now => before.micros ≤ now.micros := by decide
  have hback : 300000 < gap.micros := by decide
  obtain ⟨hcount, hreturn⟩ := counts_without_loss ⟨some 7⟩
  exact ⟨hdense, (hcount first dense hdense).2.2 (by decide), hlong,
    fun h => absurd ((hcount first (dense ++ [gap]) hlong).2.1 h) (by decide), hback,
    hreturn (first :: dense) gap ⟨300000⟩ [⟨303000⟩] ⟨some 7⟩ hback, by decide +kernel⟩

end MillisTimer
end KeyMatrix
