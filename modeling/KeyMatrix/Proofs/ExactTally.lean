import KeyMatrix.Proofs.Census
import KeyMatrix.Proofs.InPlace.AntiGhost

/-! # Renewed tallies are exact

However many rows there are, and whatever a tally has said before, once it is renewed it says which
rows of the grid hold two keys and how many keys every column holds, as far as a byte can count.
That the counters are full makes no difference to the answer whether a cell can be trusted.
-/
namespace KeyMatrix

namespace Grid

variable {width : Nat}

/-- How many keys of column `c` are pressed in the first `n` rows. -/
def countAbove (grid : Grid width) (n c : Nat) : Nat :=
  Nat.count (fun r => grid.isPressed r c) n

theorem countIn_take (grid : Grid width) (n c : Nat) :
    (grid.take n).countIn c = grid.countAbove (min n grid.size) c := by
  rw [countIn, size_take, countAbove, Nat.count_eq_card_filter_range,
    Nat.count_eq_card_filter_range]
  congr 1
  apply Finset.filter_congr
  intro r hr
  rw [Finset.mem_range] at hr
  rw [isPressed_take, decide_eq_true (by omega : r < n), Bool.true_and]

/-- If the key at `(r, c)` is pressed, a second pressed key of its column is one of another row. -/
theorem two_le_countAbove_iff {grid : Grid width} {n r c : Nat} (hr : r < n)
    (hpressed : grid.isPressed r c = true) :
    2 ≤ grid.countAbove n c ↔ ∃ s < n, s ≠ r ∧ grid.isPressed s c = true := by
  rw [countAbove, KeyMatrix.two_le_count_iff]
  constructor
  · rintro ⟨s, hs, t, ht, hne, hps, hpt⟩
    by_cases hsr : s = r
    · exact ⟨t, ht, fun htr => hne (hsr.trans htr.symm), hpt⟩
    · exact ⟨s, hs, hsr, hps⟩
  · rintro ⟨s, hs, hsr, hps⟩
    exact ⟨s, hs, r, hr, hsr, hps, hpressed⟩

end Grid

/-- If the key at `c` is pressed, a second pressed key of its row is one of another column. -/
theorem Row.two_le_count_iff_of_isPressed {width : Nat} {row : Row width} {c : Nat}
    (hpressed : row.isPressed c = true) :
    2 ≤ row.count ↔ ∃ d, d ≠ c ∧ row.isPressed d = true := by
  rw [two_le_count_iff]
  constructor
  · rintro ⟨d, e, hne, hpd, hpe⟩
    by_cases hdc : d = c
    · exact ⟨e, fun hec => hne (hdc.trans hec.symm), hpe⟩
    · exact ⟨d, hdc, hpd⟩
  · rintro ⟨d, hdc, hpd⟩
    exact ⟨d, c, hdc, hpd, hpressed⟩

namespace Tally

variable {width rows cols : Nat}

/-- What a tally says once it has been renewed from a grid. The rows that count are those that both
of them have. -/
structure Exact (tally old : Tally rows cols) (raw : Grid width) : Prop where
  /-- A row is crowded if it has at least two pressed keys, wherever they lie in the row. -/
  crowdedAt_eq : ∀ r < min rows raw.size,
    tally.crowdedAt r = .ok (decide (2 ≤ (raw.row r).count))
  /-- Of other rows the old tally is still believed. -/
  crowdedAt_kept : ∀ r, min rows raw.size ≤ r → tally.crowdedAt r = old.crowdedAt r
  /-- A counter stops at 255. -/
  downAt_eq : ∀ c < cols, (tally.downAt c).map UInt8.toNat =
    .ok (min 255 (raw.countAbove (min rows raw.size) c))
  /-- Where a counter has stopped makes no difference. -/
  ambiguousAt_eq : ∀ r < min rows raw.size, ∀ c < cols, tally.ambiguousAt r c =
    .ok (decide (2 ≤ (raw.row r).count ∧ 2 ≤ raw.countAbove (min rows raw.size) c))
  /-- A pressed key cannot be trusted if another key of its row is pressed, and a key of its column
  in another row. -/
  ambiguousAt_iff : ∀ r < min rows raw.size, ∀ c < cols, raw.isPressed r c = true →
    (tally.ambiguousAt r c = .ok true ↔
      (∃ d, d ≠ c ∧ raw.isPressed r d = true) ∧
        ∃ s < min rows raw.size, s ≠ r ∧ raw.isPressed s c = true)

theorem isAmbiguous_recompute_eq (tally : Tally rows cols) (raw : Grid width) {r c : Nat}
    (hr : r < min rows raw.size) (hc : c < cols) :
    (tally.recompute raw).isAmbiguous r c =
      decide (2 ≤ (raw.row r).count ∧ 2 ≤ raw.countAbove (min rows raw.size) c) := by
  have hdown := tally.toNat_downIn_recompute raw hc
  have hfull : 1 < (tally.recompute raw).downIn c ↔
      2 ≤ raw.countAbove (min rows raw.size) c := by
    rw [UInt8.lt_iff_toNat_lt, hdown, Grid.countIn_take]
    change 1 < _ ↔ _
    omega
  rw [isAmbiguous, isCrowded_recompute, if_pos (Nat.lt_min.1 hr), Row.hasMultiple_eq,
    Bool.eq_iff_iff, Bool.and_eq_true, decide_eq_true_eq, decide_eq_true_eq, decide_eq_true_eq, hfull]

theorem exact_recompute (old : Tally rows cols) (raw : Grid width) :
    (old.recompute raw).Exact old raw := by
  have hambiguous (r : Nat) (hr : r < min rows raw.size) (c : Nat) (hc : c < cols) :
      (old.recompute raw).ambiguousAt r c =
        .ok (decide (2 ≤ (raw.row r).count ∧ 2 ≤ raw.countAbove (min rows raw.size) c)) := by
    rw [ambiguousAt_eq _ (by omega) hc, isAmbiguous_recompute_eq _ _ hr hc]
  constructor
  · intro r hr
    rw [crowdedAt_eq _ (by omega), isCrowded_recompute, if_pos (Nat.lt_min.1 hr),
      Row.hasMultiple_eq]
  · intro r hr
    by_cases hrows : r < rows
    · rw [crowdedAt_eq _ hrows, crowdedAt_eq _ hrows, isCrowded_recompute, if_neg (by omega)]
    · rw [crowdedAt, crowdedAt, dif_neg hrows, dif_neg hrows]
  · intro c hc
    rw [downAt_eq _ hc, Except.map, toNat_downIn_recompute _ _ hc, Grid.countIn_take]
  · exact hambiguous
  · intro r hr c hc hpressed
    rw [hambiguous r hr c hc, Except.ok.injEq, decide_eq_true_eq,
      Row.two_le_count_iff_of_isPressed hpressed, Grid.two_le_countAbove_iff hr hpressed]
    rfl

/-- Renewing a tally makes it exact, whatever it has said before. Done row by row and key by key, it
comes to the same, and no column is looked at that a row does not have. -/
theorem renewed_tallies_are_exact (τ : Type) (hcols : cols ≤ width) (raw : Grid width) :
    (∀ old : Tally rows cols, (old.recompute raw).Exact old raw) ∧
      ∀ (checks : Checks) (desk : Desk (AntiGhost τ rows cols) width),
        (InPlace.recompute checks raw).run desk =
          .ok () (InPlace.tallied desk (desk.debouncer.tally.recompute raw)) :=
  ⟨fun old => exact_recompute old raw, fun checks => InPlace.run_recompute hcols checks raw⟩

/-- The first two keys are held in each of three hundred rows. -/
def packed : Grid 8 := ⟨Array.replicate 300 ⟨3⟩⟩

theorem countAbove_packed : packed.countAbove 300 0 = 300 := by
  rw [Grid.countAbove, Nat.count_iff_forall]
  intro r hr
  simp [Grid.isPressed, Grid.row, packed, hr, Row.isPressed]

/-- The counter of a column is full long before the last row, where the key still cannot be
trusted. -/
theorem packed_is_counted :
    2 ≤ 8 ∧ 299 < min 300 packed.size ∧ packed.isPressed 299 0 = true ∧
      ((Tally.clear.recompute packed : Tally 300 2).downAt 0).map UInt8.toNat = .ok 255 ∧
      (Tally.clear.recompute packed : Tally 300 2).ambiguousAt 299 0 = .ok true := by
  have hexact : ∀ old : Tally 300 2, (old.recompute packed).Exact old packed :=
    (renewed_tallies_are_exact FrameTimer (by decide) packed).1
  have hcounter := (hexact .clear).downAt_eq 0 (by decide)
  have hsize : min 300 packed.size = 300 := by decide +kernel
  have hpressed : packed.isPressed 299 0 = true := by decide +kernel
  have htrust := ((hexact .clear).ambiguousAt_iff 299 (by omega) 0 (by decide) hpressed).2
    ⟨⟨1, by decide, by decide +kernel⟩, 298, by omega, by decide, by decide +kernel⟩
  rw [hsize, countAbove_packed] at hcounter
  exact ⟨by decide, by omega, hpressed, hcounter, htrust⟩

end Tally
end KeyMatrix
