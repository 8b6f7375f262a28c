import KeyMatrix.Proofs.KeyRun
import Mathlib.Logic.Relation

/-! # Phantom keys are never accepted

Without diodes the current also takes detours: a contact reads as closed when its row and its
column are connected by any alternating path of closed contacts. A contact that only reads as
closed lies in a crowded row and shares its column, so an honest scanner keeps it frozen.
-/
namespace KeyMatrix

/-- Two rows in which the same column has a closed contact. -/
def Bridged (closed : Set Cell) (r s : Nat) : Prop :=
  ∃ d, ⟨r, d⟩ ∈ closed ∧ ⟨s, d⟩ ∈ closed

/-- A row and a column that an alternating path of closed contacts connects. -/
def Joined (closed : Set Cell) (r c : Nat) : Prop :=
  ∃ s, Relation.ReflTransGen (Bridged closed) r s ∧ ⟨s, c⟩ ∈ closed

variable {closed : Set Cell} {r c : Nat}

theorem Joined.of_mem (h : ⟨r, c⟩ ∈ closed) : Joined closed r c :=
  ⟨r, .refl, h⟩

/-- A path starts with a contact of its row. -/
theorem Joined.exists_in_row (h : Joined closed r c) : ∃ d, ⟨r, d⟩ ∈ closed := by
  obtain ⟨s, hpath, hlast⟩ := h
  rcases hpath.cases_head with rfl | ⟨_, ⟨d, hd, _⟩, _⟩
  · exact ⟨c, hlast⟩
  · exact ⟨d, hd⟩

/-- A path ends with a contact of its column. -/
theorem Joined.exists_in_col (h : Joined closed r c) : ∃ s, ⟨s, c⟩ ∈ closed := by
  obtain ⟨s, _, hlast⟩ := h
  exact ⟨s, hlast⟩

namespace Grid

variable {width : Nat} {grid : Grid width}

theorem isSuspect_of_rectangle {s d : Nat} (hrs : r ≠ s) (hcd : c ≠ d)
    (hrc : grid.isPressed r c = true) (hrd : grid.isPressed r d = true)
    (hsc : grid.isPressed s c = true) : grid.isSuspect r c = true :=
  (grid.isSuspect_iff r c).2 ⟨⟨c, d, hcd, hrc, hrd⟩, r, s, hrs, hrc, hsc⟩

/-- Both ends of a detour lie beside the phantom: one in its row and one in its column. -/
theorem isSuspect_of_joined {rows cols : Nat}
    (hclosed : ∀ cell ∈ closed, cell.row < rows ∧ cell.col < cols)
    (hread : ∀ r < rows, ∀ c < cols, grid.isPressed r c = true ↔ Joined closed r c)
    (hrc : grid.isPressed r c = true) (hr : r < rows) (hc : c < cols)
    (hopen : ⟨r, c⟩ ∉ closed) : grid.isSuspect r c = true := by
  have hjoined := (hread r hr c hc).1 hrc
  obtain ⟨d, hd⟩ := hjoined.exists_in_row
  obtain ⟨s, hs⟩ := hjoined.exists_in_col
  have hcd : c ≠ d := by
    rintro rfl
    exact hopen hd
  have hrs : r ≠ s := by
    rintro rfl
    exact hopen hs
  have hrd := (hread r hr d (hclosed _ hd).2).2 (.of_mem hd)
  have hsc := (hread s (hclosed _ hs).1 c hc).2 (.of_mem hs)
  exact isSuspect_of_rectangle hrs hcd hrc hrd hsc

end Grid

namespace Run

variable {σ τ : Type} {width rows room cols : Nat} [Scanner σ width] [TimeSource τ]
variable (run : Run σ (AntiGhost τ room cols) width rows)

/-- While the scanner is honest, the cells that could be phantoms are frozen. -/
theorem switch_succ_of_isSuspect (hcols : cols ≤ width) {k : Nat} (honest : run.Honest (k + 1))
    (hr : r < run.numRows) (hc : c < cols) (h : (run.raw k).isSuspect r c = true) :
    run.switch r c (k + 1) = run.switch r c k := by
  have hamb : run.isAmbiguous k r c = true := by
    rw [run.isAmbiguous_eq hr hc, run.noted_eq_rawBefore honest (Nat.le_refl _)]
    exact h
  rw [run.switch_succ hcols hr hc]
  exact Switch.advance_ambiguous _ _ hamb

/-- In a cycle of an honest scanner no phantom and no corner of a pressed rectangle has its key
or its cooked bit changed. -/
theorem phantoms_are_frozen (hcols : cols ≤ width) {k : Nat} (honest : run.Honest (k + 1)) :
    (∀ closed : Set Cell,
      (∀ cell ∈ closed, cell.row < run.numRows ∧ cell.col < cols) →
      (∀ r < run.numRows, ∀ c < cols,
        (run.raw k).isPressed r c = true ↔ Joined closed r c) →
      ∀ r c, (run.raw k).isPressed r c = true → ⟨r, c⟩ ∉ closed →
        run.switch r c (k + 1) = run.switch r c k) ∧
    ∀ r s c d, r ≠ s → c ≠ d →
      (run.raw k).isPressed r c = true → (run.raw k).isPressed r d = true →
      (run.raw k).isPressed s c = true → (run.raw k).isPressed s d = true →
        run.switch r c (k + 1) = run.switch r c k := by
  constructor
  · intro closed hclosed hread r c hrc hopen
    by_cases hused : r < run.numRows ∧ c < cols
    · exact run.switch_succ_of_isSuspect hcols honest hused.1 hused.2
        (Grid.isSuspect_of_joined hclosed hread hrc hused.1 hused.2 hopen)
    · exact run.switch_succ_of_not_used hused k
  · intro r s c d hrs hcd hrc hrd hsc _
    by_cases hused : r < run.numRows ∧ c < cols
    · exact run.switch_succ_of_isSuspect hcols honest hused.1 hused.2
        (Grid.isSuspect_of_rectangle hrs hcd hrc hrd hsc)
    · exact run.switch_succ_of_not_used hused k

/-- The contacts that are closed in the cycles 1 and 2 of `detour`. -/
def detourContacts : Set Cell := {⟨0, 0⟩, ⟨0, 1⟩, ⟨1, 0⟩}

theorem joined_detourContacts : ∀ r < 2, ∀ c < 2, Joined detourContacts r c := by
  have hbridge : Bridged detourContacts 1 0 := ⟨0, by simp [detourContacts], by simp [detourContacts]⟩
  intro r hr c hc
  obtain rfl | rfl : r = 0 ∨ r = 1 := by omega
  · obtain rfl | rfl : c = 0 ∨ c = 1 := by omega
    · exact .of_mem (by simp [detourContacts])
    · exact .of_mem (by simp [detourContacts])
  · obtain rfl | rfl : c = 0 ∨ c = 1 := by omega
    · exact .of_mem (by simp [detourContacts])
    · exact ⟨0, .single hbridge, by simp [detourContacts]⟩

/-- In cycle 1 of `detour` the open cell `(1, 1)` reads as pressed. -/
theorem detour_frozen :
    2 ≤ 8 ∧ detour.Honest 2 ∧
      (∀ cell ∈ detourContacts, cell.row < detour.numRows ∧ cell.col < 2) ∧
      (∀ r < detour.numRows, ∀ c < 2,
        (detour.raw 1).isPressed r c = true ↔ Joined detourContacts r c) ∧
      (detour.raw 1).isPressed 1 1 = true ∧ ⟨1, 1⟩ ∉ detourContacts ∧
      detour.switch 1 1 2 = detour.switch 1 1 1 ∧ detour.switch 0 0 2 = detour.switch 0 0 1 := by
  have honest : detour.Honest 2 := by decide +kernel
  have hpressed : ∀ r < 2, ∀ c < 2, (detour.raw 1).isPressed r c = true := by decide +kernel
  have hclosed : ∀ cell ∈ detourContacts, cell.row < detour.numRows ∧ cell.col < 2 := by
    rintro cell (rfl | rfl | rfl)
    · decide
    · decide
    · decide
  have hread : ∀ r < detour.numRows, ∀ c < 2,
      (detour.raw 1).isPressed r c = true ↔ Joined detourContacts r c :=
    fun r hr c hc => ⟨fun _ => joined_detourContacts r hr c hc, fun _ => hpressed r hr c hc⟩
  have hopen : (⟨1, 1⟩ : Cell) ∉ detourContacts := by simp [detourContacts]
  have hfrozen := detour.phantoms_are_frozen (by decide) honest
  have hphantom := hpressed 1 (by decide) 1 (by decide)
  refine ⟨by decide, honest, hclosed, hread, hphantom, hopen, ?_, ?_⟩
  · exact hfrozen.1 detourContacts hclosed hread 1 1 hphantom hopen
  · exact hfrozen.2 0 1 0 1 (by decide) (by decide) (hpressed 0 (by decide) 0 (by decide))
      (hpressed 0 (by decide) 1 (by decide)) (hpressed 1 (by decide) 0 (by decide)) hphantom

end Run
end KeyMatrix
