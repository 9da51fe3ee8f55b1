-- A table with one owner per slot, and a count of the slots in use. An owner that gives up
-- a slot that another one has is an error.
import Mathlib.Data.Finset.Card
import Mathlib.Logic.Function.Basic

namespace slots

variable {κ ω : Type*}

/-- A table of slots, with the number of those in use. -/
structure Table (κ ω : Type*) where
  slot : κ → Option ω
  used : Nat

/-- The count is that of the slots in use. -/
def Table.Counted (t : Table κ ω) : Prop :=
  ∃ S : Finset κ, (∀ k, k ∈ S ↔ t.slot k ≠ none) ∧ S.card = t.used

variable {t u : Table κ ω} {k : κ} {w : ω}

/-- The count is not 0 while a slot is in use. -/
theorem Table.Counted.pos (h : t.Counted) (hk : t.slot k ≠ none) : 0 < t.used := by
  obtain ⟨S, hS, hcard⟩ := h
  rw [← hcard]
  exact Finset.card_pos.mpr ⟨k, (hS k).mpr hk⟩

variable [DecidableEq κ]

/-- The first owner keeps the slot. -/
def Table.put (t : Table κ ω) (k : κ) (w : ω) : Table κ ω :=
  if (t.slot k).isNone then ⟨Function.update t.slot k (some w), t.used + 1⟩ else t

theorem Table.Counted.put (h : t.Counted) (k : κ) (w : ω) : (t.put k w).Counted := by
  obtain ⟨S, hS, hcard⟩ := h
  unfold Table.put
  split
  · rename_i hnone
    have hk : k ∉ S := fun hmem => (hS k).mp hmem (Option.isNone_iff_eq_none.mp hnone)
    refine ⟨insert k S, fun j => ?_, ?_⟩
    · by_cases hjk : j = k
      · subst hjk
        simp
      · dsimp only
        rw [Finset.mem_insert, Function.update_of_ne hjk, ← hS j]
        exact ⟨fun hmem => hmem.resolve_left hjk, Or.inr⟩
    · rw [Finset.card_insert_of_notMem hk, hcard]
  · exact ⟨S, hS, hcard⟩

theorem Table.put_slot {v : ω} {j : κ} (hj : t.slot j = some v) :
    (t.put k w).slot j = some v := by
  unfold Table.put
  split
  · rename_i hnone
    have hjk : j ≠ k := by
      rintro rfl
      rw [hj] at hnone
      cases hnone
    dsimp only
    rwa [Function.update_of_ne hjk]
  · exact hj

variable [DecidableEq ω]

/-- None where the slot is another's, or the count has run out. -/
def Table.take (t : Table κ ω) (k : κ) (w : ω) : Option (Table κ ω) :=
  match t.slot k with
  | none => some t
  | some v =>
    if v = w ∧ 0 < t.used then some ⟨Function.update t.slot k none, t.used - 1⟩ else none

/-- The slots of the others stay theirs. -/
theorem Table.take_slot {v : ω} {j : κ} (hu : t.take k w = some u) (hj : t.slot j = some v)
    (hv : v ≠ w) : u.slot j = some v := by
  unfold Table.take at hu
  split at hu
  · cases hu
    exact hj
  · rename_i owner hk
    split at hu
    · rename_i hown
      have hjk : j ≠ k := by
        rintro rfl
        rw [hj] at hk
        exact hv (Option.some.inj hk ▸ hown.1)
      cases hu
      dsimp only
      rwa [Function.update_of_ne hjk]
    · cases hu

theorem Table.Counted.take (h : t.Counted) (hu : t.take k w = some u) : u.Counted := by
  unfold Table.take at hu
  split at hu
  · cases hu
    exact h
  · rename_i v hv
    split at hu
    · cases hu
      obtain ⟨S, hS, hcard⟩ := h
      have hk : k ∈ S := (hS k).mpr (by simp [hv])
      refine ⟨S.erase k, fun j => ?_, ?_⟩
      · by_cases hjk : j = k
        · subst hjk
          simp
        · dsimp only
          rw [Finset.mem_erase, Function.update_of_ne hjk, ← hS j]
          exact ⟨fun hmem => hmem.2, fun hmem => ⟨hjk, hmem⟩⟩
      · rw [Finset.card_erase_of_mem hk, hcard]
    · cases hu

/-- With the count right, only the slot of another owner is an error. -/
theorem Table.Counted.take_eq_none_iff (h : t.Counted) :
    t.take k w = none ↔ ∃ v, t.slot k = some v ∧ v ≠ w := by
  unfold Table.take
  split
  · rename_i hnone
    rw [hnone]
    simp
  · rename_i v hv
    have hpos : 0 < t.used := h.pos (by rw [hv]; exact Option.some_ne_none v)
    rw [hv]
    by_cases hvw : v = w
    · simp [hvw, hpos]
    · simp [hvw]

end slots
