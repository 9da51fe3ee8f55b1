-- Places that hold references, and a count of the references to one thing. The count covers the
-- places when it is at least the number of those that hold it, and that is kept when a place is
-- overwritten and the count follows.
import Mathlib.Data.Finset.Card
import Mathlib.Logic.Function.Basic
import Mathlib.Data.List.Count

namespace holders

variable {ι α : Type*} {place place' : ι → Option α} {c : α} {n m : Int}

/-- However many places hold `c`, they are no more than `n`. -/
def Covers (place : ι → Option α) (c : α) (n : Int) : Prop :=
  ∀ F : Finset ι, (∀ i ∈ F, place i = some c) → (F.card : Int) ≤ n

/-- Fewer references are covered by the same holders. -/
theorem Covers.mono (h : Covers place c n) (hle : n ≤ m) : Covers place c m :=
  fun F hF => (h F hF).trans hle

/-- A place that holds it is a reference to it. -/
theorem Covers.pos {i : ι} (h : Covers place c n) (hi : place i = some c) : 0 < n := by
  have hone := h {i} (by simpa using hi)
  rw [Finset.card_singleton] at hone
  omega

/-- Places may be emptied with the count left as it is. -/
theorem Covers.of_imp (h : Covers place c n)
    (himp : ∀ i, place' i = some c → place i = some c) : Covers place' c n :=
  fun F hF => h F fun i hi => himp i (hF i hi)

variable [DecidableEq ι] [DecidableEq α]

/-- The new value of a place is counted, and the old one no longer. -/
theorem Covers.update (h : Covers place c n) (i : ι) (value : Option α) :
    Covers (Function.update place i value) c
      (n + value.toList.count c - (place i).toList.count c) := by
  intro F hF
  have hrest : ∀ j ∈ F.erase i, place j = some c := by
    intro j hj
    have hne := Finset.ne_of_mem_erase hj
    have hvalue := hF j (Finset.mem_of_mem_erase hj)
    rwa [Function.update_of_ne hne] at hvalue
  have herase := h (F.erase i) hrest
  have hcount : ∀ v : Option α, (v.toList.count c : Int) = if v = some c then 1 else 0 := by
    intro v
    cases v with
    | none => rfl
    | some a =>
      rw [Option.toList_some, List.count_singleton]
      by_cases ha : a = c
      · simp [ha]
      · simp [ha]
  rw [hcount, hcount]
  have hinsert : place i = some c → ((F.erase i).card : Int) + 1 ≤ n := by
    intro hi
    have hall := h (insert i (F.erase i)) fun j hj => by
      rcases Finset.mem_insert.mp hj with rfl | hj
      · exact hi
      · exact hrest j hj
    rw [Finset.card_insert_of_notMem (Finset.notMem_erase i F)] at hall
    exact_mod_cast hall
  have hle : (F.card : Int) ≤ (F.erase i).card + if value = some c then 1 else 0 := by
    by_cases hi : i ∈ F
    · have hvalue := hF i hi
      rw [Function.update_self] at hvalue
      have hcard := Finset.card_erase_add_one hi
      rw [if_pos hvalue]
      omega
    · rw [Finset.erase_eq_of_notMem hi]
      split <;> omega
  by_cases hold : place i = some c
  · have hmore := hinsert hold
    rw [if_pos hold]
    omega
  · rw [if_neg hold]
    omega

end holders
