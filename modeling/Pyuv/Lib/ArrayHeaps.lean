-- Binary min heaps in an array whose places are numbered from 1: the place above `i` is
-- `i / 2`. An element may stand wrong while it sinks or rises.
import Mathlib.Data.Finset.Interval
import Mathlib.Order.Lattice.Nat
import Mathlib.Logic.Equiv.Basic
import Mathlib.Order.Interval.Finset.Nat

namespace heaps

variable {α β : Type*} [LinearOrder β]

/-- No element is before the one above it. -/
def Ordered (key : α → β) (a : ℕ → α) (n : ℕ) : Prop :=
  ∀ i, 2 ≤ i → i ≤ n → key (a (i / 2)) ≤ key (a i)

/-- Ordered but for the element at `i`, which may be wrong in both directions. -/
structure Loose (key : α → β) (a : ℕ → α) (n i : ℕ) : Prop where
  away : ∀ j, 2 ≤ j → j ≤ n → j ≠ i → j / 2 ≠ i → key (a (j / 2)) ≤ key (a j)
  around : ∀ j, 2 ≤ i → j ≤ n → j / 2 = i → key (a (i / 2)) ≤ key (a j)

/-- No element under `i` is before the one at `i`. -/
def Settled (key : α → β) (a : ℕ → α) (n i : ℕ) : Prop :=
  ∀ j, j ≤ n → j / 2 = i → key (a i) ≤ key (a j)

/-- The elements at `i` and `j` change places. -/
def exchange (a : ℕ → α) (i j : ℕ) : ℕ → α := a ∘ Equiv.swap i j

section Order

variable {key : α → β} {a : ℕ → α} {n i c : ℕ}

theorem exchange_left : exchange a i c i = a c := by
  simp [exchange]

theorem exchange_right : exchange a i c c = a i := by
  simp [exchange]

/-- No other place is touched. -/
theorem exchange_of_ne {j : ℕ} (hi : j ≠ i) (hc : j ≠ c) : exchange a i c j = a j := by
  simp [exchange, Equiv.swap_apply_of_ne_of_ne hi hc]

/-- Nothing comes before the first place. -/
theorem Ordered.first_le (h : Ordered key a n) : ∀ i, 1 ≤ i → i ≤ n → key (a 1) ≤ key (a i) := by
  intro i
  induction i using Nat.strongRecOn with
  | ind i ih =>
    intro hpos hn
    by_cases hone : i = 1
    · rw [hone]
    · exact (ih (i / 2) (by omega) (by omega) (by omega)).trans (h i (by omega) hn)

theorem Ordered.shrink {m : ℕ} (h : Ordered key a n) (hm : m ≤ n) : Ordered key a m :=
  fun i h2 hi => h i h2 (hi.trans hm)

/-- The order depends on the keys alone. -/
theorem Ordered.congr {key' : α → β} (h : Ordered key a n)
    (hkey : ∀ i, 1 ≤ i → i ≤ n → key' (a i) = key (a i)) : Ordered key' a n := by
  intro i h2 hi
  rw [hkey i (by omega) hi, hkey (i / 2) (by omega) (by omega)]
  exact h i h2 hi

/-- Whatever is put at the end may have to rise. -/
theorem Ordered.grow (h : Ordered key a n) (x : α) :
    Loose key (Function.update a (n + 1) x) (n + 1) (n + 1) ∧
      Settled key (Function.update a (n + 1) x) (n + 1) (n + 1) := by
  refine ⟨⟨?_, ?_⟩, ?_⟩
  · intro j h2 hj hne hhalf
    rw [Function.update_of_ne hne, Function.update_of_ne hhalf]
    exact h j h2 (by omega)
  · intro j h2 hj hhalf
    omega
  · intro j hj hhalf
    omega

/-- Whatever is put in the place of another may have to sink or to rise. -/
theorem Ordered.replace (h : Ordered key a n) (x : α) : Loose key (Function.update a i x) n i := by
  refine ⟨?_, ?_⟩
  · intro j h2 hj hne hhalf
    rw [Function.update_of_ne hne, Function.update_of_ne hhalf]
    exact h j h2 hj
  · intro j h2 hj hhalf
    rw [Function.update_of_ne (by omega), Function.update_of_ne (by omega)]
    have hup := h i h2 (by omega)
    have hdown := h j (by omega) hj
    rw [hhalf] at hdown
    exact hup.trans hdown

/-- The element sinks below the first of the two under it. -/
theorem Loose.sink (h : Loose key a n i) (hi : 1 ≤ i) (hc : c ≤ n) (hhalf : c / 2 = i)
    (hlt : key (a c) < key (a i)) (hfirst : ∀ j, j ≤ n → j / 2 = i → key (a c) ≤ key (a j)) :
    Loose key (exchange a i c) n c := by
  refine ⟨?_, ?_⟩
  · intro j h2 hj hne hjc
    by_cases hji : j = i
    · subst hji
      rw [exchange_left, exchange_of_ne (by omega) hjc]
      exact h.around c h2 hc hhalf
    · rw [exchange_of_ne hji hne]
      by_cases hjup : j / 2 = i
      · rw [hjup, exchange_left]
        exact hfirst j hj hjup
      · rw [exchange_of_ne hjup hjc]
        exact h.away j h2 hj hji hjup
  · intro j _ hj hjc
    rw [hhalf, exchange_left, exchange_of_ne (by omega) (by omega)]
    have hdown := h.away j (by omega) hj (by omega) (by omega)
    rw [hjc] at hdown
    exact hdown

/-- The element rises above the one that stands over it. -/
theorem Loose.rise (h : Loose key a n i) (h2 : 2 ≤ i) (hi : i ≤ n)
    (hlt : key (a i) < key (a (i / 2))) :
    Loose key (exchange a (i / 2) i) n (i / 2) ∧ Settled key (exchange a (i / 2) i) n (i / 2) := by
  have hover : 2 ≤ i / 2 → key (a (i / 2 / 2)) ≤ key (a (i / 2)) :=
    fun hup => h.away (i / 2) hup (by omega) (by omega) (by omega)
  refine ⟨⟨?_, ?_⟩, ?_⟩
  · intro j hj2 hj hne hhalf
    by_cases hji : j = i
    · exact absurd (by rw [hji]) hhalf
    · rw [exchange_of_ne hne hji]
      by_cases hjup : j / 2 = i
      · rw [hjup, exchange_right]
        exact h.around j h2 hj hjup
      · rw [exchange_of_ne hhalf hjup]
        exact h.away j hj2 hj hji hjup
  · intro j hup hj hhalf
    rw [exchange_of_ne (by omega) (by omega)]
    by_cases hji : j = i
    · rw [hji, exchange_right]
      exact hover hup
    · rw [exchange_of_ne (by omega) hji]
      have hdown := h.away j (by omega) hj hji (by omega)
      rw [hhalf] at hdown
      exact (hover hup).trans hdown
  · intro j hj hhalf
    rw [exchange_left]
    by_cases hji : j = i
    · rw [hji, exchange_right]
      exact hlt.le
    · rw [exchange_of_ne (by omega) hji]
      have hdown := h.away j (by omega) hj hji (by omega)
      rw [hhalf] at hdown
      exact hlt.le.trans hdown

/-- Where the loose place fits upwards and downwards there is no loose place. -/
theorem Loose.ordered (h : Loose key a n i) (hsettled : Settled key a n i)
    (hup : 2 ≤ i → key (a (i / 2)) ≤ key (a i)) : Ordered key a n := by
  intro j h2 hj
  by_cases hji : j = i
  · subst hji
    exact hup h2
  · by_cases hhalf : j / 2 = i
    · rw [hhalf]
      exact hsettled j hj hhalf
    · exact h.away j h2 hj hji hhalf

end Order

/-! ## The elements -/

section Members

variable [DecidableEq α] {a : ℕ → α} {n i j : ℕ} {x : α}

/-- What the first `n` places of the array hold. -/
def members (a : ℕ → α) (n : ℕ) : Finset α := (Finset.Icc 1 n).image a

/-- The members are what stands at some place. -/
theorem mem_members : x ∈ members a n ↔ ∃ i, 1 ≤ i ∧ i ≤ n ∧ a i = x := by
  simp [members, and_assoc]

theorem exchange_mem_members (hi : 1 ≤ i) (hin : i ≤ n) (hj : 1 ≤ j) (hjn : j ≤ n)
    (hx : x ∈ members a n) : x ∈ members (exchange a i j) n := by
  obtain ⟨k, hk, hkn, rfl⟩ := mem_members.mp hx
  apply mem_members.mpr
  by_cases hki : k = i
  · exact ⟨j, hj, hjn, by rw [exchange_right, hki]⟩
  · by_cases hkj : k = j
    · exact ⟨i, hi, hin, by rw [exchange_left, hkj]⟩
    · exact ⟨k, hk, hkn, exchange_of_ne hki hkj⟩

/-- An exchange moves no node in or out. -/
theorem members_exchange (hi : 1 ≤ i) (hin : i ≤ n) (hj : 1 ≤ j) (hjn : j ≤ n) :
    members (exchange a i j) n = members a n := by
  ext x
  refine ⟨fun hx => ?_, exchange_mem_members hi hin hj hjn⟩
  have hback : exchange (exchange a i j) i j = a := by
    funext k
    simp [exchange]
  have hmem := exchange_mem_members hi hin hj hjn hx
  rwa [hback] at hmem

/-- A node that is put at the next place is a new member. -/
theorem members_grow : members (Function.update a (n + 1) x) (n + 1) = insert x (members a n) := by
  ext y
  simp only [Finset.mem_insert, mem_members]
  constructor
  · rintro ⟨i, hi, hin, rfl⟩
    by_cases hlast : i = n + 1
    · left
      rw [hlast, Function.update_self]
    · right
      exact ⟨i, hi, by omega, (Function.update_of_ne hlast _ _).symm⟩
  · rintro (rfl | ⟨i, hi, hin, rfl⟩)
    · exact ⟨n + 1, by omega, le_rfl, Function.update_self _ _ _⟩
    · exact ⟨i, hi, by omega, Function.update_of_ne (by omega) _ _⟩

theorem members_last (hinj : Set.InjOn a (Set.Icc 1 (n + 1))) :
    members a n = (members a (n + 1)).erase (a (n + 1)) := by
  ext y
  simp only [Finset.mem_erase, mem_members]
  constructor
  · rintro ⟨i, hi, hin, rfl⟩
    refine ⟨fun h => ?_, i, hi, by omega, rfl⟩
    have hsame := hinj ⟨hi, by omega⟩ ⟨by omega, le_rfl⟩ h
    omega
  · rintro ⟨hne, i, hi, hin, rfl⟩
    by_cases hlast : i = n + 1
    · exact absurd (by rw [hlast]) hne
    · exact ⟨i, hi, by omega, rfl⟩

/-- The last element takes the place of another. -/
theorem members_replace (hinj : Set.InjOn a (Set.Icc 1 (n + 1))) (hi : 1 ≤ i) (hin : i ≤ n) :
    members (Function.update a i (a (n + 1))) n = (members a (n + 1)).erase (a i) := by
  ext y
  simp only [Finset.mem_erase, mem_members]
  constructor
  · rintro ⟨k, hk, hkn, rfl⟩
    by_cases hki : k = i
    · subst hki
      rw [Function.update_self]
      refine ⟨fun h => ?_, n + 1, by omega, le_rfl, rfl⟩
      have hsame := hinj ⟨by omega, le_rfl⟩ ⟨hi, by omega⟩ h
      omega
    · rw [Function.update_of_ne hki]
      refine ⟨fun h => hki (hinj ⟨hk, by omega⟩ ⟨hi, by omega⟩ h), k, hk, by omega, rfl⟩
  · rintro ⟨hne, k, hk, hkn, rfl⟩
    by_cases hki : k = i
    · exact absurd (by rw [hki]) hne
    · by_cases hlast : k = n + 1
      · exact ⟨i, hi, hin, by rw [hlast, Function.update_self]⟩
      · exact ⟨k, hk, by omega, Function.update_of_ne hki _ _⟩

omit [DecidableEq α] in
theorem exchange_injOn (hinj : Set.InjOn a (Set.Icc 1 n)) (hi : 1 ≤ i) (hin : i ≤ n) (hj : 1 ≤ j)
    (hjn : j ≤ n) : Set.InjOn (exchange a i j) (Set.Icc 1 n) := by
  apply hinj.comp (Equiv.swap i j).injective.injOn
  intro k hk
  by_cases hki : k = i
  · subst hki
    rw [Equiv.swap_apply_left]
    exact ⟨hj, hjn⟩
  · by_cases hkj : k = j
    · subst hkj
      rw [Equiv.swap_apply_right]
      exact ⟨hi, hin⟩
    · rw [Equiv.swap_apply_of_ne_of_ne hki hkj]
      exact hk

theorem grow_injOn (hinj : Set.InjOn a (Set.Icc 1 n)) (hx : x ∉ members a n) :
    Set.InjOn (Function.update a (n + 1) x) (Set.Icc 1 (n + 1)) := by
  have hnew : ∀ k, 1 ≤ k → k ≤ n → a k ≠ x :=
    fun k hk hkn h => hx (mem_members.mpr ⟨k, hk, hkn, h⟩)
  rintro k ⟨hk, hkn⟩ l ⟨hl, hln⟩ h
  by_cases hklast : k = n + 1
  · by_cases hllast : l = n + 1
    · rw [hklast, hllast]
    · rw [hklast, Function.update_self, Function.update_of_ne hllast] at h
      exact absurd h.symm (hnew l hl (by omega))
  · by_cases hllast : l = n + 1
    · rw [hllast, Function.update_self, Function.update_of_ne hklast] at h
      exact absurd h (hnew k hk (by omega))
    · rw [Function.update_of_ne hklast, Function.update_of_ne hllast] at h
      exact hinj ⟨hk, by omega⟩ ⟨hl, by omega⟩ h

omit [DecidableEq α] in
theorem replace_injOn (hinj : Set.InjOn a (Set.Icc 1 (n + 1))) :
    Set.InjOn (Function.update a i (a (n + 1))) (Set.Icc 1 n) := by
  have hother : ∀ k, 1 ≤ k → k ≤ n → a k ≠ a (n + 1) := by
    intro k hk hkn h
    have hsame := hinj ⟨hk, by omega⟩ ⟨by omega, le_rfl⟩ h
    omega
  rintro k ⟨hk, hkn⟩ l ⟨hl, hln⟩ h
  by_cases hki : k = i
  · by_cases hli : l = i
    · rw [hki, hli]
    · rw [hki, Function.update_self, Function.update_of_ne hli] at h
      exact absurd h.symm (hother l hl hln)
  · by_cases hli : l = i
    · rw [hli, Function.update_self, Function.update_of_ne hki] at h
      exact absurd h (hother k hk hkn)
    · rw [Function.update_of_ne hki, Function.update_of_ne hli] at h
      exact hinj ⟨hk, by omega⟩ ⟨hl, by omega⟩ h

end Members

end heaps
