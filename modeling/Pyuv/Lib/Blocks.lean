-- Blocks of memory of a fixed size. A store outside of the block is refused, and a block that is
-- filled from its start is what was stored so far and the filling that was there before.
import Mathlib.Data.List.Basic

namespace blocks

variable {α : Type*}

/-- An array of a fixed length. -/
@[ext]
structure Block (α : Type*) (n : ℕ) where
  items : List α
  sized : items.length = n
deriving DecidableEq, Repr

/-- A list of that length as an array. -/
def Block.ofList {n : ℕ} (items : List α) : Option (Block α n) :=
  if h : items.length = n then some ⟨items, h⟩ else none

/-- The item at `i`, if it is in the block. -/
def Block.load {n : ℕ} (b : Block α n) (i : ℕ) : Option α := b.items[i]?

/-- The block with the items stored from `i` on, if they are in the block. -/
def Block.store {n : ℕ} (b : Block α n) (i : ℕ) (xs : List α) : Option (Block α n) :=
  Block.ofList (b.items.take i ++ xs ++ b.items.drop (i + xs.length))

/-- A block with its first items stored. -/
def Block.Filled {n : ℕ} (zero : α) (out : List α) (b : Block α n) : Prop :=
  b.items = out ++ List.replicate (n - out.length) zero ∧ out.length ≤ n

variable {n i : ℕ} {b : Block α n} {zero x : α} {out xs ys zs : List α}

/-- Only the list of its own length is laid out in a block. -/
theorem Block.ofList_eq_some_iff : Block.ofList xs = some b ↔ xs = b.items := by
  unfold Block.ofList
  constructor
  · intro h
    by_cases hlen : xs.length = n
    · rw [dif_pos hlen] at h
      cases h
      rfl
    · rw [dif_neg hlen] at h
      cases h
  · rintro rfl
    rw [dif_pos b.sized]

/-- The item after as many items as the offset says. -/
theorem Block.load_of_eq (h : b.items = xs ++ x :: ys) (hi : i = xs.length) :
    b.load i = some x := by
  subst hi
  unfold Block.load
  rw [h]
  simp

/-- A store writes over as many items as it brings. -/
theorem Block.store_of_eq (h : b.items = xs ++ ys ++ zs) (ys' : List α) (hi : i = xs.length)
    (hlen : ys'.length = ys.length) : ∃ c, b.store i ys' = some c ∧ c.items = xs ++ ys' ++ zs := by
  subst hi
  have hsized : (xs ++ ys' ++ zs).length = n := by
    rw [← b.sized, h]
    simp [hlen]
  refine ⟨⟨_, hsized⟩, ?_, rfl⟩
  unfold Block.store
  rw [Block.ofList_eq_some_iff, h, hlen, List.append_assoc xs ys zs, List.take_left,
    ← List.append_assoc, ← List.length_append, List.drop_left]

/-- The next items of a block that is filled from its start. -/
theorem Block.Filled.store (h : b.Filled zero out) (xs : List α)
    (hroom : out.length + xs.length ≤ n) :
    ∃ c, b.store out.length xs = some c ∧ c.Filled zero (out ++ xs) := by
  obtain ⟨hitems, -⟩ := h
  have hsplit : b.items = out ++ List.replicate xs.length zero ++
      List.replicate (n - (out ++ xs).length) zero := by
    rw [hitems, List.append_assoc, List.replicate_append_replicate, List.length_append]
    congr 2
    omega
  obtain ⟨c, hc, hitems'⟩ :=
    Block.store_of_eq hsplit xs rfl (List.length_replicate (n := xs.length)).symm
  exact ⟨c, hc, hitems', by simpa using hroom⟩

/-- A block of which every item was stored. -/
theorem Block.Filled.items_eq (h : b.Filled zero out) (hfull : out.length = n) : b.items = out := by
  rw [h.1, hfull, Nat.sub_self]
  simp

end blocks
