-- Tickets that are given out in order and served in any order. A ticket that is
-- neither served nor waiting any more is lost.
import Mathlib.Algebra.Order.Group.Multiset
import Mathlib.Data.Multiset.Range

namespace tickets

/-- The tickets below `next` have been given out, and each of them is served or waits,
once. -/
def Tally (next : ℕ) (served waiting : Multiset ℕ) : Prop := served + waiting = Multiset.range next

variable {next i : ℕ} {served waiting : Multiset ℕ}

/-- At the start no ticket is out. -/
theorem Tally.empty : Tally 0 0 0 := rfl

/-- The next ticket waits. -/
theorem Tally.issue (h : Tally next served waiting) :
    Tally (next + 1) served (waiting + {next}) := by
  unfold Tally at h ⊢
  rw [← add_assoc, h, Multiset.range_succ, add_comm, Multiset.singleton_add]

/-- A ticket that waits is served. -/
theorem Tally.serve (h : Tally next served (waiting + {i})) :
    Tally next (served + {i}) waiting := by
  unfold Tally at h ⊢
  rw [← h, add_assoc, add_comm {i} waiting]

theorem Tally.nodup (h : Tally next served waiting) : (served + waiting).Nodup :=
  h ▸ Multiset.nodup_range next

theorem Tally.served_once (h : Tally next served waiting) : served.Nodup :=
  (Multiset.nodup_add.mp h.nodup).1

theorem Tally.served_or_waiting (h : Tally next served waiting) (hi : i < next) :
    i ∈ served ∨ i ∈ waiting := by
  have hmem : i ∈ served + waiting := h ▸ Multiset.mem_range.mpr hi
  exact Multiset.mem_add.mp hmem

/-- The counts add up. -/
theorem Tally.card (h : Tally next served waiting) : served.card + waiting.card = next := by
  rw [← Multiset.card_add, h, Multiset.card_range]

/-- A ticket that waits is not served, and does not wait twice. -/
theorem Tally.lost (h : Tally next served (waiting + {i})) :
    i < next ∧ i ∉ served ∧ i ∉ waiting := by
  have hmem : i ∈ served + (waiting + {i}) := by simp
  rw [h] at hmem
  have hnodup := Multiset.nodup_add.mp h.nodup
  have hwaiting := Multiset.nodup_add.mp hnodup.2.1
  refine ⟨Multiset.mem_range.mp hmem, fun hs => ?_, fun hw => ?_⟩
  · exact Multiset.disjoint_left.mp hnodup.2.2 hs (by simp)
  · exact Multiset.disjoint_left.mp hwaiting.2.2 hw (by simp)

end tickets
