-- Reference counts over a graph of objects. The count of an object is the number of
-- references that others hold on it, and an object with a reference is alive.
import Mathlib.Algebra.BigOperators.Group.Finset.Piecewise
import Mathlib.Algebra.Order.Group.Multiset
import Mathlib.Data.Finset.Basic
import Mathlib.Tactic.Abel

namespace refcounts

variable {N : Type*} [DecidableEq N]

/-- The references that the objects of `alive` hold. -/
def inrefs (alive : Finset N) (refs : N → Multiset N) : Multiset N := ∑ x ∈ alive, refs x

/-- The counts `cnt` are those of the references of `alive`, and of `held` others. -/
structure Balanced (alive : Finset N) (refs : N → Multiset N) (held cnt : N → ℕ) : Prop where
  counts : ∀ x, cnt x = held x + (inrefs alive refs).count x
  live : ∀ x, 0 < cnt x → x ∈ alive

section

variable {alive : Finset N} {refs : N → Multiset N} {held held' cnt cnt' : N → ℕ} {x y : N}
  {R : Multiset N}

/-- The references that are seen after one node got other fields, without a subtraction. -/
theorem inrefs_update (refs : N → Multiset N) (R : Multiset N) (hx : x ∈ alive) :
    inrefs alive (Function.update refs x R) + refs x = inrefs alive refs + R := by
  unfold inrefs
  rw [Finset.sum_update_of_mem hx, ← Finset.add_sum_erase alive refs hx,
    Finset.sdiff_singleton_eq_erase]
  abel

/-- A node that is freed takes its references with it. -/
theorem inrefs_erase (refs : N → Multiset N) (hx : x ∈ alive) :
    inrefs (alive.erase x) refs + refs x = inrefs alive refs := by
  unfold inrefs
  rw [Finset.sum_erase_add alive refs hx]

/-- A new node brings its own. -/
theorem inrefs_insert (hx : x ∉ alive) :
    inrefs (insert x alive) refs = refs x + inrefs alive refs := by
  unfold inrefs
  rw [Finset.sum_insert hx]

omit [DecidableEq N] in
/-- Nodes that are not alive have no say. -/
theorem inrefs_congr {refs' : N → Multiset N} (h : ∀ x ∈ alive, refs' x = refs x) :
    inrefs alive refs' = inrefs alive refs :=
  Finset.sum_congr rfl h

omit [DecidableEq N] in
theorem mem_inrefs (hx : x ∈ alive) (hy : y ∈ refs x) : y ∈ inrefs alive refs := by
  unfold inrefs
  rw [Multiset.mem_sum]
  exact ⟨x, hx, hy⟩

namespace Balanced

/-- What a living object refers to has a reference, and so is alive. -/
theorem pos_of_ref (hb : Balanced alive refs held cnt) (hx : x ∈ alive) (hy : y ∈ refs x) :
    0 < cnt y := by
  have hmem : 0 < (inrefs alive refs).count y := Multiset.count_pos.mpr (mem_inrefs hx hy)
  have hcount := hb.counts y
  omega

/-- No field leads to a node that was freed. -/
theorem alive_of_ref (hb : Balanced alive refs held cnt) (hx : x ∈ alive) (hy : y ∈ refs x) :
    y ∈ alive :=
  hb.live y (hb.pos_of_ref hx hy)

theorem alive_of_held (hb : Balanced alive refs held cnt) (hx : 0 < held x) : x ∈ alive := by
  have hcount := hb.counts x
  exact hb.live x (by omega)

/-- The references of one object change, with the ones that others hold. -/
theorem write (hb : Balanced alive refs held cnt) (hx : x ∈ alive)
    (hcnt : ∀ y, cnt' y + held y + (refs x).count y = cnt y + held' y + R.count y)
    (hlive : ∀ y, cnt y < cnt' y → y ∈ alive) :
    Balanced alive (Function.update refs x R) held' cnt' := by
  refine ⟨fun y => ?_, fun y hy => ?_⟩
  · have hsum := congrArg (Multiset.count y) (inrefs_update refs R hx)
    rw [Multiset.count_add, Multiset.count_add] at hsum
    have hold := hb.counts y
    have hnew := hcnt y
    omega
  · by_cases hgrow : cnt y < cnt' y
    · exact hlive y hgrow
    · exact hb.live y (by omega)

/-- An object that nobody refers to goes, with the references it holds. -/
theorem free (hb : Balanced alive refs held cnt) (hx : x ∈ alive) (hzero : cnt x = 0)
    (hcnt : ∀ y, cnt' y + (refs x).count y = cnt y) :
    Balanced (alive.erase x) refs held cnt' := by
  refine ⟨fun y => ?_, fun y hy => ?_⟩
  · have hsum := congrArg (Multiset.count y) (inrefs_erase refs hx)
    rw [Multiset.count_add] at hsum
    have hold := hb.counts y
    have hnew := hcnt y
    omega
  · have hnew := hcnt y
    refine Finset.mem_erase.mpr ⟨?_, hb.live y (by omega)⟩
    rintro rfl
    omega

/-- A new object, with no references to others. -/
theorem alloc (hb : Balanced alive refs held cnt) (hx : x ∉ alive)
    (hother : ∀ y, y ≠ x → cnt' y = cnt y ∧ held' y = held y) (hself : cnt' x = held' x) :
    Balanced (insert x alive) (Function.update refs x 0) held' cnt' := by
  have hsame : inrefs (insert x alive) (Function.update refs x 0) = inrefs alive refs := by
    rw [inrefs_insert hx, Function.update_self, zero_add]
    refine inrefs_congr fun y hy => Function.update_of_ne ?_ _ _
    rintro rfl
    exact hx hy
  have hdead : cnt x = 0 := by
    by_contra hpos
    exact hx (hb.live x (by omega))
  refine ⟨fun y => ?_, fun y hy => ?_⟩
  · rw [hsame]
    have hold := hb.counts y
    by_cases hyx : y = x
    · subst hyx
      omega
    · obtain ⟨hcnt, hheld⟩ := hother y hyx
      omega
  · by_cases hyx : y = x
    · simp [hyx]
    · rw [(hother y hyx).1] at hy
      exact Finset.mem_insert_of_mem (hb.live y hy)

end Balanced

end

end refcounts
