-- The binary heap that the timers of a loop stand in (deps/libuv/src/heap-inl.h): nodes
-- with pointers to two children and to the parent. A pointer is an option, NULL is none,
-- and a run that follows NULL has no result.
import Pyuv.Lib.ArrayHeaps

namespace pyuv.timerheap

open heaps

/-! ## The functions of heap-inl.h -/

/-- `unsigned int` has 32 bits. -/
def UINT_SIZE : ℕ := 2 ^ 32

/-- `struct heap`, and the `struct heap_node` of every node. -/
structure Heap (P : Type) where
  left : P → Option P
  right : P → Option P
  parent : P → Option P
  min : Option P
  nelts : ℕ

/-- `struct heap_node**`: a place that a pointer to a node stands in. -/
inductive Slot (P : Type) where
  | min
  | left (x : P)
  | right (x : P)
deriving DecidableEq, Repr

variable {P : Type} [DecidableEq P]

namespace Heap

/-- `x->left = y` -/
def set_left (h : Heap P) (x : P) (y : Option P) : Heap P :=
  { h with left := Function.update h.left x y }

/-- `x->right = y` -/
def set_right (h : Heap P) (x : P) (y : Option P) : Heap P :=
  { h with right := Function.update h.right x y }

/-- `x->parent = y` -/
def set_parent (h : Heap P) (x : P) (y : Option P) : Heap P :=
  { h with parent := Function.update h.parent x y }

/-- The pointer in a slot. -/
def read (h : Heap P) : Slot P → Option P
  | .min => h.min
  | .left x => h.left x
  | .right x => h.right x

/-- The pointer in a slot is written. -/
def write (h : Heap P) (y : Option P) : Slot P → Heap P
  | .min => { h with min := y }
  | .left x => h.set_left x y
  | .right x => h.set_right x y

/-- `if (q != NULL) q->parent = x;` -/
def adopt (h : Heap P) (q : Option P) (x : P) : Heap P :=
  match q with
  | none => h
  | some q => h.set_parent q (some x)

/-- The parent `q` that pointed to `old` points to `new`, and so does the root when there is no
parent. -/
def relink (h : Heap P) (q : Option P) (old new : P) : Heap P :=
  match q with
  | none => { h with min := some new }
  | some q => if h.left q = some old then h.set_left q (some new) else h.set_right q (some new)

/-- `t = *x; *x = *y; *y = t;` -/
def swap_nodes (h : Heap P) (x y : P) : Heap P :=
  { h with
    left := Function.update (Function.update h.left x (h.left y)) y (h.left x)
    right := Function.update (Function.update h.right x (h.right y)) y (h.right x)
    parent := Function.update (Function.update h.parent x (h.parent y)) y (h.parent x) }

end Heap

/-- A heap of no nodes. -/
def heap_init : Heap P where
  left _ := none
  right _ := none
  parent _ := none
  min := none
  nelts := 0

/-- The node at the top. -/
def heap_min (h : Heap P) : Option P := h.min

/-- Child moves closer to the root, parent moves away. -/
def heap_node_swap (h : Heap P) (parent child : P) : Heap P :=
  let h := h.swap_nodes parent child
  let h := h.set_parent parent (some child)
  let first := h.left child = some child
  let h := if first then h.set_left child (some parent) else h.set_right child (some parent)
  let sibling := if first then h.right child else h.left child
  let h := h.adopt sibling child
  let h := h.adopt (h.left parent) parent
  let h := h.adopt (h.right parent) parent
  h.relink (h.parent child) parent child

/-- The path from the root to the place `n`, its first turn in the lowest bit, and its length. -/
def heap_path (n path k : ℕ) : ℕ × ℕ :=
  if 2 ≤ n then heap_path (n / 2) ((path <<< 1 ||| n &&& 1) % UINT_SIZE) (k + 1) else (path, k)
termination_by n

/-- `&(*s)->right` or `&(*s)->left`. -/
def heap_turn (h : Heap P) (path : ℕ) (s : Slot P) : Option (Slot P) :=
  (h.read s).map fun x => if path &&& 1 = 1 then .right x else .left x

/-- The walk down a path with the slot before the last. The one of heap_remove is the same
without the latter. -/
def heap_walk (h : Heap P) : (k path : ℕ) → (parent child : Slot P) → Option (Slot P × Slot P)
  | 0, _, parent, child => some (parent, child)
  | k + 1, path, _, child =>
    (heap_turn h path child).bind fun next => heap_walk h k (path >>> 1) child next

/-- The walk up the tree. -/
def heap_rise (less_than : P → P → Bool) (x : P) : (fuel : ℕ) → Heap P → Option (Heap P)
  | 0, _ => none
  | fuel + 1, h =>
    match h.parent x with
    | none => some h
    | some p =>
      if less_than x p then heap_rise less_than x fuel (heap_node_swap h p x) else some h

/-- The new node goes to the next place at the bottom, and up from there. -/
def heap_insert (less_than : P → P → Bool) (h : Heap P) (newnode : P) : Option (Heap P) := do
  let h := ((h.set_left newnode none).set_right newnode none).set_parent newnode none
  let path := heap_path ((1 + h.nelts) % UINT_SIZE) 0 0
  let slots ← heap_walk h path.2 path.1 .min .min
  let h := h.set_parent newnode (h.read slots.1)
  let h := h.write (some newnode) slots.2
  let h := { h with nelts := (h.nelts + 1) % UINT_SIZE }
  heap_rise less_than newnode h.nelts h

/-- The smaller one of `x` and a child. -/
def heap_pick (less_than : P → P → Bool) (smallest : P) : Option P → P
  | none => smallest
  | some x => if less_than x smallest then x else smallest

/-- The smallest of a node and its children. -/
def heap_smallest (less_than : P → P → Bool) (h : Heap P) (child : P) : P :=
  heap_pick less_than (heap_pick less_than child (h.left child)) (h.right child)

/-- The walk down the subtree. -/
def heap_sink (less_than : P → P → Bool) (child : P) : (fuel : ℕ) → Heap P → Option (Heap P)
  | 0, _ => none
  | fuel + 1, h =>
    let smallest := heap_smallest less_than h child
    if smallest = child then some h
    else heap_sink less_than child fuel (heap_node_swap h child smallest)

/-- The max node takes the place of the deleted one. -/
def heap_replace (h : Heap P) (node child : P) : Heap P :=
  let h := ((h.set_left child (h.left node)).set_right child (h.right node)).set_parent child
    (h.parent node)
  let h := h.adopt (h.left child) child
  let h := h.adopt (h.right child) child
  h.relink (h.parent node) node child

/-- The last node takes the place of `node`, and goes down or up from there. -/
def heap_remove (less_than : P → P → Bool) (h : Heap P) (node : P) : Option (Heap P) :=
  if h.nelts = 0 then some h
  else do
    let path := heap_path h.nelts 0 0
    let slots ← heap_walk h path.2 path.1 .min .min
    let h := { h with nelts := h.nelts - 1 }
    let child ← h.read slots.2
    let h := h.write none slots.2
    if child = node then
      -- the max, or the last node in the tree
      if h.min = some child then some { h with min := none } else some h
    else
      let h := heap_replace h node child
      let h ← heap_sink less_than child h.nelts h
      heap_rise less_than child h.nelts h

/-! ## The array that the tree is -/

/-- The node at a place, none outside the tree. -/
def place (a : ℕ → P) (n i : ℕ) : Option P := if 1 ≤ i ∧ i ≤ n then some (a i) else none

/-- The slot that the pointer to the node at a place stands in. -/
def slot (a : ℕ → P) (i : ℕ) : Slot P :=
  if i ≤ 1 then .min else if i % 2 = 1 then .right (a (i / 2)) else .left (a (i / 2))

/-- The pointers make the nodes the complete tree of the first `n` places. -/
structure Tree (h : Heap P) (a : ℕ → P) (n : ℕ) : Prop where
  inj : Set.InjOn a (Set.Icc 1 n)
  min : h.min = place a n 1
  left : ∀ i, 1 ≤ i → i ≤ n → h.left (a i) = place a n (2 * i)
  right : ∀ i, 1 ≤ i → i ≤ n → h.right (a i) = place a n (2 * i + 1)
  parent : ∀ i, 1 ≤ i → i ≤ n → h.parent (a i) = place a n (i / 2)

section

variable {h : Heap P} {a : ℕ → P} {n i j : ℕ} {x y : P}

omit [DecidableEq P] in
theorem place_of_mem (hi : 1 ≤ i) (hin : i ≤ n) : place a n i = some (a i) := if_pos ⟨hi, hin⟩

omit [DecidableEq P] in
/-- There is nothing outside of the tree. -/
theorem place_of_not_mem (hi : ¬(1 ≤ i ∧ i ≤ n)) : place a n i = none := if_neg hi

omit [DecidableEq P] in
/-- A node is at its place alone. -/
theorem place_eq_some (hi : 1 ≤ i) (hin : i ≤ n) (hinj : Set.InjOn a (Set.Icc 1 n)) :
    place a n j = some (a i) ↔ j = i := by
  by_cases hj : 1 ≤ j ∧ j ≤ n
  · rw [place_of_mem hj.1 hj.2, Option.some.injEq]
    exact hinj.eq_iff hj ⟨hi, hin⟩
  · rw [place_of_not_mem hj]
    refine iff_of_false (fun h => nomatch h) ?_
    rintro rfl
    exact hj ⟨hi, hin⟩

@[simp] theorem adopt_left (q : Option P) : (h.adopt q x).left = h.left := by
  cases q <;> rfl

@[simp] theorem adopt_right (q : Option P) : (h.adopt q x).right = h.right := by
  cases q <;> rfl

@[simp] theorem adopt_min (q : Option P) : (h.adopt q x).min = h.min := by
  cases q <;> rfl

@[simp] theorem adopt_nelts (q : Option P) : (h.adopt q x).nelts = h.nelts := by
  cases q <;> rfl

/-- Who becomes the parent: a child that is there gets the new one. -/
theorem adopt_parent (q : Option P) (z : P) :
    (h.adopt q x).parent z = if q = some z then some x else h.parent z := by
  cases q with
  | none => rfl
  | some q =>
    simp only [Heap.adopt, Heap.set_parent, Function.update_apply, Option.some.injEq]
    simp only [eq_comm]

@[simp] theorem relink_parent (q : Option P) : (h.relink q x y).parent = h.parent := by
  cases q with
  | none => rfl
  | some q =>
    simp only [Heap.relink]
    split <;> rfl

@[simp] theorem relink_nelts (q : Option P) : (h.relink q x y).nelts = h.nelts := by
  cases q with
  | none => rfl
  | some q =>
    simp only [Heap.relink]
    split <;> rfl

/-- The root is who `min` points at. -/
theorem relink_min (q : Option P) :
    (h.relink q x y).min = if q = none then some y else h.min := by
  cases q with
  | none => rfl
  | some q =>
    simp only [Heap.relink]
    split <;> rfl

/-- The parent's pointer to the old node, where that is the left one. -/
theorem relink_left (q : Option P) (z : P) :
    (h.relink q x y).left z = if q = some z ∧ h.left z = some x then some y else h.left z := by
  cases q with
  | none => rfl
  | some q =>
    by_cases hz : q = z
    · subst hz
      by_cases hleft : h.left q = some x
      · simp [Heap.relink, hleft, Heap.set_left]
      · simp [Heap.relink, hleft, Heap.set_right]
    · rw [if_neg (by simp [hz])]
      simp only [Heap.relink]
      split
      · exact Function.update_of_ne (Ne.symm hz) _ _
      · rfl

theorem relink_right (q : Option P) (z : P) :
    (h.relink q x y).right z = if q = some z ∧ h.left z ≠ some x then some y else h.right z := by
  cases q with
  | none => rfl
  | some q =>
    by_cases hz : q = z
    · subst hz
      by_cases hleft : h.left q = some x
      · simp [Heap.relink, hleft, Heap.set_left]
      · simp [Heap.relink, hleft, Heap.set_right]
    · rw [if_neg (by simp [hz])]
      simp only [Heap.relink]
      split
      · rfl
      · exact Function.update_of_ne (Ne.symm hz) _ _

end

/-! ## Parent and child change places -/

section

variable {h : Heap P} {a : ℕ → P} {n i j : ℕ} {p c : P}

/-- Parent and child after the exchange, before the nodes around them are told. -/
def linked (h : Heap P) (p c : P) : Heap P :=
  let h := (h.swap_nodes p c).set_parent p (some c)
  if h.left c = some c then h.set_left c (some p) else h.set_right c (some p)

/-- The left pointers once the two nodes have changed places, before their neighbours hear of it. -/
theorem linked_left (z : P) : (linked h p c).left z =
    if z = c then (if h.left p = some c then some p else h.left p)
    else if z = p then h.left c else h.left z := by
  unfold linked
  by_cases hfirst : h.left p = some c
  · simp only [Heap.swap_nodes, Heap.set_parent, Function.update_self, if_pos hfirst, Heap.set_left,
      Function.update_apply]
    split <;> rfl
  · simp only [Heap.swap_nodes, Heap.set_parent, Function.update_self, if_neg hfirst,
      Heap.set_right,
      Function.update_apply]

/-- The right pointers, at the same point. -/
theorem linked_right (z : P) : (linked h p c).right z =
    if z = c then (if h.left p = some c then h.right p else some p)
    else if z = p then h.right c else h.right z := by
  unfold linked
  by_cases hfirst : h.left p = some c
  · simp only [Heap.swap_nodes, Heap.set_parent, Function.update_self, if_pos hfirst, Heap.set_left,
      Function.update_apply]
  · simp only [Heap.swap_nodes, Heap.set_parent, Function.update_self, if_neg hfirst,
      Heap.set_right,
      Function.update_apply]
    split <;> rfl

/-- Each of the two nodes under its new parent. -/
theorem linked_parent (hne : p ≠ c) (z : P) : (linked h p c).parent z =
    if z = c then h.parent p else if z = p then some c else h.parent z := by
  unfold linked
  have hset : ((h.swap_nodes p c).set_parent p (some c)).parent z =
      if z = c then h.parent p else if z = p then some c else h.parent z := by
    simp only [Heap.swap_nodes, Heap.set_parent, Function.update_apply]
    by_cases hz : z = c
    · rw [if_pos hz, if_pos hz, if_neg (hz ▸ hne.symm)]
    · rw [if_neg hz, if_neg hz]
      by_cases hzp : z = p
      · rw [if_pos hzp, if_pos hzp]
      · simp only [if_neg hzp]
  dsimp only
  split <;> exact hset

theorem linked_min : (linked h p c).min = h.min := by
  unfold linked
  dsimp only
  split <;> rfl

theorem linked_nelts : (linked h p c).nelts = h.nelts := by
  unfold linked
  dsimp only
  split <;> rfl

theorem swap_eq : heap_node_swap h p c =
    let g := linked h p c
    let sibling := if h.left p = some c then g.right c else g.left c
    let g := g.adopt sibling c
    let g := g.adopt (g.left p) p
    let g := g.adopt (g.right p) p
    g.relink (g.parent c) p c := by
  have hfirst : ((h.swap_nodes p c).set_parent p (some c)).left c = h.left p := by
    simp [Heap.swap_nodes, Heap.set_parent]
  unfold heap_node_swap linked
  simp only [hfirst]

omit [DecidableEq P] in
/-- After the exchange the parent's node is below. -/
theorem place_exchange_right (hj : 1 ≤ j) (hjn : j ≤ n) :
    place (exchange a i j) n j = some (a i) := by
  rw [place_of_mem hj hjn, exchange_right]

omit [DecidableEq P] in
/-- No other place sees the exchange. -/
theorem place_exchange_of_ne {k : ℕ} (hi : k ≠ i) (hj : k ≠ j) :
    place (exchange a i j) n k = place a n k := by
  unfold place
  rw [exchange_of_ne hi hj]

section Swap

variable (ht : Tree h a n) (h2 : 2 ≤ i) (hi : i ≤ n)
include ht h2 hi

omit [DecidableEq P] in
/-- A node is not its own parent. -/
theorem Tree.swap_ne : a (i / 2) ≠ a i := by
  intro h
  have hsame := ht.inj ⟨by omega, by omega⟩ ⟨by omega, hi⟩ h
  omega

omit [DecidableEq P] in
/-- The C code tells by the left pointer on which side the child hangs. -/
theorem Tree.swap_first : h.left (a (i / 2)) = some (a i) ↔ 2 * (i / 2) = i := by
  rw [ht.left (i / 2) (by omega) (by omega)]
  exact place_eq_some (by omega) hi ht.inj

/-- The left pointers against the exchanged array. The place above the two still has its old
child. -/
theorem Tree.linked_left {k : ℕ} (hk : 1 ≤ k) (hkn : k ≤ n) :
    (linked h (a (i / 2)) (a i)).left (exchange a (i / 2) i k) =
      if 2 * k = i / 2 then some (a (i / 2)) else place (exchange a (i / 2) i) n (2 * k) := by
  have hne := ht.swap_ne h2 hi
  rw [timerheap.linked_left]
  by_cases hkp : k = i / 2
  · subst hkp
    have hover : ¬2 * (i / 2) = i / 2 := by omega
    rw [exchange_left, if_pos rfl, if_neg hover]
    by_cases hfirst : 2 * (i / 2) = i
    · rw [if_pos ((ht.swap_first h2 hi).mpr hfirst), hfirst, place_exchange_right (by omega) hi]
    · rw [if_neg (fun h => hfirst ((ht.swap_first h2 hi).mp h)), ht.left _ (by omega) (by omega),
        place_exchange_of_ne (by omega) hfirst]
  · by_cases hki : k = i
    · subst hki
      rw [exchange_right, if_neg hne, if_pos rfl, if_neg (by omega), ht.left _ (by omega) hi,
        place_exchange_of_ne (by omega) (by omega)]
    · rw [exchange_of_ne hkp hki, if_neg, if_neg, ht.left k hk hkn]
      · by_cases hover : 2 * k = i / 2
        · rw [if_pos hover, hover, place_of_mem (by omega) (by omega)]
        · rw [if_neg hover, place_exchange_of_ne hover (by omega)]
      · exact fun h => hkp (ht.inj ⟨hk, hkn⟩ ⟨by omega, by omega⟩ h)
      · exact fun h => hki (ht.inj ⟨hk, hkn⟩ ⟨by omega, hi⟩ h)

/-- The right pointers, with the same exception. -/
theorem Tree.linked_right {k : ℕ} (hk : 1 ≤ k) (hkn : k ≤ n) :
    (linked h (a (i / 2)) (a i)).right (exchange a (i / 2) i k) =
      if 2 * k + 1 = i / 2 then some (a (i / 2))
      else place (exchange a (i / 2) i) n (2 * k + 1) := by
  have hne := ht.swap_ne h2 hi
  rw [timerheap.linked_right]
  by_cases hkp : k = i / 2
  · subst hkp
    have hover : ¬2 * (i / 2) + 1 = i / 2 := by omega
    rw [exchange_left, if_pos rfl, if_neg hover]
    by_cases hfirst : 2 * (i / 2) = i
    · rw [if_pos ((ht.swap_first h2 hi).mpr hfirst), ht.right _ (by omega) (by omega),
        place_exchange_of_ne (by omega) (by omega)]
    · have hsecond : 2 * (i / 2) + 1 = i := by omega
      rw [if_neg (fun h => hfirst ((ht.swap_first h2 hi).mp h)), hsecond,
        place_exchange_right (by omega) hi]
  · by_cases hki : k = i
    · subst hki
      rw [exchange_right, if_neg hne, if_pos rfl, if_neg (by omega), ht.right _ (by omega) hi,
        place_exchange_of_ne (by omega) (by omega)]
    · rw [exchange_of_ne hkp hki, if_neg, if_neg, ht.right k hk hkn]
      · by_cases hover : 2 * k + 1 = i / 2
        · rw [if_pos hover, hover, place_of_mem (by omega) (by omega)]
        · rw [if_neg hover, place_exchange_of_ne hover (by omega)]
      · exact fun h => hkp (ht.inj ⟨hk, hkn⟩ ⟨by omega, by omega⟩ h)
      · exact fun h => hki (ht.inj ⟨hk, hkn⟩ ⟨by omega, hi⟩ h)

/-- The other child of the parent. -/
theorem Tree.swap_sibling :
    (if h.left (a (i / 2)) = some (a i) then (linked h (a (i / 2)) (a i)).right (a i)
      else (linked h (a (i / 2)) (a i)).left (a i)) =
      place (exchange a (i / 2) i) n (4 * (i / 2) + 1 - i) := by
  have hright := ht.linked_right h2 hi (k := i / 2) (by omega) (by omega)
  have hleft := ht.linked_left h2 hi (k := i / 2) (by omega) (by omega)
  rw [exchange_left] at hright hleft
  by_cases hfirst : 2 * (i / 2) = i
  · rw [if_pos ((ht.swap_first h2 hi).mpr hfirst), hright, if_neg (by omega),
      show 4 * (i / 2) + 1 - i = 2 * (i / 2) + 1 by omega]
  · rw [if_neg (fun h => hfirst ((ht.swap_first h2 hi).mp h)), hleft, if_neg (by omega),
      show 4 * (i / 2) + 1 - i = 2 * (i / 2) by omega]

/-- Parent and child change places. -/
theorem Tree.swap : Tree (heap_node_swap h (a (i / 2)) (a i)) (exchange a (i / 2) i) n := by
  have hinj : Set.InjOn (exchange a (i / 2) i) (Set.Icc 1 n) :=
    exchange_injOn ht.inj (by omega) (by omega) (by omega) hi
  have hne := ht.swap_ne h2 hi
  have hP : exchange a (i / 2) i i = a (i / 2) := exchange_right
  have hC : exchange a (i / 2) i (i / 2) = a i := exchange_left
  have hleft := fun k => ht.linked_left h2 hi (k := k)
  have hright := fun k => ht.linked_right h2 hi (k := k)
  have hPleft := hleft i (by omega) hi
  have hPright := hright i (by omega) hi
  rw [hP, if_neg (by omega)] at hPleft hPright
  rw [swap_eq]
  dsimp only
  rw [ht.swap_sibling h2 hi]
  simp only [adopt_left, adopt_right, hPleft, hPright]
  set b := exchange a (i / 2) i with hb
  set g := linked h (a (i / 2)) (a i) with hg
  have heq : ∀ k j, 1 ≤ k → k ≤ n → (place b n j = some (b k) ↔ j = k) :=
    fun k j hk hkn => place_eq_some hk hkn hinj
  have hparent : ∀ k, 1 ≤ k → k ≤ n →
      (((g.adopt (place b n (4 * (i / 2) + 1 - i)) (a i)).adopt (place b n (2 * i))
        (a (i / 2))).adopt (place b n (2 * i + 1)) (a (i / 2))).parent (b k) =
        place b n (k / 2) := by
    intro k hk hkn
    simp only [adopt_parent, heq k _ hk hkn]
    by_cases hright : 2 * i + 1 = k
    · rw [if_pos hright, show k / 2 = i by omega, place_of_mem (by omega) hi, hP]
    rw [if_neg hright]
    by_cases hleft : 2 * i = k
    · rw [if_pos hleft, show k / 2 = i by omega, place_of_mem (by omega) hi, hP]
    rw [if_neg hleft]
    by_cases hsibling : 4 * (i / 2) + 1 - i = k
    · rw [if_pos hsibling, show k / 2 = i / 2 by omega, place_of_mem (by omega) (by omega), hC]
    rw [if_neg hsibling, hg, linked_parent hne]
    by_cases hkp : k = i / 2
    · rw [hkp, hC, if_pos rfl, ht.parent _ (by omega) (by omega), hb,
        place_exchange_of_ne (by omega) (by omega)]
    by_cases hki : k = i
    · rw [hki, hP, if_neg hne, if_pos rfl, place_of_mem (by omega) (by omega), hC]
    rw [hb, exchange_of_ne hkp hki, if_neg, if_neg, ht.parent k hk hkn,
      place_exchange_of_ne (by omega) (by omega)]
    · exact fun h => hkp (ht.inj ⟨hk, hkn⟩ ⟨by omega, by omega⟩ h)
    · exact fun h => hki (ht.inj ⟨hk, hkn⟩ ⟨by omega, hi⟩ h)
  have hq := hparent (i / 2) (by omega) (by omega)
  rw [hC] at hq
  rw [hq]
  refine ⟨hinj, ?_, ?_, ?_, ?_⟩
  · rw [relink_min]
    by_cases hroot : i / 2 = 1
    · rw [if_pos (by rw [hroot]; exact place_of_not_mem (by omega)),
        place_of_mem (by omega) (by omega),
        ← hC, hroot]
    · rw [if_neg (by rw [place_of_mem (by omega) (by omega)]; simp)]
      simp only [adopt_min]
      rw [hg, linked_min, ht.min, hb, place_exchange_of_ne (by omega) (by omega)]
  · intro k hk hkn
    rw [relink_left]
    simp only [heq k _ hk hkn, adopt_left]
    rw [hleft k hk hkn]
    by_cases hover : 2 * k = i / 2
    · rw [if_pos hover, if_pos ⟨by omega, rfl⟩, hover, place_of_mem (by omega) (by omega), hC]
    · rw [if_neg hover, if_neg]
      rintro ⟨hk2, hplace⟩
      rw [← hP, heq i _ (by omega) hi] at hplace
      omega
  · intro k hk hkn
    rw [relink_right]
    simp only [heq k _ hk hkn, adopt_left, adopt_right]
    rw [hleft k hk hkn, hright k hk hkn]
    by_cases hover : 2 * k + 1 = i / 2
    · have hother : ¬place b n (2 * k) = some (a (i / 2)) := by
        rw [← hP, heq i _ (by omega) hi]
        omega
      have hne2 : ¬2 * k = i / 2 := by omega
      rw [if_pos hover, hover, if_neg hne2, if_pos ⟨by omega, hother⟩, ← hC,
        place_of_mem (by omega) (by omega)]
    · rw [if_neg hover, if_neg]
      rintro ⟨hk2, hplace⟩
      exact hplace (if_pos (by omega))
  · intro k hk hkn
    rw [relink_parent]
    exact hparent k hk hkn

end Swap

end

end pyuv.timerheap
