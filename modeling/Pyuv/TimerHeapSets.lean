-- What the operations of the timer heap (deps/libuv/src/heap-inl.h) do to the set of nodes
-- in it, and what holds after any sequence of them.
import Pyuv.TimerHeap

namespace pyuv.timerheap

open heaps

variable {P : Type} [DecidableEq P]

section

variable {h : Heap P} {a : ℕ → P} {n i j : ℕ} {x y : P} {β : Type} [LinearOrder β] {key : P → β}
  {less_than : P → P → Bool} {h' : Heap P} {s : Finset P}

theorem swap_nelts {p c : P} : (heap_node_swap h p c).nelts = h.nelts := by
  rw [swap_eq]
  simp only [relink_nelts, adopt_nelts, linked_nelts]

/-! ## The walks along the tree -/

omit [DecidableEq P] in
/-- The pointer that leads to place `i` holds what stands at that place. -/
theorem Tree.read_slot (ht : Tree h a n) (hi : 1 ≤ i) (hin : i / 2 ≤ n) :
    h.read (slot a i) = place a n i := by
  unfold slot
  by_cases hone : i ≤ 1
  · obtain rfl : i = 1 := by omega
    exact ht.min
  · rw [if_neg hone]
    by_cases hodd : i % 2 = 1
    · rw [if_pos hodd]
      have hright := ht.right (i / 2) (by omega) hin
      rwa [show 2 * (i / 2) + 1 = i by omega] at hright
    · rw [if_neg hodd]
      have hleft := ht.left (i / 2) (by omega) hin
      rwa [show 2 * (i / 2) = i by omega] at hleft

/-- What heap_insert collects while it halves the count: one bit of the way down at a time. -/
theorem path_bit (path m : ℕ) : path <<< 1 ||| m &&& 1 = 2 * path + m % 2 := by
  rw [Nat.and_one_is_mod, Nat.shiftLeft_eq, pow_one, Nat.mul_comm path 2]
  have hlt : m % 2 < 2 ^ 1 := by omega
  have hor := Nat.two_pow_add_eq_or_of_lt hlt path
  rw [pow_one] at hor
  exact hor.symm

/-- The bit that heap_walk reads next. -/
theorem bit_low (path m : ℕ) : (2 * path + m % 2) &&& 1 = m % 2 := by
  rw [Nat.and_one_is_mod]
  omega

/-- The bits that remain for it. -/
theorem bit_rest (path m : ℕ) : (2 * path + m % 2) >>> 1 = path := by
  rw [Nat.shiftRight_eq_div_pow]
  omega

omit [DecidableEq P] in
/-- The path of `m` leads to `m`, whatever is walked after it. By recursion on the path: its last
turn is the first one that the loop of the path has written. -/
theorem Tree.walk_path (ht : Tree h a n) : ∀ m path k, 1 ≤ m → m / 2 ≤ n → path < 2 ^ k →
    m * 2 ^ k < UINT_SIZE →
    heap_walk h (heap_path m path k).2 (heap_path m path k).1 .min .min =
      heap_walk h k path (slot a (m / 2)) (slot a m) := by
  intro m
  induction m using Nat.strongRecOn with
  | ind m ih =>
    intro path k hm hmn hpath hbound
    rw [heap_path]
    by_cases h2 : 2 ≤ m
    · have hpow : 2 ^ (k + 1) ≤ m * 2 ^ k := by
        rw [pow_succ, Nat.mul_comm]
        exact Nat.mul_le_mul_right _ h2
      have hnew : 2 * path + m % 2 < 2 ^ (k + 1) := by
        rw [pow_succ]
        omega
      have hhalf : m / 2 * 2 ^ (k + 1) ≤ m * 2 ^ k := by
        rw [pow_succ, Nat.mul_comm (2 ^ k) 2, ← Nat.mul_assoc]
        exact Nat.mul_le_mul_right _ (by omega)
      rw [if_pos h2, path_bit, Nat.mod_eq_of_lt (by omega),
        ih (m / 2) (by omega) _ _ (by omega) (by omega) hnew (by omega)]
      have hturn : heap_turn h (2 * path + m % 2) (slot a (m / 2)) = some (slot a m) := by
        unfold heap_turn
        rw [ht.read_slot (by omega) (by omega), place_of_mem (by omega) (by omega), Option.map_some,
          bit_low]
        unfold slot
        rw [if_neg (show ¬m ≤ 1 by omega)]
      rw [heap_walk, hturn, Option.bind_some, bit_rest]
    · obtain rfl : m = 1 := by omega
      rw [if_neg h2]
      rfl

omit [DecidableEq P] in
/-- The walk along the path of a place ends at the pointer to that place and remembers the one
before it. -/
theorem Tree.walk (ht : Tree h a n) {m : ℕ} (hm : 1 ≤ m) (hmn : m / 2 ≤ n)
    (hbound : m < UINT_SIZE) :
    heap_walk h (heap_path m 0 0).2 (heap_path m 0 0).1 .min .min =
      some (slot a (m / 2), slot a m) := by
  rw [ht.walk_path m 0 0 hm hmn (by omega) (by omega)]
  rfl

/-! ## The operations on the set of nodes -/

/-- The heap holds the nodes of `s`, the first one of them at the root. -/
def Holds (key : P → β) (h : Heap P) (s : Finset P) : Prop :=
  ∃ a, Tree h a s.card ∧ h.nelts = s.card ∧ Ordered key a s.card ∧ members a s.card = s

/-- No node stands at two places. -/
theorem Tree.card_members (ht : Tree h a n) : (members a n).card = n := by
  unfold members
  rw [Finset.card_image_of_injOn (by simpa using ht.inj), Nat.card_Icc]
  omega

/-- A tree in the order of the keys is a heap of its members. -/
theorem Tree.holds (ht : Tree h a n) (hn : h.nelts = n) (hordered : Ordered key a n) :
    Holds key h (members a n) := by
  have hcard := ht.card_members
  exact ⟨a, by rwa [hcard], by rwa [hcard], by rwa [hcard], by rw [hcard]⟩

section Walks

variable (hless : ∀ x y, less_than x y = decide (key x < key y))
include hless

/-- A settled node rises until it is not before its parent. -/
theorem heap_rise.spec : ∀ fuel (h : Heap P) (a : ℕ → P) (i : ℕ), Tree h a n → h.nelts = n →
    1 ≤ i → i ≤ n → i ≤ fuel → Loose key a n i → Settled key a n i →
    ∃ h', heap_rise less_than (a i) fuel h = some h' ∧ Holds key h' (members a n) := by
  intro fuel
  induction fuel with
  | zero => omega
  | succ fuel ih =>
    intro h a i ht hn h1 hi hfuel hloose hsettled
    rw [heap_rise, ht.parent i h1 hi]
    by_cases hroot : i / 2 = 0
    · rw [place_of_not_mem (by omega)]
      exact ⟨h, rfl, ht.holds hn (hloose.ordered hsettled fun h2 => by omega)⟩
    · rw [place_of_mem (by omega) (by omega)]
      dsimp only
      rw [hless]
      by_cases hlt : key (a i) < key (a (i / 2))
      · rw [if_pos (decide_eq_true hlt)]
        obtain ⟨hloose', hsettled'⟩ := hloose.rise (by omega) hi hlt
        obtain ⟨h', hrun, hholds⟩ := ih (heap_node_swap h (a (i / 2)) (a i)) (exchange a (i / 2) i)
          (i / 2) (ht.swap (by omega) hi) (by rw [swap_nelts, hn]) (by omega) (by omega) (by omega)
          hloose' hsettled'
        rw [exchange_left] at hrun
        rw [members_exchange (by omega) (by omega) h1 hi] at hholds
        exact ⟨h', hrun, hholds⟩
      · rw [if_neg (by simpa using hlt)]
        exact ⟨h, rfl, ht.holds hn (hloose.ordered hsettled fun _ => not_lt.mp hlt)⟩

omit [DecidableEq P] in
theorem pick_some (x y : P) :
    heap_pick less_than x (some y) = if key y < key x then y else x := by
  rw [heap_pick, hless]
  simp only [decide_eq_true_eq]

omit [DecidableEq P] in
/-- The choice is never worse than where it began. -/
theorem pick_le (x : P) (q : Option P) : key (heap_pick less_than x q) ≤ key x := by
  cases q with
  | none => exact le_rfl
  | some y =>
    rw [pick_some hless]
    by_cases hlt : key y < key x
    · rw [if_pos hlt]
      exact hlt.le
    · rw [if_neg hlt]

omit [DecidableEq P] in
theorem pick_le_of_mem {x y : P} {q : Option P} (hq : q = some y) :
    key (heap_pick less_than x q) ≤ key y := by
  subst hq
  rw [pick_some hless]
  by_cases hlt : key y < key x
  · rw [if_pos hlt]
  · rw [if_neg hlt]
    exact not_lt.mp hlt

omit [DecidableEq P] in
/-- Another node is chosen only where its key is smaller. -/
theorem pick_cases (x : P) (q : Option P) :
    heap_pick less_than x q = x ∨
      q = some (heap_pick less_than x q) ∧ key (heap_pick less_than x q) < key x := by
  cases q with
  | none => exact .inl rfl
  | some y =>
    rw [pick_some hless]
    by_cases hlt : key y < key x
    · rw [if_pos hlt]
      exact .inr ⟨rfl, hlt⟩
    · rw [if_neg hlt]
      exact .inl rfl

omit [DecidableEq P] in
theorem smallest_le (ht : Tree h a n) (hi : 1 ≤ i) (hin : i ≤ n) (hj : j ≤ n) (hhalf : j / 2 = i) :
    key (heap_smallest less_than h (a i)) ≤ key (a j) := by
  unfold heap_smallest
  have hplace : place a n j = some (a j) := place_of_mem (by omega) hj
  by_cases hodd : j % 2 = 1
  · apply pick_le_of_mem hless
    rw [ht.right i hi hin, show 2 * i + 1 = j by omega, hplace]
  · refine (pick_le hless _ _).trans (pick_le_of_mem hless ?_)
    rw [ht.left i hi hin, show 2 * i = j by omega, hplace]

omit [DecidableEq P] in
/-- The smallest is the node itself, or the first of its children. -/
theorem smallest_cases (ht : Tree h a n) (hi : 1 ≤ i) (hin : i ≤ n) :
    heap_smallest less_than h (a i) = a i ∨
      ∃ c, c ≤ n ∧ c / 2 = i ∧ heap_smallest less_than h (a i) = a c ∧ key (a c) < key (a i) := by
  have hchild : ∀ c y, 1 ≤ c → place a n c = some y → c ≤ n ∧ y = a c := by
    intro c y hc hplace
    by_cases hcn : c ≤ n
    · rw [place_of_mem hc hcn, Option.some.injEq] at hplace
      exact ⟨hcn, hplace.symm⟩
    · rw [place_of_not_mem (by omega)] at hplace
      cases hplace
  unfold heap_smallest
  rw [ht.left i hi hin, ht.right i hi hin]
  have hfirst := pick_le hless (a i) (place a n (2 * i))
  rcases pick_cases hless (heap_pick less_than (a i) (place a n (2 * i))) (place a n (2 * i + 1))
    with hright | ⟨hright, hlt⟩
  · rw [hright]
    rcases pick_cases hless (a i) (place a n (2 * i)) with hleft | ⟨hleft, hlt⟩
    · exact .inl hleft
    · right
      obtain ⟨hn, heq⟩ := hchild _ _ (by omega) hleft
      exact ⟨2 * i, hn, by omega, heq, heq ▸ hlt⟩
  · right
    obtain ⟨hn, heq⟩ := hchild _ _ (by omega) hright
    exact ⟨2 * i + 1, hn, by omega, heq, heq ▸ hlt.trans_le hfirst⟩

/-- A node sinks until none of its children is before it. -/
theorem heap_sink.spec : ∀ fuel (h : Heap P) (a : ℕ → P) (i : ℕ), Tree h a n → h.nelts = n →
    1 ≤ i → i ≤ n → n < fuel + i → Loose key a n i →
    ∃ h' b c, heap_sink less_than (a i) fuel h = some h' ∧ Tree h' b n ∧ h'.nelts = n ∧
      1 ≤ c ∧ c ≤ n ∧ b c = a i ∧ Loose key b n c ∧ Settled key b n c ∧
      members b n = members a n := by
  intro fuel
  induction fuel with
  | zero => omega
  | succ fuel ih =>
    intro h a i ht hn h1 hi hfuel hloose
    rw [heap_sink]
    have hle := fun j (hj : j ≤ n) (hhalf : j / 2 = i) => smallest_le hless ht h1 hi hj hhalf
    rcases smallest_cases hless ht h1 hi with hsame | ⟨c, hc, hhalf, hsmall, hlt⟩
    · rw [if_pos hsame]
      rw [hsame] at hle
      exact ⟨h, a, i, rfl, ht, hn, h1, hi, rfl, hloose, hle, rfl⟩
    · have hne : heap_smallest less_than h (a i) ≠ a i := by
        intro h
        rw [← hsmall, h] at hlt
        exact lt_irrefl _ hlt
      rw [if_neg hne, hsmall]
      rw [hsmall] at hle
      have htree := ht.swap (i := c) (by omega) hc
      rw [hhalf] at htree
      obtain ⟨h', b, d, hrun, hrest⟩ := ih (heap_node_swap h (a i) (a c)) (exchange a i c) c htree
        (by rw [swap_nelts, hn]) (by omega) hc (by omega) (hloose.sink h1 hc hhalf hlt hle)
      rw [exchange_right, members_exchange h1 hi (by omega) hc] at hrest
      rw [exchange_right] at hrun
      exact ⟨h', b, d, hrun, hrest⟩

end Walks

/-! ## Nodes come and go -/

omit [DecidableEq P] in
/-- A node put at the next place is seen at no other one. -/
theorem place_update_last {k : ℕ} (hk : k ≠ n + 1) :
    place (Function.update a (n + 1) x) (n + 1) k = place a n k := by
  unfold place
  by_cases hkn : 1 ≤ k ∧ k ≤ n
  · rw [if_pos hkn, if_pos ⟨hkn.1, by omega⟩, Function.update_of_ne hk]
  · rw [if_neg hkn, if_neg (by omega)]

omit [DecidableEq P] in
theorem place_update_self : place (Function.update a (n + 1) x) (n + 1) (n + 1) = some x := by
  rw [place_of_mem (by omega) le_rfl, Function.update_self]

/-- A write through a pointer changes the field that the pointer leads to and no other. -/
theorem write_left (y : Option P) (s : Slot P) (z : P) :
    (h.write y s).left z = if s = .left z then y else h.left z := by
  cases s with
  | min => rfl
  | right u => rfl
  | left u =>
    simp only [Heap.write, Heap.set_left, Function.update_apply, Slot.left.injEq]
    simp only [eq_comm]

theorem write_right (y : Option P) (s : Slot P) (z : P) :
    (h.write y s).right z = if s = .right z then y else h.right z := by
  cases s with
  | min => rfl
  | left u => rfl
  | right u =>
    simp only [Heap.write, Heap.set_right, Function.update_apply, Slot.right.injEq]
    simp only [eq_comm]

theorem write_min (y : Option P) (s : Slot P) :
    (h.write y s).min = if s = .min then y else h.min := by
  cases s <;> rfl

@[simp] theorem write_parent (y : Option P) (s : Slot P) : (h.write y s).parent = h.parent := by
  cases s <;> rfl

@[simp] theorem write_nelts (y : Option P) (s : Slot P) : (h.write y s).nelts = h.nelts := by
  cases s <;> rfl

omit [DecidableEq P] in
/-- Only the first place hangs on `min`. -/
theorem slot_eq_min {m : ℕ} (hm : 1 ≤ m) : slot a m = .min ↔ m = 1 := by
  unfold slot
  by_cases hone : m ≤ 1
  · rw [if_pos hone]
    exact iff_of_true rfl (by omega)
  · rw [if_neg hone]
    refine iff_of_false ?_ (by omega)
    split <;> (intro h; cases h)

omit [DecidableEq P] in
/-- A left pointer leads to one place alone. -/
theorem slot_eq_left {m k : ℕ} (hm : m / 2 ≤ n) (hinj : Set.InjOn a (Set.Icc 1 n)) (hk : 1 ≤ k)
    (hkn : k ≤ n) : slot a m = .left (a k) ↔ m = 2 * k := by
  unfold slot
  by_cases hone : m ≤ 1
  · rw [if_pos hone]
    exact iff_of_false (by intro h; cases h) (by omega)
  · rw [if_neg hone]
    by_cases hodd : m % 2 = 1
    · rw [if_pos hodd]
      exact iff_of_false (by intro h; cases h) (by omega)
    · rw [if_neg hodd, Slot.left.injEq, hinj.eq_iff ⟨by omega, hm⟩ ⟨hk, hkn⟩]
      omega

omit [DecidableEq P] in
/-- A right pointer leads to one place alone. -/
theorem slot_eq_right {m k : ℕ} (hm : m / 2 ≤ n) (hinj : Set.InjOn a (Set.Icc 1 n)) (hk : 1 ≤ k)
    (hkn : k ≤ n) : slot a m = .right (a k) ↔ m = 2 * k + 1 := by
  unfold slot
  by_cases hone : m ≤ 1
  · rw [if_pos hone]
    exact iff_of_false (by intro h; cases h) (by omega)
  · rw [if_neg hone]
    by_cases hodd : m % 2 = 1
    · rw [if_pos hodd, Slot.right.injEq, hinj.eq_iff ⟨by omega, hm⟩ ⟨hk, hkn⟩]
      omega
    · rw [if_neg hodd]
      exact iff_of_false (by intro h; cases h) (by omega)

/-- The pointer to the place that is to be filled is in no new node. -/
theorem slot_ne_of_not_mem (hx : x ∉ members a n) :
    slot a (n + 1) ≠ .left x ∧ slot a (n + 1) ≠ .right x := by
  have hnew : 2 ≤ n + 1 → a ((n + 1) / 2) ≠ x :=
    fun h2 h => hx (mem_members.mpr ⟨(n + 1) / 2, by omega, by omega, h⟩)
  unfold slot
  by_cases hone : n + 1 ≤ 1
  · rw [if_pos hone]
    refine ⟨?_, ?_⟩ <;> (intro h; cases h)
  · have hne := hnew (by omega)
    rw [if_neg hone]
    by_cases hodd : (n + 1) % 2 = 1
    · rw [if_pos hodd]
      refine ⟨?_, fun h => hne (Slot.right.inj h)⟩
      intro h
      cases h
    · rw [if_neg hodd]
      refine ⟨fun h => hne (Slot.left.inj h), ?_⟩
      intro h
      cases h

/-- A new node whose pointers are set is put in the slot of the first free place. -/
theorem Tree.grow (ht : Tree h a n) (hx : x ∉ members a n) (hleft : h.left x = none)
    (hright : h.right x = none) (hparent : h.parent x = place a n ((n + 1) / 2)) :
    Tree (h.write (some x) (slot a (n + 1))) (Function.update a (n + 1) x) (n + 1) := by
  have hslot := slot_ne_of_not_mem hx
  refine ⟨grow_injOn ht.inj hx, ?_, ?_, ?_, ?_⟩
  · rw [write_min]
    by_cases hone : n + 1 = 1
    · rw [if_pos ((slot_eq_min (by omega)).mpr hone)]
      obtain rfl : n = 0 := by omega
      exact place_update_self.symm
    · rw [if_neg (fun h => hone ((slot_eq_min (by omega)).mp h)), place_update_last (by omega),
        ht.min]
  · intro k hk hkn
    rw [write_left]
    by_cases hlast : k = n + 1
    · rw [hlast, Function.update_self, if_neg hslot.1, hleft, place_of_not_mem (by omega)]
    · rw [Function.update_of_ne hlast]
      by_cases hover : n + 1 = 2 * k
      · rw [if_pos ((slot_eq_left (by omega) ht.inj hk (by omega)).mpr hover), ← hover,
          place_update_self]
      · rw [if_neg (fun h => hover ((slot_eq_left (by omega) ht.inj hk (by omega)).mp h)),
          ht.left k hk (by omega), place_update_last (by omega)]
  · intro k hk hkn
    rw [write_right]
    by_cases hlast : k = n + 1
    · rw [hlast, Function.update_self, if_neg hslot.2, hright, place_of_not_mem (by omega)]
    · rw [Function.update_of_ne hlast]
      by_cases hover : n + 1 = 2 * k + 1
      · rw [if_pos ((slot_eq_right (by omega) ht.inj hk (by omega)).mpr hover), ← hover,
          place_update_self]
      · rw [if_neg (fun h => hover ((slot_eq_right (by omega) ht.inj hk (by omega)).mp h)),
          ht.right k hk (by omega), place_update_last (by omega)]
  · intro k hk hkn
    rw [write_parent, place_update_last (by omega)]
    by_cases hlast : k = n + 1
    · rw [hlast, Function.update_self, hparent]
    · rw [Function.update_of_ne hlast, ht.parent k hk (by omega)]

omit [DecidableEq P] in
/-- The last place is beyond the tree that has one node less. -/
theorem place_last {k : ℕ} (hk : k ≠ n + 1) : place a (n + 1) k = place a n k := by
  unfold place
  by_cases hkn : 1 ≤ k ∧ k ≤ n
  · rw [if_pos hkn, if_pos ⟨hkn.1, by omega⟩]
  · rw [if_neg hkn, if_neg (by omega)]

/-- The last node is unlinked. -/
theorem Tree.unlink (ht : Tree h a (n + 1)) : Tree (h.write none (slot a (n + 1))) a n := by
  have hinj : Set.InjOn a (Set.Icc 1 n) := ht.inj.mono (Set.Icc_subset_Icc_right (by omega))
  refine ⟨hinj, ?_, ?_, ?_, ?_⟩
  · rw [write_min]
    by_cases hone : n + 1 = 1
    · rw [if_pos ((slot_eq_min (by omega)).mpr hone), place_of_not_mem (by omega)]
    · rw [if_neg (fun h => hone ((slot_eq_min (by omega)).mp h)), ht.min, place_last (by omega)]
  · intro k hk hkn
    rw [write_left]
    by_cases hover : n + 1 = 2 * k
    · rw [if_pos ((slot_eq_left (by omega) hinj hk hkn).mpr hover), place_of_not_mem (by omega)]
    · rw [if_neg (fun h => hover ((slot_eq_left (by omega) hinj hk hkn).mp h)),
        ht.left k hk (by omega), place_last (by omega)]
  · intro k hk hkn
    rw [write_right]
    by_cases hover : n + 1 = 2 * k + 1
    · rw [if_pos ((slot_eq_right (by omega) hinj hk hkn).mpr hover), place_of_not_mem (by omega)]
    · rw [if_neg (fun h => hover ((slot_eq_right (by omega) hinj hk hkn).mp h)),
        ht.right k hk (by omega), place_last (by omega)]
  · intro k hk hkn
    rw [write_parent, ht.parent k hk (by omega), place_last (by omega)]

omit [DecidableEq P] in
theorem place_update_of_ne {k : ℕ} (hk : k ≠ i) :
    place (Function.update a i x) n k = place a n k := by
  unfold place
  rw [Function.update_of_ne hk]

/-- A node outside the tree is at no place. -/
theorem place_ne_of_not_mem (hx : x ∉ members a n) (k : ℕ) : place a n k ≠ some x := by
  intro h
  by_cases hk : 1 ≤ k ∧ k ≤ n
  · rw [place_of_mem hk.1 hk.2, Option.some.injEq] at h
    exact hx (mem_members.mpr ⟨k, hk.1, hk.2, h⟩)
  · rw [place_of_not_mem hk] at h
    cases h

/-- A node outside the tree takes the place of one in it. -/
theorem Tree.replace (ht : Tree h a n) (hi : 1 ≤ i) (hin : i ≤ n) (hx : x ∉ members a n)
    (hinj : Set.InjOn (Function.update a i x) (Set.Icc 1 n)) :
    Tree (heap_replace h (a i) x) (Function.update a i x) n := by
  have hne : ∀ k, 1 ≤ k → k ≤ n → a k ≠ x :=
    fun k hk hkn h => hx (mem_members.mpr ⟨k, hk, hkn, h⟩)
  have hout := place_ne_of_not_mem hx
  have heq : ∀ k j, 1 ≤ k → k ≤ n → (place a n j = some (a k) ↔ j = k) :=
    fun k j hk hkn => place_eq_some hk hkn ht.inj
  unfold heap_replace
  dsimp only
  set g := ((h.set_left x (h.left (a i))).set_right x (h.right (a i))).set_parent x
    (h.parent (a i)) with hg
  have hleft : ∀ z, g.left z = if z = x then place a n (2 * i) else h.left z := by
    intro z
    rw [← ht.left i hi hin]
    exact Function.update_apply ..
  have hright : ∀ z, g.right z = if z = x then place a n (2 * i + 1) else h.right z := by
    intro z
    rw [← ht.right i hi hin]
    exact Function.update_apply ..
  have hparent : ∀ z, g.parent z = if z = x then place a n (i / 2) else h.parent z := by
    intro z
    rw [← ht.parent i hi hin]
    exact Function.update_apply ..
  have hleftx : g.left x = place a n (2 * i) := by
    rw [hleft, if_pos rfl]
  have hrightx : g.right x = place a n (2 * i + 1) := by
    rw [hright, if_pos rfl]
  simp only [adopt_right, hleftx, hrightx]
  have hup : ((g.adopt (place a n (2 * i)) x).adopt (place a n (2 * i + 1)) x).parent (a i) =
      place a n (i / 2) := by
    simp only [adopt_parent, heq i _ hi hin]
    rw [if_neg (by omega), if_neg (by omega), hparent, if_neg (hne i hi hin), ht.parent i hi hin]
  rw [hup]
  refine ⟨hinj, ?_, ?_, ?_, ?_⟩
  · rw [relink_min]
    by_cases hroot : i = 1
    · rw [if_pos (place_of_not_mem (by omega)), ← hroot, place_of_mem hi hin, Function.update_self]
    · rw [if_neg (by rw [place_of_mem (by omega) (by omega)]; simp), place_update_of_ne (by omega)]
      simp only [adopt_min]
      exact ht.min
  · intro k hk hkn
    rw [relink_left]
    simp only [adopt_left]
    by_cases hki : k = i
    · rw [hki, Function.update_self, if_neg (fun h => hout _ h.1), hleftx,
        place_update_of_ne (by omega)]
    · simp only [Function.update_of_ne hki, heq k _ hk hkn]
      rw [hleft, if_neg (hne k hk hkn), ht.left k hk hkn]
      simp only [heq i _ hi hin]
      by_cases hover : 2 * k = i
      · rw [if_pos ⟨by omega, hover⟩, hover, place_of_mem hi hin, Function.update_self]
      · rw [if_neg (fun h => hover h.2), place_update_of_ne hover]
  · intro k hk hkn
    rw [relink_right]
    simp only [adopt_left, adopt_right]
    by_cases hki : k = i
    · rw [hki, Function.update_self, if_neg (fun h => hout _ h.1), hrightx,
        place_update_of_ne (by omega)]
    · simp only [Function.update_of_ne hki, heq k _ hk hkn]
      rw [hleft, if_neg (hne k hk hkn), hright, if_neg (hne k hk hkn), ht.left k hk hkn,
        ht.right k hk hkn]
      simp only [ne_eq, heq i _ hi hin]
      by_cases hover : 2 * k + 1 = i
      · rw [if_pos ⟨by omega, by omega⟩, hover, place_of_mem hi hin, Function.update_self]
      · rw [if_neg (by omega), place_update_of_ne hover]
  · intro k hk hkn
    rw [relink_parent]
    simp only [adopt_parent]
    by_cases hki : k = i
    · rw [hki, Function.update_self, if_neg (hout _), if_neg (hout _), hparent, if_pos rfl,
        place_update_of_ne (by omega)]
    · simp only [Function.update_of_ne hki, heq k _ hk hkn]
      rw [hparent, if_neg (hne k hk hkn), ht.parent k hk hkn]
      by_cases hright' : 2 * i + 1 = k
      · rw [if_pos hright', show k / 2 = i by omega, place_of_mem hi hin, Function.update_self]
      · by_cases hleft' : 2 * i = k
        · rw [if_neg hright', if_pos hleft', show k / 2 = i by omega, place_of_mem hi hin,
            Function.update_self]
        · rw [if_neg hright', if_neg hleft', place_update_of_ne (by omega)]

theorem replace_nelts {node child : P} : (heap_replace h node child).nelts = h.nelts := by
  unfold heap_replace
  simp only [relink_nelts, adopt_nelts]
  rfl

omit [DecidableEq P] in
/-- What does not touch the pointers of the nodes keeps the tree. -/
theorem Tree.keeps (ht : Tree h a n) (hmin : h'.min = h.min)
    (hleft : ∀ i, 1 ≤ i → i ≤ n → h'.left (a i) = h.left (a i))
    (hright : ∀ i, 1 ≤ i → i ≤ n → h'.right (a i) = h.right (a i))
    (hparent : ∀ i, 1 ≤ i → i ≤ n → h'.parent (a i) = h.parent (a i)) : Tree h' a n where
  inj := ht.inj
  min := by rw [hmin, ht.min]
  left i hi hin := by rw [hleft i hi hin, ht.left i hi hin]
  right i hi hin := by rw [hright i hi hin, ht.right i hi hin]
  parent i hi hin := by rw [hparent i hi hin, ht.parent i hi hin]

/-- A new node may be given any pointers. -/
theorem Tree.set_new (ht : Tree h a n) (hx : x ∉ members a n) (p q r : Option P) :
    Tree (((h.set_left x p).set_right x q).set_parent x r) a n := by
  have hne : ∀ k, 1 ≤ k → k ≤ n → a k ≠ x :=
    fun k hk hkn h => hx (mem_members.mpr ⟨k, hk, hkn, h⟩)
  refine ht.keeps rfl ?_ ?_ ?_
  · exact fun i hi hin => Function.update_of_ne (hne i hi hin) _ _
  · exact fun i hi hin => Function.update_of_ne (hne i hi hin) _ _
  · exact fun i hi hin => Function.update_of_ne (hne i hi hin) _ _

omit [DecidableEq P] in
theorem Tree.set_nelts (ht : Tree h a n) (m : ℕ) : Tree { h with nelts := m } a n :=
  ht.keeps rfl (fun _ _ _ => rfl) (fun _ _ _ => rfl) (fun _ _ _ => rfl)

omit [DecidableEq P] in
/-- The parent of the next place, as heap_insert reads it. -/
theorem Tree.read_parent (ht : Tree h a n) :
    h.read (slot a ((n + 1) / 2)) = place a n ((n + 1) / 2) := by
  by_cases hn : n = 0
  · subst hn
    exact ht.min.trans (place_of_not_mem (by omega))
  · exact ht.read_slot (by omega) (by omega)

theorem set_parent_twice (q r : Option P) :
    (h.set_parent x q).set_parent x r = h.set_parent x r := by
  simp only [Heap.set_parent, Function.update_idem]

/-- An empty heap holds the empty set. -/
theorem Holds.init [Inhabited P] : Holds key (heap_init : Heap P) ∅ := by
  refine ⟨fun _ => default, ⟨?_, rfl, ?_, ?_, ?_⟩, rfl, ?_, rfl⟩
  · intro i hi
    exact absurd (hi.1.trans hi.2) (by simp)
  all_goals
    simp only [Finset.card_empty]
    intro i hi hin
    omega

/-- The array behind a heap that holds a set. -/
theorem Holds.tree (hh : Holds key h s) :
    ∃ a n, Tree h a n ∧ h.nelts = n ∧ n = s.card ∧ Ordered key a n ∧ members a n = s := by
  obtain ⟨a, ht, hn, hordered, hs⟩ := hh
  exact ⟨a, s.card, ht, hn, rfl, hordered, hs⟩

/-- An insertion adds the node, for every heap with room for one more. -/
theorem heap_insert.spec (hless : ∀ x y, less_than x y = decide (key x < key y))
    (hh : Holds key h s) (hx : x ∉ s) (hroom : s.card + 1 < UINT_SIZE) :
    ∃ h', heap_insert less_than h x = some h' ∧ Holds key h' (insert x s) := by
  obtain ⟨a, n, ht, hn, hcard, hordered, hs⟩ := hh.tree
  rw [← hs] at hx
  rw [← hcard] at hroom
  have hclear := ht.set_new hx none none none
  have hwalk := hclear.walk (m := n + 1) (by omega) (by omega) hroom
  have hset := ht.set_new hx none none (place a n ((n + 1) / 2))
  have hgrow := hset.grow hx (Function.update_self ..) (Function.update_self ..)
    (Function.update_self ..)
  have hcount : (1 + h.nelts) % UINT_SIZE = n + 1 := by
    rw [hn, Nat.add_comm, Nat.mod_eq_of_lt hroom]
  have hcount' : (h.nelts + 1) % UINT_SIZE = n + 1 := by
    rw [hn, Nat.mod_eq_of_lt hroom]
  obtain ⟨hloose, hsettled⟩ := hordered.grow x
  obtain ⟨h', hrun, hholds⟩ := heap_rise.spec hless (n + 1) _ _ (n + 1)
    (hgrow.set_nelts (n + 1)) rfl (by omega) le_rfl le_rfl hloose hsettled
  refine ⟨h', ?_, ?_⟩
  · rw [Function.update_self] at hrun
    unfold heap_insert
    dsimp only
    have hnelts : (((h.set_left x none).set_right x none).set_parent x none).nelts = h.nelts := rfl
    rw [hnelts, hcount, hwalk]
    simp only [Option.bind_eq_bind, Option.bind_some, hclear.read_parent, set_parent_twice,
      write_nelts]
    have hnelts' : (((h.set_left x none).set_right x none).set_parent x
      (place a n ((n + 1) / 2))).nelts = h.nelts := rfl
    rw [hnelts', hcount']
    exact hrun
  · rw [members_grow, hs] at hholds
    exact hholds

/-- A removal takes out the node, wherever in the tree it stands. -/
theorem heap_remove.spec (hless : ∀ x y, less_than x y = decide (key x < key y))
    (hh : Holds key h s) (hx : x ∈ s) (hroom : s.card < UINT_SIZE) :
    ∃ h', heap_remove less_than h x = some h' ∧ Holds key h' (s.erase x) := by
  obtain ⟨a, n, ht, hn, hcard, hordered, hs⟩ := hh.tree
  rw [← hcard] at hroom
  rw [← hs] at hx ⊢
  obtain ⟨i, hi, hin, rfl⟩ := mem_members.mp hx
  obtain ⟨m, rfl⟩ : ∃ m, n = m + 1 := ⟨n - 1, by omega⟩
  have hwalk : heap_walk h (heap_path h.nelts 0 0).2 (heap_path h.nelts 0 0).1 .min .min =
      some (slot a ((m + 1) / 2), slot a (m + 1)) := by
    rw [hn]
    exact ht.walk (by omega) (by omega) hroom
  have hread : ({ h with nelts := h.nelts - 1 } : Heap P).read (slot a (m + 1)) =
    some (a (m + 1)) := by
    rw [(ht.set_nelts _).read_slot (by omega) (by omega), place_of_mem (by omega) le_rfl]
  have hunlink := (ht.set_nelts (h.nelts - 1)).unlink
  have hlast : a (m + 1) ∉ members a m := by
    rw [members_last ht.inj]
    exact Finset.notMem_erase _ _
  have hrun : heap_remove less_than h (a i) =
      let g := ({ h with nelts := h.nelts - 1 } : Heap P).write none (slot a (m + 1))
      if a (m + 1) = a i then
        if g.min = some (a (m + 1)) then some { g with min := none } else some g
      else (heap_sink less_than (a (m + 1)) (heap_replace g (a i) (a (m + 1))).nelts
        (heap_replace g (a i) (a (m + 1)))).bind fun h =>
          heap_rise less_than (a (m + 1)) h.nelts h := by
    unfold heap_remove
    rw [if_neg (by omega)]
    dsimp only
    rw [hwalk]
    simp only [Option.bind_eq_bind, Option.bind_some, hread]
  have hnelts : (({ h with nelts := h.nelts - 1 } : Heap P).write none (slot a (m + 1))).nelts =
    m := by
    rw [write_nelts, hn]
    rfl
  rw [hrun]
  dsimp only
  set g := ({ h with nelts := h.nelts - 1 } : Heap P).write none (slot a (m + 1)) with hg
  by_cases hnode : a (m + 1) = a i
  · have hmin : ¬g.min = some (a (m + 1)) := by
      rw [hunlink.min]
      exact place_ne_of_not_mem hlast 1
    rw [if_pos hnode, if_neg hmin, ← hnode, ← members_last ht.inj]
    exact ⟨g, rfl, hunlink.holds hnelts (hordered.shrink (by omega))⟩
  · have him : i ≤ m := by
      by_contra hgt
      obtain rfl : i = m + 1 := by omega
      exact hnode rfl
    have htree := hunlink.replace hi him hlast (replace_injOn ht.inj)
    have hcount : (heap_replace g (a i) (a (m + 1))).nelts = m := by
      rw [replace_nelts, hnelts]
    obtain ⟨g', b, c, hsink, htree', hcount', hc, hcm, hbc, hloose, hsettled, hmembers⟩ :=
      heap_sink.spec hless m _ _ i htree hcount hi him (by omega)
        ((hordered.shrink (Nat.le_succ m)).replace (i := i) (a (m + 1)))
    rw [Function.update_self] at hsink hbc
    obtain ⟨h', hrise, hholds⟩ :=
      heap_rise.spec hless m g' b c htree' hcount' hc hcm hcm hloose hsettled
    rw [hbc] at hrise
    rw [hmembers, members_replace ht.inj hi him] at hholds
    rw [if_neg hnode, hcount, hsink, Option.bind_some, hcount']
    exact ⟨h', hrise, hholds⟩

/-- The root is the first node, and there is none only when the heap is empty. -/
theorem heap_min.spec (hh : Holds key h s) :
    (heap_min h = none ↔ s = ∅) ∧ ∀ x, heap_min h = some x → x ∈ s ∧ ∀ y ∈ s, key x ≤ key y := by
  obtain ⟨a, n, ht, hn, hcard, hordered, hs⟩ := hh.tree
  have hmin : heap_min h = place a n 1 := ht.min
  rw [hmin]
  by_cases hempty : n = 0
  · rw [place_of_not_mem (by omega)]
    rw [hcard, Finset.card_eq_zero] at hempty
    refine ⟨iff_of_true rfl hempty, ?_⟩
    intro x h
    cases h
  · rw [place_of_mem le_rfl (by omega)]
    have hmem : a 1 ∈ s := by
      rw [← hs]
      exact mem_members.mpr ⟨1, le_rfl, by omega, rfl⟩
    refine ⟨iff_of_false (by simp) ?_, ?_⟩
    · rintro rfl
      exact absurd hmem (Finset.notMem_empty _)
    · intro x hx
      rw [Option.some.injEq] at hx
      subst hx
      refine ⟨hmem, fun y hy => ?_⟩
      rw [← hs] at hy
      obtain ⟨i, hi, hin, rfl⟩ := mem_members.mp hy
      exact hordered.first_le i hi hin

/-- Only the keys of the nodes in the heap matter. -/
theorem Holds.congr {key' : P → β} (hh : Holds key h s) (hkey : ∀ x ∈ s, key' x = key x) :
    Holds key' h s := by
  obtain ⟨a, ht, hn, hordered, hs⟩ := hh
  refine ⟨a, ht, hn, hordered.congr fun i hi hin => hkey _ ?_, hs⟩
  rw [← hs]
  exact mem_members.mpr ⟨i, hi, hin, rfl⟩

end

/-! ## Any sequence of operations -/

/-- An operation on the heap. -/
inductive Op (P : Type) where
  | insert (x : P)
  | remove (x : P)

/-- One operation, none where a pointer that is NULL is followed. -/
def heap_step (less_than : P → P → Bool) (h : Heap P) : Op P → Option (Heap P)
  | .insert x => heap_insert less_than h x
  | .remove x => heap_remove less_than h x

/-- One operation after the other. -/
def heap_run (less_than : P → P → Bool) (h : Heap P) : List (Op P) → Option (Heap P)
  | [] => some h
  | op :: ops => (heap_step less_than h op).bind fun h => heap_run less_than h ops

/-- What the operation makes of the set of nodes. -/
def Op.on (s : Finset P) : Op P → Finset P
  | .insert x => Insert.insert x s
  | .remove x => s.erase x

/-- A node is inserted when it is not in the heap, and removed when it is. -/
def Op.May (s : Finset P) : Op P → Prop
  | .insert x => x ∉ s ∧ s.card + 1 < UINT_SIZE
  | .remove x => x ∈ s

/-- The set after all of them. -/
def nodes (s : Finset P) : List (Op P) → Finset P
  | [] => s
  | op :: ops => nodes (op.on s) ops

/-- No node is inserted twice, and none is removed that is not there. -/
def May (s : Finset P) : List (Op P) → Prop
  | [] => True
  | op :: ops => op.May s ∧ May (op.on s) ops

section

variable {β : Type} [LinearOrder β] {key : P → β} {less_than : P → P → Bool} {h : Heap P}
  {s : Finset P}

/-- An insertion or a removal, with what it does to the set. -/
theorem heap_step.spec (hless : ∀ x y, less_than x y = decide (key x < key y))
    (hh : Holds key h s) (hroom : s.card < UINT_SIZE) (op : Op P) (hmay : op.May s) :
    ∃ h', heap_step less_than h op = some h' ∧ Holds key h' (op.on s) ∧
      (op.on s).card < UINT_SIZE := by
  cases op with
  | insert x =>
    obtain ⟨h', hrun, hholds⟩ := heap_insert.spec hless hh hmay.1 hmay.2
    refine ⟨h', hrun, hholds, ?_⟩
    rw [Op.on, Finset.card_insert_of_notMem hmay.1]
    exact hmay.2
  | remove x =>
    obtain ⟨h', hrun, hholds⟩ := heap_remove.spec hless hh hmay hroom
    exact ⟨h', hrun, hholds, (Finset.card_erase_le).trans_lt hroom⟩

/-- Any sequence of operations that are allowed where they come. -/
theorem heap_run.spec (hless : ∀ x y, less_than x y = decide (key x < key y)) (ops : List (Op P)) :
    ∀ (h : Heap P) (s : Finset P), Holds key h s → s.card < UINT_SIZE → May s ops →
      ∃ h', heap_run less_than h ops = some h' ∧ Holds key h' (nodes s ops) := by
  induction ops with
  | nil => exact fun h s hh _ _ => ⟨h, rfl, hh⟩
  | cons op ops ih =>
    intro h s hh hroom hmay
    obtain ⟨h₁, hstep, hh₁, hroom₁⟩ := heap_step.spec hless hh hroom op hmay.1
    obtain ⟨h', hrun, hh'⟩ := ih h₁ (op.on s) hh₁ hroom₁ hmay.2
    refine ⟨h', ?_, hh'⟩
    rw [heap_run, hstep, Option.bind_some]
    exact hrun

/-- Whatever is inserted and removed, no NULL is followed, every walk ends, the nodes are those
of the set, and the root is the first of them. -/
theorem heap_is_the_set [Inhabited P] (hless : ∀ x y, less_than x y = decide (key x < key y))
    (ops : List (Op P)) (hmay : May ∅ ops) :
    ∃ h, heap_run less_than heap_init ops = some h ∧ Holds key h (nodes ∅ ops) ∧
      (heap_min h = none ↔ nodes ∅ ops = ∅) ∧
      ∀ x, heap_min h = some x → x ∈ nodes ∅ ops ∧ ∀ y ∈ nodes ∅ ops, key x ≤ key y := by
  obtain ⟨h, hrun, hh⟩ := heap_run.spec hless ops heap_init ∅ Holds.init (by simp [UINT_SIZE]) hmay
  exact ⟨h, hrun, hh, heap_min.spec hh⟩

theorem heap_is_the_set_three :
    ∃ h, heap_run (fun x y => decide (x < y)) heap_init [.insert 3, .insert 1, .remove 3] = some h ∧
      Holds id h (nodes ∅ [.insert 3, .insert 1, .remove 3]) ∧
      (heap_min h = none ↔ nodes ∅ [.insert 3, .insert 1, .remove 3] = ∅) ∧
      ∀ x, heap_min h = some x → x ∈ nodes ∅ [.insert 3, .insert 1, .remove 3] ∧
        ∀ y ∈ nodes ∅ [.insert 3, .insert 1, .remove 3], id x ≤ id y :=
  heap_is_the_set (P := ℕ) (fun _ _ => rfl) _ (by simp [May, Op.May, Op.on, UINT_SIZE])

end

end pyuv.timerheap
