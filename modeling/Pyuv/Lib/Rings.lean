-- Circular doubly linked lists that go through nodes of any type. A ring is a head
-- with the nodes after it. The operations write the links of single nodes, and a
-- family of rings over one memory says what that does to the lists as a whole.
import Mathlib.Data.List.Chain
import Mathlib.Data.Set.Insert
import Mathlib.Data.Set.Operations

namespace rings

/-- The two links of every node. -/
structure Mem (N : Type*) where
  next : N → N
  prev : N → N

variable {N : Type*} [DecidableEq N]

/-! ## The operations -/

/-- The pointer to the next node is written. -/
def Mem.set_next (m : Mem N) (x y : N) : Mem N := { m with next := Function.update m.next x y }

/-- The pointer to the previous node is written. -/
def Mem.set_prev (m : Mem N) (x y : N) : Mem N := { m with prev := Function.update m.prev x y }

/-- QUEUE_EMPTY -/
def empty (h : N) (m : Mem N) : Bool := decide (m.next h = h)

/-- QUEUE_INIT -/
def init (q : N) (m : Mem N) : Mem N := (m.set_next q q).set_prev q q

/-- QUEUE_REMOVE -/
def remove (q : N) (m : Mem N) : Mem N :=
  let m := m.set_next (m.prev q) (m.next q)
  m.set_prev (m.next q) (m.prev q)

/-- QUEUE_INSERT_TAIL -/
def insert_tail (h q : N) (m : Mem N) : Mem N :=
  let m := m.set_next q h
  let m := m.set_prev q (m.prev h)
  let m := m.set_next (m.prev q) q
  m.set_prev h q

/-- QUEUE_INSERT_HEAD -/
def insert_head (h q : N) (m : Mem N) : Mem N :=
  let m := m.set_next q (m.next h)
  let m := m.set_prev q h
  let m := m.set_prev (m.next q) q
  m.set_next h q

/-- The nodes from `q` to the end of the ring of `h` go to `n`. -/
def split (h q n : N) (m : Mem N) : Mem N :=
  let m := m.set_prev n (m.prev h)
  let m := m.set_next (m.prev n) n
  let m := m.set_next n q
  let m := m.set_prev h (m.prev q)
  let m := m.set_next (m.prev h) h
  m.set_prev q n

/-- All nodes of the ring of `h` go to `n`. -/
def move (h n : N) (m : Mem N) : Mem N :=
  if empty h m then init n m else split h (m.next h) n m

/-- Where the pointers forward lead after an item was taken out. -/
theorem remove_next (q a : N) (m : Mem N) :
    (remove q m).next a = if a = m.prev q then m.next q else m.next a := by
  simp [remove, Mem.set_next, Mem.set_prev, Function.update_apply]

theorem remove_prev (q a : N) (m : Mem N) :
    (remove q m).prev a = if a = m.next q then m.prev q else m.prev a := by
  by_cases hq : q = m.prev q <;>
    simp [remove, Mem.set_next, Mem.set_prev, Function.update_apply]

/-- Only the item that was last points elsewhere. -/
theorem insert_tail_next (h q a : N) (m : Mem N) :
    (insert_tail h q m).next a = if a = m.prev h then q else if a = q then h else m.next a := by
  simp [insert_tail, Mem.set_next, Mem.set_prev, Function.update_apply]

theorem insert_tail_prev (h q a : N) (m : Mem N) :
    (insert_tail h q m).prev a = if a = h then q else if a = q then m.prev h else m.prev a := by
  simp [insert_tail, Mem.set_next, Mem.set_prev, Function.update_apply]

theorem insert_head_next (h q a : N) (m : Mem N) :
    (insert_head h q m).next a = if a = h then q else if a = q then m.next h else m.next a := by
  simp [insert_head, Mem.set_next, Mem.set_prev, Function.update_apply]

/-- Only the item that was first points back elsewhere. -/
theorem insert_head_prev (h q a : N) (m : Mem N) :
    (insert_head h q m).prev a = if a = m.next h then q else if a = q then h else m.prev a := by
  simp [insert_head, Mem.set_next, Mem.set_prev, Function.update_apply]

section

variable {m : Mem N} {h q n : N} (hq : m.prev q = h) (hn : n ≠ q)

include hq hn

/-- The head of the ring ends up alone, and its first item behind the new head. -/
theorem split_next (a : N) :
    (split h q n m).next a =
      if a = h then h else if a = n then q else if a = m.prev h then n else m.next a := by
  simp [split, Mem.set_next, Mem.set_prev, Function.update_apply, hq, Ne.symm hn]

theorem split_prev (a : N) :
    (split h q n m).prev a =
      if a = q then n else if a = h then h else if a = n then m.prev h else m.prev a := by
  simp [split, Mem.set_next, Mem.set_prev, Function.update_apply, hq, Ne.symm hn]

end

/-! ## One ring -/

/-- `b` comes after `a`, seen from both. -/
def Linked (m : Mem N) (a b : N) : Prop := m.next a = b ∧ m.prev b = a

/-- The links lead from `h` through `qs` back to `h`. -/
def Ring (m : Mem N) (h : N) (qs : List N) : Prop := List.IsChain (Linked m) ((h :: qs) ++ [h])

section

variable {m m' : Mem N} {h q n x : N} {qs : List N}

omit [DecidableEq N]

/-- A chain needs `next` of all its nodes but the last, and `prev` of all but the first. -/
theorem chain_keeps {l : List N} (hl : List.IsChain (Linked m) l)
    (hnext : ∀ a ∈ l.dropLast, m'.next a = m.next a)
    (hprev : ∀ b ∈ l.tail, m'.prev b = m.prev b) : List.IsChain (Linked m') l := by
  induction l with
  | nil => exact .nil
  | cons a l ih =>
    cases l with
    | nil => exact .singleton a
    | cons b l =>
      rw [List.isChain_cons_cons] at hl ⊢
      obtain ⟨⟨hab, hba⟩, hrest⟩ := hl
      have ha : m'.next a = m.next a := hnext a (by simp)
      have hb : m'.prev b = m.prev b := hprev b (by simp)
      refine ⟨⟨ha.trans hab, hb.trans hba⟩, ih hrest ?_ ?_⟩
      · intro y hy
        exact hnext y (by simpa using .inr hy)
      · intro y hy
        exact hprev y (by simpa using .inr hy)

/-- A ring is made of its own pointers and no others. -/
theorem Ring.keeps (hr : Ring m h qs) (hnext : ∀ a ∈ h :: qs, m'.next a = m.next a)
    (hprev : ∀ a ∈ h :: qs, m'.prev a = m.prev a) : Ring m' h qs := by
  unfold Ring at hr ⊢
  refine chain_keeps hr ?_ ?_
  · rwa [List.dropLast_concat]
  · intro b hb
    refine hprev b ?_
    simp at hb ⊢
    tauto

/-- The links around a node of the chain. -/
theorem Ring.linked {a b : N} (hr : Ring m h qs) (pre post : List N)
    (hl : (h :: qs) ++ [h] = pre ++ a :: b :: post) : Linked m a b := by
  unfold Ring at hr
  rw [hl, List.isChain_append_cons_cons] at hr
  exact hr.2.1

theorem Ring.next_head {qs : List N} (hr : Ring m h (q :: qs)) : m.next h = q :=
  (hr.linked [] (qs ++ [h]) (by simp)).1

/-- An empty ring is a head that points at itself. -/
theorem ring_nil_iff : Ring m h [] ↔ m.next h = h ∧ m.prev h = h := by
  simp [Ring, Linked]

theorem exists_last (h : N) (qs : List N) : ∃ pre l, h :: qs = pre ++ [l] := by
  rcases List.eq_nil_or_concat' (h :: qs) with hnil | ⟨pre, l, hl⟩
  · simp at hnil
  · exact ⟨pre, l, hl⟩

/-- Writing `next` of the last node and `prev` of the first keeps the chain between them. -/
theorem chain_keeps_inside {pre : List N} {l : N} (hchain : List.IsChain (Linked m) (h :: qs))
    (hl : h :: qs = pre ++ [l]) (hnodup : (h :: qs).Nodup)
    (hnext : ∀ a ∈ h :: qs, a ≠ l → m'.next a = m.next a)
    (hprev : ∀ b ∈ h :: qs, b ≠ h → m'.prev b = m.prev b) :
    List.IsChain (Linked m') (h :: qs) := by
  refine chain_keeps hchain ?_ ?_
  · intro a ha
    refine hnext a ((List.dropLast_sublist _).subset ha) ?_
    rintro rfl
    rw [hl, List.dropLast_concat] at ha
    rw [hl] at hnodup
    simp [List.nodup_append] at hnodup
    exact hnodup.2 a ha rfl
  · intro b hb
    rw [List.tail_cons] at hb
    refine hprev b (List.mem_cons_of_mem _ hb) ?_
    rintro rfl
    exact (List.nodup_cons.mp hnodup).1 hb

/-- Before and after each node there are nodes of the ring. -/
theorem Ring.around (hr : Ring m h qs) (hx : x ∈ h :: qs) :
    m.next x ∈ h :: qs ∧ m.prev x ∈ h :: qs := by
  obtain ⟨pre, post, hsplit⟩ := List.append_of_mem hx
  have hnext : ∃ b post', post ++ [h] = b :: post' ∧ b ∈ h :: qs := by
    cases post with
    | nil => exact ⟨h, [], by simp, by simp⟩
    | cons b post => exact ⟨b, post ++ [h], by simp, by simp [hsplit]⟩
  obtain ⟨b, post', hb, hbmem⟩ := hnext
  have hxb : Linked m x b := hr.linked pre post' (by simp [hsplit, hb])
  refine ⟨hxb.1 ▸ hbmem, ?_⟩
  rcases List.eq_nil_or_concat' pre with rfl | ⟨pre', a, rfl⟩
  · -- `x` is the head, and the last node links back to it
    obtain ⟨rfl, -⟩ : h = x ∧ qs = post := by simpa using hsplit
    obtain ⟨pre, l, hl⟩ := exists_last h qs
    have hlast : Linked m l h := hr.linked pre [] (by simp [hl])
    rw [hlast.2, hl]
    simp
  · have hax : Linked m a x :=
      hr.linked pre' (post ++ [h]) (by simp [hsplit])
    rw [hax.2, hsplit]
    simp

/-- No item of a ring with different items points at itself. -/
theorem Ring.next_ne (hr : Ring m h qs) (hnodup : (h :: qs).Nodup) (hx : x ∈ qs) :
    m.next x ≠ x := by
  obtain ⟨pre, post, rfl⟩ := List.append_of_mem hx
  cases post with
  | nil =>
    have hxh : Linked m x h := hr.linked (h :: pre) [] (by simp)
    rw [hxh.1]
    rintro rfl
    simp at hnodup
  | cons b post =>
    have hxb : Linked m x b := hr.linked (h :: pre) (post ++ [h]) (by simp)
    rw [hxb.1]
    rintro rfl
    simp [List.nodup_append] at hnodup

end

section

variable {m : Mem N} {h q n : N} {qs a b : List N}

/-- QUEUE_INSERT_TAIL puts the item last. -/
theorem ring_insert_tail (hr : Ring m h qs) (hnodup : (h :: qs).Nodup) (hq : q ∉ h :: qs) :
    Ring (insert_tail h q m) h (qs ++ [q]) := by
  obtain ⟨pre, l, hl⟩ := exists_last h qs
  have hlh : Linked m l h := hr.linked pre [] (by simp [hl])
  have hne : ∀ x ∈ h :: qs, x ≠ q := fun x hx hxq => hq (hxq ▸ hx)
  have hqh : h ≠ q := hne h (by simp)
  have hql : l ≠ q := hne l (by simp [hl])
  have hinside : List.IsChain (Linked (insert_tail h q m)) (h :: qs) := by
    refine chain_keeps_inside hr.left_of_append hl hnodup ?_ ?_
    · intro x hx hxl
      simp [insert_tail_next, hlh.2, hxl, hne x hx]
    · intro x hx hxh
      simp [insert_tail_prev, hxh, hne x hx]
  have hlq : Linked (insert_tail h q m) l q := by
    simp [Linked, insert_tail_next, insert_tail_prev, hlh.2, Ne.symm hqh]
  have hqh' : Linked (insert_tail h q m) q h := by
    simp [Linked, insert_tail_next, insert_tail_prev, hlh.2, Ne.symm hql]
  have hsplit : h :: (qs ++ [q]) ++ [h] = pre ++ l :: q :: [h] := by
    have hcons : h :: (qs ++ [q]) = (h :: qs) ++ [q] := rfl
    rw [hcons, hl]
    simp
  unfold Ring
  rw [hsplit, List.isChain_append_cons_cons, ← hl]
  exact ⟨hinside, hlq, List.isChain_pair.mpr hqh'⟩

/-- The chain behind the head stays, its first node but one has a new one before it. -/
theorem ring_insert_head (hr : Ring m h qs) (hnodup : (h :: qs).Nodup) (hq : q ∉ h :: qs) :
    Ring (insert_head h q m) h (q :: qs) := by
  have hne : ∀ x ∈ h :: qs, x ≠ q := fun x hx hxq => hq (hxq ▸ hx)
  have hqh : q ≠ h := (hne h (by simp)).symm
  have hhq : Linked (insert_head h q m) h q := by
    refine ⟨by simp [insert_head_next], ?_⟩
    have hfirst : m.next h ∈ h :: qs := by
      cases qs with
      | nil => simp [(ring_nil_iff.mp hr).1]
      | cons f qs => simp [hr.next_head]
    rw [insert_head_prev, if_neg (hne _ hfirst).symm, if_pos rfl]
  unfold Ring
  cases qs with
  | nil =>
    have hloop := ring_nil_iff.mp hr
    have hback : Linked (insert_head h q m) q h := by
      refine ⟨?_, ?_⟩
      · rw [insert_head_next, if_neg hqh, if_pos rfl, hloop.1]
      · rw [insert_head_prev, if_pos hloop.1.symm]
    simpa using ⟨hhq, hback⟩
  | cons f qs =>
    have hf : m.next h = f := hr.next_head
    have hqf : Linked (insert_head h q m) q f := by
      refine ⟨?_, ?_⟩
      · rw [insert_head_next, if_neg hqh, if_pos rfl, hf]
      · rw [insert_head_prev, hf, if_pos rfl]
    have hrest : List.IsChain (Linked (insert_head h q m)) (f :: qs ++ [h]) := by
      have hchain : List.IsChain (Linked m) (f :: qs ++ [h]) := by
        unfold Ring at hr
        exact hr.tail
      refine chain_keeps hchain ?_ ?_
      · intro a ha
        rw [List.dropLast_concat] at ha
        have hah : a ≠ h := fun heq => (List.nodup_cons.mp hnodup).1 (heq ▸ ha)
        rw [insert_head_next, if_neg hah, if_neg (hne a (List.mem_cons_of_mem _ ha))]
      · intro b hb
        have hbf : b ≠ f := by
          rintro rfl
          simp only [List.nodup_cons, List.mem_cons, not_or] at hnodup
          simp only [List.cons_append, List.tail_cons, List.mem_append, List.mem_singleton] at hb
          rcases hb with hb | hb
          · exact hnodup.2.1 hb
          · exact hnodup.1.1 hb.symm
        have hbq : b ≠ q := by
          refine hne b ?_
          simp only [List.cons_append, List.tail_cons, List.mem_append, List.mem_singleton] at hb
          rcases hb with hb | rfl
          · simp [hb]
          · simp
        rw [insert_head_prev, hf, if_neg hbf, if_neg hbq]
    simp only [List.cons_append] at hrest ⊢
    rw [List.isChain_cons_cons, List.isChain_cons_cons]
    exact ⟨hhq, hqf, hrest⟩

/-- QUEUE_REMOVE takes out the item, wherever it is. -/
theorem ring_remove (hr : Ring m h (a ++ q :: b)) (hnodup : (h :: (a ++ q :: b)).Nodup) :
    Ring (remove q m) h (a ++ b) := by
  obtain ⟨pre, x, hx⟩ := exists_last h a
  obtain ⟨y, post, hy⟩ : ∃ y post, b ++ [h] = y :: post := by
    cases b with
    | nil => exact ⟨h, [], rfl⟩
    | cons y b => exact ⟨y, b ++ [h], rfl⟩
  have hwhole : h :: (a ++ q :: b) ++ [h] = pre ++ x :: q :: y :: post := by
    have hcons : h :: (a ++ q :: b) ++ [h] = (h :: a) ++ q :: (b ++ [h]) := by simp
    rw [hcons, hx, hy]
    simp
  have hxq : Linked m x q := hr.linked pre (y :: post) hwhole
  have hqy : Linked m q y := hr.linked (pre ++ [x]) post (by simp [hwhole])
  have hleft : List.IsChain (Linked m) (h :: a) := by
    unfold Ring at hr
    rw [hwhole, List.isChain_split, ← hx] at hr
    exact hr.1
  have hright : List.IsChain (Linked m) (y :: post) := by
    unfold Ring at hr
    rw [hwhole, List.isChain_append_cons_cons] at hr
    exact (List.isChain_cons_cons.mp hr.2.2).2
  have hha : (h :: a).Nodup := by
    have hsub : List.Sublist (h :: a) (h :: (a ++ q :: b)) := by simp
    exact hnodup.sublist hsub
  have hbh : (b ++ [h]).Nodup := by
    simp [List.nodup_append] at hnodup ⊢
    grind
  have hapart : ∀ c ∈ h :: a, c ∉ b := by
    simp [List.nodup_append] at hnodup
    grind
  have hleft' : List.IsChain (Linked (remove q m)) (h :: a) := by
    refine chain_keeps_inside hleft hx hha ?_ ?_
    · intro c _ hcx
      simp [remove_next, hxq.2, hcx]
    · intro c hc hch
      have hcy : c ≠ y := by
        rintro rfl
        have hmem : c ∈ b ++ [h] := by simp [hy]
        rcases List.mem_append.mp hmem with hcb | hch'
        · exact hapart c hc hcb
        · exact hch (List.mem_singleton.mp hch')
      simp [remove_prev, hqy.1, hcy]
  have hright' : List.IsChain (Linked (remove q m)) (y :: post) := by
    refine chain_keeps_inside hright hy.symm (hy ▸ hbh) ?_ ?_
    · intro c hc hch
      have hcb : c ∈ b := by
        rw [← hy, List.mem_append, List.mem_singleton] at hc
        exact hc.resolve_right hch
      have hcx : c ≠ x := by
        rintro rfl
        exact hapart c (by simp [hx]) hcb
      simp [remove_next, hxq.2, hcx]
    · intro c _ hcy
      simp [remove_prev, hqy.1, hcy]
  have hsplit : h :: (a ++ b) ++ [h] = pre ++ x :: y :: post := by
    have hcons : h :: (a ++ b) ++ [h] = (h :: a) ++ (b ++ [h]) := by simp
    rw [hcons, hx, hy]
    simp
  unfold Ring
  rw [hsplit, List.isChain_append_cons_cons, ← hx]
  refine ⟨hleft', ?_, hright'⟩
  simp [Linked, remove_next, remove_prev, hxq.2, hqy.1]

/-- QUEUE_INIT makes an empty ring. -/
theorem ring_init (q : N) (m : Mem N) : Ring (init q m) q [] := by
  simp [ring_nil_iff, init, Mem.set_next, Mem.set_prev]

/-- QUEUE_MOVE hands over all items and leaves an empty ring. -/
theorem ring_move (hr : Ring m h qs) (hnodup : (h :: qs).Nodup) (hn : n ∉ h :: qs) :
    Ring (move h n m) n qs ∧ Ring (move h n m) h [] := by
  have hne : ∀ x ∈ h :: qs, x ≠ n := fun x hx hxn => hn (hxn ▸ hx)
  have hnh : h ≠ n := hne h (by simp)
  cases qs with
  | nil =>
    have hself := ring_nil_iff.mp hr
    have hmove : move h n m = init n m := by simp [move, empty, hself.1]
    rw [hmove]
    refine ⟨ring_init n m, ?_⟩
    simp [ring_nil_iff, init, Mem.set_next, Mem.set_prev, hnh, hself]
  | cons q rest =>
    obtain ⟨hhqs, hqs⟩ := List.nodup_cons.mp hnodup
    have hneh : ∀ x ∈ q :: rest, x ≠ h := fun x hx hxh => hhqs (hxh ▸ hx)
    have hqh : q ≠ h := hneh q (by simp)
    have hnq : n ≠ q := Ne.symm (hne q (by simp))
    have hnext : m.next h = q := hr.next_head
    have hprev : m.prev q = h := (hr.linked [] (rest ++ [h]) (by simp)).2
    obtain ⟨pre, l, hl⟩ := exists_last q rest
    have hlh : Linked m l h := hr.linked (h :: pre) [] (by simp [hl])
    have hlmem : l ∈ q :: rest := by simp [hl]
    have hln : l ≠ n := hne l (List.mem_cons_of_mem _ hlmem)
    have hmove : move h n m = split h q n m := by simp [move, empty, hnext, hqh]
    rw [hmove]
    have hinside : List.IsChain (Linked (split h q n m)) (q :: rest) := by
      refine chain_keeps_inside (List.isChain_cons_cons.mp hr.left_of_append).2 hl hqs ?_ ?_
      · intro x hx hxl
        have hxn : x ≠ n := hne x (List.mem_cons_of_mem _ hx)
        simp [split_next hprev hnq, hlh.2, hneh x hx, hxn, hxl]
      · intro x hx hxq
        have hxn : x ≠ n := hne x (List.mem_cons_of_mem _ hx)
        simp [split_prev hprev hnq, hxq, hneh x hx, hxn]
    have hnq' : Linked (split h q n m) n q := by
      simp [Linked, split_next hprev hnq, split_prev hprev hnq, Ne.symm hnh]
    have hln' : Linked (split h q n m) l n := by
      simp [Linked, split_next hprev hnq, split_prev hprev hnq, hlh.2, hneh l hlmem, hln, hnq,
        Ne.symm hnh]
    have hrest : List.IsChain (Linked (split h q n m)) ((q :: rest) ++ [n]) := by
      have happ : (q :: rest) ++ [n] = pre ++ l :: n :: [] := by simp [hl]
      rw [happ, List.isChain_append_cons_cons, ← hl]
      exact ⟨hinside, hln', .singleton n⟩
    refine ⟨List.isChain_cons_cons.mpr ⟨hnq', hrest⟩, ?_⟩
    simp [ring_nil_iff, split_next hprev hnq, split_prev hprev hnq, Ne.symm hqh]

/-- Nodes that are not on the ring, and are not the one that is moved, keep their links. -/
def Keeps (m m' : Mem N) (x : N) : Prop := m'.next x = m.next x ∧ m'.prev x = m.prev x

theorem insert_tail_keeps {x : N} (hr : Ring m h qs) (hx : x ∉ h :: qs) (hxq : x ≠ q) :
    Keeps m (insert_tail h q m) x := by
  have hxh : x ≠ h := fun heq => hx (by simp [heq])
  have hxl : x ≠ m.prev h := fun heq => hx (heq ▸ (hr.around (by simp)).2)
  constructor
  · simp [insert_tail_next, hxl, hxq]
  · simp [insert_tail_prev, hxh, hxq]

theorem insert_head_keeps {x : N} (hr : Ring m h qs) (hx : x ∉ h :: qs) (hxq : x ≠ q) :
    Keeps m (insert_head h q m) x := by
  have hxh : x ≠ h := fun heq => hx (by simp [heq])
  have hxf : x ≠ m.next h := fun heq => hx (heq ▸ (hr.around (by simp)).1)
  constructor
  · simp [insert_head_next, hxh, hxq]
  · simp [insert_head_prev, hxf, hxq]

theorem remove_keeps {x : N} (hr : Ring m h qs) (hq : q ∈ h :: qs) (hx : x ∉ h :: qs) :
    Keeps m (remove q m) x := by
  obtain ⟨hnext, hprev⟩ := hr.around hq
  have hxp : x ≠ m.prev q := fun heq => hx (heq ▸ hprev)
  have hxn : x ≠ m.next q := fun heq => hx (heq ▸ hnext)
  constructor
  · simp [remove_next, hxp]
  · simp [remove_prev, hxn]

omit [DecidableEq N] in
theorem Keeps.trans {m' m'' : Mem N} {x : N} (h₁ : Keeps m m' x) (h₂ : Keeps m' m'' x) :
    Keeps m m'' x :=
  ⟨h₂.1.trans h₁.1, h₂.2.trans h₁.2⟩

theorem init_keeps {x : N} (hxq : x ≠ q) : Keeps m (init q m) x := by
  simp [Keeps, init, Mem.set_next, Mem.set_prev, hxq]

theorem move_keeps {x : N} (hr : Ring m h qs) (hnodup : (h :: qs).Nodup) (hn : n ∉ h :: qs)
    (hx : x ∉ h :: qs) (hxn : x ≠ n) : Keeps m (move h n m) x := by
  cases qs with
  | nil =>
    have hself := ring_nil_iff.mp hr
    have hmove : move h n m = init n m := by simp [move, empty, hself.1]
    rw [hmove]
    exact init_keeps hxn
  | cons q rest =>
    have hnext : m.next h = q := hr.next_head
    have hprev : m.prev q = h := (hr.linked [] (rest ++ [h]) (by simp)).2
    have hhq : h ≠ q := by
      rintro rfl
      simp at hnodup
    have hnq : n ≠ q := fun heq => hn (by simp [heq])
    have hmove : move h n m = split h q n m := by simp [move, empty, hnext, Ne.symm hhq]
    have hxh : x ≠ h := fun heq => hx (by simp [heq])
    have hxq : x ≠ q := fun heq => hx (by simp [heq])
    have hxl : x ≠ m.prev h := fun heq => hx (heq ▸ (hr.around (by simp)).2)
    rw [hmove]
    constructor
    · simp [split_next hprev hnq, hxh, hxn, hxl]
    · simp [split_prev hprev hnq, hxh, hxn, hxq]

end

/-! ## A family of rings -/

/-- The heads `H` have the rings `c`, and no node is twice on them. -/
structure Rings (m : Mem N) (H : Set N) (c : N → List N) : Prop where
  ring : ∀ h ∈ H, Ring m h (c h)
  nodup : ∀ h ∈ H, (h :: c h).Nodup
  apart : ∀ h ∈ H, ∀ k ∈ H, h ≠ k → ∀ x ∈ h :: c h, x ∉ k :: c k

/-- A node that is on no ring. -/
def Free (H : Set N) (c : N → List N) (x : N) : Prop := ∀ h ∈ H, x ∉ h :: c h

namespace Rings

variable {m m' : Mem N} {H : Set N} {c : N → List N} {h n q x : N}

omit [DecidableEq N] in
/-- Rings whose pointers are the same are the same rings. -/
theorem keeps (hr : Rings m H c) (hkeeps : ∀ h ∈ H, ∀ x ∈ h :: c h, Keeps m m' x) :
    Rings m' H c where
  ring h hh := (hr.ring h hh).keeps (fun x hx => (hkeeps h hh x hx).1)
    (fun x hx => (hkeeps h hh x hx).2)
  nodup := hr.nodup
  apart := hr.apart

/-- One ring is changed, and takes up free nodes only. -/
theorem change {qs : List N} (hr : Rings m H c) (hring : Ring m' h qs) (hnodup : (h :: qs).Nodup)
    (hqs : ∀ x ∈ qs, x ∈ c h ∨ Free H c x)
    (hkeeps : ∀ k ∈ H, k ≠ h → ∀ x ∈ k :: c k, Keeps m m' x) (hh : h ∈ H) :
    Rings m' H (Function.update c h qs) := by
  have hout : ∀ k ∈ H, k ≠ h → ∀ x ∈ h :: qs, x ∉ k :: c k := by
    intro k hk hkh x hx
    rcases List.mem_cons.mp hx with rfl | hx
    · exact hr.apart x hh k hk (Ne.symm hkh) x (by simp)
    · rcases hqs x hx with hold | hfree
      · exact hr.apart h hh k hk (Ne.symm hkh) x (List.mem_cons_of_mem _ hold)
      · exact hfree k hk
  refine ⟨fun k hk => ?_, fun k hk => ?_, fun k hk k' hk' hne x hx => ?_⟩
  · by_cases hkh : k = h
    · subst hkh
      simpa using hring
    · rw [Function.update_of_ne hkh]
      exact (hr.ring k hk).keeps (fun x hx => (hkeeps k hk hkh x hx).1)
        (fun x hx => (hkeeps k hk hkh x hx).2)
  · by_cases hkh : k = h
    · subst hkh
      simpa using hnodup
    · rw [Function.update_of_ne hkh]
      exact hr.nodup k hk
  · by_cases hkh : k = h
    · subst hkh
      rw [Function.update_self] at hx
      rw [Function.update_of_ne (Ne.symm hne)]
      exact hout k' hk' (Ne.symm hne) x hx
    · rw [Function.update_of_ne hkh] at hx
      by_cases hkh' : k' = h
      · subst hkh'
        rw [Function.update_self]
        exact fun hx' => hout k hk hkh x hx' hx
      · rw [Function.update_of_ne hkh']
        exact hr.apart k hk k' hk' hne x hx

/-- A new head, with a ring of free nodes. -/
theorem add {qs : List N} (hr : Rings m H c) (hring : Ring m n qs) (hnodup : (n :: qs).Nodup)
    (hfree : ∀ x ∈ n :: qs, Free H c x) : Rings m (insert n H) (Function.update c n qs) := by
  have hn : n ∉ H := fun hn => hfree n (by simp) n hn (by simp)
  have hold : ∀ k ∈ H, Function.update c n qs k = c k := by
    intro k hk
    refine Function.update_of_ne ?_ _ _
    rintro rfl
    exact hn hk
  refine ⟨?_, ?_, ?_⟩
  · rintro k (rfl | hk)
    · simpa using hring
    · rw [hold k hk]
      exact hr.ring k hk
  · rintro k (rfl | hk)
    · simpa using hnodup
    · rw [hold k hk]
      exact hr.nodup k hk
  · rintro k (rfl | hk) k' (rfl | hk') hne x hx
    · exact absurd rfl hne
    · rw [hold k' hk']
      rw [Function.update_self] at hx
      exact hfree x hx k' hk'
    · rw [Function.update_self]
      rw [hold k hk] at hx
      exact fun hx' => hfree x hx' k hk hx
    · rw [hold k' hk']
      rw [hold k hk] at hx
      exact hr.apart k hk k' hk' hne x hx

omit [DecidableEq N] in
/-- A ring may be forgotten. -/
theorem drop (hr : Rings m (insert n H) c) : Rings m H c where
  ring h hh := hr.ring h (.inr hh)
  nodup h hh := hr.nodup h (.inr hh)
  apart h hh k hk := hr.apart h (.inr hh) k (.inr hk)

/-! ## What the operations do to it -/

/-- A node that is in no ring becomes one. -/
theorem init (hr : Rings m H c) (hq : Free H c q) : Rings (init q m) H c :=
  hr.keeps (fun h hh _ hx => init_keeps (fun heq => hq h hh (heq ▸ hx)))

/-- An insertion at the end of one of the rings. -/
theorem insert_tail (hr : Rings m H c) (hh : h ∈ H) (hq : Free H c q) :
    Rings (insert_tail h q m) H (Function.update c h (c h ++ [q])) := by
  have hqh : q ∉ h :: c h := hq h hh
  have hnodup : (h :: (c h ++ [q])).Nodup := by
    have hold := hr.nodup h hh
    simp only [List.nodup_cons, List.nodup_append, List.mem_cons, List.mem_append] at hold hqh ⊢
    simp
    grind
  refine hr.change (ring_insert_tail (hr.ring h hh) (hr.nodup h hh) hqh) hnodup ?_ ?_ hh
  · intro x hx
    rcases List.mem_append.mp hx with hx | hx
    · exact .inl hx
    · exact .inr (List.mem_singleton.mp hx ▸ hq)
  · intro k hk hkh x hx
    exact insert_tail_keeps (hr.ring h hh) (hr.apart k hk h hh hkh x hx)
      (fun heq => hq k hk (heq ▸ hx))

/-- An insertion at its front. -/
theorem insert_head (hr : Rings m H c) (hh : h ∈ H) (hq : Free H c q) :
    Rings (insert_head h q m) H (Function.update c h (q :: c h)) := by
  have hqh : q ∉ h :: c h := hq h hh
  have hnodup : (h :: q :: c h).Nodup := by
    have hold := hr.nodup h hh
    simp only [List.nodup_cons, List.mem_cons, not_or] at hold hqh ⊢
    exact ⟨⟨Ne.symm hqh.1, hold.1⟩, hqh.2, hold.2⟩
  refine hr.change (ring_insert_head (hr.ring h hh) (hr.nodup h hh) hqh) hnodup ?_ ?_ hh
  · intro x hx
    rcases List.mem_cons.mp hx with rfl | hx
    · exact .inr hq
    · exact .inl hx
  · intro k hk hkh x hx
    exact insert_head_keeps (hr.ring h hh) (hr.apart k hk h hh hkh x hx)
      (fun heq => hq k hk (heq ▸ hx))

/-- A removal from one of the rings. -/
theorem remove (hr : Rings m H c) (hh : h ∈ H) (hq : q ∈ c h) :
    Rings (remove q m) H (Function.update c h ((c h).erase q)) := by
  obtain ⟨a, b, -, hsplit, herase⟩ := List.exists_erase_eq hq
  have hring := hr.ring h hh
  have hnodup := hr.nodup h hh
  rw [hsplit] at hring hnodup
  rw [herase]
  have hsub : List.Sublist (h :: (a ++ b)) (h :: (a ++ q :: b)) := by simp
  refine hr.change (ring_remove hring hnodup) (hnodup.sublist hsub) ?_ ?_ hh
  · intro x hx
    left
    rw [hsplit]
    simp at hx ⊢
    tauto
  · intro k hk hkh x hx
    exact remove_keeps (hr.ring h hh) (List.mem_cons_of_mem _ hq) (hr.apart k hk h hh hkh x hx)

/-- The items of one ring become those of a new one. -/
theorem move (hr : Rings m H c) (hh : h ∈ H) (hn : Free H c n) :
    Rings (move h n m) (insert n H) (Function.update (Function.update c h []) n (c h)) := by
  have hnh : n ∉ h :: c h := hn h hh
  obtain ⟨hnew, hold⟩ := ring_move (hr.ring h hh) (hr.nodup h hh) hnh
  have hemptied : Rings (rings.move h n m) H (Function.update c h []) := by
    refine hr.change hold (by simp) (by simp) ?_ hh
    intro k hk hkh x hx
    exact move_keeps (hr.ring h hh) (hr.nodup h hh) hnh (hr.apart k hk h hh hkh x hx)
      (fun heq => hn k hk (heq ▸ hx))
  have hnodup : (n :: c h).Nodup :=
    List.nodup_cons.mpr ⟨fun hx => hnh (by simp [hx]), (List.nodup_cons.mp (hr.nodup h hh)).2⟩
  refine hemptied.add hnew hnodup ?_
  intro x hx k hk hxk
  by_cases hkh : k = h
  · subst hkh
    rw [Function.update_self] at hxk
    rcases List.mem_cons.mp hx with rfl | hx
    · exact hn k hk (by simp_all)
    · have hxk' : x = k := by simpa using hxk
      exact (List.nodup_cons.mp (hr.nodup k hk)).1 (hxk' ▸ hx)
  · rw [Function.update_of_ne hkh] at hxk
    rcases List.mem_cons.mp hx with rfl | hx
    · exact hn k hk hxk
    · exact hr.apart k hk h hh hkh x hxk (List.mem_cons_of_mem _ hx)

/-! ## What the links tell -/

omit [DecidableEq N]

/-- QUEUE_EMPTY tells if there are items. -/
theorem empty_iff (hr : Rings m H c) (hh : h ∈ H) : m.next h = h ↔ c h = [] := by
  have hring := hr.ring h hh
  have hnodup := hr.nodup h hh
  constructor
  · intro hself
    cases hc : c h with
    | nil => rfl
    | cons q qs =>
      rw [hc] at hring hnodup
      rw [hring.next_head] at hself
      subst hself
      simp at hnodup
  · intro hc
    rw [hc] at hring
    exact (ring_nil_iff.mp hring).1

/-- QUEUE_HEAD gives one of them. -/
theorem next_mem (hr : Rings m H c) (hh : h ∈ H) (hne : m.next h ≠ h) : m.next h ∈ c h :=
  (List.mem_cons.mp ((hr.ring h hh).around (List.mem_cons_self)).1).resolve_left hne

theorem next_ne (hr : Rings m H c) (hh : h ∈ H) (hq : q ∈ c h) : m.next q ≠ q :=
  (hr.ring h hh).next_ne (hr.nodup h hh) hq

end Rings

end rings
