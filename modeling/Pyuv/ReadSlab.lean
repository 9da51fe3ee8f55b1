-- The read buffer of a loop (pyuv__alloc_cb in src/common.c), a lock that all streams
-- and UDP handles of the loop share. The read callbacks (src/stream.c, src/udp.c) unlock
-- it, and so does the callback of an allocation that was refused.
import Pyuv.Lib.Runs
import Mathlib.Data.List.Nodup

set_option linter.style.nameCheck false

namespace pyuv.read_slab

def PYUV_SLAB_SIZE : Nat := 65536

def UV_ENOBUFS : Int := -105

/-! ## The state -/

/-- Streams and UDP sockets have callbacks of their own. -/
inductive Kind where
  | stream | udp
deriving DecidableEq, Repr

/-- An allocation whose read callback is still to come, and what libuv has stored. -/
structure Alloc where
  id : Nat
  granted : Bool
  stored : List UInt8
deriving DecidableEq, Repr

/-- A read callback that waits for Python code. -/
structure Frame where
  id : Nat
  granted : Bool
deriving DecidableEq, Repr

/-- The slab went from locked to unlocked: by which allocation's callback, and which
allocation had locked it. -/
structure Reset where
  by_id : Nat
  holder : Option Nat
deriving DecidableEq, Repr

/-- A call of the Python callback: what libuv stored for the read, and the data passed
on, none for None. -/
structure Delivery where
  stored : List UInt8
  data : Option (List UInt8)
deriving DecidableEq, Repr

/-- The slab of the loop, the allocations that wait for their callback, and the callbacks that
run. -/
structure St where
  in_use : Bool
  slab : List UInt8
  -- the allocations are numbered
  next : Nat
  waiting : Nat → Option Alloc
  frames : List Frame
  -- the allocation that was granted the slab last
  holder : Option Nat
  resets : List Reset
  deliveries : List Delivery

/-! ## The functions -/

/-- Whether the slab is granted, and `in_use` afterwards. -/
def pyuv__alloc_cb (in_use : Bool) : Bool × Bool :=
  if in_use then (false, in_use) else (true, true)

/-- libuv asks for memory to read into. -/
def alloc (s : St) (h : Nat) : Option St :=
  if s.waiting h = none then
    let (granted, in_use) := pyuv__alloc_cb s.in_use
    some { s with
      in_use := in_use
      next := s.next + 1
      waiting := Function.update s.waiting h (some ⟨s.next, granted, []⟩)
      holder := if granted then some s.next else s.holder }
  else none

/-- libuv reads into the buffer it was given. -/
def store (s : St) (h : Nat) (data : List UInt8) : Option St :=
  match s.waiting h with
  | some a =>
    if a.granted ∧ data.length ≤ PYUV_SLAB_SIZE then
      some { s with
        slab := data ++ s.slab.drop data.length
        waiting := Function.update s.waiting h (some { a with stored := data }) }
    else none
  | none => none

/-- "data has been read, unlock the buffer", in both read callbacks. -/
def unlock (s : St) (id : Nat) : St :=
  { s with
    in_use := false
    resets := if s.in_use then ⟨id, s.holder⟩ :: s.resets else s.resets }

/-- The `nread` that libuv passes for the allocation. -/
def reports (a : Alloc) (nread : Int) : Bool :=
  if a.granted then decide (nread < 0 ∨ nread = a.stored.length) else nread = UV_ENOBUFS

/-- pyuv__stream_read_cb and pyuv__udp_recv_cd up to the Python callback. `addr` is
whether a datagram has an address. A UDP read that got EAGAIN only unlocks. -/
def read_cb (kind : Nat → Kind) (s : St) (h : Nat) (nread : Int) (addr : Bool) : Option St :=
  match s.waiting h with
  | some a =>
    let s := { s with waiting := Function.update s.waiting h none }
    if !reports a nread then none
    else if kind h = .udp ∧ nread = 0 ∧ !addr then some (unlock s a.id)
    -- ASSERT(addr)
    else if kind h = .udp ∧ 0 ≤ nread ∧ !addr then none
    else
      let data := if 0 ≤ nread then some (s.slab.take nread.toNat) else none
      some { s with
        frames := ⟨a.id, a.granted⟩ :: s.frames
        deliveries := ⟨a.stored, data⟩ :: s.deliveries }
  | none => none

/-- The Python callback returns. -/
def read_cb_return (s : St) : Option St :=
  match s.frames with
  | f :: fs => some (unlock { s with frames := fs } f.id)
  | [] => none

/-- libuv asks for memory, fills it and calls back; a callback returns. -/
inductive Act where
  | alloc (h : Nat)
  | store (h : Nat) (data : List UInt8)
  | read_cb (h : Nat) (nread : Int) (addr : Bool)
  | ret
deriving DecidableEq, Repr

/-- One act, on any handle. -/
def step (kind : Nat → Kind) (s : St) (a : Act) : Option St :=
  match a with
  | .alloc h => alloc s h
  | .store h data => store s h data
  | .read_cb h nread addr => read_cb kind s h nread addr
  | .ret => read_cb_return s

/-- new_loop. What the slab holds at first is left open. -/
def new_loop (slab : List UInt8) : St where
  in_use := false
  slab := slab
  next := 0
  waiting _ := none
  frames := []
  holder := none
  resets := []
  deliveries := []

/-! ## The contract -/

/-- Nobody reads into the slab while another has it, and what a callback is given is what was
read. -/
structure Lock (s : St) : Prop where
  -- no allocation gets the slab while another has it and waits for its callback
  exclusive : ∀ h k a b, s.waiting h = some a → s.waiting k = some b → a.granted = true →
    b.granted = true → h = k
  -- who locks the slab unlocks it
  unlocked_by_holder : ∀ r ∈ s.resets, r.holder = some r.by_id
  delivered : ∀ d ∈ s.deliveries, ∀ data, d.data = some data → data = d.stored
  -- a locked slab is that of an allocation whose callback has not returned
  owned : s.in_use = true →
    (∃ h a, s.waiting h = some a ∧ a.granted = true) ∨ ∃ f ∈ s.frames, f.granted = true

/-- The read callback of a refused allocation returns, and the slab is locked. -/
def unlocks_for_others (s : St) : Act → Prop
  | .ret => s.in_use = true ∧ ∃ f fs, s.frames = f :: fs ∧ f.granted = false
  | _ => False

/-! ## The invariant -/

/-- What holds in a run without a refused allocation. -/
structure Inv (s : St) : Prop where
  waiting_known : ∀ h a, s.waiting h = some a → a.id < s.next
  frames_known : ∀ f ∈ s.frames, f.id < s.next
  waiting_distinct : ∀ h k a b, s.waiting h = some a → s.waiting k = some b → a.id = b.id → h = k
  frames_distinct : (s.frames.map Frame.id).Nodup
  apart : ∀ h a, s.waiting h = some a → ∀ f ∈ s.frames, a.id ≠ f.id
  -- a granted allocation holds the slab, and what libuv stored for it is there
  waiting_holds : ∀ h a, s.waiting h = some a → a.granted = true →
    s.in_use = true ∧ s.holder = some a.id ∧ s.slab.take a.stored.length = a.stored
  frames_hold : ∀ f ∈ s.frames, f.granted = true → s.in_use = true ∧ s.holder = some f.id
  owned : s.in_use = true →
    (∃ h a, s.waiting h = some a ∧ a.granted = true) ∨ ∃ f ∈ s.frames, f.granted = true
  unlocked_by_holder : ∀ r ∈ s.resets, r.holder = some r.by_id
  delivered : ∀ d ∈ s.deliveries, ∀ data, d.data = some data → data = d.stored

section

variable {kind : Nat → Kind} {s t : St} {h k : Nat} {a b : Alloc}

theorem Inv.lock (hi : Inv s) : Lock s where
  exclusive h k a b ha hb hga hgb := by
    have hheld := (hi.waiting_holds h a ha hga).2.1
    rw [(hi.waiting_holds k b hb hgb).2.1] at hheld
    exact hi.waiting_distinct h k a b ha hb (Option.some.inj hheld).symm
  unlocked_by_holder := hi.unlocked_by_holder
  delivered := hi.delivered
  owned := hi.owned

/-! ## Each step keeps the invariant -/

theorem of_update {w : Nat → Option Alloc}
    (hb : Function.update w h (some a) k = some b) :
    k = h ∧ b = a ∨ k ≠ h ∧ w k = some b := by
  by_cases hkh : k = h
  · subst hkh
    rw [Function.update_self, Option.some.injEq] at hb
    exact Or.inl ⟨rfl, hb.symm⟩
  · rw [Function.update_of_ne hkh] at hb
    exact Or.inr ⟨hkh, hb⟩

theorem of_update_none {w : Nat → Option Alloc} (hb : Function.update w h none k = some b) :
    k ≠ h ∧ w k = some b := by
  by_cases hkh : k = h
  · subst hkh
    rw [Function.update_self] at hb
    cases hb
  · rw [Function.update_of_ne hkh] at hb
    exact ⟨hkh, hb⟩

theorem alloc_inv (hi : Inv s) (hstep : alloc s h = some t) : Inv t := by
  unfold alloc at hstep
  split at hstep
  · rename_i hnone
    have hnew : ∀ g, (∀ k b, Function.update s.waiting h (some ⟨s.next, g, []⟩) k = some b →
        b.id < s.next + 1) ∧
        (∀ k k' b b', Function.update s.waiting h (some ⟨s.next, g, []⟩) k = some b →
          Function.update s.waiting h (some ⟨s.next, g, []⟩) k' = some b' → b.id = b'.id →
          k = k') ∧
        ∀ k b, Function.update s.waiting h (some ⟨s.next, g, []⟩) k = some b →
          ∀ f ∈ s.frames, b.id ≠ f.id := by
      intro g
      refine ⟨?_, ?_, ?_⟩
      · intro k b hb
        rcases of_update hb with ⟨_, rfl⟩ | ⟨_, hb⟩
        · exact Nat.lt_succ_self _
        · exact Nat.lt_succ_of_lt (hi.waiting_known k b hb)
      · intro k k' b b' hb hb' heq
        rcases of_update hb with ⟨hk, rfl⟩ | ⟨_, hb⟩ <;>
          rcases of_update hb' with ⟨hk', rfl⟩ | ⟨_, hb'⟩
        · exact hk.trans hk'.symm
        · exact absurd heq (Nat.ne_of_gt (hi.waiting_known k' b' hb'))
        · exact absurd heq (Nat.ne_of_lt (hi.waiting_known k b hb))
        · exact hi.waiting_distinct k k' b b' hb hb' heq
      · intro k b hb f hf
        rcases of_update hb with ⟨_, rfl⟩ | ⟨_, hb⟩
        · exact Nat.ne_of_gt (hi.frames_known f hf)
        · exact hi.apart k b hb f hf
    have hframes : ∀ f ∈ s.frames, f.id < s.next + 1 :=
      fun f hf => Nat.lt_succ_of_lt (hi.frames_known f hf)
    cases hin : s.in_use with
    | true =>
      -- refused: the holder is the one it was
      simp only [pyuv__alloc_cb, hin, if_true, Bool.false_eq_true, if_false] at hstep
      cases hstep
      obtain ⟨hknown, hdistinct, hapart⟩ := hnew false
      refine ⟨hknown, hframes, hdistinct, hi.frames_distinct, hapart, ?_, ?_, ?_,
        hi.unlocked_by_holder, hi.delivered⟩
      · intro k b hb hg
        rcases of_update hb with ⟨_, rfl⟩ | ⟨_, hb⟩
        · cases hg
        · have hholds := hi.waiting_holds k b hb hg
          exact ⟨rfl, hholds.2⟩
      · exact fun f hf hg => ⟨rfl, (hi.frames_hold f hf hg).2⟩
      · intro _
        rcases hi.owned hin with ⟨k, b, hb, hg⟩ | hf
        · refine Or.inl ⟨k, b, ?_, hg⟩
          have hkh : k ≠ h := by
            rintro rfl
            rw [hnone] at hb
            cases hb
          exact (Function.update_of_ne hkh _ _).trans hb
        · exact Or.inr hf
    | false =>
      -- granted: nothing else holds the slab
      simp only [pyuv__alloc_cb, hin, if_true, Bool.false_eq_true, if_false] at hstep
      cases hstep
      obtain ⟨hknown, hdistinct, hapart⟩ := hnew true
      refine ⟨hknown, hframes, hdistinct, hi.frames_distinct, hapart, ?_, ?_, ?_,
        hi.unlocked_by_holder, hi.delivered⟩
      · intro k b hb hg
        rcases of_update hb with ⟨_, rfl⟩ | ⟨_, hb⟩
        · exact ⟨rfl, rfl, rfl⟩
        · exact absurd (hi.waiting_holds k b hb hg).1 (by rw [hin]; exact Bool.false_ne_true)
      · intro f hf hg
        exact absurd (hi.frames_hold f hf hg).1 (by rw [hin]; exact Bool.false_ne_true)
      · exact fun _ => Or.inl ⟨h, _, Function.update_self _ _ _, rfl⟩
  · cases hstep

theorem store_inv {data : List UInt8} (hi : Inv s) (hstep : store s h data = some t) : Inv t := by
  unfold store at hstep
  split at hstep
  · rename_i a ha
    split at hstep
    · rename_i hfits
      cases hstep
      have hback : ∀ k b, Function.update s.waiting h (some { a with stored := data }) k = some b →
          ∃ c, s.waiting k = some c ∧ c.id = b.id ∧ c.granted = b.granted := by
        intro k b hb
        rcases of_update hb with ⟨rfl, rfl⟩ | ⟨_, hb⟩
        · exact ⟨a, ha, rfl, rfl⟩
        · exact ⟨b, hb, rfl, rfl⟩
      refine ⟨?_, hi.frames_known, ?_, hi.frames_distinct, ?_, ?_, hi.frames_hold, ?_,
        hi.unlocked_by_holder, hi.delivered⟩
      · intro k b hb
        obtain ⟨c, hc, hid, _⟩ := hback k b hb
        exact hid ▸ hi.waiting_known k c hc
      · intro k k' b b' hb hb' heq
        obtain ⟨c, hc, hid, _⟩ := hback k b hb
        obtain ⟨c', hc', hid', _⟩ := hback k' b' hb'
        exact hi.waiting_distinct k k' c c' hc hc' (hid.trans (heq.trans hid'.symm))
      · intro k b hb f hf
        obtain ⟨c, hc, hid, _⟩ := hback k b hb
        exact hid ▸ hi.apart k c hc f hf
      · intro k b hb hg
        rcases of_update hb with ⟨rfl, rfl⟩ | ⟨hkh, hb⟩
        · have hholds := hi.waiting_holds k a ha hg
          exact ⟨hholds.1, hholds.2.1, List.take_left⟩
        · -- another granted allocation would be this one
          exact absurd (hi.lock.exclusive k h b a hb ha hg hfits.1) hkh
      · intro hin
        rcases hi.owned hin with ⟨k, b, hb, hg⟩ | hf
        · by_cases hkh : k = h
          · exact Or.inl ⟨h, _, Function.update_self _ _ _, hfits.1⟩
          · exact Or.inl ⟨k, b, (Function.update_of_ne hkh _ _).trans hb, hg⟩
        · exact Or.inr hf
    · cases hstep
  · cases hstep

/-- Who has the slab unlocks it, or nobody has it: then nothing that is left does. -/
theorem unlock_inv {w : Nat → Option Alloc} {fs : List Frame} {id : Nat} (hi : Inv s)
    (hid : s.in_use = true → s.holder = some id)
    (hw : ∀ k b, w k = some b → s.waiting k = some b ∧ b.id ≠ id)
    (hfs : List.Sublist fs s.frames) (hne : ∀ f ∈ fs, f.id ≠ id) :
    Inv (unlock { s with waiting := w, frames := fs } id) := by
  refine ⟨fun k b hb => hi.waiting_known k b (hw k b hb).1,
    fun f hf => hi.frames_known f (hfs.mem hf),
    fun k k' b b' hb hb' => hi.waiting_distinct k k' b b' (hw k b hb).1 (hw k' b' hb').1,
    hi.frames_distinct.sublist (hfs.map Frame.id),
    fun k b hb f hf => hi.apart k b (hw k b hb).1 f (hfs.mem hf), ?_, ?_,
    fun h => absurd h Bool.false_ne_true, ?_, hi.delivered⟩
  · intro k b hb hg
    obtain ⟨hin, hholder, _⟩ := hi.waiting_holds k b (hw k b hb).1 hg
    rw [hid hin] at hholder
    exact absurd (Option.some.inj hholder).symm (hw k b hb).2
  · intro f hf hg
    obtain ⟨hin, hholder⟩ := hi.frames_hold f (hfs.mem hf) hg
    rw [hid hin] at hholder
    exact absurd (Option.some.inj hholder).symm (hne f hf)
  · intro r hr
    unfold unlock at hr
    dsimp only at hr
    split at hr
    · rename_i hin
      rcases List.mem_cons.mp hr with rfl | hr
      · exact hid hin
      · exact hi.unlocked_by_holder r hr
    · exact hi.unlocked_by_holder r hr

theorem reports_granted {nread : Int} (hreports : reports a nread = true) (hpos : 0 ≤ nread) :
    a.granted = true ∧ nread.toNat = a.stored.length := by
  unfold reports at hreports
  split at hreports
  · rename_i hg
    have hcases := of_decide_eq_true hreports
    exact ⟨hg, by omega⟩
  · have hrefused : nread = UV_ENOBUFS := of_decide_eq_true hreports
    unfold UV_ENOBUFS at hrefused
    omega

theorem read_cb_inv {nread : Int} {addr : Bool} (hi : Inv s)
    (hstep : read_cb kind s h nread addr = some t) : Inv t := by
  unfold read_cb at hstep
  split at hstep
  · rename_i a ha
    have hrest : ∀ k b, Function.update s.waiting h none k = some b →
        s.waiting k = some b ∧ b.id ≠ a.id := by
      intro k b hb
      obtain ⟨hkh, hb⟩ := of_update_none hb
      exact ⟨hb, fun heq => hkh (hi.waiting_distinct k h b a hb ha heq)⟩
    have hframes : ∀ f ∈ s.frames, f.id ≠ a.id := fun f hf => (hi.apart h a ha f hf).symm
    dsimp only at hstep
    split at hstep
    · cases hstep
    · rename_i hreports
      rw [Bool.not_eq_true, Bool.not_eq_false'] at hreports
      split at hstep
      · -- EAGAIN: the allocation was granted
        rename_i hagain
        cases hstep
        have hg := (reports_granted hreports (Int.le_of_eq hagain.2.1.symm)).1
        exact unlock_inv hi (fun _ => (hi.waiting_holds h a ha hg).2.1) hrest
          (List.Sublist.refl _) hframes
      · split at hstep
        · cases hstep
        · cases hstep
          refine ⟨fun k b hb => hi.waiting_known k b (hrest k b hb).1, ?_,
            fun k k' b b' hb hb' =>
              hi.waiting_distinct k k' b b' (hrest k b hb).1 (hrest k' b' hb').1,
            ?_, ?_, fun k b hb => hi.waiting_holds k b (hrest k b hb).1, ?_, ?_,
            hi.unlocked_by_holder, ?_⟩
          · intro f hf
            rcases List.mem_cons.mp hf with rfl | hf
            · exact hi.waiting_known h a ha
            · exact hi.frames_known f hf
          · rw [List.map_cons, List.nodup_cons]
            refine ⟨fun hmem => ?_, hi.frames_distinct⟩
            obtain ⟨f, hf, hid⟩ := List.mem_map.mp hmem
            exact hframes f hf hid
          · intro k b hb f hf
            rcases List.mem_cons.mp hf with rfl | hf
            · exact (hrest k b hb).2
            · exact hi.apart k b (hrest k b hb).1 f hf
          · intro f hf hg
            rcases List.mem_cons.mp hf with rfl | hf
            · have hholds := hi.waiting_holds h a ha hg
              exact ⟨hholds.1, hholds.2.1⟩
            · exact hi.frames_hold f hf hg
          · intro hin
            rcases hi.owned hin with ⟨k, b, hb, hg⟩ | ⟨f, hf, hg⟩
            · by_cases hkh : k = h
              · -- this one: its callback has not returned
                subst hkh
                rw [ha] at hb
                cases hb
                exact Or.inr ⟨_, List.mem_cons_self, hg⟩
              · exact Or.inl ⟨k, b, (Function.update_of_ne hkh _ _).trans hb, hg⟩
            · exact Or.inr ⟨f, List.mem_cons_of_mem _ hf, hg⟩
          · intro d hd data hdata
            rcases List.mem_cons.mp hd with rfl | hd
            · dsimp only at hdata ⊢
              split at hdata
              · rename_i hpos
                obtain ⟨hg, hlen⟩ := reports_granted hreports hpos
                have hstored := (hi.waiting_holds h a ha hg).2.2
                rw [← hlen] at hstored
                rw [← Option.some.inj hdata, hstored]
              · cases hdata
            · exact hi.delivered d hd data hdata
  · cases hstep

theorem read_cb_return_inv (hi : Inv s) (hothers : ¬unlocks_for_others s .ret)
    (hstep : read_cb_return s = some t) : Inv t := by
  unfold read_cb_return at hstep
  split at hstep
  · rename_i f fs hfs
    cases hstep
    have hmem : f ∈ s.frames := hfs ▸ List.mem_cons_self
    have hsub : List.Sublist fs s.frames := hfs ▸ List.sublist_cons_self f fs
    have hdistinct := hi.frames_distinct
    rw [hfs, List.map_cons, List.nodup_cons] at hdistinct
    refine unlock_inv hi (fun hin => ?_) (fun k b hb => ⟨hb, hi.apart k b hb f hmem⟩) hsub ?_
    · by_cases hg : f.granted = true
      · exact (hi.frames_hold f hmem hg).2
      · exact absurd ⟨hin, f, fs, hfs, Bool.not_eq_true _ ▸ hg⟩ hothers
    · intro g hg heq
      exact hdistinct.1 (List.mem_map.mpr ⟨g, hg, heq⟩)
  · cases hstep

/-! ## Runs -/

theorem step_inv {act : Act} (hi : Inv s) (hothers : ¬unlocks_for_others s act)
    (hstep : step kind s act = some t) : Inv t := by
  cases act with
  | alloc h => exact alloc_inv hi hstep
  | store h data => exact store_inv hi hstep
  | read_cb h nread addr => exact read_cb_inv hi hstep
  | ret => exact read_cb_return_inv hi hothers hstep

theorem new_loop_inv (slab : List UInt8) : Inv (new_loop slab) := by
  refine ⟨?_, ?_, ?_, List.nodup_nil, ?_, ?_, ?_, ?_, ?_, ?_⟩ <;> simp [new_loop]

/-- The slab is locked, and the allocation that locked it is not the refused one. -/
theorem not_lock_of_unlocks_for_others {act : Act} (hi : Inv s)
    (hothers : unlocks_for_others s act) (hstep : step kind s act = some t) : ¬Lock t := by
  cases act with
  | ret =>
    obtain ⟨hin, f, fs, hfs, hrefused⟩ := hothers
    simp only [step, read_cb_return, hfs, unlock, hin, if_true] at hstep
    cases hstep
    intro hlock
    have hby : s.holder = some f.id := hlock.unlocked_by_holder _ List.mem_cons_self
    have hmem : f ∈ s.frames := hfs ▸ List.mem_cons_self
    rcases hi.owned hin with ⟨k, b, hb, hg⟩ | ⟨g, hgs, hg⟩
    · have hholder := (hi.waiting_holds k b hb hg).2.1
      rw [hby] at hholder
      exact hi.apart k b hb f hmem (Option.some.inj hholder).symm
    · have hholder := (hi.frames_hold g hgs hg).2
      rw [hby] at hholder
      have heq : f = g :=
        List.inj_on_of_nodup_map hi.frames_distinct hmem hgs (Option.some.inj hholder)
      rw [heq, hg] at hrefused
      cases hrefused
  | _ => exact hothers.elim

/-- A locked slab always has an owner whose callback is still to return. The read callbacks
that unlock it are those of its owner, no other allocation gets it meanwhile, and the data
passed on is what libuv stored, if and only if in no step of the run the callback of a
refused allocation returns while the slab is locked. -/
theorem slab_is_locked_iff (kind : Nat → Kind) (slab : List UInt8) (as : List Act) :
    runs.Always (step kind) Lock (new_loop slab) as ↔
    runs.Meets (step kind) (fun s act => ¬unlocks_for_others s act) (new_loop slab) as := by
  have hinv : ∀ s act t, Inv s → ¬unlocks_for_others s act → step kind s act = some t → Inv t :=
    fun s act t hi hothers hstep => step_inv hi hothers hstep
  have hiff : ∀ s act t, Inv s → step kind s act = some t →
      (Lock t ↔ ¬unlocks_for_others s act) := by
    intro s act t hi hstep
    constructor
    · intro hlock hothers
      exact not_lock_of_unlocks_for_others hi hothers hstep hlock
    · intro hothers
      exact (step_inv hi hothers hstep).lock
  exact runs.always_iff_meets hinv hiff as (new_loop_inv slab) (new_loop_inv slab).lock

/-- A stream's read callback runs the loop, where a second stream is refused the slab. Its
callback, for UV_ENOBUFS, unlocks the slab that the first one has. -/
theorem a_refused_read_unlocks_the_slab :
    ∃ as s, runs.exec (step fun _ => .stream) (new_loop []) as = some s ∧
      s.frames = [⟨0, true⟩] ∧ s.in_use = false ∧ s.resets = [⟨1, some 0⟩] ∧
      ¬runs.Always (step fun _ => .stream) Lock (new_loop []) as := by
  let as : List Act := [.alloc 0, .store 0 [104, 105], .read_cb 0 2 true, .alloc 1,
    .read_cb 1 UV_ENOBUFS true, .ret]
  refine ⟨as, _, rfl, rfl, rfl, rfl, fun h => ?_⟩
  have hlast := runs.always_iff_exec.mp h as _ (List.prefix_refl as) rfl
  exact absurd (hlast.unlocked_by_holder ⟨1, some 0⟩ List.mem_cons_self) (by decide)

end

end pyuv.read_slab
