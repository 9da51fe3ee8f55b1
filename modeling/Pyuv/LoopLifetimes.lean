-- A handle that libuv has in a loop keeps the Loop alive, over every run, as long as the
-- collector does not clear it: tp_clear drops the reference to the Loop, and the handle
-- is closed only afterwards. What an FSPoll that is stopped or closed leaves in the loop does
-- not keep the Loop.
import Pyuv.ObjectGraph

set_option linter.style.nameCheck false

namespace pyuv.object_graph

open refcounts

/-! ## The contract -/

/-- Every handle in the queue of a loop is there with its reference to that Loop, which
lives. So no Loop goes before its handles do. -/
structure Safe (s : St) : Prop where
  owns : ∀ h l, (s.obj h).uv.loop = some l →
    h ∈ s.alive ∧ (s.obj h).loop = some l ∧ l ∈ s.alive ∧ 0 < s.refcnt l
  no_busy_loop : s.busy_loop = false
  no_freed_loop : s.freed_loop = false

/-- A context that uv_fs_poll_stop has let go is still in the loop: its stat is under way, or its
timer is not closed yet. -/
def leaves_ctx (s : St) (l : Nat) : Prop := ∃ p ∈ s.ctxs, p.loop = l ∧ p.parent = false

/-- The collector clears a handle that libuv still has in a loop, or a Loop goes in which an
FSPoll has left its stat. -/
def abandons (s : St) : Act → Prop
  | .gc_clear x => x ∈ s.garbage ∧ x ∈ s.alive ∧ (s.obj x).uv.loop ≠ none
  | .dealloc x => (s.obj x).kind = .Loop ∧ leaves_ctx s x
  | _ => False

/-! ## The invariant -/

/-- libuv has been asked to close the handle and has not done so. -/
def closing (o : Obj) : Bool :=
  match o.uv with
  | .closing _ _ => true
  | _ => false

/-- The references that are not in an object: those of the user, the flag, a close under
way and the C code on the stack. -/
def held (s : St) (x : Nat) : Nat :=
  (s.obj x).user + (s.obj x).pyref.toNat + (closing (s.obj x)).toNat +
    s.frames.count (.run x) + s.frames.count (.close_cb x)

theorem held_of_close_cb {s : St} {x : Nat} (hframe : .close_cb x ∈ s.frames) : 0 < held s x := by
  have hcount := List.count_pos_iff.mpr hframe
  unfold held
  omega

/-- The references of each object to others, with their counts. -/
def graph (s : St) (x : Nat) : Multiset Nat := refs (s.obj x)

/-- What holds of the record of each object. -/
structure Fits (o : Obj) : Prop where
  in_loop : ∀ l, o.uv.loop = some l → o.kind.is_handle = true ∧ o.loop = some l
  no_close_cb : o.uv = .none ∨ is_open o → o.on_close_cb = none
  uninitialized : o.initialized = false → o.uv = .none ∧ o.loop = none

/-- The counts are right, and what libuv holds is in its place. -/
structure Inv (s : St) : Prop where
  balanced : Balanced s.alive (graph s) (held s) s.refcnt
  known : ∀ x ∈ s.alive, x < s.next
  fits : ∀ x, Fits (s.obj x)
  in_loop_alive : ∀ x, (s.obj x).uv.loop ≠ none → x ∈ s.alive
  closed_frames : ∀ x, .close_cb x ∈ s.frames → (s.obj x).uv = .closed
  parents : ∀ p ∈ s.ctxs, p.parent = true → (s.obj p.handle).uv = .opened p.loop
  no_busy_loop : s.busy_loop = false
  no_freed_loop : s.freed_loop = false

section

variable {s t : St} {x y h l : Nat} {o : Obj}

theorem Inv.loop_alive (hi : Inv s) (hl : (s.obj h).uv.loop = some l) :
    h ∈ s.alive ∧ 0 < s.refcnt l := by
  have hh : h ∈ s.alive := hi.in_loop_alive h (by simp [hl])
  have hmem : l ∈ graph s h := by
    simp [graph, refs, ((hi.fits h).in_loop l hl).2]
  exact ⟨hh, hi.balanced.pos_of_ref hh hmem⟩

theorem Inv.safe (hi : Inv s) : Safe s where
  owns h l hl := by
    obtain ⟨hh, hpos⟩ := hi.loop_alive hl
    exact ⟨hh, ((hi.fits h).in_loop l hl).2, hi.balanced.live l hpos, hpos⟩
  no_busy_loop := hi.no_busy_loop
  no_freed_loop := hi.no_freed_loop

theorem Inv.alive_of_has (hi : Inv s) (hx : has s x = true) : x ∈ s.alive := by
  have huser : 0 < (s.obj x).user := by simpa [has] using hx
  exact hi.balanced.alive_of_held (by unfold held; omega)

/-- The references of an object are among those that are counted. -/
theorem Inv.refs_le (hi : Inv s) (hx : x ∈ s.alive) (y : Nat) :
    held s y + (refs (s.obj x)).count y ≤ s.refcnt y := by
  have hcount := hi.balanced.counts y
  have hsum := congrArg (Multiset.count y) (inrefs_erase (graph s) hx)
  rw [Multiset.count_add] at hsum
  simp only [graph, Multiset.coe_count] at hsum hcount
  omega

/-- A handle that libuv has closed stays closed. -/
theorem Inv.closed_update (hi : Inv s) (huv : (s.obj x).uv = .closed → o.uv = .closed) :
    ∀ y, .close_cb y ∈ s.frames → (Function.update s.obj x o y).uv = .closed := by
  intro y hy
  have hclosed := hi.closed_frames y hy
  by_cases hyx : y = x
  · subst hyx
    simpa using huv hclosed
  · rwa [Function.update_of_ne hyx]

/-- An FSPoll with a context stays open. -/
theorem Inv.parents_update (hi : Inv s)
    (huv : ∀ l, (s.obj x).uv = .opened l → o.uv = .opened l) :
    ∀ p ∈ s.ctxs, p.parent = true →
      (Function.update s.obj x o p.handle).uv = .opened p.loop := by
  intro p hp hparent
  have hopened := hi.parents p hp hparent
  by_cases hpx : p.handle = x
  · subst hpx
    simpa using huv _ hopened
  · rwa [Function.update_of_ne hpx]

/-- One object changes, with the references to it and those it holds. -/
theorem Inv.write (hi : Inv s) (hx : x ∈ s.alive) (hobj : t.obj = Function.update s.obj x o)
    (halive : t.alive = s.alive) (hnext : t.next = s.next) (hfits : Fits o)
    (hframes : ∀ y, .close_cb y ∈ t.frames → (Function.update s.obj x o y).uv = .closed)
    (hctxs : ∀ p ∈ t.ctxs, p.parent = true →
      (Function.update s.obj x o p.handle).uv = .opened p.loop)
    (hbusy : t.busy_loop = false) (hfreed : t.freed_loop = false)
    (hcnt : ∀ y, t.refcnt y + held s y + (refs (s.obj x)).count y =
      s.refcnt y + held t y + (refs o).count y)
    (hlive : ∀ y, s.refcnt y < t.refcnt y → y ∈ s.alive) : Inv t := by
  refine ⟨?_, ?_, ?_, ?_, hobj ▸ hframes, hobj ▸ hctxs, hbusy, hfreed⟩
  · have hgraph : graph t = Function.update (graph s) x (refs o) := by
      funext y
      by_cases hyx : y = x
      · subst hyx
        simp [graph, hobj]
      · simp [graph, hobj, hyx]
    rw [hgraph, halive]
    refine hi.balanced.write hx (fun y => ?_) hlive
    simpa [graph] using hcnt y
  · rw [halive, hnext]
    exact hi.known
  · intro y
    rw [hobj]
    by_cases hyx : y = x
    · subst hyx
      simpa using hfits
    · rw [Function.update_of_ne hyx]
      exact hi.fits y
  · intro y hy
    rw [halive]
    by_cases hyx : y = x
    · exact hyx ▸ hx
    · rw [hobj, Function.update_of_ne hyx] at hy
      exact hi.in_loop_alive y hy

/-! ## References of the user -/

theorem add_user_inv (hi : Inv s) (hx : x ∈ s.alive) :
    Inv ((Py_INCREF s x).set x { s.obj x with user := (s.obj x).user + 1 }) := by
  have hf := hi.fits x
  refine hi.write hx rfl rfl rfl ⟨hf.in_loop, hf.no_close_cb, hf.uninitialized⟩
    (hi.closed_update id)
      (hi.parents_update fun _ => id) hi.no_busy_loop hi.no_freed_loop ?_ ?_
  · intro y
    by_cases hyx : y = x
    · subst hyx
      simp [St.set, Py_INCREF, held, closing, refs]
      omega
    · simp [St.set, Py_INCREF, held, refs, hyx]
  · intro y hy
    by_cases hyx : y = x
    · exact hyx ▸ hx
    · simp [St.set, Py_INCREF, hyx] at hy

theorem load_inv (hi : Inv s) (hstep : load s x y = some t) : Inv t := by
  simp only [load] at hstep
  split at hstep
  · rename_i hguard
    obtain ⟨hhas, hmem⟩ := hguard
    cases hstep
    have href : y ∈ graph s x := by
      simp only [graph, Multiset.mem_coe, refs]
      exact List.mem_append_left _ hmem
    exact add_user_inv hi (hi.balanced.alive_of_ref (hi.alive_of_has hhas) href)
  · cases hstep

theorem Loop_handles_get_inv (hi : Inv s) (hstep : Loop_handles_get s l h = some t) : Inv t := by
  simp only [Loop_handles_get] at hstep
  split at hstep
  · rename_i hguard
    cases hstep
    have hmem := hguard.2
    simp only [handles_of, List.mem_filter, decide_eq_true_eq] at hmem
    exact add_user_inv hi (hi.loop_alive hmem.2).1
  · cases hstep

theorem drop_user_inv (hi : Inv s) (hstep : drop_user s x = some t) : Inv t := by
  simp only [drop_user] at hstep
  split at hstep
  · rename_i hhas
    cases hstep
    have hx := hi.alive_of_has hhas
    have hf := hi.fits x
    have huser : 0 < (s.obj x).user := by simpa [has] using hhas
    refine hi.write hx rfl rfl rfl ⟨hf.in_loop, hf.no_close_cb, hf.uninitialized⟩
      (hi.closed_update id)
      (hi.parents_update fun _ => id) hi.no_busy_loop hi.no_freed_loop ?_ ?_
    · intro y
      have hle := hi.refs_le hx y
      by_cases hyx : y = x
      · subst hyx
        simp [St.set, Py_DECREF, held, closing, refs] at hle ⊢
        omega
      · simp [St.set, Py_DECREF, held, refs, hyx]
    · intro y hy
      by_cases hyx : y = x
      · exact hyx ▸ hx
      · simp [St.set, Py_DECREF, hyx] at hy
  · cases hstep

theorem setattr_inv (hi : Inv s) (hstep : setattr s x y = some t) : Inv t := by
  simp only [setattr] at hstep
  split at hstep
  · rename_i hguard
    cases hstep
    have hx := hi.alive_of_has hguard.1
    have hy := hi.alive_of_has hguard.2
    have hf := hi.fits x
    refine hi.write hx rfl rfl rfl ⟨hf.in_loop, hf.no_close_cb, hf.uninitialized⟩
      (hi.closed_update id)
      (hi.parents_update fun _ => id) hi.no_busy_loop hi.no_freed_loop ?_ ?_
    · intro z
      have hheld : held ((Py_INCREF s y).set x { s.obj x with dict := y :: (s.obj x).dict }) z =
          held s z := by
        by_cases hzx : z = x
        · subst hzx
          simp [St.set, Py_INCREF, held, closing]
        · simp [St.set, Py_INCREF, held, hzx]
      rw [hheld]
      by_cases hzy : z = y
      · subst hzy
        simp [St.set, Py_INCREF, refs]
        omega
      · simp [St.set, Py_INCREF, refs, hzy, Ne.symm hzy]
    · intro z hz
      by_cases hzy : z = y
      · exact hzy ▸ hy
      · simp [St.set, Py_INCREF, hzy] at hz
  · cases hstep

theorem delattr_inv (hi : Inv s) (hstep : delattr s x y = some t) : Inv t := by
  simp only [delattr] at hstep
  split at hstep
  · rename_i hguard
    obtain ⟨hhas, hmem⟩ := hguard
    cases hstep
    have hx := hi.alive_of_has hhas
    have hf := hi.fits x
    refine hi.write hx rfl rfl rfl ⟨hf.in_loop, hf.no_close_cb, hf.uninitialized⟩
      (hi.closed_update id)
      (hi.parents_update fun _ => id) hi.no_busy_loop hi.no_freed_loop ?_ ?_
    · intro z
      have hle := hi.refs_le hx z
      have hheld : held ((Py_DECREF s y).set x
          { s.obj x with dict := (s.obj x).dict.erase y }) z = held s z := by
        by_cases hzx : z = x
        · subst hzx
          simp [St.set, Py_DECREF, held, closing]
        · simp [St.set, Py_DECREF, held, hzx]
      rw [hheld]
      by_cases hzy : z = y
      · subst hzy
        have hpos : 0 < (s.obj x).dict.count z := List.count_pos_iff.mpr hmem
        simp [St.set, Py_DECREF, refs, List.count_erase_self] at hle ⊢
        omega
      · simp [St.set, Py_DECREF, refs, hzy, List.count_erase_of_ne hzy]
    · intro z hz
      by_cases hzy : z = y
      · subst hzy
        simp [St.set, Py_DECREF] at hz
        omega
      · simp [St.set, Py_DECREF, hzy] at hz
  · cases hstep

theorem Inv.dead (hi : Inv s) (hx : x ∉ s.alive) : s.refcnt x = 0 ∧ held s x = 0 := by
  have hzero : s.refcnt x = 0 := by
    by_contra hpos
    exact hx (hi.balanced.live x (by omega))
  have hcount := hi.balanced.counts x
  omega

theorem new_object_inv (hi : Inv s) (kind : Kind) : Inv (new_object s kind) := by
  have hdead : s.next ∉ s.alive := fun hmem => Nat.lt_irrefl _ (hi.known _ hmem)
  have hzero := (hi.dead hdead).2
  refine ⟨?_, ?_, ?_, ?_, ?_, ?_, hi.no_busy_loop, hi.no_freed_loop⟩
  · have hgraph : graph (new_object s kind) = Function.update (graph s) s.next 0 := by
      funext y
      by_cases hy : y = s.next
      · subst hy
        simp [graph, new_object, fresh, refs]
      · simp [graph, new_object, hy]
    rw [hgraph]
    refine hi.balanced.alloc hdead (fun y hy => ?_) ?_
    · simp [new_object, held, hy]
    · simp only [held] at hzero
      simp [new_object, held, fresh, closing]
      omega
  · intro y hy
    simp only [new_object, Finset.mem_insert] at hy ⊢
    rcases hy with rfl | hy
    · omega
    · have hlt := hi.known y hy
      omega
  · intro y
    by_cases hy : y = s.next
    · subst hy
      exact ⟨by simp [new_object, fresh, Uv.loop], by simp [new_object, fresh],
        by simp [new_object, fresh]⟩
    · simpa [new_object, hy] using hi.fits y
  · intro y hy
    by_cases hyn : y = s.next
    · simp [new_object, hyn]
    · simp only [new_object, Function.update_of_ne hyn, Finset.mem_insert] at hy ⊢
      exact .inr (hi.in_loop_alive y hy)
  · intro y hy
    have hyn : y ≠ s.next := by
      rintro rfl
      have hcount : 0 < s.frames.count (.close_cb s.next) := List.count_pos_iff.mpr hy
      simp only [held] at hzero
      omega
    simpa [new_object, hyn] using hi.closed_frames y hy
  · intro p hp hparent
    have hopened := hi.parents p hp hparent
    have hpn : p.handle ≠ s.next := by
      intro heq
      have halive := hi.in_loop_alive p.handle (by simp [hopened, Uv.loop])
      exact hdead (heq ▸ halive)
    simpa [new_object, hpn] using hopened

/-! ## The methods of a handle -/

theorem is_open_iff : is_open o = true ↔ ∃ l, o.uv = .opened l := by
  unfold is_open
  split
  · rename_i l hl
    simp [hl]
  · rename_i hne
    constructor
    · intro hfalse
      cases hfalse
    · rintro ⟨l, hl⟩
      exact absurd hl (hne l)

theorem initialize_handle_inv (hi : Inv s) (hstep : initialize_handle s h l = some t) :
    Inv t := by
  simp only [initialize_handle] at hstep
  split at hstep
  · rename_i hguard
    obtain ⟨hhas, hloop, hkind, -, hinit⟩ := hguard
    cases hstep
    have hh := hi.alive_of_has hhas
    have hl := hi.alive_of_has hloop
    obtain ⟨huv, hnone⟩ := (hi.fits h).uninitialized hinit
    have hcb := (hi.fits h).no_close_cb (.inl huv)
    refine hi.write hh rfl rfl rfl ⟨?_, fun _ => hcb, by simp⟩ (hi.closed_update (by simp [huv]))
      (hi.parents_update (by simp [huv])) hi.no_busy_loop hi.no_freed_loop ?_ ?_
    · rintro k ⟨⟩
      exact ⟨hkind, rfl⟩
    · intro y
      have hheld : held ((Py_INCREF s l).set h
          { s.obj h with loop := some l, initialized := true, uv := .opened l }) y = held s y := by
        by_cases hyh : y = h
        · subst hyh
          simp [St.set, Py_INCREF, held, closing, huv]
        · simp [St.set, Py_INCREF, held, hyh]
      rw [hheld]
      by_cases hyl : y = l
      · subst hyl
        simp [St.set, Py_INCREF, refs, hnone, hcb]
        omega
      · simp [St.set, Py_INCREF, refs, hnone, hcb, hyl, Ne.symm hyl]
    · intro y hy
      by_cases hyl : y = l
      · exact hyl ▸ hl
      · simp [St.set, Py_INCREF, hyl] at hy
  · cases hstep

/-- Only the contexts change. -/
theorem Inv.with_ctxs (hi : Inv s) (cs : List PollCtx)
    (hctxs : ∀ p ∈ cs, p.parent = true → (s.obj p.handle).uv = .opened p.loop) :
    Inv { s with ctxs := cs } :=
  ⟨hi.balanced, hi.known, hi.fits, hi.in_loop_alive, hi.closed_frames, hctxs, hi.no_busy_loop,
    hi.no_freed_loop⟩

theorem uv_fs_poll_start_inv (hi : Inv s) (hl : (s.obj h).uv = .opened l) :
    Inv (uv_fs_poll_start s h l) := by
  unfold uv_fs_poll_start
  split
  · exact hi
  · refine hi.with_ctxs _ fun p hp hparent => ?_
    rcases List.mem_append.mp hp with hp | hp
    · exact hi.parents p hp hparent
    · rw [List.mem_singleton.mp hp]
      exact hl

/-- The contexts that are left have another parent. -/
theorem mem_of_stopped {p : PollCtx} (hp : p ∈ (uv_fs_poll_stop s h).ctxs)
    (hparent : p.parent = true) : p ∈ s.ctxs ∧ p.handle ≠ h := by
  obtain ⟨q, hq, rfl⟩ := List.mem_map.mp hp
  split at hparent
  · cases hparent
  · rename_i hother
    rw [if_neg hother]
    refine ⟨hq, fun heq => hother ?_⟩
    simp [PollCtx.is_of, hparent, heq]

theorem Inv.stopped_update (hi : Inv s) :
    ∀ p ∈ (uv_fs_poll_stop s h).ctxs, p.parent = true →
      (Function.update s.obj h o p.handle).uv = .opened p.loop := by
  intro p hp hparent
  obtain ⟨hmem, hne⟩ := mem_of_stopped hp hparent
  rw [Function.update_of_ne hne]
  exact hi.parents p hmem hparent

theorem uv_fs_poll_stop_inv (hi : Inv s) : Inv (uv_fs_poll_stop s h) :=
  hi.with_ctxs _ fun p hp hparent => hi.parents p (mem_of_stopped hp hparent).1 hparent

theorem add_pyref_inv (hi : Inv s) (hh : h ∈ s.alive) (hpyref : (s.obj h).pyref = false) :
    Inv ((Py_INCREF s h).set h { s.obj h with pyref := true }) := by
  have hf := hi.fits h
  refine hi.write hh rfl rfl rfl ⟨hf.in_loop, hf.no_close_cb, hf.uninitialized⟩
    (hi.closed_update id) (hi.parents_update fun _ => id) hi.no_busy_loop hi.no_freed_loop ?_ ?_
  · intro y
    by_cases hyh : y = h
    · subst hyh
      simp [St.set, Py_INCREF, held, closing, refs, hpyref]
      omega
    · simp [St.set, Py_INCREF, held, refs, hyh]
  · intro y hy
    by_cases hyh : y = h
    · exact hyh ▸ hh
    · simp [St.set, Py_INCREF, hyh] at hy

theorem drop_pyref_inv (hi : Inv s) (hh : h ∈ s.alive) (hpyref : (s.obj h).pyref = true) :
    Inv ((Py_DECREF s h).set h { s.obj h with pyref := false }) := by
  have hf := hi.fits h
  refine hi.write hh rfl rfl rfl ⟨hf.in_loop, hf.no_close_cb, hf.uninitialized⟩
    (hi.closed_update id) (hi.parents_update fun _ => id) hi.no_busy_loop hi.no_freed_loop ?_ ?_
  · intro y
    have hle := hi.refs_le hh y
    by_cases hyh : y = h
    · subst hyh
      simp [St.set, Py_DECREF, held, closing, refs, hpyref] at hle ⊢
      omega
    · simp [St.set, Py_DECREF, held, refs, hyh]
  · intro y hy
    by_cases hyh : y = h
    · exact hyh ▸ hh
    · simp [St.set, Py_DECREF, hyh] at hy

/-- What a start method does before PYUV_HANDLE_INCREF. -/
def started (s : St) (h l : Nat) : St :=
  if (s.obj h).kind = .FSPoll then uv_fs_poll_start s h l else s

theorem started_inv (hi : Inv s) (hl : (s.obj h).uv = .opened l) :
    Inv (started s h l) ∧ (started s h l).obj = s.obj ∧ (started s h l).alive = s.alive := by
  unfold started
  split
  · refine ⟨uv_fs_poll_start_inv hi hl, ?_⟩
    unfold uv_fs_poll_start
    split <;> exact ⟨rfl, rfl⟩
  · exact ⟨hi, rfl, rfl⟩

theorem start_inv (hi : Inv s) (hstep : start s h = some t) : Inv t := by
  simp only [start] at hstep
  split at hstep
  · rename_i l hl
    split at hstep
    · rename_i hhas
      cases hstep
      obtain ⟨hu, hobj, halive⟩ := started_inv hi hl
      change Inv (if (s.obj h).pyref = true then started s h l
        else (Py_INCREF (started s h l) h).set h { s.obj h with pyref := true })
      split
      · exact hu
      · rename_i hpyref
        have hadd := add_pyref_inv (h := h) hu (halive ▸ hi.alive_of_has hhas)
          (by rw [hobj]; simpa using hpyref)
        rwa [hobj] at hadd
    · cases hstep
  · cases hstep

theorem stop_inv (hi : Inv s) (hstep : stop s h = some t) : Inv t := by
  simp only [stop] at hstep
  split at hstep
  · rename_i hopen
    cases hstep
    obtain ⟨l, hl⟩ := is_open_iff.mp hopen
    have hh : h ∈ s.alive := hi.in_loop_alive h (by simp [hl, Uv.loop])
    have hstopped := uv_fs_poll_stop_inv (h := h) hi
    split
    · rename_i hpyref
      exact drop_pyref_inv hstopped hh hpyref
    · exact hstopped
  · cases hstep

theorem Handle_func_close_inv {callback : Option Nat} (hi : Inv s)
    (hstep : Handle_func_close s h callback = some t) : Inv t := by
  simp only [Handle_func_close] at hstep
  split at hstep
  · rename_i l hl
    split at hstep
    · rename_i hguard
      obtain ⟨hhas, hcallback⟩ := hguard
      cases hstep
      have hh := hi.alive_of_has hhas
      have hf := hi.fits h
      have hcb := hf.no_close_cb (.inr (is_open_iff.mpr ⟨l, hl⟩))
      obtain ⟨hkind, hloop⟩ := hf.in_loop l (by simp [hl, Uv.loop])
      have hinit : (s.obj h).initialized = true := by
        by_contra hinit
        have huv := (hf.uninitialized (by simpa using hinit)).1
        simp [hl] at huv
      cases callback with
      | none =>
        refine hi.write hh rfl rfl rfl ⟨?_, by simp [is_open], by simp [hinit]⟩
          (hi.closed_update (by simp [hl])) hi.stopped_update hi.no_busy_loop hi.no_freed_loop ?_ ?_
        · rintro k ⟨⟩
          exact ⟨hkind, hloop⟩
        · intro y
          by_cases hyh : y = h
          · subst hyh
            simp [St.set, Py_INCREF, uv_fs_poll_stop, held, closing, refs, hl, hcb]
            omega
          · simp [St.set, Py_INCREF, uv_fs_poll_stop, held, refs, hyh, hcb]
        · intro y hy
          by_cases hyh : y = h
          · exact hyh ▸ hh
          · simp [St.set, Py_INCREF, uv_fs_poll_stop, hyh] at hy
      | some c =>
        have hc := hi.alive_of_has (hcallback c rfl)
        refine hi.write hh rfl rfl rfl ⟨?_, by simp [is_open], by simp [hinit]⟩
          (hi.closed_update (by simp [hl])) hi.stopped_update hi.no_busy_loop hi.no_freed_loop ?_ ?_
        · rintro k ⟨⟩
          exact ⟨hkind, hloop⟩
        · intro y
          by_cases hyh : y = h
          · subst hyh
            by_cases hyc : y = c
            · subst hyc
              simp [St.set, Py_INCREF, uv_fs_poll_stop, held, closing, refs, hl, hcb]
              omega
            · simp [St.set, Py_INCREF, uv_fs_poll_stop, held, closing, refs, hl, hcb,
                hyc, Ne.symm hyc]
              omega
          · by_cases hyc : y = c
            · subst hyc
              simp [St.set, Py_INCREF, uv_fs_poll_stop, held, refs, hyh, hcb]
              omega
            · simp [St.set, Py_INCREF, uv_fs_poll_stop, held, refs, hyh, hcb, hyc, Ne.symm hyc]
        · intro y hy
          by_cases hyh : y = h
          · exact hyh ▸ hh
          · by_cases hyc : y = c
            · exact hyc ▸ hc
            · simp [St.set, Py_INCREF, uv_fs_poll_stop, hyh, hyc] at hy
    · cases hstep
  · cases hstep

/-! ## The loop -/

/-- The objects stay as they are, and the C code on the stack takes or drops a reference. -/
theorem Inv.frames (hi : Inv s) (hobj : t.obj = s.obj) (halive : t.alive = s.alive)
    (hnext : t.next = s.next) (hframes : ∀ y, .close_cb y ∈ t.frames → .close_cb y ∈ s.frames)
    (hctxs : t.ctxs = s.ctxs) (hbusy : t.busy_loop = s.busy_loop)
    (hfreed : t.freed_loop = s.freed_loop)
    (hcnt : ∀ y, t.refcnt y + held s y = s.refcnt y + held t y)
    (hlive : ∀ y, s.refcnt y < t.refcnt y → y ∈ s.alive) : Inv t := by
  have hgraph : graph t = graph s := by
    funext y
    simp [graph, hobj]
  refine ⟨⟨fun y => ?_, fun y hy => ?_⟩, ?_, ?_, ?_, ?_, ?_, hbusy.trans hi.no_busy_loop,
    hfreed.trans hi.no_freed_loop⟩
  · rw [hgraph, halive]
    have hold := hi.balanced.counts y
    have hnew := hcnt y
    omega
  · rw [halive]
    by_cases hgrow : s.refcnt y < t.refcnt y
    · exact hlive y hgrow
    · exact hi.balanced.live y (by omega)
  · rw [halive, hnext]
    exact hi.known
  · rw [hobj]
    exact hi.fits
  · rw [hobj, halive]
    exact hi.in_loop_alive
  · rw [hobj]
    exact fun y hy => hi.closed_frames y (hframes y hy)
  · rw [hctxs, hobj]
    exact hi.parents

theorem Loop_func_run_inv (hi : Inv s) (hstep : Loop_func_run s l = some t) : Inv t := by
  simp only [Loop_func_run] at hstep
  split at hstep
  · rename_i hguard
    cases hstep
    have hl := hi.alive_of_has hguard.1
    refine hi.frames rfl rfl rfl (by simp) rfl rfl rfl ?_ ?_
    · intro y
      by_cases hyl : y = l
      · subst hyl
        simp [Py_INCREF, held]
        omega
      · simp [Py_INCREF, held, hyl, Ne.symm hyl]
    · intro y hy
      by_cases hyl : y = l
      · exact hyl ▸ hl
      · simp [Py_INCREF, hyl] at hy
  · cases hstep

theorem run_return_inv (hi : Inv s) (hstep : run_return s = some t) : Inv t := by
  unfold run_return at hstep
  split at hstep
  · rename_i l fs hfs
    cases hstep
    refine hi.frames rfl rfl rfl (by simp [hfs]) rfl rfl rfl ?_ ?_
    · intro y
      have hcount := hi.balanced.counts y
      by_cases hyl : y = l
      · subst hyl
        simp [Py_DECREF, held, hfs] at hcount ⊢
        omega
      · simp [Py_DECREF, held, hfs, hyl, Ne.symm hyl]
    · intro y hy
      by_cases hyl : y = l
      · subst hyl
        simp [Py_DECREF] at hy
        omega
      · simp [Py_DECREF, hyl] at hy
  · cases hstep

theorem Fits.initialized_of_in_loop (hf : Fits o) (hl : o.uv.loop ≠ none) :
    o.initialized = true := by
  by_contra hinit
  have huv := (hf.uninitialized (by simpa using hinit)).1
  simp [huv, Uv.loop] at hl

/-- The record of a handle that libuv has let go. -/
theorem Fits.closed (hf : Fits o) (hl : o.uv.loop ≠ none) : Fits { o with uv := .closed } where
  in_loop k hk := by simp [Uv.loop] at hk
  no_close_cb hopen := by simp [is_open] at hopen
  uninitialized hinit := by simp [hf.initialized_of_in_loop hl] at hinit

theorem uv__finish_close_inv (hi : Inv s) (hstep : uv__finish_close s h = some t) : Inv t := by
  simp only [uv__finish_close] at hstep
  split at hstep
  · rename_i l k fs huv hfs
    split at hstep
    · cases hstep
      have hin : (s.obj h).uv.loop ≠ none := by simp [huv, Uv.loop]
      have hh := hi.in_loop_alive h hin
      refine hi.write hh rfl rfl rfl ((hi.fits h).closed hin) (hi.closed_update fun _ => rfl)
        (hi.parents_update (by simp [huv])) hi.no_busy_loop hi.no_freed_loop ?_ ?_
      · intro y
        have hle := hi.refs_le hh y
        by_cases hyh : y = h
        · subst hyh
          simp [St.set, Py_DECREF, held, closing, refs, huv] at hle ⊢
          omega
        · simp [St.set, Py_DECREF, held, refs, hyh]
      · intro y hy
        by_cases hyh : y = h
        · exact hyh ▸ hh
        · simp [St.set, Py_DECREF, hyh] at hy
    · cases hstep
  · rename_i l k fs huv hfs
    split at hstep
    · cases hstep
      have hin : (s.obj h).uv.loop ≠ none := by simp [huv, Uv.loop]
      have hh := hi.in_loop_alive h hin
      have hframes : ∀ y, .close_cb y ∈ .close_cb h :: s.frames →
          (Function.update s.obj h { s.obj h with uv := .closed } y).uv = .closed := by
        intro y hy
        rcases List.mem_cons.mp hy with heq | hy
        · cases heq
          simp
        · exact hi.closed_update (fun _ => rfl) y hy
      refine hi.write hh rfl rfl rfl ((hi.fits h).closed hin) hframes
        (hi.parents_update (by simp [huv])) hi.no_busy_loop hi.no_freed_loop ?_ (by simp [St.set])
      intro y
      by_cases hyh : y = h
      · subst hyh
        simp [St.set, held, closing, refs, huv]
        omega
      · simp [St.set, held, refs, hyh, Ne.symm hyh]
    · cases hstep
  · cases hstep

theorem close_cb_return_inv (hi : Inv s) (hstep : close_cb_return s = some t) : Inv t := by
  simp only [close_cb_return] at hstep
  split at hstep
  · rename_i h fs hfs
    cases hstep
    have hclosed := hi.closed_frames h (by simp [hfs])
    have hh : h ∈ s.alive := hi.balanced.alive_of_held (held_of_close_cb (by simp [hfs]))
    have hf := hi.fits h
    have hinit : (s.obj h).initialized = true := by
      by_contra hinit
      have huv := (hf.uninitialized (by simpa using hinit)).1
      simp [hclosed] at huv
    have hframes : ∀ y, .close_cb y ∈ fs → (Function.update s.obj h
        { s.obj h with on_close_cb := none, loop := none, pyref := false } y).uv = .closed := by
      intro y hy
      refine hi.closed_update ?_ y (by simp [hfs, hy])
      exact id
    refine hi.write hh (by split <;> rfl) (by split <;> rfl) (by split <;> rfl)
      ⟨by simp [hclosed, Uv.loop], fun _ => rfl, by simp [hinit]⟩ hframes
      (by split <;> exact hi.parents_update fun _ => id) (by split <;> exact hi.no_busy_loop)
      (by split <;> exact hi.no_freed_loop) ?_ ?_
    · intro y
      have hle := hi.refs_le hh y
      by_cases hyh : y = h
      · subst hyh
        cases hpyref : (s.obj y).pyref <;>
          simp [St.set, Py_DECREF, drop_all, held, closing, refs, hfs, hpyref] at hle ⊢ <;> omega
      · cases hpyref : (s.obj h).pyref <;>
          simp [St.set, Py_DECREF, drop_all, held, refs, hfs, hyh, Ne.symm hyh] at hle ⊢ <;> omega
    · intro y hy
      by_cases hyh : y = h
      · exact hyh ▸ hh
      · cases hpyref : (s.obj h).pyref <;> simp [St.set, Py_DECREF, drop_all, hpyref, hyh] at hy <;>
          omega
  · cases hstep

/-! ## The contexts of FSPoll -/

theorem ctx_at_eq_some {i : Nat} {stage : Stage} {p : PollCtx} (h : ctx_at s i stage = some p) :
    p ∈ s.ctxs := by
  unfold ctx_at at h
  split at h
  · rename_i q k fs hget hfs
    split at h
    · cases h
      exact List.mem_of_getElem? hget
    · cases h
  · cases h

theorem set_stage_inv (hi : Inv s) {p : PollCtx} (hp : p ∈ s.ctxs) (i : Nat) (stage : Stage) :
    Inv (set_stage s i p stage) := by
  refine hi.with_ctxs _ fun q hq hparent => ?_
  rcases List.mem_or_eq_of_mem_set hq with hq | rfl
  · exact hi.parents q hq hparent
  · exact hi.parents p hp hparent

/-- Each step of a context changes where it is at. -/
theorem ctx_step_inv (hi : Inv s) {i : Nat} {stage : Stage} {next : PollCtx → Stage}
    (hstep : (ctx_at s i stage).map (fun p => set_stage s i p (next p)) = some t) : Inv t := by
  obtain ⟨p, hp, rfl⟩ := Option.map_eq_some_iff.mp hstep
  exact set_stage_inv hi (ctx_at_eq_some hp) i _

theorem timer_close_cb_inv (hi : Inv s) {i : Nat}
    (hstep : timer_close_cb s i = some t) : Inv t := by
  obtain ⟨p, -, rfl⟩ := Option.map_eq_some_iff.mp hstep
  exact hi.with_ctxs _ fun q hq hparent => hi.parents q (List.mem_of_mem_eraseIdx hq) hparent

/-! ## Deallocation -/

/-- An object that nobody refers to, and that is in no loop, goes with its references. -/
theorem release_inv (hi : Inv s) (hx : x ∈ s.alive) (hzero : s.refcnt x = 0)
    (hout : (s.obj x).uv.loop = none) : Inv (release s x) := by
  have hbalanced : Balanced (s.alive.erase x) (graph s) (held s) (release s x).refcnt := by
    refine hi.balanced.free hx hzero (fun y => ?_)
    have hle := hi.refs_le hx y
    simp only [release, drop_all, graph, Multiset.coe_count]
    omega
  refine ⟨hbalanced, ?_, hi.fits, ?_, hi.closed_frames, hi.parents, hi.no_busy_loop,
    hi.no_freed_loop⟩
  · intro y hy
    exact hi.known y (Finset.mem_of_mem_erase hy)
  · intro y hy
    refine Finset.mem_erase.mpr ⟨?_, hi.in_loop_alive y hy⟩
    rintro rfl
    exact hy hout

/-- A handle that libuv has in no loop, or a Loop or another object. -/
theorem Fits.out_of_loop (hf : Fits o) (hkind : o.kind.is_handle = false) : o.uv.loop = none := by
  by_contra hin
  obtain ⟨l, hl⟩ := Option.ne_none_iff_exists'.mp hin
  have hyes := (hf.in_loop l hl).1
  rw [hkind] at hyes
  cases hyes

/-- No handle is left in the queue of a Loop that nobody refers to. -/
theorem Loop_tp_dealloc_inv (hi : Inv s) (hx : x ∈ s.alive) (hzero : s.refcnt x = 0)
    (hkind : (s.obj x).kind = .Loop) (hctx : ¬leaves_ctx s x) : Inv (Loop_tp_dealloc s x) := by
  have hrel := release_inv hi hx hzero ((hi.fits x).out_of_loop (by rw [hkind]; rfl))
  have hnone : handles_of s x = [] := by
    rw [List.eq_nil_iff_forall_not_mem]
    intro h hmem
    simp only [handles_of, List.mem_filter, decide_eq_true_eq] at hmem
    have hpos := (hi.loop_alive hmem.2).2
    omega
  have hctxs : ctxs_of s x = [] := by
    rw [List.eq_nil_iff_forall_not_mem]
    intro p hmem
    simp only [ctxs_of, List.mem_filter, decide_eq_true_eq] at hmem
    obtain ⟨hp, hloop⟩ := hmem
    cases hparent : p.parent with
    | false => exact hctx ⟨p, hp, hloop, hparent⟩
    | true =>
      -- a context with its FSPoll has a handle in the queue
      have hopened := hi.parents p hp hparent
      have hpos := (hi.loop_alive (h := p.handle) (l := x) (by rw [hopened, hloop]; rfl)).2
      omega
  exact { hrel with no_busy_loop := by simp [Loop_tp_dealloc, hi.no_busy_loop, hnone, hctxs] }

theorem Handle_tp_dealloc_inv (hi : Inv s) (hx : x ∈ s.alive) (hzero : s.refcnt x = 0) :
    Inv (Handle_tp_dealloc s x) := by
  unfold Handle_tp_dealloc
  dsimp only
  split
  · -- the object is given back, and lives until libuv has closed the handle
    rename_i l hl
    have hf := hi.fits x
    obtain ⟨hkind, hloop⟩ := hf.in_loop l (by simp [hl, Uv.loop])
    have hinit := hf.initialized_of_in_loop (by simp [hl, Uv.loop])
    have halive : l ∈ s.alive :=
      hi.balanced.live l (hi.loop_alive (h := x) (by simp [hl, Uv.loop])).2
    refine hi.write hx rfl rfl rfl ⟨?_, by simp [is_open], by simp [hinit]⟩
      (hi.closed_update (by simp [hl])) hi.stopped_update hi.no_busy_loop
      (by simp [hi.no_freed_loop, halive]) ?_ ?_
    · rintro k ⟨⟩
      exact ⟨hkind, hloop⟩
    · intro y
      by_cases hyx : y = x
      · subst hyx
        simp [St.set, Py_INCREF, uv_fs_poll_stop, held, closing, refs, hl]
        omega
      · simp [St.set, Py_INCREF, uv_fs_poll_stop, held, refs, hyx]
    · intro y hy
      by_cases hyx : y = x
      · exact hyx ▸ hx
      · simp [St.set, Py_INCREF, uv_fs_poll_stop, hyx] at hy
  · rename_i hne
    refine release_inv hi hx hzero ?_
    by_contra hin
    have hheld : 0 < held s x := by
      unfold held closing
      split
      · have hone : Bool.toNat true = 1 := rfl
        omega
      · rename_i hnc
        cases huv : (s.obj x).uv with
        | none => simp [huv, Uv.loop] at hin
        | closed => simp [huv, Uv.loop] at hin
        | opened l => exact absurd huv (hne l)
        | closing l d => exact absurd huv (hnc l d)
    have hcount := hi.balanced.counts x
    omega

theorem tp_dealloc_inv (hi : Inv s) (hkept : ¬abandons s (.dealloc x))
    (hstep : tp_dealloc s x = some t) : Inv t := by
  unfold tp_dealloc at hstep
  split at hstep
  · rename_i hguard
    obtain ⟨hx, hzero⟩ := hguard
    split at hstep
    · rename_i hkind
      cases hstep
      exact Loop_tp_dealloc_inv hi hx hzero hkind fun hctx => hkept ⟨hkind, hctx⟩
    · cases hstep
      exact Handle_tp_dealloc_inv hi hx hzero
    · cases hstep
      exact Handle_tp_dealloc_inv hi hx hzero
    · rename_i hkind
      cases hstep
      exact release_inv hi hx hzero ((hi.fits x).out_of_loop (by rw [hkind]; rfl))
  · cases hstep

/-! ## The collector -/

theorem gc_begin_inv {xs : List Nat} (hi : Inv s) (hstep : gc_begin s xs = some t) : Inv t := by
  unfold gc_begin at hstep
  split at hstep
  · cases hstep
    exact hi.frames rfl rfl rfl (fun _ => id) rfl rfl rfl (fun _ => rfl) (by simp)
  · cases hstep

theorem tp_clear_inv (hi : Inv s) (hx : x ∈ s.alive) (hout : (s.obj x).uv.loop = none) :
    Inv (tp_clear s x) := by
  have hf := hi.fits x
  refine hi.write hx rfl rfl rfl ⟨?_, fun _ => rfl, fun hinit => ⟨(hf.uninitialized hinit).1, rfl⟩⟩
    (hi.closed_update id)
      (hi.parents_update fun _ => id) hi.no_busy_loop hi.no_freed_loop ?_ ?_
  · intro l hl
    exact absurd (hout.symm.trans hl) (by simp)
  · intro y
    have hle := hi.refs_le hx y
    have hheld : held (tp_clear s x) y = held s y := by
      by_cases hyx : y = x
      · subst hyx
        simp [tp_clear, St.set, drop_all, held, closing]
      · simp [tp_clear, St.set, drop_all, held, hyx]
    have hcnt : (tp_clear s x).refcnt y = s.refcnt y - (refs (s.obj x)).count y := rfl
    -- what is cleared holds no references
    change (tp_clear s x).refcnt y + held s y + (refs (s.obj x)).count y =
      s.refcnt y + held (tp_clear s x) y + 0
    rw [hheld, hcnt]
    omega
  · intro y hy
    simp [tp_clear, St.set, drop_all] at hy
    omega

theorem gc_clear_inv (hi : Inv s) (hclear : ¬abandons s (.gc_clear x))
    (hstep : gc_clear s x = some t) : Inv t := by
  unfold gc_clear at hstep
  split at hstep
  · rename_i hgarbage
    cases hstep
    have hi' : Inv { s with garbage := s.garbage.erase x } :=
      hi.frames rfl rfl rfl (fun _ => id) rfl rfl rfl (fun _ => rfl) (by simp)
    split
    · rename_i hx
      refine tp_clear_inv hi' hx ?_
      by_contra hin
      exact hclear ⟨hgarbage, hx, hin⟩
    · exact hi'
  · cases hstep

/-! ## Runs -/

theorem step_inv {a : Act} (hi : Inv s) (hclear : ¬abandons s a) (hstep : step s a = some t) :
    Inv t := by
  cases a with
  | new kind =>
    cases hstep
    exact new_object_inv hi kind
  | load x y => exact load_inv hi hstep
  | handles l h => exact Loop_handles_get_inv hi hstep
  | drop x => exact drop_user_inv hi hstep
  | setattr x y => exact setattr_inv hi hstep
  | delattr x y => exact delattr_inv hi hstep
  | init h l => exact initialize_handle_inv hi hstep
  | start h => exact start_inv hi hstep
  | stop h => exact stop_inv hi hstep
  | close h callback => exact Handle_func_close_inv hi hstep
  | run l => exact Loop_func_run_inv hi hstep
  | finish_close h => exact uv__finish_close_inv hi hstep
  | close_cb_return => exact close_cb_return_inv hi hstep
  | run_return => exact run_return_inv hi hstep
  | poll_cb i => exact ctx_step_inv hi hstep
  | poll_cb_return i => exact ctx_step_inv hi hstep
  | timer_cb i => exact ctx_step_inv hi hstep
  | timer_close_cb i => exact timer_close_cb_inv hi hstep
  | dealloc x => exact tp_dealloc_inv hi hclear hstep
  | gc_begin xs => exact gc_begin_inv hi hstep
  | gc_clear x => exact gc_clear_inv hi hclear hstep

theorem start_state_inv : Inv start_state := by
  refine ⟨⟨fun x => ?_, ?_⟩, ?_, fun x => ?_, ?_, ?_, by simp [start_state], rfl, rfl⟩
  · simp [start_state, held, closing, fresh, inrefs]
  · simp [start_state]
  · simp [start_state]
  · exact ⟨by simp [start_state, fresh, Uv.loop], fun _ => rfl, fun _ => ⟨rfl, rfl⟩⟩
  · simp [start_state, fresh, Uv.loop]
  · simp [start_state]

/-- A handle that is cleared has no Loop any more, and libuv has it still. A Loop that goes before
its stats is not closed. -/
theorem not_safe_of_abandons {a : Act} (hclear : abandons s a) (hstep : step s a = some t) :
    ¬Safe t := by
  cases a with
  | gc_clear x =>
    obtain ⟨hgarbage, hx, hin⟩ := hclear
    obtain ⟨l, hl⟩ := Option.ne_none_iff_exists'.mp hin
    simp only [step, gc_clear, hgarbage, if_true] at hstep
    rw [if_pos hx] at hstep
    cases hstep
    intro hsafe
    have howns := hsafe.owns x l (by simpa [tp_clear, St.set] using hl)
    simp [tp_clear, St.set] at howns
  | dealloc x =>
    obtain ⟨hkind, p, hp, hloop, -⟩ := hclear
    have hleft : ctxs_of s x ≠ [] := by
      refine List.ne_nil_of_mem (a := p) ?_
      simp [ctxs_of, hp, hloop]
    simp only [step, tp_dealloc] at hstep
    split at hstep
    · rw [hkind] at hstep
      cases hstep
      intro hsafe
      have hbusy := hsafe.no_busy_loop
      simp [Loop_tp_dealloc, hleft] at hbusy
    · cases hstep
  | _ => exact hclear.elim

/-- p = FSPoll(loop); p.start(..); p.close(); loop.run(UV_RUN_NOWAIT), which does not wait for the
stat; del p, loop. -/
example : ∃ s, runs.exec step start_state [.new .Loop, .new .FSPoll, .init 1 0, .start 1,
    .close 1 none, .run 0, .finish_close 1, .close_cb_return, .run_return, .drop 1, .dealloc 1,
    .drop 0, .dealloc 0] = some s ∧ s.busy_loop = true :=
  ⟨_, rfl, rfl⟩

end

end pyuv.object_graph
