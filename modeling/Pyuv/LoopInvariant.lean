-- What holds of the loop between any two calls: the heap has the active timers, the lists of
-- libuv have the active watchers, active_handles counts the active handles with a reference,
-- and closing_handles are those that wait for the end of their closing.
import Pyuv.EventLoop
import Pyuv.TimerHeapSets

set_option linter.style.nameCheck false
set_option linter.unusedSectionVars false

namespace pyuv.uvloop

open timerheap

variable {P : Type} [DecidableEq P]

/-! ## Small facts -/

section

variable {l : Loop P} {x y : P} {f : Handle → Handle}

@[simp] theorem set_self : (l.set x f).handles x = f (l.handles x) := Function.update_self ..

theorem set_ne (h : y ≠ x) : (l.set x f).handles y = l.handles y := Function.update_of_ne h ..

@[simp] theorem set_active_handles : (l.set x f).active_handles = l.active_handles := rfl

theorem set_id (h : f (l.handles x) = l.handles x) : l.set x f = l := by
  unfold Loop.set
  rw [h, Function.update_eq_self]

/-- The order of the timers: by timeout, then by start. -/
def timer_key (l : Loop P) (x : P) : ℕ ×ₗ ℕ := toLex ((l.handles x).timeout, (l.handles x).start_id)

theorem timer_key_lt : timer_key l x < timer_key l y ↔
    (l.handles x).timeout < (l.handles y).timeout ∨
      (l.handles x).timeout = (l.handles y).timeout ∧
        (l.handles x).start_id < (l.handles y).start_id :=
  Prod.Lex.toLex_lt_toLex

theorem timer_less_than_eq (l : Loop P) (x y : P) :
    timer_less_than l x y = decide (timer_key l x < timer_key l y) := by
  unfold timer_less_than
  by_cases hlt : (l.handles x).timeout < (l.handles y).timeout
  · rw [decide_eq_true (timer_key_lt.mpr (.inl hlt))]
    exact if_pos hlt
  · by_cases hgt : (l.handles y).timeout < (l.handles x).timeout
    · rw [decide_eq_false (fun h => by have := timer_key_lt.mp h; omega)]
      simp only [if_neg hlt, if_pos hgt]
    · by_cases hid : (l.handles x).start_id < (l.handles y).start_id
      · rw [decide_eq_true (timer_key_lt.mpr (.inr ⟨by omega, hid⟩))]
        simp only [if_neg hlt, if_neg hgt, if_pos hid]
      · rw [decide_eq_false (fun h => by have := timer_key_lt.mp h; omega)]
        simp only [if_neg hlt, if_neg hgt, if_neg hid]

end

/-! ## The count of the active handles -/

variable [Fintype P]

/-- The handle is one of active_handles. -/
def counts (h : Handle) : Bool := h.active && h.ref

/-- The handles that keep the loop alive. -/
def referenced (l : Loop P) : Finset P := Finset.univ.filter fun x => counts (l.handles x)

/-- The count as it should be. -/
def recount (l : Loop P) : Loop P := { l with active_handles := (referenced l).card }

/-- active_handles is their number. -/
def Counted (l : Loop P) : Prop := l.active_handles = (referenced l).card

section

variable {l : Loop P} {x y : P} {f : Handle → Handle}

theorem mem_referenced : x ∈ referenced l ↔ counts (l.handles x) := by
  simp [referenced]

theorem referenced_set : referenced (l.set x f) =
    if counts (f (l.handles x)) then insert x (referenced l) else (referenced l).erase x := by
  ext y
  by_cases hyx : y = x
  · subst hyx
    by_cases hcounts : counts (f (l.handles y)) = true
    · rw [if_pos hcounts]
      simp [mem_referenced, hcounts]
    · rw [if_neg hcounts]
      simp [mem_referenced, hcounts]
  · split
    · simp [mem_referenced, set_ne hyx, hyx]
    · simp [mem_referenced, set_ne hyx, hyx]

theorem Counted.recount (h : Counted l) : uvloop.recount l = l := by
  unfold uvloop.recount
  rw [← h]

theorem counted_recount : Counted (recount l) := rfl

variable (hroom : Fintype.card P < UINT_SIZE)
include hroom

theorem referenced_lt : (referenced l).card < UINT_SIZE :=
  (Finset.card_le_univ _).trans_lt hroom

/-- A handle that is counted from now on. -/
theorem recount_add (hc : Counted l) (hnot : counts (l.handles x) = false)
    (hnow : counts (f (l.handles x)) = true) :
    uv__active_handle_add (l.set x f) = recount (l.set x f) := by
  unfold uv__active_handle_add recount
  rw [referenced_set, if_pos hnow]
  have hmem : x ∉ referenced l := by
    rw [mem_referenced, hnot]
    exact Bool.false_ne_true
  have hlt := referenced_lt (l := l.set x f) hroom
  rw [referenced_set, if_pos hnow, Finset.card_insert_of_notMem hmem] at hlt
  rw [Finset.card_insert_of_notMem hmem, set_active_handles, hc, Nat.mod_eq_of_lt hlt]

/-- A handle that is not counted any more. -/
theorem recount_rm (hc : Counted l) (hwas : counts (l.handles x) = true)
    (hnow : counts (f (l.handles x)) = false) :
    uv__active_handle_rm (l.set x f) = recount (l.set x f) := by
  unfold uv__active_handle_rm recount
  have hmem : x ∈ referenced l := mem_referenced.mpr hwas
  have hpos : 0 < (referenced l).card := Finset.card_pos.mpr ⟨x, hmem⟩
  have hlt := referenced_lt (l := l) hroom
  rw [referenced_set, if_neg (by rw [hnow]; exact Bool.false_ne_true),
    Finset.card_erase_of_mem hmem,
    set_active_handles, hc]
  have hshift : (referenced l).card + UINT_SIZE - 1 = ((referenced l).card - 1) + UINT_SIZE := by
    omega
  rw [hshift, Nat.add_mod_right, Nat.mod_eq_of_lt (by omega)]

omit hroom in
/-- A change that does not touch the count. -/
theorem recount_same (hc : Counted l) (hsame : counts (f (l.handles x)) = counts (l.handles x)) :
    l.set x f = recount (l.set x f) := by
  unfold recount
  rw [referenced_set, hsame]
  have hcard : (if counts (l.handles x) = true then insert x (referenced l)
      else (referenced l).erase x) = referenced l := by
    split
    · rename_i hcounts
      exact Finset.insert_eq_of_mem (mem_referenced.mpr hcounts)
    · rename_i hcounts
      exact Finset.erase_eq_of_notMem fun h => hcounts (mem_referenced.mp h)
  rw [hcard, ← hc]
  rfl

theorem handle_start_eq (hc : Counted l) :
    uv__handle_start l x = recount (l.set x fun h => { h with active := true }) := by
  unfold uv__handle_start
  by_cases hactive : (l.handles x).active = true
  · rw [if_pos hactive, set_id (by rw [← hactive]), hc.recount]
  · rw [if_neg hactive]
    dsimp only
    rw [set_self]
    by_cases href : (l.handles x).ref = true
    · rw [if_pos href]
      exact recount_add hroom hc (by simp [counts, hactive]) (by simp [counts, href])
    · rw [if_neg href]
      exact recount_same hc (by simp [counts, href])

theorem handle_stop_eq (hc : Counted l) :
    uv__handle_stop l x = recount (l.set x fun h => { h with active := false }) := by
  unfold uv__handle_stop
  by_cases hactive : (l.handles x).active = true
  · rw [if_pos hactive]
    dsimp only
    rw [set_self]
    by_cases href : (l.handles x).ref = true
    · rw [if_pos href]
      exact recount_rm hroom hc (by simp [counts, hactive, href]) (by simp [counts])
    · rw [if_neg href]
      exact recount_same hc (by simp [counts, href])
  · have hfalse : (l.handles x).active = false := by simpa using hactive
    rw [if_neg hactive, set_id (by rw [← hfalse]), hc.recount]

theorem handle_ref_eq (hc : Counted l) :
    uv__handle_ref l x = recount (l.set x fun h => { h with ref := true }) := by
  unfold uv__handle_ref
  by_cases href : (l.handles x).ref = true
  · rw [if_pos href, set_id (by rw [← href]), hc.recount]
  · rw [if_neg href]
    dsimp only
    rw [set_self]
    by_cases hactive : (l.handles x).active = true
    · rw [if_pos hactive]
      exact recount_add hroom hc (by simp [counts, href]) (by simp [counts, hactive])
    · rw [if_neg hactive]
      exact recount_same hc (by simp [counts, hactive])

theorem handle_unref_eq (hc : Counted l) :
    uv__handle_unref l x = recount (l.set x fun h => { h with ref := false }) := by
  unfold uv__handle_unref
  by_cases href : (l.handles x).ref = true
  · rw [if_pos href]
    dsimp only
    rw [set_self]
    by_cases hactive : (l.handles x).active = true
    · rw [if_pos hactive]
      exact recount_rm hroom hc (by simp [counts, hactive, href]) (by simp [counts])
    · rw [if_neg hactive]
      exact recount_same hc (by simp [counts, hactive])
  · have hfalse : (l.handles x).ref = false := by simpa using href
    rw [if_neg href, set_id (by rw [← hfalse]), hc.recount]

end

/-! ## The heap -/

/-- A timer that waits for its time. -/
def ticking (h : Handle) : Bool := h.active && decide (h.type = .UV_TIMER)

/-- All those. -/
def timers (l : Loop P) : Finset P := Finset.univ.filter fun x => ticking (l.handles x)

/-- The heap holds the timers that wait, in the order of their times. -/
def Heaped (l : Loop P) : Prop := Holds (timer_key l) l.timer_heap (timers l)

/-- The timer `x` after uv_timer_stop. -/
def stopped (l : Loop P) (x : P) (h : Heap P) : Loop P :=
  recount (({ l with timer_heap := h } : Loop P).set x fun h => { h with active := false })

/-- The timer `x` after uv_timer_start. -/
def started (l : Loop P) (x : P) (cb timeout repeat_ : ℕ) (h : Heap P) : Loop P :=
  recount (({ armed l x cb timeout repeat_ with timer_heap := h } : Loop P).set x
    fun h => { h with active := true })

section

variable {l m : Loop P} {x y : P} {f : Handle → Handle} {cb timeout repeat_ : ℕ}

theorem mem_timers : x ∈ timers l ↔ ticking (l.handles x) := by
  simp [timers]

theorem timers_update {g : Handle} (hl : m.handles = Function.update l.handles x g) :
    timers m = if ticking g then insert x (timers l) else (timers l).erase x := by
  ext y
  by_cases hyx : y = x
  · subst hyx
    by_cases hticking : ticking g = true
    · rw [if_pos hticking]
      simp [mem_timers, hl, hticking]
    · rw [if_neg hticking]
      simp [mem_timers, hl, hticking]
  · split
    · simp [mem_timers, hl, hyx]
    · simp [mem_timers, hl, hyx]

theorem timers_lt (hroom : Fintype.card P < UINT_SIZE) : (timers l).card < UINT_SIZE :=
  (Finset.card_le_univ _).trans_lt hroom

theorem timer_key_update {g : Handle} (hl : m.handles = Function.update l.handles x g)
    (h : y ≠ x) : timer_key m y = timer_key l y := by
  unfold timer_key
  rw [hl, Function.update_of_ne h]

theorem Heaped.congr (h : Heaped l) (hheap : m.timer_heap = l.timer_heap)
    (hticking : ∀ y, ticking (m.handles y) = ticking (l.handles y))
    (hkey : ∀ y, ticking (l.handles y) = true → timer_key m y = timer_key l y) : Heaped m := by
  have htimers : timers m = timers l := by
    ext y
    rw [mem_timers, mem_timers, hticking]
  unfold Heaped
  rw [hheap, htimers]
  exact Holds.congr h fun y hy => hkey y (mem_timers.mp hy)

/-- A change of a handle that is no active timer, before and after. -/
theorem Heaped.update {g : Handle} (h : Heaped l) (hheap : m.timer_heap = l.timer_heap)
    (hl : m.handles = Function.update l.handles x g) (hwas : ticking (l.handles x) = false)
    (hnow : ticking g = false) : Heaped m := by
  apply h.congr hheap
  · intro y
    by_cases hyx : y = x
    · rw [hl, hyx, Function.update_self, hnow, hwas]
    · rw [hl, Function.update_of_ne hyx]
  · intro y hy
    refine timer_key_update hl ?_
    rintro rfl
    rw [hwas] at hy
    cases hy

theorem stopped_handles (h : Heap P) : (stopped l x h).handles =
    Function.update l.handles x { l.handles x with active := false } := rfl

theorem stopped_self (h : Heap P) :
    (stopped l x h).handles x = { l.handles x with active := false } := by
  rw [stopped_handles, Function.update_self]

theorem started_handles (h : Heap P) : (started l x cb timeout repeat_ h).handles =
    Function.update l.handles x { l.handles x with
      active := true
      cb := some cb
      timeout := clamp l.time timeout
      repeat_ := repeat_
      start_id := l.timer_counter } := by
  unfold started recount armed Loop.set
  simp only [Function.update_self, Function.update_idem]

theorem armed_handles : (armed l x cb timeout repeat_).handles =
    Function.update l.handles x { l.handles x with
      cb := some cb
      timeout := clamp l.time timeout
      repeat_ := repeat_
      start_id := l.timer_counter } := rfl

variable (hroom : Fintype.card P < UINT_SIZE)
include hroom

theorem uv_timer_stop.spec (hc : Counted l) (hh : Heaped l)
    (htype : (l.handles x).type = .UV_TIMER) :
    ∃ h, uv_timer_stop l x = some (stopped l x h) ∧ Heaped (stopped l x h) := by
  unfold uv_timer_stop
  by_cases hactive : (l.handles x).active = true
  · have hmem : x ∈ timers l := mem_timers.mpr (by simp [ticking, hactive, htype])
    obtain ⟨h, hremove, hholds⟩ := heap_remove.spec (timer_less_than_eq l) hh hmem (timers_lt hroom)
    have hcounted : Counted ({ l with timer_heap := h } : Loop P) := hc
    rw [if_pos hactive, hremove, Option.map_some, handle_stop_eq hroom hcounted]
    refine ⟨h, rfl, ?_⟩
    have htimers : timers (stopped l x h) = (timers l).erase x :=
      (timers_update (stopped_handles h)).trans (if_neg (by simp [ticking]))
    unfold Heaped
    rw [htimers]
    refine Holds.congr hholds fun y hy => ?_
    exact timer_key_update (stopped_handles h) (Finset.ne_of_mem_erase hy)
  · have hfalse : (l.handles x).active = false := by simpa using hactive
    have hsame : stopped l x l.timer_heap = l := by
      unfold stopped
      rw [set_id (by rw [← hfalse]), hc.recount]
    rw [if_neg hactive]
    exact ⟨l.timer_heap, by rw [hsame], by rwa [hsame]⟩

/-- The start of a timer that is not active. -/
theorem timer_start_inactive (cb timeout repeat_ : ℕ) (hh : Heaped l)
    (htype : (l.handles x).type = .UV_TIMER) (hactive : (l.handles x).active = false) :
    ∃ h, heap_insert (timer_less_than (armed l x cb timeout repeat_))
        (armed l x cb timeout repeat_).timer_heap x = some h ∧
      Heaped (started l x cb timeout repeat_ h) := by
  have hwas : ticking (l.handles x) = false := by simp [ticking, hactive]
  have harmed : Heaped (armed l x cb timeout repeat_) :=
    hh.update rfl armed_handles hwas (by simp [ticking, hactive])
  have hout : x ∉ timers (armed l x cb timeout repeat_) := by
    rw [mem_timers, armed_handles, Function.update_self]
    simp [ticking, hactive]
  have hlt : (timers (armed l x cb timeout repeat_)).card + 1 < UINT_SIZE := by
    have hcard := Finset.card_le_univ (insert x (timers (armed l x cb timeout repeat_)))
    rw [Finset.card_insert_of_notMem hout] at hcard
    omega
  obtain ⟨h, hinsert, hholds⟩ := heap_insert.spec (timer_less_than_eq _) harmed hout hlt
  refine ⟨h, hinsert, ?_⟩
  have hsame : timers (armed l x cb timeout repeat_) = timers l := by
    rw [timers_update armed_handles, if_neg (by simp [ticking, hactive]),
      Finset.erase_eq_of_notMem (by rw [mem_timers, hwas]; exact Bool.false_ne_true)]
  have htimers : timers (started l x cb timeout repeat_ h) =
      insert x (timers (armed l x cb timeout repeat_)) := by
    rw [timers_update (started_handles h), if_pos (by simp [ticking, htype]), hsame]
  unfold Heaped
  rw [htimers]
  refine Holds.congr hholds fun y _ => ?_
  unfold timer_key
  rw [started_handles, armed_handles]
  by_cases hyx : y = x
  · rw [hyx, Function.update_self, Function.update_self]
  · rw [Function.update_of_ne hyx, Function.update_of_ne hyx]

omit hroom in
theorem started_stopped (h₁ h₂ : Heap P) :
    started (stopped l x h₁) x cb timeout repeat_ h₂ = started l x cb timeout repeat_ h₂ := by
  have hhandles :
    ({ armed (stopped l x h₁) x cb timeout repeat_ with timer_heap := h₂ } : Loop P).set x
        (fun h => { h with active := true }) =
      { ({ armed l x cb timeout repeat_ with timer_heap := h₂ } : Loop P).set x
          (fun h => { h with active := true }) with
        active_handles := (stopped l x h₁).active_handles } := by
    unfold armed stopped recount Loop.set
    simp only [Function.update_self, Function.update_idem]
  unfold started
  rw [hhandles]
  rfl

theorem uv_timer_start.spec (cb timeout repeat_ : ℕ) (hc : Counted l) (hh : Heaped l)
    (htype : (l.handles x).type = .UV_TIMER) :
    ∃ h, uv_timer_start l x (some cb) timeout repeat_ = some (0, started l x cb timeout repeat_ h) ∧
      Heaped (started l x cb timeout repeat_ h) := by
  obtain ⟨h₁, hstop, hstopped⟩ := uv_timer_stop.spec hroom hc hh htype
  have hhandle := stopped_self (l := l) (x := x) h₁
  obtain ⟨h₂, hinsert, hstarted⟩ := timer_start_inactive hroom (l := stopped l x h₁) (x := x)
    cb timeout repeat_ hstopped (by rw [hhandle]; exact htype)
    (by rw [hhandle])
  rw [started_stopped] at hstarted
  refine ⟨h₂, ?_, hstarted⟩
  have hcounted : Counted ({ armed (stopped l x h₁) x cb timeout repeat_ with timer_heap := h₂ } :
      Loop P) := by
    unfold Counted armed
    have hsame := recount_same (l := stopped l x h₁) (x := x) (f := fun h => { h with
      cb := some cb
      timeout := clamp (stopped l x h₁).time timeout
      repeat_ := repeat_
      start_id := (stopped l x h₁).timer_counter }) counted_recount rfl
    exact congrArg Loop.active_handles hsame
  unfold uv_timer_start
  simp only [hstop, hinsert, Option.bind_eq_bind, Option.bind_some]
  rw [handle_start_eq hroom hcounted]
  exact congrArg (fun l => some (0, l)) (started_stopped h₁ h₂)

/-- Nothing is done to a timer without a callback or without a repeat. -/
theorem uv_timer_again.spec (hc : Counted l) (hh : Heaped l)
    (htype : (l.handles x).type = .UV_TIMER) :
    (∃ r, uv_timer_again l x = some (r, l) ∧
      ((l.handles x).cb = none ∨ (l.handles x).repeat_ = 0)) ∨
      ∃ cb h, (l.handles x).cb = some cb ∧ (l.handles x).repeat_ ≠ 0 ∧
        uv_timer_again l x =
          some (0, started l x cb (l.handles x).repeat_ (l.handles x).repeat_ h) ∧
        Heaped (started l x cb (l.handles x).repeat_ (l.handles x).repeat_ h) := by
  unfold uv_timer_again
  cases hcb : (l.handles x).cb with
  | none => exact .inl ⟨_, rfl, .inl rfl⟩
  | some cb =>
    dsimp only
    by_cases hrepeat : (l.handles x).repeat_ = 0
    · rw [if_pos hrepeat]
      exact .inl ⟨_, rfl, .inr hrepeat⟩
    · rw [if_neg hrepeat]
      right
      obtain ⟨h₁, hstop, hstopped⟩ := uv_timer_stop.spec hroom hc hh htype
      have hhandle := stopped_self (l := l) (x := x) h₁
      obtain ⟨h₂, hstart, hstarted⟩ := uv_timer_start.spec hroom (l := stopped l x h₁) (x := x)
        cb (l.handles x).repeat_ (l.handles x).repeat_ counted_recount hstopped
          (by rw [hhandle]; exact htype)
      rw [started_stopped] at hstart hstarted
      refine ⟨cb, h₂, rfl, hrepeat, ?_, hstarted⟩
      simp only [hstop, Option.bind_eq_bind, Option.bind_some, hhandle, hstart]

end

end pyuv.uvloop
