-- What the log of the loop tells, and that the calls keep it: timers come up in the order of
-- their timeouts and never early, and no callback comes after the end of a closing.
import Pyuv.LoopSteps

set_option linter.style.nameCheck false
set_option linter.unusedSectionVars false

namespace pyuv.uvloop

open timerheap

variable {P : Type} [DecidableEq P]

/-! ## Callbacks -/

/-- All entries but the calls of a program. -/
def Event.is_callback : Event P → Bool
  | .api _ => false
  | _ => true

/-- What happens in the loop is that callbacks are called: calls come from them. -/
def Stirs (es : List (Event P)) : Prop := es = [] ∨ ∃ e ∈ es, e.is_callback = true

theorem Stirs.append {es fs : List (Event P)} (h₁ : Stirs es) (h₂ : Stirs fs) :
    Stirs (es ++ fs) := by
  rcases h₁ with rfl | ⟨e, he, hcallback⟩
  · exact h₂
  · exact .inr ⟨e, List.mem_append_left _ he, hcallback⟩

theorem Stirs.cons {e : Event P} {es : List (Event P)} (he : e.is_callback = true) :
    Stirs (e :: es) :=
  .inr ⟨e, List.mem_cons_self, he⟩

/-! ## The order of the timers -/

/-- What a timer was called for: its timeout and its start. -/
def Event.firing : Event P → Option (ℕ ×ₗ ℕ)
  | .timer_cb _ _ timeout start_id _ => some (toLex (timeout, start_id))
  | _ => none

/-- The timers that were called, by time and by start. -/
def fired (l : Loop P) : List (ℕ ×ₗ ℕ) := l.log.filterMap Event.firing

/-- Every timer in the heap comes after those that have come up. -/
structure Fifo (l : Loop P) : Prop where
  ids : ∀ x, ticking (l.handles x) = true → (l.handles x).start_id < l.starts
  distinct : ∀ x y, ticking (l.handles x) = true → ticking (l.handles y) = true →
    (l.handles x).start_id = (l.handles y).start_id → x = y
  past : ∀ k ∈ fired l, (ofLex k).1 ≤ l.time ∧ (ofLex k).2 < l.starts
  before : ∀ k ∈ fired l, ∀ x, ticking (l.handles x) = true → k < timer_key l x
  sorted : (fired l).Pairwise (· < ·)

/-- The ids of the starts are those of a 64 bit counter: the order holds until it has come
round. -/
structure Timely (l : Loop P) : Prop where
  time : l.time < TIME_SIZE
  counter : l.timer_counter = l.starts % UINT64_SIZE
  early : ∀ x cb timeout start_id time, .timer_cb x cb timeout start_id time ∈ l.log →
    timeout ≤ time
  fifo : l.starts ≤ UINT64_SIZE → Fifo l

section

variable {l m : Loop P} {x y : P} {cb timeout repeat_ : ℕ} {e : Event P} {k : ℕ ×ₗ ℕ}

theorem fired_note (hlog : m.log = l.log ++ [e]) : fired m = fired l ++ e.firing.toList := by
  unfold fired
  rw [hlog, List.filterMap_append]
  cases he : e.firing <;> simp [he]

theorem timer_key_start (h : timer_key m x = timer_key l x) :
    (m.handles x).start_id = (l.handles x).start_id :=
  congrArg (fun k => (ofLex k).2) h

/-- Fewer timers, and a clock that does not go back. -/
theorem Timely.shrink (ht : Timely l) (hlog : m.log = l.log) (hstarts : m.starts = l.starts)
    (hcounter : m.timer_counter = l.timer_counter) (htime : l.time ≤ m.time)
    (hbound : m.time < TIME_SIZE)
    (hticking : ∀ x, ticking (m.handles x) = true →
      ticking (l.handles x) = true ∧ timer_key m x = timer_key l x) : Timely m := by
  have hfired : fired m = fired l := by
    unfold fired
    rw [hlog]
  refine ⟨hbound, by rw [hcounter, hstarts]; exact ht.counter, by rw [hlog]; exact ht.early, ?_⟩
  intro hroom
  rw [hstarts] at hroom
  have hf := ht.fifo hroom
  refine ⟨?_, ?_, ?_, ?_, ?_⟩
  · intro x hx
    obtain ⟨hold, hkey⟩ := hticking x hx
    rw [timer_key_start hkey, hstarts]
    exact hf.ids x hold
  · intro x y hx hy h
    obtain ⟨hxold, hxkey⟩ := hticking x hx
    obtain ⟨hyold, hykey⟩ := hticking y hy
    rw [timer_key_start hxkey, timer_key_start hykey] at h
    exact hf.distinct x y hxold hyold h
  · intro k hk
    rw [hfired] at hk
    rw [hstarts]
    exact ⟨(hf.past k hk).1.trans htime, (hf.past k hk).2⟩
  · intro k hk x hx
    rw [hfired] at hk
    obtain ⟨hold, hkey⟩ := hticking x hx
    rw [hkey]
    exact hf.before k hk x hold
  · rw [hfired]
    exact hf.sorted

theorem time_fits {time : ℕ} (htime : time < TIME_SIZE) : time + 1 < UINT64_SIZE := by
  unfold TIME_SIZE UINT64_SIZE at *
  omega

theorem le_clamp (time timeout : ℕ) (htime : time < TIME_SIZE) : time ≤ clamp time timeout := by
  have hfits := time_fits htime
  unfold clamp
  dsimp only
  split
  · omega
  · rename_i h
    unfold UINT64_SIZE at *
    omega

/-- A timer that starts comes after all that have come up, and after those with its timeout. -/
theorem Timely.start (ht : Timely l) (hlog : m.log = l.log) (hstarts : m.starts = l.starts + 1)
    (hcounter : m.timer_counter = (l.timer_counter + 1) % UINT64_SIZE) (htime : m.time = l.time)
    (hx : timer_key m x = toLex (clamp l.time timeout, l.timer_counter))
    (hothers : ∀ y, y ≠ x → m.handles y = l.handles y) : Timely m := by
  have hfired : fired m = fired l := by
    unfold fired
    rw [hlog]
  refine ⟨by rw [htime]; exact ht.time, ?_, by rw [hlog]; exact ht.early, ?_⟩
  · rw [hcounter, hstarts, ht.counter]
    exact Nat.mod_add_mod ..
  · intro hroom
    rw [hstarts] at hroom
    have hf := ht.fifo (by omega)
    have hid : l.timer_counter = l.starts := by
      rw [ht.counter, Nat.mod_eq_of_lt (by omega)]
    have hidx : (m.handles x).start_id = l.starts := by
      rw [← hid]
      exact congrArg (fun k => (ofLex k).2) hx
    refine ⟨?_, ?_, ?_, ?_, ?_⟩
    · intro y hy
      by_cases hyx : y = x
      · rw [hyx, hidx, hstarts]
        omega
      · rw [hothers y hyx] at hy ⊢
        have hlt := hf.ids y hy
        omega
    · intro y z hy hz h
      by_cases hyx : y = x
      · by_cases hzx : z = x
        · rw [hyx, hzx]
        · rw [hothers z hzx] at hz h
          rw [hyx, hidx] at h
          have hlt := hf.ids z hz
          omega
      · rw [hothers y hyx] at hy h
        by_cases hzx : z = x
        · rw [hzx, hidx] at h
          have hlt := hf.ids y hy
          omega
        · rw [hothers z hzx] at hz h
          exact hf.distinct y z hy hz h
    · intro k hk
      rw [hfired] at hk
      rw [htime, hstarts]
      have hpast := hf.past k hk
      exact ⟨hpast.1, by omega⟩
    · intro k hk y hy
      rw [hfired] at hk
      by_cases hyx : y = x
      · obtain ⟨hpast, hold⟩ := hf.past k hk
        have hclamp := le_clamp l.time timeout ht.time
        rw [hyx, hx, hid, Prod.Lex.lt_iff]
        simp only [ofLex_toLex]
        omega
      · have hkey : timer_key m y = timer_key l y := by
          unfold timer_key
          rw [hothers y hyx]
        rw [hkey]
        rw [hothers y hyx] at hy
        exact hf.before k hk y hy
    · rw [hfired]
      exact hf.sorted

/-- An event that is no timer. -/
theorem Timely.note (ht : Timely l) (he : e.firing = none) : Timely (l.note e) := by
  have hfired : fired (l.note e) = fired l := by
    rw [fired_note rfl, he]
    simp
  refine ⟨ht.time, ht.counter, ?_, ?_⟩
  · intro x cb timeout start_id time hmem
    rcases List.mem_append.mp hmem with hmem | hmem
    · exact ht.early x cb timeout start_id time hmem
    · rw [← List.mem_singleton.mp hmem] at he
      cases he
  · intro hroom
    have hf := ht.fifo hroom
    exact ⟨hf.ids, hf.distinct, by rw [hfired]; exact hf.past, by rw [hfired]; exact hf.before,
      by rw [hfired]; exact hf.sorted⟩

/-- A timer comes up that is due, is after those that have come up, and before those that will. -/
theorem Timely.fire (ht : Timely l) {start_id : ℕ} (hdue : timeout ≤ l.time)
    (hid : l.starts ≤ UINT64_SIZE → start_id < l.starts)
    (hlast : l.starts ≤ UINT64_SIZE → ∀ k ∈ fired l, k < toLex (timeout, start_id))
    (hfirst : l.starts ≤ UINT64_SIZE → ∀ y, ticking (l.handles y) = true →
      toLex (timeout, start_id) < timer_key l y) :
    Timely (l.note (.timer_cb x cb timeout start_id l.time)) := by
  have hfired : fired (l.note (.timer_cb x cb timeout start_id l.time)) =
      fired l ++ [toLex (timeout, start_id)] := by
    rw [fired_note (l := l) (e := .timer_cb x cb timeout start_id l.time) rfl]
    rfl
  refine ⟨ht.time, ht.counter, ?_, ?_⟩
  · intro y cb' timeout' start_id' time hmem
    rcases List.mem_append.mp hmem with hmem | hmem
    · exact ht.early y cb' timeout' start_id' time hmem
    · obtain ⟨-, -, rfl, -, rfl⟩ := Event.timer_cb.inj (List.mem_singleton.mp hmem)
      exact hdue
  · intro hroom
    have hf := ht.fifo hroom
    refine ⟨hf.ids, hf.distinct, ?_, ?_, ?_⟩
    · intro k hk
      rw [hfired] at hk
      rcases List.mem_append.mp hk with hk | hk
      · exact hf.past k hk
      · rw [List.mem_singleton.mp hk]
        exact ⟨hdue, hid hroom⟩
    · intro k hk y hy
      rw [hfired] at hk
      rcases List.mem_append.mp hk with hk | hk
      · exact hf.before k hk y hy
      · rw [List.mem_singleton.mp hk]
        exact hfirst hroom y hy
    · rw [hfired, List.pairwise_append]
      refine ⟨hf.sorted, List.pairwise_singleton _ _, ?_⟩
      intro k hk k' hk'
      rw [List.mem_singleton.mp hk']
      exact hlast hroom k hk

end

/-! ## The lives of the handles -/

/-- How far a handle has come. -/
inductive Status where
  | absent | opened | closing | closed
deriving DecidableEq, Repr

/-- The status by the flags of the handle. -/
def Handle.status (h : Handle) : Status :=
  if h.initialized = false then .absent
  else if h.closing = false then .opened
  else if h.closed = false then .closing
  else .closed

/-- What an event makes of the handles: callbacks are for open handles, a closing is begun once and
ended once. -/
def Event.next (σ : P → Status) : Event P → Option (P → Status)
  | .api (.init x _) =>
    if σ x = .absent ∨ σ x = .closed then some (Function.update σ x .opened) else none
  | .api (.close x _) => if σ x = .opened then some (Function.update σ x .closing) else none
  | .api _ | .io_cb => some σ
  | .timer_cb x _ _ _ _ | .watcher_cb x _ _ => if σ x = .opened then some σ else none
  | .closed x => if σ x = .closing then some (Function.update σ x .closed) else none

/-- The statuses after a log, none where the log is impossible. -/
def replay (σ : P → Status) (log : List (Event P)) : Option (P → Status) := log.foldlM Event.next σ

/-- The statuses of all handles. -/
def statuses (l : Loop P) : P → Status := fun x => (l.handles x).status

/-- The log is one that the handles can have had. -/
def Followed (l : Loop P) : Prop := replay (fun _ => .absent) l.log = some (statuses l)

section

variable {l m : Loop P} {x : P} {e : Event P} {σ τ : P → Status} {g : Handle}

theorem replay_append (a b : List (Event P)) :
    replay σ (a ++ b) = (replay σ a).bind fun τ => replay τ b := List.foldlM_append ..

theorem Followed.note (hf : Followed l) (hlog : m.log = l.log ++ [e])
    (hnext : e.next (statuses l) = some (statuses m)) : Followed m := by
  have hone : replay (statuses l) [e] = e.next (statuses l) := by
    unfold replay
    rw [List.foldlM_cons]
    cases e.next (statuses l) <;> rfl
  unfold Followed at *
  rw [hlog, replay_append, hf, Option.bind_some, hone, hnext]

theorem statuses_update (h : m.handles = Function.update l.handles x g) :
    statuses m = Function.update (statuses l) x g.status := by
  funext y
  unfold statuses
  rw [h]
  by_cases hyx : y = x
  · rw [hyx, Function.update_self, Function.update_self]
  · rw [Function.update_of_ne hyx, Function.update_of_ne hyx]

theorem statuses_same (h : m.handles = Function.update l.handles x g)
    (hstatus : g.status = (l.handles x).status) : statuses m = statuses l := by
  rw [statuses_update h, hstatus]
  exact Function.update_eq_self x (statuses l)

theorem statuses_pend : statuses (pend l x) = statuses l := by
  unfold statuses
  rw [pend_handles]

theorem status_opened {h : Handle} (hinit : h.initialized = true) (hclosing : h.closing = false) :
    h.status = .opened := by
  simp [Handle.status, hinit, hclosing]

end

/-! ## The calls -/

variable [Fintype P]

section

variable {l m : Loop P} {x : P} {call : Call P} {now : Option HandleType} {rest : List P}
  {c : Node P → List (Node P)}

theorem Alike.handles (h : Alike l m) : m.handles = l.handles := by
  unfold Alike at h
  rw [h]

theorem Alike.time (h : Alike l m) : m.time = l.time := by
  unfold Alike at h
  rw [h]

theorem Alike.log (h : Alike l m) : m.log = l.log := by
  unfold Alike at h
  rw [h]

theorem Alike.starts (h : Alike l m) : m.starts = l.starts := by
  unfold Alike at h
  rw [h]

theorem Alike.counter (h : Alike l m) : m.timer_counter = l.timer_counter := by
  unfold Alike at h
  rw [h]

theorem started_key (h : Heap P) (cb timeout repeat_ : ℕ) :
    timer_key (started l x cb timeout repeat_ h) x =
      toLex (clamp l.time timeout, l.timer_counter) := by
  unfold timer_key
  rw [started_handles, Function.update_self]

theorem Timely.started (ht : Timely l) (h : Heap P) (cb timeout repeat_ : ℕ) :
    Timely (started l x cb timeout repeat_ h) := by
  refine ht.start (x := x) rfl rfl rfl rfl (started_key h cb timeout repeat_) ?_
  intro y hyx
  rw [started_handles, Function.update_of_ne hyx]

/-- A change of one handle that starts no timer. -/
theorem Timely.update (ht : Timely l) {g : Handle} (hlog : m.log = l.log)
    (hstarts : m.starts = l.starts) (hcounter : m.timer_counter = l.timer_counter)
    (htime : m.time = l.time) (hhandles : m.handles = Function.update l.handles x g)
    (hticking : ticking g = true → ticking (l.handles x) = true ∧
      g.timeout = (l.handles x).timeout ∧ g.start_id = (l.handles x).start_id) : Timely m := by
  refine ht.shrink hlog hstarts hcounter htime.ge (by rw [htime]; exact ht.time) ?_
  intro y hy
  rw [hhandles] at hy
  by_cases hyx : y = x
  · subst hyx
    rw [Function.update_self] at hy
    obtain ⟨hold, htimeout, hid⟩ := hticking hy
    refine ⟨hold, ?_⟩
    unfold timer_key
    rw [hhandles, Function.update_self, htimeout, hid]
  · rw [Function.update_of_ne hyx] at hy
    exact ⟨hy, timer_key_update hhandles hyx⟩

theorem ticking_of_active {h : Handle} (hticking : ticking { h with active := false } = true) :
    False := by
  simp [ticking] at hticking

theorem Timely.pend (ht : Timely l) : Timely (pend l x) := by
  unfold uvloop.pend
  split
  · exact ht.shrink rfl rfl rfl le_rfl ht.time fun x h => ⟨h, rfl⟩
  · exact ht

theorem Timely.effect (ht : Timely l) (hlegal : call.legal l = true) : Timely (call.effect l) := by
  cases call with
  | init x t => exact ht.update (x := x) rfl rfl rfl rfl rfl fun h => by simp [ticking] at h
  | timer_start x cb timeout repeat_ =>
    cases cb with
    | none => exact ht
    | some cb => exact ht.started _ cb timeout repeat_
  | timer_stop x => exact ht.update (x := x) rfl rfl rfl rfl rfl fun h => by simp [ticking] at h
  | timer_again x =>
    rw [Call.effect, again_effect]
    split
    · exact ht
    · split
      · exact ht
      · exact ht.started _ _ _ _
  | timer_set_repeat x repeat_ =>
    exact ht.update (x := x) rfl rfl rfl rfl rfl fun h => ⟨h, rfl, rfl⟩
  | watcher_start x cb =>
    cases cb with
    | none => exact ht
    | some cb =>
      simp only [Call.legal, decide_eq_true_eq] at hlegal
      rw [Call.effect, watch_effect]
      split
      · exact ht
      · refine ht.update (x := x) rfl rfl rfl rfl rfl fun h => ?_
        have hno : ticking { l.handles x with cb := some cb, active := true } = false :=
          ticking_watcher hlegal.2
        rw [hno] at h
        cases h
  | watcher_stop x => exact ht.update (x := x) rfl rfl rfl rfl rfl fun h => by simp [ticking] at h
  | other_start x =>
    simp only [Call.legal, decide_eq_true_eq] at hlegal
    refine ht.update (x := x) rfl rfl rfl rfl rfl fun h => ?_
    have hno := (polled_idle (h := { l.handles x with active := true }) hlegal.2).1
    rw [hno] at h
    cases h
  | other_stop x => exact ht.update (x := x) rfl rfl rfl rfl rfl fun h => by simp [ticking] at h
  | ref x => exact ht.update (x := x) rfl rfl rfl rfl rfl fun h => ⟨h, rfl, rfl⟩
  | unref x => exact ht.update (x := x) rfl rfl rfl rfl rfl fun h => ⟨h, rfl, rfl⟩
  | signal_handler x => exact ht.update (x := x) rfl rfl rfl rfl rfl fun h => ⟨h, rfl, rfl⟩
  | signal_event x =>
    exact Timely.pend (ht.update (x := x) rfl rfl rfl rfl rfl fun h => ⟨h, rfl, rfl⟩)
  | close x close_cb =>
    refine Timely.pend (ht.update (x := x) rfl rfl rfl rfl rfl fun h => ?_)
    simp [ticking, shut_handle] at h
  | req_register => exact ht.shrink rfl rfl rfl le_rfl ht.time fun x h => ⟨h, rfl⟩
  | req_unregister => exact ht.shrink rfl rfl rfl le_rfl ht.time fun x h => ⟨h, rfl⟩
  | update_time time =>
    simp only [Call.legal, decide_eq_true_eq] at hlegal
    exact ht.shrink rfl rfl rfl hlegal.1 hlegal.2 fun x h => ⟨h, rfl⟩
  | stop => exact ht.shrink rfl rfl rfl le_rfl ht.time fun x h => ⟨h, rfl⟩

/-- A handle that init may be called on has no life, or had one. -/
theorem Inv.status_init (hi : Inv now rest c l)
    (h : (l.handles x).initialized = false ∨ (l.handles x).closed = true) :
    statuses l x = .absent ∨ statuses l x = .closed := by
  unfold statuses Handle.status
  by_cases hinit : (l.handles x).initialized = false
  · rw [if_pos hinit]
    exact .inl rfl
  · have hclosed := h.resolve_left hinit
    have hclosing := (hi.flags.sane x).closed hclosed
    rw [if_neg hinit, if_neg (by simp [hclosing]), if_neg (by simp [hclosed])]
    exact .inr rfl

theorem Inv.status_shut (hi : Inv now rest c l) (husable : l.usable x = true) (close_cb : Bool) :
    (shut_handle (l.handles x) close_cb).status = .closing := by
  obtain ⟨hinit, hclosing⟩ := usable_iff.mp husable
  have hclosed := not_closed_of_usable hi husable
  simp [Handle.status, shut_handle, hinit, hclosed]

/-- What a call makes of the handles is what the event says. -/
theorem Inv.next_call (hi : Inv now rest c l) (hlegal : call.legal l = true) :
    (Event.api call).next (statuses l) = some (statuses (call.effect l)) := by
  cases call with
  | init x t =>
    have hinit : (l.handles x).initialized = false ∨ (l.handles x).closed = true := by
      simpa [Call.legal] using hlegal
    have hinit' : (uv__handle_init l x t).handles = Function.update l.handles x
        ((uv__handle_init l x t).handles x) := by
      unfold uv__handle_init
      rw [set_self]
      rfl
    rw [Event.next, if_pos (hi.status_init hinit), Call.effect, statuses_update hinit']
    unfold uv__handle_init
    rw [set_self]
    rfl
  | close x close_cb =>
    have husable : l.usable x = true := hlegal
    have hopened : statuses l x = .opened :=
      status_opened (usable_iff.mp husable).1 (usable_iff.mp husable).2
    rw [Event.next, if_pos hopened, ← hi.status_shut husable close_cb, Call.effect, statuses_pend]
    exact congrArg some (statuses_update rfl).symm
  | signal_handler x =>
    exact congrArg some (statuses_same (m := uv__signal_handler l x) (x := x) rfl rfl).symm
  | signal_event x =>
    rw [Call.effect, statuses_pend]
    exact congrArg some (statuses_same (x := x) (g := read_handle (l.handles x)) rfl rfl).symm
  | timer_start x cb timeout repeat_ =>
    cases cb with
    | none => rfl
    | some cb => exact congrArg some (statuses_same (started_handles l.timer_heap) rfl).symm
  | timer_again x =>
    rw [Call.effect, again_effect]
    split
    · rfl
    · split
      · rfl
      · exact congrArg some (statuses_same (started_handles l.timer_heap) rfl).symm
  | watcher_start x cb =>
    cases cb with
    | none => rfl
    | some cb =>
      rw [Call.effect, watch_effect]
      split
      · rfl
      · exact congrArg some (statuses_same (x := x)
          (g := { l.handles x with cb := some cb, active := true }) rfl rfl).symm
  | timer_stop x =>
    exact congrArg some
      (statuses_same (x := x) (g := { l.handles x with active := false }) rfl rfl).symm
  | timer_set_repeat x repeat_ =>
    exact congrArg some
      (statuses_same (x := x) (g := { l.handles x with repeat_ := repeat_ }) rfl rfl).symm
  | watcher_stop x =>
    exact congrArg some
      (statuses_same (x := x) (g := { l.handles x with active := false }) rfl rfl).symm
  | other_start x =>
    exact congrArg some
      (statuses_same (x := x) (g := { l.handles x with active := true }) rfl rfl).symm
  | other_stop x =>
    exact congrArg some
      (statuses_same (x := x) (g := { l.handles x with active := false }) rfl rfl).symm
  | ref x =>
    exact congrArg some
      (statuses_same (x := x) (g := { l.handles x with ref := true }) rfl rfl).symm
  | unref x =>
    exact congrArg some
      (statuses_same (x := x) (g := { l.handles x with ref := false }) rfl rfl).symm
  | req_register => rfl
  | req_unregister => rfl
  | update_time time => rfl
  | stop => rfl

end

end pyuv.uvloop
