-- Every call that a program may make keeps the invariant of the loop, and follows no NULL.
import Pyuv.LoopInvariant

set_option linter.style.nameCheck false
set_option linter.unusedSectionVars false

namespace pyuv.uvloop

open timerheap rings

variable {P : Type} [DecidableEq P]

/-! ## The lists of the watchers -/

/-- The type of the watchers that the ring of a node has. `now` is the type whose callbacks are
being called, so that there is a local queue. -/
def Node.kind (now : Option HandleType) : Node P → Option HandleType
  | .list t => some t
  | .queue => now
  | .handle _ => none

/-- The queues of the three types, and the local one of the type that runs. -/
def heads (now : Option HandleType) : Set (Node P) :=
  {n | ∃ t : HandleType, t.is_watcher = true ∧ n.kind now = some t}

/-- A watcher that is in its queue or in the local one. -/
def watching (h : Handle) : Bool := h.active && h.type.is_watcher

/-- The rings `c` have the active watchers, each one on a ring of its type. -/
structure Listed (now : Option HandleType) (c : Node P → List (Node P)) (l : Loop P) : Prop where
  ring : Rings l.queues (heads now) c
  listed : ∀ h ∈ heads now, ∀ n ∈ c h,
    ∃ x, n = .handle x ∧ watching (l.handles x) = true ∧ h.kind now = some (l.handles x).type
  found : ∀ x, watching (l.handles x) = true → ∃ h ∈ heads now, .handle x ∈ c h
  outside : ∀ n ∉ heads now, c n = []

section

variable {l m : Loop P} {x y : P} {g : Handle} {now : Option HandleType}
  {c : Node P → List (Node P)} {t : HandleType}

theorem handle_not_head : Node.handle x ∉ heads now := by
  rintro ⟨t, -, hkind⟩
  cases hkind

theorem list_head (ht : t.is_watcher = true) : (.list t : Node P) ∈ heads now := ⟨t, ht, rfl⟩

theorem Listed.free (hl : Listed now c l) (hx : watching (l.handles x) = false) :
    Free (heads now) c (.handle x) := by
  intro h hh hmem
  rcases List.mem_cons.mp hmem with rfl | hmem
  · exact handle_not_head hh
  · obtain ⟨y, hy, hwatching, -⟩ := hl.listed h hh _ hmem
    rw [← Node.handle.inj hy, hx] at hwatching
    cases hwatching

/-- A watcher that is not watching is on no ring. -/
theorem Listed.not_mem (hl : Listed now c l) (hx : watching (l.handles x) = false) (n : Node P) :
    .handle x ∉ c n := by
  intro hmem
  by_cases hn : n ∈ heads now
  · exact hl.free hx n hn (List.mem_cons_of_mem _ hmem)
  · rw [hl.outside n hn] at hmem
    cases hmem

theorem Listed.update (hl : Listed now c l) (hqueues : m.queues = l.queues)
    (hhandles : m.handles = Function.update l.handles x g)
    (hwatching : watching g = watching (l.handles x))
    (htype : watching (l.handles x) = true → g.type = (l.handles x).type) : Listed now c m := by
  refine ⟨by rw [hqueues]; exact hl.ring, ?_, ?_, hl.outside⟩
  · intro h hh n hn
    obtain ⟨y, rfl, hy, hkind⟩ := hl.listed h hh n hn
    refine ⟨y, rfl, ?_⟩
    rw [hhandles]
    by_cases hyx : y = x
    · subst hyx
      rw [Function.update_self]
      exact ⟨hwatching.trans hy, hkind.trans (congrArg some (htype hy).symm)⟩
    · rw [Function.update_of_ne hyx]
      exact ⟨hy, hkind⟩
  · intro y hy
    apply hl.found
    rw [hhandles] at hy
    by_cases hyx : y = x
    · subst hyx
      rw [Function.update_self] at hy
      rw [← hwatching, hy]
    · rwa [Function.update_of_ne hyx] at hy

theorem Listed.start (hl : Listed now c l) (hwas : watching (l.handles x) = false)
    (hnow : watching g = true)
    (hqueues : m.queues = insert_head (.list g.type) (.handle x) l.queues)
    (hhandles : m.handles = Function.update l.handles x g) :
    Listed now (Function.update c (.list g.type) (.handle x :: c (.list g.type))) m := by
  have ht : g.type.is_watcher = true := by
    simp only [watching, Bool.and_eq_true] at hnow
    exact hnow.2
  have hother : ∀ y, watching (l.handles y) = true → m.handles y = l.handles y := by
    intro y hy
    rw [hhandles, Function.update_of_ne]
    rintro rfl
    rw [hwas] at hy
    cases hy
  refine ⟨?_, ?_, ?_, ?_⟩
  · rw [hqueues]
    exact hl.ring.insert_head (list_head ht) (hl.free hwas)
  · intro h hh n hn
    by_cases hhead : h = .list g.type
    · subst hhead
      rw [Function.update_self] at hn
      rcases List.mem_cons.mp hn with rfl | hn
      · exact ⟨x, rfl, by rw [hhandles, Function.update_self]; exact ⟨hnow, rfl⟩⟩
      · obtain ⟨y, rfl, hy, hkind⟩ := hl.listed _ hh n hn
        exact ⟨y, rfl, by rw [hother y hy]; exact ⟨hy, hkind⟩⟩
    · rw [Function.update_of_ne hhead] at hn
      obtain ⟨y, rfl, hy, hkind⟩ := hl.listed h hh n hn
      exact ⟨y, rfl, by rw [hother y hy]; exact ⟨hy, hkind⟩⟩
  · intro y hy
    by_cases hyx : y = x
    · subst hyx
      exact ⟨.list g.type, list_head ht, by rw [Function.update_self]; exact List.mem_cons_self⟩
    · rw [hhandles, Function.update_of_ne hyx] at hy
      obtain ⟨h, hh, hmem⟩ := hl.found y hy
      refine ⟨h, hh, ?_⟩
      by_cases hhead : h = .list g.type
      · subst hhead
        rw [Function.update_self]
        exact List.mem_cons_of_mem _ hmem
      · rwa [Function.update_of_ne hhead]
  · intro n hn
    rw [Function.update_of_ne (by rintro rfl; exact hn (list_head ht))]
    exact hl.outside n hn

/-- A watcher that stops leaves the ring that it is on. -/
theorem Listed.stop (hl : Listed now c l) (hwas : watching (l.handles x) = true)
    (hnow : watching g = false) (hqueues : m.queues = remove (.handle x) l.queues)
    (hhandles : m.handles = Function.update l.handles x g) :
    ∃ c', Listed now c' m ∧ ∀ n, c' n = (c n).erase (.handle x) := by
  obtain ⟨h, hh, hmem⟩ := hl.found x hwas
  have hothers : ∀ n, n ≠ h → .handle x ∉ c n := by
    intro n hne hn
    by_cases hhead : n ∈ heads now
    · exact hl.ring.apart n hhead h hh hne _ (List.mem_cons_of_mem _ hn)
        (List.mem_cons_of_mem _ hmem)
    · rw [hl.outside n hhead] at hn
      cases hn
  have herase : ∀ n, Function.update c h ((c h).erase (.handle x)) n = (c n).erase (.handle x) := by
    intro n
    by_cases hn : n = h
    · rw [hn, Function.update_self]
    · rw [Function.update_of_ne hn, List.erase_of_not_mem (hothers n hn)]
  refine ⟨Function.update c h ((c h).erase (.handle x)), ⟨?_, ?_, ?_, ?_⟩, herase⟩
  · rw [hqueues]
    exact hl.ring.remove hh hmem
  · intro k hk n hn
    rw [herase] at hn
    obtain ⟨y, rfl, hy, hkind⟩ := hl.listed k hk n (List.mem_of_mem_erase hn)
    have hyx : y ≠ x := by
      rintro rfl
      have hnodup := (List.nodup_cons.mp (hl.ring.nodup k hk)).2
      exact (hnodup.not_mem_erase) hn
    exact ⟨y, rfl, by rw [hhandles, Function.update_of_ne hyx]; exact ⟨hy, hkind⟩⟩
  · intro y hy
    have hyx : y ≠ x := by
      rintro rfl
      rw [hhandles, Function.update_self, hnow] at hy
      cases hy
    rw [hhandles, Function.update_of_ne hyx] at hy
    obtain ⟨k, hk, hmem⟩ := hl.found y hy
    refine ⟨k, hk, ?_⟩
    rw [herase]
    exact (List.mem_erase_of_ne (fun h => hyx (Node.handle.inj h))).mpr hmem
  · intro n hn
    rw [herase, hl.outside n hn]
    rfl

end

/-! ## The flags of the handles -/

/-- What the flags and the callback of a handle have to do with each other. -/
structure Handle.Sane (h : Handle) : Prop where
  active : h.active = true → h.initialized = true ∧ h.closing = false
  closed : h.closed = true → h.closing = true
  cb : h.active = true → h.type.is_polled = false → h.cb.isSome
  signals : h.type ≠ .UV_SIGNAL ∨ h.closed = true → h.trapped = false

/-- The handle's closing waits for uv__run_closing_handles, and not for the signal pipe. -/
def waiting (h : Handle) : Bool := h.initialized && h.closing && !h.closed && !h.trapped

/-- The handle is put in closing_handles, if it is to be there. -/
def pend (l : Loop P) (x : P) : Loop P :=
  if waiting (l.handles x) then { l with closing_handles := x :: l.closing_handles } else l

/-- `rest` are the handles of closing_handles that uv__run_closing_handles has taken and not come
to yet. -/
structure Flags (rest : List P) (l : Loop P) : Prop where
  nodup : (l.closing_handles ++ rest).Nodup
  waits : ∀ x, x ∈ l.closing_handles ++ rest ↔ waiting (l.handles x) = true
  sane : ∀ x, (l.handles x).Sane

section

variable {l m : Loop P} {x y : P} {g : Handle} {rest : List P}

theorem Flags.update (hf : Flags rest l) (hclosing : m.closing_handles = l.closing_handles)
    (hhandles : m.handles = Function.update l.handles x g)
    (hwaiting : waiting g = waiting (l.handles x)) (hsane : g.Sane) : Flags rest m := by
  refine ⟨by rw [hclosing]; exact hf.nodup, ?_, ?_⟩
  · intro y
    rw [hclosing, hf.waits, hhandles]
    by_cases hyx : y = x
    · rw [hyx, Function.update_self, hwaiting]
    · rw [Function.update_of_ne hyx]
  · intro y
    rw [hhandles]
    by_cases hyx : y = x
    · rw [hyx, Function.update_self]
      exact hsane
    · rw [Function.update_of_ne hyx]
      exact hf.sane y

theorem Flags.close (hf : Flags rest l) (hclosing : m.closing_handles = x :: l.closing_handles)
    (hhandles : m.handles = Function.update l.handles x g) (hwas : waiting (l.handles x) = false)
    (hnow : waiting g = true) (hsane : g.Sane) : Flags rest m := by
  have hout : x ∉ l.closing_handles ++ rest := by
    rw [hf.waits, hwas]
    exact Bool.false_ne_true
  refine ⟨?_, ?_, ?_⟩
  · rw [hclosing, List.cons_append, List.nodup_cons]
    exact ⟨hout, hf.nodup⟩
  · intro y
    rw [hclosing, List.cons_append, List.mem_cons, hf.waits, hhandles]
    by_cases hyx : y = x
    · rw [hyx, Function.update_self, hnow]
      exact iff_of_true (.inl rfl) rfl
    · rw [Function.update_of_ne hyx]
      simp [hyx]
  · intro y
    rw [hhandles]
    by_cases hyx : y = x
    · rw [hyx, Function.update_self]
      exact hsane
    · rw [Function.update_of_ne hyx]
      exact hf.sane y

@[simp] theorem pend_handles : (pend l x).handles = l.handles := by
  unfold pend
  split <;> rfl

@[simp] theorem pend_queues : (pend l x).queues = l.queues := by
  unfold pend
  split <;> rfl

@[simp] theorem pend_heap : (pend l x).timer_heap = l.timer_heap := by
  unfold pend
  split <;> rfl

@[simp] theorem pend_active_handles : (pend l x).active_handles = l.active_handles := by
  unfold pend
  split <;> rfl

/-- A handle that did not wait, and is put in closing_handles if it does now. -/
theorem Flags.pend (hf : Flags rest l) (hclosing : m.closing_handles = l.closing_handles)
    (hhandles : m.handles = Function.update l.handles x g) (hwas : waiting (l.handles x) = false)
    (hsane : g.Sane) : Flags rest (uvloop.pend m x) := by
  have hself : m.handles x = g := by rw [hhandles, Function.update_self]
  unfold uvloop.pend
  rw [hself]
  cases hnow : waiting g with
  | true =>
    rw [if_pos rfl]
    exact hf.close (by rw [hclosing]) hhandles hwas hnow hsane
  | false =>
    rw [if_neg Bool.false_ne_true]
    exact hf.update hclosing hhandles (hnow.trans hwas.symm) hsane

end

/-! ## The invariant -/

variable [Fintype P]

/-- What holds of a loop between any two calls, while the queue of the type `now` is run and the
handles `rest` wait for the end of their closing. -/
structure Inv (now : Option HandleType) (rest : List P) (c : Node P → List (Node P)) (l : Loop P) :
    Prop where
  counted : Counted l
  heaped : Heaped l
  listed : Listed now c l
  flags : Flags rest l

section

variable {l m : Loop P} {x y : P} {g : Handle} {rest : List P} {now : Option HandleType}
  {c : Node P → List (Node P)}

/-- The other fields do not matter. -/
theorem Inv.congr (hi : Inv now rest c l) (hactive : m.active_handles = l.active_handles)
    (hheap : m.timer_heap = l.timer_heap) (hhandles : m.handles = l.handles)
    (hqueues : m.queues = l.queues) (hclosing : m.closing_handles = l.closing_handles) :
    Inv now rest c m := by
  refine ⟨?_, ?_, ⟨?_, ?_, ?_, hi.listed.outside⟩, ⟨?_, ?_, ?_⟩⟩
  · unfold Counted referenced
    rw [hactive, hhandles]
    exact hi.counted
  · refine hi.heaped.congr hheap ?_ ?_
    · intro y
      rw [hhandles]
    · intro y _
      unfold timer_key
      rw [hhandles]
  · rw [hqueues]
    exact hi.listed.ring
  · rw [hhandles]
    exact hi.listed.listed
  · rw [hhandles]
    exact hi.listed.found
  · rw [hclosing]
    exact hi.flags.nodup
  · rw [hclosing, hhandles]
    exact hi.flags.waits
  · rw [hhandles]
    exact hi.flags.sane

/-- A change of one handle that is neither a timer nor a watcher, or stays the one it is. -/
theorem Inv.update (hi : Inv now rest c l) (hcounted : Counted m)
    (hhandles : m.handles = Function.update l.handles x g)
    (hheap : m.timer_heap = l.timer_heap) (hqueues : m.queues = l.queues)
    (hclosing : m.closing_handles = l.closing_handles)
    (hticking : ticking g = ticking (l.handles x))
    (hkey : ticking (l.handles x) = true → timer_key m x = timer_key l x)
    (hwatching : watching g = watching (l.handles x))
    (htype : watching (l.handles x) = true → g.type = (l.handles x).type)
    (hwaiting : waiting g = waiting (l.handles x)) (hsane : g.Sane) : Inv now rest c m := by
  refine ⟨hcounted, ?_, hi.listed.update hqueues hhandles hwatching htype,
    hi.flags.update hclosing hhandles hwaiting hsane⟩
  apply hi.heaped.congr hheap
  · intro y
    rw [hhandles]
    by_cases hyx : y = x
    · rw [hyx, Function.update_self, hticking]
    · rw [Function.update_of_ne hyx]
  · intro y hy
    by_cases hyx : y = x
    · rw [hyx] at hy ⊢
      exact hkey hy
    · exact timer_key_update hhandles hyx

theorem watching_timer (h : Handle) (htype : h.type = .UV_TIMER) : watching h = false := by
  unfold watching
  rw [htype]
  exact Bool.and_false _

/-- A change of a timer whose heap is known. -/
theorem Inv.timer (hi : Inv now rest c l) (hcounted : Counted m) (hheaped : Heaped m)
    (hhandles : m.handles = Function.update l.handles x g) (hqueues : m.queues = l.queues)
    (hclosing : m.closing_handles = l.closing_handles) (hwas : (l.handles x).type = .UV_TIMER)
    (hnow : g.type = .UV_TIMER) (hwaiting : waiting g = waiting (l.handles x)) (hsane : g.Sane) :
    Inv now rest c m := by
  refine ⟨hcounted, hheaped, ?_, hi.flags.update hclosing hhandles hwaiting hsane⟩
  apply hi.listed.update hqueues hhandles
  · rw [watching_timer _ hwas, watching_timer _ hnow]
  · intro _
    rw [hwas, hnow]

/-! ## The calls -/

/-- The links that a call takes out of the local queue. -/
def Call.leave (q : List (Node P)) : Call P → List (Node P)
  | .watcher_stop x | .close x _ => q.erase (.handle x)
  | _ => q

/-- The flags of a handle after uv_close. -/
def shut_handle (h : Handle) (close_cb : Bool) : Handle :=
  { h with closing := true, close_cb := close_cb, active := false }

/-- What uv_timer_again makes of the loop. -/
def again_effect (l : Loop P) (x : P) : Loop P :=
  match (l.handles x).cb with
  | none => l
  | some cb =>
    if (l.handles x).repeat_ = 0 then l
    else started l x cb (l.handles x).repeat_ (l.handles x).repeat_ l.timer_heap

/-- What starting a watcher makes of it, its queue apart. -/
def watch_effect (l : Loop P) (x : P) (cb : ℕ) : Loop P :=
  if (l.handles x).active then l
  else recount (l.set x fun h => { h with cb := some cb, active := true })

/-- The handle of a signal that has been read. -/
def read_handle (h : Handle) : Handle :=
  { h with dispatched_signals := (h.dispatched_signals + 1) % UINT_SIZE }

/-- What a call does, but for the links of the heap and of the lists. -/
def Call.effect (l : Loop P) : Call P → Loop P
  | .init x t => uv__handle_init l x t
  | .timer_start _ none _ _ => l
  | .timer_start x (some cb) timeout repeat_ => started l x cb timeout repeat_ l.timer_heap
  | .timer_stop x => stopped l x l.timer_heap
  | .timer_again x => again_effect l x
  | .timer_set_repeat x repeat_ => l.set x fun h => { h with repeat_ := repeat_ }
  | .watcher_start _ none => l
  | .watcher_start x (some cb) => watch_effect l x cb
  | .watcher_stop x => recount (l.set x fun h => { h with active := false })
  | .other_start x => recount (l.set x fun h => { h with active := true })
  | .other_stop x => recount (l.set x fun h => { h with active := false })
  | .ref x => recount (l.set x fun h => { h with ref := true })
  | .unref x => recount (l.set x fun h => { h with ref := false })
  | .signal_handler x => uv__signal_handler l x
  | .signal_event x => pend (l.set x read_handle) x
  | .close x close_cb => pend (recount (l.set x fun h => shut_handle h close_cb)) x
  | .req_register => { l with active_reqs := l.active_reqs + 1 }
  | .req_unregister => { l with active_reqs := l.active_reqs - 1 }
  | .update_time time => { l with time := time }
  | .stop => { l with stop_flag := true }

/-- Two loops with the same fields, the links apart. -/
def Alike (l m : Loop P) : Prop := m = { l with timer_heap := m.timer_heap, queues := m.queues }

/-- What a call leads to: a loop with the invariant. -/
structure Kept (now : Option HandleType) (rest : List P) (c : Node P → List (Node P)) (l : Loop P)
    (call : Call P) (m : Loop P) (d : Node P → List (Node P)) : Prop where
  run : call.apply l = some m
  inv : Inv now rest d m
  queue : d .queue = call.leave (c .queue)
  alike : Alike (call.effect l) m

theorem usable_iff : l.usable x = true ↔
    (l.handles x).initialized = true ∧ (l.handles x).closing = false := by
  simp [Loop.usable]

/-- A handle that init may be called on is not active, and does not wait. -/
theorem Inv.legal_init (hi : Inv now rest c l)
    (h : (l.handles x).initialized = false ∨ (l.handles x).closed = true) :
    (l.handles x).active = false ∧ waiting (l.handles x) = false := by
  have hsane := hi.flags.sane x
  rcases h with hinit | hclosed
  · refine ⟨?_, by simp [waiting, hinit]⟩
    by_contra hactive
    have hyes := (hsane.active (by simpa using hactive)).1
    rw [hinit] at hyes
    cases hyes
  · refine ⟨?_, by simp [waiting, hclosed]⟩
    by_contra hactive
    have hno := (hsane.active (by simpa using hactive)).2
    rw [hsane.closed hclosed] at hno
    cases hno

theorem kept_init (hi : Inv now rest c l) (t : HandleType)
    (h : (l.handles x).initialized = false ∨ (l.handles x).closed = true) :
    ∃ m d, Kept now rest c l (.init x t) m d := by
  obtain ⟨hactive, hwaiting⟩ := hi.legal_init h
  have hcounted : Counted (uv__handle_init l x t) := by
    have hsame := recount_same (l := l) (x := x) (f := fun h => { h with
      type := t
      initialized := true
      active := false
      ref := true
      closing := false
      closed := false
      cb := none
      repeat_ := 0
      caught_signals := 0
      dispatched_signals := 0 }) hi.counted (by simp [counts, hactive])
    exact congrArg Loop.active_handles hsame
  refine ⟨uv__handle_init l x t, c, rfl, ?_, rfl, rfl⟩
  refine hi.update hcounted rfl rfl rfl rfl ?_ ?_ ?_ ?_ ?_ ?_
  · simp [ticking, hactive]
  · intro hticking
    simp [ticking, hactive] at hticking
  · simp [watching, hactive]
  · intro hwatching
    simp [watching, hactive] at hwatching
  · rw [hwaiting]
    simp [waiting]
  · exact ⟨by simp, by simp, by simp, fun _ => by simp [Handle.trapped]⟩

variable (hroom : Fintype.card P < UINT_SIZE)
include hroom

theorem kept_timer_start (hi : Inv now rest c l) (cb : Option ℕ) (timeout repeat_ : ℕ)
    (husable : l.usable x = true) (htype : (l.handles x).type = .UV_TIMER) :
    ∃ m d, Kept now rest c l (.timer_start x cb timeout repeat_) m d := by
  obtain ⟨hinit, hclosing⟩ := usable_iff.mp husable
  cases cb with
  | none => exact ⟨l, c, rfl, hi, rfl, rfl⟩
  | some cb =>
    obtain ⟨h, hstart, hheaped⟩ :=
      uv_timer_start.spec hroom cb timeout repeat_ hi.counted hi.heaped htype
    refine ⟨started l x cb timeout repeat_ h, c, ?_, ?_, rfl, rfl⟩
    · rw [Call.apply, hstart]
      rfl
    · refine hi.timer counted_recount hheaped (started_handles h) rfl rfl htype htype rfl ?_
      exact ⟨fun _ => ⟨hinit, hclosing⟩, (hi.flags.sane x).closed, fun _ _ => rfl,
        (hi.flags.sane x).signals⟩

theorem kept_timer_stop (hi : Inv now rest c l) (htype : (l.handles x).type = .UV_TIMER) :
    ∃ m d, Kept now rest c l (.timer_stop x) m d := by
  obtain ⟨h, hstop, hheaped⟩ := uv_timer_stop.spec hroom hi.counted hi.heaped htype
  refine ⟨stopped l x h, c, hstop, ?_, rfl, rfl⟩
  refine hi.timer counted_recount hheaped (stopped_handles h) rfl rfl htype htype rfl ?_
  exact ⟨fun h => by simp at h, (hi.flags.sane x).closed, fun h => by simp at h,
    (hi.flags.sane x).signals⟩

theorem kept_timer_again (hi : Inv now rest c l) (husable : l.usable x = true)
    (htype : (l.handles x).type = .UV_TIMER) :
    ∃ m d, Kept now rest c l (.timer_again x) m d := by
  obtain ⟨hinit, hclosing⟩ := usable_iff.mp husable
  rcases uv_timer_again.spec hroom hi.counted hi.heaped htype with
    ⟨r, hagain, hidle⟩ | ⟨cb, h, hcb, hrepeat, hagain, hheaped⟩
  · refine ⟨l, c, ?_, hi, rfl, ?_⟩
    · rw [Call.apply, hagain]
      rfl
    · have heffect : again_effect l x = l := by
        unfold again_effect
        cases hcb : (l.handles x).cb with
        | none => rfl
        | some cb =>
          rw [hcb] at hidle
          rcases hidle with hidle | hidle
          · cases hidle
          · exact if_pos hidle
      rw [Call.effect, heffect]
      rfl
  · refine ⟨started l x cb (l.handles x).repeat_ (l.handles x).repeat_ h, c, ?_, ?_, rfl, ?_⟩
    · rw [Call.apply, hagain]
      rfl
    · refine hi.timer counted_recount hheaped (started_handles h) rfl rfl htype htype rfl ?_
      exact ⟨fun _ => ⟨hinit, hclosing⟩, (hi.flags.sane x).closed, fun _ _ => rfl,
        (hi.flags.sane x).signals⟩
    · have heffect : again_effect l x =
          started l x cb (l.handles x).repeat_ (l.handles x).repeat_ l.timer_heap := by
        unfold again_effect
        rw [hcb]
        exact if_neg hrepeat
      rw [Call.effect, heffect]
      rfl

omit hroom in
theorem kept_timer_set_repeat (hi : Inv now rest c l) (repeat_ : ℕ) :
    ∃ m d, Kept now rest c l (.timer_set_repeat x repeat_) m d := by
  have hcounted : Counted (uv_timer_set_repeat l x repeat_) := by
    have hsame := recount_same (l := l) (x := x) (f := fun h => { h with repeat_ := repeat_ })
      hi.counted rfl
    exact congrArg Loop.active_handles hsame
  refine ⟨uv_timer_set_repeat l x repeat_, c, rfl, ?_, rfl, rfl⟩
  refine hi.update hcounted rfl rfl rfl rfl rfl ?_ rfl (fun _ => rfl) rfl ?_
  · intro _
    unfold timer_key uv_timer_set_repeat
    rw [set_self]
  · have hsane := hi.flags.sane x
    exact ⟨hsane.active, hsane.closed, hsane.cb, hsane.signals⟩

omit hroom in
theorem ticking_watcher {h : Handle} (ht : h.type.is_watcher = true) : ticking h = false := by
  unfold ticking
  rw [decide_eq_false, Bool.and_false]
  intro htimer
  rw [htimer] at ht
  exact absurd ht (by decide)

/-- The watcher is in its queue. -/
def enqueued (l : Loop P) (x : P) : Loop P :=
  { l with queues := insert_head (.list (l.handles x).type) (.handle x) l.queues }

/-- The watcher `x` after uv_idle_start or a sibling. -/
def watched (l : Loop P) (x : P) (cb : ℕ) : Loop P :=
  recount ((enqueued l x).set x fun h => { h with cb := some cb, active := true })

/-- The watcher `x` after uv_idle_stop or a sibling. -/
def unwatched (l : Loop P) (x : P) : Loop P :=
  recount (({ l with queues := remove (.handle x) l.queues } : Loop P).set x
    fun h => { h with active := false })

theorem uv_watcher_start_eq (hc : Counted l) (cb : ℕ) (hactive : (l.handles x).active = false) :
    uv_watcher_start l x (some cb) = (0, watched l x cb) := by
  unfold uv_watcher_start
  rw [if_neg (by rw [hactive]; exact Bool.false_ne_true)]
  have hcounted : Counted ((enqueued l x).set x fun h => { h with cb := some cb }) := by
    have hsame := recount_same (l := l) (x := x) (f := fun h => { h with cb := some cb }) hc rfl
    exact congrArg Loop.active_handles hsame
  have hstart := handle_start_eq (x := x) hroom hcounted
  have htwice : ((enqueued l x).set x fun h => { h with cb := some cb }).set x
      (fun h => { h with active := true }) =
      (enqueued l x).set x fun h => { h with cb := some cb, active := true } := by
    unfold Loop.set
    simp only [Function.update_self, Function.update_idem]
  rw [htwice] at hstart
  exact congrArg (fun l => ((0 : ℤ), l)) hstart

theorem uv_watcher_stop_eq (hc : Counted l) (hactive : (l.handles x).active = true) :
    uv_watcher_stop l x = unwatched l x := by
  unfold uv_watcher_stop
  rw [if_pos hactive]
  exact handle_stop_eq hroom (l := { l with queues := remove (.handle x) l.queues }) hc

theorem kept_watcher_start (hi : Inv now rest c l) (cb : Option ℕ) (husable : l.usable x = true)
    (htype : (l.handles x).type.is_watcher = true) :
    ∃ m d, Kept now rest c l (.watcher_start x cb) m d := by
  obtain ⟨hinit, hclosing⟩ := usable_iff.mp husable
  cases hactive : (l.handles x).active with
  | true =>
    refine ⟨l, c, ?_, hi, rfl, ?_⟩
    · rw [Call.apply, uv_watcher_start.eq_def, if_pos hactive]
    · cases cb with
      | none => rfl
      | some cb =>
        rw [Call.effect, watch_effect, if_pos hactive]
        rfl
  | false =>
    have hidle : ¬(l.handles x).active = true := by
      rw [hactive]
      exact Bool.false_ne_true
    cases cb with
    | none =>
      refine ⟨l, c, ?_, hi, rfl, rfl⟩
      rw [Call.apply, uv_watcher_start.eq_def, if_neg hidle]
    | some cb =>
      have hlisted := hi.listed.start (m := watched l x cb) (x := x)
        (g := { l.handles x with cb := some cb, active := true }) (by simp [watching, hactive])
        (by simp [watching, htype]) rfl rfl
      refine ⟨watched l x cb, _, ?_, ⟨counted_recount, ?_, hlisted, ?_⟩, ?_, ?_⟩
      · rw [Call.apply, uv_watcher_start_eq hroom hi.counted cb hactive]
      · exact hi.heaped.update rfl rfl (ticking_watcher htype) (ticking_watcher htype)
      · refine hi.flags.update rfl rfl rfl ?_
        exact ⟨fun _ => ⟨hinit, hclosing⟩, (hi.flags.sane x).closed, fun _ _ => rfl,
        (hi.flags.sane x).signals⟩
      · exact Function.update_of_ne (by intro h; cases h) _ _
      · rw [Call.effect, watch_effect, if_neg hidle]
        rfl

omit hroom in
/-- A watcher that stops, whatever else changes in its handle. -/
theorem Inv.unwatch (hi : Inv now rest c l) (htype : (l.handles x).type.is_watcher = true)
    (hactive : (l.handles x).active = true) (hcounted : Counted m)
    (hgactive : g.active = false)
    (hhandles : m.handles = Function.update l.handles x g) (hheap : m.timer_heap = l.timer_heap)
    (hqueues : m.queues = remove (.handle x) l.queues) (hflags : Flags rest m) :
    ∃ c', Inv now rest c' m ∧ c' .queue = (c .queue).erase (.handle x) := by
  obtain ⟨c', hlisted, herase⟩ := hi.listed.stop (m := m) (x := x) (g := g)
    (by simp [watching, hactive, htype]) (by simp [watching, hgactive]) hqueues hhandles
  refine ⟨c', ⟨hcounted, ?_, hlisted, hflags⟩, herase _⟩
  exact hi.heaped.update hheap hhandles (ticking_watcher htype) (by simp [ticking, hgactive])

omit hroom in
/-- A handle that does not watch is not in the local queue. -/
theorem Inv.leave_idle (hi : Inv now rest c l) (hx : watching (l.handles x) = false) :
    (c .queue).erase (.handle x) = c .queue :=
  List.erase_of_not_mem (hi.listed.not_mem hx .queue)

theorem kept_watcher_stop (hi : Inv now rest c l)
    (htype : (l.handles x).type.is_watcher = true) :
    ∃ m d, Kept now rest c l (.watcher_stop x) m d := by
  cases hactive : (l.handles x).active with
  | true =>
    have hflags : Flags rest (unwatched l x) := by
      refine hi.flags.update rfl rfl rfl ?_
      exact ⟨fun h => by simp at h, (hi.flags.sane x).closed, fun h => by simp at h,
    (hi.flags.sane x).signals⟩
    obtain ⟨d, hinv, hqueue⟩ := hi.unwatch (m := unwatched l x) (x := x)
      (g := { l.handles x with active := false }) htype hactive counted_recount rfl rfl rfl rfl
      hflags
    refine ⟨unwatched l x, d, ?_, hinv, hqueue, rfl⟩
    rw [Call.apply, uv_watcher_stop_eq hroom hi.counted hactive]
  | false =>
    refine ⟨l, c, ?_, hi, ?_, ?_⟩
    · rw [Call.apply, uv_watcher_stop, if_neg (by rw [hactive]; exact Bool.false_ne_true)]
    · exact (hi.leave_idle (by simp [watching, hactive])).symm
    · rw [Call.effect, set_id (by rw [← hactive]), hi.counted.recount]
      rfl

omit hroom in
theorem polled_idle {h : Handle} (htype : h.type.is_polled = true) :
    ticking h = false ∧ watching h = false := by
  unfold ticking watching
  cases ht : h.type with
  | UV_SIGNAL => exact ⟨Bool.and_false _, Bool.and_false _⟩
  | other => exact ⟨Bool.and_false _, Bool.and_false _⟩
  | _ =>
    rw [ht] at htype
    exact absurd htype (by decide)

omit hroom in
theorem kept_other (hi : Inv now rest c l) (active : Bool)
    (htype : (l.handles x).type.is_polled = true)
    (hsane : ({ l.handles x with active := active } : Handle).Sane) :
    Inv now rest c (recount (l.set x fun h => { h with active := active })) := by
  refine hi.update counted_recount rfl rfl rfl rfl ?_ ?_ ?_ (fun _ => rfl) rfl hsane
  · rw [(polled_idle htype).1]
    exact (polled_idle (h := { l.handles x with active := active }) htype).1
  · intro hticking
    rw [(polled_idle htype).1] at hticking
    cases hticking
  · rw [(polled_idle htype).2]
    exact (polled_idle (h := { l.handles x with active := active }) htype).2

omit hroom in
theorem kept_ref (hi : Inv now rest c l) (ref : Bool) :
    Inv now rest c (recount (l.set x fun h => { h with ref := ref })) := by
  have hsane := hi.flags.sane x
  refine hi.update counted_recount rfl rfl rfl rfl rfl ?_ rfl (fun _ => rfl) rfl
    ⟨hsane.active, hsane.closed, hsane.cb, hsane.signals⟩
  intro _
  unfold timer_key recount
  rw [set_self]

/-! ## Closing -/

/-- The flags that uv_close sets first. -/
def shut (l : Loop P) (x : P) (close_cb : Bool) : Loop P :=
  l.set x fun h => { h with closing := true, close_cb := close_cb }

omit hroom in
theorem shut_twice (close_cb : Bool) :
    (shut l x close_cb).set x (fun h => { h with active := false }) =
      l.set x fun h => shut_handle h close_cb := by
  unfold shut Loop.set
  simp only [Function.update_self, Function.update_idem]
  rfl

omit hroom in
theorem shut_counted (hi : Inv now rest c l) (close_cb : Bool) : Counted (shut l x close_cb) := by
  have hsame := recount_same (l := l) (x := x) (f := fun h => { h with
    closing := true
    close_cb := close_cb }) hi.counted rfl
  exact congrArg Loop.active_handles hsame

omit hroom in
theorem shut_heaped (hi : Inv now rest c l) (close_cb : Bool) : Heaped (shut l x close_cb) := by
  have hhandle : ∀ y, ticking ((shut l x close_cb).handles y) = ticking (l.handles y) ∧
      timer_key (shut l x close_cb) y = timer_key l y := by
    intro y
    unfold shut timer_key
    by_cases hyx : y = x
    · subst hyx
      rw [set_self]
      exact ⟨rfl, rfl⟩
    · rw [set_ne hyx]
      exact ⟨rfl, rfl⟩
  exact hi.heaped.congr rfl (fun y => (hhandle y).1) fun y _ => (hhandle y).2

omit hroom in
theorem Inv.pend {d : Node P → List (Node P)} (hcounted : Counted m) (hheaped : Heaped m)
    (hlisted : Listed now d m) (hflags : Flags rest (uvloop.pend m x)) :
    Inv now rest d (uvloop.pend m x) := by
  refine ⟨?_, ?_, ⟨?_, ?_, ?_, hlisted.outside⟩, hflags⟩
  · unfold Counted referenced
    rw [pend_active_handles, pend_handles]
    exact hcounted
  · exact hheaped.congr pend_heap (fun y => by rw [pend_handles]) fun y _ => by
      unfold timer_key
      rw [pend_handles]
  · rw [pend_queues]
    exact hlisted.ring
  · rw [pend_handles]
    exact hlisted.listed
  · rw [pend_handles]
    exact hlisted.found

omit hroom in
theorem Alike.pend (h : Alike l m) : Alike (uvloop.pend l x) (uvloop.pend m x) := by
  unfold Alike at h
  have hhandles : m.handles = l.handles := by rw [h]
  have hclosing : m.closing_handles = l.closing_handles := by rw [h]
  unfold Alike uvloop.pend
  rw [hhandles]
  split
  · rw [hclosing]
    conv_lhs => rw [h]
  · exact h

omit hroom in
theorem make_close_pending_eq (h : waiting (m.handles x) = true) :
    uv__make_close_pending m x = some (pend m x) := by
  have hflags : (m.handles x).closing = true ∧ ¬(m.handles x).closed = true := by
    simp only [waiting, Bool.and_eq_true, Bool.not_eq_true'] at h
    exact ⟨h.1.1.2, by simp [h.1.2]⟩
  unfold uv__make_close_pending pend
  rw [if_pos hflags, if_pos h]

omit hroom in
theorem not_closed_of_usable (hi : Inv now rest c l) (husable : l.usable x = true) :
    (l.handles x).closed = false := by
  by_contra hne
  have hyes := (hi.flags.sane x).closed (by simpa using hne)
  rw [(usable_iff.mp husable).2] at hyes
  cases hyes

omit hroom in
theorem waiting_shut (hi : Inv now rest c l) (husable : l.usable x = true) (close_cb : Bool) :
    waiting (shut_handle (l.handles x) close_cb) = !(l.handles x).trapped := by
  have hclosed := not_closed_of_usable hi husable
  simp [waiting, shut_handle, (usable_iff.mp husable).1, hclosed, Handle.trapped]

omit hroom in
theorem sane_shut (hi : Inv now rest c l) (husable : l.usable x = true) (close_cb : Bool) :
    (shut_handle (l.handles x) close_cb).Sane := by
  have hclosed := not_closed_of_usable hi husable
  refine ⟨fun h => by simp [shut_handle] at h, fun _ =>
    rfl, fun h => by simp [shut_handle] at h, ?_⟩
  exact (hi.flags.sane x).signals

omit hroom in
theorem shut_self (close_cb : Bool) : (shut l x close_cb).handles x =
    { l.handles x with closing := true, close_cb := close_cb } := set_self

omit hroom in
/-- The handle waits for the end of its closing, unless it waits for the signal pipe. -/
theorem uv_close_eq (hi : Inv now rest c l) (husable : l.usable x = true) (close_cb : Bool)
    (hstop : uv__type_close (shut l x close_cb) x = some m)
    (hhandles : m.handles = Function.update l.handles x (shut_handle (l.handles x) close_cb)) :
    uv_close l x close_cb = some (pend m x) := by
  have hclosing := (usable_iff.mp husable).2
  have hclosed := not_closed_of_usable hi husable
  have hself : m.handles x = shut_handle (l.handles x) close_cb := by
    rw [hhandles, Function.update_self]
  have hwaiting := waiting_shut hi husable close_cb
  unfold uv_close
  rw [if_neg (by simp [hclosing, hclosed])]
  change (if ((shut l x close_cb).handles x).type = .UV_SIGNAL then
    uv__signal_close (shut l x close_cb) x else
      (uv__type_close (shut l x close_cb) x).bind fun m => uv__make_close_pending m x) = _
  by_cases htype : ((shut l x close_cb).handles x).type = .UV_SIGNAL
  · rw [if_pos htype]
    unfold uv__type_close at hstop
    rw [htype] at hstop
    unfold uv__signal_close
    rw [Option.some.inj hstop]
    dsimp only
    rw [hself]
    have htrapped : (shut_handle (l.handles x) close_cb).trapped = (l.handles x).trapped := rfl
    rw [htrapped]
    cases htrap : (l.handles x).trapped with
    | true =>
      unfold pend
      rw [hself, hwaiting, htrap]
      rfl
    | false => exact make_close_pending_eq (by rw [hself, hwaiting, htrap]; rfl)
  · have hquiet : (l.handles x).trapped = false := by
      refine (hi.flags.sane x).signals (.inl ?_)
      rwa [shut_self] at htype
    rw [if_neg htype, hstop, Option.bind_some]
    exact make_close_pending_eq (by rw [hself, hwaiting, hquiet]; rfl)

omit hroom in
/-- The handles once the close function of the type has cleared the active flag. -/
theorem closes_of_update (close_cb : Bool) (hhandles : m.handles =
      Function.update (shut l x close_cb).handles x
        { (shut l x close_cb).handles x with active := false }) :
    m.handles = Function.update l.handles x (shut_handle (l.handles x) close_cb) := by
  rw [hhandles, shut_self]
  unfold shut Loop.set
  simp only [Function.update_idem]
  rfl

omit hroom in
/-- What uv_close keeps, when the type's own close has stopped the handle. -/
theorem kept_close {d : Node P → List (Node P)} (hi : Inv now rest c l)
    (husable : l.usable x = true) (close_cb : Bool)
    (hstop : uv__type_close (shut l x close_cb) x = some m)
    (hhandles : m.handles = Function.update l.handles x (shut_handle (l.handles x) close_cb))
    (hclosing : m.closing_handles = l.closing_handles) (hcounted : Counted m) (hheaped : Heaped m)
    (hlisted : Listed now d m) (hqueue : d .queue = (c .queue).erase (.handle x))
    (halike : Alike (recount (l.set x fun h => shut_handle h close_cb)) m) :
    Kept now rest c l (.close x close_cb) (pend m x) d := by
  have hwas : waiting (l.handles x) = false := by
    simp [waiting, (usable_iff.mp husable).2]
  exact ⟨uv_close_eq hi husable close_cb hstop hhandles,
    .pend hcounted hheaped hlisted
      (hi.flags.pend hclosing hhandles hwas (sane_shut hi husable close_cb)), hqueue, halike.pend⟩

theorem kept_close_timer (hi : Inv now rest c l) (husable : l.usable x = true) (close_cb : Bool)
    (htype : (l.handles x).type = .UV_TIMER) :
    ∃ m d, Kept now rest c l (.close x close_cb) m d := by
  have hshut : ((shut l x close_cb).handles x).type = .UV_TIMER := by
    rw [shut_self]
    exact htype
  obtain ⟨h, hstop, hheaped⟩ :=
    uv_timer_stop.spec hroom (shut_counted hi close_cb) (shut_heaped hi close_cb) hshut
  have hhandles := closes_of_update (l := l) (m := stopped (shut l x close_cb) x h) close_cb
    (stopped_handles h)
  have hlisted : Listed now c (stopped (shut l x close_cb) x h) := by
    refine hi.listed.update rfl hhandles ?_ fun _ => rfl
    rw [watching_timer _ htype]
    exact watching_timer (shut_handle (l.handles x) close_cb) htype
  refine ⟨pend (stopped (shut l x close_cb) x h) x, c,
    kept_close hi husable close_cb ?_ hhandles rfl
    counted_recount hheaped hlisted (hi.leave_idle (watching_timer _ htype)).symm ?_⟩
  · unfold uv__type_close
    rw [hshut]
    exact hstop
  · rw [← shut_twice]
    rfl

theorem kept_close_watcher (hi : Inv now rest c l) (husable : l.usable x = true) (close_cb : Bool)
    (htype : (l.handles x).type.is_watcher = true) :
    ∃ m d, Kept now rest c l (.close x close_cb) m d := by
  have hrun : uv__type_close (shut l x close_cb) x =
    some (uv_watcher_stop (shut l x close_cb) x) := by
    unfold uv__type_close
    rw [shut_self]
    cases ht : (l.handles x).type with
    | UV_TIMER =>
      rw [ht] at htype
      exact absurd htype (by decide)
    | UV_SIGNAL =>
      rw [ht] at htype
      exact absurd htype (by decide)
    | other =>
      rw [ht] at htype
      exact absurd htype (by decide)
    | UV_IDLE => rfl
    | UV_PREPARE => rfl
    | UV_CHECK => rfl
  have hnow : ticking (shut_handle (l.handles x) close_cb) = false := by
    simp [ticking, shut_handle]
  cases hactive : (l.handles x).active with
  | true =>
    have hstop := uv_watcher_stop_eq hroom (x := x) (shut_counted hi close_cb)
      (by rw [shut_self]; exact hactive)
    have hhandles :=
      closes_of_update (l := l) (x := x) (m := unwatched (shut l x close_cb) x) close_cb
      rfl
    obtain ⟨d, hlisted, herase⟩ := hi.listed.stop (m := unwatched (shut l x close_cb) x) (x := x)
      (g := shut_handle (l.handles x) close_cb) (by simp [watching, hactive, htype])
      (by simp [watching, shut_handle]) rfl hhandles
    refine ⟨_, d, kept_close hi husable close_cb (hrun.trans (congrArg some hstop)) hhandles rfl
      counted_recount ?_ hlisted (herase _) ?_⟩
    · exact hi.heaped.update rfl hhandles (ticking_watcher htype) hnow
    · rw [← shut_twice]
      rfl
  | false =>
    have hidle : uv_watcher_stop (shut l x close_cb) x = shut l x close_cb := by
      unfold uv_watcher_stop
      rw [if_neg (by rw [shut_self]; simp [hactive])]
    have hhandles : (shut l x close_cb).handles =
        Function.update l.handles x (shut_handle (l.handles x) close_cb) := by
      unfold shut_handle
      rw [← hactive]
      rfl
    have hlisted : Listed now c (shut l x close_cb) := by
      refine hi.listed.update rfl hhandles ?_ fun _ => rfl
      simp [watching, shut_handle, hactive]
    refine ⟨_, c, kept_close hi husable close_cb (hrun.trans (congrArg some hidle)) hhandles rfl
      (shut_counted hi close_cb) (shut_heaped hi close_cb) hlisted
      (hi.leave_idle (by simp [watching, hactive])).symm ?_⟩
    have hshut : (shut l x close_cb).set x (fun h => { h with active := false }) =
        shut l x close_cb := set_id (by rw [shut_self, ← hactive])
    rw [← shut_twice, hshut, (shut_counted hi close_cb).recount]
    rfl

theorem kept_close_polled (hi : Inv now rest c l) (husable : l.usable x = true) (close_cb : Bool)
    (htype : (l.handles x).type.is_polled = true) :
    ∃ m d, Kept now rest c l (.close x close_cb) m d := by
  have hrun : uv__type_close (shut l x close_cb) x =
      some (recount ((shut l x close_cb).set x fun h => { h with active := false })) := by
    unfold uv__type_close
    rw [shut_self, ← handle_stop_eq hroom (shut_counted hi close_cb)]
    cases ht : (l.handles x).type with
    | UV_SIGNAL => rfl
    | other => rfl
    | _ =>
      rw [ht] at htype
      exact absurd htype (by decide)
  have hhandles := closes_of_update (l := l) (x := x)
    (m := recount ((shut l x close_cb).set x fun h => { h with active := false })) close_cb rfl
  have hidle : ticking (shut_handle (l.handles x) close_cb) = false ∧
      watching (shut_handle (l.handles x) close_cb) = false := polled_idle htype
  have hlisted : Listed now c (recount ((shut l x close_cb).set x fun h =>
      { h with active := false })) := by
    refine hi.listed.update rfl hhandles ?_ fun _ => rfl
    rw [hidle.2, (polled_idle htype).2]
  refine ⟨_, c, kept_close hi husable close_cb hrun hhandles rfl counted_recount ?_ hlisted
    (hi.leave_idle (polled_idle htype).2).symm ?_⟩
  · exact hi.heaped.update rfl hhandles (polled_idle htype).1 hidle.1
  · rw [← shut_twice]
    rfl

/-! ## Signals -/

omit hroom in
theorem kept_signal_handler (hi : Inv now rest c l) (husable : l.usable x = true)
    (htype : (l.handles x).type = .UV_SIGNAL) :
    Inv now rest c (uv__signal_handler l x) := by
  have hsane := hi.flags.sane x
  have hclosing := (usable_iff.mp husable).2
  have hclosed := not_closed_of_usable hi husable
  have hidle := polled_idle (h := l.handles x) (by rw [htype]; rfl)
  have hcounted : Counted (uv__signal_handler l x) :=
    congrArg Loop.active_handles (recount_same (x := x) hi.counted rfl)
  refine hi.update hcounted rfl rfl rfl rfl rfl ?_ rfl (fun _ => rfl) (by simp [waiting, hclosing])
    ⟨hsane.active, hsane.closed, hsane.cb, ?_⟩
  · intro hticking
    rw [hidle.1] at hticking
    cases hticking
  · rintro (hother | hyes)
    · exact absurd htype hother
    · exact absurd (hclosed.symm.trans hyes) Bool.false_ne_true

omit hroom in
/-- The last signal that is read from the pipe lets the closing go on. -/
theorem kept_signal_event (hi : Inv now rest c l) (hinit : (l.handles x).initialized = true)
    (htype : (l.handles x).type = .UV_SIGNAL) (htrapped : (l.handles x).trapped = true) :
    Kept now rest c l (.signal_event x) (pend (l.set x read_handle) x) c := by
  have hsane := hi.flags.sane x
  have hclosed : (l.handles x).closed = false := by
    by_contra hne
    have hno := hsane.signals (.inr (by simpa using hne))
    exact absurd (hno.symm.trans htrapped) Bool.false_ne_true
  have hidle := polled_idle (h := l.handles x) (by rw [htype]; rfl)
  have hidle' :=
    polled_idle (h := read_handle (l.handles x)) (by unfold read_handle; rw [htype]; rfl)
  have hcounted : Counted (l.set x read_handle) :=
    congrArg Loop.active_handles (recount_same (x := x) (f := read_handle) hi.counted rfl)
  have hread : (read_handle (l.handles x)).Sane := by
    refine ⟨hsane.active, hsane.closed, hsane.cb, ?_⟩
    rintro (hother | hyes)
    · exact absurd htype hother
    · exact absurd (hclosed.symm.trans hyes) Bool.false_ne_true
  have hwaiting : waiting (read_handle (l.handles x)) = true ↔
      (read_handle (l.handles x)).closing = true ∧ ¬(read_handle (l.handles x)).trapped = true := by
    simp [waiting, read_handle, hinit, hclosed]
  refine ⟨?_, .pend hcounted ?_ ?_ ?_, rfl, rfl⟩
  · have hself : (l.set x read_handle).handles x = read_handle (l.handles x) := set_self
    rw [Call.apply]
    change (if ((l.set x read_handle).handles x).closing = true ∧
      ¬((l.set x read_handle).handles x).trapped = true then
        uv__make_close_pending (l.set x read_handle) x else some (l.set x read_handle)) = _
    rw [hself]
    split
    · rename_i hyes
      exact make_close_pending_eq (by rw [hself]; exact hwaiting.mpr hyes)
    · rename_i hno
      unfold pend
      rw [hself, if_neg fun h => hno (hwaiting.mp h)]
  · exact hi.heaped.update rfl rfl hidle.1 hidle'.1
  · exact hi.listed.update rfl rfl (hidle'.2.trans hidle.2.symm) fun _ => rfl
  · exact hi.flags.pend rfl rfl (by simp [waiting, htrapped]) hread

/-- A call that pyuv lets through keeps the invariant, and takes out of the local queue what it
stops. -/
theorem Call.apply.spec (hi : Inv now rest c l) (call : Call P) (hlegal : call.legal l = true) :
    ∃ m d, Kept now rest c l call m d := by
  cases call with
  | init x t => exact kept_init hi t (by simpa [Call.legal] using hlegal)
  | timer_start x cb timeout repeat_ =>
    simp only [Call.legal, decide_eq_true_eq] at hlegal
    exact kept_timer_start hroom hi cb timeout repeat_ hlegal.1 hlegal.2.1
  | timer_stop x =>
    simp only [Call.legal, decide_eq_true_eq] at hlegal
    exact kept_timer_stop hroom hi hlegal.2
  | timer_again x =>
    simp only [Call.legal, decide_eq_true_eq] at hlegal
    exact kept_timer_again hroom hi hlegal.1 hlegal.2
  | timer_set_repeat x repeat_ => exact kept_timer_set_repeat hi repeat_
  | watcher_start x cb =>
    simp only [Call.legal, decide_eq_true_eq] at hlegal
    exact kept_watcher_start hroom hi cb hlegal.1 hlegal.2
  | watcher_stop x =>
    simp only [Call.legal, decide_eq_true_eq] at hlegal
    exact kept_watcher_stop hroom hi hlegal.2
  | other_start x =>
    simp only [Call.legal, decide_eq_true_eq] at hlegal
    obtain ⟨hinit, hclosing⟩ := usable_iff.mp hlegal.1
    refine ⟨recount (l.set x fun h => { h with active := true }), c,
      by rw [Call.apply, handle_start_eq hroom hi.counted], ?_, rfl, rfl⟩
    exact kept_other hi true hlegal.2
      ⟨fun _ => ⟨hinit, hclosing⟩, (hi.flags.sane x).closed,
        fun _ h => absurd (hlegal.2.symm.trans h) (by decide), (hi.flags.sane x).signals⟩
  | other_stop x =>
    simp only [Call.legal, decide_eq_true_eq] at hlegal
    refine ⟨recount (l.set x fun h => { h with active := false }), c,
      by rw [Call.apply, handle_stop_eq hroom hi.counted], ?_, rfl, rfl⟩
    exact kept_other hi false hlegal.2
      ⟨fun h => by simp at h, (hi.flags.sane x).closed, fun h => by simp at h,
    (hi.flags.sane x).signals⟩
  | ref x =>
    exact ⟨_, c, by rw [Call.apply, handle_ref_eq hroom hi.counted], kept_ref hi true, rfl, rfl⟩
  | unref x =>
    exact ⟨_, c, by rw [Call.apply, handle_unref_eq hroom hi.counted], kept_ref hi false, rfl, rfl⟩
  | close x close_cb =>
    have husable : l.usable x = true := hlegal
    cases ht : (l.handles x).type with
    | UV_TIMER => exact kept_close_timer hroom hi husable close_cb ht
    | UV_SIGNAL => exact kept_close_polled hroom hi husable close_cb (by rw [ht]; rfl)
    | other => exact kept_close_polled hroom hi husable close_cb (by rw [ht]; rfl)
    | UV_IDLE => exact kept_close_watcher hroom hi husable close_cb (by rw [ht]; rfl)
    | UV_PREPARE => exact kept_close_watcher hroom hi husable close_cb (by rw [ht]; rfl)
    | UV_CHECK => exact kept_close_watcher hroom hi husable close_cb (by rw [ht]; rfl)
  | signal_handler x =>
    simp only [Call.legal, decide_eq_true_eq] at hlegal
    exact ⟨_, c, rfl, kept_signal_handler hi hlegal.1 hlegal.2.1, rfl, rfl⟩
  | signal_event x =>
    simp only [Call.legal, decide_eq_true_eq] at hlegal
    exact ⟨_, c, kept_signal_event hi hlegal.1 hlegal.2.1 hlegal.2.2⟩
  | req_register => exact ⟨_, c, rfl, hi.congr rfl rfl rfl rfl rfl, rfl, rfl⟩
  | req_unregister => exact ⟨_, c, rfl, hi.congr rfl rfl rfl rfl rfl, rfl, rfl⟩
  | update_time time => exact ⟨_, c, rfl, hi.congr rfl rfl rfl rfl rfl, rfl, rfl⟩
  | stop => exact ⟨_, c, rfl, hi.congr rfl rfl rfl rfl rfl, rfl, rfl⟩

end

end pyuv.uvloop
