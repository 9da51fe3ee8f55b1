-- Every phase of the loop keeps the invariants, so they hold in every state of every program.
import Pyuv.LoopLog

set_option linter.style.nameCheck false
set_option linter.unusedSectionVars false

namespace pyuv.uvloop

open timerheap rings ends

variable {P : Type} [DecidableEq P] [Fintype P]

/-- All that holds of a loop between two calls. -/
structure Good (now : Option HandleType) (rest : List P) (c : Node P → List (Node P)) (l : Loop P) :
    Prop where
  inv : Inv now rest c l
  timely : Timely l
  followed : Followed l

/-- The clock of the system: it does not go back, and fits its type. -/
structure Env.Monotone (E : Env P) : Prop where
  le : ∀ l, l.time < TIME_SIZE → l.time ≤ E.clock l
  lt : ∀ l, E.clock l < TIME_SIZE

section

variable {l m n : Loop P} {x : P} {call : Call P} {now : Option HandleType} {rest : List P}
  {c d : Node P → List (Node P)} {e : Event P} {α β : Type}

theorem get_bind (f : Loop P → M P α) : (get >>= f) l = f l l := rfl

theorem set_bind (f : PUnit → M P α) : ((set m : M P PUnit) >>= f) l = f ⟨⟩ m := rfl

theorem orAbort_bind (a : α) (f : α → M P β) : (orAbort (some a) >>= f) l = f a l := rfl

theorem Timely.alike (ht : Timely l) (h : Alike l m) : Timely m := by
  refine ht.shrink h.log h.starts h.counter h.time.ge (by rw [h.time]; exact ht.time) ?_
  intro x hx
  rw [h.handles] at hx
  refine ⟨hx, ?_⟩
  unfold timer_key
  rw [h.handles]

theorem Inv.note (hi : Inv now rest c l) : Inv now rest c (l.note e) := hi.congr rfl rfl rfl rfl rfl

/-- The event of a call, or of a callback for a handle that is open. -/
theorem Good.note (hg : Good now rest c l) (hfiring : e.firing = none)
    (hnext : e.next (statuses l) = some (statuses l)) : Good now rest c (l.note e) :=
  ⟨hg.inv.note, hg.timely.note hfiring, hg.followed.note rfl hnext⟩

/-- One call after another, each one legal. -/
inductive Steps : Loop P → List (Call P) → Loop P → Prop
  | nil (l : Loop P) : Steps l [] l
  | cons {l m n : Loop P} {call : Call P} {cs : List (Call P)} :
      call.legal l = true → (∃ now rest c, Inv now rest c l) → Alike (call.effect l) n →
        Steps (n.note (.api call)) cs m → Steps l (call :: cs) m

theorem pend_eq (l : Loop P) (x : P) :
    pend l x = { l with closing_handles := (pend l x).closing_handles } := by
  unfold pend
  split <;> rfl

theorem effect_log : (call.effect l).log = l.log := by
  cases call with
  | timer_start x cb timeout repeat_ =>
    cases cb <;> rfl
  | timer_again x =>
    rw [Call.effect, again_effect]
    split
    · rfl
    · split <;> rfl
  | watcher_start x cb =>
    cases cb with
    | none => rfl
    | some cb =>
      rw [Call.effect, watch_effect]
      split <;> rfl
  | signal_event x => rw [Call.effect, pend_eq]; rfl
  | close x close_cb => rw [Call.effect, pend_eq]; rfl
  | _ => rfl

/-! ## What happens from one state to a later one -/

/-- The events `es` have happened. Without an event, nothing has changed but links and the clock,
which may have been read. -/
structure Grows (l : Loop P) (es : List (Event P)) (m : Loop P) : Prop where
  log : m.log = l.log ++ es
  stop : m.stop_flag = true → l.stop_flag = true ∨ .api .stop ∈ es
  quiet : es = [] → l.time ≤ m.time ∧
    m = { l with time := m.time, queues := m.queues, readings := m.readings }

theorem Grows.refl (l : Loop P) : Grows l [] l := ⟨by simp, .inl, fun _ => ⟨le_rfl, rfl⟩⟩

theorem Grows.trans {es fs : List (Event P)} (h₁ : Grows l es m) (h₂ : Grows m fs n) :
    Grows l (es ++ fs) n := by
  refine ⟨?_, ?_, ?_⟩
  · rw [h₂.log, h₁.log, List.append_assoc]
  · intro hstop
    rcases h₂.stop hstop with hstop | hstop
    · rcases h₁.stop hstop with hstop | hstop
      · exact .inl hstop
      · exact .inr (List.mem_append_left _ hstop)
    · exact .inr (List.mem_append_right _ hstop)
  · intro hnil
    obtain ⟨hes, hfs⟩ := List.append_eq_nil_iff.mp hnil
    obtain ⟨hle₁, heq₁⟩ := h₁.quiet hes
    obtain ⟨hle₂, heq₂⟩ := h₂.quiet hfs
    refine ⟨hle₁.trans hle₂, ?_⟩
    rw [heq₂, heq₁]

/-- A step with events, in which uv_stop is not called. -/
theorem Grows.of_log {es : List (Event P)} (hlog : m.log = l.log ++ es) (hes : es ≠ [])
    (hstop : m.stop_flag = l.stop_flag) : Grows l es m :=
  ⟨hlog, fun h => .inl (hstop ▸ h), fun h => absurd h hes⟩

theorem effect_stop (h : (call.effect l).stop_flag = true) :
    l.stop_flag = true ∨ .api call = (.api .stop : Event P) := by
  cases call with
  | stop => exact .inr rfl
  | timer_start x cb timeout repeat_ =>
    cases cb <;> exact .inl h
  | timer_again x =>
    rw [Call.effect, again_effect] at h
    split at h
    · exact .inl h
    · split at h <;> exact .inl h
  | watcher_start x cb =>
    cases cb with
    | none => exact .inl h
    | some cb =>
      rw [Call.effect, watch_effect] at h
      split at h <;> exact .inl h
  | signal_event x =>
    rw [Call.effect, pend_eq] at h
    exact .inl h
  | close x close_cb =>
    rw [Call.effect, pend_eq] at h
    exact .inl h
  | _ => exact .inl h

theorem Alike.stop_flag (h : Alike l m) : m.stop_flag = l.stop_flag := by
  unfold Alike at h
  rw [h]

theorem Steps.grows {cs : List (Call P)} (h : Steps l cs m) : Grows l (cs.map .api) m := by
  induction h with
  | nil l => exact .refl l
  | @cons l m n call cs hlegal _ halike _ ih =>
    have hone : Grows l [.api call] (n.note (.api call)) := by
      refine ⟨?_, ?_, fun h => absurd h (List.cons_ne_nil _ _)⟩
      · unfold Loop.note
        rw [halike.log, effect_log]
      · intro hstop
        have hflag : (call.effect l).stop_flag = true := by
          rw [← halike.stop_flag]
          exact hstop
        rcases effect_stop hflag with hstop | hstop
        · exact .inl hstop
        · exact .inr (by rw [hstop]; exact List.mem_singleton_self _)
    exact hone.trans ih

/-- Between two calls, everything holds. -/
def Sound (now : Option HandleType) (rest : List P) (l : Loop P) : Prop := ∃ c, Good now rest c l

/-- A part of the loop that keeps everything. It stops for a misuse or for the fuel, also in the
middle of a list, and follows no NULL. -/
def Phase (now : Option HandleType) (rest : List P)
    (good : Loop P → α → List (Event P) → Loop P → Prop) (p : M P α) : Prop :=
  Ends (Sound now rest) (fun l a m => Sound now rest m ∧ ∃ es, Grows l es m ∧ good l a es m)
    (fun l e m => e ≠ .abort ∧ (∃ now rest, Sound now rest m) ∧ ∃ es, Grows l es m) p

section

variable {g : Loop P → β → List (Event P) → Loop P → Prop}

theorem Phase.bind {p : M P α} {f : α → M P β} {u : Loop P → α → List (Event P) → Loop P → Prop}
    {v : α → Loop P → β → List (Event P) → Loop P → Prop}
    (hp : Phase now rest u p) (hf : ∀ a, Phase now rest (v a) (f a))
    (h : ∀ l a es m b fs n, Grows l es m → u l a es m → Sound now rest m → Grows m fs n →
      v a m b fs n → g l b (es ++ fs) n) :
    Phase now rest g (p >>= f) := by
  refine Ends.bind hp hf ?_ ?_ ?_ ?_
  · intro s a t _ hfirst
    exact hfirst.1
  · rintro s a t b w _ ⟨ht, es, hgrows, hgood⟩ ⟨hw, fs, hgrows', hgood'⟩
    exact ⟨hw, es ++ fs, hgrows.trans hgrows', h s a es t b fs w hgrows hgood ht hgrows' hgood'⟩
  · intro s e t _ hfirst
    exact hfirst
  · rintro s a t e w _ ⟨ht, es, hgrows, hgood⟩ ⟨he, hw, fs, hgrows'⟩
    exact ⟨he, hw, es ++ fs, hgrows.trans hgrows'⟩

/-- A program that looks at the state first. -/
theorem Phase.get {f : Loop P → M P β}
    (hf : ∀ l, Phase now rest (fun l' b es m => l' = l → g l' b es m) (f l)) :
    Phase now rest g (get >>= f) := by
  refine Ends.of ?_ ?_
  · intro l b m hl hrun
    obtain ⟨hm, es, hgrows, hgood⟩ := (hf l).ok hl hrun
    exact ⟨hm, es, hgrows, hgood rfl⟩
  · intro l e m hl hrun
    exact (hf l).error hl hrun

theorem Phase.mono {g' : Loop P → β → List (Event P) → Loop P → Prop} {p : M P β}
    (hp : Phase now rest g p) (h : ∀ l b es m, g l b es m → g' l b es m) :
    Phase now rest g' p := by
  refine Ends.mono hp (fun _ hs => hs) ?_ fun _ _ _ _ he => he
  rintro l b m - ⟨hm, es, hgrows, hgood⟩
  exact ⟨hm, es, hgrows, h l b es m hgood⟩

/-- A loop, at its end or after one round. -/
theorem Phase.of_round {p : M P β} (h : ∀ l, Sound now rest l →
      (∃ b, p l = .ok b l ∧ g l b [] l) ∨
        ∃ n es, Grows l es n ∧ Sound now rest n ∧
          ∃ p', p l = p' n ∧ Phase now rest (fun _ b fs m => g l b (es ++ fs) m) p') :
    Phase now rest g p := by
  refine Ends.of ?_ ?_
  · intro l b m hl hrun
    rcases h l hl with ⟨b', hok, hgood⟩ | ⟨n, es, hgrows, hn, p', hnext, hp⟩
    · rw [hok] at hrun
      cases hrun
      exact ⟨hl, [], .refl l, hgood⟩
    · rw [hnext] at hrun
      obtain ⟨hm, fs, hgrows', hgood⟩ := hp.ok hn hrun
      exact ⟨hm, _, hgrows.trans hgrows', hgood⟩
  · intro l e m hl hrun
    rcases h l hl with ⟨b', hok, -⟩ | ⟨n, es, hgrows, hn, p', hnext, hp⟩
    · rw [hok] at hrun
      cases hrun
    · rw [hnext] at hrun
      obtain ⟨he, hm, fs, hgrows'⟩ := hp.error hn hrun
      exact ⟨he, hm, _, hgrows.trans hgrows'⟩

theorem Phase.pure {b : β} (h : ∀ l, g l b [] l) : Phase now rest g (Pure.pure b : M P β) :=
  Ends.pure fun l hl => ⟨hl, [], .refl l, h l⟩

end

/-! ## Calls -/

variable (hroom : Fintype.card P < UINT_SIZE)
include hroom

theorem Call.run.spec (call : Call P) (hg : Good now rest c l) :
    (call.legal l = true ∧ ∃ n d, call.run l = .ok () (n.note (.api call)) ∧
      Alike (call.effect l) n ∧ Good now rest d (n.note (.api call)) ∧
      d .queue = call.leave (c .queue)) ∨ call.run l = .error .misuse l := by
  unfold Call.run
  rw [get_bind]
  by_cases hlegal : call.legal l = true
  · left
    rw [if_pos hlegal]
    obtain ⟨n, d, hkept⟩ := Call.apply.spec hroom hg.inv call hlegal
    refine ⟨hlegal, n, d, ?_, hkept.alike, ⟨hkept.inv.note, ?_, ?_⟩, hkept.queue⟩
    · rw [hkept.run]
      rfl
    · exact ((hg.timely.effect hlegal).alike hkept.alike).note rfl
    · refine hg.followed.note (e := .api call) ?_ ?_
      · unfold Loop.note
        rw [hkept.alike.log, effect_log]
      · rw [hg.inv.next_call hlegal]
        unfold statuses Loop.note
        rw [hkept.alike.handles]
  · rw [if_neg hlegal]
    exact .inr rfl

theorem perform.spec (cs : List (Call P)) (now : Option HandleType) (rest : List P) :
    ∀ c, Ends (Good now rest c)
      (fun l _ m => Steps l cs m ∧ ∃ d, Good now rest d m ∧
      d .queue = cs.foldl Call.leave (c .queue))
      (fun l e m => e = .misuse ∧ (∃ d, Good now rest d m) ∧ ∃ done, done <+: cs ∧ Steps l done m)
      (perform cs) := by
  induction cs with
  | nil => exact fun c => Ends.pure fun l hg => ⟨.nil l, c, hg, rfl⟩
  | cons call cs ih =>
    intro c
    refine Ends.of ?_ ?_
    · intro l _ m hg hrun
      unfold perform at hrun
      rcases Call.run.spec hroom call hg with ⟨hlegal, n, d, hcall, halike, hgood, hqueue⟩ | hcall
      · rw [bind_of_ok hcall] at hrun
        obtain ⟨hsteps, d', hgood', hqueue'⟩ := (ih d).ok hgood hrun
        exact ⟨.cons hlegal ⟨now, rest, c, hg.inv⟩ halike hsteps, d',
          hgood', by rw [hqueue', hqueue]; rfl⟩
      · rw [bind_of_error hcall] at hrun
        cases hrun
    · intro l e m hg hrun
      unfold perform at hrun
      rcases Call.run.spec hroom call hg with ⟨hlegal, n, d, hcall, halike, hgood, -⟩ | hcall
      · rw [bind_of_ok hcall] at hrun
        obtain ⟨he, hgood', done, hdone, hsteps⟩ := (ih d).error hgood hrun
        exact ⟨he, hgood', call :: done, List.cons_prefix_cons.mpr ⟨rfl, hdone⟩,
          .cons hlegal ⟨now, rest, c, hg.inv⟩ halike hsteps⟩
      · rw [bind_of_error hcall] at hrun
        cases hrun
        exact ⟨rfl, ⟨c, hg⟩, [], List.nil_prefix, .nil l⟩

theorem perform.phase (cs : List (Call P)) :
    Phase now rest (fun l _ es m => es = cs.map .api ∧ Steps l cs m) (perform cs) := by
  refine Ends.of ?_ ?_
  · rintro l _ m ⟨c, hl⟩ hrun
    obtain ⟨hsteps, d, hm, -⟩ := (perform.spec hroom cs now rest c).ok hl hrun
    exact ⟨⟨d, hm⟩, _, hsteps.grows, rfl, hsteps⟩
  · rintro l e m ⟨c, hl⟩ hrun
    obtain ⟨rfl, ⟨d, hm⟩, done, -, hsteps⟩ := (perform.spec hroom cs now rest c).error hl hrun
    exact ⟨(by intro h; cases h), ⟨now, rest, d, hm⟩, _, hsteps.grows⟩

omit hroom in
theorem Good.time (hg : Good now rest c l) {time readings : ℕ} (hle : l.time ≤ time)
    (hlt : time < TIME_SIZE) :
    Good now rest c { l with time := time, readings := readings } :=
  ⟨hg.inv.congr rfl rfl rfl rfl rfl, hg.timely.shrink rfl rfl rfl hle hlt fun _ h => ⟨h, rfl⟩,
    hg.followed⟩

variable {E : Env P} (hclock : E.Monotone)

omit hroom in
include hclock in
theorem uv__update_time.phase :
    Phase now rest (fun l _ es m => es = [] ∧
        m = { l with time := E.clock l, readings := l.readings + 1 })
      (uv__update_time E) := by
  refine Ends.modify ?_
  rintro l ⟨c, hl⟩
  have hle := hclock.le l hl.timely.time
  refine ⟨⟨c, hl.time hle (hclock.lt l)⟩, [], ⟨by simp, .inl, ?_⟩, rfl, rfl⟩
  intro _
  exact ⟨hle, rfl⟩

omit hroom in
theorem Good.io (hg : Good now rest c l) : Good now rest c (l.note .io_cb) := hg.note rfl rfl

omit hroom in
theorem Grows.note (l : Loop P) (e : Event P) : Grows l [e] (l.note e) :=
  .of_log rfl (List.cons_ne_nil _ _) rfl

omit hroom in
theorem note_io.phase : Phase (P := P) now rest (fun _ _ es _ => es = [.io_cb]) (note .io_cb) := by
  refine Ends.modify ?_
  rintro l ⟨c, hl⟩
  exact ⟨⟨c, hl.io⟩, _, .note l .io_cb, rfl⟩

/-- Callbacks have run when pending.c's queue was not empty. -/
theorem uv__run_pending.phase :
    Phase now rest (fun l b es _ => b = (E.pending l).isSome ∧ (es = [] ↔ b = false) ∧ Stirs es)
      (uv__run_pending E) := by
  unfold uv__run_pending
  refine Phase.get fun l => ?_
  cases hpending : E.pending l with
  | none =>
    refine Phase.pure ?_
    rintro l' rfl
    rw [hpending]
    exact ⟨rfl, iff_of_true rfl rfl, .inl rfl⟩
  | some cs =>
    refine Phase.bind note_io.phase (fun _ => Phase.bind (perform.phase hroom cs)
      (fun _ => Phase.pure (g := fun _ b es _ => b = true ∧ es = []) fun _ => ⟨rfl, rfl⟩)
      (g := fun _ b _ _ => b = true) ?_) ?_
    · rintro l a es m b fs n - - - - ⟨rfl, -⟩
      rfl
    · rintro l' a es m b fs n - rfl - - rfl rfl
      rw [hpending]
      exact ⟨rfl, by simp, .cons rfl⟩

include hclock in
theorem uv__io_poll.phase (timeout : ℤ) :
    Phase now rest
      (fun l _ es m => (es = [] → E.poll l timeout = none ∧ m.time = E.clock l) ∧ Stirs es)
      (uv__io_poll E timeout) := by
  unfold uv__io_poll
  refine Phase.get fun l => ?_
  refine Phase.bind (uv__update_time.phase hclock)
    (v := fun _ l' _ es m => (es = [] → E.poll l timeout = none ∧ m = l') ∧ Stirs es)
    (fun _ => ?_) ?_
  · cases hpoll : E.poll l timeout with
    | none => exact Phase.pure fun l' => ⟨fun _ => ⟨rfl, rfl⟩, .inl rfl⟩
    | some cs =>
      refine Phase.bind note_io.phase (fun _ => perform.phase hroom cs) ?_
      rintro l a es m b fs n - rfl - - -
      exact ⟨fun h => absurd h (List.cons_ne_nil _ _), .cons rfl⟩
  · rintro l' a es m b fs n - ⟨rfl, rfl⟩ - - ⟨hquiet, hstirs⟩ rfl
    refine ⟨fun hes => ?_, hstirs⟩
    obtain ⟨hpoll, rfl⟩ := hquiet hes
    exact ⟨hpoll, rfl⟩

/-! ## Timers -/

omit hroom in
/-- No timer of the heap is due. -/
def Waits (l : Loop P) : Prop := ∀ x, ticking (l.handles x) = true → l.time < (l.handles x).timeout

omit hroom in
theorem Inv.first (hi : Inv now rest c l) (hx : heap_min l.timer_heap = some x) :
    ticking (l.handles x) = true ∧
      ∀ y, ticking (l.handles y) = true → timer_key l x ≤ timer_key l y := by
  obtain ⟨hmem, hle⟩ := (heap_min.spec hi.heaped).2 x hx
  exact ⟨mem_timers.mp hmem, fun y hy => hle y (mem_timers.mpr hy)⟩

omit hroom in
theorem key_le_timeout {y : P} (h : timer_key l x ≤ timer_key l y) :
    (l.handles x).timeout ≤ (l.handles y).timeout := by
  rcases lt_or_eq_of_le h with hlt | heq
  · have hor := timer_key_lt.mp hlt
    omega
  · exact (congrArg (fun k => (ofLex k).1) heq).le

/-- A timer that is due: it is stopped, started again when it repeats, and called. -/
structure Firing (l : Loop P) (x : P) (m : Loop P) (cb : ℕ) : Prop where
  ticks : ticking (l.handles x) = true
  due : (l.handles x).timeout ≤ l.time
  called : (l.handles x).cb = some cb
  stop : ∃ n r, uv_timer_stop l x = some n ∧ uv_timer_again n x = some (r, m)
  time : m.time = l.time
  log : m.log = l.log
  starts : l.starts ≤ m.starts
  stop_flag : m.stop_flag = l.stop_flag
  again : (m.handles x).cb = some cb
  others : ∀ y, y ≠ x → m.handles y = l.handles y
  type : (m.handles x).type = (l.handles x).type
  status : (m.handles x).status = (l.handles x).status
  anew : ticking (m.handles x) = true →
    (l.handles x).repeat_ ≠ 0 ∧ (m.handles x).timeout = clamp l.time (l.handles x).repeat_ ∧
      (m.handles x).start_id = l.timer_counter ∧ m.starts = l.starts + 1

omit hroom in
theorem Good.first_strict (hg : Good now rest c l) (hid : l.starts ≤ UINT64_SIZE)
    (hx : heap_min l.timer_heap = some x) {y : P} (hy : ticking (l.handles y) = true)
    (hyx : y ≠ x) :
    timer_key l x < timer_key l y := by
  obtain ⟨hticking, hle⟩ := hg.inv.first hx
  refine lt_of_le_of_ne (hle y hy) fun heq => hyx ?_
  exact ((hg.timely.fifo hid).distinct x y hticking hy
    (congrArg (fun k => (ofLex k).2) heq)).symm

/-- The first timer is stopped, and started again when it repeats. -/
theorem Inv.fire (hi : Inv now rest c l) (hx : heap_min l.timer_heap = some x)
    (hdue : (l.handles x).timeout ≤ l.time) :
    ∃ n b m d cb, Kept now rest c l (.timer_stop x) n b ∧ Kept now rest b n (.timer_again x) m d ∧
      Firing l x m cb ∧ (Call.timer_stop x).legal l = true ∧
      (Call.timer_again x).legal n = true := by
  obtain ⟨hticking, -⟩ := hi.first hx
  have hactive : (l.handles x).active = true ∧ (l.handles x).type = .UV_TIMER := by
    simpa [ticking] using hticking
  have hsane := hi.flags.sane x
  obtain ⟨hinit, hclosing⟩ := hsane.active hactive.1
  obtain ⟨cb, hcb⟩ := Option.isSome_iff_exists.mp
    (hsane.cb hactive.1 (by rw [hactive.2]; rfl))
  obtain ⟨n, b, hstop⟩ := kept_timer_stop hroom hi hactive.2
  have hn : n.handles = Function.update l.handles x { l.handles x with active := false } :=
    hstop.alike.handles
  have hnx : n.handles x = { l.handles x with active := false } := by
    rw [hn, Function.update_self]
  have husable : n.usable x = true := by
    rw [usable_iff, hnx]
    exact ⟨hinit, hclosing⟩
  have htype : (n.handles x).type = .UV_TIMER := by
    rw [hnx]
    exact hactive.2
  obtain ⟨m, d, hagain⟩ := kept_timer_again hroom hstop.inv husable htype
  obtain ⟨⟨r, m'⟩, hrun, rfl⟩ := Option.map_eq_some_iff.mp hagain.run
  have hidle : ∀ h : Handle, ticking { h with active := false } = true → False :=
    fun h hticks => ticking_of_active hticks
  have heffect := hagain.alike
  rw [Call.effect, again_effect, hnx] at heffect
  dsimp only at heffect
  rw [hcb] at heffect
  dsimp only at heffect
  have hlegal : (Call.timer_stop x).legal l = true ∧ (Call.timer_again x).legal n = true := by
    simp only [Call.legal, decide_eq_true_eq]
    exact ⟨⟨usable_iff.mpr ⟨hinit, hclosing⟩, hactive.2⟩, husable, htype⟩
  refine ⟨n, b, m', d, cb, hstop, hagain, ?_, hlegal⟩
  by_cases hrepeat : (l.handles x).repeat_ = 0
  · rw [if_pos hrepeat] at heffect
    refine ⟨hticking, hdue, hcb, ⟨n, r, hstop.run, hrun⟩, ?_, ?_, ?_, ?_, ?_, ?_, ?_, ?_, ?_⟩
    · rw [heffect.time, hstop.alike.time]
      rfl
    · rw [heffect.log, hstop.alike.log]
      rfl
    · rw [heffect.starts, hstop.alike.starts]
      rfl
    · rw [heffect.stop_flag, hstop.alike.stop_flag]
      rfl
    · rw [heffect.handles, hnx]
      exact hcb
    · intro y hyx
      rw [heffect.handles, hn, Function.update_of_ne hyx]
    · rw [heffect.handles, hnx]
    · rw [heffect.handles, hnx]
      rfl
    · intro hticks
      rw [heffect.handles, hnx] at hticks
      exact absurd hticks (hidle _)
  · rw [if_neg hrepeat] at heffect
    have hm : m'.handles = Function.update n.handles x { n.handles x with
        active := true
        cb := some cb
        timeout := clamp n.time (l.handles x).repeat_
        repeat_ := (l.handles x).repeat_
        start_id := n.timer_counter } := by
      rw [heffect.handles, started_handles]
    have hmx := congrFun hm x
    rw [Function.update_self, hnx] at hmx
    refine ⟨hticking, hdue, hcb, ⟨n, r, hstop.run, hrun⟩, ?_, ?_, ?_, ?_, ?_, ?_, ?_, ?_, ?_⟩
    · rw [heffect.time]
      exact hstop.alike.time
    · rw [heffect.log]
      exact hstop.alike.log
    · rw [heffect.starts]
      have hstarts : n.starts = l.starts := hstop.alike.starts
      exact (hstarts ▸ Nat.le_succ n.starts)
    · rw [heffect.stop_flag]
      exact hstop.alike.stop_flag
    · rw [hmx]
    · intro y hyx
      rw [hm, Function.update_of_ne hyx, hn, Function.update_of_ne hyx]
    · rw [hmx]
    · rw [hmx]
      rfl
    · intro _
      rw [hmx]
      have htime : n.time = l.time := hstop.alike.time
      have hcounter : n.timer_counter = l.timer_counter := hstop.alike.counter
      have hstarts : n.starts = l.starts := hstop.alike.starts
      refine ⟨hrepeat, by rw [htime], hcounter, ?_⟩
      rw [heffect.starts, ← hstarts]
      rfl

/-- The round of uv__run_timers in which the first timer is due. -/
theorem Good.fire (hg : Good now rest c l) (hx : heap_min l.timer_heap = some x)
    (hdue : (l.handles x).timeout ≤ l.time) :
    ∃ m d cb, Firing l x m cb ∧ d .queue = c .queue ∧
      Good now rest d (m.note
        (.timer_cb x cb (l.handles x).timeout (l.handles x).start_id m.time)) := by
  obtain ⟨n, b, m, d, cb, hstop, hagain, hfiring, hlegal, hlegal'⟩ := hg.inv.fire hroom hx hdue
  refine ⟨m, d, cb, hfiring, ?_, hagain.inv.note, ?_, ?_⟩
  · rw [hagain.queue, hstop.queue]
    rfl
  · have htimely : Timely m :=
      (((hg.timely.effect hlegal).alike hstop.alike).effect hlegal').alike hagain.alike
    refine htimely.fire (by rw [hfiring.time]; exact hdue) ?_ ?_ ?_
    · intro hid
      have hlt := (hg.timely.fifo (hfiring.starts.trans hid)).ids x hfiring.ticks
      have hle := hfiring.starts
      omega
    · intro hid k hk
      unfold fired at hk
      rw [hfiring.log] at hk
      exact (hg.timely.fifo (hfiring.starts.trans hid)).before k hk x hfiring.ticks
    · intro hid y hy
      have hid' := hfiring.starts.trans hid
      by_cases hyx : y = x
      · subst hyx
        obtain ⟨-, htimeout, hstart, hstarts⟩ := hfiring.anew hy
        have hclamp := le_clamp l.time (l.handles y).repeat_ hg.timely.time
        have hlt := (hg.timely.fifo hid').ids y hfiring.ticks
        have hcounter : l.timer_counter = l.starts := by
          rw [hg.timely.counter, Nat.mod_eq_of_lt (by omega)]
        unfold timer_key
        rw [Prod.Lex.toLex_lt_toLex, htimeout, hstart, hcounter]
        dsimp only
        omega
      · rw [hfiring.others y hyx] at hy
        unfold timer_key
        rw [hfiring.others y hyx]
        exact hg.first_strict hid' hx hy hyx
  · have hstatuses : statuses m = statuses l := by
      funext y
      unfold statuses
      by_cases hyx : y = x
      · rw [hyx, hfiring.status]
      · rw [hfiring.others y hyx]
    have hinit := (hg.inv.flags.sane x).active (by
      have hticks := hfiring.ticks
      simp only [ticking, Bool.and_eq_true] at hticks
      exact hticks.1)
    refine hg.followed.note
      (e := .timer_cb x cb (l.handles x).timeout (l.handles x).start_id m.time)
      (by rw [← hfiring.log]; rfl) ?_
    have hopened : statuses l x = .opened := status_opened hinit.1 hinit.2
    rw [Event.next, if_pos hopened, ← hstatuses]
    rfl

/-- The event of a timer that comes up. -/
def Loop.timer_event (l : Loop P) (x : P) (cb : ℕ) : Event P :=
  .timer_cb x cb (l.handles x).timeout (l.handles x).start_id l.time

/-- One round of uv__run_timers: no timer is due, or the first one is called. -/
theorem uv__run_timers.round (hg : Good now rest c l) (fuel : ℕ) :
    (Waits l ∧ uv__run_timers E (fuel + 1) l = .ok () l) ∨
      ∃ x m d cb, heap_min l.timer_heap = some x ∧ Firing l x m cb ∧ d .queue = c .queue ∧
        Good now rest d (m.note (l.timer_event x cb)) ∧
        uv__run_timers E (fuel + 1) l =
          (perform (E.callback (m.note (l.timer_event x cb))) >>= fun _ => uv__run_timers E fuel)
            (m.note (l.timer_event x cb)) := by
  rw [uv__run_timers, get_bind]
  cases hx : heap_min l.timer_heap with
  | none =>
    refine .inl ⟨?_, rfl⟩
    intro y hy
    have hempty := (heap_min.spec hg.inv.heaped).1.mp hx
    rw [← mem_timers, hempty] at hy
    exact absurd hy (Finset.notMem_empty y)
  | some x =>
    dsimp only
    by_cases hdue : l.time < (l.handles x).timeout
    · rw [if_pos hdue]
      refine .inl ⟨?_, rfl⟩
      intro y hy
      exact hdue.trans_le (key_le_timeout ((hg.inv.first hx).2 y hy))
    · rw [if_neg hdue]
      obtain ⟨m, d, cb, hfiring, hqueue, hgood⟩ := hg.fire hroom hx (not_lt.mp hdue)
      rw [hfiring.time] at hgood
      refine .inr ⟨x, m, d, cb, rfl, hfiring, hqueue, hgood, ?_⟩
      obtain ⟨n, r, hstop, hagain⟩ := hfiring.stop
      rw [hstop, orAbort_bind, hagain, orAbort_bind, hfiring.again, orAbort_bind, set_bind,
        hfiring.time]
      rfl

theorem uv__run_timers.phase (fuel : ℕ) :
    Phase now rest (fun _ _ es m => Waits m ∧ Stirs es) (uv__run_timers E fuel) := by
  induction fuel with
  | zero =>
    exact Ends.throw fun l hl => ⟨(by intro h; cases h), ⟨now, rest, hl⟩, [], .refl l⟩
  | succ fuel ih =>
    have hrest : ∀ cs, Phase now rest (fun _ _ _ m => Waits m)
        (perform cs >>= fun _ => uv__run_timers E fuel) := fun cs =>
      Phase.bind (perform.phase hroom cs) (fun _ => ih) fun _ _ _ _ _ _ _ _ _ _ _ h => h.1
    refine Phase.of_round ?_
    rintro l ⟨c, hl⟩
    rcases uv__run_timers.round hroom (E := E) hl fuel with
      ⟨hwaits, hok⟩ | ⟨x, n, d, cb, -, hfiring, -, hgood, hnext⟩
    · exact .inl ⟨(), hok, hwaits, .inl rfl⟩
    · have hone : Grows l [l.timer_event x cb] (n.note (l.timer_event x cb)) :=
        .of_log (by rw [← hfiring.log]; rfl) (List.cons_ne_nil _ _) hfiring.stop_flag
      exact .inr ⟨_, _, hone, ⟨d, hgood⟩, _, hnext,
        (hrest _).mono fun _ _ _ _ hwaits => ⟨hwaits, .cons rfl⟩⟩

end

end pyuv.uvloop
