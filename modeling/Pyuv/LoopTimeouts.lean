-- How long uv_run sleeps: uv_backend_timeout is exact, and a run with UV_RUN_ONCE makes progress.
import Pyuv.LoopStates

set_option linter.style.nameCheck false
set_option linter.unusedSectionVars false

namespace pyuv.uvloop

open timerheap rings ends

variable {P : Type} [DecidableEq P] [Fintype P] [Inhabited P]

/-! ## The timeout -/

/-- There is something to do that does not wait for a timer or for input. -/
def Busy (E : Env P) (l : Loop P) : Prop :=
  l.stop_flag = true ∨
    ¬((∃ x, (l.handles x).active = true ∧ (l.handles x).ref = true) ∨ 0 < l.active_reqs) ∨
    (∃ x, (l.handles x).active = true ∧ (l.handles x).type = .UV_IDLE) ∨
    (E.pending l).isSome = true ∨ ∃ x, waiting (l.handles x) = true

section

variable {E : Env P} {l : Loop P} {now : Option HandleType} {rest : List P}
  {c : Node P → List (Node P)}

theorem Good.has_active (hg : Good now rest c l) : uv__has_active l = true ↔
    (∃ x, (l.handles x).active = true ∧ (l.handles x).ref = true) ∨ 0 < l.active_reqs := by
  unfold uv__has_active
  rw [decide_eq_true_eq, hg.active_handles_pos]

theorem Good.idle_empty (hg : Good none rest c l) :
    rings.empty (.list .UV_IDLE) l.queues = true ↔
      ¬∃ x, (l.handles x).active = true ∧ (l.handles x).type = .UV_IDLE := by
  have hhead : (.list .UV_IDLE : Node P) ∈ heads none := list_head rfl
  obtain ⟨q, hq, -⟩ := hg.inv.listed.names hhead
  unfold rings.empty
  rw [decide_eq_true_eq, hg.inv.listed.ring.empty_iff hhead, hq, List.map_eq_nil_iff,
    List.eq_nil_iff_forall_not_mem, not_exists]
  refine forall_congr' fun x => not_congr ?_
  rw [← hg.inv.listed.mem_list (t := .UV_IDLE) rfl, hq,
    List.mem_map_of_injective fun a b h => Node.handle.inj h]

/-- The first timer decides. -/
theorem Good.next_timeout (hg : Good now rest c l) :
    (uv__next_timeout l = -1 ∧ ∀ x, ticking (l.handles x) = false) ∨
      ∃ x, heap_min l.timer_heap = some x ∧ ticking (l.handles x) = true ∧
        (∀ y, ticking (l.handles y) = true → (l.handles x).timeout ≤ (l.handles y).timeout) ∧
        uv__next_timeout l = (min INT_MAX ((l.handles x).timeout - l.time) : ℕ) := by
  unfold uv__next_timeout
  cases hx : heap_min l.timer_heap with
  | none =>
    refine .inl ⟨rfl, fun x => ?_⟩
    have hempty := (heap_min.spec hg.inv.heaped).1.mp hx
    have hout : x ∉ timers l := by
      rw [hempty]
      exact Finset.notMem_empty x
    rwa [mem_timers, Bool.not_eq_true] at hout
  | some x =>
    obtain ⟨hticking, hfirst⟩ := hg.inv.first hx
    refine .inr ⟨x, rfl, hticking, fun y hy => key_le_timeout (hfirst y hy), ?_⟩
    dsimp only
    split
    · rename_i hdue
      rw [Nat.sub_eq_zero_of_le hdue, Nat.min_zero]
      rfl
    · split
      · rename_i hfar
        rw [Nat.min_eq_left hfar.le]
      · rename_i hnear
        rw [Nat.min_eq_right (not_lt.mp hnear)]

theorem Good.backend_timeout (hg : Good none [] c l) :
    (Busy E l → uv_backend_timeout E l = 0) ∧
      (¬Busy E l → uv_backend_timeout E l = uv__next_timeout l) := by
  unfold uv_backend_timeout Busy
  rw [← hg.has_active, ← hg.closing_iff]
  have hidle := hg.idle_empty
  by_cases hstop : l.stop_flag = true
  · rw [if_pos hstop]
    exact ⟨fun _ => rfl, fun h => absurd (.inl hstop) h⟩
  · rw [if_neg hstop]
    by_cases hactive : uv__has_active l = false
    · rw [if_pos hactive]
      exact ⟨fun _ => rfl, fun h => absurd (.inr (.inl (by simp [hactive]))) h⟩
    · rw [if_neg hactive]
      by_cases hempty : rings.empty (.list .UV_IDLE) l.queues = false
      · rw [if_pos hempty]
        refine ⟨fun _ => rfl, fun h => absurd (.inr (.inr (.inl ?_))) h⟩
        by_contra hno
        rw [hidle.mpr hno] at hempty
        cases hempty
      · rw [if_neg hempty]
        have hnone := hidle.mp (by simpa using hempty)
        by_cases hpending : (E.pending l).isSome = true
        · rw [if_pos hpending]
          exact ⟨fun _ => rfl, fun h => absurd (.inr (.inr (.inr (.inl hpending)))) h⟩
        · rw [if_neg hpending]
          by_cases hclosing : l.closing_handles ≠ []
          · rw [if_pos hclosing]
            exact ⟨fun _ => rfl, fun h => absurd (.inr (.inr (.inr (.inr hclosing)))) h⟩
          · rw [if_neg hclosing]
            refine ⟨fun h => ?_, fun _ => rfl⟩
            rcases h with h | h | h | h | h
            · exact absurd h hstop
            · exact absurd (by simpa using hactive) h
            · exact absurd h hnone
            · exact absurd h hpending
            · exact absurd h hclosing

end

theorem backend_timeout_is_exact {E : Env P} {links : Mem (Node P)} {time : ℕ} {l : Loop P}
    (hroom : Fintype.card P < UINT_SIZE) (hclock : E.Monotone) (htime : time < TIME_SIZE)
    (hl : Reachable E links time l) :
    (Busy E l → uv_backend_timeout E l = 0) ∧
      (¬Busy E l →
        (uv_backend_timeout E l = -1 ∧ ∀ x, ticking (l.handles x) = false) ∨
          ∃ x, ticking (l.handles x) = true ∧
            (∀ y, ticking (l.handles y) = true → (l.handles x).timeout ≤ (l.handles y).timeout) ∧
            uv_backend_timeout E l = (min INT_MAX ((l.handles x).timeout - l.time) : ℕ)) := by
  obtain ⟨c, hg⟩ := hl.sound hroom hclock htime
  obtain ⟨hbusy, hfree⟩ := hg.backend_timeout (E := E)
  refine ⟨hbusy, fun h => ?_⟩
  rw [hfree h]
  rcases hg.next_timeout with hnone | ⟨x, -, hticking, hfirst, htimeout⟩
  · exact .inl hnone
  · exact .inr ⟨x, hticking, hfirst, htimeout⟩

/-- Two timers, of which the one that was started first is due first. -/
def timer_acts : List (Act (Fin 2)) :=
  [.call (.init first .UV_TIMER), .call (.init second .UV_TIMER),
    .call (.timer_start second (some 7) 5 0),
    .call (.timer_start first (some 8) 6 0)]

/-- The loop after that. -/
def timers_ended : Loop (Fin 2) := ending (program two_timers timer_acts (uv_loop_init ⟨id, id⟩ 3))

theorem timers_ended_reachable : Reachable two_timers ⟨id, id⟩ 3 timers_ended :=
  ended_reachable timer_acts (by decide +kernel)

theorem backend_timeout_is_exact_two :
    (Busy two_timers timers_ended → uv_backend_timeout two_timers timers_ended = 0) ∧
      (¬Busy two_timers timers_ended →
        (uv_backend_timeout two_timers timers_ended = -1 ∧
          ∀ x, ticking (timers_ended.handles x) = false) ∨
          ∃ x, ticking (timers_ended.handles x) = true ∧
            (∀ y, ticking (timers_ended.handles y) = true →
              (timers_ended.handles x).timeout ≤ (timers_ended.handles y).timeout) ∧
            uv_backend_timeout two_timers timers_ended =
              (min INT_MAX ((timers_ended.handles x).timeout - timers_ended.time) : ℕ)) :=
  backend_timeout_is_exact two_fit two_timers_clock three_fits timers_ended_reachable

/-! ## Progress -/

/-- What is said of the poll: it comes back with nothing only when its timeout is over, and without
a timeout it waits for input. The queue of uv__run_pending changes only when something happens. -/
structure Env.Polls (E : Env P) : Prop where
  expires : ∀ l : Loop P, ∀ timeout : ℤ, 0 ≤ timeout → E.poll l timeout = none →
    l.time + timeout ≤ E.clock l
  blocks : ∀ l, E.poll l (-1) ≠ none
  queue : ∀ k l : Loop P, k.log = l.log → E.pending k = E.pending l

/-- In a run that calls no callback, the poll's timeout is that of the first timer. -/
theorem Idle.not_busy {E : Env P} {l m k : Loop P} (hi : Idle E .UV_RUN_ONCE l m)
    (hpolls : E.Polls) (hlive : uv__loop_alive l = true) (hstop : l.stop_flag = false)
    (hsound : Sound none [] k)
    (hk : k = { l with time := k.time, queues := k.queues, readings := k.readings }) :
    ¬Busy E k := by
  obtain ⟨c, hg⟩ := hsound
  obtain ⟨k₀, hlog, hpending⟩ := hi.pending
  have hclosing : k.closing_handles = [] := by
    rw [hk]
    exact hi.calm.closing
  have hactive : uv__has_active k = true := by
    have hor := hlive
    unfold uv__loop_alive at hor
    rw [decide_eq_true_eq] at hor
    rw [hk]
    exact hor.resolve_right fun h => h hi.calm.closing
  rintro (h | h | ⟨x, hx, htype⟩ | h | h)
  · rw [hk] at h
    exact absurd (h.symm.trans hstop) (by decide)
  · exact h (hg.has_active.mp hactive)
  · rw [hk] at hx htype
    exact hi.idle x hx htype
  · have hsame : k.log = k₀.log := by
      rw [hk]
      exact hlog.symm
    rw [hpolls.queue k k₀ hsame, hpending] at h
    cases h
  · exact hg.closing_iff.mpr h hclosing

theorem run_once_makes_progress {E : Env P} {links : Mem (Node P)} {time : ℕ} {l m : Loop P}
    {r : Bool} (fuel : ℕ) (hroom : Fintype.card P < UINT_SIZE) (hclock : E.Monotone)
    (hpolls : E.Polls) (htime : time < TIME_SIZE) (hl : Reachable E links time l)
    (hlive : uv__loop_alive l = true) (hstop : l.stop_flag = false)
    (hm : uv_run E .UV_RUN_ONCE fuel l = .ok r m) :
    (∃ es, m.log = l.log ++ es ∧ ∃ e ∈ es, e.is_callback = true) ∨
      ∃ x, ticking (l.handles x) = true ∧ l.time + INT_MAX < (l.handles x).timeout ∧
        ∀ y, ticking (l.handles y) = true → (l.handles x).timeout ≤ (l.handles y).timeout := by
  obtain ⟨-, es, hran⟩ :=
    (uv_run.spec hroom hclock .UV_RUN_ONCE fuel).ok (hl.sound hroom hclock htime) hm
  rcases hran.stirs with hes | hstirs
  · right
    have hidle := hran.quiet rfl hlive hstop hes
    obtain ⟨k, hsound, hk, hle, hpoll, htick⟩ := hidle.calm.poll
    have hfree := hidle.not_busy hpolls hlive hstop hsound hk
    obtain ⟨c, hg⟩ := hsound
    have hhandles : k.handles = l.handles := by
      rw [hk]
    rw [if_neg (by decide), hg.backend_timeout.2 hfree] at hpoll
    rcases hg.next_timeout with ⟨hnone, -⟩ | ⟨x, -, hticking, hfirst, htimeout⟩
    · rw [hnone] at hpoll
      exact absurd hpoll (hpolls.blocks k)
    · rw [htimeout] at hpoll
      have hover := hpolls.expires k _ (Int.natCast_nonneg _) hpoll
      rw [hhandles] at hticking hfirst hover
      refine ⟨x, hticking, ?_, hfirst⟩
      have hwaits := hidle.waits rfl x (by rw [hran.same hes]; exact hticking)
      rw [hran.same hes] at hwaits
      omega
  · exact .inl ⟨es, hran.log, hstirs⟩

/-- A clock that goes on by 5, and input that comes when the timeout is longer. -/
def slow_input : Env (Fin 2) where
  callback _ := []
  pending _ := none
  poll l timeout :=
    if 0 ≤ timeout ∧ l.time + timeout ≤ two_timers.clock l then none else some []
  clock := two_timers.clock

theorem slow_input_clock : slow_input.Monotone := ⟨two_timers_clock.le, two_timers_clock.lt⟩

theorem slow_input_polls : slow_input.Polls := by
  refine ⟨fun l timeout _ hnone => ?_, fun l hnone => ?_, fun _ _ _ => rfl⟩
  · unfold slow_input at hnone ⊢
    dsimp only at hnone ⊢
    split at hnone
    · rename_i h
      exact h.2
    · cases hnone
  · unfold slow_input at hnone
    dsimp only at hnone
    rw [if_neg (by omega)] at hnone
    cases hnone

/-- The same in a loop whose clock goes on between the calls. -/
def slow_ended : Loop (Fin 2) := ending (program slow_input timer_acts (uv_loop_init ⟨id, id⟩ 3))

theorem slow_ended_reachable : Reachable slow_input ⟨id, id⟩ 3 slow_ended :=
  ended_reachable timer_acts (by decide +kernel)

theorem run_once_makes_progress_two : ∃ m r, uv_run slow_input .UV_RUN_ONCE 9 slow_ended = .ok r m ∧
    ((∃ es, m.log = slow_ended.log ++ es ∧ ∃ e ∈ es, e.is_callback = true) ∨
      ∃ x, ticking (slow_ended.handles x) = true ∧
        slow_ended.time + INT_MAX < (slow_ended.handles x).timeout ∧
        ∀ y, ticking (slow_ended.handles y) = true →
          (slow_ended.handles x).timeout ≤ (slow_ended.handles y).timeout) := by
  obtain ⟨r, hok⟩ := ok_of_finishes (r := uv_run slow_input .UV_RUN_ONCE 9 slow_ended)
    (by decide +kernel)
  exact ⟨_, r, hok, run_once_makes_progress 9 two_fit slow_input_clock slow_input_polls three_fits
    slow_ended_reachable (by decide +kernel) (by decide +kernel) hok⟩

end pyuv.uvloop
