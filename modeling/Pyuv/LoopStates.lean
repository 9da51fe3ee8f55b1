-- What the loop's states and its log tell: the timers come up in order, callbacks are for open
-- handles, a closing ends once, and uv_run returns what the flags of the handles say.
import Pyuv.LoopPrograms

set_option linter.style.nameCheck false
set_option linter.unusedSectionVars false

namespace pyuv.uvloop

open timerheap rings ends

variable {P : Type} [DecidableEq P] [Fintype P] [Inhabited P]

section

variable {E : Env P} {links : Mem (Node P)} {time : ℕ} (hroom : Fintype.card P < UINT_SIZE)
  (hclock : E.Monotone)
include hroom hclock

theorem program.sound (htime : time < TIME_SIZE) (as : List (Act P)) :
    Ends (fun l => l = uv_loop_init links time) (fun _ _ l => Sound none [] l)
      (fun _ e l => e ≠ .abort ∧ ∃ now rest, Sound now rest l) (program E as) := by
  refine Ends.mono (program.spec hroom hclock as) ?_ (fun _ _ _ _ h => h) fun _ _ _ _ h => h
  rintro l rfl
  exact uv_loop_init.sound htime

end

/-! ## The order of the timers -/

/-- No timer has come up before its time, and they have come up in the order of their timeouts,
those with the same timeout in the order of their starts. -/
structure InOrder (l : Loop P) : Prop where
  early : ∀ x cb timeout start_id time, .timer_cb x cb timeout start_id time ∈ l.log →
    timeout ≤ time
  sorted : l.starts ≤ UINT64_SIZE → (fired l).Pairwise (· < ·)

theorem Timely.in_order {l : Loop P} (ht : Timely l) : InOrder l :=
  ⟨ht.early, fun hid => (ht.fifo hid).sorted⟩

theorem timers_come_up_in_order {E : Env P} {links : Mem (Node P)} {time : ℕ}
    (hroom : Fintype.card P < UINT_SIZE) (hclock : E.Monotone) (htime : time < TIME_SIZE)
    (as : List (Act P)) :
    Ends (fun l => l = uv_loop_init links time) (fun _ _ l => InOrder l)
      (fun _ e l => e ≠ .abort ∧ InOrder l) (program E as) := by
  refine Ends.mono (program.sound hroom hclock htime as) (fun _ h => h) ?_ ?_
  · rintro _ _ l - ⟨c, hg⟩
    exact hg.timely.in_order
  · rintro _ e l - ⟨he, now, rest, c, hg⟩
    exact ⟨he, hg.timely.in_order⟩

/-- One handle. -/
def first : Fin 2 := 0

def second : Fin 2 := 1

/-- Two timers for the same moment. The callback of the first one starts the other one anew. -/
def two_timers : Env (Fin 2) where
  callback l := if l.log.length < 6 then [.timer_start first (some 9) 0 0] else []
  pending _ := none
  poll _ _ := none
  clock l := min (l.time + 5) (TIME_SIZE - 1)

theorem two_timers_clock : two_timers.Monotone := by
  refine ⟨fun l hl => ?_, fun l => ?_⟩
  · unfold two_timers
    dsimp only
    omega
  · unfold two_timers TIME_SIZE UINT64_SIZE
    dsimp only
    omega

theorem two_fit : Fintype.card (Fin 2) < UINT_SIZE := by decide

theorem three_fits : 3 < TIME_SIZE := by decide

/-- A program for the timers above. -/
def two_acts : List (Act (Fin 2)) :=
  [.call (.init first .UV_TIMER), .call (.init second .UV_TIMER),
    .call (.timer_start second (some 7) 5 0),
    .call (.timer_start first (some 8) 5 0), .run .UV_RUN_NOWAIT 9]

theorem timers_come_up_in_order_two :
    Ends (fun l => l = uv_loop_init ⟨id, id⟩ 3) (fun _ _ l => InOrder l)
      (fun _ e l => e ≠ .abort ∧ InOrder l) (program two_timers two_acts) :=
  timers_come_up_in_order two_fit two_timers_clock three_fits two_acts

/-! ## The lives of the handles -/

theorem callbacks_follow_the_lives {E : Env P} {links : Mem (Node P)} {time : ℕ}
    (hroom : Fintype.card P < UINT_SIZE) (hclock : E.Monotone) (htime : time < TIME_SIZE)
    (as : List (Act P)) :
    Ends (fun l => l = uv_loop_init links time) (fun _ _ l => Followed l)
      (fun _ e l => e ≠ .abort ∧ Followed l) (program E as) := by
  refine Ends.mono (program.sound hroom hclock htime as) (fun _ h => h) ?_ ?_
  · rintro _ _ l - ⟨c, hg⟩
    exact hg.followed
  · rintro _ e l - ⟨he, now, rest, c, hg⟩
    exact ⟨he, hg.followed⟩

theorem callbacks_follow_the_lives_two :
    Ends (fun l => l = uv_loop_init ⟨id, id⟩ 3) (fun _ _ l => Followed l)
      (fun _ e l => e ≠ .abort ∧ Followed l) (program two_timers two_acts) :=
  callbacks_follow_the_lives two_fit two_timers_clock three_fits two_acts

/-! ## What uv_run returns -/

/-- Something keeps the loop alive. -/
def Left (l : Loop P) : Prop :=
  (∃ x, (l.handles x).active = true ∧ (l.handles x).ref = true) ∨ 0 < l.active_reqs ∨
    ∃ x, waiting (l.handles x) = true

theorem Good.active_handles_pos {now : Option HandleType} {rest : List P}
    {c : Node P → List (Node P)} {l : Loop P} (hg : Good now rest c l) :
    0 < l.active_handles ↔ ∃ x, (l.handles x).active = true ∧ (l.handles x).ref = true := by
  rw [hg.inv.counted, Finset.card_pos]
  constructor
  · rintro ⟨x, hx⟩
    exact ⟨x, by simpa [counts] using mem_referenced.mp hx⟩
  · rintro ⟨x, hx⟩
    exact ⟨x, mem_referenced.mpr (by simpa [counts] using hx)⟩

theorem Good.closing_iff {now : Option HandleType} {c : Node P → List (Node P)} {l : Loop P}
    (hg : Good now [] c l) : l.closing_handles ≠ [] ↔ ∃ x, waiting (l.handles x) = true := by
  have hwaits := hg.inv.flags.waits
  simp only [List.append_nil] at hwaits
  rw [← exists_congr hwaits]
  exact ⟨List.exists_mem_of_ne_nil _, fun ⟨x, hx⟩ => List.ne_nil_of_mem hx⟩

theorem Good.alive {now : Option HandleType} {c : Node P → List (Node P)} {l : Loop P}
    (hg : Good now [] c l) : uv__loop_alive l = true ↔ Left l := by
  unfold uv__loop_alive uv__has_active Left
  rw [decide_eq_true_eq, decide_eq_true_eq, hg.active_handles_pos, hg.closing_iff, or_assoc]

theorem uv_run_tells_what_is_left {E : Env P} {links : Mem (Node P)} {time : ℕ}
    {l m : Loop P} {r : Bool} (as : List (Act P)) (mode : RunMode) (fuel : ℕ)
    (hroom : Fintype.card P < UINT_SIZE) (hclock : E.Monotone) (htime : time < TIME_SIZE)
    (hl : program E as (uv_loop_init links time) = .ok () l)
    (hm : uv_run E mode fuel l = .ok r m) :
    (r = true ↔ Left m) ∧ m.stop_flag = false ∧
      ∃ es, m.log = l.log ++ es ∧
        (mode = .UV_RUN_DEFAULT → r = true → l.stop_flag = true ∨ .api .stop ∈ es) := by
  have hsound := (program.sound hroom hclock htime as).ok rfl hl
  obtain ⟨⟨c, hg⟩, es, hran⟩ := (uv_run.spec hroom hclock mode fuel).ok hsound hm
  refine ⟨?_, hran.cleared, es, hran.log, hran.stopped⟩
  rw [hran.returns]
  exact hg.alive

/-- The run comes to its end. -/
def finishes {α : Type} : EStateM.Result Stop (Loop P) α → Bool
  | .ok _ _ => true
  | .error _ _ => false

/-- The state in which a program ends. -/
def ending {α : Type} : EStateM.Result Stop (Loop P) α → Loop P
  | .ok _ l => l
  | .error _ l => l

theorem ok_of_finishes {α : Type} {r : EStateM.Result Stop (Loop P) α} (h : finishes r = true) :
    ∃ a, r = .ok a (ending r) := by
  cases r with
  | ok a l => exact ⟨a, rfl⟩
  | error e l => cases h

/-- The loop after the program above. -/
def two_ended : Loop (Fin 2) := ending (program two_timers two_acts (uv_loop_init ⟨id, id⟩ 3))

theorem two_ended_eq :
    program two_timers two_acts (uv_loop_init ⟨id, id⟩ 3) = .ok () two_ended := by
  obtain ⟨⟨⟩, hok⟩ := ok_of_finishes
    (r := program two_timers two_acts (uv_loop_init ⟨id, id⟩ 3)) (by decide +kernel)
  exact hok

theorem uv_run_tells_what_is_left_two :
    ∃ m r, uv_run two_timers .UV_RUN_DEFAULT 9 two_ended = .ok r m ∧
    (r = true ↔ Left m) ∧ m.stop_flag = false ∧
      ∃ es, m.log = two_ended.log ++ es ∧
        (RunMode.UV_RUN_DEFAULT = .UV_RUN_DEFAULT → r = true →
          two_ended.stop_flag = true ∨ .api .stop ∈ es) := by
  obtain ⟨r, hok⟩ := ok_of_finishes (r := uv_run two_timers .UV_RUN_DEFAULT 9 two_ended)
    (by decide +kernel)
  exact ⟨_, r, hok, uv_run_tells_what_is_left two_acts .UV_RUN_DEFAULT 9 two_fit two_timers_clock
    three_fits two_ended_eq hok⟩

/-! ## The states between the parts of a run -/

/-- The states in which a call may be made or a part of the loop begins, whatever their order. -/
inductive Reachable (E : Env P) (links : Mem (Node P)) (time : ℕ) : Loop P → Prop
  | init : Reachable E links time (uv_loop_init links time)
  | call {l m : Loop P} {call : Call P} : Reachable E links time l → call.run l = .ok () m →
      Reachable E links time m
  | update_time {l m : Loop P} : Reachable E links time l → uv__update_time E l = .ok () m →
      Reachable E links time m
  | timers {l m : Loop P} {fuel : ℕ} : Reachable E links time l →
      uv__run_timers E fuel l = .ok () m → Reachable E links time m
  | pending {l m : Loop P} {b : Bool} : Reachable E links time l →
      uv__run_pending E l = .ok b m → Reachable E links time m
  | watchers {l m : Loop P} {t : HandleType} : Reachable E links time l →
      t.is_watcher = true → uv__run_watchers E t l = .ok () m → Reachable E links time m
  | poll {l m : Loop P} {timeout : ℤ} : Reachable E links time l →
      uv__io_poll E timeout l = .ok () m → Reachable E links time m
  | closing {l m : Loop P} : Reachable E links time l → uv__run_closing_handles E l = .ok () m →
      Reachable E links time m
  | clear {l : Loop P} : Reachable E links time l →
      Reachable E links time { l with stop_flag := false }

section

variable {E : Env P} {links : Mem (Node P)} {time : ℕ} {l m : Loop P}

theorem Reachable.sound (hroom : Fintype.card P < UINT_SIZE) (hclock : E.Monotone)
    (htime : time < TIME_SIZE) (hl : Reachable E links time l) : Sound none [] l := by
  induction hl with
  | init => exact uv_loop_init.sound htime
  | @call l m call _ hrun ih =>
    obtain ⟨c, hg⟩ := ih
    rcases Call.run.spec hroom call hg with ⟨-, n, d, hok, -, hgood, -⟩ | herr
    · cases hok.symm.trans hrun
      exact ⟨d, hgood⟩
    · cases herr.symm.trans hrun
  | update_time _ hrun ih => exact ((uv__update_time.phase hclock).ok ih hrun).1
  | timers _ hrun ih => exact ((uv__run_timers.phase hroom _).ok ih hrun).1
  | pending _ hrun ih => exact ((uv__run_pending.phase hroom).ok ih hrun).1
  | watchers _ ht hrun ih => exact ((uv__run_watchers.phase hroom ht).ok ih hrun).1
  | poll _ hrun ih => exact ((uv__io_poll.phase hroom hclock _).ok ih hrun).1
  | closing _ hrun ih => exact ((uv__run_closing_handles.phase hroom).ok ih hrun).1
  | clear _ ih =>
    obtain ⟨c, hg⟩ := ih
    exact ⟨c, hg.clear⟩

end

/-- A program that goes from reachable states to reachable states. -/
def Reaches (E : Env P) (links : Mem (Node P)) (time : ℕ) {α : Type} (p : M P α) : Prop :=
  ∀ l a m, Reachable E links time l → p l = .ok a m → Reachable E links time m

section

variable {E : Env P} {links : Mem (Node P)} {time : ℕ} {α β : Type}

theorem Reaches.bind {p : M P α} {f : α → M P β} (hp : Reaches E links time p)
    (hf : ∀ a, Reaches E links time (f a)) : Reaches E links time (p >>= f) := by
  intro l b n hl hrun
  cases hfirst : p l with
  | ok a m =>
    rw [bind_of_ok hfirst] at hrun
    exact hf a m b n (hp l a m hl hfirst) hrun
  | error e m =>
    rw [bind_of_error hfirst] at hrun
    cases hrun

theorem Reaches.pure (a : α) : Reaches E links time (Pure.pure a : M P α) := by
  rintro l _ m hl hrun
  cases hrun
  exact hl

theorem Reaches.get : Reaches E links time (get : M P (Loop P)) := by
  rintro l _ m hl hrun
  cases hrun
  exact hl

theorem Reaches.throw (e : Stop) : Reaches E links time (throw e : M P α) := by
  rintro l _ m - hrun
  cases hrun

theorem Reaches.ite {c : Prop} [Decidable c] {p q : M P α} (hp : Reaches E links time p)
    (hq : Reaches E links time q) : Reaches E links time (if c then p else q) := by
  split
  · exact hp
  · exact hq

theorem iteration.reaches (mode : RunMode) (fuel : ℕ) :
    Reaches E links time (iteration E mode fuel) := by
  have htimers : ∀ fuel, Reaches E links time (uv__run_timers E fuel) :=
    fun _ _ _ _ hl hrun => .timers hl hrun
  have hclock : Reaches E links time (uv__update_time E) := fun _ _ _ hl hrun =>
    .update_time hl hrun
  have hwatchers : ∀ t : HandleType, t.is_watcher = true →
      Reaches E links time (uv__run_watchers E t) := fun _ ht _ _ _ hl hrun => .watchers hl ht hrun
  have hend : Reaches E links time (do
      let l ← get
      return uv__loop_alive l) := Reaches.get.bind fun _ => .pure _
  unfold iteration
  refine hclock.bind fun _ => (htimers fuel).bind fun _ => ?_
  refine Reaches.bind (fun _ _ _ hl hrun => .pending hl hrun) fun ran => ?_
  refine (hwatchers .UV_IDLE rfl).bind fun _ => (hwatchers .UV_PREPARE rfl).bind fun _ => ?_
  refine Reaches.get.bind fun l => ?_
  refine Reaches.bind (fun _ _ _ hl hrun => .poll hl hrun) fun _ => ?_
  refine (hwatchers .UV_CHECK rfl).bind fun _ => ?_
  refine Reaches.bind (fun _ _ _ hl hrun => .closing hl hrun) fun _ => ?_
  exact .ite (hclock.bind fun _ => (htimers fuel).bind fun _ => hend) hend

/-- What uv_run goes through is reachable, and so is what a program leads to. -/
theorem uv_run.reaches (mode : RunMode) (fuel : ℕ) : Reaches E links time (uv_run E mode fuel) := by
  have hrounds : ∀ fuel r, Reaches E links time (rounds E mode fuel r) := by
    intro fuel
    induction fuel with
    | zero => exact fun r => .throw .fuel
    | succ fuel ih =>
      intro r
      unfold rounds
      refine Reaches.get.bind fun l => .ite ?_ (.pure r)
      exact (iteration.reaches mode fuel).bind fun r => .ite (ih r) (.pure r)
  have hend : ∀ r, Reaches E links time (do
      let r ← rounds E mode fuel r
      modify fun l => { l with stop_flag := false }
      return r) := by
    intro r
    refine (hrounds fuel r).bind fun r => Reaches.bind ?_ fun _ => .pure r
    intro l _ m hl hrun
    cases hrun
    exact hl.clear
  unfold uv_run
  refine Reaches.get.bind fun l => ?_
  have hclock : Reaches E links time (uv__update_time E) := fun _ _ _ hl hrun =>
    .update_time hl hrun
  exact .ite (hclock.bind fun _ => hend _) (hend _)

theorem program.reaches (as : List (Act P)) : Reaches E links time (program E as) := by
  induction as with
  | nil => exact .pure ()
  | cons a as ih =>
    refine Reaches.bind ?_ fun _ => ih
    cases a with
    | call call => exact fun _ _ _ hl hrun => .call hl hrun
    | run mode fuel => exact (uv_run.reaches mode fuel).bind fun _ => .pure ()

end

/-! ## The turns of the watchers -/

/-- The watchers that are active when the phase begins are called once each, in the order of their
list, with the callbacks that they have then. One that a callback before it stops or closes is not,
even if it is started again. -/
structure TakeTurns (t : HandleType) (l : Loop P) (q : List P) (es : List (Event P)) : Prop where
  ring : Ring l.queues (.list t) (q.map .handle)
  nodup : q.Nodup
  active : ∀ x, x ∈ q ↔ (l.handles x).active = true ∧ (l.handles x).type = t
  once : List.Sublist (called es) q
  served : ∀ x ∈ q, (∀ call, .api call ∈ es → call.leaves x = false) → x ∈ called es
  stale : es.Pairwise Stale
  callback : ∀ x s cb, .watcher_cb x s cb ∈ es → s = t ∧ (l.handles x).cb = some cb

omit [Fintype P] [Inhabited P] in
theorem Served.take_turns {t : HandleType} {l : Loop P} {q : List P} {es : List (Event P)}
    (h : Served l t q es) : TakeTurns t l q es :=
  ⟨h.ring, h.nodup, h.active, h.turns.sublist, fun _ hx hstays => h.turns.served h.nodup hx hstays,
    h.turns.stale h.nodup, fun _ _ _ hcb => h.turns.callback hcb⟩

theorem watchers_take_turns {E : Env P} {links : Mem (Node P)} {time : ℕ} {l : Loop P}
    {t : HandleType} (hroom : Fintype.card P < UINT_SIZE) (hclock : E.Monotone)
    (htime : time < TIME_SIZE) (hl : Reachable E links time l) (ht : t.is_watcher = true) :
    (∃ m es q, uv__run_watchers E t l = .ok () m ∧ m.log = l.log ++ es ∧ TakeTurns t l q es) ∨
      ∃ m, uv__run_watchers E t l = .error .misuse m := by
  rcases uv__run_watchers.spec (E := E) hroom (hl.sound hroom hclock htime) ht with
    ⟨m, es, q, hok, -, hgrows, hserved⟩ | ⟨m, es, herr, -⟩
  · exact .inl ⟨m, es, q, hok, hgrows.log, hserved.take_turns⟩
  · exact .inr ⟨m, herr⟩

/-- Two idle watchers. The callbacks stop the one that was started first: it comes last in the
list. -/
def two_watchers : Env (Fin 2) where
  callback _ := [.watcher_stop first]
  pending _ := none
  poll _ _ := none
  clock l := min (l.time + 5) (TIME_SIZE - 1)

theorem two_watchers_clock : two_watchers.Monotone :=
  ⟨two_timers_clock.le, two_timers_clock.lt⟩

/-- Two idle watchers, both started. -/
def watcher_acts : List (Act (Fin 2)) :=
  [.call (.init first .UV_IDLE), .call (.init second .UV_IDLE),
    .call (.watcher_start first (some 4)),
    .call (.watcher_start second (some 5))]

theorem ended_reachable {E : Env P} {links : Mem (Node P)} {time : ℕ} (as : List (Act P))
    (h : finishes (program E as (uv_loop_init links time)) = true) :
    Reachable E links time (ending (program E as (uv_loop_init links time))) := by
  obtain ⟨⟨⟩, hok⟩ := ok_of_finishes h
  exact program.reaches as _ _ _ .init hok

/-- The loop after that. -/
def watchers_ended : Loop (Fin 2) :=
  ending (program two_watchers watcher_acts (uv_loop_init ⟨id, id⟩ 3))

theorem watchers_ended_reachable : Reachable two_watchers ⟨id, id⟩ 3 watchers_ended :=
  ended_reachable watcher_acts (by decide +kernel)

theorem watchers_take_turns_two :
    (∃ m es q, uv__run_watchers two_watchers .UV_IDLE watchers_ended = .ok () m ∧
        m.log = watchers_ended.log ++ es ∧ TakeTurns .UV_IDLE watchers_ended q es) ∨
      ∃ m, uv__run_watchers two_watchers .UV_IDLE watchers_ended = .error .misuse m :=
  watchers_take_turns two_fit two_watchers_clock three_fits watchers_ended_reachable rfl

/-! ## The end of the closings -/

/-- The closings that end in uv__run_closing_handles are those that were begun before it: each one
ends once, the last one first. -/
theorem closings_end_once {E : Env P} {links : Mem (Node P)} {time : ℕ} {l : Loop P}
    (hroom : Fintype.card P < UINT_SIZE) (hclock : E.Monotone) (htime : time < TIME_SIZE)
    (hl : Reachable E links time l) :
    l.closing_handles.Nodup ∧ (∀ x, x ∈ l.closing_handles ↔ waiting (l.handles x) = true) ∧
      ((∃ m es, uv__run_closing_handles E l = .ok () m ∧ m.log = l.log ++ es ∧
          closings es = l.closing_handles) ∨
        ∃ m, uv__run_closing_handles E l = .error .misuse m) := by
  obtain ⟨c, hg⟩ := hl.sound hroom hclock htime
  have hnodup := hg.inv.flags.nodup
  have hwaits := hg.inv.flags.waits
  rw [List.append_nil] at hnodup
  simp only [List.append_nil] at hwaits
  refine ⟨hnodup, hwaits, ?_⟩
  have hrun : uv__run_closing_handles E l =
      uv__finish_all E l.closing_handles { l with closing_handles := [] } := rfl
  rw [hrun]
  rcases uv__finish_all.spec hroom (E := E) l.closing_handles _ ⟨c, hg.take⟩ with
    ⟨m, es, hok, -, hgrows, hclosings, -⟩ | ⟨m, es, herr, -⟩
  · exact .inl ⟨m, es, hok, hgrows.log, hclosings⟩
  · exact .inr ⟨m, herr⟩

/-- The second one is closed, too. -/
def closing_acts : List (Act (Fin 2)) := watcher_acts ++ [.call (.close second true)]

/-- The loop after that. -/
def closing_ended : Loop (Fin 2) :=
  ending (program two_watchers closing_acts (uv_loop_init ⟨id, id⟩ 3))

theorem closing_ended_reachable : Reachable two_watchers ⟨id, id⟩ 3 closing_ended :=
  ended_reachable closing_acts (by decide +kernel)

theorem closings_end_once_two :
    closing_ended.closing_handles.Nodup ∧
      (∀ x, x ∈ closing_ended.closing_handles ↔ waiting (closing_ended.handles x) = true) ∧
      ((∃ m es, uv__run_closing_handles two_watchers closing_ended = .ok () m ∧
          m.log = closing_ended.log ++ es ∧ closings es = closing_ended.closing_handles) ∨
        ∃ m, uv__run_closing_handles two_watchers closing_ended = .error .misuse m) :=
  closings_end_once two_fit two_watchers_clock three_fits closing_ended_reachable

/-- A signal that is in the pipe when its watcher is closed: the closing waits until it is read. -/
def signal_acts : List (Act (Fin 2)) :=
  [.call (.init second .UV_SIGNAL), .call (.other_start second), .call (.signal_handler second),
    .call (.close second true)]

example :
    (ending (program two_watchers signal_acts (uv_loop_init ⟨id, id⟩ 3))).closing_handles = [] ∧
    (ending (program two_watchers (signal_acts ++ [.call (.signal_event second)])
      (uv_loop_init ⟨id, id⟩ 3))).closing_handles = [second] := by
  decide +kernel

end pyuv.uvloop
