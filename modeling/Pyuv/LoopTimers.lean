-- Whether uv__run_timers comes to an end: it does when the callbacks of the timers start none with
-- the timeout 0, and does not when one starts itself so.
import Pyuv.LoopTimeouts

set_option linter.style.nameCheck false
set_option linter.unusedSectionVars false

namespace pyuv.uvloop

open timerheap rings ends

variable {P : Type} [DecidableEq P] [Fintype P]

/-! ## The timers that are due -/

/-- The call makes no timer due. -/
def Call.lazy : Call P → Bool
  | .timer_start _ _ timeout _ => timeout ≠ 0
  | .update_time _ => false
  | _ => true

/-- The timers whose time has come. -/
def due (l : Loop P) : Finset P :=
  Finset.univ.filter fun x => ticking (l.handles x) = true ∧ (l.handles x).timeout ≤ l.time

section

variable {l m : Loop P} {x : P} {call : Call P} {cs : List (Call P)} {g : Handle}

theorem mem_due : x ∈ due l ↔ ticking (l.handles x) = true ∧ (l.handles x).timeout ≤ l.time := by
  simp [due]

theorem lt_clamp {time timeout : ℕ} (hpos : timeout ≠ 0) (htime : time < TIME_SIZE) :
    time < clamp time timeout := by
  have hfits := time_fits htime
  unfold clamp
  dsimp only
  split
  · omega
  · rename_i h
    by_cases hfit : time + timeout < UINT64_SIZE
    · rw [Nat.mod_eq_of_lt hfit]
      omega
    · have hlt := Nat.mod_lt (time + timeout) (show 0 < UINT64_SIZE by decide)
      by_cases htwice : timeout < UINT64_SIZE
      · rw [Nat.mod_eq_sub_mod (not_lt.mp hfit), Nat.mod_eq_of_lt (by omega)] at h
        omega
      · omega

/-- One handle changes, and is not due unless it was. -/
theorem due_update (htime : m.time = l.time) (hhandles : m.handles = Function.update l.handles x g)
    (hx : ticking g = true → g.timeout ≤ l.time → x ∈ due l) : due m ⊆ due l := by
  intro y hy
  rw [mem_due, htime, hhandles] at hy
  by_cases hyx : y = x
  · rw [hyx, Function.update_self] at hy
    rw [hyx]
    exact hx hy.1 hy.2
  · rw [Function.update_of_ne hyx] at hy
    exact mem_due.mpr hy

/-- The fields of a timer stay. -/
theorem due_same (htime : m.time = l.time) (hhandles : m.handles = Function.update l.handles x g)
    (hticking : ticking g = true → ticking (l.handles x) = true ∧
      g.timeout = (l.handles x).timeout) : due m ⊆ due l := by
  refine due_update htime hhandles fun hticks hdue => ?_
  obtain ⟨hold, htimeout⟩ := hticking hticks
  exact mem_due.mpr ⟨hold, by rw [← htimeout]; exact hdue⟩

theorem effect_due (hlegal : call.legal l = true) (hlazy : call.lazy = true)
    (hearly : l.time < TIME_SIZE) :
    (call.effect l).time = l.time ∧ due (call.effect l) ⊆ due l := by
  cases call with
  | init y t =>
    have hinit : (uv__handle_init l y t).handles = Function.update l.handles y
        ((uv__handle_init l y t).handles y) := by
      unfold uv__handle_init
      rw [set_self]
      rfl
    refine ⟨rfl, due_same rfl hinit fun h => ?_⟩
    unfold uv__handle_init at h
    rw [set_self] at h
    simp [ticking] at h
  | timer_start y cb timeout repeat_ =>
    cases cb with
    | none => exact ⟨rfl, subset_rfl⟩
    | some cb =>
      have hpos : timeout ≠ 0 := by simpa [Call.lazy] using hlazy
      refine ⟨rfl, due_update rfl (started_handles l.timer_heap) fun _ hdue => ?_⟩
      exact absurd hdue (not_le.mpr (lt_clamp hpos hearly))
  | timer_stop y =>
    exact ⟨rfl, due_same rfl (stopped_handles l.timer_heap) fun h => by simp [ticking] at h⟩
  | timer_again y =>
    rw [Call.effect, again_effect]
    split
    · exact ⟨rfl, subset_rfl⟩
    · split
      · exact ⟨rfl, subset_rfl⟩
      · rename_i hrepeat
        refine ⟨rfl, due_update rfl (started_handles l.timer_heap) fun _ hdue => ?_⟩
        exact absurd hdue (not_le.mpr (lt_clamp hrepeat hearly))
  | timer_set_repeat y repeat_ =>
    refine ⟨rfl, due_same (x := y) (g := { l.handles y with repeat_ := repeat_ }) rfl rfl ?_⟩
    exact fun h => ⟨h, rfl⟩
  | watcher_start y cb =>
    simp only [Call.legal, decide_eq_true_eq] at hlegal
    cases cb with
    | none => exact ⟨rfl, subset_rfl⟩
    | some cb =>
      rw [Call.effect, watch_effect]
      split
      · exact ⟨rfl, subset_rfl⟩
      · refine ⟨rfl, due_same (x := y)
          (g := { l.handles y with cb := some cb, active := true }) rfl rfl fun h => ?_⟩
        have hno : ticking { l.handles y with cb := some cb, active := true } = false :=
          ticking_watcher hlegal.2
        rw [hno] at h
        cases h
  | watcher_stop y =>
    exact ⟨rfl, due_same (x := y) (g := { l.handles y with active := false }) rfl rfl
      fun h => by simp [ticking] at h⟩
  | other_start y =>
    simp only [Call.legal, decide_eq_true_eq] at hlegal
    refine ⟨rfl, due_same (x := y) (g := { l.handles y with active := true }) rfl rfl fun h => ?_⟩
    have hno := (polled_idle (h := { l.handles y with active := true }) hlegal.2).1
    rw [hno] at h
    cases h
  | other_stop y =>
    exact ⟨rfl, due_same (x := y) (g := { l.handles y with active := false }) rfl rfl
      fun h => by simp [ticking] at h⟩
  | ref y =>
    exact ⟨rfl, due_same (x := y) (g := { l.handles y with ref := true }) rfl rfl
      fun h => ⟨h, rfl⟩⟩
  | unref y =>
    exact ⟨rfl, due_same (x := y) (g := { l.handles y with ref := false }) rfl rfl
      fun h => ⟨h, rfl⟩⟩
  | signal_handler y =>
    exact ⟨rfl, due_same (m := uv__signal_handler l y) (x := y) rfl rfl fun h => ⟨h, rfl⟩⟩
  | signal_event y =>
    rw [Call.effect, pend_eq]
    exact ⟨rfl, due_same (x := y) (g := read_handle (l.handles y)) rfl rfl fun h => ⟨h, rfl⟩⟩
  | close y close_cb =>
    rw [Call.effect, pend_eq]
    exact ⟨rfl, due_same (x := y) (g := shut_handle (l.handles y) close_cb) rfl rfl
      fun h => by simp [ticking, shut_handle] at h⟩
  | req_register => exact ⟨rfl, subset_rfl⟩
  | req_unregister => exact ⟨rfl, subset_rfl⟩
  | update_time time => cases hlazy
  | stop => exact ⟨rfl, subset_rfl⟩

theorem due_congr (htime : m.time = l.time) (hhandles : m.handles = l.handles) : due m = due l := by
  unfold due
  rw [htime, hhandles]

theorem Steps.due (h : Steps l cs m) (hlazy : ∀ call ∈ cs, call.lazy = true)
    (hearly : l.time < TIME_SIZE) :
    m.time = l.time ∧ uvloop.due m ⊆ uvloop.due l := by
  induction h with
  | nil l => exact ⟨rfl, subset_rfl⟩
  | @cons l m n call cs hlegal _ halike _ ih =>
    obtain ⟨hcall, hcs⟩ := List.forall_mem_cons.mp hlazy
    obtain ⟨htime, hsub⟩ := effect_due hlegal hcall hearly
    have hntime : (n.note (.api call)).time = l.time := halike.time.trans htime
    have hsame : uvloop.due (n.note (.api call)) = uvloop.due (call.effect l) :=
      due_congr halike.time halike.handles
    obtain ⟨htime', hsub'⟩ := ih hcs (by rw [hntime]; exact hearly)
    refine ⟨htime'.trans hntime, hsub'.trans ?_⟩
    rw [hsame]
    exact hsub

/-- A timer that comes up is not due any more, even when it is started again. -/
theorem Firing.due_erase {cb : ℕ} (hf : Firing l x m cb) (hearly : l.time < TIME_SIZE) :
    uvloop.due m ⊆ (uvloop.due l).erase x := by
  intro y hy
  rw [mem_due, hf.time] at hy
  rw [Finset.mem_erase]
  by_cases hyx : y = x
  · rw [hyx] at hy
    obtain ⟨hrepeat, htimeout, -⟩ := hf.anew hy.1
    rw [htimeout] at hy
    exact absurd hy.2 (not_le.mpr (lt_clamp hrepeat hearly))
  · rw [hf.others y hyx] at hy
    exact ⟨hyx, mem_due.mpr hy⟩

end

/-! ## The end of the phases -/

/-- The program does not run out of fuel, and keeps the invariants. -/
structure Lasts {α : Type} (p : M P α) : Prop where
  lasts : ∀ l m, Sound none [] l → p l ≠ .error .fuel m
  leads : ∀ l a m, Sound none [] l → p l = .ok a m → Sound none [] m

section

variable {α β : Type} {E : Env P} {fuel : ℕ}

theorem Lasts.bind {p : M P α} {f : α → M P β} (hp : Lasts p) (hf : ∀ a, Lasts (f a)) :
    Lasts (p >>= f) := by
  refine ⟨?_, ?_⟩
  · intro l m hl hrun
    cases hfirst : p l with
    | ok a k =>
      rw [bind_of_ok hfirst] at hrun
      exact (hf a).lasts k m (hp.leads l a k hl hfirst) hrun
    | error e k =>
      rw [bind_of_error hfirst] at hrun
      cases hrun
      exact hp.lasts l m hl hfirst
  · intro l b m hl hrun
    cases hfirst : p l with
    | ok a k =>
      rw [bind_of_ok hfirst] at hrun
      exact (hf a).leads k b m (hp.leads l a k hl hfirst) hrun
    | error e k =>
      rw [bind_of_error hfirst] at hrun
      cases hrun

theorem Lasts.of_phase {good : Loop P → α → List (Event P) → Loop P → Prop} {p : M P α}
    (hp : Phase none [] good p) (hno : ∀ l m, Sound none [] l → p l ≠ .error .fuel m) : Lasts p :=
  ⟨hno, fun _ _ _ hl hrun => (hp.ok hl hrun).1⟩

/-- A program that always ends as it should. -/
theorem Lasts.of_ok {p : M P α}
    (hp : ∀ l, Sound none [] l → ∃ a m, p l = .ok a m ∧ Sound none [] m) :
    Lasts p := by
  refine ⟨fun l m hl hrun => ?_, fun l a m hl hrun => ?_⟩
  · obtain ⟨a, k, hok, -⟩ := hp l hl
    cases hok.symm.trans hrun
  · obtain ⟨b, k, hok, hk⟩ := hp l hl
    cases hok.symm.trans hrun
    exact hk

theorem Lasts.pure (a : α) : Lasts (Pure.pure a : M P α) := .of_ok fun l hl => ⟨a, l, rfl, hl⟩

theorem Lasts.get : Lasts (get : M P (Loop P)) := .of_ok fun l hl => ⟨l, l, rfl, hl⟩

theorem Lasts.ite {c : Prop} [Decidable c] {p q : M P α} (hp : Lasts p) (hq : Lasts q) :
    Lasts (if c then p else q) := by
  split
  · exact hp
  · exact hq

variable (hroom : Fintype.card P < UINT_SIZE) (hclock : E.Monotone)

theorem note_io.lasts : Lasts (P := P) (note .io_cb) :=
  .of_phase note_io.phase fun _ _ _ hrun => by cases hrun

include hclock in
theorem uv__update_time.lasts : Lasts (uv__update_time E) :=
  .of_phase (uv__update_time.phase hclock) fun _ _ _ hrun => by cases hrun

include hroom

theorem perform.lasts (cs : List (Call P)) : Lasts (perform cs) := by
  refine .of_phase (perform.phase hroom cs) ?_
  rintro l m ⟨c, hg⟩ hrun
  obtain ⟨he, -⟩ := (perform.spec hroom cs none [] c).error hg hrun
  cases he

theorem uv__run_pending.lasts : Lasts (uv__run_pending E) := by
  unfold uv__run_pending
  refine Lasts.get.bind fun l => ?_
  cases E.pending l with
  | none => exact .pure false
  | some cs =>
    exact note_io.lasts.bind fun _ => (perform.lasts hroom cs).bind fun _ => .pure true

include hclock in
theorem uv__io_poll.lasts (timeout : ℤ) : Lasts (uv__io_poll E timeout) := by
  unfold uv__io_poll
  refine Lasts.get.bind fun l => (uv__update_time.lasts hclock).bind fun _ => ?_
  cases E.poll l timeout with
  | none => exact Lasts.pure PUnit.unit
  | some cs => exact note_io.lasts.bind fun _ => perform.lasts hroom cs

theorem uv__run_watchers.lasts {t : HandleType} (ht : t.is_watcher = true) :
    Lasts (uv__run_watchers E t) := by
  refine .of_phase (uv__run_watchers.phase hroom ht) ?_
  intro l m hl hrun
  rcases uv__run_watchers.spec hroom (E := E) hl ht with ⟨m', es, q, hok, -⟩ | ⟨m', es, herr, -⟩
  · cases hok.symm.trans hrun
  · cases herr.symm.trans hrun

theorem uv__run_closing_handles.lasts : Lasts (uv__run_closing_handles E) := by
  refine .of_phase (uv__run_closing_handles.phase hroom) ?_
  rintro l m ⟨c, hg⟩ hrun
  have hall : uv__run_closing_handles E l =
      uv__finish_all E l.closing_handles { l with closing_handles := [] } := rfl
  rw [hall] at hrun
  rcases uv__finish_all.spec hroom (E := E) l.closing_handles _ ⟨c, hg.take⟩ with
    ⟨m', es, hok, -⟩ | ⟨m', es, herr, -⟩
  · cases hok.symm.trans hrun
  · cases herr.symm.trans hrun

/-- The callbacks of timers start no timer with the timeout 0, and leave the clock alone. -/
def Env.Lazy (E : Env P) : Prop :=
  ∀ l x cb timeout start_id time,
    l.log.getLast? = some (.timer_cb x cb timeout start_id time) →
      ∀ call ∈ E.callback l, call.lazy = true

/-- Each round of uv__run_timers leaves fewer timers that are due. -/
theorem uv__run_timers.lasts (hlazy : E.Lazy) (hfuel : Fintype.card P < fuel) :
    Lasts (uv__run_timers E fuel) := by
  have hrun : ∀ fuel l, Sound none [] l → (due l).card < fuel →
      ∀ m, uv__run_timers E fuel l ≠ .error .fuel m := by
    intro fuel
    induction fuel with
    | zero => exact fun l _ hlt => absurd hlt (Nat.not_lt_zero _)
    | succ fuel ih =>
      rintro l ⟨c, hg⟩ hlt m
      rcases uv__run_timers.round hroom (E := E) hg fuel with
        ⟨-, hok⟩ | ⟨x, n, d, cb, -, hfiring, -, hgood, hnext⟩
      · rw [hok]
        intro h
        cases h
      · rw [hnext]
        have hcalls := hlazy (n.note (l.timer_event x cb)) x cb (l.handles x).timeout
          (l.handles x).start_id l.time List.getLast?_concat
        generalize E.callback (n.note (l.timer_event x cb)) = cs at hcalls
        cases hperform : perform cs (n.note (l.timer_event x cb)) with
        | error e k =>
          rw [bind_of_error hperform]
          obtain ⟨rfl, -⟩ := (perform.spec hroom cs none [] d).error hgood hperform
          intro h
          cases h
        | ok u k =>
          rw [bind_of_ok hperform]
          obtain ⟨hk, es, -, -, hsteps⟩ := (perform.phase hroom cs).ok ⟨d, hgood⟩ hperform
          obtain ⟨-, hsub⟩ := hsteps.due hcalls hgood.timely.time
          have hnote : due (n.note (l.timer_event x cb)) = due n := due_congr rfl rfl
          rw [hnote] at hsub
          have hx : x ∈ due l := mem_due.mpr ⟨hfiring.ticks, hfiring.due⟩
          have hcard := Finset.card_le_card (hsub.trans (hfiring.due_erase hg.timely.time))
          rw [Finset.card_erase_of_mem hx] at hcard
          have hpos := Finset.card_pos.mpr ⟨x, hx⟩
          exact ih k hk (by omega) m
  refine .of_phase (uv__run_timers.phase hroom fuel) fun l m hl => ?_
  exact hrun fuel l hl ((Finset.card_le_univ _).trans_lt hfuel) m

include hclock in
theorem iteration.lasts (hlazy : E.Lazy) (hfuel : Fintype.card P < fuel) (mode : RunMode) :
    Lasts (iteration E mode fuel) := by
  have htime := uv__update_time.lasts hclock
  have htimers := uv__run_timers.lasts hroom hlazy hfuel
  have hwatchers : ∀ t : HandleType, t.is_watcher = true → Lasts (uv__run_watchers E t) :=
    fun _ ht => uv__run_watchers.lasts hroom ht
  have hlast : Lasts (do
      let l ← get
      return uv__loop_alive (P := P) l) := Lasts.get.bind fun _ => .pure _
  unfold iteration
  refine htime.bind fun _ => htimers.bind fun _ => (uv__run_pending.lasts hroom).bind fun ran => ?_
  refine (hwatchers .UV_IDLE rfl).bind fun _ => (hwatchers .UV_PREPARE rfl).bind fun _ => ?_
  refine Lasts.get.bind fun l => (uv__io_poll.lasts hroom hclock _).bind fun _ => ?_
  refine (hwatchers .UV_CHECK rfl).bind fun _ => ?_
  refine (uv__run_closing_handles.lasts hroom).bind fun _ => ?_
  exact .ite (htime.bind fun _ => htimers.bind fun _ => hlast) hlast

include hclock in
theorem uv_run.lasts (hlazy : E.Lazy) {mode : RunMode} (hmode : mode ≠ .UV_RUN_DEFAULT)
    (hfuel : Fintype.card P + 1 < fuel) : Lasts (uv_run E mode fuel) := by
  have hrounds : ∀ r, Lasts (rounds E mode fuel r) := by
    intro r
    obtain ⟨fuel, rfl⟩ : ∃ n, fuel = n + 1 := ⟨fuel - 1, by omega⟩
    unfold rounds
    refine Lasts.get.bind fun l => .ite ?_ (.pure r)
    refine (iteration.lasts hroom hclock hlazy (by omega) mode).bind fun r => ?_
    rw [if_neg hmode]
    exact .pure r
  have hrest : ∀ r, Lasts (do
      let r ← rounds E mode fuel r
      modify fun l => { l with stop_flag := false }
      return r) := by
    intro r
    refine (hrounds r).bind fun r => Lasts.bind (.of_ok ?_) fun _ => .pure r
    rintro l ⟨c, hg⟩
    exact ⟨_, _, rfl, c, hg.clear⟩
  unfold uv_run
  exact Lasts.get.bind fun l =>
    .ite ((uv__update_time.lasts hclock).bind fun _ => hrest _) (hrest _)

include hclock in
theorem program.lasts (hlazy : E.Lazy) (as : List (Act P)) (hruns : ∀ mode fuel,
      .run mode fuel ∈ as → mode ≠ .UV_RUN_DEFAULT ∧ Fintype.card P + 1 < fuel) :
    Lasts (program E as) := by
  induction as with
  | nil => exact .pure ()
  | cons a as ih =>
    have hexec : Lasts (a.exec E) := by
      cases a with
      | call call =>
        refine ⟨?_, ?_⟩
        · rintro l m ⟨c, hg⟩ hrun
          rcases Call.run.spec hroom call hg with ⟨-, n, d, hok, -⟩ | herr
          · cases hok.symm.trans hrun
          · cases herr.symm.trans hrun
        · rintro l u m ⟨c, hg⟩ hrun
          rcases Call.run.spec hroom call hg with ⟨-, n, d, hok, -, hgood, -⟩ | herr
          · cases hok.symm.trans hrun
            exact ⟨d, hgood⟩
          · cases herr.symm.trans hrun
      | run mode fuel =>
        obtain ⟨hmode, hfuel⟩ := hruns mode fuel List.mem_cons_self
        exact (uv_run.lasts hroom hclock hlazy hmode hfuel).bind fun _ => .pure ()
    exact hexec.bind fun _ => ih fun mode fuel h => hruns mode fuel (List.mem_cons_of_mem _ h)

end

/-- A program that runs the loop one round at a time comes to its end, when the callbacks of its
timers start no timer with the timeout 0. -/
theorem single_rounds_end [Inhabited P] {E : Env P} {links : Mem (Node P)} {time : ℕ}
    (hroom : Fintype.card P < UINT_SIZE) (hclock : E.Monotone) (hlazy : E.Lazy)
    (htime : time < TIME_SIZE) (as : List (Act P)) (hruns : ∀ mode fuel,
      .run mode fuel ∈ as → mode ≠ .UV_RUN_DEFAULT ∧ Fintype.card P + 1 < fuel) :
    (∃ l, program E as (uv_loop_init links time) = .ok () l) ∨
      ∃ l, program E as (uv_loop_init links time) = .error .misuse l := by
  have hlasts := program.lasts hroom hclock hlazy as hruns
  have hsound : Sound none [] (uv_loop_init links time) := uv_loop_init.sound htime
  cases hrun : program E as (uv_loop_init links time) with
  | ok u l => exact .inl ⟨l, rfl⟩
  | error e l =>
    right
    have habort := ((program.sound hroom hclock htime as).error rfl hrun).1
    cases e with
    | abort => exact absurd rfl habort
    | fuel => exact absurd hrun (hlasts.lasts _ l hsound)
    | misuse => exact ⟨l, rfl⟩

/-- A clock that goes on by 5. Each callback starts the first timer for the next moment. -/
def next_moment : Env (Fin 2) where
  callback _ := [.timer_start first (some 9) 1 0]
  pending _ := none
  poll _ _ := none
  clock := two_timers.clock

theorem next_moment_clock : next_moment.Monotone := ⟨two_timers_clock.le, two_timers_clock.lt⟩

theorem next_moment_lazy : next_moment.Lazy := by
  intro l x cb timeout start_id time _ call hcall
  rw [List.mem_singleton.mp hcall]
  rfl

theorem single_rounds_end_two :
    (∃ l, program next_moment two_acts (uv_loop_init ⟨id, id⟩ 3) = .ok () l) ∨
      ∃ l, program next_moment two_acts (uv_loop_init ⟨id, id⟩ 3) = .error .misuse l :=
  single_rounds_end two_fit next_moment_clock next_moment_lazy three_fits two_acts
    fun mode fuel h => by
      simp only [two_acts, List.mem_cons, reduceCtorEq, List.not_mem_nil, or_false, false_or] at h
      obtain ⟨rfl, rfl⟩ := Act.run.inj h
      exact ⟨by decide, by decide⟩

/-! ## A timer that starts itself again -/

section

variable {E : Env P} {l : Loop P} {x : P} {cb repeat_ : ℕ}

theorem status_opened_iff {h : Handle} :
    h.status = .opened ↔ h.initialized = true ∧ h.closing = false := by
  refine ⟨fun hopened => ?_, fun hboth => status_opened hboth.1 hboth.2⟩
  unfold Handle.status at hopened
  split at hopened
  · cases hopened
  · rename_i hinit
    split at hopened
    · rename_i hclosing
      exact ⟨by simpa using hinit, hclosing⟩
    · split at hopened <;> cases hopened

/-- Every callback of a timer starts the timer `x` with the timeout 0. -/
def Env.Restarts (E : Env P) (x : P) (cb repeat_ : ℕ) : Prop :=
  ∀ l y cb' timeout start_id time,
    l.log.getLast? = some (.timer_cb y cb' timeout start_id time) →
      E.callback l = [.timer_start x (some cb) 0 repeat_]

/-- The call makes the timer due at once. -/
theorem Good.restart {c : Node P → List (Node P)} (hroom : Fintype.card P < UINT_SIZE)
    (hg : Good none [] c l)
    (hlegal : (Call.timer_start x (some cb) 0 repeat_).legal l = true) :
    ∃ m, perform [.timer_start x (some cb) 0 repeat_] l = .ok () m ∧ Sound none [] m ∧
      x ∈ due m := by
  rcases Call.run.spec hroom (.timer_start x (some cb) 0 repeat_) hg with
    ⟨-, n, d, hok, halike, hgood, -⟩ | herr
  · refine ⟨n.note (.api (.timer_start x (some cb) 0 repeat_)), ?_, ⟨d, hgood⟩, ?_⟩
    · unfold perform
      exact bind_of_ok hok
    · simp only [Call.legal, decide_eq_true_eq] at hlegal
      have hhandles : n.handles = (started l x cb 0 repeat_ l.timer_heap).handles := halike.handles
      have htime : n.time = l.time := halike.time
      have hfits := time_fits hg.timely.time
      have hclamp : clamp l.time 0 = l.time := by
        unfold clamp
        dsimp only
        rw [if_neg (Nat.not_lt_zero _), Nat.add_zero, Nat.mod_eq_of_lt (by omega)]
      rw [mem_due]
      unfold Loop.note
      dsimp only
      rw [hhandles, started_handles, Function.update_self, htime]
      exact ⟨by simp [ticking, hlegal.2.1], hclamp.le⟩
  · unfold Call.run at herr
    rw [get_bind, if_pos hlegal] at herr
    obtain ⟨n, d, hkept⟩ := Call.apply.spec hroom hg.inv _ hlegal
    rw [hkept.run] at herr
    cases herr

theorem legal_restart {m : Loop P} {y : P} {cb' : ℕ} {c : Node P → List (Node P)}
    (hf : Firing l y m cb') (hg : Good none [] c l) (hx : x ∈ due l)
    (hrepeat : repeat_ < UINT64_SIZE) (e : Event P) :
    (Call.timer_start x (some cb) 0 repeat_).legal (m.note e) = true := by
  have hticks := (mem_due.mp hx).1
  have hboth : (l.handles x).active = true ∧ (l.handles x).type = .UV_TIMER := by
    simpa [ticking] using hticks
  have hopened := (hg.inv.flags.sane x).active hboth.1
  have hm : (m.handles x).type = .UV_TIMER ∧ (m.handles x).initialized = true ∧
      (m.handles x).closing = false := by
    by_cases hxy : x = y
    · subst hxy
      refine ⟨hf.type.trans hboth.2, status_opened_iff.mp ?_⟩
      rw [hf.status]
      exact status_opened hopened.1 hopened.2
    · rw [hf.others x hxy]
      exact ⟨hboth.2, hopened⟩
  simp only [Call.legal, decide_eq_true_eq]
  exact ⟨usable_iff.mpr hm.2, hm.1, by decide, hrepeat⟩

theorem uv__run_timers.starves (hroom : Fintype.card P < UINT_SIZE)
    (hrestarts : E.Restarts x cb repeat_) (hrepeat : repeat_ < UINT64_SIZE) (fuel : ℕ) :
    ∀ l, Sound none [] l → x ∈ due l → ∃ m, uv__run_timers E fuel l = .error .fuel m := by
  induction fuel with
  | zero => exact fun l _ _ => ⟨l, rfl⟩
  | succ fuel ih =>
    rintro l ⟨c, hg⟩ hx
    rcases uv__run_timers.round hroom (E := E) hg fuel with
      ⟨hwaits, -⟩ | ⟨y, n, d, cb', -, hfiring, -, hgood, hnext⟩
    · have hdue := mem_due.mp hx
      exact absurd (hwaits x hdue.1) (not_lt.mpr hdue.2)
    · rw [hnext, hrestarts _ y cb' (l.handles y).timeout (l.handles y).start_id l.time
        List.getLast?_concat]
      obtain ⟨m, hok, hm, hmdue⟩ :=
        hgood.restart hroom (legal_restart hfiring hg hx hrepeat _)
      rw [bind_of_ok hok]
      exact ih m hm hmdue

end

/-- A timer that is due, and that the callbacks of timers start again with the timeout 0, keeps
uv_run from returning. -/
theorem restarted_timer_starves [Inhabited P] {E : Env P} {links : Mem (Node P)} {time : ℕ}
    {l : Loop P} {x : P} {cb repeat_ : ℕ} (hroom : Fintype.card P < UINT_SIZE)
    (hclock : E.Monotone) (htime : time < TIME_SIZE) (hl : Reachable E links time l)
    (hlive : uv__loop_alive l = true) (hstop : l.stop_flag = false)
    (hticking : ticking (l.handles x) = true) (hdue : (l.handles x).timeout ≤ l.time)
    (hrestarts : E.Restarts x cb repeat_) (hrepeat : repeat_ < UINT64_SIZE) (mode : RunMode)
    (fuel : ℕ) : ∃ m, uv_run E mode fuel l = .error .fuel m := by
  obtain ⟨c, hg⟩ := hl.sound hroom hclock htime
  have hle := hclock.le l hg.timely.time
  have hlater : Sound none [] { l with time := E.clock l, readings := l.readings + 1 } :=
    ⟨c, hg.time hle (hclock.lt l)⟩
  have hx : x ∈ due { l with time := E.clock l, readings := l.readings + 1 } :=
    mem_due.mpr ⟨hticking, hdue.trans hle⟩
  have hrounds : ∃ m, rounds E mode fuel true l = .error .fuel m := by
    cases fuel with
    | zero => exact ⟨l, rfl⟩
    | succ fuel =>
      obtain ⟨m, htimers⟩ := uv__run_timers.starves hroom hrestarts hrepeat fuel _ hlater hx
      refine ⟨m, ?_⟩
      unfold rounds
      rw [get_bind, if_pos ⟨rfl, hstop⟩]
      apply bind_of_error
      unfold iteration
      have hclocked : uv__update_time E l =
          .ok ⟨⟩ { l with time := E.clock l, readings := l.readings + 1 } := rfl
      rw [bind_of_ok hclocked]
      exact bind_of_error htimers
  obtain ⟨m, hrounds⟩ := hrounds
  refine ⟨m, ?_⟩
  unfold uv_run
  rw [get_bind]
  dsimp only
  rw [hlive, if_neg (by decide)]
  exact bind_of_error hrounds

/-- Each callback starts the first timer for the same moment. -/
def same_moment : Env (Fin 2) where
  callback _ := [.timer_start first (some 9) 0 0]
  pending _ := none
  poll _ _ := none
  clock := two_timers.clock

theorem same_moment_clock : same_moment.Monotone := ⟨two_timers_clock.le, two_timers_clock.lt⟩

theorem same_moment_restarts : same_moment.Restarts first 9 0 := fun _ _ _ _ _ _ _ => rfl

/-- A timer of no delay. -/
def restart_acts : List (Act (Fin 2)) :=
  [.call (.init first .UV_TIMER), .call (.timer_start first (some 8) 0 0)]

/-- The loop after that. -/
def restart_ended : Loop (Fin 2) :=
  ending (program same_moment restart_acts (uv_loop_init ⟨id, id⟩ 3))

theorem restart_ended_reachable : Reachable same_moment ⟨id, id⟩ 3 restart_ended :=
  ended_reachable restart_acts (by decide +kernel)

theorem restarted_timer_starves_two :
    ∃ m, uv_run same_moment .UV_RUN_DEFAULT 100 restart_ended = .error .fuel m :=
  restarted_timer_starves two_fit same_moment_clock three_fits restart_ended_reachable
    (by decide +kernel) (by decide +kernel) (by decide +kernel) (by decide +kernel)
    same_moment_restarts (by decide) .UV_RUN_DEFAULT 100

end pyuv.uvloop
