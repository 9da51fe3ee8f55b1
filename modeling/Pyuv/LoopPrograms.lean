-- One round of the loop, uv_run and whole programs: everything holds in every state that a
-- program ends in.
import Pyuv.LoopClosing

set_option linter.style.nameCheck false
set_option linter.unusedSectionVars false

namespace pyuv.uvloop

open timerheap rings ends

variable {P : Type} [DecidableEq P] [Fintype P]

/-! ## One round -/

/-- Nothing happens from `l` to `m`, and uv__io_poll comes back with nothing in between. -/
structure Calm (E : Env P) (timeout : Loop P → ℤ) (l m : Loop P) : Prop where
  closing : l.closing_handles = []
  poll : ∃ k, Sound none [] k ∧
    k = { l with time := k.time, queues := k.queues, readings := k.readings } ∧
    l.time ≤ k.time ∧ E.poll k (timeout k) = none ∧ E.clock k ≤ m.time

/-- What the round gives uv__io_poll. -/
def wait_for (E : Env P) (mode : RunMode) (ran_pending : Bool) (l : Loop P) : ℤ :=
  if (mode = .UV_RUN_ONCE ∧ ran_pending = false) ∨ mode = .UV_RUN_DEFAULT then
    uv_backend_timeout E l
  else 0

/-- A round in which nothing happens. -/
structure Idle (E : Env P) (mode : RunMode) (l m : Loop P) : Prop where
  calm : Calm E (fun k => if mode = .UV_RUN_NOWAIT then 0 else uv_backend_timeout E k) l m
  idle : ∀ x, (l.handles x).active = true → (l.handles x).type ≠ .UV_IDLE
  pending : ∃ k, k.log = l.log ∧ E.pending k = none
  waits : mode = .UV_RUN_ONCE → Waits m

section

variable {E : Env P} {k l m : Loop P} {mode : RunMode} {timeout : Loop P → ℤ}

theorem Calm.before (hc : Calm E timeout l m) (hg : Grows k [] l) : Calm E timeout k m := by
  obtain ⟨hle, heq⟩ := hg.quiet rfl
  obtain ⟨k', hk', hsame, hle', hpoll, hclock⟩ := hc.poll
  refine ⟨?_, k', hk', ?_, hle.trans hle', hpoll, hclock⟩
  · have hclosing := hc.closing
    rw [heq] at hclosing
    exact hclosing
  · rw [hsame, heq]

theorem Idle.before (hi : Idle E mode l m) (hg : Grows k [] l) : Idle E mode k m := by
  obtain ⟨-, heq⟩ := hg.quiet rfl
  have hhandles : l.handles = k.handles := by
    rw [heq]
  obtain ⟨k', hlog, hpending⟩ := hi.pending
  refine ⟨hi.calm.before hg, ?_, ⟨k', ?_, hpending⟩, hi.waits⟩
  · rw [← hhandles]
    exact hi.idle
  · rw [hlog, hg.log, List.append_nil]

theorem alive.phase :
    Phase (P := P) none [] (fun l r es m => es = [] ∧ m = l ∧ r = uv__loop_alive l)
    (do
      let l ← get
      pure (uv__loop_alive l)) := by
  refine Phase.get fun l => Phase.pure ?_
  rintro l' rfl
  exact ⟨rfl, rfl, rfl⟩

variable (hroom : Fintype.card P < UINT_SIZE) (hclock : E.Monotone)
include hroom hclock

/-- The end of a round. -/
theorem last_timers.phase (fuel : ℕ) :
    Phase none [] (fun _ r es m => r = uv__loop_alive m ∧ Stirs es ∧
        (es = [] → mode = .UV_RUN_ONCE → Waits m))
      (if mode = .UV_RUN_ONCE then do
        uv__update_time E
        uv__run_timers E fuel
        let l ← get
        pure (uv__loop_alive l)
      else do
        let l ← get
        pure (uv__loop_alive l)) := by
  split
  · refine Phase.bind (uv__update_time.phase hclock) (fun _ =>
      Phase.bind (uv__run_timers.phase hroom fuel) (fun _ => alive.phase)
        (g := fun _ r es m => r = uv__loop_alive m ∧ Stirs es ∧ Waits m) ?_) ?_
    · rintro l a es m b fs n - ⟨hwaits, hstirs⟩ - - ⟨rfl, rfl, rfl⟩
      exact ⟨rfl, hstirs.append (.inl rfl), hwaits⟩
    · rintro l a es m b fs n - ⟨rfl, -⟩ - - ⟨rfl, hstirs, hwaits⟩
      exact ⟨rfl, hstirs, fun _ _ => hwaits⟩
  · rename_i hmode
    refine alive.phase.mono ?_
    rintro l r es m ⟨rfl, rfl, rfl⟩
    exact ⟨rfl, .inl rfl, fun _ h => absurd h hmode⟩

/-- The round from its poll on. -/
theorem poll.phase (fuel : ℕ) (timeout : ℤ) :
    Phase none [] (fun l r es m => r = uv__loop_alive m ∧ Stirs es ∧ (es = [] →
        E.poll l timeout = none ∧ E.clock l ≤ m.time ∧ l.closing_handles = [] ∧
          (mode = .UV_RUN_ONCE → Waits m)))
      (do
        uv__io_poll E timeout
        uv__run_check E
        uv__run_closing_handles E
        if mode = .UV_RUN_ONCE then do
          uv__update_time E
          uv__run_timers E fuel
          let l ← get
          pure (uv__loop_alive l)
        else do
          let l ← get
          pure (uv__loop_alive l)) := by
  refine Phase.bind (uv__io_poll.phase hroom hclock timeout) (fun _ =>
    Phase.bind (uv__run_watchers.phase hroom rfl) (fun _ =>
      Phase.bind (uv__run_closing_handles.phase hroom) (fun _ =>
        last_timers.phase hroom hclock fuel)
        (g := fun l r es m => r = uv__loop_alive m ∧ Stirs es ∧ (es = [] →
          l.closing_handles = [] ∧ l.time ≤ m.time ∧ (mode = .UV_RUN_ONCE → Waits m))) ?_)
      (g := fun l r es m => r = uv__loop_alive m ∧ Stirs es ∧ (es = [] →
        l.closing_handles = [] ∧ l.time ≤ m.time ∧ (mode = .UV_RUN_ONCE → Waits m))) ?_) ?_
  · rintro l a es m b fs n hgrows ⟨hclosings, hstirs⟩ - hgrows' ⟨hr, hstirs', hwaits⟩
    refine ⟨hr, hstirs.append hstirs', fun hnil => ?_⟩
    obtain ⟨rfl, rfl⟩ := List.append_eq_nil_iff.mp hnil
    refine ⟨hclosings.symm, ?_, hwaits rfl⟩
    exact (hgrows.quiet rfl).1.trans (hgrows'.quiet rfl).1
  · rintro l a es m b fs n hgrows ⟨q, hserved⟩ - - ⟨hr, hstirs, hrest⟩
    refine ⟨hr, hserved.turns.stirs.append hstirs, fun hnil => ?_⟩
    obtain ⟨rfl, rfl⟩ := List.append_eq_nil_iff.mp hnil
    obtain ⟨hclosing, hle, hwaits⟩ := hrest rfl
    obtain ⟨hle', heq⟩ := hgrows.quiet rfl
    rw [heq] at hclosing
    exact ⟨hclosing, hle'.trans hle, hwaits⟩
  · rintro l a es m b fs n hgrows ⟨hpoll, hstirs⟩ - - ⟨hr, hstirs', hrest⟩
    refine ⟨hr, hstirs.append hstirs', fun hnil => ?_⟩
    obtain ⟨rfl, rfl⟩ := List.append_eq_nil_iff.mp hnil
    obtain ⟨hclosing, hle, hwaits⟩ := hrest rfl
    obtain ⟨hnone, htime⟩ := hpoll rfl
    obtain ⟨-, heq⟩ := hgrows.quiet rfl
    rw [heq] at hclosing
    rw [htime] at hle
    exact ⟨hnone, hle, hclosing, hwaits⟩

/-- The round from the idle watchers on. -/
theorem watch.phase (fuel : ℕ) (ran : Bool) :
    Phase none [] (fun l r es m => r = uv__loop_alive m ∧ Stirs es ∧ (es = [] →
        Calm E (wait_for E mode ran) l m ∧
          (∀ x, (l.handles x).active = true → (l.handles x).type ≠ .UV_IDLE) ∧
          (mode = .UV_RUN_ONCE → Waits m)))
      (do
        uv__run_idle E
        uv__run_prepare E
        let l ← get
        uv__io_poll E (wait_for E mode ran l)
        uv__run_check E
        uv__run_closing_handles E
        if mode = .UV_RUN_ONCE then do
          uv__update_time E
          uv__run_timers E fuel
          let l ← get
          pure (uv__loop_alive l)
        else do
          let l ← get
          pure (uv__loop_alive l)) := by
  refine Phase.bind (uv__run_watchers.phase hroom rfl) (fun _ =>
    Phase.bind (uv__run_watchers.phase hroom rfl) (fun _ =>
      Phase.get (g := fun l r es m => r = uv__loop_alive m ∧ Stirs es ∧ (es = [] →
        E.poll l (wait_for E mode ran l) = none ∧ E.clock l ≤ m.time ∧ l.closing_handles = [] ∧
          (mode = .UV_RUN_ONCE → Waits m))) fun l =>
        (poll.phase hroom hclock fuel (wait_for E mode ran l)).mono ?_)
      (g := fun l r es m => r = uv__loop_alive m ∧ Stirs es ∧ (es = [] →
        Calm E (wait_for E mode ran) l m ∧ (mode = .UV_RUN_ONCE → Waits m))) ?_) ?_
  · rintro l' r es m h rfl
    exact h
  · rintro l a es m b fs n hgrows ⟨q, hserved⟩ hm - ⟨hr, hstirs, hrest⟩
    refine ⟨hr, hserved.turns.stirs.append hstirs, fun hnil => ?_⟩
    obtain ⟨rfl, rfl⟩ := List.append_eq_nil_iff.mp hnil
    obtain ⟨hnone, hle, hclosing, hwaits⟩ := hrest rfl
    have hcalm : Calm E (wait_for E mode ran) m n := ⟨hclosing, m, hm, rfl, le_rfl, hnone, hle⟩
    exact ⟨hcalm.before hgrows, hwaits⟩
  · rintro l a es m b fs n hgrows ⟨q, hserved⟩ - - ⟨hr, hstirs, hrest⟩
    refine ⟨hr, hserved.turns.stirs.append hstirs, fun hnil => ?_⟩
    obtain ⟨rfl, rfl⟩ := List.append_eq_nil_iff.mp hnil
    obtain ⟨hcalm, hwaits⟩ := hrest rfl
    refine ⟨hcalm.before hgrows, ?_, hwaits⟩
    intro x hactive htype
    have hx := (hserved.active x).mpr ⟨hactive, htype⟩
    have hcalled := hserved.turns.served hserved.nodup hx fun call h => absurd h List.not_mem_nil
    exact absurd hcalled List.not_mem_nil

theorem iteration.phase (fuel : ℕ) :
    Phase none [] (fun l r es m => r = uv__loop_alive m ∧ Stirs es ∧ (es = [] → Idle E mode l m))
      (iteration E mode fuel) := by
  unfold iteration
  refine Phase.bind (uv__update_time.phase hclock) (fun _ =>
    Phase.bind (uv__run_timers.phase hroom fuel) (fun _ =>
      Phase.bind (uv__run_pending.phase hroom) (fun ran => watch.phase hroom hclock fuel ran)
        (g := fun l r es m => r = uv__loop_alive m ∧ Stirs es ∧ (es = [] → Idle E mode l m)) ?_)
      (g := fun l r es m => r = uv__loop_alive m ∧ Stirs es ∧ (es = [] → Idle E mode l m)) ?_) ?_
  · rintro l ran es m b fs n hgrows ⟨hpending, hran, hstirs⟩ - - ⟨hr, hstirs', hrest⟩
    refine ⟨hr, hstirs.append hstirs', fun hnil => ?_⟩
    obtain ⟨rfl, rfl⟩ := List.append_eq_nil_iff.mp hnil
    obtain ⟨hcalm, hidle, hwaits⟩ := hrest rfl
    have hno : ran = false := hran.mp rfl
    subst hno
    have hnone : E.pending l = none := by
      cases h : E.pending l with
      | none => rfl
      | some cs =>
        rw [h] at hpending
        cases hpending
    have hsame : wait_for E mode false =
        fun k => if mode = .UV_RUN_NOWAIT then 0 else uv_backend_timeout E k := by
      funext k
      cases mode <;> rfl
    rw [hsame] at hcalm
    have hquiet : Idle E mode m n := ⟨hcalm, hidle, ⟨l, by rw [hgrows.log, List.append_nil], hnone⟩,
      hwaits⟩
    exact hquiet.before hgrows
  · rintro l a es m b fs n hgrows ⟨-, hstirs⟩ - - ⟨hr, hstirs', hrest⟩
    refine ⟨hr, hstirs.append hstirs', fun hnil => ?_⟩
    obtain ⟨rfl, rfl⟩ := List.append_eq_nil_iff.mp hnil
    exact (hrest rfl).before hgrows
  · rintro l a es m b fs n hgrows ⟨rfl, -⟩ - - ⟨hr, hstirs, hrest⟩
    exact ⟨hr, hstirs, fun hnil => (hrest hnil).before hgrows⟩

/-! ## uv_run -/

theorem rounds.phase (fuel : ℕ) : ∀ r, Phase none [] (fun l r' es m => r = uv__loop_alive l →
      r' = uv__loop_alive m ∧ (mode = .UV_RUN_DEFAULT → r' = true → m.stop_flag = true) ∧
        Stirs es ∧
        (mode = .UV_RUN_ONCE → r = true → l.stop_flag = false → es = [] → Idle E mode l m))
    (rounds E mode fuel r) := by
  induction fuel with
  | zero =>
    exact fun r => Ends.throw fun l hl => ⟨(by intro h; cases h), ⟨none, [], hl⟩, [], .refl l⟩
  | succ fuel ih =>
    intro r
    unfold rounds
    refine Phase.get fun l => ?_
    by_cases hgo : r = true ∧ l.stop_flag = false
    · rw [if_pos hgo]
      by_cases hmode : mode = .UV_RUN_DEFAULT
      · simp only [if_pos hmode]
        refine Phase.bind (iteration.phase hroom hclock fuel) (fun r => ih r) ?_
        rintro l' r' es m b fs n - ⟨hr, hstirs, -⟩ - - hrest rfl -
        obtain ⟨hb, hstop, hstirs', -⟩ := hrest hr
        refine ⟨hb, hstop, hstirs.append hstirs', fun honce => ?_⟩
        rw [hmode] at honce
        cases honce
      · simp only [if_neg hmode]
        refine Phase.bind (iteration.phase hroom hclock fuel) (fun r =>
          Phase.pure (g := fun l' b es m => b = r ∧ m = l' ∧ es = []) fun _ =>
            ⟨rfl, rfl, rfl⟩) ?_
        rintro l' r' es m b fs n - ⟨hr, hstirs, hidle⟩ - - ⟨rfl, rfl, rfl⟩ rfl -
        refine ⟨hr, fun h => absurd h hmode, hstirs.append (.inl rfl), fun _ _ _ hnil => hidle ?_⟩
        rwa [List.append_nil] at hnil
    · rw [if_neg hgo]
      refine Phase.pure ?_
      rintro l' rfl hr
      refine ⟨hr, ?_, .inl rfl, ?_⟩
      · intro _ hgoes
        simpa [hgoes] using hgo
      · intro _ hgoes hstop
        exact absurd ⟨hgoes, hstop⟩ hgo

omit hroom hclock in
/-- What a call of uv_run that returns `r` has done. -/
structure Ran (E : Env P) (mode : RunMode) (l : Loop P) (r : Bool) (es : List (Event P))
    (m : Loop P) : Prop where
  log : m.log = l.log ++ es
  returns : r = uv__loop_alive m
  cleared : m.stop_flag = false
  stirs : Stirs es
  same : es = [] → m.handles = l.handles
  stopped : mode = .UV_RUN_DEFAULT → r = true → l.stop_flag = true ∨ .api .stop ∈ es
  quiet : mode = .UV_RUN_ONCE → uv__loop_alive l = true → l.stop_flag = false → es = [] →
    Idle E mode l m

omit hroom hclock in
theorem Good.clear {now : Option HandleType} {rest : List P} {c : Node P → List (Node P)}
    (hg : Good now rest c l) : Good now rest c { l with stop_flag := false } :=
  ⟨hg.inv.congr rfl rfl rfl rfl rfl,
    hg.timely.shrink rfl rfl rfl le_rfl hg.timely.time fun _ h => ⟨h, rfl⟩, hg.followed⟩

/-- The loop that the rounds begin in: one that is not alive looks at the clock first. -/
theorem uv_run_eq (mode : RunMode) (fuel : ℕ) (hl : Sound none [] l) :
    ∃ k, Sound none [] k ∧ Grows l [] k ∧ uv__loop_alive k = uv__loop_alive l ∧
      uv_run E mode fuel l = (rounds E mode fuel (uv__loop_alive l) >>= fun r => do
        modify fun l => { l with stop_flag := false }
        pure r) k := by
  unfold uv_run
  rw [get_bind]
  by_cases halive : uv__loop_alive l = false
  · obtain ⟨c, hg⟩ := hl
    dsimp only
    rw [if_pos halive]
    have hle := hclock.le l hg.timely.time
    refine ⟨{ l with time := E.clock l, readings := l.readings + 1 },
      ⟨c, hg.time hle (hclock.lt l)⟩,
      ?_, rfl, rfl⟩
    exact ⟨by simp, .inl, fun _ => ⟨hle, rfl⟩⟩
  · dsimp only
    rw [if_neg halive]
    exact ⟨l, hl, .refl l, rfl, rfl⟩

theorem uv_run.spec (mode : RunMode) (fuel : ℕ) :
    Ends (Sound none []) (fun l r m => Sound none [] m ∧ ∃ es, Ran E mode l r es m)
      (fun _ e m => e ≠ .abort ∧ ∃ now rest, Sound now rest m) (uv_run E mode fuel) := by
  intro l hl
  obtain ⟨k, hk, hgrows, halive, hrun⟩ := uv_run_eq (E := E) hroom hclock mode fuel hl
  rw [hrun]
  cases hrounds : rounds E mode fuel (uv__loop_alive l) k with
  | error e m =>
    obtain ⟨he, hm, -⟩ := (rounds.phase hroom hclock fuel _).error hk hrounds
    rw [bind_of_error hrounds]
    exact ⟨he, hm⟩
  | ok r m =>
    obtain ⟨⟨c, hm⟩, es, hgrows', hgood⟩ := (rounds.phase hroom hclock fuel _).ok hk hrounds
    obtain ⟨hr, hstop, hstirs, hquiet⟩ := hgood halive.symm
    rw [bind_of_ok hrounds]
    have hall := hgrows.trans hgrows'
    rw [List.nil_append] at hall
    obtain ⟨-, heq⟩ := hgrows.quiet rfl
    refine ⟨⟨c, hm.clear⟩, es, hall.log, hr, rfl, hstirs, ?_, ?_, ?_⟩
    · intro hes
      have hsame := congrArg Loop.handles (hall.quiet hes).2
      exact hsame
    · intro hmode hr
      exact hall.stop (hstop hmode hr)
    · intro hmode hlive hflag hes
      have hkflag : k.stop_flag = false := by
        rw [heq]
        exact hflag
      have hidle := (hquiet hmode hlive hkflag hes).before hgrows
      exact ⟨⟨hidle.calm.closing, hidle.calm.poll⟩, hidle.idle, hidle.pending, hidle.waits⟩

/-! ## Programs -/

theorem program.spec (as : List (Act P)) :
    Ends (Sound none []) (fun _ _ m => Sound none [] m)
      (fun _ e m => e ≠ .abort ∧ ∃ now rest, Sound now rest m) (program E as) := by
  induction as with
  | nil => exact Ends.pure fun _ hl => hl
  | cons a as ih =>
    have hexec : Ends (Sound none []) (fun _ _ m => Sound none [] m)
        (fun _ e m => e ≠ .abort ∧ ∃ now rest, Sound now rest m) (a.exec E) := by
      cases a with
      | call call =>
        refine Ends.of ?_ ?_
        · rintro l u m ⟨c, hg⟩ hrun
          rcases Call.run.spec hroom call hg with ⟨-, n, d, hok, -, hgood, -⟩ | herr
          · cases hok.symm.trans hrun
            exact ⟨d, hgood⟩
          · cases herr.symm.trans hrun
        · rintro l e m ⟨c, hg⟩ hrun
          rcases Call.run.spec hroom call hg with ⟨-, n, d, hok, -, hgood, -⟩ | herr
          · cases hok.symm.trans hrun
          · cases herr.symm.trans hrun
            exact ⟨(by intro h; cases h), none, [], c, hg⟩
      | run mode fuel =>
        have hpure : Ends (Sound (P := P) none []) (fun _ _ m => Sound none [] m)
            (fun _ _ _ => False) (pure () : M P Unit) := Ends.pure fun _ hl => hl
        refine Ends.bind (uv_run.spec hroom hclock mode fuel)
          (fun _ => hpure) ?_ ?_ ?_ ?_
        · exact fun _ _ _ _ h => h.1
        · exact fun _ _ _ _ _ _ _ h => h
        · exact fun _ _ _ _ h => h
        · exact fun _ _ _ _ _ _ _ h => h.elim
    refine Ends.bind hexec (fun _ => ih) ?_ ?_ ?_ ?_
    · exact fun _ _ _ _ h => h
    · exact fun _ _ _ _ _ _ _ h => h
    · exact fun _ _ _ _ h => h
    · exact fun _ _ _ _ _ _ _ h => h

end

section

variable [Inhabited P] {links : Mem (Node P)} {time : ℕ}

theorem init_rings : Rings (uv_loop_init links time).queues (heads none)
    (fun _ : Node P => []) := by
  have hring : ∀ {m : Mem (Node P)} {n q : Node P}, Ring m n [] → Ring (init q m) n [] := by
    intro m n q h
    by_cases hnq : n = q
    · rw [hnq]
      exact ring_init q m
    · exact h.keeps
        (fun a ha => (init_keeps (by rw [List.mem_singleton.mp ha]; exact hnq)).1)
        (fun a ha => (init_keeps (by rw [List.mem_singleton.mp ha]; exact hnq)).2)
  refine ⟨?_, fun h _ => List.nodup_singleton h, ?_⟩
  · rintro h ⟨t, ht, hkind⟩
    cases h with
    | list s =>
      have hst := Option.some.inj hkind
      subst hst
      cases s with
      | UV_IDLE => exact hring (hring (ring_init _ _))
      | UV_PREPARE => exact hring (ring_init _ _)
      | UV_CHECK => exact ring_init _ _
      | UV_TIMER => exact absurd ht (by decide)
      | UV_SIGNAL => exact absurd ht (by decide)
      | other => exact absurd ht (by decide)
    | queue => cases hkind
    | handle x => cases hkind
  · intro h _ k _ hne x hx hxk
    rw [List.mem_singleton.mp hx] at hxk
    exact hne (List.mem_singleton.mp hxk)

/-- A loop just initialized. -/
theorem uv_loop_init.sound (htime : time < TIME_SIZE) :
    Sound none [] (uv_loop_init links time) := by
  have hinactive : ∀ x : P, ((uv_loop_init links time).handles x).active = false := fun _ => rfl
  refine ⟨fun _ => [], ⟨?_, ?_, ⟨init_rings, ?_, ?_, fun _ _ => rfl⟩, ?_⟩, ?_, rfl⟩
  · unfold Counted referenced
    rw [Finset.filter_false_of_mem (fun x _ => by simp [counts, hinactive])]
    rfl
  · have htimers : timers (uv_loop_init (P := P) links time) = ∅ :=
      Finset.filter_false_of_mem fun x _ => by simp [ticking, hinactive]
    unfold Heaped
    rw [htimers]
    exact Holds.init
  · intro h _ n hn
    cases hn
  · intro x hx
    simp [watching, hinactive] at hx
  · refine ⟨List.nodup_nil, ?_, fun _ => ⟨?_, ?_, ?_, fun _ => rfl⟩⟩
    · intro x
      exact iff_of_false List.not_mem_nil (by simp [waiting, uv_loop_init, Handle.raw])
    · intro h
      cases h
    · intro h
      cases h
    · intro h
      cases h
  · refine ⟨htime, rfl, ?_, ?_⟩
    · intro x cb timeout start_id t h
      cases h
    · intro _
      refine ⟨?_, ?_, ?_, ?_, .nil⟩
      · intro x hx
        simp [ticking, hinactive] at hx
      · intro x y hx
        simp [ticking, hinactive] at hx
      · intro k hk
        cases hk
      · intro k hk
        cases hk

end

end pyuv.uvloop
