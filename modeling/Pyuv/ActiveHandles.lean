-- The reference that keeps a started handle alive, over every run: it is there but
-- where a timer runs again, where a stream listens, and where the reading that a
-- listening stream does not do is stopped.
import Pyuv.HandleLife

set_option linter.style.nameCheck false

namespace pyuv.watchers

open handle

/-- The types with something to start and stop. A SignalChecker has no callback of the
user to deliver. -/
def Kind.startable : Kind → Bool
  | .Async | .Process | .SignalChecker => false
  | _ => true

/-- libuv has the handle active because the user started it. -/
def Watch.started (w : Watch) : Bool := w.active || w.reading || w.listening

/-- An open handle that is started has its reference: the flag is set, and it is one of
the owners that the reference count is the number of. -/
def Counted (s : St) : Prop :=
  s.watch.started = true → s.core.closing = false →
    s.core.pyref = true ∧ s.core.refcnt = s.core.owned

/-- The step leaves no started handle without the flag: the condition is on the three
operations that forget it. -/
def KeepsFlag (s : St) : Act → Prop
  | .call .Timer_again =>
    check_open s.core = none → s.watch.timer_cb = true → s.watch.repeat_ms ≠ 0 →
      s.core.pyref = true
  | .call (.listen callback backlog os) =>
    check_open s.core = none → 0 ≤ backlog → callback = .callable → 0 ≤ os → s.core.pyref = true
  | .call .stop_read =>
    check_open s.core = none → s.watch.listening = true → s.watch.reading = true
  | _ => True

/-! ## What the object knows of what is started -/

/-- Each type uses its own part of `Watch`, and what is started has its callback. -/
structure WatchInv (kind : Kind) (w : Watch) : Prop where
  active : w.active = true → kind.stream = false ∧ kind ≠ .UDP ∧ w.callback = true
  timer_cb : w.timer_cb = true → kind = .Timer ∧ w.callback = true
  reading : w.reading = true → (kind.stream = true ∨ kind = .UDP) ∧ w.on_read_cb = true
  listening : w.listening = true → kind.stream = true ∧ w.on_new_connection_cb = true

section

variable {kind : Kind} {s t : St} {w : Watch}

/-- A watcher that was never started. -/
theorem WatchInv.stopped (kind : Kind) : WatchInv kind .stopped := by
  constructor <;> intro hfalse <;> cases hfalse

/-- To stop something is always allowed. -/
theorem WatchInv.stop {w' : Watch} (hi : WatchInv kind w)
    (hactive : w'.active = true → w.active = true) (hreading : w'.reading = true → w.reading = true)
    (hlistening : w'.listening = true → w.listening = true)
    (htimer : w'.timer_cb = w.timer_cb) (hcallback : w'.callback = w.callback)
    (hread_cb : w'.on_read_cb = w.on_read_cb)
    (hconn_cb : w'.on_new_connection_cb = w.on_new_connection_cb) : WatchInv kind w' where
  active h := hcallback ▸ hi.active (hactive h)
  timer_cb h := hcallback ▸ hi.timer_cb (htimer ▸ h)
  reading h := hread_cb ▸ hi.reading (hreading h)
  listening h := hconn_cb ▸ hi.listening (hlistening h)

theorem WatchInv.uv_stop (hi : WatchInv kind w) : WatchInv kind (uv_stop w) :=
  hi.stop (fun h => by cases h) id id rfl rfl rfl rfl

theorem WatchInv.uv_read_stop (hi : WatchInv kind w) : WatchInv kind (uv_read_stop w) := by
  unfold watchers.uv_read_stop
  split
  · exact hi.stop id (fun h => by cases h) (fun h => by cases h) rfl rfl rfl rfl
  · exact hi

/-- What a start method has to show of the libuv function that it calls. -/
structure StartSpec (kind : Kind) (w : Watch) (uv_start : Watch → Option (Int × Watch))
    (set_callback : Watch → Watch) : Prop where
  refused : ∀ err w', uv_start w = some (err, w') → err < 0 →
    WatchInv kind w' ∧ (w'.started = true → w.started = true)
  accepted : ∀ err w', uv_start w = some (err, w') → ¬err < 0 → WatchInv kind (set_callback w')

/-- A watcher that is no socket gets active, and its callback is there. -/
theorem WatchInv.activate {w' : Watch} (hi : WatchInv kind w) (hstream : kind.stream = false)
    (hudp : kind ≠ .UDP) (hreading : w'.reading = w.reading)
    (hlistening : w'.listening = w.listening)
    (htimer : w'.timer_cb = true → kind = .Timer) (hread_cb : w'.on_read_cb = w.on_read_cb)
    (hconn_cb : w'.on_new_connection_cb = w.on_new_connection_cb) :
    WatchInv kind (set_callback w') where
  active _ := ⟨hstream, hudp, rfl⟩
  timer_cb h := ⟨htimer h, rfl⟩
  reading h := by
    have hw : w.reading = true := by simpa [set_callback, hreading] using h
    simpa [set_callback, hread_cb] using hi.reading hw
  listening h := by
    have hw : w.listening = true := by simpa [set_callback, hlistening] using h
    simpa [set_callback, hconn_cb] using hi.listening hw

/-- One lemma for each of the functions that start a watcher: what a start that succeeds leaves. -/
theorem uv_timer_start.spec (hi : WatchInv .Timer w) (repeat_ms : Nat) :
    StartSpec .Timer w (uv_timer_start repeat_ms) set_callback := by
  constructor
  · intro err w' heq hneg
    cases heq
    omega
  · intro err w' heq _
    cases heq
    exact hi.activate rfl (by decide) rfl rfl (fun _ => rfl) rfl rfl

theorem uv_watcher_start.spec (hi : WatchInv kind w) (hkind : kind.loop_watcher = true) :
    StartSpec kind w uv_watcher_start set_callback := by
  constructor
  · intro err w' heq hneg
    cases heq
    omega
  · intro err w' heq _
    cases heq
    have hother : kind.stream = false ∧ kind ≠ .UDP := by
      cases kind <;> simp_all [Kind.loop_watcher, Kind.stream]
    exact hi.activate hother.1 hother.2 rfl rfl (fun h => (hi.timer_cb h).1) rfl rfl

/-- Without events uv_poll_start stops the handle. -/
theorem uv_poll_start.spec (hi : WatchInv .Poll w) (events : Int) :
    StartSpec .Poll w (uv_poll_start events) set_callback := by
  constructor
  · intro err w' heq hneg
    simp only [uv_poll_start, Option.ite_none_left_eq_some] at heq
    cases heq.2
    omega
  · intro err w' heq _
    simp only [uv_poll_start, Option.ite_none_left_eq_some] at heq
    cases heq.2
    exact hi.activate rfl (by decide) rfl rfl (fun h => (hi.timer_cb h).1) rfl rfl

/-- A signal number that the system refuses starts nothing. -/
theorem uv_signal_start.spec (hi : WatchInv .Signal w) (signum os : Int) :
    StartSpec .Signal w (uv_signal_start signum os) set_callback := by
  have hactivate : ∀ w', w'.reading = w.reading → w'.listening = w.listening →
      w'.timer_cb = w.timer_cb → w'.on_read_cb = w.on_read_cb →
      w'.on_new_connection_cb = w.on_new_connection_cb → WatchInv .Signal (set_callback w') :=
    fun w' h₁ h₂ h₃ h₄ h₅ =>
      hi.activate rfl (by decide) h₁ h₂ (fun h => (hi.timer_cb (h₃ ▸ h)).1) h₄ h₅
  constructor
  · intro err w' heq hneg
    unfold uv_signal_start at heq
    split at heq
    · cases heq
      exact ⟨hi, id⟩
    · split at heq
      · cases heq
        omega
      · split at heq
        · cases heq
          -- the old registration is gone
          refine ⟨hi.stop (fun h => by cases h) id id rfl rfl rfl rfl, ?_⟩
          cases hr : w.reading <;> simp [Watch.started, hr]
          intro hl
          exact Or.inr hl
        · cases heq
          omega
  · intro err w' heq hpos
    unfold uv_signal_start at heq
    split at heq
    · cases heq
      simp [UV_EINVAL] at hpos
    · split at heq
      · cases heq
        exact hactivate w rfl rfl rfl rfl rfl
      · split at heq
        · cases heq
          contradiction
        · cases heq
          exact hactivate _ rfl rfl rfl rfl rfl

theorem uv_fs_event_start.spec (hi : WatchInv .FSEvent w) (os : Int) :
    StartSpec .FSEvent w (uv_fs_event_start os) set_callback := by
  constructor
  · intro err w' heq hneg
    unfold uv_fs_event_start at heq
    split at heq
    · cases heq
      exact ⟨hi, id⟩
    · split at heq
      · cases heq
        exact ⟨hi, id⟩
      · cases heq
        omega
  · intro err w' heq hpos
    unfold uv_fs_event_start at heq
    split at heq
    · cases heq
      simp [UV_EINVAL] at hpos
    · split at heq
      · cases heq
        contradiction
      · cases heq
        exact hi.activate rfl (by decide) rfl rfl (fun h => (hi.timer_cb h).1) rfl rfl

theorem uv_fs_poll_start.spec (hi : WatchInv .FSPoll w) (os : Int) :
    StartSpec .FSPoll w (uv_fs_poll_start os) set_callback := by
  constructor
  · intro err w' heq hneg
    unfold uv_fs_poll_start at heq
    split at heq
    · cases heq
      omega
    · split at heq
      · cases heq
        exact ⟨hi, id⟩
      · cases heq
        omega
  · intro err w' heq hpos
    unfold uv_fs_poll_start at heq
    split at heq
    · cases heq
      exact hi.activate rfl (by decide) rfl rfl (fun h => (hi.timer_cb h).1) rfl rfl
    · split at heq
      · cases heq
        contradiction
      · cases heq
        exact hi.activate rfl (by decide) rfl rfl (fun h => (hi.timer_cb h).1) rfl rfl

/-- Streams and UDP handles read or do not. -/
theorem WatchInv.read (hi : WatchInv kind w) (hkind : kind.stream = true ∨ kind = .UDP) :
    WatchInv kind { w with reading := true, on_read_cb := true } :=
  { hi with reading := fun _ => ⟨hkind, rfl⟩ }

/-- A stream without a descriptor aborts. -/
theorem uv_read_start.spec (hi : WatchInv kind w) (hkind : kind.stream = true) (fd_open : Bool) :
    StartSpec kind w (uv_read_start fd_open) (fun w => { w with on_read_cb := true }) := by
  constructor
  · intro err w' heq hneg
    simp only [uv_read_start, Option.ite_none_right_eq_some] at heq
    cases heq.2
    omega
  · intro err w' heq _
    simp only [uv_read_start, Option.ite_none_right_eq_some] at heq
    cases heq.2
    exact hi.read (Or.inl hkind)

theorem uv_udp_recv_start.spec (hi : WatchInv .UDP w) (os : Int) :
    StartSpec .UDP w (uv_udp_recv_start os) (fun w => { w with on_read_cb := true }) := by
  constructor
  · intro err w' heq hneg
    unfold uv_udp_recv_start at heq
    split at heq
    · cases heq
      exact ⟨hi, id⟩
    · split at heq
      · cases heq
        exact ⟨hi, id⟩
      · cases heq
        omega
  · intro err w' heq hpos
    unfold uv_udp_recv_start at heq
    split at heq
    · cases heq
      simp [UV_EALREADY] at hpos
    · split at heq
      · cases heq
        contradiction
      · cases heq
        exact hi.read (Or.inr rfl)

/-! ## The methods -/

/-- The flag without the count, which the invariant of the handle adds. -/
def Held (s : St) : Prop :=
  s.watch.started = true → s.core.closing = false → s.core.pyref = true

/-- A step that starts nothing, and leaves the flag of an open handle alone. -/
theorem Held.mono (hheld : Held s) (hstarted : t.watch.started = true → s.watch.started = true)
    (hclosing : t.core.closing = false → s.core.closing = false)
    (hpyref : t.core.pyref = s.core.pyref) : Held t := by
  intro hs hc
  rw [hpyref]
  exact hheld (hstarted hs) (hclosing hc)

theorem func_start_held (hheld : Held s) (hi : WatchInv kind s.watch) {error : ExcType}
    {bad_arg : Option PyErr} {uv_start : Watch → Option (Int × Watch)}
    {set_callback : Watch → Watch} (hspec : StartSpec kind s.watch uv_start set_callback) :
    WatchInv kind (func_start s error bad_arg uv_start set_callback).2.watch ∧
      Held (func_start s error bad_arg uv_start set_callback).2 := by
  unfold func_start
  split
  · exact ⟨hi, hheld⟩
  · split
    · exact ⟨hi, hheld⟩
    · rename_i err w heq
      split
      · rename_i hneg
        obtain ⟨hw, hstarted⟩ := hspec.refused err w heq hneg
        exact ⟨hw, hheld.mono hstarted id rfl⟩
      · rename_i hpos
        refine ⟨hspec.accepted err w heq hpos, fun _ _ => ?_⟩
        exact PYUV_HANDLE_INCREF_pyref s.core

theorem func_stop_held (hheld : Held s) (hi : WatchInv kind s.watch)
    {uv_stop clear_callback : Watch → Watch}
    (hstop : WatchInv kind (clear_callback (uv_stop s.watch)))
    (hidle : (clear_callback (uv_stop s.watch)).started = false) :
    WatchInv kind (func_stop s uv_stop clear_callback).2.watch ∧
      Held (func_stop s uv_stop clear_callback).2 := by
  unfold func_stop
  split
  · exact ⟨hi, hheld⟩
  · refine ⟨hstop, fun hstarted => ?_⟩
    simp [hidle] at hstarted

/-- What is no socket is idle once it is stopped. -/
theorem WatchInv.idle {w' : Watch} (hi : WatchInv kind w) (hstream : kind.stream = false)
    (hudp : kind ≠ .UDP) (hactive : w'.active = false) (hreading : w'.reading = w.reading)
    (hlistening : w'.listening = w.listening) : w'.started = false := by
  have hr : w.reading = false := by
    cases hr : w.reading
    · rfl
    · simpa [hstream, hudp] using (hi.reading hr).1
  have hl : w.listening = false := by
    cases hl : w.listening
    · rfl
    · simpa [hstream] using (hi.listening hl).1
  simp [Watch.started, hactive, hreading, hlistening, hr, hl]

theorem WatchInv.clear (hi : WatchInv kind w) (hactive : w.active = false) (hkind : kind ≠ .Timer) :
    WatchInv kind (clear_callback w) :=
  { hi with
    active := fun h => by simp [clear_callback, hactive] at h
    timer_cb := fun h => absurd (hi.timer_cb h).1 hkind }

/-- The stop functions of the loop watchers, of Poll, of Signal and of the file watchers. -/
theorem watcher_stop_held (hheld : Held s) (hi : WatchInv kind s.watch)
    (hstream : kind.stream = false) (hudp : kind ≠ .UDP) (hkind : kind ≠ .Timer) :
    WatchInv kind (func_stop s uv_stop clear_callback).2.watch ∧
      Held (func_stop s uv_stop clear_callback).2 :=
  func_stop_held hheld hi (hi.uv_stop.clear rfl hkind) (hi.idle hstream hudp rfl rfl rfl)

/-- A socket has nothing else that is active. -/
theorem WatchInv.inactive (hi : WatchInv kind w) (hkind : kind.stream = true ∨ kind = .UDP) :
    w.active = false := by
  cases ha : w.active
  · rfl
  · obtain ⟨hstream, hudp, -⟩ := hi.active ha
    simp [hstream, hudp] at hkind

/-- The flag's reference is not the last one of who calls. -/
theorem PYUV_HANDLE_DECREF_open {h : Handle} {e : Nat} (hi : Inv e h) (husable : usable h = true)
    (hc : h.closing = false) :
    (PYUV_HANDLE_DECREF h).closing = false ∧ (PYUV_HANDLE_DECREF h).pyref = false := by
  unfold PYUV_HANDLE_DECREF
  split
  · rename_i hpyref
    have howner := Inv.owner_of_usable hi husable
    have hrefs := hi.refs
    simp only [Handle.owned, hpyref, Bool.toNat_true] at hrefs
    rw [Py_DECREF, if_neg (by simp only; omega), if_neg (by simp only; omega)]
    exact ⟨hc, rfl⟩
  · rename_i hpyref
    exact ⟨hc, by simpa using hpyref⟩

theorem Stream_func_stop_read_held {e : Nat} (hinv : Inv e s.core) (husable : usable s.core = true)
    (hheld : Held s) (hi : WatchInv kind s.watch)
    (hkind : kind.stream = true) :
    WatchInv kind (Stream_func_stop_read s).2.watch ∧
      (Held (Stream_func_stop_read s).2 ↔ KeepsFlag s (.call .stop_read)) := by
  have hactive := hi.inactive (Or.inl hkind)
  have hread : WatchInv kind { uv_read_stop s.watch with on_read_cb := false } := by
    refine { hi.uv_read_stop with reading := fun hr => ?_ }
    unfold uv_read_stop at hr
    split at hr
    · cases hr
    · contradiction
  unfold Stream_func_stop_read func_stop
  split
  · rename_i e hcheck
    exact ⟨hi, iff_of_true hheld (fun hopen => by simp [hopen] at hcheck)⟩
  · rename_i hopen
    refine ⟨hread, ?_⟩
    obtain ⟨-, hc, -⟩ := check_open_eq_none_iff.mp hopen
    constructor
    · intro hkept _ hlistening
      cases hr : s.watch.reading
      · -- uv_read_stop has done nothing, and the flag is gone
        obtain ⟨hopen', hlost⟩ := PYUV_HANDLE_DECREF_open hinv husable hc
        have hflag : (PYUV_HANDLE_DECREF s.core).pyref = true :=
          hkept (by simp [Watch.started, uv_read_stop, hr, hlistening]) hopen'
        simp [hlost] at hflag
      · rfl
    · intro hkeeps hstarted _
      have hreads := hkeeps hopen
      cases hr : s.watch.reading
      · have hl : s.watch.listening = false := by
          cases hl : s.watch.listening
          · rfl
          · simpa [hr] using hreads hl
        simp [Watch.started, uv_read_stop, hr, hl, hactive] at hstarted
      · simp [Watch.started, uv_read_stop, hr, hactive] at hstarted

theorem Timer_func_again_held (hheld : Held s) (hi : WatchInv .Timer s.watch) :
    WatchInv .Timer (Timer_func_again s).2.watch ∧
      (Held (Timer_func_again s).2 ↔ KeepsFlag s (.call .Timer_again)) := by
  unfold Timer_func_again
  split
  · rename_i e hcheck
    exact ⟨hi, iff_of_true hheld (fun hopen => by simp [hopen] at hcheck)⟩
  · rename_i hopen
    obtain ⟨-, hc, -⟩ := check_open_eq_none_iff.mp hopen
    by_cases hcb : s.watch.timer_cb = true
    · by_cases hrepeat : s.watch.repeat_ms = 0
      · have hagain : uv_timer_again s.watch =
          (0, s.watch) := by simp [uv_timer_again, hcb, hrepeat]
        rw [hagain]
        exact ⟨hi, iff_of_true hheld (fun _ _ hne => absurd hrepeat hne)⟩
      · have hagain : uv_timer_again s.watch = (0, { s.watch with active := true }) := by
          simp [uv_timer_again, hcb, hrepeat]
        have hactive : WatchInv .Timer { s.watch with active := true } :=
          { hi with active := fun _ => ⟨rfl, by decide, (hi.timer_cb hcb).2⟩ }
        rw [hagain]
        refine ⟨hactive, ?_, ?_⟩
        · intro hkept _ _ _
          exact hkept rfl hc
        · intro hkeeps _ _
          exact hkeeps hopen hcb hrepeat
    · have hagain : uv_timer_again s.watch = (UV_EINVAL, s.watch) := by simp [uv_timer_again, hcb]
      rw [hagain]
      exact ⟨hi, iff_of_true hheld (fun _ h => absurd h hcb)⟩

theorem Stream_func_listen_held (hheld : Held s) (hi : WatchInv kind s.watch)
    (hkind : kind.stream = true) (callback : CallbackArg) (backlog os : Int) :
    WatchInv kind (Stream_func_listen kind s callback backlog os).2.watch ∧
      (Held (Stream_func_listen kind s callback backlog os).2 ↔
        KeepsFlag s (.call (.listen callback backlog os))) := by
  unfold Stream_func_listen
  split
  · rename_i e hcheck
    exact ⟨hi, iff_of_true hheld (fun hopen => by simp [hopen] at hcheck)⟩
  · rename_i hopen
    obtain ⟨-, hc, -⟩ := check_open_eq_none_iff.mp hopen
    split
    · rename_i hbacklog
      exact ⟨hi, iff_of_true hheld (fun _ hpos => by omega)⟩
    · rename_i hbacklog
      split
      · rename_i e hbad
        refine ⟨hi, iff_of_true hheld (fun _ _ hcallable => ?_)⟩
        simp [callable_required, hcallable] at hbad
      · rename_i hgood
        unfold uv_listen
        by_cases hos : os < 0
        · simp only [hos, if_true]
          exact ⟨hi, iff_of_true hheld (fun _ _ _ hpos => by omega)⟩
        · simp only [hos, if_false]
          refine ⟨{ hi with listening := fun _ => ⟨hkind, rfl⟩ }, ?_, ?_⟩
          · intro hkept _ _ _ _
            exact hkept (by simp [Watch.started]) hc
          · intro hkeeps _ _
            have hcallable : callback = .callable := by
              by_contra hother
              simp [callable_required, hother] at hgood
            exact hkeeps hopen (by omega) hcallable (by omega)

/-- A method keeps the flag with what is started, but where it forgets it. -/
theorem Call.run_held {e : Nat} (hinv : Inv e s.core) (husable : usable s.core = true)
    (hheld : Held s) (hi : WatchInv kind s.watch) (hkind : kind.startable = true) (c : Call)
    (hmethod : c.method_of kind = true) :
    WatchInv kind (c.run kind s).2.watch ∧
      (Held (c.run kind s).2 ↔ KeepsFlag s (.call c)) := by
  -- all but three methods have no condition
  have hfree : WatchInv kind (c.run kind s).2.watch ∧ Held (c.run kind s).2 →
      KeepsFlag s (.call c) → WatchInv kind (c.run kind s).2.watch ∧
        (Held (c.run kind s).2 ↔ KeepsFlag s (.call c)) :=
    fun h hkeeps => ⟨h.1, iff_of_true h.2 hkeeps⟩
  cases c with
  | Timer_start callback timeout repeat_s =>
    obtain rfl : kind = .Timer := of_decide_eq_true hmethod
    exact hfree (func_start_held hheld hi (uv_timer_start.spec hi _)) trivial
  | Timer_stop =>
    obtain rfl : kind = .Timer := of_decide_eq_true hmethod
    exact hfree (func_stop_held hheld hi hi.uv_stop (hi.idle rfl (by decide) rfl rfl rfl)) trivial
  | Timer_again =>
    obtain rfl : kind = .Timer := of_decide_eq_true hmethod
    exact Timer_func_again_held hheld hi
  | Timer_set_repeat repeat_s =>
    refine hfree ?_ trivial
    simp only [Call.run, Timer_repeat_set]
    split
    · exact ⟨hi, hheld⟩
    · split
      · exact ⟨hi, hheld⟩
      · exact ⟨hi.stop id id id rfl rfl rfl rfl, hheld⟩
  | Watcher_start callback =>
    exact hfree (func_start_held hheld hi (uv_watcher_start.spec hi hmethod)) trivial
  | Watcher_stop =>
    have hother : kind.stream = false ∧ kind ≠ .UDP ∧ kind ≠ .Timer := by
      cases kind <;> simp_all [Call.method_of, Kind.loop_watcher, Kind.stream]
    exact hfree (watcher_stop_held hheld hi hother.1 hother.2.1 hother.2.2) trivial
  | Poll_start events callback =>
    obtain rfl : kind = .Poll := of_decide_eq_true hmethod
    exact hfree (func_start_held hheld hi (uv_poll_start.spec hi events)) trivial
  | Poll_stop =>
    obtain rfl : kind = .Poll := of_decide_eq_true hmethod
    exact hfree (watcher_stop_held hheld hi rfl (by decide) (by decide)) trivial
  | Signal_start callback signum os =>
    obtain rfl : kind = .Signal := of_decide_eq_true hmethod
    exact hfree (func_start_held hheld hi (uv_signal_start.spec hi signum os)) trivial
  | Signal_stop =>
    obtain rfl : kind = .Signal := of_decide_eq_true hmethod
    have hstop : WatchInv .Signal (uv_signal_stop s.watch) :=
      hi.stop (fun h => by cases h) id id rfl rfl rfl rfl
    exact hfree (func_stop_held hheld hi hstop (hi.idle rfl (by decide) rfl rfl rfl)) trivial
  | FSEvent_start callback os =>
    obtain rfl : kind = .FSEvent := of_decide_eq_true hmethod
    exact hfree (func_start_held hheld hi (uv_fs_event_start.spec hi os)) trivial
  | FSEvent_stop =>
    obtain rfl : kind = .FSEvent := of_decide_eq_true hmethod
    exact hfree (watcher_stop_held hheld hi rfl (by decide) (by decide)) trivial
  | FSPoll_start interval callback os =>
    obtain rfl : kind = .FSPoll := of_decide_eq_true hmethod
    exact hfree (func_start_held hheld hi (uv_fs_poll_start.spec hi os)) trivial
  | FSPoll_stop =>
    obtain rfl : kind = .FSPoll := of_decide_eq_true hmethod
    exact hfree (watcher_stop_held hheld hi rfl (by decide) (by decide)) trivial
  | SignalChecker_start =>
    obtain rfl : kind = .SignalChecker := of_decide_eq_true hmethod
    cases hkind
  | SignalChecker_stop =>
    obtain rfl : kind = .SignalChecker := of_decide_eq_true hmethod
    cases hkind
  | start_read callback fd_open =>
    exact hfree (func_start_held hheld hi (uv_read_start.spec hi hmethod fd_open)) trivial
  | stop_read => exact Stream_func_stop_read_held hinv husable hheld hi hmethod
  | start_recv callback os =>
    obtain rfl : kind = .UDP := of_decide_eq_true hmethod
    exact hfree (func_start_held hheld hi (uv_udp_recv_start.spec hi os)) trivial
  | stop_recv =>
    obtain rfl : kind = .UDP := of_decide_eq_true hmethod
    have hstop : WatchInv .UDP { uv_udp_recv_stop s.watch with on_read_cb := false } :=
      { hi with reading := fun h => by cases h }
    have hl : s.watch.listening = false := by
      cases hl : s.watch.listening
      · rfl
      · simpa [Kind.stream] using (hi.listening hl).1
    have hidle : Watch.started { uv_udp_recv_stop s.watch with on_read_cb := false } = false := by
      simp [Watch.started, uv_udp_recv_stop, hi.inactive (Or.inr rfl), hl]
    exact hfree (func_stop_held hheld hi hstop hidle) trivial
  | listen callback backlog os =>
    have hstream : kind.stream = true := by
      rcases of_decide_eq_true hmethod with rfl | rfl <;> rfl
    exact Stream_func_listen_held hheld hi hstream callback backlog os
  | Async_send uv =>
    obtain rfl : kind = .Async := of_decide_eq_true hmethod
    cases hkind
  | close callback =>
    refine hfree ?_ trivial
    simp only [Call.run, func_close]
    split
    · exact ⟨hi, hheld⟩
    · refine ⟨hi, ?_⟩
      rcases Handle_func_close_cases s.core callback with ⟨err, heq⟩ | ⟨-, -, -, -, heq⟩ <;>
        rw [heq]
      · exact hheld
      · intro _ hc
        cases hc

/-! ## The callbacks -/

/-- A callback begins with the handle as it was. -/
theorem trampoline_held (hheld : Held s) {w : Watch} {f : Frame}
    (hstarted : w.started = true → s.watch.started = true) : Held (trampoline s w f) := by
  have hkept := Py_INCREF.kept { s.core with frames := f :: s.core.frames }
  exact hheld.mono hstarted hkept.closing hkept.pyref

theorem uv_read_stop_started (w : Watch) (hstarted : (uv_read_stop w).started = true) :
    w.started = true := by
  unfold uv_read_stop at hstarted
  split at hstarted
  · rename_i hr
    simp [Watch.started, hr]
  · exact hstarted

/-- The loop stops a timer that does not repeat, and gives up nothing. -/
theorem Event.begin_held (hheld : Held s) (hi : WatchInv kind s.watch)
    (hkind : kind.startable = true) {ev : Event} (hdue : ev.due kind s = true) :
    WatchInv kind (ev.begin s).watch ∧ Held (ev.begin s) := by
  cases ev with
  | timer =>
    obtain ⟨rfl, hactive⟩ := of_decide_eq_true hdue
    have hold : s.watch.started = true := by simp [Watch.started, hactive]
    refine ⟨?_, trampoline_held hheld (fun _ => hold)⟩
    simp only [Event.begin, trampoline, uv_timer_again]
    split
    · exact hi.uv_stop
    · split
      · exact hi.stop (fun _ => hactive) id id rfl rfl rfl rfl
      · exact hi.uv_stop
  | watcher => exact ⟨hi, trampoline_held hheld id⟩
  | poll ok =>
    refine ⟨?_, trampoline_held hheld ?_⟩
    · simp only [Event.begin, trampoline]
      split
      · exact hi
      · exact hi.uv_stop
    · intro hstarted
      split at hstarted
      · exact hstarted
      · simp only [Watch.started, uv_stop, Bool.or_assoc, Bool.false_or] at hstarted ⊢
        simp [hstarted]
  | check_signals ok drained =>
    obtain ⟨rfl, -⟩ := of_decide_eq_true hdue
    cases hkind
  | read r =>
    cases r with
    | data => exact ⟨hi, trampoline_held hheld id⟩
    | nobufs => exact ⟨hi.uv_read_stop, trampoline_held hheld (uv_read_stop_started s.watch)⟩
    | eof => exact ⟨hi.uv_read_stop, trampoline_held hheld (uv_read_stop_started s.watch)⟩
    | error => exact ⟨hi.uv_read_stop, trampoline_held hheld (uv_read_stop_started s.watch)⟩
  | recv => exact ⟨hi, trampoline_held hheld id⟩
  | new_connection => exact ⟨hi, trampoline_held hheld id⟩
  | async =>
    obtain ⟨rfl, -⟩ := of_decide_eq_true hdue
    cases hkind
  | exit =>
    obtain ⟨rfl, -⟩ := of_decide_eq_true hdue
    cases hkind

theorem Py_DECREF_held (hheld : Held s) {h : Handle} (hcore : t.core = Py_DECREF h)
    (hpyref : h.pyref = s.core.pyref) (hclosing : h.closing = s.core.closing)
    (hstarted : t.watch.started = true → s.watch.started = true) : Held t := by
  have hkept := Py_DECREF.kept h
  rw [← hcore] at hkept
  exact hheld.mono hstarted (fun hc => hclosing ▸ hkept.closing hc) (hkept.pyref.trans hpyref)

/-- What the end of a callback gives up was taken at its beginning. -/
theorem finish_frame_held {e : Nat} {f : Frame} {fs : List Frame} (hinv : Inv e s.core)
    (hf : s.core.frames = f :: fs) (hheld : Held s) (hi : WatchInv kind s.watch) :
    WatchInv kind (finish_frame { s with core := { s.core with frames := fs } } f).watch ∧
      Held (finish_frame { s with core := { s.core with frames := fs } } f) := by
  cases f with
  | event => exact ⟨hi, Py_DECREF_held hheld rfl rfl rfl id⟩
  | request => exact ⟨hi, Py_DECREF_held hheld rfl rfl rfl id⟩
  | finalizer => exact ⟨hi, Py_DECREF_held hheld rfl rfl rfl id⟩
  | check_signals => exact ⟨hi, Py_DECREF_held hheld rfl rfl rfl id⟩
  | exit_cb => exact ⟨hi, Py_DECREF_held hheld rfl rfl rfl id⟩
  | read_eof =>
    refine ⟨hi.stop id (fun h => by cases h) id rfl rfl rfl rfl,
      Py_DECREF_held hheld rfl rfl rfl ?_⟩
    intro hstarted
    have hpart : s.watch.active = true ∨ s.watch.listening = true := by
      simpa [finish_frame, Watch.started] using hstarted
    rcases hpart with h | h <;> simp [Watch.started, h]
  | read_error =>
    exact ⟨hi.uv_read_stop, Py_DECREF_held hheld rfl rfl rfl (uv_read_stop_started s.watch)⟩
  | close_cb =>
    refine ⟨hi, fun _ hc => ?_⟩
    -- the handle is closed, so there is nothing to show
    have hopen := pyuv__handle_close_cb_end_closing hc
    have hclose := hinv.close_frame
    rw [hf, hinv.closed_of_open hopen] at hclose
    simp at hclose

/-- What a step does to the flag of a started handle. -/
theorem step_held {e : Nat} {a : Act} (hinv : Inv e s.core) (hheld : Held s)
    (hi : WatchInv kind s.watch) (hkind : kind.startable = true)
    (hstep : step kind s a = some t) :
    WatchInv kind t.watch ∧ (Held t ↔ KeepsFlag s a) := by
  cases a with
  | tp_init callback uv =>
    simp only [step, Option.ite_none_right_eq_some] at hstep
    rw [← returned_eq_some hstep.2]
    have hasync : kind ≠ .Async := by
      rintro rfl
      cases hkind
    unfold tp_init
    split
    · exact ⟨hi, iff_of_true hheld trivial⟩
    · split
      · exact ⟨hi, iff_of_true hheld trivial⟩
      · split
        · exact ⟨hi, iff_of_true hheld trivial⟩
        · simp only [hasync, decide_false, false_and]
          refine ⟨WatchInv.stopped kind, iff_of_true (fun hstarted => ?_) trivial⟩
          cases hstarted
  | spawn callback prepared uv =>
    simp only [step, Option.ite_none_right_eq_some] at hstep
    obtain rfl := hstep.1.1
    cases hkind
  | call c =>
    simp only [step, Option.ite_none_right_eq_some] at hstep
    rw [← returned_eq_some hstep.2]
    exact c.run_held hinv hstep.1.1 hheld hi hkind hstep.1.2
  | incref =>
    simp only [step, Option.ite_none_right_eq_some, Option.some.injEq] at hstep
    obtain ⟨-, rfl⟩ := hstep
    have hkept := Py_INCREF.kept { s.core with user := s.core.user + 1 }
    exact ⟨hi, iff_of_true (hheld.mono id hkept.closing hkept.pyref) trivial⟩
  | decref =>
    simp only [step, Option.ite_none_right_eq_some, Option.some.injEq] at hstep
    obtain ⟨-, rfl⟩ := hstep
    exact ⟨hi, iff_of_true (Py_DECREF_held hheld rfl rfl rfl id) trivial⟩
  | loop_handles =>
    simp only [step, Option.ite_none_right_eq_some, Option.some.injEq] at hstep
    obtain ⟨-, rfl⟩ := hstep
    have hkept := Py_INCREF.kept { s.core with user := s.core.user + 1 }
    exact ⟨hi, iff_of_true (hheld.mono id hkept.closing hkept.pyref) trivial⟩
  | event ev =>
    simp only [step, Option.ite_none_right_eq_some, Option.some.injEq] at hstep
    obtain ⟨⟨-, -, hdue⟩, rfl⟩ := hstep
    obtain ⟨hw, hkept⟩ := Event.begin_held hheld hi hkind hdue
    exact ⟨hw, iff_of_true hkept trivial⟩
  | ret =>
    simp only [step] at hstep
    split at hstep
    · cases hstep
    · rename_i f fs hf
      cases hstep
      obtain ⟨hw, hkept⟩ := finish_frame_held hinv hf hheld hi
      exact ⟨hw, iff_of_true hkept trivial⟩
  | finish_close =>
    simp only [step, Option.ite_none_right_eq_some, Option.some.injEq] at hstep
    obtain ⟨⟨hclosing, -⟩, rfl⟩ := hstep
    refine ⟨hi, iff_of_true (fun _ hc => ?_) trivial⟩
    simpa [hclosing] using uv__finish_close_closing hc

/-! ## Without the user -/

/-- The callback of the event is there for the trampoline to call. -/
def Event.has_callback (w : Watch) : Event → Bool
  | .timer | .watcher | .poll _ | .async | .exit => w.callback
  | .read _ | .recv => w.on_read_cb
  | .new_connection => w.on_new_connection_cb
  | .check_signals .. => false

/-- The user can drop every reference to a started handle: it is not closed, and its
callback is still called. -/
def Survives (kind : Kind) (s : St) : Prop :=
  s.watch.started = true → s.core.closing = false →
    ∃ t, runs.exec (step kind) s (List.replicate s.core.user .decref) = some t ∧
      t.core.user = 0 ∧ t.core.closing = false ∧ t.watch = s.watch ∧
      ∃ ev u, ev.has_callback t.watch = true ∧ step kind t (.event ev) = some u ∧
        u.core.frames = .event :: t.core.frames

/-- References that are not the last one go one by one. -/
theorem drop_user_refs (kind : Kind) (n : Nat) (huser : s.core.user = n)
    (hmany : n < s.core.refcnt) :
    runs.exec (step kind) s (List.replicate n .decref) =
      some { s with core := { s.core with user := 0, refcnt := s.core.refcnt - n } } := by
  induction n generalizing s with
  | zero =>
    obtain ⟨core, watch⟩ := s
    obtain ⟨⟩ := core
    simp only at huser
    subst huser
    rfl
  | succ n ih =>
    have hstep : step kind s .decref =
        some { s with core := { s.core with user := n, refcnt := s.core.refcnt - 1 } } := by
      have hpos : 0 < s.core.user := by omega
      simp only [step, if_pos hpos]
      rw [Py_DECREF, if_neg (by simp only; omega), if_neg (by simp only; omega)]
      simp [huser]
    rw [List.replicate_succ, runs.exec, hstep, Option.bind_some, ih rfl (by simp only; omega)]
    simp only [Option.some.injEq, St.mk.injEq, Handle.mk.injEq, and_true]
    omega

theorem a_started_handle_has_an_event (hi : WatchInv kind s.watch) (hkind : kind.startable = true)
    (hstarted : s.watch.started = true) :
    ∃ ev, Event.has_callback s.watch ev = true ∧ ev.due kind s = true ∧
      (ev.begin s).core.frames = .event :: s.core.frames := by
  by_cases hl : s.watch.listening = true
  · obtain ⟨hstream, hcb⟩ := hi.listening hl
    exact ⟨.new_connection,
      hcb, by simp [Event.due, hstream, hl], by simp [Event.begin, trampoline]⟩
  · by_cases hr : s.watch.reading = true
    · obtain ⟨hsocket, hcb⟩ := hi.reading hr
      rcases hsocket with hstream | hudp
      · exact ⟨.read .data, hcb, by simp [Event.due, hstream, hr, hl],
          by simp [Event.begin, pyuv__stream_read_cb, trampoline]⟩
      · exact ⟨.recv, hcb, by simp [Event.due, hudp, hr], by simp [Event.begin, trampoline]⟩
    · have ha : s.watch.active = true := by simpa [Watch.started, hl, hr] using hstarted
      obtain ⟨hstream, hudp, hcb⟩ := hi.active ha
      by_cases htimer : kind = .Timer
      · exact ⟨.timer, hcb, by simp [Event.due, htimer, ha], by simp [Event.begin, trampoline]⟩
      · by_cases hpoll : kind = .Poll
        · exact ⟨.poll true, hcb, by simp [Event.due, hpoll, ha], by simp [Event.begin, trampoline]⟩
        · have hother : kind.loop_watcher = true ∨ kind = .Signal ∨ kind = .FSEvent ∨
              kind = .FSPoll := by
            cases kind <;> simp_all [Kind.startable, Kind.loop_watcher, Kind.stream]
          exact ⟨.watcher, hcb, by simp [Event.due, hother, ha], by simp [Event.begin, trampoline]⟩

/-! ## Every run -/

/-- What a run keeps as long as no step forgets the flag. -/
structure FlagInv (kind : Kind) (s : St) : Prop where
  core : Inv 0 s.core
  no_check : .check_signals ∉ s.core.frames
  watch : WatchInv kind s.watch
  held : Held s

/-- The count and the flag say the same. -/
theorem counted_iff_held (hinv : Inv 0 s.core) : Counted s ↔ Held s := by
  constructor
  · intro hcounted hstarted hc
    exact (hcounted hstarted hc).1
  · intro hheld hstarted hc
    exact ⟨hheld hstarted hc, hinv.refs⟩

/-- One step, of which the exact condition is that it keeps the flag. -/
theorem FlagInv.step {a : Act} (hkind : kind.startable = true) (hi : FlagInv kind s)
    (hstep : step kind s a = some t) :
    Inv 0 t.core ∧ .check_signals ∉ t.core.frames ∧ WatchInv kind t.watch ∧
      (Held t ↔ KeepsFlag s a) := by
  have hchecker : kind ≠ .SignalChecker := by
    rintro rfl
    cases hkind
  obtain ⟨hcore, hnone⟩ := step_keeps hchecker hi.core hi.no_check hstep
  obtain ⟨hwatch, hheld⟩ := step_held hi.core hi.held hi.watch hkind hstep
  exact ⟨hcore, hnone, hwatch, hheld⟩

theorem FlagInv.survives (hkind : kind.startable = true) (hi : FlagInv kind s) :
    Survives kind s := by
  intro hstarted hc
  have hpyref := hi.held hstarted hc
  have hinit := hi.core.pyref_initialized hpyref
  have hmany : s.core.user < s.core.refcnt := by
    have hrefs := hi.core.refs
    simp only [Handle.owned, hpyref, Bool.toNat_true] at hrefs
    omega
  obtain ⟨ev, hcb, hdue, hframes⟩ :=
    a_started_handle_has_an_event (s := { s with core := { s.core with
      user := 0, refcnt := s.core.refcnt - s.core.user } }) hi.watch hkind hstarted
  exact ⟨_, drop_user_refs kind s.core.user rfl hmany, rfl, hc, rfl, ev, _, hcb,
    if_pos ⟨hinit, hc, hdue⟩, hframes⟩

/-- A run keeps the flag on every started handle if and only if no timer runs again, no
stream listens and no reading is stopped without it. Such a handle needs no user. -/
theorem started_handles_are_counted_iff (hkind : kind.startable = true) (finalizer : Finalizer)
    (as : List Act) :
    (runs.Always (step kind) Counted (new finalizer) as ↔
      runs.Meets (step kind) KeepsFlag (new finalizer) as) ∧
    (runs.Meets (step kind) KeepsFlag (new finalizer) as →
      runs.Always (step kind) (Survives kind) (new finalizer) as) := by
  have hnew : FlagInv kind (new finalizer) := by
    refine ⟨fresh_inv finalizer, List.not_mem_nil, WatchInv.stopped kind, fun hstarted => ?_⟩
    cases hstarted
  have hinv : ∀ s a t, FlagInv kind s → KeepsFlag s a → step kind s a = some t →
      FlagInv kind t := by
    intro s a t hi hkeeps hstep
    obtain ⟨hcore, hnone, hwatch, hheld⟩ := hi.step hkind hstep
    exact ⟨hcore, hnone, hwatch, hheld.mpr hkeeps⟩
  have hiff : ∀ s a t, FlagInv kind s → step kind s a = some t → (Counted t ↔ KeepsFlag s a) := by
    intro s a t hi hstep
    obtain ⟨hcore, -, -, hheld⟩ := hi.step hkind hstep
    exact (counted_iff_held hcore).trans hheld
  constructor
  · exact runs.always_iff_meets hinv hiff as hnew ((counted_iff_held hnew.core).mpr hnew.held)
  · intro hmeets
    exact (runs.always_of_meets hinv hnew hmeets).mono (fun s hi => hi.survives hkind)

end

/-- A timer that is started, and its user's reference dropped. -/
def started_and_dropped : List Act :=
  [.tp_init .Py_None 0, .call (.Timer_start .callable 1 0), .decref]

theorem a_dropped_timer_is_counted :
    runs.Always (step .Timer) Counted (new .none) started_and_dropped :=
  (started_handles_are_counted_iff rfl .none started_and_dropped).1.mpr
    (fun _ _ => ⟨trivial, fun _ _ => ⟨trivial, fun _ _ => ⟨trivial, trivial⟩⟩⟩)

/-- A timer that is stopped and runs again: it ticks, has no reference of its own, and
is closed when the user drops the last one. -/
def stopped_and_again : List Act :=
  [.tp_init .Py_None 0, .call (.Timer_start .callable 1 1), .call .Timer_stop, .call .Timer_again]

/-- A Timer that `again` has started: it is active, and the flag holds no reference. -/
def ticking_without_the_flag : St where
  core := { fresh .none with initialized := true }
  watch := { Watch.stopped with
    active := true, timer_cb := true, repeat_ms := 1000, callback := true }

theorem a_timer_that_runs_again_is_lost :
    runs.exec (step .Timer) (new .none) stopped_and_again = some ticking_without_the_flag ∧
      (step .Timer ticking_without_the_flag .decref).map (fun t => t.core.closing) = some true ∧
      ¬runs.Always (step .Timer) Counted (new .none) stopped_and_again := by
  have hrun : runs.exec (step .Timer) (new .none) stopped_and_again =
      some ticking_without_the_flag := by decide +kernel
  refine ⟨hrun, rfl, fun h => ?_⟩
  have hlast := runs.always_iff_exec.mp h stopped_and_again _ (List.prefix_refl _) hrun
  exact absurd (hlast rfl rfl).1 (by decide)

end pyuv.watchers
