-- The life of a handle, over every run: libuv is asked once to close it, its close
-- callback is called once, and its memory is freed once, after that. For every type
-- but SignalChecker, whose callback breaks the count.
import Pyuv.Lib.Runs
import Pyuv.Watchers

set_option linter.style.nameCheck false

namespace pyuv.watchers

open handle

/-! ## What a method does to the count -/

/-- The ways in which a method can change the object: not at all, by the flag's
reference, or by a close. -/
inductive Effect (h : Handle) : Handle → Prop where
  | same : Effect h h
  | incref : check_open h = none → Effect h (PYUV_HANDLE_INCREF h)
  | decref : check_open h = none → Effect h (PYUV_HANDLE_DECREF h)
  | close (callback : CallbackArg) : Effect h (Handle_func_close h callback).2

section

variable {kind : Kind} {s t : St} {e : Nat}

theorem func_start_effect (s : St) (error : ExcType) (bad_arg : Option PyErr)
    (uv_start : Watch → Option (Int × Watch)) (set_callback : Watch → Watch) :
    Effect s.core (func_start s error bad_arg uv_start set_callback).2.core := by
  unfold func_start
  split
  · exact .same
  · rename_i hnone
    have hopen : check_open s.core = none := by
      cases hcheck : check_open s.core
      · rfl
      · simp [hcheck] at hnone
    split
    · exact .same
    · split
      · exact .same
      · exact .incref hopen

theorem func_stop_effect (s : St) (uv_stop clear_callback : Watch → Watch) :
    Effect s.core (func_stop s uv_stop clear_callback).2.core := by
  unfold func_stop
  split
  · exact .same
  · rename_i hopen
    exact .decref hopen

theorem func_close_effect (kind : Kind) (s : St) (callback : CallbackArg) :
    Effect s.core (func_close kind s callback).2.core := by
  unfold func_close
  split
  · exact .same
  · exact .close callback

theorem Call.run_effect (kind : Kind) (s : St) (c : Call) :
    Effect s.core (c.run kind s).2.core := by
  cases c with
  | Timer_again =>
    simp only [Call.run, Timer_func_again]
    split
    · exact .same
    · split <;> exact .same
  | Timer_set_repeat repeat_s =>
    simp only [Call.run, Timer_repeat_set]
    split
    · exact .same
    · split <;> exact .same
  | listen callback backlog os =>
    simp only [Call.run, Stream_func_listen]
    split
    · exact .same
    · split
      · exact .same
      · split
        · exact .same
        · split <;> exact .same
  | Async_send uv =>
    simp only [Call.run, Async_func_send]
    split
    · exact .same
    · split <;> exact .same
  | close callback => exact func_close_effect kind s callback
  | Timer_stop => exact func_stop_effect ..
  | Watcher_stop => exact func_stop_effect ..
  | Poll_stop => exact func_stop_effect ..
  | Signal_stop => exact func_stop_effect ..
  | FSEvent_stop => exact func_stop_effect ..
  | FSPoll_stop => exact func_stop_effect ..
  | SignalChecker_stop => exact func_stop_effect ..
  | stop_read => exact func_stop_effect ..
  | stop_recv => exact func_stop_effect ..
  | _ => exact func_start_effect ..

/-- None of them breaks the invariant. -/
theorem Effect.inv {h h' : Handle} (heff : Effect h h') (hi : Inv e h) (hpos : 0 < h.refcnt) :
    Inv e h' := by
  cases heff with
  | same => exact hi
  | incref hopen =>
    obtain ⟨hinit, hc, -⟩ := check_open_eq_none_iff.mp hopen
    exact PYUV_HANDLE_INCREF.spec hi hpos hinit hc
  | decref => exact PYUV_HANDLE_DECREF.spec hi
  | close callback => exact Handle_func_close.spec hi hpos callback

/-- Nothing but a finalizer begins to run. -/
theorem Effect.frames {h h' : Handle} (heff : Effect h h') {f : Frame} (hf : f ∈ h'.frames) :
    f ∈ h.frames ∨ f = .finalizer := by
  cases heff with
  | same => exact Or.inl hf
  | incref => exact Or.inl (PYUV_HANDLE_INCREF_frames h ▸ hf)
  | decref => exact PYUV_HANDLE_DECREF_frames hf
  | close callback =>
    rcases Handle_func_close_cases h callback with ⟨err, heq⟩ | ⟨-, -, -, -, heq⟩ <;> rw [heq] at hf
    · exact Or.inl hf
    · exact Or.inl (by simpa [uv_close] using hf)

theorem returned_eq_some {r : Ret × St} (h : returned r = some t) : r.2 = t := by
  obtain ⟨ret, u⟩ := r
  cases ret with
  | abort => cases h
  | ok => exact Option.some.inj h
  | raise err => exact Option.some.inj h

/-- Who has the handle in hand owns a reference that is not the flag's. -/
theorem Inv.owner_of_usable {h : Handle} (hi : Inv e h) (husable : usable h = true) :
    0 < h.user + held h.frames + h.exit_ref.toNat + h.close_ref := by
  unfold usable at husable
  rcases Bool.or_eq_true _ _ ▸ husable with huser | hframe
  · have hpos : 0 < h.user := of_decide_eq_true huser
    omega
  · obtain ⟨f, hf, hself⟩ := List.any_eq_true.mp hframe
    exact hi.owner_of_frame hf hself

/-- An open handle is alive. -/
theorem Inv.pos_of_usable {h : Handle} (hi : Inv e h) (husable : usable h = true) :
    0 < h.refcnt := by
  have howner := Inv.owner_of_usable hi husable
  have hrefs := hi.refs
  simp only [Handle.owned] at hrefs
  omega

/-! ## What a step does to the count -/

theorem tp_init_inv (hi : Inv e s.core) (hpos : 0 < s.core.refcnt) (callback : CallbackArg)
    (uv : Int) : Inv e (tp_init kind s callback uv).2.core := by
  unfold tp_init
  split
  · exact hi
  · rename_i hnew
    split
    · exact hi
    · split
      · exact hi
      · exact initialize_handle.spec hi hpos (by simpa using hnew)

/-- A spawn, of which the exit callback holds a reference. -/
theorem Process_func_spawn_inv {finalizer : Finalizer} (hi : Inv e s.core)
    (hfresh : s.core = fresh finalizer) (callback : CallbackArg) (prepared : Bool) (uv : Int) :
    Inv e (Process_func_spawn s callback prepared uv).core := by
  obtain ⟨kind, core, watch⟩ := s
  simp only at hfresh
  subst hfresh
  have hinit : Inv e { fresh finalizer with initialized := true } :=
    initialize_handle.spec hi Nat.one_pos rfl
  unfold Process_func_spawn
  dsimp only
  split
  · exact Py_DECREF.spec (hi.drop_user Nat.one_pos)
  · split
    · exact Py_DECREF.spec (hinit.drop_user Nat.one_pos)
    · have hinc := Py_INCREF.spec hinit Nat.one_pos
      exact hinc.add_exit rfl

/-- A callback takes a reference of its own. -/
theorem trampoline_inv (hi : Inv e s.core) (hpos : 0 < s.core.refcnt) (w : Watch) {f : Frame}
    (hholds : f.holds = true) : Inv e (trampoline s w f).core := by
  have hinc := Py_INCREF.spec hi hpos
  rw [Py_INCREF_eq hpos] at hinc
  have hclose : f ≠ .close_cb := by
    intro heq
    subst heq
    cases hholds
  have hexit : f ≠ .exit_cb := by
    intro heq
    subst heq
    cases hholds
  have hone : e + f.holds.toNat = e + 1 := by rw [hholds, Bool.toNat_true]
  have hpush := Inv.push_frame (f := f) (hone ▸ hinc) hclose hexit
  unfold trampoline
  rw [Py_INCREF_eq (h := { s.core with frames := f :: s.core.frames }) hpos]
  exact hpush

theorem Event.begin_inv (hi : Inv e s.core) (hpos : 0 < s.core.refcnt) (ev : Event)
    (hdue : ev.due kind s = true) : Inv e (ev.begin s).core := by
  cases ev with
  | timer => exact trampoline_inv hi hpos _ rfl
  | watcher => exact trampoline_inv hi hpos _ rfl
  | poll ok => exact trampoline_inv hi hpos _ rfl
  | recv => exact trampoline_inv hi hpos _ rfl
  | new_connection => exact trampoline_inv hi hpos _ rfl
  | read r => cases r <;> exact trampoline_inv hi hpos _ rfl
  | check_signals ok drained =>
    exact Inv.push_frame (f := .check_signals) hi (by decide) (by decide)
  | async =>
    simp only [Event.begin]
    split
    · exact trampoline_inv hi hpos _ rfl
    · exact hi
  | exit =>
    simp only [Event.due, decide_eq_true_eq] at hdue
    obtain ⟨-, hexit, hnone⟩ := hdue
    simp only [Event.begin, pyuv__process_exit_cb]
    split
    · exact hi.push_exit hexit hnone
    · exact Py_DECREF.spec (hi.drop_exit hexit hnone)

/-- Every frame but one has a reference to give up when it ends. -/
theorem finish_frame_inv {f : Frame} {fs : List Frame} (hi : Inv e s.core)
    (hf : s.core.frames = f :: fs) (hcheck : f ≠ .check_signals) :
    Inv e (finish_frame { s with core := { s.core with frames := fs } } f).core := by
  have hpop := hi.pop_frame hf
  cases f with
  | event => exact Py_DECREF.spec hpop
  | request => exact Py_DECREF.spec hpop
  | read_eof => exact Py_DECREF.spec hpop
  | read_error => exact Py_DECREF.spec hpop
  | finalizer => exact Py_DECREF.spec hpop
  | close_cb =>
    have hframe := hi.close_frame
    rw [hf, List.count_cons_self] at hframe
    have hle := Bool.toNat_le (s.core.closed && decide (s.core.finishes = 0))
    have hone : (s.core.closed && decide (s.core.finishes = 0)) = true := by
      cases hc : (s.core.closed && decide (s.core.finishes = 0))
      · simp [hc] at hframe
      · rfl
    simp only [Bool.and_eq_true, decide_eq_true_eq] at hone
    exact pyuv__handle_close_cb_end.spec hpop hone.1 hone.2 (by simp only; omega)
  | exit_cb =>
    have hframe := hi.exit_frame
    rw [hf, List.count_cons_self] at hframe
    have hle := Bool.toNat_le s.core.exit_ref
    have hexit : s.core.exit_ref = true := by
      cases hr : s.core.exit_ref
      · simp [hr] at hframe
      · rfl
    have hnone : .exit_cb ∉ fs := List.count_eq_zero.mp (by omega)
    exact Py_DECREF.spec (hpop.drop_exit hexit hnone)
  | check_signals => exact absurd rfl hcheck

/-- The step lets the callback of a SignalChecker end. -/
def ends_check_signals (s : St) (a : Act) : Prop :=
  a = .ret ∧ s.core.frames.head? = some .check_signals

/-- Every step but the one end of a callback that releases what it did not take. -/
theorem step_inv {a : Act} (hi : Inv e s.core) (hcheck : ¬ends_check_signals s a)
    (hstep : step kind s a = some t) : Inv e t.core := by
  cases a with
  | tp_init callback uv =>
    simp only [step, Option.ite_none_right_eq_some] at hstep
    rw [← returned_eq_some hstep.2]
    exact tp_init_inv hi (Inv.pos_of_usable hi hstep.1.1) callback uv
  | spawn callback prepared uv =>
    simp only [step, Option.ite_none_right_eq_some, Option.some.injEq] at hstep
    obtain ⟨⟨-, hfresh, -⟩, rfl⟩ := hstep
    exact Process_func_spawn_inv hi hfresh callback prepared uv
  | call c =>
    simp only [step, Option.ite_none_right_eq_some] at hstep
    rw [← returned_eq_some hstep.2]
    exact (c.run_effect kind s).inv hi (Inv.pos_of_usable hi hstep.1.1)
  | incref =>
    simp only [step, Option.ite_none_right_eq_some, Option.some.injEq] at hstep
    obtain ⟨husable, rfl⟩ := hstep
    exact incref_inv hi (Inv.pos_of_usable hi husable)
  | decref =>
    simp only [step, Option.ite_none_right_eq_some, Option.some.injEq] at hstep
    obtain ⟨huser, rfl⟩ := hstep
    exact Py_DECREF.spec (hi.drop_user huser)
  | loop_handles =>
    simp only [step, Option.ite_none_right_eq_some, Option.some.injEq] at hstep
    obtain ⟨⟨hinit, hopen⟩, rfl⟩ := hstep
    exact incref_inv hi (hi.pos_of_open hinit hopen)
  | event ev =>
    simp only [step, Option.ite_none_right_eq_some, Option.some.injEq] at hstep
    obtain ⟨⟨hinit, hc, hdue⟩, rfl⟩ := hstep
    exact ev.begin_inv hi (hi.pos_of_open hinit (hi.closed_of_open hc)) hdue
  | ret =>
    simp only [step] at hstep
    split at hstep
    · cases hstep
    · rename_i f fs hf
      cases hstep
      exact finish_frame_inv hi hf (fun heq => hcheck ⟨rfl, by simp [hf, heq]⟩)
  | finish_close =>
    simp only [step, Option.ite_none_right_eq_some, Option.some.injEq] at hstep
    obtain ⟨⟨hc, hopen⟩, rfl⟩ := hstep
    exact uv__finish_close.spec hi hc hopen

/-! ## What a step puts on the stack -/

theorem Process_func_spawn_frames {f : Frame} {callback : CallbackArg} {prepared : Bool} {uv : Int}
    (hf : f ∈ (Process_func_spawn s callback prepared uv).core.frames) :
    f ∈ s.core.frames ∨ f = .finalizer := by
  unfold Process_func_spawn at hf
  dsimp only at hf
  split at hf
  · have hor := (Py_DECREF.kept _).frames f hf
    exact hor
  · split at hf
    · have hor := (Py_DECREF.kept _).frames f hf
      exact hor
    · exact Or.inl (by simpa [initialize_handle] using hf)

/-- Only its own event runs pyuv__check_signals. -/
theorem Event.begin_frames {ev : Event} {f : Frame} (hf : f ∈ (ev.begin s).core.frames) :
    f ∈ s.core.frames ∨ f ≠ .check_signals ∨ ∃ ok drained, ev = .check_signals ok drained := by
  by_cases hcheck : f = .check_signals
  · subst hcheck
    cases ev with
    | check_signals ok drained => exact Or.inr (Or.inr ⟨ok, drained, rfl⟩)
    | read r =>
      cases r <;>
        exact Or.inl (by simpa [Event.begin, pyuv__stream_read_cb, trampoline] using hf)
    | async =>
      simp only [Event.begin] at hf
      split at hf
      · exact Or.inl (by simpa [trampoline] using hf)
      · exact Or.inl hf
    | exit =>
      simp only [Event.begin, pyuv__process_exit_cb] at hf
      split at hf
      · exact Or.inl (by simpa using hf)
      · rcases (Py_DECREF.kept _).frames _ hf with hf | hf
        · exact Or.inl hf
        · cases hf
    | _ => exact Or.inl (by simpa [Event.begin, trampoline] using hf)
  · exact Or.inr (Or.inl hcheck)

theorem finish_frame_frames {f g : Frame} (hg : g ∈ (finish_frame s f).core.frames) :
    g ∈ s.core.frames ∨ g = .finalizer := by
  cases f with
  | close_cb => exact pyuv__handle_close_cb_end_frames hg
  | exit_cb => exact (Py_DECREF.kept { s.core with exit_ref := false }).frames g hg
  | _ => exact (Py_DECREF.kept s.core).frames g hg

/-- Only a SignalChecker has its callback on the stack. -/
theorem step_no_check {a : Act} (hkind : kind ≠ .SignalChecker)
    (hnone : .check_signals ∉ s.core.frames) (hstep : step kind s a = some t) :
    .check_signals ∉ t.core.frames := by
  intro hmem
  apply hnone
  cases a with
  | tp_init callback uv =>
    simp only [step, Option.ite_none_right_eq_some] at hstep
    rw [← returned_eq_some hstep.2] at hmem
    unfold tp_init at hmem
    split at hmem
    · exact hmem
    · split at hmem
      · exact hmem
      · split at hmem <;> exact hmem
  | spawn callback prepared uv =>
    simp only [step, Option.ite_none_right_eq_some, Option.some.injEq] at hstep
    rw [← hstep.2] at hmem
    exact (Process_func_spawn_frames hmem).resolve_right (by decide)
  | call c =>
    simp only [step, Option.ite_none_right_eq_some] at hstep
    rw [← returned_eq_some hstep.2] at hmem
    exact ((c.run_effect kind s).frames hmem).resolve_right (by decide)
  | incref =>
    simp only [step, Option.ite_none_right_eq_some, Option.some.injEq] at hstep
    rw [← hstep.2] at hmem
    simpa using hmem
  | decref =>
    simp only [step, Option.ite_none_right_eq_some, Option.some.injEq] at hstep
    rw [← hstep.2] at hmem
    have hor := (Py_DECREF.kept _).frames _ hmem
    exact hor.resolve_right (by decide)
  | loop_handles =>
    simp only [step, Option.ite_none_right_eq_some, Option.some.injEq] at hstep
    rw [← hstep.2] at hmem
    simpa using hmem
  | event ev =>
    simp only [step, Option.ite_none_right_eq_some, Option.some.injEq] at hstep
    obtain ⟨⟨-, -, hdue⟩, rfl⟩ := hstep
    rcases Event.begin_frames hmem with hf | hf | ⟨ok, drained, rfl⟩
    · exact hf
    · exact absurd rfl hf
    · simp [Event.due, hkind] at hdue
  | ret =>
    simp only [step] at hstep
    split at hstep
    · cases hstep
    · rename_i f fs hf
      cases hstep
      rw [hf]
      exact List.mem_cons_of_mem f ((finish_frame_frames hmem).resolve_right (by decide))
  | finish_close =>
    simp only [step, Option.ite_none_right_eq_some, Option.some.injEq] at hstep
    rw [← hstep.2] at hmem
    exact (uv__finish_close_frames hmem).resolve_right (by decide)

/-- The step of every type but SignalChecker, whoever else holds references. -/
theorem step_keeps {a : Act} (hkind : kind ≠ .SignalChecker) (hi : Inv e s.core)
    (hnone : .check_signals ∉ s.core.frames) (hstep : step kind s a = some t) :
    Inv e t.core ∧ .check_signals ∉ t.core.frames := by
  have hcheck : ¬ends_check_signals s a := by
    intro hends
    exact hnone (List.mem_of_mem_head? hends.2)
  exact ⟨step_inv hi hcheck hstep, step_no_check hkind hnone hstep⟩

/-! ## What a step leaves alone -/

/-- The fields that only the end of a close, or a process, changes. -/
structure Apart (h h' : Handle) : Prop where
  closed : h'.closed = h.closed
  finishes : h'.finishes = h.finishes
  exit_ref : h.exit_ref = false → h'.exit_ref = false

theorem Apart.refl (h : Handle) : Apart h h := ⟨rfl, rfl, id⟩

theorem Apart.of_kept {h h' : Handle} (hkept : Kept h h') : Apart h h' :=
  ⟨hkept.closed, hkept.finishes, fun hnone => hkept.exit_ref.trans hnone⟩

theorem PYUV_HANDLE_INCREF_apart (h : Handle) : Apart h (PYUV_HANDLE_INCREF h) := by
  unfold PYUV_HANDLE_INCREF
  split
  · exact .refl h
  · have hapart := Apart.of_kept (Py_INCREF.kept { h with pyref := true })
    exact ⟨hapart.closed, hapart.finishes, hapart.exit_ref⟩

theorem PYUV_HANDLE_DECREF_apart (h : Handle) : Apart h (PYUV_HANDLE_DECREF h) := by
  unfold PYUV_HANDLE_DECREF
  split
  · have hapart := Apart.of_kept (Py_DECREF.kept { h with pyref := false })
    exact ⟨hapart.closed, hapart.finishes, hapart.exit_ref⟩
  · exact .refl h

/-- Methods leave the closing alone. -/
theorem Effect.apart {h h' : Handle} (heff : Effect h h') : Apart h h' := by
  cases heff with
  | same => exact .refl h
  | incref => exact PYUV_HANDLE_INCREF_apart h
  | decref => exact PYUV_HANDLE_DECREF_apart h
  | close callback =>
    rcases Handle_func_close_cases h callback with ⟨err, heq⟩ | ⟨-, -, -, -, heq⟩ <;> rw [heq]
    · exact .refl h
    · have hapart := Apart.of_kept (Py_INCREF.kept { h with
        on_close_cb := some (decide (callback = .callable)), close_calls := h.close_calls + 1,
        close_asked := decide (callback = .callable) })
      exact ⟨hapart.closed, hapart.finishes, hapart.exit_ref⟩

theorem trampoline_apart (s : St) (w : Watch) (f : Frame) :
    Apart s.core (trampoline s w f).core := by
  have hapart := Apart.of_kept (Py_INCREF.kept { s.core with frames := f :: s.core.frames })
  exact ⟨hapart.closed, hapart.finishes, hapart.exit_ref⟩

theorem pyuv__process_exit_cb_end_apart (h : Handle) : Apart h (pyuv__process_exit_cb_end h) := by
  have hapart := Apart.of_kept (Py_DECREF.kept { h with exit_ref := false })
  exact ⟨hapart.closed, hapart.finishes, fun _ => hapart.exit_ref rfl⟩

theorem Event.begin_apart (s : St) (ev : Event) : Apart s.core (ev.begin s).core := by
  cases ev with
  | read r => cases r <;> exact trampoline_apart s _ _
  | check_signals ok drained => exact ⟨rfl, rfl, id⟩
  | async =>
    simp only [Event.begin]
    split
    · exact trampoline_apart s _ _
    · exact .refl s.core
  | exit =>
    simp only [Event.begin, pyuv__process_exit_cb]
    split
    · exact ⟨rfl, rfl, id⟩
    · exact pyuv__process_exit_cb_end_apart s.core
  | _ => exact trampoline_apart s _ _

theorem finish_frame_apart (s : St) {f : Frame} (hclose : f ≠ .close_cb) :
    Apart s.core (finish_frame s f).core := by
  cases f with
  | close_cb => exact absurd rfl hclose
  | exit_cb => exact pyuv__process_exit_cb_end_apart s.core
  | _ => exact Apart.of_kept (Py_DECREF.kept s.core)

/-- The step lets the Python callback of a close return. -/
def ends_close_cb (s : St) (a : Act) : Prop :=
  a = .ret ∧ s.core.frames.head? = some .close_cb

/-- No other step is part of a closing. -/
theorem step_apart {a : Act} (hkind : kind ≠ .Process) (hfinish : a ≠ .finish_close)
    (hclose : ¬ends_close_cb s a) (hstep : step kind s a = some t) : Apart s.core t.core := by
  cases a with
  | tp_init callback uv =>
    simp only [step, Option.ite_none_right_eq_some] at hstep
    rw [← returned_eq_some hstep.2]
    unfold tp_init
    split
    · exact .refl s.core
    · split
      · exact .refl s.core
      · split
        · exact .refl s.core
        · exact ⟨rfl, rfl, id⟩
  | spawn callback prepared uv => simp [step, hkind] at hstep
  | call c =>
    simp only [step, Option.ite_none_right_eq_some] at hstep
    rw [← returned_eq_some hstep.2]
    exact (c.run_effect kind s).apart
  | incref =>
    simp only [step, Option.ite_none_right_eq_some, Option.some.injEq] at hstep
    rw [← hstep.2]
    have hapart := Apart.of_kept (Py_INCREF.kept { s.core with user := s.core.user + 1 })
    exact ⟨hapart.closed, hapart.finishes, hapart.exit_ref⟩
  | decref =>
    simp only [step, Option.ite_none_right_eq_some, Option.some.injEq] at hstep
    rw [← hstep.2]
    have hapart := Apart.of_kept (Py_DECREF.kept { s.core with user := s.core.user - 1 })
    exact ⟨hapart.closed, hapart.finishes, hapart.exit_ref⟩
  | loop_handles =>
    simp only [step, Option.ite_none_right_eq_some, Option.some.injEq] at hstep
    rw [← hstep.2]
    have hapart := Apart.of_kept (Py_INCREF.kept { s.core with user := s.core.user + 1 })
    exact ⟨hapart.closed, hapart.finishes, hapart.exit_ref⟩
  | event ev =>
    simp only [step, Option.ite_none_right_eq_some, Option.some.injEq] at hstep
    rw [← hstep.2]
    exact ev.begin_apart s
  | ret =>
    simp only [step] at hstep
    split at hstep
    · cases hstep
    · rename_i f fs hf
      cases hstep
      have hother : f ≠ .close_cb := fun heq => hclose ⟨rfl, by simp [hf, heq]⟩
      have hapart := finish_frame_apart { s with core := { s.core with frames := fs } } hother
      exact ⟨hapart.closed, hapart.finishes, hapart.exit_ref⟩
  | finish_close => exact absurd rfl hfinish

/-- Only spawn takes the reference of the exit callback. -/
theorem step_exit_ref {a : Act} (hkind : kind ≠ .Process) (hnone : s.core.exit_ref = false)
    (hstep : step kind s a = some t) : t.core.exit_ref = false := by
  by_cases hfinish : a = .finish_close
  · subst hfinish
    simp only [step, Option.ite_none_right_eq_some, Option.some.injEq] at hstep
    rw [← hstep.2]
    simpa using hnone
  · by_cases hclose : ends_close_cb s a
    · obtain ⟨rfl, hhead⟩ := hclose
      simp only [step] at hstep
      split at hstep
      · cases hstep
      · rename_i f fs hf
        have hcb : f = .close_cb := by simpa [hf] using hhead
        subst hcb
        cases hstep
        simpa [finish_frame] using hnone
    · exact (step_apart hkind hfinish hclose hstep).exit_ref hnone

/-! ## The promises -/

/-- What is promised of a handle in each state of its life. -/
structure GoodLife (kind : Kind) (s : St) : Prop where
  refs : s.core.refcnt = s.core.owned
  one_uv_close : s.core.uv_closes ≤ 1
  close_iff : ∀ callback, s.core.initialized = true → callback ≠ .other →
    ((func_close kind s callback).1 = .ok ↔ s.core.uv_closes = 0)
  close_asks : ∀ callback, (func_close kind s callback).1 = .ok →
    (func_close kind s callback).2.core.uv_closes = 1 ∧
    (func_close kind s callback).2.core.close_asked = decide (callback = .callable)
  close_refused : ∀ callback, s.core.initialized = true → s.core.uv_closes ≠ 0 →
    func_close kind s callback = (.raise .handle_closed, s)
  finish_due : s.core.closing = true → s.core.closed = false →
    ∃ t, step kind s .finish_close = some t
  callback_once : s.core.user_closes = (s.core.close_asked && s.core.closed).toNat
  no_callback_of_dealloc : s.core.close_cb = some .pyuv__handle_dealloc_close_cb →
    s.core.user_closes = 0
  freed_once : s.core.frees = (decide (s.core.refcnt = 0)).toNat
  freed_closed : 0 < s.core.frees → s.core.initialized = true →
    s.core.closed = true ∧ s.core.finishes = 1
  not_used_freed : s.core.bad = false

/-- On an initialized handle, Process_func_close is Handle_func_close. -/
theorem func_close_of_initialized (hinit : s.core.initialized = true) (callback : CallbackArg) :
    func_close kind s callback =
      ((Handle_func_close s.core callback).1,
        { s with core := (Handle_func_close s.core callback).2 }) := by
  unfold func_close
  rw [if_neg (by simp [hinit])]

/-- A close that succeeds is the first one. -/
theorem Handle_func_close_ok {h h' : Handle} {callback : CallbackArg} (hi : Inv e h)
    (hok : Handle_func_close h callback = (.ok, h')) :
    h.uv_closes = 0 ∧ h'.uv_closes = 1 ∧ h'.close_asked = decide (callback = .callable) := by
  rcases Handle_func_close_cases h callback with ⟨err, heq⟩ | ⟨-, hc, -, -, heq⟩
  · rw [heq] at hok
    cases hok
  · have hzero : h.uv_closes = 0 := by simp [hi.one_close, hc]
    rw [heq] at hok
    cases hok
    refine ⟨hzero, ?_, ?_⟩
    · unfold uv_close Py_INCREF
      split <;> simp [hzero]
    · unfold uv_close Py_INCREF
      split <;> rfl

theorem close_iff_of_inv {h : Handle} (hi : Inv e h) {callback : CallbackArg}
    (hinit : h.initialized = true) (hgood : callback ≠ .other) :
    (Handle_func_close h callback).1 = .ok ↔ h.uv_closes = 0 := by
  constructor
  · intro hok
    exact (Handle_func_close_ok hi (Prod.ext hok rfl)).1
  · intro hzero
    have hc : h.closing = false := by
      have hone := hi.one_close
      cases hc : h.closing
      · rfl
      · simp [hc, hzero] at hone
    have hopen : check_open h = none :=
      check_open_eq_none_iff.mpr ⟨hinit, hc, hi.closed_of_open hc⟩
    simp [Handle_func_close, hopen, hgood]

theorem close_refused_of_inv {h : Handle} (hi : Inv e h) (hinit : h.initialized = true)
    (hclosed : h.uv_closes ≠ 0) (callback : CallbackArg) :
    Handle_func_close h callback = (.raise .handle_closed, h) := by
  have hc : h.closing = true := by
    have hone := hi.one_close
    cases hc : h.closing
    · simp [hc] at hone
      contradiction
    · rfl
  have hcheck : check_open h = some .handle_closed := by
    simp [check_open, uv_is_closing, hinit, hc]
  simp [Handle_func_close, hcheck]

/-- The invariant gives the contract. -/
theorem GoodLife.of_inv (hi : Inv 0 s.core) : GoodLife kind s where
  refs := hi.refs
  one_uv_close := by
    rw [hi.one_close]
    exact Bool.toNat_le s.core.closing
  close_iff callback hinit hgood := by
    rw [func_close_of_initialized hinit]
    exact close_iff_of_inv hi hinit hgood
  close_asks callback hok := by
    unfold func_close at hok ⊢
    split at hok
    · cases hok
    · rename_i hinit
      rw [if_neg hinit]
      exact (Handle_func_close_ok hi (Prod.ext hok rfl)).2
  close_refused callback hinit hclosed := by
    rw [func_close_of_initialized hinit, close_refused_of_inv hi hinit hclosed]
  finish_due hc hopen := ⟨{ s with core := uv__finish_close s.core }, by simp [step, hc, hopen]⟩
  callback_once := hi.user_close
  no_callback_of_dealloc hdealloc := by
    have hc : s.core.closing = true := by
      cases hc : s.core.closing
      · simp [(hi.not_closing hc).1] at hdealloc
      · rfl
    have hcalls : s.core.close_calls = 0 := by
      rcases hi.close_kind hc with ⟨hkind, -⟩ | ⟨-, hcalls⟩
      · simp [hkind] at hdealloc
      · exact hcalls
    have hasked : s.core.close_asked = false := by
      cases hask : s.core.close_asked
      · rfl
      · have hone := hi.asked_call hask
        omega
    simpa [hasked] using hi.user_close
  freed_once := hi.freed_once
  freed_closed hfreed hinit := by
    have hzero : s.core.refcnt = 0 := by
      have honce := hi.freed_once
      by_cases hzero : s.core.refcnt = 0
      · exact hzero
      · simp [hzero] at honce
        omega
    have hfin := hi.freed_closed hzero hinit
    have hle := hi.finish_once
    refine ⟨?_, hfin⟩
    cases hd : s.core.closed
    · simp [hd, hfin] at hle
    · rfl
  not_used_freed := hi.alive

/-- The last reference goes, `__del__` closes the handle with a callback, and libuv's
close callback leads to the one that frees it. -/
def closed_by_its_finalizer : List Act :=
  [.tp_init .Py_None 0, .decref, .call (.close .callable), .ret, .finish_close, .ret]

end

end pyuv.watchers
