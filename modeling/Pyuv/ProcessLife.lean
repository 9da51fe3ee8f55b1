-- The references of a Process (src/process.c): spawn takes one that the exit callback
-- gives back. A close() that comes first takes the handle off libuv's queue of children,
-- and nobody is left to give it back.
import Pyuv.HandleLife

set_option linter.style.nameCheck false

namespace pyuv.process

open handle watchers

/-! ## The state -/

/-- A Process object, and what has happened to its child. -/
structure Life where
  proc : St
  -- spawn has succeeded
  spawned : Bool
  -- libuv has called pyuv__process_exit_cb, and that the user's callback
  exits : Nat
  exit_calls : Nat
deriving DecidableEq, Repr

/-- `uv` is what uv_process_kill returns. -/
def Process_func_kill (s : St) (uv : Int) : Ret × St :=
  match check_open s.core with
  | some e => (.raise e, s)
  | none => if uv < 0 then (.raise (.uv .ProcessError uv), s) else (.ok, s)

/-- A kill, or a step that any handle can make. -/
inductive Act where
  | kill (uv : Int)
  | other (a : watchers.Act)
deriving DecidableEq, Repr

/-- What the step says of the process and its exit. -/
def note (p : Life) (t : St) : watchers.Act → Life
  | .spawn _ prepared uv => { p with proc := t, spawned := prepared && decide (0 ≤ uv) }
  | .event _ =>
    -- the only callback that libuv has for a process
    { p with
      proc := t
      exits := p.exits + 1
      exit_calls := p.exit_calls + p.proc.watch.callback.toNat }
  | _ => { p with proc := t }

/-- One act of the life of a process. -/
def step (p : Life) : Act → Option Life
  | .kill uv =>
    if usable p.proc.core then
      (returned (Process_func_kill p.proc uv)).map fun t => { p with proc := t }
    else none
  | .other a => (watchers.step .Process p.proc a).map fun t => note p t a

/-- The object that spawn creates. -/
def tp_new (finalizer : Finalizer) : Life where
  proc := new finalizer
  spawned := false
  exits := 0
  exit_calls := 0

/-! ## The contract -/

/-- The reference that spawn took, until the exit or the close is processed. -/
def exit_owed (p : Life) : Nat :=
  if p.spawned = true ∧ p.exits = 0 ∧ p.proc.core.finishes = 0 then 1 else 0

/-- The reference that a running exit callback gives back when it ends. -/
def exiting (frames : List Frame) : Nat := frames.count .exit_cb

/-- Every reference has its owner, and the exit callback ends the one of spawn. -/
structure Balanced (p : Life) : Prop where
  refs : p.proc.core.refcnt = p.proc.core.user + held p.proc.core.frames +
    exiting p.proc.core.frames + (exit_owed p + p.proc.core.close_ref)
  after_close : p.proc.core.finishes = 1 →
    p.proc.core.refcnt = p.proc.core.user + held p.proc.core.frames + exiting p.proc.core.frames
  after_failure : p.spawned = false →
    p.proc.core.refcnt = p.proc.core.user + held p.proc.core.frames + p.proc.core.close_ref
  exit_once : p.exits ≤ 1
  called_for_exit : p.exit_calls = if p.proc.watch.callback then p.exits else 0
  not_used_freed : p.proc.core.bad = false

/-- libuv's close callback ends. -/
def ends_close (h : Handle) : Act → Prop
  | .other .finish_close => ¬asks h
  | .other .ret => h.frames.head? = some .close_cb
  | _ => False

/-- The close is over, and libuv has not called for the exit of the child. -/
def forgets_exit (p : Life) (a : Act) : Prop :=
  ends_close p.proc.core a ∧ p.spawned = true ∧ p.exits = 0

/-! ## The invariant -/

/-- What holds in a run in which no process is closed before its exit. -/
structure Inv (p : Life) : Prop where
  core : handle.Inv 0 p.proc.core
  no_check : .check_signals ∉ p.proc.core.frames
  pyref : p.proc.core.pyref = false
  exit_ref : p.proc.core.exit_ref.toNat =
    (p.spawned && decide (p.exits = 0)).toNat + exiting p.proc.core.frames
  initialized : p.spawned = true → p.proc.core.initialized = true
  exits_le : p.exits ≤ p.spawned.toNat
  exiting_le : exiting p.proc.core.frames ≤ p.exits
  called_for_exit : p.exit_calls = if p.proc.watch.callback then p.exits else 0
  -- the close is over only when the exit is
  settled : p.spawned = true → p.exits = 0 → p.proc.core.finishes = 0

section

variable {p q : Life} {s t : St} {h h' : Handle}

theorem Inv.balanced (hi : Inv p) : Balanced p := by
  have hrefs := hi.core.refs
  have hexit := hi.exit_ref
  have hle := hi.exits_le
  simp only [Handle.owned, hi.pyref, hexit, Bool.toNat_false] at hrefs
  have howed : exit_owed p = (p.spawned && decide (p.exits = 0)).toNat := by
    unfold exit_owed
    cases hs : p.spawned with
    | false => simp
    | true =>
      by_cases hz : p.exits = 0
      · simp [hz, hi.settled hs hz]
      · simp [hz]
  refine ⟨?_, ?_, ?_, ?_, hi.called_for_exit, hi.core.alive⟩
  · rw [howed]
    omega
  · intro hfin
    have hnone : exit_owed p = 0 := by
      unfold exit_owed
      rw [if_neg (by omega)]
    have hclose : p.proc.core.close_ref = 0 := by simp [Handle.close_ref, hfin]
    omega
  · intro hs
    have hnone : exiting p.proc.core.frames = 0 := by
      have hcount := hi.exiting_le
      rw [hs, Bool.toNat_false] at hle
      omega
    simp only [hs, Bool.false_and, Bool.toNat_false] at hrefs
    omega
  · have hone := Bool.toNat_le p.spawned
    omega

/-! ## What a step leaves alone -/

/-- The fields that only a spawn and an exit change. -/
structure Alike (h h' : Handle) : Prop where
  pyref : h'.pyref = h.pyref
  initialized : h'.initialized = h.initialized
  exit_ref : h'.exit_ref = h.exit_ref
  exiting : exiting h'.frames = exiting h.frames

theorem Alike.refl (h : Handle) : Alike h h := ⟨rfl, rfl, rfl, rfl⟩

theorem Py_INCREF_alike (h : Handle) : Alike h (Py_INCREF h) := by
  have hkept := Py_INCREF.kept h
  exact ⟨hkept.pyref, hkept.initialized, hkept.exit_ref, congrArg exiting (Py_INCREF_frames h)⟩

theorem Py_DECREF_alike (h : Handle) : Alike h (Py_DECREF h) := by
  have hkept := Py_DECREF.kept h
  refine ⟨hkept.pyref, hkept.initialized, hkept.exit_ref, ?_⟩
  by_cases hpos : 0 < h.refcnt
  · rcases Py_DECREF_cases hpos with ⟨-, heq⟩ | ⟨-, -, heq⟩ | ⟨-, -, -, -, heq⟩ | ⟨-, -, heq⟩ <;>
      rw [heq]
    -- a `__del__` is on the stack now
    exact List.count_cons_of_ne (by decide)
  · rw [Py_DECREF, if_pos (by omega)]

theorem Handle_func_close_alike (h : Handle) (callback : CallbackArg) :
    Alike h (Handle_func_close h callback).2 := by
  rcases Handle_func_close_cases h callback with ⟨err, heq⟩ | ⟨-, -, -, -, heq⟩ <;> rw [heq]
  · exact .refl h
  · have halike := Py_INCREF_alike { h with
      on_close_cb := some (decide (callback = .callable)), close_calls := h.close_calls + 1,
      close_asked := decide (callback = .callable) }
    exact ⟨halike.pyref, halike.initialized, halike.exit_ref, halike.exiting⟩

/-- The flag of a process is never set. -/
theorem pyuv__handle_close_cb_end_alike (hpyref : h.pyref = false) :
    Alike h (pyuv__handle_close_cb_end h) := by
  have hflag : PYUV_HANDLE_DECREF { h with on_close_cb := none } = { h with on_close_cb := none } :=
    if_neg (by simp [hpyref])
  unfold pyuv__handle_close_cb_end
  dsimp only
  rw [hflag]
  have halike := Py_DECREF_alike { h with on_close_cb := none, finishes := h.finishes + 1 }
  exact ⟨halike.pyref, halike.initialized, halike.exit_ref, halike.exiting⟩

theorem uv__finish_close_alike (hpyref : h.pyref = false) : Alike h (uv__finish_close h) := by
  unfold uv__finish_close
  dsimp only
  split
  · unfold pyuv__handle_close_cb
    split
    · exact ⟨rfl, rfl, rfl, List.count_cons_of_ne (by decide)⟩
    · have halike := pyuv__handle_close_cb_end_alike (h := { h with closed := true }) hpyref
      exact ⟨halike.pyref, halike.initialized, halike.exit_ref, halike.exiting⟩
  · have halike := Py_DECREF_alike { h with closed := true, finishes := h.finishes + 1 }
    exact ⟨halike.pyref, halike.initialized, halike.exit_ref, halike.exiting⟩
  · exact ⟨rfl, rfl, rfl, rfl⟩

/-- A step that leaves these fields alone keeps the invariant, unless it ends the close. -/
theorem Inv.alike (hi : Inv p) (hcore : handle.Inv 0 s.core)
    (hcheck : .check_signals ∉ s.core.frames) (halike : Alike p.proc.core s.core)
    (hwatch : s.watch.callback = p.proc.watch.callback)
    (hsettled : p.spawned = true → p.exits = 0 → s.core.finishes = 0) :
    Inv { p with proc := s } where
  core := hcore
  no_check := hcheck
  pyref := halike.pyref.trans hi.pyref
  exit_ref := by
    rw [halike.exit_ref, halike.exiting]
    exact hi.exit_ref
  initialized hs := halike.initialized.trans (hi.initialized hs)
  exits_le := hi.exits_le
  exiting_le := halike.exiting.trans_le hi.exiting_le
  called_for_exit := by
    rw [hwatch]
    exact hi.called_for_exit
  settled := hsettled

/-! ## Each step keeps the invariant -/

theorem spawn_inv {callback : CallbackArg} {prepared : Bool} {uv : Int} (hi : Inv p)
    (hstep : watchers.step .Process p.proc (.spawn callback prepared uv) = some t) :
    Inv (note p t (.spawn callback prepared uv)) := by
  have hkeeps := step_keeps (by decide) hi.core hi.no_check hstep
  simp only [watchers.step, Option.ite_none_right_eq_some, Option.some.injEq] at hstep
  obtain ⟨⟨-, hfresh, -⟩, hstep⟩ := hstep
  have hnew : p.spawned = false := by
    cases hs : p.spawned with
    | false => rfl
    | true =>
      have hinit := hi.initialized hs
      rw [hfresh] at hinit
      cases hinit
  have hnone : p.exits = 0 := by
    have hle := hi.exits_le
    rw [hnew, Bool.toNat_false] at hle
    omega
  have hcalls : p.exit_calls = 0 := by
    rw [hi.called_for_exit, hnone, ite_self]
  -- the object that a failure drops has no references of pyuv
  have hfailed : ∀ h : Handle, h.pyref = false → h.exit_ref = false → exiting h.frames = 0 →
      prepared = false ∨ uv < 0 → t.core = Py_DECREF h →
      Inv (note p t (.spawn callback prepared uv)) := by
    intro h hpyref hexit hexiting hfails ht
    have halike := Py_DECREF_alike h
    rw [← ht] at halike
    have hs : (prepared && decide (0 ≤ uv)) = false := by
      rcases hfails with hprep | huv
      · rw [hprep, Bool.false_and]
      · rw [decide_eq_false (by omega), Bool.and_false]
    refine ⟨hkeeps.1, hkeeps.2, halike.pyref.trans hpyref, ?_, ?_, ?_, ?_, ?_, ?_⟩ <;>
      simp only [note, hs, hnone, hcalls, Bool.false_and, Bool.toNat_false, ite_self]
    · rw [halike.exit_ref, hexit, halike.exiting, hexiting]
      rfl
    · exact fun hfalse => absurd hfalse Bool.false_ne_true
    · exact le_refl 0
    · exact halike.exiting.trans_le hexiting.le
    · exact fun hfalse => absurd hfalse Bool.false_ne_true
  unfold Process_func_spawn at hstep
  rw [hfresh] at hstep
  dsimp only at hstep
  split at hstep
  · rename_i hprep
    apply hfailed { fresh p.proc.core.finalizer with user := 0 } rfl rfl rfl
    · exact Or.inl (by simpa using hprep)
    · rw [← hstep]
      rfl
  · split at hstep
    · rename_i huv
      apply hfailed { fresh p.proc.core.finalizer with user := 0, initialized := true } rfl rfl rfl
      · exact Or.inr huv
      · rw [← hstep]
        rfl
    · rename_i hprep huv
      have hs : (prepared && decide (0 ≤ uv)) = true := by
        rw [Bool.and_eq_true]
        exact ⟨by simpa using hprep, decide_eq_true (by omega)⟩
      have halike := Py_INCREF_alike
        { initialize_handle (fresh p.proc.core.finalizer) with
          initialized := true, exit_ref := true }
      rw [← hstep] at hkeeps ⊢
      refine ⟨hkeeps.1, hkeeps.2, halike.pyref, ?_, fun _ => halike.initialized, ?_, ?_, ?_, ?_⟩ <;>
        simp only [note, hs, hnone, hcalls, ite_self]
      · exact congrArg₂ (fun r n => Bool.toNat r = 1 + n) halike.exit_ref halike.exiting ▸ rfl
      · exact Nat.zero_le _
      · exact halike.exiting.trans_le (le_refl 0)
      · exact fun _ _ => (Py_INCREF.kept _).finishes

/-- libuv has the exit callback to call. -/
theorem Inv.owes_exit (hi : Inv p) (href : p.proc.core.exit_ref = true)
    (hnone : exiting p.proc.core.frames = 0) : p.spawned = true ∧ p.exits = 0 := by
  have howed := hi.exit_ref
  rw [href, hnone, Bool.toNat_true, Nat.add_zero] at howed
  cases hs : p.spawned with
  | false => simp [hs] at howed
  | true =>
    refine ⟨rfl, ?_⟩
    by_contra hz
    simp [hz] at howed

theorem exit_inv {ev : Event} (hi : Inv p)
    (hstep : watchers.step .Process p.proc (.event ev) = some t) : Inv (note p t (.event ev)) := by
  have hkeeps := step_keeps (by decide) hi.core hi.no_check hstep
  simp only [watchers.step, Option.ite_none_right_eq_some, Option.some.injEq] at hstep
  obtain ⟨⟨-, -, hdue⟩, hstep⟩ := hstep
  have hexit : ev = .exit ∧ p.proc.core.exit_ref = true ∧ .exit_cb ∉ p.proc.core.frames := by
    cases ev <;> simp [Event.due, Kind.loop_watcher, Kind.stream] at hdue ⊢
    exact hdue
  obtain ⟨rfl, href, hnone⟩ := hexit
  have hexiting : exiting p.proc.core.frames = 0 := List.count_eq_zero.mpr hnone
  obtain ⟨hs, hzero⟩ := hi.owes_exit href hexiting
  have hcalls := hi.called_for_exit
  rw [hzero, ite_self] at hcalls
  simp only [Event.begin, pyuv__process_exit_cb] at hstep
  split at hstep
  · rename_i hcallable
    have hone : exiting (.exit_cb :: p.proc.core.frames) = 1 := by
      rw [exiting, List.count_cons_self]
      exact congrArg (· + 1) hexiting
    rw [← hstep] at hkeeps ⊢
    refine ⟨hkeeps.1, hkeeps.2, hi.pyref, ?_, hi.initialized, ?_, ?_, ?_, ?_⟩ <;>
      simp only [note, hzero, hcalls, hcallable, hs, href, hone]
    · simp
    · rfl
    · exact le_refl 1
    · rfl
    · simp
  · rename_i hcallable
    -- no Python code runs, the reference goes at once
    have halike := Py_DECREF_alike { p.proc.core with exit_ref := false }
    have hexiting' := halike.exiting.trans hexiting
    rw [← hstep] at hkeeps ⊢
    refine ⟨hkeeps.1, hkeeps.2, halike.pyref.trans hi.pyref, ?_,
      fun hs => halike.initialized.trans (hi.initialized hs), ?_, ?_, ?_, ?_⟩ <;>
      simp only [note, hzero, hcalls, hs, pyuv__process_exit_cb_end, halike.exit_ref, hexiting']
    · simp
    · rfl
    · exact Nat.zero_le _
    · simp [hcallable]
    · simp

theorem ret_inv (hi : Inv p) (hexit : ¬forgets_exit p (.other .ret))
    (hstep : watchers.step .Process p.proc .ret = some t) : Inv (note p t .ret) := by
  have hkeeps := step_keeps (by decide) hi.core hi.no_check hstep
  simp only [watchers.step] at hstep
  split at hstep
  · cases hstep
  · rename_i f fs hf
    have hcheck := hi.no_check
    have hpop : f ≠ .exit_cb → exiting fs = exiting p.proc.core.frames := by
      intro hne
      rw [exiting, exiting, hf, List.count_cons_of_ne hne]
    have hdecref : ∀ w : Watch, w.callback = p.proc.watch.callback → f ≠ .exit_cb →
        t = ⟨Py_DECREF { p.proc.core with frames := fs }, w⟩ → Inv (note p t .ret) := by
      intro w hw hne ht
      have halike := Py_DECREF_alike { p.proc.core with frames := fs }
      have hfin := (Py_DECREF.kept { p.proc.core with frames := fs }).finishes
      subst ht
      exact hi.alike hkeeps.1 hkeeps.2
        ⟨halike.pyref, halike.initialized, halike.exit_ref, halike.exiting.trans (hpop hne)⟩ hw
        (fun hs hz => hfin.trans (hi.settled hs hz))
    cases f with
    | event => exact hdecref _ rfl (by decide) (Option.some.inj hstep).symm
    | request => exact hdecref _ rfl (by decide) (Option.some.inj hstep).symm
    | finalizer => exact hdecref _ rfl (by decide) (Option.some.inj hstep).symm
    | read_eof =>
      exact hdecref { p.proc.watch with reading := false } rfl (by decide)
        (Option.some.inj hstep).symm
    | read_error =>
      refine hdecref (uv_read_stop p.proc.watch) ?_ (by decide) (Option.some.inj hstep).symm
      unfold uv_read_stop
      split <;> rfl
    | check_signals => exact absurd (hf ▸ List.mem_cons_self) hcheck
    | close_cb =>
      cases hstep
      have halike :=
        pyuv__handle_close_cb_end_alike (h := { p.proc.core with frames := fs }) hi.pyref
      refine hi.alike hkeeps.1 hkeeps.2 ⟨halike.pyref, halike.initialized, halike.exit_ref,
        halike.exiting.trans (hpop (by decide))⟩ rfl (fun hs hz => ?_)
      exact absurd ⟨by simp [ends_close, hf], hs, hz⟩ hexit
    | exit_cb =>
      cases hstep
      have hexits := hi.exit_ref
      have hle := Bool.toNat_le p.proc.core.exit_ref
      rw [exiting, hf, List.count_cons_self] at hexits
      have hnone : exiting fs = 0 := by
        unfold exiting
        omega
      have halike := Py_DECREF_alike { p.proc.core with frames := fs, exit_ref := false }
      have hfin := (Py_DECREF.kept { p.proc.core with frames := fs, exit_ref := false }).finishes
      refine ⟨hkeeps.1, hkeeps.2, halike.pyref.trans hi.pyref, ?_,
        fun hs => halike.initialized.trans (hi.initialized hs), hi.exits_le, ?_,
        hi.called_for_exit, fun hs hz => hfin.trans (hi.settled hs hz)⟩
      · have howed : (p.spawned && decide (p.exits = 0)).toNat = 0 := by omega
        have href := congrArg Bool.toNat halike.exit_ref
        have hexiting := halike.exiting.trans hnone
        change (Py_DECREF { p.proc.core with frames := fs, exit_ref := false }).exit_ref.toNat =
          (p.spawned && decide (p.exits = 0)).toNat +
            exiting (Py_DECREF { p.proc.core with frames := fs, exit_ref := false }).frames
        rw [href, hexiting, howed]
        rfl
      · exact (halike.exiting.trans hnone).trans_le (Nat.zero_le _)

theorem finish_close_inv (hi : Inv p) (hexit : ¬forgets_exit p (.other .finish_close))
    (hstep : watchers.step .Process p.proc .finish_close = some t) :
    Inv (note p t .finish_close) := by
  have hkeeps := step_keeps (by decide) hi.core hi.no_check hstep
  simp only [watchers.step, Option.ite_none_right_eq_some, Option.some.injEq] at hstep
  obtain ⟨⟨hc, -⟩, rfl⟩ := hstep
  refine hi.alike hkeeps.1 hkeeps.2 (uv__finish_close_alike hi.pyref) rfl (fun hs hz => ?_)
  by_cases hasks : asks p.proc.core
  · exact (uv__finish_close_asks hasks).trans (hi.settled hs hz)
  · exact absurd ⟨hasks, hs, hz⟩ hexit

theorem call_inv {c : Call} (hi : Inv p)
    (hstep : watchers.step .Process p.proc (.call c) = some t) : Inv (note p t (.call c)) := by
  have hkeeps := step_keeps (by decide) hi.core hi.no_check hstep
  simp only [watchers.step, Option.ite_none_right_eq_some] at hstep
  obtain ⟨⟨-, hmethod⟩, hcall⟩ := hstep
  have hclose : ∃ callback, c = .close callback := by
    cases c <;> simp [Call.method_of, Kind.loop_watcher, Kind.stream] at hmethod ⊢
  obtain ⟨callback, rfl⟩ := hclose
  have ht : (func_close .Process p.proc callback).2 = t := returned_eq_some hcall
  subst ht
  unfold func_close at hkeeps ⊢
  split at hkeeps
  · rename_i huninit
    rw [if_pos huninit]
    exact hi
  · rename_i hinit
    rw [if_neg hinit]
    have hfin : (Handle_func_close p.proc.core callback).2.finishes = p.proc.core.finishes :=
      (Effect.close callback).apart.finishes
    exact hi.alike hkeeps.1 hkeeps.2 (Handle_func_close_alike _ callback) rfl
      (fun hs hz => hfin.trans (hi.settled hs hz))

/-- The user takes or drops a reference. -/
theorem user_inv {n : Nat} {op : Handle → Handle} (hi : Inv p)
    (halike : ∀ h, Alike h (op h)) (hfin : ∀ h, (op h).finishes = h.finishes)
    (ht : t = { p.proc with core := op { p.proc.core with user := n } })
    (hkeeps : handle.Inv 0 t.core ∧ .check_signals ∉ t.core.frames) :
    Inv { p with proc := t } := by
  subst ht
  have ha := halike { p.proc.core with user := n }
  exact hi.alike hkeeps.1 hkeeps.2 ⟨ha.pyref, ha.initialized, ha.exit_ref, ha.exiting⟩ rfl
    (fun hs hz => (hfin _).trans (hi.settled hs hz))

theorem step_inv {a : Act} (hi : Inv p) (hexit : ¬forgets_exit p a) (hstep : step p a = some q) :
    Inv q := by
  cases a with
  | kill uv =>
    simp only [step, Option.ite_none_right_eq_some, Option.map_eq_some_iff] at hstep
    obtain ⟨-, t, ht, rfl⟩ := hstep
    -- the signal leaves the handle as it is
    have hsame : (Process_func_kill p.proc uv).2 = p.proc := by
      unfold Process_func_kill
      split
      · rfl
      · split <;> rfl
    rw [← returned_eq_some ht, hsame]
    exact hi
  | other a =>
    simp only [step, Option.map_eq_some_iff] at hstep
    obtain ⟨t, ht, rfl⟩ := hstep
    have hkeeps := step_keeps (by decide) hi.core hi.no_check ht
    cases a with
    | tp_init callback uv => simp [watchers.step] at ht
    | spawn callback prepared uv => exact spawn_inv hi ht
    | call c => exact call_inv hi ht
    | event ev => exact exit_inv hi ht
    | ret => exact ret_inv hi hexit ht
    | finish_close => exact finish_close_inv hi hexit ht
    | incref =>
      simp only [watchers.step, Option.ite_none_right_eq_some, Option.some.injEq] at ht
      exact user_inv hi Py_INCREF_alike (fun h => (Py_INCREF.kept h).finishes) ht.2.symm hkeeps
    | decref =>
      simp only [watchers.step, Option.ite_none_right_eq_some, Option.some.injEq] at ht
      exact user_inv hi Py_DECREF_alike (fun h => (Py_DECREF.kept h).finishes) ht.2.symm hkeeps
    | loop_handles =>
      simp only [watchers.step, Option.ite_none_right_eq_some, Option.some.injEq] at ht
      exact user_inv hi Py_INCREF_alike (fun h => (Py_INCREF.kept h).finishes) ht.2.symm hkeeps

/-! ## Runs -/

theorem tp_new_inv (finalizer : Finalizer) : Inv (tp_new finalizer) := by
  refine ⟨fresh_inv finalizer, List.not_mem_nil, rfl, rfl, ?_, le_refl 0, le_refl 0, rfl, ?_⟩ <;>
    exact fun hs => absurd hs Bool.false_ne_true

/-- The close is over, and the reference of spawn is still there. -/
theorem not_balanced_of_forgotten (hi : Inv p) (hs : p.spawned = true) (hz : p.exits = 0)
    (hcore : handle.Inv 0 s.core) (halike : Alike p.proc.core s.core)
    (hfin : 0 < s.core.finishes) : ¬Balanced { p with proc := s } := by
  intro hbalanced
  have hrefs := hcore.refs
  have hexits := hi.exit_ref
  have hle := Bool.toNat_le p.proc.core.exit_ref
  have hexiting := halike.exiting
  simp only [hs, hz, decide_true, Bool.and_self, Bool.toNat_true] at hexits
  have howed : exit_owed { p with proc := s } = 0 := if_neg (fun h => Nat.ne_of_gt hfin h.2.2)
  have hbal := hbalanced.refs
  simp only [howed, Nat.zero_add] at hbal
  simp only [Handle.owned, halike.exit_ref] at hrefs
  omega

theorem not_balanced_of_forgets {a : Act} (hi : Inv p) (hexit : forgets_exit p a)
    (hstep : step p a = some q) : ¬Balanced q := by
  obtain ⟨hends, hs, hz⟩ := hexit
  cases a with
  | kill uv => exact hends.elim
  | other a =>
    simp only [step, Option.map_eq_some_iff] at hstep
    obtain ⟨t, ht, rfl⟩ := hstep
    have hkeeps := step_keeps (by decide) hi.core hi.no_check ht
    cases a with
    | finish_close =>
      simp only [watchers.step, Option.ite_none_right_eq_some, Option.some.injEq] at ht
      obtain ⟨⟨hc, -⟩, rfl⟩ := ht
      apply not_balanced_of_forgotten hi hs hz hkeeps.1 (uv__finish_close_alike hi.pyref)
      have hover := uv__finish_close_finishes hi.core hc hends
      exact hover ▸ Nat.succ_pos _
    | ret =>
      simp only [watchers.step] at ht
      split at ht
      · cases ht
      · rename_i f fs hf
        have hcb : f = .close_cb := by simpa [ends_close, hf] using hends
        subst hcb
        cases ht
        have halike :=
          pyuv__handle_close_cb_end_alike (h := { p.proc.core with frames := fs }) hi.pyref
        have hpop : exiting fs = exiting p.proc.core.frames := by
          rw [exiting, exiting, hf, List.count_cons_of_ne (by decide)]
        apply not_balanced_of_forgotten hi hs hz hkeeps.1
          ⟨halike.pyref, halike.initialized, halike.exit_ref, halike.exiting.trans hpop⟩
        have hover := pyuv__handle_close_cb_end_finishes { p.proc.core with frames := fs }
        exact hover ▸ Nat.succ_pos _
    | _ => exact hends.elim

/-- The reference that spawn takes is released once, by the exit or the close, and the
exit is told once, if and only if in no step of the run the close of a spawned process
ends before libuv has called for its exit. -/
theorem spawn_reference_is_released_iff (finalizer : Finalizer) (as : List Act) :
    runs.Always step Balanced (tp_new finalizer) as ↔
    runs.Meets step (fun p a => ¬forgets_exit p a) (tp_new finalizer) as := by
  have hinv : ∀ p a q, Inv p → ¬forgets_exit p a → step p a = some q → Inv q :=
    fun p a q hi hexit hstep => step_inv hi hexit hstep
  have hiff : ∀ p a q, Inv p → step p a = some q → (Balanced q ↔ ¬forgets_exit p a) := by
    intro p a q hi hstep
    constructor
    · intro hbalanced hexit
      exact not_balanced_of_forgets hi hexit hstep hbalanced
    · intro hexit
      exact (step_inv hi hexit hstep).balanced
  exact runs.always_iff_meets hinv hiff as (tp_new_inv finalizer) (tp_new_inv finalizer).balanced

/-- proc = Process.spawn(loop, args=[..], exit_callback=cb); proc.close(); loop.run(). The
object is left with a reference that nobody will drop. -/
theorem a_closed_process_is_never_freed :
    ∃ as p, runs.exec step (tp_new .none) as = some p ∧ p.proc.core.finishes = 1 ∧
      p.proc.core.user = 0 ∧ p.proc.core.frames = [] ∧ p.proc.core.refcnt = 1 ∧
      ¬runs.Always step Balanced (tp_new .none) as := by
  let as : List Act := [.other (.spawn .callable true 0), .other (.call (.close .Py_None)),
    .other .finish_close, .other .decref]
  refine ⟨as, _, rfl, rfl, rfl, rfl, rfl, fun h => ?_⟩
  have hlast := runs.always_iff_exec.mp h as _ (List.prefix_refl as) rfl
  exact absurd (hlast.after_close rfl) (by decide)

end

end pyuv.process
