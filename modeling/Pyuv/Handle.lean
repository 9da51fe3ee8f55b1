-- A handle object and its libuv handle (src/handle.c): one reference count
-- shared by the user, the running callbacks, the flag PYUV__PYREF and the close
-- under way. What each function does to the count is one lemma, and the
-- invariant says whose every reference is.
import Mathlib.Data.List.Count
import Pyuv.PyObjects

set_option linter.style.nameCheck false

namespace pyuv.handle

/-! ## The object -/

/-- What a call gives back to Python. An assertion that fails ends the process. -/
inductive Ret where
  | ok
  | raise (e : PyErr)
  | abort
deriving DecidableEq, Repr

/-- A C function of the extension that waits for Python code to return. `event`
is a trampoline that has taken its own reference, `read_eof` and `read_error`
are the read trampoline with more to do in libuv, `request` is the completion
callback of a request, `exit_cb` the exit callback of a process, `check_signals`
that of a SignalChecker. -/
inductive Frame where
  | event
  | request
  | read_eof
  | read_error
  | finalizer
  | close_cb
  | exit_cb
  | check_signals
deriving DecidableEq, Repr

/-- The frame holds a reference to the handle. -/
def Frame.holds : Frame → Bool
  | .event | .request | .read_eof | .read_error | .finalizer => true
  | .close_cb | .exit_cb | .check_signals => false

/-- The Python code that the frame waits for was given the handle. -/
def Frame.self_passed : Frame → Bool
  | .event | .request | .read_eof | .read_error | .finalizer | .close_cb | .exit_cb => true
  | .check_signals => false

/-- A `__del__` of a subclass runs at most once. -/
inductive Finalizer where
  | none
  | pending
  | done
deriving DecidableEq, Repr

/-- The callback that uv_close was given. -/
inductive CloseCb where
  | pyuv__handle_close_cb
  | pyuv__handle_dealloc_close_cb
deriving DecidableEq, Repr

/-- A handle with the C fields that decide over its life, the owners of its
references, and what has happened to it so far. -/
structure Handle where
  refcnt : Nat
  finalizer : Finalizer
  initialized : Bool
  -- PYUV__PYREF in `flags`
  pyref : Bool
  -- NULL, or whether it is a callable and not Py_None
  on_close_cb : Option Bool
  -- UV_CLOSING, then UV_CLOSED and out of the handle queue of the loop
  closing : Bool
  closed : Bool
  close_cb : Option CloseCb
  user : Nat
  frames : List Frame
  -- the reference that Process.spawn takes until the exit callback
  exit_ref : Bool
  uv_closes : Nat
  close_calls : Nat
  -- a successful close() was given a callable
  close_asked : Bool
  user_closes : Nat
  -- libuv's close callbacks that have run to their end
  finishes : Nat
  frees : Nat
  -- an operation has touched the object after it was freed
  bad : Bool
deriving DecidableEq, Repr

/-- The object as tp_new gives it to its creator. -/
def fresh (finalizer : Finalizer) : Handle where
  refcnt := 1
  finalizer := finalizer
  initialized := false
  pyref := false
  on_close_cb := none
  closing := false
  closed := false
  close_cb := none
  user := 1
  frames := []
  exit_ref := false
  uv_closes := 0
  close_calls := 0
  close_asked := false
  user_closes := 0
  finishes := 0
  frees := 0
  bad := false

/-! ## The functions of handle.c and the macros of pyuv.h -/

/-- Closed counts as closing. -/
def uv_is_closing (h : Handle) : Bool := h.closing || h.closed

/-- libuv's uv_close. That it is not closing already is an assertion of libuv. -/
def uv_close (h : Handle) (cb : CloseCb) : Handle :=
  { h with closing := true, close_cb := some cb, uv_closes := h.uv_closes + 1 }

/-- A freed object must not be touched. -/
def Py_INCREF (h : Handle) : Handle :=
  if h.refcnt = 0 then { h with bad := true } else { h with refcnt := h.refcnt + 1 }

/-- Runs with a reference count of 0. The handle is closed and lives on until
libuv is done, or its memory is freed. -/
def Handle_tp_dealloc (h : Handle) : Handle :=
  if h.initialized && !uv_is_closing h then
    { uv_close h .pyuv__handle_dealloc_close_cb with refcnt := 1 }
  else
    { h with frees := h.frees + 1 }

/-- CPython's dealloc of a class with a `__del__`: that runs first, on a reference
of the interpreter. -/
def subtype_dealloc (h : Handle) : Handle :=
  match h.finalizer with
  | .pending => { h with refcnt := 1, finalizer := .done, frames := .finalizer :: h.frames }
  | .none | .done => Handle_tp_dealloc h

/-- With the last reference the object is deallocated. -/
def Py_DECREF (h : Handle) : Handle :=
  if h.refcnt = 0 then { h with bad := true }
  else if h.refcnt = 1 then subtype_dealloc { h with refcnt := 0 }
  else { h with refcnt := h.refcnt - 1 }

/-- The reference comes with the flag, and only once. -/
def PYUV_HANDLE_INCREF (h : Handle) : Handle :=
  if h.pyref then h else Py_INCREF { h with pyref := true }

/-- The reference goes with the flag. -/
def PYUV_HANDLE_DECREF (h : Handle) : Handle :=
  if h.pyref then Py_DECREF { h with pyref := false } else h

/-- The flags are cleared with no look at what they stand for. -/
def initialize_handle (h : Handle) : Handle :=
  { h with pyref := false, initialized := true }

/-- RAISE_IF_HANDLE_NOT_INITIALIZED and RAISE_IF_HANDLE_CLOSED: the first lines of
nearly every method. -/
def check_open (h : Handle) : Option PyErr :=
  if !h.initialized then some .not_initialized
  else if uv_is_closing h then some .handle_closed
  else none

/-- The callback is stored, and a reference is taken until libuv has closed the handle. -/
def Handle_func_close (h : Handle) (callback : CallbackArg) : Ret × Handle :=
  match check_open h with
  | some e => (.raise e, h)
  | none =>
    if callback = .other then
      (.raise (.text .TypeError "a callable or None is required"), h)
    else
      let h := { h with on_close_cb := some (callback = .callable),
                        close_calls := h.close_calls + 1,
                        close_asked := decide (callback = .callable) }
      let h := Py_INCREF h
      (.ok, uv_close h .pyuv__handle_close_cb)

/-- The end of pyuv__handle_close_cb, after the user's callback if there is one. -/
def pyuv__handle_close_cb_end (h : Handle) : Handle :=
  let h := { h with on_close_cb := none }
  let h := PYUV_HANDLE_DECREF h
  Py_DECREF { h with finishes := h.finishes + 1 }

/-- The callback of the user is called, if there is one, and the rest follows when it returns. -/
def pyuv__handle_close_cb (h : Handle) : Handle :=
  if h.on_close_cb = some true then
    { h with user_closes := h.user_closes + 1, frames := .close_cb :: h.frames }
  else pyuv__handle_close_cb_end h

/-- The reference that the dealloc gave the object goes, and its memory with it. -/
def pyuv__handle_dealloc_close_cb (h : Handle) : Handle :=
  Py_DECREF { h with finishes := h.finishes + 1 }

/-- libuv's uv__finish_close. -/
def uv__finish_close (h : Handle) : Handle :=
  let h := { h with closed := true }
  match h.close_cb with
  | some .pyuv__handle_close_cb => pyuv__handle_close_cb h
  | some .pyuv__handle_dealloc_close_cb => pyuv__handle_dealloc_close_cb h
  | none => h

/-! ## Whose the references are -/

/-- How many of the frames hold a reference. -/
def held (frames : List Frame) : Nat := frames.countP Frame.holds

/-- The reference that keeps a closing handle until libuv's close callback ends. -/
def Handle.close_ref (h : Handle) : Nat := if h.closing && decide (h.finishes = 0) then 1 else 0

/-- The references that have an owner in the model of a single handle. -/
def Handle.owned (h : Handle) : Nat :=
  h.user + held h.frames + h.pyref.toNat + h.exit_ref.toNat + h.close_ref

/-- Every reference has its owner, `extra` of them outside this model, and the
life of the handle goes one way. -/
structure Inv (extra : Nat) (h : Handle) : Prop where
  refs : h.refcnt = h.owned + extra
  alive : h.bad = false
  one_close : h.uv_closes = h.closing.toNat
  closing_initialized : h.closing = true → h.initialized = true
  closed_closing : h.closed = true → h.closing = true
  pyref_initialized : h.pyref = true → h.initialized = true
  close_frame : h.frames.count .close_cb ≤ (h.closed && decide (h.finishes = 0)).toNat
  exit_frame : h.frames.count .exit_cb ≤ h.exit_ref.toNat
  finish_once : h.finishes ≤ h.closed.toNat
  finish_pyref : h.finishes = 1 → h.pyref = false
  close_kind : h.closing = true → h.close_cb = some .pyuv__handle_close_cb ∧ h.close_calls = 1 ∨
    h.close_cb = some .pyuv__handle_dealloc_close_cb ∧ h.close_calls = 0
  not_closing : h.closing = false → h.close_cb = none ∧ h.close_calls = 0
  asked_call : h.close_asked = true → h.close_calls = 1
  dealloc_pyref : h.close_cb = some .pyuv__handle_dealloc_close_cb → h.pyref = false
  pending_cb : h.close_cb = some .pyuv__handle_close_cb → h.closed = false →
    h.on_close_cb = some h.close_asked
  user_close : h.user_closes = (h.close_asked && h.closed).toNat
  freed_once : h.frees = (decide (h.refcnt = 0)).toNat
  freed_closed : h.refcnt = 0 → h.initialized = true → h.finishes = 1

/-! ## What each function does to the invariant -/

theorem fresh_inv (finalizer : Finalizer) : Inv 0 (fresh finalizer) := by
  constructor <;> simp [fresh, Handle.owned, Handle.close_ref, held]

section

variable {h : Handle} {e : Nat}

theorem Inv.closed_of_open (hi : Inv e h) (hc : h.closing = false) : h.closed = false := by
  cases hd : h.closed
  · rfl
  · simpa [hc] using hi.closed_closing hd

theorem Inv.finishes_of_open (hi : Inv e h) (hc : h.closing = false) : h.finishes = 0 := by
  simpa [hi.closed_of_open hc] using hi.finish_once

theorem Py_INCREF_eq (hpos : 0 < h.refcnt) : Py_INCREF h = { h with refcnt := h.refcnt + 1 } := by
  rw [Py_INCREF, if_neg (Nat.ne_of_gt hpos)]

/-- A reference more, for a handle that is alive. -/
theorem Py_INCREF.spec (hi : Inv e h) (hpos : 0 < h.refcnt) : Inv (e + 1) (Py_INCREF h) := by
  have hrefs := hi.refs
  have hfreed := hi.freed_once
  rw [Py_INCREF_eq hpos]
  refine { hi with refs := ?_, freed_once := ?_, freed_closed := ?_ }
  · simp only [Handle.owned, Handle.close_ref] at hrefs ⊢
    omega
  · simp only [hfreed]
    simp [Nat.ne_of_gt hpos]
  · intro hzero
    simp at hzero

/-- What dropping a reference can do, in four cases: there are others left, a
`__del__` runs, the open handle is closed and lives on, or the memory is freed. -/
theorem Py_DECREF_cases (hpos : 0 < h.refcnt) :
    (1 < h.refcnt ∧ Py_DECREF h = { h with refcnt := h.refcnt - 1 }) ∨
    (h.refcnt = 1 ∧ h.finalizer = .pending ∧
      Py_DECREF h = { h with finalizer := .done, frames := .finalizer :: h.frames }) ∨
    (h.refcnt = 1 ∧ h.initialized = true ∧ h.closing = false ∧ h.closed = false ∧
      Py_DECREF h = { h with closing := true, close_cb := some .pyuv__handle_dealloc_close_cb,
                             uv_closes := h.uv_closes + 1 }) ∨
    (h.refcnt = 1 ∧ (h.initialized = true → uv_is_closing h = true) ∧
      Py_DECREF h = { h with refcnt := 0, frees := h.frees + 1 }) := by
  by_cases hone : h.refcnt = 1
  · have hdealloc : Py_DECREF h = subtype_dealloc { h with refcnt := 0 } := by
      simp [Py_DECREF, hone]
    rw [hdealloc]
    by_cases hpending : h.finalizer = .pending
    · refine Or.inr (Or.inl ⟨hone, hpending, ?_⟩)
      simp [subtype_dealloc, hpending, hone]
    · have htp : subtype_dealloc { h with refcnt := 0 } =
        Handle_tp_dealloc { h with refcnt := 0 } := by
        unfold subtype_dealloc
        split
        · contradiction
        · rfl
        · rfl
      rw [htp]
      by_cases hopen : h.initialized = true ∧ uv_is_closing h = false
      · obtain ⟨hc, hd⟩ : h.closing = false ∧ h.closed = false := by
          simpa [uv_is_closing] using hopen.2
        refine Or.inr (Or.inr (Or.inl ⟨hone, hopen.1, hc, hd, ?_⟩))
        simp [Handle_tp_dealloc, uv_is_closing, uv_close, hopen.1, hc, hd, hone]
      · refine Or.inr (Or.inr (Or.inr ⟨hone, fun hinit => ?_, ?_⟩))
        · simpa [hinit] using hopen
        · unfold Handle_tp_dealloc
          rw [if_neg (by simpa [uv_is_closing] using hopen)]
  · refine Or.inl ⟨by omega, ?_⟩
    simp [Py_DECREF, hone, Nat.ne_of_gt hpos]

/-- Dropping a reference with an owner that gives it up keeps the invariant. In
particular the last one is not dropped while libuv still has the handle open. -/
theorem Py_DECREF.spec (hi : Inv (e + 1) h) : Inv e (Py_DECREF h) := by
  have hrefs := hi.refs
  have hfreed := hi.freed_once
  have hpos : 0 < h.refcnt := by omega
  rcases Py_DECREF_cases hpos with ⟨hmany, heq⟩ | ⟨hone, hpending, heq⟩ |
    ⟨hone, hinit, hclosing, hclosed, heq⟩ | ⟨hone, hclosing, heq⟩ <;> rw [heq]
  · refine { hi with refs := ?_, freed_once := ?_, freed_closed := ?_ }
    · simp only [Handle.owned, Handle.close_ref] at hrefs ⊢
      omega
    · rw [hfreed]
      simp [Nat.ne_of_gt hpos, Nat.sub_ne_zero_of_lt hmany]
    · intro hzero
      simp only at hzero
      omega
  · -- the reference of the interpreter takes the place of the last one
    refine { hi with refs := ?_, close_frame := ?_, exit_frame := ?_ }
    · simp only [Handle.owned, Handle.close_ref, held, List.countP_cons, Frame.holds] at hrefs ⊢
      simp only [if_true]
      omega
    · simpa using hi.close_frame
    · simpa using hi.exit_frame
  · -- no owner is left, so the close under way is the only one
    have hnone : h.owned = 0 := by omega
    simp only [Handle.owned] at hnone
    have hfin : h.finishes = 0 := hi.finishes_of_open hclosing
    have hpyref : h.pyref = false := Bool.toNat_eq_zero.mp (by omega)
    refine { hi with
      refs := ?_, one_close := ?_, closing_initialized := fun _ => hinit,
      closed_closing := fun _ => rfl,
      close_kind := fun _ => Or.inr ⟨rfl, (hi.not_closing hclosing).2⟩,
      not_closing := ?_, dealloc_pyref := fun _ => hpyref, pending_cb := ?_ }
    · simp only [Handle.owned, Handle.close_ref, hfin]
      simp only [Handle.owned, Handle.close_ref] at hrefs
      simp
      omega
    · simp [hi.one_close, hclosing]
    · intro hfalse
      cases hfalse
    · intro hcb
      cases hcb
  · refine { hi with refs := ?_, freed_once := ?_, freed_closed := ?_ }
    · simp only [Handle.owned, Handle.close_ref] at hrefs ⊢
      omega
    · simp [hfreed, hone]
    · intro _ hinit
      -- a closing handle whose close is not finished would own a reference
      have hnone : h.owned = 0 := by omega
      have hc : h.closing = true := by
        rcases Bool.or_eq_true _ _ ▸ hclosing hinit with hc | hd
        · exact hc
        · exact hi.closed_closing hd
      have hle := hi.finish_once
      have hle1 : h.closed.toNat ≤ 1 := Bool.toNat_le h.closed
      simp only [Handle.owned, Handle.close_ref, hc, Bool.true_and] at hnone
      by_cases hfin : h.finishes = 0
      · simp [hfin] at hnone
      · simp only
        omega

theorem PYUV_HANDLE_INCREF.spec (hi : Inv e h) (hpos : 0 < h.refcnt)
    (hinit : h.initialized = true) (hc : h.closing = false) : Inv e (PYUV_HANDLE_INCREF h) := by
  unfold PYUV_HANDLE_INCREF
  split
  · exact hi
  · rename_i hpyref
    have hrefs := hi.refs
    have hcb := (hi.not_closing hc).1
    have hfin : h.finishes = 0 := hi.finishes_of_open hc
    rw [Py_INCREF_eq (h := { h with pyref := true }) hpos]
    refine { hi with
      refs := ?_, pyref_initialized := fun _ => hinit, finish_pyref := ?_, dealloc_pyref := ?_,
      freed_once := ?_, freed_closed := ?_ }
    · simp only [Handle.owned, Handle.close_ref] at hrefs ⊢
      simp only [hpyref, Bool.toNat_true, Bool.toNat_false] at hrefs ⊢
      omega
    · intro hone
      simp only at hone
      omega
    · intro hdealloc
      simp [hcb] at hdealloc
    · simpa [Nat.ne_of_gt hpos] using hi.freed_once
    · intro hzero
      simp at hzero

/-- The flag is one reference: with the flag gone it has no owner. -/
theorem Inv.drop_pyref (hi : Inv e h) (hpyref : h.pyref = true) :
    Inv (e + 1) { h with pyref := false } := by
  have hrefs := hi.refs
  refine { hi with
    refs := ?_, pyref_initialized := ?_, finish_pyref := fun _ => rfl, dealloc_pyref :=
      fun _ => rfl }
  · simp only [Handle.owned, Handle.close_ref] at hrefs ⊢
    simp only [hpyref, Bool.toNat_true, Bool.toNat_false] at hrefs ⊢
    omega
  · intro hfalse
    cases hfalse

theorem PYUV_HANDLE_DECREF.spec (hi : Inv e h) : Inv e (PYUV_HANDLE_DECREF h) := by
  unfold PYUV_HANDLE_DECREF
  split
  · rename_i hpyref
    exact Py_DECREF.spec (hi.drop_pyref hpyref)
  · exact hi

/-- The initialisation of a new handle takes no reference. -/
theorem initialize_handle.spec (hi : Inv e h) (hpos : 0 < h.refcnt) (hnew : h.initialized = false) :
    Inv e (initialize_handle h) := by
  have hpyref : h.pyref = false := by
    cases hp : h.pyref
    · rfl
    · simpa [hnew] using hi.pyref_initialized hp
  have heq : initialize_handle h = { h with initialized := true } := by
    simp [initialize_handle, hpyref]
  rw [heq]
  refine { hi with
    refs := hi.refs, closing_initialized := fun _ => rfl, pyref_initialized := fun _ => rfl,
    freed_closed := ?_ }
  intro hzero
  simp only at hzero
  omega

/-- What the two guards let through. -/
theorem check_open_eq_none_iff :
    check_open h = none ↔ h.initialized = true ∧ h.closing = false ∧ h.closed = false := by
  unfold check_open uv_is_closing
  cases h.initialized <;> cases h.closing <;> cases h.closed <;> simp

/-- close() succeeds on an open handle with a good argument, and is the one uv_close. -/
theorem Handle_func_close_cases (h : Handle) (callback : CallbackArg) :
    (∃ err, Handle_func_close h callback = (.raise err, h)) ∨
    (h.initialized = true ∧ h.closing = false ∧ h.closed = false ∧ callback ≠ .other ∧
      Handle_func_close h callback = (.ok, uv_close (Py_INCREF { h with
        on_close_cb := some (callback = .callable), close_calls := h.close_calls + 1,
        close_asked := decide (callback = .callable) }) .pyuv__handle_close_cb)) := by
  unfold Handle_func_close
  cases hcheck : check_open h with
  | some err => exact Or.inl ⟨err, rfl⟩
  | none =>
    obtain ⟨hinit, hc, hd⟩ := check_open_eq_none_iff.mp hcheck
    by_cases hother : callback = .other
    · exact Or.inl ⟨.text .TypeError "a callable or None is required", by simp [hother]⟩
    · exact Or.inr ⟨hinit, hc, hd, hother, by simp [hother]⟩

/-- The closing holds a reference. -/
theorem Handle_func_close.spec (hi : Inv e h) (hpos : 0 < h.refcnt) (callback : CallbackArg) :
    Inv e (Handle_func_close h callback).2 := by
  rcases Handle_func_close_cases h callback with ⟨err, heq⟩ | ⟨hinit, hc, hd, -, heq⟩ <;> rw [heq]
  · exact hi
  · have hrefs := hi.refs
    have hfin : h.finishes = 0 := hi.finishes_of_open hc
    obtain ⟨hcb, hcalls⟩ := hi.not_closing hc
    have hinc := Py_INCREF_eq (h := { h with
      on_close_cb := some (decide (callback = .callable)), close_calls := h.close_calls + 1,
      close_asked := decide (callback = .callable) }) hpos
    rw [hinc]
    refine { hi with
      refs := ?_, one_close := ?_, closing_initialized := fun _ => hinit,
      closed_closing := fun _ => rfl, close_kind := fun _ => Or.inl ⟨rfl, ?_⟩,
      not_closing := ?_, asked_call := fun _ => ?_, dealloc_pyref := ?_,
      pending_cb := fun _ _ => rfl, user_close := ?_, freed_once := ?_, freed_closed := ?_ }
    · simp only [Handle.owned, Handle.close_ref, uv_close, hc, hfin] at hrefs ⊢
      simp at hrefs ⊢
      omega
    · simp [uv_close, hi.one_close, hc]
    · simp [uv_close, hcalls]
    · intro hfalse
      cases hfalse
    · simp [uv_close, hcalls]
    · intro hdealloc
      cases hdealloc
    · simpa [uv_close, hd] using hi.user_close
    · simpa [uv_close, Nat.ne_of_gt hpos] using hi.freed_once
    · intro hzero
      simp [uv_close] at hzero

/-- The close callback has called back, and gives its reference up. -/
theorem Inv.drop_close_ref (hi : Inv e h) (hclosed : h.closed = true) (hfin : h.finishes = 0)
    (hframe : h.frames.count .close_cb = 0) (hpyref : h.pyref = false) :
    Inv (e + 1) { h with finishes := h.finishes + 1 } := by
  have hrefs := hi.refs
  have hc := hi.closed_closing hclosed
  refine { hi with
    refs := ?_, close_frame := ?_, finish_once := ?_, finish_pyref := fun _ => hpyref,
    freed_closed := ?_ }
  · simp only [Handle.owned, Handle.close_ref, hc, hfin] at hrefs ⊢
    simp at hrefs ⊢
    omega
  · simp [hframe]
  · simp [hclosed, hfin]
  · intro _ _
    simp [hfin]

/-- The flag goes before the reference of the close, so it is never the last one. -/
theorem PYUV_HANDLE_DECREF_closing (hi : Inv e h) (hc : h.closing = true) (hfin : h.finishes = 0) :
    PYUV_HANDLE_DECREF h = { h with pyref := false, refcnt := h.refcnt - h.pyref.toNat } := by
  unfold PYUV_HANDLE_DECREF
  cases hpyref : h.pyref with
  | false =>
    cases h
    simp_all
  | true =>
    have hmany : 1 < h.refcnt := by
      have hrefs := hi.refs
      simp only [Handle.owned, Handle.close_ref, hc, hfin, hpyref] at hrefs
      simp at hrefs
      omega
    rw [if_pos rfl, Py_DECREF, if_neg (by simp only; omega), if_neg (by simp only; omega)]
    rfl

theorem pyuv__handle_close_cb_end.spec (hi : Inv e h) (hclosed : h.closed = true)
    (hfin : h.finishes = 0) (hframe : h.frames.count .close_cb = 0) :
    Inv e (pyuv__handle_close_cb_end h) := by
  have hnull : Inv e { h with on_close_cb := none } :=
    { hi with refs := hi.refs, pending_cb := fun _ hopen => by simp [hclosed] at hopen }
  have hkept := PYUV_HANDLE_DECREF.spec hnull
  have hc := hi.closed_closing hclosed
  have heq := PYUV_HANDLE_DECREF_closing hnull hc hfin
  unfold pyuv__handle_close_cb_end
  apply Py_DECREF.spec
  apply Inv.drop_close_ref hkept
  · simpa [heq] using hclosed
  · simpa [heq] using hfin
  · simpa [heq] using hframe
  · simp [heq]

/-- libuv finishes a close: the user's callback is due, or the close is over. -/
theorem uv__finish_close.spec (hi : Inv e h) (hc : h.closing = true) (hopen : h.closed = false) :
    Inv e (uv__finish_close h) := by
  have hfin : h.finishes = 0 := by simpa [hopen] using hi.finish_once
  have hframe : h.frames.count .close_cb = 0 := by simpa [hopen] using hi.close_frame
  have hclosed : h.close_asked = false → Inv e { h with closed := true } := by
    intro hasked
    refine { hi with
      refs := hi.refs, closed_closing := fun _ => hc, close_frame := ?_, finish_once := ?_,
      pending_cb := ?_, user_close := ?_ }
    · simp [hframe]
    · simp [hfin]
    · intro _ hfalse
      cases hfalse
    · simpa [hasked] using hi.user_close
  rcases hi.close_kind hc with ⟨hkind, hcalls⟩ | ⟨hkind, hcalls⟩
  · have hpending := hi.pending_cb hkind hopen
    cases hasked : h.close_asked with
    | true =>
      have heq : uv__finish_close h = { h with
          closed := true, user_closes := h.user_closes + 1, frames := .close_cb :: h.frames } := by
        simp [uv__finish_close, hkind, pyuv__handle_close_cb, hpending, hasked]
      rw [heq]
      refine { hi with
        refs := ?_, closed_closing := fun _ => hc, close_frame := ?_, exit_frame := ?_,
        finish_once := ?_, pending_cb := ?_, user_close := ?_ }
      · have hrefs := hi.refs
        simpa [Handle.owned, Handle.close_ref, held, Frame.holds] using hrefs
      · simp [hframe, hfin]
      · simpa using hi.exit_frame
      · simp [hfin]
      · intro _ hfalse
        cases hfalse
      · simpa [hasked, hopen] using hi.user_close
    | false =>
      have heq : uv__finish_close h = pyuv__handle_close_cb_end { h with closed := true } := by
        simp [uv__finish_close, hkind, pyuv__handle_close_cb, hpending, hasked]
      rw [heq]
      exact pyuv__handle_close_cb_end.spec (hclosed hasked) rfl hfin hframe
  · have hasked : h.close_asked = false := by
      cases hask : h.close_asked
      · rfl
      · have hone := hi.asked_call hask
        omega
    have heq : uv__finish_close h =
        pyuv__handle_dealloc_close_cb { h with closed := true } := by
      simp [uv__finish_close, hkind]
    rw [heq]
    exact Py_DECREF.spec ((hclosed hasked).drop_close_ref rfl hfin hframe (hi.dealloc_pyref hkind))

/-! ## What the reference count does not touch -/

/-- The fields that taking or dropping a reference leaves alone. Dropping the last
one may close the handle or run a `__del__`. -/
structure Kept (h h' : Handle) : Prop where
  user : h'.user = h.user
  pyref : h'.pyref = h.pyref
  initialized : h'.initialized = h.initialized
  closing : h'.closing = false → h.closing = false
  closed : h'.closed = h.closed
  finishes : h'.finishes = h.finishes
  exit_ref : h'.exit_ref = h.exit_ref
  frames : ∀ f, f ∈ h'.frames → f ∈ h.frames ∨ f = .finalizer

theorem Py_INCREF.kept (h : Handle) : Kept h (Py_INCREF h) := by
  unfold Py_INCREF
  split <;> exact ⟨rfl, rfl, rfl, id, rfl, rfl, rfl, fun _ => Or.inl⟩

theorem Py_DECREF.kept (h : Handle) : Kept h (Py_DECREF h) := by
  by_cases hpos : 0 < h.refcnt
  · rcases Py_DECREF_cases hpos with ⟨-, heq⟩ | ⟨-, -, heq⟩ | ⟨-, -, hc, -, heq⟩ | ⟨-, -, heq⟩ <;>
      rw [heq]
    · exact ⟨rfl, rfl, rfl, id, rfl, rfl, rfl, fun _ => Or.inl⟩
    · refine ⟨rfl, rfl, rfl, id, rfl, rfl, rfl, fun f hf => ?_⟩
      rcases List.mem_cons.mp hf with rfl | hf
      · exact Or.inr rfl
      · exact Or.inl hf
    · exact ⟨rfl, rfl, rfl, fun _ => hc, rfl, rfl, rfl, fun _ => Or.inl⟩
    · exact ⟨rfl, rfl, rfl, id, rfl, rfl, rfl, fun _ => Or.inl⟩
  · have hzero : h.refcnt = 0 := by omega
    rw [Py_DECREF, if_pos hzero]
    exact ⟨rfl, rfl, rfl, id, rfl, rfl, rfl, fun _ => Or.inl⟩

@[simp]
theorem Py_INCREF_frames (h : Handle) : (Py_INCREF h).frames = h.frames := by
  unfold Py_INCREF
  split <;> rfl

theorem PYUV_HANDLE_INCREF_pyref (h : Handle) : (PYUV_HANDLE_INCREF h).pyref = true := by
  unfold PYUV_HANDLE_INCREF
  split
  · assumption
  · exact (Py_INCREF.kept { h with pyref := true }).pyref

theorem pyuv__handle_close_cb_end_closing (hc : (pyuv__handle_close_cb_end h).closing = false) :
    h.closing = false := by
  unfold pyuv__handle_close_cb_end PYUV_HANDLE_DECREF at hc
  have hbefore := (Py_DECREF.kept _).closing hc
  split at hbefore
  · have hfirst := (Py_DECREF.kept _).closing hbefore
    exact hfirst
  · exact hbefore

theorem uv__finish_close_closing (hc : (uv__finish_close h).closing = false) :
    h.closing = false := by
  unfold uv__finish_close at hc
  dsimp only at hc
  split at hc
  · unfold pyuv__handle_close_cb at hc
    split at hc
    · exact hc
    · have hbefore := pyuv__handle_close_cb_end_closing hc
      exact hbefore
  · have hbefore := (Py_DECREF.kept _).closing hc
    exact hbefore
  · exact hc

theorem PYUV_HANDLE_DECREF_finishes (h : Handle) :
    (PYUV_HANDLE_DECREF h).finishes = h.finishes := by
  unfold PYUV_HANDLE_DECREF
  split
  · exact (Py_DECREF.kept { h with pyref := false }).finishes
  · rfl

theorem pyuv__handle_close_cb_end_finishes (h : Handle) :
    (pyuv__handle_close_cb_end h).finishes = h.finishes + 1 := by
  unfold pyuv__handle_close_cb_end
  have hflag := PYUV_HANDLE_DECREF_finishes { h with on_close_cb := none }
  exact (Py_DECREF.kept _).finishes.trans (congrArg (· + 1) hflag)

/-- The close callback has Python code to call. -/
def asks (h : Handle) : Prop :=
  h.close_cb = some .pyuv__handle_close_cb ∧ h.on_close_cb = some true

/-- With something to call, the close is not over yet. -/
theorem uv__finish_close_asks (hasks : asks h) : (uv__finish_close h).finishes = h.finishes := by
  obtain ⟨hkind, hcb⟩ := hasks
  simp [uv__finish_close, hkind, pyuv__handle_close_cb, hcb]

/-- With nothing to call, the close is over at once. -/
theorem uv__finish_close_finishes (hi : Inv e h) (hc : h.closing = true) (hasks : ¬asks h) :
    (uv__finish_close h).finishes = h.finishes + 1 := by
  rcases hi.close_kind hc with ⟨hkind, -⟩ | ⟨hkind, -⟩
  · have hcb : h.on_close_cb ≠ some true := fun hcb => hasks ⟨hkind, hcb⟩
    simp only [uv__finish_close, hkind, pyuv__handle_close_cb, hcb, if_false]
    exact pyuv__handle_close_cb_end_finishes _
  · simp only [uv__finish_close, hkind, pyuv__handle_dealloc_close_cb]
    exact (Py_DECREF.kept _).finishes

@[simp]
theorem Py_INCREF_exit_ref (h : Handle) : (Py_INCREF h).exit_ref = h.exit_ref := by
  unfold Py_INCREF
  split <;> rfl

@[simp]
theorem Py_DECREF_exit_ref (h : Handle) : (Py_DECREF h).exit_ref = h.exit_ref := by
  unfold Py_DECREF subtype_dealloc Handle_tp_dealloc uv_close
  split
  · rfl
  · split
    · split
      · rfl
      · split <;> rfl
      · split <;> rfl
    · rfl

@[simp]
theorem PYUV_HANDLE_DECREF_exit_ref (h : Handle) :
    (PYUV_HANDLE_DECREF h).exit_ref = h.exit_ref := by
  unfold PYUV_HANDLE_DECREF
  split <;> simp

@[simp]
theorem pyuv__handle_close_cb_end_exit_ref (h : Handle) :
    (pyuv__handle_close_cb_end h).exit_ref = h.exit_ref := by
  simp [pyuv__handle_close_cb_end]

@[simp]
theorem uv__finish_close_exit_ref (h : Handle) : (uv__finish_close h).exit_ref = h.exit_ref := by
  unfold uv__finish_close pyuv__handle_close_cb pyuv__handle_dealloc_close_cb
  dsimp only
  split
  · split <;> simp
  · simp
  · rfl

theorem PYUV_HANDLE_INCREF_frames (h : Handle) : (PYUV_HANDLE_INCREF h).frames = h.frames := by
  unfold PYUV_HANDLE_INCREF
  split
  · rfl
  · rw [Py_INCREF_frames]

theorem PYUV_HANDLE_DECREF_frames {f : Frame} (hf : f ∈ (PYUV_HANDLE_DECREF h).frames) :
    f ∈ h.frames ∨ f = .finalizer := by
  unfold PYUV_HANDLE_DECREF at hf
  split at hf
  · exact (Py_DECREF.kept { h with pyref := false }).frames f hf
  · exact Or.inl hf

theorem pyuv__handle_close_cb_end_frames {f : Frame}
    (hf : f ∈ (pyuv__handle_close_cb_end h).frames) : f ∈ h.frames ∨ f = .finalizer := by
  unfold pyuv__handle_close_cb_end at hf
  rcases (Py_DECREF.kept _).frames f hf with hf | hf
  · exact PYUV_HANDLE_DECREF_frames (h := { h with on_close_cb := none }) hf
  · exact Or.inr hf

theorem uv__finish_close_frames {f : Frame} (hf : f ∈ (uv__finish_close h).frames) :
    f ∈ h.frames ∨ f = .finalizer ∨ f = .close_cb := by
  unfold uv__finish_close at hf
  dsimp only at hf
  split at hf
  · unfold pyuv__handle_close_cb at hf
    split at hf
    · rcases List.mem_cons.mp hf with hf | hf
      · exact Or.inr (Or.inr hf)
      · exact Or.inl hf
    · rcases pyuv__handle_close_cb_end_frames hf with hf | hf
      · exact Or.inl hf
      · exact Or.inr (Or.inl hf)
  · rcases (Py_DECREF.kept _).frames f hf with hf | hf
    · exact Or.inl hf
    · exact Or.inr (Or.inl hf)
  · exact Or.inl hf

/-! ## Handing references over -/

theorem Inv.add_user (hi : Inv (e + 1) h) : Inv e { h with user := h.user + 1 } := by
  have hrefs := hi.refs
  refine { hi with refs := ?_ }
  simp only [Handle.owned, Handle.close_ref] at hrefs ⊢
  omega

/-- Someone who has the handle takes one more reference. -/
theorem incref_inv (hi : Inv e h) (hpos : 0 < h.refcnt) :
    Inv e (Py_INCREF { h with user := h.user + 1 }) := by
  have hinc := Py_INCREF.spec hi hpos
  rw [Py_INCREF_eq hpos] at hinc
  rw [Py_INCREF_eq (h := { h with user := h.user + 1 }) hpos]
  exact hinc.add_user

theorem Inv.drop_user (hi : Inv e h) (huser : 0 < h.user) :
    Inv (e + 1) { h with user := h.user - 1 } := by
  have hrefs := hi.refs
  refine { hi with refs := ?_ }
  simp only [Handle.owned, Handle.close_ref] at hrefs ⊢
  omega

/-- A frame that takes a reference, or needs none, gets on the stack. -/
theorem Inv.push_frame {f : Frame} (hi : Inv (e + f.holds.toNat) h) (hclose : f ≠ .close_cb)
    (hexit : f ≠ .exit_cb) : Inv e { h with frames := f :: h.frames } := by
  have hrefs := hi.refs
  refine { hi with refs := ?_, close_frame := ?_, exit_frame := ?_ }
  · simp only [Handle.owned, Handle.close_ref, held, List.countP_cons] at hrefs ⊢
    cases f <;> simp [Frame.holds] at hrefs ⊢ <;> omega
  · simpa [List.count_cons, hclose] using hi.close_frame
  · simpa [List.count_cons, hexit] using hi.exit_frame

/-- An exit callback begins. -/
theorem Inv.push_exit (hi : Inv e h) (hexit : h.exit_ref = true) (hnone : .exit_cb ∉ h.frames) :
    Inv e { h with frames := .exit_cb :: h.frames } := by
  have hrefs := hi.refs
  refine { hi with refs := ?_, close_frame := ?_, exit_frame := ?_ }
  · simpa [Handle.owned, Handle.close_ref, held, Frame.holds] using hrefs
  · simpa using hi.close_frame
  · simp [hexit, List.count_eq_zero.mpr hnone]

/-- A callback ends, with the reference that it had. -/
theorem Inv.pop_frame {f : Frame} {fs : List Frame} (hi : Inv e h) (hf : h.frames = f :: fs) :
    Inv (e + f.holds.toNat) { h with frames := fs } := by
  have hrefs := hi.refs
  have hclose := hi.close_frame
  have hexit := hi.exit_frame
  rw [hf, List.count_cons] at hclose hexit
  refine { hi with refs := ?_, close_frame := ?_, exit_frame := ?_ }
  · simp only [Handle.owned, Handle.close_ref, held, hf, List.countP_cons] at hrefs ⊢
    cases f <;> simp [Frame.holds] at hrefs ⊢ <;> omega
  · simp only
    omega
  · simp only
    omega

theorem Inv.add_exit (hi : Inv (e + 1) h) (hnone : h.exit_ref = false) :
    Inv e { h with exit_ref := true } := by
  have hrefs := hi.refs
  have hexit := hi.exit_frame
  refine { hi with refs := ?_, exit_frame := ?_ }
  · simp only [Handle.owned, Handle.close_ref, hnone] at hrefs ⊢
    simp at hrefs ⊢
    omega
  · simp only [hnone, Bool.toNat_true, Bool.toNat_false] at hexit ⊢
    omega

theorem Inv.drop_exit (hi : Inv e h) (hexit : h.exit_ref = true) (hnone : .exit_cb ∉ h.frames) :
    Inv (e + 1) { h with exit_ref := false } := by
  have hrefs := hi.refs
  refine { hi with refs := ?_, exit_frame := ?_ }
  · simp only [Handle.owned, Handle.close_ref, hexit] at hrefs ⊢
    simp at hrefs ⊢
    omega
  · simp [List.count_eq_zero.mpr hnone]

/-! ## The references that keep an object alive -/

/-- A callback that was given the handle is waiting: the handle has an owner. -/
theorem Inv.owner_of_frame (hi : Inv e h) {f : Frame} (hf : f ∈ h.frames)
    (hself : f.self_passed = true) :
    0 < h.user + held h.frames + h.exit_ref.toNat + h.close_ref := by
  by_cases hholds : f.holds = true
  · have hheld : 0 < held h.frames := List.countP_pos_iff.mpr ⟨f, hf, hholds⟩
    omega
  · have hcount : 0 < h.frames.count f := List.count_pos_iff.mpr hf
    have hkind : f = .close_cb ∨ f = .exit_cb := by
      cases f <;> simp_all [Frame.holds, Frame.self_passed]
    rcases hkind with rfl | rfl
    · -- the close callback keeps the reference of close() until it ends
      have hclose := hi.close_frame
      have hone : (h.closed && decide (h.finishes = 0)) = true := by
        cases hc : (h.closed && decide (h.finishes = 0))
        · simp [hc] at hclose
          omega
        · rfl
      simp only [Bool.and_eq_true, decide_eq_true_eq] at hone
      have hc := hi.closed_closing hone.1
      have href : h.close_ref = 1 := by simp [Handle.close_ref, hc, hone.2]
      omega
    · have hexit := hi.exit_frame
      omega

/-- What libuv still has in a queue of its loop is not freed. -/
theorem Inv.pos_of_open (hi : Inv e h) (hinit : h.initialized = true) (hopen : h.closed = false) :
    0 < h.refcnt := by
  apply Nat.pos_of_ne_zero
  intro hzero
  have hfin := hi.finish_once
  have hone := hi.freed_closed hzero hinit
  simp [hopen, hone] at hfin

end

end pyuv.handle
