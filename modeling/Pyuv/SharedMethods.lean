-- The methods that more than one module models, each with its own side of the handle: where two
-- of these models see the same handle and the same arguments, a call answers the same in both,
-- and they see the same handle after it.
import Pyuv.HandleTypes
import Pyuv.MethodStatus
import Pyuv.PipeConnect
import Pyuv.StreamIo
import Pyuv.StreamRequests
import Pyuv.WriteResources

set_option linter.style.nameCheck false

namespace pyuv.shared_methods

open ends
open handle (Ret)
open methods (Ptr World Stop C Slot UvFn)

/-! ## What the models see of a handle -/

/-- The two things about a handle that the guards of its methods look at. -/
structure View where
  initialized : Bool
  closing : Bool
deriving DecidableEq, Repr

/-- A handle of Handle, Watchers or StreamRequests. -/
def View.of_handle (h : handle.Handle) : View := ⟨h.initialized, handle.uv_is_closing h⟩

/-- An object of HandleTypes. -/
def View.of_object (obj : handle_types.Object) : View :=
  ⟨obj.initialized, handle_types.uv_is_closing obj.uv⟩

/-- A stream or poll of StreamIo. -/
def View.of_io (w : stream_io.Io) : View := ⟨w.loop.isSome, w.closing⟩

/-- A pipe that was initialized. -/
def View.of_pipe (s : pipe_connect.St) : View := ⟨true, s.closing⟩

/-- An object of Methods. -/
def View.of_obj (o : methods.Obj) : View := ⟨o.initialized, o.closing⟩

/-- What the guards raise. -/
def View.refused (v : View) : Option PyErr :=
  if !v.initialized then some .not_initialized
  else if v.closing then some .handle_closed
  else none

/-- What a run of a method gives back to Python. -/
def answer : EStateM.Result Stop World Unit → Ret
  | .ok _ _ => .ok
  | .error (.raised e) _ => .raise e
  | .error .crash _ => .abort

/-- An argument `callback`, where None is no callable. -/
def callback_arg (E : methods.Env) (p : Ptr) : CallbackArg :=
  if p = methods.Py_None then .Py_None else if E.callable p then .callable else .other

section

variable {E : methods.Env} {w : World} {self : Ptr}

/-- The guards of a method, as the handle model has them. -/
theorem check_open_eq (h : handle.Handle) : handle.check_open h = (View.of_handle h).refused := rfl

/-- The guards of a method change nothing. -/
theorem handle_guards_eq (w : World) (self : Ptr) :
    methods.handle_guards self w = match (View.of_obj (w.objs self)).refused with
      | some e => .error (.raised e) w
      | none => .ok () w := by
  cases hinit : (w.objs self).initialized with
  | false =>
    rw [methods.guards_uninitialized hinit]
    simp [View.of_obj, View.refused, hinit]
  | true =>
    cases hclosing : (w.objs self).closing with
    | true =>
      rw [methods.guards_closed hinit hclosing]
      simp [View.of_obj, View.refused, hinit, hclosing]
    | false =>
      rw [methods.guards_usable ⟨hinit, hclosing⟩]
      simp [View.of_obj, View.refused, hinit, hclosing]

/-- A method that has passed its guards is called on an object that libuv knows. -/
theorem usable_of_refused (h : (View.of_obj (w.objs self)).refused = none) :
    methods.Usable w self := by
  unfold View.refused View.of_obj at h
  unfold methods.Usable
  cases hinit : (w.objs self).initialized <;> cases hclosing : (w.objs self).closing <;>
    simp_all

/-- A call of libuv on handles that it knows. -/
theorem uv_eq_of_AllInit (fn : UvFn) {hs : List Ptr} (h : methods.AllInit hs w) :
    methods.uv E fn hs w = .ok (E.status fn) (w.log ⟨fn, hs⟩) := by
  have hbase : (hs.any fun p => (w.objs p).cls.is_base) = false := by
    rw [List.any_eq_false]
    intro p hp
    simpa using (w.objs p).concrete (h p hp)
  unfold methods.uv
  rw [hbase, methods.use_of_AllInit h]
  rfl

/-- A call of libuv on a usable handle returns and is logged. -/
theorem uv_eq (fn : UvFn) (h : methods.Usable w self) :
    methods.uv E fn [self] w = .ok (E.status fn) (w.log ⟨fn, [self]⟩) :=
  uv_eq_of_AllInit fn (by simpa [methods.AllInit] using h.1)

end

/-! ## The one method behind them

What a caller sees of a method: the guards, the check of the arguments, the memory for a request,
and the answer of libuv, none where one of its assertions fails. -/

/-- The exception that comes first, or the answer of libuv. -/
def call (v : View) (bad_args : Option PyErr) (memory : Bool) (error : ExcType)
    (status : Option Int) : Ret :=
  match v.refused <|> bad_args with
  | some e => .raise e
  | none =>
    if !memory then .raise methods.no_memory
    else match status with
      | none => .abort
      | some err => if err < 0 then .raise (.uv error err) else .ok

/-- The check of the argument of `close`. -/
def bad_close_callback (callback : CallbackArg) : Option PyErr :=
  if callback = .other then some (.text .TypeError "a callable or None is required") else none

/-- `close`, and the handle after it. -/
def close (v : View) (callback : CallbackArg) : Ret × View :=
  let answer := call v (bad_close_callback callback) true .HandleError (some 0)
  (answer, if answer = .ok then { v with closing := true } else v)

/-- Behind a guard that refuses nothing is looked at. -/
theorem call_of_refused {v : View} {e : PyErr} (h : v.refused = some e) (bad_args : Option PyErr)
    (memory : Bool) (error : ExcType) (status : Option Int) :
    call v bad_args memory error status = .raise e := by
  unfold call
  rw [h]
  rfl

theorem close_of_refused {v : View} {e : PyErr} (h : v.refused = some e)
    (callback : CallbackArg) : close v callback = (.raise e, v) := by
  unfold close
  rw [call_of_refused h]
  rfl

/-- A callable or None closes. -/
theorem close_of_open {v : View} (h : v.refused = none) {callback : CallbackArg}
    (hcallback : callback ≠ .other) : close v callback = (.ok, { v with closing := true }) := by
  simp [close, call, h, bad_close_callback, hcallback]

/-- Anything else is refused, and the handle stays open. -/
theorem close_of_other {v : View} (h : v.refused = none) : close v .other =
    (.raise (.text .TypeError "a callable or None is required"), v) := by
  simp [close, call, h, bad_close_callback]

/-! ## close -/

@[simp] theorem of_handle_uv_close (h : handle.Handle) (cb : handle.CloseCb) :
    View.of_handle (handle.uv_close h cb) = { View.of_handle h with closing := true } := rfl

@[simp] theorem of_handle_incref (h : handle.Handle) :
    View.of_handle (handle.Py_INCREF h) = View.of_handle h := by
  unfold handle.Py_INCREF
  split <;> rfl

theorem handle_close (h : handle.Handle) (callback : CallbackArg) :
    (handle.Handle_func_close h callback).map id View.of_handle =
      close (View.of_handle h) callback := by
  unfold handle.Handle_func_close
  rw [check_open_eq]
  cases hrefused : (View.of_handle h).refused with
  | some e =>
    rw [close_of_refused hrefused]
    rfl
  | none =>
    by_cases hcallback : callback = .other
    · rw [hcallback, close_of_other hrefused]
      rfl
    · rw [close_of_open hrefused hcallback]
      simp only [hcallback, if_false, Prod.map_apply, id, of_handle_uv_close, of_handle_incref]
      rfl

theorem types_close (obj : handle_types.Object) (callback : CallbackArg) :
    (handle_types.Handle_func_close callback obj).map id View.of_object =
      close (View.of_object obj) callback := by
  unfold handle_types.Handle_func_close
  cases hinit : obj.initialized with
  | false =>
    have hrefused : (View.of_object obj).refused = some .not_initialized := by
      simp [View.of_object, View.refused, hinit]
    rw [close_of_refused hrefused]
    rfl
  | true =>
    cases hclosing : handle_types.uv_is_closing obj.uv with
    | true =>
      have hrefused : (View.of_object obj).refused = some .handle_closed := by
        simp [View.of_object, View.refused, hinit, hclosing]
      rw [close_of_refused hrefused]
      rfl
    | false =>
      have hrefused : (View.of_object obj).refused = none := by
        simp [View.of_object, View.refused, hinit, hclosing]
      by_cases hcallback : callback = .other
      · rw [hcallback, close_of_other hrefused]
        rfl
      · rw [close_of_open hrefused hcallback]
        simp only [Bool.not_true, Bool.false_eq_true, hcallback, if_false]
        rfl

/-- PipeConnect leaves the callback of a close out. -/
theorem pipe_close (s : pipe_connect.St) {callback : CallbackArg} (hcallback : callback ≠ .other) :
    (pipe_connect.Handle_func_close s).map id View.of_pipe = close (View.of_pipe s) callback := by
  unfold pipe_connect.Handle_func_close
  cases hclosing : s.closing with
  | true =>
    have hrefused : (View.of_pipe s).refused = some .handle_closed := by
      simp [View.of_pipe, View.refused, hclosing]
    rw [close_of_refused hrefused]
    rfl
  | false =>
    have hrefused : (View.of_pipe s).refused = none := by
      simp [View.of_pipe, View.refused, hclosing]
    rw [close_of_open hrefused hcallback]
    rfl

/-- The guards of a method and the check of its arguments. -/
theorem checked_eq {α : Type} (w : World) (self : Ptr) (x : Except PyErr α) (f : α → C Unit) :
    (methods.handle_guards self >>= fun _ => methods.check x >>= f) w =
      match (View.of_obj (w.objs self)).refused, x with
      | some e, _ => .error (.raised e) w
      | none, .error e => .error (.raised e) w
      | none, .ok a => f a w := by
  have hguards := handle_guards_eq w self
  cases hrefused : (View.of_obj (w.objs self)).refused with
  | some e =>
    rw [hrefused] at hguards
    exact bind_of_error hguards
  | none =>
    rw [hrefused] at hguards
    rw [bind_of_ok hguards]
    cases x with
    | error e => rfl
    | ok a => rfl

theorem callable_or_None_eq (E : methods.Env) (msg : String) (p : Ptr) :
    methods.callable_or_None E msg p =
      if callback_arg E p = .other then .error (.text .TypeError msg) else .ok () := by
  unfold methods.callable_or_None callback_arg
  by_cases hnone : p = methods.Py_None
  · simp [hnone]
  · cases hcallable : E.callable p <;> simp [hnone]

theorem methods_close (E : methods.Env) (w : World) (self callback : Ptr) :
    let run := methods.Handle_func_close E self (.ok callback) w
    (answer run, View.of_obj ((methods.last run).objs self)) =
      close (View.of_obj (w.objs self)) (callback_arg E callback) := by
  intro run
  have hrun := checked_eq w self (do
    methods.callable_or_None E "a callable or None is required" callback
    return callback) fun callback => do
      methods.Py_INCREF callback
      modify (World.set_slot self .on_close_cb (some callback))
      methods.Py_INCREF self
      methods.uv_close E self
  change run = _ at hrun
  cases hrefused : (View.of_obj (w.objs self)).refused with
  | some e =>
    rw [hrefused] at hrun
    rw [hrun, close_of_refused hrefused]
    rfl
  | none =>
    rw [hrefused, callable_or_None_eq] at hrun
    by_cases hcallback : callback_arg E callback = .other
    · rw [if_pos hcallback] at hrun
      rw [hrun, hcallback, close_of_other hrefused]
      rfl
    · rw [if_neg hcallback] at hrun
      let w' := ((w.take [callback]).set_slot self .on_close_cb (some callback)).take [self]
      have huv : methods.call E .uv_close [self] w' = .ok () (w'.log ⟨.uv_close, [self]⟩) :=
        bind_of_ok (uv_eq (E := E) (w := w') .uv_close (usable_of_refused hrefused))
      have hclosed : methods.uv_close E self w' =
          .ok () (methods.set_closing self (w'.log ⟨.uv_close, [self]⟩)) := bind_of_ok huv
      rw [close_of_open hrefused hcallback, hrun]
      change (answer (methods.uv_close E self w'), _) = _
      change (_, View.of_obj ((methods.last (methods.uv_close E self w')).objs self)) = _
      rw [hclosed]
      simp [answer, methods.last, methods.set_closing, World.log, w', View.of_obj, World.take,
        World.set_slot]

/-! ## Every method of StreamIo -/

/-- The methods of pyuv.stream_io are such calls, whatever libuv does. -/
theorem io_method (s : stream_io.St) (h : Nat) (error : ExcType) (bad_args : Option PyErr)
    (uv : Nat → Option (Int × stream_io.St)) :
    (stream_io.method s h error bad_args uv).1 = call (View.of_io (s.io h)) bad_args true error
      ((s.io h).loop.bind fun l => (uv l).map Prod.fst) := by
  unfold stream_io.method stream_io.check_open
  cases hloop : (s.io h).loop with
  | none =>
    rw [call_of_refused (e := .not_initialized)]
    simp [View.of_io, View.refused, hloop]
  | some l =>
    cases hclosing : (s.io h).closing with
    | true =>
      rw [call_of_refused (e := .handle_closed)]
      · rfl
      · simp [View.of_io, View.refused, hloop, hclosing]
    | false =>
      have hrefused : (View.of_io (s.io h)).refused = none := by
        simp [View.of_io, View.refused, hloop, hclosing]
      unfold call
      rw [hrefused]
      cases bad_args with
      | some e => rfl
      | none =>
        simp only [Bool.false_eq_true, if_false, Option.bind_some]
        cases huv : uv l with
        | none => rfl
        | some r =>
          by_cases herr : r.1 < 0 <;> simp [stream_io.returns, herr]

/-- A call that would fail an assertion does not get as far as libuv. -/
theorem call_of_not_abort {v : View} {bad_args : Option PyErr} {error : ExcType}
    (habort : call v bad_args true error none ≠ .abort) (status : Option Int) :
    call v bad_args true error none = call v bad_args true error status := by
  unfold call at *
  cases hraised : (v.refused <|> bad_args) with
  | some e => rfl
  | none =>
    rw [hraised] at habort
    exact absurd rfl habort

/-- The close of StreamIo, where no assertion of libuv fails. -/
theorem io_close (s : stream_io.St) (h : Nat) (callback : CallbackArg)
    (habort : (stream_io.Handle_func_close s h callback).1 ≠ .abort) :
    (stream_io.Handle_func_close s h callback).1 = (close (View.of_io (s.io h)) callback).1 := by
  unfold stream_io.Handle_func_close at habort ⊢
  rw [io_method] at habort ⊢
  generalize hstatus : ((s.io h).loop.bind fun l =>
    ((stream_io.uv_close s l h).map fun s => ((0 : Int), s)).map Prod.fst) = status at habort ⊢
  cases status with
  | none => exact call_of_not_abort habort (some 0)
  | some err =>
    simp only [Option.bind_eq_some_iff, Option.map_eq_some_iff] at hstatus
    obtain ⟨l, -, _, ⟨t, -, rfl⟩, rfl⟩ := hstatus
    rfl

/-! ## start and stop -/

/-- The start methods of Watchers. -/
theorem watchers_start (s : watchers.St) (error : ExcType) (bad_args : Option PyErr)
    (uv_start : watchers.Watch → Option (Int × watchers.Watch))
    (set_callback : watchers.Watch → watchers.Watch) :
    (watchers.func_start s error bad_args uv_start set_callback).1 =
      call (View.of_handle s.core) bad_args true error ((uv_start s.watch).map Prod.fst) := by
  unfold watchers.func_start call
  rw [check_open_eq]
  cases hraised : ((View.of_handle s.core).refused <|> bad_args) with
  | some e => rfl
  | none =>
    cases huv : uv_start s.watch with
    | none => rfl
    | some r =>
      by_cases herr : r.1 < 0 <;> simp [herr]

/-- The exception of the arguments. -/
def raised {α : Type} : Except PyErr α → Option PyErr
  | .ok _ => none
  | .error e => some e

/-- `if (err < 0)`, and then what cannot fail any more. -/
theorem answer_of_status {E : methods.Env} {w : World} {self : Ptr} (fn : UvFn) (error : ExcType)
    (h : methods.Usable w self) {rest : C Unit} (hrest : ∀ s, ∃ t, rest s = .ok () t) :
    answer ((do
      let err ← methods.uv E fn [self]
      methods.raise_if_negative self (.type error) err
      rest) w) = if E.status fn < 0 then .raise (.uv error (E.status fn)) else .ok := by
  rw [bind_of_ok (uv_eq fn h)]
  unfold methods.raise_if_negative
  by_cases herr : E.status fn < 0
  · rw [if_pos herr, if_pos herr]
    rfl
  · rw [if_neg herr, if_neg herr]
    obtain ⟨t, ht⟩ := hrest (w.log ⟨fn, [self]⟩)
    change answer (rest _) = _
    rw [ht]
    rfl

/-- Those of Methods. -/
theorem methods_start (E : methods.Env) (w : World) (self : Ptr) (slot : Slot) (fn : UvFn)
    (error : ExcType) (args : Except PyErr Ptr) :
    answer (methods.func_start E self slot fn (.type error) args w) =
      call (View.of_obj (w.objs self)) (raised args) true error (some (E.status fn)) := by
  unfold methods.func_start
  rw [checked_eq]
  cases hrefused : (View.of_obj (w.objs self)).refused with
  | some e =>
    rw [call_of_refused hrefused]
    rfl
  | none =>
    unfold call
    rw [hrefused]
    cases args with
    | error e => rfl
    | ok callback => exact answer_of_status fn error (usable_of_refused hrefused) fun s => ⟨_, rfl⟩

/-- A stop function that succeeds, with the callback that is given up. -/
theorem watchers_stop (s : watchers.St) (uv_stop clear_callback : watchers.Watch → watchers.Watch)
    (error : ExcType) : (watchers.func_stop s uv_stop clear_callback).1 =
      call (View.of_handle s.core) none true error (some 0) := by
  unfold watchers.func_stop call
  rw [check_open_eq]
  cases hrefused : (View.of_handle s.core).refused <;> rfl

theorem methods_stop (E : methods.Env) (w : World) (self : Ptr) (slot : Option Slot) (fn : UvFn)
    (error : ExcType) :
    answer (methods.func_stop E self fn (.type error) slot w) =
      call (View.of_obj (w.objs self)) none true error (some (E.status fn)) := by
  have hguards := handle_guards_eq w self
  unfold methods.func_stop
  cases hrefused : (View.of_obj (w.objs self)).refused with
  | some e =>
    rw [hrefused] at hguards
    rw [bind_of_error hguards, call_of_refused hrefused]
    rfl
  | none =>
    rw [hrefused] at hguards
    rw [bind_of_ok hguards]
    unfold call
    rw [hrefused]
    apply answer_of_status fn error (usable_of_refused hrefused)
    intro s
    cases slot <;> exact ⟨_, rfl⟩

/-- A method that is called on one handle, with arguments that raise the same, and to which libuv
answers the same, is seen to do the same in Watchers and in Methods. -/
theorem start_agrees {s : watchers.St} {E : methods.Env} {w : World} {self : Ptr}
    (hview : View.of_handle s.core = View.of_obj (w.objs self)) {args : Except PyErr Ptr}
    {uv_start : watchers.Watch → Option (Int × watchers.Watch)} {fn : UvFn}
    (hstatus : (uv_start s.watch).map Prod.fst = some (E.status fn)) (error : ExcType)
    (set_callback : watchers.Watch → watchers.Watch) (slot : Slot) :
    (watchers.func_start s error (raised args) uv_start set_callback).1 =
      answer (methods.func_start E self slot fn (.type error) args w) := by
  rw [watchers_start, methods_start, hview, hstatus]

/-- A Poll of StreamIo and one of Watchers. -/
theorem poll_start_agrees {s : stream_io.St} {h : Nat} {t : watchers.St}
    (hview : View.of_io (s.io h) = View.of_handle t.core) {events : Int}
    (hevents : stream_io.int_required events = none) (callback : CallbackArg)
    (habort : (stream_io.Poll_func_start s h events callback).1 ≠ .abort) :
    (stream_io.Poll_func_start s h events callback).1 =
      (watchers.Poll_func_start t events callback).1 := by
  unfold stream_io.Poll_func_start at habort ⊢
  unfold watchers.Poll_func_start
  rw [io_method, hview, hevents] at habort ⊢
  rw [watchers_start]
  have hanswer : ∀ l r, stream_io.uv_poll_start s l h events = some r →
      r.1 = 0 ∧ ¬(events < 0 ∨ 7 < events) := by
    intro l r hr
    unfold stream_io.uv_poll_start at hr
    simp only [Option.ite_none_left_eq_some, Option.bind_eq_some_iff] at hr
    obtain ⟨hrange, -, u, -, hr⟩ := hr
    refine ⟨?_, hrange⟩
    split at hr
    · cases hr
      rfl
    · rw [Option.map_eq_some_iff] at hr
      obtain ⟨v, -, rfl⟩ := hr
      rfl
  generalize hstatus : ((s.io h).loop.bind fun l =>
    (stream_io.uv_poll_start s l h events).map Prod.fst) = status at habort ⊢
  cases status with
  | none => exact call_of_not_abort habort _
  | some err =>
    simp only [Option.bind_eq_some_iff, Option.map_eq_some_iff] at hstatus
    obtain ⟨l, -, r, hr, rfl⟩ := hstatus
    obtain ⟨hzero, hrange⟩ := hanswer l r hr
    rw [hzero]
    simp only [watchers.uv_poll_start, if_neg hrange]
    rfl

/-! ## connect of a Pipe -/

/-- The exception of Pipe.connect for an error of the system. -/
def os_error (os : Int) : Option PyErr := if os < 0 then some (.uv .PipeError os) else none

theorem requests_connect (s : stream_requests.SockSt) (callback : CallbackArg) (alloc : Bool) :
    (stream_requests.Pipe_func_connect s callback alloc).1 =
      call (View.of_handle s.core) (watchers.callable_required callback) alloc .PipeError
        (some 0) := by
  unfold stream_requests.Pipe_func_connect call
  rw [check_open_eq]
  cases hraised : ((View.of_handle s.core).refused <|> watchers.callable_required callback) with
  | some e => rfl
  | none => cases alloc <;> rfl

theorem pipe_connect_ordinary (s : pipe_connect.St) (callback : CallbackArg)
    (sock conn nonblock : Int) (alloc : Bool) :
    (pipe_connect.Pipe_func_connect s .ordinary callback sock conn nonblock alloc).1 =
      call (View.of_pipe s) (watchers.callable_required callback) alloc .PipeError (some 0) := by
  unfold pipe_connect.Pipe_func_connect call
  cases hclosing : s.closing <;> cases callback <;> cases alloc <;>
    simp [View.of_pipe, View.refused, watchers.callable_required, hclosing,
      pipe_connect.no_memory, methods.no_memory]

theorem requests_connect_abstract (s : stream_requests.SockSt) (callback : CallbackArg) (os : Int)
    (alloc : Bool) :
    (stream_requests.Pipe_func_connect_abstract s callback os alloc).1 =
      call (View.of_handle s.core) (watchers.callable_required callback <|> os_error os) alloc
        .PipeError (some 0) := by
  unfold stream_requests.Pipe_func_connect_abstract call
  rw [check_open_eq]
  cases hrefused : (View.of_handle s.core).refused with
  | some e => rfl
  | none =>
    cases hcallback : watchers.callable_required callback with
    | some e => rfl
    | none => by_cases hos : os < 0 <;> cases alloc <;>
      simp [os_error, hos, stream_requests.no_memory, methods.no_memory]

/-- The three system calls of an abstract connect may fail one after the other. -/
theorem pipe_connect_abstract (s : pipe_connect.St) (callback : CallbackArg)
    (sock conn nonblock : Int) (alloc : Bool) :
    (pipe_connect.Pipe_func_connect s .abstract callback sock conn nonblock alloc).1 =
      call (View.of_pipe s) (watchers.callable_required callback <|>
        os_error sock <|> os_error conn <|> os_error (pipe_connect.uv_pipe_open s nonblock).1) alloc
        .PipeError (some 0) := by
  unfold pipe_connect.Pipe_func_connect
  cases hclosing : s.closing with
  | true =>
    rw [call_of_refused (e := .handle_closed)]
    · rfl
    · simp [View.of_pipe, View.refused, hclosing]
  | false =>
    have hrefused : (View.of_pipe s).refused = none := by
      simp [View.of_pipe, View.refused, hclosing]
    by_cases hcallback : callback = .callable
    · have hrequired : watchers.callable_required callback = none := if_pos hcallback
      unfold call
      rw [hrefused, hrequired]
      simp only [Bool.false_eq_true, if_false, hcallback, ne_eq, not_true_eq_false]
      unfold pipe_connect.Pipe_func_connect_abstract pipe_connect.raise_outcome
      by_cases hsock : sock < 0
      · simp [os_error, hsock]
      by_cases hconn : conn < 0
      · simp [os_error, hsock, hconn]
      by_cases hopen : (pipe_connect.uv_pipe_open s nonblock).1 < 0
      · simp [os_error, hsock, hconn, hopen]
      · cases alloc <;> simp [os_error, hsock, hconn, hopen, methods.no_memory,
          pipe_connect.no_memory]
    · have hrequired : watchers.callable_required callback =
          some (.text .TypeError "a callable is required") := if_neg hcallback
      unfold call
      rw [hrefused, hrequired]
      simp [hcallback]

/-- None is no callable. -/
theorem a_callable_eq {E : methods.Env} (hnone : E.callable methods.Py_None = false) (p : Ptr) :
    raised (methods.a_callable E p) = watchers.callable_required (callback_arg E p) := by
  unfold methods.a_callable watchers.callable_required callback_arg
  by_cases hp : p = methods.Py_None
  · simp [hp, hnone, raised]
  · cases hcallable : E.callable p <;> simp [hp, raised]

/-- The arguments of a connect of Methods. -/
theorem connect_args_eq (E : methods.Env) (name : methods.Name) (callback : Ptr) :
    (do
      let (name, callback) ← methods.parse (.ok (name, callback))
      methods.a_callable E callback
      return (name, callback)) = (methods.a_callable E callback).map fun _ => (name, callback) := by
  cases hcallable : methods.a_callable E callback <;>
    simp only [methods.parse_ok, bind, Except.bind, hcallable] <;> rfl

theorem methods_connect (E : methods.Env) (hnone : E.callable methods.Py_None = false) (w : World)
    (self callback : Ptr) :
    answer (methods.Pipe_func_connect E self (.ok (.ordinary, callback)) w) =
      call (View.of_obj (w.objs self)) (watchers.callable_required (callback_arg E callback))
        (E.malloc .connect_req) .PipeError (some 0) := by
  rw [← a_callable_eq hnone]
  unfold methods.Pipe_func_connect
  rw [connect_args_eq, checked_eq]
  cases hrefused : (View.of_obj (w.objs self)).refused with
  | some e =>
    rw [call_of_refused hrefused]
    rfl
  | none =>
    unfold call
    rw [hrefused]
    cases methods.a_callable E callback with
    | error e => rfl
    | ok _ =>
      let w' := w.take [callback]
      have huv : methods.call E .uv_pipe_connect [self] w' =
          .ok () (w'.log ⟨.uv_pipe_connect, [self]⟩) :=
        bind_of_ok (uv_eq (E := E) (w := w') .uv_pipe_connect (usable_of_refused hrefused))
      change answer ((methods.alloc_connect_req E callback >>= fun _ =>
        methods.call E .uv_pipe_connect [self] >>= fun _ => methods.Py_INCREF self) w') = _
      unfold methods.alloc_connect_req
      cases E.malloc .connect_req with
      | false => rfl
      | true =>
        rw [if_pos rfl, pure_bind, bind_of_ok huv]
        rfl

/-- A call that is checked raises its error, or the rest goes on. -/
theorem answer_of_checked_call {E : methods.Env} {w : World} (fn : UvFn) (self : Ptr)
    {hs : List Ptr} (h : methods.AllInit hs w) (rest : C Unit) :
    answer ((methods.checked_call E fn self hs >>= fun _ => rest) w) =
      match os_error (E.status fn) with
      | some e => .raise e
      | none => answer (rest (w.log ⟨fn, hs⟩)) := by
  unfold methods.checked_call methods.raise_if_negative os_error
  rw [bind_assoc, bind_of_ok (uv_eq_of_AllInit fn h)]
  by_cases herr : E.status fn < 0
  · simp only [if_pos herr]
    rfl
  · simp only [if_neg herr]
    rfl

theorem os_error_of_ok {os : Int} (h : 0 ≤ os) : os_error os = none := if_neg (Int.not_lt.mpr h)

/-- The private timer of an abstract connect starts. -/
theorem methods_connect_abstract (E : methods.Env) (hnone : E.callable methods.Py_None = false)
    (htimer : 0 ≤ E.status .uv_timer_init ∧ 0 ≤ E.status .uv_timer_start) (w : World)
    (self callback : Ptr) :
    answer (methods.Pipe_func_connect E self (.ok (.abstract, callback)) w) =
      call (View.of_obj (w.objs self)) (watchers.callable_required (callback_arg E callback) <|>
          os_error (E.status .socket) <|> os_error (E.status .connect) <|>
            os_error (E.status .uv_pipe_open)) (E.malloc .connect_req) .PipeError (some 0) := by
  rw [← a_callable_eq hnone]
  unfold methods.Pipe_func_connect
  rw [connect_args_eq, checked_eq]
  cases hrefused : (View.of_obj (w.objs self)).refused with
  | some e =>
    rw [call_of_refused hrefused]
    rfl
  | none =>
    unfold call
    rw [hrefused]
    cases methods.a_callable E callback with
    | error e => rfl
    | ok _ =>
      change answer (methods.Pipe_func_connect_abstract E self callback w) = _
      unfold methods.Pipe_func_connect_abstract
      have hself : methods.AllInit [self] w := by
        simpa [methods.AllInit] using (usable_of_refused hrefused).1
      have hnil : ∀ w : World, methods.AllInit [] w := by simp [methods.AllInit]
      rw [answer_of_checked_call .socket self (hnil w)]
      cases os_error (E.status .socket) with
      | some e => rfl
      | none =>
        dsimp only
        rw [answer_of_checked_call .connect self (hnil _)]
        cases os_error (E.status .connect) with
        | some e => rfl
        | none =>
          dsimp only
          rw [answer_of_checked_call .uv_pipe_open self (by exact hself)]
          cases os_error (E.status .uv_pipe_open) with
          | some e => rfl
          | none =>
            dsimp only [methods.check_malloc]
            cases E.malloc .connect_req with
            | false => rfl
            | true =>
              rw [if_pos rfl, methods.check_ok_bind,
                answer_of_checked_call .uv_timer_init self (hnil _), os_error_of_ok htimer.1]
              rw [← bind_pure_unit (x := methods.checked_call E .uv_timer_start self [])]
              refine (answer_of_checked_call .uv_timer_start self (hnil _) (pure ())).trans ?_
              rw [os_error_of_ok htimer.2]
              rfl

/-- The three models of a connect to an ordinary name. -/
theorem connect_agrees {s : stream_requests.SockSt} {t : pipe_connect.St} {E : methods.Env}
    {w : World} {self p : Ptr} (hnone : E.callable methods.Py_None = false)
    (hpipe : View.of_pipe t = View.of_handle s.core)
    (hobj : View.of_obj (w.objs self) = View.of_handle s.core) (sock conn nonblock : Int) :
    let callback := callback_arg E p
    let alloc := E.malloc .connect_req
    let answered := (stream_requests.Pipe_func_connect s callback alloc).1
    (pipe_connect.Pipe_func_connect t .ordinary callback sock conn nonblock alloc).1 = answered ∧
      answer (methods.Pipe_func_connect E self (.ok (.ordinary, p)) w) = answered := by
  intro callback alloc answered
  rw [pipe_connect_ordinary, methods_connect E hnone, hpipe, hobj]
  exact ⟨(requests_connect s callback alloc).symm, (requests_connect s callback alloc).symm⟩

/-- Those of a connect to an abstract name, where the timer starts. -/
theorem connect_abstract_agrees {s : stream_requests.SockSt} {t : pipe_connect.St}
    {E : methods.Env} {w : World} {self p : Ptr} {os nonblock : Int}
    (hnone : E.callable methods.Py_None = false)
    (htimer : 0 ≤ E.status .uv_timer_init ∧ 0 ≤ E.status .uv_timer_start)
    (hpipe : View.of_pipe t = View.of_handle s.core)
    (hobj : View.of_obj (w.objs self) = View.of_handle s.core)
    (hopen : (pipe_connect.uv_pipe_open t nonblock).1 = E.status .uv_pipe_open)
    (hos : os_error os = (os_error (E.status .socket) <|> os_error (E.status .connect) <|>
      os_error (E.status .uv_pipe_open))) :
    let callback := callback_arg E p
    let alloc := E.malloc .connect_req
    let answered := (stream_requests.Pipe_func_connect_abstract s callback os alloc).1
    (pipe_connect.Pipe_func_connect t .abstract callback (E.status .socket) (E.status .connect)
        nonblock alloc).1 = answered ∧
      answer (methods.Pipe_func_connect E self (.ok (.abstract, p)) w) = answered := by
  intro callback alloc answered
  have hrequests := requests_connect_abstract s callback os alloc
  rw [hos] at hrequests
  rw [pipe_connect_abstract, methods_connect_abstract E hnone htimer, hpipe, hobj, hopen]
  exact ⟨hrequests.symm, hrequests.symm⟩

/-! ## Process.spawn -/

/-- Spawn from where it has made the object: `failed` is the exception of an argument that cannot
be converted, and `status` is what uv_spawn returns. A process that did not start is closing. -/
def spawn (failed : Option PyErr) (status : Int) : Ret × View :=
  match failed with
  | some e => (.raise e, ⟨false, false⟩)
  | none =>
    if status < 0 then (.raise (.uv .ProcessError status), ⟨true, true⟩) else (.ok, ⟨true, false⟩)

/-- The exception of a conversion. -/
def failure {α : Type} : Except PyErr α → Option PyErr
  | .ok _ => none
  | .error e => some e

/-- pyuv.handle_types has what libuv knows of the object. -/
theorem types_spawn (failed : Option PyErr) (status : handle_types.Status) :
    (handle_types.Process_func_spawn failed status).map id View.of_object =
      spawn failed status.n := by
  cases failed with
  | some e => rfl
  | none =>
    unfold handle_types.Process_func_spawn spawn
    by_cases hneg : status.n < 0
    · simp only [hneg, if_true]
      rfl
    · simp only [hneg, if_false]
      rfl

/-- pyuv.watchers has its references. A `__del__` would run before the process is closed. -/
theorem watchers_spawn (s : watchers.St) (hnew : s.core = handle.fresh .none)
    (callback : CallbackArg) (failed : Option PyErr) (status : Int) :
    View.of_handle (watchers.Process_func_spawn s callback failed.isNone status).core =
      (spawn failed status).2 := by
  unfold watchers.Process_func_spawn
  rw [hnew]
  cases failed with
  | some e => rfl
  | none =>
    unfold spawn
    by_cases hneg : status < 0
    · simp only [hneg, if_true]
      rfl
    · simp only [hneg, if_false]
      rfl

/-- What follows uv_spawn, on the object that it has set up. -/
theorem spawned_eq {E : methods.Env} {self : Ptr} {a : methods.SpawnArgs} {w : World}
    (hobj : w.objs self = methods.started_process) (status : Int) :
    let run := methods.spawned E self a status w
    (answer run, View.of_obj ((methods.last run).objs self)) = spawn none status := by
  intro run
  by_cases hneg : status < 0
  · have hdropped : (w.drop [self]).objs self = methods.started_process := hobj
    obtain ⟨t, ht, hclosing, -⟩ :=
      methods.zombie_run (E := E) (e := .uv .ProcessError status) hdropped
    have hrun : run = .error (.raised (.uv .ProcessError status)) t := by
      rw [← ht]
      exact congrFun (if_pos hneg) w
    rw [hrun, spawn, if_pos hneg]
    rw [methods.last, hclosing, hdropped]
    rfl
  · have hrun : run = .ok () (((w.put self .on_exit_cb (some a.callback)).put self .stdio
        (a.stdio.map Prod.fst)).take [self]) := congrFun (if_neg hneg) w
    rw [hrun, spawn, if_neg hneg]
    change (Ret.ok, View.of_obj (w.objs self)) = _
    rw [hobj]
    rfl

/-- pyuv.methods has the fields and the calls of libuv. A base type has no structure for uv_spawn
to look at. -/
theorem methods_spawn (E : methods.Env) (w : World) (a : methods.SpawnArgs)
    (hargs : ∃ b, methods.spawn_args E (.ok a) = .ok b) (hself : E.malloc .self = true)
    (hstreams : ∀ streams, methods.spawn_options E a = .ok streams →
      ∀ p ∈ streams, (w.objs p).cls.is_base = false) :
    let run := methods.Process_func_spawn E (.ok a) w
    (answer run, View.of_obj ((methods.last run).objs E.fresh)) =
      spawn (failure (methods.spawn_options E a)) (E.status .uv_spawn) := by
  intro run
  cases hoptions : methods.spawn_options E a with
  | error e =>
    obtain ⟨b, hb⟩ := hargs
    rw [methods.spawn_args_ok hb] at hb
    -- the object is dropped before libuv hears of it
    let dropped := (methods.made_process E a w).drop [E.fresh]
    have hobj : dropped.objs E.fresh = methods.new_process := Function.update_self _ _ _
    have hdealloc : methods.Handle_tp_dealloc E E.fresh dropped =
        .ok () (dropped.put E.fresh .loop none) := methods.dealloc_unseen (by rw [hobj]; rfl)
    have hended : (methods.Handle_tp_dealloc E E.fresh >>= fun _ => (methods.raise e : C Unit))
        dropped = .error (.raised e) (dropped.put E.fresh .loop none) := bind_of_ok hdealloc
    have hrun : run = .error (.raised e) (dropped.put E.fresh .loop none) := by
      change methods.Process_func_spawn E (.ok a) w = _
      unfold methods.Process_func_spawn methods.check_malloc
      rw [hb, methods.check_ok_bind, if_pos hself, methods.check_ok_bind, hoptions]
      exact hended
    rw [hrun]
    change (Ret.raise e, View.of_obj (dropped.objs E.fresh)) = _
    rw [hobj]
    rfl
  | ok streams =>
    obtain ⟨streams', hstreams', hstarted⟩ :=
      methods.spawn_started ⟨hargs, hself, streams, hoptions⟩ w
    rw [hoptions] at hstreams'
    cases hstreams'
    have hbase : ∀ p ∈ E.fresh :: streams,
        ((methods.spawning E a w).objs p).cls.is_base = false := by
      intro p hp
      by_cases hnew : p = E.fresh
      · rw [hnew, methods.spawning_obj]
        rfl
      · rw [methods.spawning_objs hnew]
        exact hstreams streams hoptions p ((List.mem_cons.mp hp).resolve_left hnew)
    let asked := ((methods.spawning E a w).use (E.fresh :: streams)).log
      ⟨.uv_spawn, E.fresh :: streams⟩
    have huv : methods.uv E .uv_spawn (E.fresh :: streams) (methods.spawning E a w) =
        .ok (E.status .uv_spawn) asked := methods.uv_answer hbase
    have hrun : run = methods.spawned E E.fresh a (E.status .uv_spawn) asked :=
      hstarted.trans (bind_of_ok huv)
    have hobj : asked.objs E.fresh = methods.started_process := methods.spawning_obj
    rw [hrun]
    exact spawned_eq hobj (E.status .uv_spawn)

/-- The three models of a spawn whose arguments have been accepted. -/
theorem spawn_agrees {E : methods.Env} {w : World} {a : methods.SpawnArgs} {s : watchers.St}
    {callback : CallbackArg} {status : handle_types.Status} (hnew : s.core = handle.fresh .none)
    (hargs : ∃ b, methods.spawn_args E (.ok a) = .ok b) (hself : E.malloc .self = true)
    (hstreams : ∀ streams, methods.spawn_options E a = .ok streams →
      ∀ p ∈ streams, (w.objs p).cls.is_base = false)
    (hstatus : E.status .uv_spawn = status.n) :
    let failed := failure (methods.spawn_options E a)
    let run := methods.Process_func_spawn E (.ok a) w
    let made := (handle_types.Process_func_spawn failed status).map id View.of_object
    (answer run, View.of_obj ((methods.last run).objs E.fresh)) = made ∧
      View.of_handle (watchers.Process_func_spawn s callback failed.isNone status.n).core =
        made.2 := by
  intro failed run made
  have hmade : made = spawn failed status.n := types_spawn failed status
  rw [hmade, ← hstatus]
  exact ⟨methods_spawn E w a hargs hself hstreams,
    watchers_spawn s hnew callback failed (E.status .uv_spawn)⟩

/-! ## write and send -/

/-- The memory and libuv answer the same in both. -/
structure SameEnv (env : write_buffers.Env) (E : methods.Env) (fn : UvFn) : Prop where
  ctx : env.ctx_alloc = E.malloc .ctx
  views : env.views_alloc = E.malloc .views
  uv : ∀ bufs, env.uv bufs = E.status fn

/-- What an object is as a buffer: it exports one, or raises an exception. -/
def SameItem (E : methods.Env) (item : write_buffers.Item) (p : Ptr) : Prop :=
  raised item = (E.no_buffer p).map .cpython

/-- The argument `data`, by its type. -/
inductive SameData (E : methods.Env) : write_buffers.Data → methods.Data → Prop where
  | exporter {item : write_buffers.Item} {p : Ptr} :
      SameItem E item p → SameData E (.exporter item) (.exporter p)
  | sequence {items : List write_buffers.Item} {fast ps : List Ptr} :
      List.Forall₂ (SameItem E) items ps →
        SameData E (.sequence (.ok items)) (.sequence fast (.ok ps))
  | no_sequence {t : ExcType} {fast : List Ptr} :
      SameData E (.sequence (.error (.cpython t))) (.sequence fast (.error t))
  | unicode : SameData E .unicode .other
  | other : SameData E .other .other

/-- What a call of WriteBuffers gives back, none where it releases what it does not hold. -/
def write_answer {L : Type} : Option (write_buffers.Outcome × L) → Ret
  | none => .abort
  | some (.raised e, _) => .raise e
  | some (.refused e _, _) => .raise e
  | some (.submitted _ _, _) => .ok

/-- The class of the exception that a call of libuv leads to. -/
def Raises (exc : methods.Exc) (type : methods.UvType) (error : ExcType) : Prop :=
  exc = .type error ∨ exc = .stream ∧ methods.stream_exc type = some error

/-- The error of libuv as the exception of the type. -/
theorem uv_error_eq {w : World} {self : Ptr} (h : methods.Usable w self) {exc : methods.Exc}
    {error : ExcType} (hexc : Raises exc (w.objs self).type error) (err : Int) :
    methods.uv_error self err exc w = .ok (.uv error err) w := by
  rcases hexc with rfl | ⟨rfl, htype⟩
  · rfl
  · unfold methods.uv_error
    simp only
    rw [bind_of_ok (methods.deref_eq h.1), htype]
    rfl

/-- The call of libuv at the end. -/
theorem submit_data_answer {E : methods.Env} {w : World} {self : Ptr} (h : methods.Usable w self)
    {exc : methods.Exc} {error : ExcType} (hexc : Raises exc (w.objs self).type error) (fn : UvFn)
    (callback : Ptr) (views : List Ptr) :
    answer (methods.submit_data E self fn [] exc callback views w) =
      if E.status fn < 0 then .raise (.uv error (E.status fn)) else .ok := by
  let w' := w.take [callback]
  let called := w'.log ⟨fn, [self]⟩
  change answer (methods.submit E self fn [self] exc (callback :: [] ++ views) w') = _
  unfold methods.submit
  rw [bind_of_ok (uv_eq (w := w') fn h)]
  by_cases herr : E.status fn < 0
  · rw [if_pos herr, if_pos herr]
    rw [bind_of_ok (uv_error_eq (w := called) h hexc _)]
    rfl
  · rw [if_neg herr, if_neg herr]
    rfl

/-- An item without a buffer in one model is one in the other. -/
theorem no_buffer_of_error {E : methods.Env} {e : PyErr} {p : Ptr} (h : SameItem E (.error e) p) :
    ∃ t, E.no_buffer p = some t ∧ e = .cpython t := by
  obtain ⟨t, ht, hcpython⟩ := Option.map_eq_some_iff.mp h.symm
  exact ⟨t, ht, hcpython.symm⟩

theorem no_buffer_of_ok {E : methods.Env} {view : write_buffers.Buffer} {p : Ptr}
    (h : SameItem E (.ok view) p) : E.no_buffer p = none := Option.map_eq_none_iff.mp h.symm

/-- A buffer that WriteBuffers gives to libuv. -/
theorem submit_bytes_answer {env : write_buffers.Env} (hctx : env.ctx_alloc = true)
    (error : ExcType) (called : Bool) (view : write_buffers.Buffer)
    (L : ledgers.Ledger write_buffers.Res) :
    let status := env.uv [write_buffers.buf_of_bytes view]
    write_answer (write_buffers.submit_bytes error false called env (.ok view) L) =
      if status < 0 then .raise (.uv error status) else .ok := by
  intro status
  by_cases herr : status < 0
  · simp [write_buffers.submit_bytes, hctx, status, herr, write_answer, write_buffers.opt,
      ledgers.Ledger.releaseAll]
  · let ctx : write_buffers.Ctx :=
      { view_count := 1, heap := false, send_handle := false, callback := called }
    obtain ⟨M, hM, -⟩ := write_buffers.complete.spec ctx 0 true L
    have hheld : ctx.held L = (ledgers.Ledger.acquire .callback
      (ledgers.Ledger.acquire (.view 0) (ledgers.Ledger.acquire .ctx L))) := rfl
    rw [hheld] at hM
    rw [if_neg herr]
    simp [write_buffers.submit_bytes, hctx, status, herr, write_answer, write_buffers.opt, ctx, hM]

/-- The two models of a single buffer. -/
theorem submit_bytes_agrees {env : write_buffers.Env} {E : methods.Env} {fn : UvFn}
    (henv : SameEnv env E fn) {w : World} {self : Ptr} (h : methods.Usable w self)
    {exc : methods.Exc} {error : ExcType} (hexc : Raises exc (w.objs self).type error)
    {item : write_buffers.Item} {p : Ptr} (hitem : SameItem E item p) (called : Bool)
    (callback : Ptr) (L : ledgers.Ledger write_buffers.Res) :
    write_answer (write_buffers.submit_bytes error false called env item L) =
      answer (methods.submit_bytes E self fn [] exc callback p w) := by
  unfold methods.submit_bytes methods.check_malloc
  rw [← henv.ctx]
  cases hctx : env.ctx_alloc with
  | false =>
    unfold write_buffers.submit_bytes
    rw [hctx]
    rfl
  | true =>
    rw [if_pos rfl, methods.check_ok_bind]
    cases item with
    | error e =>
      obtain ⟨t, ht, rfl⟩ := no_buffer_of_error hitem
      rw [ht]
      unfold write_buffers.submit_bytes
      simp only [hctx, Bool.not_true, Bool.false_eq_true, if_false, ledgers.Ledger.release_acquire]
      rfl
    | ok view =>
      rw [no_buffer_of_ok hitem, submit_bytes_answer hctx, henv.uv]
      exact (submit_data_answer (w := w.take [p]) h hexc fn callback [p]).symm

theorem fill_views_ok (E : methods.Env) (fast : List Ptr) {views : List write_buffers.Buffer}
    {ps : List Ptr} (h : List.Forall₂ (SameItem E) (views.map Except.ok) ps) (done : List Ptr)
    (w : World) : ∃ t, methods.fill_views E fast done ps w = .ok () t ∧ t.objs = w.objs := by
  induction views generalizing done ps w with
  | nil =>
    cases h
    exact ⟨w, rfl, rfl⟩
  | cons view views ih =>
    cases h with
    | @cons _ p _ ps hitem hrest =>
      obtain ⟨t, ht, hobjs⟩ := ih hrest (p :: done) (w.take [p])
      refine ⟨t, ?_, hobjs⟩
      unfold methods.fill_views
      rw [no_buffer_of_ok hitem]
      exact ht

theorem fill_views_error (E : methods.Env) (fast : List Ptr) {views : List write_buffers.Buffer}
    {e : PyErr} {rest : List write_buffers.Item} {ps : List Ptr}
    (h : List.Forall₂ (SameItem E) (views.map Except.ok ++ Except.error e :: rest) ps)
    (done : List Ptr) (w : World) :
    ∃ t, methods.fill_views E fast done ps w = .error (.raised e) t := by
  induction views generalizing done ps w with
  | nil =>
    cases h with
    | cons hitem _ =>
      obtain ⟨t, ht, rfl⟩ := no_buffer_of_error hitem
      unfold methods.fill_views
      rw [ht]
      exact ⟨_, rfl⟩
  | cons view views ih =>
    cases h with
    | @cons _ p _ ps hitem hrest =>
      obtain ⟨t, ht⟩ := ih hrest (p :: done) (w.take [p])
      refine ⟨t, ?_⟩
      unfold methods.fill_views
      rw [no_buffer_of_ok hitem]
      exact ht

/-- Views that WriteBuffers gives to libuv. -/
theorem submit_views_answer {env : write_buffers.Env} (error : ExcType) (called : Bool)
    (views : List write_buffers.Buffer) (L : ledgers.Ledger write_buffers.Res)
    (hpos : 0 < views.length) (hmax : views.length ≤ write_buffers.INT_MAX)
    (hctx : env.ctx_alloc = true)
    (hviews : views.length ≤ write_buffers.ARRAY_SIZE_viewsml ∨ env.views_alloc = true) :
    let status := env.uv (views.map write_buffers.buf_of_view)
    write_answer
      (write_buffers.submit_sequence error false called env (.ok (views.map Except.ok)) L) =
      if status < 0 then .raise (.uv error status) else .ok := by
  intro status
  have hrun :=
    write_buffers.submit_sequence_of_views error false called env L views hpos hmax hctx hviews
  dsimp only at hrun
  rw [hrun]
  by_cases herr : status < 0
  · rw [if_pos herr, if_pos herr]
    rfl
  · rw [if_neg herr, if_neg herr]
    obtain ⟨M, hM, -⟩ := write_buffers.complete.spec _ 0 true (ledgers.Ledger.acquire .data_fast L)
    rw [hM]
    rfl

/-- What both refuse a sequence for, before they look at its items. -/
theorem bad_sequence_cases {env : write_buffers.Env} {E : methods.Env} {fn : UvFn}
    (henv : SameEnv env E fn) {items : List write_buffers.Item} {ps : List Ptr}
    (hlength : items.length = ps.length) (error : ExcType) (called : Bool)
    (L : ledgers.Ledger write_buffers.Res) :
    (∃ e, methods.bad_sequence E ps = some e ∧
        write_answer (write_buffers.submit_sequence error false called env (.ok items) L) =
          .raise e) ∨
      methods.bad_sequence E ps = none ∧ 0 < items.length ∧
        items.length ≤ write_buffers.INT_MAX ∧ env.ctx_alloc = true ∧
        (items.length ≤ write_buffers.ARRAY_SIZE_viewsml ∨ env.views_alloc = true) := by
  have hbad : methods.bad_sequence E ps =
      if items.length > write_buffers.INT_MAX then some (.text .ValueError "iterable is too long")
      else if items.length = 0 then some (.text .ValueError "iterable is empty")
      else if !env.ctx_alloc then some methods.no_memory
      else if items.length > write_buffers.ARRAY_SIZE_viewsml ∧ !env.views_alloc then
        some methods.no_memory
      else none := by
    rw [hlength, henv.ctx, henv.views]
    rfl
  rw [hbad]
  by_cases hmax : items.length > write_buffers.INT_MAX
  · exact Or.inl ⟨_, if_pos hmax, by simp [write_buffers.submit_sequence, hmax, write_answer]⟩
  by_cases hzero : items.length = 0
  · refine Or.inl ⟨.text .ValueError "iterable is empty", by simp [hzero], ?_⟩
    simp [write_buffers.submit_sequence, hzero, write_answer, write_buffers.INT_MAX]
  cases hctx : env.ctx_alloc with
  | false =>
    refine Or.inl ⟨methods.no_memory, by simp [hmax, hzero], ?_⟩
    simp [write_buffers.submit_sequence, hmax, hzero, hctx, write_answer, methods.no_memory]
  | true =>
    by_cases hviews : items.length > write_buffers.ARRAY_SIZE_viewsml ∧ env.views_alloc = false
    · refine Or.inl ⟨methods.no_memory, by simp [hmax, hzero, hviews], ?_⟩
      simp [write_buffers.submit_sequence, hmax, hzero, hctx, hviews, write_answer,
        methods.no_memory]
    · refine Or.inr ⟨by simp [hmax, hzero]; grind, ?_⟩
      refine ⟨Nat.pos_of_ne_zero hzero, Nat.not_lt.mp hmax, rfl, ?_⟩
      grind

/-- The two models of a sequence. -/
theorem submit_sequence_agrees {env : write_buffers.Env} {E : methods.Env} {fn : UvFn}
    (henv : SameEnv env E fn) {w : World} {self : Ptr} (h : methods.Usable w self)
    {exc : methods.Exc} {error : ExcType} (hexc : Raises exc (w.objs self).type error)
    {items : List write_buffers.Item} {ps : List Ptr} (hitems : List.Forall₂ (SameItem E) items ps)
    (called : Bool) (callback : Ptr) (fast : List Ptr) (L : ledgers.Ledger write_buffers.Res) :
    write_answer (write_buffers.submit_sequence error false called env (.ok items) L) =
      answer (methods.submit_sequence E self fn [] exc callback fast (.ok ps) w) := by
  rcases bad_sequence_cases henv hitems.length_eq error called L with
    ⟨e, hbad, hanswer⟩ | ⟨hbad, hpos, hmax, hctx, hviews⟩
  · rw [hanswer]
    unfold methods.submit_sequence
    rw [methods.parse_ok, methods.check_ok_bind, hbad]
    rfl
  · unfold methods.submit_sequence
    rw [methods.parse_ok, methods.check_ok_bind, hbad]
    change _ = answer ((methods.fill_views E fast [] ps >>= fun _ =>
      methods.submit_data E self fn [] exc callback (ps ++ fast)) (w.take fast))
    rcases write_buffers.items_cases items with ⟨views, rfl⟩ | ⟨views, e, rest, rfl⟩
    · rw [List.length_map] at hpos hmax hviews
      obtain ⟨t, ht, hobjs⟩ := fill_views_ok E fast hitems [] (w.take fast)
      have hobjs' : t.objs = w.objs := hobjs
      have ht' : methods.Usable t self := by
        unfold methods.Usable
        rw [hobjs']
        exact h
      rw [bind_of_ok ht, submit_data_answer ht' (by rw [hobjs']; exact hexc),
        submit_views_answer error called views L hpos hmax hctx hviews, henv.uv]
    · obtain ⟨t, ht⟩ := fill_views_error E fast hitems [] (w.take fast)
      rw [bind_of_error ht,
        write_buffers.submit_sequence_of_bad_item error false called env L views e
        rest hmax hctx hviews]
      rfl

/-- The data, behind the checks. -/
theorem submit_any_agrees {env : write_buffers.Env} {E : methods.Env}
    (henv : SameEnv env E .uv_write) {type : write_buffers.UvStreamType} {w : World}
    {self : Ptr} (h : methods.Usable w self)
    (htype : methods.stream_exc (w.objs self).type = some (write_buffers.stream_exc type))
    {a : write_buffers.Args} {data : methods.Data} (hdata : SameData E a.data data)
    (hchecks : (do
      write_buffers.check_handle a.self
      write_buffers.check_callback a.arity_ok a.callback) = .ok ())
    (callback : Ptr) (L : ledgers.Ledger write_buffers.Res) :
    write_answer (write_buffers.Stream_func_write type env a L) =
      answer (methods.submit_any E self .uv_write [] .stream callback data w) := by
  have hexc : Raises .stream (w.objs self).type (write_buffers.stream_exc type) :=
    Or.inr ⟨rfl, htype⟩
  obtain ⟨_, _, _, _⟩ := a
  unfold write_buffers.Stream_func_write
  rw [hchecks]
  cases hdata with
  | exporter hitem =>
    exact submit_bytes_agrees henv h hexc hitem _ callback L
  | sequence hitems =>
    exact submit_sequence_agrees henv h hexc hitems _ callback _ L
  | no_sequence => rfl
  | unicode => rfl
  | other => rfl

/-- The two models of a write to a stream. -/
theorem write_agrees {env : write_buffers.Env} {E : methods.Env} (henv : SameEnv env E .uv_write)
    {type : write_buffers.UvStreamType} {a : write_buffers.Args} {w : World} {self callback : Ptr}
    {data : methods.Data} (hview : View.of_obj (w.objs self) = ⟨a.self.initialized, a.self.closing⟩)
    (htype : methods.stream_exc (w.objs self).type = some (write_buffers.stream_exc type))
    (hargs : a.arity_ok = true) (hcallback : callback_arg E callback = a.callback)
    (hdata : SameData E a.data data) (L : ledgers.Ledger write_buffers.Res) :
    write_answer (write_buffers.Stream_func_write type env a L) =
      answer (methods.Stream_func_write E self (.ok (data, callback)) w) := by
  have hargs_eq : methods.request_args E (.ok (data, callback)) =
      if a.callback = .other then
        .error (.text .TypeError "'callback' must be a callable or None")
      else .ok (data, callback) := by
    unfold methods.request_args
    rw [methods.parse_ok, ← hcallback]
    change (methods.callable_or_None E _ callback >>= fun _ => pure (data, callback)) = _
    rw [callable_or_None_eq]
    split <;> rfl
  have hchecks : (do
      write_buffers.check_handle a.self
      write_buffers.check_callback a.arity_ok a.callback) =
        match (View.of_obj (w.objs self)).refused with
        | some e => .error e
        | none => if a.callback = .other then
            .error (.text .TypeError "'callback' must be a callable or None") else .ok () := by
    rw [hview, hargs]
    unfold write_buffers.check_handle write_buffers.check_callback View.refused
    cases a.self.initialized <;> cases a.self.closing <;> simp <;> rfl
  unfold methods.Stream_func_write
  rw [checked_eq, hargs_eq]
  cases hrefused : (View.of_obj (w.objs self)).refused with
  | some e =>
    rw [hrefused] at hchecks
    unfold write_buffers.Stream_func_write
    rw [hchecks]
    rfl
  | none =>
    rw [hrefused] at hchecks
    by_cases hother : a.callback = .other
    · rw [if_pos hother] at hchecks ⊢
      unfold write_buffers.Stream_func_write
      rw [hchecks]
      rfl
    · rw [if_neg hother] at hchecks ⊢
      exact submit_any_agrees henv (usable_of_refused hrefused) htype hdata hchecks callback L

end pyuv.shared_methods
