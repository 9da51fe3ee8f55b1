-- The handle types and the methods that start and stop them (src/timer.c, idle.c,
-- check.c, prepare.c, poll.c, signal.c, fs.c, async.c, stream.c, tcp.c, pipe.c,
-- udp.c, process.c and the SignalChecker of util.c), over what libuv keeps of a
-- handle. With the callbacks, one step of the life of a handle.
import Pyuv.Handle
import Mathlib.Algebra.Order.Field.Rat

set_option linter.style.nameCheck false

namespace pyuv.watchers

open handle

/-! ## The handle -/

/-- The types of handle that can be made. -/
inductive Kind where
  | Async | Check | FSEvent | FSPoll | Idle | Pipe | Poll | Prepare | Process
  | Signal | SignalChecker | TCP | Timer | TTY | UDP
deriving DecidableEq, Repr

/-- The types under Stream. -/
def Kind.stream : Kind → Bool
  | .TCP | .Pipe | .TTY => true
  | _ => false

/-- Idle, Check and Prepare have the same code. -/
def Kind.loop_watcher : Kind → Bool
  | .Idle | .Check | .Prepare => true
  | _ => false

/-- The exception class of a method that libuv refuses. -/
def Kind.error : Kind → ExcType
  | .Async => .AsyncError
  | .Check => .CheckError
  | .FSEvent => .FSEventError
  | .FSPoll => .FSPollError
  | .Idle => .IdleError
  | .Pipe => .PipeError
  | .Poll => .PollError
  | .Prepare => .PrepareError
  | .Process => .ProcessError
  | .Signal => .SignalError
  | .SignalChecker => .UVError
  | .TCP => .TCPError
  | .Timer => .TimerError
  | .TTY => .TTYError
  | .UDP => .UDPError

/-- What libuv and the object know of what the user has started. -/
structure Watch where
  -- the timer is in the heap, the watcher in its queue, the descriptor polled
  active : Bool
  -- handle->timer_cb is set
  timer_cb : Bool
  repeat_ms : Nat
  signum : Int
  -- UV_STREAM_READING, or a UDP socket that receives
  reading : Bool
  listening : Bool
  -- the callbacks that the object has
  callback : Bool
  on_read_cb : Bool
  on_new_connection_cb : Bool
deriving DecidableEq, Repr

/-- A handle on which nothing was started. -/
def Watch.stopped : Watch where
  active := false
  timer_cb := false
  repeat_ms := 0
  signum := 0
  reading := false
  listening := false
  callback := false
  on_read_cb := false
  on_new_connection_cb := false

/-- A handle with what it watches. -/
structure St where
  core : Handle
  watch : Watch
deriving DecidableEq, Repr

/-! ## libuv's part

A start function gives the code it returns, or none where an assertion of it
fails. Where the outcome depends on the system, it is an argument. A closing
handle is stopped by uv_close, and nothing below looks at its `watch` again. -/

/-- It never fails here: there is a callback, and the handle is open. -/
def uv_timer_start (repeat_ms : Nat) (w : Watch) : Option (Int × Watch) :=
  some (0, { w with active := true, timer_cb := true, repeat_ms := repeat_ms })

/-- The handle is active no more. -/
def uv_stop (w : Watch) : Watch := { w with active := false }

/-- A timer that was started once and repeats is started again. -/
def uv_timer_again (w : Watch) : Int × Watch :=
  if !w.timer_cb then (UV_EINVAL, w)
  else if w.repeat_ms ≠ 0 then (0, { w with active := true })
  else (0, w)

/-- uv_idle_start, uv_check_start and uv_prepare_start. -/
def uv_watcher_start (w : Watch) : Option (Int × Watch) := some (0, { w with active := true })

/-- That the events are such is an assertion. -/
def uv_poll_start (events : Int) (w : Watch) : Option (Int × Watch) :=
  if events < 0 ∨ 7 < events then none
  else some (0, { w with active := decide (events ≠ 0) })

/-- `os` is the answer of the system to the registration of the handler. -/
def uv_signal_start (signum os : Int) (w : Watch) : Option (Int × Watch) :=
  if signum = 0 then some (UV_EINVAL, w)
  else if signum = w.signum then some (0, w)
  else if os < 0 then some (os, { w with active := false, signum := 0 })
  else some (0, { w with active := true, signum := signum })

/-- The handler goes, too. -/
def uv_signal_stop (w : Watch) : Watch := { w with active := false, signum := 0 }

/-- `os` is the answer of inotify. -/
def uv_fs_event_start (os : Int) (w : Watch) : Option (Int × Watch) :=
  if w.active then some (UV_EINVAL, w)
  else if os < 0 then some (os, w)
  else some (0, { w with active := true })

/-- A poll that is active stays as it is. -/
def uv_fs_poll_start (os : Int) (w : Watch) : Option (Int × Watch) :=
  if w.active then some (0, w)
  else if os < 0 then some (os, w)
  else some (0, { w with active := true })

/-- That the stream has a descriptor is an assertion. -/
def uv_read_start (fd_open : Bool) (w : Watch) : Option (Int × Watch) :=
  if fd_open then some (0, { w with reading := true }) else none

/-- Stops the polling for input, which a listening stream lives on too. -/
def uv_read_stop (w : Watch) : Watch :=
  if w.reading then { w with reading := false, listening := false } else w

/-- `os` is the answer of the system. -/
def uv_listen (os : Int) (w : Watch) : Int × Watch :=
  if os < 0 then (os, w) else (0, { w with listening := true })

/-- `os` is the answer of the system to a socket that has to be bound first. -/
def uv_udp_recv_start (os : Int) (w : Watch) : Option (Int × Watch) :=
  if w.reading then some (UV_EALREADY, w)
  else if os < 0 then some (os, w)
  else some (0, { w with reading := true })

/-- The socket receives no more. -/
def uv_udp_recv_stop (w : Watch) : Watch := { w with reading := false }

/-! ## The methods -/

/-- The body that the start methods share: libuv is called, the callback takes its
place in the object, and the flag gets its reference. -/
def func_start (s : St) (error : ExcType) (bad_arg : Option PyErr)
    (uv_start : Watch → Option (Int × Watch)) (set_callback : Watch → Watch) : Ret × St :=
  match check_open s.core <|> bad_arg with
  | some e => (.raise e, s)
  | none =>
    match uv_start s.watch with
    | none => (.abort, s)
    | some (err, w) =>
      if err < 0 then (.raise (.uv error err), { s with watch := w })
      else (.ok, { s with watch := set_callback w, core := PYUV_HANDLE_INCREF s.core })

/-- The body that the stop methods share. libuv's stop functions return 0. -/
def func_stop (s : St) (uv_stop clear_callback : Watch → Watch) : Ret × St :=
  match check_open s.core with
  | some e => (.raise e, s)
  | none =>
    (.ok, { s with watch := clear_callback (uv_stop s.watch), core := PYUV_HANDLE_DECREF s.core })

/-- The check of a callback that has to be callable. -/
def callable_required (callback : CallbackArg) : Option PyErr :=
  if callback = .callable then none else some (.text .TypeError "a callable is required")

/-- The check of one that may be None. -/
def callable_or_None_required (callback : CallbackArg) : Option PyErr :=
  if callback = .other then some (.text .TypeError "'callback' must be a callable or None")
  else none

/-- The check of a number of seconds. -/
def not_negative (x : ℚ) : Option PyErr :=
  if x < 0 then some (.text .ValueError "a positive value or zero is required") else none

/-- The handle gets its callback. -/
def set_callback (w : Watch) : Watch := { w with callback := true }

/-- It gives its callback back. -/
def clear_callback (w : Watch) : Watch := { w with callback := false }

/-- A time of less than a millisecond counts as one. -/
def clamp (seconds : ℚ) : ℚ := if 0 < seconds ∧ seconds < 1 / 1000 then 1 / 1000 else seconds

/-- The cast of the product to an integer. That a product of doubles is rounded is left to
pyuv.periods. -/
def to_ms (seconds : ℚ) : Nat := (seconds * 1000).floor.toNat

/-- Timer.start(callback, timeout, repeat) -/
def Timer_func_start (s : St) (callback : CallbackArg) (timeout repeat_s : ℚ) : Ret × St :=
  func_start s .TimerError
    (callable_required callback <|> not_negative timeout <|> not_negative repeat_s)
    (uv_timer_start (to_ms (clamp repeat_s))) set_callback

/-- The callback stays. -/
def Timer_func_stop (s : St) : Ret × St := func_stop s uv_stop id

/-- The timer may run again, and the flag is left as it is. -/
def Timer_func_again (s : St) : Ret × St :=
  match check_open s.core with
  | some e => (.raise e, s)
  | none =>
    let (err, w) := uv_timer_again s.watch
    if err < 0 then (.raise (.uv .TimerError err), { s with watch := w })
    else (.ok, { s with watch := w })

/-- The handle may be closed already. There is no clamp here. -/
def Timer_repeat_set (s : St) (repeat_s : ℚ) : Ret × St :=
  if !s.core.initialized then (.raise .not_initialized, s)
  else if repeat_s < 0 then
    (.raise (.text .ValueError "a positive float or 0.0 is required"), s)
  else (.ok, { s with watch := { s.watch with repeat_ms := to_ms repeat_s } })

/-- Idle_func_start, Check_func_start and Prepare_func_start. -/
def Watcher_func_start (kind : Kind) (s : St) (callback : CallbackArg) : Ret × St :=
  func_start s kind.error (callable_required callback) uv_watcher_start set_callback

/-- Idle_func_stop, Check_func_stop and Prepare_func_stop. -/
def Watcher_func_stop (s : St) : Ret × St := func_stop s uv_stop clear_callback

/-- Poll.start(events, callback) -/
def Poll_func_start (s : St) (events : Int) (callback : CallbackArg) : Ret × St :=
  func_start s .PollError (callable_required callback) (uv_poll_start events) set_callback

/-- Poll.stop() -/
def Poll_func_stop (s : St) : Ret × St := func_stop s uv_stop clear_callback

/-- Signal.start(callback, signum) -/
def Signal_func_start (s : St) (callback : CallbackArg) (signum os : Int) : Ret × St :=
  func_start s .SignalError (callable_required callback) (uv_signal_start signum os) set_callback

/-- The callback stays. -/
def Signal_func_stop (s : St) : Ret × St := func_stop s uv_signal_stop id

/-- FSEvent.start(path, flags, callback) -/
def FSEvent_func_start (s : St) (callback : CallbackArg) (os : Int) : Ret × St :=
  func_start s .FSEventError (callable_required callback) (uv_fs_event_start os) set_callback

/-- FSEvent.stop() -/
def FSEvent_func_stop (s : St) : Ret × St := func_stop s uv_stop clear_callback

/-- FSPoll.start(path, interval, callback) -/
def FSPoll_func_start (s : St) (interval : ℚ) (callback : CallbackArg) (os : Int) : Ret × St :=
  func_start s .FSPollError (callable_required callback <|> not_negative interval)
    (uv_fs_poll_start os) set_callback

/-- FSPoll.stop() -/
def FSPoll_func_stop (s : St) : Ret × St := func_stop s uv_stop clear_callback

/-- There is no callback to keep. -/
def SignalChecker_func_start (s : St) : Ret × St := func_start s .UVError none (uv_poll_start 1) id

/-- SignalChecker.stop() -/
def SignalChecker_func_stop (s : St) : Ret × St := func_stop s uv_stop id

/-- start_read(callback) of the streams. -/
def Stream_func_start_read (kind : Kind) (s : St) (callback : CallbackArg) (fd_open : Bool) :
    Ret × St :=
  func_start s kind.error (callable_required callback) (uv_read_start fd_open)
    (fun w => { w with on_read_cb := true })

/-- stop_read() of the streams. -/
def Stream_func_stop_read (s : St) : Ret × St :=
  func_stop s uv_read_stop (fun w => { w with on_read_cb := false })

/-- UDP.start_recv(callback) -/
def UDP_func_start_recv (s : St) (callback : CallbackArg) (os : Int) : Ret × St :=
  func_start s .UDPError (callable_required callback) (uv_udp_recv_start os)
    (fun w => { w with on_read_cb := true })

/-- UDP.stop_recv() -/
def UDP_func_stop_recv (s : St) : Ret × St :=
  func_stop s uv_udp_recv_stop (fun w => { w with on_read_cb := false })

/-- TCP_func_listen and Pipe_func_listen. The flag is left as it is. -/
def Stream_func_listen (kind : Kind) (s : St) (callback : CallbackArg) (backlog os : Int) :
    Ret × St :=
  match check_open s.core with
  | some e => (.raise e, s)
  | none =>
    if backlog < 0 then (.raise (.text .ValueError "backlog must be bigger than 0"), s)
    else
      match callable_required callback with
      | some e => (.raise e, s)
      | none =>
        let (err, w) := uv_listen os s.watch
        if err < 0 then (.raise (.uv kind.error err), { s with watch := w })
        else (.ok, { s with watch := { w with on_new_connection_cb := true } })

/-- Async.send(). `uv` is the answer of libuv. -/
def Async_func_send (s : St) (uv : Int) : Ret × St :=
  match check_open s.core with
  | some e => (.raise e, s)
  | none => if uv < 0 then (.raise (.uv .AsyncError uv), s) else (.ok, s)

/-- Handle_func_close and, in front of it, Process_func_close. -/
def func_close (kind : Kind) (s : St) (callback : CallbackArg) : Ret × St :=
  if kind = .Process ∧ s.core.initialized = false then
    (.raise (.text .RuntimeError "Object was not initialized, spawn was not called."), s)
  else
    let (r, h) := Handle_func_close s.core callback
    (r, { s with core := h })

/-- The tp_init of every type but Process. `uv` is what uv_*_init returns. An Async
may be given None, and is active from here on. -/
def tp_init (kind : Kind) (s : St) (callback : CallbackArg) (uv : Int) : Ret × St :=
  if s.core.initialized then (.raise .already_initialized, s)
  else if kind = .Async ∧ callback = .other then
    (.raise (.text .TypeError "a callable is required"), s)
  else if uv < 0 then (.raise (.uv kind.error uv), s)
  else
    (.ok, { s with
      core := initialize_handle s.core
      watch := { Watch.stopped with
        active := decide (kind = .Async)
        callback := decide (kind = .Async ∧ callback = .callable) } })

/-- Process_func_spawn from where it has created the object. `prepared` says that the
options are read without an exception, `uv` is what uv_spawn returns. A failure drops
the object, which so far is spawn's own. -/
def Process_func_spawn (s : St) (callback : CallbackArg) (prepared : Bool) (uv : Int) : St :=
  let self := { initialize_handle s.core with initialized := false }
  if !prepared then { s with core := Py_DECREF { self with user := self.user - 1 } }
  else
    let self := { self with initialized := true }
    if uv < 0 then { s with core := Py_DECREF { self with user := self.user - 1 } }
    else
      { s with
        core := Py_INCREF { self with exit_ref := true }
        watch := { s.watch with callback := decide (callback = .callable) } }

/-- A call of a method, with what the system answers to it. -/
inductive Call where
  | Timer_start (callback : CallbackArg) (timeout repeat_s : ℚ)
  | Timer_stop
  | Timer_again
  | Timer_set_repeat (repeat_s : ℚ)
  | Watcher_start (callback : CallbackArg)
  | Watcher_stop
  | Poll_start (events : Int) (callback : CallbackArg)
  | Poll_stop
  | Signal_start (callback : CallbackArg) (signum os : Int)
  | Signal_stop
  | FSEvent_start (callback : CallbackArg) (os : Int)
  | FSEvent_stop
  | FSPoll_start (interval : ℚ) (callback : CallbackArg) (os : Int)
  | FSPoll_stop
  | SignalChecker_start
  | SignalChecker_stop
  | start_read (callback : CallbackArg) (fd_open : Bool)
  | stop_read
  | start_recv (callback : CallbackArg) (os : Int)
  | stop_recv
  | listen (callback : CallbackArg) (backlog os : Int)
  | Async_send (uv : Int)
  | close (callback : CallbackArg)
deriving DecidableEq, Repr

/-- The types that have the method. -/
def Call.method_of (kind : Kind) : Call → Bool
  | .Timer_start .. | .Timer_stop | .Timer_again | .Timer_set_repeat _ => kind = .Timer
  | .Watcher_start _ | .Watcher_stop => kind.loop_watcher
  | .Poll_start .. | .Poll_stop => kind = .Poll
  | .Signal_start .. | .Signal_stop => kind = .Signal
  | .FSEvent_start .. | .FSEvent_stop => kind = .FSEvent
  | .FSPoll_start .. | .FSPoll_stop => kind = .FSPoll
  | .SignalChecker_start | .SignalChecker_stop => kind = .SignalChecker
  | .start_read .. | .stop_read => kind.stream
  | .start_recv .. | .stop_recv => kind = .UDP
  | .listen .. => kind = .TCP ∨ kind = .Pipe
  | .Async_send _ => kind = .Async
  | .close _ => true

/-- The method of a call. -/
def Call.run (kind : Kind) (s : St) : Call → Ret × St
  | .Timer_start callback timeout repeat_s => Timer_func_start s callback timeout repeat_s
  | .Timer_stop => Timer_func_stop s
  | .Timer_again => Timer_func_again s
  | .Timer_set_repeat repeat_s => Timer_repeat_set s repeat_s
  | .Watcher_start callback => Watcher_func_start kind s callback
  | .Watcher_stop => Watcher_func_stop s
  | .Poll_start events callback => Poll_func_start s events callback
  | .Poll_stop => Poll_func_stop s
  | .Signal_start callback signum os => Signal_func_start s callback signum os
  | .Signal_stop => Signal_func_stop s
  | .FSEvent_start callback os => FSEvent_func_start s callback os
  | .FSEvent_stop => FSEvent_func_stop s
  | .FSPoll_start interval callback os => FSPoll_func_start s interval callback os
  | .FSPoll_stop => FSPoll_func_stop s
  | .SignalChecker_start => SignalChecker_func_start s
  | .SignalChecker_stop => SignalChecker_func_stop s
  | .start_read callback fd_open => Stream_func_start_read kind s callback fd_open
  | .stop_read => Stream_func_stop_read s
  | .start_recv callback os => UDP_func_start_recv s callback os
  | .stop_recv => UDP_func_stop_recv s
  | .listen callback backlog os => Stream_func_listen kind s callback backlog os
  | .Async_send uv => Async_func_send s uv
  | .close callback => func_close kind s callback

/-! ## The callbacks -/

/-- What libuv's read reports to pyuv__stream_read_cb. -/
inductive ReadResult where
  | data
  | nobufs
  | eof
  | error
deriving DecidableEq, Repr

/-- A callback of the extension that libuv may call in an iteration of the loop. -/
inductive Event where
  | timer
  | watcher
  | poll (ok : Bool)
  | check_signals (ok drained : Bool)
  | read (r : ReadResult)
  | recv
  | new_connection
  | async
  | exit
deriving DecidableEq, Repr

/-- The trampolines take a reference for as long as the Python callback runs. -/
def trampoline (s : St) (w : Watch) (f : Frame) : St :=
  { s with watch := w, core := Py_INCREF { s.core with frames := f :: s.core.frames } }

/-- pyuv__stream_read_cb up to the Python callback: an error stops the reading. -/
def pyuv__stream_read_cb (s : St) : ReadResult → St
  | .data => trampoline s s.watch .event
  | .nobufs => trampoline s (uv_read_stop s.watch) .event
  | .eof => trampoline s (uv_read_stop s.watch) .read_eof
  | .error => trampoline s (uv_read_stop s.watch) .read_error

/-- pyuv__check_signals up to PyErr_CheckSignals. It takes no reference. -/
def pyuv__check_signals (s : St) (ok drained : Bool) : St :=
  let w := if ok && drained then s.watch else uv_stop s.watch
  { s with watch := w, core := { s.core with frames := .check_signals :: s.core.frames } }

/-- The reference of spawn is given back. -/
def pyuv__process_exit_cb_end (h : Handle) : Handle := Py_DECREF { h with exit_ref := false }

/-- pyuv__process_exit_cb: the reference is the one that spawn took. -/
def pyuv__process_exit_cb (s : St) : St :=
  if s.watch.callback then
    { s with core := { s.core with frames := .exit_cb :: s.core.frames } }
  else { s with core := pyuv__process_exit_cb_end s.core }

/-- libuv has the callback due for the handle, which is open. -/
def Event.due (kind : Kind) (s : St) : Event → Bool
  | .timer => kind = .Timer ∧ s.watch.active
  | .watcher => (kind.loop_watcher ∨ kind = .Signal ∨ kind = .FSEvent ∨ kind = .FSPoll) ∧
      s.watch.active
  | .poll _ => kind = .Poll ∧ s.watch.active
  | .check_signals .. => kind = .SignalChecker ∧ s.watch.active
  | .read _ => kind.stream ∧ s.watch.reading ∧ ¬s.watch.listening
  | .recv => kind = .UDP ∧ s.watch.reading
  | .new_connection => kind.stream ∧ s.watch.listening
  | .async => kind = .Async ∧ s.watch.active
  | .exit => kind = .Process ∧ s.core.exit_ref ∧ .exit_cb ∉ s.core.frames

/-- The trampoline of an event, up to the call of Python. -/
def Event.begin (s : St) : Event → St
  -- libuv has stopped the timer, and started it again if it repeats
  | .timer => trampoline s (uv_timer_again (uv_stop s.watch)).2 .event
  | .watcher => trampoline s s.watch .event
  | .poll ok => trampoline s (if ok then s.watch else uv_stop s.watch) .event
  | .check_signals ok drained => pyuv__check_signals s ok drained
  | .read r => pyuv__stream_read_cb s r
  | .recv => trampoline s s.watch .event
  | .new_connection => trampoline s s.watch .event
  | .async => if s.watch.callback then trampoline s s.watch .event else s
  | .exit => pyuv__process_exit_cb s

/-- The rest of the C function after the Python code has returned, and of the libuv
function that has called it. -/
def finish_frame (s : St) : Frame → St
  | .event | .request | .finalizer | .check_signals => { s with core := Py_DECREF s.core }
  | .read_eof =>
    { s with core := Py_DECREF s.core, watch := { s.watch with reading := false } }
  | .read_error => { s with core := Py_DECREF s.core, watch := uv_read_stop s.watch }
  | .close_cb => { s with core := pyuv__handle_close_cb_end s.core }
  | .exit_cb => { s with core := pyuv__process_exit_cb_end s.core }

/-! ## The steps -/

/-- What the program and libuv do with a handle. -/
inductive Act where
  | tp_init (callback : CallbackArg) (uv : Int)
  | spawn (callback : CallbackArg) (prepared : Bool) (uv : Int)
  | call (c : Call)
  | incref
  | decref
  | loop_handles
  | event (ev : Event)
  | ret
  | finish_close
deriving DecidableEq, Repr

/-- Some Python code has the handle in its hands. -/
def usable (h : Handle) : Bool := decide (0 < h.user) || h.frames.any Frame.self_passed

/-- The state after a call. There is none when an assertion has ended the process. -/
def returned : Ret × St → Option St
  | (.abort, _) => none
  | (_, s) => some s

/-- One step of the user, of libuv or of the interpreter. None when it cannot be taken. -/
def step (kind : Kind) (s : St) : Act → Option St
  | .tp_init callback uv =>
    if usable s.core ∧ kind ≠ .Process then returned (tp_init kind s callback uv) else none
  | .spawn callback prepared uv =>
    if kind = .Process ∧ s.core = fresh s.core.finalizer ∧ callback ≠ .other then
      some (Process_func_spawn s callback prepared uv)
    else none
  | .call c =>
    if usable s.core ∧ c.method_of kind then returned (c.run kind s) else none
  | .incref =>
    if usable s.core then
      some { s with core := Py_INCREF { s.core with user := s.core.user + 1 } }
    else none
  | .decref =>
    if 0 < s.core.user then
      some { s with core := Py_DECREF { s.core with user := s.core.user - 1 } }
    else none
  | .loop_handles =>
    -- what is in the handle queue of the loop
    if s.core.initialized ∧ s.core.closed = false then
      some { s with core := Py_INCREF { s.core with user := s.core.user + 1 } }
    else none
  | .event ev =>
    if s.core.initialized ∧ s.core.closing = false ∧ ev.due kind s then some (ev.begin s) else none
  | .ret =>
    match s.core.frames with
    | [] => none
    | f :: fs => some (finish_frame { s with core := { s.core with frames := fs } } f)
  | .finish_close =>
    if s.core.closing ∧ s.core.closed = false then
      some { s with core := uv__finish_close s.core }
    else none

/-- A new object, before its __init__. -/
def new (finalizer : Finalizer) : St where
  core := fresh finalizer
  watch := .stopped

end pyuv.watchers
