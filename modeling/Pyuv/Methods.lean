-- The methods and the attribute setters of the handles and of the thread primitives
-- (src/handle.c, stream.c, tcp.c, pipe.c, abstract.c, tty.c, udp.c, poll.c, process.c,
-- timer.c, fs.c, util.c, thread.c and the like): which objects each of them checks, what it
-- calls of libuv, and what it does with the status.
import Pyuv.CApi

set_option linter.style.nameCheck false

namespace pyuv.methods

open addr_tuples (PyObj)

variable (E : Env)

/-! ## The shapes of the methods -/

/-- The two macros that nearly every method of a handle begins with. -/
def handle_guards (self : Ptr) : C Unit := do
  RAISE_IF_NOT_INITIALIZED self
  RAISE_IF_HANDLE_CLOSED self

/-- A `start`: the callback is stored and the handle kept once libuv has agreed. -/
def func_start (self : Ptr) (slot : Slot) (fn : UvFn) (exc : Exc) (args : Except PyErr Ptr) :
    C Unit := do
  handle_guards self
  let callback ← check args
  let err ← uv E fn [self]
  raise_if_negative self exc err
  modify (World.put self slot (some callback))
  PYUV_HANDLE_INCREF self

/-- The callback is dropped, or left. -/
def clear (self : Ptr) : Option Slot → C Unit
  | some slot => modify (World.put self slot none)
  | none => pure ()

/-- A `stop`: libuv first, then the callback and the flag. -/
def func_stop (self : Ptr) (fn : UvFn) (exc : Exc) (slot : Option Slot) : C Unit := do
  handle_guards self
  let err ← uv E fn [self]
  raise_if_negative self exc err
  clear self slot
  PYUV_HANDLE_DECREF self

/-- A method that only calls libuv. -/
def func_call {α : Type} (self : Ptr) (fn : UvFn) (exc : Exc) (args : Except PyErr α) :
    C Unit := do
  handle_guards self
  let _ ← check args
  let err ← uv E fn [self]
  raise_if_negative self exc err

/-- A method whose call of libuv is void. -/
def func_void {α : Type} (self : Ptr) (fn : UvFn) (args : Except PyErr α) : C Unit := do
  handle_guards self
  let _ ← check args
  call E fn [self]

/-- An attribute setter, which does not look whether the handle is closed. -/
def attr_set {α : Type} (self : Ptr) (fn : UvFn) (exc : ExcType) (value : Except PyErr α) :
    C Unit := do
  RAISE_IF_NOT_INITIALIZED self
  let _ ← check value
  let err ← uv E fn [self]
  raise_if_negative self (.type exc) err

/-- A method of a thread primitive. -/
def func_sync (self : Ptr) (fn : UvFn) : C Unit := do
  RAISE_IF_NOT_INITIALIZED self
  call E fn [self]

/-! ## src/handle.c -/

/-- The flag that uv_is_closing reads. -/
def set_closing (self : Ptr) (w : World) : World :=
  { w with objs := Function.update w.objs self { w.objs self with closing := true } }

/-- uv_close returns nothing. The handle counts as closing from here on. -/
def uv_close (self : Ptr) : C Unit := do
  call E .uv_close [self]
  modify (set_closing self)

/-- The callback is stored over what was there, with a reference of its own. -/
def Handle_func_close (self : Ptr) (args : Args Ptr) : C Unit := do
  handle_guards self
  let callback ← check do
    let callback ← parse args
    callable_or_None E "a callable or None is required" callback
    return callback
  Py_INCREF callback
  modify (World.set_slot self .on_close_cb (some callback))
  Py_INCREF self
  uv_close E self

/-- It has no check of the handle. -/
def Handle_ref_set (self : Ptr) (val : Args Int) : C Unit := do
  let ref ← check (parse val)
  if ref ≠ 0 then call E .uv_ref [self] else call E .uv_unref [self]

/-- The setter of `__dict__`, which has no check of the handle either. -/
def Handle_dict_set (self : Ptr) (val : Option Ptr) : C Unit := do
  let val ← check <| match val with
    | none => .error (.text .TypeError "__dict__ may not be deleted")
    | some val =>
      if E.is_dict val then .ok val
      else .error (.text .TypeError "__dict__ must be a dictionary")
  modify (World.put self .dict (some val))

/-! ## src/async.c, timer.c, prepare.c, idle.c, check.c, signal.c, poll.c, fs.c, util.c -/

/-- Async.send() -/
def Async_func_send (self : Ptr) : C Unit :=
  func_call E self .uv_async_send (.type .AsyncError) (.ok ())

/-- Where a value below a millisecond is set to one, libuv is told another number. -/
def Timer_func_start (self : Ptr) (args : Args (Ptr × ℚ × ℚ)) : C Unit :=
  func_start E self .callback .uv_timer_start (.type .TimerError) do
    let (callback, timeout, repeat_s) ← parse args
    a_callable E callback
    not_negative "a positive value or zero is required" timeout
    not_negative "a positive value or zero is required" repeat_s
    return callback

/-- Timer.stop() leaves the callback where it is. -/
def Timer_func_stop (self : Ptr) : C Unit :=
  func_stop E self .uv_timer_stop (.type .TimerError) none

/-- Timer.again() -/
def Timer_func_again (self : Ptr) : C Unit :=
  func_call E self .uv_timer_again (.type .TimerError) (.ok ())

/-- The value of an attribute that is set, or deleted. -/
def new_value {α : Type} : Option (Args α) → Except PyErr α
  | none => .error (.text .TypeError "cannot delete attribute")
  | some value => parse value

/-- The setter of Timer.repeat -/
def Timer_repeat_set (self : Ptr) (value : Option (Args ℚ)) : C Unit := do
  RAISE_IF_NOT_INITIALIZED self
  let _ ← check do
    let repeat_s ← new_value value
    not_negative "a positive float or 0.0 is required" repeat_s
  call E .uv_timer_set_repeat [self]

/-- The arguments of a `start` that are a callable, and others of no interest. -/
def start_args (args : Args Ptr) : Except PyErr Ptr := do
  let callback ← parse args
  a_callable E callback
  return callback

/-- Prepare.start(callback) -/
def Prepare_func_start (self : Ptr) (args : Args Ptr) : C Unit :=
  func_start E self .callback .uv_prepare_start (.type .PrepareError) (start_args E args)

/-- Prepare.stop() -/
def Prepare_func_stop (self : Ptr) : C Unit :=
  func_stop E self .uv_prepare_stop (.type .PrepareError) (some .callback)

/-- Idle.start(callback) -/
def Idle_func_start (self : Ptr) (args : Args Ptr) : C Unit :=
  func_start E self .callback .uv_idle_start (.type .IdleError) (start_args E args)

/-- Idle.stop() -/
def Idle_func_stop (self : Ptr) : C Unit :=
  func_stop E self .uv_idle_stop (.type .IdleError) (some .callback)

/-- Check.start(callback) -/
def Check_func_start (self : Ptr) (args : Args Ptr) : C Unit :=
  func_start E self .callback .uv_check_start (.type .CheckError) (start_args E args)

/-- Check.stop() -/
def Check_func_stop (self : Ptr) : C Unit :=
  func_stop E self .uv_check_stop (.type .CheckError) (some .callback)

/-- Signal.start(callback, signum) -/
def Signal_func_start (self : Ptr) (args : Args Ptr) : C Unit :=
  func_start E self .callback .uv_signal_start (.type .SignalError) (start_args E args)

/-- Signal.stop() leaves the callback where it is. -/
def Signal_func_stop (self : Ptr) : C Unit :=
  func_stop E self .uv_signal_stop (.type .SignalError) none

/-- Poll.start(events, callback) -/
def Poll_func_start (self : Ptr) (args : Args Ptr) : C Unit :=
  func_start E self .callback .uv_poll_start (.type .PollError) (start_args E args)

/-- Poll.stop() -/
def Poll_func_stop (self : Ptr) : C Unit :=
  func_stop E self .uv_poll_stop (.type .PollError) (some .callback)

/-- Poll.fileno() -/
def Poll_func_fileno (self : Ptr) : C Unit :=
  func_call E self .uv_fileno (.type .PollError) (.ok ())

/-- FSEvent.start(path, flags, callback) -/
def FSEvent_func_start (self : Ptr) (args : Args Ptr) : C Unit :=
  func_start E self .callback .uv_fs_event_start (.type .FSEventError) (start_args E args)

/-- FSEvent.stop() -/
def FSEvent_func_stop (self : Ptr) : C Unit :=
  func_stop E self .uv_fs_event_stop (.type .FSEventError) (some .callback)

/-- FSPoll.start(path, interval, callback) -/
def FSPoll_func_start (self : Ptr) (args : Args (Ptr × ℚ)) : C Unit :=
  func_start E self .callback .uv_fs_poll_start (.type .FSPollError) do
    let (callback, interval) ← parse args
    a_callable E callback
    not_negative "a positive value or zero is required" interval
    return callback

/-- FSPoll.stop() -/
def FSPoll_func_stop (self : Ptr) : C Unit :=
  func_stop E self .uv_fs_poll_stop (.type .FSPollError) (some .callback)

/-- There is no callback to store. -/
def SignalChecker_func_start (self : Ptr) : C Unit := do
  handle_guards self
  let err ← uv E .uv_poll_start [self]
  raise_if_negative self (.type .UVError) err
  PYUV_HANDLE_INCREF self

/-- SignalChecker.stop() -/
def SignalChecker_func_stop (self : Ptr) : C Unit :=
  func_stop E self .uv_poll_stop (.type .UVError) none

/-! ## Requests -/

/-- The last part of a method that submits a request. What it has taken is given back when
libuv refuses, and else the handle is kept for the callback. -/
def submit (self : Ptr) (fn : UvFn) (hs : List Ptr) (exc : Exc) (taken : List Ptr) : C Unit := do
  let err ← uv E fn hs
  if err < 0 then do
    let e ← uv_error self err exc
    modify (World.drop taken)
    raise e
  else Py_INCREF self

/-- A call on a buffer that the format "y*" has filled in. -/
def func_try (self : Ptr) (fn : UvFn) (exc : Exc) (args : Args (Except PyErr Unit × Ptr)) :
    C Unit := do
  handle_guards self
  let (addr, data) ← check (parse args)
  Py_INCREF data
  match addr with
  | .error e => do
    Py_DECREF data
    raise e
  | .ok _ => do
    let err ← uv E fn [self]
    if err < 0 then do
      let e ← uv_error self err exc
      Py_DECREF data
      raise e
    else Py_DECREF data

/-- The argument `data`. Of a sequence, `fast` are the references that PySequence_Fast takes:
one to a list or tuple, or one to each item of another sequence. -/
inductive Data where
  | exporter (view : Ptr)
  | sequence (fast : List Ptr) (items : Args (List Ptr))
  | other

def ARRAY_SIZE_viewsml : Nat := 4
def INT_MAX : Nat := 0x7fffffff

/-- What a write and a send do between the buffers and the call of libuv. `hs` has the
handle that is sent along. -/
def submit_data (self : Ptr) (fn : UvFn) (hs : List Ptr) (exc : Exc) (callback : Ptr)
    (views : List Ptr) : C Unit := do
  modify (World.take (callback :: hs))
  -- only a pipe can send a handle
  let type ← if hs = [] then pure .UV_NAMED_PIPE else Obj.type <$> deref self
  if type = .UV_NAMED_PIPE then submit E self fn (self :: hs) exc (callback :: hs ++ views)
  else throw .crash

/-- The path of a single buffer. -/
def submit_bytes (self : Ptr) (fn : UvFn) (hs : List Ptr) (exc : Exc) (callback data : Ptr) :
    C Unit := do
  check (check_malloc E .ctx)
  check <| match E.no_buffer data with
    | some t => .error (.cpython t)
    | none => .ok ()
  Py_INCREF data
  submit_data E self fn hs exc callback [data]

/-- The loop over the items. At the label `error` the views that are filled are released, and
the sequence. -/
def fill_views (fast done : List Ptr) : List Ptr → C Unit
  | [] => pure ()
  | item :: items =>
    match E.no_buffer item with
    | some t => do
      modify (World.drop (done ++ fast))
      raise (.cpython t)
    | none => do
      Py_INCREF item
      fill_views fast (item :: done) items

/-- What a sequence is refused for before its items are looked at. -/
def bad_sequence (items : List Ptr) : Option PyErr :=
  if items.length > INT_MAX then some (.text .ValueError "iterable is too long")
  else if items.length = 0 then some (.text .ValueError "iterable is empty")
  else if !E.malloc .ctx then some no_memory
  else if items.length > ARRAY_SIZE_viewsml ∧ !E.malloc .views then some no_memory
  else none

/-- The path of a sequence. The references to its items stay with the request. -/
def submit_sequence (self : Ptr) (fn : UvFn) (hs : List Ptr) (exc : Exc) (callback : Ptr)
    (fast : List Ptr) (items : Args (List Ptr)) : C Unit := do
  let items ← check (parse items)
  modify (World.take fast)
  match bad_sequence E items with
  | some e => do
    modify (World.drop fast)
    raise e
  | none => do
    fill_views E fast [] items
    submit_data E self fn hs exc callback (items ++ fast)

/-- The argument `data`, by its type. -/
def submit_any (self : Ptr) (fn : UvFn) (hs : List Ptr) (exc : Exc) (callback : Ptr) :
    Data → C Unit
  | .exporter view => submit_bytes E self fn hs exc callback view
  | .sequence fast items => submit_sequence E self fn hs exc callback fast items
  | .other => raise (.text .TypeError "only bytes and sequences are supported")

/-! ## src/stream.c -/

/-- The callback is not looked at. -/
def Stream_func_shutdown (self : Ptr) (args : Args Ptr) : C Unit := do
  handle_guards self
  let callback ← check (parse args)
  check (check_malloc E .ctx)
  Py_INCREF callback
  submit E self .uv_shutdown [self] .stream [callback]

/-- start_read(callback) -/
def Stream_func_start_read (self : Ptr) (args : Args Ptr) : C Unit :=
  func_start E self .on_read_cb .uv_read_start .stream (start_args E args)

/-- stop_read() -/
def Stream_func_stop_read (self : Ptr) : C Unit :=
  func_stop E self .uv_read_stop .stream (some .on_read_cb)

/-- try_write(data) -/
def Stream_func_try_write (self : Ptr) (args : Args Ptr) : C Unit :=
  func_try E self .uv_try_write .stream (args.map fun view => (.ok (), view))

/-- The arguments of a write or a send: the data and the callback. -/
def request_args (args : Args (Data × Ptr)) : Except PyErr (Data × Ptr) := do
  let (data, callback) ← parse args
  callable_or_None E "'callback' must be a callable or None" callback
  return (data, callback)

/-- write(data, [callback]) -/
def Stream_func_write (self : Ptr) (args : Args (Data × Ptr)) : C Unit := do
  handle_guards self
  let (data, callback) ← check (request_args E args)
  submit_any E self .uv_write [] .stream callback data

/-- fileno() -/
def Stream_func_fileno (self : Ptr) : C Unit := func_call E self .uv_fileno .stream (.ok ())

/-- set_blocking(enable) -/
def Stream_func_set_blocking (self : Ptr) (args : Args Bool) : C Unit :=
  func_call E self .uv_stream_set_blocking .stream (parse args)

/-! ## src/tcp.c, pipe.c, abstract.c, tty.c -/

/-- The two listen methods. No reference is taken for the handle. -/
def func_listen (self : Ptr) (exc : ExcType) (args : Args (Ptr × Int)) : C Unit := do
  handle_guards self
  let callback ← check do
    let (callback, backlog) ← parse args
    if backlog < 0 then .error (.text .ValueError "backlog must be bigger than 0")
    a_callable E callback
    return callback
  let err ← uv E .uv_listen [self]
  raise_if_negative self (.type exc) err
  modify (World.put self .on_new_connection_cb (some callback))

/-- The arguments of a bind, and of other methods that begin with an address tuple. -/
def address_args (args : Args PyObj) : Except PyErr Unit := do
  let addr ← parse args
  address E addr

/-- TCP.bind(addr, [flags]) -/
def TCP_func_bind (self : Ptr) (args : Args PyObj) : C Unit :=
  func_call E self .uv_tcp_bind (.type .TCPError) (address_args E args)

/-- TCP.listen(callback, [backlog]) -/
def TCP_func_listen (self : Ptr) (args : Args (Ptr × Int)) : C Unit :=
  func_listen E self .TCPError args

/-- Neither the type of the client's structure nor its state is looked at. -/
def TCP_func_accept (self : Ptr) (args : Args Ptr) : C Unit := do
  handle_guards self
  let client ← check (parse args)
  let w ← get
  check <| if (w.objs client).cls.is_stream then .ok ()
    else .error (.text .TypeError "Only stream objects are supported for accept")
  let err ← uv E .uv_accept [self, client]
  raise_if_negative self (.type .TCPError) err

/-- The request of a connect, where the callback is held already. -/
def alloc_connect_req (callback : Ptr) : C Unit :=
  if E.malloc .connect_req then pure ()
  else do
    Py_DECREF callback
    raise no_memory

/-- TCP.connect(addr, callback) -/
def TCP_func_connect (self : Ptr) (args : Args (PyObj × Ptr)) : C Unit := do
  handle_guards self
  let callback ← check do
    let (addr, callback) ← parse args
    a_callable E callback
    address E addr
    return callback
  Py_INCREF callback
  alloc_connect_req E callback
  submit E self .uv_tcp_connect [self] (.type .TCPError) [callback]

/-- TCP.getsockname() -/
def TCP_func_getsockname (self : Ptr) : C Unit :=
  func_call E self .uv_tcp_getsockname (.type .TCPError) (.ok ())

/-- TCP.getpeername() -/
def TCP_func_getpeername (self : Ptr) : C Unit :=
  func_call E self .uv_tcp_getpeername (.type .TCPError) (.ok ())

/-- TCP.nodelay(enable) -/
def TCP_func_nodelay (self : Ptr) (args : Args Bool) : C Unit :=
  func_call E self .uv_tcp_nodelay (.type .TCPError) (parse args)

/-- TCP.keepalive(enable, delay) -/
def TCP_func_keepalive (self : Ptr) (args : Args (Bool × Nat)) : C Unit :=
  func_call E self .uv_tcp_keepalive (.type .TCPError) (parse args)

/-- TCP.simultaneous_accepts(enable) -/
def TCP_func_simultaneous_accepts (self : Ptr) (args : Args Bool) : C Unit :=
  func_call E self .uv_tcp_simultaneous_accepts (.type .TCPError) (parse args)

/-- TCP.open(fd) -/
def TCP_func_open (self : Ptr) (args : Args Int) : C Unit :=
  func_call E self .uv_tcp_open (.type .TCPError) (parse args)

/-- The setter of TCP.send_buffer_size -/
def TCP_sndbuf_set (self : Ptr) (value : Option (Args Int)) : C Unit :=
  attr_set E self .uv_send_buffer_size .TCPError (new_value value)

/-- That of TCP.receive_buffer_size -/
def TCP_rcvbuf_set (self : Ptr) (value : Option (Args Int)) : C Unit :=
  attr_set E self .uv_recv_buffer_size .TCPError (new_value value)

/-- The name of a pipe, as far as it matters: it begins with a null byte, or it does not. -/
inductive Name where
  | ordinary
  | abstract
deriving DecidableEq, Repr

/-- `if (err < 0)` after one of the calls on the way to an abstract name. -/
def checked_call (fn : UvFn) (self : Ptr) (hs : List Ptr) : C Unit := do
  let err ← uv E fn hs
  raise_if_negative self (.type .PipeError) err

/-- A bind by hand. -/
def Pipe_func_bind_abstract (self : Ptr) : C Unit := do
  checked_call E .socket self []
  checked_call E .bind self []
  checked_call E .uv_pipe_open self [self]

/-- Pipe.bind(name) -/
def Pipe_func_bind (self : Ptr) (args : Args Name) : C Unit := do
  handle_guards self
  let name ← check (parse args)
  match name with
  | .abstract => Pipe_func_bind_abstract E self
  | .ordinary => checked_call E .uv_pipe_bind self [self]

/-- Pipe.listen(callback, [backlog]) -/
def Pipe_func_listen (self : Ptr) (args : Args (Ptr × Int)) : C Unit :=
  func_listen E self .PipeError args

/-- Is the object one that a pipe can carry? Of a stream, its libuv structure says it. -/
def carried (p : Ptr) (wrong_type wrong_class : String) : C Unit := do
  let w ← get
  if (w.objs p).cls.is_stream then do
    let o ← deref p
    check <| if o.type = .UV_TCP ∨ o.type = .UV_NAMED_PIPE then .ok ()
      else .error (.text .TypeError wrong_type)
  else check <| if (w.objs p).cls = .UDP then .ok () else .error (.text .TypeError wrong_class)

/-- Pipe.accept(client) -/
def Pipe_func_accept (self : Ptr) (args : Args Ptr) : C Unit := do
  handle_guards self
  let client ← check (parse args)
  carried client "Only TCP and Pipe objects are supported for accept"
    "Only Stream and UDP objects are supported for accept"
  let err ← uv E .uv_accept [self, client]
  raise_if_negative self (.type .PipeError) err

/-- The pipe and the callback are kept for a timer of the extension's own. When this timer does
not start, the references stay. -/
def Pipe_func_connect_abstract (self callback : Ptr) : C Unit := do
  checked_call E .socket self []
  checked_call E .connect self []
  checked_call E .uv_pipe_open self [self]
  check (check_malloc E .connect_req)
  checked_call E .uv_timer_init self []
  modify (World.take [self, callback])
  checked_call E .uv_timer_start self []

/-- Pipe.connect(name, callback) -/
def Pipe_func_connect (self : Ptr) (args : Args (Name × Ptr)) : C Unit := do
  handle_guards self
  let (name, callback) ← check do
    let (name, callback) ← parse args
    a_callable E callback
    return (name, callback)
  match name with
  | .abstract => Pipe_func_connect_abstract E self callback
  | .ordinary => do
    Py_INCREF callback
    alloc_connect_req E callback
    call E .uv_pipe_connect [self]
    Py_INCREF self

/-- Pipe.open(fd) -/
def Pipe_func_open (self : Ptr) (args : Args Int) : C Unit :=
  func_call E self .uv_pipe_open (.type .PipeError) (parse args)

/-- Pipe.pending_instances(count) -/
def Pipe_func_pending_instances (self : Ptr) (args : Args Int) : C Unit :=
  func_void E self .uv_pipe_pending_instances (parse args)

/-- Pipe.pending_handle_type() -/
def Pipe_func_pending_handle_type (self : Ptr) : C Unit :=
  func_void (α := Unit) E self .uv_pipe_pending_type (.ok ())

/-- Pipe.write(data, [callback, send_handle]) -/
def Pipe_func_write (self : Ptr) (args : Args ((Data × Ptr) × Option Ptr)) : C Unit := do
  handle_guards self
  let (a, send_handle) ← check (parse args)
  let (data, callback) ← check (request_args E (.ok a))
  match send_handle with
  | none => submit_any E self .uv_write [] .stream callback data
  | some p => do
    carried p "Only TCP and Pipe objects are supported" "Only Stream and UDP objects are supported"
    submit_any E self .uv_write2 [p] .stream callback data

/-- Pipe.getsockname() -/
def Pipe_func_getsockname (self : Ptr) : C Unit :=
  func_call E self .uv_pipe_getsockname (.type .PipeError) (.ok ())

/-- Pipe.getpeername() -/
def Pipe_func_getpeername (self : Ptr) : C Unit :=
  func_call E self .uv_pipe_getpeername (.type .PipeError) (.ok ())

/-- The setter of Pipe.send_buffer_size -/
def Pipe_sndbuf_set (self : Ptr) (value : Option (Args Int)) : C Unit :=
  attr_set E self .uv_send_buffer_size .PipeError (new_value value)

/-- That of Pipe.receive_buffer_size -/
def Pipe_rcvbuf_set (self : Ptr) (value : Option (Args Int)) : C Unit :=
  attr_set E self .uv_recv_buffer_size .PipeError (new_value value)

/-- TTY.set_mode(mode) -/
def TTY_func_set_mode (self : Ptr) (args : Args Int) : C Unit :=
  func_call E self .uv_tty_set_mode (.type .TTYError) (parse args)

/-- A method of the class. The status is not looked at. -/
def TTY_func_reset_mode : C Unit := call E .uv_tty_reset_mode []

/-- TTY.get_winsize() -/
def TTY_func_get_winsize (self : Ptr) : C Unit :=
  func_call E self .uv_tty_get_winsize (.type .TTYError) (.ok ())

/-! ## src/udp.c -/

/-- UDP.bind(addr, [flags]) -/
def UDP_func_bind (self : Ptr) (args : Args PyObj) : C Unit :=
  func_call E self .uv_udp_bind (.type .UDPError) (address_args E args)

/-- UDP.start_recv(callback) -/
def UDP_func_start_recv (self : Ptr) (args : Args Ptr) : C Unit :=
  func_start E self .on_read_cb .uv_udp_recv_start (.type .UDPError) (start_args E args)

/-- UDP.stop_recv() -/
def UDP_func_stop_recv (self : Ptr) : C Unit :=
  func_stop E self .uv_udp_recv_stop (.type .UDPError) (some .on_read_cb)

/-- UDP.try_send(addr, data) -/
def UDP_func_try_send (self : Ptr) (args : Args (PyObj × Ptr)) : C Unit :=
  func_try E self .uv_udp_try_send (.type .UDPError)
    (args.map fun (addr, view) => (address E addr, view))

/-- UDP.send(addr, data, [callback]) -/
def UDP_func_send (self : Ptr) (args : Args (PyObj × Data × Ptr)) : C Unit := do
  handle_guards self
  let (data, callback) ← check do
    let (addr, data) ← parse args
    let data ← request_args E (.ok data)
    address E addr
    return data
  submit_any E self .uv_udp_send [] (.type .UDPError) callback data

/-- UDP.set_membership(address, membership, [interface]) -/
def UDP_func_set_membership (self : Ptr) (args : Args Int) : C Unit :=
  func_call E self .uv_udp_set_membership (.type .UDPError) (parse args)

/-- UDP.set_multicast_interface(interface) -/
def UDP_func_set_multicast_interface (self : Ptr) (args : Args Unit) : C Unit :=
  func_call E self .uv_udp_set_multicast_interface (.type .UDPError) (parse args)

/-- UDP.getsockname() -/
def UDP_func_getsockname (self : Ptr) : C Unit :=
  func_call E self .uv_udp_getsockname (.type .UDPError) (.ok ())

/-- The argument of both setters of a ttl. -/
def ttl_args (args : Args Int) : Except PyErr Unit := do
  let ttl ← parse args
  if ttl < 0 ∨ ttl > 255 then .error (.text .ValueError "ttl must be between 0 and 255")

/-- UDP.set_multicast_ttl(ttl) -/
def UDP_func_set_multicast_ttl (self : Ptr) (args : Args Int) : C Unit :=
  func_call E self .uv_udp_set_multicast_ttl (.type .UDPError) (ttl_args args)

/-- UDP.set_broadcast(enable) -/
def UDP_func_set_broadcast (self : Ptr) (args : Args Bool) : C Unit :=
  func_call E self .uv_udp_set_broadcast (.type .UDPError) (parse args)

/-- UDP.set_multicast_loop(enable) -/
def UDP_func_set_multicast_loop (self : Ptr) (args : Args Bool) : C Unit :=
  func_call E self .uv_udp_set_multicast_loop (.type .UDPError) (parse args)

/-- UDP.set_ttl(ttl) -/
def UDP_func_set_ttl (self : Ptr) (args : Args Int) : C Unit :=
  func_call E self .uv_udp_set_ttl (.type .UDPError) (ttl_args args)

/-- The status of uv_udp_open is not looked at. -/
def UDP_func_open (self : Ptr) (args : Args Int) : C Unit :=
  func_void E self .uv_udp_open (parse args)

/-- UDP.fileno() -/
def UDP_func_fileno (self : Ptr) : C Unit :=
  func_call E self .uv_fileno (.type .UDPError) (.ok ())

/-- The setter of UDP.send_buffer_size -/
def UDP_sndbuf_set (self : Ptr) (value : Option (Args Int)) : C Unit :=
  attr_set E self .uv_send_buffer_size .UDPError (new_value value)

/-- That of UDP.receive_buffer_size -/
def UDP_rcvbuf_set (self : Ptr) (value : Option (Args Int)) : C Unit :=
  attr_set E self .uv_recv_buffer_size .UDPError (new_value value)

/-! ## src/process.c -/

def UV_CREATE_PIPE : Nat := 1
def UV_INHERIT_STREAM : Nat := 4

/-- A StdIO object. StdIO_tp_init lets a stream flag stand only with a stream. -/
structure StdIO where
  stream : Option Ptr
  flags : Nat
  has_stream : flags &&& (UV_CREATE_PIPE ||| UV_INHERIT_STREAM) ≠ 0 → stream.isSome = true

/-- The structure that goes into the container. -/
def StdIO.inherited (io : StdIO) : List Ptr :=
  if io.flags &&& (UV_CREATE_PIPE ||| UV_INHERIT_STREAM) ≠ 0 then io.stream.toList else []

/-- The arguments of spawn. `prepared` is the outcome of the conversions of args, executable,
cwd and env, and an item of stdio that is no StdIO is none. -/
structure SpawnArgs where
  loop : Ptr
  callback : Ptr
  args_ok : Bool
  stdio_ok : Bool
  prepared : Args Unit
  stdio : Option (Ptr × List (Option StdIO))

/-- The checks of spawn before the object is made. -/
def spawn_args (args : Args SpawnArgs) : Except PyErr SpawnArgs := do
  let a ← parse args
  callable_or_None E "a callable is required" a.callback
  if !a.args_ok then
    .error (.text .TypeError "only string or iterable objects are supported for 'args'")
  if a.stdio.isSome ∧ !a.stdio_ok then
    .error (.text .TypeError "only iterable objects are supported for 'stdio'")
  return a

/-- An item of `stdio` has to be a StdIO. -/
def stdio_item : Option StdIO → Except PyErr StdIO
  | some io => .ok io
  | none => .error (.text .TypeError "a StdIO instance is required")

/-- The conversions, and the containers: the structures that libuv is to inherit. -/
def spawn_options (a : SpawnArgs) : Except PyErr (List Ptr) := do
  parse a.prepared
  match a.stdio with
  | none => return []
  | some (_, items) =>
    check_malloc E .stdio_container
    let ios ← items.mapM stdio_item
    return ios.flatMap StdIO.inherited

/-- One object is written over. -/
def set_obj (self : Ptr) (o : Obj) (w : World) : World :=
  { w with objs := Function.update w.objs self o }

/-- A Process before it was spawned. -/
def new_process : Obj where
  cls := .Process
  initialized := false
  type := .UV_UNKNOWN_HANDLE
  closing := false
  typed := by decide
  concrete := by decide
  other := by decide

/-- What uv_spawn sets up first of all. -/
def started_process : Obj where
  cls := .Process
  initialized := true
  type := .UV_PROCESS
  closing := false
  typed := by decide
  concrete := by decide
  other := by decide

/-- The object with its fields NULL. -/
def Process_tp_new (self : Ptr) (w : World) : World :=
  { set_obj self new_process w with
    sides := Function.update w.sides self { pyref := false, slot := fun _ => none }
    refs := Function.update w.refs self 1 }

/-- The deallocation of a process that nobody has seen. -/
def Handle_tp_dealloc (self : Ptr) : C Unit := do
  let w ← get
  if (w.objs self).initialized ∧ !(w.objs self).closing then do
    uv_close E self
    -- the object lives again until the close callback
    Py_INCREF self
  else modify (World.put self .loop none)

/-- What follows the call of uv_spawn. A process that did not start is deallocated. -/
def spawned (self : Ptr) (a : SpawnArgs) (err : Int) : C Unit := do
  if err < 0 then do
    Py_DECREF self
    Handle_tp_dealloc E self
    raise (.uv .ProcessError err)
  else do
    modify (World.put self .on_exit_cb (some a.callback))
    modify (World.put self .stdio (a.stdio.map Prod.fst))
    Py_INCREF self

/-- The call of libuv, and what the object keeps of the arguments. -/
def spawn_process (self : Ptr) (a : SpawnArgs) (streams : List Ptr) : C Unit := do
  modify (set_obj self started_process)
  let err ← uv E .uv_spawn (self :: streams)
  spawned E self a err

/-- Process.spawn(loop, args, ...) -/
def Process_func_spawn (args : Args SpawnArgs) : C Unit := do
  let a ← check (spawn_args E args)
  check (check_malloc E .self)
  let self := E.fresh
  modify (Process_tp_new self)
  modify (World.put self .loop (some a.loop))
  match spawn_options E a with
  | .error e => do
    Py_DECREF self
    Handle_tp_dealloc E self
    raise e
  | .ok streams => spawn_process E self a streams

/-- Process.kill(signum) -/
def Process_func_kill (self : Ptr) (args : Args Int) : C Unit :=
  func_call E self .uv_process_kill (.type .ProcessError) (parse args)

/-- It has a text of its own for a Process that was not spawned. -/
def Process_func_close (self : Ptr) (args : Args Ptr) : C Unit := do
  let w ← get
  check <| if (w.objs self).initialized then .ok ()
    else .error (.text .RuntimeError "Object was not initialized, spawn was not called.")
  Handle_func_close E self args

/-- A function of the class, with no object to look at. -/
def Process_func_disable_stdio_inheritance : C Unit := call E .uv_disable_stdio_inheritance []

/-! ## src/thread.c -/

/-- Barrier.wait() -/
def Barrier_func_wait (self : Ptr) : C Unit := func_sync E self .uv_barrier_wait

def Mutex_func_lock (self : Ptr) : C Unit := func_sync E self .uv_mutex_lock
def Mutex_func_unlock (self : Ptr) : C Unit := func_sync E self .uv_mutex_unlock
def Mutex_func_trylock (self : Ptr) : C Unit := func_sync E self .uv_mutex_trylock

def RWLock_func_rdlock (self : Ptr) : C Unit := func_sync E self .uv_rwlock_rdlock
def RWLock_func_rdunlock (self : Ptr) : C Unit := func_sync E self .uv_rwlock_rdunlock
def RWLock_func_tryrdlock (self : Ptr) : C Unit := func_sync E self .uv_rwlock_tryrdlock
def RWLock_func_wrlock (self : Ptr) : C Unit := func_sync E self .uv_rwlock_wrlock
def RWLock_func_wrunlock (self : Ptr) : C Unit := func_sync E self .uv_rwlock_wrunlock
def RWLock_func_trywrlock (self : Ptr) : C Unit := func_sync E self .uv_rwlock_trywrlock

def Condition_func_signal (self : Ptr) : C Unit := func_sync E self .uv_cond_signal
def Condition_func_broadcast (self : Ptr) : C Unit := func_sync E self .uv_cond_broadcast

/-- The mutex is not looked at, beyond the class that the format "O!" asks for. -/
def func_cond_wait (self : Ptr) (fn : UvFn) (args : Args Ptr) : C Unit := do
  RAISE_IF_NOT_INITIALIZED self
  let pymutex ← check (parse args)
  let w ← get
  check (if (w.objs pymutex).cls = .Mutex then .ok () else .error (.cpython .TypeError))
  Py_INCREF pymutex
  call E fn [self, pymutex]
  Py_DECREF pymutex

/-- Condition.wait(mutex) -/
def Condition_func_wait (self : Ptr) (args : Args Ptr) : C Unit :=
  func_cond_wait E self .uv_cond_wait args

/-- Condition.timedwait(mutex, timeout) -/
def Condition_func_timedwait (self : Ptr) (args : Args (Ptr × ℚ)) : C Unit :=
  func_cond_wait E self .uv_cond_timedwait (args.map Prod.fst)

def Semaphore_func_post (self : Ptr) : C Unit := func_sync E self .uv_sem_post
def Semaphore_func_wait (self : Ptr) : C Unit := func_sync E self .uv_sem_wait
def Semaphore_func_trywait (self : Ptr) : C Unit := func_sync E self .uv_sem_trywait

/-! ## All of them -/

/-- A method or an attribute setter of a handle or of a thread primitive, with its arguments.
The `__enter__` and `__exit__` of a mutex and of a semaphore are the functions of other names. -/
inductive Method where
  | Handle_close (args : Args Ptr)
  | Handle_set_ref (val : Args Int)
  | Handle_set_dict (val : Option Ptr)
  | Async_send
  | Timer_start (args : Args (Ptr × ℚ × ℚ))
  | Timer_stop
  | Timer_again
  | Timer_set_repeat (value : Option (Args ℚ))
  | Prepare_start (args : Args Ptr)
  | Prepare_stop
  | Idle_start (args : Args Ptr)
  | Idle_stop
  | Check_start (args : Args Ptr)
  | Check_stop
  | Signal_start (args : Args Ptr)
  | Signal_stop
  | SignalChecker_start
  | SignalChecker_stop
  | Poll_start (args : Args Ptr)
  | Poll_stop
  | Poll_fileno
  | FSEvent_start (args : Args Ptr)
  | FSEvent_stop
  | FSPoll_start (args : Args (Ptr × ℚ))
  | FSPoll_stop
  | Stream_shutdown (args : Args Ptr)
  | Stream_start_read (args : Args Ptr)
  | Stream_stop_read
  | Stream_try_write (args : Args Ptr)
  | Stream_write (args : Args (Data × Ptr))
  | Stream_fileno
  | Stream_set_blocking (args : Args Bool)
  | TCP_bind (args : Args PyObj)
  | TCP_listen (args : Args (Ptr × Int))
  | TCP_accept (args : Args Ptr)
  | TCP_connect (args : Args (PyObj × Ptr))
  | TCP_getsockname
  | TCP_getpeername
  | TCP_nodelay (args : Args Bool)
  | TCP_keepalive (args : Args (Bool × Nat))
  | TCP_simultaneous_accepts (args : Args Bool)
  | TCP_open (args : Args Int)
  | TCP_set_sndbuf (value : Option (Args Int))
  | TCP_set_rcvbuf (value : Option (Args Int))
  | Pipe_bind (args : Args Name)
  | Pipe_listen (args : Args (Ptr × Int))
  | Pipe_accept (args : Args Ptr)
  | Pipe_connect (args : Args (Name × Ptr))
  | Pipe_open (args : Args Int)
  | Pipe_pending_instances (args : Args Int)
  | Pipe_pending_handle_type
  | Pipe_write (args : Args ((Data × Ptr) × Option Ptr))
  | Pipe_getsockname
  | Pipe_getpeername
  | Pipe_set_sndbuf (value : Option (Args Int))
  | Pipe_set_rcvbuf (value : Option (Args Int))
  | TTY_set_mode (args : Args Int)
  | TTY_reset_mode
  | TTY_get_winsize
  | UDP_bind (args : Args PyObj)
  | UDP_start_recv (args : Args Ptr)
  | UDP_stop_recv
  | UDP_try_send (args : Args (PyObj × Ptr))
  | UDP_send (args : Args (PyObj × Data × Ptr))
  | UDP_set_membership (args : Args Int)
  | UDP_set_multicast_interface (args : Args Unit)
  | UDP_getsockname
  | UDP_set_multicast_ttl (args : Args Int)
  | UDP_set_broadcast (args : Args Bool)
  | UDP_set_multicast_loop (args : Args Bool)
  | UDP_set_ttl (args : Args Int)
  | UDP_open (args : Args Int)
  | UDP_fileno
  | UDP_set_sndbuf (value : Option (Args Int))
  | UDP_set_rcvbuf (value : Option (Args Int))
  | Process_spawn (args : Args SpawnArgs)
  | Process_kill (args : Args Int)
  | Process_close (args : Args Ptr)
  | Process_disable_stdio_inheritance
  | Barrier_wait
  | Mutex_lock
  | Mutex_unlock
  | Mutex_trylock
  | RWLock_rdlock
  | RWLock_rdunlock
  | RWLock_tryrdlock
  | RWLock_wrlock
  | RWLock_wrunlock
  | RWLock_trywrlock
  | Condition_signal
  | Condition_broadcast
  | Condition_wait (args : Args Ptr)
  | Condition_timedwait (args : Args (Ptr × ℚ))
  | Semaphore_post
  | Semaphore_wait
  | Semaphore_trywait

/-- For a method of a class, `self` is of no account. -/
def Method.exec (self : Ptr) : Method → C Unit
  | .Handle_close args => Handle_func_close E self args
  | .Handle_set_ref val => Handle_ref_set E self val
  | .Handle_set_dict val => Handle_dict_set E self val
  | .Async_send => Async_func_send E self
  | .Timer_start args => Timer_func_start E self args
  | .Timer_stop => Timer_func_stop E self
  | .Timer_again => Timer_func_again E self
  | .Timer_set_repeat value => Timer_repeat_set E self value
  | .Prepare_start args => Prepare_func_start E self args
  | .Prepare_stop => Prepare_func_stop E self
  | .Idle_start args => Idle_func_start E self args
  | .Idle_stop => Idle_func_stop E self
  | .Check_start args => Check_func_start E self args
  | .Check_stop => Check_func_stop E self
  | .Signal_start args => Signal_func_start E self args
  | .Signal_stop => Signal_func_stop E self
  | .SignalChecker_start => SignalChecker_func_start E self
  | .SignalChecker_stop => SignalChecker_func_stop E self
  | .Poll_start args => Poll_func_start E self args
  | .Poll_stop => Poll_func_stop E self
  | .Poll_fileno => Poll_func_fileno E self
  | .FSEvent_start args => FSEvent_func_start E self args
  | .FSEvent_stop => FSEvent_func_stop E self
  | .FSPoll_start args => FSPoll_func_start E self args
  | .FSPoll_stop => FSPoll_func_stop E self
  | .Stream_shutdown args => Stream_func_shutdown E self args
  | .Stream_start_read args => Stream_func_start_read E self args
  | .Stream_stop_read => Stream_func_stop_read E self
  | .Stream_try_write args => Stream_func_try_write E self args
  | .Stream_write args => Stream_func_write E self args
  | .Stream_fileno => Stream_func_fileno E self
  | .Stream_set_blocking args => Stream_func_set_blocking E self args
  | .TCP_bind args => TCP_func_bind E self args
  | .TCP_listen args => TCP_func_listen E self args
  | .TCP_accept args => TCP_func_accept E self args
  | .TCP_connect args => TCP_func_connect E self args
  | .TCP_getsockname => TCP_func_getsockname E self
  | .TCP_getpeername => TCP_func_getpeername E self
  | .TCP_nodelay args => TCP_func_nodelay E self args
  | .TCP_keepalive args => TCP_func_keepalive E self args
  | .TCP_simultaneous_accepts args => TCP_func_simultaneous_accepts E self args
  | .TCP_open args => TCP_func_open E self args
  | .TCP_set_sndbuf value => TCP_sndbuf_set E self value
  | .TCP_set_rcvbuf value => TCP_rcvbuf_set E self value
  | .Pipe_bind args => Pipe_func_bind E self args
  | .Pipe_listen args => Pipe_func_listen E self args
  | .Pipe_accept args => Pipe_func_accept E self args
  | .Pipe_connect args => Pipe_func_connect E self args
  | .Pipe_open args => Pipe_func_open E self args
  | .Pipe_pending_instances args => Pipe_func_pending_instances E self args
  | .Pipe_pending_handle_type => Pipe_func_pending_handle_type E self
  | .Pipe_write args => Pipe_func_write E self args
  | .Pipe_getsockname => Pipe_func_getsockname E self
  | .Pipe_getpeername => Pipe_func_getpeername E self
  | .Pipe_set_sndbuf value => Pipe_sndbuf_set E self value
  | .Pipe_set_rcvbuf value => Pipe_rcvbuf_set E self value
  | .TTY_set_mode args => TTY_func_set_mode E self args
  | .TTY_reset_mode => TTY_func_reset_mode E
  | .TTY_get_winsize => TTY_func_get_winsize E self
  | .UDP_bind args => UDP_func_bind E self args
  | .UDP_start_recv args => UDP_func_start_recv E self args
  | .UDP_stop_recv => UDP_func_stop_recv E self
  | .UDP_try_send args => UDP_func_try_send E self args
  | .UDP_send args => UDP_func_send E self args
  | .UDP_set_membership args => UDP_func_set_membership E self args
  | .UDP_set_multicast_interface args => UDP_func_set_multicast_interface E self args
  | .UDP_getsockname => UDP_func_getsockname E self
  | .UDP_set_multicast_ttl args => UDP_func_set_multicast_ttl E self args
  | .UDP_set_broadcast args => UDP_func_set_broadcast E self args
  | .UDP_set_multicast_loop args => UDP_func_set_multicast_loop E self args
  | .UDP_set_ttl args => UDP_func_set_ttl E self args
  | .UDP_open args => UDP_func_open E self args
  | .UDP_fileno => UDP_func_fileno E self
  | .UDP_set_sndbuf value => UDP_sndbuf_set E self value
  | .UDP_set_rcvbuf value => UDP_rcvbuf_set E self value
  | .Process_spawn args => Process_func_spawn E args
  | .Process_kill args => Process_func_kill E self args
  | .Process_close args => Process_func_close E self args
  | .Process_disable_stdio_inheritance => Process_func_disable_stdio_inheritance E
  | .Barrier_wait => Barrier_func_wait E self
  | .Mutex_lock => Mutex_func_lock E self
  | .Mutex_unlock => Mutex_func_unlock E self
  | .Mutex_trylock => Mutex_func_trylock E self
  | .RWLock_rdlock => RWLock_func_rdlock E self
  | .RWLock_rdunlock => RWLock_func_rdunlock E self
  | .RWLock_tryrdlock => RWLock_func_tryrdlock E self
  | .RWLock_wrlock => RWLock_func_wrlock E self
  | .RWLock_wrunlock => RWLock_func_wrunlock E self
  | .RWLock_trywrlock => RWLock_func_trywrlock E self
  | .Condition_signal => Condition_func_signal E self
  | .Condition_broadcast => Condition_func_broadcast E self
  | .Condition_wait args => Condition_func_wait E self args
  | .Condition_timedwait args => Condition_func_timedwait E self args
  | .Semaphore_post => Semaphore_func_post E self
  | .Semaphore_wait => Semaphore_func_wait E self
  | .Semaphore_trywait => Semaphore_func_trywait E self

/-- The streams of the StdIO objects. -/
def SpawnArgs.streams (a : SpawnArgs) : List Ptr :=
  (a.stdio.elim [] Prod.snd).flatMap fun item => item.elim [] fun io => io.stream.toList

/-- The objects of the extension that come as arguments. -/
def Method.passed : Method → List Ptr
  | .TCP_accept (.ok client) => [client]
  | .Pipe_accept (.ok client) => [client]
  | .Pipe_write (.ok (_, some send_handle)) => [send_handle]
  | .Condition_wait (.ok mutex) => [mutex]
  | .Condition_timedwait (.ok (mutex, _)) => [mutex]
  | .Process_spawn (.ok a) => a.streams
  | _ => []

/-- Without `self`. -/
def Method.on_class : Method → Bool
  | .TTY_reset_mode | .Process_spawn _ | .Process_disable_stdio_inheritance => true
  | _ => false

/-- The attribute setters. -/
def Method.is_setter : Method → Bool
  | .Handle_set_ref _ | .Handle_set_dict _ | .Timer_set_repeat _
  | .TCP_set_sndbuf _ | .TCP_set_rcvbuf _ | .Pipe_set_sndbuf _ | .Pipe_set_rcvbuf _
  | .UDP_set_sndbuf _ | .UDP_set_rcvbuf _ => true
  | _ => false

/-- The methods of the thread primitives. -/
def Method.of_thread : Method → Bool
  | .Barrier_wait
  | .Mutex_lock | .Mutex_unlock | .Mutex_trylock
  | .RWLock_rdlock | .RWLock_rdunlock | .RWLock_tryrdlock
  | .RWLock_wrlock | .RWLock_wrunlock | .RWLock_trywrlock
  | .Condition_signal | .Condition_broadcast | .Condition_wait _ | .Condition_timedwait _
  | .Semaphore_post | .Semaphore_wait | .Semaphore_trywait => true
  | _ => false

end pyuv.methods
