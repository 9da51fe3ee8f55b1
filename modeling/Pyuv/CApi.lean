-- Python objects and libuv structures as the methods of the handles see them (src/pyuv.h), and
-- the C that these methods are written in: tests that raise, calls of libuv with the status they
-- give, references taken and dropped. An exception takes nothing back.
import Mathlib.Data.Rat.Floor
import Mathlib.Logic.Function.Basic
import Pyuv.Lib.Ends
import Pyuv.AddrTuples

set_option linter.style.nameCheck false

namespace pyuv.methods

open addr_tuples (PyObj Inet sockaddr pyuv_parse_addr_tuple)
open byte_order (ByteOrder)

/-! ## The objects -/

/-- An object by its address. None is 0. -/
abbrev Ptr := Nat

/-- The class of the extension that an object is an instance of. -/
inductive PyClass where
  | Handle | Stream
  | Async | Timer | Prepare | Idle | Check | Signal | SignalChecker
  | TCP | Pipe | TTY | UDP | Poll | Process | FSEvent | FSPoll
  | Barrier | Mutex | RWLock | Condition | Semaphore
  | other
deriving DecidableEq, Repr

/-- The field `type` of a uv_handle_t. -/
inductive UvType where
  | UV_UNKNOWN_HANDLE
  | UV_ASYNC | UV_CHECK | UV_FS_EVENT | UV_FS_POLL | UV_IDLE | UV_NAMED_PIPE | UV_POLL
  | UV_PREPARE | UV_PROCESS | UV_TCP | UV_TIMER | UV_TTY | UV_UDP | UV_SIGNAL
deriving DecidableEq, Repr

/-- What the init function of libuv writes for the class. -/
def PyClass.uv_type : PyClass → UvType
  | .Async => .UV_ASYNC
  | .Timer => .UV_TIMER
  | .Prepare => .UV_PREPARE
  | .Idle => .UV_IDLE
  | .Check => .UV_CHECK
  | .Signal => .UV_SIGNAL
  | .SignalChecker => .UV_POLL
  | .TCP => .UV_TCP
  | .Pipe => .UV_NAMED_PIPE
  | .TTY => .UV_TTY
  | .UDP => .UV_UDP
  | .Poll => .UV_POLL
  | .Process => .UV_PROCESS
  | .FSEvent => .UV_FS_EVENT
  | .FSPoll => .UV_FS_POLL
  | _ => .UV_UNKNOWN_HANDLE

/-- The two base types can be made, with `uv_handle` NULL, and have no __init__. -/
def PyClass.is_base (c : PyClass) : Bool := c = .Handle ∨ c = .Stream

/-- PyObject_TypeCheck against StreamType. -/
def PyClass.is_stream (c : PyClass) : Bool := c = .Stream ∨ c = .TCP ∨ c = .Pipe ∨ c = .TTY

/-- A class under Handle, which the macros for handles are used on. -/
def PyClass.is_handle : PyClass → Bool
  | .Barrier | .Mutex | .RWLock | .Condition | .Semaphore | .other => false
  | _ => true

/-- What libuv and the macros of pyuv.h look at. An object that was not initialized has any
`type`: that of an __init__ that failed may be there already. -/
structure Obj where
  cls : PyClass
  initialized : Bool
  type : UvType
  -- uv_is_closing
  closing : Bool
  typed : initialized = true → type = cls.uv_type
  concrete : initialized = true → cls.is_base = false
  -- an object of another class has no __init__ of the extension to wait for
  other : cls = .other → initialized = true

/-- The fields of the objects that hold a reference. -/
inductive Slot where
  | callback | on_read_cb | on_new_connection_cb | on_close_cb | on_exit_cb | stdio | loop | dict
deriving DecidableEq, Repr

/-- The rest of an object: PYUV__PYREF and the references it holds. -/
structure PySide where
  pyref : Bool
  slot : Slot → Option Ptr

/-- The functions of libuv and of the system that the methods call. -/
inductive UvFn where
  | uv_close | uv_ref | uv_unref | uv_fileno
  | uv_async_send
  | uv_timer_init | uv_timer_start | uv_timer_stop | uv_timer_again | uv_timer_set_repeat
  | uv_prepare_start | uv_prepare_stop | uv_idle_start | uv_idle_stop
  | uv_check_start | uv_check_stop | uv_signal_start | uv_signal_stop
  | uv_poll_start | uv_poll_stop
  | uv_fs_event_start | uv_fs_event_stop | uv_fs_poll_start | uv_fs_poll_stop
  | uv_listen | uv_accept | uv_shutdown | uv_read_start | uv_read_stop
  | uv_try_write | uv_write | uv_write2 | uv_stream_set_blocking
  | uv_send_buffer_size | uv_recv_buffer_size
  | uv_tcp_bind | uv_tcp_connect | uv_tcp_getsockname | uv_tcp_getpeername
  | uv_tcp_nodelay | uv_tcp_keepalive | uv_tcp_simultaneous_accepts | uv_tcp_open
  | uv_pipe_bind | uv_pipe_connect | uv_pipe_open | uv_pipe_pending_instances
  | uv_pipe_pending_type | uv_pipe_getsockname | uv_pipe_getpeername
  | uv_tty_set_mode | uv_tty_reset_mode | uv_tty_get_winsize
  | uv_udp_bind | uv_udp_recv_start | uv_udp_recv_stop | uv_udp_try_send | uv_udp_send
  | uv_udp_set_membership | uv_udp_set_multicast_interface | uv_udp_set_multicast_ttl
  | uv_udp_set_multicast_loop | uv_udp_set_broadcast | uv_udp_set_ttl
  | uv_udp_getsockname | uv_udp_open
  | uv_spawn | uv_process_kill | uv_disable_stdio_inheritance
  | uv_barrier_wait
  | uv_mutex_lock | uv_mutex_unlock | uv_mutex_trylock
  | uv_rwlock_rdlock | uv_rwlock_rdunlock | uv_rwlock_tryrdlock
  | uv_rwlock_wrlock | uv_rwlock_wrunlock | uv_rwlock_trywrlock
  | uv_cond_signal | uv_cond_broadcast | uv_cond_wait | uv_cond_timedwait
  | uv_sem_post | uv_sem_wait | uv_sem_trywait
  | socket | bind | connect
deriving DecidableEq, Repr

/-- The others are void, or their result is no status. -/
def UvFn.has_status : UvFn → Bool
  | .uv_close | .uv_ref | .uv_unref | .uv_timer_set_repeat | .uv_pipe_connect
  | .uv_pipe_pending_instances | .uv_pipe_pending_type | .uv_disable_stdio_inheritance
  | .uv_mutex_lock | .uv_mutex_unlock | .uv_rwlock_rdlock | .uv_rwlock_rdunlock
  | .uv_rwlock_wrlock | .uv_rwlock_wrunlock | .uv_cond_signal | .uv_cond_broadcast
  | .uv_cond_wait | .uv_sem_post | .uv_sem_wait => false
  | _ => true

/-- A call of libuv, with the objects whose structures it is given. -/
structure UvCall where
  fn : UvFn
  handles : List Ptr
deriving DecidableEq, Repr

/-- The objects with what the methods can change of them, and what they have called so far. -/
structure World where
  objs : Ptr → Obj
  sides : Ptr → PySide
  refs : Ptr → Int
  calls : List UvCall
  -- the objects whose libuv structure was used before it was set up
  raw : List Ptr

namespace World

/-- A reference to each of `ps`, as often as it stands there. -/
def take (ps : List Ptr) (w : World) : World :=
  { w with refs := fun p => w.refs p + ps.count p }

/-- One reference less to each of `ps`. -/
def drop (ps : List Ptr) (w : World) : World :=
  { w with refs := fun p => w.refs p - ps.count p }

/-- The structures of `ps` are read: those that nobody set up go on record. -/
def use (ps : List Ptr) (w : World) : World :=
  { w with raw := w.raw ++ ps.filter fun p => !(w.objs p).initialized }

/-- A call of libuv goes on record. -/
def log (c : UvCall) (w : World) : World := { w with calls := w.calls ++ [c] }

/-- The field is written over, with no reference taken or dropped. -/
def set_slot (self : Ptr) (slot : Slot) (value : Option Ptr) (w : World) : World :=
  let side := w.sides self
  { w with
    sides := Function.update w.sides self
      { side with slot := Function.update side.slot slot value } }

/-- A reference to the new value is taken and that to the old one dropped. -/
def put (self : Ptr) (slot : Slot) (value : Option Ptr) (w : World) : World :=
  let tmp := (w.sides self).slot slot
  ((w.take value.toList).set_slot self slot value).drop tmp.toList

/-- PYUV__PYREF is set or cleared, with no reference taken or dropped. -/
def set_pyref (self : Ptr) (pyref : Bool) (w : World) : World :=
  { w with sides := Function.update w.sides self { w.sides self with pyref } }

/-- The old value of a field is released and the new one is held. -/
theorem put_refs (self : Ptr) (slot : Slot) (value : Option Ptr) (w : World) (p : Ptr) :
    (w.put self slot value).refs p =
      w.refs p + value.toList.count p - ((w.sides self).slot slot).toList.count p := rfl

theorem put_sides_of_ne {self p : Ptr} (h : p ≠ self) (slot : Slot) (value : Option Ptr)
    (w : World) : (w.put self slot value).sides p = w.sides p :=
  Function.update_of_ne h _ _

/-- The field has what was put. -/
theorem put_slot (self : Ptr) (slot : Slot) (value : Option Ptr) (w : World) :
    ((w.put self slot value).sides self).slot slot = value := by
  unfold put set_slot drop
  simp

theorem take_take (w : World) (ps qs : List Ptr) : (w.take ps).take qs = w.take (ps ++ qs) := by
  simp only [take, List.count_append, Nat.cast_add, add_assoc]

end World

/-! ## What the methods are written in -/

/-- The allocations that can fail. -/
inductive Site where
  | ctx | views | connect_req | self | stdio_container
deriving DecidableEq, Repr

/-- How everything outside of the methods answers a call. A status of the system is -errno. -/
structure Env where
  status : UvFn → Int
  malloc : Site → Bool
  -- PyCallable_Check, PyDict_Check
  callable : Ptr → Bool
  is_dict : Ptr → Bool
  -- what PyObject_GetBuffer raises
  no_buffer : Ptr → Option ExcType
  -- where a new object comes to be
  fresh : Ptr
  order : ByteOrder
  inet : Inet

/-- How a method can stop early. It crashes where an ASSERT fails or NULL is followed. -/
inductive Stop where
  | raised (e : PyErr)
  | crash
deriving DecidableEq, Repr

/-- The body of a method. An exception takes nothing back. -/
abbrev C := EStateM Stop World

def Py_None : Ptr := 0

/-- An exception of Python. -/
def raise {α : Type} (e : PyErr) : C α := throw (.raised e)

/-- A test of the arguments. -/
def check {α : Type} : Except PyErr α → C α
  | .ok a => pure a
  | .error e => raise e

/-- One reference more. -/
def Py_INCREF (p : Ptr) : C Unit := modify (World.take [p])

/-- One reference less. That an object dies with its last one is not followed here. -/
def Py_DECREF (p : Ptr) : C Unit := modify (World.drop [p])

/-- The reference is taken with the flag, and only once. -/
def PYUV_HANDLE_INCREF (self : Ptr) : C Unit :=
  modify fun w => if (w.sides self).pyref then w else (w.set_pyref self true).take [self]

/-- The reference goes with the flag. -/
def PYUV_HANDLE_DECREF (self : Ptr) : C Unit :=
  modify fun w => if (w.sides self).pyref then (w.set_pyref self false).drop [self] else w

/-- UV_HANDLE(p), followed. -/
def deref (p : Ptr) : C Obj := fun w =>
  if (w.objs p).cls.is_base then .error .crash w else .ok (w.objs p) (w.use [p])

/-- RAISE_IF_HANDLE_NOT_INITIALIZED, and the like of it for the thread primitives. -/
def RAISE_IF_NOT_INITIALIZED (obj : Ptr) : C Unit := do
  let w ← get
  check (if (w.objs obj).initialized then .ok () else .error .not_initialized)

/-- uv_is_closing reads the structure that UV_HANDLE(obj) points at. -/
def RAISE_IF_HANDLE_CLOSED (obj : Ptr) : C Unit := do
  let o ← deref obj
  check (if o.closing then .error .handle_closed else .ok ())

variable (E : Env)

/-- A call of libuv, on the structures of the objects `hs`. -/
def uv (fn : UvFn) (hs : List Ptr) : C Int := fun w =>
  if hs.any fun p => (w.objs p).cls.is_base then .error .crash (w.log ⟨fn, hs⟩)
  else .ok (E.status fn) ((w.use hs).log ⟨fn, hs⟩)

/-- A call of libuv whose result nobody looks at. -/
def call (fn : UvFn) (hs : List Ptr) : C Unit := do
  let _ ← uv E fn hs

/-- The exception of a method: of one type, or by the type of the stream. -/
inductive Exc where
  | type (t : ExcType)
  | stream
deriving DecidableEq, Repr

/-- The exception of a stream, by the type in its structure. Any other type is an ASSERT that
fails. -/
def stream_exc : UvType → Option ExcType
  | .UV_TCP => some .TCPError
  | .UV_NAMED_PIPE => some .PipeError
  | .UV_TTY => some .TTYError
  | _ => none

/-- RAISE_UV_EXCEPTION and RAISE_STREAM_EXCEPTION, up to the raising. -/
def uv_error (self : Ptr) (err : Int) : Exc → C PyErr
  | .type t => pure (.uv t err)
  | .stream => do
    let o ← deref self
    match stream_exc o.type with
    | some t => pure (.uv t err)
    | none => throw .crash

/-- `if (err < 0)` with nothing to give back. -/
def raise_if_negative (self : Ptr) (exc : Exc) (err : Int) : C Unit :=
  if err < 0 then do
    let e ← uv_error self err exc
    raise e
  else pure ()

/-- PyErr_NoMemory -/
def no_memory : PyErr := .cpython .MemoryError

/-- The memory, or the exception of PyErr_NoMemory. -/
def check_malloc (site : Site) : Except PyErr Unit :=
  if E.malloc site then .ok () else .error no_memory

/-- What PyArg_ParseTuple makes of the arguments, or what it raises. -/
abbrev Args (α : Type) := Except ExcType α

/-- PyArg_ParseTuple, with its exception. -/
def parse {α : Type} (args : Args α) : Except PyErr α := args.mapError .cpython

/-- PyCallable_Check on an argument that has to be one. -/
def a_callable (callback : Ptr) : Except PyErr Unit :=
  if E.callable callback then .ok () else .error (.text .TypeError "a callable is required")

/-- PyCallable_Check on an argument that may be None. -/
def callable_or_None (msg : String) (callback : Ptr) : Except PyErr Unit :=
  if callback ≠ Py_None ∧ !E.callable callback then .error (.text .TypeError msg) else .ok ()

/-- A number of seconds that must not be below 0. -/
def not_negative (msg : String) (x : ℚ) : Except PyErr Unit :=
  if x < 0 then .error (.text .ValueError msg) else .ok ()

/-- pyuv_parse_addr_tuple -/
def address (addr : PyObj) : Except PyErr Unit := do
  let _ ← pyuv_parse_addr_tuple E.order E.inet addr

@[simp] theorem parse_ok {α : Type} (a : α) : parse (.ok a : Args α) = .ok a := rfl

@[simp] theorem parse_error {α : Type} (t : ExcType) :
    parse (.error t : Args α) = .error (.cpython t) := rfl

@[simp] theorem check_ok_bind {α β : Type} (a : α) (f : α → C β) : check (.ok a) >>= f = f a := rfl

@[simp] theorem check_error_bind {α β : Type} (e : PyErr) (f : α → C β) :
    check (.error e) >>= f = raise e := rfl

/-! ## Inputs to try -/

/-- Nothing fails but a call with a negative `status`. -/
def willing (status : UvFn → Int) : Env where
  status := status
  malloc _ := true
  callable _ := true
  is_dict _ := true
  no_buffer _ := none
  fresh := 2
  order := .little
  inet := addr_tuples.plainInet

/-- A world before anything has happened, with objects like `o`. -/
def World.of (o : Obj) : World where
  objs _ := o
  sides _ := { pyref := false, slot := fun _ => none }
  refs _ := 1
  calls := []
  raw := []

end pyuv.methods
