-- The requests of TCP, Pipe, TTY and UDP handles (src/tcp.c, pipe.c, abstract.c,
-- stream.c, udp.c), and what libuv records of them on the handle. Each holds a
-- reference to the handle until its completion callback has run.
import Pyuv.HandleLife
import Pyuv.Lib.Tickets

set_option linter.style.nameCheck false

namespace pyuv.stream_requests

open handle watchers

/-! ## The handle and its requests -/

/-- A submitted request. `callback` tells whether the callback of the user is a
callable, not None. -/
structure Req where
  id : Nat
  callback : Bool
deriving DecidableEq, Repr

/-- A request with its outcome. `late` means that the outcome was decided after the
handle had been asked to close. -/
structure Outcome where
  req : Req
  status : Int
  late : Bool
deriving DecidableEq, Repr

/-- The handle, the places where libuv records its requests, and what the extension
holds for them. Requests are numbered as they are submitted. -/
structure SockSt where
  base : watchers.St
  next : Nat
  connect_req : Option Req
  shutdown_req : Option Req
  write_queue : List Req
  write_completed_queue : List Outcome
  -- the timers of connects to abstract addresses that are not due yet
  abstract_timers : List Req
  -- libuv is in uv__stream_destroy or uv__udp_finish_close
  destroying : Bool
  -- the completion callbacks that wait for Python code, and of an abstract connect or not
  running : List Bool
  -- timers of abstract connects that are being closed, with their memory
  closing_timers : Nat
  contexts : Nat
  callback_refs : Nat
  -- the completion callbacks that have been called, in order
  called : List Outcome
deriving DecidableEq, Repr

/-- The object under the handle. -/
def SockSt.core (s : SockSt) : Handle := s.base.core

/-- It is written over. -/
def SockSt.set_core (s : SockSt) (h : Handle) : SockSt :=
  { s with base := { s.base with core := h } }

/-- The numbers of some requests. -/
def ids (rs : List Req) : Multiset Nat := (rs.map Req.id : List Nat)

/-- The requests that libuv records, on the handle or as a timer. -/
def recorded (s : SockSt) : Multiset Nat :=
  ids s.connect_req.toList + ids s.write_queue + ids (s.write_completed_queue.map Outcome.req) +
    ids s.shutdown_req.toList + ids s.abstract_timers

/-- The requests whose completion callback has been called. -/
def called_ids (s : SockSt) : Multiset Nat := ids (s.called.map Outcome.req)

/-! ## Submission -/

/-- libuv has accepted the request: from here on its context, the reference to its
callback and the one to the handle are those of the completion callback. -/
def submit (s : SockSt) : SockSt :=
  { s.set_core (Py_INCREF s.core) with
    next := s.next + 1, contexts := s.contexts + 1, callback_refs := s.callback_refs + 1 }

/-- PyErr_NoMemory -/
def no_memory : PyErr := .cpython .MemoryError

/-- `bad_addr` is the exception of pyuv_parse_addr_tuple, `os` what the system makes
of uv_tcp_connect. A connect under way is refused. -/
def TCP_func_connect (s : SockSt) (callback : CallbackArg) (bad_addr : Option PyErr)
    (alloc : Bool) (os : Int) : Ret × SockSt :=
  match check_open s.core <|> callable_required callback <|> bad_addr with
  | some e => (.raise e, s)
  | none =>
    if !alloc then (.raise no_memory, s)
    else
      let err := if s.connect_req.isSome then UV_EALREADY else os
      if err < 0 then (.raise (.uv .TCPError err), s)
      else (.ok, { submit s with connect_req := some ⟨s.next, true⟩ })

/-- uv_pipe_connect reports its errors to the callback, and stores the request in the
one slot whatever was there. -/
def Pipe_func_connect (s : SockSt) (callback : CallbackArg) (alloc : Bool) : Ret × SockSt :=
  match check_open s.core <|> callable_required callback with
  | some e => (.raise e, s)
  | none =>
    if !alloc then (.raise no_memory, s)
    else (.ok, { submit s with connect_req := some ⟨s.next, true⟩ })

/-- Pipe_func_connect with a name that starts with a null byte. `os` is the first
error of socket, connect and uv_pipe_open. -/
def Pipe_func_connect_abstract (s : SockSt) (callback : CallbackArg) (os : Int) (alloc : Bool) :
    Ret × SockSt :=
  match check_open s.core <|> callable_required callback with
  | some e => (.raise e, s)
  | none =>
    if os < 0 then (.raise (.uv .PipeError os), s)
    else if !alloc then (.raise no_memory, s)
    else (.ok, { submit s with abstract_timers := s.abstract_timers ++ [⟨s.next, true⟩] })

/-- The callback is not checked. That the stream is no TTY is an assertion of libuv,
`os` is what the state of the socket makes of uv_shutdown. -/
def Stream_func_shutdown (kind : Kind) (s : SockSt) (callback : CallbackArg) (alloc : Bool)
    (os : Int) : Ret × SockSt :=
  match check_open s.core with
  | some e => (.raise e, s)
  | none =>
    if !alloc then (.raise no_memory, s)
    else if kind = .TTY then (.abort, s)
    else
      let err := if s.shutdown_req.isSome then UV_ENOTCONN else os
      if err < 0 then (.raise (.uv kind.error err), s)
      else (.ok, { submit s with shutdown_req := some ⟨s.next, decide (callback ≠ .Py_None)⟩ })

/-- Stream_func_write, Pipe_func_write and UDP_func_send. `bad_data` is the exception
of the address, the data or an allocation, `os` what libuv returns. -/
def func_write (kind : Kind) (s : SockSt) (callback : CallbackArg) (bad_data : Option PyErr)
    (os : Int) : Ret × SockSt :=
  match check_open s.core <|> callable_or_None_required callback <|> bad_data with
  | some e => (.raise e, s)
  | none =>
    if os < 0 then (.raise (.uv kind.error os), s)
    else (.ok, { submit s with
      write_queue := s.write_queue ++ [⟨s.next, decide (callback = .callable)⟩] })

/-! ## Completion -/

/-- The end of a completion callback: it gives back what the request held. The memory
of an abstract connect goes with its timer. -/
def callback_end (s : SockSt) (abstract : Bool) : SockSt :=
  let s := { s with callback_refs := s.callback_refs - 1 }
  let s :=
    if abstract then { s with closing_timers := s.closing_timers + 1 }
    else { s with contexts := s.contexts - 1 }
  s.set_core (Py_DECREF s.core)

/-- pyuv__tcp_connect_cb, pyuv__pipe_connect_cb, pyuv__pipe_connect_abstract_cb,
pyuv__stream_write_cb, pyuv__stream_shutdown_cb and pyuv__udp_send_cb up to the
Python callback, or to their end where there is none. -/
def call_back (s : SockSt) (abstract : Bool) (o : Outcome) : SockSt :=
  let s := { s with called := s.called ++ [o] }
  if o.req.callback then
    { s.set_core { s.core with frames := .request :: s.core.frames } with
      running := abstract :: s.running }
  else callback_end s abstract

/-- The outcome of a request that libuv has done with now. -/
def outcome (s : SockSt) (r : Req) (status : Int) : Outcome := ⟨r, status, s.core.closing⟩

/-! ## The steps -/

/-- The calls that submit requests, and what libuv does with these. -/
inductive Act where
  -- a step of the handle that has to do with no request
  | base (a : watchers.Act)
  | TCP_connect (callback : CallbackArg) (bad_addr : Option PyErr) (alloc : Bool) (os : Int)
  | Pipe_connect (callback : CallbackArg) (alloc : Bool)
  | connect_abstract (callback : CallbackArg) (os : Int) (alloc : Bool)
  | shutdown (callback : CallbackArg) (alloc : Bool) (os : Int)
  | write (callback : CallbackArg) (bad_data : Option PyErr) (os : Int)
  -- libuv, on an open handle
  | connect_done (status : Int)
  | write_done (status : Int)
  | shutdown_done (status : Int)
  | run_completed
  | abstract_timer
  | timer_closed
  -- libuv's uv__finish_close, up to the close callback
  | destroy
  | destroy_connect
  | destroy_writes
  | destroy_shutdown
  | finish_close
  -- a Python callback of a request returns
  | ret
deriving DecidableEq, Repr

/-- Where an assertion has failed, there is no state any more. -/
def returned : Ret × SockSt → Option SockSt
  | (.abort, _) => none
  | (_, s) => some s

/-- Which steps of the machine of the handle are taken as they are. The others are
below, with the requests that they have to do with. -/
def is_base (s : SockSt) (a : watchers.Act) : Bool :=
  a ≠ .finish_close ∧ ¬(a = .ret ∧ s.core.frames.head? = some .request)

/-- One act, where it is possible. -/
def step (kind : Kind) (s : SockSt) : Act → Option SockSt
  | .base a =>
    if is_base s a then (watchers.step kind s.base a).map (fun b => { s with base := b }) else none
  | .TCP_connect callback bad_addr alloc os =>
    if usable s.core ∧ kind = .TCP then returned (TCP_func_connect s callback bad_addr alloc os)
    else none
  | .Pipe_connect callback alloc =>
    if usable s.core ∧ kind = .Pipe then returned (Pipe_func_connect s callback alloc) else none
  | .connect_abstract callback os alloc =>
    if usable s.core ∧ kind = .Pipe then returned (Pipe_func_connect_abstract s callback os alloc)
    else none
  | .shutdown callback alloc os =>
    if usable s.core ∧ kind.stream then returned (Stream_func_shutdown kind s callback alloc os)
    else none
  | .write callback bad_data os =>
    if usable s.core ∧ (kind.stream ∨ kind = .UDP) then
      returned (func_write kind s callback bad_data os)
    else none
  | .connect_done status =>
    match s.connect_req with
    | some r =>
      if s.core.closing then none
      else some (call_back { s with connect_req := none } false (outcome s r status))
    | none => none
  | .write_done status =>
    match s.write_queue with
    | r :: rs =>
      if s.core.closing then none
      else some { s with
        write_queue := rs
        write_completed_queue := s.write_completed_queue ++ [outcome s r status] }
    | [] => none
  | .shutdown_done status =>
    match s.shutdown_req with
    | some r =>
      if s.core.closing ∨ s.write_queue ≠ [] then none
      else some (call_back { s with shutdown_req := none } false (outcome s r status))
    | none => none
  | .run_completed =>
    match s.write_completed_queue with
    | o :: os => some (call_back { s with write_completed_queue := os } false o)
    | [] => none
  | .abstract_timer =>
    -- the callback is given None in any case
    match s.abstract_timers with
    | r :: rs => some (call_back { s with abstract_timers := rs } true (outcome s r 0))
    | [] => none
  | .timer_closed =>
    if 0 < s.closing_timers then
      some { s with closing_timers := s.closing_timers - 1, contexts := s.contexts - 1 }
    else none
  | .destroy =>
    if s.core.closing ∧ s.core.closed = false ∧ s.destroying = false then
      some { s with destroying := true }
    else none
  | .destroy_connect =>
    match s.connect_req with
    | some r =>
      if s.destroying then
        some (call_back { s with connect_req := none } false (outcome s r UV_ECANCELED))
      else none
    | none => none
  | .destroy_writes =>
    if s.destroying ∧ s.connect_req = none then
      some { s with
        write_queue := []
        write_completed_queue := s.write_completed_queue ++
          s.write_queue.map (fun r => outcome s r UV_ECANCELED) }
    else none
  | .destroy_shutdown =>
    match s.shutdown_req with
    | some r =>
      if s.destroying ∧ s.connect_req = none ∧ s.write_queue = [] ∧
        s.write_completed_queue = [] then
        some (call_back { s with shutdown_req := none } false (outcome s r UV_ECANCELED))
      else none
    | none => none
  | .finish_close =>
    if s.destroying ∧ s.core.closing ∧ s.core.closed = false ∧ s.connect_req = none ∧
        s.write_queue = [] ∧ s.write_completed_queue = [] ∧ s.shutdown_req = none then
      some (s.set_core (uv__finish_close s.core))
    else none
  | .ret =>
    match s.core.frames, s.running with
    | .request :: fs, abstract :: rest =>
      some (callback_end { s.set_core { s.core with frames := fs } with running := rest } abstract)
    | _, _ => none

/-- A new object without requests. -/
def new (finalizer : Finalizer) : SockSt where
  base := watchers.new finalizer
  next := 0
  connect_req := none
  shutdown_req := none
  write_queue := []
  write_completed_queue := []
  abstract_timers := []
  destroying := false
  running := []
  closing_timers := 0
  contexts := 0
  callback_refs := 0
  called := []

end pyuv.stream_requests
