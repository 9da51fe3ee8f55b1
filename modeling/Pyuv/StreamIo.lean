-- The io watchers of libuv (deps/libuv/src/unix/core.c) and what the streams and polls
-- do with them (stream.c, tcp.c, pipe.c, tty.c and poll.c there), under the methods of
-- TCP, Pipe, TTY and Poll (src/stream.c, tcp.c, pipe.c, tty.c, poll.c). A function of
-- libuv has no result where one of its assertions fails.
import Pyuv.Lib.Runs
import Pyuv.Lib.Slots
import Pyuv.Watchers

set_option linter.style.nameCheck false

namespace pyuv.stream_io

open slots watchers
open handle (Ret)

def INT_MAX : Nat := 2147483647
def STDERR_FILENO : Nat := 2

def UV_EAGAIN : Int := -11
def UV_EBADF : Int := -9
def UV_ENOMEM : Int := -12
def UV_EINPROGRESS : Int := -115

/-! ## The state -/

/-- POLLIN, POLLOUT and UV__POLLRDHUP. -/
structure Events where
  pollin : Bool
  pollout : Bool
  rdhup : Bool
deriving DecidableEq, Repr

def no_events : Events := ⟨false, false, false⟩
def POLLIN : Events := ⟨true, false, false⟩
def POLLOUT : Events := ⟨false, true, false⟩
def all_events : Events := ⟨true, true, true⟩

/-- The union of two sets of events. -/
def Events.or (a b : Events) : Events :=
  ⟨a.pollin || b.pollin, a.pollout || b.pollout, a.rdhup || b.rdhup⟩

/-- The events of `a` that are not in `b`. -/
def Events.without (a b : Events) : Events :=
  ⟨a.pollin && !b.pollin, a.pollout && !b.pollout, a.rdhup && !b.rdhup⟩

/-- A uv_write_t in write_queue: the bytes that are left, and the handle that is sent. -/
structure Req where
  left : Nat
  send_handle : Option Nat
deriving DecidableEq, Repr

/-- A handle object and its libuv handle. -/
structure Io where
  kind : Kind
  -- the Loop, none before __init__, and handle->loop, which a TCP handle has too whose socket
  -- could not be made in __init__
  loop : Option Nat
  uv_loop : Option Nat
  closing : Bool
  closed : Bool
  -- io_watcher: the descriptor, none for -1, the events that are watched for, those that
  -- the system knows of, and whether the watcher is in watcher_queue and in pending_queue
  fd : Option Nat
  pevents : Events
  events : Events
  queued : Bool
  pending : Bool
  -- the flags of the stream
  reading : Bool
  writable : Bool
  shutting : Bool
  shut : Bool
  blocking : Bool
  nodelay : Bool
  keepalive : Bool
  -- io_watcher.cb is uv__server_io
  listening : Bool
  ipc : Bool
  -- connect_req is set, and its callback has been told of an error
  connect_req : Bool
  connect_failed : Bool
  delayed_error : Int
  accepted_fd : Option Nat
  queued_fds : List Nat
  -- write_queue, and the bytes left of the requests that have failed
  write_queue : List Req
  failed : List Nat
  write_queue_size : Nat
deriving DecidableEq, Repr

/-- The object before __init__. -/
def tp_new (kind : Kind) : Io where
  kind := kind
  loop := none
  uv_loop := none
  closing := false
  closed := false
  fd := none
  pevents := no_events
  events := no_events
  queued := false
  pending := false
  reading := false
  writable := false
  shutting := false
  shut := false
  blocking := false
  nodelay := false
  keepalive := false
  listening := false
  ipc := false
  connect_req := false
  connect_failed := false
  delayed_error := 0
  accepted_fd := none
  queued_fds := []
  write_queue := []
  failed := []
  write_queue_size := 0

/-- Whose an entry of loop->watchers is: the loop's, that of a handle of the model, or of any other
handle. -/
inductive Watcher where
  | loop_own
  | handle (h : Nat)
  | other
deriving DecidableEq, Repr

/-- The handles of a process, with the table of watchers of each loop. -/
structure St where
  io : Nat → Io
  -- loop->watchers and loop->nfds. A descriptor past the end of the array has no watcher.
  loops : Nat → Table Nat Watcher
  -- an assertion has failed
  aborted : Bool

/-- One handle is written over. -/
def St.set (s : St) (h : Nat) (w : Io) : St := { s with io := Function.update s.io h w }

/-! ## core.c -/

/-- A watcher whose descriptor another one has is queued, but not entered. -/
def uv__io_start (s : St) (l h : Nat) (ev : Events) : Option St :=
  let w := s.io h
  match w.fd with
  | none => none
  | some fd =>
    if ev = no_events ∨ INT_MAX ≤ fd then none
    else
      let w := { w with pevents := w.pevents.or ev }
      if w.events = w.pevents then some (s.set h w)
      else
        some { s.set h { w with queued := true } with
          loops := Function.update s.loops l ((s.loops l).put fd (.handle h)) }

/-- That the entry is the watcher's own is an assertion. The events are constants. -/
def uv__io_stop (s : St) (l h : Nat) (ev : Events) : Option St :=
  let w := s.io h
  match w.fd with
  | none => some s
  | some fd =>
    let w := { w with pevents := w.pevents.without ev }
    if w.pevents = no_events then
      let events := if ((s.loops l).slot fd).isSome then no_events else w.events
      ((s.loops l).take fd (.handle h)).map fun watchers =>
        { s.set h { w with queued := false, events := events } with
          loops := Function.update s.loops l watchers }
    else some (s.set h { w with queued := true })

/-- With POLLIN and POLLOUT. -/
def uv__io_active (w : Io) : Bool := w.pevents.pollin || w.pevents.pollout

/-- The watcher goes into pending_queue, where it stands once. -/
def uv__io_feed (s : St) (h : Nat) : St := s.set h { s.io h with pending := true }

/-- It is stopped and leaves pending_queue. -/
def uv__io_close (s : St) (l h : Nat) : Option St :=
  (uv__io_stop s l h all_events).map fun s => s.set h { s.io h with pending := false }

/-- "Catch stdio close bugs." -/
def uv__close (s : St) (fds : List Nat) : Option St :=
  if fds.any (· ≤ STDERR_FILENO) then none else some s

/-! ## stream.c -/

/-- uv_read_start and uv__read_start_common. -/
def uv_read_start (s : St) (l h : Nat) : Option (Int × St) :=
  let w := s.io h
  if !w.kind.stream then none
  else if w.closing then some (UV_EINVAL, s)
  else (uv__io_start (s.set h { w with reading := true }) l h POLLIN).map fun s => (0, s)

/-- Only a stream that reads is stopped. -/
def uv_read_stop (s : St) (l h : Nat) : Option (Int × St) :=
  let w := s.io h
  if !w.reading then some (0, s)
  else (uv__io_stop (s.set h { w with reading := false }) l h POLLIN).map fun s => (0, s)

/-- The request waits until what was written is out. -/
def uv_shutdown (s : St) (l h : Nat) : Option (Int × St) :=
  let w := s.io h
  if w.kind ≠ .TCP ∧ w.kind ≠ .Pipe then none
  else if !w.writable || w.shut || w.shutting || w.closing then some (UV_ENOTCONN, s)
  else (uv__io_start (s.set h { w with shutting := true }) l h POLLOUT).map fun s => (0, s)

/-- `os` is the first error of the options that a TCP handle sets. The flags are set
before. -/
def uv__stream_open (s : St) (h fd : Nat) (writable : Bool) (os : Int) : Int × St :=
  let w := s.io h
  if w.fd ≠ none ∧ w.fd ≠ some fd then (UV_EBUSY, s)
  else
    let w := { w with writable := w.writable || writable }
    if w.kind = .TCP ∧ (w.nodelay ∨ w.keepalive) ∧ os < 0 then (os, s.set h w)
    else (0, s.set h { w with fd := some fd })

/-- The system has accepted the write of so many bytes, where it can be written to at all, or
refused it after them. -/
inductive WriteResult where
  | wrote (n : Option Nat)
  | error (n : Nat)
deriving DecidableEq, Repr

/-- The descriptor of a handle that is sent. -/
def uv__handle_fd (w : Io) : Option Nat :=
  match w.kind with
  | .Pipe | .TCP | .UDP => w.fd
  | _ => none

/-- The end of uv__write_req_finish for a request without an error. -/
def uv__write_done (s : St) (h : Nat) (rest : List Req) (n : Nat) : St :=
  let w := s.io h
  uv__io_feed
    (s.set h { w with write_queue := rest, write_queue_size := w.write_queue_size - n }) h

/-- The label `error`, after so many bytes. -/
def uv__write_error (s : St) (l h : Nat) (req : Req) (rest : List Req) (n : Nat) : Option St :=
  let w := s.io h
  uv__io_stop
    (uv__io_feed
      (s.set h { w with
        write_queue := rest
        failed := w.failed ++ [req.left - n]
        write_queue_size := w.write_queue_size - n }) h)
    l h POLLOUT

/-- The first request of write_queue. A blocking stream goes on until all is written or
an error comes, the others write once. -/
def uv__write (s : St) (l h : Nat) (result : WriteResult) : Option St :=
  let w := s.io h
  if w.fd = none then none
  else
    match w.write_queue with
    | [] => some s
    | req :: rest =>
      if req.send_handle.any fun k => (s.io k).closing then uv__write_error s l h req rest 0
      else if req.send_handle.any fun k => (uv__handle_fd (s.io k)).isNone then none
      else
        match result with
        | .wrote answer =>
          let n := if w.blocking then req.left else min (answer.getD 0) req.left
          if w.write_queue_size < n then none
          else if n = req.left ∧ (w.blocking ∨ answer.isSome) then
            some (uv__write_done s h rest n)
          else
            uv__io_start
              (s.set h { w with
                write_queue := { req with left := req.left - n } :: rest
                write_queue_size := w.write_queue_size - n })
              l h POLLOUT
        | .error n =>
          let n := if w.blocking then min n req.left else 0
          if w.write_queue_size < n then none else uv__write_error s l h req rest n

/-- `bufs` are the sizes of the buffers, `alloc` whether there is memory for them. -/
def uv_write2 (s : St) (l h : Nat) (bufs : List Nat) (send_handle : Option Nat) (alloc : Bool)
    (result : WriteResult) : Option (Int × St) :=
  let w := s.io h
  if bufs = [] ∨ !w.kind.stream then none
  else if w.fd = none then some (UV_EBADF, s)
  else if send_handle.isSome ∧ (w.kind ≠ .Pipe ∨ !w.ipc) then some (UV_EINVAL, s)
  else if send_handle.any fun k => (uv__handle_fd (s.io k)).isNone then some (UV_EBADF, s)
  else if !alloc then some (UV_ENOMEM, s)
  else
    let s' := s.set h { w with
      write_queue := w.write_queue ++ [⟨bufs.sum, send_handle⟩]
      write_queue_size := w.write_queue_size + bufs.sum }
    if w.connect_req then some (0, s')
    else if w.write_queue_size = 0 then (uv__write s' l h result).map fun s => (0, s)
    else if w.blocking then none
    else (uv__io_start s' l h POLLOUT).map fun s => (0, s)

/-- What is left of the request that uv_try_write has just submitted: it is the last one
of its queue, or done. -/
def uv_try_write_unqueue (before w : Io) : Nat × Io :=
  match w.write_queue.getLast? with
  | some req => (req.left, { w with write_queue := w.write_queue.dropLast })
  | none =>
    if w.failed.length = before.failed.length then (0, w)
    else (w.failed.getLast?.getD 0, { w with failed := w.failed.dropLast })

/-- uv_try_write after the write. `before` is the handle as it was. -/
def uv_try_write_end (s : St) (l h : Nat) (before : Io) (size : Nat) : Option (Int × St) :=
  let (left, u) := uv_try_write_unqueue before (s.io h)
  if u.write_queue_size < left then none
  else
    let s := s.set h { u with write_queue_size := u.write_queue_size - left }
    let written := if size = left ∧ left ≠ 0 then UV_EAGAIN else (size - left : Nat)
    if before.pevents.pollout then some (written, s)
    else (uv__io_stop s l h POLLOUT).map fun s => (written, s)

/-- It writes at once or not at all. -/
def uv_try_write (s : St) (l h : Nat) (bufs : List Nat) (alloc : Bool) (result : WriteResult) :
    Option (Int × St) :=
  let w := s.io h
  if w.connect_req ∨ w.write_queue_size ≠ 0 then some (UV_EAGAIN, s)
  else
    match uv_write2 s l h bufs none alloc result with
    | none => none
    | some (err, t) => if err ≠ 0 then some (err, t) else uv_try_write_end t l h w bufs.sum

/-- The switch of uv_accept over the type of the client. `os` is the first error in
opening it. -/
def uv_accept_open (s : St) (k fd : Nat) (os : Int) : Option (Int × St) :=
  match (s.io k).kind with
  | .Pipe | .TCP => some (uv__stream_open s k fd true os)
  | .UDP =>
    if (s.io k).fd ≠ none then some (UV_EBUSY, s)
    else if os < 0 then some (os, s)
    else some (0, s.set k { s.io k with fd := some fd })
  | _ => none

/-- The end of uv_accept, where the next descriptor is taken from the queue. -/
def uv_accept_done (s : St) (l h : Nat) (err : Int) : Option (Int × St) :=
  let w := s.io h
  match w.queued_fds with
  | fd :: fds => some (err, s.set h { w with accepted_fd := some fd, queued_fds := fds })
  | [] =>
    let s := s.set h { w with accepted_fd := none }
    if err = 0 then (uv__io_start s l h POLLIN).map fun s => (err, s) else some (err, s)

/-- The descriptor that waits is given to the client `k`. -/
def uv_accept (s : St) (l h k : Nat) (os : Int) : Option (Int × St) :=
  if (s.io h).uv_loop ≠ (s.io k).uv_loop then none
  else
    match (s.io h).accepted_fd with
    | none => some (UV_EAGAIN, s)
    | some fd =>
      match uv_accept_open s k fd os with
      | none => some (UV_EINVAL, s)
      | some (err, t) =>
        if err = 0 then uv_accept_done t l h err
        else (uv__close t [fd]).bind fun t => uv_accept_done t l h err

/-! ## tcp.c, pipe.c, udp.c, tty.c and poll.c -/

/-- `sock` is the new socket or the error of uv__socket. -/
def maybe_new_socket (s : St) (h : Nat) (sock : Except Int Nat) (writable : Bool) (os : Int) :
    Option (Int × St) :=
  let w := s.io h
  if w.fd ≠ none then some (0, s.set h { w with writable := w.writable || writable })
  else
    match sock with
    | .error err => some (err, s)
    | .ok fd =>
      let (err, s) := uv__stream_open s h fd writable os
      if err = 0 then some (0, s) else (uv__close s [fd]).map fun s => (err, s)

/-- `refused` is IPv6-only mode for another address, `os` the answer of bind, of which EADDRINUSE is
kept for later. -/
def uv__tcp_bind (s : St) (h : Nat) (refused : Bool) (sock : Except Int Nat)
    (opened os delayed : Int) : Option (Int × St) :=
  if refused then some (UV_EINVAL, s)
  else
    (maybe_new_socket s h sock true opened).map fun (err, s) =>
      if err ≠ 0 then (err, s)
      else if os < 0 then (os, s)
      else (0, s.set h { s.io h with delayed_error := delayed })

/-- A socket of its own, and the bind of the system. -/
def uv_pipe_bind (s : St) (h : Nat) (sock : Except Int Nat) (os : Int) : Option (Int × St) :=
  if (s.io h).fd ≠ none then some (UV_EINVAL, s)
  else
    match sock with
    | .error err => some (err, s)
    | .ok fd =>
      if os < 0 then (uv__close s [fd]).map fun s => (os, s)
      else some (0, s.set h { s.io h with fd := some fd })

/-- `os` is an error that connect reports at once, `delayed` one that waits. -/
def uv__tcp_connect (s : St) (l h : Nat) (sock : Except Int Nat) (opened os delayed : Int) :
    Option (Int × St) :=
  if (s.io h).connect_req then some (UV_EALREADY, s)
  else
    (maybe_new_socket s h sock true opened).bind fun (err, s) =>
      if err ≠ 0 then some (err, s)
      else if os < 0 then some (os, s.set h { s.io h with delayed_error := 0 })
      else
        (uv__io_start (s.set h { s.io h with connect_req := true, delayed_error := delayed })
          l h POLLOUT).map fun s => (0, if delayed ≠ 0 then uv__io_feed s h else s)

/-- The errors wait for the callback. -/
def uv_pipe_connect_out (s : St) (h : Nat) (err : Int) : Int × St :=
  let s := s.set h { s.io h with delayed_error := err, connect_req := true }
  (0, if err ≠ 0 then uv__io_feed s h else s)

/-- uv_pipe_connect with a socket. `os` is the answer of connect(2). -/
def uv_pipe_connect_sock (s : St) (l h : Nat) (new_sock : Bool) (os : Int) : Option (Int × St) :=
  if os < 0 then some (uv_pipe_connect_out s h os)
  else
    let w := s.io h
    let s := s.set h { w with writable := w.writable || new_sock }
    (uv__io_start s l h (POLLIN.or POLLOUT)).map fun s => uv_pipe_connect_out s h 0

/-- A socket of its own, where the pipe has none. -/
def uv_pipe_connect (s : St) (l h : Nat) (sock : Except Int Nat) (os : Int) : Option (Int × St) :=
  if (s.io h).fd ≠ none then uv_pipe_connect_sock s l h false os
  else
    match sock with
    | .error err => some (uv_pipe_connect_out s h err)
    | .ok fd => uv_pipe_connect_sock (s.set h { s.io h with fd := some fd }) l h true os

/-- The watcher's callback is uv__server_io from here on. -/
def uv_tcp_listen (s : St) (l h : Nat) (sock : Except Int Nat) (opened os : Int) :
    Option (Int × St) :=
  if (s.io h).delayed_error ≠ 0 then some ((s.io h).delayed_error, s)
  else
    (maybe_new_socket s h sock false opened).bind fun (err, s) =>
      if err ≠ 0 then some (err, s)
      else if os < 0 then some (os, s)
      else
        (uv__io_start (s.set h { s.io h with listening := true }) l h POLLIN).map fun s => (0, s)

/-- The same for a pipe, which was bound. -/
def uv_pipe_listen (s : St) (l h : Nat) (os : Int) : Option (Int × St) :=
  if (s.io h).fd = none then some (UV_EINVAL, s)
  else if os < 0 then some (os, s)
  else (uv__io_start (s.set h { s.io h with listening := true }) l h POLLIN).map fun s => (0, s)

/-- uv_tcp_open, uv_pipe_open and uv_udp_open. `nonblock` is the answer of uv__nonblock. -/
def uv_open (s : St) (h fd : Nat) (nonblock os : Int) : Int × St :=
  if (s.io h).kind = .UDP ∧ (s.io h).fd ≠ none then (UV_EBUSY, s)
  else if nonblock < 0 then (nonblock, s)
  else if (s.io h).kind = .UDP then
    if os < 0 then (os, s) else (0, s.set h { s.io h with fd := some fd })
  else uv__stream_open s h fd true os

/-- uv_tcp_nodelay and uv_tcp_keepalive. -/
def uv_tcp_option (s : St) (h : Nat) (set : Io → Io) (os : Int) : Int × St :=
  if (s.io h).fd ≠ none ∧ os < 0 then (os, s) else (0, s.set h (set (s.io h)))

/-- All events are stopped. -/
def uv_poll_stop (s : St) (l h : Nat) : Option (Int × St) :=
  if (s.io h).closing then none else (uv__io_stop s l h all_events).map fun s => (0, s)

/-- UV_READABLE is 1, UV_WRITABLE 2 and UV_DISCONNECT 4. -/
def poll_events (pevents : Int) : Events :=
  ⟨pevents.toNat.testBit 0, pevents.toNat.testBit 1, pevents.toNat.testBit 2⟩

/-- It stops all events before it starts those that are asked for. -/
def uv_poll_start (s : St) (l h : Nat) (pevents : Int) : Option (Int × St) :=
  if pevents < 0 ∨ 7 < pevents then none
  else if (s.io h).closing then none
  else
    (uv__io_stop s l h all_events).bind fun s =>
      if pevents = 0 then some (0, s)
      else (uv__io_start s l h (poll_events pevents)).map fun s => (0, s)

/-- The descriptors that closing a handle gives to uv__close: that of a stream only above those of
stdio, where it does not fail. -/
def to_close (w : Io) : List Nat :=
  if w.kind = .UDP then w.fd.toList else w.accepted_fd.toList ++ w.queued_fds

/-- uv__stream_close and uv__udp_close. -/
def uv__stream_close (s : St) (l h : Nat) : Option St :=
  (uv__io_close s l h).bind fun s =>
    (uv_read_stop s l h).bind fun (_, s) =>
      (uv__close s (to_close (s.io h))).bind fun s =>
        if uv__io_active (s.io h) then none
        else some (s.set h { s.io h with fd := none, accepted_fd := none, queued_fds := [] })

/-- A poll keeps the number of the descriptor that it was given. -/
def uv_close (s : St) (l h : Nat) : Option St :=
  let w := s.io h
  if w.closing then none
  else
    let s := s.set h { w with closing := true }
    if w.kind = .Poll then uv__io_stop s l h all_events else uv__stream_close s l h

/-! ## The methods -/

/-- RAISE_IF_HANDLE_NOT_INITIALIZED and RAISE_IF_HANDLE_CLOSED, and the loop otherwise. -/
def check_open (s : St) (h : Nat) : Except PyErr Nat :=
  match (s.io h).loop with
  | none => .error .not_initialized
  | some l => if (s.io h).closing then .error .handle_closed else .ok l

/-- What a method makes of the result of libuv. -/
def returns (s : St) (type : ExcType) : Option (Int × St) → Ret × St
  | none => (.abort, s)
  | some (err, t) => if err < 0 then (.raise (.uv type err), t) else (.ok, t)

/-- The guard of each method, the exception of its arguments, and the call of libuv. -/
def method (s : St) (h : Nat) (type : ExcType) (bad_args : Option PyErr)
    (uv : Nat → Option (Int × St)) : Ret × St :=
  match check_open s h with
  | .error e => (.raise e, s)
  | .ok l =>
    match bad_args with
    | some e => (.raise e, s)
    | none => returns s type (uv l)

/-- start_read(callback) -/
def Stream_func_start_read (s : St) (h : Nat) (callback : CallbackArg) : Ret × St :=
  method s h (s.io h).kind.error (callable_required callback) fun l => uv_read_start s l h

/-- stop_read() -/
def Stream_func_stop_read (s : St) (h : Nat) : Ret × St :=
  method s h (s.io h).kind.error none fun l => uv_read_stop s l h

/-- The callback is not checked. -/
def Stream_func_shutdown (s : St) (h : Nat) : Ret × St :=
  method s h (s.io h).kind.error none fun l => uv_shutdown s l h

/-- The argument `data` of a write: its buffers, or the exception it leads to. -/
inductive Data where
  | buffer (size : Nat)
  | sequence (sizes : List Nat)
  | bad (e : PyErr)
deriving DecidableEq, Repr

/-- The sizes of the buffers. -/
def Data.bufs : Data → List Nat
  | .buffer size => [size]
  | .sequence sizes => sizes
  | .bad _ => []

/-- The exception that the data lead to. -/
def Data.error : Data → Option PyErr
  | .sequence [] => some (.text .ValueError "iterable is empty")
  | .bad e => some e
  | _ => none

/-- An object that a method is given: a handle, or something else. -/
inductive Obj where
  | Py_None
  | handle (k : Nat)
  | other
deriving DecidableEq, Repr

/-- The `type` of the libuv handle, none before uv__handle_init. -/
def uv_type (w : Io) : Option Kind := if w.uv_loop = none then none else some w.kind

/-- Pipe_func_write's check of `send_handle`. -/
def bad_send_handle (s : St) : Obj → Option PyErr
  | .Py_None => none
  | .handle k =>
    if (s.io k).kind.stream then
      if uv_type (s.io k) ≠ some .TCP ∧ uv_type (s.io k) ≠ some .Pipe then
        some (.text .TypeError "Only TCP and Pipe objects are supported")
      else none
    else if (s.io k).kind = .UDP then none
    else some (.text .TypeError "Only Stream and UDP objects are supported")
  | .other => some (.text .TypeError "Only Stream and UDP objects are supported")

/-- The handle, where it is one. -/
def Obj.id? : Obj → Option Nat
  | .handle k => some k
  | _ => none

/-- Stream_func_write, and Pipe_func_write with its third argument. -/
def Stream_func_write (s : St) (h : Nat) (data : Data) (callback : CallbackArg)
    (send_handle : Obj) (alloc : Bool) (result : WriteResult) : Ret × St :=
  method s h (s.io h).kind.error
    (callable_or_None_required callback <|> bad_send_handle s send_handle <|> data.error)
    fun l => uv_write2 s l h data.bufs send_handle.id? alloc result

/-- try_write(data) -/
def Stream_func_try_write (s : St) (h size : Nat) (alloc : Bool) (result : WriteResult) :
    Ret × St :=
  method s h (s.io h).kind.error none fun l => uv_try_write s l h [size] alloc result

/-- The format i. -/
def int_required (n : Int) : Option PyErr :=
  if n < -2147483648 ∨ 2147483647 < n then some (.cpython .OverflowError) else none

/-- TCP_func_listen and Pipe_func_listen. -/
def func_listen (s : St) (h : Nat) (callback : CallbackArg) (backlog : Int)
    (sock : Except Int Nat) (opened os : Int) : Ret × St :=
  let bad_backlog := if backlog < 0 then
    some (PyErr.text .ValueError "backlog must be bigger than 0") else none
  method s h (s.io h).kind.error
    (int_required backlog <|> bad_backlog <|> callable_required callback)
    fun l =>
      if (s.io h).kind = .TCP then uv_tcp_listen s l h sock opened os
      else uv_pipe_listen s l h os

/-- The check of TCP.accept, which any stream passes. -/
def bad_TCP_client (s : St) : Obj → Option PyErr
  | .handle k =>
    if (s.io k).kind.stream then none
    else some (.text .TypeError "Only stream objects are supported for accept")
  | _ => some (.text .TypeError "Only stream objects are supported for accept")

/-- TCP.accept(client) -/
def TCP_func_accept (s : St) (h : Nat) (client : Obj) (os : Int) : Ret × St :=
  method s h .TCPError (bad_TCP_client s client)
    fun l => client.id?.elim (some (0, s)) fun k => uv_accept s l h k os

/-- The check of Pipe.accept: a stream must be a TCP or a Pipe. -/
def bad_Pipe_client (s : St) : Obj → Option PyErr
  | .handle k =>
    if (s.io k).kind.stream then
      if uv_type (s.io k) ≠ some .TCP ∧ uv_type (s.io k) ≠ some .Pipe then
        some (.text .TypeError "Only TCP and Pipe objects are supported for accept")
      else none
    else if (s.io k).kind = .UDP then none
    else some (.text .TypeError "Only Stream and UDP objects are supported for accept")
  | _ => some (.text .TypeError "Only Stream and UDP objects are supported for accept")

/-- Pipe.accept(client) -/
def Pipe_func_accept (s : St) (h : Nat) (client : Obj) (os : Int) : Ret × St :=
  method s h .PipeError (bad_Pipe_client s client)
    fun l => client.id?.elim (some (0, s)) fun k => uv_accept s l h k os

/-- Poll.start(events, callback) -/
def Poll_func_start (s : St) (h : Nat) (events : Int) (callback : CallbackArg) : Ret × St :=
  method s h .PollError (int_required events <|> callable_required callback)
    fun l => uv_poll_start s l h events

/-- Poll.stop() -/
def Poll_func_stop (s : St) (h : Nat) : Ret × St :=
  method s h .PollError none fun l => uv_poll_stop s l h

/-- close([callback]) -/
def Handle_func_close (s : St) (h : Nat) (callback : CallbackArg) : Ret × St :=
  let bad_callback := if callback = .other then
    some (PyErr.text .TypeError "a callable or None is required") else none
  method s h .HandleError bad_callback fun l => (uv_close s l h).map fun s => (0, s)

/-- The connect methods of TCP and Pipe, with a good address. -/
def func_connect (s : St) (h : Nat) (callback : CallbackArg) (sock : Except Int Nat)
    (opened os delayed : Int) : Ret × St :=
  method s h (s.io h).kind.error (callable_required callback)
    fun l =>
      if (s.io h).kind = .TCP then uv__tcp_connect s l h sock opened os delayed
      else uv_pipe_connect s l h sock os

/-- The bind methods of TCP and Pipe. -/
def func_bind (s : St) (h : Nat) (refused : Bool) (sock : Except Int Nat)
    (opened os delayed : Int) : Ret × St :=
  method s h (s.io h).kind.error none
    fun _ => if (s.io h).kind = .TCP then uv__tcp_bind s h refused sock opened os delayed
      else uv_pipe_bind s h sock os

/-- The open methods. The abstract names of a Pipe come here too. -/
def func_open (s : St) (h fd : Nat) (nonblock os : Int) : Ret × St :=
  method s h (s.io h).kind.error none fun _ => some (uv_open s h fd nonblock os)

/-- TCP.nodelay(enable) -/
def TCP_func_nodelay (s : St) (h : Nat) (enable : Bool) (os : Int) : Ret × St :=
  method s h .TCPError none
    fun _ => some (uv_tcp_option s h (fun w => { w with nodelay := enable }) os)

/-- TCP.keepalive(enable, delay), of which the delay is no matter here. -/
def TCP_func_keepalive (s : St) (h : Nat) (enable : Bool) (os : Int) : Ret × St :=
  method s h .TCPError none
    fun _ => some (uv_tcp_option s h (fun w => { w with keepalive := enable }) os)

/-- The tp_init of each type. `err` is what uv_*_init returns, `fd` the descriptor of a TTY
or a Poll, or the socket of a TCP or UDP handle that is given a family, and `blocking` whether
a TTY could not be opened again. -/
def tp_init (s : St) (h l : Nat) (fd : Nat) (flag blocking : Bool) (err : Int) : Ret × St :=
  let w := s.io h
  if w.loop ≠ none then (.raise .already_initialized, s)
  else
    let uv := { tp_new w.kind with uv_loop := some l }
    if err < 0 then
      -- of the libuv handles only that of TCP is initialized before its socket
      (.raise (.uv w.kind.error err), if w.kind = .TCP ∧ flag then s.set h uv else s)
    else
      let w := { uv with loop := some l }
      match w.kind with
      | .Pipe => (.ok, s.set h { w with ipc := flag })
      | .TTY =>
        -- `flag` is `readable`
        (.ok, s.set h { w with fd := some fd, writable := !flag, blocking := blocking && !flag })
      | .Poll => (.ok, s.set h { w with fd := some fd })
      | _ => (.ok, s.set h (if flag then { w with fd := some fd } else w))

end pyuv.stream_io
