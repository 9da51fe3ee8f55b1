-- What the loop does to the io watchers of TCP, Pipe, TTY and Poll handles
-- (deps/libuv/src/unix/linux-core.c, core.c, stream.c and poll.c there), cut where it calls Python
-- code, and the steps of a program between these: the calls of StreamIo.lean.
import Pyuv.StreamIo

set_option linter.style.nameCheck false

namespace pyuv.stream_io

open slots watchers
open handle (Ret)

/-! ## linux-core.c -/

/-- The answer of epoll_ctl. Where the descriptor is known already, the entry is modified, or that
fails. -/
inductive EpollCtl where
  | done
  | eexist (modified : Bool)
  | error
deriving DecidableEq, Repr

/-- The watcher at the head of watcher_queue is made known to the system. -/
def uv__io_poll (s : St) (l h : Nat) (ctl : EpollCtl) : Option St :=
  let w := s.io h
  -- nfds is 0, and the queue is not empty
  if (s.loops l).used = 0 then none
  else if w.pevents = no_events ∨ w.fd = none then none
  else
    let s := s.set h { w with queued := false, events := w.pevents }
    match ctl with
    | .done => some s
    | .eexist modified => if w.events = no_events ∧ modified then some s else none
    | .error => none

/-- The events that the system reports of a descriptor, or that a callback is told. -/
structure Report where
  pollin : Bool
  pollout : Bool
  rdhup : Bool
  pollerr : Bool
  pollhup : Bool
deriving DecidableEq, Repr

def nothing : Report := ⟨false, false, false, false, false⟩
def only_pollerr : Report := { nothing with pollerr := true }
def only_pollhup : Report := { nothing with pollhup := true }
def only_pollout : Report := { nothing with pollout := true }

/-- "Give users only events they're interested in", and what they are interested in where the system
has only an error or a hangup to report. -/
def Report.seen (r : Report) (w : Io) : Report :=
  let r := { r with
    pollin := r.pollin && w.pevents.pollin
    pollout := r.pollout && w.pevents.pollout
    rdhup := r.rdhup && w.pevents.rdhup }
  if r = only_pollerr ∨ r = only_pollhup then
    { r with pollin := w.pevents.pollin, pollout := w.pevents.pollout }
  else r

/-! ## The callbacks of the watchers, up to the first answer of the system -/

/-- `accept` comes next, in a round of the loop there. -/
def uv__server_io (s : St) (l h : Nat) (r : Report) : Option St :=
  if !r.pollin ∨ (s.io h).accepted_fd ≠ none ∨ (s.io h).closing then none
  else uv__io_start s l h POLLIN

/-- A connect, a read or a write comes next. -/
def uv__stream_io (s : St) (h : Nat) : Option St :=
  if (s.io h).closing then none
  else if (s.io h).connect_req then some s
  else if (s.io h).fd = none then none else some s

/-- The callback of a Poll's watcher. -/
def uv__poll_io (s : St) (l h : Nat) (r : Report) : Option St :=
  if r.pollerr then uv__io_stop s l h all_events else some s

/-- The `cb` of an io watcher. No watcher of a UDP handle of the model is started. -/
def cb (s : St) (l h : Nat) (r : Report) : Option St :=
  let w := s.io h
  if w.listening then uv__server_io s l h r
  else if w.kind = .Poll then uv__poll_io s l h r
  else if w.kind.stream then uv__stream_io s h
  else some s

/-- The next watcher of pending_queue, with POLLOUT. -/
def uv__run_pending (s : St) (l h : Nat) : Option St :=
  cb (s.set h { s.io h with pending := false }) l h only_pollout

/-! ## What they do between the answers of the system and Python code -/

/-- What accept answers: a connection, or an error, for which uv__emfile_trick may close some
descriptors. -/
inductive Accepted where
  | connection (fd : Nat)
  | error (closed : List Nat)
deriving DecidableEq, Repr

/-- A round of the loop of uv__server_io, up to the callback. -/
def uv__accept_round (s : St) (h : Nat) (accepted : Accepted) : Option St :=
  if (s.io h).accepted_fd ≠ none then none
  else
    match accepted with
    | .connection fd => some (s.set h { s.io h with accepted_fd := some fd })
    | .error closed => uv__close s closed

/-- uv__stream_connect up to the callback. `os` is the error of the socket. -/
def uv__stream_connect (s : St) (l h : Nat) (os : Int) : Option St :=
  let w := s.io h
  if w.kind ≠ .TCP ∧ w.kind ≠ .Pipe ∨ w.delayed_error = 0 ∧ w.fd = none then none
  else
    let error := if w.delayed_error ≠ 0 then w.delayed_error else os
    if error = UV_EINPROGRESS then some (s.set h { w with delayed_error := 0 })
    else
      let s := s.set h { w with
        delayed_error := 0, connect_req := false, connect_failed := decide (error < 0) }
      if error < 0 ∨ w.write_queue = [] then uv__io_stop s l h POLLOUT else some s

/-- The requests of a stream that has no connection fail. -/
def uv__stream_flush_write_queue (s : St) (h : Nat) : St :=
  let w := s.io h
  s.set h { w with
    connect_failed := false
    write_queue := []
    failed := w.failed ++ w.write_queue.map Req.left }

/-- uv__write_callbacks, for one request that has failed. -/
def uv__write_callback (s : St) (h : Nat) : Option St :=
  let w := s.io h
  match w.failed with
  | [] => some s
  | left :: rest =>
    if w.write_queue_size < left then none
    else some (s.set h { w with failed := rest, write_queue_size := w.write_queue_size - left })

/-- `os` is the answer of shutdown(2). -/
def uv__drain (s : St) (l h : Nat) (os : Int) : Option St :=
  (uv__io_stop s l h POLLOUT).map fun s =>
    let w := s.io h
    if w.shutting && !w.closing && !w.shut then
      s.set h { w with shutting := false, shut := decide (0 ≤ os) }
    else s

/-- uv__read where there is nothing to read yet, up to the callback. -/
def uv__read_again (s : St) (l h : Nat) : Option St := uv__io_start s l h POLLIN

/-- uv__stream_eof up to the callback, which stops the reading. -/
def uv__stream_eof (s : St) (l h : Nat) : Option St :=
  (uv__io_stop s l h POLLIN).bind fun s => (uv_read_stop s l h).map Prod.snd

/-- The rest of uv__read after the callback was told of an error, or of the end. -/
def after_read (s : St) (l h : Nat) (eof : Bool) : Option St :=
  let w := s.io h
  if eof then some (s.set h { w with reading := false })
  else if w.reading then uv__io_stop (s.set h { w with reading := false }) l h POLLIN
  else some s

/-- A descriptor that came with the data of an IPC pipe. -/
def uv__stream_recv_cmsg (s : St) (h fd : Nat) (alloc : Bool) : Option St :=
  let w := s.io h
  if w.accepted_fd = none then some (s.set h { w with accepted_fd := some fd })
  else if alloc then some (s.set h { w with queued_fds := w.queued_fds ++ [fd] })
  else uv__close s [fd]

/-- The callbacks of all the requests, and the size that is left. -/
def uv__write_callbacks (size : Nat) : List Nat → Option Nat
  | [] => some size
  | left :: rest => if size < left then none else uv__write_callbacks (size - left) rest

/-- The end of a stream, whose methods raise by now. -/
def uv__stream_destroy (s : St) (h : Nat) : Option St :=
  let w := s.io h
  if uv__io_active w then none
  else
    match uv__write_callbacks w.write_queue_size (w.failed ++ w.write_queue.map Req.left) with
    | none => none
    | some size =>
      if size ≠ 0 then none
      else
        some (s.set h { w with
          connect_req := false, shutting := false, write_queue := [], failed := []
          write_queue_size := 0 })

/-- uv__udp_finish_close is that of a handle without requests. -/
def uv__finish_close (s : St) (h : Nat) : Option St :=
  let w := s.io h
  let s := s.set h { w with closed := true }
  if w.kind.stream then uv__stream_destroy s h
  else if w.kind = .UDP ∧ (uv__io_active w ∨ w.fd ≠ none) then none
  else some s

/-! ## The events -/

/-- What the loop does with a handle. -/
inductive Event where
  | io_poll (ctl : EpollCtl)
  | polled (r : Report)
  | run_pending
  | accept_round (accepted : Accepted)
  | not_accepted
  | connected (os : Int)
  | flush
  | write_callback
  | writable (result : WriteResult)
  | drained (os : Int)
  | read_again
  | read_error
  | eof
  | after_read (eof : Bool)
  | received (fd : Nat) (alloc : Bool)
  | finish_close
deriving DecidableEq, Repr

/-- The descriptors of a process are fewer than INT_MAX. -/
def Accepted.possible : Accepted → Bool
  | .connection fd => fd < INT_MAX
  | .error _ => true

/-- libuv can get there with the handle. -/
def Event.due (s : St) (l h : Nat) : Event → Bool
  | .io_poll _ => (s.io h).queued
  | .polled r =>
    ((s.io h).fd.any fun fd => (s.loops l).slot fd = some (.handle h)) ∧ r.seen (s.io h) ≠ nothing
  | .run_pending => (s.io h).pending
  | .accept_round accepted => (s.io h).listening ∧ (s.io h).fd ≠ none ∧ accepted.possible
  | .not_accepted => (s.io h).listening ∧ (s.io h).accepted_fd ≠ none
  | .connected _ =>
    -- a stream without a descriptor has been in pending_queue
    (s.io h).connect_req ∧ !(s.io h).closing ∧ ((s.io h).fd ≠ none ∨ !(s.io h).pending)
  | .flush => (s.io h).connect_failed ∧ (s.io h).fd ≠ none
  | .write_callback => (s.io h).failed ≠ []
  | .writable _ => (s.io h).kind.stream ∧ (s.io h).fd ≠ none
  | .drained _ => (s.io h).kind.stream ∧ (s.io h).write_queue = []
  | .read_again | .read_error | .eof => (s.io h).reading
  | .after_read _ => (s.io h).kind.stream
  | .received fd _ => (s.io h).ipc ∧ (s.io h).reading ∧ fd < INT_MAX
  | .finish_close => (s.io h).closing ∧ !(s.io h).closed

/-- The function of libuv for the event, none where an assertion of it fails. -/
def Event.run (s : St) (l h : Nat) : Event → Option St
  | .io_poll ctl => uv__io_poll s l h ctl
  | .polled r => cb s l h (r.seen (s.io h))
  | .run_pending => uv__run_pending s l h
  | .accept_round accepted => uv__accept_round s h accepted
  | .not_accepted => uv__io_stop s l h POLLIN
  | .connected os => uv__stream_connect s l h os
  | .flush => some (uv__stream_flush_write_queue s h)
  | .write_callback => uv__write_callback s h
  | .writable result => uv__write s l h result
  | .drained os => uv__drain s l h os
  | .read_again => uv__read_again s l h
  | .read_error => (uv_read_stop s l h).map Prod.snd
  | .eof => uv__stream_eof s l h
  | .after_read ended => stream_io.after_read s l h ended
  | .received fd alloc => uv__stream_recv_cmsg s h fd alloc
  | .finish_close => uv__finish_close s h

/-! ## The steps -/

/-- A call of a method, with what the system answers to it. -/
inductive Call where
  | tp_init (l fd : Nat) (flag blocking : Bool) (err : Int)
  | start_read (callback : CallbackArg)
  | stop_read
  | shutdown
  | write (data : Data) (callback : CallbackArg) (send_handle : Obj) (alloc : Bool)
      (result : WriteResult)
  | try_write (size : Nat) (alloc : Bool) (result : WriteResult)
  | listen (callback : CallbackArg) (backlog : Int) (sock : Except Int Nat) (opened os : Int)
  | accept (client : Obj) (os : Int)
  | connect (callback : CallbackArg) (sock : Except Int Nat) (opened os delayed : Int)
  | bind (refused : Bool) (sock : Except Int Nat) (opened os delayed : Int)
  | open_fd (fd : Nat) (nonblock os : Int)
  | nodelay (enable : Bool) (os : Int)
  | keepalive (enable : Bool) (os : Int)
  | poll_start (events : Int) (callback : CallbackArg)
  | poll_stop
  | close (callback : CallbackArg)

/-- The types that have the method. -/
def Call.method_of (kind : Kind) : Call → Bool
  | .tp_init .. | .close _ => true
  | .start_read _ | .stop_read | .shutdown | .try_write .. => kind.stream
  | .write _ _ send_handle _ _ => kind.stream ∧ (kind = .Pipe ∨ send_handle = .Py_None)
  | .listen .. | .accept .. | .connect .. | .bind .. => kind = .TCP ∨ kind = .Pipe
  | .open_fd .. => kind = .TCP ∨ kind = .Pipe ∨ kind = .UDP
  | .nodelay .. | .keepalive .. => kind = .TCP
  | .poll_start .. | .poll_stop => kind = .Poll

/-- What uv__socket can answer. Descriptors of the system are below INT_MAX. -/
def possible_sock : Except Int Nat → Bool
  | .ok fd => fd < INT_MAX
  | .error err => err < 0 ∧ err ≠ UV_EINPROGRESS

/-- What the system answers to the call. -/
def Call.possible : Call → Bool
  | .tp_init _ fd _ _ _ => fd < INT_MAX
  | .listen _ _ sock _ _ | .connect _ sock _ _ _ | .bind _ sock _ _ _ => possible_sock sock
  | .open_fd fd _ _ => fd < INT_MAX
  | _ => true

/-- The method of a call. -/
def Call.run (s : St) (h : Nat) : Call → Ret × St
  | .tp_init l fd flag blocking err => stream_io.tp_init s h l fd flag blocking err
  | .start_read callback => Stream_func_start_read s h callback
  | .stop_read => Stream_func_stop_read s h
  | .shutdown => Stream_func_shutdown s h
  | .write data callback send_handle alloc result =>
    Stream_func_write s h data callback send_handle alloc result
  | .try_write size alloc result => Stream_func_try_write s h size alloc result
  | .listen callback backlog sock opened os => func_listen s h callback backlog sock opened os
  | .accept client os =>
    if (s.io h).kind = .TCP then TCP_func_accept s h client os else Pipe_func_accept s h client os
  | .connect callback sock opened os delayed => func_connect s h callback sock opened os delayed
  | .bind refused sock opened os delayed => func_bind s h refused sock opened os delayed
  | .open_fd fd nonblock os => func_open s h fd nonblock os
  | .nodelay enable os => TCP_func_nodelay s h enable os
  | .keepalive enable os => TCP_func_keepalive s h enable os
  | .poll_start events callback => Poll_func_start s h events callback
  | .poll_stop => Poll_func_stop s h
  | .close callback => Handle_func_close s h callback

/-- A call, an event of the loop, or a change of the watchers of other handles. -/
inductive Act where
  | call (h : Nat) (c : Call)
  | event (h : Nat) (ev : Event)
  -- a watcher of any other handle is entered, or leaves
  | entered (l fd : Nat)
  | left (l fd : Nat)

/-- The types of handles that the model has. -/
def modelled (kind : Kind) : Bool := kind.stream || kind = .Poll || kind = .UDP

/-- One act, where it is possible. After an assertion has failed there is none. -/
def step (s : St) : Act → Option St
  | .call h c =>
    if s.aborted = false ∧ modelled (s.io h).kind ∧ c.method_of (s.io h).kind ∧ c.possible then
      match c.run s h with
      | (.abort, _) => some { s with aborted := true }
      | (_, t) => some t
    else none
  | .event h ev =>
    match (s.io h).loop with
    | none => none
    | some l =>
      if s.aborted = false ∧ ev.due s l h then
        some ((ev.run s l h).getD { s with aborted := true })
      else none
  | .entered l fd =>
    if s.aborted = false then
      some { s with loops := Function.update s.loops l ((s.loops l).put fd .other) }
    else none
  | .left l fd =>
    if s.aborted = false ∧ (s.loops l).slot fd = some .other then
      ((s.loops l).take fd .other).map fun watchers =>
        { s with loops := Function.update s.loops l watchers }
    else none

/-- No handle is initialized. A loop watches descriptors of its own, that of its asyncs (`async_fd`)
at least. -/
def start (kind : Nat → Kind) (async_fd : Nat → Nat) (own : Nat → Finset Nat) : St where
  io h := tp_new (kind h)
  loops l :=
    ⟨fun fd => if fd ∈ insert (async_fd l) (own l) then some .loop_own else none,
      (insert (async_fd l) (own l)).card⟩
  aborted := false

end pyuv.stream_io
