-- The requests of the thread pool (src/request.c, and the callbacks in fs.c, dns.c and
-- loop.c) with the queues of libuv that they go through (deps/libuv/src/threadpool.c).
import Pyuv.Lib.Rings
import Pyuv.Lib.Runs
import Pyuv.PyObjects

set_option linter.style.nameCheck false

namespace pyuv.threadpool

open rings

def UV_EAI_CANCELED : Int := -3003

/-! ## The state -/

/-- The QUEUE links: the queue of the pool, the queue of finished items of the loop, the
local one of each uv__work_done on the stack, and the link of each request. -/
inductive Node where
  | wq
  | loop_wq
  | local_wq (depth : Nat)
  | req (i : Nat)
deriving DecidableEq, Repr

/-- `w->work`: none, the work function, or uv__cancelled. -/
inductive Work where
  | NULL | fn | cancelled
deriving DecidableEq, Repr

/-- The four types of requests. -/
inductive Kind where
  | FSRequest | GAIRequest | GNIRequest | WorkRequest
deriving DecidableEq, Repr

/-- A call of the completion callback: what libuv passed to `done`, and the error that
the callback was told. -/
structure Completion where
  err : Int
  errorno : Int
deriving DecidableEq, Repr

/-- A request that has been submitted. `result` is where libuv keeps the outcome of the
work, `user` are the references of Python code. -/
structure Req where
  kind : Kind
  req_ptr : Bool
  work : Work
  result : Int
  refcnt : Int
  user : Nat
  -- how often the work function was called, the completion callback, and how often
  -- the latter dropped the reference of libuv
  worked : Nat
  done : List Completion
  released : Nat
deriving DecidableEq, Repr

/-- A call of Request.cancel, with whether the completion had begun, how often the work
function had been called by then, and the links of all queues around the call. -/
structure Cancel where
  req : Nat
  begun : Bool
  worked : Nat
  result : Bool
  before : Mem Node
  after : Mem Node

/-- The queues and requests of one loop and its threads. -/
structure Pool where
  mem : Mem Node
  submitted : Nat
  req : Nat → Req
  -- the requests that the workers have taken
  executing : List Nat
  -- each uv__work_done on the stack, the innermost first, with the request whose
  -- callback it waits for
  drains : List (Option Nat)
  cancels : List Cancel

/-! ## libuv -/

/-- What uv__fs_done, uv__getaddrinfo_done, uv__getnameinfo_done and uv__queue_done
pass on to the completion callback. -/
def errorno_of (kind : Kind) (result err : Int) : Int :=
  match kind with
  | .FSRequest => if err = UV_ECANCELED then UV_ECANCELED else result
  | .GAIRequest | .GNIRequest => if err = UV_ECANCELED then UV_EAI_CANCELED else result
  | .WorkRequest => err

/-- `w->done(w, err)`, up to where the completion callback begins. The asserts on the way are left
out: that the loop has active requests, and that a cancelled request has no result yet. -/
def w_done (r : Req) (err : Int) : Req :=
  let errorno := errorno_of r.kind r.result err
  { r with
    result := if r.kind = .WorkRequest then r.result else errorno
    done := r.done ++ [⟨err, errorno⟩] }

/-- uv__work_submit. The object has been made with one reference, which the caller
gets, and Py_INCREF has added the one of libuv. -/
def uv__work_submit (s : Pool) (kind : Kind) : Pool :=
  { s with
    mem := insert_tail .wq (.req s.submitted) s.mem
    submitted := s.submitted + 1
    req := Function.update s.req s.submitted ⟨kind, true, .fn, 0, 2, 1, 0, [], 0⟩ }

/-- A worker takes the first item and calls its work function. On an empty queue the
workers wait, and uv__cancelled would end the process. -/
def worker_take (nthreads : Nat) (s : Pool) : Option Pool :=
  match s.mem.next .wq with
  | .req i =>
    let r := s.req i
    if s.executing.length < nthreads ∧ r.work = .fn then
      some { s with
        mem := init (.req i) (remove (.req i) s.mem)
        executing := i :: s.executing
        req := Function.update s.req i { r with worked := r.worked + 1 } }
    else none
  | _ => none

/-- The work function of `i` is at its end, with the outcome `result`. -/
def worker_finish (s : Pool) (i : Nat) (result : Int) : Option Pool :=
  let r := s.req i
  if i ∈ s.executing then
    some { s with
      mem := insert_tail .loop_wq (.req i) s.mem
      executing := s.executing.erase i
      req := Function.update s.req i { r with work := .NULL, result := result } }
  else none

/-- uv__work_done begins, from the loop or from a loop that a completion callback runs. -/
def uv__work_done (s : Pool) : Option Pool :=
  match s.drains with
  | none :: _ => none
  | ds => some { s with
      mem := move .loop_wq (.local_wq ds.length) s.mem
      drains := none :: ds }

/-- One turn of the loop of uv__work_done, up to the callback. The item is taken off the
queue, and unlike in `worker_take` its own links stay what they were. -/
def work_done_next (s : Pool) : Option Pool :=
  match s.drains with
  | none :: ds =>
    match s.mem.next (.local_wq ds.length) with
    | .req i =>
      let r := s.req i
      let err := if r.work = .cancelled then UV_ECANCELED else 0
      some { s with
        mem := remove (.req i) s.mem
        drains := some i :: ds
        req := Function.update s.req i (w_done r err) }
    | _ => none
  | _ => none

/-- The tail of pyuv__process_fs_req, pyuv__getaddrinfo_cb, pyuv__getnameinfo_cb and
pyuv__tp_done_cb, after the callback of the user. -/
def callback_return (s : Pool) : Option Pool :=
  match s.drains with
  | some i :: ds =>
    let r := s.req i
    some { s with
      drains := none :: ds
      req := Function.update s.req i
        { r with req_ptr := false, refcnt := r.refcnt - 1, released := r.released + 1 } }
  | _ => none

/-- uv__work_done has emptied its local queue and returns. -/
def work_done_end (s : Pool) : Option Pool :=
  match s.drains with
  | none :: ds =>
    if empty (.local_wq ds.length) s.mem then some { s with drains := ds } else none
  | _ => none

/-- uv__work_cancel. Between its two critical sections only workers can run, and they
do not touch this item. -/
def uv__work_cancel (s : Pool) (i : Nat) : Int × Pool :=
  let r := s.req i
  let cancelled := !empty (.req i) s.mem && r.work ≠ .NULL
  if !cancelled then (UV_EBUSY, s)
  else (0, { s with
    mem := insert_tail .loop_wq (.req i) (remove (.req i) s.mem)
    req := Function.update s.req i { r with work := .cancelled } })

/-! ## The extension -/

/-- cancel(), with what it returns. -/
def Request_func_cancel (s : Pool) (i : Nat) : Bool × Pool :=
  if (s.req i).req_ptr then
    let (err, t) := uv__work_cancel s i
    (err = 0, t)
  else (false, s)

/-- Python code can call methods of the request: it has a reference, or it is in the
callback of an FSRequest, which gets it as argument. -/
def held (s : Pool) (i : Nat) : Bool :=
  decide (0 < (s.req i).user) ||
    (decide ((s.req i).kind = .FSRequest) && decide (some i ∈ s.drains))

/-- Request_func_cancel, with a record of the call. -/
def cancel (s : Pool) (i : Nat) : Option Pool :=
  if i < s.submitted ∧ held s i then
    let (result, t) := Request_func_cancel s i
    let call : Cancel := ⟨i, !(s.req i).done.isEmpty, (s.req i).worked, result, s.mem, t.mem⟩
    some { t with cancels := call :: s.cancels }
  else none

/-- A new reference of the program to a request. -/
def user_incref (s : Pool) (i : Nat) : Option Pool :=
  let r := s.req i
  if i < s.submitted ∧ held s i then
    some { s with
      req := Function.update s.req i { r with refcnt := r.refcnt + 1, user := r.user + 1 } }
  else none

/-- The program gives one of its references up. -/
def user_decref (s : Pool) (i : Nat) : Option Pool :=
  let r := s.req i
  if i < s.submitted ∧ 0 < r.user then
    some { s with
      req := Function.update s.req i { r with refcnt := r.refcnt - 1, user := r.user - 1 } }
  else none

/-! ## The steps -/

/-- What the program, the threads and the loop do. -/
inductive Act where
  | submit (kind : Kind)
  | take
  | finish (i : Nat) (result : Int)
  | drain
  | next
  | ret
  | drained
  | cancel (i : Nat)
  | incref (i : Nat)
  | decref (i : Nat)
deriving DecidableEq, Repr

/-- One act, where it is possible. -/
def step (nthreads : Nat) (s : Pool) (a : Act) : Option Pool :=
  match a with
  | .submit kind => some (uv__work_submit s kind)
  | .take => worker_take nthreads s
  | .finish i result => worker_finish s i result
  | .drain => uv__work_done s
  | .next => work_done_next s
  | .ret => callback_return s
  | .drained => work_done_end s
  | .cancel i => cancel s i
  | .incref i => user_incref s i
  | .decref i => user_decref s i

/-- The queues have been initialised, in whatever memory, and nothing is submitted. -/
def new (m : Mem Node) : Pool where
  mem := init .loop_wq (init .wq m)
  submitted := 0
  req _ := ⟨.WorkRequest, true, .fn, 0, 2, 1, 0, [], 0⟩
  executing := []
  drains := []
  cancels := []

end pyuv.threadpool
