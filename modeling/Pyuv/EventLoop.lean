-- The event loop of libuv on unix: uv_run and closing (deps/libuv/src/unix/core.c), timers
-- (timer.c), the idle, prepare and check watchers (loop-watcher.c), the closing of signal
-- watchers (signal.c) and the flags of the handles (deps/libuv/src/uv-common.h). What callbacks
-- do is given by the environment, and so is what uv__run_pending and uv__io_poll call.
import Mathlib.Data.Fintype.Card
import Mathlib.Data.Prod.Lex
import Pyuv.Lib.Ends
import Pyuv.Lib.Rings
import Pyuv.TimerHeap

set_option linter.style.nameCheck false

namespace pyuv.uvloop

open timerheap

def UINT64_SIZE : ℕ := 2 ^ 64

/-- `loop->time` is in milliseconds, made of nanoseconds that fit in 64 bits. -/
def TIME_SIZE : ℕ := UINT64_SIZE / 1000000 + 1

def INT_MAX : ℕ := 2 ^ 31 - 1

def EINVAL : ℤ := 22

/-! ## The state -/

/-- The field `type`. UV_SIGNAL and the other types are started and stopped by uv__handle_start
and uv__handle_stop, and called from uv__io_poll. -/
inductive HandleType where
  | UV_TIMER | UV_IDLE | UV_PREPARE | UV_CHECK | UV_SIGNAL | other
deriving DecidableEq, Repr

/-- The three types of loop-watcher.c. -/
def HandleType.is_watcher (t : HandleType) : Bool := t = .UV_IDLE ∨ t = .UV_PREPARE ∨ t = .UV_CHECK

/-- The types that are called from uv__io_poll. -/
def HandleType.is_polled (t : HandleType) : Bool := t = .UV_SIGNAL ∨ t = .other

/-- A handle: its flags, its callback (a number, NULL is none), the fields of a timer, and how
many signals have been written to the signal pipe for it and read from it. -/
structure Handle where
  type : HandleType
  initialized : Bool
  active : Bool
  ref : Bool
  closing : Bool
  closed : Bool
  cb : Option ℕ
  close_cb : Bool
  timeout : ℕ
  repeat_ : ℕ
  start_id : ℕ
  caught_signals : ℕ
  dispatched_signals : ℕ
deriving DecidableEq, Repr

variable {P : Type}

/-- The QUEUE links: the list of each type of watcher, the local queue of uv__run_idle and its
siblings, and the link of each handle. -/
inductive Node (P : Type) where
  | list (t : HandleType)
  | queue
  | handle (x : P)
deriving DecidableEq

/-- What a program may call, in a callback or between two runs of the loop, and what the signals
of the system do in between. -/
inductive Call (P : Type) where
  | init (x : P) (t : HandleType)
  | timer_start (x : P) (cb : Option ℕ) (timeout repeat_ : ℕ)
  | timer_stop (x : P)
  | timer_again (x : P)
  | timer_set_repeat (x : P) (repeat_ : ℕ)
  | watcher_start (x : P) (cb : Option ℕ)
  | watcher_stop (x : P)
  | other_start (x : P)
  | other_stop (x : P)
  | signal_handler (x : P)
  | signal_event (x : P)
  | ref (x : P)
  | unref (x : P)
  | close (x : P) (close_cb : Bool)
  | req_register
  | req_unregister
  | update_time (time : ℕ)
  | stop

/-- What happened: a call that returned, a callback (`io_cb` are those of uv__run_pending and of
uv__io_poll), the end of a closing. -/
inductive Event (P : Type) where
  | api (c : Call P)
  | io_cb
  | timer_cb (x : P) (cb timeout start_id time : ℕ)
  | watcher_cb (x : P) (t : HandleType) (cb : ℕ)
  | closed (x : P)

/-- `uv_loop_t`. The last three fields are ghosts: how many timers have been started, how often
the clock was read, and what happened. -/
structure Loop (P : Type) where
  time : ℕ
  timer_counter : ℕ
  timer_heap : Heap P
  handles : P → Handle
  queues : rings.Mem (Node P)
  active_handles : ℕ
  active_reqs : ℕ
  closing_handles : List P
  stop_flag : Bool
  starts : ℕ
  readings : ℕ
  log : List (Event P)

/-- Why a program does not go on: a NULL pointer or an assertion, a call that pyuv's own checks
keep away from libuv, or a model that has run for too long. -/
inductive Stop where
  | abort | misuse | fuel
deriving DecidableEq, Repr

/-- The code of the loop, which may fail an assertion, run out of fuel, or be misused by a
program. -/
abbrev M (P : Type) := EStateM Stop (Loop P)

variable [DecidableEq P]

namespace Loop

/-- The fields of one handle change. -/
def set (l : Loop P) (x : P) (f : Handle → Handle) : Loop P :=
  { l with handles := Function.update l.handles x (f (l.handles x)) }

/-- The log gets an entry. -/
def note (l : Loop P) (e : Event P) : Loop P := { l with log := l.log ++ [e] }

end Loop

/-! ## The flags (uv-common.h) -/

/-- active_handles is an unsigned int. -/
def uv__active_handle_add (l : Loop P) : Loop P :=
  { l with active_handles := (l.active_handles + 1) % UINT_SIZE }

/-- It wraps around below 0. -/
def uv__active_handle_rm (l : Loop P) : Loop P :=
  { l with active_handles := (l.active_handles + UINT_SIZE - 1) % UINT_SIZE }

/-- The flag that the assertion of the macro looks at is 0 on unix. -/
def uv__handle_start (l : Loop P) (x : P) : Loop P :=
  if (l.handles x).active then l
  else
    let l := l.set x fun h => { h with active := true }
    if (l.handles x).ref then uv__active_handle_add l else l

/-- A handle that is active and referenced counts no more. -/
def uv__handle_stop (l : Loop P) (x : P) : Loop P :=
  if (l.handles x).active then
    let l := l.set x fun h => { h with active := false }
    if (l.handles x).ref then uv__active_handle_rm l else l
  else l

/-- It counts again where it is active. -/
def uv__handle_ref (l : Loop P) (x : P) : Loop P :=
  if (l.handles x).ref then l
  else
    let l := l.set x fun h => { h with ref := true }
    if (l.handles x).active then uv__active_handle_add l else l

/-- It counts no more. -/
def uv__handle_unref (l : Loop P) (x : P) : Loop P :=
  if (l.handles x).ref then
    let l := l.set x fun h => { h with ref := false }
    if (l.handles x).active then uv__active_handle_rm l else l
  else l

/-- `uv__handle_init` with what uv_timer_init, uv_idle_init and uv_signal_init write. -/
def uv__handle_init (l : Loop P) (x : P) (t : HandleType) : Loop P :=
  l.set x fun h =>
    { h with
      type := t
      initialized := true
      active := false
      ref := true
      closing := false
      closed := false
      cb := none
      repeat_ := 0
      caught_signals := 0
      dispatched_signals := 0 }

/-! ## Timers (timer.c) -/

/-- The earlier timer, or the one that was started first. -/
def timer_less_than (l : Loop P) (x y : P) : Bool :=
  let a := l.handles x
  let b := l.handles y
  if a.timeout < b.timeout then true
  else if b.timeout < a.timeout then false
  else if a.start_id < b.start_id then true
  else false

/-- The timer leaves the heap. -/
def uv_timer_stop (l : Loop P) (x : P) : Option (Loop P) :=
  if (l.handles x).active then
    (heap_remove (timer_less_than l) l.timer_heap x).map fun h =>
      uv__handle_stop { l with timer_heap := h } x
  else some l

/-- The time that a timer is due, with the clamp against wrapping around. -/
def clamp (time timeout : ℕ) : ℕ :=
  let clamped_timeout := (time + timeout) % UINT64_SIZE
  if clamped_timeout < timeout then UINT64_SIZE - 1 else clamped_timeout

/-- The fields of a timer that starts. -/
def armed (l : Loop P) (x : P) (cb timeout repeat_ : ℕ) : Loop P :=
  let l' := l.set x fun h =>
    { h with
      cb := some cb
      timeout := clamp l.time timeout
      repeat_ := repeat_
      start_id := l.timer_counter }
  { l' with
    timer_counter := (l.timer_counter + 1) % UINT64_SIZE
    starts := l.starts + 1 }

/-- The timer is stopped, and goes into the heap with its new times. -/
def uv_timer_start (l : Loop P) (x : P) (cb : Option ℕ) (timeout repeat_ : ℕ) :
    Option (ℤ × Loop P) :=
  match cb with
  | none => some (-EINVAL, l)
  | some cb => do
    let l ← uv_timer_stop l x
    let l := armed l x cb timeout repeat_
    let h ← heap_insert (timer_less_than l) l.timer_heap x
    some (0, uv__handle_start { l with timer_heap := h } x)

/-- A timer that repeats is started anew with that interval. -/
def uv_timer_again (l : Loop P) (x : P) : Option (ℤ × Loop P) :=
  match (l.handles x).cb with
  | none => some (-EINVAL, l)
  | some cb =>
    if (l.handles x).repeat_ = 0 then some (0, l)
    else do
      let l ← uv_timer_stop l x
      let r ← uv_timer_start l x (some cb) (l.handles x).repeat_ (l.handles x).repeat_
      some (0, r.2)

/-- The interval takes effect with the next start. -/
def uv_timer_set_repeat (l : Loop P) (x : P) (repeat_ : ℕ) : Loop P :=
  l.set x fun h => { h with repeat_ := repeat_ }

/-- How long until the first timer is due, -1 for no timer. -/
def uv__next_timeout (l : Loop P) : ℤ :=
  match heap_min l.timer_heap with
  | none => -1
  | some x =>
    if (l.handles x).timeout ≤ l.time then 0
    else
      let diff := (l.handles x).timeout - l.time
      if INT_MAX < diff then INT_MAX else diff

/-! ## Watchers (loop-watcher.c): the functions that UV_LOOP_WATCHER_DEFINE makes for idle,
prepare and check -/

/-- The handle goes to the front of the queue of its type. -/
def uv_watcher_start (l : Loop P) (x : P) (cb : Option ℕ) : ℤ × Loop P :=
  if (l.handles x).active then (0, l)
  else
    match cb with
    | none => (-EINVAL, l)
    | some cb =>
      let l := { l with
        queues := rings.insert_head (.list (l.handles x).type) (.handle x) l.queues }
      (0, uv__handle_start (l.set x fun h => { h with cb := some cb }) x)

/-- It leaves that queue, wherever it is. -/
def uv_watcher_stop (l : Loop P) (x : P) : Loop P :=
  if (l.handles x).active then
    uv__handle_stop { l with queues := rings.remove (.handle x) l.queues } x
  else l

/-! ## Closing (core.c) and signals (signal.c) -/

/-- The two assertions are those of the source. -/
def uv__make_close_pending (l : Loop P) (x : P) : Option (Loop P) :=
  if (l.handles x).closing ∧ ¬(l.handles x).closed then
    some { l with closing_handles := x :: l.closing_handles }
  else none

/-- Signals for the handle are in the signal pipe. -/
def Handle.trapped (h : Handle) : Bool := h.caught_signals ≠ h.dispatched_signals

/-- The closing of a signal watcher waits for the signals in the pipe. -/
def uv__signal_close (l : Loop P) (x : P) : Option (Loop P) :=
  let l := uv__handle_stop l x
  if (l.handles x).trapped then some l else uv__make_close_pending l x

/-- uv__signal_handler, when it has written a signal for the handle to the pipe. -/
def uv__signal_handler (l : Loop P) (x : P) : Loop P :=
  l.set x fun h => { h with caught_signals := (h.caught_signals + 1) % UINT_SIZE }

/-- uv__signal_event, when it has read a signal for the handle and called back: the callback is
one of those of uv__io_poll. -/
def uv__signal_event (l : Loop P) (x : P) : Option (Loop P) :=
  let l := l.set x fun h => { h with dispatched_signals := (h.dispatched_signals + 1) % UINT_SIZE }
  if (l.handles x).closing ∧ ¬(l.handles x).trapped then uv__make_close_pending l x else some l

/-- The close function of the type: uv__timer_close, uv__idle_close and so on. -/
def uv__type_close (l : Loop P) (x : P) : Option (Loop P) :=
  match (l.handles x).type with
  | .UV_TIMER => uv_timer_stop l x
  | .UV_IDLE | .UV_PREPARE | .UV_CHECK => some (uv_watcher_stop l x)
  | .UV_SIGNAL | .other => some (uv__handle_stop l x)

/-- The assertion fails on a handle that is closing. The close function of signal watchers has the
call of uv__make_close_pending in itself. -/
def uv_close (l : Loop P) (x : P) (close_cb : Bool) : Option (Loop P) :=
  if (l.handles x).closing ∨ (l.handles x).closed then none
  else
    let l := l.set x fun h => { h with closing := true, close_cb := close_cb }
    if (l.handles x).type = .UV_SIGNAL then uv__signal_close l x
    else do
      let l ← uv__type_close l x
      uv__make_close_pending l x

/-! ## Calls -/

/-- A handle that is there and not closing. -/
def Loop.usable (l : Loop P) (x : P) : Bool :=
  (l.handles x).initialized && !(l.handles x).closing

/-- The checks of pyuv, the types of the arguments, a clock that does not go back, a signal pipe
that has fewer than 2^32 signals in it. -/
def Call.legal (l : Loop P) : Call P → Bool
  | .init x _ => (l.handles x).initialized = false ∨ (l.handles x).closed
  | .timer_start x _ timeout repeat_ =>
    l.usable x ∧ (l.handles x).type = .UV_TIMER ∧ timeout < UINT64_SIZE ∧ repeat_ < UINT64_SIZE
  | .timer_stop x | .timer_again x => l.usable x ∧ (l.handles x).type = .UV_TIMER
  | .timer_set_repeat x repeat_ =>
    (l.handles x).initialized ∧ (l.handles x).type = .UV_TIMER ∧ repeat_ < UINT64_SIZE
  | .watcher_start x _ | .watcher_stop x => l.usable x ∧ (l.handles x).type.is_watcher
  | .other_start x | .other_stop x => l.usable x ∧ (l.handles x).type.is_polled
  | .signal_handler x =>
    l.usable x ∧ (l.handles x).type = .UV_SIGNAL ∧ (l.handles x).active ∧
      ((l.handles x).caught_signals + 1) % UINT_SIZE ≠ (l.handles x).dispatched_signals
  | .signal_event x =>
    (l.handles x).initialized ∧ (l.handles x).type = .UV_SIGNAL ∧ (l.handles x).trapped
  | .ref x | .unref x => (l.handles x).initialized
  | .close x _ => l.usable x
  | .req_register | .stop => true
  | .req_unregister => 0 < l.active_reqs
  | .update_time time => l.time ≤ time ∧ time < TIME_SIZE

/-- What the call makes of the loop, none where an assertion fails. Its status is not looked at. -/
def Call.apply (l : Loop P) : Call P → Option (Loop P)
  | .init x t => some (uv__handle_init l x t)
  | .timer_start x cb timeout repeat_ => (uv_timer_start l x cb timeout repeat_).map (·.2)
  | .timer_stop x => uv_timer_stop l x
  | .timer_again x => (uv_timer_again l x).map (·.2)
  | .timer_set_repeat x repeat_ => some (uv_timer_set_repeat l x repeat_)
  | .watcher_start x cb => some (uv_watcher_start l x cb).2
  | .watcher_stop x => some (uv_watcher_stop l x)
  | .other_start x => some (uv__handle_start l x)
  | .other_stop x => some (uv__handle_stop l x)
  | .signal_handler x => some (uv__signal_handler l x)
  | .signal_event x => uv__signal_event l x
  | .ref x => some (uv__handle_ref l x)
  | .unref x => some (uv__handle_unref l x)
  | .close x close_cb => uv_close l x close_cb
  | .req_register => some { l with active_reqs := l.active_reqs + 1 }
  | .req_unregister => some { l with active_reqs := l.active_reqs - 1 }
  | .update_time time => some { l with time := time }
  | .stop => some { l with stop_flag := true }

/-- No value is an assertion that fails. -/
def orAbort {α : Type} : Option α → M P α
  | some a => pure a
  | none => throw .abort

/-- A call that the documentation allows is made and goes on record. -/
def Call.run (c : Call P) : M P Unit := do
  let l ← get
  if c.legal l then
    let l ← orAbort (c.apply l)
    set (l.note (.api c))
  else throw .misuse

/-- The calls of one callback, in their order. -/
def perform : List (Call P) → M P Unit
  | [] => pure ()
  | c :: cs => do
    c.run
    perform cs

/-! ## The phases of the loop -/

/-- What the program does: in the callback that was called last, in those of uv__run_pending
(none when its queue is empty) and in those of uv__io_poll (none when the timeout is over before
any), and what the clock says. -/
structure Env (P : Type) where
  callback : Loop P → List (Call P)
  pending : Loop P → Option (List (Call P))
  poll : Loop P → ℤ → Option (List (Call P))
  clock : Loop P → ℕ

variable (E : Env P)

def note (e : Event P) : M P Unit := modify fun l => l.note e

/-- A callback is called. -/
def callback (e : Event P) : M P Unit := do
  note e
  let l ← get
  perform (E.callback l)

/-- A reading of the clock. -/
def uv__update_time : M P Unit :=
  modify fun l => { l with time := E.clock l, readings := l.readings + 1 }

/-- Each timer that is due is stopped, started again where it repeats, and called. -/
def uv__run_timers : (fuel : ℕ) → M P Unit
  | 0 => throw .fuel
  | fuel + 1 => do
    let l ← get
    match heap_min l.timer_heap with
    | none => pure ()
    | some x =>
      let h := l.handles x
      if l.time < h.timeout then pure ()
      else
        let l ← orAbort (uv_timer_stop l x)
        let r ← orAbort (uv_timer_again l x)
        let cb ← orAbort (r.2.handles x).cb
        set r.2
        callback E (.timer_cb x cb h.timeout h.start_id r.2.time)
        uv__run_timers fuel

/-- The callback of a pending watcher, if there is one. -/
def uv__run_pending : M P Bool := do
  let l ← get
  match E.pending l with
  | none => pure false
  | some cs =>
    note .io_cb
    perform cs
    pure true

/-- The handle that a link is in. -/
def Node.handle? : Node P → Option P
  | .handle x => some x
  | _ => none

/-- The handles of the local queue, each put back into the queue of the loop before it is called. -/
def uv__run_queue (t : HandleType) : (fuel : ℕ) → M P Unit
  | 0 => throw .fuel
  | fuel + 1 => do
    let l ← get
    if rings.empty .queue l.queues then pure ()
    else
      let q := l.queues.next .queue
      let x ← orAbort q.handle?
      let cb ← orAbort (l.handles x).cb
      set { l with queues := rings.insert_tail (.list t) q (rings.remove q l.queues) }
      callback E (.watcher_cb x t cb)
      uv__run_queue t fuel

/-- uv__run_idle and its siblings. No callback puts anything in the local queue: it is emptied in
as many rounds as there are handles. -/
def uv__run_watchers [Fintype P] (t : HandleType) : M P Unit := do
  modify fun l => { l with queues := rings.move (.list t) .queue l.queues }
  uv__run_queue E t (Fintype.card P + 1)

/-- uv__run_idle of loop-watcher.c. -/
def uv__run_idle [Fintype P] : M P Unit := uv__run_watchers E .UV_IDLE

/-- uv__run_prepare of loop-watcher.c. -/
def uv__run_prepare [Fintype P] : M P Unit := uv__run_watchers E .UV_PREPARE

/-- uv__run_check of loop-watcher.c. -/
def uv__run_check [Fintype P] : M P Unit := uv__run_watchers E .UV_CHECK

/-- The clock is read when the poll is over. -/
def uv__io_poll (timeout : ℤ) : M P Unit := do
  let l ← get
  uv__update_time E
  match E.poll l timeout with
  | none => pure ()
  | some cs =>
    note .io_cb
    perform cs

/-- The handle is closed, leaves the handle queue, and its callback is called. -/
def uv__finish_close (p : P) : M P Unit := do
  let l ← get
  if (l.handles p).closing = true ∧ (l.handles p).closed = false then
    set (uv__handle_unref (l.set p fun h => { h with closed := true }) p)
    if (l.handles p).close_cb then callback E (.closed p) else note (.closed p)
  else throw .abort

/-- The list that was taken, one handle after the other. -/
def uv__finish_all : List P → M P Unit
  | [] => pure ()
  | p :: ps => do
    uv__finish_close E p
    uv__finish_all ps

/-- The list is taken as a whole: what is closed meanwhile waits for the next round. -/
def uv__run_closing_handles : M P Unit := do
  let l ← get
  set { l with closing_handles := [] }
  uv__finish_all E l.closing_handles

/-- An active handle that is referenced, or a request under way. -/
def uv__has_active (l : Loop P) : Bool := 0 < l.active_handles ∨ 0 < l.active_reqs

/-- What uv_run looks at before each round. -/
def uv__loop_alive (l : Loop P) : Bool := uv__has_active l ∨ l.closing_handles ≠ []

/-- How long the poll may wait, -1 for ever. -/
def uv_backend_timeout (l : Loop P) : ℤ :=
  if l.stop_flag then 0
  else if uv__has_active l = false then 0
  else if rings.empty (.list .UV_IDLE) l.queues = false then 0
  else if (E.pending l).isSome then 0
  else if l.closing_handles ≠ [] then 0
  else uv__next_timeout l

/-- uv_run_mode -/
inductive RunMode where
  | UV_RUN_DEFAULT | UV_RUN_ONCE | UV_RUN_NOWAIT
deriving DecidableEq, Repr

/-- One round of the loop of uv_run, and whether the loop is alive after it. -/
def iteration [Fintype P] (mode : RunMode) (fuel : ℕ) : M P Bool := do
  uv__update_time E
  uv__run_timers E fuel
  let ran_pending ← uv__run_pending E
  uv__run_idle E
  uv__run_prepare E
  let l ← get
  let blocks := (mode = .UV_RUN_ONCE ∧ ran_pending = false) ∨ mode = .UV_RUN_DEFAULT
  uv__io_poll E (if blocks then uv_backend_timeout E l else 0)
  uv__run_check E
  uv__run_closing_handles E
  if mode = .UV_RUN_ONCE then
    uv__update_time E
    uv__run_timers E fuel
  let l ← get
  pure (uv__loop_alive l)

/-- The rounds of uv_run, of which all modes but the default have at most one. -/
def rounds [Fintype P] (mode : RunMode) : (fuel : ℕ) → Bool → M P Bool
  | 0, _ => throw .fuel
  | fuel + 1, r => do
    let l ← get
    if r = true ∧ l.stop_flag = false then
      let r ← iteration E mode fuel
      if mode = .UV_RUN_DEFAULT then rounds mode fuel r else pure r
    else pure r

/-- It tells at its end whether the loop is alive still, and leaves the stop flag clear. -/
def uv_run [Fintype P] (mode : RunMode) (fuel : ℕ) : M P Bool := do
  let l ← get
  let r := uv__loop_alive l
  if r = false then uv__update_time E
  let r ← rounds E mode fuel r
  modify fun l => { l with stop_flag := false }
  pure r

/-! ## Programs -/

/-- What a program does with a loop: it calls libuv, or runs the loop. -/
inductive Act (P : Type) where
  | call (c : Call P)
  | run (mode : RunMode) (fuel : ℕ)

/-- An act of a program, which makes a call or runs the loop. -/
def Act.exec [Fintype P] : Act P → M P Unit
  | .call c => c.run
  | .run mode fuel => do
    let _ ← uv_run E mode fuel

/-- The acts of a program that owns the loop. -/
def program [Fintype P] : List (Act P) → M P Unit
  | [] => pure ()
  | a :: as => do
    a.exec E
    program as

/-- Memory that no init function was called on. -/
def Handle.raw : Handle where
  type := .other
  initialized := false
  active := false
  ref := false
  closing := false
  closed := false
  cb := none
  close_cb := false
  timeout := 0
  repeat_ := 0
  start_id := 0
  caught_signals := 0
  dispatched_signals := 0

/-- The lists are the only links that uv_loop_init writes. -/
def uv_loop_init (links : rings.Mem (Node P)) (time : ℕ) : Loop P where
  time := time
  timer_counter := 0
  timer_heap := heap_init
  handles _ := .raw
  queues := rings.init (.list .UV_CHECK)
    (rings.init (.list .UV_PREPARE) (rings.init (.list .UV_IDLE) links))
  active_handles := 0
  active_reqs := 0
  closing_handles := []
  stop_flag := false
  starts := 0
  readings := 0
  log := []

end pyuv.uvloop
