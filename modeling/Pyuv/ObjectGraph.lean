-- Loops, handles and other Python objects with their strong references (src/handle.c,
-- src/loop.c), the handles of each uv_loop_t with the timers and stats of its FSPolls
-- (deps/libuv/src/fs-poll.c), and CPython's reference counts and cyclic collector over them.
import Pyuv.Lib.RefCounts
import Pyuv.Lib.Runs

set_option linter.style.nameCheck false

namespace pyuv.object_graph

/-! ## The state -/

/-- A handle in libuv: not initialised, open on a loop, or closing there with
pyuv__handle_close_cb or with pyuv__handle_dealloc_close_cb, or closed. -/
inductive Uv where
  | none
  | opened (loop : Nat)
  | closing (loop : Nat) (dealloc : Bool)
  | closed
deriving DecidableEq, Repr

/-- The loop that has the handle in its queue. -/
def Uv.loop : Uv → Option Nat
  | .none | .closed => Option.none
  | .opened l | .closing l _ => some l

/-- The type of an object. FSPoll stands apart from the other handles. -/
inductive Kind where
  | Loop | Handle | FSPoll | user
deriving DecidableEq, Repr

/-- An object with a libuv handle in it. -/
def Kind.is_handle (k : Kind) : Bool := k = .Handle ∨ k = .FSPoll

/-- An object. `dict` are its attributes, the callbacks of a handle among them, and
`user` the references of variables of the user. `loop` and `on_close_cb` are none for
NULL and for None. -/
structure Obj where
  kind : Kind
  user : Nat
  dict : List Nat
  loop : Option Nat
  on_close_cb : Option Nat
  initialized : Bool
  pyref : Bool
  uv : Uv
deriving DecidableEq, Repr

/-- What a struct poll_ctx is at: its uv_fs_stat is under way, poll_cb runs, its timer is active,
or its timer is closing. -/
inductive Stage where
  | stat | called | timer | closing
deriving DecidableEq, Repr

/-- A struct poll_ctx, made for an FSPoll. `parent` says that parent_handle is not NULL. -/
structure PollCtx where
  handle : Nat
  loop : Nat
  parent : Bool
  stage : Stage
deriving DecidableEq, Repr

/-- C code that holds a reference while Python code can run: Loop_func_run, and
pyuv__handle_close_cb. -/
inductive Frame where
  | run (loop : Nat)
  | close_cb (handle : Nat)
deriving DecidableEq, Repr

/-- The heap of objects, the frames that hold references, and the inner timers and requests of
FSPoll. -/
structure St where
  next : Nat
  alive : Finset Nat
  obj : Nat → Obj
  refcnt : Nat → Nat
  frames : List Frame
  ctxs : List PollCtx
  -- the unreachable objects that the collector has still to clear
  garbage : List Nat
  -- Loop_tp_dealloc has met a handle in the queue of its loop, a stat under way there among
  -- them, and Handle_tp_dealloc has closed a handle of a Loop that is no more
  busy_loop : Bool
  freed_loop : Bool

/-- An object of which only its maker has a reference. -/
def fresh (kind : Kind) : Obj where
  kind := kind
  user := 1
  dict := []
  loop := none
  on_close_cb := none
  initialized := false
  pyref := false
  uv := .none

/-- One object is written over. -/
def St.set (s : St) (x : Nat) (o : Obj) : St := { s with obj := Function.update s.obj x o }

/-- The strong references that tp_traverse visits, and tp_clear drops. -/
def refs (o : Obj) : List Nat := o.dict ++ o.loop.toList ++ o.on_close_cb.toList

/-! ## CPython -/

/-- One reference more. -/
def Py_INCREF (s : St) (x : Nat) : St :=
  { s with refcnt := Function.update s.refcnt x (s.refcnt x + 1) }

/-- tp_dealloc is a step of its own, so that Python code which runs in the middle of a
cascade has its place. -/
def Py_DECREF (s : St) (x : Nat) : St :=
  { s with refcnt := Function.update s.refcnt x (s.refcnt x - 1) }

/-- Py_DECREF of all of them. -/
def drop_all (s : St) (xs : List Nat) : St :=
  { s with refcnt := fun y => s.refcnt y - xs.count y }

/-- tp_new of any kind: the caller gets the reference. -/
def new_object (s : St) (kind : Kind) : St :=
  { s with
    next := s.next + 1
    alive := insert s.next s.alive
    obj := Function.update s.obj s.next (fresh kind)
    refcnt := Function.update s.refcnt s.next 1 }

/-- Python code can use the object. -/
def has (s : St) (x : Nat) : Bool := decide (0 < (s.obj x).user)

/-- Reads an attribute of `x`, `handle.loop` too. -/
def load (s : St) (x y : Nat) : Option St :=
  let o := s.obj y
  if has s x ∧ y ∈ (s.obj x).dict ++ (s.obj x).loop.toList then
    some ((Py_INCREF s y).set y { o with user := o.user + 1 })
  else none

/-- The program gives up one of its references. -/
def drop_user (s : St) (x : Nat) : Option St :=
  let o := s.obj x
  if has s x then some ((Py_DECREF s x).set x { o with user := o.user - 1 }) else none

/-- A reference from the __dict__ of one object to another. -/
def setattr (s : St) (x y : Nat) : Option St :=
  let o := s.obj x
  if has s x ∧ has s y then some ((Py_INCREF s y).set x { o with dict := y :: o.dict }) else none

/-- That reference goes. -/
def delattr (s : St) (x y : Nat) : Option St :=
  let o := s.obj x
  if has s x ∧ y ∈ o.dict then
    some ((Py_DECREF s y).set x { o with dict := o.dict.erase y })
  else none

/-- tp_clear: Loop_tp_clear, Handle_tp_clear with the ones of its subtypes, and that of
Python objects. -/
def tp_clear (s : St) (x : Nat) : St :=
  let o := s.obj x
  (drop_all s (refs o)).set x { o with dict := [], loop := none, on_close_cb := none }

/-- A collection begins. `xs` are objects whose references all come from `xs`. -/
def gc_begin (s : St) (xs : List Nat) : Option St :=
  if s.garbage = [] ∧ xs.Nodup ∧
      ∀ x ∈ xs, x ∈ s.alive ∧ s.refcnt x = (xs.flatMap (fun y => refs (s.obj y))).count x then
    some { s with garbage := xs }
  else none

/-- The collector clears one of them, unless it has been deallocated by now. -/
def gc_clear (s : St) (x : Nat) : Option St :=
  if x ∈ s.garbage then
    let s := { s with garbage := s.garbage.erase x }
    some (if x ∈ s.alive then tp_clear s x else s)
  else none

/-! ## The loop -/

/-- The handles in the queue of the loop. -/
def handles_of (s : St) (l : Nat) : List Nat :=
  (List.range s.next).filter (fun h => (s.obj h).uv.loop = some l)

/-- loop.handles, for one of them. -/
def Loop_handles_get (s : St) (l h : Nat) : Option St :=
  let o := s.obj h
  if has s l ∧ h ∈ handles_of s l then
    some ((Py_INCREF s h).set h { o with user := o.user + 1 })
  else none

/-- The call of the method holds the Loop. -/
def Loop_func_run (s : St) (l : Nat) : Option St :=
  if has s l ∧ (s.obj l).kind = .Loop then
    some { Py_INCREF s l with frames := .run l :: s.frames }
  else none

/-- uv_run returns. -/
def run_return (s : St) : Option St :=
  match s.frames with
  | .run l :: fs => some { Py_DECREF s l with frames := fs }
  | _ => none

/-! ## The inner handles of FSPoll -/

/-- The context belongs to the poll of `h` and was not given up. -/
def PollCtx.is_of (p : PollCtx) (h : Nat) : Bool := p.parent && p.handle == h

/-- The timer and the stat of a new context, on the loop of the FSPoll. -/
def uv_fs_poll_start (s : St) (h l : Nat) : St :=
  if s.ctxs.any (·.is_of h) then s
  else { s with ctxs := s.ctxs ++ [{ handle := h, loop := l, parent := true, stage := .stat }] }

/-- The context is let go. Its timer is closed if it is active; poll_cb does so otherwise. -/
def PollCtx.stop (p : PollCtx) : PollCtx :=
  { p with parent := false, stage := if p.stage = .timer then .closing else p.stage }

/-- uv_fs_poll_stop, which uv_close calls too. Only an FSPoll has a context. -/
def uv_fs_poll_stop (s : St) (h : Nat) : St :=
  { s with ctxs := s.ctxs.map fun p => if p.is_of h then p.stop else p }

/-- The context at an index, if the loop that it is on runs. -/
def ctx_at (s : St) (i : Nat) (stage : Stage) : Option PollCtx :=
  match s.ctxs[i]?, s.frames with
  | some p, .run k :: _ => if p.loop = k ∧ p.stage = stage then some p else none
  | _, _ => none

/-- The context is taken further. -/
def set_stage (s : St) (i : Nat) (p : PollCtx) (stage : Stage) : St :=
  { s with ctxs := s.ctxs.set i { p with stage := stage } }

/-- The stat is over. Without a parent_handle the timer is closed, and pyuv__fspoll_cb may be
called with one. -/
def poll_cb (s : St) (i : Nat) : Option St :=
  (ctx_at s i .stat).map fun p => set_stage s i p (if p.parent then .called else .closing)

/-- The rest of poll_cb, from the label out on. -/
def poll_cb_return (s : St) (i : Nat) : Option St :=
  (ctx_at s i .called).map fun p => set_stage s i p (if p.parent then .timer else .closing)

/-- The timer is over, and another stat begins. -/
def timer_cb (s : St) (i : Nat) : Option St :=
  (ctx_at s i .timer).map fun p => set_stage s i p .stat

/-- The context is freed. -/
def timer_close_cb (s : St) (i : Nat) : Option St :=
  (ctx_at s i .closing).map fun _ => { s with ctxs := s.ctxs.eraseIdx i }

/-! ## Handles -/

/-- tp_init of a handle, where uv_*_init succeeds. Where it fails nothing is changed. -/
def initialize_handle (s : St) (h l : Nat) : Option St :=
  let o := s.obj h
  if has s h ∧ has s l ∧ o.kind.is_handle ∧ (s.obj l).kind = .Loop ∧ o.initialized = false then
    some ((Py_INCREF s l).set h { o with loop := some l, initialized := true, uv := .opened l })
  else none

/-- The handle is in the handle queue and not closing. -/
def is_open (o : Obj) : Bool :=
  match o.uv with
  | .opened _ => true
  | _ => false

/-- A start method: PYUV_HANDLE_INCREF. -/
def start (s : St) (h : Nat) : Option St :=
  let o := s.obj h
  match o.uv with
  | .opened l =>
    if has s h then
      let s := if o.kind = .FSPoll then uv_fs_poll_start s h l else s
      some (if o.pyref then s else (Py_INCREF s h).set h { o with pyref := true })
    else none
  | _ => none

/-- A stop method, or a callback of libuv that ends the activity: PYUV_HANDLE_DECREF. -/
def stop (s : St) (h : Nat) : Option St :=
  let o := s.obj h
  if is_open o then
    let s := uv_fs_poll_stop s h
    some (if o.pyref then (Py_DECREF s h).set h { o with pyref := false } else s)
  else none

/-- The close callback is none for None. -/
def Handle_func_close (s : St) (h : Nat) (callback : Option Nat) : Option St :=
  let o := s.obj h
  match o.uv with
  | .opened l =>
    if has s h ∧ ∀ c ∈ callback, has s c then
      let s := uv_fs_poll_stop (callback.elim s (Py_INCREF s)) h
      some ((Py_INCREF s h).set h { o with on_close_cb := callback, uv := .closing l false })
    else none
  | _ => none

/-- libuv finishes a close, from the loop that runs: pyuv__handle_dealloc_close_cb as a
whole, or pyuv__handle_close_cb up to the callback of the user. -/
def uv__finish_close (s : St) (h : Nat) : Option St :=
  let o := s.obj h
  match o.uv, s.frames with
  | .closing l true, .run k :: _ =>
    if l = k then some ((Py_DECREF s h).set h { o with uv := .closed }) else none
  | .closing l false, .run k :: _ =>
    if l = k then
      some { s.set h { o with uv := .closed } with frames := .close_cb h :: s.frames }
    else none
  | _, _ => none

/-- The rest of pyuv__handle_close_cb. -/
def close_cb_return (s : St) : Option St :=
  match s.frames with
  | .close_cb h :: fs =>
    let o := s.obj h
    let s := drop_all s (o.on_close_cb.toList ++ o.loop.toList)
    let s := if o.pyref then Py_DECREF s h else s
    some { (Py_DECREF s h).set h
      { o with on_close_cb := none, loop := none, pyref := false } with frames := fs }
  | _ => none

/-! ## Deallocation -/

/-- The references of an object go with it. -/
def release (s : St) (x : Nat) : St :=
  { drop_all s (refs (s.obj x)) with alive := s.alive.erase x }

/-- What the FSPolls of the loop have left in it. -/
def ctxs_of (s : St) (l : Nat) : List PollCtx := s.ctxs.filter (·.loop = l)

/-- It says in `busy_loop` whether libuv had anything left in the loop. -/
def Loop_tp_dealloc (s : St) (l : Nat) : St :=
  { release s l with
    busy_loop := s.busy_loop || decide (handles_of s l ≠ [] ∨ ctxs_of s l ≠ []) }

/-- An open handle is closed, and lives on until libuv has closed it. -/
def Handle_tp_dealloc (s : St) (h : Nat) : St :=
  let o := s.obj h
  match o.uv with
  | .opened l =>
    { (Py_INCREF (uv_fs_poll_stop s h) h).set h { o with uv := .closing l true } with
      freed_loop := s.freed_loop || decide (l ∉ s.alive) }
  | _ => release s h

/-- The slot of the type, once there is no reference left. -/
def tp_dealloc (s : St) (x : Nat) : Option St :=
  if x ∈ s.alive ∧ s.refcnt x = 0 then
    match (s.obj x).kind with
    | .Loop => some (Loop_tp_dealloc s x)
    | .Handle | .FSPoll => some (Handle_tp_dealloc s x)
    | .user => some (release s x)
  else none

/-! ## The steps -/

/-- What the program, the collector and libuv do. -/
inductive Act where
  | new (kind : Kind)
  | load (x y : Nat)
  | handles (l h : Nat)
  | drop (x : Nat)
  | setattr (x y : Nat)
  | delattr (x y : Nat)
  | init (h l : Nat)
  | start (h : Nat)
  | stop (h : Nat)
  | close (h : Nat) (callback : Option Nat)
  | run (l : Nat)
  | finish_close (h : Nat)
  | close_cb_return
  | run_return
  | poll_cb (i : Nat)
  | poll_cb_return (i : Nat)
  | timer_cb (i : Nat)
  | timer_close_cb (i : Nat)
  | dealloc (x : Nat)
  | gc_begin (xs : List Nat)
  | gc_clear (x : Nat)
deriving DecidableEq, Repr

/-- One act, where it is possible. -/
def step (s : St) (a : Act) : Option St :=
  match a with
  | .new kind => some (new_object s kind)
  | .load x y => load s x y
  | .handles l h => Loop_handles_get s l h
  | .drop x => drop_user s x
  | .setattr x y => setattr s x y
  | .delattr x y => delattr s x y
  | .init h l => initialize_handle s h l
  | .start h => start s h
  | .stop h => stop s h
  | .close h callback => Handle_func_close s h callback
  | .run l => Loop_func_run s l
  | .finish_close h => uv__finish_close s h
  | .close_cb_return => close_cb_return s
  | .run_return => run_return s
  | .poll_cb i => poll_cb s i
  | .poll_cb_return i => poll_cb_return s i
  | .timer_cb i => timer_cb s i
  | .timer_close_cb i => timer_close_cb s i
  | .dealloc x => tp_dealloc s x
  | .gc_begin xs => gc_begin s xs
  | .gc_clear x => gc_clear s x

/-- Nothing was allocated. -/
def start_state : St where
  next := 0
  alive := ∅
  obj _ := { fresh .user with user := 0 }
  refcnt _ := 0
  frames := []
  ctxs := []
  garbage := []
  busy_loop := false
  freed_loop := false

end pyuv.object_graph
