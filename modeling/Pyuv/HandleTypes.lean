-- The handle types of the module: what tp_new, tp_init and Process.spawn make of an object of each,
-- and what Handle_tp_dealloc (src/handle.c) finds when its last reference goes. The methods that
-- start and stop a handle, and its callbacks, are in Handle and HandleLife.
import Pyuv.Handle
import Pyuv.Lib.Runs

set_option linter.style.nameCheck false

namespace pyuv.handle_types

open handle (Ret CloseCb)
open runs

/-! ## The object -/

/-- The types of the module, the two base types among them. -/
inductive HandleType where
  | Handle | Stream
  | Async | Check | FSEvent | FSPoll | Idle | Pipe | Poll | Prepare | Process
  | Signal | SignalChecker | TCP | Timer | TTY | UDP
deriving DecidableEq, Repr

/-- The libuv handle inside of an object. `raw` is one that libuv has not initialised, or that it
has refused: that one is not in the handle queue of the loop, and closed is not either. -/
inductive Uv where
  | raw
  | inited
  | closing
  | closed
deriving DecidableEq, Repr

/-- Whether the object is there still. -/
inductive Life where
  | living
  | freed
  -- an ASSERT has failed, and the process is gone
  | aborted
deriving DecidableEq, Repr

/-- A run of Handle_tp_dealloc: the libuv handle it finds, whether it looks at it, and its end. -/
inductive DeallocEnd where
  | aborted
  | uv_closed
  | freed
deriving DecidableEq, Repr

/-- A run of Handle_tp_dealloc goes on record with this. -/
structure Dealloc where
  uv : Uv
  looked : Bool
  ending : DeallocEnd
deriving DecidableEq, Repr

/-- An object of any type, with the references to it. -/
structure Object where
  type : HandleType
  -- not NULL
  uv_handle : Bool
  initialized : Bool
  uv : Uv
  close_cb : Option CloseCb
  refcnt : Nat
  user : Nat
  -- the reference that Process.spawn takes until the exit callback
  exit_ref : Bool
  -- the reference that a close takes until its callback
  close_ref : Bool
  life : Life
  deallocs : List Dealloc
deriving DecidableEq, Repr

/-- A status of libuv: 0, or the code of an error. -/
structure Status where
  n : Int
  le : n ≤ 0

/-! ## tp_new -/

/-- tp_new of the base type: `uv_handle` is NULL. -/
def Handle_tp_new (type : HandleType) : Object where
  type := type
  uv_handle := false
  initialized := false
  uv := .raw
  close_cb := none
  refcnt := 1
  user := 1
  exit_ref := false
  close_ref := false
  life := .living
  deallocs := []

/-- Stream has no libuv handle of its own either. -/
def Stream_tp_new (type : HandleType) : Object := Handle_tp_new type

/-- The line that every concrete type adds: UV_HANDLE(self) = (uv_handle_t *)&self->.._h. -/
def with_uv_handle (obj : Object) : Object := { obj with uv_handle := true }

def Async_tp_new : Object := with_uv_handle (Handle_tp_new .Async)
def Check_tp_new : Object := with_uv_handle (Handle_tp_new .Check)
def FSEvent_tp_new : Object := with_uv_handle (Handle_tp_new .FSEvent)
def FSPoll_tp_new : Object := with_uv_handle (Handle_tp_new .FSPoll)
def Idle_tp_new : Object := with_uv_handle (Handle_tp_new .Idle)
def Pipe_tp_new : Object := with_uv_handle (Stream_tp_new .Pipe)
def Poll_tp_new : Object := with_uv_handle (Handle_tp_new .Poll)
def Prepare_tp_new : Object := with_uv_handle (Handle_tp_new .Prepare)
def Process_tp_new : Object := with_uv_handle (Handle_tp_new .Process)
def Signal_tp_new : Object := with_uv_handle (Handle_tp_new .Signal)
def SignalChecker_tp_new : Object := with_uv_handle (Handle_tp_new .SignalChecker)
def TCP_tp_new : Object := with_uv_handle (Stream_tp_new .TCP)
def Timer_tp_new : Object := with_uv_handle (Handle_tp_new .Timer)
def TTY_tp_new : Object := with_uv_handle (Stream_tp_new .TTY)
def UDP_tp_new : Object := with_uv_handle (Handle_tp_new .UDP)

/-- The slot of the type, and of its subclasses. -/
def tp_new : HandleType → Object
  | .Handle => Handle_tp_new .Handle
  | .Stream => Stream_tp_new .Stream
  | .Async => Async_tp_new
  | .Check => Check_tp_new
  | .FSEvent => FSEvent_tp_new
  | .FSPoll => FSPoll_tp_new
  | .Idle => Idle_tp_new
  | .Pipe => Pipe_tp_new
  | .Poll => Poll_tp_new
  | .Prepare => Prepare_tp_new
  | .Process => Process_tp_new
  | .Signal => Signal_tp_new
  | .SignalChecker => SignalChecker_tp_new
  | .TCP => TCP_tp_new
  | .Timer => Timer_tp_new
  | .TTY => TTY_tp_new
  | .UDP => UDP_tp_new

/-! ## tp_init -/

/-- The arguments as PyArg_ParseTuple takes them, or the exception it raises, and what libuv
answers to them. Only an Async has a callback. -/
structure InitArgs where
  bad_args : Option PyErr
  callback : CallbackArg
  status : Status

/-- initialize_handle of handle.c, as far as Handle_tp_dealloc looks at it. -/
def initialize_handle (obj : Object) : Object := { obj with initialized := true }

/-- libuv's init functions: a handle that one of them refuses is taken out of the handle queue
again, where it has been in there. -/
def uv_init (status : Status) (obj : Object) : Object :=
  if status.n = 0 then { obj with uv := .inited } else obj

/-- What the init functions have in common, with the test of libuv's answer. -/
def handle_tp_init (error : ExcType) (args : InitArgs) (obj : Object) : Ret × Object :=
  if obj.initialized then (.raise .already_initialized, obj)
  else
    match args.bad_args with
    | some e => (.raise e, obj)
    | none =>
      let obj := uv_init args.status obj
      if args.status.n < 0 then (.raise (.uv error args.status.n), obj)
      else (.ok, initialize_handle obj)

/-- The callback is checked before libuv is called. -/
def Async_tp_init (args : InitArgs) (obj : Object) : Ret × Object :=
  if obj.initialized then (.raise .already_initialized, obj)
  else
    match args.bad_args with
    | some e => (.raise e, obj)
    | none =>
      if args.callback = .other then (.raise (.text .TypeError "a callable is required"), obj)
      else
        let obj := uv_init args.status obj
        if args.status.n ≠ 0 then (.raise (.uv .AsyncError args.status.n), obj)
        else (.ok, initialize_handle obj)

def Check_tp_init := handle_tp_init .CheckError
def FSEvent_tp_init := handle_tp_init .FSEventError
def FSPoll_tp_init := handle_tp_init .FSPollError
def Idle_tp_init := handle_tp_init .IdleError
def Pipe_tp_init := handle_tp_init .PipeError
def Poll_tp_init := handle_tp_init .PollError
def Prepare_tp_init := handle_tp_init .PrepareError
def Signal_tp_init := handle_tp_init .SignalError
def SignalChecker_tp_init := handle_tp_init .UVError
def TCP_tp_init := handle_tp_init .TCPError
def Timer_tp_init := handle_tp_init .TimerError
def TTY_tp_init := handle_tp_init .TTYError
def UDP_tp_init := handle_tp_init .UDPError

/-- The slot of the type. The three that have none get that of object, which does nothing. -/
def tp_init : HandleType → InitArgs → Object → Ret × Object
  | .Handle | .Stream | .Process => fun _ obj => (.ok, obj)
  | .Async => Async_tp_init
  | .Check => Check_tp_init
  | .FSEvent => FSEvent_tp_init
  | .FSPoll => FSPoll_tp_init
  | .Idle => Idle_tp_init
  | .Pipe => Pipe_tp_init
  | .Poll => Poll_tp_init
  | .Prepare => Prepare_tp_init
  | .Signal => Signal_tp_init
  | .SignalChecker => SignalChecker_tp_init
  | .TCP => TCP_tp_init
  | .Timer => Timer_tp_init
  | .TTY => TTY_tp_init
  | .UDP => UDP_tp_init

/-! ## The end of an object, and close -/

/-- Closed counts as closing. -/
def uv_is_closing (uv : Uv) : Bool := uv = .closing || uv = .closed

/-- A reference is taken until the callback has run. -/
def uv_close (obj : Object) (cb : CloseCb) : Object :=
  { obj with uv := .closing, close_cb := some cb, close_ref := true, refcnt := obj.refcnt + 1 }

/-- The run of the dealloc goes on record. -/
def record (obj : Object) (looked : Bool) (ending : DeallocEnd) : List Dealloc :=
  obj.deallocs ++ [⟨obj.uv, looked, ending⟩]

/-- It runs with no reference left. An object that is closed gets one again. -/
def Handle_tp_dealloc (obj : Object) : Object :=
  if !obj.uv_handle then { obj with life := .aborted, deallocs := record obj false .aborted }
  else if obj.initialized && !uv_is_closing obj.uv then
    { uv_close obj .pyuv__handle_dealloc_close_cb with deallocs := record obj true .uv_closed }
  else { obj with life := .freed, deallocs := record obj obj.initialized .freed }

/-- With the last reference Handle_tp_dealloc runs. -/
def Py_DECREF (obj : Object) : Object :=
  if obj.refcnt = 1 then Handle_tp_dealloc { obj with refcnt := 0 }
  else { obj with refcnt := obj.refcnt - 1 }

/-- close of all types but Process. -/
def Handle_func_close (callback : CallbackArg) (obj : Object) : Ret × Object :=
  if !obj.initialized then (.raise .not_initialized, obj)
  else if uv_is_closing obj.uv then (.raise .handle_closed, obj)
  else if callback = .other then (.raise (.text .TypeError "a callable or None is required"), obj)
  else (.ok, uv_close obj .pyuv__handle_close_cb)

/-- A Process that was not spawned has a text of its own. -/
def Process_func_close (callback : CallbackArg) (obj : Object) : Ret × Object :=
  if !obj.initialized then
    (.raise (.text .RuntimeError "Object was not initialized, spawn was not called."), obj)
  else Handle_func_close callback obj

/-- The slot `close` of the type. -/
def func_close (callback : CallbackArg) (obj : Object) : Ret × Object :=
  if obj.type = .Process then Process_func_close callback obj else Handle_func_close callback obj

/-! ## Process.spawn -/

/-- From where the object is made. `failed` is the exception of an argument that cannot be
converted, and the status is that of uv_spawn, which initialises the handle before all else. -/
def Process_func_spawn (failed : Option PyErr) (status : Status) : Ret × Object :=
  let obj := { initialize_handle Process_tp_new with initialized := false }
  match failed with
  | some e => (.raise e, Py_DECREF { obj with user := 0 })
  | none =>
    let obj := { obj with initialized := true, uv := .inited }
    if status.n < 0 then
      (.raise (.uv .ProcessError status.n), Py_DECREF { obj with user := 0 })
    else (.ok, { obj with refcnt := obj.refcnt + 1, exit_ref := true })

/-! ## Histories -/

/-- How an object comes into being. -/
inductive Construction : HandleType → Type where
  | tp_new {type : HandleType} : Construction type
  | spawn (failed : Option PyErr) (status : Status) : Construction .Process

/-- The object of a construction. -/
def construct {type : HandleType} : Construction type → Object
  | .tp_new => tp_new type
  | .spawn failed status => (Process_func_spawn failed status).2

/-- What happens to it then. `incref` is any way to a new reference, a weak reference or the list
of the handles of the loop among them. -/
inductive Act where
  | tp_init (args : InitArgs)
  | close (callback : CallbackArg)
  | incref
  | decref
  -- the child has ended, and pyuv__process_exit_cb returns
  | exit_cb
  -- libuv is done with the handle, and its close callback returns
  | finish_close
  | close_cb_end

/-- One act, where the object still lives. -/
def step (obj : Object) (a : Act) : Option Object :=
  if obj.life ≠ .living then none
  else
    match a with
    | .tp_init args => if 0 < obj.user then some (tp_init obj.type args obj).2 else none
    | .close callback => if 0 < obj.user then some (func_close callback obj).2 else none
    | .incref => some { obj with user := obj.user + 1, refcnt := obj.refcnt + 1 }
    | .decref => if 0 < obj.user then some (Py_DECREF { obj with user := obj.user - 1 }) else none
    | .exit_cb =>
      if obj.exit_ref ∧ obj.uv = .inited then some (Py_DECREF { obj with exit_ref := false })
      else none
    | .finish_close => if obj.uv = .closing then some { obj with uv := .closed } else none
    | .close_cb_end =>
      if obj.close_ref ∧ obj.uv = .closed then some (Py_DECREF { obj with close_ref := false })
      else none

/-- The handle is closed if libuv has it open, and else the object is freed; a handle that libuv
has not initialised is not looked at, and none that it is still closing is freed. -/
structure Dealloc.Safe (d : Dealloc) : Prop where
  closed_iff : d.ending = .uv_closed ↔ d.uv = .inited
  freed_iff : d.ending = .freed ↔ d.uv ≠ .inited
  looked : d.looked = true → d.uv ≠ .raw
  not_closing : d.uv ≠ .closing

/-- No run of the dealloc has failed an ASSERT, or looked at a structure that nobody set up. -/
def Safe (obj : Object) : Prop := ∀ d ∈ obj.deallocs, d.Safe

/-! ## The invariant -/

/-- Every reference has its owner, `extra` of them outside of the object's own account, and
`initialized` tells whether libuv knows the handle. -/
structure Inv (extra : Nat) (obj : Object) : Prop where
  uv_handle : obj.uv_handle = true
  initialized : obj.initialized = true ↔ obj.uv ≠ .raw
  refs : obj.refcnt = obj.user + obj.exit_ref.toNat + obj.close_ref.toNat + extra
  closing : obj.uv = .closing → obj.close_ref = true
  close_ref : obj.close_ref = true → obj.uv = .closing ∨ obj.uv = .closed
  living : obj.life = .living → 0 < obj.refcnt
  safe : Safe obj

variable {obj : Object} {n : Nat}

theorem Safe.append {uv : Uv} {looked : Bool} {ending : DeallocEnd} (h : Safe obj)
    (hd : Dealloc.Safe ⟨uv, looked, ending⟩) :
    ∀ d ∈ obj.deallocs ++ [⟨uv, looked, ending⟩], d.Safe := by
  intro d hmem
  rcases List.mem_append.mp hmem with hold | hnew
  · exact h d hold
  · cases List.mem_singleton.mp hnew
    exact hd

theorem closed_is_safe : Dealloc.Safe ⟨.inited, true, .uv_closed⟩ :=
  ⟨by decide, by decide, by decide, by decide⟩

theorem freed_is_safe {uv : Uv} {looked : Bool} (hnot : uv ≠ .inited) (hclosing : uv ≠ .closing)
    (hlooked : looked = true → uv ≠ .raw) : Dealloc.Safe ⟨uv, looked, .freed⟩ :=
  ⟨⟨nofun, fun h => absurd h hnot⟩, ⟨fun _ => hnot, fun _ => rfl⟩, hlooked, hclosing⟩

/-- The object with no reference left: it is closed, or it is freed. -/
theorem Handle_tp_dealloc.spec (hi : Inv 0 { obj with life := .freed }) (hzero : obj.refcnt = 0) :
    Inv 0 (Handle_tp_dealloc obj) := by
  have hclose : obj.close_ref = false := by
    have hrefs := hi.refs
    dsimp only at hrefs
    cases hc : obj.close_ref with
    | false => rfl
    | true =>
      rw [hc, Bool.toNat_true] at hrefs
      omega
  have hnot : obj.uv ≠ .closing := by
    intro h
    have htrue : obj.close_ref = true := hi.closing h
    rw [hclose] at htrue
    cases htrue
  have hhandle : obj.uv_handle = true := hi.uv_handle
  have hinit : obj.initialized = true ↔ obj.uv ≠ .raw := hi.initialized
  unfold Handle_tp_dealloc
  rw [hhandle, if_neg (by decide)]
  by_cases hopen : (obj.initialized && !uv_is_closing obj.uv) = true
  · rw [if_pos hopen]
    rw [Bool.and_eq_true, Bool.not_eq_true'] at hopen
    have hinited : obj.uv = .inited := by
      have hraw := hinit.mp hopen.1
      cases huv : obj.uv with
      | raw => exact absurd huv hraw
      | inited => rfl
      | closing => exact absurd huv hnot
      | closed =>
        rw [huv] at hopen
        cases hopen.2
    constructor
    · exact hhandle
    · exact ⟨fun _ => nofun, fun _ => hopen.1⟩
    · have hrefs := hi.refs
      dsimp only [uv_close] at hrefs ⊢
      rw [hclose, Bool.toNat_false] at hrefs
      rw [Bool.toNat_true]
      omega
    · exact fun _ => rfl
    · exact fun _ => .inl rfl
    · exact fun _ => Nat.succ_pos _
    · unfold Safe record
      rw [hinited]
      exact Safe.append hi.safe closed_is_safe
  · rw [if_neg hopen]
    have hclosed : obj.uv ≠ .inited := by
      intro hinited
      apply hopen
      rw [hinit.mpr (by rw [hinited]; nofun), hinited]
      rfl
    refine ⟨rfl, hinit, hi.refs, hi.closing, hi.close_ref, nofun, ?_⟩
    exact Safe.append hi.safe (freed_is_safe hclosed hnot hinit.mp)

/-- The extra reference is given back. -/
theorem Py_DECREF.spec (hi : Inv 1 obj) : Inv 0 (Py_DECREF obj) := by
  have hrefs := hi.refs
  unfold Py_DECREF
  by_cases hone : obj.refcnt = 1
  · rw [if_pos hone]
    apply Handle_tp_dealloc.spec
    · refine ⟨hi.uv_handle, hi.initialized, ?_, hi.closing, hi.close_ref, nofun, hi.safe⟩
      dsimp only
      omega
    · rfl
  · rw [if_neg hone]
    refine ⟨hi.uv_handle, hi.initialized, ?_, hi.closing, hi.close_ref, ?_, hi.safe⟩
    · dsimp only
      omega
    · intro _
      dsimp only
      omega

/-! ## What each function keeps -/

theorem concrete_inv {obj : Object} (h : obj = with_uv_handle (Handle_tp_new obj.type)) :
    Inv 0 obj := by
  rw [h]
  exact ⟨rfl, ⟨nofun, fun h => absurd rfl h⟩, rfl, nofun, nofun, fun _ => Nat.one_pos, nofun⟩

theorem tp_new_inv {type : HandleType} (hhandle : type ≠ .Handle) (hstream : type ≠ .Stream) :
    Inv 0 (tp_new type) := by
  cases type with
  | Handle => exact absurd rfl hhandle
  | Stream => exact absurd rfl hstream
  | _ => exact concrete_inv rfl

theorem raw_of_not_initialized (hi : Inv n obj) (h : obj.initialized ≠ true) : obj.uv = .raw :=
  not_not.mp fun hraw => h (hi.initialized.mpr hraw)

theorem initialized_inv (hi : Inv n obj) (hnew : obj.initialized ≠ true) (status : Status)
    (hzero : status.n = 0) : Inv n (initialize_handle (uv_init status obj)) := by
  have hraw := raw_of_not_initialized hi hnew
  have hclose : obj.close_ref ≠ true := by
    intro h
    rcases hi.close_ref h with huv | huv <;> rw [hraw] at huv <;> cases huv
  unfold uv_init initialize_handle
  rw [if_pos hzero]
  exact ⟨hi.uv_handle, ⟨fun _ => nofun, fun _ => rfl⟩, hi.refs, nofun,
    fun h => absurd h hclose, hi.living, hi.safe⟩

theorem refused_inv (hi : Inv n obj) (status : Status) (hneg : status.n ≠ 0) :
    Inv n (uv_init status obj) := by
  unfold uv_init
  rw [if_neg hneg]
  exact hi

theorem handle_tp_init_inv (hi : Inv n obj) (error : ExcType) (args : InitArgs) :
    Inv n (handle_tp_init error args obj).2 := by
  unfold handle_tp_init
  by_cases hnew : obj.initialized = true
  · rw [if_pos hnew]
    exact hi
  · rw [if_neg hnew]
    split
    · exact hi
    · dsimp only
      split
      · exact refused_inv hi args.status (by omega)
      · have hle := args.status.le
        exact initialized_inv hi hnew args.status (by omega)

theorem Async_tp_init_inv (hi : Inv n obj) (args : InitArgs) :
    Inv n (Async_tp_init args obj).2 := by
  unfold Async_tp_init
  by_cases hnew : obj.initialized = true
  · rw [if_pos hnew]
    exact hi
  · rw [if_neg hnew]
    split
    · exact hi
    · split
      · exact hi
      · dsimp only
        split
        · exact refused_inv hi args.status ‹_›
        · exact initialized_inv hi hnew args.status (not_not.mp ‹_›)

theorem tp_init_inv (hi : Inv n obj) (type : HandleType) (args : InitArgs) :
    Inv n (tp_init type args obj).2 := by
  cases type with
  | Handle | Stream | Process => exact hi
  | Async => exact Async_tp_init_inv hi args
  | _ => exact handle_tp_init_inv hi _ args

/-- A close of an initialised handle. -/
theorem uv_close_inv (hi : Inv n obj) (hinit : obj.initialized = true)
    (hopen : uv_is_closing obj.uv ≠ true) (cb : CloseCb) : Inv n (uv_close obj cb) := by
  have hclose : obj.close_ref = false := by
    cases hc : obj.close_ref with
    | false => rfl
    | true =>
      exfalso
      rcases hi.close_ref hc with huv | huv <;> rw [huv] at hopen <;> exact hopen rfl
  have hrefs := hi.refs
  refine ⟨hi.uv_handle, ⟨fun _ => nofun, fun _ => hinit⟩, ?_, fun _ => rfl, fun _ => .inl rfl,
    fun _ => Nat.succ_pos _, hi.safe⟩
  dsimp only [uv_close]
  rw [hclose, Bool.toNat_false] at hrefs
  rw [Bool.toNat_true]
  omega

theorem Handle_func_close_inv (hi : Inv n obj) (callback : CallbackArg) :
    Inv n (Handle_func_close callback obj).2 := by
  unfold Handle_func_close
  split
  · exact hi
  · split
    · exact hi
    · split
      · exact hi
      · rename_i hinit hopen _
        apply uv_close_inv hi _ hopen
        simpa using hinit

theorem func_close_inv (hi : Inv n obj) (callback : CallbackArg) :
    Inv n (func_close callback obj).2 := by
  unfold func_close Process_func_close
  split
  · split
    · exact hi
    · exact Handle_func_close_inv hi callback
  · exact Handle_func_close_inv hi callback

/-- The object of spawn goes at once where spawn fails, and libuv closes what it has begun. -/
theorem Process_func_spawn_inv (failed : Option PyErr) (status : Status) :
    Inv 0 (Process_func_spawn failed status).2 := by
  unfold Process_func_spawn
  cases failed with
  | some e =>
    dsimp only
    apply Py_DECREF.spec
    exact ⟨rfl, ⟨nofun, fun h => absurd rfl h⟩, rfl, nofun, nofun, fun _ => Nat.one_pos, nofun⟩
  | none =>
    dsimp only
    split
    · dsimp only
      apply Py_DECREF.spec
      exact ⟨rfl, ⟨fun _ => nofun, fun _ => rfl⟩, rfl, nofun, nofun, fun _ => Nat.one_pos, nofun⟩
    · exact ⟨rfl, ⟨fun _ => nofun, fun _ => rfl⟩, rfl, nofun, nofun, fun _ => Nat.succ_pos _,
        nofun⟩

/-- Every way to make an object of one of these types. -/
theorem construct_inv {type : HandleType} (hhandle : type ≠ .Handle) (hstream : type ≠ .Stream)
    (how : Construction type) : Inv 0 (construct how) := by
  cases how with
  | tp_new => exact tp_new_inv hhandle hstream
  | spawn failed status => exact Process_func_spawn_inv failed status

/-- Every step on it. -/
theorem step_inv {obj' : Object} {a : Act} (hi : Inv 0 obj) (hstep : step obj a = some obj') :
    Inv 0 obj' := by
  have hrefs := hi.refs
  unfold step at hstep
  split at hstep
  · cases hstep
  · cases a with
    | tp_init args =>
      dsimp only at hstep
      split at hstep
      · cases hstep
        exact tp_init_inv hi obj.type args
      · cases hstep
    | close callback =>
      dsimp only at hstep
      split at hstep
      · cases hstep
        exact func_close_inv hi callback
      · cases hstep
    | incref =>
      cases hstep
      refine ⟨hi.uv_handle, hi.initialized, ?_, hi.closing, hi.close_ref, fun _ => Nat.succ_pos _,
        hi.safe⟩
      dsimp only
      omega
    | decref =>
      dsimp only at hstep
      split at hstep
      · cases hstep
        apply Py_DECREF.spec
        refine ⟨hi.uv_handle, hi.initialized, ?_, hi.closing, hi.close_ref, hi.living, hi.safe⟩
        dsimp only
        omega
      · cases hstep
    | exit_cb =>
      dsimp only at hstep
      split at hstep
      · rename_i hexit
        cases hstep
        apply Py_DECREF.spec
        refine ⟨hi.uv_handle, hi.initialized, ?_, hi.closing, hi.close_ref, hi.living, hi.safe⟩
        rw [hexit.1, Bool.toNat_true] at hrefs
        dsimp only
        rw [Bool.toNat_false]
        omega
      · cases hstep
    | finish_close =>
      dsimp only at hstep
      split at hstep
      · rename_i huv
        cases hstep
        have hinit : obj.initialized = true := hi.initialized.mpr (by rw [huv]; nofun)
        exact ⟨hi.uv_handle, ⟨fun _ => nofun, fun _ => hinit⟩, hi.refs, nofun, fun _ => .inr rfl,
          hi.living, hi.safe⟩
      · cases hstep
    | close_cb_end =>
      dsimp only at hstep
      split at hstep
      · rename_i hclose
        cases hstep
        apply Py_DECREF.spec
        refine ⟨hi.uv_handle, hi.initialized, ?_, ?_, nofun, hi.living, hi.safe⟩
        · rw [hclose.1, Bool.toNat_true] at hrefs
          dsimp only
          rw [Bool.toNat_false]
          omega
        · intro huv
          rw [hclose.2] at huv
          cases huv
      · cases hstep

/-! ## The law -/

/-- No run of such an object frees a struct that libuv still uses. -/
theorem concrete_is_safe {type : HandleType} (hhandle : type ≠ .Handle) (hstream : type ≠ .Stream)
    (how : Construction type) (acts : List Act) : Always step Safe (construct how) acts := by
  apply always_iff_exec.mpr
  intro bs obj _ hrun
  have hinv := exec_keeps (fun _ _ _ => step_inv) (construct_inv hhandle hstream how) hrun
  exact hinv.safe

/-- The object of a base type has no libuv handle, and the ASSERT sees it. -/
theorem base_type_aborts {type : HandleType} (h : type = .Handle ∨ type = .Stream) :
    ¬Always step Safe (construct (.tp_new : Construction type)) [.decref] := by
  intro hsafe
  let dropped := Handle_tp_dealloc { Handle_tp_new type with user := 0, refcnt := 0 }
  have hstep : step (construct (.tp_new : Construction type)) .decref = some dropped := by
    rcases h with rfl | rfl <;> rfl
  have hdealloc := (hsafe.2 dropped hstep).head ⟨.raw, false, .aborted⟩ List.mem_cons_self
  cases hdealloc.freed_iff.mpr nofun

/-- Every object of a type ends as it should, whatever it has gone through, if and only if the
type is not one of the two base types. -/
theorem dropping_a_handle_is_safe_iff (type : HandleType) :
    (∀ (how : Construction type) (acts : List Act), Always step Safe (construct how) acts) ↔
      type ≠ .Handle ∧ type ≠ .Stream := by
  constructor
  · intro hall
    constructor
    · exact fun h => base_type_aborts (.inl h) (hall .tp_new [.decref])
    · exact fun h => base_type_aborts (.inr h) (hall .tp_new [.decref])
  · rintro ⟨hhandle, hstream⟩ how acts
    exact concrete_is_safe hhandle hstream how acts

/-- `pyuv.Handle()` -/
theorem a_plain_handle_aborts :
    ¬∀ (type : HandleType) (how : Construction type) (acts : List Act),
      Always step Safe (construct how) acts :=
  fun hall => base_type_aborts (.inl rfl) (hall .Handle .tp_new [.decref])

end pyuv.handle_types
