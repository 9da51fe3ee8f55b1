-- fs.read and fs.write with the function that completes every request of the
-- module (src/fs.c). The read buffer and the write view are given back in two
-- arms of its switch, and a request that completes with an error reaches neither.
import Pyuv.Lib.Ledgers
import Pyuv.PyObjects

set_option linter.style.nameCheck false

namespace pyuv.fs_requests

open ledgers ledgers.Ledger

/-! ## Requests and results -/

/-- The operations of libuv, by their types. -/
inductive FsType where
  | STAT | LSTAT | FSTAT
  | UNLINK | MKDIR | RMDIR | RENAME | CHMOD | FCHMOD | LINK | SYMLINK | CHOWN | FCHOWN | CLOSE
  | FSYNC | FDATASYNC | FTRUNCATE | UTIME | FUTIME | ACCESS
  | READLINK | REALPATH
  | WRITE | OPEN | SENDFILE | READ | SCANDIR
  | unknown
deriving DecidableEq, Repr

/-- A time of the system, in seconds and nanoseconds. -/
structure uv_timespec_t where
  tv_sec : Int
  tv_nsec : Int
deriving DecidableEq, Repr

/-- What stat has to say of a file. -/
structure uv_stat_t where
  st_mode : Nat
  st_ino : Nat
  st_dev : Nat
  st_nlink : Nat
  st_uid : Nat
  st_gid : Nat
  st_size : Nat
  st_atim : uv_timespec_t
  st_mtim : uv_timespec_t
  st_ctim : uv_timespec_t
  st_blksize : Nat
  st_blocks : Nat
  st_rdev : Nat
  st_flags : Nat
  st_gen : Nat
  st_birthtim : uv_timespec_t
deriving DecidableEq, Repr

/-- An entry of a directory: its name and type. -/
structure uv_dirent_t where
  name : List UInt8
  type : Int
deriving DecidableEq, Repr

/-- What the completion function reads of a request that libuv has filled in.
`ptr` is the target of a readlink or realpath, `dirents` are the entries that
uv_fs_scandir_next still has, and `base` is the memory of the read buffer. -/
structure uv_fs_t where
  fs_type : FsType
  result : Int
  path : Option (List UInt8)
  statbuf : uv_stat_t
  ptr : Option (List UInt8)
  dirents : List uv_dirent_t
  base : List UInt8
deriving DecidableEq, Repr

/-- A member of a stat result. A time is a float or an int of seconds. -/
inductive StatItem where
  | long (n : Nat)
  | float (tv_sec tv_nsec : Int)
  | int (tv_sec : Int)
deriving DecidableEq, Repr

/-- The objects that a request is completed with. The name of a directory entry
is missing where it could not be decoded. -/
inductive PyVal where
  | None
  | int (n : Int)
  | bytes (bs : List UInt8)
  | str (text : List Char)
  | stat (items : List StatItem)
  | dirents (entries : List (Option (List Char) × Int))
deriving DecidableEq, Repr

/-- The allocations of the completion function, the decoder of C strings, and
`_stat_float_times`. `dirent_alloc` counts the entries there is memory for. -/
structure Python where
  result_alloc : Bool
  dirent_alloc : Nat
  decode : List UInt8 → Option (List Char)
  stat_float_times : Bool

variable (py : Python)

/-- A time as a float or, for old callers, as an int. -/
def format_time (t : uv_timespec_t) : StatItem :=
  if py.stat_float_times then .float t.tv_sec t.tv_nsec else .int t.tv_sec

/-- The fields of a stat_result in their order. -/
def stat_to_pyobj (st : uv_stat_t) : List StatItem :=
  [.long st.st_mode, .long st.st_ino, .long st.st_dev, .long st.st_nlink, .long st.st_uid,
    .long st.st_gid, .long st.st_size, format_time py st.st_atim, format_time py st.st_mtim,
    format_time py st.st_ctim, .long st.st_blksize, .long st.st_blocks, .long st.st_rdev,
    .long st.st_flags, .long st.st_gen, format_time py st.st_birthtim]

/-- Py_BuildValue("s", s): None for a NULL pointer, `none` when it fails. -/
def build_s : Option (List UInt8) → Option PyVal
  | none => some .None
  | some s => (py.decode s).map .str

/-- A new object, or None in its place when there is no memory for it. -/
def or_None (r : PyVal) : PyVal := if py.result_alloc then r else .None

/-- The DirEnt of an entry. A name that does not decode is NULL. -/
def dirent_of (ent : uv_dirent_t) : Option (List Char) × Int := (py.decode ent.name, ent.type)

/-! ## The completion of a request -/

/-- The read buffer, the view of the data to write, a reference to the request,
and the value that the user's callback returned. -/
inductive Res where
  | buf
  | view
  | fs_req
  | result
deriving DecidableEq

/-- The switch over the type of a request that succeeded: what it is completed
with, and the buffers it gives back. An unknown type is a failed assertion. -/
def process_result (req : uv_fs_t) (L : Ledger Res) : Option (PyVal × Ledger Res) :=
  match req.fs_type with
  | .STAT | .LSTAT | .FSTAT => some (or_None py (.stat (stat_to_pyobj py req.statbuf)), L)
  | .UNLINK | .MKDIR | .RMDIR | .RENAME | .CHMOD | .FCHMOD | .LINK | .SYMLINK | .CHOWN | .FCHOWN
  | .CLOSE | .FSYNC | .FDATASYNC | .FTRUNCATE | .UTIME | .FUTIME | .ACCESS => some (.None, L)
  | .READLINK | .REALPATH => some ((build_s py req.ptr).getD .None, L)
  | .WRITE => do
    let L ← release .view L
    return (or_None py (.int req.result), L)
  | .OPEN | .SENDFILE => some (or_None py (.int req.result), L)
  | .READ => do
    let L ← release .buf L
    return (or_None py (.bytes (req.base.take req.result.toNat)), L)
  | .SCANDIR =>
    let entries := (req.dirents.take py.dirent_alloc).map (dirent_of py)
    some (or_None py (.dirents entries), L)
  | .unknown => none

/-- What a request offers its user once it is completed. -/
structure FSRequest where
  path : Option PyVal
  result : PyVal
  error : PyVal
deriving DecidableEq, Repr

/-- `callback` when the request has one, `returned` when that did not raise. -/
def pyuv__process_fs_req (req : uv_fs_t) (callback returned : Bool) (L : Ledger Res) :
    Option (FSRequest × Ledger Res) := do
  let path := build_s py req.path
  let (error, result, L) ←
    if req.result < 0 then
      -- the switch is skipped, and with it the release of buf and view
      some (PyVal.int req.result, PyVal.None, L)
    else
      (process_result py req L).map (fun (r, L) => (PyVal.None, r, L))
  let L ← if callback && returned then release .result (acquire .result L) else some L
  let L ← release .fs_req L
  return ({ path, result, error }, L)

/-! ## fs.read and fs.write -/

/-- How a call goes: the new FSRequest, the memory for a read buffer, the answer
of uv_fs_read or uv_fs_write, and the request as libuv leaves it. -/
structure Env where
  request : Except PyErr Unit
  malloc : Bool
  uv : Int
  req : uv_fs_t

/-- The end of a call: an exception, the value of a synchronous operation, or a
request under way. -/
inductive CallEnd where
  | raised (e : PyErr)
  | value (v : PyVal)
  | request
deriving DecidableEq, Repr

/-- The exception of an argument that is no callable. -/
def callable_required : PyErr := .text .TypeError "a callable is required"

/-- The call of libuv, which uses the buffer `r` until it has a result: for a
synchronous operation before it returns. -/
def uv_fs_submit (async : Bool) (r : Res) (L : Ledger Res) : Option (Ledger Res) :=
  if async then lend [r] L else (lend [r] L).bind (reclaim [r])

/-- The end of both functions, once libuv has taken the request. -/
def finish (ty : FsType) (r : Res) (env : Env) (async : Bool) (L : Ledger Res) :
    Option (CallEnd × Ledger Res) := do
  let L ← uv_fs_submit async r L
  let L := acquire .fs_req L
  if async then
    return (.request, L)
  else
    let (done, L) ← pyuv__process_fs_req py { env.req with fs_type := ty, result := env.uv }
      false false L
    let L ← release .fs_req L
    return (.value done.result, L)

/-- The arguments of fs.read, as far as they decide over the resources. -/
structure ReadArgs where
  parsed : Except PyErr Unit
  length : Int
  callback : CallbackArg

/-- fs.read, from its arguments to what it returns. -/
def FS_func_read (env : Env) (a : ReadArgs) (L : Ledger Res) : Option (CallEnd × Ledger Res) :=
  match a.parsed with
  | .error e => some (.raised e, L)
  | .ok () =>
    if a.callback = .other then some (.raised callable_required, L)
    else match env.request with
      | .error e => some (.raised e, L)
      | .ok () => do
        let L := acquire .fs_req L
        -- a negative length is a size_t that no allocation can serve
        if !(env.malloc && decide (0 ≤ a.length)) then
          let L ← release .fs_req L
          return (.raised (.cpython .MemoryError), L)
        else
          let L := acquire .buf L
          if env.uv < 0 then
            let L ← release .buf L
            let L ← release .fs_req L
            return (.raised (.uv .FSError env.uv), L)
          else
            finish py .READ .buf env (a.callback = .callable) L

/-- The arguments of fs.write. -/
structure WriteArgs where
  parsed : Except PyErr Unit
  callback : CallbackArg

/-- The view comes with the parsed arguments. Where a later argument is refused,
the parser has released it itself. -/
def FS_func_write (env : Env) (a : WriteArgs) (L : Ledger Res) : Option (CallEnd × Ledger Res) :=
  match a.parsed with
  | .error e => some (.raised e, L)
  | .ok () => do
    let L := acquire .view L
    match env.request with
    | .error e =>
      let L ← release .view L
      return (.raised e, L)
    | .ok () =>
      let L := acquire .fs_req L
      if a.callback = .other then
        let L ← release .view L
        let L ← release .fs_req L
        return (.raised callable_required, L)
      else if env.uv < 0 then
        let L ← release .view L
        let L ← release .fs_req L
        return (.raised (.uv .FSError env.uv), L)
      else
        finish py .WRITE .view env (a.callback = .callable) L

/-! ## A call as a whole -/

/-- A call of one of the two functions. -/
inductive FsCall where
  | read (a : ReadArgs)
  | write (a : WriteArgs)

/-- The call, from a ledger to the ledger after it. -/
def FsCall.run (env : Env) : FsCall → Ledger Res → Option (CallEnd × Ledger Res)
  | .read a => FS_func_read py env a
  | .write a => FS_func_write py env a

/-- The type of the request that it makes. -/
def FsCall.fs_type : FsCall → FsType
  | .read _ => .READ
  | .write _ => .WRITE

/-- The buffer that the call owes. -/
def FsCall.owed : FsCall → Res
  | .read _ => .buf
  | .write _ => .view

/-- libuv gives the buffer back and completes the request. A request that is
cancelled before a worker takes it is completed with UV_ECANCELED. -/
def FsCall.complete (c : FsCall) (env : Env) (result : Int) (returned : Bool) (L : Ledger Res) :
    Option (FSRequest × Ledger Res) := do
  let L ← reclaim [c.owed] L
  pyuv__process_fs_req py { env.req with fs_type := c.fs_type, result } true returned L

/-- Every exit of the call gives back what it took, up to the reference to the
request that an asynchronous call returns. -/
def Settled (c : FsCall) (env : Env) (result : Int) (returned : Bool) (L : Ledger Res) : Prop :=
  ∃ out M, c.run py env L = some (out, M) ∧ match out with
    | .raised _ => M = L
    | .value _ => M = L
    | .request => ∃ done, c.complete py env result returned M = some (done, acquire .fs_req L)

/-- The call is asynchronous and gets a request under way. -/
def FsCall.Submitted (env : Env) : FsCall → Prop
  | .read a => a.parsed = .ok () ∧ a.callback = .callable ∧ env.request = .ok () ∧
      (env.malloc ∧ 0 ≤ a.length) ∧ 0 ≤ env.uv
  | .write a => a.parsed = .ok () ∧ a.callback = .callable ∧ env.request = .ok () ∧ 0 ≤ env.uv

/-! ## The specs of the functions -/

/-- A request that failed is let go with nothing else given back. -/
theorem pyuv__process_fs_req.spec_error (req : uv_fs_t) (h : req.result < 0)
    (callback returned : Bool) (K : Ledger Res) :
    ∃ done, pyuv__process_fs_req py req callback returned (acquire .fs_req K) = some (done, K) := by
  refine ⟨{ path := build_s py req.path, result := .None, error := .int req.result }, ?_⟩
  unfold pyuv__process_fs_req
  cases callback && returned <;> simp [h]

/-- A read or write that succeeded gives its buffer back. -/
theorem pyuv__process_fs_req.spec_ok (c : FsCall) (req : uv_fs_t) (hty : req.fs_type = c.fs_type)
    (h : 0 ≤ req.result) (callback returned : Bool) (K : Ledger Res) :
    ∃ done, pyuv__process_fs_req py req callback returned (acquire .fs_req (acquire c.owed K)) =
      some (done, K) := by
  have hrelease : ∃ r, process_result py req (acquire .fs_req (acquire c.owed K)) =
      some (r, acquire .fs_req K) := by
    rw [acquire_comm]
    unfold process_result
    cases c with
    | read a =>
      rw [hty]
      exact ⟨_, by simp [FsCall.fs_type, FsCall.owed]; rfl⟩
    | write a =>
      rw [hty]
      exact ⟨_, by simp [FsCall.fs_type, FsCall.owed]; rfl⟩
  obtain ⟨r, hr⟩ := hrelease
  refine ⟨{ path := build_s py req.path, result := r, error := .None }, ?_⟩
  unfold pyuv__process_fs_req
  cases callback && returned <;> simp [Int.not_lt.mpr h, hr]

/-- What a request owes is held by nobody else. -/
theorem owed_is_free (c : FsCall) (L : Ledger Res) :
    ↑([c.owed] : List Res) ≤ (acquire c.owed L).free := by
  simp [acquire]

/-- The end of a synchronous call: the buffer and the request are given back. -/
theorem finish.spec_sync (c : FsCall) {env : Env} (h : 0 ≤ env.uv) (L : Ledger Res) :
    ∃ v, finish py c.fs_type c.owed env false (acquire c.owed (acquire .fs_req L)) =
      some (.value v, L) := by
  obtain ⟨M, hM, hback⟩ := reclaim_lend [] (owed_is_free c (acquire .fs_req L))
  obtain ⟨done, hdone⟩ := pyuv__process_fs_req.spec_ok py c
    { env.req with fs_type := c.fs_type, result := env.uv } rfl h false false
    (acquire .fs_req L)
  refine ⟨done.result, ?_⟩
  simp only [acquireAll_nil] at hback
  simp [finish, uv_fs_submit, hM, hback, hdone]

/-- The end of an asynchronous call: libuv has the buffer, and completes the
request with the buffer back in its place. -/
theorem finish.spec_async (c : FsCall) (env : Env) (L : Ledger Res) :
    ∃ M, finish py c.fs_type c.owed env true (acquire c.owed L) = some (.request, M) ∧
      ∀ result returned, c.complete py env result returned M =
        pyuv__process_fs_req py { env.req with fs_type := c.fs_type, result } true returned
          (acquire .fs_req (acquire c.owed L)) := by
  obtain ⟨M, hM, hback⟩ := reclaim_lend [.fs_req] (owed_is_free c L)
  refine ⟨acquire .fs_req M, by simp [finish, uv_fs_submit, hM], fun result returned => ?_⟩
  simp only [acquireAll_cons, acquireAll_nil] at hback
  simp [FsCall.complete, hback]

/-- A call that gets no request under way leaves the ledger as it was. -/
theorem FsCall.run.spec_ended (c : FsCall) (env : Env) (L : Ledger Res) (h : ¬ c.Submitted env) :
    (∃ e, c.run py env L = some (.raised e, L)) ∨ ∃ v, c.run py env L = some (.value v, L) := by
  cases c with
  | read a =>
    simp only [FsCall.run, FS_func_read]
    cases hparsed : a.parsed with
    | error e => exact Or.inl ⟨e, rfl⟩
    | ok u =>
      by_cases hother : a.callback = .other
      · exact Or.inl ⟨callable_required, by simp [hother]⟩
      cases hrequest : env.request with
      | error e => exact Or.inl ⟨e, by simp [hother]⟩
      | ok u =>
        by_cases hmalloc : env.malloc = true ∧ 0 ≤ a.length
        · by_cases herr : env.uv < 0
          · exact Or.inl ⟨.uv .FSError env.uv, by simp [hother, hmalloc, herr]⟩
          · have hsync : a.callback ≠ .callable := fun hcb =>
              h ⟨hparsed, hcb, hrequest, hmalloc, Int.not_lt.mp herr⟩
            obtain ⟨v, hv⟩ : ∃ v,
              finish py .READ .buf env false (acquire .buf (acquire .fs_req L)) =
              some (.value v, L) := finish.spec_sync py (.read a) (Int.not_lt.mp herr) L
            exact Or.inr ⟨v, by simpa [hother, hmalloc, herr, hsync] using hv⟩
        · refine Or.inl ⟨.cpython .MemoryError, ?_⟩
          rw [not_and_or] at hmalloc
          rcases hmalloc with hm | hm <;> simp [hother, hm]
  | write a =>
    simp only [FsCall.run, FS_func_write]
    cases hparsed : a.parsed with
    | error e => exact Or.inl ⟨e, rfl⟩
    | ok u =>
      cases hrequest : env.request with
      | error e => exact Or.inl ⟨e, by simp⟩
      | ok u =>
        by_cases hother : a.callback = .other
        · refine Or.inl ⟨callable_required, ?_⟩
          rw [acquire_comm]
          simp [hother]
        by_cases herr : env.uv < 0
        · refine Or.inl ⟨.uv .FSError env.uv, ?_⟩
          rw [acquire_comm]
          simp [hother, herr]
        · have hsync : a.callback ≠ .callable := fun hcb =>
            h ⟨hparsed, hcb, hrequest, Int.not_lt.mp herr⟩
          obtain ⟨v, hv⟩ : ∃ v,
            finish py .WRITE .view env false (acquire .view (acquire .fs_req L)) =
            some (.value v, L) := finish.spec_sync py (.write a) (Int.not_lt.mp herr) L
          refine Or.inr ⟨v, ?_⟩
          rw [acquire_comm]
          simpa [hother, herr, hsync] using hv

/-- A call that gets a request under way ends as `finish` does. -/
theorem FsCall.run.spec_submitted (c : FsCall) (env : Env) (L : Ledger Res) (h : c.Submitted env) :
    c.run py env L =
      finish py c.fs_type c.owed env true (acquire c.owed (acquire .fs_req L)) := by
  cases c with
  | read a =>
    obtain ⟨hparsed, hcb, hrequest, hmalloc, herr⟩ := h
    simp [FsCall.run, FS_func_read, hparsed, hcb, hrequest, hmalloc, Int.not_lt.mpr herr,
      FsCall.fs_type, FsCall.owed]
  | write a =>
    obtain ⟨hparsed, hcb, hrequest, herr⟩ := h
    rw [acquire_comm]
    simp [FsCall.run, FS_func_write, hparsed, hcb, hrequest, Int.not_lt.mpr herr,
      FsCall.fs_type, FsCall.owed]

/-! ## The law -/

/-- fs.read and fs.write give their buffer back exactly once, and not before libuv
is done with it, if and only if it is not an asynchronous request that completes
with an error: that one keeps its buffer for good. -/
theorem a_buffer_is_given_back_iff (py : Python) (c : FsCall) (env : Env) (result : Int)
    (returned : Bool) (L : Ledger Res) :
    Settled py c env result returned L ↔ ¬ (c.Submitted env ∧ result < 0) := by
  by_cases hsub : c.Submitted env
  · obtain ⟨M, hM, hcomplete⟩ := finish.spec_async py c env (acquire .fs_req L)
    have hrun := (FsCall.run.spec_submitted py c env L hsub).trans hM
    by_cases hres : result < 0
    · refine iff_of_false ?_ (not_not.mpr ⟨hsub, hres⟩)
      rintro ⟨out, N, hout, hends⟩
      obtain ⟨rfl, rfl⟩ := Prod.mk.inj (Option.some.inj (hrun.symm.trans hout))
      obtain ⟨done, hdone⟩ := hends
      obtain ⟨done', hkept⟩ := pyuv__process_fs_req.spec_error py
        { env.req with fs_type := c.fs_type, result } hres true returned
        (acquire c.owed (acquire .fs_req L))
      rw [hcomplete, hkept] at hdone
      exact acquire_ne _ _ (Prod.mk.inj (Option.some.inj hdone)).2
    · refine iff_of_true ⟨_, _, hrun, ?_⟩ (fun h => hres h.2)
      obtain ⟨done, hdone⟩ := pyuv__process_fs_req.spec_ok py c
        { env.req with fs_type := c.fs_type, result } rfl (Int.not_lt.mp hres) true
        returned (acquire .fs_req L)
      exact ⟨done, (hcomplete result returned).trans hdone⟩
  · refine iff_of_true ?_ (fun h => hsub h.1)
    rcases FsCall.run.spec_ended py c env L hsub with ⟨e, he⟩ | ⟨v, hv⟩
    · exact ⟨_, _, he, rfl⟩
    · exact ⟨_, _, hv, rfl⟩

/-- A request as libuv has it before any result. -/
def emptyReq : uv_fs_t where
  fs_type := .unknown
  result := 0
  path := none
  statbuf :=
    { st_mode := 0, st_ino := 0, st_dev := 0, st_nlink := 0, st_uid := 0, st_gid := 0,
      st_size := 0, st_atim := ⟨0, 0⟩, st_mtim := ⟨0, 0⟩, st_ctim := ⟨0, 0⟩, st_blksize := 0,
      st_blocks := 0, st_rdev := 0, st_flags := 0, st_gen := 0, st_birthtim := ⟨0, 0⟩ }
  ptr := none
  dirents := []
  base := []

/-- fs.read(loop, fd, 10, 0, callback) that is cancelled before a worker takes it. -/
theorem a_cancelled_read_keeps_its_buffer :
    let py : Python := { result_alloc := true, dirent_alloc := 0, decode := fun _ => none,
                         stat_float_times := true }
    let call : FsCall := .read { parsed := .ok (), length := 10, callback := .callable }
    let env : Env := { request := .ok (), malloc := true, uv := 0, req := emptyReq }
    ¬ Settled py call env UV_ECANCELED true { free := 0, lent := 0 } := by
  rintro py call env ⟨out, M, hrun, hends⟩
  have hM : call.run py env { free := 0, lent := 0 } =
      some (.request, { free := {.fs_req, .fs_req}, lent := {.buf} }) := by decide
  obtain ⟨rfl, rfl⟩ := Prod.mk.inj (Option.some.inj (hM.symm.trans hrun))
  obtain ⟨done, hdone⟩ := hends
  have hleft : (call.complete py env UV_ECANCELED true
      { free := {.fs_req, .fs_req}, lent := {.buf} }).map (fun p => p.2) =
        some { free := {.fs_req, .buf}, lent := 0 } := by decide
  rw [hdone, Option.map_some] at hleft
  have hne : acquire .fs_req { free := 0, lent := 0 } ≠
      ({ free := {.fs_req, .buf}, lent := 0 } : Ledger Res) := by decide
  exact hne (Option.some.inj hleft)

end pyuv.fs_requests
