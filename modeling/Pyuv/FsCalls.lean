-- The functions of the fs module (src/fs.c) and the function that completes their requests: the
-- arguments, the request and its references, and what the caller or the callback gets.
import Pyuv.FsNames
import Pyuv.Integers
import Mathlib.Data.Rat.Defs

set_option linter.style.nameCheck false

namespace pyuv.fs_calls

open indicator fs_names
open fs_requests (uv_fs_t FsType PyVal FSRequest CallEnd callable_required)

/-! ## Arguments -/

/-- An argument as Python passes it. -/
inductive Arg where
  | str (text : List Char)
  | buffer (bytes : List UInt8)
  | int (n : Int)
  | float (x : ℚ)
  | other

/-- An argument as the format converts it. -/
inductive CArg where
  | path (bytes : List UInt8)
  | view (bytes : List UInt8)
  | int (n : Int)
  | double (x : ℚ)

/-- The formats of the parser, with the type that an int has for libuv. -/
inductive Format where
  | s
  | view
  | int (format : integers.Format) (target : cints.IntType)
  | d

/-- One argument in one format. -/
def Format.convert : Format → Arg → Except PyErr CArg
  | .s, .str text =>
    if '\x00' ∈ text then .error (.cpython .ValueError) else .ok (.path (utf8.encode text))
  | .view, .buffer b => .ok (.view b)
  | .int format target, .int n =>
    match format.convert n with
    | .ok v => .ok (.int (v.convert target).val)
    | .error _ => .error (.cpython .OverflowError)
  | .d, .float x => .ok (.double x)
  | .d, .int n => .ok (.double n)
  | _, _ => .error (.cpython .TypeError)

/-- The arguments one after the other, up to the first that does not convert. -/
def convert_all : List Format → List Arg → Except PyErr (List CArg)
  | [], [] => .ok []
  | format :: formats, arg :: args => do
    let v ← format.convert arg
    let vs ← convert_all formats args
    return v :: vs
  | _, _ => .error (.cpython .TypeError)

/-- `loop` when the first argument is one. -/
structure Args where
  loop : Bool
  items : List Arg
  callback : Option CallbackArg

/-- The formats of a function, of which the first is a Loop. -/
def PyArg_ParseTupleAndKeywords (formats : List Format) (a : Args) : Except PyErr (List CArg) :=
  if a.loop then convert_all formats a.items else .error (.cpython .TypeError)

/-! ## Requests -/

/-- What libuv fills a request with. Its result has room in an int. -/
structure Outcome where
  filled : uv_fs_t
  fits : integers.int.Holds filled.result

/-- The new FSRequest, the memory for a read buffer, and what libuv comes to. An error may already
be the answer to an asynchronous submission. -/
structure Env where
  request : Except PyErr Unit
  malloc : Bool
  outcome : Outcome
  at_submission : Bool

/-- `requests` counts the requests that were made, and `refs` the references to the last. -/
structure State where
  interp : Interp FSRequest
  requests : Nat
  refs : Nat
  submitted : Option (FsType × List CArg)
  completed : Option FSRequest

/-- The code of a call, over the interpreter and the requests. -/
abbrev Run := EStateM Stop State

/-- Code that has to do with the interpreter alone. -/
def lift {α : Type} (m : Py FSRequest α) : Run α := fun s =>
  match m s.interp with
  | .ok a t => .ok a { s with interp := t }
  | .error e t => .error e { s with interp := t }

/-- Of the request. -/
def Py_INCREF : Run Unit := modify fun s => { s with refs := s.refs + 1 }

/-- Of the request: with no reference left there is nothing to drop. -/
def Py_DECREF : Run Unit := fun s =>
  match s.refs with
  | 0 => .error .crash s
  | n + 1 => .ok () { s with refs := n }

/-- The path is the first that libuv gets. -/
def path_of (args : List CArg) : Option (List UInt8) :=
  args.findSome? fun arg =>
    match arg with
    | .path bytes => some bytes
    | _ => none

/-- The uv_fs_t that libuv fills in. -/
def Env.req (E : Env) (ty : FsType) (args : List CArg) : uv_fs_t :=
  { E.outcome.filled with fs_type := ty, path := path_of args }

/-- `ssize_t` to `int` -/
def Env.err (E : Env) : Int := integers.int.wrap E.outcome.filled.result

/-- The functions of libuv, which do the work at once when they get no callback. -/
def uv_fs (E : Env) (ty : FsType) (args : List CArg) (async : Bool) : Run Int := do
  modify fun s => { s with submitted := some (ty, args) }
  if async then return if E.at_submission ∧ E.err < 0 then E.err else 0
  else return E.err

variable (P : indicator.Python FSRequest) (mem : Memory)

/-! ## The completion function -/

/-- The fields of the FSRequest, from what libuv has filled in. -/
def fill (req : uv_fs_t) : Py FSRequest FSRequest := do
  let path ← build_s P req.path
  let (error, result) ←
    if req.result < 0 then pure (PyVal.int req.result, PyVal.None)
    else Prod.mk PyVal.None <$> process_result P mem req
  return { path, result, error }

/-- The completion of a request, with or without a callback. -/
def pyuv__process_fs_req (req : uv_fs_t) (callback : Bool) : Run Unit := do
  let done ← lift (fill P mem req)
  modify fun s => { s with completed := some done }
  lift (deliver P callback done)
  Py_DECREF

/-- libuv is done with the request of an asynchronous call. -/
def uv__fs_done (E : Env) : Run Unit := do
  let s ← get
  match s.submitted with
  | some (ty, args) => pyuv__process_fs_req P mem (E.req ty args) true
  | none => pure ()

/-! ## The calls -/

/-- `fs_req->result` of a request that is still there. -/
def result_of : Run PyVal := do
  let s ← get
  match s.refs, s.completed with
  | _ + 1, some done => return done.result
  | _, _ => throw .crash

/-- The call of libuv, and what is returned to Python. -/
def submit (E : Env) (ty : FsType) (args : List CArg) (async : Bool) : Run CallEnd := do
  let err ← uv_fs E ty args async
  if err < 0 then do
    Py_DECREF
    return .raised (.uv .FSError err)
  else do
    Py_INCREF
    if async then return .request
    else do
      pyuv__process_fs_req P mem (E.req ty args) false
      let ret ← result_of
      Py_DECREF
      return .value ret

/-- FSRequest(loop, callback), and what follows it. -/
def with_request (E : Env) (rest : Run CallEnd) : Run CallEnd :=
  match E.request with
  | .error e => return .raised e
  | .ok () => do
    modify fun s => { s with requests := s.requests + 1, refs := 1 }
    rest

/-- The callback that is left out is None. -/
def Args.callback_arg (a : Args) : CallbackArg := a.callback.getD .Py_None

/-- The functions of the module but read and write. -/
def fs_func (ty : FsType) (formats : List Format) (E : Env) (a : Args) : Run CallEnd :=
  match PyArg_ParseTupleAndKeywords formats a with
  | .error e => return .raised e
  | .ok args =>
    if a.callback_arg = .other then return .raised callable_required
    else with_request E (submit P mem E ty args (a.callback_arg ≠ .Py_None))

/-- The format of a descriptor. -/
def fd : Format := .int .l integers.uv_file

/-- The format of flags and modes. -/
def an_int : Format := .int .i integers.int

/-- The format of an offset. -/
def an_offset : Format := .int .L integers.int64_t

/-- The format of a length. -/
def a_length : Format := .int .i integers.size_t

/-- The formats of a user and a group. -/
def owner : List Format := [.int .i integers.uv_uid_t, .int .i integers.uv_gid_t]

/-- uv_fs_stat for UV_FS_STAT, and else uv_fs_lstat -/
def pyuv__fs_stat (type : FsType) := fs_func P mem (if type = .STAT then .STAT else .LSTAT) [.s]

def FS_func_stat := pyuv__fs_stat P mem .STAT

def FS_func_lstat := pyuv__fs_stat P mem .LSTAT

def FS_func_fstat := fs_func P mem .FSTAT [fd]

def FS_func_unlink := fs_func P mem .UNLINK [.s]

def FS_func_mkdir := fs_func P mem .MKDIR [.s, an_int]

def FS_func_rmdir := fs_func P mem .RMDIR [.s]

def FS_func_rename := fs_func P mem .RENAME [.s, .s]

def FS_func_chmod := fs_func P mem .CHMOD [.s, an_int]

def FS_func_fchmod := fs_func P mem .FCHMOD [fd, an_int]

def FS_func_link := fs_func P mem .LINK [.s, .s]

def FS_func_symlink := fs_func P mem .SYMLINK [.s, .s, an_int]

def FS_func_readlink := fs_func P mem .READLINK [.s]

def FS_func_chown := fs_func P mem .CHOWN (.s :: owner)

def FS_func_fchown := fs_func P mem .FCHOWN (fd :: owner)

def FS_func_open := fs_func P mem .OPEN [.s, an_int, an_int]

def FS_func_close := fs_func P mem .CLOSE [fd]

/-- The length that read is asked for. -/
def length_arg : List CArg → Int
  | [_, .int length, _] => length
  | _ => 0

/-- PyMem_Malloc has no memory for a length that is negative before it is a size_t. -/
def FS_func_read (E : Env) (a : Args) : Run CallEnd :=
  match PyArg_ParseTupleAndKeywords [fd, a_length, an_offset] a with
  | .error e => return .raised e
  | .ok args =>
    if a.callback_arg = .other then return .raised callable_required
    else with_request E (
      if E.malloc ∧ length_arg args ≤ integers.PY_SSIZE_T_MAX then
        submit P mem E .READ args (a.callback_arg ≠ .Py_None)
      else do
        Py_DECREF
        return .raised (.cpython .MemoryError))

/-- The request comes before the check of the callback. -/
def FS_func_write (E : Env) (a : Args) : Run CallEnd :=
  match PyArg_ParseTupleAndKeywords [fd, .view, an_offset] a with
  | .error e => return .raised e
  | .ok args =>
    with_request E (
      if a.callback_arg = .other then do
        Py_DECREF
        return .raised callable_required
      else submit P mem E .WRITE args (a.callback_arg ≠ .Py_None))

def FS_func_fsync := fs_func P mem .FSYNC [fd]

def FS_func_fdatasync := fs_func P mem .FDATASYNC [fd]

def FS_func_ftruncate := fs_func P mem .FTRUNCATE [fd, an_offset]

def FS_func_scandir := fs_func P mem .SCANDIR [.s]

def FS_func_sendfile := fs_func P mem .SENDFILE [fd, fd, an_offset, a_length]

def FS_func_utime := fs_func P mem .UTIME [.s, .d, .d]

def FS_func_futime := fs_func P mem .FUTIME [fd, .d, .d]

def FS_func_access := fs_func P mem .ACCESS [.s, an_int]

def FS_func_realpath := fs_func P mem .REALPATH [.s]

/-- The functions of pyuv.fs, by their names there. -/
inductive Operation where
  | stat | lstat | fstat | unlink | mkdir | rmdir | rename | chmod | fchmod | link | symlink
  | readlink | chown | fchown | open | close | read | write | fsync | fdatasync | ftruncate
  | scandir | sendfile | utime | futime | access | realpath
deriving DecidableEq

/-- The function of the extension behind each name. -/
def FS_methods : Operation → Env → Args → Run CallEnd
  | .stat => FS_func_stat P mem
  | .lstat => FS_func_lstat P mem
  | .fstat => FS_func_fstat P mem
  | .unlink => FS_func_unlink P mem
  | .mkdir => FS_func_mkdir P mem
  | .rmdir => FS_func_rmdir P mem
  | .rename => FS_func_rename P mem
  | .chmod => FS_func_chmod P mem
  | .fchmod => FS_func_fchmod P mem
  | .link => FS_func_link P mem
  | .symlink => FS_func_symlink P mem
  | .readlink => FS_func_readlink P mem
  | .chown => FS_func_chown P mem
  | .fchown => FS_func_fchown P mem
  | .open => FS_func_open P mem
  | .close => FS_func_close P mem
  | .read => FS_func_read P mem
  | .write => FS_func_write P mem
  | .fsync => FS_func_fsync P mem
  | .fdatasync => FS_func_fdatasync P mem
  | .ftruncate => FS_func_ftruncate P mem
  | .scandir => FS_func_scandir P mem
  | .sendfile => FS_func_sendfile P mem
  | .utime => FS_func_utime P mem
  | .futime => FS_func_futime P mem
  | .access => FS_func_access P mem
  | .realpath => FS_func_realpath P mem

end pyuv.fs_calls
