-- Process.spawn (Process_func_spawn in src/process.c), with the conversions of strings that it
-- uses (src/common.c): the options that it builds for uv_spawn, the memory and the references
-- that it takes for them, and the one place where it gives them back.
import Pyuv.Lib.CVectors
import Pyuv.Lib.Ends
import Pyuv.Lib.Ledgers
import Mathlib.Algebra.Group.Int.Defs
import Mathlib.Data.List.Forall2

set_option linter.style.nameCheck false

namespace pyuv.spawn

open ledgers cvectors

/-! ## The arguments -/

/-- A str, by its code points. -/
abbrev Str := List UInt32

/-- An argument that is text, as bytes or as a str. -/
inductive Text where
  | bytes (data : List UInt8)
  | str (text : Str)
deriving DecidableEq

/-- An object, as far as a string is wanted of it. -/
inductive PyObj where
  | None
  | text (t : Text)
  | other
deriving DecidableEq

/-- A sequence, by the answers of PySequence_Length and PySequence_GetItem. They raise an
exception where the length is -1 and where there is no item. -/
structure PySeq (α : Type) where
  length : Int
  item : Nat → Option α
  fits : -1 ≤ length ∧ length < 2 ^ 63

/-- A dict in the order of PyDict_Next. Its own table has more than 8 bytes for an entry. -/
structure Dict where
  entries : List (PyObj × PyObj)
  fits : entries.length + 1 < 2 ^ 60

/-- The argument `args`. -/
inductive Arguments where
  | text (t : Text)
  | sequence (s : PySeq PyObj)
  | other

/-- The argument `exit_callback`. -/
inductive Callback where
  | None
  | callable (id : Nat)
  | other
deriving DecidableEq

/-- A Stream, by where its uv_handle points. -/
structure Stream where
  uv_handle : Option Nat
deriving DecidableEq

/-- A StdIO object: a stream or a descriptor, with its flags. -/
structure StdIO where
  stream : Option Stream
  fd : Int
  flags : BitVec 32
deriving DecidableEq

/-- An item of `stdio`. -/
inductive StdioItem where
  | stdio (s : StdIO)
  | other
deriving DecidableEq

/-- The argument `stdio`. -/
inductive Stdio where
  | sequence (s : PySeq StdioItem)
  | other

/-- The argument `env`. -/
inductive EnvArg where
  | dict (d : Dict)
  | other

/-- An argument for an int. -/
inductive Number where
  | int (n : Int)
  | other
deriving DecidableEq

/-- The arguments of a call, with those that are left out. -/
structure Call where
  loop : Bool
  args : Arguments
  executable : Option PyObj
  env : Option EnvArg
  cwd : Option PyObj
  uid : Option Number
  gid : Option Number
  flags : Option Number
  stdio : Option Stdio
  exit_callback : Option Callback

/-! ## The state of a call -/

/-- What a variable that points to an object has. -/
inductive Pointer where
  | null
  | wild
  | object (o : Callback)
deriving DecidableEq

/-- The blocks that a call allocates, by the place where it does. -/
inductive Block where
  | argv
  | arg (i : Nat)
  | file
  | cwd
  | envp
  | entry (i : Nat)
  | container
deriving DecidableEq

/-- A reference to a Python object. -/
inductive Ref where
  | self
  | callback
  | stdio
  | item
  | bytes
  | key_bytes
  | value_bytes
deriving DecidableEq

/-- Memory or a reference. -/
inductive Res where
  | block (b : Block)
  | ref (r : Ref)
deriving DecidableEq

/-- A block with a string, by what comes before its last NUL. -/
structure CString where
  block : Block
  bytes : List UInt8
deriving DecidableEq

/-- The pointer to a string, or NULL. -/
def CString.slot : Option CString → Slot CString
  | none => .null
  | some p => .ptr p

/-- The union `data` of a container. -/
inductive Data where
  | unwritten
  | stream (p : Option Nat)
  | fd (n : Int)
deriving DecidableEq

/-- A container, as libuv looks at it. -/
structure uv_stdio_container_t where
  flags : BitVec 32
  data : Data
deriving DecidableEq

/-- NULL is none. -/
structure uv_process_options_t where
  file : Option CString
  args : Option (List (Slot CString))
  env : Option (List (Slot CString))
  cwd : Option CString
  flags : BitVec 32
  stdio_count : Nat
  stdio : Option (List uv_stdio_container_t)
  uid : BitVec 32
  gid : BitVec 32
deriving DecidableEq

/-- An exception. `raised` is one that CPython or Python code has raised. -/
inductive Exc where
  | TypeError (message : String)
  | ValueError (message : String)
  | MemoryError
  | ProcessError (errno : Int)
  | raised
deriving DecidableEq

/-- The new object. -/
structure Process where
  initialized : Bool
  on_exit_cb : Option Callback
  stdio : Option Stdio

/-- How the Process object goes away: its memory is freed, or uv_close is pending for it. -/
inductive Release where
  | at_once
  | by_close
deriving DecidableEq

/-- `passed` is what uv_spawn has been called with. -/
structure State where
  options : uv_process_options_t
  self : Option Process
  ledger : Ledger Res
  pending : Option Exc
  passed : Option uv_process_options_t
  released : Option Release

/-- `aborted` is a failed assertion of libuv, `crash` is everything that C leaves undefined. -/
inductive Stop where
  | goto_error
  | crash
  | aborted
deriving DecidableEq

/-- The code of a spawn, which may leave through a label, fail an ASSERT or crash. -/
abbrev Run := EStateM Stop State

/-- What a call depends on: the codec of the file system, the memory there is, and what uv_spawn
returns, none where it aborts. -/
structure Machine where
  encode : Str → Option (List UInt8)
  memory : Block → Bool
  process_alloc : Bool
  uv_spawn : uv_process_options_t → Option Int

/-- What memory has before it is written: the variable of the callback, and the blocks. -/
structure Prior where
  callback : Pointer
  block : Block → List UInt8

def INT_MAX : Nat := 2 ^ 31 - 1

def PY_SSIZE_T_MAX : Nat := 2 ^ 63 - 1

/-- A Py_ssize_t that is made a size_t. -/
def size_t (n : Int) : Nat := (n % 2 ^ 64).toNat

/-- A resource is acquired. -/
def acquire (r : Res) : Run Unit := acquire_in State.ledger (fun s L => { s with ledger := L }) r

/-- A resource is released. One that is not held is a crash. -/
def release (r : Res) : Run Unit :=
  release_in State.ledger (fun s L => { s with ledger := L }) .crash r

/-- An exception, up to where the code goes on. -/
def raise (e : Exc) : Run Unit := modify fun s => { s with pending := some e }

/-- An exception, and `goto error`. -/
def goto_error (e : Exc) {α : Type} : Run α := do
  raise e
  throw .goto_error

/-- A reference is given back. -/
def Py_DECREF (r : Ref) : Run Unit := release (.ref r)

variable (M : Machine) (prior : Prior)

/-- PyMem_Malloc gives memory for so many bytes. -/
def allocates (b : Block) (size : Nat) : Bool := decide (size ≤ PY_SSIZE_T_MAX) && M.memory b

/-- Memory, where there is some. -/
def PyMem_Malloc (b : Block) (size : Nat) : Run Bool :=
  if allocates M b size then do
    acquire (.block b)
    return true
  else pure false

/-! ## Strings -/

/-- Up to the first NUL. -/
def strlen (data : List UInt8) : Nat := (data.takeWhile (· ≠ 0)).length

/-- The bytes of an object, and none with an exception where there are none. -/
def encoding : PyObj → Option (List UInt8)
  | .text (.bytes data) => some data
  | .text (.str text) => M.encode text
  | _ => none

/-- An encoding with a NUL in it is refused. -/
def checked_output (output : List UInt8) (addr : Ref) : Run (Option (List UInt8)) :=
  if output.length ≠ strlen output then do
    raise (.TypeError "embedded NUL character")
    Py_DECREF addr
    return none
  else pure (some output)

/-- The bytes of a text in the encoding of the file system. -/
def pyuv_PyUnicode_FSConverter (arg : PyObj) (addr : Ref) : Run (Option (List UInt8)) :=
  match encoding M arg with
  | none => do
    raise .raised
    return none
  | some output => do
    acquire (.ref addr)
    checked_output output addr

/-- The copy of the bytes, whose own reference is given back. -/
def duplicated (data : List UInt8) (out : Block) (allocated : Bool) : Run (Option CString) :=
  if allocated then do
    Py_DECREF .bytes
    return some ⟨out, data⟩
  else do
    raise .MemoryError
    Py_DECREF .bytes
    return none

/-- A copy of the text in memory of its own. -/
def pyuv_dup_strobj (obj : PyObj) (out : Block) : Run (Option CString) := do
  match ← pyuv_PyUnicode_FSConverter M obj .bytes with
  | none => return none
  | some data =>
    let allocated ← PyMem_Malloc M out (data.length + 1)
    duplicated data out allocated

/-! ## args, file and cwd -/

/-- The two vectors of the options. -/
inductive Vec where
  | args
  | env
deriving DecidableEq

/-- The variable `options.args` or `options.env`. -/
def State.vector (s : State) : Vec → Option (List (Slot CString))
  | .args => s.options.args
  | .env => s.options.env

/-- That variable is written. -/
def State.set_vector (w : Vec) (v : List (Slot CString)) (s : State) : State :=
  match w with
  | .args => { s with options := { s.options with args := some v } }
  | .env => { s with options := { s.options with env := some v } }

/-- A slot of the vector is written, which must be there. -/
def write_slot (w : Vec) (i : Nat) (x : Slot CString) : Run Unit := fun s =>
  match (s.vector w).bind (write · i x) with
  | some v => .ok () (s.set_vector w v)
  | none => .error .crash s

/-- Both vectors are filled alike: the strings are stored as they come, and a NULL where there is
none, or after the last. -/
def vector_loop (w : Vec) : List (Run (Option CString)) → Nat → Run Unit
  | [], i => write_slot w i .null
  | x :: xs, i => do
    let p ← x
    write_slot w i (CString.slot p)
    match p with
    | none => throw .goto_error
    | some _ => vector_loop w xs (i + 1)

/-- The vector is filled, once there is memory for it. -/
def filled_vector (w : Vec) (xs : List (Run (Option CString))) (slots : Nat)
    (allocated : Bool) : Run Unit :=
  if allocated then do
    modify (State.set_vector w (building [] slots))
    vector_loop w xs 0
  else goto_error .MemoryError

/-- One item of `args`. -/
def arg_item (i : Nat) (item : Option PyObj) : Run (Option CString) :=
  match item with
  | none => do
    raise .raised
    return none
  | some obj => do
    acquire (.ref .item)
    let p ← pyuv_dup_strobj M obj (.arg i)
    Py_DECREF .item
    return p

/-- The slots of a block for `n` pointers. -/
def slots (n : Int) : Nat := size_t (8 * n) / 8

/-- The part of the function that makes `options.args`. -/
def process_args (arguments : Arguments) : Run Unit :=
  match arguments with
  | .text t => do
    let allocated ← PyMem_Malloc M .argv (8 * 2)
    filled_vector .args [pyuv_dup_strobj M (.text t) (.arg 0)] 2 allocated
  | .sequence s =>
    if s.length < 1 then goto_error (.ValueError "'args' must contain at least one element")
    else do
      let allocated ← PyMem_Malloc M .argv (size_t (8 * (s.length + 1)))
      filled_vector .args ((List.range s.length.toNat).map fun i => arg_item M i (s.item i))
        (slots (s.length + 1)) allocated
  | .other => goto_error (.ValueError "'args' must contain at least one element")

/-- `options.file` is written. -/
def set_file (p : Option CString) : Run Unit :=
  match p with
  | none => throw .goto_error
  | some p => modify fun s => { s with options := { s.options with file := some p } }

/-- The copy of the first argument, where there is memory for it. -/
def copied_file (bytes : List UInt8) (allocated : Bool) : Run Unit :=
  if allocated then set_file (some ⟨.file, bytes⟩) else goto_error .MemoryError

/-- The part that makes `options.file`: the executable, or else the first argument. -/
def process_file (executable : PyObj) : Run Unit := do
  match executable with
  | .None =>
    let s ← get
    match s.options.args with
    | some (.ptr arg0 :: _) =>
      let allocated ← PyMem_Malloc M .file (strlen arg0.bytes + 1)
      copied_file (arg0.bytes.take (strlen arg0.bytes)) allocated
    | _ => throw .crash
  | executable =>
    let p ← pyuv_dup_strobj M executable .file
    set_file p

/-- `options.cwd` is written. -/
def set_cwd (p : Option CString) : Run Unit :=
  match p with
  | none => throw .goto_error
  | some p => modify fun s => { s with options := { s.options with cwd := some p } }

/-- The part that makes `options.cwd`. -/
def process_cwd (cwd : PyObj) : Run Unit :=
  match cwd with
  | .None => pure ()
  | cwd => do
    let p ← pyuv_dup_strobj M cwd .cwd
    set_cwd p

/-! ## env -/

/-- The text of an entry, which ends in a NULL of its own. Nothing is written to a block of more
than INT_MAX - 1 bytes. -/
def PyOS_snprintf (b : Block) (size : Nat) (text : List UInt8) : List UInt8 :=
  if size ≤ INT_MAX - 1 then text else prior.block b

/-- The entry of a key and its value. -/
def entry_text (key value : List UInt8) : List UInt8 := key ++ 0x3d :: value

/-- The entry is printed into its memory. -/
def entry_written (i : Nat) (key value : List UInt8) (allocated : Bool) : Run (Option CString) :=
  if allocated then do
    Py_DECREF .key_bytes
    Py_DECREF .value_bytes
    return some ⟨.entry i,
      PyOS_snprintf prior (.entry i) (key.length + value.length + 2) (entry_text key value)⟩
  else do
    raise .MemoryError
    Py_DECREF .key_bytes
    Py_DECREF .value_bytes
    return none

/-- The value of an entry whose key is encoded. -/
def entry_value (i : Nat) (key : List UInt8) (value : PyObj) : Run (Option CString) := do
  match ← pyuv_PyUnicode_FSConverter M value .value_bytes with
  | none =>
    Py_DECREF .key_bytes
    return none
  | some value =>
    let allocated ← PyMem_Malloc M (.entry i) (key.length + value.length + 2)
    entry_written prior i key value allocated

/-- One entry of `env`. -/
def env_entry (i : Nat) (key value : PyObj) : Run (Option CString) := do
  match ← pyuv_PyUnicode_FSConverter M key .key_bytes with
  | none => return none
  | some key => entry_value M prior i key value

/-- The part that makes `options.env`: an empty dict makes none. -/
def process_env (env : Option Dict) : Run Unit :=
  match env with
  | none => pure ()
  | some d =>
    if d.entries.length > 0 then do
      let allocated ← PyMem_Malloc M .envp (8 * (d.entries.length + 1))
      filled_vector .env (d.entries.mapIdx fun i e => env_entry M prior i e.1 e.2)
        (d.entries.length + 1) allocated
    else pure ()

/-! ## stdio -/

def UV_CREATE_PIPE : BitVec 32 := 0x01
def UV_INHERIT_FD : BitVec 32 := 0x02
def UV_INHERIT_STREAM : BitVec 32 := 0x04

/-- The handle of a stream is read through the pointer to it. -/
def container_of (s : StdIO) : Run uv_stdio_container_t :=
  if s.flags &&& (UV_CREATE_PIPE ||| UV_INHERIT_STREAM) ≠ 0 then
    match s.stream with
    | some stream => pure ⟨s.flags, .stream stream.uv_handle⟩
    | none => throw .crash
  else if s.flags &&& UV_INHERIT_FD ≠ 0 then pure ⟨s.flags, .fd s.fd⟩
  else pure ⟨s.flags, .unwritten⟩

/-- One item, and none where it is not a StdIO. stdio_count is an int. -/
def stdio_item (slots i : Nat) (item : Option StdioItem) : Run uv_stdio_container_t :=
  match item with
  | some (.stdio s) =>
    if i < slots ∧ i < INT_MAX then do
      acquire (.ref .item)
      let container ← container_of s
      Py_DECREF .item
      return container
    else throw .crash
  | some .other => do
    acquire (.ref .item)
    Py_DECREF .item
    goto_error (.TypeError "a StdIO instance is required")
  | none => goto_error (.TypeError "a StdIO instance is required")

/-- The containers of the items from `i` on. -/
def stdio_loop (item : Nat → Option StdioItem) (slots : Nat) :
    Nat → Nat → Run (List uv_stdio_container_t)
  | 0, _ => pure []
  | n + 1, i => do
    let container ← stdio_item slots i (item i)
    let rest ← stdio_loop item slots n (i + 1)
    return container :: rest

/-- PySequence_Length, -1 for what is no sequence. -/
def Stdio.length : Stdio → Int
  | .sequence s => s.length
  | .other => -1

/-- PySequence_GetItem -/
def Stdio.item : Stdio → Nat → Option StdioItem
  | .sequence s => s.item
  | .other => fun _ => none

/-- The containers, once there is memory for them. -/
def stdio_containers (stdio : Stdio) (allocated : Bool) : Run (List uv_stdio_container_t) :=
  if allocated then
    stdio_loop stdio.item (size_t (16 * stdio.length) / 16) stdio.length.toNat 0
  else goto_error .MemoryError

/-- `options.stdio` and `options.stdio_count` are written. -/
def set_stdio (stdio_container : Option (List uv_stdio_container_t)) (stdio_count : Nat) :
    Run Unit :=
  modify fun s =>
    { s with options := { s.options with stdio := stdio_container, stdio_count } }

/-- The part that makes the containers. -/
def process_stdio (stdio : Option Stdio) : Run Unit :=
  match stdio with
  | none => set_stdio none 0
  | some stdio => do
    let allocated ← PyMem_Malloc M .container (size_t (16 * stdio.length))
    let containers ← stdio_containers stdio allocated
    set_stdio (some containers) containers.length

/-! ## Process.spawn -/

/-- The variables that PyArg_ParseTuple has filled in. -/
structure Vars where
  arguments : Arguments
  executable : PyObj
  env : Option Dict
  cwd : PyObj
  uid : BitVec 32
  gid : BitVec 32
  flags : BitVec 32
  stdio : Option Stdio
  callback : Pointer

/-- `env` has to be a dict. -/
def env_var : Option EnvArg → Option (Option Dict)
  | none => some none
  | some (.dict d) => some (some d)
  | some .other => none

/-- The format I, which takes an int of any size. -/
def unsigned_var : Option Number → Option (BitVec 32)
  | none => some 0
  | some (.int n) => some (BitVec.ofInt 32 n)
  | some .other => none

/-- The format i. -/
def int_var : Option Number → Option (BitVec 32)
  | none => some 0
  | some (.int n) => if -2 ^ 31 ≤ n ∧ n < 2 ^ 31 then some (BitVec.ofInt 32 n) else none
  | some .other => none

/-- None where the parser has raised an exception. -/
def PyArg_ParseTupleAndKeywords (call : Call) : Option Vars := do
  guard call.loop
  let env ← env_var call.env
  let uid ← unsigned_var call.uid
  let gid ← unsigned_var call.gid
  let flags ← int_var call.flags
  return {
    arguments := call.args
    executable := call.executable.getD .None
    env
    cwd := call.cwd.getD .None
    uid
    gid
    flags
    stdio := call.stdio
    callback := (call.exit_callback.map Pointer.object).getD prior.callback }

/-- It looks at the object, whatever the pointer is. -/
def PyCallable_Check : Pointer → Run Bool
  | .null => pure false
  | .wild => throw .crash
  | .object (.callable _) => pure true
  | .object _ => pure false

/-- The test of `exit_callback`. -/
def None_or_callable (callback : Pointer) : Run Bool :=
  if callback = .object .None then pure true else PyCallable_Check callback

/-- A new object with the loop. The handle is not initialized before uv_spawn. -/
def initialize_process (vars : Vars) : Run Unit := do
  acquire (.ref .self)
  modify fun s => { s with
    self := some ⟨false, none, none⟩
    options := { s.options with uid := vars.uid, gid := vars.gid, flags := vars.flags } }

/-- A field of the new object is written. -/
def set_self (f : Process → Process) : Run Unit :=
  modify fun s => { s with self := s.self.map f }

/-- The process object counts as initialized before libuv is called. -/
def call_uv_spawn : Run Unit := do
  set_self fun self => { self with initialized := true }
  modify fun s => { s with passed := some s.options }
  let s ← get
  match M.uv_spawn s.options with
  | none => throw .aborted
  | some err => if err < 0 then goto_error (.ProcessError err) else pure ()

/-- A reference to what a pointer points to. -/
def Py_INCREF (r : Ref) (p : Pointer) : Run (Option Callback) :=
  match p with
  | .object o => do
    acquire (.ref r)
    return some o
  | _ => throw .crash

/-- The reference to the argument `stdio`. -/
def Py_XINCREF_stdio (stdio : Option Stdio) : Run Unit :=
  match stdio with
  | none => pure ()
  | some _ => acquire (.ref .stdio)

/-- What is kept of the arguments in the new object. -/
def store (vars : Vars) : Run Unit := do
  let callback ← Py_INCREF .callback vars.callback
  set_self fun self => { self with on_exit_cb := callback }
  Py_XINCREF_stdio vars.stdio
  set_self fun self => { self with stdio := vars.stdio }
  acquire (.ref .self)

/-- All that is done before the containers. -/
def prepare (vars : Vars) : Run Unit := do
  process_args M vars.arguments
  process_file M vars.executable
  process_cwd M vars.cwd
  process_env M prior vars.env

/-- From the containers to the new object. -/
def start (vars : Vars) : Run Unit := do
  process_stdio M vars.stdio
  call_uv_spawn M
  store vars

/-- The body of the function up to its label. -/
def attempt (vars : Vars) : Run Bool := do
  prepare M prior vars
  start M vars
  return true

/-- The last reference to the object. -/
def Py_DECREF_self : Run Unit := do
  Py_DECREF .self
  modify fun s => { s with
    released := s.self.map fun self => if self.initialized then .by_close else .at_once }

/-- The label error. -/
def error_label : Stop → Run Bool
  | .goto_error => do
    Py_DECREF_self
    return false
  | stop => throw stop

/-- The memory of a string, where there is one. -/
def PyMem_Free (p : Option CString) : Run Unit :=
  match p with
  | none => pure ()
  | some p => release (.block p.block)

/-- The loop over a vector, up to the NULL. -/
def free_strings : List (Slot CString) → Run Unit
  | .ptr p :: v => do
    PyMem_Free (some p)
    free_strings v
  | .null :: _ => pure ()
  | _ => throw .crash

/-- The strings of a vector, and the vector. -/
def free_vector (block : Block) (v : Option (List (Slot CString))) : Run Unit :=
  match v with
  | none => pure ()
  | some v => do
    free_strings v
    release (.block block)

/-- The containers. -/
def free_stdio (stdio : Option (List uv_stdio_container_t)) : Run Unit :=
  match stdio with
  | none => pure ()
  | some _ => release (.block .container)

/-- The label cleanup. -/
def cleanup : Run Unit := do
  let s ← get
  free_vector .argv s.options.args
  free_vector .envp s.options.env
  PyMem_Free s.options.cwd
  PyMem_Free s.options.file
  free_stdio s.options.stdio

/-- The body, the label `error`, and the cleanup. -/
def spawn_process (vars : Vars) : Run Bool := do
  initialize_process vars
  let ret ← tryCatch (attempt M prior vars) error_label
  cleanup
  return ret

/-- An exception before anything is made. -/
def refuse (e : Exc) : Run Bool := do
  raise e
  return false

/-- `args` is a text or a sequence. -/
def Arguments.supported : Arguments → Bool
  | .other => false
  | _ => true

/-- `stdio` is a sequence, where it is given. -/
def stdio_supported : Option Stdio → Bool
  | some .other => false
  | _ => true

/-- The checks of the types, and the body. -/
def spawn_checked (vars : Vars) (callable : Bool) : Run Bool :=
  if !callable then refuse (.TypeError "a callable is required")
  else if !vars.arguments.supported then
    refuse (.TypeError "only string or iterable objects are supported for 'args'")
  else if !stdio_supported vars.stdio then
    refuse (.TypeError "only iterable objects are supported for 'stdio'")
  else if !M.process_alloc then refuse .MemoryError
  else spawn_process M prior vars

/-- Whether the call returns the object, and NULL otherwise. -/
def Process_func_spawn (call : Call) : Run Bool :=
  match PyArg_ParseTupleAndKeywords prior call with
  | none => refuse .raised
  | some vars => do
    let callable ← None_or_callable vars.callback
    spawn_checked M prior vars callable

/-- The state that a call begins in. -/
def State.initial (L : Ledger Res) : State where
  options := {
    file := none, args := none, env := none, cwd := none, flags := 0, stdio_count := 0
    stdio := none, uid := 0, gid := 0 }
  self := none
  ledger := L
  pending := none
  passed := none
  released := none

/-- Memory for everything, and a child for every call. -/
def Machine.willing : Machine where
  encode text := some (text.map UInt32.toUInt8)
  memory _ := true
  process_alloc := true
  uv_spawn _ := some 0

/-- `Process.spawn(loop, b"ls", exit_callback=None)` -/
def Call.plain : Call where
  loop := true
  args := .text (.bytes [0x6c, 0x73])
  executable := none
  env := none
  cwd := none
  uid := none
  gid := none
  flags := none
  stdio := none
  exit_callback := some .None

end pyuv.spawn
