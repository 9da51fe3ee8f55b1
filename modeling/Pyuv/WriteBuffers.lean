-- Stream.write, Pipe.write and UDP.send, with their completion callbacks, and
-- try_write and try_send (src/stream.c, src/pipe.c, src/udp.c). Two paths, one
-- for a single buffer and one for a sequence, on one ledger of resources.
import Pyuv.Lib.Ledgers
import Pyuv.AddrTuples

set_option linter.style.nameCheck false

namespace pyuv.write_buffers

open ledgers ledgers.Ledger byte_order addr_tuples

/-! ## Buffers -/

/-- The memory of a Py_buffer. Its length is a Py_ssize_t. -/
structure Buffer where
  bytes : List UInt8
  fits : bytes.length < 2 ^ 63

/-- What PyObject_GetBuffer with PyBUF_SIMPLE gives for an object. -/
abbrev Item := Except PyErr Buffer

/-- The argument `data`: an object with the buffer interface, a str, another
sequence with what PySequence_Fast makes of it, or anything else. -/
inductive Data where
  | exporter (view : Item)
  | unicode
  | sequence (fast : Except PyErr (List Item))
  | other

/-- `base` is the memory from the pointer on, `len` is a size_t. -/
structure uv_buf_t where
  base : List UInt8
  len : Nat

/-- What is written of a buffer. -/
def uv_buf_t.bytes (buf : uv_buf_t) : List UInt8 := buf.base.take buf.len

/-- The bytes that libuv writes: the listed buffers in their order. -/
def bytesOf (bufs : List uv_buf_t) : List UInt8 := bufs.flatMap uv_buf_t.bytes

/-- libuv's uv_buf_init: the length is an unsigned int. -/
def uv_buf_init (base : List UInt8) (len : BitVec 32) : uv_buf_t := { base, len := len.toNat }

/-- The buffer of the single-buffer paths. -/
def buf_of_bytes (view : Buffer) : uv_buf_t :=
  uv_buf_init view.bytes (BitVec.ofNat 32 view.bytes.length)

/-- The buffer of the sequence paths: a Py_ssize_t assigned to a size_t. -/
def buf_of_view (view : Buffer) : uv_buf_t :=
  { base := view.bytes, len := (BitVec.ofNat 64 view.bytes.length).toNat }

/-! ## What a call takes and gives back -/

/-- The references and the memory that a call takes. `view i` is an exported
buffer, `views` the heap array of a request with more than four of them. -/
inductive Res where
  | data_fast
  | ctx
  | views
  | view (i : Nat)
  | callback
  | send_handle
  | self
  | py_errorno
  | result
deriving DecidableEq

/-- The resource that is there when the flag is set. -/
def opt (b : Bool) (r : Res) : List Res := if b then [r] else []

/-- The views with the numbers below `n`. -/
def viewsBelow (n : Nat) : List Res := (List.range n).map Res.view

/-- How the allocations and libuv answer. -/
structure Env where
  ctx_alloc : Bool
  views_alloc : Bool
  uv : List uv_buf_t → Int

/-- A stream_write_ctx or udp_send_ctx that libuv holds: `heap` when its views
are not the inline array, `callback` when it is not Py_None. -/
structure Ctx where
  view_count : Nat
  heap : Bool
  send_handle : Bool
  callback : Bool

/-- What libuv uses until the request is completed. -/
def Ctx.lent (ctx : Ctx) : List Res := .ctx :: viewsBelow ctx.view_count

/-- The end of a call: an exception before libuv was asked, an exception for
libuv's error, or None with a request under way. -/
inductive Outcome where
  | raised (e : PyErr)
  | refused (e : PyErr) (bufs : List uv_buf_t)
  | submitted (ctx : Ctx) (bufs : List uv_buf_t)

def ARRAY_SIZE_viewsml : Nat := 4
def INT_MAX : Nat := 0x7fffffff

/-! ## The two submitting functions, for streams and for UDP -/

/-- The path of a single buffer. -/
def submit_bytes (exc : ExcType) (send_handle callback : Bool) (env : Env) (data : Item)
    (L : Ledger Res) : Option (Outcome × Ledger Res) :=
  if !env.ctx_alloc then some (.raised (.cpython .MemoryError), L)
  else
    let L := acquire .ctx L
    match data with
    | .error e => do
      let L ← release .ctx L
      return (.raised e, L)
    | .ok view => do
      let L := acquire (.view 0) L
      let L := acquire .callback L
      let L := acquireAll (opt send_handle .send_handle) L
      let buf := buf_of_bytes view
      let err := env.uv [buf]
      if err < 0 then
        let L ← release .callback L
        let L ← releaseAll (opt send_handle .send_handle) L
        let L ← release (.view 0) L
        let L ← release .ctx L
        return (.refused (.uv exc err) [buf], L)
      else
        let ctx : Ctx := { view_count := 1, heap := false, send_handle, callback }
        let L ← lend ctx.lent L
        return (.submitted ctx [buf], acquire .self L)

/-- The loop over the items: the buffers, or the number of the item that
exports none, with its exception. -/
def fill_views (i : Nat) :
    List Item → Ledger Res → Except (Nat × PyErr) (List uv_buf_t) × Ledger Res
  | [], L => (.ok [], L)
  | .error e :: _, L => (.error (i, e), L)
  | .ok view :: items, L =>
    let (bufs, L) := fill_views (i + 1) items (acquire (.view i) L)
    (bufs.map (buf_of_view view :: ·), L)

/-- The label `error`, reached with `i` views filled. -/
def sequence_error (heap : Bool) (i : Nat) (L : Ledger Res) : Option (Ledger Res) := do
  let L ← releaseAll (viewsBelow i) L
  let L ← releaseAll (opt heap .views) L
  let L ← release .ctx L
  release .data_fast L

/-- The path of a sequence of buffers. -/
def submit_sequence (exc : ExcType) (send_handle callback : Bool) (env : Env)
    (fast : Except PyErr (List Item)) (L : Ledger Res) : Option (Outcome × Ledger Res) :=
  match fast with
  | .error e => some (.raised e, L)
  | .ok items =>
    let L := acquire .data_fast L
    if items.length > INT_MAX then do
      let L ← release .data_fast L
      return (.raised (.text .ValueError "iterable is too long"), L)
    else if items.length = 0 then do
      let L ← release .data_fast L
      return (.raised (.text .ValueError "iterable is empty"), L)
    else if !env.ctx_alloc then do
      let L ← release .data_fast L
      return (.raised (.cpython .MemoryError), L)
    else
      let L := acquire .ctx L
      let heap := decide (items.length > ARRAY_SIZE_viewsml)
      if heap && !env.views_alloc then do
        let L ← release .ctx L
        let L ← release .data_fast L
        return (.raised (.cpython .MemoryError), L)
      else
        let L := acquireAll (opt heap .views) L
        match fill_views 0 items L with
        | (.error (i, e), L) => do
          let L ← sequence_error heap i L
          return (.raised e, L)
        | (.ok bufs, L) => do
          let L := acquire .callback L
          let L := acquireAll (opt send_handle .send_handle) L
          let err := env.uv bufs
          if err < 0 then
            let L ← release .callback L
            let L ← releaseAll (opt send_handle .send_handle) L
            let L ← sequence_error heap items.length L
            return (.refused (.uv exc err) bufs, L)
          else
            let ctx : Ctx := { view_count := items.length, heap, send_handle, callback }
            let L ← lend ctx.lent L
            -- data_fast is not released on this path
            return (.submitted ctx bufs, acquire .self L)

/-! ## The completion callbacks -/

/-- The call of the user's callback, when there is one: `returned` when it did not raise. -/
def call_callback (callback returned : Bool) (L : Ledger Res) : Option (Ledger Res) :=
  if callback then do
    let L := acquire .py_errorno L
    let L := acquireAll (opt returned .result) L
    let L ← releaseAll (opt returned .result) L
    release .py_errorno L
  else some L

/-- Gives the error that the user's callback got, when there is a callback. -/
def complete (ctx : Ctx) (status : Int) (returned : Bool) (L : Ledger Res) :
    Option (Option (Option Int) × Ledger Res) := do
  -- libuv is done with the request and its buffers when it calls back
  let L ← reclaim ctx.lent L
  let py_errorno := if status < 0 then some status else none
  let L ← call_callback ctx.callback returned L
  let L ← release .callback L
  let L ← releaseAll (opt ctx.send_handle .send_handle) L
  let L ← releaseAll (viewsBelow ctx.view_count) L
  let L ← releaseAll (opt ctx.heap .views) L
  let L ← release .ctx L
  let L ← release .self L
  return (if ctx.callback then some py_errorno else none, L)

/-- The completion callback of a stream. -/
def pyuv__stream_write_cb (ctx : Ctx) (status : Int) (returned : Bool) (L : Ledger Res) :
    Option (Option (Option Int) × Ledger Res) :=
  complete ctx status returned L

/-- A udp_send_ctx has no send_handle. -/
def pyuv__udp_send_cb (ctx : Ctx) (status : Int) (returned : Bool) (L : Ledger Res) :
    Option (Option (Option Int) × Ledger Res) :=
  complete { ctx with send_handle := false } status returned L

/-! ## The methods -/

/-- What the methods look at of their handle. -/
structure HandleState where
  initialized : Bool
  closing : Bool
deriving DecidableEq

/-- The type that libuv keeps in an initialized stream. -/
inductive UvStreamType where
  | TCP | NAMED_PIPE | TTY
deriving DecidableEq

/-- The argument `send_handle` of Pipe.write, by its class. A stream that was
not initialized has no type. -/
inductive SendHandle where
  | Py_None
  | stream (type : Option UvStreamType)
  | udp
  | other
deriving DecidableEq

/-- RAISE_STREAM_EXCEPTION -/
def stream_exc : UvStreamType → ExcType
  | .TCP => .TCPError
  | .NAMED_PIPE => .PipeError
  | .TTY => .TTYError

/-- The path of a single buffer, for a stream. -/
def pyuv__stream_write_bytes (type : UvStreamType) (send_handle callback : Bool) :=
  submit_bytes (stream_exc type) send_handle callback

/-- The path of a sequence, for a stream. -/
def pyuv__stream_write_sequence (type : UvStreamType) (send_handle callback : Bool) :=
  submit_sequence (stream_exc type) send_handle callback

/-- The path of a single buffer, for UDP. -/
def pyuv__udp_send_bytes (callback : Bool) := submit_bytes .UDPError false callback

/-- The path of a sequence, for UDP. -/
def pyuv__udp_send_sequence (callback : Bool) := submit_sequence .UDPError false callback

/-- The checks that every method makes first, and those of the callback argument. -/
def check_handle (self : HandleState) : Except PyErr Unit :=
  if !self.initialized then .error .not_initialized
  else if self.closing then .error .handle_closed
  else .ok ()

/-- PyArg_ParseTuple, and the check of the callback. -/
def check_callback (arity_ok : Bool) (callback : CallbackArg) : Except PyErr Unit :=
  if !arity_ok then .error (.cpython .TypeError)
  else if callback = .other then
    .error (.text .TypeError "'callback' must be a callable or None")
  else .ok ()

/-- Says whether a handle goes along with the data. -/
def check_send_handle : SendHandle → Except PyErr Bool
  | .Py_None => .ok false
  | .stream (some .TCP) => .ok true
  | .stream (some .NAMED_PIPE) => .ok true
  | .stream (some .TTY) => .error (.text .TypeError "Only TCP and Pipe objects are supported")
  | .stream none => .error (.text .TypeError "Only TCP and Pipe objects are supported")
  | .udp => .ok true
  | .other => .error (.text .TypeError "Only Stream and UDP objects are supported")

/-- The exception of any other data. A str is sent away with it, too. -/
def only_bytes : PyErr := .text .TypeError "only bytes and sequences are supported"

/-- One call of a method: `arity_ok` when PyArg_ParseTuple takes the arguments. -/
structure Args where
  self : HandleState
  arity_ok : Bool
  data : Data
  callback : CallbackArg

/-- Stream.write(data, [callback]) -/
def Stream_func_write (type : UvStreamType) (env : Env) (a : Args) (L : Ledger Res) :
    Option (Outcome × Ledger Res) :=
  let callback := decide (a.callback = .callable)
  match (do check_handle a.self; check_callback a.arity_ok a.callback) with
  | .error e => some (.raised e, L)
  | .ok () => match a.data with
    | .exporter view => pyuv__stream_write_bytes type false callback env view L
    | .sequence fast => pyuv__stream_write_sequence type false callback env fast L
    | .unicode => some (.raised only_bytes, L)
    | .other => some (.raised only_bytes, L)

/-- Pipe.write(data, [callback, send_handle]) -/
def Pipe_func_write (send_handle : SendHandle) (env : Env) (a : Args) (L : Ledger Res) :
    Option (Outcome × Ledger Res) :=
  let callback := decide (a.callback = .callable)
  match (do
      check_handle a.self
      check_callback a.arity_ok a.callback
      check_send_handle send_handle) with
  | .error e => some (.raised e, L)
  | .ok send_handle => match a.data with
    | .exporter view => pyuv__stream_write_bytes .NAMED_PIPE send_handle callback env view L
    | .sequence fast => pyuv__stream_write_sequence .NAMED_PIPE send_handle callback env fast L
    | .unicode => some (.raised only_bytes, L)
    | .other => some (.raised only_bytes, L)

/-- UDP.send(addr, data, [callback]) -/
def UDP_func_send (o : ByteOrder) (inet : Inet) (addr : PyObj) (env : Env) (a : Args)
    (L : Ledger Res) : Option (Outcome × Ledger Res) :=
  let callback := decide (a.callback = .callable)
  match (do
      check_handle a.self
      check_callback a.arity_ok a.callback
      pyuv_parse_addr_tuple o inet addr) with
  | .error e => some (.raised e, L)
  | .ok _ => match a.data with
    | .exporter view => pyuv__udp_send_bytes callback env view L
    | .sequence fast => pyuv__udp_send_sequence callback env fast L
    | .unicode => some (.raised only_bytes, L)
    | .other => some (.raised only_bytes, L)

/-! ## try_write and try_send -/

/-- The end of a try: an exception before libuv was asked, or libuv's answer
for the one buffer it was offered. -/
inductive TryOutcome where
  | raised (e : PyErr)
  | tried (buf : uv_buf_t) (result : Except PyErr Int)

/-- What both do with the view that the format "y*" gave them. -/
def try_buffer (exc : ExcType) (uv : List uv_buf_t → Int) (view : Buffer) (L : Ledger Res) :
    Option (TryOutcome × Ledger Res) := do
  let buf := buf_of_bytes view
  let err := uv [buf]
  if err < 0 then
    let L ← release (.view 0) L
    return (.tried buf (.error (.uv exc err)), L)
  else
    let L ← release (.view 0) L
    return (.tried buf (.ok err), L)

/-- Stream.try_write(data) -/
def Stream_func_try_write (type : UvStreamType) (uv : List uv_buf_t → Int) (self : HandleState)
    (data : Item) (L : Ledger Res) : Option (TryOutcome × Ledger Res) :=
  match (do check_handle self; data) with
  | .error e => some (.raised e, L)
  | .ok view => try_buffer (stream_exc type) uv view (acquire (.view 0) L)

/-- UDP.try_send(addr, data) -/
def UDP_func_try_send (o : ByteOrder) (inet : Inet) (addr : PyObj) (uv : List uv_buf_t → Int)
    (self : HandleState) (data : Item) (L : Ledger Res) : Option (TryOutcome × Ledger Res) :=
  match (do check_handle self; data) with
  | .error e => some (.raised e, L)
  | .ok view =>
    let L := acquire (.view 0) L
    match pyuv_parse_addr_tuple o inet addr with
    | .error e => do
      let L ← release (.view 0) L
      return (.raised e, L)
    | .ok _ => try_buffer .UDPError uv view L

/-! ## The three methods as one -/

/-- The three methods that submit data. -/
inductive Method where
  | Stream_write (type : UvStreamType)
  | Pipe_write (send_handle : SendHandle)
  | UDP_send (o : ByteOrder) (inet : Inet) (addr : PyObj)

/-- The function of the extension behind each of them. -/
def Method.run : Method → Env → Args → Ledger Res → Option (Outcome × Ledger Res)
  | .Stream_write type => Stream_func_write type
  | .Pipe_write send_handle => Pipe_func_write send_handle
  | .UDP_send o inet addr => UDP_func_send o inet addr

/-- Its completion callback. -/
def Method.cb : Method → Ctx → Int → Bool → Ledger Res →
    Option (Option (Option Int) × Ledger Res)
  | .Stream_write _ => pyuv__stream_write_cb
  | .Pipe_write _ => pyuv__stream_write_cb
  | .UDP_send _ _ _ => pyuv__udp_send_cb

/-- The method of the same handle that does not queue what it cannot write. -/
def Method.try_run : Method → (List uv_buf_t → Int) → HandleState → Item → Ledger Res →
    Option (TryOutcome × Ledger Res)
  | .Stream_write type => Stream_func_try_write type
  | .Pipe_write _ => Stream_func_try_write .NAMED_PIPE
  | .UDP_send o inet addr => UDP_func_try_send o inet addr

/-- The class of its exception. -/
def Method.exc : Method → ExcType
  | .Stream_write type => stream_exc type
  | .Pipe_write _ => .PipeError
  | .UDP_send _ _ _ => .UDPError

/-- The checks before any data is touched. They say whether a handle goes along. -/
def Method.checks (m : Method) (a : Args) : Except PyErr Bool := do
  check_handle a.self
  check_callback a.arity_ok a.callback
  match m with
  | .Stream_write _ => return false
  | .Pipe_write send_handle => check_send_handle send_handle
  | .UDP_send o inet addr =>
    let _ ← pyuv_parse_addr_tuple o inet addr
    return false

/-- Every method makes its checks and then submits on one of the two paths. -/
theorem Method.run.spec (m : Method) (env : Env) (a : Args) (L : Ledger Res) :
    m.run env a L = match m.checks a with
      | .error e => some (.raised e, L)
      | .ok send_handle => match a.data with
        | .exporter view =>
          submit_bytes m.exc send_handle (decide (a.callback = .callable)) env view L
        | .sequence fast =>
          submit_sequence m.exc send_handle (decide (a.callback = .callable)) env fast L
        | .unicode => some (.raised only_bytes, L)
        | .other => some (.raised only_bytes, L) := by
  cases hh : check_handle a.self with
  | error e => cases m <;> simp [Method.run, Method.checks, Stream_func_write, Pipe_func_write,
      UDP_func_send, hh, bind, Except.bind]
  | ok u =>
    cases hc : check_callback a.arity_ok a.callback with
    | error e => cases m <;> simp [Method.run, Method.checks, Stream_func_write, Pipe_func_write,
        UDP_func_send, hh, hc, bind, Except.bind]
    | ok v =>
      cases m with
      | Stream_write type =>
        simp [Method.run, Method.checks, Stream_func_write, hh, hc, bind, Except.bind, pure,
          Except.pure, pyuv__stream_write_bytes, pyuv__stream_write_sequence, Method.exc]
      | Pipe_write send_handle =>
        simp [Method.run, Method.checks, Pipe_func_write, hh, hc, bind, Except.bind,
          pyuv__stream_write_bytes, pyuv__stream_write_sequence, Method.exc, stream_exc]
      | UDP_send o inet addr =>
        cases hp : pyuv_parse_addr_tuple o inet addr <;>
          simp [Method.run, Method.checks, UDP_func_send, hh, hc, hp, bind, Except.bind, pure,
            Except.pure, pyuv__udp_send_bytes, pyuv__udp_send_sequence, Method.exc]

end pyuv.write_buffers
