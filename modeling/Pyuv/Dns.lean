-- dns.getaddrinfo and dns.getnameinfo (src/dns.c): what they hold of Python and of libuv on each of
-- their ways out, and the callbacks that complete their requests.
import Pyuv.AddrTuples
import Pyuv.Integers
import Pyuv.Lib.Ends
import Pyuv.Lib.Ledgers
import Pyuv.Lib.Utf8

set_option linter.style.nameCheck false

namespace pyuv.dns

open ends ledgers ledgers.Ledger addr_tuples byte_order

/-! ## What a call holds -/

/-- The list of libuv, the encodings of the host and of the service, and the references of the
request to its loop and its callback. -/
inductive Res where
  | addrinfo
  | idna
  | ascii
  | loop
  | callback
deriving DecidableEq

/-- The ways out of a function: its error label, a return in its middle, and memory that is not
there. -/
inductive Stop where
  | goto_error
  | return_null
  | crash

/-- The AddrinfoResult of one address. -/
structure Item where
  family : Int
  socktype : Int
  protocol : Int
  canonname : Option (List Char)
  addr : PyObj

/-- What a request or a synchronous call comes to. -/
inductive Value where
  | addresses (items : List Item)
  | names (host service : List Char)

/-- What libuv is asked for. -/
inductive Query where
  | getaddrinfo (host service : Option (List UInt8)) (hints : List Int)
  | getnameinfo (addr : sockaddr) (flags : List Int)

/-- `refs` counts the references to the request, 0 where there is none. `idna`, `ascii` and `req`
say which of the variables are not NULL. `submitted` and `called` are what libuv and the callback
get. -/
structure State where
  ledger : Ledger Res
  refs : Nat
  idna : Bool
  ascii : Bool
  req : Bool
  pending : Option PyErr
  submitted : Option Query
  called : Option (Except Int Value)

/-- The code of a call, which may leave through one of its labels. -/
abbrev Run := EStateM Stop State

/-- What a call gives back: an exception, a value, or its request. -/
inductive CallEnd where
  | raised
  | value (v : Value)
  | request

/-- A resource is acquired. -/
def hold (r : Res) : Run Unit := acquire_in State.ledger (fun s L => { s with ledger := L }) r

/-- A resource is released. One that is not held is a crash. -/
def drop (r : Res) : Run Unit :=
  release_in State.ledger (fun s L => { s with ledger := L }) .crash r

/-- PyErr_SetString and the like, up to where the code goes on. -/
def set_exception (e : PyErr) : Run Unit := modify fun s => { s with pending := some e }

/-- An exception, and `goto error`. -/
def fail {α : Type} (e : PyErr) : Run α := do
  set_exception e
  throw .goto_error

/-- An exception, and `return NULL`. -/
def return_null {α : Type} (e : PyErr) : Run α := do
  set_exception e
  throw .return_null

/-- An exception at the end of a call. -/
def raise_error (e : PyErr) : Run CallEnd := do
  set_exception e
  return .raised

/-! ## Requests -/

/-- A new request refers to its loop and its callback. -/
def make_request : Run Unit := do
  hold .loop
  hold .callback
  modify fun s => { s with refs := 1, req := true }

/-- Of the request. -/
def Py_INCREF : Run Unit := modify fun s => { s with refs := s.refs + 1 }

/-- With its last reference a request gives back its own. -/
def Py_DECREF : Run Unit := fun s =>
  match s.refs with
  | 0 => .error .crash s
  | 1 => (drop .callback >>= fun _ => drop .loop : Run Unit) { s with refs := 0 }
  | n + 2 => .ok () { s with refs := n + 1 }

/-! ## getaddrinfo -/

/-- An argument of the format "O", as the function looks at it. -/
inductive PyArg where
  | Py_None
  | str (text : List Char)
  | bytes (b : List UInt8)
  | int (n : Int)
  | other

/-- The arguments of getaddrinfo. `loop` tells whether the first is a Loop, none is an int that is
left out. -/
structure GaiArgs where
  loop : Bool
  host : PyArg
  service : Option PyArg
  hints : List (Option Int)
  callback : Option CallbackArg

/-- A code that libuv returns for an error. -/
structure Errno where
  n : Int
  negative : n < 0

/-- An entry of the list that getaddrinfo allocates. One with no length has no address. -/
structure addrinfo where
  ai_family : Int
  ai_socktype : Int
  ai_protocol : Int
  ai_canonname : Option (List UInt8)
  ai_addr : Option sockaddr

/-- The codecs, the memory, and what libuv answers: whether it takes the request, what the resolver
comes to, and whether the request is cancelled before it gets there. `item_alloc` counts the items
that there is memory for. -/
structure GaiEnv where
  idna : List Char → Except PyErr (List UInt8)
  ascii : List Char → Except PyErr (List UInt8)
  request_alloc : Bool
  list_alloc : Bool
  item_alloc : Nat
  refused : Option Errno
  answer : Except Errno (List addrinfo)
  cancelled : Bool

variable (o : ByteOrder) (inet : Inet)

def UV_ENOMEM : Int := -12
def UV_EAI_CANCELED : Int := -3003

/-- The answer to a request that was cancelled. -/
def canceled : Errno := ⟨UV_EAI_CANCELED, by decide⟩

/-- A string for libuv, which is NULL for None, and whether it is one of an encoding. -/
inductive CStr where
  | got (s : Option (List UInt8)) (encoded : Bool)
  | unencoded (e : PyErr)
  | refused (e : PyErr)

/-- The bytes of a str in a codec, which are a new reference. -/
def encode (codec : List Char → Except PyErr (List UInt8)) (text : List Char) : CStr :=
  match codec text with
  | .ok b => .got (some b) true
  | .error e => .unencoded e

/-- The argument `host`, by its type. -/
def host_of (E : GaiEnv) : PyArg → CStr
  | .Py_None => .got none false
  | .str text => encode E.idna text
  | .bytes b => .got (some b) false
  | _ => .refused (.text .TypeError "getaddrinfo() argument 3 must be string or None")

/-- The text of a port, for "%ld". -/
def port_str (port : Int) : List UInt8 :=
  (Nat.toDigits 10 port.toNat).map fun c => UInt8.ofNat c.toNat

/-- The argument `port`, by its type. A number is written out in decimals. -/
def service_of (E : GaiEnv) : PyArg → CStr
  | .Py_None => .got none false
  | .str text => encode E.ascii text
  | .bytes b => .got (some b) false
  | .int n =>
    let port := (integers.PyLong_AsLong n).1.val
    if port < 0 ∨ 0xffff < port then
      .refused (.text .ValueError "port must be between 0 and 65535")
    else .got (some (port_str port)) false
  | .other => .refused (.text .TypeError "getaddrinfo() argument 4 must be string or int")

/-- The variable `idna` gets the encoding of the host, where there is one. -/
def take_idna : CStr → Run (Option (List UInt8))
  | .got s true => do
    hold .idna
    modify fun s => { s with idna := true }
    return s
  | .got s false => return s
  | .unencoded e => return_null e
  | .refused e => fail e

/-- The variable `ascii` gets that of the service. -/
def take_ascii : CStr → Run (Option (List UInt8))
  | .got s true => do
    hold .ascii
    modify fun s => { s with ascii := true }
    return s
  | .got s false => return s
  | .unencoded e => return_null e
  | .refused e => fail e

/-- The callback has to be callable or None. -/
def check_callback (callback : CallbackArg) : Run Unit :=
  if callback = .other then fail (.text .TypeError "'callback' must be a callable or None")
  else pure ()

/-- Py_XDECREF(idna) -/
def xdecref_idna : Run Unit := do
  if (← get).idna then drop .idna

/-- Py_XDECREF(ascii) -/
def xdecref_ascii : Run Unit := do
  if (← get).ascii then drop .ascii

/-- Py_XDECREF(req) -/
def xdecref_req : Run Unit := do
  if (← get).req then Py_DECREF

/-- The label `error`. -/
def error_label : Stop → Run CallEnd
  | .goto_error => do
    xdecref_idna
    xdecref_ascii
    xdecref_req
    return .raised
  | e => throw e

/-- A return in the middle of the function gives nothing back. -/
def returned_null : Stop → Run CallEnd
  | .return_null => return .raised
  | e => throw e

/-- What the thread of a request, or the call itself, gets from the system. -/
def uv__getaddrinfo_work (E : GaiEnv) : Run (Int × List addrinfo) :=
  match E.answer with
  | .error e => return (e.n, [])
  | .ok [] => return (0, [])
  | .ok (ai :: ais) => do
    hold .addrinfo
    return (0, ai :: ais)

/-- The answer of libuv to a request that it does not take. -/
def not_taken (E : GaiEnv) (host service : Option (List UInt8)) : Option Int :=
  if host = none ∧ service = none then some UV_EINVAL else E.refused.map Errno.n

/-- A request goes to the thread pool, and a call without a callback works at once. -/
def uv_getaddrinfo (E : GaiEnv) (async : Bool) (host service : Option (List UInt8)) :
    Run (Int × List addrinfo) :=
  match not_taken E host service with
  | some err => return (err, [])
  | none => if async then return (0, []) else uv__getaddrinfo_work E

/-- The list is NULL, or it is freed. -/
def uv_freeaddrinfo : List addrinfo → Run Unit
  | [] => pure ()
  | _ :: _ => drop .addrinfo

/-- The result for an address, none where there is no address in it. -/
def item_of (ai : addrinfo) : Option Item :=
  ai.ai_addr.map fun addr =>
    { family := ai.ai_family
      socktype := ai.ai_socktype
      protocol := ai.ai_protocol
      canonname := utf8.decode (ai.ai_canonname.getD [])
      addr := makesockaddr o inet addr }

/-- The list of the results, which ends at the first that cannot be made. -/
def pyuv__getaddrinfo_process_result (E : GaiEnv) (status : Int) (res : List addrinfo) :
    Except Int Value :=
  if status ≠ 0 then .error status
  else if E.list_alloc then .ok (.addresses ((res.filterMap (item_of o inet)).take E.item_alloc))
  else .error UV_ENOMEM

/-- The callback gets the list, or the status; then the list of the system and the request go. -/
def pyuv__getaddrinfo_cb (E : GaiEnv) (status : Int) (res : List addrinfo) : Run Unit := do
  let result := pyuv__getaddrinfo_process_result o inet E status res
  modify fun s => { s with called := some result }
  uv_freeaddrinfo res
  Py_DECREF

/-- What a call without a callback makes of the result. -/
def return_result : Except Int Value → Run CallEnd
  | .ok v => return .value v
  | .error err => raise_error (.uv .UVError err)

/-- The end of the call, once libuv has taken the request. The list of a synchronous one is not
freed. -/
def finish (E : GaiEnv) (async : Bool) (res : List addrinfo) : Run CallEnd := do
  xdecref_idna
  xdecref_ascii
  if async then do
    Py_INCREF
    return .request
  else do
    Py_DECREF
    return_result (pyuv__getaddrinfo_process_result o inet E 0 res)

/-- The call of libuv, and what the call does with its answer. -/
def submit (E : GaiEnv) (async : Bool) (host service : Option (List UInt8)) (hints : List Int) :
    Run CallEnd := do
  modify fun s => { s with submitted := some (.getaddrinfo host service hints) }
  let (err, res) ← uv_getaddrinfo E async host service
  if err < 0 then fail (.uv .UVError err) else finish o inet E async res

/-- The request object, which may not be made. -/
def new_request (E : GaiEnv) : Run Unit :=
  if E.request_alloc then make_request else fail (.cpython .MemoryError)

/-- The body of getaddrinfo up to its label. -/
def attempt (E : GaiEnv) (args : GaiArgs) (hints : List Int) : Run CallEnd := do
  let callback := args.callback.getD .Py_None
  let host ← take_idna (host_of E args.host)
  check_callback callback
  let service ← take_ascii (service_of E (args.service.getD .Py_None))
  new_request E
  submit o inet E (callback ≠ .Py_None) host service hints

/-- getaddrinfo as a whole, with the formats of its arguments first. -/
def Util_func_getaddrinfo (E : GaiEnv) (args : GaiArgs) : Run CallEnd :=
  match args.loop, integers.pass_all integers.Util_func_getaddrinfo.positions args.hints with
  | true, .ok hints => tryCatch (tryCatch (attempt o inet E args hints) error_label) returned_null
  | _, _ => raise_error (.cpython .TypeError)

/-- The work of a request, and its callback. -/
def getaddrinfo_completion (E : GaiEnv) : Run Unit :=
  if E.cancelled then pyuv__getaddrinfo_cb o inet E canceled.n []
  else do
    let (status, res) ← uv__getaddrinfo_work E
    pyuv__getaddrinfo_cb o inet E status res

/-! ## getnameinfo -/

/-- The arguments of getnameinfo. -/
structure GniArgs where
  loop : Bool
  addr : PyObj
  hints : List (Option Int)
  callback : Option CallbackArg

/-- How the allocations, libuv and the system answer a call of getnameinfo. -/
structure GniEnv where
  request_alloc : Bool
  tuple_alloc : Bool
  refused : Option Errno
  answer : Except Errno (List UInt8 × List UInt8)
  cancelled : Bool

/-- What pyuv__getnameinfo_process_result builds of a success. Its test for NULL looks at another
pointer, so an error is not seen. -/
def build_names (E : GniEnv) (names : List UInt8 × List UInt8) : Except PyErr Value :=
  match utf8.decode names.1, utf8.decode names.2 with
  | some host, some service =>
    if E.tuple_alloc then .ok (.names host service) else .error (.cpython .MemoryError)
  -- a UnicodeDecodeError is a ValueError
  | _, _ => .error (.cpython .ValueError)

/-- The NULL of names that cannot be built ends the arguments of the callback, and has no reference
to give back. -/
def pyuv__getnameinfo_cb (E : GniEnv) : Except Errno (List UInt8 × List UInt8) → Run Unit
  | .error e => do
    modify fun s => { s with called := some (.error e.n) }
    Py_DECREF
  | .ok names =>
    match build_names E names with
    | .ok v => do
      modify fun s => { s with called := some (.ok v) }
      Py_DECREF
    | .error _ => throw .crash

/-- The end of the call, once libuv has taken the request. A synchronous one keeps it. -/
def finish_names (E : GniEnv) (async : Bool) (names : List UInt8 × List UInt8) : Run CallEnd :=
  if async then do
    Py_INCREF
    return .request
  else
    match build_names E names with
    | .ok v => return .value v
    | .error e => raise_error e

/-- The names of a request that is only submitted are not read. -/
def uv_getnameinfo (E : GniEnv) (async : Bool) : Except Errno (List UInt8 × List UInt8) :=
  match E.refused with
  | some e => .error e
  | none => if async then .ok ([], []) else E.answer

/-- The call of libuv, and what getnameinfo does with its answer. -/
def submit_names (E : GniEnv) (async : Bool) (addr : sockaddr) (flags : List Int) :
    Run CallEnd := do
  make_request
  modify fun s => { s with submitted := some (.getnameinfo addr flags) }
  match uv_getnameinfo E async with
  | .error e => do
    set_exception (.uv .UVError e.n)
    xdecref_req
    return .raised
  | .ok names => finish_names E async names

/-- getnameinfo as a whole. -/
def Util_func_getnameinfo (E : GniEnv) (args : GniArgs) : Run CallEnd :=
  let callback := args.callback.getD .Py_None
  match args.loop, integers.pass_all integers.Util_func_getnameinfo.positions args.hints with
  | true, .ok flags =>
    if callback = .other then
      raise_error (.text .TypeError "'callback' must be a callable or None")
    else
      match pyuv_parse_addr_tuple o inet args.addr with
      | .error e => raise_error e
      | .ok ss =>
        if E.request_alloc then submit_names E (callback ≠ .Py_None) ss flags
        else raise_error (.cpython .MemoryError)
  | _, _ => raise_error (.cpython .TypeError)

/-- The work of a request, and its callback. -/
def getnameinfo_completion (E : GniEnv) : Run Unit :=
  if E.cancelled then pyuv__getnameinfo_cb E (.error canceled)
  else pyuv__getnameinfo_cb E E.answer

end pyuv.dns
