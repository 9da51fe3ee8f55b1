-- The integers that the functions of the module pass to libuv (src/src): the format that converts a
-- Python int to a variable in C, and the type of libuv's parameter, to which the variable is
-- converted. Sizes are those of LP64.
import Pyuv.Lib.CInts
import Mathlib.Tactic.NormNum

set_option linter.style.nameCheck false

namespace pyuv.integers

open cints

def int : IntType := ⟨32, true⟩
def unsigned_int : IntType := ⟨32, false⟩
def long : IntType := ⟨64, true⟩
def unsigned_long : IntType := ⟨64, false⟩
def long_long : IntType := ⟨64, true⟩
def int64_t : IntType := ⟨64, true⟩
def size_t : IntType := ⟨64, false⟩
def uv_file : IntType := int
def uv_os_sock_t : IntType := int
def uv_uid_t : IntType := unsigned_int
def uv_gid_t : IntType := unsigned_int

/-- An enum without negative constants. -/
def enum : IntType := unsigned_int

/-- The length above which there is no bytes object. -/
def PY_SSIZE_T_MAX : Int := 2 ^ 63 - 1

/-- The range of an int, written out. -/
theorem int_holds_iff (n : Int) : int.Holds n ↔ -2 ^ 31 ≤ n ∧ n < 2 ^ 31 := by
  unfold IntType.Holds IntType.low IntType.modulus int
  norm_num

/-- The range of an unsigned int. -/
theorem unsigned_int_holds_iff (n : Int) : unsigned_int.Holds n ↔ 0 ≤ n ∧ n < 2 ^ 32 := by
  unfold IntType.Holds IntType.low IntType.modulus unsigned_int
  norm_num

/-- The range of a long. -/
theorem long_holds_iff (n : Int) : long.Holds n ↔ -2 ^ 63 ≤ n ∧ n < 2 ^ 63 := by
  unfold IntType.Holds IntType.low IntType.modulus long
  norm_num

/-- An exception of an int that is refused, or one from elsewhere. -/
inductive Exc where
  | OverflowError
  | MemoryError
  | TypeError (message : String)
  | ValueError (message : String)
  | raised (id : Nat)
deriving DecidableEq

/-! ## From Python to C -/

/-- What is returned, which is -1 for an int that does not fit, and the exception that is set. -/
def PyLong_AsLong (n : Int) : Value long × Option Exc :=
  if h : long.Holds n then (⟨n, h⟩, none) else (⟨-1, by decide⟩, some .OverflowError)

/-- The number, or -1 and an exception where it does not fit. -/
def PyLong_AsLongLong (n : Int) : Value long_long × Option Exc :=
  if h : long_long.Holds n then (⟨n, h⟩, none) else (⟨-1, by decide⟩, some .OverflowError)

/-- The low bits of the number, whatever it is. -/
def PyLong_AsUnsignedLongMask (n : Int) : Value unsigned_long :=
  ⟨unsigned_long.wrap n, unsigned_long.wrap_holds n⟩

/-- The formats of PyArg_ParseTuple for an int. -/
inductive Format where
  | i
  | I
  | l
  | L
deriving DecidableEq

/-- The C type of the variable that a format fills in. -/
def Format.type : Format → IntType
  | .i => int
  | .I => unsigned_int
  | .l => long
  | .L => long_long

/-- `v` is -1 and an exception is set. -/
def checked {T : IntType} (r : Value T × Option Exc) : Except Exc (Value T) :=
  match r.2 with
  | some e => if r.1.val = -1 then .error e else .ok r.1
  | none => .ok r.1

/-- What getargs.c makes of an int: "I" cuts it off, the others have a range. -/
def Format.convert : (f : Format) → Int → Except Exc (Value f.type)
  | .i, n => do
    let v ← checked (PyLong_AsLong n)
    if h : int.Holds v.val then .ok ⟨v.val, h⟩ else .error .OverflowError
  | .I, n => .ok ((PyLong_AsUnsignedLongMask n).convert unsigned_int)
  | .l, n => checked (PyLong_AsLong n)
  | .L, n => checked (PyLong_AsLongLong n)

/-- An int among the arguments of a function. Without a default it has to be there. The check is
what the function itself does with the variable. -/
structure Position where
  format : Format
  target : IntType
  default : Option (Value format.type) := none
  check : Int → Option Exc := fun _ => none
  narrow : format = .I → target.bits ≤ 32 := by decide

/-- The variable of the argument, or its default. -/
def Position.variable (p : Position) : Option Int → Except Exc (Value p.format.type)
  | some n => p.format.convert n
  | none => p.default.elim (.error (.TypeError "Required argument missing")) .ok

/-- What libuv gets: the variable is checked, and then converted by the call. -/
def Position.pass (p : Position) (arg : Option Int) : Except Exc (Value p.target) := do
  let v ← p.variable arg
  match p.check v.val with
  | some e => .error e
  | none => .ok (v.convert p.target)

/-- The ints of libuv's parameters, in their order. -/
def pass_all : List Position → List (Option Int) → Except Exc (List Int)
  | [], [] => .ok []
  | p :: ps, arg :: args => do
    let v ← p.pass arg
    let vs ← pass_all ps args
    return v.val :: vs
  | _, _ => .error (.TypeError "wrong number of arguments")

/-! ## The calls -/

/-- The functions of libuv, and the system calls, that get an int. -/
inductive Callee where
  | uv_run | uv_strerror | uv_guess_handle
  | uv_listen | uv_tcp_init_ex | uv_tcp_bind | uv_tcp_open | uv_tcp_keepalive
  | uv_udp_init_ex | uv_udp_bind | uv_udp_open | uv_udp_set_membership
  | uv_udp_set_multicast_ttl | uv_udp_set_ttl
  | uv_pipe_open | uv_pipe_pending_instances | uv_pipe_bind | uv_pipe_connect | bind | connect
  | uv_poll_init_socket | uv_poll_start | uv_tty_init | uv_tty_set_mode
  | uv_signal_start | uv_process_kill | uv_barrier_init | uv_sem_init
  | uv_getaddrinfo | uv_getnameinfo | uv_send_buffer_size | uv_recv_buffer_size
  | uv_fs_fstat | uv_fs_mkdir | uv_fs_chmod | uv_fs_fchmod | uv_fs_symlink | uv_fs_chown
  | uv_fs_fchown | uv_fs_open | uv_fs_close | uv_fs_read | uv_fs_write | uv_fs_fsync
  | uv_fs_fdatasync | uv_fs_ftruncate | uv_fs_sendfile | uv_fs_futime | uv_fs_access
  | uv_fs_event_start

/-- An exception before libuv is called, for the ints or for anything else; the ints that libuv
gets, and the exception that is raised for its answer; or memory that is written out of bounds. -/
inductive Ending where
  | refused (e : Exc)
  | called (callee : Callee) (ints : List Int) (error : Option Exc)
  | crashed

/-- Everything else about a call: the other arguments, the state of the handle and the memory, which
may raise an exception; and what libuv answers. -/
structure Env where
  early : Option Exc
  answer : List Int → Option Exc

/-- A function that passes its ints on to libuv. A result that is not tested raises nothing. -/
structure Function where
  callee : Callee
  positions : List Position
  tested : Bool := true

/-- A call with its ints, up to what libuv answers. -/
def Function.call (f : Function) (E : Env) (args : List (Option Int)) : Ending :=
  match E.early with
  | some e => .refused e
  | none =>
    match pass_all f.positions args with
    | .error e => .refused e
    | .ok ints => .called f.callee ints (if f.tested then E.answer ints else none)

/-! ## The functions of the module -/

/-- A descriptor, which a long takes. -/
def fd : Position := { format := .l, target := uv_file }

/-- A socket: a long that is cut to an int. -/
def sock : Position := { format := .l, target := uv_os_sock_t }

/-- An int for a parameter that is an int. -/
def an_int : Position := { format := .i, target := int }

/-- An offset into a file. -/
def an_offset : Position := { format := .L, target := int64_t }

/-- The check of Loop.run. -/
def invalid_mode (mode : Int) : Option Exc :=
  if mode ≠ 0 ∧ mode ≠ 1 ∧ mode ≠ 2 then some (.ValueError "invalid mode specified") else none

/-- Loop.run([mode]) -/
def Loop_func_run : Function :=
  ⟨.uv_run,
    [{ format := .i, target := enum, default := some ⟨0, by decide⟩, check := invalid_mode }],
    false⟩

/-- errno.strerror(err) -/
def Errno_func_strerror : Function := ⟨.uv_strerror, [an_int], false⟩

/-- util.guess_handle_type(fd) -/
def Util_func_guess_handle_type : Function :=
  ⟨.uv_guess_handle, [{ format := .i, target := uv_file }], false⟩

/-- SignalChecker(loop, fd) -/
def SignalChecker_tp_init : Function := ⟨.uv_poll_init_socket, [sock], true⟩

/-- The check of the listen methods. -/
def negative_backlog (backlog : Int) : Option Exc :=
  if backlog < 0 then some (.ValueError "backlog must be bigger than 0") else none

/-- The argument `backlog`, which may be left out. -/
def backlog : Position :=
  { format := .i, target := int, default := some ⟨511, by decide⟩, check := negative_backlog }

/-- TCP.listen(callback, [backlog]) -/
def TCP_func_listen : Function := ⟨.uv_listen, [backlog], true⟩

/-- Pipe.listen(callback, [backlog]) -/
def Pipe_func_listen : Function := ⟨.uv_listen, [backlog], true⟩

/-- Flags that are an int here, and unsigned in libuv. -/
def flags : Position :=
  { format := .i, target := unsigned_int, default := some ⟨0, by decide⟩ }

/-- TCP(loop, [flags]) -/
def TCP_tp_init : Function := ⟨.uv_tcp_init_ex, [flags], true⟩

/-- TCP.bind(addr, [flags]) -/
def TCP_func_bind : Function := ⟨.uv_tcp_bind, [flags], true⟩

/-- TCP.open(fd) -/
def TCP_func_open : Function := ⟨.uv_tcp_open, [sock], true⟩

/-- TCP.keepalive(enable, delay) -/
def TCP_func_keepalive : Function :=
  ⟨.uv_tcp_keepalive, [{ format := .I, target := unsigned_int }], true⟩

/-- UDP(loop, [flags]) -/
def UDP_tp_init : Function := ⟨.uv_udp_init_ex, [flags], true⟩

/-- UDP.bind(addr, [flags]) -/
def UDP_func_bind : Function := ⟨.uv_udp_bind, [flags], true⟩

/-- The result of uv_udp_open is not looked at. -/
def UDP_func_open : Function := ⟨.uv_udp_open, [sock], false⟩

/-- UDP.set_membership(address, membership, [interface]) -/
def UDP_func_set_membership : Function :=
  ⟨.uv_udp_set_membership, [{ format := .i, target := enum }], true⟩

/-- The check of both setters of a ttl. -/
def invalid_ttl (ttl : Int) : Option Exc :=
  if ttl < 0 ∨ 255 < ttl then some (.ValueError "ttl must be between 0 and 255") else none

/-- The argument `ttl`. -/
def ttl : Position := { format := .i, target := int, check := invalid_ttl }

/-- UDP.set_multicast_ttl(ttl) -/
def UDP_func_set_multicast_ttl : Function := ⟨.uv_udp_set_multicast_ttl, [ttl], true⟩

/-- UDP.set_ttl(ttl) -/
def UDP_func_set_ttl : Function := ⟨.uv_udp_set_ttl, [ttl], true⟩

/-- Pipe.open(fd) -/
def Pipe_func_open : Function := ⟨.uv_pipe_open, [fd], true⟩

/-- Pipe.pending_instances(count) -/
def Pipe_func_pending_instances : Function := ⟨.uv_pipe_pending_instances, [an_int], false⟩

/-- Poll(loop, fd) -/
def Poll_tp_init : Function := ⟨.uv_poll_init_socket, [sock], true⟩

/-- Poll.start(events, callback) -/
def Poll_func_start : Function := ⟨.uv_poll_start, [an_int], true⟩

/-- TTY(loop, fd, readable) -/
def TTY_tp_init : Function := ⟨.uv_tty_init, [{ format := .i, target := uv_file }], true⟩

/-- TTY.set_mode(mode) -/
def TTY_func_set_mode : Function := ⟨.uv_tty_set_mode, [{ format := .i, target := enum }], true⟩

/-- Signal.start(callback, signum) -/
def Signal_func_start : Function := ⟨.uv_signal_start, [an_int], true⟩

/-- Process.kill(signum) -/
def Process_func_kill : Function := ⟨.uv_process_kill, [an_int], true⟩

/-- Barrier(count) -/
def Barrier_tp_init : Function :=
  ⟨.uv_barrier_init, [{ format := .I, target := unsigned_int }], true⟩

/-- Semaphore([value]) -/
def Semaphore_tp_init : Function :=
  ⟨.uv_sem_init, [{ format := .I, target := unsigned_int, default := some ⟨1, by decide⟩ }], true⟩

/-- An int of getaddrinfo and getnameinfo that may be left out. -/
def hint : Position := { format := .i, target := int, default := some ⟨0, by decide⟩ }

/-- The family, the socktype, the protocol and the flags. -/
def Util_func_getaddrinfo : Function := ⟨.uv_getaddrinfo, [hint, hint, hint, hint], true⟩

/-- dns.getnameinfo(loop, addr, [flags]) -/
def Util_func_getnameinfo : Function := ⟨.uv_getnameinfo, [hint], true⟩

/-- fs.fstat(loop, fd) -/
def FS_func_fstat : Function := ⟨.uv_fs_fstat, [fd], true⟩

/-- fs.mkdir(loop, path, mode) -/
def FS_func_mkdir : Function := ⟨.uv_fs_mkdir, [an_int], true⟩

/-- fs.chmod(loop, path, mode) -/
def FS_func_chmod : Function := ⟨.uv_fs_chmod, [an_int], true⟩

/-- fs.fchmod(loop, fd, mode) -/
def FS_func_fchmod : Function := ⟨.uv_fs_fchmod, [fd, an_int], true⟩

/-- fs.symlink(loop, path, new_path, flags) -/
def FS_func_symlink : Function := ⟨.uv_fs_symlink, [an_int], true⟩

/-- A user and a group, which come through the format of an int. -/
def owner : List Position :=
  [{ format := .i, target := uv_uid_t }, { format := .i, target := uv_gid_t }]

/-- fs.chown(loop, path, uid, gid) -/
def FS_func_chown : Function := ⟨.uv_fs_chown, owner, true⟩

/-- fs.fchown(loop, fd, uid, gid) -/
def FS_func_fchown : Function := ⟨.uv_fs_fchown, fd :: owner, true⟩

/-- The flags and the mode. -/
def FS_func_open : Function := ⟨.uv_fs_open, [an_int, an_int], true⟩

/-- fs.close(loop, fd) -/
def FS_func_close : Function := ⟨.uv_fs_close, [fd], true⟩

/-- PyMem_Malloc gets the length as a size_t. -/
def no_buffer (length : Int) : Option Exc :=
  if PY_SSIZE_T_MAX < size_t.wrap length then some .MemoryError else none

/-- fs.read(loop, fd, length, offset) -/
def FS_func_read : Function :=
  ⟨.uv_fs_read, [fd, { format := .i, target := size_t, check := no_buffer }, an_offset], true⟩

/-- fs.write(loop, fd, data, offset) -/
def FS_func_write : Function := ⟨.uv_fs_write, [fd, an_offset], true⟩

/-- fs.fsync(loop, fd) -/
def FS_func_fsync : Function := ⟨.uv_fs_fsync, [fd], true⟩

/-- fs.fdatasync(loop, fd) -/
def FS_func_fdatasync : Function := ⟨.uv_fs_fdatasync, [fd], true⟩

/-- fs.ftruncate(loop, fd, offset) -/
def FS_func_ftruncate : Function := ⟨.uv_fs_ftruncate, [fd, an_offset], true⟩

/-- fs.sendfile(loop, out_fd, in_fd, in_offset, length) -/
def FS_func_sendfile : Function :=
  ⟨.uv_fs_sendfile, [fd, fd, an_offset, { format := .i, target := size_t }], true⟩

/-- fs.futime(loop, fd, atime, mtime) -/
def FS_func_futime : Function := ⟨.uv_fs_futime, [fd], true⟩

/-- fs.access(loop, path, flags) -/
def FS_func_access : Function := ⟨.uv_fs_access, [an_int], true⟩

/-- FSEvent.start(path, flags, callback) -/
def FSEvent_func_start : Function :=
  ⟨.uv_fs_event_start, [{ format := .i, target := unsigned_int }], true⟩

/-- The functions that pass all their ints on as they come out of the formats. -/
inductive Operation where
  | Loop_func_run | Errno_func_strerror | Util_func_guess_handle_type | SignalChecker_tp_init
  | TCP_func_listen | Pipe_func_listen | TCP_tp_init | TCP_func_bind | TCP_func_open
  | TCP_func_keepalive | UDP_tp_init | UDP_func_bind | UDP_func_open | UDP_func_set_membership
  | UDP_func_set_multicast_ttl | UDP_func_set_ttl | Pipe_func_open | Pipe_func_pending_instances
  | Poll_tp_init | Poll_func_start | TTY_tp_init | TTY_func_set_mode | Signal_func_start
  | Process_func_kill | Barrier_tp_init | Semaphore_tp_init | Util_func_getaddrinfo
  | Util_func_getnameinfo | FS_func_fstat | FS_func_mkdir | FS_func_chmod | FS_func_fchmod
  | FS_func_symlink | FS_func_chown | FS_func_fchown | FS_func_open | FS_func_close | FS_func_read
  | FS_func_write | FS_func_fsync | FS_func_fdatasync | FS_func_ftruncate | FS_func_sendfile
  | FS_func_futime | FS_func_access | FSEvent_func_start

/-- The function behind each name, with its positions. -/
def Operation.function : Operation → Function
  | .Loop_func_run => integers.Loop_func_run
  | .Errno_func_strerror => integers.Errno_func_strerror
  | .Util_func_guess_handle_type => integers.Util_func_guess_handle_type
  | .SignalChecker_tp_init => integers.SignalChecker_tp_init
  | .TCP_func_listen => integers.TCP_func_listen
  | .Pipe_func_listen => integers.Pipe_func_listen
  | .TCP_tp_init => integers.TCP_tp_init
  | .TCP_func_bind => integers.TCP_func_bind
  | .TCP_func_open => integers.TCP_func_open
  | .TCP_func_keepalive => integers.TCP_func_keepalive
  | .UDP_tp_init => integers.UDP_tp_init
  | .UDP_func_bind => integers.UDP_func_bind
  | .UDP_func_open => integers.UDP_func_open
  | .UDP_func_set_membership => integers.UDP_func_set_membership
  | .UDP_func_set_multicast_ttl => integers.UDP_func_set_multicast_ttl
  | .UDP_func_set_ttl => integers.UDP_func_set_ttl
  | .Pipe_func_open => integers.Pipe_func_open
  | .Pipe_func_pending_instances => integers.Pipe_func_pending_instances
  | .Poll_tp_init => integers.Poll_tp_init
  | .Poll_func_start => integers.Poll_func_start
  | .TTY_tp_init => integers.TTY_tp_init
  | .TTY_func_set_mode => integers.TTY_func_set_mode
  | .Signal_func_start => integers.Signal_func_start
  | .Process_func_kill => integers.Process_func_kill
  | .Barrier_tp_init => integers.Barrier_tp_init
  | .Semaphore_tp_init => integers.Semaphore_tp_init
  | .Util_func_getaddrinfo => integers.Util_func_getaddrinfo
  | .Util_func_getnameinfo => integers.Util_func_getnameinfo
  | .FS_func_fstat => integers.FS_func_fstat
  | .FS_func_mkdir => integers.FS_func_mkdir
  | .FS_func_chmod => integers.FS_func_chmod
  | .FS_func_fchmod => integers.FS_func_fchmod
  | .FS_func_symlink => integers.FS_func_symlink
  | .FS_func_chown => integers.FS_func_chown
  | .FS_func_fchown => integers.FS_func_fchown
  | .FS_func_open => integers.FS_func_open
  | .FS_func_close => integers.FS_func_close
  | .FS_func_read => integers.FS_func_read
  | .FS_func_write => integers.FS_func_write
  | .FS_func_fsync => integers.FS_func_fsync
  | .FS_func_fdatasync => integers.FS_func_fdatasync
  | .FS_func_ftruncate => integers.FS_func_ftruncate
  | .FS_func_sendfile => integers.FS_func_sendfile
  | .FS_func_futime => integers.FS_func_futime
  | .FS_func_access => integers.FS_func_access
  | .FSEvent_func_start => integers.FSEvent_func_start

/-! ## The other ways of an int -/

/-- The setter of send_buffer_size and of receive_buffer_size. A deleted attribute has no value. -/
def buffer_size_set (callee : Callee) (E : Env) (value : Option Int) : Ending :=
  match E.early with
  | some e => .refused e
  | none =>
    match value with
    | none => .refused (.TypeError "cannot delete attribute")
    | some n =>
      let (v, error) := PyLong_AsLong n
      let size := v.convert int
      match error with
      | some e =>
        if size.val = -1 then .refused e else .called callee [size.val] (E.answer [size.val])
      | none => .called callee [size.val] (E.answer [size.val])

def TCP_sndbuf_set := buffer_size_set .uv_send_buffer_size
def TCP_rcvbuf_set := buffer_size_set .uv_recv_buffer_size
def UDP_sndbuf_set := buffer_size_set .uv_send_buffer_size
def UDP_rcvbuf_set := buffer_size_set .uv_recv_buffer_size
def Pipe_sndbuf_set := buffer_size_set .uv_send_buffer_size
def Pipe_rcvbuf_set := buffer_size_set .uv_recv_buffer_size

/-- The port of getaddrinfo. The -1 of an int that does not fit is out of the range too. -/
def getaddrinfo_port (E : Env) (n : Int) : Ending :=
  match E.early with
  | some e => .refused e
  | none =>
    let port := (PyLong_AsLong n).1.val
    if port < 0 ∨ 0xffff < port then
      .refused (.ValueError "port must be between 0 and 65535")
    else .called .uv_getaddrinfo [port] (E.answer [port])

/-- The bytes of a name, and the Py_ssize_t of its length. -/
structure Name where
  bytes : List UInt8
  fits : long.Holds bytes.length

/-- The length of the name, as the format gives it. -/
def Name.len (name : Name) : Value long := ⟨name.bytes.length, name.fits⟩

/-- The name begins with a null byte. -/
def Name.abstract (name : Name) : Prop := name.bytes.head? = some 0

instance (name : Name) : Decidable name.abstract := inferInstanceAs (Decidable (_ = _))

/-- The size of sun_path, and of sun_family. -/
def SUN_PATH : Int := 108
def SUN_FAMILY : Int := 2

/-- Pipe_func_bind_abstract and Pipe_func_connect_abstract, up to the system call, which gets the
length of the address. -/
def abstract_call (callee : Callee) (E : Env) (len : Value int) : Ending :=
  let len := if SUN_PATH ≤ len.val then SUN_PATH - 1 else len.val
  -- memcpy copies a size_t of bytes
  if SUN_PATH < size_t.wrap len then .crashed
  else
    let addrlen := size_t.wrap (SUN_FAMILY + len)
    .called callee [addrlen] (E.answer [addrlen])

/-- An abstract name needs a socket, which may be what there is not. -/
def Pipe_func_bind (E : Env) (name : Name) : Ending :=
  match E.early with
  | some e => .refused e
  | none =>
    if name.abstract then abstract_call .bind E (name.len.convert int)
    else .called .uv_pipe_bind [] (E.answer [])

/-- Pipe.connect by the kind of its name. -/
def Pipe_func_connect (E : Env) (name : Name) : Ending :=
  match E.early with
  | some e => .refused e
  | none =>
    if name.abstract then abstract_call .connect E (name.len.convert int)
    else .called .uv_pipe_connect [] none

end pyuv.integers
