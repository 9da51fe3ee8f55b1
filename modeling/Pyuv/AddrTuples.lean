-- Address tuples and socket addresses (src/common.c). pyuv_parse_addr_tuple
-- keeps the flow info of a tuple in host order and makesockaddr reads it in
-- network order, so a flow info survives the two only where the orders agree.
import Pyuv.Lib.ByteOrder
import Pyuv.PyObjects

namespace pyuv.addr_tuples

open byte_order

/-! ## Python objects, socket addresses, and the text form of addresses -/

/-- An item of an address tuple. `int` is an int or an object whose `__index__`
gives that int, and `surrogates` is a str that has no UTF-8 form. -/
inductive PyItem where
  | str (text : List Char)
  | surrogates
  | int (n : Int)
  | other (tp_name : String)
deriving DecidableEq, Repr

/-- An object that stands where an address tuple is expected. -/
inductive PyObj where
  | tuple (items : List PyItem)
  | other (tp_name : String)
deriving DecidableEq, Repr

def Py_None : PyObj := .other "NoneType"

/-- A struct sockaddr_in, with the fields as they are stored. The octets of the
address are in the order of the memory, the first of them on top. -/
structure sockaddr_in where
  sin_port : BitVec 16
  sin_addr : BitVec 32
deriving DecidableEq, Repr

/-- The fields of an IPv6 address, the port and the flowinfo in network order. -/
structure sockaddr_in6 where
  sin6_port : BitVec 16
  sin6_flowinfo : BitVec 32
  sin6_addr : BitVec 128
  sin6_scope_id : BitVec 32
deriving DecidableEq, Repr

/-- A struct sockaddr, by its sa_family. -/
inductive sockaddr where
  | AF_INET (sa : sockaddr_in)
  | AF_INET6 (sa : sockaddr_in6)
  | unknown (sa_family : Nat)
deriving DecidableEq, Repr

def INADDR_ANY : BitVec 32 := 0
def INADDR_BROADCAST : BitVec 32 := 0xffffffff

/-- The address texts of libuv: uv_inet_pton with AF_INET and AF_INET6, where
`none` is a refusal, and what uv_ip4_name and uv_ip6_name print. -/
structure Inet where
  pton4 : List Char → Option (BitVec 32)
  pton6 : List Char → Option (BitVec 128)
  ip4_name : BitVec 32 → List Char
  ip6_name : BitVec 128 → List Char

/-! ## The two functions -/

/-- The values that the format "si|II" fills in. -/
structure Parsed where
  host : List Char
  port : Int
  flowinfo : BitVec 32 := 0
  scope_id : BitVec 32 := 0

/-- "s": a str without an embedded NUL. -/
def parse_s : PyItem → Except PyErr (List Char)
  | .str text => if '\x00' ∈ text then .error (.cpython .ValueError) else .ok text
  | .surrogates => .error (.cpython .UnicodeEncodeError)
  | .int _ => .error (.cpython .TypeError)
  | .other _ => .error (.cpython .TypeError)

/-- "i": an int that fits a C int. -/
def parse_i : PyItem → Except PyErr Int
  | .int n =>
    if -0x80000000 ≤ n ∧ n ≤ 0x7fffffff then .ok n else .error (.cpython .OverflowError)
  | .str _ => .error (.cpython .TypeError)
  | .surrogates => .error (.cpython .TypeError)
  | .other _ => .error (.cpython .TypeError)

/-- "I": an int modulo 2^32, with no check for overflow. -/
def parse_I : PyItem → Except PyErr (BitVec 32)
  | .int n => .ok (BitVec.ofInt 32 n)
  | .str _ => .error (.cpython .TypeError)
  | .surrogates => .error (.cpython .TypeError)
  | .other _ => .error (.cpython .TypeError)

/-- PyArg_ParseTuple with "si|II". The two words that are not given stay 0. -/
def PyArg_ParseTuple : List PyItem → Except PyErr Parsed
  | [h, p] => do
    let host ← parse_s h
    let port ← parse_i p
    return { host, port }
  | [h, p, f] => do
    let host ← parse_s h
    let port ← parse_i p
    let flowinfo ← parse_I f
    return { host, port, flowinfo }
  | [h, p, f, s] => do
    let host ← parse_s h
    let port ← parse_i p
    let flowinfo ← parse_I f
    let scope_id ← parse_I s
    return { host, port, flowinfo, scope_id }
  | _ => .error (.cpython .TypeError)

/-- "<broadcast>" -/
def broadcast : List Char := ['<', 'b', 'r', 'o', 'a', 'd', 'c', 'a', 's', 't', '>']

variable (o : ByteOrder) (inet : Inet)

/-- The part of pyuv_parse_addr_tuple that fills in the sockaddr. The flow info
is stored as it came, without htonl. -/
def fill_sockaddr (a : Parsed) : Except PyErr sockaddr :=
  let sin_port := htons o (BitVec.ofInt 16 a.port)
  if a.host = [] then
    .ok (.AF_INET { sin_port, sin_addr := INADDR_ANY })
  else if a.host = broadcast then
    .ok (.AF_INET { sin_port, sin_addr := INADDR_BROADCAST })
  else match inet.pton4 a.host with
    | some sin_addr => .ok (.AF_INET { sin_port, sin_addr })
    | none => match inet.pton6 a.host with
      | some sin6_addr =>
        .ok (.AF_INET6 { sin6_port := sin_port, sin6_flowinfo := a.flowinfo, sin6_addr,
                         sin6_scope_id := a.scope_id })
      | none => .error (.text .ValueError "invalid IP address")

/-- The address that a method is given, or the exception that it raises. -/
def pyuv_parse_addr_tuple : PyObj → Except PyErr sockaddr
  | .other tp_name =>
    .error (.text .TypeError
      ("address must be tuple, not " ++ String.ofList (tp_name.toList.take 500)))
  | .tuple items => do
    let a ← PyArg_ParseTuple items
    if a.port < 0 ∨ a.port > 0xffff then
      .error (.text .OverflowError "port must be 0-65535")
    else if a.flowinfo.toNat > 0xfffff then
      .error (.text .OverflowError "flowinfo must be 0-1048575")
    else fill_sockaddr o inet a

/-- The tuple that a callback or a getter gives for an address. -/
def makesockaddr : sockaddr → PyObj
  | .AF_INET addr4 =>
    .tuple [.str (inet.ip4_name addr4.sin_addr), .int (ntohs o addr4.sin_port).toNat]
  | .AF_INET6 addr6 =>
    .tuple [.str (inet.ip6_name addr6.sin6_addr), .int (ntohs o addr6.sin6_port).toNat,
      .int (ntohl o addr6.sin6_flowinfo).toNat, .int addr6.sin6_scope_id.toNat]
  | .unknown _ => Py_None

/-! ## What a socket address stands for -/

/-- The peer at the other end: every number as a number, whatever the host. -/
inductive Peer where
  | v4 (host : BitVec 32) (port : BitVec 16)
  | v6 (host : BitVec 128) (port : BitVec 16) (flowinfo scope_id : BitVec 32)
deriving DecidableEq, Repr

/-- The peer of a socket address, read as the network reads it. -/
def peerOf : sockaddr → Option Peer
  | .AF_INET sa => some (.v4 sa.sin_addr (ntohs o sa.sin_port))
  | .AF_INET6 sa =>
    some (.v6 sa.sin6_addr (ntohs o sa.sin6_port) (ntohl o sa.sin6_flowinfo) sa.sin6_scope_id)
  | .unknown _ => none

def Peer.flowinfo : Peer → BitVec 32
  | .v4 _ _ => 0
  | .v6 _ _ flowinfo _ => flowinfo

/-- The text of the address of a peer. -/
def Peer.text : Peer → List Char
  | .v4 host _ => inet.ip4_name host
  | .v6 host _ _ _ => inet.ip6_name host

/-- The tuple that a Python program writes for a peer. -/
def Peer.tuple : Peer → PyObj
  | .v4 host port => .tuple [.str (inet.ip4_name host), .int port.toNat]
  | .v6 host port flowinfo scope_id =>
    .tuple [.str (inet.ip6_name host), .int port.toNat, .int flowinfo.toNat, .int scope_id.toNat]

/-- The address of the peer in the order of the network. -/
def Peer.address : Peer → sockaddr
  | .v4 host port => .AF_INET { sin_port := htons o port, sin_addr := host }
  | .v6 host port flowinfo scope_id =>
    .AF_INET6 { sin6_port := htons o port, sin6_flowinfo := htonl o flowinfo, sin6_addr := host,
                sin6_scope_id := scope_id }

/-- What the parser stores for a peer: each field as in its socket address but
the flow info, which stays in host order. -/
def Peer.stored : Peer → sockaddr
  | .v4 host port => .AF_INET { sin_port := htons o port, sin_addr := host }
  | .v6 host port flowinfo scope_id =>
    .AF_INET6 { sin6_port := htons o port, sin6_flowinfo := flowinfo, sin6_addr := host,
                sin6_scope_id := scope_id }

/-- uv_inet_pton takes the printed address of the peer for an address of its
family, and for the same one. -/
def Inet.ReadsBack : Peer → Prop
  | .v4 host _ => inet.pton4 (inet.ip4_name host) = some host
  | .v6 host _ _ _ =>
    inet.pton4 (inet.ip6_name host) = none ∧ inet.pton6 (inet.ip6_name host) = some host

/-- libuv prints the address of the peer as a plain text and reads it back. -/
structure Inet.Canonical (p : Peer) : Prop where
  no_nul : '\x00' ∉ p.text inet
  not_empty : p.text inet ≠ []
  not_broadcast : p.text inet ≠ broadcast
  reads_back : inet.ReadsBack p

variable {o inet}

/-- A peer has one socket address. -/
theorem peerOf_eq_some_iff (sa : sockaddr) (p : Peer) :
    peerOf o sa = some p ↔ sa = p.address o := by
  cases p with
  | v4 host port =>
    rcases sa with ⟨sin_port, sin_addr⟩ | ⟨_, _, _, _⟩ | _ <;> simp [peerOf, Peer.address]
    constructor
    · rintro ⟨rfl, rfl⟩
      simp
    · rintro ⟨rfl, rfl⟩
      simp
  | v6 host port flowinfo scope_id =>
    rcases sa with ⟨_, _⟩ | ⟨sin6_port, sin6_flowinfo, sin6_addr, sin6_scope_id⟩ | _ <;>
      simp [peerOf, Peer.address]
    constructor
    · rintro ⟨rfl, rfl, rfl, rfl⟩
      simp
    · rintro ⟨rfl, rfl, rfl, rfl⟩
      simp

/-- makesockaddr writes the tuple of the peer. -/
theorem makesockaddr.spec (p : Peer) : makesockaddr o inet (p.address o) = p.tuple inet := by
  cases p <;> simp [makesockaddr, Peer.address, Peer.tuple]

theorem parse_s_of_no_nul {text : List Char} (h : '\x00' ∉ text) :
    parse_s (.str text) = .ok text := by
  simp [parse_s, h]

/-- A port comes through "i" unchanged. -/
theorem parse_i_of_port (port : BitVec 16) :
    parse_i (.int port.toNat) = .ok (port.toNat : Int) := by
  have hlt : port.toNat < 65536 := port.isLt
  simp only [parse_i]
  rw [if_pos ⟨by omega, by omega⟩]

theorem parse_I_of_word (w : BitVec 32) : parse_I (.int w.toNat) = .ok w := by
  simp [parse_I]

/-- The tuple of a peer is accepted, and the parser stores `Peer.stored`. -/
theorem pyuv_parse_addr_tuple.spec (p : Peer) (hc : inet.Canonical p)
    (hf : p.flowinfo.toNat ≤ 0xfffff) :
    pyuv_parse_addr_tuple o inet (p.tuple inet) = .ok (p.stored o) := by
  obtain ⟨hnul, hempty, hbroadcast, hread⟩ := hc
  cases p with
  | v4 host port =>
    have hport : port.toNat < 65536 := port.isLt
    simp only [Peer.text, Inet.ReadsBack] at hnul hempty hbroadcast hread
    simp [pyuv_parse_addr_tuple, Peer.tuple, PyArg_ParseTuple, parse_s_of_no_nul hnul,
      parse_i_of_port, bind, Except.bind, pure, Except.pure]
    rw [if_neg (by omega)]
    simp [fill_sockaddr, hempty, hbroadcast, hread, Peer.stored]
  | v6 host port flowinfo scope_id =>
    have hport : port.toNat < 65536 := port.isLt
    simp only [Peer.text, Peer.flowinfo, Inet.ReadsBack] at hnul hempty hbroadcast hread hf
    simp [pyuv_parse_addr_tuple, Peer.tuple, PyArg_ParseTuple, parse_s_of_no_nul hnul,
      parse_i_of_port, parse_I_of_word, bind, Except.bind, pure, Except.pure]
    rw [if_neg (by omega), if_neg (by omega)]
    simp [fill_sockaddr, hempty, hbroadcast, hread.1, hread.2, Peer.stored]

/-- Stored and read back, a peer is the same if and only if its flow info reads
the same in host and network order. -/
theorem stored_eq_sockaddr_iff (p : Peer) (hf : p.flowinfo.toNat ≤ 0xfffff) :
    p.stored o = p.address o ↔ o = .big ∨ 0x10100 ∣ p.flowinfo.toNat := by
  cases p with
  | v4 host port => simp [Peer.stored, Peer.address, Peer.flowinfo]
  | v6 host port flowinfo scope_id =>
    rw [← htonl_eq_self_iff o _ hf]
    simp [Peer.stored, Peer.address, Peer.flowinfo, eq_comm]

/-- Printed again, what the parser stored is the tuple only if it is the address. -/
theorem makesockaddr_stored_eq_iff (p : Peer) :
    makesockaddr o inet (p.stored o) = p.tuple inet ↔ p.stored o = p.address o := by
  cases p with
  | v4 host port => simp [makesockaddr, Peer.stored, Peer.tuple, Peer.address]
  | v6 host port flowinfo scope_id =>
    have hword : ((ntohl o flowinfo).toNat : Int) = flowinfo.toNat ↔
      flowinfo = htonl o flowinfo := by
      rw [Int.ofNat_inj, BitVec.toNat_inj, eq_comm]
    simpa [makesockaddr, Peer.stored, Peer.tuple, Peer.address] using hword

/-! ## The laws -/

/-- The address tuple of a UDP receive callback (udp.c): `none` is a NULL addr. -/
def recv_address_tuple (o : ByteOrder) (inet : Inet) : Option sockaddr → PyObj
  | none => Py_None
  | some sa => makesockaddr o inet sa

/-- The two functions undo each other on a peer, in either direction, if and
only if the host is big-endian or the flow info is a multiple of 0x10100. In
the other cases a reply sent to the received tuple goes to another peer. -/
theorem parse_and_makesockaddr_are_inverse_iff (o : ByteOrder) (inet : Inet) (p : Peer)
    (hc : inet.Canonical p) (hf : p.flowinfo.toNat ≤ 0xfffff) :
    ((pyuv_parse_addr_tuple o inet (p.tuple inet)).map (makesockaddr o inet)
        = .ok (p.tuple inet) ↔ o = .big ∨ 0x10100 ∣ p.flowinfo.toNat) ∧
      ∀ sa, peerOf o sa = some p →
        ((pyuv_parse_addr_tuple o inet (makesockaddr o inet sa) = .ok sa
            ↔ o = .big ∨ 0x10100 ∣ p.flowinfo.toNat) ∧
          ((pyuv_parse_addr_tuple o inet (recv_address_tuple o inet (some sa))).map (peerOf o)
            = .ok (some p) ↔ o = .big ∨ 0x10100 ∣ p.flowinfo.toNat)) := by
  have hback : ∀ sa, peerOf o sa = some p ↔ sa = p.address o := fun sa => peerOf_eq_some_iff sa p
  refine ⟨?_, fun sa hsa => ⟨?_, ?_⟩⟩
  · rw [pyuv_parse_addr_tuple.spec p hc hf, ← stored_eq_sockaddr_iff p hf]
    simp only [Except.map, Except.ok.injEq]
    exact makesockaddr_stored_eq_iff p
  · obtain rfl := (hback sa).mp hsa
    rw [makesockaddr.spec, pyuv_parse_addr_tuple.spec p hc hf, ← stored_eq_sockaddr_iff p hf]
    simp
  · obtain rfl := (hback sa).mp hsa
    rw [recv_address_tuple, makesockaddr.spec, pyuv_parse_addr_tuple.spec p hc hf,
      ← stored_eq_sockaddr_iff p hf]
    simp only [Except.map, Except.ok.injEq]
    exact hback _

/-! ## A host with plain address texts -/

/-- The `n` fields of a number in base `b`, the first one on top. -/
def fields (b n a : Nat) : List Nat := (List.range n).reverse.map (fun i => a / Nat.pow b i % b)

/-- The number whose digits in base `b` are the fields, the first one the highest. -/
def ofFields (b : Nat) (fs : List Nat) : Nat := fs.foldl (fun acc f => acc * b + f) 0

/-- A digit up to 16, which is what any other character counts as. -/
def digitValue (c : Char) : Nat :=
  if '0' ≤ c ∧ c ≤ '9' then c.toNat - '0'.toNat
  else if 'a' ≤ c ∧ c ≤ 'f' then c.toNat - 'a'.toNat + 10
  else 16

/-- The number that a field of digits stands for. -/
def readField (base bound : Nat) (cs : List Char) : Option Nat :=
  let n := ofFields base (cs.map digitValue)
  if cs ≠ [] ∧ cs.all (fun c => digitValue c < base) ∧ n < bound then some n else none

/-- The `n` fields of a text between separators. -/
def readFields (base bound n : Nat) (sep : Char) (text : List Char) : Option Nat := do
  let fs ← (text.splitOn sep).mapM (readField base bound)
  if fs.length = n then some (ofFields bound fs) else none

/-- The texts of libuv for the addresses with no two zero groups side by side:
four octets in decimal, eight groups in hexadecimal. -/
def plainInet : Inet where
  ip4_name a := List.intercalate ['.'] ((fields 256 4 a.toNat).map (Nat.toDigits 10))
  ip6_name a := List.intercalate [':'] ((fields 65536 8 a.toNat).map (Nat.toDigits 16))
  pton4 text := (readFields 10 256 4 '.' text).map (BitVec.ofNat 32)
  pton6 text := (readFields 16 65536 8 ':' text).map (BitVec.ofNat 128)

/-- 2001:db8:1:2:3:4:5:6, port 1234, flow info 1. -/
def peerWithFlow : Peer := .v6 0x20010db8000100020003000400050006 1234 1 0

theorem plainInet_canonical : plainInet.Canonical peerWithFlow where
  no_nul := by decide
  not_empty := by decide
  not_broadcast := by decide
  reads_back := ⟨by decide, by decide⟩

/-- The equivalence at the sample peer, on a little-endian host. -/
theorem parse_and_makesockaddr_at_sample_peer :
    (pyuv_parse_addr_tuple .little plainInet (peerWithFlow.tuple plainInet)).map
        (makesockaddr .little plainInet) = .ok (peerWithFlow.tuple plainInet)
      ↔ ByteOrder.little = .big ∨ 0x10100 ∣ peerWithFlow.flowinfo.toNat :=
  (parse_and_makesockaddr_are_inverse_iff .little plainInet peerWithFlow plainInet_canonical
    (by decide)).1

/-- On a little-endian host flow info 1 comes back as 0x1000000. -/
theorem flowinfo_one_comes_back_swapped :
    (pyuv_parse_addr_tuple .little plainInet (peerWithFlow.tuple plainInet)).map
        (makesockaddr .little plainInet)
      = .ok ((Peer.v6 0x20010db8000100020003000400050006 1234 0x1000000 0).tuple plainInet)
    ∧ (pyuv_parse_addr_tuple .little plainInet (peerWithFlow.tuple plainInet)).map
        (makesockaddr .little plainInet) ≠ .ok (peerWithFlow.tuple plainInet) := by
  decide

end pyuv.addr_tuples
