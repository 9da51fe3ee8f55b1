-- The receive callback of a UDP handle (pyuv__udp_recv_cd in src/udp.c), under the loop of libuv
-- that reads the socket (uv__udp_recvmsg in deps/libuv/src/unix/udp.c). The callback asserts that
-- no flag is set and that a datagram has a sender, and libuv promises neither.
import Pyuv.AddrTuples
import Pyuv.ReadSlab

set_option linter.style.nameCheck false

namespace pyuv.udp_recv

open addr_tuples (PyObj Inet sockaddr Peer Py_None makesockaddr peerOf)
open byte_order (ByteOrder)
open read_slab (PYUV_SLAB_SIZE UV_ENOBUFS)

/-! ## The loop of libuv -/

def UV_UDP_PARTIAL : Nat := 2

/-- What recvmsg comes to. A socket that is not connected may have peers without a name. -/
inductive Recvmsg where
  | datagram (bytes : List UInt8) (name : Option sockaddr)
  | EAGAIN
  | error (errno : { e : Nat // 0 < e })

/-- One turn of the loop: is a buffer granted, and what was in it, what is received, and is the
handle still read from after the callback has run Python code. -/
structure Turn where
  granted : Bool
  slab : List UInt8
  got : Recvmsg
  goes_on : Bool

/-- The arguments of the receive callback, with what lies in the buffer. -/
structure Delivery where
  nread : Int
  buf : List UInt8
  addr : Option sockaddr
  flags : Nat

/-- A datagram that is longer than the buffer is cut off, and MSG_TRUNC says so. -/
def Turn.delivery (t : Turn) : Delivery :=
  if t.granted then
    match t.got with
    | .EAGAIN => ⟨0, t.slab, none, 0⟩
    | .error errno => ⟨-(errno.1 : Int), t.slab, none, 0⟩
    | .datagram bytes name =>
      let stored := bytes.take PYUV_SLAB_SIZE
      { nread := stored.length
        buf := stored ++ t.slab.drop stored.length
        addr := name
        flags := if PYUV_SLAB_SIZE < bytes.length then UV_UDP_PARTIAL else 0 }
  else ⟨UV_ENOBUFS, [], none, 0⟩

/-- The arguments of the Python callback after the handle. -/
structure Call where
  address : PyObj
  flags : Int
  data : Option (List UInt8)
  error : Option Int
deriving DecidableEq

/-- How a delivery ends. -/
inductive Outcome where
  | aborted
  | returned (call : Option Call)
deriving DecidableEq

variable (o : ByteOrder) (inet : Inet)

/-- The receive callback, up to the call of Python. -/
def pyuv__udp_recv_cd (d : Delivery) : Outcome :=
  if d.flags ≠ 0 then .aborted
  else if d.nread = 0 ∧ d.addr = none then .returned none
  else if 0 ≤ d.nread then
    match d.addr with
    | none => .aborted
    | some addr =>
      let data := if d.nread = 0 then [] else d.buf.take d.nread.toNat
      .returned (some ⟨makesockaddr o inet addr, d.flags, some data, none⟩)
  else .returned (some ⟨Py_None, d.flags, none, some d.nread⟩)

/-- The callbacks of one uv__udp_recvmsg, which begins with a `count` of 32. It ends with an error,
after 33 datagrams, and where the callback has stopped the reading. -/
def uv__udp_recvmsg : Nat → List Turn → List (Turn × Outcome)
  | _, [] => []
  | count, t :: ts =>
    let out := pyuv__udp_recv_cd o inet t.delivery
    let rest :=
      match out, t.got, count with
      | .aborted, _, _ => []
      | .returned call, .datagram _ _, count + 1 =>
        if t.granted ∧ (call = none ∨ t.goes_on) then uv__udp_recvmsg count ts else []
      | .returned _, _, _ => []
    (t, out) :: rest

/-! ## The contract -/

/-- The address of a sender: its tuple, and None where there is none to write. -/
def Denotes (address : PyObj) (addr : Option sockaddr) : Prop :=
  match addr.bind (peerOf o) with
  | some p => address = p.tuple inet
  | none => address = Py_None

/-- The callback is told what was received, from whom, and with which flags. -/
structure Faithful (d : Delivery) (c : Call) : Prop where
  data : 0 ≤ d.nread → c.data = some (d.buf.take d.nread.toNat)
  address : 0 ≤ d.nread → Denotes o inet c.address d.addr
  flags : c.flags = d.flags
  success : c.error = none ↔ 0 ≤ d.nread
  failure : d.nread < 0 → c.error = some d.nread ∧ c.data = none ∧ c.address = Py_None

/-- Python is called once, but for a buffer that libuv gives back. -/
def Handled (d : Delivery) (out : Outcome) : Prop :=
  if d.nread = 0 ∧ d.addr = none then out = .returned none
  else ∃ c, out = .returned (some c) ∧ Faithful o inet d c

/-- The datagram is not cut off, and it has a sender or no bytes. -/
def Turn.fits (t : Turn) : Prop :=
  ∀ bytes name, t.granted = true → t.got = .datagram bytes name →
    bytes.length ≤ PYUV_SLAB_SIZE ∧ (bytes ≠ [] → name ≠ none)

variable {o inet}

theorem makesockaddr_denotes (addr : sockaddr) :
    Denotes o inet (makesockaddr o inet addr) (some addr) := by
  unfold Denotes
  rw [Option.bind_some]
  cases h : peerOf o addr with
  | some p =>
    rw [(addr_tuples.peerOf_eq_some_iff addr p).mp h]
    exact addr_tuples.makesockaddr.spec p
  | none =>
    cases addr with
    | AF_INET sa => cases h
    | AF_INET6 sa => cases h
    | unknown sa_family => rfl

/-- The callback does its part for every delivery that its assertions allow. -/
theorem handled_iff (d : Delivery) :
    Handled o inet d (pyuv__udp_recv_cd o inet d) ↔
      d.flags = 0 ∧ (0 < d.nread → d.addr ≠ none) := by
  unfold Handled pyuv__udp_recv_cd
  by_cases hflags : d.flags = 0
  · by_cases hback : d.nread = 0 ∧ d.addr = none
    · simp [hflags, hback]
    · rw [if_neg hback, if_neg (not_not.mpr hflags), if_neg hback]
      by_cases hread : 0 ≤ d.nread
      · rw [if_pos hread]
        cases haddr : d.addr with
        | none =>
          have hpos : 0 < d.nread := by
            have hne : d.nread ≠ 0 := fun h => hback ⟨h, haddr⟩
            omega
          simp [hpos]
        | some addr =>
          refine iff_of_true ⟨_, rfl, ?_, ?_, rfl, ?_, ?_⟩ (by simp [hflags])
          · intro _
            dsimp only
            split
            · rename_i hzero
              simp [hzero]
            · rfl
          · intro _
            rw [haddr]
            exact makesockaddr_denotes addr
          · simp [hread]
          · intro hneg
            omega
      · rw [if_neg hread]
        refine iff_of_true ⟨_, rfl, ?_, ?_, rfl, ?_, ?_⟩ ⟨hflags, by omega⟩
        · exact fun h => absurd h hread
        · exact fun h => absurd h hread
        · simp [hread]
        · exact fun _ => ⟨rfl, rfl, rfl⟩
  · rw [if_pos hflags]
    apply iff_of_false
    · split <;> simp
    · exact fun h => hflags h.1

theorem delivery_allowed_iff (t : Turn) :
    (t.delivery.flags = 0 ∧ (0 < t.delivery.nread → t.delivery.addr ≠ none)) ↔ t.fits := by
  unfold Turn.delivery Turn.fits
  by_cases hgranted : t.granted = true
  · rw [if_pos hgranted]
    cases hgot : t.got with
    | EAGAIN => simp
    | error errno => simp
    | datagram bytes name =>
      have hlen : 0 < (bytes.take PYUV_SLAB_SIZE).length ↔ bytes ≠ [] := by
        rw [List.length_take, ← List.length_pos_iff]
        unfold PYUV_SLAB_SIZE
        omega
      have hflags : (if PYUV_SLAB_SIZE < bytes.length then UV_UDP_PARTIAL else 0) = 0 ↔
          bytes.length ≤ PYUV_SLAB_SIZE := by
        split
        · simp [UV_UDP_PARTIAL]
          omega
        · simp
          omega
      dsimp only
      rw [hflags, Int.natCast_pos, hlen]
      constructor
      · rintro ⟨hle, hname⟩ b n _ heq
        cases heq
        exact ⟨hle, hname⟩
      · intro h
        exact h bytes name hgranted rfl
  · rw [if_neg hgranted]
    simp [hgranted, UV_ENOBUFS]

theorem outcome_of_mem {count : Nat} {turns : List Turn} {e : Turn × Outcome}
    (h : e ∈ uv__udp_recvmsg o inet count turns) :
    e.2 = pyuv__udp_recv_cd o inet e.1.delivery := by
  induction turns generalizing count with
  | nil =>
    unfold uv__udp_recvmsg at h
    cases h
  | cons t ts ih =>
    unfold uv__udp_recvmsg at h
    rcases List.mem_cons.mp h with rfl | hrest
    · rfl
    · split at hrest
      · cases hrest
      · split at hrest
        · exact ih hrest
        · cases hrest
      · cases hrest

/-- Each delivery of each read of a socket comes to Python as it should, or aborts. -/
theorem deliveries_are_handled_iff (o : ByteOrder) (inet : Inet) (count : Nat)
    (turns : List Turn) :
    ∀ e ∈ uv__udp_recvmsg o inet count turns, Handled o inet e.1.delivery e.2 ↔ e.1.fits := by
  intro e he
  rw [outcome_of_mem he, handled_iff]
  exact delivery_allowed_iff e.1

/-- One byte from 127.0.0.1. -/
def oneByte : Turn := ⟨true, [], .datagram [80] (some (.AF_INET ⟨1234, 0x7f000001⟩)), true⟩

theorem one_byte_is_handled :
    Handled .little addr_tuples.plainInet oneByte.delivery
      (pyuv__udp_recv_cd .little addr_tuples.plainInet oneByte.delivery) := by
  let out := pyuv__udp_recv_cd .little addr_tuples.plainInet oneByte.delivery
  have hmem : (oneByte, out) ∈ uv__udp_recvmsg .little addr_tuples.plainInet 32 [oneByte] := by
    unfold uv__udp_recvmsg
    exact List.mem_cons_self
  have hfits : oneByte.fits := by
    intro bytes name _ hgot
    cases hgot
    exact ⟨by decide, fun _ => Option.some_ne_none _⟩
  exact (deliveries_are_handled_iff .little addr_tuples.plainInet 32 [oneByte] (oneByte, out)
    hmem).mpr hfits

/-- One byte from a peer without a name, as of a socketpair. -/
theorem a_datagram_without_a_sender_aborts :
    ¬∀ (o : ByteOrder) (inet : Inet) (turns : List Turn),
      ∀ e ∈ uv__udp_recvmsg o inet 32 turns, Handled o inet e.1.delivery e.2 := by
  let t : Turn := ⟨true, [], .datagram [80] none, true⟩
  intro h
  have hrun : (t, Outcome.aborted) ∈ uv__udp_recvmsg .little addr_tuples.plainInet 32 [t] := by
    unfold uv__udp_recvmsg
    exact List.mem_cons_self
  have hend := h .little addr_tuples.plainInet [t] (t, .aborted) hrun
  obtain ⟨c, hc, -⟩ : ∃ c, Outcome.aborted = .returned (some c) ∧ _ := hend
  cases hc

end pyuv.udp_recv
