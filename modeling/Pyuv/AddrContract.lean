-- What pyuv_parse_addr_tuple (src/common.c) accepts, against the tuples that name an
-- address. The flow info and the scope id come through "I" modulo 2^32, so the check of the
-- flow info is made on what is left of it, and the scope id has none.
import Pyuv.AddrTuples

namespace pyuv.addr_tuples

open byte_order

/-! ## The contract -/

/-- A host, and the family that it belongs to. -/
inductive Host where
  | v4 (addr : BitVec 32)
  | v6 (addr : BitVec 128)
deriving DecidableEq, Repr

/-- The host that a text names: '', '<broadcast>', or an IPv4 or IPv6 text address. -/
def host_of (inet : Inet) (text : List Char) : Option Host :=
  if '\x00' ∈ text then none
  else if text = [] then some (.v4 INADDR_ANY)
  else if text = broadcast then some (.v4 INADDR_BROADCAST)
  else ((inet.pton4 text).map .v4).or ((inet.pton6 text).map .v6)

/-- A tuple of a text and one to three integers, with 0 for what it leaves out. -/
structure Given where
  text : List Char
  port : Int
  flowinfo : Int := 0
  scope_id : Int := 0

/-- The items of a tuple of the right length and types. -/
def given : List PyItem → Option Given
  | [.str text, .int port] => some { text, port }
  | [.str text, .int port, .int flowinfo] => some { text, port, flowinfo }
  | [.str text, .int port, .int flowinfo, .int scope_id] => some { text, port, flowinfo, scope_id }
  | _ => none

/-- Each number is in its range. -/
structure Given.InRange (g : Given) : Prop where
  port : 0 ≤ g.port ∧ g.port ≤ 65535
  flowinfo : 0 ≤ g.flowinfo ∧ g.flowinfo ≤ 0xfffff
  scope_id : 0 ≤ g.scope_id ∧ g.scope_id < 0x100000000

/-- What the fields are as numbers of their widths in libuv, under a host that was parsed. -/
def Given.peer (g : Given) : Host → Peer
  | .v4 addr => .v4 addr (BitVec.ofInt 16 g.port)
  | .v6 addr => .v6 addr (BitVec.ofInt 16 g.port) (BitVec.ofInt 32 g.flowinfo)
      (BitVec.ofInt 32 g.scope_id)

/-- The tuple names the peer. -/
def Names (inet : Inet) (items : List PyItem) (p : Peer) : Prop :=
  ∃ g host, given items = some g ∧ g.InRange ∧ host_of inet g.text = some host ∧ p = g.peer host

/-- The peer of a socket address, where `flow` is how its flow info is read. -/
def denoted (o : ByteOrder) (flow : BitVec 32 → BitVec 32) : sockaddr → Option Peer
  | .AF_INET sa => some (.v4 sa.sin_addr (ntohs o sa.sin_port))
  | .AF_INET6 sa =>
    some (.v6 sa.sin6_addr (ntohs o sa.sin6_port) (flow sa.sin6_flowinfo) sa.sin6_scope_id)
  | .unknown _ => none

/-- A tuple that names a peer gives its socket address, and any other one an exception. -/
structure MeetsContract (o : ByteOrder) (inet : Inet) (flow : BitVec 32 → BitVec 32)
    (items : List PyItem) : Prop where
  accepts : ∀ p, Names inet items p →
    ∃ sa, pyuv_parse_addr_tuple o inet (.tuple items) = .ok sa ∧ denoted o flow sa = some p
  refuses : (¬∃ p, Names inet items p) →
    ∃ e, pyuv_parse_addr_tuple o inet (.tuple items) = .error e

/-! ## What the function does -/

variable {o : ByteOrder} {inet : Inet} {flow : BitVec 32 → BitVec 32} {items : List PyItem}
  {g : Given} {host : Host} {sa : sockaddr} {p : Peer}

/-- What the checks of the function let through. -/
structure Given.Passes (g : Given) : Prop where
  port : 0 ≤ g.port ∧ g.port ≤ 65535
  flowinfo : g.flowinfo % 0x100000000 ≤ 0xfffff

/-- Values in their ranges pass the formats. -/
theorem Given.InRange.passes (h : g.InRange) : g.Passes := by
  obtain ⟨hport, hflow, -⟩ := h
  exact ⟨hport, by omega⟩

/-- The words that the format fills in. -/
def Given.parsed (g : Given) : Parsed where
  host := g.text
  port := g.port
  flowinfo := BitVec.ofInt 32 g.flowinfo
  scope_id := BitVec.ofInt 32 g.scope_id

theorem parse_s_eq_ok {item : PyItem} {text : List Char} :
    parse_s item = .ok text ↔ item = .str text ∧ '\x00' ∉ text := by
  unfold parse_s
  cases item with
  | str t =>
    dsimp only
    by_cases hnul : '\x00' ∈ t
    · rw [if_pos hnul]
      constructor
      · rintro ⟨⟩
      · rintro ⟨⟨⟩, hnot⟩
        exact absurd hnul hnot
    · rw [if_neg hnul]
      constructor
      · rintro ⟨⟩
        exact ⟨rfl, hnul⟩
      · rintro ⟨⟨⟩, -⟩
        rfl
  | surrogates => simp
  | int n => simp
  | other tp_name => simp

theorem parse_i_eq_ok {item : PyItem} {n : Int} :
    parse_i item = .ok n ↔ item = .int n ∧ -0x80000000 ≤ n ∧ n ≤ 0x7fffffff := by
  unfold parse_i
  cases item with
  | int m =>
    dsimp only
    by_cases hfits : -0x80000000 ≤ m ∧ m ≤ 0x7fffffff
    · rw [if_pos hfits]
      constructor
      · rintro ⟨⟩
        exact ⟨rfl, hfits⟩
      · rintro ⟨⟨⟩, -⟩
        rfl
    · rw [if_neg hfits]
      constructor
      · rintro ⟨⟩
      · rintro ⟨⟨⟩, hnot⟩
        exact absurd hnot hfits
  | str t => simp
  | surrogates => simp
  | other tp_name => simp

theorem parse_I_eq_ok {item : PyItem} {w : BitVec 32} :
    parse_I item = .ok w ↔ ∃ n, item = .int n ∧ w = BitVec.ofInt 32 n := by
  unfold parse_I
  cases item <;> simp [eq_comm]

theorem bind_eq_ok {α β : Type} {x : Except PyErr α} {f : α → Except PyErr β} {b : β} :
    (x >>= f) = .ok b ↔ ∃ a, x = .ok a ∧ f a = .ok b := by
  cases x <;> simp [bind, Except.bind]

/-- The tuples that are parsed, with what is read from them. -/
theorem PyArg_ParseTuple_eq_ok {a : Parsed} :
    PyArg_ParseTuple items = .ok a ↔ ∃ g, given items = some g ∧ '\x00' ∉ g.text ∧
      (-0x80000000 ≤ g.port ∧ g.port ≤ 0x7fffffff) ∧ a = g.parsed := by
  constructor
  · intro ha
    unfold PyArg_ParseTuple at ha
    split at ha
    · simp only [bind_eq_ok, parse_s_eq_ok, parse_i_eq_ok] at ha
      obtain ⟨text, ⟨rfl, hnul⟩, port, ⟨rfl, hport⟩, ⟨⟩⟩ := ha
      exact ⟨_, rfl, hnul, hport, rfl⟩
    · simp only [bind_eq_ok, parse_s_eq_ok, parse_i_eq_ok, parse_I_eq_ok] at ha
      obtain ⟨text, ⟨rfl, hnul⟩, port, ⟨rfl, hport⟩, _, ⟨flowinfo, rfl, rfl⟩, ⟨⟩⟩ := ha
      exact ⟨_, rfl, hnul, hport, rfl⟩
    · simp only [bind_eq_ok, parse_s_eq_ok, parse_i_eq_ok, parse_I_eq_ok] at ha
      obtain ⟨text, ⟨rfl, hnul⟩, port, ⟨rfl, hport⟩, _, ⟨flowinfo, rfl, rfl⟩,
        _, ⟨scope_id, rfl, rfl⟩, ⟨⟩⟩ := ha
      exact ⟨_, rfl, hnul, hport, rfl⟩
    · cases ha
  · rintro ⟨g, hg, hnul, hport, rfl⟩
    unfold given at hg
    split at hg
    · cases hg
      simp only [PyArg_ParseTuple, parse_s_eq_ok.mpr ⟨rfl, hnul⟩, parse_i_eq_ok.mpr ⟨rfl, hport⟩]
      rfl
    · cases hg
      simp only [PyArg_ParseTuple, parse_s_eq_ok.mpr ⟨rfl, hnul⟩, parse_i_eq_ok.mpr ⟨rfl, hport⟩]
      rfl
    · cases hg
      simp only [PyArg_ParseTuple, parse_s_eq_ok.mpr ⟨rfl, hnul⟩, parse_i_eq_ok.mpr ⟨rfl, hport⟩]
      rfl
    · cases hg

/-- The host decides the family. -/
theorem fill_sockaddr_eq_ok (hnul : '\x00' ∉ g.text) : fill_sockaddr o inet g.parsed = .ok sa ↔
    ∃ host, host_of inet g.text = some host ∧ sa = (g.peer host).stored o := by
  have hnul' : '\x00' ∉ g.parsed.host := hnul
  change _ ↔ ∃ host, host_of inet g.parsed.host = some host ∧ sa = (g.peer host).stored o
  unfold fill_sockaddr host_of
  rw [if_neg hnul']
  by_cases hempty : g.parsed.host = []
  · rw [if_pos hempty, if_pos hempty]
    simp [Given.peer, Given.parsed, Peer.stored, eq_comm]
  rw [if_neg hempty, if_neg hempty]
  by_cases hbroadcast : g.parsed.host = broadcast
  · rw [if_pos hbroadcast, if_pos hbroadcast]
    simp [Given.peer, Given.parsed, Peer.stored, eq_comm]
  rw [if_neg hbroadcast, if_neg hbroadcast]
  cases inet.pton4 g.parsed.host with
  | some addr => simp [Given.peer, Given.parsed, Peer.stored, eq_comm]
  | none =>
    cases inet.pton6 g.parsed.host with
    | some addr => simp [Given.peer, Given.parsed, Peer.stored, eq_comm]
    | none => simp

/-- The function gives the socket address of what passes its checks. -/
theorem pyuv_parse_addr_tuple_eq_ok :
    pyuv_parse_addr_tuple o inet (.tuple items) = .ok sa ↔ ∃ g host, given items = some g ∧
      g.Passes ∧ host_of inet g.text = some host ∧ sa = (g.peer host).stored o := by
  unfold pyuv_parse_addr_tuple
  dsimp only
  rw [bind_eq_ok]
  have hword : ∀ g : Given, (g.parsed.flowinfo.toNat : Int) = g.flowinfo % 0x100000000 := by
    intro g
    simp [Given.parsed, BitVec.toNat_ofInt]
    omega
  constructor
  · rintro ⟨a, ha, hok⟩
    obtain ⟨g, hg, hnul, -, rfl⟩ := PyArg_ParseTuple_eq_ok.mp ha
    have hport : g.parsed.port = g.port := rfl
    have hflow := hword g
    split at hok
    · cases hok
    · split at hok
      · cases hok
      · obtain ⟨host, hhost, rfl⟩ := (fill_sockaddr_eq_ok hnul).mp hok
        exact ⟨g, host, hg, ⟨by omega, by omega⟩, hhost, rfl⟩
  · rintro ⟨g, host, hg, ⟨hport, hflow⟩, hhost, rfl⟩
    have hnul : '\x00' ∉ g.text := by
      intro hmem
      rw [host_of, if_pos hmem] at hhost
      cases hhost
    refine ⟨g.parsed, PyArg_ParseTuple_eq_ok.mpr ⟨g, hg, hnul, ⟨by omega, by omega⟩, rfl⟩, ?_⟩
    have hport' : g.parsed.port = g.port := rfl
    have hflow' := hword g
    rw [if_neg (by omega), if_neg (by omega)]
    exact (fill_sockaddr_eq_ok hnul).mpr ⟨host, hhost, rfl⟩

/-! ## The law -/

/-- What is read back is what was given, unless the flow label has been exchanged. -/
theorem denoted_stored (host : Host) (g : Given) :
    denoted o flow ((g.peer host).stored o) = some (g.peer host) ↔
      ∀ addr, host = .v6 addr → flow (BitVec.ofInt 32 g.flowinfo) = BitVec.ofInt 32 g.flowinfo := by
  cases host with
  | v4 addr => simp [denoted, Given.peer, Peer.stored]
  | v6 addr => simp [denoted, Given.peer, Peer.stored]

/-- The contract is met by every tuple but those that pass the checks with an integer outside
the range of its word, and those whose flow info reads differently in the socket address. -/
theorem parse_meets_its_contract_iff (o : ByteOrder) (inet : Inet)
    (flow : BitVec 32 → BitVec 32) (items : List PyItem) :
    MeetsContract o inet flow items ↔
      ∀ g host, given items = some g → g.Passes → host_of inet g.text = some host →
        (0 ≤ g.flowinfo ∧ g.flowinfo < 0x100000000) ∧
        (0 ≤ g.scope_id ∧ g.scope_id < 0x100000000) ∧
        ∀ addr, host = .v6 addr →
          flow (BitVec.ofInt 32 g.flowinfo) = BitVec.ofInt 32 g.flowinfo := by
  constructor
  · rintro ⟨haccepts, hrefuses⟩ g host hg hpasses hhost
    have hok := (pyuv_parse_addr_tuple_eq_ok (o := o)).mpr ⟨g, host, hg, hpasses, hhost, rfl⟩
    by_cases hrange : g.InRange
    · obtain ⟨sa, hsa, hdenoted⟩ := haccepts (g.peer host) ⟨g, host, hg, hrange, hhost, rfl⟩
      rw [hok] at hsa
      cases hsa
      obtain ⟨hport, hflow, hscope⟩ := hrange
      exact ⟨by omega, hscope, (denoted_stored host g).mp hdenoted⟩
    · obtain ⟨e, he⟩ := hrefuses (by
        rintro ⟨p, g', host', hg', hrange', -, -⟩
        rw [hg] at hg'
        cases hg'
        exact hrange hrange')
      rw [hok] at he
      cases he
  · intro hcond
    constructor
    · rintro p ⟨g, host, hg, hrange, hhost, rfl⟩
      refine ⟨(g.peer host).stored o,
        pyuv_parse_addr_tuple_eq_ok.mpr ⟨g, host, hg, hrange.passes, hhost, rfl⟩, ?_⟩
      exact (denoted_stored host g).mpr (hcond g host hg hrange.passes hhost).2.2
    · intro hnone
      cases hresult : pyuv_parse_addr_tuple o inet (.tuple items) with
      | error e => exact ⟨e, rfl⟩
      | ok sa =>
        obtain ⟨g, host, hg, hpasses, hhost, -⟩ := pyuv_parse_addr_tuple_eq_ok.mp hresult
        obtain ⟨hflow, hscope, -⟩ := hcond g host hg hpasses hhost
        have hbound := hpasses.flowinfo
        refine absurd ⟨g.peer host, g, host, hg, ⟨hpasses.port, ?_, hscope⟩, hhost, rfl⟩ hnone
        omega

/-- Flow info 2^32 is taken for 0. -/
theorem a_flowinfo_past_the_word_is_accepted :
    ¬∀ (o : ByteOrder) (inet : Inet) (items : List PyItem), MeetsContract o inet id items := by
  intro hclaim
  let items : List PyItem := [.str [], .int 1234, .int 0x100000000]
  obtain ⟨e, he⟩ := (hclaim .little plainInet items).refuses (by
    rintro ⟨p, g, host, hg, hrange, -⟩
    cases hg
    exact absurd hrange.flowinfo.2 (by decide))
  cases he

end pyuv.addr_tuples
