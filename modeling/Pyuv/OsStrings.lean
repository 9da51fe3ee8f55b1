-- The strings that the OS gets of a name of a pipe (src/pipe.c, src/abstract.c and
-- deps/libuv/src/unix/pipe.c) and of a host and a service (src/dns.c and
-- deps/libuv/src/unix/getaddrinfo.c). All but the abstract names are strings of C by then.
import Pyuv.DnsResources
import Pyuv.Lib.CStrings
import Pyuv.PassedIntegers

set_option linter.style.nameCheck false

namespace pyuv.os_strings

open ends ledgers addr_tuples byte_order c_strings cints
open integers (long int size_t)

/-! ## Names of pipes -/

/-- An argument for "s#". A str with a surrogate has no UTF-8 form. -/
inductive Text where
  | str (text : List Char)
  | surrogates
  | bytes (data : List UInt8)

/-- The whole string, as the converter encodes it. -/
def Text.encoded : Text → Option (List UInt8)
  | .str text => some (utf8.encode text)
  | .surrogates => none
  | .bytes data => some data

/-- Its length is a Py_ssize_t. -/
structure NameArg where
  text : Text
  fits : long.Holds (text.encoded.getD []).length

/-- The length of the name in bytes. -/
def NameArg.len (arg : NameArg) : Value long := ⟨(arg.text.encoded.getD []).length, arg.fits⟩

/-- A Unix address, with the length that the system is told. -/
structure sockaddr_un where
  sun_path : List UInt8
  addrlen : Int
deriving DecidableEq, Repr

/-- sizeof saddr.sun_path, sizeof saddr.sun_family and sizeof saddr -/
def SUN_PATH : Nat := 108
def SUN_FAMILY : Nat := 2

/-- The size of a sockaddr_un. -/
def SOCKADDR_UN : Nat := SUN_FAMILY + SUN_PATH

/-- What the call meets: an exception for the handle or another argument, or that there is no memory
for a request; a socket, or the error of libuv before one is there; the answer of bind or connect;
and what may fail afterwards. -/
structure Env where
  early : Option PyErr
  socket : Int
  answer : sockaddr_un → Int
  late : Option PyErr

/-- The end of a call, with the address that bind or connect has got, if it was called at all. -/
inductive Ending where
  | raised (e : PyErr)
  | returned (saddr : Option sockaddr_un)
  -- memory is written out of bounds
  | crashed

variable (E : Env)

/-- PipeError for an error of the system. -/
def raise_uv (err : Int) : Ending := .raised (.uv .PipeError err)

/-- The end of both functions for an abstract name. -/
def finish_abstract (saddr : sockaddr_un) : Ending :=
  if E.answer saddr < 0 then raise_uv (E.answer saddr)
  else
    match E.late with
    | some e => .raised e
    | none => .returned (some saddr)

/-- Overly long paths are clipped. -/
def clip (len : Value int) : Int := if (SUN_PATH : Int) ≤ len.val then SUN_PATH - 1 else len.val

/-- The address with `len` bytes of the name, which memcpy takes for a size_t. -/
def abstract_address (name : List UInt8) (len : Int) : Option sockaddr_un :=
  if (SUN_PATH : Int) < size_t.wrap len then none
  else some ⟨memcpy SUN_PATH len.toNat name, size_t.wrap (SUN_FAMILY + len)⟩

/-- A bind by hand: the name goes to the system as far as it fits. -/
def Pipe_func_bind_abstract (name : List UInt8) (len : Value int) : Ending :=
  if E.socket < 0 then raise_uv E.socket
  else
    match abstract_address name (clip len) with
    | none => .crashed
    | some saddr => finish_abstract E saddr

/-- It sets the byte behind the name to NUL besides. -/
def Pipe_func_connect_abstract (name : List UInt8) (len : Value int) : Ending :=
  if E.socket < 0 then raise_uv E.socket
  else
    match abstract_address name (clip len) with
    | none => .crashed
    | some saddr =>
      finish_abstract E { saddr with sun_path := saddr.sun_path.set (clip len).toNat 0 }

/-- The address that libuv makes of a string. -/
def unix_address (name : List UInt8) : sockaddr_un :=
  ⟨strncpy (SUN_PATH - 1) name ++ [0], SOCKADDR_UN⟩

/-- It works on a copy of the string, up to the NUL. -/
def uv_pipe_bind (name : List UInt8) : Int × sockaddr_un :=
  let saddr := unix_address (c_str name)
  if E.socket < 0 then (E.socket, saddr) else (E.answer saddr, saddr)

/-- An error is left for the callback. -/
def uv_pipe_connect (name : List UInt8) : Option sockaddr_un :=
  if E.socket < 0 then none else some (unix_address name)

/-- A str with a surrogate. -/
def UnicodeEncodeError : PyErr := .cpython .UnicodeEncodeError

/-- Pipe.bind by the kind of its name. -/
def Pipe_func_bind (arg : NameArg) : Ending :=
  match E.early with
  | some e => .raised e
  | none =>
    match arg.text.encoded with
    | none => .raised UnicodeEncodeError
    | some name =>
      if name.head? = some 0 then Pipe_func_bind_abstract E name (arg.len.convert int)
      else
        let (err, saddr) := uv_pipe_bind E name
        if err < 0 then raise_uv err else .returned (some saddr)

/-- Pipe.connect by the kind of its name. -/
def Pipe_func_connect (arg : NameArg) : Ending :=
  match E.early with
  | some e => .raised e
  | none =>
    match arg.text.encoded with
    | none => .raised UnicodeEncodeError
    | some name =>
      if name.head? = some 0 then Pipe_func_connect_abstract E name (arg.len.convert int)
      else .returned (uv_pipe_connect E name)

/-- The two methods that take a name. -/
inductive Method where
  | bind
  | connect

/-- The function of the extension behind it. -/
def Method.call : Method → Env → NameArg → Ending
  | .bind => Pipe_func_bind
  | .connect => Pipe_func_connect

/-! ## What the OS sees of a name -/

/-- The string in the path, and for an abstract name all that the length covers. -/
def seen (name : List UInt8) (saddr : sockaddr_un) : List UInt8 :=
  if name.head? = some 0 then saddr.sun_path.take (saddr.addrlen - SUN_FAMILY).toNat
  else c_str saddr.sun_path

/-- A call that goes through has shown the OS the whole name. -/
def Ending.Complete (name : Option (List UInt8)) : Ending → Prop
  | .raised _ => True
  | .returned none => True
  | .returned (some saddr) => ∃ data, name = some data ∧ seen data saddr = data
  | .crashed => False

/-- What Linux takes an address for (unix(7)): the file of the path, or an abstract name, where
every byte counts. -/
inductive Place where
  | path (name : List UInt8)
  | abstract (name : List UInt8)
deriving DecidableEq

/-- What the system takes the address for. -/
def sockaddr_un.place (saddr : sockaddr_un) : Place :=
  if saddr.sun_path.head? = some 0 then
    .abstract (saddr.sun_path.take (saddr.addrlen - SUN_FAMILY).toNat)
  else .path (c_str saddr.sun_path)

/-- A name that has room in sun_path with a byte to spare, and no NUL but in an abstract name. -/
def Fits (name : List UInt8) : Prop :=
  name.length < SUN_PATH ∧ (name.head? ≠ some 0 → 0 ∉ name)

/-! ## The length of an abstract name -/

variable {E} {name : List UInt8}

theorem int_wrap_eq (n : Int) : int.wrap n = (n + 2 ^ 31) % 2 ^ 32 - 2 ^ 31 := by
  unfold IntType.wrap IntType.low IntType.modulus int
  norm_num
  omega

/-- What is left of a length after the parameter of type int and the clipping. -/
theorem clip_spec {len : Value long} {n : Nat} (hlen : len.val = n) :
    -2 ^ 31 ≤ clip (len.convert int) ∧ clip (len.convert int) < SUN_PATH ∧
      clip (len.convert int) ≤ n ∧
      (n < 2 ^ 31 → clip (len.convert int) = (min n (SUN_PATH - 1) : Nat)) := by
  unfold clip SUN_PATH
  rw [Value.convert_val, hlen, int_wrap_eq]
  split <;> omega

theorem abstract_address_none {len : Int} (hlow : -2 ^ 31 ≤ len) (hneg : len < 0) :
    abstract_address name len = none := by
  have hwrap := integers.size_t_wrap_of_int
    ((integers.int_holds_iff len).mpr ⟨hlow, by omega⟩)
  rw [if_pos hneg] at hwrap
  unfold abstract_address
  rw [if_pos]
  rw [hwrap]
  unfold SUN_PATH
  omega

theorem abstract_address_some {len : Int} (hpos : 0 ≤ len) (hlt : len < SUN_PATH) :
    abstract_address name len = some ⟨memcpy SUN_PATH len.toNat name, SUN_FAMILY + len⟩ := by
  unfold SUN_PATH at hlt
  have hwrap : ∀ n : Int, 0 ≤ n → n < 2 ^ 31 → size_t.wrap n = n := by
    intro n hn hn'
    rw [integers.size_t_wrap_of_int ((integers.int_holds_iff n).mpr ⟨by omega, hn'⟩),
      if_neg (by omega)]
  unfold abstract_address SUN_FAMILY
  rw [hwrap len hpos (by omega), hwrap _ (by omega) (by omega), if_neg]
  unfold SUN_PATH
  omega

/-! ## The calls with an abstract name -/

/-- What bind or connect gets of an abstract name: `len` bytes of it behind the family. -/
structure Shows (name : List UInt8) (len : Nat) (saddr : sockaddr_un) : Prop where
  addrlen : saddr.addrlen = SUN_FAMILY + len
  sun_path : saddr.sun_path.take len = name.take len

theorem Shows.take {len : Nat} {saddr : sockaddr_un} (h : Shows name len saddr) :
    saddr.sun_path.take (saddr.addrlen - SUN_FAMILY).toNat = name.take len := by
  rw [h.addrlen, add_sub_cancel_left, Int.toNat_natCast]
  exact h.sun_path

/-- Both functions give the OS the same bytes, where the length is not negative. -/
structure AbstractCall (name : List UInt8) (len : Int) (call : Env → Ending) : Prop where
  crash : len < 0 → call ⟨none, 0, fun _ => 0, none⟩ = .crashed
  shows : 0 ≤ len → ∃ saddr, Shows name len.toNat saddr ∧
    ∀ E, call E = if E.socket < 0 then raise_uv E.socket else finish_abstract E saddr

theorem bind_abstract_call {len : Value int} (hlow : -2 ^ 31 ≤ clip len)
    (hlt : clip len < SUN_PATH) (hle : clip len ≤ name.length) :
    AbstractCall name (clip len) fun E => Pipe_func_bind_abstract E name len := by
  constructor
  · intro hneg
    unfold Pipe_func_bind_abstract
    rw [abstract_address_none hlow hneg]
    rfl
  · intro hpos
    refine ⟨⟨memcpy SUN_PATH (clip len).toNat name, SUN_FAMILY + clip len⟩, ⟨?_, ?_⟩, ?_⟩
    · dsimp only
      rw [Int.toNat_of_nonneg hpos]
    · exact take_memcpy (by omega)
    · intro E
      unfold Pipe_func_bind_abstract
      rw [abstract_address_some hpos hlt]

theorem connect_abstract_call {len : Value int} (hlow : -2 ^ 31 ≤ clip len)
    (hlt : clip len < SUN_PATH) (hle : clip len ≤ name.length) :
    AbstractCall name (clip len) fun E => Pipe_func_connect_abstract E name len := by
  constructor
  · intro hneg
    unfold Pipe_func_connect_abstract
    rw [abstract_address_none hlow hneg]
    rfl
  · intro hpos
    refine ⟨⟨(memcpy SUN_PATH (clip len).toNat name).set (clip len).toNat 0,
      SUN_FAMILY + clip len⟩, ⟨?_, ?_⟩, ?_⟩
    · dsimp only
      rw [Int.toNat_of_nonneg hpos]
    · dsimp only
      rw [List.take_set_of_le (Nat.le_refl _)]
      exact take_memcpy (by omega)
    · intro E
      unfold Pipe_func_connect_abstract
      rw [abstract_address_some hpos hlt]

/-- No name is lost on the way if and only if there is room for it. -/
theorem AbstractCall.complete_iff {len : Int} {call : Env → Ending}
    (hcall : AbstractCall name len call)
    (habstract : name.head? = some 0) (hlt : len < SUN_PATH)
    (hfits : name.length < 2 ^ 31 → len = (min name.length (SUN_PATH - 1) : Nat)) :
    (∀ E, (call E).Complete (some name)) ↔ name.length < SUN_PATH := by
  have hseen : ∀ {saddr}, seen name saddr =
      saddr.sun_path.take (saddr.addrlen - SUN_FAMILY).toNat := by
    intro saddr
    unfold seen
    rw [if_pos habstract]
  constructor
  · intro hall
    have hplain := hall ⟨none, 0, fun _ => 0, none⟩
    by_cases hneg : len < 0
    · rw [hcall.crash hneg] at hplain
      exact hplain.elim
    · obtain ⟨saddr, hshows, hrun⟩ := hcall.shows (by omega)
      rw [hrun] at hplain
      obtain ⟨data, hdata, hwhole⟩ : ∃ data, some name = some data ∧ seen data saddr =
        data := hplain
      cases hdata
      rw [hseen, hshows.take] at hwhole
      have hlen := congrArg List.length hwhole
      rw [List.length_take] at hlen
      omega
  · intro hroom E
    have hlen : len = name.length := by
      unfold SUN_PATH at hroom hfits
      omega
    obtain ⟨saddr, hshows, hrun⟩ := hcall.shows (by omega)
    have hwhole : seen name saddr = name := by
      rw [hseen, hshows.take]
      exact List.take_of_length_le (by omega)
    rw [hrun]
    unfold finish_abstract raise_uv
    split
    · trivial
    · split
      · trivial
      · split
        · trivial
        · exact ⟨name, rfl, hwhole⟩

/-! ## The calls with an ordinary name -/

theorem c_str_unix_address :
    c_str (unix_address name).sun_path = (c_str name).take (SUN_PATH - 1) :=
  c_str_strncpy

theorem seen_unix_address_eq_iff (hordinary : name.head? ≠ some 0) :
    seen name (unix_address name) = name ↔ Fits name := by
  unfold seen
  rw [if_neg hordinary, c_str_unix_address, take_c_str_eq_self_iff]
  unfold Fits SUN_PATH
  constructor
  · rintro ⟨hnul, hle⟩
    exact ⟨by omega, fun _ => hnul⟩
  · rintro ⟨hlt, hnul⟩
    exact ⟨hnul hordinary, by omega⟩

/-- The copy of libuv has no more than strncpy reads. -/
theorem unix_address_c_str : unix_address (c_str name) = unix_address name := by
  unfold unix_address strncpy
  rw [c_str_c_str]

theorem uv_pipe_bind_saddr : (uv_pipe_bind E name).2 = unix_address name := by
  unfold uv_pipe_bind
  dsimp only
  rw [unix_address_c_str]
  split <;> rfl

theorem ordinary_bind_complete_iff (hordinary : name.head? ≠ some 0) :
    (∀ E, (if (uv_pipe_bind E name).1 < 0 then raise_uv (uv_pipe_bind E name).1
      else .returned (some (uv_pipe_bind E name).2)).Complete (some name)) ↔ Fits name := by
  rw [← seen_unix_address_eq_iff hordinary]
  constructor
  · intro hall
    obtain ⟨data, hdata, hwhole⟩ : ∃ data, some name = some data ∧
        seen data (unix_address (c_str name)) = data := hall ⟨none, 0, fun _ => 0, none⟩
    cases hdata
    rw [unix_address_c_str] at hwhole
    exact hwhole
  · intro hwhole E
    split
    · trivial
    · rw [uv_pipe_bind_saddr]
      exact ⟨name, rfl, hwhole⟩

theorem ordinary_connect_complete_iff (hordinary : name.head? ≠ some 0) :
    (∀ E, (Ending.returned (uv_pipe_connect E name)).Complete (some name)) ↔ Fits name := by
  rw [← seen_unix_address_eq_iff hordinary]
  constructor
  · intro hall
    obtain ⟨data, hdata, hwhole⟩ : ∃ data, some name = some data ∧
        seen data (unix_address name) = data := hall ⟨none, 0, fun _ => 0, none⟩
    cases hdata
    exact hwhole
  · intro hwhole E
    unfold uv_pipe_connect
    split
    · trivial
    · exact ⟨name, rfl, hwhole⟩

/-! ## The two methods -/

/-- What the methods do once they have the name and its length. -/
def Method.named (m : Method) (E : Env) (name : List UInt8) (len : Value int) : Ending :=
  match m with
  | .bind =>
    if name.head? = some 0 then Pipe_func_bind_abstract E name len
    else
      if (uv_pipe_bind E name).1 < 0 then raise_uv (uv_pipe_bind E name).1
      else .returned (some (uv_pipe_bind E name).2)
  | .connect =>
    if name.head? = some 0 then Pipe_func_connect_abstract E name len
    else .returned (uv_pipe_connect E name)

theorem Method.call_early {m : Method} {arg : NameArg} {e : PyErr} (h : E.early = some e) :
    m.call E arg = .raised e := by
  cases m with
  | bind =>
    change Pipe_func_bind E arg = _
    unfold Pipe_func_bind
    rw [h]
  | connect =>
    change Pipe_func_connect E arg = _
    unfold Pipe_func_connect
    rw [h]

theorem Method.call_named {m : Method} {arg : NameArg} (h : E.early = none)
    (hname : arg.text.encoded = some name) :
    m.call E arg = m.named E name (arg.len.convert int) := by
  cases m with
  | bind =>
    change Pipe_func_bind E arg = _
    unfold Pipe_func_bind
    rw [h, hname]
    rfl
  | connect =>
    change Pipe_func_connect E arg = _
    unfold Pipe_func_connect
    rw [h, hname]
    rfl

theorem NameArg.len_val {arg : NameArg} (hname : arg.text.encoded = some name) :
    arg.len.val = name.length := by
  change ((arg.text.encoded.getD []).length : Int) = name.length
  rw [hname]
  rfl

theorem Method.call_unencoded {m : Method} {arg : NameArg} (hname : arg.text.encoded = none)
    (E : Env) : ∃ e, m.call E arg = .raised e := by
  cases h : E.early with
  | some e => exact ⟨e, Method.call_early h⟩
  | none =>
    refine ⟨UnicodeEncodeError, ?_⟩
    cases m with
    | bind =>
      change Pipe_func_bind E arg = _
      unfold Pipe_func_bind
      rw [h, hname]
    | connect =>
      change Pipe_func_connect E arg = _
      unfold Pipe_func_connect
      rw [h, hname]

theorem Method.named_late (m : Method) (len : Value int) :
    m.named { E with early := none } name len = m.named E name len := by
  cases m <;> unfold Method.named
  · unfold Pipe_func_bind_abstract finish_abstract uv_pipe_bind
    rfl
  · unfold Pipe_func_connect_abstract finish_abstract uv_pipe_connect
    rfl

theorem fits_of_abstract (habstract : name.head? = some 0) :
    Fits name ↔ name.length < SUN_PATH :=
  ⟨fun h => h.1, fun h => ⟨h, fun hne => absurd habstract hne⟩⟩

theorem Method.named_complete_iff (m : Method) {len : Value long} (hlen : len.val = name.length) :
    (∀ E, (m.named E name (len.convert int)).Complete (some name)) ↔ Fits name := by
  obtain ⟨hlow, hlt, hle, hfits⟩ := clip_spec hlen
  unfold Method.named
  by_cases habstract : name.head? = some 0
  · rw [fits_of_abstract habstract]
    cases m with
    | bind =>
      simp only [if_pos habstract]
      exact (bind_abstract_call hlow hlt hle).complete_iff habstract hlt hfits
    | connect =>
      simp only [if_pos habstract]
      exact (connect_abstract_call hlow hlt hle).complete_iff habstract hlt hfits
  · cases m with
    | bind =>
      simp only [if_neg habstract]
      exact ordinary_bind_complete_iff habstract
    | connect =>
      simp only [if_neg habstract]
      exact ordinary_connect_complete_iff habstract

/-- The encoded name of an argument, where there is one, has room. -/
def NameArg.Fits (arg : NameArg) : Prop := ∀ name, arg.text.encoded = some name →
    os_strings.Fits name

theorem Method.complete_iff (m : Method) (arg : NameArg) :
    (∀ E, (m.call E arg).Complete arg.text.encoded) ↔ arg.Fits := by
  cases hname : arg.text.encoded with
  | none =>
    apply iff_of_true
    · intro E
      obtain ⟨e, he⟩ := Method.call_unencoded (m := m) hname E
      rw [he]
      trivial
    · intro name hsome
      rw [hname] at hsome
      cases hsome
  | some name =>
    have hlen := arg.len_val hname
    have hfits : arg.Fits ↔ os_strings.Fits name := by
      unfold NameArg.Fits
      rw [hname]
      exact ⟨fun h => h name rfl, fun h _ hsome => Option.some.inj hsome ▸ h⟩
    rw [hfits, ← m.named_complete_iff hlen]
    constructor
    · intro hall E
      have hlate := hall { E with early := none }
      rw [Method.call_named rfl hname, m.named_late] at hlate
      exact hlate
    · intro hall E
      cases hearly : E.early with
      | some e =>
        rw [Method.call_early hearly]
        trivial
      | none =>
        rw [Method.call_named hearly hname]
        exact hall E

/-! ## One name, one place -/

/-- The place that a name stands for. The empty name is an abstract one of NULs to Linux, as long
as sun_path. -/
def place_of (name : List UInt8) : Place :=
  if name = [] then .abstract (List.replicate SUN_PATH 0)
  else if name.head? = some 0 then .abstract name
  else .path name

theorem place_of_cases (name : List UInt8) :
    (name = [] ∧ place_of name = .abstract (List.replicate SUN_PATH 0)) ∨
      place_of name = .abstract name ∨ place_of name = .path name := by
  unfold place_of
  by_cases hnil : name = []
  · rw [if_pos hnil]
    exact .inl ⟨hnil, rfl⟩
  · rw [if_neg hnil]
    by_cases habstract : name.head? = some 0
    · rw [if_pos habstract]
      exact .inr (.inl rfl)
    · rw [if_neg habstract]
      exact .inr (.inr rfl)

theorem place_of_injective {name name' : List UInt8} (hlt : name.length < SUN_PATH)
    (hlt' : name'.length < SUN_PATH) (h : place_of name = place_of name') : name = name' := by
  have hlong : ∀ {data : List UInt8}, data.length < SUN_PATH →
      data ≠ List.replicate SUN_PATH 0 := by
    intro data hdata heq
    rw [heq, List.length_replicate] at hdata
    omega
  rcases place_of_cases name with ⟨hnil, hplace⟩ | hplace | hplace <;>
    rcases place_of_cases name' with ⟨hnil', hplace'⟩ | hplace' | hplace' <;>
    rw [hplace, hplace'] at h
  · exact hnil.trans hnil'.symm
  · exact absurd (Place.abstract.inj h).symm (hlong hlt')
  · cases h
  · exact absurd (Place.abstract.inj h) (hlong hlt)
  · exact Place.abstract.inj h
  · cases h
  · cases h
  · cases h
  · exact Place.path.inj h

/-! ## Names that are clipped -/

/-- As much of a name as an address has room for. -/
def clipped (name : List UInt8) : List UInt8 := name.take (SUN_PATH - 1)

/-- A string of C, or an abstract name whose length is an int. -/
def Regular (name : List UInt8) : Prop :=
  if name.head? = some 0 then name.length < 2 ^ 31 else 0 ∉ name

theorem clipped_length : (clipped name).length < SUN_PATH := by
  unfold clipped SUN_PATH
  rw [List.length_take]
  omega

theorem clipped_head : (clipped name).head? = name.head? := by
  unfold clipped
  rw [List.head?_take, if_neg (by decide)]

theorem clipped_ne_nil (hne : name ≠ []) : clipped name ≠ [] := by
  unfold clipped SUN_PATH
  rw [Ne, List.take_eq_nil_iff]
  rintro (h | h)
  · omega
  · exact hne h

/-- An address that has of the name what it has room for, and stands for that. -/
structure Clips (name : List UInt8) (saddr : sockaddr_un) : Prop where
  seen : seen name saddr = clipped name
  place : saddr.place = place_of (clipped name)

theorem head?_of_take_eq {data : List UInt8} {n : Nat} (hpos : 0 < n)
    (h : data.take n = name.take n) : data.head? = name.head? := by
  have hdata := List.head?_take (l := data) (i := n)
  have hname := List.head?_take (l := name) (i := n)
  rw [if_neg (by omega)] at hdata hname
  rw [← hdata, ← hname, h]

theorem Shows.clips {saddr : sockaddr_un} (h : Shows name (min name.length (SUN_PATH - 1)) saddr)
    (habstract : name.head? = some 0) : Clips name saddr := by
  have hne : name ≠ [] := by
    rintro rfl
    cases habstract
  have hpos := List.length_pos_iff.mpr hne
  have hhead : saddr.sun_path.head? = some 0 := by
    rw [head?_of_take_eq (by unfold SUN_PATH; omega) h.sun_path, habstract]
  have htake : saddr.sun_path.take (saddr.addrlen - SUN_FAMILY).toNat = clipped name := by
    rw [h.take]
    unfold clipped
    rw [List.take_eq_take_iff]
    omega
  constructor
  · unfold os_strings.seen
    rw [if_pos habstract, htake]
  · unfold sockaddr_un.place place_of
    rw [if_pos hhead, htake, if_neg (clipped_ne_nil hne), clipped_head, if_pos habstract]

theorem unix_address_clips (hordinary : name.head? ≠ some 0) (hnul : 0 ∉ name) :
    Clips name (unix_address name) := by
  have hpath : c_str (unix_address name).sun_path = clipped name := by
    rw [c_str_unix_address, c_str_eq_self_iff.mpr hnul]
    rfl
  constructor
  · unfold os_strings.seen
    rw [if_neg hordinary, hpath]
  · by_cases hnil : name = []
    · rw [hnil]
      decide
    · have hne := clipped_ne_nil hnil
      have hhead : (unix_address name).sun_path.head? = name.head? := by
        unfold unix_address strncpy
        rw [c_str_eq_self_iff.mpr hnul]
        change (clipped name ++ List.replicate _ 0 ++ [0]).head? = name.head?
        rw [List.append_assoc, List.head?_append_of_ne_nil _ hne, clipped_head]
      unfold sockaddr_un.place place_of
      rw [hhead, if_neg hordinary, hpath, if_neg hne, clipped_head, if_neg hordinary]

/-- How a call ends that has clipped the name if anything. -/
inductive ClippedEnd (name : List UInt8) : Ending → Prop where
  | raised (e : PyErr) : ClippedEnd name (.raised e)
  | unasked : ClippedEnd name (.returned none)
  | returned {saddr : sockaddr_un} (h : Clips name saddr) :
    ClippedEnd name (.returned (some saddr))

theorem finish_abstract_clipped {saddr : sockaddr_un} (h : Clips name saddr) :
    ClippedEnd name (finish_abstract E saddr) := by
  unfold finish_abstract raise_uv
  split
  · exact .raised _
  · split
    · exact .raised _
    · exact .returned h

theorem AbstractCall.clipped {len : Int} {call : Env → Ending} (hcall : AbstractCall name len call)
    (habstract : name.head? = some 0) (hlen : len = (min name.length (SUN_PATH - 1) : Nat)) :
    ClippedEnd name (call E) := by
  obtain ⟨saddr, hshows, hrun⟩ := hcall.shows (by omega)
  rw [hlen, Int.toNat_natCast] at hshows
  rw [hrun]
  unfold raise_uv
  split
  · exact .raised _
  · exact finish_abstract_clipped (hshows.clips habstract)

theorem Method.named_clipped (m : Method) {len : Value long} (hlen : len.val = name.length)
    (hregular : Regular name) : ClippedEnd name (m.named E name (len.convert int)) := by
  obtain ⟨hlow, hlt, hle, hclip⟩ := clip_spec hlen
  unfold Regular at hregular
  unfold Method.named
  by_cases habstract : name.head? = some 0
  · rw [if_pos habstract] at hregular
    cases m with
    | bind =>
      simp only [if_pos habstract]
      exact (bind_abstract_call hlow hlt hle).clipped habstract (hclip hregular)
    | connect =>
      simp only [if_pos habstract]
      exact (connect_abstract_call hlow hlt hle).clipped habstract (hclip hregular)
  · rw [if_neg habstract] at hregular
    have hclips := unix_address_clips habstract hregular
    cases m with
    | bind =>
      simp only [if_neg habstract]
      rw [uv_pipe_bind_saddr]
      unfold raise_uv
      split
      · exact .raised _
      · exact .returned hclips
    | connect =>
      simp only [if_neg habstract]
      unfold uv_pipe_connect
      split
      · exact .unasked
      · exact .returned hclips

/-- The encoded name of an argument, where there is one, is a string of C or has an int for its
length. -/
def NameArg.Regular (arg : NameArg) : Prop :=
  ∀ name, arg.text.encoded = some name → os_strings.Regular name

/-- A call that goes through has shown the OS the name as far as there is room. -/
def Ending.Clipped (name : Option (List UInt8)) : Ending → Prop
  | .raised _ => True
  | .returned none => True
  | .returned (some saddr) => ∃ data, name = some data ∧ seen data saddr = clipped data
  | .crashed => False

theorem Method.call_clipped (m : Method) {arg : NameArg} (hname : arg.text.encoded = some name)
    (hregular : arg.Regular) : ClippedEnd name (m.call E arg) := by
  cases hearly : E.early with
  | some e =>
    rw [Method.call_early hearly]
    exact .raised _
  | none =>
    rw [Method.call_named hearly hname]
    exact m.named_clipped (arg.len_val hname) (hregular name hname)

theorem Method.clipped (m : Method) (E : Env) {arg : NameArg} (hregular : arg.Regular) :
    (m.call E arg).Clipped arg.text.encoded := by
  cases hname : arg.text.encoded with
  | none =>
    obtain ⟨e, he⟩ := Method.call_unencoded (m := m) hname E
    rw [he]
    trivial
  | some name =>
    have hclipped := m.call_clipped (E := E) hname hregular
    generalize m.call E arg = ending at hclipped
    cases hclipped with
    | raised e => trivial
    | unasked => trivial
    | returned h => exact ⟨name, rfl, h.seen⟩

/-- An address that a call has got is one of the name. -/
theorem Method.clips {m : Method} {arg : NameArg} {saddr : sockaddr_un} (hregular : arg.Regular)
    (h : m.call E arg = .returned (some saddr)) :
    ∃ name, arg.text.encoded = some name ∧ Clips name saddr := by
  cases hname : arg.text.encoded with
  | none =>
    obtain ⟨e, he⟩ := Method.call_unencoded (m := m) hname E
    rw [he] at h
    cases h
  | some name =>
    have hclipped := m.call_clipped (E := E) hname hregular
    rw [h] at hclipped
    cases hclipped with
    | returned hclips => exact ⟨name, rfl, hclips⟩

/-! ## Hosts and services -/

open dns

/-- A value given as a host or as a service. -/
inductive Str where
  | str (text : List Char)
  | bytes (data : List UInt8)

/-- The argument of the functions of dns. -/
def Str.arg : Str → PyArg
  | .str text => .str text
  | .bytes data => .bytes data

/-- The whole string, by the codec of the argument. -/
def Str.encoded (codec : List Char → Except PyErr (List UInt8)) : Str → Except PyErr (List UInt8)
  | .str text => codec text
  | .bytes data => .ok data

/-- libuv copies a string up to its NUL, and getaddrinfo reads the copy. -/
def resolver_string (s : Option (List UInt8)) : Option (List UInt8) := s.map fun data =>
    c_str (c_str data)

/-- A call that does not raise has asked for a host and a service of which the resolver sees what
`host` and `service` say. -/
def Asks (host service : Option (List UInt8) → Prop) :
    EStateM.Result dns.Stop dns.State CallEnd → Prop
  | .ok .raised _ => True
  | .ok _ t => ∃ h v hints, t.submitted = some (.getaddrinfo h v hints) ∧
      host (resolver_string h) ∧ service (resolver_string v)
  | .error _ _ => False

/-- The resolver sees the whole string. -/
def Str.Whole (codec : List Char → Except PyErr (List UInt8)) (v : Str)
    (seen : Option (List UInt8)) : Prop := ∃ b, v.encoded codec = .ok b ∧ seen = some b

/-- It has no NUL when it is encoded. -/
def Str.NoNul (codec : List Char → Except PyErr (List UInt8)) (v : Str) : Prop :=
  ∀ b, v.encoded codec = .ok b → 0 ∉ b

variable {o : ByteOrder} {inet : Inet} {G : GaiEnv} {α β : Type}

/-- It does not change what libuv has been asked for. -/
def KeepsQuery (m : Run α) : Prop := ∀ s a t, m s = .ok a t → t.submitted = s.submitted

theorem KeepsQuery.bind {x : Run α} {f : α → Run β} (hx : KeepsQuery x)
    (hf : ∀ a, KeepsQuery (f a)) : KeepsQuery (x >>= f) := by
  intro s b u h
  cases hrun : x s with
  | ok a t =>
    rw [bind_of_ok hrun] at h
    exact (hf a t b u h).trans (hx s a t hrun)
  | error e t =>
    rw [bind_of_error hrun] at h
    cases h

theorem keeps_query_pure (a : α) : KeepsQuery (pure a : Run α) := by
  intro s b t h
  cases h
  rfl

theorem keeps_query_drop (r : Res) : KeepsQuery (dns.drop r) := by
  intro s a t h
  unfold dns.drop release_in at h
  split at h
  · cases h
    rfl
  · cases h

theorem keeps_query_Py_DECREF : KeepsQuery dns.Py_DECREF := by
  intro s a t h
  unfold dns.Py_DECREF at h
  split at h
  · cases h
  · exact ((keeps_query_drop .callback).bind fun _ => keeps_query_drop .loop)
      { s with refs := 0 } a t h
  · cases h
    rfl

theorem keeps_query_drop_if (b : dns.State → Bool) (r : Res) :
    KeepsQuery (do if b (← get) then dns.drop r) := by
  intro s a t h
  have hrun : (do if b (← get) then dns.drop r : Run Unit) s =
      (if b s then dns.drop r else pure () : Run Unit) s := rfl
  rw [hrun] at h
  split at h
  · exact keeps_query_drop r s a t h
  · exact keeps_query_pure () s a t h

theorem keeps_query_finish (async : Bool) (res : List dns.addrinfo) :
    KeepsQuery (finish o inet G async res) := by
  apply (keeps_query_drop_if (fun s => s.idna) .idna).bind
  intro _
  apply (keeps_query_drop_if (fun s => s.ascii) .ascii).bind
  intro _
  cases async with
  | true =>
    intro s a t h
    cases h
    rfl
  | false =>
    apply keeps_query_Py_DECREF.bind
    intro _
    cases pyuv__getaddrinfo_process_result o inet G 0 res with
    | ok v => exact keeps_query_pure _
    | error err =>
      intro s a t h
      cases h
      rfl

theorem keeps_query_uv_getaddrinfo (async : Bool) (host service : Option (List UInt8)) :
    KeepsQuery (uv_getaddrinfo G async host service) := by
  unfold uv_getaddrinfo uv__getaddrinfo_work
  split
  · exact keeps_query_pure _
  · split
    · exact keeps_query_pure _
    · split
      · exact keeps_query_pure _
      · exact keeps_query_pure _
      · intro s a t h
        cases h
        rfl

theorem submit_submitted {async : Bool} {host service : Option (List UInt8)} {hints : List Int}
    {s t : dns.State} {ret : CallEnd}
    (h : submit o inet G async host service hints s = .ok ret t) :
    t.submitted = some (.getaddrinfo host service hints) := by
  let asked : dns.State := { s with submitted := some (.getaddrinfo host service hints) }
  have hkeeps : KeepsQuery (uv_getaddrinfo G async host service >>= fun r =>
      if r.1 < 0 then fail (.uv .UVError r.1) else finish o inet G async r.2 : Run CallEnd) := by
    apply (keeps_query_uv_getaddrinfo async host service).bind
    intro r
    split
    · intro s a t h
      cases h
    · exact keeps_query_finish async r.2
  exact hkeeps asked ret t h

/-- A call raises, or libuv has got the strings of the two arguments. -/
inductive Asked (G : GaiEnv) (args : GaiArgs) : EStateM.Result dns.Stop dns.State CallEnd → Prop
  where
  | raised (t : dns.State) : Asked G args (.ok .raised t)
  | asked {ret : CallEnd} {t : dns.State} {h v : Option (List UInt8)} {i a : Bool}
    {hints : List Int} (hhost : host_of G args.host = .got h i)
    (hservice : service_of G (args.service.getD .Py_None) = .got v a)
    (hsubmitted : t.submitted = some (.getaddrinfo h v hints)) : Asked G args (.ok ret t)

section

variable {args : GaiArgs} {L : Ledger Res} {m : Run CallEnd} {i a b : Bool} {t : dns.State}

theorem asked_of_goto (hm : m (State.initial L) = .error .goto_error t)
    (ht : Holds (owned L b.toNat) i a b.toNat b t) :
    Asked G args (guarded m (State.initial L)) := by
  obtain ⟨u, hrun, -⟩ := guarded_of_goto hm ht
  rw [hrun]
  exact .raised u

theorem asked_of_return_null (hm : m (State.initial L) = .error .return_null t) :
    Asked G args (guarded m (State.initial L)) := by
  rw [guarded_of_return_null hm]
  exact .raised t

/-- From where the request is there. -/
theorem submit_asked {async : Bool} {h v : Option (List UInt8)} {hints : List Int}
    (hhost : host_of G args.host = .got h i)
    (hservice : service_of G (args.service.getD .Py_None) = .got v a)
    (hm : m (State.initial L) = submit o inet G async h v hints t)
    (ht : Holds (owned L 1) i a 1 true t) : Asked G args (guarded m (State.initial L)) := by
  have hspec := submit_spec o inet G async h v hints ht
  generalize hrun : submit o inet G async h v hints t = r at hspec
  rw [hrun] at hm
  cases hspec with
  | failed hno hholds => exact asked_of_goto (b := true) hm hholds
  | request hasync hhas =>
    rw [guarded_of_ok hm]
    exact .asked hhost hservice (submit_submitted hrun)
  | returned hret htaken hsync hres hhas =>
    rw [guarded_of_ok hm]
    exact .asked hhost hservice (submit_submitted hrun)

/-- From where the encoding of the host, if any, is there. -/
theorem service_asked {async : Bool} {h : Option (List UInt8)} {hints : List Int}
    (hhost : host_of G args.host = .got h i)
    (hm : m (State.initial L) = (take_ascii (service_of G (args.service.getD .Py_None)) >>= fun v =>
      new_request G >>= fun _ => submit o inet G async h v hints) t)
    (ht : Holds L i false 0 false t) : Asked G args (guarded m (State.initial L)) := by
  have htake := take_ascii_spec (service_of G (args.service.getD .Py_None)) ht
  cases hservice : service_of G (args.service.getD .Py_None) with
  | unencoded e =>
    rw [hservice] at htake hm
    obtain ⟨u, hu, -⟩ := htake
    exact asked_of_return_null (hm.trans (bind_of_error hu))
  | refused e =>
    rw [hservice] at htake hm
    obtain ⟨u, hu, hholds⟩ := htake
    exact asked_of_goto (b := false) (hm.trans (bind_of_error hu)) hholds
  | got v a =>
    rw [hservice] at htake hm
    obtain ⟨u, hu, hholds⟩ := htake
    have hrequest := new_request_spec G hholds
    by_cases halloc : G.request_alloc = true
    · obtain ⟨w, hw, hwholds⟩ := hrequest.1 halloc
      have hsubmit : m (State.initial L) = submit o inet G async h v hints w := by
        rw [hm, bind_of_ok hu, bind_of_ok hw]
      exact submit_asked hhost hservice hsubmit hwholds
    · obtain ⟨w, hw, hwholds⟩ := hrequest.2 (Bool.eq_false_iff.mpr halloc)
      apply asked_of_goto (b := false) _ hwholds
      rw [hm, bind_of_ok hu, bind_of_error hw]

theorem attempt_asked (hints : List Int) :
    Asked G args (guarded (attempt o inet G args hints) (State.initial L)) := by
  rw [attempt_eq]
  have hspec := take_idna_spec (host_of G args.host) L
  cases hhost : host_of G args.host with
  | unencoded e =>
    rw [hhost] at hspec
    obtain ⟨t, ht, -⟩ := hspec
    exact asked_of_return_null (bind_of_error ht)
  | refused e =>
    rw [hhost] at hspec
    obtain ⟨t, ht, hholds⟩ := hspec
    exact asked_of_goto (b := false) (bind_of_error ht) hholds
  | got h i =>
    rw [hhost] at hspec
    obtain ⟨t, ht, hholds⟩ := hspec
    have hstart := fun (f : Option (List UInt8) → Run CallEnd) => bind_of_ok (f := f) ht
    by_cases hother : args.callback.getD .Py_None = .other
    · have hcheck : check_callback (args.callback.getD .Py_None) t = .error .goto_error
          { t with
            pending := some (.text .TypeError "'callback' must be a callable or None") } := by
        unfold check_callback
        rw [if_pos hother]
        rfl
      exact asked_of_goto (b := false) ((hstart _).trans (bind_of_error hcheck))
        hholds.with_pending
    · have hcheck : check_callback (args.callback.getD .Py_None) t = .ok () t := by
        unfold check_callback
        rw [if_neg hother]
        rfl
      have hpassed := fun (f : Unit → Run CallEnd) => bind_of_ok (f := f) hcheck
      exact service_asked hhost ((hstart _).trans (hpassed _)) hholds

theorem getaddrinfo_asked (o : ByteOrder) (inet : Inet) (G : GaiEnv) (args : GaiArgs)
    (L : Ledger Res) : Asked G args (Util_func_getaddrinfo o inet G args (State.initial L)) := by
  unfold Util_func_getaddrinfo
  cases args.loop with
  | false => exact .raised _
  | true =>
    cases integers.pass_all integers.Util_func_getaddrinfo.positions args.hints with
    | error e => exact .raised _
    | ok hints => exact attempt_asked hints

end

/-! ## Hosts and services that are seen whole -/

theorem resolver_string_whole {b : List UInt8} (hnul : 0 ∉ b) :
    resolver_string (some b) = some b := by
  unfold resolver_string
  rw [Option.map_some, c_str_c_str, c_str_eq_self_iff.mpr hnul]

theorem host_of_str (v : Str) {h : Option (List UInt8)} {i : Bool}
    (hhost : host_of G v.arg = .got h i) : ∃ b, v.encoded G.idna = .ok b ∧ h = some b := by
  cases v with
  | bytes data =>
    cases hhost
    exact ⟨data, rfl, rfl⟩
  | str text =>
    have hencode : encode G.idna text = .got h i := hhost
    unfold encode at hencode
    split at hencode
    · rename_i b hcodec
      cases hencode
      exact ⟨b, hcodec, rfl⟩
    · cases hencode

theorem service_of_str (v : Str) {s : Option (List UInt8)} {a : Bool}
    (hservice : service_of G v.arg = .got s a) : ∃ b, v.encoded G.ascii = .ok b ∧ s = some b := by
  cases v with
  | bytes data =>
    cases hservice
    exact ⟨data, rfl, rfl⟩
  | str text =>
    have hencode : encode G.ascii text = .got s a := hservice
    unfold encode at hencode
    split at hencode
    · rename_i b hcodec
      cases hencode
      exact ⟨b, hcodec, rfl⟩
    · cases hencode

theorem Asked.asks {args : GaiArgs} {r : EStateM.Result dns.Stop dns.State CallEnd}
    {host service : Option (List UInt8) → Prop} (hasked : Asked G args r)
    (hhost : ∀ h i, host_of G args.host = .got h i → host (resolver_string h))
    (hservice : ∀ v a, service_of G (args.service.getD .Py_None) = .got v a →
      service (resolver_string v)) : Asks host service r := by
  cases hasked with
  | raised t => trivial
  | @asked ret t h v i a hints hgot hgot' hsubmitted =>
    cases ret with
    | raised => trivial
    | value _ => exact ⟨h, v, hints, hsubmitted, hhost h i hgot, hservice v a hgot'⟩
    | request => exact ⟨h, v, hints, hsubmitted, hhost h i hgot, hservice v a hgot'⟩

theorem host_is_whole (o : ByteOrder) (inet : Inet) (G : GaiEnv) (args : GaiArgs) (L : Ledger Res)
    {v : Str} (harg : args.host = v.arg) (hnul : v.NoNul G.idna) :
    Asks (v.Whole G.idna) (fun _ => True)
      (Util_func_getaddrinfo o inet G args (State.initial L)) := by
  apply (getaddrinfo_asked o inet G args L).asks
  · intro h i hhost
    rw [harg] at hhost
    obtain ⟨b, hencoded, rfl⟩ := host_of_str v hhost
    exact ⟨b, hencoded, resolver_string_whole (hnul b hencoded)⟩
  · intro _ _ _
    trivial

theorem service_is_whole (o : ByteOrder) (inet : Inet) (G : GaiEnv) (args : GaiArgs)
    (L : Ledger Res) {v : Str} (harg : args.service = some v.arg) (hnul : v.NoNul G.ascii) :
    Asks (fun _ => True) (v.Whole G.ascii)
      (Util_func_getaddrinfo o inet G args (State.initial L)) := by
  apply (getaddrinfo_asked o inet G args L).asks
  · intro _ _ _
    trivial
  · intro s a hservice
    rw [harg] at hservice
    obtain ⟨b, hencoded, rfl⟩ := service_of_str v hservice
    exact ⟨b, hencoded, resolver_string_whole (hnul b hencoded)⟩

/-- A host or service without a NUL is seen whole. Of the name of a pipe as much is seen as an
address has room for, which is all of a name that fits, and that decides where the pipe is. -/
theorem strings_reach_the_os (o : ByteOrder) (inet : Inet) :
    (∀ G args L v, args.host = Str.arg v → v.NoNul G.idna →
      Asks (v.Whole G.idna) (fun _ => True)
        (Util_func_getaddrinfo o inet G args (State.initial L))) ∧
    (∀ G args L v, args.service = some (Str.arg v) → v.NoNul G.ascii →
      Asks (fun _ => True) (v.Whole G.ascii)
        (Util_func_getaddrinfo o inet G args (State.initial L))) ∧
    (∀ (m : Method) (arg : NameArg) (E : Env), arg.Regular →
      (m.call E arg).Clipped arg.text.encoded) ∧
    (∀ (m : Method) (arg : NameArg) (E : Env), arg.Fits →
      (m.call E arg).Complete arg.text.encoded) ∧
    ∀ (m m' : Method) (arg arg' : NameArg) (E E' : Env) (saddr saddr' : sockaddr_un),
      arg.Regular → arg'.Regular → m.call E arg = .returned (some saddr) →
      m'.call E' arg' = .returned (some saddr') →
      (saddr.place = saddr'.place ↔
        arg.text.encoded.map clipped = arg'.text.encoded.map clipped) := by
  refine ⟨?_, ?_, ?_, ?_, ?_⟩
  · intro G args L v harg hnul
    exact host_is_whole o inet G args L harg hnul
  · intro G args L v harg hnul
    exact service_is_whole o inet G args L harg hnul
  · intro m arg E hregular
    exact m.clipped E hregular
  · intro m arg E hfits
    exact (m.complete_iff arg).mpr hfits E
  · intro m m' arg arg' E E' saddr saddr' hregular hregular' h h'
    obtain ⟨name, hname, hclips⟩ := Method.clips hregular h
    obtain ⟨name', hname', hclips'⟩ := Method.clips hregular' h'
    rw [hname, hname', hclips.place, hclips'.place, Option.map_some, Option.map_some,
      Option.some.injEq]
    constructor
    · exact place_of_injective clipped_length clipped_length
    · exact congrArg place_of

/-- A name of 108 bytes binds the path of its first 107. -/
theorem a_long_name_is_clipped :
    ∃ (E : Env) (arg arg' : NameArg) (saddr : sockaddr_un),
      arg.text = .bytes (List.replicate 108 97) ∧ arg'.text = .bytes (List.replicate 107 97) ∧
      Pipe_func_bind E arg = .returned (some saddr) ∧
      Pipe_func_bind E arg' = .returned (some saddr) ∧
      ¬ (Pipe_func_bind E arg).Complete arg.text.encoded := by
  refine ⟨⟨none, 0, fun _ => 0, none⟩, ⟨.bytes (List.replicate 108 97), by decide⟩,
    ⟨.bytes (List.replicate 107 97), by decide⟩, unix_address (List.replicate 107 97), rfl, rfl,
    by rfl, by rfl, ?_⟩
  rintro ⟨data, hdata, hwhole⟩
  cases hdata
  have hfits : Fits (List.replicate 108 97) := (seen_unix_address_eq_iff (by decide)).mp hwhole
  exact absurd hfits.1 (by decide)

end pyuv.os_strings
