-- The address texts of libuv (src/deps/libuv/src/inet.c): uv_inet_pton reads the text of an
-- address and uv_inet_ntop writes it. A C string is the list of the chars before its NUL, and a
-- load or a store outside of an array ends the run.
import Pyuv.Integers
import Pyuv.Lib.Blocks
import Pyuv.Lib.Numerals

set_option linter.style.nameCheck false

namespace pyuv.inet

open blocks

/-- A byte. -/
abbrev unsigned_char := BitVec 8

/-- struct in_addr and struct in6_addr, byte by byte. -/
abbrev in_addr := Block unsigned_char 4

/-- The bytes of an IPv6 address, as they stand in memory. -/
abbrev in6_addr := Block unsigned_char 16

def UV__INET_ADDRSTRLEN : ℕ := 16
def UV__INET6_ADDRSTRLEN : ℕ := 46

/-- How a function ends but with 0. `overrun` is no code of libuv: it is a load or a store
outside of an array. -/
inductive Fault where
  | UV_EINVAL
  | UV_ENOSPC
  | UV_EAFNOSUPPORT
  | overrun
deriving DecidableEq, Repr

/-- What an access to an array gives, where the array has it. -/
def access {α : Type} : Option α → Except Fault α
  | some a => .ok a
  | none => .error .overrun

/-! ## inet_pton4 -/

/-- The table of inet_pton4. -/
def digits : List Char := ['0', '1', '2', '3', '4', '5', '6', '7', '8', '9']

/-- The locals of inet_pton4. `tmp` is the array as far as it is written: `tp` points to the
last of its items. -/
structure Pton4 where
  saw_digit : Bool
  octets : ℕ
  tmp : List unsigned_char
deriving DecidableEq, Repr

/-- *++tp = 0 -/
def Pton4.next_octet (s : Pton4) : Except Fault Pton4 :=
  if s.tmp.length < 4 then .ok { s with tmp := s.tmp ++ [0], saw_digit := false }
  else .error .overrun

/-- *tp = nw -/
def Pton4.set_octet (s : Pton4) (nw : ℕ) : Pton4 :=
  { s with tmp := s.tmp.dropLast ++ [BitVec.ofNat 8 nw] }

/-- The branch of a digit. -/
def Pton4.digit (s : Pton4) (d : ℕ) : Except Fault Pton4 := do
  let tp ← access s.tmp.getLast?
  let nw := tp.toNat * 10 + d
  if s.saw_digit ∧ tp = 0 then .error .UV_EINVAL
  else if nw > 255 then .error .UV_EINVAL
  else
    let s := s.set_octet nw
    if ¬s.saw_digit then
      if s.octets + 1 > 4 then .error .UV_EINVAL
      else .ok { s with octets := s.octets + 1, saw_digit := true }
    else .ok s

/-- The loop over the text. -/
def Pton4.loop : Pton4 → List Char → Except Fault Pton4
  | s, [] => .ok s
  | s, ch :: src =>
    match digits.idxOf? ch with
    | some d => do
      let s ← s.digit d
      s.loop src
    | none =>
      if ch = '.' ∧ s.saw_digit then
        if s.octets = 4 then .error .UV_EINVAL
        else do
          let s ← s.next_octet
          s.loop src
      else .error .UV_EINVAL

/-- What follows the loop. -/
def Pton4.finish (s : Pton4) : Except Fault in_addr :=
  if s.octets < 4 then .error .UV_EINVAL else access (Block.ofList s.tmp)

/-- Before the first character. -/
def Pton4.start : Pton4 := { saw_digit := false, octets := 0, tmp := [0] }

/-- Four numbers in decimals, with points between them. -/
def inet_pton4 (src : List Char) : Except Fault in_addr := do
  let s ← Pton4.start.loop src
  s.finish

/-! ## inet_pton6 -/

/-- The table of inet_pton6 for lower case. -/
def xdigits_l : List Char :=
  ['0', '1', '2', '3', '4', '5', '6', '7', '8', '9', 'a', 'b', 'c', 'd', 'e', 'f']

/-- That for upper case. -/
def xdigits_u : List Char :=
  ['0', '1', '2', '3', '4', '5', '6', '7', '8', '9', 'A', 'B', 'C', 'D', 'E', 'F']

/-- pch - xdigits, in the lower digits or else in the upper ones. -/
def xdigit (ch : Char) : Option ℕ := (xdigits_l.idxOf? ch).or (xdigits_u.idxOf? ch)

/-- The locals of inet_pton6. `tp` and `colonp` are places in `tmp`. -/
structure Pton6 where
  tmp : in6_addr
  tp : ℕ
  colonp : Option ℕ
  curtok : List Char
  seen_xdigits : ℕ
  val : ℕ
deriving DecidableEq, Repr

/-- The end of the array. -/
def Pton6.endp : ℕ := 16

/-- val <<= 4; val |= d; ++seen_xdigits -/
def Pton6.push (s : Pton6) (d : ℕ) : Pton6 :=
  { s with val := s.val <<< 4 ||| d, seen_xdigits := s.seen_xdigits + 1 }

/-- The two bytes of a word, the high one first. -/
def word_bytes (val : ℕ) : List unsigned_char := [BitVec.ofNat 8 (val >>> 8), BitVec.ofNat 8 val]

/-- *tp++ = (unsigned char) (val >> 8) & 0xff; *tp++ = (unsigned char) val & 0xff -/
def Pton6.put_val (s : Pton6) : Except Fault Pton6 :=
  if s.tp + 2 > Pton6.endp then .error .UV_EINVAL
  else do
    let tmp ← access (s.tmp.store s.tp (word_bytes s.val))
    return { s with tmp, tp := s.tp + 2 }

/-- The loop over the text, up to its end or to the break. -/
def Pton6.loop : Pton6 → List Char → Except Fault Pton6
  | s, [] => .ok s
  | s, ch :: src =>
    match xdigit ch with
    | some d =>
      if (s.push d).seen_xdigits > 4 then .error .UV_EINVAL else (s.push d).loop src
    | none =>
      if ch = ':' then
        if s.seen_xdigits = 0 then
          if s.colonp.isSome then .error .UV_EINVAL
          else Pton6.loop { s with curtok := src, colonp := some s.tp } src
        else if src = [] then .error .UV_EINVAL
        else do
          let s ← s.put_val
          Pton6.loop { s with curtok := src, seen_xdigits := 0, val := 0 } src
      else if ch = '.' ∧ s.tp + 4 ≤ Pton6.endp then
        match inet_pton4 s.curtok with
        | .ok a => do
          let tmp ← access (s.tmp.store s.tp a.items)
          return { s with tmp, tp := s.tp + 4, seen_xdigits := 0 }
        | .error .overrun => .error .overrun
        | .error _ => .error .UV_EINVAL
      else .error .UV_EINVAL

/-- endp[-i] = colonp[n - i]; colonp[n - i] = 0 -/
def shift_step (colonp n : ℕ) (tmp : in6_addr) (i : ℕ) : Except Fault in6_addr := do
  let x ← access (tmp.load (colonp + n - i))
  let tmp ← access (tmp.store (Pton6.endp - i) [x])
  access (tmp.store (colonp + n - i) [0])

/-- for (i = 1; i <= n; i++), where the bytes from `colonp` on go to the end. -/
def shift (colonp n : ℕ) (tmp : in6_addr) : Except Fault in6_addr :=
  (List.range' 1 n).foldlM (shift_step colonp n) tmp

/-- if (colonp != NULL) -/
def Pton6.fill_gap (s : Pton6) : Except Fault Pton6 :=
  match s.colonp with
  | none => .ok s
  | some colonp =>
    if s.tp = Pton6.endp then .error .UV_EINVAL
    else do
      let tmp ← shift colonp (s.tp - colonp) s.tmp
      return { s with tmp, tp := Pton6.endp }

/-- What follows the loop. -/
def Pton6.finish (s : Pton6) : Except Fault in6_addr := do
  let s ← if s.seen_xdigits ≠ 0 then s.put_val else .ok s
  let s ← s.fill_gap
  if s.tp ≠ Pton6.endp then .error .UV_EINVAL else .ok s.tmp

/-- A new token, with the bytes that are stored so far. -/
def Pton6.token (tmp : in6_addr) (tp : ℕ) (colonp : Option ℕ) (src : List Char) : Pton6 :=
  { tmp, tp, colonp, curtok := src, seen_xdigits := 0, val := 0 }

/-- The array after its memset. -/
def zeros : in6_addr := ⟨List.replicate 16 0, rfl⟩

/-- The loop over the text, and what follows it. -/
def Pton6.run (s : Pton6) (src : List Char) : Except Fault in6_addr := do
  let s ← s.loop src
  s.finish

/-- A text that begins with one colon has to go on with another. -/
def inet_pton6 : List Char → Except Fault in6_addr
  | ':' :: ':' :: src => (Pton6.token zeros 0 none (':' :: src)).run (':' :: src)
  | ':' :: _ => .error .UV_EINVAL
  | src => (Pton6.token zeros 0 none src).run src

/-! ## inet_ntop4 and inet_ntop6 -/

/-- "%u.%u.%u.%u" -/
def dotted (octets : List unsigned_char) : List Char :=
  List.intercalate ['.'] (octets.map fun o => Nat.toDigits 10 o.toNat)

/-- The text is written into an array of its own first. -/
def inet_ntop4 (src : in_addr) (size : ℕ) : Except Fault (List Char) :=
  let tmp := (dotted src.items).take (UV__INET_ADDRSTRLEN - 1)
  let l := (dotted src.items).length
  if l = 0 ∨ l ≥ size then .error .UV_ENOSPC else .ok tmp

/-- A run of zero words. A base of -1 is `none`. -/
structure Run where
  base : Option ℕ
  len : ℕ
deriving DecidableEq, Repr

/-- words[i] -/
def word (src : in6_addr) (i : ℕ) : ℕ :=
  ((src.items[2 * i]?.getD 0).toNat <<< 8) ||| (src.items[2 * i + 1]?.getD 0).toNat

/-- The address in eight words of 16 bits. -/
def words (src : in6_addr) : List ℕ := (List.range 8).map (word src)

/-- if (best.base == -1 || cur.len > best.len) best = cur -/
def Run.better (best cur : Run) : Run :=
  if best.base = none ∨ cur.len > best.len then cur else best

/-- One pass of the loop that looks for the runs: best and cur, and the index. -/
def find_step (s : Run × Run) (i w : ℕ) : Run × Run :=
  if w = 0 then
    if s.2.base = none then (s.1, { base := some i, len := 1 })
    else (s.1, { s.2 with len := s.2.len + 1 })
  else if s.2.base ≠ none then (s.1.better s.2, { s.2 with base := none })
  else s

/-- The search for the longest run of zeros, from word `i` on. -/
def find_loop : Run × Run → ℕ → List ℕ → Run × Run
  | s, _, [] => s
  | s, i, w :: ws => find_loop (find_step s i w) (i + 1) ws

/-- The run of zero words that "::" stands for. -/
def find_best (ws : List ℕ) : Run :=
  let s := find_loop ({ base := none, len := 0 }, { base := none, len := 0 }) 0 ws
  let best := if s.2.base ≠ none then s.1.better s.2 else s.1
  if best.base ≠ none ∧ best.len < 2 then { best with base := none } else best

/-- best.base != -1 && i >= best.base && i < (best.base + best.len) -/
def Run.inside (best : Run) (i : ℕ) : Bool :=
  match best.base with
  | none => false
  | some base => base ≤ i && i < base + best.len

/-- Whether the words from 6 on are written as an IPv4 address. -/
def encapsulated (best : Run) (ws : List ℕ) (i : ℕ) : Bool :=
  i = 6 && best.base = some 0 &&
    (best.len = 6 || (best.len = 7 && ws[7]? ≠ some 1) || (best.len = 5 && ws[5]? = some 0xffff))

/-- src + 12 -/
def last4 (src : in6_addr) : in_addr :=
  ⟨src.items.drop 12, by rw [List.length_drop, src.sized]⟩

/-- The loop that writes the words, from the i-th on. `tmp` is what is written of the array. -/
def write_words (src : in6_addr) (best : Run) : ℕ → List ℕ → List Char → Except Fault (List Char)
  | _, [], tmp => .ok tmp
  | i, w :: ws, tmp =>
    if best.inside i then
      write_words src best (i + 1) ws (if best.base = some i then tmp ++ [':'] else tmp)
    else
      let tmp := if i ≠ 0 then tmp ++ [':'] else tmp
      if encapsulated best (words src) i then do
        let quad ← inet_ntop4 (last4 src) (UV__INET6_ADDRSTRLEN - tmp.length)
        return tmp ++ quad
      else write_words src best (i + 1) ws (tmp ++ Nat.toDigits 16 w)

/-- What is in tmp before its NUL. -/
def ntop6_text (src : in6_addr) : Except Fault (List Char) := do
  let best := find_best (words src)
  let tmp ← write_words src best 0 (words src) []
  return if best.base.any (fun base => base + best.len = 8) then tmp ++ [':'] else tmp

/-- The text has to fit into the array, and then into the space of the caller. -/
def inet_ntop6 (src : in6_addr) (size : ℕ) : Except Fault (List Char) := do
  let tmp ← ntop6_text src
  if tmp.length ≥ UV__INET6_ADDRSTRLEN then .error .overrun
  else if tmp.length + 1 > size then .error .UV_ENOSPC
  else .ok tmp

/-! ## uv_inet_pton and uv_inet_ntop -/

/-- uv_inet_pton with AF_INET6: a zone is left out. The length of the text before it is an int,
and a negative one is a number of bytes for memcpy that no array has. -/
def uv_inet_pton6 (src : List Char) : Except Fault in6_addr :=
  match src.idxOf? '%' with
  | some p =>
    let len := integers.int.wrap p
    if len > UV__INET6_ADDRSTRLEN - 1 then .error .UV_EINVAL
    else if len < 0 then .error .overrun
    else inet_pton6 (src.take len.toNat)
  | none => inet_pton6 src

/-- What `dst` holds. -/
inductive Address where
  | AF_INET (a : in_addr)
  | AF_INET6 (a : in6_addr)
deriving DecidableEq, Repr

/-- The families that uv_inet_pton and uv_inet_ntop know. -/
inductive Family where
  | AF_INET
  | AF_INET6
  | other
deriving DecidableEq, Repr

/-- `none` is a NULL `src`. -/
def uv_inet_pton (af : Family) : Option (List Char) → Except Fault Address
  | none => .error .UV_EINVAL
  | some src =>
    match af with
    | .AF_INET => (inet_pton4 src).map .AF_INET
    | .AF_INET6 => (uv_inet_pton6 src).map .AF_INET6
    | .other => .error .UV_EAFNOSUPPORT

/-- The text of an address of either family. -/
def uv_inet_ntop : Address → ℕ → Except Fault (List Char)
  | .AF_INET src, size => inet_ntop4 src size
  | .AF_INET6 src, size => inet_ntop6 src size

end pyuv.inet
