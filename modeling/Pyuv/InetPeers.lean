-- The address texts of libuv under the address tuples of pyuv: which host texts a tuple can
-- have, and that the tuple of a socket address is read back. The zone of a text is left out by
-- uv_inet_pton, and uv_ip6_addr (src/deps/libuv/src/uv-common.c) cuts the text before it.
import Pyuv.AddrContract
import Pyuv.InetNames
import Pyuv.Lib.Utf8
import Mathlib.Data.List.TakeWhile
import Mathlib.Data.List.Induction
import Mathlib.Algebra.Group.Nat.Defs

namespace pyuv.inet

open blocks byte_order cints pyuv.addr_tuples

variable {src text : List Char} {n : ℕ}

/-! ## Zones -/

/-- The text before the first '%'. -/
def address_part (src : List Char) : List Char := src.takeWhile (· ≠ '%')

theorem address_part_eq_self (h : '%' ∉ src) : address_part src = src := by
  refine List.takeWhile_eq_self_iff.mpr ?_
  intro c hc
  have hne : c ≠ '%' := fun heq => h (heq ▸ hc)
  simpa using hne

theorem address_part_zoned (h : '%' ∉ src) (zone : List Char) :
    address_part (src ++ '%' :: zone) = src := by
  unfold address_part
  rw [List.takeWhile_append_of_pos]
  · rw [List.takeWhile_cons_of_neg (by simp), List.append_nil]
  · intro c hc
    have hne : c ≠ '%' := fun heq => h (heq ▸ hc)
    simpa using hne

/-- strchr(src, '%') is after the part before it. -/
theorem idxOf_percent (src : List Char) :
    (src.idxOf? '%' = none ∧ '%' ∉ src) ∨
      ∃ zone, src.idxOf? '%' = some (address_part src).length ∧
      src = address_part src ++ '%' :: zone := by
  induction src with
  | nil => exact .inl ⟨rfl, by simp⟩
  | cons c src ih =>
    by_cases hc : c = '%'
    · subst hc
      exact .inr ⟨src, by simp [address_part, List.idxOf?_cons], by simp [address_part]⟩
    · have hpart : address_part (c :: src) = c :: address_part src := by
        simp [address_part, hc]
      rcases ih with ⟨hnone, hmem⟩ | ⟨zone, hsome, hsrc⟩
      · refine .inl ⟨?_, ?_⟩
        · rw [List.idxOf?_cons, hnone]
          simp [hc]
        · intro h
          rcases List.mem_cons.mp h with h | h
          · exact hc h.symm
          · exact hmem h
      · refine .inr ⟨zone, ?_, ?_⟩
        · rw [List.idxOf?_cons, hsome, hpart]
          simp [hc]
        · rw [hpart, List.cons_append, ← hsrc]

theorem inet_pton6_of_long (h : UV__INET6_ADDRSTRLEN ≤ src.length) :
    inet_pton6 src = .error .UV_EINVAL := by
  rcases inet_pton6_text_or_einval src with ⟨a, t, -, rfl, -⟩ | he
  · have hlt := t.text_length_lt
    omega
  · exact he

/-- What an int makes of a length. -/
theorem int_wrap_eq (n : ℕ) : integers.int.wrap n = ((n : Int) + 2 ^ 31) % 2 ^ 32 - 2 ^ 31 := by
  unfold IntType.wrap IntType.low IntType.modulus integers.int
  norm_num
  omega

theorem int_wrap_length (h : n < 2 ^ 31) : integers.int.wrap n = n := by
  rw [int_wrap_eq]
  omega

/-- What uv_inet_pton makes of a text with a zone: the length before it decides. -/
theorem uv_inet_pton6_zoned (h : '%' ∉ text) (zone : List Char) :
    uv_inet_pton6 (text ++ '%' :: zone) =
      if integers.int.wrap text.length > UV__INET6_ADDRSTRLEN - 1 then .error .UV_EINVAL
      else if integers.int.wrap text.length < 0 then .error .overrun
      else inet_pton6 ((text ++ '%' :: zone).take (integers.int.wrap text.length).toNat) := by
  have hpart := address_part_zoned h zone
  rcases idxOf_percent (text ++ '%' :: zone) with ⟨-, hmem⟩ | ⟨zone', hsome, -⟩
  · exact absurd (List.mem_append_right _ List.mem_cons_self) hmem
  · rw [hpart] at hsome
    unfold uv_inet_pton6
    rw [hsome]

/-- The part before the zone is the address, as long as an int counts its chars. -/
theorem uv_inet_pton6_eq (h : (address_part src).length < 2 ^ 31) :
    uv_inet_pton6 src = inet_pton6 (address_part src) := by
  rcases idxOf_percent src with ⟨hnone, hmem⟩ | ⟨zone, -, hsrc⟩
  · unfold uv_inet_pton6
    rw [hnone, address_part_eq_self hmem]
  · have hno : '%' ∉ address_part src := fun hmem => by
      simpa using List.mem_takeWhile_imp hmem
    have hzoned := uv_inet_pton6_zoned hno zone
    rw [← hsrc, int_wrap_length h] at hzoned
    rw [hzoned]
    by_cases hlong : (address_part src).length ≥ UV__INET6_ADDRSTRLEN
    · have hgt : ((address_part src).length : Int) > UV__INET6_ADDRSTRLEN - 1 := by omega
      rw [if_pos hgt, inet_pton6_of_long hlong]
    · have hle : ¬((address_part src).length : Int) > UV__INET6_ADDRSTRLEN - 1 := by omega
      have hnonneg : ¬((address_part src).length : Int) < 0 := by omega
      have htake : src.take (address_part src).length = address_part src :=
        (congrArg (List.take (address_part src).length) hsrc).trans List.take_left
      rw [if_neg hle, if_neg hnonneg, Int.toNat_natCast, htake]

/-! ## Octets and words -/

/-- The number that octets stand for, the first one on top. -/
def number (octets : List unsigned_char) : ℕ := octets.foldl (fun n o => n * 256 + o.toNat) 0

/-- The last `n` octets of a number. -/
def octets_of : ℕ → ℕ → List unsigned_char
  | 0, _ => []
  | n + 1, a => octets_of n (a / 256) ++ [BitVec.ofNat 8 a]

theorem octets_of_length (n a : ℕ) : (octets_of n a).length = n := by
  induction n generalizing a with
  | zero => rfl
  | succ n ih => rw [octets_of, List.length_append, ih, List.length_singleton]

theorem number_push (octets : List unsigned_char) (o : unsigned_char) :
    number (octets ++ [o]) = number octets * 256 + o.toNat := by
  rw [number, List.foldl_append]
  rfl

theorem number_octets_of (n a : ℕ) : number (octets_of n a) = a % 256 ^ n := by
  induction n generalizing a with
  | zero =>
    rw [Nat.pow_zero, Nat.mod_one]
    rfl
  | succ n ih =>
    have hsplit : a % 256 ^ (n + 1) = a % 256 + 256 * (a / 256 % 256 ^ n) := by
      rw [Nat.pow_succ', Nat.mod_mul]
    rw [octets_of, number_push, ih, BitVec.toNat_ofNat, hsplit]
    omega

theorem octets_of_number (octets : List unsigned_char) :
    octets_of octets.length (number octets) = octets := by
  induction octets using List.reverseRecOn with
  | nil => rfl
  | append_singleton octets o ih =>
    have hlt := o.isLt
    have hdiv : number (octets ++ [o]) / 256 = number octets := by
      rw [number_push]
      omega
    have ho : BitVec.ofNat 8 (number (octets ++ [o])) = o := by
      apply BitVec.eq_of_toNat_eq
      rw [BitVec.toNat_ofNat, number_push]
      omega
    rw [List.length_append, List.length_singleton, octets_of, hdiv, ih, ho]

/-- The address as one word. -/
def to_word (w : ℕ) {n : ℕ} (a : Block unsigned_char n) : BitVec w :=
  BitVec.ofNat w (number a.items)

/-- The bytes of a number, the highest first. -/
def of_word {w : ℕ} (n : ℕ) (a : BitVec w) : Block unsigned_char n :=
  ⟨octets_of n a.toNat, octets_of_length n a.toNat⟩

theorem to_word_of_word {w : ℕ} (hw : 256 ^ n = 2 ^ w) (a : BitVec w) :
    to_word w (of_word n a) = a := by
  apply BitVec.eq_of_toNat_eq
  rw [to_word, of_word, BitVec.toNat_ofNat, number_octets_of, hw, Nat.mod_mod,
    Nat.mod_eq_of_lt a.isLt]

theorem number_lt (octets : List unsigned_char) : number octets < 256 ^ octets.length := by
  induction octets using List.reverseRecOn with
  | nil => decide
  | append_singleton octets o ih =>
    have hlt := o.isLt
    rw [number_push, List.length_append, List.length_singleton, Nat.pow_succ]
    omega

theorem of_word_to_word {w : ℕ} (hw : 256 ^ n = 2 ^ w) (a : Block unsigned_char n) :
    of_word n (to_word w a) = a := by
  have hlt := number_lt a.items
  rw [a.sized, hw] at hlt
  have hback := octets_of_number a.items
  rw [a.sized] at hback
  apply Block.ext
  change octets_of n (BitVec.ofNat w (number a.items)).toNat = a.items
  rw [BitVec.toNat_ofNat, Nat.mod_eq_of_lt hlt, hback]

theorem octets4 : 256 ^ 4 = 2 ^ 32 := by decide

theorem octets16 : 256 ^ 16 = 2 ^ 128 := by decide

/-! ## The texts of Python -/

/-- The chars of a str, which come through "s" in UTF-8. -/
def c_chars (text : List Char) : List Char := (utf8.encode text).map fun b => Char.ofNat b.toNat

/-- A text of ASCII characters, as every text of an address is. -/
def Ascii (text : List Char) : Prop := ∀ c ∈ text, c.toNat < 128

theorem c_chars_append (s t : List Char) : c_chars (s ++ t) = c_chars s ++ c_chars t := by
  unfold c_chars utf8.encode
  rw [List.flatMap_append, List.map_append]

theorem c_chars_ascii_char {c : Char} (hc : c.toNat < 128) : c_chars [c] = [c] := by
  have hval : c.val.toNat < 128 := hc
  have hsize : c.utf8Size = 1 := by
    rw [Char.utf8Size_eq_one_iff, UInt32.le_iff_toNat_le]
    exact Nat.lt_succ_iff.mp hval
  have hbyte : c.val.toUInt8.toNat = c.toNat := by
    rw [UInt32.toNat_toUInt8]
    exact Nat.mod_eq_of_lt (by omega)
  unfold c_chars utf8.encode
  rw [List.flatMap_singleton, String.utf8EncodeChar_eq_singleton hsize, List.map_singleton, hbyte,
    Char.ofNat_toNat]

theorem c_chars_ascii (h : Ascii text) : c_chars text = text := by
  induction text with
  | nil => rfl
  | cons c text ih =>
    have hsplit := c_chars_append [c] text
    rw [c_chars_ascii_char (h c List.mem_cons_self), ih fun d hd => h d (List.mem_cons_of_mem c hd)]
      at hsplit
    exact hsplit

theorem toNat_ofNat_byte (b : UInt8) : (Char.ofNat b.toNat).toNat = b.toNat := by
  have hlt := b.toNat_lt
  have hvalid : b.toNat.isValidChar := .inl (by omega)
  unfold Char.ofNat
  rw [dif_pos hvalid]
  rfl

theorem c_chars_injective {s t : List Char} (h : c_chars s = c_chars t) : s = t := by
  refine utf8.encode_injective (List.map_injective_iff.mpr ?_ h)
  intro b b' heq
  have hnat := congrArg Char.toNat heq
  rw [toNat_ofNat_byte, toNat_ofNat_byte] at hnat
  exact UInt8.toNat_inj.mp hnat

/-- An ASCII text is the chars of itself only. -/
theorem c_chars_eq_ascii_iff {s : List Char} (h : Ascii s) : c_chars text = s ↔ text = s := by
  constructor
  · intro heq
    rw [← c_chars_ascii h] at heq
    exact c_chars_injective heq
  · rintro rfl
    exact c_chars_ascii h

/-! ## The texts of addresses -/

theorem ascii_append {s t : List Char} : Ascii (s ++ t) ↔ Ascii s ∧ Ascii t := by
  unfold Ascii
  constructor
  · intro h
    exact ⟨fun c hc => h c (List.mem_append_left t hc), fun c hc =>
      h c (List.mem_append_right s hc)⟩
  · rintro ⟨hs, ht⟩ c hc
    rcases List.mem_append.mp hc with hc | hc
    · exact hs c hc
    · exact ht c hc

theorem ascii_singleton {c : Char} (hc : c.toNat < 128) : Ascii [c] := by
  intro d hd
  rw [List.mem_singleton.mp hd]
  exact hc

theorem ascii_cons {c : Char} : Ascii (c :: text) ↔ c.toNat < 128 ∧ Ascii text := by
  simp [Ascii]

/-- The characters that texts of addresses are made of. -/
structure Plainly (text : List Char) : Prop where
  ascii : Ascii text
  no_nul : '\x00' ∉ text
  no_percent : '%' ∉ text
  no_angle : '<' ∉ text

theorem Plainly.nil : Plainly [] := ⟨by simp [Ascii], by simp, by simp, by simp⟩

theorem Plainly.append {s t : List Char} (hs : Plainly s) (ht : Plainly t) : Plainly (s ++ t) := by
  refine ⟨ascii_append.mpr ⟨hs.ascii, ht.ascii⟩, ?_, ?_, ?_⟩
  · exact fun h => (List.mem_append.mp h).elim hs.no_nul ht.no_nul
  · exact fun h => (List.mem_append.mp h).elim hs.no_percent ht.no_percent
  · exact fun h => (List.mem_append.mp h).elim hs.no_angle ht.no_angle

theorem plainly_of_xdigits (h : ∀ c ∈ text, ∃ d, xdigit c = some d) : Plainly text := by
  have hbad : xdigit '\x00' = none ∧ xdigit '%' = none ∧ xdigit '<' = none := by decide
  have hmem : ∀ c, xdigit c = none → c ∉ text := by
    intro c hnone hc
    obtain ⟨d, hd⟩ := h c hc
    rw [hnone] at hd
    cases hd
  refine ⟨?_, hmem _ hbad.1, hmem _ hbad.2.1, hmem _ hbad.2.2⟩
  intro c hc
  obtain ⟨d, hd⟩ := h c hc
  have hdigits : (xdigits_l ++ xdigits_u).all (fun c => c.toNat < 128) = true := by decide
  refine of_decide_eq_true (List.all_eq_true.mp hdigits c ?_)
  unfold xdigit at hd
  rcases hlower : xdigits_l.idxOf? c with _ | e
  · rw [hlower, Option.none_or] at hd
    obtain ⟨hlt, rfl, -⟩ := List.idxOf?_eq_some_iff.mp hd
    exact List.mem_append_right _ (List.getElem_mem hlt)
  · obtain ⟨hlt, rfl, -⟩ := List.idxOf?_eq_some_iff.mp hlower
    exact List.mem_append_left _ (List.getElem_mem hlt)

theorem plainly_dotted (octets : List unsigned_char) : Plainly (dotted octets) := by
  have hdot : Plainly ['.'] := ⟨ascii_singleton (by decide), by decide, by decide, by decide⟩
  cases octets with
  | nil => exact Plainly.nil
  | cons m ms =>
    induction ms generalizing m with
    | nil =>
      rw [dotted_singleton]
      exact plainly_of_xdigits (few_toDigits m).hex
    | cons m' ms ih =>
      rw [dotted_cons, ← List.singleton_append]
      exact (plainly_of_xdigits (few_toDigits m).hex).append (hdot.append (ih m'))

theorem plainly_colon : Plainly [':'] :=
  ⟨ascii_singleton (by decide), by decide, by decide, by decide⟩

theorem Group.plainly (g : Group) : Plainly g.digits := plainly_of_xdigits g.hex

theorem Tail.plainly (t : Tail) : Plainly t.text := by
  induction t with
  | group g => exact g.plainly
  | quad a => exact plainly_dotted a.items
  | cons g t ih =>
    rw [Tail.text, ← List.singleton_append]
    exact g.plainly.append (plainly_colon.append ih)

theorem plainly_left_text (left : List Group) : Plainly (left_text left) := by
  cases left with
  | nil => exact Plainly.nil
  | cons g gs =>
    rw [left_text_cons]
    refine g.plainly.append ?_
    induction gs with
    | nil => exact Plainly.nil
    | cons g gs ih =>
      rw [List.flatMap_cons, ← List.singleton_append]
      exact (plainly_colon.append g.plainly).append ih

theorem Text6.plainly (t : Text6) : Plainly t.text := by
  cases t with
  | full t h => exact t.plainly
  | gapped left right h =>
    have hright : Plainly (rest_text right) := by
      cases right with
      | none => exact Plainly.nil
      | some t => exact t.plainly
    have hcolons : Plainly [':', ':'] := plainly_colon.append plainly_colon
    exact (plainly_left_text left).append (hcolons.append hright)

/-- An IPv6 text has a colon, which no quad has. -/
theorem colon_mem_text (t : Text6) : ':' ∈ t.text := by
  cases t with
  | full t h =>
    cases t with
    | group g => exact absurd h (by rw [Tail.bytes, g.bytes_length]; decide)
    | quad a => exact absurd h (by rw [Tail.bytes, a.sized]; decide)
    | cons g t => simp [Text6.text, Tail.text]
  | gapped left right h => simp [Text6.text]

theorem colon_not_mem_dotted (octets : List unsigned_char) : ':' ∉ dotted octets := by
  have hdigits : ∀ m : unsigned_char, ':' ∉ Nat.toDigits 10 m.toNat := by
    intro m hmem
    obtain ⟨d, hd⟩ := (few_toDigits m).hex ':' hmem
    rw [xdigit_colon] at hd
    cases hd
  cases octets with
  | nil => simp [dotted, List.intercalate]
  | cons m ms =>
    induction ms generalizing m with
    | nil =>
      rw [dotted_singleton]
      exact hdigits m
    | cons m' ms ih =>
      rw [dotted_cons, List.mem_append, List.mem_cons]
      rintro (hmem | hdot | hmem)
      · exact hdigits m hmem
      · exact absurd hdot (by decide)
      · exact ih m' hmem

/-! ## The texts of libuv in the tuples of pyuv -/

/-- sizeof(buf) in makesockaddr -/
def name_size : ℕ := UV__INET6_ADDRSTRLEN + 1

/-- uv_inet_pton on the host of a tuple, and what uv_ip4_name and uv_ip6_name leave in buf. -/
def libuv : Inet where
  pton4 text :=
    match uv_inet_pton .AF_INET (some (c_chars text)) with
    | .ok (.AF_INET a) => some (to_word 32 a)
    | _ => none
  pton6 text :=
    match uv_inet_pton .AF_INET6 (some (c_chars text)) with
    | .ok (.AF_INET6 a) => some (to_word 128 a)
    | _ => none
  ip4_name a := (uv_inet_ntop (.AF_INET (of_word 4 a)) name_size).toOption.getD []
  ip6_name a := (uv_inet_ntop (.AF_INET6 (of_word 16 a)) name_size).toOption.getD []

theorem libuv_pton4_eq :
    libuv.pton4 text = (inet_pton4 (c_chars text)).toOption.map (to_word 32) := by
  unfold libuv uv_inet_pton
  dsimp only
  cases inet_pton4 (c_chars text) <;> rfl

theorem libuv_pton6_eq :
    libuv.pton6 text = (uv_inet_pton6 (c_chars text)).toOption.map (to_word 128) := by
  unfold libuv uv_inet_pton
  dsimp only
  cases uv_inet_pton6 (c_chars text) <;> rfl

theorem toOption_map_eq_some_iff {α β : Type} {r : Except Fault α} {f : α → β} {b : β} :
    r.toOption.map f = some b ↔ ∃ a, r = .ok a ∧ f a = b := by
  cases r <;> simp [Except.toOption]

theorem to_word_eq_iff {w : ℕ} (hw : 256 ^ n = 2 ^ w) {a : Block unsigned_char n} {b : BitVec w} :
    to_word w a = b ↔ a = of_word n b := by
  constructor
  · rintro rfl
    exact (of_word_to_word hw a).symm
  · rintro rfl
    exact to_word_of_word hw b

theorem map_to_word_inj {r s : Except Fault in6_addr}
    (h : r.map (to_word 128) = s.map (to_word 128)) : r = s := by
  cases r with
  | error e => cases s <;> cases h; rfl
  | ok a =>
    cases s with
    | error e => cases h
    | ok b =>
      have hword : to_word 128 a = to_word 128 b := by injection h
      rw [(to_word_eq_iff octets16).mp hword, of_word_to_word octets16]

theorem libuv_pton4_iff {a : BitVec 32} :
    libuv.pton4 text = some a ↔ text = dotted (of_word 4 a).items := by
  rw [libuv_pton4_eq, toOption_map_eq_some_iff]
  constructor
  · rintro ⟨b, hb, hword⟩
    rw [(to_word_eq_iff octets4).mp hword] at hb
    have htext := inet_pton4_eq_ok_iff.mp hb
    exact (c_chars_eq_ascii_iff (plainly_dotted _).ascii).mp htext
  · rintro rfl
    refine ⟨of_word 4 a, ?_, to_word_of_word octets4 a⟩
    rw [c_chars_ascii (plainly_dotted _).ascii]
    exact inet_pton4_dotted _

theorem c_chars_percent (zone : List Char) : c_chars ('%' :: zone) = '%' :: c_chars zone := by
  have hsplit := c_chars_append ['%'] zone
  rw [c_chars_ascii_char (by decide)] at hsplit
  exact hsplit

/-- The first byte of a character that is not ASCII has its top bit. -/
theorem utf8_head {c : Char} (hc : ¬c.toNat < 128) :
    ∃ b bs, String.utf8EncodeChar c = b :: bs ∧ 128 ≤ b.toNat := by
  have htop : ∀ b m : UInt8, 128 ≤ m.toNat → 128 ≤ (b ||| m).toNat := by
    intro b m hm
    rw [UInt8.toNat_or]
    exact Nat.le_trans hm Nat.right_le_or
  rcases c.utf8Size_eq with hone | htwo | hthree | hfour
  · have hle : c.toNat ≤ 127 := UInt32.le_iff_toNat_le.mp (Char.utf8Size_eq_one_iff.mp hone)
    omega
  · exact ⟨_, _, String.utf8EncodeChar_eq_cons_cons htwo, htop _ _ (by decide)⟩
  · exact ⟨_, _, String.utf8EncodeChar_eq_cons_cons_cons hthree, htop _ _ (by decide)⟩
  · exact ⟨_, _, String.utf8EncodeChar_eq_cons_cons_cons_cons hfour, htop _ _ (by decide)⟩

/-- An ASCII prefix of the chars is a prefix of the text. -/
theorem c_chars_ascii_prefix {s rest : List Char} (hs : Ascii s) (h : c_chars text = s ++ rest) :
    ∃ tail, text = s ++ tail := by
  induction s generalizing text with
  | nil => exact ⟨text, rfl⟩
  | cons c s ih =>
    obtain ⟨hc, hs⟩ := ascii_cons.mp hs
    cases text with
    | nil => cases h
    | cons d text =>
      have hsplit := c_chars_append [d] text
      rw [List.singleton_append, h, List.cons_append] at hsplit
      by_cases hd : d.toNat < 128
      · rw [c_chars_ascii_char hd, List.singleton_append, List.cons.injEq] at hsplit
        obtain ⟨rfl, hrest⟩ := hsplit
        obtain ⟨tail, rfl⟩ := ih hs hrest.symm
        exact ⟨tail, rfl⟩
      · obtain ⟨b, bs, hbytes, hb⟩ := utf8_head hd
        have hfirst : c_chars [d] = Char.ofNat b.toNat :: bs.map fun b => Char.ofNat b.toNat := by
          unfold c_chars utf8.encode
          rw [List.flatMap_singleton, hbytes]
          rfl
        rw [hfirst, List.cons_append, List.cons.injEq] at hsplit
        rw [hsplit.1, toNat_ofNat_byte] at hc
        omega

theorem address_part_length_le (src : List Char) : (address_part src).length ≤ src.length :=
  (List.takeWhile_sublist _).length_le

/-- The text of an address is read as this address, with or without a zone. -/
theorem libuv_pton6_text (t : Text6) (h : text = t.text ∨ ∃ zone, text = t.text ++ '%' :: zone) :
    libuv.pton6 text = some (to_word 128 t.address) := by
  have hplainly := t.plainly
  have hlt : t.text.length < 46 := t.text_length_lt
  have hpart : address_part (c_chars text) = t.text := by
    rcases h with rfl | ⟨zone, rfl⟩
    · rw [c_chars_ascii hplainly.ascii, address_part_eq_self hplainly.no_percent]
    · rw [c_chars_append, c_chars_ascii hplainly.ascii, c_chars_percent,
        address_part_zoned hplainly.no_percent]
  rw [libuv_pton6_eq, uv_inet_pton6_eq (by rw [hpart]; omega), hpart, inet_pton6_text]
  rfl

/-- What is read as an address is a text of it, before the zone. -/
theorem text_of_libuv_pton6 (hshort : (c_chars text).length < 2 ^ 31) {a : BitVec 128}
    (h : libuv.pton6 text = some a) :
    ∃ t : Text6, to_word 128 t.address = a ∧
      (text = t.text ∨ ∃ zone, text = t.text ++ '%' :: zone) := by
  have hpart := address_part_length_le (c_chars text)
  rw [libuv_pton6_eq, toOption_map_eq_some_iff, uv_inet_pton6_eq (by omega)] at h
  obtain ⟨b, hb, hword⟩ := h
  rcases inet_pton6_text_or_einval (address_part (c_chars text)) with ⟨a', t, ha', ht, hat⟩ | he
  · rw [ha'] at hb
    cases hb
    refine ⟨t, by rw [hat, hword], ?_⟩
    have hplainly := t.plainly
    rcases idxOf_percent (c_chars text) with ⟨-, hmem⟩ | ⟨zone, -, hsrc⟩
    · rw [address_part_eq_self hmem] at ht
      exact .inl ((c_chars_eq_ascii_iff hplainly.ascii).mp ht.symm)
    · rw [← ht] at hsrc
      have hascii : Ascii (t.text ++ ['%']) :=
        ascii_append.mpr ⟨hplainly.ascii, ascii_singleton (by decide)⟩
      have hprefix : c_chars text = t.text ++ ['%'] ++ zone := by simpa using hsrc
      obtain ⟨tail, htail⟩ := c_chars_ascii_prefix hascii hprefix
      exact .inr ⟨tail, by simpa using htail⟩
  · rw [he] at hb
    cases hb

/-! ## The hosts that tuples can have -/

/-- The texts of hosts, and the host that each of them is read as. -/
inductive HostText : List Char → Host → Prop
  | any : HostText [] (.v4 INADDR_ANY)
  | broadcast : HostText broadcast (.v4 INADDR_BROADCAST)
  | quad (a : in_addr) : HostText (dotted a.items) (.v4 (to_word 32 a))
  | address (t : Text6) : HostText t.text (.v6 (to_word 128 t.address))
  | zoned (t : Text6) (zone : List Char) (h : '\x00' ∉ zone) :
      HostText (t.text ++ '%' :: zone) (.v6 (to_word 128 t.address))

theorem libuv_pton4_eq_none_of_colon (h : ':' ∈ text) : libuv.pton4 text = none := by
  cases hread : libuv.pton4 text with
  | none => rfl
  | some a =>
    rw [libuv_pton4_iff.mp hread] at h
    exact absurd h (colon_not_mem_dotted _)

/-- A text with a colon is '', '<broadcast>' or a quad in no case. -/
theorem host_of_colon (hcolon : ':' ∈ text) (hnul : '\x00' ∉ text) {a : BitVec 128}
    (hread : libuv.pton6 text = some a) : host_of libuv text = some (.v6 a) := by
  have hempty : text ≠ [] := by
    rintro rfl
    cases hcolon
  have hbroadcast : text ≠ broadcast := by
    rintro rfl
    revert hcolon
    decide
  unfold host_of
  rw [if_neg hnul, if_neg hempty, if_neg hbroadcast, libuv_pton4_eq_none_of_colon hcolon, hread]
  rfl

theorem dotted_ne_nil (a : in_addr) : dotted a.items ≠ [] := by
  obtain ⟨m, ms, hitems, -⟩ := in_addr_items a
  rw [hitems]
  exact List.ne_nil_of_length_pos (dotted_length_pos m ms)

theorem Plainly.ne_broadcast (h : Plainly text) : text ≠ broadcast := by
  rintro rfl
  exact h.no_angle (by decide)

theorem host_of_dotted (a : in_addr) :
    host_of libuv (dotted a.items) = some (.v4 (to_word 32 a)) := by
  have hplainly := plainly_dotted a.items
  have hread : libuv.pton4 (dotted a.items) = some (to_word 32 a) := by
    rw [libuv_pton4_iff, of_word_to_word octets4]
  unfold host_of
  rw [if_neg hplainly.no_nul, if_neg (dotted_ne_nil a), if_neg hplainly.ne_broadcast, hread]
  rfl

theorem host_text_of_host_of (hshort : (c_chars text).length < 2 ^ 31) {host : Host}
    (h : host_of libuv text = some host) : HostText text host := by
  unfold host_of at h
  by_cases hnul : '\x00' ∈ text
  · rw [if_pos hnul] at h
    cases h
  rw [if_neg hnul] at h
  by_cases hempty : text = []
  · rw [if_pos hempty] at h
    cases h
    rw [hempty]
    exact .any
  rw [if_neg hempty] at h
  by_cases hbroadcast : text = broadcast
  · rw [if_pos hbroadcast] at h
    cases h
    rw [hbroadcast]
    exact .broadcast
  rw [if_neg hbroadcast] at h
  cases hread4 : libuv.pton4 text with
  | some a =>
    rw [hread4] at h
    cases h
    have hquad := HostText.quad (of_word 4 a)
    rw [to_word_of_word octets4, ← libuv_pton4_iff.mp hread4] at hquad
    exact hquad
  | none =>
    cases hread6 : libuv.pton6 text with
    | none =>
      rw [hread4, hread6] at h
      cases h
    | some a =>
      rw [hread4, hread6] at h
      cases h
      obtain ⟨t, hword, htext⟩ := text_of_libuv_pton6 hshort hread6
      rw [← hword]
      rcases htext with rfl | ⟨zone, rfl⟩
      · exact .address t
      · refine .zoned t zone fun hmem => hnul ?_
        exact List.mem_append_right _ (List.mem_cons_of_mem _ hmem)

/-- A text of a host is read as this host, however long its zone is. -/
theorem host_of_host_text {host : Host} (h : HostText text host) :
    host_of libuv text = some host := by
  cases h with
  | any => rfl
  | broadcast => rfl
  | quad a => exact host_of_dotted a
  | address t =>
    exact host_of_colon (colon_mem_text t) t.plainly.no_nul (libuv_pton6_text t (.inl rfl))
  | zoned t zone hzone =>
    refine host_of_colon (List.mem_append_left _ (colon_mem_text t)) ?_ ?_
    · intro hmem
      rcases List.mem_append.mp hmem with hmem | hmem
      · exact t.plainly.no_nul hmem
      · rcases List.mem_cons.mp hmem with heq | hmem
        · cases heq
        · exact hzone hmem
    · exact libuv_pton6_text t (.inr ⟨zone, rfl⟩)

/-! ## The laws -/

/-- A tuple whose host has fewer than 2^31 bytes is accepted if and only if its host is a text of
a host and its numbers pass the checks, and what is stored is the address of this host. -/
theorem tuples_with_host_texts_are_accepted (o : ByteOrder) (items : List PyItem) (sa : sockaddr)
    (hshort : ∀ g, given items = some g → (c_chars g.text).length < 2 ^ 31) :
    pyuv_parse_addr_tuple o libuv (.tuple items) = .ok sa ↔
      ∃ g host, given items = some g ∧ g.Passes ∧ HostText g.text host ∧
        sa = (g.peer host).stored o := by
  rw [pyuv_parse_addr_tuple_eq_ok]
  constructor
  · rintro ⟨g, host, hg, hpasses, hhost, hsa⟩
    exact ⟨g, host, hg, hpasses, host_text_of_host_of (hshort g hg) hhost, hsa⟩
  · rintro ⟨g, host, hg, hpasses, hhost, hsa⟩
    exact ⟨g, host, hg, hpasses, host_of_host_text hhost, hsa⟩

/-- ('127.0.0.1', 80) -/
theorem tuples_with_host_texts_are_accepted_localhost :
    pyuv_parse_addr_tuple .little libuv (.tuple [.str "127.0.0.1".toList, .int 80]) =
      .ok (.AF_INET { sin_port := 0x5000, sin_addr := 0x7f000001 }) := by
  refine (tuples_with_host_texts_are_accepted .little _ _ ?_).mpr ?_
  · rintro g ⟨⟩
    decide
  · exact ⟨_, _, rfl, ⟨by decide, by decide⟩, .quad ⟨[127, 0, 0, 1], rfl⟩, by decide⟩

theorem libuv_ip4_name (a : BitVec 32) : libuv.ip4_name a = dotted (of_word 4 a).items := by
  have hlt := dotted_length_lt (of_word 4 a)
  have hsize : (dotted (of_word 4 a).items).length < name_size := by
    unfold UV__INET_ADDRSTRLEN at hlt
    unfold name_size UV__INET6_ADDRSTRLEN
    omega
  unfold libuv uv_inet_ntop
  dsimp only
  rw [inet_ntop4_eq, if_pos hsize]
  rfl

theorem libuv_ip6_name (a : BitVec 128) :
    ∃ t : Text6, libuv.ip6_name a = t.text ∧ t.address = of_word 16 a := by
  obtain ⟨gap, hgap, hwritten⟩ := inet_ntop6_gap (of_word 16 a)
  obtain ⟨t, htext, haddress⟩ := text_around_is_text hgap
  refine ⟨t, ?_, haddress⟩
  have hlt := t.text_length_lt
  have hsize : ¬t.text.length + 1 > name_size := by
    unfold name_size
    omega
  unfold libuv uv_inet_ntop inet_ntop6
  dsimp only
  rw [hwritten, ok_bind, ← htext, if_neg (Nat.not_le_of_lt hlt), if_neg hsize]
  rfl

/-- makesockaddr writes each address as a text that reads back. -/
theorem libuv_canonical (p : Peer) : libuv.Canonical p := by
  cases p with
  | v4 host port =>
    have htext : (Peer.v4 host port).text libuv = dotted (of_word 4 host).items :=
      libuv_ip4_name host
    have hplainly := plainly_dotted (of_word 4 host).items
    refine ⟨?_, ?_, ?_, ?_⟩
    · rw [htext]
      exact hplainly.no_nul
    · rw [htext]
      exact dotted_ne_nil _
    · rw [htext]
      exact hplainly.ne_broadcast
    · exact libuv_pton4_iff.mpr htext
  | v6 host port flowinfo scope_id =>
    obtain ⟨t, hname, haddress⟩ := libuv_ip6_name host
    have htext : (Peer.v6 host port flowinfo scope_id).text libuv = t.text := hname
    refine ⟨?_, ?_, ?_, ?_, ?_⟩
    · rw [htext]
      exact t.plainly.no_nul
    · rw [htext]
      exact List.ne_nil_of_mem (colon_mem_text t)
    · rw [htext]
      exact t.plainly.ne_broadcast
    · rw [hname]
      exact libuv_pton4_eq_none_of_colon (colon_mem_text t)
    · rw [hname, libuv_pton6_text t (.inl rfl), haddress, to_word_of_word octets16]

theorem dotted_injective {a b : BitVec 32} (h : libuv.ip4_name a = libuv.ip4_name b) : a = b := by
  have ha : libuv.pton4 (libuv.ip4_name a) = some a := libuv_pton4_iff.mpr (libuv_ip4_name a)
  have hb : libuv.pton4 (libuv.ip4_name b) = some b := libuv_pton4_iff.mpr (libuv_ip4_name b)
  rw [h, hb] at ha
  exact (Option.some.inj ha).symm

theorem ip6_name_injective {a b : BitVec 128}
    (h : libuv.ip6_name a = libuv.ip6_name b) : a = b := by
  have hread : ∀ c : BitVec 128, libuv.pton6 (libuv.ip6_name c) = some c := by
    intro c
    obtain ⟨t, hname, haddress⟩ := libuv_ip6_name c
    rw [hname, libuv_pton6_text t (.inl rfl), haddress, to_word_of_word octets16]
  have ha := hread a
  rw [h, hread b] at ha
  exact (Option.some.inj ha).symm

theorem toNat_int_inj {w : ℕ} {a b : BitVec w} (h : (a.toNat : Int) = b.toNat) : a = b :=
  BitVec.eq_of_toNat_eq (Int.ofNat_inj.mp h)

theorem tuple_injective {p q : Peer} (h : p.tuple libuv = q.tuple libuv) : p = q := by
  cases p with
  | v4 host port =>
    cases q with
    | v4 host' port' =>
      simp only [Peer.tuple, PyObj.tuple.injEq, List.cons.injEq, PyItem.str.injEq,
        PyItem.int.injEq] at h
      obtain ⟨hname, hport, -⟩ := h
      rw [dotted_injective hname, toNat_int_inj hport]
    | v6 host' port' flowinfo' scope_id' => simp [Peer.tuple] at h
  | v6 host port flowinfo scope_id =>
    cases q with
    | v4 host' port' => simp [Peer.tuple] at h
    | v6 host' port' flowinfo' scope_id' =>
      simp only [Peer.tuple, PyObj.tuple.injEq, List.cons.injEq, PyItem.str.injEq,
        PyItem.int.injEq] at h
      obtain ⟨hname, hport, hflow, hscope, -⟩ := h
      rw [ip6_name_injective hname, toNat_int_inj hport, toNat_int_inj hflow, toNat_int_inj hscope]

/-- The socket addresses of two peers have two tuples, and the tuple of an address without a flow
info is taken for this address. -/
theorem tuples_name_their_peers (o : ByteOrder) (p q : Peer) :
    (makesockaddr o libuv (p.address o) = makesockaddr o libuv (q.address o) → p = q) ∧
      (p.flowinfo = 0 → pyuv_parse_addr_tuple o libuv (makesockaddr o libuv (p.address o)) =
        .ok (p.address o)) := by
  constructor
  · intro h
    rw [makesockaddr.spec, makesockaddr.spec] at h
    exact tuple_injective h
  · intro hflow
    have hsmall : p.flowinfo.toNat ≤ 0xfffff := by
      rw [hflow]
      decide
    have hstored : p.stored o = p.address o := by
      rw [stored_eq_sockaddr_iff p hsmall, hflow]
      exact .inr (Nat.dvd_zero _)
    rw [makesockaddr.spec, pyuv_parse_addr_tuple.spec p (libuv_canonical p) hsmall, hstored]

/-! ## uv_ip6_addr -/

/-- sizeof(address_part) -/
def address_part_sizeof : ℕ := 40

/-- uv_ip6_addr, where the text before the zone is copied as far as it fits. -/
def uv_ip6_addr (if_nametoindex : List Char → BitVec 32) (o : ByteOrder) (ip : List Char)
    (port : Int) : Except Fault sockaddr_in6 :=
  let sin6_port := htons o (BitVec.ofInt 16 port)
  match ip.idxOf? '%' with
  | none => do
    let a ← uv_inet_pton6 ip
    return { sin6_port, sin6_flowinfo := 0, sin6_addr := to_word 128 a, sin6_scope_id := 0 }
  | some address_part_size => do
    let size :=
      if address_part_size ≥ address_part_sizeof then address_part_sizeof - 1 else address_part_size
    let a ← uv_inet_pton6 (ip.take size)
    return { sin6_port, sin6_flowinfo := 0, sin6_addr := to_word 128 a,
             sin6_scope_id := if_nametoindex (ip.drop (address_part_size + 1)) }

/-- 1111:2222:3333:4444:5555:6666:7777:8888 -/
def longest_full : List Char :=
  List.intercalate [':'] (['1', '2', '3', '4', '5', '6', '7', '8'].map (List.replicate 4))

variable {if_nametoindex : List Char → BitVec 32} {o : ByteOrder} {port : Int} {zone : List Char}

/-- The address that uv_ip6_addr reads from a text with a zone. -/
theorem uv_ip6_addr_zoned (h : '%' ∉ text) :
    (uv_ip6_addr if_nametoindex o (text ++ '%' :: zone) port).map sockaddr_in6.sin6_addr =
      (inet_pton6 (text.take 39)).map (to_word 128) := by
  have hpart := address_part_zoned h zone
  rcases idxOf_percent (text ++ '%' :: zone) with ⟨-, hmem⟩ | ⟨zone', hsome, -⟩
  · exact absurd (List.mem_append_right _ List.mem_cons_self) hmem
  · rw [hpart] at hsome
    have htake : (text ++ '%' :: zone).take
        (if text.length ≥ address_part_sizeof then address_part_sizeof - 1 else text.length) =
          text.take 39 := by
      unfold address_part_sizeof
      by_cases hlong : text.length ≥ 40
      · rw [if_pos hlong, List.take_append_of_le_length (by omega)]
      · rw [if_neg hlong, List.take_left, List.take_of_length_le (by omega)]
    have hno : '%' ∉ text.take 39 := fun hmem => h (List.mem_of_mem_take hmem)
    have hshort : (text.take 39).length < 2 ^ 31 := by
      rw [List.length_take]
      omega
    have hself := address_part_eq_self hno
    unfold uv_ip6_addr
    dsimp only
    rw [hsome]
    dsimp only
    rw [htake, uv_inet_pton6_eq (hself.symm ▸ hshort), hself]
    cases inet_pton6 (text.take 39) <;> rfl

/-- The longest full address, and chars of no address after it. -/
def overlong (n : ℕ) : List Char := longest_full ++ List.replicate (n - 39) '<'

theorem overlong_length (h : 39 ≤ n) : (overlong n).length = n := by
  have hlength : longest_full.length = 39 := by decide
  rw [overlong, List.length_append, List.length_replicate, hlength]
  omega

theorem percent_not_mem_overlong (n : ℕ) : '%' ∉ overlong n := by
  have hfull : '%' ∉ longest_full := by decide
  intro hmem
  rcases List.mem_append.mp hmem with hmem | hmem
  · exact hfull hmem
  · exact absurd (List.eq_of_mem_replicate hmem) (by decide)

theorem longest_full_reads : ∃ a, inet_pton6 longest_full = .ok a := by
  have hok : (inet_pton6 longest_full).isOk = true := by decide +kernel
  cases hcase : inet_pton6 longest_full with
  | ok a => exact ⟨a, rfl⟩
  | error e =>
    rw [hcase] at hok
    cases hok

/-- Another number of its chars is another address or none. -/
theorem overlong_take {m : ℕ} (hm : m ≤ n) (hne : m ≠ 39) :
    inet_pton6 ((overlong n).take m) ≠ inet_pton6 longest_full := by
  have hlength : longest_full.length = 39 := by decide
  rcases Nat.lt_or_gt_of_ne hne with hlt | hgt
  · have hparts : ∀ m < 39, (inet_pton6 (longest_full.take m)).toOption ≠
        (inet_pton6 longest_full).toOption := by decide +kernel
    rw [overlong, List.take_append_of_le_length (by omega)]
    exact fun heq => hparts m hlt (congrArg Except.toOption heq)
  · obtain ⟨a, ha⟩ := longest_full_reads
    have hmem : '<' ∈ (overlong n).take m := by
      rw [overlong, List.take_append, hlength, List.take_replicate]
      exact List.mem_append_right _ (List.mem_replicate.mpr ⟨by omega, rfl⟩)
    rw [ha]
    rcases inet_pton6_text_or_einval ((overlong n).take m) with ⟨a', t, -, ht, -⟩ | he
    · rw [← ht] at hmem
      exact absurd hmem t.plainly.no_angle
    · rw [he]
      nofun

/-- uv_ip6_addr and uv_inet_pton read one address from each text with `n` characters before its
zone if and only if there is room for them, or the int of uv_inet_pton has come around to what
there is room for. -/
theorem zoned_texts_are_cut_iff (if_nametoindex : List Char → BitVec 32) (o : ByteOrder)
    (port : Int) (n : ℕ) :
    (∀ text zone : List Char, '%' ∉ text → text.length = n →
      (uv_ip6_addr if_nametoindex o (text ++ '%' :: zone) port).map sockaddr_in6.sin6_addr =
        (uv_inet_pton6 (text ++ '%' :: zone)).map (to_word 128)) ↔
      n < address_part_sizeof ∨ n % 2 ^ 32 = address_part_sizeof - 1 := by
  have hwrap := int_wrap_eq n
  unfold address_part_sizeof
  constructor
  · intro hagree
    by_contra hcut
    obtain ⟨hlong, hround⟩ := not_or.mp hcut
    have hlength := overlong_length (n := n) (by omega)
    have hno := percent_not_mem_overlong n
    obtain ⟨a, ha⟩ := longest_full_reads
    have htake : (overlong n).take 39 = longest_full := by
      have hfull : longest_full.length = 39 := by decide
      rw [overlong, ← hfull, List.take_left]
    have hsame := hagree (overlong n) [] hno hlength
    rw [uv_ip6_addr_zoned hno, htake, uv_inet_pton6_zoned hno, hlength] at hsame
    by_cases hbig : integers.int.wrap n > UV__INET6_ADDRSTRLEN - 1
    · rw [if_pos hbig, ha] at hsame
      cases hsame
    · rw [if_neg hbig] at hsame
      by_cases hnegative : integers.int.wrap n < 0
      · rw [if_pos hnegative, ha] at hsame
        cases hsame
      · have hread :=
          overlong_take (n := n) (m := (integers.int.wrap n).toNat) (by omega) (by omega)
        rw [if_neg hnegative, List.take_append_of_le_length (by omega)] at hsame
        exact hread (map_to_word_inj hsame).symm
  · rintro hfits text zone hno rfl
    rw [uv_ip6_addr_zoned hno]
    rcases hfits with hshort | hround
    · rw [List.take_of_length_le (by omega),
        uv_inet_pton6_eq (by rw [address_part_zoned hno]; omega), address_part_zoned hno]
    · have hle : ¬integers.int.wrap text.length > UV__INET6_ADDRSTRLEN - 1 := by
        unfold UV__INET6_ADDRSTRLEN
        omega
      have hnonneg : ¬integers.int.wrap text.length < 0 := by omega
      have hlen : (integers.int.wrap text.length).toNat = 39 := by omega
      rw [uv_inet_pton6_zoned hno, if_neg hle, if_neg hnonneg, hlen,
        List.take_append_of_le_length (by omega)]

end pyuv.inet
