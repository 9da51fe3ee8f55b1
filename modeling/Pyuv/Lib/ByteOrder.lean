-- Host and network byte order. A word is swapped on a little-endian host and
-- left alone on a big-endian one, and the words that do not care are named.
import Mathlib.Data.Nat.Notation

namespace byte_order

/-- The order in which the host keeps the bytes of a word. -/
inductive ByteOrder where
  | little
  | big
deriving DecidableEq, Repr

/-- The two bytes of a word, in the other order. -/
def swap16 (x : BitVec 16) : BitVec 16 :=
  BitVec.ofNat 16 (x.toNat % 256 * 256 + x.toNat / 256)

/-- The four bytes of a word, in the other order. -/
def swap32 (x : BitVec 32) : BitVec 32 :=
  BitVec.ofNat 32
    (x.toNat % 256 * 16777216 + x.toNat / 256 % 256 * 65536 + x.toNat / 65536 % 256 * 256
      + x.toNat / 16777216)

/-- The value that holds the bytes of `x` in network order. -/
def htons : ByteOrder → BitVec 16 → BitVec 16
  | .little, x => swap16 x
  | .big, x => x

/-- The same for 32 bits. -/
def htonl : ByteOrder → BitVec 32 → BitVec 32
  | .little, x => swap32 x
  | .big, x => x

/-- Both ways are one function, as on every host that C knows. -/
abbrev ntohs : ByteOrder → BitVec 16 → BitVec 16 := htons

/-- It is its own inverse. -/
abbrev ntohl : ByteOrder → BitVec 32 → BitVec 32 := htonl

/-- The two bytes of a port exchanged, as a number. -/
theorem swap16_toNat (x : BitVec 16) :
    (swap16 x).toNat = x.toNat % 256 * 256 + x.toNat / 256 := by
  have hx : x.toNat < 65536 := x.isLt
  rw [swap16, BitVec.toNat_ofNat]
  exact Nat.mod_eq_of_lt (by omega)

/-- The four bytes in the other order, as a number. -/
theorem swap32_toNat (x : BitVec 32) :
    (swap32 x).toNat = x.toNat % 256 * 16777216 + x.toNat / 256 % 256 * 65536
      + x.toNat / 65536 % 256 * 256 + x.toNat / 16777216 := by
  have hx : x.toNat < 4294967296 := x.isLt
  rw [swap32, BitVec.toNat_ofNat]
  exact Nat.mod_eq_of_lt (by omega)

/-- The four bytes of a word that is made of four bytes. -/
theorem bytes_of_word (a b c d : Nat) (hb : b < 256) (hc : c < 256) (hd : d < 256) :
    let n := a * 16777216 + b * 65536 + c * 256 + d
    n % 256 = d ∧ n / 256 % 256 = c ∧ n / 65536 % 256 = b ∧ n / 16777216 = a := by
  intro n
  refine ⟨?_, ?_, ?_, ?_⟩ <;> simp only [n] <;> omega

@[simp]
theorem swap16_swap16 (x : BitVec 16) : swap16 (swap16 x) = x := by
  apply BitVec.eq_of_toNat_eq
  have hx : x.toNat < 65536 := x.isLt
  rw [swap16_toNat, swap16_toNat]
  omega

@[simp]
theorem swap32_swap32 (x : BitVec 32) : swap32 (swap32 x) = x := by
  apply BitVec.eq_of_toNat_eq
  have hx : x.toNat < 4294967296 := x.isLt
  obtain ⟨h0, h1, h2, h3⟩ := bytes_of_word (x.toNat % 256) (x.toNat / 256 % 256)
    (x.toNat / 65536 % 256) (x.toNat / 16777216) (by omega) (by omega) (by omega)
  rw [swap32_toNat, swap32_toNat, h0, h1, h2, h3]
  clear h0 h1 h2 h3
  have hhigh : x.toNat / 16777216 = x.toNat / 65536 / 256 := by rw [Nat.div_div_eq_div_mul]
  have hmid : x.toNat / 65536 = x.toNat / 256 / 256 := by rw [Nat.div_div_eq_div_mul]
  rw [hhigh, hmid]
  omega

/-- Reading back what was stored, in either byte order. -/
@[simp]
theorem htons_htons (o : ByteOrder) (x : BitVec 16) : htons o (htons o x) = x := by
  cases o <;> simp [htons]

@[simp]
theorem htonl_htonl (o : ByteOrder) (x : BitVec 32) : htonl o (htonl o x) = x := by
  cases o <;> simp [htonl]

/-- The words of at most 20 bits that read the same in both orders: the
multiples of 0x10100. -/
theorem swap32_eq_self_iff (x : BitVec 32) (hx : x.toNat ≤ 0xfffff) :
    swap32 x = x ↔ 0x10100 ∣ x.toNat := by
  -- The top byte is zero, so the low one must be, and the middle two agree.
  obtain ⟨a, ha⟩ : ∃ a, a = x.toNat % 256 := ⟨_, rfl⟩
  obtain ⟨b, hb⟩ : ∃ b, b = x.toNat / 256 % 256 := ⟨_, rfl⟩
  obtain ⟨c, hc⟩ : ∃ c, c = x.toNat / 65536 := ⟨_, rfl⟩
  have hsum : x.toNat = c * 65536 + b * 256 + a := by omega
  have hlow : x.toNat / 65536 % 256 = c ∧ x.toNat / 16777216 = 0 := by omega
  rw [← BitVec.toNat_inj, swap32_toNat, ← ha, ← hb, hlow.1, hlow.2]
  constructor
  · intro h
    refine ⟨c, ?_⟩
    omega
  · rintro ⟨k, hk⟩
    have hparts : a = 0 ∧ b = k ∧ c = k := by omega
    obtain ⟨rfl, rfl, hck⟩ := hparts
    omega

/-- Small numbers that the order of the bytes does not matter for: none but the multiples of
0x10100, unless it is the order of the network. -/
theorem htonl_eq_self_iff (o : ByteOrder) (x : BitVec 32) (hx : x.toNat ≤ 0xfffff) :
    htonl o x = x ↔ o = .big ∨ 0x10100 ∣ x.toNat := by
  cases o with
  | little => simp [htonl, swap32_eq_self_iff x hx]
  | big => simp [htonl]

end byte_order
