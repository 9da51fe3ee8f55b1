-- Strings of C: bytes up to a NUL, and what strncpy and memcpy leave in an array of bytes.
import Mathlib.Data.List.TakeWhile

namespace c_strings

/-- The bytes up to the first NUL, or all of them where there is none. -/
def c_str (data : List UInt8) : List UInt8 := data.takeWhile (· ≠ 0)

/-- The first `n` bytes of an array after strncpy, which fills up with NULs. -/
def strncpy (n : Nat) (src : List UInt8) : List UInt8 :=
  (c_str src).take n ++ List.replicate (n - (c_str src).length) 0

/-- An array of zeros after memcpy of `n` bytes. -/
def memcpy (size n : Nat) (src : List UInt8) : List UInt8 :=
  src.take n ++ List.replicate (size - n) 0

variable {data rest : List UInt8} {n : Nat}

/-- There is no NUL in what the C function sees. -/
theorem zero_notMem_c_str : 0 ∉ c_str data := by
  intro h
  have hne := List.mem_takeWhile_imp h
  simp at hne

/-- All of the data is seen exactly if there is no NUL in it. -/
theorem c_str_eq_self_iff : c_str data = data ↔ 0 ∉ data := by
  constructor
  · intro h
    rw [← h]
    exact zero_notMem_c_str
  · intro h
    apply List.takeWhile_eq_self_iff.mpr
    intro b hb
    have hne : b ≠ 0 := fun hzero => h (hzero ▸ hb)
    simpa using hne

/-- What follows the first NUL is not seen. -/
theorem c_str_append_zero (h : 0 ∉ data) : c_str (data ++ 0 :: rest) = data := by
  unfold c_str
  rw [List.takeWhile_append_of_pos]
  · rw [List.takeWhile_cons_of_neg (by simp), List.append_nil]
  · intro b hb
    have hne : b ≠ 0 := fun hzero => h (hzero ▸ hb)
    simpa using hne

theorem c_str_c_str : c_str (c_str data) = c_str data := c_str_eq_self_iff.mpr zero_notMem_c_str

/-- An array that ends in a NUL has the string as far as it fits. -/
theorem c_str_strncpy : c_str (strncpy n data ++ [0]) = (c_str data).take n := by
  have hnot : (0 : UInt8) ∉ (c_str data).take n :=
    fun h => zero_notMem_c_str (List.mem_of_mem_take h)
  have hzeros : ∀ k, List.replicate k (0 : UInt8) ++ [0] = 0 :: List.replicate k 0 := by
    intro k
    rw [← List.replicate_succ', List.replicate_succ]
  unfold strncpy
  rw [List.append_assoc, hzeros]
  exact c_str_append_zero hnot

/-- Nothing is lost but what is behind a NUL or does not fit. -/
theorem take_c_str_eq_self_iff : (c_str data).take n = data ↔ 0 ∉ data ∧ data.length ≤ n := by
  constructor
  · intro h
    have hnot : 0 ∉ data := by
      rw [← h]
      exact fun hmem => zero_notMem_c_str (List.mem_of_mem_take hmem)
    rw [c_str_eq_self_iff.mpr hnot] at h
    have hlen := congrArg List.length h
    rw [List.length_take] at hlen
    exact ⟨hnot, by omega⟩
  · rintro ⟨hnot, hle⟩
    rw [c_str_eq_self_iff.mpr hnot]
    exact List.take_of_length_le hle

/-- The copied part of the buffer. -/
theorem take_memcpy {size : Nat} (h : n ≤ data.length) :
    (memcpy size n data).take n = data.take n := by
  unfold memcpy
  rw [List.take_append_of_le_length (by rw [List.length_take]; omega), List.take_take, min_self]

end c_strings
