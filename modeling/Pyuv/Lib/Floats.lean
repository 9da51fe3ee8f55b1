-- Binary floating point numbers as rationals, and the number of a format that is nearest to a
-- rational, ties to even. Overflow is left to the user: exponents have no upper bound.
import Mathlib.Algebra.Order.Archimedean.Basic
import Mathlib.Algebra.Order.Floor.Ring
import Mathlib.Data.Int.Log
import Mathlib.Data.Rat.Floor
import Mathlib.Tactic.Linarith

namespace floats

/-! ## The numbers of a format -/

/-- `digits` binary digits, of which the last is never worth less than `2 ^ least`. -/
structure Format where
  digits : ℕ
  least : ℤ
  digits_pos : 0 < digits

/-- The 64 bit format of IEEE 754. -/
def binary64 : Format := ⟨53, -1074, by norm_num⟩

variable (F : Format)

/-- `x` is a number of the format. -/
def Format.Holds (x : ℚ) : Prop :=
  ∃ m e : ℤ, |m| < 2 ^ F.digits ∧ F.least ≤ e ∧ x = m * 2 ^ e

/-- What the last digit of a number as large as `x` is worth, as an exponent of two. -/
def Format.exponent (x : ℚ) : ℤ := max (Int.log 2 |x| + 1 - F.digits) F.least

/-- The distance of the floats around `x`. -/
def Format.gap (x : ℚ) : ℚ := 2 ^ F.exponent x

/-- The nearest integer, and of two the even one. -/
def round_even (y : ℚ) : ℤ :=
  if Int.fract y < 1 / 2 then ⌊y⌋
  else if 1 / 2 < Int.fract y then ⌊y⌋ + 1
  else if Even ⌊y⌋ then ⌊y⌋ else ⌊y⌋ + 1

/-- The number of the format that is nearest to `x`. -/
def Format.nearest (x : ℚ) : ℚ := round_even (x / F.gap x) * F.gap x

/-! ## Integers -/

theorem floor_le_round_even (y : ℚ) : ⌊y⌋ ≤ round_even y := by
  unfold round_even
  split_ifs <;> omega

theorem le_round_even {y : ℚ} {n : ℤ} (h : n ≤ y) : n ≤ round_even y :=
  (Int.le_floor.mpr h).trans (floor_le_round_even y)

theorem round_even_le {y : ℚ} {n : ℤ} (h : y ≤ n) : round_even y ≤ n := by
  have hfloor : (⌊y⌋ : ℚ) + Int.fract y = y := Int.floor_add_fract y
  rcases (Int.fract_nonneg y).eq_or_lt with hz | hpos
  · -- an integer is rounded to itself
    have heq : round_even y = ⌊y⌋ := if_pos (by rw [← hz]; norm_num)
    rw [heq]
    exact_mod_cast (Int.floor_le y).trans h
  · have hlt : ⌊y⌋ < n := by
      have hltq : (⌊y⌋ : ℚ) < n := by linarith
      exact_mod_cast hltq
    unfold round_even
    split_ifs <;> omega

/-- No other integer is nearer. -/
theorem round_even_near (y : ℚ) : |(round_even y : ℚ) - y| ≤ 1 / 2 := by
  have hfloor : (⌊y⌋ : ℚ) + Int.fract y = y := Int.floor_add_fract y
  have hpos := Int.fract_nonneg y
  have hlt := Int.fract_lt_one y
  rw [abs_le]
  unfold round_even
  split_ifs with h h' <;> push_cast <;> constructor <;> linarith

/-! ## The nearest number -/

theorem two_zpow_pos (e : ℤ) : (0 : ℚ) < 2 ^ e := zpow_pos (by norm_num) e

theorem two_zpow_le {d e : ℤ} (h : d ≤ e) : (2 : ℚ) ^ d ≤ 2 ^ e :=
  zpow_le_zpow_right₀ (by norm_num) h

/-- Multiples of a power of two are multiples of the smaller ones. -/
theorem mul_two_zpow {d e : ℤ} (h : d ≤ e) (m : ℤ) :
    (m * 2 ^ e : ℚ) = (m * 2 ^ (e - d).toNat : ℤ) * 2 ^ d := by
  have hsplit : (2 : ℚ) ^ e = 2 ^ (e - d).toNat * 2 ^ d := by
    rw [← zpow_natCast, Int.toNat_of_nonneg (by omega), ← zpow_add₀ (by norm_num)]
    congr 1
    omega
  rw [hsplit]
  push_cast
  ring

/-- The last digit is worth something. -/
theorem Format.gap_pos (x : ℚ) : 0 < F.gap x := two_zpow_pos _

variable {F}

/-- Integers with no more digits than the format has. -/
theorem Format.holds_int {n : ℤ} (hleast : F.least ≤ 0) (h : |n| < 2 ^ F.digits) :
    F.Holds n :=
  ⟨n, 0, h, hleast, by simp⟩

/-- Nothing lies between two numbers that have all their digits. -/
theorem Format.Holds.le_of_lt_succ {y : ℚ} {k e : ℤ} (hy : F.Holds y)
    (hk : 2 ^ F.digits ≤ 2 * k) (h : y < (k + 1) * 2 ^ e) : y ≤ k * 2 ^ e := by
  obtain ⟨m, d, hm, -, rfl⟩ := hy
  have hpos := two_zpow_pos e
  rcases le_or_gt e d with hle | hlt
  · rw [mul_two_zpow hle m] at h ⊢
    have hlt : ((m * 2 ^ (d - e).toNat : ℤ) : ℚ) < (k + 1 : ℤ) := by
      push_cast at h ⊢
      exact lt_of_mul_lt_mul_right h hpos.le
    have hle : ((m * 2 ^ (d - e).toNat : ℤ) : ℚ) ≤ k := by
      exact_mod_cast Int.lt_add_one_iff.mp (Int.cast_lt.mp hlt)
    exact mul_le_mul_of_nonneg_right hle hpos.le
  · have hmq : (m : ℚ) ≤ 2 ^ F.digits := by exact_mod_cast (abs_lt.mp hm).2.le
    have hkq : (2 ^ F.digits : ℚ) ≤ 2 * k := by exact_mod_cast hk
    have hd := two_zpow_pos d
    have hhalf : 2 * (2 : ℚ) ^ d ≤ 2 ^ e := by
      rw [mul_comm, ← zpow_add_one₀ (by norm_num)]
      exact two_zpow_le (by omega)
    have hk0 : (0 : ℚ) ≤ k := by
      have hpow : (0 : ℚ) < 2 ^ F.digits := by positivity
      linarith
    calc (m * 2 ^ d : ℚ)
        ≤ 2 * k * 2 ^ d := mul_le_mul_of_nonneg_right (hmq.trans hkq) hd.le
      _ = k * (2 * 2 ^ d) := by ring
      _ ≤ k * 2 ^ e := mul_le_mul_of_nonneg_left hhalf hk0

/-- A number of the format is a multiple of the gap at `x`, or it is nearer to 0 than a multiple
that `x` reaches. -/
theorem Format.Holds.multiple_or_below {x y : ℚ} (hy : F.Holds y) (hx : x ≠ 0) :
    (∃ k : ℤ, y = k * F.gap x) ∨ ∃ k : ℤ, |y| < k * F.gap x ∧ k * F.gap x ≤ |x| := by
  obtain ⟨m, e, hm, he, rfl⟩ := hy
  rcases le_or_gt (F.exponent x) e with hle | hlt
  · exact .inl ⟨_, mul_two_zpow hle m⟩
  · right
    -- the least exponent is not the one at `x`, so `x` has all its digits
    have hexp : F.exponent x = Int.log 2 |x| + 1 - F.digits := by
      unfold Format.exponent at hlt ⊢
      omega
    have hdigits := F.digits_pos
    have hreach : ((1 : ℤ) * 2 ^ Int.log 2 |x| : ℚ) =
        (1 * 2 ^ (Int.log 2 |x| - F.exponent x).toNat : ℤ) * F.gap x :=
      mul_two_zpow (by omega) 1
    refine ⟨1 * 2 ^ (Int.log 2 |x| - F.exponent x).toNat, ?_, ?_⟩
    · rw [← hreach, abs_mul, abs_of_pos (two_zpow_pos e), Int.cast_one, one_mul]
      have hmq : |(m : ℚ)| < 2 ^ F.digits := by exact_mod_cast hm
      calc |(m : ℚ)| * 2 ^ e
          < 2 ^ F.digits * 2 ^ e := mul_lt_mul_of_pos_right hmq (two_zpow_pos e)
        _ = 2 ^ (F.digits + e : ℤ) := by rw [zpow_add₀ (by norm_num), zpow_natCast]
        _ ≤ 2 ^ Int.log 2 |x| := two_zpow_le (by omega)
    · rw [← hreach, Int.cast_one, one_mul]
      exact_mod_cast Int.zpow_log_le_self (by norm_num) (abs_pos.mpr hx)

theorem Format.nearest_zero : F.nearest 0 = 0 := by
  have hround : round_even 0 = 0 := by decide +kernel
  unfold Format.nearest
  rw [zero_div, hround, Int.cast_zero, zero_mul]

theorem Format.nearest_le_multiple {x : ℚ} {k : ℤ} (h : x ≤ k * F.gap x) :
    F.nearest x ≤ k * F.gap x := by
  have hround : round_even (x / F.gap x) ≤ k := round_even_le ((div_le_iff₀ (F.gap_pos x)).mpr h)
  exact mul_le_mul_of_nonneg_right (by exact_mod_cast hround) (F.gap_pos x).le

theorem Format.multiple_le_nearest {x : ℚ} {k : ℤ} (h : k * F.gap x ≤ x) :
    k * F.gap x ≤ F.nearest x := by
  have hround : k ≤ round_even (x / F.gap x) := le_round_even ((le_div_iff₀ (F.gap_pos x)).mpr h)
  exact mul_le_mul_of_nonneg_right (by exact_mod_cast hround) (F.gap_pos x).le

/-- Rounding does not pass a number of the format. -/
theorem Format.nearest_le {x y : ℚ} (hy : F.Holds y) (h : x ≤ y) : F.nearest x ≤ y := by
  by_cases hx : x = 0
  · rw [hx, nearest_zero]
    exact hx ▸ h
  rcases hy.multiple_or_below hx with ⟨k, rfl⟩ | ⟨k, hbelow, hreach⟩
  · exact nearest_le_multiple h
  · -- `x` is negative, and further from 0 than the multiple
    have hneg : x < 0 := by
      by_contra hpos
      rw [abs_of_nonneg (not_lt.mp hpos)] at hreach
      linarith [le_abs_self y]
    rw [abs_of_neg hneg] at hreach
    have hle : F.nearest x ≤ (-k : ℤ) * F.gap x := by
      apply nearest_le_multiple
      push_cast
      linarith
    push_cast at hle
    linarith [neg_abs_le y]

/-- From above, in the same way. -/
theorem Format.le_nearest {x y : ℚ} (hy : F.Holds y) (h : y ≤ x) : y ≤ F.nearest x := by
  by_cases hx : x = 0
  · rw [hx, nearest_zero]
    exact hx ▸ h
  rcases hy.multiple_or_below hx with ⟨k, rfl⟩ | ⟨k, hbelow, hreach⟩
  · exact multiple_le_nearest h
  · have hpos : 0 < x := by
      by_contra hneg
      rw [abs_of_nonpos (not_lt.mp hneg)] at hreach
      linarith [neg_abs_le y]
    rw [abs_of_pos hpos] at hreach
    have hle : k * F.gap x ≤ F.nearest x := multiple_le_nearest hreach
    linarith [le_abs_self y]

/-- The error is half of the last digit at most. -/
theorem Format.nearest_near (x : ℚ) : |F.nearest x - x| ≤ F.gap x / 2 := by
  have hgap := F.gap_pos x
  have hscale : F.nearest x - x = (round_even (x / F.gap x) - x / F.gap x) * F.gap x := by
    unfold Format.nearest
    field_simp
  rw [hscale, abs_mul, abs_of_pos hgap]
  calc |(round_even (x / F.gap x) : ℚ) - x / F.gap x| * F.gap x
      ≤ 1 / 2 * F.gap x := mul_le_mul_of_nonneg_right (round_even_near _) hgap.le
    _ = F.gap x / 2 := by ring

/-- What is nearest is a number of the format. -/
theorem Format.nearest_holds (x : ℚ) : F.Holds (F.nearest x) := by
  have hgap := F.gap_pos x
  have hlog : |x| < 2 ^ (Int.log 2 |x| + 1) := by
    exact_mod_cast Int.lt_zpow_succ_log_self (b := 2) (by norm_num) |x|
  have hexp : Int.log 2 |x| + 1 ≤ F.digits + F.exponent x := by
    unfold Format.exponent
    omega
  have hbound : |x / F.gap x| < (2 ^ F.digits : ℤ) := by
    rw [abs_div, abs_of_pos hgap, div_lt_iff₀ hgap]
    calc |x| < 2 ^ (Int.log 2 |x| + 1) := hlog
      _ ≤ 2 ^ (F.digits + F.exponent x) := two_zpow_le hexp
      _ = (2 ^ F.digits : ℤ) * F.gap x := by
        rw [zpow_add₀ (by norm_num), zpow_natCast]
        push_cast
        rfl
  have hround : |round_even (x / F.gap x)| ≤ 2 ^ F.digits := by
    rw [abs_le]
    have hlow : ((-2 ^ F.digits : ℤ) : ℚ) ≤ x / F.gap x := by
      push_cast at hbound ⊢
      exact (abs_lt.mp hbound).1.le
    exact ⟨le_round_even hlow, round_even_le (abs_lt.mp hbound).2.le⟩
  have hleast : F.least ≤ F.exponent x := le_max_right _ _
  rcases hround.lt_or_eq with hlt | heq
  · exact ⟨_, _, hlt, hleast, rfl⟩
  · -- one digit too many, but the last one is 0
    obtain ⟨d, hd⟩ : ∃ d, F.digits = d + 1 := Nat.exists_eq_add_one.mpr F.digits_pos
    obtain ⟨j, hj⟩ : (2 : ℤ) ∣ round_even (x / F.gap x) := by
      rw [← dvd_abs, heq, hd, pow_succ]
      exact dvd_mul_left _ _
    have hjabs : |j| < 2 ^ F.digits := by
      rw [hj, abs_mul, abs_of_pos (by norm_num : (0 : ℤ) < 2)] at heq
      have hpow : (0 : ℤ) < 2 ^ F.digits := by positivity
      linarith
    refine ⟨j, F.exponent x + 1, hjabs, by omega, ?_⟩
    unfold Format.nearest Format.gap at *
    rw [hj, zpow_add_one₀ (by norm_num)]
    push_cast
    ring

end floats
