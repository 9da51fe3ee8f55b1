-- The integer types of C: the range of a type, and the conversion of a value to another type, which
-- keeps what fits and reduces everything else modulo a power of two.
import Mathlib.Algebra.Group.Int.Defs
import Mathlib.Tactic.Positivity
import Mathlib.Data.Int.ModEq

namespace cints

/-- An integer type of C. -/
structure IntType where
  bits : Nat
  signed : Bool
deriving DecidableEq

variable (T U : IntType)

/-- The number of its values. -/
def IntType.modulus : Int := 2 ^ T.bits

/-- The least of them. -/
def IntType.low : Int := if T.signed then -2 ^ (T.bits - 1) else 0

/-- `n` is a value of the type. -/
def IntType.Holds (n : Int) : Prop := T.low ≤ n ∧ n < T.low + T.modulus

instance (n : Int) : Decidable (T.Holds n) := inferInstanceAs (Decidable (_ ∧ _))

/-- The value of the type that a number is converted to. -/
def IntType.wrap (n : Int) : Int := T.low + (n - T.low) % T.modulus

/-- A number of the type. -/
structure Value (T : IntType) where
  val : Int
  holds : T.Holds val

variable {T U}

theorem IntType.modulus_pos : 0 < T.modulus := by
  unfold IntType.modulus
  positivity

/-- A converted value is one of the type. -/
theorem IntType.wrap_holds (n : Int) : T.Holds (T.wrap n) := by
  have hnonneg : 0 ≤ (n - T.low) % T.modulus := Int.emod_nonneg _ T.modulus_pos.ne'
  have hlt : (n - T.low) % T.modulus < T.modulus := Int.emod_lt_of_pos _ T.modulus_pos
  unfold IntType.Holds IntType.wrap
  omega

/-- A value of the type is not changed. -/
theorem IntType.Holds.wrap {n : Int} (h : T.Holds n) : T.wrap n = n := by
  obtain ⟨hlow, hhigh⟩ := h
  unfold IntType.wrap
  rw [Int.emod_eq_of_lt (by omega) (by omega)]
  omega

/-- Only the values of the type are kept. -/
theorem IntType.wrap_eq_self_iff (n : Int) : T.wrap n = n ↔ T.Holds n := by
  constructor
  · intro h
    have hwrap := T.wrap_holds n
    rw [h] at hwrap
    exact hwrap
  · exact IntType.Holds.wrap

/-- The conversion keeps the residue. -/
theorem IntType.wrap_modEq (n : Int) : T.wrap n ≡ n [ZMOD T.modulus] := by
  have hmod : (n - T.low) % T.modulus ≡ n - T.low [ZMOD T.modulus] := Int.mod_modEq _ _
  have hadd := Int.ModEq.add_left T.low hmod
  rw [add_sub_cancel] at hadd
  exact hadd

theorem IntType.wrap_congr {m n : Int} (h : m ≡ n [ZMOD T.modulus]) : T.wrap m = T.wrap n := by
  have hsub : m - T.low ≡ n - T.low [ZMOD T.modulus] := Int.ModEq.sub_right T.low h
  unfold IntType.wrap
  rw [hsub.eq]

/-- A type that is no wider does not see what a conversion before it has done. -/
theorem IntType.wrap_wrap (h : U.bits ≤ T.bits) (n : Int) : U.wrap (T.wrap n) = U.wrap n := by
  have hdvd : U.modulus ∣ T.modulus := pow_dvd_pow 2 h
  exact IntType.wrap_congr ((T.wrap_modEq n).of_dvd hdvd)

/-- A cast to another type. -/
def Value.convert (U : IntType) (v : Value T) : Value U := ⟨U.wrap v.val, U.wrap_holds v.val⟩

/-- A chain of conversions is one of integers. -/
theorem Value.convert_val (v : Value T) : (v.convert U).val = U.wrap v.val := rfl

end cints
