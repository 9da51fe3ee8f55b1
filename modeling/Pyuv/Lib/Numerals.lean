-- Numerals in a base, the most significant digit first. A number is built digit by digit, and
-- so is its numeral, which is what a reader that goes through the text digit by digit needs.
import Mathlib.Data.Nat.Notation

namespace numerals

variable {b n d : ℕ} {c : Char} {read : Char → Option ℕ}

/-- A digit after a numeral that is not 0. -/
theorem toDigits_push (hb : 1 < b) (hn : 0 < n) (hd : d < b) :
    Nat.toDigits b n ++ [Nat.digitChar d] = Nat.toDigits b (n * b + d) := by
  have happend := Nat.toDigits_append_toDigits hb hn hd
  rw [Nat.toDigits_of_lt_base hd, Nat.mul_comm b n] at happend
  exact happend

/-- The numerals are the digits, and the numerals with one more digit. -/
theorem toDigits_induction {motive : ℕ → List Char → Prop} (hb : 1 < b)
    (digit : ∀ d, d < b → motive d [Nat.digitChar d])
    (push : ∀ n d, 0 < n → d < b → motive n (Nat.toDigits b n) →
      motive (n * b + d) (Nat.toDigits b n ++ [Nat.digitChar d]))
    (n : ℕ) : motive n (Nat.toDigits b n) := by
  induction n using Nat.strongRecOn with
  | ind n ih =>
    by_cases hlt : n < b
    · rw [Nat.toDigits_of_lt_base hlt]
      exact digit n hlt
    · have hpos : 0 < n / b := Nat.div_pos (by omega) (by omega)
      have hless : n / b < n := Nat.div_lt_self (by omega) hb
      have hrem : n % b < b := Nat.mod_lt n (by omega)
      have hpush := push (n / b) (n % b) hpos hrem (ih (n / b) hless)
      rw [toDigits_push hb hpos hrem, Nat.div_add_mod'] at hpush
      exact hpush

/-- The digits of a number are digits of its base. -/
theorem mem_toDigits (hb : 1 < b) (hc : c ∈ Nat.toDigits b n) :
    ∃ d, d < b ∧ c = Nat.digitChar d := by
  revert hc
  refine toDigits_induction (motive := fun _ cs => c ∈ cs →
    ∃ d, d < b ∧ c = Nat.digitChar d) hb ?_ ?_ n
  · intro d hd hc
    exact ⟨d, hd, List.mem_singleton.mp hc⟩
  · intro n d _ hd ih hc
    rcases List.mem_append.mp hc with hc | hc
    · exact ih hc
    · exact ⟨d, hd, List.mem_singleton.mp hc⟩

/-- The number that the digits of a text stand for. -/
def value (read : Char → Option ℕ) (b : ℕ) (cs : List Char) : ℕ :=
  cs.foldl (fun n c => n * b + (read c).getD 0) 0

/-- One more digit at the end. -/
theorem value_push (cs : List Char) (hc : read c = some d) :
    value read b (cs ++ [c]) = value read b cs * b + d := by
  unfold value
  rw [List.foldl_append]
  simp [hc]

/-- A reader that knows the digits reads each numeral as its number. -/
theorem value_toDigits (hb : 1 < b) (hread : ∀ d, d < b → read (Nat.digitChar d) = some d) (n : ℕ) :
    value read b (Nat.toDigits b n) = n := by
  refine toDigits_induction (motive := fun n cs => value read b cs = n) hb ?_ ?_ n
  · intro d hd
    simp [value, hread d hd]
  · intro n d _ hd ih
    rw [value_push _ (hread d hd), ih]

end numerals
