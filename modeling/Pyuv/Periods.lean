-- The seconds that Timer.start, Timer.repeat and FSPoll.start are given, and the milliseconds
-- that they pass to libuv (src/timer.c, src/fs.c). Two of the four raise what is below a
-- millisecond to one, FSPoll cuts the fraction off before it multiplies, and what is read and
-- multiplied are doubles, so that a product can be rounded up to a whole millisecond.
import Pyuv.Lib.Floats
import Pyuv.Methods

set_option linter.style.nameCheck false

namespace pyuv.periods

open floats
open methods (Env Ptr Args parse a_callable not_negative new_value)

/-! ## The calls -/

/-- The conversions of a double. Out of its range each gives any number of its type. -/
structure Casts where
  uint64_t : ℚ → ℕ
  unsigned_int : ℚ → ℕ
  uint64_t_lt : ∀ x, uint64_t x < 2 ^ 64
  unsigned_int_lt : ∀ x, unsigned_int x < 2 ^ 32
  uint64_t_eq : ∀ x, 0 ≤ x → ⌊x⌋₊ < 2 ^ 64 → uint64_t x = ⌊x⌋₊
  unsigned_int_eq : ∀ x, 0 ≤ x → ⌊x⌋₊ < 2 ^ 32 → unsigned_int x = ⌊x⌋₊

/-- The double that is read from a Python number, as from an int, a float or a fraction. -/
def PyFloat_AsDouble (s : ℚ) : Except PyErr ℚ :=
  if |binary64.nearest s| < 2 ^ 1024 then .ok (binary64.nearest s)
  else .error (.cpython .OverflowError)

/-- The literal `0.001`. -/
def one_ms : ℚ := binary64.nearest (1 / 1000)

/-- The product `x * 1000` of doubles. One that is past their range is out of range for every cast,
as infinity is. -/
def times_1000 (x : ℚ) : ℚ := binary64.nearest (x * 1000)

/-- "timers don't have sub-millisecond accuracy" -/
def at_least_1ms (x : ℚ) : ℚ := if 0 < x ∧ x < one_ms then one_ms else x

variable (E : Env) (K : Casts)

/-- What uv_timer_start is given. `guards` is what the macros make of the handle. -/
def Timer_func_start (guards : Except PyErr Unit) (args : Args (Ptr × ℚ × ℚ)) :
    Except PyErr (List ℕ) := do
  guards
  let (callback, timeout, repeat_s) ← parse args
  let timeout ← PyFloat_AsDouble timeout
  let repeat_s ← PyFloat_AsDouble repeat_s
  a_callable E callback
  not_negative "a positive value or zero is required" timeout
  not_negative "a positive value or zero is required" repeat_s
  return [K.uint64_t (times_1000 (at_least_1ms timeout)),
    K.uint64_t (times_1000 (at_least_1ms repeat_s))]

/-- The milliseconds that `repeat` is set to, without a clamp. -/
def Timer_repeat_set (guards : Except PyErr Unit) (value : Option (Args ℚ)) :
    Except PyErr (List ℕ) := do
  guards
  let value ← new_value value
  let repeat_s ← PyFloat_AsDouble value
  not_negative "a positive float or 0.0 is required" repeat_s
  return [K.uint64_t (times_1000 repeat_s)]

/-- The cast binds to `interval`, and the product is one of unsigned ints. -/
def FSPoll_func_start (guards : Except PyErr Unit) (args : Args (Ptr × ℚ)) :
    Except PyErr (List ℕ) := do
  guards
  let (callback, interval) ← parse args
  let interval ← PyFloat_AsDouble interval
  a_callable E callback
  not_negative "a positive value or zero is required" interval
  return [K.unsigned_int interval * 1000 % 2 ^ 32]

/-- The calls that turn seconds into milliseconds. -/
inductive Call where
  | Timer_start (args : Args (Ptr × ℚ × ℚ))
  | Timer_set_repeat (value : Option (Args ℚ))
  | FSPoll_start (args : Args (Ptr × ℚ))

/-- The milliseconds that libuv is given, or the exception. -/
def Call.passes (guards : Except PyErr Unit) : Call → Except PyErr (List ℕ)
  | .Timer_start args => Timer_func_start E K guards args
  | .Timer_set_repeat value => Timer_repeat_set K guards value
  | .FSPoll_start args => FSPoll_func_start E K guards args

/-! ## The law -/

/-- The milliseconds of `s` seconds. -/
def period (s : ℚ) : ℕ := if 0 < s ∧ s < 1 / 1000 then 1 else ⌊1000 * s⌋₊

/-- The seconds of a call. -/
def Call.seconds : Call → List ℚ
  | .Timer_start (.ok (_, timeout, repeat_s)) => [timeout, repeat_s]
  | .Timer_set_repeat (some (.ok repeat_s)) => [repeat_s]
  | .FSPoll_start (.ok (_, interval)) => [interval]
  | _ => []

/-- What is passed to libuv are the periods, whatever a cast gives that is out of range, and
Timer.start installs the same repeat as the setter. -/
structure Exact (c : Call) : Prop where
  passed : ∀ K guards ns, c.passes E K guards = .ok ns → ns = c.seconds.map period
  same_repeat : ∀ K guards value ns args ms, c = .Timer_set_repeat value →
    c.passes E K guards = .ok ns → (Call.Timer_start args).passes E K guards = .ok ms →
    (Call.Timer_start args).seconds.getLast? = c.seconds.getLast? → ms.getLast? = ns.getLast?

/-! ## The condition -/

/-- The seconds that are read and found not negative. -/
def Accepted (s : ℚ) : Prop := 0 ≤ binary64.nearest s ∧ binary64.nearest s < 2 ^ 1024

/-- No whole number of milliseconds lies between `s` and the double of the product. -/
def Kept (s : ℚ) : Prop := ∀ n : ℕ, n ≤ times_1000 (binary64.nearest s) ↔ n ≤ 1000 * s

/-- Seconds that are passed on exactly where they are raised to a millisecond. -/
def FitsRaised (s : ℚ) : Prop :=
  s ≤ 0 ∨ s < 1 / 1000 ∧ 0 < binary64.nearest s ∨
    1 / 1000 ≤ s ∧ Kept s ∧ ⌊1000 * s⌋₊ < 2 ^ 64

/-- Seconds that are passed on exactly where they are not. -/
def FitsAsRead (s : ℚ) : Prop :=
  s ≤ 0 ∨ s < 1 / 1000 ∧ binary64.nearest s = one_ms ∨
    1 / 1000 ≤ s ∧ Kept s ∧ ⌊1000 * s⌋₊ < 2 ^ 64

/-- Seconds that are passed on exactly where their fraction is cut off. -/
def FitsCut (s : ℚ) : Prop :=
  s ≤ 0 ∨ 1 ≤ s ∧ s < ⌊s⌋₊ + 1 / 1000 ∧ 1000 * ⌊s⌋₊ < 2 ^ 32

/-- Which calls are exact, as far as they are accepted. -/
def Call.fits : Call → Prop
  | .Timer_start (.ok (callback, timeout, repeat_s)) =>
    E.callable callback = true → Accepted timeout → Accepted repeat_s →
      FitsRaised timeout ∧ FitsRaised repeat_s
  | .Timer_set_repeat (some (.ok repeat_s)) => Accepted repeat_s → FitsAsRead repeat_s
  | .FSPoll_start (.ok (callback, interval)) =>
    E.callable callback = true → Accepted interval → FitsCut interval
  | _ => True

variable {E K}

theorem period_pos {s : ℚ} (h : 0 < s) : 0 < period s := by
  unfold period
  by_cases hlt : s < 1 / 1000
  · rw [if_pos ⟨h, hlt⟩]
    exact Nat.one_pos
  · rw [if_neg fun hs => hlt hs.2]
    apply Nat.floor_pos.mpr
    linarith

theorem period_of_nonpos {s : ℚ} (h : s ≤ 0) : period s = 0 := by
  unfold period
  rw [if_neg fun hs => not_lt.mpr h hs.1]
  exact Nat.floor_of_nonpos (by linarith)

theorem period_of_small {s : ℚ} (h : 0 < s) (hlt : s < 1 / 1000) : period s = 1 := if_pos ⟨h, hlt⟩

theorem period_of_le {s : ℚ} (h : 1 / 1000 ≤ s) : period s = ⌊1000 * s⌋₊ :=
  if_neg fun hs => not_le.mpr hs.2 h

theorem period_mono : MonotoneOn period {s | 0 ≤ s} := by
  intro s hs t _ hst
  rcases (show 0 ≤ s from hs).eq_or_lt with rfl | hpos
  · rw [period_of_nonpos le_rfl]
    exact Nat.zero_le _
  · rcases lt_or_ge s (1 / 1000) with hsmall | hlarge
    · rw [period_of_small hpos hsmall]
      exact period_pos (hpos.trans_le hst)
    · rw [period_of_le hlarge, period_of_le (hlarge.trans hst)]
      apply Nat.floor_mono
      linarith

/-! ## Doubles about a millisecond -/

theorem one_ms_eq : one_ms = 4611686018427388 / 2 ^ 62 := by decide +kernel

theorem holds_int {n : ℕ} (h : n < 2 ^ 53) : binary64.Holds n := by
  have habs : |(n : ℤ)| < 2 ^ binary64.digits := by
    rw [abs_of_nonneg (Int.natCast_nonneg n)]
    exact_mod_cast h
  exact_mod_cast Format.holds_int (by decide) habs

theorem zero_holds : binary64.Holds 0 := holds_int (n := 0) (by norm_num)

theorem read_nonneg {s : ℚ} (h : 0 ≤ s) : 0 ≤ binary64.nearest s := Format.le_nearest zero_holds h

theorem read_nonpos {s : ℚ} (h : s ≤ 0) : binary64.nearest s ≤ 0 := Format.nearest_le zero_holds h

theorem times_1000_nonneg {x : ℚ} (h : 0 ≤ x) : 0 ≤ times_1000 x :=
  Format.le_nearest zero_holds (by linarith)

theorem times_1000_zero : times_1000 0 = 0 := by
  unfold times_1000
  rw [zero_mul, Format.nearest_zero]

theorem one_ms_holds : binary64.Holds one_ms := Format.nearest_holds _

/-- The double before `0.001`. -/
theorem le_of_lt_one_ms {x : ℚ} (hx : binary64.Holds x) (h : x < one_ms) :
    x ≤ 4611686018427387 / 2 ^ 62 := by
  rw [one_ms_eq] at h
  have hle := hx.le_of_lt_succ (k := 4611686018427387) (e := -62) (by decide) (by
    norm_num at h ⊢
    exact h)
  norm_num at hle ⊢
  exact hle

theorem read_le_one_ms {s : ℚ} (h : s < 1 / 1000) : binary64.nearest s ≤ one_ms := by
  have heq := one_ms_eq
  exact Format.nearest_le one_ms_holds (by linarith)

/-- A thousandth is not a double: what is read as `0.001` begins below it. -/
theorem one_ms_le_read {s : ℚ} (h : 1 / 1000 ≤ s) : one_ms ≤ binary64.nearest s := by
  by_contra hlt
  have hprev := le_of_lt_one_ms (Format.nearest_holds s) (not_le.mp hlt)
  have hs : s < one_ms := by
    by_contra hle
    exact hlt (Format.le_nearest one_ms_holds (not_lt.mp hle))
  rw [one_ms_eq] at hs
  have hpos : 0 < s := by linarith
  have hlog : Int.log 2 |s| < -9 := by
    rw [abs_of_pos hpos]
    apply (Int.lt_zpow_iff_log_lt (by norm_num) hpos).mp
    norm_num
    linarith
  have hgap : binary64.gap s ≤ 1 / 2 ^ 62 := by
    have hexp : binary64.exponent s ≤ -62 := by
      have hdigits : binary64.digits = 53 := rfl
      have hleast : binary64.least = -1074 := rfl
      unfold Format.exponent
      omega
    have hle : binary64.gap s ≤ 2 ^ (-62 : ℤ) := two_zpow_le hexp
    norm_num at hle ⊢
    exact hle
  have hnear := (abs_le.mp (binary64.nearest_near s)).1
  linarith

/-- A double below `0.001` is passed on as 0 milliseconds. -/
theorem times_1000_lt_one {x : ℚ} (hx : binary64.Holds x) (h : x < one_ms) : times_1000 x < 1 := by
  have hle := le_of_lt_one_ms hx h
  have hbelow : binary64.Holds (1 - 1 / 2 ^ 53) :=
    ⟨2 ^ 53 - 1, -53, by decide, by decide, by norm_num⟩
  have hprod : times_1000 x ≤ 1 - 1 / 2 ^ 53 := Format.nearest_le hbelow (by linarith)
  linarith

theorem floor_times_1000_one_ms : ⌊times_1000 one_ms⌋₊ = 1 := by decide +kernel

/-! ## The numbers that are passed -/

theorem at_least_1ms_of_small {x : ℚ} (h : 0 < x) (hle : x ≤ one_ms) : at_least_1ms x = one_ms := by
  unfold at_least_1ms
  split_ifs with hlt
  · rfl
  · exact hle.antisymm (not_lt.mp fun hx => hlt ⟨h, hx⟩)

theorem at_least_1ms_of_le {x : ℚ} (h : one_ms ≤ x) : at_least_1ms x = x :=
  if_neg fun hx => not_le.mpr hx.2 h

theorem at_least_1ms_zero : at_least_1ms 0 = 0 := if_neg fun h => lt_irrefl 0 h.1

/-- The conversions of a machine that gives `c` for what is out of range. -/
def giving (c : ℕ) (h : c < 2 ^ 32) : Casts where
  uint64_t x := if ⌊x⌋₊ < 2 ^ 64 then ⌊x⌋₊ else c
  unsigned_int x := if ⌊x⌋₊ < 2 ^ 32 then ⌊x⌋₊ else c
  uint64_t_lt _ := by split_ifs <;> omega
  unsigned_int_lt _ := by split_ifs <;> omega
  uint64_t_eq _ _ h := if_pos h
  unsigned_int_eq _ _ h := if_pos h

/-- A cast gives a certain number on every machine if it is the floor and in range. -/
theorem uint64_t_eq_iff {x : ℚ} (h : 0 ≤ x) (n : ℕ) :
    (∀ K : Casts, K.uint64_t x = n) ↔ ⌊x⌋₊ = n ∧ n < 2 ^ 64 := by
  constructor
  · intro hall
    have hzero : (if ⌊x⌋₊ < 2 ^ 64 then ⌊x⌋₊ else 0) = n := hall (giving 0 (by norm_num))
    have hone : (if ⌊x⌋₊ < 2 ^ 64 then ⌊x⌋₊ else 1) = n := hall (giving 1 (by norm_num))
    split_ifs at hzero hone with hrange
    · exact ⟨hzero, hzero ▸ hrange⟩
    · omega
  · rintro ⟨rfl, hrange⟩ K
    exact K.uint64_t_eq x h hrange

theorem unsigned_int_eq_iff {x : ℚ} (h : 0 ≤ x) (n : ℕ) :
    (∀ K : Casts, K.unsigned_int x * 1000 % 2 ^ 32 = n) ↔
      ⌊x⌋₊ < 2 ^ 32 ∧ ⌊x⌋₊ * 1000 % 2 ^ 32 = n := by
  constructor
  · intro hall
    have hzero : (if ⌊x⌋₊ < 2 ^ 32 then ⌊x⌋₊ else 0) * 1000 % 2 ^ 32 = n :=
      hall (giving 0 (by norm_num))
    have hone : (if ⌊x⌋₊ < 2 ^ 32 then ⌊x⌋₊ else 1) * 1000 % 2 ^ 32 = n :=
      hall (giving 1 (by norm_num))
    split_ifs at hzero hone with hrange
    · exact ⟨hrange, hzero⟩
    · omega
  · rintro ⟨hrange, rfl⟩ K
    rw [K.unsigned_int_eq x h hrange]

theorem kept_iff {s : ℚ} (h : 0 ≤ s) :
    Kept s ↔ ⌊times_1000 (binary64.nearest s)⌋₊ = ⌊1000 * s⌋₊ := by
  have hprod := times_1000_nonneg (read_nonneg h)
  have hexact : 0 ≤ 1000 * s := by linarith
  constructor
  · intro hkept
    apply le_antisymm
    · exact Nat.le_floor ((hkept _).mp (Nat.floor_le hprod))
    · exact Nat.le_floor ((hkept _).mpr (Nat.floor_le hexact))
  · intro heq n
    rw [← Nat.le_floor_iff hprod, heq, Nat.le_floor_iff hexact]

/-- From a millisecond on the product is what decides. -/
theorem large_iff {s : ℚ} (h : 1 / 1000 ≤ s) :
    (∀ K : Casts, K.uint64_t (times_1000 (binary64.nearest s)) = period s) ↔
      Kept s ∧ ⌊1000 * s⌋₊ < 2 ^ 64 := by
  have hs : 0 ≤ s := by linarith
  rw [uint64_t_eq_iff (times_1000_nonneg (read_nonneg hs)), period_of_le h, kept_iff hs]

section Cases

variable {s : ℚ} {P Q : Prop}

theorem small_iff (hpos : 0 < s) (h : s < 1 / 1000) :
    s ≤ 0 ∨ s < 1 / 1000 ∧ P ∨ 1 / 1000 ≤ s ∧ Q ↔ P := by
  constructor
  · rintro (hneg | ⟨-, hP⟩ | ⟨hle, -⟩)
    · exact absurd hneg hpos.not_ge
    · exact hP
    · exact absurd hle h.not_ge
  · exact fun hP => .inr (.inl ⟨h, hP⟩)

theorem not_small_iff (h : 1 / 1000 ≤ s) :
    s ≤ 0 ∨ s < 1 / 1000 ∧ P ∨ 1 / 1000 ≤ s ∧ Q ↔ Q := by
  constructor
  · rintro (hneg | ⟨hlt, -⟩ | ⟨-, hQ⟩)
    · linarith
    · exact absurd h hlt.not_ge
    · exact hQ
  · exact fun hQ => .inr (.inr ⟨h, hQ⟩)

end Cases

theorem zero_always {s : ℚ} (h : s ≤ 0) (K : Casts) : K.uint64_t (times_1000 0) = period s := by
  rw [times_1000_zero, period_of_nonpos h, K.uint64_t_eq 0 le_rfl (by norm_num), Nat.floor_zero]

/-- A raised value has the period in its range, unless the product was rounded up, or nothing was
left of the seconds. -/
theorem raised_eq_iff {s : ℚ} (h : Accepted s) :
    (∀ K : Casts, K.uint64_t (times_1000 (at_least_1ms (binary64.nearest s))) = period s) ↔
      FitsRaised s := by
  unfold FitsRaised
  rcases le_or_gt s 0 with hneg | hpos
  · rw [(read_nonpos hneg).antisymm h.1, at_least_1ms_zero]
    exact iff_of_true (zero_always hneg) (.inl hneg)
  rcases lt_or_ge s (1 / 1000) with hsmall | hlarge
  · rw [period_of_small hpos hsmall, small_iff hpos hsmall]
    rcases h.1.eq_or_lt with hzero | hread
    · rw [← hzero, at_least_1ms_zero, uint64_t_eq_iff (times_1000_nonneg le_rfl), times_1000_zero]
      simp
    · have hms : 0 ≤ one_ms := read_nonneg (by norm_num)
      rw [at_least_1ms_of_small hread (read_le_one_ms hsmall),
        uint64_t_eq_iff (times_1000_nonneg hms), floor_times_1000_one_ms]
      exact iff_of_true (by norm_num) hread
  · rw [at_least_1ms_of_le (one_ms_le_read hlarge), large_iff hlarge, not_small_iff hlarge]

/-- A value that is not raised must not be read as one below a millisecond. -/
theorem as_read_eq_iff {s : ℚ} (h : Accepted s) :
    (∀ K : Casts, K.uint64_t (times_1000 (binary64.nearest s)) = period s) ↔ FitsAsRead s := by
  unfold FitsAsRead
  rcases le_or_gt s 0 with hneg | hpos
  · rw [(read_nonpos hneg).antisymm h.1]
    exact iff_of_true (zero_always hneg) (.inl hneg)
  rcases lt_or_ge s (1 / 1000) with hsmall | hlarge
  · rw [period_of_small hpos hsmall, uint64_t_eq_iff (times_1000_nonneg h.1),
      small_iff hpos hsmall]
    rcases (read_le_one_ms hsmall).eq_or_lt with heq | hlt
    · rw [heq, floor_times_1000_one_ms]
      simp
    · have hzero : ⌊times_1000 (binary64.nearest s)⌋₊ = 0 :=
        Nat.floor_eq_zero.mpr (times_1000_lt_one (Format.nearest_holds s) hlt)
      rw [hzero]
      exact iff_of_false (by norm_num) hlt.ne
  · rw [large_iff hlarge, not_small_iff hlarge]

/-- Whole seconds, and less than a millisecond more. -/
theorem whole_seconds_iff {s : ℚ} (h : 0 ≤ s) :
    ⌊1000 * s⌋₊ = 1000 * ⌊s⌋₊ ↔ s < ⌊s⌋₊ + 1 / 1000 := by
  have hle : (⌊s⌋₊ : ℚ) ≤ s := Nat.floor_le h
  rw [Nat.floor_eq_iff (by linarith)]
  push_cast
  constructor
  · rintro ⟨-, hlt⟩
    linarith
  · intro hlt
    constructor <;> linarith

/-- A period is one of its second. -/
theorem period_in_second {s : ℚ} (h : 0 < s) :
    1000 * ⌊s⌋₊ ≤ period s ∧ period s < 1000 * (⌊s⌋₊ + 1) := by
  rcases lt_or_ge s (1 / 1000) with hsmall | hlarge
  · have hzero : ⌊s⌋₊ = 0 := Nat.floor_eq_zero.mpr (by linarith)
    rw [period_of_small h hsmall, hzero]
    norm_num
  · rw [period_of_le hlarge]
    constructor
    · apply Nat.le_floor
      push_cast
      linarith [Nat.floor_le h.le]
    · apply (Nat.floor_lt (by linarith)).mpr
      push_cast
      linarith [Nat.lt_floor_add_one s]

/-- Reading brings the seconds to the next second at most. -/
theorem floor_read {s : ℚ} (h : 0 ≤ s) (hrange : ⌊binary64.nearest s⌋₊ < 2 ^ 32) :
    ⌊s⌋₊ ≤ ⌊binary64.nearest s⌋₊ ∧ ⌊binary64.nearest s⌋₊ ≤ ⌊s⌋₊ + 1 := by
  have hs : ⌊s⌋₊ < 2 ^ 32 := by
    apply (Nat.floor_lt h).mpr
    by_contra hlarge
    have hread : ((2 ^ 32 : ℕ) : ℚ) ≤ binary64.nearest s :=
      Format.le_nearest (holds_int (by norm_num)) (not_lt.mp hlarge)
    exact absurd (Nat.le_floor hread) (by omega)
  constructor
  · exact Nat.le_floor (Format.le_nearest (holds_int (by omega)) (Nat.floor_le h))
  · have hread : binary64.nearest s ≤ ((⌊s⌋₊ + 1 : ℕ) : ℚ) := by
      apply Format.nearest_le (holds_int (by omega))
      push_cast
      exact (Nat.lt_floor_add_one s).le
    exact_mod_cast (Nat.floor_le (read_nonneg h)).trans hread

/-- Reading does not bring the first half of a second to the next one. -/
theorem floor_read_of_lt {s : ℚ} (h : 0 ≤ s) (hhalf : s < ⌊s⌋₊ + 1 / 2) (hs : ⌊s⌋₊ < 2 ^ 32) :
    ⌊binary64.nearest s⌋₊ = ⌊s⌋₊ := by
  have hholds : binary64.Holds (⌊s⌋₊ + 1 / 2) := by
    refine ⟨2 * ⌊s⌋₊ + 1, -1, ?_, by decide, ?_⟩
    · rw [abs_of_nonneg (by omega)]
      have hdigits : binary64.digits = 53 := rfl
      rw [hdigits]
      omega
    · push_cast
      norm_num
      ring
  have hread : binary64.nearest s ≤ ⌊s⌋₊ + 1 / 2 := Format.nearest_le hholds hhalf.le
  apply (Nat.floor_eq_iff (read_nonneg h)).mpr
  exact ⟨Format.le_nearest (holds_int (by omega)) (Nat.floor_le h), by linarith⟩

theorem cut_eq_iff {s : ℚ} (h : Accepted s) :
    (∀ K : Casts, K.unsigned_int (binary64.nearest s) * 1000 % 2 ^ 32 = period s) ↔ FitsCut s := by
  unfold FitsCut
  rw [unsigned_int_eq_iff h.1]
  rcases le_or_gt s 0 with hneg | hpos
  · rw [(read_nonpos hneg).antisymm h.1, period_of_nonpos hneg]
    exact iff_of_true (by norm_num) (.inl hneg)
  obtain ⟨hlow, hhigh⟩ := period_in_second hpos
  constructor
  · rintro ⟨hrange, heq⟩
    obtain ⟨hle, hge⟩ := floor_read hpos.le hrange
    -- what is left modulo 2 ^ 32 is of the same second only if nothing was taken away
    have hwhole : period s = 1000 * ⌊s⌋₊ ∧ 1000 * ⌊s⌋₊ < 2 ^ 32 := by
      have hread : ⌊binary64.nearest s⌋₊ = ⌊s⌋₊ ∨ ⌊binary64.nearest s⌋₊ = ⌊s⌋₊ + 1 := by omega
      rcases hread with hread | hread <;> rw [hread] at heq <;> omega
    have hmin := period_pos hpos
    have hsecond : 1 ≤ s := Nat.one_le_floor_iff s |>.mp (by omega)
    rw [period_of_le (by linarith)] at hwhole
    exact .inr ⟨hsecond, (whole_seconds_iff hpos.le).mp hwhole.1, hwhole.2⟩
  · rintro (hneg | ⟨hsecond, hwhole, hfit⟩)
    · exact absurd hneg hpos.not_ge
    · rw [floor_read_of_lt hpos.le (by linarith) (by omega), period_of_le (by linarith),
        (whole_seconds_iff hpos.le).mpr hwhole]
      omega

/-! ## The calls that are accepted -/

theorem bind_eq_ok_iff {α β : Type} {x : Except PyErr α} {f : α → Except PyErr β} {b : β} :
    x >>= f = .ok b ↔ ∃ a, x = .ok a ∧ f a = .ok b := by
  cases x with
  | ok a =>
    constructor
    · exact fun h => ⟨a, rfl, h⟩
    · rintro ⟨_, heq, h⟩
      cases heq
      exact h
  | error e =>
    constructor
    · intro h
      cases h
    · rintro ⟨_, h, -⟩
      cases h

theorem parse_eq_ok_iff {α : Type} {args : Args α} {a : α} : parse args = .ok a ↔ args = .ok a := by
  cases args with
  | ok b => simp
  | error t => simp

theorem a_callable_eq_ok_iff {callback : Ptr} {u : Unit} :
    a_callable E callback = .ok u ↔ E.callable callback = true := by
  unfold a_callable
  split <;> simp [*]

theorem not_negative_eq_ok_iff {msg : String} {x : ℚ} {u : Unit} :
    not_negative msg x = .ok u ↔ 0 ≤ x := by
  unfold not_negative
  split
  · rename_i h
    simp [h]
  · rename_i h
    simp [not_lt.mp h]

theorem PyFloat_AsDouble_eq_ok_iff {s x : ℚ} :
    PyFloat_AsDouble s = .ok x ↔ |binary64.nearest s| < 2 ^ 1024 ∧ x = binary64.nearest s := by
  unfold PyFloat_AsDouble
  split_ifs with h
  · simp [h, eq_comm]
  · simp [h]

/-- Both checks of a number together. -/
theorem accepted_iff {s : ℚ} :
    Accepted s ↔ |binary64.nearest s| < 2 ^ 1024 ∧ 0 ≤ binary64.nearest s := by
  unfold Accepted
  constructor
  · rintro ⟨hpos, hlt⟩
    exact ⟨(abs_of_nonneg hpos).trans_lt hlt, hpos⟩
  · rintro ⟨habs, hpos⟩
    exact ⟨hpos, (le_abs_self _).trans_lt habs⟩

theorem Timer_start_eq_ok_iff {guards : Except PyErr Unit} {args : Args (Ptr × ℚ × ℚ)}
    {ns : List ℕ} : (Call.Timer_start args).passes E K guards = .ok ns ↔
      guards = .ok () ∧ ∃ callback timeout repeat_s, args = .ok (callback, timeout, repeat_s) ∧
        E.callable callback = true ∧ Accepted timeout ∧ Accepted repeat_s ∧
        ns = [K.uint64_t (times_1000 (at_least_1ms (binary64.nearest timeout))),
          K.uint64_t (times_1000 (at_least_1ms (binary64.nearest repeat_s)))] := by
  unfold Call.passes Timer_func_start
  simp only [bind_eq_ok_iff, parse_eq_ok_iff, a_callable_eq_ok_iff, not_negative_eq_ok_iff,
    PyFloat_AsDouble_eq_ok_iff, accepted_iff]
  constructor
  · rintro ⟨_, hguards, ⟨callback, timeout, repeat_s⟩, hargs, _, ⟨ht, rfl⟩, _, ⟨hr, rfl⟩, _, hcall,
      _, ht', _, hr', hns⟩
    cases hns
    exact ⟨hguards, callback, timeout, repeat_s, hargs, hcall, ⟨ht, ht'⟩, ⟨hr, hr'⟩, rfl⟩
  · rintro ⟨hguards, callback, timeout, repeat_s, hargs, hcall, ⟨ht, ht'⟩, ⟨hr, hr'⟩, rfl⟩
    exact ⟨(), hguards, _, hargs, _, ⟨ht, rfl⟩, _, ⟨hr, rfl⟩, (), hcall, (), ht', (), hr', rfl⟩

theorem Timer_set_repeat_eq_ok_iff {guards : Except PyErr Unit} {value : Option (Args ℚ)}
    {ns : List ℕ} : (Call.Timer_set_repeat value).passes E K guards = .ok ns ↔
      guards = .ok () ∧ ∃ repeat_s, value = some (.ok repeat_s) ∧ Accepted repeat_s ∧
        ns = [K.uint64_t (times_1000 (binary64.nearest repeat_s))] := by
  unfold Call.passes Timer_repeat_set
  simp only [bind_eq_ok_iff, not_negative_eq_ok_iff, PyFloat_AsDouble_eq_ok_iff, accepted_iff]
  constructor
  · rintro ⟨_, hguards, repeat_s, hvalue, _, ⟨hr, rfl⟩, _, hr', hns⟩
    cases hns
    cases value with
    | none => cases hvalue
    | some args =>
      exact ⟨hguards, repeat_s, congrArg some (parse_eq_ok_iff.mp hvalue), ⟨hr, hr'⟩, rfl⟩
  · rintro ⟨hguards, repeat_s, rfl, ⟨hr, hr'⟩, rfl⟩
    exact ⟨(), hguards, repeat_s, rfl, _, ⟨hr, rfl⟩, (), hr', rfl⟩

theorem FSPoll_start_eq_ok_iff {guards : Except PyErr Unit} {args : Args (Ptr × ℚ)}
    {ns : List ℕ} : (Call.FSPoll_start args).passes E K guards = .ok ns ↔
      guards = .ok () ∧ ∃ callback interval, args = .ok (callback, interval) ∧
        E.callable callback = true ∧ Accepted interval ∧
        ns = [K.unsigned_int (binary64.nearest interval) * 1000 % 2 ^ 32] := by
  unfold Call.passes FSPoll_func_start
  simp only [bind_eq_ok_iff, parse_eq_ok_iff, a_callable_eq_ok_iff, not_negative_eq_ok_iff,
    PyFloat_AsDouble_eq_ok_iff, accepted_iff]
  constructor
  · rintro ⟨_, hguards, ⟨callback, interval⟩, hargs, _, ⟨hs, rfl⟩, _, hcall, _, hs', hns⟩
    cases hns
    exact ⟨hguards, callback, interval, hargs, hcall, ⟨hs, hs'⟩, rfl⟩
  · rintro ⟨hguards, callback, interval, hargs, hcall, ⟨hs, hs'⟩, rfl⟩
    exact ⟨(), hguards, _, hargs, _, ⟨hs, rfl⟩, (), hcall, (), hs', rfl⟩

theorem fits_of_exact {c : Call} (h : Exact E c) : c.fits E := by
  cases c with
  | Timer_start args =>
    rcases args with t | ⟨callback, timeout, repeat_s⟩
    · trivial
    · intro hcall ht hr
      have hns := fun K => h.passed K (.ok ()) _
        (Timer_start_eq_ok_iff.mpr ⟨rfl, _, _, _, rfl, hcall, ht, hr, rfl⟩)
      exact ⟨(raised_eq_iff ht).mp fun K => (List.cons.inj (hns K)).1,
        (raised_eq_iff hr).mp fun K => (List.cons.inj (List.cons.inj (hns K)).2).1⟩
  | Timer_set_repeat value =>
    rcases value with _ | t | repeat_s
    · trivial
    · trivial
    · intro hr
      have hns := fun K =>
        h.passed K (.ok ()) _ (Timer_set_repeat_eq_ok_iff.mpr ⟨rfl, _, rfl, hr, rfl⟩)
      exact (as_read_eq_iff hr).mp fun K => (List.cons.inj (hns K)).1
  | FSPoll_start args =>
    rcases args with t | ⟨callback, interval⟩
    · trivial
    · intro hcall hs
      have hns := fun K => h.passed K (.ok ()) _
        (FSPoll_start_eq_ok_iff.mpr ⟨rfl, _, _, rfl, hcall, hs, rfl⟩)
      exact (cut_eq_iff hs).mp fun K => (List.cons.inj (hns K)).1

/-- What the setter passes on exactly, Timer.start does too. -/
theorem FitsAsRead.raised {s : ℚ} (h : FitsAsRead s) : FitsRaised s := by
  rcases h with hneg | ⟨hsmall, hread⟩ | hlarge
  · exact .inl hneg
  · refine .inr (.inl ⟨hsmall, ?_⟩)
    rw [hread, one_ms_eq]
    norm_num
  · exact .inr (.inr hlarge)

theorem exact_of_fits {c : Call} (h : c.fits E) : Exact E c where
  passed := by
    intro K guards ns hns
    cases c with
    | Timer_start args =>
      obtain ⟨-, callback, timeout, repeat_s, rfl, hcall, ht, hr, rfl⟩ :=
        Timer_start_eq_ok_iff.mp hns
      obtain ⟨hfit, hfit'⟩ := h hcall ht hr
      rw [(raised_eq_iff ht).mpr hfit, (raised_eq_iff hr).mpr hfit']
      rfl
    | Timer_set_repeat value =>
      obtain ⟨-, repeat_s, rfl, hr, rfl⟩ := Timer_set_repeat_eq_ok_iff.mp hns
      rw [(as_read_eq_iff hr).mpr (h hr)]
      rfl
    | FSPoll_start args =>
      obtain ⟨-, callback, interval, rfl, hcall, hs, rfl⟩ := FSPoll_start_eq_ok_iff.mp hns
      rw [(cut_eq_iff hs).mpr (h hcall hs)]
      rfl
  same_repeat := by
    rintro K guards value ns args ms rfl hns hms hlast
    obtain ⟨-, repeat_s, rfl, hr, rfl⟩ := Timer_set_repeat_eq_ok_iff.mp hns
    obtain ⟨-, callback, timeout, again, rfl, -, -, hagain, rfl⟩ := Timer_start_eq_ok_iff.mp hms
    obtain rfl : again = repeat_s := Option.some.inj hlast
    have hfit : FitsAsRead again := h hr
    rw [(as_read_eq_iff hr).mpr hfit, (raised_eq_iff hr).mpr hfit.raised]
    rfl

/-- `timer.start(callback, 0.29, 0)` passes 290 for a float below 0.29. -/
example : ⌊1000 * binary64.nearest (29 / 100)⌋₊ = 289 ∧
    ⌊times_1000 (binary64.nearest (29 / 100))⌋₊ = 290 := by decide +kernel

end pyuv.periods
