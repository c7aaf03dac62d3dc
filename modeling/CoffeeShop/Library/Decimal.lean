import Mathlib.Algebra.Order.Field.Power
import Mathlib.Data.Int.ConditionallyCompleteOrder
import Mathlib.Data.Int.Log
import Mathlib.Data.Rat.Floor
import Mathlib.Tactic.Linarith
import Mathlib.Tactic.Positivity

/-!
Decimal arithmetic with a bounded number of significant digits.

Values are rationals.  An operation is the exact one followed by a rounding to
`precision` significant digits, where ties go away from zero.
-/

namespace DecimalArithmetic

/-- The nearest integer, ties away from zero. -/
def roundHalfUp (value : ℚ) : ℤ :=
  if 0 ≤ value then ⌊value + 1 / 2⌋ else -⌊1 / 2 - value⌋

/-- The nearest value with the number of significant digits. -/
def toSignificantDigits (precision : ℕ) (value : ℚ) : ℚ :=
  let shift : ℤ := precision - 1 - Int.log 10 |value|
  roundHalfUp (value * 10 ^ shift) / 10 ^ shift

def add (precision : ℕ) (left right : ℚ) : ℚ := toSignificantDigits precision (left + right)

def sub (precision : ℕ) (left right : ℚ) : ℚ := toSignificantDigits precision (left - right)

def mul (precision : ℕ) (left right : ℚ) : ℚ := toSignificantDigits precision (left * right)

def div (precision : ℕ) (left right : ℚ) : ℚ := toSignificantDigits precision (left / right)

section Rounding

variable {precision places : ℕ} {value : ℚ}

@[simp] theorem roundHalfUp_intCast (integer : ℤ) : roundHalfUp (integer : ℚ) = integer := by
  unfold roundHalfUp
  split
  · rw [Int.floor_eq_iff]
    constructor <;> linarith
  · have floored : ⌊(1 / 2 : ℚ) - integer⌋ = -integer := by
      rw [Int.floor_eq_iff]
      push_cast
      constructor <;> linarith
    rw [floored, neg_neg]

/-- Rounding does not cross an integer. -/
theorem le_roundHalfUp {integer : ℤ} (nonneg : 0 ≤ integer) (le : (integer : ℚ) ≤ value) :
    integer ≤ roundHalfUp value := by
  have positive : (0 : ℚ) ≤ value := le_trans (by exact_mod_cast nonneg) le
  rw [roundHalfUp, if_pos positive]
  refine Int.le_floor.mpr ?_
  linarith

theorem roundHalfUp_mono : Monotone roundHalfUp := by
  intro value larger le
  unfold roundHalfUp
  split <;> split
  · gcongr
  · linarith
  · have low : 0 ≤ ⌊1 / 2 - value⌋ := Int.floor_nonneg.mpr (by linarith)
    have high : 0 ≤ ⌊larger + 1 / 2⌋ := Int.floor_nonneg.mpr (by linarith)
    lia
  · gcongr

theorem roundHalfUp_neg (value : ℚ) : roundHalfUp (-value) = -roundHalfUp value := by
  unfold roundHalfUp
  rcases lt_trichotomy value 0 with negative | rfl | positive
  · rw [if_pos (by linarith), if_neg (by linarith), neg_neg]
    congr 1
    ring
  · norm_num
  · rw [if_neg (by linarith), if_pos (by linarith), sub_neg_eq_add, add_comm]

/-- The quotient by an even number, rounded. -/
theorem roundHalfUp_div {integer : ℤ} {half : ℕ} (nonneg : 0 ≤ integer) (positive : 0 < half) :
    roundHalfUp (integer / (2 * half : ℕ)) = (integer + half) / (2 * half) := by
  have quotient : (0 : ℚ) ≤ integer / (2 * half : ℕ) :=
    div_nonneg (by exact_mod_cast nonneg) (Nat.cast_nonneg _)
  have nonzero : (half : ℚ) ≠ 0 := by exact_mod_cast positive.ne'
  have same : (integer : ℚ) / (2 * half : ℕ) + 1 / 2 = (integer + half : ℤ) / (2 * half : ℕ) := by
    push_cast
    field_simp
  rw [roundHalfUp, if_pos quotient, same, Rat.floor_intCast_div_natCast]
  push_cast
  rfl

/-- The nearest integer is within a half. -/
theorem abs_roundHalfUp_sub_le (value : ℚ) : |(roundHalfUp value : ℚ) - value| ≤ 1 / 2 := by
  rw [abs_le]
  unfold roundHalfUp
  split
  · have below := Int.floor_le (value + 1 / 2)
    have above := Int.lt_floor_add_one (value + 1 / 2)
    constructor <;> linarith
  · have below := Int.floor_le (1 / 2 - value)
    have above := Int.lt_floor_add_one (1 / 2 - value)
    push_cast
    constructor <;> linarith

/-- Rounding does not leave an interval between integers that the value leaves by less than a
half. -/
theorem roundHalfUp_mem {low high : ℤ} (above : (low : ℚ) - 1 / 2 < value)
    (below : value < (high : ℚ) + 1 / 2) : low ≤ roundHalfUp value ∧ roundHalfUp value ≤ high := by
  have near := abs_le.mp (abs_roundHalfUp_sub_le value)
  constructor
  · have strict : (low : ℚ) < roundHalfUp value + 1 := by linarith
    exact Int.lt_add_one_iff.mp (by exact_mod_cast strict)
  · have strict : (roundHalfUp value : ℚ) < high + 1 := by linarith
    exact Int.lt_add_one_iff.mp (by exact_mod_cast strict)

theorem toSignificantDigits_nonneg (nonneg : 0 ≤ value) : 0 ≤ toSignificantDigits precision value := by
  have scaled : (0 : ℚ) ≤ value * 10 ^ ((precision : ℤ) - 1 - Int.log 10 |value|) := by positivity
  have rounded : (0 : ℚ) ≤ (roundHalfUp (value * 10 ^ ((precision : ℤ) - 1 - Int.log 10 |value|)) : ℤ) := by
    exact_mod_cast le_roundHalfUp le_rfl (by exact_mod_cast scaled)
  exact div_nonneg rounded (by positivity)

theorem toSignificantDigits_neg (precision : ℕ) (value : ℚ) :
    toSignificantDigits precision (-value) = -toSignificantDigits precision value := by
  simp only [toSignificantDigits, abs_neg, neg_mul, roundHalfUp_neg, Int.cast_neg, neg_div]

/-- The place that a value is rounded to is given by its leading digit. -/
theorem toSignificantDigits_eq (exponent : ℤ) (lower : (10 : ℚ) ^ exponent ≤ |value|)
    (upper : |value| < 10 ^ (exponent + 1)) :
    toSignificantDigits precision value =
      roundHalfUp (value * 10 ^ ((precision : ℤ) - 1 - exponent)) /
        10 ^ ((precision : ℤ) - 1 - exponent) := by
  have positive : 0 < |value| := lt_of_lt_of_le (by positivity) lower
  have log : Int.log 10 |value| = exponent := by
    refine le_antisymm (Int.lt_add_one_iff.mp ?_) ?_
    · exact (Int.lt_zpow_iff_log_lt (by norm_num) positive).mp (by exact_mod_cast upper)
    · exact (Int.zpow_le_iff_le_log (by norm_num) positive).mp (by exact_mod_cast lower)
  simp only [toSignificantDigits, log]

/-- The relative error of a rounding. -/
theorem abs_toSignificantDigits_sub_le (precision : ℕ) (value : ℚ) :
    |toSignificantDigits precision value - value| ≤ |value| * (5 / 10 ^ precision) := by
  rcases eq_or_ne value 0 with rfl | nonzero
  · norm_num [toSignificantDigits, roundHalfUp]
  have positive : 0 < |value| := abs_pos.mpr nonzero
  have leading : (10 : ℚ) ^ Int.log 10 |value| ≤ |value| := by
    exact_mod_cast Int.zpow_log_le_self (by norm_num) positive
  set shift : ℤ := (precision : ℤ) - 1 - Int.log 10 |value| with shift_eq
  have unit : (0 : ℚ) < 10 ^ shift := by positivity
  have error : toSignificantDigits precision value - value =
      (roundHalfUp (value * 10 ^ shift) - value * 10 ^ shift) / 10 ^ shift := by
    rw [sub_div, mul_div_cancel_right₀ _ unit.ne']
    rfl
  have place : (1 / 2 : ℚ) / 10 ^ shift = 10 ^ Int.log 10 |value| * (5 / 10 ^ precision) := by
    have exponents : (10 : ℚ) ^ precision = 10 ^ shift * 10 ^ Int.log 10 |value| * 10 := by
      rw [← zpow_natCast, ← zpow_add₀ (by norm_num), ← zpow_add_one₀ (by norm_num), shift_eq]
      congr 1
      ring
    rw [exponents]
    field_simp
    norm_num
  calc |toSignificantDigits precision value - value|
      = |(roundHalfUp (value * 10 ^ shift) : ℚ) - value * 10 ^ shift| / 10 ^ shift := by
        rw [error, abs_div, abs_of_pos unit]
    _ ≤ 1 / 2 / 10 ^ shift := by
        gcongr
        exact abs_roundHalfUp_sub_le _
    _ = 10 ^ Int.log 10 |value| * (5 / 10 ^ precision) := place
    _ ≤ |value| * (5 / 10 ^ precision) := by gcongr

/-- Moving the point moves it in the rounded value. -/
theorem toSignificantDigits_mul_zpow (precision : ℕ) (value : ℚ) (exponent : ℤ) :
    toSignificantDigits precision (value * 10 ^ exponent) =
      toSignificantDigits precision value * 10 ^ exponent := by
  rcases eq_or_ne value 0 with rfl | nonzero
  · norm_num [toSignificantDigits, roundHalfUp]
  have positive : 0 < |value| := abs_pos.mpr nonzero
  have unit : (0 : ℚ) < 10 ^ exponent := by positivity
  have scaled : |value * 10 ^ exponent| = |value| * 10 ^ exponent := by
    rw [abs_mul, abs_of_pos unit]
  have lower : (10 : ℚ) ^ Int.log 10 |value| ≤ |value| := by
    exact_mod_cast Int.zpow_log_le_self (by norm_num) positive
  have upper : |value| < (10 : ℚ) ^ (Int.log 10 |value| + 1) := by
    exact_mod_cast Int.lt_zpow_succ_log_self (by norm_num) |value|
  rw [toSignificantDigits_eq (Int.log 10 |value| + exponent), toSignificantDigits_eq _ lower upper]
  · have shift : (precision : ℤ) - 1 - Int.log 10 |value| =
        (precision - 1 - (Int.log 10 |value| + exponent)) + exponent := by
      ring
    have exponents : (10 : ℚ) ^ ((precision : ℤ) - 1 - Int.log 10 |value|) =
        10 ^ ((precision : ℤ) - 1 - (Int.log 10 |value| + exponent)) * 10 ^ exponent := by
      rw [← zpow_add₀ (by norm_num), ← shift]
    rw [exponents]
    field_simp
  · rw [scaled, zpow_add₀ (by norm_num)]
    gcongr
  · rw [scaled, add_right_comm, zpow_add₀ (by norm_num)]
    gcongr

/-- A value with few decimal places that is not too large is not rounded. -/
theorem toSignificantDigits_eq_self {integer : ℤ} (grid : value * 10 ^ places = integer)
    (small : |value| < 10 ^ ((precision : ℤ) - places)) :
    toSignificantDigits precision value = value := by
  rcases eq_or_ne value 0 with rfl | nonzero
  · norm_num [toSignificantDigits, roundHalfUp]
  have positive : 0 < |value| := abs_pos.mpr nonzero
  have log : Int.log 10 |value| < (precision : ℤ) - places :=
    (Int.lt_zpow_iff_log_lt (by norm_num) positive).mp (by exact_mod_cast small)
  obtain ⟨rest, shift_eq⟩ : ∃ rest : ℕ, (precision : ℤ) - 1 - Int.log 10 |value| = places + rest :=
    ⟨((precision : ℤ) - 1 - Int.log 10 |value| - places).toNat, by omega⟩
  have scaled : value * 10 ^ ((precision : ℤ) - 1 - Int.log 10 |value|) =
      ((integer * 10 ^ rest : ℤ) : ℚ) := by
    rw [shift_eq, zpow_add₀ (by norm_num), zpow_natCast, zpow_natCast, ← mul_assoc, grid]
    push_cast
    rfl
  simp only [toSignificantDigits]
  rw [scaled, roundHalfUp_intCast, ← scaled]
  exact mul_div_cancel_right₀ value (by positivity)

/-- A whole number with the kept digits at most is not rounded. -/
theorem toSignificantDigits_intCast {integer : ℤ} (digits : 0 < precision)
    (small : |integer| ≤ 10 ^ precision) :
    toSignificantDigits precision (integer : ℚ) = integer := by
  rcases small.lt_or_eq with fewer | power
  · refine @toSignificantDigits_eq_self _ 0 _ integer (by simp) ?_
    rw [Nat.cast_zero, sub_zero, zpow_natCast]
    exact_mod_cast fewer
  · have absolute : |(integer : ℚ)| = 10 ^ precision := by exact_mod_cast power
    have tenth : ((integer : ℚ) / 10) * 10 ^ (1 : ℤ) = integer := by
      rw [zpow_one]
      field_simp
    have leading : toSignificantDigits precision ((integer : ℚ) / 10) = integer / 10 := by
      obtain ⟨rest, rfl⟩ := Nat.exists_eq_add_one_of_ne_zero digits.ne'
      obtain plus | minus := abs_choice integer
      · rw [plus] at power
        rw [power]
        refine @toSignificantDigits_eq_self _ 0 _ (10 ^ rest) ?_ ?_
        · push_cast
          ring
        · rw [abs_of_nonneg (by positivity), Nat.cast_zero, sub_zero, zpow_natCast]
          push_cast
          rw [div_lt_iff₀ (by norm_num)]
          exact lt_mul_of_one_lt_right (by positivity) (by norm_num)
      · rw [minus] at power
        obtain rfl : integer = -10 ^ (rest + 1) := by lia
        refine @toSignificantDigits_eq_self _ 0 _ (-10 ^ rest) ?_ ?_
        · push_cast
          ring
        · rw [abs_div, absolute, Nat.cast_zero, sub_zero, zpow_natCast, abs_of_pos (by norm_num)]
          rw [div_lt_iff₀ (by norm_num)]
          exact lt_mul_of_one_lt_right (by positivity) (by norm_num)
    rw [← tenth, toSignificantDigits_mul_zpow, leading]

/-- The digits from a leading one to the place of the last kept one. -/
theorem pow_precision (precision : ℕ) (exponent : ℤ) :
    (10 : ℚ) ^ precision = 10 ^ (exponent + 1) * 10 ^ ((precision : ℤ) - 1 - exponent) := by
  rw [← zpow_add₀ (by norm_num), ← zpow_natCast]
  congr 1
  ring

/-- The kept digits come before the point. -/
theorem abs_scaled_lt (precision : ℕ) (value : ℚ) :
    |value * 10 ^ ((precision : ℤ) - 1 - Int.log 10 |value|)| < 10 ^ precision := by
  have upper : |value| < (10 : ℚ) ^ (Int.log 10 |value| + 1) := by
    exact_mod_cast Int.lt_zpow_succ_log_self (by norm_num) |value|
  rw [abs_mul, abs_of_pos (by positivity : (0 : ℚ) < 10 ^ ((precision : ℤ) - 1 - Int.log 10 |value|)),
    pow_precision precision (Int.log 10 |value|)]
  gcongr

/-- A rounded value is not rounded again. -/
theorem toSignificantDigits_idem (digits : 0 < precision) (value : ℚ) :
    toSignificantDigits precision (toSignificantDigits precision value) =
      toSignificantDigits precision value := by
  set shift : ℤ := (precision : ℤ) - 1 - Int.log 10 |value|
  have rounded : toSignificantDigits precision value =
      roundHalfUp (value * 10 ^ shift) * 10 ^ (-shift) := by
    rw [zpow_neg]
    rfl
  have below : |value * 10 ^ shift| < 10 ^ precision := abs_scaled_lt precision value
  have near := abs_lt.mp below
  have bounds := @roundHalfUp_mem (value * 10 ^ shift) (-10 ^ precision) (10 ^ precision)
    (by push_cast; linarith) (by push_cast; linarith)
  rw [rounded, toSignificantDigits_mul_zpow, toSignificantDigits_intCast digits (abs_le.mpr bounds)]

/-- Rounding does not cross a power of ten. -/
theorem le_toSignificantDigits {exponent : ℤ} (digits : 0 < precision)
    (le : (10 : ℚ) ^ exponent ≤ value) :
    (10 : ℚ) ^ exponent ≤ toSignificantDigits precision value := by
  have positive : 0 < value := lt_of_lt_of_le (by positivity) le
  have log : exponent ≤ Int.log 10 |value| := by
    rw [abs_of_pos positive]
    exact (Int.zpow_le_iff_le_log (by norm_num) positive).mp (by exact_mod_cast le)
  have leading : (10 : ℚ) ^ Int.log 10 |value| ≤ value := by
    rw [abs_of_pos positive]
    exact_mod_cast Int.zpow_log_le_self (by norm_num) positive
  set shift : ℤ := (precision : ℤ) - 1 - Int.log 10 |value| with shift_eq
  have scaled : (10 : ℚ) ^ Int.log 10 |value| * 10 ^ shift = ((10 ^ (precision - 1) : ℤ) : ℚ) := by
    rw [← zpow_add₀ (by norm_num), shift_eq]
    push_cast
    rw [← zpow_natCast]
    congr 1
    omega
  have rounded : (10 ^ (precision - 1) : ℤ) ≤ roundHalfUp (value * 10 ^ shift) := by
    refine le_roundHalfUp (by positivity) ?_
    rw [← scaled]
    gcongr
  calc (10 : ℚ) ^ exponent
      ≤ 10 ^ Int.log 10 |value| := zpow_le_zpow_right₀ (by norm_num) log
    _ = 10 ^ Int.log 10 |value| * 10 ^ shift / 10 ^ shift := by
        rw [mul_div_cancel_right₀ _ (by positivity)]
    _ ≤ roundHalfUp (value * 10 ^ shift) / 10 ^ shift := by
        rw [scaled]
        gcongr

theorem toSignificantDigits_le (precision : ℕ) (value : ℚ) :
    toSignificantDigits precision value ≤ 10 ^ (Int.log 10 |value| + 1) := by
  have below := (abs_lt.mp (abs_scaled_lt precision value)).2
  set shift : ℤ := (precision : ℤ) - 1 - Int.log 10 |value|
  have rounded : roundHalfUp (value * 10 ^ shift) ≤ roundHalfUp ((10 ^ precision : ℤ) : ℚ) :=
    roundHalfUp_mono (by push_cast; exact below.le)
  rw [roundHalfUp_intCast] at rounded
  have cast : (roundHalfUp (value * 10 ^ shift) : ℚ) ≤ 10 ^ precision := by exact_mod_cast rounded
  calc toSignificantDigits precision value
      = roundHalfUp (value * 10 ^ shift) / 10 ^ shift := rfl
    _ ≤ 10 ^ precision / 10 ^ shift := by gcongr
    _ = 10 ^ (Int.log 10 |value| + 1) := by
        rw [pow_precision precision (Int.log 10 |value|), mul_div_cancel_right₀ _ (by positivity)]

/-- A larger value has no smaller rounding. -/
theorem toSignificantDigits_mono (digits : 0 < precision) {larger : ℚ} (nonneg : 0 ≤ value)
    (le : value ≤ larger) :
    toSignificantDigits precision value ≤ toSignificantDigits precision larger := by
  rcases nonneg.eq_or_lt with rfl | positive
  · have zero : toSignificantDigits precision 0 = 0 := by norm_num [toSignificantDigits, roundHalfUp]
    rw [zero]
    exact toSignificantDigits_nonneg le
  have absolute : |value| = value := abs_of_pos positive
  have larger_absolute : |larger| = larger := abs_of_pos (positive.trans_le le)
  have leading : Int.log 10 |value| ≤ Int.log 10 |larger| := by
    rw [absolute, larger_absolute]
    exact Int.log_mono_right positive le
  rcases leading.eq_or_lt with same | fewer
  · simp only [toSignificantDigits, same]
    gcongr
    exact_mod_cast roundHalfUp_mono (by gcongr)
  · calc toSignificantDigits precision value
        ≤ 10 ^ (Int.log 10 |value| + 1) := toSignificantDigits_le precision value
      _ ≤ 10 ^ Int.log 10 |larger| := zpow_le_zpow_right₀ (by norm_num) fewer
      _ ≤ toSignificantDigits precision larger := by
          refine le_toSignificantDigits digits ?_
          rw [larger_absolute]
          exact_mod_cast Int.zpow_log_le_self (by norm_num) (positive.trans_le le)

end Rounding

end DecimalArithmetic
