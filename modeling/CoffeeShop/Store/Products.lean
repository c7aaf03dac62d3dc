import CoffeeShop.Store.Basic

/-!
Sums and products of stored decimals, rounded to money.
-/

namespace CoffeeShop

open DecimalArithmetic

theorem moneyOfDecimal_moneyToDecimal (amount : Money) :
    moneyOfDecimal (moneyToDecimal amount) = amount := by
  have units : moneyToDecimal amount * 100 = amount := by
    unfold moneyToDecimal
    field_simp
  rw [moneyOfDecimal, units, roundHalfUp_intCast]

/-- Without the zeros at its end, the amount has as many digits as a decimal keeps. -/
def FitsDigits (amount : Money) : Prop :=
  ∃ (digits : ℤ) (zeros : ℕ), amount = digits * 10 ^ zeros ∧ |digits| < 10 ^ decimalPrecision

theorem FitsDigits.of_lt {amount : Money} (small : |amount| < 10 ^ decimalPrecision) :
    FitsDigits amount := ⟨amount, 0, by ring, small⟩

theorem FitsDigits.toSignificantDigits_eq {amount : Money} (fits : FitsDigits amount) :
    toSignificantDigits decimalPrecision (moneyToDecimal amount) = moneyToDecimal amount := by
  obtain ⟨digits, zeros, rfl, small⟩ := fits
  have place : moneyToDecimal (digits * 10 ^ zeros) = digits * 10 ^ ((zeros : ℤ) - 2) := by
    rw [moneyToDecimal, zpow_sub₀ (by norm_num), zpow_natCast]
    push_cast
    ring
  rw [place, toSignificantDigits_mul_zpow, toSignificantDigits_intCast (by decide) small.le]

/-- A sum that fits is exact. -/
theorem FitsDigits.decimalPlus_eq {left right : Money} (fits : FitsDigits (left + right)) :
    decimalPlus left right = left + right := by
  have sum : moneyToDecimal left + moneyToDecimal right = moneyToDecimal (left + right) := by
    unfold moneyToDecimal
    push_cast
    ring
  rw [decimalPlus, add, sum, fits.toSignificantDigits_eq, moneyOfDecimal_moneyToDecimal]

theorem FitsDigits.decimalMinus_eq {left right : Money} (fits : FitsDigits (left - right)) :
    decimalMinus left right = left - right := by
  have difference : moneyToDecimal left - moneyToDecimal right = moneyToDecimal (left - right) := by
    unfold moneyToDecimal
    push_cast
    ring
  rw [decimalMinus, sub, difference, fits.toSignificantDigits_eq, moneyOfDecimal_moneyToDecimal]

/-- The product does not fit 20 digits, and without what does not fit it would come to the next
cent. -/
def RoundsTwice (quantity : Quantity) (unitCost : Money) : Prop :=
  let digits := |quantity * unitCost|
  let rest := digits % 10 ^ 4
  10 ^ 20 ≤ digits ∧ digits < 10 ^ 21 ∧ 4995 ≤ rest ∧ rest < 5000 ∨
    10 ^ 21 ≤ digits ∧ 4950 ≤ rest ∧ rest < 5000

instance {quantity : Quantity} {unitCost : Money} : Decidable (RoundsTwice quantity unitCost) := by
  unfold RoundsTwice
  infer_instance

/-- The money value of a product in units of 0.000001. -/
def productValue (digits : ℤ) : Money :=
  moneyOfDecimal (toSignificantDigits decimalPrecision (digits / 10 ^ 6))

theorem productValue_neg (digits : ℤ) : productValue (-digits) = -productValue digits := by
  simp only [productValue, moneyOfDecimal, Int.cast_neg, neg_div, toSignificantDigits_neg, neg_mul,
    roundHalfUp_neg]

/-- A product of up to 20 digits is rounded once. -/
theorem productValue_of_lt {digits : ℤ} (nonneg : 0 ≤ digits) (small : digits < 10 ^ 20) :
    productValue digits = (digits + 5000) / 10000 := by
  have exactly : toSignificantDigits decimalPrecision ((digits : ℚ) / 10 ^ 6) = digits / 10 ^ 6 := by
    refine @toSignificantDigits_eq_self _ 6 _ digits (by field_simp) ?_
    rw [abs_of_nonneg (by positivity), div_lt_iff₀ (by norm_num)]
    have bound : (digits : ℚ) < 10 ^ 20 := by exact_mod_cast small
    norm_num [decimalPrecision] at bound ⊢
    linarith
  have scaled : (digits : ℚ) / 10 ^ 6 * 100 = digits / (2 * 5000 : ℕ) := by
    push_cast
    ring
  rw [productValue, moneyOfDecimal, exactly, scaled, roundHalfUp_div nonneg (by norm_num)]
  rfl

/-- A longer product is rounded to 20 digits first. -/
theorem productValue_of_le {digits : ℤ} (exponent half : ℕ) (nonneg : 0 ≤ digits)
    (lower : 10 ^ (19 + exponent) ≤ digits) (upper : digits < 10 ^ (20 + exponent))
    (place : 2 * half = 10 ^ exponent) (few : exponent < 4) :
    productValue digits =
      ((digits + half) / (2 * half) + 5 * 10 ^ (3 - exponent)) / (2 * (5 * 10 ^ (3 - exponent))) := by
  have positive : 0 < half := by
    have := Nat.pow_pos (n := exponent) (show 0 < 10 by decide)
    lia
  have lower' : (10 : ℚ) ^ (19 + exponent) ≤ digits := by exact_mod_cast lower
  have upper' : (digits : ℚ) < 10 ^ (20 + exponent) := by exact_mod_cast upper
  have absolute : |(digits : ℚ) / 10 ^ 6| = (digits : ℚ) / 10 ^ 6 := abs_of_nonneg (by positivity)
  have rounded : toSignificantDigits decimalPrecision ((digits : ℚ) / 10 ^ 6) =
      ((digits + half) / (2 * half) : ℤ) / 10 ^ (6 - exponent) := by
    rw [toSignificantDigits_eq (13 + exponent)]
    · have shift : ((decimalPrecision : ℕ) : ℤ) - 1 - (13 + exponent) = (6 - exponent : ℕ) := by
        simp only [decimalPrecision]
        lia
      have quotient : (digits : ℚ) / 10 ^ 6 * 10 ^ (6 - exponent) = digits / (2 * half : ℕ) := by
        rw [place]
        push_cast
        rw [div_mul_eq_mul_div, div_eq_div_iff (by positivity) (by positivity), mul_assoc,
          ← pow_add]
        congr 2
        lia
      rw [shift, zpow_natCast, quotient, roundHalfUp_div nonneg positive]
    · rw [absolute, le_div_iff₀ (by positivity), ← Nat.cast_ofNat (R := ℤ), ← Nat.cast_add,
        zpow_natCast, ← pow_add, show 13 + exponent + 6 = 19 + exponent by lia]
      exact lower'
    · rw [absolute, div_lt_iff₀ (by positivity)]
      have exponents : (13 : ℤ) + exponent + 1 = (14 + exponent : ℕ) := by lia
      rw [exponents, zpow_natCast, ← pow_add, show 14 + exponent + 6 = 20 + exponent by lia]
      exact upper'
  have scaled (whole : ℤ) : (whole : ℚ) / 10 ^ (6 - exponent) * 100 =
      whole / (2 * (5 * 10 ^ (3 - exponent)) : ℕ) := by
    have split : 6 - exponent = (3 - exponent) + 3 := by lia
    rw [split, pow_add, div_mul_eq_mul_div, div_eq_div_iff (by positivity) (by positivity)]
    push_cast
    ring
  rw [productValue, moneyOfDecimal, rounded, scaled, roundHalfUp_div _ (by positivity)]
  · push_cast
    rfl
  · positivity

/-- Every product of two columns, by the digits that are kept of it. -/
theorem productValue_cases {digits : ℤ} (nonneg : 0 ≤ digits) (bounded : digits < 10 ^ 22) :
    digits < 10 ^ 20 ∧ productValue digits = (digits + 5000) / 10000 ∨
      10 ^ 20 ≤ digits ∧ digits < 10 ^ 21 ∧ productValue digits = ((digits + 5) / 10 + 500) / 1000 ∨
      10 ^ 21 ≤ digits ∧ productValue digits = ((digits + 50) / 100 + 50) / 100 := by
  rcases lt_or_ge digits (10 ^ 20) with short | long
  · exact .inl ⟨short, productValue_of_lt nonneg short⟩
  rcases lt_or_ge digits (10 ^ 21) with shorter | longer
  · refine .inr (.inl ⟨long, shorter, ?_⟩)
    rw [productValue_of_le 1 5 nonneg long shorter (by norm_num) (by norm_num)]
    norm_num
  · refine .inr (.inr ⟨longer, ?_⟩)
    rw [productValue_of_le 2 50 nonneg longer bounded (by norm_num) (by norm_num)]
    norm_num

/-- Over a product that is not negative. -/
theorem productValue_eq_iff {digits : ℤ} (nonneg : 0 ≤ digits) (bounded : digits < 10 ^ 22) :
    productValue digits = (digits + 5000) / 10000 ↔
      ¬(10 ^ 20 ≤ digits ∧ digits < 10 ^ 21 ∧ 4995 ≤ digits % 10 ^ 4 ∧ digits % 10 ^ 4 < 5000 ∨
        10 ^ 21 ≤ digits ∧ 4950 ≤ digits % 10 ^ 4 ∧ digits % 10 ^ 4 < 5000) := by
  obtain ⟨short, value⟩ | ⟨long, shorter, value⟩ | ⟨longer, value⟩ :=
    productValue_cases nonneg bounded
  all_goals
    rw [value]
    lia

theorem roundHalfUp_product {digits : ℤ} (nonneg : 0 ≤ digits) :
    roundHalfUp ((digits : ℚ) / 10 ^ 4) = (digits + 5000) / 10000 := by
  have scaled : (digits : ℚ) / 10 ^ 4 = digits / (2 * 5000 : ℕ) := by norm_num
  rw [scaled, roundHalfUp_div nonneg (by norm_num)]
  rfl

/-- Two factors that are not negative, rounded once or twice. -/
theorem productValue_mul_eq_iff {left right : ℤ} (nonneg : 0 ≤ left * right)
    (bounded : left * right < 10 ^ 22) :
    productValue (left * right) = roundHalfUp ((left * right : ℤ) / 10 ^ 4) ↔
      ¬RoundsTwice left right := by
  rw [roundHalfUp_product nonneg, RoundsTwice, abs_of_nonneg nonneg]
  exact productValue_eq_iff nonneg bounded

/-- A larger product does not come to less. -/
theorem productValue_mono {digits larger : ℤ} (nonneg : 0 ≤ digits) (le : digits ≤ larger) :
    productValue digits ≤ productValue larger := by
  have cast : (digits : ℚ) ≤ larger := by exact_mod_cast le
  have rounded := @toSignificantDigits_mono decimalPrecision _ (by decide) _
    (by positivity : (0 : ℚ) ≤ digits / 10 ^ 6) (by gcongr : (digits : ℚ) / 10 ^ 6 ≤ larger / 10 ^ 6)
  refine roundHalfUp_mono ?_
  gcongr

theorem productValue_nonneg {digits : ℤ} (nonneg : 0 ≤ digits) : 0 ≤ productValue digits := by
  have zero : productValue 0 = 0 := productValue_of_lt le_rfl (by norm_num)
  exact zero ▸ productValue_mono le_rfl nonneg

end CoffeeShop
