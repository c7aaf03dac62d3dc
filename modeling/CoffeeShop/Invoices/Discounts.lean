import CoffeeShop.Invoices.Calculation
import CoffeeShop.Store.Products

/-!
What a promotion takes off, in units of the last decimal.

The discount is the least of the raw discount, the cap and the subtotal, so it grows with the
subtotal, and so does what it leaves to pay wherever the raw discount grows by a unit a unit at
most.
-/

namespace CoffeeShop

open DecimalArithmetic Transaction

theorem moneyOfDecimal_mono : Monotone moneyOfDecimal := by
  intro value larger le
  apply roundHalfUp_mono
  linarith

/-- A percentage is rounded to 20 digits and then to the last decimal. -/
theorem moneyOfDecimal_percentOf (amount rate : Money) :
    moneyOfDecimal (percentOf (moneyToDecimal amount) rate) = productValue (amount * rate) := by
  have product : moneyToDecimal amount * moneyToDecimal rate =
      ((amount * rate : ℤ) : ℚ) / 10 ^ 6 * 10 ^ (2 : ℤ) := by
    unfold moneyToDecimal
    push_cast
    ring
  have hundredth (value : ℚ) : value * 10 ^ (2 : ℤ) / 100 = value := by
    norm_num
  rw [percentOf, div, mul, product, toSignificantDigits_mul_zpow, hundredth,
    toSignificantDigits_idem (by decide)]
  rfl

namespace PromotionPolicy

variable {σ : Type}

def assertDiscountValueValid (promotion : Promotion) : Tx σ Failure Unit := do
  require (¬(promotion.discountType = .percentage ∧ 10000 < promotion.discountValue))
    (.badRequest "Percentage discount must be between 0 and 100.")
  require (0 < promotion.discountValue) (.badRequest "Discount value must be greater than 0.")
  require (promotion.maxDiscount.all (0 < ·))
    (.badRequest "Max discount must be greater than 0.")

@[simp] theorem commits_assertDiscountValueValid {promotion : Promotion} {store store' : σ}
    {result : Unit} : Commits (assertDiscountValueValid promotion) store result store' ↔
      ((promotion.discountType = .percentage → promotion.discountValue ≤ 10000) ∧
        0 < promotion.discountValue ∧ promotion.maxDiscount.all (0 < ·) = true) ∧
      store' = store := by
  simp only [assertDiscountValueValid, commits_bind, commits_require, not_and, not_lt]
  constructor
  · rintro ⟨_, _, ⟨percentage, rfl⟩, _, _, ⟨value, rfl⟩, cap, rfl⟩
    exact ⟨⟨percentage, value, cap⟩, rfl⟩
  · rintro ⟨⟨percentage, value, cap⟩, rfl⟩
    exact ⟨(), _, ⟨percentage, rfl⟩, (), _, ⟨value, rfl⟩, cap, rfl⟩

end PromotionPolicy

namespace PromotionCalculator

variable {σ : Type} {promotion : Promotion} {subTotal : Money}

/-- The raw discount in units of the last decimal. -/
def rawAmount (promotion : Promotion) (subTotal : Money) : Money :=
  match promotion.discountType with
  | .percentage => productValue (subTotal * promotion.discountValue)
  | .fixedAmount => promotion.discountValue

def cappedAmount (promotion : Promotion) (subTotal : Money) : Money :=
  match promotion.maxDiscount with
  | some maxDiscount => min (rawAmount promotion subTotal) maxDiscount
  | none => rawAmount promotion subTotal

/-- The amount that the promotion takes off the subtotal. -/
def discountAmount (promotion : Promotion) (subTotal : Money) : Money :=
  min (cappedAmount promotion subTotal) subTotal

theorem moneyOfDecimal_rawDiscount (promotion : Promotion) (subTotal : Money) :
    moneyOfDecimal (rawDiscount promotion subTotal) = rawAmount promotion subTotal := by
  unfold rawDiscount rawAmount
  cases promotion.discountType with
  | percentage => exact moneyOfDecimal_percentOf subTotal promotion.discountValue
  | fixedAmount => exact moneyOfDecimal_moneyToDecimal promotion.discountValue

/-- Rounding goes through the cap and the clamp. -/
theorem moneyOfDecimal_discount (promotion : Promotion) (subTotal : Money) :
    moneyOfDecimal (min (match promotion.maxDiscount with
      | some maxDiscount => min (rawDiscount promotion subTotal) (moneyToDecimal maxDiscount)
      | none => rawDiscount promotion subTotal) (moneyToDecimal subTotal)) =
      discountAmount promotion subTotal := by
  rw [moneyOfDecimal_mono.map_min, moneyOfDecimal_moneyToDecimal, discountAmount, cappedAmount]
  cases promotion.maxDiscount with
  | some maxDiscount =>
      rw [moneyOfDecimal_mono.map_min, moneyOfDecimal_moneyToDecimal, moneyOfDecimal_rawDiscount]
  | none => rw [moneyOfDecimal_rawDiscount]

theorem calculateDiscountAmount_eq (promotion : Promotion) (subTotal : Money) :
    (calculateDiscountAmount promotion subTotal : Tx σ Failure Money) = (do
      require (0 ≤ subTotal) (.badRequest "Sub total cannot be negative.")
      require (0 ≤ discountAmount promotion subTotal)
        (.badRequest "Discount amount cannot be negative.")
      require (discountAmount promotion subTotal ≤ subTotal)
        (.badRequest "Discount amount cannot exceed sub total.")
      pure (discountAmount promotion subTotal)) := by
  rw [← moneyOfDecimal_discount]
  rfl

@[simp] theorem commits_calculateDiscountAmount {store store' : σ} {amount : Money} :
    Commits (calculateDiscountAmount promotion subTotal) store amount store' ↔
      (0 ≤ subTotal ∧ 0 ≤ amount ∧ amount ≤ subTotal) ∧
      amount = discountAmount promotion subTotal ∧ store' = store := by
  simp only [calculateDiscountAmount_eq, commits_bind, commits_require, commits_pure]
  constructor
  · rintro ⟨_, _, ⟨total, rfl⟩, _, _, ⟨low, rfl⟩, _, _, ⟨high, rfl⟩, rfl, rfl⟩
    exact ⟨⟨total, low, high⟩, rfl, rfl⟩
  · rintro ⟨⟨total, low, high⟩, rfl, rfl⟩
    exact ⟨(), _, ⟨total, rfl⟩, (), _, ⟨low, rfl⟩, (), _, ⟨high, rfl⟩, rfl, rfl⟩

section Growth

/-- The largest multiple below a bound is below the multiples above it. -/
theorem multiple_le {rate multiple : ℤ} (bound : ℤ) (positive : 0 < rate)
    (divides : rate ∣ multiple) (below : multiple ≤ bound) : multiple ≤ bound / rate * rate := by
  obtain ⟨factor, rfl⟩ := divides
  rw [mul_comm rate factor] at below ⊢
  exact Int.mul_le_mul_of_nonneg_right ((Int.le_ediv_iff_mul_le positive).mpr below) positive.le

/-- Past the first product that loses a digit, no multiple of a rate comes within the lost digits
of a half. -/
theorem no_multiple_past : ∀ offset ∈ List.range 45,
    (10 ^ 20 - 5001 + (9956 + offset : ℤ)) / (9956 + offset) * (9956 + offset) < 10 ^ 20 + 4995 ∧
    (10 ^ 21 - 5006 + (9956 + offset : ℤ)) / (9956 + offset) * (9956 + offset) < 10 ^ 21 + 4950 := by
  decide +kernel

/-- One unit more subtotal.  Where the number of kept digits drops between the two products, the
remainders of the powers of ten by the rates keep the second away from the next half. -/
theorem productValue_step {rate : Money} (nonneg : 0 ≤ subTotal) (small : subTotal + 1 < 10 ^ 18)
    (positive : 0 < rate) (percentage : rate ≤ 10000) :
    productValue ((subTotal + 1) * rate) ≤ productValue (subTotal * rate) + 1 := by
  have next : (subTotal + 1) * rate = subTotal * rate + rate := by ring
  have product : 0 ≤ subTotal * rate := by positivity
  have bounded : (subTotal + 1) * rate < 10 ^ 22 := by
    calc (subTotal + 1) * rate ≤ (subTotal + 1) * 10000 := by gcongr
      _ < 10 ^ 22 := by lia
  have first := productValue_cases product (by lia)
  have second := productValue_cases (by positivity) bounded
  by_cases low : rate < 9956
  · rw [next] at second ⊢
    lia
  have past := no_multiple_past (rate - 9956).toNat (List.mem_range.mpr (by lia))
  have offset : (9956 + ((rate - 9956).toNat : ℤ)) = rate := by lia
  rw [offset] at past
  have divides : rate ∣ (subTotal + 1) * rate := Dvd.intro_left _ rfl
  have short := multiple_le (10 ^ 20 - 5001 + rate) positive divides
  have long := multiple_le (10 ^ 21 - 5006 + rate) positive divides
  rw [next] at second short long ⊢
  generalize (10 ^ 20 - 5001 + rate) / rate * rate = highest at *
  generalize (10 ^ 21 - 5006 + rate) / rate * rate = highest' at *
  lia

/-- The policy's conditions on the values of a promotion. -/
structure Accepted (promotion : Promotion) : Prop where
  percentage : promotion.discountType = .percentage → promotion.discountValue ≤ 10000
  value : 0 < promotion.discountValue
  cap : ∀ maxDiscount, promotion.maxDiscount = some maxDiscount → 0 < maxDiscount

theorem Accepted.of_policy {store store' : σ} {result : Unit}
    (committed : Commits (PromotionPolicy.assertDiscountValueValid promotion) store result store') :
    Accepted promotion := by
  obtain ⟨⟨percentage, value, cap⟩, -⟩ :=
    PromotionPolicy.commits_assertDiscountValueValid.mp committed
  refine ⟨percentage, value, fun maxDiscount present => ?_⟩
  rw [present] at cap
  simpa using cap

/-- A larger subtotal has no smaller raw discount. -/
theorem Accepted.rawAmount_mono (accepted : Accepted promotion) {larger : Money}
    (nonneg : 0 ≤ subTotal) (le : subTotal ≤ larger) :
    rawAmount promotion subTotal ≤ rawAmount promotion larger := by
  have value := accepted.value
  unfold rawAmount
  cases promotion.discountType with
  | percentage =>
      refine productValue_mono (by positivity) ?_
      gcongr
  | fixedAmount => exact le_rfl

theorem Accepted.discountAmount_mono (accepted : Accepted promotion) {larger : Money}
    (nonneg : 0 ≤ subTotal) (le : subTotal ≤ larger) :
    discountAmount promotion subTotal ≤ discountAmount promotion larger := by
  have raw := accepted.rawAmount_mono nonneg le
  unfold discountAmount cappedAmount
  cases promotion.maxDiscount with
  | some maxDiscount =>
      dsimp only
      gcongr
  | none =>
      dsimp only
      gcongr

theorem Accepted.discountAmount_nonneg (accepted : Accepted promotion) (nonneg : 0 ≤ subTotal) :
    0 ≤ discountAmount promotion subTotal := by
  have value := accepted.value
  have cap := accepted.cap
  have raw : 0 ≤ rawAmount promotion subTotal := by
    unfold rawAmount
    cases promotion.discountType with
    | percentage => exact productValue_nonneg (by positivity)
    | fixedAmount => exact value.le
  unfold discountAmount cappedAmount
  cases present : promotion.maxDiscount with
  | some maxDiscount =>
      have positive := cap maxDiscount present
      dsimp only
      lia
  | none =>
      dsimp only
      lia

theorem Accepted.rawAmount_step (accepted : Accepted promotion) (nonneg : 0 ≤ subTotal)
    (small : subTotal + 1 < 10 ^ 18) :
    rawAmount promotion (subTotal + 1) ≤ rawAmount promotion subTotal + 1 := by
  unfold rawAmount
  cases kind : promotion.discountType with
  | percentage =>
      exact productValue_step nonneg small accepted.value (accepted.percentage kind)
  | fixedAmount =>
      dsimp only
      lia

/-- One unit more subtotal takes off one unit more at most. -/
theorem Accepted.discountAmount_step (accepted : Accepted promotion) (nonneg : 0 ≤ subTotal)
    (small : subTotal + 1 < 10 ^ 18) :
    discountAmount promotion (subTotal + 1) ≤ discountAmount promotion subTotal + 1 := by
  have raw := accepted.rawAmount_step nonneg small
  unfold discountAmount cappedAmount
  cases promotion.maxDiscount with
  | some maxDiscount =>
      dsimp only
      lia
  | none =>
      dsimp only
      lia

/-- The rest grows with the subtotal, by induction on the units between. -/
theorem Accepted.discountAmount_add (accepted : Accepted promotion) (nonneg : 0 ≤ subTotal)
    (units : ℕ) (small : subTotal + units < 10 ^ 18) :
    discountAmount promotion (subTotal + units) ≤ discountAmount promotion subTotal + units := by
  induction units with
  | zero => simp
  | succ units inductionHypothesis =>
      push_cast at small ⊢
      have before := inductionHypothesis (by lia)
      have step := @discountAmount_step promotion (subTotal + units) accepted (by lia) (by lia)
      rw [← add_assoc]
      lia

theorem discountAmount_le (promotion : Promotion) (subTotal : Money) :
    discountAmount promotion subTotal ≤ subTotal := min_le_right _ _

theorem discountAmount_le_max {maxDiscount : Money}
    (present : promotion.maxDiscount = some maxDiscount) :
    discountAmount promotion subTotal ≤ maxDiscount := by
  unfold discountAmount cappedAmount
  rw [present]
  exact (min_le_left _ _).trans (min_le_right _ _)

/-- An accepted promotion applies to every amount.  It takes off no more than the amount and its cap,
and a larger amount has no smaller discount and, among the amounts of a column, no smaller rest. -/
theorem discount_law {policyStore policyStore' : σ} {checked : Unit} {larger : Money}
    (accepted : Commits (PromotionPolicy.assertDiscountValueValid promotion) policyStore checked
      policyStore')
    (nonneg : 0 ≤ subTotal) (le : subTotal ≤ larger) :
    ∃ discount largerDiscount,
      (∀ store : σ, Commits (calculateDiscountAmount promotion subTotal) store discount store) ∧
      (∀ store : σ, Commits (calculateDiscountAmount promotion larger) store largerDiscount store) ∧
      0 ≤ discount ∧ discount ≤ subTotal ∧
      (∀ maxDiscount, promotion.maxDiscount = some maxDiscount → discount ≤ maxDiscount) ∧
      discount ≤ largerDiscount ∧
      (isMoneyInput larger = true → subTotal - discount ≤ larger - largerDiscount) := by
  have accepted := Accepted.of_policy accepted
  have low := accepted.discountAmount_nonneg nonneg
  have high := accepted.discountAmount_nonneg (nonneg.trans le)
  refine ⟨discountAmount promotion subTotal, discountAmount promotion larger,
    fun store => ?_, fun store => ?_, low, discountAmount_le _ _, fun _ => discountAmount_le_max,
    accepted.discountAmount_mono nonneg le, fun money => ?_⟩
  · exact commits_calculateDiscountAmount.mpr
      ⟨⟨nonneg, low, discountAmount_le _ _⟩, rfl, rfl⟩
  · exact commits_calculateDiscountAmount.mpr
      ⟨⟨nonneg.trans le, high, discountAmount_le _ _⟩, rfl, rfl⟩
  · simp only [isMoneyInput, Bool.and_eq_true, decide_eq_true_eq] at money
    obtain ⟨units, rfl⟩ := Int.le.dest le
    have growth := accepted.discountAmount_add nonneg units money.2
    lia

/-- A promotion of the rate without a cap. -/
def percentageOff (rate : Money) : Promotion where
  id := 0
  name := "Percentage off"
  startDate := 0
  endDate := 1
  discountType := .percentage
  discountValue := rate
  maxDiscount := none
  deletedAt := none

/-- A third off two amounts that are a unit apart. -/
theorem discount_law_third : ∃ discount largerDiscount : Money,
    (∀ store : Unit, Commits (calculateDiscountAmount (percentageOff 3333) 149) store discount
      store) ∧
    (∀ store : Unit, Commits (calculateDiscountAmount (percentageOff 3333) 150) store largerDiscount
      store) ∧
    0 ≤ discount ∧ discount ≤ 149 ∧
    (∀ maxDiscount, (percentageOff 3333).maxDiscount = some maxDiscount → discount ≤ maxDiscount) ∧
    discount ≤ largerDiscount ∧
    (isMoneyInput 150 = true → 149 - discount ≤ 150 - largerDiscount) ∧ isMoneyInput 150 = true := by
  obtain ⟨discount, largerDiscount, rest⟩ := discount_law
    (PromotionPolicy.commits_assertDiscountValueValid.mpr
      ⟨⟨fun _ => by decide, by decide, rfl⟩, rfl⟩ :
        Commits (PromotionPolicy.assertDiscountValueValid (percentageOff 3333)) () () ())
    (by decide : (0 : Money) ≤ 149) (by decide : (149 : Money) ≤ 150)
  obtain ⟨first, second, low, high, cap, grows, remains⟩ := rest
  exact ⟨discount, largerDiscount, first, second, low, high, cap, grows, remains, by decide⟩

/-- Just above the amounts of a column, a unit more subtotal takes two units more off: 99.5 percent
of 10050251256281407.03 and 10050251256281407.04. -/
theorem exists_rest_decreases : ∃ (promotion : Promotion) (subTotal larger : Money)
    (discount largerDiscount : Money),
    Commits (PromotionPolicy.assertDiscountValueValid promotion) () () () ∧
    0 ≤ subTotal ∧ subTotal ≤ larger ∧
    Commits (calculateDiscountAmount promotion subTotal) () discount () ∧
    Commits (calculateDiscountAmount promotion larger) () largerDiscount () ∧
    larger - largerDiscount < subTotal - discount := by
  have first : discountAmount (percentageOff 9950) 1005025125628140703 = 999999999999999999 := by
    rw [discountAmount, cappedAmount, rawAmount, percentageOff]
    dsimp only
    rw [productValue_of_le 2 50 (by norm_num) (by norm_num) (by norm_num) (by norm_num) (by norm_num)]
    norm_num
  have second : discountAmount (percentageOff 9950) 1005025125628140704 = 1000000000000000001 := by
    rw [discountAmount, cappedAmount, rawAmount, percentageOff]
    dsimp only
    rw [productValue_of_le 3 500 (by norm_num) (by norm_num) (by norm_num) (by norm_num)
      (by norm_num)]
    norm_num
  refine ⟨percentageOff 9950, 1005025125628140703, 1005025125628140704, _, _,
    PromotionPolicy.commits_assertDiscountValueValid.mpr
      ⟨⟨fun _ => by decide, by decide, rfl⟩, rfl⟩, by decide, by decide,
    commits_calculateDiscountAmount.mpr ⟨?_, first.symm, rfl⟩,
    commits_calculateDiscountAmount.mpr ⟨?_, second.symm, rfl⟩, by decide⟩
  · exact ⟨by decide, by decide, by decide⟩
  · exact ⟨by decide, by decide, by decide⟩

end Growth

end PromotionCalculator

end CoffeeShop
