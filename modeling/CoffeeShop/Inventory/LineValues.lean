import CoffeeShop.Inventory.Costing
import CoffeeShop.Store.Products

/-!
The values of lines as the services compute them and as the database checks them.
-/

namespace CoffeeShop

open DecimalArithmetic

/-- `round(quantity * unitCost, 2)`, which `PurchaseReceiptItem_values_check` compares with. -/
def roundedProduct (quantity : Quantity) (unitCost : Money) : Money :=
  roundHalfUp (quantityToDecimal quantity * moneyToDecimal unitCost * 100)

theorem calculateInventoryValue_eq (quantity : Quantity) (unitCost : Money) :
    calculateInventoryValue quantity unitCost = productValue (quantity * unitCost) := by
  have product : quantityToDecimal quantity * moneyToDecimal unitCost =
      ((quantity * unitCost : ℤ) : ℚ) / 10 ^ 6 := by
    unfold quantityToDecimal moneyToDecimal
    push_cast
    ring
  rw [calculateInventoryValue, mul, product, productValue]

theorem roundedProduct_eq (quantity : Quantity) (unitCost : Money) :
    roundedProduct quantity unitCost = roundHalfUp ((quantity * unitCost : ℤ) / 10 ^ 4) := by
  unfold roundedProduct quantityToDecimal moneyToDecimal
  congr 1
  push_cast
  ring

/-- The computed value of a line is the one that the database requires, unless the product rounds
twice. -/
theorem calculateInventoryValue_eq_iff {quantity : Quantity} {unitCost : Money}
    (bounded : |quantity * unitCost| < 10 ^ 22) :
    calculateInventoryValue quantity unitCost = roundedProduct quantity unitCost ↔
      ¬RoundsTwice quantity unitCost := by
  rw [calculateInventoryValue_eq, roundedProduct_eq, RoundsTwice]
  set digits : ℤ := quantity * unitCost
  rcases le_total 0 digits with nonneg | nonpos
  · rw [abs_of_nonneg nonneg] at bounded ⊢
    rw [roundHalfUp_product nonneg]
    exact productValue_eq_iff nonneg bounded
  · rw [abs_of_nonpos nonpos] at bounded ⊢
    have reflected : (digits : ℚ) / 10 ^ 4 = -((-digits : ℤ) / 10 ^ 4) := by
      push_cast
      ring
    rw [← neg_neg digits, productValue_neg, neg_neg, reflected, roundHalfUp_neg,
      roundHalfUp_product (neg_nonneg.mpr nonpos), neg_inj]
    exact productValue_eq_iff (neg_nonneg.mpr nonpos) bounded

/-- A third of a unit at an uneven price. -/
theorem calculateInventoryValue_eq_iff_small :
    calculateInventoryValue 3333 1234567 = roundedProduct 3333 1234567 :=
  (calculateInventoryValue_eq_iff (by decide)).mpr (by decide)

/-- A ten-thousandth more than 10^13 units, at 49.99 each. -/
theorem exists_calculateInventoryValue_ne : ∃ (quantity : Quantity) (unitCost : Money),
    0 < quantity ∧ quantity < 10 ^ 18 ∧ 0 ≤ unitCost ∧ unitCost < 10 ^ 18 ∧
      |quantity * unitCost| < 10 ^ 22 ∧
      calculateInventoryValue quantity unitCost ≠ roundedProduct quantity unitCost := by
  refine ⟨100000000000000001, 4999, by decide, by decide, by decide, by decide, by decide, ?_⟩
  rw [calculateInventoryValue_eq, roundedProduct_eq,
    productValue_of_le 1 5 (by norm_num) (by norm_num) (by norm_num)
      (by norm_num) (by norm_num)]
  norm_num [roundHalfUp]

end CoffeeShop
