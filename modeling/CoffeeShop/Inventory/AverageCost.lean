import CoffeeShop.Inventory.Costing

/-!
The moving average cost stays between the prices that it averages.
-/

namespace CoffeeShop

open DecimalArithmetic

section WeightedAverage

variable {held imported average cost bound error : ℚ}

/-- An average computed with rounded products, sum and quotient, against the exact one. -/
theorem abs_roundedAverage_sub_le {heldValue importedValue value quotient : ℚ}
    (heldNonneg : 0 ≤ held) (importedPositive : 0 < imported) (small : 0 ≤ error)
    (averageBound : |average| ≤ bound) (costBound : |cost| ≤ bound)
    (heldError : |heldValue - held * average| ≤ |held * average| * error)
    (importedError : |importedValue - imported * cost| ≤ |imported * cost| * error)
    (valueError : |value - (heldValue + importedValue)| ≤ |heldValue + importedValue| * error)
    (quotientError : |quotient - value / (held + imported)| ≤
      |value / (held + imported)| * error) :
    |quotient - (held * average + imported * cost) / (held + imported)| ≤
      bound * ((1 + error) ^ 3 - 1) := by
  set total := held + imported with total_eq
  have positive : 0 < total := by linarith
  have heldBound : |held * average| ≤ held * bound := by
    rw [abs_mul, abs_of_nonneg heldNonneg]
    gcongr
  have importedBound : |imported * cost| ≤ imported * bound := by
    rw [abs_mul, abs_of_pos importedPositive]
    gcongr
  have products : |heldValue + importedValue - (held * average + imported * cost)| ≤
      total * bound * error := by
    calc |heldValue + importedValue - (held * average + imported * cost)|
        = |(heldValue - held * average) + (importedValue - imported * cost)| := by ring_nf
      _ ≤ |heldValue - held * average| + |importedValue - imported * cost| := abs_add_le _ _
      _ ≤ held * bound * error + imported * bound * error := by
          refine add_le_add (heldError.trans ?_) (importedError.trans ?_)
          · gcongr
          · gcongr
      _ = total * bound * error := by rw [total_eq]; ring
  have exactBound : |held * average + imported * cost| ≤ total * bound := by
    calc |held * average + imported * cost|
        ≤ |held * average| + |imported * cost| := abs_add_le _ _
      _ ≤ held * bound + imported * bound := add_le_add heldBound importedBound
      _ = total * bound := by rw [total_eq]; ring
  have roundedBound : |heldValue + importedValue| ≤ total * bound * (1 + error) := by
    have triangle := abs_sub_abs_le_abs_sub (heldValue + importedValue)
      (held * average + imported * cost)
    linarith
  have sum : |value - (held * average + imported * cost)| ≤
      total * bound * ((1 + error) ^ 2 - 1) := by
    calc |value - (held * average + imported * cost)|
        ≤ |value - (heldValue + importedValue)| +
            |heldValue + importedValue - (held * average + imported * cost)| :=
          abs_sub_le _ _ _
      _ ≤ total * bound * (1 + error) * error + total * bound * error := by
          refine add_le_add (valueError.trans ?_) products
          gcongr
      _ = total * bound * ((1 + error) ^ 2 - 1) := by ring
  have valueBound : |value| ≤ total * bound * (1 + error) ^ 2 := by
    have triangle := abs_sub_abs_le_abs_sub value (held * average + imported * cost)
    linarith
  calc |quotient - (held * average + imported * cost) / total|
      ≤ |quotient - value / total| + |value / total - (held * average + imported * cost) / total| :=
        abs_sub_le _ _ _
    _ ≤ bound * (1 + error) ^ 2 * error + bound * ((1 + error) ^ 2 - 1) := by
        refine add_le_add (quotientError.trans ?_) ?_
        · gcongr
          rw [abs_div, abs_of_pos positive, div_le_iff₀ positive]
          linarith
        · rw [← sub_div, abs_div, abs_of_pos positive, div_le_iff₀ positive]
          linarith
    _ = bound * ((1 + error) ^ 3 - 1) := by ring

end WeightedAverage

/-- The average cost does not leave an interval that holds both costs. -/
theorem calculateWeightedAverageCost_mem {input : WeightedAverageInput} {low high : Money}
    (stock : 0 ≤ input.stock) (quantity : 0 < input.importedQuantity)
    (fits : input.stock + input.importedQuantity < 10 ^ 18) (lowFits : -10 ^ 18 ≤ low)
    (highFits : high ≤ 10 ^ 18) (average : low ≤ input.averageUnitCost ∧ input.averageUnitCost ≤ high)
    (cost : low ≤ input.importedUnitCost ∧ input.importedUnitCost ≤ high) :
    low ≤ calculateWeightedAverageCost input ∧ calculateWeightedAverageCost input ≤ high := by
  obtain ⟨held, averageUnitCost, imported, unitCost⟩ := input
  dsimp only at stock quantity fits average cost
  have heldNonneg : (0 : ℚ) ≤ quantityToDecimal held :=
    div_nonneg (by exact_mod_cast stock) (by norm_num)
  have importedPositive : (0 : ℚ) < quantityToDecimal imported :=
    div_pos (by exact_mod_cast quantity) (by norm_num)
  have total : add decimalPrecision (quantityToDecimal held) (quantityToDecimal imported) =
      quantityToDecimal held + quantityToDecimal imported := by
    have sum : quantityToDecimal held + quantityToDecimal imported =
        ((held + imported : ℤ) : ℚ) / 10000 := by
      unfold quantityToDecimal
      push_cast
      ring
    refine @toSignificantDigits_eq_self _ 4 _ (held + imported) ?_ ?_
    · rw [sum]
      norm_num
    · have below : ((held + imported : ℤ) : ℚ) < 10 ^ 18 := by exact_mod_cast fits
      rw [abs_of_pos (by linarith), sum]
      norm_num [decimalPrecision] at below ⊢
      linarith
  have positive : 0 < quantityToDecimal held + quantityToDecimal imported := by linarith
  have within {price : Money} (range : low ≤ price ∧ price ≤ high) :
      (low : ℚ) / 100 ≤ moneyToDecimal price ∧ moneyToDecimal price ≤ (high : ℚ) / 100 ∧
        |moneyToDecimal price| ≤ 10 ^ 16 := by
    have above : (low : ℚ) ≤ price := by exact_mod_cast range.1
    have below : (price : ℚ) ≤ high := by exact_mod_cast range.2
    have least : (-10 ^ 18 : ℚ) ≤ low := by exact_mod_cast lowFits
    have most : (high : ℚ) ≤ 10 ^ 18 := by exact_mod_cast highFits
    unfold moneyToDecimal
    refine ⟨by linarith, by linarith, abs_le.mpr ⟨?_, ?_⟩⟩
    · linarith
    · linarith
  obtain ⟨averageAbove, averageBelow, averageBound⟩ := within average
  obtain ⟨costAbove, costBelow, costBound⟩ := within cost
  have near := abs_le.mp (abs_roundedAverage_sub_le heldNonneg importedPositive
    (by positivity : (0 : ℚ) ≤ 5 / 10 ^ decimalPrecision) averageBound costBound
    (abs_toSignificantDigits_sub_le _ _) (abs_toSignificantDigits_sub_le _ _)
    (abs_toSignificantDigits_sub_le _ _) (abs_toSignificantDigits_sub_le _ _))
  have tiny : (10 : ℚ) ^ 16 * ((1 + 5 / 10 ^ decimalPrecision) ^ 3 - 1) < 1 / 200 := by
    norm_num [decimalPrecision]
  -- the exact average is between the two costs
  have lower : (low : ℚ) / 100 ≤ (quantityToDecimal held * moneyToDecimal averageUnitCost +
      quantityToDecimal imported * moneyToDecimal unitCost) /
        (quantityToDecimal held + quantityToDecimal imported) := by
    rw [le_div_iff₀ positive]
    have first := mul_le_mul_of_nonneg_left averageAbove heldNonneg
    have second := mul_le_mul_of_nonneg_left costAbove importedPositive.le
    linarith
  have upper : (quantityToDecimal held * moneyToDecimal averageUnitCost +
      quantityToDecimal imported * moneyToDecimal unitCost) /
        (quantityToDecimal held + quantityToDecimal imported) ≤ (high : ℚ) / 100 := by
    rw [div_le_iff₀ positive]
    have first := mul_le_mul_of_nonneg_left averageBelow heldNonneg
    have second := mul_le_mul_of_nonneg_left costBelow importedPositive.le
    linarith
  unfold calculateWeightedAverageCost
  simp only [total, if_neg positive.ne', moneyOfDecimal]
  simp only [div, add, mul]
  refine roundHalfUp_mem ?_ ?_
  · linarith
  · linarith

/-- With nothing in stock the price of the import becomes the average cost. -/
theorem calculateWeightedAverageCost_empty {input : WeightedAverageInput}
    (stock : input.stock = 0) (quantity : 0 < input.importedQuantity)
    (fits : input.importedQuantity < 10 ^ 18) (cost : -10 ^ 18 ≤ input.importedUnitCost)
    (costFits : input.importedUnitCost ≤ 10 ^ 18) :
    calculateWeightedAverageCost input = input.importedUnitCost := by
  have forgets : calculateWeightedAverageCost input =
      calculateWeightedAverageCost { input with averageUnitCost := input.importedUnitCost } := by
    simp only [calculateWeightedAverageCost, mul, stock, quantityToDecimal, Int.cast_zero, zero_div,
      zero_mul]
  rw [forgets]
  have only := @calculateWeightedAverageCost_mem
    { input with averageUnitCost := input.importedUnitCost } _ _ stock.ge quantity
    (by simpa [stock] using fits) cost costFits ⟨le_rfl, le_rfl⟩ ⟨le_rfl, le_rfl⟩
  exact le_antisymm only.2 only.1

end CoffeeShop
