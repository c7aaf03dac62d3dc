import CoffeeShop.Store.Database

/-!
Promotion discounts and the amounts of an invoice.
-/

namespace CoffeeShop

open DecimalArithmetic Transaction

/-- `MoneyInputSchema`: at most 16 integer digits. -/
def isMoneyInput (amount : Money) : Bool :=
  0 ≤ amount && amount < 1000000000000000000

/-- The product of a decimal and a percentage with two decimal places. -/
def percentOf (amount : ℚ) (rate : Money) : ℚ :=
  div decimalPrecision (mul decimalPrecision amount (moneyToDecimal rate)) 100

namespace PromotionCalculator

variable {σ : Type}

def assertPromotionCanBeApplied (promotion : Promotion) (at_ : Timestamp) :
    Tx σ Failure Unit := do
  require promotion.deletedAt.isNone (.badRequest "Promotion has been deleted.")
  require (promotion.startDate ≤ at_) (.badRequest "Promotion is not active yet.")
  require (at_ < promotion.endDate) (.badRequest "Promotion is expired.")

def rawDiscount (promotion : Promotion) (subTotal : Money) : ℚ :=
  match promotion.discountType with
  | .percentage => percentOf (moneyToDecimal subTotal) promotion.discountValue
  | .fixedAmount => moneyToDecimal promotion.discountValue

def calculateDiscountAmount (promotion : Promotion) (subTotal : Money) : Tx σ Failure Money := do
  require (0 ≤ subTotal) (.badRequest "Sub total cannot be negative.")
  let raw := rawDiscount promotion subTotal
  let capped := match promotion.maxDiscount with
    | some maxDiscount => min raw (moneyToDecimal maxDiscount)
    | none => raw
  let discountAmount := moneyOfDecimal (min capped (moneyToDecimal subTotal))
  require (0 ≤ discountAmount) (.badRequest "Discount amount cannot be negative.")
  require (discountAmount ≤ subTotal)
    (.badRequest "Discount amount cannot exceed sub total.")
  pure discountAmount

/-- The promotion and the amount it takes off. -/
def calculateDiscount (catalog : Catalog) (promotionId : Id) (subTotal : Money)
    (at_ : Timestamp) : Tx σ Failure (Promotion × Money) := do
  let promotion ← orFail (catalog.promotions.find? promotionId)
    (.notFound s!"Promotion with ID {promotionId} not found.")
  assertPromotionCanBeApplied promotion at_
  let discountAmount ← calculateDiscountAmount promotion subTotal
  pure (promotion, discountAmount)

end PromotionCalculator

/-- What `calculateInvoice` returns. -/
structure InvoiceCalculation where
  subTotal : Money
  discountAmount : Money
  taxAmount : Money
  taxRate : Money
  totalAmount : Money
  amountTendered : Option Money
  changeAmount : Option Money

/-- The data that `quoteFingerprint` hashes. -/
structure InvoiceQuote where
  orderSessionId : Id
  tableId : Option Id
  items : List (Id × Nat × Money)
  promotionId : Option Id
  subTotal : Money
  discountAmount : Money
  taxRate : Money
  taxAmount : Money
  totalAmount : Money
  deriving DecidableEq

/-- The exact amount of an order line. -/
def OrderItem.lineTotal (item : OrderItem) : Money := item.priceAtTime * item.quantity

namespace InvoicesService

variable {σ : Type}

def calculateSubTotal (items : List OrderItem) : Money :=
  moneyOfDecimal (items.foldl (fun total item => add decimalPrecision total
    (mul decimalPrecision (moneyToDecimal item.priceAtTime) item.quantity)) 0)

section SubTotal

/-- The amounts of a column are below this many units. -/
theorem moneyToDecimal_lt {amount : Money} (small : amount < 1000000000000000000) :
    moneyToDecimal amount < 10 ^ (16 : ℤ) := by
  have cast : (amount : ℚ) < 1000000000000000000 := by exact_mod_cast small
  rw [moneyToDecimal, div_lt_iff₀ (by norm_num)]
  norm_num
  exact cast

/-- Twenty digits hold every amount of a column. -/
theorem toSignificantDigits_money {amount : Money} (nonneg : 0 ≤ amount)
    (small : moneyToDecimal amount < 10 ^ (16 : ℤ)) :
    toSignificantDigits decimalPrecision (moneyToDecimal amount) = moneyToDecimal amount := by
  have grid : moneyToDecimal amount * 10 ^ 2 = (amount : ℤ) := by
    rw [moneyToDecimal]
    norm_num
  have positive : 0 ≤ moneyToDecimal amount := by
    unfold moneyToDecimal
    positivity
  refine toSignificantDigits_eq_self grid ?_
  rw [abs_of_nonneg positive]
  refine small.trans_le ?_
  norm_num [decimalPrecision]

/-- One line of the fold in `calculateSubTotal`. -/
def addLine (total : ℚ) (item : OrderItem) : ℚ :=
  add decimalPrecision total
    (mul decimalPrecision (moneyToDecimal item.priceAtTime) item.quantity)

/-- A total that has grown too large stays too large. -/
theorem le_foldl_addLine {items : List OrderItem} {total : ℚ}
    (nonneg : ∀ item ∈ items, 0 ≤ item.priceAtTime) (large : 10 ^ (16 : ℤ) ≤ total) :
    10 ^ (16 : ℤ) ≤ items.foldl addLine total := by
  induction items generalizing total with
  | nil => exact large
  | cons item rest inductionHypothesis =>
      refine inductionHypothesis (fun other others => nonneg other (List.mem_cons_of_mem _ others)) ?_
      have price := nonneg item List.mem_cons_self
      have product : 0 ≤ mul decimalPrecision (moneyToDecimal item.priceAtTime) item.quantity := by
        refine toSignificantDigits_nonneg ?_
        unfold moneyToDecimal
        positivity
      exact le_toSignificantDigits (by norm_num [decimalPrecision]) (by linarith)

/-- The fold is exact as long as its result fits into a column. -/
theorem foldl_addLine {items : List OrderItem} {total : Money}
    (nonneg : ∀ item ∈ items, 0 ≤ item.priceAtTime) (start : 0 ≤ total)
    (fits : items.foldl addLine (moneyToDecimal total) < 10 ^ (16 : ℤ)) :
    items.foldl addLine (moneyToDecimal total) =
      moneyToDecimal (total + (items.map OrderItem.lineTotal).sum) := by
  induction items generalizing total with
  | nil => simp
  | cons item rest inductionHypothesis =>
      have price := nonneg item List.mem_cons_self
      have others : ∀ other ∈ rest, 0 ≤ other.priceAtTime := fun other inRest =>
        nonneg other (List.mem_cons_of_mem _ inRest)
      have line : 0 ≤ item.lineTotal := Int.mul_nonneg price (Int.natCast_nonneg item.quantity)
      rw [List.foldl_cons] at fits ⊢
      have bounded : addLine (moneyToDecimal total) item < 10 ^ (16 : ℤ) :=
        lt_of_not_ge fun large => fits.not_ge (le_foldl_addLine others large)
      have product : moneyToDecimal item.priceAtTime * item.quantity =
          moneyToDecimal item.lineTotal := by
        unfold moneyToDecimal OrderItem.lineTotal
        push_cast
        ring
      have sum : moneyToDecimal total + moneyToDecimal item.lineTotal =
          moneyToDecimal (total + item.lineTotal) := by
        unfold moneyToDecimal
        push_cast
        ring
      have totalNonneg : 0 ≤ moneyToDecimal total := by
        unfold moneyToDecimal
        positivity
      have digits : 0 < decimalPrecision := by decide
      have exact_ : addLine (moneyToDecimal total) item = moneyToDecimal (total + item.lineTotal) := by
        unfold addLine add mul at bounded ⊢
        rw [product] at bounded ⊢
        have small : moneyToDecimal item.lineTotal < 10 ^ (16 : ℤ) := by
          by_contra large
          have rounded := le_toSignificantDigits digits (not_lt.mp large)
          refine bounded.not_ge (le_toSignificantDigits digits ?_)
          linarith
        rw [toSignificantDigits_money line small, sum] at bounded ⊢
        refine toSignificantDigits_money (Int.add_nonneg start line) ?_
        by_contra large
        exact bounded.not_ge (le_toSignificantDigits digits (not_lt.mp large))
      rw [exact_] at fits ⊢
      rw [inductionHypothesis others (Int.add_nonneg start line) fits, List.map_cons,
        List.sum_cons, Int.add_assoc]

/-- The subtotal is the sum of the lines. -/
theorem calculateSubTotal_eq {items : List OrderItem}
    (nonneg : ∀ item ∈ items, 0 ≤ item.priceAtTime)
    (fits : (calculateSubTotal items).natAbs < 1000000000000000000) :
    calculateSubTotal items = (items.map OrderItem.lineTotal).sum := by
  have zero : moneyToDecimal 0 = 0 := by simp [moneyToDecimal]
  have bounded : items.foldl addLine (moneyToDecimal 0) < 10 ^ (16 : ℤ) := by
    by_contra large
    have rounded : (1000000000000000000 : ℤ) ≤ calculateSubTotal items := by
      refine le_roundHalfUp (by norm_num) ?_
      rw [zero] at large
      have shown := not_lt.mp large
      norm_num at shown ⊢
      change _ ≤ items.foldl addLine 0 * 100
      linarith
    omega
  have folded := foldl_addLine nonneg le_rfl bounded
  rw [zero, zero_add] at folded
  have total : moneyToDecimal (items.map OrderItem.lineTotal).sum * 100 =
      (((items.map OrderItem.lineTotal).sum : ℤ) : ℚ) := by
    unfold moneyToDecimal
    ring
  change moneyOfDecimal (items.foldl addLine 0) = _
  rw [folded, moneyOfDecimal, total, roundHalfUp_intCast]

end SubTotal

def toDecimal (amount : Money) : Tx σ Failure Money := do
  require (isMoneyInput amount)
    (.badRequest "Money must have at most 16 integer digits and 2 decimal places.")
  pure amount

/-- Cash has to be tendered explicitly; any other method tenders the total. -/
def resolvePaidAmountTendered (paymentMethod : PaymentMethod) (totalAmount : Money)
    (amountTendered : Option Money) : Tx σ Failure (Option Money) :=
  match amountTendered with
  | some amount => do
      let amount ← toDecimal amount
      pure (some amount)
  | none => pure (if paymentMethod = .cash then none else some totalAmount)

def assertPaidPaymentAmount (paymentMethod : PaymentMethod) (amountTendered : Option Money)
    (totalAmount : Money) : Tx σ Failure Unit := do
  require (¬(paymentMethod = .cash ∧ amountTendered.isNone))
    (.badRequest "Cash payment requires amountTendered.")
  require (amountTendered.all (totalAmount ≤ ·))
    (.badRequest "Amount tendered is less than total amount.")

structure CalculateInvoiceInput where
  subTotal : Money
  discountAmount : Money
  taxRate : Money
  paymentStatus : PaymentStatus
  paymentMethod : PaymentMethod
  amountTendered : Option Money

def calculateInvoice (input : CalculateInvoiceInput) : Tx σ Failure InvoiceCalculation := do
  require (0 ≤ input.taxRate ∧ input.taxRate ≤ 10000)
    (.badRequest "Tax rate must be between 0 and 100 with at most 2 decimal places.")
  let taxableAmount := max (sub decimalPrecision (moneyToDecimal input.subTotal)
    (moneyToDecimal input.discountAmount)) 0
  let taxAmount := moneyOfDecimal (percentOf taxableAmount input.taxRate)
  let totalAmount := moneyOfDecimal (add decimalPrecision taxableAmount (moneyToDecimal taxAmount))
  let amountTendered ← (if input.paymentStatus = .paid then
    resolvePaidAmountTendered input.paymentMethod totalAmount input.amountTendered
  else pure none)
  require (isMoneyInput totalAmount) (.badRequest "Invoice amount exceeds supported precision.")
  pure {
    subTotal := input.subTotal
    discountAmount := input.discountAmount
    taxAmount
    taxRate := input.taxRate
    totalAmount
    amountTendered
    changeAmount := amountTendered.map (· - totalAmount) }

end InvoicesService

end CoffeeShop
