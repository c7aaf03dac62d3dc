import CoffeeShop.Execution
import CoffeeShop.Invoices.Discounts
import CoffeeShop.Sales.InvoiceSteps

/-!
The amounts of an invoice against exact arithmetic.
-/

namespace CoffeeShop

open DecimalArithmetic Transaction SalesStore

/-- The amounts of the invoice are the exact ones of its items.  The tax is rounded once. -/
structure Invoice.Exact (row : Invoice) (items : List OrderItem) : Prop where
  subTotal : row.subTotal = (items.map OrderItem.lineTotal).sum
  discount_nonneg : 0 ≤ row.discountAmount
  discount_le : row.discountAmount ≤ row.subTotal
  taxAmount : row.taxAmount =
    roundHalfUp (((row.subTotal - row.discountAmount) * row.taxRate : ℤ) / 10 ^ 4)
  totalAmount : row.totalAmount = row.subTotal - row.discountAmount + row.taxAmount
  changeAmount : row.paymentStatus = .paid → ∃ tendered, row.amountTendered = some tendered ∧
    row.totalAmount ≤ tendered ∧ row.changeAmount = some (tendered - row.totalAmount)

namespace InvoicesService

/-- The amount that a promotion, if there is one, takes off. -/
def discountFor (promotion : Option Promotion) (subTotal : Money) : Money :=
  match promotion with
  | some promotion => PromotionCalculator.discountAmount promotion subTotal
  | none => 0

/-- The exact amount that an invoice of the items is taxed on. -/
def taxableAmount (catalog : Catalog) (input : CreateInvoiceInput) (items : List OrderItem) :
    Money :=
  let subTotal := (items.map OrderItem.lineTotal).sum
  subTotal - discountFor (input.promotionId.bind catalog.promotions.find?) subTotal

section Drafting

variable {σ : Type} {now : Timestamp} {catalog : Catalog} {sales sales' : SalesStore}

theorem commits_resolveDiscount {promotionId : Option Id} {subTotal : Money}
    {discount : Option Promotion × Money} (nonneg : 0 ≤ subTotal)
    (committed : Commits (resolveDiscount catalog promotionId subTotal now) sales discount sales') :
    discount.1 = promotionId.bind catalog.promotions.find? ∧
      discount.2 = discountFor discount.1 subTotal ∧ 0 ≤ discount.2 ∧ discount.2 ≤ subTotal := by
  cases promotionId with
  | none =>
      obtain ⟨rfl, -⟩ := commits_pure.mp committed
      exact ⟨rfl, rfl, le_rfl, nonneg⟩
  | some promotionId =>
      simp only [resolveDiscount, PromotionCalculator.calculateDiscount, commits_bind,
        commits_orFail, commits_pure, PromotionCalculator.commits_calculateDiscountAmount] at committed
      obtain ⟨_, _, ⟨promotion, _, ⟨found, rfl⟩, _, _, -, amount, _, ⟨⟨-, low, high⟩, exactly, rfl⟩,
        rfl, rfl⟩, rfl, -⟩ := committed
      exact ⟨found.symm, exactly, low, high⟩

/-- Every method but cash tenders an amount. -/
theorem commits_resolvePaidAmountTendered {paymentMethod : PaymentMethod} {total : Money}
    {given tendered : Option Money} {store store' : σ} (other : paymentMethod ≠ .cash)
    (committed : Commits (resolvePaidAmountTendered paymentMethod total given) store tendered store') :
    ∃ amount, tendered = some amount := by
  cases given with
  | none =>
      obtain ⟨rfl, -⟩ := commits_pure.mp committed
      exact ⟨total, if_neg other⟩
  | some amount =>
      simp only [resolvePaidAmountTendered, toDecimal, commits_bind, commits_require,
        commits_pure] at committed
      obtain ⟨_, _, ⟨_, _, ⟨-, rfl⟩, rfl, rfl⟩, rfl, -⟩ := committed
      exact ⟨_, rfl⟩

/-- The total of two amounts that is money in the end has not been rounded. -/
theorem moneyOfDecimal_add {left right : Money} (leftNonneg : 0 ≤ left) (rightNonneg : 0 ≤ right)
    (money : isMoneyInput (moneyOfDecimal
      (add decimalPrecision (moneyToDecimal left) (moneyToDecimal right))) = true) :
    moneyOfDecimal (add decimalPrecision (moneyToDecimal left) (moneyToDecimal right)) =
      left + right := by
  have sum : moneyToDecimal left + moneyToDecimal right = moneyToDecimal (left + right) := by
    unfold moneyToDecimal
    push_cast
    ring
  rw [add, sum] at money ⊢
  have small : moneyToDecimal (left + right) < 10 ^ (16 : ℤ) := by
    by_contra large
    have digits : 0 < decimalPrecision := by decide
    have rounded := le_toSignificantDigits digits (not_lt.mp large)
    have units : (1000000000000000000 : ℤ) ≤ moneyOfDecimal (toSignificantDigits decimalPrecision
        (moneyToDecimal (left + right))) := by
      refine le_roundHalfUp (by norm_num) ?_
      norm_num at rounded ⊢
      linarith
    simp only [isMoneyInput, Bool.and_eq_true, decide_eq_true_eq] at money
    exact money.2.not_ge units
  rw [toSignificantDigits_money (add_nonneg leftNonneg rightNonneg) small,
    moneyOfDecimal_moneyToDecimal]

/-- What `calculateInvoice` computes from amounts of a column. -/
structure Calculated (input : CalculateInvoiceInput) (calculation : InvoiceCalculation) : Prop where
  subTotal : calculation.subTotal = input.subTotal
  discountAmount : calculation.discountAmount = input.discountAmount
  taxRate : calculation.taxRate = input.taxRate
  rate_nonneg : 0 ≤ input.taxRate
  rate_le : input.taxRate ≤ 10000
  taxAmount : calculation.taxAmount =
    productValue ((input.subTotal - input.discountAmount) * input.taxRate)
  totalAmount : calculation.totalAmount =
    input.subTotal - input.discountAmount + calculation.taxAmount
  tendered : input.paymentStatus = .paid → input.paymentMethod ≠ .cash →
    ∃ amount, calculation.amountTendered = some amount
  changeAmount : calculation.changeAmount =
    calculation.amountTendered.map (· - calculation.totalAmount)

theorem commits_calculateInvoice {input : CalculateInvoiceInput} {calculation : InvoiceCalculation}
    {store store' : σ} (discount : 0 ≤ input.discountAmount)
    (clamped : input.discountAmount ≤ input.subTotal) (fits : input.subTotal < 10 ^ 18)
    (committed : Commits (calculateInvoice input) store calculation store') :
    Calculated input calculation := by
  have nonneg : 0 ≤ input.subTotal - input.discountAmount := sub_nonneg.mpr clamped
  have difference : moneyToDecimal input.subTotal - moneyToDecimal input.discountAmount =
      moneyToDecimal (input.subTotal - input.discountAmount) := by
    unfold moneyToDecimal
    push_cast
    ring
  have taxable : max (sub decimalPrecision (moneyToDecimal input.subTotal)
      (moneyToDecimal input.discountAmount)) 0 =
      moneyToDecimal (input.subTotal - input.discountAmount) := by
    rw [sub, difference, toSignificantDigits_money nonneg (moneyToDecimal_lt (by lia)),
      max_eq_left]
    unfold moneyToDecimal
    positivity
  simp only [calculateInvoice, taxable, moneyOfDecimal_percentOf, commits_bind, commits_require,
    commits_pure] at committed
  obtain ⟨_, _, ⟨⟨low, high⟩, rfl⟩, tendered, _, resolved, _, _, ⟨money, rfl⟩, rfl, rfl⟩ := committed
  have product : 0 ≤ (input.subTotal - input.discountAmount) * input.taxRate := by positivity
  have tax := productValue_nonneg product
  refine ⟨rfl, rfl, rfl, low, high, rfl, moneyOfDecimal_add nonneg tax money,
    fun paid other => ?_, rfl⟩
  rw [if_pos paid] at resolved
  exact commits_resolvePaidAmountTendered other resolved

/-- A paid invoice has the total tendered. -/
theorem commits_assertPaidPaymentAmount {paymentMethod : PaymentMethod} {tendered : Option Money}
    {total : Money} {store store' : σ} {result : Unit}
    (committed : Commits (assertPaidPaymentAmount paymentMethod tendered total) store result store') :
    (paymentMethod = .cash → tendered ≠ none) ∧ ∀ amount, tendered = some amount → total ≤ amount := by
  simp only [assertPaidPaymentAmount, commits_bind, commits_require] at committed
  obtain ⟨_, _, ⟨present, -⟩, enough, -⟩ := committed
  refine ⟨fun cash absent => present ⟨cash, by rw [absent]; rfl⟩, ?_⟩
  rintro amount rfl
  simpa using enough

theorem calculateInvoice_discountAmount {input : CalculateInvoiceInput}
    {calculation : InvoiceCalculation} {store store' : σ}
    (committed : Commits (calculateInvoice input) store calculation store') :
    calculation.discountAmount = input.discountAmount := by
  simp only [calculateInvoice, commits_bind, commits_require, commits_pure] at committed
  obtain ⟨_, _, -, _, _, -, _, _, -, rfl, -⟩ := committed
  rfl

theorem calculateInvoice_subTotal {input : CalculateInvoiceInput}
    {calculation : InvoiceCalculation} {store store' : σ}
    (committed : Commits (calculateInvoice input) store calculation store') :
    calculation.subTotal = input.subTotal := by
  simp only [calculateInvoice, commits_bind, commits_require, commits_pure] at committed
  obtain ⟨_, _, -, _, _, -, _, _, -, rfl, -⟩ := committed
  rfl

/-- The calls of `draftInvoice` on what it returns. -/
structure DraftCalls (request : CreateInvoiceRequest) (catalog : Catalog) (session : OrderSession)
    (now : Timestamp) (sales : SalesStore) (draft : InvoiceDraft) : Prop where
  own : draft.session = session
  read : Commits (getInvoiceItems request.input.orderSessionId request.input.orderItemIds) sales
    draft.items sales
  billable : Commits (assertInvoiceItemsAreBillable draft.items) sales () sales
  discounted : Commits (resolveDiscount catalog request.input.promotionId
    (calculateSubTotal draft.items) now) sales
    (draft.promotion, draft.calculation.discountAmount) sales
  calculated : Commits (calculateInvoice {
    subTotal := calculateSubTotal draft.items
    discountAmount := draft.calculation.discountAmount
    taxRate := request.input.taxRate.getD 0
    paymentStatus := request.paymentStatus
    paymentMethod := request.paymentMethod
    amountTendered := request.amountTendered }) sales draft.calculation sales
  quoted : request.input.quoteFingerprint.all
    (· = quoteOf request.input session draft.items draft.calculation) = true
  paid : request.paymentStatus = .paid → Commits (assertPaidPaymentAmount request.paymentMethod
    draft.calculation.amountTendered draft.calculation.totalAmount) sales () sales

theorem DraftCalls.of_commits {request : CreateInvoiceRequest} {session : OrderSession}
    {draft : InvoiceDraft}
    (committed : Commits (draftInvoice request catalog session now) sales draft sales') :
    DraftCalls request catalog session now sales draft := by
  simp only [draftInvoice, commits_bind, commits_pure, commits_require] at committed
  obtain ⟨items, _, read, _, _, billable, discount, _, discounted, calculation, _, calculated,
    _, _, ⟨⟨quoted, -⟩, rfl⟩, _, _, paid, rfl, -⟩ := committed
  cases Respects.step (R := Eq) read
  cases Respects.step (R := Eq) billable
  cases Respects.step (R := Eq) discounted
  cases Respects.step (R := Eq) calculated
  have amount := calculateInvoice_discountAmount calculated
  refine { own := rfl, read, billable, discounted := ?_, calculated := ?_, quoted,
           paid := fun status => ?_ }
  · rw [amount]
    exact discounted
  · rw [amount]
    exact calculated
  · obtain ⟨-, checked⟩ | ⟨never, -⟩ := commits_when.mp paid
    · cases Respects.step (R := Eq) checked
      exact checked
    · exact (never status).elim

/-- The row that `issueInvoice` writes of a draft. -/
structure IssuedFrom (request : CreateInvoiceRequest) (draft : InvoiceDraft) (row : Invoice) :
    Prop where
  subTotal : row.subTotal = draft.calculation.subTotal
  discountAmount : row.discountAmount = draft.calculation.discountAmount
  taxAmount : row.taxAmount = draft.calculation.taxAmount
  taxRate : row.taxRate = draft.calculation.taxRate
  totalAmount : row.totalAmount = draft.calculation.totalAmount
  amountTendered : row.amountTendered = draft.calculation.amountTendered
  changeAmount : row.changeAmount = draft.calculation.changeAmount
  paymentStatus : row.paymentStatus = request.paymentStatus
  orderSessionId : row.orderSessionId = draft.session.id
  promotionId : row.promotionId = draft.promotion.map (·.id)
  fits : row.subTotal.natAbs < 1000000000000000000

theorem commits_issueInvoice {request : CreateInvoiceRequest} {draft : InvoiceDraft} {id : Id}
    {shiftId : Option Id} {result : Unit}
    (committed : Commits (issueInvoice request catalog draft id shiftId now) sales result sales') :
    sales.invoices.find? id = none ∧
    ∃ row, sales'.invoices.find? id = some row ∧ IssuedFrom request draft row ∧
      sales'.items = sales.items.update
        (fun item => item.id ∈ draft.items.map (·.id) && item.orderSessionId = draft.session.id &&
          isBillable item)
        (fun item => { item with
          invoiceId := some id
          isPaid := if request.paymentStatus = .paid then true else item.isPaid })
        (fun _ => rfl) := by
  simp only [issueInvoice, InvoiceNumberService.generate, commits_bind, commits_get, commits_pure,
    commits_insertInvoice, commits_updateMany, commits_require] at committed
  obtain ⟨_, _, ⟨rfl, rfl⟩, number, _, ⟨_, _, ⟨rfl, rfl⟩, -, rfl⟩, _, _,
    ⟨⟨fits, -, -⟩, invoices, inserted, rfl⟩, _, _, ⟨-, rfl⟩, -, rfl⟩ := committed
  refine ⟨Table.find?_eq_none.mpr (Table.rows_insert? inserted).2, _,
    (Table.find?_insert? inserted).trans (if_pos rfl), ?_, rfl⟩
  simp only [amountsOf, List.all_append, List.all_cons, Bool.and_eq_true] at fits
  exact { subTotal := rfl, discountAmount := rfl, taxAmount := rfl, taxRate := rfl,
          totalAmount := rfl, amountTendered := rfl, changeAmount := rfl, paymentStatus := rfl,
          orderSessionId := rfl, promotionId := rfl, fits := of_decide_eq_true fits.1.1.1 }

/-- The row of a draft is exact unless the product of its tax rounds twice. -/
theorem IssuedFrom.exact_iff {request : CreateInvoiceRequest} {session : OrderSession}
    {draft : InvoiceDraft} {row : Invoice} (issued : IssuedFrom request draft row)
    (calls : DraftCalls request catalog session now sales draft)
    (prices : ∀ item ∈ draft.items, 0 ≤ item.priceAtTime) :
    row.Exact draft.items ↔ ¬RoundsTwice (taxableAmount catalog request.input draft.items)
      (request.input.taxRate.getD 0) := by
  have computed := calculateInvoice_subTotal calls.calculated
  have fits := issued.fits
  rw [issued.subTotal, computed] at fits
  have subTotal := calculateSubTotal_eq prices fits
  have total : 0 ≤ calculateSubTotal draft.items := by
    rw [subTotal]
    refine List.sum_nonneg fun line isLine => ?_
    obtain ⟨item, inDraft, rfl⟩ := List.mem_map.mp isLine
    exact Int.mul_nonneg (prices item inDraft) (Int.natCast_nonneg item.quantity)
  obtain ⟨promotion, amount, low, high⟩ := commits_resolveDiscount total calls.discounted
  have calculated := commits_calculateInvoice low high (by lia) calls.calculated
  have taxable : calculateSubTotal draft.items - draft.calculation.discountAmount =
      taxableAmount catalog request.input draft.items := by
    dsimp only at promotion amount
    rw [taxableAmount, ← subTotal, ← promotion, ← amount]
  have nonneg : 0 ≤ taxableAmount catalog request.input draft.items := by
    rw [← taxable]
    exact sub_nonneg.mpr high
  have product : 0 ≤ taxableAmount catalog request.input draft.items *
      request.input.taxRate.getD 0 := mul_nonneg nonneg calculated.rate_nonneg
  have bounded : taxableAmount catalog request.input draft.items * request.input.taxRate.getD 0 <
      10 ^ 22 := by
    calc taxableAmount catalog request.input draft.items * request.input.taxRate.getD 0
        ≤ taxableAmount catalog request.input draft.items * 10000 :=
          mul_le_mul_of_nonneg_left calculated.rate_le nonneg
      _ < 10 ^ 22 := by lia
  have rows : row.subTotal - row.discountAmount =
      taxableAmount catalog request.input draft.items := by
    rw [issued.subTotal, issued.discountAmount, computed, taxable]
  have tax : row.taxAmount = productValue (taxableAmount catalog request.input draft.items *
      request.input.taxRate.getD 0) := by
    rw [issued.taxAmount, calculated.taxAmount, taxable]
  have rate : row.taxRate = request.input.taxRate.getD 0 := by
    rw [issued.taxRate, calculated.taxRate]
  rw [← productValue_mul_eq_iff product bounded]
  constructor
  · intro exact_
    rw [← tax, exact_.taxAmount, rows, rate]
  · intro once
    refine { subTotal := ?_, discount_nonneg := ?_, discount_le := ?_, taxAmount := ?_,
             totalAmount := ?_, changeAmount := fun status => ?_ }
    · rw [issued.subTotal, computed, subTotal]
    · rw [issued.discountAmount]
      exact low
    · rw [issued.subTotal, issued.discountAmount, computed]
      exact high
    · rw [tax, once, rows, rate]
    · rw [issued.totalAmount, calculated.totalAmount, rows, ← taxable, issued.taxAmount]
    · rw [issued.paymentStatus] at status
      obtain ⟨cash, enough⟩ := commits_assertPaidPaymentAmount (calls.paid status)
      obtain ⟨tendered, given⟩ : ∃ tendered, draft.calculation.amountTendered = some tendered := by
        by_cases method : request.paymentMethod = .cash
        · exact Option.ne_none_iff_exists'.mp (cash method)
        · exact calculated.tendered status method
      refine ⟨tendered, ?_, ?_, ?_⟩
      · rw [issued.amountTendered, given]
      · rw [issued.totalAmount]
        exact enough tendered given
      · rw [issued.changeAmount, calculated.changeAmount, given, issued.totalAmount]
        rfl

end Drafting

section Issuing

variable {request : CreateInvoiceRequest} {onlinePickup : Bool} {now : Timestamp}
variable {before after : Database} {id : Id}

instance : Apart SalesStore.invoices orderItem := ⟨fun _ _ => rfl⟩
instance : Apart SalesStore.invoices orderSession := ⟨fun _ _ => rfl⟩
instance : Apart SalesStore.invoices recipeIngredient := ⟨fun _ _ => rfl⟩

/-- The invoices are the same. -/
abbrev InvoicesKept : Database → Database → Prop := On Database.sales (On SalesStore.invoices Eq)

instance reserveInvoiceStock_invoices : Respects InvoicesKept (reserveInvoiceStock id now) := by
  unfold reserveInvoiceStock InventoryConsumption.reservePendingItems
    InventoryConsumption.snapshotLegacyRecipes
  infer_instance

instance closeSessionIfFullyPaid_invoices {session : OrderSession} :
    Respects (On SalesStore.invoices Eq) (closeSessionIfFullyPaid session) := by
  dsimp only [closeSessionIfFullyPaid]
  infer_instance

/-- What follows the issue leaves the invoices alone. -/
theorem InvoiceIssue.invoices_eq (issue : InvoiceIssue request onlinePickup now before id after) :
    after.sales.invoices = issue.issued.invoices := by
  have reserved : issue.issued.invoices = issue.reserved.sales.invoices :=
    reserveInvoiceStock_invoices.step issue.reserve
  have recorded := Keeps.eq Database.sales issue.record
  have closed : InvoicesKept issue.recorded after := Respects.step issue.close
  have kept : issue.recorded.sales.invoices = after.sales.invoices := closed
  rw [← kept, recorded, reserved]

/-- An invoice is exact unless the product of its taxable amount and its rate rounds twice. -/
theorem createInvoiceInTransaction_exact_iff
    (prices : ∀ item ∈ before.sales.items, 0 ≤ item.priceAtTime)
    (created : Commits (createInvoiceInTransaction request onlinePickup now) before id after) :
    ∃ items row,
      Commits (getInvoiceItems request.input.orderSessionId request.input.orderItemIds) before.sales
        items before.sales ∧
      after.sales.invoices.find? id = some row ∧
      (row.Exact items ↔ ¬RoundsTwice (taxableAmount before.catalog request.input items)
        (request.input.taxRate.getD 0)) := by
  obtain ⟨issue⟩ := commits_createInvoiceInTransaction created
  have calls := DraftCalls.of_commits issue.drafted
  obtain ⟨-, row, found, issued, -⟩ := commits_issueInvoice issue.issue
  refine ⟨issue.draft.items, row, calls.read, by rw [issue.invoices_eq, found], ?_⟩
  have priced : ∀ item ∈ issue.draft.items, 0 ≤ item.priceAtTime := by
    obtain ⟨⟨condition, selected⟩, -⟩ := SalesSteps.commits_getInvoiceItems calls.read
    intro item inDraft
    rw [selected] at inDraft
    exact prices item (Table.mem_select.mp inDraft).1
  exact issued.exact_iff calls priced

end Issuing

section Samples

/-- The sample shop with stock and an open takeaway session of five cups at the price. -/
def ordered (price : Money) : Database :=
  (Database.sample.administer
    { Catalog.sample with
      menuItems := Catalog.sample.menuItems.update (fun _ => true) (fun row => { row with price })
        (fun _ => rfl) } .empty).performAll [
    (.inventory (.createItem 0 {
      name := "Coffee beans"
      stock := some 10000000
      initialUnitCost := some 100
      reorderPoint := none
      categoryId := 0
      unitId := 0 }), 1),
    (.order (.openSession none 0 none), 2),
    (.order (.addOrderItems 1
      [{ menuItemId := 0, quantity := 5, note := none, optionIds := [], quantity_pos := by decide }]
      0), 3)]

/-- An unpaid invoice of the open items with the tax rate. -/
def taxedAt (taxRate : Money) : CreateInvoiceRequest where
  employeeId := 0
  input := {
    orderSessionId := 1
    orderItemIds := none
    promotionId := none
    taxRate := some taxRate
    quoteFingerprint := none
    expectedTotal := none }
  paymentStatus := .unpaid
  paymentMethod := .cash
  amountTendered := none
  closeSessionAfterPayment := false

theorem reachable_ordered (price : Money) : Reachable (ordered price) :=
  (Reachable.sample.administer _ _).performAll _

/-- The sample shop also sells a croissant and has a promotion of 12.5 percent. -/
def promoted : Database :=
  (Database.sample.administer
    { Catalog.sample with
      menuItems := ⟨[{
        id := 0
        name := "Espresso"
        price := 3500000
        isAvailable := true
        deletedAt := none
        categoryId := 0
        kitchenStationId := none
        ingredients := []
        optionGroups := [] }, {
        id := 1
        name := "Croissant"
        price := 2849950
        isAvailable := true
        deletedAt := none
        categoryId := 0
        kitchenStationId := none
        ingredients := []
        optionGroups := [] }], by decide⟩
      promotions := ⟨[{
        id := 0
        name := "Breakfast"
        startDate := 0
        endDate := 100
        discountType := .percentage
        discountValue := 1250
        maxDiscount := some 5000000
        deletedAt := none }], by decide⟩ } .empty).performAll [
    (.order (.openSession none 0 none), 1),
    (.order (.addOrderItems 0
      [{ menuItemId := 0, quantity := 2, note := none, optionIds := [], quantity_pos := Nat.zero_lt_two },
        { menuItemId := 1, quantity := 3, note := none, optionIds := [],
          quantity_pos := by decide }] 0), 2)]

/-- The promotion is applied to the open items, with a tax of 8.25 percent. -/
def breakfast : CreateInvoiceRequest :=
  { taxedAt 825 with
    input := { (taxedAt 825).input with orderSessionId := 0, promotionId := some 0 } }

/-- Two espressos and three croissants, less 12.5 percent. -/
theorem createInvoiceInTransaction_exact_iff_promoted : ∃ items row,
    Commits (getInvoiceItems 0 none) promoted.sales items promoted.sales ∧
    (row : Invoice).discountAmount = 1943731 ∧ row.taxRate = 825 ∧ row.Exact items := by
  have prices : ∀ item ∈ promoted.sales.items, 0 ≤ item.priceAtTime := by
    have listed : promoted.sales.items.rows.all (0 ≤ ·.priceAtTime) = true := by decide +kernel
    intro item isItem
    exact of_decide_eq_true (List.all_eq_true.mp listed item isItem)
  have committed : ((createInvoiceInTransaction breakfast false 4) promoted).toOption.any
      (fun outcome => (outcome.2.sales.invoices.find? outcome.1).any
        fun row => row.discountAmount = 1943731 && row.taxRate = 825) = true := by decide +kernel
  obtain ⟨id, after, created, checked⟩ := exists_commits_of_any committed
  obtain ⟨items, row, read, found, exact_⟩ := createInvoiceInTransaction_exact_iff prices created
  obtain ⟨same, located, amounts⟩ := (Option.any_eq_true _ _).mp checked
  obtain rfl : row = same := Option.some.inj (found.symm.trans located)
  simp only [Bool.and_eq_true, decide_eq_true_eq] at amounts
  refine ⟨items, row, read, amounts.1, amounts.2, exact_.mpr ?_⟩
  obtain ⟨rfl, -⟩ := commits_findMany.mp read
  decide +kernel

/-- Five cups of 400000000000000.01 at 9.99 percent: the tax of 199800000000000.004995 is billed as
199800000000000.01. -/
theorem exists_invoice_not_exact : ∃ (before after : Database) (request : CreateInvoiceRequest)
    (id : Id) (items : List OrderItem) (row : Invoice),
    Reachable before ∧ (∀ item ∈ before.sales.items, 0 ≤ item.priceAtTime) ∧
    Commits (createInvoiceInTransaction request false 4) before id after ∧
    Commits (getInvoiceItems request.input.orderSessionId request.input.orderItemIds) before.sales
      items before.sales ∧
    after.sales.invoices.find? id = some row ∧
    row.taxAmount = 19980000000000001 ∧ ¬row.Exact items := by
  have prices : ∀ item ∈ (ordered 40000000000000001).sales.items, 0 ≤ item.priceAtTime := by
    have listed : (ordered 40000000000000001).sales.items.rows.all (0 ≤ ·.priceAtTime) = true := by
      decide +kernel
    intro item isItem
    exact of_decide_eq_true (List.all_eq_true.mp listed item isItem)
  have committed : ((createInvoiceInTransaction (taxedAt 999) false 4)
      (ordered 40000000000000001)).toOption.any
      (fun outcome => (outcome.2.sales.invoices.find? outcome.1).any
        fun row => row.taxAmount = 19980000000000001 && row.subTotal = 200000000000000005 &&
          row.discountAmount = 0 && row.taxRate = 999) = true := by decide +kernel
  obtain ⟨id, after, created, checked⟩ := exists_commits_of_any committed
  obtain ⟨row, found, amounts⟩ := (Option.any_eq_true _ _).mp checked
  simp only [Bool.and_eq_true, decide_eq_true_eq] at amounts
  obtain ⟨⟨⟨tax, subTotal⟩, discount⟩, rate⟩ := amounts
  refine ⟨_, after, taxedAt 999, id, _, row, reachable_ordered 40000000000000001, prices, created,
    commits_findMany.mpr ⟨rfl, rfl⟩, found, tax, fun exact_ => ?_⟩
  have rounded := exact_.taxAmount
  rw [tax, subTotal, discount, rate, roundHalfUp_product (by decide)] at rounded
  exact absurd rounded (by decide)

end Samples

end InvoicesService

end CoffeeShop
