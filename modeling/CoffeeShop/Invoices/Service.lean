import CoffeeShop.Cash.Ledger
import CoffeeShop.Invoices.Calculation
import CoffeeShop.Orders.Items
import Mathlib.Data.List.Sort

/-!
Invoices: issue, checkout, later payment, void and online completion.
-/

namespace CoffeeShop

structure CreateInvoiceInput where
  orderSessionId : Id
  orderItemIds : Option (List Id)
  promotionId : Option Id
  taxRate : Option Money
  quoteFingerprint : Option InvoiceQuote
  expectedTotal : Option Money

structure CheckoutInvoiceInput extends CreateInvoiceInput where
  paymentMethod : PaymentMethod
  amountTendered : Option Money
  closeSessionAfterPayment : Bool

structure UpdateInvoicePaymentInput where
  paymentMethod : Option PaymentMethod
  amountTendered : Option Money
  closeSessionAfterPayment : Bool

namespace InvoiceNumberService

open Transaction

/-- The calendar day of the prefix. -/
def dayOf (now : Timestamp) : Nat := now / (24 * 60 * 60 * 1000)

/-- The number after the day's highest.  Below a million invoices a day the order of the
texts is the order of the numbers. -/
def generate (now : Timestamp) : Tx SalesStore Failure InvoiceNumber := do
  let sales ← get
  let sameDay := sales.invoices.select fun invoice => invoice.invoiceNumber.day = dayOf now
  pure {
    day := dayOf now
    sequence := (sameDay.map (·.invoiceNumber.sequence)).foldl max 0 + 1 }

end InvoiceNumberService

namespace InvoicesService

open Transaction SalesStore

def createInvoiceSnapshot (catalog : Catalog) (table : Option DiningTable)
    (issuedByName : String) (promotionName : Option String) (items : List OrderItem)
    (source : SnapshotSource) : InvoiceDocumentSnapshot where
  source
  tableId := table.map (·.id)
  tableName := table.map (·.name)
  issuedByName
  promotionName
  items := items.map fun item => {
    orderItemId := item.id
    menuItemId := item.menuItemId
    name := KitchenRouting.menuItemName catalog item.menuItemId
    quantity := item.quantity
    unitPrice := item.priceAtTime
    note := item.note
    selectedOptions := item.selectedOptions }

def employeeName (catalog : Catalog) (employeeId : Id) : String :=
  ((catalog.employees.find? employeeId).map (·.fullName)).getD ""

def assertInvoiceIsUnpaid (row : Invoice) : Tx SalesStore Failure Unit :=
  require (row.paymentStatus = .unpaid) (.badRequest "Only unpaid invoices can be changed.")

/-- `assertPosOrderMutationAllowed`. -/
def assertPosOrderMutationAllowed (orderSessionId : Id) : Tx SalesStore Failure Unit := do
  let sales ← get
  require (sales.onlineRequestOf orderSessionId).isNone
    (.conflictWithCode "ONLINE_ORDER_PICKUP_REQUIRED"
      "Manage this online order through online order management.")

def assertNoUnresolvedOnlinePayment (invoiceId : Id) : Transact Unit := do
  let unresolved ← paymentTx (findFirst PaymentStore.paymentAttempt fun attempt =>
    attempt.invoiceId = invoiceId && attempt.status.isUnresolved)
  require unresolved.isNone (.conflict "Invoice has an unresolved online payment attempt.")

def isBillable (item : OrderItem) : Bool :=
  item.serveStatus ≠ .cancelled && !item.isPaid && item.invoiceId.isNone

/-- The named items of the session, or all that are billable. -/
def getInvoiceItems (orderSessionId : Id) (orderItemIds : Option (List Id)) :
    Tx SalesStore Failure (List OrderItem) :=
  match orderItemIds with
  | some ids => do
      require ids.Nodup (.badRequest "Duplicate order item IDs are not allowed.")
      let items ← findMany orderItem fun item =>
        item.orderSessionId = orderSessionId && item.id ∈ ids
      require (items.length = ids.length)
        (.badRequest "One or more order items do not belong to this order session.")
      pure items
  | none => findMany orderItem fun item => item.orderSessionId = orderSessionId && isBillable item

def assertInvoiceItemsAreBillable (items : List OrderItem) : Tx SalesStore Failure Unit := do
  require (items ≠ []) (.badRequest "No billable order items found.")
  forEach items fun item => require (isBillable item)
    (.badRequest s!"Order item {item.id} cannot be invoiced.")

def quoteOf (input : CreateInvoiceInput) (session : OrderSession) (items : List OrderItem)
    (calculation : InvoiceCalculation) : InvoiceQuote where
  orderSessionId := input.orderSessionId
  tableId := session.tableId
  items := (items.insertionSort fun left right => left.id ≤ right.id).map fun item =>
    (item.id, item.quantity, item.priceAtTime)
  promotionId := input.promotionId
  subTotal := calculation.subTotal
  discountAmount := calculation.discountAmount
  taxRate := calculation.taxRate
  taxAmount := calculation.taxAmount
  totalAmount := calculation.totalAmount

def closeSessionIfFullyPaid (session : OrderSession) : Tx SalesStore Failure Unit :=
  -- Payment does not establish that dine-in guests have left the table.
  if session.tableId.isSome || session.sessionStatus ≠ .active then pure () else do
    let remaining ← findMany orderItem fun item => item.orderSessionId = session.id &&
      item.serveStatus ≠ .cancelled && !item.isPaid
    if 0 < remaining.length then pure () else
      updateExpecting orderSession session.id (fun row => row.sessionStatus = .active)
        (fun row => { row with sessionStatus := .completed })
        (.conflict ("Order session was changed by another operation. " ++
          "Please refresh and try again."))

def reserveInvoiceStock (invoiceId : Id) (now : Timestamp) : Transact Unit :=
  InventoryConsumption.reservePendingItems (fun item => item.invoiceId = some invoiceId) now

structure CreateInvoiceRequest where
  employeeId : Id
  input : CreateInvoiceInput
  paymentStatus : PaymentStatus
  paymentMethod : PaymentMethod
  amountTendered : Option Money
  closeSessionAfterPayment : Bool

/-- What the checks of `createInvoiceInTransaction` establish. -/
structure InvoiceDraft where
  session : OrderSession
  items : List OrderItem
  promotion : Option Promotion
  calculation : InvoiceCalculation

/-- The promotion, if one is named, and the amount it takes off. -/
def resolveDiscount (catalog : Catalog) (promotionId : Option Id) (subTotal : Money)
    (now : Timestamp) : Tx SalesStore Failure (Option Promotion × Money) :=
  match promotionId with
  | some promotionId => do
      let (promotion, amount) ←
        PromotionCalculator.calculateDiscount catalog promotionId subTotal now
      pure (some promotion, amount)
  | none => pure (none, 0)

/-- The items, the amounts and the comparison with the confirmed quote. -/
def draftInvoice (request : CreateInvoiceRequest) (catalog : Catalog) (session : OrderSession)
    (now : Timestamp) : Tx SalesStore Failure InvoiceDraft := do
  let input := request.input
  let items ← getInvoiceItems input.orderSessionId input.orderItemIds
  assertInvoiceItemsAreBillable items
  let subTotal := calculateSubTotal items
  let discount ← resolveDiscount catalog input.promotionId subTotal now
  let calculation ← calculateInvoice {
    subTotal
    discountAmount := discount.2
    taxRate := input.taxRate.getD 0
    paymentStatus := request.paymentStatus
    paymentMethod := request.paymentMethod
    amountTendered := request.amountTendered }
  require (input.quoteFingerprint.all (· = quoteOf input session items calculation) ∧
      input.expectedTotal.all (calculation.totalAmount = ·))
    (.conflictWithCode "INVOICE_QUOTE_CHANGED"
      ("Invoice quote changed. " ++
        "Review the items and total before confirming payment."))
  when (request.paymentStatus = .paid) (assertPaidPaymentAmount request.paymentMethod
    calculation.amountTendered calculation.totalAmount)
  pure { session, items, promotion := discount.1, calculation }

/-- `quoteInvoiceInTransaction`: the draft of an unpaid invoice that nobody has confirmed. -/
def quoteInvoiceInTransaction (employeeId : Id) (input : CreateInvoiceInput) (now : Timestamp) :
    Transact InvoiceDraft := do
  assertActiveEmployeePolicy employeeId
  let session ← salesTx (findUniqueOrFail orderSession input.orderSessionId
    (.notFound "Order session not found."))
  salesTx (assertPosOrderMutationAllowed session.id)
  require (session.sessionStatus = .active)
    (.badRequest "Cannot create invoice for an inactive session.")
  let catalog ← readCatalog
  salesTx (draftInvoice {
    employeeId
    input := { input with quoteFingerprint := none, expectedTotal := none }
    paymentStatus := .unpaid
    paymentMethod := .cash
    amountTendered := none
    closeSessionAfterPayment := false } catalog session now)

/-- The amount fits into a `DECIMAL(18, 2)` column. -/
def fitsColumn (amount : Money) : Bool := amount.natAbs < 1000000000000000000

def amountsOf (row : Invoice) : List Money :=
  [row.subTotal, row.discountAmount, row.taxAmount, row.totalAmount] ++
    row.amountTendered.toList ++ row.changeAmount.toList

/-- `invoice.create` with the ranges of the columns and the checks of the table. -/
def insertInvoice (row : Invoice) : Tx SalesStore Failure Unit := do
  require ((amountsOf row).all fitsColumn) (.constraint "numeric field overflow")
  require (∀ amount ∈ amountsOf row, 0 ≤ amount)
    (.constraint "Invoice_amounts_non_negative_check")
  require (row.discountAmount ≤ row.subTotal)
    (.constraint "Invoice_discount_not_above_subtotal_check")
  create invoice row (.constraint "Invoice_pkey")

/-- Insert the invoice and link its items. -/
def issueInvoice (request : CreateInvoiceRequest) (catalog : Catalog) (draft : InvoiceDraft)
    (id : Id) (shiftId : Option Id) (now : Timestamp) : Tx SalesStore Failure Unit := do
  let sales ← get
  let invoiceNumber ← InvoiceNumberService.generate now
  insertInvoice {
    id
    invoiceNumber
    subTotal := draft.calculation.subTotal
    discountAmount := draft.calculation.discountAmount
    totalAmount := draft.calculation.totalAmount
    amountTendered := draft.calculation.amountTendered
    changeAmount := draft.calculation.changeAmount
    paymentMethod := request.paymentMethod
    paymentStatus := request.paymentStatus
    pickupCodeVersion := some 0
    pickupCodeIssuedAt := none
    taxAmount := draft.calculation.taxAmount
    taxRate := draft.calculation.taxRate
    documentSnapshot := some (createInvoiceSnapshot catalog
      (draft.session.tableId.bind sales.tables.find?) (employeeName catalog request.employeeId)
      (draft.promotion.map (·.name)) draft.items .issued)
    createdAt := now
    orderSessionId := draft.session.id
    employeeId := request.employeeId
    shiftId
    promotionId := draft.promotion.map (·.id) }
  let linked ← updateMany orderItem
    (fun item => item.id ∈ draft.items.map (·.id) && item.orderSessionId = draft.session.id &&
      isBillable item)
    (fun item => { item with
      invoiceId := some id
      isPaid := if request.paymentStatus = .paid then true else item.isPaid })
  require (linked = draft.items.length)
    (.conflict ("One or more order items were changed by another operation. " ++
      "Please refresh and try again."))

def requireShiftIfPaid (request : CreateInvoiceRequest) :
    Transact (Option OpenCashierShiftContext) :=
  if request.paymentStatus = .paid then do
    let shift ← cashTx (CashierShiftLedger.requireOpenShift request.employeeId)
    pure (some shift)
  else pure none

def createInvoiceInTransaction (request : CreateInvoiceRequest) (onlinePickup : Bool)
    (now : Timestamp) : Transact Id := do
  assertActiveEmployeePolicy request.employeeId
  let session ← salesTx (findUniqueOrFail orderSession request.input.orderSessionId
    (.notFound s!"Order session with ID {request.input.orderSessionId} not found."))
  require (session.sessionStatus = .active)
    (.badRequest "Cannot create invoice for an inactive session.")
  when (!onlinePickup) (salesTx (assertPosOrderMutationAllowed session.id))
  let shift ← requireShiftIfPaid request
  let catalog ← readCatalog
  let draft ← salesTx (draftInvoice request catalog session now)
  let id ← freshId
  salesTx (issueInvoice request catalog draft id (shift.map (·.id)) now)
  reserveInvoiceStock id now
  whenSome shift fun shift => when (request.paymentMethod = .cash)
    (CashierShiftLedger.recordCashInvoice {
      shift
      invoiceId := id
      employeeId := request.employeeId
      amount := draft.calculation.totalAmount } now)
  when (request.paymentStatus = .paid ∧ request.closeSessionAfterPayment)
    (salesTx (closeSessionIfFullyPaid session))
  pure id

def createInvoice (employeeId : Id) (input : CreateInvoiceInput) (now : Timestamp) :
    Transact Unit := do
  let _ ← createInvoiceInTransaction {
    employeeId
    input
    paymentStatus := .unpaid
    paymentMethod := .cash
    amountTendered := none
    closeSessionAfterPayment := false } false now

def checkoutInvoice (employeeId : Id) (input : CheckoutInvoiceInput) (now : Timestamp) :
    Transact Unit := do
  require (input.paymentMethod ≠ .transfer)
    (.badRequest "Online transfers must use a payment attempt.")
  let _ ← createInvoiceInTransaction {
    employeeId
    input := input.toCreateInvoiceInput
    paymentStatus := .paid
    paymentMethod := input.paymentMethod
    amountTendered := input.amountTendered
    closeSessionAfterPayment := input.closeSessionAfterPayment } false now

def checkoutOnlinePickupInTransaction (employeeId orderSessionId : Id) (amountTendered : Money)
    (now : Timestamp) : Transact Id :=
  createInvoiceInTransaction {
    employeeId
    input := {
      orderSessionId
      orderItemIds := none
      promotionId := none
      taxRate := none
      quoteFingerprint := none
      expectedTotal := none }
    paymentStatus := .paid
    paymentMethod := .cash
    amountTendered := some amountTendered
    closeSessionAfterPayment := true } true now

def findInvoice (id : Id) : Tx SalesStore Failure Invoice :=
  findUniqueOrFail invoice id (.notFound s!"Invoice with ID {id} not found.")

/-- `orderItem.updateMany` that ends every payment of an invoice. -/
def markItemsPaid (invoiceId : Id) : Tx SalesStore Failure Unit := do
  let _ ← updateMany orderItem (fun item => item.invoiceId = some invoiceId && !item.isPaid)
    (fun item => { item with isPaid := true })

/-- The payment method and the amount tendered, as `updatePayment` settles them. -/
def resolvePayment (existing : Invoice) (input : UpdateInvoicePaymentInput) :
    Tx SalesStore Failure (PaymentMethod × Option Money) := do
  let paymentMethod := input.paymentMethod.getD existing.paymentMethod
  require (paymentMethod ≠ .transfer)
    (.badRequest "Online transfers must be confirmed by the payment provider.")
  let amountTendered ←
    resolvePaidAmountTendered paymentMethod existing.totalAmount input.amountTendered
  assertPaidPaymentAmount paymentMethod amountTendered existing.totalAmount
  pure (paymentMethod, amountTendered)

def findSessionOf (row : Invoice) : Tx SalesStore Failure OrderSession :=
  findUniqueOrFail orderSession row.orderSessionId (.constraint "Invoice_orderSessionId_fkey")

def updatePayment (id employeeId : Id) (input : UpdateInvoicePaymentInput) (now : Timestamp) :
    Transact Unit := do
  assertActiveEmployeePolicy employeeId
  let existing ← salesTx (findInvoice id)
  let session ← salesTx (findSessionOf existing)
  salesTx (assertInvoiceIsUnpaid existing)
  salesTx (assertPosOrderMutationAllowed existing.orderSessionId)
  assertNoUnresolvedOnlinePayment id
  let payment ← salesTx (resolvePayment existing input)
  let paymentMethod := payment.1
  let amountTendered := payment.2
  let shift ← cashTx (CashierShiftLedger.requireOpenShift employeeId)
  salesTx do
    updateExpecting invoice id (fun _ => true)
      (fun row => { row with
        paymentStatus := .paid
        paymentMethod
        amountTendered
        changeAmount := some ((amountTendered.map (· - existing.totalAmount)).getD 0)
        employeeId
        shiftId := some shift.id }) (.notFound "Record to update not found.")
    markItemsPaid id
  reserveInvoiceStock id now
  when (paymentMethod = .cash) (CashierShiftLedger.recordCashInvoice {
    shift, invoiceId := id, employeeId, amount := existing.totalAmount } now)
  when input.closeSessionAfterPayment (salesTx (closeSessionIfFullyPaid session))

/-- The snapshot of an invoice that was issued before snapshots existed. -/
def legacySnapshot (catalog : Catalog) (sales : SalesStore) (existing : Invoice) :
    InvoiceDocumentSnapshot :=
  let table := (sales.sessions.find? existing.orderSessionId).bind fun session =>
    session.tableId.bind sales.tables.find?
  let promotion := existing.promotionId.bind catalog.promotions.find?
  createInvoiceSnapshot catalog table (employeeName catalog existing.employeeId)
    (promotion.map (·.name))
    (sales.items.select fun item => item.invoiceId = some existing.id) .legacyBackfill

def voidInvoice (id employeeId : Id) : Transact Unit := do
  assertActiveEmployeePolicy employeeId
  let existing ← salesTx (findInvoice id)
  salesTx (assertInvoiceIsUnpaid existing)
  assertNoUnresolvedOnlinePayment id
  let database ← get
  let snapshot := legacySnapshot database.catalog database.sales existing
  let pendingItems ← salesTx do
    updateExpecting invoice id (fun _ => true)
      (fun row => { row with
        paymentStatus := .voided
        documentSnapshot := row.documentSnapshot <|> some snapshot })
      (.notFound "Record to update not found.")
    let pendingItems ← findMany orderItem fun item =>
      item.invoiceId = some id && item.serveStatus = .pending
    let _ ← updateMany orderItem (fun item => item.invoiceId = some id && !item.isPaid)
      (fun item => { item with invoiceId := none, isPaid := false })
    pure pendingItems
  -- A legacy POS invoice does not own the accepted online order's commitment.
  when (database.sales.onlineRequestOf existing.orderSessionId).isNone
    (inventoryTx (InventoryConsumption.releaseReservations (pendingItems.map (·.id))))

structure CompleteOnlinePaymentInput where
  invoiceId : Id
  employeeId : Id
  shiftId : Id
  closeSessionAfterPayment : Bool

def completeOnlinePayment (input : CompleteOnlinePaymentInput) : Tx SalesStore Failure Unit := do
  let existing ← findInvoice input.invoiceId
  let session ← findSessionOf existing
  assertInvoiceIsUnpaid existing
  updateExpecting invoice existing.id (fun row => row.paymentStatus = .unpaid)
    (fun row => { row with
      paymentStatus := .paid
      paymentMethod := .transfer
      amountTendered := some existing.totalAmount
      changeAmount := some 0
      employeeId := input.employeeId
      shiftId := some input.shiftId })
    (.conflict "Invoice payment state changed during provider confirmation.")
  markItemsPaid existing.id
  when input.closeSessionAfterPayment (closeSessionIfFullyPaid session)

end InvoicesService

end CoffeeShop
