import CoffeeShop.Invoices.Service

/-!
Cash refunds of paid cash invoices.
-/

namespace CoffeeShop

structure CreateCashRefundInput where
  expectedShiftId : Id
  amount : PositiveCashAmount
  reason : String
  idempotencyKey : String

namespace CashRefunds

open Transaction

/-- The cash transaction of an invoice. -/
def cashTransactionOf (cash : CashStore) (invoiceId : Id) : Option CashTransaction :=
  cash.transactions.first? fun row => row.invoiceId = some invoiceId

def refundedTotal (cash : CashStore) (invoiceId : Id) : Money :=
  cash.refunds.sumWhere (fun refund => refund.invoiceId = invoiceId) (·.amount)

/-- The checks on the invoice, its ledger row and its items. -/
def assertRefundable (database : Database) (invoice : Invoice) : Transact Unit := do
  require (invoice.paymentMethod = .cash ∧
      (invoice.paymentStatus = .paid ∨ invoice.paymentStatus = .partiallyRefunded))
    (.conflict "Only a paid cash invoice can be refunded.")
  require ((cashTransactionOf database.cash invoice.id).any fun row =>
      row.type = .income && row.amount = invoice.totalAmount)
    (.conflict "Cash payment ledger must be reconciled before refunding.")
  let items := database.sales.items.select fun item => item.invoiceId = some invoice.id
  require (items ≠ [] ∧ ∀ item ∈ items, item.serveStatus = .served)
    (.conflict "All invoiced items must be handed off before a cash refund.")

def refundEntry (input : CreateCashRefundInput) (employeeId : Id)
    (shift : OpenCashierShiftContext) (id : Id) (now : Timestamp) : CashTransaction where
  id
  type := .expense
  amount := input.amount.val
  transactionDate := now
  fundId := shift.fundId
  employeeId
  shiftId := some shift.id
  invoiceId := none

/-- The debit of the fund, its ledger row and the refund. -/
def postRefund (invoiceId employeeId : Id) (input : CreateCashRefundInput)
    (shift : OpenCashierShiftContext) (movementId refundId : Id) (now : Timestamp) :
    Tx CashStore Failure Unit := do
  let amount := input.amount.val
  updateExpecting CashStore.fund shift.fundId
    (fun row => row.deletedAt.isNone && amount ≤ row.balance)
    (fun row => { row with balance := row.balance - amount })
    (.conflict "Insufficient cash fund balance.")
  CashierShiftLedger.createTransaction (refundEntry input employeeId shift movementId now)
  Transaction.create CashStore.cashRefund {
    id := refundId
    amount
    reason := input.reason
    idempotencyKey := input.idempotencyKey
    completedAt := now
    invoiceId
    requestedById := employeeId
    cashTransactionId := movementId } (.constraint "CashRefund_pkey")

/-- The recorded refund is the requested one. -/
def isReplayOf (cash : CashStore) (invoiceId : Id) (input : CreateCashRefundInput)
    (replay : CashRefund) : Bool :=
  replay.invoiceId = invoiceId && replay.amount = input.amount.val &&
    replay.reason = input.reason &&
    (cash.transactions.find? replay.cashTransactionId).any
      (·.shiftId = some input.expectedShiftId)

def createRefund (invoiceId employeeId : Id) (input : CreateCashRefundInput) (now : Timestamp) :
    Transact Unit := do
  let database ← get
  let found ← salesTx (findUniqueOrFail SalesStore.invoice invoiceId
    (.notFound "Invoice not found."))
  assertRefundable database found
  let refundedAmount := refundedTotal database.cash invoiceId + input.amount
  require (refundedAmount ≤ found.totalAmount)
    (.conflict "Refund exceeds the remaining paid amount.")
  let shift ← cashTx (CashierShiftLedger.requireOpenShift employeeId)
  require (shift.id = input.expectedShiftId)
    (.conflictWithCode "CASHIER_SHIFT_CHANGED"
      "The reviewed cashier shift changed. Review the refund again.")
  let movementId ← freshId
  let refundId ← freshId
  cashTx (postRefund invoiceId employeeId input shift movementId refundId now)
  salesTx (updateExpecting SalesStore.invoice invoiceId
    (fun row => row.paymentStatus = found.paymentStatus)
    (fun row => { row with
      paymentStatus :=
        if refundedAmount = found.totalAmount then .refunded else .partiallyRefunded })
    (.conflict "Invoice payment state changed."))

def create (invoiceId employeeId : Id) (input : CreateCashRefundInput) (now : Timestamp) :
    Transact Unit := do
  assertActiveEmployee employeeId
  let database ← get
  let replay := database.cash.refunds.first? fun refund =>
    refund.requestedById = employeeId && refund.idempotencyKey = input.idempotencyKey
  -- The financial record retains replay protection after generic idempotency expires.
  ifSome replay
    (fun replay => require (isReplayOf database.cash invoiceId input replay)
      (.conflict "Idempotency key was used for a different cash refund."))
    (createRefund invoiceId employeeId input now)

end CashRefunds

end CoffeeShop
