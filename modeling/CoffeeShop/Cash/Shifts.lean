import CoffeeShop.Cash.Ledger

/-!
Cashier shifts: opening, movements, expense requests, reconciliation and closing.
-/

namespace CoffeeShop

structure OpenCashierShiftInput where
  fundId : Id
  startingCash : CashAmount

structure CreateCashMovementInput where
  expectedShiftId : Id
  type : CashFlowType
  amount : PositiveCashAmount
  description : String

structure CloseCashierShiftInput where
  expectedShiftId : Id
  reportedEndingCash : CashAmount
  closingNote : Option String

/-- What `calculateReconciliation` returns. -/
structure ShiftReconciliation where
  paidInvoiceCount : Nat
  cashSales : Money
  nonCashSales : Money
  totalSales : Money
  manualIncome : Money
  manualExpense : Money
  cashRefundAmount : Money
  actualEndingCash : Money
  deriving DecidableEq, Repr

/-- `PAID`, `PARTIALLY_REFUNDED` and `REFUNDED`. -/
def PaymentStatus.isSettled : PaymentStatus → Bool
  | .paid | .partiallyRefunded | .refunded => true
  | .unpaid | .voided => false

namespace CashierShifts

open Transaction CashStore CashierShiftLedger

def hasPendingHandover (cash : CashStore) (fundId : Id) : Bool :=
  (cash.handovers.first? fun handover =>
    handover.sourceFundId = fundId && handover.status = .pending).isSome

/-- `open`. -/
def openShift (employeeId : Id) (input : OpenCashierShiftInput) : Transact Unit := do
  assertActiveEmployee employeeId
  let id ← freshId
  cashTx do
    let missing : Failure := .notFound s!"Fund with ID {input.fundId} not found."
    let held ← findUniqueOrFail fund input.fundId missing
    require held.deletedAt.isNone missing
    require (held.type = .cash) (.conflict "Cashier shifts require a CASH fund.")
    let cash ← get
    require (!hasPendingHandover cash held.id)
      (.conflict "The fund has a pending cash handover and cannot open a new shift.")
    -- The partial unique indexes on the employee and on the fund of an open shift.
    let taken ← findFirst cashierShift fun shift => shift.status = .opened &&
      (shift.employeeId = employeeId || shift.fundId = some held.id)
    require taken.isNone
      (.conflict "The employee or cash fund already has an open shift.")
    create cashierShift {
      id
      closedAt := none
      startingCash := input.startingCash
      expectedStartingCash := held.balance
      openingDifference := input.startingCash - held.balance
      reportedEndingCash := none
      actualEndingCash := none
      closingNote := none
      status := .opened
      employeeId
      fundId := some held.id } (.constraint "CashierShift_pkey")

structure MovementInput where
  shift : OpenCashierShiftContext
  employeeId : Id
  type : CashFlowType
  amount : Money

/-- An expense needs the balance to cover it. -/
def moveBalance (input : MovementInput) : Tx CashStore Failure Unit :=
  let insufficient : Failure := .conflict "Insufficient fund balance."
  match input.type with
  | .income =>
      updateExpecting fund input.shift.fundId (fun row => row.deletedAt.isNone)
        (fun row => { row with balance := row.balance + input.amount }) insufficient
  | .expense =>
      updateExpecting fund input.shift.fundId
        (fun row => row.deletedAt.isNone && input.amount ≤ row.balance)
        (fun row => { row with balance := row.balance - input.amount }) insufficient

def movementEntry (input : MovementInput) (id : Id) (now : Timestamp) : CashTransaction where
  id
  type := input.type
  amount := input.amount
  transactionDate := now
  fundId := input.shift.fundId
  employeeId := input.employeeId
  shiftId := some input.shift.id
  invoiceId := none

/-- Returns the identifier of the movement. -/
def postMovement (input : MovementInput) (now : Timestamp) : Transact Id := do
  let id ← freshId
  cashTx do
    moveBalance input
    createTransaction (movementEntry input id now)
  pure id

/-- An expense of at least the threshold waits for approval. -/
def needsApproval (settings : CashControlSettings) (type : CashFlowType) (amount : Money) : Bool :=
  type = .expense && settings.expenseApprovalThreshold ≤ amount

def addMovement (employeeId : Id) (input : CreateCashMovementInput) (now : Timestamp) :
    Transact Unit := do
  assertActiveEmployee employeeId
  let shift ← cashTx (requireOpenShift employeeId)
  require (shift.id = input.expectedShiftId)
    (.conflictWithCode "CASHIER_SHIFT_CHANGED"
      "The cashier shift changed. Reload before creating a cash movement.")
  let catalog ← readCatalog
  if needsApproval catalog.settings input.type input.amount then do
    let id ← freshId
    cashTx (create cashExpenseRequest {
      id
      amount := input.amount
      description := input.description
      status := .pending
      resolutionNote := none
      resolvedAt := none
      requestedById := employeeId
      resolvedById := none
      shiftId := shift.id
      fundId := shift.fundId
      cashTransactionId := none } (.constraint "CashExpenseRequest_pkey"))
  else do
    let _ ← postMovement { shift, employeeId, type := input.type, amount := input.amount } now

def findExpenseRequestOrThrow (id : Id) : Tx CashStore Failure CashExpenseRequest :=
  findUniqueOrFail cashExpenseRequest id
    (.notFound s!"Cash expense request with ID {id} not found.")

def alreadyResolved : Failure := .conflict "Expense request has already been resolved."

/-- The checks of `approveExpenseRequest` before the movement is posted. -/
def reviewExpenseRequest (id employeeId : Id) : Tx CashStore Failure CashExpenseRequest := do
  let request ← findExpenseRequestOrThrow id
  require (request.status = .pending) alreadyResolved
  require (request.requestedById ≠ employeeId)
    (.forbidden "Employees cannot approve their own expense requests.")
  let detached : Failure :=
    .conflict "The expense request is no longer attached to an active cash shift."
  let shift ← findUniqueOrFail cashierShift request.shiftId detached
  let held ← findUniqueOrFail fund request.fundId detached
  require (shift.status = .opened ∧ shift.fundId = some request.fundId ∧
    held.deletedAt.isNone ∧ held.type = .cash) detached
  pure request

def approveExpenseRequest (id employeeId : Id) (note : Option String) (now : Timestamp) :
    Transact Unit := do
  assertActiveEmployee employeeId
  let request ← cashTx (reviewExpenseRequest id employeeId)
  let movementId ← postMovement {
    shift := { id := request.shiftId, fundId := request.fundId }
    employeeId := request.requestedById
    type := .expense
    amount := request.amount } now
  cashTx (updateExpecting cashExpenseRequest id (fun row => row.status = .pending)
    (fun row => { row with
      status := .approved
      resolvedAt := some now
      resolvedById := some employeeId
      resolutionNote := note
      cashTransactionId := some movementId }) alreadyResolved)

structure ResolveExpenseRequestInput where
  id : Id
  employeeId : Id
  status : CashExpenseRequestStatus
  note : String
  requireDifferentEmployee : Bool := false
  requireRequester : Bool := false

def resolveExpenseRequest (input : ResolveExpenseRequestInput) (now : Timestamp) :
    Transact Unit := do
  assertActiveEmployee input.employeeId
  cashTx do
    let request ← findExpenseRequestOrThrow input.id
    require (request.status = .pending) alreadyResolved
    require (¬(input.requireDifferentEmployee ∧ request.requestedById = input.employeeId))
      (.forbidden "Employees cannot review their own expense requests.")
    require (¬(input.requireRequester ∧ request.requestedById ≠ input.employeeId))
      (.forbidden "Only the requester can cancel this expense request.")
    updateExpecting cashExpenseRequest input.id (fun row => row.status = .pending)
      (fun row => { row with
        status := input.status
        resolvedAt := some now
        resolvedById := some input.employeeId
        resolutionNote := some input.note }) alreadyResolved

def rejectExpenseRequest (id employeeId : Id) (reason : String) (now : Timestamp) :
    Transact Unit :=
  resolveExpenseRequest {
    id, employeeId, status := .rejected, note := reason, requireDifferentEmployee := true } now

def cancelExpenseRequest (id employeeId : Id) (now : Timestamp) : Transact Unit :=
  resolveExpenseRequest {
    id, employeeId, status := .cancelled, note := "Cancelled by requester"
    requireRequester := true } now

/-- The invoices that the reconciliation of a shift counts. -/
def countsFor (shiftId : Id) (invoice : Invoice) : Bool :=
  invoice.shiftId = some shiftId && invoice.paymentStatus.isSettled

/-- The ledger row behind a cash refund. -/
def isCashRefund (cash : CashStore) (transactionId : Id) : Bool :=
  (cash.refunds.first? fun refund => refund.cashTransactionId = transactionId).isSome

/-- The manual movements of a shift: neither an invoice nor a refund. -/
def isMovement (cash : CashStore) (shiftId : Id) (type : CashFlowType) (row : CashTransaction) :
    Bool :=
  row.shiftId = some shiftId && row.invoiceId.isNone && !isCashRefund cash row.id &&
    row.type = type

/-- The `_sum` of a group, which the database adds up without rounding. -/
def groupTotal (sales : SalesStore) (shiftId : Id) (method : PaymentMethod) : Money :=
  sales.invoices.sumWhere
    (fun invoice => countsFor shiftId invoice && invoice.paymentMethod = method) (·.totalAmount)

def cashSales (sales : SalesStore) (shiftId : Id) : Money := groupTotal sales shiftId .cash

def manualTotal (cash : CashStore) (shiftId : Id) (type : CashFlowType) : Money :=
  cash.transactions.sumWhere (isMovement cash shiftId type) (·.amount)

def cashRefundAmount (cash : CashStore) (shiftId : Id) : Money :=
  cash.refunds.sumWhere (fun refund =>
    (cash.transactions.find? refund.cashTransactionId).any (·.shiftId = some shiftId)) (·.amount)

/-- The ending cash of the sums.  The sales and the movements are added to zero first. -/
def endingCash (expectedStartingCash cashSales manualIncome manualExpense cashRefundAmount : Money) :
    Money :=
  decimalMinus
    (decimalMinus
      (decimalPlus (decimalPlus expectedStartingCash (decimalPlus 0 cashSales))
        (decimalPlus 0 manualIncome))
      (decimalPlus 0 manualExpense))
    cashRefundAmount

/-- The groups of `groupBy` come in no particular order; here they come as their methods do. -/
def calculateReconciliation (database : Database) (shift : CashierShift) : ShiftReconciliation :=
  let counted := database.sales.invoices.select (countsFor shift.id)
  let group := groupTotal database.sales shift.id
  let refunded := database.payments.refunds.sumWhere (fun refund => refund.status = .succeeded &&
    (database.payments.attempts.find? refund.paymentAttemptId).any (·.shiftId = shift.id))
    (·.amount)
  let cash := cashSales database.sales shift.id
  let income := manualTotal database.cash shift.id .income
  let expense := manualTotal database.cash shift.id .expense
  let refunds := cashRefundAmount database.cash shift.id
  { paidInvoiceCount := counted.length
    cashSales := decimalPlus 0 cash
    nonCashSales := decimalMinus ([group .card, group .transfer].foldl decimalPlus 0) refunded
    totalSales :=
      decimalMinus ([group .cash, group .card, group .transfer].foldl decimalPlus 0) refunded
    manualIncome := decimalPlus 0 income
    manualExpense := decimalPlus 0 expense
    cashRefundAmount := refunds
    actualEndingCash := endingCash shift.expectedStartingCash cash income expense refunds }

/-- A difference of at least the threshold needs a closing note. -/
def needsClosingNote (settings : CashControlSettings) (difference : Money) : Bool :=
  difference ≠ 0 && settings.shiftDiscrepancyNoteThreshold ≤ difference.natAbs

def close (employeeId : Id) (input : CloseCashierShiftInput) (now : Timestamp) :
    Transact Unit := do
  assertActiveEmployee employeeId
  let shift ← cashTx (findFirstOrFail cashierShift
    (fun shift => shift.id = input.expectedShiftId && shift.employeeId = employeeId &&
      shift.status = .opened)
    (.conflictWithCode "CASHIER_SHIFT_CHANGED"
      "The cashier shift changed or is already closed. Reload before retrying."))
  let database ← get
  require ((database.cash.expenseRequests.count fun request =>
      request.shiftId = shift.id && request.status = .pending) = 0)
    (.conflict "Cannot close a shift with pending expense requests.")
  require ((database.payments.attempts.count fun attempt =>
      attempt.shiftId = shift.id && attempt.status.isUnresolved) = 0)
    (.conflict "Cannot close a shift with unresolved online payments.")
  require ((database.sales.sessions.count fun session =>
      session.shiftId = some shift.id && session.sessionStatus = .active) = 0)
    (.conflict "Cannot close a shift with active order sessions.")
  let reconciliation := calculateReconciliation database shift
  let difference := decimalMinus input.reportedEndingCash reconciliation.actualEndingCash
  require (¬(needsClosingNote database.catalog.settings difference ∧ input.closingNote.isNone))
    (.badRequest "A closing note is required for this cash discrepancy.")
  cashTx (updateExpecting cashierShift shift.id (fun row => row.status = .opened)
    (fun row => { row with
      status := .closed
      closedAt := some now
      reportedEndingCash := some input.reportedEndingCash
      actualEndingCash := some reconciliation.actualEndingCash
      closingNote := input.closingNote })
    (.conflict "Cashier shift has already been closed."))

end CashierShifts

end CoffeeShop
