import CoffeeShop.Store.Database

/-!
Open shifts, the cash ledger and the cash side of an invoice.
-/

namespace CoffeeShop

/-- `CashAmountSchema`. -/
abbrev CashAmount := { amount : Money // 0 ≤ amount }

/-- `PositiveCashAmountSchema`. -/
abbrev PositiveCashAmount := { amount : Money // 0 < amount }

structure OpenCashierShiftContext where
  id : Id
  fundId : Id

namespace CashierShiftLedger

open Transaction CashStore

def findOpenShiftId (employeeId : Id) : Tx CashStore Failure (Option Id) := do
  let shift ← findFirst cashierShift fun shift =>
    shift.employeeId = employeeId && shift.status = .opened
  pure (shift.map (·.id))

def requireOpenShift (employeeId : Id) : Tx CashStore Failure OpenCashierShiftContext := do
  let shift ← findFirstOrFail cashierShift
    (fun shift => shift.employeeId = employeeId && shift.status = .opened)
    (.conflictWithCode "CASHIER_SHIFT_REQUIRED" "An open cashier shift is required.")
  let invalid : Failure := .conflictWithCode "CASHIER_SHIFT_FUND_INVALID"
    "The open shift must use an active CASH fund."
  let fundId ← orFail shift.fundId invalid
  let held ← findUniqueOrFail fund fundId invalid
  require (held.deletedAt.isNone ∧ held.type = .cash) invalid
  pure { id := shift.id, fundId }

/-- `cashTransaction.create` with the checks of the table. -/
def createTransaction (row : CashTransaction) : Tx CashStore Failure Unit := do
  require (0 < row.amount) (.constraint "CashTransaction_amount_positive_check")
  let taken ← findFirst cashTransaction fun other =>
    other.invoiceId.isSome && other.invoiceId = row.invoiceId
  require taken.isNone (.constraint "CashTransaction_invoiceId_key")
  create cashTransaction row (.constraint "CashTransaction_pkey")

structure RecordCashInvoiceInput where
  shift : OpenCashierShiftContext
  invoiceId : Id
  employeeId : Id
  amount : Money

def invoiceEntry (input : RecordCashInvoiceInput) (id : Id) (now : Timestamp) :
    CashTransaction where
  id
  type := .income
  amount := input.amount
  transactionDate := now
  fundId := input.shift.fundId
  employeeId := input.employeeId
  shiftId := some input.shift.id
  invoiceId := some input.invoiceId

def recordCashInvoice (input : RecordCashInvoiceInput) (now : Timestamp) : Transact Unit := do
  let id ← freshId
  cashTx do
    createTransaction (invoiceEntry input id now)
    updateExpecting fund input.shift.fundId (fun _ => true)
      (fun row => { row with balance := row.balance + input.amount })
      (.notFound "Record to update not found.")

end CashierShiftLedger

end CoffeeShop
