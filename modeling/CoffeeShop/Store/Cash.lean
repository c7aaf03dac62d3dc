import CoffeeShop.Store.Basic

/-!
Funds, cashier shifts, the cash ledger and hand-overs.
-/

namespace CoffeeShop

inductive FundType where
  | cash
  | bank
  | other
  deriving DecidableEq, Repr

structure Fund where
  id : Id
  name : String
  balance : Money
  type : FundType
  deletedAt : Option Timestamp
  /-- `openingBalance` of `CreateFundDto`, the first value of `balance`. -/
  openingBalance : Money

inductive ShiftStatus where
  | opened
  | closed
  deriving DecidableEq, Repr

structure CashierShift where
  id : Id
  closedAt : Option Timestamp
  startingCash : Money
  expectedStartingCash : Money
  openingDifference : Money
  reportedEndingCash : Option Money
  actualEndingCash : Option Money
  closingNote : Option String
  status : ShiftStatus
  employeeId : Id
  fundId : Option Id

inductive CashFlowType where
  | income
  | expense
  deriving DecidableEq, Repr

/-- The amount as the fund's balance sees it. -/
def CashFlowType.signed (type : CashFlowType) (amount : Money) : Money :=
  match type with
  | .income => amount
  | .expense => -amount

structure CashTransaction where
  id : Id
  type : CashFlowType
  amount : Money
  transactionDate : Timestamp
  fundId : Id
  employeeId : Id
  shiftId : Option Id
  invoiceId : Option Id

inductive CashExpenseRequestStatus where
  | pending
  | approved
  | rejected
  | cancelled
  deriving DecidableEq, Repr

structure CashExpenseRequest where
  id : Id
  amount : Money
  description : String
  status : CashExpenseRequestStatus
  resolutionNote : Option String
  resolvedAt : Option Timestamp
  requestedById : Id
  resolvedById : Option Id
  shiftId : Id
  fundId : Id
  cashTransactionId : Option Id

inductive CashHandoverStatus where
  | pending
  | approved
  | rejected
  | cancelled
  deriving DecidableEq, Repr

inductive CashHandoverSettlementStatus where
  | notRequired
  | pending
  | settled
  deriving DecidableEq, Repr

/-- The amounts of a hand-over with `CashHandover_amounts_check`. -/
structure HandoverAmounts where
  expectedCash : Money
  countedCash : Money
  retainedCash : Money
  retained_nonneg : 0 ≤ retainedCash
  retained_lt_counted : retainedCash < countedCash

namespace HandoverAmounts

def varianceAmount (amounts : HandoverAmounts) : Money :=
  amounts.countedCash - amounts.expectedCash

def transferAmount (amounts : HandoverAmounts) : Money :=
  amounts.countedCash - amounts.retainedCash

end HandoverAmounts

structure CashHandover where
  id : Id
  amounts : HandoverAmounts
  note : Option String
  status : CashHandoverStatus
  settlementStatus : CashHandoverSettlementStatus
  resolutionNote : Option String
  resolvedAt : Option Timestamp
  settlementDueAt : Option Timestamp
  settledAt : Option Timestamp
  bankReference : Option String
  evidenceReference : Option String
  requestedById : Id
  resolvedById : Option Id
  settledById : Option Id
  shiftId : Id
  sourceFundId : Id
  destinationFundId : Id
  sourceTransactionId : Option Id
  destinationTransactionId : Option Id
  varianceTransactionId : Option Id

structure CashRefund where
  id : Id
  amount : Money
  reason : String
  idempotencyKey : String
  completedAt : Timestamp
  invoiceId : Id
  requestedById : Id
  cashTransactionId : Id

/-- The statement history of a fund, as far as the cash services read it. -/
structure BankStatementImport where
  id : Id
  fundId : Id

/-- The tables of the cashier services. -/
structure CashStore where
  funds : Table Fund.id
  shifts : Table CashierShift.id
  transactions : Table CashTransaction.id
  expenseRequests : Table CashExpenseRequest.id
  handovers : Table CashHandover.id
  refunds : Table CashRefund.id
  statementImports : Table BankStatementImport.id

namespace CashStore

open Transaction

def empty : CashStore where
  funds := .empty
  shifts := .empty
  transactions := .empty
  expenseRequests := .empty
  handovers := .empty
  refunds := .empty
  statementImports := .empty

@[simps] def fund : Part CashStore (Table Fund.id) where
  get := funds
  set value store := { store with funds := value }
  get_set _ _ := rfl

@[simps] def cashierShift : Part CashStore (Table CashierShift.id) where
  get := shifts
  set value store := { store with shifts := value }
  get_set _ _ := rfl

@[simps] def cashTransaction : Part CashStore (Table CashTransaction.id) where
  get := transactions
  set value store := { store with transactions := value }
  get_set _ _ := rfl

@[simps] def cashExpenseRequest : Part CashStore (Table CashExpenseRequest.id) where
  get := expenseRequests
  set value store := { store with expenseRequests := value }
  get_set _ _ := rfl

@[simps] def cashHandover : Part CashStore (Table CashHandover.id) where
  get := handovers
  set value store := { store with handovers := value }
  get_set _ _ := rfl

@[simps] def cashRefund : Part CashStore (Table CashRefund.id) where
  get := refunds
  set value store := { store with refunds := value }
  get_set _ _ := rfl

@[simps] def bankStatementImport : Part CashStore (Table BankStatementImport.id) where
  get := statementImports
  set value store := { store with statementImports := value }
  get_set _ _ := rfl

end CashStore

end CoffeeShop
