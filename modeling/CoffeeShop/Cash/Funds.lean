import CoffeeShop.Cash.Ledger

/-!
Funds and the bank statements that refer to them.
-/

namespace CoffeeShop

structure CreateFundInput where
  name : String
  type : FundType
  openingBalance : CashAmount

structure UpdateFundInput where
  name : Option String
  type : Option FundType

namespace FundsService

open Transaction CashStore

def nameConflict : Failure := .conflict "An active fund with this name exists."

/-- `Fund_active_name_unique_idx`. -/
def assertNameAvailable (name : String) (excludeId : Option Id) : Tx CashStore Failure Unit := do
  let taken ← findFirst fund fun row => row.deletedAt.isNone && excludeId ≠ some row.id &&
    row.name.trimAscii.toString.toLower = name.trimAscii.toString.toLower
  require taken.isNone nameConflict

def findActive (id : Id) : Tx CashStore Failure Fund := do
  let missing : Failure := .notFound s!"Fund with ID {id} not found."
  let existing ← findUniqueOrFail fund id missing
  require existing.deletedAt.isNone missing
  pure existing

def isUsedByPendingHandover (cash : CashStore) (id : Id) : Bool :=
  (cash.handovers.first? fun handover =>
    (handover.status = .pending || handover.settlementStatus = .pending) &&
      (handover.sourceFundId = id || handover.destinationFundId = id)).isSome

def isUsedByOpenShift (cash : CashStore) (id : Id) : Bool :=
  (cash.shifts.first? fun shift => shift.fundId = some id && shift.status = .opened).isSome

def create (employeeId : Id) (input : CreateFundInput) : Transact Unit := do
  assertActiveEmployee employeeId
  let id ← freshId
  cashTx do
    assertNameAvailable input.name none
    Transaction.create fund {
      id
      name := input.name
      balance := input.openingBalance
      type := input.type
      deletedAt := none
      openingBalance := input.openingBalance } (.constraint "Fund_pkey")

/-- What `update` checks before it changes the type. -/
def assertTypeChangeable (id : Id) : Tx CashStore Failure Unit := do
  let cash ← get
  require (cash.statementImports.first? fun row => row.fundId = id).isNone
    (.conflict "Cannot change the type of a fund with bank statement history.")
  require (!isUsedByPendingHandover cash id)
    (.conflict "Cannot change the type of a fund used by a pending handover.")
  require (!isUsedByOpenShift cash id)
    (.conflict "Cannot change the type of a fund used by an open shift.")

def update (id employeeId : Id) (input : UpdateFundInput) : Transact Unit := do
  assertActiveEmployee employeeId
  cashTx do
    let existing ← findActive id
    when (input.type.getD existing.type ≠ existing.type) (assertTypeChangeable id)
    assertNameAvailable (input.name.getD existing.name) (some id)
    updateExpecting fund id (fun _ => true)
      (fun row => { row with
        name := input.name.getD row.name
        type := input.type.getD row.type }) (.notFound "Record to update not found.")

def remove (id employeeId : Id) (now : Timestamp) : Transact Unit := do
  assertActiveEmployee employeeId
  cashTx do
    let existing ← findActive id
    require (existing.balance = 0) (.conflict "A non-empty fund cannot be deleted.")
    let cash ← get
    require (!isUsedByOpenShift cash id)
      (.conflict "A fund with an open shift cannot be deleted.")
    require (!isUsedByPendingHandover cash id)
      (.conflict "A fund used by a pending handover cannot be deleted.")
    updateExpecting fund id (fun _ => true) (fun row => { row with deletedAt := some now })
      (.notFound "Record to update not found.")

end FundsService

namespace BankReconciliation

open Transaction CashStore

/-- The fund that `createImport` looks for before its transaction. -/
def findBankFund (fundId : Id) : Tx CashStore Failure Unit := do
  let missing : Failure := .notFound s!"Active bank fund with ID {fundId} not found."
  let bank ← findUniqueOrFail fund fundId missing
  require (bank.type = .bank ∧ bank.deletedAt.isNone) missing

/-- The transaction of `createImport` up to the statement row; its entries move no money.  By then
the fund may have changed, but it is there. -/
def createImport (fundId : Id) : Transact Unit := do
  let id ← freshId
  cashTx do
    let _ ← findUniqueOrFail fund fundId (.internalServerError "Foreign key constraint violated")
    create bankStatementImport { id, fundId } (.constraint "BankStatementImport_pkey")

end BankReconciliation

end CoffeeShop
