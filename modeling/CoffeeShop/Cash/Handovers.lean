import CoffeeShop.Cash.Ledger

/-!
Cash hand-overs between funds: request, approval, bank settlement.
-/

namespace CoffeeShop

structure CreateCashHandoverInput where
  shiftId : Id
  destinationFundId : Id
  retainedCash : CashAmount
  note : Option String

structure BankDeposit where
  bankReference : String
  evidenceReference : String

namespace CashHandovers

open Transaction CashStore CashierShiftLedger

def assertFundsHaveNoOpenShift (sourceFundId : Id) (destination : Fund) :
    Tx CashStore Failure Unit := do
  let openShift ← findFirst cashierShift fun shift => shift.status = .opened &&
    (shift.fundId = some sourceFundId ||
      (destination.type = .cash && shift.fundId = some destination.id))
  require openShift.isNone
    (.conflictWithCode "CASH_HANDOVER_FUND_BUSY"
      "Cash handover funds must not have an open cashier shift.")

/-- The amounts of a hand-over of the counted cash. -/
def computeAmounts (expectedCash countedCash : Money) (retainedCash : CashAmount) :
    Option HandoverAmounts :=
  if below : retainedCash.val < countedCash then
    some {
      expectedCash
      countedCash
      retainedCash := retainedCash.val
      retained_nonneg := retainedCash.property
      retained_lt_counted := below }
  else none

def create (employeeId : Id) (input : CreateCashHandoverInput) : Transact Unit := do
  assertActiveEmployee employeeId
  let id ← freshId
  cashTx do
    let shift ← findUniqueOrFail cashierShift input.shiftId
      (.notFound s!"Cashier shift with ID {input.shiftId} not found.")
    require (shift.employeeId = employeeId)
      (.forbidden "Only the cashier responsible for the shift can request its handover.")
    let unreconciled : Failure :=
      .conflict "Only a reconciled closed shift can be handed over."
    require (shift.status = .closed) unreconciled
    let sourceFundId ← orFail shift.fundId unreconciled
    let source ← findUniqueOrFail fund sourceFundId unreconciled
    let actualEndingCash ← orFail shift.actualEndingCash unreconciled
    let reportedEndingCash ← orFail shift.reportedEndingCash unreconciled
    require (source.deletedAt.isNone ∧ source.type = .cash)
      (.conflict "The source must be an active CASH fund.")
    require (sourceFundId ≠ input.destinationFundId)
      (.conflict "Source and destination funds must be different.")
    let missing : Failure :=
      .notFound s!"Destination fund with ID {input.destinationFundId} not found."
    let destination ← findUniqueOrFail fund input.destinationFundId missing
    require destination.deletedAt.isNone missing
    assertFundsHaveNoOpenShift sourceFundId destination
    require (source.balance = actualEndingCash)
      (.conflict "The source fund balance changed after the shift closed.")
    let amounts ← orFail (computeAmounts actualEndingCash reportedEndingCash input.retainedCash)
      (.conflict "Retained cash must be lower than the counted ending cash.")
    let taken ← findFirst cashHandover fun handover => handover.shiftId = shift.id &&
      (handover.status = .pending || handover.status = .approved)
    require taken.isNone
      (.conflict "This shift already has a pending or approved handover.")
    Transaction.create cashHandover {
      id
      amounts
      note := input.note
      status := .pending
      settlementStatus := .notRequired
      resolutionNote := none
      resolvedAt := none
      settlementDueAt := none
      settledAt := none
      bankReference := none
      evidenceReference := none
      requestedById := employeeId
      resolvedById := none
      settledById := none
      shiftId := shift.id
      sourceFundId
      destinationFundId := destination.id
      sourceTransactionId := none
      destinationTransactionId := none
      varianceTransactionId := none } (.constraint "CashHandover_pkey")

def findOrThrow (id : Id) : Tx CashStore Failure CashHandover :=
  findUniqueOrFail cashHandover id (.notFound s!"Cash handover with ID {id} not found.")

def assertPending (handover : CashHandover) : Tx CashStore Failure Unit :=
  require (handover.status = .pending) (.conflict "The cash handover is no longer pending.")

/-- A ledger row of a hand-over, which belongs to no shift. -/
def handoverEntry (fundId : Id) (type : CashFlowType) (amount : Money) (employeeId id : Id)
    (transactionDate : Timestamp) : CashTransaction where
  id
  type
  amount
  transactionDate
  fundId
  employeeId
  shiftId := none
  invoiceId := none

def postDestinationEntry (handover : CashHandover) (employeeId id : Id)
    (transactionDate : Timestamp) (expectedFundType : FundType) : Tx CashStore Failure Unit := do
  updateExpecting fund handover.destinationFundId
    (fun row => row.type = expectedFundType && row.deletedAt.isNone)
    (fun row => { row with balance := row.balance + handover.amounts.transferAmount })
    (.conflict "The destination fund is unavailable.")
  createTransaction (handoverEntry handover.destinationFundId .income
    handover.amounts.transferAmount employeeId id transactionDate)

/-- The checks of `approve`; returns the hand-over with its destination. -/
def reviewHandover (id employeeId : Id) : Tx CashStore Failure (CashHandover × Fund) := do
  let handover ← findOrThrow id
  assertPending handover
  require (handover.requestedById ≠ employeeId)
    (.forbidden "Employees cannot approve their own cash handovers.")
  let inactive : Failure :=
    .conflict "Both handover funds must remain active and the source must be CASH."
  let source ← findUniqueOrFail fund handover.sourceFundId inactive
  let destination ← findUniqueOrFail fund handover.destinationFundId inactive
  require (source.deletedAt.isNone ∧ source.type = .cash ∧ destination.deletedAt.isNone) inactive
  assertFundsHaveNoOpenShift handover.sourceFundId destination
  pure (handover, destination)

/-- The source fund keeps `retainedCash`; the ledger gets the variance and the transfer. -/
def postSourceEntries (handover : CashHandover) (employeeId varianceId sourceId : Id)
    (now : Timestamp) : Tx CashStore Failure Unit := do
  updateExpecting fund handover.sourceFundId
    (fun row => row.deletedAt.isNone && row.balance = handover.amounts.expectedCash)
    (fun row => { row with balance := handover.amounts.retainedCash })
    (.conflict "The source fund balance changed after the handover was requested.")
  when (handover.amounts.varianceAmount ≠ 0) (createTransaction
    (handoverEntry handover.sourceFundId
      (if handover.amounts.varianceAmount > 0 then .income else .expense)
      handover.amounts.varianceAmount.natAbs employeeId varianceId now))
  createTransaction (handoverEntry handover.sourceFundId .expense
    handover.amounts.transferAmount employeeId sourceId now)

def approve (id employeeId : Id) (note : Option String) (now : Timestamp) : Transact Unit := do
  assertActiveEmployee employeeId
  let catalog ← readCatalog
  let varianceId ← freshId
  let sourceId ← freshId
  let destinationId ← freshId
  cashTx do
    let (handover, destination) ← reviewHandover id employeeId
    postSourceEntries handover employeeId varianceId sourceId now
    let requiresSettlement := destination.type = .bank
    when (¬requiresSettlement)
      (postDestinationEntry handover employeeId destinationId now destination.type)
    updateExpecting cashHandover id (fun _ => true)
      (fun row => { row with
        status := .approved
        resolvedAt := some now
        resolvedById := some employeeId
        resolutionNote := note
        settlementStatus := if requiresSettlement then .pending else .notRequired
        settlementDueAt := if requiresSettlement then
          some (now + catalog.settings.handoverSettlementSlaHours * 60 * 60 * 1000) else none
        sourceTransactionId := some sourceId
        destinationTransactionId := if requiresSettlement then none else some destinationId
        varianceTransactionId :=
          if handover.amounts.varianceAmount = 0 then none else some varianceId })
      (.notFound "Record to update not found.")

/-- `CashHandover_destinationFundId_bankReference_key`. -/
def assertReferenceUnused (handover : CashHandover) (bankReference message : String) :
    Tx CashStore Failure Unit := do
  let taken ← findFirst cashHandover fun other => other.id ≠ handover.id &&
    other.destinationFundId = handover.destinationFundId &&
    other.bankReference = some bankReference
  require taken.isNone (.conflict message)

/-- A recorded value contradicts the given one. -/
def differs (recorded : Option String) (given : String) : Bool :=
  recorded.any (· ≠ given)

/-- `settleInTransaction`, which `settle` and the statement reconciliation run. -/
def settle (id employeeId : Id) (deposit : BankDeposit) (now : Timestamp) : Transact Unit := do
  assertActiveEmployee employeeId
  let destinationId ← freshId
  cashTx do
    let handover ← findOrThrow id
    require (handover.status = .approved ∧ handover.settlementStatus = .pending)
      (.conflict "The cash handover is not awaiting bank settlement.")
    require (handover.requestedById ≠ employeeId)
      (.forbidden "Employees cannot settle their own cash handovers.")
    let unavailable : Failure :=
      .conflict "Settlement requires an active BANK destination fund."
    let destination ← findUniqueOrFail fund handover.destinationFundId unavailable
    require (destination.deletedAt.isNone ∧ destination.type = .bank) unavailable
    let bankReference := deposit.bankReference.toUpper
    require (!(differs handover.bankReference bankReference ||
        differs handover.evidenceReference deposit.evidenceReference))
      (.conflict "Settlement details do not match the registered bank deposit.")
    postDestinationEntry handover employeeId destinationId now .bank
    assertReferenceUnused handover bankReference
      "This bank reference has already been reconciled for the destination fund."
    updateExpecting cashHandover id (fun _ => true)
      (fun row => { row with
        settlementStatus := .settled
        settledAt := some now
        settledById := some employeeId
        bankReference := some bankReference
        evidenceReference := some deposit.evidenceReference
        destinationTransactionId := some destinationId })
      (.notFound "Record to update not found.")

def registerDeposit (id employeeId : Id) (deposit : BankDeposit) : Transact Unit := do
  assertActiveEmployee employeeId
  cashTx do
    let handover ← findOrThrow id
    require (handover.status = .approved ∧ handover.settlementStatus = .pending)
      (.conflict
        "Only an approved handover awaiting bank settlement can register a deposit.")
    require (handover.requestedById = employeeId)
      (.forbidden "Only the handover requester can register the bank deposit evidence.")
    let unavailable : Failure :=
      .conflict "Deposit registration requires an active BANK destination fund."
    let destination ← findUniqueOrFail fund handover.destinationFundId unavailable
    require (destination.deletedAt.isNone ∧ destination.type = .bank) unavailable
    let bankReference := deposit.bankReference.toUpper
    if handover.bankReference.isSome || handover.evidenceReference.isSome then
      require (handover.bankReference = some bankReference ∧
          handover.evidenceReference = some deposit.evidenceReference)
        (.conflict "Bank deposit evidence has already been registered.")
    else do
      assertReferenceUnused handover bankReference
        "This bank reference is already registered for the destination fund."
      updateExpecting cashHandover id (fun _ => true)
        (fun row => { row with
          bankReference := some bankReference
          evidenceReference := some deposit.evidenceReference })
        (.notFound "Record to update not found.")

/-- `data` of the update that ends `reject` and `cancel`. -/
def resolve (id employeeId : Id) (status : CashHandoverStatus) (note : String)
    (now : Timestamp) : Tx CashStore Failure Unit :=
  updateExpecting cashHandover id (fun _ => true)
    (fun row => { row with
      status
      resolvedAt := some now
      resolvedById := some employeeId
      resolutionNote := some note }) (.notFound "Record to update not found.")

def reject (id employeeId : Id) (reason : String) (now : Timestamp) : Transact Unit := do
  assertActiveEmployee employeeId
  cashTx do
    let handover ← findOrThrow id
    assertPending handover
    require (handover.requestedById ≠ employeeId)
      (.forbidden "Employees cannot reject their own cash handovers.")
    resolve id employeeId .rejected reason now

def cancel (id employeeId : Id) (now : Timestamp) : Transact Unit := do
  assertActiveEmployee employeeId
  cashTx do
    let handover ← findOrThrow id
    assertPending handover
    require (handover.requestedById = employeeId)
      (.forbidden "Only the requester can cancel this cash handover.")
    resolve id employeeId .cancelled "Cancelled by requester" now

end CashHandovers

end CoffeeShop
