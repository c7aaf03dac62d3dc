import CoffeeShop.Cash.Posting
import CoffeeShop.Execution
import CoffeeShop.Footprints

/-!
What the services do to hand-overs and to the ledger rows behind them.
-/

namespace CoffeeShop

open Transaction CashStore CashHandovers

/-- The ledger rows that a hand-over may have. -/
inductive HandoverRole where
  | variance
  | transfer
  | deposit
  deriving DecidableEq, Repr

namespace CashHandover

/-- The reference of the hand-over to a ledger row. -/
def entryId (handover : CashHandover) : HandoverRole → Option Id
  | .variance => handover.varianceTransactionId
  | .transfer => handover.sourceTransactionId
  | .deposit => handover.destinationTransactionId

/-- The fund, the type and the amount of the row. -/
def posting (handover : CashHandover) : HandoverRole → Id × CashFlowType × Money
  | .variance => (handover.sourceFundId,
      if handover.amounts.varianceAmount > 0 then .income else .expense,
      handover.amounts.varianceAmount.natAbs)
  | .transfer => (handover.sourceFundId, .expense, handover.amounts.transferAmount)
  | .deposit => (handover.destinationFundId, .income, handover.amounts.transferAmount)

/-- No column of the settlement is set. -/
def isUnsettled (handover : CashHandover) : Bool :=
  handover.settlementStatus = .notRequired && handover.settlementDueAt.isNone &&
    handover.settledAt.isNone && handover.settledById.isNone && handover.bankReference.isNone &&
    handover.evidenceReference.isNone

/-- No ledger row is referenced. -/
def isUnposted (handover : CashHandover) : Bool :=
  handover.sourceTransactionId.isNone && handover.destinationTransactionId.isNone &&
    handover.varianceTransactionId.isNone

/-- `CashHandover_state_check`. -/
def stateCheck (handover : CashHandover) : Bool :=
  match handover.status with
  | .pending => handover.resolvedAt.isNone && handover.resolvedById.isNone &&
      handover.isUnposted && handover.isUnsettled
  | .approved => handover.resolvedAt.isSome && handover.resolvedById.isSome &&
      handover.sourceTransactionId.isSome &&
      (handover.amounts.varianceAmount ≠ 0) == handover.varianceTransactionId.isSome &&
      (match handover.settlementStatus with
      | .notRequired => handover.destinationTransactionId.isSome && handover.isUnsettled
      | .pending => handover.destinationTransactionId.isNone && handover.settlementDueAt.isSome &&
          handover.settledAt.isNone && handover.settledById.isNone &&
          handover.bankReference.isSome == handover.evidenceReference.isSome
      | .settled => handover.destinationTransactionId.isSome && handover.settlementDueAt.isSome &&
          handover.settledAt.isSome && handover.settledById.isSome &&
          handover.bankReference.isSome && handover.evidenceReference.isSome)
  | .rejected => handover.resolvedAt.isSome && handover.resolvedById.isSome &&
      handover.resolutionNote.isSome && handover.isUnposted && handover.isUnsettled
  | .cancelled => handover.resolvedAt.isSome && handover.resolvedById.isSome &&
      handover.isUnposted && handover.isUnsettled

end CashHandover

/-- The row belongs to no shift and no invoice, and is what the hand-over posts in the role. -/
def CashTransaction.Posts (row : CashTransaction) (handover : CashHandover) (role : HandoverRole) :
    Prop :=
  row.shiftId = none ∧ row.invoiceId = none ∧
    (row.fundId, row.type, row.amount) = handover.posting role

/-- A hand-over goes on, and rows are posted for it. -/
inductive HandoverMove (handover : CashHandover) : CashHandover → List CashTransaction → Prop where
  /-- Without a date that the settlement is due the destination is credited at once. -/
  | approved (employeeId varianceId sourceId destinationId : Id) (note : Option String)
      (due : Option Timestamp) (now : Timestamp) (pending : handover.status = .pending)
      (other : handover.requestedById ≠ employeeId) :
      HandoverMove handover { handover with
        status := .approved
        resolvedAt := some now
        resolvedById := some employeeId
        resolutionNote := note
        settlementStatus := if due.isSome then .pending else .notRequired
        settlementDueAt := due
        sourceTransactionId := some sourceId
        destinationTransactionId := if due.isSome then none else some destinationId
        varianceTransactionId :=
          if handover.amounts.varianceAmount = 0 then none else some varianceId }
        (sourceEntries handover employeeId varianceId sourceId now ++
          if due.isSome then [] else [handoverEntry handover.destinationFundId .income
            handover.amounts.transferAmount employeeId destinationId now])
  | settled (employeeId destinationId : Id) (bankReference evidenceReference : String)
      (now : Timestamp) (approved : handover.status = .approved)
      (awaited : handover.settlementStatus = .pending) (other : handover.requestedById ≠ employeeId)
      (agrees : ∀ reference, handover.bankReference = some reference → reference = bankReference) :
      HandoverMove handover { handover with
        settlementStatus := .settled
        settledAt := some now
        settledById := some employeeId
        bankReference := some bankReference
        evidenceReference := some evidenceReference
        destinationTransactionId := some destinationId }
        [handoverEntry handover.destinationFundId .income handover.amounts.transferAmount employeeId
          destinationId now]
  | registered (bankReference evidenceReference : String) (approved : handover.status = .approved)
      (awaited : handover.settlementStatus = .pending) :
      HandoverMove handover { handover with
        bankReference := some bankReference
        evidenceReference := some evidenceReference } []
  | resolved (status : CashHandoverStatus) (employeeId : Id) (note : String) (now : Timestamp)
      (pending : handover.status = .pending)
      (ends : status = .cancelled ∨ status = .rejected ∧ handover.requestedById ≠ employeeId) :
      HandoverMove handover { handover with
        status
        resolvedAt := some now
        resolvedById := some employeeId
        resolutionNote := some note } []

structure HandoverBooks where
  handovers : Table CashHandover.id
  transactions : Table CashTransaction.id

def CashStore.handoverBooks (cash : CashStore) : HandoverBooks where
  handovers := cash.handovers
  transactions := cash.transactions

/-- The request has just been made. -/
structure CashHandover.IsRequest (handover : CashHandover) : Prop where
  checked : handover.stateCheck = true
  pending : handover.status = .pending
  otherFund : handover.sourceFundId ≠ handover.destinationFundId

inductive HandoverStep (before : HandoverBooks) : HandoverBooks → Prop where
  /-- A ledger row of a shift. -/
  | booked {row : CashTransaction} {transactions : Table CashTransaction.id}
      (attributed : row.shiftId.isSome = true)
      (appended : transactions.rows = before.transactions.rows ++ [row]) :
      HandoverStep before { before with transactions }
  | requested {handover : CashHandover} {handovers : Table CashHandover.id}
      (new : handover.IsRequest) (inserted : before.handovers.insert? handover = some handovers) :
      HandoverStep before { before with handovers }
  | moved {id : Id} {handover : CashHandover} {rows : List CashTransaction}
      {transactions : Table CashTransaction.id} (change : CashHandover → CashHandover)
      (keeps : ∀ row, (change row).id = row.id) (known : before.handovers.find? id = some handover)
      (appended : transactions.rows = before.transactions.rows ++ rows)
      (move : HandoverMove handover (change handover) rows) :
      HandoverStep before
        ⟨before.handovers.update (fun row => row.id = id && true) change keeps, transactions⟩

abbrev HandoverSteps : HandoverBooks → HandoverBooks → Prop := Relation.ReflTransGen HandoverStep

/-- The transaction is a run of steps. -/
abbrev HandsOver {α : Type} (program : Transact α) : Prop :=
  Respects (On Database.cash (On handoverBooks HandoverSteps)) program

instance : Apart handoverBooks fund := ⟨fun _ _ => rfl⟩
instance : Apart handoverBooks cashierShift := ⟨fun _ _ => rfl⟩
instance : Apart handoverBooks cashExpenseRequest := ⟨fun _ _ => rfl⟩
instance : Apart handoverBooks cashRefund := ⟨fun _ _ => rfl⟩
instance : Apart handoverBooks bankStatementImport := ⟨fun _ _ => rfl⟩

namespace HandoverSteps

set_option synthInstance.maxSize 100000

variable {id employeeId : Id} {now : Timestamp}

instance recordCashInvoice {input : CashierShiftLedger.RecordCashInvoiceInput} :
    HandsOver (CashierShiftLedger.recordCashInvoice input now) where
  step before result after committed := by
    simp only [CashierShiftLedger.recordCashInvoice, commits_bind, commits_freshId,
      commits_cashTx] at committed
    obtain ⟨_, _, ⟨rfl, rfl⟩, store, ⟨_, middle, created, credited⟩, rfl⟩ := committed
    obtain ⟨-, rfl⟩ := commits_updateExpecting.mp credited
    obtain ⟨-, appended, same⟩ := commits_createTransaction created
    rw [same]
    exact .single (.booked rfl appended)

instance postMovement {input : CashierShifts.MovementInput} :
    HandsOver (CashierShifts.postMovement input now) where
  step before result after committed := by
    obtain ⟨posts, same⟩ := CashierShifts.postMovement_posts committed
    simp only [CashierShifts.postMovement, commits_bind, commits_freshId, commits_cashTx,
      commits_pure] at committed
    obtain ⟨_, _, ⟨rfl, rfl⟩, _, _, ⟨store, ⟨_, middle, moved, created⟩, rfl⟩, -, rfl⟩ := committed
    have nonneg := (commits_createTransaction created).1.le
    obtain ⟨-, updated⟩ := CashierShifts.moveBalance_credit nonneg moved
    obtain ⟨-, appended, final⟩ := commits_createTransaction created
    rw [final, updated]
    rw [updated] at appended
    exact .single (.booked rfl appended)

instance postRefund {input : CreateCashRefundInput} {shift : OpenCashierShiftContext}
    {movementId refundId : Id} : Respects (On handoverBooks HandoverSteps)
      (CashRefunds.postRefund id employeeId input shift movementId refundId now) where
  step before result after committed := by
    simp only [CashRefunds.postRefund, commits_bind, commits_create] at committed
    obtain ⟨_, middle, debited, _, store, created, refunds, -, rfl⟩ := committed
    obtain ⟨-, rfl⟩ := commits_updateExpecting.mp debited
    obtain ⟨-, appended, same⟩ := commits_createTransaction created
    rw [same]
    exact .single (.booked rfl appended)

/-- An update of the hand-over that was read, after rows were posted for it. -/
theorem moved {wanted : Id} {change : CashHandover → CashHandover}
    {keeps : ∀ row, (change row).id = row.id} {failure : Failure} {before middle after : CashStore}
    {handover : CashHandover} {rows : List CashTransaction}
    (known : before.handovers.find? wanted = some handover)
    (appended : middle.transactions.rows = before.transactions.rows ++ rows)
    (same : middle.handovers = before.handovers)
    (move : HandoverMove handover (change handover) rows)
    (committed : Commits (updateExpecting cashHandover wanted (fun _ => true) change failure keeps)
      middle () after) : HandoverSteps before.handoverBooks after.handoverBooks := by
  obtain ⟨-, rfl⟩ := commits_updateExpecting.mp committed
  have start : before.handoverBooks = ⟨middle.handovers, before.transactions⟩ := by
    rw [handoverBooks, same]
  rw [← same] at known
  rw [start]
  exact .single (.moved change keeps known appended move)

/-- What `findOrThrow` reads stays in the store. -/
theorem commits_findOrThrow {before after : CashStore} {handover : CashHandover} :
    Commits (findOrThrow id) before handover after ↔
      before.handovers.find? id = some handover ∧ after = before := by
  unfold findOrThrow
  exact commits_findUniqueOrFail

section Frames

instance : Apart CashStore.handovers fund := ⟨fun _ _ => rfl⟩
instance : Apart CashStore.handovers cashTransaction := ⟨fun _ _ => rfl⟩

variable {handover : CashHandover} {varianceId sourceId destinationId : Id} {type : FundType}

instance keepsTransaction {row : CashTransaction} :
    Keeps CashStore.handovers (CashierShiftLedger.createTransaction row) := by
  unfold CashierShiftLedger.createTransaction
  infer_instance

instance keepsDestination : Keeps CashStore.handovers
    (postDestinationEntry handover employeeId destinationId now type) := by
  unfold postDestinationEntry
  infer_instance

instance keepsSource : Keeps CashStore.handovers
    (postSourceEntries handover employeeId varianceId sourceId now) := by
  unfold postSourceEntries
  infer_instance

end Frames

/-- A transaction of the cash store, after the employee was checked. -/
theorem afterCheck {program : Tx CashStore Failure Unit}
    (steps : ∀ before after, Commits program before () after →
      HandoverSteps before.handoverBooks after.handoverBooks) :
    HandsOver (do
      assertActiveEmployee employeeId
      cashTx program) := by
  have body : Respects (On handoverBooks HandoverSteps) program :=
    ⟨fun before _ after committed => steps before after committed⟩
  infer_instance

theorem resolving {status : CashHandoverStatus} {note : String} {handover : CashHandover}
    (ends : status = .cancelled ∨ status = .rejected ∧ handover.requestedById ≠ employeeId)
    {before after : CashStore} (known : before.handovers.find? id = some handover)
    (pending : handover.status = .pending)
    (committed : Commits (resolve id employeeId status note now) before () after) :
    HandoverSteps before.handoverBooks after.handoverBooks := by
  unfold CashHandovers.resolve at committed
  exact moved known (List.append_nil _).symm rfl (.resolved status employeeId note now pending ends)
    committed

instance reject {reason : String} : HandsOver (CashHandovers.reject id employeeId reason now) := by
  refine afterCheck fun before after committed => ?_
  simp only [commits_bind, commits_findOrThrow, assertPending, commits_require] at committed
  obtain ⟨handover, _, ⟨known, rfl⟩, _, _, ⟨pending, rfl⟩, _, store, ⟨other, rfl⟩, resolved⟩ :=
    committed
  exact resolving (.inr ⟨rfl, other⟩) known pending resolved

instance cancel : HandsOver (CashHandovers.cancel id employeeId now) := by
  refine afterCheck fun before after committed => ?_
  simp only [commits_bind, commits_findOrThrow, assertPending, commits_require] at committed
  obtain ⟨handover, _, ⟨known, rfl⟩, _, _, ⟨pending, rfl⟩, _, store, ⟨-, rfl⟩, resolved⟩ :=
    committed
  exact resolving (.inl rfl) known pending resolved

instance registerDeposit {deposit : BankDeposit} :
    HandsOver (CashHandovers.registerDeposit id employeeId deposit) := by
  refine afterCheck fun before after committed => ?_
  simp only [commits_bind, commits_findOrThrow, commits_require,
    commits_findUniqueOrFail] at committed
  obtain ⟨handover, _, ⟨known, rfl⟩, _, _, ⟨⟨approved, awaited⟩, rfl⟩, _, _, ⟨-, rfl⟩, destination,
    _, ⟨-, rfl⟩, _, store, ⟨-, rfl⟩, registered⟩ := committed
  split at registered
  · rw [(commits_require.mp registered).2]
  · simp only [commits_bind, assertReferenceUnused, commits_findFirst, commits_require] at registered
    obtain ⟨_, middle, ⟨_, _, ⟨-, rfl⟩, -, rfl⟩, written⟩ := registered
    exact moved known (List.append_nil _).symm rfl (.registered _ _ approved awaited) written

/-- What `settle` does after the employee was checked and an id was drawn. -/
theorem settling {destinationId : Id} {deposit : BankDeposit} {before after : CashStore}
    {handover : CashHandover} (known : before.handovers.find? id = some handover)
    (approved : handover.status = .approved) (awaited : handover.settlementStatus = .pending)
    (other : handover.requestedById ≠ employeeId)
    (agrees : differs handover.bankReference deposit.bankReference.toUpper = false)
    {middle : CashStore}
    (posted : Commits (postDestinationEntry handover employeeId destinationId now .bank) before ()
      middle)
    (written : Commits (updateExpecting cashHandover id (fun _ => true)
      (fun row => { row with
        settlementStatus := .settled
        settledAt := some now
        settledById := some employeeId
        bankReference := some deposit.bankReference.toUpper
        evidenceReference := some deposit.evidenceReference
        destinationTransactionId := some destinationId })
      (Failure.notFound "Record to update not found.")) middle () after) :
    HandoverSteps before.handoverBooks after.handoverBooks := by
  refine moved known (postDestinationEntry_posts posted).appended
    (Keeps.eq CashStore.handovers posted)
    (.settled employeeId destinationId _ _ now approved awaited other ?_) written
  intro reference recorded
  simpa [differs, recorded] using agrees

theorem commits_settle {deposit : BankDeposit} {before after : Database}
    (committed : Commits (CashHandovers.settle id employeeId deposit now) before () after) :
    ∃ destinationId handover middle, before.cash.handovers.find? id = some handover ∧
      (handover.status = .approved ∧ handover.settlementStatus = .pending) ∧
      handover.requestedById ≠ employeeId ∧
      differs handover.bankReference deposit.bankReference.toUpper = false ∧
      Commits (postDestinationEntry handover employeeId destinationId now .bank) before.cash ()
        middle ∧
      Commits (updateExpecting cashHandover id (fun _ => true)
        (fun row => { row with
          settlementStatus := .settled
          settledAt := some now
          settledById := some employeeId
          bankReference := some deposit.bankReference.toUpper
          evidenceReference := some deposit.evidenceReference
          destinationTransactionId := some destinationId })
        (Failure.notFound "Record to update not found.")) middle () after.cash := by
  simp only [CashHandovers.settle, commits_bind, commits_freshId, commits_cashTx,
    commits_findOrThrow, commits_require, commits_findUniqueOrFail, assertReferenceUnused,
    commits_findFirst] at committed
  obtain ⟨_, start, checked, destinationId, _, ⟨-, rfl⟩, store, ⟨handover, _, ⟨known, rfl⟩, _, _,
    ⟨⟨approved, awaited⟩, rfl⟩, _, _, ⟨other, rfl⟩, destination, _, ⟨-, rfl⟩, _, _, ⟨-, rfl⟩, _,
    read, ⟨agrees, rfl⟩, _, middle, posted, _, _, ⟨_, _, ⟨-, rfl⟩, -, rfl⟩, written⟩, rfl⟩ :=
    committed
  obtain rfl : before = start := Respects.step (R := Eq) checked
  rw [Bool.not_eq_true', Bool.or_eq_false_iff] at agrees
  exact ⟨destinationId, handover, _, known, ⟨approved, awaited⟩, other, agrees.1, posted,
    written⟩

instance settle {deposit : BankDeposit} :
    HandsOver (CashHandovers.settle id employeeId deposit now) where
  step before result after committed := by
    obtain ⟨destinationId, handover, middle, known, ⟨approved, awaited⟩, other, agrees, posted,
      written⟩ := commits_settle committed
    exact settling known approved awaited other agrees posted written

theorem commits_approve {note : Option String} {before after : Database}
    (committed : Commits (CashHandovers.approve id employeeId note now) before () after) :
    ∃ varianceId sourceId destinationId handover, ∃ destination : Fund, ∃ due middle credited,
      before.cash.handovers.find? id = some handover ∧ handover.status = .pending ∧
      handover.requestedById ≠ employeeId ∧
      Commits (postSourceEntries handover employeeId varianceId sourceId now) before.cash ()
        middle ∧
      Commits (when (¬destination.type = .bank) (postDestinationEntry handover employeeId
        destinationId now destination.type)) middle () credited ∧
      Commits (updateExpecting cashHandover id (fun _ => true)
        (fun row => { row with
          status := .approved
          resolvedAt := some now
          resolvedById := some employeeId
          resolutionNote := note
          settlementStatus := if destination.type = .bank then .pending else .notRequired
          settlementDueAt := if destination.type = .bank then some due else none
          sourceTransactionId := some sourceId
          destinationTransactionId :=
            if destination.type = .bank then none else some destinationId
          varianceTransactionId :=
            if handover.amounts.varianceAmount = 0 then none else some varianceId })
        (Failure.notFound "Record to update not found.")) credited () after.cash := by
  simp only [CashHandovers.approve, reviewHandover, assertPending, assertFundsHaveNoOpenShift,
    commits_bind, commits_freshId, commits_cashTx, commits_readCatalog, commits_findOrThrow,
    commits_require, commits_findUniqueOrFail, commits_findFirst, commits_pure] at committed
  obtain ⟨_, _, checked, catalog, start, ⟨-, rfl⟩, varianceId, _, ⟨-, rfl⟩, sourceId, _, ⟨-, rfl⟩,
    destinationId, _, ⟨-, rfl⟩, store, ⟨pair, _, reviewed, _, middle, posted, _, credited, deposit,
    written⟩, rfl⟩ := committed
  obtain rfl : before = start := Respects.step (R := Eq) checked
  obtain ⟨handover, _, ⟨known, rfl⟩, _, _, ⟨pending, rfl⟩, _, _, ⟨other, rfl⟩, source, _, ⟨-, rfl⟩,
    destination, _, ⟨-, rfl⟩, _, _, ⟨-, rfl⟩, _, _, ⟨_, _, ⟨-, rfl⟩, -, rfl⟩, rfl, rfl⟩ := reviewed
  exact ⟨varianceId, sourceId, destinationId, handover, destination, _, middle, credited, known,
    pending, other, posted, deposit, written⟩

instance approve {note : Option String} :
    HandsOver (CashHandovers.approve id employeeId note now) where
  step before result after committed := by
    obtain ⟨varianceId, sourceId, destinationId, handover, destination, due, middle, credited, known,
      pending, other, posted, deposit, written⟩ := commits_approve committed
    have same : middle.handovers = before.cash.handovers := Keeps.eq CashStore.handovers posted
    have appended := (postSourceEntries_posts posted).appended
    rcases commits_when.mp deposit with ⟨cash, paid⟩ | ⟨bank, rfl⟩
    · have more := (postDestinationEntry_posts paid).appended
      rw [appended, List.append_assoc] at more
      refine moved known more ((Keeps.eq CashStore.handovers paid).trans same) ?_ written
      have move := HandoverMove.approved employeeId varianceId sourceId destinationId note none now
        pending other
      simpa [cash] using move
    · refine moved known appended same ?_ written
      have move := HandoverMove.approved employeeId varianceId sourceId destinationId note
        (some due) now pending other
      simpa [not_not.mp bank] using move

theorem insertRequest {handover : CashHandover} {failure : Failure} (new : handover.IsRequest) :
    Respects (On handoverBooks HandoverSteps) (Transaction.create cashHandover handover failure)
    where
  step before result after committed := by
    obtain ⟨handovers, inserted, rfl⟩ := commits_create.mp committed
    exact .single (.requested new inserted)

instance create {input : CreateCashHandoverInput} :
    HandsOver (CashHandovers.create employeeId input) := by
  have inserts (id shiftId sourceFundId destinationFundId : Id) (amounts : HandoverAmounts)
      (other : sourceFundId ≠ destinationFundId) :
      Respects (On handoverBooks HandoverSteps) (Transaction.create cashHandover {
        id
        amounts
        note := input.note
        status := .pending
        settlementStatus := .notRequired
        resolutionNote := none
        resolvedAt := none
        settlementDueAt := none
        settledAt := none
        bankReference := none
        evidenceReference := none
        requestedById := employeeId
        resolvedById := none
        settledById := none
        shiftId
        sourceFundId
        destinationFundId
        sourceTransactionId := none
        destinationTransactionId := none
        varianceTransactionId := none } (Failure.constraint "CashHandover_pkey")) :=
    insertRequest ⟨rfl, rfl, other⟩
  have known {fundId : Id} {failure : Failure} ⦃before : CashStore⦄ ⦃destination : Fund⦄
      ⦃after : CashStore⦄ (read : Commits (findUniqueOrFail fund fundId failure) before destination
        after) : destination.id = fundId :=
    Table.find?_key (commits_findUniqueOrFail.mp read).1
  -- the request is inserted with the two funds that were compared
  refine .andThen inferInstance fun _ => .andThen inferInstance fun id => ?_
  refine @Respects.onCash _ _ _ (.andThen inferInstance fun shift => ?_)
  refine .andThen inferInstance fun _ => .andThen inferInstance fun _ => ?_
  refine .andThen inferInstance fun sourceFundId => .andThen inferInstance fun source => ?_
  refine .andThen inferInstance fun _ => .andThen inferInstance fun _ => ?_
  refine .andThen inferInstance fun _ => .requireThen fun other => ?_
  refine .bind_checked known fun destination same => ?_
  have apart : sourceFundId ≠ destination.id := by rwa [same]
  have inserted (amounts : HandoverAmounts) :=
    inserts id shift.id sourceFundId destination.id amounts apart
  infer_instance

instance cashCommand {command : CashCommand} : HandsOver (command.execute now) := by
  cases command
  all_goals
    dsimp only [CashCommand.execute, CashierShifts.openShift, CashierShifts.addMovement,
      CashierShifts.approveExpenseRequest, CashierShifts.rejectExpenseRequest,
      CashierShifts.cancelExpenseRequest, CashierShifts.resolveExpenseRequest, CashierShifts.close,
      FundsService.create, FundsService.update, FundsService.remove,
      BankReconciliation.createImport]
    infer_instance

instance createInvoiceInTransaction {request : InvoicesService.CreateInvoiceRequest}
    {onlinePickup : Bool} :
    HandsOver (InvoicesService.createInvoiceInTransaction request onlinePickup now) := by
  dsimp only [InvoicesService.createInvoiceInTransaction]
  infer_instance

instance invoiceCommand {command : InvoiceCommand} : HandsOver (command.execute now) := by
  cases command
  all_goals
    dsimp only [InvoiceCommand.execute, InvoicesService.createInvoice,
      InvoicesService.checkoutInvoice, InvoicesService.updatePayment, CashRefunds.create,
      CashRefunds.createRefund]
    infer_instance

instance onlineCommand {command : OnlineCommand} : HandsOver (command.execute now) := by
  cases command
  all_goals
    dsimp only [OnlineCommand.execute, OnlineOrders.collect,
      InvoicesService.checkoutOnlinePickupInTransaction]
    infer_instance

instance paymentCommand {command : PaymentCommand} : HandsOver (command.execute now) := by
  cases command
  all_goals
    dsimp only [PaymentCommand.execute]
    infer_instance

instance orderCommand {command : OrderCommand} : HandsOver (command.execute now) := by
  cases command
  all_goals
    dsimp only [OrderCommand.execute]
    infer_instance

instance inventoryCommand {command : InventoryCommand} : HandsOver (command.execute now) := by
  cases command
  all_goals
    dsimp only [InventoryCommand.execute]
    infer_instance

instance tableCommand {command : TableCommand} : HandsOver (command.execute now) := by
  cases command
  all_goals
    dsimp only [TableCommand.execute]
    infer_instance

instance printCommand {command : PrintCommand} : HandsOver (command.execute now) := by
  cases command
  all_goals
    dsimp only [PrintCommand.execute]
    infer_instance

instance command {command : Command} : HandsOver (command.execute now) := by
  cases command
  all_goals
    dsimp only [Command.execute]
    infer_instance

end HandoverSteps

end CoffeeShop
