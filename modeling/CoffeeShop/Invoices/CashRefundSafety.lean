import CoffeeShop.Cash.CashSales
import CoffeeShop.Payments.RefundSafety

/-!
Cash refunds never exceed their invoice, and each is paid out of the ledger once.

Only a cash refund writes the refunds, and everything else only adds to the ledger.  A
paid cash invoice keeps its status until it is refunded, so the status shows the refunds.
-/

namespace CoffeeShop

open Transaction CashStore CashRefunds

-- An instance for a program has one node for each of its statements.
set_option synthInstance.maxSize 100000

/-- The cash refunds and the ledger. -/
def CashStore.refundLedger (cash : CashStore) :
    Table CashRefund.id × Table CashTransaction.id := (cash.refunds, cash.transactions)

/-- The refunds stay, and rows are only added to the ledger. -/
structure LedgerGrows (before after : Table CashRefund.id × Table CashTransaction.id) : Prop where
  refunds : after.1 = before.1
  rows : before.2.rows <+: after.2.rows

instance : IsPreorder (Table CashRefund.id × Table CashTransaction.id) LedgerGrows where
  refl _ := ⟨rfl, List.prefix_rfl⟩
  trans _ _ _ first second := ⟨second.refunds.trans first.refunds, first.rows.trans second.rows⟩

/-- The program makes no cash refund and takes nothing out of the ledger. -/
abbrev GrowsLedger {α : Type} (program : Transact α) : Prop :=
  Respects (On Database.cash (On refundLedger LedgerGrows)) program

instance : Apart refundLedger fund := ⟨fun _ _ => rfl⟩
instance : Apart refundLedger cashierShift := ⟨fun _ _ => rfl⟩
instance : Apart refundLedger cashExpenseRequest := ⟨fun _ _ => rfl⟩
instance : Apart refundLedger cashHandover := ⟨fun _ _ => rfl⟩
instance : Apart refundLedger bankStatementImport := ⟨fun _ _ => rfl⟩

namespace GrowsLedger

variable {id employeeId : Id} {now : Timestamp}

instance createTransaction {row : CashTransaction} :
    Respects (On refundLedger LedgerGrows) (CashierShiftLedger.createTransaction row) where
  step before result after committed := by
    obtain ⟨-, appended, same⟩ := commits_createTransaction committed
    constructor
    · rw [same]
      rfl
    · exact ⟨[row], appended.symm⟩

instance recordCashInvoice {input : CashierShiftLedger.RecordCashInvoiceInput} :
    GrowsLedger (CashierShiftLedger.recordCashInvoice input now) := by
  dsimp only [CashierShiftLedger.recordCashInvoice]
  infer_instance

instance moveBalance {input : CashierShifts.MovementInput} :
    Respects (On refundLedger LedgerGrows) (CashierShifts.moveBalance input) := by
  unfold CashierShifts.moveBalance
  split <;> infer_instance

instance postMovement {input : CashierShifts.MovementInput} :
    GrowsLedger (CashierShifts.postMovement input now) := by
  dsimp only [CashierShifts.postMovement]
  infer_instance

instance postDestinationEntry {handover : CashHandover} {type : FundType} :
    Respects (On refundLedger LedgerGrows)
      (CashHandovers.postDestinationEntry handover employeeId id now type) := by
  dsimp only [CashHandovers.postDestinationEntry]
  infer_instance

instance postSourceEntries {handover : CashHandover} {varianceId sourceId : Id} :
    Respects (On refundLedger LedgerGrows)
      (CashHandovers.postSourceEntries handover employeeId varianceId sourceId now) := by
  dsimp only [CashHandovers.postSourceEntries]
  infer_instance

instance cashCommand {command : CashCommand} : GrowsLedger (command.execute now) := by
  cases command
  all_goals
    dsimp only [CashCommand.execute, FundsService.create, FundsService.update,
      FundsService.remove, BankReconciliation.createImport, CashierShifts.openShift,
      CashierShifts.addMovement, CashierShifts.approveExpenseRequest,
      CashierShifts.rejectExpenseRequest, CashierShifts.cancelExpenseRequest,
      CashierShifts.resolveExpenseRequest, CashierShifts.close, CashHandovers.create,
      CashHandovers.approve, CashHandovers.settle, CashHandovers.registerDeposit,
      CashHandovers.reject, CashHandovers.cancel, CashHandovers.resolve]
    infer_instance

instance createInvoiceInTransaction {request : InvoicesService.CreateInvoiceRequest}
    {onlinePickup : Bool} :
    GrowsLedger (InvoicesService.createInvoiceInTransaction request onlinePickup now) := by
  dsimp only [InvoicesService.createInvoiceInTransaction]
  infer_instance

theorem invoiceCommand {command : InvoiceCommand}
    (other : ∀ invoiceId employeeId input, command ≠ .refundCash invoiceId employeeId input) :
    GrowsLedger (command.execute now) := by
  cases command with
  | refundCash invoiceId employeeId input =>
      exact absurd rfl (other invoiceId employeeId input)
  | _ =>
      dsimp only [InvoiceCommand.execute, InvoicesService.createInvoice,
        InvoicesService.checkoutInvoice, InvoicesService.updatePayment]
      infer_instance

instance onlineCommand {command : OnlineCommand} : GrowsLedger (command.execute now) := by
  cases command
  all_goals
    dsimp only [OnlineCommand.execute, OnlineOrders.collect,
      InvoicesService.checkoutOnlinePickupInTransaction]
    infer_instance

theorem command {command : Command}
    (other : ∀ invoiceId employeeId input,
      command ≠ .invoice (.refundCash invoiceId employeeId input)) :
    GrowsLedger (command.execute now) := by
  cases command with
  | cash command => exact cashCommand
  | online command => exact onlineCommand
  | invoice command =>
      exact invoiceCommand fun invoiceId employeeId input same =>
        other invoiceId employeeId input (congrArg Command.invoice same)
  | inventory command =>
      cases command <;> (dsimp only [Command.execute, InventoryCommand.execute]; infer_instance)
  | order command =>
      cases command <;> (dsimp only [Command.execute, OrderCommand.execute]; infer_instance)
  | payment command =>
      cases command <;> (dsimp only [Command.execute, PaymentCommand.execute]; infer_instance)
  | table command =>
      cases command <;> (dsimp only [Command.execute, TableCommand.execute]; infer_instance)
  | print command =>
      cases command <;> (dsimp only [Command.execute, PrintCommand.execute]; infer_instance)

end GrowsLedger

/-- Paid cash invoices stay as they are, and others are paid in full. -/
structure CashInvoicesFollow (before after : SalesStore) : Prop where
  kept : ∀ old ∈ before.invoices, old.paymentStatus.isSettled = true →
    old.paymentMethod = .cash → ∃ next, after.invoices.find? old.id = some next ∧
      next.paymentMethod = .cash ∧ next.paymentStatus = old.paymentStatus ∧
      next.totalAmount = old.totalAmount
  origin : ∀ next ∈ after.invoices, next.paymentStatus.isSettled = true →
    next.paymentMethod = .cash → next.paymentStatus = .paid ∨
      ∃ old ∈ before.invoices, old.id = next.id ∧ old.paymentStatus.isSettled = true ∧
        old.paymentMethod = .cash

namespace CashInvoicesFollow

variable {before after : SalesStore}

theorem of_eq (same : after.invoices = before.invoices) : CashInvoicesFollow before after where
  kept old member _ cash := by
    rw [same]
    exact ⟨old, Table.find?_of_mem member, cash, rfl, rfl⟩
  origin next member settled cash := by
    rw [same] at member
    exact .inr ⟨next, member, rfl, settled, cash⟩

theorem of_updated {invoices : Table Invoice.id} {condition : Invoice → Bool}
    {change : Invoice → Invoice} (keeps : ∀ row, (change row).id = row.id) {next : Invoice}
    (member : next ∈ invoices.update condition change keeps) :
    (∃ old ∈ invoices, old.id = next.id ∧ condition old = true ∧ change old = next) ∨
      next ∈ invoices := by
  obtain ⟨old, inStore, holds, rfl⟩ | ⟨old, -⟩ := Table.mem_update_iff.mp member
  · exact .inl ⟨old, inStore, (keeps old).symm, holds, rfl⟩
  · exact .inr old

/-- Where a settled invoice comes from, when no invoice is refunded. -/
theorem settled_step (taken : SalesStep none before after) {next : Invoice}
    (member : next ∈ after.invoices) (settled : next.paymentStatus.isSettled = true) :
    next.paymentStatus = .paid ∨ ∃ old ∈ before.invoices, old.id = next.id ∧
      old.paymentStatus.isSettled = true := by
  cases taken with
  | besides tables sessions items invoices =>
      rw [invoices] at member
      exact .inr ⟨next, member, rfl, settled⟩
  | lineMoved active moved =>
      cases moved with
      | whole => exact .inr ⟨next, member, rfl, settled⟩
      | divided => exact .inr ⟨next, member, rfl, settled⟩
  | invoiceIssued links status billable total nonneg inserted =>
      obtain old | rfl := (Table.mem_insert? inserted).mp member
      · exact .inr ⟨next, old, rfl, settled⟩
      · obtain unpaid | paid := status
        · rw [unpaid] at settled
          cases settled
        · exact .inl paid
  | invoicePaid id condition change keeps found unpaid pays =>
      obtain ⟨old, inStore, -, holds, rfl⟩ | old := of_updated keeps member
      · exact .inl (pays old inStore holds).2
      · exact .inr ⟨next, old, rfl, settled⟩
  | invoiceVoided id change keeps unpaid voids =>
      obtain ⟨old, inStore, -, holds, rfl⟩ | old := of_updated keeps member
      · rw [(voids old inStore).2] at settled
        cases settled
      · exact .inr ⟨next, old, rfl, settled⟩
  | invoicesTouched condition change keeps agrees =>
      obtain ⟨old, inStore, same, holds, rfl⟩ | old := of_updated keeps member
      · rw [(agrees old inStore holds).2.2] at settled
        exact .inr ⟨old, inStore, same, settled⟩
      · exact .inr ⟨next, old, rfl, settled⟩
  | invoicesRefunded condition method status allowed => cases allowed
  | _ => exact .inr ⟨next, member, rfl, settled⟩

theorem settled_steps (taken : SalesSteps none before after) {next : Invoice}
    (member : next ∈ after.invoices) (settled : next.paymentStatus.isSettled = true) :
    next.paymentStatus = .paid ∨ ∃ old ∈ before.invoices, old.id = next.id ∧
      old.paymentStatus.isSettled = true := by
  induction taken generalizing next with
  | refl => exact .inr ⟨next, member, rfl, settled⟩
  | tail _ last inductionHypothesis =>
      obtain paid | ⟨middle, inMiddle, same, paid⟩ := settled_step last member settled
      · exact .inl paid
      · obtain status | ⟨old, inStore, id, was⟩ := inductionHypothesis inMiddle paid
        · obtain ⟨row, there, continues⟩ :=
            InvoicesContinue.step last middle.id middle (Table.find?_of_mem inMiddle)
          rw [same, Table.find?_of_mem member] at there
          cases there
          exact .inl ((continues.kept paid rfl).trans status)
        · exact .inr ⟨old, inStore, id.trans same, was⟩

theorem of_steps (taken : SalesSteps none before after) : CashInvoicesFollow before after := by
  have continues := InvoicesContinue.steps taken
  constructor
  · intro old member settled cash
    obtain ⟨next, there, goes⟩ := continues old.id old (Table.find?_of_mem member)
    exact ⟨next, there, (goes.settled settled).2.trans cash, goes.kept settled rfl, goes.totalAmount⟩
  · intro next member settled cash
    obtain paid | ⟨old, inStore, same, was⟩ := settled_steps taken member settled
    · exact .inl paid
    · obtain ⟨row, there, goes⟩ := continues old.id old (Table.find?_of_mem inStore)
      rw [same, Table.find?_of_mem member] at there
      cases there
      exact .inr ⟨old, inStore, same, was, (goes.settled was).2.symm.trans cash⟩

/-- Invoices that are paid otherwise may change. -/
theorem updated {condition : Invoice → Bool} {change : Invoice → Invoice}
    {keeps : ∀ row, (change row).id = row.id}
    (same : after.invoices = before.invoices.update condition change keeps)
    (other : ∀ row ∈ before.invoices, condition row = true → row.paymentMethod ≠ .cash ∧
      (change row).paymentMethod ≠ .cash) : CashInvoicesFollow before after where
  kept old member settled cash := by
    rw [same, Table.find?_update, Table.find?_of_mem member]
    refine ⟨_, rfl, ?_⟩
    dsimp only
    rw [if_neg fun holds => (other old member holds).1 cash]
    exact ⟨cash, rfl, rfl⟩
  origin next member settled cash := by
    rw [same] at member
    obtain ⟨old, inStore, -, holds, rfl⟩ | old := of_updated keeps member
    · exact absurd cash (other old inStore holds).2
    · exact .inr ⟨next, old, rfl, settled, cash⟩

end CashInvoicesFollow

/-- A cash refund of an invoice, with its row in the ledger. -/
structure CashRefundMade (before after : Database) (refund : CashRefund) (row : CashTransaction)
    (invoice : Invoice) : Prop where
  found : before.sales.invoices.find? refund.invoiceId = some invoice
  cash : invoice.paymentMethod = .cash
  settled : invoice.paymentStatus.isSettled = true
  positive : 0 < refund.amount
  within : refundedTotal before.cash refund.invoiceId + refund.amount ≤ invoice.totalAmount
  unused : ∀ other ∈ before.cash.refunds, other.requestedById = refund.requestedById →
    other.idempotencyKey ≠ refund.idempotencyKey
  inserted : before.cash.refunds.insert? refund = some after.cash.refunds
  appended : after.cash.transactions.rows = before.cash.transactions.rows ++ [row]
  entry : row.id = refund.cashTransactionId ∧ row.type = .expense ∧ row.amount = refund.amount
  debit : Credit row.fundId (-refund.amount) before.cash.funds after.cash.funds
  invoices : after.sales.invoices = before.sales.invoices.update
    (fun other => other.id = refund.invoiceId && other.paymentStatus = invoice.paymentStatus)
    fun other => { other with
      paymentStatus :=
        if refundedTotal before.cash refund.invoiceId + refund.amount = invoice.totalAmount
        then .refunded else .partiallyRefunded }

theorem commits_cashRefund {invoiceId employeeId : Id} {input : CreateCashRefundInput}
    {now : Timestamp} {before after : Database}
    (committed : Commits (CashRefunds.create invoiceId employeeId input now) before () after) :
    after = before ∨ ∃ refund row invoice,
      (refund.invoiceId = invoiceId ∧ refund.requestedById = employeeId ∧
        refund.idempotencyKey = input.idempotencyKey ∧ refund.amount = input.amount.val) ∧
      CashRefundMade before after refund row invoice := by
  simp only [CashRefunds.create, commits_bind, commits_get, commits_ifSome,
    commits_require] at committed
  obtain ⟨_, _, active, _, _, ⟨rfl, rfl⟩, ⟨replay, -, -, rfl⟩ | ⟨unused, made⟩⟩ := committed
  · exact .inl (Respects.step (R := Eq) active).symm
  cases Respects.step (R := Eq) active
  simp only [CashRefunds.createRefund, CashRefunds.assertRefundable, commits_bind, commits_get,
    commits_require, commits_freshId] at made
  obtain ⟨_, _, ⟨rfl, rfl⟩, invoice, _, reads, _, _, ⟨_, _, ⟨⟨cash, status⟩, rfl⟩, _, _, ⟨-, rfl⟩,
    -, rfl⟩, _, _, ⟨within, rfl⟩, shift, _, opened, _, _, ⟨-, rfl⟩, movementId, _, ⟨rfl, rfl⟩,
    refundId, _, ⟨rfl, rfl⟩, _, posted, posts, marks⟩ := made
  obtain ⟨_, read, -⟩ := commits_salesTx.mp reads
  have found := (commits_findUniqueOrFail.mp read).1
  cases Respects.step (R := Eq) reads
  cases Respects.step (R := Eq) opened
  obtain ⟨store, ran, rfl⟩ := commits_cashTx.mp posts
  obtain ⟨sales, marked, rfl⟩ := commits_salesTx.mp marks
  obtain ⟨middle, refunds, entry, inserted, rfl⟩ := postRefund_posts ran
  obtain rfl := Table.find?_key found
  rw [entry.refunds] at inserted
  exact .inr ⟨{
    id := _
    amount := input.amount
    reason := input.reason
    idempotencyKey := input.idempotencyKey
    completedAt := now
    invoiceId := invoice.id
    requestedById := employeeId
    cashTransactionId := _ }, refundEntry input employeeId shift _ now, invoice,
    ⟨rfl, rfl, rfl, rfl⟩, {
    inserted
    found
    cash
    settled := by
      obtain paid | refunded := status
      · rw [paid]
        rfl
      · rw [refunded]
        rfl
    positive := input.amount.property
    within
    unused := fun other member own same => by
      simpa [own, same] using Table.first?_eq_none.mp unused other member
    appended := entry.appended
    entry := ⟨rfl, rfl, rfl⟩
    debit := by simpa [refundEntry, CashFlowType.signed] using entry.credit
    invoices := by
      obtain ⟨-, rfl⟩ := commits_updateExpecting.mp marked
      rfl }⟩

/-- The refunds fit their invoices, which show them, and each has its row in the ledger. -/
structure CashRefundsAgree (database : Database) : Prop where
  positive : ∀ refund ∈ database.cash.refunds, 0 < refund.amount
  ofInvoice : ∀ refund ∈ database.cash.refunds, ∃ invoice ∈ database.sales.invoices,
    invoice.id = refund.invoiceId ∧ invoice.paymentStatus.isSettled = true ∧
      invoice.paymentMethod = .cash
  shown : ∀ invoice ∈ database.sales.invoices, invoice.paymentStatus.isSettled = true →
    invoice.paymentMethod = .cash →
      (refundedTotal database.cash invoice.id = 0 ∨
        refundedTotal database.cash invoice.id ≤ invoice.totalAmount) ∧
      invoice.paymentStatus =
        refundedStatus invoice.totalAmount (refundedTotal database.cash invoice.id)
  posted : ∀ refund ∈ database.cash.refunds, ∃ row ∈ database.cash.transactions,
    row.id = refund.cashTransactionId ∧ row.type = .expense ∧ row.amount = refund.amount
  keys : ∀ refund ∈ database.cash.refunds, ∀ other ∈ database.cash.refunds,
    (other.requestedById = refund.requestedById ∧ other.idempotencyKey = refund.idempotencyKey) ∨
      other.cashTransactionId = refund.cashTransactionId → other.id = refund.id

namespace CashRefundsAgree

variable {before after : Database}

theorem empty : CashRefundsAgree Database.empty where
  positive _ member := (Table.not_mem_empty member).elim
  ofInvoice _ member := (Table.not_mem_empty member).elim
  shown _ member := (Table.not_mem_empty member).elim
  posted _ member := (Table.not_mem_empty member).elim
  keys _ member := (Table.not_mem_empty member).elim

theorem refundedTotal_nonneg (agree : CashRefundsAgree before) (invoiceId : Id) :
    0 ≤ refundedTotal before.cash invoiceId := by
  refine List.sum_nonneg fun amount isAmount => ?_
  obtain ⟨refund, chosen, rfl⟩ := List.mem_map.mp isAmount
  exact (agree.positive refund (List.mem_filter.mp chosen).1).le

theorem refundedTotal_pos (agree : CashRefundsAgree before) {refund : CashRefund}
    (member : refund ∈ before.cash.refunds) : 0 < refundedTotal before.cash refund.invoiceId := by
  refine (agree.positive refund member).trans_le ?_
  refine List.single_le_sum (fun amount isAmount => ?_) _ (List.mem_map_of_mem ?_)
  · obtain ⟨other, chosen, rfl⟩ := List.mem_map.mp isAmount
    exact (agree.positive other (List.mem_filter.mp chosen).1).le
  · exact List.mem_filter.mpr ⟨member, by simp⟩

/-- An invoice that was not paid in cash has no cash refund. -/
theorem refundedTotal_eq_zero (agree : CashRefundsAgree before) {invoiceId : Id}
    (none : ∀ invoice ∈ before.sales.invoices, invoice.id = invoiceId →
      invoice.paymentStatus.isSettled = true → invoice.paymentMethod ≠ .cash) :
    refundedTotal before.cash invoiceId = 0 := by
  refine Table.sumWhere_eq_zero fun refund member => ?_
  obtain ⟨invoice, inStore, same, settled, cash⟩ := agree.ofInvoice refund member
  have other : refund.invoiceId ≠ invoiceId := fun equal =>
    none invoice inStore (same.trans equal) settled cash
  simp [other]

/-- Nothing is refunded in cash. -/
theorem unrefunded (agree : CashRefundsAgree before)
    (follow : CashInvoicesFollow before.sales after.sales)
    (grows : LedgerGrows before.cash.refundLedger after.cash.refundLedger) :
    CashRefundsAgree after := by
  have refunds : after.cash.refunds = before.cash.refunds := grows.refunds
  have total (invoiceId : Id) :
      refundedTotal after.cash invoiceId = refundedTotal before.cash invoiceId := by
    unfold refundedTotal
    rw [refunds]
  constructor
  · rw [refunds]
    exact agree.positive
  · intro refund member
    rw [refunds] at member
    obtain ⟨invoice, inStore, same, settled, cash⟩ := agree.ofInvoice refund member
    obtain ⟨next, found, method, status, -⟩ := follow.kept invoice inStore settled cash
    refine ⟨next, Table.mem_of_find? found, (Table.find?_key found).trans same, ?_, method⟩
    rw [status]
    exact settled
  · intro invoice member settled cash
    rw [total]
    by_cases was : ∃ old ∈ before.sales.invoices, old.id = invoice.id ∧
        old.paymentStatus.isSettled = true ∧ old.paymentMethod = .cash
    · obtain ⟨old, inStore, same, paid, method⟩ := was
      obtain ⟨next, found, -, status, amount⟩ := follow.kept old inStore paid method
      rw [same, Table.find?_of_mem member] at found
      cases found
      rw [status, amount, ← same]
      exact agree.shown old inStore paid method
    · have zero := agree.refundedTotal_eq_zero fun old inStore same paid method =>
        was ⟨old, inStore, same, paid, method⟩
      obtain status | old := follow.origin invoice member settled cash
      · rw [zero, status]
        exact ⟨.inl rfl, rfl⟩
      · exact absurd old was
  · intro refund member
    rw [refunds] at member
    obtain ⟨row, inLedger, entry⟩ := agree.posted refund member
    exact ⟨row, grows.rows.subset inLedger, entry⟩
  · rw [refunds]
    exact agree.keys

/-- A refund is made, in cash. -/
theorem refunded (agree : CashRefundsAgree before) {refund : CashRefund} {row : CashTransaction}
    {invoice : Invoice} (made : CashRefundMade before after refund row invoice) :
    CashRefundsAgree after := by
  have isNew {other : CashRefund} (member : other ∈ after.cash.refunds) :
      other ∈ before.cash.refunds ∨ other = refund := (Table.mem_insert? made.inserted).mp member
  have key := Table.find?_key made.found
  have known := Table.mem_of_find? made.found
  have total (invoiceId : Id) : refundedTotal after.cash invoiceId =
      refundedTotal before.cash invoiceId +
        if decide (refund.invoiceId = invoiceId) = true then refund.amount else 0 :=
    Table.sumWhere_insert? made.inserted
  have inLedger {entry : CashTransaction} : entry ∈ after.cash.transactions ↔
      entry ∈ before.cash.transactions ∨ entry = row := by
    rw [Table.mem_def, made.appended, List.mem_append, List.mem_singleton]
    rfl
  constructor
  · intro other member
    obtain old | rfl := isNew member
    · exact agree.positive other old
    · exact made.positive
  · intro other member
    have source : ∃ old ∈ before.sales.invoices, old.id = other.invoiceId ∧
        old.paymentStatus.isSettled = true ∧ old.paymentMethod = .cash := by
      obtain old | rfl := isNew member
      · exact agree.ofInvoice other old
      · exact ⟨invoice, known, key, made.settled, made.cash⟩
    obtain ⟨old, inStore, same, settled, cash⟩ := source
    rw [made.invoices]
    refine ⟨_, Table.mem_update.mpr ⟨old, inStore, rfl⟩, ?_⟩
    split_ifs
    · exact ⟨same, rfl, cash⟩
    · exact ⟨same, rfl, cash⟩
    · exact ⟨same, settled, cash⟩
  · intro shown member settled cash
    rw [made.invoices] at member
    rw [total]
    obtain ⟨old, inStore, rfl⟩ := Table.mem_update.mp member
    by_cases same : old.id = refund.invoiceId
    · obtain rfl := Table.eq_of_find? made.found inStore same
      have nonneg := agree.refundedTotal_nonneg refund.invoiceId
      have positive := made.positive
      have within := made.within
      simp only [same, decide_true, Bool.and_self, if_true]
      refine ⟨.inr within, ?_⟩
      unfold refundedStatus
      rw [if_neg (show ¬refundedTotal before.cash refund.invoiceId + refund.amount = 0 by lia)]
      split_ifs <;> first | rfl | lia
    · have kept : ¬(decide (old.id = refund.invoiceId) &&
          decide (old.paymentStatus = invoice.paymentStatus)) = true := by simp [same]
      rw [if_neg kept] at settled cash ⊢
      have other : ¬decide (refund.invoiceId = old.id) = true := by simpa using Ne.symm same
      rw [if_neg other, Int.add_zero]
      exact agree.shown old inStore settled cash
  · intro other member
    obtain old | rfl := isNew member
    · obtain ⟨entry, inBefore, facts⟩ := agree.posted other old
      exact ⟨entry, inLedger.mpr (.inl inBefore), facts⟩
    · exact ⟨row, inLedger.mpr (.inr rfl), made.entry⟩
  · have apart {other : CashRefund} (member : other ∈ before.cash.refunds) :
        ¬((other.requestedById = refund.requestedById ∧
            other.idempotencyKey = refund.idempotencyKey) ∨
          other.cashTransactionId = refund.cashTransactionId) := by
      rintro (⟨employee, key⟩ | entry)
      · exact made.unused other member employee key
      · obtain ⟨old, inBefore, own, -⟩ := agree.posted other member
        have distinct := after.cash.transactions.distinct
        rw [made.appended, List.map_append, List.nodup_append] at distinct
        refine distinct.2.2 _ (List.mem_map_of_mem inBefore) _
          (List.mem_map_of_mem (List.mem_singleton_self row)) ?_
        rw [own, entry, made.entry.1]
    intro first firstMember second secondMember same
    obtain firstOld | rfl := isNew firstMember
    · obtain secondOld | rfl := isNew secondMember
      · exact agree.keys first firstOld second secondOld same
      · exact absurd (same.imp (fun key => ⟨key.1.symm, key.2.symm⟩) Eq.symm) (apart firstOld)
    · obtain secondOld | rfl := isNew secondMember
      · exact absurd same (apart secondOld)
      · rfl

theorem step (taken : Step before after) (agree : CashRefundsAgree before)
    (paid : PaymentsAgree before) (books : RefundsAgree before) : CashRefundsAgree after := by
  cases taken with
  | administer catalog reservations => exact { agree with }
  | commit command now committed =>
      obtain none | ⟨invoiceId, employeeId, input, rfl⟩ | ⟨refundId, requestId, response, rfl⟩ :=
        command.refunds_cases
      · have steps := Command.sales_steps committed
        rw [none] at steps
        refine agree.unrefunded (.of_steps steps) ((GrowsLedger.command ?_).step committed)
        rintro invoiceId employeeId input rfl
        cases none
      · obtain rfl | ⟨refund, row, invoice, -, made⟩ := commits_cashRefund committed
        · exact agree
        · exact agree.refunded made
      · have grows : LedgerGrows before.cash.refundLedger after.cash.refundLedger := by
          refine (GrowsLedger.command ?_).step committed
          intro invoiceId employeeId input same
          cases same
        cases RefundSteps.applyProviderResponse committed with
        | unsuccessful move same =>
            exact agree.unrefunded (.of_eq (by rw [same])) grows
        | @succeeded refund next call attempt asks own waits success replaces calls found attempts
            invoices =>
            refine agree.unrefunded (.updated invoices fun row member holds => ?_) grows
            -- A confirmed payment is of an invoice that is paid by transfer.
            obtain ⟨known, there, succeeded⟩ :=
              books.books.ofPayment refund replaces.member
            rw [found] at there
            cases there
            obtain ⟨invoice, located, -, transfer⟩ :=
              paid.confirmed attempt (Table.mem_of_find? found) succeeded
            have same := (Bool.and_eq_true_iff.mp holds).1
            rw [Table.eq_of_find? located member (of_decide_eq_true same), transfer]
            decide

end CashRefundsAgree

theorem Reachable.cashRefundsAgree {database : Database} (reachable : Reachable database) :
    CashRefundsAgree database := by
  refine reachable.invariant CashRefundsAgree .empty fun before after reached taken agree => ?_
  exact agree.step taken reached.paymentsAgree reached.refundsAgree

/-- The sample shop where one of the two cups that were sold is refunded. -/
def Database.cupReturned : Database := Database.sold.performAll [
  (.order (.updateItemStatus 2 0 .cooking), 8),
  (.order (.updateItemStatus 2 0 .served), 9),
  (.invoice (.refundCash 3 0 {
    expectedShiftId := 5
    amount := ⟨3500000, by decide⟩
    reason := "Cold"
    idempotencyKey := "cold" }), 10)]

theorem Reachable.cupReturned : Reachable Database.cupReturned := Reachable.sold.performAll _

/-- A cash invoice shows what was refunded of it. -/
theorem CashRefundsAgree.status_cases {database : Database} (agree : CashRefundsAgree database)
    {invoice : Invoice} (member : invoice ∈ database.sales.invoices)
    (cash : invoice.paymentMethod = .cash) :
    let refunded := refundedTotal database.cash invoice.id
    (refunded = 0 ∧ (invoice.paymentStatus = .unpaid ∨ invoice.paymentStatus = .voided ∨
        invoice.paymentStatus = .paid)) ∨
      (0 < refunded ∧ refunded < invoice.totalAmount ∧
        invoice.paymentStatus = .partiallyRefunded) ∨
      (0 < refunded ∧ refunded = invoice.totalAmount ∧ invoice.paymentStatus = .refunded) := by
  intro refunded
  by_cases settled : invoice.paymentStatus.isSettled = true
  · obtain ⟨fits, status⟩ := agree.shown invoice member settled cash
    have nonneg := agree.refundedTotal_nonneg invoice.id
    rw [status]
    change refunded = 0 ∨ refunded ≤ invoice.totalAmount at fits
    change 0 ≤ refunded at nonneg
    change (_ ∧ (refundedStatus invoice.totalAmount refunded = _ ∨ _)) ∨ _
    unfold refundedStatus
    split_ifs <;> simp <;> lia
  · have zero : refunded = 0 := by
      refine agree.refundedTotal_eq_zero fun other inStore same paid _ => ?_
      rw [Table.eq_of_key_eq inStore member same] at paid
      exact settled paid
    refine .inl ⟨zero, ?_⟩
    cases status : invoice.paymentStatus with
    | unpaid => exact .inl rfl
    | voided => exact .inr (.inl rfl)
    | paid => exact .inr (.inr rfl)
    | partiallyRefunded | refunded =>
        rw [status] at settled
        exact absurd rfl settled

/-- What was refunded of a cash invoice never exceeds its total, and its status shows it: nothing
of a paid invoice, a part, or all of it; an invoice that is not paid has no refund. -/
theorem Reachable.cashRefunds_withinInvoice {database : Database} (reachable : Reachable database)
    {invoice : Invoice} (member : invoice ∈ database.sales.invoices)
    (cash : invoice.paymentMethod = .cash) :
    let refunded := refundedTotal database.cash invoice.id
    (refunded = 0 ∧ (invoice.paymentStatus = .unpaid ∨ invoice.paymentStatus = .voided ∨
        invoice.paymentStatus = .paid)) ∨
      (0 < refunded ∧ refunded < invoice.totalAmount ∧
        invoice.paymentStatus = .partiallyRefunded) ∨
      (0 < refunded ∧ refunded = invoice.totalAmount ∧ invoice.paymentStatus = .refunded) :=
  reachable.cashRefundsAgree.status_cases member cash

/-- The invoice of the two cups is refunded in part. -/
theorem Reachable.cashRefunds_withinInvoice_cupReturned :
    ∃ invoice ∈ Database.cupReturned.sales.invoices,
      0 < refundedTotal Database.cupReturned.cash invoice.id ∧
        refundedTotal Database.cupReturned.cash invoice.id < invoice.totalAmount := by
  have sold : (Database.cupReturned.sales.invoices.find? 3).any fun invoice =>
      invoice.paymentMethod = .cash && invoice.paymentStatus = .partiallyRefunded := by
    decide +kernel
  obtain ⟨invoice, found, holds⟩ := (Option.any_eq_true _ _).mp sold
  simp only [Bool.and_eq_true, decide_eq_true_eq] at holds
  have member := Table.mem_of_find? found
  obtain ⟨-, unpaid | voided | paid⟩ | ⟨positive, less, -⟩ | ⟨-, -, refunded⟩ :=
    Reachable.cupReturned.cashRefunds_withinInvoice member holds.1
  · rw [unpaid] at holds
    cases holds.2
  · rw [voided] at holds
    cases holds.2
  · rw [paid] at holds
    cases holds.2
  · exact ⟨invoice, member, positive, less⟩
  · rw [refunded] at holds
    cases holds.2

/-- A cash refund is of a paid cash invoice and has a row of its own in the ledger, an expense of
its amount, and no other refund of the employee has its key. -/
theorem Reachable.cashRefund_postedOnce {database : Database} (reachable : Reachable database)
    {refund : CashRefund} (member : refund ∈ database.cash.refunds) :
    0 < refund.amount ∧
      (∃ invoice ∈ database.sales.invoices, invoice.id = refund.invoiceId ∧
        invoice.paymentMethod = .cash ∧
        (invoice.paymentStatus = .partiallyRefunded ∨ invoice.paymentStatus = .refunded)) ∧
      (∃ row ∈ database.cash.transactions, row.id = refund.cashTransactionId ∧
        row.type = .expense ∧ row.amount = refund.amount) ∧
      ∀ other ∈ database.cash.refunds, (other.requestedById = refund.requestedById ∧
        other.idempotencyKey = refund.idempotencyKey) ∨
          other.cashTransactionId = refund.cashTransactionId → other = refund := by
  have agree := reachable.cashRefundsAgree
  refine ⟨agree.positive refund member, ?_, agree.posted refund member,
    fun other otherMember same =>
      Table.eq_of_key_eq otherMember member (agree.keys refund member other otherMember same)⟩
  obtain ⟨invoice, inStore, same, settled, cash⟩ := agree.ofInvoice refund member
  refine ⟨invoice, inStore, same, cash, ?_⟩
  have some_ := agree.refundedTotal_pos member
  rw [← same] at some_
  rw [(agree.shown invoice inStore settled cash).2]
  unfold refundedStatus
  rw [if_neg some_.ne']
  split_ifs
  · exact .inr rfl
  · exact .inl rfl

/-- The cup was refunded once. -/
theorem Reachable.cashRefund_postedOnce_cupReturned :
    ∃ refund ∈ Database.cupReturned.cash.refunds, ∃ row ∈ Database.cupReturned.cash.transactions,
      row.id = refund.cashTransactionId ∧ row.type = .expense ∧ row.amount = refund.amount := by
  have made : (Database.cupReturned.cash.refunds.find? 8).isSome := by decide +kernel
  obtain ⟨refund, found⟩ := Option.isSome_iff_exists.mp made
  have member := Table.mem_of_find? found
  exact ⟨refund, member, (Reachable.cupReturned.cashRefund_postedOnce member).2.2.1⟩

end CoffeeShop
