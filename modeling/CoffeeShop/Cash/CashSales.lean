import CoffeeShop.Cash.ShiftReconciliation
import CoffeeShop.Store.Products

/-!
The cash sales of a shift are the invoices in its ledger.

An invoice counts as a cash sale of its shift from the transaction that books it in the
ledger.  Refunds keep it counted, and no other transaction makes an invoice count.
-/

-- An instance for a program has one node for each of its statements.
set_option synthInstance.maxSize 100000

namespace CoffeeShop

open Transaction CashStore CashierShifts

/-- What an invoice contributes to the cash sales of a shift. -/
def cashSale (shiftId : Id) (invoice : Invoice) : Money :=
  if countsFor shiftId invoice && invoice.paymentMethod = .cash then invoice.totalAmount else 0

theorem cashSales_eq (sales : SalesStore) (shiftId : Id) :
    cashSales sales shiftId = sales.invoices.sum (cashSale shiftId) :=
  Table.sumWhere_eq _ _ _

/-- Every cash sale is in the ledger of its shift, and the other way round. -/
def SalesBooked (database : Database) : Prop :=
  cashSales database.sales = invoiceIncome database.cash.transactions

section Frames

open SalesStore Database

instance : Apart cashSales diningTable := ⟨fun _ _ => rfl⟩
instance : Apart cashSales orderSession := ⟨fun _ _ => rfl⟩
instance : Apart cashSales orderItem := ⟨fun _ _ => rfl⟩
instance : Apart cashSales recipeIngredient := ⟨fun _ _ => rfl⟩
instance : Apart cashSales orderRemake := ⟨fun _ _ => rfl⟩
instance : Apart cashSales kitchenTicket := ⟨fun _ _ => rfl⟩
instance : Apart cashSales kitchenTicketItem := ⟨fun _ _ => rfl⟩
instance : Apart cashSales onlineOrderRequest := ⟨fun _ _ => rfl⟩
instance : Apart cashSales reservation := ⟨fun _ _ => rfl⟩
instance : Apart SalesBooked inventoryPart := ⟨fun _ _ => rfl⟩
instance : Apart SalesBooked paymentPart := ⟨fun _ _ => rfl⟩
instance : Apart SalesBooked idPart := ⟨fun _ _ => rfl⟩

/-- The invoices in the ledger of each shift. -/
def bookedIncome (cash : CashStore) : Id → Money := invoiceIncome cash.transactions

instance : Apart bookedIncome fund := ⟨fun _ _ => rfl⟩
instance : Apart bookedIncome cashierShift := ⟨fun _ _ => rfl⟩
instance : Apart bookedIncome cashExpenseRequest := ⟨fun _ _ => rfl⟩
instance : Apart bookedIncome cashHandover := ⟨fun _ _ => rfl⟩
instance : Apart bookedIncome cashRefund := ⟨fun _ _ => rfl⟩
instance : Apart bookedIncome bankStatementImport := ⟨fun _ _ => rfl⟩

instance SalesBooked.salesTx {α : Type} {program : Tx SalesStore Failure α}
    [keeps : Keeps cashSales program] : Preserves SalesBooked (salesTx program) where
  step before result after committed booked := by
    obtain ⟨sales, ran, rfl⟩ := commits_salesTx.mp committed
    exact (Keeps.eq cashSales ran).trans booked

instance SalesBooked.cashTx {α : Type} {program : Tx CashStore Failure α}
    [keeps : Keeps bookedIncome program] : Preserves SalesBooked (cashTx program) where
  step before result after committed booked := by
    obtain ⟨cash, ran, rfl⟩ := commits_cashTx.mp committed
    exact booked.trans (Keeps.eq bookedIncome ran).symm

end Frames

section Ledger

variable {now : Timestamp}

/-- A ledger row without an invoice. -/
theorem createTransaction_unbilled {row : CashTransaction} (unbilled : row.invoiceId = none) :
    Keeps bookedIncome (CashierShiftLedger.createTransaction row) where
  step before result after committed := by
    obtain ⟨-, appended, -⟩ := commits_createTransaction committed
    funext shiftId
    simp [bookedIncome, invoiceIncome, Table.sumWhere, Table.select, appended, unbilled]

instance movementEntry_unbilled {input : MovementInput} {id : Id} : Keeps bookedIncome
    (CashierShiftLedger.createTransaction (movementEntry input id now)) :=
  createTransaction_unbilled rfl

instance handoverEntry_unbilled {fundId : Id} {type : CashFlowType} {amount : Money}
    {employeeId id : Id} : Keeps bookedIncome (CashierShiftLedger.createTransaction
      (CashHandovers.handoverEntry fundId type amount employeeId id now)) :=
  createTransaction_unbilled rfl

instance refundEntry_unbilled {input : CreateCashRefundInput} {employeeId id : Id}
    {shift : OpenCashierShiftContext} : Keeps bookedIncome (CashierShiftLedger.createTransaction
      (CashRefunds.refundEntry input employeeId shift id now)) :=
  createTransaction_unbilled rfl

instance moveBalance_unbilled {input : MovementInput} : Keeps bookedIncome (moveBalance input) := by
  unfold moveBalance
  split <;> infer_instance

/-- A sale in a shift is booked there. -/
theorem bookedIncome_recordCashInvoice {input : CashierShiftLedger.RecordCashInvoiceInput}
    {before after : Database} {result : Unit}
    (committed : Commits (CashierShiftLedger.recordCashInvoice input now) before result after)
    (shiftId : Id) : bookedIncome after.cash shiftId =
      bookedIncome before.cash shiftId + if input.shift.id = shiftId then input.amount else 0 := by
  obtain ⟨posts, -⟩ := CashierShiftLedger.recordCashInvoice_posts committed
  rw [bookedIncome, invoiceIncome, posts.sumWhere]
  by_cases same : input.shift.id = shiftId
  · simp [same, bookedIncome, invoiceIncome, CashierShiftLedger.invoiceEntry, CashFlowType.signed]
  · simp [same, bookedIncome, invoiceIncome, CashierShiftLedger.invoiceEntry]

end Ledger

section Invoices

open SalesStore

/-- An update of invoices that keeps what each of them contributes. -/
theorem cashSales_update {sales : SalesStore} {condition : Invoice → Bool}
    {change : Invoice → Invoice} {keeps : ∀ row, (change row).id = row.id}
    (same : ∀ row ∈ sales.invoices, condition row → ∀ shiftId,
      cashSale shiftId (change row) = cashSale shiftId row) :
    cashSales { sales with invoices := sales.invoices.update condition change keeps } =
      cashSales sales := by
  funext shiftId
  rw [cashSales_eq, cashSales_eq]
  simp only [Table.sum, Table.update, List.map_map]
  refine congrArg List.sum (List.map_congr_left fun row membership => ?_)
  by_cases holds : condition row
  · simp [holds, same row membership holds shiftId]
  · simp [holds]

/-- An update of the invoice with one key, whose guard decides what it contributed. -/
theorem updateExpecting_uncounted {id : Id} {guard : Invoice → Bool} {change : Invoice → Invoice}
    {keeps : ∀ row, (change row).id = row.id} {failure : Failure}
    (same : ∀ row, guard row → ∀ shiftId, cashSale shiftId (change row) = cashSale shiftId row) :
    Keeps cashSales (updateExpecting invoice id guard change failure keeps) where
  step before result after committed := by
    obtain ⟨-, rfl⟩ := commits_updateExpecting.mp committed
    refine (cashSales_update fun row membership holds => same row ?_).symm
    simp only [Bool.and_eq_true] at holds
    exact holds.2

theorem cashSale_of_unsettled {invoice : Invoice} (unsettled : invoice.paymentStatus.isSettled = false)
    (shiftId : Id) : cashSale shiftId invoice = 0 := by
  simp [cashSale, countsFor, unsettled]

instance completeOnlinePayment {input : InvoicesService.CompleteOnlinePaymentInput} :
    Keeps cashSales (InvoicesService.completeOnlinePayment input) := by
  have confirms (existing : Invoice) (failure : Failure) : Keeps cashSales
      (updateExpecting invoice existing.id (fun row => row.paymentStatus = .unpaid)
        (fun row => { row with
          paymentStatus := .paid
          paymentMethod := .transfer
          amountTendered := some existing.totalAmount
          changeAmount := some 0
          employeeId := input.employeeId
          shiftId := some input.shiftId }) failure) := by
    refine updateExpecting_uncounted fun row unpaid shiftId => ?_
    have unsettled : row.paymentStatus.isSettled = false := by
      rw [of_decide_eq_true unpaid]
      rfl
    rw [cashSale_of_unsettled unsettled]
    simp [cashSale]
  dsimp only [InvoicesService.completeOnlinePayment, InvoicesService.markItemsPaid,
    InvoicesService.closeSessionIfFullyPaid]
  infer_instance

instance renewPickupCode_cashSales {found : Invoice} {issuedAt : Option Timestamp} :
    Keeps cashSales (TakeawayService.renewPickupCode found issuedAt) := by
  have renews (guard : Invoice → Bool) (version : Option Nat) (failure : Failure) :
      Keeps cashSales (updateExpecting invoice found.id guard
        (fun row => { row with pickupCodeVersion := version, pickupCodeIssuedAt := issuedAt })
        failure) :=
    updateExpecting_uncounted fun _ _ _ => rfl
  dsimp only [TakeawayService.renewPickupCode]
  infer_instance

/-- A refund of a settled invoice leaves it settled. -/
theorem cashSale_refund {row : Invoice} {status : PaymentStatus}
    (before : row.paymentStatus.isSettled) (after : status.isSettled) (shiftId : Id) :
    cashSale shiftId { row with paymentStatus := status } = cashSale shiftId row := by
  simp [cashSale, countsFor, before, after]

theorem refundInvoices {condition : Invoice → Bool} {status : PaymentStatus}
    (refunded : status.isSettled) : Keeps cashSales
      (updateMany invoice (fun row => condition row && PaymentRefunds.isRefundable row)
        (fun row => { row with paymentStatus := status }) : Tx SalesStore Failure _) where
  step before result after committed := by
    obtain ⟨-, rfl⟩ := commits_updateMany.mp committed
    refine (cashSales_update fun row membership holds shiftId => ?_).symm
    refine cashSale_refund ?_ refunded shiftId
    simp only [Bool.and_eq_true, PaymentRefunds.isRefundable, Bool.or_eq_true,
      decide_eq_true_eq] at holds
    rcases holds.2 with status | status <;> simp [status, PaymentStatus.isSettled]

/-- A new invoice contributes what it counts for. -/
theorem cashSales_insert {sales : SalesStore} {row : Invoice} {invoices : Table Invoice.id}
    (inserted : sales.invoices.insert? row = some invoices) (shiftId : Id) :
    cashSales { sales with invoices } shiftId = cashSales sales shiftId + cashSale shiftId row := by
  rw [cashSales_eq, cashSales_eq]
  exact Table.sum_insert? inserted

/-- A payment of an unpaid invoice makes it count in the shift of the payment. -/
theorem cashSales_pay {sales : SalesStore} {id : Id} {existing : Invoice}
    {payment : PaymentMethod × Option Money} {employeeId payShiftId : Id}
    (found : sales.invoices.find? id = some existing) (unpaid : existing.paymentStatus = .unpaid)
    (shiftId : Id) :
    cashSales { sales with
      invoices := sales.invoices.update (fun row => row.id = id && true)
        (InvoicesService.settled payment existing.totalAmount employeeId payShiftId) } shiftId =
          cashSales sales shiftId +
            if payment.1 = .cash ∧ payShiftId = shiftId then existing.totalAmount else 0 := by
  obtain ⟨membership, key⟩ := Table.find?_eq_some.mp found
  have unsettled : existing.paymentStatus.isSettled = false := by
    rw [unpaid]
    rfl
  have only (other : Invoice) (holds : (decide (other.id = id) && true) = true) :
      other.id = existing.id := by
    rw [key]
    simpa using holds
  have keeps (row : Invoice) : (InvoicesService.settled payment existing.totalAmount employeeId
      payShiftId row).id = row.id := rfl
  have changed : (sales.invoices.update _ _ keeps).sum (cashSale shiftId) = _ :=
    Table.sum_update_key membership (by simp [key]) fun other _ => only other
  rw [cashSales_eq, cashSales_eq]
  refine changed.trans ?_
  rw [cashSale_of_unsettled unsettled]
  by_cases same : payShiftId = shiftId
  · simp [cashSale, countsFor, InvoicesService.settled, PaymentStatus.isSettled, same]
  · simp [cashSale, countsFor, InvoicesService.settled, same]

end Invoices

/-- The cash sales of the shifts stay the same. -/
abbrev KeepsCashSales {α : Type} (program : Transact α) : Prop :=
  Respects (On Database.sales (On cashSales Eq)) program

namespace KeepsCashSales

open InvoicesService

variable {id employeeId : Id} {now : Timestamp}

instance reserveInvoiceStock : KeepsCashSales (InvoicesService.reserveInvoiceStock id now) := by
  dsimp only [InvoicesService.reserveInvoiceStock, InventoryConsumption.reservePendingItems,
    InventoryConsumption.snapshotLegacyRecipes]
  infer_instance

instance closeSession {session : OrderSession} :
    KeepsCashSales (salesTx (closeSessionIfFullyPaid session)) := by
  dsimp only [closeSessionIfFullyPaid]
  infer_instance

/-- The invoice of a checkout counts as a cash sale if it is paid in cash in a shift. -/
theorem issueInvoice_cashSales {request : CreateInvoiceRequest} {catalog : Catalog}
    {draft : InvoiceDraft} {shiftId : Option Id} {before after : SalesStore} {result : Unit}
    (committed : Commits (issueInvoice request catalog draft id shiftId now) before result after)
    (wanted : Id) : cashSales after wanted = cashSales before wanted +
      if shiftId = some wanted ∧ request.paymentStatus.isSettled ∧ request.paymentMethod = .cash
      then draft.calculation.totalAmount else 0 := by
  simp only [issueInvoice, commits_bind, commits_get, commits_insertInvoice, commits_updateMany,
    commits_require] at committed
  obtain ⟨_, _, ⟨rfl, rfl⟩, _, _, numbered, _, _, ⟨-, invoices, inserted, rfl⟩, _, _, ⟨-, rfl⟩, -,
    rfl⟩ := committed
  cases Respects.step (R := Eq) numbered
  refine (cashSales_insert inserted wanted).trans ?_
  simp [cashSale, countsFor, and_assoc]

theorem createInvoiceInTransaction_booked {request : CreateInvoiceRequest} {onlinePickup : Bool}
    (status : request.paymentStatus = .paid ∨ request.paymentStatus = .unpaid) :
    Preserves SalesBooked (createInvoiceInTransaction request onlinePickup now) where
  step before result after committed booked := by
    obtain ⟨issue⟩ := commits_createInvoiceInTransaction committed
    have reserved : cashSales issue.reserved.sales = cashSales issue.issued :=
      (Respects.step (R := On Database.sales (On cashSales Eq)) issue.reserve).symm
    have recorded : issue.recorded.sales = issue.reserved.sales :=
      Keeps.eq Database.sales issue.record
    have closed : cashSales after.sales = cashSales issue.recorded.sales :=
      (Respects.step (R := On Database.sales (On cashSales Eq)) issue.close).symm
    funext wanted
    have required := issue.required
    rw [closed, recorded, reserved, issueInvoice_cashSales issue.issue, booked]
    change _ = bookedIncome after.cash wanted
    rw [issue.recorded_cash]
    rcases commits_whenSome.mp issue.record with ⟨shift, present, record⟩ | ⟨absent, kept⟩
    · have settled : request.paymentStatus.isSettled := by
        rcases status with paid | unpaid
        · rw [paid]
          rfl
        · simp [requireShiftIfPaid, present, unpaid] at required
      rcases commits_when.mp record with ⟨cash, books⟩ | ⟨other, kept⟩
      · rw [bookedIncome_recordCashInvoice books, issue.reserved_cash]
        simp [present, settled, cash, bookedIncome]
      · rw [kept, issue.reserved_cash]
        simp [other, bookedIncome]
    · rw [kept, issue.reserved_cash]
      simp [absent, bookedIncome]

instance createInvoice {input : CreateInvoiceInput} :
    Preserves SalesBooked (InvoicesService.createInvoice employeeId input now) := by
  have issues (request : CreateInvoiceRequest) (unpaid : request.paymentStatus = .unpaid) :
      Preserves SalesBooked (createInvoiceInTransaction request false now) :=
    createInvoiceInTransaction_booked (.inr unpaid)
  have issue := issues {
    employeeId
    input
    paymentStatus := .unpaid
    paymentMethod := .cash
    amountTendered := none
    closeSessionAfterPayment := false } rfl
  dsimp only [InvoicesService.createInvoice]
  infer_instance

instance checkoutInvoice {input : CheckoutInvoiceInput} :
    Preserves SalesBooked (InvoicesService.checkoutInvoice employeeId input now) := by
  have issue (request : CreateInvoiceRequest) (paid : request.paymentStatus = .paid) :
      Preserves SalesBooked (createInvoiceInTransaction request false now) :=
    createInvoiceInTransaction_booked (.inl paid)
  have checkout := issue {
    employeeId
    input := input.toCreateInvoiceInput
    paymentStatus := .paid
    paymentMethod := input.paymentMethod
    amountTendered := input.amountTendered
    closeSessionAfterPayment := input.closeSessionAfterPayment } rfl
  dsimp only [InvoicesService.checkoutInvoice]
  infer_instance

instance checkoutOnlinePickup {amountTendered : Money} : Preserves SalesBooked
    (checkoutOnlinePickupInTransaction employeeId id amountTendered now) :=
  createInvoiceInTransaction_booked (.inl rfl)

instance collectRequest {amountTendered : Money} :
    Preserves SalesBooked (OnlineOrders.collect id employeeId amountTendered now) := by
  dsimp only [OnlineOrders.collect]
  infer_instance

instance updatePayment {input : UpdateInvoicePaymentInput} :
    Preserves SalesBooked (InvoicesService.updatePayment id employeeId input now) where
  step before result after committed booked := by
    obtain ⟨payment⟩ := commits_updatePayment committed
    have paid : cashSales payment.paid = cashSales { before.sales with
        invoices := before.sales.invoices.update (fun row => row.id = id && true)
          (settled payment.payment payment.existing.totalAmount employeeId payment.shift.id) } := by
      obtain ⟨_, _, updated, marked⟩ := commits_bind.mp payment.pay
      obtain ⟨-, rfl⟩ := commits_updateExpecting.mp updated
      have keeps : Keeps cashSales (markItemsPaid id) := by
        dsimp only [markItemsPaid]
        infer_instance
      exact Keeps.eq cashSales marked
    have reserved : cashSales payment.reserved.sales = cashSales payment.paid :=
      (Respects.step (R := On Database.sales (On cashSales Eq)) payment.reserve).symm
    have recorded : payment.recorded.sales = payment.reserved.sales :=
      Keeps.eq Database.sales payment.record
    have closed : cashSales after.sales = cashSales payment.recorded.sales :=
      (Respects.step (R := On Database.sales (On cashSales Eq)) payment.close).symm
    funext wanted
    rw [closed, recorded, reserved, paid, cashSales_pay payment.found payment.unpaid, booked]
    change _ = bookedIncome after.cash wanted
    rw [payment.recorded_cash]
    rcases commits_when.mp payment.record with ⟨cash, books⟩ | ⟨other, kept⟩
    · rw [bookedIncome_recordCashInvoice books, payment.reserved_cash]
      simp [cash, bookedIncome]
    · rw [kept, payment.reserved_cash]
      simp [other, bookedIncome]

instance voidInvoice : KeepsCashSales (InvoicesService.voidInvoice id employeeId) where
  step before result after committed := by
    obtain ⟨void⟩ := commits_voidInvoice committed
    have uncounted (row : Invoice) (membership : row ∈ before.sales.invoices)
        (holds : (decide (row.id = id) && true) = true) :
        row.paymentStatus.isSettled = false := by
      have same : row.id = id := by simpa using holds
      have found := Table.find?_of_mem membership
      rw [same, void.found] at found
      rw [← Option.some.inj found, void.unpaid]
      rfl
    have keeps : cashSales { before.sales with
        invoices := before.sales.invoices.update (fun row => row.id = id && true) fun row =>
          { row with
            paymentStatus := .voided
            documentSnapshot := row.documentSnapshot <|> some void.snapshot } } =
          cashSales before.sales := cashSales_update fun row membership holds shiftId => by
      rw [cashSale_of_unsettled (uncounted row membership holds), cashSale_of_unsettled rfl]
    change cashSales before.sales = cashSales after.sales
    rw [void.sales_eq]
    exact keeps.symm

/-- A cash refund settles for a part or for the whole of a settled invoice. -/
instance createCashRefund {input : CreateCashRefundInput} :
    KeepsCashSales (CashRefunds.createRefund id employeeId input now) where
  step before result after committed := by
    simp only [CashRefunds.createRefund, CashRefunds.assertRefundable, commits_bind, commits_get,
      commits_salesTx, commits_findUniqueOrFail, commits_cashTx, commits_require, commits_freshId,
      commits_updateExpecting] at committed
    obtain ⟨_, _, ⟨rfl, rfl⟩, found, _, ⟨_, ⟨-, rfl⟩, rfl⟩, _, _, ⟨_, _, ⟨⟨-, status⟩, rfl⟩, -, -,
      ⟨-, rfl⟩, -, rfl⟩, _, _, ⟨-, rfl⟩, _, _, ⟨_, -, rfl⟩, _, _, ⟨-, rfl⟩, _, _, ⟨rfl, rfl⟩, _, _,
      ⟨rfl, rfl⟩, _, _, ⟨_, -, rfl⟩, _, ⟨-, rfl⟩, rfl⟩ := committed
    refine (cashSales_update fun row membership holds shiftId => ?_).symm
    refine cashSale_refund ?_ ?_ shiftId
    · simp only [Bool.and_eq_true, decide_eq_true_eq] at holds
      rw [holds.2]
      rcases status with paid | partly
      · simp [paid, PaymentStatus.isSettled]
      · simp [partly, PaymentStatus.isSettled]
    · split <;> rfl

instance completeSuccessfulRefund {attempt : PaymentAttempt} {refund : PaymentRefund}
    {response : VnpayRefundResponse} : KeepsCashSales
      (PaymentRefunds.completeSuccessfulRefund attempt refund response now) := by
  have refunds (condition : Invoice → Bool) (amount total : Money) : Keeps cashSales
      (updateMany SalesStore.invoice
        (fun invoice => condition invoice && PaymentRefunds.isRefundable invoice)
        (fun invoice => { invoice with
          paymentStatus := if amount ≤ total then .refunded else .partiallyRefunded }) :
        Tx SalesStore Failure _) := by
    refine refundInvoices ?_
    split <;> rfl
  dsimp only [PaymentRefunds.completeSuccessfulRefund]
  infer_instance

instance cashRefund {input : CreateCashRefundInput} :
    KeepsCashSales (CashRefunds.create id employeeId input now) := by
  dsimp only [CashRefunds.create]
  infer_instance

instance completeInvoice {attempt : PaymentAttempt} :
    KeepsCashSales (PaymentsService.completeInvoice attempt) := by
  dsimp only [PaymentsService.completeInvoice]
  infer_instance

instance confirmProviderPayment {found : AttemptView} {number : Option String} : KeepsCashSales
    (PaymentReconciliation.confirmProviderPayment found number now) := by
  dsimp only [PaymentReconciliation.confirmProviderPayment]
  infer_instance

instance applyResponse {attempt : PaymentAttempt}
    {response : PaymentReconciliation.ProviderResponse} :
    KeepsCashSales (PaymentReconciliation.applyResponse attempt response now) := by
  unfold PaymentReconciliation.applyResponse
  split
  · dsimp only [PaymentReconciliation.applyQueryResponse]
    infer_instance
  · dsimp only [PaymentReconciliation.applyMomoResponse]
    infer_instance
  · dsimp only [PaymentReconciliation.applyPayosResponse]
    infer_instance
  · infer_instance

instance paymentCommand {command : PaymentCommand} : KeepsCashSales (command.execute now) := by
  cases command
  all_goals
    dsimp only [PaymentCommand.execute, PaymentsService.createAttempt, PaymentsService.openAttempt,
      PaymentsService.handleVnpayIpn, PaymentsService.applyVnpay, PaymentsService.settleVnpay,
      PaymentsService.handleMomoIpn, PaymentsService.applyMomo, PaymentsService.settleMomo,
      PaymentReconciliation.queryProvider, PaymentRefunds.applyProviderResponse]
    infer_instance

instance createTicket {catalog : Catalog} {items : List OrderItem} {pickupAt : Option Timestamp}
    {station : KitchenStation} :
    KeepsCashSales (KitchenRouting.createTicket catalog id items pickupAt now station) := by
  dsimp only [KitchenRouting.createTicket]
  infer_instance

instance createTickets {items : List OrderItem} {pickupAt : Option Timestamp} :
    KeepsCashSales (KitchenRouting.createTickets id items pickupAt now) := by
  dsimp only [KitchenRouting.createTickets]
  infer_instance

instance claimTable : Keeps cashSales (OrdersService.claimTable id) := by
  dsimp only [OrdersService.claimTable]
  infer_instance

instance createOrderSession {tableId : Option Id} {guestCount : Option Nat} : KeepsCashSales
    (OrdersService.createOrderSession tableId employeeId guestCount now) := by
  dsimp only [OrdersService.createOrderSession, OrdersService.insertSession]
  infer_instance

instance addOrderItemsInTransaction {items : List OrderItemInput}
    {quotes : Option (List OnlineOrderQuote)} {pickupAt : Option Timestamp} : KeepsCashSales
      (OrdersService.addOrderItemsInTransaction id items quotes pickupAt now) := by
  dsimp only [OrdersService.addOrderItemsInTransaction, OrdersService.insertItems]
  infer_instance

instance cancelActiveSession {session : OrderSession} {paidMessage processedMessage : String} :
    Keeps cashSales (OrdersService.cancelActiveSession session paidMessage processedMessage) := by
  dsimp only [OrdersService.cancelActiveSession, OrderPolicy.assertNoPaidOrInvoicedItems,
    OrderPolicy.assertNoProcessedItems]
  infer_instance

instance moveLine {destinationId : Id} {pair : OrderItem × SplitItem} :
    KeepsCashSales (OrdersService.moveLine id destinationId now pair) := by
  dsimp only [OrdersService.moveLine, OrdersService.dividePart, OrdersService.splitTicketItem,
    OrdersService.updateSplitItem]
  infer_instance

instance orderCommand {command : OrderCommand} : KeepsCashSales (command.execute now) := by
  cases command
  all_goals
    dsimp only [OrderCommand.execute, OrdersService.openSession, OrdersService.addOrderItems,
      OrdersService.updateItemStatus, OrdersService.handoffTakeawayItem,
      OrdersService.handoffWithPickupCode, OrdersService.changeItemStatus,
      OrdersService.cancelItem, OrdersService.remakeItem, OrdersService.createRemake,
      OrdersService.cancelSession, OrdersService.setTableStatus, OrdersService.transferTable,
      OrdersService.mergeTables, OrderPolicy.assertNoPaidOrInvoicedItems,
      OrdersService.splitTable, OrdersService.prepareSplit, OrdersService.insertSession,
      OrdersService.completeSession, OrdersService.clearTable, TakeawayService.revokePickupCode,
      TakeawayService.provisionPickupCode]
    infer_instance

instance cancelItems {session : OrderSession} {items : List OrderItem}
    {cancellable : ServeStatus → Bool} {failure : Failure} :
    Keeps cashSales (OnlineOrders.cancelItems session items cancellable failure) := by
  dsimp only [OnlineOrders.cancelItems]
  infer_instance

instance closeCancelled {session : OrderSession} {reason : String} {noShow : Bool} :
    Keeps cashSales (OnlineOrders.closeCancelled id session reason noShow now) := by
  dsimp only [OnlineOrders.closeCancelled]
  infer_instance

instance cancelPublicRequest : KeepsCashSales (OnlineOrders.cancelPublicRequest id now) := by
  dsimp only [OnlineOrders.cancelPublicRequest, OnlineOrders.cancelUnprepared]
  infer_instance

instance cancelAcceptedRequest {reason : String} {noShow : Bool} :
    KeepsCashSales (OnlineOrders.cancelAcceptedRequest id employeeId reason noShow now) := by
  dsimp only [OnlineOrders.cancelAcceptedRequest]
  infer_instance

instance cancelAccepted {reason : String} :
    KeepsCashSales (OnlineOrders.cancelAccepted id employeeId reason now) := by
  dsimp only [OnlineOrders.cancelAccepted]
  infer_instance

instance markNoShow : KeepsCashSales (OnlineOrders.markNoShow id employeeId now) := by
  dsimp only [OnlineOrders.markNoShow]
  infer_instance

instance tableCommand {command : TableCommand} : KeepsCashSales (command.execute now) := by
  cases command
  all_goals
    dsimp only [TableCommand.execute, DiningTablesService.createTable,
      DiningTablesService.updateTable, DiningTablesService.deleteTable,
      OrdersService.checkInReservation]
    infer_instance

instance acceptRequest : KeepsCashSales (OnlineOrders.accept id employeeId now) := by
  dsimp only [OnlineOrders.accept, OrdersService.createOnlineTakeawaySession,
    InventoryConsumption.reserveSession, InventoryConsumption.reservePendingItems,
    InventoryConsumption.snapshotLegacyRecipes]
  infer_instance

end KeepsCashSales

/-- The ledger income from invoices stays the same. -/
abbrev KeepsBookedIncome {α : Type} (program : Transact α) : Prop :=
  Respects (On Database.cash (On bookedIncome Eq)) program

namespace SalesBooked

variable {now : Timestamp}

theorem of_keeps {α : Type} {program : Transact α} [sold : KeepsCashSales program]
    [booked : KeepsBookedIncome program] : Preserves SalesBooked program where
  step _ _ _ committed holds :=
    (sold.step committed).symm.trans (holds.trans (booked.step committed))

instance onlineCommand {command : OnlineCommand} :
    Preserves SalesBooked (command.execute now) := by
  cases command with
  | collect id employeeId amountTendered => exact KeepsCashSales.collectRequest
  | receive input =>
      dsimp only [OnlineCommand.execute, OnlineOrders.receive]
      infer_instance
  | accept id employeeId =>
      dsimp only [OnlineCommand.execute]
      exact of_keeps
  | reject id employeeId reason =>
      dsimp only [OnlineCommand.execute, OnlineOrders.reject]
      infer_instance
  | cancelPublicRequest id =>
      dsimp only [OnlineCommand.execute]
      exact of_keeps
  | cancelAccepted id employeeId reason =>
      dsimp only [OnlineCommand.execute]
      exact of_keeps
  | markNoShow id employeeId =>
      dsimp only [OnlineCommand.execute]
      exact of_keeps

instance createRefund {id employeeId : Id} {input : CreateCashRefundInput} :
    KeepsBookedIncome (CashRefunds.createRefund id employeeId input now) := by
  dsimp only [CashRefunds.createRefund, CashRefunds.postRefund]
  infer_instance

instance refundCash {id employeeId : Id} {input : CreateCashRefundInput} :
    KeepsBookedIncome (CashRefunds.create id employeeId input now) := by
  dsimp only [CashRefunds.create]
  infer_instance

instance invoiceCommand {command : InvoiceCommand} :
    Preserves SalesBooked (command.execute now) := by
  cases command with
  | createInvoice employeeId input => exact KeepsCashSales.createInvoice
  | checkoutInvoice employeeId input => exact KeepsCashSales.checkoutInvoice
  | updatePayment id employeeId input => exact KeepsCashSales.updatePayment
  | voidInvoice id employeeId =>
      dsimp only [InvoiceCommand.execute]
      exact of_keeps
  | refundCash invoiceId employeeId input =>
      dsimp only [InvoiceCommand.execute]
      exact of_keeps

instance postMovement {input : MovementInput} :
    Preserves SalesBooked (CashierShifts.postMovement input now) := by
  dsimp only [CashierShifts.postMovement]
  infer_instance

instance postDestinationEntry {handover : CashHandover} {employeeId id : Id} {type : FundType} :
    Keeps bookedIncome (CashHandovers.postDestinationEntry handover employeeId id now type) := by
  dsimp only [CashHandovers.postDestinationEntry]
  infer_instance

instance postSourceEntries {handover : CashHandover} {employeeId varianceId sourceId : Id} :
    Keeps bookedIncome
      (CashHandovers.postSourceEntries handover employeeId varianceId sourceId now) := by
  dsimp only [CashHandovers.postSourceEntries]
  infer_instance

instance cashCommand {command : CashCommand} : Preserves SalesBooked (command.execute now) := by
  cases command
  all_goals
    dsimp only [CashCommand.execute, FundsService.create, FundsService.update,
      FundsService.remove, BankReconciliation.createImport, CashierShifts.openShift,
      CashierShifts.addMovement, CashierShifts.approveExpenseRequest,
      CashierShifts.rejectExpenseRequest, CashierShifts.cancelExpenseRequest,
      CashierShifts.resolveExpenseRequest, CashierShifts.close, CashHandovers.create,
      CashHandovers.approve, CashHandovers.settle, CashHandovers.registerDeposit,
      CashHandovers.reject, CashHandovers.cancel, CashHandovers.resolve]
    infer_instance

instance command {command : Command} : Preserves SalesBooked (command.execute now) := by
  cases command with
  | inventory command =>
      cases command <;> (dsimp only [Command.execute, InventoryCommand.execute]; infer_instance)
  | cash command => exact cashCommand
  | order command =>
      have apart : KeepsBookedIncome (command.execute now) := by
        cases command <;> (dsimp only [OrderCommand.execute]; infer_instance)
      dsimp only [Command.execute]
      exact of_keeps
  | invoice command => exact invoiceCommand
  | online command => exact onlineCommand
  | payment command =>
      have apart : KeepsBookedIncome (command.execute now) := by
        cases command <;> (dsimp only [PaymentCommand.execute]; infer_instance)
      dsimp only [Command.execute]
      exact of_keeps
  | table command =>
      have apart : KeepsBookedIncome (command.execute now) := by
        cases command <;> (dsimp only [TableCommand.execute]; infer_instance)
      dsimp only [Command.execute]
      exact of_keeps
  | print command =>
      have sold : KeepsCashSales (command.execute now) := by
        cases command <;> (dsimp only [PrintCommand.execute]; infer_instance)
      have apart : KeepsBookedIncome (command.execute now) := by
        cases command <;> (dsimp only [PrintCommand.execute]; infer_instance)
      dsimp only [Command.execute]
      exact of_keeps

end SalesBooked

theorem Reachable.salesBooked {database : Database} (reachable : Reachable database) :
    SalesBooked database := by
  refine reachable.preserved SalesBooked ?_ (fun command now => ?_) fun _ _ _ holds => holds
  · funext shiftId
    rfl
  · exact SalesBooked.command

theorem Command.keepsShifts {command : Command} {now : Timestamp} {before after : Database} (reachable : Reachable before)
    (committed : Commits (command.execute now) before () after)
    (consistent : ShiftsConsistent before.cash) : ShiftsConsistent after.cash := by
  have kept (keeps : KeepsShifts (command.execute now)) : ShiftsConsistent after.cash :=
    keeps.step committed consistent
  cases command with
  | cash command =>
      cases command with
      | closeShift employeeId input =>
          exact close_shifts consistent (congrFun reachable.salesBooked) committed
      | _ => exact kept (by dsimp only [Command.execute, CashCommand.execute]; infer_instance)
  | inventory command =>
      refine kept ?_
      cases command <;> (dsimp only [Command.execute, InventoryCommand.execute]; infer_instance)
  | order command =>
      refine kept ?_
      cases command <;> (dsimp only [Command.execute, OrderCommand.execute]; infer_instance)
  | invoice command =>
      refine kept ?_
      cases command <;> (dsimp only [Command.execute, InvoiceCommand.execute]; infer_instance)
  | online command =>
      refine kept ?_
      cases command <;> (dsimp only [Command.execute, OnlineCommand.execute]; infer_instance)
  | payment command =>
      refine kept ?_
      cases command <;> (dsimp only [Command.execute, PaymentCommand.execute]; infer_instance)
  | table command =>
      refine kept ?_
      cases command <;> (dsimp only [Command.execute, TableCommand.execute]; infer_instance)
  | print command =>
      refine kept ?_
      cases command <;> (dsimp only [Command.execute, PrintCommand.execute]; infer_instance)

theorem CashStore.shiftsConsistent_empty : ShiftsConsistent CashStore.empty where
  refunded _ := rfl
  refunds _ membership := (Table.not_mem_empty membership).elim
  rows _ membership := (Table.not_mem_empty membership).elim
  opened _ _ found := nomatch found
  exclusive _ membership := (Table.not_mem_empty membership).elim
  closed _ _ found := nomatch found

theorem Reachable.shiftsConsistent {database : Database} (reachable : Reachable database) :
    ShiftsConsistent database.cash := by
  refine reachable.invariant (fun database => ShiftsConsistent database.cash)
    CashStore.shiftsConsistent_empty fun before after reached taken consistent => ?_
  cases taken with
  | commit command now committed => exact Command.keepsShifts reached committed consistent
  | administer catalog tables => exact consistent

/-- No sum of the reconciliation needs more digits than a decimal keeps. -/
structure SumsFit (database : Database) (shift : CashierShift) : Prop where
  sales : FitsDigits (cashSales database.sales shift.id)
  income : FitsDigits (manualTotal database.cash shift.id .income)
  expense : FitsDigits (manualTotal database.cash shift.id .expense)
  withSales : FitsDigits (shift.expectedStartingCash + cashSales database.sales shift.id)
  withIncome : FitsDigits (shift.expectedStartingCash + cashSales database.sales shift.id +
    manualTotal database.cash shift.id .income)
  withoutExpense : FitsDigits (shift.expectedStartingCash + cashSales database.sales shift.id +
    manualTotal database.cash shift.id .income - manualTotal database.cash shift.id .expense)
  withoutRefunds : FitsDigits (shift.expectedStartingCash + cashSales database.sales shift.id +
    manualTotal database.cash shift.id .income - manualTotal database.cash shift.id .expense -
    cashRefundAmount database.cash shift.id)

/-- The ending cash is exact where all sums fit. -/
theorem SumsFit.actualEndingCash_exact {database : Database} {shift : CashierShift}
    (fits : SumsFit database shift) : (calculateReconciliation database shift).actualEndingCash =
      shift.expectedStartingCash + cashSales database.sales shift.id +
        manualTotal database.cash shift.id .income - manualTotal database.cash shift.id .expense -
        cashRefundAmount database.cash shift.id := by
  have added {amount : Money} (fits : FitsDigits amount) : decimalPlus 0 amount = amount := by
    rw [FitsDigits.decimalPlus_eq (by rwa [Int.zero_add]), Int.zero_add]
  change endingCash _ _ _ _ _ = _
  rw [endingCash, added fits.sales, added fits.income, added fits.expense,
    fits.withSales.decimalPlus_eq, fits.withIncome.decimalPlus_eq,
    fits.withoutExpense.decimalMinus_eq, fits.withoutRefunds.decimalMinus_eq]

/-- The sums of the reconciliation add up to the ledger rows of the shift. -/
theorem Reachable.sums_eq {database : Database} (reachable : Reachable database) (shiftId : Id) :
    cashSales database.sales shiftId + manualTotal database.cash shiftId .income -
        manualTotal database.cash shiftId .expense - cashRefundAmount database.cash shiftId =
      shiftTotal database.cash.transactions shiftId := by
  have booked := congrFun reachable.salesBooked shiftId
  have refunded := reachable.shiftsConsistent.refunded shiftId
  have total := shiftTotal_eq database.cash shiftId
  lia

/-- The computed ending cash of an open shift is the balance of its fund as long as its sums fit
a decimal, and that of a closed shift is always what the shift stored. -/
theorem Reachable.actualEndingCash_eq {database : Database} (reachable : Reachable database) :
    (∀ shift ∈ database.cash.shifts, shift.status = .opened → SumsFit database shift →
      ∃ fundId fund, shift.fundId = some fundId ∧ database.cash.funds.find? fundId = some fund ∧
        (calculateReconciliation database shift).actualEndingCash = fund.balance) ∧
    (∀ shift ∈ database.cash.shifts, shift.status = .closed →
      shift.actualEndingCash = some (calculateReconciliation database shift).actualEndingCash) := by
  have consistent := reachable.shiftsConsistent
  constructor
  · intro shift membership opened fits
    obtain ⟨fundId, fund, own, found, -, balance⟩ :=
      consistent.opened shift.id shift (Table.find?_of_mem membership) opened
    refine ⟨fundId, fund, own, found, ?_⟩
    have sums := reachable.sums_eq shift.id
    rw [fits.actualEndingCash_exact, balance]
    lia
  · intro shift membership isClosed
    rw [consistent.closed shift.id shift (Table.find?_of_mem membership) isClosed, ledgerEndingCash,
      ← congrFun reachable.salesBooked shift.id]
    rfl

/-- The shift of the cash sale, closed. -/
def Database.shiftClosed : Database := Database.sold.performAll [
  (.cash (.addMovement 0 {
    expectedShiftId := 5
    type := .income
    amount := ⟨1000000, by decide⟩
    description := "Float" }), 8),
  (.cash (.closeShift 0 {
    expectedShiftId := 5
    reportedEndingCash := ⟨58000000, by decide⟩
    closingNote := none }), 9)]

theorem Reachable.shiftClosed : Reachable Database.shiftClosed := Reachable.sold.performAll _

/-- A closed shift, and another one of the fund with its float. -/
def Database.reopened : Database := Database.shiftClosed.performAll [
  (.cash (.openShift 1 { fundId := 4, startingCash := ⟨58000000, by decide⟩ }), 10),
  (.cash (.addMovement 1 {
    expectedShiftId := 8
    type := .income
    amount := ⟨2000000, by decide⟩
    description := "Float" }), 11)]

theorem Reachable.reopened : Reachable Database.reopened := Reachable.shiftClosed.performAll _

theorem Reachable.actualEndingCash_eq_reopened :
    (∀ shift ∈ Database.reopened.cash.shifts, shift.status = .opened →
      ∃ fundId fund, shift.fundId = some fundId ∧
        Database.reopened.cash.funds.find? fundId = some fund ∧
        (calculateReconciliation Database.reopened shift).actualEndingCash = fund.balance) ∧
    (∀ shift ∈ Database.reopened.cash.shifts, shift.status = .closed →
      shift.actualEndingCash =
        some (calculateReconciliation Database.reopened shift).actualEndingCash) ∧
    Database.reopened.cash.shifts.rows.map (fun shift => (shift.status, shift.actualEndingCash)) =
      [(.closed, some 58000000), (.opened, none)] ∧
    Database.reopened.cash.funds.rows.map (·.balance) = [60000000] := by
  obtain ⟨opened, closed⟩ := Reachable.actualEndingCash_eq Reachable.reopened
  refine ⟨fun shift membership isOpen => opened shift membership isOpen ?_, closed, ?_, ?_⟩
  · have sums : ∀ shift ∈ Database.reopened.cash.shifts.rows, shift.status = .opened →
        shift.expectedStartingCash = 58000000 ∧ cashSales Database.reopened.sales shift.id = 0 ∧
          manualTotal Database.reopened.cash shift.id .income = 2000000 ∧
          manualTotal Database.reopened.cash shift.id .expense = 0 ∧
          cashRefundAmount Database.reopened.cash shift.id = 0 := by decide +kernel
    obtain ⟨expected, sales, income, expense, refunds⟩ := sums shift membership isOpen
    constructor
    all_goals
      simp only [expected, sales, income, expense, refunds]
      exact .of_lt (by decide)
  · decide +kernel
  · decide +kernel

section Overflow

theorem zero_cash : (0 : Money) ≤ 0 := le_rfl

theorem largest_cash : (0 : Money) < 999999999999999999 := by decide

/-- A movement of the largest amount of a column. -/
def largestMovement (type : CashFlowType) (now : Timestamp) : Command × Timestamp :=
  (.cash (.addMovement 0 {
    expectedShiftId := 1
    type
    amount := ⟨999999999999999999, largest_cash⟩
    description := "Transfer" }), now)

/-- The sample master data, where no expense waits for approval. -/
def Catalog.unattended : Catalog :=
  { Catalog.sample with
    settings := { Catalog.sample.settings with expenseApprovalThreshold := 1000000000000000000 } }

/-- A till that the largest amount enters and leaves a hundred times, and enters once more. -/
def Database.churned : Database := (Database.empty.administer .unattended .empty).performAll ([
  (.cash (.createFund 0 { name := "Till", type := .cash, openingBalance := ⟨0, zero_cash⟩ }), 1),
  (.cash (.openShift 0 { fundId := 0, startingCash := ⟨0, zero_cash⟩ }), 2)] ++
  (List.range 100).flatMap (fun _ => [largestMovement .income 3, largestMovement .expense 4]) ++
  [largestMovement .income 5])

theorem Reachable.churned : Reachable Database.churned :=
  (Reachable.administer .refl .unattended .empty).performAll _

/-- The incomes take 21 digits, so their sum is rounded up, past the balance. -/
theorem exists_endingCash_ne : ∃ (database : Database) (shift : CashierShift) (fund : Fund),
    Reachable database ∧ shift ∈ database.cash.shifts ∧ shift.status = .opened ∧
      shift.fundId = some fund.id ∧ fund ∈ database.cash.funds ∧
      fund.balance = 999999999999999999 ∧
      (calculateReconciliation database shift).actualEndingCash = 1000000000000000000 := by
  have outcome : Database.churned.cash.funds.rows.map (fun fund => (fund.id, fund.balance)) =
        [(0, 999999999999999999)] ∧
      Database.churned.cash.shifts.rows.map (fun shift =>
        (shift.id, shift.fundId, shift.status, shift.expectedStartingCash)) =
        [(1, some 0, .opened, 0)] ∧
      cashSales Database.churned.sales 1 = 0 ∧
      manualTotal Database.churned.cash 1 .income = 100999999999999999899 ∧
      manualTotal Database.churned.cash 1 .expense = 99999999999999999900 ∧
      cashRefundAmount Database.churned.cash 1 = 0 := by
    decide +kernel
  obtain ⟨funds, shifts, sales, income, expense, refunds⟩ := outcome
  obtain ⟨fund, fundRows, fundIs⟩ := List.map_eq_singleton_iff.mp funds
  obtain ⟨shift, shiftRows, shiftIs⟩ := List.map_eq_singleton_iff.mp shifts
  simp only [Prod.mk.injEq] at fundIs shiftIs
  obtain ⟨fundId, balance⟩ := fundIs
  obtain ⟨shiftId, own, opened, expected⟩ := shiftIs
  refine ⟨Database.churned, shift, fund, Reachable.churned, ?_, opened, ?_, ?_, balance, ?_⟩
  · rw [Table.mem_def, shiftRows]
    exact List.mem_singleton.mpr rfl
  · rw [own, fundId]
  · rw [Table.mem_def, fundRows]
    exact List.mem_singleton.mpr rfl
  · change endingCash shift.expectedStartingCash (cashSales _ shift.id) (manualTotal _ shift.id _)
      (manualTotal _ shift.id _) (cashRefundAmount _ shift.id) = _
    rw [shiftId, expected, sales, income, expense, refunds]
    decide +kernel

end Overflow

end CoffeeShop
