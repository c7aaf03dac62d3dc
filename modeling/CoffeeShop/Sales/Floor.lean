import CoffeeShop.Footprints
import CoffeeShop.Invoices.Effects

/-!
The tables of the floor: guests, their items and their tickets.

Most commands on orders and invoices write there.  A view of the sales that does not show
the floor sees what they do to the dining tables, the invoices and the online requests only.
-/

-- An instance for a program has one node for each of its statements.
set_option synthInstance.maxSize 100000

namespace CoffeeShop

open Transaction SalesStore

/-- The view shows nothing of the floor, except for the dining tables and the sessions. -/
class OffFloor {τ : Type} (view : SalesStore → τ) : Prop where
  orderItem : Apart view orderItem
  recipeIngredient : Apart view recipeIngredient
  orderRemake : Apart view orderRemake
  kitchenTicket : Apart view kitchenTicket
  kitchenTicketItem : Apart view kitchenTicketItem

attribute [instance] OffFloor.orderItem OffFloor.recipeIngredient OffFloor.orderRemake
  OffFloor.kitchenTicket OffFloor.kitchenTicketItem

/-- The view may show which dining tables there are, but nothing else of them. -/
class OffTables {τ : Type} (view : SalesStore → τ) (S : τ → τ → Prop) : Prop where
  insert : ∀ {row : DiningTable} {failure : Failure},
    Respects (On view S) (create diningTable row failure)
  setStatus : ∀ {condition : DiningTable → Bool} {status : TableStatus}
    {keeps : ∀ row : DiningTable, row.id = row.id}, Respects (On view S)
      (updateMany diningTable condition (fun row => { row with status }) keeps :
        Tx SalesStore Failure Nat)
  rename : ∀ {condition : DiningTable → Bool} {name : String}
    {keeps : ∀ row : DiningTable, row.id = row.id}, Respects (On view S)
      (updateMany diningTable condition (fun row => { row with name }) keeps :
        Tx SalesStore Failure Nat)

attribute [instance] OffTables.insert OffTables.setStatus OffTables.rename

/-- The view may show which sessions there are, but nothing else of them. -/
class OffSessions {τ : Type} (view : SalesStore → τ) (S : τ → τ → Prop) : Prop where
  updateMany : ∀ {condition : OrderSession → Bool} {change : OrderSession → OrderSession}
    {keeps : ∀ row, (change row).id = row.id}, Respects (On view S)
      (Transaction.updateMany orderSession condition change keeps : Tx SalesStore Failure Nat)

/-- A new session does not matter. -/
class AdmitsSessions {τ : Type} (view : SalesStore → τ) (S : τ → τ → Prop) : Prop where
  insert : ∀ {row : OrderSession} {failure : Failure},
    Respects (On view S) (create orderSession row failure)

attribute [instance] OffSessions.updateMany AdmitsSessions.insert

section Tables

variable {τ : Type} {view : SalesStore → τ} {S : τ → τ → Prop} [IsPreorder τ S]
variable {wanted : Id} {guard : DiningTable → Bool} {failure : Failure}
variable {keeps : ∀ row : DiningTable, row.id = row.id}

instance [Apart view diningTable] : OffTables view S where
  insert := inferInstance
  setStatus := inferInstance
  rename := inferInstance

instance OffTables.updateStatus [OffTables view S] {status : TableStatus} : Respects (On view S)
    (updateExpecting diningTable wanted guard (fun row => { row with status }) failure keeps) := by
  unfold updateExpecting
  infer_instance

instance OffTables.updateName [OffTables view S] {name : String} : Respects (On view S)
    (updateExpecting diningTable wanted guard (fun row => { row with name }) failure keeps) := by
  unfold updateExpecting
  infer_instance

end Tables

section Sessions

variable {τ : Type} {view : SalesStore → τ} {S : τ → τ → Prop} [IsPreorder τ S]

instance [Apart view orderSession] : OffSessions view S where
  updateMany := inferInstance

instance [Apart view orderSession] : AdmitsSessions view S where
  insert := inferInstance

instance OffSessions.updateExpecting [OffSessions view S] {wanted : Id}
    {guard : OrderSession → Bool} {change : OrderSession → OrderSession} {failure : Failure}
    {keeps : ∀ row, (change row).id = row.id} : Respects (On view S)
      (updateExpecting orderSession wanted guard change failure keeps) := by
  unfold Transaction.updateExpecting
  infer_instance

end Sessions

/-- What the validity of a pickup code is computed from. -/
structure PickupCodeState where
  createdAt : Timestamp
  pickupCodeVersion : Option Nat
  pickupCodeIssuedAt : Option Timestamp

def Invoice.codeState (invoice : Invoice) : PickupCodeState where
  createdAt := invoice.createdAt
  pickupCodeVersion := invoice.pickupCodeVersion
  pickupCodeIssuedAt := invoice.pickupCodeIssuedAt

/-- The view may show the pickup codes of the invoices, but nothing else of them. -/
class OffPayments {τ : Type} (view : SalesStore → τ) (S : τ → τ → Prop) : Prop where
  insert : ∀ {row : Invoice} {failure : Failure}, row.pickupCodeIssuedAt = none →
    Respects (On view S) (create invoice row failure)
  updateMany : ∀ {condition : Invoice → Bool} {change : Invoice → Invoice}
    {keeps : ∀ row, (change row).id = row.id}, (∀ row, (change row).codeState = row.codeState) →
      Respects (On view S) (Transaction.updateMany invoice condition change keeps :
        Tx SalesStore Failure Nat)

instance {τ : Type} {view : SalesStore → τ} {S : τ → τ → Prop} [IsPreorder τ S]
    [Apart view invoice] : OffPayments view S where
  insert _ := inferInstance
  updateMany _ := inferInstance

theorem OffPayments.updateExpecting {τ : Type} {view : SalesStore → τ} {S : τ → τ → Prop}
    [IsPreorder τ S] [off : OffPayments view S] {wanted : Id} {guard : Invoice → Bool}
    {change : Invoice → Invoice} {keeps : ∀ row, (change row).id = row.id} {failure : Failure}
    (kept : ∀ row, (change row).codeState = row.codeState) :
    Respects (On view S) (updateExpecting invoice wanted guard change failure keeps) := by
  have changes := @off.updateMany (fun row => row.id = wanted && guard row) change keeps kept
  unfold Transaction.updateExpecting
  infer_instance

namespace OffFloor

variable {τ : Type} {view : SalesStore → τ} {S : τ → τ → Prop} [IsPreorder τ S]
variable [OffFloor view] [OffTables view S] [OffSessions view S]
variable {id employeeId : Id} {now : Timestamp}

section Orders

instance createTicket {catalog : Catalog} {items : List OrderItem} {pickupAt : Option Timestamp}
    {station : KitchenStation} : Respects (On Database.sales (On view S))
      (KitchenRouting.createTicket catalog id items pickupAt now station) := by
  dsimp only [KitchenRouting.createTicket]
  infer_instance

instance createTickets {items : List OrderItem} {pickupAt : Option Timestamp} :
    Respects (On Database.sales (On view S))
      (KitchenRouting.createTickets id items pickupAt now) := by
  dsimp only [KitchenRouting.createTickets]
  infer_instance

instance claimTable : Respects (On view S) (OrdersService.claimTable id) := by
  dsimp only [OrdersService.claimTable]
  infer_instance

instance createOrderSession [AdmitsSessions view S] {tableId : Option Id}
    {guestCount : Option Nat} :
    Respects (On Database.sales (On view S))
      (OrdersService.createOrderSession tableId employeeId guestCount now) := by
  dsimp only [OrdersService.createOrderSession, OrdersService.insertSession]
  infer_instance

instance openSession [AdmitsSessions view S] {tableId : Option Id} {guestCount : Option Nat} :
    Respects (On Database.sales (On view S))
      (OrdersService.openSession tableId employeeId guestCount now) := by
  dsimp only [OrdersService.openSession]
  infer_instance

instance reservePendingItems {condition : OrderItem → Bool} :
    Respects (On Database.sales (On view S))
      (InventoryConsumption.reservePendingItems condition now) := by
  dsimp only [InventoryConsumption.reservePendingItems,
    InventoryConsumption.snapshotLegacyRecipes]
  infer_instance

instance reserveSession :
    Respects (On Database.sales (On view S)) (InventoryConsumption.reserveSession id now) := by
  dsimp only [InventoryConsumption.reserveSession]
  infer_instance

instance reserveInvoiceStock :
    Respects (On Database.sales (On view S)) (InvoicesService.reserveInvoiceStock id now) := by
  dsimp only [InvoicesService.reserveInvoiceStock]
  infer_instance

instance addOrderItemsInTransaction {items : List OrderItemInput}
    {quotes : Option (List OnlineOrderQuote)} {pickupAt : Option Timestamp} :
    Respects (On Database.sales (On view S))
      (OrdersService.addOrderItemsInTransaction id items quotes pickupAt now) := by
  dsimp only [OrdersService.addOrderItemsInTransaction, OrdersService.insertItems]
  infer_instance

instance addOrderItems {items : List OrderItemInput} : Respects (On Database.sales (On view S))
    (OrdersService.addOrderItems id items employeeId now) := by
  dsimp only [OrdersService.addOrderItems]
  infer_instance

instance createOnlineTakeawaySession [AdmitsSessions view S] {items : List OrderItemInput}
    {quotes : List OnlineOrderQuote} {pickupAt : Option Timestamp} :
    Respects (On Database.sales (On view S))
      (OrdersService.createOnlineTakeawaySession employeeId items quotes pickupAt now) := by
  dsimp only [OrdersService.createOnlineTakeawaySession]
  infer_instance

instance changeItemStatus {serveStatus : ServeStatus} {handoffOnly : Bool}
    {pickup : Option PickupClaim} : Respects (On Database.sales (On view S))
      (OrdersService.changeItemStatus id employeeId serveStatus handoffOnly pickup now) := by
  dsimp only [OrdersService.changeItemStatus]
  infer_instance

instance updateItemStatus {serveStatus : ServeStatus} : Respects (On Database.sales (On view S))
    (OrdersService.updateItemStatus id employeeId serveStatus now) := by
  dsimp only [OrdersService.updateItemStatus]
  infer_instance

instance handoffTakeawayItem : Respects (On Database.sales (On view S))
    (OrdersService.handoffTakeawayItem id employeeId now) := by
  dsimp only [OrdersService.handoffTakeawayItem]
  infer_instance

instance handoffWithPickupCode {claim : PickupClaim} : Respects (On Database.sales (On view S))
    (OrdersService.handoffWithPickupCode claim id employeeId now) := by
  dsimp only [OrdersService.handoffWithPickupCode]
  infer_instance

instance cancelItem {reason : Option String} : Respects (On Database.sales (On view S))
    (OrdersService.cancelItem id employeeId reason now) := by
  dsimp only [OrdersService.cancelItem]
  infer_instance

instance remakeItem {input : OrdersService.RemakeInput} :
    Respects (On Database.sales (On view S))
      (OrdersService.remakeItem id employeeId input now) := by
  dsimp only [OrdersService.remakeItem, OrdersService.createRemake]
  infer_instance

instance cancelActiveSession {session : OrderSession} {paidMessage processedMessage : String} :
    Respects (On view S)
      (OrdersService.cancelActiveSession session paidMessage processedMessage) := by
  dsimp only [OrdersService.cancelActiveSession, OrderPolicy.assertNoPaidOrInvoicedItems,
    OrderPolicy.assertNoProcessedItems]
  infer_instance

instance cancelSession {reason : String} : Respects (On Database.sales (On view S))
    (OrdersService.cancelSession id employeeId reason now) := by
  dsimp only [OrdersService.cancelSession, OrdersService.setTableStatus]
  infer_instance

instance clearTable {expected : Option Id} {reason : String} :
    Respects (On Database.sales (On view S))
      (OrdersService.clearTable id expected employeeId reason now) := by
  dsimp only [OrdersService.clearTable, OrdersService.setTableStatus]
  infer_instance

instance completeSession : Respects (On Database.sales (On view S))
    (OrdersService.completeSession id employeeId) := by
  dsimp only [OrdersService.completeSession, OrdersService.setTableStatus]
  infer_instance

instance transferTable {input : TransferDiningTableInput} :
    Respects (On Database.sales (On view S)) (OrdersService.transferTable input employeeId) := by
  dsimp only [OrdersService.transferTable, OrdersService.setTableStatus]
  infer_instance

instance mergeTables {input : MergeDiningTableInput} :
    Respects (On Database.sales (On view S)) (OrdersService.mergeTables input employeeId) := by
  dsimp only [OrdersService.mergeTables, OrdersService.setTableStatus,
    OrderPolicy.assertNoPaidOrInvoicedItems]
  infer_instance

instance moveLine {destinationId : Id} {pair : OrderItem × SplitItem} :
    Respects (On Database.sales (On view S))
      (OrdersService.moveLine id destinationId now pair) := by
  dsimp only [OrdersService.moveLine, OrdersService.dividePart, OrdersService.splitTicketItem,
    OrdersService.updateSplitItem]
  infer_instance

instance splitTable [AdmitsSessions view S] {input : SplitOrderSessionInput} :
    Respects (On Database.sales (On view S)) (OrdersService.splitTable input employeeId now) := by
  dsimp only [OrdersService.splitTable, OrdersService.prepareSplit, OrdersService.insertSession]
  infer_instance

instance createTable {name : String} :
    Respects (On Database.sales (On view S)) (DiningTablesService.createTable name) := by
  dsimp only [DiningTablesService.createTable]
  infer_instance

instance updateTable {name : String} :
    Respects (On Database.sales (On view S)) (DiningTablesService.updateTable id name) := by
  dsimp only [DiningTablesService.updateTable]
  infer_instance

instance deleteTable [Apart view diningTable] :
    Respects (On Database.sales (On view S)) (DiningTablesService.deleteTable id now) := by
  dsimp only [DiningTablesService.deleteTable]
  infer_instance

instance checkInReservation [AdmitsSessions view S] [Apart view reservation] :
    Respects (On Database.sales (On view S)) (OrdersService.checkInReservation id employeeId now) := by
  dsimp only [OrdersService.checkInReservation]
  infer_instance

instance closeSession {session : OrderSession} :
    Respects (On view S) (InvoicesService.closeSessionIfFullyPaid session) := by
  dsimp only [InvoicesService.closeSessionIfFullyPaid]
  infer_instance

instance markItemsPaid : Respects (On view S) (InvoicesService.markItemsPaid id) := by
  dsimp only [InvoicesService.markItemsPaid]
  infer_instance

instance cancelItems {session : OrderSession} {items : List OrderItem}
    {cancellable : ServeStatus → Bool} {failure : Failure} :
    Respects (On view S) (OnlineOrders.cancelItems session items cancellable failure) := by
  dsimp only [OnlineOrders.cancelItems]
  infer_instance

end Orders

section Invoices

instance renewPickupCode [Apart view invoice] {found : Invoice} {issuedAt : Option Timestamp} :
    Respects (On view S) (TakeawayService.renewPickupCode found issuedAt) := by
  dsimp only [TakeawayService.renewPickupCode]
  infer_instance

instance orderCommand [AdmitsSessions view S] [Apart view invoice] {command : OrderCommand} :
    Respects (On Database.sales (On view S)) (command.execute now) := by
  cases command
  all_goals
    dsimp only [OrderCommand.execute, TakeawayService.revokePickupCode,
      TakeawayService.provisionPickupCode]
    infer_instance

variable [OffPayments view S]

instance createInvoiceInTransaction {request : InvoicesService.CreateInvoiceRequest}
    {onlinePickup : Bool} : Respects (On Database.sales (On view S))
      (InvoicesService.createInvoiceInTransaction request onlinePickup now) := by
  have inserts (id : Id) (invoiceNumber : InvoiceNumber) (subTotal discountAmount totalAmount : Money)
      (amountTendered changeAmount : Option Money) (taxAmount taxRate : Money)
      (documentSnapshot : Option InvoiceDocumentSnapshot) (orderSessionId employeeId : Id)
      (shiftId promotionId : Option Id) (failure : Failure) : Respects (On view S) (create invoice {
        id, invoiceNumber, subTotal, discountAmount, totalAmount, amountTendered, changeAmount
        paymentMethod := request.paymentMethod
        paymentStatus := request.paymentStatus
        pickupCodeVersion := some 0
        pickupCodeIssuedAt := none
        taxAmount, taxRate, documentSnapshot
        createdAt := now
        orderSessionId, employeeId, shiftId, promotionId } failure) := OffPayments.insert rfl
  dsimp only [InvoicesService.createInvoiceInTransaction, InvoicesService.issueInvoice,
    InvoicesService.insertInvoice]
  infer_instance

instance updatePayment {input : UpdateInvoicePaymentInput} :
    Respects (On Database.sales (On view S))
      (InvoicesService.updatePayment id employeeId input now) := by
  have settles (paymentMethod : PaymentMethod) (amountTendered : Option Money) (change : Money)
      (shiftId : Id) (failure : Failure) : Respects (On view S)
      (updateExpecting invoice id (fun _ => true) (fun row => { row with
        paymentStatus := .paid
        paymentMethod
        amountTendered
        changeAmount := some change
        employeeId
        shiftId := some shiftId }) failure) :=
    OffPayments.updateExpecting fun _ => rfl
  dsimp only [InvoicesService.updatePayment]
  infer_instance

instance voidInvoice : Respects (On Database.sales (On view S))
    (InvoicesService.voidInvoice id employeeId) := by
  have voids (snapshot : InvoiceDocumentSnapshot) (failure : Failure) : Respects (On view S)
      (updateExpecting invoice id (fun _ => true) (fun row => { row with
        paymentStatus := .voided
        documentSnapshot := row.documentSnapshot <|> some snapshot }) failure) :=
    OffPayments.updateExpecting fun _ => rfl
  dsimp only [InvoicesService.voidInvoice]
  infer_instance

instance createRefund {input : CreateCashRefundInput} : Respects (On Database.sales (On view S))
    (CashRefunds.createRefund id employeeId input now) := by
  have refunds (guard : Invoice → Bool) (amount total : Money) (failure : Failure) :
      Respects (On view S) (updateExpecting invoice id guard (fun row => { row with
        paymentStatus := if amount = total then .refunded else .partiallyRefunded }) failure) :=
    OffPayments.updateExpecting fun _ => rfl
  dsimp only [CashRefunds.createRefund]
  infer_instance

instance invoiceCommand {command : InvoiceCommand} :
    Respects (On Database.sales (On view S)) (command.execute now) := by
  cases command
  all_goals
    dsimp only [InvoiceCommand.execute, InvoicesService.createInvoice,
      InvoicesService.checkoutInvoice, CashRefunds.create]
    infer_instance

instance collect {amountTendered : Money} : Respects (On Database.sales (On view S))
    (OnlineOrders.collect id employeeId amountTendered now) := by
  dsimp only [OnlineOrders.collect, InvoicesService.checkoutOnlinePickupInTransaction]
  infer_instance

instance completeOnlinePayment {input : InvoicesService.CompleteOnlinePaymentInput} :
    Respects (On view S) (InvoicesService.completeOnlinePayment input) := by
  have confirms (existing : Invoice) (guard : Invoice → Bool) (failure : Failure) :
      Respects (On view S) (updateExpecting invoice existing.id guard (fun row => { row with
        paymentStatus := .paid
        paymentMethod := .transfer
        amountTendered := some existing.totalAmount
        changeAmount := some 0
        employeeId := input.employeeId
        shiftId := some input.shiftId }) failure) :=
    OffPayments.updateExpecting fun _ => rfl
  dsimp only [InvoicesService.completeOnlinePayment]
  infer_instance

instance completeInvoice {attempt : PaymentAttempt} :
    Respects (On Database.sales (On view S)) (PaymentsService.completeInvoice attempt) := by
  dsimp only [PaymentsService.completeInvoice]
  infer_instance

instance confirmProviderPayment {found : AttemptView} {number : Option String} :
    Respects (On Database.sales (On view S))
      (PaymentReconciliation.confirmProviderPayment found number now) := by
  dsimp only [PaymentReconciliation.confirmProviderPayment]
  infer_instance

instance applyResponse {attempt : PaymentAttempt}
    {response : PaymentReconciliation.ProviderResponse} :
    Respects (On Database.sales (On view S))
      (PaymentReconciliation.applyResponse attempt response now) := by
  unfold PaymentReconciliation.applyResponse
  split
  · dsimp only [PaymentReconciliation.applyQueryResponse]
    infer_instance
  · dsimp only [PaymentReconciliation.applyMomoResponse]
    infer_instance
  · dsimp only [PaymentReconciliation.applyPayosResponse]
    infer_instance
  · infer_instance

instance completeSuccessfulRefund {attempt : PaymentAttempt} {refund : PaymentRefund}
    {response : VnpayRefundResponse} : Respects (On Database.sales (On view S))
      (PaymentRefunds.completeSuccessfulRefund attempt refund response now) := by
  have refunds (condition : Invoice → Bool) (status : PaymentStatus) : Respects (On view S)
      (updateMany invoice condition (fun row => { row with paymentStatus := status }) :
        Tx SalesStore Failure _) := OffPayments.updateMany fun _ => rfl
  dsimp only [PaymentRefunds.completeSuccessfulRefund]
  infer_instance

instance paymentCommand {command : PaymentCommand} :
    Respects (On Database.sales (On view S)) (command.execute now) := by
  cases command
  all_goals
    dsimp only [PaymentCommand.execute, PaymentsService.createAttempt, PaymentsService.openAttempt,
      PaymentsService.handleVnpayIpn, PaymentsService.applyVnpay, PaymentsService.settleVnpay,
      PaymentsService.handleMomoIpn, PaymentsService.applyMomo, PaymentsService.settleMomo,
      PaymentReconciliation.queryProvider, PaymentRefunds.applyProviderResponse]
    infer_instance

instance onlineCommand [AdmitsSessions view S] [Apart view onlineOrderRequest]
    {command : OnlineCommand} :
    Respects (On Database.sales (On view S)) (command.execute now) := by
  cases command
  all_goals
    dsimp only [OnlineCommand.execute, OnlineOrders.receive, OnlineOrders.accept,
      OnlineOrders.reject, OnlineOrders.cancelPublicRequest, OnlineOrders.cancelUnprepared,
      OnlineOrders.cancelAccepted, OnlineOrders.markNoShow, OnlineOrders.cancelAcceptedRequest,
      OnlineOrders.closeCancelled]
    infer_instance

end Invoices

end OffFloor

end CoffeeShop
