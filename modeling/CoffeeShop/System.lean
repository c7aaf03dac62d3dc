import CoffeeShop.Cash.Funds
import CoffeeShop.Cash.Handovers
import CoffeeShop.Cash.Shifts
import CoffeeShop.Inventory.Item
import CoffeeShop.Inventory.Movement
import CoffeeShop.Inventory.PurchaseReceipt
import CoffeeShop.Inventory.Stocktake
import CoffeeShop.Invoices.CashRefunds
import CoffeeShop.Library.Respects
import CoffeeShop.Online.Requests
import CoffeeShop.Orders.Sessions
import CoffeeShop.Orders.Tables
import CoffeeShop.Payments.Refunds
import CoffeeShop.Printing.Service
import Mathlib.Logic.Relation

/-!
The backend as a transition system.

Every request, notification and scheduler round is a sequence of transactions.  A
transaction commits or changes nothing, and any transaction may run next, at any
time: the states that the services can reach are those of this system.
-/

namespace CoffeeShop

open Transaction

inductive InventoryCommand where
  | createItem (employeeId : Id) (input : CreateInventoryItemInput)
  | updateItem (id employeeId : Id) (input : UpdateInventoryItemInput)
  | removeItem (id employeeId : Id)
  | importItem (employeeId inventoryItemId : Id) (quantity : Quantity) (unitPrice : Money)
      (transactionDate : Option Timestamp)
  | exportItem (employeeId inventoryItemId : Id) (quantity : Quantity)
      (transactionDate : Option Timestamp)
  | bulkMove (type : InventoryTxType) (employeeId : Id) (items : List StockMovement)
  | createReceipt (employeeId : Id) (input : CreatePurchaseReceiptInput)
  | updateReceipt (id employeeId : Id) (input : UpdatePurchaseReceiptInput)
  | postReceipt (id employeeId : Id) (expectedUpdatedAt : Timestamp)
  | cancelReceipt (id employeeId : Id) (reason : String)
  | createStocktake (employeeId : Id) (inventoryItemIds : List Id)
  | updateCounts (id employeeId : Id) (counts : List StocktakeCount)
  | postStocktake (id employeeId : Id) (expectedCounts : Option (List StocktakeCount))
  | cancelStocktake (id employeeId : Id) (reason : String)

def InventoryCommand.execute (now : Timestamp) : InventoryCommand → Transact Unit
  | .createItem employeeId input => InventoryItemService.create employeeId input now
  | .updateItem id employeeId input => InventoryItemService.update id employeeId input
  | .removeItem id employeeId => InventoryItemService.remove id employeeId now
  | .importItem employeeId inventoryItemId quantity unitPrice transactionDate =>
      InventoryMovement.importItem employeeId inventoryItemId quantity unitPrice transactionDate now
  | .exportItem employeeId inventoryItemId quantity transactionDate =>
      InventoryMovement.exportItem employeeId inventoryItemId quantity transactionDate now
  | .bulkMove type employeeId items => InventoryMovement.bulkMove type employeeId items now
  | .createReceipt employeeId input => PurchaseReceiptService.create employeeId input now
  | .updateReceipt id employeeId input => PurchaseReceiptService.update id employeeId input now
  | .postReceipt id employeeId expectedUpdatedAt =>
      PurchaseReceiptService.post id employeeId expectedUpdatedAt now
  | .cancelReceipt id employeeId reason => PurchaseReceiptService.cancel id employeeId reason now
  | .createStocktake employeeId inventoryItemIds =>
      StocktakeService.create employeeId inventoryItemIds
  | .updateCounts id employeeId counts => StocktakeService.updateCounts id employeeId counts now
  | .postStocktake id employeeId expectedCounts =>
      StocktakeService.post id employeeId expectedCounts now
  | .cancelStocktake id employeeId reason => StocktakeService.cancel id employeeId reason now

inductive CashCommand where
  | createFund (employeeId : Id) (input : CreateFundInput)
  | updateFund (id employeeId : Id) (input : UpdateFundInput)
  | removeFund (id employeeId : Id)
  | createImport (fundId : Id)
  | openShift (employeeId : Id) (input : OpenCashierShiftInput)
  | addMovement (employeeId : Id) (input : CreateCashMovementInput)
  | approveExpenseRequest (id employeeId : Id) (note : Option String)
  | rejectExpenseRequest (id employeeId : Id) (reason : String)
  | cancelExpenseRequest (id employeeId : Id)
  | closeShift (employeeId : Id) (input : CloseCashierShiftInput)
  | createHandover (employeeId : Id) (input : CreateCashHandoverInput)
  | approveHandover (id employeeId : Id) (note : Option String)
  | settleHandover (id employeeId : Id) (deposit : BankDeposit)
  | registerDeposit (id employeeId : Id) (deposit : BankDeposit)
  | rejectHandover (id employeeId : Id) (reason : String)
  | cancelHandover (id employeeId : Id)

def CashCommand.execute (now : Timestamp) : CashCommand → Transact Unit
  | .createFund employeeId input => FundsService.create employeeId input
  | .updateFund id employeeId input => FundsService.update id employeeId input
  | .removeFund id employeeId => FundsService.remove id employeeId now
  | .createImport fundId => BankReconciliation.createImport fundId
  | .openShift employeeId input => CashierShifts.openShift employeeId input
  | .addMovement employeeId input => CashierShifts.addMovement employeeId input now
  | .approveExpenseRequest id employeeId note =>
      CashierShifts.approveExpenseRequest id employeeId note now
  | .rejectExpenseRequest id employeeId reason =>
      CashierShifts.rejectExpenseRequest id employeeId reason now
  | .cancelExpenseRequest id employeeId => CashierShifts.cancelExpenseRequest id employeeId now
  | .closeShift employeeId input => CashierShifts.close employeeId input now
  | .createHandover employeeId input => CashHandovers.create employeeId input
  | .approveHandover id employeeId note => CashHandovers.approve id employeeId note now
  | .settleHandover id employeeId deposit => CashHandovers.settle id employeeId deposit now
  | .registerDeposit id employeeId deposit => CashHandovers.registerDeposit id employeeId deposit
  | .rejectHandover id employeeId reason => CashHandovers.reject id employeeId reason now
  | .cancelHandover id employeeId => CashHandovers.cancel id employeeId now

inductive OrderCommand where
  | openSession (tableId : Option Id) (employeeId : Id) (guestCount : Option Nat)
  | addOrderItems (orderSessionId : Id) (items : List OrderItemInput) (employeeId : Id)
  | updateItemStatus (id employeeId : Id) (serveStatus : ServeStatus)
  | handoffTakeawayItem (id employeeId : Id)
  | handoffWithPickupCode (claim : PickupClaim) (id employeeId : Id)
  | cancelItem (id employeeId : Id) (reason : Option String)
  | remakeItem (id employeeId : Id) (input : OrdersService.RemakeInput)
  | cancelSession (id employeeId : Id) (reason : String)
  | transferTable (input : TransferDiningTableInput) (employeeId : Id)
  | mergeTables (input : MergeDiningTableInput) (employeeId : Id)
  | splitTable (input : SplitOrderSessionInput) (employeeId : Id)
  | completeSession (id employeeId : Id)
  | clearTable (tableId : Id) (expectedOrderSessionId : Option Id) (employeeId : Id)
      (reason : String)
  | revokePickupCode (claim : PickupClaim) (employeeId : Id)
  | provisionPickupCode (invoiceId employeeId : Id) (currentCode : Option PickupCode)

def OrderCommand.execute (now : Timestamp) : OrderCommand → Transact Unit
  | .openSession tableId employeeId guestCount =>
      OrdersService.openSession tableId employeeId guestCount now
  | .addOrderItems orderSessionId items employeeId =>
      OrdersService.addOrderItems orderSessionId items employeeId now
  | .updateItemStatus id employeeId serveStatus =>
      OrdersService.updateItemStatus id employeeId serveStatus now
  | .handoffTakeawayItem id employeeId => OrdersService.handoffTakeawayItem id employeeId now
  | .handoffWithPickupCode claim id employeeId =>
      OrdersService.handoffWithPickupCode claim id employeeId now
  | .cancelItem id employeeId reason => OrdersService.cancelItem id employeeId reason now
  | .remakeItem id employeeId input => OrdersService.remakeItem id employeeId input now
  | .cancelSession id employeeId reason => OrdersService.cancelSession id employeeId reason now
  | .transferTable input employeeId => OrdersService.transferTable input employeeId
  | .mergeTables input employeeId => OrdersService.mergeTables input employeeId
  | .splitTable input employeeId => OrdersService.splitTable input employeeId now
  | .completeSession id employeeId => OrdersService.completeSession id employeeId
  | .clearTable tableId expectedOrderSessionId employeeId reason =>
      OrdersService.clearTable tableId expectedOrderSessionId employeeId reason now
  | .revokePickupCode claim employeeId => TakeawayService.revokePickupCode claim employeeId now
  | .provisionPickupCode invoiceId employeeId currentCode =>
      TakeawayService.provisionPickupCode invoiceId employeeId currentCode now

inductive TableCommand where
  | createTable (name : String)
  | updateTable (id : Id) (name : String)
  | deleteTable (id : Id)
  | checkInReservation (reservationId employeeId : Id)

def TableCommand.execute (now : Timestamp) : TableCommand → Transact Unit
  | .createTable name => DiningTablesService.createTable name
  | .updateTable id name => DiningTablesService.updateTable id name
  | .deleteTable id => DiningTablesService.deleteTable id now
  | .checkInReservation reservationId employeeId =>
      OrdersService.checkInReservation reservationId employeeId now

inductive InvoiceCommand where
  | createInvoice (employeeId : Id) (input : CreateInvoiceInput)
  | checkoutInvoice (employeeId : Id) (input : CheckoutInvoiceInput)
  | updatePayment (id employeeId : Id) (input : UpdateInvoicePaymentInput)
  | voidInvoice (id employeeId : Id)
  | refundCash (invoiceId employeeId : Id) (input : CreateCashRefundInput)

def InvoiceCommand.execute (now : Timestamp) : InvoiceCommand → Transact Unit
  | .createInvoice employeeId input => InvoicesService.createInvoice employeeId input now
  | .checkoutInvoice employeeId input => InvoicesService.checkoutInvoice employeeId input now
  | .updatePayment id employeeId input => InvoicesService.updatePayment id employeeId input now
  | .voidInvoice id employeeId => InvoicesService.voidInvoice id employeeId
  | .refundCash invoiceId employeeId input => CashRefunds.create invoiceId employeeId input now

inductive OnlineCommand where
  | receive (input : ReceiveOnlineOrderInput)
  | accept (id employeeId : Id)
  | reject (id employeeId : Id) (reason : String)
  | cancelPublicRequest (id : Id)
  | collect (id employeeId : Id) (amountTendered : Money)
  | cancelAccepted (id employeeId : Id) (reason : String)
  | markNoShow (id employeeId : Id)

def OnlineCommand.execute (now : Timestamp) : OnlineCommand → Transact Unit
  | .receive input => OnlineOrders.receive input now
  | .accept id employeeId => OnlineOrders.accept id employeeId now
  | .reject id employeeId reason => OnlineOrders.reject id employeeId reason now
  | .cancelPublicRequest id => OnlineOrders.cancelPublicRequest id now
  | .collect id employeeId amountTendered =>
      OnlineOrders.collect id employeeId amountTendered now
  | .cancelAccepted id employeeId reason => OnlineOrders.cancelAccepted id employeeId reason now
  | .markNoShow id employeeId => OnlineOrders.markNoShow id employeeId now

inductive PaymentCommand where
  | createAttempt (input : CreatePaymentAttemptInput)
  | presentAttempt (attemptId : Id) (paymentUrl paymentLinkId : String)
  | handleVnpayIpn (notification : VnpayNotification)
  | handleMomoIpn (notification : MomoNotification)
  | handlePayosWebhook (notification : PayosNotification)
  | claimAttempt (id : Id) (dueOnly : Bool)
  | releaseAttempt (id : Id)
  | createQuery (attemptId : Id)
  | completeRequest (requestId : Id) (responseCode transactionStatus : Option String)
  | recordQueryFailure (attemptId requestId : Id) (message : String)
  | queryProvider (attemptId : Id) (response : PaymentReconciliation.ProviderResponse)
  | resolveIncident (key : IncidentKey) (employeeId : Id)
      (action : PaymentReconciliation.IncidentAction) (resolutionNote : Option String)
  | createRefund (input : CreatePaymentRefundInput)
  | submitRefund (refundId : Id)
  | applyProviderResponse (refundId requestId : Id) (response : VnpayRefundResponse)
  | markProviderUncertain (refundId requestId : Id) (message : String)
  | recoverAbandonedRefund (refundId : Id)

def PaymentCommand.execute (now : Timestamp) : PaymentCommand → Transact Unit
  | .createAttempt input => PaymentsService.createAttempt input now
  | .presentAttempt attemptId paymentUrl paymentLinkId =>
      PaymentsService.presentAttempt attemptId paymentUrl paymentLinkId now
  | .handleVnpayIpn notification => PaymentsService.handleVnpayIpn notification now
  | .handleMomoIpn notification => PaymentsService.handleMomoIpn notification now
  | .handlePayosWebhook notification =>
      paymentTx (PaymentsService.handlePayosWebhook notification now)
  | .claimAttempt id dueOnly => paymentTx (PaymentReconciliation.claimAttempt id dueOnly now)
  | .releaseAttempt id => paymentTx (PaymentReconciliation.releaseAttempt id)
  | .createQuery attemptId => PaymentReconciliation.createQuery attemptId now
  | .completeRequest requestId responseCode transactionStatus =>
      paymentTx (PaymentReconciliation.completeRequest requestId responseCode transactionStatus now)
  | .recordQueryFailure attemptId requestId message =>
      paymentTx (PaymentReconciliation.recordQueryFailure attemptId requestId message now)
  | .queryProvider attemptId response =>
      PaymentReconciliation.queryProvider attemptId response now
  | .resolveIncident key employeeId action resolutionNote =>
      paymentTx (PaymentReconciliation.resolveIncident key employeeId action resolutionNote now)
  | .createRefund input => PaymentRefunds.createRefund input now
  | .submitRefund refundId => PaymentRefunds.submitRefund refundId now
  | .applyProviderResponse refundId requestId response =>
      PaymentRefunds.applyProviderResponse refundId requestId response now
  | .markProviderUncertain refundId requestId message =>
      paymentTx (PaymentRefunds.markProviderUncertain refundId requestId message now)
  | .recoverAbandonedRefund refundId =>
      paymentTx (PaymentRefunds.recoverAbandonedRefund refundId now)

inductive PrintCommand where
  | createDevice (employeeId : Id) (input : CreatePrintDeviceInput)
  | updateDevice (id employeeId : Id) (input : UpdatePrintDeviceInput) (locked : Id → Bool)
  | deleteDevice (id employeeId : Id) (locked : Id → Bool)
  | heartbeat (deviceId : Id) (input : PrintAgentHeartbeatInput)
  | claimJobs (deviceId : Id) (limit : Nat) (locked : Id → Bool)
  | completeJob (deviceId jobId leaseToken : Id)
  | failJob (deviceId jobId leaseToken : Id) (error : String) (outcome : PrintFailureOutcome)
  | recoverExpiredLeases (locked : Id → Bool)
  | retryJob (id employeeId : Id) (deviceId : Option (Option Id))
  | resolveJob (id employeeId : Id) (outcome : PrintResolution) (expectedUpdatedAt : Timestamp)
  | createPrecheck (employeeId : Id) (input : CreatePrecheckInput)
  | reprintReceipt (invoiceId employeeId : Id) (input : ReprintReceiptInput)
  | createAutomaticReceipt (invoiceId : Id)
  | cancelPendingReceiptJobs (invoiceId : Id)

def PrintCommand.execute (now : Timestamp) : PrintCommand → Transact Unit
  | .createDevice employeeId input => PrintingService.createDevice employeeId input now
  | .updateDevice id employeeId input locked =>
      PrintingService.updateDevice id employeeId input locked now
  | .deleteDevice id employeeId locked => PrintingService.deleteDevice id employeeId locked now
  | .heartbeat deviceId input => printingTx (PrintingService.heartbeat deviceId input now)
  | .claimJobs deviceId limit locked => PrintingService.claim deviceId limit locked now
  | .completeJob deviceId jobId leaseToken =>
      printingTx (PrintingService.completeJob deviceId jobId leaseToken now)
  | .failJob deviceId jobId leaseToken error outcome =>
      PrintingService.fail deviceId jobId leaseToken error outcome now
  | .recoverExpiredLeases locked =>
      printingTx (PrintingService.recoverExpiredJobs none locked now)
  | .retryJob id employeeId deviceId => PrintingService.retry id employeeId deviceId now
  | .resolveJob id employeeId outcome expectedUpdatedAt =>
      PrintingService.resolve id employeeId outcome expectedUpdatedAt now
  | .createPrecheck employeeId input => PrintingService.createPrecheck employeeId input now
  | .reprintReceipt invoiceId employeeId input =>
      PrintingService.reprintReceipt invoiceId employeeId input now
  | .createAutomaticReceipt invoiceId =>
      PrintingService.createAutomaticReceipt invoiceId now
  | .cancelPendingReceiptJobs invoiceId =>
      printingTx (PrintingService.cancelPendingReceiptJobs invoiceId now)

inductive Command where
  | inventory (command : InventoryCommand)
  | cash (command : CashCommand)
  | order (command : OrderCommand)
  | invoice (command : InvoiceCommand)
  | online (command : OnlineCommand)
  | payment (command : PaymentCommand)
  | table (command : TableCommand)
  | print (command : PrintCommand)

def Command.execute (now : Timestamp) : Command → Transact Unit
  | .inventory command => command.execute now
  | .cash command => command.execute now
  | .order command => command.execute now
  | .invoice command => command.execute now
  | .online command => command.execute now
  | .payment command => command.execute now
  | .table command => command.execute now
  | .print command => command.execute now

/-- Management edits the master data and the reservation book. -/
def Database.administer (database : Database) (catalog : Catalog)
    (reservations : Table Reservation.id) : Database :=
  { database with catalog, sales := { database.sales with reservations } }

inductive Step (before : Database) : Database → Prop where
  | commit {after : Database} (command : Command) (now : Timestamp)
      (committed : Commits (command.execute now) before () after) : Step before after
  | administer (catalog : Catalog) (reservations : Table Reservation.id) :
      Step before (before.administer catalog reservations)

def Reachable (database : Database) : Prop :=
  Relation.ReflTransGen Step Database.empty database

/-- What holds of the empty database and survives every step holds of every reachable state. -/
theorem Reachable.invariant (assertion : Database → Prop) {database : Database}
    (reachable : Reachable database) (start : assertion Database.empty)
    (step : ∀ before after, Reachable before → Step before after → assertion before →
      assertion after) : assertion database := by
  induction reachable with
  | refl => exact start
  | tail reached taken inductionHypothesis => exact step _ _ reached taken inductionHypothesis

/-- An assertion that every command and every edit of the master data preserves. -/
theorem Reachable.preserved (assertion : Database → Prop) {database : Database}
    (reachable : Reachable database) (start : assertion Database.empty)
    (commands : ∀ (command : Command) now, Preserves assertion (command.execute now))
    (administration : ∀ database catalog reservations, assertion database →
      assertion (database.administer catalog reservations)) : assertion database := by
  refine reachable.invariant assertion start fun before after _ taken holds => ?_
  cases taken with
  | commit command now committed => exact (commands command now).step committed holds
  | administer catalog reservations =>
      exact administration before catalog reservations holds

end CoffeeShop
