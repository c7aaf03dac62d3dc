import CoffeeShop.Footprints

/-!
How the services outside the inventory use the stock.

They change it through the reservations, the consumption and the waste records only, so
whatever these respect is respected by all of them.
-/

-- An instance for a program has one node for each of its statements.
set_option synthInstance.maxSize 100000

namespace CoffeeShop

open Transaction

/-- The stock of the database changes as the relation says. -/
abbrev OnStock {α : Type} (R : InventoryStore → InventoryStore → Prop) (program : Transact α) :
    Prop := Respects (On Database.inventory R) program

/-- What the services outside the inventory do to the stock respects the relation. -/
class StockUse (R : InventoryStore → InventoryStore → Prop) : Prop extends
    IsPreorder InventoryStore R where
  reserve : ∀ catalog rows, Respects R (InventoryConsumption.createReservations catalog rows)
  release : ∀ orderItemIds, Respects R (InventoryConsumption.releaseReservations orderItemIds)
  consume : ∀ orderItemId ingredients now,
    Respects R (InventoryConsumption.consumeIngredients orderItemId ingredients now)
  recordWaste : ∀ input now, Respects R (InventoryConsumption.recordWaste input now)

namespace StockUse

variable {R : InventoryStore → InventoryStore → Prop} [StockUse R]
variable {id employeeId : Id} {now : Timestamp}

instance createReservations {catalog : Catalog} {rows : List InventoryReservation} :
    Respects R (InventoryConsumption.createReservations catalog rows) := reserve catalog rows

instance releaseReservations {orderItemIds : List Id} :
    Respects R (InventoryConsumption.releaseReservations orderItemIds) := release orderItemIds

instance consumeIngredients {orderItemId : Id} {ingredients : List ConsumedIngredient} :
    Respects R (InventoryConsumption.consumeIngredients orderItemId ingredients now) :=
  consume orderItemId ingredients now

instance recordsWaste {input : InventoryConsumption.WasteInput} :
    Respects R (InventoryConsumption.recordWaste input now) := recordWaste input now

instance consumeOrderItem {item : OrderItem} : OnStock R
    (InventoryConsumption.consumeOrderItem item now) := by
  dsimp only [InventoryConsumption.consumeOrderItem]
  infer_instance

instance planItem {catalog : Catalog} {line : OrderItemInput × Option OnlineOrderQuote} :
    OnStock R (OrdersService.planItem catalog id now line) := by
  dsimp only [OrdersService.planItem]
  infer_instance

instance reservePendingItems {condition : OrderItem → Bool} :
    OnStock R (InventoryConsumption.reservePendingItems condition now) := by
  dsimp only [InventoryConsumption.reservePendingItems]
  infer_instance

instance reserveSession : OnStock R (InventoryConsumption.reserveSession id now) := by
  dsimp only [InventoryConsumption.reserveSession]
  infer_instance

instance reserveInvoiceStock :
    OnStock R (InvoicesService.reserveInvoiceStock id now) := by
  dsimp only [InvoicesService.reserveInvoiceStock]
  infer_instance

instance changeItemStatus {serveStatus : ServeStatus} {handoffOnly : Bool}
    {pickup : Option PickupClaim} :
    OnStock R
      (OrdersService.changeItemStatus id employeeId serveStatus handoffOnly pickup now) := by
  dsimp only [OrdersService.changeItemStatus]
  infer_instance

instance updateItemStatus {serveStatus : ServeStatus} :
    OnStock R (OrdersService.updateItemStatus id employeeId serveStatus now) := by
  dsimp only [OrdersService.updateItemStatus]
  infer_instance

instance handoffTakeawayItem :
    OnStock R (OrdersService.handoffTakeawayItem id employeeId now) := by
  dsimp only [OrdersService.handoffTakeawayItem]
  infer_instance

instance handoffWithPickupCode {claim : PickupClaim} :
    OnStock R (OrdersService.handoffWithPickupCode claim id employeeId now) := by
  dsimp only [OrdersService.handoffWithPickupCode]
  infer_instance

instance cancelItem {reason : Option String} :
    OnStock R (OrdersService.cancelItem id employeeId reason now) := by
  dsimp only [OrdersService.cancelItem]
  infer_instance

instance cancelSession {reason : String} :
    OnStock R (OrdersService.cancelSession id employeeId reason now) := by
  dsimp only [OrdersService.cancelSession]
  infer_instance

instance clearTable {expected : Option Id} {reason : String} :
    OnStock R (OrdersService.clearTable id expected employeeId reason now) := by
  dsimp only [OrdersService.clearTable]
  infer_instance

instance voidInvoice : OnStock R (InvoicesService.voidInvoice id employeeId) := by
  dsimp only [InvoicesService.voidInvoice]
  infer_instance

instance cancelUnprepared {request : OnlineOrderRequest} :
    OnStock R (OnlineOrders.cancelUnprepared request now) := by
  dsimp only [OnlineOrders.cancelUnprepared]
  infer_instance

instance cancelPublicRequest :
    OnStock R (OnlineOrders.cancelPublicRequest id now) := by
  dsimp only [OnlineOrders.cancelPublicRequest]
  infer_instance

instance cancelAcceptedRequest {reason : String} {noShow : Bool} :
    OnStock R (OnlineOrders.cancelAcceptedRequest id employeeId reason noShow now) := by
  dsimp only [OnlineOrders.cancelAcceptedRequest]
  infer_instance

instance cancelAccepted {reason : String} :
    OnStock R (OnlineOrders.cancelAccepted id employeeId reason now) := by
  dsimp only [OnlineOrders.cancelAccepted]
  infer_instance

instance markNoShow : OnStock R (OnlineOrders.markNoShow id employeeId now) := by
  dsimp only [OnlineOrders.markNoShow]
  infer_instance

instance addOrderItemsInTransaction {items : List OrderItemInput}
    {quotes : Option (List OnlineOrderQuote)} {pickupAt : Option Timestamp} :
    OnStock R (OrdersService.addOrderItemsInTransaction id items quotes pickupAt now) := by
  dsimp only [OrdersService.addOrderItemsInTransaction]
  infer_instance

instance addOrderItems {items : List OrderItemInput} :
    OnStock R (OrdersService.addOrderItems id items employeeId now) := by
  dsimp only [OrdersService.addOrderItems]
  infer_instance

instance createRemake {input : OrdersService.RemakeInput} :
    OnStock R (OrdersService.createRemake id employeeId input now) := by
  dsimp only [OrdersService.createRemake]
  infer_instance

instance remakeItem {input : OrdersService.RemakeInput} :
    OnStock R (OrdersService.remakeItem id employeeId input now) := by
  dsimp only [OrdersService.remakeItem]
  infer_instance

instance createOnlineTakeawaySession {items : List OrderItemInput} {quotes : List OnlineOrderQuote}
    {pickupAt : Option Timestamp} :
    OnStock R (OrdersService.createOnlineTakeawaySession employeeId items quotes pickupAt now) := by
  dsimp only [OrdersService.createOnlineTakeawaySession]
  infer_instance

instance acceptRequest : OnStock R (OnlineOrders.accept id employeeId now) := by
  dsimp only [OnlineOrders.accept]
  infer_instance

instance createInvoiceInTransaction {request : InvoicesService.CreateInvoiceRequest}
    {onlinePickup : Bool} :
    OnStock R (InvoicesService.createInvoiceInTransaction request onlinePickup now) := by
  dsimp only [InvoicesService.createInvoiceInTransaction]
  infer_instance

instance createInvoice {input : CreateInvoiceInput} :
    OnStock R (InvoicesService.createInvoice employeeId input now) := by
  dsimp only [InvoicesService.createInvoice]
  infer_instance

instance checkoutInvoice {input : CheckoutInvoiceInput} :
    OnStock R (InvoicesService.checkoutInvoice employeeId input now) := by
  dsimp only [InvoicesService.checkoutInvoice]
  infer_instance

instance checkoutOnlinePickup {amountTendered : Money} :
    OnStock R
      (InvoicesService.checkoutOnlinePickupInTransaction employeeId id amountTendered now) := by
  dsimp only [InvoicesService.checkoutOnlinePickupInTransaction]
  infer_instance

instance updatePayment {input : UpdateInvoicePaymentInput} :
    OnStock R (InvoicesService.updatePayment id employeeId input now) := by
  dsimp only [InvoicesService.updatePayment]
  infer_instance

instance collectRequest {amountTendered : Money} :
    OnStock R (OnlineOrders.collect id employeeId amountTendered now) := by
  dsimp only [OnlineOrders.collect]
  infer_instance

instance openAttempt {input : CreatePaymentAttemptInput} :
    OnStock R (PaymentsService.openAttempt input now) := by
  dsimp only [PaymentsService.openAttempt]
  infer_instance

instance createAttempt {input : CreatePaymentAttemptInput} :
    OnStock R (PaymentsService.createAttempt input now) := by
  dsimp only [PaymentsService.createAttempt]
  infer_instance

/-- So does every command that the commands of the inventory themselves allow to. -/
theorem command (inventory : ∀ command : InventoryCommand,
      OnStock R (command.execute now)) {command : Command} :
    OnStock R (command.execute now) := by
  cases command with
  | inventory command => exact inventory command
  | cash command =>
      cases command <;> (dsimp only [Command.execute, CashCommand.execute]; infer_instance)
  | order command =>
      cases command <;> (dsimp only [Command.execute, OrderCommand.execute]; infer_instance)
  | invoice command =>
      cases command <;> (dsimp only [Command.execute, InvoiceCommand.execute]; infer_instance)
  | online command =>
      cases command <;> (dsimp only [Command.execute, OnlineCommand.execute]; infer_instance)
  | payment command =>
      cases command <;> (dsimp only [Command.execute, PaymentCommand.execute]; infer_instance)
  | table command =>
      cases command <;> (dsimp only [Command.execute, TableCommand.execute]; infer_instance)
  | print command =>
      cases command <;> (dsimp only [Command.execute, PrintCommand.execute]; infer_instance)

end StockUse

end CoffeeShop
