import CoffeeShop.Store.Frames
import CoffeeShop.System

/-!
The parts of the database that each service function touches.

A function that only reads a store respects every preorder on it.  A function that
writes respects whatever a view apart from the written parts shows.
-/

-- An instance for a program has one node for each of its statements.
set_option synthInstance.maxSize 100000

namespace CoffeeShop

namespace Footprint

open Transaction Database

section Reads

variable {σ : Type} {Q : σ → σ → Prop} [IsPreorder σ Q]

instance assertActiveSession {session : OrderSession} {message : String} :
    Respects Q (OrderPolicy.assertActiveSession session message) := by
  unfold OrderPolicy.assertActiveSession
  infer_instance

instance assertServeStatusTransition {current next : ServeStatus} :
    Respects Q (OrderPolicy.assertServeStatusTransition current next) := by
  unfold OrderPolicy.assertServeStatusTransition
  infer_instance

instance assertBulkSize {size : Nat} : Respects Q (InventoryPolicy.assertBulkSize size) := by
  unfold InventoryPolicy.assertBulkSize
  infer_instance

instance assertNoDuplicateInventoryItems {ids : List Id} :
    Respects Q (InventoryPolicy.assertNoDuplicateInventoryItems ids) := by
  unfold InventoryPolicy.assertNoDuplicateInventoryItems
  infer_instance

instance toNonNegativeDecimal {value : Quantity} {fieldName : String} :
    Respects Q (InventoryPolicy.toNonNegativeDecimal value fieldName) := by
  unfold InventoryPolicy.toNonNegativeDecimal
  infer_instance

instance toPositiveDecimal {value : Quantity} {fieldName : String} :
    Respects Q (InventoryPolicy.toPositiveDecimal value fieldName) := by
  unfold InventoryPolicy.toPositiveDecimal
  infer_instance

instance toNonNegativeMoney {value : Money} {fieldName : String} :
    Respects Q (InventoryPolicy.toNonNegativeMoney value fieldName) := by
  unfold InventoryPolicy.toNonNegativeMoney
  infer_instance

instance assertCanDeleteItem {check : InventoryPolicy.DeletionCheck} :
    Respects Q (InventoryPolicy.assertCanDeleteItem check) := by
  unfold InventoryPolicy.assertCanDeleteItem
  infer_instance

instance assertPromotionCanBeApplied {promotion : Promotion} {at_ : Timestamp} :
    Respects Q (PromotionCalculator.assertPromotionCanBeApplied promotion at_) := by
  dsimp only [PromotionCalculator.assertPromotionCanBeApplied]
  infer_instance

instance calculateDiscount {catalog : Catalog} {promotionId : Id} {subTotal : Money}
    {at_ : Timestamp} :
    Respects Q (PromotionCalculator.calculateDiscount catalog promotionId subTotal at_) := by
  dsimp only [PromotionCalculator.calculateDiscount, PromotionCalculator.calculateDiscountAmount]
  infer_instance

instance resolvePaidAmountTendered {paymentMethod : PaymentMethod} {totalAmount : Money}
    {amountTendered : Option Money} : Respects Q
      (InvoicesService.resolvePaidAmountTendered paymentMethod totalAmount amountTendered) := by
  dsimp only [InvoicesService.resolvePaidAmountTendered, InvoicesService.toDecimal]
  split <;> infer_instance

instance assertPaidPaymentAmount {paymentMethod : PaymentMethod} {amountTendered : Option Money}
    {totalAmount : Money} : Respects Q
      (InvoicesService.assertPaidPaymentAmount paymentMethod amountTendered totalAmount) := by
  dsimp only [InvoicesService.assertPaidPaymentAmount]
  infer_instance

instance calculateInvoice {input : InvoicesService.CalculateInvoiceInput} :
    Respects Q (InvoicesService.calculateInvoice input) := by
  dsimp only [InvoicesService.calculateInvoice]
  infer_instance

variable {I : InventoryStore → InventoryStore → Prop} [IsPreorder InventoryStore I]

instance assertActiveIngredient {line : RecipeLine} :
    Respects I (MenuOptionSelection.assertActiveIngredient line) := by
  dsimp only [MenuOptionSelection.assertActiveIngredient]
  infer_instance

instance resolveGroups {groups : List MenuItemOptionGroup} {selectedIds : List Id} :
    Respects I (MenuOptionSelection.resolveGroups groups selectedIds) := by
  induction groups generalizing selectedIds with
  | nil => exact Respects.pure _
  | cons group groups inductionHypothesis =>
      dsimp only [MenuOptionSelection.resolveGroups]
      infer_instance

instance resolveMenuSelection {menuItem : MenuItem} {optionIds : List Id} :
    Respects I (MenuOptionSelection.resolveMenuSelection menuItem optionIds) := by
  dsimp only [MenuOptionSelection.resolveMenuSelection]
  infer_instance

instance ensureActiveItemExists {id : Id} :
    Respects I (InventoryStore.ensureActiveItemExists id) := by
  dsimp only [InventoryStore.ensureActiveItemExists]
  infer_instance

instance ensureItemNameAvailable {name : String} {categoryId : Id} {excludeId : Option Id} :
    Respects I (InventoryItemService.ensureItemNameAvailable name categoryId excludeId) := by
  dsimp only [InventoryItemService.ensureItemNameAvailable]
  infer_instance

instance prepareLine {catalog : Catalog} {line : ReceiptLineInput} :
    Respects I (PurchaseReceiptService.prepareLine catalog line) := by
  dsimp only [PurchaseReceiptService.prepareLine]
  infer_instance

instance prepareLines {catalog : Catalog} {items : List ReceiptLineInput} :
    Respects I (PurchaseReceiptService.prepareLines catalog items) := by
  dsimp only [PurchaseReceiptService.prepareLines]
  infer_instance

instance assertReceiptDraft {id : Id} : Respects I (PurchaseReceiptService.assertDraft id) := by
  dsimp only [PurchaseReceiptService.assertDraft]
  infer_instance

instance assertStocktakeDraft {id : Id} : Respects I (StocktakeService.assertDraft id) := by
  dsimp only [StocktakeService.assertDraft]
  infer_instance

instance readIngredient {catalog : Catalog} {item : OrderItem} {line : RecipeLine} :
    Respects I (InventoryConsumption.readIngredient catalog item line) := by
  dsimp only [InventoryConsumption.readIngredient]
  infer_instance

instance missingReservations {held required : List InventoryReservation} :
    Respects I (InventoryConsumption.missingReservations held required) := by
  dsimp only [InventoryConsumption.missingReservations]
  infer_instance

variable {R : SalesStore → SalesStore → Prop} [IsPreorder SalesStore R]

instance findSession {id : Id} : Respects R (OrdersService.findSession id) := by
  unfold OrdersService.findSession
  infer_instance

instance findItem {id : Id} : Respects R (OrdersService.findItem id) := by
  unfold OrdersService.findItem
  infer_instance

instance findInvoice {id : Id} : Respects R (InvoicesService.findInvoice id) := by
  unfold InvoicesService.findInvoice
  infer_instance

instance findSessionOf {row : Invoice} : Respects R (InvoicesService.findSessionOf row) := by
  unfold InvoicesService.findSessionOf
  infer_instance

instance assertInvoiceIsUnpaid {row : Invoice} :
    Respects R (InvoicesService.assertInvoiceIsUnpaid row) := by
  unfold InvoicesService.assertInvoiceIsUnpaid
  infer_instance

instance assertPosOrderMutationAllowed {id : Id} :
    Respects R (InvoicesService.assertPosOrderMutationAllowed id) := by
  unfold InvoicesService.assertPosOrderMutationAllowed
  infer_instance

instance findRequest {id : Id} : Respects R (OnlineOrders.findRequest id) := by
  unfold OnlineOrders.findRequest
  infer_instance

instance getInvoiceItems {orderSessionId : Id} {orderItemIds : Option (List Id)} :
    Respects R (InvoicesService.getInvoiceItems orderSessionId orderItemIds) := by
  dsimp only [InvoicesService.getInvoiceItems]
  split <;> infer_instance

instance assertInvoiceItemsAreBillable {items : List OrderItem} :
    Respects R (InvoicesService.assertInvoiceItemsAreBillable items) := by
  dsimp only [InvoicesService.assertInvoiceItemsAreBillable]
  infer_instance

instance resolveDiscount {catalog : Catalog} {promotionId : Option Id} {subTotal : Money}
    {now : Timestamp} :
    Respects R (InvoicesService.resolveDiscount catalog promotionId subTotal now) := by
  dsimp only [InvoicesService.resolveDiscount]
  split <;> infer_instance

instance draftInvoice {request : InvoicesService.CreateInvoiceRequest} {catalog : Catalog}
    {session : OrderSession} {now : Timestamp} :
    Respects R (InvoicesService.draftInvoice request catalog session now) := by
  dsimp only [InvoicesService.draftInvoice]
  infer_instance

instance resolvePayment {existing : Invoice} {input : UpdateInvoicePaymentInput} :
    Respects R (InvoicesService.resolvePayment existing input) := by
  dsimp only [InvoicesService.resolvePayment]
  infer_instance

instance generateInvoiceNumber {now : Timestamp} :
    Respects R (InvoiceNumberService.generate now) := by
  dsimp only [InvoiceNumberService.generate]
  infer_instance

instance assertCancellable {sales : SalesStore} {item : OrderItem} {session : OrderSession} :
    Respects R (OrdersService.assertCancellable sales item session) := by
  dsimp only [OrdersService.assertCancellable, OrderPolicy.assertNoPaidOrInvoicedItems]
  infer_instance

instance findActiveSession {tableId : Id} : Respects R (OrdersService.findActiveSession tableId) := by
  dsimp only [OrdersService.findActiveSession]
  infer_instance

instance findTable {id : Id} : Respects R (OrdersService.findTable id) := by
  dsimp only [OrdersService.findTable]
  infer_instance

instance itemsOf {id : Id} : Respects R (OrdersService.itemsOf id) := by
  dsimp only [OrdersService.itemsOf]
  infer_instance

instance assertSplittable {id : Id} {item : OrderItem} {split : SplitItem} :
    Respects R (OrdersService.assertSplittable id item split) := by
  dsimp only [OrdersService.assertSplittable]
  infer_instance

instance findPickupInvoice {id : Id} : Respects R (TakeawayService.findPickupInvoice id) := by
  dsimp only [TakeawayService.findPickupInvoice]
  infer_instance

instance assertPickupSlot {catalog : Catalog} {pickupAt : Option Timestamp} {now : Timestamp} :
    Respects R (OnlineOrders.assertPickupSlot catalog pickupAt now) := by
  dsimp only [OnlineOrders.assertPickupSlot]
  split <;> infer_instance

instance findAcceptedSession {request : OnlineOrderRequest} {failure : Failure} :
    Respects R (OnlineOrders.findAcceptedSession request failure) := by
  dsimp only [OnlineOrders.findAcceptedSession]
  infer_instance

instance findPrintableInvoice {id : Id} :
    Respects R (PrintingService.findPrintableInvoice id) := by
  unfold PrintingService.findPrintableInvoice
  infer_instance

variable {C : CashStore → CashStore → Prop} [IsPreorder CashStore C]

instance findOpenShiftId {employeeId : Id} :
    Respects C (CashierShiftLedger.findOpenShiftId employeeId) := by
  unfold CashierShiftLedger.findOpenShiftId
  infer_instance

instance requireOpenShift {employeeId : Id} :
    Respects C (CashierShiftLedger.requireOpenShift employeeId) := by
  dsimp only [CashierShiftLedger.requireOpenShift]
  infer_instance

instance assertNameAvailable {name : String} {excludeId : Option Id} :
    Respects C (FundsService.assertNameAvailable name excludeId) := by
  dsimp only [FundsService.assertNameAvailable]
  infer_instance

instance findActiveFund {id : Id} : Respects C (FundsService.findActive id) := by
  dsimp only [FundsService.findActive]
  infer_instance

instance assertTypeChangeable {id : Id} : Respects C (FundsService.assertTypeChangeable id) := by
  dsimp only [FundsService.assertTypeChangeable]
  infer_instance

instance findExpenseRequestOrThrow {id : Id} :
    Respects C (CashierShifts.findExpenseRequestOrThrow id) := by
  dsimp only [CashierShifts.findExpenseRequestOrThrow]
  infer_instance

instance reviewExpenseRequest {id employeeId : Id} :
    Respects C (CashierShifts.reviewExpenseRequest id employeeId) := by
  dsimp only [CashierShifts.reviewExpenseRequest]
  infer_instance

instance findHandoverOrThrow {id : Id} : Respects C (CashHandovers.findOrThrow id) := by
  dsimp only [CashHandovers.findOrThrow]
  infer_instance

instance assertPendingHandover {handover : CashHandover} :
    Respects C (CashHandovers.assertPending handover) := by
  dsimp only [CashHandovers.assertPending]
  infer_instance

instance assertFundsHaveNoOpenShift {sourceFundId : Id} {destination : Fund} :
    Respects C (CashHandovers.assertFundsHaveNoOpenShift sourceFundId destination) := by
  dsimp only [CashHandovers.assertFundsHaveNoOpenShift]
  infer_instance

instance reviewHandover {id employeeId : Id} :
    Respects C (CashHandovers.reviewHandover id employeeId) := by
  dsimp only [CashHandovers.reviewHandover]
  infer_instance

instance assertReferenceUnused {handover : CashHandover} {bankReference message : String} :
    Respects C (CashHandovers.assertReferenceUnused handover bankReference message) := by
  dsimp only [CashHandovers.assertReferenceUnused]
  infer_instance

variable {P : PaymentStore → PaymentStore → Prop} [IsPreorder PaymentStore P]

instance findByReference {merchantReference : Id} :
    Respects P (PaymentsService.findByReference merchantReference) := by
  unfold PaymentsService.findByReference
  infer_instance

instance assertNoUnresolvedAttempt {invoiceId : Id} :
    Respects P (PaymentsService.assertNoUnresolvedAttempt invoiceId) := by
  unfold PaymentsService.assertNoUnresolvedAttempt
  infer_instance

instance assertIdempotentRefund {refund : PaymentRefund} {input : CreatePaymentRefundInput} :
    Respects P (PaymentRefunds.assertIdempotentReplay refund input) := by
  unfold PaymentRefunds.assertIdempotentReplay
  infer_instance

variable {J : PrintStore → PrintStore → Prop} [IsPreorder PrintStore J]

instance findDevice {id : Id} : Respects J (PrintingService.findDevice id) := by
  unfold PrintingService.findDevice
  infer_instance

instance assertCompatibleDevice {id : Id} {jobType : PrintJobType} :
    Respects J (PrintingService.assertCompatibleDevice id jobType) := by
  unfold PrintingService.assertCompatibleDevice
  infer_instance

instance resolveReceiptDevice {requested : Option Id} :
    Respects J (PrintingService.resolveReceiptDevice requested) := by
  unfold PrintingService.resolveReceiptDevice
  infer_instance

variable {D : Database → Database → Prop} [IsPreorder Database D]

instance findKitchenJobs {ids : List Id} : Respects D (PrintingService.findKitchenJobs ids) := by
  unfold PrintingService.findKitchenJobs
  infer_instance

instance quoteInvoice {employeeId : Id} {input : CreateInvoiceInput} {now : Timestamp} :
    Respects D (InvoicesService.quoteInvoiceInTransaction employeeId input now) := by
  unfold InvoicesService.quoteInvoiceInTransaction
  infer_instance

instance ensureActiveCategoryExists {id : Id} :
    Respects D (InventoryItemService.ensureActiveCategoryExists id) := by
  unfold InventoryItemService.ensureActiveCategoryExists
  infer_instance

instance ensureActiveUnitExists {id : Id} :
    Respects D (InventoryItemService.ensureActiveUnitExists id) := by
  unfold InventoryItemService.ensureActiveUnitExists
  infer_instance

instance assertActiveSupplier {id : Id} :
    Respects D (PurchaseReceiptService.assertActiveSupplier id) := by
  unfold PurchaseReceiptService.assertActiveSupplier
  infer_instance

instance assertActiveReviewer {id : Id} : Respects D (OnlineOrders.assertActiveReviewer id) := by
  unfold OnlineOrders.assertActiveReviewer
  infer_instance

instance assertNoUnresolvedOnlinePayment {invoiceId : Id} :
    Respects D (InvoicesService.assertNoUnresolvedOnlinePayment invoiceId) := by
  unfold InvoicesService.assertNoUnresolvedOnlinePayment
  infer_instance

instance requireShiftIfPaid {request : InvoicesService.CreateInvoiceRequest} :
    Respects D (InvoicesService.requireShiftIfPaid request) := by
  unfold InvoicesService.requireShiftIfPaid
  infer_instance

instance assertRefundable {database : Database} {invoice : Invoice} :
    Respects D (CashRefunds.assertRefundable database invoice) := by
  dsimp only [CashRefunds.assertRefundable]
  infer_instance

instance assertAmount {provider : PaymentProvider} {amount : Money} :
    Respects D (PaymentsService.assertAmount provider amount) := by
  unfold PaymentsService.assertAmount
  split <;> infer_instance

instance ofProvider {attempt : Option PaymentAttempt} {provider : PaymentProvider}
    {missing : String} {apply : PaymentAttempt → Transact String}
    [∀ attempt, Respects D (apply attempt)] :
    Respects D (PaymentsService.ofProvider attempt provider missing apply) := by
  unfold PaymentsService.ofProvider
  infer_instance

instance findInvoiceOf {attempt : PaymentAttempt} : Respects D (findInvoiceOf attempt) := by
  unfold CoffeeShop.findInvoiceOf
  infer_instance

instance findAttemptView {id : Id} : Respects D (PaymentReconciliation.findAttemptView id) := by
  unfold PaymentReconciliation.findAttemptView
  infer_instance

end Reads

variable {τ : Type} {view : Database → τ} {S : τ → τ → Prop} [IsPreorder τ S]
variable {id employeeId : Id} {now : Timestamp}

section Inventory

variable [Apart view inventoryPart]

instance consumeOrderItem {item : OrderItem} :
    Respects (On view S) (InventoryConsumption.consumeOrderItem item now) := by
  dsimp only [InventoryConsumption.consumeOrderItem]
  infer_instance

instance moveStockInTransaction {movements : List StockMovement} :
    Respects (On view S) (InventoryMovement.moveStockInTransaction employeeId movements now) := by
  dsimp only [InventoryMovement.moveStockInTransaction]
  infer_instance

instance importItem {itemId : Id} {quantity : Quantity} {unitPrice : Money}
    {transactionDate : Option Timestamp} :
    Respects (On view S) (InventoryMovement.importItem employeeId itemId quantity unitPrice transactionDate now) := by
  dsimp only [InventoryMovement.importItem]
  infer_instance

instance exportItem {itemId : Id} {quantity : Quantity} {transactionDate : Option Timestamp} :
    Respects (On view S) (InventoryMovement.exportItem employeeId itemId quantity transactionDate now) := by
  dsimp only [InventoryMovement.exportItem]
  infer_instance

instance bulkMove {type : InventoryTxType} {items : List StockMovement} :
    Respects (On view S) (InventoryMovement.bulkMove type employeeId items now) := by
  dsimp only [InventoryMovement.bulkMove]
  infer_instance

instance postReceipt {expectedUpdatedAt : Timestamp} :
    Respects (On view S) (PurchaseReceiptService.post id employeeId expectedUpdatedAt now) := by
  dsimp only [PurchaseReceiptService.post]
  infer_instance

instance cancelReceipt {reason : String} :
    Respects (On view S) (PurchaseReceiptService.cancel id employeeId reason now) := by
  dsimp only [PurchaseReceiptService.cancel]
  infer_instance

instance updateCounts {counts : List StocktakeCount} :
    Respects (On view S) (StocktakeService.updateCounts id employeeId counts now) := by
  dsimp only [StocktakeService.updateCounts]
  infer_instance

instance postStocktake {expectedCounts : Option (List StocktakeCount)} :
    Respects (On view S) (StocktakeService.post id employeeId expectedCounts now) := by
  dsimp only [StocktakeService.post]
  infer_instance

instance cancelStocktake {reason : String} :
    Respects (On view S) (StocktakeService.cancel id employeeId reason now) := by
  dsimp only [StocktakeService.cancel]
  infer_instance

instance updateItem {input : UpdateInventoryItemInput} :
    Respects (On view S) (InventoryItemService.update id employeeId input) := by
  dsimp only [InventoryItemService.update]
  infer_instance

instance removeItem : Respects (On view S) (InventoryItemService.remove id employeeId now) := by
  dsimp only [InventoryItemService.remove]
  infer_instance

end Inventory

section InventoryAndIds

variable [Apart view inventoryPart] [Respects (On view S) freshId]

instance planItem {catalog : Catalog} {line : OrderItemInput × Option OnlineOrderQuote} :
    Respects (On view S) (OrdersService.planItem catalog id now line) := by
  dsimp only [OrdersService.planItem]
  infer_instance

instance createReceiptLines {lines : List PreparedReceiptLine} :
    Respects (On view S) (PurchaseReceiptService.createLines id lines) := by
  dsimp only [PurchaseReceiptService.createLines]
  infer_instance

instance createReceipt {input : CreatePurchaseReceiptInput} :
    Respects (On view S) (PurchaseReceiptService.create employeeId input now) := by
  dsimp only [PurchaseReceiptService.create]
  infer_instance

instance replaceReceiptLines {lines : List PreparedReceiptLine} :
    Respects (On view S) (PurchaseReceiptService.replaceLines id lines) := by
  dsimp only [PurchaseReceiptService.replaceLines]
  infer_instance

instance updateReceipt {input : UpdatePurchaseReceiptInput} :
    Respects (On view S) (PurchaseReceiptService.update id employeeId input now) := by
  dsimp only [PurchaseReceiptService.update]
  infer_instance

instance createStocktakeLines {catalog : Catalog} {items : List InventoryItem} :
    Respects (On view S) (StocktakeService.createLines catalog id items) := by
  dsimp only [StocktakeService.createLines]
  infer_instance

instance createStocktake {inventoryItemIds : List Id} :
    Respects (On view S) (StocktakeService.create employeeId inventoryItemIds) := by
  dsimp only [StocktakeService.create]
  infer_instance

instance createItem {input : CreateInventoryItemInput} :
    Respects (On view S) (InventoryItemService.create employeeId input now) := by
  dsimp only [InventoryItemService.create]
  infer_instance

end InventoryAndIds

section Sales

variable [Apart view salesPart]

instance transferTable {input : TransferDiningTableInput} :
    Respects (On view S) (OrdersService.transferTable input employeeId) := by
  dsimp only [OrdersService.transferTable]
  infer_instance

instance mergeTables {input : MergeDiningTableInput} :
    Respects (On view S) (OrdersService.mergeTables input employeeId) := by
  dsimp only [OrdersService.mergeTables]
  infer_instance

instance completeSession : Respects (On view S) (OrdersService.completeSession id employeeId) := by
  dsimp only [OrdersService.completeSession]
  infer_instance

instance revokePickupCode {claim : PickupClaim} :
    Respects (On view S) (TakeawayService.revokePickupCode claim employeeId now) := by
  dsimp only [TakeawayService.revokePickupCode]
  infer_instance

instance provisionPickupCode {currentCode : Option PickupCode} :
    Respects (On view S) (TakeawayService.provisionPickupCode id employeeId currentCode now) := by
  dsimp only [TakeawayService.provisionPickupCode]
  infer_instance

instance rejectRequest {reason : String} :
    Respects (On view S) (OnlineOrders.reject id employeeId reason now) := by
  dsimp only [OnlineOrders.reject]
  infer_instance

instance updateTable {name : String} :
    Respects (On view S) (DiningTablesService.updateTable id name) := by
  dsimp only [DiningTablesService.updateTable]
  infer_instance

instance deleteTable : Respects (On view S) (DiningTablesService.deleteTable id now) := by
  dsimp only [DiningTablesService.deleteTable]
  infer_instance

instance completeInvoice {attempt : PaymentAttempt} :
    Respects (On view S) (PaymentsService.completeInvoice attempt) := by
  dsimp only [PaymentsService.completeInvoice]
  infer_instance

end Sales

section Printing

variable [Apart view printPart]

instance cancelUnclaimedJobs :
    Respects (On view S) (OnlineOrders.cancelUnclaimedJobs id now) := by
  dsimp only [OnlineOrders.cancelUnclaimedJobs]
  infer_instance

instance updateDevice {input : UpdatePrintDeviceInput} {locked : Id → Bool} :
    Respects (On view S) (PrintingService.updateDevice id employeeId input locked now) := by
  dsimp only [PrintingService.updateDevice]
  infer_instance

instance deleteDevice [Apart view stationPart] {locked : Id → Bool} :
    Respects (On view S) (PrintingService.deleteDevice id employeeId locked now) := by
  dsimp only [PrintingService.deleteDevice]
  infer_instance

instance failJob {jobId leaseToken : Id} {error : String} {outcome : PrintFailureOutcome} :
    Respects (On view S) (PrintingService.fail id jobId leaseToken error outcome now) := by
  dsimp only [PrintingService.fail]
  infer_instance

instance retryJob {deviceId : Option (Option Id)} :
    Respects (On view S) (PrintingService.retry id employeeId deviceId now) := by
  dsimp only [PrintingService.retry]
  infer_instance

instance resolveJob {outcome : PrintResolution} {expectedUpdatedAt : Timestamp} :
    Respects (On view S)
      (PrintingService.resolve id employeeId outcome expectedUpdatedAt now) := by
  dsimp only [PrintingService.resolve]
  infer_instance

variable [Respects (On view S) freshId]

instance createDevice {input : CreatePrintDeviceInput} :
    Respects (On view S) (PrintingService.createDevice employeeId input now) := by
  dsimp only [PrintingService.createDevice]
  infer_instance

instance claimJobs {limit : Nat} {locked : Id → Bool} :
    Respects (On view S) (PrintingService.claim id limit locked now) := by
  dsimp only [PrintingService.claim]
  infer_instance

instance createPrecheck {input : CreatePrecheckInput} :
    Respects (On view S) (PrintingService.createPrecheck employeeId input now) := by
  dsimp only [PrintingService.createPrecheck]
  infer_instance

instance reprintReceipt {input : ReprintReceiptInput} :
    Respects (On view S) (PrintingService.reprintReceipt id employeeId input now) := by
  dsimp only [PrintingService.reprintReceipt]
  infer_instance

instance createAutomaticReceipt :
    Respects (On view S) (PrintingService.createAutomaticReceipt id now) := by
  dsimp only [PrintingService.createAutomaticReceipt]
  infer_instance

instance enqueueKitchenTicket {input : KitchenTicketJob} :
    Respects (On view S) (PrintingService.enqueueKitchenTicket input now) := by
  dsimp only [PrintingService.enqueueKitchenTicket]
  infer_instance

instance splitKitchenItems {input : KitchenPrintSplit} :
    Respects (On view S) (PrintingService.splitKitchenItems input now) := by
  dsimp only [PrintingService.splitKitchenItems]
  infer_instance

instance cancelKitchenItems {ids : List Id} {reason : String} :
    Respects (On view S) (PrintingService.cancelKitchenItems ids employeeId reason now) := by
  dsimp only [PrintingService.cancelKitchenItems]
  infer_instance

end Printing

section SalesPrintingAndIds

variable [Apart view salesPart] [Apart view printPart] [Respects (On view S) freshId]

instance createTicket {catalog : Catalog} {items : List OrderItem} {pickupAt : Option Timestamp}
    {station : KitchenStation} :
    Respects (On view S) (KitchenRouting.createTicket catalog id items pickupAt now station) := by
  dsimp only [KitchenRouting.createTicket]
  infer_instance

instance createTickets {items : List OrderItem} {pickupAt : Option Timestamp} :
    Respects (On view S) (KitchenRouting.createTickets id items pickupAt now) := by
  dsimp only [KitchenRouting.createTickets]
  infer_instance

end SalesPrintingAndIds

section SalesAndIds

variable [Apart view salesPart] [Respects (On view S) freshId]

instance createOrderSession {tableId : Option Id} {guestCount : Option Nat} :
    Respects (On view S) (OrdersService.createOrderSession tableId employeeId guestCount now) := by
  dsimp only [OrdersService.createOrderSession]
  infer_instance

instance openSession {tableId : Option Id} {guestCount : Option Nat} :
    Respects (On view S) (OrdersService.openSession tableId employeeId guestCount now) := by
  dsimp only [OrdersService.openSession]
  infer_instance

instance checkInReservation :
    Respects (On view S) (OrdersService.checkInReservation id employeeId now) := by
  dsimp only [OrdersService.checkInReservation]
  infer_instance

instance createTable {name : String} :
    Respects (On view S) (DiningTablesService.createTable name) := by
  dsimp only [DiningTablesService.createTable]
  infer_instance

instance moveLine {destinationId : Id} {pair : OrderItem × SplitItem} :
    Respects (On view S) (OrdersService.moveLine id destinationId now pair) := by
  dsimp only [OrdersService.moveLine]
  infer_instance

instance splitTable [Apart view printPart] {input : SplitOrderSessionInput} :
    Respects (On view S) (OrdersService.splitTable input employeeId now) := by
  dsimp only [OrdersService.splitTable]
  infer_instance

instance receiveRequest {input : ReceiveOnlineOrderInput} :
    Respects (On view S) (OnlineOrders.receive input now) := by
  dsimp only [OnlineOrders.receive]
  infer_instance

end SalesAndIds

section SalesAndInventory

variable [Apart view salesPart] [Apart view inventoryPart]

instance reservePendingItems {condition : OrderItem → Bool} :
    Respects (On view S) (InventoryConsumption.reservePendingItems condition now) := by
  dsimp only [InventoryConsumption.reservePendingItems]
  infer_instance

instance reserveSession : Respects (On view S) (InventoryConsumption.reserveSession id now) := by
  dsimp only [InventoryConsumption.reserveSession]
  infer_instance

instance reserveInvoiceStock :
    Respects (On view S) (InvoicesService.reserveInvoiceStock id now) := by
  dsimp only [InvoicesService.reserveInvoiceStock]
  infer_instance

instance changeItemStatus {serveStatus : ServeStatus} {handoffOnly : Bool}
    {pickup : Option PickupClaim} :
    Respects (On view S) (OrdersService.changeItemStatus id employeeId serveStatus handoffOnly pickup now) := by
  dsimp only [OrdersService.changeItemStatus]
  infer_instance

instance updateItemStatus {serveStatus : ServeStatus} :
    Respects (On view S) (OrdersService.updateItemStatus id employeeId serveStatus now) := by
  dsimp only [OrdersService.updateItemStatus]
  infer_instance

instance handoffTakeawayItem :
    Respects (On view S) (OrdersService.handoffTakeawayItem id employeeId now) := by
  dsimp only [OrdersService.handoffTakeawayItem]
  infer_instance

instance handoffWithPickupCode {claim : PickupClaim} :
    Respects (On view S) (OrdersService.handoffWithPickupCode claim id employeeId now) := by
  dsimp only [OrdersService.handoffWithPickupCode]
  infer_instance

instance voidInvoice : Respects (On view S) (InvoicesService.voidInvoice id employeeId) := by
  dsimp only [InvoicesService.voidInvoice]
  infer_instance

end SalesAndInventory

section SalesInventoryPrintingAndIds

variable [Apart view salesPart] [Apart view inventoryPart] [Apart view printPart]
variable [Respects (On view S) freshId]

instance cancelItem {reason : Option String} :
    Respects (On view S) (OrdersService.cancelItem id employeeId reason now) := by
  dsimp only [OrdersService.cancelItem]
  infer_instance

instance cancelSession {reason : String} :
    Respects (On view S) (OrdersService.cancelSession id employeeId reason now) := by
  dsimp only [OrdersService.cancelSession]
  infer_instance

instance clearTable {expected : Option Id} {reason : String} :
    Respects (On view S) (OrdersService.clearTable id expected employeeId reason now) := by
  dsimp only [OrdersService.clearTable]
  infer_instance

instance cancelUnprepared {request : OnlineOrderRequest} :
    Respects (On view S) (OnlineOrders.cancelUnprepared request now) := by
  dsimp only [OnlineOrders.cancelUnprepared]
  infer_instance

instance cancelPublicRequest :
    Respects (On view S) (OnlineOrders.cancelPublicRequest id now) := by
  dsimp only [OnlineOrders.cancelPublicRequest]
  infer_instance

instance cancelAcceptedRequest {reason : String} {noShow : Bool} :
    Respects (On view S) (OnlineOrders.cancelAcceptedRequest id employeeId reason noShow now) := by
  dsimp only [OnlineOrders.cancelAcceptedRequest]
  infer_instance

instance cancelAccepted {reason : String} :
    Respects (On view S) (OnlineOrders.cancelAccepted id employeeId reason now) := by
  dsimp only [OnlineOrders.cancelAccepted]
  infer_instance

instance markNoShow : Respects (On view S) (OnlineOrders.markNoShow id employeeId now) := by
  dsimp only [OnlineOrders.markNoShow]
  infer_instance

instance addOrderItemsInTransaction {items : List OrderItemInput} {quotes : Option (List OnlineOrderQuote)}
    {pickupAt : Option Timestamp} :
    Respects (On view S) (OrdersService.addOrderItemsInTransaction id items quotes pickupAt now) := by
  dsimp only [OrdersService.addOrderItemsInTransaction]
  infer_instance

instance addOrderItems {items : List OrderItemInput} :
    Respects (On view S) (OrdersService.addOrderItems id items employeeId now) := by
  dsimp only [OrdersService.addOrderItems]
  infer_instance

instance createRemake {input : OrdersService.RemakeInput} :
    Respects (On view S) (OrdersService.createRemake id employeeId input now) := by
  dsimp only [OrdersService.createRemake]
  infer_instance

instance remakeItem {input : OrdersService.RemakeInput} :
    Respects (On view S) (OrdersService.remakeItem id employeeId input now) := by
  dsimp only [OrdersService.remakeItem]
  infer_instance

instance createOnlineTakeawaySession {items : List OrderItemInput} {quotes : List OnlineOrderQuote}
    {pickupAt : Option Timestamp} :
    Respects (On view S) (OrdersService.createOnlineTakeawaySession employeeId items quotes pickupAt now) := by
  dsimp only [OrdersService.createOnlineTakeawaySession]
  infer_instance

instance acceptRequest : Respects (On view S) (OnlineOrders.accept id employeeId now) := by
  dsimp only [OnlineOrders.accept]
  infer_instance

end SalesInventoryPrintingAndIds

section Cash

variable [Apart view cashPart]

instance updateFund {input : UpdateFundInput} :
    Respects (On view S) (FundsService.update id employeeId input) := by
  dsimp only [FundsService.update]
  infer_instance

instance removeFund : Respects (On view S) (FundsService.remove id employeeId now) := by
  dsimp only [FundsService.remove]
  infer_instance

instance resolveExpenseRequest {input : CashierShifts.ResolveExpenseRequestInput} :
    Respects (On view S) (CashierShifts.resolveExpenseRequest input now) := by
  dsimp only [CashierShifts.resolveExpenseRequest]
  infer_instance

instance rejectExpenseRequest {reason : String} :
    Respects (On view S) (CashierShifts.rejectExpenseRequest id employeeId reason now) := by
  dsimp only [CashierShifts.rejectExpenseRequest]
  infer_instance

instance cancelExpenseRequest :
    Respects (On view S) (CashierShifts.cancelExpenseRequest id employeeId now) := by
  dsimp only [CashierShifts.cancelExpenseRequest]
  infer_instance

instance closeShift {input : CloseCashierShiftInput} :
    Respects (On view S) (CashierShifts.close employeeId input now) := by
  dsimp only [CashierShifts.close]
  infer_instance

instance registerDeposit {deposit : BankDeposit} :
    Respects (On view S) (CashHandovers.registerDeposit id employeeId deposit) := by
  dsimp only [CashHandovers.registerDeposit]
  infer_instance

instance rejectHandover {reason : String} :
    Respects (On view S) (CashHandovers.reject id employeeId reason now) := by
  dsimp only [CashHandovers.reject]
  infer_instance

instance cancelHandover : Respects (On view S) (CashHandovers.cancel id employeeId now) := by
  dsimp only [CashHandovers.cancel]
  infer_instance

end Cash

section CashAndIds

variable [Apart view cashPart] [Respects (On view S) freshId]

instance createFund {input : CreateFundInput} :
    Respects (On view S) (FundsService.create employeeId input) := by
  dsimp only [FundsService.create]
  infer_instance

instance createImport {fundId : Id} :
    Respects (On view S) (BankReconciliation.createImport fundId) := by
  dsimp only [BankReconciliation.createImport]
  infer_instance

instance recordCashInvoice {input : CashierShiftLedger.RecordCashInvoiceInput} :
    Respects (On view S) (CashierShiftLedger.recordCashInvoice input now) := by
  dsimp only [CashierShiftLedger.recordCashInvoice]
  infer_instance

instance openShift {input : OpenCashierShiftInput} :
    Respects (On view S) (CashierShifts.openShift employeeId input) := by
  dsimp only [CashierShifts.openShift]
  infer_instance

instance postMovement {input : CashierShifts.MovementInput} :
    Respects (On view S) (CashierShifts.postMovement input now) := by
  dsimp only [CashierShifts.postMovement]
  infer_instance

instance addMovement {input : CreateCashMovementInput} :
    Respects (On view S) (CashierShifts.addMovement employeeId input now) := by
  dsimp only [CashierShifts.addMovement]
  infer_instance

instance approveExpenseRequest {note : Option String} :
    Respects (On view S) (CashierShifts.approveExpenseRequest id employeeId note now) := by
  dsimp only [CashierShifts.approveExpenseRequest]
  infer_instance

instance createHandover {input : CreateCashHandoverInput} :
    Respects (On view S) (CashHandovers.create employeeId input) := by
  dsimp only [CashHandovers.create]
  infer_instance

instance approveHandover {note : Option String} :
    Respects (On view S) (CashHandovers.approve id employeeId note now) := by
  dsimp only [CashHandovers.approve]
  infer_instance

instance settleHandover {deposit : BankDeposit} :
    Respects (On view S) (CashHandovers.settle id employeeId deposit now) := by
  dsimp only [CashHandovers.settle]
  infer_instance

end CashAndIds

section SalesCashAndIds

variable [Apart view salesPart] [Apart view cashPart] [Respects (On view S) freshId]

instance createCashRefund {input : CreateCashRefundInput} :
    Respects (On view S) (CashRefunds.createRefund id employeeId input now) := by
  dsimp only [CashRefunds.createRefund]
  infer_instance

instance cashRefund {input : CreateCashRefundInput} :
    Respects (On view S) (CashRefunds.create id employeeId input now) := by
  dsimp only [CashRefunds.create]
  infer_instance

end SalesCashAndIds

section Invoices

variable [Apart view salesPart] [Apart view inventoryPart] [Apart view cashPart] [Respects (On view S) freshId]

instance createInvoiceInTransaction {request : InvoicesService.CreateInvoiceRequest} {onlinePickup : Bool} :
    Respects (On view S) (InvoicesService.createInvoiceInTransaction request onlinePickup now) := by
  dsimp only [InvoicesService.createInvoiceInTransaction]
  infer_instance

instance createInvoice {input : CreateInvoiceInput} :
    Respects (On view S) (InvoicesService.createInvoice employeeId input now) := by
  dsimp only [InvoicesService.createInvoice]
  infer_instance

instance checkoutInvoice {input : CheckoutInvoiceInput} :
    Respects (On view S) (InvoicesService.checkoutInvoice employeeId input now) := by
  dsimp only [InvoicesService.checkoutInvoice]
  infer_instance

instance checkoutOnlinePickup {amountTendered : Money} :
    Respects (On view S) (InvoicesService.checkoutOnlinePickupInTransaction employeeId id amountTendered now) := by
  dsimp only [InvoicesService.checkoutOnlinePickupInTransaction]
  infer_instance

instance updatePayment {input : UpdateInvoicePaymentInput} :
    Respects (On view S) (InvoicesService.updatePayment id employeeId input now) := by
  dsimp only [InvoicesService.updatePayment]
  infer_instance

instance collectRequest {amountTendered : Money} :
    Respects (On view S) (OnlineOrders.collect id employeeId amountTendered now) := by
  dsimp only [OnlineOrders.collect]
  infer_instance

end Invoices

section Payments

variable [Apart view paymentPart]

instance presentAttempt {paymentUrl paymentLinkId : String} :
    Respects (On view S) (PaymentsService.presentAttempt id paymentUrl paymentLinkId now) := by
  dsimp only [PaymentsService.presentAttempt]
  infer_instance

end Payments

section PaymentsAndIds

variable [Apart view paymentPart] [Respects (On view S) freshId]

instance createQuery : Respects (On view S) (PaymentReconciliation.createQuery id now) := by
  dsimp only [PaymentReconciliation.createQuery]
  infer_instance

instance requestRefund {input : CreatePaymentRefundInput} :
    Respects (On view S) (PaymentRefunds.requestRefund input now) := by
  dsimp only [PaymentRefunds.requestRefund]
  infer_instance

instance createRefund {input : CreatePaymentRefundInput} :
    Respects (On view S) (PaymentRefunds.createRefund input now) := by
  dsimp only [PaymentRefunds.createRefund]
  infer_instance

instance submitRefund : Respects (On view S) (PaymentRefunds.submitRefund id now) := by
  dsimp only [PaymentRefunds.submitRefund]
  infer_instance

end PaymentsAndIds

section PaymentsAndSales

variable [Apart view paymentPart] [Apart view salesPart]

instance settleVnpay {attempt : PaymentAttempt} {notification : VnpayNotification} :
    Respects (On view S) (PaymentsService.settleVnpay attempt notification now) := by
  dsimp only [PaymentsService.settleVnpay]
  infer_instance

instance applyVnpay {attempt : PaymentAttempt} {notification : VnpayNotification} :
    Respects (On view S) (PaymentsService.applyVnpay attempt notification now) := by
  dsimp only [PaymentsService.applyVnpay]
  infer_instance

instance handleVnpayIpn {notification : VnpayNotification} :
    Respects (On view S) (PaymentsService.handleVnpayIpn notification now) := by
  dsimp only [PaymentsService.handleVnpayIpn]
  infer_instance

instance settleMomo {attempt : PaymentAttempt} {notification : MomoNotification} :
    Respects (On view S) (PaymentsService.settleMomo attempt notification now) := by
  dsimp only [PaymentsService.settleMomo]
  infer_instance

instance applyMomo {attempt : PaymentAttempt} {notification : MomoNotification} :
    Respects (On view S) (PaymentsService.applyMomo attempt notification now) := by
  dsimp only [PaymentsService.applyMomo]
  infer_instance

instance handleMomoIpn {notification : MomoNotification} :
    Respects (On view S) (PaymentsService.handleMomoIpn notification now) := by
  dsimp only [PaymentsService.handleMomoIpn]
  infer_instance

instance confirmProviderPayment {found : AttemptView} {number : Option String} :
    Respects (On view S) (PaymentReconciliation.confirmProviderPayment found number now) := by
  dsimp only [PaymentReconciliation.confirmProviderPayment]
  infer_instance

instance applyQueryResponse {response : VnpayQueryResponse} :
    Respects (On view S) (PaymentReconciliation.applyQueryResponse id response now) := by
  dsimp only [PaymentReconciliation.applyQueryResponse]
  infer_instance

instance applyMomoResponse {response : MomoQueryResponse} :
    Respects (On view S) (PaymentReconciliation.applyMomoResponse id response now) := by
  dsimp only [PaymentReconciliation.applyMomoResponse]
  infer_instance

instance applyPayosResponse {response : PayosQueryResponse} {linkId : Option String} :
    Respects (On view S) (PaymentReconciliation.applyPayosResponse id response linkId now) := by
  dsimp only [PaymentReconciliation.applyPayosResponse]
  infer_instance

instance applyResponse {attempt : PaymentAttempt}
    {response : PaymentReconciliation.ProviderResponse} :
    Respects (On view S) (PaymentReconciliation.applyResponse attempt response now) := by
  unfold PaymentReconciliation.applyResponse
  split <;> infer_instance

instance queryProvider {response : PaymentReconciliation.ProviderResponse} :
    Respects (On view S) (PaymentReconciliation.queryProvider id response now) := by
  dsimp only [PaymentReconciliation.queryProvider]
  infer_instance

instance completeSuccessfulRefund {attempt : PaymentAttempt} {refund : PaymentRefund}
    {response : VnpayRefundResponse} :
    Respects (On view S) (PaymentRefunds.completeSuccessfulRefund attempt refund response now) := by
  dsimp only [PaymentRefunds.completeSuccessfulRefund]
  infer_instance

instance applyProviderResponse {requestId : Id} {response : VnpayRefundResponse} :
    Respects (On view S) (PaymentRefunds.applyProviderResponse id requestId response now) := by
  dsimp only [PaymentRefunds.applyProviderResponse]
  infer_instance

end PaymentsAndSales

section Attempts

variable [Apart view salesPart] [Apart view inventoryPart] [Apart view paymentPart] [Respects (On view S) freshId]

instance openAttempt {input : CreatePaymentAttemptInput} :
    Respects (On view S) (PaymentsService.openAttempt input now) := by
  dsimp only [PaymentsService.openAttempt]
  infer_instance

instance createAttempt {input : CreatePaymentAttemptInput} :
    Respects (On view S) (PaymentsService.createAttempt input now) := by
  dsimp only [PaymentsService.createAttempt]
  infer_instance

end Attempts

end Footprint

end CoffeeShop
