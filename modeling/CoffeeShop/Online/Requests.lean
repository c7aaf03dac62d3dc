import CoffeeShop.Invoices.Service
import CoffeeShop.Orders.Sessions

/-!
Online order requests: intake, review, collection and cancellation.

The access token of a customer is checked before any of these transactions starts.
-/

namespace CoffeeShop

structure ReceiveOnlineOrderInput where
  pickupAt : Option Timestamp
  quotedSubtotal : Money
  expiresAt : Timestamp
  items : List OnlineOrderRequestItem

namespace OnlineOrders

open Transaction SalesStore DecimalArithmetic

def noShowGrace : Nat := 15 * 60 * 1000

def accessWindow : Nat := 72 * 60 * 60 * 1000

def pickupAccessGrace : Nat := 24 * 60 * 60 * 1000

def accessExpiresAt (request : OnlineOrderRequest) : Timestamp :=
  max (request.createdAt + accessWindow)
    ((request.pickupAt.map (· + pickupAccessGrace)).getD 0)

/-- The row that `create` inserts once the public request is admitted. -/
def receive (input : ReceiveOnlineOrderInput) (now : Timestamp) : Transact Unit := do
  let id ← freshId
  salesTx (create onlineOrderRequest {
    id
    quotedSubtotal := input.quotedSubtotal
    pickupAt := input.pickupAt
    status := .pending
    rejectionReason := none
    cancellationReason := none
    createdAt := now
    expiresAt := input.expiresAt
    reviewedAt := none
    cancelledAt := none
    noShowAt := none
    reviewedById := none
    orderSessionId := none
    items := input.items } (.constraint "OnlineOrderRequest_pkey"))

def findRequest (id : Id) : Tx SalesStore Failure OnlineOrderRequest :=
  findUniqueOrFail onlineOrderRequest id (.notFound "Order request not found.")

def notPending : Failure := .conflict "Order request is no longer pending."

def isOpen (now : Timestamp) (request : OnlineOrderRequest) : Bool :=
  request.status = .pending && now < request.expiresAt

def assertPickupSlot (catalog : Catalog) (pickupAt : Option Timestamp) (now : Timestamp) :
    Tx SalesStore Failure Unit :=
  match pickupAt with
  | none => pure ()
  | some pickupAt => do
      let passed : Failure := .conflict "Scheduled pickup time has passed."
      let capacity ← orFail catalog.pickupCapacity passed
      require (now < pickupAt) passed
      let booked ← findMany onlineOrderRequest fun request =>
        request.status = .accepted && request.pickupAt = some pickupAt
      require (booked.length < capacity) (.conflict "Pickup slot is full.")

def orderLine (item : OnlineOrderRequestItem) : OrderItemInput where
  menuItemId := item.menuItemId
  quantity := item.quantity
  note := item.note
  optionIds := item.quotedOptions.map (·.id)
  quantity_pos := item.quantity_pos

def quoteOf (item : OnlineOrderRequestItem) : OnlineOrderQuote where
  unitPrice := item.quotedUnitPrice
  selectedOptions := item.quotedOptions

def accept (id employeeId : Id) (now : Timestamp) : Transact Unit := do
  let request ← salesTx (findRequest id)
  require (isOpen now request) notPending
  let catalog ← readCatalog
  salesTx (assertPickupSlot catalog request.pickupAt now)
  let orderSessionId ← OrdersService.createOnlineTakeawaySession employeeId
    (request.items.map orderLine) (request.items.map quoteOf) request.pickupAt now
  salesTx (updateExpecting onlineOrderRequest id (isOpen now)
    (fun row => { row with
      status := .accepted
      reviewedAt := some now
      reviewedById := some employeeId
      orderSessionId := some orderSessionId }) notPending)

def assertActiveReviewer (employeeId : Id) : Transact Unit := do
  let catalog ← readCatalog
  require (catalog.isActiveEmployee employeeId) (.unauthorized "Employee is inactive.")

def reject (id employeeId : Id) (reason : String) (now : Timestamp) : Transact Unit := do
  assertActiveReviewer employeeId
  salesTx (updateExpecting onlineOrderRequest id (isOpen now)
    (fun row => { row with
      status := .rejected
      rejectionReason := some reason
      reviewedAt := some now
      reviewedById := some employeeId }) notPending)

/-- The session of an accepted request that is still open, with its items. -/
def findAcceptedSession (request : OnlineOrderRequest) (failure : Failure) :
    Tx SalesStore Failure (OrderSession × List OrderItem) := do
  require (request.status = .accepted) failure
  let sessionId ← orFail request.orderSessionId failure
  let session ← findUniqueOrFail orderSession sessionId failure
  require (session.tableId.isNone ∧ session.sessionStatus = .active) failure
  let items ← findMany orderItem fun item => item.orderSessionId = session.id
  pure (session, items)

def changedDuringCancellation : Failure :=
  .conflict "Online order changed during cancellation."

/-- Close the session and the request of a cancelled online order. -/
def closeCancelled (requestId : Id) (session : OrderSession) (reason : String) (noShow : Bool)
    (now : Timestamp) : Tx SalesStore Failure Unit := do
  updateExpecting orderSession session.id (fun row => row.sessionStatus = .active)
    (fun row => { row with sessionStatus := .cancelled }) changedDuringCancellation
    (OrderSession.id_withStatus .cancelled)
  updateExpecting onlineOrderRequest requestId
    (fun row => row.status = .accepted && row.orderSessionId = some session.id)
    (fun row => { row with
      status := .cancelled
      cancellationReason := some reason
      cancelledAt := some now
      noShowAt := if noShow then some now else row.noShowAt }) changedDuringCancellation

/-- Cancel the given items of a session, all of which have to be in one of the states. -/
def cancelItems (session : OrderSession) (items : List OrderItem)
    (cancellable : ServeStatus → Bool) (failure : Failure) : Tx SalesStore Failure Unit := do
  let cancelled ← updateMany orderItem
    (fun item => item.id ∈ items.map (·.id) && item.orderSessionId = session.id &&
      cancellable item.serveStatus && !item.isPaid && item.invoiceId.isNone)
    (fun item => { item with serveStatus := .cancelled }) (OrderItem.id_withStatus .cancelled)
  require (cancelled = items.length) failure

def customerCancellationReason : String := "Customer cancelled before preparation."

def preparationStarted : Failure :=
  .conflict "Preparation or printing has started; contact the shop to cancel."

/-- Cancel the print jobs of the session's tickets, none of which may have been claimed. -/
def cancelUnclaimedJobs (orderSessionId : Id) (now : Timestamp) : Transact Unit := do
  let database ← get
  let ticketIds := (database.sales.tickets.select fun ticket =>
    ticket.orderSessionId = orderSessionId).map (·.id)
  let isOwn : PrintJob → Bool := fun job => job.kitchenTicketId.any (· ∈ ticketIds)
  let jobs ← printingTx (findMany PrintStore.printJob isOwn)
  require (∀ job ∈ jobs, job.status = .pending) preparationStarted
  printingTx do
    let cancelled ← PrintingService.updateJobs
      (fun job => job.id ∈ jobs.map (·.id) && job.status = .pending)
      (fun job => { job with status := .cancelled }) now (PrintJob.id_withStatus .cancelled)
    require (cancelled = jobs.length) (.conflict "Printing has started; contact the shop.")

/-- An accepted order that the customer cancels before it is prepared or printed. -/
def cancelUnprepared (request : OnlineOrderRequest) (now : Timestamp) : Transact Unit := do
  require (now < accessExpiresAt request) (.notFound "Order request not found.")
  let found ← salesTx (findAcceptedSession request preparationStarted)
  let session := found.1
  let items := found.2
  require (items ≠ [] ∧ ∀ item ∈ items,
    item.serveStatus = .pending ∧ !item.isPaid ∧ item.invoiceId.isNone) preparationStarted
  cancelUnclaimedJobs session.id now
  salesTx do
    cancelItems session items (· = .pending) changedDuringCancellation
    closeCancelled request.id session customerCancellationReason false now
  inventoryTx (InventoryConsumption.releaseReservations (items.map (·.id)))

/-- The customer's cancellation. -/
def cancelPublicRequest (requestId : Id) (now : Timestamp) : Transact Unit := do
  let request ← salesTx (findRequest requestId)
  if isOpen now request then
    salesTx (updateExpecting onlineOrderRequest requestId (isOpen now)
      (fun row => { row with status := .cancelled, cancelledAt := some now }) notPending)
  else if request.status = .cancelled then pure () else do
    require (request.status = .accepted)
      (.conflict "Order request can no longer be cancelled.")
    cancelUnprepared request now

/-- The total of the items as the collection compares it. -/
def itemsTotal (items : List OrderItem) : ℚ :=
  items.foldl (fun total item => add decimalPrecision total
    (mul decimalPrecision (moneyToDecimal item.priceAtTime) item.quantity)) 0

def collect (id employeeId : Id) (amountTendered : Money) (now : Timestamp) : Transact Unit := do
  let request ← salesTx (findRequest id)
  require (now < accessExpiresAt request) (.notFound "Order request not found.")
  let found ← salesTx (findAcceptedSession request
    (.conflict "Online order is not available for pickup."))
  let session := found.1
  let items := found.2
  require (items ≠ [] ∧ ∀ item ∈ items,
      item.serveStatus = .ready ∧ !item.isPaid ∧ item.invoiceId.isNone)
    (.conflict "All order items must be ready and unpaid before collection.")
  require (itemsTotal items = moneyToDecimal request.quotedSubtotal)
    (.conflict "Online order total changed after confirmation.")
  let invoiceId ← InvoicesService.checkoutOnlinePickupInTransaction employeeId session.id
    amountTendered now
  salesTx do
    let collected ← updateMany orderItem
      (fun item => item.id ∈ items.map (·.id) && item.orderSessionId = session.id &&
        item.serveStatus = .ready && item.isPaid && item.invoiceId = some invoiceId)
      (fun item => { item with serveStatus := .served })
    require (collected = items.length)
      (.conflict "Order items changed during pickup. Please retry.")

/-- Every item has been ready, unpaid and uncollected for the grace period. -/
def isNoShowEligible (pickupAt : Option Timestamp) (items : List OrderItem) (now : Timestamp) :
    Bool :=
  let active := items.filter fun item => item.serveStatus ≠ .cancelled
  let lastReadyAt := (active.filterMap (·.readyAt)).foldl max 0
  !active.isEmpty && (active.all fun item =>
      item.serveStatus = .ready && item.readyAt.isSome && !item.isPaid &&
        item.invoiceId.isNone) &&
    max (pickupAt.getD 0) lastReadyAt + noShowGrace ≤ now

def isUncollected : ServeStatus → Bool
  | .pending | .cooking | .ready => true
  | .served | .cancelled => false

def cancelAcceptedRequest (id employeeId : Id) (reason : String) (noShow : Bool)
    (now : Timestamp) : Transact Unit := do
  assertActiveReviewer employeeId
  let request ← salesTx (findUniqueOrFail onlineOrderRequest id
    (.notFound "Online order request not found."))
  if request.status = .cancelled ∧ request.cancellationReason = some reason ∧
      request.noShowAt.isSome = noShow then pure ()
  else do
    let uncancellable : Failure :=
      .conflict "Only an unpaid, uncollected online order can be cancelled."
    let found ← salesTx (findAcceptedSession request uncancellable)
    let session := found.1
    let items := found.2
    require (∀ item ∈ items, ¬(item.isPaid ∨ item.invoiceId.isSome ∨ item.serveStatus = .served))
      uncancellable
    require (¬(noShow ∧ !isNoShowEligible request.pickupAt items now))
      (.conflict "No-show requires a prepared order past its pickup grace period.")
    let active := items.filter fun item => item.serveStatus ≠ .cancelled
    let prepared := active.filter fun item =>
      item.serveStatus = .cooking || item.serveStatus = .ready
    inventoryTx (forEach prepared fun item =>
      InventoryConsumption.recordWaste { orderItemId := item.id, employeeId, reason } now)
    salesTx (cancelItems session active isUncollected
      (.conflict "Order items changed during cancellation."))
    inventoryTx (InventoryConsumption.releaseReservations (active.map (·.id)))
    PrintingService.cancelKitchenItems (active.map (·.id)) employeeId reason now
    salesTx (closeCancelled id session reason noShow now)

def cancelAccepted (id employeeId : Id) (reason : String) (now : Timestamp) : Transact Unit :=
  cancelAcceptedRequest id employeeId reason false now

def markNoShow (id employeeId : Id) (now : Timestamp) : Transact Unit :=
  cancelAcceptedRequest id employeeId "Customer did not collect the prepared order." true now

end OnlineOrders

end CoffeeShop
