import CoffeeShop.Cash.Ledger
import CoffeeShop.Orders.Menu
import CoffeeShop.Orders.Reservation

/-!
Order sessions and the life of an order item.
-/

namespace CoffeeShop

structure OrderItemInput where
  menuItemId : Id
  quantity : Nat
  note : Option String
  optionIds : List Id
  quantity_pos : 0 < quantity

/-- The price and options that a customer has seen. -/
structure OnlineOrderQuote where
  unitPrice : Money
  selectedOptions : List SelectedMenuOption
  deriving DecidableEq

/-- A pickup code, as the data that it signs. -/
structure PickupCode where
  invoiceId : Id
  version : Option Nat
  deriving DecidableEq

/-- The pickup code with the invoice it is presented for. -/
structure PickupClaim where
  invoiceId : Id
  code : PickupCode

namespace OrderPolicy

open Transaction

variable {σ : Type}

def assertActiveSession (session : OrderSession) (message : String) : Tx σ Failure Unit :=
  require (session.sessionStatus = .active) (.badRequest message)

def assertNoPaidOrInvoicedItems (items : List OrderItem) (message : String) :
    Tx σ Failure Unit :=
  require (∀ item ∈ items, ¬(item.isPaid ∨ item.invoiceId.isSome)) (.badRequest message)

/-- Cooking, ready or served. -/
def isProcessed : ServeStatus → Bool
  | .cooking | .ready | .served => true
  | .pending | .cancelled => false

def assertNoProcessedItems (items : List OrderItem) (message : String) : Tx σ Failure Unit :=
  require (∀ item ∈ items, ¬isProcessed item.serveStatus) (.badRequest message)

def isAllowedTransition : ServeStatus → ServeStatus → Bool
  | .pending, .cooking | .cooking, .ready | .cooking, .served | .ready, .served => true
  | _, _ => false

def assertServeStatusTransition (current next : ServeStatus) : Tx σ Failure Unit :=
  require (isAllowedTransition current next)
    (.badRequest s!"Cannot change order item status from {repr current} to {repr next}.")

end OrderPolicy

namespace TakeawayService

def pickupCodeTtl : Nat := 72 * 60 * 60 * 1000

def getPickupCodeExpiry (invoice : Invoice) : Option Timestamp :=
  let issuedAt := match invoice.pickupCodeVersion with
    | none => some invoice.createdAt
    | some _ => invoice.pickupCodeIssuedAt
  issuedAt.map (· + pickupCodeTtl)

def verifyPickupCode (claim : PickupClaim) (invoice : Invoice) (now : Timestamp) : Bool :=
  (getPickupCodeExpiry invoice).any (now < ·) &&
    claim.code = { invoiceId := claim.invoiceId, version := invoice.pickupCodeVersion }

end TakeawayService

/-- `orderSession.onlineOrderRequest`. -/
def SalesStore.onlineRequestOf (sales : SalesStore) (orderSessionId : Id) :
    Option OnlineOrderRequest :=
  sales.requests.first? fun request => request.orderSessionId = some orderSessionId

/-- The item replaces another one that was remade. -/
def SalesStore.isReplacement (sales : SalesStore) (orderItemId : Id) : Bool :=
  (sales.remakes.first? fun remake => remake.replacementItemId = orderItemId).isSome

namespace OrdersService

open Transaction SalesStore OrderPolicy InventoryConsumption MenuOptionSelection

def itemChanged : Failure :=
  .conflict "Order item was changed by another operation. Please refresh and try again."

def findSession (id : Id) : Tx SalesStore Failure OrderSession :=
  findUniqueOrFail orderSession id (.notFound s!"Order session with ID {id} not found.")

def findItem (id : Id) : Tx SalesStore Failure OrderItem :=
  findUniqueOrFail orderItem id (.notFound s!"Order item with ID {id} not found.")

/-- Occupy an empty table. -/
def claimTable (tableId : Id) : Tx SalesStore Failure Unit := do
  let missing : Failure := .notFound s!"Dining table with ID {tableId} not found."
  let table ← findUniqueOrFail diningTable tableId missing
  require table.deletedAt.isNone missing
  updateExpecting diningTable tableId
    (fun row => row.deletedAt.isNone && row.status = .empty)
    (fun row => { row with status := .occupied })
    (.badRequest s!"Cannot open order session because table '{table.name}' is {repr table.status}.")

/-- `orderSession.create`, with the unique index on the table of an active session. -/
def insertSession (session : OrderSession) : Tx SalesStore Failure Unit := do
  let taken ← findFirst orderSession fun other => session.tableId.isSome &&
    other.tableId = session.tableId && other.sessionStatus = .active
  require taken.isNone (.constraint "OrderSession_one_active_session_per_table_idx")
  create orderSession session (.constraint "OrderSession_pkey")

def createOrderSession (tableId : Option Id) (employeeId : Id) (guestCount : Option Nat)
    (now : Timestamp) : Transact Id := do
  assertActiveEmployee employeeId
  let shiftId ← cashTx (CashierShiftLedger.findOpenShiftId employeeId)
  let id ← freshId
  salesTx do
    whenSome tableId claimTable
    insertSession {
      id
      sessionStatus := .active
      guestCount
      createdAt := now
      tableId
      employeeId
      shiftId }
  pure id

def openSession (tableId : Option Id) (employeeId : Id) (guestCount : Option Nat)
    (now : Timestamp) : Transact Unit := do
  let _ ← createOrderSession tableId employeeId guestCount now

/-- The menu item can be ordered now. -/
def isOrderable (catalog : Catalog) (menuItem : MenuItem) : Bool :=
  menuItem.deletedAt.isNone && menuItem.isAvailable &&
    (catalog.menuCategories.find? menuItem.categoryId).any (·.deletedAt.isNone) &&
    menuItem.kitchenStationId.all fun stationId =>
      (catalog.kitchenStations.find? stationId).any fun station =>
        station.isActive && station.deletedAt.isNone

/-- An order line with its price, options and recipe. -/
structure PlannedItem where
  item : OrderItem
  recipe : List RecipeLine

def planItem (catalog : Catalog) (orderSessionId : Id) (now : Timestamp)
    (line : OrderItemInput × Option OnlineOrderQuote) : Transact PlannedItem := do
  let input := line.1
  let unavailable : Failure :=
    .notFound "One or more menu items were not found or are unavailable."
  let menuItem ← orFail (catalog.menuItems.find? input.menuItemId) unavailable
  require (isOrderable catalog menuItem) unavailable
  let selection ← inventoryTx (resolveMenuSelection menuItem input.optionIds)
  require (line.2.all fun quote => quote =
      { unitPrice := selection.unitPrice, selectedOptions := selection.selectedOptions })
    (.conflict "Menu price or options changed since the order was placed.")
  let id ← freshId
  pure {
    item := {
      id
      quantity := input.quantity
      priceAtTime := selection.unitPrice
      note := input.note
      selectedOptions := selection.selectedOptions
      recipeSnapshottedAt := some now
      serveStatus := .pending
      isPaid := false
      readyAt := none
      createdAt := now
      orderSessionId
      menuItemId := input.menuItemId
      invoiceId := none }
    recipe := selection.recipe }

/-- One quote for each line, or none at all. -/
def pairQuotes (items : List OrderItemInput) (quotes : Option (List OnlineOrderQuote)) :
    Option (List (OrderItemInput × Option OnlineOrderQuote)) :=
  match quotes with
  | none => some (items.map fun item => (item, none))
  | some quotes =>
      if quotes.length = items.length then
        some (items.zip (quotes.map some)) else none

/-- `orderItem.createMany` with the checks of the table. -/
def insertItems (rows : List OrderItem) : Tx SalesStore Failure Unit := do
  require (∀ row ∈ rows, 0 < row.quantity) (.constraint "OrderItem_quantity_positive_check")
  require (∀ row ∈ rows, 0 ≤ row.priceAtTime) (.constraint "OrderItem_price_non_negative_check")
  createMany orderItem rows (.constraint "OrderItem_pkey")

def addOrderItemsInTransaction (orderSessionId : Id) (items : List OrderItemInput)
    (quotes : Option (List OnlineOrderQuote)) (pickupAt : Option Timestamp) (now : Timestamp) :
    Transact Unit := do
  let session ← salesTx (findSession orderSessionId)
  assertActiveSession session "Cannot add items to an inactive order session."
  let database ← get
  require (database.sales.onlineRequestOf orderSessionId).isNone
    (.conflict "Accepted online orders cannot be changed in POS.")
  let lines ← orFail (pairQuotes items quotes)
    (.conflict "Online order quote does not match its items.")
  let planned ← collect lines (planItem database.catalog orderSessionId now)
  salesTx do
    insertItems (planned.map (·.item))
    createMany recipeIngredient
      (planned.flatMap fun plan => recipeRows plan.item.id plan.recipe)
      (.constraint "OrderItemRecipeIngredient_pkey")
  KitchenRouting.createTickets orderSessionId (planned.map (·.item)) pickupAt now

def addOrderItems (orderSessionId : Id) (items : List OrderItemInput) (employeeId : Id)
    (now : Timestamp) : Transact Unit := do
  assertActiveEmployee employeeId
  addOrderItemsInTransaction orderSessionId items none none now

def createOnlineTakeawaySession (employeeId : Id) (items : List OrderItemInput)
    (quotes : List OnlineOrderQuote) (pickupAt : Option Timestamp) (now : Timestamp) :
    Transact Id := do
  let sessionId ← createOrderSession none employeeId none now
  addOrderItemsInTransaction sessionId items (some quotes) pickupAt now
  reserveSession sessionId now
  pure sessionId

structure RemakeInput where
  reason : String
  idempotencyKey : String

/-- A handed-off item on a paid invoice, in a session that is still open for it. -/
def isRemakeable (sales : SalesStore) (item : OrderItem) (session : OrderSession) : Bool :=
  item.isPaid && item.serveStatus = .served &&
    (item.invoiceId.bind sales.invoices.find?).any (·.paymentStatus = .paid) &&
    session.sessionStatus ≠ .cancelled &&
    (session.tableId.isNone || session.sessionStatus = .active)

def hasActiveStation (catalog : Catalog) (menuItemId : Id) : Bool :=
  (catalog.menuItems.find? menuItemId).any fun menuItem => menuItem.deletedAt.isNone &&
    (menuItem.kitchenStationId.bind catalog.kitchenStations.find?).any fun station =>
      station.deletedAt.isNone && station.isActive

/-- The recipe of the original, from its snapshot or from what it consumed. -/
def remakeRecipe (database : Database) (item : OrderItem) : List RecipeLine :=
  if item.recipeSnapshottedAt.isSome then snapshotRecipe database.sales item.id
  else (database.inventory.ingredientSnapshots.select fun row => row.orderItemId = item.id).map
    fun row => { inventoryItemId := row.inventoryItemId, quantity := row.quantityPerItem }

/-- The line that replaces a remade one, free of charge. -/
def replacementOf (original : OrderItem) (id : Id) (reason : String) (now : Timestamp) :
    OrderItem where
  id
  quantity := original.quantity
  priceAtTime := 0
  note := some s!"Remake: {reason}"
  selectedOptions := original.selectedOptions
  recipeSnapshottedAt := some now
  serveStatus := .pending
  isPaid := true
  readyAt := none
  createdAt := now
  orderSessionId := original.orderSessionId
  menuItemId := original.menuItemId
  invoiceId := none

def createRemake (originalItemId employeeId : Id) (input : RemakeInput) (now : Timestamp) :
    Transact Unit := do
  let database ← get
  let original ← salesTx (findUniqueOrFail orderItem originalItemId
    (.notFound "Order item not found."))
  let session ← salesTx (findSession original.orderSessionId)
  require (isRemakeable database.sales original session)
    (.conflict "Only a handed-off item on a paid invoice can be remade.")
  require ((database.sales.remakes.find? originalItemId).isNone ∧
      !database.sales.isReplacement originalItemId)
    (.conflict "This order line has already been remade.")
  require (hasActiveStation database.catalog original.menuItemId)
    (.conflict "An active menu item and kitchen station are required.")
  require (original.recipeSnapshottedAt.isSome ∨ remakeRecipe database original ≠ [])
    (.conflict "The original recipe snapshot is unavailable.")
  let id ← freshId
  let replacement := replacementOf original id input.reason now
  salesTx do
    create orderItem replacement (.constraint "OrderItem_pkey")
    createMany recipeIngredient (recipeRows id (remakeRecipe database original))
      (.constraint "OrderItemRecipeIngredient_pkey")
    create orderRemake {
      originalItemId
      replacementItemId := id
      requestedById := employeeId
      reason := input.reason
      idempotencyKey := input.idempotencyKey
      createdAt := now } (.conflict "This order line has already been remade.")
  inventoryTx (recordWaste { orderItemId := originalItemId, employeeId, reason := input.reason }
    now)
  KitchenRouting.createTickets original.orderSessionId [replacement] none now

def remakeItem (originalItemId employeeId : Id) (input : RemakeInput) (now : Timestamp) :
    Transact Unit := do
  assertActiveEmployee employeeId
  let database ← get
  let replay := database.sales.remakes.first? fun remake =>
    remake.requestedById = employeeId && remake.idempotencyKey = input.idempotencyKey
  ifSome replay
    (fun replay => require (replay.originalItemId = originalItemId ∧ replay.reason = input.reason)
      (.conflict "Idempotency key was used for a different remake."))
    (createRemake originalItemId employeeId input now)

/-- The claim opens the item's invoice. -/
def pickupMatches (sales : SalesStore) (item : OrderItem) (claim : PickupClaim)
    (now : Timestamp) : Bool :=
  item.invoiceId = some claim.invoiceId && item.isPaid &&
    (sales.invoices.find? claim.invoiceId).any fun invoice =>
      invoice.paymentStatus = .paid && TakeawayService.verifyPickupCode claim invoice now

/-- The ticket of the item is held back until a later time. -/
def isScheduledLater (sales : SalesStore) (orderItemId : Id) (now : Timestamp) : Bool :=
  (sales.ticketItems.find? orderItemId).any fun ticketItem =>
    (sales.tickets.find? ticketItem.ticketId).any fun ticket =>
      ticket.availableAt.any (now < ·)

def changeItemStatus (id employeeId : Id) (serveStatus : ServeStatus) (handoffOnly : Bool)
    (pickup : Option PickupClaim) (now : Timestamp) : Transact Unit := do
  assertActiveEmployee employeeId
  let item ← salesTx (findItem id)
  let session ← salesTx (findSession item.orderSessionId)
  let database ← get
  let sales := database.sales
  let isReplacement := sales.isReplacement id
  require (¬(session.sessionStatus = .cancelled ∨ session.sessionStatus = .completed ∧
      item.invoiceId.isNone ∧ !isReplacement))
    (.badRequest "Cannot update item status in this order session.")
  require (item.serveStatus ≠ .cancelled)
    (.badRequest "Cannot change a cancelled order item.")
  require (¬(serveStatus = .served ∧ (sales.onlineRequestOf item.orderSessionId).isSome ∧
      !isReplacement ∧ pickup.isNone))
    (.conflict "Online orders must be paid and collected through the pickup flow.")
  require (pickup.all fun claim => pickupMatches sales item claim now)
    (.conflict "Pickup is no longer available.")
  require (¬(handoffOnly ∧ (session.tableId.isSome ∨
      item.serveStatus ≠ .ready ∧ item.serveStatus ≠ .served)))
    (.conflict "Takeaway item is not ready for handoff.")
  require (¬(serveStatus = .ready ∧ session.tableId.isSome))
    (.badRequest "READY handoff is only supported for takeaway orders.")
  if item.serveStatus = serveStatus then pure () else do
    assertServeStatusTransition item.serveStatus serveStatus
    require (¬(serveStatus = .cooking ∧ isScheduledLater sales id now))
      (.conflict "Scheduled preparation is not due yet.")
    salesTx (updateExpecting orderItem id
      (fun row => row.serveStatus = item.serveStatus &&
        pickup.all fun claim => row.invoiceId = some claim.invoiceId && row.isPaid)
      (fun row => { row with
        serveStatus
        readyAt := if serveStatus = .ready then some now else row.readyAt }) itemChanged)
    when (serveStatus = .cooking) (consumeOrderItem item now)

def updateItemStatus (id employeeId : Id) (serveStatus : ServeStatus) (now : Timestamp) :
    Transact Unit :=
  changeItemStatus id employeeId serveStatus false none now

def handoffTakeawayItem (id employeeId : Id) (now : Timestamp) : Transact Unit :=
  changeItemStatus id employeeId .served true none now

def handoffWithPickupCode (claim : PickupClaim) (id employeeId : Id) (now : Timestamp) :
    Transact Unit :=
  changeItemStatus id employeeId .served true (some claim) now

/-- `item.note` with the reason on a line of its own. -/
def cancelNote (note reason : Option String) : Option String :=
  match reason with
  | none => note
  | some reason => some ("\n".intercalate
      ((note.toList ++ ["Cancel reason: " ++ reason]).filter fun line => !line.isEmpty))

def assertCancellable (sales : SalesStore) (item : OrderItem) (session : OrderSession) :
    Tx SalesStore Failure Unit :=
  if sales.isReplacement item.id then
    require (¬(session.sessionStatus = .cancelled ∨ item.serveStatus = .served))
      (.conflict "Cannot cancel a handed-off remake or a cancelled session.")
  else do
    require (sales.onlineRequestOf item.orderSessionId).isNone
      (.conflictWithCode "ONLINE_ORDER_PICKUP_REQUIRED"
        "Manage this online order through online order management.")
    assertNoPaidOrInvoicedItems [item] "Cannot cancel a paid or invoiced order item."
    assertActiveSession session "Cannot cancel item in an inactive order session."

def cancelItem (id employeeId : Id) (reason : Option String) (now : Timestamp) :
    Transact Unit := do
  assertActiveEmployee employeeId
  let item ← salesTx (findItem id)
  let session ← salesTx (findSession item.orderSessionId)
  let database ← get
  salesTx (assertCancellable database.sales item session)
  require (item.serveStatus ≠ .cancelled) (.badRequest "Order item is already cancelled.")
  let wasPrepared := isProcessed item.serveStatus
  -- An empty reason counts as none.
  let given := reason.filter fun reason => !reason.isEmpty
  require (¬(wasPrepared ∧ given.isNone))
    (.badRequest "A cancellation reason is required for a prepared order item.")
  let isReplacement := database.sales.isReplacement id
  salesTx (updateExpecting orderItem id
    (fun row => row.isPaid = isReplacement && row.invoiceId.isNone &&
      row.serveStatus = item.serveStatus)
    (fun row => { row with serveStatus := .cancelled, note := cancelNote item.note given })
    itemChanged)
  inventoryTx (releaseReservations [id])
  PrintingService.cancelKitchenItems [id] employeeId (reason.getD "Order item cancelled.") now
  whenSome given fun reason => when wasPrepared
    (inventoryTx (recordWaste { orderItemId := id, employeeId, reason } now))

end OrdersService

end CoffeeShop
