import CoffeeShop.Orders.Items

/-!
Cancelling, moving, merging, splitting and completing order sessions.
-/

namespace CoffeeShop

structure TransferDiningTableInput where
  sourceOrderSessionId : Id
  fromTableId : Id
  toTableId : Id
  tables_ne : fromTableId ≠ toTableId

structure MergeDiningTableInput where
  sourceOrderSessionIds : List Id
  destinationOrderSessionId : Id
  sourceTableIds : List Id
  destinationTableId : Id
  sessions_nodup : sourceOrderSessionIds.Nodup
  tables_nodup : sourceTableIds.Nodup
  lengths_eq : sourceOrderSessionIds.length = sourceTableIds.length
  session_not_mem : destinationOrderSessionId ∉ sourceOrderSessionIds
  table_not_mem : destinationTableId ∉ sourceTableIds

structure SplitItem where
  orderItemId : Id
  quantityToMove : Nat
  expectedOriginalQuantity : Nat
  quantityToMove_pos : 0 < quantityToMove

structure SplitOrderSessionInput where
  sourceOrderSessionId : Id
  destinationTableId : Id
  itemsToMove : List SplitItem
  items_nodup : (itemsToMove.map (·.orderItemId)).Nodup

namespace OrdersService

open Transaction SalesStore OrderPolicy InventoryConsumption

def itemsOf (orderSessionId : Id) : Tx SalesStore Failure (List OrderItem) :=
  findMany orderItem fun item => item.orderSessionId = orderSessionId

def setTableStatus (condition : DiningTable → Bool) (status : TableStatus) :
    Tx SalesStore Failure Unit := do
  let _ ← updateMany diningTable condition fun row => { row with status }

/-- Cancel the open items of an active session and the session; returns the cancelled items. -/
def cancelActiveSession (session : OrderSession) (paidMessage processedMessage : String) :
    Tx SalesStore Failure (List Id) := do
  let items ← itemsOf session.id
  assertNoPaidOrInvoicedItems items paidMessage
  assertNoProcessedItems items processedMessage
  let _ ← updateMany orderItem
    (fun item => item.orderSessionId = session.id && !item.isPaid && item.invoiceId.isNone)
    (fun item => { item with serveStatus := .cancelled })
  updateExpecting orderSession session.id (fun row => row.sessionStatus = .active)
    (fun row => { row with sessionStatus := .cancelled })
    (.conflict ("Order session was changed by another operation. " ++
      "Please refresh and try again."))
  pure ((items.filter fun item => item.serveStatus ≠ .cancelled).map (·.id))

def cancelSession (id employeeId : Id) (reason : String) (now : Timestamp) : Transact Unit := do
  assertActiveEmployee employeeId
  let session ← salesTx (findSession id)
  assertActiveSession session "Order session is already inactive."
  let database ← get
  require (database.sales.onlineRequestOf id).isNone
    (.conflict ("Cancel online orders through online order management to release " ++
      "pickup capacity and update the customer request."))
  let itemIds ← salesTx (cancelActiveSession session
    "Cannot cancel an order session that contains paid or invoiced items."
    ("Cannot cancel session. Some items are already cooking or served. " ++
      "Please cancel them individually first."))
  inventoryTx (releaseReservations itemIds)
  PrintingService.cancelKitchenItems itemIds employeeId reason now
  whenSome session.tableId fun tableId =>
    salesTx (setTableStatus (fun row => row.id = tableId) .empty)

def findActiveSession (tableId : Id) : Tx SalesStore Failure (Option OrderSession) :=
  findFirst orderSession fun session =>
    session.tableId = some tableId && session.sessionStatus = .active

def findTable (id : Id) : Tx SalesStore Failure DiningTable := do
  let missing : Failure := .notFound s!"Dining table with ID {id} not found."
  let table ← findUniqueOrFail diningTable id missing
  require table.deletedAt.isNone missing
  pure table

def transferTable (input : TransferDiningTableInput) (employeeId : Id) : Transact Unit := do
  assertActiveEmployee employeeId
  salesTx do
    let _ ← findTable input.fromTableId
    let toTable ← findTable input.toTableId
    require (toTable.status = .empty)
      (.badRequest s!"Target table '{toTable.name}' is currently {repr toTable.status}.")
    let session ← findFirstOrFail orderSession
      (fun session => session.id = input.sourceOrderSessionId &&
        session.tableId = some input.fromTableId && session.sessionStatus = .active)
      (.conflict "Source session changed. Refresh the table before transferring.")
    let existing ← findActiveSession input.toTableId
    require existing.isNone
      (.conflict s!"Dining table '{toTable.name}' already has an active order session.")
    updateExpecting diningTable input.toTableId (fun row => row.status = .empty)
      (fun row => { row with status := .occupied })
      (.conflict (s!"Target table '{toTable.name}' was changed by another operation. " ++
        "Please refresh and try again.")) (DiningTable.id_withStatus .occupied)
    updateExpecting orderSession session.id
      (fun row => row.tableId = some input.fromTableId && row.sessionStatus = .active)
      (fun row => { row with tableId := some input.toTableId })
      (.conflict ("Order session was moved or closed by another operation. " ++
        "Please refresh and try again."))
    setTableStatus (fun row => row.id = input.fromTableId && row.status = .occupied) .empty

def mergeTables (input : MergeDiningTableInput) (employeeId : Id) : Transact Unit := do
  assertActiveEmployee employeeId
  salesTx do
    let target ← findFirstOrFail orderSession
      (fun session => session.id = input.destinationOrderSessionId &&
        session.tableId = some input.destinationTableId && session.sessionStatus = .active)
      (.conflict "Destination session changed. Refresh the tables before merging.")
    let sources ← findMany orderSession fun session =>
      session.id ∈ input.sourceOrderSessionIds && session.sessionStatus = .active &&
        session.tableId.any fun tableId => tableId ∈ input.sourceTableIds
    require (sources.length = input.sourceTableIds.length)
      (.conflict "Source sessions changed. Refresh the tables before merging.")
    let sourceIds := sources.map (·.id)
    let involved ← findMany orderItem fun item =>
      item.orderSessionId = target.id || item.orderSessionId ∈ sourceIds
    assertNoPaidOrInvoicedItems involved
      "Cannot merge tables when any involved session contains paid or invoiced items."
    let _ ← updateMany orderItem
      (fun item => item.orderSessionId ∈ sourceIds && !item.isPaid && item.invoiceId.isNone)
      (fun item => { item with orderSessionId := target.id })
    let merged ← updateMany orderSession
      (fun session => session.id ∈ sourceIds && session.sessionStatus = .active)
      (fun session => { session with sessionStatus := .completed })
      (OrderSession.id_withStatus .completed)
    require (merged = sourceIds.length)
      (.conflict ("One or more source sessions were changed by another operation. " ++
        "Please refresh and try again."))
    setTableStatus (fun row => row.id ∈ input.sourceTableIds) .empty

/-- The checks on one line of the request. -/
def assertSplittable (sourceOrderSessionId : Id) (item : OrderItem) (split : SplitItem) :
    Tx SalesStore Failure Unit := do
  require (item.orderSessionId = sourceOrderSessionId)
    (.badRequest s!"Item {item.id} does not belong to the source session.")
  require (¬(item.isPaid ∨ item.invoiceId.isSome))
    (.badRequest "Cannot split a paid or invoiced order item.")
  require (item.serveStatus ≠ .cancelled)
    (.badRequest "Cannot split a cancelled order item.")
  require (item.quantity = split.expectedOriginalQuantity)
    (.conflict (s!"Data sync error for item {item.menuItemId}. " ++
      s!"Expected {split.expectedOriginalQuantity} but found {item.quantity}. " ++
      "Please refresh the POS screen."))
  require (split.quantityToMove ≤ item.quantity)
    (.badRequest "Cannot move more items than originally ordered.")
  require (¬(split.quantityToMove < item.quantity ∧ item.serveStatus ≠ .pending))
    (.badRequest "Processed order items can only be moved as a whole line.")

/-- Change an item of the source session that is still as it was read. -/
def updateSplitItem (sourceOrderSessionId : Id) (item : OrderItem) (split : SplitItem)
    (change : OrderItem → OrderItem) (keeps : ∀ row, (change row).id = row.id) :
    Tx SalesStore Failure Unit :=
  updateExpecting orderItem item.id
    (fun row => row.orderSessionId = sourceOrderSessionId &&
      row.quantity = split.expectedOriginalQuantity && !row.isPaid && row.invoiceId.isNone &&
      row.serveStatus = item.serveStatus)
    change
    (.conflict (s!"Item {item.id} was changed by another operation. " ++
      "Please refresh and try again.")) keeps

/-- The kitchen ticket of a divided line is divided the same way. -/
def splitTicketItem (item : OrderItem) (movedId : Id) (quantityToMove : Nat) :
    Tx SalesStore Failure Unit := do
  let found ← findUnique kitchenTicketItem item.id
  whenSome found fun ticketItem => do
    updateExpecting kitchenTicketItem item.id (fun _ => true)
      (fun row => { row with quantity := item.quantity - quantityToMove })
      (.notFound "Record to update not found.")
    create kitchenTicketItem { ticketItem with
      orderItemId := movedId
      quantity := quantityToMove } (.constraint "KitchenTicketItem_orderItemId_key")

/-- Leave the rest of the line where it is and open a line for what moves. -/
def dividePart (sourceOrderSessionId destinationSessionId movedId : Id) (item : OrderItem)
    (split : SplitItem) (now : Timestamp) : Tx SalesStore Failure Unit := do
  updateSplitItem sourceOrderSessionId item split
    (fun row => { row with quantity := item.quantity - split.quantityToMove }) fun _ => rfl
  create orderItem {
    id := movedId
    quantity := split.quantityToMove
    priceAtTime := item.priceAtTime
    note := item.note
    selectedOptions := item.selectedOptions
    recipeSnapshottedAt := item.recipeSnapshottedAt
    serveStatus := item.serveStatus
    isPaid := false
    readyAt := none
    createdAt := now
    orderSessionId := destinationSessionId
    menuItemId := item.menuItemId
    invoiceId := none } (.constraint "OrderItem_pkey")
  when item.recipeSnapshottedAt.isSome do
    let sales ← get
    createMany recipeIngredient (recipeRows movedId (snapshotRecipe sales item.id))
      (.constraint "OrderItemRecipeIngredient_pkey")
  splitTicketItem item movedId split.quantityToMove

/-- Move a whole line or a part of it; returns the division for the kitchen. -/
def moveLine (sourceOrderSessionId destinationSessionId : Id) (now : Timestamp)
    (pair : OrderItem × SplitItem) : Transact (Option KitchenPrintMove) := do
  let movedId ← freshId
  if pair.2.quantityToMove = pair.1.quantity then do
    salesTx (updateSplitItem sourceOrderSessionId pair.1 pair.2
      (fun row => { row with orderSessionId := destinationSessionId }) fun _ => rfl)
    pure none
  else do
    salesTx (dividePart sourceOrderSessionId destinationSessionId movedId pair.1 pair.2 now)
    pure (some {
      orderItemId := pair.1.id
      movedOrderItemId := movedId
      originalQuantity := pair.1.quantity
      quantityToMove := pair.2.quantityToMove })

structure PreparedSplit where
  source : OrderSession
  destination : DiningTable
  lines : List (OrderItem × SplitItem)

/-- The checks of `splitTable`; returns the source session and the lines to move. -/
def prepareSplit (input : SplitOrderSessionInput) : Tx SalesStore Failure PreparedSplit := do
  let destination ← findTable input.destinationTableId
  require (destination.status = .empty) (.badRequest "Destination table is not available.")
  let inactive : Failure := .badRequest "Source session is not active or does not exist."
  let source ← findUniqueOrFail orderSession input.sourceOrderSessionId inactive
  require (source.sessionStatus = .active) inactive
  let sales ← get
  require (sales.onlineRequestOf source.id).isNone
    (.conflict "Accepted online orders cannot be split into another session.")
  let existing ← findActiveSession input.destinationTableId
  require existing.isNone (.conflict "Destination table already has an active order session.")
  let items ← collect input.itemsToMove fun split =>
    findUniqueOrFail orderItem split.orderItemId
      (.notFound "One or more order items were not found.")
  let lines := items.zip input.itemsToMove
  forEach lines fun line => assertSplittable source.id line.1 line.2
  updateExpecting diningTable input.destinationTableId (fun row => row.status = .empty)
    (fun row => { row with status := .occupied })
    (.conflict ("Destination table was changed by another operation. " ++
      "Please refresh and try again.")) (DiningTable.id_withStatus .occupied)
  pure { source, destination, lines }

def splitTable (input : SplitOrderSessionInput) (employeeId : Id) (now : Timestamp) :
    Transact Unit := do
  assertActiveEmployee employeeId
  let prepared ← salesTx (prepareSplit input)
  let source := prepared.source
  let destinationSessionId ← freshId
  salesTx (insertSession {
    id := destinationSessionId
    sessionStatus := .active
    guestCount := none
    createdAt := now
    tableId := some input.destinationTableId
    employeeId := source.employeeId
    shiftId := source.shiftId })
  let moves ← collect prepared.lines (moveLine source.id destinationSessionId now)
  PrintingService.splitKitchenItems {
    employeeId
    destinationSessionId
    destinationTableName := prepared.destination.name
    moves := moves.reduceOption } now

def completeSession (id employeeId : Id) : Transact Unit := do
  assertActiveEmployee employeeId
  salesTx do
    let session ← findUniqueOrFail orderSession id (.notFound "Order session not found.")
    let tableId ← orFail session.tableId
      (.conflict "Only dine-in sessions can release a table.")
    if session.sessionStatus = .completed then pure () else do
      let items ← itemsOf id
      require (session.sessionStatus = .active ∧ ∀ item ∈ items,
          item.serveStatus = .cancelled ∨ item.isPaid ∧ item.serveStatus = .served)
        (.conflictWithCode "ORDER_SESSION_NOT_COMPLETE"
          "All non-cancelled items must be paid and served before releasing the table.")
      let changed : Failure := .conflict "Session or table changed. Refresh before retrying."
      updateExpecting orderSession id (fun row => row.sessionStatus = .active)
        (fun row => { row with sessionStatus := .completed }) changed
        (OrderSession.id_withStatus .completed)
      updateExpecting diningTable tableId (fun row => row.status = .occupied)
        (fun row => { row with status := .empty }) changed

def clearTable (tableId : Id) (expectedOrderSessionId : Option Id) (employeeId : Id)
    (reason : String) (now : Timestamp) : Transact Unit := do
  assertActiveEmployee employeeId
  let active ← salesTx do
    let _ ← findTable tableId
    let active ← findActiveSession tableId
    require (active.map (·.id) = expectedOrderSessionId)
      (.conflict "Table session changed. Refresh before clearing.")
    pure active
  whenSome active fun session => do
    let itemIds ← salesTx (cancelActiveSession session
      "Cannot clear table because it contains paid or invoiced items."
      ("Cannot clear table. Some items are already cooking or served. " ++
        "Please cancel them individually first."))
    inventoryTx (releaseReservations itemIds)
    PrintingService.cancelKitchenItems itemIds employeeId reason now
  salesTx (setTableStatus (fun row => row.id = tableId) .empty)

end OrdersService

namespace TakeawayService

open Transaction SalesStore

def maxPickupCodeVersion : Nat := 2147483647

/-- Whether an invoice has a takeaway order to pick up. -/
def isPickupInvoice (sales : SalesStore) (invoice : Invoice) : Bool :=
  let items := sales.items.select fun item => item.invoiceId = some invoice.id
  invoice.paymentStatus = .paid &&
    ((sales.sessions.find? invoice.orderSessionId).any fun session =>
      session.tableId.isNone && session.sessionStatus ≠ .cancelled) &&
    !items.isEmpty && items.all fun item => item.isPaid && item.serveStatus ≠ .cancelled

def findPickupInvoice (invoiceId : Id) : Tx SalesStore Failure Invoice := do
  let missing : Failure := .notFound "Pickup code is not available."
  let found ← findUniqueOrFail invoice invoiceId missing
  let sales ← get
  require (isPickupInvoice sales found) missing
  pure found

/-- The next version of the code, issued or revoked. -/
def renewPickupCode (found : Invoice) (issuedAt : Option Timestamp) :
    Tx SalesStore Failure Unit := do
  require (found.pickupCodeVersion ≠ some maxPickupCodeVersion)
    (.conflict "Pickup code can no longer be rotated.")
  updateExpecting invoice found.id
    (fun row => row.paymentStatus = .paid && row.pickupCodeVersion = found.pickupCodeVersion &&
      row.pickupCodeIssuedAt = found.pickupCodeIssuedAt)
    (fun row => { row with
      pickupCodeVersion := some (found.pickupCodeVersion.getD 0 + 1)
      pickupCodeIssuedAt := issuedAt })
    (.conflict "Pickup code changed. Please retry.")

def revokePickupCode (claim : PickupClaim) (employeeId : Id) (now : Timestamp) :
    Transact Unit := do
  assertActiveEmployee employeeId
  salesTx do
    let found ← findPickupInvoice claim.invoiceId
    require (verifyPickupCode claim found now) (.conflict "Pickup code changed or expired.")
    renewPickupCode found none

/-- `issuePickupCode` without a current code, `rotatePickupCode` with one. -/
def provisionPickupCode (invoiceId employeeId : Id) (currentCode : Option PickupCode)
    (now : Timestamp) : Transact Unit := do
  assertActiveEmployee employeeId
  salesTx do
    let found ← findPickupInvoice invoiceId
    require (currentCode.all fun code => verifyPickupCode { invoiceId, code } found now)
      (.conflict "Pickup code changed or expired.")
    if currentCode.isNone && (getPickupCodeExpiry found).any (now < ·) then pure ()
    else renewPickupCode found (some now)

end TakeawayService

end CoffeeShop
