import CoffeeShop.Inventory.Costing
import Mathlib.Data.List.Sort

/-!
Stocktakes: the snapshot of the expected stock, the counts and the posting.
-/

namespace CoffeeShop

structure StocktakeCount where
  inventoryItemId : Id
  countedQuantity : Quantity

namespace StocktakeService

open Transaction InventoryStore InventoryPolicy

def assertDraft (id : Id) : Tx InventoryStore Failure Unit := do
  let found ← findUniqueOrFail stocktake id (.notFound s!"Stocktake with ID {id} not found.")
  require (found.status = .draft) (.conflict "Only draft stocktakes can change.")

/-- `items: { create: ... }` with the stock of this moment. -/
def createLines (catalog : Catalog) (stocktakeId : Id) (items : List InventoryItem) :
    Transact Unit :=
  forEach items fun item => do
    let id ← freshId
    inventoryTx (create stocktakeItem {
      id
      stocktakeId
      inventoryItemId := item.id
      inventoryItemName := item.name
      unitName := catalog.unitName item.unitId
      expectedQuantity := item.stock
      countedQuantity := none
      differenceQuantity := none
      countedAt := none } (.constraint "StocktakeItem_pkey"))

def create (employeeId : Id) (inventoryItemIds : List Id) : Transact Unit := do
  assertActiveEmployeePolicy employeeId
  assertNoDuplicateInventoryItems inventoryItemIds
  let items ← inventoryTx (findMany inventoryItem fun item =>
    item.id ∈ inventoryItemIds && item.deletedAt.isNone)
  require (items.length = inventoryItemIds.length)
    (.notFound "One or more active inventory items were not found.")
  let catalog ← readCatalog
  let id ← freshId
  inventoryTx (Transaction.create stocktake {
    id
    status := .draft
    postedAt := none
    cancelledAt := none
    cancellationReason := none
    createdById := employeeId
    postedById := none
    cancelledById := none } (.constraint "Stocktake_pkey"))
  createLines catalog id items

def updateCount (stocktakeId : Id) (count : StocktakeCount) (countedAt : Timestamp) :
    Tx InventoryStore Failure Unit := do
  let countedQuantity ← toNonNegativeDecimal count.countedQuantity "countedQuantity"
  let _ ← updateMany stocktakeItem
    (fun line => line.stocktakeId = stocktakeId && line.inventoryItemId = count.inventoryItemId)
    (fun line => { line with
      countedQuantity := some countedQuantity
      countedAt := some countedAt
      differenceQuantity := none })

def updateCounts (id employeeId : Id) (counts : List StocktakeCount) (now : Timestamp) :
    Transact Unit := do
  assertActiveEmployeePolicy employeeId
  inventoryTx do
    assertDraft id
    let itemIds := counts.map (·.inventoryItemId)
    assertNoDuplicateInventoryItems itemIds
    let existing ← findMany stocktakeItem fun line =>
      line.stocktakeId = id && line.inventoryItemId ∈ itemIds
    require (existing.length = itemIds.length)
      (.notFound "One or more items do not belong to this stocktake.")
    forEach (counts.insertionSort fun left right =>
      left.inventoryItemId ≤ right.inventoryItemId) fun count => updateCount id count now

/-- Every line has the count that the reviewer confirmed. -/
def countsAgree (lines : List StocktakeItem) (counts : List StocktakeCount) : Bool :=
  counts.length = lines.length && lines.all fun line =>
    (counts.find? fun count => count.inventoryItemId = line.inventoryItemId).any fun count =>
      line.countedQuantity = some count.countedQuantity

def assertExpectedCounts (lines : List StocktakeItem) (expectedCounts : List StocktakeCount) :
    Tx InventoryStore Failure Unit := do
  assertNoDuplicateInventoryItems (expectedCounts.map (·.inventoryItemId))
  forEach expectedCounts fun count => do
    let _ ← toNonNegativeDecimal count.countedQuantity "countedQuantity"
  require (countsAgree lines expectedCounts)
    (.conflictWithCode "INVENTORY_STOCKTAKE_COUNTS_CHANGED"
      "Stocktake counts changed after review. Reload the stocktake before confirming.")

/-- A line that the posting loop goes through: the item as read before the loop, and the count. -/
structure CountedLine where
  line : StocktakeItem
  item : InventoryItem
  countedQuantity : Quantity

def CountedLine.difference (counted : CountedLine) : Quantity :=
  counted.countedQuantity - counted.line.expectedQuantity

def CountedLine.type (counted : CountedLine) : InventoryTxType :=
  if 0 < counted.difference then .importTx else .exportTx

/-- The checks on the item as read before the loop. -/
def assertPostable (counted : CountedLine) : Tx InventoryStore Failure Unit := do
  let item := counted.item
  require item.deletedAt.isNone (.conflict s!"Inventory item {item.id} is inactive.")
  require (item.stock = counted.line.expectedQuantity)
    (.conflictWithCode "INVENTORY_STOCKTAKE_SNAPSHOT_STALE"
      (s!"Inventory item {item.id} changed after the stocktake snapshot. " ++
        "Cancel this draft and create a new stocktake before recounting."))
  require (item.reservedStock ≤ counted.countedQuantity)
    (.conflictWithCode "INVENTORY_STOCKTAKE_RESERVED_STOCK"
      (s!"Inventory item {item.id} has more reserved stock than the physical count. " ++
        "Resolve the affected orders before posting; " ++
        "recounting alone will not release their holds."))

/-- The count becomes the stock of the item if it is still as expected. -/
def setStock (counted : CountedLine) : Tx InventoryStore Failure Unit :=
  updateExpecting inventoryItem counted.item.id
    (fun row => row.deletedAt.isNone && row.stock = counted.line.expectedQuantity &&
      row.reservedStock ≤ counted.countedQuantity)
    (fun row => { row with stock := counted.countedQuantity })
    (.conflictWithCode "INVENTORY_STOCKTAKE_SNAPSHOT_STALE"
      (s!"Inventory item {counted.item.id} changed while posting. " ++
        "Cancel this draft and create a new stocktake before recounting."))

def postLine (counted : CountedLine) : Tx InventoryStore Failure Unit := do
  assertPostable counted
  setStock counted
  updateExpecting stocktakeItem counted.line.id (fun _ => true)
    (fun line => { line with differenceQuantity := some counted.difference })
    (.notFound "Record to update not found.")

/-- The ledger rows of the lines that differ. -/
def pendingMovements (counted : List CountedLine) (transactionDate : Timestamp) :
    List InventoryTransaction :=
  (counted.filter fun entry => entry.difference ≠ 0).map fun entry => {
    type := entry.type
    quantity := entry.difference.natAbs
    unitPrice := some entry.item.averageUnitCost
    totalAmount :=
      some (calculateInventoryValue entry.difference.natAbs entry.item.averageUnitCost)
    transactionDate
    inventoryItemId := entry.item.id
    stocktakeItemId := some entry.line.id }

/-- The line with its item and its count, which all have to be there. -/
def readCountedLine (line : StocktakeItem) : Tx InventoryStore Failure CountedLine := do
  let item ← findUniqueOrFail inventoryItem line.inventoryItemId
    (.constraint "StocktakeItem_inventoryItemId_fkey")
  let countedQuantity ← orFail line.countedQuantity
    (.conflict "Every stocktake item must be counted before posting.")
  pure { line, item, countedQuantity }

/-- The transaction of `post` on the stocktake, its items and the ledger. -/
def postDraft (id employeeId : Id) (expectedCounts : Option (List StocktakeCount))
    (now : Timestamp) : Tx InventoryStore Failure Unit := do
  let draft ← findUniqueOrFail stocktake id (.notFound s!"Stocktake with ID {id} not found.")
  require (draft.status = .draft) (.conflict "Stocktake is no longer a draft.")
  let lines ← findMany stocktakeItem fun line => line.stocktakeId = id
  require (lines ≠ []) (.conflict "A stocktake must contain at least one item.")
  let counted ← collect lines readCountedLine
  whenSome expectedCounts (assertExpectedCounts lines)
  updateExpecting stocktake id (fun row => row.status = .draft)
    (fun row => { row with
      status := .posted
      postedAt := some now
      postedById := some employeeId })
    (.conflict "Stocktake is no longer a draft.")
  forEach counted postLine
  createTransactions (pendingMovements counted now)

def post (id employeeId : Id) (expectedCounts : Option (List StocktakeCount)) (now : Timestamp) :
    Transact Unit := do
  assertActiveEmployeePolicy employeeId
  inventoryTx (postDraft id employeeId expectedCounts now)

def cancel (id employeeId : Id) (reason : String) (now : Timestamp) : Transact Unit := do
  assertActiveEmployeePolicy employeeId
  inventoryTx do
    assertDraft id
    updateExpecting stocktake id (fun row => row.status = .draft)
      (fun row => { row with
        status := .cancelled
        cancelledAt := some now
        cancelledById := some employeeId
        cancellationReason := some reason })
      (.conflict "Stocktake is no longer a draft.")

end StocktakeService

end CoffeeShop
