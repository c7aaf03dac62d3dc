import CoffeeShop.Inventory.Costing
import Mathlib.Data.List.Sort

/-!
Purchase receipts: drafts, posting and cancellation.
-/

namespace CoffeeShop

structure ReceiptLineInput where
  inventoryItemId : Id
  quantity : Quantity
  unitPrice : Money

/-- A line of a receipt before it has an identifier. -/
structure PreparedReceiptLine where
  inventoryItemId : Id
  inventoryItemName : String
  unitName : String
  quantity : Quantity
  unitPrice : Money
  totalAmount : Money

structure CreatePurchaseReceiptInput where
  supplierId : Id
  receivedAt : Timestamp
  items : List ReceiptLineInput

structure UpdatePurchaseReceiptInput where
  supplierId : Option Id
  receivedAt : Option Timestamp
  items : Option (List ReceiptLineInput)

namespace PurchaseReceiptService

open Transaction InventoryStore InventoryPolicy

def assertActiveSupplier (supplierId : Id) : Transact Unit := do
  let catalog ← readCatalog
  require (catalog.isActiveSupplier supplierId)
    (.notFound s!"Supplier with ID {supplierId} not found.")

def assertDraft (id : Id) : Tx InventoryStore Failure PurchaseReceipt := do
  let receipt ← findUniqueOrFail purchaseReceipt id
    (.notFound s!"Purchase receipt with ID {id} not found.")
  require (receipt.status = .draft) (.conflict "Only draft purchase receipts can change.")
  pure receipt

def prepareLine (catalog : Catalog) (line : ReceiptLineInput) :
    Tx InventoryStore Failure PreparedReceiptLine := do
  let item ← findUniqueOrFail inventoryItem line.inventoryItemId
    (.notFound "One or more active inventory items were not found.")
  require item.deletedAt.isNone
    (.notFound "One or more active inventory items were not found.")
  let quantity ← toPositiveDecimal line.quantity "quantity"
  let unitPrice ← toNonNegativeMoney line.unitPrice "unitPrice"
  pure {
    inventoryItemId := item.id
    inventoryItemName := item.name
    unitName := catalog.unitName item.unitId
    quantity
    unitPrice
    totalAmount := calculateInventoryValue quantity unitPrice }

def prepareLines (catalog : Catalog) (items : List ReceiptLineInput) :
    Tx InventoryStore Failure (List PreparedReceiptLine) := do
  assertNoDuplicateInventoryItems (items.map (·.inventoryItemId))
  let lines ← collect items (prepareLine catalog)
  pure (lines.insertionSort fun left right => left.inventoryItemId ≤ right.inventoryItemId)

def total (lines : List PreparedReceiptLine) : Money :=
  (lines.map (·.totalAmount)).sum

/-- `items: { create: lines }`. -/
def createLines (purchaseReceiptId : Id) (lines : List PreparedReceiptLine) : Transact Unit :=
  forEach lines fun line => do
    let id ← freshId
    inventoryTx (create purchaseReceiptItem {
      id
      purchaseReceiptId
      inventoryItemId := line.inventoryItemId
      inventoryItemName := line.inventoryItemName
      unitName := line.unitName
      quantity := line.quantity
      unitPrice := line.unitPrice
      totalAmount := line.totalAmount } (.constraint "PurchaseReceiptItem_pkey"))

def create (employeeId : Id) (input : CreatePurchaseReceiptInput) (now : Timestamp) :
    Transact Unit := do
  assertActiveEmployeePolicy employeeId
  assertActiveSupplier input.supplierId
  let catalog ← readCatalog
  let lines ← inventoryTx (prepareLines catalog input.items)
  let id ← freshId
  inventoryTx (Transaction.create purchaseReceipt {
    id
    status := .draft
    supplierId := input.supplierId
    receivedAt := input.receivedAt
    totalAmount := total lines
    updatedAt := now
    postedAt := none
    cancelledAt := none
    cancellationReason := none
    createdById := employeeId
    postedById := none
    cancelledById := none } (.constraint "PurchaseReceipt_pkey"))
  createLines id lines

def replaceLines (id : Id) (lines : List PreparedReceiptLine) : Transact Unit := do
  let _ ← inventoryTx (deleteMany purchaseReceiptItem fun line => line.purchaseReceiptId = id)
  createLines id lines

def update (id employeeId : Id) (input : UpdatePurchaseReceiptInput) (now : Timestamp) :
    Transact Unit := do
  assertActiveEmployeePolicy employeeId
  let draft ← inventoryTx (assertDraft id)
  whenSome input.supplierId assertActiveSupplier
  let catalog ← readCatalog
  -- Review tokens stay distinct even when two edits share a millisecond.
  let updatedAt := max now (draft.updatedAt + 1)
  let change (receipt : PurchaseReceipt) (totalAmount : Money) : PurchaseReceipt := { receipt with
    receivedAt := input.receivedAt.getD receipt.receivedAt
    supplierId := input.supplierId.getD receipt.supplierId
    totalAmount
    updatedAt }
  ifSome input.items
    (fun items => do
      let lines ← inventoryTx (prepareLines catalog items)
      replaceLines id lines
      inventoryTx (updateExpecting purchaseReceipt id (fun _ => true)
        (fun receipt => change receipt (total lines)) (.notFound "Record to update not found.")))
    (inventoryTx (updateExpecting purchaseReceipt id (fun _ => true)
      (fun receipt => change receipt receipt.totalAmount)
      (.notFound "Record to update not found.")))

/-- One round of the posting loop, with the item as it was read before the loop. -/
def postLine (line : PurchaseReceiptItem) (item : InventoryItem) :
    Tx InventoryStore Failure Unit := do
  require item.deletedAt.isNone (.conflict s!"Inventory item {item.id} is inactive.")
  let averageUnitCost := calculateWeightedAverageCost {
    stock := item.stock
    averageUnitCost := item.averageUnitCost
    importedQuantity := line.quantity
    importedUnitCost := line.unitPrice }
  updateExpecting inventoryItem item.id
    (fun row => row.deletedAt.isNone && row.stock = item.stock &&
      row.averageUnitCost = item.averageUnitCost)
    (fun row => { row with stock := item.stock + line.quantity, averageUnitCost })
    (.conflict s!"Inventory item {item.id} changed while posting. Retry the request.")

/-- The transaction of `post` on the receipt, its items and the ledger. -/
def postDraft (catalog : Catalog) (id employeeId : Id) (expectedUpdatedAt now : Timestamp) :
    Tx InventoryStore Failure Unit := do
  let receipt ← findUniqueOrFail purchaseReceipt id
    (.notFound s!"Purchase receipt with ID {id} not found.")
  require (receipt.status = .draft) (.conflict "Purchase receipt is no longer a draft.")
  require (receipt.updatedAt = expectedUpdatedAt)
    (.conflictWithCode "INVENTORY_PURCHASE_RECEIPT_CHANGED"
      ("Purchase receipt changed after review. " ++
        "Reload and review the latest quantities and prices before posting."))
  require (catalog.isActiveSupplier receipt.supplierId) (.conflict "The supplier is inactive.")
  let lines ← findMany purchaseReceiptItem fun line => line.purchaseReceiptId = id
  require (lines ≠ []) (.conflict "A purchase receipt must contain at least one item.")
  let items ← collect lines fun line =>
    findUniqueOrFail inventoryItem line.inventoryItemId
      (.constraint "PurchaseReceiptItem_inventoryItemId_fkey")
  updateExpecting purchaseReceipt id
    (fun row => row.status = .draft && row.updatedAt = expectedUpdatedAt)
    (fun row => { row with
      status := .posted
      postedAt := some now
      postedById := some employeeId
      updatedAt := now })
    (.conflict "Purchase receipt is no longer a draft.")
  forEach (lines.zip items) fun pair => postLine pair.1 pair.2
  createTransactions (lines.map fun line => {
    type := .importTx
    quantity := line.quantity
    unitPrice := some line.unitPrice
    totalAmount := some line.totalAmount
    transactionDate := receipt.receivedAt
    inventoryItemId := line.inventoryItemId
    purchaseReceiptItemId := some line.id })

def post (id employeeId : Id) (expectedUpdatedAt now : Timestamp) : Transact Unit := do
  assertActiveEmployeePolicy employeeId
  let catalog ← readCatalog
  inventoryTx (postDraft catalog id employeeId expectedUpdatedAt now)

def cancel (id employeeId : Id) (reason : String) (now : Timestamp) : Transact Unit := do
  assertActiveEmployeePolicy employeeId
  inventoryTx do
    let _ ← assertDraft id
    updateExpecting purchaseReceipt id (fun row => row.status = .draft)
      (fun row => { row with
        status := .cancelled
        cancelledAt := some now
        cancelledById := some employeeId
        cancellationReason := some reason
        updatedAt := now })
      (.conflict "Purchase receipt is no longer a draft.")

end PurchaseReceiptService

end CoffeeShop
