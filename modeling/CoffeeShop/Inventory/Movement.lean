import CoffeeShop.Inventory.Costing
import Mathlib.Data.List.Sort

/-!
Manual stock imports and exports.
-/

namespace CoffeeShop

structure StockMovement where
  inventoryItemId : Id
  type : InventoryTxType
  quantity : Quantity
  unitPrice : Option Money
  transactionDate : Option Timestamp

namespace InventoryMovement

open Transaction InventoryStore InventoryPolicy

/-- The price of an import, or the current average cost of an export. -/
def resolveUnitCost (movement : StockMovement) (item : InventoryItem) :
    Tx InventoryStore Failure Money :=
  match movement.type with
  | .exportTx => pure item.averageUnitCost
  | .importTx => do
      let unitPrice ← orFail movement.unitPrice
        (.badRequest "unitPrice is required for stock imports.")
      toNonNegativeMoney unitPrice "unitPrice"

def exportStock (item : InventoryItem) (quantity : Quantity) : Tx InventoryStore Failure Unit :=
  updateExpecting inventoryItem item.id
    (fun row => quantity + item.reservedStock ≤ row.stock &&
      row.reservedStock = item.reservedStock)
    (fun row => { row with stock := row.stock - quantity })
    (.conflict s!"Insufficient stock for inventory item {item.id}.")

def importStock (item : InventoryItem) (quantity : Quantity) (unitCost : Money) :
    Tx InventoryStore Failure Unit :=
  let averageUnitCost := calculateWeightedAverageCost {
    stock := item.stock
    averageUnitCost := item.averageUnitCost
    importedQuantity := quantity
    importedUnitCost := unitCost }
  updateExpecting inventoryItem item.id (fun _ => true)
    (fun row => { row with stock := row.stock + quantity, averageUnitCost })
    (.notFound "Record to update not found.")

def moveStock (type : InventoryTxType) (item : InventoryItem) (quantity : Quantity)
    (unitCost : Money) : Tx InventoryStore Failure Unit :=
  match type with
  | .exportTx => exportStock item quantity
  | .importTx => importStock item quantity unitCost

def applyMovement (movement : StockMovement) (now : Timestamp) :
    Tx InventoryStore Failure Unit := do
  let item ← ensureActiveItemExists movement.inventoryItemId
  let quantity ← toPositiveDecimal movement.quantity "quantity"
  let unitCost ← resolveUnitCost movement item
  moveStock movement.type item quantity unitCost
  createTransactions [{
    type := movement.type
    quantity
    unitPrice := some unitCost
    totalAmount := some (calculateInventoryValue quantity unitCost)
    transactionDate := movement.transactionDate.getD now
    inventoryItemId := movement.inventoryItemId }]

def moveStockInTransaction (employeeId : Id) (movements : List StockMovement) (now : Timestamp) :
    Transact Unit := do
  assertActiveEmployeePolicy employeeId
  inventoryTx (forEach movements fun movement => applyMovement movement now)

def importItem (employeeId : Id) (inventoryItemId : Id) (quantity : Quantity) (unitPrice : Money)
    (transactionDate : Option Timestamp) (now : Timestamp) : Transact Unit :=
  moveStockInTransaction employeeId
    [{ inventoryItemId, type := .importTx, quantity, unitPrice := some unitPrice,
       transactionDate }] now

def exportItem (employeeId : Id) (inventoryItemId : Id) (quantity : Quantity)
    (transactionDate : Option Timestamp) (now : Timestamp) : Transact Unit :=
  moveStockInTransaction employeeId
    [{ inventoryItemId, type := .exportTx, quantity, unitPrice := none, transactionDate }] now

/-- `bulkImport` and `bulkExport`, which differ in the type of every movement. -/
def bulkMove (type : InventoryTxType) (employeeId : Id) (items : List StockMovement)
    (now : Timestamp) : Transact Unit := do
  assertBulkSize items.length
  assertNoDuplicateInventoryItems (items.map (·.inventoryItemId))
  moveStockInTransaction employeeId
    ((items.map fun item => { item with type }).insertionSort
      fun left right => left.inventoryItemId ≤ right.inventoryItemId) now

def bulkImport : Id → List StockMovement → Timestamp → Transact Unit := bulkMove .importTx

def bulkExport : Id → List StockMovement → Timestamp → Transact Unit := bulkMove .exportTx

end InventoryMovement

end CoffeeShop
