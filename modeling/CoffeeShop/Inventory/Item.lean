import CoffeeShop.Inventory.Costing

/-!
Inventory items: creation with opening stock, edits and removal.
-/

namespace CoffeeShop

structure CreateInventoryItemInput where
  name : String
  stock : Option Quantity
  initialUnitCost : Option Money
  reorderPoint : Option Quantity
  categoryId : Id
  unitId : Id

structure UpdateInventoryItemInput where
  name : Option String
  categoryId : Option Id
  unitId : Option Id
  reorderPoint : Option Quantity

namespace InventoryItemService

open Transaction InventoryStore InventoryPolicy

def ensureActiveCategoryExists (id : Id) : Transact Unit := do
  let catalog ← readCatalog
  require (catalog.isActiveInventoryCategory id)
    (.notFound s!"Inventory category with ID {id} not found.")

def ensureActiveUnitExists (id : Id) : Transact Unit := do
  let catalog ← readCatalog
  require (catalog.isActiveUnit id) (.notFound s!"Unit with ID {id} not found.")

/-- Names are compared without regard to case. -/
def ensureItemNameAvailable (name : String) (categoryId : Id) (excludeId : Option Id) :
    Tx InventoryStore Failure Unit := do
  let existing ← findMany inventoryItem fun item =>
    item.deletedAt.isNone && item.name.toLower = name.toLower && item.categoryId = categoryId &&
      excludeId ≠ some item.id
  require (existing = [])
    (.conflict "Inventory item name already exists in this category.")

/-- The new item and, with opening stock, its first ledger row. -/
def insertItem (item : InventoryItem) (now : Timestamp) : Tx InventoryStore Failure Unit := do
  Transaction.create inventoryItem item (.constraint "InventoryItem_pkey")
  when (0 < item.stock) (createTransactions [{
      type := .importTx
      quantity := item.stock
      unitPrice := some item.averageUnitCost
      totalAmount := some (calculateInventoryValue item.stock item.averageUnitCost)
      transactionDate := now
      inventoryItemId := item.id }])

def create (employeeId : Id) (input : CreateInventoryItemInput) (now : Timestamp) :
    Transact Unit := do
  let initialStock ← toNonNegativeDecimal (input.stock.getD 0) "stock"
  let initialUnitCost ← toNonNegativeMoney (input.initialUnitCost.getD 0) "initialUnitCost"
  let reorderPoint ← toNonNegativeDecimal (input.reorderPoint.getD 0) "reorderPoint"
  assertActiveEmployeePolicy employeeId
  ensureActiveCategoryExists input.categoryId
  ensureActiveUnitExists input.unitId
  inventoryTx (ensureItemNameAvailable input.name input.categoryId none)
  let id ← freshId
  inventoryTx (insertItem {
    id
    name := input.name
    stock := initialStock
    reservedStock := 0
    averageUnitCost := initialUnitCost
    reorderPoint
    categoryId := input.categoryId
    unitId := input.unitId
    deletedAt := none } now)

def update (id employeeId : Id) (input : UpdateInventoryItemInput) : Transact Unit := do
  assertActiveEmployeePolicy employeeId
  let existing ← inventoryTx (ensureActiveItemExists id)
  require (input.unitId.getD existing.unitId = existing.unitId)
    (.conflictWithCode "INVENTORY_UNIT_IMMUTABLE"
      "Create a new inventory item instead of changing its measurement unit.")
  let nextCategoryId := input.categoryId.getD existing.categoryId
  whenSome input.categoryId ensureActiveCategoryExists
  when (input.name.isSome || input.categoryId.isSome) (inventoryTx
    (ensureItemNameAvailable (input.name.getD existing.name) nextCategoryId (some id)))
  whenSome input.reorderPoint fun reorderPoint => do
    let _ ← toNonNegativeDecimal reorderPoint "reorderPoint"
  inventoryTx (updateExpecting inventoryItem id (fun _ => true)
    (fun item => { item with
      name := input.name.getD item.name
      categoryId := nextCategoryId
      reorderPoint := input.reorderPoint.getD item.reorderPoint })
    (.notFound "Record to update not found."))

/-- Recipes of the menu and of its options that use the item. -/
def activeRecipeLinks (catalog : Catalog) (id : Id) : Nat :=
  let uses (lines : List RecipeLine) := lines.countP fun line => line.inventoryItemId = id
  (catalog.menuItems.rows.map fun menuItem =>
    uses menuItem.ingredients +
      ((menuItem.optionGroups.flatMap (·.options)).map fun option => uses option.ingredients).sum
  ).sum

/-- Recipe rows of pending order items in active sessions. -/
def pendingOrderLinks (sales : SalesStore) (id : Id) : Nat :=
  sales.recipes.count fun row => row.inventoryItemId = id &&
    (sales.items.find? row.orderItemId).any fun item => item.serveStatus = .pending &&
      (sales.sessions.find? item.orderSessionId).any fun session =>
        session.sessionStatus = .active

def draftReceiptLinks (store : InventoryStore) (id : Id) : Nat :=
  store.purchaseReceiptItems.count fun line => line.inventoryItemId = id &&
    (store.purchaseReceipts.find? line.purchaseReceiptId).any fun receipt =>
      receipt.status = .draft

def draftStocktakeLinks (store : InventoryStore) (id : Id) : Nat :=
  store.stocktakeItems.count fun line => line.inventoryItemId = id &&
    (store.stocktakes.find? line.stocktakeId).any fun stocktake => stocktake.status = .draft

def remove (id employeeId : Id) (now : Timestamp) : Transact Unit := do
  assertActiveEmployeePolicy employeeId
  let item ← inventoryTx (ensureActiveItemExists id)
  let database ← get
  assertCanDeleteItem {
    activeRecipeLinks :=
      activeRecipeLinks database.catalog id + pendingOrderLinks database.sales id
    draftDocumentLinks :=
      draftReceiptLinks database.inventory id + draftStocktakeLinks database.inventory id
    stock := item.stock }
  inventoryTx (updateExpecting inventoryItem id (fun _ => true)
    (fun item => { item with deletedAt := some now }) (.notFound "Record to update not found."))

end InventoryItemService

end CoffeeShop
