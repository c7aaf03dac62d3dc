import CoffeeShop.Inventory.Costing
import CoffeeShop.Library.GroupedSum

/-!
Holding, releasing and consuming the ingredients of order items.
-/

namespace CoffeeShop

structure InventoryRequirement where
  inventoryItemId : Id
  quantity : Quantity
  deriving DecidableEq

def InventoryReservation.requirement (row : InventoryReservation) : InventoryRequirement where
  inventoryItemId := row.inventoryItemId
  quantity := row.quantity

/-- One entry of the `ingredients` that `consumeOrderItem` computes. -/
structure ConsumedIngredient where
  inventoryItemId : Id
  inventoryItemName : String
  unitName : String
  quantityPerItem : Quantity
  totalQuantity : Quantity
  unitCost : Money
  totalCost : Money

def ConsumedIngredient.requirement (row : ConsumedIngredient) : InventoryRequirement where
  inventoryItemId := row.inventoryItemId
  quantity := row.totalQuantity

namespace InventoryConsumption

open Transaction InventoryStore

/-- The quantity of each inventory item, in the order of the identifiers. -/
def totalRequirements (rows : List InventoryRequirement) : List (Id × Quantity) :=
  GroupedSum.ofList (rows.map fun row => (row.inventoryItemId, row.quantity))

def insufficientStock : Failure :=
  .conflictWithCode "INVENTORY_INSUFFICIENT_STOCK"
    "Insufficient available ingredients. Review the order before retrying."

def snapshotMismatch : Failure :=
  .conflict "Reserved ingredients no longer match the order snapshot."

def canFulfill (catalog : Catalog) (items : Table InventoryItem.id)
    (requirements : List InventoryRequirement) : Bool :=
  (totalRequirements requirements).all fun total =>
    (items.find? total.1).any fun item =>
      item.deletedAt.isNone && catalog.isActiveInventoryCategory item.categoryId &&
        catalog.isActiveUnit item.unitId && total.2 ≤ item.stock - item.reservedStock

/-- The reservations of one order item are exactly its requirements. -/
def matchesHeld (held : List InventoryReservation) (required : List InventoryRequirement) : Bool :=
  held.length = required.length && required.all fun row =>
    held.any fun hold => hold.inventoryItemId = row.inventoryItemId && hold.quantity = row.quantity

/-- Reserve a quantity of an item that has it available. -/
def holdTotal (catalog : Catalog) (total : Id × Quantity) : Tx InventoryStore Failure Unit :=
  updateExpecting inventoryItem total.1
    (fun item => item.deletedAt.isNone && total.2 ≤ item.stock - item.reservedStock &&
      catalog.isActiveUnit item.unitId && catalog.isActiveInventoryCategory item.categoryId)
    (fun item => { item with reservedStock := item.reservedStock + total.2 })
    insufficientStock

/-- The stock updates and the insertion that end `reservePendingItems`. -/
def createReservations (catalog : Catalog) (reservations : List InventoryReservation) :
    Tx InventoryStore Failure Unit := do
  forEach (totalRequirements (reservations.map (·.requirement))) fun total =>
    holdTotal catalog total
  require (∀ row ∈ reservations, 0 < row.quantity)
    (.constraint "InventoryReservation_quantity_check")
  createMany inventoryReservation reservations (.constraint "InventoryReservation_pkey")

def releaseTotal (total : Id × Quantity) : Tx InventoryStore Failure Unit :=
  updateExpecting inventoryItem total.1
    (fun item => total.2 ≤ item.reservedStock)
    (fun item => { item with reservedStock := item.reservedStock - total.2 })
    (.conflict "Inventory reservation state changed. Reload before retrying.")

def releaseReservations (orderItemIds : List Id) : Tx InventoryStore Failure Unit := do
  let rows ← findMany inventoryReservation fun row => row.orderItemId ∈ orderItemIds
  forEach (totalRequirements (rows.map (·.requirement))) fun total => releaseTotal total
  let _ ← deleteMany inventoryReservation fun row => row.orderItemId ∈ orderItemIds

/-- `held.get(inventoryItemId)`. -/
def heldQuantity (held : List InventoryReservation) (inventoryItemId : Id) : Quantity :=
  ((held.find? fun row => row.inventoryItemId = inventoryItemId).map (·.quantity)).getD 0

/-- Take an ingredient from the stock, its own hold included. -/
def consumeIngredient (held : List InventoryReservation) (ingredient : ConsumedIngredient) :
    Tx InventoryStore Failure Unit :=
  let own := heldQuantity held ingredient.inventoryItemId
  updateExpecting inventoryItem ingredient.inventoryItemId
    (fun item => item.deletedAt.isNone && own ≤ item.reservedStock &&
      ingredient.totalQuantity - own ≤ item.stock - item.reservedStock)
    (fun item => { item with
      stock := item.stock - ingredient.totalQuantity
      reservedStock := item.reservedStock - own })
    insufficientStock

def snapshotOf (orderItemId : Id) (now : Timestamp) (ingredient : ConsumedIngredient) :
    OrderItemIngredientSnapshot where
  orderItemId
  inventoryItemId := ingredient.inventoryItemId
  inventoryItemName := ingredient.inventoryItemName
  unitName := ingredient.unitName
  quantityPerItem := ingredient.quantityPerItem
  totalQuantity := ingredient.totalQuantity
  unitCost := ingredient.unitCost
  totalCost := ingredient.totalCost
  createdAt := now

/-- `consumeOrderItem` from the point where the ingredients are known. -/
def consumeIngredients (orderItemId : Id) (ingredients : List ConsumedIngredient)
    (now : Timestamp) : Tx InventoryStore Failure Unit := do
  let held ← findMany inventoryReservation fun row => row.orderItemId = orderItemId
  require (held = [] ∨ matchesHeld held (ingredients.map (·.requirement))) snapshotMismatch
  forEach ingredients fun ingredient => consumeIngredient held ingredient
  let _ ← deleteMany inventoryReservation fun row => row.orderItemId = orderItemId
  createMany ingredientSnapshot (ingredients.map (snapshotOf orderItemId now))
    (.constraint "OrderItemIngredientSnapshot_pkey")
  createTransactions (ingredients.map fun ingredient => {
    type := .exportTx
    quantity := ingredient.totalQuantity
    unitPrice := some ingredient.unitCost
    totalAmount := some ingredient.totalCost
    transactionDate := now
    inventoryItemId := ingredient.inventoryItemId
    orderItemId := some orderItemId })

structure WasteInput where
  orderItemId : Id
  employeeId : Id
  reason : String

def recordWaste (input : WasteInput) (now : Timestamp) : Tx InventoryStore Failure Unit := do
  let snapshots ← findMany ingredientSnapshot fun row => row.orderItemId = input.orderItemId
  createMany inventoryWaste
    (snapshots.map fun snapshot => {
      orderItemId := input.orderItemId
      inventoryItemId := snapshot.inventoryItemId
      quantity := snapshot.totalQuantity
      reason := input.reason
      employeeId := input.employeeId
      createdAt := now })
    (.constraint "InventoryWaste_orderItemId_inventoryItemId_key")

end InventoryConsumption

end CoffeeShop
