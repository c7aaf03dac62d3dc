import CoffeeShop.Store.Basic

/-!
Stock, its ledger and the documents that move it.
-/

namespace CoffeeShop

structure InventoryItem where
  id : Id
  name : String
  stock : Quantity
  reservedStock : Quantity
  averageUnitCost : Money
  reorderPoint : Quantity
  categoryId : Id
  unitId : Id
  deletedAt : Option Timestamp

inductive InventoryTxType where
  | importTx
  | exportTx
  deriving DecidableEq, Repr

structure InventoryTransaction where
  type : InventoryTxType
  quantity : Quantity
  unitPrice : Option Money
  totalAmount : Option Money
  transactionDate : Timestamp
  inventoryItemId : Id
  orderItemId : Option Id := none
  purchaseReceiptItemId : Option Id := none
  stocktakeItemId : Option Id := none
  deriving DecidableEq

structure InventoryReservation where
  orderItemId : Id
  inventoryItemId : Id
  quantity : Quantity
  deriving DecidableEq

def InventoryReservation.key (row : InventoryReservation) : Id × Id :=
  (row.orderItemId, row.inventoryItemId)

structure OrderItemIngredientSnapshot where
  orderItemId : Id
  inventoryItemId : Id
  inventoryItemName : String
  unitName : String
  quantityPerItem : Quantity
  totalQuantity : Quantity
  unitCost : Money
  totalCost : Money
  createdAt : Timestamp

def OrderItemIngredientSnapshot.key (row : OrderItemIngredientSnapshot) : Id × Id :=
  (row.orderItemId, row.inventoryItemId)

structure InventoryWaste where
  orderItemId : Id
  inventoryItemId : Id
  quantity : Quantity
  reason : String
  employeeId : Id
  createdAt : Timestamp

def InventoryWaste.key (row : InventoryWaste) : Id × Id :=
  (row.orderItemId, row.inventoryItemId)

inductive PurchaseReceiptStatus where
  | draft
  | posted
  | cancelled
  deriving DecidableEq, Repr

structure PurchaseReceipt where
  id : Id
  status : PurchaseReceiptStatus
  supplierId : Id
  receivedAt : Timestamp
  totalAmount : Money
  updatedAt : Timestamp
  postedAt : Option Timestamp
  cancelledAt : Option Timestamp
  cancellationReason : Option String
  createdById : Id
  postedById : Option Id
  cancelledById : Option Id

structure PurchaseReceiptItem where
  id : Id
  purchaseReceiptId : Id
  inventoryItemId : Id
  inventoryItemName : String
  unitName : String
  quantity : Quantity
  unitPrice : Money
  totalAmount : Money

inductive StocktakeStatus where
  | draft
  | posted
  | cancelled
  deriving DecidableEq, Repr

structure Stocktake where
  id : Id
  status : StocktakeStatus
  postedAt : Option Timestamp
  cancelledAt : Option Timestamp
  cancellationReason : Option String
  createdById : Id
  postedById : Option Id
  cancelledById : Option Id

structure StocktakeItem where
  id : Id
  stocktakeId : Id
  inventoryItemId : Id
  inventoryItemName : String
  unitName : String
  expectedQuantity : Quantity
  countedQuantity : Option Quantity
  differenceQuantity : Option Quantity
  countedAt : Option Timestamp

/-- The tables of the inventory services. -/
structure InventoryStore where
  items : Table InventoryItem.id
  reservations : Table InventoryReservation.key
  /-- Ledger rows are only ever appended. -/
  transactions : List InventoryTransaction
  ingredientSnapshots : Table OrderItemIngredientSnapshot.key
  wastes : Table InventoryWaste.key
  purchaseReceipts : Table PurchaseReceipt.id
  purchaseReceiptItems : Table PurchaseReceiptItem.id
  stocktakes : Table Stocktake.id
  stocktakeItems : Table StocktakeItem.id

namespace InventoryStore

open Transaction

def empty : InventoryStore where
  items := .empty
  reservations := .empty
  transactions := []
  ingredientSnapshots := .empty
  wastes := .empty
  purchaseReceipts := .empty
  purchaseReceiptItems := .empty
  stocktakes := .empty
  stocktakeItems := .empty

@[simps] def inventoryItem : Part InventoryStore (Table InventoryItem.id) where
  get := items
  set value store := { store with items := value }
  get_set _ _ := rfl

@[simps] def inventoryReservation : Part InventoryStore (Table InventoryReservation.key) where
  get := reservations
  set value store := { store with reservations := value }
  get_set _ _ := rfl

@[simps] def ingredientSnapshot :
    Part InventoryStore (Table OrderItemIngredientSnapshot.key) where
  get := ingredientSnapshots
  set value store := { store with ingredientSnapshots := value }
  get_set _ _ := rfl

@[simps] def inventoryWaste : Part InventoryStore (Table InventoryWaste.key) where
  get := wastes
  set value store := { store with wastes := value }
  get_set _ _ := rfl

@[simps] def purchaseReceipt : Part InventoryStore (Table PurchaseReceipt.id) where
  get := purchaseReceipts
  set value store := { store with purchaseReceipts := value }
  get_set _ _ := rfl

@[simps] def purchaseReceiptItem : Part InventoryStore (Table PurchaseReceiptItem.id) where
  get := purchaseReceiptItems
  set value store := { store with purchaseReceiptItems := value }
  get_set _ _ := rfl

@[simps] def stocktake : Part InventoryStore (Table Stocktake.id) where
  get := stocktakes
  set value store := { store with stocktakes := value }
  get_set _ _ := rfl

@[simps] def stocktakeItem : Part InventoryStore (Table StocktakeItem.id) where
  get := stocktakeItems
  set value store := { store with stocktakeItems := value }
  get_set _ _ := rfl

end InventoryStore

end CoffeeShop
