import CoffeeShop.Store.Database

/-!
Line values, the moving average cost and the checks of the inventory policy.
-/

namespace CoffeeShop

open DecimalArithmetic

def calculateInventoryValue (quantity : Quantity) (unitCost : Money) : Money :=
  moneyOfDecimal (mul decimalPrecision (quantityToDecimal quantity) (moneyToDecimal unitCost))

structure WeightedAverageInput where
  stock : Quantity
  averageUnitCost : Money
  importedQuantity : Quantity
  importedUnitCost : Money

def calculateWeightedAverageCost (input : WeightedAverageInput) : Money :=
  let quantityAfter := add decimalPrecision (quantityToDecimal input.stock)
    (quantityToDecimal input.importedQuantity)
  if quantityAfter = 0 then 0
  else
    let held := mul decimalPrecision (quantityToDecimal input.stock)
      (moneyToDecimal input.averageUnitCost)
    let imported := mul decimalPrecision (quantityToDecimal input.importedQuantity)
      (moneyToDecimal input.importedUnitCost)
    moneyOfDecimal
      (div decimalPrecision (add decimalPrecision held imported) quantityAfter)

namespace InventoryPolicy

open Transaction

variable {σ : Type}

def toPositiveDecimal (value : Quantity) (fieldName : String) : Tx σ Failure Quantity := do
  require (0 < value) (.badRequest (fieldName ++ " must be greater than 0."))
  pure value

def toNonNegativeDecimal (value : Quantity) (fieldName : String) : Tx σ Failure Quantity := do
  require (0 ≤ value) (.badRequest (fieldName ++ " must be greater than or equal to 0."))
  pure value

def toNonNegativeMoney (value : Money) (fieldName : String) : Tx σ Failure Money := do
  require (0 ≤ value) (.badRequest (fieldName ++ " must be greater than or equal to 0."))
  pure value

def bulkMovementLimit : Nat := 100

def assertBulkSize (size : Nat) : Tx σ Failure Unit :=
  require (1 ≤ size ∧ size ≤ bulkMovementLimit)
    (.badRequest "Bulk inventory movements must contain between 1 and 100 items.")

def duplicateIds (inventoryItemIds : List Id) : List Id :=
  (inventoryItemIds.zipIdx.filter fun entry => inventoryItemIds.idxOf entry.1 ≠ entry.2).map
    Prod.fst

def assertNoDuplicateInventoryItems (inventoryItemIds : List Id) : Tx σ Failure Unit :=
  require inventoryItemIds.Nodup
    (.conflict ("Duplicate inventory item IDs are not allowed: " ++
      ", ".intercalate ((duplicateIds inventoryItemIds).eraseDups.map toString)))

structure DeletionCheck where
  activeRecipeLinks : Nat
  draftDocumentLinks : Nat
  stock : Quantity

def assertCanDeleteItem (check : DeletionCheck) : Tx σ Failure Unit := do
  require (check.activeRecipeLinks = 0)
    (.conflict "Cannot delete inventory item while menu recipes still reference it.")
  require (check.draftDocumentLinks = 0)
    (.conflict "Cannot delete inventory item while draft inventory documents reference it.")
  require (check.stock = 0)
    (.conflict "Cannot delete inventory item while stock is not zero.")

end InventoryPolicy

namespace InventoryStore

open Transaction

/-- The unique indexes on `orderItemId, inventoryItemId`, `purchaseReceiptItemId` and
`stocktakeItemId`. -/
def sameSource (row other : InventoryTransaction) : Bool :=
  (row.orderItemId.isSome && row.orderItemId = other.orderItemId &&
    row.inventoryItemId = other.inventoryItemId) ||
  (row.purchaseReceiptItemId.isSome &&
    row.purchaseReceiptItemId = other.purchaseReceiptItemId) ||
  (row.stocktakeItemId.isSome && row.stocktakeItemId = other.stocktakeItemId)

/-- `inventoryTransaction.createMany`. -/
def createTransactions (rows : List InventoryTransaction) : Tx InventoryStore Failure Unit := do
  let store ← get
  require (rows.Pairwise fun row other => !sameSource row other)
    (.constraint "InventoryTransaction_source_key")
  require (∀ row ∈ rows, ∀ other ∈ store.transactions, !sameSource row other)
    (.constraint "InventoryTransaction_source_key")
  require (∀ row ∈ rows, 0 < row.quantity)
    (.constraint "InventoryTransaction_quantity_positive_check")
  modify fun store => { store with transactions := store.transactions ++ rows }

/-- `ensureActiveItemExists` of the inventory repository. -/
def ensureActiveItemExists (id : Id) : Tx InventoryStore Failure InventoryItem := do
  let item ← findUniqueOrFail inventoryItem id
    (.notFound s!"Inventory item with ID {id} not found.")
  require item.deletedAt.isNone (.notFound s!"Inventory item with ID {id} not found.")
  pure item

end InventoryStore

end CoffeeShop
