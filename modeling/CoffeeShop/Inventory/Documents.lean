import CoffeeShop.Inventory.Bookkeeping
import CoffeeShop.Inventory.StockUses

/-!
The documents that move stock: receipts and stocktakes, each with its lines.

Only the commands on a document change it, so what becomes of a document over a run follows
from these.
-/

-- An instance for a program has one node for each of its statements.
set_option synthInstance.maxSize 100000

namespace CoffeeShop

open Transaction InventoryStore

/-- The ledger of the stock. -/
@[simps] def InventoryStore.ledger : Part InventoryStore (List InventoryTransaction) where
  get := transactions
  set value store := { store with transactions := value }
  get_set _ _ := rfl

/-- A view that shows nothing of the stock, its reservations and its ledger. -/
class OffStock {τ : Type} (view : InventoryStore → τ) : Prop where
  items : Apart view inventoryItem
  reservations : Apart view inventoryReservation
  ledger : Apart view InventoryStore.ledger
  snapshots : Apart view ingredientSnapshot
  wastes : Apart view inventoryWaste

namespace OffStock

variable {τ : Type} {view : InventoryStore → τ} {Q : τ → τ → Prop} [IsPreorder τ Q]
variable [off : OffStock view]

instance : Apart view inventoryItem := items
instance : Apart view inventoryReservation := reservations
instance : Apart view ingredientSnapshot := snapshots
instance : Apart view inventoryWaste := wastes

instance createTransactions {rows : List InventoryTransaction} :
    Respects (On view Q) (createTransactions rows) where
  step before result after committed := by
    obtain ⟨-, rfl⟩ := commits_createTransactions committed
    have apart : Apart view InventoryStore.ledger := ledger
    exact Respects.write InventoryStore.ledger

instance : StockUse (On view Q) where
  reserve _ _ := by
    dsimp only [InventoryConsumption.createReservations, InventoryConsumption.holdTotal]
    infer_instance
  release _ := by
    dsimp only [InventoryConsumption.releaseReservations, InventoryConsumption.releaseTotal]
    infer_instance
  consume _ _ _ := by
    dsimp only [InventoryConsumption.consumeIngredients, InventoryConsumption.consumeIngredient]
    infer_instance
  recordWaste _ _ := by
    dsimp only [InventoryConsumption.recordWaste]
    infer_instance

instance moveStock {type : InventoryTxType} {item : InventoryItem} {quantity : Quantity}
    {unitCost : Money} :
    Respects (On view Q) (InventoryMovement.moveStock type item quantity unitCost) := by
  cases type with
  | importTx =>
      dsimp only [InventoryMovement.moveStock, InventoryMovement.importStock]
      infer_instance
  | exportTx =>
      dsimp only [InventoryMovement.moveStock, InventoryMovement.exportStock]
      infer_instance

instance resolveUnitCost {movement : StockMovement} {item : InventoryItem} :
    Respects (On view Q) (InventoryMovement.resolveUnitCost movement item) := by
  dsimp only [InventoryMovement.resolveUnitCost]
  split <;> infer_instance

instance applyMovement {movement : StockMovement} {now : Timestamp} :
    Respects (On view Q) (InventoryMovement.applyMovement movement now) := by
  dsimp only [InventoryMovement.applyMovement]
  infer_instance

instance insertItem {item : InventoryItem} {now : Timestamp} :
    Respects (On view Q) (InventoryItemService.insertItem item now) := by
  dsimp only [InventoryItemService.insertItem]
  infer_instance

section Commands

variable {id employeeId : Id} {now : Timestamp}

instance moveStockInTransaction {movements : List StockMovement} :
    OnStock (On view Q) (InventoryMovement.moveStockInTransaction employeeId movements now) := by
  dsimp only [InventoryMovement.moveStockInTransaction]
  infer_instance

instance importItem {itemId : Id} {quantity : Quantity} {unitPrice : Money}
    {transactionDate : Option Timestamp} : OnStock (On view Q)
      (InventoryMovement.importItem employeeId itemId quantity unitPrice transactionDate now) := by
  dsimp only [InventoryMovement.importItem]
  infer_instance

instance exportItem {itemId : Id} {quantity : Quantity} {transactionDate : Option Timestamp} :
    OnStock (On view Q)
      (InventoryMovement.exportItem employeeId itemId quantity transactionDate now) := by
  dsimp only [InventoryMovement.exportItem]
  infer_instance

instance bulkMove {type : InventoryTxType} {items : List StockMovement} :
    OnStock (On view Q) (InventoryMovement.bulkMove type employeeId items now) := by
  dsimp only [InventoryMovement.bulkMove]
  infer_instance

instance createItem {input : CreateInventoryItemInput} :
    OnStock (On view Q) (InventoryItemService.create employeeId input now) := by
  dsimp only [InventoryItemService.create]
  infer_instance

instance updateItem {input : UpdateInventoryItemInput} :
    OnStock (On view Q) (InventoryItemService.update id employeeId input) := by
  dsimp only [InventoryItemService.update]
  infer_instance

instance removeItem : OnStock (On view Q) (InventoryItemService.remove id employeeId now) := by
  dsimp only [InventoryItemService.remove]
  infer_instance

end Commands

section Receipts

variable [Apart view purchaseReceipt] [Apart view purchaseReceiptItem]
variable {id employeeId : Id} {now : Timestamp}

instance createReceiptLines {lines : List PreparedReceiptLine} :
    OnStock (On view Q) (PurchaseReceiptService.createLines id lines) := by
  dsimp only [PurchaseReceiptService.createLines]
  infer_instance

instance createReceipt {input : CreatePurchaseReceiptInput} :
    OnStock (On view Q) (PurchaseReceiptService.create employeeId input now) := by
  dsimp only [PurchaseReceiptService.create]
  infer_instance

instance updateReceipt {input : UpdatePurchaseReceiptInput} :
    OnStock (On view Q) (PurchaseReceiptService.update id employeeId input now) := by
  dsimp only [PurchaseReceiptService.update, PurchaseReceiptService.replaceLines]
  infer_instance

instance postReceipt {expectedUpdatedAt : Timestamp} :
    OnStock (On view Q) (PurchaseReceiptService.post id employeeId expectedUpdatedAt now) := by
  dsimp only [PurchaseReceiptService.post, PurchaseReceiptService.postDraft,
    PurchaseReceiptService.postLine]
  infer_instance

instance cancelReceipt {reason : String} :
    OnStock (On view Q) (PurchaseReceiptService.cancel id employeeId reason now) := by
  dsimp only [PurchaseReceiptService.cancel]
  infer_instance

end Receipts

section Stocktakes

variable [Apart view stocktake] [Apart view stocktakeItem]
variable {id employeeId : Id} {now : Timestamp}

instance createStocktakeLines {catalog : Catalog} {items : List InventoryItem} :
    OnStock (On view Q) (StocktakeService.createLines catalog id items) := by
  dsimp only [StocktakeService.createLines]
  infer_instance

instance createStocktake {inventoryItemIds : List Id} :
    OnStock (On view Q) (StocktakeService.create employeeId inventoryItemIds) := by
  dsimp only [StocktakeService.create]
  infer_instance

instance updateCounts {counts : List StocktakeCount} :
    OnStock (On view Q) (StocktakeService.updateCounts id employeeId counts now) := by
  dsimp only [StocktakeService.updateCounts, StocktakeService.updateCount]
  infer_instance

instance readCountedLine {line : StocktakeItem} :
    Respects (On view Q) (StocktakeService.readCountedLine line) := by
  dsimp only [StocktakeService.readCountedLine]
  infer_instance

instance assertExpectedCounts {lines : List StocktakeItem} {counts : List StocktakeCount} :
    Respects (On view Q) (StocktakeService.assertExpectedCounts lines counts) := by
  dsimp only [StocktakeService.assertExpectedCounts]
  infer_instance

instance postStocktakeLine {counted : StocktakeService.CountedLine} :
    Respects (On view Q) (StocktakeService.postLine counted) := by
  dsimp only [StocktakeService.postLine, StocktakeService.setStock]
  infer_instance

instance postStocktake {expectedCounts : Option (List StocktakeCount)} :
    OnStock (On view Q) (StocktakeService.post id employeeId expectedCounts now) := by
  dsimp only [StocktakeService.post, StocktakeService.postDraft]
  infer_instance

instance cancelStocktake {reason : String} :
    OnStock (On view Q) (StocktakeService.cancel id employeeId reason now) := by
  dsimp only [StocktakeService.cancel]
  infer_instance

end Stocktakes

end OffStock

end CoffeeShop
