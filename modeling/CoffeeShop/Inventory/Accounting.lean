import CoffeeShop.Execution
import CoffeeShop.Inventory.Bookkeeping
import CoffeeShop.Inventory.StockUses

/-!
The stock is consistent in every reachable state.

The services outside the inventory change it through the reservations, the
consumption and the waste records only.
-/

-- An instance for a program has one node for each of its statements.
set_option synthInstance.maxSize 100000

namespace CoffeeShop

open Transaction

/-- The stock of the database stays consistent, and its ledger accounts for it. -/
abbrev KeepsStock {α : Type} (program : Transact α) : Prop :=
  Respects (On Database.inventory (On InventoryStore.books Bookkeeping)) program

namespace KeepsStock

variable {id employeeId : Id} {now : Timestamp}

section Inventory

instance moveStockInTransaction {movements : List StockMovement} :
    KeepsStock (InventoryMovement.moveStockInTransaction employeeId movements now) := by
  dsimp only [InventoryMovement.moveStockInTransaction]
  infer_instance

instance importItem {itemId : Id} {quantity : Quantity} {unitPrice : Money}
    {transactionDate : Option Timestamp} : KeepsStock
      (InventoryMovement.importItem employeeId itemId quantity unitPrice transactionDate now) := by
  dsimp only [InventoryMovement.importItem]
  infer_instance

instance exportItem {itemId : Id} {quantity : Quantity} {transactionDate : Option Timestamp} :
    KeepsStock (InventoryMovement.exportItem employeeId itemId quantity transactionDate now) := by
  dsimp only [InventoryMovement.exportItem]
  infer_instance

instance bulkMove {type : InventoryTxType} {items : List StockMovement} :
    KeepsStock (InventoryMovement.bulkMove type employeeId items now) := by
  dsimp only [InventoryMovement.bulkMove]
  infer_instance

instance createReceiptLines {lines : List PreparedReceiptLine} :
    KeepsStock (PurchaseReceiptService.createLines id lines) := by
  dsimp only [PurchaseReceiptService.createLines]
  infer_instance

instance createReceipt {input : CreatePurchaseReceiptInput} :
    KeepsStock (PurchaseReceiptService.create employeeId input now) := by
  dsimp only [PurchaseReceiptService.create]
  infer_instance

instance replaceReceiptLines {lines : List PreparedReceiptLine} :
    KeepsStock (PurchaseReceiptService.replaceLines id lines) := by
  dsimp only [PurchaseReceiptService.replaceLines]
  infer_instance

instance updateReceipt {input : UpdatePurchaseReceiptInput} :
    KeepsStock (PurchaseReceiptService.update id employeeId input now) := by
  dsimp only [PurchaseReceiptService.update]
  infer_instance

instance postReceipt {expectedUpdatedAt : Timestamp} :
    KeepsStock (PurchaseReceiptService.post id employeeId expectedUpdatedAt now) := by
  dsimp only [PurchaseReceiptService.post]
  infer_instance

instance cancelReceipt {reason : String} :
    KeepsStock (PurchaseReceiptService.cancel id employeeId reason now) := by
  dsimp only [PurchaseReceiptService.cancel]
  infer_instance

instance createStocktakeLines {catalog : Catalog} {items : List InventoryItem} :
    KeepsStock (StocktakeService.createLines catalog id items) := by
  dsimp only [StocktakeService.createLines]
  infer_instance

instance createStocktake {inventoryItemIds : List Id} :
    KeepsStock (StocktakeService.create employeeId inventoryItemIds) := by
  dsimp only [StocktakeService.create]
  infer_instance

instance updateCounts {counts : List StocktakeCount} :
    KeepsStock (StocktakeService.updateCounts id employeeId counts now) := by
  dsimp only [StocktakeService.updateCounts, StocktakeService.updateCount]
  infer_instance

instance postStocktake {expectedCounts : Option (List StocktakeCount)} :
    KeepsStock (StocktakeService.post id employeeId expectedCounts now) := by
  dsimp only [StocktakeService.post]
  infer_instance

instance cancelStocktake {reason : String} :
    KeepsStock (StocktakeService.cancel id employeeId reason now) := by
  dsimp only [StocktakeService.cancel]
  infer_instance

instance createItem {input : CreateInventoryItemInput} :
    KeepsStock (InventoryItemService.create employeeId input now) := by
  dsimp only [InventoryItemService.create]
  refine Respects.bind_checked (P := fun stock => 0 ≤ stock) (fun _ stock _ ran => ?_)
    fun stock nonneg => ?_
  · simp only [InventoryPolicy.toNonNegativeDecimal, commits_bind, commits_require,
      commits_pure] at ran
    obtain ⟨_, _, ⟨nonneg, -⟩, rfl, -⟩ := ran
    exact nonneg
  · have inserts (id : Id) (cost : Money) (reorderPoint : Quantity) :
        Respects (On InventoryStore.books Bookkeeping) (InventoryItemService.insertItem {
          id
          name := input.name
          stock
          reservedStock := 0
          averageUnitCost := cost
          reorderPoint
          categoryId := input.categoryId
          unitId := input.unitId
          deletedAt := none } now) :=
      InventoryItemService.insertItem_books rfl nonneg
    infer_instance

theorem editItem {change : InventoryItem → InventoryItem} {keeps : ∀ row, (change row).id = row.id}
    {failure : Failure} (stock : ∀ row, (change row).stock = row.stock)
    (reserved : ∀ row, (change row).reservedStock = row.reservedStock)
    (deletedAt : ∀ row, (change row).deletedAt = row.deletedAt) :
    Preserves InventoryStore.Consistent
      (updateExpecting InventoryStore.inventoryItem id (fun _ => true) change failure keeps) where
  step before result after committed consistent := by
    have moves : Shift (Shift.single id 0) (Shift.single id 0) before.items after.items :=
      Shift.updateExpecting committed fun row _ =>
        ⟨by rw [stock, Int.add_zero], by rw [reserved, Int.add_zero], deletedAt row⟩
    obtain ⟨sameReservations, sameTransactions⟩ :=
      accounts_eq (Keeps.eq InventoryStore.accounts committed)
    refine StockConsistent.shift consistent moves (fun wanted => ?_) (fun wanted => ?_)
      (consistent.covered.shift moves (fun wanted => ?_) fun wanted => ?_)
      (fun row membership => ?_) fun row membership => ?_
    · rw [Shift.single_zero, Int.add_zero, sameTransactions]
    · rw [Shift.single_zero, Int.add_zero, sameReservations]
    · rw [Shift.single_zero]
    · rw [Shift.single_zero]
    · exact consistent.holds row (sameReservations ▸ membership)
    · exact consistent.posts row (sameTransactions ▸ membership)

instance updateItem {input : UpdateInventoryItemInput} :
    KeepsStock (InventoryItemService.update id employeeId input) := by
  have edits (nextCategoryId : Id) : Respects (On InventoryStore.books Bookkeeping)
      (updateExpecting InventoryStore.inventoryItem id (fun _ => true) (fun item => { item with
        name := input.name.getD item.name
        categoryId := nextCategoryId
        reorderPoint := input.reorderPoint.getD item.reorderPoint })
        (Failure.notFound "Record to update not found.")) :=
    Bookkeeping.unmoved (editItem (fun _ => rfl) (fun _ => rfl) fun _ => rfl)
      (keepsCarryings fun _ => rfl)
  dsimp only [InventoryItemService.update]
  infer_instance

instance removeItem : KeepsStock (InventoryItemService.remove id employeeId now) where
  step before result after committed := by
    simp only [InventoryItemService.remove, commits_bind, commits_get, commits_inventoryTx,
      commits_ensureActiveItemExists, InventoryPolicy.assertCanDeleteItem, commits_require,
      commits_updateExpecting] at committed
    obtain ⟨_, start, ran, item, _, ⟨_, ⟨found, -, rfl⟩, rfl⟩, database, _, ⟨rfl, rfl⟩, _, _,
      ⟨_, _, ⟨-, rfl⟩, _, _, ⟨-, rfl⟩, empty, rfl⟩, _, ⟨-, rfl⟩, rfl⟩ := committed
    cases Respects.step (R := Eq) ran
    refine Bookkeeping.of_books (fun consistent => ?_) (List.append_nil _).symm fun _ => ?_
    · exact InventoryItemService.markDeleted_consistent consistent found empty now
    · exact Books.update (by intro; rfl) fun _ => rfl

end Inventory

end KeepsStock

instance : StockUse (On InventoryStore.books Bookkeeping) where
  reserve _ _ := inferInstance
  release _ := inferInstance
  consume _ _ _ := inferInstance
  recordWaste _ _ := inferInstance

instance Command.keepsStock {command : Command} {now : Timestamp} :
    KeepsStock (command.execute now) := by
  refine StockUse.command fun command => ?_
  cases command <;> (dsimp only [InventoryCommand.execute]; infer_instance)

theorem InventoryStore.consistent_empty : InventoryStore.empty.Consistent where
  ledger _ _ found := nomatch found
  held _ _ found := nomatch found
  covered _ _ found := nomatch found
  holds _ membership := (Table.not_mem_empty membership).elim
  posts _ membership := (List.not_mem_nil membership).elim

theorem Step.keepsBooks {before after : Database} (taken : Step before after) :
    Bookkeeping before.inventory.books after.inventory.books := by
  cases taken with
  | commit command now committed => exact Command.keepsStock.step committed
  | administer => exact refl_of Bookkeeping before.inventory.books

theorem Reachable.stockConsistent {database : Database} (reachable : Reachable database) :
    database.inventory.Consistent := by
  induction reachable with
  | refl => exact InventoryStore.consistent_empty
  | tail _ taken inductionHypothesis => exact (taken.keepsBooks inductionHypothesis).1

/-- The reserved stock of every item is what its reservations hold, and the stock covers it. -/
theorem Reachable.reservedStock_eq {database : Database} (reachable : Reachable database) :
    ∀ item ∈ database.inventory.items,
      item.reservedStock = heldStock database.inventory.reservations item.id ∧
        0 ≤ item.reservedStock ∧ item.reservedStock ≤ item.stock := by
  intro item membership
  have consistent := reachable.stockConsistent
  have held := consistent.held item.id item (Table.find?_of_mem membership)
  refine ⟨held, ?_, consistent.covered item.id item (Table.find?_of_mem membership)⟩
  rw [held]
  exact consistent.heldStock_nonneg item.id

theorem Reachable.reservedStock_eq_invoiced :
    (∀ item ∈ Database.invoiced.inventory.items,
      item.reservedStock = heldStock Database.invoiced.inventory.reservations item.id ∧
        0 ≤ item.reservedStock ∧ item.reservedStock ≤ item.stock) ∧
      (Database.invoiced.inventory.items.find? 0).map (·.reservedStock) = some 360000 :=
  ⟨Reachable.reservedStock_eq Reachable.invoiced, by decide +kernel⟩

section Waste

/-- The stock of every item with the ledger. -/
def InventoryStore.stocks (store : InventoryStore) :
    (Id → Option Quantity) × List InventoryTransaction :=
  (fun id => (store.items.find? id).map (·.stock), store.transactions)

open InventoryStore InventoryConsumption

instance : Apart stocks inventoryReservation := ⟨fun _ _ => rfl⟩
instance : Apart stocks inventoryWaste := ⟨fun _ _ => rfl⟩

instance releaseTotal_stocks {total : Id × Quantity} : Keeps stocks (releaseTotal total) where
  step before result after committed := by
    obtain ⟨-, rfl⟩ := commits_updateExpecting.mp committed
    refine Prod.ext (funext fun id => ?_) rfl
    simp only [stocks, inventoryItem_set_items, Table.find?_update, Option.map_map]
    refine congrArg (Option.map · (before.items.find? id)) (funext fun row => ?_)
    simp only [Function.comp_apply]
    split <;> rfl

instance releaseReservations_stocks {orderItemIds : List Id} :
    Keeps stocks (releaseReservations orderItemIds) := by
  dsimp only [releaseReservations]
  infer_instance

instance recordWaste_stocks {input : WasteInput} {now : Timestamp} :
    Keeps stocks (recordWaste input now) := by
  dsimp only [recordWaste]
  infer_instance

abbrev KeepsLedger {α : Type} (program : Transact α) : Prop :=
  Respects (On Database.inventory (On stocks Eq)) program

variable {id employeeId : Id} {now : Timestamp}

instance cancelItem_stocks {reason : Option String} :
    KeepsLedger (OrdersService.cancelItem id employeeId reason now) := by
  dsimp only [OrdersService.cancelItem]
  infer_instance

instance createRemake_stocks {input : OrdersService.RemakeInput} :
    KeepsLedger (OrdersService.createRemake id employeeId input now) := by
  dsimp only [OrdersService.createRemake]
  infer_instance

instance remakeItem_stocks {input : OrdersService.RemakeInput} :
    KeepsLedger (OrdersService.remakeItem id employeeId input now) := by
  dsimp only [OrdersService.remakeItem]
  infer_instance

instance cancelAcceptedRequest_stocks {reason : String} {noShow : Bool} :
    KeepsLedger (OnlineOrders.cancelAcceptedRequest id employeeId reason noShow now) := by
  dsimp only [OnlineOrders.cancelAcceptedRequest]
  infer_instance

/-- The commands that may record the waste of a prepared item. -/
inductive Command.RecordsWaste : Command → Prop
  | cancelItem (id employeeId : Id) (reason : Option String) :
      RecordsWaste (.order (.cancelItem id employeeId reason))
  | remakeItem (id employeeId : Id) (input : OrdersService.RemakeInput) :
      RecordsWaste (.order (.remakeItem id employeeId input))
  | cancelAccepted (id employeeId : Id) (reason : String) :
      RecordsWaste (.online (.cancelAccepted id employeeId reason))
  | markNoShow (id employeeId : Id) : RecordsWaste (.online (.markNoShow id employeeId))

theorem Command.RecordsWaste.keepsLedger {command : Command} (records : command.RecordsWaste) :
    KeepsLedger (command.execute now) := by
  cases records with
  | cancelItem => exact cancelItem_stocks
  | remakeItem => exact remakeItem_stocks
  | cancelAccepted => exact cancelAcceptedRequest_stocks
  | markNoShow => exact cancelAcceptedRequest_stocks

end Waste

/-- The stock of every item is the sum of its imports less the sum of its exports.  What
records waste moves neither the stock nor the ledger. -/
theorem Reachable.stock_eq_ledger {database : Database} (reachable : Reachable database) :
    (∀ item ∈ database.inventory.items,
      item.stock = ledgerQuantity database.inventory.transactions .importTx item.id -
        ledgerQuantity database.inventory.transactions .exportTx item.id) ∧
    ∀ (command : Command) (now : Timestamp) (after : Database), command.RecordsWaste →
      Commits (command.execute now) database () after →
        after.inventory.transactions = database.inventory.transactions ∧
          ∀ id, (after.inventory.items.find? id).map (·.stock) =
            (database.inventory.items.find? id).map (·.stock) := by
  constructor
  · intro item membership
    exact reachable.stockConsistent.ledger item.id item (Table.find?_of_mem membership)
  · intro command now after records committed
    have same := records.keepsLedger.step committed
    exact ⟨(congrArg Prod.snd same).symm, fun id => (congrFun (congrArg Prod.fst same) id).symm⟩

/-- Two cups at a table are being made. -/
def Database.cooking : Database := Database.sample.performAll [
  (.inventory (.createItem 0 {
    name := "Coffee beans"
    stock := some 10000000
    initialUnitCost := some 100
    reorderPoint := none
    categoryId := 0
    unitId := 0 }), 1),
  (.table (.createTable "A1"), 2),
  (.order (.openSession (some 1) 0 none), 3),
  (.order (.addOrderItems 2
    [{ menuItemId := 0, quantity := 2, note := none, optionIds := [], quantity_pos := Nat.zero_lt_two }]
    0), 4),
  (.order (.updateItemStatus 3 0 .cooking), 5)]

/-- The beans of the two cups have left the stock; that the cups are spilled is waste. -/
theorem Reachable.stock_eq_ledger_cooking :
    let spill : Command := .order (.cancelItem 3 0 (some "Spilled"))
    let after := Database.cooking.perform spill 6
    (∀ item ∈ Database.cooking.inventory.items,
      item.stock = ledgerQuantity Database.cooking.inventory.transactions .importTx item.id -
        ledgerQuantity Database.cooking.inventory.transactions .exportTx item.id) ∧
      (Database.cooking.inventory.items.find? 0).map (·.stock) = some 9640000 ∧
      after.inventory.wastes.rows.length = 1 ∧
      after.inventory.transactions = Database.cooking.inventory.transactions ∧
      ∀ id, (after.inventory.items.find? id).map (·.stock) =
        (Database.cooking.inventory.items.find? id).map (·.stock) := by
  have cooking : Reachable Database.cooking := Reachable.sample.performAll _
  obtain ⟨ledger, waste⟩ := Reachable.stock_eq_ledger cooking
  have committed := @Database.commits_perform Database.cooking
    (.order (.cancelItem 3 0 (some "Spilled"))) 6 (by decide +kernel)
  exact ⟨ledger, by decide +kernel, by decide +kernel,
    waste _ 6 _ (.cancelItem 3 0 (some "Spilled")) committed⟩

end CoffeeShop
