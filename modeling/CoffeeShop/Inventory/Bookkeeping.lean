import CoffeeShop.Inventory.AverageCost
import CoffeeShop.Inventory.Preservation

/-!
The rows of the ledger account for the stock and the average cost of every item.
-/

namespace CoffeeShop

open Transaction InventoryStore

/-- What an item has in stock, and at which cost. -/
structure Carrying where
  stock : Quantity
  averageUnitCost : Money

def InventoryItem.carrying (item : InventoryItem) : Carrying where
  stock := item.stock
  averageUnitCost := item.averageUnitCost

/-- The row imports at a price: the gains of a stocktake have none. -/
def InventoryTransaction.isPriced (row : InventoryTransaction) : Bool :=
  row.type = .importTx && row.stocktakeItemId.isNone

/-- The carrying after the row, with the cost that the row says. -/
def Carrying.post (carrying : Carrying) (row : InventoryTransaction) : Carrying where
  stock := carrying.stock + row.type.signed row.quantity
  averageUnitCost := if row.isPriced then calculateWeightedAverageCost {
      stock := carrying.stock
      averageUnitCost := carrying.averageUnitCost
      importedQuantity := row.quantity
      importedUnitCost := row.unitPrice.getD 0 }
    else carrying.averageUnitCost

/-- The rows lead from one carrying to the other. -/
inductive Explains : Carrying → List InventoryTransaction → Carrying → Prop where
  | nil (carrying : Carrying) : Explains carrying [] carrying
  | cons {before after : Carrying} {row : InventoryTransaction} {rows : List InventoryTransaction}
      (positive : 0 < row.quantity)
      (priced : row.isPriced = true → 0 ≤ before.stock ∧ row.unitPrice.isSome = true)
      (rest : Explains (before.post row) rows after) : Explains before (row :: rows) after

theorem Explains.append {first second third : Carrying} {early late : List InventoryTransaction}
    (start : Explains first early second) (continued : Explains second late third) :
    Explains first (early ++ late) third := by
  induction start with
  | nil => exact continued
  | cons positive priced _ inductionHypothesis =>
      exact .cons positive priced (inductionHypothesis continued)

/-- The rows of one item. -/
def rowsOf (rows : List InventoryTransaction) (id : Id) : List InventoryTransaction :=
  rows.filter fun row => row.inventoryItemId = id

@[simp] theorem rowsOf_append (first second : List InventoryTransaction) (id : Id) :
    rowsOf (first ++ second) id = rowsOf first id ++ rowsOf second id := List.filter_append ..

theorem rowsOf_eq_self {rows : List InventoryTransaction} {id : Id}
    (own : ∀ row ∈ rows, row.inventoryItemId = id) : rowsOf rows id = rows :=
  List.filter_eq_self.mpr fun row member => by simp [own row member]

theorem rowsOf_eq_nil {rows : List InventoryTransaction} {id : Id}
    (others : ∀ row ∈ rows, row.inventoryItemId ≠ id) : rowsOf rows id = [] :=
  List.filter_eq_nil_iff.mpr fun row member => by simp [others row member]

/-- Every item that was there goes the way of its rows. -/
def Books (rows : List InventoryTransaction) (before after : Table InventoryItem.id) : Prop :=
  ∀ id old, before.find? id = some old → ∃ new, after.find? id = some new ∧
    Explains old.carrying (rowsOf rows id) new.carrying

namespace Books

variable {first second third : Table InventoryItem.id}

theorem refl (items : Table InventoryItem.id) : Books [] items items :=
  fun _ old found => ⟨old, found, .nil old.carrying⟩

theorem trans {early late : List InventoryTransaction} (start : Books early first second)
    (continued : Books late second third) : Books (early ++ late) first third := by
  intro id old found
  obtain ⟨middle, atMiddle, earlier⟩ := start id old found
  obtain ⟨new, atThird, later⟩ := continued id middle atMiddle
  refine ⟨new, atThird, ?_⟩
  rw [rowsOf_append]
  exact earlier.append later

/-- The update of one item, for which the rows are. -/
theorem updateExpecting {wanted : Id} {guard : InventoryItem → Bool}
    {change : InventoryItem → InventoryItem} {keeps : ∀ row, (change row).id = row.id}
    {failure : Failure} {rows : List InventoryTransaction} {before after : InventoryStore}
    (committed : Commits (updateExpecting inventoryItem wanted guard change failure keeps)
      before () after)
    (own : ∀ row ∈ rows, row.inventoryItemId = wanted)
    (explains : ∀ item, before.items.find? wanted = some item → guard item = true →
      Explains item.carrying rows (change item).carrying) :
    Books rows before.items after.items := by
  obtain ⟨⟨item, found, passed⟩, rfl⟩ := commits_updateExpecting.mp committed
  change before.items.find? wanted = some item at found
  intro id old atBefore
  refine ⟨if old.id = wanted && guard old then change old else old, by simp [atBefore], ?_⟩
  by_cases same : wanted = id
  · subst same
    obtain rfl : item = old := Option.some.inj (found.symm.trans atBefore)
    rw [rowsOf_eq_self own, if_pos (by simp [Table.find?_key found, passed])]
    exact explains item found passed
  · have differs : old.id ≠ wanted := by
      rw [Table.find?_key atBefore]
      exact fun equal => same equal.symm
    have others : rowsOf rows id = [] := by
      refine rowsOf_eq_nil fun row member equal => same ?_
      rw [← own row member, equal]
    rw [others, if_neg (by simp [differs])]
    exact .nil old.carrying

/-- A change of the rest of an item needs no row. -/
theorem update {items : Table InventoryItem.id} {condition : InventoryItem → Bool}
    {change : InventoryItem → InventoryItem} (keeps : ∀ row, (change row).id = row.id)
    (carried : ∀ row, (change row).carrying = row.carrying) :
    Books [] items (items.update condition change keeps) := by
  intro id old found
  refine ⟨if condition old then change old else old, by simp [found], ?_⟩
  have same : (if condition old then change old else old).carrying = old.carrying := by
    split
    · exact carried old
    · rfl
  rw [same]
  exact .nil old.carrying

/-- A loop of updates, with the rows that each of them has. -/
theorem forEach {α : Type} {entries : List α} {body : α → Tx InventoryStore Failure Unit}
    {rows : α → List InventoryTransaction} {before after : InventoryStore}
    (each : ∀ entry ∈ entries, ∀ before after, Commits (body entry) before () after →
      Books (rows entry) before.items after.items)
    (committed : Commits (Transaction.forEach entries body) before () after) :
    Books (entries.flatMap rows) before.items after.items := by
  induction entries generalizing before with
  | nil =>
      rw [commits_forEach_nil.mp committed]
      exact refl before.items
  | cons head tail inductionHypothesis =>
      obtain ⟨middle, ran, rest⟩ := commits_forEach_cons.mp committed
      rw [List.flatMap_cons]
      exact (each head List.mem_cons_self before middle ran).trans
        (inductionHypothesis (fun entry inTail => each entry (List.mem_cons_of_mem head inTail)) rest)

end Books

/-- What the stock is checked with. -/
structure StockBooks where
  items : Table InventoryItem.id
  reservations : Table InventoryReservation.key
  transactions : List InventoryTransaction

def InventoryStore.books (store : InventoryStore) : StockBooks where
  items := store.items
  reservations := store.reservations
  transactions := store.transactions

def StockBooks.Consistent (books : StockBooks) : Prop :=
  StockConsistent books.items books.reservations books.transactions

/-- The stock stays consistent, and the new rows account for every item. -/
def Bookkeeping (before after : StockBooks) : Prop :=
  before.Consistent → after.Consistent ∧ ∃ rows,
    after.transactions = before.transactions ++ rows ∧ Books rows before.items after.items

instance : IsPreorder StockBooks Bookkeeping where
  refl books consistent := ⟨consistent, [], (List.append_nil _).symm, .refl books.items⟩
  trans first second third start continued consistent := by
    obtain ⟨kept, early, appended, earlier⟩ := start consistent
    obtain ⟨still, late, more, later⟩ := continued kept
    refine ⟨still, early ++ late, ?_, earlier.trans later⟩
    rw [more, appended, List.append_assoc]

instance : Apart books ingredientSnapshot := ⟨fun _ _ => rfl⟩
instance : Apart books inventoryWaste := ⟨fun _ _ => rfl⟩
instance : Apart books purchaseReceipt := ⟨fun _ _ => rfl⟩
instance : Apart books purchaseReceiptItem := ⟨fun _ _ => rfl⟩
instance : Apart books stocktake := ⟨fun _ _ => rfl⟩
instance : Apart books stocktakeItem := ⟨fun _ _ => rfl⟩

section Unmoved

/-- The carrying of every item with the ledger. -/
def InventoryStore.carryings (store : InventoryStore) :
    (Id → Option Carrying) × List InventoryTransaction :=
  (fun id => (store.items.find? id).map (·.carrying), store.transactions)

instance : Apart carryings inventoryReservation := ⟨fun _ _ => rfl⟩

/-- What moves no quantity has nothing to account for. -/
theorem Bookkeeping.unmoved {α : Type} {program : Tx InventoryStore Failure α}
    (consistent : Preserves Consistent program) (keeps : Keeps carryings program) :
    Respects (On books Bookkeeping) program where
  step before result after committed holds := by
    have same := Keeps.eq carryings committed
    refine ⟨consistent.step committed holds, [], ?_, fun id old found => ?_⟩
    · rw [List.append_nil]
      exact congrArg Prod.snd same
    · have atId := congrFun (congrArg Prod.fst same) id
      change before.items.find? id = some old at found
      simp only [carryings, found, Option.map_some, Option.map_eq_some_iff] at atId
      obtain ⟨new, known, carried⟩ := atId
      refine ⟨new, known, ?_⟩
      rw [carried]
      exact .nil old.carrying

theorem keepsCarryings {wanted : Id} {guard : InventoryItem → Bool}
    {change : InventoryItem → InventoryItem} {keeps : ∀ row, (change row).id = row.id}
    {failure : Failure} (carried : ∀ row, (change row).carrying = row.carrying) :
    Keeps carryings (updateExpecting inventoryItem wanted guard change failure keeps) where
  step before result after committed := by
    obtain ⟨-, rfl⟩ := commits_updateExpecting.mp committed
    refine Prod.ext (funext fun id => ?_) rfl
    simp only [carryings, inventoryItem_set_items, Table.find?_update, Option.map_map]
    refine congrArg (Option.map · (before.items.find? id)) (funext fun row => ?_)
    simp only [Function.comp_apply]
    split
    · exact (carried row).symm
    · rfl

end Unmoved

namespace StockConsistent

theorem stock_nonneg {items : Table InventoryItem.id}
    {reservations : Table InventoryReservation.key} {transactions : List InventoryTransaction}
    (consistent : StockConsistent items reservations transactions) {id : Id} {item : InventoryItem}
    (found : items.find? id = some item) : 0 ≤ item.stock := by
  have reserved := consistent.held id item found
  have nonneg := consistent.heldStock_nonneg id
  have covered := consistent.covered id item found
  lia

end StockConsistent

/-- A transaction that keeps the stock consistent and books rows for what it moves. -/
theorem Bookkeeping.of_books {before after : InventoryStore} {rows : List InventoryTransaction}
    (consistent : before.Consistent → after.Consistent)
    (appended : after.transactions = before.transactions ++ rows)
    (moved : before.Consistent → Books rows before.items after.items) :
    On books Bookkeeping before after :=
  fun holds => ⟨consistent holds, rows, appended, moved holds⟩

namespace InventoryConsumption

instance holdTotal_carryings {catalog : Catalog} {total : Id × Quantity} :
    Keeps carryings (holdTotal catalog total) := keepsCarryings fun _ => rfl

instance releaseTotal_carryings {total : Id × Quantity} :
    Keeps carryings (releaseTotal total) := keepsCarryings fun _ => rfl

instance createReservations_books {catalog : Catalog} {rows : List InventoryReservation} :
    Respects (On books Bookkeeping) (createReservations catalog rows) := by
  refine Bookkeeping.unmoved inferInstance ?_
  dsimp only [createReservations]
  infer_instance

instance releaseReservations_books {orderItemIds : List Id} :
    Respects (On books Bookkeeping) (releaseReservations orderItemIds) := by
  refine Bookkeeping.unmoved inferInstance ?_
  dsimp only [releaseReservations]
  infer_instance

instance recordWaste_books {input : WasteInput} {now : Timestamp} :
    Respects (On books Bookkeeping) (recordWaste input now) := by
  dsimp only [recordWaste]
  infer_instance

instance consumeIngredients_books {orderItemId : Id} {ingredients : List ConsumedIngredient}
    {now : Timestamp} :
    Respects (On books Bookkeeping) (consumeIngredients orderItemId ingredients now) where
  step before result after committed := by
    have consistent := consumeIngredients_consistent.step committed
    simp only [consumeIngredients, commits_bind, commits_findMany, commits_require,
      commits_deleteMany, commits_createMany] at committed
    obtain ⟨_, _, ⟨rfl, rfl⟩, _, before, ⟨-, rfl⟩, _, middle, looped, _, _, ⟨-, rfl⟩,
      _, _, ⟨snapshots, -, rfl⟩, posted⟩ := committed
    obtain ⟨positive, rfl⟩ := commits_createTransactions posted
    obtain ⟨-, sameTransactions⟩ := accounts_eq (Keeps.eq accounts looped)
    refine Bookkeeping.of_books consistent (congrArg (· ++ _) sameTransactions) fun _ => ?_
    rw [← List.flatMap_pure_eq_map]
    change Books _ _ middle.items
    refine Books.forEach (fun ingredient member before after ran => ?_) looped
    refine Books.updateExpecting ran (fun row own => ?_) fun item found passed => ?_
    · rw [List.mem_singleton.mp own]
    · exact .cons (positive _ (List.mem_map_of_mem member)) nofun (.nil _)

end InventoryConsumption

namespace InventoryMovement

instance applyMovement_books {movement : StockMovement} {now : Timestamp} :
    Respects (On books Bookkeeping) (applyMovement movement now) where
  step before result after committed := by
    have consistent := applyMovement_consistent.step committed
    simp only [applyMovement, commits_bind, commits_ensureActiveItemExists,
      InventoryPolicy.toPositiveDecimal, commits_require, commits_pure] at committed
    obtain ⟨item, _, ⟨found, active, rfl⟩, _, _, ⟨_, _, ⟨positive, rfl⟩, rfl, rfl⟩, unitCost,
      before, priced, _, middle, moved, posted⟩ := committed
    cases Respects.step (R := Eq) priced
    obtain ⟨-, rfl⟩ := commits_createTransactions posted
    obtain ⟨-, sameTransactions⟩ := accounts_eq (Keeps.eq accounts moved)
    refine Bookkeeping.of_books consistent (congrArg (· ++ _) sameTransactions) fun holds => ?_
    have same : item.id = movement.inventoryItemId := Table.find?_key found
    have own {row entry : InventoryTransaction} (named : entry.inventoryItemId = item.id)
        (member : row ∈ [entry]) : row.inventoryItemId = item.id := by
      rw [List.mem_singleton.mp member, named]
    rw [← same] at found
    cases type : movement.type with
    | exportTx =>
        rw [type] at moved
        change Books _ _ middle.items
        refine Books.updateExpecting moved (fun row => own same.symm) fun row _ _ => ?_
        exact .cons positive nofun (.nil _)
    | importTx =>
        rw [type] at moved
        change Books _ _ middle.items
        refine Books.updateExpecting moved (fun row => own same.symm) fun row read _ => ?_
        obtain rfl : item = row := Option.some.inj (found.symm.trans read)
        exact .cons positive (fun _ => ⟨holds.stock_nonneg found, rfl⟩) (.nil _)

end InventoryMovement

namespace PurchaseReceiptService

/-- The ledger row of a posted line. -/
def receiptRow (receivedAt : Timestamp) (line : PurchaseReceiptItem) : InventoryTransaction where
  type := .importTx
  quantity := line.quantity
  unitPrice := some line.unitPrice
  totalAmount := some line.totalAmount
  transactionDate := receivedAt
  inventoryItemId := line.inventoryItemId
  purchaseReceiptItemId := some line.id

instance postDraft_books {catalog : Catalog} {id employeeId : Id}
    {expectedUpdatedAt now : Timestamp} :
    Respects (On books Bookkeeping) (postDraft catalog id employeeId expectedUpdatedAt now) where
  step before result after committed := by
    have consistent := postDraft_consistent.step committed
    simp only [postDraft, commits_bind, commits_findUniqueOrFail, commits_require, commits_findMany,
      commits_updateExpecting] at committed
    obtain ⟨receipt, _, ⟨-, rfl⟩, _, _, ⟨-, rfl⟩, _, _, ⟨-, rfl⟩, _, _, ⟨-, rfl⟩, lines, _,
      ⟨-, rfl⟩, _, before, ⟨-, rfl⟩, found, _, itemsRead, _, _, ⟨-, rfl⟩, _, middle, looped,
      posted⟩ := committed
    obtain ⟨positive, rfl⟩ := commits_createTransactions posted
    obtain ⟨all, rfl⟩ := itemsRead.collect_forall₂ fun line _ item store read =>
      commits_findUniqueOrFail.mp read
    obtain ⟨-, sameTransactions⟩ := accounts_eq (Keeps.eq accounts looped)
    refine Bookkeeping.of_books consistent (congrArg (· ++ _) sameTransactions) fun holds => ?_
    have rows : (lines.zip found).flatMap (fun pair => [receiptRow receipt.receivedAt pair.1]) =
        lines.map (receiptRow receipt.receivedAt) := by
      conv_rhs => rw [← List.map_fst_zip all.length_eq.le, List.map_map]
      exact List.map_eq_flatMap.symm
    suffices each : ∀ pair ∈ lines.zip found, ∀ start store,
        Commits (postLine pair.1 pair.2) start () store →
        Books [receiptRow receipt.receivedAt pair.1] start.items store.items by
      have booked := Books.forEach each looped
      rwa [rows] at booked
    intro pair member start store ran
    have read : readFor _ pair.1 pair.2 := (List.forall₂_iff_zip.mp all).2 member
    have quantity : 0 < pair.1.quantity :=
      positive _ (List.mem_map_of_mem (List.of_mem_zip member).1)
    have same : pair.2.id = pair.1.inventoryItemId := Table.find?_key read
    simp only [postLine, commits_bind, commits_require] at ran
    obtain ⟨_, _, ⟨-, rfl⟩, updated⟩ := ran
    refine Books.updateExpecting updated (fun row own => ?_) fun item _ passed => ?_
    · rw [List.mem_singleton.mp own]
      exact same.symm
    · -- the item is as it was read before the loop
      simp only [Bool.and_eq_true, decide_eq_true_eq] at passed
      have carried : item.carrying = pair.2.carrying := by
        rw [InventoryItem.carrying, passed.1.2, passed.2]
        rfl
      rw [carried]
      refine .cons quantity (fun _ => ⟨holds.stock_nonneg read, rfl⟩) ?_
      exact .nil _

end PurchaseReceiptService

namespace InventoryItemService

/-- A new item has its own rows only. -/
theorem insertItem_books {item : InventoryItem} {now : Timestamp}
    (reserved : item.reservedStock = 0) (nonneg : 0 ≤ item.stock) :
    Respects (On books Bookkeeping) (insertItem item now) where
  step before result after committed := by
    have consistent := (insertItem_consistent reserved nonneg).step committed
    simp only [insertItem, commits_bind, commits_create, commits_when] at committed
    obtain ⟨_, _, ⟨items, inserted, rfl⟩, opening⟩ := committed
    change before.items.insert? item = some items at inserted
    have others {id : Id} {old : InventoryItem} (found : before.items.find? id = some old) :
        item.id ≠ id ∧ items.find? id = some old := by
      have fresh : item.id ≠ id := fun same =>
        Table.insert?_isSome.mp (Option.isSome_of_mem inserted) old (Table.mem_of_find? found)
          ((Table.find?_key found).trans same.symm)
      rw [Table.find?_insert? inserted, if_neg fresh]
      exact ⟨fresh, found⟩
    rcases opening with ⟨-, posted⟩ | ⟨-, rfl⟩
    · obtain ⟨-, rfl⟩ := commits_createTransactions posted
      refine Bookkeeping.of_books consistent rfl fun _ id old found => ?_
      obtain ⟨fresh, still⟩ := others found
      refine ⟨old, still, ?_⟩
      rw [rowsOf_eq_nil fun row member => by rwa [List.mem_singleton.mp member]]
      exact .nil old.carrying
    · refine Bookkeeping.of_books consistent (List.append_nil _).symm fun _ id old found => ?_
      exact ⟨old, (others found).2, .nil old.carrying⟩

end InventoryItemService

namespace StocktakeService

/-- The ledger row of a line that differs. -/
def stocktakeRow (transactionDate : Timestamp) (entry : CountedLine) : InventoryTransaction where
  type := entry.type
  quantity := entry.difference.natAbs
  unitPrice := some entry.item.averageUnitCost
  totalAmount := some (calculateInventoryValue entry.difference.natAbs entry.item.averageUnitCost)
  transactionDate
  inventoryItemId := entry.item.id
  stocktakeItemId := some entry.line.id

theorem flatMap_stocktakeRow (counted : List CountedLine) (transactionDate : Timestamp) :
    counted.flatMap (fun entry => if entry.difference ≠ 0 then
      [stocktakeRow transactionDate entry] else []) = pendingMovements counted transactionDate := by
  induction counted with
  | nil => rfl
  | cons head tail inductionHypothesis =>
      rw [List.flatMap_cons, inductionHypothesis]
      by_cases differs : head.difference ≠ 0
      · simp [pendingMovements, differs, stocktakeRow]
      · simp [pendingMovements, differs]

/-- The count accounts for the stock with the row of its difference. -/
theorem explains_stocktakeRow {entry : CountedLine} {item : InventoryItem} (now : Timestamp)
    (expected : item.stock = entry.line.expectedQuantity) :
    Explains item.carrying (if entry.difference ≠ 0 then [stocktakeRow now entry] else [])
      { item.carrying with stock := entry.countedQuantity } := by
  have counted : entry.difference = entry.countedQuantity - item.stock := by
    rw [CountedLine.difference, expected]
  by_cases differs : entry.difference ≠ 0
  · have moved : entry.countedQuantity =
        item.stock + entry.type.signed entry.difference.natAbs := by
      simp only [CountedLine.type]
      split
      · simp only [InventoryTxType.signed]
        lia
      · simp only [InventoryTxType.signed]
        lia
    rw [if_pos differs, moved]
    refine .cons ?_ ?_ ?_
    · exact Int.natCast_pos.mpr (Int.natAbs_pos.mpr differs)
    · intro priced
      simp [InventoryTransaction.isPriced, stocktakeRow] at priced
    · have unpriced : (stocktakeRow now entry).isPriced = false := by
        simp [InventoryTransaction.isPriced, stocktakeRow]
      rw [Carrying.post, unpriced]
      exact .nil _
  · rw [if_neg differs]
    have same : entry.countedQuantity = item.stock := by
      lia
    rw [same]
    exact .nil _

instance postDraft_books {id employeeId : Id} {expectedCounts : Option (List StocktakeCount)}
    {now : Timestamp} :
    Respects (On books Bookkeeping) (postDraft id employeeId expectedCounts now) where
  step before result after committed := by
    have consistent := postDraft_consistent.step committed
    simp only [postDraft, commits_bind, commits_findUniqueOrFail, commits_require, commits_findMany,
      commits_updateExpecting] at committed
    obtain ⟨_, _, ⟨-, rfl⟩, _, _, ⟨-, rfl⟩, lines, _, ⟨-, rfl⟩, _, before, ⟨-, rfl⟩, counted, _,
      read, _, start, checked, _, _, ⟨-, rfl⟩, _, middle, looped, posted⟩ := committed
    obtain ⟨-, rfl⟩ := commits_createTransactions posted
    obtain ⟨all, rfl⟩ := read.collect_forall₂ fun line _ counted store ran =>
      commits_readCountedLine ran
    cases Respects.step (R := Eq) checked
    obtain ⟨-, sameTransactions⟩ := accounts_eq (Keeps.eq accounts looped)
    refine Bookkeeping.of_books consistent (congrArg (· ++ _) sameTransactions) fun _ => ?_
    suffices each : ∀ entry ∈ counted, ∀ start store, Commits (postLine entry) start () store →
        Books (if entry.difference ≠ 0 then [stocktakeRow now entry] else [])
          start.items store.items by
      have booked := Books.forEach each looped
      rwa [flatMap_stocktakeRow] at booked
    intro entry _ start store ran
    have updated : ∃ between, Commits (setStock entry) start () between ∧
        store.items = between.items := by
      simp only [postLine, commits_bind] at ran
      obtain ⟨_, _, checked, _, between, updated, marked⟩ := ran
      cases Respects.step (R := Eq) checked
      exact ⟨between, updated, Keeps.eq items marked⟩
    obtain ⟨between, updated, same⟩ := updated
    rw [same]
    refine Books.updateExpecting updated (fun row own => ?_) fun item _ passed => ?_
    · split at own
      · rw [List.mem_singleton.mp own]
        rfl
      · exact (List.not_mem_nil own).elim
    · simp only [Bool.and_eq_true, decide_eq_true_eq] at passed
      exact explains_stocktakeRow now passed.1.2

end StocktakeService

end CoffeeShop
