import CoffeeShop.Inventory.Item
import CoffeeShop.Inventory.Movement
import CoffeeShop.Inventory.PurchaseReceipt
import CoffeeShop.Inventory.Shift
import CoffeeShop.Inventory.Stocktake

/-!
Agreement of the stock with its ledger and with the reservations.

The stock of an item is what the ledger has of it, its reserved stock is what the
reservation rows hold, and the stock covers the reserved stock.  Every service that
moves a quantity writes the rows that account for the move.
-/

namespace CoffeeShop

open Transaction InventoryStore

/-- The quantity as the stock of its item sees it. -/
def InventoryTxType.signed : InventoryTxType → Quantity → Quantity
  | .importTx, quantity => quantity
  | .exportTx, quantity => -quantity

/-- The quantities of the ledger rows of one type of an item. -/
def ledgerQuantity (transactions : List InventoryTransaction) (type : InventoryTxType) (id : Id) :
    Quantity :=
  ((transactions.filter fun row => row.type = type && row.inventoryItemId = id).map
    (·.quantity)).sum

/-- What was imported of an item less what was exported. -/
def ledgerStock (transactions : List InventoryTransaction) (id : Id) : Quantity :=
  ledgerQuantity transactions .importTx id - ledgerQuantity transactions .exportTx id

/-- What the reservation rows of an item hold. -/
def heldStock (reservations : Table InventoryReservation.key) (id : Id) : Quantity :=
  reservations.sumWhere (fun row => row.inventoryItemId = id) (·.quantity)

def InventoryTransaction.entry (row : InventoryTransaction) : Id × Quantity :=
  (row.inventoryItemId, row.type.signed row.quantity)

def InventoryReservation.entry (row : InventoryReservation) : Id × Quantity :=
  (row.inventoryItemId, row.quantity)

theorem ledgerStock_eq (transactions : List InventoryTransaction) (id : Id) :
    ledgerStock transactions id = GroupedSum.total (transactions.map (·.entry)) id := by
  unfold ledgerStock ledgerQuantity
  induction transactions with
  | nil => rfl
  | cons head tail inductionHypothesis =>
      rw [List.map_cons, GroupedSum.total_cons, ← inductionHypothesis]
      by_cases same : head.inventoryItemId = id
      · cases type : head.type with
        | importTx =>
            simp [InventoryTransaction.entry, InventoryTxType.signed, same, type]
            lia
        | exportTx =>
            simp [InventoryTransaction.entry, InventoryTxType.signed, same, type]
            lia
      · simp [InventoryTransaction.entry, same]

theorem ledgerStock_append (transactions rows : List InventoryTransaction) (id : Id) :
    ledgerStock (transactions ++ rows) id =
      ledgerStock transactions id + GroupedSum.total (rows.map (·.entry)) id := by
  simp only [ledgerStock_eq, List.map_append, GroupedSum.total_append]

theorem heldStock_eq (reservations : Table InventoryReservation.key) (id : Id) :
    heldStock reservations id = GroupedSum.total (reservations.rows.map (·.entry)) id := by
  rw [heldStock, Table.sumWhere_eq, Table.sum, GroupedSum.total, List.map_map]
  simp [Function.comp_def, InventoryReservation.entry]

theorem heldStock_insertAll {before after : Table InventoryReservation.key}
    {rows : List InventoryReservation} (inserted : before.insertAll? rows = some after) (id : Id) :
    heldStock after id = heldStock before id + GroupedSum.total (rows.map (·.entry)) id := by
  simp only [heldStock_eq, Table.rows_insertAll? inserted, List.map_append,
    GroupedSum.total_append]

theorem heldStock_delete (reservations : Table InventoryReservation.key)
    (condition : InventoryReservation → Bool) (id : Id) :
    heldStock (reservations.delete condition) id =
      heldStock reservations id +
        -GroupedSum.total ((reservations.select condition).map (·.entry)) id := by
  simp only [heldStock, Table.sumWhere_eq, Table.sum_delete, GroupedSum.total, List.map_map]
  simp [Function.comp_def, InventoryReservation.entry, Int.sub_eq_add_neg]

/-- No item has more reserved than in stock. -/
def Covered (items : Table InventoryItem.id) : Prop :=
  ∀ id item, items.find? id = some item → item.reservedStock ≤ item.stock

structure StockConsistent (items : Table InventoryItem.id)
    (reservations : Table InventoryReservation.key) (transactions : List InventoryTransaction) :
    Prop where
  ledger : ∀ id item, items.find? id = some item → item.stock = ledgerStock transactions id
  held : ∀ id item, items.find? id = some item → item.reservedStock = heldStock reservations id
  covered : Covered items
  holds : ∀ row ∈ reservations, 0 < row.quantity ∧ Active items row.inventoryItemId
  posts : ∀ row ∈ transactions, ∃ item, items.find? row.inventoryItemId = some item

def InventoryStore.Consistent (store : InventoryStore) : Prop :=
  StockConsistent store.items store.reservations store.transactions

namespace StockConsistent

variable {items items' : Table InventoryItem.id}
variable {reservations reservations' : Table InventoryReservation.key}
variable {transactions transactions' : List InventoryTransaction}

theorem heldStock_nonneg (consistent : StockConsistent items reservations transactions) (id : Id) :
    0 ≤ heldStock reservations id := by
  rw [heldStock_eq]
  refine GroupedSum.total_nonneg (fun entry membership => ?_) id
  obtain ⟨row, inTable, rfl⟩ := List.mem_map.mp membership
  exact (consistent.holds row inTable).1.le

theorem heldStock_pos (consistent : StockConsistent items reservations transactions)
    {row : InventoryReservation} (membership : row ∈ reservations) :
    0 < heldStock reservations row.inventoryItemId := by
  rw [heldStock_eq]
  refine (consistent.holds row membership).1.trans_le
    (GroupedSum.le_total_of_mem (fun entry inRows => ?_)
      (List.mem_map_of_mem (f := (·.entry)) membership))
  obtain ⟨other, inTable, rfl⟩ := List.mem_map.mp inRows
  exact (consistent.holds other inTable).1.le

/-- The quantities, the reservations and the ledger move by the same amounts. -/
theorem shift {stock reserved : Id → Quantity}
    (consistent : StockConsistent items reservations transactions)
    (moves : Shift stock reserved items items')
    (ledger : ∀ id, ledgerStock transactions' id = ledgerStock transactions id + stock id)
    (held : ∀ id, heldStock reservations' id = heldStock reservations id + reserved id)
    (covered : Covered items')
    (holds : ∀ row ∈ reservations', 0 < row.quantity ∧ Active items row.inventoryItemId)
    (posts : ∀ row ∈ transactions', ∃ item, items.find? row.inventoryItemId = some item) :
    StockConsistent items' reservations' transactions' where
  ledger id new found := by
    obtain ⟨old, before, stockMoves, -, -⟩ := moves.back id new found
    rw [stockMoves, ledger, consistent.ledger id old before]
  held id new found := by
    obtain ⟨old, before, -, reservedMoves, -⟩ := moves.back id new found
    rw [reservedMoves, held, consistent.held id old before]
  covered := covered
  holds row membership := by
    obtain ⟨positive, active⟩ := holds row membership
    exact ⟨positive, moves.active_iff.mp active⟩
  posts row membership := by
    obtain ⟨old, before⟩ := posts row membership
    exact moves.forth row.inventoryItemId old before

/-- An item that nothing refers to yet has neither ledger rows nor reservations. -/
theorem fresh (consistent : StockConsistent items reservations transactions) {id : Id}
    (missing : items.find? id = none) :
    ledgerStock transactions id = 0 ∧ heldStock reservations id = 0 := by
  constructor
  · rw [ledgerStock_eq]
    refine GroupedSum.total_eq_zero fun entry membership same => ?_
    obtain ⟨row, inLedger, rfl⟩ := List.mem_map.mp membership
    obtain ⟨item, found⟩ := consistent.posts row inLedger
    rw [show row.inventoryItemId = id from same, missing] at found
    exact nomatch found
  · rw [heldStock_eq]
    refine GroupedSum.total_eq_zero fun entry membership same => ?_
    obtain ⟨row, inTable, rfl⟩ := List.mem_map.mp membership
    obtain ⟨-, item, found, -⟩ := consistent.holds row inTable
    rw [show row.inventoryItemId = id from same, missing] at found
    exact nomatch found

/-- A new item with the ledger rows of its opening stock. -/
theorem insert (consistent : StockConsistent items reservations transactions)
    {item : InventoryItem} (inserted : items.insert? item = some items')
    (reserved : item.reservedStock = 0) (nonneg : 0 ≤ item.stock) {rows : List InventoryTransaction}
    (own : ∀ row ∈ rows, row.inventoryItemId = item.id)
    (opening : item.stock = GroupedSum.total (rows.map (·.entry)) item.id) :
    StockConsistent items' reservations (transactions ++ rows) := by
  have missing : items.find? item.id = none :=
    Table.find?_eq_none.mpr (Table.rows_insert? inserted).2
  obtain ⟨noLedger, noHeld⟩ := consistent.fresh missing
  have kept {id : Id} {old : InventoryItem} (found : items.find? id = some old) :
      items'.find? id = some old := by
    have differs : item.id ≠ id := fun same => by
      rw [← same, missing] at found
      exact nomatch found
    rw [Table.find?_insert? inserted, if_neg differs, found]
  constructor
  · intro id found atId
    rw [Table.find?_insert? inserted] at atId
    rw [ledgerStock_append]
    by_cases same : item.id = id
    · rw [if_pos same] at atId
      cases atId
      subst same
      rw [noLedger, opening]
      simp
    · rw [if_neg same] at atId
      have others : GroupedSum.total (rows.map (·.entry)) id = 0 := by
        refine GroupedSum.total_eq_zero fun entry membership equal => same ?_
        obtain ⟨row, inRows, rfl⟩ := List.mem_map.mp membership
        exact (own row inRows).symm.trans equal
      rw [others, consistent.ledger id found atId, Int.add_zero]
  · intro id found atId
    rw [Table.find?_insert? inserted] at atId
    by_cases same : item.id = id
    · rw [if_pos same] at atId
      cases atId
      rw [← same, noHeld, reserved]
    · rw [if_neg same] at atId
      exact consistent.held id found atId
  · intro id found atId
    rw [Table.find?_insert? inserted] at atId
    by_cases same : item.id = id
    · rw [if_pos same] at atId
      cases atId
      rw [reserved]
      exact nonneg
    · rw [if_neg same] at atId
      exact consistent.covered id found atId
  · intro row membership
    obtain ⟨positive, old, found, active⟩ := consistent.holds row membership
    exact ⟨positive, old, kept found, active⟩
  · intro row membership
    rcases List.mem_append.mp membership with old | added
    · obtain ⟨holder, found⟩ := consistent.posts row old
      exact ⟨holder, kept found⟩
    · rw [own row added]
      exact ⟨item, by rw [Table.find?_insert? inserted, if_pos rfl]⟩

end StockConsistent

/-- A shift that adds to the stock and takes from the reserved stock. -/
theorem Covered.shift {items items' : Table InventoryItem.id} {stock reserved : Id → Quantity}
    (covered : Covered items) (moves : Shift stock reserved items items')
    (adds : ∀ id, 0 ≤ stock id) (takes : ∀ id, reserved id ≤ 0) : Covered items' := by
  intro id new found
  obtain ⟨old, before, stockMoves, reservedMoves, -⟩ := moves.back id new found
  have below := covered id old before
  have added := adds id
  have taken := takes id
  lia

end CoffeeShop
