import CoffeeShop.Inventory.Consistency

/-!
The transactions of the inventory services keep the stock consistent.
-/

namespace CoffeeShop

open Transaction InventoryStore

/-- The rows that account for the quantities of the items. -/
def InventoryStore.accounts (store : InventoryStore) :
    Table InventoryReservation.key × List InventoryTransaction :=
  (store.reservations, store.transactions)

theorem accounts_eq {before after : InventoryStore} (same : after.accounts = before.accounts) :
    after.reservations = before.reservations ∧ after.transactions = before.transactions :=
  Prod.mk.inj same

section Frames

instance : Apart items inventoryReservation := ⟨fun _ _ => rfl⟩
instance : Apart items ingredientSnapshot := ⟨fun _ _ => rfl⟩
instance : Apart items stocktakeItem := ⟨fun _ _ => rfl⟩
instance : Apart accounts inventoryItem := ⟨fun _ _ => rfl⟩
instance : Apart accounts stocktakeItem := ⟨fun _ _ => rfl⟩
instance : Apart Consistent ingredientSnapshot := ⟨fun _ _ => rfl⟩
instance : Apart Consistent inventoryWaste := ⟨fun _ _ => rfl⟩
instance : Apart Consistent purchaseReceipt := ⟨fun _ _ => rfl⟩
instance : Apart Consistent purchaseReceiptItem := ⟨fun _ _ => rfl⟩
instance : Apart Consistent stocktake := ⟨fun _ _ => rfl⟩
instance : Apart Consistent stocktakeItem := ⟨fun _ _ => rfl⟩

end Frames

/-- An update that leaves every row covered. -/
theorem Covered.updateExpecting {wanted : Id} {guard : InventoryItem → Bool}
    {change : InventoryItem → InventoryItem} {keeps : ∀ row, (change row).id = row.id}
    {failure : Failure}
    (covers : ∀ row, guard row → (change row).reservedStock ≤ (change row).stock) :
    Respects (On items (On Covered Implies))
      (updateExpecting inventoryItem wanted guard change failure keeps) where
  step before result after committed covered id item found := by
    obtain ⟨-, rfl⟩ := commits_updateExpecting.mp committed
    change (before.items.update _ change keeps).find? id = some item at found
    simp only [Table.find?_update, Option.map_eq_some_iff] at found
    obtain ⟨old, atBefore, changed⟩ := found
    subst changed
    split
    · rename_i passed
      simp only [Bool.and_eq_true] at passed
      exact covers old passed.2
    · exact covered id old atBefore

/-- What `createTransactions` checks and writes. -/
theorem commits_createTransactions {rows : List InventoryTransaction}
    {before after : InventoryStore} {result : Unit}
    (committed : Commits (createTransactions rows) before result after) :
    (∀ row ∈ rows, 0 < row.quantity) ∧
      after = { before with transactions := before.transactions ++ rows } := by
  simp only [createTransactions, commits_bind, commits_get, commits_require,
    commits_modify] at committed
  obtain ⟨_, _, ⟨rfl, rfl⟩, _, _, ⟨-, rfl⟩, _, _, ⟨-, rfl⟩, _, _, ⟨positive, rfl⟩, rfl⟩ := committed
  exact ⟨positive, rfl⟩

namespace InventoryConsumption

/-- The totals of the requirements are the totals of the rows. -/
theorem total_totalRequirements (rows : List InventoryReservation) (id : Id) :
    GroupedSum.total (totalRequirements (rows.map (·.requirement))) id =
      GroupedSum.total (rows.map (·.entry)) id := by
  rw [totalRequirements, GroupedSum.total_ofList, List.map_map]
  rfl

theorem mem_totalRequirements {rows : List InventoryReservation} {row : InventoryReservation}
    (membership : row ∈ rows) :
    ∃ entry ∈ totalRequirements (rows.map (·.requirement)), entry.1 = row.inventoryItemId := by
  have key : row.inventoryItemId ∈
      (totalRequirements (rows.map (·.requirement))).map Prod.fst := by
    rw [totalRequirements, GroupedSum.mem_keys_ofList, List.map_map, List.map_map]
    exact List.mem_map.mpr ⟨row, membership, rfl⟩
  obtain ⟨entry, inTotals, same⟩ := List.mem_map.mp key
  exact ⟨entry, inTotals, same⟩

theorem holdTotal_shift {catalog : Catalog} {total : Id × Quantity} {before after : InventoryStore}
    (committed : Commits (holdTotal catalog total) before () after) :
    Active before.items total.1 ∧
      Shift (Shift.single total.1 0) (Shift.single total.1 total.2) before.items after.items := by
  refine ⟨?_, Shift.updateExpecting committed fun row _ => ⟨by simp, rfl, rfl⟩⟩
  obtain ⟨⟨row, found, passed⟩, -⟩ := commits_updateExpecting.mp committed
  simp only [Bool.and_eq_true, Option.isNone_iff_eq_none] at passed
  exact ⟨row, found, passed.1.1.1⟩

instance holdTotal_covered {catalog : Catalog} {total : Id × Quantity} :
    Respects (On items (On Covered Implies)) (holdTotal catalog total) :=
  Covered.updateExpecting fun row passed => by
    simp only [Bool.and_eq_true, decide_eq_true_eq] at passed
    lia

instance holdTotal_accounts {catalog : Catalog} {total : Id × Quantity} :
    Keeps accounts (holdTotal catalog total) := by
  unfold holdTotal
  infer_instance

instance createReservations_consistent {catalog : Catalog} {rows : List InventoryReservation} :
    Preserves Consistent (createReservations catalog rows) where
  step before result after committed consistent := by
    simp only [createReservations, commits_bind, commits_require, commits_createMany] at committed
    obtain ⟨_, _, looped, _, middle, ⟨positive, rfl⟩, next, inserted, rfl⟩ := committed
    obtain ⟨sameReservations, sameTransactions⟩ := accounts_eq (Keeps.eq accounts looped)
    have covered : Covered middle.items :=
      Respects.step (R := On items (On Covered Implies)) looped consistent.covered
    have moves := Shift.forEach (fun total _ _ _ ran => (holdTotal_shift ran).2) looped
    have active := Shift.active_of_forEach (fun total _ _ _ ran => holdTotal_shift ran) looped
    change middle.reservations.insertAll? rows = some next at inserted
    rw [sameReservations] at inserted
    refine StockConsistent.shift consistent moves (fun id => ?_) (fun id => ?_) covered
      (fun row membership => ?_) (fun row membership => ?_)
    · simp [sameTransactions]
    · change heldStock next id = _
      rw [heldStock_insertAll inserted, ← total_totalRequirements, List.map_id']
    · rcases (Table.mem_insertAll? inserted).mp membership with held | added
      · exact consistent.holds row held
      · obtain ⟨entry, inTotals, same⟩ := mem_totalRequirements added
        exact ⟨positive row added, same ▸ active entry inTotals⟩
    · exact consistent.posts row (sameTransactions ▸ membership)

theorem releaseTotal_shift {total : Id × Quantity} {before after : InventoryStore}
    (committed : Commits (releaseTotal total) before () after) :
    Shift (Shift.single total.1 0) (Shift.single total.1 (-total.2)) before.items after.items :=
  Shift.updateExpecting committed fun row _ => ⟨by simp, rfl, rfl⟩

instance releaseTotal_accounts {total : Id × Quantity} : Keeps accounts (releaseTotal total) := by
  unfold releaseTotal
  infer_instance

instance releaseReservations_consistent {orderItemIds : List Id} :
    Preserves Consistent (releaseReservations orderItemIds) where
  step before result after committed consistent := by
    simp only [releaseReservations, commits_bind, commits_findMany, commits_deleteMany,
      commits_pure] at committed
    obtain ⟨_, before, ⟨rfl, rfl⟩, _, middle, looped, _, _, ⟨-, rfl⟩, -, rfl⟩ := committed
    obtain ⟨sameReservations, sameTransactions⟩ := accounts_eq (Keeps.eq accounts looped)
    have moves := Shift.forEach (fun total _ _ _ ran => releaseTotal_shift ran) looped
    have released (id : Id) : GroupedSum.total ((totalRequirements
          ((before.reservations.select fun row => row.orderItemId ∈ orderItemIds).map
            (·.requirement))).map fun total => (total.1, -total.2)) id =
        -GroupedSum.total ((before.reservations.select fun row =>
          row.orderItemId ∈ orderItemIds).map (·.entry)) id := by
      rw [GroupedSum.total_neg, List.map_id', total_totalRequirements]
    refine StockConsistent.shift consistent moves (fun id => ?_) (fun id => ?_)
      (consistent.covered.shift moves (fun id => ?_) fun id => ?_) (fun row membership => ?_)
      fun row membership => ?_
    · simp [sameTransactions]
    · change heldStock (middle.reservations.delete _) id = _
      rw [sameReservations, heldStock_delete]
      exact congrArg (heldStock before.reservations id + ·) (released id).symm
    · simp
    · refine (released id).trans_le (Int.neg_nonpos_of_nonneg
        (GroupedSum.total_nonneg (fun entry inRows => ?_) id))
      obtain ⟨row, selected, rfl⟩ := List.mem_map.mp inRows
      exact (consistent.holds row (Table.mem_select.mp selected).1).1.le
    · have kept := (Table.mem_delete.mp membership).1
      exact consistent.holds row (sameReservations ▸ kept)
    · exact consistent.posts row (sameTransactions ▸ membership)

section Consumption

variable {held : List InventoryReservation} {ingredients : List ConsumedIngredient}

theorem consumeIngredient_shift {ingredient : ConsumedIngredient} {before after : InventoryStore}
    (committed : Commits (consumeIngredient held ingredient) before () after) :
    Active before.items ingredient.inventoryItemId ∧
      Shift (Shift.single ingredient.inventoryItemId (-ingredient.totalQuantity))
        (Shift.single ingredient.inventoryItemId
          (-heldQuantity held ingredient.inventoryItemId)) before.items after.items := by
  refine ⟨?_, Shift.updateExpecting committed fun row _ => ⟨rfl, rfl, rfl⟩⟩
  obtain ⟨⟨row, found, passed⟩, -⟩ := commits_updateExpecting.mp committed
  simp only [Bool.and_eq_true, Option.isNone_iff_eq_none] at passed
  exact ⟨row, found, passed.1.1⟩

instance consumeIngredient_covered {ingredient : ConsumedIngredient} :
    Respects (On items (On Covered Implies)) (consumeIngredient held ingredient) :=
  Covered.updateExpecting fun row passed => by
    simp only [Bool.and_eq_true, decide_eq_true_eq] at passed
    lia

instance consumeIngredient_accounts {ingredient : ConsumedIngredient} :
    Keeps accounts (consumeIngredient held ingredient) := by
  unfold consumeIngredient
  infer_instance

theorem heldQuantity_of_mem (distinct : (held.map (·.inventoryItemId)).Nodup)
    {row : InventoryReservation} (membership : row ∈ held) :
    heldQuantity held row.inventoryItemId = row.quantity := by
  induction held with
  | nil => simp at membership
  | cons head tail inductionHypothesis =>
      rw [List.map_cons, List.nodup_cons] at distinct
      rcases List.mem_cons.mp membership with rfl | inTail
      · simp [heldQuantity]
      · have differs : head.inventoryItemId ≠ row.inventoryItemId := fun equal =>
          distinct.1 (equal ▸ List.mem_map_of_mem inTail)
        simpa [heldQuantity, List.find?_cons, differs] using
          inductionHypothesis distinct.2 inTail

theorem heldQuantity_of_not_mem {id : Id} (absent : id ∉ held.map (·.inventoryItemId)) :
    heldQuantity held id = 0 := by
  have missing : held.find? (fun row => row.inventoryItemId = id) = none := by
    rw [List.find?_eq_none]
    intro row membership same
    exact absent (List.mem_map.mpr ⟨row, membership, by simpa using same⟩)
  simp [heldQuantity, missing]

/-- The held rows of one item, without duplicates, sum up to the held quantity. -/
theorem total_held (distinct : (held.map (·.inventoryItemId)).Nodup) (id : Id) :
    GroupedSum.total (held.map (·.entry)) id = heldQuantity held id := by
  by_cases present : id ∈ held.map (·.inventoryItemId)
  · obtain ⟨row, membership, rfl⟩ := List.mem_map.mp present
    rw [heldQuantity_of_mem distinct membership]
    have keys : ((held.map (·.entry)).map Prod.fst).Nodup := by
      rw [List.map_map]
      exact distinct
    exact GroupedSum.total_of_mem keys (List.mem_map_of_mem (f := (·.entry)) membership)
  · rw [heldQuantity_of_not_mem present]
    refine GroupedSum.total_eq_zero fun entry inEntries same => present ?_
    obtain ⟨row, membership, rfl⟩ := List.mem_map.mp inEntries
    exact List.mem_map.mpr ⟨row, membership, same⟩

/-- Reservations that match the requirements hold the same inventory items. -/
theorem matchesHeld_subset {required : List InventoryRequirement}
    (matched : matchesHeld held required) (distinct : (required.map (·.inventoryItemId)).Nodup) :
    held.map (·.inventoryItemId) ⊆ required.map (·.inventoryItemId) := by
  simp only [matchesHeld, Bool.and_eq_true, decide_eq_true_eq, List.all_eq_true,
    List.any_eq_true] at matched
  obtain ⟨sameLength, all⟩ := matched
  have covered : required.map (·.inventoryItemId) ⊆ held.map (·.inventoryItemId) := by
    intro id membership
    obtain ⟨row, inRequired, rfl⟩ := List.mem_map.mp membership
    obtain ⟨hold, inHeld, same, -⟩ := all row inRequired
    exact List.mem_map.mpr ⟨hold, inHeld, same⟩
  have perm := (List.subperm_of_subset distinct covered).perm_of_length_le (by simp [sameLength])
  exact perm.symm.subset

/-- Over ingredients that name every held item once, the held quantities sum up to the held
rows. -/
theorem total_own (distinct : (ingredients.map (·.inventoryItemId)).Nodup)
    (unique : (held.map (·.inventoryItemId)).Nodup)
    (covered : held.map (·.inventoryItemId) ⊆ ingredients.map (·.inventoryItemId)) (id : Id) :
    GroupedSum.total (ingredients.map fun ingredient =>
        (ingredient.inventoryItemId, heldQuantity held ingredient.inventoryItemId)) id =
      GroupedSum.total (held.map (·.entry)) id := by
  rw [total_held unique]
  by_cases present : id ∈ ingredients.map (·.inventoryItemId)
  · obtain ⟨ingredient, membership, rfl⟩ := List.mem_map.mp present
    have keys : ((ingredients.map fun ingredient => (ingredient.inventoryItemId,
        heldQuantity held ingredient.inventoryItemId)).map Prod.fst).Nodup := by
      rw [List.map_map]
      exact distinct
    exact GroupedSum.total_of_mem keys (List.mem_map.mpr ⟨ingredient, membership, rfl⟩)
  · rw [heldQuantity_of_not_mem fun inHeld => present (covered inHeld)]
    refine GroupedSum.total_eq_zero fun entry inEntries same => present ?_
    obtain ⟨ingredient, membership, rfl⟩ := List.mem_map.mp inEntries
    exact List.mem_map.mpr ⟨ingredient, membership, same⟩

/-- The reservations of one order item name every inventory item once. -/
theorem nodup_held (reservations : Table InventoryReservation.key) (orderItemId : Id) :
    ((reservations.select fun row => row.orderItemId = orderItemId).map
      (·.inventoryItemId)).Nodup := by
  have keys : (reservations.select fun row => row.orderItemId = orderItemId).map
      InventoryReservation.key =
      ((reservations.select fun row => row.orderItemId = orderItemId).map
        (·.inventoryItemId)).map fun id => (orderItemId, id) := by
    rw [List.map_map]
    refine List.map_congr_left fun row selected => ?_
    have same : row.orderItemId = orderItemId := by simpa using (Table.mem_select.mp selected).2
    simp [InventoryReservation.key, same]
  have distinct := reservations.nodup_select fun row => row.orderItemId = orderItemId
  rw [keys] at distinct
  exact distinct.of_map _

/-- The ingredients of one order item that can be stored name every inventory item once. -/
theorem nodup_ingredients {orderItemId : Id} {now : Timestamp}
    {before after : Table OrderItemIngredientSnapshot.key}
    (inserted : before.insertAll? (ingredients.map (snapshotOf orderItemId now)) = some after) :
    (ingredients.map (·.inventoryItemId)).Nodup := by
  have distinct := (Table.nodup_insertAll? inserted).1
  rw [List.map_map] at distinct
  exact List.Nodup.of_map (fun id => (orderItemId, id)) (by rwa [List.map_map])

instance consumeIngredients_consistent {orderItemId : Id} {now : Timestamp} :
    Preserves Consistent (consumeIngredients orderItemId ingredients now) where
  step before result after committed consistent := by
    simp only [consumeIngredients, commits_bind, commits_findMany, commits_require,
      commits_deleteMany, commits_createMany] at committed
    obtain ⟨_, _, ⟨rfl, rfl⟩, _, before, ⟨agree, rfl⟩, _, middle, looped, _, _, ⟨-, rfl⟩,
      _, _, ⟨snapshots, stored, rfl⟩, posted⟩ := committed
    obtain ⟨-, rfl⟩ := commits_createTransactions posted
    obtain ⟨sameReservations, sameTransactions⟩ := accounts_eq (Keeps.eq accounts looped)
    have covered : Covered middle.items :=
      Respects.step (R := On items (On Covered Implies)) looped consistent.covered
    have moves := Shift.forEach (fun ingredient _ _ _ ran => (consumeIngredient_shift ran).2) looped
    have active := Shift.active_of_forEach (fun ingredient _ _ _ ran => consumeIngredient_shift ran)
      looped
    have distinct := nodup_ingredients stored
    have unique := nodup_held before.reservations orderItemId
    have named : (before.reservations.select fun row => row.orderItemId = orderItemId).map
        (·.inventoryItemId) ⊆ ingredients.map (·.inventoryItemId) := by
      rcases agree with none | matched
      · change before.reservations.select _ = [] at none
        simp [none]
      · have subset := matchesHeld_subset matched (by rwa [List.map_map])
        rwa [List.map_map] at subset
    refine StockConsistent.shift consistent moves (fun id => ?_) (fun id => ?_) covered
      (fun row membership => ?_) fun row membership => ?_
    · change ledgerStock (middle.transactions ++ _) id = _
      rw [sameTransactions, ledgerStock_append, List.map_map]
      rfl
    · change heldStock (middle.reservations.delete _) id = _
      rw [sameReservations, heldStock_delete, GroupedSum.total_neg]
      exact congrArg (heldStock before.reservations id + -·) (total_own distinct unique named id).symm
    · have kept := (Table.mem_delete.mp membership).1
      exact consistent.holds row (sameReservations ▸ kept)
    · rcases List.mem_append.mp membership with old | added
      · exact consistent.posts row (sameTransactions ▸ old)
      · obtain ⟨ingredient, inIngredients, rfl⟩ := List.mem_map.mp added
        obtain ⟨item, found, -⟩ := active ingredient inIngredients
        exact ⟨item, found⟩

end Consumption

instance recordWaste_consistent {input : WasteInput} {now : Timestamp} :
    Preserves Consistent (recordWaste input now) := by
  unfold recordWaste
  infer_instance

end InventoryConsumption

@[simp] theorem commits_ensureActiveItemExists {id : Id} {before after : InventoryStore}
    {item : InventoryItem} :
    Commits (ensureActiveItemExists id) before item after ↔
      before.items.find? id = some item ∧ item.deletedAt = none ∧ after = before := by
  simp only [ensureActiveItemExists, commits_bind, commits_findUniqueOrFail, commits_require,
    commits_pure, Option.isNone_iff_eq_none]
  constructor
  · rintro ⟨_, _, ⟨found, rfl⟩, _, _, ⟨active, rfl⟩, rfl, rfl⟩
    exact ⟨found, active, rfl⟩
  · rintro ⟨found, active, rfl⟩
    exact ⟨item, _, ⟨found, rfl⟩, (), _, ⟨active, rfl⟩, rfl, rfl⟩

namespace InventoryMovement

theorem moveStock_shift {type : InventoryTxType} {item : InventoryItem} {quantity : Quantity}
    {unitCost : Money} {before after : InventoryStore}
    (committed : Commits (moveStock type item quantity unitCost) before () after) :
    Shift (Shift.single item.id (type.signed quantity)) (Shift.single item.id 0)
      before.items after.items := by
  cases type with
  | importTx => exact Shift.updateExpecting committed fun row _ => ⟨rfl, by simp, rfl⟩
  | exportTx => exact Shift.updateExpecting committed fun row _ => ⟨rfl, by simp, rfl⟩

instance moveStock_accounts {type : InventoryTxType} {item : InventoryItem} {quantity : Quantity}
    {unitCost : Money} : Keeps accounts (moveStock type item quantity unitCost) := by
  cases type with
  | importTx =>
      dsimp only [moveStock, importStock]
      infer_instance
  | exportTx =>
      dsimp only [moveStock, exportStock]
      infer_instance

/-- An export leaves what is reserved, and an import only adds. -/
theorem moveStock_covered {type : InventoryTxType} {item : InventoryItem} {quantity : Quantity}
    {unitCost : Money} {before after : InventoryStore} (positive : 0 < quantity)
    (committed : Commits (moveStock type item quantity unitCost) before () after)
    (covered : Covered before.items) : Covered after.items := by
  cases type with
  | importTx =>
      refine covered.shift (moveStock_shift committed) (fun id => ?_) fun id => ?_
      · simp only [Shift.single, InventoryTxType.signed]
        split <;> lia
      · rw [Shift.single_zero]
  | exportTx =>
      have covers : Respects (On items (On Covered Implies)) (exportStock item quantity) :=
        Covered.updateExpecting fun row passed => by
          simp only [Bool.and_eq_true, decide_eq_true_eq] at passed
          lia
      exact covers.step committed covered

instance resolveUnitCost_reads {movement : StockMovement} {item : InventoryItem} :
    Respects Eq (resolveUnitCost movement item) := by
  unfold resolveUnitCost InventoryPolicy.toNonNegativeMoney
  split <;> infer_instance

instance applyMovement_consistent {movement : StockMovement} {now : Timestamp} :
    Preserves Consistent (applyMovement movement now) where
  step before result after committed consistent := by
    simp only [applyMovement, commits_bind, commits_ensureActiveItemExists,
      InventoryPolicy.toPositiveDecimal, commits_require, commits_pure] at committed
    obtain ⟨item, _, ⟨found, active, rfl⟩, _, _, ⟨_, _, ⟨positive, rfl⟩, rfl, rfl⟩, unitCost,
      before, priced, _, middle, moved, posted⟩ := committed
    cases Respects.step (R := Eq) priced
    obtain ⟨-, rfl⟩ := commits_createTransactions posted
    obtain ⟨sameReservations, sameTransactions⟩ := accounts_eq (Keeps.eq accounts moved)
    have same : item.id = movement.inventoryItemId := Table.find?_key found
    have moves := moveStock_shift moved
    have covered : Covered middle.items := moveStock_covered positive moved consistent.covered
    refine StockConsistent.shift consistent moves (fun id => ?_) (fun id => ?_) covered
      (fun row membership => ?_) fun row membership => ?_
    · change ledgerStock (middle.transactions ++ _) id = _
      rw [sameTransactions, ledgerStock_append]
      simp [InventoryTransaction.entry, Shift.single, same]
    · rw [Shift.single_zero, Int.add_zero]
      exact congrArg (heldStock · id) sameReservations
    · exact consistent.holds row (sameReservations ▸ membership)
    · rcases List.mem_append.mp membership with old | added
      · exact consistent.posts row (sameTransactions ▸ old)
      · rw [List.mem_singleton.mp added]
        exact ⟨item, found⟩

end InventoryMovement

namespace PurchaseReceiptService

/-- The items as read before the loop belong to the lines. -/
abbrev readFor (items : Table InventoryItem.id) (line : PurchaseReceiptItem)
    (item : InventoryItem) : Prop :=
  items.find? line.inventoryItemId = some item

theorem postLine_shift {line : PurchaseReceiptItem} {item : InventoryItem}
    {before after : InventoryStore} (committed : Commits (postLine line item) before () after) :
    Shift (Shift.single item.id line.quantity) (Shift.single item.id 0)
      before.items after.items := by
  simp only [postLine, commits_bind, commits_require] at committed
  obtain ⟨_, _, ⟨-, rfl⟩, updated⟩ := committed
  refine Shift.updateExpecting updated fun row passed => ?_
  simp only [Bool.and_eq_true, decide_eq_true_eq] at passed
  exact ⟨by simp [passed.1.2], by simp, rfl⟩

instance postLine_accounts {line : PurchaseReceiptItem} {item : InventoryItem} :
    Keeps accounts (postLine line item) := by
  dsimp only [postLine]
  infer_instance

/-- The lines with their items sum up to the lines. -/
theorem total_zip {items : Table InventoryItem.id} {lines : List PurchaseReceiptItem}
    {found : List InventoryItem} (all : List.Forall₂ (readFor items) lines found) (id : Id) :
    GroupedSum.total ((lines.zip found).map fun pair => (pair.2.id, pair.1.quantity)) id =
      GroupedSum.total (lines.map fun line => (line.inventoryItemId, line.quantity)) id := by
  induction all with
  | nil => rfl
  | cons read rest inductionHypothesis =>
      simp only [List.zip_cons_cons, List.map_cons, GroupedSum.total_cons, inductionHypothesis,
        Table.find?_key read]

instance postDraft_consistent {catalog : Catalog} {id employeeId : Id}
    {expectedUpdatedAt now : Timestamp} :
    Preserves Consistent (postDraft catalog id employeeId expectedUpdatedAt now) where
  step before result after committed consistent := by
    simp only [postDraft, commits_bind, commits_findUniqueOrFail, commits_require, commits_findMany,
      commits_updateExpecting] at committed
    obtain ⟨receipt, _, ⟨-, rfl⟩, _, _, ⟨-, rfl⟩, _, _, ⟨-, rfl⟩, _, _, ⟨-, rfl⟩, lines, _,
      ⟨-, rfl⟩, _, before, ⟨-, rfl⟩, found, _, itemsRead, _, _, ⟨-, rfl⟩, _, middle, looped,
      posted⟩ := committed
    obtain ⟨positive, rfl⟩ := commits_createTransactions posted
    obtain ⟨all, rfl⟩ := itemsRead.collect_forall₂ fun line _ item store read =>
      commits_findUniqueOrFail.mp read
    obtain ⟨sameReservations, sameTransactions⟩ := accounts_eq (Keeps.eq accounts looped)
    have moves := Shift.forEach (fun pair _ _ _ ran => postLine_shift ran) looped
    have adds (id : Id) : 0 ≤ GroupedSum.total
        (lines.map fun line => (line.inventoryItemId, line.quantity)) id := by
      refine GroupedSum.total_nonneg (fun entry membership => ?_) id
      obtain ⟨line, inLines, rfl⟩ := List.mem_map.mp membership
      exact (positive _ (List.mem_map.mpr ⟨line, inLines, rfl⟩)).le
    refine StockConsistent.shift consistent moves (fun id => ?_) (fun id => ?_)
      (consistent.covered.shift moves (fun id => ?_) fun id => ?_) (fun row membership => ?_)
      fun row membership => ?_
    · change ledgerStock (middle.transactions ++ _) id = _
      rw [sameTransactions, ledgerStock_append, total_zip all, List.map_map]
      rfl
    · rw [GroupedSum.total_zero, Int.add_zero]
      exact congrArg (heldStock · id) sameReservations
    · rw [total_zip all]
      exact adds id
    · rw [GroupedSum.total_zero]
    · exact consistent.holds row (sameReservations ▸ membership)
    · rcases List.mem_append.mp membership with old | added
      · exact consistent.posts row (sameTransactions ▸ old)
      · obtain ⟨line, inLines, rfl⟩ := List.mem_map.mp added
        obtain ⟨item, -, read⟩ := exists_right all inLines
        exact ⟨item, read⟩

end PurchaseReceiptService

namespace StocktakeService

theorem setStock_shift {counted : CountedLine} {before after : InventoryStore}
    (committed : Commits (setStock counted) before () after) :
    Shift (Shift.single counted.item.id counted.difference) (Shift.single counted.item.id 0)
      before.items after.items := by
  refine Shift.updateExpecting committed fun row passed => ?_
  simp only [Bool.and_eq_true, decide_eq_true_eq] at passed
  refine ⟨?_, by simp, rfl⟩
  simp only [CountedLine.difference, passed.1.2]
  lia

instance setStock_accounts {counted : CountedLine} : Keeps accounts (setStock counted) := by
  unfold setStock
  infer_instance

instance setStock_covered {counted : CountedLine} :
    Respects (On items (On Covered Implies)) (setStock counted) :=
  Covered.updateExpecting fun row passed => by
    simp only [Bool.and_eq_true, decide_eq_true_eq] at passed
    exact passed.2

instance assertPostable_reads {counted : CountedLine} {R : InventoryStore → InventoryStore → Prop}
    [IsPreorder InventoryStore R] : Respects R (assertPostable counted) := by
  dsimp only [assertPostable]
  infer_instance

theorem postLine_shift {counted : CountedLine} {before after : InventoryStore}
    (committed : Commits (postLine counted) before () after) :
    Shift (Shift.single counted.item.id counted.difference) (Shift.single counted.item.id 0)
      before.items after.items := by
  simp only [postLine, commits_bind] at committed
  obtain ⟨_, _, checked, _, middle, updated, marked⟩ := committed
  cases Respects.step (R := Eq) checked
  rw [show after.items = middle.items from Keeps.eq items marked]
  exact setStock_shift updated

instance postLine_accounts {counted : CountedLine} : Keeps accounts (postLine counted) := by
  unfold postLine
  infer_instance

instance postLine_covered {counted : CountedLine} :
    Respects (On items (On Covered Implies)) (postLine counted) := by
  unfold postLine
  infer_instance

/-- The ledger gets the difference of every line. -/
theorem entry_pendingMovements (counted : List CountedLine) (now : Timestamp) (id : Id) :
    GroupedSum.total ((pendingMovements counted now).map (·.entry)) id =
      GroupedSum.total (counted.map fun entry => (entry.item.id, entry.difference)) id := by
  refine .trans (congrArg (GroupedSum.total · id) ?_) GroupedSum.total_filter_ne_zero
  rw [pendingMovements, List.map_map]
  refine List.map_congr_left fun entry _ => ?_
  simp only [Function.comp_apply, InventoryTransaction.entry, CountedLine.type, Prod.mk.injEq,
    true_and]
  by_cases more : 0 < entry.difference
  · simp only [more, if_true, InventoryTxType.signed]
    lia
  · simp only [more, if_false, InventoryTxType.signed]
    lia

instance assertExpectedCounts_reads {lines : List StocktakeItem} {counts : List StocktakeCount} :
    Respects Eq (assertExpectedCounts lines counts) := by
  dsimp only [assertExpectedCounts, InventoryPolicy.assertNoDuplicateInventoryItems,
    InventoryPolicy.toNonNegativeDecimal]
  infer_instance

theorem commits_readCountedLine {line : StocktakeItem} {before after : InventoryStore}
    {counted : CountedLine} (committed : Commits (readCountedLine line) before counted after) :
    before.items.find? line.inventoryItemId = some counted.item ∧ after = before := by
  simp only [readCountedLine, commits_bind, commits_findUniqueOrFail, commits_orFail,
    commits_pure] at committed
  obtain ⟨item, _, ⟨found, rfl⟩, _, _, ⟨-, rfl⟩, rfl, rfl⟩ := committed
  exact ⟨found, rfl⟩

instance postDraft_consistent {id employeeId : Id} {expectedCounts : Option (List StocktakeCount)}
    {now : Timestamp} : Preserves Consistent (postDraft id employeeId expectedCounts now) where
  step before result after committed consistent := by
    simp only [postDraft, commits_bind, commits_findUniqueOrFail, commits_require, commits_findMany,
      commits_updateExpecting] at committed
    obtain ⟨_, _, ⟨-, rfl⟩, _, _, ⟨-, rfl⟩, lines, _, ⟨-, rfl⟩, _, before, ⟨-, rfl⟩, counted, _,
      read, _, start, checked, _, _, ⟨-, rfl⟩, _, middle, looped, posted⟩ := committed
    obtain ⟨-, rfl⟩ := commits_createTransactions posted
    obtain ⟨all, rfl⟩ := read.collect_forall₂ fun line _ counted store ran =>
      commits_readCountedLine ran
    cases Respects.step (R := Eq) checked
    obtain ⟨sameReservations, sameTransactions⟩ := accounts_eq (Keeps.eq accounts looped)
    have covered : Covered middle.items :=
      Respects.step (R := On items (On Covered Implies)) looped consistent.covered
    have moves := Shift.forEach (fun counted _ _ _ ran => postLine_shift ran) looped
    refine StockConsistent.shift consistent moves (fun id => ?_) (fun id => ?_) covered
      (fun row membership => ?_) fun row membership => ?_
    · change ledgerStock (middle.transactions ++ _) id = _
      rw [sameTransactions, ledgerStock_append, entry_pendingMovements]
      rfl
    · rw [GroupedSum.total_zero, Int.add_zero]
      exact congrArg (heldStock · id) sameReservations
    · exact consistent.holds row (sameReservations ▸ membership)
    · rcases List.mem_append.mp membership with old | added
      · exact consistent.posts row (sameTransactions ▸ old)
      · obtain ⟨entry, differs, rfl⟩ := List.mem_map.mp added
        obtain ⟨line, -, found⟩ := exists_left all (List.mem_of_mem_filter differs)
        exact ⟨entry.item, (Table.find?_key found).symm ▸ found⟩

end StocktakeService

namespace InventoryItemService

theorem insertItem_consistent {item : InventoryItem} {now : Timestamp}
    (reserved : item.reservedStock = 0) (nonneg : 0 ≤ item.stock) :
    Preserves Consistent (insertItem item now) where
  step before result after committed consistent := by
    simp only [insertItem, commits_bind, commits_create, commits_when] at committed
    obtain ⟨_, _, ⟨items', inserted, rfl⟩, ⟨opened, posted⟩ | ⟨empty, rfl⟩⟩ := committed
    · obtain ⟨-, rfl⟩ := commits_createTransactions posted
      refine consistent.insert inserted reserved nonneg (fun row membership => ?_) ?_
      · rw [List.mem_singleton.mp membership]
      · simp [InventoryTransaction.entry, InventoryTxType.signed]
    · have unstocked : item.stock = 0 := by lia
      have grown : StockConsistent items' before.reservations (before.transactions ++ []) :=
        consistent.insert inserted reserved nonneg (by simp) (by simp [unstocked])
      rw [List.append_nil] at grown
      exact grown

/-- The reservations keep an item with stock zero from having any. -/
theorem markDeleted_consistent {items : Table InventoryItem.id}
    {reservations : Table InventoryReservation.key} {transactions : List InventoryTransaction}
    (consistent : StockConsistent items reservations transactions) {item : InventoryItem} {id : Id}
    (found : items.find? id = some item) (empty : item.stock = 0) (now : Timestamp) :
    StockConsistent (items.update (fun row => row.id = id && true)
      fun row => { row with deletedAt := some now }) reservations transactions := by
  have free (row : InventoryReservation) (membership : row ∈ reservations) :
      row.inventoryItemId ≠ id := by
    intro same
    have positive := consistent.heldStock_pos membership
    rw [same, ← consistent.held id item found] at positive
    have covered := consistent.covered id item found
    lia
  have back {wanted : Id} {new : InventoryItem} (after : (items.update
      (fun row => row.id = id && true) fun row => { row with deletedAt := some now }).find? wanted =
        some new) : ∃ old, items.find? wanted = some old ∧ new.stock = old.stock ∧
          new.reservedStock = old.reservedStock := by
    simp only [Table.find?_update, Option.map_eq_some_iff] at after
    obtain ⟨old, before, rfl⟩ := after
    refine ⟨old, before, ?_⟩
    split <;> exact ⟨rfl, rfl⟩
  constructor
  · intro wanted new after
    obtain ⟨old, before, sameStock, -⟩ := back after
    rw [sameStock, consistent.ledger wanted old before]
  · intro wanted new after
    obtain ⟨old, before, -, sameReserved⟩ := back after
    rw [sameReserved, consistent.held wanted old before]
  · intro wanted new after
    obtain ⟨old, before, sameStock, sameReserved⟩ := back after
    rw [sameStock, sameReserved]
    exact consistent.covered wanted old before
  · intro row membership
    obtain ⟨positive, old, before, active⟩ := consistent.holds row membership
    have differs : old.id ≠ id := Table.find?_key before ▸ free row membership
    exact ⟨positive, old, by simp [before, differs], active⟩
  · intro row membership
    obtain ⟨old, before⟩ := consistent.posts row membership
    simp [before]

end InventoryItemService

end CoffeeShop
