import CoffeeShop.Footprints
import CoffeeShop.Orders.Selections

/-!
The availability check of order lines agrees with the reservation of their ingredients.

The check reads each ingredient once, the reservation takes them one after the other.  The
totals of different ingredients are in different rows, so what is taken for one does not
change what the next one finds.
-/

namespace CoffeeShop

open Transaction InventoryStore SalesStore OrdersService MenuOptionSelection

/-- `$transaction`: the database as it was if the program fails. -/
def transaction (program : Transact Unit) (database : Database) : Database :=
  match program database with
  | .ok (_, after) => after
  | .error _ => database

namespace InventoryConsumption

/-- An active item has the quantity available. -/
def isAvailable (catalog : Catalog) (items : Table InventoryItem.id) (total : Id × Quantity) :
    Bool :=
  (items.find? total.1).any fun item =>
    item.deletedAt.isNone && catalog.isActiveInventoryCategory item.categoryId &&
      catalog.isActiveUnit item.unitId && total.2 ≤ item.stock - item.reservedStock

/-- What the lines of an order need. -/
def requirementsOf (plans : List PlannedItem) : List InventoryRequirement :=
  plans.flatMap fun plan => plan.recipe.map fun line =>
    { inventoryItemId := line.inventoryItemId, quantity := line.quantity * plan.item.quantity }

/-- The order items of the lines and their recipes, as `addOrderItemsInTransaction` stores them. -/
def createLines (plans : List PlannedItem) : Transact Unit :=
  salesTx do
    insertItems (plans.map (·.item))
    createMany recipeIngredient (plans.flatMap fun plan => recipeRows plan.item.id plan.recipe)
      (.constraint "OrderItemRecipeIngredient_pkey")

section Holding

variable {catalog : Catalog} {store after : InventoryStore} {total : Id × Quantity}
variable {totals : List (Id × Quantity)} {rows : List InventoryReservation} {result : Unit}

theorem commits_holdTotal : Commits (holdTotal catalog total) store result after ↔
    isAvailable catalog store.items total = true ∧ after = { store with
      items := store.items.update
        (fun item => item.id = total.1 && (item.deletedAt.isNone &&
          total.2 ≤ item.stock - item.reservedStock && catalog.isActiveUnit item.unitId &&
            catalog.isActiveInventoryCategory item.categoryId))
        (fun item => { item with reservedStock := item.reservedStock + total.2 })
        (by intro; rfl) } := by
  rw [holdTotal, commits_updateExpecting, isAvailable, Option.any_eq_true]
  refine and_congr (exists_congr fun item => and_congr_right fun _ => ?_) Iff.rfl
  simp only [Bool.and_eq_true]
  tauto

/-- What is held of one item does not change what another has available. -/
theorem isAvailable_held (committed : Commits (holdTotal catalog total) store result after)
    {other : Id × Quantity} (differs : total.1 ≠ other.1) :
    isAvailable catalog after.items other = isAvailable catalog store.items other := by
  obtain ⟨-, rfl⟩ := commits_holdTotal.mp committed
  unfold isAvailable
  rw [Table.find?_update]
  cases found : store.items.find? other.1 with
  | none => rfl
  | some item =>
      have apart : item.id ≠ total.1 := by
        rw [Table.find?_key found]
        exact differs.symm
      simp [apart]

theorem reservations_holdTotals
    (committed : Commits (forEach totals fun total => holdTotal catalog total) store result after) :
    after.reservations = store.reservations := by
  induction totals generalizing store with
  | nil => rw [commits_forEach_nil.mp committed]
  | cons total rest inductionHypothesis =>
      obtain ⟨middle, head, tail⟩ := commits_forEach_cons.mp committed
      rw [inductionHypothesis tail, (commits_holdTotal.mp head).2]

/-- The totals can be held one after the other exactly if each is available before. -/
theorem exists_commits_holdTotals (distinct : (totals.map Prod.fst).Nodup) :
    (∃ after, Commits (forEach totals fun total => holdTotal catalog total) store () after) ↔
      ∀ total ∈ totals, isAvailable catalog store.items total = true := by
  induction totals generalizing store with
  | nil => simp
  | cons total rest inductionHypothesis =>
      rw [List.map_cons, List.nodup_cons] at distinct
      have step {middle : InventoryStore}
          (held : Commits (holdTotal catalog total) store () middle) :
          (∀ other ∈ rest, isAvailable catalog middle.items other = true) ↔
            ∀ other ∈ rest, isAvailable catalog store.items other = true := by
        refine forall₂_congr fun other inRest => ?_
        rw [isAvailable_held held fun equal =>
          distinct.1 (List.mem_map.mpr ⟨other, inRest, equal.symm⟩)]
      rw [List.forall_mem_cons]
      constructor
      · rintro ⟨after, committed⟩
        obtain ⟨middle, head, tail⟩ := commits_forEach_cons.mp committed
        refine ⟨(commits_holdTotal.mp head).1, (step head).mp ?_⟩
        exact (inductionHypothesis distinct.2).mp ⟨after, tail⟩
      · rintro ⟨first, others⟩
        have head : Commits (holdTotal catalog total) store () _ :=
          commits_holdTotal.mpr ⟨first, rfl⟩
        obtain ⟨after, tail⟩ := (inductionHypothesis distinct.2).mpr ((step head).mpr others)
        exact ⟨after, commits_forEach_cons.mpr ⟨_, head, tail⟩⟩

/-- The reservations of new order items can be created exactly if their totals are available. -/
theorem exists_commits_createReservations (positive : ∀ row ∈ rows, 0 < row.quantity)
    (distinct : (rows.map InventoryReservation.key).Nodup)
    (free : ∀ row ∈ rows, ∀ other ∈ store.reservations, other.key ≠ row.key) :
    (∃ after, Commits (createReservations catalog rows) store () after) ↔
      ∀ total ∈ totalRequirements (rows.map (·.requirement)),
        isAvailable catalog store.items total = true := by
  have nodup : ((totalRequirements (rows.map (·.requirement))).map Prod.fst).Nodup :=
    GroupedSum.nodup_ofList _
  rw [← exists_commits_holdTotals nodup]
  simp only [createReservations, commits_bind, commits_require, commits_createMany]
  constructor
  · rintro ⟨after, _, middle, held, -⟩
    exact ⟨middle, held⟩
  · rintro ⟨middle, held⟩
    obtain ⟨inserted, adds⟩ := Table.exists_insertAll? distinct free
    refine ⟨_, (), middle, held, (), middle, ⟨positive, rfl⟩, inserted, ?_, rfl⟩
    rw [inventoryReservation_get, reservations_holdTotals held]
    exact adds

end Holding

section Lines

variable {created : Database} {condition : OrderItem → Bool} {now : Timestamp}

/-- The order items that `reservePendingItems` takes. -/
def pendingItems (created : Database) (condition : OrderItem → Bool) : List OrderItem :=
  created.sales.items.select fun item => condition item && item.serveStatus = .pending

theorem commits_missingReservations {store after : InventoryStore} {items : List OrderItem}
    {required : OrderItem → List InventoryReservation} {results : List (List InventoryReservation)}
    (unheld : ∀ item ∈ items, ∀ row ∈ store.reservations, row.orderItemId ≠ item.id) :
    Commits (collect items fun item => do
        let held ← findMany inventoryReservation fun row => row.orderItemId = item.id
        missingReservations held (required item)) store results after ↔
      results = items.map required ∧ after = store := by
  induction items generalizing results after with
  | nil => rw [commits_collect_nil, List.map_nil]
  | cons item rest inductionHypothesis =>
      rw [List.forall_mem_cons] at unheld
      have none : store.reservations.select (fun row => row.orderItemId = item.id) = [] := by
        refine List.filter_eq_nil_iff.mpr fun row member => ?_
        simpa using unheld.1 row member
      simp only [commits_collect_cons, commits_bind, commits_findMany, inventoryReservation_get]
      constructor
      · rintro ⟨first, middle, others, ⟨_, _, ⟨rfl, rfl⟩, own⟩, tail, rfl⟩
        rw [none] at own
        obtain ⟨rfl, rfl⟩ := commits_pure.mp own
        obtain ⟨rfl, rfl⟩ := (inductionHypothesis unheld.2).mp tail
        exact ⟨rfl, rfl⟩
      · rintro ⟨rfl, rfl⟩
        refine ⟨required item, after, rest.map required, ⟨_, _, ⟨rfl, rfl⟩, ?_⟩,
          (inductionHypothesis unheld.2).mpr ⟨rfl, rfl⟩, rfl⟩
        rw [none]
        exact commits_pure.mpr ⟨rfl, rfl⟩

/-- Items with a recipe of their own and nothing held are reserved as a whole. -/
theorem exists_commits_reservePendingItems
    (snapshotted : ∀ item ∈ pendingItems created condition, item.recipeSnapshottedAt.isSome = true)
    (unheld : ∀ item ∈ pendingItems created condition, ∀ row ∈ created.inventory.reservations,
      row.orderItemId ≠ item.id) :
    (∃ after, Commits (reservePendingItems condition now) created () after) ↔
      ∃ after, Commits (createReservations created.catalog
        ((pendingItems created condition).flatMap fun item =>
          requiredReservations item (snapshotRecipe created.sales item.id)))
        created.inventory () after := by
  have recent : ((pendingItems created condition).filter fun item =>
      item.recipeSnapshottedAt.isNone) = [] := by
    refine List.filter_eq_nil_iff.mpr fun item member => ?_
    rw [Option.isNone_iff_eq_none, ← ne_eq, Option.ne_none_iff_isSome]
    exact snapshotted item member
  have recipes : (pendingItems created condition).map (fun item =>
      requiredReservations item (recipeOf created.catalog created.sales item)) =
        (pendingItems created condition).map fun item =>
          requiredReservations item (snapshotRecipe created.sales item.id) :=
    List.map_congr_left fun item member => by rw [recipeOf, if_pos (snapshotted item member)]
  rw [pendingItems] at *
  simp only [reservePendingItems, commits_bind, commits_get, commits_salesTx, commits_inventoryTx]
  constructor
  · rintro ⟨after, _, _, ⟨rfl, rfl⟩, _, _, ⟨_, legacy, rfl⟩, _, ⟨missing, _, collected, ran⟩, rfl⟩
    rw [recent] at legacy
    obtain ⟨-, rfl⟩ := commits_pure.mp legacy
    obtain ⟨rfl, rfl⟩ := (commits_missingReservations unheld).mp collected
    rw [recipes] at ran
    exact ⟨_, ran⟩
  · rintro ⟨after, ran⟩
    refine ⟨_, _, _, ⟨rfl, rfl⟩, (), _, ⟨created.sales, ?_, rfl⟩, after, ⟨_, _,
      (commits_missingReservations unheld).mpr ⟨rfl, rfl⟩, ?_⟩, rfl⟩
    · rw [recent]
      exact commits_pure.mpr ⟨rfl, rfl⟩
    · rw [recipes]
      exact ran

end Lines

section Orders

variable {before start created final : Database} {catalog : Catalog} {plan : PlannedItem}
variable {plans : List PlannedItem} {orderSessionId : Id} {now : Timestamp}
variable {condition : OrderItem → Bool}

/-- The constraints of the menu tables. -/
structure MenuChecked (catalog : Catalog) : Prop where
  distinct : ∀ menuItem ∈ catalog.menuItems, OptionsDistinct menuItem
  base : ∀ menuItem ∈ catalog.menuItems, ∀ line ∈ menuItem.ingredients, 0 < line.quantity
  options : ∀ menuItem ∈ catalog.menuItems, ∀ option ∈ optionsOf menuItem.optionGroups,
    ∀ line ∈ option.ingredients, 0 < line.quantity

/-- Recipes and reservations are of order items, as their foreign keys ask. -/
structure LinesReferenced (database : Database) : Prop where
  recipes : ∀ row ∈ database.sales.recipes,
    ∃ item ∈ database.sales.items, item.id = row.orderItemId
  reservations : ∀ row ∈ database.inventory.reservations,
    ∃ item ∈ database.sales.items, item.id = row.orderItemId

/-- A line that is to be prepared, with a recipe of its own. -/
structure IsLine (plan : PlannedItem) : Prop where
  pending : plan.item.serveStatus = .pending
  snapshotted : plan.item.recipeSnapshottedAt.isSome = true
  quantity : 0 < plan.item.quantity
  recipe : ∀ line ∈ plan.recipe, 0 < line.quantity

theorem pos_combineRecipe {lines : List RecipeLine} (positive : ∀ line ∈ lines, 0 < line.quantity) :
    ∀ line ∈ combineRecipe lines, 0 < line.quantity := by
  intro line member
  obtain ⟨entry, inGroups, rfl⟩ := List.mem_map.mp member
  have total := GroupedSum.total_of_mem (GroupedSum.nodup_ofList _) inGroups
  rw [GroupedSum.total_ofList] at total
  obtain ⟨first, isFirst, same⟩ := List.mem_map.mp
    (GroupedSum.mem_keys_ofList.mp (List.mem_map_of_mem inGroups))
  have nonneg : ∀ other ∈ lines.map (fun line => (line.inventoryItemId, line.quantity)),
      0 ≤ other.2 := List.forall_mem_map.mpr fun line inLines => (positive line inLines).le
  have covered := GroupedSum.le_total_of_mem nonneg isFirst
  obtain ⟨line, inLines, rfl⟩ := List.mem_map.mp isFirst
  rw [same, total] at covered
  exact lt_of_lt_of_le (positive line inLines) covered

theorem isLine_planItem {line : OrderItemInput × Option OnlineOrderQuote}
    (checked : MenuChecked catalog)
    (committed : Commits (planItem catalog orderSessionId now line) start plan final) :
    IsLine plan := by
  simp only [planItem, commits_bind, commits_orFail, commits_require, commits_inventoryTx,
    commits_freshId, commits_pure] at committed
  obtain ⟨menuItem, _, ⟨found, rfl⟩, _, _, ⟨-, rfl⟩, selection, _, ⟨_, resolved, rfl⟩, _, _,
    ⟨-, rfl⟩, _, _, ⟨rfl, rfl⟩, rfl, rfl⟩ := committed
  have listed := Table.mem_of_find? found
  obtain ⟨-, rfl, -⟩ := (commits_resolveMenuSelection (checked.distinct menuItem listed)).mp resolved
  refine ⟨rfl, rfl, line.1.quantity_pos, pos_combineRecipe fun recipeLine member => ?_⟩
  obtain base | chosenLine := List.mem_append.mp member
  · exact checked.base menuItem listed recipeLine base
  · obtain ⟨entry, isChosen, inOption⟩ := List.mem_flatMap.mp chosenLine
    obtain ⟨group, isGroup, selected⟩ := List.mem_flatMap.mp isChosen
    obtain ⟨option, isOption, rfl⟩ := List.mem_map.mp selected
    exact checked.options menuItem listed option
      (List.mem_flatMap.mpr ⟨group, isGroup, (List.mem_filter.mp isOption).1⟩) recipeLine inOption

/-- Planning only reads the stock. -/
instance keeps_planItem {line : OrderItemInput × Option OnlineOrderQuote} :
    Keeps Database.inventory (planItem catalog orderSessionId now line) where
  step start plan final committed := by
    simp only [planItem, commits_bind, commits_orFail, commits_require, commits_inventoryTx,
      commits_freshId, commits_pure] at committed
    obtain ⟨_, _, ⟨-, rfl⟩, _, _, ⟨-, rfl⟩, _, _, ⟨_, resolved, rfl⟩, _, _, ⟨-, rfl⟩, _, _,
      ⟨-, rfl⟩, -, rfl⟩ := committed
    exact Respects.step (R := Eq) resolved

theorem commits_createLines (stored : Commits (createLines plans) start () created) :
    ∃ items recipes, start.sales.items.insertAll? (plans.map (·.item)) = some items ∧
      start.sales.recipes.insertAll? (plans.flatMap fun plan =>
        recipeRows plan.item.id plan.recipe) = some recipes ∧
      created = { start with sales := { start.sales with items, recipes } } := by
  simp only [createLines, insertItems, commits_salesTx, commits_bind, commits_require,
    commits_createMany] at stored
  obtain ⟨_, ⟨_, _, ⟨_, _, ⟨-, rfl⟩, _, _, ⟨-, rfl⟩, items, inserted, rfl⟩, recipes, recorded,
    rfl⟩, rfl⟩ := stored
  exact ⟨items, recipes, inserted, recorded, rfl⟩

/-- The recipe rows of one of several lines. -/
theorem filter_recipeRows (distinct : (plans.map (·.item.id)).Nodup) (member : plan ∈ plans) :
    (plans.flatMap fun plan => recipeRows plan.item.id plan.recipe).filter
      (fun row => row.orderItemId = plan.item.id) = recipeRows plan.item.id plan.recipe := by
  have own (other : PlannedItem) : (recipeRows other.item.id other.recipe).filter
      (fun row => row.orderItemId = plan.item.id) =
        if other.item.id = plan.item.id then recipeRows other.item.id other.recipe else [] := by
    by_cases same : other.item.id = plan.item.id
    · rw [if_pos same]
      exact List.filter_eq_self.mpr (List.forall_mem_map.mpr fun _ _ => decide_eq_true same)
    · rw [if_neg same]
      refine List.filter_eq_nil_iff.mpr (List.forall_mem_map.mpr fun _ _ => ?_)
      simpa using same
  induction plans with
  | nil => cases member
  | cons first rest inductionHypothesis =>
      rw [List.map_cons, List.nodup_cons] at distinct
      rw [List.flatMap_cons, List.filter_append, own]
      obtain rfl | later := List.mem_cons.mp member
      · have none : (rest.flatMap fun other => recipeRows other.item.id other.recipe).filter
            (fun row => row.orderItemId = plan.item.id) = [] := by
          refine List.filter_eq_nil_iff.mpr fun row inRows => ?_
          obtain ⟨other, isOther, isRow⟩ := List.mem_flatMap.mp inRows
          obtain ⟨line, -, rfl⟩ := List.mem_map.mp isRow
          have apart : other.item.id ≠ plan.item.id := fun equal =>
            distinct.1 (List.mem_map.mpr ⟨other, isOther, equal⟩)
          simpa [recipeRows] using apart
        rw [if_pos rfl, none, List.append_nil]
      · have apart : first.item.id ≠ plan.item.id := fun equal =>
          distinct.1 (List.mem_map.mpr ⟨plan, later, equal.symm⟩)
        rw [if_neg apart, List.nil_append]
        exact inductionHypothesis distinct.2 later

theorem requirement_requiredReservations (item : OrderItem) (recipe : List RecipeLine) :
    (requiredReservations item recipe).map (·.requirement) = recipe.map fun line =>
      { inventoryItemId := line.inventoryItemId, quantity := line.quantity * item.quantity } :=
  List.map_map

/-- The check before the order agrees with the reservation once its lines are stored. -/
theorem canFulfill_iff_reserves (referenced : LinesReferenced before)
    {lines : List (OrderItemInput × Option OnlineOrderQuote)}
    (checked : MenuChecked before.catalog)
    (planned : Commits (collect lines (planItem before.catalog orderSessionId now)) before plans
      start)
    (stored : Commits (createLines plans) start () created)
    (onThem : ∀ item ∈ created.sales.items,
      condition item = true ↔ item ∈ plans.map (·.item)) :
    (canFulfill before.catalog before.inventory.items (requirementsOf plans) = true ↔
      ∃ after, Commits (reservePendingItems condition now) created () after) ∧
    ((¬∃ after, Commits (reservePendingItems condition now) created () after) →
      (transaction (do createLines plans; reservePendingItems condition now) start).inventory =
        before.inventory) := by
  have inventory := Keeps.eq Database.inventory planned
  have catalog := Keeps.eq Database.catalog planned
  have sales := Keeps.eq Database.sales planned
  obtain ⟨items, recipes, inserted, recorded, rfl⟩ := commits_createLines stored
  dsimp only at onThem
  have areLines : ∀ plan ∈ plans, IsLine plan := by
    intro plan member
    obtain ⟨_, -, isLine⟩ := exists_left (planned.forall₂_collect
      fun _ _ _ _ _ ran => isLine_planItem checked ran) member
    exact isLine
  obtain ⟨distinct, fresh⟩ := Table.nodup_insertAll? inserted
  obtain ⟨keys, -⟩ := Table.nodup_insertAll? recorded
  rw [List.map_map] at distinct
  rw [sales] at fresh
  have isFresh {plan : PlannedItem} (member : plan ∈ plans) {id : Id}
      (used : ∃ item ∈ before.sales.items, item.id = id) : id ≠ plan.item.id := by
    obtain ⟨item, isItem, rfl⟩ := used
    exact fresh plan.item (List.mem_map_of_mem member) item isItem
  have pending : pendingItems { start with sales := { start.sales with items, recipes } }
      condition = plans.map (·.item) := by
    have old : start.sales.items.rows.filter
        (fun item => condition item && item.serveStatus = .pending) = [] := by
      refine List.filter_eq_nil_iff.mpr fun item isOld passed => ?_
      have isItem : item ∈ items := (Table.mem_insertAll? inserted).mpr (.inl isOld)
      obtain ⟨plan, member, rfl⟩ := List.mem_map.mp
        ((onThem item isItem).mp (Bool.and_eq_true_iff.mp passed).1)
      rw [sales] at isOld
      exact isFresh member ⟨plan.item, isOld, rfl⟩ rfl
    rw [pendingItems, Table.select, Table.rows_insertAll? inserted, List.filter_append, old,
      List.nil_append, List.filter_eq_self]
    intro item isNew
    have chosen := (onThem item ((Table.mem_insertAll? inserted).mpr (.inr isNew))).mpr isNew
    obtain ⟨plan, member, rfl⟩ := List.mem_map.mp isNew
    simp [chosen, (areLines plan member).pending]
  have recipe {plan : PlannedItem} (member : plan ∈ plans) :
      snapshotRecipe { start.sales with items, recipes } plan.item.id = plan.recipe := by
    have old : start.sales.recipes.rows.filter (fun row => row.orderItemId = plan.item.id) = [] := by
      rw [sales]
      refine List.filter_eq_nil_iff.mpr fun row isOld => ?_
      simpa using isFresh member (referenced.recipes row isOld)
    rw [snapshotRecipe, Table.select, Table.rows_insertAll? recorded, List.filter_append, old,
      List.nil_append, filter_recipeRows distinct member, recipeRows, List.map_map]
    exact List.map_id _
  have rows : (plans.map (·.item)).flatMap (fun item => requiredReservations item
      (snapshotRecipe { start.sales with items, recipes } item.id)) =
        plans.flatMap fun plan => requiredReservations plan.item plan.recipe := by
    rw [List.flatMap_map]
    exact List.flatMap_congr fun plan member => by rw [recipe member]
  have unheld {plan : PlannedItem} (member : plan ∈ plans) {row : InventoryReservation}
      (isRow : row ∈ before.inventory.reservations) : row.orderItemId ≠ plan.item.id :=
    isFresh member (referenced.reservations row isRow)
  constructor
  · rw [exists_commits_reservePendingItems, pending, rows, exists_commits_createReservations]
    · have requirements : (plans.flatMap fun plan => requiredReservations plan.item plan.recipe).map
          (·.requirement) = requirementsOf plans := by
        rw [List.map_flatMap]
        exact List.flatMap_congr fun plan _ => requirement_requiredReservations _ _
      rw [requirements, canFulfill, List.all_eq_true]
      dsimp only
      rw [inventory, catalog]
      exact Iff.rfl
    · intro row isRow
      obtain ⟨plan, member, own⟩ := List.mem_flatMap.mp isRow
      obtain ⟨line, isLine, rfl⟩ := List.mem_map.mp own
      exact mul_pos ((areLines plan member).recipe line isLine)
        (Int.natCast_pos.mpr (areLines plan member).quantity)
    · rw [List.map_flatMap] at keys ⊢
      refine (List.flatMap_congr fun plan _ => ?_).subst keys
      rw [recipeRows, requiredReservations, List.map_map, List.map_map]
      rfl
    · intro row isRow other isOther equal
      obtain ⟨plan, member, own⟩ := List.mem_flatMap.mp isRow
      obtain ⟨line, isLine, rfl⟩ := List.mem_map.mp own
      dsimp only at isOther
      rw [inventory] at isOther
      exact unheld member isOther (congrArg Prod.fst equal)
    · rw [pending]
      intro item isItem
      obtain ⟨plan, member, rfl⟩ := List.mem_map.mp isItem
      exact (areLines plan member).snapshotted
    · rw [pending]
      intro item isItem row isRow
      obtain ⟨plan, member, rfl⟩ := List.mem_map.mp isItem
      dsimp only at isRow
      rw [inventory] at isRow
      exact unheld member isRow
  · intro fails
    have aborted : ¬∃ after, Commits (do createLines plans; reservePendingItems condition now) start
        () after := by
      rintro ⟨after, committed⟩
      obtain ⟨_, middle, storing, reserving⟩ := commits_bind.mp committed
      obtain ⟨-, rfl⟩ := commits_functional stored storing
      exact fails ⟨after, reserving⟩
    unfold transaction
    split
    · next after committed => exact (aborted ⟨after, committed⟩).elim
    · exact inventory

/-- Two lines of the sample coffee, which share their beans. -/
def twoLines (more : Nat) : List (OrderItemInput × Option OnlineOrderQuote) :=
  [({ menuItemId := 0, quantity := 30, note := none, optionIds := [], quantity_pos := by decide },
    none),
    ({ menuItemId := 0, quantity := more + 1, note := some "Decaf", optionIds := [],
       quantity_pos := more.succ_pos }, none)]

theorem menuChecked_invoiced : MenuChecked Database.invoiced.catalog := by
  have checks : Database.invoiced.catalog.menuItems.rows.all (fun menuItem =>
      menuItem.ingredients.all (0 < ·.quantity) && menuItem.optionGroups.isEmpty) = true := by
    decide +kernel
  simp only [List.all_eq_true, Bool.and_eq_true, decide_eq_true_eq, List.isEmpty_iff] at checks
  refine ⟨fun menuItem member => ?_, fun menuItem member => (checks menuItem member).1,
    fun menuItem member option isOption => ?_⟩
  · rw [OptionsDistinct, (checks menuItem member).2]
    exact List.nodup_nil
  · rw [(checks menuItem member).2] at isOption
    cases isOption

theorem linesReferenced_invoiced : LinesReferenced Database.invoiced := by
  have recipes : Database.invoiced.sales.recipes.rows.all (fun row =>
      Database.invoiced.sales.items.rows.any (·.id = row.orderItemId)) = true := by decide +kernel
  have reservations : Database.invoiced.inventory.reservations.rows.all (fun row =>
      Database.invoiced.sales.items.rows.any (·.id = row.orderItemId)) = true := by decide +kernel
  simp only [List.all_eq_true, List.any_eq_true, decide_eq_true_eq] at recipes reservations
  exact ⟨recipes, reservations⟩

theorem onThem_createLines (stored : Commits (createLines plans) start () created) :
    ∀ item ∈ created.sales.items,
      decide (item.id ∈ plans.map (·.item.id)) = true ↔ item ∈ plans.map (·.item) := by
  obtain ⟨items, recipes, inserted, -, rfl⟩ := commits_createLines stored
  intro item isItem
  rw [decide_eq_true_eq]
  constructor
  · intro isId
    obtain ⟨plan, member, same⟩ := List.mem_map.mp isId
    have isNew := List.mem_map_of_mem member (f := PlannedItem.item)
    have stored := (Table.mem_insertAll? inserted).mpr (.inr isNew)
    rw [Table.eq_of_key_eq isItem stored same.symm]
    exact isNew
  · intro isNew
    obtain ⟨plan, member, rfl⟩ := List.mem_map.mp isNew
    exact List.mem_map.mpr ⟨plan, member, rfl⟩

/-- The lines are planned and stored, and the check has answered so. -/
theorem exists_stored {more : Nat} {answer : Bool}
    (ran : ((do
      let plans ← collect (twoLines more) (planItem Database.invoiced.catalog 1 5)
      createLines plans
      pure plans : Transact (List PlannedItem)) Database.invoiced).toOption.any (fun outcome =>
        canFulfill Database.invoiced.catalog Database.invoiced.inventory.items
          (requirementsOf outcome.1) = answer) = true) :
    ∃ plans start created, Commits (collect (twoLines more) (planItem Database.invoiced.catalog 1 5))
        Database.invoiced plans start ∧ Commits (createLines plans) start () created ∧
      canFulfill Database.invoiced.catalog Database.invoiced.inventory.items (requirementsOf plans) =
        answer := by
  obtain ⟨plans, created, committed, answered⟩ := exists_commits_of_any ran
  simp only [commits_bind, commits_pure] at committed
  obtain ⟨_, start, planned, _, _, stored, rfl, rfl⟩ := committed
  exact ⟨plans, start, created, planned, stored, of_decide_eq_true answered⟩

/-- The free beans last for 53 cups: thirty and 23 of them are reserved, and of thirty and 24 none,
although each of the two lines could be made alone. -/
theorem canFulfill_iff_reserves_cups :
    (∃ plans start created after,
      Commits (collect (twoLines 22) (planItem Database.invoiced.catalog 1 5)) Database.invoiced plans
        start ∧
      Commits (createLines plans) start () created ∧
      Commits (reservePendingItems (fun item => item.id ∈ plans.map (·.item.id)) 5) created ()
        after) ∧
    ∃ plans start created,
      Commits (collect (twoLines 23) (planItem Database.invoiced.catalog 1 5)) Database.invoiced plans
        start ∧
      Commits (createLines plans) start () created ∧
      (¬∃ after, Commits (reservePendingItems (fun item => item.id ∈ plans.map (·.item.id)) 5)
        created () after) ∧
      (transaction (do
        createLines plans
        reservePendingItems (fun item => item.id ∈ plans.map (·.item.id)) 5) start).inventory =
          Database.invoiced.inventory := by
  constructor
  · obtain ⟨plans, start, created, planned, stored, fulfilled⟩ :=
      @exists_stored 22 true (by decide +kernel)
    obtain ⟨after, reserved⟩ := (canFulfill_iff_reserves linesReferenced_invoiced
      menuChecked_invoiced planned stored (onThem_createLines stored)).1.mp fulfilled
    exact ⟨plans, start, created, after, planned, stored, reserved⟩
  · obtain ⟨plans, start, created, planned, stored, unfulfilled⟩ :=
      @exists_stored 23 false (by decide +kernel)
    obtain ⟨agrees, kept⟩ := canFulfill_iff_reserves linesReferenced_invoiced menuChecked_invoiced
      planned stored (onThem_createLines stored)
    rw [unfulfilled, Bool.false_eq_true, false_iff] at agrees
    exact ⟨plans, start, created, planned, stored, agrees, kept agrees⟩

end Orders

end InventoryConsumption

end CoffeeShop
