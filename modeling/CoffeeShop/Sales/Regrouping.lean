import CoffeeShop.Sales.Quantities
import CoffeeShop.Sales.Servings

/-!
Splitting, merging and moving tables as a whole.

What is regrouped asks for the same ingredients as before, by lines that the kitchen
knows in their new quantities.  A request that names anything it may not move is refused
and changes nothing.
-/

namespace CoffeeShop

open Transaction InventoryConsumption OrdersService SalesStore SalesSteps

section Requirements

variable (catalog : Catalog) (inventoryItemId : Id)

/-- What a recipe takes of the ingredient. -/
def recipeQuantity (recipe : List RecipeLine) : Quantity :=
  ((recipe.filter fun line => line.inventoryItemId = inventoryItemId).map (·.quantity)).sum

/-- What the servings of the line take of the ingredient. -/
def OrderItem.requirement (sales : SalesStore) (among : Id → Bool) (item : OrderItem) : Quantity :=
  if among item.orderSessionId ∧ item.serveStatus ≠ .cancelled then
    recipeQuantity inventoryItemId (recipeOf catalog sales item) * item.quantity
  else 0

def SalesStore.totalRequirement (sales : SalesStore) (among : Id → Bool) : Quantity :=
  sales.items.weigh (OrderItem.requirement catalog inventoryItemId sales among)

def Dish.requirement (dish : Dish) : Quantity :=
  if dish.serveStatus = .cancelled then 0
  else recipeQuantity inventoryItemId (dish.recipe.getD (menuRecipe catalog dish.menuItemId))

variable {catalog inventoryItemId}

theorem OrderItem.dish_requirement (sales : SalesStore) (item : OrderItem) :
    (item.dish sales).requirement catalog inventoryItemId =
      if item.serveStatus = .cancelled then 0
      else recipeQuantity inventoryItemId (recipeOf catalog sales item) := by
  unfold Dish.requirement OrderItem.dish recipeOf
  by_cases captured : item.recipeSnapshottedAt.isSome = true
  · simp [captured]
  · simp [captured]

/-- The requirement is that of the servings. -/
theorem SalesStore.totalRequirement_eq (sales : SalesStore) (among : Id → Bool) :
    sales.totalRequirement catalog inventoryItemId among =
      ((sales.dishes among).map (Dish.requirement catalog inventoryItemId)).sum := by
  rw [sum_dishes]
  refine Table.weigh_congr fun item _ => ?_
  unfold OrderItem.requirement OrderItem.servings
  by_cases counted : among item.orderSessionId = true
  · by_cases cancelled : item.serveStatus = .cancelled
    · simp [counted, cancelled, OrderItem.dish_requirement]
    · simp [counted, cancelled, OrderItem.dish_requirement, mul_comm]
  · simp [counted]

end Requirements

/-- A request that names a line or a session that it may not move. -/
inductive Refused (sales : SalesStore) : OrderCommand → Prop
  /-- No line is there that agrees with the request and may be divided as it says. -/
  | line {input : SplitOrderSessionInput} {employeeId : Id} {split : SplitItem}
      (asked : split ∈ input.itemsToMove)
      (invalid : ∀ item ∈ sales.items, item.id = split.orderItemId →
        ¬Splittable input.sourceOrderSessionId item split) :
      Refused sales (.splitTable input employeeId)
  | source {input : MergeDiningTableInput} {employeeId id : Id}
      (asked : id ∈ input.sourceOrderSessionIds)
      (invalid : ∀ session ∈ sales.sessions, session.id = id → session.sessionStatus = .active →
        ∀ tableId ∈ input.sourceTableIds, session.tableId ≠ some tableId) :
      Refused sales (.mergeTables input employeeId)
  | billed {input : MergeDiningTableInput} {employeeId : Id} {item : OrderItem}
      (member : item ∈ sales.items) (closed : item.isOpen = false)
      (involved : item.orderSessionId = input.destinationOrderSessionId ∨
        item.orderSessionId ∈ input.sourceOrderSessionIds) :
      Refused sales (.mergeTables input employeeId)
  | session {input : TransferDiningTableInput} {employeeId : Id}
      (invalid : ∀ session ∈ sales.sessions, session.id = input.sourceOrderSessionId →
        session.sessionStatus = .active → session.tableId ≠ some input.fromTableId) :
      Refused sales (.transferTable input employeeId)

/-- The session that moves is active at the table that it leaves. -/
theorem commits_transferTable {input : TransferDiningTableInput} {employeeId : Id} {result : Unit}
    {start final : Database}
    (committed : Commits (OrdersService.transferTable input employeeId) start result final) :
    ∃ session ∈ start.sales.sessions, session.id = input.sourceOrderSessionId ∧
      session.sessionStatus = .active ∧ session.tableId = some input.fromTableId := by
  simp only [OrdersService.transferTable, findTable, commits_bind, commits_salesTx,
    commits_findUniqueOrFail, commits_require, commits_pure, commits_findFirstOrFail] at committed
  obtain ⟨_, _, employed, _, ⟨_, _, ⟨_, _, ⟨-, rfl⟩, _, _, ⟨-, rfl⟩, -, rfl⟩, _, _,
    ⟨_, _, ⟨-, rfl⟩, _, _, ⟨-, rfl⟩, -, rfl⟩, _, _, ⟨-, rfl⟩, session, _, ⟨first, rfl⟩, -⟩, -⟩ :=
    committed
  cases Respects.step (R := Eq) employed
  obtain ⟨member, holds⟩ := Table.mem_of_first? first
  simp only [Bool.and_eq_true, decide_eq_true_eq] at holds
  exact ⟨session, member, holds.1.1, holds.2, holds.1.2⟩

theorem Refused.not_commits {before after : Database} {command : OrderCommand} {now : Timestamp}
    (refused : Refused before.sales command) :
    ¬Commits (command.execute now) before () after := by
  intro committed
  cases refused with
  | line asked invalid =>
      obtain ⟨prepared, checked, -⟩ := commits_splitTable committed
      obtain ⟨item, inLines, same⟩ := checked.complete _ asked
      obtain ⟨member, splits⟩ := checked.lines _ inLines
      rw [Table.find?_key checked.source] at splits
      exact invalid item member same splits
  | @source input employeeId id asked invalid =>
      obtain ⟨target, sourceIds, merged⟩ := commits_mergeTables committed
      have among := merged.complete id asked
      obtain ⟨session, member, same⟩ := merged.located id among
      obtain ⟨active, tableId, listed, atTable⟩ := merged.sources session member (same ▸ among)
      exact invalid session member same active tableId listed atTable
  | billed member closed involved =>
      obtain ⟨target, sourceIds, merged⟩ := commits_mergeTables committed
      have open_ := merged.free _ member (involved.imp (·.trans merged.target_id.symm)
        (merged.complete _))
      rw [closed] at open_
      cases open_
  | session invalid =>
      obtain ⟨session, member, same, active, atTable⟩ := commits_transferTable committed
      exact invalid session member same active atTable

/-- Whatever is regrouped keeps its dishes, its price and its demand for every ingredient; every
line is of at least one serving, as many as the kitchen knows; other sessions are left alone.  A
request with anything invalid changes nothing. -/
theorem Reachable.regrouping_whole {before : Database} {command : OrderCommand} {now : Timestamp}
    (reachable : Reachable before) :
    (∀ {among : Id → Bool} {after : Database}, Regroups before.sales command among →
      Commits (command.execute now) before () after →
        after.sales.dishes among = before.sales.dishes among ∧
        after.sales.totalDue among = before.sales.totalDue among ∧
        (∀ catalog inventoryItemId, after.sales.totalRequirement catalog inventoryItemId among =
          before.sales.totalRequirement catalog inventoryItemId among) ∧
        (∀ item ∈ after.sales.items, 0 < item.quantity) ∧
        (∀ row ∈ after.sales.ticketItems, ∃ item,
          after.sales.items.find? row.orderItemId = some item ∧ item.quantity = row.quantity) ∧
        ∀ item : OrderItem, among item.orderSessionId = false →
          (item ∈ after.sales.items ↔ item ∈ before.sales.items)) ∧
      (Refused before.sales command → before.perform (.order command) now = before) := by
  refine ⟨fun {among after} regroups committed => ?_, fun refused => ?_⟩
  · have regrouped := reachable.regrouped regroups committed
    have reached : Reachable after := reachable.tail (.commit (.order command) now committed)
    have agree := reached.quantitiesAgree
    refine ⟨regrouped.dishes, regrouped.totalDue_eq, fun catalog inventoryItemId => ?_,
      agree.positive, fun _ member => agree.quantity_eq member, regrouped.spared⟩
    rw [totalRequirement_eq, totalRequirement_eq, regrouped.dishes]
  · rcases Database.perform_cases before (.order command) now with committed | same
    · exact (refused.not_commits committed).elim
    · exact same

/-- The sample menu, with a recipe and a kitchen station for the espresso. -/
def Catalog.brewing : Catalog :=
  { Catalog.kitchen with
    kitchenStations := ⟨[{
      id := 0
      code := "BAR"
      name := "Bar"
      prepSlaSeconds := 300
      isActive := true
      deletedAt := none
      printDeviceId := some 1 }], by decide⟩
    menuItems := ⟨[{
      id := 0
      name := "Espresso"
      price := 3500000
      isAvailable := true
      deletedAt := none
      categoryId := 0
      kitchenStationId := some 0
      ingredients := [{ inventoryItemId := 0, quantity := 180000 }]
      optionGroups := [] }], by decide⟩ }

/-- Seven cups are ordered at one of two tables, and the kitchen has their ticket. -/
def Database.brewing : Database := (Database.empty.administer .brewing .empty).performAll [
  (.inventory (.createItem 0 {
    name := "Coffee beans"
    stock := some 10000000
    initialUnitCost := some 100
    reorderPoint := none
    categoryId := 0
    unitId := 0 }), 1),
  (.print (.createDevice 0 {
    name := "Bar printer"
    type := .kitchen
    paperSize := "80MM"
    isDefault := none }), 2),
  (.table (.createTable "A1"), 3),
  (.table (.createTable "A2"), 4),
  (.order (.openSession (some 2) 0 none), 5),
  (.order (.addOrderItems 4
    [{ menuItemId := 0, quantity := 7, note := none, optionIds := [], quantity_pos := seven_pos }]
    0), 6)]

theorem Reachable.brewing : Reachable Database.brewing :=
  (Reachable.administer .refl .brewing .empty).performAll _

/-- Four cups of what are said to be so many move to the other table. -/
def brewedSplit (expectedOriginalQuantity : Nat) : SplitOrderSessionInput where
  sourceOrderSessionId := 4
  destinationTableId := 3
  itemsToMove := [{
    orderItemId := 5
    quantityToMove := 4
    expectedOriginalQuantity
    quantityToMove_pos := four_pos }]
  items_nodup := List.nodup_singleton _

/-- The four cups move with their ticket and their beans; of six cups they would not. -/
theorem Reachable.regrouping_whole_brewing :
    (let among : Id → Bool := fun id => id = 4 || (Database.brewing.sales.sessions.find? id).isNone
    let after := Database.brewing.perform (.order (.splitTable (brewedSplit 7) 0)) 7
    after.sales.dishes among = Database.brewing.sales.dishes among ∧
      after.sales.totalRequirement .brewing 0 among =
        Database.brewing.sales.totalRequirement .brewing 0 among ∧
      ∀ row ∈ after.sales.ticketItems, ∃ item,
        after.sales.items.find? row.orderItemId = some item ∧ item.quantity = row.quantity) ∧
      Database.brewing.perform (.order (.splitTable (brewedSplit 6) 0)) 7 = Database.brewing := by
  constructor
  · have committed := @Database.commits_perform Database.brewing
      (.order (.splitTable (brewedSplit 7) 0)) 7 (by decide +kernel)
    obtain ⟨dishes, -, requirement, -, quantities, -⟩ :=
      Reachable.brewing.regrouping_whole.1 (.split (brewedSplit 7) 0) committed
    exact ⟨dishes, requirement .brewing 0, quantities⟩
  · have ordered : ∀ item ∈ Database.brewing.sales.items.rows, item.quantity = 7 := by
      decide +kernel
    refine Reachable.brewing.regrouping_whole.2 (.line (List.mem_singleton_self _) ?_)
    intro item member _ splits
    have six : item.quantity = 6 := splits.expected
    rw [ordered item member] at six
    cases six

end CoffeeShop
