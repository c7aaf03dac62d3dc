import CoffeeShop.Inventory.Consumption

/-!
Holding and consuming the ingredients of order items: the sales side.
-/

namespace CoffeeShop

namespace InventoryConsumption

open Transaction InventoryStore SalesStore

/-- `menuItemIngredient.findMany` of one menu item. -/
def menuRecipe (catalog : Catalog) (menuItemId : Id) : List RecipeLine :=
  ((catalog.menuItems.find? menuItemId).map (·.ingredients)).getD []

/-- The recipe snapshot of an order item. -/
def snapshotRecipe (sales : SalesStore) (orderItemId : Id) : List RecipeLine :=
  (sales.recipes.select fun row => row.orderItemId = orderItemId).map fun row =>
    { inventoryItemId := row.inventoryItemId, quantity := row.quantityPerItem }

/-- Items from before the snapshots fall back to the menu. -/
def recipeOf (catalog : Catalog) (sales : SalesStore) (item : OrderItem) : List RecipeLine :=
  if item.recipeSnapshottedAt.isSome then snapshotRecipe sales item.id
  else menuRecipe catalog item.menuItemId

def recipeRows (orderItemId : Id) (recipe : List RecipeLine) : List OrderItemRecipeIngredient :=
  recipe.map fun line => {
    orderItemId
    inventoryItemId := line.inventoryItemId
    quantityPerItem := line.quantity }

def snapshotLegacyRecipes (catalog : Catalog) (legacyItems : List OrderItem) (now : Timestamp) :
    Tx SalesStore Failure Unit :=
  if legacyItems.isEmpty then pure () else do
    createMany recipeIngredient
      (legacyItems.flatMap fun item => recipeRows item.id (menuRecipe catalog item.menuItemId))
      (.constraint "OrderItemRecipeIngredient_pkey")
    let _ ← updateMany orderItem
      (fun item => item.id ∈ legacyItems.map (·.id) && item.recipeSnapshottedAt.isNone)
      (fun item => { item with recipeSnapshottedAt := some now })

def requiredReservations (item : OrderItem) (recipe : List RecipeLine) :
    List InventoryReservation :=
  recipe.map fun line => {
    orderItemId := item.id
    inventoryItemId := line.inventoryItemId
    quantity := line.quantity * item.quantity }

/-- What is still to be held for one item, which has all of its reservations or none. -/
def missingReservations (held required : List InventoryReservation) :
    Tx InventoryStore Failure (List InventoryReservation) :=
  if held.isEmpty then pure required else do
    require (matchesHeld held (required.map (·.requirement))) snapshotMismatch
    pure []

def reservePendingItems (condition : OrderItem → Bool) (now : Timestamp) : Transact Unit := do
  let database ← get
  let items := database.sales.items.select fun item =>
    condition item && item.serveStatus = .pending
  salesTx (snapshotLegacyRecipes database.catalog
    (items.filter fun item => item.recipeSnapshottedAt.isNone) now)
  inventoryTx do
    let missing ← collect items fun item => do
      let held ← findMany inventoryReservation fun row => row.orderItemId = item.id
      missingReservations held
        (requiredReservations item (recipeOf database.catalog database.sales item))
    createReservations database.catalog missing.flatten

def reserveSession (orderSessionId : Id) (now : Timestamp) : Transact Unit :=
  reservePendingItems (fun item => item.orderSessionId = orderSessionId) now

/-- One entry of `ingredients`, from the item's current name and cost. -/
def readIngredient (catalog : Catalog) (item : OrderItem) (line : RecipeLine) :
    Tx InventoryStore Failure ConsumedIngredient := do
  let stocked ← findUniqueOrFail inventoryItem line.inventoryItemId
    (.constraint "OrderItemRecipeIngredient_inventoryItemId_fkey")
  require stocked.deletedAt.isNone
    (.conflict "The menu recipe references an inactive inventory item.")
  let totalQuantity := line.quantity * item.quantity
  pure {
    inventoryItemId := stocked.id
    inventoryItemName := stocked.name
    unitName := catalog.unitName stocked.unitId
    quantityPerItem := line.quantity
    totalQuantity
    unitCost := stocked.averageUnitCost
    totalCost := calculateInventoryValue totalQuantity stocked.averageUnitCost }

def consumeOrderItem (item : OrderItem) (now : Timestamp) : Transact Unit := do
  let database ← get
  inventoryTx do
    let ingredients ← collect (recipeOf database.catalog database.sales item)
      (readIngredient database.catalog item)
    consumeIngredients item.id ingredients now

end InventoryConsumption

end CoffeeShop
