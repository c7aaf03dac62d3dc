import CoffeeShop.Library.GroupedSum
import CoffeeShop.Printing.Kitchen

/-!
Menu selections and the kitchen tickets of new order items.
-/

namespace CoffeeShop

/-- What `resolveMenuSelection` returns. -/
structure MenuSelection where
  unitPrice : Money
  selectedOptions : List SelectedMenuOption
  recipe : List RecipeLine

namespace MenuOptionSelection

open Transaction

/-- `9999999999999999.99`. -/
def maximumUnitPrice : Money := 999999999999999999

def maximumOptions : Nat := 20

def assertActiveIngredient (line : RecipeLine) : Tx InventoryStore Failure Unit := do
  let item ← findUnique InventoryStore.inventoryItem line.inventoryItemId
  require (item.any (·.deletedAt.isNone))
    (.conflict "The menu recipe contains an inactive ingredient.")

/-- The selected options of the groups, and the selected identifiers that no group has. -/
def resolveGroups : List MenuItemOptionGroup → List Id →
    Tx InventoryStore Failure (List (MenuItemOptionGroup × MenuItemOption) × List Id)
  | [], selectedIds => pure ([], selectedIds)
  | group :: groups, selectedIds => do
      let selected := group.options.filter fun option => option.id ∈ selectedIds
      require (group.minSelected ≤ selected.length ∧ selected.length ≤ group.maxSelected)
        (.conflict s!"Invalid selection for menu option group '{group.name}'.")
      forEach (selected.flatMap (·.ingredients)) assertActiveIngredient
      let (others, unknown) ← resolveGroups groups
        (selectedIds.filter fun id => id ∉ selected.map (·.id))
      pure (selected.map (fun option => (group, option)) ++ others, unknown)

def selectedOption (entry : MenuItemOptionGroup × MenuItemOption) : SelectedMenuOption where
  id := entry.2.id
  groupName := entry.1.name
  name := entry.2.name
  priceDelta := entry.2.priceDelta

/-- The quantity of each ingredient, in the order of the identifiers. -/
def combineRecipe (lines : List RecipeLine) : List RecipeLine :=
  (GroupedSum.ofList (lines.map fun line => (line.inventoryItemId, line.quantity))).map
    fun entry => { inventoryItemId := entry.1, quantity := entry.2 }

def resolveMenuSelection (menuItem : MenuItem) (optionIds : List Id) :
    Tx InventoryStore Failure MenuSelection := do
  require (optionIds.length ≤ maximumOptions ∧ optionIds.Nodup)
    (.conflict "Invalid menu option selection.")
  forEach menuItem.ingredients assertActiveIngredient
  let (selected, unknown) ← resolveGroups menuItem.optionGroups optionIds
  require (unknown = []) (.conflict "One or more menu options are unavailable.")
  let options := selected.map (·.2)
  let unitPrice := menuItem.price + (options.map (·.priceDelta)).sum
  require (unitPrice ≤ maximumUnitPrice)
    (.conflict "Selected menu options exceed the allowed price.")
  pure {
    unitPrice
    selectedOptions := selected.map selectedOption
    recipe := combineRecipe (menuItem.ingredients ++ options.flatMap (·.ingredients)) }

end MenuOptionSelection

namespace KitchenRouting

open Transaction SalesStore

def stationOf (catalog : Catalog) (item : OrderItem) : Option KitchenStation := do
  let menuItem ← catalog.menuItems.find? item.menuItemId
  let stationId ← menuItem.kitchenStationId
  catalog.kitchenStations.find? stationId

/-- The stations of the items, each once, in the order of their first item. -/
def stationsOf (catalog : Catalog) (items : List OrderItem) : List Id :=
  ((items.filterMap (stationOf catalog)).map (·.id)).eraseDups

def menuItemName (catalog : Catalog) (menuItemId : Id) : String :=
  ((catalog.menuItems.find? menuItemId).map (·.name)).getD ""

/-- `station.printDevice`, if it takes jobs. -/
def printDeviceOf (printing : PrintStore) (station : KitchenStation) : Option PrintDevice :=
  (station.printDeviceId.bind printing.devices.find?).filter fun device =>
    device.isActive && device.deletedAt.isNone

/-- `session.table?.name`. -/
def tableNameOf (sales : SalesStore) (orderSessionId : Id) : Option String :=
  ((sales.sessions.find? orderSessionId).bind fun session =>
    session.tableId.bind sales.tables.find?).map (·.name)

def ticketItem (catalog : Catalog) (ticketId : Id) (item : OrderItem) : KitchenTicketItem where
  orderItemId := item.id
  ticketId
  itemName := menuItemName catalog item.menuItemId
  quantity := item.quantity
  note := item.note
  selectedOptions := item.selectedOptions

def printItem (row : KitchenTicketItem) : KitchenPrintItem where
  orderItemId := row.orderItemId
  name := row.itemName
  quantity := row.quantity
  note := row.note
  selectedOptions := row.selectedOptions

/-- One ticket with the items that its station prepares, and its print job. -/
def createTicket (catalog : Catalog) (orderSessionId : Id) (items : List OrderItem)
    (pickupAt : Option Timestamp) (createdAt : Timestamp) (station : KitchenStation) :
    Transact Unit := do
  let id ← freshId
  let dueAt := pickupAt.getD (createdAt + station.prepSlaSeconds * 1000)
  let availableAt := max createdAt (dueAt - station.prepSlaSeconds * 1000)
  let routed := items.filter fun item => (stationOf catalog item).any (·.id = station.id)
  let ticketItems := routed.map (ticketItem catalog id)
  salesTx do
    create kitchenTicket {
      id
      stationId := station.id
      orderSessionId
      dueAt
      availableAt := some availableAt
      createdAt } (.constraint "KitchenTicket_pkey")
    createMany kitchenTicketItem ticketItems (.constraint "KitchenTicketItem_orderItemId_key")
  let database ← get
  whenSome (printDeviceOf database.printing station) fun device =>
    PrintingService.enqueueKitchenTicket {
      kitchenTicketId := id
      deviceId := device.id
      availableAt
      payload := {
        ticketId := id
        stationCode := station.code
        stationName := station.name
        tableName := tableNameOf database.sales orderSessionId
        orderSessionId
        dueAt
        availableAt
        cancellation := none
        items := ticketItems.map printItem } } createdAt

def createTickets (orderSessionId : Id) (items : List OrderItem) (pickupAt : Option Timestamp)
    (now : Timestamp) : Transact Unit := do
  require (pickupAt.all fun pickupAt => now < pickupAt)
    (.conflict "Pickup time has elapsed.")
  let catalog ← readCatalog
  require (pickupAt.isNone ∨ ∀ item ∈ items, (stationOf catalog item).isSome)
    (.conflict "Scheduled orders require a kitchen station for every item.")
  forEach ((stationsOf catalog items).filterMap catalog.kitchenStations.find?)
    (createTicket catalog orderSessionId items pickupAt now)

end KitchenRouting

end CoffeeShop
