import CoffeeShop.Store.Catalog
import CoffeeShop.Store.Inventory
import CoffeeShop.Store.Sales
import CoffeeShop.Store.Cash
import CoffeeShop.Store.Payments
import CoffeeShop.Store.Printing

/-!
The whole database, its parts and the transactions on it.
-/

namespace CoffeeShop

open Transaction

structure Database where
  catalog : Catalog
  inventory : InventoryStore
  sales : SalesStore
  cash : CashStore
  payments : PaymentStore
  printing : PrintStore
  /-- The next identifier that `uuid()` returns. -/
  nextId : Id

/-- A transaction of the backend. -/
abbrev Transact : Type → Type := Tx Database Failure

namespace Database

def empty : Database where
  catalog := .empty
  inventory := .empty
  sales := .empty
  cash := .empty
  payments := .empty
  printing := .empty
  nextId := 0

@[simps] def inventoryPart : Part Database InventoryStore where
  get := inventory
  set value database := { database with inventory := value }
  get_set _ _ := rfl

@[simps] def salesPart : Part Database SalesStore where
  get := sales
  set value database := { database with sales := value }
  get_set _ _ := rfl

@[simps] def cashPart : Part Database CashStore where
  get := cash
  set value database := { database with cash := value }
  get_set _ _ := rfl

@[simps] def paymentPart : Part Database PaymentStore where
  get := payments
  set value database := { database with payments := value }
  get_set _ _ := rfl

@[simps] def printPart : Part Database PrintStore where
  get := printing
  set value database := { database with printing := value }
  get_set _ _ := rfl

@[simps] def stationPart : Part Database (Table KitchenStation.id) where
  get database := database.catalog.kitchenStations
  set value database :=
    { database with catalog := { database.catalog with kitchenStations := value } }
  get_set _ _ := rfl

@[simps] def idPart : Part Database Id where
  get := nextId
  set value database := { database with nextId := value }
  get_set _ _ := rfl

end Database

def inventoryTx {α : Type} (program : Tx InventoryStore Failure α) : Transact α :=
  within Database.inventoryPart program

def salesTx {α : Type} (program : Tx SalesStore Failure α) : Transact α :=
  within Database.salesPart program

def cashTx {α : Type} (program : Tx CashStore Failure α) : Transact α :=
  within Database.cashPart program

def paymentTx {α : Type} (program : Tx PaymentStore Failure α) : Transact α :=
  within Database.paymentPart program

def printingTx {α : Type} (program : Tx PrintStore Failure α) : Transact α :=
  within Database.printPart program

/-- `uuid()`. -/
def freshId : Transact Id := do
  let database ← get
  modify fun database => { database with nextId := database.nextId + 1 }
  pure database.nextId

/-- The master data as the transaction sees it. -/
def readCatalog : Transact Catalog := do
  let database ← get
  pure database.catalog

section Commits

variable {α : Type} {before after : Database} {result : α}

@[simp] theorem commits_inventoryTx {program : Tx InventoryStore Failure α} :
    Commits (inventoryTx program) before result after ↔
      ∃ value, Commits program before.inventory result value ∧
        after = { before with inventory := value } := commits_within

@[simp] theorem commits_salesTx {program : Tx SalesStore Failure α} :
    Commits (salesTx program) before result after ↔
      ∃ value, Commits program before.sales result value ∧
        after = { before with sales := value } := commits_within

@[simp] theorem commits_cashTx {program : Tx CashStore Failure α} :
    Commits (cashTx program) before result after ↔
      ∃ value, Commits program before.cash result value ∧
        after = { before with cash := value } := commits_within

@[simp] theorem commits_paymentTx {program : Tx PaymentStore Failure α} :
    Commits (paymentTx program) before result after ↔
      ∃ value, Commits program before.payments result value ∧
        after = { before with payments := value } := commits_within

@[simp] theorem commits_printingTx {program : Tx PrintStore Failure α} :
    Commits (printingTx program) before result after ↔
      ∃ value, Commits program before.printing result value ∧
        after = { before with printing := value } := commits_within

@[simp] theorem commits_freshId {id : Id} :
    Commits freshId before id after ↔
      id = before.nextId ∧ after = { before with nextId := before.nextId + 1 } := by
  simp [freshId, and_comm]

@[simp] theorem commits_readCatalog {catalog : Catalog} :
    Commits readCatalog before catalog after ↔ catalog = before.catalog ∧ after = before := by
  simp [readCatalog, and_comm]

end Commits

/-- `assertActiveEmployee` of `employee.util.ts`. -/
def assertActiveEmployee (employeeId : Id) : Transact Unit := do
  let catalog ← readCatalog
  require (catalog.isActiveEmployee employeeId)
    (.unauthorized "Employee is inactive or not found.")

/-- `assertActiveEmployee` of the inventory and invoice policies. -/
def assertActiveEmployeePolicy (employeeId : Id) : Transact Unit := do
  let catalog ← readCatalog
  require (catalog.isActiveEmployee employeeId)
    (.badRequest "Employee is inactive or not found.")

end CoffeeShop
