import CoffeeShop.Store.Basic

/-!
Master data that the order, stock, cash and payment services read.

Managers may edit it at any time, so nothing below relies on its contents except
where a transaction has checked them.
-/

namespace CoffeeShop

structure Employee where
  id : Id
  fullName : String
  isActive : Bool
  deletedAt : Option Timestamp

structure MeasurementUnit where
  id : Id
  name : String
  deletedAt : Option Timestamp

structure InventoryCategory where
  id : Id
  name : String
  deletedAt : Option Timestamp

structure Supplier where
  id : Id
  deletedAt : Option Timestamp

/-- One line of a recipe: a `MenuItemIngredient` or a `MenuItemOptionIngredient`. -/
structure RecipeLine where
  inventoryItemId : Id
  quantity : Quantity
  deriving DecidableEq

structure MenuItemOption where
  id : Id
  name : String
  priceDelta : Money
  ingredients : List RecipeLine

structure MenuItemOptionGroup where
  id : Id
  name : String
  minSelected : Nat
  maxSelected : Nat
  options : List MenuItemOption

structure KitchenStation where
  id : Id
  code : String
  name : String
  prepSlaSeconds : Nat
  isActive : Bool
  deletedAt : Option Timestamp
  printDeviceId : Option Id

structure MenuCategory where
  id : Id
  deletedAt : Option Timestamp

structure MenuItem where
  id : Id
  name : String
  price : Money
  isAvailable : Bool
  deletedAt : Option Timestamp
  categoryId : Id
  kitchenStationId : Option Id
  ingredients : List RecipeLine
  optionGroups : List MenuItemOptionGroup

inductive DiscountType where
  | percentage
  | fixedAmount
  deriving DecidableEq, Repr

structure Promotion where
  id : Id
  name : String
  startDate : Timestamp
  endDate : Timestamp
  discountType : DiscountType
  discountValue : Money
  maxDiscount : Option Money
  deletedAt : Option Timestamp

/-- The cash control settings, with the fallback applied where a setting is missing or invalid. -/
structure CashControlSettings where
  expenseApprovalThreshold : Money
  shiftDiscrepancyNoteThreshold : Money
  handoverSettlementSlaHours : Nat

inductive PaymentProvider where
  | vnpay
  | momo
  | payos
  deriving DecidableEq, Repr

structure Catalog where
  employees : Table Employee.id
  units : Table MeasurementUnit.id
  inventoryCategories : Table InventoryCategory.id
  suppliers : Table Supplier.id
  menuCategories : Table MenuCategory.id
  menuItems : Table MenuItem.id
  kitchenStations : Table KitchenStation.id
  promotions : Table Promotion.id
  settings : CashControlSettings
  /-- The orders that one pickup time takes, if scheduled pickup is configured. -/
  pickupCapacity : Option Nat
  /-- `<PROVIDER>_ATTEMPT_TTL_MINUTES`. -/
  attemptTtlMinutes : PaymentProvider → Nat

namespace Catalog

def empty : Catalog where
  employees := .empty
  units := .empty
  inventoryCategories := .empty
  suppliers := .empty
  menuCategories := .empty
  menuItems := .empty
  kitchenStations := .empty
  promotions := .empty
  settings := {
    expenseApprovalThreshold := 0
    shiftDiscrepancyNoteThreshold := 0
    handoverSettlementSlaHours := 24 }
  pickupCapacity := none
  attemptTtlMinutes _ := 15

variable (catalog : Catalog)

/-- `employee.findFirst({ where: { id, deletedAt: null } })` with `isActive`. -/
def isActiveEmployee (employeeId : Id) : Bool :=
  (catalog.employees.find? employeeId).any fun employee =>
    employee.isActive && employee.deletedAt.isNone

def isActiveUnit (unitId : Id) : Bool :=
  (catalog.units.find? unitId).any (·.deletedAt.isNone)

/-- `unit: { select: { name: true } }`. -/
def unitName (unitId : Id) : String :=
  ((catalog.units.find? unitId).map (·.name)).getD ""

def isActiveInventoryCategory (categoryId : Id) : Bool :=
  (catalog.inventoryCategories.find? categoryId).any (·.deletedAt.isNone)

def isActiveSupplier (supplierId : Id) : Bool :=
  (catalog.suppliers.find? supplierId).any (·.deletedAt.isNone)

end Catalog

end CoffeeShop
