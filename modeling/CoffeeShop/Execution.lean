import CoffeeShop.System

/-!
Running commands on a database.

A command that aborts leaves the database as it is, so every list of commands leads
from a reachable state to a reachable state.
-/

namespace CoffeeShop

open Transaction

namespace Database

/-- The database after the command, which changes nothing if it aborts. -/
def perform (database : Database) (command : Command) (now : Timestamp) : Database :=
  match command.execute now database with
  | .ok (_, after) => after
  | .error _ => database

def performAll (database : Database) (commands : List (Command × Timestamp)) : Database :=
  commands.foldl (fun database entry => database.perform entry.1 entry.2) database

theorem commits_perform {database : Database} {command : Command} {now : Timestamp}
    (isOk : (command.execute now database).isOk = true) :
    Commits (command.execute now) database () (database.perform command now) := by
  unfold Commits Database.perform
  cases answer : command.execute now database with
  | ok value => rfl
  | error failure =>
      rw [answer] at isOk
      exact nomatch isOk

/-- A command commits or leaves the database as it is. -/
theorem perform_cases (database : Database) (command : Command) (now : Timestamp) :
    Commits (command.execute now) database () (database.perform command now) ∨
      database.perform command now = database := by
  unfold Commits perform
  cases command.execute now database with
  | ok outcome => exact .inl rfl
  | error failure => exact .inr rfl

end Database

section Runs

variable {start database : Database}

/-- A command that aborts is no step. -/
theorem runs_perform (runs : Relation.ReflTransGen Step start database) (command : Command)
    (now : Timestamp) : Relation.ReflTransGen Step start (database.perform command now) := by
  unfold Database.perform
  split
  · rename_i after committed
    exact runs.tail (.commit command now committed)
  · exact runs

theorem runs_performAll (runs : Relation.ReflTransGen Step start database)
    (commands : List (Command × Timestamp)) :
    Relation.ReflTransGen Step start (database.performAll commands) := by
  induction commands generalizing database with
  | nil => exact runs
  | cons head tail inductionHypothesis =>
      exact inductionHypothesis (runs_perform runs head.1 head.2)

theorem Reachable.perform (reachable : Reachable database) (command : Command)
    (now : Timestamp) : Reachable (database.perform command now) :=
  runs_perform reachable command now

theorem Reachable.performAll (reachable : Reachable database)
    (commands : List (Command × Timestamp)) : Reachable (database.performAll commands) :=
  runs_performAll reachable commands

end Runs

theorem Reachable.administer {database : Database} (reachable : Reachable database)
    (catalog : Catalog) (reservations : Table Reservation.id) :
    Reachable (database.administer catalog reservations) :=
  reachable.tail (.administer catalog reservations)

/-- A result that passes a check is a commit. -/
theorem exists_commits_of_any {σ ε α : Type} {program : Tx σ ε α} {before : σ}
    {check : α × σ → Bool} (passes : (program before).toOption.any check = true) :
    ∃ result after, Commits program before result after ∧ check (result, after) = true := by
  cases answer : program before with
  | error failure =>
      rw [answer] at passes
      exact nomatch passes
  | ok outcome =>
      rw [answer] at passes
      exact ⟨outcome.1, outcome.2, answer, passes⟩

/-- Two employees, one ingredient category and one menu item with a recipe of the item 0. -/
def Catalog.sample : Catalog :=
  { Catalog.empty with
    employees := ⟨[{ id := 0, fullName := "An", isActive := true, deletedAt := none },
      { id := 1, fullName := "Binh", isActive := true, deletedAt := none }], by decide⟩
    units := ⟨[{ id := 0, name := "g", deletedAt := none }], by decide⟩
    inventoryCategories := ⟨[{ id := 0, name := "Beans", deletedAt := none }], by decide⟩
    menuCategories := ⟨[{ id := 0, deletedAt := none }], by decide⟩
    menuItems := ⟨[{
      id := 0
      name := "Espresso"
      price := 3500000
      isAvailable := true
      deletedAt := none
      categoryId := 0
      kitchenStationId := none
      ingredients := [{ inventoryItemId := 0, quantity := 180000 }]
      optionGroups := [] }], by decide⟩ }

/-- The empty database with the sample master data. -/
def Database.sample : Database := Database.empty.administer .sample .empty

theorem Reachable.sample : Reachable Database.sample :=
  Reachable.administer .refl .sample .empty

/-- The sample shop with stock and one invoiced takeaway order of two cups. -/
def Database.invoiced : Database := Database.sample.performAll [
  (.inventory (.createItem 0 {
    name := "Coffee beans"
    stock := some 10000000
    initialUnitCost := some 100
    reorderPoint := none
    categoryId := 0
    unitId := 0 }), 1),
  (.order (.openSession none 0 none), 2),
  (.order (.addOrderItems 1
    [{ menuItemId := 0, quantity := 2, note := none, optionIds := [], quantity_pos := by decide }]
    0), 3),
  (.invoice (.createInvoice 0 {
    orderSessionId := 1
    orderItemIds := none
    promotionId := none
    taxRate := none
    quoteFingerprint := none
    expectedTotal := none }), 4)]

theorem Reachable.invoiced : Reachable Database.invoiced := Reachable.sample.performAll _

/-- The sample shop after a cash sale of two cups in an open shift. -/
def Database.sold : Database := Database.invoiced.performAll [
  (.cash (.createFund 0 { name := "Till", type := .cash, openingBalance := ⟨50000000, by decide⟩ }),
    5),
  (.cash (.openShift 0 { fundId := 4, startingCash := ⟨50000000, by decide⟩ }), 6),
  (.invoice (.updatePayment 3 0 {
    paymentMethod := none
    amountTendered := some 10000000
    closeSessionAfterPayment := false }), 7)]

theorem Reachable.sold : Reachable Database.sold := Reachable.invoiced.performAll _

/-- The sample master data with a kitchen station, whose printer is the device 0. -/
def Catalog.kitchen : Catalog :=
  { Catalog.sample with
    kitchenStations := ⟨[{
      id := 0
      code := "BAR"
      name := "Bar"
      prepSlaSeconds := 300
      isActive := true
      deletedAt := none
      printDeviceId := some 0 }], by decide⟩
    menuItems := ⟨[{
      id := 0
      name := "Espresso"
      price := 3500000
      isAvailable := true
      deletedAt := none
      categoryId := 0
      kitchenStationId := some 0
      ingredients := []
      optionGroups := [] }], by decide⟩ }

/-- A guest at one of two tables has ordered two cups; the printer jammed on their ticket. -/
def Database.jammed : Database := (Database.empty.administer .kitchen .empty).performAll [
  (.print (.createDevice 0 {
    name := "Bar printer"
    type := .kitchen
    paperSize := "80MM"
    isDefault := none }), 1),
  (.table (.createTable "A1"), 2),
  (.table (.createTable "A2"), 3),
  (.order (.openSession (some 1) 0 none), 4),
  (.order (.addOrderItems 3
    [{ menuItemId := 0, quantity := 2, note := none, optionIds := [], quantity_pos := by decide }]
    0), 5),
  (.print (.claimJobs 0 10 fun _ => false), 10),
  (.print (.failJob 0 6 7 "Paper jam" .unknown), 11),
  (.print (.resolveJob 6 0 .notPrinted 11), 12)]

theorem Reachable.jammed : Reachable Database.jammed :=
  (Reachable.administer .refl .kitchen .empty).performAll _

end CoffeeShop
