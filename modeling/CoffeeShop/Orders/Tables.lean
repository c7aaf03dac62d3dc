import CoffeeShop.Orders.Items

/-!
Dining tables and the arrival of reserved guests.
-/

namespace CoffeeShop

namespace DiningTablesService

open Transaction SalesStore

/-- `{ equals: name, mode: 'insensitive' }`. -/
def sameName (left right : String) : Bool := left.toLower = right.toLower

def nameTaken (name : String) : Failure :=
  .conflict s!"A dining table with the name '{name}' already exists."

def createTable (name : String) : Transact Unit := do
  let existing ← salesTx (findFirst diningTable fun table =>
    table.deletedAt.isNone && sameName table.name name)
  require existing.isNone (nameTaken name)
  let id ← freshId
  salesTx (create diningTable { id, name, status := .empty, deletedAt := none }
    (.constraint "DiningTable_pkey"))

def tableMissing (id : Id) : Failure := .notFound s!"Dining table with ID {id} not found."

def updateTable (id : Id) (name : String) : Transact Unit := salesTx do
  let table ← findUniqueOrFail diningTable id (tableMissing id)
  require table.deletedAt.isNone (tableMissing id)
  let duplicate ← findFirst diningTable fun other =>
    other.id ≠ id && other.deletedAt.isNone && sameName other.name name
  require (sameName table.name name ∨ duplicate.isNone) (nameTaken name)
  updateExpecting diningTable id (fun _ => true) (fun row => { row with name })
    (.notFound "Record to update not found.")

/-- What `deleteTable` reads first may be out of date by its last statement, which checks all of
it again. -/
def deleteTable (id : Id) (now : Timestamp) : Transact Unit := salesTx do
  let table ← findFirstOrFail diningTable (fun table => table.id = id && table.deletedAt.isNone)
    (tableMissing id)
  require (table.status = .empty) (.badRequest
    s!"Cannot delete table '{table.name}' because its current status is {table.status.text}. Please finalize operations or clear the table first.")
  let sales ← get
  let isFree := (sales.sessions.first? fun session =>
    session.tableId = some id && session.sessionStatus = .active).isNone
  updateExpecting diningTable id
    (fun row => row.deletedAt.isNone && row.status = .empty && isFree)
    (fun row => { row with deletedAt := some now })
    (.conflict "Table changed or has an active session. Refresh before deleting.")

end DiningTablesService

namespace OrdersService

open Transaction SalesStore

/-- `RESERVATION_CHECK_IN_EARLY_MS`. -/
def reservationCheckInEarlyMs : Nat := 30 * 60 * 1000

/-- `RESERVATION_NO_SHOW_GRACE_MS`. -/
def reservationNoShowGraceMs : Nat := 15 * 60 * 1000

def isWaiting (row : Reservation) : Bool := row.status = .pending && row.orderSessionId.isNone

def checkInReservation (reservationId employeeId : Id) (now : Timestamp) : Transact Unit := do
  let found ← salesTx (findUniqueOrFail reservation reservationId
    (.notFound s!"Reservation with ID {reservationId} not found."))
  require (isWaiting found) (.conflict "Reservation is no longer pending.")
  require (found.startsAt ≤ now + reservationCheckInEarlyMs)
    (.badRequest "Check-in opens 30 minutes before the reservation.")
  require (now < found.startsAt + reservationNoShowGraceMs)
    (.conflict "The reservation check-in window closed.")
  let sessionId ← createOrderSession (some found.tableId) employeeId (some found.guestCount) now
  salesTx (updateExpecting reservation reservationId isWaiting
    (fun row => { row with
      status := .arrived
      checkedInAt := some now
      orderSessionId := some sessionId
      updatedAt := now })
    (.conflict "Reservation status has changed."))

end OrdersService

end CoffeeShop
