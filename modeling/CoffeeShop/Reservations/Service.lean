import CoffeeShop.System

/-!
The reservation book and the public requests for a reservation.

The transactions of this service run at the isolation level of the database's default, so
between two of their statements other transactions commit.  A task is a transaction that has
yet to run its next statement; statements whose writes commit together are one.
-/

namespace CoffeeShop

inductive ReservationRequestStatus where
  | pending
  | approved
  | rejected
  | expired
  | cancelled
  deriving DecidableEq, Repr

structure ReservationRequest where
  id : Id
  accessTokenHash : String
  customerName : String
  phoneNumber : String
  startsAt : Timestamp
  endsAt : Timestamp
  guestCount : Nat
  notes : Option String
  status : ReservationRequestStatus
  rejectionReason : Option String
  cancelledAt : Option Timestamp
  createdAt : Timestamp
  reviewedAt : Option Timestamp
  reviewedById : Option Id
  reservationId : Option Id

structure CreateReservationDto where
  customerName : Option String
  phoneNumber : String
  tableId : Id
  startsAt : Timestamp
  endsAt : Timestamp
  guestCount : Nat
  notes : Option String

/-- A field that is absent stays, and one that may be cleared is present with its new value. -/
structure UpdateReservationDto where
  customerName : Option (Option String)
  phoneNumber : Option String
  tableId : Option Id
  startsAt : Option Timestamp
  endsAt : Option Timestamp
  guestCount : Option Nat
  notes : Option (Option String)
  expectedUpdatedAt : Option Timestamp

structure CreatePublicReservationRequestDto where
  clientRequestTokenHash : String
  customerName : String
  phoneNumber : String
  startsAt : Timestamp
  endsAt : Timestamp
  guestCount : Nat
  notes : Option String

/-- A transaction of the service by the statement that it runs next. -/
inductive ReservationTask where
  /-- `create`: check the table. -/
  | create (dto : CreateReservationDto)
  /-- `create`: insert the reservation. -/
  | insert (dto : CreateReservationDto)
  /-- `approveRequest`: read the request. -/
  | approve (requestId tableId : Id)
  /-- `approveRequest`: check the table. -/
  | place (request : ReservationRequest) (tableId : Id)
  /-- `approveRequest`: claim the request and insert its reservation. -/
  | claim (request : ReservationRequest) (tableId : Id)
  /-- `update`: read the reservation. -/
  | update (id : Id) (dto : UpdateReservationDto)
  /-- `update`: check the new table. -/
  | move (existing : Reservation) (tableId : Id) (dto : UpdateReservationDto)
  /-- `update`: write the reservation. -/
  | save (existing : Reservation) (dto : UpdateReservationDto)
  /-- `cancel`: read the reservation. -/
  | cancel (id : Id) (reason : String)
  /-- `cancel`: write the reservation. -/
  | close (id : Id) (reason : String)
  /-- `rejectRequest`. -/
  | reject (requestId : Id) (reason : String)

/-- A running transaction, whose employee is active. -/
structure RunningTask where
  id : Id
  employeeId : Id
  task : ReservationTask

structure ReservationBook where
  database : Database
  requests : Table ReservationRequest.id
  tasks : Table RunningTask.id
  /-- The sequences of the identifiers. -/
  nextId : Id

namespace ReservationBook

open Transaction

def empty : ReservationBook where
  database := .empty
  requests := .empty
  tasks := .empty
  nextId := 0

@[simps] def databasePart : Part ReservationBook Database where
  get := database
  set value book := { book with database := value }
  get_set _ _ := rfl

@[simps] def reservationRequest : Part ReservationBook (Table ReservationRequest.id) where
  get := requests
  set value book := { book with requests := value }
  get_set _ _ := rfl

@[simps] def sequence : Part ReservationBook Id where
  get := nextId
  set value book := { book with nextId := value }
  get_set _ _ := rfl

@[simps] def runningTask : Part ReservationBook (Table RunningTask.id) where
  get := tasks
  set value book := { book with tasks := value }
  get_set _ _ := rfl

end ReservationBook

namespace ReservationsService

open Transaction SalesStore ReservationBook OrdersService

def minReservationDurationMs : Nat := 15 * 60 * 1000

def maxReservationDurationMs : Nat := 8 * 60 * 60 * 1000

def maxPublicBookingAdvanceMs : Nat := 30 * 24 * 60 * 60 * 1000

def reservationTx {α : Type} (program : Tx SalesStore Failure α) :
    Tx ReservationBook Failure α :=
  within databasePart (salesTx program)

def nextSequenceId : Tx ReservationBook Failure Id := do
  let book ← get
  modify (sequence.set (book.nextId + 1))
  pure book.nextId

section Constraints

/-- The condition of `Reservation_no_overlapping_active_slots`. -/
def isActive (row : Reservation) : Bool := row.status = .pending || row.status = .arrived

/-- `tsrange("startsAt", "endsAt", '[)')` of the two have a common instant. -/
def overlaps (left right : Reservation) : Bool :=
  left.startsAt < right.endsAt && right.startsAt < left.endsAt

def scheduleConflict : Failure :=
  .conflict "The dining table already has an overlapping reservation."

/-- The constraints of the table on the row with this key, after it was written. -/
def assertConstraints (id : Id) : Tx SalesStore Failure Unit := do
  let row ← findUniqueOrFail reservation id (.notFound "Record not found.")
  require (row.startsAt < row.endsAt) scheduleConflict
  require (0 < row.guestCount) scheduleConflict
  let other ← findFirst reservation fun other =>
    other.id ≠ id && isActive row && isActive other && other.tableId = row.tableId &&
      overlaps row other
  require other.isNone scheduleConflict

end Constraints

def assertValidWindow (startsAt endsAt : Timestamp) (requireFutureStart : Bool)
    (now : Timestamp) : Tx ReservationBook Failure Unit := do
  require (requireFutureStart = true → now < startsAt)
    (.badRequest "startsAt must be in the future.")
  require (startsAt + minReservationDurationMs ≤ endsAt)
    (.badRequest "A reservation must be at least 15 minutes long.")
  require (endsAt ≤ startsAt + maxReservationDurationMs)
    (.badRequest "A reservation cannot be longer than 8 hours.")
  require (now < endsAt) (.badRequest "endsAt must be in the future.")

def assertActiveTable (tableId : Id) : Tx ReservationBook Failure Unit := do
  let table ← reservationTx (findFirst diningTable fun table =>
    table.id = tableId && table.deletedAt.isNone)
  require table.isSome (.notFound s!"Dining table with ID {tableId} not found.")

def insertReservation (dto : CreateReservationDto) (employeeId : Id) (now : Timestamp) :
    Tx ReservationBook Failure Id := do
  let id ← nextSequenceId
  reservationTx do
    Transaction.create reservation {
      id
      customerName := dto.customerName
      phoneNumber := dto.phoneNumber
      startsAt := dto.startsAt
      endsAt := dto.endsAt
      guestCount := dto.guestCount
      notes := dto.notes
      checkedInAt := none
      cancelledAt := none
      cancellationReason := none
      noShowAt := none
      status := .pending
      createdAt := now
      updatedAt := now
      tableId := dto.tableId
      employeeId
      orderSessionId := none } (.constraint "Reservation_pkey")
    assertConstraints id
  pure id

/-- `{ ...changes, updatedAt }`, with a revision that differs from the one that was read. -/
def applyChanges (dto : UpdateReservationDto) (existing : Reservation) (now : Timestamp)
    (row : Reservation) : Reservation :=
  { row with
    customerName := dto.customerName.getD row.customerName
    phoneNumber := dto.phoneNumber.getD row.phoneNumber
    tableId := dto.tableId.getD row.tableId
    startsAt := dto.startsAt.getD row.startsAt
    endsAt := dto.endsAt.getD row.endsAt
    guestCount := dto.guestCount.getD row.guestCount
    notes := dto.notes.getD row.notes
    updatedAt := max now (existing.updatedAt + 1) }

theorem applyChanges_id (dto : UpdateReservationDto) (existing : Reservation) (now : Timestamp)
    (row : Reservation) : (applyChanges dto existing now row).id = row.id := rfl

def saveReservation (existing : Reservation) (dto : UpdateReservationDto) (now : Timestamp) :
    Tx SalesStore Failure Unit := do
  updateExpecting reservation existing.id
    (fun row => row.status = .pending &&
      row.updatedAt = dto.expectedUpdatedAt.getD existing.updatedAt)
    (applyChanges dto existing now)
    (.conflict "Reservation has changed. Reload before editing.")
    (applyChanges_id dto existing now)
  assertConstraints existing.id

def closeReservation (id : Id) (reason : String) (now : Timestamp) : Tx SalesStore Failure Unit :=
  updateExpecting reservation id (fun row => row.status = .pending)
    (fun row => { row with
      status := .cancelled
      cancelledAt := some now
      cancellationReason := some reason
      updatedAt := now })
    (.conflict "Reservation status has changed.")

def alreadyReviewed : Failure := .conflict "Request has already been reviewed."

/-- `approveRequest` from the claim of the request on. -/
def claimRequest (request : ReservationRequest) (tableId employeeId : Id) (now : Timestamp) :
    Tx ReservationBook Failure Unit := do
  updateExpecting reservationRequest request.id (fun row => row.status = .pending)
    (fun row => { row with
      status := .approved
      reviewedAt := some now
      reviewedById := some employeeId }) alreadyReviewed
  let id ← insertReservation {
    customerName := some request.customerName
    phoneNumber := request.phoneNumber
    tableId
    startsAt := request.startsAt
    endsAt := request.endsAt
    guestCount := request.guestCount
    notes := request.notes } employeeId now
  updateExpecting reservationRequest request.id (fun _ => true)
    (fun row => { row with reservationId := some id }) (.notFound "Record to update not found.")

def findReservation (id : Id) : Tx ReservationBook Failure Reservation :=
  reservationTx (findUniqueOrFail reservation id
    (.notFound s!"Reservation with ID {id} not found."))

/-- The next statement of the transaction, and what is left of it. -/
def advance (employeeId : Id) (now : Timestamp) :
    ReservationTask → Tx ReservationBook Failure (Option ReservationTask)
  | .create dto => do
      assertActiveTable dto.tableId
      pure (some (.insert dto))
  | .insert dto => do
      let _ ← insertReservation dto employeeId now
      pure none
  | .approve requestId tableId => do
      let request ← findUniqueOrFail reservationRequest requestId (.notFound "Request not found.")
      require (request.status = .pending) alreadyReviewed
      assertValidWindow request.startsAt request.endsAt true now
      pure (some (.place request tableId))
  | .place request tableId => do
      assertActiveTable tableId
      pure (some (.claim request tableId))
  | .claim request tableId => do
      claimRequest request tableId employeeId now
      pure none
  | .update id dto => do
      let existing ← findReservation id
      require (existing.status = .pending) (.conflict "Only pending reservations can be updated.")
      assertValidWindow (dto.startsAt.getD existing.startsAt) (dto.endsAt.getD existing.endsAt)
        false now
      pure (some (match dto.tableId with
        | none => .save existing dto
        | some tableId =>
            if tableId = existing.tableId then .save existing dto else .move existing tableId dto))
  | .move existing tableId dto => do
      assertActiveTable tableId
      pure (some (.save existing dto))
  | .save existing dto => do
      reservationTx (saveReservation existing dto now)
      pure none
  | .cancel id reason => do
      let existing ← findReservation id
      require (existing.status = .pending)
        (.conflict "Only pending reservations can be cancelled.")
      pure (some (.close id reason))
  | .close id reason => do
      reservationTx (closeReservation id reason now)
      pure none
  | .reject requestId reason => do
      let _ ← findUniqueOrFail reservationRequest requestId (.notFound "Request not found.")
      updateExpecting reservationRequest requestId (fun row => row.status = .pending)
        (fun row => { row with
          status := .rejected
          rejectionReason := some reason
          reviewedAt := some now
          reviewedById := some employeeId }) alreadyReviewed
      pure none

/-- A transaction that has run no statement yet. -/
def isNew : ReservationTask → Bool
  | .create _ | .approve _ _ | .update _ _ | .cancel _ _ | .reject _ _ => true
  | .insert _ | .place _ _ | .claim _ _ | .move _ _ _ | .save _ _ | .close _ _ => false

/-- The transaction begins with the check of the employee. -/
def begin (task : ReservationTask) (employeeId : Id) (now : Timestamp) :
    Tx ReservationBook Failure Unit := do
  require (isNew task) (.badRequest "The transaction has begun already.")
  match task with
  | .create dto => assertValidWindow dto.startsAt dto.endsAt true now
  | _ => pure ()
  within databasePart (assertActiveEmployee employeeId)
  let id ← nextSequenceId
  Transaction.create runningTask { id, employeeId, task } (.constraint "transaction")

/-- Run the next statement of a transaction, which ends with its last one. -/
def resume (id : Id) (now : Timestamp) : Tx ReservationBook Failure Unit := do
  let running ← findUniqueOrFail runningTask id (.notFound "Transaction not found.")
  let next ← advance running.employeeId now running.task
  match next with
  | none =>
      let _ ← deleteMany runningTask fun row => row.id = id
  | some task =>
      let _ ← updateMany runningTask (fun row => row.id = id) fun row => { row with task }

/-- A transaction fails or its server stops. -/
def abandon (id : Id) : Tx ReservationBook Failure Unit := do
  let _ ← deleteMany runningTask fun row => row.id = id

def markOverdueNoShows (now : Timestamp) : Tx ReservationBook Failure Unit :=
  reservationTx do
    let _ ← updateMany reservation
      (fun row => row.status = .pending && row.startsAt + reservationNoShowGraceMs ≤ now)
      fun row => { row with
        status := .noShow
        noShowAt := some now
        updatedAt := now }

def markExpiredPublicRequests (now : Timestamp) : Tx ReservationBook Failure Unit := do
  let _ ← updateMany reservationRequest
    (fun row => row.status = .pending && row.startsAt ≤ now)
    fun row => { row with
      status := .expired
      reviewedAt := some now }

/-- `createPublicRequest`, whose statements other transactions cannot come between: a request
with this token is there before it, or none is when it inserts its own. -/
def createPublicRequest (dto : CreatePublicReservationRequestDto) (now : Timestamp) :
    Tx ReservationBook Failure Unit := do
  let existing ← findFirst reservationRequest fun row =>
    row.accessTokenHash = dto.clientRequestTokenHash
  ifSome existing
    (fun existing => require (existing.customerName = dto.customerName ∧
        existing.phoneNumber = dto.phoneNumber ∧ existing.startsAt = dto.startsAt ∧
        existing.endsAt = dto.endsAt ∧ existing.guestCount = dto.guestCount ∧
        existing.notes = dto.notes)
      (.conflict "Reservation request token was reused."))
    (do
      assertValidWindow dto.startsAt dto.endsAt true now
      require (dto.startsAt ≤ now + maxPublicBookingAdvanceMs)
        (.badRequest "Reservations are limited to 30 days ahead.")
      require (0 < dto.guestCount) (.constraint "ReservationRequest_guest_count_check")
      let id ← nextSequenceId
      Transaction.create reservationRequest {
        id
        accessTokenHash := dto.clientRequestTokenHash
        customerName := dto.customerName
        phoneNumber := dto.phoneNumber
        startsAt := dto.startsAt
        endsAt := dto.endsAt
        guestCount := dto.guestCount
        notes := dto.notes
        status := .pending
        rejectionReason := none
        cancelledAt := none
        createdAt := now
        reviewedAt := none
        reviewedById := none
        reservationId := none } (.constraint "ReservationRequest_pkey"))

/-- The statement of `cancelPublicRequest` that withdraws a request. -/
def cancelPublicRequest (accessTokenHash : String) (now : Timestamp) :
    Tx ReservationBook Failure Unit := do
  let request ← findFirstOrFail reservationRequest
    (fun row => row.accessTokenHash = accessTokenHash) (.notFound "Request not found.")
  when (request.status ≠ .cancelled) (updateExpecting reservationRequest request.id
    (fun row => row.status = .pending && now < row.startsAt)
    (fun row => { row with
      status := .cancelled
      cancelledAt := some now }) (.conflict "Request can no longer be withdrawn."))

end ReservationsService

/-- What may happen next around the reservation book. -/
inductive ReservationAction where
  /-- A command of another service, or a check-in. -/
  | perform (command : Command) (now : Timestamp)
  | administer (catalog : Catalog)
  | begin (task : ReservationTask) (employeeId : Id) (now : Timestamp)
  | resume (taskId : Id) (now : Timestamp)
  | abandon (taskId : Id)
  | markOverdueNoShows (now : Timestamp)
  | markExpiredPublicRequests (now : Timestamp)
  | createPublicRequest (dto : CreatePublicReservationRequestDto) (now : Timestamp)
  | cancelPublicRequest (accessTokenHash : String) (now : Timestamp)

namespace ReservationAction

open Transaction ReservationBook

def execute : ReservationAction → Tx ReservationBook Failure Unit
  | .perform command now => within databasePart (command.execute now)
  -- Management edits the master data, and no reservation.
  | .administer catalog => modify fun book =>
      { book with database := book.database.administer catalog book.database.sales.reservations }
  | .begin task employeeId now => ReservationsService.begin task employeeId now
  | .resume taskId now => ReservationsService.resume taskId now
  | .abandon taskId => ReservationsService.abandon taskId
  | .markOverdueNoShows now => ReservationsService.markOverdueNoShows now
  | .markExpiredPublicRequests now => ReservationsService.markExpiredPublicRequests now
  | .createPublicRequest dto now => ReservationsService.createPublicRequest dto now
  | .cancelPublicRequest accessTokenHash now =>
      ReservationsService.cancelPublicRequest accessTokenHash now

end ReservationAction

end CoffeeShop
