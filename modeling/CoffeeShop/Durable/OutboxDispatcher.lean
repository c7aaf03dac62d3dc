import CoffeeShop.Library.Statement
import CoffeeShop.Store.Catalog
import Mathlib.Data.List.Sort
import Mathlib.Logic.Relation

/-!
The outbox and its dispatchers.

Every statement below is one write of the database.  Between two of them a dispatcher
keeps what it claimed in memory, other workers run their own statements, and the
process may crash.
-/

namespace CoffeeShop

open Transaction

inductive OutboxEventStatus where
  | pending
  | enqueued
  | processing
  | published
  | deadLetter
  deriving DecidableEq, Repr

/-- `lockedBy`.  `randomUUID()` never repeats, so a counter stands for it. -/
abbrev Lock := Nat

structure OutboxEvent where
  id : Id
  eventName : String
  payload : String
  status : OutboxEventStatus
  attempts : Nat
  availableAt : Timestamp
  lockedAt : Option Timestamp
  lockedBy : Option Lock
  lastError : Option String
  lastErrorCode : Option String
  lastFailedAt : Option Timestamp
  occurredAt : Timestamp
  publishedAt : Option Timestamp
  deriving DecidableEq

namespace OutboxEvent

/-- A dispatcher holds the event. -/
def isClaimed (event : OutboxEvent) : Bool :=
  event.status = .enqueued || event.status = .processing

/-- `OutboxEvent_state_check`. -/
def stateCheck (event : OutboxEvent) : Bool :=
  match event.status with
  | .pending | .enqueued | .processing => event.publishedAt.isNone
  | .published => event.publishedAt.isSome
  | .deadLetter => event.publishedAt.isNone && event.lastError.isSome

end OutboxEvent

/-- What `claimBatch` returns of a row, and `deliver` keeps of the row it leased. -/
structure ClaimedOutboxEvent where
  id : Id
  eventName : String
  payload : String
  attempts : Nat
  lockedBy : Lock
  deriving DecidableEq

def OutboxEvent.claimedBy (event : OutboxEvent) (lock : Lock) : ClaimedOutboxEvent :=
  { id := event.id, eventName := event.eventName, payload := event.payload,
    attempts := event.attempts, lockedBy := lock }

structure OutboxStore where
  events : Table OutboxEvent.id
  employees : Table Employee.id

@[simps] def outboxEvent : Part OutboxStore (Table OutboxEvent.id) where
  get := OutboxStore.events
  set value store := { store with events := value }
  get_set _ _ := rfl

@[simps] def outboxEmployee : Part OutboxStore (Table Employee.id) where
  get := OutboxStore.employees
  set value store := { store with employees := value }
  get_set _ _ := rfl

inductive OutboxErrorKind where
  /-- `OutboxDeferredError`. -/
  | deferred (retryAfterMs : Nat)
  /-- `OutboxPermanentError`. -/
  | permanent
  | other
  deriving DecidableEq

/-- An error with the text that `errorMessage` records of it. -/
structure OutboxError where
  kind : OutboxErrorKind
  message : String

def outboxFailureCode (error : OutboxError) : String :=
  match error.kind with
  | .permanent => "PERMANENT_REJECTION"
  | .deferred _ => "RATE_LIMITED"
  | .other => "DELIVERY_FAILED"

/-- `OutboxService.enqueue`, which runs in the transaction of a command. -/
def OutboxService.enqueue (id : Id) (eventName payload : String) (now : Timestamp) :
    Tx OutboxStore Failure Unit :=
  create outboxEvent {
    id, eventName, payload
    status := .pending
    attempts := 0
    availableAt := now
    lockedAt := none
    lockedBy := none
    lastError := none
    lastErrorCode := none
    lastFailedAt := none
    occurredAt := now
    publishedAt := none } (.constraint "OutboxEvent_pkey")

/-- The callback of `retryOutboxEvent`, which the idempotency service runs at most once. -/
def ManagementExceptions.retryOutboxEvent (id employeeId : Id) (expectedAvailableAt : Timestamp)
    (now : Timestamp) : Tx OutboxStore Failure Unit := do
  let _ ← findFirstOrFail outboxEmployee
    (fun employee => employee.id = employeeId && employee.isActive && employee.deletedAt.isNone)
    (.unauthorized "Employee is inactive.")
  let _ ← findUniqueOrFail outboxEvent id (.notFound "Outbox event not found.")
  updateExpecting outboxEvent id
    (fun event => event.status = .deadLetter && event.availableAt = expectedAvailableAt)
    (fun event => { event with
      status := .pending
      attempts := 0
      availableAt := now
      lockedAt := none
      lockedBy := none })
    (.conflict "Outbox event changed. Reload before retrying.")

namespace OutboxDispatcher

def pollIntervalMs : Nat := 1000

def lockTimeoutMs : Nat := 90000

def maxAttempts : Nat := 5

def batchSize : Nat := 50

def dayMs : Nat := 86400000

def recoverAbandonedEvents (now : Timestamp) : Tx OutboxStore Failure Nat :=
  updateMany outboxEvent
    (fun event => event.isClaimed && event.lockedAt.any (· + lockTimeoutMs < now))
    fun event => { event with status := .pending, lockedAt := none, lockedBy := none }

/-- The outbox part of `runHousekeepingIfNeeded`, for the rows that fit in a batch and are not
locked. -/
def dropPublished (batch : Id → Bool) (now : Timestamp) : Tx OutboxStore Failure Nat :=
  deleteMany outboxEvent fun event =>
    batch event.id && event.status = .published &&
      event.publishedAt.any (· + 30 * dayMs < now)

/-- `ORDER BY "occurredAt", "id"`. -/
def occurredFirst (left right : OutboxEvent) : Bool :=
  left.occurredAt < right.occurredAt ||
    left.occurredAt = right.occurredAt && left.id ≤ right.id

/-- `FOR UPDATE SKIP LOCKED`, without the rows that other transactions have locked. -/
def candidates (events : List OutboxEvent) (locked : Id → Bool) : List Id :=
  (((events.filter fun event => !locked event.id).insertionSort
    fun left right => occurredFirst left right).take batchSize).map (·.id)

def isReady (now : Timestamp) (event : OutboxEvent) : Bool :=
  event.status = .pending && event.availableAt ≤ now

/-- One statement, which returns the rows it has updated. -/
def claimBatch (locked : Id → Bool) (lock : Lock) (now : Timestamp) :
    Tx OutboxStore Failure (List ClaimedOutboxEvent) := do
  let ready ← findMany outboxEvent (isReady now)
  let claimed := candidates ready locked
  let _ ← updateMany outboxEvent (fun event => event.id ∈ claimed)
    fun event => { event with status := .enqueued, lockedAt := some now, lockedBy := some lock }
  let events ← findMany outboxEvent fun event => event.id ∈ claimed
  pure (events.map (·.claimedBy lock))

/-- The row is the one that the lease was taken on. -/
def isLeased (event : ClaimedOutboxEvent) (row : OutboxEvent) : Bool :=
  row.id = event.id && row.status = .processing && row.lockedBy = some event.lockedBy

/-- The claim of `deliver` on the row it has read. -/
def leaseEvent (event : OutboxEvent) (lock : Lock) (now : Timestamp) :
    Tx OutboxStore Failure Nat :=
  updateMany outboxEvent
    (fun row => row.id = event.id && (row.status = event.status &&
      row.lockedBy = event.lockedBy && row.attempts = event.attempts &&
      row.availableAt = event.availableAt && row.availableAt ≤ now))
    fun row => { row with status := .processing, lockedBy := some lock, lockedAt := some now }

/-- What the timer of `withDeliveryLease` does. -/
def renewLease (event : ClaimedOutboxEvent) (now : Timestamp) : Tx OutboxStore Failure Nat :=
  updateMany outboxEvent (isLeased event) fun row => { row with lockedAt := some now }

def markPublished (event : ClaimedOutboxEvent) (now : Timestamp) : Tx OutboxStore Failure Nat :=
  updateMany outboxEvent (isLeased event) fun row => { row with
    status := .published
    publishedAt := some now
    lockedAt := none
    lockedBy := none
    lastError := none
    lastErrorCode := none
    lastFailedAt := none }

def recordFailure (event : ClaimedOutboxEvent) (error : OutboxError) (attempts : Nat)
    (deadLetter : Bool) (now : Timestamp) : Tx OutboxStore Failure Nat :=
  updateMany outboxEvent (isLeased event) fun row => { row with
    status := if deadLetter then .deadLetter else .pending
    attempts
    lastError := some error.message
    lastErrorCode := some (outboxFailureCode error)
    lastFailedAt := some now
    lockedAt := none
    lockedBy := none
    availableAt := if deadLetter then row.availableAt else now + 2 ^ (attempts - 1) * 1000 }

def release (event : ClaimedOutboxEvent) (error : OutboxError) (delayMs : Nat) (now : Timestamp) :
    Tx OutboxStore Failure Nat :=
  updateMany outboxEvent
    (fun row => row.id = event.id && row.isClaimed && row.lockedBy = some event.lockedBy)
    fun row => { row with
      status := .pending
      lockedAt := none
      lockedBy := none
      lastError := some error.message
      lastErrorCode := some (outboxFailureCode error)
      lastFailedAt := some now
      availableAt := now + max 1000 delayMs }

/-- The end of `dispatchBatch`, for the claimed events that it has not passed on. -/
def releaseUnqueued (events : List ClaimedOutboxEvent) (stopping : Bool) (now : Timestamp) :
    Tx OutboxStore Failure Nat :=
  updateMany outboxEvent
    (fun row => row.status = .enqueued &&
      events.any fun event => row.id = event.id && row.lockedBy = some event.lockedBy)
    fun row => { row with
      status := .pending
      lockedAt := none
      lockedBy := none
      availableAt := now + pollIntervalMs
      lastError := some (if stopping then "Outbox dispatcher stopped before enqueue."
        else "Outbox dispatch batch interrupted.")
      lastErrorCode := some "DISPATCH_INTERRUPTED"
      lastFailedAt := some now }

/-- The job of the queue that a delivery runs in, if there is a queue. -/
structure Job where
  attemptsMade : Nat
  attempts : Option Nat

/-- What a delivery is about to write of its event. -/
inductive Settlement where
  | publish
  | fail (error : OutboxError) (attempts : Nat) (deadLetter : Bool)
  | defer (error : OutboxError) (retryAfterMs : Nat)

/-- The `catch` of `deliver`. -/
def settleError (event : ClaimedOutboxEvent) (job : Option Job) (error : OutboxError) :
    Settlement :=
  match error.kind with
  | .deferred retryAfterMs => .defer error retryAfterMs
  | kind =>
      let attempt := event.attempts + 1
      let exhausted := attempt ≥ maxAttempts ||
        job.any fun job => job.attemptsMade + 1 ≥ job.attempts.getD maxAttempts
      .fail error attempt (kind = .permanent || exhausted)

def Settlement.write (event : ClaimedOutboxEvent) (now : Timestamp) :
    Settlement → Tx OutboxStore Failure Nat
  | .publish => markPublished event now
  | .fail error attempts deadLetter => recordFailure event error attempts deadLetter now
  | .defer error retryAfterMs => release event error retryAfterMs now

/-- What an asynchronous function of a dispatcher holds between two of its statements. -/
inductive Task where
  | idle
  /-- `dispatchBatch`, with the claimed events that it has not passed on yet. -/
  | dispatching (events : List ClaimedOutboxEvent)
  /-- `enqueue` of the first event waits for the queue. -/
  | enqueuing (event : ClaimedOutboxEvent) (rest : List ClaimedOutboxEvent)
  /-- `dispatchBatch` is about to give these events back. -/
  | interrupted (events : List ClaimedOutboxEvent)
  /-- `deliver` has read the row. -/
  | leasing (event : OutboxEvent) (job : Option Job)
  /-- The event bus runs the listeners of the leased event. -/
  | delivering (event : ClaimedOutboxEvent) (job : Option Job)
  | settling (event : ClaimedOutboxEvent) (job : Option Job) (settlement : Settlement)
  /-- The timer of a lease has fired. -/
  | renewing (event : ClaimedOutboxEvent)

/-- The claims that the function acts under. -/
def Task.claims : Task → List ClaimedOutboxEvent
  | .idle => []
  | .dispatching events => events
  | .enqueuing event rest => event :: rest
  | .interrupted events => events
  | .leasing event _ => event.lockedBy.toList.map event.claimedBy
  | .delivering event _ => [event]
  | .settling event _ _ => [event]
  | .renewing event => [event]

/-- A function that a dispatcher process may be running. -/
abbrev Worker := Nat

/-- The database, what every worker holds in memory, and the deliveries that succeeded. -/
structure Outbox where
  store : OutboxStore
  tasks : Worker → Task
  nextLock : Lock
  /-- The claims under which the event bus has run all listeners without an error. -/
  delivered : List (Id × Lock)

namespace Outbox

def start (employees : Table Employee.id) : Outbox where
  store := { events := .empty, employees }
  tasks _ := .idle
  nextLock := 0
  delivered := []

/-- The worker goes on with the task. -/
def proceed (outbox : Outbox) (worker : Worker) (task : Task) : Outbox :=
  { outbox with tasks := Function.update outbox.tasks worker task }

/-- The delivery of the event has ended without an error, or with one. -/
def settle (outbox : Outbox) (worker : Worker) (event : ClaimedOutboxEvent) (job : Option Job) :
    Except OutboxError Unit → Outbox
  | .ok () => { outbox.proceed worker (.settling event job .publish) with
      delivered := (event.id, event.lockedBy) :: outbox.delivered }
  | .error error => outbox.proceed worker (.settling event job (settleError event job error))

end Outbox

inductive Actor where
  | service
  | operator (id employeeId : Id) (expectedAvailableAt : Timestamp)
  | worker (worker : Worker)

def previousJobActive : OutboxError where
  kind := .other
  message := "Waiting for the previous delivery job to finish."

def retryBudgetExhausted : OutboxError where
  kind := .other
  message := "Retry budget exhausted"

/-- One statement or one turn in memory, at the time that its clock shows.

The queue may start a delivery of any event at any time, and a dispatcher does not wait for
the delivery that it hands over; a call of the database may fail before or after it commits. -/
inductive Step (now : Timestamp) : Actor → Outbox → Outbox → Prop where
  | staffed {outbox : Outbox} (employees : Table Employee.id) :
      Step now .service outbox { outbox with store := { outbox.store with employees } }
  | enqueued {outbox : Outbox} {store : OutboxStore} (id : Id) (eventName payload : String)
      (ran : Commits (OutboxService.enqueue id eventName payload now) outbox.store () store) :
      Step now .service outbox { outbox with store }
  | retried {outbox : Outbox} {store : OutboxStore} (id employeeId : Id)
      (expectedAvailableAt : Timestamp)
      (ran : Commits (ManagementExceptions.retryOutboxEvent id employeeId expectedAvailableAt now)
        outbox.store () store) :
      Step now (.operator id employeeId expectedAvailableAt) outbox { outbox with store }
  | recovered {outbox : Outbox} {worker : Worker} {store : OutboxStore} {count : Nat}
      (idle : outbox.tasks worker = .idle)
      (ran : Commits (recoverAbandonedEvents now) outbox.store count store) :
      Step now (.worker worker) outbox { outbox with store }
  | dropped {outbox : Outbox} {worker : Worker} {store : OutboxStore} {count : Nat}
      (batch : Id → Bool) (idle : outbox.tasks worker = .idle)
      (ran : Commits (dropPublished batch now) outbox.store count store) :
      Step now (.worker worker) outbox { outbox with store }
  | claimed {outbox : Outbox} {worker : Worker} {store : OutboxStore}
      {events : List ClaimedOutboxEvent} (locked : Id → Bool) (idle : outbox.tasks worker = .idle)
      (ran : Commits (claimBatch locked outbox.nextLock now) outbox.store events store) :
      Step now (.worker worker) outbox { outbox.proceed worker (.dispatching events) with
        store, nextLock := outbox.nextLock + 1 }
  | enqueues {outbox : Outbox} {worker : Worker} {event : ClaimedOutboxEvent}
      {rest : List ClaimedOutboxEvent} (held : outbox.tasks worker = .dispatching (event :: rest)) :
      Step now (.worker worker) outbox (outbox.proceed worker (.enqueuing event rest))
  | handsOver {outbox : Outbox} {worker : Worker} {event : ClaimedOutboxEvent}
      {rest : List ClaimedOutboxEvent} (held : outbox.tasks worker = .dispatching (event :: rest)) :
      Step now (.worker worker) outbox (outbox.proceed worker (.dispatching rest))
  | interrupts {outbox : Outbox} {worker : Worker} {events : List ClaimedOutboxEvent}
      (held : outbox.tasks worker = .dispatching events) :
      Step now (.worker worker) outbox (outbox.proceed worker (.interrupted events))
  | queued {outbox : Outbox} {worker : Worker} {event : ClaimedOutboxEvent}
      {rest : List ClaimedOutboxEvent} (held : outbox.tasks worker = .enqueuing event rest) :
      Step now (.worker worker) outbox (outbox.proceed worker (.dispatching rest))
  | waits {outbox : Outbox} {worker : Worker} {store : OutboxStore} {count : Nat}
      {event : ClaimedOutboxEvent} {rest : List ClaimedOutboxEvent}
      (held : outbox.tasks worker = .enqueuing event rest)
      (ran : Commits (release event previousJobActive 1000 now) outbox.store count store) :
      Step now (.worker worker) outbox { outbox.proceed worker (.dispatching rest) with store }
  | refused {outbox : Outbox} {worker : Worker} {store : OutboxStore} {count : Nat}
      {event : ClaimedOutboxEvent} {rest : List ClaimedOutboxEvent} (error : OutboxError)
      (held : outbox.tasks worker = .enqueuing event rest)
      (ran : Commits (release event error 1000 now) outbox.store count store) :
      Step now (.worker worker) outbox { outbox.proceed worker (.interrupted rest) with store }
  /-- The reply to a release is lost: `enqueue` releases once more. -/
  | releasedUnheard {outbox : Outbox} {worker : Worker} {store : OutboxStore} {count : Nat}
      {event : ClaimedOutboxEvent} {rest : List ClaimedOutboxEvent} (error : OutboxError)
      (held : outbox.tasks worker = .enqueuing event rest)
      (ran : Commits (release event error 1000 now) outbox.store count store) :
      Step now (.worker worker) outbox { outbox with store }
  /-- `enqueue` throws, so that the event stays in the batch. -/
  | throws {outbox : Outbox} {worker : Worker} {event : ClaimedOutboxEvent}
      {rest : List ClaimedOutboxEvent} (held : outbox.tasks worker = .enqueuing event rest) :
      Step now (.worker worker) outbox (outbox.proceed worker (.interrupted (event :: rest)))
  | handsBack {outbox : Outbox} {worker : Worker} {store : OutboxStore} {count : Nat}
      {events : List ClaimedOutboxEvent} (stopping : Bool)
      (held : outbox.tasks worker = .interrupted events)
      (ran : Commits (releaseUnqueued events stopping now) outbox.store count store) :
      Step now (.worker worker) outbox { outbox.proceed worker .idle with store }
  | reads {outbox : Outbox} {worker : Worker} {store : OutboxStore} {event : OutboxEvent} (id : Id)
      (job : Option Job) (idle : outbox.tasks worker = .idle)
      (ran : Commits (findUnique outboxEvent id : Tx OutboxStore Failure _) outbox.store
        (some event) store)
      (deliverable : event.status = .enqueued ∨ event.status = .pending) :
      Step now (.worker worker) outbox (outbox.proceed worker (.leasing event job))
  | leases {outbox : Outbox} {worker : Worker} {store : OutboxStore} {event : OutboxEvent}
      {job : Option Job} {count : Nat} (held : outbox.tasks worker = .leasing event job)
      (ran : Commits (leaseEvent event outbox.nextLock now) outbox.store count store) :
      Step now (.worker worker) outbox
        { outbox.proceed worker (if count = 1 then
            .delivering (event.claimedBy outbox.nextLock) job else .idle) with
          store, nextLock := outbox.nextLock + 1 }
  | exhausts {outbox : Outbox} {worker : Worker} {event : ClaimedOutboxEvent} {job : Option Job}
      (held : outbox.tasks worker = .delivering event job)
      (exhausted : event.attempts ≥ maxAttempts) :
      Step now (.worker worker) outbox (outbox.proceed worker
        (.settling event job (.fail retryBudgetExhausted event.attempts true)))
  | delivers {outbox : Outbox} {worker : Worker} {event : ClaimedOutboxEvent} {job : Option Job}
      (answer : Except OutboxError Unit) (held : outbox.tasks worker = .delivering event job)
      (remaining : event.attempts < maxAttempts) :
      Step now (.worker worker) outbox (outbox.settle worker event job answer)
  | settles {outbox : Outbox} {worker : Worker} {store : OutboxStore} {count : Nat}
      {event : ClaimedOutboxEvent} {job : Option Job} {settlement : Settlement}
      (held : outbox.tasks worker = .settling event job settlement)
      (ran : Commits (settlement.write event now) outbox.store count store) :
      Step now (.worker worker) outbox { outbox.proceed worker .idle with store }
  /-- `markPublished` fails, inside the `try` of `deliver`. -/
  | unpublished {outbox : Outbox} {worker : Worker} {event : ClaimedOutboxEvent} {job : Option Job}
      (error : OutboxError) (held : outbox.tasks worker = .settling event job .publish) :
      Step now (.worker worker) outbox
        (outbox.proceed worker (.settling event job (settleError event job error)))
  /-- `markPublished` commits, but its reply is lost. -/
  | publishedUnheard {outbox : Outbox} {worker : Worker} {store : OutboxStore} {count : Nat}
      {event : ClaimedOutboxEvent} {job : Option Job} (error : OutboxError)
      (held : outbox.tasks worker = .settling event job .publish)
      (ran : Commits (markPublished event now) outbox.store count store) :
      Step now (.worker worker) outbox
        { outbox.proceed worker (.settling event job (settleError event job error)) with store }
  | fires {outbox : Outbox} {worker timer : Worker} {event : ClaimedOutboxEvent} {job : Option Job}
      (held : outbox.tasks worker = .delivering event job ∨
        ∃ settlement, outbox.tasks worker = .settling event job settlement)
      (idle : outbox.tasks timer = .idle) :
      Step now (.worker timer) outbox (outbox.proceed timer (.renewing event))
  | renews {outbox : Outbox} {worker : Worker} {store : OutboxStore} {count : Nat}
      {event : ClaimedOutboxEvent} (held : outbox.tasks worker = .renewing event)
      (ran : Commits (renewLease event now) outbox.store count store) :
      Step now (.worker worker) outbox { outbox.proceed worker .idle with store }
  /-- The function ends, or its process crashes. -/
  | ends {outbox : Outbox} {worker : Worker} :
      Step now (.worker worker) outbox (outbox.proceed worker .idle)

/-- Some worker, service or operator takes a step. -/
def Moves (before after : Outbox) : Prop := ∃ now actor, Step now actor before after

def Reachable (outbox : Outbox) : Prop :=
  ∃ employees, Relation.ReflTransGen Moves (.start employees) outbox

end OutboxDispatcher

end CoffeeShop
