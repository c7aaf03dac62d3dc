import CoffeeShop.Library.History
import CoffeeShop.Library.Statement
import CoffeeShop.Store.Basic

/-!
Idempotent commands.

The row of a key is written in the transaction that runs the command, so it is there
exactly when the effect of the command is.  A call looks the key up, runs its transaction
and, if the key was taken meanwhile, looks it up again; other transactions of the backend
may commit between any two of these.
-/

namespace CoffeeShop

open Transaction

/-- `employeeId_operation_key`. -/
structure RequestKey where
  employeeId : Id
  operation : String
  key : String
  deriving DecidableEq

inductive IdempotencyRequestStatus where
  | processing
  | completed
  deriving DecidableEq, Repr

/-- A row of the service, with the payload that `requestHash` digests and the response as
JSON, which is never `null`. -/
structure IdempotencyRequest (Payload Response : Type) where
  requestKey : RequestKey
  requestHash : Payload
  status : IdempotencyRequestStatus
  response : Option Response
  createdAt : Timestamp
  completedAt : Option Timestamp
  expiresAt : Timestamp

/-- The rows of the service beside the tables that the commands work on. -/
structure Backend (σ Payload Response : Type) where
  requests : Table fun row : IdempotencyRequest Payload Response => row.requestKey
  store : σ

structure IdempotentOperationInput (Payload : Type) where
  requestKey : RequestKey
  request : Payload

/-- What a call returns: the result of its own callback, or the stored response. -/
inductive Outcome (Result Response : Type) where
  | performed (result : Result)
  | replayed (response : Response)

namespace Backend

variable {σ Payload Response : Type}

@[simps] def idempotencyRequest : Part (Backend σ Payload Response)
    (Table fun row : IdempotencyRequest Payload Response => row.requestKey) where
  get := requests
  set value backend := { backend with requests := value }
  get_set _ _ := rfl

@[simps] def storePart : Part (Backend σ Payload Response) σ where
  get := store
  set value backend := { backend with store := value }
  get_set _ _ := rfl

/-- No command has run on the store yet. -/
def start (store : σ) : Backend σ Payload Response where
  requests := .empty
  store

end Backend

namespace IdempotencyService

open Backend

variable {σ Payload Result Response : Type} [DecidableEq Payload]

/-- `IDEMPOTENCY_TTL_MS`. -/
def idempotencyTtlMs : Nat := 24 * 60 * 60 * 1000

def findExisting (input : IdempotentOperationInput Payload) :
    Tx (Backend σ Payload Response) Failure (Option (IdempotencyRequest Payload Response)) :=
  findUnique idempotencyRequest input.requestKey

def differentRequest : Failure :=
  .conflict "Idempotency key was already used with a different request."

def stillRunning : Failure := .conflict "The idempotent operation is still running."

def replay (existing : IdempotencyRequest Payload Response) (requestHash : Payload) :
    Tx (Backend σ Payload Response) Failure (Outcome Result Response) := do
  require (existing.requestHash = requestHash) differentRequest
  require (existing.status = .completed) stillRunning
  let response ← orFail existing.response stillRunning
  pure (.replayed response)

/-- The lookup before the transaction, and the one after a collision. -/
def lookup (input : IdempotentOperationInput Payload) :
    Tx (Backend σ Payload Response) Failure (Option (Outcome Result Response)) := do
  let existing ← findExisting input
  ifSome existing
    (fun existing => do
      let outcome ← replay existing input.request
      pure (some outcome))
    (pure none)

def newRequest (input : IdempotentOperationInput Payload) (now : Timestamp) :
    IdempotencyRequest Payload Response where
  requestKey := input.requestKey
  requestHash := input.request
  status := .processing
  response := none
  createdAt := now
  completedAt := none
  expiresAt := now + idempotencyTtlMs

/-- Run the callback between the insertion and the completion of the row. -/
def perform (toJson : Result → Response) (input : IdempotentOperationInput Payload)
    (operation : Tx σ Failure Result) (now : Timestamp) :
    Tx (Backend σ Payload Response) Failure (Outcome Result Response) := do
  create idempotencyRequest (newRequest input now)
    (.constraint "IdempotencyRequest_employeeId_operation_key_key")
  let result ← within storePart operation
  updateExpecting idempotencyRequest input.requestKey (fun _ => true)
    (fun row => { row with
      status := .completed
      response := some (toJson result)
      completedAt := some now })
    (.notFound "Record to update not found.")
  pure (.performed result)

/-- The transaction of `execute`. -/
def executeInTransaction (toJson : Result → Response) (input : IdempotentOperationInput Payload)
    (operation : Tx σ Failure Result) (now : Timestamp) :
    Tx (Backend σ Payload Response) Failure (Outcome Result Response) := do
  let existing ← findExisting input
  ifSome existing (fun existing => replay existing input.request)
    (perform toJson input operation now)

/-- Stock and cashier commands have no other durable replay identity. -/
def isProtected (operation : String) : Bool :=
  "inventory.stock.".isPrefixOf operation || "cashier-shift.".isPrefixOf operation

/-- What a round of the housekeeping may drop. -/
def isPurgeable (now : Timestamp) (row : IdempotencyRequest Payload Response) : Bool :=
  row.status = .completed && row.expiresAt < now && !isProtected row.requestKey.operation

/-- The deletion of `runHousekeepingIfNeeded`: as many purgeable rows as fit in a batch and
are not locked. -/
def purge (batch : RequestKey → Bool) (now : Timestamp) :
    Tx (Backend σ Payload Response) Failure Unit := do
  let _ ← deleteMany idempotencyRequest fun row => batch row.requestKey && isPurgeable now row

/-- The transactions of the backend, as the idempotency service sees them. -/
inductive Event (σ Payload Result : Type) where
  | lookup (input : IdempotentOperationInput Payload)
  | transact (input : IdempotentOperationInput Payload) (operation : Tx σ Failure Result)
      (now : Timestamp)
  | housekeeping (batch : RequestKey → Bool) (now : Timestamp)
  /-- A transaction outside the service. -/
  | other (program : Tx σ Failure Unit)

def Event.execute (toJson : Result → Response) :
    Event σ Payload Result → Tx (Backend σ Payload Response) Failure
      (Option (Outcome Result Response))
  | .lookup input => IdempotencyService.lookup input
  | .transact input operation now => some <$> executeInTransaction toJson input operation now
  | .housekeeping batch now => do
      purge batch now
      pure none
  | .other program => do
      within storePart program
      pure none

/-- The call that the transaction belongs to. -/
def Event.input : Event σ Payload Result → Option (IdempotentOperationInput Payload)
  | .lookup input => some input
  | .transact input _ _ => some input
  | .housekeeping _ _ => none
  | .other _ => none

end IdempotencyService

end CoffeeShop
