import CoffeeShop.Printing.Jobs

/-!
Kitchen jobs follow their order: new tickets, divided lines and cancelled items.
-/

namespace CoffeeShop

/-- The items of a ticket that are cancelled. -/
def SalesStore.cancelledTicketItems (sales : SalesStore) (ticketId : Option Id) : List Id :=
  (sales.ticketItems.select fun row => ticketId = some row.ticketId &&
    (sales.items.find? row.orderItemId).any (·.serveStatus = .cancelled)).map (·.orderItemId)

/-- A line of an order that `splitTable` has divided. -/
structure KitchenPrintMove where
  orderItemId : Id
  movedOrderItemId : Id
  originalQuantity : Nat
  quantityToMove : Nat

structure KitchenPrintSplit where
  employeeId : Id
  destinationSessionId : Id
  destinationTableName : String
  moves : List KitchenPrintMove

structure KitchenTicketJob where
  kitchenTicketId : Id
  deviceId : Id
  availableAt : Timestamp
  payload : KitchenPrintPayload

namespace PrintingService

open Transaction PrintStore

def enqueueKitchenTicket (input : KitchenTicketJob) (now : Timestamp) : Transact Unit := do
  let id ← freshId
  printingTx (insertJob {
    id
    type := .kitchenTicket
    kitchenTicketId := some input.kitchenTicketId
    deviceId := some input.deviceId
    payload := .kitchen input.payload
    availableAt := input.availableAt
    deduplicationKey := .kitchenTicket input.kitchenTicketId
    createdAt := now
    updatedAt := now })

/-- The order jobs of the tickets that hold one of the items, `orderBy: { id: 'asc' }`. -/
def findKitchenJobs (orderItemIds : List Id) : Transact (List PrintJob) := do
  let database ← get
  let ticketIds := (database.sales.ticketItems.select fun row =>
    row.orderItemId ∈ orderItemIds).map (·.ticketId)
  let jobs ← printingTx (findMany printJob fun job => job.type = .kitchenTicket &&
    job.deduplicationKey.isKitchenOrder && job.kitchenTicketId.any (· ∈ ticketIds))
  pure (jobs.insertionSort fun left right => left.id ≤ right.id)

/-- A job that has not been handed to an agent, or was given back by one. -/
def isUnprinted (job : PrintJob) : Bool := job.status = .pending || job.status = .failed

/-- The update of a job that nothing else has changed since it was read. -/
def rewriteJob (job : PrintJob) (change : PrintJob → PrintJob) (failure : Failure)
    (now : Timestamp) (keeps : ∀ job, (change job).id = job.id := by intro; rfl) :
    Tx PrintStore Failure Unit :=
  updateJob job.id (fun row => row.status = job.status && row.updatedAt = job.updatedAt) change
    failure now keeps

/-- `movesById.get`. -/
def findMove (moves : List KitchenPrintMove) (orderItemId : Id) : Option KitchenPrintMove :=
  moves.find? fun move => move.orderItemId = orderItemId

/-- The quantity that the job shows is the one that the line had. -/
def matchesMove (moves : List KitchenPrintMove) (item : KitchenPrintItem) : Bool :=
  (findMove moves item.orderItemId).all fun move => item.quantity = move.originalQuantity

def remainingItem (moves : List KitchenPrintMove) (item : KitchenPrintItem) : KitchenPrintItem :=
  match findMove moves item.orderItemId with
  | some move => { item with quantity := move.originalQuantity - move.quantityToMove }
  | none => item

def movedItem (moves : List KitchenPrintMove) (item : KitchenPrintItem) :
    Option KitchenPrintItem :=
  (findMove moves item.orderItemId).map fun move =>
    { item with orderItemId := move.movedOrderItemId, quantity := move.quantityToMove }

/-- The job for the part of the lines that moved to another session. -/
def splitJob (input : KitchenPrintSplit) (job : PrintJob) (payload : KitchenPrintPayload) (id : Id)
    (now : Timestamp) : PrintJob where
  id
  type := .kitchenTicket
  kitchenTicketId := job.kitchenTicketId
  deviceId := job.deviceId
  requestedById := some input.employeeId
  status := job.status
  copies := job.copies
  maxAttempts := job.maxAttempts
  availableAt := job.availableAt
  deduplicationKey := .kitchenSplit job.id input.destinationSessionId
  payload := .kitchen { payload with
    orderSessionId := input.destinationSessionId
    tableName := some input.destinationTableName
    items := payload.items.filterMap (movedItem input.moves) }
  createdAt := now
  updatedAt := now

/-- Divide the items of one job. -/
def splitJobItems (input : KitchenPrintSplit) (job : PrintJob) (id : Id) (now : Timestamp) :
    Tx PrintStore Failure Unit :=
  if job.status = .cancelled then pure () else do
    let payload ← orFail job.payload.kitchenOrder?
      (.conflict "Invalid kitchen print payload. Reconcile before splitting.")
    require (payload.items.all (matchesMove input.moves))
      (.conflict "Kitchen print quantity changed. Refresh before splitting.")
    when (payload.items.filterMap (movedItem input.moves) ≠ []) do
      -- A claimed ticket may already be on paper, so its quantities are immutable.
      require (isUnprinted job) (.conflictWithCode "KITCHEN_SPLIT_REQUIRES_UNPRINTED"
        ("Cannot partially split a line after its kitchen ticket was claimed. " ++
          "Move the whole line instead."))
      rewriteJob job (fun row => { row with
        payload := .kitchen { payload with
          items := payload.items.map (remainingItem input.moves) } })
        (.conflict "Kitchen print state changed. Retry splitting.") now
      insertJob (splitJob input job payload id now)

def splitKitchenItems (input : KitchenPrintSplit) (now : Timestamp) : Transact Unit :=
  if input.moves = [] then pure () else do
    let jobs ← findKitchenJobs (input.moves.map (·.orderItemId))
    forEach jobs fun job => do
      let id ← freshId
      printingTx (splitJobItems input job id now)

/-- The slip that takes items of a printed job back. -/
def cancellationSlip (job : PrintJob) (payload : KitchenPrintPayload)
    (items : List KitchenPrintItem) (employeeId : Id) (reason : String) (id : Id)
    (now : Timestamp) : PrintJob where
  id
  type := .kitchenTicket
  kitchenTicketId := job.kitchenTicketId
  deviceId := job.deviceId
  requestedById := some employeeId
  availableAt := now
  deduplicationKey := .kitchenCancellation job.id
    ((items.map (·.orderItemId)).insertionSort (· ≤ ·))
  payload := .kitchen { payload with
    cancellation := some { title := "CANCELLED ITEMS", originalJobId := job.id, reason }
    items }
  createdAt := now
  updatedAt := now

/-- Take cancelled items off one job, or print a slip if it may be on paper. -/
def cancelJobItems (orderItemIds : List Id) (employeeId : Id) (reason : String) (job : PrintJob)
    (id : Id) (now : Timestamp) : Tx PrintStore Failure Unit :=
  if job.status = .cancelled then pure () else do
    let payload ← orFail job.payload.kitchenOrder?
      (.conflict "Invalid kitchen print payload. Reconcile the ticket before cancellation.")
    let items := payload.items.filter fun item => item.orderItemId ∈ orderItemIds
    when (items ≠ []) do
      if isUnprinted job then
        let remaining := withoutItems orderItemIds payload
        rewriteJob job (fun row => { row with
          payload := .kitchen remaining
          status := if remaining.items.isEmpty then .cancelled else row.status
          failedAt := if remaining.items.isEmpty then none else row.failedAt })
          (.conflict "Kitchen print state changed. Retry cancellation.") now
      else
        insertUnlessKnown (cancellationSlip job payload items employeeId reason id now)

def cancelKitchenItems (orderItemIds : List Id) (employeeId : Id) (reason : String)
    (now : Timestamp) : Transact Unit :=
  if orderItemIds = [] then pure () else do
    let jobs ← findKitchenJobs orderItemIds
    forEach jobs fun job => do
      let id ← freshId
      printingTx (cancelJobItems orderItemIds employeeId reason job id now)

end PrintingService

end CoffeeShop
