import CoffeeShop.Store.Database
import Mathlib.Data.List.Sort

/-!
The life of a print job: creation, claim, acknowledgement, failure and review.
-/

namespace CoffeeShop

/-- What an agent reports of a failed job, and an operator of an uncertain one. -/
inductive PrintFailureOutcome where
  | notPrinted
  | unknown
  deriving DecidableEq, Repr

inductive PrintResolution where
  | printed
  | notPrinted
  deriving DecidableEq, Repr

namespace PrintingService

open Transaction PrintStore

/-- `PRINT_JOB_LEASE_MS`. -/
def printJobLeaseMs : Nat := 60000

/-- The check constraints of the rows that a statement has left. -/
def checkJobs : Tx PrintStore Failure Unit := do
  let store ← get
  require (store.jobs.rows.all PrintJob.stateCheck) (.constraint "PrintJob_state_check")
  require (store.jobs.rows.all PrintJob.valuesCheck) (.constraint "PrintJob_values_check")

/-- A change of a job as a statement makes it. -/
def touched (now : Timestamp) (change : PrintJob → PrintJob) (job : PrintJob) : PrintJob :=
  { change job with updatedAt := now }

/-- `printJob.updateMany`. -/
def updateJobs (condition : PrintJob → Bool) (change : PrintJob → PrintJob) (now : Timestamp)
    (keeps : ∀ job, (change job).id = job.id := by intro; rfl) : Tx PrintStore Failure Nat := do
  let count ← updateMany printJob condition (touched now change) keeps
  checkJobs
  pure count

/-- `printJob.updateMany` of one job, with the comparison of the count. -/
def updateJob (id : Id) (guard : PrintJob → Bool) (change : PrintJob → PrintJob) (failure : Failure)
    (now : Timestamp) (keeps : ∀ job, (change job).id = job.id := by intro; rfl) :
    Tx PrintStore Failure Unit := do
  let count ← updateJobs (fun job => job.id = id && guard job) change now keeps
  require (count = 1) failure

/-- `printJob.create`. -/
def insertJob (job : PrintJob) : Tx PrintStore Failure Unit := do
  require job.stateCheck (.constraint "PrintJob_state_check")
  require job.valuesCheck (.constraint "PrintJob_values_check")
  let taken ← findFirst printJob fun other => other.deduplicationKey = job.deduplicationKey
  require taken.isNone (.constraint "PrintJob_deduplicationKey_key")
  create printJob job (.constraint "PrintJob_pkey")

section Commits

variable {before after : PrintStore} {condition guard : PrintJob → Bool}
variable {change : PrintJob → PrintJob} {keeps : ∀ job, (change job).id = job.id}
variable {now : Timestamp}

theorem touched_id (now : Timestamp) (keeps : ∀ job, (change job).id = job.id) (job : PrintJob) :
    (touched now change job).id = job.id := keeps job

/-- A statement commits only rows that satisfy the constraints. -/
theorem commits_checkJobs {result : Unit} :
    Commits checkJobs before result after ↔
      ((∀ job ∈ before.jobs, job.stateCheck = true) ∧
        ∀ job ∈ before.jobs, job.valuesCheck = true) ∧ after = before := by
  simp only [checkJobs, commits_bind, commits_get, commits_require, List.all_eq_true,
    Table.mem_def]
  constructor
  · rintro ⟨_, _, ⟨rfl, rfl⟩, _, _, ⟨states, rfl⟩, values, rfl⟩
    exact ⟨⟨states, values⟩, rfl⟩
  · rintro ⟨⟨states, values⟩, rfl⟩
    exact ⟨after, after, ⟨rfl, rfl⟩, (), after, ⟨states, rfl⟩, values, rfl⟩

theorem commits_touchJobs {count : Nat} :
    Commits (updateMany printJob condition (touched now change) keeps : Tx PrintStore Failure Nat)
        before count after ↔
      count = before.jobs.count condition ∧
        after = { before with
          jobs := before.jobs.update condition (touched now change) (touched_id now keeps) } :=
  commits_updateMany

theorem commits_updateJobs {count : Nat} :
    Commits (updateJobs condition change now keeps) before count after ↔
      count = before.jobs.count condition ∧
        after = { before with
          jobs := before.jobs.update condition (touched now change) (touched_id now keeps) } ∧
        (∀ job ∈ after.jobs, job.stateCheck = true) ∧
        ∀ job ∈ after.jobs, job.valuesCheck = true := by
  simp only [updateJobs, commits_bind, commits_touchJobs, commits_checkJobs, commits_pure]
  constructor
  · rintro ⟨_, _, ⟨rfl, rfl⟩, _, _, ⟨checks, rfl⟩, rfl, rfl⟩
    exact ⟨rfl, rfl, checks⟩
  · rintro ⟨rfl, rfl, checks⟩
    exact ⟨_, _, ⟨rfl, rfl⟩, (), _, ⟨checks, rfl⟩, rfl, rfl⟩

theorem find?_updateJobs {count : Nat}
    (committed : Commits (updateJobs condition change now keeps) before count after) (id : Id) :
    after.jobs.find? id =
      (before.jobs.find? id).map fun row => if condition row then touched now change row else row := by
  obtain ⟨-, rfl, -⟩ := commits_updateJobs.mp committed
  have updated := @Table.find?_update _ _ _ _ before.jobs condition (touched now change)
    (touched_id now keeps) id
  exact updated

/-- Every job after an update was there before it. -/
theorem exists_before_updateJobs {count : Nat} {job : PrintJob}
    (committed : Commits (updateJobs condition change now keeps) before count after)
    (membership : job ∈ after.jobs) :
    ∃ row ∈ before.jobs, (if condition row then touched now change row else row) = job := by
  obtain ⟨-, rfl, -⟩ := commits_updateJobs.mp committed
  have updated : job ∈ before.jobs.update condition (touched now change) (touched_id now keeps) :=
    membership
  rwa [Table.mem_update] at updated

theorem commits_updateJob {id : Id} {failure : Failure} {result : Unit} :
    Commits (updateJob id guard change failure now keeps) before result after ↔
      (before.jobs.find? id).any guard = true ∧
        after = { before with
          jobs := before.jobs.update (fun job => job.id = id && guard job) (touched now change)
            (touched_id now keeps) } ∧
        (∀ job ∈ after.jobs, job.stateCheck = true) ∧
        ∀ job ∈ after.jobs, job.valuesCheck = true := by
  simp only [updateJob, commits_bind, commits_updateJobs, commits_require, Table.count_key]
  constructor
  · rintro ⟨_, _, ⟨rfl, rfl, checks⟩, single, rfl⟩
    refine ⟨?_, rfl, checks⟩
    by_contra fails
    simp [fails] at single
  · rintro ⟨found, rfl, checks⟩
    exact ⟨_, _, ⟨rfl, rfl, checks⟩, by simp [found], rfl⟩

theorem commits_insertJob {job : PrintJob} {result : Unit} :
    Commits (insertJob job) before result after ↔
      job.stateCheck = true ∧ job.valuesCheck = true ∧
        (∀ other ∈ before.jobs, other.deduplicationKey ≠ job.deduplicationKey) ∧
        ∃ next, before.jobs.insert? job = some next ∧ after = { before with jobs := next } := by
  simp only [insertJob, commits_bind, commits_require, commits_findFirst, commits_create,
    Option.isNone_iff_eq_none, printJob_get]
  constructor
  · rintro ⟨_, _, ⟨states, rfl⟩, _, _, ⟨values, rfl⟩, _, _, ⟨rfl, rfl⟩, _, _, ⟨free, rfl⟩, rest⟩
    refine ⟨states, values, ?_, rest⟩
    intro other membership equal
    have taken := Table.first?_eq_none.mp free other membership
    simp [equal] at taken
  · rintro ⟨states, values, free, rest⟩
    refine ⟨(), before, ⟨states, rfl⟩, (), before, ⟨values, rfl⟩, _, before, ⟨rfl, rfl⟩, (), before,
      ⟨?_, rfl⟩, rest⟩
    rw [Table.first?_eq_none]
    intro other membership
    simp [free other membership]

end Commits

/-- `printJob.createMany` of one job with `skipDuplicates`. -/
def insertUnlessKnown (job : PrintJob) : Tx PrintStore Failure Unit := do
  let taken ← findFirst printJob fun other => other.deduplicationKey = job.deduplicationKey
  when taken.isNone (insertJob job)

def acknowledgementMissing : String :=
  "Print acknowledgement missing. Check the printer before retrying."

def isExpired (deviceId : Option Id) (now : Timestamp) (job : PrintJob) : Bool :=
  job.status = .processing && job.leaseExpiresAt.any (· < now) &&
    deviceId.all fun deviceId => job.deviceId = some deviceId

/-- `ORDER BY "leaseExpiresAt", "id"`. -/
def expiresFirst (left right : PrintJob) : Bool :=
  left.leaseExpiresAt.getD 0 < right.leaseExpiresAt.getD 0 ||
    left.leaseExpiresAt.getD 0 = right.leaseExpiresAt.getD 0 && left.id ≤ right.id

/-- `ORDER BY "createdAt", "id"`. -/
def createdFirst (left right : PrintJob) : Bool :=
  left.createdAt < right.createdAt || left.createdAt = right.createdAt && left.id ≤ right.id

/-- The first rows in the given order, without those that other transactions have locked. -/
def candidates (jobs : List PrintJob) (order : PrintJob → PrintJob → Bool) (limit : Nat)
    (locked : Id → Bool) : List Id :=
  (((jobs.filter fun job => !locked job.id).insertionSort fun left right => order left right).take
    limit).map (·.id)

/-- `recoverExpiredJobs`, of one device or of all. -/
def recoverExpiredJobs (deviceId : Option Id) (locked : Id → Bool) (now : Timestamp) :
    Tx PrintStore Failure Unit := do
  let expired ← findMany printJob (isExpired deviceId now)
  let _ ← updateJobs (fun job => job.id ∈ candidates expired expiresFirst 200 locked)
    (fun job => { job with
      status := .requiresReview
      lockedAt := none
      leaseExpiresAt := none
      lastError := some acknowledgementMissing }) now

def isReady (device : PrintDevice) : Bool :=
  device.isActive && device.deletedAt.isNone && device.status = .ready

def isClaimable (deviceId : Id) (now : Timestamp) (job : PrintJob) : Bool :=
  job.deviceId = some deviceId && job.status = .pending && job.availableAt ≤ now &&
    job.attempts < job.maxAttempts

/-- Lease the oldest jobs of the device to its agent; returns the leased jobs. -/
def claimJobs (deviceId : Id) (limit : Nat) (locked : Id → Bool) (leaseToken : Id)
    (now : Timestamp) : Tx PrintStore Failure (List PrintJob) := do
  let current ← findUnique printDevice deviceId
  require (current.any isReady) (.conflict "Print device is not ready to claim jobs.")
  recoverExpiredJobs (some deviceId) locked now
  let claimable ← findMany printJob (isClaimable deviceId now)
  let ids := candidates claimable createdFirst limit locked
  let _ ← updateJobs (fun job => job.id ∈ ids)
    (fun job => { job with
      status := .processing
      attempts := job.attempts + 1
      lockedAt := some now
      leaseExpiresAt := some (now + printJobLeaseMs)
      leaseTokenHash := some leaseToken }) now
  findMany printJob fun job => job.id ∈ ids

def staleLease : Failure := .conflict "Print job lease is stale or invalid."

/-- The job that the device leased with the token. -/
def isLeased (deviceId jobId leaseToken : Id) (job : PrintJob) : Bool :=
  job.id = jobId && job.deviceId = some deviceId && job.leaseTokenHash = some leaseToken

def completeJob (deviceId jobId leaseToken : Id) (now : Timestamp) : Tx PrintStore Failure Unit := do
  let updated ← updateJobs
    (fun job => isLeased deviceId jobId leaseToken job &&
      (job.status = .processing || job.status = .requiresReview))
    (fun job => { job with
      status := .printed
      printedAt := some now
      lockedAt := none
      leaseExpiresAt := none
      lastError := none }) now
  -- The final token is kept so that a lost acknowledgement can be repeated.
  when (updated ≠ 1) do
    let completed ← findFirst printJob fun job =>
      isLeased deviceId jobId leaseToken job && job.status = .printed
    require completed.isSome staleLease

def withoutItems (orderItemIds : List Id) (payload : KitchenPrintPayload) : KitchenPrintPayload :=
  { payload with items := payload.items.filter fun item => item.orderItemId ∉ orderItemIds }

/-- The payload of an order job without its cancelled items. -/
def uncancelledPayload (cancelledItems : Option Id → List Id) (job : PrintJob) :
    Option KitchenPrintPayload :=
  if job.type = .kitchenTicket then
    job.payload.kitchenOrder?.map (withoutItems (cancelledItems job.kitchenTicketId))
  else none

/-- `payload ? { payload } : {}`. -/
def replacePayload (payload : Option KitchenPrintPayload) (job : PrintJob) : PrintPayload :=
  match payload with
  | some payload => .kitchen payload
  | none => job.payload

/-- `Math.min(300, 2 ** (attempts - 1))` seconds. -/
def retryDelay (attempts : Nat) : Nat := min 300 (2 ^ (attempts - 1)) * 1000

/-- `failJob`; `cancelledItems` are the cancelled items of a ticket. -/
def failJob (deviceId jobId leaseToken : Id) (error : String) (outcome : PrintFailureOutcome)
    (cancelledItems : Option Id → List Id) (now : Timestamp) : Tx PrintStore Failure Unit := do
  let job ← findFirstOrFail printJob
    (fun job => isLeased deviceId jobId leaseToken job && job.status = .processing &&
      job.leaseExpiresAt.any (now ≤ ·)) staleLease
  let exhausted := job.maxAttempts ≤ job.attempts
  let uncertain := outcome = .unknown
  let payload := if uncertain then none else uncancelledPayload cancelledItems job
  let cancelled := payload.any (·.items.isEmpty)
  updateJob job.id (fun row => row.status = .processing && row.leaseTokenHash = job.leaseTokenHash)
    (fun row => { row with
      status := if cancelled then .cancelled else if uncertain then .requiresReview
        else if exhausted then .failed else .pending
      availableAt := now + retryDelay job.attempts
      lockedAt := none
      leaseExpiresAt := none
      leaseTokenHash := if uncertain then job.leaseTokenHash else none
      failedAt := if !cancelled ∧ ¬uncertain ∧ exhausted then some now else none
      lastError := some error
      payload := replacePayload payload row })
    (.conflict "Print job state changed. Please retry.") now

def requiresReview (message : String) : Failure :=
  .conflictWithCode "PRINT_JOB_REQUIRES_REVIEW" message

/-- `assertCompatibleDevice`. -/
def assertCompatibleDevice (deviceId : Id) (jobType : PrintJobType) :
    Tx PrintStore Failure Unit := do
  let expected : PrintDeviceType := if jobType = .kitchenTicket then .kitchen else .receipt
  let device ← findUnique printDevice deviceId
  require (device.any fun device =>
      device.type = expected && device.isActive && device.deletedAt.isNone)
    (.conflict s!"An active {repr expected} print device is required.")

/-- `retryJob`; a missing device keeps the assigned one. -/
def retryJob (id : Id) (deviceId : Option (Option Id)) (cancelledItems : Option Id → List Id)
    (releasedAt : Option Id → Timestamp) (now : Timestamp) : Tx PrintStore Failure Unit := do
  let job ← findUniqueOrFail printJob id (.notFound s!"Print job {id} not found.")
  require (job.status ≠ .requiresReview)
    (requiresReview "Check the printer and reconcile this job before retrying.")
  require (job.status = .pending ∨ job.status = .failed)
    (.conflict "Only pending or failed jobs can be retried.")
  let deviceId := deviceId.getD job.deviceId
  whenSome deviceId fun deviceId => assertCompatibleDevice deviceId job.type
  let payload := uncancelledPayload cancelledItems job
  require (payload.all fun payload => !payload.items.isEmpty)
    (.conflict "Cancelled kitchen items cannot be printed again.")
  updateJob id (fun row => row.status = job.status)
    (fun row => { row with
      status := .pending
      deviceId
      attempts := 0
      availableAt := max now (releasedAt job.kitchenTicketId)
      failedAt := none
      lastError := none
      payload := replacePayload payload row })
    (.conflict "Print job state changed. Please retry.") now

def notPrinted : String := "Operator confirmed no paper was printed."

def resolveJob (id : Id) (outcome : PrintResolution) (expectedUpdatedAt now : Timestamp) :
    Tx PrintStore Failure Unit := do
  let job ← findUniqueOrFail printJob id (.notFound s!"Print job {id} not found.")
  let changed : Failure := .conflict "Print job state changed. Refresh before resolving."
  require (job.status = .requiresReview ∧ job.updatedAt = expectedUpdatedAt) changed
  require (¬(outcome = .printed ∧ job.deviceId.isNone))
    (.conflict "Cannot confirm printing without an assigned device.")
  updateJob id (fun row => row.status = .requiresReview && row.updatedAt = job.updatedAt)
    (fun row => { row with
      status := if outcome = .printed then .printed else .failed
      printedAt := if outcome = .printed then some now else none
      failedAt := if outcome = .notPrinted then some now else none
      leaseTokenHash := none
      lastError := if outcome = .notPrinted then some notPrinted else none }) changed now

/-- `cancelPendingReceiptJobs`. -/
def cancelPendingReceiptJobs (invoiceId : Id) (now : Timestamp) : Tx PrintStore Failure Unit := do
  let _ ← updateJobs
    (fun job => job.invoiceId = some invoiceId && job.type = .receipt && job.status = .pending)
    (fun job => { job with status := .cancelled }) now

end PrintingService

end CoffeeShop
