import CoffeeShop.Payments.Notifications

/-!
Reconciliation of payment attempts with their provider.

A reconciliation claims the attempt, stores the request, asks the provider and applies
the answer, each in a transaction of its own.  The worker may stop between any two of
them, so each one is a definition here.
-/

namespace CoffeeShop

open Transaction PaymentStore

/-- The fields of VNPay's `querydr` response that are read. -/
structure VnpayQueryResponse where
  responseCode : Option String
  transactionStatus : Option String
  merchantReference : Option Id
  transactionType : Option String
  /-- `vnp_Amount` in hundredths, if it is a number. -/
  amount : Option Nat
  transactionNo : Option String

structure MomoQueryResponse where
  resultCode : Int
  amount : Option Int
  transId : Option Int

inductive PayosLinkStatus where
  | pending
  | cancelled
  | underpaid
  | paid
  | expired
  | processing
  | failed
  deriving DecidableEq, Repr

def PayosLinkStatus.text : PayosLinkStatus → String
  | .pending => "PENDING"
  | .cancelled => "CANCELLED"
  | .underpaid => "UNDERPAID"
  | .paid => "PAID"
  | .expired => "EXPIRED"
  | .processing => "PROCESSING"
  | .failed => "FAILED"

structure PayosTransaction where
  reference : String
  amount : Nat

structure PayosQueryResponse where
  id : String
  orderCode : Id
  amount : Nat
  amountPaid : Nat
  amountRemaining : Int
  status : PayosLinkStatus
  transactions : List PayosTransaction

structure AttemptView where
  attempt : PaymentAttempt
  invoice : Invoice

namespace PaymentReconciliation

/-- `MAX_QUERY_ATTEMPTS`. -/
def maxQueryAttempts : Nat := 5

/-- `LOCK_TIMEOUT_MS`. -/
def lockTimeoutMs : Nat := 10 * 60 * 1000

/-- `RETRY_BASE_MS`. -/
def retryBaseMs : Nat := 60 * 1000

def providerName : PaymentProvider → String
  | .vnpay => "VNPAY"
  | .momo => "MOMO"
  | .payos => "PAYOS"

/-- No lock, or the lock of a worker that is gone. -/
def lockIsFree (lock : Option Timestamp) (now : Timestamp) : Bool :=
  lock.all (· + lockTimeoutMs < now)

def isDue (row : PaymentAttempt) (now : Timestamp) : Bool :=
  (row.status = .pending || row.status = .expired) && row.nextReconcileAt.any (· ≤ now)

/-- `claimAttempt`, which fails where the source returns `false`. -/
def claimAttempt (id : Id) (dueOnly : Bool) (now : Timestamp) : Tx PaymentStore Failure Unit := do
  updateExpecting paymentAttempt id
    (fun row => (!dueOnly || isDue row now) && lockIsFree row.reconciliationLockedAt now)
    (fun row => { row with reconciliationLockedAt := some now })
    (.conflict "This payment attempt is already being reconciled.")
  checkAttempts

def releaseAttempt (id : Id) : Tx PaymentStore Failure Unit :=
  updateAttempts (fun row => row.id = id) (fun row => { row with reconciliationLockedAt := none })

def checkProviderRequests : Tx PaymentStore Failure Unit := do
  let store ← get
  require (store.providerRequests.rows.all PaymentProviderRequest.completionCheck)
    (.constraint "PaymentProviderRequest_completion_check")

/-- `paymentProviderRequest.create`. -/
def createRequest (row : PaymentProviderRequest) : Tx PaymentStore Failure Unit := do
  create paymentProviderRequest row (.constraint "PaymentProviderRequest_pkey")
  checkProviderRequests

/-- `paymentProviderRequest.create` of `queryProvider`. -/
def createQuery (attemptId : Id) (now : Timestamp) : Transact Unit := do
  let attempt ← paymentTx (findUniqueOrFail paymentAttempt attemptId
    (.notFound s!"Payment attempt with ID {attemptId} not found."))
  let id ← freshId
  paymentTx (createRequest {
    id
    type := .query
    status := .pending
    responseCode := none
    transactionStatus := none
    errorMessage := none
    startedAt := now
    completedAt := none
    paymentAttemptId := attempt.id
    paymentRefundId := none })

/-- `paymentProviderRequest.update` once the provider has answered. -/
def completeRequest (requestId : Id) (responseCode transactionStatus : Option String)
    (now : Timestamp) : Tx PaymentStore Failure Unit := do
  updateExpecting paymentProviderRequest requestId (fun _ => true)
    (fun row => { row with
      status := .succeeded
      responseCode
      transactionStatus
      completedAt := some now })
    (.notFound "Record to update not found.")
  checkProviderRequests

def failRequest (requestId : Id) (message : String) (now : Timestamp) :
    Tx PaymentStore Failure Unit := do
  updateExpecting paymentProviderRequest requestId (fun _ => true)
    (fun row => { row with
      status := .failed
      errorMessage := some message
      completedAt := some now })
    (.notFound "Record to update not found.")
  checkProviderRequests

def findAttemptView (attemptId : Id) : Transact AttemptView := do
  let attempt ← paymentTx (findUniqueOrFail paymentAttempt attemptId
    (.notFound s!"Payment attempt with ID {attemptId} not found."))
  let invoice ← findInvoiceOf attempt
  pure { attempt, invoice }

/-- A reconciliation that is over for now counts and gives the lock back. -/
def reconciled (row : PaymentAttempt) (now : Timestamp) : PaymentAttempt :=
  { row with
    lastReconciledAt := some now
    nextReconcileAt := none
    reconciliationLockedAt := none
    reconciliationAttempts := row.reconciliationAttempts + 1 }

def openAttemptIncident (attempt : PaymentAttempt) (type : PaymentReconciliationIncidentType)
    (title : String) (now : Timestamp) : Tx PaymentStore Failure Unit :=
  openIncident {
    type
    deduplicationKey := .attempt type attempt.id
    title
    paymentAttemptId := attempt.id
    paymentRefundId := none } now

def reviewed (type : PaymentReconciliationIncidentType) (now : Timestamp) (row : PaymentAttempt) :
    PaymentAttempt :=
  if row.status = .succeeded then reconciled row now
  else
    { reconciled row now with
      status := .requiresReview
      completedAt := none
      failureCode := some (.review type) }

def markForReview (attempt : PaymentAttempt) (type : PaymentReconciliationIncidentType)
    (title : String) (now : Timestamp) : Tx PaymentStore Failure Unit := do
  updateAttempt attempt (reviewed type now) (by intro row; unfold reviewed; split <;> rfl)
  openAttemptIncident attempt type title now

def autoResolveIncidents (attemptId : Id) (now : Timestamp) : Tx PaymentStore Failure Unit := do
  let _ ← updateMany paymentReconciliationIncident
    (fun row => row.paymentAttemptId = attemptId && row.paymentRefundId.isNone &&
      row.status = .opened && (row.type = .staleAttempt || row.type = .providerUnavailable))
    (fun row => { row with
      status := .resolved
      resolvedAt := some now
      resolutionNote := some "Resolved by a successful provider reconciliation." })
  checkIncidents

def isSettled (status : PaymentStatus) : Bool :=
  status = .paid || status = .partiallyRefunded || status = .refunded

/-- A further confirmation of an attempt that is confirmed already. -/
def confirmAgain (view : AttemptView) (providerTransactionNo : String) (now : Timestamp) :
    Tx PaymentStore Failure Unit :=
  let attempt := view.attempt
  if attempt.providerTransactionNo ≠ some providerTransactionNo then
    markForReview attempt .providerPaymentMismatch
      "Provider transaction number differs from confirmed payment" now
  else if !isSettled view.invoice.paymentStatus then
    markForReview attempt .paymentStateConflict
      "Provider payment succeeded but invoice is not paid" now
  else do
    updateAttempt attempt (reconciled · now)
    autoResolveIncidents attempt.id now

/-- `SUCCEEDED` with the number of the provider; a payOS link is its own number. -/
def confirmed (providerTransactionNo : String) (now : Timestamp) (row : PaymentAttempt) :
    PaymentAttempt :=
  { reconciled row now with
    status := .succeeded
    providerTransactionNo := some providerTransactionNo
    providerPaymentLinkId :=
      if row.provider = .payos then some providerTransactionNo else row.providerPaymentLinkId
    failureCode := none
    completedAt := some now }

def confirmProviderPayment (view : AttemptView) (providerTransactionNo : Option String)
    (now : Timestamp) : Transact Unit :=
  let attempt := view.attempt
  ifSome (providerTransactionNo.filter fun number => number ≠ "" && number ≠ "0")
    (fun number =>
      if attempt.status = .succeeded then paymentTx (confirmAgain view number now)
      else if view.invoice.paymentStatus ≠ .unpaid then
        paymentTx (markForReview attempt .paymentStateConflict
          "Provider payment succeeded after invoice state changed" now)
      else do
        PaymentsService.completeInvoice attempt
        paymentTx do
          updateAttempt attempt (confirmed number now)
          autoResolveIncidents attempt.id now)
    (paymentTx (markForReview attempt .providerPaymentMismatch
      "Provider confirmed payment without a transaction number" now))

def confirmProviderFailure (view : AttemptView) (transactionStatus : String) (now : Timestamp) :
    Tx PaymentStore Failure Unit :=
  let attempt := view.attempt
  if attempt.status = .succeeded ∨ view.invoice.paymentStatus ≠ .unpaid then
    markForReview attempt .providerPaymentMismatch
      "Provider payment failed or reversed after invoice was paid" now
  else
    updateAttempt attempt (fun row => { reconciled row now with
      status := .failed
      providerTransactionNo := none
      failureCode := some (.provider (providerName row.provider ++ "_" ++ transactionStatus))
      completedAt := some now })

/-- `RETRY_BASE_MS * 2 ** (attempts - 1)` after now. -/
def retryAt (attempts : Nat) (now : Timestamp) : Timestamp :=
  now + retryBaseMs * 2 ^ (attempts - 1)

def rescheduleOrReview (attempt : PaymentAttempt) (type : PaymentReconciliationIncidentType)
    (now : Timestamp) : Tx PaymentStore Failure Unit :=
  let attempts := attempt.reconciliationAttempts + 1
  if attempt.status = .succeeded then do
    updateAttempt attempt (reconciled · now)
    openAttemptIncident attempt type "Confirmed payment could not be verified with provider" now
  else if maxQueryAttempts ≤ attempts then
    markForReview attempt type "Payment attempt could not be reconciled automatically" now
  else
    updateAttempt attempt (fun row => { row with
      lastReconciledAt := some now
      nextReconcileAt := some (retryAt attempts now)
      reconciliationLockedAt := none
      reconciliationAttempts := attempts })

def recordQueryFailure (attemptId requestId : Id) (message : String) (now : Timestamp) :
    Tx PaymentStore Failure Unit := do
  failRequest requestId message now
  let current ← findUnique paymentAttempt attemptId
  whenSome current fun attempt => rescheduleOrReview attempt .providerUnavailable now

inductive ResponseMismatch where
  | merchantReference
  | transactionType
  | amountFormat
  | amount
  deriving DecidableEq, Repr

def responseMismatch (attempt : PaymentAttempt) (response : VnpayQueryResponse) :
    Option ResponseMismatch :=
  if response.merchantReference ≠ some attempt.merchantReference then some .merchantReference
  else if response.transactionType ≠ some "01" then some .transactionType
  else match response.amount with
    | none => some .amountFormat
    | some amount => if (amount : Money) ≠ attempt.amount then some .amount else none

def applyQueryResponse (attemptId : Id) (response : VnpayQueryResponse) (now : Timestamp) :
    Transact Unit := do
  let view ← findAttemptView attemptId
  let attempt := view.attempt
  if response.responseCode ≠ some "00" then
    paymentTx (rescheduleOrReview attempt .providerUnavailable now)
  else if (responseMismatch attempt response).isSome then
    paymentTx (markForReview attempt .providerPaymentMismatch
      "VNPay transaction does not match the local payment attempt" now)
  else if response.transactionStatus = some "00" then
    confirmProviderPayment view response.transactionNo now
  else
    ifSome (response.transactionStatus.filter (VnpayService.isFinalPaymentFailure "00"))
      (fun status => paymentTx (confirmProviderFailure view status now))
      (if response.transactionStatus = some "04" ∨ response.transactionStatus = some "07" then
        paymentTx (markForReview attempt .providerPaymentMismatch
          "VNPay reported a reversal or suspected fraud requiring review" now)
      else paymentTx (rescheduleOrReview attempt .staleAttempt now))

/-- The captured transaction contradicts the attempt. -/
def momoMismatch (attempt : PaymentAttempt) (response : MomoQueryResponse) : Bool :=
  response.amount.all (fun amount => attempt.amount ≠ 100 * amount) ||
    response.transId.all (· ≤ 0) ||
    attempt.providerTransactionNo.any (fun number =>
      number ≠ "" && response.transId.all (number ≠ toString ·))

/-- The transaction of `queryMomo` that applies the answer. -/
def applyMomoResponse (attemptId : Id) (response : MomoQueryResponse) (now : Timestamp) :
    Transact Unit := do
  let view ← findAttemptView attemptId
  let attempt := view.attempt
  if response.resultCode = 0 then
    if momoMismatch attempt response then
      paymentTx (markForReview attempt .providerPaymentMismatch
        "MoMo transaction does not match the local payment attempt" now)
    else confirmProviderPayment view (response.transId.map toString) now
  else if MomoService.isFinalPaymentFailure response.resultCode then
    paymentTx (confirmProviderFailure view (toString response.resultCode) now)
  else paymentTx (rescheduleOrReview attempt .staleAttempt now)

/-- The link contradicts the attempt, its invoice or its own transactions. -/
def payosMismatch (view : AttemptView) (response : PayosQueryResponse)
    (expectedPaymentLinkId : Option String) : Bool :=
  view.attempt.currency ≠ "VND" ||
    response.orderCode ≠ view.attempt.merchantReference ||
    view.attempt.amount ≠ 100 * (response.amount : Int) ||
    view.attempt.amount ≠ view.invoice.totalAmount ||
    response.amount < response.amountPaid ||
    response.amountRemaining ≠ (response.amount : Int) - response.amountPaid ||
    (response.transactions.map (·.amount)).sum ≠ response.amountPaid ||
    ¬(response.transactions.map (·.reference)).Nodup ||
    view.attempt.providerPaymentLinkId.any (· ≠ response.id) ||
    expectedPaymentLinkId.any (· ≠ response.id)

/-- The transaction of `queryPayos` that applies the answer. -/
def applyPayosResponse (attemptId : Id) (response : PayosQueryResponse)
    (expectedPaymentLinkId : Option String) (now : Timestamp) : Transact Unit := do
  let view ← findAttemptView attemptId
  let attempt := view.attempt
  if payosMismatch view response expectedPaymentLinkId then
    paymentTx (markForReview attempt .providerPaymentMismatch
      "payOS link or paid amount does not match the local attempt" now)
  else if response.status = .paid then
    if attempt.amount ≠ 100 * (response.amountPaid : Int) then
      paymentTx (markForReview attempt .providerPaymentMismatch
        "payOS marked a link paid without the exact invoice amount" now)
    else confirmProviderPayment view (some response.id) now
  else if response.status = .cancelled ∨ response.status = .expired ∨ response.status = .failed then
    if 0 < response.amountPaid then
      paymentTx (markForReview attempt .providerPaymentMismatch
        "payOS link ended after receiving a partial payment" now)
    else paymentTx (confirmProviderFailure view response.status.text now)
  else paymentTx (rescheduleOrReview attempt .staleAttempt now)

/-- The answer of a provider, with the link that a payOS notification named. -/
inductive ProviderResponse where
  | vnpay (response : VnpayQueryResponse)
  | momo (response : MomoQueryResponse)
  | payos (response : PayosQueryResponse) (expectedPaymentLinkId : Option String)

/-- The query of the attempt's provider. -/
def applyResponse (attempt : PaymentAttempt) (response : ProviderResponse) (now : Timestamp) :
    Transact Unit :=
  match attempt.provider, response with
  | .vnpay, .vnpay response => applyQueryResponse attempt.id response now
  | .momo, .momo response => applyMomoResponse attempt.id response now
  | .payos, .payos response expectedPaymentLinkId =>
      applyPayosResponse attempt.id response expectedPaymentLinkId now
  | _, _ => throw (.badRequest "The response is not of the attempt's provider.")

/-- `queryProvider` once the attempt's provider has answered. -/
def queryProvider (attemptId : Id) (response : ProviderResponse) (now : Timestamp) :
    Transact Unit := do
  let attempt ← paymentTx (findUniqueOrFail paymentAttempt attemptId
    (.notFound s!"Payment attempt with ID {attemptId} not found."))
  applyResponse attempt response now

inductive IncidentAction where
  | resolve
  | ignore
  deriving DecidableEq, Repr

def resolveIncident (incidentKey : IncidentKey) (employeeId : Id) (action : IncidentAction)
    (resolutionNote : Option String) (now : Timestamp) : Tx PaymentStore Failure Unit := do
  let incident ← findUniqueOrFail paymentReconciliationIncident incidentKey
    (.notFound "Payment reconciliation incident not found.")
  require (incident.status = .opened) (.conflict "This incident is already closed.")
  when (action = .resolve) do
    let attempt ← findUnique paymentAttempt incident.paymentAttemptId
    let store ← get
    let refund := incident.paymentRefundId.bind store.refunds.find?
    require (attempt.all (·.status ≠ .requiresReview) ∧ refund.all (·.status ≠ .requiresReview))
      (.conflict ("Reconcile the linked payment state before resolving this incident, " ++
        "or explicitly ignore it."))
  updateExpecting paymentReconciliationIncident incidentKey (fun row => row.status = .opened)
    (fun row => { row with
      status := match action with | .resolve => .resolved | .ignore => .ignored
      resolutionNote
      resolvedAt := some now
      resolvedById := some employeeId })
    (.notFound "Record to update not found.")
  checkIncidents

end PaymentReconciliation

end CoffeeShop
