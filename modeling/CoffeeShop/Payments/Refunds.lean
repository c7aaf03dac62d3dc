import CoffeeShop.Payments.Reconciliation

/-!
Refunds of confirmed payments through the provider.
-/

namespace CoffeeShop

open Transaction PaymentStore

structure CreatePaymentRefundInput where
  paymentAttemptId : Id
  employeeId : Id
  amount : Money
  reason : String
  idempotencyKey : String

/-- The fields of VNPay's `refund` response that are read. -/
structure VnpayRefundResponse where
  responseCode : Option String
  transactionStatus : Option String
  transactionNo : Option String
  merchantReference : Option Id
  amount : Option Nat
  transactionType : Option String

namespace PaymentRefunds

/-- `RESERVED_REFUND_STATUSES`. -/
def isReserved (status : PaymentRefundStatus) : Bool :=
  status = .pending || status = .processing || status = .succeeded || status = .requiresReview

def checkRefunds : Tx PaymentStore Failure Unit := do
  let store ← get
  require (store.refunds.rows.all PaymentRefund.completionCheck)
    (.constraint "PaymentRefund_completion_check")

def updateRefund (refundId : Id) (guard : PaymentRefund → Bool)
    (change : PaymentRefund → PaymentRefund)
    (keeps : ∀ row, (change row).id = row.id := by intro; rfl) : Tx PaymentStore Failure Unit := do
  updateExpecting paymentRefund refundId guard change
    (.notFound "Record to update not found.") keeps
  checkRefunds

def refundTotal (store : PaymentStore) (attemptId : Id) (counts : PaymentRefundStatus → Bool) :
    Money :=
  store.refunds.sumWhere (fun refund => refund.paymentAttemptId = attemptId && counts refund.status)
    (·.amount)

/-- `assertIdempotentReplay`; the request hash covers these fields. -/
def assertIdempotentReplay (refund : PaymentRefund) (input : CreatePaymentRefundInput) :
    Tx PaymentStore Failure Unit :=
  require (refund.paymentAttemptId = input.paymentAttemptId ∧ refund.amount = input.amount ∧
      refund.reason = input.reason)
    (.conflict "Idempotency key was already used for a different refund request.")

/-- The transaction of `createRefund` that stores a new request. -/
def requestRefund (input : CreatePaymentRefundInput) (now : Timestamp) : Transact Unit := do
  assertActiveEmployee input.employeeId
  let attempt ← paymentTx (findUniqueOrFail paymentAttempt input.paymentAttemptId
    (.notFound s!"Payment attempt with ID {input.paymentAttemptId} not found."))
  require (attempt.provider = .vnpay)
    (.conflict "Refunds for this payment provider are not available through the API.")
  require (attempt.status = .succeeded ∧ attempt.providerTransactionNo.any (· ≠ ""))
    (.conflict "Only a confirmed provider payment can be refunded.")
  let invoice ← findInvoiceOf attempt
  require (invoice.paymentStatus = .paid ∨ invoice.paymentStatus = .partiallyRefunded)
    (.conflict "The invoice is not in a refundable state.")
  let store ← paymentTx get
  let reserved := refundTotal store attempt.id isReserved
  require (input.amount ≤ attempt.amount - reserved)
    (.conflict "Refund amount exceeds the remaining refundable amount.")
  require (0 < input.amount) (.constraint "PaymentRefund_amount_check")
  let id ← freshId
  paymentTx (create paymentRefund {
    id
    type := if reserved = 0 ∧ input.amount = attempt.amount then .full else .part
    status := .pending
    amount := input.amount
    reason := input.reason
    idempotencyKey := input.idempotencyKey
    providerTransactionNo := none
    providerResponseCode := none
    providerTransactionStatus := none
    lastError := none
    requestedAt := now
    completedAt := none
    reconciliationLockedAt := none
    paymentAttemptId := attempt.id
    requestedById := input.employeeId } (.constraint "PaymentRefund_pkey"))

def createRefund (input : CreatePaymentRefundInput) (now : Timestamp) : Transact Unit := do
  let existing ← paymentTx (findFirst paymentRefund fun refund =>
    refund.requestedById = input.employeeId && refund.idempotencyKey = input.idempotencyKey)
  ifSome existing (fun refund => paymentTx (assertIdempotentReplay refund input))
    (requestRefund input now)

/-- `vnpay.refundTransaction` is called once the claim has committed. -/
def sendRefund (requestId refundId : Id) : Tx PaymentStore Failure Unit :=
  create refundCall { requestId, paymentRefundId := refundId, answered := false }
    (.constraint "PaymentProviderRequest_pkey")

/-- The call returns or throws, once. -/
def awaitRefund (requestId refundId : Id) : Tx PaymentStore Failure Unit :=
  updateExpecting refundCall requestId
    (fun call => call.paymentRefundId = refundId && !call.answered)
    (fun call => { call with answered := true }) (.conflict "The call is not in flight.")

/-- The transaction of `submitRefund` that claims a pending refund, and the call after it. -/
def submitRefund (refundId : Id) (now : Timestamp) : Transact Unit := do
  paymentTx (updateRefund refundId (fun row => row.status = .pending)
    (fun row => { row with
      status := .processing
      reconciliationLockedAt := some now }))
  let refund ← paymentTx (findUniqueOrFail paymentRefund refundId
    (.notFound s!"Payment refund with ID {refundId} not found."))
  let id ← freshId
  paymentTx (PaymentReconciliation.createRequest {
    id
    type := .refund
    status := .pending
    responseCode := none
    transactionStatus := none
    errorMessage := none
    startedAt := now
    completedAt := none
    paymentAttemptId := refund.paymentAttemptId
    paymentRefundId := some refund.id })
  paymentTx (sendRefund id refund.id)

def refundOutcome (responseCode transactionStatus : Option String) : PaymentRefundStatus :=
  if responseCode = some "00" ∧ transactionStatus = some "00" then .succeeded
  else if responseCode = some "00" ∧ transactionStatus = some "09" then .rejected
  else if responseCode = some "00" ∧ transactionStatus = some "02" then .failed
  else if responseCode.any (· ∈ ["02", "03", "04", "13", "91", "93", "95", "97"]) then .failed
  else .requiresReview

def refundResponseMismatch (attempt : PaymentAttempt) (refund : PaymentRefund)
    (response : VnpayRefundResponse) : Option PaymentReconciliation.ResponseMismatch :=
  if response.merchantReference ≠ some attempt.merchantReference then some .merchantReference
  else if response.amount.map (Int.ofNat ·) ≠ some refund.amount then some .amount
  else if response.transactionType ≠ some (if refund.type = .full then "02" else "03") then
    some .transactionType
  else none

def openRefundIncident (refund : PaymentRefund) (type : PaymentReconciliationIncidentType)
    (deduplicationKey : IncidentKey) (title : String) (now : Timestamp) :
    Tx PaymentStore Failure Unit :=
  openIncident {
    type
    deduplicationKey
    title
    paymentAttemptId := refund.paymentAttemptId
    paymentRefundId := some refund.id } now

/-- What the provider says about a refund. -/
def answered (status : PaymentRefundStatus) (response : VnpayRefundResponse)
    (completedAt : Option Timestamp) (row : PaymentRefund) : PaymentRefund :=
  { row with
    status
    providerTransactionNo := response.transactionNo.filter fun number =>
      number ≠ "" && number ≠ "0"
    providerResponseCode := response.responseCode
    providerTransactionStatus := response.transactionStatus
    completedAt
    reconciliationLockedAt := none }

def isRefundable (invoice : Invoice) : Bool :=
  invoice.paymentStatus = .paid || invoice.paymentStatus = .partiallyRefunded

def completeSuccessfulRefund (attempt : PaymentAttempt) (refund : PaymentRefund)
    (response : VnpayRefundResponse) (now : Timestamp) : Transact Unit := do
  paymentTx (updateRefund refund.id (fun _ => true) (answered .succeeded response (some now)))
  let store ← paymentTx get
  let refundedAmount := refundTotal store attempt.id (· = .succeeded)
  let targetStatus : PaymentStatus :=
    if attempt.amount ≤ refundedAmount then .refunded else .partiallyRefunded
  let updated ← salesTx (updateMany SalesStore.invoice
    (fun invoice => invoice.id = attempt.invoiceId && isRefundable invoice)
    (fun invoice => { invoice with paymentStatus := targetStatus }))
  when (updated ≠ 1)
    (paymentTx (openRefundIncident refund .paymentStateConflict (.refundInvoiceState refund.id)
      "Refund succeeded but invoice state could not be updated" now))

/-- `applyProviderResponse`.  The refund and its attempt were read when it was claimed; the
fields that are used never change. -/
def applyProviderResponse (refundId requestId : Id) (response : VnpayRefundResponse)
    (now : Timestamp) : Transact Unit := do
  paymentTx (awaitRefund requestId refundId)
  let refund ← paymentTx (findUniqueOrFail paymentRefund refundId
    (.notFound s!"Payment refund with ID {refundId} not found."))
  let attempt ← paymentTx (findUniqueOrFail paymentAttempt refund.paymentAttemptId
    (.constraint "PaymentRefund_paymentAttemptId_fkey"))
  paymentTx (PaymentReconciliation.completeRequest requestId response.responseCode
    response.transactionStatus now)
  let outcome := if (refundResponseMismatch attempt refund response).isSome then .requiresReview
    else refundOutcome response.responseCode response.transactionStatus
  if outcome = .succeeded then completeSuccessfulRefund attempt refund response now
  else do
    when (outcome = .requiresReview)
      (paymentTx (openRefundIncident refund .refundStateMismatch (.refundState refund.id)
        "VNPay refund requires manual reconciliation" now))
    paymentTx (updateRefund refund.id (fun _ => true) (answered outcome response
      (if outcome = .failed ∨ outcome = .rejected then some now else none)))

/-- The request failed in a way that leaves the outcome unknown. -/
def markProviderUncertain (refundId requestId : Id) (message : String) (now : Timestamp) :
    Tx PaymentStore Failure Unit := do
  awaitRefund requestId refundId
  let refund ← findUniqueOrFail paymentRefund refundId
    (.notFound s!"Payment refund with ID {refundId} not found.")
  PaymentReconciliation.failRequest requestId message now
  openRefundIncident refund .providerUnavailable (.refundProvider refund.id)
    "VNPay refund outcome is unknown" now
  updateRefund refund.id (fun _ => true) (fun row => { row with
    status := .requiresReview
    lastError := some message
    reconciliationLockedAt := none })

def interrupted : String := "Provider request was interrupted before completion."

/-- One round of `recoverAbandonedRefunds`. -/
def recoverAbandonedRefund (refundId : Id) (now : Timestamp) : Tx PaymentStore Failure Unit := do
  let refund ← findUniqueOrFail paymentRefund refundId
    (.notFound s!"Payment refund with ID {refundId} not found.")
  updateRefund refundId
    (fun row => row.status = .processing && row.reconciliationLockedAt.any
      (· + PaymentReconciliation.lockTimeoutMs < now))
    (fun row => { row with
      status := .requiresReview
      lastError := some interrupted
      reconciliationLockedAt := none })
  let _ ← updateMany paymentProviderRequest
    (fun row => row.paymentRefundId = some refundId && row.status = .pending)
    (fun row => { row with
      status := .failed
      errorMessage := some interrupted
      completedAt := some now })
  PaymentReconciliation.checkProviderRequests
  openRefundIncident refund .refundStateMismatch (.refundInterrupted refund.id)
    "Refund request was interrupted with an unknown outcome" now

end PaymentRefunds

end CoffeeShop
