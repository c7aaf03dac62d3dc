import CoffeeShop.Store.Catalog

/-!
Payment attempts, provider notifications, reconciliation incidents and refunds.
-/

namespace CoffeeShop

inductive PaymentAttemptStatus where
  | pending
  | succeeded
  | failed
  | expired
  | requiresReview
  deriving DecidableEq, Repr

/-- `UNRESOLVED_PAYMENT_ATTEMPT_STATUSES`. -/
def PaymentAttemptStatus.isUnresolved : PaymentAttemptStatus → Bool
  | .pending | .expired | .requiresReview => true
  | .succeeded | .failed => false

inductive PaymentReconciliationIncidentType where
  | staleAttempt
  | paymentStateConflict
  | providerPaymentMismatch
  | refundStateMismatch
  | providerUnavailable
  deriving DecidableEq, Repr

/-- `failureCode`: a code of the provider, an incident type or `SUPERSEDED`. -/
inductive FailureCode where
  | provider (code : String)
  | review (type : PaymentReconciliationIncidentType)
  | superseded
  deriving DecidableEq, Repr

/-- The fields that `createRequestHash` hashes. -/
structure PaymentAttemptRequest where
  invoiceId : Id
  provider : PaymentProvider
  locale : String
  bankCode : Option String
  closeSessionAfterPayment : Bool
  deriving DecidableEq, Repr

structure PaymentAttempt where
  id : Id
  provider : PaymentProvider
  status : PaymentAttemptStatus
  amount : Money
  currency : String
  merchantReference : Id
  idempotencyKey : String
  requestHash : PaymentAttemptRequest
  paymentUrl : Option String
  providerPaymentLinkId : Option String
  providerTransactionNo : Option String
  failureCode : Option FailureCode
  closeSessionAfterPayment : Bool
  expiresAt : Timestamp
  completedAt : Option Timestamp
  lastReconciledAt : Option Timestamp
  nextReconcileAt : Option Timestamp
  reconciliationAttempts : Nat
  reconciliationLockedAt : Option Timestamp
  createdAt : Timestamp
  invoiceId : Id
  createdById : Id
  shiftId : Id

/-- `PaymentAttempt_state_check`. -/
def PaymentAttempt.stateCheck (attempt : PaymentAttempt) : Bool :=
  match attempt.status with
  | .pending => attempt.completedAt.isNone && attempt.providerTransactionNo.isNone &&
      attempt.failureCode.isNone
  | .succeeded => attempt.completedAt.isSome && attempt.providerTransactionNo.isSome &&
      attempt.failureCode.isNone
  | .failed => attempt.completedAt.isSome && attempt.failureCode.isSome
  | .expired => attempt.completedAt.isSome && attempt.providerTransactionNo.isNone
  | .requiresReview => attempt.completedAt.isNone

structure PaymentWebhookEvent where
  payloadHash : Nat
  provider : PaymentProvider
  merchantReference : Option Id
  providerTransactionNo : Option String
  responseCode : Option String
  transactionStatus : Option String
  processingCode : Option String
  receivedAt : Timestamp
  processedAt : Option Timestamp
  paymentAttemptId : Option Id

/-- `PaymentWebhookEvent_processing_check`. -/
def PaymentWebhookEvent.processingCheck (event : PaymentWebhookEvent) : Bool :=
  event.processingCode.isSome == event.processedAt.isSome

/-- `deduplicationKey`, one constructor for each prefix. -/
inductive IncidentKey where
  | attempt (type : PaymentReconciliationIncidentType) (attemptId : Id)
  | refundState (refundId : Id)
  | refundInvoiceState (refundId : Id)
  | refundProvider (refundId : Id)
  | refundInterrupted (refundId : Id)
  deriving DecidableEq, Repr

inductive IncidentStatus where
  | opened
  | resolved
  | ignored
  deriving DecidableEq, Repr

structure PaymentReconciliationIncident where
  deduplicationKey : IncidentKey
  type : PaymentReconciliationIncidentType
  status : IncidentStatus
  title : String
  detectedAt : Timestamp
  resolvedAt : Option Timestamp
  resolutionNote : Option String
  paymentAttemptId : Id
  paymentRefundId : Option Id
  resolvedById : Option Id

/-- `PaymentReconciliationIncident_resolution_check`. -/
def PaymentReconciliationIncident.resolutionCheck (incident : PaymentReconciliationIncident) :
    Bool :=
  match incident.status with
  | .opened => incident.resolvedAt.isNone
  | .resolved | .ignored => incident.resolvedAt.isSome

inductive PaymentRefundType where
  | full
  | part
  deriving DecidableEq, Repr

inductive PaymentRefundStatus where
  | pending
  | processing
  | succeeded
  | failed
  | rejected
  | requiresReview
  deriving DecidableEq, Repr

structure PaymentRefund where
  id : Id
  type : PaymentRefundType
  status : PaymentRefundStatus
  amount : Money
  reason : String
  idempotencyKey : String
  providerTransactionNo : Option String
  providerResponseCode : Option String
  providerTransactionStatus : Option String
  lastError : Option String
  requestedAt : Timestamp
  completedAt : Option Timestamp
  reconciliationLockedAt : Option Timestamp
  paymentAttemptId : Id
  requestedById : Id

/-- `PaymentRefund_completion_check`. -/
def PaymentRefund.completionCheck (refund : PaymentRefund) : Bool :=
  match refund.status with
  | .succeeded | .failed | .rejected => refund.completedAt.isSome
  | .pending | .processing | .requiresReview => refund.completedAt.isNone

inductive ProviderRequestType where
  | query
  | refund
  deriving DecidableEq, Repr

inductive ProviderRequestStatus where
  | pending
  | succeeded
  | failed
  deriving DecidableEq, Repr

structure PaymentProviderRequest where
  id : Id
  type : ProviderRequestType
  status : ProviderRequestStatus
  responseCode : Option String
  transactionStatus : Option String
  errorMessage : Option String
  startedAt : Timestamp
  completedAt : Option Timestamp
  paymentAttemptId : Id
  paymentRefundId : Option Id

/-- `PaymentProviderRequest_completion_check`. -/
def PaymentProviderRequest.completionCheck (request : PaymentProviderRequest) : Bool :=
  match request.status with
  | .pending => request.completedAt.isNone
  | .succeeded | .failed => request.completedAt.isSome

/-- A call of `refundTransaction` that waits for its outcome, or has had it. -/
structure RefundCall where
  requestId : Id
  paymentRefundId : Id
  answered : Bool

/-- The tables of the payment services, and the calls to the provider that are in flight. -/
structure PaymentStore where
  attempts : Table PaymentAttempt.id
  webhookEvents : Table PaymentWebhookEvent.payloadHash
  incidents : Table PaymentReconciliationIncident.deduplicationKey
  refunds : Table PaymentRefund.id
  providerRequests : Table PaymentProviderRequest.id
  refundCalls : Table RefundCall.requestId

namespace PaymentStore

open Transaction

def empty : PaymentStore where
  attempts := .empty
  webhookEvents := .empty
  incidents := .empty
  refunds := .empty
  providerRequests := .empty
  refundCalls := .empty

@[simps] def paymentAttempt : Part PaymentStore (Table PaymentAttempt.id) where
  get := attempts
  set value store := { store with attempts := value }
  get_set _ _ := rfl

@[simps] def paymentWebhookEvent : Part PaymentStore (Table PaymentWebhookEvent.payloadHash) where
  get := webhookEvents
  set value store := { store with webhookEvents := value }
  get_set _ _ := rfl

@[simps] def paymentReconciliationIncident :
    Part PaymentStore (Table PaymentReconciliationIncident.deduplicationKey) where
  get := incidents
  set value store := { store with incidents := value }
  get_set _ _ := rfl

@[simps] def paymentRefund : Part PaymentStore (Table PaymentRefund.id) where
  get := refunds
  set value store := { store with refunds := value }
  get_set _ _ := rfl

@[simps] def paymentProviderRequest : Part PaymentStore (Table PaymentProviderRequest.id) where
  get := providerRequests
  set value store := { store with providerRequests := value }
  get_set _ _ := rfl

@[simps] def refundCall : Part PaymentStore (Table RefundCall.requestId) where
  get := refundCalls
  set value store := { store with refundCalls := value }
  get_set _ _ := rfl

end PaymentStore

end CoffeeShop
