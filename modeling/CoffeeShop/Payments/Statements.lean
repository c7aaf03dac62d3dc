import CoffeeShop.Footprints

/-!
What the statements on the payment tables respect, every payment command respects.

The payment services write their tables in a few ways only, each of them followed by the
checks of the table.  A relation that holds over each of them holds over every command.
-/

namespace CoffeeShop

open Transaction PaymentStore Database

set_option synthInstance.maxSize 100000

/-- The key of an incident of an attempt says its type and its attempt. -/
def IncidentInput.IsOwn (input : IncidentInput) : Prop :=
  ∀ type attemptId, input.deduplicationKey = .attempt type attemptId →
    input.type = type ∧ input.paymentAttemptId = attemptId

/-- The relation holds over the statements on attempts, incidents, events and requests. -/
class PaymentStatements (R : PaymentStore → PaymentStore → Prop) : Prop where
  updateAttempts (condition : PaymentAttempt → Bool) (change : PaymentAttempt → PaymentAttempt)
    (keeps : ∀ row, (change row).id = row.id) : Respects R (updateAttempts condition change keeps)
  updateAttempt (attempt : PaymentAttempt) (change : PaymentAttempt → PaymentAttempt)
    (keeps : ∀ row, (change row).id = row.id) : Respects R (updateAttempt attempt change keeps)
  insertAttempt (row : PaymentAttempt) : Respects R (PaymentsService.insertAttempt row)
  claimAttempt (id : Id) (dueOnly : Bool) (now : Timestamp) :
    Respects R (PaymentReconciliation.claimAttempt id dueOnly now)
  openIncident (input : IncidentInput) (now : Timestamp) (own : input.IsOwn) :
    Respects R (openIncident input now)
  autoResolveIncidents (attemptId : Id) (now : Timestamp) :
    Respects R (PaymentReconciliation.autoResolveIncidents attemptId now)
  resolveIncident (key : IncidentKey) (employeeId : Id)
    (action : PaymentReconciliation.IncidentAction) (resolutionNote : Option String)
    (now : Timestamp) :
    Respects R (PaymentReconciliation.resolveIncident key employeeId action resolutionNote now)
  createWebhookEvent (event : PaymentWebhookEvent) :
    Respects R (PaymentsService.createWebhookEvent event)
  completeWebhook (payloadHash : Nat) (processingCode : String) (now : Timestamp) :
    Respects R (PaymentsService.completeWebhook payloadHash processingCode now)
  createRequest (row : PaymentProviderRequest) :
    Respects R (PaymentReconciliation.createRequest row)
  completeRequest (requestId : Id) (responseCode transactionStatus : Option String)
    (now : Timestamp) :
    Respects R (PaymentReconciliation.completeRequest requestId responseCode transactionStatus now)
  failRequest (requestId : Id) (message : String) (now : Timestamp) :
    Respects R (PaymentReconciliation.failRequest requestId message now)

attribute [instance] PaymentStatements.updateAttempts PaymentStatements.updateAttempt
  PaymentStatements.insertAttempt PaymentStatements.claimAttempt
  PaymentStatements.autoResolveIncidents PaymentStatements.resolveIncident
  PaymentStatements.createWebhookEvent PaymentStatements.completeWebhook
  PaymentStatements.createRequest PaymentStatements.completeRequest
  PaymentStatements.failRequest

namespace PaymentStatements

variable {R : PaymentStore → PaymentStore → Prop} [IsPreorder PaymentStore R] {now : Timestamp}

section Checks

instance checkAttempts : Respects R checkAttempts := by
  unfold CoffeeShop.checkAttempts
  infer_instance

instance checkIncidents : Respects R checkIncidents := by
  unfold CoffeeShop.checkIncidents
  infer_instance

instance checkWebhookEvents : Respects R PaymentsService.checkWebhookEvents := by
  unfold PaymentsService.checkWebhookEvents
  infer_instance

instance checkProviderRequests : Respects R PaymentReconciliation.checkProviderRequests := by
  unfold PaymentReconciliation.checkProviderRequests
  infer_instance

instance checkRefunds : Respects R PaymentRefunds.checkRefunds := by
  unfold PaymentRefunds.checkRefunds
  infer_instance

end Checks

variable [PaymentStatements R] {attempt : PaymentAttempt} {attemptId requestId : Id}

section Service

instance resolveExistingAttempt {input : CreatePaymentAttemptInput} :
    Respects R (PaymentsService.resolveExistingAttempt attempt input now) := by
  unfold PaymentsService.resolveExistingAttempt PaymentsService.assertIdempotentReplay
  infer_instance

instance openAttempt {input : CreatePaymentAttemptInput} :
    Respects (On payments R) (PaymentsService.openAttempt input now) := by
  dsimp only [PaymentsService.openAttempt]
  infer_instance

instance createAttempt {input : CreatePaymentAttemptInput} :
    Respects (On payments R) (PaymentsService.createAttempt input now) := by
  unfold PaymentsService.createAttempt
  infer_instance

instance presentAttempt {paymentUrl paymentLinkId : String} : Respects (On payments R)
    (PaymentsService.presentAttempt attemptId paymentUrl paymentLinkId now) := by
  dsimp only [PaymentsService.presentAttempt]
  infer_instance

instance markPaymentReview {input : PaymentsService.ReviewInput} :
    Respects R (PaymentsService.markPaymentReview attempt input now) := by
  unfold PaymentsService.markPaymentReview
  refine Respects.andThen inferInstance fun _ => openIncident _ now ?_
  rintro _ _ ⟨⟩
  exact ⟨rfl, rfl⟩

end Service

section Notifications

instance settleVnpay {notification : VnpayNotification} :
    Respects (On payments R) (PaymentsService.settleVnpay attempt notification now) := by
  have confirming : Respects R (CoffeeShop.updateAttempt attempt
      (PaymentsService.confirmed notification.providerTransactionNo now)) := updateAttempt ..
  dsimp only [PaymentsService.settleVnpay]
  infer_instance

instance applyVnpay {notification : VnpayNotification} :
    Respects (On payments R) (PaymentsService.applyVnpay attempt notification now) := by
  dsimp only [PaymentsService.applyVnpay]
  infer_instance

instance handleVnpayIpn {notification : VnpayNotification} :
    Respects (On payments R) (PaymentsService.handleVnpayIpn notification now) := by
  dsimp only [PaymentsService.handleVnpayIpn]
  infer_instance

instance settleMomo {notification : MomoNotification} :
    Respects (On payments R) (PaymentsService.settleMomo attempt notification now) := by
  have confirming : Respects R (CoffeeShop.updateAttempt attempt
      (PaymentsService.confirmed (some (toString notification.transId)) now)) := updateAttempt ..
  dsimp only [PaymentsService.settleMomo]
  infer_instance

instance applyMomo {notification : MomoNotification} :
    Respects (On payments R) (PaymentsService.applyMomo attempt notification now) := by
  dsimp only [PaymentsService.applyMomo]
  infer_instance

instance handleMomoIpn {notification : MomoNotification} :
    Respects (On payments R) (PaymentsService.handleMomoIpn notification now) := by
  dsimp only [PaymentsService.handleMomoIpn]
  infer_instance

instance applyPayos {notification : PayosNotification} :
    Respects R (PaymentsService.applyPayos attempt notification now) := by
  dsimp only [PaymentsService.applyPayos]
  infer_instance

instance handlePayosWebhook {notification : PayosNotification} :
    Respects R (PaymentsService.handlePayosWebhook notification now) := by
  dsimp only [PaymentsService.handlePayosWebhook]
  infer_instance

end Notifications

section Reconciliation

variable {view : AttemptView} {type : PaymentReconciliationIncidentType}

instance releaseAttempt : Respects R (PaymentReconciliation.releaseAttempt attemptId) := by
  unfold PaymentReconciliation.releaseAttempt
  infer_instance

instance createQuery :
    Respects (On payments R) (PaymentReconciliation.createQuery attemptId now) := by
  dsimp only [PaymentReconciliation.createQuery]
  infer_instance

instance openAttemptIncident {title : String} :
    Respects R (PaymentReconciliation.openAttemptIncident attempt type title now) := by
  refine openIncident _ now ?_
  rintro _ _ ⟨⟩
  exact ⟨rfl, rfl⟩

instance markForReview {title : String} :
    Respects R (PaymentReconciliation.markForReview attempt type title now) := by
  unfold PaymentReconciliation.markForReview
  infer_instance

instance confirmAgain {number : String} :
    Respects R (PaymentReconciliation.confirmAgain view number now) := by
  have recounting : Respects R (CoffeeShop.updateAttempt view.attempt
      (PaymentReconciliation.reconciled · now)) := updateAttempt ..
  dsimp only [PaymentReconciliation.confirmAgain]
  infer_instance

instance confirmProviderPayment {number : Option String} :
    Respects (On payments R) (PaymentReconciliation.confirmProviderPayment view number now) := by
  have confirming (number : String) : Respects R (CoffeeShop.updateAttempt view.attempt
      (PaymentReconciliation.confirmed number now)) := updateAttempt ..
  dsimp only [PaymentReconciliation.confirmProviderPayment]
  infer_instance

instance confirmProviderFailure {transactionStatus : String} :
    Respects R (PaymentReconciliation.confirmProviderFailure view transactionStatus now) := by
  dsimp only [PaymentReconciliation.confirmProviderFailure]
  split
  · infer_instance
  · exact updateAttempt ..

instance rescheduleOrReview :
    Respects R (PaymentReconciliation.rescheduleOrReview attempt type now) := by
  have recounting : Respects R
      (CoffeeShop.updateAttempt attempt (PaymentReconciliation.reconciled · now)) := updateAttempt ..
  dsimp only [PaymentReconciliation.rescheduleOrReview]
  infer_instance

instance recordQueryFailure {message : String} : Respects R
    (PaymentReconciliation.recordQueryFailure attemptId requestId message now) := by
  unfold PaymentReconciliation.recordQueryFailure
  infer_instance

instance applyQueryResponse {response : VnpayQueryResponse} : Respects (On payments R)
    (PaymentReconciliation.applyQueryResponse attemptId response now) := by
  dsimp only [PaymentReconciliation.applyQueryResponse]
  infer_instance

instance applyMomoResponse {response : MomoQueryResponse} : Respects (On payments R)
    (PaymentReconciliation.applyMomoResponse attemptId response now) := by
  dsimp only [PaymentReconciliation.applyMomoResponse]
  infer_instance

instance applyPayosResponse {response : PayosQueryResponse} {expected : Option String} :
    Respects (On payments R)
      (PaymentReconciliation.applyPayosResponse attemptId response expected now) := by
  dsimp only [PaymentReconciliation.applyPayosResponse]
  infer_instance

instance queryProvider {response : PaymentReconciliation.ProviderResponse} :
    Respects (On payments R)
      (PaymentReconciliation.queryProvider attemptId response now) := by
  unfold PaymentReconciliation.queryProvider
  refine Respects.andThen inferInstance fun attempt => ?_
  unfold PaymentReconciliation.applyResponse
  split <;> infer_instance

end Reconciliation

/-- A view of the refunds and calls stays. -/
theorem ofApart {τ : Type} {view : PaymentStore → τ} {S : τ → τ → Prop} [IsPreorder τ S]
    [Apart view paymentAttempt] [Apart view paymentWebhookEvent]
    [Apart view paymentReconciliationIncident] [Apart view paymentProviderRequest] :
    PaymentStatements (On view S) where
  updateAttempts _ _ _ := by
    unfold CoffeeShop.updateAttempts
    infer_instance
  updateAttempt _ _ _ := by
    unfold CoffeeShop.updateAttempt
    infer_instance
  insertAttempt _ := by
    unfold PaymentsService.insertAttempt
    infer_instance
  claimAttempt _ _ _ := by
    unfold PaymentReconciliation.claimAttempt
    infer_instance
  openIncident _ _ _ := by
    unfold CoffeeShop.openIncident upsertIncident
    infer_instance
  autoResolveIncidents _ _ := by
    unfold PaymentReconciliation.autoResolveIncidents
    infer_instance
  resolveIncident _ _ _ _ _ := by
    unfold PaymentReconciliation.resolveIncident
    infer_instance
  createWebhookEvent _ := by
    unfold PaymentsService.createWebhookEvent
    infer_instance
  completeWebhook _ _ _ := by
    unfold PaymentsService.completeWebhook
    infer_instance
  createRequest _ := by
    unfold PaymentReconciliation.createRequest
    infer_instance
  completeRequest _ _ _ _ := by
    unfold PaymentReconciliation.completeRequest
    infer_instance
  failRequest _ _ _ := by
    unfold PaymentReconciliation.failRequest
    infer_instance

omit [IsPreorder PaymentStore R] in
theorem openRefundIncident (refund : PaymentRefund) (type : PaymentReconciliationIncidentType)
    (key : IncidentKey) (title : String) (now : Timestamp)
    (ofRefund : ∀ type attemptId, key ≠ .attempt type attemptId) :
    Respects R (PaymentRefunds.openRefundIncident refund type key title now) :=
  openIncident _ now fun type attemptId same => (ofRefund type attemptId same).elim

end PaymentStatements

/-- The relation holds over the statements on refunds and calls, too. -/
class RefundStatements (R : PaymentStore → PaymentStore → Prop) : Prop
    extends PaymentStatements R where
  updateRefund (refundId : Id) (guard : PaymentRefund → Bool)
    (change : PaymentRefund → PaymentRefund) (keeps : ∀ row, (change row).id = row.id) :
    Respects R (PaymentRefunds.updateRefund refundId guard change keeps)
  createRefund (refund : PaymentRefund) (accepted : refund.completionCheck = true) :
    Respects R (create paymentRefund refund (Failure.constraint "PaymentRefund_pkey"))
  sendRefund (requestId refundId : Id) : Respects R (PaymentRefunds.sendRefund requestId refundId)
  awaitRefund (requestId refundId : Id) : Respects R (PaymentRefunds.awaitRefund requestId refundId)
  interruptRequests (refundId : Id) (now : Timestamp) :
    Respects R (updateMany paymentProviderRequest
      (fun row => row.paymentRefundId = some refundId && row.status = .pending)
      (fun row => { row with
        status := .failed
        errorMessage := some PaymentRefunds.interrupted
        completedAt := some now }) : Tx PaymentStore Failure Nat)

attribute [instance] RefundStatements.updateRefund RefundStatements.sendRefund
  RefundStatements.awaitRefund RefundStatements.interruptRequests

namespace RefundStatements

variable {R : PaymentStore → PaymentStore → Prop} [IsPreorder PaymentStore R] [RefundStatements R]
variable {now : Timestamp} {refundId requestId : Id}

instance requestRefund {input : CreatePaymentRefundInput} :
    Respects (On payments R) (PaymentRefunds.requestRefund input now) := by
  dsimp only [PaymentRefunds.requestRefund]
  iterate 10 refine Respects.andThen inferInstance fun _ => ?_
  exact @Respects.onPayments _ R _ (createRefund _ rfl)

instance createRefundOnce {input : CreatePaymentRefundInput} :
    Respects (On payments R) (PaymentRefunds.createRefund input now) := by
  unfold PaymentRefunds.createRefund
  infer_instance

instance submitRefund : Respects (On payments R) (PaymentRefunds.submitRefund refundId now) := by
  dsimp only [PaymentRefunds.submitRefund]
  infer_instance

omit [IsPreorder PaymentStore R] in
/-- The provider's word is stored. -/
theorem answers (refund : PaymentRefund) (status : PaymentRefundStatus)
    (response : VnpayRefundResponse) (completedAt : Option Timestamp) :
    Respects R (PaymentRefunds.updateRefund refund.id (fun _ => true)
      (PaymentRefunds.answered status response completedAt)) := updateRefund ..

instance completeSuccessfulRefund {attempt : PaymentAttempt} {refund : PaymentRefund}
    {response : VnpayRefundResponse} : Respects (On payments R)
      (PaymentRefunds.completeSuccessfulRefund attempt refund response now) := by
  have succeeding := answers (R := R) refund .succeeded response (some now)
  have conflicting := PaymentStatements.openRefundIncident (R := R) refund .paymentStateConflict
    (.refundInvoiceState refund.id) "Refund succeeded but invoice state could not be updated" now
    nofun
  dsimp only [PaymentRefunds.completeSuccessfulRefund]
  infer_instance

instance applyProviderResponse {response : VnpayRefundResponse} : Respects (On payments R)
    (PaymentRefunds.applyProviderResponse refundId requestId response now) := by
  have answering := fun refund status completedAt =>
    answers (R := R) refund status response completedAt
  have reviewing := fun refund : PaymentRefund => PaymentStatements.openRefundIncident (R := R)
    refund .refundStateMismatch (.refundState refund.id)
    "VNPay refund requires manual reconciliation" now nofun
  dsimp only [PaymentRefunds.applyProviderResponse]
  infer_instance

instance markProviderUncertain {message : String} :
    Respects R (PaymentRefunds.markProviderUncertain refundId requestId message now) := by
  have reviewing := fun refund : PaymentRefund => PaymentStatements.openRefundIncident (R := R)
    refund .providerUnavailable (.refundProvider refund.id) "VNPay refund outcome is unknown" now
    nofun
  unfold PaymentRefunds.markProviderUncertain
  infer_instance

instance recoverAbandonedRefund :
    Respects R (PaymentRefunds.recoverAbandonedRefund refundId now) := by
  have interrupting := fun refund : PaymentRefund => PaymentStatements.openRefundIncident (R := R)
    refund .refundStateMismatch (.refundInterrupted refund.id)
    "Refund request was interrupted with an unknown outcome" now nofun
  unfold PaymentRefunds.recoverAbandonedRefund
  infer_instance

/-- Every payment command respects what the statements respect. -/
instance paymentCommand {command : PaymentCommand} :
    Respects (On payments R) (command.execute now) := by
  cases command <;> (dsimp only [PaymentCommand.execute]; infer_instance)

end RefundStatements

end CoffeeShop
