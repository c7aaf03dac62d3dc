import CoffeeShop.Payments.Attempts

/-!
Notifications of the payment providers.

A notification that reaches these transactions carries a valid signature and is well
formed; any other is answered without touching the database.
-/

namespace CoffeeShop

open Transaction PaymentStore

/-- The parameters of a verified VNPay IPN. -/
structure VnpayNotification where
  payloadHash : Nat
  merchantReference : Id
  /-- `vnp_Amount`, in hundredths like a money column. -/
  amount : Nat
  transactionNo : String
  responseCode : String
  transactionStatus : String

namespace VnpayNotification

def succeeded (notification : VnpayNotification) : Bool :=
  notification.responseCode = "00" && notification.transactionStatus = "00"

def providerTransactionNo (notification : VnpayNotification) : Option String :=
  if notification.transactionNo = "" ∨ notification.transactionNo = "0" then none
  else some notification.transactionNo

end VnpayNotification

/-- The data of a verified MoMo IPN. -/
structure MomoNotification where
  payloadHash : Nat
  orderId : Id
  amount : Nat
  extraData : String
  /-- The invoice that `orderInfo` names, if it is the text of an invoice payment. -/
  orderInfo : Option InvoiceNumber
  resultCode : Int
  transId : Int

namespace MomoNotification

def succeeded (notification : MomoNotification) : Bool := notification.resultCode = 0

def providerTransactionNo (notification : MomoNotification) : Option String :=
  if 0 < notification.transId then some (toString notification.transId) else none

end MomoNotification

/-- The data of a verified payOS webhook. -/
structure PayosNotification where
  payloadHash : Nat
  orderCode : Id
  currency : String
  paymentLinkId : String
  reference : String
  code : String

/-- `value || null`. -/
def nonEmpty (value : String) : Option String := if value = "" then none else some value

namespace VnpayService

def isFinalPaymentFailure (responseCode transactionStatus : String) : Bool :=
  transactionStatus ∈ ["02", "08", "11"] &&
    responseCode ∈ ["00", "09", "10", "11", "12", "13", "24", "51", "65", "75", "79"]

end VnpayService

namespace MomoService

def isFinalPaymentFailure (resultCode : Int) : Bool :=
  resultCode ∈ ([98, 99, 1001, 1002, 1003, 1004, 1005, 1006, 1007, 1017, 1026, 4001, 4002, 4100] :
    List Int)

end MomoService

namespace PaymentsService

def checkWebhookEvents : Tx PaymentStore Failure Unit := do
  let store ← get
  require (store.webhookEvents.rows.all PaymentWebhookEvent.processingCheck)
    (.constraint "PaymentWebhookEvent_processing_check")

/-- `paymentWebhookEvent.create`. -/
def createWebhookEvent (event : PaymentWebhookEvent) : Tx PaymentStore Failure Unit := do
  create paymentWebhookEvent event (.constraint "PaymentWebhookEvent_payloadHash_key")
  checkWebhookEvents

def completeWebhook (payloadHash : Nat) (processingCode : String) (now : Timestamp) :
    Tx PaymentStore Failure Unit := do
  updateExpecting paymentWebhookEvent payloadHash (fun _ => true)
    (fun row => { row with processingCode := some processingCode, processedAt := some now })
    (.notFound "Record to update not found.")
  checkWebhookEvents

def findByReference (merchantReference : Id) : Tx PaymentStore Failure (Option PaymentAttempt) :=
  findFirst paymentAttempt fun attempt => attempt.merchantReference = merchantReference

/-- Apply a notification to an attempt of its provider, or answer with the given code. -/
def ofProvider (attempt : Option PaymentAttempt) (provider : PaymentProvider) (missing : String)
    (apply : PaymentAttempt → Transact String) : Transact String :=
  ifSome (attempt.filter (·.provider = provider)) apply (pure missing)

/-- `SUCCEEDED` with the number of the notification. -/
def confirmed (providerTransactionNo : Option String) (now : Timestamp) (row : PaymentAttempt) :
    PaymentAttempt :=
  { row with
    status := .succeeded
    providerTransactionNo
    failureCode := none
    completedAt := some now
    lastReconciledAt := some now
    nextReconcileAt := none
    reconciliationLockedAt := none }

def completeInvoice (attempt : PaymentAttempt) : Transact Unit :=
  salesTx (InvoicesService.completeOnlinePayment {
    invoiceId := attempt.invoiceId
    employeeId := attempt.createdById
    shiftId := attempt.shiftId
    closeSessionAfterPayment := attempt.closeSessionAfterPayment })

/-- The other pending attempts of the invoice that a success supersedes. -/
def isSuperseded (attempt row : PaymentAttempt) : Bool :=
  row.invoiceId = attempt.invoiceId && row.id ≠ attempt.id && row.status = .pending

/-- What an IPN of VNPay does to an attempt whose outcome is still open. -/
def settleVnpay (attempt : PaymentAttempt) (notification : VnpayNotification) (now : Timestamp) :
    Transact String := do
  let providerTransactionNo := notification.providerTransactionNo
  if notification.succeeded then
    if providerTransactionNo.isNone then
      paymentTx (markPaymentReview attempt {
        type := .providerPaymentMismatch
        title := "VNPay confirmed payment without a transaction number"
        providerTransactionNo := none } now)
      pure "99"
    else
      completeInvoice attempt
      paymentTx (updateAttempt attempt (confirmed providerTransactionNo now))
      paymentTx (updateAttempts (isSuperseded attempt)
        (fun row => { row with
          status := .failed
          failureCode := some .superseded
          completedAt := some now
          lastReconciledAt := some now
          nextReconcileAt := none
          reconciliationLockedAt := none }))
      pure "00"
  else if VnpayService.isFinalPaymentFailure notification.responseCode
      notification.transactionStatus then
    paymentTx (updateAttempt attempt (fun row => { row with
      status := .failed
      providerTransactionNo
      failureCode := some (.provider ((nonEmpty notification.responseCode).getD "UNKNOWN_FAILURE"))
      completedAt := some now
      lastReconciledAt := some now
      nextReconcileAt := none
      reconciliationLockedAt := none }))
    pure "00"
  else
    paymentTx (markPaymentReview attempt {
      type := .providerPaymentMismatch
      title := "VNPay notification has no definitive payment outcome"
      providerTransactionNo } now)
    pure "REQUIRES_REVIEW"

/-- The exits of `handleVnpayIpn` once the attempt is found, with the processing code. -/
def applyVnpay (attempt : PaymentAttempt) (notification : VnpayNotification) (now : Timestamp) :
    Transact String := do
  let providerTransactionNo := notification.providerTransactionNo
  if attempt.amount ≠ notification.amount then
    when notification.succeeded (paymentTx (markPaymentReview attempt {
      type := .providerPaymentMismatch
      title := "VNPay IPN amount does not match the payment attempt"
      providerTransactionNo } now))
    pure "04"
  else if attempt.status = .succeeded then
    when (notification.succeeded ∧ providerTransactionNo ≠ attempt.providerTransactionNo)
      (paymentTx (markPaymentReview attempt {
        type := .paymentStateConflict
        title := "VNPay notification conflicts with confirmed payment"
        providerTransactionNo } now))
    pure "02"
  else if attempt.status = .requiresReview then
    pure "02_REQUIRES_REVIEW"
  else
    let invoice ← findInvoiceOf attempt
    if invoice.paymentStatus ≠ .unpaid then
      if notification.succeeded then
        paymentTx (markPaymentReview attempt {
          type := .paymentStateConflict
          title := "VNPay payment succeeded after invoice state changed"
          providerTransactionNo } now)
        pure "02_PAYMENT_STATE_CONFLICT"
      else pure "02"
    else settleVnpay attempt notification now

def handleVnpayIpn (notification : VnpayNotification) (now : Timestamp) : Transact Unit := do
  let attempt ← paymentTx (findByReference notification.merchantReference)
  paymentTx (createWebhookEvent {
    payloadHash := notification.payloadHash
    provider := .vnpay
    merchantReference := some notification.merchantReference
    providerTransactionNo := nonEmpty notification.transactionNo
    responseCode := nonEmpty notification.responseCode
    transactionStatus := nonEmpty notification.transactionStatus
    processingCode := none
    receivedAt := now
    processedAt := none
    paymentAttemptId := attempt.map (·.id) })
  let processingCode ← ofProvider attempt .vnpay "01" fun attempt =>
    applyVnpay attempt notification now
  paymentTx (completeWebhook notification.payloadHash processingCode now)

/-- The notification names the attempt's invoice and its exact amount. -/
def referenceMatches (attempt : PaymentAttempt) (invoice : Invoice)
    (notification : MomoNotification) : Bool :=
  notification.extraData = "" && notification.orderInfo = some invoice.invoiceNumber &&
    attempt.amount = 100 * notification.amount && attempt.currency = "VND"

/-- What an IPN of MoMo does to an attempt whose outcome is still open. -/
def settleMomo (attempt : PaymentAttempt) (notification : MomoNotification) (now : Timestamp) :
    Transact String := do
  if notification.succeeded then
    completeInvoice attempt
    paymentTx (updateAttempt attempt (confirmed (some (toString notification.transId)) now))
    -- Unlike for VNPay, the lock and the reconciliation time of the others stay.
    paymentTx (updateAttempts (isSuperseded attempt)
      (fun row => { row with
        status := .failed
        failureCode := some .superseded
        completedAt := some now
        nextReconcileAt := none }))
    pure "SUCCEEDED"
  else
    paymentTx (updateAttempt attempt (fun row => { row with
      status := .failed
      failureCode := some (.provider ("MOMO_" ++ toString notification.resultCode))
      completedAt := some now
      lastReconciledAt := some now
      nextReconcileAt := none
      reconciliationLockedAt := none }))
    pure "FAILED"

/-- The exits of `handleMomoIpn` once the attempt is found, with the processing code. -/
def applyMomo (attempt : PaymentAttempt) (notification : MomoNotification) (now : Timestamp) :
    Transact String := do
  let invoice ← findInvoiceOf attempt
  let providerTransactionNo := notification.providerTransactionNo
  if !referenceMatches attempt invoice notification ||
      (notification.succeeded && notification.transId ≤ 0) then
    paymentTx (markPaymentReview attempt {
      type := .providerPaymentMismatch
      title := "MoMo notification does not match the payment attempt"
      providerTransactionNo } now)
    pure "MISMATCH"
  else if !notification.succeeded && !MomoService.isFinalPaymentFailure notification.resultCode then
    pure "PENDING"
  else if attempt.status = .succeeded then
    when (notification.succeeded ∧
        attempt.providerTransactionNo ≠ some (toString notification.transId))
      (paymentTx (markPaymentReview attempt {
        type := .paymentStateConflict
        title := "MoMo notification conflicts with confirmed payment"
        providerTransactionNo } now))
    pure (if notification.succeeded then "ALREADY_CONFIRMED" else "STALE_FAILURE")
  else if attempt.status = .requiresReview then
    pure "REQUIRES_REVIEW"
  else if invoice.paymentStatus ≠ .unpaid then
    when notification.succeeded (paymentTx (markPaymentReview attempt {
      type := .paymentStateConflict
      title := "MoMo payment succeeded after invoice state changed"
      providerTransactionNo := some (toString notification.transId) } now))
    pure "PAYMENT_STATE_CONFLICT"
  else settleMomo attempt notification now

def handleMomoIpn (notification : MomoNotification) (now : Timestamp) : Transact Unit := do
  let attempt ← paymentTx (findByReference notification.orderId)
  paymentTx (createWebhookEvent {
    payloadHash := notification.payloadHash
    provider := .momo
    merchantReference := some notification.orderId
    providerTransactionNo := notification.providerTransactionNo
    responseCode := some (toString notification.resultCode)
    transactionStatus := some (toString notification.resultCode)
    processingCode := none
    receivedAt := now
    processedAt := none
    paymentAttemptId := attempt.map (·.id) })
  let processingCode ← ofProvider attempt .momo "NOT_FOUND" fun attempt =>
    applyMomo attempt notification now
  paymentTx (completeWebhook notification.payloadHash processingCode now)

/-- The exits of `handlePayosWebhook` once the event is stored, with the processing code. -/
def applyPayos (attempt : PaymentAttempt) (notification : PayosNotification) (now : Timestamp) :
    Tx PaymentStore Failure String := do
  if notification.code ≠ "00" then pure "IGNORED"
  else if notification.currency ≠ "VND" ||
      attempt.providerPaymentLinkId.any (· ≠ notification.paymentLinkId) then
    markPaymentReview attempt {
      type := .providerPaymentMismatch
      title := "payOS notification does not match the payment attempt"
      providerTransactionNo := none } now
    pure "MISMATCH"
  else
    updateAttempts (fun row => row.id = attempt.id &&
        (row.status = .pending || row.status = .expired))
      (fun row => { row with nextReconcileAt := some now })
    pure "RECONCILIATION_QUEUED"

def handlePayosWebhook (notification : PayosNotification) (now : Timestamp) :
    Tx PaymentStore Failure Unit := do
  let attempt ← findByReference notification.orderCode
  -- The signed probe of the webhook registration is no local payment.
  whenSome (attempt.filter (·.provider = .payos)) fun attempt => do
    createWebhookEvent {
      payloadHash := notification.payloadHash
      provider := .payos
      merchantReference := some notification.orderCode
      providerTransactionNo := some notification.reference
      responseCode := some notification.code
      transactionStatus := none
      processingCode := none
      receivedAt := now
      processedAt := none
      paymentAttemptId := some attempt.id }
    let processingCode ← applyPayos attempt notification now
    completeWebhook notification.payloadHash processingCode now

end PaymentsService

end CoffeeShop
