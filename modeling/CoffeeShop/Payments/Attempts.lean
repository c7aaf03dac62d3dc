import CoffeeShop.Invoices.Service

/-!
Payment attempts: creation, expiry, the payment link and the review state.
-/

namespace CoffeeShop

open Transaction PaymentStore

/-- A unique index of `PaymentAttempt` on a name that its provider gives. -/
def isUniqueByProvider (attempts : Table PaymentAttempt.id)
    (name : PaymentAttempt → Option String) : Bool :=
  decide (attempts.rows.Pairwise fun row other =>
    row.provider = other.provider → (name row).isSome → name row ≠ name other)

def checkAttempts : Tx PaymentStore Failure Unit := do
  let store ← get
  require (store.attempts.rows.all PaymentAttempt.stateCheck)
    (.constraint "PaymentAttempt_state_check")
  require (isUniqueByProvider store.attempts (·.providerTransactionNo))
    (.constraint "PaymentAttempt_provider_providerTransactionNo_key")
  require (isUniqueByProvider store.attempts (·.providerPaymentLinkId))
    (.constraint "PaymentAttempt_provider_providerPaymentLinkId_key")

/-- `paymentAttempt.updateMany`. -/
def updateAttempts (condition : PaymentAttempt → Bool) (change : PaymentAttempt → PaymentAttempt)
    (keeps : ∀ row, (change row).id = row.id := by intro; rfl) :
    Tx PaymentStore Failure Unit := do
  let _ ← updateMany paymentAttempt condition change keeps
  checkAttempts

/-- `paymentAttempt.update({ where: { id, status } })`. -/
def updateAttempt (attempt : PaymentAttempt) (change : PaymentAttempt → PaymentAttempt)
    (keeps : ∀ row, (change row).id = row.id := by intro; rfl) :
    Tx PaymentStore Failure Unit := do
  updateExpecting paymentAttempt attempt.id (fun row => row.status = attempt.status) change
    (.notFound "Record to update not found.") keeps
  checkAttempts

structure IncidentInput where
  type : PaymentReconciliationIncidentType
  deduplicationKey : IncidentKey
  title : String
  paymentAttemptId : Id
  paymentRefundId : Option Id

def checkIncidents : Tx PaymentStore Failure Unit := do
  let store ← get
  require (store.incidents.rows.all PaymentReconciliationIncident.resolutionCheck)
    (.constraint "PaymentReconciliationIncident_resolution_check")

def upsertIncident (input : IncidentInput) (now : Timestamp) : Tx PaymentStore Failure Unit := do
  let existing ← findUnique paymentReconciliationIncident input.deduplicationKey
  if existing.isSome then
    updateExpecting paymentReconciliationIncident input.deduplicationKey (fun _ => true)
      (fun row => { row with
        status := .opened
        title := input.title
        detectedAt := now
        resolvedAt := none
        resolvedById := none
        resolutionNote := none })
      (.notFound "Record to update not found.")
  else
    create paymentReconciliationIncident {
      deduplicationKey := input.deduplicationKey
      type := input.type
      status := .opened
      title := input.title
      detectedAt := now
      resolvedAt := none
      resolutionNote := none
      paymentAttemptId := input.paymentAttemptId
      paymentRefundId := input.paymentRefundId
      resolvedById := none } (.constraint "PaymentReconciliationIncident_deduplicationKey_key")

/-- `paymentReconciliationIncident.upsert`. -/
def openIncident (input : IncidentInput) (now : Timestamp) : Tx PaymentStore Failure Unit := do
  upsertIncident input now
  checkIncidents

/-- `include: { invoice }` of an attempt. -/
def findInvoiceOf (attempt : PaymentAttempt) : Transact Invoice :=
  salesTx (findUniqueOrFail SalesStore.invoice attempt.invoiceId
    (.constraint "PaymentAttempt_invoiceId_fkey"))

structure CreatePaymentAttemptInput where
  employeeId : Id
  invoiceId : Id
  provider : PaymentProvider
  locale : String
  bankCode : Option String
  idempotencyKey : String
  closeSessionAfterPayment : Bool

namespace PaymentsService

/-- The largest integer of a JavaScript number. -/
def maxSafeInteger : Nat := 9007199254740991

/-- `assertAmount` of the MoMo and payOS services. -/
def assertAmount (provider : PaymentProvider) (amount : Money) : Transact Unit :=
  match provider with
  | .vnpay => pure ()
  | .momo => require (amount % 100 = 0 ∧ 100000 ≤ amount ∧ amount ≤ 5000000000)
      (.badRequest "MoMo amount must be an integer between 1,000 and 50,000,000 VND.")
  | .payos => require (amount % 100 = 0 ∧ 0 < amount ∧ amount ≤ 100 * maxSafeInteger)
      (.badRequest "payOS requires a positive, safe integer amount in VND.")

def createRequestHash (input : CreatePaymentAttemptInput) : PaymentAttemptRequest where
  invoiceId := input.invoiceId
  provider := input.provider
  locale := input.locale
  bankCode := input.bankCode
  closeSessionAfterPayment := input.closeSessionAfterPayment

def assertIdempotentReplay (attempt : PaymentAttempt) (input : CreatePaymentAttemptInput) :
    Tx PaymentStore Failure Unit :=
  require (attempt.invoiceId = input.invoiceId ∧ attempt.createdById = input.employeeId ∧
      attempt.requestHash = createRequestHash input)
    (.conflict "Idempotency key was already used for a different payment request.")

/-- `resolveExistingAttempt`, up to the payment link. -/
def resolveExistingAttempt (attempt : PaymentAttempt) (input : CreatePaymentAttemptInput)
    (now : Timestamp) : Tx PaymentStore Failure Unit := do
  assertIdempotentReplay attempt input
  if attempt.status = .pending ∧ attempt.expiresAt ≤ now then
    updateAttempts (fun row => row.id = attempt.id && row.status = .pending)
      (fun row => { row with
        status := .expired
        completedAt := some now
        nextReconcileAt := some now })
  else pure ()

/-- `create` with the column checks of the table. -/
def insertAttempt (row : PaymentAttempt) : Tx PaymentStore Failure Unit := do
  require (0 < row.amount) (.constraint "PaymentAttempt_amount_check")
  require (row.createdAt < row.expiresAt) (.constraint "PaymentAttempt_expiry_check")
  let taken ← findFirst paymentAttempt fun other => other.merchantReference = row.merchantReference
  require taken.isNone (.constraint "PaymentAttempt_merchantReference_key")
  create paymentAttempt row (.constraint "PaymentAttempt_pkey")
  checkAttempts

def assertNoUnresolvedAttempt (invoiceId : Id) : Tx PaymentStore Failure Unit := do
  let unresolved ← findFirst paymentAttempt fun attempt =>
    attempt.invoiceId = invoiceId && attempt.status.isUnresolved
  require unresolved.isNone
    (.conflict "This invoice already has an unresolved payment attempt.")

/-- The transaction of `createAttempt` that opens a new attempt. -/
def openAttempt (input : CreatePaymentAttemptInput) (now : Timestamp) : Transact Unit := do
  assertActiveEmployee input.employeeId
  let invoice ← salesTx (InvoicesService.findInvoice input.invoiceId)
  salesTx (InvoicesService.assertPosOrderMutationAllowed invoice.orderSessionId)
  require (invoice.paymentStatus = .unpaid)
    (.conflict "Only unpaid invoices can create payment attempts.")
  assertAmount input.provider invoice.totalAmount
  paymentTx (assertNoUnresolvedAttempt invoice.id)
  let shift ← cashTx (CashierShiftLedger.requireOpenShift input.employeeId)
  InvoicesService.reserveInvoiceStock invoice.id now
  let catalog ← readCatalog
  let expiresAt := now + catalog.attemptTtlMinutes input.provider * 60 * 1000
  let merchantReference ← freshId
  let id ← freshId
  paymentTx (insertAttempt {
    id
    provider := input.provider
    status := .pending
    amount := invoice.totalAmount
    currency := "VND"
    merchantReference
    idempotencyKey := input.idempotencyKey
    requestHash := createRequestHash input
    paymentUrl := none
    providerPaymentLinkId := none
    providerTransactionNo := none
    failureCode := none
    closeSessionAfterPayment := input.closeSessionAfterPayment
    expiresAt
    completedAt := none
    lastReconciledAt := none
    nextReconcileAt := some expiresAt
    reconciliationAttempts := 0
    reconciliationLockedAt := none
    createdAt := now
    invoiceId := invoice.id
    createdById := input.employeeId
    shiftId := shift.id })

def createAttempt (input : CreatePaymentAttemptInput) (now : Timestamp) : Transact Unit := do
  require (input.provider = .vnpay ∨ input.bankCode.isNone)
    (.badRequest "Only VNPay supports bankCode.")
  let existing ← paymentTx (findFirst paymentAttempt fun attempt =>
    attempt.createdById = input.employeeId && attempt.idempotencyKey = input.idempotencyKey)
  ifSome existing (fun attempt => paymentTx (resolveExistingAttempt attempt input now))
    (openAttempt input now)

/-- The write of `presentAttempt` once the provider has returned a link. -/
def presentAttempt (attemptId : Id) (paymentUrl paymentLinkId : String) (now : Timestamp) :
    Transact Unit := do
  let sales ← salesTx get
  paymentTx (updateAttempts
    (fun row => row.id = attemptId && row.status = .pending && now < row.expiresAt &&
      row.paymentUrl.isNone &&
      (sales.invoices.find? row.invoiceId).any (·.paymentStatus = .unpaid))
    (fun row => { row with
      paymentUrl := some paymentUrl
      providerPaymentLinkId :=
        if row.provider = .payos then some paymentLinkId else row.providerPaymentLinkId }))

structure ReviewInput where
  type : PaymentReconciliationIncidentType
  title : String
  providerTransactionNo : Option String

/-- A confirmed payment stays confirmed; anything else waits for review. -/
def reviewed (input : ReviewInput) (row : PaymentAttempt) : PaymentAttempt :=
  if row.status = .succeeded then
    { row with nextReconcileAt := none, reconciliationLockedAt := none }
  else
    { row with
      status := .requiresReview
      providerTransactionNo := input.providerTransactionNo
      failureCode := some (.review input.type)
      completedAt := none
      nextReconcileAt := none
      reconciliationLockedAt := none }

def markPaymentReview (attempt : PaymentAttempt) (input : ReviewInput) (now : Timestamp) :
    Tx PaymentStore Failure Unit := do
  updateAttempt attempt (reviewed input) (by intro row; unfold reviewed; split <;> rfl)
  openIncident {
    type := input.type
    deduplicationKey := .attempt input.type attempt.id
    title := input.title
    paymentAttemptId := attempt.id
    paymentRefundId := none } now

end PaymentsService

end CoffeeShop
