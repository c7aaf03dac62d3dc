import CoffeeShop.Library.Constrained
import CoffeeShop.Payments.RefundSafety

/-!
No payment write is refused for the state of its row.

The database ties the columns of an attempt, a refund, a request, an event and an incident to its
status.  The payment services set some of these columns only, and the row may have any status
before.  Still every row that they write passes, so nothing that a provider says and nothing that
an employee decides is lost to these constraints.
-/

namespace CoffeeShop

open Transaction PaymentStore Database

set_option synthInstance.maxSize 100000

/-- A constraint on the state of a payment row refused it. -/
def IsStateRefusal (failure : Failure) : Prop :=
  failure ∈ [
    .constraint "PaymentAttempt_state_check",
    .constraint "PaymentRefund_completion_check",
    .constraint "PaymentProviderRequest_completion_check",
    .constraint "PaymentWebhookEvent_processing_check",
    .constraint "PaymentReconciliationIncident_resolution_check"]

instance : DecidablePred IsStateRefusal := fun failure =>
  inferInstanceAs (Decidable (failure ∈ _))

/-- Every row passes the constraint on its state. -/
structure PaymentStore.Storable (store : PaymentStore) : Prop where
  attempts : ∀ attempt ∈ store.attempts, attempt.stateCheck = true
  refunds : ∀ refund ∈ store.refunds, refund.completionCheck = true
  providerRequests : ∀ request ∈ store.providerRequests, request.completionCheck = true
  webhookEvents : ∀ event ∈ store.webhookEvents, event.processingCheck = true
  incidents : ∀ incident ∈ store.incidents, incident.resolutionCheck = true

def Database.StorablePayments (database : Database) : Prop := database.payments.Storable

namespace PaymentStore.Storable

theorem empty : Storable PaymentStore.empty where
  attempts _ member := (Table.not_mem_empty member).elim
  refunds _ member := (Table.not_mem_empty member).elim
  providerRequests _ member := (Table.not_mem_empty member).elim
  webhookEvents _ member := (Table.not_mem_empty member).elim
  incidents _ member := (Table.not_mem_empty member).elim

instance : Constrained Storable paymentAttempt PaymentAttempt.stateCheck where
  holds _ storable := storable.attempts
  set _ _ storable accepted := { storable with attempts := accepted }

instance : Constrained Storable paymentRefund PaymentRefund.completionCheck where
  holds _ storable := storable.refunds
  set _ _ storable accepted := { storable with refunds := accepted }

instance : Constrained Storable paymentProviderRequest PaymentProviderRequest.completionCheck where
  holds _ storable := storable.providerRequests
  set _ _ storable accepted := { storable with providerRequests := accepted }

instance : Constrained Storable paymentWebhookEvent PaymentWebhookEvent.processingCheck where
  holds _ storable := storable.webhookEvents
  set _ _ storable accepted := { storable with webhookEvents := accepted }

instance : Constrained Storable paymentReconciliationIncident
    PaymentReconciliationIncident.resolutionCheck where
  holds _ storable := storable.incidents
  set _ _ storable accepted := { storable with incidents := accepted }

/-- The states are checked before the names that the provider gives. -/
theorem checkAttempts {before after : PaymentStore} {rows : Table PaymentAttempt.id} {result : Unit}
    (storable : before.Storable)
    (checks : Commits checkAttempts (paymentAttempt.set rows before) result after) :
    after.Storable := by
  simp only [CoffeeShop.checkAttempts, commits_bind, commits_get, commits_require] at checks
  obtain ⟨_, _, ⟨rfl, rfl⟩, _, _, ⟨accepted, rfl⟩, _, _, ⟨-, rfl⟩, -, rfl⟩ := checks
  exact { storable with attempts := List.all_eq_true.mp accepted }

end PaymentStore.Storable

namespace PaymentConstraints

open PaymentStore.Storable

section Statements

instance : PaymentStatements (On Storable Implies) where
  updateAttempts _ _ _ := ⟨fun before result after committed storable => by
    simp only [updateAttempts, commits_bind, commits_updateMany] at committed
    obtain ⟨_, _, ⟨-, rfl⟩, checks⟩ := committed
    exact storable.checkAttempts checks⟩
  updateAttempt _ _ _ := ⟨fun before result after committed storable => by
    simp only [updateAttempt, commits_bind, commits_updateExpecting] at committed
    obtain ⟨_, _, ⟨-, rfl⟩, checks⟩ := committed
    exact storable.checkAttempts checks⟩
  insertAttempt _ := ⟨fun before result after committed storable => by
    simp only [PaymentsService.insertAttempt, commits_bind, commits_require, commits_findFirst,
      commits_create] at committed
    obtain ⟨_, _, ⟨-, rfl⟩, _, _, ⟨-, rfl⟩, _, _, ⟨-, rfl⟩, _, _, ⟨-, rfl⟩, _, _, ⟨_, -, rfl⟩,
      checks⟩ := committed
    exact storable.checkAttempts checks⟩
  claimAttempt _ _ _ := ⟨fun before result after committed storable => by
    simp only [PaymentReconciliation.claimAttempt, commits_bind,
      commits_updateExpecting] at committed
    obtain ⟨_, _, ⟨-, rfl⟩, checks⟩ := committed
    exact storable.checkAttempts checks⟩
  openIncident _ _ _ := ⟨fun before result after committed storable => by
    simp only [openIncident, upsertIncident, commits_bind, commits_findUnique, commits_ite,
      commits_updateExpecting, commits_create] at committed
    obtain ⟨_, _, ⟨_, _, ⟨rfl, rfl⟩, ⟨-, -, rfl⟩ | ⟨-, _, -, rfl⟩⟩, checks⟩ := committed
    all_goals exact Constrained.checked storable checks⟩
  autoResolveIncidents _ _ := Constrained.updateMany_checked
  resolveIncident _ _ _ _ _ := by
    unfold PaymentReconciliation.resolveIncident
    refine Respects.andThen inferInstance fun _ => Respects.andThen inferInstance fun _ =>
      Respects.andThen inferInstance fun _ => ?_
    exact Constrained.updateExpecting_checked
  createWebhookEvent _ := Constrained.create_checked
  completeWebhook _ _ _ := Constrained.updateExpecting_checked
  createRequest _ := Constrained.create_checked
  completeRequest _ _ _ _ := Constrained.updateExpecting_checked
  failRequest _ _ _ := Constrained.updateExpecting_checked

instance : RefundStatements (On Storable Implies) where
  updateRefund _ _ _ _ := Constrained.updateExpecting_checked
  createRefund _ accepted := Constrained.create accepted
  sendRefund _ _ := ⟨fun before result after committed storable => by
    obtain ⟨rows, -, rfl⟩ := commits_create.mp committed
    exact { storable with }⟩
  awaitRefund _ _ := ⟨fun before result after committed storable => by
    obtain ⟨-, rfl⟩ := commits_updateExpecting.mp committed
    exact { storable with }⟩
  interruptRequests _ _ := Constrained.updateMany fun _ _ _ => rfl

end Statements

end PaymentConstraints

/-- Every row of the payment tables passes the constraint on its state. -/
theorem Reachable.storablePayments {database : Database} (reachable : Reachable database) :
    database.StorablePayments := by
  refine reachable.invariant StorablePayments PaymentStore.Storable.empty
    fun before after _ taken storable => ?_
  cases taken with
  | administer catalog reservations => exact storable
  | commit command now committed =>
      by_cases other : ∀ payment, command ≠ .payment payment
      · unfold StorablePayments
        rw [Command.payments_eq other committed]
        exact storable
      · obtain ⟨payment, rfl⟩ : ∃ payment, command = .payment payment := by simpa using other
        change Commits (payment.execute now) before () after at committed
        exact Respects.step (R := On payments (On PaymentStore.Storable Implies)) committed storable

namespace PaymentConstraints

variable {now : Timestamp}

section Failures

instance {message : String} : Permitted IsStateRefusal (.badRequest message) := ⟨nofun⟩
instance {message : String} : Permitted IsStateRefusal (.unauthorized message) := ⟨nofun⟩
instance {message : String} : Permitted IsStateRefusal (.notFound message) := ⟨nofun⟩
instance {message : String} : Permitted IsStateRefusal (.conflict message) := ⟨nofun⟩
instance {code message : String} : Permitted IsStateRefusal (.conflictWithCode code message) :=
  ⟨nofun⟩

instance : Permitted IsStateRefusal (.constraint "PaymentAttempt_pkey") := ⟨by decide⟩
instance : Permitted IsStateRefusal (.constraint "PaymentAttempt_amount_check") := ⟨by decide⟩
instance : Permitted IsStateRefusal (.constraint "PaymentAttempt_expiry_check") := ⟨by decide⟩
instance : Permitted IsStateRefusal (.constraint "PaymentAttempt_invoiceId_fkey") := ⟨by decide⟩
instance : Permitted IsStateRefusal (.constraint "PaymentAttempt_merchantReference_key") :=
  ⟨by decide⟩
instance : Permitted IsStateRefusal
    (.constraint "PaymentAttempt_provider_providerTransactionNo_key") := ⟨by decide⟩
instance : Permitted IsStateRefusal
    (.constraint "PaymentAttempt_provider_providerPaymentLinkId_key") := ⟨by decide⟩
instance : Permitted IsStateRefusal
    (.constraint "PaymentReconciliationIncident_deduplicationKey_key") := ⟨by decide⟩
instance : Permitted IsStateRefusal (.constraint "PaymentWebhookEvent_payloadHash_key") :=
  ⟨by decide⟩
instance : Permitted IsStateRefusal (.constraint "PaymentProviderRequest_pkey") := ⟨by decide⟩
instance : Permitted IsStateRefusal (.constraint "PaymentRefund_pkey") := ⟨by decide⟩
instance : Permitted IsStateRefusal (.constraint "PaymentRefund_amount_check") := ⟨by decide⟩
instance : Permitted IsStateRefusal (.constraint "PaymentRefund_paymentAttemptId_fkey") :=
  ⟨by decide⟩
instance : Permitted IsStateRefusal (.constraint "InventoryReservation_quantity_check") :=
  ⟨by decide⟩
instance : Permitted IsStateRefusal (.constraint "InventoryReservation_pkey") := ⟨by decide⟩
instance : Permitted IsStateRefusal (.constraint "OrderItemRecipeIngredient_pkey") := ⟨by decide⟩
instance : Permitted IsStateRefusal (.constraint "Invoice_orderSessionId_fkey") := ⟨by decide⟩

end Failures

section Attempts

variable {attempt : PaymentAttempt} {condition : PaymentAttempt → Bool}
variable {change : PaymentAttempt → PaymentAttempt} {keeps : ∀ row, (change row).id = row.id}

instance checkAttempts : Avoids Storable IsStateRefusal checkAttempts where
  avoids store failure storable aborted := by
    simp only [CoffeeShop.checkAttempts, aborts_bind, aborts_get, aborts_require, commits_get,
      commits_require, false_or] at aborted
    obtain ⟨_, _, ⟨rfl, rfl⟩, ⟨wrong, -⟩ | ⟨_, _, -, ⟨-, rfl⟩ | ⟨_, _, -, -, rfl⟩⟩⟩ := aborted
    · exact absurd (List.all_eq_true.mpr storable.attempts) wrong
    all_goals exact Permitted.permitted

theorem updateAttempts (accepted : ∀ row, condition row = true → row.stateCheck = true →
      (change row).stateCheck = true) :
    Avoids Storable IsStateRefusal (updateAttempts condition change keeps) := by
  have written : Preserves Storable
      (updateMany paymentAttempt condition change keeps : Tx PaymentStore Failure Nat) :=
    Constrained.updateMany accepted
  unfold CoffeeShop.updateAttempts
  infer_instance

theorem updateAttempt (accepted : ∀ row, row.status = attempt.status → row.stateCheck = true →
      (change row).stateCheck = true) :
    Avoids Storable IsStateRefusal (updateAttempt attempt change keeps) := by
  have written : Preserves Storable (updateExpecting paymentAttempt attempt.id
      (fun row => row.status = attempt.status) change
      (Failure.notFound "Record to update not found.") keeps) :=
    Constrained.updateExpecting fun row same => accepted row (of_decide_eq_true same)
  unfold CoffeeShop.updateAttempt
  infer_instance

end Attempts

section Parts

variable {α : Type} {P : Database → Prop}

instance keepsDatabase {program : Transact α}
    [kept : Respects (On payments (On Storable Implies)) program] :
    Preserves StorablePayments program where
  step _ _ _ committed storable := kept.step committed storable

instance inPayments {program : Tx PaymentStore Failure α}
    [avoids : Avoids Storable IsStateRefusal program] :
    Avoids StorablePayments IsStateRefusal (paymentTx program) :=
  Avoids.within avoids fun _ storable => storable

instance inSales {program : Tx SalesStore Failure α}
    [avoids : Avoids Anything IsStateRefusal program] : Avoids P IsStateRefusal (salesTx program) :=
  Avoids.within avoids fun _ _ => trivial

instance inInventory {program : Tx InventoryStore Failure α}
    [avoids : Avoids Anything IsStateRefusal program] :
    Avoids P IsStateRefusal (inventoryTx program) :=
  Avoids.within avoids fun _ _ => trivial

instance inCash {program : Tx CashStore Failure α}
    [avoids : Avoids Anything IsStateRefusal program] : Avoids P IsStateRefusal (cashTx program) :=
  Avoids.within avoids fun _ _ => trivial

instance freshId : Avoids P IsStateRefusal freshId where
  avoids before failure _ aborted := by
    simp [CoffeeShop.freshId] at aborted

instance readCatalog : Avoids P IsStateRefusal readCatalog where
  avoids before failure _ aborted := by
    simp [CoffeeShop.readCatalog] at aborted

instance assertActiveEmployee {employeeId : Id} :
    Avoids StorablePayments IsStateRefusal (assertActiveEmployee employeeId) := by
  unfold CoffeeShop.assertActiveEmployee
  infer_instance

instance findInvoiceOf {attempt : PaymentAttempt} :
    Avoids StorablePayments IsStateRefusal (findInvoiceOf attempt) := by
  unfold CoffeeShop.findInvoiceOf
  infer_instance

instance reserveInvoiceStock {invoiceId : Id} : Avoids StorablePayments IsStateRefusal
    (InvoicesService.reserveInvoiceStock invoiceId now) := by
  dsimp only [InvoicesService.reserveInvoiceStock, InventoryConsumption.reservePendingItems,
    InventoryConsumption.snapshotLegacyRecipes, InventoryConsumption.missingReservations,
    InventoryConsumption.createReservations, InventoryConsumption.holdTotal,
    InventoryConsumption.snapshotMismatch, InventoryConsumption.insufficientStock]
  infer_instance

instance completeInvoice {attempt : PaymentAttempt} :
    Avoids StorablePayments IsStateRefusal (PaymentsService.completeInvoice attempt) := by
  dsimp only [PaymentsService.completeInvoice, InvoicesService.completeOnlinePayment,
    InvoicesService.findInvoice, InvoicesService.findSessionOf,
    InvoicesService.assertInvoiceIsUnpaid, InvoicesService.markItemsPaid,
    InvoicesService.closeSessionIfFullyPaid]
  infer_instance

end Parts

section Incidents

instance openIncident {input : IncidentInput} :
    Avoids Storable IsStateRefusal (openIncident input now) := by
  have reopens : Preserves Storable (updateExpecting paymentReconciliationIncident
      input.deduplicationKey (fun _ => true)
      (fun row => { row with
        status := .opened
        title := input.title
        detectedAt := now
        resolvedAt := none
        resolvedById := none
        resolutionNote := none })
      (Failure.notFound "Record to update not found.")) :=
    Constrained.updateExpecting fun _ _ _ => rfl
  have records : Preserves Storable (create paymentReconciliationIncident {
      deduplicationKey := input.deduplicationKey
      type := input.type
      status := .opened
      title := input.title
      detectedAt := now
      resolvedAt := none
      resolutionNote := none
      paymentAttemptId := input.paymentAttemptId
      paymentRefundId := input.paymentRefundId
      resolvedById := none }
      (Failure.constraint "PaymentReconciliationIncident_deduplicationKey_key")) :=
    Constrained.create rfl
  have admits : Avoids Storable IsStateRefusal checkIncidents :=
    Constrained.avoids_check paymentReconciliationIncident
  unfold CoffeeShop.openIncident upsertIncident
  infer_instance

instance autoResolveIncidents {attemptId : Id} : Avoids Storable IsStateRefusal
    (PaymentReconciliation.autoResolveIncidents attemptId now) :=
  Constrained.avoids_updateMany fun _ _ _ => rfl

instance resolveIncident {key : IncidentKey} {employeeId : Id}
    {action : PaymentReconciliation.IncidentAction} {resolutionNote : Option String} :
    Avoids Storable IsStateRefusal
      (PaymentReconciliation.resolveIncident key employeeId action resolutionNote now) := by
  unfold PaymentReconciliation.resolveIncident
  refine Avoids.andThen inferInstance inferInstance fun _ _ =>
    Avoids.andThen inferInstance inferInstance fun _ _ =>
      Avoids.andThen inferInstance inferInstance fun _ _ =>
        Constrained.avoids_updateExpecting fun _ _ _ => ?_
  cases action <;> rfl

end Incidents

section Attempts

variable {attempt : PaymentAttempt} {attemptId : Id}

instance resolveExistingAttempt {input : CreatePaymentAttemptInput} :
    Avoids Storable IsStateRefusal (PaymentsService.resolveExistingAttempt attempt input now) := by
  have expires : Avoids Storable IsStateRefusal (CoffeeShop.updateAttempts
      (fun row => row.id = attempt.id && row.status = .pending)
      (fun row => { row with
        status := .expired
        completedAt := some now
        nextReconcileAt := some now })) := by
    refine updateAttempts fun row chosen accepted => ?_
    simp only [Bool.and_eq_true, decide_eq_true_eq] at chosen
    simp only [PaymentAttempt.stateCheck, chosen.2, Bool.and_eq_true] at accepted
    simp [PaymentAttempt.stateCheck, accepted]
  unfold PaymentsService.resolveExistingAttempt PaymentsService.assertIdempotentReplay
  infer_instance

theorem insertAttempt {row : PaymentAttempt} (accepted : row.stateCheck = true) :
    Avoids Storable IsStateRefusal (PaymentsService.insertAttempt row) := by
  have inserted : Preserves Storable
      (create paymentAttempt row (Failure.constraint "PaymentAttempt_pkey")) :=
    Constrained.create accepted
  unfold PaymentsService.insertAttempt
  infer_instance

instance assertAmount {provider : PaymentProvider} {amount : Money} :
    Avoids StorablePayments IsStateRefusal (PaymentsService.assertAmount provider amount) := by
  unfold PaymentsService.assertAmount
  split <;> infer_instance

instance openAttempt {input : CreatePaymentAttemptInput} :
    Avoids StorablePayments IsStateRefusal (PaymentsService.openAttempt input now) := by
  dsimp only [PaymentsService.openAttempt, InvoicesService.findInvoice,
    InvoicesService.assertPosOrderMutationAllowed, PaymentsService.assertNoUnresolvedAttempt,
    CashierShiftLedger.requireOpenShift]
  iterate 11 refine Avoids.andThen inferInstance inferInstance fun _ _ => ?_
  exact @inPayments _ _ (insertAttempt rfl)

instance createAttempt {input : CreatePaymentAttemptInput} :
    Avoids StorablePayments IsStateRefusal (PaymentsService.createAttempt input now) := by
  unfold PaymentsService.createAttempt
  infer_instance

instance presentAttempt {paymentUrl paymentLinkId : String} : Avoids StorablePayments IsStateRefusal
    (PaymentsService.presentAttempt attemptId paymentUrl paymentLinkId now) := by
  dsimp only [PaymentsService.presentAttempt]
  refine Avoids.andThen inferInstance inferInstance fun sales _ => ?_
  exact @inPayments _ _ (updateAttempts fun _ _ accepted => accepted)

instance markPaymentReview {input : PaymentsService.ReviewInput} :
    Avoids Storable IsStateRefusal (PaymentsService.markPaymentReview attempt input now) := by
  refine Avoids.andThen (updateAttempt fun row _ accepted => ?_) inferInstance
    fun _ _ => inferInstance
  unfold PaymentsService.reviewed
  split
  · exact accepted
  · rfl

end Attempts

section Notifications

variable {attempt : PaymentAttempt}

theorem createWebhookEvent {event : PaymentWebhookEvent} (accepted : event.processingCheck = true) :
    Avoids Storable IsStateRefusal (PaymentsService.createWebhookEvent event) :=
  Constrained.avoids_create accepted

instance completeWebhook {payloadHash : Nat} {processingCode : String} :
    Avoids Storable IsStateRefusal
      (PaymentsService.completeWebhook payloadHash processingCode now) :=
  Constrained.avoids_updateExpecting fun _ _ _ => rfl

theorem confirms {providerTransactionNo : Option String}
    (known : providerTransactionNo.isSome = true) : Avoids Storable IsStateRefusal
      (CoffeeShop.updateAttempt attempt (PaymentsService.confirmed providerTransactionNo now)) :=
  updateAttempt fun row _ _ => by simp [PaymentsService.confirmed, PaymentAttempt.stateCheck, known]

instance settleVnpay {notification : VnpayNotification} : Avoids StorablePayments IsStateRefusal
    (PaymentsService.settleVnpay attempt notification now) := by
  have kept : Preserves Storable (CoffeeShop.updateAttempt attempt
      (PaymentsService.confirmed notification.providerTransactionNo now)) :=
    PaymentStatements.updateAttempt ..
  dsimp only [PaymentsService.settleVnpay]
  split
  · split
    · infer_instance
    next unknown =>
      have known : notification.providerTransactionNo.isSome = true := by
        simpa [Option.isSome_iff_ne_none] using unknown
      refine Avoids.andThen inferInstance inferInstance fun _ _ =>
        Avoids.andThen (@inPayments _ _ (confirms known)) inferInstance fun _ _ =>
          Avoids.andThen (@inPayments _ _ (updateAttempts fun _ _ _ => rfl)) inferInstance
            fun _ _ => inferInstance
  · split
    · exact Avoids.andThen (@inPayments _ _ (updateAttempt fun _ _ _ => rfl)) inferInstance
        fun _ _ => inferInstance
    · infer_instance

instance applyVnpay {notification : VnpayNotification} : Avoids StorablePayments IsStateRefusal
    (PaymentsService.applyVnpay attempt notification now) := by
  dsimp only [PaymentsService.applyVnpay]
  infer_instance

instance handleVnpayIpn {notification : VnpayNotification} : Avoids StorablePayments IsStateRefusal
    (PaymentsService.handleVnpayIpn notification now) := by
  dsimp only [PaymentsService.handleVnpayIpn, PaymentsService.findByReference,
    PaymentsService.ofProvider]
  refine Avoids.andThen inferInstance inferInstance fun _ _ =>
    Avoids.andThen (@inPayments _ _ (createWebhookEvent rfl)) inferInstance fun _ _ => inferInstance

instance settleMomo {notification : MomoNotification} : Avoids StorablePayments IsStateRefusal
    (PaymentsService.settleMomo attempt notification now) := by
  have kept : Preserves Storable (CoffeeShop.updateAttempt attempt
      (PaymentsService.confirmed (some (toString notification.transId)) now)) :=
    PaymentStatements.updateAttempt ..
  dsimp only [PaymentsService.settleMomo]
  split
  · refine Avoids.andThen inferInstance inferInstance fun _ _ =>
      Avoids.andThen (@inPayments _ _ (confirms rfl)) inferInstance fun _ _ =>
        Avoids.andThen (@inPayments _ _ (updateAttempts fun _ _ _ => rfl)) inferInstance fun _ _ =>
          inferInstance
  · exact Avoids.andThen (@inPayments _ _ (updateAttempt fun _ _ _ => rfl)) inferInstance
      fun _ _ => inferInstance

instance applyMomo {notification : MomoNotification} : Avoids StorablePayments IsStateRefusal
    (PaymentsService.applyMomo attempt notification now) := by
  dsimp only [PaymentsService.applyMomo]
  infer_instance

instance handleMomoIpn {notification : MomoNotification} : Avoids StorablePayments IsStateRefusal
    (PaymentsService.handleMomoIpn notification now) := by
  dsimp only [PaymentsService.handleMomoIpn, PaymentsService.findByReference,
    PaymentsService.ofProvider]
  refine Avoids.andThen inferInstance inferInstance fun _ _ =>
    Avoids.andThen (@inPayments _ _ (createWebhookEvent rfl)) inferInstance fun _ _ => inferInstance

instance applyPayos {notification : PayosNotification} : Avoids Storable IsStateRefusal
    (PaymentsService.applyPayos attempt notification now) := by
  have queued : Avoids Storable IsStateRefusal (CoffeeShop.updateAttempts
      (fun row => row.id = attempt.id && (row.status = .pending || row.status = .expired))
      (fun row => { row with nextReconcileAt := some now })) :=
    updateAttempts fun _ _ accepted => accepted
  dsimp only [PaymentsService.applyPayos]
  infer_instance

instance handlePayosWebhook {notification : PayosNotification} : Avoids Storable IsStateRefusal
    (PaymentsService.handlePayosWebhook notification now) := by
  have recorded (attempt : PaymentAttempt) : Avoids Storable IsStateRefusal
      (PaymentsService.createWebhookEvent {
        payloadHash := notification.payloadHash
        provider := .payos
        merchantReference := some notification.orderCode
        providerTransactionNo := some notification.reference
        responseCode := some notification.code
        transactionStatus := none
        processingCode := none
        receivedAt := now
        processedAt := none
        paymentAttemptId := some attempt.id }) := createWebhookEvent rfl
  dsimp only [PaymentsService.handlePayosWebhook, PaymentsService.findByReference]
  infer_instance

end Notifications

section Reconciliation

variable {attempt : PaymentAttempt} {view : AttemptView} {attemptId requestId : Id}
variable {type : PaymentReconciliationIncidentType} {title : String}

instance claimAttempt {dueOnly : Bool} : Avoids Storable IsStateRefusal
    (PaymentReconciliation.claimAttempt attemptId dueOnly now) := by
  have locks : Preserves Storable (updateExpecting paymentAttempt attemptId
      (fun row => (!dueOnly || PaymentReconciliation.isDue row now) &&
        PaymentReconciliation.lockIsFree row.reconciliationLockedAt now)
      (fun row => { row with reconciliationLockedAt := some now })
      (Failure.conflict "This payment attempt is already being reconciled.")) := by
    refine Constrained.updateExpecting fun row _ accepted => ?_
    exact accepted
  unfold PaymentReconciliation.claimAttempt
  infer_instance

instance releaseAttempt :
    Avoids Storable IsStateRefusal (PaymentReconciliation.releaseAttempt attemptId) :=
  updateAttempts fun _ _ accepted => accepted

instance createQuery : Avoids StorablePayments IsStateRefusal
    (PaymentReconciliation.createQuery attemptId now) := by
  dsimp only [PaymentReconciliation.createQuery]
  refine Avoids.andThen inferInstance inferInstance fun _ _ =>
    Avoids.andThen inferInstance inferInstance fun _ _ => ?_
  exact @inPayments _ _ (Constrained.avoids_create rfl)

instance completeRequest {responseCode transactionStatus : Option String} :
    Avoids Storable IsStateRefusal
      (PaymentReconciliation.completeRequest requestId responseCode transactionStatus now) :=
  Constrained.avoids_updateExpecting fun _ _ _ => rfl

instance failRequest {message : String} : Avoids Storable IsStateRefusal
    (PaymentReconciliation.failRequest requestId message now) :=
  Constrained.avoids_updateExpecting fun _ _ _ => rfl

instance keepsRecounts : Preserves Storable
    (CoffeeShop.updateAttempt attempt (PaymentReconciliation.reconciled · now)) :=
  PaymentStatements.updateAttempt ..

/-- A reconciliation that is over for now changes nothing that the check looks at. -/
instance recounts : Avoids Storable IsStateRefusal
    (CoffeeShop.updateAttempt attempt (PaymentReconciliation.reconciled · now)) :=
  updateAttempt fun _ _ accepted => accepted

instance openAttemptIncident : Avoids Storable IsStateRefusal
    (PaymentReconciliation.openAttemptIncident attempt type title now) := openIncident

instance markForReview : Avoids Storable IsStateRefusal
    (PaymentReconciliation.markForReview attempt type title now) := by
  refine Avoids.andThen (updateAttempt fun row _ accepted => ?_) inferInstance
    fun _ _ => inferInstance
  unfold PaymentReconciliation.reviewed
  split
  · exact accepted
  · rfl

instance confirmAgain {number : String} : Avoids Storable IsStateRefusal
    (PaymentReconciliation.confirmAgain view number now) := by
  dsimp only [PaymentReconciliation.confirmAgain]
  infer_instance

instance confirmProviderPayment {number : Option String} : Avoids StorablePayments IsStateRefusal
    (PaymentReconciliation.confirmProviderPayment view number now) := by
  have confirming (number : String) : Avoids Storable IsStateRefusal (CoffeeShop.updateAttempt
      view.attempt (PaymentReconciliation.confirmed number now)) := updateAttempt fun _ _ _ => rfl
  have kept (number : String) : Preserves Storable (CoffeeShop.updateAttempt
      view.attempt (PaymentReconciliation.confirmed number now)) :=
    PaymentStatements.updateAttempt ..
  dsimp only [PaymentReconciliation.confirmProviderPayment]
  infer_instance

instance confirmProviderFailure {transactionStatus : String} : Avoids Storable IsStateRefusal
    (PaymentReconciliation.confirmProviderFailure view transactionStatus now) := by
  dsimp only [PaymentReconciliation.confirmProviderFailure]
  split
  · infer_instance
  · exact updateAttempt fun _ _ _ => rfl

instance rescheduleOrReview : Avoids Storable IsStateRefusal
    (PaymentReconciliation.rescheduleOrReview attempt type now) := by
  dsimp only [PaymentReconciliation.rescheduleOrReview]
  split
  · infer_instance
  · split
    · infer_instance
    · exact updateAttempt fun _ _ accepted => accepted

instance recordQueryFailure {message : String} : Avoids Storable IsStateRefusal
    (PaymentReconciliation.recordQueryFailure attemptId requestId message now) := by
  unfold PaymentReconciliation.recordQueryFailure
  infer_instance

instance findAttemptView : Avoids StorablePayments IsStateRefusal
    (PaymentReconciliation.findAttemptView attemptId) := by
  unfold PaymentReconciliation.findAttemptView
  infer_instance

instance applyResponse {response : PaymentReconciliation.ProviderResponse} :
    Avoids StorablePayments IsStateRefusal
      (PaymentReconciliation.applyResponse attempt response now) := by
  unfold PaymentReconciliation.applyResponse
  split
  · dsimp only [PaymentReconciliation.applyQueryResponse]
    infer_instance
  · dsimp only [PaymentReconciliation.applyMomoResponse]
    infer_instance
  · dsimp only [PaymentReconciliation.applyPayosResponse]
    infer_instance
  · infer_instance

instance queryProvider {response : PaymentReconciliation.ProviderResponse} :
    Avoids StorablePayments IsStateRefusal
      (PaymentReconciliation.queryProvider attemptId response now) := by
  unfold PaymentReconciliation.queryProvider
  infer_instance

end Reconciliation

section Refunds

variable {refundId requestId : Id} {guard : PaymentRefund → Bool}
variable {change : PaymentRefund → PaymentRefund} {keeps : ∀ row, (change row).id = row.id}

theorem updateRefund (accepted : ∀ row, guard row = true → row.completionCheck = true →
      (change row).completionCheck = true) :
    Avoids Storable IsStateRefusal (PaymentRefunds.updateRefund refundId guard change keeps) :=
  Constrained.avoids_updateExpecting accepted

instance createRefund {input : CreatePaymentRefundInput} : Avoids StorablePayments IsStateRefusal
    (PaymentRefunds.createRefund input now) := by
  dsimp only [PaymentRefunds.createRefund, PaymentRefunds.assertIdempotentReplay,
    PaymentRefunds.requestRefund]
  infer_instance

instance submitRefund : Avoids StorablePayments IsStateRefusal
    (PaymentRefunds.submitRefund refundId now) := by
  have claims : Avoids Storable IsStateRefusal (PaymentRefunds.updateRefund refundId
      (fun row => row.status = .pending)
      (fun row => { row with
        status := .processing
        reconciliationLockedAt := some now })) := by
    refine updateRefund fun row pending accepted => ?_
    simpa [PaymentRefund.completionCheck, of_decide_eq_true pending] using accepted
  dsimp only [PaymentRefunds.submitRefund, PaymentRefunds.sendRefund]
  refine Avoids.andThen inferInstance inferInstance fun _ _ =>
    Avoids.andThen inferInstance inferInstance fun _ _ =>
      Avoids.andThen inferInstance inferInstance fun _ _ =>
        Avoids.andThen (@inPayments _ _ (Constrained.avoids_create rfl)) inferInstance fun _ _ =>
          inferInstance

instance openRefundIncident {refund : PaymentRefund} {type : PaymentReconciliationIncidentType}
    {key : IncidentKey} {title : String} : Avoids Storable IsStateRefusal
      (PaymentRefunds.openRefundIncident refund type key title now) := openIncident

/-- A refund with an outcome is completed, and one without an outcome is not. -/
theorem completionCheck_answered {outcome : PaymentRefundStatus} {response : VnpayRefundResponse}
    {refund : PaymentRefund} (unsuccessful : outcome ≠ .succeeded) :
    (PaymentRefunds.answered outcome response
      (if outcome = .failed ∨ outcome = .rejected then some now else none)
      refund).completionCheck = true := by
  cases outcome with
  | succeeded => exact absurd rfl unsuccessful
  | _ => rfl

instance awaitRefund {P : PaymentStore → Prop} :
    Avoids P IsStateRefusal (PaymentRefunds.awaitRefund requestId refundId) := by
  unfold PaymentRefunds.awaitRefund
  infer_instance

instance completeSuccessfulRefund {attempt : PaymentAttempt} {refund : PaymentRefund}
    {response : VnpayRefundResponse} : Avoids StorablePayments IsStateRefusal
      (PaymentRefunds.completeSuccessfulRefund attempt refund response now) := by
  have succeeds : Avoids Storable IsStateRefusal (PaymentRefunds.updateRefund refund.id
      (fun _ => true) (PaymentRefunds.answered .succeeded response (some now))) :=
    updateRefund fun _ _ _ => rfl
  have kept : Preserves Storable (PaymentRefunds.updateRefund refund.id
      (fun _ => true) (PaymentRefunds.answered .succeeded response (some now))) :=
    RefundStatements.answers ..
  dsimp only [PaymentRefunds.completeSuccessfulRefund]
  infer_instance

instance applyProviderResponse {response : VnpayRefundResponse} :
    Avoids StorablePayments IsStateRefusal
      (PaymentRefunds.applyProviderResponse refundId requestId response now) := by
  dsimp only [PaymentRefunds.applyProviderResponse]
  refine Avoids.andThen inferInstance inferInstance fun _ _ =>
    Avoids.andThen inferInstance inferInstance fun refund _ =>
      Avoids.andThen inferInstance inferInstance fun attempt _ =>
        Avoids.andThen inferInstance inferInstance fun _ _ => ?_
  generalize (if (PaymentRefunds.refundResponseMismatch attempt refund response).isSome = true then
    .requiresReview
    else PaymentRefunds.refundOutcome response.responseCode response.transactionStatus) = outcome
  split
  · infer_instance
  next unsuccessful =>
    have opens := PaymentStatements.openRefundIncident (R := On Storable Implies) refund
      .refundStateMismatch (.refundState refund.id)
      "VNPay refund requires manual reconciliation" now (by rintro _ _ ⟨⟩)
    refine Avoids.andThen inferInstance inferInstance fun _ _ => ?_
    exact @inPayments _ _ (updateRefund fun _ _ _ => completionCheck_answered unsuccessful)

instance recoverAbandonedRefund : Avoids Storable IsStateRefusal
    (PaymentRefunds.recoverAbandonedRefund refundId now) := by
  have abandons : Avoids Storable IsStateRefusal (PaymentRefunds.updateRefund refundId
      (fun row => row.status = .processing && row.reconciliationLockedAt.any
        (· + PaymentReconciliation.lockTimeoutMs < now))
      (fun row => { row with
        status := .requiresReview
        lastError := some PaymentRefunds.interrupted
        reconciliationLockedAt := none })) := by
    refine updateRefund fun row chosen accepted => ?_
    simp only [Bool.and_eq_true, decide_eq_true_eq] at chosen
    simpa [PaymentRefund.completionCheck, chosen.1] using accepted
  have admits : Avoids Storable IsStateRefusal PaymentReconciliation.checkProviderRequests :=
    Constrained.avoids_check paymentProviderRequest
  unfold PaymentRefunds.recoverAbandonedRefund
  infer_instance

/-- The refund of a call that has no answer is not completed. -/
theorem completedAt_eq_none {store : PaymentStore} {call : RefundCall} {refund : PaymentRefund}
    (storable : store.Storable) (calls : RefundCalls store) (member : call ∈ store.refundCalls)
    (waits : call.answered = false)
    (found : store.refunds.find? call.paymentRefundId = some refund) :
    refund.completedAt = none := by
  obtain ⟨called, isCalled, -, unanswered⟩ := calls.called call member
  rw [found] at isCalled
  cases isCalled
  have accepted := storable.refunds refund (Table.mem_of_find? found)
  obtain status | status := unanswered waits
  all_goals simpa [PaymentRefund.completionCheck, status] using accepted

/-- The last statement of `markProviderUncertain` finds the refund as the call left it. -/
theorem markProviderUncertain {message : String} {store : PaymentStore} {failure : Failure}
    (storable : store.Storable) (calls : RefundCalls store) (aborted : Aborts
      (PaymentRefunds.markProviderUncertain refundId requestId message now) store failure) :
    ¬IsStateRefusal failure := by
  simp only [PaymentRefunds.markProviderUncertain, aborts_bind] at aborted
  obtain idle | ⟨_, middle, awaits, unknown | ⟨refund, awaited, reads, early | ⟨_, failed, fails,
    late | ⟨_, opened, opens, updates⟩⟩⟩⟩ := aborted
  · exact Avoids.avoids (P := Storable) storable idle
  all_goals
    have answered : middle.Storable := Respects.step (R := On Storable Implies) awaits storable
  · exact Avoids.avoids (P := Storable) answered unknown
  all_goals
    obtain ⟨found, rfl⟩ := commits_findUniqueOrFail.mp reads
    obtain rfl := Table.find?_key found
  · exact Avoids.avoids (P := Storable) answered early
  all_goals
    have closed : failed.Storable := Respects.step (R := On Storable Implies) fails answered
  · exact Avoids.avoids (P := Storable) closed late
  · have opening := PaymentStatements.openRefundIncident (R := On Storable Implies) refund
      .providerUnavailable (.refundProvider refund.id) "VNPay refund outcome is unknown" now
      (by rintro _ _ ⟨⟩)
    have reviewed : opened.Storable := opening.step opens closed
    obtain missing | ⟨_, _, writes, refused⟩ := aborts_bind.mp updates
    · exact Avoids.avoids (P := Storable) reviewed missing
    · obtain ⟨-, rfl⟩ := commits_updateExpecting.mp writes
      refine (Constrained.avoids_check paymentRefund).avoids
        (Constrained.set reviewed fun row member => ?_) refused
      obtain ⟨old, inStore, chosen, rfl⟩ | ⟨inStore, -⟩ := Table.mem_update_iff.mp member
      · have kept : opened.refundState = awaited.refundState :=
          (RefundSteps.commits_openRefundIncident opens).1.trans (Keeps.eq refundState fails)
        obtain ⟨call, own, waits, replaces, frame⟩ := RefundSteps.commits_awaitRefund awaits
        simp only [refundState, Prod.mk.injEq] at kept
        have isOld : old ∈ awaited.refunds := kept.1 ▸ inStore
        obtain rfl := Table.eq_of_key_eq isOld (Table.mem_of_find? found) (by simpa using chosen)
        rw [frame, ← own] at found
        have uncompleted := completedAt_eq_none storable calls replaces.member waits found
        simp [PaymentRefund.completionCheck, uncompleted]
      · exact reviewed.refunds row inStore

end Refunds

end PaymentConstraints

/-- Every row of the payment tables passes the constraint on its state, and no operation on payments
is refused because a row that it writes would not. -/
theorem Reachable.payments_storable {database : Database} (reachable : Reachable database) :
    database.StorablePayments ∧ ∀ (command : PaymentCommand) (now : Timestamp) (failure : Failure),
      Aborts (command.execute now) database failure → ¬IsStateRefusal failure := by
  have storable := reachable.storablePayments
  refine ⟨storable, fun command now failure aborted => ?_⟩
  cases command with
  | markProviderUncertain refundId requestId message =>
      have calls := reachable.refundsAgree.books.calls
      exact PaymentConstraints.markProviderUncertain storable calls (aborts_within.mp aborted)
  | _ =>
      dsimp only [PaymentCommand.execute] at aborted
      exact Avoids.avoids (P := StorablePayments) storable aborted

/-- A second answer to the refund of the first cup is refused, but not for a row. -/
theorem Reachable.payments_storable_coldCup :
    Database.coldCup.StorablePayments ∧ ∃ failure,
      Aborts ((PaymentCommand.markProviderUncertain 8 9 "Timeout").execute 14) Database.coldCup
        failure ∧ ¬IsStateRefusal failure := by
  obtain ⟨storable, admitted⟩ := Reachable.coldCup.payments_storable
  have late : Aborts ((PaymentCommand.markProviderUncertain 8 9 "Timeout").execute 14)
      Database.coldCup (.conflict "The call is not in flight.") := by
    decide +kernel
  exact ⟨storable, _, late, admitted _ 14 _ late⟩

end CoffeeShop
