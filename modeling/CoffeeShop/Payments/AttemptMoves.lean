import CoffeeShop.Library.Moves
import CoffeeShop.Payments.Statements

/-!
What a command can do to a payment attempt.

An attempt is opened pending.  A confirmation makes it succeeded, which it then stays, and
everything else ends it, has it reviewed or postpones its next reconciliation.
-/

namespace CoffeeShop

open Transaction PaymentStore Database

/-- The customer may still pay, or has perhaps paid unseen. -/
def PaymentAttemptStatus.isAwaiting : PaymentAttemptStatus → Bool
  | .pending | .expired => true
  | .succeeded | .failed | .requiresReview => false

/-- A change that neither confirms the payment nor takes a confirmation back. -/
structure PaymentAttempt.Evolves (before after : PaymentAttempt) : Prop where
  invoiceId : after.invoiceId = before.invoiceId
  amount : after.amount = before.amount
  succeeded : after.status = .succeeded ↔ before.status = .succeeded
  confirmed : before.status = .succeeded →
    after.providerTransactionNo = before.providerTransactionNo
  awaiting : after.status.isAwaiting = true → before.status.isAwaiting = true
  scheduled : after.status.isAwaiting = true → before.nextReconcileAt.isSome = true →
    after.nextReconcileAt.isSome = true
  tries : before.reconciliationAttempts ≤ after.reconciliationAttempts
  untried : after.status.isAwaiting = true →
    before.reconciliationAttempts < PaymentReconciliation.maxQueryAttempts →
    after.reconciliationAttempts < PaymentReconciliation.maxQueryAttempts

instance : IsPreorder PaymentAttempt PaymentAttempt.Evolves where
  refl _ := ⟨rfl, rfl, Iff.rfl, fun _ => rfl, id, fun _ => id, le_rfl, fun _ => id⟩
  trans _ _ _ first second := {
    invoiceId := second.invoiceId.trans first.invoiceId
    amount := second.amount.trans first.amount
    succeeded := second.succeeded.trans first.succeeded
    confirmed := fun succeeded =>
      (second.confirmed (first.succeeded.mpr succeeded)).trans (first.confirmed succeeded)
    awaiting := first.awaiting ∘ second.awaiting
    scheduled := fun awaits set => second.scheduled awaits (first.scheduled (second.awaiting awaits) set)
    tries := first.tries.trans second.tries
    untried := fun awaits less => second.untried awaits (first.untried (second.awaiting awaits) less) }

/-- The confirmation of a payment that was not confirmed yet. -/
structure PaymentAttempt.Confirms (before after : PaymentAttempt) : Prop where
  invoiceId : after.invoiceId = before.invoiceId
  amount : after.amount = before.amount
  unconfirmed : before.status ≠ .succeeded
  succeeded : after.status = .succeeded
  tries : before.reconciliationAttempts ≤ after.reconciliationAttempts

/-- A new attempt, which is to be reconciled once it expires. -/
structure PaymentAttempt.IsNew (attempt : PaymentAttempt) : Prop where
  pending : attempt.status = .pending
  scheduled : attempt.nextReconcileAt.isSome = true
  untried : attempt.reconciliationAttempts = 0

/-- A single change of an attempt, of which some may be opened and some confirmed. -/
inductive AttemptMove (opens : PaymentAttempt → Prop) (confirms : Id → Prop) (id : Id) :
    Option PaymentAttempt → Option PaymentAttempt → Prop
  | opened {attempt : PaymentAttempt} (asked : opens attempt) (isNew : attempt.IsNew) :
      AttemptMove opens confirms id none (some attempt)
  | evolved {before after : PaymentAttempt} (evolves : before.Evolves after) :
      AttemptMove opens confirms id (some before) (some after)
  | confirmed {before after : PaymentAttempt} (asked : confirms id)
      (confirmation : before.Confirms after) :
      AttemptMove opens confirms id (some before) (some after)

theorem AttemptMove.mono {opens allowed : PaymentAttempt → Prop} {confirms confirmed : Id → Prop}
    {id : Id} {first second : Option PaymentAttempt} (opening : ∀ attempt, opens attempt → allowed attempt)
    (confirming : ∀ id, confirms id → confirmed id) (move : AttemptMove opens confirms id first second) :
    AttemptMove allowed confirmed id first second := by
  cases move with
  | opened asked isNew => exact .opened (opening _ asked) isNew
  | evolved evolves => exact .evolved evolves
  | confirmed asked confirmation => exact .confirmed (confirming id asked) confirmation

/-- The attempts make only moves of these kinds. -/
abbrev MovesAttempts (opens : PaymentAttempt → Prop) (confirms : Id → Prop) {α : Type}
    (program : Tx PaymentStore Failure α) : Prop :=
  Respects (On attempts (Moves (AttemptMove opens confirms))) program

abbrev MovesPaymentAttempts (opens : PaymentAttempt → Prop) (confirms : Id → Prop) {α : Type}
    (program : Transact α) : Prop :=
  Respects (On payments (On attempts (Moves (AttemptMove opens confirms)))) program

instance : Apart attempts paymentWebhookEvent := ⟨fun _ _ => rfl⟩
instance : Apart attempts paymentReconciliationIncident := ⟨fun _ _ => rfl⟩
instance : Apart attempts paymentRefund := ⟨fun _ _ => rfl⟩
instance : Apart attempts paymentProviderRequest := ⟨fun _ _ => rfl⟩
instance : Apart attempts refundCall := ⟨fun _ _ => rfl⟩

set_option synthInstance.maxSize 100000

namespace PaymentAttempt

variable {before after : PaymentAttempt}

/-- An unconfirmed attempt that is not awaited any longer. -/
theorem Evolves.ends (unconfirmed : before.status ≠ .succeeded)
    (ended : after.status = .failed ∨ after.status = .requiresReview)
    (invoiceId : after.invoiceId = before.invoiceId) (amount : after.amount = before.amount)
    (tries : before.reconciliationAttempts ≤ after.reconciliationAttempts) :
    before.Evolves after := by
  have status : after.status ≠ .succeeded ∧ after.status.isAwaiting = false := by
    obtain failed | reviewed := ended
    · simp [failed, PaymentAttemptStatus.isAwaiting]
    · simp [reviewed, PaymentAttemptStatus.isAwaiting]
  obtain ⟨open_, finished⟩ := status
  exact {
    invoiceId
    amount
    succeeded := iff_of_false open_ unconfirmed
    confirmed := fun succeeded => (unconfirmed succeeded).elim
    awaiting := by simp [finished]
    scheduled := by simp [finished]
    tries
    untried := by simp [finished] }

/-- A confirmed attempt that stays as it is confirmed. -/
theorem Evolves.stays (succeeded : before.status = .succeeded) (status : after.status = before.status)
    (number : after.providerTransactionNo = before.providerTransactionNo)
    (invoiceId : after.invoiceId = before.invoiceId) (amount : after.amount = before.amount)
    (tries : before.reconciliationAttempts ≤ after.reconciliationAttempts) :
    before.Evolves after := by
  have finished : after.status.isAwaiting = false := by
    simp [status, succeeded, PaymentAttemptStatus.isAwaiting]
  exact {
    invoiceId
    amount
    succeeded := by rw [status]
    confirmed := fun _ => number
    awaiting := by simp [finished]
    scheduled := by simp [finished]
    tries
    untried := by simp [finished] }

/-- The lock, the link and the plan of the attempt may change, but the plan does not go. -/
theorem Evolves.plans (status : after.status = before.status)
    (number : after.providerTransactionNo = before.providerTransactionNo)
    (invoiceId : after.invoiceId = before.invoiceId) (amount : after.amount = before.amount)
    (tries : after.reconciliationAttempts = before.reconciliationAttempts)
    (scheduled : before.nextReconcileAt.isSome = true → after.nextReconcileAt.isSome = true) :
    before.Evolves after where
  invoiceId := invoiceId
  amount := amount
  succeeded := by rw [status]
  confirmed _ := number
  awaiting := by simp [status]
  scheduled _ := scheduled
  tries := tries.ge
  untried _ less := by
    rw [tries]
    exact less

end PaymentAttempt

namespace AttemptMoves

variable {opens : PaymentAttempt → Prop} {confirms : Id → Prop} {now : Timestamp}

section Statements

variable {condition : PaymentAttempt → Bool} {change : PaymentAttempt → PaymentAttempt}
variable {keeps : ∀ row, (change row).id = row.id}

theorem moves_updateAttempts
    (moved : ∀ row, condition row = true →
      AttemptMove opens confirms row.id (some row) (some (change row))) :
    MovesAttempts opens confirms (updateAttempts condition change keeps) := by
  have updates : MovesAttempts opens confirms
      (updateMany paymentAttempt condition change keeps : Tx PaymentStore Failure _) :=
    (moves_updateMany moved : Respects (On paymentAttempt.get _) _)
  unfold CoffeeShop.updateAttempts
  infer_instance

theorem moves_updateAttempt {attempt : PaymentAttempt}
    (moved : ∀ row, row.id = attempt.id → row.status = attempt.status →
      AttemptMove opens confirms row.id (some row) (some (change row))) :
    MovesAttempts opens confirms (updateAttempt attempt change keeps) := by
  have updates : MovesAttempts opens confirms (updateExpecting paymentAttempt attempt.id
      (fun row => row.status = attempt.status) change (.notFound "Record to update not found.")
      keeps) :=
    (moves_updateExpecting fun row same status => moved row same (of_decide_eq_true status) :
      Respects (On paymentAttempt.get _) _)
  unfold CoffeeShop.updateAttempt
  infer_instance

theorem evolves_updateAttempts
    (evolves : ∀ row : PaymentAttempt, condition row = true → row.Evolves (change row)) :
    MovesAttempts opens confirms (updateAttempts condition change keeps) :=
  moves_updateAttempts fun row holds => .evolved (evolves row holds)

theorem evolves_updateAttempt {attempt : PaymentAttempt}
    (evolves : ∀ row : PaymentAttempt, row.status = attempt.status → row.Evolves (change row)) :
    MovesAttempts opens confirms (updateAttempt attempt change keeps) :=
  moves_updateAttempt fun row _ status => .evolved (evolves row status)

instance openIncident {input : IncidentInput} :
    MovesAttempts opens confirms (openIncident input now) := by
  unfold CoffeeShop.openIncident upsertIncident
  infer_instance

end Statements

section Service

variable {attempt : PaymentAttempt} {input : CreatePaymentAttemptInput}

instance resolveExistingAttempt :
    MovesAttempts opens confirms
      (PaymentsService.resolveExistingAttempt attempt input now) := by
  have expires : MovesAttempts opens confirms (updateAttempts
      (fun row => row.id = attempt.id && row.status = .pending) (fun row => { row with
        status := .expired
        completedAt := some now
        nextReconcileAt := some now })) := by
    refine evolves_updateAttempts fun row holds => ?_
    simp only [Bool.and_eq_true, decide_eq_true_eq] at holds
    exact {
      invoiceId := rfl
      amount := rfl
      succeeded := by simp [holds.2]
      confirmed := fun _ => rfl
      awaiting := by simp [holds.2, PaymentAttemptStatus.isAwaiting]
      scheduled := fun _ _ => rfl
      tries := le_rfl
      untried := fun _ => id }
  unfold PaymentsService.resolveExistingAttempt PaymentsService.assertIdempotentReplay
  infer_instance

instance presentAttempt {attemptId : Id} {paymentUrl paymentLinkId : String} : MovesPaymentAttempts opens confirms
    (PaymentsService.presentAttempt attemptId paymentUrl paymentLinkId now) := by
  unfold PaymentsService.presentAttempt
  refine Respects.andThen inferInstance fun sales => ?_
  have presents : MovesAttempts opens confirms (updateAttempts
      (fun row => row.id = attemptId && row.status = .pending && now < row.expiresAt &&
        row.paymentUrl.isNone &&
        (sales.invoices.find? row.invoiceId).any (·.paymentStatus = .unpaid))
      (fun row => { row with
        paymentUrl := some paymentUrl
        providerPaymentLinkId :=
          if row.provider = .payos then some paymentLinkId else row.providerPaymentLinkId })) :=
    evolves_updateAttempts fun row _ => .plans rfl rfl rfl rfl rfl id
  infer_instance

instance markPaymentReview {input : PaymentsService.ReviewInput} : MovesAttempts opens confirms
    (PaymentsService.markPaymentReview attempt input now) := by
  have reviews : MovesAttempts opens confirms (updateAttempt attempt
      (PaymentsService.reviewed input)
      (by intro row; unfold PaymentsService.reviewed; split <;> rfl)) := by
    refine evolves_updateAttempt fun row _ => ?_
    unfold PaymentsService.reviewed
    split
    next succeeded => exact .stays succeeded rfl rfl rfl rfl le_rfl
    next unconfirmed => exact .ends unconfirmed (.inr rfl) rfl rfl le_rfl
  unfold PaymentsService.markPaymentReview
  infer_instance

end Service

section Notifications

variable {attempt : PaymentAttempt}

instance createWebhookEvent {event : PaymentWebhookEvent} :
    MovesAttempts opens confirms (PaymentsService.createWebhookEvent event) := by
  unfold PaymentsService.createWebhookEvent
  infer_instance

instance completeWebhook {payloadHash : Nat} {code : String} :
    MovesAttempts opens confirms (PaymentsService.completeWebhook payloadHash code now) := by
  unfold PaymentsService.completeWebhook
  infer_instance

/-- An attempt of the provider fails, which was not confirmed. -/
theorem fails {change : PaymentAttempt → PaymentAttempt} {keeps : ∀ row, (change row).id = row.id}
    (unconfirmed : attempt.status ≠ .succeeded)
    (failed : ∀ row, (change row).status = .failed ∧ (change row).invoiceId = row.invoiceId ∧
      (change row).amount = row.amount ∧
      row.reconciliationAttempts ≤ (change row).reconciliationAttempts) :
    MovesAttempts opens confirms (updateAttempt attempt change keeps) := by
  refine evolves_updateAttempt fun row same => ?_
  obtain ⟨status, invoiceId, amount, tries⟩ := failed row
  exact .ends (same ▸ unconfirmed) (.inl status) invoiceId amount tries

/-- An attempt is confirmed, which was not confirmed before. -/
theorem confirms_updateAttempt {change : PaymentAttempt → PaymentAttempt}
    {keeps : ∀ row, (change row).id = row.id} (asked : confirms attempt.id)
    (unconfirmed : attempt.status ≠ .succeeded)
    (confirmed : ∀ row, (change row).status = .succeeded ∧
      (change row).invoiceId = row.invoiceId ∧ (change row).amount = row.amount ∧
      row.reconciliationAttempts ≤ (change row).reconciliationAttempts) :
    MovesAttempts opens confirms (updateAttempt attempt change keeps) := by
  refine moves_updateAttempt fun row own same => ?_
  obtain ⟨status, invoiceId, amount, tries⟩ := confirmed row
  rw [← own] at asked
  exact .confirmed asked ⟨invoiceId, amount, same ▸ unconfirmed, status, tries⟩

/-- The other attempts of the invoice are superseded. -/
theorem supersedes {change : PaymentAttempt → PaymentAttempt}
    {keeps : ∀ row, (change row).id = row.id}
    (failed : ∀ row, (change row).status = .failed ∧ (change row).invoiceId = row.invoiceId ∧
      (change row).amount = row.amount ∧
      row.reconciliationAttempts ≤ (change row).reconciliationAttempts) :
    MovesAttempts opens confirms
      (updateAttempts (PaymentsService.isSuperseded attempt) change keeps) := by
  refine evolves_updateAttempts fun row holds => ?_
  simp only [PaymentsService.isSuperseded, Bool.and_eq_true, decide_eq_true_eq] at holds
  obtain ⟨status, invoiceId, amount, tries⟩ := failed row
  exact .ends (by simp [holds.2]) (.inl status) invoiceId amount tries

instance completeInvoice : MovesPaymentAttempts opens confirms
    (PaymentsService.completeInvoice attempt) := by
  unfold PaymentsService.completeInvoice
  infer_instance

theorem settleVnpay {notification : VnpayNotification} (asked : confirms attempt.id)
    (unconfirmed : attempt.status ≠ .succeeded) :
    MovesPaymentAttempts opens confirms (PaymentsService.settleVnpay attempt notification now) := by
  have failing (code : FailureCode) : MovesAttempts opens confirms (updateAttempt attempt
      (fun row => { row with
        status := .failed
        providerTransactionNo := notification.providerTransactionNo
        failureCode := some code
        completedAt := some now
        lastReconciledAt := some now
        nextReconcileAt := none
        reconciliationLockedAt := none })) :=
    fails unconfirmed fun _ => ⟨rfl, rfl, rfl, le_rfl⟩
  have confirming : MovesAttempts opens confirms (updateAttempt attempt
      (PaymentsService.confirmed notification.providerTransactionNo now)) :=
    confirms_updateAttempt asked unconfirmed fun _ => ⟨rfl, rfl, rfl, le_rfl⟩
  have superseding : MovesAttempts opens confirms (updateAttempts
      (PaymentsService.isSuperseded attempt) (fun row => { row with
        status := .failed
        failureCode := some .superseded
        completedAt := some now
        lastReconciledAt := some now
        nextReconcileAt := none
        reconciliationLockedAt := none })) :=
    supersedes fun _ => ⟨rfl, rfl, rfl, le_rfl⟩
  dsimp only [PaymentsService.settleVnpay]
  infer_instance

theorem settleMomo {notification : MomoNotification} (asked : confirms attempt.id)
    (unconfirmed : attempt.status ≠ .succeeded) :
    MovesPaymentAttempts opens confirms (PaymentsService.settleMomo attempt notification now) := by
  have failing : MovesAttempts opens confirms (updateAttempt attempt (fun row => { row with
      status := .failed
      failureCode := some (.provider ("MOMO_" ++ toString notification.resultCode))
      completedAt := some now
      lastReconciledAt := some now
      nextReconcileAt := none
      reconciliationLockedAt := none })) :=
    fails unconfirmed fun _ => ⟨rfl, rfl, rfl, le_rfl⟩
  have confirming : MovesAttempts opens confirms (updateAttempt attempt
      (PaymentsService.confirmed (some (toString notification.transId)) now)) :=
    confirms_updateAttempt asked unconfirmed fun _ => ⟨rfl, rfl, rfl, le_rfl⟩
  have superseding : MovesAttempts opens confirms (updateAttempts
      (PaymentsService.isSuperseded attempt) (fun row => { row with
        status := .failed
        failureCode := some .superseded
        completedAt := some now
        nextReconcileAt := none })) :=
    supersedes fun _ => ⟨rfl, rfl, rfl, le_rfl⟩
  dsimp only [PaymentsService.settleMomo]
  infer_instance

instance handlePayosWebhook {notification : PayosNotification} : MovesAttempts opens confirms
    (PaymentsService.handlePayosWebhook notification now) := by
  have queues (attempt : PaymentAttempt) : MovesAttempts opens confirms (updateAttempts
      (fun row => row.id = attempt.id && (row.status = .pending || row.status = .expired))
      (fun row => { row with nextReconcileAt := some now })) :=
    evolves_updateAttempts fun _ _ => .plans rfl rfl rfl rfl rfl fun _ => rfl
  dsimp only [PaymentsService.handlePayosWebhook, PaymentsService.applyPayos]
  infer_instance

end Notifications

section Reconciliation

open PaymentReconciliation

variable {attempt : PaymentAttempt} {attemptId requestId : Id}

instance claimAttempt {dueOnly : Bool} :
    MovesAttempts opens confirms (claimAttempt attemptId dueOnly now) := by
  have claims : MovesAttempts opens confirms (updateExpecting paymentAttempt attemptId
      (fun row => (!dueOnly || isDue row now) && lockIsFree row.reconciliationLockedAt now)
      (fun row => { row with reconciliationLockedAt := some now })
      (.conflict "This payment attempt is already being reconciled.")) :=
    (moves_updateExpecting fun _ _ _ => .evolved (.plans rfl rfl rfl rfl rfl id) :
      Respects (On paymentAttempt.get _) _)
  unfold PaymentReconciliation.claimAttempt
  infer_instance

instance releaseAttempt : MovesAttempts opens confirms (releaseAttempt attemptId) := by
  unfold PaymentReconciliation.releaseAttempt
  exact evolves_updateAttempts fun _ _ => .plans rfl rfl rfl rfl rfl id

instance createRequest {row : PaymentProviderRequest} :
    MovesAttempts opens confirms (createRequest row) := by
  unfold PaymentReconciliation.createRequest
  infer_instance

instance createQuery : MovesPaymentAttempts opens confirms (createQuery attemptId now) := by
  dsimp only [PaymentReconciliation.createQuery]
  infer_instance

instance completeRequest {responseCode transactionStatus : Option String} :
    MovesAttempts opens confirms
      (completeRequest requestId responseCode transactionStatus now) := by
  unfold PaymentReconciliation.completeRequest
  infer_instance

instance failRequest {message : String} :
    MovesAttempts opens confirms (failRequest requestId message now) := by
  unfold PaymentReconciliation.failRequest
  infer_instance

instance openAttemptIncident {type : PaymentReconciliationIncidentType} {title : String} :
    MovesAttempts opens confirms (openAttemptIncident attempt type title now) := by
  unfold PaymentReconciliation.openAttemptIncident
  infer_instance

instance markForReview {type : PaymentReconciliationIncidentType} {title : String} :
    MovesAttempts opens confirms (markForReview attempt type title now) := by
  have reviews : MovesAttempts opens confirms (updateAttempt attempt (reviewed type now)
      (by intro row; unfold reviewed; split <;> rfl)) := by
    refine evolves_updateAttempt fun row _ => ?_
    unfold reviewed
    split
    next succeeded => exact .stays succeeded rfl rfl rfl rfl (Nat.le_succ _)
    next unconfirmed => exact .ends unconfirmed (.inr rfl) rfl rfl (Nat.le_succ _)
  unfold PaymentReconciliation.markForReview
  infer_instance

instance autoResolveIncidents :
    MovesAttempts opens confirms (autoResolveIncidents attemptId now) := by
  unfold PaymentReconciliation.autoResolveIncidents
  infer_instance

/-- A confirmed attempt counts a reconciliation. -/
theorem recounts (succeeded : attempt.status = .succeeded) :
    MovesAttempts opens confirms (updateAttempt attempt (reconciled · now)) :=
  evolves_updateAttempt fun _ same =>
    .stays (same.trans succeeded) rfl rfl rfl rfl (Nat.le_succ _)

theorem confirmProviderPayment {view : AttemptView} {number : Option String}
    (asked : confirms view.attempt.id) :
    MovesPaymentAttempts opens confirms (confirmProviderPayment view number now) := by
  dsimp only [PaymentReconciliation.confirmProviderPayment, PaymentReconciliation.confirmAgain]
  by_cases succeeded : view.attempt.status = .succeeded
  · have recounting : MovesAttempts opens confirms
        (updateAttempt view.attempt (reconciled · now)) := recounts succeeded
    simp only [succeeded, if_true]
    infer_instance
  · have confirming (number : String) : MovesAttempts opens confirms (updateAttempt view.attempt
        (confirmed number now)) :=
      confirms_updateAttempt asked succeeded fun _ => ⟨rfl, rfl, rfl, Nat.le_succ _⟩
    simp only [succeeded, if_false]
    infer_instance

instance confirmProviderFailure {view : AttemptView} {transactionStatus : String} :
    MovesAttempts opens confirms (confirmProviderFailure view transactionStatus now) := by
  dsimp only [PaymentReconciliation.confirmProviderFailure]
  split
  · infer_instance
  next unconfirmed =>
    refine fails (fun succeeded => unconfirmed (.inl succeeded)) fun _ => ?_
    exact ⟨rfl, rfl, rfl, Nat.le_succ _⟩

/-- The attempt as it was read is postponed. -/
theorem rescheduleOrReview_moves {type : PaymentReconciliationIncidentType}
    {before after : PaymentStore} (found : before.attempts.find? attempt.id = some attempt)
    (committed : Commits (rescheduleOrReview attempt type now) before () after) :
    Moves (AttemptMove opens confirms) before.attempts after.attempts := by
  unfold rescheduleOrReview at committed
  dsimp only at committed
  split at committed
  next succeeded =>
    have recounting : MovesAttempts opens confirms
        (updateAttempt attempt (reconciled · now)) := recounts succeeded
    exact Respects.step (R := On attempts (Moves (AttemptMove opens confirms))) committed
  next =>
    split at committed
    · exact Respects.step (R := On attempts (Moves (AttemptMove opens confirms))) committed
    next left =>
      simp only [updateAttempt, CoffeeShop.checkAttempts, commits_bind, commits_get,
        commits_require, commits_updateExpecting] at committed
      obtain ⟨_, _, ⟨-, rfl⟩, _, _, ⟨rfl, rfl⟩, _, _, ⟨-, rfl⟩, _, _, ⟨-, rfl⟩, -, rfl⟩ := committed
      refine Moves.update (by intro; rfl) fun row member holds => .evolved ?_
      simp only [Bool.and_eq_true, decide_eq_true_eq] at holds
      obtain rfl := Table.eq_of_find? found member holds.1
      exact {
        invoiceId := rfl
        amount := rfl
        succeeded := Iff.rfl
        confirmed := fun _ => rfl
        awaiting := id
        scheduled := fun _ _ => rfl
        tries := Nat.le_succ _
        untried := fun _ _ => Nat.lt_of_not_le left }

theorem rescheduleOrReview_moves_inPayments {type : PaymentReconciliationIncidentType}
    {before after : Database} (found : before.payments.attempts.find? attempt.id = some attempt)
    (committed : Commits (paymentTx (rescheduleOrReview attempt type now)) before () after) :
    On payments (On attempts (Moves (AttemptMove opens confirms))) before after := by
  obtain ⟨_, ran, rfl⟩ := commits_paymentTx.mp committed
  exact rescheduleOrReview_moves found ran

instance recordQueryFailure {message : String} :
    MovesAttempts opens confirms (recordQueryFailure attemptId requestId message now) where
  step before result after committed := by
    simp only [PaymentReconciliation.recordQueryFailure, commits_bind, commits_findUnique,
      commits_whenSome] at committed
    obtain ⟨_, middle, failed, current, _, ⟨rfl, rfl⟩, ⟨attempt, found, moved⟩ | ⟨-, rfl⟩⟩ := committed
    · refine trans_of (On attempts (Moves (AttemptMove opens confirms)))
        (Respects.step (R := On attempts (Moves (AttemptMove opens confirms))) failed) ?_
      refine rescheduleOrReview_moves ?_ moved
      rw [Table.find?_key found]
      exact found
    · exact Respects.step (R := On attempts (Moves (AttemptMove opens confirms))) failed

/-- The attempt is the one that is stored. -/
theorem commits_findAttemptView {view : AttemptView} {before after : Database}
    (committed : Commits (findAttemptView attemptId) before view after) :
    before.payments.attempts.find? attemptId = some view.attempt ∧
      before.sales.invoices.find? view.attempt.invoiceId = some view.invoice ∧ after = before := by
  simp only [findAttemptView, findInvoiceOf, commits_bind, commits_paymentTx, commits_salesTx,
    commits_findUniqueOrFail, commits_pure] at committed
  obtain ⟨attempt, _, ⟨_, ⟨found, rfl⟩, rfl⟩, invoice, _, ⟨_, ⟨located, rfl⟩, rfl⟩, rfl, rfl⟩ :=
    committed
  exact ⟨found, located, rfl⟩

end Reconciliation

section Updates

variable {before after : PaymentStore} {attempt : PaymentAttempt} {result : Unit}
  {change : PaymentAttempt → PaymentAttempt} {keeps : ∀ row, (change row).id = row.id}

theorem commits_updateAttempts {condition : PaymentAttempt → Bool}
    (committed : Commits (updateAttempts condition change keeps) before result after) :
    after.attempts = before.attempts.update condition change keeps := by
  obtain ⟨_, middle, updated, checks⟩ := commits_bind.mp committed
  unfold checkAttempts at checks
  rw [show after.attempts = middle.attempts from Keeps.eq attempts checks]
  obtain ⟨-, rfl⟩ := commits_updateMany.mp updated
  rfl

theorem find?_updateAttempt
    (committed : Commits (updateAttempt attempt change keeps) before result after) :
    ∃ row, before.attempts.find? attempt.id = some row ∧ row.status = attempt.status ∧
      after.attempts.find? attempt.id = some (change row) ∧
      ∀ other ≠ attempt.id, after.attempts.find? other = before.attempts.find? other := by
  obtain ⟨_, middle, updated, checks⟩ := commits_bind.mp committed
  unfold checkAttempts at checks
  rw [show after.attempts = middle.attempts from Keeps.eq attempts checks]
  obtain ⟨row, found, status, there, others⟩ := find?_updateExpecting updated
  exact ⟨row, found, of_decide_eq_true status, there, others⟩

end Updates

section Opening

variable {before after : Database} {input : CreatePaymentAttemptInput}

theorem commits_insertAttempt {row : PaymentAttempt} {before after : PaymentStore} {result : Unit}
    (committed : Commits (PaymentsService.insertAttempt row) before result after) :
    before.attempts.insert? row = some after.attempts ∧ 0 < row.amount := by
  simp only [PaymentsService.insertAttempt, CoffeeShop.checkAttempts, commits_bind, commits_get,
    commits_require, commits_findFirst, commits_create] at committed
  obtain ⟨_, _, ⟨positive, rfl⟩, _, _, ⟨-, rfl⟩, _, _, ⟨-, rfl⟩, _, _, ⟨-, rfl⟩, _, _,
    ⟨attempts, inserted, rfl⟩, _, _, ⟨rfl, rfl⟩, _, _, ⟨-, rfl⟩, _, _, ⟨-, rfl⟩, -, rfl⟩ := committed
  exact ⟨inserted, positive⟩

/-- What a committed `openAttempt` writes to the attempts. -/
structure Opening (before after : Database) where
  attempt : PaymentAttempt
  inserted : before.payments.attempts.insert? attempt = some after.payments.attempts
  invoice : Invoice
  isNew : attempt.IsNew
  found : before.sales.invoices.find? attempt.invoiceId = some invoice
  unpaid : invoice.paymentStatus = .unpaid
  amount : attempt.amount = invoice.totalAmount
  positive : 0 < attempt.amount
  resolved : ∀ other ∈ before.payments.attempts, other.invoiceId = attempt.invoiceId →
    other.status.isUnresolved = false

theorem commits_openAttempt
    (committed : Commits (PaymentsService.openAttempt input now) before () after) :
    Nonempty (Opening before after) := by
  simp only [PaymentsService.openAttempt, commits_bind, commits_require, commits_readCatalog,
    commits_freshId] at committed
  obtain ⟨_, _, active, invoice, _, loaded, _, _, allowed, _, _, ⟨unpaid, rfl⟩, _, _, accepted, _, _,
    unresolved, shift, _, opened, _, stocked, reserved, catalog, _, ⟨-, rfl⟩, reference, _, ⟨-, rfl⟩,
    id, _, ⟨-, rfl⟩, written⟩ := committed
  cases Respects.step (R := Eq) active
  obtain ⟨_, read, -⟩ := commits_salesTx.mp loaded
  obtain ⟨found, -⟩ := commits_findUniqueOrFail.mp read
  cases Respects.step (R := Eq) loaded
  cases Respects.step (R := Eq) allowed
  cases Respects.step (R := Eq) accepted
  obtain ⟨_, free, -⟩ := commits_paymentTx.mp unresolved
  cases Respects.step (R := Eq) unresolved
  cases Respects.step (R := Eq) opened
  simp only [PaymentsService.assertNoUnresolvedAttempt, commits_bind, commits_findFirst,
    commits_require, Option.isNone_iff_eq_none] at free
  obtain ⟨_, _, ⟨rfl, rfl⟩, free, -⟩ := free
  obtain ⟨_, inserts, rfl⟩ := commits_paymentTx.mp written
  obtain ⟨entered, positive⟩ := commits_insertAttempt inserts
  have kept := Keeps.eq payments reserved
  change _ = before.payments at kept
  rw [kept] at entered
  have same : invoice.id = input.invoiceId := Table.find?_key found
  rw [← same] at found
  refine ⟨⟨_, entered, invoice, ⟨rfl, rfl, rfl⟩, found, unpaid, rfl, positive, fun other member own => ?_⟩⟩
  simpa [own] using Table.first?_eq_none.mp free other member

/-- The attempt is about the total of an unpaid invoice without another open attempt. -/
structure OpensIn (database : Database) (attempt : PaymentAttempt) : Prop where
  positive : 0 < attempt.amount
  invoice : ∃ invoice, database.sales.invoices.find? attempt.invoiceId = some invoice ∧
    invoice.paymentStatus = .unpaid ∧ attempt.amount = invoice.totalAmount
  resolved : ∀ other ∈ database.payments.attempts, other.invoiceId = attempt.invoiceId →
    other.status.isUnresolved = false

/-- An attempt is opened, or the existing one is answered. -/
theorem createAttempt
    (committed : Commits (PaymentsService.createAttempt input now) before () after) :
    (∃ attempt : PaymentAttempt, OpensIn before attempt ∧ attempt.IsNew ∧
      before.payments.attempts.insert? attempt = some after.payments.attempts) ∨
    Moves (AttemptMove (fun _ => False) fun _ => False) before.payments.attempts
      after.payments.attempts := by
  simp only [PaymentsService.createAttempt, commits_bind, commits_require, commits_paymentTx,
    commits_findFirst] at committed
  obtain ⟨_, _, ⟨-, rfl⟩, existing, _, ⟨_, ⟨-, rfl⟩, rfl⟩, created⟩ := committed
  obtain ⟨attempt, -, resolved⟩ | ⟨-, opened⟩ := commits_ifSome.mp created
  · exact .inr (Respects.step (R := On payments (On attempts (Moves (AttemptMove _ _)))) resolved)
  · obtain ⟨opening⟩ := commits_openAttempt opened
    refine .inl ⟨opening.attempt, ⟨opening.positive, ?_, opening.resolved⟩, opening.isNew,
      opening.inserted⟩
    exact ⟨opening.invoice, opening.found, opening.unpaid, opening.amount⟩

end Opening

section Commands

instance resolveIncident {key : IncidentKey} {employeeId : Id}
    {action : PaymentReconciliation.IncidentAction} {resolutionNote : Option String} :
    MovesAttempts opens confirms
      (PaymentReconciliation.resolveIncident key employeeId action resolutionNote now) := by
  unfold PaymentReconciliation.resolveIncident
  infer_instance

instance updateRefund {refundId : Id} {guard : PaymentRefund → Bool}
    {change : PaymentRefund → PaymentRefund} {keeps : ∀ row, (change row).id = row.id} :
    MovesAttempts opens confirms (PaymentRefunds.updateRefund refundId guard change keeps) := by
  unfold PaymentRefunds.updateRefund
  infer_instance

instance openRefundIncident {refund : PaymentRefund} {type : PaymentReconciliationIncidentType}
    {key : IncidentKey} {title : String} : MovesAttempts opens confirms
      (PaymentRefunds.openRefundIncident refund type key title now) := by
  unfold PaymentRefunds.openRefundIncident
  infer_instance

instance applyProviderResponse {refundId requestId : Id} {response : VnpayRefundResponse} :
    MovesPaymentAttempts opens confirms
      (PaymentRefunds.applyProviderResponse refundId requestId response now) := by
  have answers (refund : PaymentRefund) (status : PaymentRefundStatus)
      (completedAt : Option Timestamp) : MovesAttempts opens confirms
      (PaymentRefunds.updateRefund refund.id (fun _ => true)
        (PaymentRefunds.answered status response completedAt)) := updateRefund
  have awaits : MovesAttempts opens confirms (PaymentRefunds.awaitRefund requestId refundId) := by
    unfold PaymentRefunds.awaitRefund
    infer_instance
  unfold PaymentRefunds.applyProviderResponse PaymentRefunds.completeSuccessfulRefund
  infer_instance

end Commands

end AttemptMoves

/-- Other services do not write payments. -/
theorem Command.payments_eq {command : Command} {now : Timestamp} {before after : Database}
    (other : ∀ payment, command ≠ .payment payment)
    (committed : Commits (command.execute now) before () after) :
    after.payments = before.payments := by
  cases command with
  | payment payment => exact (other payment rfl).elim
  | inventory command =>
      have keeps : Keeps payments (command.execute now) := by
        cases command <;> (dsimp only [InventoryCommand.execute]; infer_instance)
      exact (keeps.step committed).symm
  | cash command =>
      have keeps : Keeps payments (command.execute now) := by
        cases command <;> (dsimp only [CashCommand.execute]; infer_instance)
      exact (keeps.step committed).symm
  | order command =>
      have keeps : Keeps payments (command.execute now) := by
        cases command <;> (dsimp only [OrderCommand.execute]; infer_instance)
      exact (keeps.step committed).symm
  | invoice command =>
      have keeps : Keeps payments (command.execute now) := by
        cases command <;> (dsimp only [InvoiceCommand.execute]; infer_instance)
      exact (keeps.step committed).symm
  | online command =>
      have keeps : Keeps payments (command.execute now) := by
        cases command <;> (dsimp only [OnlineCommand.execute]; infer_instance)
      exact (keeps.step committed).symm
  | table command =>
      have keeps : Keeps payments (command.execute now) := by
        cases command <;> (dsimp only [TableCommand.execute]; infer_instance)
      exact (keeps.step committed).symm
  | print command =>
      have keeps : Keeps payments (command.execute now) := by
        cases command <;> (dsimp only [PrintCommand.execute]; infer_instance)
      exact (keeps.step committed).symm

end CoffeeShop
