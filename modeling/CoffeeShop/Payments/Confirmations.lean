import CoffeeShop.Invoices.Amounts
import CoffeeShop.Payments.AttemptMoves
import CoffeeShop.Sales.Runs

/-!
Which transactions confirm a payment.

A payment is confirmed in the transaction that pays its invoice, by a notification or by
a reconciliation.  Neither confirms a second attempt along with the first.
-/

namespace CoffeeShop

open Transaction PaymentStore Database

set_option synthInstance.maxSize 100000

/-- An unpaid invoice is paid by transfer. -/
structure SalesStore.PaysOnline (before after : SalesStore) (invoiceId : Id) : Prop where
  unpaid : ∃ invoice, before.invoices.find? invoiceId = some invoice ∧
    invoice.paymentStatus = .unpaid
  paid : ∃ invoice, after.invoices.find? invoiceId = some invoice ∧
    invoice.paymentStatus = .paid ∧ invoice.paymentMethod = .transfer

/-- The invoice of the attempt is paid online. -/
def SalesStore.Completes (before after : SalesStore) (attempt : PaymentAttempt) : Prop :=
  Commits (InvoicesService.completeOnlinePayment {
    invoiceId := attempt.invoiceId
    employeeId := attempt.createdById
    shiftId := attempt.shiftId
    closeSessionAfterPayment := attempt.closeSessionAfterPayment }) before () after

/-- The other attempts stay as they are, unless the attempt supersedes them. -/
def PaymentAttempt.LeavesOthers (attempt : PaymentAttempt) (before after : Table PaymentAttempt.id) :
    Prop :=
  ∀ id ≠ attempt.id, after.find? id = before.find? id ∨ ∃ row next,
    before.find? id = some row ∧ PaymentsService.isSuperseded attempt row = true ∧
      after.find? id = some next ∧ next.status = .failed

/-- The payment of the attempt is confirmed. -/
structure ConfirmsPayment (attempt : PaymentAttempt) (before after : Database) : Prop where
  completes : before.sales.Completes after.sales attempt
  others : attempt.LeavesOthers before.payments.attempts after.payments.attempts
  moves : Moves (AttemptMove (fun _ => False) (· = attempt.id)) before.payments.attempts
    after.payments.attempts

/-- No attempt is confirmed, or this one is as its invoice is paid. -/
inductive ConfirmsAtMost (attempt : PaymentAttempt) (before after : Database) : Prop
  | nothing
      (moves : Moves (AttemptMove (fun _ => False) fun _ => False) before.payments.attempts
        after.payments.attempts)
  | payment (confirms : ConfirmsPayment attempt before after)

namespace ConfirmsAtMost

variable {attempt : PaymentAttempt} {before middle after : Database}

/-- What does not write the sales may precede and follow. -/
theorem surrounded {first last : Database} (confirms : ConfirmsAtMost attempt before after)
    (sold : before.sales = first.sales) (paid : last.sales = after.sales)
    (opening : before.payments.attempts = first.payments.attempts)
    (closing : last.payments.attempts = after.payments.attempts) :
    ConfirmsAtMost attempt first last := by
  cases confirms with
  | nothing moves =>
      rw [opening, ← closing] at moves
      exact .nothing moves
  | payment confirms =>
      obtain ⟨completes, others, moves⟩ := confirms
      rw [opening, ← closing] at others moves
      rw [sold, ← paid] at completes
      exact .payment ⟨completes, others, moves⟩

/-- A program that confirms nothing. -/
theorem idle {α : Type} {program : Transact α} {result : α}
    [respects : MovesPaymentAttempts (fun _ => False) (fun _ => False) program]
    (committed : Commits program before result after) : ConfirmsAtMost attempt before after :=
  .nothing (respects.step committed)

end ConfirmsAtMost

section Confirming

variable {attempt : PaymentAttempt} {before after : Database} {now : Timestamp}

theorem commits_completeInvoice
    (committed : Commits (PaymentsService.completeInvoice attempt) before () after) :
    before.sales.Completes after.sales attempt ∧ after.payments = before.payments := by
  obtain ⟨sales, ran, rfl⟩ := commits_salesTx.mp committed
  exact ⟨ran, rfl⟩

/-- The invoice was unpaid, and is paid by transfer. -/
theorem SalesStore.Completes.pays {before after : SalesStore} (completes : before.Completes after attempt) :
    before.PaysOnline after attempt.invoiceId := by
  simp only [SalesStore.Completes, InvoicesService.completeOnlinePayment,
    InvoicesService.findInvoice, InvoicesService.findSessionOf,
    InvoicesService.assertInvoiceIsUnpaid, commits_bind, commits_findUniqueOrFail,
    commits_require] at completes
  obtain ⟨existing, _, ⟨found, rfl⟩, session, _, ⟨-, rfl⟩, _, _, ⟨unpaid, rfl⟩, _, paid, pays, _,
    marked, marks, closes⟩ := completes
  have same := Table.find?_key found
  refine ⟨⟨existing, found, unpaid⟩, ?_⟩
  obtain ⟨row, -, -, written, -⟩ := find?_updateExpecting pays
  unfold InvoicesService.markItemsPaid at marks
  unfold InvoicesService.closeSessionIfFullyPaid at closes
  have kept : after.invoices = paid.invoices :=
    (Keeps.eq SalesStore.invoices closes).trans (Keeps.eq SalesStore.invoices marks)
  rw [same] at written
  change paid.invoices.find? attempt.invoiceId = _ at written
  rw [← kept] at written
  exact ⟨_, written, rfl, rfl⟩

section Superseding

variable {confirm fail : PaymentAttempt → PaymentAttempt} {code result : String}
  {confirmKeeps : ∀ row, (confirm row).id = row.id} {failKeeps : ∀ row, (fail row).id = row.id}

/-- A notification confirms the attempt and supersedes the pending ones of the invoice. -/
theorem commits_superseding
    (committed : Commits (do
      PaymentsService.completeInvoice attempt
      paymentTx (updateAttempt attempt confirm confirmKeeps)
      paymentTx (updateAttempts (PaymentsService.isSuperseded attempt) fail failKeeps)
      pure code) before result after) :
    before.sales.Completes after.sales attempt ∧
      (∃ row, before.payments.attempts.find? attempt.id = some row ∧
        after.payments.attempts.find? attempt.id = some (confirm row)) ∧
      ∀ id ≠ attempt.id, after.payments.attempts.find? id =
        (before.payments.attempts.find? id).map fun row =>
          if PaymentsService.isSuperseded attempt row = true then fail row else row := by
  simp only [commits_bind, commits_paymentTx, commits_pure] at committed
  obtain ⟨_, paid, completed, _, _, ⟨_, confirms, rfl⟩, _, _, ⟨_, supersedes, rfl⟩, -, rfl⟩ :=
    committed
  obtain ⟨completes, payments⟩ := commits_completeInvoice completed
  obtain ⟨row, found, -, there, kept⟩ := AttemptMoves.find?_updateAttempt confirms
  rw [payments] at kept found
  have written := AttemptMoves.commits_updateAttempts supersedes
  refine ⟨completes, ⟨row, found, ?_⟩, fun id other => ?_⟩
  · have spared : PaymentsService.isSuperseded attempt (confirm row) = false := by
      simp [PaymentsService.isSuperseded, confirmKeeps row, Table.find?_key found]
    rw [written, Table.find?_update, there, Option.map_some, if_neg (by simp [spared])]
  · rw [written, Table.find?_update, kept id other]

theorem commits_confirming (failed : ∀ row, (fail row).status = .failed)
    (committed : Commits (do
      PaymentsService.completeInvoice attempt
      paymentTx (updateAttempt attempt confirm confirmKeeps)
      paymentTx (updateAttempts (PaymentsService.isSuperseded attempt) fail failKeeps)
      pure code) before result after) :
    before.sales.Completes after.sales attempt ∧
      attempt.LeavesOthers before.payments.attempts after.payments.attempts := by
  obtain ⟨completes, -, others⟩ := commits_superseding committed
  refine ⟨completes, fun id other => ?_⟩
  rw [others id other]
  cases found : before.payments.attempts.find? id with
  | none => exact .inl rfl
  | some row =>
      by_cases superseded : PaymentsService.isSuperseded attempt row = true
      · refine .inr ⟨row, fail row, rfl, superseded, ?_, failed row⟩
        simp [superseded]
      · refine .inl ?_
        simp [superseded]

end Superseding

theorem settleVnpay_confirms {notification : VnpayNotification} {code : String}
    (unconfirmed : attempt.status ≠ .succeeded)
    (committed : Commits (PaymentsService.settleVnpay attempt notification now) before code after) :
    ConfirmsAtMost attempt before after := by
  have settling : MovesPaymentAttempts (fun _ => False) (· = attempt.id)
      (PaymentsService.settleVnpay attempt notification now) :=
    AttemptMoves.settleVnpay rfl unconfirmed
  have moves := settling.step committed
  have failing (code : FailureCode) : MovesAttempts (fun _ => False) (fun _ => False)
      (updateAttempt attempt (fun row => { row with
        status := .failed
        providerTransactionNo := notification.providerTransactionNo
        failureCode := some code
        completedAt := some now
        lastReconciledAt := some now
        nextReconcileAt := none
        reconciliationLockedAt := none })) :=
    AttemptMoves.fails unconfirmed fun _ => ⟨rfl, rfl, rfl, le_rfl⟩
  dsimp only [PaymentsService.settleVnpay] at committed
  simp only [commits_ite] at committed
  obtain ⟨-, ⟨-, unnumbered⟩ | ⟨-, confirmed⟩⟩ | ⟨-, ⟨-, failed⟩ | ⟨-, undecided⟩⟩ := committed
  · exact .idle unnumbered
  · obtain ⟨completes, others⟩ := commits_confirming (fun _ => rfl) confirmed
    exact .payment ⟨completes, others, moves⟩
  · exact .idle failed
  · exact .idle undecided

theorem applyVnpay_confirms {notification : VnpayNotification} {code : String}
    (committed : Commits (PaymentsService.applyVnpay attempt notification now) before code after) :
    ConfirmsAtMost attempt before after := by
  dsimp only [PaymentsService.applyVnpay] at committed
  simp only [commits_ite] at committed
  obtain ⟨-, mismatched⟩ | ⟨-, ⟨-, repeated⟩ | ⟨unconfirmed, ⟨-, reviewed⟩ | ⟨-, loaded⟩⟩⟩ := committed
  · exact .idle mismatched
  · exact .idle repeated
  · exact .idle reviewed
  · obtain ⟨invoice, _, read, settled⟩ := commits_bind.mp loaded
    cases Respects.step (R := Eq) read
    simp only [commits_ite] at settled
    obtain ⟨-, ⟨-, late⟩ | ⟨-, late⟩⟩ | ⟨-, settled⟩ := settled
    · exact .idle late
    · exact .idle late
    · exact settleVnpay_confirms unconfirmed settled

theorem settleMomo_confirms {notification : MomoNotification} {code : String}
    (unconfirmed : attempt.status ≠ .succeeded)
    (committed : Commits (PaymentsService.settleMomo attempt notification now) before code after) :
    ConfirmsAtMost attempt before after := by
  have settling : MovesPaymentAttempts (fun _ => False) (· = attempt.id)
      (PaymentsService.settleMomo attempt notification now) :=
    AttemptMoves.settleMomo rfl unconfirmed
  have moves := settling.step committed
  have failing : MovesAttempts (fun _ => False) (fun _ => False)
      (updateAttempt attempt (fun row => { row with
        status := .failed
        failureCode := some (.provider ("MOMO_" ++ toString notification.resultCode))
        completedAt := some now
        lastReconciledAt := some now
        nextReconcileAt := none
        reconciliationLockedAt := none })) :=
    AttemptMoves.fails unconfirmed fun _ => ⟨rfl, rfl, rfl, le_rfl⟩
  dsimp only [PaymentsService.settleMomo] at committed
  simp only [commits_ite] at committed
  obtain ⟨-, confirmed⟩ | ⟨-, failed⟩ := committed
  · obtain ⟨completes, others⟩ := commits_confirming (fun _ => rfl) confirmed
    exact .payment ⟨completes, others, moves⟩
  · exact .idle failed

theorem applyMomo_confirms {notification : MomoNotification} {code : String}
    (committed : Commits (PaymentsService.applyMomo attempt notification now) before code after) :
    ConfirmsAtMost attempt before after := by
  dsimp only [PaymentsService.applyMomo] at committed
  obtain ⟨invoice, _, read, applied⟩ := commits_bind.mp committed
  cases Respects.step (R := Eq) read
  simp only [commits_ite] at applied
  obtain ⟨-, mismatched⟩ | ⟨-, ⟨-, open_⟩ | ⟨-, ⟨-, repeated⟩ | ⟨unconfirmed, ⟨-, reviewed⟩ |
    ⟨-, ⟨-, late⟩ | ⟨-, settled⟩⟩⟩⟩⟩ := applied
  · exact .idle mismatched
  · exact .idle open_
  · exact .idle repeated
  · exact .idle reviewed
  · exact .idle late
  · exact settleMomo_confirms unconfirmed settled

end Confirming

/-- What a command of the payment services does to the attempts. -/
inductive PaymentStep (before after : Database) : Prop
  | opening {attempt : PaymentAttempt} (opens : AttemptMoves.OpensIn before attempt)
      (isNew : attempt.IsNew)
      (inserted : before.payments.attempts.insert? attempt = some after.payments.attempts)
  | unconfirming
      (moves : Moves (AttemptMove (fun _ => False) fun _ => False) before.payments.attempts
        after.payments.attempts)
  | confirming {attempt : PaymentAttempt}
      (found : before.payments.attempts.find? attempt.id = some attempt)
      (confirms : ConfirmsPayment attempt before after)

namespace PaymentStep

variable {attempt : PaymentAttempt} {before after : Database} {now : Timestamp}

theorem of_confirms (found : before.payments.attempts.find? attempt.id = some attempt)
    (confirms : ConfirmsAtMost attempt before after) : PaymentStep before after := by
  cases confirms with
  | nothing moves => exact .unconfirming moves
  | payment confirms => exact .confirming found confirms

/-- A program that opens and confirms nothing. -/
theorem idle {α : Type} {program : Transact α} {result : α}
    [respects : MovesPaymentAttempts (fun _ => False) (fun _ => False) program]
    (committed : Commits program before result after) : PaymentStep before after :=
  .unconfirming (respects.step committed)

/-- The event is stored before the notification is applied, and completed after. -/
theorem notified {event : PaymentWebhookEvent} {found : Option PaymentAttempt}
    {provider : PaymentProvider} {missing : String} {apply : PaymentAttempt → Transact String}
    {payloadHash : Nat}
    (known : ∀ attempt, found = some attempt →
      before.payments.attempts.find? attempt.id = some attempt)
    (applied : ∀ attempt first code last, Commits (apply attempt) first code last →
      ConfirmsAtMost attempt first last)
    (committed : Commits (do
      paymentTx (PaymentsService.createWebhookEvent event)
      let processingCode ← PaymentsService.ofProvider found provider missing apply
      paymentTx (PaymentsService.completeWebhook payloadHash processingCode now)) before ()
        after) :
    PaymentStep before after := by
  obtain ⟨_, stored, storing, answered⟩ := commits_bind.mp committed
  obtain ⟨code, answer, answers, completes⟩ := commits_bind.mp answered
  have sold : stored.sales = before.sales := Keeps.eq Database.sales storing
  have paid : after.sales = answer.sales := Keeps.eq Database.sales completes
  obtain ⟨_, stores, rfl⟩ := commits_paymentTx.mp storing
  obtain ⟨_, ends, rfl⟩ := commits_paymentTx.mp completes
  unfold PaymentsService.createWebhookEvent at stores
  unfold PaymentsService.completeWebhook at ends
  have opening := Keeps.eq attempts stores
  have closing := Keeps.eq attempts ends
  obtain ⟨attempt, named, ran⟩ | ⟨-, nothing⟩ := commits_ifSome.mp answers
  · refine of_confirms (known attempt (Option.eq_some_of_filter_eq_some named)) ?_
    exact (applied attempt _ code answer ran).surrounded sold paid opening closing
  · obtain ⟨-, rfl⟩ := commits_pure.mp nothing
    have same := closing.trans opening
    refine .unconfirming ?_
    rw [← show _ = before.payments.attempts from same]
    exact refl_of (Moves _) _

theorem handleVnpayIpn {notification : VnpayNotification}
    (committed : Commits (PaymentsService.handleVnpayIpn notification now) before () after) :
    PaymentStep before after := by
  unfold PaymentsService.handleVnpayIpn at committed
  obtain ⟨found, _, read, rest⟩ := commits_bind.mp committed
  obtain ⟨_, looked, rfl⟩ := commits_paymentTx.mp read
  obtain ⟨rfl, rfl⟩ := commits_findFirst.mp looked
  refine notified (fun attempt named => ?_) (fun _ _ _ _ ran => applyVnpay_confirms ran) rest
  exact Table.find?_of_mem (Table.mem_of_first? named).1

theorem handleMomoIpn {notification : MomoNotification}
    (committed : Commits (PaymentsService.handleMomoIpn notification now) before () after) :
    PaymentStep before after := by
  unfold PaymentsService.handleMomoIpn at committed
  obtain ⟨found, _, read, rest⟩ := commits_bind.mp committed
  obtain ⟨_, looked, rfl⟩ := commits_paymentTx.mp read
  obtain ⟨rfl, rfl⟩ := commits_findFirst.mp looked
  refine notified (fun attempt named => ?_) (fun _ _ _ _ ran => applyMomo_confirms ran) rest
  exact Table.find?_of_mem (Table.mem_of_first? named).1

section Reconciliation

open PaymentReconciliation

variable {attemptId : Id} {view : AttemptView}

theorem confirmProviderPayment {number : Option String}
    (found : before.payments.attempts.find? view.attempt.id = some view.attempt)
    (committed : Commits (confirmProviderPayment view number now) before () after) :
    PaymentStep before after := by
  have confirming : MovesPaymentAttempts (fun _ => False) (· = view.attempt.id)
      (PaymentReconciliation.confirmProviderPayment view number now) :=
    AttemptMoves.confirmProviderPayment rfl
  have moves := confirming.step committed
  dsimp only [PaymentReconciliation.confirmProviderPayment] at committed
  obtain ⟨number, -, confirmed⟩ | ⟨-, unnumbered⟩ := commits_ifSome.mp committed
  · simp only [commits_ite] at confirmed
    obtain ⟨succeeded, again⟩ | ⟨-, ⟨-, late⟩ | ⟨-, settled⟩⟩ := confirmed
    · have recounting : MovesAttempts (fun _ => False) (fun _ => False)
          (updateAttempt view.attempt (reconciled · now)) := AttemptMoves.recounts succeeded
      dsimp only [confirmAgain] at again
      exact .idle again
    · exact .idle late
    · simp only [commits_bind, commits_paymentTx] at settled
      obtain ⟨_, paid, completed, _, ⟨_, _, confirms, resolves⟩, rfl⟩ := settled
      obtain ⟨completes, payments⟩ := commits_completeInvoice completed
      obtain ⟨_, -, -, -, kept⟩ := AttemptMoves.find?_updateAttempt confirms
      rw [payments] at kept
      unfold PaymentReconciliation.autoResolveIncidents at resolves
      refine .confirming found ⟨completes, fun id other => .inl ?_, moves⟩
      rw [Keeps.eq attempts resolves, kept id other]
  · exact .idle unnumbered

theorem rescheduleOrReview {attempt : PaymentAttempt} {type : PaymentReconciliationIncidentType}
    (found : before.payments.attempts.find? attempt.id = some attempt)
    (committed : Commits (paymentTx (rescheduleOrReview attempt type now)) before () after) :
    PaymentStep before after :=
  .unconfirming (AttemptMoves.rescheduleOrReview_moves_inPayments found committed)

theorem applyQueryResponse {response : VnpayQueryResponse}
    (committed : Commits (applyQueryResponse attemptId response now) before () after) :
    PaymentStep before after := by
  obtain ⟨view, _, read, answered⟩ := commits_bind.mp committed
  obtain ⟨found, -, rfl⟩ := AttemptMoves.commits_findAttemptView read
  obtain rfl := Table.find?_key found
  dsimp only at answered
  simp only [commits_ite, commits_ifSome] at answered
  obtain ⟨-, postponed⟩ | ⟨-, ⟨-, reviewed⟩ | ⟨-, ⟨-, confirmed⟩ | ⟨-, ⟨status, -, failed⟩ |
    ⟨-, ⟨-, reversed⟩ | ⟨-, postponed⟩⟩⟩⟩⟩ := answered
  · exact rescheduleOrReview found postponed
  · exact .idle reviewed
  · exact confirmProviderPayment found confirmed
  · exact .idle failed
  · exact .idle reversed
  · exact rescheduleOrReview found postponed

theorem applyMomoResponse {response : MomoQueryResponse}
    (committed : Commits (applyMomoResponse attemptId response now) before () after) :
    PaymentStep before after := by
  obtain ⟨view, _, read, answered⟩ := commits_bind.mp committed
  obtain ⟨found, -, rfl⟩ := AttemptMoves.commits_findAttemptView read
  obtain rfl := Table.find?_key found
  dsimp only at answered
  simp only [commits_ite] at answered
  obtain ⟨-, ⟨-, reviewed⟩ | ⟨-, confirmed⟩⟩ | ⟨-, ⟨-, failed⟩ | ⟨-, postponed⟩⟩ := answered
  · exact .idle reviewed
  · exact confirmProviderPayment found confirmed
  · exact .idle failed
  · exact rescheduleOrReview found postponed

theorem applyPayosResponse {response : PayosQueryResponse} {expected : Option String}
    (committed : Commits (applyPayosResponse attemptId response expected now) before () after) :
    PaymentStep before after := by
  obtain ⟨view, _, read, answered⟩ := commits_bind.mp committed
  obtain ⟨found, -, rfl⟩ := AttemptMoves.commits_findAttemptView read
  obtain rfl := Table.find?_key found
  dsimp only at answered
  simp only [commits_ite] at answered
  obtain ⟨-, reviewed⟩ | ⟨-, ⟨-, ⟨-, reviewed⟩ | ⟨-, confirmed⟩⟩ |
    ⟨-, ⟨-, ⟨-, reviewed⟩ | ⟨-, failed⟩⟩ | ⟨-, postponed⟩⟩⟩ := answered
  · exact .idle reviewed
  · exact .idle reviewed
  · exact confirmProviderPayment found confirmed
  · exact .idle reviewed
  · exact .idle failed
  · exact rescheduleOrReview found postponed

theorem queryProvider {response : ProviderResponse}
    (committed : Commits (queryProvider attemptId response now) before () after) :
    PaymentStep before after := by
  obtain ⟨attempt, _, read, answered⟩ := commits_bind.mp committed
  cases Respects.step (R := Eq) read
  unfold applyResponse at answered
  split at answered
  · exact applyQueryResponse answered
  · exact applyMomoResponse answered
  · exact applyPayosResponse answered
  · exact .idle answered

end Reconciliation

/-- The moves of the step, of which one may open an attempt and one confirm it. -/
theorem moves (taken : PaymentStep before after) :
    ∃ confirms, Moves (AttemptMove (AttemptMoves.OpensIn before) confirms)
      before.payments.attempts after.payments.attempts := by
  cases taken with
  | opening opens isNew inserted => exact ⟨fun _ => False, Moves.insert inserted (.opened opens isNew)⟩
  | unconfirming moves =>
      exact ⟨fun _ => False, moves.mono fun _ _ _ => AttemptMove.mono (fun _ => False.elim) fun _ => id⟩
  | @confirming attempt found confirms =>
      exact ⟨(· = attempt.id), confirms.moves.mono fun _ _ _ =>
        AttemptMove.mono (fun _ => False.elim) fun _ => id⟩

/-- Every payment command is such a step. -/
theorem of_command {command : PaymentCommand}
    (committed : Commits (command.execute now) before () after) : PaymentStep before after := by
  cases command with
  | createAttempt =>
      obtain ⟨attempt, opens, isNew, inserted⟩ | moves := AttemptMoves.createAttempt committed
      · exact .opening opens isNew inserted
      · exact .unconfirming moves
  | handleVnpayIpn => exact handleVnpayIpn committed
  | handleMomoIpn => exact handleMomoIpn committed
  | queryProvider => exact queryProvider committed
  | _ =>
      dsimp only [PaymentCommand.execute, PaymentRefunds.createRefund,
        PaymentRefunds.requestRefund, PaymentRefunds.assertIdempotentReplay,
        PaymentRefunds.submitRefund, PaymentRefunds.sendRefund, PaymentRefunds.awaitRefund,
        PaymentRefunds.markProviderUncertain, PaymentRefunds.recoverAbandonedRefund] at committed
      exact .idle committed

end PaymentStep

/-- The sample shop that waits for the online payment of two cups. -/
def Database.attempted : Database := Database.invoiced.performAll [
  (.cash (.createFund 0 { name := "Till", type := .cash, openingBalance := ⟨40000000, by decide⟩ }),
    5),
  (.cash (.openShift 0 { fundId := 4, startingCash := ⟨40000000, by decide⟩ }), 6),
  (.payment (.createAttempt {
    employeeId := 0
    invoiceId := 3
    provider := .vnpay
    locale := "vn"
    bankCode := none
    idempotencyKey := "first"
    closeSessionAfterPayment := false }), 7)]

theorem Reachable.attempted : Reachable Database.attempted := Reachable.invoiced.performAll _

/-- The two cups are paid. -/
def Database.paidOnline : Database := Database.attempted.performAll [
  (.payment (.handleVnpayIpn {
    payloadHash := 1
    merchantReference := 6
    amount := 7000000
    transactionNo := "14"
    responseCode := "00"
    transactionStatus := "00" }), 8)]

theorem Reachable.paidOnline : Reachable Database.paidOnline := Reachable.attempted.performAll _

/-- The attempt of a sample has the status. -/
theorem exists_attempt {database : Database} {status : PaymentAttemptStatus}
    (holds : (database.payments.attempts.find? 7).any (·.status = status) = true) :
    ∃ attempt ∈ database.payments.attempts, attempt.status = status := by
  obtain ⟨attempt, found, same⟩ := (Option.any_eq_true _ _).mp holds
  exact ⟨attempt, Table.mem_of_find? found, of_decide_eq_true same⟩

end CoffeeShop
