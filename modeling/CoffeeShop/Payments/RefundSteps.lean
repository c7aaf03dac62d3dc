import CoffeeShop.Library.Replacement
import CoffeeShop.Payments.Agreement

/-!
What a command does to the refunds, the calls of the provider and the refunded invoices.

A refund is requested within what is left of the payment, claimed once, and then it is
answered or abandoned.  The provider is called when a refund is claimed, so a refund has
at most one call.  Only its success changes the invoice.
-/

namespace CoffeeShop

open Transaction PaymentStore PaymentRefunds Database

set_option synthInstance.maxSize 100000

/-- The refunds and the calls for them. -/
def PaymentStore.refundState (store : PaymentStore) :
    Table PaymentRefund.id × Table RefundCall.requestId := (store.refunds, store.refundCalls)

/-- The same request, whatever has become of it. -/
structure PaymentRefund.Asks (refund next : PaymentRefund) : Prop where
  id : next.id = refund.id
  attempt : next.paymentAttemptId = refund.paymentAttemptId
  amount : next.amount = refund.amount

/-- The refunds stay, or one of them is taken a step further that is no success. -/
inductive RefundMove (before after : PaymentStore) : Prop
  | kept (same : after.refundState = before.refundState)
  | requested {refund : PaymentRefund} {attempt : PaymentAttempt}
      (found : before.attempts.find? refund.paymentAttemptId = some attempt)
      (succeeded : attempt.status = .succeeded) (pending : refund.status = .pending)
      (positive : 0 < refund.amount)
      (fits : refund.amount ≤ attempt.amount - refundTotal before attempt.id isReserved)
      (inserted : before.refunds.insert? refund = some after.refunds)
      (calls : after.refundCalls = before.refundCalls)
  | submitted {refund next : PaymentRefund} {call : RefundCall} (asks : refund.Asks next)
      (pending : refund.status = .pending) (processing : next.status = .processing)
      (replaces : before.refunds.Replaces refund next after.refunds)
      (own : call.paymentRefundId = refund.id)
      (called : before.refundCalls.insert? call = some after.refundCalls)
  | answered {refund next : PaymentRefund} {call : RefundCall} (asks : refund.Asks next)
      (own : call.paymentRefundId = refund.id) (unanswered : call.answered = false)
      (ended : next.status ≠ .pending) (unsuccessful : next.status ≠ .succeeded)
      (replaces : before.refunds.Replaces refund next after.refunds)
      (calls : before.refundCalls.Replaces call { call with answered := true } after.refundCalls)
  | abandoned {refund next : PaymentRefund} (asks : refund.Asks next)
      (processing : refund.status = .processing) (review : next.status = .requiresReview)
      (replaces : before.refunds.Replaces refund next after.refunds)
      (calls : after.refundCalls = before.refundCalls)

/-- An invoice that is paid by transfer keeps its status. -/
def TransfersStay (before after : SalesStore) : Prop :=
  ∀ id invoice, before.invoices.find? id = some invoice →
    invoice.paymentStatus.isSettled = true → invoice.paymentMethod = .transfer →
    ∃ next, after.invoices.find? id = some next ∧ next.paymentStatus = invoice.paymentStatus

/-- A refund of a payment succeeds and its invoice is refunded, or else the sales stay in some
respect. -/
inductive RefundStep (stays : SalesStore → SalesStore → Prop) (before after : Database) : Prop
  | unsuccessful (move : RefundMove before.payments after.payments)
      (stay : stays before.sales after.sales)
  | succeeded {refund next : PaymentRefund} {call : RefundCall} {attempt : PaymentAttempt}
      (asks : refund.Asks next) (own : call.paymentRefundId = refund.id)
      (unanswered : call.answered = false) (success : next.status = .succeeded)
      (replaces : before.payments.refunds.Replaces refund next after.payments.refunds)
      (calls : before.payments.refundCalls.Replaces call { call with answered := true }
        after.payments.refundCalls)
      (found : before.payments.attempts.find? refund.paymentAttemptId = some attempt)
      (attempts : after.payments.attempts = before.payments.attempts)
      (invoices : after.sales.invoices = before.sales.invoices.update
        (fun invoice => invoice.id = attempt.invoiceId && isRefundable invoice)
        fun invoice => { invoice with
          paymentStatus := if attempt.amount ≤ refundTotal after.payments attempt.id (· = .succeeded)
            then .refunded else .partiallyRefunded })

namespace RefundSteps

instance : Apart refundState paymentAttempt := ⟨fun _ _ => rfl⟩
instance : Apart refundState paymentWebhookEvent := ⟨fun _ _ => rfl⟩
instance : Apart refundState paymentReconciliationIncident := ⟨fun _ _ => rfl⟩
instance : Apart refundState paymentProviderRequest := ⟨fun _ _ => rfl⟩

instance : PaymentStatements (On refundState Eq) := .ofApart

variable {now : Timestamp} {refundId requestId : Id}

section Statements

variable {before after : PaymentStore} {result : Unit} {guard : PaymentRefund → Bool}
variable {change : PaymentRefund → PaymentRefund} {keeps : ∀ row, (change row).id = row.id}

/-- The refund passes the guard and is replaced; the other tables stay. -/
theorem commits_updateRefund
    (committed : Commits (updateRefund refundId guard change keeps) before result after) :
    ∃ refund, before.refunds.find? refundId = some refund ∧ guard refund = true ∧
      before.refunds.Replaces refund (change refund) after.refunds ∧
      after = { before with refunds := after.refunds } := by
  simp only [updateRefund, checkRefunds, commits_bind, commits_get, commits_require] at committed
  obtain ⟨_, middle, updated, _, _, ⟨-, rfl⟩, -, rfl⟩ := committed
  exact replaces_updateExpecting updated

/-- The call is in flight and has its answer now; the other tables stay. -/
theorem commits_awaitRefund
    (committed : Commits (awaitRefund requestId refundId) before result after) :
    ∃ call, call.paymentRefundId = refundId ∧ call.answered = false ∧
      before.refundCalls.Replaces call { call with answered := true } after.refundCalls ∧
      after = { before with refundCalls := after.refundCalls } := by
  obtain ⟨call, -, waits, replaces, same⟩ := replaces_updateExpecting committed
  simp only [Bool.and_eq_true, decide_eq_true_eq, Bool.not_eq_true'] at waits
  exact ⟨call, waits.1, waits.2, replaces, same⟩

end Statements

section Commands

variable {before after : Database}

theorem requestRefund {input : CreatePaymentRefundInput}
    (committed : Commits (requestRefund input now) before () after) :
    RefundMove before.payments after.payments := by
  simp only [PaymentRefunds.requestRefund, findInvoiceOf, commits_bind, commits_require,
    commits_paymentTx, commits_findUniqueOrFail, commits_get, commits_create,
    commits_freshId] at committed
  obtain ⟨_, _, active, attempt, _, ⟨_, ⟨found, rfl⟩, rfl⟩, _, _, ⟨-, rfl⟩, _, _, ⟨confirmed, rfl⟩,
    invoice, _, located, _, _, ⟨-, rfl⟩, store, _, ⟨_, ⟨rfl, rfl⟩, rfl⟩, _, _, ⟨fits, rfl⟩, _, _,
    ⟨positive, rfl⟩, id, _, ⟨-, rfl⟩, _, ⟨refunds, inserted, rfl⟩, rfl⟩ := committed
  cases Respects.step (R := Eq) active
  cases Respects.step (R := Eq) located
  change before.payments.attempts.find? input.paymentAttemptId = some attempt at found
  rw [← Table.find?_key found] at found
  exact .requested found confirmed.1 rfl positive fits inserted rfl

theorem commits_inPayments {α : Type} {program : Tx PaymentStore Failure α} {result : α}
    (committed : Commits (paymentTx program) before result after) :
    Commits program before.payments result after.payments ∧ after.sales = before.sales := by
  obtain ⟨payments, ran, rfl⟩ := commits_paymentTx.mp committed
  exact ⟨ran, rfl⟩

theorem submitRefund (committed : Commits (submitRefund refundId now) before () after) :
    RefundMove before.payments after.payments := by
  simp only [PaymentRefunds.submitRefund, commits_bind] at committed
  obtain ⟨_, claimed, claims, refund, _, reads, id, _, numbers, _, requested, requests,
    sends⟩ := committed
  obtain ⟨⟨row, located, pending, replaces, same⟩, -⟩ :=
    (commits_inPayments claims).imp_left commits_updateRefund
  have found := (commits_findUniqueOrFail.mp (commits_inPayments reads).1).1
  cases Respects.step (R := Eq) reads
  obtain ⟨-, rfl⟩ := commits_freshId.mp numbers
  have kept := Keeps.eq refundState (commits_inPayments requests).1
  simp only [refundState, Prod.mk.injEq] at kept
  obtain ⟨calls, called, sent⟩ := commits_create.mp (commits_inPayments sends).1
  obtain rfl := Table.find?_key located
  have own : refund.id = row.id := Table.find?_key found
  have left : after.payments.refunds = claimed.payments.refunds := by
    rw [sent, ← kept.1]
    rfl
  rw [← left] at replaces
  have calling : after.payments.refundCalls = calls := by rw [sent]; rfl
  change requested.payments.refundCalls.insert? _ = some calls at called
  rw [kept.2, same, ← calling] at called
  have asks : row.Asks { row with status := .processing, reconciliationLockedAt := some now } :=
    ⟨rfl, rfl, rfl⟩
  exact .submitted asks (of_decide_eq_true pending) rfl replaces own called

/-- The answer of a call replaces its refund; the attempts stay. -/
theorem answers {first middle last next final : PaymentStore} {refund : PaymentRefund}
    {change : PaymentRefund → PaymentRefund} {keeps : ∀ row, (change row).id = row.id}
    (awaited : Commits (awaitRefund requestId refund.id) first () middle)
    (found : middle.refunds.find? refund.id = some refund)
    (kept : last.refundState = middle.refundState)
    (updated : Commits (updateRefund refund.id (fun _ => true) change keeps) last () next)
    (left : final.refundState = next.refundState) :
    ∃ call : RefundCall, call.paymentRefundId = refund.id ∧ call.answered = false ∧
      first.refunds.Replaces refund (change refund) final.refunds ∧
      first.refundCalls.Replaces call { call with answered := true } final.refundCalls ∧
      middle.attempts = first.attempts ∧ next.attempts = last.attempts := by
  obtain ⟨call, own, waits, calls, frame⟩ := commits_awaitRefund awaited
  obtain ⟨row, there, -, replaces, same⟩ := commits_updateRefund updated
  simp only [refundState, Prod.mk.injEq] at kept left
  rw [kept.1, found] at there
  cases there
  have stay : middle.refunds = first.refunds := by rw [frame]
  rw [kept.1, stay, ← left.1] at replaces
  have calling : final.refundCalls = middle.refundCalls := by rw [left.2, same, ← kept.2]
  rw [← calling] at calls
  refine ⟨call, own, waits, replaces, calls, ?_, ?_⟩
  · rw [frame]
  · rw [same]

theorem commits_openRefundIncident {refund : PaymentRefund} {key : IncidentKey} {title : String}
    {type : PaymentReconciliationIncidentType} {before after : PaymentStore} {result : Unit}
    (committed : Commits (openRefundIncident refund type key title now) before result after) :
    after.refundState = before.refundState ∧ after.attempts = before.attempts := by
  unfold openRefundIncident openIncident upsertIncident at committed
  exact ⟨Keeps.eq refundState committed, Keeps.eq attempts committed⟩

theorem commits_completeRequest {responseCode transactionStatus : Option String}
    {before after : PaymentStore} {result : Unit}
    (committed : Commits (PaymentReconciliation.completeRequest requestId responseCode
      transactionStatus now) before result after) :
    after.refundState = before.refundState ∧ after.attempts = before.attempts := by
  unfold PaymentReconciliation.completeRequest PaymentReconciliation.checkProviderRequests at committed
  exact ⟨Keeps.eq refundState committed, Keeps.eq attempts committed⟩

theorem refundOutcome_ne_pending {responseCode transactionStatus : Option String} :
    refundOutcome responseCode transactionStatus ≠ .pending := by
  unfold refundOutcome
  split_ifs <;> decide

theorem applyProviderResponse {response : VnpayRefundResponse}
    (committed : Commits (applyProviderResponse refundId requestId response now) before () after) :
    RefundStep Eq before after := by
  simp only [PaymentRefunds.applyProviderResponse, commits_bind, commits_ite] at committed
  obtain ⟨_, awaited, awaits, refund, _, reads, attempt, _, locates, _, completed, completes,
    ⟨-, succeeds⟩ | ⟨unsuccessful, ends⟩⟩ := committed
  all_goals
    have found := (commits_findUniqueOrFail.mp (commits_inPayments reads).1).1
    cases Respects.step (R := Eq) reads
    have located := (commits_findUniqueOrFail.mp (commits_inPayments locates).1).1
    cases Respects.step (R := Eq) locates
    obtain rfl := Table.find?_key found
    obtain ⟨awaits, waiting⟩ := commits_inPayments awaits
    obtain ⟨completes, completing⟩ := commits_inPayments completes
    obtain ⟨kept, unchanged⟩ := commits_completeRequest completes
  · simp only [PaymentRefunds.completeSuccessfulRefund, commits_bind] at succeeds
    obtain ⟨_, updated, updates, store, _, looks, count, paid, pays, opens⟩ := succeeds
    obtain rfl := (commits_get.mp (commits_inPayments looks).1).1
    cases Respects.step (R := Eq) looks
    obtain ⟨updates, updating⟩ := commits_inPayments updates
    obtain ⟨sales, ran, rfl⟩ := commits_salesTx.mp pays
    have left : after.payments.refundState = updated.payments.refundState ∧
        after.payments.attempts = updated.payments.attempts ∧ after.sales = sales := by
      obtain ⟨-, opened⟩ | ⟨-, rfl⟩ := commits_when.mp opens
      · obtain ⟨opened, opening⟩ := commits_inPayments opened
        obtain ⟨stays, attempts⟩ := commits_openRefundIncident opened
        exact ⟨stays, attempts, opening⟩
      · exact ⟨rfl, rfl, rfl⟩
    obtain ⟨call, own, waits, replaces, calls, first, last⟩ :=
      answers awaits found kept updates left.1
    have asks : refund.Asks (answered .succeeded response (some now) refund) := ⟨rfl, rfl, rfl⟩
    have refunds : after.payments.refunds = updated.payments.refunds := congrArg Prod.fst left.1
    change awaited.payments.attempts.find? _ = _ at located
    rw [first] at located
    refine .succeeded asks own waits rfl replaces calls located ?_ ?_
    · rw [left.2.1, last, unchanged, first]
    · rw [left.2.2, (commits_updateMany.mp ran).2]
      have same : updated.sales = before.sales := by rw [updating, completing, waiting]
      unfold refundTotal
      rw [refunds, ← same]
      rfl
  · obtain ⟨_, opened, opens, updates⟩ := ends
    obtain ⟨updates, updating⟩ := commits_inPayments updates
    have opening : opened.payments.refundState = completed.payments.refundState ∧
        opened.sales = completed.sales := by
      obtain ⟨-, ran⟩ | ⟨-, rfl⟩ := commits_when.mp opens
      · obtain ⟨ran, same⟩ := commits_inPayments ran
        exact ⟨(commits_openRefundIncident ran).1, same⟩
      · exact ⟨rfl, rfl⟩
    obtain ⟨call, own, waits, replaces, calls, -⟩ :=
      answers awaits found (opening.1.trans kept) updates rfl
    refine .unsuccessful (.answered ?_ own waits ?_ ?_ replaces calls) ?_
    · exact ⟨rfl, rfl, rfl⟩
    · dsimp only [answered]
      split_ifs
      · decide
      · exact refundOutcome_ne_pending
    · exact unsuccessful
    · rw [updating, opening.2, completing, waiting]

theorem markProviderUncertain {message : String} {before after : PaymentStore}
    (committed : Commits (markProviderUncertain refundId requestId message now) before () after) :
    RefundMove before after := by
  simp only [PaymentRefunds.markProviderUncertain, commits_bind,
    commits_findUniqueOrFail] at committed
  obtain ⟨_, awaited, awaits, refund, _, ⟨found, rfl⟩, _, failed, fails, _, reviewed, reviews,
    updates⟩ := committed
  obtain rfl := Table.find?_key found
  have kept := (commits_openRefundIncident reviews).1.trans (Keeps.eq refundState fails)
  obtain ⟨call, own, waits, replaces, calls, -⟩ := answers awaits found kept updates rfl
  refine .answered ?_ own waits ?_ ?_ replaces calls
  · exact ⟨rfl, rfl, rfl⟩
  · change PaymentRefundStatus.requiresReview ≠ .pending
    decide
  · change PaymentRefundStatus.requiresReview ≠ .succeeded
    decide

theorem recoverAbandonedRefund {before after : PaymentStore}
    (committed : Commits (recoverAbandonedRefund refundId now) before () after) :
    RefundMove before after := by
  simp only [PaymentRefunds.recoverAbandonedRefund, commits_bind,
    commits_findUniqueOrFail] at committed
  obtain ⟨refund, _, ⟨-, rfl⟩, _, updated, updates, _, marked, marks, _, checked, checks,
    opens⟩ := committed
  obtain ⟨row, found, abandoned, replaces, frame⟩ := commits_updateRefund updates
  obtain ⟨processing, -⟩ := Bool.and_eq_true_iff.mp abandoned
  have marking : marked.refundState = updated.refundState := Keeps.eq refundState marks
  have checking : checked.refundState = marked.refundState := Keeps.eq refundState checks
  have kept := (commits_openRefundIncident opens).1.trans (checking.trans marking)
  simp only [refundState, Prod.mk.injEq] at kept
  rw [← kept.1] at replaces
  refine .abandoned ?_ (of_decide_eq_true processing) ?_ replaces ?_
  · exact ⟨rfl, rfl, rfl⟩
  · rfl
  · rw [kept.2, frame]

/-- Every payment command but the answer of a refund is such a move. -/
theorem of_payment {command : PaymentCommand}
    (other : ∀ refundId requestId response,
      command ≠ .applyProviderResponse refundId requestId response)
    (committed : Commits (command.execute now) before () after) :
    RefundMove before.payments after.payments := by
  cases command with
  | createRefund input =>
      obtain ⟨existing, _, reads, outcome⟩ := commits_bind.mp committed
      cases Respects.step (R := Eq) reads
      obtain ⟨refund, -, replayed⟩ | ⟨-, requested⟩ := commits_ifSome.mp outcome
      · cases Respects.step (R := Eq) replayed
        exact .kept rfl
      · exact requestRefund requested
  | submitRefund refundId => exact submitRefund committed
  | applyProviderResponse refundId requestId response =>
      exact absurd rfl (other refundId requestId response)
  | markProviderUncertain refundId requestId message =>
      exact markProviderUncertain (commits_inPayments committed).1
  | recoverAbandonedRefund refundId =>
      exact recoverAbandonedRefund (commits_inPayments committed).1
  | _ =>
      dsimp only [PaymentCommand.execute] at committed
      exact .kept (Respects.step (R := On payments (On refundState Eq)) committed).symm

end Commands

end RefundSteps

/-- Only a cash refund and the answer of a provider refund invoices. -/
theorem Command.refunds_cases (command : Command) : command.refunds = none ∨
    (∃ invoiceId employeeId input, command = .invoice (.refundCash invoiceId employeeId input)) ∨
    ∃ refundId requestId response,
      command = .payment (.applyProviderResponse refundId requestId response) := by
  unfold Command.refunds
  split
  · exact .inr (.inl ⟨_, _, _, rfl⟩)
  · exact .inr (.inr ⟨_, _, _, rfl⟩)
  · exact .inl rfl

/-- Every command is such a step. -/
theorem RefundStep.of_command {command : Command} {now : Timestamp} {before after : Database}
    (committed : Commits (command.execute now) before () after) :
    RefundStep TransfersStay before after := by
  have continues := InvoicesContinue.steps (Command.sales_steps committed)
  have stay (none : command.refunds = none ∨ command.refunds = some .cash) :
      TransfersStay before.sales after.sales := by
    intro id invoice found settled transfer
    obtain ⟨next, there, continuing⟩ := continues id invoice found
    obtain none | cash := none
    · exact ⟨next, there, continuing.kept settled none⟩
    · exact ⟨next, there, continuing.transfer settled transfer cash⟩
  obtain none | ⟨invoiceId, employeeId, input, rfl⟩ | ⟨refundId, requestId, response, rfl⟩ :=
    command.refunds_cases
  · refine .unsuccessful ?_ (stay (.inl none))
    by_cases other : ∀ payment, command ≠ .payment payment
    · refine .kept ?_
      rw [Command.payments_eq other committed]
    · obtain ⟨payment, rfl⟩ : ∃ payment, command = .payment payment := by simpa using other
      refine RefundSteps.of_payment ?_ committed
      rintro refundId requestId response rfl
      cases none
  · refine .unsuccessful (.kept ?_) (stay (.inr rfl))
    have other (payment : PaymentCommand) :
        Command.invoice (.refundCash invoiceId employeeId input) ≠ .payment payment := by
      intro same
      cases same
    rw [Command.payments_eq other committed]
  · cases RefundSteps.applyProviderResponse committed with
    | unsuccessful move same =>
        refine .unsuccessful move fun id invoice found _ _ => ?_
        rw [← same]
        exact ⟨invoice, found, rfl⟩
    | succeeded asks own unanswered success replaces calls found attempts invoices =>
        exact .succeeded asks own unanswered success replaces calls found attempts invoices

end CoffeeShop
