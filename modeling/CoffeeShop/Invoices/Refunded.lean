import CoffeeShop.Cash.Balances
import CoffeeShop.Invoices.Amounts
import CoffeeShop.Invoices.CashRefundSafety

/-!
What an invoice shows of its refunds.

The refunds of a payment show on the invoice that it paid, and cash refunds on an invoice of
which there is something to refund.
-/

namespace CoffeeShop

open Transaction PaymentRefunds CashRefunds

section ByProvider

/-- The refunds of a payment attempt fit it, and the invoice that it paid shows them. -/
structure RefundsAccounted (database : Database) (attempt : PaymentAttempt) : Prop where
  within : refundTotal database.payments attempt.id isReserved ≤ attempt.amount
  ofPayment : ∀ refund ∈ database.payments.refunds, refund.paymentAttemptId = attempt.id →
    attempt.status = .succeeded
  calledOnce : ∀ refund ∈ database.payments.refunds, refund.paymentAttemptId = attempt.id →
    ∀ call ∈ database.payments.refundCalls, ∀ other ∈ database.payments.refundCalls,
      call.paymentRefundId = refund.id → other.paymentRefundId = refund.id → call = other
  shown : attempt.status = .succeeded → ∃ invoice,
    database.sales.invoices.find? attempt.invoiceId = some invoice ∧
    (invoice.paymentStatus = .refunded ↔
      refundTotal database.payments attempt.id (· = .succeeded) = attempt.amount) ∧
    (invoice.paymentStatus = .partiallyRefunded ↔
      0 < refundTotal database.payments attempt.id (· = .succeeded) ∧
        refundTotal database.payments attempt.id (· = .succeeded) < attempt.amount)

/-- The refunds of a payment attempt never exceed it, each is of a confirmed payment and asks the
provider once, and the invoice that the payment paid shows them. -/
theorem Reachable.refunds_accounted {database : Database} (reachable : Reachable database)
    {attempt : PaymentAttempt} (member : attempt ∈ database.payments.attempts) :
    RefundsAccounted database attempt := by
  have books := reachable.refundsAgree.books
  refine ⟨books.within attempt member, ?_, ?_, reachable.refunds_shown member⟩
  · intro refund inStore own
    obtain ⟨payment, found, succeeded⟩ := books.ofPayment refund inStore
    rw [own, Table.find?_of_mem member] at found
    rwa [Option.some.inj found]
  · intro refund inStore own call called other otherCalled same alsoSame
    exact Table.eq_of_key_eq called otherCalled
      (books.calls.single call called other otherCalled (same.trans alsoSame.symm))

/-- The second attempt of the two cups is paid and then refunded as a whole. -/
def Database.cupsRefunded : Database := Database.reattempted.performAll [
  (notifySecond, 10),
  (.payment (.createRefund {
    paymentAttemptId := 9
    employeeId := 0
    amount := 7000000
    reason := "Cold"
    idempotencyKey := "cold" }), 11),
  (.payment (.submitRefund 10), 12),
  (.payment (.applyProviderResponse 10 11 {
    responseCode := some "00"
    transactionStatus := some "00"
    transactionNo := some "15"
    merchantReference := some 8
    amount := some 7000000
    transactionType := some "02" }), 13)]

theorem Reachable.cupsRefunded : Reachable Database.cupsRefunded :=
  Reachable.reattempted.performAll _

/-- The first attempt of the two cups has no refund, although their invoice is refunded. -/
theorem Reachable.exists_refunded_unrefunded : ∃ database, Reachable database ∧
    ∃ attempt ∈ database.payments.attempts, attempt.provider = .vnpay ∧
      refundTotal database.payments attempt.id (· = .succeeded) ≠ attempt.amount ∧
      ∃ invoice ∈ database.sales.invoices, invoice.id = attempt.invoiceId ∧
        invoice.paymentStatus = .refunded := by
  have failed : ∃ attempt ∈ Database.cupsRefunded.payments.attempts.rows,
      attempt.provider = .vnpay ∧
      refundTotal Database.cupsRefunded.payments attempt.id (· = .succeeded) ≠ attempt.amount ∧
      ∃ invoice ∈ Database.cupsRefunded.sales.invoices.rows, invoice.id = attempt.invoiceId ∧
        invoice.paymentStatus = .refunded := by
    decide +kernel
  obtain ⟨attempt, member, own, apart, invoice, inRows, same, refunded⟩ := failed
  exact ⟨Database.cupsRefunded, Reachable.cupsRefunded, attempt, Table.mem_def.mpr member, own,
    apart, invoice, Table.mem_def.mpr inRows, same, refunded⟩

/-- The refund of the two cups is of the attempt that paid them, and their invoice shows it. -/
theorem Reachable.refunds_accounted_cupsRefunded :
    ∃ attempt ∈ Database.cupsRefunded.payments.attempts,
      refundTotal Database.cupsRefunded.payments attempt.id isReserved ≤ attempt.amount ∧
      (∃ refund ∈ Database.cupsRefunded.payments.refunds, refund.paymentAttemptId = attempt.id ∧
        ∀ call ∈ Database.cupsRefunded.payments.refundCalls,
          ∀ other ∈ Database.cupsRefunded.payments.refundCalls,
            call.paymentRefundId = refund.id → other.paymentRefundId = refund.id →
              call = other) ∧
      ∃ invoice, Database.cupsRefunded.sales.invoices.find? attempt.invoiceId = some invoice ∧
        (invoice.paymentStatus = .refunded ↔
          refundTotal Database.cupsRefunded.payments attempt.id (· = .succeeded) =
            attempt.amount) := by
  have paid : ∃ attempt ∈ Database.cupsRefunded.payments.attempts.rows,
      attempt.status = .succeeded ∧ ∃ refund ∈ Database.cupsRefunded.payments.refunds.rows,
        refund.paymentAttemptId = attempt.id := by
    decide +kernel
  obtain ⟨attempt, inRows, succeeded, refund, refundInRows, own⟩ := paid
  have member := Table.mem_def.mpr inRows
  have accounted := Reachable.cupsRefunded.refunds_accounted member
  obtain ⟨invoice, found, refunded, -⟩ := accounted.shown succeeded
  have inStore := Table.mem_def.mpr refundInRows
  exact ⟨attempt, member, accounted.within,
    ⟨refund, inStore, own, accounted.calledOnce refund inStore own⟩, invoice, found, refunded⟩

end ByProvider

section InCash

variable {before after : Database}

theorem SalesStep.invoices_nonneg {refunds : Option PaymentMethod} {before after : SalesStore}
    (taken : SalesStep refunds before after)
    (nonneg : ∀ invoice ∈ before.invoices, 0 ≤ invoice.totalAmount) :
    ∀ invoice ∈ after.invoices, 0 ≤ invoice.totalAmount := by
  have continues := InvoicesContinue.step taken
  have stays {old next : Invoice} (inStore : old ∈ before.invoices) (same : old.id = next.id)
      (member : next ∈ after.invoices) : 0 ≤ next.totalAmount := by
    obtain ⟨row, there, goes⟩ := continues old.id old (Table.find?_of_mem inStore)
    rw [same, Table.find?_of_mem member] at there
    cases there
    rw [goes.totalAmount]
    exact nonneg old inStore
  have updated {condition : Invoice → Bool} {change : Invoice → Invoice}
      (keeps : ∀ row, (change row).id = row.id) {next : Invoice}
      (member : next ∈ before.invoices.update condition change keeps) :
      ∃ old ∈ before.invoices, old.id = next.id := by
    obtain ⟨old, inStore, same, -⟩ | inStore := CashInvoicesFollow.of_updated keeps member
    · exact ⟨old, inStore, same⟩
    · exact ⟨next, inStore, rfl⟩
  intro next member
  have origin : (∃ old ∈ before.invoices, old.id = next.id) ∨ 0 ≤ next.totalAmount := by
    cases taken with
    | besides tables sessions items invoices => exact .inl ⟨next, invoices ▸ member, rfl⟩
    | lineMoved active moved => cases moved <;> exact .inl ⟨next, member, rfl⟩
    | invoiceIssued links status billable total notNegative inserted =>
        obtain old | rfl := (Table.mem_insert? inserted).mp member
        · exact .inl ⟨next, old, rfl⟩
        · exact .inr notNegative
    | invoicePaid id condition change keeps found unpaid pays =>
        exact .inl (updated keeps member)
    | invoiceVoided id change keeps unpaid voids => exact .inl (updated keeps member)
    | invoicesTouched condition change keeps agrees => exact .inl (updated keeps member)
    | invoicesRefunded condition method status allowed settled paid =>
        have keeps (row : Invoice) : { row with paymentStatus := status }.id = row.id := rfl
        exact .inl (updated keeps member)
    | _ => exact .inl ⟨next, member, rfl⟩
  obtain ⟨old, inStore, same⟩ | notNegative := origin
  · exact stays inStore same member
  · exact notNegative

theorem SalesSteps.invoices_nonneg {refunds : Option PaymentMethod} {before after : SalesStore}
    (taken : SalesSteps refunds before after)
    (nonneg : ∀ invoice ∈ before.invoices, 0 ≤ invoice.totalAmount) :
    ∀ invoice ∈ after.invoices, 0 ≤ invoice.totalAmount := by
  induction taken with
  | refl => exact nonneg
  | tail _ last inductionHypothesis => exact last.invoices_nonneg inductionHypothesis

/-- No invoice is of a negative amount. -/
theorem Reachable.invoices_nonneg {database : Database} (reachable : Reachable database) :
    ∀ invoice ∈ database.sales.invoices, 0 ≤ invoice.totalAmount := by
  refine reachable.invariant
    (fun database => ∀ invoice ∈ database.sales.invoices, 0 ≤ invoice.totalAmount)
    (fun invoice member => (Table.not_mem_empty member).elim) fun before after reached taken nonneg => ?_
  cases taken with
  | administer catalog reservations => exact nonneg
  | commit command now committed => exact (Command.sales_steps committed).invoices_nonneg nonneg

/-- A cash refund stays. -/
theorem Step.cashRefund_stays (taken : Step before after) {refund : CashRefund}
    (member : refund ∈ before.cash.refunds) : refund ∈ after.cash.refunds := by
  cases taken with
  | administer catalog reservations => exact member
  | commit command now committed =>
      by_cases inCash : ∃ invoiceId employeeId input,
          command = .invoice (.refundCash invoiceId employeeId input)
      · obtain ⟨invoiceId, employeeId, input, rfl⟩ := inCash
        obtain rfl | ⟨made, row, invoice, -, makes⟩ := commits_cashRefund committed
        · exact member
        · exact (Table.mem_insert? makes.inserted).mpr (.inl member)
      · have grows := (GrowsLedger.command fun invoiceId employeeId input same =>
          inCash ⟨invoiceId, employeeId, input, same⟩).step committed
        rw [show after.cash.refunds = before.cash.refunds from grows.refunds]
        exact member

theorem Steps.cashRefund_stays (later : Relation.ReflTransGen Step before after)
    {refund : CashRefund} (member : refund ∈ before.cash.refunds) :
    refund ∈ after.cash.refunds := by
  induction later with
  | refl => exact member
  | tail _ last inductionHypothesis => exact last.cashRefund_stays inductionHypothesis

/-- A request under the key of a refund that is there changes nothing. -/
theorem CashRefunds.create_replay {invoiceId : Id} {input : CreateCashRefundInput}
    {now : Timestamp} {refund : CashRefund} (member : refund ∈ before.cash.refunds)
    (key : refund.idempotencyKey = input.idempotencyKey)
    (committed : Commits (CashRefunds.create invoiceId refund.requestedById input now)
      before () after) : after = before := by
  obtain same | ⟨made, row, invoice, ⟨-, employee, used, -⟩, makes⟩ := commits_cashRefund committed
  · exact same
  · exact absurd (key.trans used.symm) (makes.unused refund member employee.symm)

/-- The cash refunds fit their invoices, which show them, and each is paid out once. -/
structure CashRefundsAccounted (database : Database) : Prop where
  shown : ∀ invoice ∈ database.sales.invoices, invoice.paymentMethod = .cash →
    refundedTotal database.cash invoice.id ≤ invoice.totalAmount ∧
    (invoice.paymentStatus = .refunded ↔ 0 < refundedTotal database.cash invoice.id ∧
      refundedTotal database.cash invoice.id = invoice.totalAmount) ∧
    (invoice.paymentStatus = .partiallyRefunded ↔ 0 < refundedTotal database.cash invoice.id ∧
      refundedTotal database.cash invoice.id < invoice.totalAmount)
  posted : ∀ refund ∈ database.cash.refunds, ∃ row ∈ database.cash.transactions,
    row.id = refund.cashTransactionId ∧ row.type = .expense ∧ row.amount = refund.amount
  single : ∀ refund ∈ database.cash.refunds, ∀ other ∈ database.cash.refunds,
    (other.requestedById = refund.requestedById ∧ other.idempotencyKey = refund.idempotencyKey) ∨
      other.cashTransactionId = refund.cashTransactionId → other = refund
  paidOnce : ∀ invoiceId employeeId input now after,
    Commits (CashRefunds.create invoiceId employeeId input now) database () after →
    after = database ∨
      (∃ refund row invoice, (refund.invoiceId = invoiceId ∧ refund.requestedById = employeeId ∧
        refund.idempotencyKey = input.idempotencyKey ∧ refund.amount = input.amount.val) ∧
        CashRefundMade database after refund row invoice) ∧
      ∀ later, Relation.ReflTransGen Step after later →
        ∀ otherId (next : CreateCashRefundInput) time final,
          next.idempotencyKey = input.idempotencyKey →
          Commits (CashRefunds.create otherId employeeId next time) later () final → final = later

/-- The cash refunds of an invoice never exceed it and, unless it is of nothing, show in its
status.  A request changes nothing, or makes one refund with one expense and debits one fund; no
later request of the employee under that key changes anything. -/
theorem Reachable.cashRefunds_accounted {database : Database} (reachable : Reachable database) :
    CashRefundsAccounted database := by
  have agree := reachable.cashRefundsAgree
  refine ⟨fun invoice member cash => ?_, agree.posted, fun refund member => ?_, ?_⟩
  · have nonneg := reachable.invoices_nonneg invoice member
    obtain ⟨zero, status⟩ | ⟨positive, less, status⟩ | ⟨positive, whole, status⟩ :=
      agree.status_cases member cash
    · rw [zero]
      obtain status | status | status := status <;> simp [status, nonneg]
    · simp [status, positive, less, less.le, less.ne]
    · refine ⟨whole.le, ⟨fun _ => ⟨positive, whole⟩, fun _ => status⟩, ?_⟩
      simp [status, whole]
  · intro other inStore same
    exact Table.eq_of_key_eq inStore member (agree.keys refund member other inStore same)
  · intro invoiceId employeeId input now after committed
    obtain same | ⟨refund, row, invoice, own, makes⟩ := commits_cashRefund committed
    · exact .inl same
    · refine .inr ⟨⟨refund, row, invoice, own, makes⟩, ?_⟩
      intro later runs otherId next time final key request
      have stays := Steps.cashRefund_stays runs ((Table.mem_insert? makes.inserted).mpr (.inr rfl))
      obtain ⟨-, rfl, used, -⟩ := own
      exact CashRefunds.create_replay stays (used.trans key.symm) request

/-- Cups that cost nothing are invoiced. -/
def Database.givenAway : Database := (InvoicesService.ordered 0).performAll [
  (.invoice (.createInvoice 0 {
    orderSessionId := 1
    orderItemIds := none
    promotionId := none
    taxRate := none
    quoteFingerprint := none
    expectedTotal := none }), 4)]

/-- All of an invoice of nothing is refunded from the start, but it is not shown as refunded. -/
theorem Reachable.exists_cashRefund_unshown : ∃ database, Reachable database ∧
    ∃ invoice ∈ database.sales.invoices, invoice.paymentMethod = .cash ∧
      refundedTotal database.cash invoice.id = invoice.totalAmount ∧
      invoice.paymentStatus ≠ .refunded := by
  have unshown : ∃ invoice ∈ Database.givenAway.sales.invoices.rows,
      invoice.paymentMethod = .cash ∧
      refundedTotal Database.givenAway.cash invoice.id = invoice.totalAmount ∧
      invoice.paymentStatus ≠ .refunded := by
    decide +kernel
  obtain ⟨invoice, inRows, shows⟩ := unshown
  exact ⟨Database.givenAway, (InvoicesService.reachable_ordered 0).performAll _, invoice,
    Table.mem_def.mpr inRows, shows⟩

theorem cupPrice_pos : (0 : Money) < 3500000 := by decide

/-- The second cup is refunded under a key of its own. -/
def secondCup : Command := .invoice (.refundCash 3 0 {
  expectedShiftId := 5
  amount := ⟨3500000, cupPrice_pos⟩
  reason := "Cold"
  idempotencyKey := "second" })

/-- The second cup is paid out once, however often it is asked for. -/
theorem Reachable.cashRefunds_accounted_secondCup :
    (∃ invoice ∈ Database.cupReturned.sales.invoices,
      invoice.paymentStatus = .partiallyRefunded ∧
        refundedTotal Database.cupReturned.cash invoice.id < invoice.totalAmount) ∧
    (∃ refund row invoice,
      CashRefundMade Database.cupReturned (Database.cupReturned.perform secondCup 11)
        refund row invoice) ∧
    ((Database.cupReturned.perform secondCup 11).perform secondCup 12).perform secondCup 13 =
      (Database.cupReturned.perform secondCup 11).perform secondCup 12 := by
  have shown : ∃ invoice ∈ Database.cupReturned.sales.invoices.rows,
      invoice.paymentMethod = .cash ∧ invoice.paymentStatus = .partiallyRefunded := by
    decide +kernel
  have paid := @Database.commits_perform Database.cupReturned secondCup 11 (by decide +kernel)
  have again := @Database.commits_perform
    ((Database.cupReturned.perform secondCup 11).perform secondCup 12) secondCup 13
    (by decide +kernel)
  have accounted := Reachable.cupReturned.cashRefunds_accounted
  obtain ⟨invoice, inRows, cash, status⟩ := shown
  have member := Table.mem_def.mpr inRows
  refine ⟨⟨invoice, member, status, ?_⟩, ?_⟩
  · exact ((accounted.shown invoice member cash).2.2.mp status).2
  · obtain same | ⟨⟨refund, row, own, -, makes⟩, ends⟩ := accounted.paidOnce 3 0 _ 11 _ paid
    · have more : (Database.cupReturned.perform secondCup 11).cash.refunds.rows.length ≠
          Database.cupReturned.cash.refunds.rows.length := by
        decide +kernel
      rw [same] at more
      exact absurd rfl more
    · exact ⟨⟨refund, row, own, makes⟩,
        ends _ (runs_perform .refl secondCup 12) 3 _ 13 _ rfl again⟩

end InCash

end CoffeeShop
