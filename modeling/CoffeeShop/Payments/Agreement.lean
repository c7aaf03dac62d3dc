import CoffeeShop.Payments.AttemptRuns
import CoffeeShop.Sales.Billing

/-!
Confirmed payments and paid invoices agree.

An invoice that is paid stays paid by the same method, and it is paid online in the
transaction that confirms a payment.  So an invoice has at most one confirmed payment.
-/

namespace CoffeeShop

open Transaction PaymentStore Database

/-- The total stays, and what is paid stays paid by its method.  Its status stays too, unless
invoices of the method may be refunded. -/
structure Invoice.Continues (refunds : Option PaymentMethod) (before after : Invoice) : Prop where
  totalAmount : after.totalAmount = before.totalAmount
  settled : before.paymentStatus.isSettled = true →
    after.paymentStatus.isSettled = true ∧ after.paymentMethod = before.paymentMethod
  kept : before.paymentStatus.isSettled = true → refunds = none →
    after.paymentStatus = before.paymentStatus
  transfer : before.paymentStatus.isSettled = true → before.paymentMethod = .transfer →
    refunds = some .cash → after.paymentStatus = before.paymentStatus

def InvoicesContinue (refunds : Option PaymentMethod) (before after : SalesStore) : Prop :=
  ∀ id invoice, before.invoices.find? id = some invoice →
    ∃ next, after.invoices.find? id = some next ∧ invoice.Continues refunds next

namespace Invoice.Continues

variable {refunds : Option PaymentMethod} {before after : Invoice}

theorem of_unsettled (totalAmount : after.totalAmount = before.totalAmount)
    (unsettled : before.paymentStatus.isSettled = false) : before.Continues refunds after := by
  constructor
  · exact totalAmount
  all_goals
    intro settled
    rw [unsettled] at settled
    cases settled

theorem of_same (totalAmount : after.totalAmount = before.totalAmount)
    (method : after.paymentMethod = before.paymentMethod)
    (status : after.paymentStatus = before.paymentStatus) : before.Continues refunds after where
  totalAmount := totalAmount
  settled settled := ⟨status ▸ settled, method⟩
  kept _ _ := status
  transfer _ _ _ := status

instance : IsPreorder Invoice (Continues refunds) where
  refl _ := of_same rfl rfl rfl
  trans _ _ _ first second := {
    totalAmount := second.totalAmount.trans first.totalAmount
    settled := fun settled => by
      obtain ⟨stays, method⟩ := first.settled settled
      obtain ⟨remains, same⟩ := second.settled stays
      exact ⟨remains, same.trans method⟩
    kept := fun settled none =>
      (second.kept (first.settled settled).1 none).trans (first.kept settled none)
    transfer := fun settled method cash => by
      obtain ⟨stays, same⟩ := first.settled settled
      exact (second.transfer stays (same.trans method) cash).trans
        (first.transfer settled method cash) }

end Invoice.Continues

namespace InvoicesContinue

variable {before after : SalesStore} {refunds : Option PaymentMethod}

theorem of_eq (same : after.invoices = before.invoices) : InvoicesContinue refunds before after := by
  intro id invoice found
  rw [same]
  exact ⟨invoice, found, refl_of (Invoice.Continues refunds) invoice⟩

instance : IsPreorder SalesStore (InvoicesContinue refunds) where
  refl _ := of_eq rfl
  trans first second third early late := by
    intro id invoice found
    obtain ⟨middle, there, continues⟩ := early id invoice found
    obtain ⟨last, final, goes⟩ := late id middle there
    exact ⟨last, final, trans_of (Invoice.Continues refunds) continues goes⟩

theorem updated {condition : Invoice → Bool} {change : Invoice → Invoice}
    (keeps : ∀ row, (change row).id = row.id)
    (same : after.invoices = before.invoices.update condition change keeps)
    (continues : ∀ row ∈ before.invoices, condition row = true →
      row.Continues refunds (change row)) :
    InvoicesContinue refunds before after := by
  intro id invoice found
  rw [same, Table.find?_update, found]
  refine ⟨_, rfl, ?_⟩
  dsimp only
  split
  next holds => exact continues invoice (Table.mem_of_find? found) holds
  next => exact refl_of (Invoice.Continues refunds) invoice

/-- Only an unpaid invoice is paid or voided. -/
theorem unsettled {id : Id} (unpaid : ∃ row, before.invoices.find? id = some row ∧
      row.paymentStatus = .unpaid) {row : Invoice} (member : row ∈ before.invoices)
    (same : row.id = id) : row.paymentStatus.isSettled = false := by
  obtain ⟨found, there, open_⟩ := unpaid
  rw [Table.eq_of_find? there member same, open_]
  rfl

theorem step (taken : SalesStep refunds before after) : InvoicesContinue refunds before after := by
  cases taken with
  | besides tables sessions items invoices => exact of_eq invoices
  | lineMoved active moved =>
      cases moved with
      | whole => exact of_eq rfl
      | divided => exact of_eq rfl
  | invoiceIssued links status billable total nonneg inserted =>
      intro id invoice found
      refine ⟨invoice, ?_, refl_of (Invoice.Continues refunds) invoice⟩
      obtain rfl := Table.find?_key found
      exact Table.find?_of_mem ((Table.mem_insert? inserted).mpr (.inl (Table.mem_of_find? found)))
  | invoicePaid id condition change keeps found unpaid pays =>
      refine updated keeps rfl fun row member holds => ?_
      exact .of_unsettled (pays row member holds).1.totalAmount
        (unsettled unpaid member ((found row member).mp holds))
  | invoiceVoided id change keeps unpaid voids =>
      refine updated keeps rfl fun row member holds => ?_
      have same : row.id = id := by simpa using holds
      exact .of_unsettled (voids row member).1.totalAmount (unsettled unpaid member same)
  | invoicesTouched condition change keeps agrees =>
      refine updated keeps rfl fun row member holds => ?_
      obtain ⟨agree, method, status⟩ := agrees row member holds
      exact .of_same agree.totalAmount method status
  | invoicesRefunded condition method status allowed settled paid =>
      refine updated (by intro; rfl) rfl fun row member holds => ⟨rfl, fun _ => ⟨settled, rfl⟩,
        fun _ none => ?_, fun _ transfer cash => ?_⟩
      · rw [allowed] at none
        cases none
      · rw [allowed] at cash
        have paidInCash := (paid row member holds).2 (Option.some.inj cash)
        rw [transfer] at paidInCash
        cases paidInCash
  | _ => exact of_eq rfl

theorem steps (taken : SalesSteps refunds before after) : InvoicesContinue refunds before after := by
  induction taken with
  | refl => exact refl_of (InvoicesContinue refunds) _
  | tail _ last inductionHypothesis =>
      exact trans_of (InvoicesContinue refunds) inductionHypothesis (step last)

end InvoicesContinue

/-- Where an attempt comes from: it was there before, or it is opened now. -/
theorem AttemptMoves.origin {opens : PaymentAttempt → Prop} {confirms : Id → Prop}
    {before after : Table PaymentAttempt.id} {attempt : PaymentAttempt} {id : Id}
    (moves : Moves (AttemptMove opens confirms) before after)
    (found : after.find? id = some attempt) :
    ∃ source, (before.find? id = some source ∨ opens source) ∧
      attempt.invoiceId = source.invoiceId ∧ attempt.amount = source.amount ∧
      (attempt.status = .succeeded →
        (before.find? id = some source ∧ source.status = .succeeded) ∨ confirms id) := by
  have start : ∀ row, before.find? id = some row → ∃ source,
      (before.find? id = some source ∨ opens source) ∧ row.invoiceId = source.invoiceId ∧
        row.amount = source.amount ∧ (row.status = .succeeded →
          (before.find? id = some source ∧ source.status = .succeeded) ∨ confirms id) :=
    fun row there => ⟨row, .inl there, rfl, rfl, fun succeeded => .inl ⟨there, succeeded⟩⟩
  refine moves.holds (P := fun current => ∀ row, current = some row → ∃ source,
    (before.find? id = some source ∨ opens source) ∧ row.invoiceId = source.invoiceId ∧
      row.amount = source.amount ∧ (row.status = .succeeded →
        (before.find? id = some source ∧ source.status = .succeeded) ∨ confirms id)) ?_ start
    attempt found
  rintro _ _ (⟨asked, isNew⟩ | evolves | ⟨asked, confirmation⟩) earlier row ⟨⟩
  · refine ⟨_, .inr asked, rfl, rfl, fun succeeded => ?_⟩
    rw [isNew.pending] at succeeded
    cases succeeded
  · obtain ⟨source, comes, invoiceId, amount, succeeded⟩ := earlier _ rfl
    exact ⟨source, comes, evolves.invoiceId.trans invoiceId, evolves.amount.trans amount,
      succeeded ∘ evolves.succeeded.mp⟩
  · obtain ⟨source, comes, invoiceId, amount, -⟩ := earlier _ rfl
    exact ⟨source, comes, confirmation.invoiceId.trans invoiceId,
      confirmation.amount.trans amount, fun _ => .inr asked⟩

/-- The invoice of a confirmed payment is paid by transfer. -/
def SalesStore.PaidOnline (sales : SalesStore) (invoiceId : Id) : Prop :=
  ∃ invoice, sales.invoices.find? invoiceId = some invoice ∧
    invoice.paymentStatus.isSettled = true ∧ invoice.paymentMethod = .transfer

structure PaymentsAgree (database : Database) : Prop where
  amounts : ∀ attempt ∈ database.payments.attempts, 0 < attempt.amount ∧ ∃ invoice,
    database.sales.invoices.find? attempt.invoiceId = some invoice ∧
      attempt.amount = invoice.totalAmount
  confirmed : ∀ attempt ∈ database.payments.attempts, attempt.status = .succeeded →
    database.sales.PaidOnline attempt.invoiceId
  single : ∀ attempt ∈ database.payments.attempts, ∀ other ∈ database.payments.attempts,
    attempt.status = .succeeded → other.status = .succeeded →
      attempt.invoiceId = other.invoiceId → attempt.id = other.id

namespace PaymentsAgree

variable {before after : Database} {refunds : Option PaymentMethod}

theorem empty : PaymentsAgree Database.empty where
  amounts _ member := (Table.not_mem_empty member).elim
  confirmed _ member := (Table.not_mem_empty member).elim
  single _ member := (Table.not_mem_empty member).elim

theorem paidOnline_continues {sales next : SalesStore}
    (continue_ : InvoicesContinue refunds sales next)
    {invoiceId : Id} (paid : sales.PaidOnline invoiceId) : next.PaidOnline invoiceId := by
  obtain ⟨invoice, found, settled, method⟩ := paid
  obtain ⟨last, there, continues⟩ := continue_ invoiceId invoice found
  obtain ⟨stays, same⟩ := continues.settled settled
  exact ⟨last, there, stays, same.trans method⟩

/-- The amounts agree still, of old attempts and of new ones. -/
theorem amounts_step {confirms : Id → Prop} (agree : PaymentsAgree before)
    (continue_ : InvoicesContinue refunds before.sales after.sales)
    (moves : Moves (AttemptMove (AttemptMoves.OpensIn before) confirms) before.payments.attempts
      after.payments.attempts) {attempt : PaymentAttempt}
    (member : attempt ∈ after.payments.attempts) :
    0 < attempt.amount ∧ ∃ invoice, after.sales.invoices.find? attempt.invoiceId = some invoice ∧
      attempt.amount = invoice.totalAmount := by
  obtain ⟨source, comes, invoiceId, amount, -⟩ :=
    AttemptMoves.origin moves (Table.find?_of_mem member)
  have agreed : 0 < source.amount ∧ ∃ invoice,
      before.sales.invoices.find? source.invoiceId = some invoice ∧
        source.amount = invoice.totalAmount := by
    rcases comes with there | ⟨positive, ⟨invoice, found, -, total⟩, -⟩
    · exact agree.amounts source (Table.mem_of_find? there)
    · exact ⟨positive, invoice, found, total⟩
  obtain ⟨positive, invoice, found, total⟩ := agreed
  obtain ⟨next, there, continues⟩ := continue_ _ invoice found
  rw [invoiceId, amount]
  exact ⟨positive, next, there, total.trans continues.totalAmount.symm⟩

/-- A confirmed attempt was confirmed before, unless it may be confirmed now. -/
theorem succeeded_before {opens : PaymentAttempt → Prop} {confirms : Id → Prop}
    (moves : Moves (AttemptMove opens confirms) before.payments.attempts after.payments.attempts)
    {attempt : PaymentAttempt} (member : attempt ∈ after.payments.attempts)
    (succeeded : attempt.status = .succeeded) (unasked : ¬confirms attempt.id) :
    ∃ old ∈ before.payments.attempts, old.status = .succeeded ∧ old.id = attempt.id ∧
      old.invoiceId = attempt.invoiceId := by
  obtain ⟨source, -, invoiceId, -, was⟩ := AttemptMoves.origin moves (Table.find?_of_mem member)
  obtain ⟨there, settled⟩ | asked := was succeeded
  · exact ⟨source, Table.mem_of_find? there, settled, Table.find?_key there, invoiceId.symm⟩
  · exact absurd asked unasked

theorem unconfirming (agree : PaymentsAgree before)
    (continue_ : InvoicesContinue refunds before.sales after.sales)
    (moves : Moves (AttemptMove (AttemptMoves.OpensIn before) fun _ => False)
      before.payments.attempts after.payments.attempts) : PaymentsAgree after where
  amounts _ member := agree.amounts_step continue_ moves member
  confirmed attempt member succeeded := by
    obtain ⟨old, inStore, settled, -, same⟩ := succeeded_before moves member succeeded id
    rw [← same]
    exact paidOnline_continues continue_ (agree.confirmed old inStore settled)
  single attempt member other otherMember succeeded alsoSucceeded same := by
    obtain ⟨old, inStore, settled, id, invoiceId⟩ := succeeded_before moves member succeeded (·)
    obtain ⟨oldOther, alsoInStore, alsoSettled, otherId, otherInvoiceId⟩ :=
      succeeded_before moves otherMember alsoSucceeded (·)
    rw [← id, ← otherId]
    exact agree.single old inStore oldOther alsoInStore settled alsoSettled
      (invoiceId.trans (same.trans otherInvoiceId.symm))

theorem confirming (agree : PaymentsAgree before)
    (continue_ : InvoicesContinue refunds before.sales after.sales) {paid : PaymentAttempt}
    (found : before.payments.attempts.find? paid.id = some paid)
    (pays : before.sales.PaysOnline after.sales paid.invoiceId)
    (moves : Moves (AttemptMove (fun _ => False) (· = paid.id)) before.payments.attempts
      after.payments.attempts) : PaymentsAgree after := by
  have general : Moves (AttemptMove (AttemptMoves.OpensIn before) (· = paid.id))
      before.payments.attempts after.payments.attempts :=
    moves.mono fun _ _ _ move => move.mono (fun _ none => none.elim) fun _ asked => asked
  -- The paid attempt is still about the invoice that was unpaid.
  have own {attempt : PaymentAttempt} (member : attempt ∈ after.payments.attempts)
      (same : attempt.id = paid.id) : attempt.invoiceId = paid.invoiceId := by
    obtain ⟨source, comes, invoiceId, -⟩ := AttemptMoves.origin moves (Table.find?_of_mem member)
    rcases comes with there | none
    · rw [same, found] at there
      cases there
      exact invoiceId
    · exact none.elim
  have unpaid {old : PaymentAttempt} (inStore : old ∈ before.payments.attempts)
      (settled : old.status = .succeeded) : old.invoiceId ≠ paid.invoiceId := by
    intro same
    obtain ⟨invoice, there, isSettled, -⟩ := agree.confirmed old inStore settled
    obtain ⟨open_, alsoThere, status⟩ := pays.unpaid
    rw [same, alsoThere] at there
    cases there
    rw [status] at isSettled
    cases isSettled
  constructor
  · exact fun _ member => agree.amounts_step continue_ general member
  · intro attempt member succeeded
    by_cases same : attempt.id = paid.id
    · obtain ⟨invoice, there, status, method⟩ := pays.paid
      rw [own member same]
      refine ⟨invoice, there, ?_, method⟩
      rw [status]
      rfl
    · obtain ⟨old, inStore, settled, -, kept⟩ := succeeded_before moves member succeeded same
      rw [← kept]
      exact paidOnline_continues continue_ (agree.confirmed old inStore settled)
  · intro attempt member other otherMember succeeded alsoSucceeded equal
    by_cases same : attempt.id = paid.id
    · by_cases alsoSame : other.id = paid.id
      · exact same.trans alsoSame.symm
      · obtain ⟨old, inStore, settled, -, kept⟩ :=
          succeeded_before moves otherMember alsoSucceeded alsoSame
        exact absurd (kept.trans (equal.symm.trans (own member same))) (unpaid inStore settled)
    · obtain ⟨old, inStore, settled, oldId, kept⟩ := succeeded_before moves member succeeded same
      by_cases alsoSame : other.id = paid.id
      · exact absurd (kept.trans (equal.trans (own otherMember alsoSame))) (unpaid inStore settled)
      · obtain ⟨oldOther, alsoInStore, alsoSettled, otherId, otherKept⟩ :=
          succeeded_before moves otherMember alsoSucceeded alsoSame
        rw [← oldId, ← otherId]
        exact agree.single old inStore oldOther alsoInStore settled alsoSettled
          (kept.trans (equal.trans otherKept.symm))

theorem step (taken : Step before after) (agree : PaymentsAgree before) : PaymentsAgree after := by
  cases taken with
  | administer catalog reservations => exact ⟨agree.amounts, agree.confirmed, agree.single⟩
  | commit command now committed =>
      have continue_ := InvoicesContinue.steps (Command.sales_steps committed)
      by_cases other : ∀ payment, command ≠ .payment payment
      · refine agree.unconfirming continue_ ?_
        rw [Command.payments_eq other committed]
        exact refl_of (Moves _) _
      · obtain ⟨payment, rfl⟩ : ∃ payment, command = .payment payment := by simpa using other
        cases PaymentStep.of_command committed with
        | opening opens isNew inserted =>
            exact agree.unconfirming continue_ (Moves.insert inserted (.opened opens isNew))
        | unconfirming moves =>
            refine agree.unconfirming continue_ (moves.mono fun _ _ _ move => ?_)
            exact move.mono (fun _ none => none.elim) fun _ none => none
        | confirming found confirms =>
            exact agree.confirming continue_ found confirms.completes.pays confirms.moves

end PaymentsAgree

theorem Reachable.paymentsAgree {database : Database} (reachable : Reachable database) :
    PaymentsAgree database :=
  reachable.invariant PaymentsAgree .empty fun _ _ _ taken agree => agree.step taken

section Confirmed

variable {database : Database} {attempt : PaymentAttempt}

/-- The invoice is paid by transfer with all its items, for what the payment was of. -/
theorem Reachable.paysInvoice (reachable : Reachable database)
    (member : attempt ∈ database.payments.attempts) (succeeded : attempt.status = .succeeded) :
    ∃ invoice, database.sales.invoices.find? attempt.invoiceId = some invoice ∧
      invoice.paymentMethod = .transfer ∧
      (invoice.paymentStatus = .paid ∨ invoice.paymentStatus = .partiallyRefunded ∨
        invoice.paymentStatus = .refunded) ∧
      invoice.totalAmount = attempt.amount ∧
      ∀ item ∈ database.sales.items, item.invoiceId = some invoice.id → item.isPaid = true := by
  have agree := reachable.paymentsAgree
  obtain ⟨invoice, found, settled, method⟩ := agree.confirmed attempt member succeeded
  obtain ⟨-, same, there, amount⟩ := agree.amounts attempt member
  rw [found] at there
  cases there
  refine ⟨invoice, found, method, ?_, amount.symm, fun item inStore own => ?_⟩
  · cases status : invoice.paymentStatus with
    | unpaid | voided =>
        rw [status] at settled
        cases settled
    | paid => exact .inl rfl
    | partiallyRefunded => exact .inr (.inl rfl)
    | refunded => exact .inr (.inr rfl)
  · obtain ⟨billed, alsoThere, -, -, paid⟩ := reachable.billsAgree.billed item inStore _ own
    rw [Table.find?_key found, found] at alsoThere
    cases alsoThere
    exact paid.mpr settled

theorem Reachable.confirmed_single (reachable : Reachable database)
    (member : attempt ∈ database.payments.attempts) (succeeded : attempt.status = .succeeded) :
    ∀ other ∈ database.payments.attempts, other.invoiceId = attempt.invoiceId →
      other.status = .succeeded → other = attempt := by
  intro other otherMember invoiceId alsoSucceeded
  have same := reachable.paymentsAgree.single other otherMember attempt member alsoSucceeded
    succeeded invoiceId
  exact Table.eq_of_key_eq otherMember member same

end Confirmed

/-- A confirmed payment is of exactly the total of an invoice that is paid by transfer with all
its items, and no other payment of the invoice is confirmed. -/
theorem Reachable.confirmed_paysInvoice {database : Database} (reachable : Reachable database)
    {attempt : PaymentAttempt} (member : attempt ∈ database.payments.attempts)
    (succeeded : attempt.status = .succeeded) :
    ∃ invoice, database.sales.invoices.find? attempt.invoiceId = some invoice ∧
      invoice.paymentMethod = .transfer ∧
      (invoice.paymentStatus = .paid ∨ invoice.paymentStatus = .partiallyRefunded ∨
        invoice.paymentStatus = .refunded) ∧
      invoice.totalAmount = attempt.amount ∧
      (∀ item ∈ database.sales.items, item.invoiceId = some invoice.id → item.isPaid = true) ∧
      ∀ other ∈ database.payments.attempts, other.invoiceId = attempt.invoiceId →
        other.status = .succeeded → other = attempt := by
  obtain ⟨invoice, found, method, status, total, paid⟩ := reachable.paysInvoice member succeeded
  exact ⟨invoice, found, method, status, total, paid, reachable.confirmed_single member succeeded⟩

/-- The two cups were paid online. -/
theorem Reachable.confirmed_paysInvoice_paidOnline :
    ∃ attempt ∈ Database.paidOnline.payments.attempts, ∃ invoice,
      Database.paidOnline.sales.invoices.find? attempt.invoiceId = some invoice ∧
        invoice.paymentMethod = .transfer ∧ invoice.totalAmount = attempt.amount := by
  have settled : (Database.paidOnline.payments.attempts.find? 7).any (·.status = .succeeded) := by
    decide +kernel
  obtain ⟨attempt, member, succeeded⟩ := exists_attempt settled
  obtain ⟨invoice, found, method, -, total, -⟩ :=
    Reachable.paidOnline.confirmed_paysInvoice member succeeded
  exact ⟨attempt, member, invoice, found, method, total⟩

/-- Once confirmed, a payment is confirmed for good: no later step changes its status, its amount
or the provider's number, it is the only confirmed one of its invoice, and at any later time the
invoice is paid by transfer with all its items, for the amount. -/
theorem Reachable.confirmed_absorbing {database later : Database} (reachable : Reachable database)
    (runs : Relation.ReflTransGen Step database later) {attempt : PaymentAttempt}
    (member : attempt ∈ database.payments.attempts) (succeeded : attempt.status = .succeeded) :
    ∃ next, later.payments.attempts.find? attempt.id = some next ∧ next.status = .succeeded ∧
      next.amount = attempt.amount ∧
      next.providerTransactionNo = attempt.providerTransactionNo ∧
      next.invoiceId = attempt.invoiceId ∧
      (∀ other ∈ later.payments.attempts, other.invoiceId = attempt.invoiceId →
        other.status = .succeeded → other = next) ∧
      ∃ invoice, later.sales.invoices.find? attempt.invoiceId = some invoice ∧
        invoice.paymentMethod = .transfer ∧
        (invoice.paymentStatus = .paid ∨ invoice.paymentStatus = .partiallyRefunded ∨
          invoice.paymentStatus = .refunded) ∧
        invoice.totalAmount = attempt.amount ∧
        ∀ item ∈ later.sales.items, item.invoiceId = some invoice.id → item.isPaid = true := by
  obtain ⟨next, found, continues⟩ := Step.attempts_continue runs member
  obtain ⟨stays, number⟩ := continues.succeeded succeeded
  have reaches : Reachable later := reachable.trans runs
  have isThere := Table.mem_of_find? found
  have single := reaches.confirmed_single isThere stays
  have pays := reaches.paysInvoice isThere stays
  rw [continues.invoiceId] at single pays
  rw [continues.amount] at pays
  exact ⟨next, found, stays, continues.amount, number, continues.invoiceId, single, pays⟩

/-- The two cups are paid online, and a failure is notified afterwards. -/
theorem Reachable.confirmed_absorbing_paidOnline :
    let later := Database.paidOnline.perform (.payment (.handleVnpayIpn {
      payloadHash := 2
      merchantReference := 6
      amount := 7000000
      transactionNo := "15"
      responseCode := "24"
      transactionStatus := "02" })) 9
    ∃ attempt ∈ Database.paidOnline.payments.attempts, ∃ next,
      later.payments.attempts.find? attempt.id = some next ∧ next.status = .succeeded ∧
        next.amount = attempt.amount ∧
        next.providerTransactionNo = attempt.providerTransactionNo ∧
        ∃ invoice, later.sales.invoices.find? attempt.invoiceId = some invoice ∧
          invoice.paymentMethod = .transfer ∧ invoice.totalAmount = attempt.amount := by
  have settled : (Database.paidOnline.payments.attempts.find? 7).any (·.status = .succeeded) := by
    decide +kernel
  obtain ⟨attempt, member, succeeded⟩ := exists_attempt settled
  obtain ⟨next, found, stays, amount, number, -, -, invoice, there, method, -, total, -⟩ :=
    Reachable.paidOnline.confirmed_absorbing (runs_perform .refl _ 9) member succeeded
  exact ⟨attempt, member, next, found, stays, amount, number, invoice, there, method, total⟩

section Paths

variable {before after : Database} {attempt : PaymentAttempt}

/-- An attempt is only confirmed by a step that confirms its payment. -/
theorem Command.confirmsPayment {command : Command} {now : Timestamp}
    (committed : Commits (command.execute now) before () after)
    (found : before.payments.attempts.find? attempt.id = some attempt)
    (unconfirmed : attempt.status ≠ .succeeded)
    (confirmed : ∃ row ∈ after.payments.attempts, row.id = attempt.id ∧ row.status = .succeeded) :
    ConfirmsPayment attempt before after := by
  obtain ⟨row, member, same, succeeded⟩ := confirmed
  have there := Table.find?_of_mem member
  rw [same] at there
  by_cases other : ∀ payment, command ≠ .payment payment
  · rw [Command.payments_eq other committed, found] at there
    cases there
    exact absurd succeeded unconfirmed
  · obtain ⟨payment, rfl⟩ : ∃ payment, command = .payment payment := by simpa using other
    cases PaymentStep.of_command committed with
    | opening opens isNew inserted =>
        rcases (Table.mem_insert? inserted).mp member with inStore | rfl
        · rw [← same, Table.find?_of_mem inStore] at found
          cases found
          exact absurd succeeded unconfirmed
        · rw [isNew.pending] at succeeded
          cases succeeded
    | unconfirming moves =>
        obtain ⟨source, -, -, -, settled⟩ := AttemptMoves.origin moves there
        obtain ⟨was, already⟩ | none := settled succeeded
        · rw [found] at was
          cases was
          exact absurd already unconfirmed
        · exact none.elim
    | @confirming paid known confirms =>
        obtain ⟨source, -, -, -, settled⟩ := AttemptMoves.origin confirms.moves there
        obtain ⟨was, already⟩ | asked := settled succeeded
        · rw [found] at was
          cases was
          exact absurd already unconfirmed
        · rw [asked, known] at found
          cases found
          exact confirms

/-- However a payment comes to be confirmed, by a notification or by a reconciliation, of any
provider and at any time: the invoice, its items and the rest of the sales are the same
afterwards, and no other attempt differs from before, save that a pending one of the invoice may
have been superseded. -/
theorem Command.confirmations_agree {first second : Database} {one other : Command}
    {now later : Timestamp} (oneCommitted : Commits (one.execute now) before () first)
    (otherCommitted : Commits (other.execute later) before () second)
    (member : attempt ∈ before.payments.attempts) (unconfirmed : attempt.status ≠ .succeeded)
    (oneConfirms : ∃ row ∈ first.payments.attempts, row.id = attempt.id ∧ row.status = .succeeded)
    (otherConfirms : ∃ row ∈ second.payments.attempts,
      row.id = attempt.id ∧ row.status = .succeeded) :
    first.sales = second.sales ∧ ∀ id ≠ attempt.id,
      first.payments.attempts.find? id = second.payments.attempts.find? id ∨
        ∃ row ∈ before.payments.attempts, row.id = id ∧ row.invoiceId = attempt.invoiceId ∧
          row.status = .pending ∧
          (first.payments.attempts.find? id = some row ∨
            ∃ next, first.payments.attempts.find? id = some next ∧ next.status = .failed) ∧
          (second.payments.attempts.find? id = some row ∨
            ∃ next, second.payments.attempts.find? id = some next ∧ next.status = .failed) := by
  have found := Table.find?_of_mem member
  have confirms := Command.confirmsPayment oneCommitted found unconfirmed oneConfirms
  have also := Command.confirmsPayment otherCommitted found unconfirmed otherConfirms
  constructor
  · have same := confirms.completes.symm.trans also.completes
    simpa using same
  · intro id differs
    have supersedes {row : PaymentAttempt}
        (superseded : PaymentsService.isSuperseded attempt row = true) :
        row.invoiceId = attempt.invoiceId ∧ row.status = .pending := by
      simp only [PaymentsService.isSuperseded, Bool.and_eq_true, decide_eq_true_eq] at superseded
      exact ⟨superseded.1.1, superseded.2⟩
    obtain kept | ⟨row, next, was, superseded, fails, failed⟩ := confirms.others id differs
    · obtain alsoKept | ⟨row, next, was, superseded, fails, failed⟩ := also.others id differs
      · exact .inl (kept.trans alsoKept.symm)
      · obtain ⟨own, pending⟩ := supersedes superseded
        exact .inr ⟨row, Table.mem_of_find? was, Table.find?_key was, own, pending,
          .inl (kept.trans was), .inr ⟨next, fails, failed⟩⟩
    · obtain ⟨own, pending⟩ := supersedes superseded
      refine .inr ⟨row, Table.mem_of_find? was, Table.find?_key was, own, pending,
        .inr ⟨next, fails, failed⟩, ?_⟩
      obtain alsoKept | ⟨other, last, alsoWas, -, alsoFails, alsoFailed⟩ := also.others id differs
      · exact .inl (alsoKept.trans was)
      · exact .inr ⟨last, alsoFails, alsoFailed⟩

/-- The notification of the second attempt of the two cups. -/
def notifySecond : Command := .payment (.handleVnpayIpn {
  payloadHash := 3
  merchantReference := 8
  amount := 7000000
  transactionNo := "14"
  responseCode := "00"
  transactionStatus := "00" })

/-- The reconciliation of the second attempt of the two cups. -/
def querySecond : Command := .payment (.queryProvider 9 (.vnpay {
  responseCode := some "00"
  merchantReference := some 8
  transactionType := some "01"
  amount := some 7000000
  transactionStatus := some "00"
  transactionNo := some "14" }))

/-- The reconciliation of the two cups sells the same as their notification, and neither changes
the attempt that failed. -/
theorem Command.confirmations_agree_reattempted :
    let first := Database.reattempted.perform notifySecond 10
    let second := Database.reattempted.perform querySecond 11
    first.sales = second.sales ∧
      first.payments.attempts.find? 7 = second.payments.attempts.find? 7 := by
  have waits : ∃ attempt ∈ Database.reattempted.payments.attempts.rows,
      attempt.id = 9 ∧ attempt.status = .pending := by decide +kernel
  obtain ⟨attempt, member, own, pending⟩ := waits
  have unconfirmed : attempt.status ≠ .succeeded := by
    rw [pending]
    decide
  have confirmed {database : Database} (holds : ∃ row ∈ database.payments.attempts.rows,
      row.id = 9 ∧ row.status = .succeeded) :
      ∃ row ∈ database.payments.attempts, row.id = attempt.id ∧ row.status = .succeeded := by
    rw [own]
    exact holds
  obtain ⟨sales, others⟩ := Command.confirmations_agree
    (@Database.commits_perform Database.reattempted notifySecond 10 (by decide +kernel))
    (@Database.commits_perform Database.reattempted querySecond 11 (by decide +kernel)) member
    unconfirmed (confirmed (by decide +kernel)) (confirmed (by decide +kernel))
  refine ⟨sales, ?_⟩
  obtain same | ⟨row, inStore, first, -, waiting, -⟩ := others 7 (by rw [own]; decide)
  · exact same
  · have unwaiting : ∀ row ∈ Database.reattempted.payments.attempts.rows,
        row.id = 7 → row.status ≠ .pending := by decide +kernel
    exact absurd waiting (unwaiting row inStore first)

end Paths

end CoffeeShop
