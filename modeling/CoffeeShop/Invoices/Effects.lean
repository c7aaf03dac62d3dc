import CoffeeShop.Footprints

/-!
What the invoice transactions read and write, statement by statement.

The checks leave the database alone, so each transaction is the list of its writes
under the facts that its checks establish.
-/

namespace CoffeeShop

namespace InvoicesService

open Transaction SalesStore

variable {now : Timestamp} {before after : Database}

@[simp] theorem commits_insertInvoice {row : Invoice} {sales sales' : SalesStore} {result : Unit} :
    Commits (insertInvoice row) sales result sales' ↔
      ((amountsOf row).all fitsColumn = true ∧ (∀ amount ∈ amountsOf row, 0 ≤ amount) ∧
        row.discountAmount ≤ row.subTotal) ∧
      ∃ invoices, sales.invoices.insert? row = some invoices ∧
        sales' = { sales with invoices } := by
  simp only [insertInvoice, commits_bind, commits_require, commits_create]
  constructor
  · rintro ⟨_, _, ⟨fits, rfl⟩, _, _, ⟨signs, rfl⟩, _, _, ⟨discount, rfl⟩, inserted⟩
    exact ⟨⟨fits, signs, discount⟩, inserted⟩
  · rintro ⟨⟨fits, signs, discount⟩, inserted⟩
    exact ⟨(), sales, ⟨fits, rfl⟩, (), sales, ⟨signs, rfl⟩, (), sales, ⟨discount, rfl⟩, inserted⟩

/-- The writes of `createInvoiceInTransaction` after its checks. -/
structure InvoiceIssue (request : CreateInvoiceRequest) (onlinePickup : Bool) (now : Timestamp)
    (before : Database) (id : Id) (after : Database) where
  session : OrderSession
  shift : Option OpenCashierShiftContext
  draft : InvoiceDraft
  issued : SalesStore
  reserved : Database
  recorded : Database
  found : before.sales.sessions.find? request.input.orderSessionId = some session
  active : session.sessionStatus = .active
  walkIn : onlinePickup = false → before.sales.onlineRequestOf session.id = none
  required : Commits (requireShiftIfPaid request) before shift before
  drafted : Commits (draftInvoice request before.catalog session now) before.sales draft before.sales
  id_eq : id = before.nextId
  issue : Commits (issueInvoice request before.catalog draft id (shift.map (·.id)) now)
    before.sales () issued
  reserve : Commits (reserveInvoiceStock id now)
    { before with sales := issued, nextId := before.nextId + 1 } () reserved
  record : Commits (whenSome shift fun shift => when (request.paymentMethod = .cash)
    (CashierShiftLedger.recordCashInvoice {
      shift
      invoiceId := id
      employeeId := request.employeeId
      amount := draft.calculation.totalAmount } now)) reserved () recorded
  close : Commits (when (request.paymentStatus = .paid ∧ request.closeSessionAfterPayment)
    (salesTx (closeSessionIfFullyPaid session))) recorded () after

theorem commits_createInvoiceInTransaction {request : CreateInvoiceRequest} {onlinePickup : Bool}
    {id : Id} (committed : Commits (createInvoiceInTransaction request onlinePickup now)
      before id after) : Nonempty (InvoiceIssue request onlinePickup now before id after) := by
  simp only [createInvoiceInTransaction, commits_bind, commits_require, commits_readCatalog,
    commits_freshId, commits_pure] at committed
  obtain ⟨_, _, active, session, _, loaded, _, _, ⟨status, rfl⟩, _, _, allowed, shift, _, required,
    _, _, ⟨rfl, rfl⟩, draft, _, drafted, _, _, ⟨rfl, rfl⟩, _, _, issue, _, reserved, reserve,
    _, recorded, record, _, _, close, rfl, rfl⟩ := committed
  cases Respects.step (R := Eq) active
  obtain ⟨_, read, -⟩ := commits_salesTx.mp loaded
  obtain ⟨found, -⟩ := commits_findUniqueOrFail.mp read
  cases Respects.step (R := Eq) loaded
  have walkIn : onlinePickup = false → before.sales.onlineRequestOf session.id = none := by
    rintro rfl
    simp only [Bool.not_false, commits_when, commits_salesTx, assertPosOrderMutationAllowed,
      commits_bind, commits_get, commits_require] at allowed
    obtain ⟨-, _, ⟨_, _, ⟨rfl, rfl⟩, free, -⟩, -⟩ | ⟨never, -⟩ := allowed
    · simpa using free
    · exact (never trivial).elim
  cases Respects.step (R := Eq) allowed
  cases Respects.step (R := Eq) required
  obtain ⟨_, draws, -⟩ := commits_salesTx.mp drafted
  cases Respects.step (R := Eq) draws
  cases Respects.step (R := Eq) drafted
  obtain ⟨issued, issues, rfl⟩ := commits_salesTx.mp issue
  exact ⟨{ session, shift, draft, issued, reserved, recorded, found, active := status, walkIn,
           required, drafted := draws, id_eq := rfl, issue := issues, reserve, record, close }⟩

theorem InvoiceIssue.reserved_cash {request : CreateInvoiceRequest} {onlinePickup : Bool} {id : Id}
    (issue : InvoiceIssue request onlinePickup now before id after) :
    issue.reserved.cash = before.cash := by
  have kept := Keeps.eq Database.cash issue.reserve
  exact kept

theorem InvoiceIssue.recorded_cash {request : CreateInvoiceRequest} {onlinePickup : Bool} {id : Id}
    (issue : InvoiceIssue request onlinePickup now before id after) :
    after.cash = issue.recorded.cash := Keeps.eq Database.cash issue.close

theorem commits_assertInvoiceIsUnpaid {row : Invoice} {sales sales' : SalesStore} {result : Unit}
    (committed : Commits (assertInvoiceIsUnpaid row) sales result sales') :
    row.paymentStatus = .unpaid ∧ sales' = sales := by
  simpa [assertInvoiceIsUnpaid] using committed

theorem commits_assertNoUnresolvedOnlinePayment {invoiceId : Id} {result : Unit}
    (committed : Commits (assertNoUnresolvedOnlinePayment invoiceId) before result after) :
    (∀ attempt ∈ before.payments.attempts, attempt.invoiceId = invoiceId →
      attempt.status.isUnresolved = false) ∧ after = before := by
  simp only [assertNoUnresolvedOnlinePayment, commits_bind, commits_paymentTx, commits_findFirst,
    commits_require, Option.isNone_iff_eq_none] at committed
  obtain ⟨_, _, ⟨_, ⟨rfl, rfl⟩, rfl⟩, free, rfl⟩ := committed
  refine ⟨fun attempt membership own => ?_, rfl⟩
  simpa [own] using Table.first?_eq_none.mp free attempt membership

/-- The row that `updatePayment` leaves. -/
def settled (payment : PaymentMethod × Option Money) (total : Money) (employeeId shiftId : Id)
    (row : Invoice) : Invoice :=
  { row with
    paymentStatus := .paid
    paymentMethod := payment.1
    amountTendered := payment.2
    changeAmount := some ((payment.2.map (· - total)).getD 0)
    employeeId
    shiftId := some shiftId }

/-- The writes of `updatePayment` after its checks. -/
structure InvoicePayment (id employeeId : Id) (input : UpdateInvoicePaymentInput) (now : Timestamp)
    (before after : Database) where
  existing : Invoice
  session : OrderSession
  payment : PaymentMethod × Option Money
  shift : OpenCashierShiftContext
  paid : SalesStore
  reserved : Database
  recorded : Database
  found : before.sales.invoices.find? id = some existing
  sessioned : before.sales.sessions.find? existing.orderSessionId = some session
  unpaid : existing.paymentStatus = .unpaid
  walkIn : before.sales.onlineRequestOf existing.orderSessionId = none
  resolved : ∀ attempt ∈ before.payments.attempts, attempt.invoiceId = id →
    attempt.status.isUnresolved = false
  required : Commits (CashierShiftLedger.requireOpenShift employeeId) before.cash shift before.cash
  pay : Commits (do
    updateExpecting invoice id (fun _ => true)
      (settled payment existing.totalAmount employeeId shift.id)
      (.notFound "Record to update not found.")
    markItemsPaid id) before.sales () paid
  reserve : Commits (reserveInvoiceStock id now) { before with sales := paid } () reserved
  record : Commits (when (payment.1 = .cash) (CashierShiftLedger.recordCashInvoice {
    shift, invoiceId := id, employeeId, amount := existing.totalAmount } now)) reserved () recorded
  close : Commits (when input.closeSessionAfterPayment (salesTx (closeSessionIfFullyPaid session)))
    recorded () after

theorem commits_updatePayment {id employeeId : Id} {input : UpdateInvoicePaymentInput}
    (committed : Commits (updatePayment id employeeId input now) before () after) :
    Nonempty (InvoicePayment id employeeId input now before after) := by
  simp only [updatePayment, commits_bind] at committed
  obtain ⟨_, _, active, existing, _, loaded, session, _, sessioned, _, _, checked, _, _, allowed,
    _, _, settledAll, payment, _, resolution, shift, _, opened, _, _, pay, _, reserved, reserve,
    _, recorded, record, close⟩ := committed
  cases Respects.step (R := Eq) active
  obtain ⟨_, read, -⟩ := commits_salesTx.mp loaded
  obtain ⟨found, -⟩ := commits_findUniqueOrFail.mp read
  cases Respects.step (R := Eq) loaded
  obtain ⟨_, read, -⟩ := commits_salesTx.mp sessioned
  obtain ⟨located, -⟩ := commits_findUniqueOrFail.mp read
  cases Respects.step (R := Eq) sessioned
  obtain ⟨_, checks, -⟩ := commits_salesTx.mp checked
  obtain ⟨unpaid, -⟩ := commits_assertInvoiceIsUnpaid checks
  cases Respects.step (R := Eq) checked
  have walkIn : before.sales.onlineRequestOf existing.orderSessionId = none := by
    simp only [commits_salesTx, assertPosOrderMutationAllowed, commits_bind, commits_get,
      commits_require] at allowed
    obtain ⟨_, ⟨_, _, ⟨rfl, rfl⟩, free, -⟩, -⟩ := allowed
    simpa using free
  cases Respects.step (R := Eq) allowed
  obtain ⟨resolved, rfl⟩ := commits_assertNoUnresolvedOnlinePayment settledAll
  cases Respects.step (R := Eq) resolution
  obtain ⟨_, required, -⟩ := commits_cashTx.mp opened
  cases Respects.step (R := Eq) required
  cases Respects.step (R := Eq) opened
  obtain ⟨paid, pays, rfl⟩ := commits_salesTx.mp pay
  exact ⟨{ existing, session, payment, shift, paid, reserved, recorded, found, sessioned := located,
           unpaid, walkIn, resolved, required, pay := pays, reserve, record, close }⟩

theorem InvoicePayment.reserved_cash {id employeeId : Id} {input : UpdateInvoicePaymentInput}
    (payment : InvoicePayment id employeeId input now before after) :
    payment.reserved.cash = before.cash := by
  have kept := Keeps.eq Database.cash payment.reserve
  exact kept

theorem InvoicePayment.recorded_cash {id employeeId : Id} {input : UpdateInvoicePaymentInput}
    (payment : InvoicePayment id employeeId input now before after) :
    after.cash = payment.recorded.cash := Keeps.eq Database.cash payment.close

/-- The writes of `voidInvoice` after its checks. -/
structure InvoiceVoid (id : Id) (before after : Database) where
  existing : Invoice
  snapshot : InvoiceDocumentSnapshot
  found : before.sales.invoices.find? id = some existing
  unpaid : existing.paymentStatus = .unpaid
  resolved : ∀ attempt ∈ before.payments.attempts, attempt.invoiceId = id →
    attempt.status.isUnresolved = false
  sales_eq : after.sales = { before.sales with
    invoices := before.sales.invoices.update (fun row => row.id = id && true) fun row =>
      { row with
        paymentStatus := .voided
        documentSnapshot := row.documentSnapshot <|> some snapshot }
    items := before.sales.items.update (fun item => item.invoiceId = some id && !item.isPaid)
      fun item => { item with invoiceId := none, isPaid := false } }
  release : Commits (when (before.sales.onlineRequestOf existing.orderSessionId).isNone
      (inventoryTx (InventoryConsumption.releaseReservations ((before.sales.items.select fun item =>
        item.invoiceId = some id && item.serveStatus = .pending).map (·.id)))))
    { before with sales := after.sales } () after

theorem commits_voidInvoice {id employeeId : Id}
    (committed : Commits (voidInvoice id employeeId) before () after) :
    Nonempty (InvoiceVoid id before after) := by
  simp only [voidInvoice, commits_bind, commits_get] at committed
  obtain ⟨_, _, active, existing, _, loaded, _, _, checked, _, _, settledAll, _, _, ⟨rfl, rfl⟩,
    pending, _, voids, release⟩ := committed
  cases Respects.step (R := Eq) active
  obtain ⟨_, read, -⟩ := commits_salesTx.mp loaded
  obtain ⟨found, -⟩ := commits_findUniqueOrFail.mp read
  cases Respects.step (R := Eq) loaded
  obtain ⟨_, checks, -⟩ := commits_salesTx.mp checked
  obtain ⟨unpaid, -⟩ := commits_assertInvoiceIsUnpaid checks
  cases Respects.step (R := Eq) checked
  obtain ⟨resolved, rfl⟩ := commits_assertNoUnresolvedOnlinePayment settledAll
  simp only [commits_salesTx, commits_bind, commits_updateExpecting, commits_findMany,
    commits_updateMany, commits_pure] at voids
  obtain ⟨_, ⟨_, _, ⟨-, rfl⟩, _, _, ⟨rfl, rfl⟩, _, _, ⟨-, rfl⟩, rfl, rfl⟩, rfl⟩ := voids
  have sales : after.sales = _ := Keeps.eq Database.sales release
  refine ⟨{ existing, snapshot := _, found, unpaid, resolved, sales_eq := sales, release := ?_ }⟩
  rw [sales]
  exact release

end InvoicesService

end CoffeeShop
