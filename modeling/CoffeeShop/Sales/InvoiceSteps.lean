import CoffeeShop.Invoices.Effects
import CoffeeShop.Sales.OrderSteps

/-!
The steps of the invoice and online order services.
-/

namespace CoffeeShop

open Transaction SalesStore InvoicesService

namespace SalesSteps

set_option synthInstance.maxSize 100000

variable {refunds : Option PaymentMethod} {now : Timestamp} {id employeeId : Id}
variable {before after : SalesStore}

section Closing

/-- Only a takeaway session that owes nothing more is closed. -/
theorem closed {session : OrderSession} {result : Unit}
    (committed : Commits (closeSessionIfFullyPaid session) before result after)
    (sessioned : ∃ row, before.sessions.find? session.id = some row ∧
      row.tableId = session.tableId) : SalesSteps refunds before after := by
  simp only [closeSessionIfFullyPaid, commits_ite, commits_bind, commits_findMany, commits_pure,
    commits_updateExpecting] at committed
  obtain ⟨-, -, rfl⟩ | ⟨walkIn, _, store, ⟨rfl, rfl⟩, ⟨-, -, rfl⟩ | ⟨paid, -, rfl⟩⟩ := committed
  · exact .refl
  · exact .refl
  · obtain ⟨row, found, same⟩ := sessioned
    simp only [Bool.or_eq_true, not_or, Bool.not_eq_true, Option.isSome_eq_false_iff,
      Option.isNone_iff_eq_none] at walkIn
    have takeaway (other : OrderSession) (membership : other ∈ store.sessions)
        (closes : (other.id = session.id && other.sessionStatus = .active) = true) :
        other.id = session.id ∧ other.sessionStatus = .active ∧ other.tableId = none := by
      simp only [Bool.and_eq_true, decide_eq_true_eq] at closes
      obtain rfl := Table.eq_of_find? found membership closes.1
      exact ⟨closes.1, closes.2, same.trans walkIn.1⟩
    refine ended (fun other membership closes => (takeaway other membership closes).2)
      fun other membership closes => .inl ⟨rfl, fun item inItems own => ?_⟩
    obtain ⟨ids, -, free⟩ := takeaway other membership closes
    refine ⟨?_, fun atTable => by simp [free] at atTable⟩
    by_contra owes
    simp only [OrderItem.isDone, not_or] at owes
    refine paid (List.length_pos_of_mem (Table.mem_select.mpr ⟨inItems, ?_⟩))
    simp [own, ids, owes]

end Closing

section Issuing

variable {request : CreateInvoiceRequest} {catalog : Catalog} {session : OrderSession}
variable {draft : InvoiceDraft}

theorem commits_getInvoiceItems {orderSessionId : Id} {orderItemIds : Option (List Id)}
    {items : List OrderItem}
    (committed : Commits (getInvoiceItems orderSessionId orderItemIds) before items after) :
    (∃ condition, items = before.items.select condition) ∧
      (∀ item ∈ items, item.orderSessionId = orderSessionId) ∧ after = before := by
  unfold getInvoiceItems at committed
  cases orderItemIds with
  | none =>
      obtain ⟨rfl, rfl⟩ := commits_findMany.mp committed
      refine ⟨⟨_, rfl⟩, fun item selected => ?_, rfl⟩
      have holds := (Table.mem_select.mp selected).2
      simp only [Bool.and_eq_true, decide_eq_true_eq] at holds
      exact holds.1
  | some ids =>
      simp only [commits_bind, commits_require, commits_findMany, commits_pure] at committed
      obtain ⟨_, _, ⟨-, rfl⟩, _, _, ⟨rfl, rfl⟩, _, _, ⟨-, rfl⟩, rfl, rfl⟩ := committed
      refine ⟨⟨_, rfl⟩, fun item selected => ?_, rfl⟩
      have holds := (Table.mem_select.mp selected).2
      simp only [Bool.and_eq_true, decide_eq_true_eq] at holds
      exact holds.1

theorem commits_assertInvoiceItemsAreBillable {items : List OrderItem} {result : Unit}
    (committed : Commits (assertInvoiceItemsAreBillable items) before result after) :
    ∀ item ∈ items, isBillable item = true := by
  obtain ⟨_, _, -, checked⟩ := commits_bind.mp committed
  exact checked.forall_forEach fun item _ _ _ _ ran => (commits_require.mp ran).1

/-- What the checks establish of a draft. -/
structure Drafted (request : CreateInvoiceRequest) (session : OrderSession) (draft : InvoiceDraft)
    (sales : SalesStore) : Prop where
  session : draft.session = session
  selected : ∃ condition, draft.items = sales.items.select condition
  own : ∀ item ∈ draft.items, item.orderSessionId = request.input.orderSessionId
  billable : ∀ item ∈ draft.items, isBillable item = true
  subTotal : draft.calculation.subTotal = calculateSubTotal draft.items

theorem commits_draftInvoice
    (committed : Commits (draftInvoice request catalog session now) before draft after) :
    Drafted request session draft before := by
  simp only [draftInvoice, calculateInvoice, commits_bind, commits_pure, commits_require] at committed
  obtain ⟨items, _, read, _, _, checked, discount, _, -, calculation, _,
    ⟨_, _, -, _, _, -, _, _, -, rfl, -⟩, _, _, -, _, _, -, rfl, -⟩ := committed
  obtain ⟨selected, own, rfl⟩ := commits_getInvoiceItems read
  exact ⟨rfl, selected, own, commits_assertInvoiceItemsAreBillable checked, rfl⟩

/-- The items that the invoice is linked to are those of its draft. -/
theorem Drafted.links_iff (drafted : Drafted request session draft before)
    (named : request.input.orderSessionId = session.id) {item : OrderItem}
    (membership : item ∈ before.items) :
    (item.id ∈ draft.items.map (·.id) && item.orderSessionId = draft.session.id &&
      isBillable item) = true ↔ item ∈ draft.items := by
  constructor
  · intro linked
    simp only [Bool.and_eq_true, decide_eq_true_eq, List.mem_map] at linked
    obtain ⟨⟨⟨other, inDraft, equal⟩, -⟩, -⟩ := linked
    obtain ⟨condition, selected⟩ := drafted.selected
    have inStore : other ∈ before.items := by
      rw [selected] at inDraft
      exact (Table.mem_select.mp inDraft).1
    exact Table.eq_of_key_eq inStore membership equal ▸ inDraft
  · intro inDraft
    have own := drafted.own item inDraft
    have billable := drafted.billable item inDraft
    simp only [Bool.and_eq_true, decide_eq_true_eq]
    exact ⟨⟨List.mem_map_of_mem inDraft, by rw [own, named, drafted.session]⟩, billable⟩

/-- The subtotal of the draft is the exact sum of what it bills. -/
theorem Drafted.subTotal_eq (drafted : Drafted request session draft before)
    (named : request.input.orderSessionId = session.id)
    (fits : fitsColumn draft.calculation.subTotal = true)
    (nonneg : ∀ item ∈ before.items, 0 ≤ item.priceAtTime) :
    draft.calculation.subTotal = before.items.sumWhere
      (fun item => item.id ∈ draft.items.map (·.id) && item.orderSessionId = draft.session.id &&
        isBillable item) OrderItem.lineTotal := by
  obtain ⟨condition, selected⟩ := drafted.selected
  have same : before.items.select (fun item => item.id ∈ draft.items.map (·.id) &&
      item.orderSessionId = draft.session.id && isBillable item) = draft.items := by
    rw [selected]
    refine Table.select_congr fun item membership => ?_
    rw [← selected, Bool.eq_iff_iff, drafted.links_iff named membership, selected, Table.mem_select]
    simp [membership]
  rw [Table.sumWhere, same, drafted.subTotal]
  refine calculateSubTotal_eq (fun item inDraft => ?_) ?_
  · rw [selected] at inDraft
    exact nonneg item (Table.mem_select.mp inDraft).1
  · rw [drafted.subTotal] at fits
    exact of_decide_eq_true fits

theorem issued {shiftId : Option Id} {result : Unit}
    (committed : Commits (issueInvoice request catalog draft id shiftId now) before result after)
    (drafted : Drafted request session draft before)
    (named : request.input.orderSessionId = session.id)
    (status : request.paymentStatus = .unpaid ∨ request.paymentStatus = .paid) :
    SalesStep refunds before after := by
  simp only [issueInvoice, InvoiceNumberService.generate, commits_bind, commits_get, commits_pure,
    commits_insertInvoice, commits_updateMany, commits_require] at committed
  obtain ⟨_, _, ⟨rfl, rfl⟩, number, _, ⟨_, _, ⟨rfl, rfl⟩, -, rfl⟩, _, _,
    ⟨⟨fits, nonneg, -⟩, invoices, inserted, rfl⟩, _, _, ⟨-, rfl⟩, -, rfl⟩ := committed
  refine .invoiceIssued (fun item => item.id ∈ draft.items.map (·.id) &&
    item.orderSessionId = draft.session.id && isBillable item) status (fun item _ linked => ?_)
    (fun prices => drafted.subTotal_eq named ?_ prices) (nonneg _ (by simp [amountsOf])) inserted
  · simp only [isBillable, Bool.and_eq_true, decide_eq_true_eq] at linked
    obtain ⟨⟨-, own⟩, ⟨live, unpaid⟩, free⟩ := linked
    exact ⟨by simp [OrderItem.isOpen, unpaid, free], live, own⟩
  · simp only [amountsOf, List.all_append, List.all_cons, Bool.and_eq_true] at fits
    exact fits.1.1.1

end Issuing

section Sessions

instance : Apart SalesStore.sessions invoice := ⟨fun _ _ => rfl⟩
instance : Apart SalesStore.sessions orderItem := ⟨fun _ _ => rfl⟩
instance : Apart SalesStore.sessions recipeIngredient := ⟨fun _ _ => rfl⟩

/-- The sessions are the same. -/
abbrev SessionsKept : Database → Database → Prop := On Database.sales (On SalesStore.sessions Eq)

instance reserveInvoiceStock_sessions {invoiceId : Id} :
    Respects SessionsKept (reserveInvoiceStock invoiceId now) := by
  unfold reserveInvoiceStock InventoryConsumption.reservePendingItems
    InventoryConsumption.snapshotLegacyRecipes
  infer_instance

instance issueInvoice_sessions {request : CreateInvoiceRequest} {catalog : Catalog}
    {draft : InvoiceDraft} {shiftId : Option Id} : Respects (On SalesStore.sessions Eq)
      (issueInvoice request catalog draft id shiftId now) := by
  dsimp only [issueInvoice, InvoiceNumberService.generate, insertInvoice]
  infer_instance

instance reserveInvoiceStock {invoiceId : Id} :
    Respects (Taken refunds) (reserveInvoiceStock invoiceId now) := by
  unfold InvoicesService.reserveInvoiceStock
  infer_instance

end Sessions

section Paying

variable {request : CreateInvoiceRequest}

theorem closing {condition : Prop} [Decidable condition] {session : OrderSession} {result : Unit}
    {start final : Database}
    (committed : Commits (when condition (salesTx (closeSessionIfFullyPaid session))) start result
      final) (found : start.sales.sessions.find? session.id = some session) :
    SalesSteps refunds start.sales final.sales := by
  rcases commits_when.mp committed with ⟨-, ran⟩ | ⟨-, rfl⟩
  · obtain ⟨_, closes, rfl⟩ := commits_salesTx.mp ran
    exact closed closes ⟨session, found, rfl⟩
  · exact .refl

theorem created {onlinePickup : Bool} {start final : Database}
    (issue : InvoiceIssue request onlinePickup now start id final)
    (status : request.paymentStatus = .unpaid ∨ request.paymentStatus = .paid) :
    SalesSteps refunds start.sales final.sales := by
  have drafted := commits_draftInvoice issue.drafted
  have named : request.input.orderSessionId = issue.session.id :=
    (Table.find?_key issue.found).symm
  have written : SalesStep refunds start.sales issue.issued :=
    issued issue.issue drafted named status
  have reserved : SalesSteps refunds issue.issued issue.reserved.sales :=
    reserveInvoiceStock.step issue.reserve
  have recorded := Keeps.eq Database.sales issue.record
  have sessions : start.sales.sessions = issue.recorded.sales.sessions := by
    rw [recorded]
    exact (issueInvoice_sessions.step issue.issue).trans
      (reserveInvoiceStock_sessions.step issue.reserve)
  refine .head written (reserved.trans ?_)
  rw [← recorded]
  refine closing issue.close ?_
  rw [← sessions, ← named]
  exact issue.found

/-- The invoice is paid with all of its items. -/
theorem paid {existing : Invoice} {guard : Invoice → Bool} {change : Invoice → Invoice}
    {keeps : ∀ row, (change row).id = row.id} {failure : Failure} {result : Unit}
    (committed : Commits (do
      updateExpecting invoice id guard change failure keeps
      markItemsPaid id) before result after)
    (found : before.invoices.find? id = some existing) (unpaid : existing.paymentStatus = .unpaid)
    (passes : guard existing = true)
    (pays : ∀ row : Invoice, row.Agrees (change row) ∧ (change row).paymentStatus = .paid) :
    SalesStep refunds before after ∧ after.sessions = before.sessions := by
  simp only [markItemsPaid, commits_bind, commits_updateExpecting, commits_updateMany,
    commits_pure] at committed
  obtain ⟨_, _, ⟨-, rfl⟩, _, _, ⟨-, rfl⟩, -, rfl⟩ := committed
  refine ⟨.invoicePaid id (fun row => row.id = id && guard row) change keeps
    (fun row membership => ?_) ⟨existing, found, unpaid⟩ fun row _ _ => pays row, rfl⟩
  constructor
  · intro holds
    simp only [Bool.and_eq_true, decide_eq_true_eq] at holds
    exact holds.1
  · intro equal
    rw [Table.eq_of_find? found membership equal]
    simp [Table.find?_key found, passes]

instance updatePayment {input : UpdateInvoicePaymentInput} :
    Respects (Taken refunds) (updatePayment id employeeId input now) where
  step start result final committed := by
    obtain ⟨payment⟩ := commits_updatePayment committed
    have settled : SalesStep refunds start.sales payment.paid ∧
        payment.paid.sessions = start.sales.sessions :=
      paid payment.pay payment.found payment.unpaid rfl fun row => ⟨⟨rfl, rfl, rfl, rfl⟩, rfl⟩
    obtain ⟨written, kept⟩ := settled
    have reserved : SalesSteps refunds payment.paid payment.reserved.sales :=
      reserveInvoiceStock.step payment.reserve
    have recorded := Keeps.eq Database.sales payment.record
    have sessions : start.sales.sessions = payment.recorded.sales.sessions := by
      rw [recorded]
      exact kept.symm.trans (reserveInvoiceStock_sessions.step payment.reserve)
    refine .head written (reserved.trans ?_)
    rw [← recorded]
    refine closing payment.close ?_
    rw [← sessions, Table.find?_key payment.sessioned]
    exact payment.sessioned

instance voidInvoice : Respects (Taken refunds) (voidInvoice id employeeId) where
  step start result final committed := by
    obtain ⟨void⟩ := commits_voidInvoice committed
    unfold Taken On
    rw [void.sales_eq]
    exact .single (.invoiceVoided id (fun row => { row with
      paymentStatus := .voided
      documentSnapshot := row.documentSnapshot <|> some void.snapshot }) (fun _ => rfl)
      ⟨void.existing, void.found, void.unpaid⟩ fun row _ => ⟨⟨rfl, rfl, rfl, rfl⟩, rfl⟩)

instance createInvoice {input : CreateInvoiceInput} :
    Respects (Taken refunds) (createInvoice employeeId input now) where
  step start result final committed := by
    obtain ⟨id, _, creates, last⟩ := commits_bind.mp committed
    obtain ⟨-, rfl⟩ := commits_pure.mp last
    obtain ⟨issue⟩ := commits_createInvoiceInTransaction creates
    exact created issue (.inl rfl)

instance checkoutInvoice {input : CheckoutInvoiceInput} :
    Respects (Taken refunds) (checkoutInvoice employeeId input now) where
  step start result final committed := by
    obtain ⟨_, _, checked, rest⟩ := commits_bind.mp committed
    obtain ⟨-, rfl⟩ := commits_require.mp checked
    obtain ⟨id, _, creates, last⟩ := commits_bind.mp rest
    obtain ⟨-, rfl⟩ := commits_pure.mp last
    obtain ⟨issue⟩ := commits_createInvoiceInTransaction creates
    exact created issue (.inr rfl)

end Paying

section Refunding

theorem refundedCash {found : Invoice} {status : PaymentStatus} {failure : Failure}
    {result : Unit}
    (committed : Commits (updateExpecting invoice id
      (fun row => row.paymentStatus = found.paymentStatus)
      (fun row => { row with paymentStatus := status }) failure) before result after)
    (located : before.invoices.find? id = some found) (cash : found.paymentMethod = .cash)
    (paid : found.paymentStatus.isSettled = true) (settled : status.isSettled = true) :
    SalesSteps (some .cash) before after := by
  obtain ⟨-, rfl⟩ := commits_updateExpecting.mp committed
  refine .single (.invoicesRefunded _ .cash status rfl settled fun row membership holds => ?_)
  simp only [Bool.and_eq_true, decide_eq_true_eq] at holds
  obtain rfl := Table.eq_of_find? located membership holds.1
  exact ⟨paid, fun _ => cash⟩

instance refundCash {input : CreateCashRefundInput} :
    Respects (Taken (some .cash)) (CashRefunds.create id employeeId input now) := by
  have creates : Respects (Taken (some .cash)) (CashRefunds.createRefund id employeeId input now) :=
    ⟨by
    intro start result final committed
    simp only [CashRefunds.createRefund, CashRefunds.assertRefundable, commits_bind, commits_get,
      commits_require] at committed
    obtain ⟨_, _, ⟨rfl, rfl⟩, found, store, loaded, _, _, ⟨_, _, ⟨⟨cash, paid⟩, rfl⟩, _, _, ⟨-, rfl⟩, -, rfl⟩,
      _, _, ⟨-, rfl⟩, shift, _, opened, _, _, ⟨-, rfl⟩, _, _, moved, _, _, drawn, _, _, posted,
      refunding⟩ := committed
    obtain ⟨_, read, -⟩ := commits_salesTx.mp loaded
    obtain ⟨located, -⟩ := commits_findUniqueOrFail.mp read
    cases Respects.step (R := Eq) loaded
    cases Respects.step (R := Eq) opened
    have kept := (Keeps.eq Database.sales posted).trans
      ((Keeps.eq Database.sales drawn).trans (Keeps.eq Database.sales moved))
    obtain ⟨written, refunds, rfl⟩ := commits_salesTx.mp refunding
    rw [kept] at refunds
    refine refundedCash refunds located cash ?_ ?_
    · rcases paid with paid | part
      · rw [paid]
        rfl
      · rw [part]
        rfl
    · split
      · rfl
      · rfl⟩
  unfold CashRefunds.create
  infer_instance

end Refunding

section Payments

variable {attempt : PaymentAttempt}

instance completeOnlinePayment {input : CompleteOnlinePaymentInput} :
    Respects (SalesSteps refunds) (InvoicesService.completeOnlinePayment input) where
  step before result after committed := by
    simp only [InvoicesService.completeOnlinePayment, findInvoice, findSessionOf,
      assertInvoiceIsUnpaid, commits_bind, commits_findUniqueOrFail, commits_require] at committed
    obtain ⟨existing, _, ⟨found, rfl⟩, session, _, ⟨located, rfl⟩, _, _, ⟨unpaid, rfl⟩, _, _, pays, _,
      _, marks, closes⟩ := committed
    rw [← Table.find?_key found] at found
    obtain ⟨written, kept⟩ := paid (commits_bind.mpr ⟨_, _, pays, marks⟩) found unpaid
      (by simp [unpaid]) fun row => ⟨⟨rfl, rfl, rfl, rfl⟩, rfl⟩
    refine .head written ?_
    rcases commits_when.mp closes with ⟨-, closes⟩ | ⟨-, rfl⟩
    · refine closed closes ⟨session, ?_, rfl⟩
      rw [kept, Table.find?_key located]
      exact located
    · exact .refl

instance completeInvoice :
    Respects (Taken refunds) (PaymentsService.completeInvoice attempt) := by
  unfold PaymentsService.completeInvoice
  infer_instance

instance confirmProviderPayment {found : AttemptView} {number : Option String} :
    Respects (Taken refunds) (PaymentReconciliation.confirmProviderPayment found number now) := by
  dsimp only [PaymentReconciliation.confirmProviderPayment]
  infer_instance

instance applyResponse {response : PaymentReconciliation.ProviderResponse} :
    Respects (Taken refunds) (PaymentReconciliation.applyResponse attempt response now) := by
  unfold PaymentReconciliation.applyResponse
  split
  · dsimp only [PaymentReconciliation.applyQueryResponse]
    infer_instance
  · dsimp only [PaymentReconciliation.applyMomoResponse]
    infer_instance
  · dsimp only [PaymentReconciliation.applyPayosResponse]
    infer_instance
  · infer_instance

instance completeSuccessfulRefund {refund : PaymentRefund} {response : VnpayRefundResponse} :
    Respects (Taken (some .transfer))
      (PaymentRefunds.completeSuccessfulRefund attempt refund response now) := by
  have settles (status : PaymentStatus) (settled : status.isSettled = true) :
      Respects (SalesSteps (some .transfer)) (updateMany invoice
        (fun invoice => invoice.id = attempt.invoiceId && PaymentRefunds.isRefundable invoice)
        (fun invoice => { invoice with paymentStatus := status }) : Tx SalesStore Failure Nat) := ⟨by
    intro before result after committed
    obtain ⟨-, rfl⟩ := commits_updateMany.mp committed
    refine .single (.invoicesRefunded _ .transfer status rfl settled fun row _ holds => ?_)
    simp only [PaymentRefunds.isRefundable, Bool.and_eq_true, Bool.or_eq_true,
      decide_eq_true_eq] at holds
    refine ⟨?_, fun never => PaymentMethod.noConfusion never⟩
    rcases holds.2 with paid | part
    · rw [paid]
      rfl
    · rw [part]
      rfl⟩
  have targets (total : Money) : Respects (SalesSteps (some .transfer)) (updateMany invoice
      (fun invoice => invoice.id = attempt.invoiceId && PaymentRefunds.isRefundable invoice)
      (fun invoice => { invoice with
        paymentStatus := if attempt.amount ≤ total then .refunded else .partiallyRefunded }) :
      Tx SalesStore Failure Nat) := settles _ (by split <;> rfl)
  dsimp only [PaymentRefunds.completeSuccessfulRefund]
  infer_instance

instance applyProviderResponse {refundId requestId : Id} {response : VnpayRefundResponse} :
    Respects (Taken (some .transfer))
      (PaymentRefunds.applyProviderResponse refundId requestId response now) := by
  unfold PaymentRefunds.applyProviderResponse
  infer_instance

end Payments

section Online

variable {session : OrderSession} {items : List OrderItem} {request : OnlineOrderRequest}

instance createOnlineTakeawaySession {inputs : List OrderItemInput}
    {quotes : List OnlineOrderQuote} {pickupAt : Option Timestamp} : Respects (Taken refunds)
      (OrdersService.createOnlineTakeawaySession employeeId inputs quotes pickupAt now) := by
  unfold OrdersService.createOnlineTakeawaySession InventoryConsumption.reserveSession
  infer_instance

instance accept : Respects (Taken refunds) (OnlineOrders.accept id employeeId now) := by
  unfold OnlineOrders.accept OnlineOrders.findRequest
  infer_instance

/-- With all open items in the list, nothing of the session is left. -/
theorem cancelledItems {cancellable : ServeStatus → Bool} {failure : Failure} {result : Unit}
    (committed : Commits (OnlineOrders.cancelItems session items cancellable failure) before result
      after)
    (all : ∀ item ∈ before.items, item.orderSessionId = session.id →
      item.serveStatus = .cancelled ∨
        item ∈ items ∧ cancellable item.serveStatus = true ∧ item.isOpen = true) :
    SalesSteps refunds before after ∧ session.MayCancel after.items ∧
      after.sessions = before.sessions := by
  simp only [OnlineOrders.cancelItems, commits_bind, commits_updateMany, commits_require] at committed
  obtain ⟨_, _, ⟨-, rfl⟩, -, rfl⟩ := committed
  refine ⟨.single (.itemsCancelled (fun item => item.id ∈ items.map (·.id) &&
    item.orderSessionId = session.id && cancellable item.serveStatus && !item.isPaid &&
      item.invoiceId.isNone) (·.note) fun item _ holds => ?_), fun item inItems own => ?_, rfl⟩
  · simp only [Bool.and_eq_true, Option.isNone_iff_eq_none] at holds
    exact holds.2
  · simp only [orderItem, Table.mem_update] at inItems
    obtain ⟨old, inStore, rfl⟩ := inItems
    split
    · rfl
    · next kept =>
        rw [if_neg kept] at own
        rcases all old inStore own with dead | ⟨listed, status, unpaid⟩
        · exact dead
        · have named : old.id ∈ items.map (·.id) := List.mem_map_of_mem listed
          simp only [OrderItem.isOpen, Bool.and_eq_true] at unpaid
          simp [named, own, status, unpaid] at kept

theorem closedCancelled {reason : String} {noShow : Bool} {result : Unit}
    (committed : Commits (OnlineOrders.closeCancelled id session reason noShow now) before result
      after)
    (found : before.sessions.find? session.id = some session) (takeaway : session.tableId = none)
    (cancelled : session.MayCancel before.items) : SalesSteps refunds before after := by
  simp only [OnlineOrders.closeCancelled, commits_bind, commits_updateExpecting] at committed
  obtain ⟨_, _, ⟨-, rfl⟩, -, rfl⟩ := committed
  have closing : SalesSteps refunds before { before with
      sessions := before.sessions.update
        (fun row => row.id = session.id && row.sessionStatus = .active)
        fun row => { row with sessionStatus := .cancelled } } := by
    refine ended (fun other membership closes => ?_) fun other membership closes => .inr ⟨rfl, ?_⟩
    all_goals simp only [Bool.and_eq_true, decide_eq_true_eq] at closes
    all_goals obtain rfl := Table.eq_of_find? found membership closes.1
    · exact ⟨closes.2, takeaway⟩
    · exact cancelled
  exact closing.trans (of_billed_eq rfl)

/-- What an open accepted session is. -/
theorem commits_findAcceptedSession {failure : Failure} {found : OrderSession × List OrderItem}
    (committed : Commits (OnlineOrders.findAcceptedSession request failure) before found after) :
    before.sessions.find? found.1.id = some found.1 ∧ found.1.tableId = none ∧
      found.2 = before.items.select (fun item => item.orderSessionId = found.1.id) ∧
      after = before := by
  simp only [OnlineOrders.findAcceptedSession, commits_bind, commits_require, commits_orFail,
    commits_findUniqueOrFail, commits_findMany, commits_pure] at committed
  obtain ⟨_, _, ⟨-, rfl⟩, sessionId, _, ⟨-, rfl⟩, session, _, ⟨located, rfl⟩, _, _,
    ⟨⟨takeaway, -⟩, rfl⟩, _, _, ⟨rfl, rfl⟩, rfl, rfl⟩ := committed
  refine ⟨?_, Option.isNone_iff_eq_none.mp takeaway, rfl, rfl⟩
  rw [Table.find?_key located]
  exact located

instance cancelUnprepared :
    Respects (Taken refunds) (OnlineOrders.cancelUnprepared request now) where
  step start result final committed := by
    simp only [OnlineOrders.cancelUnprepared, commits_bind, commits_require] at committed
    obtain ⟨_, store, ⟨-, rfl⟩, found, _, read, _, _, ⟨⟨-, pending⟩, rfl⟩, _, _, unclaimed, _, _, cancels,
      released⟩ := committed
    obtain ⟨_, reads, rfl⟩ := commits_salesTx.mp read
    obtain ⟨located, takeaway, items, rfl⟩ := commits_findAcceptedSession reads
    obtain ⟨_, writes, rfl⟩ := commits_salesTx.mp cancels
    obtain ⟨_, middle, cancelling, closing⟩ := commits_bind.mp writes
    rw [Keeps.eq Database.sales unclaimed] at cancelling
    have owed (item : OrderItem) (membership : item ∈ store.sales.items)
        (own : item.orderSessionId = found.1.id) :
        item ∈ found.2 ∧ decide (item.serveStatus = .pending) = true ∧ item.isOpen = true := by
      have listed : item ∈ found.2 := by
        rw [items]
        exact Table.mem_select.mpr ⟨membership, by simpa using own⟩
      obtain ⟨status, unpaid, free⟩ := pending item listed
      exact ⟨listed, by simp [status], by simp_all [OrderItem.isOpen]⟩
    obtain ⟨steps, cancelled, kept⟩ :=
      cancelledItems cancelling fun item membership own => .inr (owed item membership own)
    unfold Taken On
    rw [Keeps.eq Database.sales released]
    refine steps.trans (closedCancelled closing ?_ takeaway cancelled)
    rw [kept]
    exact located

instance cancelPublicRequest :
    Respects (Taken refunds) (OnlineOrders.cancelPublicRequest id now) := by
  unfold OnlineOrders.cancelPublicRequest OnlineOrders.findRequest
  infer_instance

instance cancelAcceptedRequest {reason : String} {noShow : Bool} :
    Respects (Taken refunds)
      (OnlineOrders.cancelAcceptedRequest id employeeId reason noShow now) where
  step start result final committed := by
    simp only [OnlineOrders.cancelAcceptedRequest, commits_bind, commits_ite, commits_require,
      commits_pure] at committed
    obtain ⟨_, _, reviewed, request, _, read, ⟨-, -, rfl⟩ | ⟨-, found, _, loaded, _, _, ⟨owing, rfl⟩,
      _, _, ⟨-, rfl⟩, _, _, wasted, _, _, cancels, _, _, released, _, _, printed, closes⟩⟩ := committed
    · cases Respects.step (R := Eq) reviewed
      cases Respects.step (R := Eq) read
      exact Std.Refl.refl (r := Taken refunds) start
    · cases Respects.step (R := Eq) reviewed
      cases Respects.step (R := Eq) read
      obtain ⟨_, reads, rfl⟩ := commits_salesTx.mp loaded
      obtain ⟨located, takeaway, items, rfl⟩ := commits_findAcceptedSession reads
      obtain ⟨_, cancelling, rfl⟩ := commits_salesTx.mp cancels
      obtain ⟨_, closing, rfl⟩ := commits_salesTx.mp closes
      rw [Keeps.eq Database.sales wasted] at cancelling
      rw [Keeps.eq Database.sales printed, Keeps.eq Database.sales released] at closing
      have owed (item : OrderItem) (membership : item ∈ start.sales.items)
          (own : item.orderSessionId = found.1.id) : item.serveStatus = .cancelled ∨
            item ∈ found.2.filter (fun item => item.serveStatus ≠ .cancelled) ∧
              OnlineOrders.isUncollected item.serveStatus = true ∧ item.isOpen = true := by
        have listed : item ∈ found.2 := by
          rw [items]
          exact Table.mem_select.mpr ⟨membership, by simpa using own⟩
        have free := owing item listed
        by_cases dead : item.serveStatus = .cancelled
        · exact .inl dead
        · refine .inr ⟨List.mem_filter.mpr ⟨listed, by simpa using dead⟩, ?_, ?_⟩
          · cases status : item.serveStatus <;> simp_all [OnlineOrders.isUncollected]
          · simp_all [OrderItem.isOpen]
      obtain ⟨steps, cancelled, kept⟩ := cancelledItems cancelling owed
      refine steps.trans (closedCancelled closing ?_ takeaway cancelled)
      rw [kept]
      exact located

instance collect {amountTendered : Money} :
    Respects (Taken refunds) (OnlineOrders.collect id employeeId amountTendered now) := by
  have collects (session : OrderSession) (items : List OrderItem) (invoiceId : Id) :
      Respects (SalesSteps refunds) (updateMany orderItem
        (fun item => item.id ∈ items.map (·.id) && item.orderSessionId = session.id &&
          item.serveStatus = .ready && item.isPaid && item.invoiceId = some invoiceId)
        (fun item => { item with serveStatus := .served }) : Tx SalesStore Failure Nat) := by
    refine advance fun row holds => ?_
    simp only [Bool.and_eq_true, decide_eq_true_eq] at holds
    obtain ⟨⟨⟨-, ready⟩, -⟩, -⟩ := holds
    exact ⟨rfl, rfl, rfl, rfl, rfl, rfl, by simp [ready], fun served => by simp [ready] at served, rfl⟩
  have checksOut (orderSessionId : Id) : Respects (Taken refunds)
      (checkoutOnlinePickupInTransaction employeeId orderSessionId amountTendered now) := ⟨by
    intro start id final committed
    obtain ⟨issue⟩ := commits_createInvoiceInTransaction committed
    exact created issue (.inr rfl)⟩
  dsimp only [OnlineOrders.collect, OnlineOrders.findRequest]
  infer_instance

end Online

end SalesSteps

end CoffeeShop
