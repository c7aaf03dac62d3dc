import CoffeeShop.Payments.AttemptRuns
import CoffeeShop.Payments.RefundSteps

/-!
Refunds never exceed their payment, and the invoice shows what was refunded.

A refund counts as long as its outcome may still be a success.  One that may is not yet
succeeded, so an answer moves its amount from what is reserved to what is refunded, and
only one call can answer.
-/

namespace CoffeeShop

open Transaction PaymentStore PaymentRefunds

/-- The status of an invoice after refunds of the total. -/
def refundedStatus (amount total : Money) : PaymentStatus :=
  if total = 0 then .paid else if amount ≤ total then .refunded else .partiallyRefunded

/-- A refund that was claimed has its only call, and it is open until the call is answered. -/
structure RefundCalls (store : PaymentStore) : Prop where
  called : ∀ call ∈ store.refundCalls, ∃ refund,
    store.refunds.find? call.paymentRefundId = some refund ∧ refund.status ≠ .pending ∧
      (call.answered = false → refund.status = .processing ∨ refund.status = .requiresReview)
  single : ∀ call ∈ store.refundCalls, ∀ other ∈ store.refundCalls,
    call.paymentRefundId = other.paymentRefundId → call.requestId = other.requestId

namespace RefundCalls

variable {before after : PaymentStore} {refund next : PaymentRefund} {call : RefundCall}

theorem empty : RefundCalls PaymentStore.empty where
  called _ member := (Table.not_mem_empty member).elim
  single _ member := (Table.not_mem_empty member).elim

/-- The refund of a call without an answer may still succeed. -/
theorem open_ (calls : RefundCalls before) (member : call ∈ before.refundCalls)
    (isRefund : refund ∈ before.refunds) (own : call.paymentRefundId = refund.id)
    (waits : call.answered = false) :
    isReserved refund.status = true ∧ refund.status ≠ .succeeded := by
  obtain ⟨called, found, -, unanswered⟩ := calls.called call member
  rw [own, Table.find?_of_mem isRefund] at found
  cases found
  obtain status | status := unanswered waits
  · rw [status]
    exact ⟨rfl, by decide⟩
  · rw [status]
    exact ⟨rfl, by decide⟩

/-- The calls of a replaced refund stay, if it was not to be called yet. -/
theorem replaced (calls : RefundCalls before)
    (replaces : before.refunds.Replaces refund next after.refunds)
    (same : after.refundCalls = before.refundCalls) (ended : next.status ≠ .pending)
    (open_ : refund.status = .processing ∨ refund.status = .requiresReview →
      next.status = .processing ∨ next.status = .requiresReview) : RefundCalls after where
  called call member := by
    rw [same] at member
    obtain ⟨called, found, claimed, waits⟩ := calls.called call member
    rw [replaces.find?]
    by_cases own : call.paymentRefundId = refund.id
    · rw [own, Table.find?_of_mem replaces.member] at found
      cases found
      rw [if_pos own]
      exact ⟨next, rfl, ended, open_ ∘ waits⟩
    · rw [if_neg own]
      exact ⟨called, found, claimed, waits⟩
  single := by
    rw [same]
    exact calls.single

/-- A pending refund is claimed, so the call for it is its first. -/
theorem submitted (calls : RefundCalls before) (pending : refund.status = .pending)
    (processing : next.status = .processing)
    (replaces : before.refunds.Replaces refund next after.refunds)
    (own : call.paymentRefundId = refund.id)
    (inserted : before.refundCalls.insert? call = some after.refundCalls) : RefundCalls after := by
  have uncalled : ∀ other ∈ before.refundCalls, other.paymentRefundId ≠ refund.id := by
    intro other member same
    obtain ⟨called, found, claimed, -⟩ := calls.called other member
    rw [same, Table.find?_of_mem replaces.member] at found
    cases found
    exact claimed pending
  constructor
  · intro other member
    rw [replaces.find?]
    obtain old | rfl := (Table.mem_insert? inserted).mp member
    · rw [if_neg (uncalled other old)]
      exact calls.called other old
    · rw [if_pos own]
      refine ⟨next, rfl, ?_, fun _ => .inl processing⟩
      rw [processing]
      decide
  · intro first firstMember second secondMember same
    obtain firstOld | rfl := (Table.mem_insert? inserted).mp firstMember
    · obtain secondOld | rfl := (Table.mem_insert? inserted).mp secondMember
      · exact calls.single first firstOld second secondOld same
      · exact absurd (same.trans own) (uncalled first firstOld)
    · obtain secondOld | rfl := (Table.mem_insert? inserted).mp secondMember
      · exact absurd (same.symm.trans own) (uncalled second secondOld)
      · rfl

/-- The only call of a refund is answered. -/
theorem answered (calls : RefundCalls before) (own : call.paymentRefundId = refund.id)
    (ended : next.status ≠ .pending)
    (replaces : before.refunds.Replaces refund next after.refunds)
    (answers : before.refundCalls.Replaces call { call with answered := true } after.refundCalls) :
    RefundCalls after where
  called other member := by
    rw [replaces.find?]
    obtain rfl | ⟨old, differs⟩ := answers.mem_iff.mp member
    · rw [if_pos own]
      exact ⟨next, rfl, ended, fun waits => by cases waits⟩
    · rw [if_neg fun same =>
        differs (calls.single other old call answers.member (same.trans own.symm))]
      exact calls.called other old
  single first firstMember second secondMember same := by
    obtain rfl | ⟨firstOld, firstDiffers⟩ := answers.mem_iff.mp firstMember
    · obtain rfl | ⟨secondOld, secondDiffers⟩ := answers.mem_iff.mp secondMember
      · rfl
      · exact calls.single call answers.member second secondOld same
    · obtain rfl | ⟨secondOld, secondDiffers⟩ := answers.mem_iff.mp secondMember
      · exact calls.single first firstOld call answers.member same
      · exact calls.single first firstOld second secondOld same

theorem move (calls : RefundCalls before) (move : RefundMove before after) : RefundCalls after := by
  cases move with
  | kept same =>
      simp only [refundState, Prod.mk.injEq] at same
      obtain ⟨refunds, refundCalls⟩ := same
      exact ⟨by rw [refunds, refundCalls]; exact calls.called, by rw [refundCalls]; exact calls.single⟩
  | requested found succeeded pending positive fits inserted same =>
      constructor
      · intro call member
        rw [same] at member
        obtain ⟨called, found, claimed, waits⟩ := calls.called call member
        refine ⟨called, ?_, claimed, waits⟩
        rw [← Table.find?_key found]
        exact Table.find?_of_mem ((Table.mem_insert? inserted).mpr (.inl (Table.mem_of_find? found)))
      · rw [same]
        exact calls.single
  | submitted asks pending processing replaces own called =>
      exact calls.submitted pending processing replaces own called
  | answered asks own waits ended unsuccessful replaces answers =>
      exact calls.answered own ended replaces answers
  | abandoned asks processing review replaces same =>
      refine calls.replaced replaces same ?_ fun _ => .inr review
      rw [review]
      decide

end RefundCalls

/-- What the refunds, the calls and the attempts have to do with each other. -/
structure RefundBooks (store : PaymentStore) : Prop where
  ofPayment : ∀ refund ∈ store.refunds, ∃ attempt,
    store.attempts.find? refund.paymentAttemptId = some attempt ∧ attempt.status = .succeeded
  positive : ∀ refund ∈ store.refunds, 0 < refund.amount
  within : ∀ attempt ∈ store.attempts, refundTotal store attempt.id isReserved ≤ attempt.amount
  calls : RefundCalls store

/-- The changes of the refunds, with the status that a refund may reach. -/
inductive RefundChange (reaches : PaymentRefundStatus → Prop) (before after : PaymentStore) : Prop
  | kept (refunds : after.refunds = before.refunds)
  | requested {refund : PaymentRefund} {attempt : PaymentAttempt}
      (found : before.attempts.find? refund.paymentAttemptId = some attempt)
      (succeeded : attempt.status = .succeeded) (pending : refund.status = .pending)
      (positive : 0 < refund.amount)
      (fits : refund.amount ≤ attempt.amount - refundTotal before attempt.id isReserved)
      (inserted : before.refunds.insert? refund = some after.refunds)
  | replaced {refund next : PaymentRefund} (asks : refund.Asks next)
      (reserved : isReserved refund.status = true) (waiting : refund.status ≠ .succeeded)
      (reached : reaches next.status) (replaces : before.refunds.Replaces refund next after.refunds)

namespace RefundBooks

variable {before after : PaymentStore}

theorem empty : RefundBooks PaymentStore.empty where
  ofPayment _ member := (Table.not_mem_empty member).elim
  positive _ member := (Table.not_mem_empty member).elim
  within _ member := (Table.not_mem_empty member).elim
  calls := .empty

theorem change (books : RefundBooks before) (move : RefundMove before after) :
    RefundChange (fun status => status ≠ .pending ∧ status ≠ .succeeded) before after := by
  cases move with
  | kept same => exact .kept (congrArg Prod.fst same)
  | requested found succeeded pending positive fits inserted calls =>
      exact .requested found succeeded pending positive fits inserted
  | submitted asks pending processing replaces own called =>
      refine .replaced asks ?_ ?_ ?_ replaces
      · rw [pending]
        rfl
      · rw [pending]
        decide
      · rw [processing]
        decide
  | answered asks own waits ended unsuccessful replaces calls =>
      obtain ⟨reserved, waiting⟩ := books.calls.open_ calls.member replaces.member own waits
      exact .replaced asks reserved waiting ⟨ended, unsuccessful⟩ replaces
  | abandoned asks processing review replaces calls =>
      refine .replaced asks ?_ ?_ ?_ replaces
      · rw [processing]
        rfl
      · rw [processing]
        decide
      · rw [review]
        decide

variable {reaches : PaymentRefundStatus → Prop}

section Totals

variable {counts : PaymentRefundStatus → Bool} {id : Id} {refund next : PaymentRefund}

theorem refundTotal_eq (same : after.refunds = before.refunds) :
    refundTotal after id counts = refundTotal before id counts := by
  unfold refundTotal
  rw [same]

theorem refundTotal_insert (inserted : before.refunds.insert? refund = some after.refunds) :
    refundTotal after id counts = refundTotal before id counts +
      if refund.paymentAttemptId = id && counts refund.status then refund.amount else 0 :=
  Table.sumWhere_insert? inserted

/-- A replaced refund moves its amount. -/
theorem refundTotal_replace (asks : refund.Asks next)
    (replaces : before.refunds.Replaces refund next after.refunds) :
    refundTotal after id counts + (if refund.paymentAttemptId = id && counts refund.status then
        refund.amount else 0) =
      refundTotal before id counts + if refund.paymentAttemptId = id && counts next.status then
        refund.amount else 0 := by
  have moved := replaces.sumWhere
    (fun row => row.paymentAttemptId = id && counts row.status) (·.amount)
  rw [asks.attempt, asks.amount] at moved
  exact moved

end Totals

/-- Every refund is of a payment that was confirmed before. -/
theorem source (books : RefundBooks before) (change : RefundChange reaches before after) :
    ∀ refund ∈ after.refunds, 0 < refund.amount ∧ ∃ attempt,
      before.attempts.find? refund.paymentAttemptId = some attempt ∧ attempt.status = .succeeded := by
  intro refund member
  have old {row : PaymentRefund} (inStore : row ∈ before.refunds) :=
    And.intro (books.positive row inStore) (books.ofPayment row inStore)
  cases change with
  | kept refunds =>
      rw [refunds] at member
      exact old member
  | requested found succeeded pending positive fits inserted =>
      obtain earlier | rfl := (Table.mem_insert? inserted).mp member
      · exact old earlier
      · exact ⟨positive, _, found, succeeded⟩
  | replaced asks reserved waiting reached replaces =>
      obtain rfl | ⟨earlier, -⟩ := replaces.mem_iff.mp member
      · rw [asks.amount, asks.attempt]
        exact old replaces.member
      · exact old earlier

/-- What is reserved still fits the payment. -/
theorem fits (books : RefundBooks before) (change : RefundChange reaches before after)
    {attempt : PaymentAttempt} (member : attempt ∈ before.attempts) :
    refundTotal after attempt.id isReserved ≤ attempt.amount := by
  have within := books.within attempt member
  cases change with
  | kept refunds =>
      rw [refundTotal_eq refunds]
      exact within
  | @requested refund paid found succeeded pending positive fits inserted =>
      rw [refundTotal_insert inserted]
      by_cases own : refund.paymentAttemptId = attempt.id
      · rw [own, Table.find?_of_mem member] at found
        cases found
        simp only [own, pending]
        change _ + refund.amount ≤ _
        lia
      · simpa [own] using within
  | @replaced refund next asks reserved waiting reached replaces =>
      have moved : refundTotal after attempt.id isReserved + _ = _ :=
        refundTotal_replace asks replaces
      have positive := books.positive refund replaces.member
      rw [reserved] at moved
      split_ifs at moved <;> lia

/-- Without a success, nothing more is refunded. -/
theorem refunded_eq (change : RefundChange
      (fun status => status ≠ .pending ∧ status ≠ .succeeded) before after) (id : Id) :
    refundTotal after id (· = .succeeded) = refundTotal before id (· = .succeeded) := by
  cases change with
  | kept refunds => exact refundTotal_eq refunds
  | requested found succeeded pending positive fits inserted =>
      rw [refundTotal_insert inserted, pending]
      simp
  | @replaced refund next asks reserved waiting reached replaces =>
      have moved : refundTotal after id (· = .succeeded) + _ = _ :=
        refundTotal_replace asks replaces
      simpa [waiting, reached.2] using moved

/-- What is refunded was reserved. -/
theorem refunded_le (positive : ∀ refund ∈ after.refunds, 0 < refund.amount) (id : Id) :
    refundTotal after id (· = .succeeded) ≤ refundTotal after id isReserved := by
  refine Table.sumWhere_mono (fun refund member => (positive refund member).le)
    fun refund member counted => ?_
  simp only [Bool.and_eq_true, decide_eq_true_eq] at counted ⊢
  rw [counted.2]
  exact ⟨counted.1, rfl⟩

theorem refundTotal_nonneg (books : RefundBooks before) (id : Id)
    (counts : PaymentRefundStatus → Bool) : 0 ≤ refundTotal before id counts := by
  refine List.sum_nonneg fun amount isAmount => ?_
  obtain ⟨refund, chosen, rfl⟩ := List.mem_map.mp isAmount
  exact (books.positive refund (List.mem_filter.mp chosen).1).le

/-- A payment that is confirmed now was not refunded. -/
theorem refundTotal_eq_zero {id : Id} {counts : PaymentRefundStatus → Bool}
    (source : ∀ refund ∈ after.refunds, 0 < refund.amount ∧ ∃ attempt,
      before.attempts.find? refund.paymentAttemptId = some attempt ∧ attempt.status = .succeeded)
    (unconfirmed : ∀ attempt, before.attempts.find? id = some attempt →
      attempt.status ≠ .succeeded) : refundTotal after id counts = 0 := by
  refine Table.sumWhere_eq_zero fun refund member => ?_
  obtain ⟨-, attempt, found, succeeded⟩ := source refund member
  have other : refund.paymentAttemptId ≠ id := by
    rintro rfl
    exact unconfirmed attempt found succeeded
  simp [other]

/-- The books are kept while the attempts move on. -/
theorem moved {opens : PaymentAttempt → Prop} {confirms : Id → Prop} (books : RefundBooks before)
    (change : RefundChange reaches before after) (calls : RefundCalls after)
    (moves : Moves (AttemptMove opens confirms) before.attempts after.attempts)
    (positive : ∀ attempt ∈ after.attempts, 0 < attempt.amount) : RefundBooks after where
  ofPayment refund member := by
    obtain ⟨-, attempt, found, succeeded⟩ := books.source change refund member
    have same := Table.find?_key found
    rw [← same] at found ⊢
    obtain ⟨next, there, continues⟩ := AttemptMoves.continues moves found
    exact ⟨next, there, (continues.succeeded succeeded).1⟩
  positive refund member := (books.source change refund member).1
  within attempt member := by
    cases found : before.attempts.find? attempt.id with
    | none =>
        rw [refundTotal_eq_zero (books.source change)]
        · exact (positive attempt member).le
        · intro row there
          rw [found] at there
          cases there
    | some old =>
        have same := Table.find?_key found
        rw [← same] at found
        obtain ⟨next, there, continues⟩ := AttemptMoves.continues moves found
        rw [same, Table.find?_of_mem member] at there
        cases there
        rw [← same, continues.amount]
        exact books.fits change (Table.mem_of_find? found)
  calls := calls

end RefundBooks

/-- A confirmed attempt was confirmed before, or its invoice is paid now. -/
theorem Step.succeeded_origin {before after : Database} (taken : Step before after)
    {attempt : PaymentAttempt} (member : attempt ∈ after.payments.attempts)
    (succeeded : attempt.status = .succeeded) :
    (∃ old ∈ before.payments.attempts, old.status = .succeeded ∧ old.id = attempt.id ∧
      old.invoiceId = attempt.invoiceId ∧ old.amount = attempt.amount) ∨
    ((∀ old, before.payments.attempts.find? attempt.id = some old → old.status ≠ .succeeded) ∧
      ∃ invoice, after.sales.invoices.find? attempt.invoiceId = some invoice ∧
        invoice.paymentStatus = .paid) := by
  by_cases was : ∃ old, before.payments.attempts.find? attempt.id = some old ∧
      old.status = .succeeded
  · obtain ⟨old, found, settled⟩ := was
    obtain ⟨opens, confirms, moves⟩ := Step.movesAttempts taken
    have same := Table.find?_key found
    rw [← same] at found
    obtain ⟨next, there, continues⟩ := AttemptMoves.continues moves found
    rw [same, Table.find?_of_mem member] at there
    cases there
    exact .inl ⟨old, Table.mem_of_find? found, settled, same, continues.invoiceId.symm,
      continues.amount.symm⟩
  · refine .inr ⟨fun old found settled => was ⟨old, found, settled⟩, ?_⟩
    have found := Table.find?_of_mem member
    cases taken with
    | administer catalog reservations => exact absurd ⟨attempt, found, succeeded⟩ was
    | commit command now committed =>
        by_cases other : ∀ payment, command ≠ .payment payment
        · rw [Command.payments_eq other committed] at found
          exact absurd ⟨attempt, found, succeeded⟩ was
        · obtain ⟨payment, rfl⟩ : ∃ payment, command = .payment payment := by simpa using other
          cases PaymentStep.of_command committed with
          | opening opens isNew inserted =>
              obtain inStore | rfl := (Table.mem_insert? inserted).mp member
              · exact absurd ⟨attempt, Table.find?_of_mem inStore, succeeded⟩ was
              · rw [isNew.pending] at succeeded
                cases succeeded
          | unconfirming moves =>
              obtain ⟨source, -, -, -, settled⟩ := AttemptMoves.origin moves found
              obtain before | none := settled succeeded
              · exact absurd ⟨source, before⟩ was
              · exact none.elim
          | @confirming paid known confirms =>
              obtain ⟨source, comes, invoiceId, -, settled⟩ := AttemptMoves.origin confirms.moves found
              obtain before | same := settled succeeded
              · exact absurd ⟨source, before⟩ was
              · obtain there | none := comes
                · rw [same, known] at there
                  cases there
                  obtain ⟨invoice, isThere, status, -⟩ := confirms.completes.pays.paid
                  rw [invoiceId]
                  exact ⟨invoice, isThere, status⟩
                · exact none.elim

/-- The refunds fit their payments, and the invoices show them. -/
structure RefundsAgree (database : Database) : Prop where
  books : RefundBooks database.payments
  shown : ∀ attempt ∈ database.payments.attempts, attempt.status = .succeeded → ∃ invoice,
    database.sales.invoices.find? attempt.invoiceId = some invoice ∧ invoice.paymentStatus =
      refundedStatus attempt.amount (refundTotal database.payments attempt.id (· = .succeeded))

namespace RefundsAgree

variable {before after : Database}

theorem empty : RefundsAgree Database.empty where
  books := .empty
  shown _ member := (Table.not_mem_empty member).elim

/-- Nothing succeeds, so every invoice shows what it showed. -/
theorem unsuccessful (agree : RefundsAgree before) (paid : PaymentsAgree before)
    (later : PaymentsAgree after) (taken : Step before after)
    (move : RefundMove before.payments after.payments)
    (stay : TransfersStay before.sales after.sales) : RefundsAgree after := by
  obtain ⟨opens, confirms, moves⟩ := Step.movesAttempts taken
  have change := agree.books.change move
  constructor
  · exact agree.books.moved change (agree.books.calls.move move) moves fun attempt member =>
      (later.amounts attempt member).1
  · intro attempt member succeeded
    obtain ⟨old, inStore, was, id, invoiceId, amount⟩ | ⟨unconfirmed, invoice, found, status⟩ :=
      Step.succeeded_origin taken member succeeded
    · obtain ⟨invoice, found, status⟩ := agree.shown old inStore was
      obtain ⟨same, there, settled, transfer⟩ := paid.confirmed old inStore was
      rw [found] at there
      cases there
      obtain ⟨next, shows, kept⟩ := stay _ invoice found settled transfer
      rw [← invoiceId, ← amount, ← id, RefundBooks.refunded_eq change, ← status]
      exact ⟨next, shows, kept⟩
    · refine ⟨invoice, found, ?_⟩
      rw [RefundBooks.refundTotal_eq_zero (agree.books.source change) unconfirmed, status]
      rfl

/-- The refund that succeeds is added to its invoice, which was not refunded in full. -/
theorem succeeded (agree : RefundsAgree before) (paid : PaymentsAgree before)
    {refund next : PaymentRefund} {call : RefundCall} {attempt : PaymentAttempt}
    (asks : refund.Asks next) (own : call.paymentRefundId = refund.id)
    (unanswered : call.answered = false) (success : next.status = .succeeded)
    (replaces : before.payments.refunds.Replaces refund next after.payments.refunds)
    (calls : before.payments.refundCalls.Replaces call { call with answered := true }
      after.payments.refundCalls)
    (found : before.payments.attempts.find? refund.paymentAttemptId = some attempt)
    (attempts : after.payments.attempts = before.payments.attempts)
    (invoices : after.sales.invoices = before.sales.invoices.update
      (fun invoice => invoice.id = attempt.invoiceId && isRefundable invoice)
      fun invoice => { invoice with
        paymentStatus := if attempt.amount ≤ refundTotal after.payments attempt.id (· = .succeeded)
          then .refunded else .partiallyRefunded }) : RefundsAgree after := by
  obtain ⟨reserved, waiting⟩ :=
    agree.books.calls.open_ calls.member replaces.member own unanswered
  have change : RefundChange (· = .succeeded) before.payments after.payments :=
    .replaced asks reserved waiting success replaces
  have source := agree.books.source change
  have moves : Moves (AttemptMove (fun _ => False) fun _ => False) before.payments.attempts
      after.payments.attempts := by
    rw [attempts]
    exact refl_of (Moves _) _
  have books : RefundBooks after.payments := by
    refine agree.books.moved change ?_ moves ?_
    · refine agree.books.calls.answered own ?_ replaces calls
      rw [success]
      decide
    · rw [attempts]
      exact fun attempt member => (paid.amounts attempt member).1
  refine ⟨books, fun row member settled => ?_⟩
  rw [attempts] at member
  obtain ⟨invoice, shows, status⟩ := agree.shown row member settled
  have total : refundTotal after.payments row.id (· = .succeeded) + _ = _ :=
    RefundBooks.refundTotal_replace asks replaces
  have isAttempt := Table.find?_key found
  have key := Table.find?_key shows
  rw [invoices, Table.find?_update, shows]
  refine ⟨_, rfl, ?_⟩
  by_cases same : row.id = attempt.id
  · obtain rfl := Table.eq_of_find? found member (same.trans isAttempt)
    have added : refundTotal after.payments row.id (· = .succeeded) =
        refundTotal before.payments row.id (· = .succeeded) + refund.amount := by
      simpa [waiting, success, isAttempt] using total
    have positive := agree.books.positive refund replaces.member
    have nonneg := agree.books.refundTotal_nonneg row.id (· = .succeeded)
    have le := RefundBooks.refunded_le books.positive row.id
    have within := agree.books.fits change member
    have refundable : isRefundable invoice = true := by
      unfold isRefundable
      rw [status]
      unfold refundedStatus
      split_ifs <;> first | rfl | lia
    simp only [key, refundable, decide_true, Bool.and_self, if_true]
    unfold refundedStatus
    rw [if_neg (show ¬refundTotal after.payments row.id (· = .succeeded) = 0 by lia)]
  · obtain ⟨known, there, confirmed⟩ := agree.books.ofPayment refund replaces.member
    rw [found] at there
    cases there
    have elsewhere : row.invoiceId ≠ attempt.invoiceId := fun equal =>
      same (paid.single row member attempt (Table.mem_of_find? found) settled confirmed equal)
    have unchanged : refundTotal after.payments row.id (· = .succeeded) =
        refundTotal before.payments row.id (· = .succeeded) := by
      have other : refund.paymentAttemptId ≠ row.id := fun equal => same (equal ▸ isAttempt.symm)
      simpa [other] using total
    rw [unchanged, ← status]
    simp [key, elsewhere]

theorem step (taken : Step before after) (agree : RefundsAgree before) (paid : PaymentsAgree before)
    (later : PaymentsAgree after) : RefundsAgree after := by
  cases taken with
  | administer catalog reservations => exact ⟨agree.books, agree.shown⟩
  | commit command now committed =>
      cases RefundStep.of_command committed with
      | unsuccessful move stay =>
          exact agree.unsuccessful paid later (.commit command now committed) move stay
      | succeeded asks own waits success replaces calls found attempts invoices =>
          exact agree.succeeded paid asks own waits success replaces calls found attempts invoices

end RefundsAgree

theorem Reachable.refundsAgree {database : Database} (reachable : Reachable database) :
    RefundsAgree database := by
  have both : PaymentsAgree database ∧ RefundsAgree database := by
    refine reachable.invariant (fun database => PaymentsAgree database ∧ RefundsAgree database)
      ⟨.empty, .empty⟩ fun before after _ taken agree => ?_
    have later := agree.1.step taken
    exact ⟨later, agree.2.step taken agree.1 later⟩
  exact both.2

/-- One of the two cups that were paid online is refunded. -/
def Database.cupRefunded : Database := Database.paidOnline.performAll [
  (.payment (.createRefund {
    paymentAttemptId := 7
    employeeId := 0
    amount := 3500000
    reason := "Spilled"
    idempotencyKey := "spilled" }), 9),
  (.payment (.submitRefund 8), 10),
  (.payment (.applyProviderResponse 8 9 {
    responseCode := some "00"
    transactionStatus := some "00"
    transactionNo := some "15"
    merchantReference := some 6
    amount := some 3500000
    transactionType := some "03" }), 11)]

theorem Reachable.cupRefunded : Reachable Database.cupRefunded := Reachable.paidOnline.performAll _

/-- The invoice of a confirmed payment shows what was refunded of it. -/
theorem Reachable.refunds_shown {database : Database} (reachable : Reachable database)
    {attempt : PaymentAttempt} (member : attempt ∈ database.payments.attempts)
    (succeeded : attempt.status = .succeeded) :
    ∃ invoice, database.sales.invoices.find? attempt.invoiceId = some invoice ∧
      (invoice.paymentStatus = .refunded ↔
        refundTotal database.payments attempt.id (· = .succeeded) = attempt.amount) ∧
      (invoice.paymentStatus = .partiallyRefunded ↔
        0 < refundTotal database.payments attempt.id (· = .succeeded) ∧
          refundTotal database.payments attempt.id (· = .succeeded) < attempt.amount) := by
  have agree := reachable.refundsAgree
  have within := agree.books.within attempt member
  obtain ⟨invoice, found, status⟩ := agree.shown attempt member succeeded
  have positive := (reachable.paymentsAgree.amounts attempt member).1
  have nonneg := agree.books.refundTotal_nonneg attempt.id (· = .succeeded)
  have le := RefundBooks.refunded_le agree.books.positive attempt.id
  refine ⟨invoice, found, ?_, ?_⟩
  all_goals
    rw [status]
    unfold refundedStatus
    split_ifs <;> simp <;> lia

/-- The refunds of a payment that may still succeed never exceed it, and the invoice of a
confirmed payment shows what was refunded of it: all of it, a part, or nothing. -/
theorem Reachable.refunds_withinPayment {database : Database} (reachable : Reachable database)
    {attempt : PaymentAttempt} (member : attempt ∈ database.payments.attempts) :
    refundTotal database.payments attempt.id isReserved ≤ attempt.amount ∧
      (attempt.status = .succeeded → ∃ invoice,
        database.sales.invoices.find? attempt.invoiceId = some invoice ∧
        (invoice.paymentStatus = .refunded ↔
          refundTotal database.payments attempt.id (· = .succeeded) = attempt.amount) ∧
        (invoice.paymentStatus = .partiallyRefunded ↔
          0 < refundTotal database.payments attempt.id (· = .succeeded) ∧
            refundTotal database.payments attempt.id (· = .succeeded) < attempt.amount)) :=
  ⟨reachable.refundsAgree.books.within attempt member, reachable.refunds_shown member⟩

/-- The invoice of the two cups is refunded in part. -/
theorem Reachable.refunds_withinPayment_cupRefunded :
    ∃ attempt ∈ Database.cupRefunded.payments.attempts,
      refundTotal Database.cupRefunded.payments attempt.id isReserved ≤ attempt.amount ∧
        ∃ invoice, Database.cupRefunded.sales.invoices.find? attempt.invoiceId = some invoice ∧
          (invoice.paymentStatus = .refunded ↔
            refundTotal Database.cupRefunded.payments attempt.id (· = .succeeded) =
              attempt.amount) := by
  have settled : (Database.cupRefunded.payments.attempts.find? 7).any (·.status = .succeeded) := by
    decide +kernel
  obtain ⟨attempt, member, succeeded⟩ := exists_attempt settled
  obtain ⟨within, shown⟩ := Reachable.cupRefunded.refunds_withinPayment member
  obtain ⟨invoice, found, refunded, -⟩ := shown succeeded
  exact ⟨attempt, member, within, invoice, found, refunded⟩

/-- The provider is asked at most once for a refund, which is claimed before; while the call has
no answer, the refund is processed or reviewed. -/
theorem Reachable.refund_calledOnce {database : Database} (reachable : Reachable database)
    {call : RefundCall} (member : call ∈ database.payments.refundCalls) :
    (∃ refund, database.payments.refunds.find? call.paymentRefundId = some refund ∧
      refund.status ≠ .pending ∧ (call.answered = false →
        refund.status = .processing ∨ refund.status = .requiresReview)) ∧
    ∀ other ∈ database.payments.refundCalls, other.paymentRefundId = call.paymentRefundId →
      other = call := by
  have calls := reachable.refundsAgree.books.calls
  refine ⟨calls.called call member, fun other otherMember same => ?_⟩
  exact Table.eq_of_key_eq otherMember member (calls.single other otherMember call member same)

/-- The other cup is to be refunded as well; the provider has been asked and has not answered. -/
def Database.coldCup : Database := Database.cupRefunded.performAll [
  (.payment (.createRefund {
    paymentAttemptId := 7
    employeeId := 0
    amount := 3500000
    reason := "Cold"
    idempotencyKey := "cold" }), 12),
  (.payment (.submitRefund 10), 13)]

theorem Reachable.coldCup : Reachable Database.coldCup := Reachable.cupRefunded.performAll _

theorem runs_coldCup : Relation.ReflTransGen Step Database.cupRefunded Database.coldCup :=
  runs_performAll .refl _

/-- The provider was asked once for each of the two cups. -/
theorem Reachable.refund_calledOnce_coldCup :
    ∃ call ∈ Database.coldCup.payments.refundCalls, call.answered = false ∧
      (∃ refund, Database.coldCup.payments.refunds.find? call.paymentRefundId = some refund ∧
        refund.status ≠ .pending ∧ (refund.status = .processing ∨ refund.status = .requiresReview)) ∧
      (∃ other ∈ Database.coldCup.payments.refundCalls, other.answered = true) ∧
      ∀ other ∈ Database.coldCup.payments.refundCalls,
        other.paymentRefundId = call.paymentRefundId → other = call := by
  have waiting : ∃ call ∈ Database.coldCup.payments.refundCalls.rows, call.answered = false := by
    decide +kernel
  have settled : ∃ call ∈ Database.coldCup.payments.refundCalls.rows, call.answered = true := by
    decide +kernel
  obtain ⟨call, inRows, waits⟩ := waiting
  have member := Table.mem_def.mpr inRows
  obtain ⟨⟨refund, found, claimed, processed⟩, single⟩ := Reachable.coldCup.refund_calledOnce member
  obtain ⟨other, otherInRows, answered⟩ := settled
  exact ⟨call, member, waits, ⟨refund, found, claimed, processed waits⟩,
    ⟨other, Table.mem_def.mpr otherInRows, answered⟩, single⟩

/-- A refund as it may look later. -/
structure PaymentRefund.Continues (refund next : PaymentRefund) : Prop extends refund.Asks next where
  claimed : refund.status ≠ .pending → next.status ≠ .pending
  final : refund.status = .succeeded ∨ isReserved refund.status = false →
    next.status = refund.status

instance : IsPreorder PaymentRefund PaymentRefund.Continues where
  refl _ := ⟨⟨rfl, rfl, rfl⟩, fun claimed => claimed, fun _ => rfl⟩
  trans _ _ _ first second := {
    id := second.id.trans first.id
    attempt := second.attempt.trans first.attempt
    amount := second.amount.trans first.amount
    claimed := second.claimed ∘ first.claimed
    final := fun finished => by
      have same := first.final finished
      rw [← same] at finished ⊢
      exact second.final finished }

section Runs

variable {before after : Database}

theorem RefundsAgree.continues (agree : RefundsAgree before) (taken : Step before after)
    {refund : PaymentRefund} (member : refund ∈ before.payments.refunds) :
    ∃ next ∈ after.payments.refunds, refund.Continues next := by
  have stays := refl_of PaymentRefund.Continues refund
  have replaced {row next : PaymentRefund} (asks : row.Asks next)
      (reserved : isReserved row.status = true) (waiting : row.status ≠ .succeeded)
      (claimed : next.status ≠ .pending)
      (replaces : before.payments.refunds.Replaces row next after.payments.refunds) :
      ∃ later ∈ after.payments.refunds, refund.Continues later := by
    by_cases same : refund.id = row.id
    · obtain rfl := Table.eq_of_key_eq member replaces.member same
      refine ⟨next, replaces.mem, asks, fun _ => claimed, ?_⟩
      rintro (succeeded | finished)
      · exact absurd succeeded waiting
      · rw [reserved] at finished
        cases finished
    · exact ⟨refund, replaces.mem_iff.mpr (.inr ⟨member, same⟩), stays⟩
  cases taken with
  | administer catalog reservations => exact ⟨refund, member, stays⟩
  | commit command now committed =>
      cases RefundStep.of_command committed with
      | unsuccessful move stay =>
          cases agree.books.change move with
          | kept refunds => exact ⟨refund, refunds ▸ member, stays⟩
          | requested found succeeded pending positive fits inserted =>
              exact ⟨refund, (Table.mem_insert? inserted).mpr (.inl member), stays⟩
          | replaced asks reserved waiting reached replaces =>
              exact replaced asks reserved waiting reached.1 replaces
      | succeeded asks own waits success replaces calls found attempts invoices =>
          obtain ⟨reserved, waiting⟩ := agree.books.calls.open_ calls.member replaces.member own waits
          refine replaced asks reserved waiting ?_ replaces
          rw [success]
          decide

/-- A refund is never lost and keeps its payment and amount; once it was claimed it is not pending
again, and what succeeded, failed or was rejected stays so, whatever answer comes later. -/
theorem Reachable.refunds_final (reachable : Reachable before)
    (later : Relation.ReflTransGen Step before after) {refund : PaymentRefund}
    (member : refund ∈ before.payments.refunds) :
    ∃ next ∈ after.payments.refunds, next.id = refund.id ∧
      next.paymentAttemptId = refund.paymentAttemptId ∧ next.amount = refund.amount ∧
      (refund.status ≠ .pending → next.status ≠ .pending) ∧
      (refund.status = .succeeded ∨ refund.status = .failed ∨ refund.status = .rejected →
        next.status = refund.status) := by
  have run : Reachable after ∧ ∃ next ∈ after.payments.refunds, refund.Continues next := by
    induction later with
    | refl => exact ⟨reachable, refund, member, refl_of PaymentRefund.Continues refund⟩
    | tail _ last inductionHypothesis =>
        obtain ⟨there, row, inStore, continues⟩ := inductionHypothesis
        obtain ⟨next, found, goes⟩ := there.refundsAgree.continues last inStore
        exact ⟨there.tail last, next, found, trans_of PaymentRefund.Continues continues goes⟩
  obtain ⟨-, next, found, continues⟩ := run
  refine ⟨next, found, continues.id, continues.attempt, continues.amount, continues.claimed, ?_⟩
  rintro (succeeded | failed | rejected)
  · exact continues.final (.inl succeeded)
  · refine continues.final (.inr ?_)
    rw [failed]
    rfl
  · refine continues.final (.inr ?_)
    rw [rejected]
    rfl

end Runs

/-- The refund of the first cup stays while the other one is refunded. -/
theorem Reachable.refunds_final_coldCup :
    Database.coldCup.payments.refunds.rows.length = 2 ∧
      ∃ refund ∈ Database.cupRefunded.payments.refunds, ∃ next ∈ Database.coldCup.payments.refunds,
        next.id = refund.id ∧ next.amount = refund.amount ∧ next.status = refund.status := by
  have settled : (Database.cupRefunded.payments.refunds.find? 8).any (·.status = .succeeded) := by
    decide +kernel
  obtain ⟨refund, found, status⟩ := (Option.any_eq_true _ _).mp settled
  obtain ⟨next, member, same, -, amount, -, final⟩ :=
    Reachable.cupRefunded.refunds_final runs_coldCup (Table.mem_of_find? found)
  exact ⟨by decide +kernel, refund, Table.mem_of_find? found, next, member, same, amount,
    final (.inl (of_decide_eq_true status))⟩

end CoffeeShop
