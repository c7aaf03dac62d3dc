import CoffeeShop.Library.Json
import CoffeeShop.Payments.Agreement
import CoffeeShop.Payments.Incidents

/-!
The two ways in which a payment comes to be confirmed, side by side.

A notification supersedes the other pending attempts of the invoice, and a reconciliation leaves
them pending.  So they lead to the same state exactly when there is no such attempt.
-/

namespace CoffeeShop

open Transaction PaymentStore Database

set_option synthInstance.maxSize 100000

/-- A provider notifies that the exact amount of the attempt was paid with the number. -/
inductive NotifiesPayment (attempt : PaymentAttempt) (number : String) (before after : Database) :
    Prop
  | vnpay {notification : VnpayNotification} {now : Timestamp}
      (named : before.payments.attempts.first? (fun row =>
        row.merchantReference = notification.merchantReference) = some attempt)
      (own : attempt.provider = .vnpay) (success : notification.succeeded = true)
      (amount : attempt.amount = notification.amount)
      (same : notification.providerTransactionNo = some number)
      (committed : Commits (PaymentsService.handleVnpayIpn notification now) before () after)
  | momo {notification : MomoNotification} {invoice : Invoice} {now : Timestamp}
      (named : before.payments.attempts.first? (fun row =>
        row.merchantReference = notification.orderId) = some attempt)
      (own : attempt.provider = .momo) (success : notification.succeeded = true)
      (located : before.sales.invoices.find? attempt.invoiceId = some invoice)
      (passes : PaymentsService.referenceMatches attempt invoice notification = true)
      (same : notification.providerTransactionNo = some number)
      (committed : Commits (PaymentsService.handleMomoIpn notification now) before () after)

/-- The provider answers the query of the attempt with a success of the number that matches it. -/
inductive QueriesPayment (attempt : PaymentAttempt) (number : String) (before after : Database) :
    Prop
  | vnpay {response : VnpayQueryResponse} {now : Timestamp} (own : attempt.provider = .vnpay)
      (code : response.responseCode = some "00") (status : response.transactionStatus = some "00")
      (passes : PaymentReconciliation.responseMismatch attempt response = none)
      (same : response.transactionNo = some number)
      (committed : Commits (PaymentReconciliation.queryProvider attempt.id (.vnpay response) now)
        before () after)
  | momo {response : MomoQueryResponse} {now : Timestamp} (own : attempt.provider = .momo)
      (code : response.resultCode = 0)
      (passes : PaymentReconciliation.momoMismatch attempt response = false)
      (same : response.transId.map toString = some number)
      (committed : Commits (PaymentReconciliation.queryProvider attempt.id (.momo response) now)
        before () after)

/-- The shop cannot tell the two states apart: the same is sold, the attempt has the same status and
number, and every other attempt has the same status. -/
structure AgreesAbout (attempt : PaymentAttempt) (first second : Database) : Prop where
  sales : first.sales = second.sales
  confirmed : (first.payments.attempts.find? attempt.id).map
      (fun row => (row.status, row.providerTransactionNo)) =
    (second.payments.attempts.find? attempt.id).map
      fun row => (row.status, row.providerTransactionNo)
  others : ∀ id ≠ attempt.id, (first.payments.attempts.find? id).map (·.status) =
    (second.payments.attempts.find? id).map (·.status)

/-- The payment is confirmed, and the other attempts are changed like this. -/
structure ConfirmsWith (attempt : PaymentAttempt) (number : String)
    (change : PaymentAttempt → PaymentAttempt) (before after : Database) : Prop where
  completes : before.sales.Completes after.sales attempt
  confirmed : ∃ row, after.payments.attempts.find? attempt.id = some row ∧
    row.status = .succeeded ∧ row.providerTransactionNo = some number
  others : ∀ id ≠ attempt.id, after.payments.attempts.find? id =
    (before.payments.attempts.find? id).map change

namespace ConfirmsWith

variable {attempt : PaymentAttempt} {number : String} {before after : Database}
  {change : PaymentAttempt → PaymentAttempt}

/-- The events that are stored before and after do not matter. -/
theorem surrounded {first last : Database} (confirms : ConfirmsWith attempt number change first last)
    (opening : before.OnlyRecords first) (closing : last.OnlyRecords after) :
    ConfirmsWith attempt number change before after := by
  obtain ⟨completes, confirmed, others⟩ := confirms
  rw [opening] at completes others
  rw [closing]
  exact ⟨completes, confirmed, others⟩

end ConfirmsWith

section Paths

variable {attempt : PaymentAttempt} {number : String} {before after : Database}

/-- The invoice of the attempt is not paid. -/
def SalesStore.Owes (sales : SalesStore) (attempt : PaymentAttempt) : Prop :=
  ∃ invoice, sales.invoices.find? attempt.invoiceId = some invoice ∧ invoice.paymentStatus = .unpaid

/-- What supersedes the other pending attempts of the invoice. -/
def PaymentAttempt.Supersedes (attempt : PaymentAttempt) (change : PaymentAttempt → PaymentAttempt) :
    Prop :=
  ∀ row, (change row).status =
    if PaymentsService.isSuperseded attempt row = true then .failed else row.status

theorem commits_findInvoiceOf {invoice seen : Invoice} {middle : Database}
    (located : before.sales.invoices.find? attempt.invoiceId = some invoice)
    (committed : Commits (findInvoiceOf attempt) before seen middle) :
    seen = invoice ∧ middle = before := by
  obtain ⟨_, reads, rfl⟩ := commits_salesTx.mp committed
  obtain ⟨found, rfl⟩ := commits_findUniqueOrFail.mp reads
  change before.sales.invoices.find? attempt.invoiceId = _ at found
  rw [located] at found
  exact ⟨(Option.some.inj found).symm, rfl⟩

/-- The writes with which both handlers end confirm the attempt. -/
theorem confirmsWith_of_superseding {fail : PaymentAttempt → PaymentAttempt} {now : Timestamp}
    {code result : String} {confirmKeeps : ∀ row, (PaymentsService.confirmed (some number) now row).id =
      row.id} {failKeeps : ∀ row, (fail row).id = row.id}
    (failed : ∀ row, (fail row).status = .failed)
    (committed : Commits (do
      PaymentsService.completeInvoice attempt
      paymentTx (updateAttempt attempt (PaymentsService.confirmed (some number) now) confirmKeeps)
      paymentTx (updateAttempts (PaymentsService.isSuperseded attempt) fail failKeeps)
      pure code) before result after) :
    ∃ change, attempt.Supersedes change ∧ ConfirmsWith attempt number change before after := by
  obtain ⟨completes, ⟨row, -, there⟩, others⟩ := commits_superseding committed
  refine ⟨_, fun row => ?_, completes, ⟨_, there, rfl, rfl⟩, others⟩
  split
  · exact failed row
  · rfl

theorem applyVnpay_confirmsWith {notification : VnpayNotification} {now : Timestamp} {code : String}
    (unconfirmed : attempt.status ≠ .succeeded) (undecided : attempt.status ≠ .requiresReview)
    (owes : before.sales.Owes attempt) (success : notification.succeeded = true)
    (amount : attempt.amount = notification.amount)
    (same : notification.providerTransactionNo = some number)
    (committed : Commits (PaymentsService.applyVnpay attempt notification now) before code after) :
    ∃ change, attempt.Supersedes change ∧ ConfirmsWith attempt number change before after := by
  obtain ⟨invoice, located, unpaid⟩ := owes
  dsimp only [PaymentsService.applyVnpay] at committed
  rw [if_neg (by simpa using amount), if_neg unconfirmed, if_neg undecided] at committed
  obtain ⟨seen, _, read, settled⟩ := commits_bind.mp committed
  obtain ⟨rfl, rfl⟩ := commits_findInvoiceOf located read
  rw [if_neg (by simpa using unpaid)] at settled
  dsimp only [PaymentsService.settleVnpay] at settled
  rw [if_pos success, same, if_neg (by simp)] at settled
  exact confirmsWith_of_superseding (fun _ => rfl) settled

theorem applyMomo_confirmsWith {notification : MomoNotification} {invoice : Invoice}
    {now : Timestamp} {code : String}
    (unconfirmed : attempt.status ≠ .succeeded) (undecided : attempt.status ≠ .requiresReview)
    (owes : before.sales.Owes attempt) (success : notification.succeeded = true)
    (located : before.sales.invoices.find? attempt.invoiceId = some invoice)
    (passes : PaymentsService.referenceMatches attempt invoice notification = true)
    (same : notification.providerTransactionNo = some number)
    (committed : Commits (PaymentsService.applyMomo attempt notification now) before code after) :
    ∃ change, attempt.Supersedes change ∧ ConfirmsWith attempt number change before after := by
  obtain ⟨positive, rfl⟩ : 0 < notification.transId ∧ toString notification.transId = number := by
    unfold MomoNotification.providerTransactionNo at same
    split at same
    next positive => exact ⟨positive, Option.some.inj same⟩
    next => cases same
  have unpaid : invoice.paymentStatus = .unpaid := by
    obtain ⟨other, there, unpaid⟩ := owes
    rw [located] at there
    rwa [Option.some.inj there]
  dsimp only [PaymentsService.applyMomo] at committed
  obtain ⟨seen, _, read, applied⟩ := commits_bind.mp committed
  obtain ⟨rfl, rfl⟩ := commits_findInvoiceOf located read
  rw [if_neg (by simp [passes, success, positive]), if_neg (by simp [success]), if_neg unconfirmed,
    if_neg undecided, if_neg (by simpa using unpaid), PaymentsService.settleMomo,
    if_pos success] at applied
  exact confirmsWith_of_superseding (fun _ => rfl) applied

theorem NotifiesPayment.confirmsWith (notified : NotifiesPayment attempt number before after)
    (unconfirmed : attempt.status ≠ .succeeded) (undecided : attempt.status ≠ .requiresReview)
    (owes : before.sales.Owes attempt) :
    ∃ change, attempt.Supersedes change ∧ ConfirmsWith attempt number change before after := by
  have around {first last : Database} (opening : before.OnlyRecords first)
      (closing : last.OnlyRecords after)
      (confirms : ∃ change, attempt.Supersedes change ∧
        ConfirmsWith attempt number change first last) :
      ∃ change, attempt.Supersedes change ∧ ConfirmsWith attempt number change before after :=
    confirms.imp fun _ => And.imp_right fun confirms => confirms.surrounded opening closing
  have sold {first : Database} (opening : before.OnlyRecords first) : first.sales = before.sales := by
    rw [opening]
  cases notified with
  | vnpay named own success amount same committed =>
      obtain ⟨first, code, last, opening, answers, closing⟩ :=
        Accounting.exists_applied named own committed
      rw [← sold opening] at owes
      exact around opening closing
        (applyVnpay_confirmsWith unconfirmed undecided owes success amount same answers)
  | momo named own success located passes same committed =>
      obtain ⟨first, code, last, opening, answers, closing⟩ :=
        Accounting.exists_applied named own committed
      rw [← sold opening] at owes located
      exact around opening closing
        (applyMomo_confirmsWith unconfirmed undecided owes success located passes same answers)

section Queries

open PaymentReconciliation

variable {view : AttemptView} {now : Timestamp}

theorem confirmProviderPayment_confirmsWith (unconfirmed : view.attempt.status ≠ .succeeded)
    (unpaid : view.invoice.paymentStatus = .unpaid) (nonempty : number ≠ "") (nonzero : number ≠ "0")
    (committed : Commits (confirmProviderPayment view (some number) now) before () after) :
    ConfirmsWith view.attempt number id before after := by
  have numbered : (some number).filter (fun number => number ≠ "" && number ≠ "0") = some number := by
    simp [nonempty, nonzero]
  dsimp only [confirmProviderPayment] at committed
  rw [numbered] at committed
  obtain ⟨_, same, settled⟩ | ⟨none, -⟩ := commits_ifSome.mp committed
  · cases same
    rw [if_neg unconfirmed, if_neg (by simpa using unpaid)] at settled
    simp only [commits_bind, commits_paymentTx] at settled
    obtain ⟨_, paid, completed, _, ⟨_, _, confirms, resolves⟩, rfl⟩ := settled
    obtain ⟨completes, payments⟩ := commits_completeInvoice completed
    obtain ⟨row, -, -, there, kept⟩ := AttemptMoves.find?_updateAttempt confirms
    rw [payments] at kept
    unfold autoResolveIncidents at resolves
    have stay := Keeps.eq attempts resolves
    refine ⟨completes, ⟨confirmed number now row, ?_, rfl, rfl⟩, fun id other => ?_⟩
    · exact (congrArg (·.find? view.attempt.id) stay).trans there
    · rw [Option.map_id, id_eq, ← kept id other]
      exact congrArg (·.find? id) stay
  · cases none

end Queries

/-- A positive number is written neither as an empty text nor as a zero. -/
theorem toString_ne_of_pos {value : Int} (positive : 0 < value) :
    toString value ≠ "" ∧ toString value ≠ "0" := by
  obtain ⟨magnitude, rfl⟩ := Int.eq_ofNat_of_zero_le positive.le
  have digits : (toString (magnitude : Int)).toList = Nat.toDigits 10 magnitude := Nat.toList_repr
  constructor <;> intro same <;> rw [same] at digits
  · exact Nat.toDigits_ne_nil digits.symm
  · have zero : magnitude = 0 := Json.toDigits_injective digits.symm
    simp [zero] at positive

/-- The number of a notification is none that a provider leaves out. -/
theorem NotifiesPayment.number_ne (notified : NotifiesPayment attempt number before after) :
    number ≠ "" ∧ number ≠ "0" := by
  cases notified with
  | vnpay named own success amount same committed =>
      unfold VnpayNotification.providerTransactionNo at same
      split at same
      next => cases same
      next present =>
        rw [not_or] at present
        rwa [Option.some.inj same] at present
  | momo named own success located passes same committed =>
      unfold MomoNotification.providerTransactionNo at same
      split at same
      next positive =>
        rw [← Option.some.inj same]
        exact toString_ne_of_pos positive
      next => cases same

theorem QueriesPayment.confirmsWith (queried : QueriesPayment attempt number before after)
    (found : before.payments.attempts.find? attempt.id = some attempt)
    (unconfirmed : attempt.status ≠ .succeeded) (owes : before.sales.Owes attempt)
    (nonempty : number ≠ "") (nonzero : number ≠ "0") :
    ConfirmsWith attempt number id before after := by
  obtain ⟨invoice, located, unpaid⟩ := owes
  have viewed {seen : AttemptView} {middle : Database}
      (looked : Commits (PaymentReconciliation.findAttemptView attempt.id) before seen middle) :
      seen.attempt = attempt ∧ seen.invoice = invoice ∧ middle = before := by
    obtain ⟨known, there, rfl⟩ := AttemptMoves.commits_findAttemptView looked
    rw [found] at known
    cases known
    rw [located] at there
    exact ⟨rfl, (Option.some.inj there).symm, rfl⟩
  have applied {response : PaymentReconciliation.ProviderResponse} {now : Timestamp}
      (committed : Commits (PaymentReconciliation.queryProvider attempt.id response now) before ()
        after) :
      Commits (PaymentReconciliation.applyResponse attempt response now) before () after := by
    obtain ⟨row, _, read, answered⟩ := commits_bind.mp committed
    obtain ⟨_, reads, rfl⟩ := commits_paymentTx.mp read
    obtain ⟨same, rfl⟩ := commits_findUniqueOrFail.mp reads
    rw [paymentAttempt_get, found] at same
    cases same
    exact answered
  cases queried with
  | vnpay own code status passes same committed =>
      have answered := applied committed
      simp only [PaymentReconciliation.applyResponse, own] at answered
      obtain ⟨seen, _, looked, confirms⟩ := commits_bind.mp answered
      obtain ⟨rfl, rfl, rfl⟩ := viewed looked
      dsimp only at confirms
      rw [if_neg (by simpa using code), if_neg (by simp [passes]), if_pos status, same] at confirms
      exact confirmProviderPayment_confirmsWith unconfirmed unpaid nonempty nonzero confirms
  | momo own code passes same committed =>
      have answered := applied committed
      simp only [PaymentReconciliation.applyResponse, own] at answered
      obtain ⟨seen, _, looked, confirms⟩ := commits_bind.mp answered
      obtain ⟨rfl, rfl, rfl⟩ := viewed looked
      dsimp only at confirms
      rw [if_pos code, if_neg (by simp [passes]), same] at confirms
      exact confirmProviderPayment_confirmsWith unconfirmed unpaid nonempty nonzero confirms

/-- A notification and a reconciliation of the same success lead to the same state exactly when no
other attempt of the invoice is pending, which only the notification supersedes. -/
theorem NotifiesPayment.agrees_iff {notifiedLast queriedLast : Database}
    (notified : NotifiesPayment attempt number before notifiedLast)
    (queried : QueriesPayment attempt number before queriedLast)
    (member : attempt ∈ before.payments.attempts)
    (open_ : attempt.status = .pending ∨ attempt.status = .expired ∨ attempt.status = .failed)
    (owes : before.sales.Owes attempt) :
    AgreesAbout attempt notifiedLast queriedLast ↔ ∀ other ∈ before.payments.attempts,
      other.id ≠ attempt.id → other.invoiceId = attempt.invoiceId → other.status ≠ .pending := by
  have unconfirmed : attempt.status ≠ .succeeded ∧ attempt.status ≠ .requiresReview := by
    obtain status | status | status := open_
    all_goals rw [status]; decide
  obtain ⟨nonempty, nonzero⟩ := notified.number_ne
  obtain ⟨change, supersedes, completes, ⟨row, found, succeeded, same⟩, others⟩ :=
    notified.confirmsWith unconfirmed.1 unconfirmed.2 owes
  obtain ⟨alsoCompletes, ⟨next, alsoFound, alsoSucceeded, alsoSame⟩, kept⟩ :=
    queried.confirmsWith (Table.find?_of_mem member) unconfirmed.1 owes nonempty nonzero
  constructor
  · intro agrees other inStore differs ofInvoice pending
    have statuses := agrees.others other.id differs
    rw [others _ differs, kept _ differs, Table.find?_of_mem inStore] at statuses
    simp [supersedes other, PaymentsService.isSuperseded, ofInvoice, differs, pending] at statuses
  · intro none
    refine ⟨?_, ?_, fun id differs => ?_⟩
    · have sold := completes.symm.trans alsoCompletes
      simpa using sold
    · simp [found, alsoFound, succeeded, alsoSucceeded, same, alsoSame]
    · rw [others id differs, kept id differs]
      cases there : before.payments.attempts.find? id with
      | none => rfl
      | some other =>
          have inStore := Table.mem_of_find? there
          have spared : PaymentsService.isSuperseded attempt other = false := by
            by_contra superseded
            simp only [PaymentsService.isSuperseded, Bool.not_eq_false, Bool.and_eq_true,
              decide_eq_true_eq] at superseded
            exact none other inStore superseded.1.2 superseded.1.1 superseded.2
          simp [supersedes other, spared]

end Paths

/-- The first attempt of the two cups is notified as paid. -/
def notifyFirst : Command := .payment (.handleVnpayIpn {
  payloadHash := 3
  merchantReference := 6
  amount := 7000000
  transactionNo := "14"
  responseCode := "00"
  transactionStatus := "00" })

/-- Its reconciliation says the same. -/
def queryFirst : Command := .payment (.queryProvider 7 (.vnpay {
  responseCode := some "00"
  merchantReference := some 6
  transactionType := some "01"
  amount := some 7000000
  transactionStatus := some "00"
  transactionNo := some "14" }))

/-- Both reach the attempt while its invoice is not paid. -/
structure Database.AwaitsFirst (database : Database) (attempt : PaymentAttempt) : Prop where
  first : attempt.id = 7
  member : attempt ∈ database.payments.attempts
  open_ : attempt.status = .pending ∨ attempt.status = .expired ∨ attempt.status = .failed
  owes : database.sales.Owes attempt
  notified : NotifiesPayment attempt "14" database (database.perform notifyFirst 10)
  queried : QueriesPayment attempt "14" database (database.perform queryFirst 11)

theorem Database.exists_awaitsFirst {database : Database}
    (named : ((database.payments.attempts.first? fun row => row.merchantReference = 6).any fun row =>
      row.id = 7 && row.provider = .vnpay && (row.status = .pending || row.status = .failed) &&
        row.amount = 7000000 && row.merchantReference = 6 &&
        (database.sales.invoices.find? row.invoiceId).any (·.paymentStatus = .unpaid)) = true)
    (notifies : (notifyFirst.execute 10 database).isOk = true)
    (queries : (queryFirst.execute 11 database).isOk = true) :
    ∃ attempt, database.AwaitsFirst attempt := by
  obtain ⟨attempt, found, holds⟩ := (Option.any_eq_true _ _).mp named
  simp only [Bool.and_eq_true, Bool.or_eq_true, decide_eq_true_eq, Option.any_eq_true] at holds
  obtain ⟨⟨⟨⟨⟨seven, own⟩, status⟩, amount⟩, reference⟩, invoice, located, unpaid⟩ := holds
  have notified := Database.commits_perform notifies
  have queried := Database.commits_perform queries
  refine ⟨attempt, seven, (Table.mem_of_first? found).1, status.imp_right .inr,
    ⟨invoice, located, unpaid⟩, .vnpay found own rfl amount rfl notified, ?_⟩
  refine .vnpay own rfl rfl ?_ rfl (by rw [seven]; exact queried)
  simp [PaymentReconciliation.responseMismatch, reference, amount]

theorem exists_awaitsFirst_reattempted : ∃ attempt, Database.reattempted.AwaitsFirst attempt :=
  Database.exists_awaitsFirst (by decide +kernel) (by decide +kernel) (by decide +kernel)

/-- The notification of the first attempt of the two cups supersedes the second one, and the
reconciliation leaves it pending on the paid invoice. -/
theorem Reachable.exists_paths_disagree : ∃ before notifiedLast queriedLast, Reachable before ∧
    ∃ attempt ∈ before.payments.attempts, attempt.status = .failed ∧
      before.sales.Owes attempt ∧ NotifiesPayment attempt "14" before notifiedLast ∧
      QueriesPayment attempt "14" before queriedLast ∧
      ∃ other, other ≠ attempt.id ∧
        (notifiedLast.payments.attempts.find? other).map (·.status) = some .failed ∧
        (queriedLast.payments.attempts.find? other).map (·.status) = some .pending := by
  obtain ⟨attempt, awaits⟩ := exists_awaitsFirst_reattempted
  have failed : Database.reattempted.payments.attempts.rows.all
      (fun row => row.id ≠ 7 || row.status = .failed) = true := by
    decide +kernel
  have status := List.all_eq_true.mp failed attempt (Table.mem_def.mp awaits.member)
  simp only [awaits.first, ne_eq, not_true_eq_false, decide_false, Bool.false_or,
    decide_eq_true_eq] at status
  exact ⟨_, _, _, Reachable.reattempted, attempt, awaits.member, status, awaits.owes,
    awaits.notified, awaits.queried, 9, by rw [awaits.first]; decide, by decide +kernel,
    by decide +kernel⟩

/-- The two ways agree about the only attempt of the two cups, and not about the first of two. -/
theorem NotifiesPayment.agrees_iff_first :
    (∃ attempt, AgreesAbout attempt (Database.attempted.perform notifyFirst 10)
      (Database.attempted.perform queryFirst 11)) ∧
    ∃ attempt, ¬AgreesAbout attempt (Database.reattempted.perform notifyFirst 10)
      (Database.reattempted.perform queryFirst 11) := by
  constructor
  · obtain ⟨attempt, awaits⟩ : ∃ attempt, Database.attempted.AwaitsFirst attempt :=
      Database.exists_awaitsFirst (by decide +kernel) (by decide +kernel) (by decide +kernel)
    refine ⟨attempt, (NotifiesPayment.agrees_iff awaits.notified awaits.queried awaits.member
      awaits.open_ awaits.owes).mpr fun other inStore differs => ?_⟩
    have single : ∀ row ∈ Database.attempted.payments.attempts.rows, row.id = 7 := by decide +kernel
    rw [awaits.first] at differs
    exact absurd (single other (Table.mem_def.mp inStore)) differs
  · obtain ⟨attempt, awaits⟩ := exists_awaitsFirst_reattempted
    refine ⟨attempt, fun agrees => ?_⟩
    have none := (NotifiesPayment.agrees_iff awaits.notified awaits.queried awaits.member
      awaits.open_ awaits.owes).mp agrees
    have both : ∃ row ∈ Database.reattempted.payments.attempts.rows, row.id = 9 ∧
        row.status = .pending ∧ Database.reattempted.payments.attempts.rows.all
          (fun other => other.invoiceId = row.invoiceId) = true := by
      decide +kernel
    obtain ⟨second, inRows, nine, pending, shared⟩ := both
    have ofInvoice := List.all_eq_true.mp shared attempt (Table.mem_def.mp awaits.member)
    exact none second (Table.mem_def.mpr inRows) (by rw [nine, awaits.first]; decide)
      (of_decide_eq_true ofInvoice).symm pending

end CoffeeShop
