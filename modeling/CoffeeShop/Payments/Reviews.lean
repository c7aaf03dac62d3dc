import CoffeeShop.Payments.Agreement
import CoffeeShop.Payments.Incidents

/-!
Attempts that somebody has to look into.

An attempt that cannot be reconciled is postponed a few times and then reviewed.  A failed one
comes under review beside a newer one, and a success that is notified for an attempt under
review waits there for the reviewer.
-/

namespace CoffeeShop

open Transaction PaymentStore Database

set_option synthInstance.maxSize 100000

section Together

variable {before after : Database} {attempt other : PaymentAttempt}

/-- How an attempt comes to be unresolved after a step. -/
inductive PaymentAttempt.Returns (before after : PaymentAttempt) : Prop
  | stays (unresolved : before.status.isUnresolved = true)
  | reviewed (failed : before.status = .failed) (review : after.status = .requiresReview)

theorem PaymentAttempt.Continues.returns {before after : PaymentAttempt}
    (continues : before.Continues after) (unresolved : after.status.isUnresolved = true) :
    before.Returns after := by
  cases was : before.status with
  | pending | expired | requiresReview =>
      refine .stays ?_
      rw [was]
      rfl
  | succeeded =>
      rw [(continues.succeeded was).1] at unresolved
      cases unresolved
  | failed =>
      refine .reviewed was ?_
      cases is : after.status with
      | requiresReview => rfl
      | pending | expired =>
          have awaited := continues.awaiting (by rw [is]; rfl)
          rw [was] at awaited
          cases awaited
      | succeeded | failed =>
          rw [is] at unresolved
          cases unresolved

/-- What is unresolved after a step that opens nothing was there, unresolved or failed. -/
theorem AttemptMoves.unresolved_before {confirms : Id → Prop} {before after : Table PaymentAttempt.id}
    (moves : Moves (AttemptMove (fun _ => False) confirms) before after)
    (member : attempt ∈ after) (unresolved : attempt.status.isUnresolved = true) :
    ∃ old ∈ before, old.id = attempt.id ∧ old.Returns attempt := by
  have there := Table.find?_of_mem member
  obtain ⟨source, found | none, -, -, -⟩ := AttemptMoves.origin moves there
  · have same := Table.find?_key found
    rw [← same] at found there
    obtain ⟨next, later, continues⟩ := AttemptMoves.continues moves found
    rw [later] at there
    cases there
    exact ⟨source, Table.mem_of_find? found, same, continues.returns unresolved⟩
  · exact none.elim

/-- A step leaves two attempts of an invoice unresolved only if both were, or if one of them had
failed and comes under review. -/
theorem Step.unresolved_together (taken : Step before after)
    (member : attempt ∈ after.payments.attempts) (otherMember : other ∈ after.payments.attempts)
    (differs : attempt.id ≠ other.id) (same : attempt.invoiceId = other.invoiceId)
    (unresolved : attempt.status.isUnresolved = true)
    (alsoUnresolved : other.status.isUnresolved = true) :
    (∃ old ∈ before.payments.attempts, old.id = attempt.id ∧ old.Returns attempt) ∧
      ∃ old ∈ before.payments.attempts, old.id = other.id ∧ old.Returns other := by
  have unopened {confirms : Id → Prop} (moves : Moves (AttemptMove (fun _ => False) confirms)
      before.payments.attempts after.payments.attempts) :=
    And.intro (AttemptMoves.unresolved_before moves member unresolved)
      (AttemptMoves.unresolved_before moves otherMember alsoUnresolved)
  have still (kept : after.payments = before.payments) := by
    refine unopened (show Moves (AttemptMove (fun _ => False) fun _ => False) _ _ from ?_)
    rw [kept]
    exact refl_of (Moves _) before.payments.attempts
  cases taken with
  | administer catalog reservations => exact still rfl
  | commit command now committed =>
      by_cases elsewhere : ∀ payment, command ≠ .payment payment
      · exact still (Command.payments_eq elsewhere committed)
      · obtain ⟨payment, rfl⟩ : ∃ payment, command = .payment payment := by simpa using elsewhere
        cases PaymentStep.of_command committed with
        | unconfirming moves => exact unopened moves
        | confirming found confirms => exact unopened confirms.moves
        | @opening opened opens isNew inserted =>
            -- The check that opens an attempt finds no other one of the invoice unresolved.
            have clash {row : PaymentAttempt} (inStore : row ∈ before.payments.attempts)
                (ofInvoice : row.invoiceId = opened.invoiceId) :
                row.status.isUnresolved ≠ true := by
              rw [opens.resolved row inStore ofInvoice]
              decide
            rcases (Table.mem_insert? inserted).mp member with inStore | rfl
            · rcases (Table.mem_insert? inserted).mp otherMember with otherInStore | rfl
              · exact ⟨⟨attempt, inStore, rfl, .stays unresolved⟩,
                  ⟨other, otherInStore, rfl, .stays alsoUnresolved⟩⟩
              · exact absurd unresolved (clash inStore same)
            · rcases (Table.mem_insert? inserted).mp otherMember with otherInStore | rfl
              · exact absurd alsoUnresolved (clash otherInStore same.symm)
              · exact absurd rfl differs

/-- At most one attempt of an invoice is pending or expired.  Where a step leaves two of them
unresolved, neither was opened by it: each was unresolved before, or it failed and is reviewed now. -/
theorem Reachable.unresolved_single (reachable : Reachable before) (taken : Step before after) :
    (∀ attempt ∈ before.payments.attempts, ∀ other ∈ before.payments.attempts,
      attempt.invoiceId = other.invoiceId →
      (attempt.status = .pending ∨ attempt.status = .expired) →
      (other.status = .pending ∨ other.status = .expired) → attempt = other) ∧
    ∀ attempt ∈ after.payments.attempts, ∀ other ∈ after.payments.attempts,
      attempt.id ≠ other.id → attempt.invoiceId = other.invoiceId →
      attempt.status.isUnresolved = true → other.status.isUnresolved = true →
      (∃ old ∈ before.payments.attempts, old.id = attempt.id ∧ old.Returns attempt) ∧
        ∃ old ∈ before.payments.attempts, old.id = other.id ∧ old.Returns other := by
  constructor
  · intro attempt member other otherMember same awaited otherAwaited
    rw [← PaymentAttemptStatus.isAwaiting_iff] at awaited otherAwaited
    exact Table.eq_of_key_eq member otherMember
      (reachable.awaitsSingly attempt member other otherMember awaited otherAwaited same)
  · intro attempt member other otherMember differs same unresolved alsoUnresolved
    exact taken.unresolved_together member otherMember differs same unresolved alsoUnresolved

/-- VNPay reports another amount for the first attempt of the two cups, which had failed. -/
def notifyMismatch : Command := .payment (.handleVnpayIpn {
  payloadHash := 3
  merchantReference := 6
  amount := 1
  transactionNo := "13"
  responseCode := "00"
  transactionStatus := "00" })

def Database.mismatched : Database := Database.reattempted.perform notifyMismatch 10

theorem Reachable.mismatched : Reachable Database.mismatched := Reachable.reattempted.perform _ _

/-- The first attempt is reviewed, although the second one is pending. -/
theorem Reachable.exists_unresolved_twice :
    ∃ database, Reachable database ∧ ∃ attempt ∈ database.payments.attempts,
      ∃ other ∈ database.payments.attempts, attempt.id ≠ other.id ∧
        attempt.invoiceId = other.invoiceId ∧ attempt.status = .requiresReview ∧
          other.status = .pending := by
  have both : ∃ attempt ∈ Database.mismatched.payments.attempts.rows,
      ∃ other ∈ Database.mismatched.payments.attempts.rows, attempt.id ≠ other.id ∧
        attempt.invoiceId = other.invoiceId ∧ attempt.status = .requiresReview ∧
          other.status = .pending := by
    decide +kernel
  obtain ⟨attempt, member, other, otherMember, holds⟩ := both
  exact ⟨_, Reachable.mismatched, attempt, Table.mem_def.mpr member, other,
    Table.mem_def.mpr otherMember, holds⟩

/-- The second attempt is the only one that waits, and the first one, which comes under review
beside it, was there before. -/
theorem Reachable.unresolved_single_mismatched :
    (∃ attempt ∈ Database.reattempted.payments.attempts, attempt.id = 9 ∧
      ∀ other ∈ Database.reattempted.payments.attempts, attempt.invoiceId = other.invoiceId →
        other.status = .pending → attempt = other) ∧
    ∃ attempt ∈ Database.mismatched.payments.attempts, attempt.status = .requiresReview ∧
      ∃ old ∈ Database.reattempted.payments.attempts, old.id = attempt.id ∧ old.Returns attempt := by
  have committed := @Database.commits_perform Database.reattempted notifyMismatch 10
    (by decide +kernel)
  have taken : Step Database.reattempted Database.mismatched := .commit notifyMismatch 10 committed
  have waits : ∃ attempt ∈ Database.reattempted.payments.attempts.rows,
      attempt.id = 9 ∧ attempt.status = .pending := by
    decide +kernel
  have both : ∃ attempt ∈ Database.mismatched.payments.attempts.rows,
      ∃ other ∈ Database.mismatched.payments.attempts.rows, attempt.id ≠ other.id ∧
        attempt.invoiceId = other.invoiceId ∧ attempt.status = .requiresReview ∧
          other.status = .pending := by
    decide +kernel
  obtain ⟨single, together⟩ := Reachable.reattempted.unresolved_single taken
  constructor
  · obtain ⟨attempt, inRows, nine, pending⟩ := waits
    have member := Table.mem_def.mpr inRows
    refine ⟨attempt, member, nine, fun other otherMember same otherPending => ?_⟩
    exact single attempt member other otherMember same (.inl pending) (.inl otherPending)
  · obtain ⟨attempt, inRows, other, otherInRows, differs, same, reviewed, pending⟩ := both
    have member := Table.mem_def.mpr inRows
    obtain ⟨returns, -⟩ := together attempt member other (Table.mem_def.mpr otherInRows) differs
      same (by rw [reviewed]; rfl) (by rw [pending]; rfl)
    exact ⟨attempt, member, reviewed, returns⟩

end Together

section Successes

variable {before after : Database} {attempt : PaymentAttempt} {number : Option String}

namespace Accounting

open PaymentsService

/-- A success for an attempt under review is left to the reviewer, unless its amount is wrong. -/
theorem applyVnpay_reviewed {notification : VnpayNotification} {now : Timestamp} {code : String}
    (reviewed : attempt.status = .requiresReview) (success : notification.succeeded = true)
    (committed : Commits (PaymentsService.applyVnpay attempt notification now) before code after) :
    after.payments.Accounts attempt.id number ∨ after = before := by
  dsimp only [PaymentsService.applyVnpay] at committed
  simp only [commits_ite, reviewed] at committed
  obtain ⟨-, mismatched⟩ | ⟨-, ⟨impossible, -⟩ | ⟨-, ⟨-, answer⟩ | ⟨other, -⟩⟩⟩ := committed
  · simp only [commits_bind, commits_pure, commits_when] at mismatched
    obtain ⟨_, _, ⟨-, reviews⟩ | ⟨failed, -⟩, -, rfl⟩ := mismatched
    · exact .inl (reviewing rfl reviews)
    · exact absurd success failed
  · cases impossible
  · exact .inr (commits_pure.mp answer).2
  · exact absurd trivial other

theorem applyMomo_reviewed {notification : MomoNotification} {now : Timestamp} {code : String}
    (reviewed : attempt.status = .requiresReview) (success : notification.succeeded = true)
    (committed : Commits (PaymentsService.applyMomo attempt notification now) before code after) :
    after.payments.Accounts attempt.id number ∨ after = before := by
  dsimp only [PaymentsService.applyMomo] at committed
  obtain ⟨invoice, _, read, applied⟩ := commits_bind.mp committed
  cases Respects.step (R := Eq) read
  simp only [commits_ite, reviewed, success, Bool.not_true, Bool.false_and, Bool.false_eq_true,
    false_and, not_false_eq_true, true_and, false_or] at applied
  obtain ⟨-, mismatched⟩ | ⟨-, ⟨impossible, -⟩ | ⟨-, answer | ⟨other, -⟩⟩⟩ := applied
  · obtain ⟨_, _, reviews, answer⟩ := commits_bind.mp mismatched
    obtain ⟨-, rfl⟩ := commits_pure.mp answer
    exact .inl (reviewing rfl reviews)
  · cases impossible
  · exact .inr (commits_pure.mp answer).2
  · exact absurd trivial other

end Accounting

theorem Database.OnlyRecords.trans {first middle last : Database} (opening : first.OnlyRecords middle)
    (closing : middle.OnlyRecords last) : first.OnlyRecords last := by
  unfold Database.OnlyRecords at *
  rw [closing, opening]

/-- Nothing but its event is stored for a success of an attempt under review. -/
theorem NotifiesSuccess.accounts_reviewed (notified : NotifiesSuccess attempt number before after)
    (reviewed : attempt.status = .requiresReview) :
    after.payments.Accounts attempt.id number ∨ before.OnlyRecords after := by
  have around {first last : Database} (opening : before.OnlyRecords first)
      (closing : last.OnlyRecords after)
      (answers : last.payments.Accounts attempt.id number ∨ last = first) :
      after.payments.Accounts attempt.id number ∨ before.OnlyRecords after := by
    obtain accounts | rfl := answers
    · exact .inl (Accounting.recorded closing accounts)
    · exact .inr (opening.trans closing)
  cases notified with
  | vnpay named own success same committed =>
      obtain ⟨first, code, last, opening, answers, closing⟩ :=
        Accounting.exists_applied named own committed
      exact around opening closing (Accounting.applyVnpay_reviewed reviewed success answers)
  | momo named own success same committed =>
      obtain ⟨first, code, last, opening, answers, closing⟩ :=
        Accounting.exists_applied named own committed
      exact around opening closing (Accounting.applyMomo_reviewed reviewed success answers)

/-- The attempt was under review without an open incident, and nothing but the event is stored. -/
structure LeftToReviewer (attempt : PaymentAttempt) (before after : Database) : Prop where
  reviewed : attempt.status = .requiresReview
  records : before.OnlyRecords after
  closed : ∀ incident ∈ before.payments.incidents, incident.paymentAttemptId = attempt.id →
    incident.status ≠ .opened

/-- A success that a provider notifies confirms the attempt or leaves an incident of it open, unless
the attempt is left to its reviewer. -/
theorem Reachable.success_answered (reachable : Reachable before)
    (notified : NotifiesSuccess attempt number before after) :
    (∃ row ∈ after.payments.attempts, row.id = attempt.id ∧ row.status = .succeeded ∧
      row.providerTransactionNo = number) ∨
    (∃ incident ∈ after.payments.incidents, incident.paymentAttemptId = attempt.id ∧
      incident.status = .opened) ∨
    LeftToReviewer attempt before after := by
  have reached : Reachable after := reachable.tail notified.step
  have accounted (accounts : after.payments.Accounts attempt.id number) :
      (∃ row ∈ after.payments.attempts, row.id = attempt.id ∧ row.status = .succeeded ∧
        row.providerTransactionNo = number) ∨
      ∃ incident ∈ after.payments.incidents, incident.paymentAttemptId = attempt.id ∧
        incident.status = .opened := by
    obtain ⟨row, found, succeeded, same⟩ | ⟨type, incident, found, -, raised⟩ := accounts
    · exact .inl ⟨row, Table.mem_of_find? found, Table.find?_key found, succeeded, same⟩
    · have member := Table.mem_of_find? found
      obtain ⟨-, own⟩ := reached.incidents_named incident member type _ (Table.find?_key found)
      exact .inr ⟨incident, member, own, raised.1⟩
  by_cases reviewed : attempt.status = .requiresReview
  · obtain accounts | records := notified.accounts_reviewed reviewed
    · exact (accounted accounts).imp_right .inl
    · by_cases opened : ∃ incident ∈ before.payments.incidents,
          incident.paymentAttemptId = attempt.id ∧ incident.status = .opened
      · refine .inr (.inl ?_)
        rw [records]
        exact opened
      · refine .inr (.inr ⟨reviewed, records, fun incident member own isOpen => opened ?_⟩)
        exact ⟨incident, member, own, isOpen⟩
  · exact (accounted (notified.accounts reviewed)).imp_right .inl

/-- The incident of the reported amount is ignored. -/
def Database.ignored : Database := Database.attempted.performAll [
  (notifyMismatch, 8),
  (.payment (.resolveIncident (.attempt .providerPaymentMismatch 7) 0 .ignore
    (some "Not our amount.")), 9)]

theorem Reachable.ignored : Reachable Database.ignored := Reachable.attempted.performAll _

def paidAfterAll : VnpayNotification where
  payloadHash := 4
  merchantReference := 6
  amount := 7000000
  transactionNo := "14"
  responseCode := "00"
  transactionStatus := "00"

theorem exists_notifiesSuccess_ignored : ∃ attempt, attempt.id = 7 ∧
    NotifiesSuccess attempt (some "14") Database.ignored
      (Database.ignored.perform (.payment (.handleVnpayIpn paidAfterAll)) 10) := by
  have named : (Database.ignored.payments.attempts.first? fun row =>
      row.merchantReference = 6).any fun row => row.id = 7 && row.provider = .vnpay := by
    decide +kernel
  obtain ⟨attempt, found, holds⟩ := (Option.any_eq_true _ _).mp named
  simp only [Bool.and_eq_true, decide_eq_true_eq] at holds
  have committed := @Database.commits_perform Database.ignored
    (.payment (.handleVnpayIpn paidAfterAll)) 10 (by decide +kernel)
  exact ⟨attempt, holds.1, .vnpay found holds.2 rfl rfl committed⟩

/-- The success that is notified after the incident was ignored confirms nothing and reopens no
incident. -/
theorem Reachable.exists_success_unanswered :
    ∃ before after, Reachable before ∧ ∃ attempt number,
      NotifiesSuccess attempt number before after ∧
      (∀ row ∈ after.payments.attempts, row.id = attempt.id → row.status ≠ .succeeded) ∧
      ∀ incident ∈ after.payments.incidents, incident.paymentAttemptId = attempt.id →
        incident.status ≠ .opened := by
  obtain ⟨attempt, own, notified⟩ := exists_notifiesSuccess_ignored
  have unanswered : ((Database.ignored.perform (.payment (.handleVnpayIpn paidAfterAll))
      10).payments.attempts.rows.all fun row => row.status ≠ .succeeded) = true ∧
      ((Database.ignored.perform (.payment (.handleVnpayIpn paidAfterAll))
      10).payments.incidents.rows.all fun incident => incident.status ≠ .opened) = true := by
    decide +kernel
  refine ⟨_, _, Reachable.ignored, attempt, _, notified, fun row member _ => ?_,
    fun incident member _ => ?_⟩
  · exact of_decide_eq_true (List.all_eq_true.mp unanswered.1 row (Table.mem_def.mp member))
  · exact of_decide_eq_true (List.all_eq_true.mp unanswered.2 incident (Table.mem_def.mp member))

/-- The success after the ignored incident is left to the reviewer. -/
theorem Reachable.success_answered_ignored :
    let after := Database.ignored.perform (.payment (.handleVnpayIpn paidAfterAll)) 10
    (∃ row ∈ after.payments.attempts, row.id = 7 ∧ row.status = .succeeded ∧
      row.providerTransactionNo = some "14") ∨
    (∃ incident ∈ after.payments.incidents, incident.paymentAttemptId = 7 ∧
      incident.status = .opened) ∨ Database.ignored.OnlyRecords after := by
  obtain ⟨attempt, own, notified⟩ := exists_notifiesSuccess_ignored
  rw [← own]
  refine (Reachable.ignored.success_answered notified).imp_right fun answered => ?_
  exact answered.imp_right fun left => left.records

end Successes

end CoffeeShop
