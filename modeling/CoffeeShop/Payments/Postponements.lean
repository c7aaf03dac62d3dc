import CoffeeShop.Payments.Incidents

/-!
A payment attempt that its provider says nothing definite about is not postponed for ever.

Every query that fails or stays indefinite is counted.  The count never falls, and the query that
reaches the limit has the attempt reviewed, with an incident.
-/

namespace CoffeeShop

open Transaction PaymentStore Database

set_option synthInstance.maxSize 100000

namespace PaymentReconciliation

/-- The answer does not say whether the attempt was paid. -/
def isIndefinite (view : AttemptView) : ProviderResponse → Bool
  | .vnpay response =>
      response.responseCode ≠ some "00" ||
        ((responseMismatch view.attempt response).isNone &&
          response.transactionStatus.all fun status =>
            status ≠ "00" && status ≠ "04" && status ≠ "07" &&
              !VnpayService.isFinalPaymentFailure "00" status)
  | .momo response =>
      response.resultCode ≠ 0 && !MomoService.isFinalPaymentFailure response.resultCode
  | .payos response expectedPaymentLinkId =>
      !payosMismatch view response expectedPaymentLinkId &&
        (response.status = .pending || response.status = .underpaid || response.status = .processing)

end PaymentReconciliation

/-- A query of the attempt fails or stays indefinite. -/
inductive Postpones (attemptId : Id) (before after : Database) : Prop
  | failed {requestId : Id} {message : String} {now : Timestamp}
      (committed : Commits (paymentTx (PaymentReconciliation.recordQueryFailure attemptId requestId
        message now)) before () after)
  | indefinite {view : AttemptView} {response : PaymentReconciliation.ProviderResponse}
      {now : Timestamp} (known : before.payments.attempts.find? attemptId = some view.attempt)
      (located : before.sales.invoices.find? view.attempt.invoiceId = some view.invoice)
      (isIndefinite : PaymentReconciliation.isIndefinite view response = true)
      (committed : Commits (PaymentReconciliation.queryProvider attemptId response now) before ()
        after)

/-- The attempt keeps its status and is to be queried again. -/
structure Reschedules (attemptId : Id) (before after : Database) : Prop where
  postpones : Postpones attemptId before after
  again : ∃ row next, before.payments.attempts.find? attemptId = some row ∧
    after.payments.attempts.find? attemptId = some next ∧ next.status = row.status ∧
      next.nextReconcileAt.isSome = true

/-- A run of the system that reschedules the attempt so many times, among whatever else. -/
inductive Reschedulings (attemptId : Id) (first : Database) : Nat → Database → Prop
  | none : Reschedulings attemptId first 0 first
  | other {count : Nat} {middle last : Database}
      (earlier : Reschedulings attemptId first count middle) (taken : Step middle last) :
      Reschedulings attemptId first count last
  | again {count : Nat} {middle last : Database}
      (earlier : Reschedulings attemptId first count middle)
      (reschedules : Reschedules attemptId middle last) :
      Reschedulings attemptId first (count + 1) last

section Outcomes

open PaymentReconciliation

variable {attempt : PaymentAttempt} {now : Timestamp}

/-- What is postponed is counted and scheduled below the limit, and reviewed at it. -/
theorem commits_rescheduleOrReview {type : PaymentReconciliationIncidentType}
    {before after : PaymentStore} (found : before.attempts.find? attempt.id = some attempt)
    (committed : Commits (rescheduleOrReview attempt type now) before () after) :
    ∃ next, after.attempts.find? attempt.id = some next ∧
      next.reconciliationAttempts = attempt.reconciliationAttempts + 1 ∧
      ((attempt.status = .succeeded ∧ next.nextReconcileAt = none) ∨
        (attempt.status ≠ .succeeded ∧ next.status = .requiresReview ∧
          next.nextReconcileAt = none ∧
          ∃ incident, after.incidents.find? (.attempt type attempt.id) = some incident ∧
            incident.IsRaised) ∨
        (attempt.status ≠ .succeeded ∧ next.status = attempt.status ∧
          next.nextReconcileAt.isSome = true ∧
          next.reconciliationAttempts < maxQueryAttempts)) := by
  dsimp only [rescheduleOrReview] at committed
  simp only [commits_ite] at committed
  obtain ⟨succeeded, recounted⟩ | ⟨unconfirmed, ⟨-, reviewed⟩ | ⟨left, postponed⟩⟩ := committed
  · obtain ⟨_, middle, recounts, opened⟩ := commits_bind.mp recounted
    obtain ⟨row, known, -, there, -⟩ := AttemptMoves.find?_updateAttempt recounts
    unfold openAttemptIncident openIncident upsertIncident checkIncidents at opened
    rw [found] at known
    cases known
    rw [← show after.attempts = middle.attempts from Keeps.eq attempts opened] at there
    exact ⟨_, there, rfl, .inl ⟨succeeded, rfl⟩⟩
  · obtain ⟨_, middle, reviews, opened⟩ := commits_bind.mp reviewed
    obtain ⟨row, known, -, there, -⟩ := AttemptMoves.find?_updateAttempt reviews
    have raised := Accounting.commits_openIncident opened
    unfold openAttemptIncident openIncident upsertIncident checkIncidents at opened
    rw [found] at known
    cases known
    rw [← show after.attempts = middle.attempts from Keeps.eq attempts opened] at there
    refine ⟨_, there, ?_, .inr (.inl ⟨unconfirmed, ?_, ?_, raised⟩)⟩
    all_goals simp [PaymentReconciliation.reviewed, unconfirmed, reconciled]
  · obtain ⟨row, known, -, there, -⟩ := AttemptMoves.find?_updateAttempt postponed
    rw [found] at known
    cases known
    exact ⟨_, there, rfl, .inr (.inr ⟨unconfirmed, rfl, rfl, Nat.lt_of_not_le left⟩)⟩

section Answers

variable {view : AttemptView} {before after : Database}

/-- The attempt is read with its invoice. -/
theorem eq_of_findAttemptView {seen : AttemptView} {middle : Database}
    (known : before.payments.attempts.find? view.attempt.id = some view.attempt)
    (located : before.sales.invoices.find? view.attempt.invoiceId = some view.invoice)
    (committed : Commits (findAttemptView view.attempt.id) before seen middle) :
    seen = view ∧ middle = before := by
  obtain ⟨found, invoice, rfl⟩ := AttemptMoves.commits_findAttemptView committed
  rw [known] at found
  rw [← Option.some.inj found, located] at invoice
  obtain ⟨_, _⟩ := seen
  obtain ⟨_, _⟩ := view
  cases found
  cases invoice
  exact ⟨rfl, rfl⟩

/-- The reschedule or the review of an attempt in the database. -/
theorem reschedules_of_paymentTx {type : PaymentReconciliationIncidentType}
    (committed : Commits (paymentTx (rescheduleOrReview view.attempt type now)) before () after) :
    ∃ type, Commits (rescheduleOrReview view.attempt type now) before.payments () after.payments := by
  obtain ⟨_, postponed, rfl⟩ := commits_paymentTx.mp committed
  exact ⟨type, postponed⟩

theorem commits_applyQueryResponse {response : VnpayQueryResponse}
    (known : before.payments.attempts.find? view.attempt.id = some view.attempt)
    (located : before.sales.invoices.find? view.attempt.invoiceId = some view.invoice)
    (indefinite : isIndefinite view (.vnpay response) = true)
    (committed : Commits (applyQueryResponse view.attempt.id response now) before () after) :
    ∃ type, Commits (rescheduleOrReview view.attempt type now) before.payments () after.payments := by
  obtain ⟨seen, _, looked, answered⟩ := commits_bind.mp committed
  obtain ⟨rfl, rfl⟩ := eq_of_findAttemptView known located looked
  dsimp only at answered
  simp only [commits_ite, commits_ifSome] at answered
  simp only [isIndefinite, ne_eq, Bool.or_eq_true, Bool.and_eq_true, decide_not,
    Bool.not_eq_eq_eq_not, Bool.not_true, decide_eq_false_iff_not, Option.isNone_iff_eq_none,
    Option.all_eq_true] at indefinite
  obtain ⟨-, postponed⟩ | ⟨code, answered⟩ := answered
  · exact reschedules_of_paymentTx postponed
  · obtain ⟨matches_, status⟩ := indefinite.resolve_left code
    obtain ⟨mismatch, -⟩ | ⟨-, ⟨paid, -⟩ | ⟨-, ⟨final, chosen, -⟩ | ⟨-, ⟨reversed, -⟩ |
      ⟨-, postponed⟩⟩⟩⟩ := answered
    · rw [matches_] at mismatch
      cases mismatch
    · exact absurd rfl (status _ paid).1.1.1
    · obtain ⟨same, isFinal⟩ := Option.filter_eq_some_iff.mp chosen
      rw [(status final same).2] at isFinal
      cases isFinal
    · obtain reversed | fraud := reversed
      · exact absurd rfl (status _ reversed).1.1.2
      · exact absurd rfl (status _ fraud).1.2
    · exact reschedules_of_paymentTx postponed

theorem commits_applyMomoResponse {response : MomoQueryResponse}
    (known : before.payments.attempts.find? view.attempt.id = some view.attempt)
    (located : before.sales.invoices.find? view.attempt.invoiceId = some view.invoice)
    (indefinite : isIndefinite view (.momo response) = true)
    (committed : Commits (applyMomoResponse view.attempt.id response now) before () after) :
    ∃ type, Commits (rescheduleOrReview view.attempt type now) before.payments () after.payments := by
  obtain ⟨seen, _, looked, answered⟩ := commits_bind.mp committed
  obtain ⟨rfl, rfl⟩ := eq_of_findAttemptView known located looked
  dsimp only at answered
  simp only [commits_ite] at answered
  simp only [isIndefinite, Bool.and_eq_true, decide_eq_true_eq, Bool.not_eq_eq_eq_not,
    Bool.not_true] at indefinite
  obtain ⟨captured, -⟩ | ⟨-, ⟨final, -⟩ | ⟨-, postponed⟩⟩ := answered
  · exact absurd captured indefinite.1
  · rw [indefinite.2] at final
    cases final
  · exact reschedules_of_paymentTx postponed

theorem commits_applyPayosResponse {response : PayosQueryResponse} {expected : Option String}
    (known : before.payments.attempts.find? view.attempt.id = some view.attempt)
    (located : before.sales.invoices.find? view.attempt.invoiceId = some view.invoice)
    (indefinite : isIndefinite view (.payos response expected) = true)
    (committed : Commits (applyPayosResponse view.attempt.id response expected now) before ()
      after) :
    ∃ type, Commits (rescheduleOrReview view.attempt type now) before.payments () after.payments := by
  obtain ⟨seen, _, looked, answered⟩ := commits_bind.mp committed
  obtain ⟨rfl, rfl⟩ := eq_of_findAttemptView known located looked
  dsimp only at answered
  simp only [commits_ite] at answered
  simp only [isIndefinite, Bool.and_eq_true, Bool.or_eq_true, decide_eq_true_eq,
    Bool.not_eq_eq_eq_not, Bool.not_true] at indefinite
  obtain ⟨matches_, status⟩ := indefinite
  obtain ⟨mismatch, -⟩ | ⟨-, ⟨paid, -⟩ | ⟨-, ⟨ended, -⟩ | ⟨-, postponed⟩⟩⟩ := answered
  · rw [matches_] at mismatch
    cases mismatch
  · simp [paid] at status
  · obtain ended | ended | ended := ended
    all_goals simp [ended] at status
  · exact reschedules_of_paymentTx postponed

end Answers

/-- A query without a definite answer ends in a reschedule or a review. -/
theorem Postpones.exists_rescheduled {before after : Database} {attemptId : Id}
    (postpones : Postpones attemptId before after)
    (found : before.payments.attempts.find? attemptId = some attempt) :
    ∃ type now middle, middle.attempts = before.payments.attempts ∧
      Commits (rescheduleOrReview attempt type now) middle () after.payments := by
  cases postpones with
  | failed committed =>
      obtain ⟨store, records, rfl⟩ := commits_paymentTx.mp committed
      simp only [recordQueryFailure, commits_bind, commits_findUnique, commits_whenSome] at records
      obtain ⟨_, _, fails, current, middle, ⟨rfl, rfl⟩, postponed⟩ := records
      unfold failRequest checkProviderRequests at fails
      have kept : middle.attempts = before.payments.attempts := Keeps.eq attempts fails
      have known : (paymentAttempt.get middle).find? attemptId = some attempt := by
        rw [paymentAttempt_get, kept, found]
      rw [known] at postponed
      obtain ⟨row, same, ran⟩ | ⟨none, -⟩ := postponed
      · cases same
        exact ⟨_, _, middle, kept, ran⟩
      · cases none
  | @indefinite view response now known located isIndefinite committed =>
      rw [known] at found
      cases found
      obtain rfl := Table.find?_key known
      obtain ⟨row, _, read, answered⟩ := commits_bind.mp committed
      obtain ⟨_, reads, rfl⟩ := commits_paymentTx.mp read
      obtain ⟨same, rfl⟩ := commits_findUniqueOrFail.mp reads
      rw [paymentAttempt_get, known] at same
      cases same
      have postponed : ∃ type, Commits (rescheduleOrReview view.attempt type now) before.payments ()
          after.payments := by
        unfold applyResponse at answered
        split at answered
        · exact commits_applyQueryResponse known located isIndefinite answered
        · exact commits_applyMomoResponse known located isIndefinite answered
        · exact commits_applyPayosResponse known located isIndefinite answered
        · exact (commits_throw.mp answered).elim
      obtain ⟨type, ran⟩ := postponed
      exact ⟨type, now, before.payments, rfl, ran⟩

end Outcomes

section Runs

variable {before after : Database} {attemptId : Id}

theorem Postpones.step (postpones : Postpones attemptId before after) : Step before after := by
  cases postpones with
  | failed committed => exact .commit (.payment (.recordQueryFailure attemptId _ _)) _ committed
  | indefinite known located isIndefinite committed =>
      exact .commit (.payment (.queryProvider attemptId _)) _ committed

/-- A reschedule is counted and stays below the limit. -/
theorem Reschedules.counted (reschedules : Reschedules attemptId before after) :
    ∃ row next, before.payments.attempts.find? attemptId = some row ∧
      after.payments.attempts.find? attemptId = some next ∧
      next.reconciliationAttempts = row.reconciliationAttempts + 1 ∧
      next.reconciliationAttempts < PaymentReconciliation.maxQueryAttempts := by
  obtain ⟨row, next, found, there, -, scheduled⟩ := reschedules.again
  obtain ⟨type, now, middle, same, ran⟩ := reschedules.postpones.exists_rescheduled found
  obtain rfl := Table.find?_key found
  rw [← same] at found
  obtain ⟨other, found', counted, ended | ended | left⟩ := commits_rescheduleOrReview found ran
  all_goals
    rw [there] at found'
    cases found'
  · rw [ended.2] at scheduled
    cases scheduled
  · rw [ended.2.2.1] at scheduled
    cases scheduled
  · exact ⟨row, next, same ▸ found, there, counted, left.2.2.2⟩

/-- However a run goes on, it reschedules an attempt fewer times than the limit. -/
theorem Reschedulings.lt {first last : Database} {count : Nat}
    (run : Reschedulings attemptId first count last) :
    count < PaymentReconciliation.maxQueryAttempts := by
  have counted : count < PaymentReconciliation.maxQueryAttempts ∧
      (count = 0 ∨ ∃ row, last.payments.attempts.find? attemptId = some row ∧
        count ≤ row.reconciliationAttempts) := by
    induction run with
    | none => exact ⟨by decide, .inl rfl⟩
    | other _ taken inductionHypothesis =>
        obtain ⟨less, none | ⟨row, found, counts⟩⟩ := inductionHypothesis
        · exact ⟨less, .inl none⟩
        · obtain rfl := Table.find?_key found
          obtain ⟨next, there, continues⟩ :=
            Step.attempts_continue (.single taken) (Table.mem_of_find? found)
          exact ⟨less, .inr ⟨next, there, counts.trans continues.tries⟩⟩
    | @again times _ _ _ reschedules inductionHypothesis =>
        obtain ⟨row, next, found, there, counted, less⟩ := reschedules.counted
        have counts : times ≤ row.reconciliationAttempts := by
          obtain ⟨-, none | ⟨same, known, counts⟩⟩ := inductionHypothesis
          · rw [none]
            exact Nat.zero_le _
          · rw [found] at known
            cases known
            exact counts
        exact ⟨by omega, .inr ⟨next, there, by omega⟩⟩
  exact counted.1

/-- A pending or expired attempt is scheduled, and a worker can claim it in time.  No run reschedules
an attempt as often as the limit says, and a query without a definite answer of one that is not
confirmed reschedules it or has it reviewed, with an open incident. -/
theorem Reachable.attempt_unstranded {database : Database} (reachable : Reachable database)
    {attempt : PaymentAttempt} (member : attempt ∈ database.payments.attempts) :
    ((attempt.status = .pending ∨ attempt.status = .expired) → attempt.nextReconcileAt.isSome ∧
      ∃ time, ∀ now, time ≤ now → ∃ after, Commits
        (PaymentReconciliation.claimAttempt attempt.id true now) database.payments () after) ∧
    (∀ count last, Reschedulings attempt.id database count last →
      count < PaymentReconciliation.maxQueryAttempts) ∧
    ∀ after, Postpones attempt.id database after → attempt.status ≠ .succeeded →
      Reschedules attempt.id database after ∨
      ((∃ next ∈ after.payments.attempts, next.id = attempt.id ∧ next.status = .requiresReview) ∧
        ∃ incident ∈ after.payments.incidents, incident.paymentAttemptId = attempt.id ∧
          incident.status = .opened) := by
  refine ⟨fun awaited => ?_, fun count last run => run.lt, fun after postpones unconfirmed => ?_⟩
  · have scheduled := (reachable.attempts_planned attempt member
      (PaymentAttemptStatus.isAwaiting_iff.mpr awaited)).1
    exact ⟨scheduled, reachable.due_claimable member awaited scheduled⟩
  · have found := Table.find?_of_mem member
    obtain ⟨type, now, middle, same, ran⟩ := postpones.exists_rescheduled found
    obtain ⟨next, there, -, confirmed | reviewed | left⟩ :=
      commits_rescheduleOrReview (same ▸ found) ran
    · exact absurd confirmed.1 unconfirmed
    · obtain ⟨-, status, -, incident, raisedThere, raised⟩ := reviewed
      have reached : Reachable after := reachable.tail postpones.step
      have inStore := Table.mem_of_find? raisedThere
      obtain ⟨-, own⟩ := reached.incidents_named incident inStore type _ (Table.find?_key raisedThere)
      exact .inr ⟨⟨next, Table.mem_of_find? there, Table.find?_key there, status⟩,
        incident, inStore, own, raised.1⟩
    · exact .inl ⟨postpones, attempt, next, found, there, left.2.1, left.2.2.1⟩

end Runs

/-- The provider is asked about the payment of the two cups. -/
def Database.queried : Database := Database.attempted.perform (.payment (.createQuery 7)) 900

theorem Reachable.queried : Reachable Database.queried := Reachable.attempted.perform _ _

/-- The query of the two cups fails. -/
def failQuery : Command := .payment (.recordQueryFailure 7 8 "VNPay does not answer.")

theorem reschedules_queried :
    Reschedules 7 Database.queried (Database.queried.perform failQuery 901) := by
  have committed := @Database.commits_perform Database.queried failQuery 901 (by decide +kernel)
  have pending : (Database.queried.payments.attempts.find? 7).any (·.status = .pending) := by
    decide +kernel
  have again : ((Database.queried.perform failQuery 901).payments.attempts.find? 7).any fun row =>
      row.status = .pending && row.nextReconcileAt.isSome := by
    decide +kernel
  obtain ⟨row, found, status⟩ := (Option.any_eq_true _ _).mp pending
  obtain ⟨next, there, holds⟩ := (Option.any_eq_true _ _).mp again
  simp only [Bool.and_eq_true, decide_eq_true_eq] at status holds
  exact ⟨.failed committed, row, next, found, there, holds.1.trans status.symm, holds.2⟩

/-- The attempt is claimed in time, and its failed query neither reaches the limit nor loses it. -/
theorem Reachable.attempt_unstranded_queried :
    ∃ attempt ∈ Database.queried.payments.attempts, attempt.id = 7 ∧
      (∃ now after, Commits (PaymentReconciliation.claimAttempt 7 true now)
        Database.queried.payments () after) ∧
      1 < PaymentReconciliation.maxQueryAttempts ∧
      (Reschedules 7 Database.queried (Database.queried.perform failQuery 901) ∨
        ∃ next ∈ (Database.queried.perform failQuery 901).payments.attempts,
          next.status = .requiresReview) := by
  have pending : ∃ attempt ∈ Database.queried.payments.attempts.rows,
      attempt.id = 7 ∧ attempt.status = .pending := by
    decide +kernel
  obtain ⟨attempt, inRows, own, waits⟩ := pending
  have member := Table.mem_def.mpr inRows
  obtain ⟨planned, few, answered⟩ := Reachable.queried.attempt_unstranded member
  rw [own] at planned few answered
  obtain ⟨-, time, claims⟩ := planned (.inl waits)
  have rescheduled := reschedules_queried
  refine ⟨attempt, member, own, ⟨time, claims time le_rfl⟩,
    few 1 _ (.again .none rescheduled), ?_⟩
  exact (answered _ rescheduled.postpones (by rw [waits]; decide)).imp_right
    fun reviewed => reviewed.1.imp fun _ => And.imp_right And.right

end CoffeeShop
