import CoffeeShop.Payments.Incidents

/-!
What a MoMo notification can settle: nothing, unless it passes the checks of the references.
-/

namespace CoffeeShop

open Transaction PaymentStore Accounting

namespace PaymentsService

variable {attempt : PaymentAttempt} {notification : MomoNotification} {before after : Database}
  {now : Timestamp}

/-- The notification is about an attempt of MoMo, its invoice and its amount. -/
def PassesChecks (database : Database) (notification : MomoNotification) : Prop :=
  ∃ attempt invoice,
    database.payments.attempts.first? (fun row => row.merchantReference = notification.orderId) =
      some attempt ∧ attempt.provider = .momo ∧
    database.sales.invoices.find? attempt.invoiceId = some invoice ∧
    referenceMatches attempt invoice notification = true

/-- No invoice is paid, no money moves, and no attempt succeeds or fails. -/
structure SettlesNothing (before after : Database) : Prop where
  others : after = { before with payments := after.payments }
  attempts : ∀ row ∈ after.payments.attempts, row.status = .succeeded ∨ row.status = .failed →
    ∃ known ∈ before.payments.attempts, known.id = row.id ∧ known.status = row.status ∧
      known.providerTransactionNo = row.providerTransactionNo

theorem SettlesNothing.of_attempts (others : after = { before with payments := after.payments })
    (same : after.payments.attempts = before.payments.attempts) : SettlesNothing before after := by
  refine ⟨others, fun row member _ => ⟨row, ?_, rfl, rfl, rfl⟩⟩
  rwa [same] at member

/-- A review settles nothing. -/
theorem settlesNothing_of_review {input : ReviewInput} {result : Unit}
    (committed : Commits (paymentTx (markPaymentReview attempt input now)) before result after) :
    SettlesNothing before after := by
  obtain ⟨store, reviews, rfl⟩ := commits_paymentTx.mp committed
  obtain ⟨_, marked, marks, opens⟩ := commits_bind.mp reviews
  obtain ⟨known, inStore, -, there, apart⟩ := AttemptMoves.find?_updateAttempt marks
  unfold openIncident upsertIncident checkIncidents at opens
  refine ⟨rfl, fun row member settled => ?_⟩
  change row ∈ store.attempts at member
  rw [show store.attempts = marked.attempts from Keeps.eq PaymentStore.attempts opens] at member
  have found := Table.find?_of_mem member
  by_cases same : row.id = attempt.id
  · rw [same, there] at found
    obtain rfl := Option.some.inj found
    refine ⟨known, Table.mem_of_find? inStore, ?_⟩
    unfold reviewed at settled ⊢
    split_ifs at settled ⊢
    · exact ⟨rfl, rfl, rfl⟩
    · exact absurd settled (by simp)
  · rw [apart row.id same] at found
    exact ⟨row, Table.mem_of_find? found, rfl, rfl, rfl⟩

/-- Without the attempt of the notification only the event is stored. -/
theorem commits_handleMomoIpn_stranger
    (missing : before.payments.attempts.first?
      (fun row => row.merchantReference = notification.orderId) = none)
    (committed : Commits (handleMomoIpn notification now) before () after) :
    before.OnlyRecords after := by
  simp only [handleMomoIpn, commits_bind, commits_paymentTx] at committed
  obtain ⟨known, _, ⟨_, looked, rfl⟩, _, _, ⟨stored, stores, rfl⟩, code, answer, answers, last, ends,
    rfl⟩ := committed
  obtain ⟨rfl, rfl⟩ := commits_findFirst.mp looked
  rw [paymentAttempt_get, missing] at answers
  obtain ⟨-, rfl⟩ := commits_pure.mp answers
  rw [commits_createWebhookEvent stores] at ends
  unfold Database.OnlyRecords
  rw [commits_completeWebhook ends]

/-- A notification that does not pass the checks settles nothing. -/
theorem settlesNothing_of_not_passes (fails : ¬PassesChecks before notification)
    (committed : Commits (handleMomoIpn notification now) before () after) :
    SettlesNothing before after := by
  simp only [handleMomoIpn, commits_bind, commits_paymentTx] at committed
  obtain ⟨known, _, ⟨_, looked, rfl⟩, _, _, ⟨stored, stores, rfl⟩, code, answer, answers, last, ends,
    rfl⟩ := committed
  obtain ⟨rfl, rfl⟩ := commits_findFirst.mp looked
  have opening := commits_createWebhookEvent stores
  have closing := commits_completeWebhook ends
  -- the handler of the attempt, between the writes of the event
  have settles : SettlesNothing { before with payments := stored } answer := by
    obtain ⟨attempt, named, ran⟩ | ⟨-, nothing⟩ := commits_ifSome.mp answers
    · obtain ⟨found, own⟩ := Option.filter_eq_some_iff.mp named
      dsimp only [applyMomo] at ran
      obtain ⟨invoice, _, read, applied⟩ := commits_bind.mp ran
      obtain ⟨_, reads, rfl⟩ := commits_salesTx.mp read
      obtain ⟨inStore, rfl⟩ := commits_findUniqueOrFail.mp reads
      have mismatch : referenceMatches attempt invoice notification = false := by
        rw [← Bool.not_eq_true]
        exact fun matches_ => fails ⟨attempt, invoice, found, of_decide_eq_true own, inStore, matches_⟩
      simp only [mismatch, Bool.not_false, Bool.true_or, if_true] at applied
      obtain ⟨_, _, reviews, answer⟩ := commits_bind.mp applied
      obtain ⟨-, rfl⟩ := commits_pure.mp answer
      exact settlesNothing_of_review reviews
    · obtain ⟨-, rfl⟩ := commits_pure.mp nothing
      exact .of_attempts rfl rfl
  obtain ⟨others, attempts⟩ := settles
  refine ⟨?_, fun row member settled => ?_⟩
  · rw [others]
  · change row ∈ last.attempts at member
    rw [closing] at member
    obtain ⟨known, inStore, same⟩ := attempts row member settled
    rw [opening] at inStore
    exact ⟨known, inStore, same⟩

end PaymentsService

end CoffeeShop
