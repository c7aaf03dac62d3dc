import CoffeeShop.Payments.Confirmations

/-!
What becomes of a payment attempt in the long run.

A confirmation is never taken back, and an attempt that ended or waits for review is
not awaited again.  One that is awaited has a time for its next reconciliation, and a
worker can claim it then, even if another one crashed with the lock.
-/

namespace CoffeeShop

open Transaction PaymentStore Database

set_option synthInstance.maxSize 100000

/-- An attempt as it may look later. -/
structure PaymentAttempt.Continues (before after : PaymentAttempt) : Prop where
  invoiceId : after.invoiceId = before.invoiceId
  amount : after.amount = before.amount
  succeeded : before.status = .succeeded → after.status = .succeeded ∧
    after.providerTransactionNo = before.providerTransactionNo
  awaiting : after.status.isAwaiting = true → before.status.isAwaiting = true
  tries : before.reconciliationAttempts ≤ after.reconciliationAttempts

namespace PaymentAttempt

variable {before after : PaymentAttempt}

instance : IsPreorder PaymentAttempt Continues where
  refl _ := ⟨rfl, rfl, fun succeeded => ⟨succeeded, rfl⟩, fun awaits => awaits, le_rfl⟩
  trans _ _ _ first second := {
    invoiceId := second.invoiceId.trans first.invoiceId
    amount := second.amount.trans first.amount
    succeeded := fun was => by
      obtain ⟨succeeded, number⟩ := first.succeeded was
      obtain ⟨still, same⟩ := second.succeeded succeeded
      exact ⟨still, same.trans number⟩
    awaiting := first.awaiting ∘ second.awaiting
    tries := first.tries.trans second.tries }

theorem Evolves.continues (evolves : before.Evolves after) : before.Continues after where
  invoiceId := evolves.invoiceId
  amount := evolves.amount
  succeeded was := ⟨evolves.succeeded.mpr was, evolves.confirmed was⟩
  awaiting := evolves.awaiting
  tries := evolves.tries

theorem Confirms.continues (confirms : before.Confirms after) : before.Continues after where
  invoiceId := confirms.invoiceId
  amount := confirms.amount
  succeeded was := absurd was confirms.unconfirmed
  awaiting awaits := by
    rw [confirms.succeeded] at awaits
    cases awaits
  tries := confirms.tries

/-- An awaited attempt has tries left and a time for the next one. -/
def Planned (attempt : PaymentAttempt) : Prop :=
  attempt.status.isAwaiting = true → attempt.nextReconcileAt.isSome = true ∧
    attempt.reconciliationAttempts < PaymentReconciliation.maxQueryAttempts

theorem IsNew.planned (isNew : before.IsNew) : before.Planned := by
  intro _
  refine ⟨isNew.scheduled, ?_⟩
  rw [isNew.untried]
  decide

theorem Evolves.planned (evolves : before.Evolves after) (planned : before.Planned) :
    after.Planned := by
  intro awaits
  obtain ⟨scheduled, untried⟩ := planned (evolves.awaiting awaits)
  exact ⟨evolves.scheduled awaits scheduled, evolves.untried awaits untried⟩

theorem Confirms.planned (confirms : before.Confirms after) : after.Planned := by
  intro awaits
  rw [confirms.succeeded] at awaits
  cases awaits

end PaymentAttempt

section Moves

variable {opens : PaymentAttempt → Prop} {confirms : Id → Prop} {before after : Table PaymentAttempt.id}

theorem AttemptMoves.continues (moves : Moves (AttemptMove opens confirms) before after)
    {attempt : PaymentAttempt} (found : before.find? attempt.id = some attempt) :
    ∃ next, after.find? attempt.id = some next ∧ attempt.Continues next := by
  refine moves.holds (P := fun row => ∃ next, row = some next ∧ attempt.Continues next) ?_
    ⟨attempt, found, refl_of PaymentAttempt.Continues attempt⟩
  rintro first second move ⟨row, rfl, continues⟩
  cases move with
  | evolved evolves =>
      exact ⟨_, rfl, trans_of PaymentAttempt.Continues continues evolves.continues⟩
  | confirmed asked confirmation =>
      exact ⟨_, rfl, trans_of PaymentAttempt.Continues continues confirmation.continues⟩

theorem AttemptMoves.planned (moves : Moves (AttemptMove opens confirms) before after)
    (planned : ∀ attempt ∈ before, attempt.Planned) : ∀ attempt ∈ after, attempt.Planned := by
  intro attempt member
  refine moves.holds (P := fun row => ∀ attempt, row = some attempt → attempt.Planned) ?_
    (fun row there => planned row (Table.mem_of_find? there)) attempt (Table.find?_of_mem member)
  rintro first second move earlier row rfl
  cases move with
  | opened asked isNew => exact isNew.planned
  | evolved evolves => exact evolves.planned (earlier _ rfl)
  | confirmed asked confirmation => exact confirmation.planned

end Moves

section Runs

variable {before after : Database}

/-- What a step of the system does to the attempts. -/
theorem Step.movesAttempts (taken : Step before after) :
    ∃ opens confirms, Moves (AttemptMove opens confirms) before.payments.attempts
      after.payments.attempts := by
  cases taken with
  | administer catalog reservations =>
      exact ⟨fun _ => False, fun _ => False, refl_of (Moves _) before.payments.attempts⟩
  | commit command now committed =>
      by_cases other : ∀ payment, command ≠ .payment payment
      · rw [Command.payments_eq other committed]
        exact ⟨fun _ => False, fun _ => False, refl_of (Moves _) before.payments.attempts⟩
      · obtain ⟨payment, rfl⟩ : ∃ payment, command = .payment payment := by simpa using other
        obtain ⟨confirms, moves⟩ := (PaymentStep.of_command committed).moves
        exact ⟨_, confirms, moves⟩

theorem Step.attempts_continue (later : Relation.ReflTransGen Step before after)
    {attempt : PaymentAttempt} (member : attempt ∈ before.payments.attempts) :
    ∃ next, after.payments.attempts.find? attempt.id = some next ∧ attempt.Continues next := by
  induction later with
  | refl => exact ⟨attempt, Table.find?_of_mem member, refl_of PaymentAttempt.Continues attempt⟩
  | tail _ last inductionHypothesis =>
      obtain ⟨row, there, continues⟩ := inductionHypothesis
      obtain ⟨opens, confirms, moves⟩ := Step.movesAttempts last
      have same := Table.find?_key there
      rw [← same] at there
      obtain ⟨next, found, goes⟩ := AttemptMoves.continues moves there
      rw [same] at found
      exact ⟨next, found, trans_of PaymentAttempt.Continues continues goes⟩

/-- A confirmation stays as it is in every later state, whatever happens in between, and the
attempt stays about its invoice and amount; what ended is never awaited again. -/
theorem Step.attempts_absorbing (later : Relation.ReflTransGen Step before after)
    {attempt : PaymentAttempt} (member : attempt ∈ before.payments.attempts) :
    ∃ next ∈ after.payments.attempts, next.id = attempt.id ∧
      next.invoiceId = attempt.invoiceId ∧ next.amount = attempt.amount ∧
      (attempt.status = .succeeded → next.status = .succeeded ∧
        next.providerTransactionNo = attempt.providerTransactionNo) ∧
      (attempt.status ≠ .pending → attempt.status ≠ .expired →
        next.status ≠ .pending ∧ next.status ≠ .expired) := by
  obtain ⟨next, found, continues⟩ := Step.attempts_continue later member
  refine ⟨next, Table.mem_of_find? found, Table.find?_key found, continues.invoiceId,
    continues.amount, continues.succeeded, fun notPending notExpired => ?_⟩
  have finished : attempt.status.isAwaiting = false := by
    cases status : attempt.status with
    | pending => exact absurd status notPending
    | expired => exact absurd status notExpired
    | succeeded | failed | requiresReview => rfl
  constructor <;> intro status
  · have awaits := continues.awaiting (by rw [status]; rfl)
    rw [finished] at awaits
    cases awaits
  · have awaits := continues.awaiting (by rw [status]; rfl)
    rw [finished] at awaits
    cases awaits

theorem Reachable.attempts_planned {database : Database} (reachable : Reachable database) :
    ∀ attempt ∈ database.payments.attempts, attempt.Planned := by
  refine reachable.invariant (fun database => ∀ attempt ∈ database.payments.attempts,
    attempt.Planned) (fun _ member => (Table.not_mem_empty member).elim)
    fun before after _ taken planned => ?_
  obtain ⟨opens, confirms, moves⟩ := Step.movesAttempts taken
  exact AttemptMoves.planned moves planned

end Runs

/-- The payment of the two cups stays confirmed when it is notified again. -/
theorem Step.attempts_absorbing_paidOnline :
    ∃ next ∈ (Database.paidOnline.perform (.payment (.handleVnpayIpn {
        payloadHash := 2
        merchantReference := 6
        amount := 7000000
        transactionNo := "14"
        responseCode := "24"
        transactionStatus := "02" })) 9).payments.attempts, next.status = .succeeded := by
  have settled : (Database.paidOnline.payments.attempts.find? 7).any (·.status = .succeeded) := by
    decide +kernel
  obtain ⟨attempt, member, succeeded⟩ := exists_attempt settled
  obtain ⟨next, later, -, -, -, confirmed, -⟩ := Step.attempts_absorbing
    (runs_perform (.refl : Relation.ReflTransGen Step _ _) _ 9) member
  exact ⟨next, later, (confirmed succeeded).1⟩

section Single

/-- No invoice has two attempts that are awaited at once. -/
def AwaitsSingly (attempts : Table PaymentAttempt.id) : Prop :=
  ∀ attempt ∈ attempts, ∀ other ∈ attempts, attempt.status.isAwaiting = true →
    other.status.isAwaiting = true → attempt.invoiceId = other.invoiceId → attempt.id = other.id

/-- What is awaited was awaited before, unless attempts are opened. -/
theorem AttemptMoves.awaited_before {confirms : Id → Prop} {before after : Table PaymentAttempt.id}
    (moves : Moves (AttemptMove (fun _ => False) confirms) before after)
    {attempt : PaymentAttempt} (member : attempt ∈ after)
    (awaited : attempt.status.isAwaiting = true) :
    ∃ old ∈ before, old.id = attempt.id ∧ old.invoiceId = attempt.invoiceId ∧
      old.status.isAwaiting = true := by
  let Was (current : Option PaymentAttempt) : Prop := ∀ row, current = some row →
    row.status.isAwaiting = true → ∃ old, before.find? attempt.id = some old ∧
      old.invoiceId = row.invoiceId ∧ old.status.isAwaiting = true
  have later : Was (after.find? attempt.id) := by
    refine moves.holds ?_ fun row there awaits => ⟨row, there, rfl, awaits⟩
    intro first second move earlier row same awaits
    cases move with
    | opened none => exact none.elim
    | evolved evolves =>
        cases same
        obtain ⟨old, found, invoiceId, was⟩ := earlier _ rfl (evolves.awaiting awaits)
        exact ⟨old, found, invoiceId.trans evolves.invoiceId.symm, was⟩
    | confirmed asked confirmation =>
        cases same
        rw [confirmation.succeeded] at awaits
        cases awaits
  obtain ⟨old, found, invoiceId, was⟩ := later attempt (Table.find?_of_mem member) awaited
  exact ⟨old, Table.mem_of_find? found, Table.find?_key found, invoiceId, was⟩

namespace AwaitsSingly

theorem moved {confirms : Id → Prop} {before after : Table PaymentAttempt.id}
    (moves : Moves (AttemptMove (fun _ => False) confirms) before after)
    (singly : AwaitsSingly before) : AwaitsSingly after := by
  intro attempt member other otherMember awaited alsoAwaited same
  obtain ⟨old, inStore, id, invoiceId, was⟩ := AttemptMoves.awaited_before moves member awaited
  obtain ⟨oldOther, alsoInStore, otherId, otherInvoiceId, otherWas⟩ :=
    AttemptMoves.awaited_before moves otherMember alsoAwaited
  rw [← id, ← otherId]
  apply singly old inStore oldOther alsoInStore was otherWas
  rw [invoiceId, otherInvoiceId, same]

/-- An attempt is opened only when no other of its invoice is awaited. -/
theorem opened {before after : Database} {opening : PaymentAttempt}
    (opens : AttemptMoves.OpensIn before opening)
    (inserted : before.payments.attempts.insert? opening = some after.payments.attempts)
    (singly : AwaitsSingly before.payments.attempts) : AwaitsSingly after.payments.attempts := by
  have resolved {old : PaymentAttempt} (inStore : old ∈ before.payments.attempts)
      (same : old.invoiceId = opening.invoiceId) : old.status.isAwaiting ≠ true := by
    have ended := opens.resolved old inStore same
    cases status : old.status with
    | succeeded | failed => decide
    | pending | expired | requiresReview =>
        rw [status] at ended
        cases ended
  intro attempt member other otherMember awaited alsoAwaited same
  rcases (Table.mem_insert? inserted).mp member with inStore | rfl
  · rcases (Table.mem_insert? inserted).mp otherMember with otherInStore | rfl
    · exact singly attempt inStore other otherInStore awaited alsoAwaited same
    · exact absurd awaited (resolved inStore same)
  · rcases (Table.mem_insert? inserted).mp otherMember with otherInStore | rfl
    · exact absurd alsoAwaited (resolved otherInStore same.symm)
    · rfl

theorem step {before after : Database} (taken : Step before after)
    (singly : AwaitsSingly before.payments.attempts) : AwaitsSingly after.payments.attempts := by
  cases taken with
  | administer catalog reservations => exact singly
  | commit command now committed =>
      by_cases other : ∀ payment, command ≠ .payment payment
      · rw [Command.payments_eq other committed]
        exact singly
      · obtain ⟨payment, rfl⟩ : ∃ payment, command = .payment payment := by simpa using other
        cases PaymentStep.of_command committed with
        | opening opens isNew inserted => exact opened opens inserted singly
        | unconfirming moves => exact moved moves singly
        | confirming found confirms => exact moved confirms.moves singly

end AwaitsSingly

theorem Reachable.awaitsSingly {database : Database} (reachable : Reachable database) :
    AwaitsSingly database.payments.attempts :=
  reachable.invariant (fun database => AwaitsSingly database.payments.attempts)
    (fun _ member => (Table.not_mem_empty member).elim) fun _ _ _ taken singly => singly.step taken

theorem PaymentAttemptStatus.isAwaiting_iff {status : PaymentAttemptStatus} :
    status.isAwaiting = true ↔ status = .pending ∨ status = .expired := by
  cases status <;> simp [PaymentAttemptStatus.isAwaiting]

/-- However payments, notifications and reconciliations interleave, a customer never has two
payments of one invoice to make: at most one of its attempts is pending or expired. -/
theorem Reachable.awaited_single {database : Database} (reachable : Reachable database)
    {attempt other : PaymentAttempt} (member : attempt ∈ database.payments.attempts)
    (otherMember : other ∈ database.payments.attempts)
    (awaited : attempt.status = .pending ∨ attempt.status = .expired)
    (otherAwaited : other.status = .pending ∨ other.status = .expired)
    (same : attempt.invoiceId = other.invoiceId) : attempt = other := by
  rw [← PaymentAttemptStatus.isAwaiting_iff] at awaited otherAwaited
  exact Table.eq_of_key_eq member otherMember
    (reachable.awaitsSingly attempt member other otherMember awaited otherAwaited same)

/-- The first attempt of the two cups failed, and the customer has a second one. -/
def Database.reattempted : Database := Database.attempted.performAll [
  (.payment (.handleVnpayIpn {
    payloadHash := 2
    merchantReference := 6
    amount := 7000000
    transactionNo := "13"
    responseCode := "24"
    transactionStatus := "02" }), 8),
  (.payment (.createAttempt {
    employeeId := 0
    invoiceId := 3
    provider := .vnpay
    locale := "vn"
    bankCode := none
    idempotencyKey := "second"
    closeSessionAfterPayment := false }), 9)]

theorem Reachable.reattempted : Reachable Database.reattempted := Reachable.attempted.performAll _

/-- Of the two attempts of the two cups one waits. -/
theorem Reachable.awaited_single_reattempted :
    (∃ failed ∈ Database.reattempted.payments.attempts.rows,
      failed.invoiceId = 3 ∧ failed.status = .failed) ∧
    ∃ attempt ∈ Database.reattempted.payments.attempts, attempt.invoiceId = 3 ∧
      ∀ other ∈ Database.reattempted.payments.attempts, other.status = .pending →
        other.invoiceId = 3 → attempt = other := by
  have waits : ∃ attempt ∈ Database.reattempted.payments.attempts.rows,
      attempt.invoiceId = 3 ∧ attempt.status = .pending := by decide +kernel
  obtain ⟨attempt, member, own, pending⟩ := waits
  refine ⟨by decide +kernel, attempt, member, own, fun other otherMember alsoPending same => ?_⟩
  exact Reachable.reattempted.awaited_single member otherMember (.inl pending) (.inl alsoPending)
    (own.trans same.symm)

end Single

/-- What the checks of the table ask of its rows. -/
structure PaymentAttempt.Storable (rows : Table PaymentAttempt.id) : Prop where
  states : rows.rows.all stateCheck = true
  numbers : isUniqueByProvider rows (·.providerTransactionNo) = true
  links : isUniqueByProvider rows (·.providerPaymentLinkId) = true

namespace AttemptChecks

open PaymentAttempt

variable {before after : PaymentStore} {now : Timestamp}

theorem of_checks {result : Unit} (committed : Commits checkAttempts before result after) :
    Storable after.attempts := by
  simp only [checkAttempts, commits_bind, commits_get, commits_require] at committed
  obtain ⟨_, _, ⟨rfl, rfl⟩, _, _, ⟨states, rfl⟩, _, _, ⟨numbers, rfl⟩, links, rfl⟩ := committed
  exact ⟨states, numbers, links⟩

/-- A program that ends with the checks leaves a table that passes them. -/
theorem checked {α : Type} {program : Tx PaymentStore Failure α} :
    Preserves (fun store => Storable store.attempts) (program >>= fun _ => checkAttempts) where
  step before result after committed _ := by
    obtain ⟨_, _, -, checks⟩ := commits_bind.mp committed
    exact of_checks checks

theorem kept {α : Type} {program : Tx PaymentStore Failure α} [Keeps attempts program] :
    Preserves (fun store => Storable store.attempts) program where
  step before result after committed storable := by
    change Storable before.attempts at storable
    rw [show after.attempts = before.attempts from Keeps.eq attempts committed]
    exact storable

instance : PaymentStatements (On (fun store => Storable store.attempts) Implies) where
  updateAttempts _ _ _ := by
    unfold updateAttempts
    exact checked
  updateAttempt _ _ _ := by
    unfold updateAttempt
    exact checked
  claimAttempt _ _ _ := by
    unfold PaymentReconciliation.claimAttempt
    exact checked
  insertAttempt row := ⟨fun before result after committed _ => by
    simp only [PaymentsService.insertAttempt, commits_bind] at committed
    obtain ⟨_, _, -, _, _, -, _, _, -, _, _, -, _, _, -, checks⟩ := committed
    exact of_checks checks⟩
  openIncident _ _ _ := by
    unfold openIncident upsertIncident
    exact kept
  autoResolveIncidents _ _ := by
    unfold PaymentReconciliation.autoResolveIncidents
    exact kept
  resolveIncident _ _ _ _ _ := by
    unfold PaymentReconciliation.resolveIncident
    exact kept
  createWebhookEvent _ := by
    unfold PaymentsService.createWebhookEvent
    exact kept
  completeWebhook _ _ _ := by
    unfold PaymentsService.completeWebhook
    exact kept
  createRequest _ := by
    unfold PaymentReconciliation.createRequest
    exact kept
  completeRequest _ _ _ _ := by
    unfold PaymentReconciliation.completeRequest
    exact kept
  failRequest _ _ _ := by
    unfold PaymentReconciliation.failRequest
    exact kept

instance : RefundStatements (On (fun store => Storable store.attempts) Implies) where
  updateRefund _ _ _ _ := by
    unfold PaymentRefunds.updateRefund
    exact kept
  createRefund _ _ := kept
  sendRefund _ _ := by
    unfold PaymentRefunds.sendRefund
    exact kept
  awaitRefund _ _ := by
    unfold PaymentRefunds.awaitRefund
    exact kept
  interruptRequests _ _ := kept

end AttemptChecks

theorem Reachable.attempts_storable {database : Database} (reachable : Reachable database) :
    PaymentAttempt.Storable database.payments.attempts := by
  refine reachable.invariant
    (fun database => PaymentAttempt.Storable database.payments.attempts) ?_
    fun before after _ taken storable => ?_
  · exact ⟨rfl, rfl, rfl⟩
  · cases taken with
    | administer catalog reservations => exact storable
    | commit command now committed =>
        by_cases other : ∀ payment, command ≠ .payment payment
        · rw [Command.payments_eq other committed]
          exact storable
        · obtain ⟨payment, rfl⟩ : ∃ payment, command = .payment payment := by simpa using other
          change Commits (payment.execute now) before () after at committed
          exact Respects.step (R := On payments
            (On (fun store => PaymentAttempt.Storable store.attempts) Implies)) committed storable

/-- A new lock changes nothing that the checks look at. -/
theorem PaymentAttempt.Storable.locked {rows : Table PaymentAttempt.id} (storable : Storable rows)
    (condition : PaymentAttempt → Bool) (lock : Option Timestamp) :
    Storable (rows.update condition fun row => { row with reconciliationLockedAt := lock }) := by
  have unique (name : PaymentAttempt → Option String)
      (same : ∀ row : PaymentAttempt, name { row with reconciliationLockedAt := lock } = name row)
      (holds : isUniqueByProvider rows name = true) : isUniqueByProvider
        (rows.update condition fun row => { row with reconciliationLockedAt := lock }) name =
          true := by
    simp only [isUniqueByProvider, decide_eq_true_eq] at holds ⊢
    refine List.pairwise_map.mpr (holds.imp fun {row other} differ => ?_)
    split <;> split <;> simpa [same] using differ
  refine ⟨?_, unique _ (fun _ => rfl) storable.numbers, unique _ (fun _ => rfl) storable.links⟩
  rw [List.all_eq_true]
  intro row member
  obtain ⟨old, inRows, rfl⟩ := List.mem_map.mp member
  have passes := List.all_eq_true.mp storable.states old inRows
  split
  · exact passes
  · exact passes

/-- A lock is free once its worker has had its time. -/
theorem exists_all_add_lt (timeout : Nat) (lock : Option Nat) :
    ∃ time, ∀ now, time ≤ now → lock.all (· + timeout < now) = true := by
  cases lock with
  | none => exact ⟨0, fun _ _ => rfl⟩
  | some held =>
      refine ⟨held + timeout + 1, fun now late => ?_⟩
      exact decide_eq_true (Nat.lt_of_lt_of_le (Nat.lt_add_one _) late)

/-- A worker that comes for what is due can claim a scheduled attempt in time, even from one that
crashed. -/
theorem Reachable.due_claimable {database : Database} (reachable : Reachable database)
    {attempt : PaymentAttempt} (member : attempt ∈ database.payments.attempts)
    (awaited : attempt.status = .pending ∨ attempt.status = .expired)
    (scheduled : attempt.nextReconcileAt.isSome = true) :
    ∃ time, ∀ now, time ≤ now → ∃ after,
      Commits (PaymentReconciliation.claimAttempt attempt.id true now) database.payments () after := by
  obtain ⟨due, plan⟩ := Option.isSome_iff_exists.mp scheduled
  obtain ⟨time, unlocked⟩ :=
    exists_all_add_lt PaymentReconciliation.lockTimeoutMs attempt.reconciliationLockedAt
  refine ⟨max due time, fun now late => ?_⟩
  have free : PaymentReconciliation.lockIsFree attempt.reconciliationLockedAt now = true :=
    unlocked now ((le_max_right _ _).trans late)
  have isDue : PaymentReconciliation.isDue attempt now = true := by
    have reached := (le_max_left _ _).trans late
    rcases awaited with status | status <;>
      simp [PaymentReconciliation.isDue, status, plan, reached]
  have storable := reachable.attempts_storable.locked
    (fun row => row.id = attempt.id && ((!true || PaymentReconciliation.isDue row now) &&
      PaymentReconciliation.lockIsFree row.reconciliationLockedAt now)) (some now)
  apply Exists.intro
  unfold PaymentReconciliation.claimAttempt checkAttempts
  simp only [commits_bind, commits_updateExpecting, commits_get, commits_require]
  exact ⟨(), _, ⟨⟨attempt, Table.find?_of_mem member, by simp [isDue, free]⟩, rfl⟩, _, _, ⟨rfl, rfl⟩,
    (), _, ⟨storable.states, rfl⟩, (), _, ⟨storable.numbers, rfl⟩, storable.links, rfl⟩

/-- An attempt that is awaited has fewer finished reconciliations than the limit and is scheduled, and
from some time on a worker that comes for what is due can claim it, even from one that crashed. -/
theorem Reachable.awaited_claimable {database : Database} (reachable : Reachable database)
    {attempt : PaymentAttempt} (member : attempt ∈ database.payments.attempts)
    (awaited : attempt.status = .pending ∨ attempt.status = .expired) :
    attempt.reconciliationAttempts < PaymentReconciliation.maxQueryAttempts ∧
      attempt.nextReconcileAt.isSome ∧ ∃ time, ∀ now, time ≤ now → ∃ after,
        Commits (PaymentReconciliation.claimAttempt attempt.id true now) database.payments () after := by
  obtain ⟨scheduled, untried⟩ :=
    reachable.attempts_planned attempt member (PaymentAttemptStatus.isAwaiting_iff.mpr awaited)
  exact ⟨untried, scheduled, reachable.due_claimable member awaited scheduled⟩

/-- The attempt that waits can be claimed in time. -/
theorem Reachable.awaited_claimable_attempted :
    ∃ attempt ∈ Database.attempted.payments.attempts, ∃ now after,
      Commits (PaymentReconciliation.claimAttempt attempt.id true now) Database.attempted.payments ()
        after := by
  have waits : (Database.attempted.payments.attempts.find? 7).any (·.status = .pending) := by
    decide +kernel
  obtain ⟨attempt, member, pending⟩ := exists_attempt waits
  obtain ⟨-, -, time, claims⟩ := Reachable.attempted.awaited_claimable member (.inl pending)
  exact ⟨attempt, member, time, claims time le_rfl⟩

end CoffeeShop
