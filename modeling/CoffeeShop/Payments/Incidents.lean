import CoffeeShop.Payments.AttemptRuns

/-!
No success that a provider notifies is dropped.

It either confirms the attempt, which then stays confirmed, or opens an incident of the
attempt.  Such an incident is not closed by a reconciliation: it stays open until an
employee closes it.
-/

namespace CoffeeShop

open Transaction PaymentStore Database

set_option synthInstance.maxSize 100000

/-- A reconciliation that succeeds closes the incidents of these types. -/
def PaymentReconciliationIncidentType.isTransient : PaymentReconciliationIncidentType → Bool
  | .staleAttempt | .providerUnavailable => true
  | .paymentStateConflict | .providerPaymentMismatch | .refundStateMismatch => false

namespace PaymentReconciliationIncident

/-- It is what its key says, if this is the key of an incident of an attempt. -/
def IsNamed (incident : PaymentReconciliationIncident) : Prop :=
  ∀ type attemptId, incident.deduplicationKey = .attempt type attemptId →
    incident.type = type ∧ incident.paymentAttemptId = attemptId

/-- It was opened and no employee has closed it since. -/
def IsRaised (incident : PaymentReconciliationIncident) : Prop :=
  incident.status = .opened ∧ incident.resolvedById = none

/-- It waits for an employee, or one has closed it. -/
def IsReported (incident : PaymentReconciliationIncident) : Prop :=
  incident.status = .opened ∨ incident.resolvedById.isSome = true

/-- The same incident, whatever has become of it. -/
structure Concerns (before after : PaymentReconciliationIncident) : Prop where
  key : after.deduplicationKey = before.deduplicationKey
  type : after.type = before.type
  attempt : after.paymentAttemptId = before.paymentAttemptId

theorem Concerns.named {before after : PaymentReconciliationIncident} (same : before.Concerns after)
    (named : before.IsNamed) : after.IsNamed := by
  intro type attemptId key
  obtain ⟨isType, ofAttempt⟩ := named type attemptId (same.key.symm.trans key)
  exact ⟨same.type.trans isType, same.attempt.trans ofAttempt⟩

end PaymentReconciliationIncident

/-- A single change of an incident. -/
inductive IncidentMove (key : IncidentKey) :
    Option PaymentReconciliationIncident → Option PaymentReconciliationIncident → Prop
  | recorded {incident : PaymentReconciliationIncident} (own : incident.deduplicationKey = key)
      (named : incident.IsNamed) (isOpen : incident.status = .opened) :
      IncidentMove key none (some incident)
  | reopened {before after : PaymentReconciliationIncident} (same : before.Concerns after)
      (isOpen : after.status = .opened) : IncidentMove key (some before) (some after)
  | dismissed {before after : PaymentReconciliationIncident} (same : before.Concerns after)
      (transient : before.type.isTransient = true) : IncidentMove key (some before) (some after)
  | closed {before after : PaymentReconciliationIncident} (same : before.Concerns after)
      (employee : after.resolvedById.isSome = true) : IncidentMove key (some before) (some after)

namespace IncidentMoves

instance : Apart incidents paymentAttempt := ⟨fun _ _ => rfl⟩
instance : Apart incidents paymentWebhookEvent := ⟨fun _ _ => rfl⟩
instance : Apart incidents paymentRefund := ⟨fun _ _ => rfl⟩
instance : Apart incidents paymentProviderRequest := ⟨fun _ _ => rfl⟩
instance : Apart incidents refundCall := ⟨fun _ _ => rfl⟩

variable {before after : Database} {now : Timestamp}

/-- The statements move the incidents so. -/
abbrev MovesIncidents {α : Type} (program : Tx PaymentStore Failure α) : Prop :=
  Respects (On incidents (Moves IncidentMove)) program

instance checkIncidents : MovesIncidents checkIncidents := by
  unfold CoffeeShop.checkIncidents
  infer_instance

theorem openIncident {input : IncidentInput} (own : input.IsOwn) :
    MovesIncidents (openIncident input now) := by
  have reopening : MovesIncidents (updateExpecting paymentReconciliationIncident
      input.deduplicationKey (fun _ => true)
      (fun row => { row with
        status := .opened
        title := input.title
        detectedAt := now
        resolvedAt := none
        resolvedById := none
        resolutionNote := none })
      (Failure.notFound "Record to update not found.")) :=
    (moves_updateExpecting fun _ _ _ => .reopened ⟨rfl, rfl, rfl⟩ rfl :
      Respects (On paymentReconciliationIncident.get _) _)
  have recording : MovesIncidents (create paymentReconciliationIncident {
      deduplicationKey := input.deduplicationKey
      type := input.type
      status := .opened
      title := input.title
      detectedAt := now
      resolvedAt := none
      resolutionNote := none
      paymentAttemptId := input.paymentAttemptId
      paymentRefundId := input.paymentRefundId
      resolvedById := none }
      (Failure.constraint "PaymentReconciliationIncident_deduplicationKey_key")) :=
    (moves_create (.recorded rfl own rfl) : Respects (On paymentReconciliationIncident.get _) _)
  unfold CoffeeShop.openIncident upsertIncident
  infer_instance

theorem autoResolveIncidents {attemptId : Id} :
    MovesIncidents (PaymentReconciliation.autoResolveIncidents attemptId now) := by
  have dismissing : MovesIncidents (updateMany paymentReconciliationIncident
      (fun row => row.paymentAttemptId = attemptId && row.paymentRefundId.isNone &&
        row.status = .opened && (row.type = .staleAttempt || row.type = .providerUnavailable))
      (fun row => { row with
        status := .resolved
        resolvedAt := some now
        resolutionNote := some "Resolved by a successful provider reconciliation." })) := by
    change Respects (On paymentReconciliationIncident.get (Moves IncidentMove)) _
    apply moves_updateMany
    intro row chosen
    refine .dismissed ⟨rfl, rfl, rfl⟩ ?_
    simp only [Bool.and_eq_true, Bool.or_eq_true, decide_eq_true_eq] at chosen
    obtain ⟨-, stale | unavailable⟩ := chosen
    · rw [stale]
      rfl
    · rw [unavailable]
      rfl
  unfold PaymentReconciliation.autoResolveIncidents
  infer_instance

theorem resolveIncident {key : IncidentKey} {employeeId : Id}
    {action : PaymentReconciliation.IncidentAction} {resolutionNote : Option String} :
    MovesIncidents
      (PaymentReconciliation.resolveIncident key employeeId action resolutionNote now) := by
  have closing (status : IncidentStatus) : MovesIncidents (updateExpecting
      paymentReconciliationIncident key (fun row => row.status = .opened)
      (fun row => { row with
        status
        resolutionNote
        resolvedAt := some now
        resolvedById := some employeeId })
      (Failure.notFound "Record to update not found.")) :=
    (moves_updateExpecting fun _ _ _ => .closed ⟨rfl, rfl, rfl⟩ rfl :
      Respects (On paymentReconciliationIncident.get _) _)
  unfold PaymentReconciliation.resolveIncident
  infer_instance

instance : PaymentStatements (On incidents (Moves IncidentMove)) where
  updateAttempts _ _ _ := by
    unfold updateAttempts
    infer_instance
  updateAttempt _ _ _ := by
    unfold updateAttempt
    infer_instance
  insertAttempt _ := by
    unfold PaymentsService.insertAttempt
    infer_instance
  claimAttempt _ _ _ := by
    unfold PaymentReconciliation.claimAttempt
    infer_instance
  openIncident _ _ own := openIncident own
  autoResolveIncidents _ _ := autoResolveIncidents
  resolveIncident _ _ _ _ _ := resolveIncident
  createWebhookEvent _ := by
    unfold PaymentsService.createWebhookEvent
    infer_instance
  completeWebhook _ _ _ := by
    unfold PaymentsService.completeWebhook
    infer_instance
  createRequest _ := by
    unfold PaymentReconciliation.createRequest
    infer_instance
  completeRequest _ _ _ _ := by
    unfold PaymentReconciliation.completeRequest
    infer_instance
  failRequest _ _ _ := by
    unfold PaymentReconciliation.failRequest
    infer_instance

instance : RefundStatements (On incidents (Moves IncidentMove)) where
  updateRefund _ _ _ _ := by
    unfold PaymentRefunds.updateRefund
    infer_instance
  createRefund _ _ := inferInstance
  sendRefund _ _ := by
    unfold PaymentRefunds.sendRefund
    infer_instance
  awaitRefund _ _ := by
    unfold PaymentRefunds.awaitRefund
    infer_instance
  interruptRequests _ _ := inferInstance

end IncidentMoves

section Runs

variable {before after : Database}

/-- What a step of the system does to the incidents. -/
theorem Step.movesIncidents (taken : Step before after) :
    Moves IncidentMove before.payments.incidents after.payments.incidents := by
  cases taken with
  | administer catalog reservations => exact refl_of (Moves _) before.payments.incidents
  | commit command now committed =>
      by_cases other : ∀ payment, command ≠ .payment payment
      · rw [Command.payments_eq other committed]
        exact refl_of (Moves _) before.payments.incidents
      · obtain ⟨payment, rfl⟩ : ∃ payment, command = .payment payment := by simpa using other
        change Commits (payment.execute _) before () after at committed
        exact Respects.step (R := On payments (On incidents (Moves IncidentMove))) committed

theorem Reachable.incidents_named {database : Database} (reachable : Reachable database) :
    ∀ incident ∈ database.payments.incidents, incident.IsNamed := by
  refine reachable.invariant
    (fun database => ∀ incident ∈ database.payments.incidents, incident.IsNamed)
    (fun _ member => (Table.not_mem_empty member).elim) fun before after _ taken named => ?_
  intro incident member
  refine (Step.movesIncidents taken).holds
    (P := fun row => ∀ incident, row = some incident → incident.IsNamed) ?_
    (fun row there => named row (Table.mem_of_find? there)) incident (Table.find?_of_mem member)
  rintro first second move earlier row rfl
  cases move with
  | recorded own named isOpen => exact named
  | reopened same isOpen => exact same.named (earlier _ rfl)
  | dismissed same transient => exact same.named (earlier _ rfl)
  | closed same employee => exact same.named (earlier _ rfl)

/-- An incident that no reconciliation closes stays reported. -/
theorem Step.reported_stays (taken : Step before after) {key : IncidentKey}
    {incident : PaymentReconciliationIncident}
    (found : before.payments.incidents.find? key = some incident)
    (lasting : incident.type.isTransient = false) (reported : incident.IsReported) :
    ∃ next, after.payments.incidents.find? key = some next ∧ next.type = incident.type ∧
      next.IsReported := by
  refine (Step.movesIncidents taken).holds (P := fun row => ∃ next, row = some next ∧
    next.type = incident.type ∧ next.IsReported) ?_ ⟨incident, found, rfl, reported⟩
  rintro first second move ⟨row, rfl, type, -⟩
  cases move with
  | reopened same isOpen => exact ⟨_, rfl, same.type.trans type, .inl isOpen⟩
  | dismissed same transient =>
      rw [type, lasting] at transient
      cases transient
  | closed same employee => exact ⟨_, rfl, same.type.trans type, .inr employee⟩

theorem Step.reported_lasts (later : Relation.ReflTransGen Step before after) {key : IncidentKey}
    {incident : PaymentReconciliationIncident}
    (found : before.payments.incidents.find? key = some incident)
    (lasting : incident.type.isTransient = false) (reported : incident.IsReported) :
    ∃ next, after.payments.incidents.find? key = some next ∧ next.type = incident.type ∧
      next.IsReported := by
  induction later with
  | refl => exact ⟨incident, found, rfl, reported⟩
  | tail _ taken inductionHypothesis =>
      obtain ⟨row, there, type, stays⟩ := inductionHypothesis
      obtain ⟨next, isNext, same, remains⟩ := Step.reported_stays taken there
        (type ▸ lasting) stays
      exact ⟨next, isNext, same.trans type, remains⟩

end Runs

/-- The two differ at most in the events that are stored. -/
def Database.OnlyRecords (before after : Database) : Prop :=
  after = { before with payments :=
    { before.payments with webhookEvents := after.payments.webhookEvents } }

/-- The success is confirmed, or an incident of the attempt is raised for it. -/
def PaymentStore.Accounts (store : PaymentStore) (attemptId : Id) (number : Option String) : Prop :=
  (∃ row, store.attempts.find? attemptId = some row ∧ row.status = .succeeded ∧
    row.providerTransactionNo = number) ∨
  ∃ type incident, store.incidents.find? (.attempt type attemptId) = some incident ∧
    type.isTransient = false ∧ incident.IsRaised

namespace Accounting

open PaymentsService

variable {attempt : PaymentAttempt} {now : Timestamp}

section Statements

variable {before after : PaymentStore} {result : Unit}

theorem commits_openIncident {input : IncidentInput}
    (committed : Commits (openIncident input now) before result after) :
    ∃ incident, after.incidents.find? input.deduplicationKey = some incident ∧
      incident.IsRaised := by
  simp only [openIncident, upsertIncident, commits_bind, commits_findUnique, commits_ite] at committed
  obtain ⟨_, middle, ⟨_, _, ⟨rfl, rfl⟩, upserted⟩, checks⟩ := committed
  unfold CoffeeShop.checkIncidents at checks
  have kept : after.incidents = middle.incidents := Keeps.eq incidents checks
  rw [kept]
  obtain ⟨-, updated⟩ | ⟨-, created⟩ := upserted
  · obtain ⟨row, -, -, there, -⟩ := find?_updateExpecting updated
    exact ⟨_, there, rfl, rfl⟩
  · obtain ⟨rows, inserted, rfl⟩ := commits_create.mp created
    refine ⟨_, Table.find?_of_mem ((Table.mem_insert? inserted).mpr (.inr rfl)), rfl, rfl⟩

theorem commits_markPaymentReview {input : ReviewInput} {number : Option String}
    (lasting : input.type.isTransient = false)
    (committed : Commits (markPaymentReview attempt input now) before result after) :
    after.Accounts attempt.id number := by
  obtain ⟨_, _, -, opened⟩ := commits_bind.mp committed
  obtain ⟨incident, found, raised⟩ := commits_openIncident opened
  exact .inr ⟨input.type, incident, found, lasting, raised⟩

theorem commits_confirmed {number : Option String}
    (committed : Commits (updateAttempt attempt (confirmed number now)) before result after) :
    after.Accounts attempt.id number := by
  obtain ⟨row, -, -, there, -⟩ := AttemptMoves.find?_updateAttempt committed
  exact .inl ⟨_, there, rfl, rfl⟩

/-- The attempts that a success supersedes are others. -/
theorem commits_superseded {change : PaymentAttempt → PaymentAttempt}
    {keeps : ∀ row, (change row).id = row.id} {number : Option String}
    (committed : Commits (updateAttempts (isSuperseded attempt) change keeps) before result after)
    (accounts : before.Accounts attempt.id number) : after.Accounts attempt.id number := by
  have written := AttemptMoves.commits_updateAttempts committed
  unfold updateAttempts checkAttempts at committed
  have stay := Keeps.eq incidents committed
  obtain ⟨row, found, succeeded, same⟩ | reported := accounts
  · have spared : isSuperseded attempt row = false := by
      simp [isSuperseded, Table.find?_key found]
    refine .inl ⟨row, ?_, succeeded, same⟩
    rw [written, Table.find?_update, found, Option.map_some, if_neg (by simp [spared])]
  · refine .inr ?_
    rw [stay]
    exact reported

end Statements

section Handlers

variable {before after : Database}

theorem recorded {number : Option String} {attemptId : Id} {before after : Database}
    (records : before.OnlyRecords after) (accounts : before.payments.Accounts attemptId number) :
    after.payments.Accounts attemptId number := by
  rw [records]
  exact accounts

theorem reviewing {input : ReviewInput} {number : Option String} {result : Unit}
    (lasting : input.type.isTransient = false)
    (committed : Commits (paymentTx (markPaymentReview attempt input now)) before result after) :
    after.payments.Accounts attempt.id number := by
  obtain ⟨store, reviews, rfl⟩ := commits_paymentTx.mp committed
  exact commits_markPaymentReview lasting reviews

/-- The attempt is confirmed and the others of its invoice are superseded. -/
theorem confirming {change : PaymentAttempt → PaymentAttempt}
    {keeps : ∀ row, (change row).id = row.id} {number : Option String} {code result : String}
    (committed : Commits (do
      completeInvoice attempt
      paymentTx (updateAttempt attempt (confirmed number now))
      paymentTx (updateAttempts (isSuperseded attempt) change keeps)
      pure code) before result after) : after.payments.Accounts attempt.id number := by
  simp only [commits_bind, commits_paymentTx, commits_pure] at committed
  obtain ⟨_, paid, -, _, _, ⟨_, confirms, rfl⟩, _, _, ⟨_, supersedes, rfl⟩, -, rfl⟩ := committed
  exact commits_superseded supersedes (commits_confirmed confirms)

theorem settleVnpay {notification : VnpayNotification} {code : String}
    (success : notification.succeeded = true)
    (committed : Commits (settleVnpay attempt notification now) before code after) :
    after.payments.Accounts attempt.id notification.providerTransactionNo := by
  dsimp only [PaymentsService.settleVnpay] at committed
  rw [if_pos success] at committed
  simp only [commits_ite] at committed
  obtain ⟨-, unnumbered⟩ | ⟨-, confirms⟩ := committed
  · obtain ⟨_, _, reviews, answer⟩ := commits_bind.mp unnumbered
    obtain ⟨-, rfl⟩ := commits_pure.mp answer
    exact reviewing rfl reviews
  · exact confirming confirms

theorem applyVnpay {notification : VnpayNotification} {code : String}
    (found : before.payments.attempts.find? attempt.id = some attempt)
    (undecided : attempt.status ≠ .requiresReview) (success : notification.succeeded = true)
    (committed : Commits (applyVnpay attempt notification now) before code after) :
    after.payments.Accounts attempt.id notification.providerTransactionNo := by
  dsimp only [PaymentsService.applyVnpay] at committed
  simp only [commits_ite] at committed
  obtain ⟨-, mismatched⟩ | ⟨-, ⟨succeeded, repeated⟩ | ⟨-, ⟨reviewed, -⟩ | ⟨-, loaded⟩⟩⟩ := committed
  · simp only [commits_bind, commits_pure, commits_when] at mismatched
    obtain ⟨_, _, ⟨-, reviews⟩ | ⟨failed, -⟩, -, rfl⟩ := mismatched
    · exact reviewing rfl reviews
    · exact absurd success failed
  · simp only [commits_bind, commits_pure, commits_when] at repeated
    obtain ⟨_, _, ⟨-, reviews⟩ | ⟨same, rfl⟩, -, rfl⟩ := repeated
    · exact reviewing rfl reviews
    · refine .inl ⟨attempt, found, succeeded, ?_⟩
      by_contra differs
      exact same ⟨success, fun equal => differs equal.symm⟩
  · exact absurd reviewed undecided
  · obtain ⟨invoice, _, read, settled⟩ := commits_bind.mp loaded
    cases Respects.step (R := Eq) read
    simp only [commits_ite] at settled
    obtain ⟨-, ⟨-, late⟩ | ⟨failed, -⟩⟩ | ⟨-, settled⟩ := settled
    · obtain ⟨_, _, reviews, answer⟩ := commits_bind.mp late
      obtain ⟨-, rfl⟩ := commits_pure.mp answer
      exact reviewing rfl reviews
    · exact absurd success failed
    · exact settleVnpay success settled

theorem applyMomo {notification : MomoNotification} {code : String}
    (found : before.payments.attempts.find? attempt.id = some attempt)
    (undecided : attempt.status ≠ .requiresReview) (success : notification.succeeded = true)
    (committed : Commits (applyMomo attempt notification now) before code after) :
    after.payments.Accounts attempt.id notification.providerTransactionNo := by
  dsimp only [PaymentsService.applyMomo] at committed
  obtain ⟨invoice, _, read, applied⟩ := commits_bind.mp committed
  cases Respects.step (R := Eq) read
  simp only [commits_ite, success, Bool.true_and, Bool.not_true, Bool.false_and,
    Bool.false_eq_true, false_and, not_false_eq_true, true_and, false_or] at applied
  obtain ⟨-, mismatched⟩ | ⟨matches_, ⟨succeeded, repeated⟩ | ⟨-, ⟨reviewed, -⟩ | ⟨-, ⟨-, late⟩ |
    ⟨-, settled⟩⟩⟩⟩ := applied
  · obtain ⟨_, _, reviews, answer⟩ := commits_bind.mp mismatched
    obtain ⟨-, rfl⟩ := commits_pure.mp answer
    exact reviewing rfl reviews
  all_goals
    have numbered : notification.providerTransactionNo = some (toString notification.transId) := by
      simp only [Bool.or_eq_true, decide_eq_true_eq, not_or, not_le] at matches_
      exact if_pos matches_.2
    rw [numbered]
  · simp only [commits_bind, commits_pure, commits_when] at repeated
    obtain ⟨_, _, ⟨-, reviews⟩ | ⟨same, rfl⟩, -, rfl⟩ := repeated
    · exact reviewing rfl reviews
    · refine .inl ⟨attempt, found, succeeded, ?_⟩
      by_contra differs
      exact same ⟨success, differs⟩
  · exact absurd reviewed undecided
  · simp only [commits_bind, commits_pure, commits_when] at late
    obtain ⟨_, _, ⟨-, reviews⟩ | ⟨failed, -⟩, -, rfl⟩ := late
    · exact reviewing rfl reviews
    · exact absurd success failed
  · rw [PaymentsService.settleMomo, if_pos success] at settled
    exact confirming settled

theorem commits_createWebhookEvent {event : PaymentWebhookEvent} {store stored : PaymentStore}
    {result : Unit} (committed : Commits (createWebhookEvent event) store result stored) :
    stored = { store with webhookEvents := stored.webhookEvents } := by
  simp only [createWebhookEvent, checkWebhookEvents, commits_bind, commits_create, commits_get,
    commits_require] at committed
  obtain ⟨_, _, ⟨events, -, rfl⟩, _, _, ⟨rfl, rfl⟩, -, rfl⟩ := committed
  rfl

theorem commits_completeWebhook {payloadHash : Nat} {code : String} {store stored : PaymentStore}
    {result : Unit} (committed : Commits (completeWebhook payloadHash code now) store result stored) :
    stored = { store with webhookEvents := stored.webhookEvents } := by
  simp only [completeWebhook, checkWebhookEvents, commits_bind, commits_updateExpecting, commits_get,
    commits_require] at committed
  obtain ⟨_, _, ⟨-, rfl⟩, _, _, ⟨rfl, rfl⟩, -, rfl⟩ := committed
  rfl

/-- The notification is applied to the attempt between the writes of its event. -/
theorem exists_applied {event : Option PaymentAttempt → PaymentWebhookEvent}
    {provider : PaymentProvider} {missing : String} {apply : PaymentAttempt → Transact String}
    {reference : Id} {payloadHash : Nat}
    (named : before.payments.attempts.first? (fun row => row.merchantReference = reference) =
      some attempt)
    (own : attempt.provider = provider)
    (committed : Commits (do
      let known ← paymentTx (findByReference reference)
      paymentTx (createWebhookEvent (event known))
      let processingCode ← ofProvider known provider missing apply
      paymentTx (completeWebhook payloadHash processingCode now)) before () after) :
    ∃ first code last, before.OnlyRecords first ∧ Commits (apply attempt) first code last ∧
      last.OnlyRecords after := by
  simp only [commits_bind, commits_paymentTx] at committed
  obtain ⟨known, _, ⟨_, looked, rfl⟩, _, _, ⟨_, stores, rfl⟩, code, answer, answers, _, ends, rfl⟩ :=
    committed
  obtain ⟨rfl, rfl⟩ := commits_findFirst.mp looked
  change Commits (ofProvider (before.payments.attempts.first? _) _ _ _) _ _ _ at answers
  have chosen : (some attempt).filter (·.provider = provider) = some attempt := by simp [own]
  rw [named, ofProvider, chosen] at answers
  refine ⟨_, code, answer, ?_, answers, ?_⟩
  · unfold Database.OnlyRecords
    rw [commits_createWebhookEvent stores]
  · unfold Database.OnlyRecords
    rw [commits_completeWebhook ends]

/-- Whatever the handler does to the attempt is there once the event is completed. -/
theorem notified {event : Option PaymentAttempt → PaymentWebhookEvent} {provider : PaymentProvider}
    {missing : String} {apply : PaymentAttempt → Transact String} {reference : Id}
    {payloadHash : Nat} {number : Option String}
    (named : before.payments.attempts.first? (fun row => row.merchantReference = reference) =
      some attempt)
    (own : attempt.provider = provider)
    (applied : ∀ first code last, first.payments.attempts.find? attempt.id = some attempt →
      Commits (apply attempt) first code last → last.payments.Accounts attempt.id number)
    (committed : Commits (do
      let known ← paymentTx (findByReference reference)
      paymentTx (createWebhookEvent (event known))
      let processingCode ← ofProvider known provider missing apply
      paymentTx (completeWebhook payloadHash processingCode now)) before () after) :
    after.payments.Accounts attempt.id number := by
  obtain ⟨first, code, last, opening, answers, closing⟩ := exists_applied named own committed
  refine recorded closing (applied first code last ?_ answers)
  rw [opening]
  exact Table.find?_of_mem (Table.mem_of_first? named).1

end Handlers

end Accounting

/-- A provider notifies that the attempt was paid with the number, for the first time. -/
inductive NotifiesSuccess (attempt : PaymentAttempt) (number : Option String)
    (before after : Database) : Prop
  | vnpay {notification : VnpayNotification} {now : Timestamp}
      (named : before.payments.attempts.first? (fun row =>
        row.merchantReference = notification.merchantReference) = some attempt)
      (own : attempt.provider = .vnpay) (success : notification.succeeded = true)
      (same : notification.providerTransactionNo = number)
      (committed : Commits (PaymentsService.handleVnpayIpn notification now) before () after)
  | momo {notification : MomoNotification} {now : Timestamp}
      (named : before.payments.attempts.first? (fun row =>
        row.merchantReference = notification.orderId) = some attempt)
      (own : attempt.provider = .momo) (success : notification.succeeded = true)
      (same : notification.providerTransactionNo = number)
      (committed : Commits (PaymentsService.handleMomoIpn notification now) before () after)

namespace NotifiesSuccess

variable {attempt : PaymentAttempt} {number : Option String} {before after : Database}

theorem step (notified : NotifiesSuccess attempt number before after) : Step before after := by
  cases notified with
  | vnpay named own success same committed =>
      exact .commit (.payment (.handleVnpayIpn _)) _ committed
  | momo named own success same committed =>
      exact .commit (.payment (.handleMomoIpn _)) _ committed

theorem accounts (notified : NotifiesSuccess attempt number before after)
    (undecided : attempt.status ≠ .requiresReview) :
    after.payments.Accounts attempt.id number := by
  cases notified with
  | vnpay named own success same committed =>
      subst same
      apply Accounting.notified named own ?_ committed
      intro _ _ _ there ran
      exact Accounting.applyVnpay there undecided success ran
  | momo named own success same committed =>
      subst same
      apply Accounting.notified named own ?_ committed
      intro _ _ _ there ran
      exact Accounting.applyMomo there undecided success ran

end NotifiesSuccess

/-- Unless the attempt was under review already, a success that a provider notifies is never lost:
from then on the attempt is confirmed with the notified number, or an incident that the
notification left open is open still, or was closed by an employee since. -/
theorem Reachable.success_accounted {before after last : Database} (reachable : Reachable before)
    {attempt : PaymentAttempt} {number : Option String}
    (notified : NotifiesSuccess attempt number before after)
    (undecided : attempt.status ≠ .requiresReview)
    (later : Relation.ReflTransGen Step after last) :
    (∃ row ∈ last.payments.attempts, row.id = attempt.id ∧ row.status = .succeeded ∧
      row.providerTransactionNo = number) ∨
    ∃ key opened, after.payments.incidents.find? key = some opened ∧
      opened.paymentAttemptId = attempt.id ∧ opened.status = .opened ∧ opened.resolvedById = none ∧
      ∃ incident, last.payments.incidents.find? key = some incident ∧
        incident.paymentAttemptId = attempt.id ∧
        (incident.status = .opened ∨ incident.resolvedById.isSome = true) := by
  have reached : Reachable after := reachable.tail notified.step
  obtain ⟨row, found, succeeded, same⟩ | ⟨type, opened, found, lasting, raised⟩ :=
    notified.accounts undecided
  · obtain ⟨next, there, continues⟩ := Step.attempts_continue later (Table.mem_of_find? found)
    obtain ⟨still, kept⟩ := continues.succeeded succeeded
    rw [Table.find?_key found] at there
    exact .inl ⟨next, Table.mem_of_find? there, Table.find?_key there, still, kept.trans same⟩
  · obtain ⟨isType, own⟩ := reached.incidents_named opened (Table.mem_of_find? found) type _
      (Table.find?_key found)
    rw [← isType] at lasting
    obtain ⟨incident, there, -, reported⟩ :=
      Step.reported_lasts later found lasting (.inl raised.1)
    have reachedLast : Reachable last := reached.trans later
    obtain ⟨-, alsoOwn⟩ := reachedLast.incidents_named incident (Table.mem_of_find? there) type _
      (Table.find?_key there)
    exact .inr ⟨_, opened, found, own, raised.1, raised.2, incident, there, alsoOwn, reported⟩

/-- The two cups are notified as paid again, with another number. -/
def doublePayment : VnpayNotification where
  payloadHash := 2
  merchantReference := 6
  amount := 7000000
  transactionNo := "15"
  responseCode := "00"
  transactionStatus := "00"

/-- A second payment of the two cups is accounted for, also after the incident was closed. -/
theorem Reachable.success_accounted_doublePayment :
    let after := Database.paidOnline.perform (.payment (.handleVnpayIpn doublePayment)) 9
    let last := after.perform (.payment (.resolveIncident (.attempt .paymentStateConflict 7) 0
      .resolve (some "Refunded by hand."))) 10
    (∃ row ∈ last.payments.attempts, row.id = 7 ∧ row.status = .succeeded ∧
      row.providerTransactionNo = some "15") ∨
    ∃ key opened, after.payments.incidents.find? key = some opened ∧
      opened.paymentAttemptId = 7 ∧ opened.status = .opened ∧ opened.resolvedById = none ∧
      ∃ incident, last.payments.incidents.find? key = some incident ∧
        incident.paymentAttemptId = 7 ∧
        (incident.status = .opened ∨ incident.resolvedById.isSome = true) := by
  have paid : (Database.paidOnline.payments.attempts.first? fun row =>
      row.merchantReference = 6).any fun row =>
        row.id = 7 && row.provider = .vnpay && row.status = .succeeded := by
    decide +kernel
  obtain ⟨attempt, named, holds⟩ := (Option.any_eq_true _ _).mp paid
  simp only [Bool.and_eq_true, decide_eq_true_eq] at holds
  obtain ⟨⟨same, own⟩, succeeded⟩ := holds
  have committed := @Database.commits_perform Database.paidOnline
    (.payment (.handleVnpayIpn doublePayment)) 9 (by decide +kernel)
  have undecided : attempt.status ≠ .requiresReview := by
    rw [succeeded]
    decide
  rw [← same]
  exact Reachable.paidOnline.success_accounted (.vnpay named own rfl rfl committed) undecided
    (runs_perform .refl _ 10)

end CoffeeShop
