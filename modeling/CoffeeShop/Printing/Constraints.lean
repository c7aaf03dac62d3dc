import CoffeeShop.Library.Avoids
import CoffeeShop.Printing.JobIds
import CoffeeShop.Printing.JobMoves

/-!
Which operations the state constraint of the print jobs rejects.

Every statement of the printing service leaves a job in a state that the constraint
accepts, with one exception: the part of a divided job takes over the status of the job,
and a failed job needs a time of failure, which the part does not get.
-/

namespace CoffeeShop

open Transaction PrintStore PrintingService Database

/-- `PrintJob_state_check` refused a row. -/
def IsStateCheck (failure : Failure) : Prop := failure = .constraint "PrintJob_state_check"

/-- The table holds only rows that its constraints accept. -/
def PrintStore.Storable (store : PrintStore) : Prop :=
  ∀ job ∈ store.jobs, job.stateCheck = true ∧ job.valuesCheck = true

def Database.StorableJobs (database : Database) : Prop := database.printing.Storable

theorem Reachable.storableJobs {database : Database} (reachable : Reachable database) :
    database.StorableJobs := by
  intro job membership
  simpa [PrintJob.isStorable] using (reachable.queued job membership).1

namespace Constraints

set_option synthInstance.maxSize 100000

variable {α : Type} {now : Timestamp}

instance {message : String} : Permitted IsStateCheck (.badRequest message) := ⟨nofun⟩
instance {message : String} : Permitted IsStateCheck (.unauthorized message) := ⟨nofun⟩
instance {message : String} : Permitted IsStateCheck (.notFound message) := ⟨nofun⟩
instance {message : String} : Permitted IsStateCheck (.conflict message) := ⟨nofun⟩
instance {code message : String} : Permitted IsStateCheck (.conflictWithCode code message) := ⟨nofun⟩

instance : DecidablePred IsStateCheck := fun failure =>
  inferInstanceAs (Decidable (failure = .constraint "PrintJob_state_check"))

instance : Permitted IsStateCheck (.constraint "PrintJob_values_check") := ⟨by decide⟩
instance : Permitted IsStateCheck (.constraint "PrintJob_deduplicationKey_key") := ⟨by decide⟩
instance : Permitted IsStateCheck (.constraint "PrintJob_pkey") := ⟨by decide⟩
instance : Permitted IsStateCheck (.constraint "PrintDevice_pkey") := ⟨by decide⟩

instance : Apart Storable printDevice := ⟨fun _ _ => rfl⟩
instance : Apart StorableJobs inventoryPart := ⟨fun _ _ => rfl⟩
instance : Apart StorableJobs salesPart := ⟨fun _ _ => rfl⟩
instance : Apart StorableJobs cashPart := ⟨fun _ _ => rfl⟩
instance : Apart StorableJobs paymentPart := ⟨fun _ _ => rfl⟩
instance : Apart StorableJobs stationPart := ⟨fun _ _ => rfl⟩
instance : Apart StorableJobs idPart := ⟨fun _ _ => rfl⟩

section Parts

instance keepsPrinting {program : Tx PrintStore Failure α} [kept : Preserves Storable program] :
    Preserves StorableJobs (printingTx program) where
  step before result after committed storable := by
    obtain ⟨value, ran, rfl⟩ := commits_printingTx.mp committed
    exact kept.step ran storable

instance inPrinting {program : Tx PrintStore Failure α}
    [avoids : Avoids Storable IsStateCheck program] :
    Avoids StorableJobs IsStateCheck (printingTx program) :=
  Avoids.within avoids fun _ storable => storable

instance inSales {P : Database → Prop} {program : Tx SalesStore Failure α}
    [avoids : Avoids Anything IsStateCheck program] : Avoids P IsStateCheck (salesTx program) :=
  Avoids.within avoids fun _ _ => trivial

instance inInventory {P : Database → Prop} {program : Tx InventoryStore Failure α}
    [avoids : Avoids Anything IsStateCheck program] : Avoids P IsStateCheck (inventoryTx program) :=
  Avoids.within avoids fun _ _ => trivial

instance freshId {P : Database → Prop} : Avoids P IsStateCheck freshId where
  avoids before failure _ aborted := by
    simp [CoffeeShop.freshId] at aborted

instance readCatalog {P : Database → Prop} : Avoids P IsStateCheck readCatalog where
  avoids before failure _ aborted := by
    simp [CoffeeShop.readCatalog] at aborted

instance assertActiveEmployee {employeeId : Id} :
    Avoids StorableJobs IsStateCheck (assertActiveEmployee employeeId) := by
  unfold CoffeeShop.assertActiveEmployee
  infer_instance

end Parts

section Statements

variable {condition guard : PrintJob → Bool} {change : PrintJob → PrintJob}
variable {keeps : ∀ job, (change job).id = job.id}

instance keepsUpdateJobs : Preserves Storable (updateJobs condition change now keeps) where
  step before result after committed _ := by
    obtain ⟨-, -, states, values⟩ := commits_updateJobs.mp committed
    exact fun job membership => ⟨states job membership, values job membership⟩

instance keepsUpdateJob {id : Id} {failure : Failure} :
    Preserves Storable (updateJob id guard change failure now keeps) := by
  unfold PrintingService.updateJob
  infer_instance

/-- The check after a statement refuses a state only if some row is in a wrong one. -/
theorem checkJobs_avoids {store : PrintStore} {failure : Failure}
    (states : ∀ job ∈ store.jobs, job.stateCheck = true)
    (aborted : Aborts checkJobs store failure) : ¬IsStateCheck failure := by
  simp only [checkJobs, aborts_bind, aborts_get, aborts_require, commits_get, commits_require,
    false_or] at aborted
  obtain ⟨_, _, ⟨rfl, rfl⟩, ⟨wrong, -⟩ | ⟨_, _, -, -, rfl⟩⟩ := aborted
  · exact absurd (List.all_eq_true.mpr states) wrong
  · exact Permitted.permitted

/-- An update to states that the constraint accepts. -/
theorem updateJobs_avoids {store : PrintStore} {failure : Failure} (storable : store.Storable)
    (accepted : ∀ row ∈ store.jobs, condition row = true → (change row).stateCheck = true)
    (aborted : Aborts (updateJobs condition change now keeps) store failure) :
    ¬IsStateCheck failure := by
  unfold PrintingService.updateJobs at aborted
  rcases aborts_bind.mp aborted with early | ⟨count, middle, updated, late⟩
  · exact (aborts_updateMany.mp early).elim
  · obtain ⟨-, rfl⟩ := commits_touchJobs.mp updated
    rcases aborts_bind.mp late with wrong | ⟨_, _, -, final⟩
    · refine checkJobs_avoids (fun job membership => ?_) wrong
      have member : job ∈ store.jobs.update condition (touched now change) (touched_id now keeps) :=
        membership
      obtain ⟨row, inStore, same⟩ := Table.mem_update.mp member
      rw [← same]
      split
      · next holds => exact accepted row inStore holds
      · exact (storable row inStore).1
    · exact (aborts_pure.mp final).elim

theorem updateJob_avoids {store : PrintStore} {id : Id} {raised failure : Failure}
    [permitted : Permitted IsStateCheck raised] (storable : store.Storable)
    (accepted : ∀ row ∈ store.jobs, row.id = id → guard row = true →
      (change row).stateCheck = true)
    (aborted : Aborts (updateJob id guard change raised now keeps) store failure) :
    ¬IsStateCheck failure := by
  rcases aborts_bind.mp aborted with wrong | ⟨count, middle, -, late⟩
  · refine updateJobs_avoids storable (fun row membership holds => ?_) wrong
    simp only [Bool.and_eq_true, decide_eq_true_eq] at holds
    exact accepted row membership holds.1 holds.2
  · rw [(aborts_require.mp late).2]
    exact permitted.permitted

theorem insertJob_avoids {store : PrintStore} {job : PrintJob} {failure : Failure}
    (accepted : job.stateCheck = true) (aborted : Aborts (insertJob job) store failure) :
    ¬IsStateCheck failure := by
  simp only [insertJob, aborts_bind, aborts_require, accepted, not_true_eq_false, false_and,
    false_or, aborts_findFirst, create, aborts_get, aborts_orFail, aborts_modify, and_false,
    exists_false, or_false] at aborted
  rcases aborted with ⟨_, _, -, ⟨-, rfl⟩ | ⟨_, _, -, _, _, -, ⟨-, rfl⟩ | ⟨_, _, -, _, _, -, -, rfl⟩⟩⟩
  all_goals exact Permitted.permitted

theorem updateJobs (accepted : ∀ row, condition row = true → row.stateCheck = true →
      (change row).stateCheck = true) :
    Avoids Storable IsStateCheck (updateJobs condition change now keeps) where
  avoids _ _ storable aborted :=
    updateJobs_avoids storable
      (fun row membership holds => accepted row holds (storable row membership).1) aborted

theorem updateJob {id : Id} {raised : Failure} [Permitted IsStateCheck raised]
    (accepted : ∀ row, guard row = true → row.stateCheck = true → (change row).stateCheck = true) :
    Avoids Storable IsStateCheck (updateJob id guard change raised now keeps) where
  avoids _ _ storable aborted :=
    updateJob_avoids storable
      (fun row membership _ holds => accepted row holds (storable row membership).1) aborted

theorem insertJob {job : PrintJob} (accepted : job.stateCheck = true) :
    Avoids Storable IsStateCheck (insertJob job) where
  avoids _ _ _ aborted := insertJob_avoids accepted aborted

end Statements

section Jobs

variable {deviceId jobId leaseToken id : Id} {locked : Id → Bool}

instance keepsRecoverExpiredJobs {device : Option Id} :
    Preserves Storable (recoverExpiredJobs device locked now) := by
  unfold PrintingService.recoverExpiredJobs
  infer_instance

/-- A statement on some of the rows that were selected just before it. -/
theorem updateCandidates {selected : PrintJob → Bool} {order : PrintJob → PrintJob → Bool}
    {limit : Nat} {change : PrintJob → PrintJob} {keeps : ∀ job, (change job).id = job.id}
    {next : List PrintJob → Nat → Tx PrintStore Failure α}
    [rest : ∀ rows count, Avoids Storable IsStateCheck (next rows count)]
    (accepted : ∀ row, selected row = true → row.stateCheck = true →
      (change row).stateCheck = true) :
    Avoids Storable IsStateCheck (do
      let rows ← findMany printJob selected
      let count ← PrintingService.updateJobs
        (fun job => job.id ∈ candidates rows order limit locked) change now keeps
      next rows count) where
  avoids store failure storable aborted := by
    simp only [aborts_bind, aborts_findMany, commits_findMany, false_or] at aborted
    obtain ⟨_, _, ⟨rfl, rfl⟩, rejected | ⟨count, middle, updated, late⟩⟩ := aborted
    · refine updateJobs_avoids storable (fun row membership chosen => ?_) rejected
      have holds := JobMoves.of_mem_candidates membership (of_decide_eq_true chosen)
      exact accepted row holds (storable row membership).1
    · exact (rest _ count).avoids (keepsUpdateJobs.step updated storable) late

instance recoverExpiredJobs {device : Option Id} :
    Avoids Storable IsStateCheck (recoverExpiredJobs device locked now) := by
  unfold PrintingService.recoverExpiredJobs
  refine updateCandidates fun row expired accepted => ?_
  simp only [isExpired, Bool.and_eq_true, decide_eq_true_eq] at expired
  simp only [PrintJob.stateCheck, expired.1.1, Bool.and_eq_true] at accepted
  simp [PrintJob.stateCheck, accepted]

instance keepsClaimJobs {limit : Nat} :
    Preserves Storable (claimJobs deviceId limit locked leaseToken now) := by
  dsimp only [PrintingService.claimJobs]
  infer_instance

instance claimJobs {limit : Nat} :
    Avoids Storable IsStateCheck (claimJobs deviceId limit locked leaseToken now) := by
  have claims : Avoids Storable IsStateCheck (do
      let claimable ← findMany printJob (isClaimable deviceId now)
      let ids := candidates claimable createdFirst limit locked
      let _ ← PrintingService.updateJobs (fun job => job.id ∈ ids)
        (fun job => { job with
          status := .processing
          attempts := job.attempts + 1
          lockedAt := some now
          leaseExpiresAt := some (now + printJobLeaseMs)
          leaseTokenHash := some leaseToken }) now
      findMany printJob fun job => job.id ∈ ids) := by
    refine updateCandidates fun row claimable accepted => ?_
    simp only [isClaimable, Bool.and_eq_true, decide_eq_true_eq] at claimable
    obtain ⟨⟨⟨own, pending⟩, -⟩, -⟩ := claimable
    simp only [PrintJob.stateCheck, pending, Bool.and_eq_true] at accepted
    simp [PrintJob.stateCheck, own, accepted]
  dsimp only [PrintingService.claimJobs]
  infer_instance

instance completeJob :
    Avoids Storable IsStateCheck (completeJob deviceId jobId leaseToken now) := by
  unfold PrintingService.completeJob
  refine Avoids.andThen (updateJobs fun row holds accepted => ?_) inferInstance fun count _ => ?_
  · simp only [isLeased, Bool.and_eq_true, Bool.or_eq_true, decide_eq_true_eq] at holds
    rcases holds with ⟨⟨⟨-, own⟩, -⟩, processing | reviewed⟩
    · simp only [PrintJob.stateCheck, processing, Bool.and_eq_true] at accepted
      simp [PrintJob.stateCheck, own, accepted]
    · simp only [PrintJob.stateCheck, reviewed, Bool.and_eq_true] at accepted
      simp [PrintJob.stateCheck, own, accepted]
  · unfold staleLease
    infer_instance

instance failJob {error : String} {outcome : PrintFailureOutcome}
    {cancelledItems : Option Id → List Id} : Avoids Storable IsStateCheck
      (failJob deviceId jobId leaseToken error outcome cancelledItems now) := by
  dsimp only [PrintingService.failJob, staleLease]
  refine Avoids.andThen inferInstance inferInstance fun job _ => updateJob fun row holds accepted => ?_
  simp only [Bool.and_eq_true, decide_eq_true_eq] at holds
  simp only [PrintJob.stateCheck, holds.1, Bool.and_eq_true] at accepted
  cases outcome with
  | unknown => simp [PrintJob.stateCheck, accepted]
  | notPrinted =>
      by_cases emptied : (uncancelledPayload cancelledItems job).any (·.items.isEmpty) = true
      · simp [PrintJob.stateCheck, accepted, emptied]
      · by_cases exhausted : job.maxAttempts ≤ job.attempts
        · simp [PrintJob.stateCheck, accepted, emptied, exhausted]
        · simp [PrintJob.stateCheck, accepted, emptied, exhausted]

instance assertCompatibleDevice {jobType : PrintJobType} {P : PrintStore → Prop} :
    Avoids P IsStateCheck (assertCompatibleDevice deviceId jobType) where
  avoids before failure _ aborted := by
    simp only [PrintingService.assertCompatibleDevice, aborts_bind, aborts_findUnique,
      aborts_require, false_or] at aborted
    obtain ⟨_, _, -, -, rfl⟩ := aborted
    exact Permitted.permitted

instance retryJob {device : Option (Option Id)} {cancelledItems : Option Id → List Id}
    {releasedAt : Option Id → Timestamp} : Avoids Storable IsStateCheck
      (retryJob id device cancelledItems releasedAt now) := by
  dsimp only [PrintingService.retryJob, requiresReview]
  refine Avoids.andThen inferInstance inferInstance fun job _ =>
    Avoids.andThen inferInstance inferInstance fun _ _ =>
      Avoids.andThen inferInstance inferInstance fun _ returned => ?_
  refine Avoids.andThen inferInstance inferInstance fun _ _ =>
    Avoids.andThen inferInstance inferInstance fun _ _ => updateJob fun row same accepted => ?_
  obtain ⟨before, after, -, checked⟩ := returned
  have unprinted := (commits_require.mp checked).1
  simp only [decide_eq_true_eq] at same
  rw [← same] at unprinted
  rcases unprinted with pending | failed
  · simp only [PrintJob.stateCheck, pending, Bool.and_eq_true] at accepted
    simp [PrintJob.stateCheck, accepted]
  · simp only [PrintJob.stateCheck, failed, Bool.and_eq_true] at accepted
    simp [PrintJob.stateCheck, accepted]

instance resolveJob {outcome : PrintResolution} {expectedUpdatedAt : Timestamp} :
    Avoids Storable IsStateCheck (resolveJob id outcome expectedUpdatedAt now) where
  avoids store failure storable aborted := by
    suffices avoids : Avoids (fun other => other = store) IsStateCheck
        (PrintingService.resolveJob id outcome expectedUpdatedAt now) from avoids.avoids rfl aborted
    dsimp only [PrintingService.resolveJob]
    refine Avoids.andThen inferInstance inferInstance fun job read =>
      Avoids.andThen inferInstance inferInstance fun _ reviewed =>
        Avoids.andThen inferInstance inferInstance fun _ assigned => ⟨?_⟩
    rintro _ failure rfl aborted
    obtain ⟨_, _, rfl, read⟩ := read
    obtain ⟨_, _, -, assigned⟩ := assigned
    have found := Table.mem_of_find? (commits_findUniqueOrFail.mp read).1
    have assigned := (commits_require.mp assigned).1
    refine updateJob_avoids storable (fun row membership same guard => ?_) aborted
    obtain rfl := Table.eq_of_key_eq membership found
      (same.trans (Table.find?_key (commits_findUniqueOrFail.mp read).1).symm)
    have accepted := (storable row membership).1
    simp only [Bool.and_eq_true, decide_eq_true_eq] at guard
    simp only [PrintJob.stateCheck, guard.1, Bool.and_eq_true] at accepted
    cases outcome with
    | printed =>
        have own : row.deviceId.isSome = true := by
          simpa [Option.isSome_iff_ne_none] using assigned
        simp [PrintJob.stateCheck, own, accepted]
    | notPrinted => simp [PrintJob.stateCheck, accepted]

instance cancelPendingReceiptJobs {invoiceId : Id} :
    Avoids Storable IsStateCheck (cancelPendingReceiptJobs invoiceId now) := by
  unfold PrintingService.cancelPendingReceiptJobs
  refine Avoids.andThen (updateJobs fun row holds accepted => ?_) inferInstance
    fun _ _ => inferInstance
  simp only [Bool.and_eq_true, decide_eq_true_eq] at holds
  simpa [PrintJob.stateCheck, holds.2] using accepted

instance assignPendingDefaultJobs :
    Avoids Storable IsStateCheck (assignPendingDefaultJobs deviceId now) := by
  unfold PrintingService.assignPendingDefaultJobs
  refine Avoids.andThen (updateJobs fun row holds accepted => ?_) inferInstance
    fun _ _ => inferInstance
  simp only [Bool.and_eq_true, decide_eq_true_eq] at holds
  simpa [PrintJob.stateCheck, holds.1.2] using accepted

instance unassignJobs : Avoids Storable IsStateCheck (unassignJobs deviceId now) := by
  unfold PrintingService.unassignJobs
  refine Avoids.andThen (updateJobs fun row holds accepted => ?_) inferInstance
    fun _ _ => inferInstance
  simp only [Bool.and_eq_true, decide_eq_true_eq] at holds
  simpa [PrintJob.stateCheck, holds.2] using accepted

instance keepsClearDefault {type : PrintDeviceType} {exceptId : Option Id} :
    Preserves Storable (clearDefault type exceptId) := by
  unfold PrintingService.clearDefault
  infer_instance

instance clearDefault {type : PrintDeviceType} {exceptId : Option Id} :
    Avoids Storable IsStateCheck (clearDefault type exceptId) := by
  unfold PrintingService.clearDefault
  infer_instance

instance keepsAssertNoLeases {message : String} :
    Preserves Storable (assertNoLeases deviceId message locked now) := by
  unfold PrintingService.assertNoLeases
  infer_instance

instance assertNoLeases {message : String} :
    Avoids Storable IsStateCheck (assertNoLeases deviceId message locked now) := by
  unfold PrintingService.assertNoLeases
  infer_instance

instance keepsUnassignJobs : Preserves Storable (PrintingService.unassignJobs deviceId now) := by
  unfold PrintingService.unassignJobs
  infer_instance

instance findDevice : Avoids Storable IsStateCheck (findDevice deviceId) := by
  dsimp only [PrintingService.findDevice, deviceMissing]
  infer_instance

instance resolveReceiptDevice {requested : Option Id} :
    Avoids Storable IsStateCheck (resolveReceiptDevice requested) := by
  dsimp only [PrintingService.resolveReceiptDevice]
  infer_instance

instance heartbeat {input : PrintAgentHeartbeatInput} :
    Avoids Storable IsStateCheck (heartbeat deviceId input now) := by
  dsimp only [PrintingService.heartbeat]
  infer_instance

end Jobs

section Kitchen

variable {job : PrintJob} {id employeeId : Id} {orderItemIds : List Id} {reason : String}

theorem insertUnlessKnown {job : PrintJob} (accepted : job.stateCheck = true) :
    Avoids Storable IsStateCheck (insertUnlessKnown job) := by
  have inserts : Avoids Storable IsStateCheck (PrintingService.insertJob job) := insertJob accepted
  unfold PrintingService.insertUnlessKnown
  infer_instance

instance keepsInsertJob : Preserves Storable (PrintingService.insertJob job) where
  step before result after committed storable := by
    obtain ⟨states, values, -, next, inserted, rfl⟩ := commits_insertJob.mp committed
    intro other membership
    rcases (Table.mem_insert? inserted).mp membership with earlier | rfl
    · exact storable other earlier
    · exact ⟨states, values⟩

instance keepsCancelJobItems :
    Preserves Storable (cancelJobItems orderItemIds employeeId reason job id now) := by
  dsimp only [PrintingService.cancelJobItems, rewriteJob, PrintingService.insertUnlessKnown]
  infer_instance

instance cancelJobItems :
    Avoids Storable IsStateCheck (cancelJobItems orderItemIds employeeId reason job id now) := by
  have slips (payload : KitchenPrintPayload) (items : List KitchenPrintItem) :
      Avoids Storable IsStateCheck (PrintingService.insertUnlessKnown
        (cancellationSlip job payload items employeeId reason id now)) := insertUnlessKnown rfl
  have rewrites (remaining : KitchenPrintPayload) (unprinted : isUnprinted job = true) :
      Avoids Storable IsStateCheck (rewriteJob job (fun row => { row with
        payload := .kitchen remaining
        status := if remaining.items.isEmpty then .cancelled else row.status
        failedAt := if remaining.items.isEmpty then none else row.failedAt })
        (.conflict "Kitchen print state changed. Retry cancellation.") now) := by
    refine updateJob fun row guard accepted => ?_
    simp only [Bool.and_eq_true, decide_eq_true_eq] at guard
    simp only [isUnprinted, Bool.or_eq_true, decide_eq_true_eq, ← guard.1] at unprinted
    cases emptied : remaining.items.isEmpty with
    | false => simpa [PrintJob.stateCheck] using accepted
    | true =>
        rcases unprinted with pending | failed
        · simp only [PrintJob.stateCheck, pending, Bool.and_eq_true] at accepted
          simp [PrintJob.stateCheck, accepted]
        · simp only [PrintJob.stateCheck, failed, Bool.and_eq_true] at accepted
          simp [PrintJob.stateCheck, accepted]
  dsimp only [PrintingService.cancelJobItems, Transaction.when]
  split
  · infer_instance
  · refine Avoids.andThen inferInstance inferInstance fun payload _ => ?_
    split
    · split
      next unprinted => exact rewrites _ unprinted
      next => infer_instance
    · infer_instance

instance enqueueKitchenTicket {input : KitchenTicketJob} :
    Avoids StorableJobs IsStateCheck (enqueueKitchenTicket input now) := by
  unfold PrintingService.enqueueKitchenTicket
  refine Avoids.andThen inferInstance inferInstance fun id _ => ?_
  exact Avoids.within (insertJob rfl) fun _ storable => storable

instance findKitchenJobs : Avoids StorableJobs IsStateCheck (findKitchenJobs orderItemIds) := by
  unfold PrintingService.findKitchenJobs
  infer_instance

instance keepsCancelKitchenItems :
    Preserves StorableJobs (cancelKitchenItems orderItemIds employeeId reason now) := by
  unfold PrintingService.cancelKitchenItems
  infer_instance

instance cancelKitchenItems :
    Avoids StorableJobs IsStateCheck (cancelKitchenItems orderItemIds employeeId reason now) := by
  unfold PrintingService.cancelKitchenItems
  infer_instance

end Kitchen

section Quote

instance calculateInvoice {input : InvoicesService.CalculateInvoiceInput} :
    Avoids Anything IsStateCheck
      (InvoicesService.calculateInvoice input : Tx SalesStore Failure _) := by
  have tendered {total : Money} : Avoids Anything IsStateCheck
      (InvoicesService.resolvePaidAmountTendered input.paymentMethod total input.amountTendered :
        Tx SalesStore Failure _) := by
    dsimp only [InvoicesService.resolvePaidAmountTendered, InvoicesService.toDecimal]
    split <;> infer_instance
  dsimp only [InvoicesService.calculateInvoice]
  infer_instance

instance resolveDiscount {catalog : Catalog} {promotionId : Option Id} {subTotal : Money} :
    Avoids Anything IsStateCheck
      (InvoicesService.resolveDiscount catalog promotionId subTotal now) := by
  dsimp only [InvoicesService.resolveDiscount, PromotionCalculator.calculateDiscount,
    PromotionCalculator.assertPromotionCanBeApplied, PromotionCalculator.calculateDiscountAmount]
  split <;> infer_instance

instance getInvoiceItems {orderSessionId : Id} {orderItemIds : Option (List Id)} :
    Avoids Anything IsStateCheck (InvoicesService.getInvoiceItems orderSessionId orderItemIds) := by
  dsimp only [InvoicesService.getInvoiceItems]
  split <;> infer_instance

instance draftInvoice {request : InvoicesService.CreateInvoiceRequest} {catalog : Catalog}
    {session : OrderSession} : Avoids Anything IsStateCheck
      (InvoicesService.draftInvoice request catalog session now) := by
  dsimp only [InvoicesService.draftInvoice, InvoicesService.assertInvoiceItemsAreBillable,
    InvoicesService.assertPaidPaymentAmount]
  infer_instance

instance quoteInvoice {employeeId : Id} {input : CreateInvoiceInput} :
    Avoids StorableJobs IsStateCheck
      (InvoicesService.quoteInvoiceInTransaction employeeId input now) := by
  dsimp only [InvoicesService.quoteInvoiceInTransaction, InvoicesService.assertPosOrderMutationAllowed,
    CoffeeShop.assertActiveEmployeePolicy]
  infer_instance

end Quote

section Service

variable {id employeeId : Id} {locked : Id → Bool}

instance createPrecheck {input : CreatePrecheckInput} :
    Avoids StorableJobs IsStateCheck (createPrecheck employeeId input now) := by
  unfold PrintingService.createPrecheck
  refine Avoids.andThen inferInstance inferInstance fun quote _ =>
    Avoids.andThen inferInstance inferInstance fun database _ =>
      Avoids.andThen inferInstance inferInstance fun id _ =>
        Avoids.within ?_ fun _ storable => storable
  exact Avoids.andThen inferInstance inferInstance fun deviceId _ => insertJob rfl

instance reprintReceipt {input : ReprintReceiptInput} :
    Avoids StorableJobs IsStateCheck (reprintReceipt id employeeId input now) := by
  dsimp only [PrintingService.reprintReceipt, findPrintableInvoice]
  refine Avoids.andThen inferInstance inferInstance fun _ _ =>
    Avoids.andThen inferInstance inferInstance fun invoice _ =>
      Avoids.andThen inferInstance inferInstance fun database _ =>
        Avoids.andThen inferInstance inferInstance fun id _ =>
          Avoids.within ?_ fun _ storable => storable
  refine Avoids.andThen inferInstance inferInstance fun _ _ => ?_
  dsimp only [requiresReview]
  refine Avoids.andThen inferInstance inferInstance fun _ _ =>
    Avoids.andThen inferInstance inferInstance fun deviceId _ =>
      Avoids.andThen inferInstance inferInstance fun receipts _ => insertJob rfl

instance createAutomaticReceipt :
    Avoids StorableJobs IsStateCheck (createAutomaticReceipt id now) := by
  have inserts (database : Database) (invoice : Invoice) (newId : Id) (device : Option Id) :
      Avoids Storable IsStateCheck (PrintingService.insertJob {
        id := newId
        type := .receipt
        payload := .receipt (receiptPayload database invoice)
        availableAt := now
        deduplicationKey := .autoReceipt id
        createdAt := now
        updatedAt := now
        deviceId := device
        invoiceId := some id }) := insertJob rfl
  unfold PrintingService.createAutomaticReceipt
  infer_instance

instance printCommand {asked : PrintCommand} :
    Avoids StorableJobs IsStateCheck (asked.execute now) := by
  cases asked with
  | createPrecheck employeeId input => exact createPrecheck
  | reprintReceipt invoiceId employeeId input => exact reprintReceipt
  | createAutomaticReceipt invoiceId => exact createAutomaticReceipt
  | _ =>
      dsimp only [PrintCommand.execute, PrintingService.createDevice, PrintingService.updateDevice,
        PrintingService.deleteDevice, PrintingService.claim, PrintingService.fail,
        PrintingService.retry, PrintingService.resolve, kitchenDefault]
      infer_instance

end Service

section Online

variable {id employeeId : Id} {reason : String}

instance : Permitted IsStateCheck
    (.constraint "InventoryWaste_orderItemId_inventoryItemId_key") := ⟨by decide⟩

instance cancelUnclaimedJobs {orderSessionId : Id} :
    Avoids StorableJobs IsStateCheck (OnlineOrders.cancelUnclaimedJobs orderSessionId now) := by
  have cancels (jobs : List PrintJob) : Avoids Storable IsStateCheck
      (PrintingService.updateJobs (fun job => job.id ∈ jobs.map (·.id) && job.status = .pending)
        (fun job => { job with status := .cancelled }) now) := by
    refine updateJobs fun row holds accepted => ?_
    simp only [Bool.and_eq_true, decide_eq_true_eq] at holds
    simpa [PrintJob.stateCheck, holds.2] using accepted
  dsimp only [OnlineOrders.cancelUnclaimedJobs, OnlineOrders.preparationStarted]
  infer_instance

instance keepsCancelUnclaimedJobs {orderSessionId : Id} :
    Preserves StorableJobs (OnlineOrders.cancelUnclaimedJobs orderSessionId now) := by
  dsimp only [OnlineOrders.cancelUnclaimedJobs]
  infer_instance

instance cancelPublicRequest :
    Avoids StorableJobs IsStateCheck (OnlineOrders.cancelPublicRequest id now) := by
  dsimp only [OnlineOrders.cancelPublicRequest, OnlineOrders.findRequest, OnlineOrders.notPending,
    OnlineOrders.cancelUnprepared, OnlineOrders.findAcceptedSession,
    OnlineOrders.preparationStarted, OnlineOrders.cancelItems, OnlineOrders.closeCancelled,
    OnlineOrders.changedDuringCancellation, InventoryConsumption.releaseReservations,
    InventoryConsumption.releaseTotal]
  infer_instance

instance cancelAcceptedRequest {noShow : Bool} : Avoids StorableJobs IsStateCheck
    (OnlineOrders.cancelAcceptedRequest id employeeId reason noShow now) := by
  dsimp only [OnlineOrders.cancelAcceptedRequest, OnlineOrders.assertActiveReviewer,
    OnlineOrders.findAcceptedSession, OnlineOrders.cancelItems, OnlineOrders.closeCancelled,
    OnlineOrders.changedDuringCancellation, InventoryConsumption.recordWaste,
    InventoryConsumption.releaseReservations, InventoryConsumption.releaseTotal]
  infer_instance

end Online

end Constraints

end CoffeeShop
