import CoffeeShop.Runs

/-!
The identifiers of print jobs are drawn from the counter.
-/

namespace CoffeeShop

open Transaction PrintStore PrintingService Database

/-- Every job has an identifier under the bound. -/
def PrintStore.Below (bound : Id) (store : PrintStore) : Prop := ∀ job ∈ store.jobs, job.id < bound

/-- The counter is ahead of every job. -/
def Database.JobsDrawn (database : Database) : Prop := database.printing.Below database.nextId

/-- The identifier was drawn, and the counter is ahead of every job. -/
def Database.Drawn (id : Id) (database : Database) : Prop :=
  database.JobsDrawn ∧ id < database.nextId

namespace JobIds

set_option synthInstance.maxSize 100000

variable {α : Type} {bound id employeeId : Id} {now : Timestamp}

instance : Apart (Below bound) printDevice := ⟨fun _ _ => rfl⟩
instance : Apart JobsDrawn inventoryPart := ⟨fun _ _ => rfl⟩
instance : Apart JobsDrawn salesPart := ⟨fun _ _ => rfl⟩
instance : Apart JobsDrawn cashPart := ⟨fun _ _ => rfl⟩
instance : Apart JobsDrawn paymentPart := ⟨fun _ _ => rfl⟩
instance : Apart JobsDrawn stationPart := ⟨fun _ _ => rfl⟩

instance updateJobs {condition : PrintJob → Bool} {change : PrintJob → PrintJob}
    {keeps : ∀ job, (change job).id = job.id} :
    Preserves (Below bound) (updateJobs condition change now keeps) where
  step before result after committed below := by
    intro job membership
    obtain ⟨row, member, same⟩ := exists_before_updateJobs committed membership
    have sameId : job.id = row.id := by
      rw [← same]
      split
      · exact keeps row
      · rfl
    rw [sameId]
    exact below row member

instance updateJob {guard : PrintJob → Bool} {change : PrintJob → PrintJob} {failure : Failure}
    {keeps : ∀ job, (change job).id = job.id} :
    Preserves (Below bound) (updateJob id guard change failure now keeps) := by
  unfold PrintingService.updateJob
  infer_instance

theorem insertJob {job : PrintJob} (drawn : job.id < bound) :
    Preserves (Below bound) (insertJob job) where
  step before result after committed below := by
    obtain ⟨-, -, -, next, inserted, rfl⟩ := commits_insertJob.mp committed
    intro other membership
    rcases (Table.mem_insert? inserted).mp membership with earlier | rfl
    · exact below other earlier
    · exact drawn

instance inPrinting {program : Tx PrintStore Failure α}
    [kept : ∀ bound, Preserves (Below bound) program] :
    Preserves JobsDrawn (printingTx program) where
  step before result after committed drawn := by
    obtain ⟨value, ran, rfl⟩ := commits_printingTx.mp committed
    exact (kept before.nextId).step ran drawn

/-- A program that inserts a job under a drawn identifier. -/
theorem inserting {program : Tx PrintStore Failure α}
    (inserts : ∀ bound, id < bound → Preserves (Below bound) program) :
    Preserves (Drawn id) (printingTx program) where
  step before result after committed drawn := by
    obtain ⟨value, ran, rfl⟩ := commits_printingTx.mp committed
    exact ⟨(inserts before.nextId drawn.2).step ran drawn.1, drawn.2⟩

theorem drawing {next : Id → Transact α} (rest : ∀ id, Preserves (Drawn id) (next id)) :
    Preserves JobsDrawn (freshId >>= next) where
  step before result after committed drawn := by
    obtain ⟨id, middle, fresh, continued⟩ := commits_bind.mp committed
    obtain ⟨rfl, rfl⟩ := commits_freshId.mp fresh
    have ahead : Drawn before.nextId { before with nextId := before.nextId + 1 } := by
      refine ⟨fun job membership => ?_, Nat.lt_succ_self before.nextId⟩
      exact Nat.lt_succ_of_lt (drawn job membership)
    exact ((rest before.nextId).step continued ahead).1

instance : Preserves JobsDrawn freshId where
  step before result after committed drawn := by
    obtain ⟨-, rfl⟩ := commits_freshId.mp committed
    exact fun job membership => Nat.lt_succ_of_lt (drawn job membership)

section Jobs

variable {deviceId jobId leaseToken : Id} {locked : Id → Bool}

instance recoverExpiredJobs {device : Option Id} :
    Preserves (Below bound) (recoverExpiredJobs device locked now) := by
  unfold PrintingService.recoverExpiredJobs
  infer_instance

instance claimJobs {limit : Nat} :
    Preserves (Below bound) (claimJobs deviceId limit locked leaseToken now) := by
  dsimp only [PrintingService.claimJobs]
  infer_instance

instance completeJob : Preserves (Below bound) (completeJob deviceId jobId leaseToken now) := by
  unfold PrintingService.completeJob
  infer_instance

instance failJob {error : String} {outcome : PrintFailureOutcome}
    {cancelledItems : Option Id → List Id} : Preserves (Below bound)
      (failJob deviceId jobId leaseToken error outcome cancelledItems now) := by
  dsimp only [PrintingService.failJob]
  infer_instance

instance retryJob {device : Option (Option Id)} {cancelledItems : Option Id → List Id}
    {releasedAt : Option Id → Timestamp} :
    Preserves (Below bound) (retryJob id device cancelledItems releasedAt now) := by
  dsimp only [PrintingService.retryJob]
  infer_instance

instance resolveJob {outcome : PrintResolution} {expectedUpdatedAt : Timestamp} :
    Preserves (Below bound) (resolveJob id outcome expectedUpdatedAt now) := by
  dsimp only [PrintingService.resolveJob]
  infer_instance

theorem splitJobItems {input : KitchenPrintSplit} {job : PrintJob} (drawn : id < bound) :
    Preserves (Below bound) (splitJobItems input job id now) := by
  have inserts (payload : KitchenPrintPayload) :
      Preserves (Below bound) (PrintingService.insertJob (splitJob input job payload id now)) :=
    insertJob drawn
  dsimp only [PrintingService.splitJobItems, rewriteJob]
  infer_instance

theorem cancelJobItems {orderItemIds : List Id} {reason : String} {job : PrintJob}
    (drawn : id < bound) :
    Preserves (Below bound) (cancelJobItems orderItemIds employeeId reason job id now) := by
  have inserts (payload : KitchenPrintPayload) (items : List KitchenPrintItem) :
      Preserves (Below bound) (PrintingService.insertJob
        (cancellationSlip job payload items employeeId reason id now)) := insertJob drawn
  dsimp only [PrintingService.cancelJobItems, rewriteJob, insertUnlessKnown]
  infer_instance

end Jobs

instance enqueueKitchenTicket {input : KitchenTicketJob} :
    Preserves JobsDrawn (enqueueKitchenTicket input now) := by
  unfold PrintingService.enqueueKitchenTicket
  exact drawing fun id => inserting fun bound drawn => insertJob drawn

instance splitKitchenItems {input : KitchenPrintSplit} :
    Preserves JobsDrawn (splitKitchenItems input now) := by
  have each (job : PrintJob) : Preserves JobsDrawn (do
      let id ← freshId
      printingTx (PrintingService.splitJobItems input job id now)) :=
    drawing fun id => inserting fun bound drawn => splitJobItems drawn
  unfold PrintingService.splitKitchenItems
  infer_instance

instance cancelKitchenItems {orderItemIds : List Id} {reason : String} :
    Preserves JobsDrawn (cancelKitchenItems orderItemIds employeeId reason now) := by
  have each (job : PrintJob) : Preserves JobsDrawn (do
      let id ← freshId
      printingTx (PrintingService.cancelJobItems orderItemIds employeeId reason job id now)) :=
    drawing fun id => inserting fun bound drawn => cancelJobItems drawn
  unfold PrintingService.cancelKitchenItems
  infer_instance

section Service

instance clearDefault {type : PrintDeviceType} {exceptId : Option Id} :
    Preserves (Below bound) (clearDefault type exceptId) := by
  unfold PrintingService.clearDefault
  infer_instance

instance createPrecheck {input : CreatePrecheckInput} :
    Preserves JobsDrawn (createPrecheck employeeId input now) := by
  unfold PrintingService.createPrecheck
  refine Respects.andThen inferInstance fun quote => Respects.andThen inferInstance fun database =>
    drawing fun id => inserting fun bound drawn => ?_
  exact Respects.andThen inferInstance fun deviceId => insertJob drawn

instance reprintReceipt {input : ReprintReceiptInput} :
    Preserves JobsDrawn (reprintReceipt id employeeId input now) := by
  unfold PrintingService.reprintReceipt
  refine Respects.andThen inferInstance fun _ => Respects.andThen inferInstance fun invoice =>
    Respects.andThen inferInstance fun database => drawing fun id => inserting fun bound drawn => ?_
  refine Respects.andThen inferInstance fun uncertain => Respects.andThen inferInstance fun _ =>
    Respects.andThen inferInstance fun deviceId => Respects.andThen inferInstance fun receipts => ?_
  exact insertJob drawn

instance createAutomaticReceipt : Preserves JobsDrawn (createAutomaticReceipt id now) := by
  dsimp only [PrintingService.createAutomaticReceipt]
  refine Respects.andThen inferInstance fun existing => Respects.andThen inferInstance fun database =>
    Respects.whenHolds fun _ => Respects.whenPresent fun invoice _ =>
      drawing fun id => inserting fun bound drawn => ?_
  exact Respects.andThen inferInstance fun deviceId => insertJob drawn

instance printCommand {asked : PrintCommand} : Preserves JobsDrawn (asked.execute now) := by
  cases asked with
  | createPrecheck employeeId input => exact createPrecheck
  | reprintReceipt invoiceId employeeId input => exact reprintReceipt
  | createAutomaticReceipt invoiceId => exact createAutomaticReceipt
  | _ =>
      dsimp only [PrintCommand.execute, PrintingService.createDevice, PrintingService.updateDevice,
        PrintingService.deleteDevice, PrintingService.heartbeat, PrintingService.claim,
        PrintingService.fail, PrintingService.retry, PrintingService.resolve,
        PrintingService.cancelPendingReceiptJobs, PrintingService.assertNoLeases,
        PrintingService.unassignJobs, PrintingService.assignPendingDefaultJobs]
      infer_instance

end Service

section Commands

instance createTicket {catalog : Catalog} {items : List OrderItem} {pickupAt : Option Timestamp}
    {orderSessionId : Id} {station : KitchenStation} : Preserves JobsDrawn
      (KitchenRouting.createTicket catalog orderSessionId items pickupAt now station) := by
  dsimp only [KitchenRouting.createTicket]
  infer_instance

instance cancelUnclaimedJobs {orderSessionId : Id} :
    Preserves JobsDrawn (OnlineOrders.cancelUnclaimedJobs orderSessionId now) := by
  dsimp only [OnlineOrders.cancelUnclaimedJobs]
  infer_instance

instance orderCommand {ordered : OrderCommand} : Preserves JobsDrawn (ordered.execute now) := by
  cases ordered
  all_goals
    dsimp only [OrderCommand.execute, OrdersService.addOrderItems,
      OrdersService.addOrderItemsInTransaction, KitchenRouting.createTickets,
      OrdersService.cancelItem, OrdersService.remakeItem, OrdersService.createRemake,
      OrdersService.cancelSession, OrdersService.splitTable, OrdersService.clearTable]
    infer_instance

instance onlineCommand {ordered : OnlineCommand} : Preserves JobsDrawn (ordered.execute now) := by
  cases ordered
  all_goals
    dsimp only [OnlineCommand.execute, OnlineOrders.accept,
      OrdersService.createOnlineTakeawaySession, OrdersService.addOrderItemsInTransaction,
      KitchenRouting.createTickets, OnlineOrders.cancelPublicRequest,
      OnlineOrders.cancelUnprepared, OnlineOrders.cancelAccepted, OnlineOrders.markNoShow,
      OnlineOrders.cancelAcceptedRequest]
    infer_instance

instance command {command : Command} : Preserves JobsDrawn (command.execute now) := by
  cases command with
  | print asked => exact printCommand
  | order command => exact orderCommand
  | online command => exact onlineCommand
  | inventory command =>
      cases command <;> (dsimp only [Command.execute, InventoryCommand.execute]; infer_instance)
  | cash command =>
      cases command <;> (dsimp only [Command.execute, CashCommand.execute]; infer_instance)
  | invoice command =>
      cases command <;> (dsimp only [Command.execute, InvoiceCommand.execute]; infer_instance)
  | payment command =>
      cases command <;> (dsimp only [Command.execute, PaymentCommand.execute]; infer_instance)
  | table command =>
      cases command <;> (dsimp only [Command.execute, TableCommand.execute]; infer_instance)

end Commands

end JobIds

theorem Reachable.jobsDrawn {database : Database} (reachable : Reachable database) :
    database.JobsDrawn := by
  refine reachable.preserved JobsDrawn ?_ (fun command now => JobIds.command)
    fun _ _ _ drawn => drawn
  exact fun job membership => (Table.not_mem_empty membership).elim

end CoffeeShop
