import CoffeeShop.Footprints
import CoffeeShop.Library.Moves

/-!
What a command can do to a print job.

A job is created pending.  Only a claim hands it out, only a report of its lease holder
or an operator gives it back, and only a retry queues it again after a failure.
Everything else leaves its state or ends it.
-/

namespace CoffeeShop

open Transaction PrintStore PrintingService Database

/-- A change that neither hands the job out nor gives it back. -/
structure PrintJob.Tends (before after : PrintJob) : Prop where
  unprinted : before.status ≠ .printed
  status : after.status = before.status ∨ after.status ≠ .pending ∧ after.status ≠ .failed
  leaseTokenHash : after.leaseTokenHash = before.leaseTokenHash
  attempts : after.attempts = before.attempts
  maxAttempts : after.maxAttempts = before.maxAttempts

/-- A single change of a job under a command; `leaseToken` is the token that a claim draws. -/
inductive JobChange (command : Command) (leaseToken id : Id) : Option PrintJob → Option PrintJob → Prop
  where
  | insert {job : PrintJob} (pending : job.status = .pending)
      (tries : job.attempts < job.maxAttempts) (unleased : job.leaseTokenHash = none) :
      JobChange command leaseToken id none (some job)
  | tend {before after : PrintJob} (tends : before.Tends after) :
      JobChange command leaseToken id (some before) (some after)
  | claim {before after : PrintJob} {deviceId : Id} {limit : Nat} {locked : Id → Bool}
      (asked : command = .print (.claimJobs deviceId limit locked))
      (pending : before.status = .pending) (claimed : after.status = .processing)
      (leased : after.leaseTokenHash = some leaseToken) :
      JobChange command leaseToken id (some before) (some after)
  | report {before after : PrintJob} {deviceId token : Id} {error : String}
      (asked : command = .print (.failJob deviceId id token error .notPrinted))
      (processing : before.status = .processing) (unleased : after.leaseTokenHash = none)
      (tries : after.status = .pending → after.attempts < after.maxAttempts) :
      JobChange command leaseToken id (some before) (some after)
  | retry {before after : PrintJob} {employeeId : Id} {deviceId : Option (Option Id)}
      (asked : command = .print (.retryJob id employeeId deviceId))
      (returned : before.status = .pending ∨ before.status = .failed)
      (kept : after.leaseTokenHash = before.leaseTokenHash)
      (tries : after.attempts < after.maxAttempts) :
      JobChange command leaseToken id (some before) (some after)
  | resolve {before after : PrintJob} {employeeId : Id} {outcome : PrintResolution}
      {expectedUpdatedAt : Timestamp}
      (asked : command = .print (.resolveJob id employeeId outcome expectedUpdatedAt))
      (reviewed : before.status = .requiresReview) (unleased : after.leaseTokenHash = none)
      (resolved : after.status = if outcome = .printed then .printed else .failed) :
      JobChange command leaseToken id (some before) (some after)

/-- The constraints of the table. -/
def PrintJob.isStorable (job : PrintJob) : Bool := job.stateCheck && job.valuesCheck

/-- A change to a job that the table accepts. -/
structure JobMove (command : Command) (leaseToken id : Id) (before after : Option PrintJob) : Prop
    where
  change : JobChange command leaseToken id before after
  storable : after.all (·.isStorable) = true

/-- The jobs make only moves of the command. -/
abbrev MovesJobs (command : Command) (leaseToken : Id) {α : Type}
    (program : Tx PrintStore Failure α) : Prop :=
  Respects (On jobs (Moves (JobMove command leaseToken))) program

abbrev MovesPrintJobs (command : Command) (leaseToken : Id) {α : Type}
    (program : Transact α) : Prop :=
  Respects (On printing (On jobs (Moves (JobMove command leaseToken)))) program

instance : Apart jobs printDevice := ⟨fun _ _ => rfl⟩

set_option synthInstance.maxSize 100000

namespace JobMoves

section Statements

variable {command : Command} {now : Timestamp} {leaseToken : Id}
variable {condition : PrintJob → Bool} {change : PrintJob → PrintJob}
variable {keeps : ∀ job, (change job).id = job.id}

theorem updateJobs_moves {before after : PrintStore} {count : Nat}
    (committed : Commits (updateJobs condition change now keeps) before count after)
    (moved : ∀ row ∈ before.jobs, condition row = true →
      (touched now change row).valuesCheck = true →
      JobChange command leaseToken row.id (some row) (some (touched now change row))) :
    Moves (JobMove command leaseToken) before.jobs after.jobs := by
  obtain ⟨-, rfl, states, values⟩ := commits_updateJobs.mp committed
  refine Moves.update (touched_id now keeps) fun row membership holds => ?_
  have updated := find?_updateJobs committed row.id
  rw [Table.find?_of_mem membership, Option.map_some, if_pos holds] at updated
  have member := Table.mem_of_find? updated
  exact {
    change := moved row membership holds (values _ member)
    storable := by simp [PrintJob.isStorable, states _ member, values _ member] }

theorem updateJob_moves {id : Id} {guard : PrintJob → Bool} {failure : Failure}
    {before after : PrintStore} {result : Unit}
    (committed : Commits (updateJob id guard change failure now keeps) before result after)
    (moved : ∀ row ∈ before.jobs, row.id = id → guard row = true →
      (touched now change row).valuesCheck = true →
      JobChange command leaseToken row.id (some row) (some (touched now change row))) :
    Moves (JobMove command leaseToken) before.jobs after.jobs := by
  obtain ⟨count, _, updated, checked⟩ := commits_bind.mp committed
  obtain ⟨-, rfl⟩ := commits_require.mp checked
  refine updateJobs_moves updated fun row membership holds => ?_
  simp only [Bool.and_eq_true, decide_eq_true_eq] at holds
  exact moved row membership holds.1 holds.2

theorem tends_updateJobs
    (tends : ∀ row, condition row = true → row.Tends (touched now change row)) :
    MovesJobs command leaseToken (updateJobs condition change now keeps) where
  step _ _ _ committed :=
    updateJobs_moves committed fun row _ holds _ => .tend (tends row holds)

theorem tends_updateJob {id : Id} {guard : PrintJob → Bool} {failure : Failure}
    (tends : ∀ row, guard row = true → row.Tends (touched now change row)) :
    MovesJobs command leaseToken (updateJob id guard change failure now keeps) := by
  have updates : MovesJobs command leaseToken
      (updateJobs (fun job => job.id = id && guard job) change now keeps) := by
    refine tends_updateJobs fun row holds => tends row ?_
    simp only [Bool.and_eq_true] at holds
    exact holds.2
  unfold updateJob
  infer_instance

theorem insertJob_moves {job : PrintJob} (pending : job.stateCheck = true → job.status = .pending)
    (untried : job.attempts = 0) (unleased : job.leaseTokenHash = none) :
    MovesJobs command leaseToken (insertJob job) where
  step before result after committed := by
    obtain ⟨states, values, -, next, inserted, rfl⟩ := commits_insertJob.mp committed
    have storable : job.isStorable = true := by simp [PrintJob.isStorable, states, values]
    simp only [PrintJob.valuesCheck, Bool.and_eq_true, decide_eq_true_eq] at values
    refine Moves.insert inserted ⟨.insert (pending states) ?_ unleased, storable⟩
    rw [untried]
    exact values.1.2

/-- The candidates are rows of the list. -/
theorem exists_candidate {rows : List PrintJob} {order : PrintJob → PrintJob → Bool} {limit : Nat}
    {locked : Id → Bool} {id : Id} (membership : id ∈ candidates rows order limit locked) :
    ∃ job ∈ rows, job.id = id := by
  obtain ⟨job, taken, same⟩ := List.mem_map.mp membership
  have sorted := List.mem_of_mem_take taken
  have filtered := (List.mem_insertionSort _).mp sorted
  exact ⟨job, (List.mem_filter.mp filtered).1, same⟩

/-- A candidate of a selection satisfies its condition. -/
theorem of_mem_candidates {table : Table PrintJob.id} {selected : PrintJob → Bool}
    {order : PrintJob → PrintJob → Bool} {limit : Nat} {locked : Id → Bool} {row : PrintJob}
    (member : row ∈ table)
    (chosen : row.id ∈ candidates (table.select selected) order limit locked) :
    selected row = true := by
  obtain ⟨job, inSelection, same⟩ := exists_candidate chosen
  obtain ⟨inTable, holds⟩ := Table.mem_select.mp inSelection
  rw [Table.eq_of_key_eq member inTable same.symm]
  exact holds

instance recoverExpiredJobs {deviceId : Option Id} {locked : Id → Bool} :
    MovesJobs command leaseToken (recoverExpiredJobs deviceId locked now) where
  step before result after committed := by
    obtain ⟨_, _, found, _, _, updated, final⟩ := by
      simpa only [PrintingService.recoverExpiredJobs, commits_bind] using committed
    obtain ⟨rfl, rfl⟩ := commits_findMany.mp found
    obtain ⟨-, rfl⟩ := commits_pure.mp final
    refine updateJobs_moves updated fun row membership holds _ => ?_
    have expired := of_mem_candidates membership (of_decide_eq_true holds)
    simp only [isExpired, Bool.and_eq_true, decide_eq_true_eq] at expired
    exact .tend {
      unprinted := by simp [expired.1.1]
      status := .inr (by simp [touched])
      leaseTokenHash := rfl
      attempts := rfl
      maxAttempts := rfl }

instance completeJob {deviceId jobId token : Id} :
    MovesJobs command leaseToken (completeJob deviceId jobId token now) := by
  unfold PrintingService.completeJob
  refine Respects.andThen (tends_updateJobs fun row holds => ?_) fun _ => inferInstance
  simp only [Bool.and_eq_true, Bool.or_eq_true, decide_eq_true_eq] at holds
  exact {
    unprinted := by rcases holds.2 with processing | review <;> simp [*]
    status := .inr (by simp [touched])
    leaseTokenHash := rfl
    attempts := rfl
    maxAttempts := rfl }

/-- A pending job that gets another device, another payload or is cancelled. -/
theorem tends_of_pending {row after : PrintJob} (pending : row.status = .pending)
    (status : after.status = .pending ∨ after.status = .cancelled)
    (leaseTokenHash : after.leaseTokenHash = row.leaseTokenHash)
    (attempts : after.attempts = row.attempts) (maxAttempts : after.maxAttempts = row.maxAttempts) :
    row.Tends after where
  unprinted := by simp [pending]
  status := by
    rcases status with same | cancelled
    · exact .inl (same.trans pending.symm)
    · exact .inr (by simp [cancelled])
  leaseTokenHash := leaseTokenHash
  attempts := attempts
  maxAttempts := maxAttempts

instance cancelPendingReceiptJobs {invoiceId : Id} :
    MovesJobs command leaseToken (cancelPendingReceiptJobs invoiceId now) := by
  unfold PrintingService.cancelPendingReceiptJobs
  refine Respects.andThen (tends_updateJobs fun row holds => ?_) fun _ => inferInstance
  simp only [Bool.and_eq_true, decide_eq_true_eq] at holds
  exact tends_of_pending holds.2 (.inr rfl) rfl rfl rfl

instance assignPendingDefaultJobs {deviceId : Id} :
    MovesJobs command leaseToken (assignPendingDefaultJobs deviceId now) := by
  unfold PrintingService.assignPendingDefaultJobs
  refine Respects.andThen (tends_updateJobs fun row holds => ?_) fun _ => inferInstance
  simp only [Bool.and_eq_true, decide_eq_true_eq] at holds
  exact tends_of_pending holds.1.2 (.inl holds.1.2) rfl rfl rfl

instance unassignJobs {deviceId : Id} :
    MovesJobs command leaseToken (unassignJobs deviceId now) := by
  unfold PrintingService.unassignJobs
  refine Respects.andThen (tends_updateJobs fun row holds => ?_) fun _ => inferInstance
  simp only [Bool.and_eq_true, decide_eq_true_eq] at holds
  exact tends_of_pending holds.2 (.inl holds.2) rfl rfl rfl

instance assertNoLeases {deviceId : Id} {message : String} {locked : Id → Bool} :
    MovesJobs command leaseToken (assertNoLeases deviceId message locked now) := by
  unfold PrintingService.assertNoLeases
  infer_instance

instance clearDefault {type : PrintDeviceType} {exceptId : Option Id} :
    MovesJobs command leaseToken (clearDefault type exceptId) := by
  unfold PrintingService.clearDefault
  infer_instance

instance insertUnlessKnown {job : PrintJob} [MovesJobs command leaseToken (insertJob job)] :
    MovesJobs command leaseToken (insertUnlessKnown job) := by
  unfold PrintingService.insertUnlessKnown
  infer_instance

end Statements

section Kitchen

variable {command : Command} {now : Timestamp} {leaseToken : Id}
variable {input : KitchenPrintSplit} {job : PrintJob} {id : Id}

instance enqueueKitchenTicket {input : KitchenTicketJob} :
    MovesPrintJobs command leaseToken (enqueueKitchenTicket input now) := by
  unfold PrintingService.enqueueKitchenTicket
  refine Respects.andThen inferInstance fun id => ?_
  exact Respects.inPrinting (insertJob_moves (fun _ => rfl) rfl rfl)

theorem rewriteJob_moves {change : PrintJob → PrintJob} {failure : Failure}
    {keeps : ∀ job, (change job).id = job.id} (unprinted : isUnprinted job = true)
    (status : ∀ row, row.status = job.status →
      (change row).status = row.status ∨ (change row).status = .cancelled)
    (leaseTokenHash : ∀ row, (change row).leaseTokenHash = row.leaseTokenHash)
    (attempts : ∀ row, (change row).attempts = row.attempts)
    (maxAttempts : ∀ row, (change row).maxAttempts = row.maxAttempts) :
    MovesJobs command leaseToken (rewriteJob job change failure now keeps) := by
  unfold rewriteJob
  refine tends_updateJob fun row holds => ?_
  simp only [Bool.and_eq_true, decide_eq_true_eq] at holds
  simp only [isUnprinted, Bool.or_eq_true, decide_eq_true_eq] at unprinted
  exact {
    unprinted := by
      rw [holds.1]
      rcases unprinted with pending | failed <;> simp [*]
    status := by
      rcases status row holds.1 with same | cancelled
      · exact .inl same
      · exact .inr (by simp [touched, cancelled])
    leaseTokenHash := leaseTokenHash row
    attempts := attempts row
    maxAttempts := maxAttempts row }

/-- The part of a divided job is pending: a failed job has no part that can be stored. -/
theorem splitJob_moves {payload : KitchenPrintPayload} (unprinted : isUnprinted job = true) :
    MovesJobs command leaseToken (insertJob (splitJob input job payload id now)) := by
  refine insertJob_moves (fun states => ?_) rfl rfl
  simp only [isUnprinted, Bool.or_eq_true, decide_eq_true_eq] at unprinted
  rcases unprinted with pending | failed
  · exact pending
  · simp [PrintJob.stateCheck, splitJob, failed] at states

instance splitJobItems :
    MovesJobs command leaseToken (splitJobItems input job id now) := by
  unfold PrintingService.splitJobItems
  split
  · infer_instance
  · refine Respects.andThen inferInstance fun payload => ?_
    refine Respects.andThen inferInstance fun _ => ?_
    refine Respects.whenHolds fun _ => Respects.requireThen fun unprinted => ?_
    refine Respects.andThen ?_ fun _ => splitJob_moves unprinted
    exact rewriteJob_moves unprinted (fun _ _ => .inl rfl) (fun _ => rfl) (fun _ => rfl)
      fun _ => rfl

instance cancelJobItems {orderItemIds : List Id} {employeeId : Id} {reason : String} :
    MovesJobs command leaseToken (cancelJobItems orderItemIds employeeId reason job id now) := by
  unfold PrintingService.cancelJobItems
  split
  · infer_instance
  · refine Respects.andThen inferInstance fun payload => ?_
    refine Respects.whenHolds fun _ => ?_
    split
    next unprinted =>
      refine rewriteJob_moves unprinted (fun row _ => ?_) (fun _ => rfl) (fun _ => rfl) fun _ => rfl
      split
      · exact .inr rfl
      · exact .inl rfl
    next =>
      have slip : MovesJobs command leaseToken (insertJob (cancellationSlip job payload
          (payload.items.filter fun item => item.orderItemId ∈ orderItemIds) employeeId reason id
          now)) := insertJob_moves (fun _ => rfl) rfl rfl
      infer_instance

instance splitKitchenItems :
    MovesPrintJobs command leaseToken (splitKitchenItems input now) := by
  unfold PrintingService.splitKitchenItems
  infer_instance

instance cancelKitchenItems {orderItemIds : List Id} {employeeId : Id} {reason : String} :
    MovesPrintJobs command leaseToken
      (cancelKitchenItems orderItemIds employeeId reason now) := by
  unfold PrintingService.cancelKitchenItems
  infer_instance

instance cancelUnclaimedJobs {orderSessionId : Id} :
    MovesPrintJobs command leaseToken
      (OnlineOrders.cancelUnclaimedJobs orderSessionId now) := by
  unfold OnlineOrders.cancelUnclaimedJobs
  refine Respects.andThen inferInstance fun database => ?_
  refine Respects.andThen inferInstance fun jobs => ?_
  refine Respects.andThen inferInstance fun _ => ?_
  refine Respects.inPrinting (Respects.andThen (tends_updateJobs fun row holds => ?_)
    fun _ => inferInstance)
  simp only [Bool.and_eq_true, decide_eq_true_eq] at holds
  exact tends_of_pending holds.2 (.inr rfl) rfl rfl rfl

end Kitchen

section Agents

variable {now : Timestamp} {leaseToken : Id} {before after : PrintStore}

theorem claimJobs_moves {deviceId : Id} {limit : Nat} {locked : Id → Bool} {jobs : List PrintJob}
    (committed : Commits (claimJobs deviceId limit locked leaseToken now) before jobs after) :
    Moves (JobMove (.print (.claimJobs deviceId limit locked)) leaseToken) before.jobs
      after.jobs := by
  simp only [claimJobs, commits_bind, commits_findUnique, commits_require, commits_findMany]
    at committed
  obtain ⟨_, _, ⟨-, rfl⟩, _, _, ⟨-, rfl⟩, _, middle, recovered, _, _, ⟨rfl, rfl⟩, _, _, updated, -,
    rfl⟩ := committed
  have recovery : Moves (JobMove (.print (.claimJobs deviceId limit locked)) leaseToken) _ _ :=
    recoverExpiredJobs.step recovered
  refine IsTrans.trans _ _ _ recovery (updateJobs_moves updated fun row membership holds _ => ?_)
  have claimable := of_mem_candidates membership (of_decide_eq_true holds)
  simp only [isClaimable, Bool.and_eq_true, decide_eq_true_eq] at claimable
  exact .claim rfl claimable.1.1.2 rfl rfl

theorem failJob_moves {deviceId jobId token : Id} {error : String} {outcome : PrintFailureOutcome}
    {cancelledItems : Option Id → List Id}
    (committed : Commits (failJob deviceId jobId token error outcome cancelledItems now) before ()
      after) :
    Moves (JobMove (.print (.failJob deviceId jobId token error outcome)) leaseToken)
      before.jobs after.jobs := by
  obtain ⟨job, _, found, updated⟩ := commits_bind.mp committed
  obtain ⟨first, rfl⟩ := commits_findFirstOrFail.mp found
  obtain ⟨membership, holds⟩ := Table.mem_of_first? first
  simp only [Bool.and_eq_true, decide_eq_true_eq] at holds
  obtain ⟨⟨leased, processing⟩, current⟩ := holds
  have sameId : job.id = jobId := by
    simp only [isLeased, Bool.and_eq_true, decide_eq_true_eq] at leased
    exact leased.1.1
  refine updateJob_moves updated fun row member same guard values => ?_
  obtain rfl : row = job := Table.eq_of_key_eq member membership same
  subst sameId
  cases outcome with
  | unknown =>
      exact .tend {
        unprinted := by simp [processing]
        status := .inr (by simp [touched])
        leaseTokenHash := by simp [touched]
        attempts := rfl
        maxAttempts := rfl }
  | notPrinted =>
      refine .report rfl processing ?_ ?_
      · simp [touched]
      · simp only [touched]
        intro pending
        by_contra exhausted
        simp [Nat.not_lt.mp exhausted] at pending
        split_ifs at pending

theorem retryJob_moves {id employeeId : Id} {deviceId : Option (Option Id)}
    {cancelledItems : Option Id → List Id} {releasedAt : Option Id → Timestamp}
    (committed : Commits (retryJob id deviceId cancelledItems releasedAt now) before () after) :
    Moves (JobMove (.print (.retryJob id employeeId deviceId)) leaseToken)
      before.jobs after.jobs := by
  simp only [retryJob, commits_bind, commits_findUniqueOrFail, commits_require] at committed
  obtain ⟨job, _, ⟨found, rfl⟩, _, _, ⟨-, rfl⟩, _, _, ⟨returned, rfl⟩, _, _, checked, _, _,
    ⟨-, rfl⟩, updated⟩ := committed
  obtain rfl := Table.find?_key found
  cases Respects.step (R := Eq) checked
  refine updateJob_moves updated fun row member sameId guard values => ?_
  obtain rfl : row = job := Table.eq_of_key_eq member (Table.mem_of_find? found) sameId
  refine .retry rfl returned rfl ?_
  simp only [PrintJob.valuesCheck, Bool.and_eq_true, decide_eq_true_eq] at values
  exact values.1.2

theorem resolveJob_moves {id employeeId : Id} {outcome : PrintResolution}
    {expectedUpdatedAt : Timestamp}
    (committed : Commits (resolveJob id outcome expectedUpdatedAt now) before () after) :
    Moves (JobMove (.print (.resolveJob id employeeId outcome expectedUpdatedAt)) leaseToken)
      before.jobs after.jobs := by
  simp only [resolveJob, commits_bind, commits_findUniqueOrFail, commits_require] at committed
  obtain ⟨job, _, ⟨found, rfl⟩, _, _, ⟨reviewed, rfl⟩, _, _, ⟨-, rfl⟩, updated⟩ := committed
  obtain rfl := Table.find?_key found
  refine updateJob_moves updated fun row member sameId guard values => ?_
  obtain rfl : row = job := Table.eq_of_key_eq member (Table.mem_of_find? found) sameId
  exact .resolve rfl reviewed.1 rfl rfl

end Agents

section Service

variable {command : Command} {now : Timestamp} {leaseToken id employeeId : Id}

instance createDevice {input : CreatePrintDeviceInput} :
    MovesPrintJobs command leaseToken (createDevice employeeId input now) := by
  dsimp only [PrintingService.createDevice]
  infer_instance

instance updateDevice {input : UpdatePrintDeviceInput} {locked : Id → Bool} :
    MovesPrintJobs command leaseToken (updateDevice id employeeId input locked now) := by
  dsimp only [PrintingService.updateDevice]
  infer_instance

instance deleteDevice {locked : Id → Bool} :
    MovesPrintJobs command leaseToken (deleteDevice id employeeId locked now) := by
  dsimp only [PrintingService.deleteDevice]
  infer_instance

instance heartbeat {input : PrintAgentHeartbeatInput} :
    MovesJobs command leaseToken (heartbeat id input now) := by
  dsimp only [PrintingService.heartbeat]
  infer_instance

instance createPrecheck {input : CreatePrecheckInput} :
    MovesPrintJobs command leaseToken (createPrecheck employeeId input now) := by
  unfold PrintingService.createPrecheck
  refine Respects.andThen inferInstance fun quote => Respects.andThen inferInstance fun database =>
    Respects.andThen inferInstance fun id => Respects.inPrinting ?_
  refine Respects.andThen inferInstance fun deviceId => ?_
  exact insertJob_moves (fun _ => rfl) rfl rfl

instance reprintReceipt {input : ReprintReceiptInput} :
    MovesPrintJobs command leaseToken (reprintReceipt id employeeId input now) := by
  unfold PrintingService.reprintReceipt
  refine Respects.andThen inferInstance fun _ => Respects.andThen inferInstance fun invoice =>
    Respects.andThen inferInstance fun database => Respects.andThen inferInstance fun id =>
      Respects.inPrinting ?_
  refine Respects.andThen inferInstance fun uncertain => Respects.andThen inferInstance fun _ =>
    Respects.andThen inferInstance fun deviceId => Respects.andThen inferInstance fun receipts => ?_
  exact insertJob_moves (fun _ => rfl) rfl rfl

instance createAutomaticReceipt :
    MovesPrintJobs command leaseToken (createAutomaticReceipt id now) := by
  dsimp only [PrintingService.createAutomaticReceipt]
  refine Respects.andThen inferInstance fun existing => Respects.andThen inferInstance fun database =>
    Respects.whenHolds fun _ => Respects.whenPresent fun invoice _ => ?_
  refine Respects.andThen inferInstance fun id => Respects.inPrinting ?_
  exact Respects.andThen inferInstance fun deviceId => insertJob_moves (fun _ => rfl) rfl rfl

end Service

section Commands

variable {command : Command} {now : Timestamp} {leaseToken : Id}

instance createTicket {catalog : Catalog} {items : List OrderItem} {pickupAt : Option Timestamp}
    {orderSessionId : Id} {station : KitchenStation} : MovesPrintJobs command leaseToken
      (KitchenRouting.createTicket catalog orderSessionId items pickupAt now station) := by
  dsimp only [KitchenRouting.createTicket]
  infer_instance

instance orderCommand {ordered : OrderCommand} :
    MovesPrintJobs command leaseToken (ordered.execute now) := by
  cases ordered
  all_goals
    dsimp only [OrderCommand.execute, OrdersService.addOrderItems,
      OrdersService.addOrderItemsInTransaction, KitchenRouting.createTickets,
      OrdersService.cancelItem, OrdersService.remakeItem, OrdersService.createRemake,
      OrdersService.cancelSession, OrdersService.splitTable, OrdersService.clearTable]
    infer_instance

instance onlineCommand {ordered : OnlineCommand} :
    MovesPrintJobs command leaseToken (ordered.execute now) := by
  cases ordered
  all_goals
    dsimp only [OnlineCommand.execute, OnlineOrders.accept,
      OrdersService.createOnlineTakeawaySession, OrdersService.addOrderItemsInTransaction,
      KitchenRouting.createTickets, OnlineOrders.cancelPublicRequest,
      OnlineOrders.cancelUnprepared, OnlineOrders.cancelAccepted, OnlineOrders.markNoShow,
      OnlineOrders.cancelAcceptedRequest]
    infer_instance

/-- A claim draws the next identifier as its token. -/
theorem printCommand {asked : PrintCommand} {before after : Database}
    (committed : Commits (asked.execute now) before () after) :
    Moves (JobMove (.print asked) before.nextId) before.printing.jobs after.printing.jobs := by
  have others (moves : MovesPrintJobs (.print asked) before.nextId (asked.execute now)) :
      Moves (JobMove (.print asked) before.nextId) before.printing.jobs after.printing.jobs :=
    moves.step committed
  cases asked with
  | claimJobs deviceId limit locked =>
      obtain ⟨leaseToken, _, drawn, rest⟩ := commits_bind.mp committed
      obtain ⟨rfl, rfl⟩ := commits_freshId.mp drawn
      obtain ⟨jobs, _, claimed, final⟩ := commits_bind.mp rest
      obtain ⟨value, ran, rfl⟩ := commits_printingTx.mp claimed
      obtain ⟨-, rfl⟩ := commits_pure.mp final
      exact claimJobs_moves ran
  | failJob deviceId jobId leaseToken error outcome =>
      obtain ⟨database, _, read, failed⟩ := commits_bind.mp committed
      obtain ⟨rfl, rfl⟩ := commits_get.mp read
      obtain ⟨value, ran, rfl⟩ := commits_printingTx.mp failed
      exact failJob_moves ran
  | retryJob id employeeId deviceId =>
      obtain ⟨_, _, checked, rest⟩ := commits_bind.mp committed
      cases Respects.step (R := Eq) checked
      obtain ⟨database, _, read, retried⟩ := commits_bind.mp rest
      obtain ⟨rfl, rfl⟩ := commits_get.mp read
      obtain ⟨value, ran, rfl⟩ := commits_printingTx.mp retried
      exact retryJob_moves ran
  | resolveJob id employeeId outcome expectedUpdatedAt =>
      obtain ⟨_, _, checked, resolved⟩ := commits_bind.mp committed
      cases Respects.step (R := Eq) checked
      obtain ⟨value, ran, rfl⟩ := commits_printingTx.mp resolved
      exact resolveJob_moves ran
  | _ => exact others (by dsimp only [PrintCommand.execute]; infer_instance)

end Commands

end JobMoves

/-- Every command moves the jobs as `JobMove` allows. -/
theorem Command.moves_jobs {command : Command} {now : Timestamp} {before after : Database}
    (committed : Commits (command.execute now) before () after) :
    Moves (JobMove command before.nextId) before.printing.jobs after.printing.jobs := by
  have others (moves : MovesPrintJobs command before.nextId (command.execute now)) :
      Moves (JobMove command before.nextId) before.printing.jobs after.printing.jobs :=
    moves.step committed
  cases command with
  | print asked => exact JobMoves.printCommand committed
  | order command => exact others JobMoves.orderCommand
  | online command => exact others JobMoves.onlineCommand
  | inventory command =>
      apply others
      cases command <;> (dsimp only [Command.execute, InventoryCommand.execute]; infer_instance)
  | cash command =>
      apply others
      cases command <;> (dsimp only [Command.execute, CashCommand.execute]; infer_instance)
  | invoice command =>
      apply others
      cases command <;> (dsimp only [Command.execute, InvoiceCommand.execute]; infer_instance)
  | payment command =>
      apply others
      cases command <;> (dsimp only [Command.execute, PaymentCommand.execute]; infer_instance)
  | table command =>
      apply others
      cases command <;> (dsimp only [Command.execute, TableCommand.execute]; infer_instance)

/-- The table accepts the job, and an agent may still try a pending one. -/
def PrintJob.Queued (job : PrintJob) : Prop :=
  job.isStorable = true ∧ (job.status = .pending → job.attempts < job.maxAttempts)

/-- A change leaves a job that an agent may try if it is pending. -/
theorem JobMove.queued {command : Command} {leaseToken id : Id} {before after : Option PrintJob}
    (moved : JobMove command leaseToken id before after) (queued : ∀ job ∈ before, job.Queued) :
    ∀ job ∈ after, job.Queued := by
  rintro job rfl
  refine ⟨by simpa using moved.storable, fun pending => ?_⟩
  cases moved.change with
  | insert _ tries => exact tries
  | tend tends =>
      rw [tends.attempts, tends.maxAttempts]
      rcases tends.status with same | ⟨other, -⟩
      · exact (queued _ rfl).2 (same ▸ pending)
      · exact absurd pending other
  | claim _ _ claimed => simp [claimed] at pending
  | report _ _ _ tries => exact tries pending
  | retry _ _ _ tries => exact tries
  | @resolve _ _ _ outcome _ _ _ _ resolved => cases outcome <;> simp [resolved] at pending

theorem Reachable.queued {database : Database} (reachable : Reachable database) :
    ∀ job ∈ database.printing.jobs, job.Queued := by
  have rows : ∀ id, ∀ job ∈ database.printing.jobs.find? id, job.Queued := by
    refine reachable.invariant
      (fun database => ∀ id, ∀ job ∈ database.printing.jobs.find? id, job.Queued)
      (fun id job found => nomatch found) fun before after _ taken queued id => ?_
    cases taken with
    | commit command now committed =>
        have moves := Command.moves_jobs committed
        exact moves.holds (P := fun found => ∀ job ∈ found, job.Queued)
          (fun first second moved holds => moved.queued holds) (queued id)
    | administer catalog reservations => exact queued id
  intro job membership
  exact rows job.id job (Table.find?_of_mem membership)

end CoffeeShop
